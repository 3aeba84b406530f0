import ResourceKernel.Text.Hex
import ResourceKernel.Yaml.Spot

/-!
# Plain and quoted scalars

The words of a plain or quoted scalar may stand on several lines. A single line break between
words becomes a blank, and of several ones all but the first are kept.
-/

namespace ResourceKernel.Yaml

open Text

/-- What stands between two words: blanks in a line, or line breaks. -/
inductive Gap
  | blanks (cs : List Char)
  | breaks (first : List Char) (more : List Char)

namespace Gap

def none : Gap := .blanks []

def isEmpty : Gap → Bool
  | .blanks cs => cs.isEmpty
  | .breaks _ _ => false

def hasBreak : Gap → Bool
  | .blanks _ => false
  | .breaks _ _ => true

/-- The gap with one more blank. Blanks around line breaks do not count. -/
def blank (c : Char) : Gap → Gap
  | .blanks cs => .blanks (cs ++ [c])
  | .breaks first more => .breaks first more

def newline (c : Char) : Gap → Gap
  | .blanks _ => .breaks [c] []
  | .breaks first more => .breaks first (more ++ [c])

def text : Gap → List Char
  | .blanks cs => cs
  | .breaks ['\n'] [] => [' ']
  | .breaks ['\n'] more => more
  | .breaks first more => first ++ more

end Gap

/-! ## Plain scalars -/

structure Plain where
  chars : List Char
  /-- Whether line breaks come after it. -/
  endsLine : Bool
  rest : List Spot

/-- Whether a character with what follows it ends a plain scalar. -/
def endsPlain (inFlow : Bool) (c : Char) (rest : List Spot) : Bool :=
  (c == ':' && atGap rest) || (inFlow && ",[]\x7b\x7d".toList.contains c)

/-- Whether a colon with what follows it cannot stand in a plain scalar. -/
def isStrayColon (inFlow : Bool) (c : Char) : List Spot → Bool
  | [] => false
  | s :: _ => inFlow && c == ':' && ",?[]\x7b\x7d".toList.contains s.char

/-- Reads a plain scalar after `done`, where `gap` comes next. Lines that go on with it are indented
by `indent` at least. -/
def readPlain (inFlow : Bool) (indent : Nat) (done : List Char) (gap : Gap) :
    List Spot → Option Plain
  | [] => some ⟨done.reverse, gap.hasBreak, []⟩
  | s :: rest =>
      if isBlank s.char then
        if gap.hasBreak && s.column < indent && s.char == '\t' then none
        else readPlain inFlow indent done (gap.blank s.char) rest
      else if isBreak s.char then readPlain inFlow indent done (gap.newline s.char) rest
      else if !gap.isEmpty &&
          ((!inFlow && s.column < indent) || atBoundary (s :: rest) || s.char == '#') then
        some ⟨done.reverse, gap.hasBreak, s :: rest⟩
      else if isStrayColon inFlow s.char rest then none
      else if endsPlain inFlow s.char rest then
        some ⟨done.reverse, gap.hasBreak, s :: rest⟩
      else readPlain inFlow indent (s.char :: (gap.text.reverse ++ done)) .none rest

/-! ## Quoted scalars -/

def escaped? (c : Char) : Option Char :=
  if c = '0' then some (Char.ofNat 0)
  else if c = 'a' then some (Char.ofNat 7)
  else if c = 'b' then some (Char.ofNat 8)
  else if c = 't' ∨ c = '\t' then some '\t'
  else if c = 'n' then some '\n'
  else if c = 'v' then some (Char.ofNat 11)
  else if c = 'f' then some (Char.ofNat 12)
  else if c = 'r' then some '\r'
  else if c = 'e' then some (Char.ofNat 27)
  else if c = ' ' ∨ c = '"' ∨ c = '/' ∨ c = '\\' then some c
  else if c = 'N' then some '\u0085'
  else if c = '_' then some '\u00A0'
  else if c = 'L' then some '\u2028'
  else if c = 'P' then some '\u2029'
  else none

def codeLength? (c : Char) : Option Nat :=
  if c = 'x' then some 2 else if c = 'u' then some 4 else if c = 'U' then some 8 else none

def charOf? (code : Nat) : Option Char :=
  if (0xD800 ≤ code ∧ code ≤ 0xDFFF) ∨ 0x10FFFF < code then none else some (Char.ofNat code)

/-- What has just been read inside quotes. -/
inductive QuotedState
  | text
  /-- A single quote, which ends the scalar unless another follows. -/
  | quote
  | backslash
  /-- Some digits of a code, of which `left + 1` are still to come. -/
  | code (left value : Nat)

/-- Reads a quoted scalar after `done`, where `gap` comes next. -/
def readQuoted (single : Bool) (done : List Char) (gap : Gap) :
    QuotedState → List Spot → Option (List Char × List Spot)
  | .quote, [] => some (done.reverse, [])
  | _, [] => none
  | .quote, s :: rest =>
      if s.char = '\'' then readQuoted single ('\'' :: done) .none .text rest
      else some (done.reverse, s :: rest)
  | .backslash, s :: rest =>
      if isBreak s.char then readQuoted single done (.breaks [] []) .text rest
      else
        match codeLength? s.char, escaped? s.char with
        | some length, _ => readQuoted single done .none (.code (length - 1) 0) rest
        | none, some c => readQuoted single (c :: done) .none .text rest
        | none, none => none
  | .code left value, s :: rest =>
      match Hex.value? s.char, left with
      | none, _ => none
      | some d, left + 1 => readQuoted single done .none (.code left (value * 16 + d)) rest
      | some d, 0 =>
          match charOf? (value * 16 + d) with
          | some c => readQuoted single (c :: done) .none .text rest
          | none => none
  | .text, s :: rest =>
      if atBoundary (s :: rest) then none
      else if isBlank s.char then readQuoted single done (gap.blank s.char) .text rest
      else if isBreak s.char then readQuoted single done (gap.newline s.char) .text rest
      else
        let done := gap.text.reverse ++ done
        if single then
          if s.char = '\'' then readQuoted single done .none .quote rest
          else readQuoted single (s.char :: done) .none .text rest
        else if s.char = '"' then some (done.reverse, rest)
        else if s.char = '\\' then readQuoted single done .none .backslash rest
        else readQuoted single (s.char :: done) .none .text rest

end ResourceKernel.Yaml
