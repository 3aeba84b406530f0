import ResourceKernel.Text.Decimal
import ResourceKernel.Yaml.Spot

/-!
# Block scalars

A block scalar is a header and the lines after it that are indented. Literal scalars keep their
line breaks, and folded ones turn a line break between two lines of text into a blank.
-/

namespace ResourceKernel.Yaml

open Text

inductive Chomping
  | strip
  | clip
  | keep
  deriving DecidableEq, Repr

structure BlockHeader where
  chomping : Chomping
  /-- By how much the lines are indented, if it is said. -/
  increment : Option Nat

def chompingOf? (c : Char) : Option Chomping :=
  if c = '+' then some .keep else if c = '-' then some .strip else none

/-- An increment, if a digit comes next. It must not be zero. -/
def readIncrement : List Spot → Option (Option Nat × List Spot)
  | [] => some (none, [])
  | s :: rest =>
      if Decimal.isDigit s.char then
        if s.char = '0' then none else some (some (Decimal.digitValue s.char), rest)
      else some (none, s :: rest)

/-- The indicators in either order. -/
def readIndicators : List Spot → Option (BlockHeader × List Spot)
  | [] => some (⟨.clip, none⟩, [])
  | s :: rest =>
      match chompingOf? s.char with
      | some chomping => (readIncrement rest).map fun r ↦ (⟨chomping, r.1⟩, r.2)
      | none =>
          match readIncrement (s :: rest) with
          | none => none
          | some (increment, t :: rest) =>
              match increment, chompingOf? t.char with
              | some _, some chomping => some (⟨chomping, increment⟩, rest)
              | _, _ => some (⟨.clip, increment⟩, t :: rest)
          | some (increment, []) => some (⟨.clip, increment⟩, [])

def readHeader (spots : List Spot) : Option (BlockHeader × List Spot) := do
  let (header, rest) ← readIndicators spots
  return (header, (← skipToBreak? rest).drop 1)

/-- Whether a place is still in the indentation, which may be unknown. -/
def isIndentation (indent : Option Nat) (s : Spot) : Bool :=
  match indent with
  | some n => s.column < n
  | none => true

/-- The breaks of the empty lines that come next, after those already read, and the widest of their
indentations. A tab cannot be part of the indentation. -/
def readEmptyLines (indent : Option Nat) (breaks : List Char) (widest : Nat) :
    List Spot → Option (List Char × Nat × List Spot)
  | [] => some (breaks, widest, [])
  | s :: rest =>
      if s.char == ' ' && isIndentation indent s then readEmptyLines indent breaks widest rest
      else if s.char == '\t' && isIndentation indent s then none
      else if isBreak s.char then
        readEmptyLines indent (breaks ++ [s.char]) (max widest s.column) rest
      else some (breaks, max widest s.column, s :: rest)

structure BlockText where
  text : List Char
  /-- The break at the end of the last line. -/
  lastBreak : List Char
  /-- The breaks of the empty lines after it. -/
  emptyLines : List Char
  /-- Whether the last line starts with a blank. -/
  startsBlank : Bool

namespace BlockText

/-- The text with the breaks before another line. A folded line break is one between lines that do
not start with blanks. -/
def joined (t : BlockText) (folded nextBlank : Bool) : List Char :=
  let lastBreak :=
    if folded && t.lastBreak == ['\n'] && !t.startsBlank && !nextBlank then
      if t.emptyLines.isEmpty then [' '] else []
    else t.lastBreak
  t.text ++ lastBreak ++ t.emptyLines

def chomped (t : BlockText) : Chomping → List Char
  | .strip => t.text
  | .clip => t.text ++ t.lastBreak
  | .keep => t.text ++ t.lastBreak ++ t.emptyLines

end BlockText

/-- Reads the lines indented by `indent`. Every line takes a character at least, so the length of
the text is always enough `fuel`. -/
def readLines (folded : Bool) (indent : Nat) :
    (fuel : Nat) → BlockText → List Spot → Option (BlockText × List Spot)
  | 0, t, spots => some (t, spots)
  | _, t, [] => some (t, [])
  | fuel + 1, t, s :: rest =>
      if s.column = indent then
        let startsBlank := isBlank s.char
        let (line, rest) := takeChars (fun c ↦ !isBreak c) (s :: rest)
        match readEmptyLines (some indent) [] 0 (rest.drop 1) with
        | none => none
        | some (emptyLines, _, after) =>
            readLines folded indent fuel
              ⟨t.joined folded startsBlank ++ line, (rest.take 1).map Spot.char, emptyLines,
                startsBlank⟩
              after
      else some (t, s :: rest)

/-- Reads a block scalar after the character that opens it. Its lines are indented by more than
`outer` columns, and the first line of text tells by how many if the header does not. -/
def readBlock (folded : Bool) (outer : Option Nat) (spots : List Spot) :
    Option (List Char × List Spot) := do
  let (header, rest) ← readHeader spots
  let said := header.increment.map fun n ↦ outer.getD 0 + n
  let (emptyLines, widest, rest) ← readEmptyLines said [] 0 rest
  let least := match outer with
    | some n => n + 1
    | none => 1
  let (t, rest) ←
    readLines folded (said.getD (max widest least)) rest.length ⟨[], [], emptyLines, false⟩ rest
  return (t.chomped header.chomping, rest)

end ResourceKernel.Yaml
