import ResourceKernel.Text.Decimal
import ResourceKernel.Text.Hex
import ResourceKernel.Text.Utf8
import ResourceKernel.Yaml.Spot

/-!
# Tokens of YAML

The layout of a text is told by tokens of its own, so that nodes can be read without looking at
columns. Here are the tokens, and how those are read whose form does not depend on what came
before.
-/

namespace ResourceKernel.Yaml

open Text

inductive Style
  | plain
  | quoted
  | literal
  | folded
  deriving DecidableEq, Repr, Inhabited

/-- A tag as written: a handle that stands for the start of the tag, and the rest. -/
structure TagText where
  handle : String
  suffix : String
  deriving DecidableEq, Repr

inductive Token
  | version (major minor : Nat)
  | tagHandle (handle : String) (start : String)
  | documentStart
  | documentEnd
  | blockSequence
  | blockMapping
  | blockEnd
  | sequenceOpen
  | sequenceClose
  | mappingOpen
  | mappingClose
  | comma
  | dash
  | key
  | value
  | alias (name : String)
  | anchor (name : String)
  | tag (t : TagText)
  | scalar (style : Style) (text : String)
  deriving DecidableEq, Repr

/-! ## Anchors -/

/-- The characters that may follow the name of an anchor at once. -/
def mayFollowName (c : Char) : Bool := isBlankOrBreak c || "?:,]\x7d%@`".toList.contains c

def readName (spots : List Spot) : Option (String × List Spot) :=
  match takeChars isWordChar spots with
  | ([], _) => none
  | (name, []) => some (String.ofList name, [])
  | (name, s :: rest) =>
      if mayFollowName s.char then some (String.ofList name, s :: rest) else none

/-! ## Tags -/

/-- The characters of a tag. Some may only stand between angle brackets or in a directive. -/
def isTagChar (bracketed : Bool) (c : Char) : Bool :=
  isWordChar c || ";/?:@&=+$.%!~*'()".toList.contains c ||
    (bracketed && ",[]".toList.contains c)

/-- The length of a character in bytes, by its first byte. -/
def widthOf? (first : Nat) : Option Nat :=
  if first < 0x80 then some 1
  else if first / 0x20 = 6 then some 2
  else if first / 0x10 = 14 then some 3
  else if first / 8 = 30 then some 4
  else none

/-- The bytes that characters stand for: those of their own, or the one given by a percent sign and
two digits. The bytes of a character have to be given together, of which `due` are still to
come. -/
def unescape : (due : Nat) → List Char → Option (List UInt8)
  | 0, [] => some []
  | _ + 1, [] => none
  | due, '%' :: a :: b :: rest =>
      match Hex.value? a, Hex.value? b with
      | some a, some b =>
          let byte := a * 16 + b
          match due with
          | 0 =>
              match widthOf? byte with
              | some width => (unescape (width - 1) rest).map (UInt8.ofNat byte :: ·)
              | none => none
          | due + 1 =>
              if byte / 0x40 = 2 then (unescape due rest).map (UInt8.ofNat byte :: ·) else none
      | _, _ => none
  | 0, c :: rest =>
      if c = '%' then none
      else (unescape 0 rest).map (Utf8.encode (String.ofList [c]) ++ ·)
  | _ + 1, _ => none

def unescaped? (cs : List Char) : Option String :=
  (unescape 0 cs).map fun bytes ↦
    match Utf8.decode bytes with
    | .ok s => s
    | .error _ => "\uFFFD"

/-- A part of a tag, which must not be empty. -/
def readTagPart (bracketed : Bool) (spots : List Spot) : Option (String × List Spot) :=
  match takeChars (isTagChar bracketed) spots with
  | ([], _) => none
  | (cs, rest) => (unescaped? cs).map (·, rest)

/-- An exclamation mark and the word after it, which is a handle if another mark closes it. -/
def readHandle : List Spot → Option (List Char × Bool × List Spot)
  | ⟨'!', _, _, _⟩ :: rest =>
      let (word, rest) := takeChars isWordChar rest
      match rest with
      | ⟨'!', _, _, _⟩ :: rest => some ('!' :: word ++ ['!'], true, rest)
      | rest => some ('!' :: word, false, rest)
  | _ => none

/-- A tag after its exclamation mark, between angle brackets. -/
def readBracketedTag (spots : List Spot) : Option (TagText × List Spot) :=
  match readTagPart true (spots.drop 2) with
  | some (suffix, ⟨'>', _, _, _⟩ :: rest) => some (⟨"", suffix⟩, rest)
  | _ => none

/-- A tag with a handle. A word after the mark that is no handle belongs to the rest of the tag, and
the mark alone is a tag too. -/
def readShortTag (spots : List Spot) : Option (TagText × List Spot) :=
  match readHandle spots with
  | none => none
  | some (handle, true, rest) =>
      (readTagPart false rest).map fun r ↦ (⟨String.ofList handle, r.1⟩, r.2)
  | some (word, false, rest) =>
      let (cs, rest) := takeChars (isTagChar false) rest
      (unescaped? (word.drop 1 ++ cs)).map fun suffix ↦
        (if suffix.isEmpty then ⟨"", "!"⟩ else ⟨"!", suffix⟩, rest)

/-- A tag and nothing that touches it, except a comma in a flow collection. -/
def readTag (inFlow : Bool) (spots : List Spot) : Option (TagText × List Spot) := do
  let (t, rest) ← match spots with
    | _ :: ⟨'<', _, _, _⟩ :: _ => readBracketedTag spots
    | _ => readShortTag spots
  match rest with
  | ⟨',', _, _, _⟩ :: _ => if inFlow then some (t, rest) else none
  | _ => if atGap rest then some (t, rest) else none

/-! ## Directives -/

/-- A part of a version, of nine digits at most. -/
def readVersionPart (spots : List Spot) : Option (Nat × List Spot) :=
  let (digits, rest) := takeChars Decimal.isDigit spots
  if digits.isEmpty || 9 < digits.length then none else some (Decimal.valueOf digits, rest)

def readVersion (spots : List Spot) : Option (Token × List Spot) := do
  let (major, rest) ← readVersionPart (skipBlanks spots)
  match rest with
  | ⟨'.', _, _, _⟩ :: rest =>
      let (minor, rest) ← readVersionPart rest
      return (.version major minor, rest)
  | _ => none

/-- The handle and the start of tags that a directive declares. -/
def readTagHandle (spots : List Spot) : Option (Token × List Spot) := do
  let (handle, closed, rest) ← readHandle (skipBlanks spots)
  if !closed && handle != ['!'] then none
  match rest with
  | [] => none
  | s :: _ =>
      if isBlank s.char then
        let (start, rest) ← readTagPart true (skipBlanks rest)
        if atGap rest then return (.tagHandle (String.ofList handle) start, rest) else none
      else none

/-- A directive after its percent sign, with the line break after it. -/
def readDirective (spots : List Spot) : Option (Token × List Spot) := do
  let (name, rest) := takeChars isWordChar spots
  if !atGap rest then none
  let (t, rest) ←
    if name = "YAML".toList then readVersion rest
    else if name = "TAG".toList then readTagHandle rest
    else none
  return (t, (← skipToBreak? rest).drop 1)

end ResourceKernel.Yaml
