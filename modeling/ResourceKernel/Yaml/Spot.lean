/-!
# Characters of a YAML text

How a text is laid out in lines and columns matters in YAML. A text is therefore read as a list of
characters that know where they stand.
-/

namespace ResourceKernel.Yaml

structure Spot where
  char : Char
  index : Nat
  line : Nat
  column : Nat
  deriving Repr

/-- The characters that a text may hold. -/
def isAllowed (c : Char) : Bool :=
  let n := c.toNat
  n == 9 || n == 10 || n == 13 || (0x20 ≤ n && n ≤ 0x7E) || n == 0x85 ||
    (0xA0 ≤ n && n ≤ 0xFFFD) || 0x10000 ≤ n

def isBlank (c : Char) : Bool := c == ' ' || c == '\t'

/-- The line breaks of a text in which all others have been unified. -/
def isBreak (c : Char) : Bool := c == '\n' || c == '\u2028' || c == '\u2029'

def isBlankOrBreak (c : Char) : Bool := isBlank c || isBreak c

/-- The characters of the names of anchors, directives and tag handles. -/
def isWordChar (c : Char) : Bool :=
  ('0' ≤ c && c ≤ '9') || ('A' ≤ c && c ≤ 'Z') || ('a' ≤ c && c ≤ 'z') || c == '_' || c == '-'

/-- The mark that may open a line without being seen. -/
def isByteOrderMark (c : Char) : Bool := c == '\uFEFF'

/-- The text with one kind of break for carriage returns, line feeds and next lines. -/
def unifyBreaks : List Char → List Char
  | [] => []
  | '\r' :: '\n' :: rest => '\n' :: unifyBreaks rest
  | c :: rest => (if c = '\r' ∨ c = '\u0085' then '\n' else c) :: unifyBreaks rest

/-- Puts characters in their places, where the first one stands at the given place. -/
def place (index line column : Nat) : List Char → List Spot
  | [] => []
  | c :: rest =>
      ⟨c, index, line, column⟩ ::
        if isBreak c then place (index + 1) (line + 1) 0 rest
        else place (index + 1) line (column + 1) rest

def spots? (s : String) : Option (List Spot) :=
  if s.toList.all isAllowed then some (place 0 0 0 (unifyBreaks s.toList)) else none

/-! ## Looking at what comes next -/

/-- Whether what comes next is a blank, a break or the end. -/
def atGap : List Spot → Bool
  | [] => true
  | s :: _ => isBlankOrBreak s.char

/-- Whether what comes next is a break or the end. -/
def atBreak : List Spot → Bool
  | [] => true
  | s :: _ => isBreak s.char

/-- Whether a gap follows at once. -/
def beforeGap : List Spot → Bool
  | [] => true
  | _ :: rest => atGap rest

/-- Whether what comes next is the mark that opens or closes a document, three times `c`. -/
def atMarker (c : Char) : List Spot → Bool
  | a :: b :: d :: rest =>
      a.column == 0 && a.char == c && b.char == c && d.char == c && atGap rest
  | _ => false

/-- Whether what comes next opens or closes a document. -/
def atBoundary (spots : List Spot) : Bool := atMarker '-' spots || atMarker '.' spots

def skipBlanks (spots : List Spot) : List Spot := spots.dropWhile fun s ↦ isBlank s.char

/-- What follows the blanks and the comment at the end of a line, which has to end there. -/
def skipToBreak? (spots : List Spot) : Option (List Spot) :=
  let rest := skipBlanks spots
  let rest :=
    match rest with
    | ⟨'#', _, _, _⟩ :: _ => rest.dropWhile fun s ↦ !isBreak s.char
    | _ => rest
  if atBreak rest then some rest else none

def takeChars (p : Char → Bool) (spots : List Spot) : List Char × List Spot :=
  ((spots.takeWhile fun s ↦ p s.char).map Spot.char, spots.dropWhile fun s ↦ p s.char)

/-- What comes before the next token: blanks, comments and line breaks. In a block, a tab may not
stand where a key may start, and a key may start after a line break. -/
def skipGap (inFlow : Bool) : (inComment keyAllowed : Bool) → List Spot → Bool × List Spot
  | _, keyAllowed, [] => (keyAllowed, [])
  | inComment, keyAllowed, s :: rest =>
      if isBreak s.char then skipGap inFlow false (keyAllowed || !inFlow) rest
      else if inComment || s.char == '#' then skipGap inFlow true keyAllowed rest
      else if s.char == ' ' || (s.char == '\t' && (inFlow || !keyAllowed)) then
        skipGap inFlow false keyAllowed rest
      else if s.column == 0 && isByteOrderMark s.char then skipGap inFlow false keyAllowed rest
      else (keyAllowed, s :: rest)

end ResourceKernel.Yaml
