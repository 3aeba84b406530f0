import ResourceKernel.Json.Value
import ResourceKernel.Text.Numeral

/-!
# Reading JSON

A document is one value with blanks around it. Arrays and objects that nest more than 127 deep
are unreadable.
-/

namespace ResourceKernel.Json

open Text

def isSpace (c : Char) : Bool := c == ' ' || c == '\n' || c == '\t' || c == '\r'

def skipSpace (cs : List Char) : List Char := cs.dropWhile isSpace

/-! ## Quoted text -/

/-- A piece of quoted text: a character, or a unit of 16 bits written in hexadecimal digits. -/
inductive Piece
  | char (c : Char)
  | unit (n : Nat)

def hexUnit? (a b c d : Char) : Option Nat :=
  match Hex.value? a, Hex.value? b, Hex.value? c, Hex.value? d with
  | some a, some b, some c, some d => some (((a * 16 + b) * 16 + c) * 16 + d)
  | _, _, _, _ => none

def escaped? (c : Char) : Option Char :=
  if c = '"' ∨ c = '\\' ∨ c = '/' then some c
  else if c = 'b' then some (Char.ofNat 8)
  else if c = 'f' then some (Char.ofNat 12)
  else if c = 'n' then some '\n'
  else if c = 'r' then some '\r'
  else if c = 't' then some '\t'
  else none

def readPieces : List Char → Option (List Piece × List Char)
  | [] => none
  | '"' :: rest => some ([], rest)
  | '\\' :: 'u' :: a :: b :: c :: d :: rest =>
      match hexUnit? a b c d, readPieces rest with
      | some n, some (ps, rest) => some (.unit n :: ps, rest)
      | _, _ => none
  | '\\' :: c :: rest =>
      match escaped? c, readPieces rest with
      | some e, some (ps, rest) => some (.char e :: ps, rest)
      | _, _ => none
  | c :: rest =>
      if c = '\\' ∨ c.toNat < 0x20 then none
      else (readPieces rest).map fun r ↦ (.char c :: r.1, r.2)

/-- The characters of pieces. Units of a surrogate pair make one character, and a surrogate that
is not part of a pair makes none. -/
def charsOfPieces : List Piece → Option (List Char)
  | [] => some []
  | .char c :: rest => (charsOfPieces rest).map (c :: ·)
  | .unit n :: rest =>
      if 0xD800 ≤ n ∧ n < 0xDC00 then
        match rest with
        | .unit m :: rest =>
            if 0xDC00 ≤ m ∧ m < 0xE000 then
              (charsOfPieces rest).map
                (Char.ofNat (0x10000 + (n - 0xD800) * 0x400 + (m - 0xDC00)) :: ·)
            else none
        | _ => none
      else if 0xDC00 ≤ n ∧ n < 0xE000 then none
      else (charsOfPieces rest).map (Char.ofNat n :: ·)

def readQuoted (cs : List Char) : Option (Option String × List Char) :=
  (readPieces cs).map fun r ↦ ((charsOfPieces r.1).map String.ofList, r.2)

/-! ## Numbers -/

/-- An integer of at most 64 bits, kept exactly; a negative zero is not an integer. -/
def intOf? (w : Numeral) : Option Int :=
  match w.fraction, w.exponent with
  | none, none =>
      let n := Decimal.valueOf w.whole
      if w.negative then
        if n = 0 ∨ -(n : Int) < Int64.minValue.toInt then none else some (-(n : Int))
      else if n < UInt64.size then some n
      else none
  | _, _ => none

def numberOf (w : Numeral) : Value :=
  match intOf? w with
  | some n => .int n
  | none => if w.isFinite then .real else .unreadable

/-- Digits without a needless leading zero. -/
def readWhole (cs : List Char) : Option (List Char × List Char) :=
  match readDigits cs with
  | ([], _) => none
  | ('0' :: _ :: _, _) => none
  | r => some r

def readFraction : List Char → Option (Option (List Char) × List Char)
  | '.' :: rest =>
      match readDigits rest with
      | ([], _) => none
      | (digits, rest) => some (some digits, rest)
  | cs => some (none, cs)

def readExponentDigits (sign : Int) (cs : List Char) : Option (Option Int × List Char) :=
  match readDigits cs with
  | ([], _) => none
  | (digits, rest) => some (some (sign * Decimal.valueOf digits), rest)

def readExponent : List Char → Option (Option Int × List Char)
  | c :: rest =>
      if c = 'e' ∨ c = 'E' then
        match rest with
        | '-' :: rest => readExponentDigits (-1) rest
        | '+' :: rest => readExponentDigits 1 rest
        | rest => readExponentDigits 1 rest
      else some (none, c :: rest)
  | [] => some (none, [])

def readUnsigned (negative : Bool) (cs : List Char) : Option (Value × List Char) := do
  let (whole, cs) ← readWhole cs
  let (fraction, cs) ← readFraction cs
  let (exponent, cs) ← readExponent cs
  some (numberOf ⟨negative, whole, fraction, exponent⟩, cs)

/-! ## Values -/

def textOrUnreadable : Option String → Value
  | some s => .text s
  | none => .unreadable

/-- An object. One with an unreadable name is unreadable. -/
def objectOf (members : List (Option String × Value)) : Value :=
  match members.mapM fun kv ↦ kv.1.map fun key ↦ (key, kv.2) with
  | some kvs => .fields kvs
  | none => .unreadable

def readLeaf : List Char → Option (Value × List Char)
  | 'n' :: 'u' :: 'l' :: 'l' :: rest => some (.null, rest)
  | 't' :: 'r' :: 'u' :: 'e' :: rest => some (.bool true, rest)
  | 'f' :: 'a' :: 'l' :: 's' :: 'e' :: rest => some (.bool false, rest)
  | '"' :: rest => (readQuoted rest).map fun r ↦ (textOrUnreadable r.1, r.2)
  | '-' :: rest => readUnsigned true rest
  | cs => readUnsigned false cs

/-- One or more items with commas between them, up to `close`. Every item takes a character at
least, so the length of the text is always enough `fuel`. -/
def readItems {α : Type} (item : List Char → Option (α × List Char)) (close : Char) :
    (fuel : Nat) → List Char → Option (List α × List Char)
  | 0, _ => none
  | fuel + 1, cs =>
      match item cs with
      | none => none
      | some (x, rest) =>
          match skipSpace rest with
          | [] => none
          | c :: rest =>
              if c = ',' then (readItems item close fuel rest).map fun r ↦ (x :: r.1, r.2)
              else if c = close then some ([x], rest)
              else none

def readSequence {α : Type} (item : List Char → Option (α × List Char)) (close : Char)
    (cs : List Char) : Option (List α × List Char) :=
  match skipSpace cs with
  | [] => none
  | c :: rest => if c = close then some ([], rest) else readItems item close cs.length (c :: rest)

def readMember (value : List Char → Option (Value × List Char)) (cs : List Char) :
    Option ((Option String × Value) × List Char) :=
  match skipSpace cs with
  | '"' :: rest =>
      match readQuoted rest with
      | none => none
      | some (key, rest) =>
          match skipSpace rest with
          | ':' :: rest => (value rest).map fun r ↦ ((key, r.1), r.2)
          | _ => none
  | _ => none

/-- A value, and what follows it. Arrays and objects nest less deep than the text is long, so its
length is always enough `fuel`. -/
def readValue : (fuel : Nat) → List Char → Option (Value × List Char)
  | 0, cs => readLeaf (skipSpace cs)
  | fuel + 1, cs =>
      match skipSpace cs with
      | '[' :: rest => (readSequence (readValue fuel) ']' rest).map fun r ↦ (.list r.1, r.2)
      | '\x7b' :: rest =>
          (readSequence (readMember (readValue fuel)) '\x7d' rest).map fun r ↦ (objectOf r.1, r.2)
      | cs => readLeaf cs

/-- The value in which arrays and objects that nest more than `depth` deep are unreadable. -/
def Value.limit : (depth : Nat) → Value → Value
  | 0, .list _ | 0, .fields _ => .unreadable
  | depth + 1, .list xs => .list (xs.map (limit depth))
  | depth + 1, .fields kvs => .fields (kvs.map fun kv ↦ (kv.1, limit depth kv.2))
  | _, v => v

def maxDepth : Nat := 127

def Value.ofText? (s : String) : Option Value :=
  match readValue s.length s.toList with
  | some (v, rest) => if (skipSpace rest).isEmpty then some (v.limit maxDepth) else none
  | none => none

end ResourceKernel.Json
