import ResourceKernel.Text.Hex
import ResourceKernel.Text.Numeral

/-!
# What plain scalars mean

A plain scalar without a tag is null, a truth value, a number or a text, as its characters say.
-/

namespace ResourceKernel.Yaml

open Text

def isNullWord (s : String) : Bool := ["null", "Null", "NULL", "~"].contains s

def boolOf? (s : String) : Option Bool :=
  if ["true", "True", "TRUE"].contains s then some true
  else if ["false", "False", "FALSE"].contains s then some false
  else none

/-! ## Integers -/

def baseOf? (c : Char) : Option Nat :=
  if c = 'x' then some 16 else if c = 'o' then some 8 else if c = 'b' then some 2 else none

/-- The number with the given digits, of which there has to be one at least. -/
def valueIn? (base : Nat) (digits : List Char) : Option Nat :=
  if digits.isEmpty then none
  else
    digits.foldlM (fun n c ↦
      match Hex.value? c with
      | some d => if d < base then some (base * n + d) else none
      | none => none) 0

/-- Whether there are needless zeros before decimal digits, which make a text. -/
def hasNeedlessZero (digits : List Char) : Bool :=
  match digits with
  | '0' :: _ :: _ => digits.all Decimal.isDigit
  | _ => false

/-- The number with digits in a base that is told before them. -/
def basedValue? : List Char → Option Nat
  | '0' :: c :: digits => (baseOf? c).bind fun base ↦ valueIn? base digits
  | _ => none

/-- The number without its sign, below a bound. A number in a base that is too large is no decimal
number either. -/
def unsignedBelow? (bound : Nat) (digits : List Char) : Option Nat :=
  let value :=
    match basedValue? digits with
    | some n => some n
    | none => if hasNeedlessZero digits then none else valueIn? 10 digits
  value.filter (· < bound)

/-- A natural number below a bound, which may have a plus sign. -/
def natOf? (bound : Nat) : List Char → Option Nat
  | '+' :: digits => unsignedBelow? bound digits
  | digits => unsignedBelow? bound digits

/-- A number with a minus sign, at least the negated bound. -/
def negativeOf? (bound : Nat) : List Char → Option Int
  | '-' :: digits => (unsignedBelow? (bound + 1) digits).map fun n ↦ -(n : Int)
  | _ => none

/-- An integer of so many bits, where only numbers without a minus sign use the highest one. -/
def integerOf? (bits : Nat) (cs : List Char) : Option Int :=
  match natOf? (1 <<< bits) cs with
  | some n => some n
  | none => negativeOf? (1 <<< (bits - 1)) cs

/-! ## Floating point numbers -/

def exponentOf? : List Char → Option (Option Int)
  | [] => some none
  | e :: rest =>
      if e = 'e' ∨ e = 'E' then
        match rest with
        | '-' :: digits => (valueIn? 10 digits).map fun n ↦ some (-(n : Int))
        | '+' :: digits => (valueIn? 10 digits).map fun n ↦ some (n : Int)
        | digits => (valueIn? 10 digits).map fun n ↦ some (n : Int)
      else none

/-- A decimal number without its sign. There has to be a digit before or after the point. -/
def numeralOf? (cs : List Char) : Option Numeral :=
  let (whole, rest) := readDigits cs
  let (fraction, rest) :=
    match rest with
    | '.' :: rest => (some (readDigits rest).1, (readDigits rest).2)
    | rest => (none, rest)
  if whole.isEmpty && (fraction.getD []).isEmpty then none
  else (exponentOf? rest).map fun exponent ↦ ⟨false, whole, fraction, exponent⟩

/-- The words for infinity and for what is not a number. -/
def isSpecialNumber (s : String) : Bool :=
  [".inf", ".Inf", ".INF", "+.inf", "+.Inf", "+.INF", "-.inf", "-.Inf", "-.INF",
    ".nan", ".NaN", ".NAN"].contains s

/-- Whether the text is a floating point number. A finite number must not round to infinity. -/
def isFloat (s : String) : Bool :=
  let digits := match s.toList with
    | '+' :: rest => rest
    | '-' :: rest => rest
    | cs => cs
  isSpecialNumber s ||
    match numeralOf? digits with
    | some n => n.isFinite
    | none => false

/-! ## Meanings -/

inductive Meaning
  | null
  | bool (b : Bool)
  | int (n : Int)
  | float
  | text
  /-- An integer of more than 64 bits, which is nothing that can be used. -/
  | excessive
  deriving DecidableEq, Repr

/-- The integer that a scalar means, if it means one. -/
def integerMeaning? (s : String) : Option Meaning :=
  match integerOf? 64 s.toList, integerOf? 128 s.toList with
  | some n, _ => some (.int n)
  | none, some _ => some .excessive
  | none, none => none

def hasSignAndNeedlessZero (s : String) : Bool :=
  match s.toList with
  | '+' :: digits => hasNeedlessZero digits
  | '-' :: digits => hasNeedlessZero digits
  | digits => hasNeedlessZero digits

def meaningOf (s : String) : Meaning :=
  if s.isEmpty || isNullWord s then .null
  else
    match boolOf? s, integerMeaning? s with
    | some b, _ => .bool b
    | none, some m => m
    | none, none =>
        if !hasSignAndNeedlessZero s && isFloat s then .float else .text

end ResourceKernel.Yaml
