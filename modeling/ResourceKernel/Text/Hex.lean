import ResourceKernel.Text.BigEndian

/-!
# Hexadecimal digits

Bytes written as two lower-case digits each, and read back in either case.
-/

namespace ResourceKernel.Text.Hex

/-- The lower-case digit of a number below sixteen. -/
def digit (n : Nat) : Char :=
  if n < 10 then Char.ofNat ('0'.toNat + n) else Char.ofNat ('a'.toNat + (n - 10))

def value? (c : Char) : Option Nat :=
  if '0' ≤ c ∧ c ≤ '9' then some (c.toNat - '0'.toNat)
  else if 'a' ≤ c ∧ c ≤ 'f' then some (c.toNat - 'a'.toNat + 10)
  else if 'A' ≤ c ∧ c ≤ 'F' then some (c.toNat - 'A'.toNat + 10)
  else none

theorem value?_digit : ∀ n < 16, value? (digit n) = some n := by decide

def byteDigits (b : UInt8) : List Char := [digit (b.toNat / 16), digit (b.toNat % 16)]

def encode (bytes : List UInt8) : String := String.ofList (bytes.flatMap byteDigits)

def decodeChars : List Char → Option (List UInt8)
  | [] => some []
  | [_] => none
  | high :: low :: rest =>
      match value? high, value? low with
      | some h, some l => (decodeChars rest).map (UInt8.ofNat (16 * h + l) :: ·)
      | _, _ => none

def decode (s : String) : Option (List UInt8) := decodeChars s.toList

theorem decode_encode (bytes : List UInt8) : decode (encode bytes) = some bytes := by
  simp only [decode, encode, String.toList_ofList]
  induction bytes with
  | nil => rfl
  | cons b bytes ih =>
      have hb : b.toNat < 256 := b.toNat_lt
      have hh := value?_digit (b.toNat / 16) (by omega)
      have hl := value?_digit (b.toNat % 16) (by omega)
      simp only [List.flatMap_cons, byteDigits, List.cons_append, List.nil_append, decodeChars,
        hh, hl, ih, Option.map_some]
      congr 2
      rw [show 16 * (b.toNat / 16) + b.toNat % 16 = b.toNat by omega]
      exact UInt8.ofNat_toNat

def ofWord (w : UInt32) : String := encode (BigEndian.encode 4 w.toNat)

end ResourceKernel.Text.Hex
