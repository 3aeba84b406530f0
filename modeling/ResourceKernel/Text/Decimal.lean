/-!
# Decimal digits

Natural numbers and integers written in decimal digits without leading zeros.
-/

namespace ResourceKernel.Text.Decimal

def isDigit (c : Char) : Bool := '0' ≤ c && c ≤ '9'

def digitValue (c : Char) : Nat := c.toNat - '0'.toNat

def valueOf (digits : List Char) : Nat := digits.foldl (fun n c ↦ 10 * n + digitValue c) 0

def digit (n : Nat) : Char := Char.ofNat ('0'.toNat + n % 10)

/-- The digits of a number; zero has one. -/
def digitsOf (n : Nat) : List Char :=
  if n < 10 then [digit n] else digitsOf (n / 10) ++ [digit n]

def charsOfInt : Int → List Char
  | .ofNat n => digitsOf n
  | .negSucc n => '-' :: digitsOf (n + 1)

def ofNat (n : Nat) : String := String.ofList (digitsOf n)

def ofInt (n : Int) : String := String.ofList (charsOfInt n)

theorem digitValue_digit {n : Nat} (h : n < 10) : digitValue (digit n) = n := by
  revert n
  decide

theorem isDigit_digit (n : Nat) : isDigit (digit n) = true := by
  have h : ∀ m < 10, isDigit (Char.ofNat ('0'.toNat + m)) = true := by decide
  exact h _ (Nat.mod_lt n (by decide))

theorem digit_mod (n : Nat) : digit (n % 10) = digit n := by simp [digit]

@[simp] theorem valueOf_digitsOf (n : Nat) : valueOf (digitsOf n) = n := by
  fun_induction digitsOf n with
  | case1 n h => simp [valueOf, digitValue_digit h]
  | case2 n h ih =>
      have hd : digitValue (digit n) = n % 10 := by
        rw [← digit_mod]
        exact digitValue_digit (Nat.mod_lt n (by decide))
      unfold valueOf at ih
      simp only [valueOf, List.foldl_append, List.foldl_cons, List.foldl_nil, ih, hd]
      omega

theorem isDigit_of_mem_digitsOf {n : Nat} {c : Char} (h : c ∈ digitsOf n) : isDigit c = true := by
  fun_induction digitsOf n with
  | case1 n => simp only [List.mem_singleton] at h; exact h ▸ isDigit_digit n
  | case2 n _ ih =>
      rcases List.mem_append.mp h with h | h
      · exact ih h
      · simp only [List.mem_singleton] at h
        exact h ▸ isDigit_digit n

end ResourceKernel.Text.Decimal
