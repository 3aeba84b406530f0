/-!
# Big-endian numbers

A natural number in a fixed number of bytes, the most significant first.
-/

namespace ResourceKernel.Text.BigEndian

/-- How many numbers fit into `width` bytes. -/
def bound : (width : Nat) → Nat
  | 0 => 1
  | width + 1 => bound width * 256

theorem bound_pos : ∀ width, 0 < bound width
  | 0 => by decide
  | width + 1 => Nat.mul_pos (bound_pos width) (by decide)

/-- The number in exactly `width` bytes; what does not fit is dropped at the front. -/
def encode : (width : Nat) → Nat → List UInt8
  | 0, _ => []
  | width + 1, n => UInt8.ofNat (n / bound width % 256) :: encode width n

def decode : List UInt8 → Nat
  | [] => 0
  | b :: rest => b.toNat * bound rest.length + decode rest

@[simp] theorem length_encode (width n : Nat) : (encode width n).length = width := by
  induction width with
  | zero => rfl
  | succ width ih => simp [encode, ih]

theorem decode_lt (bytes : List UInt8) : decode bytes < bound bytes.length := by
  induction bytes with
  | nil => simp [decode, bound]
  | cons b bytes ih =>
      have hb := b.toNat_lt
      have : b.toNat * bound bytes.length ≤ 255 * bound bytes.length :=
        Nat.mul_le_mul_right _ (by omega)
      simp only [decode, List.length_cons, bound]
      omega

theorem decode_encode_mod (width n : Nat) : decode (encode width n) = n % bound width := by
  induction width with
  | zero => simp [encode, decode, bound, Nat.mod_one]
  | succ width ih =>
      simp only [encode, decode, length_encode, ih]
      rw [UInt8.toNat_ofNat_of_lt' (Nat.mod_lt _ (by decide)), bound, Nat.mod_mul]
      rw [Nat.mul_comm, Nat.add_comm]

theorem decode_encode {width n : Nat} (h : n < bound width) : decode (encode width n) = n := by
  rw [decode_encode_mod, Nat.mod_eq_of_lt h]

theorem encode_add_mul (width n k : Nat) : encode width (k * bound width + n) = encode width n := by
  induction width generalizing k with
  | zero => rfl
  | succ width ih =>
      simp only [encode]
      have h : k * bound (width + 1) = (k * 256) * bound width := by
        rw [bound, Nat.mul_assoc, Nat.mul_comm (bound width)]
      rw [h, ih]
      congr 2
      rw [Nat.add_comm, Nat.add_mul_div_right _ _ (bound_pos _), Nat.add_mul_mod_self_right]

theorem encode_decode (bytes : List UInt8) : encode bytes.length (decode bytes) = bytes := by
  induction bytes with
  | nil => rfl
  | cons b bytes ih =>
      have hb := b.toNat_lt
      have hlt := decode_lt bytes
      simp only [List.length_cons, encode, decode, encode_add_mul, ih]
      congr 1
      rw [Nat.add_comm, Nat.add_mul_div_right _ _ (bound_pos _),
        Nat.div_eq_of_lt hlt, Nat.zero_add, Nat.mod_eq_of_lt (by omega)]
      exact UInt8.ofNat_toNat

end ResourceKernel.Text.BigEndian
