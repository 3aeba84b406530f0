/-!
# Base64 for names in addresses

The alphabet ends in `-` and `_`, nothing is padded, and reading refuses the bits of the last
digit that no byte owns unless they are zero. Reading accepts exactly what writing produces.
-/

namespace ResourceKernel.Text.Base64

def digit (n : Nat) : Char :=
  if n < 26 then Char.ofNat ('A'.toNat + n)
  else if n < 52 then Char.ofNat ('a'.toNat + (n - 26))
  else if n < 62 then Char.ofNat ('0'.toNat + (n - 52))
  else if n = 62 then '-'
  else '_'

def value? (c : Char) : Option Nat :=
  if 'A' ≤ c ∧ c ≤ 'Z' then some (c.toNat - 'A'.toNat)
  else if 'a' ≤ c ∧ c ≤ 'z' then some (c.toNat - 'a'.toNat + 26)
  else if '0' ≤ c ∧ c ≤ '9' then some (c.toNat - '0'.toNat + 52)
  else if c = '-' then some 62
  else if c = '_' then some 63
  else none

theorem value?_digit : ∀ n < 64, value? (digit n) = some n := by decide

/-- Three bytes are four digits; two bytes left over are three digits, and one is two. -/
def encodeChars : List UInt8 → List Char
  | [] => []
  | [a] => [digit (a.toNat / 4), digit (a.toNat % 4 * 16)]
  | [a, b] =>
      [digit (a.toNat / 4), digit (a.toNat % 4 * 16 + b.toNat / 16), digit (b.toNat % 16 * 4)]
  | a :: b :: c :: rest =>
      digit (a.toNat / 4) :: digit (a.toNat % 4 * 16 + b.toNat / 16) ::
        digit (b.toNat % 16 * 4 + c.toNat / 64) :: digit (c.toNat % 64) :: encodeChars rest

/-- The bytes of a list of numbers below 64, six bits each. -/
def bytesOf : List Nat → Option (List UInt8)
  | [] => some []
  | [_] => none
  | [p, q] => if q % 16 = 0 then some [UInt8.ofNat (p * 4 + q / 16)] else none
  | [p, q, r] =>
      if r % 4 = 0 then
        some [UInt8.ofNat (p * 4 + q / 16), UInt8.ofNat (q % 16 * 16 + r / 4)]
      else none
  | p :: q :: r :: s :: rest =>
      (bytesOf rest).map fun bytes ↦
        UInt8.ofNat (p * 4 + q / 16) :: UInt8.ofNat (q % 16 * 16 + r / 4) ::
          UInt8.ofNat (r % 4 * 64 + s) :: bytes

def values? : List Char → Option (List Nat)
  | [] => some []
  | c :: rest =>
      match value? c, values? rest with
      | some n, some ns => some (n :: ns)
      | _, _ => none

def encode (bytes : List UInt8) : String := String.ofList (encodeChars bytes)

def decode (s : String) : Option (List UInt8) := (values? s.toList).bind bytesOf

theorem values?_cons_digit {n : Nat} (h : n < 64) (cs : List Char) :
    values? (digit n :: cs) = (values? cs).map (n :: ·) := by
  simp only [values?, value?_digit n h]
  cases values? cs <;> rfl

@[simp] theorem decode_encode (bytes : List UInt8) : decode (encode bytes) = some bytes := by
  simp only [decode, encode, String.toList_ofList]
  fun_induction encodeChars bytes with
  | case1 => rfl
  | case2 a =>
      have ha := a.toNat_lt
      rw [values?_cons_digit (by omega), values?_cons_digit (by omega)]
      simp only [values?, Option.map_some, Option.bind_some, bytesOf]
      rw [if_pos (by omega), show a.toNat / 4 * 4 + a.toNat % 4 * 16 / 16 = a.toNat by omega,
        UInt8.ofNat_toNat]
  | case3 a b =>
      have ha := a.toNat_lt
      have hb := b.toNat_lt
      rw [values?_cons_digit (by omega), values?_cons_digit (by omega),
        values?_cons_digit (by omega)]
      simp only [values?, Option.map_some, Option.bind_some, bytesOf]
      rw [if_pos (by omega),
        show a.toNat / 4 * 4 + (a.toNat % 4 * 16 + b.toNat / 16) / 16 = a.toNat by omega,
        show (a.toNat % 4 * 16 + b.toNat / 16) % 16 * 16 + b.toNat % 16 * 4 / 4 = b.toNat by omega,
        UInt8.ofNat_toNat, UInt8.ofNat_toNat]
  | case4 a b c rest ih =>
      have ha := a.toNat_lt
      have hb := b.toNat_lt
      have hc := c.toNat_lt
      rw [values?_cons_digit (by omega), values?_cons_digit (by omega),
        values?_cons_digit (by omega), values?_cons_digit (by omega)]
      obtain ⟨ns, hns, hbytes⟩ := Option.bind_eq_some_iff.mp ih
      simp only [hns, Option.map_some, Option.bind_some, bytesOf, hbytes]
      rw [show a.toNat / 4 * 4 + (a.toNat % 4 * 16 + b.toNat / 16) / 16 = a.toNat by omega,
        show (a.toNat % 4 * 16 + b.toNat / 16) % 16 * 16 + (b.toNat % 16 * 4 + c.toNat / 64) / 4 =
          b.toNat by omega,
        show (b.toNat % 16 * 4 + c.toNat / 64) % 4 * 64 + c.toNat % 64 = c.toNat by omega,
        UInt8.ofNat_toNat, UInt8.ofNat_toNat, UInt8.ofNat_toNat]

theorem toNat_lt_of_value? {c : Char} {n : Nat} (h : value? c = some n) : c.toNat < 128 := by
  apply Decidable.byContradiction
  intro hge
  have hout {d : Char} (hd : d.toNat < 128) : ¬c ≤ d := fun hle ↦
    hge (Nat.lt_of_le_of_lt (UInt32.le_iff_toNat_le.mp hle) hd)
  have hne {d : Char} (hd : d.toNat < 128) : c ≠ d := fun hcd ↦ hge (hcd ▸ hd)
  rw [value?, if_neg (hout (by decide) ·.2), if_neg (hout (by decide) ·.2),
    if_neg (hout (by decide) ·.2), if_neg (hne (by decide)), if_neg (hne (by decide))] at h
  cases h

/-- Only the digit of a number has it as its value. -/
theorem digit_of_value? {c : Char} {n : Nat} (h : value? c = some n) : digit n = c ∧ n < 64 := by
  have hascii : ∀ i < 128, ∀ n ∈ value? (Char.ofNat i), digit n = Char.ofNat i ∧ n < 64 := by
    decide
  have hc := hascii c.toNat (toNat_lt_of_value? h) n
  rw [Char.ofNat_toNat] at hc
  exact hc h

theorem map_digit_of_values? {cs : List Char} {ns : List Nat} (h : values? cs = some ns) :
    ns.map digit = cs ∧ ∀ n ∈ ns, n < 64 := by
  induction cs generalizing ns with
  | nil =>
      obtain rfl := Option.some.inj h
      exact ⟨rfl, nofun⟩
  | cons c cs ih =>
      simp only [values?] at h
      split at h
      · next n ms hn hms =>
        obtain rfl := Option.some.inj h
        obtain ⟨hdigit, hlt⟩ := digit_of_value? hn
        obtain ⟨hrest, hall⟩ := ih hms
        exact ⟨by rw [List.map_cons, hdigit, hrest], List.forall_mem_cons.mpr ⟨hlt, hall⟩⟩
      · cases h

theorem encodeChars_of_bytesOf {ns : List Nat} {bytes : List UInt8} (h : bytesOf ns = some bytes)
    (hlt : ∀ n ∈ ns, n < 64) : encodeChars bytes = ns.map digit := by
  have hbyte {n : Nat} (hn : n < 256) : (UInt8.ofNat n).toNat = n := UInt8.toNat_ofNat_of_lt' hn
  induction ns using bytesOf.induct generalizing bytes with
  | case1 =>
      obtain rfl := Option.some.inj h
      rfl
  | case2 => cases h
  | case3 p q hq =>
      rw [bytesOf, if_pos hq] at h
      obtain rfl := Option.some.inj h
      simp only [List.forall_mem_cons] at hlt
      obtain ⟨hp, hq', -⟩ := hlt
      simp only [encodeChars, List.map_cons, List.map_nil, hbyte (by omega : p * 4 + q / 16 < 256)]
      rw [show (p * 4 + q / 16) / 4 = p by omega, show (p * 4 + q / 16) % 4 * 16 = q by omega]
  | case4 p q hq =>
      rw [bytesOf, if_neg hq] at h
      cases h
  | case5 p q r hr =>
      rw [bytesOf, if_pos hr] at h
      obtain rfl := Option.some.inj h
      simp only [List.forall_mem_cons] at hlt
      obtain ⟨hp, hq, hr', -⟩ := hlt
      simp only [encodeChars, List.map_cons, List.map_nil, hbyte (by omega : p * 4 + q / 16 < 256),
        hbyte (by omega : q % 16 * 16 + r / 4 < 256)]
      rw [show (p * 4 + q / 16) / 4 = p by omega,
        show (p * 4 + q / 16) % 4 * 16 + (q % 16 * 16 + r / 4) / 16 = q by omega,
        show (q % 16 * 16 + r / 4) % 16 * 4 = r by omega]
  | case6 p q r hr =>
      rw [bytesOf, if_neg hr] at h
      cases h
  | case7 p q r s rest ih =>
      rw [bytesOf] at h
      obtain ⟨more, hmore, rfl⟩ := Option.map_eq_some_iff.mp h
      simp only [List.forall_mem_cons] at hlt
      obtain ⟨hp, hq, hr, hs, hrest⟩ := hlt
      simp only [encodeChars, List.map_cons, ih hmore hrest,
        hbyte (by omega : p * 4 + q / 16 < 256), hbyte (by omega : q % 16 * 16 + r / 4 < 256),
        hbyte (by omega : r % 4 * 64 + s < 256)]
      rw [show (p * 4 + q / 16) / 4 = p by omega,
        show (p * 4 + q / 16) % 4 * 16 + (q % 16 * 16 + r / 4) / 16 = q by omega,
        show (q % 16 * 16 + r / 4) % 16 * 4 + (r % 4 * 64 + s) / 64 = r by omega,
        show (r % 4 * 64 + s) % 64 = s by omega]

/-- What can be read has been written: nothing is padded, and no bit is left over. -/
theorem encode_of_decode {s : String} {bytes : List UInt8} (h : decode s = some bytes) :
    encode bytes = s := by
  obtain ⟨ns, hns, hbytes⟩ := Option.bind_eq_some_iff.mp h
  obtain ⟨hdigits, hlt⟩ := map_digit_of_values? hns
  rw [encode, encodeChars_of_bytesOf hbytes hlt, hdigits, String.ofList_toList]

end ResourceKernel.Text.Base64
