/-!
# UTF-8

Text as bytes and back. Reading bytes that are not UTF-8 says where the first faulty sequence
begins, and how many bytes it has if the fault is not just the end of the input.
-/

namespace ResourceKernel.Text.Utf8

structure Fault where
  /-- How many bytes before it are sound. -/
  start : Nat
  /-- How many bytes form the fault; none if the input ends inside a sequence. -/
  width : Option Nat
  deriving DecidableEq, Repr

def Fault.message : Fault → String
  | ⟨start, some width⟩ => s!"invalid utf-8 sequence of {width} bytes from index {start}"
  | ⟨start, none⟩ => s!"incomplete utf-8 byte sequence from index {start}"

def isTail (b : UInt8) : Bool := 0x80 ≤ b && b ≤ 0xBF

/-- The range of the second byte after a given first byte of a longer sequence. This is what
keeps out overlong forms, surrogates and values above the last code point. -/
def secondRange (first : UInt8) : UInt8 × UInt8 :=
  if first == 0xE0 then (0xA0, 0xBF)
  else if first == 0xED then (0x80, 0x9F)
  else if first == 0xF0 then (0x90, 0xBF)
  else if first == 0xF4 then (0x80, 0x8F)
  else (0x80, 0xBF)

/-- The length of a sequence that begins with the byte, if one can. -/
def sequenceLength? (first : UInt8) : Option Nat :=
  if first ≤ 0x7F then some 1
  else if 0xC2 ≤ first && first ≤ 0xDF then some 2
  else if 0xE0 ≤ first && first ≤ 0xEF then some 3
  else if 0xF0 ≤ first && first ≤ 0xF4 then some 4
  else none

/-- How many bytes at the head of the list continue a sequence, at most `want`; none if the list
ends before that is known. -/
def tails : (want : Nat) → List UInt8 → Option Nat
  | 0, _ => some 0
  | _ + 1, [] => none
  | want + 1, b :: rest => if isTail b then (tails want rest).map (· + 1) else some 0

/-- What is wrong with a sequence of the given length that begins with `first`: none if
nothing is, otherwise the width of the fault. -/
def sequenceFault? (length : Nat) (first : UInt8) : List UInt8 → Option (Option Nat)
  | [] => if length ≤ 1 then none else some none
  | second :: rest =>
      if length ≤ 1 then none
      else if second < (secondRange first).1 || (secondRange first).2 < second then some (some 1)
      else
        match tails (length - 2) rest with
        | none => some none
        | some found => if found == length - 2 then none else some (some (found + 2))

/-- The first fault at or after `start`, where `bytes` begins. -/
def faultFrom (start : Nat) (bytes : List UInt8) : Fault :=
  match bytes with
  | [] => ⟨start, none⟩
  | first :: rest =>
      match sequenceLength? first with
      | none => ⟨start, some 1⟩
      | some length =>
          match sequenceFault? length first rest with
          | some width => ⟨start, width⟩
          | none => faultFrom (start + max length 1) (rest.drop (length - 1))
termination_by bytes.length
decreasing_by simp only [List.length_drop, List.length_cons]; omega

def encode (s : String) : List UInt8 := s.toByteArray.data.toList

def decode (bytes : List UInt8) : Except Fault String :=
  match String.fromUTF8? ⟨bytes.toArray⟩ with
  | some s => .ok s
  | none => .error (faultFrom 0 bytes)

@[simp] theorem decode_encode (s : String) : decode (encode s) = .ok s := by
  have h : (⟨(encode s).toArray⟩ : ByteArray) = s.toByteArray := by simp [encode]
  simp [decode, h, String.fromUTF8?, dif_pos s.isValidUTF8, String.fromUTF8]

theorem encode_of_decode {bytes : List UInt8} {s : String} (h : decode bytes = .ok s) :
    encode s = bytes := by
  unfold decode at h
  split at h
  · next t ht =>
    injection h with h
    subst h
    simp only [String.fromUTF8?] at ht
    split at ht
    · injection ht with ht
      subst ht
      simp [encode, String.fromUTF8]
    · simp at ht
  · simp at h

end ResourceKernel.Text.Utf8
