import ResourceKernel.Text.BigEndian
import ResourceKernel.Text.Hex

/-!
# SHA-256

The digest of a byte string, over 32-bit words that wrap.
-/

namespace ResourceKernel.Digest

open ResourceKernel.Text

/-- One word for each of the 64 rounds: the first 32 bits after the point of the cube roots of
the first 64 primes. -/
def roundWords : List UInt32 :=
  [0x428a2f98, 0x71374491, 0xb5c0fbcf, 0xe9b5dba5, 0x3956c25b, 0x59f111f1, 0x923f82a4, 0xab1c5ed5,
    0xd807aa98, 0x12835b01, 0x243185be, 0x550c7dc3, 0x72be5d74, 0x80deb1fe, 0x9bdc06a7, 0xc19bf174,
    0xe49b69c1, 0xefbe4786, 0x0fc19dc6, 0x240ca1cc, 0x2de92c6f, 0x4a7484aa, 0x5cb0a9dc, 0x76f988da,
    0x983e5152, 0xa831c66d, 0xb00327c8, 0xbf597fc7, 0xc6e00bf3, 0xd5a79147, 0x06ca6351, 0x14292967,
    0x27b70a85, 0x2e1b2138, 0x4d2c6dfc, 0x53380d13, 0x650a7354, 0x766a0abb, 0x81c2c92e, 0x92722c85,
    0xa2bfe8a1, 0xa81a664b, 0xc24b8b70, 0xc76c51a3, 0xd192e819, 0xd6990624, 0xf40e3585, 0x106aa070,
    0x19a4c116, 0x1e376c08, 0x2748774c, 0x34b0bcb5, 0x391c0cb3, 0x4ed8aa4a, 0x5b9cca4f, 0x682e6ff3,
    0x748f82ee, 0x78a5636f, 0x84c87814, 0x8cc70208, 0x90befffa, 0xa4506ceb, 0xbef9a3f7, 0xc67178f2]

structure Sha256 where
  (a b c d e f g h : UInt32)
  deriving DecidableEq, Repr

namespace Sha256

/-- The first 32 bits after the point of the square roots of the first eight primes. -/
def start : Sha256 :=
  ⟨0x6a09e667, 0xbb67ae85, 0x3c6ef372, 0xa54ff53a,
    0x510e527f, 0x9b05688c, 0x1f83d9ab, 0x5be0cd19⟩

def rotateRight (x : UInt32) (n : UInt32) : UInt32 := (x >>> n) ||| (x <<< (32 - n))

def round (s : Sha256) (word constant : UInt32) : Sha256 :=
  let big := rotateRight s.e 6 ^^^ rotateRight s.e 11 ^^^ rotateRight s.e 25
  let choice := (s.e &&& s.f) ^^^ ((~~~s.e) &&& s.g)
  let first := s.h + big + choice + constant + word
  let small := rotateRight s.a 2 ^^^ rotateRight s.a 13 ^^^ rotateRight s.a 22
  let majority := (s.a &&& s.b) ^^^ (s.a &&& s.c) ^^^ (s.b &&& s.c)
  ⟨first + (small + majority), s.a, s.b, s.c, s.d + first, s.e, s.f, s.g⟩

def add (s t : Sha256) : Sha256 :=
  ⟨s.a + t.a, s.b + t.b, s.c + t.c, s.d + t.d, s.e + t.e, s.f + t.f, s.g + t.g, s.h + t.h⟩

/-- The schedule word that follows the last sixteen, given latest first. -/
def nextWord (recent : List UInt32) : UInt32 :=
  let word (i : Nat) := recent.getD i 0
  let x := word 1
  let y := word 14
  let sigma1 := rotateRight x 17 ^^^ rotateRight x 19 ^^^ (x >>> 10)
  let sigma0 := rotateRight y 7 ^^^ rotateRight y 18 ^^^ (y >>> 3)
  sigma1 + word 6 + sigma0 + word 15

def schedule (block : List UInt32) : List UInt32 :=
  ((List.range 48).foldl (fun latest _ ↦ nextWord latest :: latest) block.reverse).reverse

def absorb (s : Sha256) (block : List UInt32) : Sha256 :=
  s.add (((schedule block).zip roundWords).foldl (fun t w ↦ t.round w.1 w.2) s)

def wordsOf : List UInt8 → List UInt32
  | a :: b :: c :: d :: rest =>
      (a.toUInt32 <<< 24 ||| b.toUInt32 <<< 16 ||| c.toUInt32 <<< 8 ||| d.toUInt32) :: wordsOf rest
  | _ => []

/-- The input, a one bit, zeros up to eight bytes below a block boundary, and the length in bits. -/
def pad (bytes : List UInt8) : List UInt8 :=
  let zeros := (119 - bytes.length % 64) % 64
  let bits := 8 * bytes.length
  bytes ++ 0x80 :: List.replicate zeros 0 ++ BigEndian.encode 8 bits

def absorbAll : (count : Nat) → Sha256 → List UInt32 → Sha256
  | 0, s, _ => s
  | count + 1, s, words => absorbAll count (s.absorb (words.take 16)) (words.drop 16)

def ofBytes (bytes : List UInt8) : Sha256 :=
  let words := wordsOf (pad bytes)
  absorbAll (words.length / 16) start words

def text (s : Sha256) : String :=
  String.join ([s.a, s.b, s.c, s.d, s.e, s.f, s.g, s.h].map Hex.ofWord)

end Sha256

end ResourceKernel.Digest
