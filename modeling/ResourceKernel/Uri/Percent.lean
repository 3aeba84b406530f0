import ResourceKernel.Text.Hex
import ResourceKernel.Text.Utf8

/-!
# Percent encoding

Each part of a URI has its own set of characters that are written as bytes after percent signs.
Control characters and characters beyond ASCII belong to every set.
-/

namespace ResourceKernel.Uri

open Text

/-- The characters that are encoded everywhere. -/
def isControl (c : Char) : Bool := c.toNat < 0x20 || 0x7E < c.toNat

def encodedInFragment (c : Char) : Bool := isControl c || " \"<>`".toList.contains c

def encodedInQuery (c : Char) : Bool := isControl c || " \"#<>".toList.contains c

/-- In the query of a scheme that has hosts of the web, the apostrophe is encoded as well. -/
def encodedInSpecialQuery (c : Char) : Bool := encodedInQuery c || c == '\''

def encodedInPath (c : Char) : Bool :=
  encodedInFragment c || "#?".toList.contains c || c == '\x7b' || c == '\x7d'

def encodedInUserInfo (c : Char) : Bool := encodedInPath c || "/:;=@[\\]^|".toList.contains c

def percentByte (b : UInt8) : List Char :=
  '%' :: (Hex.byteDigits b).map Char.toUpper

def percentEncode (inSet : Char → Bool) (cs : List Char) : List Char :=
  cs.flatMap fun c ↦
    if inSet c then (Utf8.encode (String.ofList [c])).flatMap percentByte else [c]

/-- The bytes of a text in which a percent sign and two digits stand for one byte. -/
def percentDecode : List Char → List UInt8
  | [] => []
  | '%' :: a :: b :: rest =>
      match Hex.value? a, Hex.value? b with
      | some h, some l => UInt8.ofNat (16 * h + l) :: percentDecode rest
      | _, _ => '%'.toNat.toUInt8 :: percentDecode (a :: b :: rest)
  | c :: rest => Utf8.encode (String.ofList [c]) ++ percentDecode rest

end ResourceKernel.Uri
