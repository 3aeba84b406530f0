import ResourceKernel.Text.Decimal
import ResourceKernel.Text.Hex

/-!
# JSON values and their compact text

The members of an object keep their order and may repeat a name, so that a reader of a certain
kind of document can refuse repeated names.
-/

namespace ResourceKernel

open Text

namespace Json

/-- A JSON value. Numbers that are not written as integers, or are beyond 64 bits, are not told
apart. What keeps the rules of JSON but can stand only where nobody reads it is unreadable: a
number too large for a floating point number, half of a surrogate pair, or nesting too deep. -/
inductive Value
  | null
  | bool (b : Bool)
  | int (n : Int)
  | real
  | text (s : String)
  | list (xs : List Value)
  | fields (kvs : List (String × Value))
  | unreadable
  deriving Repr, Inhabited

def escape (c : Char) : List Char :=
  if c = '"' then ['\\', '"']
  else if c = '\\' then ['\\', '\\']
  else if c.toNat = 8 then ['\\', 'b']
  else if c.toNat = 9 then ['\\', 't']
  else if c.toNat = 10 then ['\\', 'n']
  else if c.toNat = 12 then ['\\', 'f']
  else if c.toNat = 13 then ['\\', 'r']
  else if c.toNat < 0x20 then '\\' :: 'u' :: '0' :: '0' :: Hex.byteDigits (UInt8.ofNat c.toNat)
  else [c]

def quoted (s : String) : List Char := '"' :: s.toList.flatMap escape ++ ['"']

mutual

def Value.chars : Value → List Char
  | .null => "null".toList
  | .bool true => "true".toList
  | .bool false => "false".toList
  | .int n => Decimal.charsOfInt n
  | .real | .unreadable => "null".toList
  | .text s => quoted s
  | .list xs => '[' :: itemChars xs ++ [']']
  | .fields kvs => '\x7b' :: memberChars kvs ++ ['\x7d']

def itemChars : List Value → List Char
  | [] => []
  | [x] => x.chars
  | x :: y :: rest => x.chars ++ ',' :: itemChars (y :: rest)

def memberChars : List (String × Value) → List Char
  | [] => []
  | [(k, v)] => quoted k ++ ':' :: v.chars
  | (k, v) :: kv :: rest => quoted k ++ ':' :: v.chars ++ ',' :: memberChars (kv :: rest)

end

def Value.render (v : Value) : String := String.ofList v.chars

end Json

end ResourceKernel
