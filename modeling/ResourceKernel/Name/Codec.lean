import ResourceKernel.Name.Basic
import ResourceKernel.Text.BigEndian
import ResourceKernel.Text.Utf8
import ResourceKernel.Uri.Reader

/-!
# Names as bytes

A name is a byte for its kind, the length of its content in four bytes, and the content. The
content of a composite name is the names of its parts in a row. Names nest at most 32 deep, in
writing as in reading.
-/

namespace ResourceKernel

open Text

inductive NameFault
  | tooDeep
  | tooLarge (length : Nat)
  | truncatedHeader
  | unknownKind (code : UInt8)
  | truncatedContent
  | integerWidth (length : Nat)
  | notUtf8 (fault : Utf8.Fault)
  | notUri (raw : String) (fault : UriFault)
  | trailing (count : Nat)
  deriving DecidableEq, Repr

def NameFault.message : NameFault → String
  | .tooDeep => "composite name nests too deeply"
  | .tooLarge n => "name payload of " ++ Decimal.ofNat n ++ " bytes is too large"
  | .truncatedHeader => "truncated name header"
  | .unknownKind c => "unknown name kind code " ++ Decimal.ofNat c.toNat
  | .truncatedContent => "truncated name payload"
  | .integerWidth n => "integer name has " ++ Decimal.ofNat n ++ " bytes"
  | .notUtf8 f => "name payload is not utf-8: " ++ f.message
  | .notUri raw f => "invalid uri name " ++ raw ++ ": " ++ f.message
  | .trailing n => Decimal.ofNat n ++ " trailing bytes after encoded name"

namespace Name

/-- The deepest level at which a part of a name may stand. -/
def maxDepth : Nat := 32

/-- Kind and length before every content. -/
def headerLength : Nat := 5

/-! ## Writing -/

def frame (kind : NameKind) (content : List UInt8) : Except NameFault (List UInt8) :=
  if content.length < UInt32.size then
    .ok (kind.code :: (BigEndian.encode 4 content.length ++ content))
  else .error (.tooLarge content.length)

def integerBytes (n : Int64) : List UInt8 := BigEndian.encode 8 n.toUInt64.toNat

mutual

/-- The bytes of a name that stands `depth` levels deep. -/
def write (depth : Nat) : Name → Except NameFault (List UInt8)
  | .text s => if maxDepth < depth then .error .tooDeep else frame .text (Utf8.encode s)
  | .integer n => if maxDepth < depth then .error .tooDeep else frame .integer (integerBytes n)
  | .uri u => if maxDepth < depth then .error .tooDeep else frame .uri (Utf8.encode u.text)
  | .bytes bs => if maxDepth < depth then .error .tooDeep else frame .bytes bs
  | .composite parts =>
      if maxDepth < depth then .error .tooDeep
      else
        match writeParts (depth + 1) parts with
        | .ok content => frame .composite content
        | .error e => .error e

def writeParts (depth : Nat) : List Name → Except NameFault (List UInt8)
  | [] => .ok []
  | part :: rest =>
      match part.write depth with
      | .error e => .error e
      | .ok head =>
          match writeParts depth rest with
          | .error e => .error e
          | .ok tail => .ok (head ++ tail)

end

def toBytes (n : Name) : Except NameFault (List UInt8) := n.write 0

/-! ## Reading -/

def integerOf (content : List UInt8) : Except NameFault Name :=
  if content.length = 8 then
    .ok (.integer (UInt64.ofNat (BigEndian.decode content)).toInt64)
  else .error (.integerWidth content.length)

def textOf (content : List UInt8) : Except NameFault String :=
  match Utf8.decode content with
  | .ok s => .ok s
  | .error f => .error (.notUtf8 f)

def uriOf (content : List UInt8) : Except NameFault Name :=
  match textOf content with
  | .error e => .error e
  | .ok raw =>
      match Uri.ofText raw with
      | .ok u => .ok (.uri u)
      | .error f => .error (.notUri raw f)

def readFrame (data : List UInt8) : Except NameFault (NameKind × List UInt8) :=
  if data.length < headerLength then .error .truncatedHeader
  else
    match data with
    | [] => .error .truncatedHeader
    | code :: rest =>
        match NameKind.ofCode? code with
        | none => .error (.unknownKind code)
        | some kind =>
            let length := BigEndian.decode (rest.take 4)
            let content := (rest.drop 4).take length
            if content.length = length then .ok (kind, content) else .error .truncatedContent

/-- Names in a row up to the end of the bytes. Every name takes a byte at least, so the length of
the bytes is enough `fuel`. -/
def readRow (read : List UInt8 → Except NameFault (Name × Nat)) :
    (fuel : Nat) → List UInt8 → Except NameFault (List Name)
  | _, [] => .ok []
  | 0, _ :: _ => .error .truncatedHeader
  | fuel + 1, b :: data =>
      match read (b :: data) with
      | .error e => .error e
      | .ok (part, count) =>
          match readRow read fuel ((b :: data).drop count) with
          | .error e => .error e
          | .ok parts => .ok (part :: parts)

/-- The name at the head of the bytes and the number of bytes it takes, where a name may have
fewer than `levels` composite levels. -/
def readBelow : (levels : Nat) → List UInt8 → Except NameFault (Name × Nat)
  | 0, _ => .error .tooDeep
  | levels + 1, data =>
      match readFrame data with
      | .error e => .error e
      | .ok (kind, content) =>
          let name : Except NameFault Name :=
            match kind with
            | .text => (textOf content).map .text
            | .integer => integerOf content
            | .uri => uriOf content
            | .bytes => .ok (.bytes content)
            | .composite => (readRow (readBelow levels) content.length content).map .composite
          name.map fun n ↦ (n, headerLength + content.length)

/-- The name at the head of the bytes, `depth` levels deep, and the number of bytes it takes. -/
def read (depth : Nat) (data : List UInt8) : Except NameFault (Name × Nat) :=
  readBelow (maxDepth + 1 - depth) data

def ofBytes (data : List UInt8) : Except NameFault Name :=
  match read 0 data with
  | .error e => .error e
  | .ok (n, count) =>
      if count = data.length then .ok n else .error (.trailing (data.length - count))

end Name

end ResourceKernel
