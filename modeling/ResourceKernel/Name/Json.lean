import ResourceKernel.Json.Document
import ResourceKernel.Name.Basic
import ResourceKernel.Uri.Reader

/-!
# Names in JSON

A name is a record of its kind and its value.
-/

namespace ResourceKernel.Name

open Json (Value)

mutual

def toJson : Name → Value
  | .text s => form .text (.text s)
  | .integer n => form .integer (.int n.toInt)
  | .uri u => form .uri (.text u.text)
  | .bytes bs => form .bytes (.list (bs.map fun b ↦ .int b.toNat))
  | .composite parts => form .composite (.list (toJsonParts parts))
where
  form (kind : NameKind) (v : Value) : Value := .fields [("kind", .text kind.tag), ("value", v)]

def toJsonParts : List Name → List Value
  | [] => []
  | part :: rest => part.toJson :: toJsonParts rest

end

def integer? (v : Value) : Option Int64 :=
  v.int?.bind fun n ↦
    if Int64.minValue.toInt ≤ n ∧ n ≤ Int64.maxValue.toInt then some (Int64.ofInt n) else none

def byte? (v : Value) : Option UInt8 := (Document.natBelow? 256 v).map UInt8.ofNat

def uri? (v : Value) : Option Uri :=
  v.text?.bind fun s ↦
    match Uri.ofText s with
    | .ok u => some u
    | .error _ => none

/-- The name in JSON form, where composite names nest below `levels`. -/
def ofJsonBelow : (levels : Nat) → Value → Option Name
  | 0, _ => none
  | levels + 1, v => do
      let r ← Record.of? ["kind", "value"] v
      match ← r.required? "kind" (Document.oneOf? NameKind.all NameKind.tag) with
      | .text => return .text (← r.required? "value" Value.text?)
      | .integer => return .integer (← r.required? "value" integer?)
      | .uri => return .uri (← r.required? "value" uri?)
      | .bytes => return .bytes (← r.required? "value" (Document.listOf? byte?))
      | .composite =>
          return .composite (← r.required? "value" (Document.listOf? (ofJsonBelow levels)))

/-- The name in JSON form. Names nest no deeper than JSON documents do. -/
def ofJson? (v : Value) : Option Name := ofJsonBelow (Json.maxDepth + 1) v

end ResourceKernel.Name
