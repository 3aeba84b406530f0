import ResourceKernel.Json.Document
import ResourceKernel.Resource.Identity

/-!
# Constraint reports

A report tells of a request that violated the constraints of a resource. It is known by the
resource and by the failure it correlates with, and never changes.
-/

namespace ResourceKernel

structure FailureId where
  value : UInt32
  deriving DecidableEq, Repr, Inhabited

namespace FailureId

instance : Ord FailureId := ⟨fun a b ↦ compare a.value.toNat b.value.toNat⟩

def display (f : FailureId) : String := Text.Hex.ofWord f.value

end FailureId

structure Request where
  method : String
  path : String
  headers : Table String String := ∅
  body : Option String := none
  deriving DecidableEq, Repr, Inhabited

namespace Request

open Json (Value)

def withHeader (r : Request) (name value : String) : Request :=
  { r with headers := r.headers.insert name value }

def fieldNames : List String := ["method", "path", "headers", "body"]

/-- The JSON form. Only a request that has a body mentions one. -/
def toJson (r : Request) : Value :=
  .fields ([("method", .text r.method), ("path", .text r.path),
    ("headers", .fields (r.headers.entries.map fun e ↦ (e.1, .text e.2)))] ++
    match r.body with
    | some body => [("body", .text body)]
    | none => [])

def ofJson? (v : Value) : Option Request := do
  let r ← Record.of? fieldNames v
  return {
    method := ← r.required? "method" Value.text?
    path := ← r.required? "path" Value.text?
    headers := ← r.default? "headers" ∅ Value.textTable?
    body := ← r.optional? "body" Value.text? }

end Request

structure ReportId where
  resource : ResourceId
  failure : FailureId
  deriving DecidableEq, Repr, Inhabited

namespace ReportId

/-- Reports are ordered by resource first. -/
instance : Ord ReportId :=
  ⟨fun a b ↦ (compare a.resource b.resource).then (compare a.failure b.failure)⟩

def display (id : ReportId) : String := id.resource.display ++ "#" ++ id.failure.display

end ReportId

structure Report where
  id : ReportId
  date : Int
  request : Request
  constraints : List String
  deriving DecidableEq, Repr, Inhabited

end ResourceKernel
