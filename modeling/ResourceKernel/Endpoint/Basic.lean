import ResourceKernel.Digest.Sha256
import ResourceKernel.Fault
import ResourceKernel.Json.Document
import ResourceKernel.Text.Utf8

/-!
# Endpoints

An endpoint publishes a resource at a path. A deleted endpoint keeps its path for ever, has no
resource, and never changes again.
-/

namespace ResourceKernel

open Json (Value)

structure EntityTag where
  value : String
  weak : Bool
  deriving DecidableEq, Repr, Inhabited

namespace EntityTag

def digest (bytes : List UInt8) : EntityTag := ⟨(Digest.Sha256.ofBytes bytes).text, false⟩

def display (t : EntityTag) : String := (if t.weak then "W/\"" else "\"") ++ t.value ++ "\""

def toJson (t : EntityTag) : Value := .fields [("value", .text t.value), ("weak", .bool t.weak)]

def ofJson? (v : Value) : Option EntityTag := do
  let r ← Record.of? ["value", "weak"] v
  return ⟨← r.required? "value" Value.text?, ← r.required? "weak" Value.bool?⟩

end EntityTag

/-- A row of the directory. Times are in seconds. -/
structure Endpoint where
  path : String
  resource : Option ResourceId
  created : Int
  deleted : Option Int
  entityTag : EntityTag
  lastModified : Int
  deriving DecidableEq, Repr, Inhabited

namespace Endpoint

def isDeleted (e : Endpoint) : Bool := e.deleted.isSome

def toJson (e : Endpoint) : Value :=
  let orNull {α : Type} (form : α → Value) (a : Option α) : Value := (a.map form).getD .null
  .fields [("path", .text e.path), ("resource", orNull ResourceId.toJson e.resource),
    ("created", .int e.created), ("deleted", orNull .int e.deleted),
    ("is_deleted", .bool e.isDeleted), ("entity_tag", .text e.entityTag.display),
    ("last_modified", .int e.lastModified)]

end Endpoint

/-- The rows by path, and the paths of the live ones by key of their resource. -/
structure EndpointTable where
  byPath : Table String Endpoint
  live : Table StoredKey String
  deriving DecidableEq, Repr

namespace EndpointTable

def empty : EndpointTable := ⟨∅, ∅⟩

instance : Inhabited EndpointTable := ⟨empty⟩

/-- The row at a path, which has to be live. -/
def liveAt (t : EndpointTable) (path : String) : Except EndpointFault Endpoint :=
  match t.byPath.find? path with
  | none => .error (.unknownEndpoint path)
  | some e => if e.isDeleted then .error (.deleted e.path) else .ok e

def publishing? (t : EndpointTable) (key : StoredKey) : Option Endpoint :=
  (t.live.find? key).bind t.byPath.find?

end EndpointTable

end ResourceKernel
