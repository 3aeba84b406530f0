import ResourceKernel.Store.State
import ResourceKernel.Text.Blank

/-!
# The endpoint directory

At most one live endpoint publishes a resource. A path keeps its endpoint for ever, and a deleted
endpoint does not change.
-/

namespace ResourceKernel.Directory

def putRow (s : StoreState) (path : String) (e : Endpoint) : StoreState :=
  { s with endpoints := { s.endpoints with byPath := s.endpoints.byPath.insert path e } }

def putLive (s : StoreState) (key : StoredKey) (path : String) : StoreState :=
  { s with endpoints := { s.endpoints with live := s.endpoints.live.insert key path } }

def dropLive (s : StoreState) (key : StoredKey) : StoreState :=
  { s with endpoints := { s.endpoints with live := s.endpoints.live.erase key } }

/-- Publishes a resource at a path that has no endpoint yet. -/
def create (path : String) (resource : ResourceId) (created : Int) (tag : EntityTag) :
    Operation Endpoint :=
  if Text.isBlankText path then .error (.endpoint (.invalidPath path))
  else
    .withKey resource fun key s ↦
      match s.endpoints.byPath.find? path, s.endpoints.live.find? key with
      | some _, _ => (.error (.endpoint (.duplicatePath path)), s)
      | none, some existing => (.error (.endpoint (.alreadyPublished resource existing)), s)
      | none, none =>
          let e : Endpoint := ⟨path, some resource, created, none, tag, created⟩
          (.ok e, putRow (putLive s key path) path e)

def modify (path : String) (tag : EntityTag) (lastModified : Int) : Operation Endpoint :=
  .ok fun s ↦
    match s.endpoints.liveAt path with
    | .error fault => (.error (.endpoint fault), s)
    | .ok e =>
        let e := { e with entityTag := tag, lastModified := lastModified }
        (.ok e, putRow s path e)

/-- Deletes a live endpoint. Its row stays without a resource. -/
def delete (path : String) (time : Int) : Operation Endpoint :=
  .ok fun s ↦
    match s.endpoints.liveAt path with
    | .error fault => (.error (.endpoint fault), s)
    | .ok e =>
        let row := { e with resource := none, deleted := some time, lastModified := time }
        let s := putRow s path row
        match e.resource with
        | none => (.ok row, s)
        | some resource =>
            match resource.keyed with
            | .error fault => (.error fault, s)
            | .ok key => (.ok row, dropLive s key)

def findByPath (path : String) : Operation (Option Endpoint) :=
  .ok (Edit.query fun s ↦ .ok (s.endpoints.byPath.find? path))

def findByResource (resource : ResourceId) : Operation (Option Endpoint) :=
  .ok (Edit.query fun s ↦ resource.keyed.map s.endpoints.publishing?)

end ResourceKernel.Directory
