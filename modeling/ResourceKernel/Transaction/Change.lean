import ResourceKernel.Endpoint.Directory
import ResourceKernel.Graph.Operations

/-!
# Changes

All changes that a transaction can make to its state, as data, so that a history of a store is a
list of changes.
-/

namespace ResourceKernel

inductive Change
  | create (template : TemplateId) (name : Name)
  | attach (resource : ResourceId) (slot : String) (child : ResourceId) (expected : TemplateKind)
  | detach (resource : ResourceId) (slot : String)
  | addMember (container : ResourceId) (name : Name)
  | removeMember (container member : ResourceId)
  | addSlug (container : ResourceId) (preferred : String)
  | mergeSlug (container : ResourceId) (candidate : Slug)
  | setIndirectId (resource : ResourceId) (indirectId : Option Uri)
  | addReport (resource : ResourceId) (draws : List FailureId) (complaint : Graph.Complaint)
  | reportAside (resource : ResourceId) (draws : List FailureId) (complaint : Graph.Complaint)
  | removeFailure (id : ReportId)
  | remove (resource : ResourceId)
  | publish (path : String) (resource : ResourceId) (created : Int) (tag : EntityTag)
  | amend (path : String) (tag : EntityTag) (lastModified : Int)
  | retract (path : String) (time : Int)
  deriving DecidableEq, Repr

inductive Reply
  | done
  | flag (b : Bool)
  | entity (e : Entity)
  | member (m : Member)
  | slug (index : Option Nat)
  | report (r : Option Report)
  | endpoint (e : Endpoint)
  deriving DecidableEq, Repr

def Operation.answering {α : Type} (o : Operation α) (reply : α → Reply) : Operation Reply :=
  o.map fun (edit : Edit α) s ↦ ((edit s).1.map reply, (edit s).2)

def Change.operation (library : TemplateLibrary) : Change → Operation Reply
  | .create template name => (Graph.create library template name).answering .entity
  | .attach resource slot child expected =>
      (Graph.attach library resource slot child expected).answering .flag
  | .detach resource slot => (Graph.detach resource slot).answering .flag
  | .addMember container name => (Graph.addMember library container name).answering .member
  | .removeMember container member => (Graph.removeMember container member).answering .flag
  | .addSlug container preferred =>
      (Graph.addSlug container preferred).answering fun i ↦ .slug (some i)
  | .mergeSlug container candidate => (Graph.mergeSlug container candidate).answering .slug
  | .setIndirectId resource indirectId =>
      (Graph.setIndirectId resource indirectId).answering fun _ ↦ .done
  | .addReport resource draws complaint =>
      (Graph.addReport resource draws complaint).answering fun r ↦ .report (some r)
  | .reportAside resource draws complaint =>
      (Graph.reportAside resource draws complaint).answering .report
  | .removeFailure id => (Graph.removeFailure id).answering .flag
  | .remove resource => (Graph.remove resource).answering .flag
  | .publish path resource created tag =>
      (Directory.create path resource created tag).answering .endpoint
  | .amend path tag lastModified => (Directory.modify path tag lastModified).answering .endpoint
  | .retract path time => (Directory.delete path time).answering .endpoint

end ResourceKernel
