import Mathlib.Logic.Relation
import ResourceKernel.Proofs.Graph.Members
import ResourceKernel.Transaction.Change

/-!
# What operations do to a state

Whatever an operation of the graph or of the directory does, it does in a few elementary steps.
Each step is given with all that the operation has made sure of before it takes the step, so that
a property of states that the steps keep is kept by all operations.
-/

namespace ResourceKernel

/-- An elementary step of an operation over a library, from a state to the state after it. -/
inductive Effect (library : TemplateLibrary) (s : StoreState) : StoreState → Prop
  | found {ref : TemplateId} {t : Template} {id : ResourceId} {parent : Option ResourceId}
      {key : StoredKey} (htemplate : library.find? ref = some t)
      (hid : id.templateId = ref ∨ id.templateId = t.id)
      (hparent : ∀ p ∈ parent, ∃ parentKey e, p.keyed = .ok parentKey ∧
        s.entity? parentKey = some e)
      (hkey : id.keyed = .ok key) (hfree : s.entity? key = none) :
      Effect library s (s.putEntity key (Entity.fresh t id parent))
  | bound {resource child : ResourceId} {slot : String} {expected : TemplateKind}
      {t : Template} {key childKey : StoredKey} {e c : Entity}
      (hallowed : Graph.childTemplate library resource slot child expected = .ok t)
      (hkey : resource.keyed = .ok key) (he : s.entity? key = some e)
      (hslot : e.base.slots.find? slot = some none) (hnew : e.base.slotOf? child = none)
      (hchild : child.keyed = .ok childKey) (hc : s.entity? childKey = some c)
      (hparent : c.base.parent = some resource) :
      Effect library s (s.putEntity key
        (e.withBase { e.base with slots := e.base.slots.insert slot (some child) }))
  | cleared {key : StoredKey} {e : Entity} {slot : String} {bound : Option ResourceId}
      (he : s.entity? key = some e) (hslot : e.base.slots.find? slot = some bound) :
      Effect library s (s.putEntity key
        (e.withBase { e.base with slots := e.base.slots.insert slot none }))
  | entered {container member : ResourceId} {t : Template} {key memberKey : StoredKey}
      {c : Container} {e : Entity} (hallowed : Graph.memberTemplate library container = .ok t)
      (hid : member.templateId = t.id) (hkey : container.keyed = .ok key)
      (hc : s.entity? key = some (.container c)) (hnew : c.hasMember member = false)
      (hmember : member.keyed = .ok memberKey) (he : s.entity? memberKey = some e)
      (hparent : e.base.parent = some container) :
      Effect library s (s.putEntity key (.container (c.entered member)))
  | dropped {key : StoredKey} {c : Container} {member : ResourceId}
      (hc : s.entity? key = some (.container c)) :
      Effect library s (s.putEntity key (.container (c.removeMember member).2))
  | merged {key : StoredKey} {c : Container} {candidate : Slug}
      (hc : s.entity? key = some (.container c)) :
      Effect library s
        { s.putEntity key (.container (c.mergeSlug s.slugs candidate).2.1) with
          slugs := (c.mergeSlug s.slugs candidate).2.2 }
  | advanced {index : Nat} {path : String} {slugs : SlugPool}
      (hnext : s.slugs.nextPath? index = some (path, slugs)) :
      Effect library s { s with slugs := slugs }
  | directed {key : StoredKey} {e : Entity} {indirectId : Option Uri}
      (he : s.entity? key = some e) :
      Effect library s (s.putEntity key (e.withBase { e.base with indirectId := indirectId }))
  | complained {id : ResourceId} {key : StoredKey} {e : Entity} {draws : List FailureId}
      {complaint : Graph.Complaint} {report : Report} {base : Resource}
      (hkey : id.keyed = .ok key) (he : s.entity? key = some e)
      (hreport : e.base.report? draws complaint.constraints complaint.date complaint.request =
        some (report, base)) :
      Effect library s
        { s.putEntity key (e.withBase base) with reports := s.reports.insert report.id report }
  | complainedAside {key : StoredKey} {e : Entity} {draws : List FailureId}
      {complaint : Graph.Complaint} {report : Report} {base : Resource}
      (he : s.entity? key = some e)
      (hreport : e.base.report? draws complaint.constraints complaint.date complaint.request =
        some (report, base)) :
      Effect library s (s.putEntity key (e.withBase base))
  | settled {id : ReportId} {key : StoredKey} {e : Entity} (hkey : id.resource.keyed = .ok key)
      (he : s.entity? key = some e) :
      Effect library s
        { s.putEntity key (e.withBase (e.base.removeFailure id.failure).2) with
          reports := s.reports.erase id }
  | removed {id : ResourceId} {key : StoredKey} {e : Entity} (hkey : id.keyed = .ok key)
      (he : s.entity? key = some e) :
      Effect library s
        { s with
          resources := s.resources.erase key
          reports := s.reports.filter fun report _ ↦ report.resource ≠ id }
  | published {path : String} {resource : ResourceId} {created : Int} {tag : EntityTag}
      {key : StoredKey} (hpath : Text.isBlankText path = false) (hkey : resource.keyed = .ok key)
      (hfree : s.endpoints.byPath.find? path = none)
      (hnew : s.endpoints.live.find? key = none) :
      Effect library s (Directory.putRow (Directory.putLive s key path) path
        ⟨path, some resource, created, none, tag, created⟩)
  | amended {path : String} {e : Endpoint} {tag : EntityTag} {lastModified : Int}
      (he : s.endpoints.liveAt path = .ok e) :
      Effect library s
        (Directory.putRow s path { e with entityTag := tag, lastModified := lastModified })
  | retracted {path : String} {e : Endpoint} {resource : ResourceId} {key : StoredKey}
      {time : Int} (he : s.endpoints.liveAt path = .ok e) (hresource : e.resource = some resource)
      (hkey : resource.keyed = .ok key) :
      Effect library s (Directory.dropLive
        (Directory.putRow s path
          { e with resource := none, deleted := some time, lastModified := time }) key)

abbrev Effects (library : TemplateLibrary) : StoreState → StoreState → Prop :=
  Relation.ReflTransGen (Effect library)

end ResourceKernel
