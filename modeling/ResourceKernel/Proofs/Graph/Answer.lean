import ResourceKernel.Proofs.Graph.Sound

/-!
# What changes answer

A change is refused, and leaves the state as it was, or it is granted. For every granted change it
is said here what it has made sure of, what it answers and what it leaves, so that no later proof
has to look into an operation again.
-/

namespace ResourceKernel

/-- A failure, or the answer that there was nothing to do. -/
inductive Refuses : Result Reply → Prop
  | error (fault : KernelError) : Refuses (.error fault)
  | nothing : Refuses (.ok (.flag false))

theorem refuses_ok_iff {reply : Reply} : Refuses (.ok reply) ↔ reply = .flag false := by
  constructor
  · rintro ⟨⟩
    rfl
  · rintro rfl
    exact .nothing

instance : DecidablePred Refuses
  | .error fault => .isTrue (.error fault)
  | .ok _ => decidable_of_iff _ refuses_ok_iff.symm

theorem Operation.on_withKey {α : Type} {id : ResourceId} {key : StoredKey}
    (hkey : id.keyed = .ok key) (edit : StoredKey → Edit α) (s : StoreState) :
    (withKey id edit).on s = edit key s := by
  rw [withKey, hkey]
  rfl

namespace StoreState

/-- The state in which a child is there: made under its parent, unless it has been there before. -/
def provide (s : StoreState) (key : StoredKey) (t : Template) (child parent : ResourceId) :
    StoreState :=
  match s.entity? key with
  | some _ => s
  | none => s.putEntity key (Entity.fresh t child (some parent))

variable {s : StoreState} {key : StoredKey} {t : Template} {child parent : ResourceId}

theorem provide_of_some {e : Entity} (he : s.entity? key = some e) :
    s.provide key t child parent = s := by
  simp only [provide, he]

theorem provide_of_none (hfree : s.entity? key = none) :
    s.provide key t child parent = s.putEntity key (Entity.fresh t child (some parent)) := by
  simp only [provide, hfree]

theorem reports_provide : (s.provide key t child parent).reports = s.reports := by
  unfold provide
  split <;> rfl

theorem endpoints_provide : (s.provide key t child parent).endpoints = s.endpoints := by
  unfold provide
  split <;> rfl

theorem slugs_provide : (s.provide key t child parent).slugs = s.slugs := by
  unfold provide
  split <;> rfl

/-- Providing a child does not touch what is there. -/
theorem entity?_provide (key : StoredKey) (t : Template) (child parent : ResourceId)
    {other : StoredKey} {e : Entity} (he : s.entity? other = some e) :
    (s.provide key t child parent).entity? other = some e := by
  cases hkey : s.entity? key with
  | some _ => rwa [provide_of_some hkey]
  | none =>
      have hne : other ≠ key := by
        rintro rfl
        rw [hkey] at he
        cases he
      rw [provide_of_none hkey, entity?_putEntity_ne s _ hne, he]

theorem exists_provide (t : Template) (child : ResourceId)
    (howned : ∀ c, s.entity? key = some c → c.base.parent = some parent) :
    ∃ c, (s.provide key t child parent).entity? key = some c ∧ c.base.parent = some parent := by
  cases hkey : s.entity? key with
  | some c => exact ⟨c, (provide_of_some hkey).symm ▸ hkey, howned c hkey⟩
  | none =>
      rw [provide_of_none hkey]
      refine ⟨_, entity?_putEntity_self s key _, ?_⟩
      rw [Entity.base_fresh]
      rfl

end StoreState

/-- A change with its answer and the state after it, where the answer is no refusal. -/
inductive Granted (library : TemplateLibrary) (s : StoreState) :
    Change → Reply → StoreState → Prop
  | created {ref : TemplateId} {name : Name} {t : Template} {key : StoredKey}
      (htemplate : library.find? ref = some t)
      (hkey : ResourceId.keyed ⟨name, t.id⟩ = .ok key) (hfree : s.entity? key = none) :
      Granted library s (.create ref name) (.entity (Entity.fresh t ⟨name, t.id⟩ none))
        (s.putEntity key (Entity.fresh t ⟨name, t.id⟩ none))
  | attached {resource child : ResourceId} {slot : String} {expected : TemplateKind}
      {t : Template} {key childKey : StoredKey} {e : Entity}
      (hallowed : Graph.childTemplate library resource slot child expected = .ok t)
      (hkey : resource.keyed = .ok key) (he : s.entity? key = some e)
      (hslot : e.base.slots.find? slot = some none) (hnew : e.base.slotOf? child = none)
      (hchild : child.keyed = .ok childKey)
      (howned : ∀ c, s.entity? childKey = some c → c.base.parent = some resource) :
      Granted library s (.attach resource slot child expected) (.flag true)
        ((s.provide childKey t child resource).putEntity key
          (e.withBase { e.base with slots := e.base.slots.insert slot (some child) }))
  | detached {resource child : ResourceId} {slot : String} {key : StoredKey} {e : Entity}
      (hkey : resource.keyed = .ok key) (he : s.entity? key = some e)
      (hslot : e.base.slots.find? slot = some (some child)) :
      Granted library s (.detach resource slot) (.flag true) (s.putEntity key
        (e.withBase { e.base with slots := e.base.slots.insert slot none }))
  | entered {container : ResourceId} {name : Name} {t : Template} {key memberKey : StoredKey}
      {c : Container} (hallowed : Graph.memberTemplate library container = .ok t)
      (hkey : container.keyed = .ok key) (hc : s.entity? key = some (.container c))
      (hnew : c.hasMember ⟨name, t.id⟩ = false)
      (hmember : ResourceId.keyed ⟨name, t.id⟩ = .ok memberKey)
      (howned : ∀ e, s.entity? memberKey = some e → e.base.parent = some container) :
      Granted library s (.addMember container name) (.member ⟨c.id, ⟨name, t.id⟩, c.counter⟩)
        ((s.provide memberKey t ⟨name, t.id⟩ container).putEntity key
          (.container (c.entered ⟨name, t.id⟩)))
  | dropped {container member : ResourceId} {key : StoredKey} {c : Container}
      (hkey : container.keyed = .ok key) (hc : s.entity? key = some (.container c))
      (hmember : c.hasMember member = true) :
      Granted library s (.removeMember container member) (.flag true)
        (s.putEntity key (.container (c.removeMember member).2))
  | slugAdded {container : ResourceId} {preferred path : String} {key : StoredKey}
      {c : Container} (hkey : container.keyed = .ok key)
      (hc : s.entity? key = some (.container c))
      (hpath : Slug.normalizePath? preferred = some path) :
      Granted library s (.addSlug container preferred)
        (.slug (some (c.mergeSlug s.slugs ⟨c.id, path, 0⟩).1))
        { s.putEntity key (.container (c.mergeSlug s.slugs ⟨c.id, path, 0⟩).2.1) with
          slugs := (c.mergeSlug s.slugs ⟨c.id, path, 0⟩).2.2 }
  | slugMerged {container : ResourceId} {candidate : Slug} {key : StoredKey} {c : Container}
      (hkey : container.keyed = .ok key) (hc : s.entity? key = some (.container c)) :
      Granted library s (.mergeSlug container candidate)
        (.slug (some (c.mergeSlug s.slugs candidate).1))
        { s.putEntity key (.container (c.mergeSlug s.slugs candidate).2.1) with
          slugs := (c.mergeSlug s.slugs candidate).2.2 }
  | noContainer {container : ResourceId} {candidate : Slug} {key : StoredKey}
      (hkey : container.keyed = .ok key)
      (hnone : (s.entity? key).bind Entity.container? = none) :
      Granted library s (.mergeSlug container candidate) (.slug none) s
  | directed {resource : ResourceId} {indirectId : Option Uri} {key : StoredKey} {e : Entity}
      (hkey : resource.keyed = .ok key) (he : s.entity? key = some e) :
      Granted library s (.setIndirectId resource indirectId) .done
        (s.putEntity key (e.withBase { e.base with indirectId := indirectId }))
  | complained {id : ResourceId} {draws : List FailureId} {complaint : Graph.Complaint}
      {key : StoredKey} {e : Entity} {report : Report} {base : Resource}
      (hkey : id.keyed = .ok key) (he : s.entity? key = some e)
      (hreport : e.base.report? draws complaint.constraints complaint.date complaint.request =
        some (report, base)) :
      Granted library s (.addReport id draws complaint) (.report (some report))
        { s.putEntity key (e.withBase base) with reports := s.reports.insert report.id report }
  | complainedAside {id : ResourceId} {draws : List FailureId} {complaint : Graph.Complaint}
      {key : StoredKey} {e : Entity} {report : Report} {base : Resource}
      (hkey : id.keyed = .ok key) (he : s.entity? key = some e)
      (hreport : e.base.report? draws complaint.constraints complaint.date complaint.request =
        some (report, base)) :
      Granted library s (.reportAside id draws complaint) (.report (some report))
        (s.putEntity key (e.withBase base))
  | noResource {id : ResourceId} {draws : List FailureId} {complaint : Graph.Complaint}
      {key : StoredKey} (hkey : id.keyed = .ok key) (hnone : s.entity? key = none) :
      Granted library s (.reportAside id draws complaint) (.report none) s
  | settled {id : ReportId} {key : StoredKey} {e : Entity} (hkey : id.resource.keyed = .ok key)
      (he : s.entity? key = some e) (hfailure : e.base.hasFailure id.failure = true) :
      Granted library s (.removeFailure id) (.flag true)
        { s.putEntity key (e.withBase (e.base.removeFailure id.failure).2) with
          reports := s.reports.erase id }
  | removed {id : ResourceId} {key : StoredKey} {e : Entity} (hkey : id.keyed = .ok key)
      (he : s.entity? key = some e) :
      Granted library s (.remove id) (.flag true)
        { s with
          resources := s.resources.erase key
          reports := s.reports.filter fun report _ ↦ report.resource ≠ id }
  | published {path : String} {resource : ResourceId} {created : Int} {tag : EntityTag}
      {key : StoredKey} (hpath : Text.isBlankText path = false) (hkey : resource.keyed = .ok key)
      (hfree : s.endpoints.byPath.find? path = none)
      (hnew : s.endpoints.live.find? key = none) :
      Granted library s (.publish path resource created tag)
        (.endpoint ⟨path, some resource, created, none, tag, created⟩)
        (Directory.putRow (Directory.putLive s key path) path
          ⟨path, some resource, created, none, tag, created⟩)
  | amended {path : String} {e : Endpoint} {tag : EntityTag} {lastModified : Int}
      (he : s.endpoints.liveAt path = .ok e) :
      Granted library s (.amend path tag lastModified)
        (.endpoint { e with entityTag := tag, lastModified := lastModified })
        (Directory.putRow s path { e with entityTag := tag, lastModified := lastModified })
  | retracted {path : String} {e : Endpoint} {resource : ResourceId} {key : StoredKey}
      {time : Int} (he : s.endpoints.liveAt path = .ok e) (hresource : e.resource = some resource)
      (hkey : resource.keyed = .ok key) :
      Granted library s (.retract path time)
        (.endpoint { e with resource := none, deleted := some time, lastModified := time })
        (Directory.dropLive
          (Directory.putRow s path
            { e with resource := none, deleted := some time, lastModified := time }) key)

/-- What comes of a change: it is refused and changes nothing, or it is granted. -/
inductive Answers (library : TemplateLibrary) (s : StoreState) (c : Change) :
    Result Reply × StoreState → Prop
  | refused {answer : Result Reply} (h : Refuses answer) : Answers library s c (answer, s)
  | granted {reply : Reply} {t : StoreState} (h : Granted library s c reply t) :
      Answers library s c (.ok reply, t)

variable {library : TemplateLibrary} {s : StoreState} {c : Change}

namespace Answers

theorem error (fault : KernelError) : Answers library s c (.error fault, s) :=
  .refused (.error fault)

theorem nothing : Answers library s c (.ok (.flag false), s) := .refused .nothing

theorem withKey {α : Type} {id : ResourceId} {edit : StoredKey → Edit α} {reply : α → Reply}
    (h : ∀ key, id.keyed = .ok key →
      Answers library s c ((edit key s).1.map reply, (edit key s).2)) :
    Answers library s c (((Operation.withKey id edit).answering reply).on s) := by
  unfold Operation.withKey
  cases hkey : id.keyed with
  | error fault => exact error fault
  | ok key => exact h key hkey

theorem withKeyOf {α : Type} {id : ResourceId} {operation : StoredKey → Operation α}
    {reply : α → Reply}
    (h : ∀ key, id.keyed = .ok key →
      Answers library s c (((operation key).answering reply).on s)) :
    Answers library s c (((Operation.withKeyOf id operation).answering reply).on s) := by
  unfold Operation.withKeyOf
  cases hkey : id.keyed with
  | error fault => exact error fault
  | ok key => exact h key hkey

end Answers

namespace Graph

/-! ## Resources -/

theorem answers_create (ref : TemplateId) (name : Name) :
    Answers library s (.create ref name)
      (((create library ref name).answering .entity).on s) := by
  unfold create
  cases htemplate : library.find? ref with
  | none => exact .error _
  | some t =>
      apply Answers.withKey
      intro key hkey
      cases hfree : s.entity? key with
      | some e => exact .error _
      | none => exact .granted (.created htemplate hkey hfree)

theorem answers_remove (id : ResourceId) :
    Answers library s (.remove id) (((remove id).answering .flag).on s) := by
  apply Answers.withKey
  intro key hkey
  cases he : s.entity? key with
  | none => exact .nothing
  | some e => exact .granted (.removed hkey he)

theorem answers_setIndirectId (id : ResourceId) (indirectId : Option Uri) :
    Answers library s (.setIndirectId id indirectId)
      (((setIndirectId id indirectId).answering fun _ ↦ .done).on s) := by
  apply Answers.withKey
  intro key hkey
  cases he : s.entityAt key id with
  | error fault => exact .error _
  | ok e => exact .granted (.directed hkey (StoreState.entityAt_eq_ok_iff.mp he))

/-! ## Attachments -/

theorem checkChild_eq_false_iff {key : StoredKey} {child parent : ResourceId} :
    checkChild s key child parent = .ok false ↔ s.entity? key = none := by
  unfold checkChild
  cases s.entity? key with
  | none => simp
  | some e =>
      cases hparent : e.base.parent with
      | none => simp [hparent]
      | some current => by_cases h : current = parent <;> simp [hparent, h]

theorem checkChild_eq_true_iff {key : StoredKey} {child parent : ResourceId} :
    checkChild s key child parent = .ok true ↔
      ∃ e, s.entity? key = some e ∧ e.base.parent = some parent := by
  unfold checkChild
  cases s.entity? key with
  | none => simp
  | some e =>
      cases hparent : e.base.parent with
      | none => simp [hparent]
      | some current => by_cases h : current = parent <;> simp [hparent, h]

/-- A child that may be given a place is absent, or a child of the parent already. -/
theorem parent_eq_of_checkChild {key : StoredKey} {child parent : ResourceId} {present : Bool}
    (h : checkChild s key child parent = .ok present) (e : Entity) (he : s.entity? key = some e) :
    e.base.parent = some parent := by
  cases present with
  | false =>
      rw [checkChild_eq_false_iff.mp h] at he
      cases he
  | true =>
      obtain ⟨found, hfound, hparent⟩ := checkChild_eq_true_iff.mp h
      obtain rfl := Option.some.inj (hfound.symm.trans he)
      exact hparent

theorem bindChild_eq {key : StoredKey} {slot : String} {child : ResourceId} {e : Entity}
    (he : s.entity? key = some e) (hcheck : e.base.checkBind slot child = .ok true) :
    bindChild key slot child s = (.ok true, s.putEntity key
      (e.withBase { e.base with slots := e.base.slots.insert slot (some child) })) := by
  simp only [bindChild, he, Resource.bind, hcheck]

theorem templateOf_eq_ok_iff {id : ResourceId} {t : Template} :
    templateOf library id = .ok t ↔ library.find? id.templateId = some t := by
  unfold templateOf
  cases library.find? id.templateId <;> simp

theorem findAs_eq_ok_iff {ref : TemplateId} {expected : TemplateKind} {t : Template} :
    library.findAs ref expected = .ok t ↔
      library.find? ref = some t ∧ expected.accepts t.kind = true := by
  unfold TemplateLibrary.findAs
  cases library.find? ref with
  | none => simp
  | some found =>
      dsimp only
      split
      · next haccepts =>
        rw [Except.ok.injEq, Option.some.injEq]
        constructor
        · rintro rfl
          exact ⟨rfl, haccepts⟩
        · exact And.left
      · next haccepts =>
        refine iff_of_false nofun ?_
        rintro ⟨⟨⟩, hkind⟩
        exact haccepts hkind

/-- A child has a template for a slot just if the slot is declared with the child's template, and
that template does where the kind is expected. -/
theorem childTemplate_eq_ok_iff {resource child : ResourceId} {slot : String}
    {expected : TemplateKind} {t : Template} :
    childTemplate library resource slot child expected = .ok t ↔
      (∃ owner declared, library.find? resource.templateId = some owner ∧
        owner.slot? slot = some declared ∧ declared.template = child.templateId) ∧
      library.find? child.templateId = some t ∧ expected.accepts t.kind = true := by
  rw [← findAs_eq_ok_iff]
  constructor
  · intro h
    unfold childTemplate at h
    rcases howner : templateOf library resource with fault | owner
    · simp [howner] at h
    rcases hslot : owner.slot? slot with _ | declared
    · simp [howner, hslot] at h
    simp only [howner, hslot] at h
    split at h
    · next htemplate =>
      exact ⟨⟨owner, declared, templateOf_eq_ok_iff.mp howner, hslot, htemplate⟩, h⟩
    · cases h
  · rintro ⟨⟨owner, declared, howner, hslot, htemplate⟩, hfound⟩
    simp only [childTemplate, templateOf_eq_ok_iff.mpr howner, hslot, if_pos htemplate, hfound]

theorem find?_of_childTemplate {resource child : ResourceId} {slot : String}
    {expected : TemplateKind} {t : Template}
    (h : childTemplate library resource slot child expected = .ok t) :
    library.find? child.templateId = some t :=
  (childTemplate_eq_ok_iff.mp h).2.1

/-- A child that may be bound is made, if it is not there, and bound. -/
theorem attachAt_eq {resource child : ResourceId} {slot : String} {expected : TemplateKind}
    {t : Template} {key childKey : StoredKey} {e : Entity} {present : Bool}
    (hallowed : childTemplate library resource slot child expected = .ok t)
    (he : s.entity? key = some e) (hcheck : e.base.checkBind slot child = .ok true)
    (hchild : checkChild s childKey child resource = .ok present) :
    attachAt library resource slot child expected key childKey s =
      (.ok true, (s.provide childKey t child resource).putEntity key
        (e.withBase { e.base with slots := e.base.slots.insert slot (some child) })) := by
  have hparent : s.entityAt key resource = .ok e := StoreState.entityAt_eq_ok_iff.mpr he
  have hkept := StoreState.entity?_provide childKey t child resource he
  cases present with
  | false =>
      rw [StoreState.provide_of_none (checkChild_eq_false_iff.mp hchild)] at hkept ⊢
      simp only [attachAt, hparent, hallowed, hcheck, hchild]
      exact bindChild_eq hkept hcheck
  | true =>
      obtain ⟨found, hfound, -⟩ := checkChild_eq_true_iff.mp hchild
      rw [StoreState.provide_of_some hfound]
      simp only [attachAt, hparent, hallowed, hcheck, hchild]
      exact bindChild_eq he hcheck

theorem answers_attach (resource : ResourceId) (slot : String) (child : ResourceId)
    (expected : TemplateKind) :
    Answers library s (.attach resource slot child expected)
      (((attach library resource slot child expected).answering .flag).on s) := by
  refine .withKeyOf fun key hkey ↦ .withKey fun childKey hchildKey ↦ ?_
  rcases hparent : s.entityAt key resource with fault | e
  · simp only [attachAt, hparent]
    exact .error _
  have he := StoreState.entityAt_eq_ok_iff.mp hparent
  rcases hallowed : childTemplate library resource slot child expected with fault | t
  · simp only [attachAt, hparent, hallowed]
    exact .error _
  rcases hcheck : e.base.checkBind slot child with fault | _ | _
  · simp only [attachAt, hparent, hallowed, hcheck]
    exact .error _
  · simp only [attachAt, hparent, hallowed, hcheck]
    exact .nothing
  rcases hchild : checkChild s childKey child resource with fault | present
  · simp only [attachAt, hparent, hallowed, hcheck, hchild]
    exact .error _
  obtain ⟨hslot, hnew⟩ := Resource.checkBind_eq_true_iff.mp hcheck
  rw [attachAt_eq hallowed he hcheck hchild]
  exact .granted (.attached hallowed hkey he hslot hnew hchildKey (parent_eq_of_checkChild hchild))

theorem answers_detach (resource : ResourceId) (slot : String) :
    Answers library s (.detach resource slot)
      (((detach resource slot).answering .flag).on s) := by
  apply Answers.withKey
  intro key hkey
  cases he : s.entityAt key resource with
  | error fault => exact .error _
  | ok e =>
      have hfind := StoreState.entityAt_eq_ok_iff.mp he
      cases hslot : e.base.slots.find? slot with
      | none =>
          simp only [Resource.unbind, hslot]
          exact .error _
      | some bound =>
          simp only [Resource.unbind, hslot]
          cases bound with
          | some child => exact .granted (.detached hkey hfind hslot)
          | none =>
              -- a slot with nothing in it is cleared to what it was
              have hbase :
                  e.withBase { e.base with slots := e.base.slots.insert slot none } = e := by
                rw [Table.insert_eq_self hslot]
                exact e.withBase_base
              rw [hbase, StoreState.putEntity_eq_self hfind]
              exact .nothing

/-! ## Members -/

theorem memberTemplate_eq_ok_iff {container : ResourceId} {t : Template} :
    memberTemplate library container = .ok t ↔
      ∃ owner, library.find? container.templateId = some owner ∧
        library.memberOf? owner = some t := by
  constructor
  · intro h
    unfold memberTemplate at h
    rcases howner : templateOf library container with fault | owner
    · simp [howner] at h
    rcases hmember : library.memberOf? owner with _ | m
    · simp [howner, hmember] at h
    simp only [howner, hmember, Except.ok.injEq] at h
    exact ⟨owner, templateOf_eq_ok_iff.mp howner, h ▸ hmember⟩
  · rintro ⟨owner, howner, hmember⟩
    simp only [memberTemplate, templateOf_eq_ok_iff.mpr howner, hmember]

theorem exists_find?_of_memberTemplate {container : ResourceId} {t : Template}
    (h : memberTemplate library container = .ok t) : ∃ ref, library.find? ref = some t := by
  obtain ⟨owner, -, hmember⟩ := memberTemplate_eq_ok_iff.mp h
  obtain ⟨ref, -, href⟩ := Option.bind_eq_some_iff.mp hmember
  exact ⟨ref, href⟩

theorem enterMember_eq {key : StoredKey} {container member : ResourceId} {c : Container}
    (hc : s.entity? key = some (.container c)) (hnew : c.hasMember member = false) :
    enterMember key container member s =
      (.ok ⟨c.id, member, c.counter⟩, s.putEntity key (.container (c.entered member))) := by
  simp [enterMember, hc, Entity.container?, Container.addMember_eq, hnew]

/-- A member that may be entered is made, if it is not there, and entered. -/
theorem addMemberAt_eq {t : Template} {container member : ResourceId} {key memberKey : StoredKey}
    {c : Container} {present : Bool} (hc : s.entity? key = some (.container c))
    (hnew : c.hasMember member = false)
    (hmember : checkChild s memberKey member container = .ok present) :
    addMemberAt t container member key memberKey s =
      (.ok ⟨c.id, member, c.counter⟩, (s.provide memberKey t member container).putEntity key
        (.container (c.entered member))) := by
  have hcontainer : s.containerAt key container = .ok c := StoreState.containerAt_eq_ok_iff.mpr hc
  have hcheck : c.checkAddMember member = .ok () := by simp [Container.checkAddMember, hnew]
  have hkept := StoreState.entity?_provide memberKey t member container hc
  cases present with
  | false =>
      rw [StoreState.provide_of_none (checkChild_eq_false_iff.mp hmember)] at hkept ⊢
      simp only [addMemberAt, hcontainer, hcheck, hmember]
      exact enterMember_eq hkept hnew
  | true =>
      obtain ⟨found, hfound, -⟩ := checkChild_eq_true_iff.mp hmember
      rw [StoreState.provide_of_some hfound]
      simp only [addMemberAt, hcontainer, hcheck, hmember]
      exact enterMember_eq hc hnew

theorem answers_addMember (container : ResourceId) (name : Name) :
    Answers library s (.addMember container name)
      (((addMember library container name).answering .member).on s) := by
  apply Answers.withKeyOf
  intro key hkey
  rcases hallowed : memberTemplate library container with fault | t
  · exact .error _
  apply Answers.withKey
  intro memberKey hmemberKey
  rcases hcontainer : s.containerAt key container with fault | c
  · simp only [addMemberAt, hcontainer]
    exact .error _
  have hc := StoreState.containerAt_eq_ok_iff.mp hcontainer
  rcases hcheck : c.checkAddMember ⟨name, t.id⟩ with fault | _
  · simp only [addMemberAt, hcontainer, hcheck]
    exact .error _
  rcases hmember : checkChild s memberKey ⟨name, t.id⟩ container with fault | present
  · simp only [addMemberAt, hcontainer, hcheck, hmember]
    exact .error _
  have hnew : c.hasMember ⟨name, t.id⟩ = false := by
    simpa [Container.checkAddMember] using hcheck
  rw [addMemberAt_eq hc hnew hmember]
  exact .granted (.entered hallowed hkey hc hnew hmemberKey (parent_eq_of_checkChild hmember))

/-- Only a member without a record could be dropped in silence, and there is none. -/
theorem answers_removeMember (hs : s.Sound) (container member : ResourceId) :
    Answers library s (.removeMember container member)
      (((removeMember container member).answering .flag).on s) := by
  apply Answers.withKey
  intro key hkey
  cases hcontainer : s.containerAt key container with
  | error fault => exact .error _
  | ok c =>
      have hc := StoreState.containerAt_eq_ok_iff.mp hcontainer
      have hnumbered := hs.numbered hc
      have hsome : (c.removeMember member).1.isSome = c.hasMember member :=
        hnumbered.isSome_removeMember member
      simp only [Except.map]
      cases hmember : c.hasMember member with
      | true =>
          rw [hsome, hmember]
          exact .granted (.dropped hkey hc hmember)
      | false =>
          have hnone : (c.removeMember member).1 = none := by
            rw [← Option.not_isSome_iff_eq_none, hsome, hmember]
            exact Bool.false_ne_true
          rw [hnumbered.removeMember_eq_self hnone, StoreState.putEntity_eq_self hc, hsome, hmember]
          exact .nothing

/-! ## Slugs -/

theorem answers_addSlug (container : ResourceId) (preferred : String) :
    Answers library s (.addSlug container preferred)
      (((addSlug container preferred).answering fun i ↦ .slug (some i)).on s) := by
  apply Answers.withKey
  intro key hkey
  cases hcontainer : s.containerAt key container with
  | error fault => exact .error _
  | ok c =>
      have hc := StoreState.containerAt_eq_ok_iff.mp hcontainer
      cases hslug : c.addSlug s.slugs preferred with
      | error fault =>
          simp only [hslug]
          exact .error _
      | ok merged =>
          obtain ⟨path, hpath, rfl⟩ := Container.addSlug_eq_ok_iff.mp hslug
          simp only [hslug]
          exact .granted (.slugAdded hkey hc hpath)

theorem answers_mergeSlug (container : ResourceId) (candidate : Slug) :
    Answers library s (.mergeSlug container candidate)
      (((mergeSlug container candidate).answering .slug).on s) := by
  apply Answers.withKey
  intro key hkey
  cases hc : (s.entity? key).bind Entity.container? with
  | none => exact .granted (.noContainer hkey hc)
  | some c =>
      obtain ⟨e, he, hcontainer⟩ := Option.bind_eq_some_iff.mp hc
      obtain rfl := Entity.container?_eq_some_iff.mp hcontainer
      exact .granted (.slugMerged hkey he)

/-! ## Constraint reports -/

theorem answers_addReport (id : ResourceId) (draws : List FailureId) (complaint : Complaint) :
    Answers library s (.addReport id draws complaint)
      (((addReport id draws complaint).answering fun r ↦ .report (some r)).on s) := by
  apply Answers.withKey
  intro key hkey
  cases he : s.entityAt key id with
  | error fault => exact .error _
  | ok e =>
      have hfind := StoreState.entityAt_eq_ok_iff.mp he
      dsimp only
      cases hreport : e.base.report? draws complaint.constraints complaint.date
          complaint.request with
      | none => exact .error _
      | some reported => exact .granted (.complained hkey hfind hreport)

theorem answers_reportAside (id : ResourceId) (draws : List FailureId) (complaint : Complaint) :
    Answers library s (.reportAside id draws complaint)
      (((reportAside id draws complaint).answering .report).on s) := by
  apply Answers.withKey
  intro key hkey
  cases he : s.entity? key with
  | none => exact .granted (.noResource hkey he)
  | some e =>
      dsimp only
      cases hreport : e.base.report? draws complaint.constraints complaint.date
          complaint.request with
      | none => exact .error _
      | some reported => exact .granted (.complainedAside hkey he hreport)

/-- A failure that is not outstanding has no report to lose. -/
theorem removeFailure_eq_self (hs : s.Sound) {id : ReportId} {key : StoredKey} {e : Entity}
    (hkey : id.resource.keyed = .ok key) (he : s.entity? key = some e)
    (hnone : e.base.hasFailure id.failure = false) :
    { s.putEntity key (e.withBase (e.base.removeFailure id.failure).2) with
      reports := s.reports.erase id } = s := by
  have hfailures : e.base.failures.find? id.failure = none := by
    simpa [Resource.hasFailure, Table.contains] using hnone
  have hreports : s.reports.find? id = none := by
    cases hreport : s.reports.find? id with
    | none => rfl
    | some report =>
        obtain ⟨other, d, hother, hd, hfailure⟩ := hs.backed hreport
        obtain rfl := Except.ok.inj (hother.symm.trans hkey)
        obtain rfl := Option.some.inj (hd.symm.trans he)
        rw [hfailure] at hnone
        cases hnone
  have hbase : (e.base.removeFailure id.failure).2 = e.base := by
    rw [Resource.removeFailure, Table.erase_eq_self hfailures]
  rw [hbase, Entity.withBase_base, StoreState.putEntity_eq_self he, Table.erase_eq_self hreports]

theorem answers_removeFailure (hs : s.Sound) (id : ReportId) :
    Answers library s (.removeFailure id) (((removeFailure id).answering .flag).on s) := by
  apply Answers.withKey
  intro key hkey
  cases he : s.entityAt key id.resource with
  | error fault => exact .error _
  | ok e =>
      have hfind := StoreState.entityAt_eq_ok_iff.mp he
      have hfound : (e.base.removeFailure id.failure).1 = e.base.hasFailure id.failure := rfl
      simp only [Except.map]
      cases hfailure : e.base.hasFailure id.failure with
      | true =>
          rw [hfound, hfailure]
          exact .granted (.settled hkey hfind hfailure)
      | false =>
          rw [hfound, hfailure, removeFailure_eq_self hs hkey hfind hfailure]
          exact .nothing

end Graph

namespace Directory

theorem answers_create (path : String) (resource : ResourceId) (created : Int) (tag : EntityTag) :
    Answers library s (.publish path resource created tag)
      (((create path resource created tag).answering .endpoint).on s) := by
  unfold create
  cases hpath : Text.isBlankText path with
  | true => exact .error _
  | false =>
      apply Answers.withKey
      intro key hkey
      dsimp only
      cases hfree : s.endpoints.byPath.find? path with
      | some row => exact .error _
      | none =>
          cases hnew : s.endpoints.live.find? key with
          | some existing => exact .error _
          | none => exact .granted (.published hpath hkey hfree hnew)

theorem answers_modify (path : String) (tag : EntityTag) (lastModified : Int) :
    Answers library s (.amend path tag lastModified)
      (((modify path tag lastModified).answering .endpoint).on s) := by
  unfold modify
  simp only [Operation.answering, Except.map, Operation.on_ok]
  cases he : s.endpoints.liveAt path with
  | error fault => exact .error _
  | ok e => exact .granted (.amended he)

/-- The resource of a live row has a key, so that clearing the row is never left half done. -/
theorem answers_delete (hs : s.Sound) (path : String) (time : Int) :
    Answers library s (.retract path time)
      (((delete path time).answering .endpoint).on s) := by
  unfold delete
  simp only [Operation.answering, Except.map, Operation.on_ok]
  cases he : s.endpoints.liveAt path with
  | error fault => exact .error _
  | ok e =>
      obtain ⟨hrow, hlive⟩ := EndpointTable.liveAt_eq_ok_iff.mp he
      obtain ⟨resource, key, hresource, hkey⟩ := hs.published hrow hlive
      simp only [hresource, hkey]
      exact .granted (.retracted he hresource hkey)

end Directory

theorem Change.answers (hs : s.Sound) (c : Change) :
    Answers library s c ((c.operation library).on s) := by
  cases c with
  | create template name => exact Graph.answers_create template name
  | attach resource slot child expected => exact Graph.answers_attach resource slot child expected
  | detach resource slot => exact Graph.answers_detach resource slot
  | addMember container name => exact Graph.answers_addMember container name
  | removeMember container member => exact Graph.answers_removeMember hs container member
  | addSlug container preferred => exact Graph.answers_addSlug container preferred
  | mergeSlug container candidate => exact Graph.answers_mergeSlug container candidate
  | setIndirectId resource indirectId => exact Graph.answers_setIndirectId resource indirectId
  | addReport resource draws complaint => exact Graph.answers_addReport resource draws complaint
  | reportAside resource draws complaint =>
      exact Graph.answers_reportAside resource draws complaint
  | removeFailure id => exact Graph.answers_removeFailure hs id
  | remove resource => exact Graph.answers_remove resource
  | publish path resource created tag => exact Directory.answers_create path resource created tag
  | amend path tag lastModified => exact Directory.answers_modify path tag lastModified
  | retract path time => exact Directory.answers_delete hs path time

end ResourceKernel
