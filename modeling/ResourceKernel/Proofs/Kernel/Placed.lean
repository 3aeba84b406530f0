import ResourceKernel.Proofs.Graph.Fits
import ResourceKernel.Proofs.Kernel.Rooted

/-!
# Children that are given a place

A child that is attached to a resource, or entered into a container, is made if it does not exist.
Besides it only its parent changes. The parent is there before the child, so that nothing in a run
is ever its own parent.
-/

namespace ResourceKernel

open Function (update)

/-- An entity of a template to which nothing has been done. -/
structure Entity.Untouched (e : Entity) (t : Template) (id : ResourceId)
    (parent : Option ResourceId) : Prop where
  id : e.id = id
  parent : e.base.parent = parent
  isContainer : e.isContainer = t.isContainer
  slots (slot : String) :
    e.base.slots.find? slot = if ∃ declared ∈ t.slots, declared.id = slot then some none else none
  failures : e.base.failures = ∅
  indirectId : e.base.indirectId = none
  container {c : Container} (h : e.container? = some c) :
    c.members = ∅ ∧ c.index = ∅ ∧ c.counter = 0 ∧ c.slugs = ∅

theorem Entity.untouched_fresh (t : Template) (id : ResourceId) (parent : Option ResourceId) :
    (fresh t id parent).Untouched t id parent where
  id := congrArg Resource.id (base_fresh t id parent)
  parent := congrArg Resource.parent (base_fresh t id parent)
  isContainer := (fits_fresh t id parent).isContainer
  slots slot := by
    rw [base_fresh]
    exact Resource.find?_slots_fresh id parent t slot
  failures := congrArg Resource.failures (base_fresh t id parent)
  indirectId := congrArg Resource.indirectId (base_fresh t id parent)
  container h := by
    unfold fresh at h
    split at h
    · obtain rfl := Option.some.inj h
      exact ⟨rfl, rfl, rfl, rfl⟩
    · cases h

/-- A child exists under its parent, made for it if it has not been there, and of all other entities
only the parent has changed. -/
structure Placed (library : TemplateLibrary) (s t : StoreState) (child parent : ResourceId) :
    Prop where
  childOf : t.ChildOf child parent
  kept {c : Entity} (h : s.entityOf? child = some c) : t.entityOf? child = some c
  made (h : s.entityOf? child = none) : ∃ template c,
    library.find? child.templateId = some template ∧ t.entityOf? child = some c ∧
      c.Untouched template child (some parent)
  others {key : StoredKey} (hchild : child.keyed ≠ .ok key) (hparent : parent.keyed ≠ .ok key) :
    t.entity? key = s.entity? key
  reports : t.reports = s.reports
  endpoints : t.endpoints = s.endpoints
  slugs : t.slugs = s.slugs

variable {library : TemplateLibrary} {s t : StoreState}

namespace StoreState

variable {template : Template} {child parent : ResourceId} {key childKey : StoredKey} {e d : Entity}

theorem placed (htemplate : library.find? child.templateId = some template)
    (hkey : parent.keyed = .ok key) (he : s.entity? key = some e)
    (hchild : child.keyed = .ok childKey)
    (howned : ∀ c, s.entity? childKey = some c → c.base.parent = some parent)
    (hself : ¬s.ChildOf parent parent) :
    Placed library s ((s.provide childKey template child parent).putEntity key d) child parent := by
  have hne : childKey ≠ key := by
    -- the parent would be a child that exists, and so its own parent
    rintro rfl
    obtain rfl := ResourceId.keyed_inj hchild hkey
    exact hself ((lineage?_eq hkey he).trans (congrArg some (howned e he)))
  have hthere : ((s.provide childKey template child parent).putEntity key d).entityOf? child =
      (s.provide childKey template child parent).entity? childKey :=
    (entityOf?_of_keyed hchild).trans (entity?_putEntity_ne _ _ hne)
  refine ⟨?_, fun {c} hc ↦ ?_, fun hnone ↦ ?_, fun {other} hother hparent ↦ ?_, reports_provide,
    endpoints_provide, slugs_provide⟩
  · obtain ⟨c, hc, hparent⟩ := exists_provide template child howned
    rw [ChildOf, lineage?, hthere, hc, Option.map_some, hparent]
  · rw [hthere]
    exact entity?_provide childKey template child parent ((entityOf?_of_keyed hchild).symm.trans hc)
  · have hfree : s.entity? childKey = none := (entityOf?_of_keyed hchild).symm.trans hnone
    refine ⟨template, _, htemplate, ?_, Entity.untouched_fresh template child (some parent)⟩
    rw [hthere, provide_of_none hfree, entity?_putEntity_self]
  · have hnot : other ≠ key := fun heq ↦ hparent (heq ▸ hkey)
    have hnotChild : other ≠ childKey := fun heq ↦ hother (heq ▸ hchild)
    rw [entity?_putEntity_ne _ _ hnot]
    cases hfree : s.entity? childKey with
    | some c => rw [provide_of_some hfree]
    | none => rw [provide_of_none hfree, entity?_putEntity_ne _ _ hnotChild]

end StoreState

/-! ## Conditions and answers -/

section

variable {child parent : ResourceId} {key : StoredKey}

theorem exists_encode_iff {id : ResourceId} :
    (∃ k, ResourceKey.encode id = .ok k) ↔ ∃ key, id.keyed = .ok key := by
  simp only [ResourceId.keyed_eq_ok_iff]
  exact ⟨fun ⟨k, hk⟩ ↦ ⟨_, k, hk, rfl⟩, fun ⟨_, k, hk, _⟩ ↦ ⟨k, hk⟩⟩

theorem absent_or_childOf_iff (hkey : child.keyed = .ok key) :
    (s.entityOf? child = none ∨ s.ChildOf child parent) ↔
      ∀ c, s.entity? key = some c → c.base.parent = some parent := by
  rw [StoreState.ChildOf, StoreState.lineage?, StoreState.entityOf?_of_keyed hkey]
  cases s.entity? key <;> simp

theorem exists_checkChild (child : ResourceId)
    (h : ∀ c, s.entity? key = some c → c.base.parent = some parent) :
    ∃ present, Graph.checkChild s key child parent = .ok present := by
  cases hc : s.entity? key with
  | none => exact ⟨false, Graph.checkChild_eq_false_iff.mpr hc⟩
  | some c => exact ⟨true, Graph.checkChild_eq_true_iff.mpr ⟨c, hc, h c hc⟩⟩

end

/-- An answer that is no refusal is that of a granted change. -/
theorem Change.granted_of_ok (hs : s.Sound) {c : Change} {reply : Reply}
    (h : ((c.operation library).on s).1 = .ok reply) (hreply : reply ≠ .flag false) :
    Granted library s c reply ((c.operation library).on s).2 := by
  have hanswers : Answers library s c ((c.operation library).on s) := c.answers hs
  generalize (c.operation library).on s = after at h hanswers ⊢
  cases hanswers with
  | refused hrefuses =>
      obtain rfl := h
      exact absurd (refuses_ok_iff.mp hrefuses) hreply
  | granted hgranted =>
      obtain rfl := Except.ok.inj h
      exact hgranted

/-- What is loaded for shelves that have a cover and hold books. -/
def TemplateLibrary.coveredShelves : TemplateLibrary :=
  (TemplateLibrary.empty.insert "Books" ⟨"book", "Books", none, none, [], .resource⟩).insert
    "Shelves" ⟨"shelf", "Shelves", none, none, [⟨"cover", "cover", "book", none⟩],
      .container ⟨"book", none⟩⟩

/-! ## Nobody is its own parent -/

open StoreState

theorem Growth.not_childOf_self (h : Growth s t) (hs : ∀ id, ¬s.ChildOf id id) (id : ResourceId) :
    ¬t.ChildOf id id := by
  cases h with
  | same hlineage =>
      rw [ChildOf, hlineage]
      exact hs id
  | @founded made parent hfree hparent hlineage =>
      rw [ChildOf, hlineage, Function.update_apply]
      split
      · next hid =>
        -- the parent has been there before, and the resource has not
        intro heq
        obtain rfl := Option.some.inj heq
        obtain ⟨above, habove⟩ := hparent id rfl
        rw [hid, hfree] at habove
        cases habove
      · exact hs id

theorem Deed.not_childOf_self (hs : s.Sound) (d : Deed) (hself : ∀ id, ¬s.ChildOf id id)
    (id : ResourceId) : ¬(d.on library s).ChildOf id id := by
  rcases d.granted_or_idle library hs with ⟨slugs, hidle⟩ | ⟨c, reply, -, hgranted⟩
  · rw [hidle]
    exact hself id
  · by_cases hstays : ∀ other, c ≠ .remove other
    · exact (hgranted.growth hstays).not_childOf_self hself id
    · push Not at hstays
      obtain ⟨other, rfl⟩ := hstays
      generalize d.on library s = t at hgranted ⊢
      cases hgranted with
      | removed hkey =>
          rw [ChildOf, lineage?_update (entityOf?_erase hkey rfl), Function.update_apply]
          split
          · intro hnone
            cases hnone
          · exact hself id

namespace Kernel

theorem not_childOf_self_run (library : TemplateLibrary) (moves : List Move) :
    ((ofLibrary library).run moves).view.Every fun s ↦
      s.Sound ∧ ∀ id, ¬s.ChildOf id id := by
  have hempty : ∀ id, ¬StoreState.empty.ChildOf id id := by
    intro id hid
    rw [ChildOf, lineage?, entityOf?_empty] at hid
    cases hid
  refine every_of_deed library ⟨sound_empty, hempty⟩ ?_ moves
  rintro s d ⟨hs, hself⟩
  exact ⟨(d.effects hs).sound hs, d.not_childOf_self hs hself⟩

theorem fitted_run {catalog : HandlerCatalog} {roots : List HandlerId}
    (hload : TemplateLibrary.load catalog roots = .ok library) (moves : List Move) :
    ((ofLibrary library).run moves).view.Every fun s ↦ s.Sound ∧ s.Fitted library := by
  have hlibrary : library.Identified := TemplateLibrary.identified_load hload
  exact every_run library (StoreState.fitted_empty library)
    (fun s t h hs hfitted ↦ h.fitted hlibrary hs hfitted) moves

/-! ## Changes in a transaction -/

/-- The transaction under a name works on another state. -/
structure Works (k after : Kernel) (name : String) (session : MemorySession) (t : StoreState) :
    Prop where
  library : after.library = k.library
  manager : after.manager = k.manager
  transaction : after.transaction = update k.transaction name
    { k.transaction name with session := some { session with working := t } }

variable {k : Kernel} {name : String} {c : Change}

theorem change_eq_ok_iff {reply : Reply} :
    (k.change name c).1 = .ok reply ↔
      ∃ session, k.open? name = some session ∧
        ((c.operation k.library).on session.working).1 = .ok reply := by
  cases hopen : k.open? name with
  | none =>
      obtain ⟨⟨fault, hfault⟩, -⟩ := perform_of_not_open hopen (c.operation k.library)
      refine iff_of_false (fun h ↦ ?_) (by simp)
      exact absurd (hfault.symm.trans h) (by simp)
  | some session =>
      have hresult := (perform_of_open hopen (c.operation k.library)).1
      rw [change, hresult]
      simp

theorem works_of_open {session : MemorySession} (h : k.open? name = some session) (c : Change) :
    Works k (k.change name c).2 name session ((c.operation k.library).on session.working).2 :=
  ⟨rfl, rfl, congrArg View.transaction (perform_of_open h (c.operation k.library)).2⟩

end Kernel

end ResourceKernel
