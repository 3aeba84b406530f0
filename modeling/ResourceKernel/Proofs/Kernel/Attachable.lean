import ResourceKernel.Proofs.Kernel.Attached
import ResourceKernel.Proofs.Kernel.Fits
import ResourceKernel.Proofs.Kernel.Placed

/-!
# When a child is bound

Attaching a child looks at the library, at the slots of the resource and at the child. It is said
here, without the order of these checks, when the child is bound, and that nothing but the slot and
a child that has been missing comes of it.
-/

namespace ResourceKernel

/-- Nothing stands in the way of binding the child to the slot. -/
structure Attachable (library : TemplateLibrary) (s : StoreState) (resource : ResourceId)
    (slot : String) (child : ResourceId) (expected : TemplateKind) : Prop where
  resource_encodes : ∃ k, ResourceKey.encode resource = .ok k
  child_encodes : ∃ k, ResourceKey.encode child = .ok k
  exists_resource : ∃ e, s.entityOf? resource = some e
  declared : ∃ owner declared, library.find? resource.templateId = some owner ∧
    owner.slot? slot = some declared ∧ declared.template = child.templateId
  accepted : ∃ t, library.find? child.templateId = some t ∧ expected.accepts t.kind = true
  unbound : s.bound resource slot = none
  nowhere (other : String) : s.bound resource other ≠ some child
  absent_or_childOf : s.entityOf? child = none ∨ s.ChildOf child resource

/-- The slot has been bound to the child, and the child has been made if it was missing. -/
structure Binds (library : TemplateLibrary) (s t : StoreState) (resource : ResourceId)
    (slot : String) (child : ResourceId) : Prop extends Placed library s t child resource where
  bound : ∃ e, s.entityOf? resource = some e ∧ t.entityOf? resource =
    some (e.withBase { e.base with slots := e.base.slots.insert slot (some child) })

variable {library : TemplateLibrary} {s t : StoreState} {resource child : ResourceId}
  {slot : String} {expected : TemplateKind}

open StoreState

theorem bound_eq_some_iff {key : StoredKey} {e : Entity} (hkey : resource.keyed = .ok key)
    (he : s.entity? key = some e) :
    s.bound resource slot = some child ↔ e.base.slots.find? slot = some (some child) := by
  rw [bound_eq hkey he, Entity.bindings, Option.join_eq_some_iff]

theorem slotOf?_eq_none_iff_bound {key : StoredKey} {e : Entity} (hkey : resource.keyed = .ok key)
    (he : s.entity? key = some e) :
    e.base.slotOf? child = none ↔ ∀ other, s.bound resource other ≠ some child := by
  simp only [Resource.slotOf?_eq_none_iff, ne_eq, bound_eq_some_iff hkey he]

open ResourceKernel.Graph

theorem attachable_of_granted
    (h : Granted library s (.attach resource slot child expected) (.flag true) t) :
    Attachable library s resource slot child expected := by
  cases h with
  | attached hallowed hkey he hslot hnew hchild howned =>
      obtain ⟨hdeclared, htemplate, haccepts⟩ := childTemplate_eq_ok_iff.mp hallowed
      refine ⟨exists_encode_iff.mpr ⟨_, hkey⟩, exists_encode_iff.mpr ⟨_, hchild⟩,
        ⟨_, (entityOf?_of_keyed hkey).trans he⟩, hdeclared, ⟨_, htemplate, haccepts⟩, ?_,
        (slotOf?_eq_none_iff_bound hkey he).mp hnew, (absent_or_childOf_iff hchild).mpr howned⟩
      rw [bound_eq hkey he, Entity.bindings, hslot]
      rfl

theorem binds_of_granted (hself : ¬s.ChildOf resource resource)
    (h : Granted library s (.attach resource slot child expected) (.flag true) t) :
    Binds library s t resource slot child := by
  cases h with
  | attached hallowed hkey he hslot hnew hchild howned =>
      refine ⟨placed (find?_of_childTemplate hallowed) hkey he hchild howned hself, _,
        (entityOf?_of_keyed hkey).trans he, ?_⟩
      exact (entityOf?_of_keyed hkey).trans (entity?_putEntity_self _ _ _)

/-- The resource has every slot that its template declares, so that one with nothing in it can
be bound. -/
theorem checkBind_of_attachable (hs : s.Sound) (hfitted : s.Fitted library)
    (h : Attachable library s resource slot child expected) {key : StoredKey} {e : Entity}
    (hkey : resource.keyed = .ok key) (he : s.entity? key = some e) :
    e.base.checkBind slot child = .ok true := by
  obtain ⟨owner, declared, howner, hdeclared, -⟩ := h.declared
  obtain ⟨t, ht, hfits⟩ := hfitted key e he
  have hid : e.id = resource := ResourceId.keyed_inj (hs.keyed he) hkey
  obtain rfl := Option.some.inj ((hid ▸ ht).symm.trans howner)
  have hlisted : ∃ declared ∈ t.slots, declared.id = slot :=
    ⟨declared, List.mem_of_find?_eq_some hdeclared, by simpa using List.find?_some hdeclared⟩
  obtain ⟨held, hheld⟩ := Table.mem_keys_iff.mp ((hfits.base.declared slot).mpr hlisted)
  have hunbound : held = none := by
    have hnone := h.unbound
    rw [bound_eq hkey he, Entity.bindings, hheld] at hnone
    exact hnone
  rw [Resource.checkBind_eq_true_iff, hheld, hunbound, slotOf?_eq_none_iff_bound hkey he]
  exact ⟨rfl, h.nowhere⟩

theorem attach_of_attachable (hs : s.Sound) (hfitted : s.Fitted library)
    (h : Attachable library s resource slot child expected) :
    ((attach library resource slot child expected).on s).1 = .ok true := by
  obtain ⟨key, hkey⟩ := exists_encode_iff.mp h.resource_encodes
  obtain ⟨childKey, hchildKey⟩ := exists_encode_iff.mp h.child_encodes
  obtain ⟨e, he⟩ := h.exists_resource
  rw [entityOf?_of_keyed hkey] at he
  obtain ⟨t, hallowed⟩ : ∃ t, childTemplate library resource slot child expected = .ok t := by
    obtain ⟨t, ht⟩ := h.accepted
    exact ⟨t, childTemplate_eq_ok_iff.mpr ⟨h.declared, ht⟩⟩
  obtain ⟨present, hpresent⟩ :=
    exists_checkChild child ((absent_or_childOf_iff hchildKey).mp h.absent_or_childOf)
  have hcheck := checkBind_of_attachable hs hfitted h hkey he
  have hon : (attach library resource slot child expected).on s =
      attachAt library resource slot child expected key childKey s := by
    rw [attach, Operation.withKeyOf, hkey]
    exact Operation.on_withKey hchildKey _ s
  rw [hon, attachAt_eq hallowed he hcheck hpresent]

/-- What attaching a child answers does not depend on the order of its checks. -/
theorem attach_eq_true_iff (hs : s.Sound) (hfitted : s.Fitted library) :
    ((Change.operation library (.attach resource slot child expected)).on s).1 =
        .ok (.flag true) ↔
      Attachable library s resource slot child expected := by
  constructor
  · intro h
    exact attachable_of_granted (Change.granted_of_ok hs h nofun)
  · intro h
    rw [Change.operation, Operation.on_answering, attach_of_attachable hs hfitted h]
    rfl

namespace Kernel

/-- In every state of a run over a library that has been loaded, attaching a child answers that it
has been bound just if the transaction is active and nothing stands in the way. Then no more comes
of it than that the slot holds the child, and that the child is there. -/
theorem attach_binds_iff {catalog : HandlerCatalog} {roots : List HandlerId}
    {library : TemplateLibrary} (hload : TemplateLibrary.load catalog roots = .ok library)
    (moves : List Move) (name : String) (resource : ResourceId) (slot : String)
    (child : ResourceId) (expected : TemplateKind) :
    let k := (ofLibrary library).run moves
    let attached := k.change name (.attach resource slot child expected)
    (attached.1 = .ok (.flag true) ↔ ∃ session, k.open? name = some session ∧
      Attachable library session.working resource slot child expected) ∧
    (attached.1 = .ok (.flag true) → ∃ session t, k.open? name = some session ∧
      Works k attached.2 name session t ∧ Binds library session.working t resource slot child) := by
  intro k attached
  have hlibrary : k.library = library := library_run library moves
  have hfitted := fitted_run hload moves
  have hself := not_childOf_self_run library moves
  constructor
  · rw [change_eq_ok_iff, hlibrary]
    refine exists_congr fun session ↦ and_congr_right fun hopen ↦ ?_
    obtain ⟨hs, hfits⟩ := hfitted.working (open?_eq_some_iff.mp hopen).2
    exact attach_eq_true_iff hs hfits
  · intro hok
    obtain ⟨session, hopen, hbound⟩ := change_eq_ok_iff.mp hok
    obtain ⟨hs, hnot⟩ := hself.working (open?_eq_some_iff.mp hopen).2
    rw [hlibrary] at hbound
    refine ⟨session, _, hopen, works_of_open hopen _, ?_⟩
    rw [hlibrary]
    exact binds_of_granted (hnot resource) (Change.granted_of_ok hs hbound nofun)

/-- A book that is on a shelf becomes its cover, and stays the book that it is. -/
theorem book_of_shelf_bound :
    let a : ResourceId := ⟨.text "a", "shelf"⟩
    let b : ResourceId := ⟨.text "b", "book"⟩
    let k := (ofLibrary .coveredShelves).run [.begin "reader" "t",
      .change "t" (.create "shelf" (.text "a")), .change "t" (.addMember a (.text "b"))]
    let attached := k.change "t" (.attach a "cover" b .resource)
    TemplateLibrary.load .shelves ["Shelves"] = .ok .coveredShelves ∧
      attached.1 = .ok (.flag true) ∧
      ∃ session t book, k.open? "t" = some session ∧ Works k attached.2 "t" session t ∧
        session.working.entityOf? b = some book ∧ t.entityOf? b = some book ∧
        Binds .coveredShelves session.working t a "cover" b := by
  intro a b k attached
  have hload : TemplateLibrary.load .shelves ["Shelves"] = .ok .coveredShelves := rfl
  have hok : attached.1 = .ok (.flag true) := by decide +kernel
  obtain ⟨session, t, hopen, hworks, hbinds⟩ :=
    (attach_binds_iff hload _ "t" a "cover" b .resource).2 hok
  have hthere : ((k.open? "t").bind fun session ↦ session.working.entityOf? b).isSome = true := by
    decide +kernel
  rw [hopen] at hthere
  obtain ⟨book, hbook⟩ := Option.isSome_iff_exists.mp hthere
  exact ⟨hload, hok, session, t, book, hopen, hworks, hbook, hbinds.kept hbook, hbinds⟩

end Kernel

end ResourceKernel
