import ResourceKernel.Proofs.Graph.Refusal
import ResourceKernel.Proofs.Library.Identified

/-!
# Entities and their templates

An entity is of the kind that its template says, it has the slots that the template declares with
children of the declared templates in them, each child in one slot, and its members are of the
member template. Operations look this up in the library before they bind or enter a child, so that
it holds of all entities as long as the library keeps its templates under their identifiers.
-/

namespace ResourceKernel

/-- The slots of a resource are those of a template. -/
structure Resource.Fits (r : Resource) (t : Template) : Prop where
  declared (slot : String) : slot ∈ r.slots.keys ↔ ∃ declared ∈ t.slots, declared.id = slot
  bound {slot : String} {child : ResourceId} (h : r.slots.find? slot = some (some child)) :
    ∃ declared, t.slot? slot = some declared ∧ declared.template = child.templateId
  slot_eq {slot other : String} {child : ResourceId} (h : r.slots.find? slot = some (some child))
    (h' : r.slots.find? other = some (some child)) : slot = other

structure Entity.Fits (e : Entity) (t : Template) : Prop where
  isContainer : e.isContainer = t.isContainer
  base : e.base.Fits t
  member {c : Container} {number : Nat} {record : Member} (hc : e.container? = some c)
    (h : c.members.find? number = some record) :
    record.container = e.id ∧ t.memberTemplate? = some record.member.templateId

variable {t : Template}

namespace Resource

theorem fits_fresh (id : ResourceId) (parent : Option ResourceId) (t : Template) :
    (fresh id parent t).Fits t where
  declared slot := by
    rw [Table.mem_keys_iff, find?_slots_fresh]
    split <;> simp_all
  bound h := by
    rw [find?_slots_fresh] at h
    split at h <;> cases h
  slot_eq h := by
    rw [find?_slots_fresh] at h
    split at h <;> cases h

variable {r : Resource}

theorem keys_insert_slot {slot : String} {held bound : Option ResourceId}
    (hslot : r.slots.find? slot = some held) (other : String) :
    other ∈ (r.slots.insert slot bound).keys ↔ other ∈ r.slots.keys := by
  rw [Table.mem_keys_iff, Table.mem_keys_iff, Table.find?_insert]
  by_cases hother : other = slot
  · simp [hother, hslot]
  · simp [hother]

theorem Fits.bind (h : r.Fits t) {slot : String} {child : ResourceId} {declared : Slot}
    (hslot : r.slots.find? slot = some none) (hdeclared : t.slot? slot = some declared)
    (htemplate : declared.template = child.templateId) (hnew : r.slotOf? child = none) :
    { r with slots := r.slots.insert slot (some child) }.Fits t where
  declared other := (keys_insert_slot hslot other).trans (h.declared other)
  bound := by
    intro other held hheld
    rw [Table.find?_insert] at hheld
    split at hheld
    · next hother =>
      obtain rfl := Option.some.inj (Option.some.inj hheld)
      exact ⟨declared, hother ▸ hdeclared, htemplate⟩
    · exact h.bound hheld
  slot_eq := by
    intro first second held hfirst hsecond
    have hfree := slotOf?_eq_none_iff.mp hnew
    rw [Table.find?_insert] at hfirst hsecond
    by_cases h₁ : first = slot <;> by_cases h₂ : second = slot
    · exact h₁.trans h₂.symm
    · -- the child in the other slot would be the one that is in none
      rw [if_pos h₁] at hfirst
      rw [if_neg h₂] at hsecond
      obtain rfl := Option.some.inj (Option.some.inj hfirst)
      exact absurd hsecond (hfree second)
    · rw [if_neg h₁] at hfirst
      rw [if_pos h₂] at hsecond
      obtain rfl := Option.some.inj (Option.some.inj hsecond)
      exact absurd hfirst (hfree first)
    · rw [if_neg h₁] at hfirst
      rw [if_neg h₂] at hsecond
      exact h.slot_eq hfirst hsecond

theorem Fits.unbind (h : r.Fits t) {slot : String} {held : Option ResourceId}
    (hslot : r.slots.find? slot = some held) :
    { r with slots := r.slots.insert slot none }.Fits t := by
  have hkept : ∀ {other child}, (r.slots.insert slot none).find? other = some (some child) →
      r.slots.find? other = some (some child) := by
    intro other child hchild
    rw [Table.find?_insert] at hchild
    split at hchild
    · cases hchild
    · exact hchild
  refine ⟨fun other ↦ (keys_insert_slot hslot other).trans (h.declared other), ?_, ?_⟩
  · intro other child hchild
    exact h.bound (hkept hchild)
  · intro first second child hfirst hsecond
    exact h.slot_eq (hkept hfirst) (hkept hsecond)

theorem Fits.congr (h : r.Fits t) {d : Resource} (hslots : d.slots = r.slots) : d.Fits t := by
  refine ⟨fun slot ↦ ?_, fun hbound ↦ ?_, fun hfirst hsecond ↦ ?_⟩
  · rw [hslots]
    exact h.declared slot
  · exact h.bound (hslots ▸ hbound)
  · exact h.slot_eq (hslots ▸ hfirst) (hslots ▸ hsecond)

end Resource

namespace Entity

theorem isContainer_withBase (e : Entity) (r : Resource) :
    (e.withBase r).isContainer = e.isContainer := by
  cases e <;> rfl

theorem fits_fresh (t : Template) (id : ResourceId) (parent : Option ResourceId) :
    (fresh t id parent).Fits t where
  isContainer := by
    unfold fresh
    split
    · next h => exact h.symm
    · next h => exact (eq_false_of_ne_true h).symm
  base := by
    rw [base_fresh]
    exact Resource.fits_fresh id parent t
  member hc h := by
    unfold fresh at hc
    split at hc
    · obtain rfl := Option.some.inj hc
      simp [Container.fresh] at h
    · cases hc

variable {e : Entity} {c : Container}

theorem Fits.withBase (h : e.Fits t) {r : Resource} (hid : r.id = e.id) (hr : r.Fits t) :
    (e.withBase r).Fits t where
  isContainer := (isContainer_withBase e r).trans h.isContainer
  base := by
    rw [base_withBase]
    exact hr
  member := by
    intro d number record hd hrecord
    rw [Entity.id, base_withBase, hid]
    cases e with
    | resource _ => cases hd
    | container c =>
        obtain rfl := Option.some.inj hd
        exact h.member rfl hrecord

theorem Fits.container (h : (Entity.container c).Fits t) {d : Container}
    (hresource : d.resource = c.resource)
    (hmembers : ∀ number record, d.members.find? number = some record →
      record.container = c.id ∧ t.memberTemplate? = some record.member.templateId) :
    (Entity.container d).Fits t where
  isContainer := h.isContainer
  base := h.base.congr (congrArg Resource.slots hresource)
  member := by
    rintro other number record ⟨⟩ hrecord
    have hid : (Entity.container d).id = c.id := congrArg Resource.id hresource
    rw [hid]
    exact hmembers number record hrecord

theorem Fits.enter (h : (Entity.container c).Fits t) {member : ResourceId}
    (hmember : t.memberTemplate? = some member.templateId) :
    (Entity.container (c.entered member)).Fits t := by
  refine h.container rfl fun number record hrecord ↦ ?_
  simp only [Container.entered, Table.find?_insert] at hrecord
  split at hrecord
  · obtain rfl := Option.some.inj hrecord
    exact ⟨rfl, hmember⟩
  · exact h.member rfl hrecord

theorem Fits.drop (h : (Entity.container c).Fits t) (member : ResourceId) :
    (Entity.container (c.removeMember member).2).Fits t := by
  refine h.container (Container.id_removeMember c member) fun number record hrecord ↦ ?_
  unfold Container.removeMember at hrecord
  split at hrecord
  · exact h.member rfl hrecord
  · rw [Table.find?_erase] at hrecord
    split at hrecord
    · cases hrecord
    · exact h.member rfl hrecord

end Entity

namespace Graph

variable {library : TemplateLibrary}

/-- A slot for a child is declared with the template of the child. -/
theorem slot?_of_childTemplate {resource child : ResourceId} {slot : String}
    {expected : TemplateKind} (h : childTemplate library resource slot child expected = .ok t) :
    ∃ owner declared, library.find? resource.templateId = some owner ∧
      owner.slot? slot = some declared ∧ declared.template = child.templateId :=
  (childTemplate_eq_ok_iff.mp h).1

theorem memberTemplate?_of_memberTemplate (hlibrary : library.Identified)
    {container : ResourceId} (h : memberTemplate library container = .ok t) :
    ∃ owner, library.find? container.templateId = some owner ∧
      owner.memberTemplate? = some t.id := by
  obtain ⟨owner, howner, hmember⟩ := memberTemplate_eq_ok_iff.mp h
  obtain ⟨ref, href, hfind⟩ := Option.bind_eq_some_iff.mp hmember
  refine ⟨owner, howner, ?_⟩
  rw [href, hlibrary ref t hfind]

end Graph

namespace StoreState

/-- The library has a template for every entity, and the entity fits it. -/
def Fitted (library : TemplateLibrary) (s : StoreState) : Prop :=
  ∀ key e, s.entity? key = some e → ∃ t, library.find? e.id.templateId = some t ∧ e.Fits t

variable {library : TemplateLibrary} {s after : StoreState} {key : StoredKey} {e d : Entity}

theorem fitted_empty (library : TemplateLibrary) : empty.Fitted library := by
  intro key e he
  simp [empty, entity?] at he

namespace Fitted

theorem put (h : s.Fitted library) (hput : after.resources = s.resources.insert key e)
    (hfits : ∃ t, library.find? e.id.templateId = some t ∧ e.Fits t) : after.Fitted library := by
  intro other found hfound
  rw [entity?_of_insert hput] at hfound
  split at hfound
  · obtain rfl := Option.some.inj hfound
    exact hfits
  · exact h other found hfound

theorem replace (h : s.Fitted library) (he : s.entity? key = some e)
    (hput : after.resources = s.resources.insert key d) (hid : d.id = e.id)
    (hfits : ∀ t, library.find? e.id.templateId = some t → e.Fits t → d.Fits t) :
    after.Fitted library := by
  obtain ⟨t, ht, hold⟩ := h key e he
  exact h.put hput ⟨t, hid ▸ ht, hfits t ht hold⟩

theorem replaceBase (h : s.Fitted library) (he : s.entity? key = some e) {r : Resource}
    (hput : after.resources = s.resources.insert key (e.withBase r)) (hid : r.id = e.id)
    (hfits : ∀ t, library.find? e.id.templateId = some t → e.base.Fits t → r.Fits t) :
    after.Fitted library := by
  refine h.replace he hput ?_ fun t ht hold ↦ hold.withBase hid (hfits t ht hold.base)
  rw [Entity.id, Entity.base_withBase, hid]

end Fitted

end StoreState

/-- What the operation has looked up in the library is what the entity has to fit. -/
theorem Effect.fitted {library : TemplateLibrary} {s after : StoreState}
    (hlibrary : library.Identified) (h : Effect library s after) (hs : s.Sound)
    (hfitted : s.Fitted library) : after.Fitted library := by
  cases h with
  | @found ref t id parent key htemplate hid hparent hkey hfree =>
      have htid := hlibrary ref t htemplate
      have href : id.templateId = ref := hid.elim (fun h ↦ h) fun h ↦ h.trans htid
      refine hfitted.put rfl ⟨t, ?_, Entity.fits_fresh t id parent⟩
      rw [Entity.id, Entity.base_fresh]
      exact href ▸ htemplate
  | @bound resource child slot expected t key childKey e c hallowed hkey he hslot hnew =>
      refine hfitted.replaceBase he rfl rfl fun own hown hfits ↦ ?_
      obtain ⟨owner, declared, howner, hdeclared, htemplate⟩ :=
        Graph.slot?_of_childTemplate hallowed
      have hresource : e.id = resource := ResourceId.keyed_inj (hs.keyed he) hkey
      obtain rfl := Option.some.inj ((hresource ▸ hown).symm.trans howner)
      exact hfits.bind hslot hdeclared htemplate hnew
  | cleared he hslot => exact hfitted.replaceBase he rfl rfl fun _ _ hfits ↦ hfits.unbind hslot
  | @entered container member t key memberKey c e hallowed hid hkey hc =>
      refine hfitted.replace hc rfl rfl fun own hown hfits ↦ hfits.enter ?_
      obtain ⟨owner, howner, hmember⟩ :=
        Graph.memberTemplate?_of_memberTemplate hlibrary hallowed
      have hcontainer : (Entity.container c).id = container :=
        ResourceId.keyed_inj (hs.keyed hc) hkey
      obtain rfl := Option.some.inj ((hcontainer ▸ hown).symm.trans howner)
      exact hid ▸ hmember
  | @dropped key c member hc =>
      have hid : (Entity.container (c.removeMember member).2).id = c.id :=
        congrArg Resource.id (Container.id_removeMember c member)
      exact hfitted.replace hc rfl hid fun _ _ hfits ↦ hfits.drop member
  | @merged key c candidate hc =>
      obtain ⟨slugs, hslugs⟩ := c.mergeSlug_eq s.slugs candidate
      rw [hslugs]
      exact hfitted.replace hc rfl rfl fun _ _ hfits ↦
        hfits.container rfl fun _ _ hrecord ↦ hfits.member rfl hrecord
  | advanced => exact hfitted
  | directed he => exact hfitted.replaceBase he rfl rfl fun _ _ hfits ↦ hfits.congr rfl
  | complained _ he hreport =>
      obtain ⟨failure, -, rfl, rfl⟩ := Resource.report?_eq_some_iff.mp hreport
      exact hfitted.replaceBase he rfl rfl fun _ _ hfits ↦ hfits.congr rfl
  | complainedAside he hreport =>
      obtain ⟨failure, -, rfl, rfl⟩ := Resource.report?_eq_some_iff.mp hreport
      exact hfitted.replaceBase he rfl rfl fun _ _ hfits ↦ hfits.congr rfl
  | settled _ he => exact hfitted.replaceBase he rfl rfl fun _ _ hfits ↦ hfits.congr rfl
  | removed =>
      intro key e he
      rw [StoreState.entity?_of_erase rfl] at he
      split at he
      · cases he
      · exact hfitted key e he
  | published => exact hfitted
  | amended => exact hfitted
  | retracted => exact hfitted

end ResourceKernel
