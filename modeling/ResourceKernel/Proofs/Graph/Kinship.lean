import Mathlib.Logic.Function.Basic
import ResourceKernel.Proofs.Graph.Sound

/-!
# Parents and children

A resource keeps the parent under which it was made, and names children in its slots and among its
members. No step of an operation changes the parent of a resource that stays. A child that comes to
be named is one of the resource that names it; but a reference may outlive the child, and what is
made in the place of the child need not belong to the resource that still names it.
-/

namespace ResourceKernel

open Function (update)

theorem Resource.isSome_slotOf?_iff {r : Resource} {child : ResourceId} :
    (r.slotOf? child).isSome = true ↔ ∃ slot, r.slots.find? slot = some (some child) := by
  rw [← Option.not_isNone, Bool.not_eq_true', ← Bool.not_eq_true, Option.isNone_iff_eq_none,
    slotOf?_eq_none_iff, not_forall_not]

theorem Container.hasMember_iff {c : Container} {member : ResourceId} :
    c.hasMember member = true ↔ ∃ number, c.index.find? member = some number :=
  Option.isSome_iff_exists

namespace Entity

/-- Whether a slot holds the child, or the child is a member. -/
def hasChild (e : Entity) (child : ResourceId) : Bool :=
  (e.base.slotOf? child).isSome || e.container?.any fun c ↦ c.hasMember child

theorem hasChild_iff {e : Entity} {child : ResourceId} :
    e.hasChild child = true ↔ (∃ slot, e.base.slots.find? slot = some (some child)) ∨
      ∃ c, e.container? = some c ∧ c.hasMember child = true := by
  rw [hasChild, Bool.or_eq_true, Resource.isSome_slotOf?_iff, Option.any_eq_true]

theorem hasChild_fresh (t : Template) (id : ResourceId) (parent : Option ResourceId)
    (child : ResourceId) : (fresh t id parent).hasChild child = false := by
  rw [← Bool.not_eq_true, hasChild_iff, base_fresh]
  rintro (⟨slot, hslot⟩ | ⟨c, hc, hmember⟩)
  · rw [Resource.find?_slots_fresh] at hslot
    split at hslot <;> cases hslot
  · unfold fresh at hc
    split at hc
    · obtain rfl := Option.some.inj hc
      cases hmember
    · cases hc

theorem hasChild_withBase {e : Entity} {r : Resource} {child : ResourceId}
    (hslots : ∀ slot, r.slots.find? slot = some (some child) →
      e.base.slots.find? slot = some (some child))
    (h : (e.withBase r).hasChild child = true) : e.hasChild child = true := by
  rw [hasChild_iff, base_withBase] at h
  rcases h with ⟨slot, hslot⟩ | ⟨c, hc, hmember⟩
  · exact hasChild_iff.mpr (Or.inl ⟨slot, hslots slot hslot⟩)
  · cases e with
    | resource _ => cases hc
    | container d =>
        obtain rfl := Option.some.inj hc
        exact hasChild_iff.mpr (Or.inr ⟨d, rfl, hmember⟩)

theorem hasChild_bind {e : Entity} {slot : String} {child : ResourceId}
    (hslot : e.base.slots.find? slot = some none) (other : ResourceId) :
    (e.withBase { e.base with slots := e.base.slots.insert slot (some child) }).hasChild other =
        true ↔ other = child ∨ e.hasChild other = true := by
  have hmember : ∀ r, (∃ c, (e.withBase r).container? = some c ∧ c.hasMember other = true) ↔
      ∃ c, e.container? = some c ∧ c.hasMember other = true := by
    intro r
    cases e <;> simp [withBase, container?, Container.hasMember]
  rw [hasChild_iff, base_withBase, hmember, hasChild_iff, ← or_assoc]
  refine or_congr_left ?_
  constructor
  · rintro ⟨place, hplace⟩
    rw [Table.find?_insert] at hplace
    split at hplace
    · exact Or.inl (Option.some.inj (Option.some.inj hplace)).symm
    · exact Or.inr ⟨place, hplace⟩
  · rintro (rfl | ⟨place, hplace⟩)
    · exact ⟨slot, Table.find?_insert_self _ slot _⟩
    · have hne : place ≠ slot := by
        rintro rfl
        rw [hslot] at hplace
        cases hplace
      exact ⟨place, (Table.find?_insert_ne _ _ hne).trans hplace⟩

theorem hasChild_enter (c : Container) (member other : ResourceId) :
    (container (c.entered member)).hasChild other = true ↔
      other = member ∨ (container c).hasChild other = true := by
  have hindex : (c.entered member).hasMember other = true ↔
      other = member ∨ c.hasMember other = true := by
    simp only [Container.hasMember_iff, Container.entered, Table.find?_insert]
    by_cases h : other = member <;> simp [h]
  rw [hasChild_iff, hasChild_iff]
  simp only [container?, Option.some.injEq, exists_eq_left', hindex]
  exact or_left_comm

theorem hasChild_drop {c : Container} {member child : ResourceId}
    (h : (container (c.removeMember member).2).hasChild child = true) :
    (container c).hasChild child = true := by
  have hbase : (c.removeMember member).2.resource = c.resource := c.id_removeMember member
  rw [hasChild_iff] at h ⊢
  simp only [base, hbase, container?, Option.some.injEq, exists_eq_left'] at h ⊢
  refine h.imp_right fun hmember ↦ ?_
  unfold Container.removeMember at hmember
  split at hmember
  · exact hmember
  · rw [Container.hasMember_iff] at hmember ⊢
    obtain ⟨number, hnumber⟩ := hmember
    rw [Table.find?_erase] at hnumber
    split at hnumber
    · cases hnumber
    · exact ⟨number, hnumber⟩

end Entity

namespace StoreState

def entityOf? (s : StoreState) (id : ResourceId) : Option Entity :=
  id.keyed.toOption.bind s.entity?

/-- The parent that a resource has, if it exists; roots have none. -/
def lineage? (s : StoreState) (id : ResourceId) : Option (Option ResourceId) :=
  (s.entityOf? id).map fun e ↦ e.base.parent

/-- Whether a slot or a membership of the owner names the child. -/
def names (s : StoreState) (owner child : ResourceId) : Bool :=
  (s.entityOf? owner).any fun e ↦ e.hasChild child

variable {s t : StoreState} {id : ResourceId} {key : StoredKey} {e d : Entity}

theorem entityOf?_of_keyed (hkey : id.keyed = .ok key) : s.entityOf? id = s.entity? key := by
  rw [entityOf?, hkey]
  rfl

theorem entityOf?_eq_some_iff :
    s.entityOf? id = some e ↔ ∃ key, id.keyed = .ok key ∧ s.entity? key = some e := by
  unfold entityOf?
  cases id.keyed with
  | error fault => simp [Except.toOption]
  | ok key => simp [Except.toOption]

theorem entityOf?_empty (id : ResourceId) : empty.entityOf? id = none := by
  unfold entityOf?
  cases id.keyed <;> rfl

theorem entityOf?_congr (h : t.resources = s.resources) : t.entityOf? = s.entityOf? := by
  funext other
  rw [entityOf?, entityOf?, show t.entity? = s.entity? from congrArg Table.find? h]

/-- Only the resource with the key is found otherwise than before. -/
theorem entityOf?_update {after : Option Entity} (hkey : id.keyed = .ok key)
    (hafter : ∀ other, t.entity? other = if other = key then after else s.entity? other) :
    t.entityOf? = update s.entityOf? id after := by
  funext other
  rw [Function.update_apply]
  by_cases hother : other = id
  · rw [if_pos hother, hother, entityOf?_of_keyed hkey, hafter, if_pos rfl]
  · rw [if_neg hother]
    cases hkeyed : other.keyed with
    | error fault => rw [entityOf?, entityOf?, hkeyed]; rfl
    | ok place =>
        have hne : place ≠ key := by
          rintro rfl
          exact hother (ResourceId.keyed_inj hkeyed hkey)
        rw [entityOf?_of_keyed hkeyed, entityOf?_of_keyed hkeyed, hafter, if_neg hne]

theorem entityOf?_put (hkey : id.keyed = .ok key)
    (hput : t.resources = s.resources.insert key e) :
    t.entityOf? = update s.entityOf? id (some e) :=
  entityOf?_update hkey (entity?_of_insert hput)

theorem entityOf?_erase (hkey : id.keyed = .ok key)
    (herase : t.resources = s.resources.erase key) :
    t.entityOf? = update s.entityOf? id none :=
  entityOf?_update hkey (entity?_of_erase herase)

theorem lineage?_update {after : Option Entity} (h : t.entityOf? = update s.entityOf? id after) :
    t.lineage? = update s.lineage? id (after.map fun e ↦ e.base.parent) := by
  funext other
  rw [lineage?, h, Function.update_apply, Function.update_apply]
  split <;> rfl

theorem names_update {after : Option Entity} (h : t.entityOf? = update s.entityOf? id after)
    (owner child : ResourceId) :
    t.names owner child =
      if owner = id then after.any (fun e ↦ e.hasChild child) else s.names owner child := by
  rw [names, h, Function.update_apply]
  split <;> rfl

theorem lineage?_eq (hkey : id.keyed = .ok key) (he : s.entity? key = some e) :
    s.lineage? id = some e.base.parent := by
  rw [lineage?, entityOf?_of_keyed hkey, he]
  rfl

theorem names_eq (hkey : id.keyed = .ok key) (he : s.entity? key = some e) (child : ResourceId) :
    s.names id child = e.hasChild child := by
  rw [names, entityOf?_of_keyed hkey, he]
  rfl

/-- The same resources with the same parents, where children have been added to their parents. -/
structure Extends (s t : StoreState) : Prop where
  lineage_eq : t.lineage? = s.lineage?
  names {owner child : ResourceId} (h : s.names owner child = true) : t.names owner child = true
  named {owner child : ResourceId} (h : t.names owner child = true) :
    s.names owner child = true ∨ t.lineage? child = some (some owner)

theorem lineage?_replace (hkey : id.keyed = .ok key) (he : s.entity? key = some e)
    (hput : t.resources = s.resources.insert key d) (hparent : d.base.parent = e.base.parent) :
    t.lineage? = s.lineage? := by
  rw [lineage?_update (entityOf?_put hkey hput), Option.map_some, hparent, ← lineage?_eq hkey he,
    Function.update_eq_self]

theorem extends_replace (hkey : id.keyed = .ok key) (he : s.entity? key = some e)
    (hput : t.resources = s.resources.insert key d) (hparent : d.base.parent = e.base.parent)
    {child : ResourceId} (hchild : s.lineage? child = some (some id))
    (hchildren : ∀ other, d.hasChild other = true ↔ other = child ∨ e.hasChild other = true) :
    s.Extends t := by
  have hlineage := lineage?_replace hkey he hput hparent
  have hnames := names_update (entityOf?_put hkey hput)
  refine ⟨hlineage, fun h ↦ ?_, fun h ↦ ?_⟩
  · rw [hnames]
    split
    · next howner =>
      rw [howner, names_eq hkey he] at h
      exact (hchildren _).mpr (Or.inr h)
    · exact h
  · rw [hnames] at h
    split at h
    · next howner =>
      rw [howner, names_eq hkey he, hlineage]
      rcases (hchildren _).mp h with rfl | hold
      · exact Or.inr hchild
      · exact Or.inl hold
    · exact Or.inl h

theorem extends_bound {child : ResourceId} {slot : String} (hkey : id.keyed = .ok key)
    (he : s.entity? key = some e) (hslot : e.base.slots.find? slot = some none)
    (hchild : s.lineage? child = some (some id)) :
    s.Extends (s.putEntity key
      (e.withBase { e.base with slots := e.base.slots.insert slot (some child) })) := by
  refine extends_replace hkey he rfl ?_ hchild (Entity.hasChild_bind hslot)
  rw [Entity.base_withBase]

theorem extends_entered {member : ResourceId} {c : Container} (hkey : id.keyed = .ok key)
    (hc : s.entity? key = some (.container c)) (hmember : s.lineage? member = some (some id)) :
    s.Extends (s.putEntity key (.container (c.entered member))) :=
  extends_replace hkey hc rfl rfl hmember (Entity.hasChild_enter c member)

end StoreState

/-- What a step means to parents: a resource is made where there was none, or is taken away. -/
inductive Succession (s t : StoreState) : Prop
  | same (h : t.lineage? = s.lineage?)
  | founded {id : ResourceId} {parent : Option ResourceId} (hfree : s.lineage? id = none)
      (hlineage : t.lineage? = update s.lineage? id (some parent))
      (hnames : ∀ owner child, s.names owner child = true → t.names owner child = true)
  | removed {id : ResourceId} (hlineage : t.lineage? = update s.lineage? id none)

/-- What a step means to parents and children. A child that comes to be named is one of the
resource that names it. -/
structure Shift (s t : StoreState) : Prop where
  succession : Succession s t
  named {owner child : ResourceId} (h : t.names owner child = true) :
    s.names owner child = true ∨ t.lineage? child = some (some owner)

namespace Shift

variable {s t : StoreState} {id : ResourceId} {key : StoredKey} {e d : Entity}

theorem same (h : t.resources = s.resources) : Shift s t := by
  have hentities := StoreState.entityOf?_congr h
  refine ⟨.same ?_, fun hnames ↦ Or.inl ?_⟩
  · funext other
    rw [StoreState.lineage?, hentities]
    rfl
  · rw [StoreState.names, hentities] at hnames
    exact hnames

theorem of_extends (h : s.Extends t) : Shift s t := ⟨.same h.lineage_eq, h.named⟩

theorem trans_extends {u : StoreState} (h : Shift s u) (hext : u.Extends t) : Shift s t where
  succession := by
    cases h.succession with
    | same hsame => exact .same (hext.lineage_eq.trans hsame)
    | founded hfree hlineage hnames =>
        exact .founded hfree (hext.lineage_eq.trans hlineage)
          fun owner child hold ↦ hext.names (hnames owner child hold)
    | removed hlineage => exact .removed (hext.lineage_eq.trans hlineage)
  named hnames := by
    rcases hext.named hnames with hmiddle | hchild
    · exact hext.lineage_eq ▸ h.named hmiddle
    · exact Or.inr hchild

/-- An entity is replaced by one with the same parent and with no other children. -/
theorem replace (hkey : id.keyed = .ok key) (he : s.entity? key = some e)
    (hput : t.resources = s.resources.insert key d) (hparent : d.base.parent = e.base.parent)
    (hchildren : ∀ child, d.hasChild child = true → e.hasChild child = true) : Shift s t := by
  refine ⟨.same (StoreState.lineage?_replace hkey he hput hparent), fun hnames ↦ Or.inl ?_⟩
  rw [StoreState.names_update (StoreState.entityOf?_put hkey hput)] at hnames
  split at hnames
  · next howner =>
    rw [howner, StoreState.names_eq hkey he]
    exact hchildren _ hnames
  · exact hnames

theorem replaceBase (hkey : id.keyed = .ok key) (he : s.entity? key = some e) {r : Resource}
    (hput : t.resources = s.resources.insert key (e.withBase r))
    (hparent : r.parent = e.base.parent)
    (hslots : ∀ slot child, r.slots.find? slot = some (some child) →
      e.base.slots.find? slot = some (some child)) : Shift s t := by
  refine replace hkey he hput ?_ fun child hchild ↦ ?_
  · rw [Entity.base_withBase, hparent]
  · exact Entity.hasChild_withBase (fun slot ↦ hslots slot child) hchild

/-- A resource is made where there was none, and has no children yet. -/
theorem found (hkey : id.keyed = .ok key) (hfree : s.entity? key = none)
    (hput : t.resources = s.resources.insert key e)
    (hchildless : ∀ child, e.hasChild child = false) : Shift s t := by
  have hentities := StoreState.entityOf?_put hkey hput
  have hnone : s.entityOf? id = none := (StoreState.entityOf?_of_keyed hkey).trans hfree
  have hnames := StoreState.names_update hentities
  refine ⟨.founded ?_ (StoreState.lineage?_update hentities) ?_, ?_⟩
  · rw [StoreState.lineage?, hnone]
    rfl
  · intro owner child hold
    have hne : owner ≠ id := by
      rintro rfl
      rw [StoreState.names, hnone] at hold
      cases hold
    rw [hnames, if_neg hne]
    exact hold
  · intro owner child hnew
    rw [hnames] at hnew
    split at hnew
    · rw [Option.any_some, hchildless] at hnew
      cases hnew
    · exact Or.inl hnew

theorem remove (hkey : id.keyed = .ok key) (herase : t.resources = s.resources.erase key) :
    Shift s t := by
  have hentities := StoreState.entityOf?_erase hkey herase
  refine ⟨.removed (StoreState.lineage?_update hentities), fun hnames ↦ Or.inl ?_⟩
  rw [StoreState.names_update hentities] at hnames
  split at hnames
  · cases hnames
  · exact hnames

end Shift

theorem Effect.shift {library : TemplateLibrary} {s t : StoreState} (h : Effect library s t)
    (hs : s.Sound) : Shift s t := by
  cases h with
  | found _ _ _ hkey hfree => exact .found hkey hfree rfl (Entity.hasChild_fresh _ _ _)
  | bound _ hkey he hslot _ hchild hc hparent =>
      have howned := StoreState.lineage?_eq hchild hc
      exact .of_extends (StoreState.extends_bound hkey he hslot (hparent ▸ howned))
  | cleared he hslot =>
      refine .replaceBase (hs.keyed he) he rfl rfl fun place child hplace ↦ ?_
      rw [Table.find?_insert] at hplace
      split at hplace
      · cases hplace
      · exact hplace
  | entered _ _ hkey hc _ hmember he hparent =>
      have howned := StoreState.lineage?_eq hmember he
      exact .of_extends (StoreState.extends_entered hkey hc (hparent ▸ howned))
  | @dropped key c member hc =>
      refine .replace (hs.keyed hc) hc rfl ?_ fun child hchild ↦ Entity.hasChild_drop hchild
      exact congrArg Resource.parent (c.id_removeMember member)
  | @merged key c candidate hc =>
      obtain ⟨slugs, hslugs⟩ := c.mergeSlug_eq s.slugs candidate
      rw [hslugs]
      exact .replace (hs.keyed hc) hc rfl rfl fun child hchild ↦ hchild
  | advanced => exact .same rfl
  | directed he => exact .replaceBase (hs.keyed he) he rfl rfl fun _ _ hslot ↦ hslot
  | complained _ he hreport =>
      obtain ⟨failure, -, rfl, rfl⟩ := Resource.report?_eq_some_iff.mp hreport
      exact .replaceBase (hs.keyed he) he rfl rfl fun _ _ hslot ↦ hslot
  | complainedAside he hreport =>
      obtain ⟨failure, -, rfl, rfl⟩ := Resource.report?_eq_some_iff.mp hreport
      exact .replaceBase (hs.keyed he) he rfl rfl fun _ _ hslot ↦ hslot
  | settled _ he => exact .replaceBase (hs.keyed he) he rfl rfl fun _ _ hslot ↦ hslot
  | removed hkey _ => exact .remove hkey rfl
  | published => exact .same rfl
  | amended => exact .same rfl
  | retracted => exact .same rfl

end ResourceKernel
