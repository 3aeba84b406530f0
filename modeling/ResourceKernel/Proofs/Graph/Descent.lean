import ResourceKernel.Proofs.Graph.Kinship

/-!
# Cycles of parents and strange children

A resource that is made under a parent closes a cycle exactly if the parent descends from what has
stood in its place before. It is a strange child exactly if somebody else still names it. No other
step brings either about.
-/

namespace ResourceKernel

open Function (update)
open Relation (ReflTransGen TransGen)

/-- A chain with one more link runs along the old links, or goes through the new one. -/
theorem transGen_of_link {α : Type} {r : α → α → Prop} {a b x y : α}
    (h : TransGen (fun u v ↦ r u v ∨ (u = a ∧ v = b)) x y) :
    TransGen r x y ∨ (ReflTransGen r x a ∧ ReflTransGen r b y) := by
  induction h with
  | single hlink =>
      rcases hlink with hold | ⟨rfl, rfl⟩
      · exact Or.inl (.single hold)
      · exact Or.inr ⟨.refl, .refl⟩
  | tail _ hlink ih =>
      rcases hlink with hold | ⟨rfl, rfl⟩
      · rcases ih with hchain | ⟨hbefore, hafter⟩
        · exact Or.inl (hchain.tail hold)
        · exact Or.inr ⟨hbefore, hafter.tail hold⟩
      · rcases ih with hchain | ⟨hbefore, -⟩
        · exact Or.inr ⟨hchain.to_reflTransGen, .refl⟩
        · exact Or.inr ⟨hbefore, .refl⟩

/-- A link closes a cycle exactly if its end leads back to its start. -/
theorem acyclic_link_iff {α : Type} {r : α → α → Prop} (hr : ∀ x, ¬TransGen r x x) (a b : α) :
    (∀ x, ¬TransGen (fun u v ↦ r u v ∨ (u = a ∧ v = b)) x x) ↔ ¬ReflTransGen r b a := by
  constructor
  · intro hacyclic hback
    have hlifted : ReflTransGen (fun u v ↦ r u v ∨ (u = a ∧ v = b)) b a :=
      ReflTransGen.mono (fun u v h ↦ Or.inl h) _ _ hback
    exact hacyclic a (TransGen.head' (Or.inr ⟨rfl, rfl⟩) hlifted)
  · intro hback x hcycle
    rcases transGen_of_link hcycle with hold | ⟨hbefore, hafter⟩
    · exact hr x hold
    · exact hback (hafter.trans hbefore)

namespace StoreState

def ChildOf (s : StoreState) (child parent : ResourceId) : Prop :=
  s.lineage? child = some (some parent)

/-- Whoever follows the parents of a resource never comes back to it. -/
def Acyclic (s : StoreState) : Prop := ∀ id, ¬TransGen s.ChildOf id id

/-- Every existing resource that is named is a child of the resource that names it, and so no two
resources name it. -/
structure Owned (s : StoreState) : Prop where
  parent {owner child : ResourceId} {parent : Option ResourceId}
    (hnames : s.names owner child = true) (hchild : s.lineage? child = some parent) :
    parent = some owner
  unique {owner other child : ResourceId} {parent : Option ResourceId}
    (hnames : s.names owner child = true) (hother : s.names other child = true)
    (hchild : s.lineage? child = some parent) : owner = other

theorem Owned.of_parent {s : StoreState}
    (h : ∀ owner child parent, s.names owner child = true → s.lineage? child = some parent →
      parent = some owner) : s.Owned where
  parent hnames hchild := h _ _ _ hnames hchild
  unique hnames hother hchild :=
    Option.some.inj ((h _ _ _ hnames hchild).symm.trans (h _ _ _ hother hchild))

/-- A resource comes into being, under a parent or as a root. -/
def Founds (s t : StoreState) (id : ResourceId) (parent : Option ResourceId) : Prop :=
  s.lineage? id = none ∧ t.lineage? id = some parent

/-- A resource comes into being under a parent that descends from it already. -/
def Loops (s t : StoreState) : Prop :=
  ∃ id parent, s.Founds t id (some parent) ∧ ReflTransGen s.ChildOf parent id

/-- A resource comes into being while somebody else than its parent names it. -/
def Poaches (s t : StoreState) : Prop :=
  ∃ id parent owner, s.Founds t id parent ∧ s.names owner id = true ∧ parent ≠ some owner

theorem acyclic_empty : empty.Acyclic := by
  intro id hcycle
  obtain ⟨parent, hparent, -⟩ := TransGen.head'_iff.mp hcycle
  rw [ChildOf, lineage?, entityOf?_empty] at hparent
  cases hparent

theorem owned_empty : empty.Owned := by
  refine .of_parent fun owner child parent hnames _ ↦ ?_
  rw [names, entityOf?_empty] at hnames
  cases hnames

variable {s t : StoreState} {id : ResourceId} {parent : Option ResourceId}

theorem Founds.id_eq {other : ResourceId} {after : Option (Option ResourceId)}
    (h : s.Founds t other parent) (hlineage : t.lineage? = update s.lineage? id after) :
    other = id ∧ after = some parent := by
  obtain ⟨hfree, hmade⟩ := h
  rw [hlineage, Function.update_apply] at hmade
  split at hmade
  · next heq => exact ⟨heq, hmade⟩
  · rw [hfree] at hmade
    cases hmade

theorem not_founds_of_same (h : t.lineage? = s.lineage?) (id : ResourceId)
    (parent : Option ResourceId) : ¬s.Founds t id parent := by
  rintro ⟨hfree, hmade⟩
  rw [h, hfree] at hmade
  cases hmade

theorem not_founds_of_removed (h : t.lineage? = update s.lineage? id none) (other : ResourceId)
    (parent : Option ResourceId) : ¬s.Founds t other parent := by
  intro hfounds
  cases (hfounds.id_eq h).2

theorem founds_of_founded (hfree : s.lineage? id = none)
    (hlineage : t.lineage? = update s.lineage? id (some parent)) : s.Founds t id parent := by
  refine ⟨hfree, ?_⟩
  rw [hlineage, Function.update_self]

end StoreState

variable {s t : StoreState}

open StoreState

theorem childOf_founded {id parent : ResourceId} (hfree : s.lineage? id = none)
    (hlineage : t.lineage? = update s.lineage? id (some (some parent))) :
    t.ChildOf = fun child owner ↦ s.ChildOf child owner ∨ (child = id ∧ owner = parent) := by
  funext child owner
  rw [ChildOf, ChildOf, hlineage, Function.update_apply]
  by_cases hchild : child = id
  · simp [hchild, hfree, eq_comm]
  · simp [hchild]

theorem Succession.acyclic_iff (h : Succession s t) (hs : s.Acyclic) :
    t.Acyclic ↔ ¬s.Loops t := by
  cases h with
  | same hsame =>
      have hlinks : t.ChildOf = s.ChildOf := by
        funext child owner
        rw [ChildOf, ChildOf, hsame]
      refine iff_of_true (fun id hcycle ↦ hs id (hlinks ▸ hcycle)) ?_
      rintro ⟨id, parent, hfounds, -⟩
      exact not_founds_of_same hsame _ _ hfounds
  | @founded id parent hfree hlineage hnames =>
      cases parent with
      | none =>
          -- a root has no link to follow
          have hlinks : t.ChildOf = s.ChildOf := by
            funext child owner
            rw [ChildOf, ChildOf, hlineage, Function.update_apply]
            by_cases hchild : child = id
            · simp [hchild, hfree]
            · rw [if_neg hchild]
          refine iff_of_true (fun id hcycle ↦ hs id (hlinks ▸ hcycle)) ?_
          rintro ⟨other, parent, hfounds, -⟩
          cases (hfounds.id_eq hlineage).2
      | some parent =>
          have hlinks := childOf_founded hfree hlineage
          have hiff : t.Acyclic ↔ ¬ReflTransGen s.ChildOf parent id := by
            rw [Acyclic, hlinks]
            exact acyclic_link_iff hs id parent
          rw [hiff, not_iff_not]
          constructor
          · intro hback
            exact ⟨id, parent, founds_of_founded hfree hlineage, hback⟩
          · rintro ⟨other, owner, hfounds, hback⟩
            obtain ⟨rfl, heq⟩ := hfounds.id_eq hlineage
            obtain rfl := Option.some.inj (Option.some.inj heq)
            exact hback
  | @removed id hlineage =>
      have hlinks : ∀ child owner, t.ChildOf child owner → s.ChildOf child owner := by
        intro child owner hchild
        rw [ChildOf, hlineage, Function.update_apply] at hchild
        split at hchild
        · cases hchild
        · exact hchild
      refine iff_of_true (fun other hcycle ↦ hs other (TransGen.mono hlinks _ _ hcycle)) ?_
      rintro ⟨other, parent, hfounds, -⟩
      exact not_founds_of_removed hlineage _ _ hfounds

theorem Shift.owned_iff (h : Shift s t) (hs : s.Owned) : t.Owned ↔ ¬s.Poaches t := by
  cases h.succession with
  | same hsame =>
      refine iff_of_true (.of_parent fun owner child parent hnames hchild ↦ ?_) ?_
      · rcases h.named hnames with hold | hnew
        · exact hs.parent hold (hsame ▸ hchild)
        · exact Option.some.inj (hchild.symm.trans hnew)
      · rintro ⟨id, parent, owner, hfounds, -, -⟩
        exact not_founds_of_same hsame _ _ hfounds
  | @founded id parent hfree hlineage hkept =>
      constructor
      · rintro ht ⟨other, found, owner, hfounds, hnames, hne⟩
        exact hne (ht.parent (hkept _ _ hnames) hfounds.2)
      · intro hpoach
        refine .of_parent fun owner child found hnames hchild ↦ ?_
        rcases h.named hnames with hold | hnew
        · by_cases heq : child = id
          · subst heq
            by_contra hne
            exact hpoach ⟨child, found, owner, ⟨hfree, hchild⟩, hold, hne⟩
          · rw [hlineage, Function.update_of_ne heq] at hchild
            exact hs.parent hold hchild
        · exact Option.some.inj (hchild.symm.trans hnew)
  | @removed id hlineage =>
      refine iff_of_true (.of_parent fun owner child parent hnames hchild ↦ ?_) ?_
      · rcases h.named hnames with hold | hnew
        · rw [hlineage, Function.update_apply] at hchild
          split at hchild
          · cases hchild
          · exact hs.parent hold hchild
        · exact Option.some.inj (hchild.symm.trans hnew)
      · rintro ⟨other, parent, owner, hfounds, -, -⟩
        exact not_founds_of_removed hlineage _ _ hfounds

end ResourceKernel
