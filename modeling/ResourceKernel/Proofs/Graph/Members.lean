import ResourceKernel.Resource.Entity

/-!
# Numbers of members

A container finds its members by number and their numbers by identity. The two tables say the same
thing, and no number in use has yet to be given out.
-/

namespace ResourceKernel

namespace Table

variable {κ ν : Type} [DecidableEq κ] [Ord κ]

omit [DecidableEq κ] in
theorem placeIn_of_not_lt {k : κ} (v : ν) {es : List (κ × ν)}
    (h : ∀ e ∈ es, compare k e.1 ≠ .lt) : placeIn k v es = es ++ [(k, v)] := by
  induction es with
  | nil => rfl
  | cons e es ih =>
      rw [List.forall_mem_cons] at h
      rw [placeIn, if_neg h.1, ih h.2, List.cons_append]

/-- A new key that is not below any other comes last. -/
theorem entries_insert_of_not_lt {t : Table κ ν} {k : κ} (v : ν) (hfree : t.find? k = none)
    (h : ∀ e ∈ t.entries, compare k e.1 ≠ .lt) :
    (t.insert k v).entries = t.entries ++ [(k, v)] := by
  unfold insert
  split
  · next hfound =>
    rw [hfree] at hfound
    cases hfound
  · exact placeIn_of_not_lt v h

end Table

namespace Container

/-- Members and numbers belong to each other, and numbers are below the counter. -/
structure Numbered (c : Container) : Prop where
  index_iff (member : ResourceId) (number : Nat) :
    c.index.find? member = some number ↔
      ∃ record, c.members.find? number = some record ∧ record.member = member
  lt_counter {number : Nat} {record : Member} (h : c.members.find? number = some record) :
    number < c.counter
  record_eq {number : Nat} {record : Member} (h : c.members.find? number = some record) :
    record = ⟨c.id, record.member, number⟩

theorem numbered_fresh (id : ResourceId) (parent : Option ResourceId) (t : Template) :
    (fresh id parent t).Numbered where
  index_iff member number := by simp [fresh]
  lt_counter h := by simp [fresh] at h
  record_eq h := by simp [fresh] at h

theorem Numbered.congr {c d : Container} (h : c.Numbered) (hid : d.id = c.id)
    (hmembers : d.members = c.members) (hindex : d.index = c.index)
    (hcounter : d.counter = c.counter) : d.Numbered where
  index_iff member number := by rw [hindex, hmembers]; exact h.index_iff member number
  lt_counter hfind := by rw [hcounter]; exact h.lt_counter (hmembers ▸ hfind)
  record_eq hfind := by rw [hid]; exact h.record_eq (hmembers ▸ hfind)

def entered (c : Container) (member : ResourceId) : Container :=
  { c with
    members := c.members.insert c.counter ⟨c.id, member, c.counter⟩
    index := c.index.insert member c.counter
    counter := c.counter + 1 }

theorem addMember_eq (c : Container) (member : ResourceId) :
    c.addMember member =
      if c.hasMember member then .error (.alreadyMember c.id member)
      else .ok (⟨c.id, member, c.counter⟩, c.entered member) := by
  cases h : c.hasMember member <;> simp [addMember, checkAddMember, h, entered]

theorem find?_index_of_hasMember_eq_false {c : Container} {member : ResourceId}
    (h : c.hasMember member = false) : c.index.find? member = none := by
  simpa [hasMember, Table.contains] using h

theorem Numbered.entered {c : Container} (h : c.Numbered) {member : ResourceId}
    (hnew : c.hasMember member = false) : (c.entered member).Numbered := by
  have hnone := find?_index_of_hasMember_eq_false hnew
  have hfree : ∀ record, c.members.find? c.counter ≠ some record :=
    fun record hfind ↦ absurd (h.lt_counter hfind) (Nat.lt_irrefl _)
  constructor
  · intro other number
    simp only [Container.entered, Table.find?_insert]
    by_cases hother : other = member <;> by_cases hnumber : number = c.counter
    · simp [hother, hnumber]
    · -- the new member had no number before
      have hold := h.index_iff member number
      simp only [hnone, reduceCtorEq, false_iff] at hold
      simp [hother, hnumber, Ne.symm hnumber, hold]
    · -- the new number had no member before
      have hold : c.index.find? other ≠ some c.counter := fun hfind ↦ by
        obtain ⟨record, hrecord, -⟩ := (h.index_iff other c.counter).mp hfind
        exact hfree record hrecord
      simp [hother, hnumber, Ne.symm hother, hold]
    · simp [hother, hnumber, h.index_iff]
  · intro number record hfind
    simp only [Container.entered, Table.find?_insert] at hfind ⊢
    split at hfind
    · omega
    · exact Nat.lt_succ_of_lt (h.lt_counter hfind)
  · intro number record hfind
    simp only [Container.entered, Table.find?_insert] at hfind
    split at hfind
    · next hnumber =>
      obtain rfl := Option.some.inj hfind
      rw [hnumber]
      rfl
    · exact h.record_eq hfind

theorem Numbered.removeMember {c : Container} (h : c.Numbered) (member : ResourceId) :
    (c.removeMember member).2.Numbered := by
  unfold Container.removeMember
  cases hindex : c.index.find? member with
  | none => exact h
  | some dropped =>
      obtain ⟨gone, hgone, hmember⟩ := (h.index_iff member dropped).mp hindex
      constructor
      · intro other number
        simp only [Table.find?_erase]
        by_cases hother : other = member <;> by_cases hnumber : number = dropped
        · simp [hother, hnumber]
        · -- a second number of the member would be its number in the index
          have hold : ∀ record, c.members.find? number = some record →
              record.member ≠ member := fun record hfind heq ↦ by
            have := (h.index_iff member number).mpr ⟨record, hfind, heq⟩
            exact hnumber (Option.some.inj (this.symm.trans hindex))
          simpa [hother, hnumber] using hold
        · have hold : c.index.find? other ≠ some dropped := fun hfind ↦ by
            obtain ⟨record, hrecord, heq⟩ := (h.index_iff other dropped).mp hfind
            obtain rfl := Option.some.inj (hgone.symm.trans hrecord)
            exact hother (heq.symm.trans hmember)
          simp [hother, hnumber, hold]
        · simp [hother, hnumber, h.index_iff]
      · intro number record hfind
        simp only [Table.find?_erase] at hfind
        split at hfind
        · simp at hfind
        · exact h.lt_counter hfind
      · intro number record hfind
        simp only [Table.find?_erase] at hfind
        split at hfind
        · simp at hfind
        · exact h.record_eq hfind

/-- Every member has a record to drop. -/
theorem Numbered.isSome_removeMember {c : Container} (h : c.Numbered) (member : ResourceId) :
    (c.removeMember member).1.isSome = c.hasMember member := by
  unfold Container.removeMember Container.hasMember Table.contains
  cases hindex : c.index.find? member with
  | none => rfl
  | some number =>
      obtain ⟨record, hrecord, -⟩ := (h.index_iff member number).mp hindex
      simp [hrecord]

theorem Numbered.removeMember_eq_self {c : Container} (h : c.Numbered) {member : ResourceId}
    (hnone : (c.removeMember member).1 = none) : (c.removeMember member).2 = c := by
  unfold Container.removeMember at hnone ⊢
  cases hindex : c.index.find? member with
  | none => rfl
  | some number =>
      obtain ⟨record, hrecord, -⟩ := (h.index_iff member number).mp hindex
      simp [hindex, hrecord] at hnone

theorem Numbered.find?_members_counter {c : Container} (h : c.Numbered) :
    c.members.find? c.counter = none := by
  cases hfind : c.members.find? c.counter with
  | none => rfl
  | some record => exact absurd (h.lt_counter hfind) (Nat.lt_irrefl _)

/-- Numbers grow, so that a new member comes last. -/
theorem Numbered.entries_entered {c : Container} (h : c.Numbered) (member : ResourceId) :
    (c.entered member).members.entries =
      c.members.entries ++ [(c.counter, ⟨c.id, member, c.counter⟩)] := by
  refine Table.entries_insert_of_not_lt _ h.find?_members_counter fun e he ↦ ?_
  have hlt : e.1 < c.counter := h.lt_counter (Table.find?_eq_some_iff.mpr he)
  rw [ne_eq, Nat.compare_eq_lt]
  exact Nat.lt_asymm hlt

theorem Numbered.member_eq_iff {c : Container} (h : c.Numbered) {e : Nat × Member}
    (he : e ∈ c.members.entries) (member : ResourceId) :
    e.2.member = member ↔ c.index.find? member = some e.1 := by
  have hrecord := Table.find?_eq_some_iff.mpr he
  rw [h.index_iff]
  constructor
  · intro hmember
    exact ⟨e.2, hrecord, hmember⟩
  · rintro ⟨record, hfind, hmember⟩
    obtain rfl := Option.some.inj (hfind.symm.trans hrecord)
    exact hmember

theorem Numbered.entries_removeMember {c : Container} (h : c.Numbered) (member : ResourceId) :
    (c.removeMember member).2.members.entries =
      c.members.entries.filter fun e ↦ e.2.member ≠ member := by
  unfold Container.removeMember
  cases hindex : c.index.find? member with
  | none =>
      refine (List.filter_eq_self.mpr fun e he ↦ ?_).symm
      simp [h.member_eq_iff he, hindex]
  | some number =>
      refine List.filter_congr fun e he ↦ ?_
      simp [h.member_eq_iff he, hindex, eq_comm]

end Container

end ResourceKernel
