import Mathlib.Data.List.Nodup
import Mathlib.Data.List.Perm.Subperm
import ResourceKernel.Resource.Entity

/-!
# Paths of slugs

A number at the end of a path can be read back, so that one slug never hands out a path twice and
the candidates for a new slug are all different. A container with so many slugs has no more
collisions than that, and the path it settles on does not collide.
-/

namespace ResourceKernel

open Text

namespace Slug

theorem toList_numbered (path : String) (n : Nat) :
    (numbered path n).toList = path.toList ++ '_' :: Decimal.digitsOf n := by
  simp [numbered, Decimal.ofNat]

/-- The digits at the end of a numbered path are those of its number. -/
theorem takeWhile_reverse_numbered (path : String) (n : Nat) :
    (numbered path n).toList.reverse.takeWhile Decimal.isDigit = (Decimal.digitsOf n).reverse := by
  have hdigits : ∀ c ∈ (Decimal.digitsOf n).reverse, Decimal.isDigit c = true :=
    fun c hc ↦ Decimal.isDigit_of_mem_digitsOf (List.mem_reverse.mp hc)
  have hmark : Decimal.isDigit '_' = false := by decide
  rw [toList_numbered, List.reverse_append, List.reverse_cons, List.append_assoc,
    List.takeWhile_append_of_pos hdigits, List.singleton_append,
    List.takeWhile_cons_of_neg (by simp [hmark]), List.append_nil]

theorem numbered_inj {p q : String} {m n : Nat} :
    numbered p m = numbered q n ↔ p = q ∧ m = n := by
  constructor
  · intro h
    have hdigits : Decimal.digitsOf m = Decimal.digitsOf n := by
      apply List.reverse_injective
      rw [← takeWhile_reverse_numbered p m, ← takeWhile_reverse_numbered q n, h]
    have hnumber : m = n := by
      rw [← Decimal.valueOf_digitsOf m, ← Decimal.valueOf_digitsOf n, hdigits]
    have hchars := congrArg String.toList h
    rw [toList_numbered, toList_numbered, hdigits] at hchars
    exact ⟨String.toList_injective (List.append_cancel_right hchars), hnumber⟩
  · rintro ⟨rfl, rfl⟩
    rfl

theorem numbered_ne_self (path : String) (n : Nat) : numbered path n ≠ path := by
  intro h
  have hlength := congrArg (List.length ∘ String.toList) h
  simp [toList_numbered] at hlength

theorem pathAt_zero (path : String) : pathAt path 0 = path := rfl

theorem pathAt_succ (path : String) (n : Nat) : pathAt path (n + 1) = numbered path (n + 1) := rfl

/-- Two slugs hand out one path only if the preferred path of one is a numbered path of the
other. -/
theorem pathAt_eq_iff {p q : String} {m n : Nat} :
    pathAt p m = pathAt q n ↔
      (p = q ∧ m = n) ∨ (m = 0 ∧ 0 < n ∧ p = numbered q n) ∨
        (n = 0 ∧ 0 < m ∧ q = numbered p m) := by
  cases m with
  | zero =>
      cases n with
      | zero => simp [pathAt_zero]
      | succ n => simp [pathAt_zero, pathAt_succ]
  | succ m =>
      cases n with
      | zero => simp [pathAt_zero, pathAt_succ, eq_comm]
      | succ n => simp [pathAt_succ, numbered_inj]

theorem pathAt_inj {path : String} {m n : Nat} : pathAt path m = pathAt path n ↔ m = n := by
  rw [pathAt_eq_iff]
  constructor
  · rintro (⟨-, h⟩ | ⟨-, -, h⟩ | ⟨-, -, h⟩)
    · exact h
    · exact absurd h.symm (numbered_ne_self path n)
    · exact absurd h.symm (numbered_ne_self path m)
  · intro h
    exact Or.inl ⟨rfl, h⟩

end Slug

namespace Container

variable {c : Container} {pool : SlugPool} {wanted : Nat} {base path : String}

/-- The slug that is registered under a path. -/
def slug? (c : Container) (pool : SlugPool) (path : String) : Option Slug :=
  (c.slugs.find? path).bind pool.get?

/-- Where the search for a path ends: the slugs under the paths before it have gone beyond the
wanted version, and the slug under its own path has not, if there is one. -/
structure Settles (c : Container) (pool : SlugPool) (wanted : Nat) (base : String)
    (attempt : Nat) : Prop where
  passed {before : Nat} (h : before < attempt) :
    ∃ s, c.slug? pool (candidatePath base before) = some s ∧ wanted < s.version
  free {s : Slug} (h : c.slug? pool (candidatePath base attempt) = some s) : s.version ≤ wanted

theorem collides_eq_true_iff :
    c.collides pool wanted path = true ↔
      ∃ s, c.slug? pool path = some s ∧ wanted < s.version := by
  unfold collides slug?
  cases (c.slugs.find? path).bind pool.get? <;> simp

theorem mem_keys_of_collides (h : c.collides pool wanted path = true) : path ∈ c.slugs.keys := by
  obtain ⟨s, hs, -⟩ := collides_eq_true_iff.mp h
  obtain ⟨index, hindex, -⟩ := Option.bind_eq_some_iff.mp hs
  exact Table.mem_keys_iff.mpr ⟨index, hindex⟩

/-- The search passes collisions only, and stops early only where there is none. -/
theorem freeAttempt_spec (c : Container) (pool : SlugPool) (wanted : Nat) (base : String)
    (fuel attempt : Nat) :
    (∀ passed, attempt ≤ passed → passed < c.freeAttempt pool wanted base fuel attempt →
      c.collides pool wanted (candidatePath base passed) = true) ∧
    (c.freeAttempt pool wanted base fuel attempt = attempt + fuel ∨
      c.collides pool wanted
        (candidatePath base (c.freeAttempt pool wanted base fuel attempt)) = false) := by
  induction fuel generalizing attempt with
  | zero =>
      rw [freeAttempt]
      refine ⟨fun passed hle hlt ↦ ?_, Or.inl rfl⟩
      omega
  | succ fuel ih =>
      rw [freeAttempt]
      by_cases hhere : c.collides pool wanted (candidatePath base attempt) = true
      · rw [if_pos hhere]
        obtain ⟨hpassed, hstop⟩ := ih (attempt + 1)
        refine ⟨fun passed hle hlt ↦ ?_, ?_⟩
        · rcases Nat.eq_or_lt_of_le hle with rfl | hnext
          · exact hhere
          · exact hpassed passed hnext hlt
        · rcases hstop with hend | hfree
          · exact Or.inl (by omega)
          · exact Or.inr hfree
      · rw [if_neg hhere]
        refine ⟨fun passed hle hlt ↦ ?_, Or.inr (Bool.not_eq_true _ ▸ hhere)⟩
        omega

theorem candidatePath_inj {m n : Nat} : candidatePath base m = candidatePath base n ↔ m = n :=
  Slug.pathAt_inj

/-- Different collisions are at different slugs of the container. -/
theorem le_size_of_collides {count : Nat}
    (h : ∀ attempt < count, c.collides pool wanted (candidatePath base attempt) = true) :
    count ≤ c.slugs.size := by
  have hnodup : ((List.range count).map (candidatePath base)).Nodup :=
    List.nodup_range.map fun m n ↦ candidatePath_inj.mp
  have hsub : (List.range count).map (candidatePath base) ⊆ c.slugs.keys := by
    intro path hpath
    obtain ⟨attempt, hattempt, rfl⟩ := List.mem_map.mp hpath
    exact mem_keys_of_collides (h attempt (List.mem_range.mp hattempt))
  have hle := (List.subperm_of_subset hnodup hsub).length_le
  simpa [Table.keys, Table.size] using hle

/-- The search ends where it may end, so that the bound on it never cuts it off. -/
theorem settles_freeAttempt (c : Container) (pool : SlugPool) (wanted : Nat) (base : String) :
    c.Settles pool wanted base (c.freeAttempt pool wanted base c.slugs.size 0) := by
  obtain ⟨hpassed, hstop⟩ := c.freeAttempt_spec pool wanted base c.slugs.size 0
  generalize c.freeAttempt pool wanted base c.slugs.size 0 = attempt at hpassed hstop
  have hbefore : ∀ passed < attempt, c.collides pool wanted (candidatePath base passed) = true :=
    fun passed hlt ↦ hpassed passed (Nat.zero_le passed) hlt
  refine ⟨fun hlt ↦ collides_eq_true_iff.mp (hbefore _ hlt), fun {s} hs ↦ ?_⟩
  by_contra hbeyond
  have hhere : c.collides pool wanted (candidatePath base attempt) = true :=
    collides_eq_true_iff.mpr ⟨s, hs, Nat.not_le.mp hbeyond⟩
  rcases hstop with hend | hfree
  · -- one more collision than there are slugs
    have hall : ∀ passed < attempt + 1,
        c.collides pool wanted (candidatePath base passed) = true := by
      intro passed hlt
      rcases Nat.lt_succ_iff_lt_or_eq.mp hlt with hless | rfl
      · exact hbefore passed hless
      · exact hhere
    have hle := le_size_of_collides hall
    omega
  · rw [hhere] at hfree
    cases hfree

namespace Settles

variable {attempt other : Nat}

theorem le_size (h : c.Settles pool wanted base attempt) : attempt ≤ c.slugs.size :=
  le_size_of_collides fun _ hlt ↦ collides_eq_true_iff.mpr (h.passed hlt)

theorem not_lt (h : c.Settles pool wanted base attempt) (h' : c.Settles pool wanted base other) :
    ¬attempt < other := by
  intro hlt
  obtain ⟨s, hs, hbeyond⟩ := h'.passed hlt
  exact absurd (h.free hs) (Nat.not_le.mpr hbeyond)

theorem unique (h : c.Settles pool wanted base attempt)
    (h' : c.Settles pool wanted base other) : attempt = other :=
  Nat.le_antisymm (Nat.not_lt.mp (h'.not_lt h)) (Nat.not_lt.mp (h.not_lt h'))

end Settles

end Container

end ResourceKernel
