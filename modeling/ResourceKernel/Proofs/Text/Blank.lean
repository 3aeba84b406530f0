import Mathlib.Data.List.DropRight
import ResourceKernel.Text.Blank

/-!
# Taking blanks off the ends

What has no blanks at its ends is left as it is, and so nothing is left to be taken off a text that
has been trimmed.
-/

namespace ResourceKernel.Text

theorem dropWhile_eq_self_of_prefix {α : Type} {p : α → Bool} {xs ys : List α} (h : ys <+: xs)
    (hxs : xs.dropWhile p = xs) : ys.dropWhile p = ys := by
  cases ys with
  | nil => rfl
  | cons y ys =>
      obtain ⟨rest, rfl⟩ := h
      rw [List.dropWhile_eq_self_iff] at hxs ⊢
      intro _
      exact hxs (Nat.zero_lt_succ _)

theorem stripEnds_stripEnds {α : Type} (p : α → Bool) (xs : List α) :
    stripEnds p (stripEnds p xs) = stripEnds p xs := by
  have hstrip : ∀ ys : List α, stripEnds p ys = (ys.dropWhile p).rdropWhile p := fun _ ↦ rfl
  have hfront : (stripEnds p xs).dropWhile p = stripEnds p xs := by
    rw [hstrip]
    apply dropWhile_eq_self_of_prefix (List.rdropWhile_prefix _ _)
    exact List.dropWhile_idempotent p xs
  rw [hstrip, hfront, hstrip]
  exact List.rdropWhile_idempotent p _

theorem stripEnds_eq_self {α : Type} {p : α → Bool} {xs : List α} (h : ∀ x ∈ xs, p x = false) :
    stripEnds p xs = xs := by
  have hfront {ys : List α} (hys : ∀ y ∈ ys, p y = false) : ys.dropWhile p = ys := by
    rw [List.dropWhile_eq_self_iff]
    intro hlength
    simp [hys]
  have hback : xs.reverse.dropWhile p = xs.reverse :=
    hfront fun x hx ↦ h x (List.mem_reverse.mp hx)
  rw [stripEnds, hfront h, hback, List.reverse_reverse]

theorem trim_trim (s : String) : trim (trim s) = trim s := by
  rw [trim, trim, String.toList_ofList, stripEnds_stripEnds]

theorem trim_eq_self {s : String} (h : ∀ c ∈ s.toList, isBlank c = false) : trim s = s := by
  rw [trim, stripEnds_eq_self h, String.ofList_toList]

end ResourceKernel.Text
