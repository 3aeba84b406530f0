import Mathlib.Data.List.Induction
import ResourceKernel.Proofs.Kernel.Run

/-!
# Histories

A history of a state is what has been done to it, one deed after another. What each deed keeps in
sound states is kept by a history, and what one deed keeps unless it goes wrong in a certain way is
kept by a history unless one of its deeds does. Every state in a run of a kernel has a history that
begins with the empty state.
-/

namespace ResourceKernel

def replay (library : TemplateLibrary) (s : StoreState) (deeds : List Deed) : StoreState :=
  deeds.foldl (Deed.on library) s

theorem replay_append (library : TemplateLibrary) (s : StoreState) (deeds more : List Deed) :
    replay library s (deeds ++ more) = replay library (replay library s deeds) more :=
  List.foldl_append

theorem replay_concat (library : TemplateLibrary) (s : StoreState) (deeds : List Deed) (d : Deed) :
    replay library s (deeds ++ [d]) = d.on library (replay library s deeds) :=
  replay_append library s deeds [d]

variable {library : TemplateLibrary} {s : StoreState}

/-- What holds of a sound state, and is kept by the deeds of a history, holds after the history. -/
theorem replay_induction {P : StoreState → Prop} (hs : s.Sound) (hstart : P s) {deeds : List Deed}
    (hdeed : ∀ t : StoreState, t.Sound → ∀ d ∈ deeds, P t → P (d.on library t)) :
    P (replay library s deeds) := by
  induction deeds generalizing s with
  | nil => exact hstart
  | cons d deeds ih =>
      have hsound : (d.on library s).Sound := (d.effects hs).sound hs
      have hnext : P (d.on library s) := hdeed s hs d List.mem_cons_self hstart
      exact ih hsound hnext fun t ht d hd ↦ hdeed t ht d (List.mem_cons_of_mem _ hd)

theorem sound_replay (library : TemplateLibrary) (deeds : List Deed) :
    (replay library .empty deeds).Sound := by
  apply replay_induction StoreState.sound_empty StoreState.sound_empty
  intro t ht d _ _
  exact (d.effects ht).sound ht

namespace Kernel

/-- What moves ask to be done to states, in their order. -/
def asked (moves : List Move) : List Deed := moves.filterMap Move.deed?

/-- Every state in a run comes of a history, which is a part of what the moves ask for. The rest has
been done to states of other transactions, or not at all. -/
theorem exists_replay_run (library : TemplateLibrary) (moves : List Move) :
    ((ofLibrary library).run moves).view.Every fun s ↦
      ∃ deeds, deeds.Sublist (asked moves) ∧ s = replay library .empty deeds := by
  induction moves using List.reverseRecOn with
  | nil => exact ⟨⟨[], .slnil, rfl⟩, fun hsession ↦ by cases hsession⟩
  | append_singleton moves m ih =>
      have hasked : asked (moves ++ [m]) = asked moves ++ m.deed?.toList := by
        rw [asked, List.filterMap_append, asked]
        cases m <;> rfl
      have hrun : (ofLibrary library).run (moves ++ [m]) =
          ((ofLibrary library).run moves).step m := run_append _ moves [m]
      have hlibrary := library_run library moves
      have hturn := step_turn (apart_run library moves).refusal m
      rw [hrun]
      refine hturn.every_next ?_ ?_ ih
      · rintro s ⟨deeds, hdeeds, hs⟩
        exact ⟨deeds, hasked ▸ hdeeds.trans (List.sublist_append_left _ _), hs⟩
      · rintro s d hd ⟨deeds, hdeeds, rfl⟩
        refine ⟨deeds ++ [d], ?_, ?_⟩
        · rw [hasked, Option.mem_def.mp hd]
          exact hdeeds.append_right [d]
        · rw [replay_concat]
          exact congrArg (fun l ↦ d.on l _) hlibrary

/-- What is so of every history and the state that comes of it is so of every state in a run, with
the history that it comes of. -/
theorem every_of_replay {P : List Deed → StoreState → Prop} {library : TemplateLibrary}
    (h : ∀ deeds, P deeds (replay library .empty deeds)) (moves : List Move) :
    ((ofLibrary library).run moves).view.Every fun s ↦
      ∃ deeds, deeds.Sublist (asked moves) ∧ s = replay library .empty deeds ∧ P deeds s := by
  refine (exists_replay_run library moves).imp ?_
  rintro s ⟨deeds, hdeeds, rfl⟩
  exact ⟨deeds, hdeeds, rfl, h deeds⟩

end Kernel

/-- If a deed breaks what has held so far exactly when it goes wrong, then a history keeps it
throughout exactly when none of its deeds goes wrong. -/
theorem replay_forall_iff {P : StoreState → Prop} {Wrong : StoreState → StoreState → Prop}
    (hempty : P .empty)
    (hdeed : ∀ s (d : Deed), s.Sound → P s → (P (d.on library s) ↔ ¬Wrong s (d.on library s)))
    (deeds : List Deed) :
    (∀ before, before <+: deeds → P (replay library .empty before)) ↔
      ∀ before d, before ++ [d] <+: deeds →
        ¬Wrong (replay library .empty before) (replay library .empty (before ++ [d])) := by
  constructor
  · intro hall before d hnext
    have hbefore : before <+: deeds := (List.prefix_append before [d]).trans hnext
    have hafter := hall _ hnext
    rw [replay_concat] at hafter ⊢
    exact (hdeed _ d (sound_replay library before) (hall before hbefore)).mp hafter
  · intro hright before
    induction before using List.reverseRecOn with
    | nil => exact fun _ ↦ hempty
    | append_singleton before d ih =>
        intro hnext
        have hbefore : before <+: deeds := (List.prefix_append before [d]).trans hnext
        have hgood := hright before d hnext
        rw [replay_concat] at hgood ⊢
        exact (hdeed _ d (sound_replay library before) (ih hbefore)).mpr hgood

end ResourceKernel
