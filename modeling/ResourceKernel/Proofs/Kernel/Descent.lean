import ResourceKernel.Proofs.Graph.Descent
import ResourceKernel.Proofs.Kernel.History

/-!
# Parents along a history

Removing a resource leaves its children with the parent they had. So when it is made again, it may
be made under one of its own descendants. Nothing else closes a cycle of parents.
-/

namespace ResourceKernel

open Relation (TransGen)

variable {library : TemplateLibrary} {s : StoreState}

theorem Deed.shift (hs : s.Sound) (d : Deed) : Shift s (d.on library s) := by
  cases d with
  | change c => exact (c.orderly hs).course.shift hs
  | advance index =>
      obtain ⟨slugs, hslugs⟩ := s.advance_eq index
      rw [Deed.on, hslugs]
      exact .same rfl

/-- A library of folders that hold folders. -/
def TemplateLibrary.folders : TemplateLibrary :=
  TemplateLibrary.empty.insert "folders" ⟨"folder", "folders", none, none, [],
    .container ⟨"folder", none⟩⟩

theorem Deed.acyclic_iff (hs : s.Sound) (d : Deed) (hacyclic : s.Acyclic) :
    (d.on library s).Acyclic ↔ ¬s.Loops (d.on library s) :=
  (d.shift hs).succession.acyclic_iff hacyclic

/-- In a history with any operations in any order, following parents never leads from a resource
back to it, exactly if no operation makes a resource under a parent that has been left below it by
an earlier removal. -/
theorem acyclic_throughout_iff (library : TemplateLibrary) (deeds : List Deed) :
    (∀ before, before <+: deeds → (replay library .empty before).Acyclic) ↔
      ∀ before d, before ++ [d] <+: deeds →
        ¬(replay library .empty before).Loops (replay library .empty (before ++ [d])) :=
  replay_forall_iff StoreState.acyclic_empty (fun _ d hs hacyclic ↦ d.acyclic_iff hs hacyclic) deeds

/-- So it is for the history of every state in a run: if there is a cycle of parents in the end, the
moves have asked for something that closed one. -/
theorem Kernel.acyclic_run (library : TemplateLibrary) (moves : List Move) :
    ((ofLibrary library).run moves).view.Every fun s ↦
      ∃ deeds, deeds.Sublist (asked moves) ∧ s = replay library .empty deeds ∧
        ((∀ before, before <+: deeds → (replay library .empty before).Acyclic) ↔
          ∀ before d, before ++ [d] <+: deeds →
            ¬(replay library .empty before).Loops (replay library .empty (before ++ [d]))) :=
  every_of_replay (fun deeds ↦ replay_forall_iff StoreState.acyclic_empty
    (fun _ d hs hacyclic ↦ d.acyclic_iff hs hacyclic) deeds) moves

/-- A folder is removed, and made again inside the folder that it has left behind. -/
theorem cycle_of_removed_folder :
    let a : ResourceId := ⟨.text "a", "folder"⟩
    let b : ResourceId := ⟨.text "b", "folder"⟩
    let s := replay .folders .empty [.change (.create "folder" (.text "a")),
      .change (.addMember a (.text "b")), .change (.remove a), .change (.addMember b (.text "a"))]
    s.ChildOf a b ∧ s.ChildOf b a ∧ ¬s.Acyclic := by
  intro a b s
  have hup : s.ChildOf a b := show s.lineage? a = some (some b) by decide +kernel
  have hdown : s.ChildOf b a := show s.lineage? b = some (some a) by decide +kernel
  refine ⟨hup, hdown, fun hacyclic ↦ ?_⟩
  exact hacyclic a (TransGen.head hup (TransGen.single hdown))

end ResourceKernel
