import ResourceKernel.Proofs.Graph.Fits
import ResourceKernel.Proofs.Kernel.Run

/-!
# All entities fit their templates

In every state of a run over a library that has been loaded, an entity stands under the key of its
identity, the library has its template, and it fits this template.
-/

namespace ResourceKernel

/-- Handler types for shelves that have a cover and hold books. -/
def HandlerCatalog.shelves : HandlerCatalog :=
  ⟨.ofList [
    ("Shelves", .ofKind "Shelves" .container
      { id := "shelf", memberHandler := some "Books",
        attachments := [⟨"cover", "cover", "Books", none⟩] }),
    ("Books", .ofKind "Books" .resource { id := "book" })]⟩

namespace Kernel

theorem fits_run {catalog : HandlerCatalog} {roots : List HandlerId} {library : TemplateLibrary}
    (hload : TemplateLibrary.load catalog roots = .ok library) (moves : List Move) :
    ((ofLibrary library).run moves).view.Every fun s ↦ ∀ key e, s.entity? key = some e →
      (∃ k, ResourceKey.encode e.id = .ok k ∧ k.stored = key) ∧
        ∃ t, library.find? e.id.templateId = some t ∧ t.id = e.id.templateId ∧ e.Fits t := by
  have hlibrary : library.Identified := TemplateLibrary.identified_load hload
  have hrun := every_run library (StoreState.fitted_empty library)
    (fun s t h hs hfitted ↦ h.fitted hlibrary hs hfitted) moves
  have hentity : ∀ s : StoreState, s.Sound ∧ s.Fitted library → ∀ key e,
      s.entity? key = some e → (∃ k, ResourceKey.encode e.id = .ok k ∧ k.stored = key) ∧
        ∃ t, library.find? e.id.templateId = some t ∧ t.id = e.id.templateId ∧ e.Fits t := by
    rintro s ⟨hs, hfitted⟩ key e he
    obtain ⟨t, ht, hfits⟩ := hfitted key e he
    exact ⟨ResourceId.keyed_eq_ok_iff.mp (hs.keyed he), t, ht, hlibrary _ t ht, hfits⟩
  exact ⟨hentity _ hrun.committed, fun hsession ↦ hentity _ (hrun.working hsession)⟩

/-- A shelf that has been given a cover and a book, and has been removed and made again in between,
fits the template that was loaded for it. -/
theorem covered_shelf_fits :
    let shelf : Template := ⟨"shelf", "Shelves", none, none, [⟨"cover", "cover", "book", none⟩],
      .container ⟨"book", none⟩⟩
    let library := (TemplateLibrary.empty.insert "Books"
      ⟨"book", "Books", none, none, [], .resource⟩).insert "Shelves" shelf
    let a : ResourceId := ⟨.text "a", "shelf"⟩
    let moves : List Move := [.begin "reader" "t", .change "t" (.create "shelf" (.text "a")),
      .change "t" (.attach a "cover" ⟨.text "b", "book"⟩ .resource), .change "t" (.remove a),
      .change "t" (.create "shelf" (.text "a")),
      .change "t" (.attach a "cover" ⟨.text "b", "book"⟩ .resource),
      .change "t" (.addMember a (.text "c")), .commit "t"]
    let key : StoredKey := ⟨"shelf", "text", "AQAAAAFh"⟩
    TemplateLibrary.load .shelves ["Shelves"] = .ok library ∧
      ∃ e, ((ofLibrary library).run moves).committed.entity? key = some e ∧
        e.base.slots.find? "cover" = some (some ⟨.text "b", "book"⟩) ∧
        e.container?.map Container.memberCount = some 1 ∧
        ∃ t, library.find? e.id.templateId = some t ∧ e.Fits t := by
  intro shelf library a moves key
  have hload : TemplateLibrary.load .shelves ["Shelves"] = .ok library := rfl
  have hsome : (((ofLibrary library).run moves).committed.entity? key).isSome = true := by
    decide +kernel
  obtain ⟨e, he⟩ := Option.isSome_iff_exists.mp hsome
  obtain ⟨-, t, ht, -, hfits⟩ := (fits_run hload moves).committed key e he
  have hcover : (((ofLibrary library).run moves).committed.entity? key).bind
      (fun e ↦ e.base.slots.find? "cover") = some (some ⟨.text "b", "book"⟩) := by decide +kernel
  have hcount : (((ofLibrary library).run moves).committed.entity? key).bind
      (fun e ↦ e.container?.map Container.memberCount) = some 1 := by decide +kernel
  rw [he] at hcover hcount
  exact ⟨hload, e, he, hcover, hcount, t, ht, hfits⟩

end Kernel

end ResourceKernel
