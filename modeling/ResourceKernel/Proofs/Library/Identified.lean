import ResourceKernel.Library.Loader

/-!
# Templates under their identifiers

A library that has been loaded keeps every template under the identifier of the template itself.
-/

namespace ResourceKernel

namespace TemplateLibrary

/-- Each template stands under its own identifier. -/
def Identified (l : TemplateLibrary) : Prop := ∀ ref t, l.find? ref = some t → t.id = ref

theorem identified_empty : empty.Identified := by
  intro ref t h
  cases h

theorem Identified.insert {l : TemplateLibrary} (h : l.Identified) (handler : HandlerId)
    (t : Template) : (l.insert handler t).Identified := by
  intro ref found hfound
  change (l.byId.insert t.id t).find? ref = some found at hfound
  rw [Table.find?_insert] at hfound
  split at hfound
  · next href =>
    obtain rfl := Option.some.inj hfound
    exact href.symm
  · exact h ref found hfound

theorem Identified.foldl {l : TemplateLibrary} (h : l.Identified)
    (entries : List (HandlerId × Template)) :
    (entries.foldl (fun l e ↦ l.insert e.1 e.2) l).Identified := by
  induction entries generalizing l with
  | nil => exact h
  | cons e entries ih => exact ih (h.insert e.1 e.2)

theorem identified_load {catalog : HandlerCatalog} {roots : List HandlerId}
    {library : TemplateLibrary} (hload : load catalog roots = .ok library) :
    library.Identified := by
  unfold load at hload
  cases hdraft : Loader.draftRoots catalog roots with
  | error fault => simp [hdraft] at hload
  | ok s =>
      cases hresolve : Loader.resolvePending catalog catalog.classes.size s with
      | error cause => simp [hdraft, hresolve, Except.map] at hload
      | ok after =>
          simp only [hdraft, hresolve, Except.map, Except.ok.injEq] at hload
          exact hload ▸ identified_empty.foldl after.resolved.entries

end TemplateLibrary

end ResourceKernel
