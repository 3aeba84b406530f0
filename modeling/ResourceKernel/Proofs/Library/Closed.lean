import ResourceKernel.Proofs.Library.Closure
import ResourceKernel.Proofs.Text.Blank

/-!
# References inside a library

Every reference of a template of a loaded library leads to a template of the library, and the two
ways to a template agree: each template stands under its own identifier and belongs to one handler
type.
-/

namespace ResourceKernel

variable {catalog : HandlerCatalog} {roots : List HandlerId} {s : Loader} {h : HandlerId}
  {id : TemplateId} {t : Template}

namespace Loader.Finished

theorem mem_templates_iff (hs : s.Finished catalog roots) :
    t ∈ s.library.templates ↔ ∃ h, s.resolved.find? h = some t := by
  rw [TemplateLibrary.templates, Table.values, List.mem_map]
  constructor
  · rintro ⟨⟨id, u⟩, hmem, rfl⟩
    have hfound : s.library.find? id = some u := Table.find?_eq_some_iff.mpr hmem
    exact (hs.find?_library_iff.mp hfound).2
  · rintro ⟨h, ht⟩
    have hfound : s.library.find? t.id = some t := hs.find?_library_iff.mpr ⟨rfl, h, ht⟩
    exact ⟨(t.id, t), Table.find?_eq_some_iff.mp hfound, rfl⟩

theorem find?_of_mem_templates (hs : s.Finished catalog roots) (ht : t ∈ s.library.templates) :
    s.library.find? t.id = some t :=
  hs.find?_library_iff.mpr ⟨rfl, hs.mem_templates_iff.mp ht⟩

theorem trim_id (hs : s.Finished catalog roots) (ht : t ∈ s.library.templates) :
    Text.trim t.id = t.id ∧ t.id ≠ "" := by
  obtain ⟨h, hh⟩ := hs.mem_templates_iff.mp ht
  obtain ⟨c, kind, -, hwell, hrealizes⟩ := hs.exists_realizes hh
  rw [hrealizes.id]
  exact ⟨Text.trim_trim c.options.id, hwell.id_ne⟩

/-- What a template refers to has been resolved, and so it is in the library. -/
theorem exists_find?_of_names (hs : s.Finished catalog roots) (hnames : s.Names h id) :
    ∃ t, s.library.find? id = some t := by
  obtain ⟨d, hd, rfl⟩ := hnames
  obtain ⟨t, ht⟩ := hs.exists_resolved hd
  obtain ⟨e, he, hresolves⟩ := hs.resolved ht
  obtain rfl := Option.some.inj (hd.symm.trans he)
  exact ⟨t, hs.find?_library_iff.mpr ⟨hresolves.id, h, ht⟩⟩

theorem isSome_memberOf?_iff (hs : s.Finished catalog roots) (ht : s.resolved.find? h = some t) :
    (s.library.memberOf? t).isSome = true ↔ t.kind.isContainer = true := by
  have hkind : t.kind.isContainer = t.form.members?.isSome := t.form.isSome_members?.symm
  rw [hkind, TemplateLibrary.memberOf?, Template.memberTemplate?]
  cases hm : t.form.members? with
  | none => simp
  | some m =>
      obtain ⟨d, -, hresolves⟩ := hs.resolved ht
      obtain ⟨k, -, hnames, -⟩ := hresolves.form.members hm
      obtain ⟨u, hu⟩ := hs.exists_find?_of_names hnames
      simp [hu]

/-- The template that the library has for the members is the one that the template names. -/
theorem memberOf?_eq (hs : s.Finished catalog roots) (ht : t ∈ s.library.templates) :
    (s.library.memberOf? t).map (·.id) = t.memberTemplate? := by
  obtain ⟨h, hh⟩ := hs.mem_templates_iff.mp ht
  cases hm : t.memberTemplate? with
  | none => simp [TemplateLibrary.memberOf?, hm]
  | some m =>
      have hcontainer : t.kind.isContainer = true := by
        rw [Template.memberTemplate?, Option.map_eq_some_iff] at hm
        obtain ⟨settings, hsettings, -⟩ := hm
        have hkind : t.form.members?.isSome = t.kind.isContainer := t.form.isSome_members?
        rw [← hkind, hsettings]
        rfl
      obtain ⟨u, hu⟩ := Option.isSome_iff_exists.mp ((hs.isSome_memberOf?_iff hh).mpr hcontainer)
      rw [TemplateLibrary.memberOf?, hm, Option.bind_some] at hu
      rw [TemplateLibrary.memberOf?, hm, Option.bind_some, hu, Option.map_some,
        (hs.find?_library_iff.mp hu).1]

theorem isSome_attachedTo?_iff (hs : s.Finished catalog roots)
    (ht : s.resolved.find? h = some t) (slot : String) :
    (s.library.attachedTo? t slot).isSome = true ↔ ∃ b ∈ t.slots, b.id = slot := by
  have hdeclared : (t.slot? slot).isSome = true ↔ ∃ b ∈ t.slots, b.id = slot := by
    rw [Template.slot?, List.find?_isSome]
    simp
  rw [← hdeclared, TemplateLibrary.attachedTo?]
  cases hb : t.slot? slot with
  | none => simp
  | some b =>
      obtain ⟨d, -, hresolves⟩ := hs.resolved ht
      have hmem : b ∈ t.slots := List.mem_of_find?_eq_some hb
      obtain ⟨a, -, hlinks⟩ := exists_of_forall₂ hresolves.slots.flip hmem
      obtain ⟨u, hu⟩ := hs.exists_find?_of_names hlinks.target
      simp [hu]

theorem nodup_slots (hs : s.Finished catalog roots) (ht : s.resolved.find? h = some t) :
    (t.slots.map (·.id)).Nodup ∧ (t.slots.map (·.path)).Nodup := by
  obtain ⟨c, kind, -, hwell, hrealizes⟩ := hs.exists_realizes ht
  have hids : t.slots.map (·.id) = c.options.attachments.map (·.id) :=
    map_eq_of_forall₂ hrealizes.slots fun _ _ hslot ↦ hslot.id
  have hpaths : t.slots.map (·.path) = c.options.attachments.map (·.path) :=
    map_eq_of_forall₂ hrealizes.slots fun _ _ hslot ↦ hslot.path
  rw [hids, hpaths]
  exact ⟨hwell.nodup_ids, hwell.nodup_paths⟩

theorem size_library (hs : s.Finished catalog roots) :
    s.library.size = s.library.handlers.length := by
  have hhandlers : s.library.handlers.length = s.library.byHandler.size := List.length_map _
  rw [hhandlers, library_eq, TemplateLibrary.size, Table.size_ofList hs.nodup_ids,
    Table.size_ofList (nodup_handlers s), List.length_map, List.length_map]

end Loader.Finished

namespace TemplateLibrary

/-- What a loaded library promises to whoever follows references in it. -/
structure Closed (l : TemplateLibrary) : Prop where
  handler {h : HandlerId} : h ∈ l.handlers →
    ∃ t, l.findByHandler? h = some t ∧ t.handler = h ∧ l.find? t.id = some t
  template {t : Template} : t ∈ l.templates →
    ∃! h, h ∈ l.handlers ∧ l.findByHandler? h = some t
  size : l.size = l.handlers.length
  member {t : Template} : t ∈ l.templates →
    ((l.memberOf? t).isSome = true ↔ t.kind.isContainer = true)
  attached {t : Template} (slot : String) : t ∈ l.templates →
    ((l.attachedTo? t slot).isSome = true ↔ ∃ b ∈ t.slots, b.id = slot)
  slots {t : Template} : t ∈ l.templates →
    (t.slots.map (·.id)).Nodup ∧ (t.slots.map (·.path)).Nodup

end TemplateLibrary

theorem Loader.Finished.closed (hs : s.Finished catalog roots) (hkeyed : catalog.Keyed) :
    s.library.Closed where
  handler {h} hh := by
    obtain ⟨t, ht⟩ := hs.resolved_iff.mpr (hs.mem_handlers_iff.mp hh)
    obtain ⟨c, -, hc, -, hrealizes⟩ := hs.exists_realizes ht
    have hhandler : t.handler = h := hrealizes.handler.trans (hkeyed h c hc)
    exact ⟨t, hs.findByHandler?_iff.mpr ht, hhandler, hs.find?_library_iff.mpr ⟨rfl, h, ht⟩⟩
  template ht := by
    obtain ⟨h, hh⟩ := hs.mem_templates_iff.mp ht
    have hmem : h ∈ s.library.handlers :=
      hs.mem_handlers_iff.mpr (hs.resolved_iff.mp ⟨_, hh⟩)
    refine ⟨h, ⟨hmem, hs.findByHandler?_iff.mpr hh⟩, fun k ⟨_, hk⟩ ↦ ?_⟩
    exact hs.eq_of_id_eq (hs.findByHandler?_iff.mp hk) hh rfl
  size := hs.size_library
  member ht := by
    obtain ⟨h, hh⟩ := hs.mem_templates_iff.mp ht
    exact hs.isSome_memberOf?_iff hh
  attached slot ht := by
    obtain ⟨h, hh⟩ := hs.mem_templates_iff.mp ht
    exact hs.isSome_attachedTo?_iff hh slot
  slots ht := by
    obtain ⟨h, hh⟩ := hs.mem_templates_iff.mp ht
    exact hs.nodup_slots hh

namespace TemplateLibrary

/-- Though references are only identifiers while a library is being made, none of them is left open,
and no template has taken the place of another. -/
theorem closed_of_load {classes : List HandlerClass}
    (hcatalog : HandlerCatalog.empty.registerAll classes = .ok catalog)
    {library : TemplateLibrary} (hload : load catalog roots = .ok library) : library.Closed := by
  have hkeyed : catalog.Keyed := HandlerCatalog.keyed_empty.registerAll hcatalog
  obtain ⟨s, hs, rfl⟩ := exists_finished hkeyed hload
  exact hs.closed hkeyed

/-- The first template is that of the books. Its slot leads to the shelf, and it has no members. -/
theorem shelf_of_book :
    ∃ catalog library book, HandlerCatalog.empty.registerAll shelvesOfBooks = .ok catalog ∧
      load catalog ["Shelves"] = .ok library ∧ library.templates.head? = some book ∧
      (library.attachedTo? book "home").isSome = true ∧ library.memberOf? book = none ∧
      ∃! h, h ∈ library.handlers ∧ library.findByHandler? h = some book := by
  obtain ⟨catalog, library, book, hcatalog, hload, hhead, hslots, hkind⟩ :
      ∃ catalog library book, HandlerCatalog.empty.registerAll shelvesOfBooks = .ok catalog ∧
        load catalog ["Shelves"] = .ok library ∧ library.templates.head? = some book ∧
        book.slots = [⟨"home", "home", "shelf", none⟩] ∧ book.kind = .resource :=
    ⟨_, _, _, rfl, rfl, rfl, rfl, rfl⟩
  have hclosed : library.Closed := closed_of_load hcatalog hload
  have hbook : book ∈ library.templates := List.mem_of_mem_head? hhead
  have hhome : ∃ b ∈ book.slots, b.id = "home" := by rw [hslots]; decide
  have hnone : library.memberOf? book = none := by
    rw [← Option.not_isSome_iff_eq_none, hclosed.member hbook, hkind]
    decide
  exact ⟨catalog, library, book, hcatalog, hload, hhead, (hclosed.attached "home" hbook).mpr hhome,
    hnone, hclosed.template hbook⟩

end TemplateLibrary

end ResourceKernel
