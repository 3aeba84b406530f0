import ResourceKernel.Config.Basic
import ResourceKernel.Proofs.Service.Handlers

/-!
# Services of configurations

If no service can be made of a configuration, a template is to blame: a handler type is declared
twice, or the library cannot be loaded. For each entry gives a handler type that can make its
handlers, and the service has never been configured before. Otherwise the library has one template
for each entry that the roots lead to, or for each entry at all if no roots are named.
-/

namespace ResourceKernel

/-! ## Blame -/

/-- It fails, if at all, because a template cannot be created. -/
def BlamesTemplates {α : Type} (r : Result α) : Prop :=
  ∀ fault, r = .error fault → ∃ cause, fault = .templateCreation cause

namespace BlamesTemplates

variable {α β σ : Type}

theorem ok (a : α) : BlamesTemplates (.ok a) := nofun

theorem error (cause : Told TemplateFault) :
    BlamesTemplates (.error (.templateCreation cause) : Result α) := by
  intro fault h
  exact ⟨cause, (Except.error.inj h).symm⟩

theorem bind {x : Result α} {f : α → Result β} (hx : BlamesTemplates x)
    (hf : ∀ a, x = .ok a → BlamesTemplates (f a)) : BlamesTemplates (x >>= f) := by
  cases x with
  | ok a => exact hf a rfl
  | error fault =>
      obtain ⟨cause, rfl⟩ := hx fault rfl
      exact error cause

theorem foldlM {step : σ → α → Result σ} {xs : List α}
    (hstep : ∀ a ∈ xs, ∀ s, BlamesTemplates (step s a)) (s : σ) :
    BlamesTemplates (xs.foldlM step s) := by
  induction xs generalizing s with
  | nil => exact ok s
  | cons a rest ih =>
      obtain ⟨hfirst, hrest⟩ := List.forall_mem_cons.mp hstep
      rw [List.foldlM_cons]
      exact (hfirst s).bind fun next _ ↦ ih hrest next

theorem map {x : Result α} (hx : BlamesTemplates x) (f : α → β) : BlamesTemplates (x.map f) := by
  cases x with
  | ok a => exact ok (f a)
  | error fault =>
      obtain ⟨cause, rfl⟩ := hx fault rfl
      exact error cause

theorem mapError (x : Except (Told TemplateFault) α) :
    BlamesTemplates (x.mapError .templateCreation) := by
  cases x with
  | ok a => exact ok a
  | error cause => exact error cause

theorem iff_ok_or {r : Result α} :
    BlamesTemplates r ↔ (∃ a, r = .ok a) ∨ ∃ cause, r = .error (.templateCreation cause) := by
  cases r <;> simp [BlamesTemplates]

end BlamesTemplates

theorem HandlerCatalog.blamesTemplates_registerAll (catalog : HandlerCatalog)
    (classes : List HandlerClass) : BlamesTemplates (catalog.registerAll classes) := by
  refine .foldlM (fun c _ before ↦ ?_) catalog
  unfold register
  split
  · exact .error _
  · exact .ok _

/-- A fresh service is only told to configure itself once. -/
theorem TemplateService.configure_ofCatalog (catalog : HandlerCatalog) (roots : List HandlerId)
    (instances : List Handler) : (ofCatalog catalog).configure roots instances =
      (configurationOf catalog roots instances).map fun c ↦ ⟨catalog, some c⟩ := by
  have hcall := freshCall catalog ⟨roots, instances⟩
  unfold call at hcall
  unfold configure
  generalize (ofCatalog catalog).configureOnce roots instances = answered at hcall ⊢
  cases hcall with
  | failed h => rw [h]; rfl
  | published h => rw [h]; rfl

namespace KernelConfig

variable {config : KernelConfig} {catalog : HandlerCatalog} {roots : List HandlerId}
  {service : TemplateService} {e f : HandlerEntry} {h : HandlerId}

/-! ## Entries of the catalog -/

theorem nodup_handlers (hcatalog : config.catalog = .ok catalog) :
    (config.handlers.map (·.handler)).Nodup := by
  have hnodup := (HandlerCatalog.registered hcatalog).1
  rwa [List.map_map] at hnodup

theorem eq_of_handler_eq (hcatalog : config.catalog = .ok catalog) (he : e ∈ config.handlers)
    (hf : f ∈ config.handlers) (h : e.handler = f.handler) : e = f :=
  List.inj_on_of_nodup_map (nodup_handlers hcatalog) he hf h

theorem find?_handler (hcatalog : config.catalog = .ok catalog) (he : e ∈ config.handlers) :
    catalog.find? e.handler = some e.toClass :=
  ((HandlerCatalog.registered hcatalog).2 _ _).mpr ⟨List.mem_map_of_mem he, rfl⟩

theorem exists_entry (hcatalog : config.catalog = .ok catalog) {c : HandlerClass}
    (hc : catalog.find? h = some c) : ∃ e ∈ config.handlers, e.handler = h ∧ e.toClass = c := by
  obtain ⟨hmem, rfl⟩ := ((HandlerCatalog.registered hcatalog).2 h c).mp hc
  obtain ⟨e, he, rfl⟩ := List.mem_map.mp hmem
  exact ⟨e, he, rfl, rfl⟩

/-- Every handler can be made, for an entry says all that is needed to make one. -/
theorem exists_complete (hcatalog : config.catalog = .ok catalog) {c : HandlerClass}
    (hc : catalog.find? h = some c) (handlers : Table HandlerId Handler) :
    ∃ after, TemplateService.complete catalog handlers h = .ok after := by
  unfold TemplateService.complete
  split
  · exact ⟨_, rfl⟩
  · obtain ⟨e, -, -, rfl⟩ := exists_entry hcatalog hc
    rw [hc]
    simp only [HandlerEntry.instantiate_toClass]
    exact ⟨_, rfl⟩

/-! ## Its service -/

theorem blamesTemplates_configurationOf (hcatalog : config.catalog = .ok catalog)
    (roots : List HandlerId) :
    BlamesTemplates (TemplateService.configurationOf catalog roots []) := by
  have hkeyed : catalog.Keyed := HandlerCatalog.keyed_empty.registerAll hcatalog
  refine (BlamesTemplates.ok ∅).bind fun supplied _ ↦ ?_
  refine (BlamesTemplates.mapError _).bind fun library hlibrary ↦ ?_
  obtain ⟨s, hs, rfl⟩ := TemplateLibrary.exists_finished hkeyed (mapError_eq_ok_iff.mp hlibrary)
  -- what the library asks for is in the catalog, and so there is an entry that makes it
  refine (BlamesTemplates.foldlM (fun h hh before ↦ ?_) supplied).bind fun handlers _ ↦ .ok _
  obtain ⟨c, -, hc, -⟩ := hs.loadable.known (hs.mem_handlers_iff.mp hh)
  obtain ⟨after, hafter⟩ := exists_complete hcatalog hc before
  rw [hafter]
  exact .ok after

theorem blamesTemplates_service (config : KernelConfig) : BlamesTemplates config.service := by
  refine (HandlerCatalog.blamesTemplates_registerAll _ _).bind fun catalog hcatalog ↦ ?_
  rw [TemplateService.configure_ofCatalog]
  exact (blamesTemplates_configurationOf hcatalog config.effectiveRoots).map _

theorem exists_finished_of_service (h : config.service = .ok service) :
    ∃ catalog configuration, ∃ s : Loader, config.catalog = .ok catalog ∧
      service.Publishes configuration ∧ s.Finished catalog config.effectiveRoots ∧
      configuration.library = s.library := by
  obtain ⟨catalog, hcatalog, h⟩ := bind_eq_ok_iff.mp h
  rw [TemplateService.configure_ofCatalog, map_eq_ok_iff] at h
  obtain ⟨c, hc, rfl⟩ := h
  have hkeyed : catalog.Keyed := HandlerCatalog.keyed_empty.registerAll hcatalog
  obtain ⟨supplied, hsupplied, hload, -⟩ := TemplateService.exists_steps_of_configurationOf hc
  obtain rfl : ∅ = supplied := Except.ok.inj hsupplied
  have hroots : config.effectiveRoots ++ (∅ : Table HandlerId Handler).keys =
      config.effectiveRoots := List.append_nil _
  rw [hroots] at hload
  obtain ⟨s, hs, hlibrary⟩ := TemplateLibrary.exists_finished hkeyed hload
  exact ⟨catalog, c, s, hcatalog, TemplateService.publishes_of_configuration _ _, hs, hlibrary⟩

/-! ## Templates of entries -/

/-- The entries that the named roots lead to: those that are named, and with an entry all that its
handler type refers to. -/
inductive Leads (config : KernelConfig) : HandlerEntry → Prop
  | root {e : HandlerEntry} (he : e ∈ config.handlers) (hroot : e.handler ∈ config.roots) :
      Leads config e
  | reference {e f : HandlerEntry} (hleads : Leads config e) (hf : f ∈ config.handlers)
      (href : f.handler ∈ e.toClass.references) : Leads config f

theorem Leads.mem (hleads : config.Leads e) : e ∈ config.handlers := by
  cases hleads with
  | root he => exact he
  | reference _ hf => exact hf

variable {s : Loader}

theorem exists_entry_of_reaches (hcatalog : config.catalog = .ok catalog)
    (hs : s.Finished catalog roots) (hreach : catalog.Reaches roots h) :
    ∃ e ∈ config.handlers, e.handler = h := by
  obtain ⟨c, -, hc, -⟩ := hs.loadable.known hreach
  obtain ⟨e, he, hh, -⟩ := exists_entry hcatalog hc
  exact ⟨e, he, hh⟩

theorem reaches_iff_of_roots_eq_nil (hcatalog : config.catalog = .ok catalog)
    (hs : s.Finished catalog config.effectiveRoots) (hroots : config.roots = []) :
    catalog.Reaches config.effectiveRoots h ↔ ∃ e ∈ config.handlers, e.handler = h := by
  refine ⟨exists_entry_of_reaches hcatalog hs, ?_⟩
  rintro ⟨e, he, rfl⟩
  apply HandlerCatalog.Reaches.root
  rw [effectiveRoots, hroots]
  exact List.mem_map_of_mem he

theorem reaches_iff_of_roots_ne_nil (hcatalog : config.catalog = .ok catalog)
    (hs : s.Finished catalog config.effectiveRoots) (hroots : config.roots ≠ []) :
    catalog.Reaches config.effectiveRoots h ↔ ∃ e, config.Leads e ∧ e.handler = h := by
  have heffective : config.effectiveRoots = config.roots := by
    rw [effectiveRoots, if_neg (List.isEmpty_iff.not.mpr hroots)]
  constructor
  · intro hreach
    induction hreach with
    | root hroot =>
        obtain ⟨e, he, rfl⟩ := exists_entry_of_reaches hcatalog hs (.root hroot)
        rw [heffective] at hroot
        exact ⟨e, .root he hroot, rfl⟩
    | reference hreach hc hk ih =>
        obtain ⟨e, hleads, rfl⟩ := ih
        obtain ⟨f, hf, rfl⟩ := exists_entry_of_reaches hcatalog hs (.reference hreach hc hk)
        -- the handler type that was found is that of the entry, for no two have one name
        obtain rfl := Option.some.inj ((find?_handler hcatalog hleads.mem).symm.trans hc)
        exact ⟨f, .reference hleads hf hk, rfl⟩
  · rintro ⟨e, hleads, rfl⟩
    induction hleads with
    | root he hroot => exact .root (heffective ▸ hroot)
    | reference hleads hf href ih => exact .reference ih (find?_handler hcatalog hleads.mem) href

end KernelConfig

namespace Loader.Finished

variable {catalog : HandlerCatalog} {roots : List HandlerId} {s : Loader} {h : HandlerId}
  {t : Template}

theorem handler_eq (hs : s.Finished catalog roots) (hkeyed : catalog.Keyed)
    (ht : s.resolved.find? h = some t) : t.handler = h := by
  obtain ⟨c, -, hc, -, hrealizes⟩ := hs.exists_realizes ht
  exact hrealizes.handler.trans (hkeyed h c hc)

theorem nodup_templates (hs : s.Finished catalog roots) : s.library.templates.Nodup := by
  have hids : s.library.templates.map (·.id) = s.library.byId.keys := by
    rw [TemplateLibrary.templates, Table.values, List.map_map]
    refine List.map_congr_left fun e he ↦ ?_
    exact (hs.find?_library_iff.mp (Table.find?_eq_some_iff.mpr he)).1
  refine List.Nodup.of_map (·.id) ?_
  rw [hids]
  exact s.library.byId.nodup

end Loader.Finished

/-- There is one template for each of the entries, which is what the entry says, and no other. -/
structure HandlerCatalog.OneEach (catalog : HandlerCatalog) (entries : HandlerEntry → Prop)
    (l : TemplateLibrary) : Prop where
  entry {e : HandlerEntry} : entries e → ∃! t, t ∈ l.templates ∧ catalog.Realizes e.toClass t
  template {t : Template} : t ∈ l.templates → ∃! e, entries e ∧ catalog.Realizes e.toClass t
  nodup : l.templates.Nodup

namespace KernelConfig

variable {config : KernelConfig} {catalog : HandlerCatalog} {roots : List HandlerId} {s : Loader}

theorem oneEach_of_reaches_iff {entries : HandlerEntry → Prop}
    (hcatalog : config.catalog = .ok catalog) (hs : s.Finished catalog roots)
    (hentries : ∀ e, entries e → e ∈ config.handlers)
    (hreaches : ∀ h, catalog.Reaches roots h ↔ ∃ e, entries e ∧ e.handler = h) :
    catalog.OneEach entries s.library := by
  have hkeyed : catalog.Keyed := HandlerCatalog.keyed_empty.registerAll hcatalog
  have hsays {e : HandlerEntry} {t : Template} (he : entries e)
      (ht : s.resolved.find? e.handler = some t) : catalog.Realizes e.toClass t := by
    obtain ⟨c, -, hc, -, hrealizes⟩ := hs.exists_realizes ht
    obtain rfl := Option.some.inj ((find?_handler hcatalog (hentries e he)).symm.trans hc)
    exact hrealizes
  refine ⟨fun {e} he ↦ ?_, fun {t} ht ↦ ?_, hs.nodup_templates⟩
  · obtain ⟨t, ht⟩ := hs.resolved_iff.mpr ((hreaches e.handler).mpr ⟨e, he, rfl⟩)
    refine ⟨t, ⟨hs.mem_templates_iff.mpr ⟨e.handler, ht⟩, hsays he ht⟩, ?_⟩
    rintro u ⟨hu, hrealizes⟩
    obtain ⟨k, hk⟩ := hs.mem_templates_iff.mp hu
    obtain rfl : e.handler = k := hrealizes.handler.symm.trans (hs.handler_eq hkeyed hk)
    exact Option.some.inj (hk.symm.trans ht)
  · obtain ⟨h, hh⟩ := hs.mem_templates_iff.mp ht
    obtain ⟨e, he, rfl⟩ := (hreaches h).mp (hs.resolved_iff.mp ⟨t, hh⟩)
    refine ⟨e, ⟨he, hsays he hh⟩, ?_⟩
    rintro f ⟨hf, hrealizes⟩
    have hhandler : f.handler = e.handler :=
      hrealizes.handler.symm.trans (hs.handler_eq hkeyed hh)
    exact eq_of_handler_eq hcatalog (hentries f hf) (hentries e he) hhandler

theorem size_library_of_roots_eq_nil (hcatalog : config.catalog = .ok catalog)
    (hs : s.Finished catalog config.effectiveRoots) (hroots : config.roots = []) :
    s.library.size = config.handlers.length := by
  have hnodup : s.library.handlers.Nodup := s.library.byHandler.nodup
  have hperm : s.library.handlers.Perm (config.handlers.map (·.handler)) := by
    refine (List.perm_ext_iff_of_nodup hnodup (nodup_handlers hcatalog)).mpr fun h ↦ ?_
    rw [hs.mem_handlers_iff, reaches_iff_of_roots_eq_nil hcatalog hs hroots, List.mem_map]
  rw [hs.size_library, hperm.length_eq, List.length_map]

end KernelConfig

end ResourceKernel
