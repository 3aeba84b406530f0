import Mathlib.Data.List.Nodup
import ResourceKernel.Proofs.Library.Loader

/-!
# The library of all that the roots lead to

A loader that has nothing left to resolve has resolved just what the roots lead to. Its library
holds one template for each of these handler types, and the templates that a template refers to.
-/

namespace ResourceKernel

variable {catalog : HandlerCatalog} {roots : List HandlerId} {s : Loader} {h : HandlerId}
  {id : TemplateId} {t : Template}

/-! ## Templates of handler types -/

namespace HandlerCatalog

/-- The handler type is in the catalog and has the template identifier. -/
def Names (catalog : HandlerCatalog) (h : HandlerId) (id : TemplateId) : Prop :=
  ∃ c, catalog.find? h = some c ∧ c.templateId = id

/-- The slot is that of the attachment, with the template of the handler type that it is for. -/
structure Attaches (catalog : HandlerCatalog) (a : AttachmentOption) (b : Slot) : Prop where
  id : b.id = a.id
  path : b.path = a.path
  predicate : Option.Rel (fun raw (u : Uri) ↦ u.StandsIn raw) a.predicate b.predicate
  target : catalog.Names a.handler b.template

/-- The template is what the handler type says, with references followed in the catalog. -/
structure Realizes (catalog : HandlerCatalog) (c : HandlerClass) (t : Template) : Prop where
  marker : c.markers = [t.kind]
  id : t.id = c.templateId
  handler : t.handler = c.id
  name : t.name = c.options.name
  description : t.description = c.options.description
  slots : List.Forall₂ catalog.Attaches c.options.attachments t.slots
  members {m : MemberSettings} : t.form.members? = some m →
    ∃ h, c.options.memberHandler = some h ∧ catalog.Names h m.template ∧
      m.path = c.options.memberPath
  membership : c.options.Relates t.kind t.form.membership?
  inserted : c.options.Inserts t.kind t.form.insertedContentRelation?

end HandlerCatalog

namespace Loader

theorem Sound.names (hs : s.Sound catalog roots) (hnames : s.Names h id) : catalog.Names h id := by
  obtain ⟨d, hd, rfl⟩ := hnames
  obtain ⟨c, hc, hdrafts⟩ := hs.drafted hd
  exact ⟨c, hc, hdrafts.id.symm⟩

theorem forall₂_trans {α β γ : Type} {R : α → β → Prop} {S : β → γ → Prop} {T : α → γ → Prop}
    (hcomp : ∀ x y z, R x y → S y z → T x z) {xs : List α} {ys : List β} {zs : List γ}
    (h₁ : List.Forall₂ R xs ys) (h₂ : List.Forall₂ S ys zs) : List.Forall₂ T xs zs := by
  induction h₁ generalizing zs with
  | nil =>
      cases h₂
      exact .nil
  | cons hxy _ ih =>
      cases h₂ with
      | cons hyz hrest => exact .cons (hcomp _ _ _ hxy hyz) (ih hrest)

theorem Sound.realizes (hs : s.Sound catalog roots) {c : HandlerClass} {d : Draft}
    (hdrafts : d.Drafts c) (hresolves : s.Resolves d t) : catalog.Realizes c t := by
  have hkind : t.kind = d.kind := hresolves.form.kind
  refine ⟨?_, hresolves.id.trans hdrafts.id, hresolves.handler.trans hdrafts.handler,
    hresolves.name.trans hdrafts.name, hresolves.description.trans hdrafts.description,
    forall₂_trans ?_ hdrafts.slots hresolves.slots, fun {m} hm ↦ ?_, ?_, ?_⟩
  · rw [hkind]
    exact hdrafts.wellFormed.marker
  · intro a slot b hslot hlinks
    refine ⟨hlinks.id.trans hslot.id, hlinks.path.trans hslot.path, ?_, ?_⟩
    · rw [hlinks.predicate]
      exact hslot.predicate
    · rw [← hslot.handler]
      exact hs.names hlinks.target
  · obtain ⟨k, hk, hnames, hpath⟩ := hresolves.form.members hm
    have hcontainer : d.kind.isContainer = true := by
      rw [← hresolves.form.kind, ← TemplateForm.isSome_members?, hm]
      rfl
    rw [hdrafts.memberHandler, if_pos hcontainer] at hk
    rw [hdrafts.memberPath, if_pos hcontainer] at hpath
    exact ⟨k, hk, hs.names hnames, hpath⟩
  · rw [hkind, hresolves.form.membership]
    exact hdrafts.membership
  · rw [hkind, hresolves.form.inserted]
    exact hdrafts.inserted

/-! ## A loader with nothing left to resolve -/

/-- The walk of the loader has come to its end. -/
structure Finished (catalog : HandlerCatalog) (roots : List HandlerId) (s : Loader) : Prop
    extends Walks catalog roots [] s where
  done : s.pending = []

namespace Finished

theorem exists_resolved (hs : s.Finished catalog roots) {d : Draft}
    (hd : s.drafts.find? h = some d) : ∃ t, s.resolved.find? h = some t := by
  obtain hwaits | hresolved := hs.covered hd
  · rw [List.nil_append, hs.done] at hwaits
    cases hwaits
  · exact hresolved

/-- What is resolved is closed under references, and contains the roots. -/
theorem resolved_iff (hs : s.Finished catalog roots) :
    (∃ t, s.resolved.find? h = some t) ↔ catalog.Reaches roots h := by
  constructor
  · rintro ⟨t, ht⟩
    obtain ⟨d, hd, -⟩ := hs.resolved ht
    exact hs.reached hd
  · intro hreach
    induction hreach with
    | root hroot =>
        obtain ⟨d, hd⟩ := hs.roots hroot
        exact hs.exists_resolved hd
    | @reference h k c _ hc hk ih =>
        obtain ⟨t, ht⟩ := ih
        obtain ⟨d, hd, hresolves⟩ := hs.resolved ht
        obtain ⟨c', hc', hdrafts⟩ := hs.drafted hd
        obtain rfl := Option.some.inj (hc.symm.trans hc')
        rw [← hdrafts.references_eq] at hk
        obtain ⟨e, he⟩ := hresolves.exists_draft ⟨c, hc, hdrafts⟩ hk
        exact hs.exists_resolved he

theorem exists_realizes (hs : s.Finished catalog roots) (ht : s.resolved.find? h = some t) :
    ∃ c kind, catalog.find? h = some c ∧ c.WellFormed kind ∧ catalog.Realizes c t := by
  obtain ⟨d, hd, hresolves⟩ := hs.resolved ht
  obtain ⟨c, hc, hdrafts⟩ := hs.drafted hd
  exact ⟨c, d.kind, hc, hdrafts.wellFormed, hs.realizes hdrafts hresolves⟩

/-- No two handler types have one template identifier. -/
theorem eq_of_id_eq (hs : s.Finished catalog roots) {k : HandlerId} {u : Template}
    (ht : s.resolved.find? h = some t) (hu : s.resolved.find? k = some u) (hid : t.id = u.id) :
    h = k := by
  obtain ⟨d, hd, hresolves⟩ := hs.resolved ht
  obtain ⟨e, he, hresolves'⟩ := hs.resolved hu
  have hsame : d.id = e.id := by rw [← hresolves.id, hid, hresolves'.id]
  have howner : s.owners.find? e.id = some h := hs.owner_iff.mpr ⟨d, hd, hsame⟩
  have howner' : s.owners.find? e.id = some k := hs.owner_iff.mpr ⟨e, he, rfl⟩
  exact Option.some.inj (howner.symm.trans howner')

theorem loadable (hs : s.Finished catalog roots) : catalog.Loadable roots where
  known hreach := by
    obtain ⟨t, ht⟩ := hs.resolved_iff.mpr hreach
    obtain ⟨c, kind, hc, hwell, -⟩ := hs.exists_realizes ht
    exact ⟨c, kind, hc, hwell⟩
  members {h c} hreach hc hmark := by
    obtain ⟨t, ht⟩ := hs.resolved_iff.mpr hreach
    obtain ⟨c', -, hc', -, hrealizes⟩ := hs.exists_realizes ht
    obtain rfl := Option.some.inj (hc.symm.trans hc')
    have hsome : t.form.members?.isSome = true := by
      rw [hrealizes.marker, List.any_cons, List.any_nil, Bool.or_false] at hmark
      rw [TemplateForm.isSome_members?]
      exact hmark
    obtain ⟨m, hm⟩ := Option.isSome_iff_exists.mp hsome
    obtain ⟨k, hk, -⟩ := hrealizes.members hm
    rw [hk]
    rfl
  distinct {h k c e} hh hk hc he hid := by
    obtain ⟨t, ht⟩ := hs.resolved_iff.mpr hh
    obtain ⟨u, hu⟩ := hs.resolved_iff.mpr hk
    obtain ⟨c', -, hc', -, hrealizes⟩ := hs.exists_realizes ht
    obtain ⟨e', -, he', -, hrealizes'⟩ := hs.exists_realizes hu
    obtain rfl := Option.some.inj (hc.symm.trans hc')
    obtain rfl := Option.some.inj (he.symm.trans he')
    exact hs.eq_of_id_eq ht hu (by rw [hrealizes.id, hid, hrealizes'.id])

end Finished

/-! ## Its library -/

theorem library_eq (s : Loader) :
    s.library = ⟨.ofList (s.resolved.entries.map fun e ↦ (e.2.id, e.2)),
      .ofList (s.resolved.entries.map fun e ↦ (e.1, e.2.id))⟩ := by
  have hfold (entries : List (HandlerId × Template)) (l : TemplateLibrary) :
      entries.foldl (fun l e ↦ l.insert e.1 e.2) l =
        ⟨(entries.map fun e ↦ (e.2.id, e.2)).foldl (fun t e ↦ t.insert e.1 e.2) l.byId,
          (entries.map fun e ↦ (e.1, e.2.id)).foldl (fun t e ↦ t.insert e.1 e.2) l.byHandler⟩ := by
    induction entries generalizing l with
    | nil => rfl
    | cons e entries ih => exact ih (l.insert e.1 e.2)
  exact hfold s.resolved.entries .empty

namespace Finished

theorem nodup_ids (hs : s.Finished catalog roots) :
    ((s.resolved.entries.map fun e ↦ (e.2.id, e.2)).map Prod.fst).Nodup := by
  rw [List.map_map]
  have hentries : s.resolved.entries.Nodup := s.resolved.nodup.of_map
  refine hentries.map_on fun e he f hf hid ↦ ?_
  have hh : e.1 = f.1 :=
    hs.eq_of_id_eq (Table.find?_eq_some_iff.mpr he) (Table.find?_eq_some_iff.mpr hf) hid
  exact List.inj_on_of_nodup_map s.resolved.nodup he hf hh

theorem find?_library_iff (hs : s.Finished catalog roots) :
    s.library.find? id = some t ↔ t.id = id ∧ ∃ h, s.resolved.find? h = some t := by
  rw [library_eq, TemplateLibrary.find?, Table.find?_ofList_eq_some_iff hs.nodup_ids, List.mem_map]
  constructor
  · rintro ⟨⟨h, u⟩, hmem, hpair⟩
    obtain ⟨rfl, rfl⟩ := Prod.mk.inj hpair
    exact ⟨rfl, h, Table.find?_eq_some_iff.mpr hmem⟩
  · rintro ⟨rfl, h, ht⟩
    exact ⟨(h, t), Table.find?_eq_some_iff.mp ht, rfl⟩

theorem nodup_handlers (s : Loader) :
    ((s.resolved.entries.map fun e ↦ (e.1, e.2.id)).map Prod.fst).Nodup := by
  rw [List.map_map]
  exact s.resolved.nodup

theorem find?_byHandler_iff (s : Loader) :
    s.library.byHandler.find? h = some id ↔ ∃ t, s.resolved.find? h = some t ∧ t.id = id := by
  rw [library_eq, Table.find?_ofList_eq_some_iff (nodup_handlers s), List.mem_map]
  constructor
  · rintro ⟨⟨k, t⟩, hmem, hpair⟩
    obtain ⟨rfl, rfl⟩ := Prod.mk.inj hpair
    exact ⟨t, Table.find?_eq_some_iff.mpr hmem, rfl⟩
  · rintro ⟨t, ht, rfl⟩
    exact ⟨(h, t), Table.find?_eq_some_iff.mp ht, rfl⟩

theorem findByHandler?_iff (hs : s.Finished catalog roots) :
    s.library.findByHandler? h = some t ↔ s.resolved.find? h = some t := by
  rw [TemplateLibrary.findByHandler?, Option.bind_eq_some_iff]
  constructor
  · rintro ⟨id, hhandler, hid⟩
    obtain ⟨u, hu, rfl⟩ := (find?_byHandler_iff s).mp hhandler
    obtain ⟨hsame, k, ht⟩ := hs.find?_library_iff.mp hid
    obtain rfl := hs.eq_of_id_eq hu ht hsame.symm
    exact ht
  · intro ht
    exact ⟨t.id, (find?_byHandler_iff s).mpr ⟨t, ht, rfl⟩, hs.find?_library_iff.mpr ⟨rfl, h, ht⟩⟩

theorem mem_handlers_iff (hs : s.Finished catalog roots) :
    h ∈ s.library.handlers ↔ catalog.Reaches roots h := by
  rw [TemplateLibrary.handlers, Table.mem_keys_iff, ← hs.resolved_iff]
  constructor
  · rintro ⟨id, hid⟩
    obtain ⟨t, ht, -⟩ := (find?_byHandler_iff s).mp hid
    exact ⟨t, ht⟩
  · rintro ⟨t, ht⟩
    exact ⟨t.id, (find?_byHandler_iff s).mpr ⟨t, ht, rfl⟩⟩

end Finished

end Loader

namespace TemplateLibrary

/-- A library that has been loaded is that of a loader with nothing left to resolve. -/
theorem exists_finished {library : TemplateLibrary} (hkeyed : catalog.Keyed)
    (hload : load catalog roots = .ok library) :
    ∃ s : Loader, s.Finished catalog roots ∧ library = s.library := by
  obtain ⟨found, hfound, s, hs, hdone, rfl⟩ | ⟨cause, hfails, -⟩ :=
    @attains_load catalog roots hkeyed
  · exact ⟨s, ⟨hs, hdone⟩, Except.ok.inj (hload.symm.trans hfound)⟩
  · rw [hload] at hfails
    cases hfails

theorem exists_load_iff (hkeyed : catalog.Keyed) :
    (∃ library, load catalog roots = .ok library) ↔ catalog.Loadable roots := by
  constructor
  · rintro ⟨library, hload⟩
    obtain ⟨s, hs, -⟩ := exists_finished hkeyed hload
    exact hs.loadable
  · intro hloadable
    obtain ⟨library, hload, -⟩ | ⟨cause, -, hcause⟩ := @attains_load catalog roots hkeyed
    · exact ⟨library, hload⟩
    · exact absurd hloadable hcause.not_loadable

/-- The loader computes what the roots lead to, in whatever order it finds it, and fails only if
something there is missing or wrong. A catalog holds what has been registered in it, and nothing
else. -/
theorem load_computes_closure {classes : List HandlerClass}
    (hcatalog : HandlerCatalog.empty.registerAll classes = .ok catalog)
    (roots : List HandlerId) :
    ((∃ library, load catalog roots = .ok library) ↔ catalog.Loadable roots) ∧
      ∀ library, load catalog roots = .ok library →
        (∀ h, h ∈ library.handlers ↔ catalog.Reaches roots h) ∧
          ∀ h, catalog.Reaches roots h → ∃ c t, catalog.find? h = some c ∧
            library.findByHandler? h = some t ∧ catalog.Realizes c t := by
  have hkeyed : catalog.Keyed := HandlerCatalog.keyed_empty.registerAll hcatalog
  refine ⟨exists_load_iff hkeyed, fun library hload ↦ ?_⟩
  obtain ⟨s, hs, rfl⟩ := exists_finished hkeyed hload
  refine ⟨fun h ↦ hs.mem_handlers_iff, fun h hreach ↦ ?_⟩
  obtain ⟨t, ht⟩ := hs.resolved_iff.mpr hreach
  obtain ⟨c, -, hc, -, hrealizes⟩ := hs.exists_realizes ht
  exact ⟨c, t, hc, hs.findByHandler?_iff.mpr ht, hrealizes⟩

/-- Shelves with a cover and books, where a book leads back to its shelf. Another handler type that
has no identifier is not asked for. -/
def shelvesOfBooks : List HandlerClass :=
  [.ofKind "Shelves" .indirectContainer
      { id := " shelf "
        attachments := [⟨"cover", "cover", "Covers", some " http://example.org/cover "⟩]
        memberHandler := some "Books"
        membershipPredicate := some "http://example.org/holds"
        insertedContentRelation := some "http://example.org/shows" },
    .ofKind "Books" .resource { id := "book", attachments := [⟨"home", "home", "Shelves", none⟩] },
    .ofKind "Covers" .resource { id := "cover" },
    .ofKind "Spare" .resource { id := " " }]

theorem shelves_lead_to_covers :
    ∃ catalog library, HandlerCatalog.empty.registerAll shelvesOfBooks = .ok catalog ∧
      load catalog ["Shelves"] = .ok library ∧ catalog.Loadable ["Shelves"] ∧
      catalog.Reaches ["Shelves"] "Covers" ∧ ¬catalog.Reaches ["Shelves"] "Spare" := by
  obtain ⟨catalog, library, hcatalog, hload, hhandlers⟩ : ∃ catalog library,
      HandlerCatalog.empty.registerAll shelvesOfBooks = .ok catalog ∧
        load catalog ["Shelves"] = .ok library ∧
        library.handlers = ["Books", "Covers", "Shelves"] := ⟨_, _, rfl, rfl, rfl⟩
  obtain ⟨hiff, hclosure⟩ := load_computes_closure hcatalog ["Shelves"]
  obtain ⟨hreach, -⟩ := hclosure library hload
  have hcovers : "Covers" ∈ library.handlers := by rw [hhandlers]; decide
  have hspare : "Spare" ∉ library.handlers := by rw [hhandlers]; decide
  exact ⟨catalog, library, hcatalog, hload, hiff.mp ⟨library, hload⟩, (hreach "Covers").mp hcovers,
    fun h ↦ hspare ((hreach "Spare").mpr h)⟩

end TemplateLibrary

end ResourceKernel
