import ResourceKernel.Proofs.Handler.Catalog
import ResourceKernel.Proofs.Library.Closed
import ResourceKernel.Proofs.Service.Once

/-!
# The handlers of a configuration

Handlers are kept in two steps: those that are supplied, and after the library has been loaded those
that it still lacks, each made by its type. Neither step puts a handler in the place of another, and
the supplied ones are of the types that the library starts from. So there is one handler for every
handler type of the library.
-/

namespace ResourceKernel

theorem HandlerClass.instantiate_eq_ok_iff {c : HandlerClass} {x : Handler} :
    c.instantiate = .ok x ↔ c.constructor? = some (.ok x) ∧ x.id = c.id := by
  unfold instantiate
  split
  · next hnone => simp [hnone]
  · next text hfails => simp [hfails]
  · next made hmade =>
    rw [hmade, Option.some.injEq, Except.ok.injEq]
    split
    · next hid =>
      rw [Except.ok.injEq]
      exact ⟨fun h ↦ ⟨h, h ▸ hid⟩, And.left⟩
    · next hid => simpa using fun h ↦ h ▸ hid

namespace TemplateService

variable {catalog : HandlerCatalog} {before after : Table HandlerId Handler} {x : Handler}
  {h : HandlerId}

/-- The handler is of a type of the catalog and has all capabilities of it. -/
def Suits (catalog : HandlerCatalog) (x : Handler) : Prop :=
  ∃ c, catalog.find? x.id = some c ∧ ∀ k, c.capabilities.has k = true → x.capabilities.has k = true

/-- The handler has been made by the type with the name. -/
def Makes (catalog : HandlerCatalog) (h : HandlerId) (x : Handler) : Prop :=
  ∃ c, catalog.find? h = some c ∧ c.instantiate = .ok x

/-! ## Supplied handlers -/

theorem checkInstance_eq_ok_iff {u : Unit} :
    checkInstance catalog x = .ok u ↔ Suits catalog x := by
  unfold checkInstance Suits
  cases hc : catalog.find? x.id with
  | none => simp [throw, throwThe, MonadExceptOf.throw]
  | some c =>
      have hall : (∀ k, c.capabilities.has k = true → x.capabilities.has k = true) ↔
          c.capabilities.toList.find? (fun k ↦ !x.capabilities.has k) = none := by
        simp [List.find?_eq_none, Capabilities.mem_toList]
      simp only [Option.some.injEq, exists_eq_left', hall]
      cases c.capabilities.toList.find? fun k ↦ !x.capabilities.has k with
      | none => simp [pure, Except.pure]
      | some missing => simp [throw, throwThe, MonadExceptOf.throw]

theorem enters_supply (h : supply catalog before x = .ok after) :
    Table.Enters id Handler.id (Suits catalog) before x after := by
  obtain ⟨u, hsuits, h⟩ := bind_eq_ok_iff.mp h
  have hsuits : Suits catalog x := checkInstance_eq_ok_iff.mp hsuits
  cases hfound : before.find? x.id with
  | some y =>
      rw [if_pos (Table.contains_of_find?_eq_some hfound)] at h
      cases h
  | none =>
      rw [if_neg (Table.not_contains_of_find?_eq_none hfound)] at h
      exact ⟨hsuits, hfound, (Except.ok.inj h).symm⟩

theorem supplied {instances : List Handler}
    (hall : instances.foldlM (supply catalog) ∅ = .ok after) :
    (∀ x ∈ instances, Suits catalog x) ∧
      ∀ h x, after.find? h = some x ↔ x ∈ instances ∧ x.id = h := by
  obtain ⟨hgood, -, hfind⟩ := Table.entered enters_supply hall
  refine ⟨fun x hx ↦ (hgood x hx).1, fun h x ↦ (hfind h x).trans (or_iff_right ?_)⟩
  intro hnone
  cases hnone

/-! ## Handlers that are made -/

/-- A handler type that has no handler yet is given the one that it makes. -/
theorem complete_cases (hcomplete : complete catalog before h = .ok after) :
    (∃ x, before.find? h = some x ∧ after = before) ∨
      before.find? h = none ∧ ∃ x, Makes catalog h x ∧ after = before.insert h x := by
  unfold complete at hcomplete
  cases hfound : before.find? h with
  | some x =>
      rw [if_pos (Table.contains_of_find?_eq_some hfound)] at hcomplete
      exact Or.inl ⟨x, rfl, (Except.ok.inj hcomplete).symm⟩
  | none =>
      rw [if_neg (Table.not_contains_of_find?_eq_none hfound)] at hcomplete
      cases hc : catalog.find? h with
      | none =>
          rw [hc] at hcomplete
          cases hcomplete
      | some c =>
          rw [hc] at hcomplete
          obtain ⟨x, hmade, rfl⟩ := map_eq_ok_iff.mp hcomplete
          exact Or.inr ⟨rfl, x, ⟨c, hc, hmade⟩, rfl⟩

/-- Every handler type has a handler in the end: the one it had, or else the one it makes. -/
theorem completed {handlers : List HandlerId}
    (hall : handlers.foldlM (complete catalog) before = .ok after) :
    (∀ h ∈ handlers, ∃ x, after.find? h = some x) ∧
      ∀ h x, after.find? h = some x ↔
        before.find? h = some x ∨ before.find? h = none ∧ h ∈ handlers ∧ Makes catalog h x := by
  induction handlers generalizing before with
  | nil =>
      obtain rfl := Except.ok.inj hall
      simp
  | cons k rest ih =>
      rw [List.foldlM_cons, bind_eq_ok_iff] at hall
      obtain ⟨next, hfirst, hrest⟩ := hall
      obtain ⟨hothers, hfind⟩ := ih hrest
      obtain ⟨y, hy, rfl⟩ | ⟨hnew, y, hmakes, rfl⟩ := complete_cases hfirst
      · refine ⟨List.forall_mem_cons.mpr ⟨⟨y, (hfind k y).mpr (Or.inl hy)⟩, hothers⟩, fun h x ↦ ?_⟩
        have hmem (hnone : next.find? h = none) : h ∈ k :: rest ↔ h ∈ rest := by
          have hne : h ≠ k := by
            rintro rfl
            rw [hy] at hnone
            cases hnone
          simp [hne]
        rw [hfind]
        exact or_congr_right (and_congr_right fun hnone ↦ and_congr_left' (hmem hnone).symm)
      · have hk : (before.insert k y).find? k = some y := before.find?_insert_self k y
        refine ⟨List.forall_mem_cons.mpr ⟨⟨y, (hfind k y).mpr (Or.inl hk)⟩, hothers⟩, fun h x ↦ ?_⟩
        rw [hfind, Table.find?_insert]
        by_cases hh : h = k
        · subst hh
          have honly : Makes catalog h x ↔ y = x := by
            constructor
            · rintro ⟨c, hc, hx⟩
              obtain ⟨c', hc', hy⟩ := hmakes
              obtain rfl := Option.some.inj (hc.symm.trans hc')
              exact Except.ok.inj (hy.symm.trans hx)
            · rintro rfl
              exact hmakes
          simp [hnew, honly]
        · simp [hh]

/-! ## Configurations -/

variable {roots : List HandlerId} {instances : List Handler} {c : Configuration}

/-- The steps that lead to a configuration. -/
theorem exists_steps_of_configurationOf (hc : configurationOf catalog roots instances = .ok c) :
    ∃ supplied, instances.foldlM (supply catalog) ∅ = .ok supplied ∧
      TemplateLibrary.load catalog (roots ++ supplied.keys) = .ok c.library ∧
      c.library.handlers.foldlM (complete catalog) supplied = .ok c.handlers := by
  obtain ⟨supplied, hsupplied, hc⟩ := bind_eq_ok_iff.mp hc
  obtain ⟨library, hlibrary, hc⟩ := bind_eq_ok_iff.mp hc
  obtain ⟨handlers, hhandlers, hc⟩ := bind_eq_ok_iff.mp hc
  obtain rfl := Except.ok.inj hc
  exact ⟨supplied, hsupplied, mapError_eq_ok_iff.mp hlibrary, hhandlers⟩

/-- There is one handler for every handler type of the library: the one that has been supplied, or
else the one that the type makes. -/
structure Staffed (catalog : HandlerCatalog) (roots : List HandlerId) (instances : List Handler)
    (c : Configuration) : Prop where
  keys : c.handlers.keys.Perm c.library.handlers
  size : c.handlers.size = c.library.size
  id {h : HandlerId} {x : Handler} : c.handlers.find? h = some x → x.id = h
  roots {h : HandlerId} : h ∈ roots → h ∈ c.library.handlers
  supplied {x : Handler} : x ∈ instances →
    x.id ∈ c.library.handlers ∧ c.handlers.find? x.id = some x ∧ Suits catalog x
  made {h : HandlerId} : h ∈ c.library.handlers → (∀ x ∈ instances, x.id ≠ h) →
    ∃ cls x, catalog.find? h = some cls ∧ cls.constructor? = some (.ok x) ∧
      c.handlers.find? h = some x

theorem staffed_of_configurationOf (hkeyed : catalog.Keyed)
    (hc : configurationOf catalog roots instances = .ok c) :
    Staffed catalog roots instances c := by
  obtain ⟨start, hsupplied, hload, hcompleted⟩ := exists_steps_of_configurationOf hc
  obtain ⟨hsuits, hstart⟩ := supplied hsupplied
  obtain ⟨hevery, hfind⟩ := completed hcompleted
  obtain ⟨s, hs, hlibrary⟩ := TemplateLibrary.exists_finished hkeyed hload
  have hroot {h : HandlerId} (hmem : h ∈ roots ++ start.keys) : h ∈ c.library.handlers := by
    rw [hlibrary, hs.mem_handlers_iff]
    exact .root hmem
  have hkeys (h : HandlerId) : h ∈ c.handlers.keys ↔ h ∈ c.library.handlers := by
    rw [Table.mem_keys_iff]
    refine ⟨?_, hevery h⟩
    rintro ⟨x, hx⟩
    obtain hold | ⟨-, hmem, -⟩ := (hfind h x).mp hx
    · exact hroot (List.mem_append_right roots (Table.mem_keys_iff.mpr ⟨x, hold⟩))
    · exact hmem
  have hperm : c.handlers.keys.Perm c.library.handlers :=
    (List.perm_ext_iff_of_nodup c.handlers.nodup c.library.byHandler.nodup).mpr hkeys
  refine ⟨hperm, ?_, fun {h x} hx ↦ ?_, fun hmem ↦ hroot (List.mem_append_left start.keys hmem),
    fun {x} hx ↦ ?_, fun {h} hmem hnone ↦ ?_⟩
  · rw [hlibrary, hs.size_library, ← hlibrary, ← hperm.length_eq]
    exact (List.length_map _).symm
  · obtain hold | ⟨-, -, cls, hcls, hmade⟩ := (hfind h x).mp hx
    · exact ((hstart h x).mp hold).2
    · rw [(HandlerClass.instantiate_eq_ok_iff.mp hmade).2, hkeyed h cls hcls]
  · have hx' : start.find? x.id = some x := (hstart x.id x).mpr ⟨hx, rfl⟩
    refine ⟨hroot (List.mem_append_right roots (Table.mem_keys_iff.mpr ⟨x, hx'⟩)), ?_, hsuits x hx⟩
    exact (hfind x.id x).mpr (Or.inl hx')
  · obtain ⟨x, hx⟩ := hevery h hmem
    obtain hold | ⟨-, -, cls, hcls, hmade⟩ := (hfind h x).mp hx
    · obtain ⟨hgiven, hid⟩ := (hstart h x).mp hold
      exact absurd hid (hnone x hgiven)
    · exact ⟨cls, x, hcls, (HandlerClass.instantiate_eq_ok_iff.mp hmade).1, hx⟩

theorem exists_publishes_of_configureOnce {s : TemplateService}
    (h : (s.configureOnce roots instances).1 = .ok ()) :
    ∃ c, configurationOf s.catalog roots instances = .ok c ∧
      (s.configureOnce roots instances).2.Publishes c := by
  obtain ⟨catalog, configuration⟩ := s
  cases configuration with
  | none => exact publishes_of_succeeds (c := ⟨roots, instances⟩) h
  | some c => cases h

/-- A service that has been configured has one handler for every handler type of its library, among
which are all roots and the types of all that has been supplied. What has been supplied is kept, and
all other handlers have been made by their types. -/
theorem staffed_of_configureOnce {s : TemplateService} {classes : List HandlerClass}
    (hcatalog : HandlerCatalog.empty.registerAll classes = .ok s.catalog)
    (h : (s.configureOnce roots instances).1 = .ok ()) :
    ∃ c, (s.configureOnce roots instances).2.Publishes c ∧
      Staffed s.catalog roots instances c := by
  have hkeyed : s.catalog.Keyed := HandlerCatalog.keyed_empty.registerAll hcatalog
  obtain ⟨c, hc, hpublishes⟩ := exists_publishes_of_configureOnce h
  exact ⟨c, hpublishes, staffed_of_configurationOf hkeyed hc⟩

/-- A shelf is supplied and asks for books, which nobody supplies. It is kept, and not the shelf
that its type would have made, though these are told apart by their tags alone. -/
theorem shelf_supplied_books_made :
    let shelf (number : Nat) : Handler :=
      { id := "Shelves", capabilities := .forContainer, tag := ⟨number⟩ }
    let classes := [
      { HandlerClass.ofKind "Shelves" .container
          { id := "shelf", memberHandler := some "Books" } with
        constructor? := some (.ok (shelf 0)) },
      { HandlerClass.ofKind "Books" .resource { id := "book" } with
        constructor? := some (.ok ⟨"Books", .forResource⟩) }]
    ∃ catalog c, HandlerCatalog.empty.registerAll classes = .ok catalog ∧
      ((ofCatalog catalog).configureOnce [] [shelf 1]).1 = .ok () ∧
      ((ofCatalog catalog).configureOnce [] [shelf 1]).2.Publishes c ∧
      c.handlers.find? "Shelves" = some (shelf 1) ∧ shelf 1 ≠ shelf 0 ∧
      c.handlers.size = c.library.size ∧
      ∃ cls book, catalog.find? "Books" = some cls ∧ cls.constructor? = some (.ok book) ∧
        c.handlers.find? "Books" = some book := by
  intro shelf classes
  obtain ⟨catalog, hcatalog, hok, hlibrary⟩ : ∃ catalog,
      HandlerCatalog.empty.registerAll classes = .ok catalog ∧
        ((ofCatalog catalog).configureOnce [] [shelf 1]).1 = .ok () ∧
        ((ofCatalog catalog).configureOnce [] [shelf 1]).2.library.map TemplateLibrary.handlers =
          .ok ["Books", "Shelves"] := ⟨_, rfl, by decide +kernel, by decide +kernel⟩
  obtain ⟨c, hpublishes, hstaffed⟩ := staffed_of_configureOnce hcatalog hok
  rw [hpublishes.library] at hlibrary
  have hhandlers : c.library.handlers = ["Books", "Shelves"] := Except.ok.inj hlibrary
  have hbooks : "Books" ∈ c.library.handlers := by rw [hhandlers]; decide
  have hnone : ∀ x ∈ [shelf 1], x.id ≠ "Books" := by decide
  have hkept : c.handlers.find? "Shelves" = some (shelf 1) :=
    (hstaffed.supplied List.mem_cons_self).2.1
  exact ⟨catalog, c, hcatalog, hok, hpublishes, hkept, by decide, hstaffed.size,
    hstaffed.made hbooks hnone⟩

end TemplateService

end ResourceKernel
