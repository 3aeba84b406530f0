import ResourceKernel.Handler.Catalog

/-!
# What has been registered

Entries come into a table one after another, where a key that is there is refused. So no entry takes
the place of another: a table that all of them have come into holds each of them, and a catalog
holds each handler type that has been registered.
-/

namespace ResourceKernel

section Steps

variable {ε ε' α β : Type}

theorem bind_eq_ok_iff {x : Except ε α} {f : α → Except ε β} {b : β} :
    (x >>= f) = .ok b ↔ ∃ a, x = .ok a ∧ f a = .ok b := by
  cases x <;> simp [bind, Except.bind]

theorem map_eq_ok_iff {x : Except ε α} {f : α → β} {b : β} :
    x.map f = .ok b ↔ ∃ a, x = .ok a ∧ f a = b := by
  cases x <;> simp [Except.map]

theorem mapError_eq_ok_iff {x : Except ε α} {f : ε → ε'} {a : α} :
    x.mapError f = .ok a ↔ x = .ok a := by
  cases x with
  | ok b => constructor <;> intro h <;> exact congrArg _ (Except.ok.inj h)
  | error e => constructor <;> intro h <;> cases h

end Steps

namespace Table

variable {κ ν σ ε : Type} [DecidableEq κ] [Ord κ]

/-- The step puts a good value under its key, where nothing has been. -/
structure Enters (table : σ → Table κ ν) (key : ν → κ) (good : ν → Prop) (s : σ) (v : ν)
    (after : σ) : Prop where
  good : good v
  new : (table s).find? (key v) = none
  table : table after = (table s).insert (key v) v

variable {table : σ → Table κ ν} {key : ν → κ} {good : ν → Prop} {step : σ → ν → Except ε σ}
  {s after : σ} {values : List ν}

theorem Enters.find?_eq {v : ν} (h : Enters table key good s v after) (k : κ) :
    (table after).find? k = if k = key v then some v else (table s).find? k := by
  rw [h.table, find?_insert]

/-- What has been entered is there in the end, and nothing else besides what was there before. -/
theorem entered (hstep : ∀ {s v after}, step s v = .ok after → Enters table key good s v after)
    (hall : values.foldlM step s = .ok after) :
    (∀ v ∈ values, good v ∧ (table s).find? (key v) = none) ∧ (values.map key).Nodup ∧
      ∀ k v, (table after).find? k = some v ↔
        (table s).find? k = some v ∨ v ∈ values ∧ key v = k := by
  induction values generalizing s with
  | nil =>
      obtain rfl := Except.ok.inj hall
      simp
  | cons w rest ih =>
      rw [List.foldlM_cons, bind_eq_ok_iff] at hall
      obtain ⟨next, hfirst, hrest⟩ := hall
      have hw := hstep hfirst
      obtain ⟨hothers, hnodup, hfind⟩ := ih hrest
      have hfree : ∀ v ∈ rest, key v ≠ key w ∧ (table s).find? (key v) = none := by
        intro v hv
        have hnone := (hothers v hv).2
        rw [hw.find?_eq] at hnone
        split at hnone
        · cases hnone
        · next hne => exact ⟨hne, hnone⟩
      refine ⟨List.forall_mem_cons.mpr ⟨⟨hw.good, hw.new⟩, fun v hv ↦ ?_⟩, ?_, fun k v ↦ ?_⟩
      · exact ⟨(hothers v hv).1, (hfree v hv).2⟩
      · rw [List.map_cons, List.nodup_cons, List.mem_map]
        refine ⟨?_, hnodup⟩
        rintro ⟨v, hv, hkey⟩
        exact (hfree v hv).1 hkey
      · rw [hfind, hw.find?_eq, List.mem_cons]
        by_cases hk : k = key w
        · subst hk
          rw [if_pos rfl, hw.new]
          constructor
          · rintro (hsame | ⟨hv, hkey⟩)
            · obtain rfl := Option.some.inj hsame
              exact Or.inr ⟨Or.inl rfl, rfl⟩
            · exact Or.inr ⟨Or.inr hv, hkey⟩
          · rintro (hnone | ⟨rfl | hv, hkey⟩)
            · cases hnone
            · exact Or.inl rfl
            · exact Or.inr ⟨hv, hkey⟩
        · rw [if_neg hk]
          refine or_congr_right ⟨And.imp_left Or.inr, ?_⟩
          rintro ⟨rfl | hv, hkey⟩
          · exact absurd hkey.symm hk
          · exact ⟨hv, hkey⟩

end Table

namespace HandlerCatalog

variable {catalog after : HandlerCatalog} {classes : List HandlerClass}

theorem enters_register {c : HandlerClass} (h : catalog.register c = .ok after) :
    Table.Enters HandlerCatalog.classes HandlerClass.id (fun _ ↦ True) catalog c after := by
  unfold register at h
  cases hfound : catalog.classes.find? c.id with
  | some d =>
      rw [if_pos (Table.contains_of_find?_eq_some hfound)] at h
      cases h
  | none =>
      rw [if_neg (Table.not_contains_of_find?_eq_none hfound)] at h
      obtain rfl := Except.ok.inj h
      exact ⟨trivial, hfound, rfl⟩

/-- A catalog holds the handler types that have been registered, and they have different names. -/
theorem registered (h : empty.registerAll classes = .ok catalog) :
    (classes.map (·.id)).Nodup ∧ ∀ h c, catalog.find? h = some c ↔ c ∈ classes ∧ c.id = h := by
  obtain ⟨-, hnodup, hfind⟩ := Table.entered enters_register h
  refine ⟨hnodup, fun h c ↦ (hfind h c).trans (or_iff_right ?_)⟩
  intro hnone
  cases hnone

end HandlerCatalog

end ResourceKernel
