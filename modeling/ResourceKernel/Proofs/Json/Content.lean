import ResourceKernel.Proofs.Document.Present
import ResourceKernel.Proofs.Json.RoundTrip

/-!
# Values taken up as content

All that can be written can be taken up before it is known what it is read as, and the members of an
object are found in its content under the same names.
-/

namespace ResourceKernel.Json.Value

variable {v : Value} {c : Content} {depth : Nat} {kvs : List (String × Value)}
  {taken : List (String × Content)} {slots : List (String × Option Value)}

/-- The members, with their values taken up. -/
def takenUp? (kvs : List (String × Value)) : Option (List (String × Content)) :=
  kvs.mapM fun kv ↦ (Deferrable.content? kv.2).map fun c ↦ (kv.1, c)

theorem takenUp?_cons_eq_some_iff {kv : String × Value} :
    takenUp? (kv :: kvs) = some taken ↔ ∃ c rest, kv.2.content? = some c ∧
      takenUp? kvs = some rest ∧ taken = (kv.1, c) :: rest := by
  have hcontent : Deferrable.content? kv.2 = kv.2.content? := rfl
  unfold takenUp?
  simp only [List.mapM_cons, Option.bind_eq_bind, Option.bind_eq_some_iff, Option.map_eq_some_iff,
    hcontent]
  constructor
  · rintro ⟨-, ⟨c, hc, rfl⟩, rest, hrest, htaken⟩
    exact ⟨c, rest, hc, hrest, (Option.some.inj htaken).symm⟩
  · rintro ⟨c, rest, hc, hrest, rfl⟩
    exact ⟨_, ⟨c, hc, rfl⟩, rest, hrest, rfl⟩

theorem exists_takenUp (h : ∀ kv ∈ kvs, ∃ c, kv.2.content? = some c) :
    ∃ taken, takenUp? kvs = some taken := by
  induction kvs with
  | nil => exact ⟨[], rfl⟩
  | cons kv kvs ih =>
      obtain ⟨⟨c, hc⟩, hrest⟩ := List.forall_mem_cons.mp h
      obtain ⟨taken, htaken⟩ := ih hrest
      exact ⟨_, takenUp?_cons_eq_some_iff.mpr ⟨c, taken, hc, htaken, rfl⟩⟩

theorem contents?_eq_some {α : Type} {form : α → Value} {content : α → Content} {items : List α}
    (h : ∀ a ∈ items, (form a).content? = some (content a)) :
    contents? (items.map form) = some (items.map content) := by
  induction items with
  | nil => rw [List.map_nil, contents?, List.map_nil]
  | cons a items ih =>
      obtain ⟨ha, hrest⟩ := List.forall_mem_cons.mp h
      rw [List.map_cons, contents?, ha, ih hrest, List.map_cons]

theorem memberContents?_of_takenUp (h : takenUp? kvs = some taken) :
    memberContents? kvs = some (taken.map fun kv ↦ (.text kv.1, kv.2)) := by
  induction kvs generalizing taken with
  | nil =>
      obtain rfl := Option.some.inj h
      rw [memberContents?]
      rfl
  | cons kv kvs ih =>
      obtain ⟨c, rest, hc, hrest, rfl⟩ := takenUp?_cons_eq_some_iff.mp h
      rw [memberContents?, hc, ih hrest, List.map_cons]

/-- All that can be written can be taken up. -/
theorem Writable.exists_content (h : v.Writable depth) : ∃ c, v.content? = some c := by
  induction depth generalizing v with
  | zero => cases v <;> first | exact ⟨_, by rw [content?]⟩ | exact absurd h (by simp [Writable])
  | succ depth ih =>
      cases v with
      | list xs =>
          have hitems : ∀ x ∈ xs, x.Writable depth := by simpa only [Writable] using h
          have hcontents : ∀ x ∈ xs, (id x).content? = some (x.content?.getD .null) := by
            intro x hx
            obtain ⟨c, hc⟩ := ih (hitems x hx)
            rw [id, hc, Option.getD_some]
          have hall := contents?_eq_some hcontents
          rw [List.map_id] at hall
          exact ⟨_, by rw [content?, hall]; rfl⟩
      | fields kvs =>
          have hitems : ∀ kv ∈ kvs, kv.2.Writable depth := by simpa only [Writable] using h
          obtain ⟨taken, htaken⟩ := exists_takenUp fun kv hkv ↦ ih (hitems kv hkv)
          exact ⟨_, by rw [content?, memberContents?_of_takenUp htaken]; rfl⟩
      | real | unreadable => exact absurd h (by simp [Writable])
      | _ => exact ⟨_, by rw [content?]⟩

theorem map_fst_takenUp (h : takenUp? kvs = some taken) :
    taken.map Prod.fst = kvs.map Prod.fst := by
  induction kvs generalizing taken with
  | nil =>
      obtain rfl := Option.some.inj h
      rfl
  | cons kv kvs ih =>
      obtain ⟨c, rest, -, hrest, rfl⟩ := takenUp?_cons_eq_some_iff.mp h
      rw [List.map_cons, List.map_cons, ih hrest]

theorem lookup_takenUp (h : takenUp? kvs = some taken) (name : String) :
    taken.lookup name = (kvs.lookup name).bind content? := by
  induction kvs generalizing taken with
  | nil =>
      obtain rfl := Option.some.inj h
      rfl
  | cons kv kvs ih =>
      obtain ⟨c, rest, hc, hrest, rfl⟩ := takenUp?_cons_eq_some_iff.mp h
      rw [List.lookup_cons, List.lookup_cons]
      split
      · rw [Option.bind_some, hc]
      · exact ih hrest

theorem named?_map_text (names : List String) (taken : List (String × Content)) :
    Content.named? names (taken.map fun kv ↦ (.text kv.1, kv.2)) = some taken := by
  induction taken with
  | nil => rfl
  | cons kv taken ih =>
      rw [List.map_cons, Content.named?, ih]
      rfl

/-- The members of an object are those of its content. -/
theorem members?_content (htaken : takenUp? kvs = some taken) :
    ∃ c, (fields kvs).content? = some c ∧ ∀ known, Document.members? known c = some taken :=
  ⟨_, by rw [content?, memberContents?_of_takenUp htaken]; rfl, fun known ↦ named?_map_text known taken⟩

/-- A record of slots whose values have been taken up has their contents. -/
theorem ofMembers?_takenUp (hnames : (slots.map Prod.fst).Nodup)
    (htaken : takenUp? (present slots) = some taken) (known : List String) :
    ∃ r, Record.ofMembers? known taken = some r ∧ ∀ name held, name ∈ known →
      (name, held) ∈ slots → r.fields.lookup name = held.bind content? := by
  have hnodup : (taken.map Prod.fst).Nodup := by
    rw [map_fst_takenUp htaken]
    exact hnames.sublist map_fst_present
  refine ⟨_, Record.ofMembers?_of_nodup known hnodup, fun name held hknown hslot ↦ ?_⟩
  rw [Record.lookup_filter_of_mem hknown, lookup_takenUp htaken, lookup_present hnames hslot]

/-- Slots with values that can be written can be taken up. -/
theorem exists_takenUp_present (h : ∀ slot ∈ slots, ∀ v ∈ slot.2, v.Writable depth) :
    ∃ taken, takenUp? (present slots) = some taken :=
  exists_takenUp fun kv hkv ↦ (h _ (mem_present.mp hkv) kv.2 rfl).exists_content

/-- A record of slots has their values. -/
theorem ofMembers?_present (hnames : (slots.map Prod.fst).Nodup) (known : List String) :
    ∃ r, Record.ofMembers? known (present slots) = some r ∧ ∀ name held, name ∈ known →
      (name, held) ∈ slots → r.fields.lookup name = held := by
  have hnodup : ((present slots).map Prod.fst).Nodup := hnames.sublist map_fst_present
  refine ⟨_, Record.ofMembers?_of_nodup known hnodup, fun name held hknown hslot ↦ ?_⟩
  rw [Record.lookup_filter_of_mem hknown, lookup_present hnames hslot]

theorem bind_content?_map {α : Type} {form : α → Value} {content : α → Content}
    (h : ∀ a, (form a).content? = some (content a)) (held : Option α) :
    (held.map form).bind content? = held.map content := by
  cases held with
  | none => rfl
  | some a => rw [Option.map_some, Option.bind_some, h, Option.map_some]

theorem content?_text (s : String) : (text s).content? = some (.text s) := by rw [content?]

theorem writable_present (h : ∀ slot ∈ slots, ∀ v ∈ slot.2, v.Writable depth) :
    (fields (present slots)).Writable (depth + 1) :=
  fun kv hkv ↦ h _ (mem_present.mp hkv) kv.2 rfl

end ResourceKernel.Json.Value
