import Mathlib.Data.List.Nodup
import ResourceKernel.Handler.Options

/-!
# Fields that are present

A record is written as a list of slots, and only those that hold something become fields. If the
slots have different names, a reader finds under each name what its slot holds, and what is left out
is read as absent.
-/

namespace ResourceKernel

variable {δ α : Type}

/-! ## Slots -/

/-- The fields that are written for slots. -/
def present (slots : List (String × Option δ)) : List (String × δ) :=
  slots.filterMap fun slot ↦ slot.2.map (slot.1, ·)

variable {slots rest : List (String × Option δ)} {name : String} {held : Option δ} {d : δ}

theorem present_append : present (slots ++ rest) = present slots ++ present rest :=
  List.filterMap_append

theorem present_cons (name : String) (held : Option δ) (slots : List (String × Option δ)) :
    present ((name, held) :: slots) = (held.map (name, ·)).toList ++ present slots := by
  cases held <;> rfl

theorem mem_present {field : String × δ} :
    field ∈ present slots ↔ (field.1, some field.2) ∈ slots := by
  unfold present
  rw [List.mem_filterMap]
  constructor
  · rintro ⟨⟨name, held⟩, hslot, hfield⟩
    obtain ⟨d, rfl, rfl⟩ := Option.map_eq_some_iff.mp hfield
    exact hslot
  · intro hslot
    exact ⟨_, hslot, rfl⟩

theorem filter_present (p : String → Bool) :
    (present slots).filter (fun field ↦ p field.1) = present (slots.filter fun slot ↦ p slot.1) := by
  unfold present
  rw [List.filter_filterMap, List.filterMap_filter]
  refine List.filterMap_congr fun slot _ ↦ ?_
  cases slot.2 <;> cases hp : p slot.1 <;> simp [hp]

theorem map_fst_present : ((present slots).map Prod.fst).Sublist (slots.map Prod.fst) := by
  induction slots with
  | nil => exact .slnil
  | cons slot slots ih =>
      obtain ⟨name, held⟩ := slot
      rw [present_cons]
      cases held with
      | none => exact ih.cons name
      | some d => exact ih.cons_cons name

theorem lookup_present (hnames : (slots.map Prod.fst).Nodup) (hslot : (name, held) ∈ slots) :
    (present slots).lookup name = held := by
  induction slots with
  | nil => cases hslot
  | cons slot slots ih =>
      obtain ⟨first, content⟩ := slot
      rw [List.map_cons, List.nodup_cons] at hnames
      obtain ⟨hfirst, hnames⟩ := hnames
      rw [present_cons, List.lookup_append]
      obtain heq | hlater := List.mem_cons.mp hslot
      · obtain ⟨rfl, rfl⟩ := Prod.mk.inj heq
        have hrest : (present slots).lookup name = none := by
          rw [List.lookup_eq_none_iff]
          intro field hfield
          have hmem : field.1 ∈ slots.map Prod.fst :=
            map_fst_present.subset (List.mem_map_of_mem hfield)
          simp only [bne_iff_ne, ne_eq]
          rintro rfl
          exact hfirst hmem
        cases held <;> simp [hrest]
      · have hne : name ≠ first := by
          rintro rfl
          exact hfirst (List.mem_map.mpr ⟨_, hlater, rfl⟩)
        have hskip : (content.map (first, ·)).toList.lookup name = none := by
          cases content <;> simp [hne]
        rw [hskip, ih hnames hlater]
        rfl

/-- The items of a list that is left out where it is empty. -/
def filled : List α → Option (List α)
  | [] => none
  | items => some items

namespace Json

theorem optionalField_eq (name : String) (form : α → Value) (held : Option α) :
    optionalField name form held = present [(name, held.map form)] := by
  cases held <;> rfl

theorem listField_eq (name : String) (form : α → Value) (items : List α) :
    listField name form items =
      present [(name, (filled items).map fun items ↦ .list (items.map form))] := by
  cases items <;> rfl

end Json

/-! ## Lists -/

namespace Document

variable {form : α → δ} {read : δ → Option α}

theorem readAll?_map (h : ∀ a, read (form a) = some a) (items : List α) :
    readAll? read (items.map form) = some items := by
  induction items with
  | nil => rfl
  | cons a items ih => rw [List.map_cons, readAll?, h, ih]

theorem listOf?_eq [Document δ] {d : δ} {items : List α} (hitems : items? d = some (items.map form))
    (h : ∀ a, read (form a) = some a) : listOf? read d = some items := by
  rw [listOf?, hitems, Option.bind_some, readAll?_map h]

end Document

/-! ## Records -/

namespace Record

variable {known : List String} {members : List (String × δ)} {r : Record δ}

theorem occurrences_eq (name : String) (members : List (String × δ)) :
    occurrences name members = (members.map Prod.fst).count name := by
  unfold occurrences
  rw [List.count, List.countP_map, List.countP_eq_length_filter]
  rfl

/-- Members with different names make a record. -/
theorem ofMembers?_of_nodup (known : List String) (h : (members.map Prod.fst).Nodup) :
    ofMembers? known members = some ⟨members.filter fun kv ↦ known.contains kv.1⟩ := by
  have honce : (known.all fun name ↦ occurrences name members ≤ 1) = true := by
    rw [List.all_eq_true]
    intro name _
    rw [occurrences_eq]
    exact decide_eq_true (List.nodup_iff_count_le_one.mp h name)
  exact if_pos honce

theorem lookup_filter_of_mem (h : name ∈ known) :
    (members.filter fun kv ↦ known.contains kv.1).lookup name = members.lookup name := by
  induction members with
  | nil => rfl
  | cons kv members ih =>
      obtain ⟨key, d⟩ := kv
      by_cases hkey : name = key
      · subst hkey
        rw [List.filter_cons_of_pos (by simpa using h)]
        simp
      · rw [List.filter_cons]
        split
        · simp only [List.lookup_cons, ih]
        · simp only [List.lookup_cons, ih, beq_false_of_ne hkey]

variable {form : α → δ} {read : δ → Option α}

theorem required?_eq {a : α} (hfield : r.fields.lookup name = some d)
    (hread : read d = some a) : r.required? name read = some a := by
  rw [required?, hfield, Option.bind_some, hread]

theorem optional?_eq [Document δ] {held : Option α} (hfield : r.fields.lookup name = held.map form)
    (hread : ∀ a, read (form a) = some a) (hnull : ∀ a, Document.null? (form a) = some false) :
    r.optional? name read = some held := by
  cases held with
  | none => rw [optional?, default?, hfield, Option.map_none]
  | some a =>
      rw [optional?, default?, hfield, Option.map_some]
      simp only [Document.optional?, hnull, hread, Option.map_some]

theorem default?_eq {items : List α} {form : List α → δ} {read : δ → Option (List α)}
    (hfield : r.fields.lookup name = (filled items).map form)
    (hread : read (form items) = some items) : r.default? name [] read = some items := by
  cases items with
  | nil =>
      have habsent : r.fields.lookup name = none := hfield
      rw [default?, habsent]
  | cons a items =>
      have hpresent : r.fields.lookup name = some (form (a :: items)) := hfield
      rw [default?, hpresent]
      exact hread

end Record

end ResourceKernel
