/-!
# Finite maps in order of their keys

A table is a list of keys with values in which no key stands twice. A value for a key that is
present takes the place of the old value; a new key comes before the first greater key, so that
listing a table needs no sorting. Main statements: `find?` sees exactly the entries of a table,
and putting a value under a key changes what is found under this key only.
-/

namespace ResourceKernel

/-- Values under keys, each key once. -/
structure Table (κ ν : Type) where
  entries : List (κ × ν)
  nodup : (entries.map Prod.fst).Nodup
  deriving DecidableEq, Repr

namespace Table

variable {κ ν : Type}

def empty : Table κ ν := ⟨[], List.nodup_nil⟩

instance : EmptyCollection (Table κ ν) := ⟨empty⟩

instance : Inhabited (Table κ ν) := ⟨empty⟩

def size (t : Table κ ν) : Nat := t.entries.length

def isEmpty (t : Table κ ν) : Bool := t.entries.isEmpty

def keys (t : Table κ ν) : List κ := t.entries.map Prod.fst

def values (t : Table κ ν) : List ν := t.entries.map Prod.snd

theorem nodup_filter {es : List (κ × ν)} (p : κ × ν → Bool) (h : (es.map Prod.fst).Nodup) :
    ((es.filter p).map Prod.fst).Nodup :=
  h.sublist (List.filter_sublist.map Prod.fst)

def filter (p : κ → ν → Bool) (t : Table κ ν) : Table κ ν :=
  ⟨t.entries.filter fun e ↦ p e.1 e.2, nodup_filter _ t.nodup⟩

variable [DecidableEq κ]

def findIn (k : κ) : List (κ × ν) → Option ν
  | [] => none
  | (l, w) :: rest => if k = l then some w else findIn k rest

def find? (t : Table κ ν) (k : κ) : Option ν := findIn k t.entries

def contains (t : Table κ ν) (k : κ) : Bool := (t.find? k).isSome

def erase (t : Table κ ν) (k : κ) : Table κ ν := t.filter fun l _ ↦ l ≠ k

def replaceIn (k : κ) (v : ν) (es : List (κ × ν)) : List (κ × ν) :=
  es.map fun e ↦ if e.1 = k then (k, v) else e

theorem map_fst_replaceIn (k : κ) (v : ν) (es : List (κ × ν)) :
    (replaceIn k v es).map Prod.fst = es.map Prod.fst := by
  simp only [replaceIn, List.map_map]
  refine List.map_congr_left fun e _ ↦ ?_
  by_cases h : e.1 = k <;> simp [h]

theorem findIn_eq_none {k : κ} {es : List (κ × ν)} (h : findIn k es = none) :
    k ∉ es.map Prod.fst := by
  induction es with
  | nil => simp
  | cons e es ih =>
      by_cases hk : k = e.1
      · simp [findIn, hk] at h
      · simp only [findIn, if_neg hk] at h
        simpa [hk] using ih h

variable [Ord κ]

/-- Puts an entry before the first greater key. -/
def placeIn (k : κ) (v : ν) : List (κ × ν) → List (κ × ν)
  | [] => [(k, v)]
  | e :: rest => if compare k e.1 = .lt then (k, v) :: e :: rest else e :: placeIn k v rest

omit [DecidableEq κ] in
theorem mem_placeIn {k : κ} {v : ν} {es : List (κ × ν)} {e : κ × ν} :
    e ∈ placeIn k v es ↔ e = (k, v) ∨ e ∈ es := by
  induction es with
  | nil => simp [placeIn]
  | cons d es ih =>
      by_cases h : compare k d.1 = .lt
      · simp [placeIn, h]
      · simp only [placeIn, if_neg h, List.mem_cons, ih]
        exact or_left_comm

omit [DecidableEq κ] in
theorem length_placeIn (k : κ) (v : ν) (es : List (κ × ν)) :
    (placeIn k v es).length = es.length + 1 := by
  induction es with
  | nil => rfl
  | cons e es ih =>
      by_cases h : compare k e.1 = .lt
      · simp [placeIn, h]
      · simp [placeIn, h, ih]

omit [DecidableEq κ] in
theorem nodup_placeIn {k : κ} (v : ν) {es : List (κ × ν)} (hk : k ∉ es.map Prod.fst)
    (h : (es.map Prod.fst).Nodup) : ((placeIn k v es).map Prod.fst).Nodup := by
  induction es with
  | nil => simp [placeIn]
  | cons e es ih =>
      by_cases hc : compare k e.1 = .lt
      · simp only [placeIn, if_pos hc, List.map_cons, List.nodup_cons]
        exact ⟨hk, List.nodup_cons.mp h⟩
      · simp only [List.map_cons, List.mem_cons, not_or] at hk
        obtain ⟨he, hes⟩ := List.nodup_cons.mp h
        simp only [placeIn, if_neg hc, List.map_cons, List.nodup_cons]
        refine ⟨fun hmem ↦ ?_, ih hk.2 hes⟩
        obtain ⟨d, hd, hde⟩ := List.mem_map.mp hmem
        rcases mem_placeIn.mp hd with rfl | hd
        · exact hk.1 hde
        · exact he (List.mem_map.mpr ⟨d, hd, hde⟩)

/-- Puts a value under a key, in place of the one that is there. -/
def insert (t : Table κ ν) (k : κ) (v : ν) : Table κ ν :=
  match h : t.find? k with
  | some _ => ⟨replaceIn k v t.entries, map_fst_replaceIn k v t.entries ▸ t.nodup⟩
  | none => ⟨placeIn k v t.entries, nodup_placeIn v (findIn_eq_none h) t.nodup⟩

/-- The table of a list of entries, where later entries replace earlier ones. -/
def ofList (entries : List (κ × ν)) : Table κ ν :=
  entries.foldl (fun t e ↦ t.insert e.1 e.2) ∅

/-! ## Laws -/

omit [DecidableEq κ] [Ord κ] in
@[ext] theorem ext {s t : Table κ ν} (h : s.entries = t.entries) : s = t := by
  obtain ⟨es, _⟩ := s
  obtain ⟨fs, _⟩ := t
  congr

omit [Ord κ] in
@[simp] theorem find?_empty (k : κ) : (∅ : Table κ ν).find? k = none := rfl

omit [Ord κ] in
theorem findIn_eq_some_iff {k : κ} {v : ν} {es : List (κ × ν)} (h : (es.map Prod.fst).Nodup) :
    findIn k es = some v ↔ (k, v) ∈ es := by
  induction es with
  | nil => simp [findIn]
  | cons e es ih =>
      obtain ⟨l, w⟩ := e
      obtain ⟨he, hes⟩ := List.nodup_cons.mp h
      by_cases hk : k = l
      · subst hk
        have hne : (k, v) ∉ es := fun hm ↦ he (List.mem_map.mpr ⟨_, hm, rfl⟩)
        simp [findIn, hne, eq_comm]
      · simp [findIn, hk, ih hes]

omit [Ord κ] in
/-- What is found under a key is what stands beside it. -/
theorem find?_eq_some_iff {t : Table κ ν} {k : κ} {v : ν} :
    t.find? k = some v ↔ (k, v) ∈ t.entries :=
  findIn_eq_some_iff t.nodup

omit [Ord κ] in
theorem find?_eq_none_iff {t : Table κ ν} {k : κ} : t.find? k = none ↔ k ∉ t.keys := by
  refine ⟨findIn_eq_none, fun h ↦ ?_⟩
  cases hv : t.find? k with
  | none => rfl
  | some v => exact (h (List.mem_map.mpr ⟨_, find?_eq_some_iff.mp hv, rfl⟩)).elim

omit [Ord κ] in
theorem contains_of_find?_eq_some {t : Table κ ν} {k : κ} {v : ν} (h : t.find? k = some v) :
    t.contains k = true := by
  rw [contains, h]
  rfl

omit [Ord κ] in
theorem not_contains_of_find?_eq_none {t : Table κ ν} {k : κ} (h : t.find? k = none) :
    ¬t.contains k = true := by
  rw [contains, h]
  nofun

omit [Ord κ] in
theorem find?_filter_eq_some_iff {t : Table κ ν} {p : κ → ν → Bool} {k : κ} {v : ν} :
    (t.filter p).find? k = some v ↔ t.find? k = some v ∧ p k v = true := by
  simp [find?_eq_some_iff, filter]

omit [Ord κ] in
@[simp] theorem find?_erase_self (t : Table κ ν) (k : κ) : (t.erase k).find? k = none := by
  refine Option.eq_none_iff_forall_ne_some.mpr fun v h ↦ ?_
  simpa using (find?_filter_eq_some_iff.mp h).2

omit [Ord κ] in
theorem find?_erase_ne (t : Table κ ν) {k l : κ} (h : l ≠ k) :
    (t.erase k).find? l = t.find? l := by
  refine Option.ext fun v ↦ ?_
  simp [erase, find?_filter_eq_some_iff, h]

omit [Ord κ] in
theorem erase_eq_self {t : Table κ ν} {k : κ} (h : t.find? k = none) : t.erase k = t := by
  refine Table.ext (List.filter_eq_self.mpr fun e he ↦ ?_)
  have hk := find?_eq_none_iff.mp h
  simpa using fun hek : e.1 = k ↦ hk (List.mem_map.mpr ⟨e, he, hek⟩)

theorem mem_entries_insert {t : Table κ ν} {k : κ} {v : ν} {e : κ × ν} :
    e ∈ (t.insert k v).entries ↔ e = (k, v) ∨ (e.1 ≠ k ∧ e ∈ t.entries) := by
  obtain ⟨l, w⟩ := e
  unfold insert
  split
  · next u h =>
    have hu := find?_eq_some_iff.mp h
    simp only [replaceIn, List.mem_map]
    constructor
    · rintro ⟨d, hd, hde⟩
      by_cases hk : d.1 = k
      · exact Or.inl (by simpa [hk] using hde.symm)
      · simp only [if_neg hk] at hde
        subst hde
        exact Or.inr ⟨hk, hd⟩
    · rintro (heq | ⟨hne, hmem⟩)
      · exact ⟨(k, u), hu, by simp [heq]⟩
      · exact ⟨(l, w), hmem, if_neg hne⟩
  · next h =>
    have hk := findIn_eq_none h
    simp only [mem_placeIn]
    refine or_congr_right ⟨fun hm ↦ ⟨fun hlk ↦ hk ?_, hm⟩, And.right⟩
    exact List.mem_map.mpr ⟨_, hm, hlk⟩

@[simp] theorem find?_insert_self (t : Table κ ν) (k : κ) (v : ν) :
    (t.insert k v).find? k = some v :=
  find?_eq_some_iff.mpr (mem_entries_insert.mpr (Or.inl rfl))

theorem find?_insert_ne (t : Table κ ν) {k l : κ} (v : ν) (h : l ≠ k) :
    (t.insert k v).find? l = t.find? l := by
  refine Option.ext fun w ↦ ?_
  simp [find?_eq_some_iff, mem_entries_insert, h]

theorem find?_insert (t : Table κ ν) (k l : κ) (v : ν) :
    (t.insert k v).find? l = if l = k then some v else t.find? l := by
  by_cases h : l = k
  · rw [if_pos h, h, find?_insert_self]
  · rw [if_neg h, find?_insert_ne t v h]

omit [Ord κ] in
theorem find?_erase (t : Table κ ν) (k l : κ) :
    (t.erase k).find? l = if l = k then none else t.find? l := by
  by_cases h : l = k
  · rw [if_pos h, h, find?_erase_self]
  · rw [if_neg h, find?_erase_ne t h]

theorem insert_eq_self {t : Table κ ν} {k : κ} {v : ν} (h : t.find? k = some v) :
    t.insert k v = t := by
  refine Table.ext ?_
  unfold insert
  split
  · refine (List.map_congr_left fun e he ↦ ?_).trans (List.map_id _)
    by_cases hk : e.1 = k
    · have hv : t.find? k = some e.2 := find?_eq_some_iff.mpr (hk ▸ he)
      rw [if_pos hk, id, ← hk, ← Option.some.inj (hv.symm.trans h)]
    · rw [if_neg hk, id]
  · next hn => exact (Option.some_ne_none v (h.symm.trans hn)).elim

theorem size_insert_of_none {t : Table κ ν} {k : κ} (h : t.find? k = none) (v : ν) :
    (t.insert k v).size = t.size + 1 := by
  unfold insert
  split
  · next u hu => exact (Option.some_ne_none u (hu.symm.trans h)).elim
  · exact length_placeIn k v t.entries

omit [Ord κ] in
theorem mem_keys_iff {t : Table κ ν} {k : κ} : k ∈ t.keys ↔ ∃ v, t.find? k = some v := by
  cases h : t.find? k with
  | none => simp [find?_eq_none_iff.mp h]
  | some v =>
      have hmem : k ∈ t.keys := List.mem_map.mpr ⟨(k, v), find?_eq_some_iff.mp h, rfl⟩
      simp [hmem]

theorem find?_foldl_insert (es : List (κ × ν)) (t : Table κ ν) (k : κ) :
    (es.foldl (fun t e ↦ t.insert e.1 e.2) t).find? k =
      ((es.reverse.find? fun e ↦ e.1 = k).map Prod.snd).or (t.find? k) := by
  induction es generalizing t with
  | nil => simp
  | cons e es ih =>
      rw [List.foldl_cons, ih, find?_insert, List.reverse_cons, List.find?_append, Option.map_or,
        Option.or_assoc]
      congr 1
      by_cases h : k = e.1
      · simp [h]
      · simp [h, Ne.symm h]

/-- The last entry of the list with the key is what stands in its table. -/
theorem find?_ofList (es : List (κ × ν)) (k : κ) :
    (ofList es).find? k = (es.reverse.find? fun e ↦ e.1 = k).map Prod.snd := by
  rw [ofList, find?_foldl_insert, find?_empty, Option.or_none]

omit [Ord κ] in
theorem findIn_eq_lookup (k : κ) (es : List (κ × ν)) : findIn k es = es.lookup k := by
  induction es with
  | nil => rfl
  | cons e es ih =>
      obtain ⟨l, w⟩ := e
      by_cases h : k = l
      · simp [findIn, h]
      · have hbeq : (k == l) = false := beq_eq_false_iff_ne.mpr h
        simp [findIn, List.lookup_cons, h, hbeq, ih]

omit [Ord κ] in
theorem map_snd_find? (es : List (κ × ν)) (k : κ) :
    (es.find? fun e ↦ e.1 = k).map Prod.snd = findIn k es := by
  induction es with
  | nil => rfl
  | cons e es ih =>
      by_cases h : e.1 = k
      · simp [findIn, h]
      · simp [findIn, h, Ne.symm h, ih]

/-- A list in which no key stands twice is found as it is. -/
theorem find?_ofList_eq_some_iff {es : List (κ × ν)} (h : (es.map Prod.fst).Nodup) {k : κ} {v : ν} :
    (ofList es).find? k = some v ↔ (k, v) ∈ es := by
  have hreverse : (es.reverse.map Prod.fst).Nodup := by
    rw [List.map_reverse]
    exact (List.reverse_perm _).nodup_iff.mpr h
  rw [find?_ofList, map_snd_find?, findIn_eq_some_iff hreverse, List.mem_reverse]

theorem find?_ofList_of_nodup {es : List (κ × ν)} (h : (es.map Prod.fst).Nodup) (k : κ) :
    (ofList es).find? k = findIn k es := by
  apply Option.ext
  intro v
  rw [find?_ofList_eq_some_iff h, findIn_eq_some_iff h]

theorem size_foldl_insert {es : List (κ × ν)} (h : (es.map Prod.fst).Nodup) {t : Table κ ν}
    (hnew : ∀ e ∈ es, t.find? e.1 = none) :
    (es.foldl (fun t e ↦ t.insert e.1 e.2) t).size = t.size + es.length := by
  induction es generalizing t with
  | nil => rfl
  | cons e es ih =>
      obtain ⟨he, hes⟩ := List.nodup_cons.mp h
      obtain ⟨hfirst, hrest⟩ := List.forall_mem_cons.mp hnew
      have hlater : ∀ d ∈ es, (t.insert e.1 e.2).find? d.1 = none := by
        intro d hd
        have hne : d.1 ≠ e.1 := fun hde ↦ he (List.mem_map.mpr ⟨d, hd, hde⟩)
        rw [find?_insert_ne t e.2 hne, hrest d hd]
      rw [List.foldl_cons, ih hes hlater, size_insert_of_none hfirst, List.length_cons]
      omega

theorem size_ofList {es : List (κ × ν)} (h : (es.map Prod.fst).Nodup) :
    (ofList es).size = es.length := by
  have hnew : ∀ e ∈ es, (∅ : Table κ ν).find? e.1 = none := fun e _ ↦ find?_empty e.1
  rw [ofList, size_foldl_insert h hnew]
  exact Nat.zero_add es.length

end Table

end ResourceKernel
