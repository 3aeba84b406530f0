import ResourceKernel.Proofs.Text.Decomposition

/-!
# Composing again

A text that has been composed is taken apart into what it was composed of. A character composes with
a base only past marks of lower classes, and the order of the marks brings it back behind them. So
composing a text again changes nothing. Characters before the first composite are neither taken
apart nor composed, wherever they are appended.
-/

namespace ResourceKernel.Text.Composition

/-! ## Marks in order -/

/-- Adds characters to a reversed list, each before the marks of higher class that end it. -/
def arrange (placed : List (Char × Nat)) (cs : List Char) : List (Char × Nat) :=
  cs.foldl (fun placed c ↦ placeMark c (classOf c) placed) placed

/-- The second entry may stand after the first. -/
def Follows (a b : Char × Nat) : Prop := b.2 = 0 ∨ a.2 ≤ b.2

/-- The entries have the classes of their characters, which are whole, and the marks are in order. -/
structure Ordered (entries : List (Char × Nat)) : Prop where
  labelled : ∀ e ∈ entries, e.2 = classOf e.1
  whole : ∀ e ∈ entries, Whole e.1
  chain : entries.IsChain Follows

variable {c m : Char} {k l : Nat} {placed entries rest : List (Char × Nat)} {cs ds : List Char}

theorem decompose_eq (cs : List Char) :
    decompose cs = (arrange [] (cs.flatMap (partsOf 4))).reverse := rfl

theorem arrange_cons (placed : List (Char × Nat)) (c : Char) (cs : List Char) :
    arrange placed (c :: cs) = arrange (placeMark c (classOf c) placed) cs := rfl

theorem arrange_append (placed : List (Char × Nat)) (cs ds : List Char) :
    arrange placed (cs ++ ds) = arrange (arrange placed cs) ds := List.foldl_append

theorem placeMark_behind {e : Char × Nat} (h : 0 < k ∧ k < e.2) :
    placeMark c k (e :: placed) = e :: placeMark c k placed := if_pos h

theorem placeMark_before {e : Char × Nat} (h : ¬(0 < k ∧ k < e.2)) :
    placeMark c k (e :: placed) = (c, k) :: e :: placed := if_neg h

theorem perm_placeMark (c : Char) (k : Nat) (placed : List (Char × Nat)) :
    (placeMark c k placed).Perm ((c, k) :: placed) := by
  induction placed with
  | nil => exact .refl _
  | cons e placed ih =>
      rw [placeMark]
      split
      · exact (ih.cons e).trans (.swap (c, k) e placed)
      · exact .refl _

theorem head?_placeMark (c : Char) (k : Nat) (placed : List (Char × Nat)) :
    (placeMark c k placed).head? = some (c, k) ∨ (placeMark c k placed).head? = placed.head? := by
  cases placed with
  | nil => exact Or.inl rfl
  | cons e placed =>
      rw [placeMark]
      split
      · exact Or.inr rfl
      · exact Or.inl rfl

theorem isChain_placeMark (h : placed.IsChain (flip Follows)) :
    (placeMark c k placed).IsChain (flip Follows) := by
  induction placed with
  | nil => exact .singleton _
  | cons e placed ih =>
      obtain ⟨hhead, hrest⟩ := List.isChain_cons.mp h
      rw [placeMark]
      split
      · next hbelow =>
        refine List.isChain_cons.mpr ⟨fun next hnext ↦ ?_, ih hrest⟩
        obtain hnew | hold := head?_placeMark c k placed
        · obtain rfl := Option.some.inj (hnew.symm.trans hnext)
          exact Or.inr (Nat.le_of_lt hbelow.2)
        · exact hhead next (hold ▸ hnext)
      · next hbelow =>
        refine List.isChain_cons_cons.mpr ⟨?_, h⟩
        unfold flip Follows
        dsimp only
        omega

theorem isChain_arrange (h : placed.IsChain (flip Follows)) :
    (arrange placed cs).IsChain (flip Follows) := by
  induction cs generalizing placed with
  | nil => exact h
  | cons c cs ih => exact ih (isChain_placeMark h)

theorem mem_arrange {e : Char × Nat} (h : e ∈ arrange placed cs) :
    e ∈ placed ∨ e.1 ∈ cs ∧ e.2 = classOf e.1 := by
  induction cs generalizing placed with
  | nil => exact Or.inl h
  | cons c cs ih =>
      obtain hplaced | ⟨hmem, hclass⟩ := ih h
      · obtain rfl | hplaced := List.mem_cons.mp ((perm_placeMark c _ placed).mem_iff.mp hplaced)
        · exact Or.inr ⟨List.mem_cons_self, rfl⟩
        · exact Or.inl hplaced
      · exact Or.inr ⟨List.mem_cons_of_mem c hmem, hclass⟩

theorem ordered_decompose (cs : List Char) : Ordered (decompose cs) := by
  have hmem (e : Char × Nat) (he : e ∈ decompose cs) :
      e.1 ∈ cs.flatMap (partsOf 4) ∧ e.2 = classOf e.1 := by
    rw [decompose_eq, List.mem_reverse] at he
    exact (mem_arrange he).resolve_left List.not_mem_nil
  refine ⟨fun e he ↦ (hmem e he).2, fun e he ↦ ?_, ?_⟩
  · obtain ⟨c, -, hpart⟩ := List.mem_flatMap.mp (hmem e he).1
    exact (settles c).whole _ hpart
  · rw [decompose_eq, List.isChain_reverse]
    exact isChain_arrange List.IsChain.nil

theorem Ordered.tail {e : Char × Nat} (h : Ordered (e :: rest)) : Ordered rest :=
  ⟨fun d hd ↦ h.labelled d (List.mem_cons_of_mem e hd),
    fun d hd ↦ h.whole d (List.mem_cons_of_mem e hd), h.chain.tail⟩

theorem placeMark_of_follows (h : ∀ e ∈ placed.head?, Follows e (c, k)) :
    placeMark c k placed = (c, k) :: placed := by
  cases placed with
  | nil => rfl
  | cons e placed =>
      have hfollows : k = 0 ∨ e.2 ≤ k := h e rfl
      exact placeMark_before (by omega)

/-- Entries that are in order already only move to the front of the reversed list. -/
theorem Ordered.arrange_eq (h : Ordered entries)
    (hfirst : ∀ e ∈ placed.head?, ∀ d ∈ entries.head?, Follows e d) :
    arrange placed (entries.map Prod.fst) = entries.reverse ++ placed := by
  induction entries generalizing placed with
  | nil => rfl
  | cons e rest ih =>
      have hplace : placeMark e.1 (classOf e.1) placed = e :: placed := by
        rw [← h.labelled e List.mem_cons_self]
        exact placeMark_of_follows fun d hd ↦ hfirst d hd e rfl
      have hnext := (List.isChain_cons.mp h.chain).1
      rw [List.map_cons, arrange_cons, hplace, ih h.tail, List.reverse_cons, List.append_assoc]
      · rfl
      · intro d hd
        obtain rfl := Option.some.inj hd
        exact hnext

theorem Ordered.arrange_reverse (h : Ordered entries) :
    (arrange [] (entries.map Prod.fst)).reverse = entries := by
  have hnone : ∀ e ∈ ([] : List (Char × Nat)).head?, ∀ d ∈ entries.head?, Follows e d :=
    fun e he ↦ absurd he (Option.not_mem_none e)
  rw [h.arrange_eq hnone, List.append_nil, List.reverse_reverse]

/-! ## Taking apart what was composed -/

/-- It does not matter which of two marks of different classes is placed first. -/
theorem placeMark_comm (hmark : 0 < l) (hlt : l < k) (placed : List (Char × Nat)) :
    placeMark c k (placeMark m l placed) = placeMark m l (placeMark c k placed) := by
  have hback (rest : List (Char × Nat)) :
      placeMark m l ((c, k) :: rest) = (c, k) :: placeMark m l rest := placeMark_behind ⟨hmark, hlt⟩
  have hfront (rest : List (Char × Nat)) :
      placeMark c k ((m, l) :: rest) = (c, k) :: (m, l) :: rest := by
    refine placeMark_before ?_
    dsimp only
    omega
  induction placed with
  | nil =>
      calc placeMark c k [(m, l)] = [(c, k), (m, l)] := hfront []
        _ = placeMark m l [(c, k)] := (hback []).symm
  | cons e placed ih =>
      by_cases hl : l < e.2
      · rw [placeMark_behind ⟨hmark, hl⟩]
        by_cases hk : k < e.2
        · have hpos : 0 < k := by omega
          rw [placeMark_behind ⟨hpos, hk⟩, ih, placeMark_behind ⟨hpos, hk⟩,
            placeMark_behind ⟨hmark, hl⟩]
        · rw [placeMark_before (by omega), placeMark_before (by omega), hback,
            placeMark_behind ⟨hmark, hl⟩]
      · rw [placeMark_before (by omega), hfront, placeMark_before (by omega), hback,
          placeMark_before (by omega)]

/-- A character moves before marks of lower classes. -/
theorem arrange_move (hmarks : ∀ e ∈ entries, 0 < e.2 ∧ e.2 < classOf c ∧ e.2 = classOf e.1) :
    arrange placed (entries.map Prod.fst ++ [c]) = arrange placed (c :: entries.map Prod.fst) := by
  induction entries generalizing placed with
  | nil => rfl
  | cons e entries ih =>
      obtain ⟨⟨hpos, hlt, hclass⟩, hrest⟩ := List.forall_mem_cons.mp hmarks
      rw [hclass] at hpos hlt
      rw [List.map_cons, List.cons_append, arrange_cons, ih hrest, arrange_cons, arrange_cons,
        arrange_cons, placeMark_comm hpos hlt]

theorem flatMap_partsOf (h : ∀ e ∈ entries, Whole e.1) :
    (entries.map Prod.fst).flatMap (partsOf 4) = entries.map Prod.fst := by
  induction entries with
  | nil => rfl
  | cons e entries ih =>
      obtain ⟨hwhole, hrest⟩ := List.forall_mem_cons.mp h
      rw [List.map_cons, List.flatMap_cons, hwhole, ih hrest]
      rfl

/-- Marks that follow each other are of no higher class than the last of them. -/
theorem le_of_isChain {e : Char × Nat} (hchain : (e :: placed).IsChain (flip Follows))
    (hpos : ∀ d ∈ e :: placed, 0 < d.2) : ∀ d ∈ e :: placed, d.2 ≤ e.2 := by
  induction placed generalizing e with
  | nil =>
      intro d hd
      obtain rfl := List.mem_singleton.mp hd
      exact Nat.le_refl _
  | cons m placed ih =>
      obtain ⟨hfollows, hrest⟩ := List.isChain_cons_cons.mp hchain
      obtain ⟨he, hpos⟩ := List.forall_mem_cons.mp hpos
      have hle : m.2 ≤ e.2 := hfollows.resolve_left (Nat.ne_of_gt he)
      refine List.forall_mem_cons.mpr ⟨Nat.le_refl _, fun d hd ↦ ?_⟩
      exact Nat.le_trans (ih hrest hpos d hd) hle

namespace Cluster

variable {cl : Cluster} {d : Char}

/-- The marks of the cluster and what comes after it are in order. -/
structure Open (cl : Cluster) (rest : List (Char × Nat)) : Prop where
  ordered : Ordered (cl.marks.reverse ++ rest)
  pos : ∀ e ∈ cl.marks, 0 < e.2

theorem Open.single (h : Ordered rest) : Open ⟨c, []⟩ rest := ⟨h, fun _ he ↦ nomatch he⟩

theorem Open.flatMap_chars (h : cl.Open rest) :
    cl.chars.flatMap (partsOf 4) = partsOf 4 cl.base ++ cl.marks.reverse.map Prod.fst := by
  have hwhole : ∀ e ∈ cl.marks.reverse, Whole e.1 :=
    fun e he ↦ h.ordered.whole e (List.mem_append_left _ he)
  rw [chars, List.flatMap_cons, ← List.map_reverse, flatMap_partsOf hwhole]

theorem Open.after (h : cl.Open rest) : Ordered rest where
  labelled e he := h.ordered.labelled e (List.mem_append_right _ he)
  whole e he := h.ordered.whole e (List.mem_append_right _ he)
  chain := (List.isChain_append.mp h.ordered.chain).2.1

/-- A mark that does not compose is added to the cluster. -/
theorem Open.mark (h : cl.Open ((c, k) :: rest)) (hk : k ≠ 0) :
    Open { cl with marks := (c, k) :: cl.marks } rest where
  ordered := by
    rw [List.reverse_cons, List.append_assoc]
    exact h.ordered
  pos := List.forall_mem_cons.mpr ⟨Nat.pos_of_ne_zero hk, h.pos⟩

theorem pair?_of_compose? (h : cl.compose? c k = some d) : pair? cl.base c = some d := by
  unfold compose? at h
  split at h
  · split at h
    · cases h
    · exact h
  · exact h

theorem lt_of_compose? (h : cl.compose? c k = some d) : ∀ e ∈ cl.marks.head?, e.2 < k := by
  intro e he
  unfold compose? at h
  split at h
  · next hmarks =>
    split at h
    · cases h
    · next hlt =>
      rw [hmarks] at he
      obtain rfl := Option.some.inj he
      exact Nat.lt_of_not_le hlt
  · next hmarks =>
    rw [hmarks] at he
    cases he

/-- A character composes only past marks of lower classes. -/
theorem Open.lt_of_compose? (h : cl.Open ((c, k) :: rest)) (hcompose : cl.compose? c k = some d) :
    ∀ e ∈ cl.marks, e.2 < k := by
  have hchain := (List.isChain_append.mp h.ordered.chain).1
  rw [List.isChain_reverse] at hchain
  have hlast := Cluster.lt_of_compose? hcompose
  have hpos := h.pos
  cases hmarks : cl.marks with
  | nil => exact nofun
  | cons last marks =>
      rw [hmarks] at hchain hlast hpos
      intro e he
      exact Nat.lt_of_le_of_lt (le_of_isChain hchain hpos e he) (hlast last rfl)

/-- The base takes up a character that it composes with. -/
theorem Open.base (h : cl.Open ((c, k) :: rest)) (hcompose : cl.compose? c k = some d) :
    Open { cl with base := d } rest where
  ordered := by
    have hsub : (cl.marks.reverse ++ rest).Sublist (cl.marks.reverse ++ (c, k) :: rest) :=
      (List.sublist_cons_self _ rest).append_left _
    obtain ⟨hmarks, hrest, -⟩ := List.isChain_append.mp h.ordered.chain
    obtain ⟨hnext, hrest⟩ := List.isChain_cons.mp hrest
    refine ⟨fun e he ↦ h.ordered.labelled e (hsub.subset he),
      fun e he ↦ h.ordered.whole e (hsub.subset he),
      List.isChain_append.mpr ⟨hmarks, hrest, fun last hlast next hhead ↦ ?_⟩⟩
    rw [List.getLast?_reverse] at hlast
    have hlt := Cluster.lt_of_compose? hcompose last hlast
    have hfollows : next.2 = 0 ∨ k ≤ next.2 := hnext next hhead
    unfold Follows
    omega
  pos := h.pos

/-- The parts of a composed text are those of the cluster and the rest, up to the order of marks of
different classes. -/
theorem Open.arrange_composeAfter (h : cl.Open rest) :
    arrange placed ((composeAfter cl rest).flatMap (partsOf 4)) =
      arrange placed (partsOf 4 cl.base ++ (cl.marks.reverse ++ rest).map Prod.fst) := by
  induction rest generalizing cl placed with
  | nil => rw [composeAfter, h.flatMap_chars, List.append_nil]
  | cons e rest ih =>
      obtain ⟨c, k⟩ := e
      obtain ⟨hclass, -⟩ := List.forall_mem_cons.mp h.after.labelled
      rw [composeAfter]
      split
      · next d hcompose =>
        have hmarks : ∀ e ∈ cl.marks.reverse, 0 < e.2 ∧ e.2 < classOf c ∧ e.2 = classOf e.1 := by
          intro e he
          have hmem := List.mem_reverse.mp he
          have hlt : e.2 < classOf c := hclass ▸ h.lt_of_compose? hcompose e hmem
          exact ⟨h.pos e hmem, hlt, h.ordered.labelled e (List.mem_append_left _ he)⟩
        rw [ih (h.base hcompose), partsOf_pair (pair?_of_compose? hcompose)]
        calc arrange placed (partsOf 4 cl.base ++ [c] ++ (cl.marks.reverse ++ rest).map Prod.fst)
          _ = arrange (arrange (arrange placed (partsOf 4 cl.base))
                (c :: cl.marks.reverse.map Prod.fst)) (rest.map Prod.fst) := by
              simp only [arrange_append, List.map_append]
              rfl
          _ = arrange (arrange (arrange placed (partsOf 4 cl.base))
                (cl.marks.reverse.map Prod.fst ++ [c])) (rest.map Prod.fst) := by
              rw [arrange_move hmarks]
          _ = arrange placed
                (partsOf 4 cl.base ++ (cl.marks.reverse ++ (c, k) :: rest).map Prod.fst) := by
              simp only [arrange_append, List.map_append]
              rfl
      · split
        · next hk =>
          have hwhole := h.after.whole _ List.mem_cons_self
          rw [List.flatMap_append, h.flatMap_chars, arrange_append, ih (.single h.after.tail),
            hwhole, ← arrange_append]
          simp
        · next hk =>
          rw [ih (h.mark hk)]
          simp

end Cluster

/-- A composed text has the parts that it was composed of. -/
theorem Ordered.arrange_compose (h : Ordered entries) :
    arrange placed ((compose entries).flatMap (partsOf 4)) =
      arrange placed (entries.map Prod.fst) := by
  induction entries generalizing placed with
  | nil => rfl
  | cons e rest ih =>
      obtain ⟨c, k⟩ := e
      have hwhole : partsOf 4 c = [c] := h.whole _ List.mem_cons_self 4
      rw [compose]
      split
      · rw [(Cluster.Open.single h.tail).arrange_composeAfter, hwhole]
        rfl
      · rw [List.flatMap_cons, hwhole, List.singleton_append, arrange_cons, ih h.tail,
          List.map_cons, arrange_cons]

theorem decompose_compose (cs : List Char) : decompose (compose (decompose cs)) = decompose cs := by
  have hordered := ordered_decompose cs
  rw [decompose_eq, hordered.arrange_compose, hordered.arrange_reverse]

theorem normalize_normalize (s : String) : normalize (normalize s) = normalize s := by
  by_cases hplain : s.toList.all (·.toNat < firstMark) = true
  · have hsame : normalize s = s := if_pos hplain
    rw [hsame, hsame]
  · have hcomposed : normalize s = String.ofList (compose (decompose s.toList)) := if_neg hplain
    rw [hcomposed, normalize, String.toList_ofList, decompose_compose]
    split <;> rfl

/-! ## Characters that do not compose -/

/-- The character comes before all composites and marks. -/
def IsPlain (c : Char) : Prop := c.toNat < 0xC0

theorem marks_not_plain : (composites.all fun e ↦ Nat.ble firstMark e.2.2) = true ∧
    (classes.all fun e ↦ Nat.ble firstMark e.1) = true := by decide +kernel

namespace IsPlain

theorem whole (h : IsPlain c) : Whole c := by
  unfold IsPlain at h
  refine whole_of_not_mem (syllableParts?_of_isApart ?_) fun htaken ↦ ?_
  · unfold isApart firstSyllable
    grind
  · have hle := (apart_of_mem_taken htaken).1
    omega

theorem classOf_eq (h : IsPlain c) : classOf c = 0 := by
  unfold classOf
  split
  · next first last k hfind =>
    have hle : firstMark ≤ first := Nat.le_of_ble_eq_true
      (List.all_eq_true.mp marks_not_plain.2 _ (List.mem_of_find?_eq_some hfind))
    have hin := List.find?_some hfind
    simp only [Bool.and_eq_true, decide_eq_true_eq] at hin
    unfold IsPlain at h
    unfold firstMark at hle
    omega
  · rfl

theorem pair?_eq_none (h : IsPlain c) (base : Char) : pair? base c = none := by
  unfold IsPlain at h
  have hvowel : ¬firstVowel ≤ c.toNat := by
    unfold firstVowel
    omega
  have htrail : ¬beforeTrail < c.toNat := by
    unfold beforeTrail
    omega
  unfold pair?
  dsimp only
  rw [if_neg (by simp [hvowel]), if_neg (by simp [htrail]), Option.map_eq_none_iff,
    List.find?_eq_none]
  intro e he hin
  simp only [Bool.and_eq_true, beq_iff_eq] at hin
  have hle : firstMark ≤ c.toNat :=
    hin.2 ▸ Nat.le_of_ble_eq_true (List.all_eq_true.mp marks_not_plain.1 e he)
  unfold firstMark at hle
  omega

end IsPlain

theorem arrange_plain (h : ∀ c ∈ cs, IsPlain c) :
    arrange placed cs = (cs.map (·, 0)).reverse ++ placed := by
  induction cs generalizing placed with
  | nil => rfl
  | cons c cs ih =>
      obtain ⟨hc, hcs⟩ := List.forall_mem_cons.mp h
      have hplace : placeMark c 0 placed = (c, 0) :: placed :=
        placeMark_of_follows fun _ _ ↦ Or.inl rfl
      rw [arrange_cons, hc.classOf_eq, hplace, ih hcs]
      simp

theorem decompose_append_plain (h : ∀ c ∈ ds, IsPlain c) :
    decompose (cs ++ ds) = decompose cs ++ ds.map (·, 0) := by
  have hparts : ds.flatMap (partsOf 4) = ds := by
    induction ds with
    | nil => rfl
    | cons d ds ih =>
        obtain ⟨hd, hds⟩ := List.forall_mem_cons.mp h
        rw [List.flatMap_cons, hd.whole, ih hds]
        rfl
  rw [decompose_eq, List.flatMap_append, hparts, arrange_append, arrange_plain h,
    List.reverse_append, List.reverse_reverse, decompose_eq]

theorem compose?_plain (h : IsPlain c) (cl : Cluster) : cl.compose? c 0 = none := by
  unfold Cluster.compose?
  split
  · rfl
  · exact h.pair?_eq_none cl.base

theorem composeAfter_plain (h : ∀ c ∈ cs, IsPlain c) (cl : Cluster) :
    composeAfter cl (cs.map (·, 0)) = cl.chars ++ cs := by
  induction cs generalizing cl with
  | nil => rw [List.map_nil, composeAfter, List.append_nil]
  | cons c cs ih =>
      obtain ⟨hc, hcs⟩ := List.forall_mem_cons.mp h
      rw [List.map_cons, composeAfter, compose?_plain hc]
      dsimp only
      rw [if_pos rfl, ih hcs]
      rfl

theorem composeAfter_append_plain (h : ∀ c ∈ cs, IsPlain c) (cl : Cluster) :
    composeAfter cl (entries ++ cs.map (·, 0)) = composeAfter cl entries ++ cs := by
  induction entries generalizing cl with
  | nil => exact composeAfter_plain h cl
  | cons e entries ih =>
      rw [List.cons_append, composeAfter, composeAfter]
      split
      · exact ih _
      · split
        · rw [ih, List.append_assoc]
        · exact ih _

theorem compose_append_plain (h : ∀ c ∈ cs, IsPlain c) :
    compose (entries ++ cs.map (·, 0)) = compose entries ++ cs := by
  induction entries with
  | nil =>
      cases cs with
      | nil => rfl
      | cons c cs => exact composeAfter_plain (List.forall_mem_cons.mp h).2 ⟨c, []⟩
  | cons e entries ih =>
      rw [List.cons_append, compose, compose]
      split
      · exact composeAfter_append_plain h _
      · rw [ih]
        rfl

theorem normalize_append_plain {s t : String} (h : ∀ c ∈ t.toList, IsPlain c) :
    normalize (s ++ t) = normalize s ++ t := by
  have hplain : t.toList.all (·.toNat < firstMark) = true := by
    rw [List.all_eq_true]
    intro c hc
    have hlt : c.toNat < 0xC0 := h c hc
    unfold firstMark
    exact decide_eq_true (by omega)
  unfold normalize
  rw [String.toList_append, List.all_append, hplain, Bool.and_true, decompose_append_plain h,
    compose_append_plain h]
  split
  · rfl
  · rw [String.ofList_append, String.ofList_toList]

end ResourceKernel.Text.Composition
