import Mathlib.Data.List.Chain
import Mathlib.Data.Nat.Bitwise
import ResourceKernel.Text.Composition

/-!
# Characters taken apart

The characters that a character is taken apart into are whole, and a composite is taken apart into
the parts of its base and its mark. Both are read off the tables, where sets of code points are
compared as the bits of one number each.
-/

namespace ResourceKernel.Text.Composition

/-! ## Sets of code points -/

/-- The number that has a bit for each member of the list. -/
def bitsOf (ns : List Nat) : Nat := ns.foldr (fun n bits ↦ 2 ^ n ||| bits) 0

theorem testBit_bitsOf {ns : List Nat} {n : Nat} : (bitsOf ns).testBit n = true ↔ n ∈ ns := by
  induction ns with
  | nil => simp [bitsOf]
  | cons m ns ih =>
      have hbits : bitsOf (m :: ns) = 2 ^ m ||| bitsOf ns := rfl
      rw [hbits, Nat.testBit_or, Bool.or_eq_true, ih, Nat.testBit_two_pow, decide_eq_true_eq,
        List.mem_cons, eq_comm]

theorem not_mem_of_bitsOf {ms ns : List Nat} (h : bitsOf ms &&& bitsOf ns = 0) {n : Nat}
    (hn : n ∈ ms) : n ∉ ns := by
  intro hmem
  have hboth : (bitsOf ms &&& bitsOf ns).testBit n = true := by
    rw [Nat.testBit_and, testBit_bitsOf.mpr hn, testBit_bitsOf.mpr hmem]
    rfl
  rw [h, Nat.zero_testBit] at hboth
  cases hboth

/-! ## What the tables say -/

/-- The code points of composites. -/
def heads : List Nat := composites.map (·.1)

/-- The code points of all that is taken apart, syllables aside. -/
def taken : List Nat := heads ++ singulars.map (·.1)

/-- The code point of a character that is no syllable. -/
def isApart (n : Nat) : Bool := n < firstSyllable || 0xE000 ≤ n && n < 0x110000

/-- The code point of a consonant or vowel that syllables are made of. -/
def isJamo (n : Nat) : Bool := firstLead ≤ n && n < 0x1200

/-- The composites that are at most so many levels deep. -/
def within : (depth : Nat) → List Nat
  | 0 => []
  | depth + 1 =>
      (composites.filter fun e ↦
        !(bitsOf heads).testBit e.2.1 || (bitsOf (within depth)).testBit e.2.1).map (·.1)

theorem ascending_heads : heads.IsChain (· < ·) := by decide +kernel

theorem marks_not_taken : bitsOf (composites.map (·.2.2)) &&& bitsOf taken = 0 := by decide +kernel

theorem singular_parts_not_taken : bitsOf (singulars.flatMap (·.2)) &&& bitsOf taken = 0 := by
  decide +kernel

theorem taken_apart : (taken.all fun n ↦ Nat.ble 0xC0 n && isApart n && !isJamo n) = true := by
  decide +kernel

theorem parts_apart : (composites.all fun e ↦ isApart e.2.1 && isApart e.2.2) = true ∧
    (singulars.all fun e ↦ e.2.all isApart) = true := by decide +kernel

theorem bases_within : (composites.all fun e ↦
    !(bitsOf heads).testBit e.2.1 || (bitsOf (within 2)).testBit e.2.1) = true := by decide +kernel

variable {c : Char} {n depth : Nat}

theorem toNat_ofNat (h : isApart n = true) : (Char.ofNat n).toNat = n := by
  have hvalid : n.isValidChar := by
    unfold isApart firstSyllable at h
    unfold Nat.isValidChar
    grind
  rw [Char.ofNat, dif_pos hvalid]
  rfl

theorem syllableParts?_of_isApart (h : isApart c.toNat = true) : syllableParts? c = none := by
  have hout : (decide (firstSyllable ≤ c.toNat) &&
      decide (c.toNat - firstSyllable < leadCount * vowelCount * trailCount)) = false := by
    unfold isApart firstSyllable at h
    unfold firstSyllable leadCount vowelCount trailCount
    grind
  unfold syllableParts?
  rw [if_neg (by simp [hout])]

theorem find?_eq_none {α : Type} {table : List (Nat × α)} (h : n ∉ table.map (·.1)) :
    table.find? (·.1 == n) = none := by
  rw [List.find?_eq_none]
  intro e he heq
  exact h (List.mem_map.mpr ⟨e, he, by simpa using heq⟩)

/-- The entry of a composite is found by its code point. -/
theorem find?_composites {e : Nat × Nat × Nat} (he : e ∈ composites) :
    composites.find? (·.1 == e.1) = some e := by
  have hascending : composites.Pairwise fun d e ↦ d.1 < e.1 :=
    List.pairwise_map.mp ascending_heads.pairwise
  revert he
  generalize composites = table at hascending
  induction table with
  | nil => exact nofun
  | cons d table ih =>
      obtain ⟨hfirst, hrest⟩ := List.pairwise_cons.mp hascending
      intro he
      obtain rfl | he := List.mem_cons.mp he
      · simp
      · have hne : (d.1 == e.1) = false := by simpa using Nat.ne_of_lt (hfirst e he)
        rw [List.find?_cons, hne]
        exact ih hrest he

theorem apart_of_mem_taken (h : n ∈ taken) :
    0xC0 ≤ n ∧ isApart n = true ∧ isJamo n = false := by
  have hall := List.all_eq_true.mp taken_apart n h
  simpa [and_assoc] using hall

/-! ## Whole characters -/

/-- The character is not taken apart. -/
def Whole (c : Char) : Prop := ∀ depth, partsOf depth c = [c]

theorem whole_of_not_mem (hsyllable : syllableParts? c = none) (htaken : c.toNat ∉ taken) :
    Whole c := by
  have hhead : c.toNat ∉ heads := fun h ↦ htaken (List.mem_append_left _ h)
  have hsingular : c.toNat ∉ singulars.map (·.1) := fun h ↦ htaken (List.mem_append_right _ h)
  intro depth
  cases depth with
  | zero => rfl
  | succ depth =>
      simp only [partsOf, hsyllable, find?_eq_none hhead, find?_eq_none hsingular]

theorem whole_ofNat (hapart : isApart n = true) (htaken : n ∉ taken) : Whole (Char.ofNat n) := by
  have hn := toNat_ofNat hapart
  exact whole_of_not_mem (syllableParts?_of_isApart (hn.symm ▸ hapart)) (hn.symm ▸ htaken)

theorem whole_ofNat_of_isJamo (h : isJamo n = true) : Whole (Char.ofNat n) := by
  have hapart : isApart n = true := by
    unfold isJamo firstLead at h
    unfold isApart firstSyllable
    grind
  refine whole_ofNat hapart fun htaken ↦ ?_
  rw [(apart_of_mem_taken htaken).2.2] at h
  cases h

theorem whole_mark {e : Nat × Nat × Nat} (he : e ∈ composites) : Whole (Char.ofNat e.2.2) := by
  have hapart := List.all_eq_true.mp parts_apart.1 e he
  refine whole_ofNat (Bool.and_eq_true_iff.mp hapart).2 ?_
  exact not_mem_of_bitsOf marks_not_taken (List.mem_map.mpr ⟨e, he, rfl⟩)

theorem whole_singular_part {e : Nat × List Nat} (he : e ∈ singulars) (hn : n ∈ e.2) :
    Whole (Char.ofNat n) := by
  have hapart := List.all_eq_true.mp (List.all_eq_true.mp parts_apart.2 e he) n hn
  refine whole_ofNat hapart ?_
  exact not_mem_of_bitsOf singular_parts_not_taken (List.mem_flatMap.mpr ⟨e, he, hn⟩)

/-! ## Syllables -/

/-- The syllable of a leading consonant, a vowel and a trailing consonant, or none for zero. -/
def syllable (lead vowel trail : Nat) : Char :=
  Char.ofNat (firstSyllable + ((lead * vowelCount + vowel) * trailCount + trail))

variable {lead vowel trail : Nat}

theorem toNat_syllable (hlead : lead < leadCount) (hvowel : vowel < vowelCount)
    (htrail : trail < trailCount) : (syllable lead vowel trail).toNat =
      firstSyllable + ((lead * vowelCount + vowel) * trailCount + trail) := by
  have hvalid : (firstSyllable + ((lead * vowelCount + vowel) * trailCount + trail)).isValidChar := by
    unfold leadCount at hlead
    unfold vowelCount at hvowel
    unfold trailCount at htrail
    unfold Nat.isValidChar firstSyllable vowelCount trailCount
    omega
  rw [syllable, Char.ofNat, dif_pos hvalid]
  rfl

theorem syllableParts?_syllable (hlead : lead < leadCount) (hvowel : vowel < vowelCount)
    (htrail : trail < trailCount) :
    syllableParts? (syllable lead vowel trail) =
      some ([Char.ofNat (firstLead + lead), Char.ofNat (firstVowel + vowel)] ++
        if trail = 0 then [] else [Char.ofNat (beforeTrail + trail)]) := by
  have hnat := toNat_syllable hlead hvowel htrail
  unfold leadCount at hlead
  unfold vowelCount at hvowel
  unfold trailCount at htrail
  have hin : (decide (firstSyllable ≤ (syllable lead vowel trail).toNat) &&
      decide ((syllable lead vowel trail).toNat - firstSyllable <
        leadCount * vowelCount * trailCount)) = true := by
    rw [hnat, Bool.and_eq_true, decide_eq_true_eq, decide_eq_true_eq]
    unfold leadCount vowelCount trailCount
    omega
  have hindex : (syllable lead vowel trail).toNat - firstSyllable =
      (lead * vowelCount + vowel) * trailCount + trail := by omega
  have hl : ((lead * vowelCount + vowel) * trailCount + trail) / (vowelCount * trailCount) =
      lead := by
    unfold vowelCount trailCount
    omega
  have hv : ((lead * vowelCount + vowel) * trailCount + trail) % (vowelCount * trailCount) /
      trailCount = vowel := by
    unfold vowelCount trailCount
    omega
  have ht : ((lead * vowelCount + vowel) * trailCount + trail) % trailCount = trail := by
    unfold trailCount
    omega
  unfold syllableParts?
  rw [if_pos hin, hindex]
  simp only [hl, hv, ht]

/-- A character in the range of the syllables is that of its place. -/
theorem exists_syllable (hfirst : firstSyllable ≤ c.toNat)
    (hplace : c.toNat - firstSyllable < leadCount * vowelCount * trailCount) :
    ∃ lead vowel, lead < leadCount ∧ vowel < vowelCount ∧
      c = syllable lead vowel ((c.toNat - firstSyllable) % trailCount) := by
  unfold leadCount vowelCount trailCount at hplace
  refine ⟨(c.toNat - firstSyllable) / (vowelCount * trailCount),
    (c.toNat - firstSyllable) % (vowelCount * trailCount) / trailCount, ?_, ?_, ?_⟩
  · unfold leadCount vowelCount trailCount
    omega
  · unfold vowelCount trailCount
    omega
  · have hnat : c.toNat = firstSyllable +
        (((c.toNat - firstSyllable) / (vowelCount * trailCount) * vowelCount +
          (c.toNat - firstSyllable) % (vowelCount * trailCount) / trailCount) * trailCount +
          (c.toNat - firstSyllable) % trailCount) := by
      unfold vowelCount trailCount
      omega
    rw [syllable, ← hnat, Char.ofNat_toNat]

theorem syllable_of_syllableParts? {parts : List Char} (h : syllableParts? c = some parts) :
    ∃ lead vowel trail, lead < leadCount ∧ vowel < vowelCount ∧ trail < trailCount ∧
      c = syllable lead vowel trail := by
  unfold syllableParts? at h
  dsimp only at h
  split at h
  · next hin =>
    rw [Bool.and_eq_true, decide_eq_true_eq, decide_eq_true_eq] at hin
    obtain ⟨lead, vowel, hlead, hvowel, hc⟩ := exists_syllable hin.1 hin.2
    exact ⟨lead, vowel, _, hlead, hvowel, Nat.mod_lt _ (by decide), hc⟩
  · cases h

theorem isJamo_place {first n : Nat} (hfirst : firstLead ≤ first) (hlast : first + n < 0x1200) :
    isJamo (first + n) = true := by
  unfold isJamo
  rw [Bool.and_eq_true, decide_eq_true_eq, decide_eq_true_eq]
  exact ⟨Nat.le_add_right_of_le hfirst, hlast⟩

theorem whole_lead (h : lead < leadCount) : Whole (Char.ofNat (firstLead + lead)) := by
  unfold leadCount at h
  refine whole_ofNat_of_isJamo (isJamo_place (Nat.le_refl _) ?_)
  unfold firstLead
  omega

theorem whole_vowel (h : vowel < vowelCount) : Whole (Char.ofNat (firstVowel + vowel)) := by
  unfold vowelCount at h
  refine whole_ofNat_of_isJamo (isJamo_place (by decide) ?_)
  unfold firstVowel
  omega

theorem whole_trail (h : trail < trailCount) : Whole (Char.ofNat (beforeTrail + trail)) := by
  unfold trailCount at h
  refine whole_ofNat_of_isJamo (isJamo_place (by decide) ?_)
  unfold beforeTrail
  omega

theorem whole_of_syllableParts? {parts : List Char} (h : syllableParts? c = some parts) :
    ∀ e ∈ parts, Whole e := by
  obtain ⟨lead, vowel, trail, hlead, hvowel, htrail, rfl⟩ := syllable_of_syllableParts? h
  rw [syllableParts?_syllable hlead hvowel htrail] at h
  obtain rfl := Option.some.inj h
  intro e he
  obtain he | he := List.mem_append.mp he
  · obtain rfl | he := List.mem_cons.mp he
    · exact whole_lead hlead
    · obtain rfl := List.mem_singleton.mp he
      exact whole_vowel hvowel
  · split at he
    · cases he
    · obtain rfl := List.mem_singleton.mp he
      exact whole_trail htrail

/-! ## Levels -/

/-- So many levels are enough to take the character apart. -/
structure Settles (depth : Nat) (c : Char) : Prop where
  stable (more : Nat) : partsOf (depth + more) c = partsOf depth c
  whole : ∀ e ∈ partsOf depth c, Whole e

theorem Settles.mono (h : Settles depth c) (more : Nat) : Settles (depth + more) c := by
  refine ⟨fun further ↦ ?_, ?_⟩
  · rw [Nat.add_assoc, h.stable, h.stable]
  · rw [h.stable]
    exact h.whole

theorem partsOf_of_syllableParts? {parts : List Char} (h : syllableParts? c = some parts)
    (depth : Nat) : partsOf (depth + 1) c = parts := by
  simp only [partsOf, h]

/-- All but composites are taken apart at once. -/
theorem settles_of_not_mem_heads (h : c.toNat ∉ heads) : Settles 1 c := by
  cases hsyllable : syllableParts? c with
  | some parts =>
      refine ⟨fun more ↦ ?_, ?_⟩
      · rw [Nat.add_comm, partsOf_of_syllableParts? hsyllable, partsOf_of_syllableParts? hsyllable]
      · rw [partsOf_of_syllableParts? hsyllable]
        exact whole_of_syllableParts? hsyllable
  | none =>
      cases hfind : singulars.find? (·.1 == c.toNat) with
      | some e =>
          have hparts (depth : Nat) : partsOf (depth + 1) c = e.2.map Char.ofNat := by
            simp only [partsOf, hsyllable, find?_eq_none h, hfind]
          refine ⟨fun more ↦ by rw [Nat.add_comm, hparts, hparts], ?_⟩
          rw [hparts]
          intro part hpart
          obtain ⟨n, hn, rfl⟩ := List.mem_map.mp hpart
          exact whole_singular_part (List.mem_of_find?_eq_some hfind) hn
      | none =>
          have hwhole : Whole c := by
            refine whole_of_not_mem hsyllable fun htaken ↦ ?_
            obtain hhead | hsingular := List.mem_append.mp htaken
            · exact h hhead
            · obtain ⟨e, he, heq⟩ := List.mem_map.mp hsingular
              exact List.find?_eq_none.mp hfind e he (by simpa using heq)
          refine ⟨fun more ↦ by rw [hwhole, hwhole], ?_⟩
          rw [hwhole]
          intro part hpart
          obtain rfl := List.mem_singleton.mp hpart
          exact hwhole

theorem partsOf_composite {e : Nat × Nat × Nat} (he : e ∈ composites) (depth : Nat) :
    partsOf (depth + 1) (Char.ofNat e.1) =
      partsOf depth (Char.ofNat e.2.1) ++ [Char.ofNat e.2.2] := by
  have htaken : e.1 ∈ taken := List.mem_append_left _ (List.mem_map.mpr ⟨e, he, rfl⟩)
  have hapart := (apart_of_mem_taken htaken).2.1
  have hn := toNat_ofNat hapart
  have hsyllable : syllableParts? (Char.ofNat e.1) = none :=
    syllableParts?_of_isApart (hn.symm ▸ hapart)
  simp only [partsOf, hsyllable, hn, find?_composites he]

theorem Settles.composite {e : Nat × Nat × Nat} (he : e ∈ composites)
    (h : Settles depth (Char.ofNat e.2.1)) : Settles (depth + 1) (Char.ofNat e.1) := by
  refine ⟨fun more ↦ ?_, ?_⟩
  · rw [Nat.add_right_comm, partsOf_composite he, partsOf_composite he, h.stable]
  · rw [partsOf_composite he]
    intro part hpart
    obtain hpart | hpart := List.mem_append.mp hpart
    · exact h.whole part hpart
    · obtain rfl := List.mem_singleton.mp hpart
      exact whole_mark he

/-- A base that is no composite, or one that is not too deep. -/
theorem settles_base {e : Nat × Nat × Nat} (he : e ∈ composites)
    (hwithin : ∀ n ∈ within depth, Settles (depth + 1) (Char.ofNat n))
    (hbase : (!(bitsOf heads).testBit e.2.1 || (bitsOf (within depth)).testBit e.2.1) = true) :
    Settles (depth + 1) (Char.ofNat e.2.1) := by
  obtain hplain | hdeep := Bool.or_eq_true_iff.mp hbase
  · have hapart := List.all_eq_true.mp parts_apart.1 e he
    have hn := toNat_ofNat (Bool.and_eq_true_iff.mp hapart).1
    have hhead : e.2.1 ∉ heads := by
      rw [← testBit_bitsOf]
      simpa using hplain
    rw [Nat.add_comm]
    exact (settles_of_not_mem_heads (hn.symm ▸ hhead)).mono depth
  · exact hwithin _ (testBit_bitsOf.mp hdeep)

theorem settles_within (depth : Nat) : ∀ n ∈ within depth, Settles (depth + 1) (Char.ofNat n) := by
  induction depth with
  | zero => exact nofun
  | succ depth ih =>
      intro n hn
      obtain ⟨e, he, rfl⟩ := List.mem_map.mp hn
      obtain ⟨he, hbase⟩ := List.mem_filter.mp he
      exact (settles_base he ih hbase).composite he

theorem settles_of_mem_composites {e : Nat × Nat × Nat} (he : e ∈ composites) :
    Settles 3 (Char.ofNat e.2.1) :=
  settles_base he (settles_within 2) (List.all_eq_true.mp bases_within e he)

/-- Four levels are enough for all characters. -/
theorem settles (c : Char) : Settles 4 c := by
  by_cases hhead : c.toNat ∈ heads
  · obtain ⟨e, he, hc⟩ := List.mem_map.mp hhead
    have hsettles := (settles_of_mem_composites he).composite he
    rwa [hc, Char.ofNat_toNat] at hsettles
  · exact (settles_of_not_mem_heads hhead).mono 3

theorem partsOf_syllable (hlead : lead < leadCount) (hvowel : vowel < vowelCount) :
    partsOf 4 (syllable lead vowel 0) =
      [Char.ofNat (firstLead + lead), Char.ofNat (firstVowel + vowel)] := by
  have hparts := syllableParts?_syllable hlead hvowel (show 0 < trailCount by decide)
  exact partsOf_of_syllableParts? hparts 3

/-- A character that two are composed to is taken apart into the parts of the first, and the
second. -/
theorem partsOf_pair {a b d : Char} (h : pair? a b = some d) : partsOf 4 d = partsOf 4 a ++ [b] := by
  unfold pair? at h
  dsimp only at h
  split at h
  · next hin =>
    -- a leading consonant and a vowel
    simp only [Bool.and_eq_true, decide_eq_true_eq] at hin
    obtain ⟨⟨⟨hfirst, hlead⟩, hfirst'⟩, hvowel⟩ := hin
    have ha : Char.ofNat (firstLead + (a.toNat - firstLead)) = a := by
      rw [Nat.add_sub_cancel' hfirst, Char.ofNat_toNat]
    have hb : Char.ofNat (firstVowel + (b.toNat - firstVowel)) = b := by
      rw [Nat.add_sub_cancel' hfirst', Char.ofNat_toNat]
    have hd : syllable (a.toNat - firstLead) (b.toNat - firstVowel) 0 = d := by
      rw [syllable, Nat.add_zero]
      exact Option.some.inj h
    have hwhole := whole_lead hlead 4
    rw [ha] at hwhole
    rw [← hd, partsOf_syllable hlead hvowel, ha, hb, hwhole]
    rfl
  · split at h
    · next hin =>
      -- a syllable and a trailing consonant
      simp only [Bool.and_eq_true, decide_eq_true_eq, beq_iff_eq] at hin
      obtain ⟨⟨⟨⟨hfirst, hplace⟩, hopen⟩, hfirst'⟩, htrail⟩ := hin
      obtain ⟨lead, vowel, hlead, hvowel, ha⟩ := exists_syllable hfirst hplace
      rw [hopen] at ha
      have hb : Char.ofNat (beforeTrail + (b.toNat - beforeTrail)) = b := by
        rw [Nat.add_sub_cancel' (Nat.le_of_lt hfirst'), Char.ofNat_toNat]
      have hd : syllable lead vowel (b.toNat - beforeTrail) = d := by
        have hnat := toNat_syllable hlead hvowel (show 0 < trailCount by decide)
        rw [← ha, Nat.add_zero] at hnat
        rw [syllable, ← Nat.add_assoc, ← hnat]
        exact Option.some.inj h
      have hparts := syllableParts?_syllable hlead hvowel htrail
      rw [if_neg (Nat.sub_ne_zero_of_lt hfirst'), hb] at hparts
      rw [← hd, ha, partsOf_syllable hlead hvowel]
      exact partsOf_of_syllableParts? hparts 3
    · -- an entry of the table
      obtain ⟨e, hfind, rfl⟩ := Option.map_eq_some_iff.mp h
      have he := List.mem_of_find?_eq_some hfind
      have hpair := List.find?_some hfind
      simp only [Bool.and_eq_true, beq_iff_eq] at hpair
      have hstable := (settles_of_mem_composites he).stable 1
      rw [partsOf_composite he, ← hstable, hpair.1, hpair.2, Char.ofNat_toNat, Char.ofNat_toNat]

end ResourceKernel.Text.Composition
