import Mathlib.Tactic.SplitIfs
import ResourceKernel.Json.Reader

/-!
# Written values read back

A value that consists of texts, truth values, null and integers of at most 64 bits, and nests no
deeper than a reader allows, is read back from the text that is written for it. What follows the text
of a value is a comma, a closing bracket or nothing, so that numbers end where they should.
-/

namespace ResourceKernel.Json

open Text

variable {c d : Char} {cs rest : List Char} {n : Nat}

/-! ## Quoted text -/

/-- The text is read as one piece, which stands for the character. -/
def Spells (cs : List Char) (c : Char) : Prop :=
  ∃ p : Piece, (∀ ps, charsOfPieces (p :: ps) = (charsOfPieces ps).map (c :: ·)) ∧
    ∀ rest, readPieces (cs ++ rest) = (readPieces rest).map fun r ↦ (p :: r.1, r.2)

theorem spells_of_escaped? (hd : d ≠ 'u') (h : escaped? d = some c) : Spells ['\\', d] c := by
  refine ⟨.char c, fun _ ↦ rfl, fun rest ↦ ?_⟩
  rw [List.cons_append, List.singleton_append, readPieces, h]
  · cases readPieces rest <;> rfl
  · exact fun _ _ _ _ _ hu ↦ absurd hu hd

/-- A control character that has no letter of its own is written as a unit. -/
theorem spells_unit (h : c.toNat < 0x20) :
    Spells ('\\' :: 'u' :: '0' :: '0' :: Hex.byteDigits (UInt8.ofNat c.toNat)) c := by
  have hunit : ∀ n < 0x20,
      hexUnit? '0' '0' (Hex.digit ((UInt8.ofNat n).toNat / 16))
        (Hex.digit ((UInt8.ofNat n).toNat % 16)) = some n := by decide
  refine ⟨.unit c.toNat, fun ps ↦ ?_, fun rest ↦ ?_⟩
  · have hhigh : ¬(0xD800 ≤ c.toNat ∧ c.toNat < 0xDC00) := by omega
    have hlow : ¬(0xDC00 ≤ c.toNat ∧ c.toNat < 0xE000) := by omega
    rw [charsOfPieces.eq_def]
    simp only [hhigh, hlow, if_false, Char.ofNat_toNat]
  · simp only [Hex.byteDigits, List.cons_append, List.nil_append, readPieces, hunit _ h]
    cases readPieces rest <;> rfl

theorem spells_self (hquote : c ≠ '"') (hslash : c ≠ '\\') (h : ¬c.toNat < 0x20) :
    Spells [c] c := by
  refine ⟨.char c, fun _ ↦ rfl, fun rest ↦ ?_⟩
  rw [List.singleton_append, readPieces, if_neg]
  · simp only [hslash, h, or_self, not_false_eq_true]
  · exact hquote
  · exact fun _ _ _ _ _ hc ↦ absurd hc hslash
  · exact fun _ _ hc ↦ absurd hc hslash

theorem spells_escape (c : Char) : Spells (escape c) c := by
  have hcontrol {n : Nat} (h : c.toNat = n) {d : Char} (hd : d ≠ 'u')
      (hletter : escaped? d = some (Char.ofNat n)) : Spells ['\\', d] c := by
    refine spells_of_escaped? hd ?_
    rw [hletter, ← h, Char.ofNat_toNat]
  unfold escape
  split_ifs with hquote hslash hback htab hline hform hreturn hlow
  · subst hquote
    exact spells_of_escaped? (by decide) rfl
  · subst hslash
    exact spells_of_escaped? (by decide) rfl
  · exact hcontrol hback (by decide) rfl
  · exact hcontrol htab (by decide) rfl
  · exact hcontrol hline (by decide) rfl
  · exact hcontrol hform (by decide) rfl
  · exact hcontrol hreturn (by decide) rfl
  · exact spells_unit hlow
  · exact spells_self hquote hslash hlow

theorem readQuoted_escape (s rest : List Char) :
    readQuoted (s.flatMap escape ++ '"' :: rest) = some (some (String.ofList s), rest) := by
  have hpieces : ∃ ps, charsOfPieces ps = some s ∧
      readPieces (s.flatMap escape ++ '"' :: rest) = some (ps, rest) := by
    induction s with
    | nil => exact ⟨[], rfl, by rw [List.flatMap_nil, List.nil_append, readPieces]⟩
    | cons c s ih =>
        obtain ⟨ps, hchars, hread⟩ := ih
        obtain ⟨p, hspells, hpiece⟩ := spells_escape c
        refine ⟨p :: ps, by rw [hspells, hchars]; rfl, ?_⟩
        rw [List.flatMap_cons, List.append_assoc, hpiece, hread]
        rfl
  obtain ⟨ps, hchars, hread⟩ := hpieces
  rw [readQuoted, hread, Option.map_some, hchars]
  rfl

theorem quoted_append (s : String) (rest : List Char) :
    quoted s ++ rest = '"' :: (s.toList.flatMap escape ++ '"' :: rest) := by
  simp [quoted]

/-! ## Integers -/

/-- What may follow a value: nothing, or the end of an item. -/
def Ends (rest : List Char) : Prop := ∀ c ∈ rest.head?, c = ',' ∨ c = ']' ∨ c = '\x7d'

theorem Ends.ne_of_cons (h : Ends (c :: rest)) :
    Decimal.isDigit c = false ∧ c ≠ '.' ∧ c ≠ 'e' ∧ c ≠ 'E' := by
  obtain rfl | rfl | rfl := h c rfl <;> decide

theorem readDigits_append {digits : List Char} (hdigits : ∀ c ∈ digits, Decimal.isDigit c = true)
    (h : Ends rest) : readDigits (digits ++ rest) = (digits, rest) := by
  have hend : rest.takeWhile Decimal.isDigit = [] ∧ rest.dropWhile Decimal.isDigit = rest := by
    cases rest with
    | nil => exact ⟨rfl, rfl⟩
    | cons c rest => simp [h.ne_of_cons.1]
  rw [readDigits, List.takeWhile_append_of_pos hdigits, List.dropWhile_append_of_pos hdigits,
    hend.1, hend.2, List.append_nil]

/-- Only zero starts with a zero. -/
theorem exists_digitsOf (n : Nat) : ∃ d ds, Decimal.digitsOf n = d :: ds ∧
    (d = '0' → n = 0 ∧ ds = []) := by
  fun_induction Decimal.digitsOf n with
  | case1 n h =>
      have hzero : ∀ n < 10, Decimal.digit n = '0' → n = 0 := by decide
      exact ⟨_, [], rfl, fun heq ↦ ⟨hzero n h heq, rfl⟩⟩
  | case2 n h ih =>
      obtain ⟨d, ds, heq, hzero⟩ := ih
      refine ⟨d, ds ++ [Decimal.digit n], by rw [heq]; rfl, fun hd ↦ ?_⟩
      have hquotient := (hzero hd).1
      omega

theorem exists_charsOfInt (n : Int) : ∃ d ds, Decimal.charsOfInt n = d :: ds ∧
    (d = '-' ∨ Decimal.isDigit d = true) := by
  cases n with
  | ofNat n =>
      obtain ⟨d, ds, heq, -⟩ := exists_digitsOf n
      exact ⟨d, ds, heq, Or.inr (Decimal.isDigit_of_mem_digitsOf (heq ▸ List.mem_cons_self))⟩
  | negSucc n => exact ⟨_, _, rfl, Or.inl rfl⟩

theorem readWhole_digitsOf (n : Nat) (h : Ends rest) :
    readWhole (Decimal.digitsOf n ++ rest) = some (Decimal.digitsOf n, rest) := by
  have hdigits : ∀ c ∈ Decimal.digitsOf n, Decimal.isDigit c = true :=
    fun c ↦ Decimal.isDigit_of_mem_digitsOf
  obtain ⟨d, ds, heq, hzero⟩ := exists_digitsOf n
  rw [readWhole, readDigits_append hdigits h, heq]
  split
  · next hnil => cases hnil
  · next hlong =>
    obtain ⟨rfl, rfl⟩ := List.cons.inj (Prod.mk.inj hlong).1
    cases (hzero rfl).2
  · rfl

theorem readUnsigned_digitsOf (negative : Bool) (n : Nat) (h : Ends rest) :
    readUnsigned negative (Decimal.digitsOf n ++ rest) =
      some (numberOf ⟨negative, Decimal.digitsOf n, none, none⟩, rest) := by
  have hfraction : readFraction rest = some (none, rest) := by
    unfold readFraction
    split
    · exact absurd rfl h.ne_of_cons.2.1
    · rfl
  have hexponent : readExponent rest = some (none, rest) := by
    cases rest with
    | nil => rfl
    | cons c rest => exact if_neg (by simp [h.ne_of_cons])
  simp only [readUnsigned, readWhole_digitsOf n h, hfraction, hexponent, Option.bind_eq_bind,
    Option.bind_some]

/-- The integers that a reader keeps exactly. -/
def InRange (n : Int) : Prop := Int64.minValue.toInt ≤ n ∧ n < UInt64.size

theorem readLeaf_of_isDigit (h : Decimal.isDigit d = true) (cs : List Char) :
    readLeaf (d :: cs) = readUnsigned false (d :: cs) := by
  unfold readLeaf
  split <;> first
    | rfl
    | next heq =>
      obtain rfl := (List.cons.inj heq).1
      exact absurd h (by decide)

theorem readLeaf_charsOfInt {n : Int} (hn : InRange n) (h : Ends rest) :
    readLeaf (Decimal.charsOfInt n ++ rest) = some (.int n, rest) := by
  cases n with
  | ofNat n =>
      have hlt : n < UInt64.size := Int.ofNat_lt.mp hn.2
      have hnumber : numberOf ⟨false, Decimal.digitsOf n, none, none⟩ = .int n := by
        simp [numberOf, intOf?, hlt]
      obtain ⟨d, ds, heq, -⟩ := exists_digitsOf n
      have hdigit : Decimal.isDigit d = true :=
        Decimal.isDigit_of_mem_digitsOf (heq ▸ List.mem_cons_self)
      rw [Decimal.charsOfInt, heq, List.cons_append, readLeaf_of_isDigit hdigit,
        ← List.cons_append, ← heq, readUnsigned_digitsOf false n h, hnumber]
      rfl
  | negSucc n =>
      have hle : ¬-((n + 1 : Nat) : Int) < Int64.minValue.toInt := by
        have := hn.1
        omega
      have hnumber : numberOf ⟨true, Decimal.digitsOf (n + 1), none, none⟩ =
          .int (.negSucc n) := by
        simp only [numberOf, intOf?, Decimal.valueOf_digitsOf, if_true, Nat.succ_ne_zero, hle,
          or_self, if_false]
        rfl
      rw [Decimal.charsOfInt, List.cons_append, readLeaf, readUnsigned_digitsOf true _ h, hnumber]

/-! ## Items -/

variable {α β : Type} {item : List Char → Option (β × List Char)} {form : α → List Char}
  {made : α → β} {close : Char} {x : α} {xs : List α}

/-- The texts of items, with commas between them. -/
def joined : List (List Char) → List Char := List.intercalate [',']

theorem joined_single (text : List Char) : joined [text] = text := List.intercalate_singleton

theorem joined_cons (text next : List Char) (texts : List (List Char)) :
    joined (text :: next :: texts) = text ++ ',' :: joined (next :: texts) := by
  rw [joined, List.intercalate_cons_cons, List.append_assoc]
  rfl

theorem itemChars_eq (vs : List Value) : itemChars vs = joined (vs.map Value.chars) := by
  induction vs with
  | nil => rfl
  | cons v vs ih =>
      cases vs with
      | nil => rw [itemChars, List.map_singleton, joined_single]
      | cons w vs => rw [itemChars, ih, List.map_cons, List.map_cons, List.map_cons, joined_cons]

/-- The text of a member of an object. -/
def memberText (kv : String × Value) : List Char := quoted kv.1 ++ ':' :: kv.2.chars

theorem memberChars_eq (kvs : List (String × Value)) :
    memberChars kvs = joined (kvs.map memberText) := by
  induction kvs with
  | nil => rfl
  | cons kv kvs ih =>
      obtain ⟨k, v⟩ := kv
      cases kvs with
      | nil => rw [memberChars, List.map_singleton, joined_single, memberText]
      | cons next kvs =>
          have hfirst : memberText (k, v) = quoted k ++ ':' :: v.chars := rfl
          rw [memberChars, ih, List.map_cons, List.map_cons, List.map_cons, joined_cons, hfirst,
            List.append_assoc, List.cons_append]

theorem length_le_joined (text : List Char) (texts : List (List Char)) :
    texts.length + text.length ≤ (joined (text :: texts)).length := by
  induction texts generalizing text with
  | nil => simp [joined_single]
  | cons next texts ih =>
      have hle := ih next
      rw [joined_cons, List.length_append, List.length_cons, List.length_cons]
      omega

theorem length_le_of_mem {text : List Char} {texts : List (List Char)} (h : text ∈ texts) :
    text.length ≤ (joined texts).length := by
  induction texts with
  | nil => cases h
  | cons first texts ih =>
      obtain rfl | h := List.mem_cons.mp h
      · exact Nat.le_trans (Nat.le_add_left _ _) (length_le_joined text texts)
      · have hle := ih h
        cases texts with
        | nil => cases h
        | cons next texts =>
            rw [joined_cons, List.length_append, List.length_cons]
            omega

theorem exists_joined (text : List Char) (texts : List (List Char)) :
    ∃ more, joined (text :: texts) = text ++ more := by
  cases texts with
  | nil => exact ⟨[], by rw [joined_single, List.append_nil]⟩
  | cons next texts => exact ⟨_, joined_cons text next texts⟩

/-- An item is read from its text, up to the end of the item. -/
structure Readable (item : List Char → Option (β × List Char)) (form : α → List Char)
    (made : α → β) (close : Char) (x : α) : Prop where
  read (c : Char) (rest : List Char) (h : c = ',' ∨ c = close) :
    item (form x ++ c :: rest) = some (made x, c :: rest)
  head : ∃ c cs, form x = c :: cs ∧ isSpace c = false ∧ c ≠ close

theorem skipSpace_cons (h : isSpace c = false) (cs : List Char) : skipSpace (c :: cs) = c :: cs := by
  rw [skipSpace, List.dropWhile_cons, h, if_neg Bool.false_ne_true]

theorem readItems_joined (hclose : close ≠ ',') (hspace : isSpace close = false)
    (h : ∀ y ∈ x :: xs, Readable item form made close y) {fuel : Nat} (hfuel : xs.length < fuel)
    (rest : List Char) :
    readItems item close fuel (joined ((x :: xs).map form) ++ close :: rest) =
      some ((x :: xs).map made, rest) := by
  induction xs generalizing x fuel with
  | nil =>
      obtain ⟨fuel, rfl⟩ := Nat.exists_eq_add_of_lt hfuel
      have hread := (h x List.mem_cons_self).read close rest (Or.inr rfl)
      rw [List.map_singleton, joined_single, readItems, hread]
      simp only [skipSpace_cons hspace, if_neg hclose, if_true]
      rfl
  | cons y xs ih =>
      obtain ⟨fuel, rfl⟩ := Nat.exists_eq_add_of_lt hfuel
      obtain ⟨hfirst, hrest⟩ := List.forall_mem_cons.mp h
      have hread := hfirst.read ',' (joined ((y :: xs).map form) ++ close :: rest) (Or.inl rfl)
      rw [List.map_cons, List.map_cons, joined_cons, List.append_assoc, List.cons_append,
        ← List.map_cons, readItems, hread]
      simp only [skipSpace_cons (show isSpace ',' = false by decide), if_true]
      have hlt : xs.length < (y :: xs).length + fuel := by
        rw [List.length_cons]
        omega
      rw [ih hrest hlt]
      rfl

theorem readSequence_joined (hclose : close ≠ ',') (hspace : isSpace close = false)
    (h : ∀ y ∈ xs, Readable item form made close y) (rest : List Char) :
    readSequence item close (joined (xs.map form) ++ close :: rest) = some (xs.map made, rest) := by
  cases xs with
  | nil =>
      have hskip : skipSpace (close :: rest) = close :: rest := skipSpace_cons hspace rest
      rw [List.map_nil, joined, List.intercalate_nil, List.nil_append, readSequence, hskip]
      simp
  | cons x xs =>
      obtain ⟨c, cs, hform, hc, hne⟩ := (h x List.mem_cons_self).head
      obtain ⟨more, hmore⟩ := exists_joined (form x) (xs.map form)
      have htext : joined ((x :: xs).map form) ++ close :: rest =
          c :: (cs ++ more ++ close :: rest) := by
        rw [List.map_cons, hmore, hform]
        simp
      have hfuel : xs.length < (joined ((x :: xs).map form) ++ close :: rest).length := by
        have hle := length_le_joined (form x) (xs.map form)
        rw [List.length_map] at hle
        rw [List.map_cons, List.length_append, List.length_cons]
        omega
      have hitems := readItems_joined hclose hspace h hfuel rest
      have hskip := skipSpace_cons hc (cs ++ more ++ close :: rest)
      rw [htext] at hitems ⊢
      rw [readSequence, hskip, ← hitems]
      exact if_neg hne

/-! ## Values -/

/-- A value that is read back: it nests at most so deep, and has no numbers but integers that are
kept exactly. -/
def Value.Writable : (depth : Nat) → Value → Prop
  | _, .null | _, .bool _ | _, .text _ => True
  | _, .int n => InRange n
  | depth + 1, .list xs => ∀ x ∈ xs, x.Writable depth
  | depth + 1, .fields kvs => ∀ kv ∈ kvs, kv.2.Writable depth
  | _, _ => False

variable {v : Value} {depth fuel : Nat}

theorem exists_chars (v : Value) : ∃ c cs, v.chars = c :: cs ∧ isSpace c = false ∧ c ≠ ']' := by
  cases v with
  | int n =>
      obtain ⟨d, ds, heq, hd⟩ := exists_charsOfInt n
      rw [Value.chars]
      refine ⟨d, ds, heq, ?_, ?_⟩
      · cases hspace : isSpace d with
        | false => rfl
        | true =>
            simp only [isSpace, Bool.or_eq_true, beq_iff_eq, or_assoc] at hspace
            obtain rfl | rfl | rfl | rfl := hspace <;> exact absurd hd (by decide)
      · rintro rfl
        exact absurd hd (by decide)
  | bool b => cases b <;> exact ⟨_, _, by rw [Value.chars]; rfl, by decide, by decide⟩
  | null | real | unreadable => exact ⟨_, _, by rw [Value.chars]; rfl, by decide, by decide⟩
  | text s => exact ⟨_, _, by rw [Value.chars]; rfl, by decide, by decide⟩
  | list xs => exact ⟨_, _, by rw [Value.chars]; rfl, by decide, by decide⟩
  | fields kvs => exact ⟨_, _, by rw [Value.chars]; rfl, by decide, by decide⟩

/-- What starts with no bracket is read as a leaf. -/
theorem readValue_of_readLeaf (hleaf : readLeaf (v.chars ++ rest) = some (v, rest))
    (hhead : ∀ c ∈ v.chars.head?, c ≠ '[' ∧ c ≠ '\x7b') (fuel : Nat) :
    readValue fuel (v.chars ++ rest) = some (v, rest) := by
  obtain ⟨c, cs, heq, hspace, -⟩ := exists_chars v
  rw [heq] at hleaf hhead ⊢
  have hskip := skipSpace_cons hspace (cs ++ rest)
  rw [← List.cons_append] at hskip
  cases fuel with
  | zero => rw [readValue, hskip, hleaf]
  | succ fuel =>
      rw [readValue, hskip]
      split
      · next hbracket => exact absurd (List.cons.inj hbracket).1 (hhead c rfl).1
      · next hbracket => exact absurd (List.cons.inj hbracket).1 (hhead c rfl).2
      · exact hleaf

theorem objectOf_map (kvs : List (String × Value)) :
    objectOf (kvs.map fun kv ↦ (some kv.1, kv.2)) = .fields kvs := by
  have hnames : (kvs.map fun kv ↦ (some kv.1, kv.2)).mapM
      (fun kv : Option String × Value ↦ kv.1.map fun key ↦ (key, kv.2)) = some kvs := by
    induction kvs with
    | nil => rfl
    | cons kv kvs ih =>
        rw [List.map_cons, List.mapM_cons, ih]
        rfl
  rw [objectOf, hnames]

theorem readable_value {x : Value} (h : ∀ rest, Ends rest →
    readValue fuel (x.chars ++ rest) = some (x, rest)) :
    Readable (readValue fuel) Value.chars id ']' x where
  read c rest hc := by
    refine h (c :: rest) fun d hd ↦ ?_
    obtain rfl := Option.some.inj hd
    exact hc.imp_right Or.inl
  head := exists_chars x

theorem readable_member {kv : String × Value} (h : ∀ rest, Ends rest →
    readValue fuel (kv.2.chars ++ rest) = some (kv.2, rest)) :
    Readable (readMember (readValue fuel)) memberText (fun kv ↦ (some kv.1, kv.2)) '\x7d' kv where
  read c rest hc := by
    have hends : Ends (c :: rest) := by
      intro d hd
      obtain rfl := Option.some.inj hd
      exact hc.imp_right Or.inr
    have hvalue := h (c :: rest) hends
    have hquote : skipSpace ('"' :: (kv.1.toList.flatMap escape ++
        '"' :: ':' :: (kv.2.chars ++ c :: rest))) = _ := skipSpace_cons (by decide) _
    have hcolon : skipSpace (':' :: (kv.2.chars ++ c :: rest)) = _ := skipSpace_cons (by decide) _
    rw [memberText, List.append_assoc, quoted_append, List.cons_append, readMember, hquote]
    simp only [readQuoted_escape, hcolon, hvalue, String.ofList_toList]
    rfl
  head := ⟨'"', _, by rw [memberText, quoted, List.append_assoc, List.cons_append], by decide,
    by decide⟩

namespace Value

theorem chars_list (xs : List Value) : (list xs).chars = '[' :: (joined (xs.map chars) ++ [']']) := by
  rw [chars, itemChars_eq, List.cons_append]

theorem chars_fields (kvs : List (String × Value)) :
    (fields kvs).chars = '\x7b' :: (joined (kvs.map memberText) ++ ['\x7d']) := by
  rw [chars, memberChars_eq, List.cons_append]

theorem length_item_lt {x : Value} {xs : List Value} (h : x ∈ xs) :
    x.chars.length < (list xs).chars.length := by
  have hle := length_le_of_mem (List.mem_map_of_mem h : x.chars ∈ xs.map chars)
  rw [chars_list, List.length_cons, List.length_append]
  omega

theorem length_member_lt {kv : String × Value} {kvs : List (String × Value)} (h : kv ∈ kvs) :
    kv.2.chars.length < (fields kvs).chars.length := by
  have hle := length_le_of_mem (List.mem_map_of_mem h : memberText kv ∈ kvs.map memberText)
  rw [memberText, List.length_append, List.length_cons] at hle
  rw [chars_fields, List.length_cons, List.length_append]
  omega

theorem readValue_list {xs : List Value} (h : ∀ x ∈ xs, Readable (readValue fuel) chars id ']' x)
    (rest : List Char) :
    readValue (fuel + 1) ((list xs).chars ++ rest) = some (list xs, rest) := by
  have hskip : skipSpace ('[' :: (joined (xs.map chars) ++ ']' :: rest)) = _ :=
    skipSpace_cons (by decide) _
  rw [chars_list, List.cons_append, List.append_assoc, List.singleton_append, readValue, hskip]
  simp only [readSequence_joined (by decide) (by decide) h, Option.map_some, List.map_id]

theorem readValue_fields {kvs : List (String × Value)}
    (h : ∀ kv ∈ kvs, Readable (readMember (readValue fuel)) memberText
      (fun kv ↦ (some kv.1, kv.2)) '\x7d' kv) (rest : List Char) :
    readValue (fuel + 1) ((fields kvs).chars ++ rest) = some (fields kvs, rest) := by
  have hskip : skipSpace ('\x7b' :: (joined (kvs.map memberText) ++ '\x7d' :: rest)) = _ :=
    skipSpace_cons (by decide) _
  rw [chars_fields, List.cons_append, List.append_assoc, List.singleton_append, readValue, hskip]
  simp only [readSequence_joined (by decide) (by decide) h, Option.map_some, objectOf_map]

theorem readValue_int {n : Int} (h : InRange n) (hrest : Ends rest) (fuel : Nat) :
    readValue fuel ((int n).chars ++ rest) = some (int n, rest) := by
  obtain ⟨d, ds, heq, hd⟩ := exists_charsOfInt n
  refine readValue_of_readLeaf ?_ ?_ fuel
  · rw [chars]
    exact readLeaf_charsOfInt h hrest
  · rw [chars, heq]
    intro c hc
    obtain rfl := Option.some.inj hc
    constructor <;>
    · rintro rfl
      exact absurd hd (by decide)

theorem readValue_text (s : String) (rest : List Char) (fuel : Nat) :
    readValue fuel ((text s).chars ++ rest) = some (text s, rest) := by
  refine readValue_of_readLeaf ?_ (by simp [chars, quoted]) fuel
  rw [chars, quoted_append, readLeaf, readQuoted_escape, String.ofList_toList]
  rfl

/-- The induction is on the length of the text, which is enough fuel for the items of a value. -/
theorem Writable.readValue_eq (h : v.Writable depth) (hfuel : v.chars.length ≤ fuel)
    (hrest : Ends rest) : readValue fuel (v.chars ++ rest) = some (v, rest) := by
  induction fuel generalizing v depth rest with
  | zero =>
      obtain ⟨c, cs, heq, -⟩ := exists_chars v
      rw [heq] at hfuel
      exact absurd hfuel (Nat.not_succ_le_zero _)
  | succ fuel ih =>
      cases v with
      | null => exact readValue_of_readLeaf (by simp [chars, readLeaf]) (by simp [chars]) _
      | bool b =>
          cases b <;>
            exact readValue_of_readLeaf (by simp [chars, readLeaf]) (by simp [chars]) _
      | int n => exact readValue_int (by simpa only [Writable] using h) hrest _
      | text s => exact readValue_text s rest _
      | list xs =>
          cases depth with
          | zero => exact absurd h (by simp [Writable])
          | succ depth =>
              have hitems : ∀ x ∈ xs, x.Writable depth := by simpa only [Writable] using h
              refine readValue_list (fun x hx ↦ readable_value fun rest hrest ↦ ?_) rest
              have hlt := length_item_lt hx
              exact ih (hitems x hx) (by omega) hrest
      | fields kvs =>
          cases depth with
          | zero => exact absurd h (by simp [Writable])
          | succ depth =>
              have hitems : ∀ kv ∈ kvs, kv.2.Writable depth := by simpa only [Writable] using h
              refine readValue_fields (fun kv hkv ↦ readable_member fun rest hrest ↦ ?_) rest
              have hlt := length_member_lt hkv
              exact ih (hitems kv hkv) (by omega) hrest
      | real | unreadable => exact absurd h (by simp [Writable])

theorem Writable.limit_eq (h : v.Writable depth) : v.limit depth = v := by
  induction depth generalizing v with
  | zero => cases v <;> first | rfl | exact absurd h (by simp [Writable])
  | succ depth ih =>
      cases v with
      | list xs =>
          have hitems : ∀ x ∈ xs, x.Writable depth := by simpa only [Writable] using h
          have hsame : xs.map (limit depth) = xs.map id :=
            List.map_congr_left fun x hx ↦ ih (hitems x hx)
          rw [limit, hsame, List.map_id]
      | fields kvs =>
          have hitems : ∀ kv ∈ kvs, kv.2.Writable depth := by simpa only [Writable] using h
          have hsame : kvs.map (fun kv ↦ (kv.1, kv.2.limit depth)) = kvs.map id :=
            List.map_congr_left fun kv hkv ↦ by rw [ih (hitems kv hkv)]; rfl
          rw [limit, hsame, List.map_id]
      | _ => rfl

theorem ofText?_render (h : v.Writable maxDepth) : ofText? v.render = some v := by
  have hread : readValue v.chars.length (v.chars ++ []) = some (v, []) :=
    h.readValue_eq (Nat.le_refl _) nofun
  rw [List.append_nil] at hread
  rw [ofText?, render, String.length_ofList, String.toList_ofList, hread]
  simp only [h.limit_eq]
  rfl

end Value

end ResourceKernel.Json
