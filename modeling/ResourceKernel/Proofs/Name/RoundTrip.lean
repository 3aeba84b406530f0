import ResourceKernel.Proofs.Name.Extent

/-!
# Written names read back

What is written of a name tells where it ends. So the name can be read with anything after it,
and names that are written alike are the same.
-/

namespace ResourceKernel.Name

open Text

/-! ## Frames -/

theorem bound_four : BigEndian.bound 4 = UInt32.size := rfl

theorem readFrame_framed (kind : NameKind) {c : List UInt8} (hlen : c.length < UInt32.size)
    (rest : List UInt8) : readFrame (framed kind c ++ rest) = .ok (kind, c) := by
  have hlong : ¬(framed kind c ++ rest).length < headerLength := by
    rw [List.length_append, length_framed]
    omega
  have htake : (BigEndian.encode 4 c.length ++ c ++ rest).take 4 =
      BigEndian.encode 4 c.length := by
    rw [List.append_assoc, List.take_left' (BigEndian.length_encode 4 c.length)]
  have hdrop : (BigEndian.encode 4 c.length ++ c ++ rest).drop 4 = c ++ rest := by
    rw [List.append_assoc, List.drop_left' (BigEndian.length_encode 4 c.length)]
  simp only [readFrame, if_neg hlong]
  simp only [framed, List.cons_append, NameKind.ofCode?_code, htake, hdrop,
    BigEndian.decode_encode (bound_four ▸ hlen), List.take_left, if_true]

/-- A frame tells its kind, its content and where it ends. -/
theorem framed_append_inj {kind kind' : NameKind} {c c' rest rest' : List UInt8}
    (hlen : c.length < UInt32.size) (hlen' : c'.length < UInt32.size)
    (h : framed kind c ++ rest = framed kind' c' ++ rest') :
    kind = kind' ∧ c = c' ∧ rest = rest' := by
  have hread : (kind, c) = (kind', c') := by
    have := (readFrame_framed kind hlen rest).symm.trans
      (h ▸ readFrame_framed kind' hlen' rest')
    exact Except.ok.inj this
  obtain ⟨rfl, rfl⟩ := Prod.mk.inj hread
  exact ⟨rfl, rfl, List.append_cancel_left h⟩

/-! ## Equal bytes, equal names -/

theorem utf8_encode_inj {s t : String} (h : Utf8.encode s = Utf8.encode t) : s = t :=
  Except.ok.inj ((Utf8.decode_encode s).symm.trans (h ▸ Utf8.decode_encode t))

theorem integerOf_integerBytes (n : Int64) : integerOf (integerBytes n) = .ok (.integer n) := by
  have hlt : n.toUInt64.toNat < BigEndian.bound 8 := n.toUInt64.toNat_lt
  have hlen : (integerBytes n).length = 8 := BigEndian.length_encode 8 _
  simp only [integerOf, if_pos hlen]
  rw [integerBytes, BigEndian.decode_encode hlt, UInt64.ofNat_toNat, Int64.toInt64_toUInt64]

theorem integerBytes_inj {m n : Int64} (h : integerBytes m = integerBytes n) : m = n := by
  have := (integerOf_integerBytes m).symm.trans (h ▸ integerOf_integerBytes n)
  exact Name.integer.inj (Except.ok.inj this)

theorem writeParts_inj {parts parts' : List Name} {depth : Nat} {c : List UInt8}
    (hpart : ∀ part ∈ parts, ∀ other bs bs' rest rest', part.write depth = .ok bs →
      other.write depth = .ok bs' → bs ++ rest = bs' ++ rest' → part = other ∧ rest = rest')
    (h : writeParts depth parts = .ok c) (h' : writeParts depth parts' = .ok c) :
    parts = parts' := by
  induction parts generalizing parts' c with
  | nil =>
      cases parts' with
      | nil => rfl
      | cons other rest' =>
          obtain ⟨head, tail, hhead, -, hc⟩ := writeParts_cons_eq_ok_iff.mp h'
          obtain rfl : [] = c := Except.ok.inj h
          have hlen := length_write hhead
          rw [(List.append_eq_nil_iff.mp hc).1, headerLength, List.length_nil] at hlen
          omega
  | cons part rest ih =>
      obtain ⟨head, tail, hhead, htail, rfl⟩ := writeParts_cons_eq_ok_iff.mp h
      obtain ⟨hfirst, hrest⟩ := List.forall_mem_cons.mp hpart
      cases parts' with
      | nil =>
          have hnil : [] = head ++ tail := Except.ok.inj h'
          have hlen := length_write hhead
          rw [(List.append_eq_nil_iff.mp hnil.symm).1, headerLength, List.length_nil] at hlen
          omega
      | cons other rest' =>
          obtain ⟨head', tail', hhead', htail', hc⟩ := writeParts_cons_eq_ok_iff.mp h'
          obtain ⟨rfl, rfl⟩ := hfirst other head head' tail tail' hhead hhead' hc.symm
          rw [ih hrest htail htail']

theorem write_append_inj_of_content {n other : Name} {depth : Nat}
    {bs bs' rest rest' : List UInt8}
    (hcontent : ∀ c, n.kind = other.kind → n.content depth = .ok c →
      other.content depth = .ok c → n = other)
    (h : n.write depth = .ok bs) (h' : other.write depth = .ok bs')
    (heq : bs ++ rest = bs' ++ rest') : n = other ∧ rest = rest' := by
  obtain ⟨-, c, hc, hlen, rfl⟩ := write_eq_ok_iff.mp h
  obtain ⟨-, c', hc', hlen', rfl⟩ := write_eq_ok_iff.mp h'
  obtain ⟨hkind, rfl, hrest⟩ := framed_append_inj hlen hlen' heq
  exact ⟨hcontent c hkind hc hc', hrest⟩

/-- No name is written as the beginning of another, and no two names are written alike. -/
theorem write_append_inj {n other : Name} {depth : Nat} {bs bs' rest rest' : List UInt8}
    (h : n.write depth = .ok bs) (h' : other.write depth = .ok bs')
    (heq : bs ++ rest = bs' ++ rest') : n = other ∧ rest = rest' := by
  induction n using inductionOn generalizing depth other bs bs' rest rest' with
  | text s =>
      refine write_append_inj_of_content (fun c hkind hc hc' ↦ ?_) h h' heq
      cases other <;> simp only [kind, reduceCtorEq] at hkind
      rw [utf8_encode_inj (Except.ok.inj (hc.trans hc'.symm))]
  | integer i =>
      refine write_append_inj_of_content (fun c hkind hc hc' ↦ ?_) h h' heq
      cases other <;> simp only [kind, reduceCtorEq] at hkind
      rw [integerBytes_inj (Except.ok.inj (hc.trans hc'.symm))]
  | uri u =>
      refine write_append_inj_of_content (fun c hkind hc hc' ↦ ?_) h h' heq
      cases other <;> simp only [kind, reduceCtorEq] at hkind
      have htext := utf8_encode_inj (Except.ok.inj (hc.trans hc'.symm))
      rw [Uri.ext htext]
  | bytes bs =>
      refine write_append_inj_of_content (fun c hkind hc hc' ↦ ?_) h h' heq
      cases other <;> simp only [kind, reduceCtorEq] at hkind
      rw [Except.ok.inj (hc.trans hc'.symm)]
  | composite parts ih =>
      refine write_append_inj_of_content (fun c hkind hc hc' ↦ ?_) h h' heq
      cases other <;> simp only [kind, reduceCtorEq] at hkind
      have hparts := writeParts_inj (fun part hmem _ _ _ _ _ ↦ ih part hmem) hc hc'
      rw [hparts]

/-! ## Reading what was written -/

/-- Every URI in the name is the one that its own text reads as. -/
def ReadsBack (n : Name) : Prop :=
  ∀ u level, SitsAt (.uri u) level n → Uri.ofText u.text = .ok u

theorem ReadsBack.part {parts : List Name} (h : ReadsBack (.composite parts)) :
    ∀ part ∈ parts, ReadsBack part :=
  fun _ hmem u level hsits ↦ h u (level + 1) (.inside hmem hsits)

theorem readRow_writeParts {read : List UInt8 → Except NameFault (Name × Nat)}
    {parts : List Name} {depth fuel : Nat} {c : List UInt8}
    (hread : ∀ part ∈ parts, ∀ bs rest, part.write depth = .ok bs →
      read (bs ++ rest) = .ok (part, bs.length))
    (h : writeParts depth parts = .ok c) (hfuel : c.length ≤ fuel) :
    readRow read fuel c = .ok parts := by
  induction parts generalizing fuel c with
  | nil =>
      obtain rfl : [] = c := Except.ok.inj h
      cases fuel <;> rfl
  | cons part rest ih =>
      obtain ⟨head, tail, hhead, htail, rfl⟩ := writeParts_cons_eq_ok_iff.mp h
      obtain ⟨hfirst, hrest⟩ := List.forall_mem_cons.mp hread
      have hlen := length_write hhead
      rw [headerLength] at hlen
      rw [List.length_append] at hfuel
      -- the first name takes some fuel, since it is not empty
      obtain ⟨fuel, rfl⟩ : ∃ k, fuel = k + 1 := ⟨fuel - 1, by omega⟩
      obtain ⟨b, data, hdata⟩ : ∃ b data, head ++ tail = b :: data := by
        cases hht : head ++ tail with
        | nil =>
            rw [(List.append_eq_nil_iff.mp hht).1, List.length_nil] at hlen
            omega
        | cons b data => exact ⟨b, data, rfl⟩
      have hhere : read (b :: data) = .ok (part, head.length) := hdata ▸ hfirst head tail hhead
      have hdrop : (b :: data).drop head.length = tail := by rw [← hdata, List.drop_left]
      simp only [hdata, readRow, hhere, hdrop, ih hrest htail (by omega : tail.length ≤ fuel)]

/-- The name of a kind and with a content, below which so many levels are left. -/
def ofContent (levels : Nat) (kind : NameKind) (c : List UInt8) : Except NameFault Name :=
  match kind with
  | .text => (textOf c).map .text
  | .integer => integerOf c
  | .uri => uriOf c
  | .bytes => .ok (.bytes c)
  | .composite => (readRow (readBelow levels) c.length c).map .composite

theorem readBelow_succ (levels : Nat) (data : List UInt8) :
    readBelow (levels + 1) data =
      match readFrame data with
      | .error e => .error e
      | .ok (kind, c) => (ofContent levels kind c).map fun n ↦ (n, headerLength + c.length) := rfl

theorem textOf_encode (s : String) : textOf (Utf8.encode s) = .ok s := by
  simp [textOf, Utf8.decode_encode]

theorem read_write_of_content {n : Name} {depth : Nat} {bs : List UInt8}
    (hname : ∀ c, depth ≤ maxDepth → n.content depth = .ok c →
      ofContent (maxDepth - depth) n.kind c = .ok n)
    (h : n.write depth = .ok bs) (rest : List UInt8) :
    read depth (bs ++ rest) = .ok (n, bs.length) := by
  obtain ⟨hd, c, hc, hlen, rfl⟩ := write_eq_ok_iff.mp h
  have hlevels : maxDepth + 1 - depth = maxDepth - depth + 1 := by omega
  rw [read, hlevels, readBelow_succ, readFrame_framed _ hlen, length_framed]
  simp only [hname c hd hc, Except.map]

/-- The bytes of a name read back as the name, whatever comes after them. -/
theorem read_write {n : Name} {depth : Nat} {bs : List UInt8} (h : n.write depth = .ok bs)
    (huris : n.ReadsBack) (rest : List UInt8) : read depth (bs ++ rest) = .ok (n, bs.length) := by
  induction n using inductionOn generalizing depth bs rest with
  | text s =>
      refine read_write_of_content (fun c _ hc ↦ ?_) h rest
      obtain rfl : Utf8.encode s = c := Except.ok.inj hc
      simp only [kind, ofContent, textOf_encode, Except.map]
  | integer i =>
      refine read_write_of_content (fun c _ hc ↦ ?_) h rest
      obtain rfl : integerBytes i = c := Except.ok.inj hc
      exact integerOf_integerBytes i
  | uri u =>
      refine read_write_of_content (fun c _ hc ↦ ?_) h rest
      obtain rfl : Utf8.encode u.text = c := Except.ok.inj hc
      simp only [kind, ofContent, uriOf, textOf_encode, huris u 0 .here]
  | bytes data =>
      refine read_write_of_content (fun c _ hc ↦ ?_) h rest
      obtain rfl : data = c := Except.ok.inj hc
      rfl
  | composite parts ih =>
      refine read_write_of_content (fun c hd hc ↦ ?_) h rest
      -- the parts stand one level deeper, and as many levels are left below them
      have hlevels : maxDepth - depth = maxDepth + 1 - (depth + 1) := by omega
      have hrow : readRow (readBelow (maxDepth - depth)) c.length c = .ok parts :=
        readRow_writeParts (fun part hmem bs rest hbs ↦
          hlevels ▸ ih part hmem hbs (huris.part part hmem) rest) hc (Nat.le_refl _)
      simp only [kind, ofContent, hrow, Except.map]

theorem ofBytes_toBytes {n : Name} {bs : List UInt8} (h : n.toBytes = .ok bs)
    (huris : n.ReadsBack) : ofBytes bs = .ok n := by
  have hread := read_write h huris []
  rw [List.append_nil] at hread
  simp only [ofBytes, hread, if_true]

theorem toBytes_inj {n other : Name} {bs : List UInt8} (h : n.toBytes = .ok bs)
    (h' : other.toBytes = .ok bs) : n = other := by
  have heq : bs ++ [] = bs ++ [] := rfl
  exact (write_append_inj h h' heq).1

end ResourceKernel.Name
