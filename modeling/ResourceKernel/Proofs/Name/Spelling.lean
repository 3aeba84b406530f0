import ResourceKernel.Proofs.Name.Canonical

/-!
# Names that are written as they were read

Reading takes a URI in many spellings, and writing has one of them. So what is read from bytes is
written as the same bytes exactly if all URIs there are spelled as they are written. How they are
spelled has no part in how deep a name is, which reading bounds as writing does.
-/

namespace ResourceKernel.Name

open Text

variable {levels depth fuel count : Nat} {kind : NameKind} {c data rest : List UInt8} {n : Name}
  {parts : List Name}

/-! ## What is read -/

theorem kind_of_ofContent (h : ofContent levels kind c = .ok n) : n.kind = kind := by
  cases kind with
  | text =>
      cases htext : textOf c with
      | error e => simp [ofContent, htext, Except.map] at h
      | ok s =>
          simp only [ofContent, htext, Except.map, Except.ok.injEq] at h
          exact h ▸ rfl
  | integer =>
      obtain ⟨i, rfl, -⟩ := integerBytes_of_integerOf h
      rfl
  | uri =>
      obtain ⟨-, u, -, -, rfl⟩ := exists_of_uriOf h
      rfl
  | bytes =>
      obtain rfl := Except.ok.inj h
      rfl
  | composite =>
      cases hrow : readRow (readBelow levels) c.length c with
      | error e => simp [ofContent, hrow, Except.map] at h
      | ok parts =>
          simp only [ofContent, hrow, Except.map, Except.ok.injEq] at h
          exact h ▸ rfl

/-! ## Names in a row -/

theorem readRow_cons_eq_ok_iff {read : List UInt8 → Except NameFault (Name × Nat)} {b : UInt8} :
    readRow read (fuel + 1) (b :: data) = .ok parts ↔
      ∃ first count more, read (b :: data) = .ok (first, count) ∧
        readRow read fuel ((b :: data).drop count) = .ok more ∧ first :: more = parts := by
  rw [readRow]
  cases read (b :: data) with
  | error e => simp
  | ok head =>
      obtain ⟨first, count⟩ := head
      cases hmore : readRow read fuel ((b :: data).drop count) <;> simp [hmore]

/-- The bytes are those of the names, one after another. -/
inductive ReadsInRow (read : List UInt8 → Except NameFault (Name × Nat)) :
    List UInt8 → List Name → Prop
  | nil : ReadsInRow read [] []
  | cons {data : List UInt8} {first : Name} {count : Nat} {more : List Name}
      (hfirst : read data = .ok (first, count)) (hmore : ReadsInRow read (data.drop count) more) :
      ReadsInRow read data (first :: more)

theorem readsInRow_of_readRow {read : List UInt8 → Except NameFault (Name × Nat)}
    (h : readRow read fuel c = .ok parts) : ReadsInRow read c parts := by
  induction fuel generalizing c parts with
  | zero =>
      cases c with
      | nil => exact Except.ok.inj h ▸ .nil
      | cons b data => cases h
  | succ fuel ih =>
      cases c with
      | nil => exact Except.ok.inj h ▸ .nil
      | cons b data =>
          obtain ⟨first, count, more, hfirst, hmore, rfl⟩ := readRow_cons_eq_ok_iff.mp h
          exact .cons hfirst (ih hmore)

theorem readsInRow_of_ofContent (h : ofContent levels kind c = .ok (.composite parts)) :
    ReadsInRow (readBelow levels) c parts := by
  obtain rfl : .composite = kind := kind_of_ofContent h
  cases hrow : readRow (readBelow levels) c.length c with
  | error e => simp [ofContent, hrow, Except.map] at h
  | ok found =>
      simp only [ofContent, hrow, Except.map, Except.ok.injEq, Name.composite.injEq] at h
      exact readsInRow_of_readRow (h ▸ hrow)

/-! ## Depth -/

theorem ReadsInRow.exists_read {read : List UInt8 → Except NameFault (Name × Nat)}
    (h : ReadsInRow read c parts) {part : Name} (hmem : part ∈ parts) :
    ∃ data count, read data = .ok (part, count) := by
  induction h with
  | nil => cases hmem
  | cons hfirst _ ih =>
      obtain rfl | hmem := List.mem_cons.mp hmem
      · exact ⟨_, _, hfirst⟩
      · exact ih hmem

/-- A name has fewer composite levels than reading has allowed it. -/
theorem depth_lt_of_readBelow (h : readBelow levels data = .ok (n, count)) : n.depth < levels := by
  induction levels generalizing data n count with
  | zero => cases h
  | succ levels ih =>
      obtain ⟨kind, c, rest, -, -, hname, -⟩ := readBelow_eq_ok_iff.mp h
      cases n with
      | composite parts =>
          have hrow := readsInRow_of_ofContent hname
          have hbelow : depthBelow parts ≤ levels := depthBelow_le_iff.mpr fun part hmem ↦ by
            obtain ⟨data, count, hpart⟩ := hrow.exists_read hmem
            exact ih hpart
          rw [depth]
          omega
      | _ => exact Nat.succ_pos levels

/-- A name that has been read can be written unless its content has become too long. -/
theorem exists_toBytes_iff_of_ofBytes (h : ofBytes data = .ok n) :
    (∃ bytes, n.toBytes = .ok bytes) ↔ n.contentLength < UInt32.size := by
  have hdepth : n.depth < maxDepth + 1 := depth_lt_of_readBelow (ofBytes_eq_ok_iff.mp h)
  have hwrite : (∃ bytes, n.write 0 = .ok bytes) ↔
      0 + n.depth ≤ maxDepth ∧ n.contentLength < UInt32.size := exists_write_iff
  rwa [Nat.zero_add, and_iff_right (Nat.le_of_lt_succ hdepth)] at hwrite

/-! ## Spelling -/

theorem writesBack_nil : WritesBack [] := fun _ _ hframe ↦ absurd hframe not_hasFrame_nil

theorem writesBack_framed_append_iff (hlen : c.length < UInt32.size) :
    WritesBack (framed kind c ++ rest) ↔
      (kind = .uri → ∀ raw u, Utf8.encode raw = c → Uri.ofText raw = .ok u → u.text = raw) ∧
        (kind = .composite → WritesBack c) ∧ WritesBack rest := by
  constructor
  · intro h
    refine ⟨?_, ?_, h.tail hlen⟩
    · rintro rfl raw u rfl hu
      exact h raw u (.head hlen) hu
    · rintro rfl
      exact h.inside hlen
  · rintro ⟨hhead, hinside, htail⟩ raw u hframe hu
    obtain ⟨rfl, hraw⟩ | hlater | ⟨rfl, hinner⟩ := (hasFrame_append_iff hlen).mp hframe
    · exact hhead rfl raw u hraw hu
    · exact htail raw u hlater hu
    · exact hinside rfl raw u hinner hu

/-- The bytes of a name and those after it are spelled independently. -/
theorem writesBack_iff_take_drop (h : readBelow levels data = .ok (n, count)) :
    WritesBack data ↔ WritesBack (data.take count) ∧ WritesBack (data.drop count) := by
  cases levels with
  | zero => cases h
  | succ levels =>
      obtain ⟨kind, c, rest, hlen, rfl, -, rfl⟩ := readBelow_eq_ok_iff.mp h
      rw [List.take_left, List.drop_left, ← List.append_nil (framed kind c), List.append_assoc,
        List.nil_append, writesBack_framed_append_iff hlen, writesBack_framed_append_iff hlen]
      simp only [writesBack_nil, and_true, and_assoc]

/-- What is written of the name that is read first takes as many bytes as have been read. -/
theorem take_eq_of_write (h : readBelow levels data = .ok (n, count)) {head tail : List UInt8}
    (hwrite : n.write depth = .ok head) (hdata : head ++ tail = data) :
    data.take count = head ∧ data.drop count = tail := by
  cases levels with
  | zero => cases h
  | succ levels =>
      obtain ⟨kind, c, rest, hlen, rfl, -, rfl⟩ := readBelow_eq_ok_iff.mp h
      obtain ⟨-, c', -, hlen', rfl⟩ := write_eq_ok_iff.mp hwrite
      obtain ⟨hkind, rfl, rfl⟩ := framed_append_inj hlen' hlen hdata
      rw [hkind]
      exact ⟨List.take_left, List.drop_left⟩

/-- Names in a row that are written as they were read have all URIs spelled as they are written, if
this holds of each of them. -/
theorem writesBack_of_writeParts
    (hpart : ∀ data part count, readBelow levels data = .ok (part, count) →
      part.write depth = .ok (data.take count) → WritesBack (data.take count))
    (hread : ReadsInRow (readBelow levels) c parts)
    (hwrite : writeParts depth parts = .ok c) : WritesBack c := by
  induction hread with
  | nil => exact writesBack_nil
  | cons hfirst _ ih =>
      obtain ⟨head, tail, hhead, htail, hdata⟩ := writeParts_cons_eq_ok_iff.mp hwrite
      obtain ⟨rfl, rfl⟩ := take_eq_of_write hfirst hhead hdata
      exact (writesBack_iff_take_drop hfirst).mpr ⟨hpart _ _ _ hfirst hhead, ih htail⟩

/-- A name that is written as it was read has all URIs spelled as they are written. -/
theorem writesBack_of_write (h : readBelow levels data = .ok (n, count))
    (hwrite : n.write depth = .ok (data.take count)) : WritesBack (data.take count) := by
  induction levels generalizing depth data n count with
  | zero => cases h
  | succ levels ih =>
      obtain ⟨kind, c, rest, hlen, rfl, hname, rfl⟩ := readBelow_eq_ok_iff.mp h
      rw [List.take_left] at hwrite ⊢
      obtain ⟨-, c', hcontent, hlen', hframed⟩ := write_eq_ok_iff.mp hwrite
      obtain ⟨-, rfl, -⟩ := framed_append_inj hlen' hlen (congrArg (· ++ []) hframed)
      rw [← List.append_nil (framed kind c')]
      refine (writesBack_framed_append_iff hlen).mpr ⟨?_, ?_, writesBack_nil⟩
      · rintro rfl raw u hraw hu
        obtain ⟨raw', u', hraw', hu', rfl⟩ := exists_of_uriOf hname
        obtain rfl := utf8_encode_inj (hraw.trans hraw'.symm)
        obtain rfl := Except.ok.inj (hu.symm.trans hu')
        exact utf8_encode_inj ((Except.ok.inj hcontent).trans hraw.symm)
      · rintro rfl
        cases n with
        | composite parts =>
            exact writesBack_of_writeParts (fun _ _ _ hpart ↦ ih hpart)
              (readsInRow_of_ofContent hname) hcontent
        | _ => cases kind_of_ofContent hname

/-- Names in a row have all URIs spelled as they are written, if this holds of each of them. -/
theorem writesBack_of_readsInRow
    (hpart : ∀ data part count, part ∈ parts → readBelow levels data = .ok (part, count) →
      WritesBack (data.take count))
    (hread : ReadsInRow (readBelow levels) c parts) : WritesBack c := by
  induction hread with
  | nil => exact writesBack_nil
  | @cons _ first _ _ hfirst _ ih =>
      have hlater := ih fun data part count hmem ↦
        hpart data part count (List.mem_cons_of_mem first hmem)
      have hhere := hpart _ first _ List.mem_cons_self hfirst
      exact (writesBack_iff_take_drop hfirst).mpr ⟨hhere, hlater⟩

/-- Whatever is not spelled as it is written in a name is a URI. -/
theorem writesBack_of_readBelow (h : readBelow levels data = .ok (n, count))
    (hnone : ∀ u level, ¬SitsAt (.uri u) level n) : WritesBack (data.take count) := by
  induction levels generalizing data n count with
  | zero => cases h
  | succ levels ih =>
      obtain ⟨kind, c, rest, hlen, rfl, hname, rfl⟩ := readBelow_eq_ok_iff.mp h
      rw [List.take_left, ← List.append_nil (framed kind c)]
      refine (writesBack_framed_append_iff hlen).mpr ⟨?_, ?_, writesBack_nil⟩
      · rintro rfl
        obtain ⟨-, u, -, -, rfl⟩ := exists_of_uriOf hname
        exact absurd .here (hnone u 0)
      · rintro rfl
        cases n with
        | composite parts =>
            have hparts : ∀ part ∈ parts, ∀ u level, ¬SitsAt (.uri u) level part :=
              fun part hmem u level hsits ↦ hnone u (level + 1) (.inside hmem hsits)
            exact writesBack_of_readsInRow (fun _ part _ hmem hpart ↦ ih hpart (hparts part hmem))
              (readsInRow_of_ofContent hname)
        | _ => cases kind_of_ofContent hname

/-- What is read of bytes is written as the same bytes exactly if all URIs there are spelled as they
are written. -/
theorem toBytes_eq_ok_iff_writesBack (h : ofBytes data = .ok n) :
    n.toBytes = .ok data ↔ WritesBack data := by
  have hread := ofBytes_eq_ok_iff.mp h
  constructor
  · intro hwrite
    have hfront : n.write 0 = .ok (data.take data.length) := by rwa [List.take_length]
    have hback := writesBack_of_write hread hfront
    rwa [List.take_length] at hback
  · intro hback
    have hwrite := write_of_readBelow (Nat.zero_add _) hread hback
    rwa [List.take_length] at hwrite

theorem writesBack_of_ofBytes (h : ofBytes data = .ok n)
    (hnone : ∀ u level, ¬SitsAt (.uri u) level n) : WritesBack data := by
  have hback := writesBack_of_readBelow (ofBytes_eq_ok_iff.mp h) hnone
  rwa [List.take_length] at hback

end ResourceKernel.Name
