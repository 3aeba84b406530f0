import Mathlib.Data.List.Nodup
import ResourceKernel.Proofs.Name.RoundTrip

/-!
# Bytes that read as names

What is read of bytes forces them: kind, length and content of every frame, and where the frames in
the content of a composite name end. Only a URI may be spelled in several ways. Bytes in which all
URIs are spelled as they are written are therefore what is written of the name that they read as,
and neither less nor more than these bytes is read.
-/

namespace ResourceKernel.Name

open Text

/-! ## Frames in bytes -/

/-- A frame is one of those that stand in a row at the head of the bytes, or is in the content of a
composite one. -/
inductive HasFrame (kind : NameKind) (content : List UInt8) : List UInt8 → Prop
  | head {rest : List UInt8} (hlen : content.length < UInt32.size) :
      HasFrame kind content (framed kind content ++ rest)
  | tail {other : NameKind} {c rest : List UInt8} (hlen : c.length < UInt32.size)
      (h : HasFrame kind content rest) : HasFrame kind content (framed other c ++ rest)
  | inside {c rest : List UInt8} (hlen : c.length < UInt32.size) (h : HasFrame kind content c) :
      HasFrame kind content (framed .composite c ++ rest)

/-- Every URI in the bytes is spelled as the URI that it reads as is written. -/
def WritesBack (data : List UInt8) : Prop :=
  ∀ raw u, HasFrame .uri (Utf8.encode raw) data → Uri.ofText raw = .ok u → u.text = raw

section

variable {kind other : NameKind} {content c data rest : List UInt8}

theorem not_hasFrame_nil : ¬HasFrame kind content [] := by
  generalize hdata : [] = data
  intro h
  cases h with
  | head => cases hdata
  | tail => cases hdata
  | inside => cases hdata

theorem hasFrame_append_iff (hlen : c.length < UInt32.size) :
    HasFrame kind content (framed other c ++ rest) ↔
      (kind = other ∧ content = c) ∨ HasFrame kind content rest ∨
        (other = .composite ∧ HasFrame kind content c) := by
  constructor
  · generalize hdata : framed other c ++ rest = data
    intro h
    cases h with
    | head hfirst =>
        obtain ⟨rfl, rfl, -⟩ := framed_append_inj hlen hfirst hdata
        exact Or.inl ⟨rfl, rfl⟩
    | tail hfirst h =>
        obtain ⟨-, -, rfl⟩ := framed_append_inj hlen hfirst hdata
        exact Or.inr (Or.inl h)
    | inside hfirst h =>
        obtain ⟨rfl, rfl, -⟩ := framed_append_inj hlen hfirst hdata
        exact Or.inr (Or.inr ⟨rfl, h⟩)
  · rintro (⟨rfl, rfl⟩ | h | ⟨rfl, h⟩)
    · exact .head hlen
    · exact .tail hlen h
    · exact .inside hlen h

theorem WritesBack.tail (hlen : c.length < UInt32.size)
    (h : WritesBack (framed other c ++ rest)) : WritesBack rest :=
  fun raw u huri ↦ h raw u (.tail hlen huri)

theorem WritesBack.inside (hlen : c.length < UInt32.size)
    (h : WritesBack (framed .composite c ++ rest)) : WritesBack c :=
  fun raw u huri ↦ h raw u (.inside hlen huri)

/-! ## What is read ends where its frame ends -/

theorem readFrame_eq_ok_iff :
    readFrame data = .ok (kind, c) ↔
      c.length < UInt32.size ∧ ∃ rest, data = framed kind c ++ rest := by
  constructor
  · intro h
    unfold readFrame at h
    split at h
    · cases h
    · next hlong =>
      cases data with
      | nil => cases h
      | cons code tail =>
          cases hcode : NameKind.ofCode? code with
          | none => simp [hcode] at h
          | some found =>
              simp only [hcode] at h
              split at h
              · next hcontent =>
                obtain ⟨rfl, rfl⟩ := Prod.mk.inj (Except.ok.inj h)
                have hfour : (tail.take 4).length = 4 := by
                  simp only [headerLength, List.length_cons, Nat.not_lt] at hlong
                  rw [List.length_take]
                  omega
                have hlength : BigEndian.decode (tail.take 4) < UInt32.size := by
                  have hlt := BigEndian.decode_lt (tail.take 4)
                  rwa [hfour, bound_four] at hlt
                have hheader : BigEndian.encode 4 (BigEndian.decode (tail.take 4)) =
                    tail.take 4 := by
                  have := BigEndian.encode_decode (tail.take 4)
                  rwa [hfour] at this
                refine ⟨by rwa [hcontent],
                  (tail.drop 4).drop (BigEndian.decode (tail.take 4)), ?_⟩
                rw [framed, hcontent, hheader, NameKind.code_of_ofCode? hcode, List.cons_append,
                  List.append_assoc, List.take_append_drop, List.take_append_drop]
              · cases h
  · rintro ⟨hlen, rest, rfl⟩
    exact readFrame_framed kind hlen rest

theorem readBelow_eq_ok_iff {levels count : Nat} {n : Name} :
    readBelow (levels + 1) data = .ok (n, count) ↔
      ∃ kind c rest, c.length < UInt32.size ∧ data = framed kind c ++ rest ∧
        ofContent levels kind c = .ok n ∧ count = (framed kind c).length := by
  rw [readBelow_succ]
  constructor
  · intro h
    cases hframe : readFrame data with
    | error e => simp [hframe] at h
    | ok frame =>
        obtain ⟨kind, c⟩ := frame
        obtain ⟨hlen, rest, hdata⟩ := readFrame_eq_ok_iff.mp hframe
        cases hname : ofContent levels kind c with
        | error e => simp [hframe, hname, Except.map] at h
        | ok m =>
            simp only [hframe, hname, Except.map, Except.ok.injEq, Prod.mk.injEq] at h
            obtain ⟨rfl, rfl⟩ := h
            exact ⟨kind, c, rest, hlen, hdata, hname, (length_framed kind c).symm⟩
  · rintro ⟨kind, c, rest, hlen, rfl, hname, rfl⟩
    simp only [readFrame_framed kind hlen rest, hname, Except.map, length_framed]

/-- The bytes that a name takes read as the name, whatever comes after them. -/
theorem readBelow_take_append {levels count : Nat} {n : Name}
    (h : readBelow levels data = .ok (n, count)) (rest : List UInt8) :
    count ≤ data.length ∧ readBelow levels (data.take count ++ rest) = .ok (n, count) := by
  cases levels with
  | zero => cases h
  | succ levels =>
      obtain ⟨kind, c, after, hlen, rfl, hname, rfl⟩ := readBelow_eq_ok_iff.mp h
      refine ⟨by simp, ?_⟩
      rw [List.take_left]
      exact readBelow_eq_ok_iff.mpr ⟨kind, c, rest, hlen, rfl, hname, rfl⟩

end

/-! ## What is read has been written -/

theorem encode_of_textOf {c : List UInt8} {s : String} (h : textOf c = .ok s) :
    Utf8.encode s = c := by
  unfold textOf at h
  cases hdecode : Utf8.decode c with
  | error fault => simp [hdecode] at h
  | ok found =>
      simp only [hdecode, Except.ok.injEq] at h
      exact h ▸ Utf8.encode_of_decode hdecode

theorem integerBytes_of_integerOf {c : List UInt8} {n : Name} (h : integerOf c = .ok n) :
    ∃ i, n = .integer i ∧ integerBytes i = c := by
  unfold integerOf at h
  split at h
  · next hlen =>
    refine ⟨_, (Except.ok.inj h).symm, ?_⟩
    have hlt : BigEndian.decode c < UInt64.size := by
      have := BigEndian.decode_lt c
      rwa [hlen] at this
    rw [integerBytes, UInt64.toUInt64_toInt64, UInt64.toNat_ofNat_of_lt' hlt, ← hlen]
    exact BigEndian.encode_decode c
  · cases h

theorem exists_of_uriOf {c : List UInt8} {n : Name} (h : uriOf c = .ok n) :
    ∃ raw u, Utf8.encode raw = c ∧ Uri.ofText raw = .ok u ∧ n = .uri u := by
  unfold uriOf at h
  cases htext : textOf c with
  | error e => simp [htext] at h
  | ok raw =>
      cases huri : Uri.ofText raw with
      | error fault => simp [htext, huri] at h
      | ok u =>
          simp only [htext, huri, Except.ok.injEq] at h
          exact ⟨raw, u, encode_of_textOf htext, huri, h.symm⟩

/-- Names that are read in a row have been written in a row, if each of them has been written. -/
theorem writeParts_of_readRow {read : List UInt8 → Except NameFault (Name × Nat)}
    {depth fuel : Nat} {c : List UInt8} {parts : List Name}
    (hread : ∀ data part count, read data = .ok (part, count) → WritesBack data →
      part.write depth = .ok (data.take count))
    (h : readRow read fuel c = .ok parts) (huris : WritesBack c) :
    writeParts depth parts = .ok c := by
  induction fuel generalizing c parts with
  | zero =>
      cases c with
      | nil =>
          obtain rfl := Except.ok.inj h
          rfl
      | cons b data => cases h
  | succ fuel ih =>
      cases c with
      | nil =>
          obtain rfl := Except.ok.inj h
          rfl
      | cons b data =>
          rw [readRow] at h
          cases hhead : read (b :: data) with
          | error e => simp [hhead] at h
          | ok head =>
              obtain ⟨part, count⟩ := head
              cases hrest : readRow read fuel ((b :: data).drop count) with
              | error e => simp [hhead, hrest] at h
              | ok more =>
                  simp only [hhead, hrest, Except.ok.injEq] at h
                  subst h
                  have hfirst := hread _ part count hhead huris
                  -- the first name is a frame, and the URIs after it are among all URIs
                  obtain ⟨-, content, -, hlen, hframe⟩ := write_eq_ok_iff.mp hfirst
                  have hlater : WritesBack ((b :: data).drop count) := by
                    rw [← List.take_append_drop count (b :: data), ← hframe] at huris
                    exact huris.tail hlen
                  exact writeParts_cons_eq_ok_iff.mpr
                    ⟨_, _, hfirst, ih hrest hlater, List.take_append_drop count (b :: data)⟩

/-- The content of a frame that reads as a name is that of the name. -/
theorem content_of_ofContent {levels depth : Nat} {kind : NameKind} {c rest : List UInt8}
    {n : Name} (hlen : c.length < UInt32.size)
    (hread : ∀ data part count, readBelow levels data = .ok (part, count) → WritesBack data →
      part.write (depth + 1) = .ok (data.take count))
    (h : ofContent levels kind c = .ok n) (huris : WritesBack (framed kind c ++ rest)) :
    n.kind = kind ∧ n.content depth = .ok c := by
  cases kind with
  | text =>
      cases htext : textOf c with
      | error e => simp [ofContent, htext, Except.map] at h
      | ok s =>
          simp only [ofContent, htext, Except.map, Except.ok.injEq] at h
          subst h
          exact ⟨rfl, congrArg Except.ok (encode_of_textOf htext)⟩
  | integer =>
      obtain ⟨i, rfl, hbytes⟩ := integerBytes_of_integerOf h
      exact ⟨rfl, congrArg Except.ok hbytes⟩
  | uri =>
      obtain ⟨raw, u, rfl, hu, rfl⟩ := exists_of_uriOf h
      have htext : u.text = raw := huris raw u (.head hlen) hu
      exact ⟨rfl, congrArg (fun s ↦ Except.ok (Utf8.encode s)) htext⟩
  | bytes =>
      obtain rfl := Except.ok.inj h
      exact ⟨rfl, rfl⟩
  | composite =>
      cases hrow : readRow (readBelow levels) c.length c with
      | error e => simp [ofContent, hrow, Except.map] at h
      | ok parts =>
          simp only [ofContent, hrow, Except.map, Except.ok.injEq] at h
          subst h
          exact ⟨rfl, writeParts_of_readRow hread hrow (huris.inside hlen)⟩

theorem write_of_readBelow {levels depth count : Nat} {data : List UInt8} {n : Name}
    (hlevels : depth + levels = maxDepth + 1) (h : readBelow levels data = .ok (n, count))
    (huris : WritesBack data) : n.write depth = .ok (data.take count) := by
  induction levels generalizing depth data n count with
  | zero => cases h
  | succ levels ih =>
      obtain ⟨kind, c, rest, hlen, rfl, hname, rfl⟩ := readBelow_eq_ok_iff.mp h
      have hread : ∀ data part count, readBelow levels data = .ok (part, count) →
          WritesBack data → part.write (depth + 1) = .ok (data.take count) :=
        fun data part count hpart ↦ ih (by omega) hpart
      obtain ⟨hkind, hcontent⟩ := content_of_ofContent hlen hread hname huris
      rw [List.take_left]
      exact write_eq_ok_iff.mpr ⟨by omega, c, hcontent, hlen, by rw [hkind]⟩

/-! ## All of the bytes -/

theorem ofBytes_eq_ok_iff {data : List UInt8} {n : Name} :
    ofBytes data = .ok n ↔ readBelow (maxDepth + 1) data = .ok (n, data.length) := by
  rw [ofBytes, read, Nat.sub_zero]
  cases readBelow (maxDepth + 1) data with
  | error e => simp
  | ok found =>
      obtain ⟨m, count⟩ := found
      by_cases hcount : count = data.length <;> simp [hcount]

/-- Bytes after those of a name are left over. -/
theorem ofBytes_append {data : List UInt8} {n : Name} (h : ofBytes data = .ok n)
    {rest : List UInt8} (hrest : rest ≠ []) :
    ofBytes (data ++ rest) = .error (.trailing rest.length) := by
  obtain ⟨-, hread⟩ := readBelow_take_append (ofBytes_eq_ok_iff.mp h) rest
  rw [List.take_length] at hread
  have hmore : data.length ≠ data.length + rest.length := by
    have := List.length_pos_iff.mpr hrest
    omega
  rw [ofBytes, read, Nat.sub_zero, hread]
  simp only [List.length_append, if_neg hmore, Nat.add_sub_cancel_left]

/-- Bytes that read as a name, and have all URIs spelled as they are written, are what is written of
the name. So nothing in it stands too deep, no other bytes with URIs spelled like this read as the
name, more bytes are refused for those that are left over, and fewer are refused. -/
theorem toBytes_of_ofBytes {data : List UInt8} {n : Name} (h : ofBytes data = .ok n)
    (huris : WritesBack data) :
    n.toBytes = .ok data ∧ (∀ part level, SitsAt part level n → level ≤ maxDepth) ∧
      (∀ other, WritesBack other → ofBytes other = .ok n → other = data) ∧
      (∀ rest, rest ≠ [] → ofBytes (data ++ rest) = .error (.trailing rest.length)) ∧
      ∀ front rest, front ++ rest = data → rest ≠ [] → ∀ m, ofBytes front ≠ .ok m := by
  have hwritten : ∀ bytes, WritesBack bytes → ofBytes bytes = .ok n → n.toBytes = .ok bytes := by
    intro bytes hbytes hread
    have hwrite := write_of_readBelow (Nat.zero_add _) (ofBytes_eq_ok_iff.mp hread) hbytes
    rwa [List.take_length] at hwrite
  have hdata := hwritten data huris h
  refine ⟨hdata, depth_le_iff.mp ?_, fun other hother hread ↦ ?_, fun rest ↦ ofBytes_append h, ?_⟩
  · have hdepth := (exists_write_iff.mp ⟨data, hdata⟩).1
    omega
  · exact Except.ok.inj ((hwritten other hother hread).symm.trans hdata)
  · rintro front rest rfl hrest m hfront
    rw [ofBytes_append hfront hrest] at h
    cases h

/-- A URI beside a composite name of no bytes and a number is read as it was written, and a byte
after them is left over. -/
theorem toBytes_of_nested :
    let data : List UInt8 := [5, 0, 0, 0, 37, 3, 0, 0, 0, 9, 104, 116, 116, 112, 58, 47, 47, 97, 47,
      5, 0, 0, 0, 18, 4, 0, 0, 0, 0, 2, 0, 0, 0, 8, 0, 0, 0, 0, 0, 0, 0, 7]
    let n : Name := .composite [.uri ⟨"http://a/"⟩, .composite [.bytes [], .integer 7]]
    ofBytes data = .ok n ∧ WritesBack data ∧ n.toBytes = .ok data ∧
      ofBytes (data ++ [0]) = .error (.trailing 1) := by
  intro data n
  have hframes : data = framed .composite (framed .uri (Utf8.encode "http://a/") ++
      (framed .composite (framed .bytes [] ++ (framed .integer (integerBytes 7) ++ [])) ++ [])) ++
        [] := by
    decide +kernel
  have huris : WritesBack data := by
    intro raw u hframe hu
    rw [hframes] at hframe
    simp (disch := decide +kernel) only [hasFrame_append_iff, not_hasFrame_nil, reduceCtorEq,
      false_and, true_and, false_or, or_false, and_false] at hframe
    obtain rfl := utf8_encode_inj hframe
    have hreads : Uri.ofText "http://a/" = .ok ⟨"http://a/"⟩ := by rfl
    rw [hreads] at hu
    exact congrArg Uri.text (Except.ok.inj hu).symm
  have hread : ofBytes data = .ok n := by decide +kernel
  obtain ⟨hwritten, -, -, hmore, -⟩ := toBytes_of_ofBytes hread huris
  exact ⟨hread, huris, hwritten, hmore [0] (by decide)⟩

end ResourceKernel.Name
