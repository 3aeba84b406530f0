import ResourceKernel.Proofs.Name.Spelling

/-!
# Where names end

The name that is read at the head of bytes takes a header of five bytes at least, and is read again
from the bytes that it takes, whatever comes after them. So the content of a composite name is gone
through from offset to offset, each further on than the one before, and comes apart into the bytes
of names in one way only.

`readWithin` goes by such offsets and checks every slice that it takes of the bytes. It agrees with
`read` on all bytes: no slice ever lies outside of them, and no offset ever stands still.
-/

namespace ResourceKernel.Name

open Text

variable {levels depth fuel count offset next turns : Nat} {content data : List UInt8}
  {n part : Name} {parts : List Name}

/-! ## Reading with checked slices -/

/-- The bytes from `start` up to `stop`, if both places are in the bytes and in order. -/
def slice? (data : List UInt8) (start stop : Nat) : Option (List UInt8) :=
  if start ≤ stop ∧ stop ≤ data.length then some ((data.drop start).take (stop - start)) else none

/-- The kind and content of the frame at the head of the bytes, and the place where it ends. -/
def frameWithin (data : List UInt8) : Option (Except NameFault (NameKind × List UInt8 × Nat)) :=
  if data.length < headerLength then some (.error .truncatedHeader)
  else do
    let code ← data[0]?
    match NameKind.ofCode? code with
    | none => some (.error (.unknownKind code))
    | some kind =>
        let length ← slice? data 1 headerLength
        let stop := headerLength + BigEndian.decode length
        if stop ≤ data.length then
          let content ← slice? data headerLength stop
          some (.ok (kind, content, stop))
        else some (.error .truncatedContent)

/-- The name that is read at an offset in the content, and the offset after it. -/
def turnWithin (read : List UInt8 → Option (Except NameFault (Name × Nat))) (content : List UInt8)
    (offset : Nat) : Option (Except NameFault (Name × Nat)) := do
  let rest ← slice? content offset content.length
  let found ← read rest
  some (found.map fun (part, count) ↦ (part, offset + count))

/-- The names in the content from an offset on. There is no result if the offset stands still, since
the same name would be read again and again. -/
def rowWithin (read : List UInt8 → Option (Except NameFault (Name × Nat))) (content : List UInt8)
    (offset : Nat) : Option (Except NameFault (List Name)) :=
  if offset < content.length then
    match turnWithin read content offset with
    | none => none
    | some (.error e) => some (.error e)
    | some (.ok (part, next)) =>
        if offset < next then (rowWithin read content next).map (·.map (part :: ·)) else none
  else some (.ok [])
termination_by content.length - offset

/-- The name at the head of the bytes, `depth` levels deep, and the place where it ends. There is no
result if a slice lies outside of the bytes. -/
def readWithin (depth : Nat) (data : List UInt8) : Option (Except NameFault (Name × Nat)) :=
  if maxDepth < depth then some (.error .tooDeep)
  else
    match frameWithin data with
    | none => none
    | some (.error e) => some (.error e)
    | some (.ok (kind, content, stop)) =>
        let name : Option (Except NameFault Name) :=
          match kind with
          | .text => some ((textOf content).map .text)
          | .integer => some (integerOf content)
          | .uri => some (uriOf content)
          | .bytes => some (.ok (.bytes content))
          | .composite =>
              (rowWithin (fun rest ↦ readWithin (depth + 1) rest) content 0).map (·.map .composite)
        name.map (·.map fun n ↦ (n, stop))
termination_by maxDepth + 1 - depth

theorem slice?_of_le {start stop : Nat} (hstart : start ≤ stop) (hstop : stop ≤ data.length) :
    slice? data start stop = some ((data.drop start).take (stop - start)) :=
  if_pos ⟨hstart, hstop⟩

theorem slice?_to_end (h : offset ≤ data.length) :
    slice? data offset data.length = some (data.drop offset) := by
  rw [slice?_of_le h (Nat.le_refl _), ← List.length_drop, List.take_length]

theorem frameWithin_eq (data : List UInt8) :
    frameWithin data =
      some ((readFrame data).map fun (kind, c) ↦ (kind, c, headerLength + c.length)) := by
  unfold frameWithin readFrame
  split
  · rfl
  · next hlong =>
    cases data with
    | nil => exact absurd (Nat.succ_pos 4) hlong
    | cons code rest =>
        have hheader : headerLength ≤ (code :: rest).length := Nat.le_of_not_lt hlong
        cases hcode : NameKind.ofCode? code with
        | none => simp [hcode, Except.map]
        | some kind =>
            have hlength : slice? (code :: rest) 1 headerLength = some (rest.take 4) :=
              slice?_of_le (by decide) hheader
            obtain ⟨length, hdecode⟩ : ∃ length, BigEndian.decode (rest.take 4) = length :=
              ⟨_, rfl⟩
            have hwhole : headerLength + length ≤ (code :: rest).length ↔
                ((rest.drop 4).take length).length = length := by
              simp only [headerLength, List.length_cons, List.length_take, List.length_drop]
                at hheader ⊢
              omega
            by_cases hstop : headerLength + length ≤ (code :: rest).length
            · have hcontent : slice? (code :: rest) headerLength (headerLength + length) =
                  some ((rest.drop 4).take length) := by
                rw [slice?_of_le (Nat.le_add_right _ _) hstop, Nat.add_sub_cancel_left]
                rfl
              simp only [List.getElem?_cons_zero, Option.bind_eq_bind, Option.bind_some, hcode,
                hlength, hdecode, hcontent, if_pos hstop, hwhole.mp hstop, if_true, Except.map]
            · simp only [List.getElem?_cons_zero, Option.bind_eq_bind, Option.bind_some, hcode,
                hlength, hdecode, if_neg hstop, if_neg (mt hwhole.mpr hstop), Except.map]

/-! ## How much is read -/

/-- A name takes a header at least, and no more bytes than there are. -/
theorem count_bounds_of_readBelow (h : readBelow levels data = .ok (n, count)) :
    headerLength ≤ count ∧ count ≤ data.length := by
  refine ⟨?_, (readBelow_take_append h []).1⟩
  cases levels with
  | zero => cases h
  | succ levels =>
      obtain ⟨kind, c, rest, -, -, -, rfl⟩ := readBelow_eq_ok_iff.mp h
      rw [length_framed]
      exact Nat.le_add_right _ _

/-! ## Both readers agree -/

theorem readRow_nil {read : List UInt8 → Except NameFault (Name × Nat)} :
    readRow read fuel [] = .ok [] := by
  cases fuel <;> rfl

theorem turnWithin_eq {read : List UInt8 → Except NameFault (Name × Nat)}
    {checked : List UInt8 → Option (Except NameFault (Name × Nat))}
    (hread : ∀ data, checked data = some (read data)) (hoffset : offset ≤ content.length) :
    turnWithin checked content offset =
      some ((read (content.drop offset)).map fun (part, count) ↦ (part, offset + count)) := by
  simp [turnWithin, slice?_to_end hoffset, hread]

theorem rowWithin_eq {read : List UInt8 → Except NameFault (Name × Nat)}
    {checked : List UInt8 → Option (Except NameFault (Name × Nat))}
    (hread : ∀ data, checked data = some (read data))
    (hcount : ∀ data n count, read data = .ok (n, count) → 0 < count ∧ count ≤ data.length)
    (hoffset : offset ≤ content.length) (hfuel : content.length - offset ≤ fuel) :
    rowWithin checked content offset = some (readRow read fuel (content.drop offset)) := by
  induction fuel generalizing offset with
  | zero =>
      have hend : content.length ≤ offset := by omega
      rw [rowWithin, if_neg (Nat.not_lt.mpr hend), List.drop_of_length_le hend, readRow_nil]
  | succ fuel ih =>
      by_cases hmore : offset < content.length
      · obtain ⟨b, rest, hrest⟩ : ∃ b rest, content.drop offset = b :: rest :=
          List.exists_cons_of_ne_nil (by simpa using hmore)
        rw [rowWithin, if_pos hmore, turnWithin_eq hread hoffset, hrest, readRow]
        cases hfirst : read (b :: rest) with
        | error e => rfl
        | ok found =>
            obtain ⟨part, count⟩ := found
            obtain ⟨hpos, hle⟩ := hcount _ _ _ hfirst
            rw [← hrest, List.length_drop] at hle
            -- a turn uses up a byte at least, so the fuel outlasts the content
            have hlater := ih (by omega : offset + count ≤ content.length) (by omega)
            rw [← List.drop_drop, hrest] at hlater
            have hon : offset < offset + count := by omega
            simp only [Except.map, if_pos hon, hlater, Option.map_some]
            cases readRow read fuel ((b :: rest).drop count) <;> rfl
      · have hend : content.length ≤ offset := Nat.not_lt.mp hmore
        rw [rowWithin, if_neg hmore, List.drop_of_length_le hend, readRow_nil]

/-- No slice lies outside of the bytes, and no offset stands still, whatever the bytes are. -/
theorem readWithin_eq (depth : Nat) (data : List UInt8) :
    readWithin depth data = some (read depth data) := by
  rw [read]
  induction hlevels : maxDepth + 1 - depth generalizing depth data with
  | zero =>
      have hdeep : maxDepth < depth := by omega
      rw [readWithin, if_pos hdeep]
      rfl
  | succ levels ih =>
      have hdeep : ¬maxDepth < depth := by omega
      rw [readWithin, if_neg hdeep, frameWithin_eq, readBelow_succ]
      cases readFrame data with
      | error e => rfl
      | ok frame =>
          obtain ⟨kind, c⟩ := frame
          cases kind with
          | composite =>
              have hparts : ∀ rest, readWithin (depth + 1) rest = some (readBelow levels rest) :=
                fun rest ↦ ih (depth + 1) rest (by omega)
              have hcount : ∀ data n count, readBelow levels data = .ok (n, count) →
                  0 < count ∧ count ≤ data.length := by
                intro data n count h
                obtain ⟨hlow, hhigh⟩ := count_bounds_of_readBelow h
                exact ⟨Nat.lt_of_lt_of_le (by decide) hlow, hhigh⟩
              have hrow := rowWithin_eq hparts hcount (Nat.zero_le c.length) (Nat.sub_le _ _)
              simp only [Except.map, hrow, List.drop_zero, Option.map_some, ofContent]
          | _ => simp only [Except.map, Option.map_some, ofContent]

/-! ## From offset to offset -/

/-- After so many turns of going through the content, in which names `depth` levels deep stand, the
offset is this one. -/
inductive Stands (depth : Nat) (content : List UInt8) : (turns offset : Nat) → Prop
  | start : Stands depth content 0 0
  | turn {turns offset next : Nat} {part : Name} (h : Stands depth content turns offset)
      (hmore : offset < content.length)
      (hturn : turnWithin (readWithin depth) content offset = some (.ok (part, next))) :
      Stands depth content (turns + 1) next

theorem turnWithin_readWithin (hoffset : offset ≤ content.length) :
    turnWithin (readWithin depth) content offset =
      some ((read depth (content.drop offset)).map fun (part, count) ↦ (part, offset + count)) :=
  turnWithin_eq (readWithin_eq depth) hoffset

theorem advance_of_turnWithin (hoffset : offset ≤ content.length)
    (h : turnWithin (readWithin depth) content offset = some (.ok (part, next))) :
    offset + headerLength ≤ next ∧ next ≤ content.length := by
  rw [turnWithin_readWithin hoffset] at h
  cases hread : read depth (content.drop offset) with
  | error e => simp [hread, Except.map] at h
  | ok found =>
      obtain ⟨found, count⟩ := found
      simp only [hread, Except.map, Option.some.injEq, Except.ok.injEq, Prod.mk.injEq] at h
      obtain ⟨rfl, rfl⟩ := h
      obtain ⟨hlow, hhigh⟩ := count_bounds_of_readBelow hread
      rw [List.length_drop] at hhigh
      omega

/-- The offset has moved on by a header at least in every turn, and is still in the content. -/
theorem Stands.bounds (h : Stands depth content turns offset) :
    headerLength * turns ≤ offset ∧ offset ≤ content.length := by
  induction h with
  | start => exact ⟨Nat.le_refl 0, Nat.zero_le _⟩
  | turn h hmore hturn ih =>
      obtain ⟨hon, hin⟩ := advance_of_turnWithin ih.2 hturn
      refine ⟨?_, hin⟩
      rw [Nat.mul_succ]
      omega

/-! ## Taking the content apart -/

/-- The pieces make up the content, and each of them is all that a name takes. -/
def Splits (depth : Nat) (content : List UInt8) (pieces : List (List UInt8)) : Prop :=
  pieces.flatten = content ∧ ∀ piece ∈ pieces, ∃ part, read depth piece = .ok (part, piece.length)

theorem ne_nil_of_read {piece : List UInt8} (h : read depth piece = .ok (part, piece.length)) :
    piece ≠ [] := by
  rintro rfl
  exact absurd (count_bounds_of_readBelow h).1 (by decide)

theorem read_append {piece : List UInt8} (h : read depth piece = .ok (part, piece.length))
    (rest : List UInt8) : read depth (piece ++ rest) = .ok (part, piece.length) := by
  have hread := (readBelow_take_append h rest).2
  rwa [List.take_length] at hread

/-- What is all that a name takes is not the beginning of anything else that is. -/
theorem append_inj_of_read {piece other rest rest' : List UInt8}
    (h : read depth piece = .ok (part, piece.length))
    (h' : read depth other = .ok (n, other.length)) (heq : piece ++ rest = other ++ rest') :
    piece = other ∧ rest = rest' := by
  have hsame : (part, piece.length) = (n, other.length) := by
    have := (read_append h rest).symm.trans (heq ▸ read_append h' rest')
    exact Except.ok.inj this
  exact List.append_inj heq (Prod.mk.inj hsame).2

theorem Splits.unique {pieces others : List (List UInt8)} (h : Splits depth content pieces)
    (h' : Splits depth content others) : pieces = others := by
  obtain ⟨rfl, hpieces⟩ := h
  obtain ⟨heq, hothers⟩ := h'
  induction pieces generalizing others with
  | nil =>
      cases others with
      | nil => rfl
      | cons other rest' =>
          obtain ⟨part, hother⟩ := hothers other List.mem_cons_self
          exact absurd (List.append_eq_nil_iff.mp heq).1 (ne_nil_of_read hother)
  | cons piece rest ih =>
      obtain ⟨⟨part, hpiece⟩, hrest⟩ := List.forall_mem_cons.mp hpieces
      cases others with
      | nil => exact absurd (List.append_eq_nil_iff.mp heq.symm).1 (ne_nil_of_read hpiece)
      | cons other rest' =>
          obtain ⟨⟨part', hother⟩, hrest'⟩ := List.forall_mem_cons.mp hothers
          obtain ⟨rfl, hlater⟩ := append_inj_of_read hother hpiece heq
          rw [ih hrest hlater hrest']

/-- Names that are read in a row take the pieces one after another. -/
theorem ReadsInRow.exists_pieces (h : ReadsInRow (read depth) content parts) :
    ∃ pieces, pieces.flatten = content ∧
      List.Forall₂ (fun piece part ↦ read depth piece = .ok (part, piece.length)) pieces parts := by
  induction h with
  | nil => exact ⟨[], rfl, .nil⟩
  | @cons data first count more hfirst _ ih =>
      obtain ⟨pieces, hpieces, hall⟩ := ih
      obtain ⟨hle, hread⟩ := readBelow_take_append hfirst []
      have hpiece : read depth (data.take count) = .ok (first, (data.take count).length) := by
        rw [List.length_take, Nat.min_eq_left hle]
        rwa [List.append_nil] at hread
      refine ⟨data.take count :: pieces, ?_, .cons hpiece hall⟩
      rw [List.flatten_cons, hpieces, List.take_append_drop]

section

variable {pieces : List (List UInt8)}

theorem exists_read_of_forall₂
    (h : List.Forall₂ (fun piece part ↦ read depth piece = .ok (part, piece.length)) pieces parts) :
    ∀ piece ∈ pieces, ∃ part, read depth piece = .ok (part, piece.length) := by
  induction h with
  | nil => exact fun piece hmem ↦ absurd hmem List.not_mem_nil
  | cons hpiece _ ih => exact List.forall_mem_cons.mpr ⟨⟨_, hpiece⟩, ih⟩

/-- From the end of one piece, the offset moves on to the end of the next one. -/
theorem turnWithin_of_splits (h : Splits depth content pieces) (hturns : turns < pieces.length) :
    ∃ part, turnWithin (readWithin depth) content (pieces.take turns).flatten.length =
      some (.ok (part, (pieces.take (turns + 1)).flatten.length)) := by
  obtain ⟨rfl, hpieces⟩ := h
  obtain ⟨part, hpart⟩ := hpieces _ (List.getElem_mem hturns)
  have hsplit : pieces.flatten = (pieces.take turns).flatten ++
      (pieces[turns] ++ (pieces.drop (turns + 1)).flatten) := by
    rw [← List.flatten_cons, ← List.drop_eq_getElem_cons hturns, ← List.flatten_append,
      List.take_append_drop]
  have hdrop : pieces.flatten.drop (pieces.take turns).flatten.length =
      pieces[turns] ++ (pieces.drop (turns + 1)).flatten := by
    rw [hsplit, List.drop_left]
  have hin : (pieces.take turns).flatten.length ≤ pieces.flatten.length := by
    rw [hsplit, List.length_append]
    exact Nat.le_add_right _ _
  have hnext : (pieces.take (turns + 1)).flatten.length =
      (pieces.take turns).flatten.length + pieces[turns].length := by
    rw [List.take_succ_eq_append_getElem hturns, List.flatten_append, List.length_append]
    simp
  refine ⟨part, ?_⟩
  rw [turnWithin_readWithin hin, hdrop, read_append hpart, hnext]
  rfl

/-- The offsets are where the pieces end. -/
theorem stands_iff_of_splits (h : Splits depth content pieces) :
    Stands depth content turns offset ↔
      turns ≤ pieces.length ∧ offset = (pieces.take turns).flatten.length := by
  constructor
  · intro hstands
    induction hstands with
    | start => exact ⟨Nat.zero_le _, rfl⟩
    | @turn turns offset next part _ hmore hturn ih =>
        obtain ⟨-, rfl⟩ := ih
        -- after the last piece the offset would be at the end of the content
        have hturns : turns < pieces.length := by
          by_contra hall
          rw [List.take_of_length_le (Nat.not_lt.mp hall), h.1] at hmore
          exact absurd hmore (Nat.lt_irrefl _)
        obtain ⟨other, hother⟩ := turnWithin_of_splits h hturns
        rw [hother] at hturn
        simp only [Option.some.injEq, Except.ok.injEq, Prod.mk.injEq] at hturn
        exact ⟨hturns, hturn.2.symm⟩
  · rintro ⟨hturns, rfl⟩
    induction turns with
    | zero => exact .start
    | succ turns ih =>
        have hstands := ih (Nat.le_of_succ_le hturns)
        obtain ⟨part, hpart⟩ := turnWithin_of_splits h hturns
        obtain ⟨hon, hin⟩ := advance_of_turnWithin hstands.bounds.2 hpart
        exact .turn hstands (by rw [headerLength] at hon; omega) hpart

end

theorem drop_framed {kind : NameKind} {c : List UInt8} :
    (framed kind c).drop headerLength = c := by
  rw [framed, headerLength, List.drop_succ_cons, List.drop_left' (BigEndian.length_encode 4 _)]

theorem exists_splits_of_read (h : read depth data = .ok (.composite parts, count)) :
    ∃ pieces, Splits (depth + 1) ((data.take count).drop headerLength) pieces ∧
      List.Forall₂ (fun piece part ↦ read (depth + 1) piece = .ok (part, piece.length))
        pieces parts := by
  rw [read] at h
  cases hlevels : maxDepth + 1 - depth with
  | zero => rw [hlevels] at h; cases h
  | succ levels =>
      rw [hlevels] at h
      obtain ⟨kind, c, rest, -, rfl, hname, rfl⟩ := readBelow_eq_ok_iff.mp h
      have hbelow : maxDepth + 1 - (depth + 1) = levels := by omega
      have hrow : ReadsInRow (read (depth + 1)) c parts := by
        have := readsInRow_of_ofContent hname
        rwa [← hbelow] at this
      obtain ⟨pieces, hflatten, hall⟩ := hrow.exists_pieces
      rw [List.take_left, drop_framed]
      exact ⟨pieces, ⟨hflatten, exists_read_of_forall₂ hall⟩, hall⟩

/-- Reading never leaves the bytes. In the content of a composite name each turn moves the offset on
by five bytes or more, and not past the end. What is read takes five bytes at least, is read again
from these bytes whatever comes after them, and if it is a composite name, there is one way only to
take its content apart into the bytes of names: at the offsets at which its parts have been read. -/
theorem read_delimited (depth : Nat) (data : List UInt8) :
    readWithin depth data = some (read depth data) ∧
      (∀ content turns offset, Stands (depth + 1) content turns offset →
        5 * turns ≤ offset ∧ offset ≤ content.length ∧
          (offset < content.length →
            ∃ found, turnWithin (readWithin (depth + 1)) content offset = some found ∧
              ∀ part next, found = .ok (part, next) →
                offset + 5 ≤ next ∧ next ≤ content.length)) ∧
      ∀ n count, read depth data = .ok (n, count) →
        5 ≤ count ∧ count ≤ data.length ∧
          (∀ rest, read depth (data.take count ++ rest) = .ok (n, count)) ∧
          ∀ parts, n = .composite parts → ∃ pieces,
            List.Forall₂ (fun piece part ↦ read (depth + 1) piece = .ok (part, piece.length))
              pieces parts ∧
            (∀ others, Splits (depth + 1) ((data.take count).drop 5) others ↔ others = pieces) ∧
            ∀ turns offset, Stands (depth + 1) ((data.take count).drop 5) turns offset ↔
              turns ≤ pieces.length ∧ offset = (pieces.take turns).flatten.length := by
  refine ⟨readWithin_eq depth data, fun content turns offset hstands ↦ ?_, fun n count h ↦ ?_⟩
  · obtain ⟨hturns, hin⟩ := hstands.bounds
    refine ⟨hturns, hin, fun _ ↦ ⟨_, turnWithin_readWithin hin, fun part next hfound ↦ ?_⟩⟩
    exact advance_of_turnWithin hin (hfound ▸ turnWithin_readWithin hin)
  · obtain ⟨hlow, hhigh⟩ := count_bounds_of_readBelow h
    refine ⟨hlow, hhigh, fun rest ↦ (readBelow_take_append h rest).2, ?_⟩
    rintro parts rfl
    obtain ⟨pieces, hsplits, hall⟩ := exists_splits_of_read h
    refine ⟨pieces, hall, fun others ↦ ⟨fun hothers ↦ hothers.unique hsplits, ?_⟩,
      fun turns offset ↦ stands_iff_of_splits hsplits⟩
    rintro rfl
    exact hsplits

/-- A text beside a composite name, as deep as they can stand and with two bytes after them: the
name ends before these bytes, and its content comes apart into its two parts only. -/
theorem text_beside_composite_delimited :
    let first : List UInt8 := [1, 0, 0, 0, 1, 97]
    let second : List UInt8 := [5, 0, 0, 0, 5, 4, 0, 0, 0, 0]
    let name : List UInt8 := [5, 0, 0, 0, 16] ++ (first ++ second)
    let n : Name := .composite [.text "a", .composite [.bytes []]]
    read 30 (name ++ [9, 9]) = .ok (n, 21) ∧ (∀ rest, read 30 (name ++ rest) = .ok (n, 21)) ∧
      (∀ others, Splits 31 (first ++ second) others ↔ others = [first, second]) ∧
      Stands 31 (first ++ second) 1 6 ∧
      ∃ found, turnWithin (readWithin 31) (first ++ second) 6 = some found ∧
        ∀ part next, found = .ok (part, next) → 6 + 5 ≤ next ∧ next ≤ 16 := by
  intro first second name n
  have hread : read 30 (name ++ [9, 9]) = .ok (n, 21) := by decide +kernel
  obtain ⟨-, hloop, hends⟩ := read_delimited 30 (name ++ [9, 9])
  obtain ⟨-, -, hrest, hparts⟩ := hends n 21 hread
  obtain ⟨pieces, -, hsplits, hstands⟩ := hparts _ rfl
  have hfirst : read 31 first = .ok (.text "a", 6) := by decide +kernel
  have hsecond : read 31 second = .ok (.composite [.bytes []], 10) := by decide +kernel
  have hpieces : Splits 31 (first ++ second) [first, second] := by
    refine ⟨rfl, fun piece hmem ↦ ?_⟩
    simp only [List.mem_cons, List.not_mem_nil, or_false] at hmem
    obtain rfl | rfl := hmem
    · exact ⟨_, hfirst⟩
    · exact ⟨_, hsecond⟩
  obtain rfl := (hsplits _).mp hpieces
  have hsix : Stands 31 (first ++ second) 1 6 := (hstands 1 6).mpr ⟨by decide, rfl⟩
  exact ⟨hread, hrest, hsplits, hsix, (hloop _ 1 6 hsix).2.2 (by decide)⟩

end ResourceKernel.Name
