import ResourceKernel.Name.Codec

/-!
# How deep and how long names are

A name can be written exactly if no part of it stands too deep and its content is not too long.
Both are told here without writing anything: `SitsAt` follows a part into a name, and
`contentLength` adds up the bytes of the content.
-/

namespace ResourceKernel.Name

open Text

/-! ## Induction over names -/

section

variable {P : Name → Prop}

/-- What passes from the parts of composite names to the whole holds of every name. -/
@[elab_as_elim] theorem inductionOn (text : ∀ s, P (.text s)) (integer : ∀ n, P (.integer n))
    (uri : ∀ u, P (.uri u)) (bytes : ∀ bs, P (.bytes bs))
    (composite : ∀ parts, (∀ part ∈ parts, P part) → P (.composite parts)) : ∀ n, P n
  | .text s => text s
  | .integer n => integer n
  | .uri u => uri u
  | .bytes bs => bytes bs
  | .composite parts =>
      composite parts fun part _ ↦ inductionOn text integer uri bytes composite part
termination_by n => sizeOf n
decreasing_by
  have := List.sizeOf_lt_of_mem ‹part ∈ parts›
  simp only [Name.composite.sizeOf_spec]
  omega

end

/-! ## Depth -/

/-- The part sits so many composite levels below the whole. -/
inductive SitsAt (part : Name) : (level : Nat) → (whole : Name) → Prop
  | here : SitsAt part 0 part
  | inside {level : Nat} {inner : Name} {parts : List Name} (hmem : inner ∈ parts)
      (h : SitsAt part level inner) : SitsAt part (level + 1) (.composite parts)

theorem depthBelow_le_iff {parts : List Name} {bound : Nat} :
    depthBelow parts ≤ bound ↔ ∀ part ∈ parts, part.depth + 1 ≤ bound := by
  induction parts with
  | nil => simp [depthBelow]
  | cons part rest ih => simp only [depthBelow, Nat.max_le, ih, List.forall_mem_cons]

/-- The depth of a name is the deepest level at which anything sits in it. -/
theorem depth_le_iff {n : Name} {bound : Nat} :
    n.depth ≤ bound ↔ ∀ part level, SitsAt part level n → level ≤ bound := by
  induction n using inductionOn generalizing bound with
  | text s | integer i | uri u | bytes bs =>
      simp only [depth, Nat.zero_le, true_iff]
      rintro part level ⟨⟩
      exact Nat.zero_le bound
  | composite parts ih =>
      simp only [depth, depthBelow_le_iff]
      constructor
      · intro h part level hsits
        cases hsits with
        | here => exact Nat.zero_le bound
        | @inside level inner _ hmem hinner =>
            have hle : inner.depth ≤ bound - 1 := by have := h inner hmem; omega
            have := (ih inner hmem).mp hle part level hinner
            have := h inner hmem
            omega
      · intro h inner hmem
        have hpos : 1 ≤ bound := h inner 1 (.inside hmem .here)
        have hle : inner.depth ≤ bound - 1 := (ih inner hmem).mpr fun part level hsits ↦ by
          have := h part (level + 1) (.inside hmem hsits)
          omega
        omega

/-! ## Length -/

mutual

/-- How many bytes the content of a name takes. -/
def contentLength : Name → Nat
  | .text s => s.utf8ByteSize
  | .integer _ => 8
  | .uri u => u.text.utf8ByteSize
  | .bytes bs => bs.length
  | .composite parts => rowLength parts

def rowLength : List Name → Nat
  | [] => 0
  | part :: rest => headerLength + part.contentLength + rowLength rest

end

theorem contentLength_lt_rowLength {parts : List Name} {part : Name} (hmem : part ∈ parts) :
    part.contentLength < rowLength parts := by
  induction parts with
  | nil => simp at hmem
  | cons first rest ih =>
      simp only [rowLength, headerLength]
      rcases List.mem_cons.mp hmem with rfl | hmem
      · omega
      · have := ih hmem
        omega

/-! ## What writing yields -/

/-- A kind, the length of a content, and the content. -/
def framed (kind : NameKind) (content : List UInt8) : List UInt8 :=
  kind.code :: (BigEndian.encode 4 content.length ++ content)

@[simp] theorem length_framed (kind : NameKind) (content : List UInt8) :
    (framed kind content).length = headerLength + content.length := by
  simp only [framed, headerLength, List.length_cons, List.length_append, BigEndian.length_encode]
  omega

theorem frame_eq_ok_iff {kind : NameKind} {content bs : List UInt8} :
    frame kind content = .ok bs ↔ content.length < UInt32.size ∧ framed kind content = bs := by
  by_cases h : content.length < UInt32.size <;> simp [frame, framed, h]

def content (depth : Nat) : Name → Except NameFault (List UInt8)
  | .text s => .ok (Utf8.encode s)
  | .integer n => .ok (integerBytes n)
  | .uri u => .ok (Utf8.encode u.text)
  | .bytes bs => .ok bs
  | .composite parts => writeParts (depth + 1) parts

/-- A name is written as its kind and content in a frame, unless it stands too deep. -/
theorem write_eq_ok_iff {n : Name} {depth : Nat} {bs : List UInt8} :
    n.write depth = .ok bs ↔
      depth ≤ maxDepth ∧ ∃ c, n.content depth = .ok c ∧
        c.length < UInt32.size ∧ framed n.kind c = bs := by
  by_cases hd : maxDepth < depth
  · cases n <;> simp [write, hd, Nat.not_le.mpr hd]
  · have hle : depth ≤ maxDepth := Nat.le_of_not_lt hd
    cases n with
    | composite parts =>
        cases hc : writeParts (depth + 1) parts <;>
          simp [write, content, kind, hd, hle, hc, frame_eq_ok_iff]
    | _ => simp [write, content, kind, hd, hle, frame_eq_ok_iff]

theorem writeParts_cons_eq_ok_iff {part : Name} {rest : List Name} {depth : Nat}
    {bs : List UInt8} :
    writeParts depth (part :: rest) = .ok bs ↔
      ∃ head tail, part.write depth = .ok head ∧ writeParts depth rest = .ok tail ∧
        head ++ tail = bs := by
  simp only [writeParts]
  cases part.write depth with
  | error e => simp
  | ok head => cases writeParts depth rest <;> simp

theorem exists_writeParts_iff {parts : List Name} {depth : Nat} :
    (∃ bs, writeParts depth parts = .ok bs) ↔
      ∀ part ∈ parts, ∃ bs, part.write depth = .ok bs := by
  induction parts with
  | nil => simp [writeParts]
  | cons part rest ih =>
      simp only [writeParts_cons_eq_ok_iff, List.forall_mem_cons, ← ih]
      constructor
      · rintro ⟨bs, head, tail, hhead, htail, -⟩
        exact ⟨⟨head, hhead⟩, tail, htail⟩
      · rintro ⟨⟨head, hhead⟩, tail, htail⟩
        exact ⟨_, head, tail, hhead, htail, rfl⟩

theorem length_writeParts {parts : List Name} {depth : Nat} {bs : List UInt8}
    (hpart : ∀ part ∈ parts, ∀ bs, part.write depth = .ok bs →
      bs.length = headerLength + part.contentLength)
    (h : writeParts depth parts = .ok bs) : bs.length = rowLength parts := by
  induction parts generalizing bs with
  | nil =>
      obtain rfl : [] = bs := by simpa [writeParts] using h
      rfl
  | cons part rest ih =>
      obtain ⟨head, tail, hhead, htail, rfl⟩ := writeParts_cons_eq_ok_iff.mp h
      obtain ⟨hfirst, hrest⟩ := List.forall_mem_cons.mp hpart
      rw [List.length_append, hfirst head hhead, ih hrest htail, rowLength]

theorem length_utf8_encode (s : String) : (Utf8.encode s).length = s.utf8ByteSize := by
  simp only [Utf8.encode, Array.length_toList]
  rfl

/-- A name that can be written takes its header and as many bytes as its content has. -/
theorem length_write {n : Name} {depth : Nat} {bs : List UInt8} (h : n.write depth = .ok bs) :
    bs.length = headerLength + n.contentLength := by
  induction n using inductionOn generalizing depth bs with
  | text s | uri u =>
      obtain ⟨-, c, hc, -, rfl⟩ := write_eq_ok_iff.mp h
      cases hc
      simp [contentLength, length_utf8_encode]
  | integer i =>
      obtain ⟨-, c, hc, -, rfl⟩ := write_eq_ok_iff.mp h
      cases hc
      simp [contentLength, integerBytes]
  | bytes bs =>
      obtain ⟨-, c, hc, -, rfl⟩ := write_eq_ok_iff.mp h
      cases hc
      simp [contentLength]
  | composite parts ih =>
      obtain ⟨-, c, hc, -, rfl⟩ := write_eq_ok_iff.mp h
      have hlen : c.length = rowLength parts :=
        length_writeParts (fun part hmem bs hbs ↦ ih part hmem hbs) hc
      rw [length_framed, hlen, contentLength]

theorem length_content {n : Name} {depth : Nat} {c : List UInt8} (h : n.content depth = .ok c) :
    c.length = n.contentLength := by
  cases n with
  | text s | uri u =>
      cases h
      exact length_utf8_encode _
  | integer i =>
      cases h
      simp [contentLength, integerBytes]
  | bytes bs =>
      cases h
      rfl
  | composite parts => exact length_writeParts (fun part _ bs hbs ↦ length_write hbs) h

/-- A name can be written exactly if nothing in it comes to stand too deep and its content fits
the four bytes of the length. -/
theorem exists_write_iff {n : Name} {depth : Nat} :
    (∃ bs, n.write depth = .ok bs) ↔
      depth + n.depth ≤ maxDepth ∧ n.contentLength < UInt32.size := by
  induction n using inductionOn generalizing depth with
  | composite parts ih =>
      constructor
      · rintro ⟨bs, h⟩
        obtain ⟨hd, c, hc, hlen, -⟩ := write_eq_ok_iff.mp h
        have hparts := exists_writeParts_iff.mp ⟨c, hc⟩
        have hbelow : depthBelow parts ≤ maxDepth - depth :=
          depthBelow_le_iff.mpr fun part hmem ↦ by
            have := ((ih part hmem).mp (hparts part hmem)).1
            omega
        refine ⟨?_, length_content hc ▸ hlen⟩
        simp only [Name.depth]
        omega
      · rintro ⟨hd, hlen⟩
        simp only [Name.depth] at hd
        have hbelow : depthBelow parts ≤ maxDepth - depth := by omega
        have hparts : ∀ part ∈ parts, ∃ bs, part.write (depth + 1) = .ok bs := by
          intro part hmem
          have hdeep := depthBelow_le_iff.mp hbelow part hmem
          have hshort := contentLength_lt_rowLength hmem
          rw [contentLength] at hlen
          exact (ih part hmem).mpr ⟨by omega, by omega⟩
        obtain ⟨c, hc⟩ := exists_writeParts_iff.mpr hparts
        have hc' : (Name.composite parts).content depth = .ok c := hc
        exact ⟨_, write_eq_ok_iff.mpr ⟨by omega, c, hc, length_content hc' ▸ hlen, rfl⟩⟩
  | text s | integer i | uri u | bytes bs =>
      constructor
      · rintro ⟨bs, h⟩
        obtain ⟨hd, c, hc, hlen, -⟩ := write_eq_ok_iff.mp h
        exact ⟨hd, length_content hc ▸ hlen⟩
      · rintro ⟨hd, hlen⟩
        have hlen' : ∀ c, Name.content depth _ = .ok c → c.length < UInt32.size :=
          fun c hc ↦ length_content hc ▸ hlen
        exact ⟨_, write_eq_ok_iff.mpr ⟨hd, _, rfl, hlen' _ rfl, rfl⟩⟩

end ResourceKernel.Name
