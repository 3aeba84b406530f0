import ResourceKernel.Proofs.Slug.Version
import ResourceKernel.Proofs.Text.Blank
import ResourceKernel.Proofs.Text.Normal

/-!
# Normal paths

A wanted path is made normal once, when a slug is asked for. What is appended to it afterwards are
numbers, so that all paths a container lists, and all paths that its slugs hand out, would be taken
as they are if they were wanted. Wanted paths that are the same in normal form get the same answer.
-/

namespace ResourceKernel

open Text

namespace Slug

/-- A path that is taken as it is: one segment in composed form. -/
structure Normal (path : String) : Prop where
  taken : normalizePath? path = some path
  ne_empty : path ≠ ""
  ne_dot : path ≠ "."
  ne_dots : path ≠ ".."
  chars : ∀ c ∈ path.toList, c ≠ '/' ∧ c ≠ '?' ∧ c ≠ '#' ∧ isBlank c = false
  composed : Composition.normalize path = path

variable {path raw : String}

theorem isSegment_iff : isSegment path = true ↔
    path ≠ "." ∧ path ≠ ".." ∧ path ≠ "" ∧
      ∀ c ∈ path.toList, c ≠ '/' ∧ c ≠ '?' ∧ c ≠ '#' ∧ isBlank c = false := by
  simp [isSegment, isPathMark, and_assoc]

theorem trim_of_isSegment (h : isSegment path = true) : trim path = path := by
  obtain ⟨-, -, -, hchars⟩ := isSegment_iff.mp h
  exact trim_eq_self fun c hc ↦ (hchars c hc).2.2.2

theorem Normal.of_isSegment (hsegment : isSegment path = true)
    (hcomposed : Composition.normalize path = path) : Normal path := by
  obtain ⟨hdot, hdots, hempty, hchars⟩ := isSegment_iff.mp hsegment
  refine ⟨?_, hempty, hdot, hdots, hchars, hcomposed⟩
  unfold normalizePath?
  rw [trim_of_isSegment hsegment, hcomposed]
  exact if_pos hsegment

theorem normalizePath?_eq_some_iff : normalizePath? raw = some path ↔
    Composition.normalize (trim raw) = path ∧ isSegment path = true := by
  unfold normalizePath?
  dsimp only
  split
  · next hsegment =>
    rw [Option.some.injEq]
    exact ⟨fun heq ↦ ⟨heq, heq ▸ hsegment⟩, And.left⟩
  · next hsegment =>
    refine ⟨nofun, ?_⟩
    rintro ⟨rfl, hin⟩
    exact absurd hin hsegment

/-- Normalizing again changes nothing. -/
theorem normal_of_normalizePath? (h : normalizePath? raw = some path) : Normal path := by
  obtain ⟨rfl, hsegment⟩ := normalizePath?_eq_some_iff.mp h
  exact .of_isSegment hsegment (Composition.normalize_normalize _)

theorem toNat_of_isDigit {c : Char} (h : Decimal.isDigit c = true) :
    0x30 ≤ c.toNat ∧ c.toNat ≤ 0x39 := by
  simp only [Decimal.isDigit, Bool.and_eq_true, decide_eq_true_eq] at h
  exact h

theorem isBlank_of_isDigit {c : Char} (h : Decimal.isDigit c = true) : isBlank c = false := by
  have hrange := toNat_of_isDigit h
  unfold isBlank
  grind

theorem Normal.numbered (h : Normal path) (n : Nat) : Normal (numbered path n) := by
  have htext := toList_numbered path n
  have hmark : '_' ∈ (Slug.numbered path n).toList := by
    rw [htext]
    exact List.mem_append_right _ List.mem_cons_self
  have hne (other : String) (hother : '_' ∉ other.toList) : Slug.numbered path n ≠ other :=
    fun heq ↦ hother (heq ▸ hmark)
  refine .of_isSegment (isSegment_iff.mpr ⟨hne _ (by decide), hne _ (by decide), hne _ (by decide),
    fun c hc ↦ ?_⟩) ?_
  · rw [htext, List.mem_append, List.mem_cons] at hc
    obtain hold | rfl | hdigit := hc
    · exact h.chars c hold
    · decide
    · have hdigit := Decimal.isDigit_of_mem_digitsOf hdigit
      refine ⟨?_, ?_, ?_, isBlank_of_isDigit hdigit⟩ <;>
      · rintro rfl
        exact absurd hdigit (by decide)
  · have hplain : ∀ c ∈ ("_" ++ Decimal.ofNat n).toList, Composition.IsPlain c := by
      intro c hc
      rw [String.toList_append, List.mem_append] at hc
      unfold Composition.IsPlain
      obtain hmark | hdigit := hc
      · obtain rfl := List.mem_singleton.mp hmark
        decide
      · rw [Decimal.ofNat, String.toList_ofList] at hdigit
        have hrange := toNat_of_isDigit (Decimal.isDigit_of_mem_digitsOf hdigit)
        omega
    rw [Slug.numbered, String.append_assoc, Composition.normalize_append_plain hplain, h.composed]

theorem Normal.pathAt (h : Normal path) (version : Nat) : Normal (pathAt path version) := by
  unfold Slug.pathAt
  split
  · exact h
  · exact h.numbered version

end Slug

namespace Container

variable {c : Container} {pool : SlugPool} {raw raw' : String}

/-- All paths that the container lists are normal. -/
def Normal (c : Container) : Prop :=
  ∀ path index, c.slugs.find? path = some index → Slug.Normal path

theorem Normal.mergeSlug (h : c.Normal) {candidate : Slug} (hpath : Slug.Normal candidate.path) :
    (c.mergeSlug pool candidate).2.1.Normal := by
  have hcandidate (attempt : Nat) : Slug.Normal (candidatePath candidate.path attempt) :=
    hpath.pathAt attempt
  unfold Container.mergeSlug
  dsimp only
  split
  · exact h
  · intro path index hfind
    rw [Table.find?_insert] at hfind
    split at hfind
    · next hnew => exact hnew ▸ hcandidate _
    · exact h path index hfind

theorem Linked.normal_copy (h : c.Linked pool) (hc : c.Normal) : (c.copy pool).1.Normal := by
  intro path index hfind
  obtain ⟨version, hslug⟩ := h.copies.linked path index hfind
  have hcopied : (c.copy pool).1.slug? (c.copy pool).2 path = (c.copy pool).2.get? index :=
    slug?_of_find? hfind
  rw [h.slug?_copy, hslug] at hcopied
  obtain ⟨original, horiginal, -⟩ := Option.bind_eq_some_iff.mp hcopied
  exact hc path original horiginal

/-- Only the normal form of a wanted path matters. -/
theorem addSlug_congr (c : Container) (pool : SlugPool)
    (h : Composition.normalize (trim raw) = Composition.normalize (trim raw')) :
    (c.addSlug pool raw = .error (.invalidPath raw) ∧
      c.addSlug pool raw' = .error (.invalidPath raw')) ∨
    ∃ merged, c.addSlug pool raw = .ok merged ∧ c.addSlug pool raw' = .ok merged := by
  have hsame : Slug.normalizePath? raw = Slug.normalizePath? raw' := by
    unfold Slug.normalizePath?
    rw [h]
  unfold Container.addSlug
  rw [hsame]
  cases Slug.normalizePath? raw' with
  | none => exact Or.inl ⟨rfl, rfl⟩
  | some path => exact Or.inr ⟨_, rfl, rfl⟩

end Container

namespace Depot

variable {d : Depot} {c : Container} {place : Nat} {raw : String}

/-- All paths that the containers list are normal. -/
def Normal (d : Depot) : Prop := ∀ c ∈ d.containers, c.Normal

theorem Normal.change (h : d.Normal) (place : Nat) {act : Container → Container × SlugPool}
    (hact : ∀ c, c.Normal → (act c).1.Normal) : (d.change place act).Normal := by
  unfold Depot.change
  cases hplace : d.containers[place]? with
  | none => exact h
  | some c =>
      intro e he
      obtain hold | rfl := List.mem_or_eq_of_mem_set he
      · exact h e hold
      · exact hact c (h c (List.mem_of_getElem? hplace))

/-- The candidates that are merged have normal paths. -/
def Careful (uses : List Use) : Prop :=
  ∀ place candidate, .mergeSlug place candidate ∈ uses → Slug.Normal candidate.path

theorem Linked.normal_use (h : d.Linked) (hd : d.Normal) {u : Use} (hu : Careful [u]) :
    (d.use u).Normal := by
  cases u with
  | addSlug place preferred =>
      simp only [Depot.use]
      refine hd.change place fun c hc ↦ ?_
      cases hadd : c.addSlug d.pool preferred with
      | error fault => exact hc
      | ok merged =>
          obtain ⟨path, hpath, rfl⟩ := Container.addSlug_eq_ok_iff.mp hadd
          exact hc.mergeSlug (Slug.normal_of_normalizePath? hpath)
  | mergeSlug place candidate =>
      simp only [Depot.use]
      exact hd.change place fun c hc ↦ hc.mergeSlug (hu place candidate List.mem_cons_self)
  | nextPath index =>
      simp only [Depot.use]
      cases d.pool.nextPath? index <;> exact hd
  | addMember place member =>
      simp only [Depot.use, Container.addMember_eq]
      refine hd.change place fun c hc ↦ ?_
      cases c.hasMember member <;> exact hc
  | removeMember place member =>
      simp only [Depot.use]
      refine hd.change place fun c hc ↦ ?_
      rw [Container.Normal, c.slugs_removeMember]
      exact hc
  | copy place =>
      simp only [Depot.use]
      cases hplace : d.containers[place]? with
      | none => exact hd
      | some c =>
          have hmem := List.mem_of_getElem? hplace
          intro e he
          obtain hold | hnew := List.mem_append.mp he
          · exact hd e hold
          · obtain rfl := List.mem_singleton.mp hnew
            exact (h c hmem).normal_copy (hd c hmem)

theorem Linked.normal_serve (h : d.Linked) (hd : d.Normal) {uses : List Use}
    (huses : Careful uses) : (d.serve uses).Normal := by
  induction uses generalizing d with
  | nil => exact hd
  | cons u uses ih =>
      have hfirst : Careful [u] := fun place candidate hmem ↦
        huses place candidate (List.mem_singleton.mp hmem ▸ List.mem_cons_self)
      have hrest : Careful uses := fun place candidate hmem ↦
        huses place candidate (List.mem_cons_of_mem u hmem)
      exact ih (h.use u) (h.normal_use hd hfirst) hrest

theorem Linked.normal_handed (h : d.Linked) {index : Nat} {slug : Slug}
    (hslug : d.pool.get? index = some slug) (hpath : Slug.Normal slug.path) (uses : List Use) :
    ∀ path ∈ handed index d uses, Slug.Normal path := by
  obtain ⟨versions, -, -, heq⟩ := h.exists_versions hslug uses
  intro path hmem
  rw [heq] at hmem
  obtain ⟨version, -, rfl⟩ := List.mem_map.mp hmem
  exact hpath.pathAt version

theorem use_addSlug_of_refused {fault : GraphFault} (hplace : d.containers[place]? = some c)
    (h : c.addSlug d.pool raw = .error fault) : d.use (.addSlug place raw) = d := by
  obtain ⟨hlt, rfl⟩ := List.getElem?_eq_some_iff.mp hplace
  simp only [Depot.use, Depot.change, hplace, h]
  rw [List.set_getElem_self]

/-- A container starts without slugs, and is used in any way in which no candidates with other paths
are merged. Then all paths that it or a copy lists, and all that their slugs hand out from there
on, are normal. Two wanted paths with the same normal form are both refused, and nothing changes, or
lead to the same slug and the same container. -/
theorem paths_normal (hnew : c.slugs = ∅) (pool : SlugPool) {uses : List Use}
    (huses : Careful uses) :
    let d := (opened c pool).serve uses
    ∀ place e, d.containers[place]? = some e →
      (∀ path index, e.slugs.find? path = some index →
        Slug.Normal path ∧ (d.pool.nextPath? index).isSome ∧
          ∀ later, ∀ next ∈ handed index d later, Slug.Normal next) ∧
      ∀ raw raw', Composition.normalize (trim raw) = Composition.normalize (trim raw') →
        (e.addSlug d.pool raw = .error (.invalidPath raw) ∧ d.use (.addSlug place raw) = d ∧
          e.addSlug d.pool raw' = .error (.invalidPath raw') ∧
            d.use (.addSlug place raw') = d) ∨
        ∃ merged, e.addSlug d.pool raw = .ok merged ∧ e.addSlug d.pool raw' = .ok merged := by
  intro d place e hplace
  have hempty (path : String) : c.slugs.find? path = none := by rw [hnew, Table.find?_empty]
  have hlinked : (opened c pool).Linked := .opened fun path index hfind ↦ by
    rw [hempty] at hfind
    cases hfind
  have hnormal : (opened c pool).Normal := by
    intro f hf path index hfind
    obtain rfl := List.mem_singleton.mp hf
    rw [hempty] at hfind
    cases hfind
  have hserved : d.Linked := hlinked.serve uses
  have he := List.mem_of_getElem? hplace
  refine ⟨fun path index hfind ↦ ?_, fun raw raw' heq ↦ ?_⟩
  · have hpath := hlinked.normal_serve hnormal huses e he path index hfind
    obtain ⟨version, hslug⟩ := hserved e he path index hfind
    refine ⟨hpath, ?_, hserved.normal_handed hslug hpath⟩
    rw [SlugPool.nextPath?_of_get? hslug]
    rfl
  · obtain ⟨hfirst, hsecond⟩ | hboth := e.addSlug_congr d.pool heq
    · exact Or.inl ⟨hfirst, use_addSlug_of_refused hplace hfirst, hsecond,
        use_addSlug_of_refused hplace hsecond⟩
    · exact Or.inr hboth

/-- The second slug for the same path gets a number, and hands out a path with two. -/
theorem accent_numbered_twice :
    let c := Container.fresh ⟨.text "a", "shelf"⟩ none
      ⟨"shelf", "shelves", none, none, [], .container ⟨"book", none⟩⟩
    let uses : List Use := [.addSlug 0 "e\u0301", .nextPath 0, .addSlug 0 " e\u0301"]
    let d := (opened c .empty).serve uses
    let e := { c with slugs := .ofList [("\u00e9", 0), ("\u00e9_1", 1)] }
    c.slugs = ∅ ∧ Careful uses ∧ d.containers[0]? = some e ∧
      handed 1 d [.nextPath 1, .nextPath 1] = ["\u00e9_1", "\u00e9_1_1"] ∧
      Slug.Normal "\u00e9_1_1" ∧
      Composition.normalize (trim "e\u0301 ") = Composition.normalize (trim "\u00e9") ∧
      ∃ merged, e.addSlug d.pool "e\u0301 " = .ok merged ∧
        e.addSlug d.pool "\u00e9" = .ok merged := by
  intro c uses d e
  have huses : Careful uses := fun place candidate hmem ↦ by simp [uses] at hmem
  have hplace : d.containers[0]? = some e := by decide +kernel
  have hfind : e.slugs.find? "\u00e9_1" = some 1 := by decide +kernel
  have hhanded : handed 1 d [.nextPath 1, .nextPath 1] = ["\u00e9_1", "\u00e9_1_1"] := by
    decide +kernel
  have heq : Composition.normalize (trim "e\u0301 ") =
      Composition.normalize (trim "\u00e9") := by decide +kernel
  have htaken : Slug.normalizePath? "\u00e9" = some "\u00e9" := by decide +kernel
  obtain ⟨hlisted, hanswers⟩ := paths_normal (c := c) rfl .empty huses 0 e hplace
  have hnormal := (hlisted _ 1 hfind).2.2 [.nextPath 1, .nextPath 1] "\u00e9_1_1"
    (hhanded ▸ List.mem_cons_of_mem _ List.mem_cons_self)
  refine ⟨rfl, huses, hplace, hhanded, hnormal, heq, ?_⟩
  refine (hanswers _ _ heq).resolve_left fun ⟨_, _, hrefused, _⟩ ↦ ?_
  have haccepted : e.addSlug d.pool "\u00e9" = .ok _ :=
    Container.addSlug_eq_ok_iff.mpr ⟨_, htaken, rfl⟩
  cases haccepted.symm.trans hrefused

end Depot

end ResourceKernel
