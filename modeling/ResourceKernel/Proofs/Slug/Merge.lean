import Mathlib.Data.List.Induction
import ResourceKernel.Proofs.Slug.Linked

/-!
# Slugs merged into a container

A container is used for slugs and members, is copied with its slugs, and the copies are used as
well, in any order. Whatever has been done, a candidate ends at the first of its paths that has no
slug, or one that has not gone beyond its version. There it leaves a slug of its version. No other
slug changes, and merging the candidate again changes nothing.
-/

namespace ResourceKernel

namespace SlugPool

theorem get?_push_ne (p : SlugPool) (added : Slug) {index : Nat} (h : index ≠ p.next) :
    (p.push added).get? index = p.get? index := by
  rcases Nat.lt_or_gt_of_ne h with hlt | hgt
  · exact List.getElem?_append_left hlt
  · have hnew : (p.slugs ++ [added]).length ≤ index := by
      rw [List.length_append, List.length_singleton]
      exact hgt
    exact (List.getElem?_eq_none hnew).trans (List.getElem?_eq_none (Nat.le_of_lt hgt)).symm

theorem get?_next (p : SlugPool) : p.get? p.next = none :=
  List.getElem?_eq_none (Nat.le_refl _)

end SlugPool

namespace Container

/-! ## Copies -/

/-- A container, and the pool of its slugs, with a copy of a slug that another container lists. -/
def listCopy (made : Container × SlugPool) (entry : String × Nat) : Container × SlugPool :=
  match made.2.get? entry.2 with
  | some s =>
      ({ made.1 with slugs := made.1.slugs.insert entry.1 made.2.next }, made.2.push s)
  | none => made

/-- A copy of a container, with slugs of its own. -/
def copy (c : Container) (pool : SlugPool) : Container × SlugPool :=
  c.slugs.entries.foldl listCopy ({ c with slugs := ∅ }, pool)

/-- The slugs of some paths have been copied. -/
structure Copies (c : Container) (pool : SlugPool) (entries : List (String × Nat))
    (made : Container × SlugPool) : Prop where
  rest : { made.1 with slugs := c.slugs } = c
  linked : made.1.Linked made.2
  kept {index : Nat} {s : Slug} (h : pool.get? index = some s) : made.2.get? index = some s
  slug?_iff (path : String) (s : Slug) :
    made.1.slug? made.2 path = some s ↔ ∃ index, (path, index) ∈ entries ∧ pool.get? index = some s

variable {c : Container} {pool : SlugPool}

theorem slug?_of_find? {path : String} {index : Nat} (h : c.slugs.find? path = some index) :
    c.slug? pool path = pool.get? index := by
  rw [slug?, h]
  rfl

/-- A path is listed with a slug that is new to the pool. -/
theorem Linked.slug?_add (h : c.Linked pool) (path other : String) (s : Slug) :
    { c with slugs := c.slugs.insert path pool.next }.slug? (pool.push s) other =
      if other = path then some s else c.slug? pool other := by
  rw [slug?, Table.find?_insert]
  split
  · exact pool.get?_push s
  · cases hindex : c.slugs.find? other with
    | none => rw [slug?, hindex]; rfl
    | some index =>
        obtain ⟨version, hslug⟩ := h other index hindex
        rw [slug?_of_find? hindex, hslug]
        exact SlugPool.get?_push_of_get? hslug s

theorem Copies.listCopy {entries : List (String × Nat)} {made : Container × SlugPool}
    (h : c.Copies pool entries made) {path : String} {index version : Nat}
    (hslug : pool.get? index = some ⟨c.id, path, version⟩) (hnew : path ∉ entries.map Prod.fst) :
    c.Copies pool (entries ++ [(path, index)]) (listCopy made (path, index)) := by
  have hbase := congrArg Container.resource h.rest
  have hid : made.1.id = c.id := congrArg Resource.id hbase
  have hmade : Container.listCopy made (path, index) =
      ({ made.1 with slugs := made.1.slugs.insert path made.2.next },
        made.2.push ⟨made.1.id, path, version⟩) := by
    simp only [Container.listCopy, h.kept hslug, hid]
  rw [hmade]
  refine ⟨h.rest, h.linked.add path version, fun hs ↦ SlugPool.get?_push_of_get? (h.kept hs) _,
    fun other s ↦ ?_⟩
  rw [h.linked.slug?_add]
  split
  · next hother =>
    subst hother
    -- the path has not been copied before
    have honly : ∀ i, (other, i) ∈ entries ++ [(other, index)] ↔ i = index := by
      intro i
      have hnot : (other, i) ∉ entries := fun hmem ↦ hnew (List.mem_map.mpr ⟨_, hmem, rfl⟩)
      simp [hnot]
    simp [honly, hslug, hid]
  · next hother => simp [h.slug?_iff, hother]

theorem Linked.copies (h : c.Linked pool) : c.Copies pool c.slugs.entries (c.copy pool) := by
  have hlisted : ∀ entries, entries <+: c.slugs.entries →
      c.Copies pool entries (entries.foldl Container.listCopy ({ c with slugs := ∅ }, pool)) := by
    intro entries
    induction entries using List.reverseRecOn with
    | nil =>
        intro _
        exact ⟨rfl, fun path index hindex ↦ by simp at hindex, fun hs ↦ hs,
          fun path s ↦ by simp [slug?]⟩
    | append_singleton entries entry ih =>
        intro hhead
        obtain ⟨path, index⟩ := entry
        have hmem : (path, index) ∈ c.slugs.entries := hhead.subset (by simp)
        obtain ⟨version, hslug⟩ := h path index (Table.find?_eq_some_iff.mpr hmem)
        have hnodup : ((entries ++ [(path, index)]).map Prod.fst).Nodup :=
          c.slugs.nodup.sublist (hhead.sublist.map Prod.fst)
        have hnew : path ∉ entries.map Prod.fst := by
          rw [List.map_append, List.nodup_append'] at hnodup
          simpa using hnodup.2.2
        rw [List.foldl_append]
        exact (ih ((List.prefix_append _ _).trans hhead)).listCopy hslug hnew
  exact hlisted _ List.prefix_rfl

/-- A copy has the same slugs. -/
theorem Linked.slug?_copy (h : c.Linked pool) (path : String) :
    (c.copy pool).1.slug? (c.copy pool).2 path = c.slug? pool path := by
  ext s
  rw [h.copies.slug?_iff, slug?, Option.bind_eq_some_iff]
  simp only [Table.find?_eq_some_iff]

theorem Linked.linked_copy (h : c.Linked pool) :
    (c.copy pool).1.Linked (c.copy pool).2 ∧ pool.Grown (c.copy pool).2 :=
  ⟨h.copies.linked, fun _ s hs ↦ ⟨s.version, h.copies.kept hs⟩⟩

/-! ## Merging -/

/-- A slug of the version has been merged at the path, and nothing else has changed. -/
structure Merges (c : Container) (pool : SlugPool) (path : String) (version : Nat)
    (merged : Nat × Container × SlugPool) : Prop where
  registered : merged.2.1.slugs.find? path = some merged.1
  slug : merged.2.2.get? merged.1 = some ⟨c.id, path, version⟩
  reused {index : Nat} (h : c.slugs.find? path = some index) : merged.1 = index
  added (h : c.slugs.find? path = none) : pool.get? merged.1 = none
  others {other : String} (h : other ≠ path) :
    merged.2.1.slugs.find? other = c.slugs.find? other ∧
      merged.2.1.slug? merged.2.2 other = c.slug? pool other
  untouched {index : Nat} (h : index ≠ merged.1) : merged.2.2.get? index = pool.get? index
  rest : { merged.2.1 with slugs := c.slugs } = c

variable {candidate : Slug} {attempt : Nat}

/-- Different paths of a container have different slugs. -/
theorem Linked.path_eq_of_find? (h : c.Linked pool) {path other : String} {index : Nat}
    (hpath : c.slugs.find? path = some index) (hother : c.slugs.find? other = some index) :
    path = other := by
  obtain ⟨version, hslug⟩ := h path index hpath
  obtain ⟨further, hsame⟩ := h other index hother
  exact congrArg Slug.path (Option.some.inj (hslug.symm.trans hsame))

theorem Linked.merges (h : c.Linked pool)
    (hsettles : c.Settles pool candidate.version candidate.path attempt) :
    c.Merges pool (candidatePath candidate.path attempt) candidate.version
      (c.mergeSlug pool candidate) := by
  rcases h.mergeSlug_of_settles candidate hsettles with ⟨index, version, hindex, hslug, -, heq⟩ |
    ⟨hfree, heq⟩
  · rw [heq]
    refine ⟨hindex, SlugPool.get?_adopt_self hslug _, ?_, ?_, fun {other} hother ↦ ⟨rfl, ?_⟩,
      fun hne ↦ SlugPool.get?_adopt_ne _ _ hne, rfl⟩
    · intro registered hregistered
      exact Option.some.inj (hindex.symm.trans hregistered)
    · intro hnone
      rw [hindex] at hnone
      cases hnone
    · cases hslot : c.slugs.find? other with
      | none => rw [slug?, slug?, hslot]; rfl
      | some place =>
          have hne : place ≠ index := by
            rintro rfl
            exact hother (h.path_eq_of_find? hslot hindex)
          rw [slug?_of_find? hslot, slug?_of_find? hslot]
          exact SlugPool.get?_adopt_ne _ _ hne
  · rw [heq]
    refine ⟨Table.find?_insert_self _ _ _, pool.get?_push _, ?_, fun _ ↦ pool.get?_next,
      fun {other} hother ↦ ⟨Table.find?_insert_ne _ _ hother, ?_⟩,
      fun hne ↦ pool.get?_push_ne _ hne, rfl⟩
    · intro registered hregistered
      rw [hfree] at hregistered
      cases hregistered
    · rw [h.slug?_add, if_neg hother]

/-- The search for the same path ends where it has ended before. -/
theorem Merges.settles {merged : Nat × Container × SlugPool} {wanted : Nat} {base : String}
    (h : c.Merges pool (candidatePath base attempt) wanted merged)
    (hsettles : c.Settles pool wanted base attempt) :
    merged.2.1.Settles merged.2.2 wanted base attempt := by
  refine ⟨fun {before} hbefore ↦ ?_, fun {s} hs ↦ ?_⟩
  · have hne : candidatePath base before ≠ candidatePath base attempt :=
      candidatePath_inj.not.mpr (Nat.ne_of_lt hbefore)
    rw [(h.others hne).2]
    exact hsettles.passed hbefore
  · rw [slug?_of_find? h.registered, h.slug] at hs
    exact Nat.le_of_eq (congrArg Slug.version (Option.some.inj hs)).symm

/-- Merging a candidate of the same path and version again finds its slug as it is to be. -/
theorem Linked.mergeSlug_again (h : c.Linked pool) (candidate : Slug) (owner : ResourceId) :
    let merged := c.mergeSlug pool candidate
    merged.2.1.mergeSlug merged.2.2 { candidate with container := owner } = merged := by
  intro merged
  have hsettles := c.settles_freeAttempt pool candidate.version candidate.path
  have hmerges : c.Merges pool _ candidate.version merged := h.merges hsettles
  have hlinked : merged.2.1.Linked merged.2.2 := (h.mergeSlug candidate).1
  have hagain : merged.2.1.Settles merged.2.2 candidate.version candidate.path _ :=
    hmerges.settles hsettles
  rcases hlinked.mergeSlug_of_settles { candidate with container := owner } hagain
    with ⟨index, version, hindex, -, -, heq⟩ | ⟨hfree, -⟩
  · obtain rfl : merged.1 = index := Option.some.inj (hmerges.registered.symm.trans hindex)
    rw [heq]
    have hsame := SlugPool.adopt_eq_self hmerges.slug
    rw [hsame]
  · exact absurd (hmerges.registered.symm.trans hfree) (by simp)

end Container

/-! ## Containers in use -/

/-- A container and its copies, with the pool of their slugs. -/
structure Depot where
  containers : List Container
  pool : SlugPool
  deriving DecidableEq, Repr

/-- What is done with the container at a place, or with the slug at an index of the pool. -/
inductive Use
  | addSlug (place : Nat) (preferred : String)
  | mergeSlug (place : Nat) (candidate : Slug)
  | nextPath (index : Nat)
  | addMember (place : Nat) (member : ResourceId)
  | removeMember (place : Nat) (member : ResourceId)
  | copy (place : Nat)
  deriving DecidableEq, Repr

namespace Depot

def opened (c : Container) (pool : SlugPool) : Depot := ⟨[c], pool⟩

/-- Changes the container at a place, and the pool with it. -/
def change (d : Depot) (place : Nat) (act : Container → Container × SlugPool) : Depot :=
  match d.containers[place]? with
  | some c => ⟨d.containers.set place (act c).1, (act c).2⟩
  | none => d

def use (d : Depot) : Use → Depot
  | .addSlug place preferred =>
      d.change place fun c ↦
        match c.addSlug d.pool preferred with
        | .ok merged => merged.2
        | .error _ => (c, d.pool)
  | .mergeSlug place candidate => d.change place fun c ↦ (c.mergeSlug d.pool candidate).2
  | .nextPath index =>
      match d.pool.nextPath? index with
      | some (_, pool) => { d with pool := pool }
      | none => d
  | .addMember place member =>
      d.change place fun c ↦
        match c.addMember member with
        | .ok (_, after) => (after, d.pool)
        | .error _ => (c, d.pool)
  | .removeMember place member => d.change place fun c ↦ ((c.removeMember member).2, d.pool)
  | .copy place =>
      match d.containers[place]? with
      | some c => ⟨d.containers ++ [(c.copy d.pool).1], (c.copy d.pool).2⟩
      | none => d

def serve (d : Depot) (uses : List Use) : Depot := uses.foldl use d

/-- All containers have their slugs in the pool. -/
def Linked (d : Depot) : Prop := ∀ c ∈ d.containers, c.Linked d.pool

namespace Linked

variable {d : Depot}

theorem opened {c : Container} {pool : SlugPool} (h : c.Linked pool) : (opened c pool).Linked := by
  intro e he
  obtain rfl := List.mem_singleton.mp he
  exact h

theorem change (h : d.Linked) (place : Nat) {act : Container → Container × SlugPool}
    (hact : ∀ c, c.Linked d.pool → (act c).1.Linked (act c).2 ∧ d.pool.Grown (act c).2) :
    (d.change place act).Linked := by
  unfold Depot.change
  cases hplace : d.containers[place]? with
  | none => exact h
  | some c =>
      obtain ⟨hlinked, hgrown⟩ := hact c (h c (List.mem_of_getElem? hplace))
      intro e he
      rcases List.mem_or_eq_of_mem_set he with hold | rfl
      · exact (h e hold).mono hgrown
      · exact hlinked

theorem use (h : d.Linked) (u : Use) : (d.use u).Linked := by
  cases u with
  | addSlug place preferred =>
      simp only [Depot.use]
      refine h.change place fun c hc ↦ ?_
      cases hadd : c.addSlug d.pool preferred with
      | error fault => exact ⟨hc, .refl _⟩
      | ok merged =>
          obtain ⟨path, -, rfl⟩ := Container.addSlug_eq_ok_iff.mp hadd
          exact hc.mergeSlug _
  | mergeSlug place candidate =>
      simp only [Depot.use]
      exact h.change place fun c hc ↦ hc.mergeSlug candidate
  | nextPath index =>
      cases hnext : d.pool.nextPath? index with
      | none => simpa only [Depot.use, hnext] using h
      | some next =>
          simp only [Depot.use, hnext]
          exact fun c hc ↦ (h c hc).mono (SlugPool.grown_nextPath hnext)
  | addMember place member =>
      simp only [Depot.use, Container.addMember_eq]
      refine h.change place fun c hc ↦ ?_
      cases c.hasMember member with
      | true => exact ⟨hc, .refl _⟩
      | false => exact ⟨hc.congr rfl rfl, .refl _⟩
  | removeMember place member =>
      simp only [Depot.use]
      refine h.change place fun c hc ↦ ⟨hc.congr ?_ (c.slugs_removeMember member), .refl _⟩
      exact congrArg Resource.id (c.id_removeMember member)
  | copy place =>
      cases hplace : d.containers[place]? with
      | none => simpa only [Depot.use, hplace] using h
      | some c =>
          obtain ⟨hlinked, hgrown⟩ := (h c (List.mem_of_getElem? hplace)).linked_copy
          simp only [Depot.use, hplace]
          intro e he
          rcases List.mem_append.mp he with hold | hnew
          · exact (h e hold).mono hgrown
          · obtain rfl := List.mem_singleton.mp hnew
            exact hlinked

theorem serve (h : d.Linked) (uses : List Use) : (d.serve uses).Linked := by
  induction uses generalizing d with
  | nil => exact h
  | cons u uses ih => exact ih (h.use u)

end Linked

end Depot

namespace Kernel

/-- However a container of a run and its copies are used, the search for the path of a candidate
ends after at most as many collisions as there are slugs, at the first path without a slug or with
one that has not gone beyond the candidate. Merging leaves a slug of the candidate's version there,
and no more changes, also if the candidate is merged again. -/
theorem mergeSlug_settles (library : TemplateLibrary) (moves : List Move) :
    ((ofLibrary library).run moves).view.Every fun s ↦
      ∀ key c, s.entity? key = some (.container c) → ∀ uses : List Use,
        let d := (Depot.opened c s.slugs).serve uses
        ∀ e ∈ d.containers, ∀ candidate : Slug, ∃ attempt ≤ e.slugs.size,
          e.Settles d.pool candidate.version candidate.path attempt ∧
          let merged := e.mergeSlug d.pool candidate
          e.Merges d.pool (Container.candidatePath candidate.path attempt) candidate.version
              merged ∧
            ∀ owner : ResourceId,
              merged.2.1.mergeSlug merged.2.2 { candidate with container := owner } = merged := by
  refine (linked_run library moves).imp ?_
  rintro s ⟨-, hlinked⟩ key c hc uses d e he candidate
  have hserved : e.Linked d.pool := (Depot.Linked.opened (hlinked key c hc)).serve uses e he
  have hsettles := e.settles_freeAttempt d.pool candidate.version candidate.path
  exact ⟨_, hsettles.le_size, hsettles, hserved.merges hsettles, hserved.mergeSlug_again candidate⟩

/-- A copy of a slug that has handed out two paths is passed by a candidate of version one. -/
theorem copied_news_passed :
    let moves : List Move := [.begin "reader" "t", .change "t" (.create "shelf" (.text "a")),
      .commit "t"]
    let k := (ofLibrary .shelves).run moves
    let c := Container.fresh ⟨.text "a", "shelf"⟩ none
      ⟨"shelf", "shelves", none, none, [], .container ⟨"book", none⟩⟩
    let uses : List Use := [.addSlug 0 "news", .nextPath 0, .nextPath 0, .copy 0]
    let d := (Depot.opened c k.committed.slugs).serve uses
    let e := { c with slugs := .ofList [("news", 1)] }
    let candidate : Slug := ⟨⟨.text "b", "shelf"⟩, "news", 1⟩
    k.committed.entity? ⟨"shelf", "text", "AQAAAAFh"⟩ = some (.container c) ∧
      d.containers[1]? = some e ∧
        e.Merges d.pool (Slug.numbered "news" 1) 1 (e.mergeSlug d.pool candidate) := by
  intro moves k c uses d e candidate
  have hc : k.committed.entity? ⟨"shelf", "text", "AQAAAAFh"⟩ = some (.container c) := by
    decide +kernel
  have he : d.containers[1]? = some e := by decide +kernel
  have hsettles : e.Settles d.pool 1 "news" 1 := by
    refine ⟨fun {before} hbefore ↦ ?_, fun {s} hs ↦ ?_⟩
    · obtain rfl : before = 0 := Nat.lt_one_iff.mp hbefore
      exact ⟨⟨c.id, "news", 2⟩, by decide +kernel, by decide⟩
    · have hnone : e.slug? d.pool (Container.candidatePath "news" 1) = none := by decide +kernel
      rw [hnone] at hs
      cases hs
  obtain ⟨attempt, -, hends, hmerges, -⟩ := (mergeSlug_settles .shelves moves).committed _ c hc
    uses e (List.mem_of_getElem? he) candidate
  obtain rfl : attempt = 1 := hends.unique hsettles
  exact ⟨hc, he, hmerges⟩

end Kernel

end ResourceKernel
