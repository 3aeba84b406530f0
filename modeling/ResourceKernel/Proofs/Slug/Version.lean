import Mathlib.Data.List.Nodup
import ResourceKernel.Proofs.Slug.Merge

/-!
# Versions of slugs

A container and its copies are used in any order, and slugs are asked for paths in between. No use
takes a version back, and a request for a path raises it by one, so that the paths of a slug differ
even if candidates raise its version in between. A slug that no candidate is merged with hands out
its preferred path and then the numbered ones in turn.
-/

namespace ResourceKernel

namespace SlugPool

variable {p q r : SlugPool}

/-- All slugs are still there, and no version has become less. -/
def Raised (p q : SlugPool) : Prop :=
  ∀ index s, p.get? index = some s →
    ∃ version, q.get? index = some { s with version := version } ∧ s.version ≤ version

theorem Raised.refl (p : SlugPool) : p.Raised p := fun _ s hs ↦ ⟨s.version, hs, Nat.le_refl _⟩

theorem Raised.trans (h₁ : p.Raised q) (h₂ : q.Raised r) : p.Raised r := by
  intro index s hs
  obtain ⟨version, hmid, hle⟩ := h₁ index s hs
  obtain ⟨further, hlast, hle'⟩ := h₂ index _ hmid
  exact ⟨further, hlast, Nat.le_trans hle hle'⟩

/-- All slugs are still there as they were. -/
def Kept (p q : SlugPool) : Prop := ∀ index s, p.get? index = some s → q.get? index = some s

theorem Kept.refl (p : SlugPool) : p.Kept p := fun _ _ hs ↦ hs

theorem Kept.raised (h : p.Kept q) : p.Raised q :=
  fun index s hs ↦ ⟨s.version, h index s hs, Nat.le_refl _⟩

theorem kept_push (p : SlugPool) (added : Slug) : p.Kept (p.push added) :=
  fun _ _ hs ↦ get?_push_of_get? hs added

theorem raised_adopt {index version : Nat} {s : Slug} (h : p.get? index = some s)
    (hle : s.version ≤ version) : p.Raised (p.adopt index version) := by
  intro other t ht
  by_cases hother : other = index
  · subst hother
    obtain rfl := Option.some.inj (h.symm.trans ht)
    exact ⟨version, get?_adopt_self h version, hle⟩
  · exact ⟨t.version, (p.get?_adopt_ne version hother).trans ht, Nat.le_refl _⟩

theorem raised_nextPath {index : Nat} {path : String} (h : p.nextPath? index = some (path, q)) :
    p.Raised q := by
  intro other t ht
  obtain ⟨s, hs, hself, hothers⟩ := get?_nextPath h
  by_cases hother : other = index
  · subst hother
    obtain rfl := Option.some.inj (hs.symm.trans ht)
    exact ⟨s.version + 1, hself, Nat.le_succ _⟩
  · exact ⟨t.version, (hothers other hother).trans ht, Nat.le_refl _⟩

theorem nextPath?_of_get? {index : Nat} {s : Slug} (h : p.get? index = some s) :
    p.nextPath? index = some (Slug.pathAt s.path s.version, p.set index s.nextPath.2) := by
  rw [nextPath?, h]
  rfl

theorem get?_set_self {index : Nat} {s : Slug} (h : p.get? index = some s) (t : Slug) :
    (p.set index t).get? index = some t :=
  List.getElem?_set_self (List.getElem?_eq_some_iff.mp h).1

end SlugPool

namespace Container

variable {c : Container} {pool : SlugPool}

theorem Linked.raised_mergeSlug (h : c.Linked pool) (candidate : Slug) :
    pool.Raised (c.mergeSlug pool candidate).2.2 := by
  obtain ⟨path, ⟨index, version, -, hslug, hle, heq⟩ | ⟨-, heq⟩⟩ := h.mergeSlug_cases candidate
  · rw [heq]
    exact SlugPool.raised_adopt hslug hle
  · rw [heq]
    exact (pool.kept_push _).raised

/-- A candidate that has not handed out a path leaves all versions as they are. -/
theorem Linked.kept_mergeSlug (h : c.Linked pool) {candidate : Slug}
    (hnew : candidate.version = 0) : pool.Kept (c.mergeSlug pool candidate).2.2 := by
  obtain ⟨path, ⟨index, version, -, hslug, hle, heq⟩ | ⟨-, heq⟩⟩ := h.mergeSlug_cases candidate
  · have hsame : candidate.version = version := by omega
    rw [heq, hsame, SlugPool.adopt_eq_self hslug]
    exact .refl pool
  · rw [heq]
    exact pool.kept_push _

end Container

namespace Depot

variable {d : Depot} {index : Nat} {slug : Slug}

/-- What the slug at an index hands out when a container or a slug is used. -/
def hands (d : Depot) (index : Nat) (u : Use) : Option String :=
  if u = .nextPath index then (d.pool.nextPath? index).map Prod.fst else none

/-- The paths that the slug at an index hands out, in order. -/
def handed (index : Nat) : Depot → List Use → List String
  | _, [] => []
  | d, u :: uses => (d.hands index u).toList ++ handed index (d.use u) uses

theorem pool_change (d : Depot) (place : Nat) (act : Container → Container × SlugPool) :
    (d.change place act).pool = d.pool ∨
      ∃ c ∈ d.containers, (d.change place act).pool = (act c).2 := by
  unfold change
  cases hplace : d.containers[place]? with
  | none => exact Or.inl rfl
  | some c => exact Or.inr ⟨c, List.mem_of_getElem? hplace, rfl⟩

/-- What is true of the old and the new pool if nothing is done, or something is done with a
container that is linked. -/
theorem Linked.of_change {R : SlugPool → SlugPool → Prop} (h : d.Linked) (place : Nat)
    {act : Container → Container × SlugPool} (hrefl : R d.pool d.pool)
    (hact : ∀ c, c.Linked d.pool → R d.pool (act c).2) : R d.pool (d.change place act).pool := by
  obtain hsame | ⟨c, hc, hpool⟩ := d.pool_change place act
  · rwa [hsame]
  · rw [hpool]
    exact hact c (h c hc)

/-- Only a candidate of a higher version, and a request for a path, change slugs. -/
theorem Linked.kept_use (h : d.Linked) {u : Use} (hmerge : ∀ place candidate,
    u ≠ .mergeSlug place candidate) (hnext : ∀ index, u ≠ .nextPath index) :
    d.pool.Kept (d.use u).pool := by
  have hrefl := SlugPool.Kept.refl d.pool
  cases u with
  | addSlug place preferred =>
      simp only [Depot.use]
      refine h.of_change (R := SlugPool.Kept) place hrefl fun c hc ↦ ?_
      cases hadd : c.addSlug d.pool preferred with
      | error fault => exact hrefl
      | ok merged =>
          obtain ⟨path, -, rfl⟩ := Container.addSlug_eq_ok_iff.mp hadd
          exact hc.kept_mergeSlug rfl
  | mergeSlug place candidate => exact absurd rfl (hmerge place candidate)
  | nextPath index => exact absurd rfl (hnext index)
  | addMember place member =>
      simp only [Depot.use]
      refine h.of_change (R := SlugPool.Kept) place hrefl fun c _ ↦ ?_
      cases c.addMember member <;> exact hrefl
  | removeMember place member =>
      simp only [Depot.use]
      exact h.of_change (R := SlugPool.Kept) place hrefl fun _ _ ↦ hrefl
  | copy place =>
      simp only [Depot.use]
      cases hplace : d.containers[place]? with
      | none => exact hrefl
      | some c =>
          exact fun _ _ hs ↦ (h c (List.mem_of_getElem? hplace)).copies.kept hs

theorem Linked.raised_use (h : d.Linked) (u : Use) : d.pool.Raised (d.use u).pool := by
  by_cases hmerge : ∃ place candidate, u = .mergeSlug place candidate
  · obtain ⟨place, candidate, rfl⟩ := hmerge
    simp only [Depot.use]
    exact h.of_change (R := SlugPool.Raised) place (.refl d.pool) fun c hc ↦
      hc.raised_mergeSlug candidate
  · by_cases hnext : ∃ index, u = .nextPath index
    · obtain ⟨index, rfl⟩ := hnext
      simp only [Depot.use]
      cases hask : d.pool.nextPath? index with
      | none => exact .refl d.pool
      | some next => exact SlugPool.raised_nextPath hask
    · refine (h.kept_use (fun place candidate hu ↦ ?_) fun index hu ↦ ?_).raised
      · exact hmerge ⟨place, candidate, hu⟩
      · exact hnext ⟨index, hu⟩

theorem Linked.raised_serve (h : d.Linked) (uses : List Use) :
    d.pool.Raised (d.serve uses).pool := by
  induction uses generalizing d with
  | nil => exact .refl d.pool
  | cons u uses ih => exact (h.raised_use u).trans (ih (h.use u))

theorem use_nextPath (hslug : d.pool.get? index = some slug) :
    (d.use (.nextPath index)).pool = d.pool.set index { slug with version := slug.version + 1 } := by
  simp only [use, SlugPool.nextPath?_of_get? hslug]
  rfl

theorem get?_use_nextPath (hslug : d.pool.get? index = some slug) :
    (d.use (.nextPath index)).pool.get? index =
      some { slug with version := slug.version + 1 } := by
  rw [use_nextPath hslug]
  exact SlugPool.get?_set_self hslug _

theorem handed_nextPath (hslug : d.pool.get? index = some slug) (uses : List Use) :
    handed index d (.nextPath index :: uses) =
      Slug.pathAt slug.path slug.version :: handed index (d.use (.nextPath index)) uses := by
  rw [handed, hands, if_pos rfl, SlugPool.nextPath?_of_get? hslug]
  rfl

theorem handed_of_ne {u : Use} (hu : u ≠ .nextPath index) (uses : List Use) :
    handed index d (u :: uses) = handed index (d.use u) uses := by
  rw [handed, hands, if_neg hu]
  rfl

/-- Each path is that of a version, and the versions grow. -/
theorem Linked.exists_versions (h : d.Linked) (hslug : d.pool.get? index = some slug)
    (uses : List Use) :
    ∃ versions : List Nat, versions.Pairwise (· < ·) ∧ (∀ v ∈ versions, slug.version ≤ v) ∧
      handed index d uses = versions.map (Slug.pathAt slug.path) := by
  induction uses generalizing d slug with
  | nil => exact ⟨[], List.Pairwise.nil, nofun, rfl⟩
  | cons u uses ih =>
      by_cases hu : u = .nextPath index
      · subst hu
        obtain ⟨versions, hgrow, hle, heq⟩ := ih (h.use _) (get?_use_nextPath hslug)
        refine ⟨slug.version :: versions, List.pairwise_cons.mpr ⟨hle, hgrow⟩, ?_, ?_⟩
        · refine List.forall_mem_cons.mpr ⟨Nat.le_refl _, fun v hv ↦ ?_⟩
          exact Nat.le_of_succ_le (hle v hv)
        · rw [handed_nextPath hslug, heq]
          rfl
      · obtain ⟨version, hlater, hraised⟩ := h.raised_use u index slug hslug
        obtain ⟨versions, hgrow, hle, heq⟩ := ih (h.use u) hlater
        refine ⟨versions, hgrow, fun v hv ↦ Nat.le_trans hraised (hle v hv), ?_⟩
        rw [handed_of_ne hu, heq]

theorem Linked.nodup_handed (h : d.Linked) (hslug : d.pool.get? index = some slug)
    (uses : List Use) : (handed index d uses).Nodup := by
  obtain ⟨versions, hgrow, -, heq⟩ := h.exists_versions hslug uses
  rw [heq]
  have hnodup : versions.Nodup := hgrow.imp Nat.ne_of_lt
  exact hnodup.map fun v w ↦ Slug.pathAt_inj.mp

theorem Linked.get?_use_of_ne (h : d.Linked) (hslug : d.pool.get? index = some slug) {u : Use}
    (hmerge : ∀ place candidate, u ≠ .mergeSlug place candidate) (hu : u ≠ .nextPath index) :
    (d.use u).pool.get? index = some slug := by
  by_cases hnext : ∃ other, u = .nextPath other
  · obtain ⟨other, rfl⟩ := hnext
    have hne : index ≠ other := fun heq ↦ hu (heq ▸ rfl)
    simp only [Depot.use]
    cases hask : d.pool.nextPath? other with
    | none => exact hslug
    | some next =>
        obtain ⟨-, -, -, hothers⟩ := SlugPool.get?_nextPath hask
        exact (hothers index hne).trans hslug
  · exact h.kept_use hmerge (fun other heq ↦ hnext ⟨other, heq⟩) index slug hslug

/-- Without candidates each request for a path is answered with the next number. -/
theorem Linked.handed_eq (h : d.Linked) (hslug : d.pool.get? index = some slug) {uses : List Use}
    (hmerge : ∀ place candidate, .mergeSlug place candidate ∉ uses) :
    handed index d uses =
      (List.range' slug.version (uses.count (.nextPath index))).map (Slug.pathAt slug.path) := by
  induction uses generalizing d slug with
  | nil => rfl
  | cons u uses ih =>
      have hrest : ∀ place candidate, .mergeSlug place candidate ∉ uses :=
        fun place candidate hmem ↦ hmerge place candidate (List.mem_cons_of_mem u hmem)
      by_cases hu : u = .nextPath index
      · subst hu
        rw [handed_nextPath hslug, ih (h.use _) (get?_use_nextPath hslug) hrest,
          List.count_cons_self, List.range'_succ, List.map_cons]
      · have hfirst : ∀ place candidate, u ≠ .mergeSlug place candidate :=
          fun place candidate heq ↦ hmerge place candidate (heq ▸ List.mem_cons_self)
        rw [handed_of_ne hu, ih (h.use u) (h.get?_use_of_ne hslug hfirst hu) hrest,
          List.count_cons_of_ne hu]

end Depot

namespace Kernel

/-- However a container of a run and its copies are used, the version of a slug never decreases, a
request for a path raises it by one, and the slug never hands out a path twice. As long as no
candidate is merged, a slug that is new hands out its preferred path first, and then this path with
the numbers from one on. -/
theorem slug_versions_grow (library : TemplateLibrary) (moves : List Move) :
    ((ofLibrary library).run moves).view.Every fun s ↦
      ∀ key c, s.entity? key = some (.container c) → ∀ before : List Use,
        let d := (Depot.opened c s.slugs).serve before
        ∀ index slug, d.pool.get? index = some slug → ∀ uses : List Use,
          (∃ version, (d.serve uses).pool.get? index = some { slug with version := version } ∧
            slug.version ≤ version) ∧
          (d.use (.nextPath index)).pool.get? index =
            some { slug with version := slug.version + 1 } ∧
          (Depot.handed index d uses).Nodup ∧
          (slug.version = 0 → (∀ place candidate, .mergeSlug place candidate ∉ uses) →
            Depot.handed index d uses = (List.range (uses.count (.nextPath index))).map fun n ↦
              if n = 0 then slug.path else slug.path ++ "_" ++ Text.Decimal.ofNat n) := by
  refine (linked_run library moves).imp ?_
  rintro s ⟨-, hlinked⟩ key c hc before d index slug hslug uses
  have hserved : d.Linked := (Depot.Linked.opened (hlinked key c hc)).serve before
  refine ⟨hserved.raised_serve uses index slug hslug, Depot.get?_use_nextPath hslug,
    hserved.nodup_handed hslug uses, fun hnew hmerge ↦ ?_⟩
  rw [hserved.handed_eq hslug hmerge, hnew, ← List.range_eq_range']
  rfl

/-- A slug that is asked for again in between goes on with its numbers. -/
theorem news_in_turn :
    let moves : List Move := [.begin "reader" "t", .change "t" (.create "shelf" (.text "a")),
      .commit "t"]
    let k := (ofLibrary .shelves).run moves
    let c := Container.fresh ⟨.text "a", "shelf"⟩ none
      ⟨"shelf", "shelves", none, none, [], .container ⟨"book", none⟩⟩
    let d := (Depot.opened c k.committed.slugs).serve [.addSlug 0 "news"]
    let uses : List Use := [.nextPath 0, .addSlug 0 "news", .nextPath 0, .nextPath 1, .nextPath 0]
    k.committed.entity? ⟨"shelf", "text", "AQAAAAFh"⟩ = some (.container c) ∧
      d.pool.get? 0 = some ⟨c.id, "news", 0⟩ ∧
      Depot.handed 0 d uses = ["news", "news_1", "news_2"] := by
  intro moves k c d uses
  have hc : k.committed.entity? ⟨"shelf", "text", "AQAAAAFh"⟩ = some (.container c) := by
    decide +kernel
  have hslug : d.pool.get? 0 = some ⟨c.id, "news", 0⟩ := by decide +kernel
  have hmerge : ∀ place candidate, Use.mergeSlug place candidate ∉ uses := by simp [uses]
  obtain ⟨-, -, -, hturn⟩ := (slug_versions_grow .shelves moves).committed _ c hc
    [.addSlug 0 "news"] 0 _ hslug uses
  refine ⟨hc, hslug, (hturn rfl hmerge).trans ?_⟩
  decide +kernel

end Kernel

end ResourceKernel
