import ResourceKernel.Proofs.Kernel.Run
import ResourceKernel.Proofs.Slug.Path

/-!
# Slugs of containers

The pool has a slug for every path that a container lists: it belongs to the container, and has
this path as its preferred one. Slugs are never lost, and nothing but their versions changes, so
that this holds in every state of a run.
-/

namespace ResourceKernel

namespace SlugPool

/-- All slugs are still there, with other versions at most. -/
def Grown (p q : SlugPool) : Prop :=
  ∀ index s, p.get? index = some s → ∃ version, q.get? index = some { s with version := version }

theorem Grown.refl (p : SlugPool) : p.Grown p := fun _ s hs ↦ ⟨s.version, hs⟩

theorem get?_push_of_get? {p : SlugPool} {index : Nat} {s : Slug} (h : p.get? index = some s)
    (added : Slug) : (p.push added).get? index = some s := by
  have hlt : index < p.slugs.length := (List.getElem?_eq_some_iff.mp h).1
  exact (List.getElem?_append_left hlt).trans h

theorem adopt_eq_self {p : SlugPool} {index : Nat} {s : Slug} (h : p.get? index = some s) :
    p.adopt index s.version = p := by
  obtain ⟨hlt, hs⟩ := List.getElem?_eq_some_iff.mp h
  simp only [adopt, h, set]
  have hsame : p.slugs.set index s = p.slugs := by
    rw [← hs]
    exact List.set_getElem_self hlt
  exact congrArg SlugPool.mk hsame

theorem get?_adopt_self {p : SlugPool} {index : Nat} {s : Slug} (h : p.get? index = some s)
    (version : Nat) : (p.adopt index version).get? index = some { s with version := version } := by
  have hlt : index < p.slugs.length := (List.getElem?_eq_some_iff.mp h).1
  simp only [adopt, h]
  exact List.getElem?_set_self hlt

theorem get?_adopt_ne (p : SlugPool) {index other : Nat} (version : Nat) (h : other ≠ index) :
    (p.adopt index version).get? other = p.get? other := by
  unfold adopt
  split
  · exact p.get?_set_ne _ h
  · rfl

theorem grown_push (p : SlugPool) (added : Slug) : p.Grown (p.push added) :=
  fun _ s hs ↦ ⟨s.version, get?_push_of_get? hs added⟩

theorem grown_adopt (p : SlugPool) (index version : Nat) : p.Grown (p.adopt index version) := by
  intro other s hs
  by_cases hother : other = index
  · subst hother
    exact ⟨version, get?_adopt_self hs version⟩
  · exact ⟨s.version, (p.get?_adopt_ne version hother).trans hs⟩

theorem grown_nextPath {p q : SlugPool} {index : Nat} {path : String}
    (h : p.nextPath? index = some (path, q)) : p.Grown q := by
  intro other s hs
  obtain ⟨raised, hraised, hself, hothers⟩ := get?_nextPath h
  by_cases hother : other = index
  · subst hother
    obtain rfl := Option.some.inj (hs.symm.trans hraised)
    exact ⟨s.version + 1, hself⟩
  · exact ⟨s.version, (hothers other hother).trans hs⟩

end SlugPool

namespace Container

/-- The pool has a slug of the container for every path it lists. -/
def Linked (c : Container) (pool : SlugPool) : Prop :=
  ∀ path index, c.slugs.find? path = some index →
    ∃ version, pool.get? index = some ⟨c.id, path, version⟩

variable {c d : Container} {pool : SlugPool}

theorem linked_fresh (id : ResourceId) (parent : Option ResourceId) (t : Template)
    (pool : SlugPool) : (fresh id parent t).Linked pool := by
  intro path index hindex
  simp [fresh] at hindex

theorem Linked.congr (h : c.Linked pool) (hid : d.id = c.id) (hslugs : d.slugs = c.slugs) :
    d.Linked pool := by
  intro path index hindex
  rw [hid]
  exact h path index (hslugs ▸ hindex)

theorem Linked.mono (h : c.Linked pool) {after : SlugPool} (hgrown : pool.Grown after) :
    c.Linked after := by
  intro path index hindex
  obtain ⟨version, hslug⟩ := h path index hindex
  exact hgrown index _ hslug

/-- Where the search for a path ends, merging takes up the slug that is registered there, or adds
one to the container and the pool. -/
theorem Linked.mergeSlug_of_settles (h : c.Linked pool) (candidate : Slug) {attempt : Nat}
    (hsettles : c.Settles pool candidate.version candidate.path attempt) :
    let path := candidatePath candidate.path attempt
    (∃ index version, c.slugs.find? path = some index ∧
      pool.get? index = some ⟨c.id, path, version⟩ ∧ version ≤ candidate.version ∧
        c.mergeSlug pool candidate = (index, c, pool.adopt index candidate.version)) ∨
    (c.slugs.find? path = none ∧
      c.mergeSlug pool candidate =
        (pool.next, { c with slugs := c.slugs.insert path pool.next },
          pool.push ⟨c.id, path, candidate.version⟩)) := by
  intro path
  have hattempt : c.freeAttempt pool candidate.version candidate.path c.slugs.size 0 = attempt :=
    (c.settles_freeAttempt pool candidate.version candidate.path).unique hsettles
  cases hindex : c.slugs.find? path with
  | none =>
      refine Or.inr ⟨rfl, ?_⟩
      simp only [Container.mergeSlug, hattempt]
      simp only [path] at hindex
      simp only [hindex]
      rfl
  | some index =>
      obtain ⟨version, hslug⟩ := h path index hindex
      have hregistered : c.slug? pool path = some ⟨c.id, path, version⟩ := by
        rw [slug?, hindex]
        exact hslug
      refine Or.inl ⟨index, version, rfl, hslug, hsettles.free hregistered, ?_⟩
      simp only [Container.mergeSlug, hattempt]
      simp only [path] at hindex
      simp only [hindex]

/-- Merging either takes up a slug that has not gone beyond the candidate, or adds one to the
container and the pool. -/
theorem Linked.mergeSlug_cases (h : c.Linked pool) (candidate : Slug) :
    ∃ path,
      (∃ index version, c.slugs.find? path = some index ∧
        pool.get? index = some ⟨c.id, path, version⟩ ∧ version ≤ candidate.version ∧
          c.mergeSlug pool candidate = (index, c, pool.adopt index candidate.version)) ∨
      (c.slugs.find? path = none ∧
        c.mergeSlug pool candidate =
          (pool.next, { c with slugs := c.slugs.insert path pool.next },
            pool.push ⟨c.id, path, candidate.version⟩)) :=
  ⟨_, h.mergeSlug_of_settles candidate
    (c.settles_freeAttempt pool candidate.version candidate.path)⟩

theorem Linked.add (h : c.Linked pool) (path : String) (version : Nat) :
    { c with slugs := c.slugs.insert path pool.next }.Linked
      (pool.push ⟨c.id, path, version⟩) := by
  intro other index hindex
  rw [Table.find?_insert] at hindex
  split at hindex
  · next hpath =>
    obtain rfl := Option.some.inj hindex
    obtain rfl := hpath
    exact ⟨version, pool.get?_push _⟩
  · exact h.mono (pool.grown_push _) other index hindex

theorem Linked.mergeSlug (h : c.Linked pool) (candidate : Slug) :
    (c.mergeSlug pool candidate).2.1.Linked (c.mergeSlug pool candidate).2.2 ∧
      pool.Grown (c.mergeSlug pool candidate).2.2 := by
  obtain ⟨path, ⟨index, version, -, -, -, heq⟩ | ⟨-, heq⟩⟩ := h.mergeSlug_cases candidate
  · rw [heq]
    have hgrown := pool.grown_adopt index candidate.version
    exact ⟨h.mono hgrown, hgrown⟩
  · rw [heq]
    exact ⟨h.add path _, pool.grown_push _⟩

end Container

namespace StoreState

/-- The slugs of all containers are in the pool. -/
def Linked (s : StoreState) : Prop :=
  ∀ key c, s.entity? key = some (.container c) → c.Linked s.slugs

theorem linked_empty : empty.Linked := by
  intro key c hc
  simp [empty, entity?] at hc

namespace Linked

variable {s t : StoreState} {key : StoredKey} {e : Entity}

theorem put (h : s.Linked) (hput : t.resources = s.resources.insert key e)
    (hgrown : s.slugs.Grown t.slugs) (hnew : ∀ c, e = .container c → c.Linked t.slugs) :
    t.Linked := by
  intro other c hc
  rw [entity?_of_insert hput] at hc
  split at hc
  · exact hnew c (Option.some.inj hc)
  · exact (h other c hc).mono hgrown

/-- What happens to the common part of an entity does not touch its slugs. -/
theorem putBase (h : s.Linked) (he : s.entity? key = some e) {r : Resource}
    (hput : t.resources = s.resources.insert key (e.withBase r)) (hslugs : t.slugs = s.slugs)
    (hid : r.id = e.id) : t.Linked := by
  refine h.put hput (hslugs ▸ .refl _) ?_
  intro c hc
  rw [hslugs]
  cases e with
  | resource _ => cases hc
  | container d =>
      obtain rfl := Entity.container.inj hc
      exact (h key d he).congr hid rfl

theorem putContainer (h : s.Linked) {c d : Container}
    (hc : s.entity? key = some (.container c)) (hid : d.id = c.id) (hslugs : d.slugs = c.slugs) :
    (s.putEntity key (.container d)).Linked := by
  refine h.put rfl (.refl _) ?_
  rintro other ⟨⟩
  exact (h key c hc).congr hid hslugs

end Linked

end StoreState

theorem Container.slugs_removeMember (c : Container) (member : ResourceId) :
    (c.removeMember member).2.slugs = c.slugs := by
  unfold Container.removeMember
  split <;> rfl

theorem Effect.linked {library : TemplateLibrary} {s t : StoreState} (h : Effect library s t)
    (hs : s.Linked) : t.Linked := by
  cases h with
  | found _ _ _ _ _ =>
      refine hs.put rfl (.refl _) ?_
      intro c hc
      unfold Entity.fresh at hc
      split at hc
      · exact Entity.container.inj hc ▸ Container.linked_fresh _ _ _ _
      · cases hc
  | bound _ _ he => exact hs.putBase he rfl rfl rfl
  | cleared he => exact hs.putBase he rfl rfl rfl
  | entered _ _ _ hc => exact hs.putContainer hc rfl rfl
  | dropped hc =>
      refine hs.putContainer hc ?_ (Container.slugs_removeMember _ _)
      exact congrArg Resource.id (Container.id_removeMember _ _)
  | @merged key c candidate hc =>
      obtain ⟨hlinked, hgrown⟩ := (hs key c hc).mergeSlug candidate
      refine hs.put rfl hgrown ?_
      rintro other ⟨⟩
      exact hlinked
  | advanced hnext => exact fun key c hc ↦ (hs key c hc).mono (SlugPool.grown_nextPath hnext)
  | directed he => exact hs.putBase he rfl rfl rfl
  | complained _ he hreport =>
      obtain ⟨failure, -, rfl, rfl⟩ := Resource.report?_eq_some_iff.mp hreport
      exact hs.putBase he rfl rfl rfl
  | complainedAside he hreport =>
      obtain ⟨failure, -, rfl, rfl⟩ := Resource.report?_eq_some_iff.mp hreport
      exact hs.putBase he rfl rfl rfl
  | settled _ he => exact hs.putBase he rfl rfl rfl
  | removed _ _ =>
      intro key c hc
      rw [StoreState.entity?_of_erase rfl] at hc
      split at hc
      · cases hc
      · exact hs key c hc
  | published => exact hs
  | amended => exact hs
  | retracted => exact hs

theorem Kernel.linked_run (library : TemplateLibrary) (moves : List Move) :
    ((ofLibrary library).run moves).view.Every fun s ↦ s.Sound ∧ s.Linked :=
  every_run library StoreState.linked_empty (fun _ _ h _ hs ↦ h.linked hs) moves

end ResourceKernel
