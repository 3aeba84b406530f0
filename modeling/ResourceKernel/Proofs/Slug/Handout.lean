import ResourceKernel.Proofs.Slug.Linked

/-!
# Paths handed out twice

A container is asked for slugs, and the slugs it has given are asked for paths, in any order. The
paths differ unless one slug has come to a number that makes its path the preferred path of
another: a slug is new until it hands out its preferred path, and nothing looks for the numbered
paths of the others.
-/

namespace ResourceKernel

/-- A request for a slug, or for the next path of the slug that was given at a turn. -/
inductive Ask
  | slug (preferred : String)
  | path (turn : Nat)
  deriving DecidableEq, Repr

/-- A container with the pool of its slugs, the slugs it has given, and the paths these have handed
out. -/
structure Desk where
  container : Container
  pool : SlugPool
  given : List Nat
  paths : List String
  deriving DecidableEq, Repr

namespace Desk

def opened (c : Container) (pool : SlugPool) : Desk := ⟨c, pool, [], []⟩

/-- The desk after the container has answered a request for a slug. -/
def receive (d : Desk) : Except GraphFault (Nat × Container × SlugPool) → Desk
  | .ok (index, c, pool) => { d with container := c, pool := pool, given := d.given ++ [index] }
  | .error _ => d

def give (d : Desk) (preferred : String) : Desk :=
  d.receive (d.container.addSlug d.pool preferred)

/-- The desk after a request for a path. -/
def handOut (d : Desk) (turn : Nat) : Desk :=
  match d.given[turn]?.bind d.pool.nextPath? with
  | some (path, pool) => { d with pool := pool, paths := d.paths ++ [path] }
  | none => d

def step (d : Desk) : Ask → Desk
  | .slug preferred => d.give preferred
  | .path turn => d.handOut turn

def serve (d : Desk) (asks : List Ask) : Desk := asks.foldl step d

theorem serve_cons (d : Desk) (ask : Ask) (asks : List Ask) :
    d.serve (ask :: asks) = (d.step ask).serve asks := rfl

/-- A slug with the preferred path has been given, and it has reached the version. -/
def Gave (d : Desk) (path : String) (reached : Nat) : Prop :=
  ∃ index ∈ d.given, d.pool.get? index = some ⟨d.container.id, path, reached⟩

/-- The paths are those of a log of preferred paths with versions. The log has every version that
a given slug has passed, once. -/
structure Logged (d : Desk) (log : List (String × Nat)) : Prop where
  linked : d.container.Linked d.pool
  listed : ∀ index ∈ d.given, ∃ path, d.container.slugs.find? path = some index
  paths_eq : d.paths = log.map fun e ↦ Slug.pathAt e.1 e.2
  nodup : log.Nodup
  mem_iff (path : String) (version : Nat) :
    (path, version) ∈ log ↔ ∃ reached, d.Gave path reached ∧ version < reached

namespace Logged

variable {d : Desk} {log : List (String × Nat)}

theorem opened {c : Container} {pool : SlugPool} (h : c.Linked pool) :
    (Desk.opened c pool).Logged [] where
  linked := h
  listed := by simp [Desk.opened]
  paths_eq := rfl
  nodup := List.nodup_nil
  mem_iff path version := by simp [Gave, Desk.opened]

/-- The pool has all slugs that were given. -/
theorem get?_given (h : d.Logged log) {index : Nat} (hindex : index ∈ d.given) :
    ∃ path reached, d.container.slugs.find? path = some index ∧
      d.pool.get? index = some ⟨d.container.id, path, reached⟩ := by
  obtain ⟨path, hpath⟩ := h.listed index hindex
  obtain ⟨reached, hslug⟩ := h.linked path index hpath
  exact ⟨path, reached, hpath, hslug⟩

theorem find?_of_get? (h : d.Logged log) {index : Nat} (hindex : index ∈ d.given) {path : String}
    {reached : Nat} (hslug : d.pool.get? index = some ⟨d.container.id, path, reached⟩) :
    d.container.slugs.find? path = some index := by
  obtain ⟨other, further, hother, hsame⟩ := h.get?_given hindex
  obtain ⟨-, rfl, -⟩ := Slug.mk.inj (Option.some.inj (hslug.symm.trans hsame))
  exact hother

theorem eq_of_get? (h : d.Logged log) {i j : Nat} (hi : i ∈ d.given) (hj : j ∈ d.given)
    {path : String} {m n : Nat} (hslug : d.pool.get? i = some ⟨d.container.id, path, m⟩)
    (hother : d.pool.get? j = some ⟨d.container.id, path, n⟩) : i = j := by
  have hfind := h.find?_of_get? hi hslug
  have hfind' := h.find?_of_get? hj hother
  exact Option.some.inj (hfind.symm.trans hfind')

/-- A slug that has not handed out a path yet is given. -/
theorem add (h : d.Logged log) {c : Container} {pool : SlugPool} {index : Nat} {path : String}
    (hid : c.id = d.container.id) (hlinked : c.Linked pool)
    (hlists : ∀ p i, d.container.slugs.find? p = some i → c.slugs.find? p = some i)
    (hpool : ∀ i s, d.pool.get? i = some s → pool.get? i = some s)
    (hindex : c.slugs.find? path = some index) (hslug : pool.get? index = some ⟨c.id, path, 0⟩) :
    ({ d with container := c, pool := pool, given := d.given ++ [index] } : Desk).Logged log where
  linked := hlinked
  listed := by
    intro other hother
    rcases List.mem_append.mp hother with hold | hnew
    · obtain ⟨p, hp⟩ := h.listed other hold
      exact ⟨p, hlists p other hp⟩
    · obtain rfl := List.mem_singleton.mp hnew
      exact ⟨path, hindex⟩
  paths_eq := h.paths_eq
  nodup := h.nodup
  mem_iff := by
    intro p version
    rw [h.mem_iff]
    constructor
    · rintro ⟨reached, ⟨i, hi, hget⟩, hlt⟩
      have hkept : pool.get? i = some ⟨c.id, p, reached⟩ := hid ▸ hpool i _ hget
      exact ⟨reached, ⟨i, List.mem_append_left _ hi, hkept⟩, hlt⟩
    · rintro ⟨reached, ⟨i, hi, hget⟩, hlt⟩
      rcases List.mem_append.mp hi with hold | hnew
      · obtain ⟨q, further, -, hbefore⟩ := h.get?_given hold
        have hsame := Option.some.inj ((hpool i _ hbefore).symm.trans hget)
        obtain ⟨-, rfl, rfl⟩ := Slug.mk.inj hsame
        exact ⟨further, ⟨i, hold, hbefore⟩, hlt⟩
      · -- the slug that is given has passed no version
        obtain rfl := List.mem_singleton.mp hnew
        have hsame := Option.some.inj (hslug.symm.trans hget)
        obtain ⟨-, -, rfl⟩ := Slug.mk.inj hsame
        exact absurd hlt (Nat.not_lt_zero _)

theorem give (h : d.Logged log) (preferred : String) : (d.give preferred).Logged log := by
  rw [Desk.give]
  cases hadd : d.container.addSlug d.pool preferred with
  | error fault => exact h
  | ok merged =>
      obtain ⟨base, -, rfl⟩ := Container.addSlug_eq_ok_iff.mp hadd
      obtain ⟨path, ⟨index, version, hindex, hslug, hle, heq⟩ | ⟨hfree, heq⟩⟩ :=
        h.linked.mergeSlug_cases ⟨d.container.id, base, 0⟩
      · obtain rfl : version = 0 := Nat.le_zero.mp hle
        rw [heq]
        have hpool : d.pool.adopt index 0 = d.pool := SlugPool.adopt_eq_self hslug
        rw [hpool]
        exact h.add rfl h.linked (fun _ _ hp ↦ hp) (fun _ _ hs ↦ hs) hindex hslug
      · rw [heq]
        refine h.add rfl (h.linked.add path 0) ?_ (fun i s hs ↦ SlugPool.get?_push_of_get? hs _)
          (Table.find?_insert_self _ path _) (d.pool.get?_push _)
        intro p i hp
        have hne : p ≠ path := by
          rintro rfl
          rw [hfree] at hp
          cases hp
        exact (Table.find?_insert_ne _ _ hne).trans hp

/-- A given slug hands out the path of its version and passes this version. -/
theorem advance (h : d.Logged log) {index : Nat} (hindex : index ∈ d.given) {path : String}
    {reached : Nat} (hslug : d.pool.get? index = some ⟨d.container.id, path, reached⟩)
    {pool : SlugPool}
    (hself : pool.get? index = some ⟨d.container.id, path, reached + 1⟩)
    (hothers : ∀ other, other ≠ index → pool.get? other = d.pool.get? other)
    (hgrown : d.pool.Grown pool) :
    ({ d with pool := pool, paths := d.paths ++ [Slug.pathAt path reached] } : Desk).Logged
      (log ++ [(path, reached)]) where
  linked := h.linked.mono hgrown
  listed := h.listed
  paths_eq := by rw [List.map_append, ← h.paths_eq, List.map_singleton]
  nodup := by
    refine List.nodup_append'.mpr ⟨h.nodup, List.nodup_singleton _, ?_⟩
    rw [List.disjoint_singleton]
    intro hmem
    obtain ⟨further, ⟨other, hother, hget⟩, hlt⟩ := (h.mem_iff path reached).mp hmem
    obtain rfl := h.eq_of_get? hother hindex hget hslug
    have hsame := Option.some.inj (hget.symm.trans hslug)
    obtain ⟨-, -, rfl⟩ := Slug.mk.inj hsame
    exact Nat.lt_irrefl _ hlt
  mem_iff := by
    intro p version
    rw [List.mem_append, List.mem_singleton, h.mem_iff]
    constructor
    · rintro (⟨further, ⟨other, hother, hget⟩, hlt⟩ | heq)
      · by_cases hsame : other = index
        · subst hsame
          obtain ⟨-, rfl, rfl⟩ := Slug.mk.inj (Option.some.inj (hget.symm.trans hslug))
          exact ⟨further + 1, ⟨other, hother, hself⟩, Nat.lt_succ_of_lt hlt⟩
        · exact ⟨further, ⟨other, hother, (hothers other hsame).trans hget⟩, hlt⟩
      · obtain ⟨rfl, rfl⟩ := Prod.mk.inj heq
        exact ⟨version + 1, ⟨index, hindex, hself⟩, Nat.lt_succ_self _⟩
    · rintro ⟨further, ⟨other, hother, hget⟩, hlt⟩
      by_cases hsame : other = index
      · subst hsame
        obtain ⟨-, rfl, rfl⟩ := Slug.mk.inj (Option.some.inj (hself.symm.trans hget))
        rcases Nat.lt_succ_iff_lt_or_eq.mp hlt with hless | rfl
        · exact Or.inl ⟨reached, ⟨other, hother, hslug⟩, hless⟩
        · exact Or.inr rfl
      · exact Or.inl ⟨further, ⟨other, hother, (hothers other hsame).symm.trans hget⟩, hlt⟩

theorem handOut (h : d.Logged log) (turn : Nat) : ∃ log, (d.handOut turn).Logged log := by
  cases hindex : d.given[turn]? with
  | none =>
      simp only [Desk.handOut, hindex, Option.bind_none]
      exact ⟨log, h⟩
  | some index =>
      cases hnext : d.pool.nextPath? index with
      | none =>
          simp only [Desk.handOut, hindex, Option.bind_some, hnext]
          exact ⟨log, h⟩
      | some next =>
          have hgiven : index ∈ d.given := List.mem_of_getElem? hindex
          obtain ⟨path, reached, -, hslug⟩ := h.get?_given hgiven
          obtain ⟨raised, hraised, hself, hothers⟩ := SlugPool.get?_nextPath hnext
          obtain rfl := Option.some.inj (hslug.symm.trans hraised)
          have hpath : next.1 = Slug.pathAt path reached := by
            obtain ⟨s, hs, heq⟩ := Option.map_eq_some_iff.mp hnext
            obtain rfl := Option.some.inj (hslug.symm.trans hs)
            exact (congrArg Prod.fst heq).symm
          have hgrown := SlugPool.grown_nextPath hnext
          refine ⟨log ++ [(path, reached)], ?_⟩
          simp only [Desk.handOut, hindex, Option.bind_some, hnext]
          rw [hpath]
          exact h.advance hgiven hslug hself hothers hgrown

theorem serve (h : d.Logged log) (asks : List Ask) : ∃ log, (d.serve asks).Logged log := by
  induction asks generalizing d log with
  | nil => exact ⟨log, h⟩
  | cons ask asks ih =>
      rw [serve_cons]
      cases ask with
      | slug preferred => exact ih (h.give preferred)
      | path turn =>
          obtain ⟨after, hafter⟩ := h.handOut turn
          exact ih hafter

/-- The log has no entry twice, so that a path comes twice only if a number makes it a preferred
path. -/
theorem nodup_paths_iff (h : d.Logged log) :
    d.paths.Nodup ↔ ∀ base n reached further, d.Gave base reached →
      d.Gave (Slug.numbered base n) further → 0 < n → n < reached → further = 0 := by
  rw [h.paths_eq, List.nodup_map_iff_inj_on h.nodup]
  constructor
  · intro hinj base n reached further hbase hnumbered hpos hlt
    by_contra hne
    have hfirst : (Slug.numbered base n, 0) ∈ log :=
      (h.mem_iff _ _).mpr ⟨further, hnumbered, Nat.pos_of_ne_zero hne⟩
    have hlater : (base, n) ∈ log := (h.mem_iff _ _).mpr ⟨reached, hbase, hlt⟩
    have hsame : Slug.pathAt (Slug.numbered base n) 0 = Slug.pathAt base n :=
      Slug.pathAt_eq_iff.mpr (Or.inr (Or.inl ⟨rfl, hpos, rfl⟩))
    have hentries := hinj _ hfirst _ hlater hsame
    exact absurd (congrArg Prod.snd hentries) (Nat.ne_of_lt hpos)
  · -- a numbered path among the entries belongs to a slug that has handed out its preferred path
    have hclash : (∀ base n reached further, d.Gave base reached →
        d.Gave (Slug.numbered base n) further → 0 < n → n < reached → further = 0) →
        ∀ base n, 0 < n → (base, n) ∈ log → (Slug.numbered base n, 0) ∉ log := by
      intro hfresh base n hpos hlater hfirst
      obtain ⟨reached, hbase, hlt⟩ := (h.mem_iff _ _).mp hlater
      obtain ⟨further, hnumbered, hpassed⟩ := (h.mem_iff _ _).mp hfirst
      exact absurd (hfresh base n reached further hbase hnumbered hpos hlt) (Nat.ne_of_gt hpassed)
    rintro hfresh ⟨p, m⟩ hp ⟨q, n⟩ hq hsame
    rcases Slug.pathAt_eq_iff.mp hsame with ⟨hpath, hversion⟩ | ⟨hzero, hpos, hpath⟩ |
      ⟨hzero, hpos, hpath⟩
    · exact Prod.ext hpath hversion
    · obtain rfl : m = 0 := hzero
      obtain rfl : p = Slug.numbered q n := hpath
      exact absurd hp (hclash hfresh q n hpos hq)
    · obtain rfl : n = 0 := hzero
      obtain rfl : q = Slug.numbered p m := hpath
      exact absurd hq (hclash hfresh p m hpos hp)

theorem exists_nextPath? (h : d.Logged log) {index : Nat} (hindex : index ∈ d.given) :
    ∃ path pool, d.pool.nextPath? index = some (path, pool) := by
  obtain ⟨path, reached, -, hslug⟩ := h.get?_given hindex
  exact ⟨_, _, Option.map_eq_some_iff.mpr ⟨_, hslug, rfl⟩⟩

end Logged

end Desk

namespace Kernel

/-- Whatever slugs a container in a run is asked for, and whatever paths the slugs it gives are
asked for in between, each of these slugs has a next path, and the paths differ just as long as no
slug has handed out its preferred path that is a numbered path which another one has come to. -/
theorem nodup_paths_iff_numbered (library : TemplateLibrary) (moves : List Move) :
    ((ofLibrary library).run moves).view.Every fun s ↦
      ∀ key c, s.entity? key = some (.container c) → ∀ asks : List Ask,
        let d := (Desk.opened c s.slugs).serve asks
        (∀ index ∈ d.given, ∃ path pool, d.pool.nextPath? index = some (path, pool)) ∧
          (d.paths.Nodup ↔ ∀ base n reached further, d.Gave base reached →
            d.Gave (Slug.numbered base n) further → 0 < n → n < reached → further = 0) := by
  have hlinked := linked_run library moves
  have hserved : ∀ s : StoreState, s.Linked → ∀ key c, s.entity? key = some (.container c) →
      ∀ asks, ∃ log, ((Desk.opened c s.slugs).serve asks).Logged log :=
    fun s hs key c hc asks ↦ (Desk.Logged.opened (hs key c hc)).serve asks
  constructor
  · intro key c hc asks d
    obtain ⟨log, hlog⟩ := hserved _ hlinked.committed.2 key c hc asks
    exact ⟨fun index hindex ↦ hlog.exists_nextPath? hindex, hlog.nodup_paths_iff⟩
  · intro name session hsession key c hc asks d
    obtain ⟨log, hlog⟩ := hserved _ (hlinked.working hsession).2 key c hc asks
    exact ⟨fun index hindex ↦ hlog.exists_nextPath? hindex, hlog.nodup_paths_iff⟩

/-- A preferred path that looks like a numbered one comes again as such. -/
theorem not_nodup_of_preferred_number :
    let moves : List Move := [.begin "reader" "t", .change "t" (.create "shelf" (.text "a")),
      .commit "t"]
    let k := (ofLibrary .shelves).run moves
    let c := Container.fresh ⟨.text "a", "shelf"⟩ none
      ⟨"shelf", "shelves", none, none, [], .container ⟨"book", none⟩⟩
    let asks : List Ask := [.slug "news_1", .path 0, .slug "news", .path 1, .path 1]
    k.committed.entity? ⟨"shelf", "text", "AQAAAAFh"⟩ = some (.container c) ∧
      ¬((Desk.opened c k.committed.slugs).serve asks).paths.Nodup := by
  intro moves k c asks
  have hc : k.committed.entity? ⟨"shelf", "text", "AQAAAAFh"⟩ = some (.container c) := by
    decide +kernel
  have hbase : ((Desk.opened c k.committed.slugs).serve asks).Gave "news" 2 :=
    ⟨1, by decide +kernel, by decide +kernel⟩
  have hnumbered : ((Desk.opened c k.committed.slugs).serve asks).Gave (Slug.numbered "news" 1) 1 :=
    ⟨0, by decide +kernel, by decide +kernel⟩
  refine ⟨hc, fun hnodup ↦ ?_⟩
  have hiff := ((nodup_paths_iff_numbered .shelves moves).committed _ c hc asks).2
  exact absurd (hiff.mp hnodup "news" 1 2 1 hbase hnumbered (by decide) (by decide)) (by decide)

/-- The second slug for a path gets a number that the first one has yet to come to. -/
theorem news_1_twice :
    let k := (ofLibrary .shelves).run [.begin "reader" "t",
      .change "t" (.create "shelf" (.text "a")), .commit "t"]
    let asks : List Ask := [.slug "news", .path 0, .path 0, .slug "news", .path 1]
    ((k.committed.entity? ⟨"shelf", "text", "AQAAAAFh"⟩).bind Entity.container?).map (fun c ↦
      ((Desk.opened c k.committed.slugs).serve asks).paths) =
        some ["news", "news_1", "news_1"] := by
  decide +kernel

end Kernel

end ResourceKernel
