import ResourceKernel.Proofs.Kernel.Run

/-!
# When the committed state changes

A commit that succeeds raises the revision and puts the state of its session, with its slugs, in
place of the committed state. A slug of the transaction that was committed last is from then on a
slug of the committed state, and whoever still holds it changes that state by asking for a path.
Nothing else does.
-/

namespace ResourceKernel

namespace StoreState

def slugIndex? (s : StoreState) (key : StoredKey) (path : String) : Option Nat :=
  ((s.entity? key).bind Entity.container?).bind fun c ↦ c.slugs.find? path

def slugAt? (s : StoreState) (key : StoredKey) (path : String) : Option Slug :=
  (s.slugIndex? key path).bind s.slugs.get?

/-- States that show the same. A slug that no container lists is not seen. -/
structure Alike (s t : StoreState) : Prop where
  resources : s.resources = t.resources
  reports : s.reports = t.reports
  endpoints : s.endpoints = t.endpoints
  slugAt? (key : StoredKey) (path : String) : s.slugAt? key path = t.slugAt? key path

theorem Alike.refl (s : StoreState) : s.Alike s := ⟨rfl, rfl, rfl, fun _ _ ↦ rfl⟩

def Lists (s : StoreState) (index : Nat) : Prop :=
  ∃ key path, s.slugIndex? key path = some index ∧ (s.slugs.get? index).isSome = true

/-- The version of the slug goes up, and that is seen exactly if a container lists it. -/
theorem not_alike_advance_iff {s : StoreState} {index : Nat} :
    ¬(s.advance index).Alike s ↔ s.Lists index := by
  unfold advance
  cases hnext : s.slugs.nextPath? index with
  | none =>
      have hnone : s.slugs.get? index = none := Option.map_eq_none_iff.mp hnext
      refine ⟨fun h ↦ absurd (Alike.refl s) h, ?_⟩
      rintro ⟨key, path, -, hsome⟩
      rw [hnone] at hsome
      cases hsome
  | some next =>
      obtain ⟨slug, hslug, hraised, hothers⟩ := SlugPool.get?_nextPath hnext
      constructor
      · intro h
        by_contra hlists
        refine h ⟨rfl, rfl, rfl, fun key path ↦ ?_⟩
        change (s.slugIndex? key path).bind next.2.get? = (s.slugIndex? key path).bind s.slugs.get?
        cases hindex : s.slugIndex? key path with
        | none => rfl
        | some other =>
            refine hothers other fun hother ↦ hlists ⟨key, path, hother ▸ hindex, ?_⟩
            rw [hslug]
            rfl
      · rintro ⟨key, path, hindex, -⟩ halike
        have hsame := halike.slugAt? key path
        change (s.slugIndex? key path).bind next.2.get? =
          (s.slugIndex? key path).bind s.slugs.get? at hsame
        rw [hindex, Option.bind_some, Option.bind_some, hraised, hslug] at hsame
        have hversion := congrArg Slug.version (Option.some.inj hsame)
        exact absurd hversion (Nat.succ_ne_self _)

end StoreState

/-- The committed state is the same, at the same revision and with the same pool. -/
structure MemoryStore.Keeps (m after : MemoryStore) : Prop where
  revision : after.revision = m.revision
  pool : after.pool = m.pool
  committed : after.committed = m.committed

namespace Kernel

variable {k : Kernel}

theorem keeps_of_view {after : Kernel} (h : after.view = k.view) : k.memory.Keeps after.memory :=
  (show after.memory = k.memory from congrArg View.memory h) ▸ ⟨rfl, rfl, rfl⟩

theorem keeps_of_view_set {after : Kernel} {m : MemoryStore} {name : String}
    {t : Transaction KernelStore} (h : after.view = k.view.set m name t)
    (hm : k.memory.Keeps m) : k.memory.Keeps after.memory :=
  (show after.memory = m from congrArg View.memory h) ▸ hm

theorem keeps_abandon (m : MemoryStore) (session : MemorySession) : m.Keeps (m.abandon session) :=
  ⟨rfl, rfl, rfl⟩

theorem holder?_committed (hk : k.view.Apart) : k.holder? k.memory.pool = none := by
  cases hholder : k.holder? k.memory.pool with
  | none => rfl
  | some held =>
      obtain ⟨hsession, hpool⟩ := session_of_holder? hholder
      exact absurd hpool (hk.session hsession).2.2

theorem committed_nextPath (hk : k.view.Apart) {handle : SlugHandle}
    (hpool : handle.pool = k.memory.pool) :
    (k.step (.nextPath handle)).memory =
      { k.memory with committed := k.committed.advance handle.index } := by
  have hholder : k.holder? handle.pool = none := hpool ▸ holder?_committed hk
  exact congrArg View.memory (view_nextPath_of_committed hholder hpool)

theorem keeps_nextPath {handle : SlugHandle} (hpool : handle.pool ≠ k.memory.pool) :
    k.memory.Keeps (k.step (.nextPath handle)).memory := by
  cases hholder : k.holder? handle.pool with
  | some held => exact keeps_of_view_set (view_nextPath_of_holder hholder) ⟨rfl, rfl, rfl⟩
  | none =>
      obtain ⟨retired, hview⟩ := view_nextPath_of_retired hholder hpool
      have hmemory : (k.step (.nextPath handle)).memory = { k.memory with retired := retired } :=
        congrArg View.memory hview
      rw [hmemory]
      exact ⟨rfl, rfl, rfl⟩

theorem keeps_commit {name : String} (hfailed : (k.commit name).1 ≠ .ok ()) :
    k.memory.Keeps (k.commit name).2.memory := by
  cases hopen : k.open? name with
  | none => exact keeps_of_view (commit_of_not_open hopen).2
  | some session =>
      by_cases hcurrent : k.memory.revision = session.started
      · exact absurd (commit_of_current hopen hcurrent).1 hfailed
      · exact keeps_of_view_set (commit_of_stale hopen hcurrent).2 (keeps_abandon _ session)

/-- Only a successful commit and a path of a committed slug do anything to the committed state. -/
theorem keeps_step_of_refusal (hrefusal : k.manager.store.refusal = none) {m : Move}
    (hcommit : ∀ name, m = .commit name → (k.commit name).1 ≠ .ok ())
    (hslug : ∀ handle, m = .nextPath handle → handle.pool ≠ k.memory.pool) :
    k.memory.Keeps (k.step m).memory := by
  cases m with
  | begin ctx name =>
      rcases begin_cases hrefusal ctx name with ⟨fault, -, hview⟩ | ⟨-, -, hview⟩
      · exact keeps_of_view hview
      · exact keeps_of_view_set hview ⟨rfl, rfl, rfl⟩
  | change name c =>
      cases hopen : k.open? name with
      | none => exact keeps_of_view (perform_of_not_open hopen _).2
      | some session =>
          exact keeps_of_view_set (perform_of_open hopen (c.operation k.library)).2
            ⟨rfl, rfl, rfl⟩
  | nextPath handle => exact keeps_nextPath (hslug handle rfl)
  | commit name => exact keeps_commit (hcommit name rfl)
  | rollback name =>
      cases hopen : k.open? name with
      | none => exact keeps_of_view (rollback_of_not_open hopen)
      | some session =>
          exact keeps_of_view_set (rollback_of_open hopen) (keeps_abandon _ session)
  | drop name =>
      cases hopen : k.open? name with
      | none => exact keeps_of_view_set (drop_of_not_open hopen) ⟨rfl, rfl, rfl⟩
      | some session => exact keeps_of_view_set (drop_of_open hopen) (keeps_abandon _ session)

theorem keeps_step (hk : k.view.Apart) {m : Move}
    (hcommit : ∀ name, m = .commit name → (k.commit name).1 ≠ .ok ())
    (hslug : ∀ handle, m = .nextPath handle → handle.pool ≠ k.memory.pool) :
    k.memory.Keeps (k.step m).memory :=
  keeps_step_of_refusal hk.refusal hcommit hslug

theorem exists_of_commit_eq_ok {name : String} (h : (k.commit name).1 = .ok ()) :
    ∃ session, k.open? name = some session ∧
      (k.commit name).2.memory = k.memory.accept session := by
  cases hopen : k.open? name with
  | none =>
      obtain ⟨⟨fault, hfault⟩, -⟩ := commit_of_not_open hopen
      rw [hfault] at h
      cases h
  | some session =>
      by_cases hcurrent : k.memory.revision = session.started
      · exact ⟨session, rfl, congrArg View.memory (commit_of_current hopen hcurrent).2⟩
      · rw [(commit_of_stale hopen hcurrent).1] at h
        cases h

/-- In every run, a successful commit raises the revision and puts state and pool of its session in
place of the committed ones. Any other move leaves revision and committed pool alone, and changes
what the committed state shows exactly if it asks a slug of the committed pool for a path that one
of the committed containers lists. -/
theorem committed_step (library : TemplateLibrary) (moves : List Move) (m : Move) :
    let k := (ofLibrary library).run moves
    let after := k.step m
    (∀ name, m = .commit name → (k.commit name).1 = .ok () →
      ∃ session, k.open? name = some session ∧
        after.memory.revision = k.memory.revision + 1 ∧
        after.memory.pool = session.pool ∧ after.committed = session.working) ∧
    ((∀ name, m = .commit name → (k.commit name).1 ≠ .ok ()) →
      after.memory.revision = k.memory.revision ∧ after.memory.pool = k.memory.pool ∧
        (¬after.committed.Alike k.committed ↔
          ∃ handle, m = .nextPath handle ∧ handle.pool = k.memory.pool ∧
            k.committed.Lists handle.index)) := by
  intro k after
  have hk : k.view.Apart := apart_run library moves
  refine ⟨?_, fun hfailed ↦ ?_⟩
  · rintro name rfl hok
    obtain ⟨session, hopen, hmemory⟩ := exists_of_commit_eq_ok hok
    have hafter : after.memory = k.memory.accept session := hmemory
    exact ⟨session, hopen, congrArg MemoryStore.revision hafter,
      congrArg MemoryStore.pool hafter, congrArg MemoryStore.committed hafter⟩
  · by_cases hslug : ∃ handle, m = .nextPath handle ∧ handle.pool = k.memory.pool
    · obtain ⟨handle, rfl, hpool⟩ := hslug
      have hmemory : after.memory =
          { k.memory with committed := k.committed.advance handle.index } :=
        committed_nextPath hk hpool
      have hcommitted : after.committed = k.committed.advance handle.index :=
        congrArg MemoryStore.committed hmemory
      refine ⟨by rw [hmemory], by rw [hmemory], ?_⟩
      rw [hcommitted, StoreState.not_alike_advance_iff]
      constructor
      · intro hlists
        exact ⟨handle, rfl, hpool, hlists⟩
      · rintro ⟨other, heq, -, hlists⟩
        obtain rfl := Move.nextPath.inj heq
        exact hlists
    · have hkeeps : k.memory.Keeps after.memory :=
        keeps_step hk hfailed fun handle heq hpool ↦ hslug ⟨handle, heq, hpool⟩
      have halike : after.committed.Alike k.committed := by
        have hcommitted : after.committed = k.committed := hkeeps.committed
        rw [hcommitted]
        exact .refl _
      refine ⟨hkeeps.revision, hkeeps.pool, fun hne ↦ absurd halike hne, ?_⟩
      rintro ⟨handle, heq, hpool, -⟩
      exact absurd ⟨handle, heq, hpool⟩ hslug

theorem nextPath_after_commit :
    let moves : List Move := [.begin "reader" "t", .change "t" (.create "shelf" (.text "a")),
      .change "t" (.addSlug ⟨.text "a", "shelf"⟩ "news"), .commit "t"]
    let k := (ofLibrary .shelves).run moves
    let after := k.step (.nextPath ⟨1, 0⟩)
    after.memory.revision = k.memory.revision ∧ ¬after.committed.Alike k.committed := by
  intro moves k after
  obtain ⟨hrevision, -, hchanges⟩ :=
    (committed_step .shelves moves (.nextPath ⟨1, 0⟩)).2 fun name heq ↦ by cases heq
  have hlists : k.committed.Lists 0 :=
    ⟨⟨"shelf", "text", "AQAAAAFh"⟩, "news", by decide +kernel, by decide +kernel⟩
  exact ⟨hrevision, hchanges.mpr ⟨⟨1, 0⟩, rfl, by decide +kernel, hlists⟩⟩

/-- The slug that a transaction has been given before its commit hands out a path after it: the
revision stays, and the committed version of the slug goes up. -/
theorem committed_version_raised :
    let k := (ofLibrary .shelves).run
      [.begin "reader" "t", .change "t" (.create "shelf" (.text "a"))]
    let given := k.change "t" (.addSlug ⟨.text "a", "shelf"⟩ "news")
    let before := given.2.step (.commit "t")
    let after := before.step (.nextPath ⟨1, 0⟩)
    given.1.toOption = some (.slug (some 0)) ∧ poolOf? (given.2.transaction "t") = some 1 ∧
      before.memory.revision = 1 ∧ after.memory.revision = 1 ∧
      (before.committed.slugAt? ⟨"shelf", "text", "AQAAAAFh"⟩ "news").map Slug.version = some 0 ∧
      (after.committed.slugAt? ⟨"shelf", "text", "AQAAAAFh"⟩ "news").map Slug.version = some 1 := by
  decide +kernel

end Kernel

end ResourceKernel
