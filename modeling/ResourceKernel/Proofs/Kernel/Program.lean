import ResourceKernel.Proofs.Kernel.Committed

/-!
# Programs in transactions of their own

A program performs operations one after another, each chosen by what has come of those before it,
and ends with a result. While it is run in a transaction of its own, others go on with the kernel.
It works on the state that was committed when it began, whatever the others do, and what it leaves
is committed as a whole or not at all.
-/

namespace ResourceKernel

/-- Work in a transaction: it ends with a result, or performs an operation and goes on by what has
come of it. -/
inductive Program (α : Type) : Type 1
  | finish (result : Result α)
  | perform {β : Type} (o : Operation β) (next : Result β → Program α)

variable {α : Type}

namespace Program

/-- What a program answers, and the state it leaves, when it is alone with the state. -/
def on : Program α → StoreState → Result α × StoreState
  | .finish result, s => (result, s)
  | .perform o next, s => (next (o.on s).1).on (o.on s).2

/-- All that others do before the operations of a program, by the number of the operation, and
before its end. -/
def between : Program α → (others : Nat → List Move) → StoreState → List Move
  | .finish _, others, _ => others 0
  | .perform o next, others, s =>
      others 0 ++ (next (o.on s).1).between (fun i ↦ others (i + 1)) (o.on s).2

/-- Does what a program says in a transaction, while others go on with the kernel. -/
def amid : Program α → (others : Nat → List Move) → Kernel → Transaction KernelStore →
    Result α × Kernel × Transaction KernelStore
  | .finish result, others, k, t => (result, k.run (others 0), t)
  | .perform o next, others, k, t =>
      (next (t.perform o).1).amid (fun i ↦ others (i + 1)) (k.run (others 0)) (t.perform o).2

/-- A program as the work of a transaction. It notes what it has answered, the transaction as it
leaves it, and the kernel as the others leave it. -/
def work (p : Program α) (others : Nat → List Move) (k : Kernel)
    (m : TransactionManager KernelStore) (t : Transaction KernelStore) :
    Outcome KernelStore α × (Result α × Transaction KernelStore) × Kernel :=
  let (answer, after, left) := p.amid others { k with manager := m } t
  (⟨answer, after.manager, left⟩, (answer, left), after)

end Program

/-- What comes of running a program. -/
structure Ran (α : Type) where
  result : Result α
  /-- What the program has answered, and the transaction as it left it; none if it was not called
  at all. -/
  work : Option (Result α × Transaction KernelStore)
  kernel : Kernel

/-- Whether the move is a commit that succeeds. -/
def Move.commits (k : Kernel) : Move → Bool
  | .commit name => (k.commit name).1.isOk
  | .begin _ _ | .change _ _ | .nextPath _ | .rollback _ | .drop _ => false

namespace Kernel

/-- Runs a program in a transaction of its own, while others go on with the kernel. -/
def runAmid (k : Kernel) (ctx : Context) (p : Program α) (others : Nat → List Move) : Ran α :=
  let (result, notes, manager) := k.manager.run ctx (p.work others k)
  ⟨result, notes.map Prod.fst, { (notes.map Prod.snd).getD k with manager := manager }⟩

/-- The kernel when a transaction that is not among its own has begun. -/
def begun (k : Kernel) (ctx : Context) : Kernel :=
  { k with manager := (k.manager.begin ctx .inactive).manager }

/-- How many commits succeed along the moves. -/
def commitsAlong (k : Kernel) : List Move → Nat
  | [] => 0
  | m :: moves => (m.commits k).toNat + (k.step m).commitsAlong moves

variable {k : Kernel} {ctx : Context} {session : MemorySession}

/-! ## Revisions -/

theorem revision_nextPath (k : Kernel) (handle : SlugHandle) :
    (k.step (.nextPath handle)).memory.revision = k.memory.revision := by
  by_cases hpool : handle.pool = k.memory.pool
  · cases hholder : k.holder? handle.pool with
    | some held =>
        exact congrArg (fun v ↦ v.memory.revision) (view_nextPath_of_holder hholder)
    | none => exact congrArg (fun v ↦ v.memory.revision) (view_nextPath_of_committed hholder hpool)
  · exact (keeps_nextPath hpool).revision

theorem revision_step (hrefusal : k.manager.store.refusal = none) (m : Move) :
    (k.step m).memory.revision = k.memory.revision + (m.commits k).toNat := by
  cases m with
  | commit name =>
      by_cases hok : (k.commit name).1 = .ok ()
      · obtain ⟨session, -, hmemory⟩ := exists_of_commit_eq_ok hok
        rw [Move.commits, hok, step, hmemory]
        rfl
      · have hkeeps : (k.commit name).2.memory.revision = k.memory.revision :=
          (keeps_commit hok).revision
        cases hresult : (k.commit name).1 with
        | ok done => exact absurd hresult hok
        | error fault =>
            rw [Move.commits, hresult, step, hkeeps]
            rfl
  | nextPath handle => exact revision_nextPath k handle
  | _ =>
      exact (keeps_step_of_refusal hrefusal (fun _ heq ↦ by cases heq)
        fun _ heq ↦ by cases heq).revision

/-- The revision counts the commits that succeed. -/
theorem revision_run (hrefusal : k.manager.store.refusal = none) (moves : List Move) :
    (k.run moves).memory.revision = k.memory.revision + k.commitsAlong moves := by
  induction moves generalizing k with
  | nil => rfl
  | cons m moves ih =>
      have hnext : (k.step m).manager.store.refusal = none :=
        (step_turn hrefusal m).refusal_eq.trans hrefusal
      have hrest : (k.run (m :: moves)).memory.revision = _ := ih hnext
      rw [hrest, revision_step hrefusal, commitsAlong, Nat.add_assoc]

/-! ## The program -/

theorem perform_eq {β : Type} (session : MemorySession) (ctx : Context) (o : Operation β) :
    (⟨.active, some session, some ctx⟩ : Transaction KernelStore).perform o =
      ((o.on session.working).1,
        ⟨.active, some { session with working := (o.on session.working).2 }, some ctx⟩) := by
  cases o with
  | error fault => rfl
  | ok edit => rfl

/-- A program in a transaction answers and leaves what it would alone with the state that the
transaction works on. -/
theorem amid_eq (p : Program α) (others : Nat → List Move) (k : Kernel) (session : MemorySession)
    (ctx : Context) :
    p.amid others k ⟨.active, some session, some ctx⟩ =
      ((p.on session.working).1, k.run (p.between others session.working),
        ⟨.active, some { session with working := (p.on session.working).2 }, some ctx⟩) := by
  induction p generalizing others k session with
  | finish result => rfl
  | perform o next ih =>
      rw [Program.amid, perform_eq, ih, ← run_append]
      rfl

/-! ## Its end -/

theorem hasActive_release (m : TransactionManager KernelStore) (ctx : Context) :
    (m.release ctx).hasActive ctx = false := by
  simp [TransactionManager.hasActive, TransactionManager.release]

/-- How the transaction of a program ends: it is committed if the program has succeeded and nothing
has been committed since it began, and is rolled back otherwise. -/
inductive Settles (m : TransactionManager KernelStore) (session : MemorySession) (ctx : Context) :
    Result α → Outcome KernelStore α → Prop
  | committed (v : α) (hcurrent : m.store.store.revision = session.started) :
      Settles m session ctx (.ok v)
        ⟨.ok v,
          { m.release ctx with store := { m.store with store := m.store.store.accept session } },
          ⟨.committed, none, none⟩⟩
  | refused (v : α) (hstale : m.store.store.revision ≠ session.started) :
      Settles m session ctx (.ok v)
        ⟨.error (.transaction (.conflict session.started m.store.store.revision)),
          { m.release ctx with store := { m.store with store := m.store.store.abandon session } },
          ⟨.rolledBack, none, none⟩⟩
  | failed (fault : KernelError) :
      Settles m session ctx (.error fault)
        ⟨.error fault,
          { m.release ctx with store := { m.store with store := m.store.store.abandon session } },
          ⟨.rolledBack, none, none⟩⟩

theorem settles (m : TransactionManager KernelStore) (session : MemorySession) (ctx : Context)
    (result : Result α) :
    Settles m session ctx result (m.settle ⟨.active, some session, some ctx⟩ result) := by
  cases result with
  | error fault =>
      rw [TransactionManager.settle, TransactionManager.rollback_of_active]
      exact .failed fault
  | ok v =>
      rw [TransactionManager.settle, TransactionManager.commit_of_active]
      by_cases hcurrent : m.store.store.revision = session.started
      · rw [store_commit_of_current hcurrent]
        exact .committed v hcurrent
      · rw [store_commit_of_stale hcurrent]
        exact .refused v hcurrent

section

variable {m : TransactionManager KernelStore} {result : Result α} {o : Outcome KernelStore α}
  {commits : Nat} {v : α} {fault : KernelError}

theorem Settles.drop_eq (h : Settles m session ctx result o) :
    o.manager.drop o.transaction = o.manager := by
  refine TransactionManager.drop_of_idle ?_
  cases h <;> nofun

theorem Settles.hasActive_eq_false (h : Settles m session ctx result o) :
    o.manager.hasActive ctx = false := by
  cases h <;> exact hasActive_release m ctx

theorem Settles.result_eq_ok_iff (h : Settles m session ctx result o)
    (hcommits : m.store.store.revision = session.started + commits) :
    o.result = .ok v ↔ result = .ok v ∧ commits = 0 := by
  cases h with
  | committed w hcurrent =>
      have hnone : commits = 0 := by omega
      simp [hnone]
  | refused w hstale =>
      have hsome : commits ≠ 0 := by omega
      simp [hsome]
  | failed fault => simp

theorem Settles.of_ok (h : Settles m session ctx result o) (hok : o.result = .ok v) :
    o.manager.store.store.committed = session.working ∧
      o.manager.store.store.revision = session.started + 1 := by
  cases h with
  | committed w hcurrent => exact ⟨rfl, congrArg (· + 1) hcurrent⟩
  | refused | failed => cases hok

theorem Settles.of_error (h : Settles m session ctx result o)
    (hcommits : m.store.store.revision = session.started + commits)
    (herror : o.result = .error fault) :
    (result = .error fault ∨ commits ≠ 0 ∧
      fault = .transaction (.conflict session.started m.store.store.revision)) ∧
    o.manager.store.store.committed = m.store.store.committed ∧
    o.manager.store.store.revision = m.store.store.revision := by
  cases h with
  | committed w hcurrent => cases herror
  | refused w hstale => exact ⟨Or.inr ⟨by omega, (Except.error.inj herror).symm⟩, rfl, rfl⟩
  | failed cause => exact ⟨Or.inl herror, rfl, rfl⟩

end

/-! ## The whole run -/

theorem runAmid_of_taken (p : Program α) (others : Nat → List Move) (h : ctx ∈ k.manager.active) :
    k.runAmid ctx p others = ⟨.error (.transaction .alreadyActive), none, k⟩ := by
  have hbegin : k.manager.begin ctx .inactive = ⟨_, k.manager, .inactive⟩ :=
    TransactionManager.begin_of_taken rfl h
  have hidle : (Transaction.inactive : Transaction KernelStore).state ≠ .active := nofun
  rw [runAmid, TransactionManager.run_of_not_begun hbegin, TransactionManager.drop_of_idle hidle]
  rfl

theorem begun_of_free (hrefusal : k.manager.store.refusal = none) (h : ctx ∉ k.manager.active) :
    k.begun ctx = { k with
      manager := ⟨{ k.manager.store with store := k.memory.openSession.2 },
        ctx :: k.manager.active⟩ } := by
  rw [begun, TransactionManager.begin_of_opened rfl h (openSession_eq hrefusal)]
  rfl

theorem begin_of_free (hrefusal : k.manager.store.refusal = none) (h : ctx ∉ k.manager.active) :
    k.manager.begin ctx .inactive =
      ⟨.ok (), (k.begun ctx).manager, ⟨.active, some k.memory.openSession.1, some ctx⟩⟩ := by
  rw [begun_of_free hrefusal h]
  exact TransactionManager.begin_of_opened rfl h (openSession_eq hrefusal)

theorem memory_begun (hrefusal : k.manager.store.refusal = none) (h : ctx ∉ k.manager.active) :
    (k.begun ctx).memory = k.memory.openSession.2 := by
  rw [begun_of_free hrefusal h]
  rfl

theorem committed_begun (hrefusal : k.manager.store.refusal = none) (h : ctx ∉ k.manager.active) :
    (k.begun ctx).committed = k.committed := by
  rw [committed, memory_begun hrefusal h]
  rfl

theorem revision_begun (hrefusal : k.manager.store.refusal = none) (h : ctx ∉ k.manager.active) :
    (k.begun ctx).memory.revision = k.memory.revision := by
  rw [memory_begun hrefusal h]
  rfl

/-- All that has been committed since the program began are the commits of others. -/
theorem revision_run_begun (hrefusal : k.manager.store.refusal = none)
    (h : ctx ∉ k.manager.active) (moves : List Move) :
    ((k.begun ctx).run moves).memory.revision =
      k.memory.revision + (k.begun ctx).commitsAlong moves := by
  have hbegun : (k.begun ctx).manager.store.refusal = none := by
    rw [begun_of_free hrefusal h]
    exact hrefusal
  rw [revision_run hbegun, revision_begun hrefusal h]

theorem exists_settles_runAmid (hrefusal : k.manager.store.refusal = none)
    (h : ctx ∉ k.manager.active) (p : Program α) (others : Nat → List Move) :
    let own := p.on k.committed
    let met := (k.begun ctx).run (p.between others k.committed)
    let session : MemorySession := ⟨k.memory.revision, k.memory.nextPool, own.2⟩
    ∃ o, Settles met.manager session ctx own.1 o ∧
      k.runAmid ctx p others =
        ⟨o.result, some (own.1, ⟨.active, some session, some ctx⟩),
          { met with manager := o.manager }⟩ := by
  intro own met session
  have hamid : p.amid others (k.begun ctx) ⟨.active, some k.memory.openSession.1, some ctx⟩ =
      (own.1, met, ⟨.active, some session, some ctx⟩) :=
    amid_eq p others (k.begun ctx) k.memory.openSession.1 ctx
  have hwork : p.work others k (k.begun ctx).manager
      ⟨.active, some k.memory.openSession.1, some ctx⟩ =
        (⟨own.1, met.manager, ⟨.active, some session, some ctx⟩⟩,
          (own.1, ⟨.active, some session, some ctx⟩), met) := by
    change (let (answer, after, left) := p.amid others (k.begun ctx) _
      ((⟨answer, after.manager, left⟩ : Outcome KernelStore α), (answer, left), after)) = _
    rw [hamid]
  have hsettles := settles met.manager session ctx own.1
  refine ⟨_, hsettles, ?_⟩
  rw [runAmid, TransactionManager.run_of_begun (begin_of_free hrefusal h) hwork]
  dsimp only
  rw [hsettles.drop_eq]
  rfl

/-- A program is run in a context, while others go on with the kernel. If the context is taken, the
run is refused and the program is not called. If it is free, the program answers and leaves what it
would alone with the state that was committed when it began. The run succeeds exactly if the program
does and nothing is committed meanwhile; then what the program has left is committed, as one
revision. If the run fails, revision and committed state are those that the others leave. In any
case the context is as free afterwards as it was before. -/
theorem run_all_or_nothing {k : Kernel} (hstore : k.manager.store.refusal = none) (ctx : Context)
    (p : Program α) (others : Nat → List Move) :
    let ran := k.runAmid ctx p others
    let own := p.on k.committed
    let moves := p.between others k.committed
    let met := (k.begun ctx).run moves
    let commits := (k.begun ctx).commitsAlong moves
    (k.manager.hasActive ctx = true → ran = ⟨.error (.transaction .alreadyActive), none, k⟩) ∧
    (k.manager.hasActive ctx = false →
      ran.work = some (own.1,
        ⟨.active, some ⟨k.memory.revision, k.memory.nextPool, own.2⟩, some ctx⟩) ∧
      (∀ v, ran.result = .ok v ↔ own.1 = .ok v ∧ commits = 0) ∧
      (∀ v, ran.result = .ok v →
        ran.kernel.committed = own.2 ∧ ran.kernel.memory.revision = k.memory.revision + 1) ∧
      (k.begun ctx).committed = k.committed ∧
      (k.begun ctx).memory.revision = k.memory.revision ∧
      ∀ fault, ran.result = .error fault →
        (own.1 = .error fault ∨ commits ≠ 0 ∧
          fault = .transaction (.conflict k.memory.revision met.memory.revision)) ∧
        ran.kernel.committed = met.committed ∧
        ran.kernel.memory.revision = met.memory.revision) ∧
    ran.kernel.manager.hasActive ctx = k.manager.hasActive ctx := by
  intro ran own moves met commits
  by_cases htaken : ctx ∈ k.manager.active
  · have hactive : k.manager.hasActive ctx = true := List.contains_iff_mem.mpr htaken
    have hran : ran = ⟨.error (.transaction .alreadyActive), none, k⟩ :=
      runAmid_of_taken p others htaken
    refine ⟨fun _ ↦ hran, fun hfree ↦ ?_, by rw [hran]⟩
    rw [hactive] at hfree
    cases hfree
  · have hfree : k.manager.hasActive ctx = false :=
      Bool.eq_false_iff.mpr fun hactive ↦ htaken (List.contains_iff_mem.mp hactive)
    have hcommits : met.memory.revision = k.memory.revision + commits :=
      revision_run_begun hstore htaken moves
    obtain ⟨o, hsettles, heq⟩ := exists_settles_runAmid hstore htaken p others
    have hran : ran = _ := heq
    rw [hran]
    refine ⟨fun hactive ↦ ?_, fun _ ↦ ⟨rfl, fun v ↦ hsettles.result_eq_ok_iff hcommits,
      fun v hok ↦ hsettles.of_ok hok, committed_begun hstore htaken, revision_begun hstore htaken,
      fun fault herror ↦ hsettles.of_error hcommits herror⟩, ?_⟩
    · rw [hfree] at hactive
      cases hactive
    · rw [hfree]
      exact hsettles.hasActive_eq_false

/-- A book is put on a new shelf in two steps. Alone, both are committed as one revision. If another
shelf is committed between them, neither is. -/
theorem book_shelved_or_not :
    let k := ofLibrary .shelves
    let book : Member := ⟨⟨.text "a", "shelf"⟩, ⟨.text "b", "book"⟩, 0⟩
    let shelve : Program Member := .perform (Graph.create .shelves "shelf" (.text "a")) fun _ ↦
      .perform (Graph.addMember .shelves ⟨.text "a", "shelf"⟩ (.text "b")) .finish
    let others (i : Nat) : List Move :=
      if i = 1 then
        [.begin "writer" "u", .change "u" (.create "shelf" (.text "c")), .commit "u"]
      else []
    let alone := k.runAmid "reader" shelve fun _ ↦ []
    let beside := k.runAmid "reader" shelve others
    alone.result = .ok book ∧ alone.kernel.memory.revision = 1 ∧
      alone.kernel.committed = (shelve.on .empty).2 ∧
      beside.result = .error (.transaction (.conflict 0 1)) ∧
      beside.kernel.committed = ((k.begun "reader").run (others 1)).committed ∧
      beside.kernel.manager.hasActive "reader" = false := by
  intro k book shelve others alone beside
  have hfree : k.manager.hasActive "reader" = false := rfl
  have hshelved : (shelve.on .empty).1 = .ok book := by rfl
  obtain ⟨-, hresult, hcommitted, -⟩ :=
    (run_all_or_nothing (k := k) rfl "reader" shelve fun _ ↦ []).2.1 hfree
  have halone : alone.result = .ok book :=
    (hresult _).mpr ⟨hshelved, by decide +kernel⟩
  obtain ⟨hstate, hrevision⟩ := hcommitted _ halone
  obtain ⟨-, hbeside, hcontext⟩ := run_all_or_nothing (k := k) rfl "reader" shelve others
  obtain ⟨-, -, -, -, -, hfailed⟩ := hbeside hfree
  have hconflict : beside.result = .error (.transaction (.conflict 0 1)) := by rfl
  exact ⟨halone, hrevision, hstate, hconflict, (hfailed _ hconflict).2.1, hcontext.trans hfree⟩

end Kernel

end ResourceKernel
