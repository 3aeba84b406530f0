import Mathlib.Logic.Function.Basic
import ResourceKernel.Kernel
import ResourceKernel.Proofs.Transaction.Calls

/-!
# Moves of a kernel

Whoever works with a kernel begins, commits, gives up and lets go of transactions, makes changes in
them, and asks slugs for paths, in any order. For each of these moves it is said here what it does
to the store and to the transactions, so that no later proof has to look into a move again.
-/

namespace ResourceKernel

open Function (update)

inductive Move
  | begin (ctx : Context) (name : String)
  | change (name : String) (c : Change)
  | nextPath (handle : SlugHandle)
  | commit (name : String)
  | rollback (name : String)
  | drop (name : String)
  deriving DecidableEq, Repr

def StoreState.advance (s : StoreState) (index : Nat) : StoreState :=
  match s.slugs.nextPath? index with
  | some next => { s with slugs := next.2 }
  | none => s

def MemoryStore.accept (m : MemoryStore) (s : MemorySession) : MemoryStore :=
  { m.retire m.pool m.committed.slugs with
    revision := m.revision + 1
    committed := s.working
    pool := s.pool }

namespace Kernel

def step (k : Kernel) : Move → Kernel
  | .begin ctx name => (k.begin ctx name).2
  | .change name c => (k.change name c).2
  | .nextPath handle =>
      match k.nextPath? handle with
      | some (_, after) => after
      | none => k
  | .commit name => (k.commit name).2
  | .rollback name => (k.rollback name).2
  | .drop name => k.drop name

def run (k : Kernel) (moves : List Move) : Kernel := moves.foldl step k

/-- What a kernel holds, with a transaction under every name. -/
structure View where
  library : TemplateLibrary
  refusal : Option KernelError
  memory : MemoryStore
  transaction : String → Transaction KernelStore

def View.set (v : View) (m : MemoryStore) (name : String) (t : Transaction KernelStore) : View :=
  { v with memory := m, transaction := update v.transaction name t }

theorem View.set_self (v : View) (name : String) :
    v.set v.memory name (v.transaction name) = v := by
  rw [set, Function.update_eq_self]

/-- A session whose state does not change is the session that is there. -/
theorem View.set_session_self (v : View) {name : String} {session : MemorySession}
    (h : (v.transaction name).session = some session) :
    v.set v.memory name { v.transaction name with session := some session } = v := by
  rw [← h]
  exact v.set_self name

def view (k : Kernel) : View := ⟨k.library, k.manager.store.refusal, k.memory, k.transaction⟩

/-- The session of the transaction under a name, if that transaction is active. -/
def open? (k : Kernel) (name : String) : Option MemorySession :=
  match (k.transaction name).activeSession with
  | .ok session => some session
  | .error _ => none

variable (k : Kernel)

theorem transaction_setTransaction (name : String) (t : Transaction KernelStore) :
    (k.setTransaction name t).transaction = update k.transaction name t := by
  funext other
  simp only [transaction, setTransaction, Table.find?_insert, Function.update_apply]
  split <;> rfl

theorem view_setTransaction (name : String) (t : Transaction KernelStore) :
    (k.setTransaction name t).view = k.view.set k.memory name t := by
  rw [view, transaction_setTransaction]
  rfl

theorem view_setTransaction_self (name : String) :
    (k.setTransaction name (k.transaction name)).view = k.view :=
  (view_setTransaction k name _).trans (k.view.set_self name)

theorem view_take {α : Type} (name : String) (o : Outcome KernelStore α) :
    (k.take name o).2.view = { k with manager := o.manager }.view.set o.manager.store.store name
      o.transaction :=
  view_setTransaction { k with manager := o.manager } name o.transaction

theorem view_take_self {α : Type} (name : String) (result : Result α) :
    (k.take name ⟨result, k.manager, k.transaction name⟩).2.view = k.view :=
  (view_take k name _).trans (k.view.set_self name)

section

variable {k}

/-! ## Begin -/

theorem openSession_eq {store : KernelStore} (hrefusal : store.refusal = none) :
    Store.openSession store =
      (.ok store.store.openSession.1, { store with store := store.store.openSession.2 }) := by
  change FaultyStore.openSession store = _
  unfold FaultyStore.openSession
  rw [hrefusal]
  rfl

theorem begin_cases (hrefusal : k.manager.store.refusal = none) (ctx : Context) (name : String) :
    (∃ fault, (k.begin ctx name).1 = .error fault ∧ (k.begin ctx name).2.view = k.view) ∨
      ((k.begin ctx name).1 = .ok () ∧ (k.transaction name).state = .inactive ∧
        (k.begin ctx name).2.view = k.view.set k.memory.openSession.2 name
          ⟨.active, some k.memory.openSession.1, some ctx⟩) := by
  unfold begin
  by_cases hstate : (k.transaction name).state = .inactive
  · by_cases htaken : ctx ∈ k.manager.active
    · rw [TransactionManager.begin_of_taken hstate htaken]
      exact Or.inl ⟨_, rfl, view_take_self k name _⟩
    · rw [TransactionManager.begin_of_opened hstate htaken (openSession_eq hrefusal)]
      exact Or.inr ⟨rfl, hstate, view_take k name _⟩
  · rw [TransactionManager.begin_of_begun hstate]
    exact Or.inl ⟨_, rfl, view_take_self k name _⟩

theorem activeSession_eq_ok_iff {t : Transaction KernelStore} {session : MemorySession} :
    t.activeSession = .ok session ↔ t.state = .active ∧ t.session = some session := by
  obtain ⟨state, held, owner⟩ := t
  cases held <;> cases state <;>
    simp [Transaction.activeSession, Transaction.isActive]

theorem open?_eq_some_iff {name : String} {session : MemorySession} :
    k.open? name = some session ↔
      (k.transaction name).state = .active ∧ (k.transaction name).session = some session := by
  rw [← activeSession_eq_ok_iff, open?]
  cases (k.transaction name).activeSession <;> simp

theorem exists_activeSession_eq_error {name : String} (h : k.open? name = none) :
    ∃ fault, (k.transaction name).activeSession = .error fault := by
  unfold open? at h
  cases hsession : (k.transaction name).activeSession with
  | error fault => exact ⟨fault, rfl⟩
  | ok session => simp [hsession] at h

/-! ## Operations -/

theorem perform_of_not_open {α : Type} {name : String} (h : k.open? name = none)
    (o : Operation α) :
    (∃ fault, (k.perform name o).1 = .error fault) ∧ (k.perform name o).2.view = k.view := by
  obtain ⟨fault, hfault⟩ := exists_activeSession_eq_error h
  cases o with
  | error cause => exact ⟨⟨cause, rfl⟩, view_setTransaction_self k name⟩
  | ok edit =>
      simp only [perform, Transaction.perform, Transaction.edit, hfault]
      exact ⟨⟨fault, rfl⟩, view_setTransaction_self k name⟩

/-- An operation in an active transaction runs on the state of its session. -/
theorem perform_of_open {α : Type} {name : String} {session : MemorySession}
    (h : k.open? name = some session) (o : Operation α) :
    (k.perform name o).1 = (o.on session.working).1 ∧
      (k.perform name o).2.view = k.view.set k.memory name
        { k.transaction name with
          session := some { session with working := (o.on session.working).2 } } := by
  have hopen := open?_eq_some_iff.mp h
  have hactive := activeSession_eq_ok_iff.mpr hopen
  cases o with
  | error cause =>
      exact ⟨rfl, (view_setTransaction_self k name).trans
        (k.view.set_session_self hopen.2).symm⟩
  | ok edit =>
      simp only [perform, Transaction.perform, Transaction.edit, hactive]
      exact ⟨rfl, view_setTransaction k name _⟩

theorem takeSession_of_not_open {name : String} (h : k.open? name = none) :
    ∃ fault, k.manager.takeSession (k.transaction name) =
      ⟨.error fault, k.manager, k.transaction name⟩ := by
  unfold TransactionManager.takeSession
  by_cases hactive : (k.transaction name).isActive = true
  · rw [if_pos hactive]
    cases hsession : (k.transaction name).session with
    | none => exact ⟨_, rfl⟩
    | some session =>
        have hstate : (k.transaction name).state = .active := by
          simpa [Transaction.isActive] using hactive
        have hopen := open?_eq_some_iff.mpr ⟨hstate, hsession⟩
        rw [h] at hopen
        cases hopen
  · rw [if_neg hactive]
    exact ⟨_, rfl⟩

theorem takeSession_of_open {name : String} {session : MemorySession}
    (h : k.open? name = some session) :
    ∃ manager, manager.store = k.manager.store ∧
      k.manager.takeSession (k.transaction name) =
        ⟨.ok session, manager, ⟨.active, none, none⟩⟩ := by
  obtain ⟨hstate, hsession⟩ := open?_eq_some_iff.mp h
  have hactive : (k.transaction name).isActive = true := by
    simp [Transaction.isActive, hstate]
  unfold TransactionManager.takeSession
  rw [if_pos hactive, hsession, hstate]
  cases (k.transaction name).owner with
  | none => exact ⟨_, rfl, rfl⟩
  | some ctx => exact ⟨k.manager.release ctx, rfl, rfl⟩

/-! ## Commit -/

theorem store_commit_of_current {store : KernelStore} {session : MemorySession}
    (h : store.store.revision = session.started) :
    Store.commit store session = (.ok (), { store with store := store.store.accept session }) := by
  change ((store.store.commit session).1,
    { store with store := (store.store.commit session).2 }) = _
  rw [MemoryStore.commit, if_pos h]
  rfl

theorem store_commit_of_stale {store : KernelStore} {session : MemorySession}
    (h : store.store.revision ≠ session.started) :
    Store.commit store session =
      (.error (.transaction (.conflict session.started store.store.revision)),
        { store with store := store.store.abandon session }) := by
  change ((store.store.commit session).1,
    { store with store := (store.store.commit session).2 }) = _
  rw [MemoryStore.commit, if_neg h]

theorem commit_of_not_open {name : String} (h : k.open? name = none) :
    (∃ fault, (k.commit name).1 = .error fault) ∧ (k.commit name).2.view = k.view := by
  obtain ⟨fault, htake⟩ := takeSession_of_not_open h
  unfold commit TransactionManager.commit
  rw [htake]
  exact ⟨⟨fault, rfl⟩, view_take_self k name _⟩

/-- A commit ends the transaction as the store decides. -/
theorem commit_of_open {name : String} {session : MemorySession} {result : Result Unit}
    {m : MemoryStore} (h : k.open? name = some session)
    (hcommit : Store.commit k.manager.store session =
      (result, { k.manager.store with store := m })) :
    (k.commit name).1 = result ∧
      (k.commit name).2.view = k.view.set m name
        ⟨if result.isOk then .committed else .rolledBack, none, none⟩ := by
  obtain ⟨manager, hstore, htake⟩ := takeSession_of_open h
  unfold commit TransactionManager.commit
  rw [htake]
  dsimp only
  rw [hstore, hcommit]
  cases result with
  | error fault => exact ⟨rfl, view_take k name _⟩
  | ok _ => exact ⟨rfl, view_take k name _⟩

theorem commit_of_current {name : String} {session : MemorySession}
    (h : k.open? name = some session) (hcurrent : k.memory.revision = session.started) :
    (k.commit name).1 = .ok () ∧
      (k.commit name).2.view =
        k.view.set (k.memory.accept session) name ⟨.committed, none, none⟩ :=
  commit_of_open h (store_commit_of_current hcurrent)

theorem commit_of_stale {name : String} {session : MemorySession}
    (h : k.open? name = some session) (hstale : k.memory.revision ≠ session.started) :
    (k.commit name).1 = .error (.transaction (.conflict session.started k.memory.revision)) ∧
      (k.commit name).2.view =
        k.view.set (k.memory.abandon session) name ⟨.rolledBack, none, none⟩ :=
  commit_of_open h (store_commit_of_stale hstale)

/-! ## Rollback and drop -/

theorem rollback_manager_of_not_open {name : String} (h : k.open? name = none) :
    ∃ result, k.manager.rollback (k.transaction name) =
      ⟨result, k.manager, k.transaction name⟩ := by
  obtain ⟨fault, htake⟩ := takeSession_of_not_open h
  unfold TransactionManager.rollback
  split
  · rw [htake]
    exact ⟨_, rfl⟩
  · exact ⟨_, rfl⟩

theorem rollback_of_not_open {name : String} (h : k.open? name = none) :
    (k.rollback name).2.view = k.view := by
  obtain ⟨result, hrollback⟩ := rollback_manager_of_not_open h
  unfold rollback
  rw [hrollback]
  exact view_take_self k name _

theorem rollback_manager_of_open {name : String} {session : MemorySession}
    (h : k.open? name = some session) :
    ∃ manager : TransactionManager KernelStore,
      manager.store = { k.manager.store with store := k.memory.abandon session } ∧
        k.manager.rollback (k.transaction name) =
          ⟨.ok (), manager, ⟨.rolledBack, none, none⟩⟩ := by
  obtain ⟨manager, hstore, htake⟩ := takeSession_of_open h
  have hactive : (k.transaction name).isActive = true := by
    simp [Transaction.isActive, (open?_eq_some_iff.mp h).1]
  unfold TransactionManager.rollback
  rw [if_pos hactive, htake]
  refine ⟨_, ?_, rfl⟩
  rw [hstore]
  rfl

theorem rollback_of_open {name : String} {session : MemorySession}
    (h : k.open? name = some session) :
    (k.rollback name).2.view =
      k.view.set (k.memory.abandon session) name ⟨.rolledBack, none, none⟩ := by
  obtain ⟨manager, hstore, hrollback⟩ := rollback_manager_of_open h
  unfold rollback
  rw [hrollback, view_take, view, hstore]
  rfl

theorem transaction_erase (manager : TransactionManager KernelStore) (name : String) :
    { k with manager := manager, transactions := k.transactions.erase name }.transaction =
      update k.transaction name .inactive := by
  funext other
  simp only [transaction, Table.find?_erase, Function.update_apply]
  split <;> rfl

theorem transaction_of_find?_eq_none {name : String} (h : k.transactions.find? name = none) :
    k.transaction name = .inactive := by
  rw [transaction, h]
  rfl

theorem drop_eq {name : String} {t : Transaction KernelStore}
    (h : k.transactions.find? name = some t) :
    k.drop name = { k with
      manager := (k.manager.rollback (k.transaction name)).manager
      transactions := k.transactions.erase name } := by
  have ht : k.transaction name = t := by
    rw [transaction, h]
    rfl
  rw [drop, h, ht]
  rfl

theorem drop_of_not_open {name : String} (h : k.open? name = none) :
    (k.drop name).view = k.view.set k.memory name .inactive := by
  cases hfind : k.transactions.find? name with
  | none =>
      rw [drop, hfind, ← transaction_of_find?_eq_none hfind]
      exact (k.view.set_self name).symm
  | some t =>
      obtain ⟨result, hrollback⟩ := rollback_manager_of_not_open h
      rw [drop_eq hfind, hrollback, view, transaction_erase]
      rfl

theorem drop_of_open {name : String} {session : MemorySession}
    (h : k.open? name = some session) :
    (k.drop name).view = k.view.set (k.memory.abandon session) name .inactive := by
  cases hfind : k.transactions.find? name with
  | none =>
      have hstate := (open?_eq_some_iff.mp h).1
      rw [transaction_of_find?_eq_none hfind] at hstate
      cases hstate
  | some t =>
      obtain ⟨manager, hstore, hrollback⟩ := rollback_manager_of_open h
      rw [drop_eq hfind, hrollback, view, transaction_erase, memory, hstore]
      rfl

/-! ## Slugs -/

theorem session_of_holder? {pool : Nat} {name : String} {session : MemorySession}
    (h : k.holder? pool = some (name, session)) :
    (k.transaction name).session = some session ∧ session.pool = pool := by
  obtain ⟨⟨other, t⟩, hmem, heq⟩ := List.exists_of_findSome?_eq_some h
  cases hsession : t.session with
  | none => simp [hsession] at heq
  | some held =>
      have hfind := Table.find?_eq_some_iff.mpr hmem
      simp only [hsession] at heq
      split at heq
      · next hpool =>
        obtain ⟨rfl, rfl⟩ := Prod.mk.inj (Option.some.inj heq)
        rw [transaction, hfind]
        exact ⟨hsession, hpool⟩
      · cases heq

/-- A slug of an open transaction moves on in the state that the transaction works on. -/
theorem nextPath?_of_holder {handle : SlugHandle} {name : String} {session : MemorySession}
    (h : k.holder? handle.pool = some (name, session)) :
    k.nextPath? handle = (session.working.slugs.nextPath? handle.index).map fun next ↦
      (next.1, k.setTransaction name
        { k.transaction name with
          session := some { session with
            working := { session.working with slugs := next.2 } } }) := by
  simp only [nextPath?, pool?, h, setPool, Option.bind_some]
  cases session.working.slugs.nextPath? handle.index <;> rfl

/-- A slug of a state that nobody works on moves on in the store. -/
theorem nextPath?_of_no_holder {handle : SlugHandle} (h : k.holder? handle.pool = none) :
    k.nextPath? handle =
      ((k.memory.pool? handle.pool).bind fun pool ↦ pool.nextPath? handle.index).map fun next ↦
        (next.1, k.withMemory (k.memory.setPool handle.pool next.2)) := by
  simp only [nextPath?, pool?, h, setPool]
  cases (k.memory.pool? handle.pool).bind fun pool ↦ pool.nextPath? handle.index <;> rfl

theorem view_nextPath_of_holder {handle : SlugHandle} {name : String} {session : MemorySession}
    (h : k.holder? handle.pool = some (name, session)) :
    (k.step (.nextPath handle)).view = k.view.set k.memory name
      { k.transaction name with
        session := some { session with working := session.working.advance handle.index } } := by
  rw [step, nextPath?_of_holder h, StoreState.advance]
  cases session.working.slugs.nextPath? handle.index with
  | none => exact (k.view.set_session_self (session_of_holder? h).1).symm
  | some next => exact view_setTransaction k name _

theorem view_nextPath_of_committed {handle : SlugHandle} (h : k.holder? handle.pool = none)
    (hpool : handle.pool = k.memory.pool) :
    (k.step (.nextPath handle)).view = { k.view with
      memory := { k.memory with committed := k.committed.advance handle.index } } := by
  have hslugs : k.memory.pool? handle.pool = some k.committed.slugs := if_pos hpool
  rw [step, nextPath?_of_no_holder h, hslugs, Option.bind_some, StoreState.advance]
  cases k.committed.slugs.nextPath? handle.index with
  | none => rfl
  | some next =>
      simp only [Option.map_some, MemoryStore.setPool, if_pos hpool]
      rfl

theorem view_nextPath_of_retired {handle : SlugHandle} (h : k.holder? handle.pool = none)
    (hpool : handle.pool ≠ k.memory.pool) :
    ∃ retired, (k.step (.nextPath handle)).view = { k.view with
      memory := { k.memory with retired := retired } } := by
  rw [step, nextPath?_of_no_holder h]
  cases (k.memory.pool? handle.pool).bind fun pool ↦ pool.nextPath? handle.index with
  | none => exact ⟨k.memory.retired, rfl⟩
  | some next =>
      simp only [Option.map_some, MemoryStore.setPool, if_neg hpool]
      exact ⟨_, rfl⟩

end

end Kernel

end ResourceKernel
