import ResourceKernel.Store.Basic

/-!
# Transactions

A transaction is begun, used for operations on the graph, and committed or rolled back. A manager
sees to it that no execution context has two active transactions.
-/

namespace ResourceKernel

/-- A place of execution in which at most one transaction is active. -/
abbrev Context := String

structure Transaction (σ : Type) [Store σ] where
  state : TransactionState
  session : Option (Store.Session σ)
  /-- The context that began the transaction. -/
  owner : Option Context

/-- A store and the contexts that own an active transaction. -/
structure TransactionManager (σ : Type) where
  store : σ
  active : List Context
  deriving DecidableEq, Repr

/-- What is left after a step on a transaction. -/
structure Outcome (σ : Type) [Store σ] (α : Type) where
  result : Result α
  manager : TransactionManager σ
  transaction : Transaction σ

variable {σ : Type} [Store σ]

namespace Transaction

def inactive : Transaction σ := ⟨.inactive, none, none⟩

instance : Inhabited (Transaction σ) := ⟨inactive⟩

def isActive (t : Transaction σ) : Bool := t.state = .active

def activeSession (t : Transaction σ) : Result (Store.Session σ) :=
  match t.isActive, t.session with
  | true, some session => .ok session
  | _, _ => .error (.transaction (.notActive t.state))

def edit {α : Type} (t : Transaction σ) (e : Edit α) : Result α × Transaction σ :=
  match t.activeSession with
  | .error fault => (.error fault, t)
  | .ok session =>
      let (result, state) := e (Store.state session)
      (result, { t with session := some (Store.withState session state) })

/-- Runs an operation. One whose arguments are not sound fails before the transaction is looked
at. -/
def perform {α : Type} (t : Transaction σ) (o : Operation α) : Result α × Transaction σ :=
  match o with
  | .error fault => (.error fault, t)
  | .ok e => t.edit e

end Transaction

namespace TransactionManager

def ofStore (store : σ) : TransactionManager σ := ⟨store, []⟩

def hasActive (m : TransactionManager σ) (ctx : Context) : Bool := m.active.contains ctx

def release (m : TransactionManager σ) (ctx : Context) : TransactionManager σ :=
  { m with active := m.active.filter (· ≠ ctx) }

/-- Begins a transaction in a context. If no session can be opened, the context is free again. -/
def begin (m : TransactionManager σ) (ctx : Context) (t : Transaction σ) : Outcome σ Unit :=
  if t.state ≠ .inactive then ⟨.error (.transaction (.cannotBegin t.state)), m, t⟩
  else if m.hasActive ctx then ⟨.error (.transaction .alreadyActive), m, t⟩
  else
    let m := { m with active := ctx :: m.active }
    match Store.openSession m.store with
    | (.ok session, store) =>
        ⟨.ok (), { m with store := store }, ⟨.active, some session, some ctx⟩⟩
    | (.error fault, store) => ⟨.error fault, { m with store := store }.release ctx, t⟩

/-- Takes the session out of an active transaction and releases the context that owns it. -/
def takeSession (m : TransactionManager σ) (t : Transaction σ) :
    Outcome σ (Store.Session σ) :=
  if t.isActive then
    match t.session with
    | none => ⟨.error ↑StateFault.noSession, m, t⟩
    | some session =>
        match t.owner with
        | some ctx => ⟨.ok session, m.release ctx, ⟨t.state, none, none⟩⟩
        | none => ⟨.ok session, m, ⟨t.state, none, none⟩⟩
  else ⟨.error (.transaction (.notActive t.state)), m, t⟩

/-- Commits a transaction. If the store refuses, the transaction is rolled back. -/
def commit (m : TransactionManager σ) (t : Transaction σ) : Outcome σ Unit :=
  match m.takeSession t with
  | ⟨.error fault, m, t⟩ => ⟨.error fault, m, t⟩
  | ⟨.ok session, m, t⟩ =>
      match Store.commit m.store session with
      | (.ok (), store) => ⟨.ok (), { m with store := store }, { t with state := .committed }⟩
      | (.error fault, store) =>
          ⟨.error fault, { m with store := store }, { t with state := .rolledBack }⟩

/-- Gives up an active transaction. Other transactions stay as they are. -/
def rollback (m : TransactionManager σ) (t : Transaction σ) : Outcome σ Unit :=
  if t.isActive then
    match m.takeSession t with
    | ⟨.error fault, m, t⟩ => ⟨.error fault, m, t⟩
    | ⟨.ok session, m, t⟩ =>
        ⟨.ok (), { m with store := Store.abandon m.store session },
          { t with state := .rolledBack }⟩
  else ⟨.ok (), m, t⟩

def drop (m : TransactionManager σ) (t : Transaction σ) : TransactionManager σ :=
  (m.rollback t).manager

/-- Ends a transaction as the result of its work says: a success is committed, and a failure is
rolled back and kept. -/
def settle {α : Type} (m : TransactionManager σ) (t : Transaction σ) (result : Result α) :
    Outcome σ α :=
  match result with
  | .ok a =>
      let o := m.commit t
      ⟨o.result.map fun _ ↦ a, o.manager, o.transaction⟩
  | .error fault =>
      let o := m.rollback t
      ⟨o.result.bind fun _ ↦ .error fault, o.manager, o.transaction⟩

/-- Runs work in a fresh transaction and settles it. The work may leave notes besides its result;
there are none if the transaction could not begin. -/
def run {α ν : Type} (m : TransactionManager σ) (ctx : Context)
    (work : TransactionManager σ → Transaction σ → Outcome σ α × ν) :
    Result α × Option ν × TransactionManager σ :=
  match m.begin ctx .inactive with
  | ⟨.error fault, m, t⟩ => (.error fault, none, m.drop t)
  | ⟨.ok (), m, t⟩ =>
      let (o, notes) := work m t
      let settled := o.manager.settle o.transaction o.result
      (settled.result, some notes, settled.manager.drop settled.transaction)

end TransactionManager

end ResourceKernel
