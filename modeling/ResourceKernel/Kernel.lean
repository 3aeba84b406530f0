import ResourceKernel.Store.Faulty
import ResourceKernel.Store.Memory
import ResourceKernel.Transaction.Basic
import ResourceKernel.Transaction.Change

/-!
# The kernel at work

A library, a store in memory, and the transactions that are open on it, each under a name. Slugs
can be used by whoever holds them, whether or not the transaction they came from is still open.
-/

namespace ResourceKernel

abbrev KernelStore := FaultyStore MemoryStore

structure Kernel where
  library : TemplateLibrary
  manager : TransactionManager KernelStore
  transactions : Table String (Transaction KernelStore)

namespace Kernel

def ofLibrary (library : TemplateLibrary) : Kernel := ⟨library, .ofStore (.of .empty), ∅⟩

def memory (k : Kernel) : MemoryStore := k.manager.store.store

def withMemory (k : Kernel) (m : MemoryStore) : Kernel :=
  { k with manager := { k.manager with store := { k.manager.store with store := m } } }

def committed (k : Kernel) : StoreState := k.memory.committed

/-! ## Transactions by name -/

/-- The transaction under a name. A name that has not been used stands for one that has not
begun. -/
def transaction (k : Kernel) (name : String) : Transaction KernelStore :=
  (k.transactions.find? name).getD .inactive

def setTransaction (k : Kernel) (name : String) (t : Transaction KernelStore) : Kernel :=
  { k with transactions := k.transactions.insert name t }

def take {α : Type} (k : Kernel) (name : String) (o : Outcome KernelStore α) : Result α × Kernel :=
  (o.result, { k with manager := o.manager }.setTransaction name o.transaction)

def begin (k : Kernel) (ctx : Context) (name : String) : Result Unit × Kernel :=
  k.take name (k.manager.begin ctx (k.transaction name))

def commit (k : Kernel) (name : String) : Result Unit × Kernel :=
  k.take name (k.manager.commit (k.transaction name))

def rollback (k : Kernel) (name : String) : Result Unit × Kernel :=
  k.take name (k.manager.rollback (k.transaction name))

def drop (k : Kernel) (name : String) : Kernel :=
  match k.transactions.find? name with
  | some t => { k with manager := k.manager.drop t, transactions := k.transactions.erase name }
  | none => k

def renew (k : Kernel) (name : String) : Kernel := (k.drop name).setTransaction name .inactive

def perform {α : Type} (k : Kernel) (name : String) (o : Operation α) : Result α × Kernel :=
  let (result, t) := (k.transaction name).perform o
  (result, k.setTransaction name t)

def change (k : Kernel) (name : String) (c : Change) : Result Reply × Kernel :=
  k.perform name (c.operation k.library)

/-! ## Slugs -/

def poolOf? (t : Transaction KernelStore) : Option Nat :=
  match t.session with
  | some (s : MemorySession) => some s.pool
  | none => none

/-- The transaction that works with a pool. -/
def holder? (k : Kernel) (pool : Nat) : Option (String × MemorySession) :=
  k.transactions.entries.findSome? fun (name, t) ↦
    match t.session with
    | some (s : MemorySession) => if s.pool = pool then some (name, s) else none
    | none => none

def pool? (k : Kernel) (number : Nat) : Option SlugPool :=
  match k.holder? number with
  | some (_, session) => some session.working.slugs
  | none => k.memory.pool? number

def slug? (k : Kernel) (handle : SlugHandle) : Option Slug :=
  (k.pool? handle.pool).bind fun p ↦ p.get? handle.index

def setPool (k : Kernel) (number : Nat) (slugs : SlugPool) : Kernel :=
  match k.holder? number with
  | some (name, session) =>
      let working := { session.working with slugs := slugs }
      let session : MemorySession := { session with working := working }
      k.setTransaction name { k.transaction name with session := some session }
  | none => k.withMemory (k.memory.setPool number slugs)

def nextPath? (k : Kernel) (handle : SlugHandle) : Option (String × Kernel) :=
  match (k.pool? handle.pool).bind fun p ↦ p.nextPath? handle.index with
  | some (path, slugs) => some (path, k.setPool handle.pool slugs)
  | none => none

end Kernel

end ResourceKernel
