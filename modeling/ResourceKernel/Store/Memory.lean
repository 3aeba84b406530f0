import ResourceKernel.Store.Basic

/-!
# The store in memory

The store counts its commits. A session starts from a copy of the committed state, and is refused
at the end if another session has committed since. Every copy has its own pool of slugs, which
lives on when the state it came from has been given up or replaced: slugs may still be held.
-/

namespace ResourceKernel

/-- A slug, by the pool it is in and its index there. -/
structure SlugHandle where
  pool : Nat
  index : Nat
  deriving DecidableEq, Repr, Inhabited

structure MemoryStore where
  revision : Nat
  committed : StoreState
  pool : Nat
  nextPool : Nat
  /-- Pools of states that are no longer in use. -/
  retired : Table Nat SlugPool
  deriving DecidableEq, Repr

/-- Work on a copy of the state that was committed at some revision. -/
structure MemorySession where
  started : Nat
  pool : Nat
  working : StoreState
  deriving DecidableEq, Repr

namespace MemoryStore

def empty : MemoryStore := ⟨0, .empty, 0, 1, ∅⟩

instance : Inhabited MemoryStore := ⟨empty⟩

def openSession (m : MemoryStore) : MemorySession × MemoryStore :=
  (⟨m.revision, m.nextPool, m.committed⟩, { m with nextPool := m.nextPool + 1 })

def retire (m : MemoryStore) (pool : Nat) (slugs : SlugPool) : MemoryStore :=
  { m with retired := m.retired.insert pool slugs }

def abandon (m : MemoryStore) (s : MemorySession) : MemoryStore := m.retire s.pool s.working.slugs

/-- Commits a session, unless another has been committed since it was opened. -/
def commit (m : MemoryStore) (s : MemorySession) : Result Unit × MemoryStore :=
  if m.revision = s.started then
    (.ok (),
      { m.retire m.pool m.committed.slugs with
        revision := m.revision + 1
        committed := s.working
        pool := s.pool })
  else (.error (.transaction (.conflict s.started m.revision)), m.abandon s)

instance : Store MemoryStore where
  Session := MemorySession
  state := MemorySession.working
  withState s state := { s with working := state }
  openSession m := (.ok m.openSession.1, m.openSession.2)
  commit := commit
  abandon := abandon

def pool? (m : MemoryStore) (number : Nat) : Option SlugPool :=
  if number = m.pool then some m.committed.slugs else m.retired.find? number

def setPool (m : MemoryStore) (number : Nat) (slugs : SlugPool) : MemoryStore :=
  if number = m.pool then { m with committed := { m.committed with slugs := slugs } }
  else m.retire number slugs

end MemoryStore

end ResourceKernel
