import ResourceKernel.Store.Basic

/-!
# Stores that refuse sessions

A store can be made to refuse the next session it is asked for.
-/

namespace ResourceKernel

structure FaultyStore (σ : Type) where
  store : σ
  refusal : Option KernelError

namespace FaultyStore

variable {σ : Type}

def of (store : σ) : FaultyStore σ := ⟨store, none⟩

def failNext (f : FaultyStore σ) (error : KernelError) : FaultyStore σ :=
  { f with refusal := some error }

/-- Refuses once, and then passes requests on. -/
def openSession [Store σ] (f : FaultyStore σ) : Result (Store.Session σ) × FaultyStore σ :=
  match f.refusal with
  | some error => (.error error, { f with refusal := none })
  | none =>
      let (session, store) := Store.openSession f.store
      (session, { f with store := store })

instance [Store σ] : Store (FaultyStore σ) where
  Session := Store.Session σ
  state := Store.state
  withState := Store.withState
  openSession := openSession
  commit f s :=
    let (result, store) := Store.commit f.store s
    (result, { f with store := store })
  abandon f s := { f with store := Store.abandon f.store s }

end FaultyStore

end ResourceKernel
