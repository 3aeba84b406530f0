import ResourceKernel.Store.State

/-!
# Stores and sessions

A store opens sessions. A session works on a state of its own until the store commits it or it is
given up. Opening and committing may fail.
-/

namespace ResourceKernel

class Store (σ : Type) where
  Session : Type
  state : Session → StoreState
  withState : Session → StoreState → Session
  openSession : σ → Result Session × σ
  /-- Makes the state of a session the state of the store. The session ends in any case. -/
  commit : σ → Session → Result Unit × σ
  /-- Ends a session without effect. -/
  abandon : σ → Session → σ

end ResourceKernel
