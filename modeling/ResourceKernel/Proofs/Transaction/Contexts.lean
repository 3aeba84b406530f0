import Mathlib.Logic.Function.Basic
import ResourceKernel.Proofs.Transaction.Calls
import ResourceKernel.Store.Faulty
import ResourceKernel.Store.Memory
import ResourceKernel.Transaction.Change

/-!
# Contexts and the transactions they own

Whatever the store, which may refuse to open a session and refuse a commit at any time, and in
whatever order and from whatever contexts the transactions of a manager are begun, used and ended:
just the active transactions hold a session and have an owner, the active contexts are the owners,
and no two active transactions have the same one. So a context is free again as soon as its
transaction has ended. It is refused another one as long as it owns an active one, and otherwise
only where the store refuses.
-/

namespace ResourceKernel

open Function (update)

/-- What can be asked of a transaction, and the context that asks. -/
inductive TransactionCall
  | begin (ctx : Context) (name : String)
  | perform (ctx : Context) (name : String) (o : Operation Reply)
  | commit (ctx : Context) (name : String)
  | rollback (ctx : Context) (name : String)
  | drop (ctx : Context) (name : String)

/-- Whether the call ends the transaction under the name if it is active. -/
def TransactionCall.Ends (name : String) : TransactionCall → Prop
  | .commit _ other | .rollback _ other | .drop _ other => other = name
  | .begin _ _ | .perform _ _ _ => False

/-- A manager and the transactions that it has handed out, by name. A name that is not in use stands
for a transaction that has not begun. -/
structure Managed (σ : Type) [Store σ] where
  manager : TransactionManager σ
  transaction : String → Transaction σ

/-- The ways of a transaction from one state to the next. -/
inductive TransactionState.Moves : TransactionState → TransactionState → Prop
  | stay (s : TransactionState) : Moves s s
  | begin : Moves .inactive .active
  | commit : Moves .active .committed
  | rollback : Moves .active .rolledBack

variable {σ : Type} [Store σ]

namespace Managed

def ofStore (store : σ) : Managed σ := ⟨.ofStore store, fun _ ↦ .inactive⟩

def take {α : Type} (w : Managed σ) (name : String) (o : Outcome σ α) : Result α × Managed σ :=
  (o.result, ⟨o.manager, update w.transaction name o.transaction⟩)

/-- Only the beginning of a transaction depends on the context that asks for it. -/
def call (w : Managed σ) : TransactionCall → Result Unit × Managed σ
  | .begin ctx name => w.take name (w.manager.begin ctx (w.transaction name))
  | .perform _ name o =>
      let done := (w.transaction name).perform o
      w.take name ⟨done.1.map fun _ ↦ (), w.manager, done.2⟩
  | .commit _ name => w.take name (w.manager.commit (w.transaction name))
  | .rollback _ name => w.take name (w.manager.rollback (w.transaction name))
  | .drop _ name => w.take name ⟨.ok (), w.manager.drop (w.transaction name), .inactive⟩

def run (w : Managed σ) (calls : List TransactionCall) : Managed σ :=
  calls.foldl (fun w c ↦ (w.call c).2) w

/-- The transaction under the name is active, and the context has begun it. -/
def Owns (w : Managed σ) (name : String) (ctx : Context) : Prop :=
  (w.transaction name).state = .active ∧ (w.transaction name).owner = some ctx

end Managed

/-! ## What a call does -/

namespace Managed

variable {w after : Managed σ} {c : TransactionCall}

/-- What a call does to the manager and to the transaction that it is about. -/
inductive Passes (w : Managed σ) : TransactionCall → Managed σ → Prop
  | idle {c : TransactionCall} (store : σ) :
      Passes w c ⟨{ w.manager with store := store }, w.transaction⟩
  | begun {c : TransactionCall} {name : String} {ctx : Context} (store : σ)
      (session : Store.Session σ) (hfree : ctx ∉ w.manager.active)
      (hstate : (w.transaction name).state = .inactive) :
      Passes w c ⟨⟨store, ctx :: w.manager.active⟩,
        update w.transaction name ⟨.active, some session, some ctx⟩⟩
  | worked {c : TransactionCall} {name : String} {ctx : Context} {session : Store.Session σ}
      (later : Store.Session σ) (ht : w.transaction name = ⟨.active, some session, some ctx⟩) :
      Passes w c ⟨w.manager, update w.transaction name ⟨.active, some later, some ctx⟩⟩
  | ended {c : TransactionCall} {name : String} {ctx : Context} {session : Store.Session σ}
      (store : σ) {state : TransactionState}
      (ht : w.transaction name = ⟨.active, some session, some ctx⟩)
      (hmoves : TransactionState.Moves .active state) (hstate : state ≠ .active) :
      Passes w c ⟨{ w.manager.release ctx with store := store },
        update w.transaction name ⟨state, none, none⟩⟩
  | dropped {name : String} {ctx caller : Context} {session : Store.Session σ} (store : σ)
      (ht : w.transaction name = ⟨.active, some session, some ctx⟩) :
      Passes w (.drop caller name) ⟨{ w.manager.release ctx with store := store },
        update w.transaction name .inactive⟩
  | forgotten {name : String} {caller : Context} (hstate : (w.transaction name).state ≠ .active) :
      Passes w (.drop caller name) ⟨w.manager, update w.transaction name .inactive⟩

theorem take_self {α : Type} (w : Managed σ) (name : String) (result : Result α) (store : σ) :
    w.take name ⟨result, { w.manager with store := store }, w.transaction name⟩ =
      (result, ⟨{ w.manager with store := store }, w.transaction⟩) := by
  rw [take, Function.update_eq_self]

theorem passes_begin (w : Managed σ) (ctx : Context) (name : String) :
    w.Passes (.begin ctx name) (w.call (.begin ctx name)).2 := by
  rw [call]
  obtain ⟨fault, store, hbegin⟩ | ⟨hstate, hfree, session, store, hbegin⟩ :=
    w.manager.begin_cases ctx (w.transaction name)
  · rw [hbegin, w.take_self name _ store]
    exact .idle store
  · rw [hbegin]
    exact .begun store session hfree hstate

/-- Every call is one of these passes, as long as the transaction is regular that it is about. -/
theorem passes_call (hw : ∀ name, (w.transaction name).Regular) (c : TransactionCall) :
    w.Passes c (w.call c).2 := by
  cases c with
  | begin ctx name => exact w.passes_begin ctx name
  | perform caller name o =>
      by_cases hactive : (w.transaction name).state = .active
      · obtain ⟨session, ctx, ht⟩ := (hw name).exists_of_active hactive
        obtain ⟨result, later, hdone⟩ := Transaction.perform_of_active session ctx o
        simp only [call, ht, hdone]
        exact .worked later ht
      · obtain ⟨fault, hdone⟩ := Transaction.perform_of_idle hactive o
        simp only [call, hdone]
        rw [w.take_self name _ w.manager.store]
        exact .idle w.manager.store
  | commit caller name =>
      by_cases hactive : (w.transaction name).state = .active
      · obtain ⟨session, ctx, ht⟩ := (hw name).exists_of_active hactive
        rw [call, ht, TransactionManager.commit_of_active]
        cases (Store.commit w.manager.store session).1 with
        | error fault => exact .ended _ ht .rollback nofun
        | ok _ => exact .ended _ ht .commit nofun
      · rw [call, TransactionManager.commit_of_idle hactive, w.take_self name _ w.manager.store]
        exact .idle w.manager.store
  | rollback caller name =>
      by_cases hactive : (w.transaction name).state = .active
      · obtain ⟨session, ctx, ht⟩ := (hw name).exists_of_active hactive
        rw [call, ht, TransactionManager.rollback_of_active]
        exact .ended _ ht .rollback nofun
      · rw [call, TransactionManager.rollback_of_idle hactive,
          w.take_self name _ w.manager.store]
        exact .idle w.manager.store
  | drop caller name =>
      by_cases hactive : (w.transaction name).state = .active
      · obtain ⟨session, ctx, ht⟩ := (hw name).exists_of_active hactive
        rw [call, ht, TransactionManager.drop, TransactionManager.rollback_of_active]
        exact .dropped _ ht
      · rw [call, TransactionManager.drop, TransactionManager.rollback_of_idle hactive]
        exact .forgotten hactive

theorem Passes.moves (h : w.Passes c after) {name : String} (hc : ∀ ctx, c ≠ .drop ctx name) :
    TransactionState.Moves (w.transaction name).state (after.transaction name).state := by
  cases h with
  | idle => exact .stay _
  | @begun _ other ctx store session hfree hstate =>
      by_cases hother : name = other
      · subst hother
        simp only [Function.update_self, hstate]
        exact .begin
      · simp only [Function.update_of_ne hother]
        exact .stay _
  | @worked _ other ctx session later ht =>
      by_cases hother : name = other
      · subst hother
        simp only [Function.update_self, ht]
        exact .stay _
      · simp only [Function.update_of_ne hother]
        exact .stay _
  | @ended _ other ctx session store state ht hmoves _ =>
      by_cases hother : name = other
      · subst hother
        simp only [Function.update_self, ht]
        exact hmoves
      · simp only [Function.update_of_ne hother]
        exact .stay _
  | @dropped other ctx caller =>
      have hother : name ≠ other := fun hsame ↦ hc caller (hsame ▸ rfl)
      simp only [Function.update_of_ne hother]
      exact .stay _
  | @forgotten other caller =>
      have hother : name ≠ other := fun hsame ↦ hc caller (hsame ▸ rfl)
      simp only [Function.update_of_ne hother]
      exact .stay _

/-! ## What holds in any order of calls -/

/-- All transactions are regular, the active contexts are their owners, and no two have the same. -/
structure Tidy (w : Managed σ) : Prop where
  regular (name : String) : (w.transaction name).Regular
  mem_active_iff (ctx : Context) :
    ctx ∈ w.manager.active ↔ ∃ name, (w.transaction name).owner = some ctx
  owner_inj {name other : String} {ctx : Context}
    (h : (w.transaction name).owner = some ctx) (h' : (w.transaction other).owner = some ctx) :
    name = other

theorem tidy_ofStore (store : σ) : (ofStore store).Tidy where
  regular _ := .idle nofun
  mem_active_iff ctx := by simp [ofStore, TransactionManager.ofStore, Transaction.inactive]
  owner_inj h := by cases h

namespace Tidy

theorem withStore (h : w.Tidy) (store : σ) :
    Tidy ⟨{ w.manager with store := store }, w.transaction⟩ :=
  ⟨h.regular, h.mem_active_iff, h.owner_inj⟩

theorem regular_update (h : w.Tidy) (name : String) {t : Transaction σ} (ht : t.Regular) :
    ∀ other, (update w.transaction name t other).Regular :=
  (Function.forall_update_iff w.transaction _).mpr ⟨ht, fun other _ ↦ h.regular other⟩

/-- A transaction that gets another state or session, and keeps its owner. -/
theorem setSame (h : w.Tidy) {name : String} {t : Transaction σ} (ht : t.Regular)
    (howner : t.owner = (w.transaction name).owner) :
    Tidy ⟨w.manager, update w.transaction name t⟩ := by
  have hsame (other : String) :
      (update w.transaction name t other).owner = (w.transaction other).owner := by
    by_cases hother : other = name
    · rw [hother, Function.update_self, howner]
    · rw [Function.update_of_ne hother]
  refine ⟨h.regular_update name ht, fun ctx ↦ ?_, fun h₁ h₂ ↦ ?_⟩
  · simp only [hsame]
    exact h.mem_active_iff ctx
  · rw [hsame] at h₁ h₂
    exact h.owner_inj h₁ h₂

theorem begun (h : w.Tidy) {name : String} {ctx : Context} (store : σ)
    (session : Store.Session σ) (hfree : ctx ∉ w.manager.active)
    (hstate : (w.transaction name).state = .inactive) :
    Tidy ⟨⟨store, ctx :: w.manager.active⟩,
      update w.transaction name ⟨.active, some session, some ctx⟩⟩ := by
  have hnone : (w.transaction name).owner = none := by
    rw [Option.eq_none_iff_forall_ne_some]
    intro owner howner
    rw [(h.regular name).active_of_owner howner] at hstate
    cases hstate
  have howner : ∀ other owner,
      (update w.transaction name ⟨.active, some session, some ctx⟩ other).owner = some owner ↔
        other = name ∧ owner = ctx ∨ (w.transaction other).owner = some owner := by
    intro other owner
    by_cases hother : other = name
    · simp [hother, hnone, eq_comm]
    · simp [hother]
  have hothers : ∀ other, (w.transaction other).owner ≠ some ctx := by
    intro other hother
    exact hfree ((h.mem_active_iff ctx).mpr ⟨other, hother⟩)
  refine ⟨h.regular_update name (.active session ctx), fun owner ↦ ?_, fun h₁ h₂ ↦ ?_⟩
  · simp only [List.mem_cons, h.mem_active_iff, howner, exists_or, exists_eq_left]
  · rw [howner] at h₁ h₂
    obtain ⟨rfl, rfl⟩ | h₁ := h₁ <;> obtain ⟨rfl, hctx⟩ | h₂ := h₂
    · rfl
    · exact absurd h₂ (hothers _)
    · exact absurd (hctx ▸ h₁) (hothers _)
    · exact h.owner_inj h₁ h₂

/-- The owner of a transaction is released, and has no other transaction. -/
theorem ended (h : w.Tidy) {name : String} {ctx : Context} (store : σ)
    (howner : (w.transaction name).owner = some ctx) {t : Transaction σ} (ht : t.Regular)
    (hnone : t.owner = none) :
    Tidy ⟨{ w.manager.release ctx with store := store }, update w.transaction name t⟩ := by
  have hleft : ∀ other owner, (update w.transaction name t other).owner = some owner ↔
      (w.transaction other).owner = some owner ∧ owner ≠ ctx := by
    intro other owner
    by_cases hother : other = name
    · simp [hother, hnone, howner, eq_comm]
    · rw [Function.update_of_ne hother, iff_self_and]
      rintro hsome rfl
      exact hother (h.owner_inj hsome howner)
  refine ⟨h.regular_update name ht, fun owner ↦ ?_, fun h₁ h₂ ↦ ?_⟩
  · have hactive : owner ∈ (w.manager.release ctx).active ↔
        owner ∈ w.manager.active ∧ owner ≠ ctx := by
      simp [TransactionManager.release]
    simp only [hactive, h.mem_active_iff, hleft, exists_and_right]
  · rw [hleft] at h₁ h₂
    exact h.owner_inj h₁.1 h₂.1

theorem passes (h : w.Tidy) (hpasses : w.Passes c after) : after.Tidy := by
  cases hpasses with
  | idle store => exact h.withStore store
  | begun store session hfree hstate => exact h.begun store session hfree hstate
  | @worked _ name ctx session later ht =>
      apply h.setSame (.active later ctx)
      rw [ht]
  | @ended _ name ctx session store state ht _ hstate =>
      apply h.ended store _ (.idle hstate) rfl
      rw [ht]
  | @dropped name ctx caller session store ht =>
      apply h.ended store _ .inactive rfl
      rw [ht]
  | @forgotten name caller hstate =>
      apply h.setSame .inactive
      cases hregular : (w.transaction name).owner with
      | none => rfl
      | some ctx => exact absurd ((h.regular name).active_of_owner hregular) hstate

theorem owns_iff (h : w.Tidy) (name : String) (ctx : Context) :
    w.Owns name ctx ↔ (w.transaction name).owner = some ctx :=
  ⟨And.right, fun howner ↦ ⟨(h.regular name).active_of_owner howner, howner⟩⟩

theorem mem_active_iff_owns (h : w.Tidy) (ctx : Context) :
    ctx ∈ w.manager.active ↔ ∃ name, w.Owns name ctx := by
  simp only [h.owns_iff]
  exact h.mem_active_iff ctx

end Tidy

theorem tidy_run (h : w.Tidy) (calls : List TransactionCall) : (w.run calls).Tidy := by
  induction calls generalizing w with
  | nil => exact h
  | cons c calls ih => exact ih (h.passes (passes_call h.regular c))

/-! ## The next call after any others -/

namespace Tidy

theorem begin_of_owner (h : w.Tidy) {name other : String} {ctx : Context}
    (hstate : (w.transaction name).state = .inactive) (hother : w.Owns other ctx) :
    (w.call (.begin ctx name)).1 = .error (.transaction .alreadyActive) := by
  have htaken : ctx ∈ w.manager.active := (h.mem_active_iff_owns ctx).mpr ⟨other, hother⟩
  rw [call, TransactionManager.begin_of_taken hstate htaken]
  rfl

/-- Nothing but the store stands against the beginning of a transaction in a free context. -/
theorem begin_of_free (h : w.Tidy) {name : String} {ctx : Context}
    (hstate : (w.transaction name).state = .inactive) (hfree : ∀ other, ¬w.Owns other ctx) :
    (w.call (.begin ctx name)).1 = (Store.openSession w.manager.store).1.map fun _ ↦ () := by
  have hout : ctx ∉ w.manager.active := by
    rw [h.mem_active_iff_owns]
    exact not_exists.mpr hfree
  obtain ⟨⟨result, store⟩, hopen⟩ : ∃ p, Store.openSession w.manager.store = p := ⟨_, rfl⟩
  cases result with
  | error fault =>
      rw [call, TransactionManager.begin_of_refused hstate hout hopen, hopen]
      rfl
  | ok session =>
      rw [call, TransactionManager.begin_of_opened hstate hout hopen, hopen]
      rfl

theorem begin_alreadyActive_iff (h : w.Tidy) {name : String} {ctx : Context}
    (hstate : (w.transaction name).state = .inactive) :
    (w.call (.begin ctx name)).1 = .error (.transaction .alreadyActive) ↔
      (∃ other, w.Owns other ctx) ∨
        (Store.openSession w.manager.store).1 = .error (.transaction .alreadyActive) := by
  by_cases howner : ∃ other, w.Owns other ctx
  · obtain ⟨other, hother⟩ := howner
    have hrefused := h.begin_of_owner hstate hother
    exact iff_of_true hrefused (Or.inl ⟨other, hother⟩)
  · rw [h.begin_of_free hstate (not_exists.mp howner)]
    cases (Store.openSession w.manager.store).1 with
    | error fault => simp [Except.map, howner]
    | ok session => simp [Except.map, howner]

end Tidy

theorem begin_failed (w : Managed σ) {name : String} {ctx : Context} {fault : KernelError}
    (hfailed : (w.call (.begin ctx name)).1 = .error fault) :
    (w.call (.begin ctx name)).2.transaction = w.transaction ∧
      (w.call (.begin ctx name)).2.manager.active = w.manager.active := by
  rw [call] at hfailed ⊢
  obtain ⟨_, store, hbegin⟩ | ⟨_, _, session, store, hbegin⟩ :=
    w.manager.begin_cases ctx (w.transaction name)
  · rw [hbegin, w.take_self name _ store]
    exact ⟨rfl, rfl⟩
  · rw [hbegin] at hfailed
    cases hfailed

namespace Tidy

theorem eq_of_owns (h : w.Tidy) {name : String} {ctx : Context} (howns : w.Owns name ctx) :
    ∃ session, w.transaction name = ⟨.active, some session, some ctx⟩ := by
  obtain ⟨session, owner, ht⟩ := (h.regular name).exists_of_active howns.1
  have howner : some owner = some ctx := by rw [← howns.2, ht]
  obtain rfl := Option.some.inj howner
  exact ⟨session, ht⟩

/-- Whoever ends a transaction, its owner is released, and nobody else. -/
theorem released (h : w.Tidy) {name : String} {ctx : Context} (howns : w.Owns name ctx)
    (hends : c.Ends name) :
    (w.call c).2.manager.active = (w.manager.release ctx).active ∧
      ((w.call c).2.transaction name).state ≠ .active := by
  obtain ⟨session, ht⟩ := h.eq_of_owns howns
  cases c with
  | begin | perform => exact hends.elim
  | commit _ other =>
      obtain rfl : other = name := hends
      rw [call, ht, TransactionManager.commit_of_active]
      refine ⟨rfl, ?_⟩
      simp only [take, Function.update_self]
      split <;> decide
  | rollback _ other =>
      obtain rfl : other = name := hends
      rw [call, ht, TransactionManager.rollback_of_active]
      refine ⟨rfl, ?_⟩
      simp only [take, Function.update_self]
      decide
  | drop _ other =>
      obtain rfl : other = name := hends
      rw [call, ht, TransactionManager.drop, TransactionManager.rollback_of_active]
      refine ⟨rfl, ?_⟩
      simp [take, Transaction.inactive]

/-- The answer to a commit is the store's, and says what has become of the transaction. -/
theorem committed (h : w.Tidy) {name : String} {ctx caller : Context} (howns : w.Owns name ctx) :
    ∃ session, (w.transaction name).session = some session ∧
      (w.call (.commit caller name)).1 = (Store.commit w.manager.store session).1 ∧
      ((w.call (.commit caller name)).2.transaction name).state =
        if (w.call (.commit caller name)).1.isOk then .committed else .rolledBack := by
  obtain ⟨session, ht⟩ := h.eq_of_owns howns
  refine ⟨session, by rw [ht], ?_⟩
  rw [call, ht, TransactionManager.commit_of_active]
  refine ⟨rfl, ?_⟩
  simp only [take, Function.update_self]
  rfl

/-- A transaction without a session is not active, and that is what is complained about. -/
theorem noSession (h : w.Tidy) (name : String) :
    (w.manager.takeSession (w.transaction name)).result ≠ .error ↑StateFault.noSession := by
  by_cases hactive : (w.transaction name).state = .active
  · obtain ⟨session, ctx, ht⟩ := (h.regular name).exists_of_active hactive
    rw [ht, TransactionManager.takeSession_of_active]
    intro hfault
    cases hfault
  · rw [TransactionManager.takeSession_of_idle hactive]
    intro hfault
    cases hfault

end Tidy

/-- What is to hold of a manager and its transactions at any time, and of any next call. -/
structure Orderly (w : Managed σ) : Prop where
  active_iff (name : String) :
    (w.transaction name).state = .active ↔
      (w.transaction name).session.isSome = true ∧ (w.transaction name).owner.isSome = true
  hasActive_iff (ctx : Context) : w.manager.hasActive ctx = true ↔ ∃ name, w.Owns name ctx
  owns_inj {name other : String} {ctx : Context} :
    w.Owns name ctx → w.Owns other ctx → name = other
  /-- A context that is free gets the store's answer, which may be any error. -/
  begin_iff {name : String} {ctx : Context} :
    (w.transaction name).state = .inactive →
      ((w.call (.begin ctx name)).1 = .error (.transaction .alreadyActive) ↔
        (∃ other, w.Owns other ctx) ∨
          (Store.openSession w.manager.store).1 = .error (.transaction .alreadyActive))
  begin_free {name : String} {ctx : Context} :
    (w.transaction name).state = .inactive → (∀ other, ¬w.Owns other ctx) →
      (w.call (.begin ctx name)).1 = (Store.openSession w.manager.store).1.map fun _ ↦ ()
  begin_failed {name : String} {ctx : Context} {fault : KernelError} :
    (w.call (.begin ctx name)).1 = .error fault →
      (w.call (.begin ctx name)).2.transaction = w.transaction ∧
        (w.call (.begin ctx name)).2.manager.active = w.manager.active
  /-- A name that is dropped is free for another transaction. Apart from this, a transaction goes
  forward only. -/
  moves {c : TransactionCall} {name : String} :
    (∀ ctx, c ≠ .drop ctx name) →
      TransactionState.Moves (w.transaction name).state ((w.call c).2.transaction name).state
  released {c : TransactionCall} {name : String} {ctx : Context} :
    w.Owns name ctx → c.Ends name →
      (w.call c).2.manager.hasActive ctx = false ∧
        ((w.call c).2.transaction name).state ≠ .active
  committed {name : String} {ctx caller : Context} :
    w.Owns name ctx → ∃ session, (w.transaction name).session = some session ∧
      (w.call (.commit caller name)).1 = (Store.commit w.manager.store session).1 ∧
      ((w.call (.commit caller name)).2.transaction name).state =
        if (w.call (.commit caller name)).1.isOk then .committed else .rolledBack
  noSession (name : String) :
    (w.manager.takeSession (w.transaction name)).result ≠ .error ↑StateFault.noSession

theorem Tidy.orderly (h : w.Tidy) : w.Orderly where
  active_iff name := (h.regular name).active_iff
  hasActive_iff ctx := by
    rw [TransactionManager.hasActive, List.contains_iff_mem]
    exact h.mem_active_iff_owns ctx
  owns_inj hname hother := h.owner_inj hname.2 hother.2
  begin_iff := h.begin_alreadyActive_iff
  begin_free := h.begin_of_free
  begin_failed := w.begin_failed
  moves hc := (passes_call h.regular _).moves hc
  released {c name ctx} howns hends := by
    obtain ⟨hactive, hstate⟩ := h.released howns hends
    refine ⟨?_, hstate⟩
    rw [TransactionManager.hasActive, hactive]
    simp [TransactionManager.release]
  committed := h.committed
  noSession := h.noSession

/-- However often the store has refused a session or a commit, and whoever has ended the
transactions of whom, no context has been left behind, and none is shared. -/
theorem contexts_of_transactions (store : σ) (calls : List TransactionCall) :
    ((ofStore store).run calls).Orderly := by
  have hstart : (ofStore store).Tidy := tidy_ofStore store
  have htidy : ((ofStore store).run calls).Tidy := tidy_run hstart calls
  exact htidy.orderly

/-- The store refuses the first session. The transaction of one context is ended from the other, and
then that of the other is refused, and its context is free. -/
theorem context_free_after_conflict :
    let offline : KernelError := .illegalState (.of (.note "store offline"))
    let store := (FaultyStore.of MemoryStore.empty).failNext offline
    let w := (ofStore store).run
      [.begin "main" "a", .begin "main" "a", .begin "side" "b", .begin "main" "c",
        .commit "side" "a"]
    w.Owns "b" "side" ∧
      (w.call (.commit "main" "b")).1 = .error (.transaction (.conflict 0 1)) ∧
      (w.call (.commit "main" "b")).2.manager.hasActive "side" = false := by
  intro offline store w
  have howns : w.Owns "b" "side" := ⟨by decide +kernel, by decide +kernel⟩
  have hends : (TransactionCall.commit "main" "b").Ends "b" := rfl
  have horderly : w.Orderly := contexts_of_transactions store _
  have hrefused : (w.call (.commit "main" "b")).1 = .error (.transaction (.conflict 0 1)) := rfl
  exact ⟨howns, hrefused, (horderly.released howns hends).1⟩

/-- A store may answer by itself that there is an active transaction, though nobody owns one. And a
transaction that is begun again stays active, though beginning it fails. -/
theorem alreadyActive_though_free :
    let store := FaultyStore.of MemoryStore.empty
    let free := ofStore (store.failNext (.transaction .alreadyActive))
    let begun := (ofStore store).run [.begin "main" "a"]
    let again := begun.call (.begin "main" "a")
    (free.transaction "a").state = .inactive ∧ (∀ name ctx, ¬free.Owns name ctx) ∧
      (free.call (.begin "main" "a")).1 = .error (.transaction .alreadyActive) ∧
      again.1 = .error (.transaction (.cannotBegin .active)) ∧
      (again.2.transaction "a").state = .active := by
  intro store free begun again
  refine ⟨rfl, ?_, rfl, rfl, by decide +kernel⟩
  rintro name ctx ⟨hactive, -⟩
  cases hactive

end Managed

end ResourceKernel
