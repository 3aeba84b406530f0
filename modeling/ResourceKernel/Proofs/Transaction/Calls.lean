import ResourceKernel.Transaction.Basic

/-!
# Calls on one transaction

What each call on a transaction does to it and to its manager, by whether it is active. A call on a
transaction that is not active leaves everything as it was, up to what the store keeps for itself.
-/

namespace ResourceKernel

variable {σ : Type} [Store σ]

/-- A transaction that holds a session and has an owner is active, and any other has neither. -/
inductive Transaction.Regular : Transaction σ → Prop
  | idle {state : TransactionState} (h : state ≠ .active) : Regular ⟨state, none, none⟩
  | active (session : Store.Session σ) (ctx : Context) : Regular ⟨.active, some session, some ctx⟩

namespace Transaction.Regular

variable {t : Transaction σ}

theorem inactive : (Transaction.inactive : Transaction σ).Regular := .idle (by decide)

theorem active_iff (h : t.Regular) :
    t.state = .active ↔ t.session.isSome = true ∧ t.owner.isSome = true := by
  cases h with
  | idle h => simp [h]
  | active session ctx => simp

theorem exists_of_active (h : t.Regular) (hactive : t.state = .active) :
    ∃ session ctx, t = ⟨.active, some session, some ctx⟩ := by
  cases h with
  | idle hne => exact absurd hactive hne
  | active session ctx => exact ⟨session, ctx, rfl⟩

theorem active_of_owner (h : t.Regular) {ctx : Context} (howner : t.owner = some ctx) :
    t.state = .active := by
  cases h with
  | idle => cases howner
  | active => rfl

end Transaction.Regular

namespace TransactionManager

variable {m : TransactionManager σ} {t : Transaction σ} {ctx : Context}
  {session : Store.Session σ}

omit [Store σ] in
theorem release_cons (hfree : ctx ∉ m.active) (store : σ) :
    ({ store := store, active := ctx :: m.active } : TransactionManager σ).release ctx =
      { m with store := store } := by
  have hothers : (ctx :: m.active).filter (· ≠ ctx) = m.active := by
    rw [List.filter_cons_of_neg (by simp), List.filter_eq_self]
    intro other hother
    have hne : other ≠ ctx := fun hsame ↦ hfree (hsame ▸ hother)
    exact decide_eq_true hne
  rw [release, hothers]

theorem begin_of_begun (h : t.state ≠ .inactive) :
    m.begin ctx t = ⟨.error (.transaction (.cannotBegin t.state)), m, t⟩ := by
  rw [begin, if_pos h]

theorem begin_of_taken (h : t.state = .inactive) (htaken : ctx ∈ m.active) :
    m.begin ctx t = ⟨.error (.transaction .alreadyActive), m, t⟩ := by
  have hactive : m.hasActive ctx = true := List.contains_iff_mem.mpr htaken
  rw [begin, if_neg (not_not_intro h), if_pos hactive]

theorem begin_of_opened (h : t.state = .inactive) (hfree : ctx ∉ m.active) {store : σ}
    (hopen : Store.openSession m.store = (.ok session, store)) :
    m.begin ctx t = ⟨.ok (), ⟨store, ctx :: m.active⟩, ⟨.active, some session, some ctx⟩⟩ := by
  have hactive : ¬m.hasActive ctx = true := fun hin ↦ hfree (List.contains_iff_mem.mp hin)
  rw [begin, if_neg (not_not_intro h), if_neg hactive]
  simp only [hopen]

theorem begin_of_refused (h : t.state = .inactive) (hfree : ctx ∉ m.active) {store : σ}
    {fault : KernelError} (hopen : Store.openSession m.store = (.error fault, store)) :
    m.begin ctx t = ⟨.error fault, { m with store := store }, t⟩ := by
  have hactive : ¬m.hasActive ctx = true := fun hin ↦ hfree (List.contains_iff_mem.mp hin)
  rw [begin, if_neg (not_not_intro h), if_neg hactive]
  simp only [hopen, release_cons hfree]

/-- A transaction that does not begin is left as it is, and so are the active contexts. -/
theorem begin_cases (m : TransactionManager σ) (ctx : Context) (t : Transaction σ) :
    (∃ fault store, m.begin ctx t = ⟨.error fault, { m with store := store }, t⟩) ∨
      t.state = .inactive ∧ ctx ∉ m.active ∧ ∃ session store,
        m.begin ctx t =
          ⟨.ok (), ⟨store, ctx :: m.active⟩, ⟨.active, some session, some ctx⟩⟩ := by
  by_cases hstate : t.state = .inactive
  · by_cases htaken : ctx ∈ m.active
    · exact Or.inl ⟨_, m.store, begin_of_taken hstate htaken⟩
    · obtain ⟨⟨result, store⟩, hopen⟩ : ∃ p, Store.openSession m.store = p := ⟨_, rfl⟩
      cases result with
      | error fault => exact Or.inl ⟨fault, store, begin_of_refused hstate htaken hopen⟩
      | ok session =>
          have hbegin := begin_of_opened hstate htaken hopen
          exact Or.inr ⟨hstate, htaken, session, store, hbegin⟩
  · exact Or.inl ⟨_, m.store, begin_of_begun hstate⟩

theorem takeSession_of_active (m : TransactionManager σ) (session : Store.Session σ)
    (ctx : Context) :
    m.takeSession ⟨.active, some session, some ctx⟩ =
      ⟨.ok session, m.release ctx, ⟨.active, none, none⟩⟩ := rfl

theorem takeSession_of_idle (h : t.state ≠ .active) :
    m.takeSession t = ⟨.error (.transaction (.notActive t.state)), m, t⟩ := by
  have hactive : ¬t.isActive = true := by simpa [Transaction.isActive] using h
  rw [takeSession, if_neg hactive]

theorem commit_of_active (m : TransactionManager σ) (session : Store.Session σ) (ctx : Context) :
    m.commit ⟨.active, some session, some ctx⟩ =
      ⟨(Store.commit m.store session).1,
        { m.release ctx with store := (Store.commit m.store session).2 },
        ⟨if (Store.commit m.store session).1.isOk then .committed else .rolledBack,
          none, none⟩⟩ := by
  rw [commit, takeSession_of_active]
  have hstore : (m.release ctx).store = m.store := rfl
  simp only [hstore]
  obtain ⟨result, store⟩ := Store.commit m.store session
  cases result with
  | error fault => rfl
  | ok _ => rfl

theorem commit_of_idle (h : t.state ≠ .active) :
    m.commit t = ⟨.error (.transaction (.notActive t.state)), m, t⟩ := by
  rw [commit, takeSession_of_idle h]

theorem rollback_of_active (m : TransactionManager σ) (session : Store.Session σ)
    (ctx : Context) :
    m.rollback ⟨.active, some session, some ctx⟩ =
      ⟨.ok (), { m.release ctx with store := Store.abandon m.store session },
        ⟨.rolledBack, none, none⟩⟩ := rfl

theorem rollback_of_idle (h : t.state ≠ .active) : m.rollback t = ⟨.ok (), m, t⟩ := by
  have hactive : ¬t.isActive = true := by simpa [Transaction.isActive] using h
  rw [rollback, if_neg hactive]

theorem drop_of_idle (h : t.state ≠ .active) : m.drop t = m := by
  rw [drop, rollback_of_idle h]

/-! ## Work in a transaction of its own -/

section

variable {α ν : Type} {work : TransactionManager σ → Transaction σ → Outcome σ α × ν}
  {after : TransactionManager σ}

theorem run_of_not_begun {fault : KernelError}
    (h : m.begin ctx .inactive = ⟨.error fault, after, t⟩) :
    m.run ctx work = (.error fault, none, after.drop t) := by
  rw [run, h]

theorem run_of_begun (h : m.begin ctx .inactive = ⟨.ok (), after, t⟩) {o : Outcome σ α} {notes : ν}
    (hwork : work after t = (o, notes)) :
    m.run ctx work =
      ((o.manager.settle o.transaction o.result).result, some notes,
        (o.manager.settle o.transaction o.result).manager.drop
          (o.manager.settle o.transaction o.result).transaction) := by
  rw [run, h]
  simp only [hwork]

end

end TransactionManager

theorem Transaction.perform_of_active {α : Type} (session : Store.Session σ) (ctx : Context)
    (o : Operation α) :
    ∃ result after, (⟨.active, some session, some ctx⟩ : Transaction σ).perform o =
      (result, ⟨.active, some after, some ctx⟩) := by
  cases o with
  | error fault => exact ⟨_, _, rfl⟩
  | ok e => exact ⟨_, _, rfl⟩

theorem Transaction.perform_of_idle {α : Type} {t : Transaction σ} (h : t.state ≠ .active)
    (o : Operation α) : ∃ fault, t.perform o = (.error fault, t) := by
  cases o with
  | error fault => exact ⟨fault, rfl⟩
  | ok e =>
      have hactive : t.isActive = false := by simpa [Transaction.isActive] using h
      refine ⟨.transaction (.notActive t.state), ?_⟩
      simp [perform, edit, activeSession, hactive]

end ResourceKernel
