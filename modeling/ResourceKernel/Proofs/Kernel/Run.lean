import ResourceKernel.Proofs.Graph.Refusal
import ResourceKernel.Proofs.Kernel.Move

/-!
# Runs of a kernel

Whatever the order of the moves, the pools of the open transactions stay apart from each other and
from the committed one, and what holds of the empty state and is kept by effects holds of all
states in a run. Hence every state is sound, and a change that is refused changes nothing.
-/

namespace ResourceKernel

open Function (update)

/-- What a transaction does to the state it works on. -/
inductive Deed
  | change (c : Change)
  | advance (index : Nat)
  deriving DecidableEq, Repr

def Deed.on (library : TemplateLibrary) (s : StoreState) : Deed → StoreState
  | .change c => ((c.operation library).on s).2
  | .advance index => s.advance index

theorem StoreState.advance_eq (s : StoreState) (index : Nat) :
    ∃ slugs, s.advance index = { s with slugs := slugs } := by
  unfold advance
  cases s.slugs.nextPath? index with
  | none => exact ⟨s.slugs, rfl⟩
  | some next => exact ⟨_, rfl⟩

theorem StoreState.effects_advance (library : TemplateLibrary) (s : StoreState) (index : Nat) :
    Effects library s (s.advance index) := by
  unfold advance
  cases hnext : s.slugs.nextPath? index with
  | none => exact .refl
  | some next => exact .single (.advanced hnext)

theorem Deed.effects {library : TemplateLibrary} {s : StoreState} (hs : s.Sound) (d : Deed) :
    Effects library s (d.on library s) := by
  cases d with
  | change c => exact (c.orderly hs).effects
  | advance index => exact s.effects_advance library index

/-- What is done touches slugs at most, or is a change that is granted. -/
theorem Deed.granted_or_idle (library : TemplateLibrary) {s : StoreState} (hs : s.Sound)
    (d : Deed) : (∃ slugs, d.on library s = { s with slugs := slugs }) ∨
      ∃ c reply, d = .change c ∧ Granted library s c reply (d.on library s) := by
  cases d with
  | advance index => exact Or.inl (s.advance_eq index)
  | change c =>
      have hanswers : Answers library s c ((c.operation library).on s) := c.answers hs
      rw [Deed.on]
      generalize (c.operation library).on s = after at hanswers ⊢
      cases hanswers with
      | refused => exact Or.inl ⟨s.slugs, rfl⟩
      | granted hgranted => exact Or.inr ⟨c, _, rfl, hgranted⟩

/-- A library of shelves that hold books. -/
def TemplateLibrary.shelves : TemplateLibrary :=
  (TemplateLibrary.empty.insert "shelves" ⟨"shelf", "shelves", none, none, [],
    .container ⟨"book", none⟩⟩).insert "books" ⟨"book", "books", none, none, [], .resource⟩

/-- What a move asks to be done to a state. -/
def Move.deed? : Move → Option Deed
  | .change _ c => some (.change c)
  | .nextPath handle => some (.advance handle.index)
  | .begin _ _ | .commit _ | .rollback _ | .drop _ => none

namespace Kernel

/-- What a move does to what a kernel holds. Nothing is done to a state but what the move asks. -/
inductive Turn (asked : Option Deed) (v : View) : View → Prop
  | idle : Turn asked v v
  | opened (name : String) (ctx : Context) :
      Turn asked v
        (v.set v.memory.openSession.2 name ⟨.active, some v.memory.openSession.1, some ctx⟩)
  | worked {name : String} {session : MemorySession} {d : Deed} (hasked : d ∈ asked)
      (hsession : (v.transaction name).session = some session) :
      Turn asked v (v.set v.memory name
        { v.transaction name with
          session := some { session with working := d.on v.library session.working } })
  | accepted {name : String} {session : MemorySession}
      (hsession : (v.transaction name).session = some session)
      (hcurrent : v.memory.revision = session.started) :
      Turn asked v (v.set (v.memory.accept session) name ⟨.committed, none, none⟩)
  | abandoned (name : String) (session : MemorySession) {t : Transaction KernelStore}
      (hended : t.session = none) (hstate : t.state ≠ .active) :
      Turn asked v (v.set (v.memory.abandon session) name t)
  | forgotten (name : String) : Turn asked v (v.set v.memory name .inactive)
  | leaked {index : Nat} (hasked : .advance index ∈ asked) :
      Turn asked v { v with
        memory := { v.memory with committed := v.memory.committed.advance index } }
  | wasted (retired : Table Nat SlugPool) :
      Turn asked v { v with memory := { v.memory with retired := retired } }

variable {k : Kernel}

theorem step_turn (hrefusal : k.manager.store.refusal = none) (m : Move) :
    Turn m.deed? k.view (k.step m).view := by
  cases m with
  | begin ctx name =>
      rcases begin_cases hrefusal ctx name with ⟨fault, -, hview⟩ | ⟨-, -, hview⟩
      · exact hview ▸ .idle
      · exact hview ▸ .opened name ctx
  | change name c =>
      cases hopen : k.open? name with
      | none => exact (perform_of_not_open hopen _).2 ▸ .idle
      | some session =>
          have hview := (perform_of_open hopen (c.operation k.library)).2
          exact hview ▸ .worked rfl (open?_eq_some_iff.mp hopen).2
  | nextPath handle =>
      cases hholder : k.holder? handle.pool with
      | some held =>
          rw [view_nextPath_of_holder hholder]
          exact .worked rfl (session_of_holder? hholder).1
      | none =>
          by_cases hpool : handle.pool = k.memory.pool
          · rw [view_nextPath_of_committed hholder hpool]
            exact .leaked rfl
          · obtain ⟨retired, hview⟩ := view_nextPath_of_retired hholder hpool
            exact hview ▸ .wasted retired
  | commit name =>
      cases hopen : k.open? name with
      | none => exact (commit_of_not_open hopen).2 ▸ .idle
      | some session =>
          by_cases hcurrent : k.memory.revision = session.started
          · exact (commit_of_current hopen hcurrent).2 ▸
              .accepted (open?_eq_some_iff.mp hopen).2 hcurrent
          · exact (commit_of_stale hopen hcurrent).2 ▸ .abandoned name session rfl nofun
  | rollback name =>
      cases hopen : k.open? name with
      | none => exact rollback_of_not_open hopen ▸ .idle
      | some session => exact rollback_of_open hopen ▸ .abandoned name session rfl nofun
  | drop name =>
      cases hopen : k.open? name with
      | none => exact drop_of_not_open hopen ▸ .forgotten name
      | some session => exact drop_of_open hopen ▸ .abandoned name session rfl nofun

/-! ## What holds throughout a run -/

/-- The pools of open transactions, the committed pool and the pools to come are different, and
just the active transactions have a session. -/
structure View.Apart (v : View) : Prop where
  refusal : v.refusal = none
  pool_lt : v.memory.pool < v.memory.nextPool
  session {name : String} {session : MemorySession}
    (h : (v.transaction name).session = some session) :
    (v.transaction name).state = .active ∧ session.pool < v.memory.nextPool ∧
      session.pool ≠ v.memory.pool
  exists_session {name : String} (h : (v.transaction name).state = .active) :
    ∃ session : MemorySession, (v.transaction name).session = some session
  eq_of_pool {name other : String} {session held : MemorySession}
    (h : (v.transaction name).session = some session)
    (h' : (v.transaction other).session = some held) (hpool : session.pool = held.pool) :
    name = other

variable {asked : Option Deed} {v w : View}

theorem View.transaction_set (v : View) (m : MemoryStore) (name other : String)
    (t : Transaction KernelStore) :
    (v.set m name t).transaction other = if other = name then t else v.transaction other :=
  Function.update_apply v.transaction name t other

theorem View.apart_ofLibrary (library : TemplateLibrary) : (ofLibrary library).view.Apart where
  refusal := rfl
  pool_lt := Nat.zero_lt_one
  session h := by cases h
  exists_session h := by cases h
  eq_of_pool h := by cases h

/-- Only the transaction that is put under the name has to be looked at, and whether the others
stay clear of the committed pool. -/
theorem View.Apart.set (hv : v.Apart) {m : MemoryStore} {name : String}
    {t : Transaction KernelStore} (hpool : m.pool < m.nextPool)
    (hothers : ∀ other held, other ≠ name → (v.transaction other).session = some held →
      held.pool < m.nextPool ∧ held.pool ≠ m.pool)
    (hnew : ∀ session, t.session = some session → t.state = .active ∧
      session.pool < m.nextPool ∧ session.pool ≠ m.pool ∧
        ∀ other held, other ≠ name → (v.transaction other).session = some held →
          held.pool ≠ session.pool)
    (hactive : t.state = .active → ∃ session : MemorySession, t.session = some session) :
    (v.set m name t).Apart where
  refusal := hv.refusal
  pool_lt := hpool
  session := by
    intro other held hheld
    rw [View.transaction_set] at hheld ⊢
    by_cases hother : other = name
    · rw [if_pos hother] at hheld ⊢
      obtain ⟨hactive, hlt, hne, -⟩ := hnew held hheld
      exact ⟨hactive, hlt, hne⟩
    · rw [if_neg hother] at hheld ⊢
      exact ⟨(hv.session hheld).1, hothers other held hother hheld⟩
  exists_session := by
    intro other hstate
    rw [View.transaction_set] at hstate ⊢
    by_cases hother : other = name
    · rw [if_pos hother] at hstate ⊢
      exact hactive hstate
    · rw [if_neg hother] at hstate ⊢
      exact hv.exists_session hstate
  eq_of_pool := by
    intro first second session held hsession hheld hsame
    rw [View.transaction_set] at hsession hheld
    by_cases hfirst : first = name <;> by_cases hsecond : second = name
    · rw [hfirst, hsecond]
    · rw [if_pos hfirst] at hsession
      rw [if_neg hsecond] at hheld
      exact absurd hsame.symm ((hnew session hsession).2.2.2 second held hsecond hheld)
    · rw [if_neg hfirst] at hsession
      rw [if_pos hsecond] at hheld
      exact absurd hsame ((hnew held hheld).2.2.2 first session hfirst hsession)
    · rw [if_neg hfirst] at hsession
      rw [if_neg hsecond] at hheld
      exact hv.eq_of_pool hsession hheld hsame

theorem View.Apart.set_ended (hv : v.Apart) {m : MemoryStore} {name : String}
    {t : Transaction KernelStore} (hpool : m.pool = v.memory.pool)
    (hnext : m.nextPool = v.memory.nextPool) (hended : t.session = none)
    (hstate : t.state ≠ .active) : (v.set m name t).Apart := by
  refine hv.set ?_ (fun other held _ hheld ↦ ?_) (fun session hsession ↦ ?_)
    fun hactive ↦ absurd hactive hstate
  · rw [hpool, hnext]
    exact hv.pool_lt
  · rw [hpool, hnext]
    exact (hv.session hheld).2
  · rw [hended] at hsession
    cases hsession

theorem Turn.apart (h : Turn asked v w) (hv : v.Apart) : w.Apart := by
  cases h with
  | idle => exact hv
  | opened name ctx =>
      refine hv.set ?_ (fun other held _ hheld ↦ ?_) (fun session hsession ↦ ?_)
        fun _ ↦ ⟨_, rfl⟩
      · exact Nat.lt_succ_of_lt hv.pool_lt
      · obtain ⟨-, hlt, hne⟩ := hv.session hheld
        exact ⟨Nat.lt_succ_of_lt hlt, hne⟩
      · obtain rfl := Option.some.inj hsession
        refine ⟨rfl, Nat.lt_succ_self _, Nat.ne_of_gt hv.pool_lt, fun other held _ hheld ↦ ?_⟩
        exact Nat.ne_of_lt (hv.session hheld).2.1
  | worked _ hsession =>
      obtain ⟨hactive, hlt, hne⟩ := hv.session hsession
      refine hv.set hv.pool_lt (fun other held _ hheld ↦ (hv.session hheld).2)
        (fun session' h' ↦ ?_) fun _ ↦ ⟨_, rfl⟩
      obtain rfl := Option.some.inj h'
      refine ⟨hactive, hlt, hne, fun other held hother hheld hsame ↦ hother ?_⟩
      exact hv.eq_of_pool hheld hsession hsame
  | @accepted name session hsession _ =>
      obtain ⟨-, hlt, -⟩ := hv.session hsession
      refine hv.set hlt (fun other held hother hheld ↦ ?_) (fun session' h' ↦ by cases h')
        fun hactive ↦ by cases hactive
      exact ⟨(hv.session hheld).2.1, fun hsame ↦ hother (hv.eq_of_pool hheld hsession hsame)⟩
  | abandoned name session hended hstate => exact hv.set_ended rfl rfl hended hstate
  | forgotten name => exact hv.set_ended rfl rfl rfl nofun
  | leaked index =>
      exact ⟨hv.refusal, hv.pool_lt, hv.session, hv.exists_session, hv.eq_of_pool⟩
  | wasted retired =>
      exact ⟨hv.refusal, hv.pool_lt, hv.session, hv.exists_session, hv.eq_of_pool⟩

/-- The committed state and all states that transactions work on have a property. -/
structure View.Every (P : StoreState → Prop) (v : View) : Prop where
  committed : P v.memory.committed
  working {name : String} {session : MemorySession}
    (h : (v.transaction name).session = some session) : P session.working

theorem View.Every.imp {P Q : StoreState → Prop} (h : v.Every P) (himp : ∀ s, P s → Q s) :
    v.Every Q :=
  ⟨himp _ h.committed, fun hsession ↦ himp _ (h.working hsession)⟩

theorem View.Every.set {P : StoreState → Prop} (hv : v.Every P) {m : MemoryStore} {name : String}
    {t : Transaction KernelStore} (hcommitted : P m.committed)
    (hnew : ∀ session, t.session = some session → P session.working) :
    (v.set m name t).Every P := by
  refine ⟨hcommitted, ?_⟩
  intro other held hheld
  rw [View.transaction_set] at hheld
  split at hheld
  · exact hnew held hheld
  · exact hv.working hheld

/-- A state after a turn is one from before, or what has been asked for has been done to one. -/
theorem Turn.every_next {P Q : StoreState → Prop} (h : Turn asked v w)
    (hkeep : ∀ s, P s → Q s) (hdeed : ∀ s, ∀ d ∈ asked, P s → Q (d.on v.library s))
    (hv : v.Every P) : w.Every Q := by
  have hkept : v.Every Q := hv.imp hkeep
  cases h with
  | idle => exact hkept
  | opened name ctx =>
      refine hkept.set hkept.committed fun session hsession ↦ ?_
      obtain rfl := Option.some.inj hsession
      exact hkept.committed
  | worked hasked hsession =>
      refine hkept.set hkept.committed fun session' h' ↦ ?_
      obtain rfl := Option.some.inj h'
      exact hdeed _ _ hasked (hv.working hsession)
  | accepted hsession _ => exact hkept.set (hkept.working hsession) fun session' h' ↦ by cases h'
  | abandoned name session hended _ =>
      refine hkept.set hkept.committed fun session' h' ↦ ?_
      rw [hended] at h'
      cases h'
  | forgotten name => exact hkept.set hkept.committed fun session' h' ↦ by cases h'
  | leaked hasked => exact ⟨hdeed _ _ hasked hv.committed, hkept.working⟩
  | wasted retired => exact ⟨hkept.committed, hkept.working⟩

theorem Turn.every {P : StoreState → Prop} (h : Turn asked v w)
    (hdeed : ∀ s (d : Deed), P s → P (d.on v.library s)) (hv : v.Every P) : w.Every P :=
  h.every_next (fun _ hs ↦ hs) (fun s d _ ↦ hdeed s d) hv

theorem Turn.library_eq (h : Turn asked v w) : w.library = v.library := by
  cases h <;> rfl

theorem Turn.refusal_eq (h : Turn asked v w) : w.refusal = v.refusal := by
  cases h <;> rfl

theorem run_append (k : Kernel) (moves more : List Move) :
    k.run (moves ++ more) = (k.run moves).run more :=
  List.foldl_append

theorem run_invariant {I : View → Prop} (hrefusal : ∀ v, I v → v.refusal = none)
    (hturn : ∀ asked v w, Turn asked v w → I v → I w) (k : Kernel) (hk : I k.view) (moves : List Move) :
    I (k.run moves).view := by
  induction moves generalizing k with
  | nil => exact hk
  | cons m moves ih => exact ih (k.step m) (hturn _ _ _ (step_turn (hrefusal _ hk) m) hk)

theorem apart_run (library : TemplateLibrary) (moves : List Move) :
    ((ofLibrary library).run moves).view.Apart :=
  run_invariant (fun _ hv ↦ hv.refusal) (fun _ _ _ h hv ↦ h.apart hv) _
    (View.apart_ofLibrary library) moves

/-- What holds of the empty state and is kept by deeds holds of every state in a run. -/
theorem every_of_deed (library : TemplateLibrary) {P : StoreState → Prop} (hempty : P .empty)
    (hdeed : ∀ s (d : Deed), P s → P (d.on library s)) (moves : List Move) :
    ((ofLibrary library).run moves).view.Every P := by
  have hrun := run_invariant (I := fun v ↦ v.Apart ∧ v.library = library ∧ v.Every P)
    (fun v hv ↦ hv.1.refusal) ?_ (ofLibrary library) ?_ moves
  · exact hrun.2.2
  · rintro _ v w hturn ⟨hapart, rfl, hevery⟩
    exact ⟨hturn.apart hapart, hturn.library_eq, hturn.every hdeed hevery⟩
  · refine ⟨View.apart_ofLibrary library, rfl, ⟨hempty, ?_⟩⟩
    intro name session hsession
    cases hsession

/-- What holds of the empty state and is kept by effects on sound states holds of every state in a
run. -/
theorem every_run (library : TemplateLibrary) {P : StoreState → Prop} (hempty : P .empty)
    (hstep : ∀ s t, Effect library s t → s.Sound → P s → P t) (moves : List Move) :
    ((ofLibrary library).run moves).view.Every fun s ↦ s.Sound ∧ P s := by
  have hdeed : ∀ s (d : Deed), s.Sound ∧ P s → (d.on library s).Sound ∧ P (d.on library s) := by
    rintro s d ⟨hs, hP⟩
    refine ⟨(d.effects hs).sound hs, ?_⟩
    have hsteps : Effects library s (d.on library s) := d.effects hs
    generalize d.on library s = t at hsteps ⊢
    induction hsteps with
    | refl => exact hP
    | tail hsteps hlast ih => exact hstep _ _ hlast (Effects.sound hsteps hs) ih
  exact every_of_deed library ⟨StoreState.sound_empty, hempty⟩ hdeed moves

theorem library_run (library : TemplateLibrary) (moves : List Move) :
    ((ofLibrary library).run moves).library = library :=
  (run_invariant (I := fun v ↦ v.Apart ∧ v.library = library) (fun _ hv ↦ hv.1.refusal)
    (fun _ _ _ h hv ↦ ⟨h.apart hv.1, h.library_eq.trans hv.2⟩) (ofLibrary library)
    ⟨View.apart_ofLibrary library, rfl⟩ moves).2

theorem sound_run (library : TemplateLibrary) (moves : List Move) :
    ((ofLibrary library).run moves).view.Every StoreState.Sound := by
  have h := every_run library (P := fun _ ↦ True) trivial (fun _ _ _ _ _ ↦ trivial) moves
  exact ⟨h.committed.1, fun hsession ↦ (h.working hsession).1⟩

/-! ## Refused changes -/

/-- Whatever has gone before, a change that fails, or answers that there was nothing to do, leaves
the store and all transactions as they were, with the states that they work on. -/
theorem change_of_refuses (library : TemplateLibrary) (moves : List Move) (name : String)
    (c : Change) (h : Refuses (((ofLibrary library).run moves).change name c).1) :
    (((ofLibrary library).run moves).change name c).2.manager =
        ((ofLibrary library).run moves).manager ∧
      (((ofLibrary library).run moves).change name c).2.transaction =
        ((ofLibrary library).run moves).transaction := by
  refine ⟨rfl, ?_⟩
  have hsound := sound_run library moves
  generalize (ofLibrary library).run moves = k at h hsound ⊢
  cases hopen : k.open? name with
  | none => exact congrArg View.transaction (perform_of_not_open hopen _).2
  | some session =>
      have hsession := (open?_eq_some_iff.mp hopen).2
      obtain ⟨hresult, hview⟩ := perform_of_open hopen (c.operation k.library)
      have horderly : Orderly k.library session.working _ := c.orderly (hsound.working hsession)
      rw [horderly.unchanged (hresult ▸ h)] at hview
      exact congrArg View.transaction (hview.trans (k.view.set_session_self hsession))

theorem removeMember_twice :
    let k := (ofLibrary .shelves).run [.begin "reader" "t",
      .change "t" (.create "shelf" (.text "a")),
      .change "t" (.addMember ⟨.text "a", "shelf"⟩ (.text "b")),
      .change "t" (.removeMember ⟨.text "a", "shelf"⟩ ⟨.text "b", "book"⟩)]
    let again := k.change "t" (.removeMember ⟨.text "a", "shelf"⟩ ⟨.text "b", "book"⟩)
    Refuses again.1 ∧ again.2.manager = k.manager ∧ again.2.transaction = k.transaction := by
  intro k again
  have hrefuses : Refuses again.1 := by decide +kernel
  exact ⟨hrefuses, change_of_refuses .shelves _ "t" _ hrefuses⟩

end Kernel

end ResourceKernel
