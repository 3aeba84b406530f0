import ResourceKernel.Proofs.Kernel.History

/-!
# Transactions are serial

A ledger is kept along a run: of the transactions that have been committed, in this order, and of
the open ones, each with what it has done. As long as nobody uses a slug of a transaction that has
ended, the committed state is what the committed transactions make of the empty state one after
another, and every open transaction sees the state that was committed when it began and what it has
done since. It can be committed if nothing else has been committed since it began.
-/

namespace ResourceKernel

open Function (update)

/-- An open transaction: how many had been committed when it began, the state that was committed
then, and what it has done since. -/
structure Work where
  since : Nat
  base : StoreState
  deeds : List Deed
  deriving DecidableEq, Repr

/-- What committed transactions have done, and the open transactions by name. -/
structure Ledger where
  commits : List (List Deed)
  works : String → Option Work

namespace Ledger

def blank : Ledger := ⟨[], fun _ ↦ none⟩

def enter (l : Ledger) (name : String) (base : StoreState) : Ledger :=
  { l with works := update l.works name (some ⟨l.commits.length, base, []⟩) }

def note (l : Ledger) (name : String) (d : Deed) : Ledger :=
  { l with
    works := update l.works name
      ((l.works name).map fun w ↦ { w with deeds := w.deeds ++ [d] }) }

def leave (l : Ledger) (name : String) : Ledger := { l with works := update l.works name none }

def close (l : Ledger) (name : String) : Ledger :=
  { l.leave name with commits := l.commits ++ [((l.works name).map Work.deeds).getD []] }

def record (k : Kernel) (l : Ledger) : Move → Ledger
  | .begin ctx name =>
      match (k.begin ctx name).1 with
      | .ok () => l.enter name k.committed
      | .error _ => l
  | .change name c => l.note name (.change c)
  | .nextPath handle =>
      match k.holder? handle.pool with
      | some (name, _) => l.note name (.advance handle.index)
      | none => l
  | .commit name =>
      match (k.commit name).1 with
      | .ok () => l.close name
      | .error _ => l.leave name
  | .rollback name => l.leave name
  | .drop name => l.leave name

def along (k : Kernel) (l : Ledger) : List Move → Ledger
  | [] => l
  | m :: moves => along (k.step m) (l.record k m) moves

end Ledger

/-- Whether a slug that is asked for a path is one of a transaction that is still open. -/
def Move.isTimely (k : Kernel) : Move → Bool
  | .nextPath handle => (k.holder? handle.pool).isSome
  | _ => true

def Kernel.isTimely (k : Kernel) : List Move → Bool
  | [] => true
  | m :: moves => m.isTimely k && (k.step m).isTimely moves

namespace Kernel

/-- A session works where the ledger says, if so many transactions have been committed and this is
the committed state. -/
structure Follows (library : TemplateLibrary) (count : Nat) (committed : StoreState) (w : Work)
    (session : MemorySession) : Prop where
  started : session.started = w.since
  working : session.working = replay library w.base w.deeds
  since_le : w.since ≤ count
  base_eq (h : w.since = count) : w.base = committed

structure Agrees (v : View) (l : Ledger) : Prop where
  revision : v.memory.revision = l.commits.length
  committed : v.memory.committed = replay v.library .empty l.commits.flatten
  follows {name : String} {w : Work} (h : l.works name = some w) :
    ∃ session, (v.transaction name).session = some session ∧
      Follows v.library l.commits.length v.memory.committed w session
  idle {name : String} (h : l.works name = none) : (v.transaction name).session = none

namespace Agrees

variable {v : View} {l : Ledger}

theorem blank (library : TemplateLibrary) : Agrees (ofLibrary library).view .blank where
  revision := rfl
  committed := rfl
  follows h := by cases h
  idle _ := rfl

theorem follows_of_session (h : Agrees v l) {name : String} {session : MemorySession}
    (hsession : (v.transaction name).session = some session) :
    ∃ w, l.works name = some w ∧
      Follows v.library l.commits.length v.memory.committed w session := by
  cases hw : l.works name with
  | none =>
      rw [h.idle hw] at hsession
      cases hsession
  | some w =>
      obtain ⟨held, hheld, hfollows⟩ := h.follows hw
      obtain rfl := Option.some.inj (hheld.symm.trans hsession)
      exact ⟨w, rfl, hfollows⟩

theorem works_eq_none (h : Agrees v l) {name : String}
    (hsession : (v.transaction name).session = none) : l.works name = none := by
  cases hw : l.works name with
  | none => rfl
  | some w =>
      obtain ⟨session, hheld, -⟩ := h.follows hw
      rw [hsession] at hheld
      cases hheld

theorem note_eq_self (h : Agrees v l) {name : String}
    (hsession : (v.transaction name).session = none) (d : Deed) : l.note name d = l := by
  have hw := h.works_eq_none hsession
  rw [Ledger.note, hw, Option.map_none, ← hw, Function.update_eq_self]

theorem leave_eq_self (h : Agrees v l) {name : String}
    (hsession : (v.transaction name).session = none) : l.leave name = l := by
  rw [Ledger.leave, ← h.works_eq_none hsession, Function.update_eq_self]

/-- A transaction and its place in the ledger change together. The others have to follow the ledger
as before. -/
theorem set (h : Agrees v l) {m : MemoryStore} {name : String} {t : Transaction KernelStore}
    {commits : List (List Deed)} {work : Option Work} (hrevision : m.revision = commits.length)
    (hcommitted : m.committed = replay v.library .empty commits.flatten)
    (hfollows : ∀ w, work = some w → ∃ session, t.session = some session ∧
      Follows v.library commits.length m.committed w session)
    (hidle : work = none → t.session = none)
    (hothers : ∀ w session, Follows v.library l.commits.length v.memory.committed w session →
      Follows v.library commits.length m.committed w session) :
    Agrees (v.set m name t) ⟨commits, update l.works name work⟩ where
  revision := hrevision
  committed := hcommitted
  follows := by
    intro other w (hw : update l.works name work other = some w)
    rw [View.transaction_set]
    rw [Function.update_apply] at hw
    by_cases hother : other = name
    · rw [if_pos hother] at hw ⊢
      exact hfollows w hw
    · rw [if_neg hother] at hw ⊢
      obtain ⟨session, hsession, hold⟩ := h.follows hw
      exact ⟨session, hsession, hothers w session hold⟩
  idle := by
    intro other (hw : update l.works name work other = none)
    rw [View.transaction_set]
    rw [Function.update_apply] at hw
    by_cases hother : other = name
    · rw [if_pos hother] at hw ⊢
      exact hidle hw
    · rw [if_neg hother] at hw ⊢
      exact h.idle hw

theorem leave (h : Agrees v l) {m : MemoryStore} {name : String} {t : Transaction KernelStore}
    (hrevision : m.revision = v.memory.revision) (hcommitted : m.committed = v.memory.committed)
    (hended : t.session = none) : Agrees (v.set m name t) (l.leave name) := by
  refine h.set (hrevision.trans h.revision) (hcommitted.trans h.committed) ?_ (fun _ ↦ hended) ?_
  · rintro w ⟨⟩
  · intro w session hfollows
    exact hcommitted ▸ hfollows

theorem enter (h : Agrees v l) (name : String) (ctx : Context) :
    Agrees (v.set v.memory.openSession.2 name
      ⟨.active, some v.memory.openSession.1, some ctx⟩) (l.enter name v.memory.committed) := by
  refine h.set h.revision h.committed ?_ ?_ (fun w session hfollows ↦ hfollows)
  · rintro w ⟨⟩
    exact ⟨_, rfl, h.revision, rfl, Nat.le_refl _, fun _ ↦ rfl⟩
  · rintro ⟨⟩

theorem note (h : Agrees v l) {name : String} {session : MemorySession}
    (hsession : (v.transaction name).session = some session) (d : Deed) :
    Agrees (v.set v.memory name
      { v.transaction name with
        session := some { session with working := d.on v.library session.working } })
      (l.note name d) := by
  obtain ⟨w, hw, hfollows⟩ := h.follows_of_session hsession
  rw [Ledger.note, hw]
  refine h.set h.revision h.committed ?_ ?_ (fun w session hfollows ↦ hfollows)
  · rintro after ⟨⟩
    refine ⟨_, rfl, hfollows.started, ?_, hfollows.since_le, hfollows.base_eq⟩
    change d.on v.library session.working = replay v.library w.base (w.deeds ++ [d])
    rw [replay_append, ← hfollows.working]
    rfl
  · rintro ⟨⟩

/-- A transaction is committed before all others that are open at the time. -/
theorem close (h : Agrees v l) {name : String} {session : MemorySession}
    (hsession : (v.transaction name).session = some session)
    (hcurrent : v.memory.revision = session.started) :
    Agrees (v.set (v.memory.accept session) name ⟨.committed, none, none⟩) (l.close name) := by
  obtain ⟨w, hw, hfollows⟩ := h.follows_of_session hsession
  have hsince : w.since = l.commits.length := by
    rw [← hfollows.started, ← hcurrent, h.revision]
  have hlength : (l.commits ++ [w.deeds]).length = l.commits.length + 1 := by
    rw [List.length_append, List.length_singleton]
  rw [Ledger.close, hw]
  refine h.set ?_ ?_ (fun w hnone ↦ by cases hnone) (fun _ ↦ rfl) fun other held hother ↦ ?_
  · change v.memory.revision + 1 = (l.commits ++ [w.deeds]).length
    rw [hlength, h.revision]
  · change session.working = replay v.library .empty (l.commits ++ [w.deeds]).flatten
    rw [List.flatten_append, replay_append, ← h.committed, ← hfollows.base_eq hsince,
      hfollows.working, List.flatten_singleton]
  · -- whoever began earlier is behind from now on
    have hlt : other.since < (l.commits ++ [w.deeds]).length :=
      hlength ▸ Nat.lt_succ_of_le hother.since_le
    exact ⟨hother.started, hother.working, Nat.le_of_lt hlt,
      fun hsame ↦ absurd hsame (Nat.ne_of_lt hlt)⟩

end Agrees

variable {k : Kernel} {l : Ledger}

theorem session_eq_none_of_not_open (hk : k.view.Apart) {name : String}
    (hopen : k.open? name = none) : (k.view.transaction name).session = none := by
  cases hsession : (k.view.transaction name).session with
  | none => rfl
  | some session =>
      rw [open?_eq_some_iff.mpr ⟨(hk.session hsession).1, hsession⟩] at hopen
      cases hopen

theorem step_agrees (hk : k.view.Apart) (h : Agrees k.view l) {m : Move}
    (htimely : m.isTimely k = true) : Agrees (k.step m).view (l.record k m) := by
  cases m with
  | begin ctx name =>
      rcases begin_cases hk.refusal ctx name with ⟨fault, hresult, hview⟩ | ⟨hresult, -, hview⟩
      · simp only [Ledger.record, hresult]
        exact hview ▸ h
      · simp only [Ledger.record, hresult]
        exact hview ▸ h.enter name ctx
  | change name c =>
      cases hopen : k.open? name with
      | none =>
          have hnote := h.note_eq_self (session_eq_none_of_not_open hk hopen) (.change c)
          rw [Ledger.record, hnote]
          exact (perform_of_not_open hopen _).2 ▸ h
      | some session =>
          have hsession := (open?_eq_some_iff.mp hopen).2
          exact (perform_of_open hopen (c.operation k.library)).2 ▸ h.note hsession (.change c)
  | nextPath handle =>
      obtain ⟨⟨name, session⟩, hholder⟩ := Option.isSome_iff_exists.mp htimely
      rw [view_nextPath_of_holder hholder]
      simp only [Ledger.record, hholder]
      exact h.note (session_of_holder? hholder).1 (.advance handle.index)
  | commit name =>
      cases hopen : k.open? name with
      | none =>
          obtain ⟨⟨fault, hresult⟩, hview⟩ := commit_of_not_open hopen
          simp only [Ledger.record, hresult]
          rw [h.leave_eq_self (session_eq_none_of_not_open hk hopen)]
          exact hview ▸ h
      | some session =>
          by_cases hcurrent : k.memory.revision = session.started
          · obtain ⟨hresult, hview⟩ := commit_of_current hopen hcurrent
            simp only [Ledger.record, hresult]
            exact hview ▸ h.close (open?_eq_some_iff.mp hopen).2 hcurrent
          · obtain ⟨hresult, hview⟩ := commit_of_stale hopen hcurrent
            simp only [Ledger.record, hresult]
            exact hview ▸ h.leave rfl rfl rfl
  | rollback name =>
      cases hopen : k.open? name with
      | none =>
          rw [Ledger.record, h.leave_eq_self (session_eq_none_of_not_open hk hopen)]
          exact rollback_of_not_open hopen ▸ h
      | some session => exact rollback_of_open hopen ▸ h.leave rfl rfl rfl
  | drop name =>
      cases hopen : k.open? name with
      | none => exact drop_of_not_open hopen ▸ h.leave rfl rfl rfl
      | some session => exact drop_of_open hopen ▸ h.leave rfl rfl rfl

theorem run_agrees (hk : k.view.Apart) (h : Agrees k.view l) {moves : List Move}
    (htimely : k.isTimely moves = true) : Agrees (k.run moves).view (l.along k moves) := by
  induction moves generalizing k l with
  | nil => exact h
  | cons m moves ih =>
      obtain ⟨hmove, hrest⟩ := Bool.and_eq_true_iff.mp htimely
      exact ih ((step_turn hk.refusal m).apart hk) (step_agrees hk h hmove) hrest

namespace Agrees

theorem open?_of_work (hk : k.view.Apart) (h : Agrees k.view l) {name : String} {w : Work}
    (hw : l.works name = some w) :
    ∃ session, k.open? name = some session ∧ session.started = w.since ∧
      session.working = replay k.library w.base w.deeds := by
  obtain ⟨session, hsession, hfollows⟩ := h.follows hw
  have hopen := open?_eq_some_iff.mpr ⟨(hk.session hsession).1, hsession⟩
  exact ⟨session, hopen, hfollows.started, hfollows.working⟩

theorem active_iff (hk : k.view.Apart) (h : Agrees k.view l) (name : String) :
    (k.transaction name).state = .active ↔ (l.works name).isSome = true := by
  constructor
  · intro hactive
    obtain ⟨session, hsession⟩ := hk.exists_session hactive
    obtain ⟨w, hw, -⟩ := h.follows_of_session hsession
    exact Option.isSome_iff_exists.mpr ⟨w, hw⟩
  · intro hsome
    obtain ⟨w, hw⟩ := Option.isSome_iff_exists.mp hsome
    obtain ⟨session, hopen, -⟩ := h.open?_of_work hk hw
    exact (open?_eq_some_iff.mp hopen).1

theorem perform_eq {α : Type} (hk : k.view.Apart) (h : Agrees k.view l) {name : String}
    {w : Work} (hw : l.works name = some w) (o : Operation α) :
    (k.perform name o).1 = (o.on (replay k.library w.base w.deeds)).1 := by
  obtain ⟨session, hopen, -, hworking⟩ := h.open?_of_work hk hw
  rw [(perform_of_open hopen o).1, hworking]

theorem nextPath_eq (h : Agrees k.view l) {name : String} {w : Work} (hw : l.works name = some w)
    {handle : SlugHandle} {session : MemorySession}
    (hholder : k.holder? handle.pool = some (name, session)) :
    (k.nextPath? handle).map Prod.fst =
      ((replay k.library w.base w.deeds).slugs.nextPath? handle.index).map Prod.fst := by
  obtain ⟨held, hheld, hfollows⟩ := h.follows hw
  obtain rfl := Option.some.inj (hheld.symm.trans (session_of_holder? hholder).1)
  have hworking : held.working = replay k.library w.base w.deeds := hfollows.working
  rw [nextPath?_of_holder hholder, hworking, Option.map_map]
  rfl

theorem commit_eq_ok (hk : k.view.Apart) (h : Agrees k.view l) {name : String} {w : Work}
    (hw : l.works name = some w) (hsame : l.commits.length = w.since) :
    (k.commit name).1 = .ok () := by
  obtain ⟨session, hopen, hstarted, -⟩ := h.open?_of_work hk hw
  have hrevision : k.memory.revision = l.commits.length := h.revision
  have hcurrent : k.memory.revision = session.started := by
    rw [hrevision, hstarted, hsame]
  exact (commit_of_current hopen hcurrent).1

theorem commit_conflicts (hk : k.view.Apart) (h : Agrees k.view l) {name : String} {w : Work}
    (hw : l.works name = some w) (hne : l.commits.length ≠ w.since) :
    (k.commit name).1 = .error (.transaction (.conflict w.since l.commits.length)) ∧
      ((k.commit name).2.transaction name).state = .rolledBack ∧
      (k.commit name).2.committed = k.committed ∧
      (k.commit name).2.memory.revision = k.memory.revision := by
  obtain ⟨session, hopen, hstarted, -⟩ := h.open?_of_work hk hw
  have hrevision : k.memory.revision = l.commits.length := h.revision
  have hstale : k.memory.revision ≠ session.started := by
    rwa [hrevision, hstarted]
  obtain ⟨hresult, hview⟩ := commit_of_stale hopen hstale
  rw [hstarted, hrevision] at hresult
  have htransaction := congrFun (congrArg View.transaction hview) name
  rw [View.transaction_set, if_pos rfl] at htransaction
  exact ⟨hresult, congrArg Transaction.state htransaction,
    congrArg (fun v ↦ v.memory.committed) hview, congrArg (fun v ↦ v.memory.revision) hview⟩

end Agrees

/-- Along a run in which slugs are used in time, with as many commits as the ledger has: the
revision counts the commits; the committed state is made by the committed transactions one after
another; the open transactions are those of the ledger; and each of these sees the state committed
when it began and what it has done since, can be committed exactly if nothing else has been
committed since it began, and is rolled back without effect otherwise. -/
theorem run_serial (library : TemplateLibrary) (moves : List Move)
    (htimely : (ofLibrary library).isTimely moves = true) :
    let k := (ofLibrary library).run moves
    let l := Ledger.blank.along (ofLibrary library) moves
    k.memory.revision = l.commits.length ∧
      k.committed = replay library .empty l.commits.flatten ∧
      (∀ name, (k.transaction name).state = .active ↔ (l.works name).isSome = true) ∧
      ∀ name w, l.works name = some w →
        (∀ {α : Type} (o : Operation α),
          (k.perform name o).1 = (o.on (replay library w.base w.deeds)).1) ∧
        (∀ handle session, k.holder? handle.pool = some (name, session) →
          (k.nextPath? handle).map Prod.fst =
            ((replay library w.base w.deeds).slugs.nextPath? handle.index).map Prod.fst) ∧
        ((k.commit name).1 = .ok () ↔ l.commits.length = w.since) ∧
        (l.commits.length ≠ w.since →
          (k.commit name).1 = .error (.transaction (.conflict w.since l.commits.length)) ∧
            ((k.commit name).2.transaction name).state = .rolledBack ∧
            (k.commit name).2.committed = k.committed ∧
            (k.commit name).2.memory.revision = k.memory.revision) := by
  intro k l
  have hk : k.view.Apart := apart_run library moves
  have hlibrary : k.library = library := library_run library moves
  have h : Agrees k.view l :=
    run_agrees (View.apart_ofLibrary library) (Agrees.blank library) htimely
  refine ⟨h.revision, hlibrary ▸ h.committed, h.active_iff hk, fun name w hw ↦ ⟨fun o ↦ ?_,
    fun handle session hholder ↦ ?_, ⟨fun hok ↦ ?_, h.commit_eq_ok hk hw⟩,
    h.commit_conflicts hk hw⟩⟩
  · exact hlibrary ▸ h.perform_eq hk hw o
  · exact hlibrary ▸ h.nextPath_eq hw hholder
  · by_contra hne
    rw [(h.commit_conflicts hk hw hne).1] at hok
    cases hok

/-- Of two transactions that are open at the same time, the one that is committed later has a
conflict. -/
theorem later_commit_conflicts :
    let moves : List Move := [.begin "reader" "t", .begin "writer" "u",
      .change "t" (.create "shelf" (.text "a")),
      .change "u" (.create "shelf" (.text "b")),
      .change "t" (.addSlug ⟨.text "a", "shelf"⟩ "news"),
      .nextPath ⟨1, 0⟩,
      .commit "t"]
    let k := (ofLibrary .shelves).run moves
    (ofLibrary .shelves).isTimely moves = true ∧ k.memory.revision = 1 ∧
      k.committed = replay .shelves .empty [.change (.create "shelf" (.text "a")),
        .change (.addSlug ⟨.text "a", "shelf"⟩ "news"), .advance 0] ∧
      (k.commit "u").1 = .error (.transaction (.conflict 0 1)) ∧
      (k.commit "u").2.committed = k.committed := by
  intro moves k
  have htimely : (ofLibrary .shelves).isTimely moves = true := by decide +kernel
  obtain ⟨hrevision, hcommitted, -, hworks⟩ := run_serial .shelves moves htimely
  have hcommits : (Ledger.blank.along (ofLibrary .shelves) moves).commits =
      [[.change (.create "shelf" (.text "a")),
        .change (.addSlug ⟨.text "a", "shelf"⟩ "news"), .advance 0]] := by
    decide +kernel
  have hopen : (Ledger.blank.along (ofLibrary .shelves) moves).works "u" =
      some ⟨0, .empty, [.change (.create "shelf" (.text "b"))]⟩ := by
    decide +kernel
  obtain ⟨-, -, -, hconflict⟩ := hworks "u" _ hopen
  rw [hcommits] at hrevision hcommitted hconflict
  obtain ⟨hresult, -, hsame, -⟩ := hconflict Nat.one_ne_zero
  exact ⟨htimely, hrevision, hcommitted, hresult, hsame⟩

end Kernel

end ResourceKernel
