import ResourceKernel.Proofs.Kernel.Run

/-!
# Earlier and later states

A state of a run has successors: of the committed state these are the states committed later and
the states of all transactions that have begun since, and of the state of a transaction the states
that the same transaction works on later. A commit puts a successor of the committed state in its
place, since a transaction that began earlier is refused. So what every deed hands on, from the
state before it to the state after it, is handed on from every state of a run to all its successors.
-/

namespace ResourceKernel

/-- A relation that every state has to the states that come of it, whatever its slugs. -/
structure Hereditary (library : TemplateLibrary) (R : StoreState → StoreState → Prop) : Prop where
  refl (s : StoreState) : R s s
  trans {s t u : StoreState} (hst : R s t) (htu : R t u) : R s u
  effect {s t : StoreState} (h : Effect library s t) : R s t
  withSlugs {s t : StoreState} (slugs : SlugPool) (h : R s t) : R { s with slugs := slugs } t

namespace Hereditary

variable {library : TemplateLibrary} {R : StoreState → StoreState → Prop}

theorem deed (hR : Hereditary library R) {s : StoreState} (hs : s.Sound) (d : Deed) :
    R s (d.on library s) := by
  have hsteps : Effects library s (d.on library s) := d.effects hs
  generalize d.on library s = t at hsteps ⊢
  induction hsteps with
  | refl => exact hR.refl s
  | tail _ hlast ih => exact hR.trans ih (hR.effect hlast)

theorem advance_left (hR : Hereditary library R) {s t : StoreState} (index : Nat) (h : R s t) :
    R (s.advance index) t := by
  obtain ⟨slugs, hslugs⟩ := s.advance_eq index
  rw [hslugs]
  exact hR.withSlugs slugs h

end Hereditary

namespace Kernel

/-- A state of a view, and a state of a later view that is one of its successors. A session that
works in the same pool is the same session. -/
inductive View.Precedes (v w : View) : StoreState → StoreState → Prop
  | committed : Precedes v w v.memory.committed w.memory.committed
  | begun {name : String} {session : MemorySession}
      (hsession : (w.transaction name).session = some session)
      (hsince : v.memory.revision ≤ session.started) :
      Precedes v w v.memory.committed session.working
  | worked {name other : String} {session later : MemorySession}
      (hsession : (v.transaction name).session = some session)
      (hlater : (w.transaction other).session = some later) (hpool : later.pool = session.pool) :
      Precedes v w session.working later.working

variable {asked : Option Deed} {v w base : View} {library : TemplateLibrary} {R : StoreState → StoreState → Prop}

/-! ## One turn -/

/-- What a turn leaves as the committed state: the state that was committed, perhaps with a slug
that has moved on, or the state of a session that began at the present revision. -/
inductive Commits (v w : View) : Prop
  | same (hrevision : w.memory.revision = v.memory.revision)
      (hcommitted : w.memory.committed = v.memory.committed)
  | leaked (index : Nat) (hrevision : w.memory.revision = v.memory.revision)
      (hcommitted : w.memory.committed = v.memory.committed.advance index)
  | accepted {name : String} {session : MemorySession}
      (hsession : (v.transaction name).session = some session)
      (hcurrent : v.memory.revision = session.started)
      (hrevision : w.memory.revision = v.memory.revision + 1)
      (hcommitted : w.memory.committed = session.working)

theorem Turn.commits (h : Turn asked v w) : Commits v w := by
  cases h with
  | accepted hsession hcurrent => exact .accepted hsession hcurrent rfl rfl
  | @leaked index => exact .leaked index rfl rfl
  | _ => exact .same rfl rfl

/-- Where a session after a turn comes from: it has been there, perhaps with one deed less, or it
has just begun. -/
inductive Comes (v w : View) (session : MemorySession) : Prop
  | kept {name : String} (hsession : (v.transaction name).session = some session)
  | worked {name : String} {earlier : MemorySession} (d : Deed)
      (hsession : (v.transaction name).session = some earlier)
      (hworked : session = { earlier with working := d.on v.library earlier.working })
  | begun (hsession : session = v.memory.openSession.1)
      (hmemory : w.memory = v.memory.openSession.2)

theorem Comes.of_set {m : MemoryStore} {name other : String} {t : Transaction KernelStore}
    {session : MemorySession}
    (hsession : ((v.set m name t).transaction other).session = some session)
    (hnew : t.session = some session → Comes v w session) : Comes v w session := by
  rw [View.transaction_set] at hsession
  split at hsession
  · exact hnew hsession
  · exact .kept hsession

theorem Turn.comes (h : Turn asked v w) {name : String} {session : MemorySession}
    (hsession : (w.transaction name).session = some session) : Comes v w session := by
  cases h with
  | idle => exact .kept hsession
  | opened =>
      refine .of_set hsession fun hnew ↦ ?_
      exact .begun (Option.some.inj hnew).symm rfl
  | @worked _ _ d _ hold =>
      refine .of_set hsession fun hnew ↦ ?_
      exact .worked d hold (Option.some.inj hnew).symm
  | accepted => exact .of_set hsession fun hnew ↦ by cases hnew
  | abandoned _ _ hended =>
      refine .of_set hsession fun hnew ↦ ?_
      rw [hended] at hnew
      cases hnew
  | forgotten => exact .of_set hsession fun hnew ↦ by cases hnew
  | leaked => exact .kept hsession
  | wasted => exact .kept hsession

theorem Turn.revision_le (h : Turn asked v w) : v.memory.revision ≤ w.memory.revision := by
  cases h.commits with
  | same hrevision => exact Nat.le_of_eq hrevision.symm
  | leaked _ hrevision => exact Nat.le_of_eq hrevision.symm
  | accepted _ _ hrevision =>
      rw [hrevision]
      exact Nat.le_succ _

theorem Turn.nextPool_le (h : Turn asked v w) : v.memory.nextPool ≤ w.memory.nextPool := by
  cases h with
  | opened => exact Nat.le_succ _
  | _ => exact Nat.le_refl _

/-! ## Sessions that can be committed -/

/-- No session is ahead of the store, and a session that can still be committed works on what has
come of the committed state. -/
structure View.Abreast (R : StoreState → StoreState → Prop) (v : View) : Prop where
  started_le {name : String} {session : MemorySession}
    (h : (v.transaction name).session = some session) : session.started ≤ v.memory.revision
  working {name : String} {session : MemorySession}
    (h : (v.transaction name).session = some session)
    (hcurrent : session.started = v.memory.revision) : R v.memory.committed session.working

theorem Turn.started_le (h : Turn asked v w) (hv : v.Abreast R) {name : String}
    {session : MemorySession} (hsession : (w.transaction name).session = some session) :
    session.started ≤ v.memory.revision := by
  cases h.comes hsession with
  | kept hold => exact hv.started_le hold
  | @worked _ earlier d hold hworked =>
      have hle : earlier.started ≤ v.memory.revision := hv.started_le hold
      rw [hworked]
      exact hle
  | begun hbegun =>
      rw [hbegun]
      exact Nat.le_refl _

/-- The successor of the committed state that a session works on, as long as no commit comes in
between. -/
theorem Turn.working_of_current (h : Turn asked v w) (hR : Hereditary v.library R)
    (hsound : v.Every StoreState.Sound) (hv : v.Abreast R) {name : String}
    {session : MemorySession} (hsession : (w.transaction name).session = some session)
    (hcurrent : session.started = v.memory.revision) :
    R v.memory.committed session.working := by
  cases h.comes hsession with
  | kept hold => exact hv.working hold hcurrent
  | worked d hold hworked =>
      subst hworked
      exact hR.trans (hv.working hold hcurrent) (hR.deed (hsound.working hold) d)
  | begun hbegun =>
      subst hbegun
      exact hR.refl _

theorem Turn.abreast (h : Turn asked v w) (hR : Hereditary v.library R)
    (hsound : v.Every StoreState.Sound) (hv : v.Abreast R) : w.Abreast R where
  started_le hsession := Nat.le_trans (h.started_le hv hsession) h.revision_le
  working := by
    intro name session hsession hcurrent
    have hstarted : session.started ≤ v.memory.revision := h.started_le hv hsession
    cases h.commits with
    | same hrevision hcommitted =>
        rw [hcommitted]
        exact h.working_of_current hR hsound hv hsession (hcurrent.trans hrevision)
    | leaked index hrevision hcommitted =>
        rw [hcommitted]
        apply hR.advance_left index
        exact h.working_of_current hR hsound hv hsession (hcurrent.trans hrevision)
    | accepted _ _ hrevision =>
        -- whoever began earlier is behind from now on
        omega

/-! ## Successors -/

theorem precedes_self (hR : Hereditary library R) (hapart : v.Apart) (hv : v.Abreast R)
    {s t : StoreState} (h : v.Precedes v s t) : R s t := by
  cases h with
  | committed => exact hR.refl _
  | begun hsession hsince =>
      exact hv.working hsession (Nat.le_antisymm (hv.started_le hsession) hsince)
  | worked hsession hlater hpool =>
      have hname := hapart.eq_of_pool hlater hsession hpool
      subst hname
      obtain rfl := Option.some.inj (hlater.symm.trans hsession)
      exact hR.refl _

/-- If so far every state has handed on the relation to its successors, it does so to those that one
more turn makes. -/
theorem Turn.precedes (h : Turn asked v w) (hR : Hereditary v.library R)
    (hsound : v.Every StoreState.Sound) (hbase : base.Apart)
    (hrevision : base.memory.revision ≤ v.memory.revision)
    (hpools : base.memory.nextPool ≤ v.memory.nextPool)
    (hv : ∀ s t, base.Precedes v s t → R s t) {s t : StoreState} (hst : base.Precedes w s t) :
    R s t := by
  cases hst with
  | committed =>
      cases h.commits with
      | same _ hcommitted =>
          rw [hcommitted]
          exact hv _ _ .committed
      | leaked index _ hcommitted =>
          rw [hcommitted]
          exact hR.trans (hv _ _ .committed) (hR.deed hsound.committed (.advance index))
      | accepted hsession hcurrent _ hcommitted =>
          rw [hcommitted]
          exact hv _ _ (.begun hsession (hcurrent ▸ hrevision))
  | begun hsession hsince =>
      cases h.comes hsession with
      | kept hold => exact hv _ _ (.begun hold hsince)
      | worked d hold hworked =>
          subst hworked
          exact hR.trans (hv _ _ (.begun hold hsince)) (hR.deed (hsound.working hold) d)
      | begun hbegun =>
          subst hbegun
          exact hv _ _ .committed
  | worked hsession hlater hpool =>
      cases h.comes hlater with
      | kept hold => exact hv _ _ (.worked hsession hold hpool)
      | worked d hold hworked =>
          subst hworked
          exact hR.trans (hv _ _ (.worked hsession hold hpool)) (hR.deed (hsound.working hold) d)
      | begun hbegun =>
          -- a session that has just begun has a pool of its own
          subst hbegun
          have hlt := (hbase.session hsession).2.1
          have hnew : v.memory.nextPool = _ := hpool
          omega

theorem abreast_ofLibrary (library : TemplateLibrary) (R : StoreState → StoreState → Prop) :
    (ofLibrary library).view.Abreast R where
  started_le h := by cases h
  working h := by cases h

theorem every_sound_ofLibrary (library : TemplateLibrary) :
    (ofLibrary library).view.Every StoreState.Sound :=
  ⟨StoreState.sound_empty, fun h ↦ by cases h⟩

theorem Turn.every_sound (h : Turn asked v w) (hv : v.Every StoreState.Sound) :
    w.Every StoreState.Sound :=
  h.every (fun _ d hs ↦ (d.effects hs).sound hs) hv

theorem abreast_run (hR : Hereditary library R) (moves : List Move) :
    ((ofLibrary library).run moves).view.Abreast R := by
  have hrun := run_invariant
    (I := fun v ↦ v.Apart ∧ v.library = library ∧ v.Every StoreState.Sound ∧ v.Abreast R)
    (fun v hv ↦ hv.1.refusal) ?_ (ofLibrary library) ?_ moves
  · exact hrun.2.2.2
  · rintro _ v w hturn ⟨hapart, rfl, hsound, hv⟩
    exact ⟨hturn.apart hapart, hturn.library_eq, hturn.every_sound hsound,
      hturn.abreast hR hsound hv⟩
  · exact ⟨View.apart_ofLibrary library, rfl, every_sound_ofLibrary library,
      abreast_ofLibrary library R⟩

/-- From every state of a run a hereditary relation is handed on to all its successors. -/
theorem precedes_run (hR : Hereditary library R) (moves more : List Move) {s t : StoreState}
    (h : ((ofLibrary library).run moves).view.Precedes
      (((ofLibrary library).run moves).run more).view s t) : R s t := by
  have hapart := apart_run library moves
  have hlibrary := library_run library moves
  have hsound := sound_run library moves
  have hstart := fun s t ↦ precedes_self (s := s) (t := t) hR hapart (abreast_run hR moves)
  generalize (ofLibrary library).run moves = k at *
  have hrun := run_invariant
    (I := fun v ↦ v.Apart ∧ v.library = library ∧ v.Every StoreState.Sound ∧
      k.memory.revision ≤ v.memory.revision ∧ k.memory.nextPool ≤ v.memory.nextPool ∧
      ∀ s t, k.view.Precedes v s t → R s t)
    (fun v hv ↦ hv.1.refusal) ?_ k ?_ more
  · exact hrun.2.2.2.2.2 s t h
  · rintro _ v w hturn ⟨hv, rfl, hvsound, hrevision, hpools, hhanded⟩
    exact ⟨hturn.apart hv, hturn.library_eq, hturn.every_sound hvsound,
      Nat.le_trans hrevision hturn.revision_le, Nat.le_trans hpools hturn.nextPool_le,
      fun s t ↦ hturn.precedes hR hvsound hapart hrevision hpools hhanded⟩
  · exact ⟨hapart, hlibrary, hsound, Nat.le_refl _, Nat.le_refl _, hstart⟩

end Kernel

end ResourceKernel
