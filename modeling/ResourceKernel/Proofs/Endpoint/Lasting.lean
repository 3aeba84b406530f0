import ResourceKernel.Proofs.Kernel.Later

/-!
# Endpoints last

A path that has an endpoint keeps it in all later states. The row keeps the time of its creation
and, as long as it is live, its resource. A row that has been deleted does not change again, and
whatever is tried at its path fails.
-/

namespace ResourceKernel

/-- What a row may become later on. -/
structure Endpoint.Becomes (row later : Endpoint) : Prop where
  created : later.created = row.created
  resource (hlive : later.deleted = none) : later.resource = row.resource
  tombstone (hdeleted : row.deleted.isSome = true) : later = row

namespace Endpoint.Becomes

theorem refl (row : Endpoint) : row.Becomes row := ⟨rfl, fun _ ↦ rfl, fun _ ↦ rfl⟩

theorem of_live {row later : Endpoint} (hlive : row.deleted = none)
    (hcreated : later.created = row.created)
    (hresource : later.deleted = none → later.resource = row.resource) : row.Becomes later := by
  refine ⟨hcreated, hresource, fun hdeleted ↦ ?_⟩
  rw [hlive] at hdeleted
  cases hdeleted

theorem trans {row later last : Endpoint} (h : row.Becomes later) (h' : later.Becomes last) :
    row.Becomes last where
  created := h'.created.trans h.created
  resource := by
    intro hlive
    cases hlater : later.deleted with
    | none => exact (h'.resource hlive).trans (h.resource hlater)
    | some time =>
        have hsame : last = later := h'.tombstone (by rw [hlater]; rfl)
        rw [hsame, hlater] at hlive
        cases hlive
  tombstone := by
    intro hdeleted
    have hlater : later = row := h.tombstone hdeleted
    have hlast : last = later := h'.tombstone (hlater ▸ hdeleted)
    exact hlast.trans hlater

end Endpoint.Becomes

namespace EndpointTable

/-- Every row of the table is found later on, as what it may have become. -/
def Lasts (t later : EndpointTable) : Prop :=
  ∀ path row, t.byPath.find? path = some row →
    ∃ after, later.byPath.find? path = some after ∧ row.Becomes after

theorem Lasts.refl (t : EndpointTable) : t.Lasts t :=
  fun _ row hrow ↦ ⟨row, hrow, Endpoint.Becomes.refl row⟩

theorem Lasts.trans {t later last : EndpointTable} (h : t.Lasts later) (h' : later.Lasts last) :
    t.Lasts last := by
  intro path row hrow
  obtain ⟨after, hafter, hbecomes⟩ := h path row hrow
  obtain ⟨final, hfinal, hbecomes'⟩ := h' path after hafter
  exact ⟨final, hfinal, hbecomes.trans hbecomes'⟩

/-- Only the row that was at the path has to be looked at. -/
theorem Lasts.putRow {t : EndpointTable} {path : String} {row : Endpoint}
    (live : Table StoredKey String)
    (hrow : ∀ old, t.byPath.find? path = some old → old.Becomes row) :
    t.Lasts ⟨t.byPath.insert path row, live⟩ := by
  intro other old hold
  by_cases hother : other = path
  · subst hother
    exact ⟨row, t.byPath.find?_insert_self other row, hrow old hold⟩
  · refine ⟨old, ?_, Endpoint.Becomes.refl old⟩
    exact (t.byPath.find?_insert_ne row hother).trans hold

end EndpointTable

theorem Effect.lasts {library : TemplateLibrary} {s t : StoreState} (h : Effect library s t) :
    s.endpoints.Lasts t.endpoints := by
  cases h with
  | published _ _ hfree _ =>
      apply EndpointTable.Lasts.putRow
      intro old hold
      rw [hfree] at hold
      cases hold
  | amended he =>
      obtain ⟨hrow, hlive⟩ := EndpointTable.liveAt_eq_ok_iff.mp he
      apply EndpointTable.Lasts.putRow
      intro old hold
      obtain rfl := Option.some.inj (hrow.symm.trans hold)
      exact .of_live hlive rfl fun _ ↦ rfl
  | retracted he =>
      obtain ⟨hrow, hlive⟩ := EndpointTable.liveAt_eq_ok_iff.mp he
      apply EndpointTable.Lasts.putRow
      intro old hold
      obtain rfl := Option.some.inj (hrow.symm.trans hold)
      exact .of_live hlive rfl fun hnone ↦ by cases hnone
  | _ => exact EndpointTable.Lasts.refl _

theorem hereditary_lasts (library : TemplateLibrary) :
    Hereditary library fun s t ↦ s.endpoints.Lasts t.endpoints where
  refl s := EndpointTable.Lasts.refl s.endpoints
  trans hst htu := hst.trans htu
  effect h := h.lasts
  withSlugs _ h := h

/-! ## Changes at a path that has been given up -/

/-- The path of the endpoint that a change is about. -/
def Change.endpointPath? : Change → Option String
  | .publish path _ _ _ => some path
  | .amend path _ _ => some path
  | .retract path _ => some path
  | _ => none

theorem EndpointTable.liveAt_of_deleted {t : EndpointTable} {path : String} {row : Endpoint}
    (hrow : t.byPath.find? path = some row) (hdeleted : row.deleted.isSome = true) :
    t.liveAt path = .error (.deleted row.path) := by
  simp [liveAt, hrow, Endpoint.isDeleted, hdeleted]

theorem Directory.create_of_taken {s : StoreState} {path : String} {row : Endpoint}
    (hrow : s.endpoints.byPath.find? path = some row) (resource : ResourceId) (created : Int)
    (tag : EntityTag) :
    ∃ fault, (create path resource created tag).on s = (.error fault, s) := by
  unfold create
  by_cases hblank : Text.isBlankText path = true
  · rw [if_pos hblank]
    exact ⟨_, rfl⟩
  · rw [if_neg hblank, Operation.withKey]
    cases resource.keyed with
    | error fault => exact ⟨fault, rfl⟩
    | ok key =>
        simp only [Except.map, Operation.on_ok, hrow]
        exact ⟨_, rfl⟩

theorem Operation.answering_of_fails {α : Type} {o : Operation α} {s : StoreState}
    (h : ∃ fault, o.on s = (.error fault, s)) (reply : α → Reply) :
    ∃ fault, (o.answering reply).on s = (.error fault, s) := by
  obtain ⟨fault, hfault⟩ := h
  cases o with
  | error cause => exact ⟨cause, rfl⟩
  | ok edit =>
      have hedit : edit s = (.error fault, s) := hfault
      refine ⟨fault, ?_⟩
      simp only [answering, Except.map, on_ok, hedit]

/-- Nothing is published, amended or deleted where an endpoint has been deleted. -/
theorem Change.fails_of_deleted (library : TemplateLibrary) {s : StoreState} {path : String}
    {row : Endpoint} (hrow : s.endpoints.byPath.find? path = some row)
    (hdeleted : row.deleted.isSome = true) {c : Change} (hc : c.endpointPath? = some path) :
    ∃ fault, (c.operation library).on s = (.error fault, s) := by
  have hnone := EndpointTable.liveAt_of_deleted hrow hdeleted
  cases c with
  | publish other resource created tag =>
      obtain rfl := Option.some.inj hc
      apply Operation.answering_of_fails
      exact Directory.create_of_taken hrow resource created tag
  | amend other tag lastModified =>
      obtain rfl := Option.some.inj hc
      apply Operation.answering_of_fails
      simp only [Directory.modify, Operation.on_ok, hnone]
      exact ⟨_, rfl⟩
  | retract other time =>
      obtain rfl := Option.some.inj hc
      apply Operation.answering_of_fails
      simp only [Directory.delete, Operation.on_ok, hnone]
      exact ⟨_, rfl⟩
  | _ => cases hc

namespace Kernel

/-- Of any two states of a run that follow one another, in one transaction or by way of commits, the
later one has a row at each path where the earlier one has a row. It was created at the same time,
and as long as it is live it has the same resource. A row that has been deleted is the same row, and
every attempt to publish, amend or delete at its path fails and changes nothing. -/
theorem endpoints_last (library : TemplateLibrary) (moves more : List Move) :
    let k := (ofLibrary library).run moves
    ∀ s t, k.view.Precedes (k.run more).view s t →
      ∀ path row, s.endpoints.byPath.find? path = some row →
        ∃ later, t.endpoints.byPath.find? path = some later ∧ later.created = row.created ∧
          (later.deleted = none → later.resource = row.resource) ∧
          (row.deleted.isSome = true → later = row ∧
            ∀ c : Change, c.endpointPath? = some path →
              ∃ fault, (c.operation library).on t = (.error fault, t)) := by
  intro k s t hprecedes path row hrow
  have hlasts : s.endpoints.Lasts t.endpoints :=
    precedes_run (hereditary_lasts library) moves more hprecedes
  obtain ⟨later, hlater, hbecomes⟩ := hlasts path row hrow
  refine ⟨later, hlater, hbecomes.created, hbecomes.resource, fun hdeleted ↦ ?_⟩
  have hsame : later = row := hbecomes.tombstone hdeleted
  refine ⟨hsame, fun c hc ↦ ?_⟩
  exact Change.fails_of_deleted library hlater (hsame.symm ▸ hdeleted) hc

/-- A book that has been withdrawn from its path may be published elsewhere. A transaction that
begins after that sees the old row as it was left, and cannot use its path. -/
theorem withdrawn_path_stays_taken :
    let book : ResourceId := ⟨.text "b", "book"⟩
    let tag : EntityTag := ⟨"v1", false⟩
    let moves : List Move := [.begin "reader" "t", .change "t" (.publish "/old" book 1 tag),
      .change "t" (.retract "/old" 2), .commit "t"]
    let more : List Move := [.begin "reader" "u", .change "u" (.publish "/new" book 3 tag),
      .commit "u", .begin "reader" "v", .change "v" (.retract "/new" 4)]
    let k := (ofLibrary .shelves).run moves
    ∃ session, (k.run more).open? "v" = some session ∧
      session.working.endpoints.byPath.find? "/old" = some ⟨"/old", none, 1, some 2, tag, 2⟩ ∧
      ∃ fault, ((Change.publish "/old" book 5 tag).operation .shelves).on session.working =
        (.error fault, session.working) := by
  intro book tag moves more k
  have hrow : k.committed.endpoints.byPath.find? "/old" =
      some ⟨"/old", none, 1, some 2, tag, 2⟩ := by
    decide +kernel
  have hstarted : ((k.run more).open? "v").map MemorySession.started = some 2 := by
    decide +kernel
  have hrevision : k.memory.revision ≤ 2 := by decide +kernel
  have hlast := endpoints_last .shelves moves more
  change ∀ s t, k.view.Precedes (k.run more).view s t → _ at hlast
  clear_value k more
  obtain ⟨session, hsession, hsince⟩ := Option.map_eq_some_iff.mp hstarted
  have hprecedes : k.view.Precedes (k.run more).view k.committed session.working :=
    .begun (open?_eq_some_iff.mp hsession).2 (hsince ▸ hrevision)
  obtain ⟨later, hlater, -, -, hstays⟩ := hlast _ _ hprecedes "/old" _ hrow
  obtain ⟨rfl, hfails⟩ := hstays rfl
  exact ⟨session, hsession, hlater, hfails (.publish "/old" book 5 tag) rfl⟩

end Kernel

end ResourceKernel
