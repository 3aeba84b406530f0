import ResourceKernel.Proofs.Graph.Aspect
import ResourceKernel.Proofs.Kernel.History

/-!
# Reports of outstanding failures

A failure is recorded with its resource, and its report is stored apart from it. As long as failures
are recorded through the graph, both are there or none: recording, clearing and removing act on the
two at once. Of the numbers that are drawn only a free one is taken, so that no report takes the
place of another.
-/

namespace ResourceKernel

namespace Resource

variable {r : Resource} {draws : List FailureId} {failure : FailureId}

theorem hasFailure_of_freshFailure? (h : r.freshFailure? draws = some failure) :
    r.hasFailure failure = false := by
  simpa using List.find?_some h

/-- Numbers that are outstanding are passed over. -/
theorem freshFailure?_append {skipped : List FailureId} (rest : List FailureId)
    (hskipped : ∀ drawn ∈ skipped, r.hasFailure drawn = true)
    (hfree : r.hasFailure failure = false) :
    r.freshFailure? (skipped ++ failure :: rest) = some failure := by
  rw [freshFailure?, List.find?_eq_some_iff_append]
  refine ⟨by simp [hfree], skipped, rest, rfl, fun drawn hdrawn ↦ ?_⟩
  simp [hskipped drawn hdrawn]

theorem freshFailure?_eq_none (h : ∀ drawn ∈ draws, r.hasFailure drawn = true) :
    r.freshFailure? draws = none := by
  rw [freshFailure?, List.find?_eq_none]
  intro drawn hdrawn
  simp [h drawn hdrawn]

end Resource

namespace Entity

def failing (e : Entity) : FailureId → Bool := e.base.hasFailure

theorem failing_fresh (t : Template) (id : ResourceId) (parent : Option ResourceId) :
    (fresh t id parent).failing = fun _ ↦ false := by
  rw [failing, base_fresh]
  rfl

theorem failing_eq {e d : Entity} (h : d.base.failures = e.base.failures) :
    d.failing = e.failing := by
  funext failure
  rw [failing, failing, Resource.hasFailure, Resource.hasFailure, h]

theorem failing_withBase {e : Entity} {r : Resource} (h : r.failures = e.base.failures) :
    (e.withBase r).failing = e.failing :=
  failing_eq ((congrArg Resource.failures (e.base_withBase r)).trans h)

end Entity

namespace StoreState

/-- The outstanding failures of each resource. -/
def outstanding (s : StoreState) : ResourceId → FailureId → Bool :=
  s.aspect Entity.failing fun _ ↦ false

/-- Reports stand under their own identities. -/
def Labelled (s : StoreState) : Prop :=
  ∀ id report, s.reports.find? id = some report → report.id = id

/-- Every outstanding failure has a report. -/
def Reported (s : StoreState) : Prop :=
  ∀ id, s.outstanding id.resource id.failure = true → ∃ report, s.reports.find? id = some report

theorem labelled_empty : empty.Labelled := by
  intro id report h
  cases h

theorem reported_empty : empty.Reported := by
  intro id houtstanding
  rw [outstanding, aspect_empty] at houtstanding
  cases houtstanding

variable {s : StoreState} {id : ReportId}

theorem outstanding_iff : s.outstanding id.resource id.failure = true ↔
    ∃ e, s.entityOf? id.resource = some e ∧ e.base.hasFailure id.failure = true := by
  unfold outstanding aspect
  cases s.entityOf? id.resource with
  | none => simp
  | some e => simp [Entity.failing]

theorem Sound.outstanding_of_report (hs : s.Sound) {report : Report}
    (hreport : s.reports.find? id = some report) :
    s.outstanding id.resource id.failure = true := by
  obtain ⟨key, e, hkey, he, hfailure⟩ := hs.backed hreport
  exact outstanding_iff.mpr ⟨e, (entityOf?_of_keyed hkey).trans he, hfailure⟩

/-- There is no report to lose where a failure is not outstanding. -/
theorem Sound.find?_reports_eq_none (hs : s.Sound)
    (hfree : s.outstanding id.resource id.failure = false) : s.reports.find? id = none := by
  cases hreport : s.reports.find? id with
  | none => rfl
  | some report =>
      rw [hs.outstanding_of_report hreport] at hfree
      cases hfree

end StoreState

/-- What a deed means to failures and reports. -/
inductive Filing (s t : StoreState) : Deed → Prop
  | same {d : Deed} (hreports : t.reports = s.reports) (hfailures : t.outstanding = s.outstanding) :
      Filing s t d
  | filed {resource : ResourceId} {draws : List FailureId} {complaint : Graph.Complaint}
      {report : Report} (hfree : s.outstanding report.id.resource report.id.failure = false)
      (hreports : t.reports = s.reports.insert report.id report)
      (hfailures : ∀ id : ReportId, t.outstanding id.resource id.failure =
        (decide (id = report.id) || s.outstanding id.resource id.failure)) :
      Filing s t (.change (.addReport resource draws complaint))
  | aside {resource : ResourceId} {draws : List FailureId} {complaint : Graph.Complaint}
      (hreports : t.reports = s.reports) :
      Filing s t (.change (.reportAside resource draws complaint))
  | cleared {id : ReportId} (hreports : t.reports = s.reports.erase id)
      (hfailures : ∀ other : ReportId, t.outstanding other.resource other.failure =
        (decide (other ≠ id) && s.outstanding other.resource other.failure)) :
      Filing s t (.change (.removeFailure id))
  | removed {resource : ResourceId}
      (hreports : t.reports = s.reports.filter fun report _ ↦ report.resource ≠ resource)
      (hfailures : ∀ id : ReportId, t.outstanding id.resource id.failure =
        (decide (id.resource ≠ resource) && s.outstanding id.resource id.failure)) :
      Filing s t (.change (.remove resource))

/-- Whether a failure is recorded with a resource alone, and so without a stored report. -/
def Deed.isAside : Deed → Bool
  | .change (.reportAside _ _ _) => true
  | _ => false

namespace Filing

open StoreState

variable {s t : StoreState} {d : Deed}

theorem labelled (h : Filing s t d) (hs : s.Labelled) : t.Labelled := by
  intro id found hfound
  cases h with
  | same hreports | aside hreports => exact hs id found (hreports ▸ hfound)
  | filed _ hreports =>
      rw [hreports, Table.find?_insert] at hfound
      split at hfound
      · next hid =>
        obtain rfl := Option.some.inj hfound
        exact hid.symm
      · exact hs id found hfound
  | cleared hreports =>
      rw [hreports, Table.find?_erase] at hfound
      split at hfound
      · cases hfound
      · exact hs id found hfound
  | removed hreports =>
      rw [hreports, Table.find?_filter_eq_some_iff] at hfound
      exact hs id found hfound.1

theorem reported (h : Filing s t d) (hd : d.isAside = false) (hs : s.Reported) : t.Reported := by
  intro id houtstanding
  cases h with
  | same hreports hfailures =>
      rw [hreports]
      exact hs id (hfailures ▸ houtstanding)
  | @filed _ _ _ report _ hreports hfailures =>
      rw [hreports, Table.find?_insert]
      by_cases hid : id = report.id
      · exact ⟨report, if_pos hid⟩
      · rw [if_neg hid]
        apply hs id
        simpa [hfailures, hid] using houtstanding
  | aside => cases hd
  | @cleared cleared hreports hfailures =>
      rw [hfailures, Bool.and_eq_true, decide_eq_true_eq] at houtstanding
      obtain ⟨hne, hold⟩ := houtstanding
      rw [hreports, Table.find?_erase_ne _ hne]
      exact hs id hold
  | removed hreports hfailures =>
      rw [hfailures, Bool.and_eq_true] at houtstanding
      obtain ⟨hne, hold⟩ := houtstanding
      obtain ⟨report, hreport⟩ := hs id hold
      refine ⟨report, ?_⟩
      rw [hreports, Table.find?_filter_eq_some_iff]
      exact ⟨hreport, hne⟩

/-- A stored report stays until its failure is cleared or its resource removed. -/
theorem keeps_report (h : Filing s t d) (hs : s.Sound) {id : ReportId} {report : Report}
    (hreport : s.reports.find? id = some report) (hclear : d ≠ .change (.removeFailure id))
    (hremove : d ≠ .change (.remove id.resource)) : t.reports.find? id = some report := by
  cases h with
  | same hreports | aside hreports => exact hreports ▸ hreport
  | @filed _ _ _ other hfree hreports =>
      -- the failure of a stored report is outstanding, so its number is not taken again
      have hne : id ≠ other.id := by
        rintro rfl
        rw [hs.find?_reports_eq_none hfree] at hreport
        cases hreport
      rw [hreports, Table.find?_insert_ne _ _ hne]
      exact hreport
  | @cleared other hreports =>
      have hne : id ≠ other := by
        rintro rfl
        exact hclear rfl
      rw [hreports, Table.find?_erase_ne _ hne]
      exact hreport
  | @removed resource hreports =>
      have hne : id.resource ≠ resource := by
        rintro rfl
        exact hremove rfl
      rw [hreports, Table.find?_filter_eq_some_iff]
      exact ⟨hreport, decide_eq_true hne⟩

end Filing

variable {library : TemplateLibrary} {s t : StoreState} {c : Change} {reply : Reply}

open StoreState

theorem Granted.filing (h : Granted library s c reply t) (hs : s.Sound) :
    Filing s t (.change c) := by
  cases h with
  | created _ hkey hfree => exact .same rfl (aspect_found hkey hfree (Entity.failing_fresh _ _ _))
  | attached _ hkey he _ _ hchild =>
      refine .same reports_provide ?_
      exact aspect_placed hkey he hchild (Entity.failing_fresh _ _ _) (Entity.failing_withBase rfl)
  | entered _ hkey hc _ hmember =>
      refine .same reports_provide ?_
      exact aspect_placed hkey hc hmember (Entity.failing_fresh _ _ _) (Entity.failing_eq rfl)
  | detached hkey he | directed hkey he =>
      exact .same rfl (aspect_replace hkey he rfl (Entity.failing_withBase rfl))
  | dropped hkey hc =>
      exact .same rfl (aspect_replace hkey hc rfl
        (Entity.failing_eq (congrArg Resource.failures (Container.id_removeMember _ _))))
  | slugAdded hkey hc | slugMerged hkey hc =>
      exact .same rfl (aspect_replace hkey hc rfl
        (Entity.failing_eq (congrArg Resource.failures (Container.resource_mergeSlug _ _ _))))
  | noContainer | noResource => exact .same rfl rfl
  | @complained id _ _ key e _ _ hkey he hreport =>
      obtain ⟨failure, hfresh, rfl, rfl⟩ := Resource.report?_eq_some_iff.mp hreport
      obtain rfl : e.base.id = id := ResourceId.keyed_inj (hs.keyed he) hkey
      have hold : s.outstanding e.base.id = e.base.hasFailure :=
        aspect_eq ((entityOf?_of_keyed hkey).trans he)
      refine .filed ?_ rfl ?_
      · rw [hold]
        exact Resource.hasFailure_of_freshFailure? hfresh
      · rintro ⟨resource, number⟩
        rw [outstanding, aspect_put hkey rfl, Function.update_apply]
        split
        · next hresource =>
          obtain rfl : resource = e.base.id := hresource
          rw [Entity.failing, Entity.base_withBase, Resource.hasFailure_insert, hold]
          simp
        · next hresource => simp_all [outstanding]
  | complainedAside => exact .aside rfl
  | @settled id key e hkey he _ =>
      obtain ⟨place, failure⟩ := id
      have hold : s.outstanding place = e.base.hasFailure :=
        aspect_eq ((entityOf?_of_keyed hkey).trans he)
      refine .cleared rfl ?_
      rintro ⟨resource, number⟩
      rw [outstanding, aspect_put hkey rfl, Function.update_apply]
      split
      · next hresource =>
        obtain rfl : resource = place := hresource
        rw [Entity.failing, Entity.base_withBase, Resource.hasFailure_removeFailure, hold]
        simp
      · next hresource => simp_all [outstanding]
  | removed hkey =>
      refine .removed rfl fun id ↦ ?_
      rw [outstanding, aspect_erase hkey rfl, Function.update_apply]
      split
      · next hresource => simp [hresource]
      · next hresource => simp [hresource, outstanding]
  | published | amended | retracted => exact .same rfl (aspect_congr rfl)

theorem Deed.filing (hs : s.Sound) (d : Deed) : Filing s (d.on library s) d := by
  rcases d.granted_or_idle library hs with ⟨slugs, hidle⟩ | ⟨c, reply, rfl, hgranted⟩
  · rw [hidle]
    exact .same rfl (aspect_congr rfl)
  · exact hgranted.filing hs

theorem labelled_replay (library : TemplateLibrary) (deeds : List Deed) :
    (replay library .empty deeds).Labelled := by
  apply replay_induction sound_empty labelled_empty
  intro t ht d _ hlabelled
  exact (d.filing ht).labelled hlabelled

theorem reported_replay (library : TemplateLibrary) {deeds : List Deed}
    (hdeeds : ∀ d ∈ deeds, d.isAside = false) : (replay library .empty deeds).Reported := by
  apply replay_induction sound_empty reported_empty
  intro t ht d hd hreported
  exact (d.filing ht).reported (hdeeds d hd) hreported

theorem find?_reports_replay (hs : s.Sound) {id : ReportId} {report : Report}
    (hreport : s.reports.find? id = some report) {more : List Deed}
    (hclear : .change (.removeFailure id) ∉ more)
    (hremove : .change (.remove id.resource) ∉ more) :
    (replay library s more).reports.find? id = some report := by
  refine replay_induction (P := fun t ↦ t.reports.find? id = some report) hs hreport ?_
  intro t ht d hd hold
  apply (d.filing ht).keeps_report ht hold
  · rintro rfl
    exact hclear hd
  · rintro rfl
    exact hremove hd

namespace Graph

variable {id : ResourceId} {e : Entity} {draws : List FailureId}

theorem addReport_of_fresh (complaint : Complaint) (he : s.entityOf? id = some e)
    (hid : e.base.id = id) {failure : FailureId}
    (hfresh : e.base.freshFailure? draws = some failure) :
    let report : Report :=
      ⟨⟨id, failure⟩, complaint.date, complaint.request, complaint.constraints⟩
    ∃ t, (addReport id draws complaint).on s = (.ok report, t) ∧
      t.reports = s.reports.insert report.id report := by
  obtain ⟨key, hkey, hentity⟩ := entityOf?_eq_some_iff.mp he
  have hfound : s.entityAt key id = .ok e := entityAt_eq_ok_iff.mpr hentity
  rw [addReport, Operation.on_withKey hkey]
  simp only [hfound, Resource.report?, hfresh, Option.map_some, hid]
  exact ⟨_, rfl, rfl⟩

theorem addReport_of_not_fresh (complaint : Complaint) (he : s.entityOf? id = some e)
    (hnone : e.base.freshFailure? draws = none) :
    (addReport id draws complaint).on s =
      (.error ↑(StateFault.note "entropy source unavailable"), s) := by
  obtain ⟨key, hkey, hentity⟩ := entityOf?_eq_some_iff.mp he
  have hfound : s.entityAt key id = .ok e := entityAt_eq_ok_iff.mpr hentity
  rw [addReport, Operation.on_withKey hkey]
  simp only [hfound, Resource.report?, hnone, Option.map_none]

/-- The first number drawn that is not outstanding is taken, and stands for no report yet. -/
theorem addReport_of_skipped (hs : s.Sound) (complaint : Complaint)
    (he : s.entityOf? id = some e) {skipped : List FailureId} {failure : FailureId}
    (rest : List FailureId) (hskipped : ∀ drawn ∈ skipped, e.base.hasFailure drawn = true)
    (hfree : e.base.hasFailure failure = false) :
    let report : Report :=
      ⟨⟨id, failure⟩, complaint.date, complaint.request, complaint.constraints⟩
    s.reports.find? report.id = none ∧
      ∃ t, (addReport id (skipped ++ failure :: rest) complaint).on s = (.ok report, t) ∧
        ∀ other, t.reports.find? other =
          if other = report.id then some report else s.reports.find? other := by
  intro report
  obtain ⟨key, hkey, hentity⟩ := entityOf?_eq_some_iff.mp he
  have hid : e.base.id = id := ResourceId.keyed_inj (hs.keyed hentity) hkey
  have hfresh := Resource.freshFailure?_append rest hskipped hfree
  obtain ⟨t, hanswer, hreports⟩ := addReport_of_fresh complaint he hid hfresh
  refine ⟨hs.find?_reports_eq_none ?_, t, hanswer, fun other ↦ ?_⟩
  · rw [outstanding, aspect_eq he]
    exact hfree
  · rw [hreports, Table.find?_insert]

/-- Where nothing is removed there is no report to drop either. -/
theorem find?_reports_remove (hs : s.Sound) (id : ResourceId) (other : ReportId) :
    ((remove id).on s).2.reports.find? other =
      if other.resource = id then none else s.reports.find? other := by
  have hunfounded : s.entityOf? id = none →
      s.reports.find? other = if other.resource = id then none else s.reports.find? other := by
    intro hnone
    split
    · next hresource =>
      apply hs.find?_reports_eq_none
      rw [outstanding, aspect, hresource, hnone]
      rfl
    · rfl
  cases hkey : id.keyed with
  | error fault =>
      rw [remove, Operation.withKey, hkey]
      apply hunfounded
      rw [entityOf?, hkey]
      rfl
  | ok key =>
      rw [remove, Operation.on_withKey hkey]
      cases he : s.entity? key with
      | none =>
          apply hunfounded
          rw [entityOf?_of_keyed hkey, he]
      | some e =>
          apply Option.ext
          intro report
          rw [Table.find?_filter_eq_some_iff, decide_eq_true_eq]
          split
          · next hresource => simp [hresource]
          · next hresource => simp [hresource]

end Graph

theorem exists_report_iff (hs : s.Sound) (hreported : s.Reported) (id : ReportId) :
    (∃ report, s.reports.find? id = some report) ↔
      ∃ e, s.entityOf? id.resource = some e ∧ e.base.hasFailure id.failure = true := by
  constructor
  · rintro ⟨report, hreport⟩
    exact outstanding_iff.mp (hs.outstanding_of_report hreport)
  · intro houtstanding
    exact hreported id (outstanding_iff.mpr houtstanding)

/-- In every state of a history in which failures are recorded through the graph, just the
outstanding failures of existing resources have reports. Whatever the history, reports stand under
their own identities; a stored report stays through whatever comes, until its failure is cleared or
its resource removed; recording a failure takes the first number drawn that is not outstanding,
replaces no report by its own, and changes nothing if there is no such number; and removing a
resource drops its reports and no others. -/
theorem reports_of_failures (library : TemplateLibrary) (deeds : List Deed) :
    let s := replay library .empty deeds
    ((∀ d ∈ deeds, d.isAside = false) → ∀ id,
      (∃ report, s.reports.find? id = some report) ↔
        ∃ e, s.entityOf? id.resource = some e ∧ e.base.hasFailure id.failure = true) ∧
      (∀ id report, s.reports.find? id = some report → report.id = id) ∧
      (∀ id report more, s.reports.find? id = some report →
        .change (.removeFailure id) ∉ more → .change (.remove id.resource) ∉ more →
        (replay library .empty (deeds ++ more)).reports.find? id = some report) ∧
      (∀ id e draws complaint, s.entityOf? id = some e →
        (∀ skipped failure rest, draws = skipped ++ failure :: rest →
          (∀ drawn ∈ skipped, e.base.hasFailure drawn = true) →
          e.base.hasFailure failure = false →
          let report : Report :=
            ⟨⟨id, failure⟩, complaint.date, complaint.request, complaint.constraints⟩
          s.reports.find? report.id = none ∧
            ∃ t, (Graph.addReport id draws complaint).on s = (.ok report, t) ∧
              ∀ other, t.reports.find? other =
                if other = report.id then some report else s.reports.find? other) ∧
        ((∀ drawn ∈ draws, e.base.hasFailure drawn = true) →
          ∃ fault, (Graph.addReport id draws complaint).on s = (.error fault, s))) ∧
      ∀ id other, ((Graph.remove id).on s).2.reports.find? other =
        if other.resource = id then none else s.reports.find? other := by
  intro s
  have hs : s.Sound := sound_replay library deeds
  refine ⟨fun hdeeds ↦ exists_report_iff hs (reported_replay library hdeeds),
    labelled_replay library deeds, ?_, ?_, Graph.find?_reports_remove hs⟩
  · intro id report more hreport hclear hremove
    rw [replay_append]
    exact find?_reports_replay hs hreport hclear hremove
  · intro id e draws complaint he
    refine ⟨?_, fun hall ↦ ⟨_, Graph.addReport_of_not_fresh complaint he ?_⟩⟩
    · rintro skipped failure rest rfl hskipped hfree
      exact Graph.addReport_of_skipped hs complaint he rest hskipped hfree
    · exact Resource.freshFailure?_eq_none hall

/-- So it is for the history of every state in a run, and whatever report has been stored on the way
to the state is stored in it, unless it has been cleared or dropped since. -/
theorem Kernel.reports_run (library : TemplateLibrary) (moves : List Move) :
    ((ofLibrary library).run moves).view.Every fun s ↦
      ∃ deeds, deeds.Sublist (asked moves) ∧ s = replay library .empty deeds ∧
        ((∀ d ∈ deeds, d.isAside = false) → ∀ id,
          (∃ report, s.reports.find? id = some report) ↔
            ∃ e, s.entityOf? id.resource = some e ∧ e.base.hasFailure id.failure = true) ∧
        (∀ id report, s.reports.find? id = some report → report.id = id) ∧
        (∀ before since id report, deeds = before ++ since →
          (replay library .empty before).reports.find? id = some report →
          .change (.removeFailure id) ∉ since → .change (.remove id.resource) ∉ since →
          s.reports.find? id = some report) ∧
        (∀ id e skipped failure rest complaint, s.entityOf? id = some e →
          (∀ drawn ∈ skipped, e.base.hasFailure drawn = true) →
          e.base.hasFailure failure = false →
          let report : Report :=
            ⟨⟨id, failure⟩, complaint.date, complaint.request, complaint.constraints⟩
          s.reports.find? report.id = none ∧
            ∃ t, (Graph.addReport id (skipped ++ failure :: rest) complaint).on s =
                (.ok report, t) ∧
              ∀ other, t.reports.find? other =
                if other = report.id then some report else s.reports.find? other) ∧
        (∀ id e draws complaint, s.entityOf? id = some e →
          (∀ drawn ∈ draws, e.base.hasFailure drawn = true) →
          ∃ fault, (Graph.addReport id draws complaint).on s = (.error fault, s)) ∧
        ∀ id other, ((Graph.remove id).on s).2.reports.find? other =
          if other.resource = id then none else s.reports.find? other := by
  refine every_of_replay ?_ moves
  intro deeds
  have hs : (replay library .empty deeds).Sound := sound_replay library deeds
  refine ⟨fun hdeeds ↦ exists_report_iff hs (reported_replay library hdeeds),
    labelled_replay library deeds, ?_, ?_, ?_, Graph.find?_reports_remove hs⟩
  · rintro before since id report rfl hreport hclear hremove
    rw [replay_append]
    exact find?_reports_replay (sound_replay library before) hreport hclear hremove
  · intro id e skipped failure rest complaint he hskipped hfree
    exact Graph.addReport_of_skipped hs complaint he rest hskipped hfree
  · intro id e draws complaint he hall
    exact ⟨_, Graph.addReport_of_not_fresh complaint he (Resource.freshFailure?_eq_none hall)⟩

/-- A second failure whose first draws clash gets the next number, and its report stands beside the
first, which outlives it. -/
theorem report_beside_report :
    let a : ResourceId := ⟨.text "a", "shelf"⟩
    let first : ReportId := ⟨a, ⟨7⟩⟩
    let complaint : Graph.Complaint := ⟨["title"], 1, ⟨"PUT", "/a", ∅, none⟩⟩
    let deeds : List Deed :=
      [.change (.create "shelf" (.text "a")), .change (.addReport a [⟨7⟩] complaint)]
    let more : List Deed :=
      [.change (.addReport a [⟨7⟩, ⟨7⟩, ⟨9⟩] complaint), .change (.removeFailure ⟨a, ⟨9⟩⟩)]
    let s := replay .shelves .empty deeds
    (∃ e, s.entityOf? a = some e ∧ e.base.hasFailure ⟨7⟩ = true ∧
      ∃ t, (Graph.addReport a [⟨7⟩, ⟨7⟩, ⟨9⟩] complaint).on s =
          (.ok ⟨⟨a, ⟨9⟩⟩, 1, complaint.request, ["title"]⟩, t) ∧
        t.reports.find? first = s.reports.find? first) ∧
      (replay .shelves .empty (deeds ++ more)).reports.find? first =
        some ⟨first, 1, complaint.request, ["title"]⟩ := by
  intro a first complaint deeds more s
  have hreport : s.reports.find? first = some ⟨first, 1, complaint.request, ["title"]⟩ := by
    decide +kernel
  have hunused : s.outstanding a ⟨9⟩ = false := by decide +kernel
  obtain ⟨hiff, -, hstays, hrecords, -⟩ := reports_of_failures .shelves deeds
  obtain ⟨e, he, houtstanding⟩ := (hiff (by decide) first).mp ⟨_, hreport⟩
  have hfree : e.base.hasFailure ⟨9⟩ = false := by
    rwa [outstanding, aspect_eq he] at hunused
  obtain ⟨-, t, hanswer, hother⟩ := (hrecords a e _ complaint he).1 [⟨7⟩, ⟨7⟩] ⟨9⟩ [] rfl
    (by simpa using houtstanding) hfree
  refine ⟨⟨e, he, houtstanding, t, hanswer, ?_⟩,
    hstays first _ more hreport (by decide) (by decide)⟩
  rw [hother, if_neg (by decide)]

end ResourceKernel
