import ResourceKernel.Proofs.Graph.Effect
import ResourceKernel.Proofs.Key

/-!
# Sound states

In a state that operations have made, entities stand under the keys of their identities, members
are numbered, reports tell of outstanding failures, and live endpoints publish resources that have
keys. Every step of an operation keeps this.
-/

namespace ResourceKernel

namespace EndpointTable

theorem liveAt_eq_ok_iff {t : EndpointTable} {path : String} {e : Endpoint} :
    t.liveAt path = .ok e ↔ t.byPath.find? path = some e ∧ e.deleted = none := by
  unfold liveAt
  cases t.byPath.find? path with
  | none => simp
  | some row =>
      cases h : row.deleted with
      | none =>
          simp only [Endpoint.isDeleted, h, Option.isSome_none, Bool.false_eq_true, if_false,
            Except.ok.injEq, Option.some.injEq, iff_self_and]
          rintro rfl
          exact h
      | some time =>
          simp only [Endpoint.isDeleted, h, Option.isSome_some, if_true, reduceCtorEq,
            Option.some.injEq, false_iff, not_and]
          rintro rfl
          simp [h]

end EndpointTable

namespace Resource

theorem hasFailure_insert (r : Resource) (failure other : FailureId) :
    { r with failures := r.failures.insert failure () }.hasFailure other =
      (decide (other = failure) || r.hasFailure other) := by
  simp only [hasFailure, Table.contains, Table.find?_insert]
  split <;> simp_all

theorem hasFailure_removeFailure (r : Resource) (failure other : FailureId) :
    (r.removeFailure failure).2.hasFailure other =
      (decide (other ≠ failure) && r.hasFailure other) := by
  simp only [removeFailure, hasFailure, Table.contains, Table.find?_erase]
  split <;> simp_all

theorem report?_eq_some_iff {r base : Resource} {draws : List FailureId}
    {constraints : List String} {date : Int} {request : Request} {report : Report} :
    r.report? draws constraints date request = some (report, base) ↔
      ∃ failure, r.freshFailure? draws = some failure ∧
        report = ⟨⟨r.id, failure⟩, date, request, constraints⟩ ∧
          base = { r with failures := r.failures.insert failure () } := by
  unfold report?
  cases r.freshFailure? draws <;> simp [eq_comm]

end Resource

namespace Container

theorem id_removeMember (c : Container) (member : ResourceId) :
    (c.removeMember member).2.resource = c.resource := by
  unfold Container.removeMember
  split <;> rfl

theorem mergeSlug_eq (c : Container) (pool : SlugPool) (candidate : Slug) :
    ∃ slugs, (c.mergeSlug pool candidate).2.1 = { c with slugs := slugs } := by
  unfold Container.mergeSlug
  dsimp only
  split
  · exact ⟨c.slugs, rfl⟩
  · exact ⟨_, rfl⟩

theorem resource_mergeSlug (c : Container) (pool : SlugPool) (candidate : Slug) :
    (c.mergeSlug pool candidate).2.1.resource = c.resource := by
  obtain ⟨slugs, hslugs⟩ := c.mergeSlug_eq pool candidate
  rw [hslugs]

theorem addSlug_eq_ok_iff {c : Container} {pool : SlugPool} {preferred : String}
    {merged : Nat × Container × SlugPool} :
    c.addSlug pool preferred = .ok merged ↔
      ∃ path, Slug.normalizePath? preferred = some path ∧
        c.mergeSlug pool ⟨c.id, path, 0⟩ = merged := by
  unfold Container.addSlug
  cases Slug.normalizePath? preferred <;> simp

end Container

theorem Entity.container?_eq_some_iff {e : Entity} {c : Container} :
    e.container? = some c ↔ e = .container c := by
  cases e <;> simp [container?]

namespace StoreState

/-- What holds of all states that operations have made. -/
structure Sound (s : StoreState) : Prop where
  keyed {key : StoredKey} {e : Entity} (he : s.entity? key = some e) : e.id.keyed = .ok key
  numbered {key : StoredKey} {c : Container} (hc : s.entity? key = some (.container c)) :
    c.Numbered
  backed {id : ReportId} {report : Report} (hreport : s.reports.find? id = some report) :
    ∃ key e, id.resource.keyed = .ok key ∧ s.entity? key = some e ∧
      e.base.hasFailure id.failure = true
  published {path : String} {row : Endpoint} (hrow : s.endpoints.byPath.find? path = some row)
    (hlive : row.deleted = none) :
    ∃ resource key, row.resource = some resource ∧ resource.keyed = .ok key

theorem sound_empty : empty.Sound where
  keyed he := by simp [empty, entity?] at he
  numbered hc := by simp [empty, entity?] at hc
  backed hreport := by simp [empty] at hreport
  published hrow := by simp [empty, EndpointTable.empty] at hrow

namespace Sound

variable {s : StoreState} {key : StoredKey} {e : Entity}

theorem withSlugs (hs : s.Sound) (slugs : SlugPool) : { s with slugs := slugs }.Sound where
  keyed he := hs.keyed he
  numbered hc := hs.numbered hc
  backed hreport := hs.backed hreport
  published hrow := hs.published hrow

/-- An entity comes under its key, and reports change with it. Those that stay are about other
entities, or about failures of this one that are outstanding. -/
theorem putEntity_withReports (hs : s.Sound) {reports : Table ReportId Report}
    (hkey : e.id.keyed = .ok key) (hnumbered : ∀ c, e = .container c → c.Numbered)
    (hreports : ∀ id report, reports.find? id = some report →
      (id.resource.keyed = .ok key ∧ e.base.hasFailure id.failure = true) ∨
        (id.resource.keyed ≠ .ok key ∧ s.reports.find? id = some report)) :
    { s.putEntity key e with reports := reports }.Sound where
  keyed := by
    intro other d hd
    by_cases hother : other = key
    · subst hother
      obtain rfl := Option.some.inj ((entity?_putEntity_self s other e).symm.trans hd)
      exact hkey
    · exact hs.keyed ((entity?_putEntity_ne s e hother).symm.trans hd)
  numbered := by
    intro other c hc
    by_cases hother : other = key
    · subst hother
      exact hnumbered c (Option.some.inj ((entity?_putEntity_self s other e).symm.trans hc))
    · exact hs.numbered ((entity?_putEntity_ne s e hother).symm.trans hc)
  backed := by
    intro id report hreport
    rcases hreports id report hreport with ⟨hid, hfailure⟩ | ⟨hid, hold⟩
    · exact ⟨key, e, hid, entity?_putEntity_self s key e, hfailure⟩
    · obtain ⟨other, d, hother, hd, hfailure⟩ := hs.backed hold
      have hne : other ≠ key := fun heq ↦ hid (heq ▸ hother)
      exact ⟨other, d, hother, (entity?_putEntity_ne s e hne).trans hd, hfailure⟩
  published hrow := hs.published hrow

/-- An entity takes the place of one with the same identity and no more outstanding failures. -/
theorem replaceEntity (hs : s.Sound) {old : Entity} (hold : s.entity? key = some old)
    (hid : e.id = old.id) (hnumbered : ∀ c, e = .container c → c.Numbered)
    (hfailures : ∀ failure, old.base.hasFailure failure = true →
      e.base.hasFailure failure = true) : (s.putEntity key e).Sound := by
  refine hs.putEntity_withReports (hid ▸ hs.keyed hold) hnumbered fun id report hreport ↦ ?_
  obtain ⟨other, d, hother, hd, hfailure⟩ := hs.backed hreport
  by_cases heq : other = key
  · subst heq
    obtain rfl := Option.some.inj (hold.symm.trans hd)
    exact Or.inl ⟨hother, hfailures _ hfailure⟩
  · refine Or.inr ⟨fun hid ↦ heq ?_, hreport⟩
    exact Except.ok.inj (hother.symm.trans hid)

theorem numbered_withBase (hs : s.Sound) (he : s.entity? key = some e) {r : Resource}
    (hid : r.id = e.id) (c : Container) (hc : e.withBase r = .container c) : c.Numbered := by
  cases e with
  | resource _ => cases hc
  | container d =>
      obtain rfl := Entity.container.inj hc
      exact (hs.numbered he).congr hid rfl rfl rfl

theorem replaceBase (hs : s.Sound) (he : s.entity? key = some e) {r : Resource}
    (hid : r.id = e.id) (hfailures : r.failures = e.base.failures) :
    (s.putEntity key (e.withBase r)).Sound := by
  refine hs.replaceEntity he ?_ (hs.numbered_withBase he hid) fun failure hfailure ↦ ?_
  · rw [Entity.id, Entity.base_withBase, hid]
  · rw [Entity.base_withBase, Resource.hasFailure, hfailures]
    exact hfailure

theorem replaceContainer (hs : s.Sound) {c d : Container}
    (hc : s.entity? key = some (.container c)) (hresource : d.resource = c.resource)
    (hnumbered : d.Numbered) : (s.putEntity key (.container d)).Sound := by
  refine hs.replaceEntity hc ?_ ?_ fun failure hfailure ↦ ?_
  · rw [Entity.id, Entity.id, Entity.base, Entity.base, hresource]
  · rintro other hother
    exact Entity.container.inj hother ▸ hnumbered
  · rw [Entity.base, hresource]
    exact hfailure

theorem putFresh (hs : s.Sound) {id : ResourceId} (t : Template) (parent : Option ResourceId)
    (hkey : id.keyed = .ok key) (hfree : s.entity? key = none) :
    (s.putEntity key (Entity.fresh t id parent)).Sound := by
  refine hs.putEntity_withReports ?_ ?_ fun other report hreport ↦ ?_
  · rw [Entity.id, Entity.base_fresh]
    exact hkey
  · intro c hc
    unfold Entity.fresh at hc
    split at hc
    · exact Entity.container.inj hc ▸ Container.numbered_fresh id parent t
    · cases hc
  · obtain ⟨otherKey, d, hother, hd, -⟩ := hs.backed hreport
    refine Or.inr ⟨fun heq ↦ ?_, hreport⟩
    obtain rfl := Except.ok.inj (hother.symm.trans heq)
    rw [hfree] at hd
    cases hd

theorem complain (hs : s.Sound) (he : s.entity? key = some e) (failure : FailureId)
    {reports : Table ReportId Report}
    (hreports : ∀ id report, reports.find? id = some report →
      id = ⟨e.id, failure⟩ ∨ s.reports.find? id = some report) :
    { s.putEntity key (e.withBase
        { e.base with failures := e.base.failures.insert failure () }) with
      reports := reports }.Sound := by
  refine hs.putEntity_withReports ?_ (hs.numbered_withBase he rfl) fun id report hreport ↦ ?_
  · rw [Entity.id, Entity.base_withBase]
    exact hs.keyed he
  rw [Entity.base_withBase, Resource.hasFailure_insert]
  rcases hreports id report hreport with rfl | hold
  · exact Or.inl ⟨hs.keyed he, by simp⟩
  · obtain ⟨other, d, hother, hd, hfailure⟩ := hs.backed hold
    by_cases heq : other = key
    · subst heq
      obtain rfl := Option.some.inj (he.symm.trans hd)
      exact Or.inl ⟨hother, by simp [hfailure]⟩
    · exact Or.inr ⟨fun hid ↦ heq (Except.ok.inj (hother.symm.trans hid)), hold⟩

theorem settle (hs : s.Sound) {id : ReportId} (hkey : id.resource.keyed = .ok key)
    (he : s.entity? key = some e) :
    { s.putEntity key (e.withBase (e.base.removeFailure id.failure).2) with
      reports := s.reports.erase id }.Sound := by
  refine hs.putEntity_withReports ?_ (hs.numbered_withBase he rfl) fun other report hreport ↦ ?_
  · rw [Entity.id, Entity.base_withBase]
    exact hs.keyed he
  rw [Entity.base_withBase, Resource.hasFailure_removeFailure]
  rw [Table.find?_erase] at hreport
  split at hreport
  · cases hreport
  · next hne =>
    obtain ⟨otherKey, d, hother, hd, hfailure⟩ := hs.backed hreport
    by_cases heq : otherKey = key
    · subst heq
      obtain rfl := Option.some.inj (he.symm.trans hd)
      -- the report is about the same resource, so it is about another failure
      have hresource : other.resource = id.resource := ResourceId.keyed_inj hother hkey
      have hfailures : other.failure ≠ id.failure := by
        intro hsame
        apply hne
        cases other
        cases id
        simp_all
      exact Or.inl ⟨hother, by simp [hfailure, hfailures]⟩
    · exact Or.inr ⟨fun hid ↦ heq (Except.ok.inj (hother.symm.trans hid)), hreport⟩

theorem remove (hs : s.Sound) {id : ResourceId} (hkey : id.keyed = .ok key) :
    { s with
      resources := s.resources.erase key
      reports := s.reports.filter fun report _ ↦ report.resource ≠ id }.Sound where
  keyed := by
    intro other d hd
    rw [entity?, Table.find?_erase] at hd
    split at hd
    · cases hd
    · exact hs.keyed hd
  numbered := by
    intro other c hc
    rw [entity?, Table.find?_erase] at hc
    split at hc
    · cases hc
    · exact hs.numbered hc
  backed := by
    intro other report hreport
    obtain ⟨hold, hne⟩ := Table.find?_filter_eq_some_iff.mp hreport
    obtain ⟨otherKey, d, hother, hd, hfailure⟩ := hs.backed hold
    have hkeys : otherKey ≠ key := by
      rintro rfl
      simp [ResourceId.keyed_inj hother hkey] at hne
    exact ⟨otherKey, d, hother, (Table.find?_erase_ne _ hkeys).trans hd, hfailure⟩
  published hrow := hs.published hrow

theorem putRow (hs : s.Sound) {path : String} {row : Endpoint} {live : Table StoredKey String}
    (hrow : row.deleted = none →
      ∃ resource key, row.resource = some resource ∧ resource.keyed = .ok key) :
    { s with endpoints := ⟨s.endpoints.byPath.insert path row, live⟩ }.Sound where
  keyed he := hs.keyed he
  numbered hc := hs.numbered hc
  backed hreport := hs.backed hreport
  published := by
    intro other found hfound hlive
    rw [Table.find?_insert] at hfound
    split at hfound
    · obtain rfl := Option.some.inj hfound
      exact hrow hlive
    · exact hs.published hfound hlive

end Sound

end StoreState

variable {library : TemplateLibrary} {s t : StoreState}

open StoreState

theorem Effect.sound (h : Effect library s t) (hs : s.Sound) : t.Sound := by
  cases h with
  | found _ _ _ hkey hfree => exact hs.putFresh _ _ hkey hfree
  | bound _ _ he => exact hs.replaceBase he rfl rfl
  | cleared he => exact hs.replaceBase he rfl rfl
  | entered _ _ _ hc hnew => exact hs.replaceContainer hc rfl ((hs.numbered hc).entered hnew)
  | dropped hc =>
      exact hs.replaceContainer hc (Container.id_removeMember _ _)
        ((hs.numbered hc).removeMember _)
  | @merged key c candidate hc =>
      obtain ⟨slugs, hslugs⟩ := c.mergeSlug_eq s.slugs candidate
      rw [hslugs]
      have hnumbered : { c with slugs := slugs }.Numbered :=
        (hs.numbered hc).congr rfl rfl rfl rfl
      exact (hs.replaceContainer (d := { c with slugs := slugs }) hc rfl hnumbered).withSlugs _
  | advanced _ => exact hs.withSlugs _
  | directed he => exact hs.replaceBase he rfl rfl
  | @complained _ _ e _ _ _ _ hkey he hreport =>
      obtain ⟨failure, -, rfl, rfl⟩ := Resource.report?_eq_some_iff.mp hreport
      refine hs.complain he failure fun id found hfound ↦ ?_
      rw [Table.find?_insert] at hfound
      split at hfound
      · next heq => exact Or.inl heq
      · exact Or.inr hfound
  | complainedAside he hreport =>
      obtain ⟨failure, -, rfl, rfl⟩ := Resource.report?_eq_some_iff.mp hreport
      exact hs.complain he failure fun id found hfound ↦ Or.inr hfound
  | settled hkey he => exact hs.settle hkey he
  | removed hkey _ => exact hs.remove hkey
  | published _ hkey => exact hs.putRow fun _ ↦ ⟨_, _, rfl, hkey⟩
  | amended he =>
      obtain ⟨hrow, hlive⟩ := EndpointTable.liveAt_eq_ok_iff.mp he
      have hresource := hs.published hrow hlive
      exact hs.putRow fun _ ↦ hresource
  | retracted => exact hs.putRow fun hlive ↦ by cases hlive

theorem Effects.sound (h : Effects library s t) (hs : s.Sound) : t.Sound := by
  induction h with
  | refl => exact hs
  | tail _ hstep ih => exact hstep.sound ih

end ResourceKernel
