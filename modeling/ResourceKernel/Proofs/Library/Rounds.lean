import ResourceKernel.Proofs.Library.Closure

/-!
# The rounds of the loader

The loader goes on in rounds until nothing waits. A round takes the handler type that is next, and
resolves it unless it has been resolved before. Between two rounds, whatever has been drafted waits
once or has been resolved, and not both, so that no handler type is resolved twice and the rounds
come to an end. The loader never misses a draft that it counts on, nor what a draft was checked for.
-/

namespace ResourceKernel

variable {catalog : HandlerCatalog} {roots busy : List HandlerId} {s after : Loader}
  {h : HandlerId} {d : Draft}

/-! ## Lapses -/

/-- The complaints of a loader that misses a draft, or in a draft what its kind requires. -/
def TemplateFault.IsLapse : TemplateFault → Prop
  | .unregistered _ | .unresolved _ | .noUri _ _ => True
  | _ => False

/-- It fails, if at all, for another reason than a lapse. -/
def Sober {α : Type} (r : Except TemplateFault α) : Prop :=
  ∀ fault, r = .error fault → ¬fault.IsLapse

namespace Sober

variable {α β : Type}

theorem ok (a : α) : Sober (.ok a) := nofun

theorem error {fault : TemplateFault} (h : ¬fault.IsLapse) :
    Sober (.error fault : Except TemplateFault α) := by
  intro other heq
  exact Except.error.inj heq ▸ h

theorem bind {x : Except TemplateFault α} {f : α → Except TemplateFault β} (hx : Sober x)
    (hf : ∀ a, Sober (f a)) : Sober (x >>= f) := by
  cases x with
  | ok a => exact hf a
  | error fault => exact error (hx fault rfl)

theorem map {x : Except TemplateFault α} (hx : Sober x) (f : α → β) : Sober (x.map f) := by
  cases x with
  | ok a => exact ok (f a)
  | error fault => exact error (hx fault rfl)

end Sober

namespace Draft

theorem sober_kindOf (c : HandlerClass) : Sober (kindOf c) := by
  unfold kindOf
  split
  · exact .ok _
  · exact .error not_false
  · exact .error not_false

theorem sober_readUri (option : UriOption) (template : TemplateId) (raw : String) :
    Sober (readUri option template raw) := by
  unfold readUri
  dsimp only
  split
  · exact .error not_false
  · split
    · exact .error not_false
    · split
      · exact .error not_false
      · exact .ok _

theorem sober_readSlot (template : TemplateId) (before : List AttachmentOption)
    (a : AttachmentOption) : Sober (readSlot template before a) := by
  have hpredicate : Sober (readOptionalUri .attachmentPredicate template a.predicate) := by
    unfold readOptionalUri
    split
    · exact .ok _
    · exact (sober_readUri _ _ _).map some
  unfold readSlot
  split
  · exact .error not_false
  · split
    · exact .error not_false
    · split
      · exact .error not_false
      · split
        · next fault hfails => exact .error (hpredicate fault hfails)
        · exact .ok _

theorem sober_readSlots (template : TemplateId) (before attachments : List AttachmentOption) :
    Sober (readSlots template before attachments) := by
  induction attachments generalizing before with
  | nil => exact .ok []
  | cons a rest ih =>
      unfold readSlots
      split
      · next fault hfails => exact .error (sober_readSlot _ _ _ fault hfails)
      · split
        · next fault hfails => exact .error (ih _ fault hfails)
        · exact .ok _

theorem sober_readMembership (kind : TemplateKind) (template : TemplateId) (o : TemplateOptions) :
    Sober (readMembership kind template o) := by
  unfold readMembership
  split
  · exact (sober_readUri _ _ _).map _
  · exact .ok none

theorem sober_readInserted (kind : TemplateKind) (template : TemplateId) (o : TemplateOptions) :
    Sober (readInserted kind template o) := by
  unfold readInserted
  split
  · exact (sober_readUri _ _ _).map some
  · exact .ok none

theorem sober_ofClass (c : HandlerClass) : Sober (ofClass c) := by
  refine (sober_kindOf c).bind fun kind ↦ ?_
  have hread : Sober (do
      let slots ← readSlots (Text.trim c.options.id) [] c.options.attachments
      let membership ← readMembership kind (Text.trim c.options.id) c.options
      let inserted ← readInserted kind (Text.trim c.options.id) c.options
      return made c kind slots membership inserted) :=
    (sober_readSlots _ _ _).bind fun _ ↦ (sober_readMembership _ _ _).bind fun _ ↦
      (sober_readInserted _ _ _).bind fun _ ↦ .ok _
  dsimp only
  split
  · exact Sober.error not_false
  · split
    · exact Sober.error not_false
    · exact hread

end Draft

theorem HandlerCatalog.Obstacle.not_isLapse {fault : TemplateFault}
    (hfault : catalog.Obstacle roots fault) : ¬fault.IsLapse := by
  cases hfault with
  | missing _ _ => exact not_false
  | illFormed _ _ hfails => exact Draft.sober_ofClass _ fault hfails
  | shared _ _ _ _ _ _ => exact not_false
  | memberless _ _ _ _ => exact not_false

namespace Loader

/-! ## What resolving adds -/

/-- Some drafts have been added, each to be resolved before all that waited. -/
inductive Pushed (s : Loader) : Loader → Prop
  | refl : Pushed s s
  | push {after : Loader} {d : Draft} (hpushed : Pushed s after)
      (hnew : after.drafts.find? d.handler = none) : Pushed s (after.push d)

theorem Pushed.trans {last : Loader} (h₁ : s.Pushed after) (h₂ : after.Pushed last) :
    s.Pushed last := by
  induction h₂ with
  | refl => exact h₁
  | push _ hnew ih => exact ih.push hnew

theorem Pushed.resolved_eq (hpushed : s.Pushed after) : after.resolved = s.resolved := by
  induction hpushed with
  | refl => rfl
  | push _ _ ih => exact ih

theorem exists_enter_of_draft (hkeyed : catalog.Keyed) (hnew : s.drafts.find? h = none)
    (hdraft : s.draft catalog h = .ok after) : ∃ d, d.handler = h ∧ after = s.enter d := by
  unfold Loader.draft at hdraft
  rw [if_neg (Table.not_contains_of_find?_eq_none hnew)] at hdraft
  split at hdraft
  · cases hdraft
  · next c hc =>
    split at hdraft
    · cases hdraft
    · next d hd =>
      have hhandler : d.handler = c.id := (Draft.ofClass_eq_ok_iff_drafts.mp hd).handler
      refine ⟨d, hhandler.trans (hkeyed h c hc), ?_⟩
      unfold Loader.keep at hdraft
      split at hdraft
      · cases hdraft
      · exact (Except.ok.inj hdraft).symm

theorem pushed_refer (hkeyed : catalog.Keyed) {id : TemplateId}
    (hrefer : s.refer catalog h = .ok (id, after)) : s.Pushed after := by
  cases hfound : s.drafts.find? h with
  | some d =>
      rw [refer_of_known hfound] at hrefer
      obtain ⟨-, rfl⟩ := Prod.mk.inj (Except.ok.inj hrefer)
      exact .refl
  | none =>
      cases hdraft : s.draft catalog h with
      | error fault =>
          rw [refer_of_error hfound hdraft] at hrefer
          cases hrefer
      | ok next =>
          obtain ⟨d, rfl, rfl⟩ := exists_enter_of_draft hkeyed hfound hdraft
          rw [refer_of_new hfound hdraft] at hrefer
          obtain ⟨-, rfl⟩ := Prod.mk.inj (Except.ok.inj hrefer)
          exact .push .refl hfound

theorem pushed_referSlots (hkeyed : catalog.Keyed) {template : TemplateId}
    {slots : List DraftSlot} {later : List Slot}
    (hslots : referSlots catalog template s slots = .ok (later, after)) : s.Pushed after := by
  induction slots generalizing s later with
  | nil =>
      obtain ⟨-, rfl⟩ := Prod.mk.inj (Except.ok.inj hslots)
      exact .refl
  | cons slot rest ih =>
      unfold referSlots at hslots
      split at hslots
      · cases hslots
      · next hrefer =>
        split at hslots
        · cases hslots
        · next hrest =>
          obtain ⟨-, rfl⟩ := Prod.mk.inj (Except.ok.inj hslots)
          exact (pushed_refer hkeyed hrefer).trans (ih hrest)

theorem pushed_form (hkeyed : catalog.Keyed) {form : TemplateForm}
    (hform : s.form catalog d = .ok (form, after)) : s.Pushed after := by
  unfold Loader.form at hform
  split at hform
  · obtain ⟨-, rfl⟩ := Prod.mk.inj (Except.ok.inj hform)
    exact .refl
  · split at hform
    · cases hform
    · next hmembers =>
      split at hform
      · cases hform
      · obtain ⟨-, rfl⟩ := Prod.mk.inj (Except.ok.inj hform)
        unfold referMembers at hmembers
        split at hmembers
        · cases hmembers
        · split at hmembers
          · cases hmembers
          · next hrefer =>
            obtain ⟨-, rfl⟩ := Prod.mk.inj (Except.ok.inj hmembers)
            exact pushed_refer hkeyed hrefer

theorem pushed_resolve (hkeyed : catalog.Keyed) {t : Template}
    (hresolve : s.resolve catalog h = .ok (t, after)) : s.Pushed after := by
  unfold Loader.resolve at hresolve
  split at hresolve
  · cases hresolve
  · split at hresolve
    · cases hresolve
    · next hslots =>
      split at hresolve
      · cases hresolve
      · next hform =>
        obtain ⟨-, rfl⟩ := Prod.mk.inj (Except.ok.inj hresolve)
        exact (pushed_referSlots hkeyed hslots).trans (pushed_form hkeyed hform)

/-! ## Rounds -/

/-- What a round does with the handler type that is next: it no longer waits, and is resolved unless
it has been before. The list has the handler type if it comes to that. -/
inductive Round (catalog : HandlerCatalog) (s : Loader) :
    List HandlerId → Except (Told TemplateFault) Loader → Prop
  | passed {h : HandlerId} {rest : List HandlerId} {t : Template} (hnext : s.pending = h :: rest)
      (hdone : s.resolved.find? h = some t) : Round catalog s [] (.ok { s with pending := rest })
  | resolved {h : HandlerId} {rest : List HandlerId} {t : Template} {after : Loader}
      (hnext : s.pending = h :: rest) (hopen : s.resolved.find? h = none)
      (hresolve : ({ s with pending := rest } : Loader).resolve catalog h = .ok (t, after)) :
      Round catalog s [h] (.ok { after with resolved := after.resolved.insert h t })
  | failed {h : HandlerId} {rest : List HandlerId} {cause : Told TemplateFault}
      (hnext : s.pending = h :: rest) (hopen : s.resolved.find? h = none)
      (hresolve : ({ s with pending := rest } : Loader).resolve catalog h = .error cause) :
      Round catalog s [h] (.error cause)

/-- Some rounds, one after another, with the handler types that are resolved in them. -/
inductive Rounds (catalog : HandlerCatalog) (s : Loader) : List HandlerId → Loader → Prop
  | none : Rounds catalog s [] s
  | next {visited taken : List HandlerId} {mid after : Loader}
      (hrounds : Rounds catalog s visited mid) (hround : Round catalog mid taken (.ok after)) :
      Rounds catalog s (visited ++ taken) after

/-- Whatever waits, or is being resolved, has been drafted, does so once, and has not been
resolved. -/
structure Parted (busy : List HandlerId) (s : Loader) : Prop where
  drafted {h : HandlerId} : h ∈ busy ++ s.pending → ∃ d, s.drafts.find? h = some d
  nodup : (busy ++ s.pending).Nodup
  unresolved {h : HandlerId} : h ∈ busy ++ s.pending → s.resolved.find? h = none

theorem Parted.push (hs : s.Parted busy) (hnew : s.drafts.find? d.handler = none)
    (hopen : s.resolved.find? d.handler = none) : (s.push d).Parted busy := by
  have hbelow : s.Below (s.push d) := below_enter hnew
  have hperm : (busy ++ (s.push d).pending).Perm (d.handler :: (busy ++ s.pending)) :=
    List.perm_middle
  have habsent : d.handler ∉ busy ++ s.pending := by
    intro hmem
    obtain ⟨e, he⟩ := hs.drafted hmem
    rw [hnew] at he
    cases he
  refine ⟨fun {k} hk ↦ ?_, ?_, fun {k} hk ↦ ?_⟩
  · obtain rfl | hk := List.mem_cons.mp (hperm.mem_iff.mp hk)
    · exact ⟨d, s.find?_drafts_enter d⟩
    · obtain ⟨e, he⟩ := hs.drafted hk
      exact ⟨e, hbelow k e he⟩
  · exact hperm.nodup_iff.mpr (List.nodup_cons.mpr ⟨habsent, hs.nodup⟩)
  · obtain rfl | hk := List.mem_cons.mp (hperm.mem_iff.mp hk)
    · exact hopen
    · exact hs.unresolved hk

/-- What has not been drafted cannot have been resolved. -/
theorem Parted.pushed (hs : s.Parted busy)
    (hresolved : ∀ h t, s.resolved.find? h = some t → ∃ d, s.drafts.find? h = some d)
    (hpushed : s.Pushed after) : after.Parted busy := by
  have hboth : after.Parted busy ∧ s.Below after := by
    induction hpushed with
    | refl => exact ⟨hs, .refl s⟩
    | @push mid d hmid hnew ih =>
        obtain ⟨hparted, hbelow⟩ := ih
        refine ⟨hparted.push hnew ?_, hbelow.trans (below_enter hnew)⟩
        rw [hmid.resolved_eq]
        cases hfound : s.resolved.find? d.handler with
        | none => rfl
        | some t =>
            obtain ⟨e, he⟩ := hresolved d.handler t hfound
            rw [hbelow _ e he] at hnew
            cases hnew
  exact hboth.1

theorem Parted.settle (hs : s.Parted [h]) (t : Template) :
    ({ s with resolved := s.resolved.insert h t } : Loader).Parted [] := by
  obtain ⟨habsent, hnodup⟩ := List.nodup_cons.mp hs.nodup
  refine ⟨fun {k} hk ↦ hs.drafted (List.mem_cons_of_mem h hk), hnodup, fun {k} hk ↦ ?_⟩
  have hne : k ≠ h := by
    rintro rfl
    exact habsent hk
  change (s.resolved.insert h t).find? k = none
  rw [Table.find?_insert_ne _ _ hne]
  exact hs.unresolved (List.mem_cons_of_mem h hk)

theorem Parted.take {rest : List HandlerId} (hs : s.Parted []) (hnext : s.pending = h :: rest) :
    ({ s with pending := rest } : Loader).Parted [h] where
  drafted hk := by
    apply hs.drafted
    rwa [hnext]
  nodup := by
    have hnodup := hs.nodup
    rwa [hnext] at hnodup
  unresolved hk := by
    apply hs.unresolved
    rwa [hnext]

/-- What the loader knows between two rounds. -/
structure Settled (catalog : HandlerCatalog) (roots : List HandlerId) (s : Loader) : Prop
    extends Walks catalog roots [] s where
  parted : s.Parted []

namespace Settled

/-- What has been drafted waits just as long as it has not been resolved. -/
theorem mem_pending_iff (hs : s.Settled catalog roots) (hd : s.drafts.find? h = some d) :
    h ∈ s.pending ↔ s.resolved.find? h = none := by
  refine ⟨fun hmem ↦ hs.parted.unresolved hmem, fun hopen ↦ ?_⟩
  obtain hmem | ⟨t, ht⟩ := hs.covered hd
  · exact hmem
  · rw [hopen] at ht
    cases ht

theorem waits_or_resolved (hs : s.Settled catalog roots) (hd : s.drafts.find? h = some d) :
    Xor (h ∈ s.pending) (∃ t, s.resolved.find? h = some t) := by
  rw [hs.mem_pending_iff hd]
  cases s.resolved.find? h <;> simp [Xor]

theorem exists_draft (hs : s.Settled catalog roots) (ht : s.resolved.find? h = some t) :
    ∃ d, s.drafts.find? h = some d := by
  obtain ⟨d, hd, -⟩ := hs.resolved ht
  exact ⟨d, hd⟩

/-- Once nothing waits, all that has been drafted has been resolved. -/
theorem resolved_iff_drafted (hs : s.Settled catalog roots) (hdone : s.pending = []) :
    (∃ t, s.resolved.find? h = some t) ↔ ∃ d, s.drafts.find? h = some d := by
  refine ⟨fun ⟨_, ht⟩ ↦ hs.exists_draft ht, fun ⟨_, hd⟩ ↦ ?_⟩
  exact (hs.covered hd).resolve_left (by simp [hdone])

/-- There are no more drafts than classes to draft. -/
theorem length_le (hs : s.Settled catalog roots) {visited : List HandlerId}
    (hnodup : visited.Nodup) (hdrafted : ∀ h ∈ visited, ∃ d, s.drafts.find? h = some d) :
    visited.length ≤ catalog.classes.size := by
  have hsubset : visited ⊆ s.drafts.keys := fun h hh ↦ Table.mem_keys_iff.mpr (hdrafted h hh)
  have hlength := (List.subperm_of_subset hnodup hsubset).length_le
  rw [Table.keys, List.length_map] at hlength
  exact Nat.le_trans hlength hs.size_le

/-- A round resolves a handler type that has not been resolved before, and no other. -/
theorem round (hs : s.Settled catalog roots) (hkeyed : catalog.Keyed) {taken : List HandlerId}
    (hround : Round catalog s taken (.ok after)) :
    after.Settled catalog roots ∧ ∃ h t, taken = [h] ∧ s.resolved.find? h = none ∧
      after.resolved = s.resolved.insert h t := by
  generalize hresult : Except.ok after = result at hround
  cases hround with
  | @passed h rest t hnext hdone =>
      have hopen := hs.parted.unresolved (hnext ▸ List.mem_cons_self : h ∈ s.pending)
      rw [hdone] at hopen
      cases hopen
  | @resolved h rest t next hnext hopen hresolve =>
      obtain rfl := Except.ok.inj hresult
      have htaken := hs.toWalks.take hnext
      have hparted := hs.parted.take hnext
      have hpushed := pushed_resolve hkeyed hresolve
      have hdrafted : ∀ k u, s.resolved.find? k = some u → ∃ d, s.drafts.find? k = some d :=
        fun _ _ hu ↦ hs.exists_draft hu
      obtain ⟨p, hok, hwalks, -, hresolves⟩ | ⟨cause, hfails, -⟩ :=
        htaken.resolve hkeyed (htaken.waiting List.mem_cons_self)
      · obtain rfl := Except.ok.inj (hresolve.symm.trans hok)
        refine ⟨⟨hwalks.settle hresolves, (hparted.pushed hdrafted hpushed).settle t⟩,
          h, t, rfl, hopen, ?_⟩
        exact congrArg (·.insert h t) hpushed.resolved_eq
      · rw [hresolve] at hfails
        cases hfails
  | failed => cases hresult

/-- The handler types that rounds resolve differ, and are what has been resolved after them. -/
theorem rounds (hs : s.Settled catalog roots) (hkeyed : catalog.Keyed)
    (hstart : ∀ h, s.resolved.find? h = none) {visited : List HandlerId}
    (hrounds : Rounds catalog s visited after) :
    after.Settled catalog roots ∧ visited.Nodup ∧
      ∀ h, h ∈ visited ↔ ∃ t, after.resolved.find? h = some t := by
  generalize hlast : after = last at hrounds
  induction hrounds generalizing after with
  | none => exact ⟨hs, List.nodup_nil, by simp [hstart]⟩
  | @next visited taken mid last _ hround ih =>
      obtain ⟨hmid, hnodup, hmem⟩ := ih rfl
      obtain ⟨hlast, h, t, rfl, hopen, hresolved⟩ := hmid.round hkeyed hround
      have habsent : h ∉ visited := by simp [hmem, hopen]
      refine ⟨hlast, ?_, fun k ↦ ?_⟩
      · rw [List.nodup_append_comm]
        exact List.nodup_cons.mpr ⟨habsent, hnodup⟩
      · rw [List.mem_append, List.mem_singleton, hmem, hresolved, Table.find?_insert]
        by_cases hk : k = h <;> simp [hk]

end Settled

/-- Before the first round all roots wait, and nothing has been resolved. -/
theorem settled_draftRoots (hkeyed : catalog.Keyed) (hdraft : draftRoots catalog roots = .ok s) :
    s.Settled catalog roots ∧ ∀ h, s.resolved.find? h = none := by
  have hopen : ∀ h, s.resolved.find? h = none := by
    have hstart : start.Sound catalog roots := sound_start
    obtain ⟨drafted, hfold, -, -, hresolved, -⟩ | ⟨fault, hfold, -⟩ :=
      hstart.draftAll hkeyed fun h hroot ↦ .root hroot
    · rw [draftRoots, hfold] at hdraft
      obtain rfl := Except.ok.inj hdraft
      intro h
      change drafted.resolved.find? h = none
      rw [hresolved]
      rfl
    · rw [draftRoots, hfold] at hdraft
      cases hdraft
  obtain ⟨found, hfound, hwalks, -⟩ | ⟨fault, hfails, -⟩ := @walks_draftRoots catalog roots hkeyed
  · obtain rfl := Except.ok.inj (hdraft.symm.trans hfound)
    refine ⟨⟨hwalks, hwalks.waiting, ?_, fun _ ↦ hopen _⟩, hopen⟩
    have hpending : s.pending = s.drafts.keys.reverse := by
      unfold draftRoots at hdraft
      cases hfold : roots.foldlM (draft catalog) start with
      | error fault =>
          rw [hfold] at hdraft
          cases hdraft
      | ok drafted =>
          rw [hfold] at hdraft
          obtain rfl := Except.ok.inj hdraft
          rfl
    rw [List.nil_append, hpending, List.nodup_reverse]
    exact s.drafts.nodup
  · rw [hdraft] at hfails
    cases hfails

theorem Rounds.cons {taken visited : List HandlerId} {mid last : Loader}
    (hround : Round catalog s taken (.ok mid)) (hrounds : Rounds catalog mid visited last) :
    Rounds catalog s (taken ++ visited) last := by
  induction hrounds with
  | none => simpa using Rounds.none.next hround
  | next _ hlast ih =>
      rw [← List.append_assoc]
      exact ih.next hlast

/-- Rounds lead to where the loader ends, unless it has run out of fuel. -/
theorem exists_rounds (catalog : HandlerCatalog) (fuel : Nat) (s : Loader) :
    ∃ visited last, Rounds catalog s visited last ∧
      (last.pending = [] ∧ resolvePending catalog fuel s = .ok last ∨
        ∃ cause, resolvePending catalog fuel s = .error cause ∧
          ((∃ h, Round catalog last [h] (.error cause)) ∨ cause.fault.IsLapse)) := by
  induction fuel generalizing s with
  | zero =>
      unfold resolvePending
      cases hnext : s.pending with
      | nil => exact ⟨[], s, .none, Or.inl ⟨hnext, rfl⟩⟩
      | cons h rest => exact ⟨[], s, .none, Or.inr ⟨_, rfl, Or.inr trivial⟩⟩
  | succ fuel ih =>
      unfold resolvePending
      cases hnext : s.pending with
      | nil => exact ⟨[], s, .none, Or.inl ⟨hnext, rfl⟩⟩
      | cons h rest =>
          dsimp only
          cases hdone : s.resolved.find? h with
          | some t =>
              rw [if_pos (Table.contains_of_find?_eq_some hdone)]
              obtain ⟨visited, last, hrounds, hends⟩ := ih { s with pending := rest }
              exact ⟨_, last, hrounds.cons (.passed hnext hdone), hends⟩
          | none =>
              rw [if_neg (Table.not_contains_of_find?_eq_none hdone)]
              cases hresolve : ({ s with pending := rest } : Loader).resolve catalog h with
              | error cause =>
                  refine ⟨[], s, .none, Or.inr ⟨cause, rfl, Or.inl ⟨h, ?_⟩⟩⟩
                  exact .failed hnext hdone hresolve
              | ok p =>
                  obtain ⟨t, next⟩ := p
                  obtain ⟨visited, last, hrounds, hends⟩ :=
                    ih { next with resolved := next.resolved.insert h t }
                  exact ⟨_, last, hrounds.cons (.resolved hnext hdone hresolve), hends⟩

/-- A handler type that fails to be resolved has waited for it. -/
theorem Settled.of_failed (hs : s.Settled catalog roots) {cause : Told TemplateFault}
    (hround : Round catalog s [h] (.error cause)) :
    (∃ d, s.drafts.find? h = some d) ∧ s.resolved.find? h = none := by
  cases hround with
  | failed hnext hopen _ => exact ⟨hs.waiting (hnext ▸ List.mem_cons_self), hopen⟩

end Loader

namespace TemplateLibrary

theorem not_isLapse_of_load (hkeyed : catalog.Keyed) {cause : Told TemplateFault}
    (hload : load catalog roots = .error cause) : ¬cause.fault.IsLapse := by
  obtain ⟨library, hok, -⟩ | ⟨other, hfails, hfault⟩ := @attains_load catalog roots hkeyed
  · rw [hload] at hok
    cases hok
  · obtain rfl := Except.error.inj (hload.symm.trans hfails)
    exact hfault.not_isLapse

/-- Whatever refers to what in a catalog, the loader ends after rounds that resolve different
handler types: all that it has drafted if it succeeds, and before a round that fails at another one
if it does not. Between the rounds a handler type that has been drafted waits, or has been resolved.
The loader misses no draft that it counts on, and no URI that a draft was checked for. -/
theorem load_in_rounds {classes : List HandlerClass}
    (hcatalog : HandlerCatalog.empty.registerAll classes = .ok catalog)
    (roots : List HandlerId) :
    (∀ cause, load catalog roots = .error cause →
      (∀ h, cause.fault ≠ .unregistered h) ∧ (∀ h, cause.fault ≠ .unresolved h) ∧
        ∀ option id, cause.fault ≠ .noUri option id) ∧
    ∀ s, Loader.draftRoots catalog roots = .ok s →
      (∀ visited mid, Loader.Rounds catalog s visited mid →
        visited.Nodup ∧ visited.length ≤ catalog.classes.size ∧
          (∀ h ∈ visited, ∃ d, mid.drafts.find? h = some d) ∧
          ∀ h d, mid.drafts.find? h = some d →
            Xor (h ∈ mid.pending) (∃ t, mid.resolved.find? h = some t)) ∧
      ∃ visited last, Loader.Rounds catalog s visited last ∧
        ((last.pending = [] ∧ (∀ h, h ∈ visited ↔ ∃ d, last.drafts.find? h = some d) ∧
            load catalog roots = .ok last.library) ∨
          ∃ h cause, Loader.Round catalog last [h] (.error cause) ∧ h ∉ visited ∧
            (∃ d, last.drafts.find? h = some d) ∧ load catalog roots = .error cause) := by
  have hkeyed : catalog.Keyed := HandlerCatalog.keyed_empty.registerAll hcatalog
  refine ⟨fun cause hload ↦ ?_, fun s hdraft ↦ ?_⟩
  · have hsober := not_isLapse_of_load hkeyed hload
    refine ⟨fun h hlapse ↦ ?_, fun h hlapse ↦ ?_, fun option id hlapse ↦ ?_⟩ <;>
      exact hsober (hlapse ▸ trivial)
  obtain ⟨hsettled, hopen⟩ := Loader.settled_draftRoots hkeyed hdraft
  have hload : load catalog roots =
      (Loader.resolvePending catalog catalog.classes.size s).map Loader.library := by
    simp only [load, hdraft]
  constructor
  · intro visited mid hrounds
    obtain ⟨hmid, hnodup, hmem⟩ := hsettled.rounds hkeyed hopen hrounds
    have hdrafted : ∀ h ∈ visited, ∃ d, mid.drafts.find? h = some d := by
      intro h hh
      obtain ⟨t, ht⟩ := (hmem h).mp hh
      exact hmid.exists_draft ht
    exact ⟨hnodup, hmid.length_le hnodup hdrafted, hdrafted, fun h d ↦ hmid.waits_or_resolved⟩
  · obtain ⟨visited, last, hrounds, hends⟩ :=
      Loader.exists_rounds catalog catalog.classes.size s
    obtain ⟨hlast, -, hmem⟩ := hsettled.rounds hkeyed hopen hrounds
    refine ⟨visited, last, hrounds, ?_⟩
    obtain ⟨hdone, hok⟩ | ⟨cause, hfails, hround⟩ := hends
    · refine Or.inl ⟨hdone, fun h ↦ ?_, by rw [hload, hok]; rfl⟩
      rw [hmem, hlast.resolved_iff_drafted hdone]
    · rw [hfails] at hload
      obtain ⟨h, hround⟩ := hround.resolve_right (not_isLapse_of_load hkeyed hload)
      obtain ⟨hdrafted, hunresolved⟩ := hlast.of_failed hround
      refine Or.inr ⟨h, cause, hround, fun hh ↦ ?_, hdrafted, hload⟩
      obtain ⟨t, ht⟩ := (hmem h).mp hh
      rw [hunresolved] at ht
      cases ht

/-- Shelves and books refer to each other, and each is resolved once. -/
theorem shelves_resolved_once :
    ∃ catalog s visited last,
      HandlerCatalog.empty.registerAll shelvesOfBooks = .ok catalog ∧
      Loader.draftRoots catalog ["Shelves"] = .ok s ∧ s.pending = ["Shelves"] ∧
      Loader.Rounds catalog s visited last ∧ last.pending = [] ∧ visited.Nodup ∧
      (∀ h, h ∈ visited ↔ ∃ d, last.drafts.find? h = some d) ∧
      last.library.handlers = ["Books", "Covers", "Shelves"] := by
  obtain ⟨catalog, s, library, hcatalog, hdraft, hpending, hload, hhandlers⟩ :
      ∃ catalog s library, HandlerCatalog.empty.registerAll shelvesOfBooks = .ok catalog ∧
        Loader.draftRoots catalog ["Shelves"] = .ok s ∧ s.pending = ["Shelves"] ∧
        load catalog ["Shelves"] = .ok library ∧
        library.handlers = ["Books", "Covers", "Shelves"] := ⟨_, _, _, rfl, rfl, rfl, rfl, rfl⟩
  obtain ⟨hrounds, visited, last, hlast, hends⟩ := (load_in_rounds hcatalog ["Shelves"]).2 s hdraft
  obtain ⟨hdone, hmem, hok⟩ | ⟨h, cause, -, -, -, hfails⟩ := hends
  · obtain rfl := Except.ok.inj (hload.symm.trans hok)
    exact ⟨catalog, s, visited, last, hcatalog, hdraft, hpending, hlast, hdone,
      (hrounds visited last hlast).1, hmem, hhandlers⟩
  · rw [hload] at hfails
    cases hfails

end TemplateLibrary

end ResourceKernel
