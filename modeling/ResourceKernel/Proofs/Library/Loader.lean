import Mathlib.Data.List.Perm.Subperm
import ResourceKernel.Library.Loader
import ResourceKernel.Proofs.Library.Reach

/-!
# The walk of the loader

The loader only drafts what the roots lead to, and whatever it has drafted is resolved or will be.
So it ends with all that the roots lead to, each template resolved by drafts of the catalog, or it
fails at an obstacle. Each round takes one handler type from those that wait, and each that comes to
wait is a new draft; there are no more drafts than handler types, so the fuel is enough.
-/

namespace ResourceKernel

variable {catalog : HandlerCatalog} {roots busy : List HandlerId} {s after : Loader}
  {h : HandlerId} {d : Draft}

/-- The result is good, or an error for which the catalog gives the reason. -/
def HandlerCatalog.Attains (catalog : HandlerCatalog) (roots : List HandlerId) {ε α : Type}
    (reason : ε → TemplateFault) (good : α → Prop) (result : Except ε α) : Prop :=
  (∃ a, result = .ok a ∧ good a) ∨ ∃ e, result = .error e ∧ catalog.Obstacle roots (reason e)

theorem HandlerCatalog.Attains.imp {ε α : Type} {reason : ε → TemplateFault}
    {good better : α → Prop} {result : Except ε α} (h : catalog.Attains roots reason good result)
    (himp : ∀ a, good a → better a) : catalog.Attains roots reason better result := by
  obtain ⟨a, ha, hgood⟩ | hfails := h
  · exact Or.inl ⟨a, ha, himp a hgood⟩
  · exact Or.inr hfails

namespace Loader

/-- The handler type has been drafted, with the template identifier. -/
def Names (s : Loader) (h : HandlerId) (id : TemplateId) : Prop :=
  ∃ d, s.drafts.find? h = some d ∧ d.id = id

/-- The state with one more draft. -/
def enter (s : Loader) (d : Draft) : Loader :=
  { s with drafts := s.drafts.insert d.handler d, owners := s.owners.insert d.id d.handler }

/-- The drafts are those of handler types that the roots lead to, and the owners go with them. -/
structure Sound (catalog : HandlerCatalog) (roots : List HandlerId) (s : Loader) : Prop where
  reached {h : HandlerId} {d : Draft} : s.drafts.find? h = some d → catalog.Reaches roots h
  drafted {h : HandlerId} {d : Draft} : s.drafts.find? h = some d → catalog.DraftOf h d
  owner_iff {id : TemplateId} {h : HandlerId} : s.owners.find? id = some h ↔ s.Names h id

/-- Nothing that has been drafted is forgotten. -/
def Below (s after : Loader) : Prop :=
  ∀ h d, s.drafts.find? h = some d → after.drafts.find? h = some d

theorem Below.refl (s : Loader) : s.Below s := fun _ _ hd ↦ hd

theorem Below.trans {last : Loader} (h₁ : s.Below after) (h₂ : after.Below last) :
    s.Below last :=
  fun h d hd ↦ h₂ h d (h₁ h d hd)

theorem Names.mono {id : TemplateId} (hnames : s.Names h id) (hbelow : s.Below after) :
    after.Names h id := by
  obtain ⟨d, hd, hid⟩ := hnames
  exact ⟨d, hbelow h d hd, hid⟩

theorem below_enter (hnew : s.drafts.find? d.handler = none) : s.Below (s.enter d) := by
  intro h e he
  have hne : h ≠ d.handler := by
    rintro rfl
    rw [hnew] at he
    cases he
  change (s.drafts.insert d.handler d).find? h = some e
  rw [Table.find?_insert_ne _ _ hne, he]

theorem find?_drafts_enter (s : Loader) (d : Draft) :
    (s.enter d).drafts.find? d.handler = some d :=
  s.drafts.find?_insert_self d.handler d

/-! ## Drafting -/

theorem sound_start : start.Sound catalog roots where
  reached hd := by cases hd
  drafted hd := by cases hd
  owner_iff {id h} := by
    refine iff_of_false nofun ?_
    rintro ⟨d, hd, -⟩
    cases hd

theorem names_enter_iff (hnew : s.drafts.find? d.handler = none) {id : TemplateId} :
    (s.enter d).Names h id ↔ h = d.handler ∧ id = d.id ∨ s.Names h id := by
  have hfind : (s.enter d).drafts.find? h = if h = d.handler then some d else s.drafts.find? h :=
    s.drafts.find?_insert d.handler h d
  rw [Names, hfind]
  by_cases hh : h = d.handler
  · simp [Names, hh, hnew, eq_comm]
  · simp [Names, hh]

theorem Sound.enter (hs : s.Sound catalog roots) (hreach : catalog.Reaches roots d.handler)
    (hd : catalog.DraftOf d.handler d) (hnew : s.drafts.find? d.handler = none)
    (hfree : s.owners.find? d.id = none) : (s.enter d).Sound catalog roots := by
  have hfind (k : HandlerId) : (s.enter d).drafts.find? k =
      if k = d.handler then some d else s.drafts.find? k :=
    s.drafts.find?_insert d.handler k d
  refine ⟨fun {k e} he ↦ ?_, fun {k e} he ↦ ?_, fun {id k} ↦ ?_⟩
  · rw [hfind] at he
    split at he
    · next hk => exact hk ▸ hreach
    · exact hs.reached he
  · rw [hfind] at he
    split at he
    · next hk =>
      obtain rfl := Option.some.inj he
      exact hk ▸ hd
    · exact hs.drafted he
  · have howner : (s.enter d).owners.find? id =
        if id = d.id then some d.handler else s.owners.find? id :=
      s.owners.find?_insert d.id id d.handler
    rw [howner, names_enter_iff hnew, ← hs.owner_iff]
    by_cases hid : id = d.id
    · simp [hid, hfree, eq_comm]
    · simp [hid]

/-- What a handler type that has been asked for makes of the state. -/
inductive Entered (s : Loader) (h : HandlerId) : Loader → Prop
  | known {d : Draft} (hd : s.drafts.find? h = some d) : Entered s h s
  | new {d : Draft} (hnew : s.drafts.find? h = none) (hd : d.handler = h) :
      Entered s h (s.enter d)

theorem Entered.below (hentered : s.Entered h after) : s.Below after := by
  cases hentered with
  | known => exact .refl s
  | new hnew hd => exact below_enter (hd ▸ hnew)

theorem Entered.exists_draft (hentered : s.Entered h after) :
    ∃ d, after.drafts.find? h = some d := by
  cases hentered with
  | known hd => exact ⟨_, hd⟩
  | @new d hnew hd => exact ⟨d, hd ▸ s.find?_drafts_enter d⟩

theorem Entered.resolved (hentered : s.Entered h after) : after.resolved = s.resolved := by
  cases hentered <;> rfl

theorem Sound.keep (hs : s.Sound catalog roots) (hreach : catalog.Reaches roots d.handler)
    (hd : catalog.DraftOf d.handler d) (hnew : s.drafts.find? d.handler = none) :
    catalog.Attains roots id
      (fun after ↦ after.Sound catalog roots ∧ s.Entered d.handler after) (s.keep d) := by
  unfold Loader.keep
  cases howner : s.owners.find? d.id with
  | none => exact Or.inl ⟨s.enter d, rfl, hs.enter hreach hd hnew howner, .new hnew rfl⟩
  | some k =>
      obtain ⟨e, he, hid⟩ := hs.owner_iff.mp howner
      have hne : k ≠ d.handler := by
        rintro rfl
        rw [hnew] at he
        cases he
      exact Or.inr ⟨_, rfl, .shared hne (hs.reached he) hreach (hs.drafted he) hd hid⟩

theorem Sound.draft (hs : s.Sound catalog roots) (hkeyed : catalog.Keyed)
    (hreach : catalog.Reaches roots h) :
    catalog.Attains roots id (fun after ↦ after.Sound catalog roots ∧ s.Entered h after)
      (s.draft catalog h) := by
  unfold Loader.draft
  cases hfound : s.drafts.find? h with
  | some d =>
      rw [if_pos (Table.contains_of_find?_eq_some hfound)]
      exact Or.inl ⟨s, rfl, hs, .known hfound⟩
  | none =>
      rw [if_neg (Table.not_contains_of_find?_eq_none hfound)]
      cases hc : catalog.find? h with
      | none => exact Or.inr ⟨_, rfl, .missing hreach hc⟩
      | some c =>
          cases hdraft : Draft.ofClass c with
          | error fault =>
              simp only [hdraft]
              exact Or.inr ⟨fault, rfl, .illFormed hreach hc hdraft⟩
          | ok d =>
              have hd : catalog.DraftOf h d := ⟨c, hc, Draft.ofClass_eq_ok_iff_drafts.mp hdraft⟩
              obtain rfl := hd.handler_eq hkeyed
              simp only [hdraft]
              exact hs.keep hreach hd hfound

/-- Drafting all of a list. -/
theorem Sound.draftAll (hs : s.Sound catalog roots) (hkeyed : catalog.Keyed)
    {handlers : List HandlerId} (hreach : ∀ h ∈ handlers, catalog.Reaches roots h) :
    catalog.Attains roots id
      (fun after ↦ after.Sound catalog roots ∧ s.Below after ∧ after.resolved = s.resolved ∧
        ∀ h ∈ handlers, ∃ d, after.drafts.find? h = some d)
      (handlers.foldlM (Loader.draft catalog) s) := by
  induction handlers generalizing s with
  | nil => exact Or.inl ⟨s, rfl, hs, .refl s, rfl, nofun⟩
  | cons h rest ih =>
      obtain ⟨hfirst, hrest⟩ := List.forall_mem_cons.mp hreach
      rw [List.foldlM_cons]
      obtain ⟨next, hdraft, hnext, hentered⟩ | ⟨fault, hdraft, hfault⟩ := hs.draft hkeyed hfirst
      · rw [hdraft]
        refine (ih hnext hrest).imp fun last ⟨hlast, hbelow, hresolved, hall⟩ ↦ ?_
        obtain ⟨d, hd⟩ := hentered.exists_draft
        exact ⟨hlast, hentered.below.trans hbelow, hresolved.trans hentered.resolved,
          List.forall_mem_cons.mpr ⟨⟨d, hbelow h d hd⟩, hall⟩⟩
      · rw [hdraft]
        exact Or.inr ⟨fault, rfl, hfault⟩

/-! ## Templates of drafts -/

/-- The slot is that of the draft, with the template of the handler type that it is for. -/
structure Links (s : Loader) (a : DraftSlot) (b : Slot) : Prop where
  id : b.id = a.id
  path : b.path = a.path
  predicate : b.predicate = a.predicate
  target : s.Names a.handler b.template

structure Forms (s : Loader) (d : Draft) (f : TemplateForm) : Prop where
  kind : f.kind = d.kind
  members {m : MemberSettings} : f.members? = some m →
    ∃ h, d.memberHandler = some h ∧ s.Names h m.template ∧ m.path = d.memberPath
  membership : f.membership? = d.membership
  inserted : f.insertedContentRelation? = d.insertedContentRelation

/-- The template says what the draft says, and its references lead to other drafts. -/
structure Resolves (s : Loader) (d : Draft) (t : Template) : Prop where
  id : t.id = d.id
  handler : t.handler = d.handler
  name : t.name = d.name
  description : t.description = d.description
  slots : List.Forall₂ s.Links d.slots t.slots
  form : s.Forms d t.form

theorem Links.mono {a : DraftSlot} {b : Slot} (hlinks : s.Links a b) (hbelow : s.Below after) :
    after.Links a b :=
  ⟨hlinks.id, hlinks.path, hlinks.predicate, hlinks.target.mono hbelow⟩

theorem Forms.mono {f : TemplateForm} (hforms : s.Forms d f) (hbelow : s.Below after) :
    after.Forms d f where
  kind := hforms.kind
  members hm := by
    obtain ⟨h, hh, hnames, hpath⟩ := hforms.members hm
    exact ⟨h, hh, hnames.mono hbelow, hpath⟩
  membership := hforms.membership
  inserted := hforms.inserted

theorem Resolves.mono {t : Template} (hresolves : s.Resolves d t) (hbelow : s.Below after) :
    after.Resolves d t where
  id := hresolves.id
  handler := hresolves.handler
  name := hresolves.name
  description := hresolves.description
  slots := hresolves.slots.imp fun _ _ hlinks ↦ hlinks.mono hbelow
  form := hresolves.form.mono hbelow

/-- All that the draft refers to has been drafted. -/
theorem Resolves.exists_draft {t : Template} {k : HandlerId} (hresolves : s.Resolves d t)
    (hd : catalog.DraftOf h d) (hk : k ∈ d.references) : ∃ e, s.drafts.find? k = some e := by
  obtain ⟨c, -, hdrafts⟩ := hd
  rw [Draft.references, List.mem_append, List.mem_map, Option.mem_toList] at hk
  obtain ⟨a, ha, rfl⟩ | hmember := hk
  · obtain ⟨b, -, hlinks⟩ := exists_of_forall₂ hresolves.slots ha
    obtain ⟨e, he, -⟩ := hlinks.target
    exact ⟨e, he⟩
  · have hkind : d.kind.isContainer = true := by
      by_contra hplain
      rw [hdrafts.memberHandler, if_neg hplain] at hmember
      cases hmember
    rw [← hresolves.form.kind, ← TemplateForm.isSome_members?, Option.isSome_iff_exists] at hkind
    obtain ⟨m, hm⟩ := hkind
    obtain ⟨l, hl, ⟨e, he, -⟩, -⟩ := hresolves.form.members hm
    obtain rfl := Option.some.inj (hl.symm.trans hmember)
    exact ⟨e, he⟩

/-! ## Resolving -/

/-- What the loader knows as long as it runs: all roots have been drafted, and whatever has been
drafted waits, or is being resolved, or has been. -/
structure Walks (catalog : HandlerCatalog) (roots busy : List HandlerId) (s : Loader) : Prop
    extends Sound catalog roots s where
  roots {h : HandlerId} : h ∈ roots → ∃ d, s.drafts.find? h = some d
  covered {h : HandlerId} {d : Draft} : s.drafts.find? h = some d →
    h ∈ busy ++ s.pending ∨ ∃ t, s.resolved.find? h = some t
  waiting {h : HandlerId} : h ∈ busy ++ s.pending → ∃ d, s.drafts.find? h = some d
  resolved {h : HandlerId} {t : Template} : s.resolved.find? h = some t →
    ∃ d, s.drafts.find? h = some d ∧ s.Resolves d t

/-- Whatever is drafted comes to wait, and nothing is resolved. -/
structure Grows (s after : Loader) : Prop where
  below : s.Below after
  pending : s.pending.length + after.drafts.size = after.pending.length + s.drafts.size

theorem Grows.refl (s : Loader) : s.Grows s := ⟨.refl s, rfl⟩

theorem Grows.trans {last : Loader} (h₁ : s.Grows after) (h₂ : after.Grows last) :
    s.Grows last := by
  refine ⟨h₁.below.trans h₂.below, ?_⟩
  have hfirst := h₁.pending
  have hsecond := h₂.pending
  omega

/-- A draft that waits to be resolved before all others. -/
def push (s : Loader) (d : Draft) : Loader :=
  { s.enter d with pending := d.handler :: s.pending }

theorem grows_push (hnew : s.drafts.find? d.handler = none) : s.Grows (s.push d) := by
  refine ⟨below_enter hnew, ?_⟩
  have hsize : (s.push d).drafts.size = s.drafts.size + 1 := Table.size_insert_of_none hnew d
  have hlength : (s.push d).pending.length = s.pending.length + 1 := rfl
  omega

theorem Walks.push (hs : s.Walks catalog roots busy) (hnew : s.drafts.find? d.handler = none)
    (hsound : (s.enter d).Sound catalog roots) : (s.push d).Walks catalog roots busy := by
  have hbelow : s.Below (s.push d) := below_enter hnew
  have hfind (k : HandlerId) : (s.push d).drafts.find? k =
      if k = d.handler then some d else s.drafts.find? k :=
    s.drafts.find?_insert d.handler k d
  have hpending (k : HandlerId) : k ∈ busy ++ (s.push d).pending ↔
      k = d.handler ∨ k ∈ busy ++ s.pending := by
    change k ∈ busy ++ d.handler :: s.pending ↔ _
    simp only [List.mem_append, List.mem_cons]
    exact or_left_comm
  refine ⟨⟨hsound.reached, hsound.drafted, hsound.owner_iff⟩, fun hh ↦ ?_, fun {k e} he ↦ ?_,
    fun {k} hk ↦ ?_, fun {k t} ht ↦ ?_⟩
  · obtain ⟨e, he⟩ := hs.roots hh
    exact ⟨e, hbelow _ e he⟩
  · rw [hpending]
    rw [hfind] at he
    split at he
    · next hk => exact Or.inl (Or.inl hk)
    · obtain hwaits | hresolved := hs.covered he
      · exact Or.inl (Or.inr hwaits)
      · exact Or.inr hresolved
  · obtain hk | hk := (hpending k).mp hk
    · exact ⟨d, by rw [hfind, if_pos hk]⟩
    · obtain ⟨e, he⟩ := hs.waiting hk
      exact ⟨e, hbelow k e he⟩
  · obtain ⟨e, he, hresolves⟩ := hs.resolved ht
    exact ⟨e, hbelow k e he, hresolves.mono hbelow⟩

theorem refer_of_known (hd : s.drafts.find? h = some d) : s.refer catalog h = .ok (d.id, s) := by
  unfold refer
  rw [if_pos (Table.contains_of_find?_eq_some hd)]
  simp only [hd]

theorem refer_of_new (hnew : s.drafts.find? d.handler = none)
    (hdraft : s.draft catalog d.handler = .ok (s.enter d)) :
    s.refer catalog d.handler = .ok (d.id, s.push d) := by
  have hpush : ({ s.enter d with pending := d.handler :: (s.enter d).pending } : Loader) =
      s.push d := rfl
  have hfind : (s.push d).drafts.find? d.handler = some d := s.find?_drafts_enter d
  unfold refer
  rw [if_neg (Table.not_contains_of_find?_eq_none hnew)]
  simp only [hdraft, Except.map, hpush, hfind]

theorem refer_of_error {fault : TemplateFault} (hnew : s.drafts.find? h = none)
    (hdraft : s.draft catalog h = .error fault) : s.refer catalog h = .error fault := by
  unfold refer
  rw [if_neg (Table.not_contains_of_find?_eq_none hnew), hdraft]
  rfl

theorem Walks.refer (hs : s.Walks catalog roots busy) (hkeyed : catalog.Keyed)
    (hreach : catalog.Reaches roots h) :
    catalog.Attains roots id
      (fun p ↦ p.2.Walks catalog roots busy ∧ s.Grows p.2 ∧ p.2.Names h p.1)
      (s.refer catalog h) := by
  cases hfound : s.drafts.find? h with
  | some d => exact Or.inl ⟨_, refer_of_known hfound, hs, .refl s, d, hfound, rfl⟩
  | none =>
      obtain ⟨next, hdraft, hsound, hentered⟩ | ⟨fault, hdraft, hfault⟩ := hs.draft hkeyed hreach
      · cases hentered with
        | known hd =>
            rw [hfound] at hd
            cases hd
        | @new d _ hd =>
            obtain rfl := hd
            have hdrafted : (s.push d).drafts.find? d.handler = some d := s.find?_drafts_enter d
            exact Or.inl ⟨_, refer_of_new hfound hdraft, hs.push hfound hsound, grows_push hfound,
              d, hdrafted, rfl⟩
      · exact Or.inr ⟨fault, refer_of_error hfound hdraft, hfault⟩

theorem Walks.referSlots (hs : s.Walks catalog roots busy) (hkeyed : catalog.Keyed)
    (template : TemplateId) {slots : List DraftSlot}
    (hreach : ∀ a ∈ slots, catalog.Reaches roots a.handler) :
    catalog.Attains roots Told.fault
      (fun p ↦ p.2.Walks catalog roots busy ∧ s.Grows p.2 ∧ List.Forall₂ p.2.Links slots p.1)
      (Loader.referSlots catalog template s slots) := by
  induction slots generalizing s with
  | nil => exact Or.inl ⟨_, rfl, hs, .refl s, .nil⟩
  | cons a rest ih =>
      obtain ⟨hfirst, hrest⟩ := List.forall_mem_cons.mp hreach
      unfold Loader.referSlots
      obtain ⟨⟨target, next⟩, hrefer, hnext, hgrows, hnames⟩ | ⟨fault, hrefer, hfault⟩ :=
        hs.refer hkeyed hfirst
      · simp only [hrefer]
        obtain ⟨⟨later, last⟩, hslots, hlast, hgrows', hlinks⟩ | ⟨cause, hslots, hcause⟩ :=
          ih hnext hrest
        · simp only [hslots]
          have hlink : last.Links a ⟨a.id, a.path, target, a.predicate⟩ :=
            ⟨rfl, rfl, rfl, hnames.mono hgrows'.below⟩
          exact Or.inl ⟨_, rfl, hlast, hgrows.trans hgrows', .cons hlink hlinks⟩
        · simp only [hslots]
          exact Or.inr ⟨cause, rfl, hcause⟩
      · simp only [hrefer]
        exact Or.inr ⟨_, rfl, hfault⟩

/-- A draft that is made of a handler type has all that a template of its kind needs. -/
theorem containerForm_eq_ok {c : HandlerClass} (hd : d.Drafts c) (hkind : d.kind ≠ .resource)
    (members : MemberSettings) :
    ∃ f, containerForm d members = .ok f ∧ f.kind = d.kind ∧ f.members? = some members ∧
      f.membership? = d.membership ∧ f.insertedContentRelation? = d.insertedContentRelation := by
  have hrelates := hd.membership.isSome_iff
  have hinserts := hd.inserted.isSome_iff
  unfold containerForm
  cases hk : d.kind with
  | resource => exact absurd hk hkind
  | container =>
      have hm : d.membership = none := by simpa [hk, TemplateKind.isMembershipAware] using hrelates
      have hu : d.insertedContentRelation = none := by simpa [hk] using hinserts
      exact ⟨.container members, rfl, rfl, rfl, hm.symm, hu.symm⟩
  | basicContainer =>
      have hm : d.membership = none := by simpa [hk, TemplateKind.isMembershipAware] using hrelates
      have hu : d.insertedContentRelation = none := by simpa [hk] using hinserts
      exact ⟨.basicContainer members, rfl, rfl, rfl, hm.symm, hu.symm⟩
  | directContainer =>
      have hsome : d.membership.isSome = true := by rw [hrelates, hk]; rfl
      obtain ⟨m, hm⟩ := Option.isSome_iff_exists.mp hsome
      have hu : d.insertedContentRelation = none := by simpa [hk] using hinserts
      exact ⟨.directContainer members m, by simp only [hm], rfl, rfl, hm.symm, hu.symm⟩
  | indirectContainer =>
      have hsome : d.membership.isSome = true := by rw [hrelates, hk]; rfl
      obtain ⟨m, hm⟩ := Option.isSome_iff_exists.mp hsome
      obtain ⟨u, hu⟩ := Option.isSome_iff_exists.mp (hinserts.mpr hk)
      exact ⟨.indirectContainer members m u, by simp only [hm, hu], rfl, rfl, hm.symm, hu.symm⟩

theorem Walks.referMembers (hs : s.Walks catalog roots busy) (hkeyed : catalog.Keyed)
    (hreach : catalog.Reaches roots h) (hd : catalog.DraftOf h d)
    (hkind : d.kind.isContainer = true) :
    catalog.Attains roots Told.fault
      (fun p ↦ p.2.Walks catalog roots busy ∧ s.Grows p.2 ∧ ∃ k, d.memberHandler = some k ∧
        p.2.Names k p.1.template ∧ p.1.path = d.memberPath)
      (s.referMembers catalog d) := by
  unfold Loader.referMembers
  cases hmember : d.memberHandler with
  | none => exact Or.inr ⟨_, rfl, .memberless hreach hd hkind hmember⟩
  | some k =>
      have hk : k ∈ d.references := by simp [Draft.references, hmember]
      obtain ⟨⟨target, next⟩, hrefer, hnext, hgrows, hnames⟩ | ⟨fault, hrefer, hfault⟩ :=
        hs.refer hkeyed (hd.reaches hreach hk)
      · simp only [hrefer]
        exact Or.inl ⟨_, rfl, hnext, hgrows, k, rfl, hnames, rfl⟩
      · simp only [hrefer]
        exact Or.inr ⟨_, rfl, hfault⟩

theorem Walks.form (hs : s.Walks catalog roots busy) (hkeyed : catalog.Keyed)
    (hreach : catalog.Reaches roots h) (hd : catalog.DraftOf h d) :
    catalog.Attains roots Told.fault
      (fun p ↦ p.2.Walks catalog roots busy ∧ s.Grows p.2 ∧ p.2.Forms d p.1)
      (s.form catalog d) := by
  obtain ⟨c, hc, hdrafts⟩ := hd
  unfold Loader.form
  by_cases hkind : d.kind = .resource
  · have hm : d.membership = none := by
      simpa [hkind, TemplateKind.isMembershipAware] using hdrafts.membership.isSome_iff
    have hu : d.insertedContentRelation = none := by
      simpa [hkind] using hdrafts.inserted.isSome_iff
    rw [if_pos hkind]
    exact Or.inl ⟨_, rfl, hs, .refl s, hkind.symm, nofun, hm.symm, hu.symm⟩
  · have hcontainer : d.kind.isContainer = true := by simpa [TemplateKind.isContainer] using hkind
    rw [if_neg hkind]
    obtain ⟨⟨members, next⟩, hrefer, hnext, hgrows, k, hk, hnames, hpath⟩ |
        ⟨cause, hrefer, hcause⟩ := hs.referMembers hkeyed hreach ⟨c, hc, hdrafts⟩ hcontainer
    · obtain ⟨f, hf, hfkind, hfmembers, hfmembership, hfinserted⟩ :=
        containerForm_eq_ok hdrafts hkind members
      simp only [hrefer, hf]
      refine Or.inl ⟨_, rfl, hnext, hgrows, hfkind, fun {m} hm ↦ ?_, hfmembership, hfinserted⟩
      obtain rfl := Option.some.inj (hfmembers.symm.trans hm)
      exact ⟨k, hk, hnames, hpath⟩
    · simp only [hrefer]
      exact Or.inr ⟨cause, rfl, hcause⟩

theorem Walks.resolve (hs : s.Walks catalog roots busy) (hkeyed : catalog.Keyed)
    (hdrafted : ∃ d, s.drafts.find? h = some d) :
    catalog.Attains roots Told.fault
      (fun p ↦ p.2.Walks catalog roots busy ∧ s.Grows p.2 ∧
        ∃ d, p.2.drafts.find? h = some d ∧ p.2.Resolves d p.1)
      (s.resolve catalog h) := by
  obtain ⟨d, hfound⟩ := hdrafted
  have hreach := hs.reached hfound
  have hd := hs.drafted hfound
  have hslot : ∀ a ∈ d.slots, catalog.Reaches roots a.handler := by
    intro a ha
    have hk : a.handler ∈ d.references := by
      rw [Draft.references, List.mem_append, List.mem_map]
      exact Or.inl ⟨a, ha, rfl⟩
    exact hd.reaches hreach hk
  unfold Loader.resolve
  simp only [hfound]
  obtain ⟨⟨slots, next⟩, hslots, hnext, hgrows, hlinks⟩ | ⟨cause, hslots, hcause⟩ :=
    hs.referSlots hkeyed d.id hslot
  · simp only [hslots]
    obtain ⟨⟨form, last⟩, hform, hlast, hgrows', hforms⟩ | ⟨cause, hform, hcause⟩ :=
      hnext.form hkeyed hreach hd
    · simp only [hform]
      have hfound' := hgrows'.below h d (hgrows.below h d hfound)
      have hlinks' := hlinks.imp fun _ _ hlink ↦ hlink.mono hgrows'.below
      exact Or.inl ⟨_, rfl, hlast, hgrows.trans hgrows', d, hfound', rfl, rfl, rfl, rfl, hlinks',
        hforms⟩
    · simp only [hform]
      exact Or.inr ⟨cause, rfl, hcause⟩
  · simp only [hslots]
    exact Or.inr ⟨cause, rfl, hcause⟩

/-! ## The loop -/

/-- There are no more drafts than handler types. -/
theorem Sound.size_le (hs : s.Sound catalog roots) : s.drafts.size ≤ catalog.classes.size := by
  have hsubset : s.drafts.keys ⊆ catalog.classes.keys := by
    intro h hh
    obtain ⟨d, hd⟩ := Table.mem_keys_iff.mp hh
    obtain ⟨c, hc, -⟩ := hs.drafted hd
    exact Table.mem_keys_iff.mpr ⟨c, hc⟩
  have hlength := (List.subperm_of_subset s.drafts.nodup hsubset).length_le
  simpa only [Table.keys, Table.size, List.length_map] using hlength

theorem Walks.take {rest : List HandlerId} (hs : s.Walks catalog roots [])
    (hpending : s.pending = h :: rest) :
    ({ s with pending := rest } : Loader).Walks catalog roots [h] where
  reached := hs.reached
  drafted := hs.drafted
  owner_iff := hs.owner_iff
  roots := hs.roots
  covered hd := by
    have hcovered := hs.covered hd
    rwa [hpending] at hcovered
  waiting hk := by
    apply hs.waiting
    rwa [hpending]
  resolved ht := by
    obtain ⟨d, hd, hresolves⟩ := hs.resolved ht
    exact ⟨d, hd, hresolves.mono fun _ _ he ↦ he⟩

theorem Walks.settle {t : Template} (hs : s.Walks catalog roots [h])
    (hdrafted : ∃ d, s.drafts.find? h = some d ∧ s.Resolves d t) :
    ({ s with resolved := s.resolved.insert h t } : Loader).Walks catalog roots [] := by
  have hfind (k : HandlerId) := s.resolved.find?_insert h k t
  have hbelow : s.Below { s with resolved := s.resolved.insert h t } := fun _ _ he ↦ he
  refine ⟨⟨hs.reached, hs.drafted, hs.owner_iff⟩, hs.roots, fun {k e} he ↦ ?_,
    fun hk ↦ hs.waiting (List.mem_cons_of_mem h hk), fun {k t'} ht ↦ ?_⟩
  · rw [hfind]
    by_cases hk : k = h
    · exact Or.inr ⟨t, if_pos hk⟩
    · rw [if_neg hk]
      obtain hwaits | hresolved := hs.covered he
      · exact Or.inl ((List.mem_cons.mp hwaits).resolve_left hk)
      · exact Or.inr hresolved
  · rw [hfind] at ht
    split at ht
    · next hk =>
      obtain rfl := Option.some.inj ht
      obtain ⟨d, hd, hresolves⟩ := hdrafted
      exact ⟨d, hk ▸ hd, hresolves.mono hbelow⟩
    · obtain ⟨d, hd, hresolves⟩ := hs.resolved ht
      exact ⟨d, hd, hresolves.mono hbelow⟩

/-- A handler type that has been resolved before need not wait again. -/
theorem Walks.skip (hs : s.Walks catalog roots [h]) (hresolved : ∃ t, s.resolved.find? h = some t) :
    s.Walks catalog roots [] where
  reached := hs.reached
  drafted := hs.drafted
  owner_iff := hs.owner_iff
  roots := hs.roots
  covered {k e} he := by
    obtain hwaits | hdone := hs.covered he
    · obtain rfl | hwaits := List.mem_cons.mp hwaits
      · exact Or.inr hresolved
      · exact Or.inl hwaits
    · exact Or.inr hdone
  waiting hk := hs.waiting (List.mem_cons_of_mem h hk)
  resolved := hs.resolved

/-- Each round takes one handler type from those that wait, and what comes to wait is drafted. So
the handler types that wait and those that are not drafted yet are fewer after each round. -/
theorem Walks.resolvePending (hkeyed : catalog.Keyed) {fuel : Nat}
    (hs : s.Walks catalog roots [])
    (hfuel : s.pending.length + catalog.classes.size ≤ fuel + s.drafts.size) :
    catalog.Attains roots Told.fault
      (fun after ↦ after.Walks catalog roots [] ∧ after.pending = [])
      (Loader.resolvePending catalog fuel s) := by
  induction fuel generalizing s with
  | zero =>
      have hsize := hs.size_le
      have hempty : s.pending = [] := List.length_eq_zero_iff.mp (by omega)
      unfold Loader.resolvePending
      simp only [hempty]
      exact Or.inl ⟨s, rfl, hs, hempty⟩
  | succ fuel ih =>
      unfold Loader.resolvePending
      cases hpending : s.pending with
      | nil => exact Or.inl ⟨s, rfl, hs, hpending⟩
      | cons h rest =>
          have htaken := hs.take hpending
          have hlength : s.pending.length = rest.length + 1 := by rw [hpending, List.length_cons]
          simp only
          cases hfound : s.resolved.find? h with
          | some t =>
              rw [if_pos (Table.contains_of_find?_eq_some hfound)]
              apply ih (htaken.skip ⟨t, hfound⟩)
              change rest.length + catalog.classes.size ≤ fuel + s.drafts.size
              omega
          | none =>
              rw [if_neg (Table.not_contains_of_find?_eq_none hfound)]
              obtain ⟨⟨t, next⟩, hresolve, hnext, hgrows, hdrafted⟩ | ⟨cause, hresolve, hcause⟩ :=
                htaken.resolve hkeyed (htaken.waiting List.mem_cons_self)
              · have hpushed : rest.length + next.drafts.size =
                    next.pending.length + s.drafts.size := hgrows.pending
                rw [hresolve]
                apply ih (hnext.settle hdrafted)
                change next.pending.length + catalog.classes.size ≤ fuel + next.drafts.size
                omega
              · rw [hresolve]
                exact Or.inr ⟨cause, rfl, hcause⟩

/-- Drafting the roots leaves them, and no others, waiting. -/
theorem walks_draftRoots (hkeyed : catalog.Keyed) :
    catalog.Attains roots id
      (fun s ↦ s.Walks catalog roots [] ∧ s.pending.length = s.drafts.size)
      (draftRoots catalog roots) := by
  have hstart : start.Sound catalog roots := sound_start
  have hreach : ∀ h ∈ roots, catalog.Reaches roots h := fun h hroot ↦ .root hroot
  unfold draftRoots
  obtain ⟨s, hfold, hs, -, hresolved, hroots⟩ | ⟨fault, hfold, hfault⟩ :=
    hstart.draftAll hkeyed hreach
  · have hwaiting (h : HandlerId) : h ∈ s.drafts.keys.reverse ↔ ∃ d, s.drafts.find? h = some d := by
      rw [List.mem_reverse, Table.mem_keys_iff]
    rw [hfold]
    refine Or.inl ⟨_, rfl, ⟨⟨hs.reached, hs.drafted, hs.owner_iff⟩, fun {h} hroot ↦ hroots h hroot,
      fun {h d} hd ↦ Or.inl ((hwaiting h).mpr ⟨d, hd⟩), fun {h} hh ↦ (hwaiting h).mp hh,
      fun {h t} ht ↦ ?_⟩, ?_⟩
    · change s.resolved.find? h = some t at ht
      rw [hresolved] at ht
      cases ht
    · simp [Table.keys, Table.size]
  · rw [hfold]
    exact Or.inr ⟨fault, rfl, hfault⟩

end Loader

/-- Loading ends with nothing left to resolve, or at an obstacle. -/
theorem TemplateLibrary.attains_load (hkeyed : catalog.Keyed) :
    catalog.Attains roots Told.fault
      (fun library ↦ ∃ s : Loader, s.Walks catalog roots [] ∧ s.pending = [] ∧ library = s.library)
      (load catalog roots) := by
  unfold load
  obtain ⟨s, hdraft, hs, hlength⟩ | ⟨fault, hdraft, hfault⟩ :=
    @Loader.walks_draftRoots catalog roots hkeyed
  · have hfuel : s.pending.length + catalog.classes.size ≤
        catalog.classes.size + s.drafts.size := by omega
    simp only [hdraft]
    obtain ⟨after, hresolve, hafter, hempty⟩ | ⟨cause, hresolve, hcause⟩ :=
      hs.resolvePending hkeyed hfuel
    · rw [hresolve]
      exact Or.inl ⟨after.library, rfl, after, hafter, hempty, rfl⟩
    · rw [hresolve]
      exact Or.inr ⟨cause, rfl, hcause⟩
  · simp only [hdraft]
    exact Or.inr ⟨_, rfl, hfault⟩

end ResourceKernel
