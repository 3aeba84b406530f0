import Mathlib.Data.List.Forall2
import Mathlib.Data.List.Nodup
import ResourceKernel.Library.Draft

/-!
# What has a draft

A handler type has a draft just when it is well-formed: it has one mark, the capability that a
container needs, an identifier, sound attachments, and the URIs that its kind requires. The draft
says what the handler type says, with the URIs read.
-/

namespace ResourceKernel

section Forall₂

variable {α β γ : Type} {R : α → β → Prop} {xs : List α} {ys : List β}

theorem exists_of_forall₂ (h : List.Forall₂ R xs ys) {x : α} (hx : x ∈ xs) :
    ∃ y ∈ ys, R x y := by
  induction h with
  | nil => cases hx
  | @cons x' y xs ys hxy _ ih =>
      obtain rfl | hx := List.mem_cons.mp hx
      · exact ⟨y, List.mem_cons_self, hxy⟩
      · obtain ⟨y', hy', hrelated⟩ := ih hx
        exact ⟨y', List.mem_cons_of_mem y hy', hrelated⟩

theorem map_eq_of_forall₂ (h : List.Forall₂ R xs ys) {f : α → γ} {g : β → γ}
    (hfg : ∀ x y, R x y → g y = f x) : ys.map g = xs.map f := by
  induction h with
  | nil => rfl
  | cons hxy _ ih => rw [List.map_cons, List.map_cons, hfg _ _ hxy, ih]

end Forall₂

/-- The text, without white space around it, is that of the absolute hierarchical URI. -/
def Uri.StandsIn (u : Uri) (raw : String) : Prop :=
  Uri.ofText (Text.trim raw) = .ok u ∧ u.isRootless = false

structure AttachmentOption.WellFormed (a : AttachmentOption) : Prop where
  id : Text.isBlankText a.id = false
  path : Text.isBlankText a.path = false
  predicate (raw : String) : a.predicate = some raw → ∃ u : Uri, u.StandsIn raw

/-- What the options say about membership, for a template of the kind. -/
def TemplateOptions.Relates (o : TemplateOptions) (kind : TemplateKind) :
    Option Membership → Prop
  | none => kind.isMembershipAware = false
  | some m => kind.isMembershipAware = true ∧
      (∃ raw, o.membershipPredicate = some raw ∧ m.predicate.StandsIn raw) ∧
      m.relation = o.membershipRelation.getD .hasMember

/-- What the options say about inserted content, for a template of the kind. -/
def TemplateOptions.Inserts (o : TemplateOptions) (kind : TemplateKind) : Option Uri → Prop
  | none => kind ≠ .indirectContainer
  | some u => kind = .indirectContainer ∧
      ∃ raw, o.insertedContentRelation = some raw ∧ u.StandsIn raw

theorem TemplateOptions.Relates.isSome_iff {o : TemplateOptions} {kind : TemplateKind}
    {m : Option Membership} (h : o.Relates kind m) :
    m.isSome = true ↔ kind.isMembershipAware = true := by
  cases m with
  | none =>
      have haware : kind.isMembershipAware = false := h
      simp [haware]
  | some m => simp [h.1]

theorem TemplateOptions.Inserts.isSome_iff {o : TemplateOptions} {kind : TemplateKind}
    {u : Option Uri} (h : o.Inserts kind u) : u.isSome = true ↔ kind = .indirectContainer := by
  cases u with
  | none =>
      have hkind : kind ≠ .indirectContainer := h
      simp [hkind]
  | some u => simp [h.1]

namespace HandlerClass

def templateId (c : HandlerClass) : TemplateId := Text.trim c.options.id

/-- The handler types of the attachments and, for a container, of the members. -/
def references (c : HandlerClass) : List HandlerId :=
  c.options.attachments.map (·.handler) ++
    if c.markers.any TemplateKind.isContainer then c.options.memberHandler.toList else []

/-- What a handler type has to say for a template of the kind, whatever the others say. -/
structure WellFormed (c : HandlerClass) (kind : TemplateKind) : Prop where
  marker : c.markers = [kind]
  capable : kind.isContainer = true → c.capabilities.has .container = true
  id_ne : c.templateId ≠ ""
  attachment (a : AttachmentOption) : a ∈ c.options.attachments → a.WellFormed
  nodup_ids : (c.options.attachments.map (·.id)).Nodup
  nodup_paths : (c.options.attachments.map (·.path)).Nodup
  membership : kind.isMembershipAware = true →
    ∃ raw, c.options.membershipPredicate = some raw ∧ ∃ u : Uri, u.StandsIn raw
  inserted : kind = .indirectContainer →
    ∃ raw, c.options.insertedContentRelation = some raw ∧ ∃ u : Uri, u.StandsIn raw

end HandlerClass

structure DraftSlot.Drafts (s : DraftSlot) (a : AttachmentOption) : Prop where
  id : s.id = a.id
  path : s.path = a.path
  handler : s.handler = a.handler
  predicate : Option.Rel (fun raw (u : Uri) ↦ u.StandsIn raw) a.predicate s.predicate

/-- The draft says what the handler type says, which is well-formed. -/
structure Draft.Drafts (d : Draft) (c : HandlerClass) : Prop where
  wellFormed : c.WellFormed d.kind
  id : d.id = c.templateId
  handler : d.handler = c.id
  name : d.name = c.options.name
  description : d.description = c.options.description
  slots : List.Forall₂ (fun a (s : DraftSlot) ↦ s.Drafts a) c.options.attachments d.slots
  memberHandler : d.memberHandler = if d.kind.isContainer then c.options.memberHandler else none
  memberPath : d.memberPath = if d.kind.isContainer then c.options.memberPath else none
  membership : c.options.Relates d.kind d.membership
  inserted : c.options.Inserts d.kind d.insertedContentRelation

namespace Draft

/-! ## Reading the options -/

theorem kindOf_eq_ok_iff {c : HandlerClass} {kind : TemplateKind} :
    kindOf c = .ok kind ↔ c.markers = [kind] := by
  unfold kindOf
  split
  · next found hmarkers => simp [hmarkers]
  · next hmarkers => simp [hmarkers]
  · next kinds hone _ =>
    refine iff_of_false nofun ?_
    exact hone kind

theorem not_standsIn_of_isEmpty {raw : String} (hempty : (Text.trim raw).isEmpty = true)
    (u : Uri) : ¬u.StandsIn raw := by
  rintro ⟨hread, -⟩
  rw [String.isEmpty_iff.mp hempty] at hread
  cases hread

theorem readUri_eq_ok_iff {option : UriOption} {template : TemplateId} {raw : String} {u : Uri} :
    readUri option template raw = .ok u ↔ u.StandsIn raw := by
  cases hempty : (Text.trim raw).isEmpty with
  | true => simp [readUri, hempty, not_standsIn_of_isEmpty hempty]
  | false =>
      unfold Uri.StandsIn
      cases hread : Uri.ofText (Text.trim raw) with
      | error fault => simp [readUri, hempty, hread]
      | ok found =>
          cases hrootless : found.isRootless with
          | true =>
              have hfails : ∀ v, found = v → v.isRootless = true := fun v hv ↦ hv ▸ hrootless
              simp only [readUri, hempty, hread, hrootless, Bool.false_eq_true, if_false, if_true,
                reduceCtorEq, Except.ok.injEq, false_iff, not_and, Bool.not_eq_false]
              exact hfails u
          | false =>
              simp only [readUri, hempty, hread, hrootless, Bool.false_eq_true, if_false,
                Except.ok.injEq, iff_self_and]
              rintro rfl
              exact hrootless

theorem readOptionalUri_eq_ok_iff {option : UriOption} {template : TemplateId}
    {raw : Option String} {u : Option Uri} :
    readOptionalUri option template raw = .ok u ↔
      Option.Rel (fun raw (u : Uri) ↦ u.StandsIn raw) raw u := by
  cases raw with
  | none => cases u <;> simp [readOptionalUri]
  | some raw =>
      cases u with
      | none =>
          cases hread : readUri option template raw <;>
            simp [readOptionalUri, Except.map, hread]
      | some u =>
          rw [Option.rel_some_some, ← @readUri_eq_ok_iff option template]
          cases hread : readUri option template raw <;>
            simp [readOptionalUri, Except.map, hread]

/-- A text that is not there is read as an empty one, and no URI is empty. -/
theorem standsIn_getD_iff {raw : Option String} {u : Uri} :
    u.StandsIn (raw.getD "") ↔ ∃ text, raw = some text ∧ u.StandsIn text := by
  cases raw with
  | some text => simp
  | none =>
      have hempty : (Text.trim "").isEmpty = true := by decide
      simp [not_standsIn_of_isEmpty hempty]

theorem readMembership_eq_ok_iff {kind : TemplateKind} {template : TemplateId}
    {o : TemplateOptions} {m : Option Membership} :
    readMembership kind template o = .ok m ↔ o.Relates kind m := by
  unfold readMembership
  cases haware : kind.isMembershipAware with
  | false => cases m <;> simp [TemplateOptions.Relates, haware]
  | true =>
      have hread (u : Uri) : readUri .membershipPredicate template
          (o.membershipPredicate.getD "") = .ok u ↔
            ∃ raw, o.membershipPredicate = some raw ∧ u.StandsIn raw :=
        readUri_eq_ok_iff.trans standsIn_getD_iff
      cases m with
      | none =>
          cases readUri .membershipPredicate template (o.membershipPredicate.getD "") <;>
            simp [TemplateOptions.Relates, haware, Except.map]
      | some m =>
          obtain ⟨predicate, relation⟩ := m
          rw [TemplateOptions.Relates, ← hread]
          cases readUri .membershipPredicate template (o.membershipPredicate.getD "") <;>
            simp [haware, Except.map, eq_comm]

theorem readInserted_eq_ok_iff {kind : TemplateKind} {template : TemplateId}
    {o : TemplateOptions} {u : Option Uri} :
    readInserted kind template o = .ok u ↔ o.Inserts kind u := by
  unfold readInserted
  by_cases hkind : kind = .indirectContainer
  · have hread (u : Uri) : readUri .insertedContentRelation template
        (o.insertedContentRelation.getD "") = .ok u ↔
          ∃ raw, o.insertedContentRelation = some raw ∧ u.StandsIn raw :=
      readUri_eq_ok_iff.trans standsIn_getD_iff
    cases u with
    | none =>
        cases readUri .insertedContentRelation template (o.insertedContentRelation.getD "") <;>
          simp [TemplateOptions.Inserts, hkind, Except.map]
    | some u =>
        rw [TemplateOptions.Inserts, ← hread]
        cases readUri .insertedContentRelation template (o.insertedContentRelation.getD "") <;>
          simp [hkind, Except.map]
  · cases u <;> simp [TemplateOptions.Inserts, hkind]

/-! ## Reading the attachments -/

theorem readSlot_eq_ok_iff {template : TemplateId} {before : List AttachmentOption}
    {a : AttachmentOption} {s : DraftSlot} :
    readSlot template before a = .ok s ↔
      (Text.isBlankText a.id = false ∧ Text.isBlankText a.path = false) ∧
        a.id ∉ before.map (·.id) ∧ a.path ∉ before.map (·.path) ∧ s.Drafts a := by
  have hid : before.any (·.id == a.id) = true ↔ a.id ∈ before.map (·.id) := by simp
  have hpath : before.any (·.path == a.path) = true ↔ a.path ∈ before.map (·.path) := by simp
  rw [← hid, ← hpath]
  have hdrafts : s.Drafts a ↔ ∃ u, readOptionalUri .attachmentPredicate template a.predicate =
      .ok u ∧ s = ⟨a.id, a.path, a.handler, u⟩ := by
    constructor
    · rintro ⟨hid, hpath, hhandler, hpredicate⟩
      refine ⟨s.predicate, readOptionalUri_eq_ok_iff.mpr hpredicate, ?_⟩
      rw [← hid, ← hpath, ← hhandler]
    · rintro ⟨u, hread, rfl⟩
      exact ⟨rfl, rfl, rfl, readOptionalUri_eq_ok_iff.mp hread⟩
  rw [hdrafts]
  unfold readSlot
  cases Text.isBlankText a.id <;> cases Text.isBlankText a.path <;>
    cases before.any (·.id == a.id) <;> cases before.any (·.path == a.path) <;>
    cases readOptionalUri .attachmentPredicate template a.predicate <;> simp [eq_comm]

theorem readSlots_cons_eq_ok_iff {template : TemplateId} {before rest : List AttachmentOption}
    {a : AttachmentOption} {slots : List DraftSlot} :
    readSlots template before (a :: rest) = .ok slots ↔
      ∃ s later, readSlot template before a = .ok s ∧
        readSlots template (before ++ [a]) rest = .ok later ∧ slots = s :: later := by
  cases hslot : readSlot template before a with
  | error fault => simp [readSlots, hslot]
  | ok s =>
      cases hrest : readSlots template (before ++ [a]) rest with
      | error fault => simp [readSlots, hslot, hrest]
      | ok later => simp [readSlots, hslot, hrest, eq_comm]

theorem nodup_snoc_iff {β : Type} (f : AttachmentOption → β) {before : List AttachmentOption}
    (a : AttachmentOption) (hbefore : (before.map f).Nodup) :
    ((before ++ [a]).map f).Nodup ↔ f a ∉ before.map f := by
  rw [List.map_append, List.nodup_append_comm, List.map_singleton, List.singleton_append,
    List.nodup_cons]
  exact and_iff_left hbefore

/-- No attachment has the identifier or the path of one before it. -/
theorem readSlots_eq_ok_iff {template : TemplateId} {before attachments : List AttachmentOption}
    {slots : List DraftSlot} (hids : (before.map (·.id)).Nodup)
    (hpaths : (before.map (·.path)).Nodup) :
    readSlots template before attachments = .ok slots ↔
      (∀ a ∈ attachments, Text.isBlankText a.id = false ∧ Text.isBlankText a.path = false) ∧
        ((before ++ attachments).map (·.id)).Nodup ∧
        ((before ++ attachments).map (·.path)).Nodup ∧
        List.Forall₂ (fun a (s : DraftSlot) ↦ s.Drafts a) attachments slots := by
  induction attachments generalizing before slots with
  | nil => cases slots <;> simp [readSlots, hids, hpaths]
  | cons a rest ih =>
      have hsnoc : before ++ a :: rest = (before ++ [a]) ++ rest := List.append_cons before a rest
      simp only [readSlots_cons_eq_ok_iff, readSlot_eq_ok_iff, List.forall_mem_cons, hsnoc,
        List.forall₂_cons_left_iff]
      constructor
      · rintro ⟨s, later, ⟨hblank, hid, hpath, hs⟩, hlater, rfl⟩
        have hids' := (nodup_snoc_iff _ a hids).mpr hid
        have hpaths' := (nodup_snoc_iff _ a hpaths).mpr hpath
        rw [ih hids' hpaths'] at hlater
        obtain ⟨hblanks, hnodup, hnodup', hslots⟩ := hlater
        exact ⟨⟨hblank, hblanks⟩, hnodup, hnodup', s, later, hs, hslots, rfl⟩
      · rintro ⟨⟨hblank, hblanks⟩, hnodup, hnodup', s, later, hs, hslots, rfl⟩
        have hid : ((before ++ [a]).map (·.id)).Nodup :=
          hnodup.sublist ((List.sublist_append_left _ rest).map _)
        have hpath : ((before ++ [a]).map (·.path)).Nodup :=
          hnodup'.sublist ((List.sublist_append_left _ rest).map _)
        have hlater := (ih hid hpath).mpr ⟨hblanks, hnodup, hnodup', hslots⟩
        rw [nodup_snoc_iff _ a hids] at hid
        rw [nodup_snoc_iff _ a hpaths] at hpath
        exact ⟨s, later, ⟨hblank, hid, hpath, hs⟩, hlater, rfl⟩

/-! ## Drafts -/

/-- The draft that is made once everything has been read. -/
def made (c : HandlerClass) (kind : TemplateKind) (slots : List DraftSlot)
    (membership : Option Membership) (inserted : Option Uri) : Draft where
  kind := kind
  id := c.templateId
  handler := c.id
  name := c.options.name
  description := c.options.description
  slots := slots
  memberHandler := if kind.isContainer then c.options.memberHandler else none
  memberPath := if kind.isContainer then c.options.memberPath else none
  membership := membership
  insertedContentRelation := inserted

theorem ofClass_eq_ok_iff {c : HandlerClass} {d : Draft} :
    ofClass c = .ok d ↔ ∃ kind slots membership inserted,
      kindOf c = .ok kind ∧ (kind.isContainer = true → c.capabilities.has .container = true) ∧
      c.templateId ≠ "" ∧ readSlots c.templateId [] c.options.attachments = .ok slots ∧
      readMembership kind c.templateId c.options = .ok membership ∧
      readInserted kind c.templateId c.options = .ok inserted ∧
      d = made c kind slots membership inserted := by
  have htrim : Text.trim c.options.id = c.templateId := rfl
  have hid : c.templateId ≠ "" ↔ c.templateId.isEmpty = false := by
    rw [← Bool.not_eq_true, String.isEmpty_iff]
  simp only [ofClass, htrim, hid, bind, Except.bind, throw, throwThe, MonadExceptOf.throw, pure,
    Except.pure]
  cases kindOf c with
  | error fault => simp
  | ok kind =>
      have hcapable : (kind.isContainer = true → c.capabilities.has .container = true) ↔
          (kind.isContainer && !c.capabilities.has .container) = false := by simp
      simp only [hcapable, Except.ok.injEq, exists_and_left, exists_eq_left']
      cases kind.isContainer && !c.capabilities.has .container with
      | true => simp
      | false =>
          cases c.templateId.isEmpty with
          | true => simp
          | false =>
              cases readSlots c.templateId [] c.options.attachments with
              | error fault => simp
              | ok slots =>
                  cases readMembership kind c.templateId c.options with
                  | error fault => simp
                  | ok membership =>
                      cases readInserted kind c.templateId c.options with
                      | error fault => simp
                      | ok inserted =>
                          simp only [Bool.false_eq_true, if_false, Except.ok.injEq,
                            exists_eq_left', true_and]
                          exact eq_comm

theorem exists_slots_iff {attachments : List AttachmentOption} :
    (∃ slots, List.Forall₂ (fun a (s : DraftSlot) ↦ s.Drafts a) attachments slots) ↔
      ∀ a ∈ attachments, ∃ s : DraftSlot, s.Drafts a := by
  induction attachments with
  | nil => simp
  | cons a rest ih =>
      rw [List.forall_mem_cons, ← ih]
      simp only [List.forall₂_cons_left_iff]
      constructor
      · rintro ⟨_, s, slots, hs, hslots, rfl⟩
        exact ⟨⟨s, hs⟩, slots, hslots⟩
      · rintro ⟨⟨s, hs⟩, slots, hslots⟩
        exact ⟨s :: slots, s, slots, hs, hslots, rfl⟩

theorem exists_slot_iff {a : AttachmentOption} :
    (∃ s : DraftSlot, s.Drafts a) ↔
      ∀ raw, a.predicate = some raw → ∃ u : Uri, u.StandsIn raw := by
  constructor
  · rintro ⟨s, hs⟩ raw hraw
    have hpredicate := hs.predicate
    rw [hraw] at hpredicate
    cases hu : s.predicate with
    | none => simp [hu] at hpredicate
    | some u => exact ⟨u, by simpa [hu] using hpredicate⟩
  · intro hreads
    cases hraw : a.predicate with
    | none => exact ⟨⟨a.id, a.path, a.handler, none⟩, rfl, rfl, rfl, by simp [hraw]⟩
    | some raw =>
        obtain ⟨u, hu⟩ := hreads raw hraw
        exact ⟨⟨a.id, a.path, a.handler, some u⟩, rfl, rfl, rfl, by simpa [hraw] using hu⟩

theorem exists_relates_iff {o : TemplateOptions} {kind : TemplateKind} :
    (∃ m, o.Relates kind m) ↔ (kind.isMembershipAware = true →
      ∃ raw, o.membershipPredicate = some raw ∧ ∃ u : Uri, u.StandsIn raw) := by
  constructor
  · rintro ⟨m, hm⟩ haware
    cases m with
    | none =>
        rw [TemplateOptions.Relates, haware] at hm
        cases hm
    | some m =>
        obtain ⟨-, ⟨raw, hraw, hu⟩, -⟩ := hm
        exact ⟨raw, hraw, m.predicate, hu⟩
  · intro hreads
    cases haware : kind.isMembershipAware with
    | false => exact ⟨none, haware⟩
    | true =>
        obtain ⟨raw, hraw, u, hu⟩ := hreads haware
        exact ⟨some ⟨u, o.membershipRelation.getD .hasMember⟩, haware, ⟨raw, hraw, hu⟩, rfl⟩

theorem exists_inserts_iff {o : TemplateOptions} {kind : TemplateKind} :
    (∃ u, o.Inserts kind u) ↔ (kind = .indirectContainer →
      ∃ raw, o.insertedContentRelation = some raw ∧ ∃ u : Uri, u.StandsIn raw) := by
  constructor
  · rintro ⟨u, hu⟩ hkind
    cases u with
    | none => exact absurd hkind hu
    | some u =>
        obtain ⟨-, raw, hraw, hu⟩ := hu
        exact ⟨raw, hraw, u, hu⟩
  · intro hreads
    by_cases hkind : kind = .indirectContainer
    · obtain ⟨raw, hraw, u, hu⟩ := hreads hkind
      exact ⟨some u, hkind, raw, hraw, hu⟩
    · exact ⟨none, hkind⟩

/-- Making a draft is nothing but reading what the handler type says. -/
theorem ofClass_eq_ok_iff_drafts {c : HandlerClass} {d : Draft} :
    ofClass c = .ok d ↔ d.Drafts c := by
  have hslots (slots : List DraftSlot) :=
    @readSlots_eq_ok_iff c.templateId [] c.options.attachments slots List.nodup_nil List.nodup_nil
  simp only [ofClass_eq_ok_iff, kindOf_eq_ok_iff, hslots, readMembership_eq_ok_iff,
    readInserted_eq_ok_iff, List.nil_append]
  constructor
  · rintro ⟨kind, slots, membership, inserted, hmarker, hcapable, hid,
      ⟨hblank, hids, hpaths, hslots⟩, hmembership, hinserted, rfl⟩
    have hattachment (a : AttachmentOption) (ha : a ∈ c.options.attachments) : a.WellFormed := by
      obtain ⟨hnoId, hnoPath⟩ := hblank a ha
      have hread := exists_slots_iff.mp ⟨slots, hslots⟩ a ha
      exact ⟨hnoId, hnoPath, exists_slot_iff.mp hread⟩
    have hwell : c.WellFormed kind :=
      ⟨hmarker, hcapable, hid, hattachment, hids, hpaths,
        exists_relates_iff.mp ⟨membership, hmembership⟩,
        exists_inserts_iff.mp ⟨inserted, hinserted⟩⟩
    exact ⟨hwell, rfl, rfl, rfl, rfl, hslots, rfl, rfl, hmembership, hinserted⟩
  · intro h
    have hwell := h.wellFormed
    refine ⟨d.kind, d.slots, d.membership, d.insertedContentRelation, hwell.marker, hwell.capable,
      hwell.id_ne, ⟨fun a ha ↦ ?_, hwell.nodup_ids, hwell.nodup_paths, h.slots⟩, h.membership,
      h.inserted, ?_⟩
    · exact ⟨(hwell.attachment a ha).id, (hwell.attachment a ha).path⟩
    · rw [made, ← h.id, ← h.handler, ← h.name, ← h.description, ← h.memberHandler, ← h.memberPath]

/-- To be well-formed is all that a handler type needs to have a draft. -/
theorem exists_drafts_iff {c : HandlerClass} :
    (∃ d : Draft, d.Drafts c) ↔ ∃ kind, c.WellFormed kind := by
  constructor
  · rintro ⟨d, hd⟩
    exact ⟨d.kind, hd.wellFormed⟩
  · rintro ⟨kind, hwell⟩
    obtain ⟨membership, hmembership⟩ := exists_relates_iff.mpr hwell.membership
    obtain ⟨inserted, hinserted⟩ := exists_inserts_iff.mpr hwell.inserted
    obtain ⟨slots, hslots⟩ := exists_slots_iff.mpr fun a ha ↦
      exists_slot_iff.mpr (hwell.attachment a ha).predicate
    exact ⟨made c kind slots membership inserted, hwell, rfl, rfl, rfl, rfl, hslots, rfl, rfl,
      hmembership, hinserted⟩

def references (d : Draft) : List HandlerId :=
  d.slots.map (·.handler) ++ d.memberHandler.toList

theorem Drafts.references_eq {c : HandlerClass} {d : Draft} (h : d.Drafts c) :
    d.references = c.references := by
  have hslots : d.slots.map (·.handler) = c.options.attachments.map (·.handler) :=
    map_eq_of_forall₂ h.slots fun _ _ hs ↦ hs.handler
  have hmark : c.markers.any TemplateKind.isContainer = d.kind.isContainer := by
    rw [h.wellFormed.marker, List.any_cons, List.any_nil, Bool.or_false]
  rw [references, HandlerClass.references, hslots, hmark, h.memberHandler]
  cases d.kind.isContainer <;> rfl

end Draft

end ResourceKernel
