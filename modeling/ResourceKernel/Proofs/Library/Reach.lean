import ResourceKernel.Proofs.Library.Draft

/-!
# What roots lead to in a catalog

The roots lead to themselves and to all that the handler types they lead to refer to. A library can
be loaded just when all of these are in the catalog, are well-formed, say what the members of
containers are, and have different template identifiers; a loader that fails has met an obstacle to
this.
-/

namespace ResourceKernel

namespace HandlerCatalog

/-- Each handler type stands under its own name. -/
def Keyed (catalog : HandlerCatalog) : Prop :=
  ∀ h c, catalog.find? h = some c → c.id = h

theorem keyed_empty : empty.Keyed := by
  intro h c hc
  cases hc

theorem Keyed.register {catalog after : HandlerCatalog} (hkeyed : catalog.Keyed)
    {cls : HandlerClass} (hregister : catalog.register cls = .ok after) : after.Keyed := by
  unfold HandlerCatalog.register at hregister
  split at hregister
  · cases hregister
  · obtain rfl := Except.ok.inj hregister
    intro h c hc
    change (catalog.classes.insert cls.id cls).find? h = some c at hc
    rw [Table.find?_insert] at hc
    split at hc
    · next hid =>
      obtain rfl := Option.some.inj hc
      exact hid.symm
    · exact hkeyed h c hc

theorem Keyed.registerAll {catalog after : HandlerCatalog} (hkeyed : catalog.Keyed)
    {classes : List HandlerClass} (hall : catalog.registerAll classes = .ok after) :
    after.Keyed := by
  induction classes generalizing catalog with
  | nil =>
      obtain rfl := Except.ok.inj hall
      exact hkeyed
  | cons cls rest ih =>
      unfold HandlerCatalog.registerAll at hall ih
      rw [List.foldlM_cons] at hall
      cases hfirst : catalog.register cls with
      | error fault => simp [hfirst, bind, Except.bind] at hall
      | ok next =>
          rw [hfirst] at hall
          exact ih (hkeyed.register hfirst) hall

/-- The least set of handler types that contains the roots and, with a handler type of the catalog,
all that it refers to. -/
inductive Reaches (catalog : HandlerCatalog) (roots : List HandlerId) : HandlerId → Prop
  | root {h : HandlerId} (hroot : h ∈ roots) : Reaches catalog roots h
  | reference {h k : HandlerId} {c : HandlerClass} (hreach : Reaches catalog roots h)
      (hc : catalog.find? h = some c) (hk : k ∈ c.references) : Reaches catalog roots k

/-- The draft is that of the handler type with the name. -/
def DraftOf (catalog : HandlerCatalog) (h : HandlerId) (d : Draft) : Prop :=
  ∃ c, catalog.find? h = some c ∧ d.Drafts c

/-- All that is needed of the handler types that the roots lead to. -/
structure Loadable (catalog : HandlerCatalog) (roots : List HandlerId) : Prop where
  known {h : HandlerId} : catalog.Reaches roots h →
    ∃ c kind, catalog.find? h = some c ∧ c.WellFormed kind
  members {h : HandlerId} {c : HandlerClass} : catalog.Reaches roots h →
    catalog.find? h = some c → c.markers.any TemplateKind.isContainer = true →
    c.options.memberHandler.isSome = true
  distinct {h k : HandlerId} {c e : HandlerClass} : catalog.Reaches roots h →
    catalog.Reaches roots k → catalog.find? h = some c → catalog.find? k = some e →
    c.templateId = e.templateId → h = k

/-- Why the library of the roots cannot be loaded, and how this is complained about. -/
inductive Obstacle (catalog : HandlerCatalog) (roots : List HandlerId) : TemplateFault → Prop
  | missing {h : HandlerId} (hreach : catalog.Reaches roots h) (hnone : catalog.find? h = none) :
      Obstacle catalog roots (.unknownHandler h)
  | illFormed {h : HandlerId} {c : HandlerClass} {fault : TemplateFault}
      (hreach : catalog.Reaches roots h) (hc : catalog.find? h = some c)
      (hfault : Draft.ofClass c = .error fault) : Obstacle catalog roots fault
  | shared {h k : HandlerId} {d e : Draft} (hne : h ≠ k) (hreach : catalog.Reaches roots h)
      (hreach' : catalog.Reaches roots k) (hd : catalog.DraftOf h d) (he : catalog.DraftOf k e)
      (hid : d.id = e.id) : Obstacle catalog roots (.sharedId e.id h k)
  | memberless {h : HandlerId} {d : Draft} (hreach : catalog.Reaches roots h)
      (hd : catalog.DraftOf h d) (hkind : d.kind.isContainer = true)
      (hnone : d.memberHandler = none) : Obstacle catalog roots (.noMemberHandler d.id)

variable {catalog : HandlerCatalog} {roots : List HandlerId} {h k : HandlerId} {d : Draft}

theorem DraftOf.handler_eq (hd : catalog.DraftOf h d) (hkeyed : catalog.Keyed) :
    d.handler = h := by
  obtain ⟨c, hc, hdrafts⟩ := hd
  rw [hdrafts.handler]
  exact hkeyed h c hc

theorem DraftOf.reaches (hd : catalog.DraftOf h d) (hreach : catalog.Reaches roots h)
    (hk : k ∈ d.references) : catalog.Reaches roots k := by
  obtain ⟨c, hc, hdrafts⟩ := hd
  rw [hdrafts.references_eq] at hk
  exact .reference hreach hc hk

theorem Obstacle.not_loadable {fault : TemplateFault} (hfault : catalog.Obstacle roots fault) :
    ¬catalog.Loadable roots := by
  intro hload
  cases hfault with
  | missing hreach hnone =>
      obtain ⟨c, kind, hc, -⟩ := hload.known hreach
      rw [hnone] at hc
      cases hc
  | @illFormed h c _ hreach hc hfault =>
      obtain ⟨found, kind, hfound, hwell⟩ := hload.known hreach
      obtain rfl := Option.some.inj (hc.symm.trans hfound)
      obtain ⟨d, hd⟩ := Draft.exists_drafts_iff.mpr ⟨kind, hwell⟩
      rw [Draft.ofClass_eq_ok_iff_drafts.mpr hd] at hfault
      cases hfault
  | @shared h k d e hne hreach hreach' hd he hid =>
      obtain ⟨c, hc, hdrafts⟩ := hd
      obtain ⟨c', hc', hdrafts'⟩ := he
      have hsame : c.templateId = c'.templateId := by rw [← hdrafts.id, ← hdrafts'.id, hid]
      exact hne (hload.distinct hreach hreach' hc hc' hsame)
  | @memberless h d hreach hd hkind hnone =>
      obtain ⟨c, hc, hdrafts⟩ := hd
      have hmark : c.markers.any TemplateKind.isContainer = true := by
        simp [hdrafts.wellFormed.marker, hkind]
      have hsome := hload.members hreach hc hmark
      rw [hdrafts.memberHandler, if_pos hkind] at hnone
      rw [hnone] at hsome
      cases hsome

end HandlerCatalog

end ResourceKernel
