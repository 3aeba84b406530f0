import ResourceKernel.Proofs.Kernel.Descent

/-!
# References while nothing is removed

As long as no resource is removed, every reference leads to a resource that exists. A resource is
made as a root or under a parent that exists already, so that its parents lead to resources made
earlier and in the end to a root. A child exists before it is named, and nothing that exists is made
again, so that not even a resource that has been offered as its own child becomes one.
-/

namespace ResourceKernel

open Function (update)
open Relation (ReflTransGen)

namespace StoreState

/-- The parents of a resource lead to a root. -/
def Descends (s : StoreState) (id : ResourceId) : Prop :=
  ∃ root, ReflTransGen s.ChildOf id root ∧ s.lineage? root = some none

/-- All parents lead to roots, and all named children exist. -/
structure Rooted (s : StoreState) : Prop where
  descends {id : ResourceId} {parent : Option ResourceId} (h : s.lineage? id = some parent) :
    s.Descends id
  exists_child {owner child : ResourceId} (h : s.names owner child = true) :
    ∃ parent, s.lineage? child = some parent

variable {s t : StoreState} {id : ResourceId} {key : StoredKey} {e : Entity}

theorem lineage?_eq_some_iff {parent : Option ResourceId} :
    s.lineage? id = some parent ↔ ∃ e, s.entityOf? id = some e ∧ e.base.parent = parent :=
  Option.map_eq_some_iff

theorem rooted_empty : empty.Rooted where
  descends h := by
    rw [lineage?, entityOf?_empty] at h
    cases h
  exists_child h := by
    rw [names, entityOf?_empty] at h
    cases h

theorem Descends.exists_parent (h : s.Descends id) {parent : ResourceId}
    (hparent : s.ChildOf id parent) : ∃ above, s.lineage? parent = some above := by
  obtain ⟨root, hchain, hroot⟩ := h
  rcases ReflTransGen.cases_head hchain with rfl | ⟨next, hnext, hrest⟩
  · rw [hparent] at hroot
    cases hroot
  · obtain rfl := Option.some.inj (Option.some.inj (hparent.symm.trans hnext))
    rcases ReflTransGen.cases_head hrest with rfl | ⟨above, habove, -⟩
    · exact ⟨none, hroot⟩
    · exact ⟨some above, habove⟩

theorem exists_entity_of_lineage? {parent : Option ResourceId} (h : s.lineage? id = some parent) :
    ∃ d, s.entityOf? id = some d := by
  obtain ⟨d, hd, -⟩ := lineage?_eq_some_iff.mp h
  exact ⟨d, hd⟩

theorem Rooted.exists_parent (h : s.Rooted) (he : s.entityOf? id = some e) {parent : ResourceId}
    (hparent : e.base.parent = some parent) : ∃ d, s.entityOf? parent = some d := by
  have hlink : s.ChildOf id parent := lineage?_eq_some_iff.mpr ⟨e, he, hparent⟩
  obtain ⟨above, habove⟩ := (h.descends hlink).exists_parent hlink
  exact exists_entity_of_lineage? habove

theorem Rooted.exists_of_hasChild (h : s.Rooted) (he : s.entityOf? id = some e)
    {child : ResourceId} (hchild : e.hasChild child = true) :
    ∃ d, s.entityOf? child = some d := by
  have hnamed : s.names id child = true := by
    rw [names, he]
    exact hchild
  obtain ⟨above, habove⟩ := h.exists_child hnamed
  exact exists_entity_of_lineage? habove

end StoreState

/-- What a step means to resources and parents that takes nothing away. A resource may be made where
there was none, and if it has a parent, then one that exists. -/
inductive Growth (s t : StoreState) : Prop
  | same (h : t.lineage? = s.lineage?)
  | founded {id : ResourceId} {parent : Option ResourceId} (hfree : s.lineage? id = none)
      (hparent : ∀ p ∈ parent, ∃ above, s.lineage? p = some above)
      (hlineage : t.lineage? = update s.lineage? id (some parent))

namespace Growth

open StoreState

variable {s t u : StoreState} {id : ResourceId} {key : StoredKey} {e d : Entity}

theorem congr (h : t.resources = s.resources) : Growth s t := by
  refine .same ?_
  funext other
  rw [lineage?, entityOf?_congr h]
  rfl

theorem found {template : Template} {parent : Option ResourceId}
    (hparent : ∀ p ∈ parent, ∃ above, s.lineage? p = some above) (hkey : id.keyed = .ok key)
    (hfree : s.entity? key = none) :
    Growth s (s.putEntity key (Entity.fresh template id parent)) := by
  have hnone : s.lineage? id = none := by
    rw [lineage?, entityOf?_of_keyed hkey, hfree]
    rfl
  have hlineage : (s.putEntity key (Entity.fresh template id parent)).lineage? =
      update s.lineage? id (some parent) := by
    rw [lineage?_update (entityOf?_put hkey rfl), Option.map_some, Entity.base_fresh]
    rfl
  exact .founded hnone hparent hlineage

theorem provide {template : Template} {child parent : ResourceId} {childKey : StoredKey}
    (hkey : parent.keyed = .ok key) (he : s.entity? key = some e)
    (hchild : child.keyed = .ok childKey) :
    Growth s (s.provide childKey template child parent) := by
  cases hfree : s.entity? childKey with
  | some c =>
      rw [provide_of_some hfree]
      exact .same rfl
  | none =>
      rw [provide_of_none hfree]
      refine found ?_ hchild hfree
      intro p hp
      obtain rfl := Option.mem_some.mp hp
      exact ⟨_, lineage?_eq hkey he⟩

theorem trans_replace (h : Growth s u) (hkey : id.keyed = .ok key) (he : u.entity? key = some e)
    (hput : t.resources = u.resources.insert key d) (hparent : d.base.parent = e.base.parent) :
    Growth s t := by
  have hsame : t.lineage? = u.lineage? := lineage?_replace hkey he hput hparent
  cases h with
  | same hlineage => exact .same (hsame.trans hlineage)
  | founded hfree hexists hlineage => exact .founded hfree hexists (hsame.trans hlineage)

theorem replace (hkey : id.keyed = .ok key) (he : s.entity? key = some e)
    (hput : t.resources = s.resources.insert key d) (hparent : d.base.parent = e.base.parent) :
    Growth s t :=
  trans_replace (.same rfl) hkey he hput hparent

theorem replaceBase (hkey : id.keyed = .ok key) (he : s.entity? key = some e) {r : Resource}
    (hput : t.resources = s.resources.insert key (e.withBase r))
    (hparent : r.parent = e.base.parent) : Growth s t := by
  apply replace hkey he hput
  rw [Entity.base_withBase, hparent]

theorem placed {template : Template} {child : ResourceId} {childKey : StoredKey}
    (hkey : id.keyed = .ok key) (he : s.entity? key = some e) (hchild : child.keyed = .ok childKey)
    (hparent : d.base.parent = e.base.parent) :
    Growth s ((s.provide childKey template child id).putEntity key d) := by
  have hkept := entity?_provide childKey template child id he
  exact (provide hkey he hchild).trans_replace hkey hkept rfl hparent

theorem lineage?_eq_some (h : Growth s t) {parent : Option ResourceId}
    (hold : s.lineage? id = some parent) : t.lineage? id = some parent := by
  cases h with
  | same hlineage => exact hlineage ▸ hold
  | @founded other _ hfree _ hlineage =>
      have hne : id ≠ other := by
        rintro rfl
        rw [hfree] at hold
        cases hold
      rw [hlineage, Function.update_of_ne hne, hold]

/-- Existing links stay as they are, so that chains to a root stay too. -/
theorem descends (h : Growth s t) (hold : s.Descends id) : t.Descends id := by
  obtain ⟨root, hchain, hroot⟩ := hold
  refine ⟨root, ReflTransGen.mono ?_ _ _ hchain, h.lineage?_eq_some hroot⟩
  intro child parent hlink
  exact h.lineage?_eq_some hlink

theorem rooted (h : Growth s t) (hs : s.Rooted)
    (hnamed : ∀ owner child, t.names owner child = true →
      s.names owner child = true ∨ t.lineage? child = some (some owner)) : t.Rooted where
  descends := by
    intro id parent hparent
    cases hold : s.lineage? id with
    | some before => exact h.descends (hs.descends hold)
    | none =>
        cases h with
        | same hlineage =>
            rw [hlineage, hold] at hparent
            cases hparent
        | @founded other above hfree hexists hlineage =>
            -- the resource is the one that has been made
            obtain ⟨rfl, hmade⟩ := Founds.id_eq ⟨hold, hparent⟩ hlineage
            obtain rfl := Option.some.inj hmade
            have hgrowth : Growth s t := .founded hfree hexists hlineage
            cases above with
            | none => exact ⟨id, .refl, hparent⟩
            | some p =>
                obtain ⟨_, hp⟩ := hexists p rfl
                obtain ⟨root, hchain, hroot⟩ := hgrowth.descends (hs.descends hp)
                exact ⟨root, .head hparent hchain, hroot⟩
  exists_child := by
    intro owner child hnames
    rcases hnamed owner child hnames with hold | hnew
    · obtain ⟨parent, hparent⟩ := hs.exists_child hold
      exact ⟨parent, h.lineage?_eq_some hparent⟩
    · exact ⟨some owner, hnew⟩

end Growth

variable {library : TemplateLibrary} {s t : StoreState} {c : Change} {reply : Reply}

open StoreState

theorem Granted.growth (h : Granted library s c reply t) (hstays : ∀ id, c ≠ .remove id) :
    Growth s t := by
  cases h with
  | created _ hkey hfree => exact .found nofun hkey hfree
  | attached _ hkey he _ _ hchild =>
      apply Growth.placed hkey he hchild
      rw [Entity.base_withBase]
  | entered _ hkey hc _ hmember => exact .placed hkey hc hmember rfl
  | detached hkey he | directed hkey he | settled hkey he => exact .replaceBase hkey he rfl rfl
  | dropped hkey hc =>
      exact .replace hkey hc rfl (congrArg Resource.parent (Container.id_removeMember _ _))
  | slugAdded hkey hc | slugMerged hkey hc =>
      exact .replace hkey hc rfl (congrArg Resource.parent (Container.resource_mergeSlug _ _ _))
  | complained hkey he hreport | complainedAside hkey he hreport =>
      obtain ⟨failure, -, rfl, rfl⟩ := Resource.report?_eq_some_iff.mp hreport
      exact .replaceBase hkey he rfl rfl
  | noContainer | noResource | published | amended | retracted => exact .congr rfl
  | removed => exact absurd rfl (hstays _)

theorem Deed.growth (hs : s.Sound) (d : Deed) (hd : ∀ id, d ≠ .change (.remove id)) :
    Growth s (d.on library s) := by
  rcases d.granted_or_idle library hs with ⟨slugs, hidle⟩ | ⟨c, reply, rfl, hgranted⟩
  · exact hidle ▸ .congr rfl
  · apply hgranted.growth
    rintro id rfl
    exact hd id rfl

theorem rooted_replay (library : TemplateLibrary) {deeds : List Deed}
    (hdeeds : ∀ id, .change (.remove id) ∉ deeds) : (replay library .empty deeds).Rooted := by
  apply replay_induction sound_empty rooted_empty
  intro t ht d hd hrooted
  have hgrowth : Growth t (d.on library t) := by
    apply d.growth ht
    rintro id rfl
    exact hdeeds id hd
  exact hgrowth.rooted hrooted fun owner child hnames ↦ (d.shift ht).named hnames

/-- In every state of a history in which nothing is removed, the parent of an entity exists, and so
does what is bound to its slots and what is recorded or numbered among its members; and the parents
above an entity end with a root. -/
theorem references_resolve (library : TemplateLibrary) (deeds : List Deed)
    (hdeeds : ∀ id, .change (.remove id) ∉ deeds) :
    let s := replay library .empty deeds
    ∀ id e, s.entityOf? id = some e →
      (∀ parent, e.base.parent = some parent → ∃ d, s.entityOf? parent = some d) ∧
      (∀ slot child, e.base.slots.find? slot = some (some child) →
        ∃ d, s.entityOf? child = some d) ∧
      (∀ c, e.container? = some c →
        (∀ member number, c.index.find? member = some number →
          ∃ d, s.entityOf? member = some d) ∧
        ∀ number record, c.members.find? number = some record →
          ∃ d, s.entityOf? record.member = some d) ∧
      ∃ root r, ReflTransGen s.ChildOf id root ∧ s.entityOf? root = some r ∧
        r.base.parent = none := by
  intro s id e he
  have hs : s.Sound := sound_replay library deeds
  have hrooted : s.Rooted := rooted_replay library hdeeds
  have hmember : ∀ c, e.container? = some c → ∀ member number,
      c.index.find? member = some number → ∃ d, s.entityOf? member = some d := by
    intro c hc member number hnumber
    apply hrooted.exists_of_hasChild he
    exact Entity.hasChild_iff.mpr (.inr ⟨c, hc, Container.hasMember_iff.mpr ⟨number, hnumber⟩⟩)
  refine ⟨fun parent ↦ hrooted.exists_parent he, fun slot child hslot ↦ ?_,
    fun c hc ↦ ⟨hmember c hc, fun number record hrecord ↦ ?_⟩, ?_⟩
  · exact hrooted.exists_of_hasChild he (Entity.hasChild_iff.mpr (.inl ⟨slot, hslot⟩))
  · obtain ⟨key, -, hentity⟩ := entityOf?_eq_some_iff.mp he
    obtain rfl := Entity.container?_eq_some_iff.mp hc
    have hnumber := ((hs.numbered hentity).index_iff record.member number).mpr
      ⟨record, hrecord, rfl⟩
    exact hmember c hc record.member number hnumber
  · have hlineage := lineage?_eq_some_iff.mpr ⟨e, he, rfl⟩
    obtain ⟨root, hchain, hroot⟩ := hrooted.descends hlineage
    obtain ⟨r, hr, hnone⟩ := lineage?_eq_some_iff.mp hroot
    exact ⟨root, r, hchain, hr, hnone⟩

/-- A folder that has been offered as its own index, and as a member of a folder below it, stays a
root, and the folders below it lead to a root. -/
theorem index_of_folder_resolves :
    let library := TemplateLibrary.empty.insert "folders" ⟨"folder", "folders", none, none,
      [⟨"index", "index", "folder", none⟩], .container ⟨"folder", none⟩⟩
    let a : ResourceId := ⟨.text "a", "folder"⟩
    let b : ResourceId := ⟨.text "b", "folder"⟩
    let c : ResourceId := ⟨.text "c", "folder"⟩
    let deeds : List Deed := [.change (.create "folder" (.text "a")),
      .change (.attach a "index" a .container), .change (.attach a "index" b .container),
      .change (.addMember b (.text "c")), .change (.addMember c (.text "a")),
      .change (.removeMember b c), .change (.addMember b (.text "c"))]
    let s := replay library .empty deeds
    (∀ id, .change (.remove id) ∉ deeds) ∧ s.lineage? a = some none ∧
      (s.entityOf? a).map (fun e ↦ e.base.slots.find? "index") = some (some (some b)) ∧
      (∃ e, s.entityOf? b = some e) ∧
      (s.entityOf? c).map (fun e ↦ e.base.parent) = some (some b) ∧
      ∃ root r, ReflTransGen s.ChildOf c root ∧ s.entityOf? root = some r ∧
        r.base.parent = none := by
  intro library a b c deeds s
  have hdeeds : ∀ id, .change (.remove id) ∉ deeds := by simp [deeds]
  have hindex : (s.entityOf? a).map (fun e ↦ e.base.slots.find? "index") =
      some (some (some b)) := by
    decide +kernel
  have hparent : (s.entityOf? c).map (fun e ↦ e.base.parent) = some (some b) := by
    decide +kernel
  obtain ⟨folder, hfolder, hslot⟩ := Option.map_eq_some_iff.mp hindex
  obtain ⟨member, hmember, -⟩ := Option.map_eq_some_iff.mp hparent
  obtain ⟨-, hslots, -⟩ := references_resolve library deeds hdeeds a folder hfolder
  obtain ⟨-, -, -, hroot⟩ := references_resolve library deeds hdeeds c member hmember
  exact ⟨hdeeds, by decide +kernel, hindex, hslots "index" b hslot, hparent, hroot⟩

end ResourceKernel
