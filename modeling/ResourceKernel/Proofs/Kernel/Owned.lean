import ResourceKernel.Proofs.Kernel.Rooted

/-!
# Owners of children

Removing a resource leaves its parent with the references it had, until these are taken away one by
one. So the resource may be made again while somebody else still names it. Nothing else gives a
resource a second owner, and no other reference leads to a resource that is not a child.
-/

namespace ResourceKernel

open StoreState

namespace Entity

theorem hasChild_of_drop_ne {c : Container} {member child : ResourceId} (hne : child ≠ member)
    (h : (container c).hasChild child = true) :
    (container (c.removeMember member).2).hasChild child = true := by
  have hbase : (c.removeMember member).2.resource = c.resource := c.id_removeMember member
  rw [hasChild_iff] at h ⊢
  simp only [base, hbase, container?, Option.some.injEq, exists_eq_left'] at h ⊢
  refine h.imp_right fun hmember ↦ ?_
  unfold Container.removeMember
  split
  · exact hmember
  · rw [Container.hasMember_iff] at hmember ⊢
    obtain ⟨number, hnumber⟩ := hmember
    exact ⟨number, (Table.find?_erase_ne _ hne).trans hnumber⟩

theorem hasChild_of_withBase {e : Entity} {r : Resource} {child : ResourceId}
    (hslots : ∀ slot, e.base.slots.find? slot = some (some child) →
      ∃ place, r.slots.find? place = some (some child))
    (h : e.hasChild child = true) : (e.withBase r).hasChild child = true := by
  rw [hasChild_iff] at h ⊢
  rw [base_withBase]
  rcases h with ⟨slot, hslot⟩ | ⟨c, hc, hmember⟩
  · exact Or.inl (hslots slot hslot)
  · obtain rfl := container?_eq_some_iff.mp hc
    exact Or.inr ⟨_, rfl, hmember⟩

theorem hasChild_mergeSlug (c : Container) (pool : SlugPool) (candidate : Slug)
    (child : ResourceId) :
    (container (c.mergeSlug pool candidate).2.1).hasChild child = (container c).hasChild child := by
  obtain ⟨slugs, hslugs⟩ := c.mergeSlug_eq pool candidate
  rw [hslugs]
  rfl

end Entity

variable {library : TemplateLibrary} {s t : StoreState} {c : Change} {reply : Reply}
  {owner child id : ResourceId} {key : StoredKey} {e d : Entity}

/-! ## References that stay -/

namespace StoreState

theorem names_of_found (hkey : id.keyed = .ok key) (hfree : s.entity? key = none)
    (hput : t.resources = s.resources.insert key e) (h : s.names owner child = true) :
    t.names owner child = true := by
  rw [names_update (entityOf?_put hkey hput)]
  split
  · next howner =>
    rw [howner, names, entityOf?_of_keyed hkey, hfree] at h
    cases h
  · exact h

theorem names_of_replace (hkey : id.keyed = .ok key) (he : s.entity? key = some e)
    (hput : t.resources = s.resources.insert key d)
    (hkeeps : owner = id → e.hasChild child = true → d.hasChild child = true)
    (h : s.names owner child = true) : t.names owner child = true := by
  rw [names_update (entityOf?_put hkey hput)]
  split
  · next howner =>
    rw [howner, names_eq hkey he] at h
    exact hkeeps howner h
  · exact h

/-- A child is made, unless it has been there, and its parent is put in its own place again. -/
theorem names_of_placed {template : Template} {made : ResourceId} {madeKey : StoredKey}
    (hkey : id.keyed = .ok key) (he : s.entity? key = some e) (hmade : made.keyed = .ok madeKey)
    (hkeeps : e.hasChild child = true → d.hasChild child = true)
    (h : s.names owner child = true) :
    ((s.provide madeKey template made id).putEntity key d).names owner child = true := by
  have hprovided : (s.provide madeKey template made id).names owner child = true := by
    cases hfree : s.entity? madeKey with
    | some _ =>
        rw [provide_of_some hfree]
        exact h
    | none =>
        rw [provide_of_none hfree]
        exact names_of_found hmade hfree rfl h
  have hkept := entity?_provide madeKey template made id he
  exact names_of_replace hkey hkept rfl (fun _ ↦ hkeeps) hprovided

/-- What takes a reference to the child away from the owner: the slot that holds the child is
cleared, the child is taken off the members, or the owner is removed with all its references. -/
def Releases (s : StoreState) (owner child : ResourceId) : Deed → Prop
  | .change (.detach resource slot) =>
      resource = owner ∧ ∃ e, s.entityOf? owner = some e ∧
        e.base.slots.find? slot = some (some child)
  | .change (.removeMember container member) => container = owner ∧ member = child
  | .change (.remove id) => id = owner
  | _ => False

end StoreState

theorem Granted.names_or_releases (h : Granted library s c reply t)
    (hnames : s.names owner child = true) :
    t.names owner child = true ∨ s.Releases owner child (.change c) := by
  cases h with
  | created _ hkey hfree => exact Or.inl (names_of_found hkey hfree rfl hnames)
  | attached _ hkey he hslot _ hbound =>
      left
      refine names_of_placed hkey he hbound (fun hchild ↦ ?_) hnames
      exact (Entity.hasChild_bind hslot child).mpr (Or.inr hchild)
  | @detached resource bound slot key e hkey he hslot =>
      by_cases hreleases : resource = owner ∧ bound = child
      · obtain ⟨rfl, rfl⟩ := hreleases
        exact Or.inr ⟨rfl, e, (entityOf?_of_keyed hkey).trans he, hslot⟩
      · left
        refine names_of_replace hkey he rfl (fun howner ↦ ?_) hnames
        apply Entity.hasChild_of_withBase
        intro place hplace
        have hne : place ≠ slot := by
          rintro rfl
          rw [hslot] at hplace
          exact hreleases ⟨howner.symm, Option.some.inj (Option.some.inj hplace)⟩
        exact ⟨place, (Table.find?_insert_ne _ _ hne).trans hplace⟩
  | entered _ hkey hc _ hmember =>
      left
      refine names_of_placed hkey hc hmember (fun hchild ↦ ?_) hnames
      exact (Entity.hasChild_enter _ _ child).mpr (Or.inr hchild)
  | @dropped container member key c hkey hc =>
      by_cases hreleases : container = owner ∧ member = child
      · exact Or.inr hreleases
      · left
        refine names_of_replace hkey hc rfl (fun howner ↦ ?_) hnames
        apply Entity.hasChild_of_drop_ne
        rintro rfl
        exact hreleases ⟨howner.symm, rfl⟩
  | slugAdded hkey hc | slugMerged hkey hc =>
      left
      refine names_of_replace hkey hc rfl (fun _ hchild ↦ ?_) hnames
      rw [Entity.hasChild_mergeSlug]
      exact hchild
  | directed hkey he | settled hkey he =>
      left
      refine names_of_replace hkey he rfl (fun _ ↦ ?_) hnames
      exact Entity.hasChild_of_withBase fun slot hslot ↦ ⟨slot, hslot⟩
  | complained hkey he hreport | complainedAside hkey he hreport =>
      obtain ⟨failure, -, rfl, rfl⟩ := Resource.report?_eq_some_iff.mp hreport
      left
      refine names_of_replace hkey he rfl (fun _ ↦ ?_) hnames
      exact Entity.hasChild_of_withBase fun slot hslot ↦ ⟨slot, hslot⟩
  | noContainer | noResource | published | amended | retracted => exact Or.inl hnames
  | @removed id key _ hkey =>
      by_cases howner : owner = id
      · exact Or.inr howner.symm
      · left
        rw [names_update (entityOf?_erase hkey rfl), if_neg howner]
        exact hnames

theorem Deed.names_or_releases (hs : s.Sound) (d : Deed) (hnames : s.names owner child = true) :
    (d.on library s).names owner child = true ∨ s.Releases owner child d := by
  rcases d.granted_or_idle library hs with ⟨slugs, hidle⟩ | ⟨c, reply, rfl, hgranted⟩
  · rw [hidle]
    exact Or.inl hnames
  · exact hgranted.names_or_releases hnames

/-- A reference stays through whatever comes, unless it is taken away at some point. -/
theorem names_replay_or_releases (library : TemplateLibrary) (hs : s.Sound)
    (hnames : s.names owner child = true) (deeds : List Deed) :
    (replay library s deeds).names owner child = true ∨
      ∃ before d, before ++ [d] <+: deeds ∧
        (replay library s before).Releases owner child d := by
  induction deeds using List.reverseRecOn with
  | nil => exact Or.inl hnames
  | append_singleton deeds d ih =>
      rcases ih with hstays | ⟨before, e, hbefore, hreleases⟩
      · have hsound : (replay library s deeds).Sound :=
          replay_induction hs hs fun t ht e _ _ ↦ (e.effects ht).sound ht
        rw [replay_concat]
        rcases d.names_or_releases hsound hstays with hstill | hreleases
        · exact Or.inl hstill
        · exact Or.inr ⟨deeds, d, List.prefix_rfl, hreleases⟩
      · exact Or.inr ⟨before, e, hbefore.trans (List.prefix_append _ _), hreleases⟩

/-! ## Children that have been removed in their place -/

/-- Only its own removal takes a child away from its parent. -/
theorem Deed.childOf_or_removes (hs : s.Sound) (d : Deed) (h : s.ChildOf child owner) :
    (d.on library s).ChildOf child owner ∨ d = .change (.remove child) := by
  rcases d.granted_or_idle library hs with ⟨slugs, hidle⟩ | ⟨c, reply, rfl, hgranted⟩
  · rw [hidle]
    exact Or.inl h
  · by_cases hstays : ∀ id, c ≠ .remove id
    · exact Or.inl ((hgranted.growth hstays).lineage?_eq_some h)
    · push Not at hstays
      obtain ⟨id, rfl⟩ := hstays
      by_cases hid : child = id
      · exact Or.inr (congrArg (fun id ↦ Deed.change (.remove id)) hid.symm)
      · left
        generalize Deed.on library s (.change (.remove id)) = t at hgranted ⊢
        cases hgranted with
        | removed hkey =>
            rw [ChildOf, lineage?_update (entityOf?_erase hkey rfl), Function.update_of_ne hid]
            exact h

/-- A child has been removed from under its owner while a reference held it. Since then the
reference has held it throughout, and it has not been there as a child of the owner. -/
def LeftBehind (library : TemplateLibrary) (Holds : StoreState → Prop) (deeds : List Deed)
    (owner child : ResourceId) : Prop :=
  ∃ before since, deeds = before ++ .change (.remove child) :: since ∧
    Holds (replay library .empty before) ∧ (replay library .empty before).ChildOf child owner ∧
    ∀ more, more <+: since →
      let s := replay library .empty (before ++ .change (.remove child) :: more)
      Holds s ∧ ¬s.ChildOf child owner

/-- References that come to hold a child only when it is there hold one that is not there exactly if
they have been left behind. -/
theorem leftBehind_iff {Holds : StoreState → Prop} (hempty : ¬Holds .empty)
    (hdeed : ∀ (s : StoreState) (d : Deed), s.Sound → Holds (d.on library s) →
      Holds s ∨ (d.on library s).ChildOf child owner) {deeds : List Deed} :
    LeftBehind library Holds deeds owner child ↔
      Holds (replay library .empty deeds) ∧
        ¬(replay library .empty deeds).ChildOf child owner := by
  constructor
  · rintro ⟨before, since, rfl, -, -, hsince⟩
    exact hsince since List.prefix_rfl
  · induction deeds using List.reverseRecOn with
    | nil =>
        rintro ⟨hholds, -⟩
        exact absurd hholds hempty
    | append_singleton deeds d ih =>
        rintro ⟨hholds, hgone⟩
        have hs : (replay library .empty deeds).Sound := sound_replay library deeds
        have hnow := And.intro hholds hgone
        rw [replay_concat] at hholds hgone
        have hold := (hdeed _ d hs hholds).resolve_right hgone
        by_cases hthere : (replay library .empty deeds).ChildOf child owner
        · -- the child has just been removed
          obtain rfl := (d.childOf_or_removes hs hthere).resolve_left hgone
          refine ⟨deeds, [], rfl, hold, hthere, fun more hmore ↦ ?_⟩
          obtain rfl := List.prefix_nil.mp hmore
          exact hnow
        · obtain ⟨before, since, rfl, hheld, hchild, hsince⟩ := ih ⟨hold, hthere⟩
          refine ⟨before, since ++ [d], by simp, hheld, hchild, fun more hmore ↦ ?_⟩
          rcases List.prefix_concat_iff.mp hmore with rfl | hbefore
          · simpa using hnow
          · exact hsince more hbefore

theorem leftBehind_names_iff {deeds : List Deed} :
    LeftBehind library (fun s ↦ s.names owner child = true) deeds owner child ↔
      (replay library .empty deeds).names owner child = true ∧
        ¬(replay library .empty deeds).ChildOf child owner := by
  apply leftBehind_iff
  · rw [names, entityOf?_empty]
    exact Bool.false_ne_true
  · intro s d hs
    exact (d.shift hs).named

/-! ## Owners -/

theorem Deed.owned_iff (hs : s.Sound) (d : Deed) (howned : s.Owned) :
    (d.on library s).Owned ↔ ¬s.Poaches (d.on library s) :=
  (d.shift hs).owned_iff howned

/-- In a history with any operations in any order, whatever existing resource a slot or membership
names has the resource that names it as its parent, and so no two resources name it, exactly if no
operation makes a resource while somebody other than its parent still names it. What names a
resource that is not its child was left behind when this was removed; and it stays until the
reference itself is taken away. -/
theorem owned_throughout_iff (library : TemplateLibrary) (deeds : List Deed) :
    ((∀ before, before <+: deeds → (replay library .empty before).Owned) ↔
        ∀ before d, before ++ [d] <+: deeds →
          ¬(replay library .empty before).Poaches (replay library .empty (before ++ [d]))) ∧
      (∀ owner child, let s := replay library .empty deeds
        s.names owner child = true ∧ ¬s.ChildOf child owner ↔
          LeftBehind library (fun s ↦ s.names owner child = true) deeds owner child) ∧
      ∀ owner child since, (replay library .empty deeds).names owner child = true →
        (replay library .empty (deeds ++ since)).names owner child = true ∨
          ∃ more d, more ++ [d] <+: since ∧
            (replay library .empty (deeds ++ more)).Releases owner child d := by
  refine ⟨?_, fun owner child ↦ leftBehind_names_iff.symm, fun owner child since hnames ↦ ?_⟩
  · exact replay_forall_iff StoreState.owned_empty
      (fun _ d hs howned ↦ d.owned_iff hs howned) deeds
  · have hs : (replay library .empty deeds).Sound := sound_replay library deeds
    simpa only [replay_append] using names_replay_or_releases library hs hnames since

theorem not_owned_of_names {other : ResourceId} (hnames : s.names owner child = true)
    (hchild : s.ChildOf child other) (hne : other ≠ owner) : ¬s.Owned := by
  intro howned
  exact hne (Option.some.inj (howned.parent hnames hchild))

/-- A book is removed from the graph, but not from its shelf, and added to another shelf, which is
later removed. All the time the first shelf names the book. -/
theorem book_stays_on_first_shelf :
    let a : ResourceId := ⟨.text "a", "shelf"⟩
    let b : ResourceId := ⟨.text "b", "book"⟩
    let c : ResourceId := ⟨.text "c", "shelf"⟩
    let deeds : List Deed := [.change (.create "shelf" (.text "a")),
      .change (.create "shelf" (.text "c")), .change (.addMember a (.text "b")),
      .change (.remove b), .change (.addMember c (.text "b"))]
    let since : List Deed := [.change (.removeMember c b), .change (.remove c)]
    (∃ before d, before ++ [d] <+: deeds ∧ (replay .shelves .empty before).Poaches
        (replay .shelves .empty (before ++ [d]))) ∧
      LeftBehind .shelves (fun s ↦ s.names a b = true) deeds a b ∧
      (replay .shelves .empty deeds).names a b = true ∧
      (replay .shelves .empty (deeds ++ since)).names a b = true := by
  intro a b c deeds since
  have hnames : (replay .shelves .empty deeds).names a b = true := by decide +kernel
  have hparent : (replay .shelves .empty deeds).lineage? b = some (some c) := by decide +kernel
  have hother : ¬(replay .shelves .empty deeds).ChildOf b a := by
    rw [ChildOf, hparent]
    decide
  obtain ⟨howned, hleft, hstays⟩ := owned_throughout_iff .shelves deeds
  refine ⟨?_, (hleft a b).mp ⟨hnames, hother⟩, hnames, ?_⟩
  · by_contra hnone
    push Not at hnone
    exact not_owned_of_names hnames hparent (by decide) (howned.mpr hnone deeds List.prefix_rfl)
  · refine (hstays a b since hnames).resolve_right ?_
    rintro ⟨more, d, hmore, hreleases⟩
    have hd : d ∈ since := hmore.subset (by simp)
    have hcases : d = .change (.removeMember c b) ∨ d = .change (.remove c) := by
      simpa [since] using hd
    rcases hcases with rfl | rfl
    · exact absurd hreleases.1 (by decide)
    · exact absurd (show c = a from hreleases) (by decide)

/-- So it is for the history of every state in a run. -/
theorem Kernel.owned_run (library : TemplateLibrary) (moves : List Move) :
    ((ofLibrary library).run moves).view.Every fun s ↦
      ∃ deeds, deeds.Sublist (asked moves) ∧ s = replay library .empty deeds ∧
        ((∀ before, before <+: deeds → (replay library .empty before).Owned) ↔
          ∀ before d, before ++ [d] <+: deeds →
            ¬(replay library .empty before).Poaches (replay library .empty (before ++ [d]))) ∧
        ∀ owner child, s.names owner child = true ∧ ¬s.ChildOf child owner ↔
          LeftBehind library (fun s ↦ s.names owner child = true) deeds owner child := by
  refine every_of_replay (fun deeds ↦ ⟨?_, fun owner child ↦ leftBehind_names_iff.symm⟩) moves
  exact replay_forall_iff StoreState.owned_empty
    (fun _ d hs howned ↦ d.owned_iff hs howned) deeds

/-- A book is removed from the graph, but not from its shelf, and added to another shelf. -/
theorem book_on_two_shelves :
    let a : ResourceId := ⟨.text "a", "shelf"⟩
    let b : ResourceId := ⟨.text "b", "book"⟩
    let c : ResourceId := ⟨.text "c", "shelf"⟩
    let s := replay .shelves .empty [.change (.create "shelf" (.text "a")),
      .change (.create "shelf" (.text "c")), .change (.addMember a (.text "b")),
      .change (.remove b), .change (.addMember c (.text "b"))]
    s.lineage? b = some (some c) ∧ s.names a b = true ∧ s.names c b = true ∧ ¬s.Owned := by
  intro a b c s
  have hparent : s.lineage? b = some (some c) := by decide +kernel
  have hstale : s.names a b = true := by decide +kernel
  exact ⟨hparent, hstale, by decide +kernel, not_owned_of_names hstale hparent (by decide)⟩

end ResourceKernel
