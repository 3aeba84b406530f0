import ResourceKernel.Proofs.Graph.Aspect
import ResourceKernel.Proofs.Kernel.History

/-!
# Members as they have been heard of

Whoever listens to what is answered about a container can keep a roster: whoever is added comes
last, whoever is dropped goes, and with the container all go. The records of the container are the
roster with the numbers that have been given. Numbers are given in order, and each of them once,
also to a member that comes back.
-/

namespace ResourceKernel

/-- Who has been given a number since the container was made, and who is still a member. -/
structure Roster where
  given : List Member
  members : List Member
  deriving DecidableEq, Repr

namespace Roster

def blank : Roster := ⟨[], []⟩

def hear (container : ResourceId) (r : Roster) : Change → Result Reply → Roster
  | .addMember owner _, .ok (.member record) =>
      if owner = container then ⟨r.given ++ [record], r.members ++ [record]⟩ else r
  | .removeMember owner member, .ok (.flag true) =>
      if owner = container then { r with members := r.members.filter fun m ↦ m.member ≠ member }
      else r
  | .remove resource, .ok (.flag true) => if resource = container then blank else r
  | _, _ => r

def note (library : TemplateLibrary) (container : ResourceId) (r : Roster) (s : StoreState) :
    Deed → Roster
  | .change c => r.hear container c ((c.operation library).on s).1
  | .advance _ => r

def along (library : TemplateLibrary) (container : ResourceId) (r : Roster) (s : StoreState) :
    List Deed → Roster
  | [] => r
  | d :: deeds => along library container (r.note library container s d) (d.on library s) deeds

theorem hear_of_refuses {answer : Result Reply} (h : Refuses answer) (container : ResourceId)
    (r : Roster) (c : Change) : r.hear container c answer = r := by
  cases h <;> cases c <;> rfl

end Roster

/-- The records of a container in order, and its counter. -/
structure Roll where
  entries : List (Nat × Member)
  counter : Nat

def Roll.blank : Roll := ⟨[], 0⟩

def Container.roll (c : Container) : Roll := ⟨c.members.entries, c.counter⟩

def Entity.roll (e : Entity) : Roll := e.container?.elim .blank Container.roll

theorem Entity.roll_fresh (t : Template) (id : ResourceId) (parent : Option ResourceId) :
    (fresh t id parent).roll = .blank := by
  unfold fresh
  split <;> rfl

theorem Entity.roll_withBase (e : Entity) (r : Resource) : (e.withBase r).roll = e.roll := by
  cases e <;> rfl

theorem Entity.roll_container (c : Container) : (container c).roll = c.roll := rfl

theorem Container.roll_mergeSlug (c : Container) (pool : SlugPool) (candidate : Slug) :
    (c.mergeSlug pool candidate).2.1.roll = c.roll := by
  obtain ⟨slugs, hslugs⟩ := c.mergeSlug_eq pool candidate
  rw [hslugs]
  rfl

theorem Container.Numbered.roll_entered {c : Container} (h : c.Numbered) (member : ResourceId) :
    (c.entered member).roll =
      ⟨c.roll.entries ++ [(c.counter, ⟨c.id, member, c.counter⟩)], c.roll.counter + 1⟩ := by
  rw [roll, h.entries_entered]
  rfl

theorem Container.Numbered.roll_removeMember {c : Container} (h : c.Numbered)
    (member : ResourceId) : (c.removeMember member).2.roll =
      ⟨c.roll.entries.filter fun e ↦ e.2.member ≠ member, c.roll.counter⟩ := by
  rw [roll, h.entries_removeMember]
  unfold Container.removeMember
  split <;> rfl

def StoreState.roll (s : StoreState) : ResourceId → Roll := s.aspect Entity.roll .blank

theorem StoreState.roll_put {s t : StoreState} {id : ResourceId} {key : StoredKey} {e : Entity}
    (hkey : id.keyed = .ok key) (hput : t.resources = s.resources.insert key e) :
    t.roll = Function.update s.roll id e.roll :=
  aspect_put hkey hput

/-- What a change that is granted means to the records of a container. -/
inductive Rolling (container : ResourceId) (s t : StoreState) : Change → Reply → Prop
  | same {c : Change} {reply : Reply} (hunheard : ∀ r : Roster, r.hear container c (.ok reply) = r)
      (hroll : t.roll container = s.roll container) : Rolling container s t c reply
  | entered {name : Name} {record : Member} (hnumber : record.number = (s.roll container).counter)
      (hroll : t.roll container =
        ⟨(s.roll container).entries ++ [(record.number, record)], (s.roll container).counter + 1⟩) :
      Rolling container s t (.addMember container name) (.member record)
  | dropped {member : ResourceId}
      (hroll : t.roll container =
        ⟨(s.roll container).entries.filter fun e ↦ e.2.member ≠ member,
          (s.roll container).counter⟩) :
      Rolling container s t (.removeMember container member) (.flag true)
  | removed (hroll : t.roll container = .blank) :
      Rolling container s t (.remove container) (.flag true)

variable {library : TemplateLibrary} {s t : StoreState} {c : Change} {reply : Reply}

open StoreState

/-- Only what is answered about the container itself is heard. -/
theorem Rolling.of_update {container owner : ResourceId} {after : Roll}
    (hroll : t.roll = Function.update s.roll owner after)
    (hunheard : owner ≠ container → ∀ r : Roster, r.hear container c (.ok reply) = r)
    (hheard : owner = container → t.roll container = after → Rolling container s t c reply) :
    Rolling container s t c reply := by
  by_cases howner : owner = container
  · apply hheard howner
    rw [hroll, howner, Function.update_self]
  · apply Rolling.same (hunheard howner)
    rw [hroll, Function.update_of_ne (Ne.symm howner)]

theorem Granted.rolling (h : Granted library s c reply t) (hs : s.Sound) (container : ResourceId) :
    Rolling container s t c reply := by
  have hsame : ∀ {c : Change} {reply : Reply}, (∀ r : Roster, r.hear container c (.ok reply) = r) →
      t.roll = s.roll → Rolling container s t c reply := by
    intro c reply hunheard hroll
    exact .same hunheard (congrFun hroll container)
  cases h with
  | created _ hkey hfree =>
      exact hsame (fun _ ↦ rfl) (aspect_found hkey hfree (Entity.roll_fresh _ _ _))
  | attached _ hkey he _ _ hchild =>
      apply hsame (fun _ ↦ rfl)
      exact aspect_placed hkey he hchild (Entity.roll_fresh _ _ _) (Entity.roll_withBase _ _)
  | detached hkey he | directed hkey he | settled hkey he =>
      exact hsame (fun _ ↦ rfl) (aspect_replace hkey he rfl (Entity.roll_withBase _ _))
  | complained hkey he | complainedAside hkey he =>
      exact hsame (fun _ ↦ rfl) (aspect_replace hkey he rfl (Entity.roll_withBase _ _))
  | slugAdded hkey hc | slugMerged hkey hc =>
      exact hsame (fun _ ↦ rfl) (aspect_replace hkey hc rfl (Container.roll_mergeSlug _ _ _))
  | noContainer | noResource => exact hsame (fun _ ↦ rfl) rfl
  | published | amended | retracted => exact hsame (fun _ ↦ rfl) (aspect_congr rfl)
  | @entered owner name t key memberKey c _ hkey hc _ hmember =>
      have hold : s.roll owner = c.roll := aspect_eq ((entityOf?_of_keyed hkey).trans hc)
      have hprovided : (s.provide memberKey t ⟨name, t.id⟩ owner).roll = s.roll :=
        aspect_provide hmember (Entity.roll_fresh _ _ _)
      have hroll : ((s.provide memberKey t ⟨name, t.id⟩ owner).putEntity key
          (.container (c.entered ⟨name, t.id⟩))).roll =
            Function.update s.roll owner (Entity.container (c.entered ⟨name, t.id⟩)).roll := by
        rw [← hprovided]
        exact roll_put hkey rfl
      refine .of_update hroll (fun howner _ ↦ if_neg howner) ?_
      rintro rfl hafter
      rw [Entity.roll_container, (hs.numbered hc).roll_entered, ← hold] at hafter
      refine .entered ?_ hafter
      rw [hold]
      rfl
  | @dropped owner member key c hkey hc =>
      have hold : s.roll owner = c.roll := aspect_eq ((entityOf?_of_keyed hkey).trans hc)
      refine .of_update (roll_put hkey rfl) (fun howner _ ↦ if_neg howner) ?_
      rintro rfl hroll
      rw [Entity.roll_container, (hs.numbered hc).roll_removeMember, ← hold] at hroll
      exact .dropped hroll
  | removed hkey =>
      refine .of_update (aspect_erase hkey rfl) (fun howner _ ↦ if_neg howner) ?_
      rintro rfl hroll
      exact .removed hroll

/-- The records are those of the roster, and so many numbers have been given as the counter says. -/
structure Roster.Keeps (r : Roster) (roll : Roll) : Prop where
  entries : roll.entries = r.members.map fun m ↦ (m.number, m)
  given : r.given.map Member.number = List.range roll.counter

namespace Roster

theorem keeps_blank : blank.Keeps .blank := ⟨rfl, rfl⟩

theorem Keeps.rolling {r : Roster} {container : ResourceId} (h : r.Keeps (s.roll container))
    (hrolling : Rolling container s t c reply) :
    (r.hear container c (.ok reply)).Keeps (t.roll container) := by
  cases hrolling with
  | same hunheard hroll =>
      rw [hunheard, hroll]
      exact h
  | @entered name record hnumber hroll =>
      rw [hroll, hear, if_pos rfl]
      constructor
      · rw [h.entries, List.map_append]
        rfl
      · rw [List.map_append, h.given, List.range_succ, ← hnumber]
        rfl
  | dropped hroll =>
      rw [hroll, hear, if_pos rfl]
      refine ⟨?_, h.given⟩
      rw [h.entries, List.filter_map]
      rfl
  | removed hroll =>
      rw [hroll, hear, if_pos rfl]
      exact keeps_blank

theorem Keeps.note {r : Roster} {container : ResourceId} (h : r.Keeps (s.roll container))
    (hs : s.Sound) (d : Deed) :
    (r.note library container s d).Keeps ((d.on library s).roll container) := by
  cases d with
  | advance index =>
      obtain ⟨slugs, hslugs⟩ := s.advance_eq index
      rw [Roster.note, Deed.on, hslugs]
      exact h
  | change c =>
      have hanswers : Answers library s c ((c.operation library).on s) := c.answers hs
      rw [Roster.note, Deed.on]
      generalize (c.operation library).on s = after at hanswers ⊢
      cases hanswers with
      | refused hrefuses =>
          rw [hear_of_refuses hrefuses]
          exact h
      | granted hgranted => exact h.rolling (hgranted.rolling hs container)

theorem Keeps.along {r : Roster} {container : ResourceId} (h : r.Keeps (s.roll container))
    (hs : s.Sound) (deeds : List Deed) :
    (r.along library container s deeds).Keeps ((replay library s deeds).roll container) := by
  induction deeds generalizing r s with
  | nil => exact h
  | cons d deeds ih => exact ih (h.note hs d) ((d.effects hs).sound hs)

end Roster

theorem Rolling.counter_le {container : ResourceId} (h : Rolling container s t c reply)
    (hstays : c ≠ .remove container) : (s.roll container).counter ≤ (t.roll container).counter := by
  cases h with
  | same _ hroll | dropped hroll => exact Nat.le_of_eq (congrArg Roll.counter hroll).symm
  | entered _ hroll =>
      rw [hroll]
      exact Nat.le_succ _
  | removed => exact absurd rfl hstays

theorem counter_le_replay (library : TemplateLibrary) (hs : s.Sound) {container : ResourceId}
    {more : List Deed} (hmore : .change (.remove container) ∉ more) :
    (s.roll container).counter ≤ ((replay library s more).roll container).counter := by
  refine replay_induction (P := fun t ↦ (s.roll container).counter ≤ (t.roll container).counter) hs
    (Nat.le_refl _) fun t ht d hd hle ↦ Nat.le_trans hle ?_
  rcases d.granted_or_idle library ht with ⟨slugs, hidle⟩ | ⟨c, reply, rfl, hgranted⟩
  · exact Nat.le_of_eq (congrArg (fun u ↦ (u.roll container).counter) hidle.symm)
  · apply (hgranted.rolling ht container).counter_le
    rintro rfl
    exact hmore hd

/-- A new member is given the number that the counter has reached. -/
theorem number_of_addMember (hs : s.Sound) {container : ResourceId} {name : Name}
    {record : Member} (hadded :
      (((Change.addMember container name).operation library).on s).1 = .ok (.member record)) :
    record.number = (s.roll container).counter := by
  have hanswers : Answers library s (.addMember container name) _ :=
    (Change.addMember container name).answers hs
  generalize ((Change.addMember container name).operation library).on s = after at hadded hanswers
  cases hanswers with
  | @refused answer hrefuses =>
      obtain rfl : answer = .ok (.member record) := hadded
      cases refuses_ok_iff.mp hrefuses
  | granted hgranted =>
      obtain rfl := Except.ok.inj hadded
      cases hgranted.rolling hs container with
      | same hunheard =>
          -- a new member is always heard of
          have hblank := congrArg Roster.given (hunheard .blank)
          rw [Roster.hear, if_pos rfl] at hblank
          cases hblank
      | entered hnumber => exact hnumber

/-! ## Looking members up -/

namespace Roster

variable {r : Roster} {d : Container}

theorem Keeps.memberList_eq (h : r.Keeps d.roll) : d.memberList = r.members := by
  have hentries : d.members.entries = r.members.map fun m ↦ (m.number, m) := h.entries
  rw [Container.memberList, Table.values, hentries, List.map_map]
  exact List.map_id r.members

theorem Keeps.memberCount_eq (h : r.Keeps d.roll) : d.memberCount = r.members.length := by
  have hentries : d.members.entries = r.members.map fun m ↦ (m.number, m) := h.entries
  rw [Container.memberCount, Table.size, hentries, List.length_map]

theorem Keeps.memberByNumber?_iff (h : r.Keeps d.roll) (number : Nat) (record : Member) :
    d.memberByNumber? number = some record ↔ record ∈ r.members ∧ record.number = number := by
  have hentries : d.members.entries = r.members.map fun m ↦ (m.number, m) := h.entries
  rw [Container.memberByNumber?, Table.find?_eq_some_iff, hentries, List.mem_map]
  constructor
  · rintro ⟨m, hm, heq⟩
    obtain ⟨rfl, rfl⟩ := Prod.mk.inj heq
    exact ⟨hm, rfl⟩
  · rintro ⟨hm, rfl⟩
    exact ⟨record, hm, rfl⟩

theorem Keeps.member?_iff (h : r.Keeps d.roll) (hd : d.Numbered) (member : ResourceId)
    (record : Member) :
    d.member? member = some record ↔ record ∈ r.members ∧ record.member = member := by
  rw [Container.member?, Option.bind_eq_some_iff]
  constructor
  · rintro ⟨number, hindex, hrecord⟩
    obtain ⟨found, hfound, hmember⟩ := (hd.index_iff member number).mp hindex
    obtain rfl := Option.some.inj (hfound.symm.trans hrecord)
    exact ⟨((h.memberByNumber?_iff number found).mp hrecord).1, hmember⟩
  · rintro ⟨hm, hmember⟩
    have hrecord := (h.memberByNumber?_iff record.number record).mpr ⟨hm, rfl⟩
    have hindex := (hd.index_iff member record.number).mpr ⟨record, hrecord, hmember⟩
    exact ⟨record.number, hindex, hrecord⟩

theorem Keeps.hasMember_iff (h : r.Keeps d.roll) (hd : d.Numbered) (member : ResourceId) :
    d.hasMember member = true ↔ ∃ record ∈ r.members, record.member = member := by
  rw [Container.hasMember_iff]
  constructor
  · rintro ⟨number, hindex⟩
    obtain ⟨record, hrecord, hmember⟩ := (hd.index_iff member number).mp hindex
    exact ⟨record, ((h.memberByNumber?_iff number record).mp hrecord).1, hmember⟩
  · rintro ⟨record, hm, hmember⟩
    have hrecord := (h.memberByNumber?_iff record.number record).mpr ⟨hm, rfl⟩
    exact ⟨record.number, (hd.index_iff member record.number).mpr ⟨record, hrecord, hmember⟩⟩

end Roster

theorem Roster.keeps_replay (library : TemplateLibrary) (deeds : List Deed) {id : ResourceId}
    {c : Container} (hc : (replay library .empty deeds).entityOf? id = some (.container c)) :
    (blank.along library id .empty deeds).Keeps c.roll := by
  have hempty : blank.Keeps (StoreState.empty.roll id) := by
    rw [StoreState.roll, aspect_empty]
    exact keeps_blank
  have hroll : (replay library .empty deeds).roll id = c.roll := aspect_eq hc
  exact hroll ▸ hempty.along sound_empty deeds

theorem numbered_replay (library : TemplateLibrary) (deeds : List Deed) {id : ResourceId}
    {c : Container} (hc : (replay library .empty deeds).entityOf? id = some (.container c)) :
    c.Numbered ∧ c.id = id := by
  have hs : (replay library .empty deeds).Sound := sound_replay library deeds
  obtain ⟨key, hkey, hentity⟩ := entityOf?_eq_some_iff.mp hc
  exact ⟨hs.numbered hentity, ResourceId.keyed_inj (hs.keyed hentity) hkey⟩

/-- In every state of a history, a container has numbers for its members and members for its numbers
that belong to each other; they are below the counter, which never goes back as long as the
container stays. The numbers that have been given since the container was made grow, and the next
one is greater than all of them. The members are those of the roster in its order, and whatever
looks members up finds them there. -/
theorem members_of_roster (library : TemplateLibrary) (deeds : List Deed) (id : ResourceId) :
    let s := replay library .empty deeds
    let r := Roster.blank.along library id .empty deeds
    ∀ c, s.entityOf? id = some (.container c) →
      (∀ member number, c.index.find? member = some number ↔
        ∃ record, c.members.find? number = some record ∧ record.member = member) ∧
      (∀ number record, c.members.find? number = some record →
        number < c.counter ∧ record = ⟨id, record.member, number⟩) ∧
      (∀ more d, .change (.remove id) ∉ more →
        (replay library .empty (deeds ++ more)).entityOf? id = some (.container d) →
        c.counter ≤ d.counter) ∧
      r.given.Pairwise (fun earlier later ↦ earlier.number < later.number) ∧
      (∀ name record, (((Change.addMember id name).operation library).on s).1 =
        .ok (.member record) → ∀ earlier ∈ r.given, earlier.number < record.number) ∧
      c.memberList = r.members ∧
      (∀ member, c.hasMember member = true ↔ ∃ record ∈ r.members, record.member = member) ∧
      (∀ member record, c.member? member = some record ↔
        record ∈ r.members ∧ record.member = member) ∧
      (∀ number record, c.memberByNumber? number = some record ↔
        record ∈ r.members ∧ record.number = number) ∧
      c.memberCount = r.members.length := by
  intro s r c hc
  have hs : s.Sound := sound_replay library deeds
  have hkeeps : r.Keeps c.roll := Roster.keeps_replay library deeds hc
  have hroll : s.roll id = c.roll := aspect_eq hc
  obtain ⟨hnumbered, hid⟩ := numbered_replay library deeds hc
  have hgiven : r.given.map Member.number = List.range c.counter := hkeeps.given
  refine ⟨hnumbered.index_iff, fun number record hrecord ↦ ⟨hnumbered.lt_counter hrecord, ?_⟩,
    fun more d hmore hd ↦ ?_, ?_, fun name record hadded earlier hearlier ↦ ?_,
    hkeeps.memberList_eq, hkeeps.hasMember_iff hnumbered, hkeeps.member?_iff hnumbered,
    hkeeps.memberByNumber?_iff, hkeeps.memberCount_eq⟩
  · exact hid ▸ hnumbered.record_eq hrecord
  · have hle := counter_le_replay library hs hmore
    rw [replay_append] at hd
    rw [hroll, StoreState.roll, aspect_eq hd] at hle
    exact hle
  · rw [← List.pairwise_map (f := Member.number), hgiven]
    exact List.pairwise_lt_range
  · have hlt : earlier.number ∈ List.range c.counter :=
      hgiven ▸ List.mem_map_of_mem hearlier
    rw [number_of_addMember hs hadded, hroll]
    exact List.mem_range.mp hlt

/-- In every state of a run a container has the members that its roster has after the history that
the state comes of, and all numbers below the counter have been given, one after another. -/
theorem Kernel.members_run (library : TemplateLibrary) (moves : List Move) :
    ((ofLibrary library).run moves).view.Every fun s ↦
      ∃ deeds, deeds.Sublist (asked moves) ∧ s = replay library .empty deeds ∧
        ∀ id c, s.entityOf? id = some (.container c) →
          let r := Roster.blank.along library id .empty deeds
          r.given.map Member.number = List.range c.counter ∧
          (∀ name record, (((Change.addMember id name).operation library).on s).1 =
            .ok (.member record) → record.number = c.counter) ∧
          (∀ member number, c.index.find? member = some number ↔
            ∃ record, c.members.find? number = some record ∧ record.member = member) ∧
          c.memberList = r.members ∧
          (∀ member record, c.member? member = some record ↔
            record ∈ r.members ∧ record.member = member) ∧
          (∀ number record, c.memberByNumber? number = some record ↔
            record ∈ r.members ∧ record.number = number) := by
  refine every_of_replay ?_ moves
  intro deeds id c hc r
  have hkeeps : r.Keeps c.roll := Roster.keeps_replay library deeds hc
  obtain ⟨hnumbered, -⟩ := numbered_replay library deeds hc
  refine ⟨hkeeps.given, fun name record hadded ↦ ?_, hnumbered.index_iff, hkeeps.memberList_eq,
    hkeeps.member?_iff hnumbered, hkeeps.memberByNumber?_iff⟩
  rw [number_of_addMember (sound_replay library deeds) hadded, StoreState.roll, aspect_eq hc]
  rfl

/-- A book that is taken off a shelf and put back comes after the books that have stayed, with a new
number. -/
theorem book_put_back_last :
    let a : ResourceId := ⟨.text "a", "shelf"⟩
    let b : ResourceId := ⟨.text "b", "book"⟩
    let c : ResourceId := ⟨.text "c", "book"⟩
    let deeds : List Deed := [.change (.create "shelf" (.text "a")),
      .change (.addMember a (.text "b")), .change (.addMember a (.text "c")),
      .change (.addMember a (.text "b")), .change (.removeMember a b),
      .change (.addMember a (.text "b"))]
    let s := replay .shelves .empty deeds
    ∃ shelf, s.entityOf? a = some (.container shelf) ∧
      shelf.memberList = [⟨a, c, 1⟩, ⟨a, b, 2⟩] ∧ shelf.member? b = some ⟨a, b, 2⟩ ∧
      ∀ record, (((Change.addMember a (.text "d")).operation .shelves).on s).1 =
        .ok (.member record) → 2 < record.number := by
  intro a b c deeds s
  have hroster : Roster.blank.along .shelves a .empty deeds =
      ⟨[⟨a, b, 0⟩, ⟨a, c, 1⟩, ⟨a, b, 2⟩], [⟨a, c, 1⟩, ⟨a, b, 2⟩]⟩ := by
    decide +kernel
  have hsome : ((s.entityOf? a).bind Entity.container?).isSome = true := by decide +kernel
  obtain ⟨shelf, hshelf⟩ := Option.isSome_iff_exists.mp hsome
  have hentity : s.entityOf? a = some (.container shelf) := by
    obtain ⟨e, he, hcontainer⟩ := Option.bind_eq_some_iff.mp hshelf
    exact Entity.container?_eq_some_iff.mp hcontainer ▸ he
  obtain ⟨-, -, -, -, hnext, hlist, -, hmember, -⟩ :=
    members_of_roster .shelves deeds a shelf hentity
  rw [hroster] at hnext hlist hmember
  refine ⟨shelf, hentity, hlist, (hmember b _).mpr ⟨by simp, rfl⟩, fun record hadded ↦ ?_⟩
  exact hnext (.text "d") record hadded ⟨a, b, 2⟩ (by simp)

end ResourceKernel
