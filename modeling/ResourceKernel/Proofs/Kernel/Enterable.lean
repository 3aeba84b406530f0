import ResourceKernel.Proofs.Kernel.Attached
import ResourceKernel.Proofs.Kernel.Fits
import ResourceKernel.Proofs.Kernel.Placed
import ResourceKernel.Proofs.Library.Closed

/-!
# When a member is entered

Adding a member looks at the library, at the members of the container and at the resource that is
to be a member. It is said here, without the order of these checks, when the member is entered.
The resource is taken as it is if it is a child of the container, whether or not it has been a
member before, and is made if it does not exist.
-/

namespace ResourceKernel

/-- Each template stands under its own identifier, and just those for containers lead to a template
for members. -/
structure TemplateLibrary.Regular (l : TemplateLibrary) : Prop where
  identified : l.Identified
  members {ref : TemplateId} {owner : Template} (h : l.find? ref = some owner) :
    (l.memberOf? owner).isSome = owner.isContainer

theorem TemplateLibrary.regular_of_load {catalog : HandlerCatalog} {roots : List HandlerId}
    {library : TemplateLibrary} (hkeyed : catalog.Keyed)
    (hload : load catalog roots = .ok library) : library.Regular where
  identified := identified_load hload
  members := by
    intro ref owner howner
    obtain ⟨s, hs, rfl⟩ := exists_finished hkeyed hload
    obtain ⟨-, h, hh⟩ := hs.find?_library_iff.mp howner
    exact Bool.eq_iff_iff.mpr (hs.isSome_memberOf?_iff hh)

/-- Nothing stands in the way of entering the member into the container. -/
structure Enterable (library : TemplateLibrary) (s : StoreState) (container member : ResourceId) :
    Prop where
  container_encodes : ∃ k, ResourceKey.encode container = .ok k
  member_encodes : ∃ k, ResourceKey.encode member = .ok k
  template : ∃ owner, library.find? container.templateId = some owner ∧
    owner.isContainer = true ∧ owner.memberTemplate? = some member.templateId
  exists_container : ∃ e, s.entityOf? container = some e
  not_hasMember {c : Container} (h : s.entityOf? container = some (.container c)) :
    c.hasMember member = false
  absent_or_childOf : s.entityOf? member = none ∨ s.ChildOf member container

/-- A member has been entered and recorded, and has been made if it was missing. -/
structure Enters (library : TemplateLibrary) (s t : StoreState) (container : ResourceId)
    (record : Member) : Prop extends Placed library s t record.member container where
  container_eq : record.container = container
  entered : ∃ c, s.entityOf? container = some (.container c) ∧
    t.entityOf? container = some (.container (c.entered record.member)) ∧
    record.number = c.counter ∧
    (c.entered record.member).memberByNumber? record.number = some record

variable {library : TemplateLibrary} {s t : StoreState} {container member : ResourceId}
  {name : Name} {record : Member}

open ResourceKernel.Graph StoreState

theorem enterable_of_granted (hlibrary : library.Regular)
    (h : Granted library s (.addMember container name) (.member record) t) :
    record.member.name = name ∧ Enterable library s container record.member := by
  cases h with
  | entered hallowed hkey hc hnew hmember howned =>
      have hthere := (entityOf?_of_keyed hkey).trans hc
      obtain ⟨owner, howner, hfound⟩ := memberTemplate_eq_ok_iff.mp hallowed
      have hcontainer : owner.isContainer = true := by
        rw [← hlibrary.members howner, hfound]
        rfl
      obtain ⟨own, hown, href⟩ := memberTemplate?_of_memberTemplate hlibrary.identified hallowed
      obtain rfl := Option.some.inj (hown.symm.trans howner)
      refine ⟨rfl, exists_encode_iff.mpr ⟨_, hkey⟩, exists_encode_iff.mpr ⟨_, hmember⟩,
        ⟨own, hown, hcontainer, href⟩, ⟨_, hthere⟩, fun {d} hd ↦ ?_,
        (absent_or_childOf_iff hmember).mpr howned⟩
      obtain rfl := Entity.container.inj (Option.some.inj (hthere.symm.trans hd))
      exact hnew

theorem enters_of_granted (hlibrary : library.Identified) (hs : s.Sound)
    (hself : ¬s.ChildOf container container)
    (h : Granted library s (.addMember container name) (.member record) t) :
    Enters library s t container record := by
  cases h with
  | @entered _ _ template key memberKey c hallowed hkey hc hnew hmember howned =>
      obtain ⟨ref, href⟩ := exists_find?_of_memberTemplate hallowed
      have htemplate : library.find? template.id = some template := hlibrary ref _ href ▸ href
      refine ⟨placed htemplate hkey hc hmember howned hself,
        ResourceId.keyed_inj (hs.keyed hc) hkey, c, (entityOf?_of_keyed hkey).trans hc, ?_, rfl, ?_⟩
      · exact (entityOf?_of_keyed hkey).trans (entity?_putEntity_self _ _ _)
      · exact Table.find?_insert_self _ _ _

/-- A template for containers names a template for members, and the library has it. -/
theorem memberTemplate_of_enterable (hlibrary : library.Regular)
    (h : Enterable library s container member) :
    ∃ t, memberTemplate library container = .ok t ∧ t.id = member.templateId := by
  obtain ⟨owner, howner, hcontainer, href⟩ := h.template
  obtain ⟨t, ht⟩ : ∃ t, library.memberOf? owner = some t :=
    Option.isSome_iff_exists.mp ((hlibrary.members howner).trans hcontainer)
  have hfound : library.find? member.templateId = some t := by
    rw [TemplateLibrary.memberOf?, href] at ht
    exact ht
  exact ⟨t, memberTemplate_eq_ok_iff.mpr ⟨owner, howner, ht⟩, hlibrary.identified _ t hfound⟩

/-- What exists under an identity whose template is for containers is a container. -/
theorem exists_container_of_enterable (hs : s.Sound) (hfitted : s.Fitted library)
    (h : Enterable library s container member) :
    ∃ c, s.entityOf? container = some (.container c) := by
  obtain ⟨e, hthere⟩ := h.exists_container
  obtain ⟨key, hkey, he⟩ := entityOf?_eq_some_iff.mp hthere
  obtain ⟨owner, howner, hcontainer, -⟩ := h.template
  obtain ⟨t, ht, hfits⟩ := hfitted key e he
  have hid : e.id = container := ResourceId.keyed_inj (hs.keyed he) hkey
  obtain rfl := Option.some.inj ((hid ▸ ht).symm.trans howner)
  obtain ⟨c, hc⟩ := Option.isSome_iff_exists.mp (hfits.isContainer.trans hcontainer)
  exact ⟨c, hthere.trans (congrArg some (Entity.container?_eq_some_iff.mp hc))⟩

theorem addMember_of_enterable (hlibrary : library.Regular) (hs : s.Sound)
    (hfitted : s.Fitted library) (h : Enterable library s container member) :
    ∃ record, ((addMember library container member.name).on s).1 = .ok record := by
  obtain ⟨key, hkey⟩ := exists_encode_iff.mp h.container_encodes
  obtain ⟨memberKey, hmemberKey⟩ := exists_encode_iff.mp h.member_encodes
  obtain ⟨template, hallowed, hid⟩ := memberTemplate_of_enterable hlibrary h
  have hmember : (⟨member.name, template.id⟩ : ResourceId) = member := by rw [hid]
  obtain ⟨c, hthere⟩ := exists_container_of_enterable hs hfitted h
  have hc : s.entity? key = some (.container c) := (entityOf?_of_keyed hkey).symm.trans hthere
  obtain ⟨present, hpresent⟩ := exists_checkChild member
    ((absent_or_childOf_iff hmemberKey).mp h.absent_or_childOf)
  have hon : (addMember library container member.name).on s =
      addMemberAt template container member key memberKey s := by
    rw [addMember, Operation.withKeyOf, hkey]
    simp only [Except.bind, hallowed, hmember]
    exact Operation.on_withKey hmemberKey _ s
  rw [hon, addMemberAt_eq hc (h.not_hasMember hthere) hpresent]
  exact ⟨_, rfl⟩

/-- Whatever adding a member answers, if it does not fail, is a record. -/
theorem exists_member_of_addMember {reply : Reply}
    (h : ((Change.operation library (.addMember container name)).on s).1 = .ok reply) :
    ∃ record, reply = .member record := by
  rw [Change.operation, Operation.on_answering] at h
  cases hadded : ((addMember library container name).on s).1 with
  | error fault =>
      rw [hadded] at h
      cases h
  | ok record =>
      rw [hadded] at h
      exact ⟨record, (Except.ok.inj h).symm⟩

/-- What adding a member answers does not depend on the order of its checks. -/
theorem exists_addMember_iff (hlibrary : library.Regular) (hs : s.Sound)
    (hfitted : s.Fitted library) :
    (∃ reply, ((Change.operation library (.addMember container name)).on s).1 = .ok reply) ↔
      ∃ member : ResourceId, member.name = name ∧ Enterable library s container member := by
  constructor
  · rintro ⟨reply, h⟩
    obtain ⟨record, rfl⟩ := exists_member_of_addMember h
    exact ⟨record.member, enterable_of_granted hlibrary (Change.granted_of_ok hs h nofun)⟩
  · rintro ⟨member, rfl, h⟩
    obtain ⟨record, hrecord⟩ := addMember_of_enterable hlibrary hs hfitted h
    refine ⟨.member record, ?_⟩
    rw [Change.operation, Operation.on_answering, hrecord]
    rfl

namespace Kernel

/-- In every state of a run over a library that has been loaded, adding a member does not fail just
if the transaction is active and nothing stands in the way. Then the member exists, as it was if it
has been there before, and the container has a record of it. No more has changed. -/
theorem addMember_enters_iff {classes : List HandlerClass} {catalog : HandlerCatalog}
    {roots : List HandlerId} {library : TemplateLibrary}
    (hcatalog : HandlerCatalog.empty.registerAll classes = .ok catalog)
    (hload : TemplateLibrary.load catalog roots = .ok library) (moves : List Move) (name : String)
    (container : ResourceId) (memberName : Name) :
    let k := (ofLibrary library).run moves
    let added := k.change name (.addMember container memberName)
    ((∃ reply, added.1 = .ok reply) ↔ ∃ session, k.open? name = some session ∧
      ∃ member : ResourceId, member.name = memberName ∧
        Enterable library session.working container member) ∧
    ∀ reply, added.1 = .ok reply → ∃ session t record, k.open? name = some session ∧
      reply = .member record ∧ record.member.name = memberName ∧
      Enterable library session.working container record.member ∧
      Works k added.2 name session t ∧ Enters library session.working t container record := by
  intro k added
  have hregular : library.Regular :=
    TemplateLibrary.regular_of_load (HandlerCatalog.keyed_empty.registerAll hcatalog) hload
  have hlibrary : k.library = library := library_run library moves
  have hfitted := fitted_run hload moves
  have hself := not_childOf_self_run library moves
  constructor
  · simp only [added, change_eq_ok_iff, hlibrary]
    rw [exists_comm]
    refine exists_congr fun session ↦ ?_
    rw [exists_and_left]
    refine and_congr_right fun hopen ↦ ?_
    obtain ⟨hs, hfits⟩ := hfitted.working (open?_eq_some_iff.mp hopen).2
    exact exists_addMember_iff hregular hs hfits
  · intro reply hok
    obtain ⟨session, hopen, hadded⟩ := change_eq_ok_iff.mp hok
    obtain ⟨hs, hnot⟩ := hself.working (open?_eq_some_iff.mp hopen).2
    rw [hlibrary] at hadded
    obtain ⟨record, rfl⟩ := exists_member_of_addMember hadded
    have hgranted := Change.granted_of_ok hs hadded nofun
    obtain ⟨hname, henterable⟩ := enterable_of_granted hregular hgranted
    refine ⟨session, _, record, hopen, rfl, hname, henterable, works_of_open hopen _, ?_⟩
    rw [hlibrary]
    exact enters_of_granted hregular.identified hs (hnot container) hgranted

/-- A book that has been taken off its shelf is put back as the book that it was. -/
theorem book_entered_again :
    let classes : List HandlerClass := [
      .ofKind "Shelves" .container
        { id := "shelf", memberHandler := some "Books",
          attachments := [⟨"cover", "cover", "Books", none⟩] },
      .ofKind "Books" .resource { id := "book" }]
    let a : ResourceId := ⟨.text "a", "shelf"⟩
    let b : ResourceId := ⟨.text "b", "book"⟩
    let k := (ofLibrary .coveredShelves).run [.begin "reader" "t",
      .change "t" (.create "shelf" (.text "a")), .change "t" (.addMember a (.text "b")),
      .change "t" (.removeMember a b)]
    let added := k.change "t" (.addMember a (.text "b"))
    HandlerCatalog.empty.registerAll classes = .ok .shelves ∧
      TemplateLibrary.load .shelves ["Shelves"] = .ok .coveredShelves ∧
      added.1 = .ok (.member ⟨a, b, 1⟩) ∧
      ∃ session t book, k.open? "t" = some session ∧ Works k added.2 "t" session t ∧
        session.working.entityOf? b = some book ∧ t.entityOf? b = some book ∧
        Enters .coveredShelves session.working t a ⟨a, b, 1⟩ := by
  intro classes a b k added
  have hcatalog : HandlerCatalog.empty.registerAll classes = .ok .shelves := rfl
  have hload : TemplateLibrary.load .shelves ["Shelves"] = .ok .coveredShelves := rfl
  have hok : added.1 = .ok (.member ⟨a, b, 1⟩) := by decide +kernel
  obtain ⟨session, t, record, hopen, hreply, -, -, hworks, henters⟩ :=
    (addMember_enters_iff hcatalog hload _ "t" a (.text "b")).2 _ hok
  obtain rfl := Reply.member.inj hreply
  have hthere : ((k.open? "t").bind fun session ↦ session.working.entityOf? b).isSome = true := by
    decide +kernel
  rw [hopen] at hthere
  obtain ⟨book, hbook⟩ := Option.isSome_iff_exists.mp hthere
  exact ⟨hcatalog, hload, hok, session, t, book, hopen, hworks, hbook, henters.kept hbook, henters⟩

end Kernel

end ResourceKernel
