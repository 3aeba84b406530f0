import ResourceKernel.Library.Basic
import ResourceKernel.Store.State

/-!
# Operations on the graph

Each operation first checks its arguments against the library and writes the keys of the
identities it is given; the edit that remains then needs an active transaction. Operations check
all they need before they change anything.
-/

namespace ResourceKernel.Graph

variable (library : TemplateLibrary)

def templateOf (id : ResourceId) : Except GraphFault Template :=
  match library.find? id.templateId with
  | some t => .ok t
  | none => .error (.unknownTemplate id.templateId)

/-- Whether the child exists. If it does, it has to be a child of the parent. -/
def checkChild (s : StoreState) (key : StoredKey) (child parent : ResourceId) :
    Except GraphFault Bool :=
  match s.entity? key with
  | none => .ok false
  | some e =>
      match e.base.parent with
      | some current =>
          if current = parent then .ok true else .error (.foreignParent child current)
      | none => .error (.resourceExists child)

/-! ## Resources -/

def create (template : TemplateId) (name : Name) : Operation Entity :=
  match library.find? template with
  | none => .error (.graph (.unknownTemplate template))
  | some t =>
      let id : ResourceId := ⟨name, t.id⟩
      .withKey id fun key s ↦
        match s.entity? key with
        | some _ => (.error (.graph (.resourceExists id)), s)
        | none =>
            let e := Entity.fresh t id none
            (.ok e, s.putEntity key e)

def find (id : ResourceId) : Operation (Option Entity) :=
  .withKey id fun key ↦ Edit.query fun s ↦ .ok (s.entity? key)

def findContainer (id : ResourceId) : Operation (Option Container) :=
  .withKey id fun key ↦ Edit.query fun s ↦ .ok ((s.entity? key).bind Entity.container?)

/-- Removes a resource and its constraint reports. Slots and memberships that name it stay. -/
def remove (id : ResourceId) : Operation Bool :=
  .withKey id fun key s ↦
    match s.entity? key with
    | none => (.ok false, s)
    | some _ =>
        (.ok true,
          { s with
            resources := s.resources.erase key
            reports := s.reports.filter fun report _ ↦ report.resource ≠ id })

def setIndirectId (id : ResourceId) (indirectId : Option Uri) : Operation Unit :=
  .withKey id fun key s ↦
    match s.entityAt key id with
    | .error fault => (.error (.graph fault), s)
    | .ok e => (.ok (), s.putEntity key (e.withBase { e.base with indirectId := indirectId }))

/-! ## Attachments -/

/-- The template for a child in a slot: the slot has to be declared for the child's template, and
that template has to do where the expected kind is needed. -/
def childTemplate (resource : ResourceId) (slot : String) (child : ResourceId)
    (expected : TemplateKind) : Except GraphFault Template :=
  match templateOf library resource with
  | .error fault => .error fault
  | .ok t =>
      match t.slot? slot with
      | none => .error (.unknownAttachment resource slot)
      | some declared =>
          if declared.template = child.templateId then library.findAs child.templateId expected
          else
            .error (.incompatibleAttachment child slot
              ("slot expects template " ++ declared.template))

def bindChild (parentKey : StoredKey) (slot : String) (child : ResourceId) : Edit Bool := fun s ↦
  match s.entity? parentKey with
  | none => (.ok true, s)
  | some parent =>
      match parent.base.bind slot child with
      | .error fault => (.error (.graph fault), s)
      | .ok (_, base) => (.ok true, s.putEntity parentKey (parent.withBase base))

/-- Binds a child to a slot of an existing resource, and makes the child if it does not exist. The
result is false if the slot holds the child already. -/
def attachAt (resource : ResourceId) (slot : String) (child : ResourceId)
    (expected : TemplateKind) (parentKey childKey : StoredKey) : Edit Bool := fun s ↦
  match s.entityAt parentKey resource with
  | .error fault => (.error (.graph fault), s)
  | .ok parent =>
      match childTemplate library resource slot child expected with
      | .error fault => (.error (.graph fault), s)
      | .ok t =>
          match parent.base.checkBind slot child with
          | .error fault => (.error (.graph fault), s)
          | .ok false => (.ok false, s)
          | .ok true =>
              match checkChild s childKey child resource with
              | .error fault => (.error (.graph fault), s)
              | .ok true => bindChild parentKey slot child s
              | .ok false =>
                  bindChild parentKey slot child
                    (s.putEntity childKey (Entity.fresh t child (some resource)))

def attach (resource : ResourceId) (slot : String) (child : ResourceId)
    (expected : TemplateKind) : Operation Bool :=
  .withKeyOf resource fun parentKey ↦ .withKey child fun childKey ↦
    attachAt library resource slot child expected parentKey childKey

/-- Clears a slot. The result tells whether anything was bound to it. -/
def detach (resource : ResourceId) (slot : String) : Operation Bool :=
  .withKey resource fun key s ↦
    match s.entityAt key resource with
    | .error fault => (.error (.graph fault), s)
    | .ok e =>
        match e.base.unbind slot with
        | .error fault => (.error (.graph fault), s)
        | .ok (bound, base) => (.ok bound.isSome, s.putEntity key (e.withBase base))

/-! ## Members -/

def memberTemplate (container : ResourceId) : Except GraphFault Template :=
  match templateOf library container with
  | .error fault => .error fault
  | .ok t =>
      match library.memberOf? t with
      | some m => .ok m
      | none => .error (.notAContainer container)

def enterMember (containerKey : StoredKey) (container member : ResourceId) : Edit Member :=
  fun s ↦
    match (s.entity? containerKey).bind Entity.container? with
    | none => (.error (.graph (.notAContainer container)), s)
    | some c =>
        match c.addMember member with
        | .error fault => (.error (.graph fault), s)
        | .ok (record, c) => (.ok record, s.putEntity containerKey (.container c))

/-- Adds a member to an existing container, and makes the member if it does not exist. -/
def addMemberAt (t : Template) (container member : ResourceId)
    (containerKey memberKey : StoredKey) : Edit Member := fun s ↦
  match s.containerAt containerKey container with
  | .error fault => (.error (.graph fault), s)
  | .ok c =>
      match c.checkAddMember member with
      | .error fault => (.error (.graph fault), s)
      | .ok () =>
          match checkChild s memberKey member container with
          | .error fault => (.error (.graph fault), s)
          | .ok true => enterMember containerKey container member s
          | .ok false =>
              enterMember containerKey container member
                (s.putEntity memberKey (Entity.fresh t member (some container)))

def addMember (container : ResourceId) (name : Name) : Operation Member :=
  .withKeyOf container fun containerKey ↦
    match memberTemplate library container with
    | .error fault => .error (.graph fault)
    | .ok t =>
        let member : ResourceId := ⟨name, t.id⟩
        .withKey member fun memberKey ↦ addMemberAt t container member containerKey memberKey

/-- Drops a membership. The member itself stays. -/
def removeMember (container member : ResourceId) : Operation Bool :=
  .withKey container fun key s ↦
    match s.containerAt key container with
    | .error fault => (.error (.graph fault), s)
    | .ok c =>
        let (record, c) := c.removeMember member
        (.ok record.isSome, s.putEntity key (.container c))

/-! ## Slugs -/

def addSlug (container : ResourceId) (preferred : String) : Operation Nat :=
  .withKey container fun key s ↦
    match s.containerAt key container with
    | .error fault => (.error (.graph fault), s)
    | .ok c =>
        match c.addSlug s.slugs preferred with
        | .error fault => (.error (.graph fault), s)
        | .ok (index, c, pool) =>
            (.ok index, { s.putEntity key (.container c) with slugs := pool })

def mergeSlug (container : ResourceId) (candidate : Slug) : Operation (Option Nat) :=
  .withKey container fun key s ↦
    match (s.entity? key).bind Entity.container? with
    | none => (.ok none, s)
    | some c =>
        let (index, c, pool) := c.mergeSlug s.slugs candidate
        (.ok (some index), { s.putEntity key (.container c) with slugs := pool })

/-! ## Constraint reports -/

structure Complaint where
  constraints : List String
  date : Int
  request : Request
  deriving DecidableEq, Repr

/-- Records a failure of a resource and stores its report. The failure gets the first number drawn
that is free. -/
def addReport (id : ResourceId) (draws : List FailureId) (complaint : Complaint) :
    Operation Report :=
  .withKey id fun key s ↦
    match s.entityAt key id with
    | .error fault => (.error (.graph fault), s)
    | .ok e =>
        match e.base.report? draws complaint.constraints complaint.date complaint.request with
        | none => (.error ↑(StateFault.note "entropy source unavailable"), s)
        | some (report, base) =>
            (.ok report,
              { s.putEntity key (e.withBase base) with
                reports := s.reports.insert report.id report })

def reportAside (id : ResourceId) (draws : List FailureId) (complaint : Complaint) :
    Operation (Option Report) :=
  .withKey id fun key s ↦
    match s.entity? key with
    | none => (.ok none, s)
    | some e =>
        match e.base.report? draws complaint.constraints complaint.date complaint.request with
        | none => (.error ↑(StateFault.note "entropy source unavailable"), s)
        | some (report, base) => (.ok (some report), s.putEntity key (e.withBase base))

def findReport (id : ReportId) : Operation (Option Report) :=
  .ok (Edit.query fun s ↦ .ok (s.reports.find? id))

/-- Clears a failure and drops its report. The result tells whether the failure was
outstanding. -/
def removeFailure (id : ReportId) : Operation Bool :=
  .withKey id.resource fun key s ↦
    match s.entityAt key id.resource with
    | .error fault => (.error (.graph fault), s)
    | .ok e =>
        let (found, base) := e.base.removeFailure id.failure
        (.ok found,
          { s.putEntity key (e.withBase base) with reports := s.reports.erase id })

end ResourceKernel.Graph
