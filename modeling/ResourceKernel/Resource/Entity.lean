import ResourceKernel.Fault
import ResourceKernel.Resource.Report
import ResourceKernel.Resource.Slug
import ResourceKernel.Template.Basic

/-!
# Resources and containers

An entity of the graph is a plain resource or a container. Each has a slot for every attachment
of its template. A container numbers its members, and keeps slugs for their paths.
-/

namespace ResourceKernel

/-- What resources and containers have in common. -/
structure Resource where
  id : ResourceId
  parent : Option ResourceId
  indirectId : Option Uri
  /-- What is bound to each slot. -/
  slots : Table String (Option ResourceId)
  failures : Table FailureId Unit
  deriving DecidableEq, Repr, Inhabited

namespace Resource

/-- A fresh resource with all slots of its template unbound. -/
def fresh (id : ResourceId) (parent : Option ResourceId) (t : Template) : Resource :=
  ⟨id, parent, none, .ofList (t.slots.map fun s ↦ (s.id, none)), ∅⟩

/-- Just the slots of the template are there, and nothing is in them. -/
theorem find?_slots_fresh (id : ResourceId) (parent : Option ResourceId) (t : Template)
    (slot : String) :
    (fresh id parent t).slots.find? slot =
      if ∃ declared ∈ t.slots, declared.id = slot then some none else none := by
  have hentries := Table.find?_ofList (t.slots.map fun s ↦ (s.id, (none : Option ResourceId))) slot
  rw [← List.map_reverse, List.find?_map, Option.map_map] at hentries
  refine hentries.trans ?_
  cases hfind : t.slots.reverse.find? fun s ↦ decide (s.id = slot) with
  | none =>
      have hnone : ¬∃ declared ∈ t.slots, declared.id = slot := by
        simpa using List.find?_eq_none.mp hfind
      rw [if_neg hnone]
      exact congrArg (Option.map _) hfind
  | some declared =>
      have hid : declared.id = slot := by simpa using List.find?_some hfind
      have hmem : declared ∈ t.slots := List.mem_reverse.mp (List.mem_of_find?_eq_some hfind)
      rw [if_pos ⟨declared, hmem, hid⟩]
      exact congrArg (Option.map _) hfind

def isRoot (r : Resource) : Bool := r.parent.isNone

def slotOf? (r : Resource) (child : ResourceId) : Option String :=
  (r.slots.entries.find? fun e ↦ e.2 = some child).map Prod.fst

theorem slotOf?_eq_none_iff {r : Resource} {child : ResourceId} :
    r.slotOf? child = none ↔ ∀ slot, r.slots.find? slot ≠ some (some child) := by
  simp only [slotOf?, Option.map_eq_none_iff, List.find?_eq_none, decide_eq_true_eq, ne_eq,
    Table.find?_eq_some_iff]
  constructor
  · intro h slot hmem
    exact h _ hmem rfl
  · rintro h ⟨slot, bound⟩ hmem rfl
    exact h slot hmem

/-- Whether the child still has to be bound to the slot: not if it already is. The slot has to be
free, and the child must not be bound to another slot. -/
def checkBind (r : Resource) (slot : String) (child : ResourceId) : Except GraphFault Bool :=
  match r.slots.find? slot with
  | none => .error (.unknownAttachment r.id slot)
  | some (some bound) =>
      if bound = child then .ok false else .error (.attachmentOccupied r.id slot bound)
  | some none =>
      match r.slotOf? child with
      | some other => .error (.alreadyAttached r.id child other)
      | none => .ok true

def bind (r : Resource) (slot : String) (child : ResourceId) :
    Except GraphFault (Bool × Resource) :=
  match r.checkBind slot child with
  | .error fault => .error fault
  | .ok false => .ok (false, r)
  | .ok true => .ok (true, { r with slots := r.slots.insert slot (some child) })

theorem checkBind_eq_true_iff {r : Resource} {slot : String} {child : ResourceId} :
    r.checkBind slot child = .ok true ↔
      r.slots.find? slot = some none ∧ r.slotOf? child = none := by
  unfold checkBind
  split
  · next h => simp [h]
  · next h => split <;> simp [h]
  · next h => split <;> simp_all

def unbind (r : Resource) (slot : String) : Except GraphFault (Option ResourceId × Resource) :=
  match r.slots.find? slot with
  | none => .error (.unknownAttachment r.id slot)
  | some bound => .ok (bound, { r with slots := r.slots.insert slot none })

def hasFailure (r : Resource) (failure : FailureId) : Bool := r.failures.contains failure

/-- The first of the drawn numbers that no outstanding failure has. -/
def freshFailure? (r : Resource) (draws : List FailureId) : Option FailureId :=
  draws.find? fun f ↦ !r.hasFailure f

/-- Records a failure under the first free number drawn, and reports it. -/
def report? (r : Resource) (draws : List FailureId) (constraints : List String) (date : Int)
    (request : Request) : Option (Report × Resource) :=
  (r.freshFailure? draws).map fun failure ↦
    (⟨⟨r.id, failure⟩, date, request, constraints⟩,
      { r with failures := r.failures.insert failure () })

def removeFailure (r : Resource) (failure : FailureId) : Bool × Resource :=
  (r.hasFailure failure, { r with failures := r.failures.erase failure })

end Resource

structure Member where
  container : ResourceId
  member : ResourceId
  number : Nat
  deriving DecidableEq, Repr, Inhabited

def Member.toJson (m : Member) : Json.Value :=
  .fields [("container", m.container.toJson), ("member", m.member.toJson),
    ("number", .int m.number)]

structure Container where
  resource : Resource
  members : Table Nat Member
  /-- The number of each member. -/
  index : Table ResourceId Nat
  counter : Nat
  /-- Where the slug of each preferred path is in the pool. -/
  slugs : Table String Nat
  deriving DecidableEq, Repr, Inhabited

namespace Container

def fresh (id : ResourceId) (parent : Option ResourceId) (t : Template) : Container :=
  ⟨Resource.fresh id parent t, ∅, ∅, 0, ∅⟩

def id (c : Container) : ResourceId := c.resource.id

/-! ## Members -/

def hasMember (c : Container) (member : ResourceId) : Bool := c.index.contains member

def memberByNumber? (c : Container) (number : Nat) : Option Member := c.members.find? number

def member? (c : Container) (member : ResourceId) : Option Member :=
  (c.index.find? member).bind c.memberByNumber?

def memberList (c : Container) : List Member := c.members.values

def memberCount (c : Container) : Nat := c.members.size

def checkAddMember (c : Container) (member : ResourceId) : Except GraphFault Unit :=
  if c.hasMember member then .error (.alreadyMember c.id member) else .ok ()

def addMember (c : Container) (member : ResourceId) : Except GraphFault (Member × Container) :=
  match c.checkAddMember member with
  | .error fault => .error fault
  | .ok () =>
      let record : Member := ⟨c.id, member, c.counter⟩
      .ok (record,
        { c with
          members := c.members.insert c.counter record
          index := c.index.insert member c.counter
          counter := c.counter + 1 })

def removeMember (c : Container) (member : ResourceId) : Option Member × Container :=
  match c.index.find? member with
  | none => (none, c)
  | some number =>
      (c.members.find? number,
        { c with index := c.index.erase member, members := c.members.erase number })

/-! ## Slugs -/

/-- The path tried after so many collisions. -/
def candidatePath (base : String) (attempt : Nat) : String :=
  if attempt = 0 then base else Slug.numbered base attempt

/-- A path collides if its slug has gone beyond the wanted version. -/
def collides (c : Container) (pool : SlugPool) (wanted : Nat) (path : String) : Bool :=
  match (c.slugs.find? path).bind pool.get? with
  | some s => wanted < s.version
  | none => false

/-- The first attempt whose path does not collide, where at most `fuel` paths do. -/
def freeAttempt (c : Container) (pool : SlugPool) (wanted : Nat) (base : String) :
    (fuel : Nat) → (attempt : Nat) → Nat
  | 0, attempt => attempt
  | fuel + 1, attempt =>
      if c.collides pool wanted (candidatePath base attempt) then
        freeAttempt c pool wanted base fuel (attempt + 1)
      else attempt

/-- Reconciles a candidate with the slugs of the container. A slug of its path that has not gone
beyond the candidate's version takes on that version; one that has is a collision, and the next
numbered path is tried. No more paths collide than the container has slugs. -/
def mergeSlug (c : Container) (pool : SlugPool) (candidate : Slug) :
    Nat × Container × SlugPool :=
  let attempt := c.freeAttempt pool candidate.version candidate.path c.slugs.size 0
  let path := candidatePath candidate.path attempt
  match c.slugs.find? path with
  | some index => (index, c, pool.adopt index candidate.version)
  | none =>
      (pool.next, { c with slugs := c.slugs.insert path pool.next },
        pool.push ⟨c.id, path, candidate.version⟩)

def addSlug (c : Container) (pool : SlugPool) (preferred : String) :
    Except GraphFault (Nat × Container × SlugPool) :=
  match Slug.normalizePath? preferred with
  | none => .error (.invalidPath preferred)
  | some path => .ok (c.mergeSlug pool ⟨c.id, path, 0⟩)

def slugList (c : Container) (pool : SlugPool) : List Slug :=
  c.slugs.values.filterMap pool.get?

end Container

inductive Entity
  | resource (r : Resource)
  | container (c : Container)
  deriving DecidableEq, Repr, Inhabited

namespace Entity

/-- A fresh entity of the kind that the template says. -/
def fresh (t : Template) (id : ResourceId) (parent : Option ResourceId) : Entity :=
  if t.isContainer then .container (Container.fresh id parent t)
  else .resource (Resource.fresh id parent t)

def base : Entity → Resource
  | .resource r => r
  | .container c => c.resource

def withBase : Entity → Resource → Entity
  | .resource _, r => .resource r
  | .container c, r => .container { c with resource := r }

def id (e : Entity) : ResourceId := e.base.id

def container? : Entity → Option Container
  | .resource _ => none
  | .container c => some c

def isContainer (e : Entity) : Bool := e.container?.isSome

@[simp] theorem base_withBase (e : Entity) (r : Resource) : (e.withBase r).base = r := by
  cases e <;> rfl

@[simp] theorem withBase_base (e : Entity) : e.withBase e.base = e := by
  cases e <;> rfl

theorem base_fresh (t : Template) (id : ResourceId) (parent : Option ResourceId) :
    (fresh t id parent).base = Resource.fresh id parent t := by
  unfold fresh
  split <;> rfl

end Entity

end ResourceKernel
