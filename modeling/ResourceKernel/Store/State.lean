import ResourceKernel.Endpoint.Basic
import ResourceKernel.Error
import ResourceKernel.Resource.Entity

/-!
# The state of a store

A store keeps the entities of the graph by key, the constraint reports, the endpoints, and the
slugs of all containers. An edit works on such a state and tells what came of it; what it changed
before it failed stays changed.
-/

namespace ResourceKernel

structure StoreState where
  resources : Table StoredKey Entity
  reports : Table ReportId Report
  endpoints : EndpointTable
  slugs : SlugPool
  deriving DecidableEq, Repr

namespace StoreState

def empty : StoreState := ⟨∅, ∅, .empty, .empty⟩

instance : Inhabited StoreState := ⟨empty⟩

def entity? (s : StoreState) (key : StoredKey) : Option Entity := s.resources.find? key

def putEntity (s : StoreState) (key : StoredKey) (e : Entity) : StoreState :=
  { s with resources := s.resources.insert key e }

def entityAt (s : StoreState) (key : StoredKey) (id : ResourceId) : Except GraphFault Entity :=
  match s.entity? key with
  | some e => .ok e
  | none => .error (.unknownResource id)

def containerAt (s : StoreState) (key : StoredKey) (id : ResourceId) :
    Except GraphFault Container :=
  match s.entity? key with
  | some (.container c) => .ok c
  | some (.resource _) => .error (.notAContainer id)
  | none => .error (.unknownResource id)

@[simp] theorem entity?_putEntity_self (s : StoreState) (key : StoredKey) (e : Entity) :
    (s.putEntity key e).entity? key = some e :=
  s.resources.find?_insert_self key e

theorem entity?_putEntity_ne (s : StoreState) {key other : StoredKey} (e : Entity)
    (h : other ≠ key) : (s.putEntity key e).entity? other = s.entity? other :=
  s.resources.find?_insert_ne e h

theorem entity?_of_insert {s t : StoreState} {key : StoredKey} {e : Entity}
    (h : t.resources = s.resources.insert key e) (other : StoredKey) :
    t.entity? other = if other = key then some e else s.entity? other := by
  rw [entity?, h, Table.find?_insert]
  rfl

theorem entity?_of_erase {s t : StoreState} {key : StoredKey}
    (h : t.resources = s.resources.erase key) (other : StoredKey) :
    t.entity? other = if other = key then none else s.entity? other := by
  rw [entity?, h, Table.find?_erase]
  rfl

theorem putEntity_eq_self {s : StoreState} {key : StoredKey} {e : Entity}
    (h : s.entity? key = some e) : s.putEntity key e = s := by
  rw [putEntity, Table.insert_eq_self h]

theorem entityAt_eq_ok_iff {s : StoreState} {key : StoredKey} {id : ResourceId} {e : Entity} :
    s.entityAt key id = .ok e ↔ s.entity? key = some e := by
  unfold entityAt
  cases s.entity? key <;> simp

theorem containerAt_eq_ok_iff {s : StoreState} {key : StoredKey} {id : ResourceId}
    {c : Container} : s.containerAt key id = .ok c ↔ s.entity? key = some (.container c) := by
  unfold containerAt
  cases s.entity? key with
  | none => simp
  | some e => cases e <;> simp

end StoreState

/-- A step on a state that yields a result and the state after it. -/
abbrev Edit (α : Type) := StoreState → Result α × StoreState

/-- An edit whose arguments have been found sound, or the reason why they are not. -/
abbrev Operation (α : Type) := Result (Edit α)

namespace Edit

/-- An edit that looks at the state and leaves it alone. -/
def query {α : Type} (f : StoreState → Result α) : Edit α := fun s ↦ (f s, s)

end Edit

namespace Operation

/-- An edit that needs the key of an identity. -/
def withKey {α : Type} (id : ResourceId) (edit : StoredKey → Edit α) : Operation α :=
  id.keyed.map edit

/-- An operation that needs the key of an identity. -/
def withKeyOf {α : Type} (id : ResourceId) (operation : StoredKey → Operation α) : Operation α :=
  id.keyed.bind operation

def on {α : Type} (o : Operation α) (s : StoreState) : Result α × StoreState :=
  match o with
  | .ok edit => edit s
  | .error fault => (.error fault, s)

@[simp] theorem on_ok {α : Type} (edit : Edit α) (s : StoreState) : on (.ok edit) s = edit s := rfl

@[simp] theorem on_error {α : Type} (fault : KernelError) (s : StoreState) :
    on (.error fault : Operation α) s = (.error fault, s) := rfl

end Operation

end ResourceKernel
