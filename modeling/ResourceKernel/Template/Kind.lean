/-!
# Kinds of templates and capabilities of handlers

A template is for plain resources or for one of four kinds of containers. Capabilities say what
a handler can do with the resources of its template.
-/

namespace ResourceKernel

abbrev TemplateId := String

abbrev HandlerId := String

inductive TemplateKind
  | resource
  | container
  | basicContainer
  | directContainer
  | indirectContainer
  deriving DecidableEq, Repr

namespace TemplateKind

def all : List TemplateKind :=
  [.resource, .container, .basicContainer, .directContainer, .indirectContainer]

def tag : TemplateKind → String
  | .resource => "resource"
  | .container => "container"
  | .basicContainer => "basic-container"
  | .directContainer => "direct-container"
  | .indirectContainer => "indirect-container"

def ofTag? (tag : String) : Option TemplateKind := all.find? fun k ↦ k.tag == tag

theorem ofTag?_tag (k : TemplateKind) : ofTag? k.tag = some k := by cases k <;> decide

def isContainer (k : TemplateKind) : Bool := k != .resource

/-- Whether containers of this kind say how they relate to their members. -/
def isMembershipAware (k : TemplateKind) : Bool := k == .directContainer || k == .indirectContainer

/-- Whether a template of kind `found` may stand where kind `k` is expected. The kind of plain
resources accepts all templates, the kind of containers all containers, and the other kinds only
themselves. -/
def accepts (k found : TemplateKind) : Bool :=
  match k with
  | .resource => true
  | .container => found.isContainer
  | k => k == found

def rank : TemplateKind → Nat
  | .resource => 0
  | .container => 1
  | .basicContainer => 2
  | .directContainer => 3
  | .indirectContainer => 4

instance : Ord TemplateKind := ⟨fun a b ↦ compare a.rank b.rank⟩

end TemplateKind

inductive Capability
  | resource
  | container
  | deletable
  | modifiable
  | queryable
  deriving DecidableEq, Repr

namespace Capability

def all : List Capability := [.resource, .container, .deletable, .modifiable, .queryable]

def tag : Capability → String
  | .resource => "resource"
  | .container => "container"
  | .deletable => "deletable"
  | .modifiable => "modifiable"
  | .queryable => "queryable"

def title : Capability → String
  | .resource => "Resource"
  | .container => "Container"
  | .deletable => "Deletable"
  | .modifiable => "Modifiable"
  | .queryable => "Queryable"

def ofTag? (tag : String) : Option Capability := all.find? fun c ↦ c.tag == tag

theorem ofTag?_tag (c : Capability) : ofTag? c.tag = some c := by cases c <;> decide

theorem mem_all (c : Capability) : c ∈ all := by cases c <;> decide

end Capability

structure Capabilities where
  has : Capability → Bool

namespace Capabilities

def ofList (cs : List Capability) : Capabilities := ⟨fun c ↦ cs.contains c⟩

/-- The capabilities of the set, each once, in their fixed order. -/
def toList (s : Capabilities) : List Capability := Capability.all.filter s.has

def insert (s : Capabilities) (c : Capability) : Capabilities := ⟨fun d ↦ d = c || s.has d⟩

def forResource : Capabilities := ofList [.resource]

/-- What a handler of containers has; a container is a resource. -/
def forContainer : Capabilities := ofList [.resource, .container]

theorem mem_toList {s : Capabilities} {c : Capability} : c ∈ s.toList ↔ s.has c = true := by
  simp [toList, Capability.mem_all]

theorem toList_inj {s t : Capabilities} : s.toList = t.toList ↔ s = t := by
  refine ⟨fun h ↦ ?_, fun h ↦ h ▸ rfl⟩
  obtain ⟨s⟩ := s
  obtain ⟨t⟩ := t
  congr
  funext c
  rw [Bool.eq_iff_iff]
  exact mem_toList.symm.trans (h ▸ mem_toList)

@[simp] theorem ofList_toList (s : Capabilities) : ofList s.toList = s := by
  obtain ⟨s⟩ := s
  simp only [ofList]
  congr
  funext c
  rw [Bool.eq_iff_iff, List.contains_iff_mem]
  exact mem_toList

instance : DecidableEq Capabilities := fun _ _ ↦ decidable_of_iff _ toList_inj

instance : Inhabited Capabilities := ⟨⟨fun _ ↦ false⟩⟩

instance : Repr Capabilities := ⟨fun s n ↦ reprPrec s.toList n⟩

end Capabilities

end ResourceKernel
