import ResourceKernel.Json.Value
import ResourceKernel.Template.Kind
import ResourceKernel.Uri.Basic

/-!
# Templates

A template describes one kind of resource: the slots that resources are attached to and, for
containers, the template of the members. Templates are made by loading a library and never
change.
-/

namespace ResourceKernel

inductive MembershipRelation
  | hasMember
  | isMemberOf
  deriving DecidableEq, Repr

namespace MembershipRelation

def tag : MembershipRelation → String
  | .hasMember => "has-member"
  | .isMemberOf => "is-member-of"

def all : List MembershipRelation := [.hasMember, .isMemberOf]

def ofTag? (tag : String) : Option MembershipRelation := all.find? fun r ↦ r.tag == tag

theorem ofTag?_tag (r : MembershipRelation) : ofTag? r.tag = some r := by cases r <;> decide

end MembershipRelation

structure Slot where
  id : String
  path : String
  template : TemplateId
  predicate : Option Uri
  deriving DecidableEq, Repr

structure Membership where
  predicate : Uri
  relation : MembershipRelation
  deriving DecidableEq, Repr

structure MemberSettings where
  template : TemplateId
  path : Option String
  deriving DecidableEq, Repr

/-- What distinguishes the kinds of templates. -/
inductive TemplateForm
  | resource
  | container (members : MemberSettings)
  | basicContainer (members : MemberSettings)
  | directContainer (members : MemberSettings) (membership : Membership)
  | indirectContainer (members : MemberSettings) (membership : Membership)
      (insertedContentRelation : Uri)
  deriving DecidableEq, Repr

structure Template where
  id : TemplateId
  handler : HandlerId
  name : Option String
  description : Option String
  slots : List Slot
  form : TemplateForm
  deriving DecidableEq, Repr

namespace TemplateForm

def kind : TemplateForm → TemplateKind
  | .resource => .resource
  | .container _ => .container
  | .basicContainer _ => .basicContainer
  | .directContainer _ _ => .directContainer
  | .indirectContainer _ _ _ => .indirectContainer

def members? : TemplateForm → Option MemberSettings
  | .resource => none
  | .container m | .basicContainer m | .directContainer m _ | .indirectContainer m _ _ => some m

def membership? : TemplateForm → Option Membership
  | .directContainer _ m | .indirectContainer _ m _ => some m
  | _ => none

def insertedContentRelation? : TemplateForm → Option Uri
  | .indirectContainer _ _ u => some u
  | _ => none

theorem isSome_members? (f : TemplateForm) : f.members?.isSome = f.kind.isContainer := by
  cases f <;> rfl

end TemplateForm

namespace Template

def kind (t : Template) : TemplateKind := t.form.kind

def isContainer (t : Template) : Bool := t.kind.isContainer

def slot? (t : Template) (id : String) : Option Slot := t.slots.find? fun s ↦ s.id == id

def memberTemplate? (t : Template) : Option TemplateId := t.form.members?.map (·.template)

def memberPath? (t : Template) : Option String := t.form.members?.bind (·.path)

open Json (Value)

def optionalText : Option String → Value
  | some s => .text s
  | none => .null

def slotJson (s : Slot) : Value :=
  .fields [("id", .text s.id), ("path", .text s.path), ("template", .text s.template),
    ("predicate", optionalText (s.predicate.map Uri.text))]

def coreJson (t : Template) : Value :=
  .fields [("id", .text t.id), ("handler", .text t.handler), ("name", optionalText t.name),
    ("description", optionalText t.description), ("attachments", .list (t.slots.map slotJson))]

def membersJson (m : MemberSettings) : Value :=
  .fields [("template", .text m.template), ("path", optionalText m.path)]

def membershipJson (m : Membership) : Value :=
  .fields [("predicate", .text m.predicate.text), ("relation", .text m.relation.tag)]

/-- The JSON form of a template. Only the parts that its kind has are written. -/
def toJson (t : Template) : Value :=
  let part (name : String) (v : Option Value) : List (String × Value) :=
    match v with
    | some v => [(name, v)]
    | none => []
  .fields ([("kind", .text t.kind.tag), ("core", t.coreJson)] ++
    part "members" (t.form.members?.map membersJson) ++
    part "membership" (t.form.membership?.map membershipJson) ++
    part "inserted_content_relation"
      (t.form.insertedContentRelation?.map fun u ↦ .text u.text))

end Template

end ResourceKernel
