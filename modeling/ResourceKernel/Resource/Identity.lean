import ResourceKernel.Name.Json
import ResourceKernel.Template.Kind

/-!
# Identities of resources

A resource is known by the name its application chose and by its template.
-/

namespace ResourceKernel

structure ResourceId where
  name : Name
  templateId : TemplateId
  deriving DecidableEq, Repr, Inhabited

namespace ResourceId

def display (id : ResourceId) : String := id.templateId ++ ":" ++ id.name.display

instance : ToString ResourceId := ⟨display⟩

/-- Identities are ordered by name first. -/
instance : Ord ResourceId :=
  ⟨fun a b ↦ (compare a.name b.name).then (compare a.templateId b.templateId)⟩

open Json (Value)

def toJson (id : ResourceId) : Value :=
  .fields [("name", id.name.toJson), ("template_id", .text id.templateId)]

def ofJson? (v : Value) : Option ResourceId := do
  let r ← Record.of? ["name", "template_id"] v
  return ⟨← r.required? "name" Name.ofJson?, ← r.required? "template_id" Value.text?⟩

end ResourceId

end ResourceKernel
