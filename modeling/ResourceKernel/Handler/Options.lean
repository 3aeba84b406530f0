import ResourceKernel.Json.Document
import ResourceKernel.Template.Basic

/-!
# Template options

What a handler type says about its template, as it stands in a configuration. Nothing has been
checked yet.
-/

namespace ResourceKernel

open Json (Value)

structure AttachmentOption where
  id : String
  path : String
  handler : String
  predicate : Option String
  deriving DecidableEq, Repr, Inhabited

structure TemplateOptions where
  id : String
  name : Option String := none
  description : Option String := none
  attachments : List AttachmentOption := []
  memberHandler : Option String := none
  memberPath : Option String := none
  membershipPredicate : Option String := none
  membershipRelation : Option MembershipRelation := none
  insertedContentRelation : Option String := none
  deriving DecidableEq, Repr, Inhabited

/-- A field that is left out where there is nothing to say. -/
def Json.optionalField {α : Type} (name : String) (form : α → Value) :
    Option α → List (String × Value)
  | some a => [(name, form a)]
  | none => []

/-- A list that is left out where it is empty. -/
def Json.listField {α : Type} (name : String) (form : α → Value) : List α → List (String × Value)
  | [] => []
  | items => [(name, .list (items.map form))]

namespace AttachmentOption

def fieldNames : List String := ["id", "path", "handler", "predicate"]

def toJson (a : AttachmentOption) : Value :=
  .fields ([("id", .text a.id), ("path", .text a.path), ("handler", .text a.handler)] ++
    Json.optionalField "predicate" .text a.predicate)

def ofDocument? {δ : Type} [Document δ] (d : δ) : Option AttachmentOption := do
  let r ← Record.of? fieldNames d
  return {
    id := ← r.required? "id" Document.text?
    path := ← r.required? "path" Document.text?
    handler := ← r.required? "handler" Document.text?
    predicate := ← r.optional? "predicate" Document.text? }

end AttachmentOption

namespace TemplateOptions

def fieldNames : List String :=
  ["id", "name", "description", "attachments", "member_handler", "member_path",
    "membership_predicate", "membership_relation", "inserted_content_relation"]

def fields (o : TemplateOptions) : List (String × Value) :=
  [("id", .text o.id)] ++ Json.optionalField "name" .text o.name ++
    Json.optionalField "description" .text o.description ++
    Json.listField "attachments" AttachmentOption.toJson o.attachments ++
    Json.optionalField "member_handler" .text o.memberHandler ++
    Json.optionalField "member_path" .text o.memberPath ++
    Json.optionalField "membership_predicate" .text o.membershipPredicate ++
    Json.optionalField "membership_relation" (fun r ↦ .text r.tag) o.membershipRelation ++
    Json.optionalField "inserted_content_relation" .text o.insertedContentRelation

def toJson (o : TemplateOptions) : Value := .fields o.fields

variable {δ : Type} [Document δ]

def ofRecord? (r : Record δ) : Option TemplateOptions := do
  return {
    id := ← r.required? "id" Document.text?
    name := ← r.optional? "name" Document.text?
    description := ← r.optional? "description" Document.text?
    attachments := ← r.default? "attachments" [] (Document.listOf? AttachmentOption.ofDocument?)
    memberHandler := ← r.optional? "member_handler" Document.text?
    memberPath := ← r.optional? "member_path" Document.text?
    membershipPredicate := ← r.optional? "membership_predicate" Document.text?
    membershipRelation := ← r.optional? "membership_relation"
      (Document.oneOf? MembershipRelation.all MembershipRelation.tag)
    insertedContentRelation := ← r.optional? "inserted_content_relation" Document.text? }

def ofDocument? (d : δ) : Option TemplateOptions := (Record.of? fieldNames d).bind ofRecord?

end TemplateOptions

end ResourceKernel
