import ResourceKernel.Config.Reader

/-!
# The schema of configurations

A schema tells which fields a configuration and its parts have, what may stand in them, and which
of them have to be present.
-/

namespace ResourceKernel

open Json (Value)

/-- What a mapping with known fields looks like. -/
structure RecordSchema where
  properties : Table String Value
  required : Table String Unit

/-- What a document looks like, with the parts that its schema refers to. -/
structure Schema where
  title : String
  root : RecordSchema
  objects : Table String RecordSchema

namespace Schema

def typed (type : String) : Value := .fields [("type", .text type)]

def text : Value := typed "string"

def optionalText : Value := .fields [("type", .list [.text "string", .text "null"])]

def choice (tags : List String) : Value :=
  .fields [("type", .text "string"), ("enum", .list (tags.map .text))]

def optional (v : Value) : Value := .fields [("anyOf", .list [v, typed "null"])]

def listOf (v : Value) : Value := .fields [("type", .text "array"), ("items", v)]

def reference (name : String) : Value := .fields [("$ref", .text ("#/$defs/" ++ name))]

end Schema

namespace RecordSchema

/-- A schema of fields, each with the mark whether it has to be present. -/
def ofFields (fields : List (String × Bool × Value)) : RecordSchema where
  properties := .ofList (fields.map fun f ↦ (f.1, f.2.2))
  required := .ofList ((fields.filter fun f ↦ f.2.1).map fun f ↦ (f.1, ()))

def toJson (s : RecordSchema) : List (String × Value) :=
  [("type", .text "object"), ("properties", .fields s.properties.entries),
    ("required", .list (s.required.keys.map .text))]

end RecordSchema

def AttachmentOption.schemaFields : List (String × Bool × Value) :=
  [("id", true, Schema.text), ("path", true, Schema.text), ("handler", true, Schema.text),
    ("predicate", false, Schema.optionalText)]

def TemplateOptions.schemaFields : List (String × Bool × Value) :=
  [("id", true, Schema.text), ("name", false, Schema.optionalText),
    ("description", false, Schema.optionalText),
    ("attachments", false, Schema.listOf (Schema.reference "AttachmentOption")),
    ("member_handler", false, Schema.optionalText), ("member_path", false, Schema.optionalText),
    ("membership_predicate", false, Schema.optionalText),
    ("membership_relation", false,
      Schema.optional (Schema.choice (MembershipRelation.all.map MembershipRelation.tag))),
    ("inserted_content_relation", false, Schema.optionalText)]

def HandlerEntry.schemaFields : List (String × Bool × Value) :=
  let kind := Schema.choice (TemplateKind.all.map TemplateKind.tag)
  [("handler", true, Schema.text), ("kind", false, Schema.optional kind),
    ("markers", false, Schema.listOf kind),
    ("capabilities", false, Schema.listOf (Schema.choice (Capability.all.map Capability.tag)))] ++
    TemplateOptions.schemaFields

def KernelConfig.schemaFields : List (String × Bool × Value) :=
  [("version", true, Schema.typed "integer"), ("roots", false, Schema.listOf Schema.text),
    ("handlers", false, Schema.listOf (Schema.reference "HandlerEntry"))]

theorem names_schemaFields :
    AttachmentOption.schemaFields.map Prod.fst = AttachmentOption.fieldNames ∧
      HandlerEntry.schemaFields.map Prod.fst =
        HandlerEntry.ownFieldNames ++ TemplateOptions.fieldNames ∧
      KernelConfig.schemaFields.map Prod.fst = KernelConfig.fieldNames :=
  ⟨rfl, rfl, rfl⟩

def KernelConfig.schema : Schema where
  title := "KernelConfig"
  root := .ofFields KernelConfig.schemaFields
  objects := .ofList
    [("AttachmentOption", .ofFields AttachmentOption.schemaFields),
      ("HandlerEntry", .ofFields HandlerEntry.schemaFields)]

namespace Schema

def toJson (s : Schema) : Value :=
  .fields ([("title", .text s.title)] ++ s.root.toJson ++
    [("$defs", .fields (s.objects.entries.map fun e ↦ (e.1, .fields e.2.toJson)))])

end Schema

end ResourceKernel
