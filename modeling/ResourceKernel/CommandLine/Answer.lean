import ResourceKernel.Config.Schema
import ResourceKernel.Library.Basic

/-!
# Answers

What a command found out, and how it is told: in lines for people, or as one JSON document whose
names are sorted.
-/

namespace ResourceKernel.CommandLine

open Json (Value)
open Text (Decimal.ofNat)

/-- What a listing tells of a template. -/
structure TemplateSummary where
  id : TemplateId
  kind : TemplateKind
  handler : HandlerId
  memberTemplate : Option TemplateId
  deriving DecidableEq, Repr

/-- The template of the members is the one that the library has for them. -/
def TemplateSummary.of (library : TemplateLibrary) (t : Template) : TemplateSummary :=
  ⟨t.id, t.kind, t.handler, (library.memberOf? t).map (·.id)⟩

/-- What is told of a template that is shown. -/
structure TemplateDetail where
  id : TemplateId
  kind : TemplateKind
  handler : HandlerId
  name : Option String
  description : Option String
  attachments : List Slot
  memberTemplate : Option TemplateId
  memberPath : Option String
  membershipPredicate : Option Uri
  membershipRelation : Option MembershipRelation
  insertedContentRelation : Option Uri
  deriving DecidableEq, Repr

namespace TemplateDetail

def of (t : Template) : TemplateDetail where
  id := t.id
  kind := t.kind
  handler := t.handler
  name := t.name
  description := t.description
  attachments := t.slots
  memberTemplate := t.memberTemplate?
  memberPath := t.memberPath?
  membershipPredicate := t.form.membership?.map (·.predicate)
  membershipRelation := t.form.membership?.map (·.relation)
  insertedContentRelation := t.form.insertedContentRelation?

/-- What a listing tells of the same template. -/
def summary (d : TemplateDetail) : TemplateSummary := ⟨d.id, d.kind, d.handler, d.memberTemplate⟩

end TemplateDetail

inductive Answer
  | validated (config : String) (templates handlers : Nat)
  | templates (summaries : List TemplateSummary)
  | template (detail : TemplateDetail)
  | schema (s : Schema)

namespace Answer

/-! ## Lines -/

def summaryLine (s : TemplateSummary) : String :=
  s!"  - {s.id} [" ++ s.kind.tag ++ s!"] handler {s.handler}" ++
    match s.memberTemplate with
    | some member => s!" (members: {member})"
    | none => ""

/-- A line that is left out where there is nothing to say. -/
def optionalLine {α : Type} (line : α → String) : Option α → List String
  | some a => [line a]
  | none => []

def slotLine (s : Slot) : String :=
  s!"    - {s.id} at {s.path} -> {s.template}" ++
    match s.predicate with
    | some u => " via " ++ u.text
    | none => ""

def slotLines : List Slot → List String
  | [] => []
  | slots => "  attachments:" :: slots.map slotLine

/-- Only a membership of which all is known is told. -/
def membershipLines : Option Uri → Option MembershipRelation → List String
  | some predicate, some relation => ["  membership: " ++ relation.tag ++ " " ++ predicate.text]
  | _, _ => []

def detailLines (d : TemplateDetail) : List String :=
  [s!"Template {d.id} (" ++ d.kind.tag ++ ")", s!"  handler: {d.handler}"] ++
    optionalLine (fun name ↦ s!"  name: {name}") d.name ++
    optionalLine (fun text ↦ s!"  description: {text}") d.description ++
    optionalLine (fun m ↦ s!"  members: {m} (path: " ++ d.memberPath.getD "-" ++ ")")
      d.memberTemplate ++
    membershipLines d.membershipPredicate d.membershipRelation ++
    optionalLine (fun u : Uri ↦ "  inserted content relation: " ++ u.text)
      d.insertedContentRelation ++
    slotLines d.attachments

def lines : Answer → List String
  | .validated config n m =>
      [s!"Configuration OK: {config} (" ++ Decimal.ofNat n ++ " templates, " ++
        Decimal.ofNat m ++ " handlers)"]
  | .templates summaries =>
      ("Templates (" ++ Decimal.ofNat summaries.length ++ "):") :: summaries.map summaryLine
  | .template d => detailLines d
  | .schema s => [s.toJson.render]

/-! ## JSON -/

def sorted (members : List (String × Value)) : Value := .fields (Table.ofList members).entries

def summaryJson (s : TemplateSummary) : Value :=
  sorted ([("id", .text s.id), ("kind", .text s.kind.tag), ("handler", .text s.handler)] ++
    Json.optionalField "member_template" .text s.memberTemplate)

def slotJson (s : Slot) : Value :=
  sorted ([("id", .text s.id), ("path", .text s.path), ("template", .text s.template)] ++
    Json.optionalField "predicate" (fun u ↦ .text u.text) s.predicate)

def detailJson (d : TemplateDetail) : Value :=
  sorted ([("id", .text d.id), ("kind", .text d.kind.tag), ("handler", .text d.handler),
      ("attachments", .list (d.attachments.map slotJson))] ++
    Json.optionalField "name" .text d.name ++
    Json.optionalField "description" .text d.description ++
    Json.optionalField "member_template" .text d.memberTemplate ++
    Json.optionalField "member_path" .text d.memberPath ++
    Json.optionalField "membership_predicate" (fun u ↦ .text u.text) d.membershipPredicate ++
    Json.optionalField "membership_relation" (fun r ↦ .text r.tag) d.membershipRelation ++
    Json.optionalField "inserted_content_relation" (fun u ↦ .text u.text)
      d.insertedContentRelation)

def toJson : Answer → Value
  | .validated config n m =>
      sorted [("type", .text "validated"), ("config", .text config), ("templates", .int n),
        ("handlers", .int m)]
  | .templates summaries =>
      sorted [("type", .text "template_list"), ("templates", .list (summaries.map summaryJson))]
  | .template d => sorted [("type", .text "template_detail"), ("template", detailJson d)]
  | .schema s => sorted [("type", .text "schema"), ("schema", s.toJson)]

def text (json : Bool) (a : Answer) : String :=
  if json then a.toJson.render ++ "\n" else String.join (a.lines.map (· ++ "\n"))

end Answer

end ResourceKernel.CommandLine
