import ResourceKernel.CommandLine.Answer
import ResourceKernel.Proofs.Document.Present

/-!
# What answers tell of templates

More is told of a template that is shown than of one that is listed. But whoever reads the document
of the one as a document of the other finds what the listing tells, and finds it in the lines too.
-/

namespace ResourceKernel.CommandLine

open Json (Value)

variable {slots : List (String × Option Value)} {name : String}

/-- Sorting the members of an object does not change what is found under a name. -/
theorem lookup_sorted {held : Option Value} (hnames : (slots.map Prod.fst).Nodup)
    (hslot : (name, held) ∈ slots) :
    (Table.ofList (present slots)).entries.lookup name = held := by
  have hpresent : ((present slots).map Prod.fst).Nodup := hnames.sublist map_fst_present
  have hfound : (Table.ofList (present slots)).find? name = held := by
    rw [Table.find?_ofList_of_nodup hpresent, Table.findIn_eq_lookup]
    exact lookup_present hnames hslot
  rw [← Table.findIn_eq_lookup]
  exact hfound

theorem field?_sorted {held : Option Value} (slots : List (String × Option Value))
    (hnames : (slots.map Prod.fst).Nodup) (hslot : (name, held) ∈ slots)
    (hheld : ∀ v ∈ held, v.isNull = false) :
    (Answer.sorted (present slots)).field? name = held := by
  unfold Answer.sorted Value.field? Value.members?
  rw [Option.bind_some, lookup_sorted hnames hslot]
  cases held with
  | none => rfl
  | some v => simp [Option.filter, hheld v rfl]

theorem field?_sorted_text (text : Option String) (hnames : (slots.map Prod.fst).Nodup)
    (hslot : (name, text.map Value.text) ∈ slots) :
    (Answer.sorted (present slots)).field? name = text.map .text := by
  apply field?_sorted slots hnames hslot
  intro v hv
  obtain ⟨s, -, rfl⟩ := Option.map_eq_some_iff.mp hv
  rfl

/-- What a listing tells, as it is read from JSON. Members with other names do not count. -/
def TemplateSummary.ofJson? (v : Value) : Option TemplateSummary := do
  let id ← (← v.field? "id").text?
  let kind ← TemplateKind.ofTag? (← (← v.field? "kind").text?)
  let handler ← (← v.field? "handler").text?
  match v.field? "member_template" with
  | none => return ⟨id, kind, handler, none⟩
  | some member => return ⟨id, kind, handler, ← member.text?⟩

theorem TemplateSummary.ofJson?_eq {v : Value} {s : TemplateSummary}
    (hid : v.field? "id" = some (.text s.id)) (hkind : v.field? "kind" = some (.text s.kind.tag))
    (hhandler : v.field? "handler" = some (.text s.handler))
    (hmember : v.field? "member_template" = s.memberTemplate.map .text) : ofJson? v = some s := by
  obtain ⟨id, kind, handler, member⟩ := s
  have htag := TemplateKind.ofTag?_tag kind
  cases member <;> simp_all [ofJson?, Value.text?]

/-! ## JSON -/

namespace Answer

theorem summaryJson_eq (s : TemplateSummary) : summaryJson s = sorted (present
    [("id", some (.text s.id)), ("kind", some (.text s.kind.tag)),
      ("handler", some (.text s.handler)), ("member_template", s.memberTemplate.map .text)]) := by
  rw [summaryJson, Json.optionalField_eq]
  rfl

theorem detailJson_eq (d : TemplateDetail) : detailJson d = sorted (present
    [("id", some (.text d.id)), ("kind", some (.text d.kind.tag)),
      ("handler", some (.text d.handler)),
      ("attachments", some (.list (d.attachments.map slotJson))),
      ("name", d.name.map .text), ("description", d.description.map .text),
      ("member_template", d.memberTemplate.map .text), ("member_path", d.memberPath.map .text),
      ("membership_predicate", d.membershipPredicate.map fun u ↦ .text u.text),
      ("membership_relation", d.membershipRelation.map fun r ↦ .text r.tag),
      ("inserted_content_relation", d.insertedContentRelation.map fun u ↦ .text u.text)]) := by
  simp only [detailJson, Json.optionalField_eq]
  simp only [present_cons, Option.map_some, Option.toList_some, List.cons_append, List.nil_append,
    List.append_assoc]
  rfl

theorem ofJson?_summaryJson (s : TemplateSummary) :
    TemplateSummary.ofJson? (summaryJson s) = some s := by
  rw [summaryJson_eq]
  apply TemplateSummary.ofJson?_eq
  · exact field?_sorted_text (some s.id) (by simp) (by simp)
  · exact field?_sorted_text (some s.kind.tag) (by simp) (by simp)
  · exact field?_sorted_text (some s.handler) (by simp) (by simp)
  · exact field?_sorted_text s.memberTemplate (by simp) (by simp)

theorem ofJson?_detailJson (d : TemplateDetail) :
    TemplateSummary.ofJson? (detailJson d) = some d.summary := by
  rw [detailJson_eq]
  apply TemplateSummary.ofJson?_eq
  · exact field?_sorted_text (some d.id) (by simp) (by simp)
  · exact field?_sorted_text (some d.kind.tag) (by simp) (by simp)
  · exact field?_sorted_text (some d.handler) (by simp) (by simp)
  · exact field?_sorted_text d.memberTemplate (by simp) (by simp)

/-- The templates that a document lists. -/
def listed? (v : Value) : Option (List TemplateSummary) :=
  (v.field? "templates").bind (Document.listOf? TemplateSummary.ofJson?)

/-- What a document that shows a template tells of it in the manner of a listing. -/
def shown? (v : Value) : Option TemplateSummary :=
  (v.field? "template").bind TemplateSummary.ofJson?

theorem listed?_toJson (summaries : List TemplateSummary) :
    listed? (templates summaries).toJson = some summaries := by
  have hfield : (templates summaries).toJson.field? "templates" =
      some (.list (summaries.map summaryJson)) :=
    field?_sorted [("type", some (.text "template_list")),
      ("templates", some (.list (summaries.map summaryJson)))] (by simp) (by simp)
      (by simp [Value.isNull])
  rw [listed?, hfield, Option.bind_some]
  exact Document.listOf?_eq rfl ofJson?_summaryJson

theorem shown?_toJson (d : TemplateDetail) : shown? (template d).toJson = some d.summary := by
  have hfield : (template d).toJson.field? "template" = some (detailJson d) :=
    field?_sorted [("type", some (.text "template_detail")),
      ("template", some (detailJson d))] (by simp) (by simp)
      (by simp [Value.isNull, detailJson, sorted])
  rw [shown?, hfield, Option.bind_some, ofJson?_detailJson]

/-! ## Lines -/

/-- How the lines about a template begin if they tell what a listing does. A name and a description
come before the members. -/
def opening (s : TemplateSummary) (name description memberPath : Option String) : List String :=
  [s!"Template {s.id} (" ++ s.kind.tag ++ ")", s!"  handler: {s.handler}"] ++
    optionalLine (fun name ↦ s!"  name: {name}") name ++
    optionalLine (fun text ↦ s!"  description: {text}") description ++
    optionalLine (fun m ↦ s!"  members: {m} (path: " ++ memberPath.getD "-" ++ ")")
      s.memberTemplate

theorem opening_prefix_lines (d : TemplateDetail) :
    opening d.summary d.name d.description d.memberPath <+: (template d).lines := by
  refine ⟨membershipLines d.membershipPredicate d.membershipRelation ++
    optionalLine (fun u : Uri ↦ "  inserted content relation: " ++ u.text)
      d.insertedContentRelation ++ slotLines d.attachments, ?_⟩
  simp only [opening, lines, detailLines, TemplateDetail.summary, List.append_assoc]

end Answer

end ResourceKernel.CommandLine
