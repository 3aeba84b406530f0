import ResourceKernel.Config.Reader
import ResourceKernel.Proofs.Json.Content

/-!
# Configurations read back

A configuration is written slot by slot, and what an entry says about its template stands among its
own fields. Reading takes each field from its slot again, so that no setting is lost, whichever of
them are there.
-/

namespace ResourceKernel

open Json (Value)

/-! ## Templates -/

section Taken

variable {r : Record Content} {name : String}

theorem required?_text {s : String}
    (h : r.fields.lookup name = (some (Value.text s)).bind Value.content?) :
    r.required? name Document.text? = some s := by
  rw [Option.bind_some, Value.content?_text] at h
  exact Record.required?_eq h rfl

theorem optional?_text {held : Option String}
    (h : r.fields.lookup name = (held.map Value.text).bind Value.content?) :
    r.optional? name Document.text? = some held := by
  rw [Value.bind_content?_map Value.content?_text] at h
  exact Record.optional?_eq h (fun _ ↦ rfl) fun _ ↦ rfl

end Taken

namespace AttachmentOption

def slots (a : AttachmentOption) : List (String × Option Value) :=
  [("id", some (.text a.id)), ("path", some (.text a.path)), ("handler", some (.text a.handler)),
    ("predicate", a.predicate.map .text)]

theorem toJson_eq (a : AttachmentOption) : a.toJson = .fields (present a.slots) := by
  rw [toJson, Json.optionalField_eq]
  rfl

theorem nodup_slots (a : AttachmentOption) : (a.slots.map Prod.fst).Nodup := by
  simp [slots]

theorem writable_slots (a : AttachmentOption) (depth : Nat) :
    ∀ slot ∈ a.slots, ∀ v ∈ slot.2, v.Writable depth := by
  simp [slots, Value.Writable]

theorem writable_toJson (a : AttachmentOption) (depth : Nat) : a.toJson.Writable (depth + 1) := by
  rw [toJson_eq]
  exact Value.writable_present (a.writable_slots depth)

theorem exists_content (a : AttachmentOption) :
    ∃ c, a.toJson.content? = some c ∧ ofDocument? c = some a := by
  obtain ⟨taken, htaken⟩ := Value.exists_takenUp_present (a.writable_slots 0)
  obtain ⟨c, hc, hmembers⟩ := Value.members?_content htaken
  obtain ⟨r, hr, hfield⟩ := Value.ofMembers?_takenUp a.nodup_slots htaken fieldNames
  have hid : r.required? "id" Document.text? = some a.id :=
    required?_text (hfield "id" _ (by decide) (by simp [slots]))
  have hpath : r.required? "path" Document.text? = some a.path :=
    required?_text (hfield "path" _ (by decide) (by simp [slots]))
  have hhandler : r.required? "handler" Document.text? = some a.handler :=
    required?_text (hfield "handler" _ (by decide) (by simp [slots]))
  have hpredicate : r.optional? "predicate" Document.text? = some a.predicate :=
    optional?_text (hfield "predicate" _ (by decide) (by simp [slots]))
  refine ⟨c, by rw [toJson_eq, hc], ?_⟩
  simp only [ofDocument?, Record.of?, hmembers, hr, hid, hpath, hhandler, hpredicate,
    Option.bind_eq_bind, Option.bind_some]
  rfl

/-- The content of what is written for an attachment. -/
def content (a : AttachmentOption) : Content := a.toJson.content?.getD .null

theorem content?_toJson (a : AttachmentOption) : a.toJson.content? = some a.content := by
  obtain ⟨c, hc, -⟩ := a.exists_content
  rw [content, hc, Option.getD_some]

theorem ofDocument?_content (a : AttachmentOption) : ofDocument? a.content = some a := by
  obtain ⟨c, hc, hread⟩ := a.exists_content
  rwa [content, hc, Option.getD_some]

end AttachmentOption

namespace TemplateOptions

def slots (o : TemplateOptions) : List (String × Option Value) :=
  [("id", some (.text o.id)), ("name", o.name.map .text), ("description", o.description.map .text),
    ("attachments",
      (filled o.attachments).map fun items ↦ .list (items.map AttachmentOption.toJson)),
    ("member_handler", o.memberHandler.map .text), ("member_path", o.memberPath.map .text),
    ("membership_predicate", o.membershipPredicate.map .text),
    ("membership_relation", o.membershipRelation.map fun r ↦ .text r.tag),
    ("inserted_content_relation", o.insertedContentRelation.map .text)]

theorem fields_eq (o : TemplateOptions) : o.fields = present o.slots := by
  have hid : [("id", Value.text o.id)] = present [("id", some (.text o.id))] := rfl
  simp only [fields, hid, Json.optionalField_eq, Json.listField_eq, ← present_append]
  rfl

theorem nodup_slots (o : TemplateOptions) : (o.slots.map Prod.fst).Nodup := by
  simp [slots]

theorem writable_slots (o : TemplateOptions) (depth : Nat) :
    ∀ slot ∈ o.slots, ∀ v ∈ slot.2, v.Writable (depth + 2) := by
  simp [slots, Value.Writable, AttachmentOption.writable_toJson]

/-- The options are read back from the fields that have been taken up. -/
theorem ofRecord?_slots (o : TemplateOptions) {r : Record Content}
    (hfield : ∀ name held, name ∈ fieldNames → (name, held) ∈ o.slots →
      r.fields.lookup name = held.bind Value.content?) : ofRecord? r = some o := by
  have hid : r.required? "id" Document.text? = some o.id :=
    required?_text (hfield "id" _ (by decide) (by simp [slots]))
  have htext {name : String} {held : Option String} (hknown : name ∈ fieldNames)
      (hslot : (name, held.map Value.text) ∈ o.slots) :
      r.optional? name Document.text? = some held := optional?_text (hfield name _ hknown hslot)
  have hname : r.optional? "name" Document.text? = some o.name :=
    htext (by decide) (by simp [slots])
  have hdescription : r.optional? "description" Document.text? = some o.description :=
    htext (by decide) (by simp [slots])
  have hattachments : r.default? "attachments" [] (Document.listOf? AttachmentOption.ofDocument?) =
      some o.attachments := by
    have hcontent (items : List AttachmentOption) :
        (Value.list (items.map AttachmentOption.toJson)).content? =
          some (.list (items.map AttachmentOption.content)) := by
      rw [Value.content?, Value.contents?_eq_some fun a _ ↦ a.content?_toJson]
      rfl
    have hlookup := hfield "attachments"
      ((filled o.attachments).map fun items ↦ .list (items.map AttachmentOption.toJson))
      (by decide) (by simp [slots])
    rw [Value.bind_content?_map hcontent] at hlookup
    exact Record.default?_eq hlookup
      (Document.listOf?_eq rfl AttachmentOption.ofDocument?_content)
  have hhandler : r.optional? "member_handler" Document.text? = some o.memberHandler :=
    htext (by decide) (by simp [slots])
  have hpath : r.optional? "member_path" Document.text? = some o.memberPath :=
    htext (by decide) (by simp [slots])
  have hpredicate : r.optional? "membership_predicate" Document.text? =
      some o.membershipPredicate := htext (by decide) (by simp [slots])
  have hrelation : r.optional? "membership_relation"
      (Document.oneOf? MembershipRelation.all MembershipRelation.tag) =
        some o.membershipRelation := by
    have hlookup := hfield "membership_relation" (o.membershipRelation.map fun r ↦ .text r.tag)
      (by decide) (by simp [slots])
    have hcontent (r : MembershipRelation) : (Value.text r.tag).content? = some (.text r.tag) :=
      Value.content?_text r.tag
    rw [Value.bind_content?_map hcontent] at hlookup
    exact Record.optional?_eq hlookup MembershipRelation.ofTag?_tag fun _ ↦ rfl
  have hinserted : r.optional? "inserted_content_relation" Document.text? =
      some o.insertedContentRelation := htext (by decide) (by simp [slots])
  simp only [ofRecord?, hid, hname, hdescription, hattachments, hhandler, hpath, hpredicate,
    hrelation, hinserted, Option.bind_eq_bind, Option.bind_some]
  rfl

end TemplateOptions

/-! ## Entries -/

namespace HandlerEntry

def ownSlots (e : HandlerEntry) : List (String × Option Value) :=
  [("handler", some (.text e.handler)), ("kind", e.kind.map fun k ↦ .text k.tag),
    ("markers", (filled e.marks).map fun items ↦ .list (items.map fun k ↦ .text k.tag)),
    ("capabilities",
      (filled e.capabilities).map fun items ↦ .list (items.map fun c ↦ .text c.tag))]

def slots (e : HandlerEntry) : List (String × Option Value) := e.ownSlots ++ e.template.slots

theorem toJson_eq (e : HandlerEntry) : e.toJson = .fields (present e.slots) := by
  have hhandler : [("handler", Value.text e.handler)] =
      present [("handler", some (.text e.handler))] := rfl
  simp only [toJson, hhandler, Json.optionalField_eq, Json.listField_eq, e.template.fields_eq,
    ← present_append]
  rfl

theorem nodup_slots (e : HandlerEntry) : (e.slots.map Prod.fst).Nodup := by
  simp [slots, ownSlots, TemplateOptions.slots]

theorem writable_slots (e : HandlerEntry) (depth : Nat) :
    ∀ slot ∈ e.slots, ∀ v ∈ slot.2, v.Writable (depth + 2) := by
  refine List.forall_mem_append.mpr ⟨?_, e.template.writable_slots depth⟩
  simp [ownSlots, Value.Writable]

theorem writable_toJson (e : HandlerEntry) (depth : Nat) : e.toJson.Writable (depth + 3) := by
  rw [toJson_eq]
  exact Value.writable_present (e.writable_slots depth)

/-- What is not the entry's own is what its template options were written for. -/
theorem filter_slots (e : HandlerEntry) :
    (present e.slots).filter (fun kv ↦ !ownFieldNames.contains kv.1) =
      present e.template.slots := by
  rw [filter_present fun name ↦ !ownFieldNames.contains name]
  simp [slots, ownSlots, TemplateOptions.slots, ownFieldNames]

theorem templateOf?_slots (e : HandlerEntry) :
    templateOf? (present e.slots) = some e.template := by
  obtain ⟨taken, htaken⟩ := Value.exists_takenUp_present (e.template.writable_slots 0)
  obtain ⟨r, hr, hfield⟩ := Value.ofMembers?_takenUp e.template.nodup_slots htaken
    TemplateOptions.fieldNames
  unfold Value.takenUp? at htaken
  simp only [templateOf?, e.filter_slots, htaken, hr, Option.bind_eq_bind, Option.bind_some]
  exact e.template.ofRecord?_slots hfield

theorem ofDocument?_toJson (e : HandlerEntry) : ofDocument? e.toJson = some e := by
  obtain ⟨r, hr, hfield⟩ := Value.ofMembers?_present e.nodup_slots ownFieldNames
  have hhandler : r.required? "handler" Document.text? = some e.handler := by
    have hlookup := hfield "handler" (some (.text e.handler)) (by decide)
      (by simp [slots, ownSlots])
    exact Record.required?_eq hlookup rfl
  have hkind : r.optional? "kind" (Document.oneOf? TemplateKind.all TemplateKind.tag) =
      some e.kind := by
    have hlookup := hfield "kind" (e.kind.map fun k ↦ .text k.tag) (by decide)
      (by simp [slots, ownSlots])
    exact Record.optional?_eq hlookup TemplateKind.ofTag?_tag fun _ ↦ rfl
  have hmarks : r.default? "markers" []
      (Document.listOf? (Document.oneOf? TemplateKind.all TemplateKind.tag)) = some e.marks := by
    have hlookup := hfield "markers"
      ((filled e.marks).map fun items ↦ .list (items.map fun k ↦ .text k.tag)) (by decide)
      (by simp [slots, ownSlots])
    exact Record.default?_eq hlookup (Document.listOf?_eq rfl TemplateKind.ofTag?_tag)
  have hcapabilities : r.default? "capabilities" []
      (Document.listOf? (Document.oneOf? Capability.all Capability.tag)) =
        some e.capabilities := by
    have hlookup := hfield "capabilities"
      ((filled e.capabilities).map fun items ↦ .list (items.map fun c ↦ .text c.tag)) (by decide)
      (by simp [slots, ownSlots])
    exact Record.default?_eq hlookup (Document.listOf?_eq rfl Capability.ofTag?_tag)
  have hmembers : Document.members? ownFieldNames e.toJson = some (present e.slots) := by
    rw [toJson_eq]
    rfl
  simp only [ofDocument?, hmembers, hr, hhandler, hkind, hmarks, hcapabilities,
    e.templateOf?_slots, Option.bind_eq_bind, Option.bind_some]
  rfl

end HandlerEntry

/-! ## Configurations -/

namespace KernelConfig

variable {c : KernelConfig}

def slots (c : KernelConfig) : List (String × Option Value) :=
  [("version", some (.int c.version)),
    ("roots", (filled c.roots).map fun items ↦ .list (items.map .text)),
    ("handlers", some (.list (c.handlers.map HandlerEntry.toJson)))]

theorem toJson_eq (c : KernelConfig) : c.toJson = .fields (present c.slots) := by
  have hversion : [("version", Value.int c.version)] =
      present [("version", some (.int c.version))] := rfl
  have hhandlers : [("handlers", Value.list (c.handlers.map HandlerEntry.toJson))] =
      present [("handlers", some (.list (c.handlers.map HandlerEntry.toJson)))] := rfl
  rw [toJson, hversion, hhandlers, Json.listField_eq, ← present_append, ← present_append]
  rfl

theorem nodup_slots (c : KernelConfig) : (c.slots.map Prod.fst).Nodup := by
  simp [slots]

theorem writable_toJson (hversion : c.version < UInt32.size) (depth : Nat) :
    c.toJson.Writable (depth + 5) := by
  have hrange : Json.InRange c.version := by
    have hsize : UInt32.size < UInt64.size := by decide
    have hmin : Int64.minValue.toInt ≤ 0 := by decide
    constructor <;> omega
  rw [toJson_eq]
  refine Value.writable_present ?_
  simp [slots, Value.Writable, hrange, HandlerEntry.writable_toJson]

theorem ofDocument?_toJson (hversion : c.version < UInt32.size) :
    ofDocument? c.toJson = some c := by
  obtain ⟨r, hr, hfield⟩ := Value.ofMembers?_present c.nodup_slots fieldNames
  have hnumber : r.required? "version" (Document.natBelow? UInt32.size) = some c.version := by
    have hlookup := hfield "version" (some (.int c.version)) (by decide) (by simp [slots])
    exact Record.required?_eq hlookup (if_pos (decide_eq_true hversion))
  have hroots : r.default? "roots" [] (Document.listOf? Document.text?) = some c.roots := by
    have hlookup := hfield "roots" ((filled c.roots).map fun items ↦ .list (items.map .text))
      (by decide) (by simp [slots])
    exact Record.default?_eq hlookup (Document.listOf?_eq rfl fun _ ↦ rfl)
  have hhandlers : r.default? "handlers" [] (Document.listOf? HandlerEntry.ofDocument?) =
      some c.handlers := by
    have hlookup := hfield "handlers" (some (.list (c.handlers.map HandlerEntry.toJson)))
      (by decide) (by simp [slots])
    rw [Record.default?, hlookup]
    exact Document.listOf?_eq rfl HandlerEntry.ofDocument?_toJson
  have hmembers : Document.members? fieldNames c.toJson = some (present c.slots) := by
    rw [toJson_eq]
    rfl
  simp only [ofDocument?, Record.of?, hmembers, hr, hnumber, hroots, hhandlers,
    Option.bind_eq_bind, Option.bind_some]
  rfl

/-- What has been written is read as it was, and then validated. -/
theorem ofText_render (hversion : c.version < UInt32.size) :
    ofText .json c.toJson.render = c.validate := by
  have hread := Value.ofText?_render (writable_toJson hversion 122)
  have hjson : ofJson? c.toJson.render = some c := by
    rw [ofJson?, hread, Option.bind_some, ofDocument?_toJson hversion]
  rw [ofText]
  simp only [hjson]

theorem validate_eq_ok (hversion : c.version = currentVersion)
    (hnamed : ∀ e ∈ c.handlers, Text.isBlankText e.handler = false) : c.validate = .ok c := by
  have hnone : (c.handlers.find? fun e ↦ Text.isBlankText e.handler) = none := by
    rw [List.find?_eq_none]
    intro e he
    rw [hnamed e he]
    exact Bool.false_ne_true
  rw [validate, if_neg (not_not_intro hversion), hnone]

/-- Any configuration of the current version whose handler types all have names is read back from
its text as it was, with all its roots and entries, and with what each entry says and leaves out. -/
theorem ofText_render_eq_ok (c : KernelConfig) (hversion : c.version = currentVersion)
    (hnamed : ∀ e ∈ c.handlers, Text.isBlankText e.handler = false) :
    ofText .json c.toJson.render = .ok c := by
  have hsize : c.version < UInt32.size := by
    rw [hversion]
    decide
  rw [ofText_render hsize, validate_eq_ok hversion hnamed]

/-- An entry with two markers and a relation that does not fit them, one with a name that has to be
escaped, and one that says as little as it can. -/
theorem shelves_read_back :
    let books : HandlerEntry := ⟨"Books", some .directContainer, [.resource], [],
      { id := "books", memberHandler := some "Book", memberPath := some "",
        membershipRelation := some .isMemberOf }⟩
    let book : HandlerEntry := ⟨"\"Book\"\n", none, [], [.modifiable, .modifiable, .resource],
      { id := "", name := some "B\u0001\\", attachments := [⟨"cover", "c", "Cover", none⟩,
          ⟨"cover", "c", "Cover", some "http://example.org/ns#cover"⟩] }⟩
    let c : KernelConfig := ⟨1, ["Books", "", "Books"],
      [books, book, ⟨"Cover", none, [], [], { id := "cover" }⟩]⟩
    c.version = currentVersion ∧ (∀ e ∈ c.handlers, Text.isBlankText e.handler = false) ∧
      ofText .json c.toJson.render = .ok c := by
  intro books book c
  have hnamed : ∀ e ∈ c.handlers, Text.isBlankText e.handler = false := by decide +kernel
  exact ⟨rfl, hnamed, ofText_render_eq_ok c rfl hnamed⟩

end KernelConfig

end ResourceKernel
