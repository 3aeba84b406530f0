import ResourceKernel.Config.Basic
import ResourceKernel.Json.Reader
import ResourceKernel.Yaml.Document

/-!
# Reading configurations

A configuration is read from a document in JSON or in YAML. The template options of a handler
type stand among the other fields of its entry, so that an entry has to be a mapping.
-/

namespace ResourceKernel

variable {δ : Type}

namespace HandlerEntry

def ownFieldNames : List String := ["handler", "kind", "markers", "capabilities"]

/-- The template options among the fields of an entry. All fields that are not the entry's own are
taken up, whether or not they are known. -/
def templateOf? [Deferrable δ] (members : List (String × δ)) : Option TemplateOptions := do
  let others := members.filter fun kv ↦ !ownFieldNames.contains kv.1
  let taken ← others.mapM fun kv ↦ (Deferrable.content? kv.2).map fun c ↦ (kv.1, c)
  TemplateOptions.ofRecord? (← Record.ofMembers? TemplateOptions.fieldNames taken)

def ofDocument? [Deferrable δ] (d : δ) : Option HandlerEntry := do
  let members ← Document.members? ownFieldNames d
  let r ← Record.ofMembers? ownFieldNames members
  let kind? : δ → Option TemplateKind := Document.oneOf? TemplateKind.all TemplateKind.tag
  return {
    handler := ← r.required? "handler" Document.text?
    kind := ← r.optional? "kind" kind?
    marks := ← r.default? "markers" [] (Document.listOf? kind?)
    capabilities := ← r.default? "capabilities" []
      (Document.listOf? (Document.oneOf? Capability.all Capability.tag))
    template := ← templateOf? members }

end HandlerEntry

namespace KernelConfig

def fieldNames : List String := ["version", "roots", "handlers"]

def ofDocument? [Deferrable δ] (d : δ) : Option KernelConfig := do
  let r ← Record.of? fieldNames d
  return {
    version := ← r.required? "version" (Document.natBelow? UInt32.size)
    roots := ← r.default? "roots" [] (Document.listOf? Document.text?)
    handlers := ← r.default? "handlers" [] (Document.listOf? HandlerEntry.ofDocument?) }

def ofJson? (s : String) : Option KernelConfig := (Json.Value.ofText? s).bind ofDocument?

/-- The configuration in a text in YAML, before it is validated. Other fields than those of a
configuration need not make sense. -/
def ofYaml? (s : String) : Option KernelConfig :=
  ((Yaml.Tree.ofText? s).bind fun t ↦ t.open? fieldNames).bind ofDocument?

end KernelConfig

inductive ConfigFormat
  | json
  | yaml
  deriving DecidableEq, Repr

def KernelConfig.ofText (format : ConfigFormat) (s : String) : Result KernelConfig :=
  let read := match format with
    | .json => ofJson? s
    | .yaml => ofYaml? s
  match read with
  | some c => c.validate
  | none => .error (.serialization (.of "not a configuration"))

end ResourceKernel
