import ResourceKernel.Error
import ResourceKernel.Handler.Options

/-!
# Handler types and their catalog

A handler type says what its handlers can do, which template marks it carries, what its template
looks like, and how to make a handler, if it can be made without help. The catalog holds all
handler types of an application, each once.
-/

namespace ResourceKernel

/-- What tells a handler from others that have its name and capabilities. -/
class HandlerTag where
  number : Nat
  deriving DecidableEq, Repr

/-- The tag of handlers that nobody has to tell apart. -/
instance : HandlerTag := ⟨0⟩

/-- An object of the application. It is only ever asked for its name and capabilities, and its tag
says which object it is. -/
structure Handler where
  id : HandlerId
  capabilities : Capabilities
  [tag : HandlerTag]
  deriving DecidableEq, Repr

def Handler.toJson (h : Handler) : Json.Value :=
  .fields [("handler", .text h.id),
    ("capabilities", .list (h.capabilities.toList.map fun c ↦ .text c.tag))]

/-- What a constructor yields: a handler, or a reason in its own words. -/
abbrev Constructor := Except String Handler

structure HandlerClass where
  id : HandlerId
  capabilities : Capabilities
  markers : List TemplateKind
  options : TemplateOptions
  constructor? : Option Constructor
  deriving Repr

namespace HandlerClass

def impliedCapabilities (kind : TemplateKind) : Capabilities :=
  if kind.isContainer then .forContainer else .forResource

def ofKind (id : HandlerId) (kind : TemplateKind) (options : TemplateOptions) : HandlerClass :=
  ⟨id, impliedCapabilities kind, [kind], options, none⟩

def instantiate (c : HandlerClass) : Result Handler :=
  match c.constructor? with
  | none => .error (.handlerInstantiation c.id (.of .noConstructor))
  | some (.error text) => .error (.handlerInstantiation c.id (.of (.note text)))
  | some (.ok handler) =>
      if handler.id = c.id then .ok handler
      else .error (.handlerInstantiation c.id (.of (.produced handler.id)))

end HandlerClass

structure HandlerCatalog where
  classes : Table HandlerId HandlerClass

namespace HandlerCatalog

def empty : HandlerCatalog := ⟨∅⟩

instance : Inhabited HandlerCatalog := ⟨empty⟩

def find? (c : HandlerCatalog) (id : HandlerId) : Option HandlerClass := c.classes.find? id

def ids (c : HandlerCatalog) : List HandlerId := c.classes.keys

/-- Adds a handler type. No two have one name. -/
def register (c : HandlerCatalog) (cls : HandlerClass) : Result HandlerCatalog :=
  if c.classes.contains cls.id then throw ↑(TemplateFault.declaredTwice cls.id)
  else return ⟨c.classes.insert cls.id cls⟩

def registerAll (c : HandlerCatalog) (classes : List HandlerClass) : Result HandlerCatalog :=
  classes.foldlM register c

end HandlerCatalog

end ResourceKernel
