import ResourceKernel.Error
import ResourceKernel.Table
import ResourceKernel.Template.Basic

/-!
# Template libraries

A library holds templates by identifier, and the identifiers by handler type. The references of
its templates lead to templates of the same library.
-/

namespace ResourceKernel

structure TemplateLibrary where
  byId : Table TemplateId Template
  byHandler : Table HandlerId TemplateId
  deriving DecidableEq, Repr

namespace TemplateLibrary

def empty : TemplateLibrary := ⟨∅, ∅⟩

instance : Inhabited TemplateLibrary := ⟨empty⟩

def find? (l : TemplateLibrary) (id : TemplateId) : Option Template := l.byId.find? id

def findByHandler? (l : TemplateLibrary) (handler : HandlerId) : Option Template :=
  (l.byHandler.find? handler).bind l.find?

/-- The template with the identifier, if it may stand where the expected kind is needed. -/
def findAs (l : TemplateLibrary) (id : TemplateId) (expected : TemplateKind) :
    Except GraphFault Template :=
  match l.find? id with
  | none => .error (.unknownTemplate id)
  | some t =>
      if expected.accepts t.kind then .ok t else .error (.templateMismatch id expected t.kind)

def contains (l : TemplateLibrary) (id : TemplateId) : Bool := l.byId.contains id

def containsHandler (l : TemplateLibrary) (handler : HandlerId) : Bool :=
  l.byHandler.contains handler

def handlers (l : TemplateLibrary) : List HandlerId := l.byHandler.keys

def templates (l : TemplateLibrary) : List Template := l.byId.values

def size (l : TemplateLibrary) : Nat := l.byId.size

def isEmpty (l : TemplateLibrary) : Bool := l.byId.isEmpty

def memberOf? (l : TemplateLibrary) (t : Template) : Option Template :=
  t.memberTemplate?.bind l.find?

def attachedTo? (l : TemplateLibrary) (t : Template) (slot : String) : Option Template :=
  (t.slot? slot).bind fun s ↦ l.find? s.template

def insert (l : TemplateLibrary) (handler : HandlerId) (t : Template) : TemplateLibrary :=
  ⟨l.byId.insert t.id t, l.byHandler.insert handler t.id⟩

end TemplateLibrary

end ResourceKernel
