import ResourceKernel.Handler.Catalog
import ResourceKernel.Text.Blank
import ResourceKernel.Uri.Reader

/-!
# Drafts of templates

A draft is what one handler type says of its template, checked on its own. References to other
handler types are still by name.
-/

namespace ResourceKernel

structure DraftSlot where
  id : String
  path : String
  handler : HandlerId
  predicate : Option Uri
  deriving DecidableEq, Repr

structure Draft where
  kind : TemplateKind
  id : TemplateId
  handler : HandlerId
  name : Option String
  description : Option String
  slots : List DraftSlot
  memberHandler : Option HandlerId
  memberPath : Option String
  membership : Option Membership
  insertedContentRelation : Option Uri
  deriving DecidableEq, Repr

namespace Draft

/-- The mark of a handler type, which has to be the only one. -/
def kindOf (c : HandlerClass) : Except TemplateFault TemplateKind :=
  match c.markers with
  | [kind] => .ok kind
  | [] => .error (.noMarker c.id)
  | kinds => .error (.severalMarkers c.id kinds)

def readUri (option : UriOption) (template : TemplateId) (raw : String) :
    Except TemplateFault Uri :=
  let written := Text.trim raw
  if written.isEmpty then .error (.emptyUri option template)
  else
    match Uri.ofText written with
    | .error fault => .error (.notUri option template written fault)
    | .ok u => if u.isRootless then .error (.rootlessUri option template written) else .ok u

def readOptionalUri (option : UriOption) (template : TemplateId) :
    Option String → Except TemplateFault (Option Uri)
  | none => .ok none
  | some raw => (readUri option template raw).map some

def readSlot (template : TemplateId) (before : List AttachmentOption) (a : AttachmentOption) :
    Except TemplateFault DraftSlot :=
  if Text.isBlankText a.id || Text.isBlankText a.path then .error (.blankAttachment template)
  else if before.any (·.id == a.id) then .error (.repeatedSlot template a.id)
  else if before.any (·.path == a.path) then .error (.repeatedPath template a.path)
  else
    match readOptionalUri .attachmentPredicate template a.predicate with
    | .error fault => .error fault
    | .ok predicate => .ok ⟨a.id, a.path, a.handler, predicate⟩

def readSlots (template : TemplateId) (before : List AttachmentOption) :
    List AttachmentOption → Except TemplateFault (List DraftSlot)
  | [] => .ok []
  | a :: rest =>
      match readSlot template before a with
      | .error fault => .error fault
      | .ok slot =>
          match readSlots template (before ++ [a]) rest with
          | .error fault => .error fault
          | .ok slots => .ok (slot :: slots)

def readMembership (kind : TemplateKind) (template : TemplateId) (o : TemplateOptions) :
    Except TemplateFault (Option Membership) :=
  if kind.isMembershipAware then
    (readUri .membershipPredicate template (o.membershipPredicate.getD "")).map fun u ↦
      some ⟨u, o.membershipRelation.getD .hasMember⟩
  else .ok none

def readInserted (kind : TemplateKind) (template : TemplateId) (o : TemplateOptions) :
    Except TemplateFault (Option Uri) :=
  if kind = .indirectContainer then
    (readUri .insertedContentRelation template (o.insertedContentRelation.getD "")).map some
  else .ok none

/-- The draft of a handler type: one mark, the capability that a container needs, an identifier,
sound attachments, and the URIs that its kind requires. -/
def ofClass (c : HandlerClass) : Except TemplateFault Draft := do
  let kind ← kindOf c
  if kind.isContainer && !c.capabilities.has .container then
    throw (.notContainer c.id kind)
  let id := Text.trim c.options.id
  if id.isEmpty then throw (.emptyId c.id)
  let slots ← readSlots id [] c.options.attachments
  let membership ← readMembership kind id c.options
  let inserted ← readInserted kind id c.options
  return {
    kind, id, slots, membership
    handler := c.id
    name := c.options.name
    description := c.options.description
    memberHandler := if kind.isContainer then c.options.memberHandler else none
    memberPath := if kind.isContainer then c.options.memberPath else none
    insertedContentRelation := inserted }

end Draft

end ResourceKernel
