import ResourceKernel.Resource.Key
import ResourceKernel.Template.Kind

/-!
# Causes of failure

Each part of the kernel has its own list of causes, and one function puts a cause into words.
-/

namespace ResourceKernel

open Text (Decimal.ofNat)

/-! ## Templates and handlers -/

inductive UriOption
  | attachmentPredicate
  | membershipPredicate
  | insertedContentRelation
  deriving DecidableEq, Repr

def UriOption.title : UriOption → String
  | .attachmentPredicate => "attachment predicate"
  | .membershipPredicate => "membership predicate"
  | .insertedContentRelation => "inserted content relation"

inductive TemplateFault
  | unknownHandler (handler : HandlerId)
  | unregistered (handler : HandlerId)
  | unresolved (handler : HandlerId)
  | sharedId (template : TemplateId) (owner handler : HandlerId)
  | noMarker (handler : HandlerId)
  | severalMarkers (handler : HandlerId) (kinds : List TemplateKind)
  | notContainer (handler : HandlerId) (kind : TemplateKind)
  | emptyId (handler : HandlerId)
  | blankAttachment (template : TemplateId)
  | repeatedSlot (template : TemplateId) (slot : String)
  | repeatedPath (template : TemplateId) (path : String)
  | emptyUri (option : UriOption) (template : TemplateId)
  | notUri (option : UriOption) (template : TemplateId) (written : String) (fault : UriFault)
  | rootlessUri (option : UriOption) (template : TemplateId) (written : String)
  | noMemberHandler (template : TemplateId)
  | noUri (option : UriOption) (template : TemplateId)
  | declaredTwice (handler : HandlerId)
  | lacksCapability (handler : HandlerId) (capability : Capability)
  | note (text : String)
  deriving DecidableEq, Repr

def TemplateFault.message : TemplateFault → String
  | .unknownHandler h | .unregistered h => s!"unknown handler type {h}"
  | .unresolved h => s!"unresolved handler {h}"
  | .sharedId t owner h => s!"template id {t} is used by both {owner} and {h}"
  | .noMarker h => s!"handler {h} carries no template marker"
  | .severalMarkers h kinds =>
      let names := ", ".intercalate (kinds.map TemplateKind.tag)
      s!"handler {h} carries several template markers: {names}"
  | .notContainer h kind =>
      s!"handler {h} is marked " ++ kind.tag ++ " but is not a container handler"
  | .emptyId h => s!"handler {h} declares an empty template id"
  | .blankAttachment t => s!"template {t} declares an attachment with an empty id or path"
  | .repeatedSlot t slot => s!"template {t} declares attachment id {slot} twice"
  | .repeatedPath t path => s!"template {t} declares attachment path {path} twice"
  | .emptyUri option t => option.title ++ s!" of template {t} must not be empty"
  | .notUri option t written fault =>
      option.title ++ s!" of template {t} is not an absolute URI ({written}): " ++ fault.message
  | .rootlessUri option t written =>
      option.title ++ s!" of template {t} is an opaque URI ({written})"
  | .noMemberHandler t => s!"container template {t} does not declare a member handler"
  | .noUri option t => s!"template {t} has no " ++ option.title
  | .declaredTwice h => s!"handler {h} is declared more than once"
  | .lacksCapability h capability =>
      s!"handler {h} does not provide the " ++ capability.title ++ " capability of its type"
  | .note text => text

inductive InstantiationFault
  | noConstructor
  | produced (handler : HandlerId)
  | note (text : String)
  deriving DecidableEq, Repr

def InstantiationFault.message : InstantiationFault → String
  | .noConstructor => "handler type has no default constructor"
  | .produced h => s!"constructor produced a {h} handler"
  | .note text => text

inductive StateFault
  | configured
  | notConfigured
  | vanished (handler : HandlerId)
  | noSession
  | note (text : String)
  deriving DecidableEq, Repr

def StateFault.message : StateFault → String
  | .configured => "template management service is already configured"
  | .notConfigured => "template management service is not configured"
  | .vanished h => s!"handler {h} vanished from the catalog"
  | .noSession => "active transaction without a session"
  | .note text => text

inductive ConfigurationFault
  | unsupportedVersion (found expected : Nat)
  | blankHandler (template : TemplateId)
  | unregistered (handler : HandlerId)
  | suppliedTwice (handler : HandlerId)
  | note (text : String)
  deriving DecidableEq, Repr

def ConfigurationFault.message : ConfigurationFault → String
  | .unsupportedVersion found expected =>
      "unsupported configuration version " ++ Decimal.ofNat found ++ " (expected " ++
        Decimal.ofNat expected ++ ")"
  | .blankHandler t => s!"handler entry for template '{t}' has no handler name"
  | .unregistered h => s!"handler {h} has no registered handler type"
  | .suppliedTwice h => s!"handler {h} is supplied more than once"
  | .note text => text

/-! ## Graph -/

inductive GraphFault
  | unknownResource (resource : ResourceId)
  | resourceExists (resource : ResourceId)
  | foreignParent (resource parent : ResourceId)
  | unknownTemplate (template : TemplateId)
  | templateMismatch (template : TemplateId) (expected found : TemplateKind)
  | notAContainer (resource : ResourceId)
  | unknownAttachment (resource : ResourceId) (slot : String)
  | attachmentOccupied (resource : ResourceId) (slot : String) (bound : ResourceId)
  | alreadyAttached (resource child : ResourceId) (slot : String)
  | incompatibleAttachment (child : ResourceId) (slot reason : String)
  | alreadyMember (container member : ResourceId)
  | invalidPath (path : String)
  deriving DecidableEq, Repr

def GraphFault.message : GraphFault → String
  | .unknownResource r => s!"resource {r} does not exist"
  | .resourceExists r => s!"resource {r} already exists"
  | .foreignParent r parent => s!"resource {r} is already a child of {parent}"
  | .unknownTemplate t => s!"template {t} is not part of the active library"
  | .templateMismatch t expected found =>
      s!"template {t} is a " ++ found.tag ++ " template, expected " ++ expected.tag
  | .notAContainer r => s!"resource {r} is not a container"
  | .unknownAttachment r slot => s!"resource {r} has no attachment slot {slot}"
  | .attachmentOccupied r slot bound => s!"attachment {slot} of {r} is already bound to {bound}"
  | .alreadyAttached r child slot => s!"resource {child} is already attached to {r} through {slot}"
  | .incompatibleAttachment child slot reason =>
      s!"resource {child} cannot be attached through {slot}: {reason}"
  | .alreadyMember container member => s!"resource {member} is already a member of {container}"
  | .invalidPath path => s!"invalid preferred path '{path}'"

inductive EndpointFault
  | invalidPath (path : String)
  | duplicatePath (path : String)
  | alreadyPublished (resource : ResourceId) (path : String)
  | deleted (path : String)
  | unknownEndpoint (path : String)
  deriving DecidableEq, Repr

def EndpointFault.message : EndpointFault → String
  | .invalidPath path => s!"invalid endpoint path '{path}'"
  | .duplicatePath path => s!"an endpoint already exists at {path}"
  | .alreadyPublished r path => s!"resource {r} is already published at {path}"
  | .deleted path => s!"endpoint {path} has been deleted"
  | .unknownEndpoint path => s!"no endpoint exists at {path}"

/-! ## Transactions -/

inductive TransactionState
  | inactive
  | active
  | committed
  | rolledBack
  deriving DecidableEq, Repr

def TransactionState.title : TransactionState → String
  | .inactive => "inactive"
  | .active => "active"
  | .committed => "committed"
  | .rolledBack => "rolled back"

def TransactionState.ofTitle? (title : String) : Option TransactionState :=
  [.inactive, .active, .committed, .rolledBack].find? fun s ↦ TransactionState.title s == title

def TransactionState.isTerminal : TransactionState → Bool
  | .committed | .rolledBack => true
  | .inactive | .active => false

inductive TransactionFault
  | notActive (state : TransactionState)
  | cannotBegin (state : TransactionState)
  | alreadyActive
  | conflict (started current : Nat)
  deriving DecidableEq, Repr

def TransactionFault.message : TransactionFault → String
  | .notActive state => "transaction is " ++ state.title ++ ", expected active"
  | .cannotBegin state => "transaction cannot begin while " ++ state.title
  | .alreadyActive => "another transaction is already active in this execution context"
  | .conflict started current =>
      "commit conflict: session started at revision " ++ Decimal.ofNat started ++
        ", store is at " ++ Decimal.ofNat current

end ResourceKernel
