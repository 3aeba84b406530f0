import ResourceKernel.Library.Loader

/-!
# The template service

A service is configured once: it loads the library of the roots and keeps one handler for every
handler type of the library, supplied by the application or made by the type's own constructor.
Nothing can be looked up before, and nothing changes afterwards.
-/

namespace ResourceKernel

structure Configuration where
  library : TemplateLibrary
  handlers : Table HandlerId Handler
  deriving DecidableEq, Repr

structure TemplateService where
  catalog : HandlerCatalog
  configuration : Option Configuration

namespace TemplateService

def ofCatalog (catalog : HandlerCatalog) : TemplateService := ⟨catalog, none⟩

def isConfigured (s : TemplateService) : Bool := s.configuration.isSome

/-- A supplied handler has to be of a known type and to have all capabilities of it. -/
def checkInstance (catalog : HandlerCatalog) (handler : Handler) : Result Unit :=
  match catalog.find? handler.id with
  | none => throw ↑(ConfigurationFault.unregistered handler.id)
  | some c =>
      match c.capabilities.toList.find? fun k ↦ !handler.capabilities.has k with
      | some missing => throw ↑(TemplateFault.lacksCapability handler.id missing)
      | none => return ()

def supply (catalog : HandlerCatalog) (handlers : Table HandlerId Handler) (handler : Handler) :
    Result (Table HandlerId Handler) := do
  checkInstance catalog handler
  if handlers.contains handler.id then throw ↑(ConfigurationFault.suppliedTwice handler.id)
  return handlers.insert handler.id handler

def complete (catalog : HandlerCatalog) (handlers : Table HandlerId Handler)
    (id : HandlerId) : Result (Table HandlerId Handler) :=
  if handlers.contains id then return handlers
  else
    match catalog.find? id with
    | none => throw ↑(StateFault.vanished id)
    | some c => c.instantiate.map fun handler ↦ handlers.insert id handler

/-- The configuration for roots and supplied handlers, whose types are roots as well. -/
def configurationOf (catalog : HandlerCatalog) (roots : List HandlerId)
    (instances : List Handler) : Result Configuration := do
  let supplied ← instances.foldlM (supply catalog) ∅
  let library ← (TemplateLibrary.load catalog (roots ++ supplied.keys)).mapError .templateCreation
  let handlers ← library.handlers.foldlM (complete catalog) supplied
  return ⟨library, handlers⟩

/-- A configuration is published once, and then stays. -/
def publish (s : TemplateService) (c : Configuration) : Result Unit × TemplateService :=
  match s.configuration with
  | some _ => (throw ↑StateFault.configured, s)
  | none => (.ok (), { s with configuration := some c })

/-- Configures the service. Nothing is published unless every step succeeds. -/
def configureOnce (s : TemplateService) (roots : List HandlerId) (instances : List Handler) :
    Result Unit × TemplateService :=
  if s.isConfigured then (throw ↑StateFault.configured, s)
  else
    match configurationOf s.catalog roots instances with
    | .error fault => (.error fault, s)
    | .ok c => s.publish c

/-- The service once it has been configured, if that succeeds. -/
def configure (s : TemplateService) (roots : List HandlerId) (instances : List Handler) :
    Result TemplateService :=
  let (answer, after) := s.configureOnce roots instances
  answer.map fun () ↦ after

def configured (s : TemplateService) : Result Configuration :=
  match s.configuration with
  | some c => .ok c
  | none => throw ↑StateFault.notConfigured

def library (s : TemplateService) : Result TemplateLibrary := s.configured.map (·.library)

/-- The library that the operations on the graph work with. -/
def graphLibrary (s : TemplateService) : Result TemplateLibrary := s.library

def templateOfHandler (s : TemplateService) (handler : HandlerId) : Result (Option Template) :=
  s.library.map (·.findByHandler? handler)

def templateOfId (s : TemplateService) (id : TemplateId) : Result (Option Template) :=
  s.library.map (·.find? id)

def templateOfIdAs (s : TemplateService) (id : TemplateId) (expected : TemplateKind) :
    Result Template := do
  match (← s.library).findAs id expected with
  | .ok t => return t
  | .error fault => throw (.graph fault)

def handler (s : TemplateService) (id : HandlerId) : Result (Option Handler) :=
  s.configured.map (·.handlers.find? id)

def handlers (s : TemplateService) : Result (List Handler) :=
  s.configured.map (·.handlers.values)

end TemplateService

end ResourceKernel
