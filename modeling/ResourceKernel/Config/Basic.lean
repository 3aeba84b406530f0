import ResourceKernel.Handler.Catalog
import ResourceKernel.Service

/-!
# Configurations

A configuration lists the handler types of an application with their template options. It gives a
catalog in which every type can make its handlers, and the roots that a service is configured
with.
-/

namespace ResourceKernel

open Json (Value)

structure HandlerEntry where
  handler : String
  kind : Option TemplateKind
  marks : List TemplateKind
  /-- What handlers can do, if it is not what the kind implies. -/
  capabilities : List Capability
  template : TemplateOptions
  deriving DecidableEq, Repr, Inhabited

structure KernelConfig where
  version : Nat
  roots : List String
  handlers : List HandlerEntry
  deriving DecidableEq, Repr, Inhabited

namespace HandlerEntry

def markers (e : HandlerEntry) : List TemplateKind := e.kind.toList ++ e.marks

def toJson (e : HandlerEntry) : Value :=
  .fields ([("handler", .text e.handler)] ++
    Json.optionalField "kind" (fun k ↦ .text k.tag) e.kind ++
    Json.listField "markers" (fun k ↦ .text k.tag) e.marks ++
    Json.listField "capabilities" (fun c ↦ .text c.tag) e.capabilities ++ e.template.fields)

def effectiveCapabilities (e : HandlerEntry) : Capabilities :=
  if e.capabilities.isEmpty then
    HandlerClass.impliedCapabilities (e.markers.head?.getD .resource)
  else .ofList e.capabilities

/-- The handler type, which makes handlers that can do what it promises. -/
def toClass (e : HandlerEntry) : HandlerClass where
  id := e.handler
  capabilities := e.effectiveCapabilities
  markers := e.markers
  options := e.template
  constructor? := some (.ok ⟨e.handler, e.effectiveCapabilities⟩)

theorem instantiate_toClass (e : HandlerEntry) :
    e.toClass.instantiate = .ok ⟨e.handler, e.effectiveCapabilities⟩ := by
  simp [HandlerClass.instantiate, toClass]

end HandlerEntry

namespace KernelConfig

def currentVersion : Nat := 1

/-- Roots are left out if there are none. -/
def toJson (c : KernelConfig) : Value :=
  .fields ([("version", .int c.version)] ++ Json.listField "roots" .text c.roots ++
    [("handlers", .list (c.handlers.map HandlerEntry.toJson))])

/-- Refuses other versions, and handler types without a name. -/
def validate (c : KernelConfig) : Result KernelConfig :=
  if c.version ≠ currentVersion then
    throw ↑(ConfigurationFault.unsupportedVersion c.version currentVersion)
  else
    match c.handlers.find? fun e ↦ Text.isBlankText e.handler with
    | some e => throw ↑(ConfigurationFault.blankHandler e.template.id)
    | none => .ok c

def catalog (c : KernelConfig) : Result HandlerCatalog :=
  HandlerCatalog.empty.registerAll (c.handlers.map HandlerEntry.toClass)

/-- The handler types that the library is built from: all of them unless some are named. -/
def effectiveRoots (c : KernelConfig) : List HandlerId :=
  if c.roots.isEmpty then c.handlers.map (·.handler) else c.roots

def service (c : KernelConfig) : Result TemplateService := do
  (TemplateService.ofCatalog (← c.catalog)).configure c.effectiveRoots []

end KernelConfig

end ResourceKernel
