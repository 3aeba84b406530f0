import ResourceKernel.Fault

/-!
# Errors of the kernel

An error is a cause, told together with the places it was met in. Causes of the graph, of the
endpoint directory and of transactions, and those of the system, are told without places.
-/

namespace ResourceKernel

/-- A cause and the places it was met in, outermost first. -/
structure Told (φ : Type) where
  places : List String
  fault : φ
  deriving DecidableEq, Repr

namespace Told

variable {φ : Type}

def of (fault : φ) : Told φ := ⟨[], fault⟩

def within (place : String) (t : Told φ) : Told φ := { t with places := place :: t.places }

def text (describe : φ → String) (t : Told φ) : String :=
  String.join (t.places.map (· ++ ": ")) ++ describe t.fault

end Told

inductive KernelError
  | templateCreation (cause : Told TemplateFault)
  | handlerInstantiation (handler : HandlerId) (cause : Told InstantiationFault)
  | illegalState (cause : Told StateFault)
  | key (cause : Told KeyFault)
  | graph (cause : GraphFault)
  | endpoint (cause : EndpointFault)
  | transaction (cause : TransactionFault)
  | configuration (cause : Told ConfigurationFault)
  | serialization (cause : Told String)
  | io (text : String)
  deriving DecidableEq, Repr

namespace KernelError

def message : KernelError → String
  | .templateCreation cause => "template creation failed: " ++ cause.text TemplateFault.message
  | .handlerInstantiation h cause =>
      s!"could not instantiate handler {h}: " ++ cause.text InstantiationFault.message
  | .illegalState cause => "illegal state: " ++ cause.text StateFault.message
  | .key cause => "key error: " ++ cause.text KeyFault.message
  | .graph cause => cause.message
  | .endpoint cause => cause.message
  | .transaction cause => cause.message
  | .configuration cause => "configuration error: " ++ cause.text ConfigurationFault.message
  | .serialization cause => "serialization error: " ++ cause.text id
  | .io text => "io error: " ++ text

def within (place : String) : KernelError → KernelError
  | .templateCreation cause => .templateCreation (cause.within place)
  | .handlerInstantiation h cause => .handlerInstantiation h (cause.within place)
  | .illegalState cause => .illegalState (cause.within place)
  | .key cause => .key (cause.within place)
  | .configuration cause => .configuration (cause.within place)
  | .serialization cause => .serialization (cause.within place)
  | .graph cause => .graph cause
  | .endpoint cause => .endpoint cause
  | .transaction cause => .transaction cause
  | .io text => .io text

def graph? : KernelError → Option GraphFault
  | .graph cause => some cause
  | _ => none

end KernelError

abbrev Result (α : Type) := Except KernelError α

instance : Coe TemplateFault KernelError := ⟨fun f ↦ .templateCreation (.of f)⟩
instance : Coe StateFault KernelError := ⟨fun f ↦ .illegalState (.of f)⟩
instance : Coe KeyFault KernelError := ⟨fun f ↦ .key (.of f)⟩
instance : Coe ConfigurationFault KernelError := ⟨fun f ↦ .configuration (.of f)⟩
instance : Coe GraphFault KernelError := ⟨.graph⟩
instance : Coe EndpointFault KernelError := ⟨.endpoint⟩
instance : Coe TransactionFault KernelError := ⟨.transaction⟩

def ResourceId.keyed (id : ResourceId) : Result StoredKey :=
  match id.key with
  | .ok k => .ok k
  | .error fault => .error (.key (.of fault))

end ResourceKernel
