import ResourceKernel.CommandLine.Answer
import ResourceKernel.CommandLine.Arguments
import ResourceKernel.CommandLine.Files

/-!
# Running commands

A command other than that for the schema needs a configuration, from which a service is
configured. How a run ends is told by its exit code.
-/

namespace ResourceKernel.CommandLine

inductive ExitStatus
  | ok
  | usage
  | data
  | software
  | io
  | config
  deriving DecidableEq, Repr

def ExitStatus.code : ExitStatus → UInt8
  | .ok => 0
  | .usage => 64
  | .data => 65
  | .software => 70
  | .io => 71
  | .config => 78

inductive CommandFault
  | noConfig
  | emptyId
  | spacedId (id : String)
  | undefined (id : TemplateId)
  | kernel (error : KernelError)
  deriving DecidableEq, Repr

namespace CommandFault

def message : CommandFault → String
  | .noConfig => "--config <PATH> is required for this command"
  | .emptyId => "template id must not be empty"
  | .spacedId id => s!"template id '{id}' must not contain whitespace"
  | .undefined id => s!"template '{id}' is not defined"
  | .kernel error => error.message

def statusOf : KernelError → ExitStatus
  | .templateCreation _ | .key _ | .graph _ | .endpoint _ => .data
  | .configuration _ | .serialization _ | .handlerInstantiation _ _ => .config
  | .illegalState _ | .transaction _ => .software
  | .io _ => .io

def status : CommandFault → ExitStatus
  | .noConfig | .emptyId | .spacedId _ => .usage
  | .undefined _ => .data
  | .kernel error => statusOf error

end CommandFault

/-- The identifier that an argument gives. Blanks around it do not count. -/
def checkId (raw : String) : Except CommandFault TemplateId :=
  let id := Text.trim raw
  if id.isEmpty then .error .emptyId
  else if id.toList.any Text.isBlank then .error (.spacedId id)
  else .ok id

def ofResult {α : Type} (r : Result α) : Except CommandFault α := r.mapError .kernel

/-- A service that has been configured from the file at a path. -/
structure Session where
  path : String
  service : TemplateService

namespace Session

/-- Configures a service, where files are read by `read`. -/
def bootstrap (read : String → Except FileFault (List UInt8)) (config : Option String) :
    Except CommandFault Session :=
  match config with
  | none => .error .noConfig
  | some path => do
      let config ← ofResult (readConfig read path)
      return ⟨path, ← ofResult config.service⟩

def answer (s : Session) : Command → Except CommandFault Answer
  | .validate => do
      let library ← ofResult s.service.library
      let handlers ← ofResult s.service.handlers
      return .validated s.path library.size handlers.length
  | .templates => do
      let library ← ofResult s.service.library
      return .templates (library.templates.map (.of library))
  | .template raw => do
      let id ← checkId raw
      match ← ofResult (s.service.templateOfId id) with
      | some t => return .template (.of t)
      | none => .error (.undefined id)
  | .schema => return .schema KernelConfig.schema

end Session

/-- Only the schema can be told without a session. -/
def Invocation.run (read : String → Except FileFault (List UInt8)) (i : Invocation) :
    Except CommandFault Answer :=
  match i.command with
  | .schema => .ok (.schema KernelConfig.schema)
  | command => do (← Session.bootstrap read i.options.config).answer command

inductive Ending
  | refused (r : Refusal)
  | failed (fault : CommandFault)
  | answered (json : Bool) (a : Answer)

namespace Ending

def status : Ending → ExitStatus
  | .refused .help => .ok
  | .refused .usage => .usage
  | .failed fault => fault.status
  | .answered _ _ => .ok

def usage : String :=
  "Usage: [--config <PATH>] [--json] [--verbose] <COMMAND>\n\nCommands:\n" ++
    "  validate       Load the configuration and build every template it declares\n" ++
    "  templates      List every template in the configured library\n" ++
    "  template <ID>  Show one template with its attachments and membership\n" ++
    "  schema         Print the JSON schema of the configuration document\n"

def output : Ending → String
  | .refused .help => usage
  | .refused .usage | .failed _ => ""
  | .answered json a => a.text json

def complaint : Ending → Option String
  | .refused .help | .answered _ _ => none
  | .refused .usage => some usage
  | .failed fault => some fault.message

end Ending

def run (read : String → Except FileFault (List UInt8)) (args : List String) : Ending :=
  match Invocation.ofArguments args with
  | .error r => .refused r
  | .ok i =>
      match i.run read with
      | .error fault => .failed fault
      | .ok a => .answered i.options.json a

end ResourceKernel.CommandLine
