/-!
# Arguments

The arguments name a command and say where the configuration is and how to answer. Options may
stand before the command or after it, where those after it win. An option is given once at most
in each of the two places.
-/

namespace ResourceKernel.CommandLine

inductive Command
  | validate
  | templates
  | template (id : String)
  | schema
  deriving DecidableEq, Repr

structure Options where
  config : Option String := none
  json : Bool := false
  verbose : Bool := false
  deriving DecidableEq, Repr

structure Invocation where
  options : Options
  command : Command
  deriving DecidableEq, Repr

/-- Why arguments name nothing to do: they ask for help, or cannot be understood. -/
inductive Refusal
  | help
  | usage
  deriving DecidableEq, Repr

inductive Word
  /-- The mark after which no option is recognised. -/
  | divider
  | long (name : String) (value : Option String)
  | short (flags : List Char)
  | plain (s : String)
  deriving DecidableEq, Repr

namespace Word

def of (s : String) : Word :=
  match s.toList with
  | ['-', '-'] => .divider
  | '-' :: '-' :: rest =>
      let name := String.ofList (rest.takeWhile (· != '='))
      match rest.dropWhile (· != '=') with
      | [] => .long name none
      | _ :: value => .long name (some (String.ofList value))
  | ['-'] => .plain s
  | '-' :: flags => .short flags
  | _ => .plain s

end Word

namespace Options

def setConfig (o : Options) (path : String) : Except Refusal Options :=
  if o.config.isSome then .error .usage else .ok { o with config := some path }

def setJson (o : Options) : Except Refusal Options :=
  if o.json then .error .usage else .ok { o with json := true }

def setVerbose (o : Options) : Except Refusal Options :=
  if o.verbose then .error .usage else .ok { o with verbose := true }

def merge (before after : Options) : Options :=
  ⟨after.config <|> before.config, before.json || after.json, before.verbose || after.verbose⟩

end Options

structure Reading where
  options : Options
  /-- The first word that is no option, unless there is none. -/
  word : Option String
  divided : Bool
  rest : List String

/-- Whether an argument can be the value of an option that stands before it. -/
def isValue (s : String) : Bool :=
  match Word.of s with
  | .plain _ => true
  | _ => false

def readOptions (o : Options) : List String → Except Refusal Reading
  | [] => .ok ⟨o, none, false, []⟩
  | arg :: rest =>
      match Word.of arg with
      | .plain s => .ok ⟨o, some s, false, rest⟩
      | .divider =>
          match rest with
          | [] => .ok ⟨o, none, true, []⟩
          | s :: rest => .ok ⟨o, some s, true, rest⟩
      | .short flags => if flags.head? = some 'h' then .error .help else .error .usage
      | .long "help" none => .error .help
      | .long "json" none => do readOptions (← o.setJson) rest
      | .long "verbose" none => do readOptions (← o.setVerbose) rest
      | .long "config" (some path) => do readOptions (← o.setConfig path) rest
      | .long "config" none =>
          match rest with
          | path :: rest =>
              if isValue path then do readOptions (← o.setConfig path) rest else .error .usage
          | [] => .error .usage
      | .long _ _ => .error .usage

def readOnlyOptions (o : Options) (args : List String) : Except Refusal Options := do
  let r ← readOptions o args
  match r.word with
  | none => .ok r.options
  | some _ => .error .usage

def readOneWord (args : List String) : Except Refusal (String × Options) := do
  let r ← readOptions {} args
  match r.word with
  | none => .error .usage
  | some s =>
      if r.divided then if r.rest.isEmpty then .ok (s, r.options) else .error .usage
      else return (s, ← readOnlyOptions r.options r.rest)

def commandNames : List String := ["validate", "templates", "template", "schema"]

/-- A request for help on a command, or on asking for help. -/
def refuseHelp : List String → Refusal
  | [] => .help
  | [name] => if name = "help" ∨ name ∈ commandNames then .help else .usage
  | _ => .usage

def readCommand (name : String) (args : List String) : Except Refusal (Command × Options) :=
  match name with
  | "validate" => return (.validate, ← readOnlyOptions {} args)
  | "templates" => return (.templates, ← readOnlyOptions {} args)
  | "schema" => return (.schema, ← readOnlyOptions {} args)
  | "template" => do
      let (id, options) ← readOneWord args
      return (.template id, options)
  | "help" => .error (refuseHelp args)
  | _ => .error .usage

def Invocation.ofArguments (args : List String) : Except Refusal Invocation := do
  let r ← readOptions {} args
  match r.word with
  | none => .error .usage
  | some name =>
      if r.divided then .error .usage
      else
        let (command, after) ← readCommand name r.rest
        return ⟨r.options.merge after, command⟩

end ResourceKernel.CommandLine
