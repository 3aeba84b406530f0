import ResourceKernel.CommandLine.Run

/-!
# The command line

Reads the configuration file that the arguments name, and writes the answer.
-/

namespace ResourceKernel.CommandLine

def FileFault.ofSystem : IO.Error → FileFault
  | .noFileOrDirectory .. => .notFound
  | e => .other (toString e)

def readFile (path : String) : IO (Except FileFault (List UInt8)) := do
  match ← (IO.FS.readBinFile path).toBaseIO with
  | .ok bytes => return .ok bytes.data.toList
  | .error e => return .error (.ofSystem e)

def namedFile (args : List String) : IO (Except FileFault (List UInt8)) :=
  match Invocation.ofArguments args with
  | .ok ⟨⟨some path, _, _⟩, _⟩ => readFile path
  | _ => return .error .notFound

end ResourceKernel.CommandLine

open ResourceKernel.CommandLine in
def main (args : List String) : IO UInt32 := do
  let file ← namedFile args
  let ending := run (fun _ ↦ file) args
  IO.print ending.output
  match ending.complaint with
  | some text => IO.eprintln text
  | none => pure ()
  return ending.status.code.toUInt32
