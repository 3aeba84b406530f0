import ResourceKernel.Config.Reader
import ResourceKernel.Text.Utf8

/-!
# Files

The working directory as a list of files, the paths that lead to them, and the configuration in a
file.
-/

namespace ResourceKernel.CommandLine

open Text

inductive FileFault
  | notFound
  | notDirectory
  | isDirectory
  | longName
  | zeroByte
  | notUtf8
  | other (text : String)
  deriving DecidableEq, Repr

def FileFault.message : FileFault → String
  | .notFound => "No such file or directory (os error 2)"
  | .notDirectory => "Not a directory (os error 20)"
  | .isDirectory => "Is a directory (os error 21)"
  | .longName => "File name too long (os error 36)"
  | .zeroByte => "file name contained an unexpected NUL byte"
  | .notUtf8 => "stream did not contain valid UTF-8"
  | .other text => text

/-! ## Paths -/

def pathParts (path : String) : List String :=
  (path.toList.splitOn '/').map String.ofList

def pathSteps (path : String) : List String :=
  (pathParts path).filter fun part ↦ part != "" && part != "."

def fileName? (path : String) : Option String :=
  (pathSteps path).getLast?.filter (· != "..")

/-- What follows the last point of a name, unless there is nothing before the point. -/
def extensionOf? (name : String) : Option String :=
  let reversed := name.toList.reverse
  match reversed.dropWhile (· != '.') with
  | _ :: _ :: _ => some (String.ofList (reversed.takeWhile (· != '.')).reverse)
  | _ => none

def formatOf (path : String) : ConfigFormat :=
  if (fileName? path).bind extensionOf? = some "json" then .json else .yaml

/-! ## Folders -/

structure Folder where
  files : List (String × List UInt8)

namespace Folder

def file? (f : Folder) (steps : List String) : Option (List UInt8) :=
  (f.files.find? fun e ↦ pathSteps e.1 == steps).map Prod.snd

def hasDirectory (f : Folder) (steps : List String) : Bool :=
  steps.isEmpty || f.files.any fun e ↦
    steps.isPrefixOf (pathSteps e.1) && steps.length < (pathSteps e.1).length

/-- The bytes at a path, after the steps taken so far, latest first. Every step but the last has to
lead to a directory. -/
def follow (f : Folder) (isClosed : Bool) (taken : List String) :
    List String → Except FileFault (List UInt8)
  | [] => .error .isDirectory
  | step :: rest =>
      let next := if step = ".." then taken.drop 1 else step :: taken
      if step = ".." && taken.isEmpty then
        if rest.isEmpty then .error .isDirectory else .error .notFound
      else if 255 < step.utf8ByteSize then .error .longName
      else if f.hasDirectory next.reverse then follow f isClosed next rest
      else
        match f.file? next.reverse with
        | some bytes =>
            if rest.isEmpty && !isClosed then .ok bytes else .error .notDirectory
        | none => .error .notFound

/-- Whether a path can only lead to a directory. -/
def isClosed (path : String) : Bool :=
  match (pathParts path).getLast? with
  | some part => part == "" || part == "."
  | none => false

/-- The bytes of the file at a path. There is nothing outside of the folder. -/
def read (f : Folder) (path : String) : Except FileFault (List UInt8) :=
  if path.toList.contains (Char.ofNat 0) then .error .zeroByte
  else if path.isEmpty then .error .notFound
  else if path.startsWith "/" then
    if (pathSteps path).isEmpty then .error .isDirectory else .error .notFound
  else f.follow (isClosed path) [] (pathSteps path)

end Folder

/-! ## Configurations in files -/

def readConfig (read : String → Except FileFault (List UInt8)) (path : String) :
    Result KernelConfig :=
  match read path with
  | .error fault => .error (.io fault.message)
  | .ok bytes =>
      match Utf8.decode bytes with
      | .error _ => .error (.io FileFault.notUtf8.message)
      | .ok s => (KernelConfig.ofText (formatOf path) s).mapError (KernelError.within path)

end ResourceKernel.CommandLine
