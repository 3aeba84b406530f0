import ResourceKernel.Document.Content
import ResourceKernel.Json.Reader
import ResourceKernel.Table

/-!
# JSON values as documents
-/

namespace ResourceKernel.Json

namespace Value

def members? : Value → Option (List (String × Value))
  | .fields kvs => some kvs
  | _ => none

def items? : Value → Option (List Value)
  | .list xs => some xs
  | _ => none

def text? : Value → Option String
  | .text s => some s
  | _ => none

def bool? : Value → Option Bool
  | .bool b => some b
  | _ => none

def int? : Value → Option Int
  | .int n => some n
  | _ => none

def nat? : Value → Option Nat
  | .int (.ofNat n) => some n
  | _ => none

/-- The name of a choice, alone or in an object that holds null under it. -/
def choice? : Value → Option String
  | .text s => some s
  | .fields [(s, .null)] => some s
  | _ => none

def isNull : Value → Bool
  | .null => true
  | _ => false

instance : Document Value where
  members? _ := members?
  items? := items?
  text? := text?
  bool? := bool?
  nat? := nat?
  choice? _ := choice?
  null? v := some v.isNull

def field? (v : Value) (name : String) : Option Value :=
  (v.members?.bind (·.lookup name)).filter fun f ↦ !f.isNull

mutual

def content? : Value → Option Content
  | .null => some .null
  | .bool b => some (.bool b)
  | .int n => some (.int n)
  | .real => some .real
  | .text s => some (.text s)
  | .list xs => (contents? xs).map .list
  | .fields kvs => (memberContents? kvs).map .fields
  | .unreadable => none

def contents? : List Value → Option (List Content)
  | [] => some []
  | v :: rest =>
      match v.content?, contents? rest with
      | some c, some cs => some (c :: cs)
      | _, _ => none

def memberContents? : List (String × Value) → Option (List (Content × Content))
  | [] => some []
  | (k, v) :: rest =>
      match v.content?, memberContents? rest with
      | some c, some cs => some ((.text k, c) :: cs)
      | _, _ => none

end

instance : Deferrable Value where
  content? := content?

/-- Texts under names, where later ones replace earlier ones of the same name. -/
def textsIn? : List (String × Value) → Option (List (String × String))
  | [] => some []
  | (k, v) :: rest =>
      match v.text?, textsIn? rest with
      | some s, some ss => some ((k, s) :: ss)
      | _, _ => none

def textTable? (v : Value) : Option (Table String String) :=
  (v.members?.bind textsIn?).map Table.ofList

end Value

end ResourceKernel.Json
