import ResourceKernel.Document

/-!
# Content

A node can be taken up before it is known what it will be read as. Content has settled whether a
node is a number, a text or something else, and no longer knows the format it came from.
-/

namespace ResourceKernel

inductive Content
  | null
  | bool (b : Bool)
  | int (n : Int)
  | real
  | text (s : String)
  | list (xs : List Content)
  | fields (kvs : List (Content × Content))
  deriving Repr, Inhabited

namespace Content

/-- The name that a key gives by itself or by its place among the names. A place beyond them gives
the name of nothing. -/
def nameIn? (names : List String) : Content → Option String
  | .text s => some s
  | .int n => if 0 ≤ n then some (names.getD n.toNat "") else none
  | _ => none

def named? (names : List String) : List (Content × Content) → Option (List (String × Content))
  | [] => some []
  | (k, v) :: rest =>
      match k.nameIn? names, named? names rest with
      | some name, some members => some ((name, v) :: members)
      | _, _ => none

def members? (known : List String) : Content → Option (List (String × Content))
  | .fields kvs => named? known kvs
  | _ => none

def items? : Content → Option (List Content)
  | .list xs => some xs
  | _ => none

def text? : Content → Option String
  | .text s => some s
  | _ => none

def bool? : Content → Option Bool
  | .bool b => some b
  | _ => none

def nat? : Content → Option Nat
  | .int (.ofNat n) => some n
  | _ => none

def isNull : Content → Bool
  | .null => true
  | _ => false

def isVoid : Content → Bool
  | .null | .fields [] => true
  | _ => false

/-- A name, alone or as the only key of a mapping with nothing under it. -/
def choice? (names : List String) : Content → Option String
  | .text s => some s
  | .fields [(k, v)] => if v.isVoid then k.nameIn? names else none
  | _ => none

instance : Document Content where
  members? := members?
  items? := items?
  text? := text?
  bool? := bool?
  nat? := nat?
  choice? := choice?
  null? v := some v.isNull

end Content

/-- Nodes that can be taken up before it is known what they are read as. -/
class Deferrable (δ : Type) extends Document δ where
  content? : δ → Option Content

end ResourceKernel
