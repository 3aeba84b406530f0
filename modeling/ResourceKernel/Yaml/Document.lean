import ResourceKernel.Document.Content
import ResourceKernel.Yaml.Node.Reader
import ResourceKernel.Yaml.Scalar.Meaning

/-!
# YAML nodes as documents

Where it is known what a node is to be, the characters of a scalar count, whatever its style. A
node that is taken up is what its tag says, or what its characters mean if it is plain. Tags that
start with an exclamation mark choose among names.
-/

namespace ResourceKernel.Yaml

namespace Node

/-- Whether nothing is written. It can be read as an empty sequence or mapping. -/
def isUnwritten : Node → Bool
  | .scalar _ .plain "" => true
  | _ => false

/-- The entries under the names that their keys give. -/
def named? : List (Node × Node) → Option (List (String × Node))
  | [] => some []
  | (k, v) :: rest =>
      match k.text?, named? rest with
      | some name, some members => some ((name, v) :: members)
      | _, _ => none

def members? : Node → Option (List (String × Node))
  | .mapping _ entries => named? entries
  | n => if n.isUnwritten then some [] else none

def items? : Node → Option (List Node)
  | .sequence _ items => some items
  | n => if n.isUnwritten then some [] else none

/-! ## Tags -/

def nullTag : String := "tag:yaml.org,2002:null"
def boolTag : String := "tag:yaml.org,2002:bool"
def intTag : String := "tag:yaml.org,2002:int"
def floatTag : String := "tag:yaml.org,2002:float"

/-- What follows the exclamation mark of a tag. -/
def localName? (tag : Option String) : Option String :=
  tag.bind fun t ↦
    match t.toList with
    | '!' :: name => some (String.ofList name)
    | _ => none

/-- Whether a scalar can be read as something that the tag stands for: a plain one always, a literal
one if it has the tag. -/
def readsAs (expected : String) (tag : Option String) (style : Style) : Bool :=
  style == .plain || (style == .literal && tag == some expected)

def bool? : Node → Option Bool
  | .scalar tag style s => if readsAs boolTag tag style then boolOf? s else none
  | _ => none

def nat? : Node → Option Nat
  | .scalar tag style s => if readsAs intTag tag style then natOf? UInt64.size s.toList else none
  | _ => none

/-- Whether a scalar says that there is nothing. One with the tag of null has to. -/
def null? : Node → Option Bool
  | .scalar tag .plain s =>
      match tag with
      | none => some (s.isEmpty || isNullWord s)
      | some t =>
          if t = nullTag then if isNullWord s then some true else none else some false
  | _ => some false

def isVoid : Node → Bool
  | .scalar _ .plain s => s.isEmpty || isNullWord s
  | _ => false

/-- What is chosen by a tag of one's own, or by the text of a scalar. -/
def choice? : Node → Option String
  | .scalar tag style s =>
      match localName? tag with
      | some name => if isVoid (.scalar tag style s) then some name else none
      | none => some s
  | _ => none

instance : Document Node where
  members? _ := members?
  items? := items?
  text? := text?
  bool? := bool?
  nat? := nat?
  choice? _ := choice?
  null? := null?

/-! ## Content -/

def contentOfMeaning? (s : String) : Meaning → Option Content
  | .null => some .null
  | .bool b => some (.bool b)
  | .int n => some (.int n)
  | .float => some .real
  | .text => some (.text s)
  | .excessive => none

def taggedContent? (tag : String) (s : String) : Option Content :=
  if tag = boolTag then (boolOf? s).map .bool
  else if tag = intTag then (integerMeaning? s).bind (contentOfMeaning? s)
  else if tag = floatTag then if isFloat s then some .real else none
  else if tag = nullTag then if isNullWord s then some .null else none
  else some (.text s)

def scalarContent? (tag : Option String) (style : Style) (s : String) : Option Content :=
  match tag with
  | some t => taggedContent? t s
  | none => if style = .plain then contentOfMeaning? s (meaningOf s) else some (.text s)

mutual

/-- The content of a node. There is none if it makes a choice that nobody has asked for. -/
def content? : Node → Option Content
  | .scalar tag style s =>
      if (localName? tag).isSome then none else scalarContent? tag style s
  | .sequence tag items =>
      if (localName? tag).isSome then none else (contents? items).map .list
  | .mapping tag entries =>
      if (localName? tag).isSome then none else (entryContents? entries).map .fields
  | .alias _ => none

def contents? : List Node → Option (List Content)
  | [] => some []
  | n :: rest =>
      match n.content?, contents? rest with
      | some c, some cs => some (c :: cs)
      | _, _ => none

def entryContents? : List (Node × Node) → Option (List (Content × Content))
  | [] => some []
  | (k, v) :: rest =>
      match k.content?, v.content?, entryContents? rest with
      | some k, some v, some cs => some ((k, v) :: cs)
      | _, _, _ => none

end

instance : Deferrable Node where
  content? := content?

end Node

end ResourceKernel.Yaml
