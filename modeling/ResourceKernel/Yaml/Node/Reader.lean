import ResourceKernel.Yaml.Node.Basic
import ResourceKernel.Yaml.Token.Lexer

/-!
# From tokens to nodes

A text has to hold exactly one document. Nodes that are left out in a collection are empty
scalars.
-/

namespace ResourceKernel.Yaml

structure NodeReader where
  tokens : List Token
  handles : List (String × String)
  names : List (String × Nat)
  /-- How many anchors there are so far. -/
  anchors : Nat
  anchored : List Anchored

abbrev Reading (α : Type) := StateT NodeReader Option α

namespace NodeReader

def peek : Reading (Option Token) := do return (← get).tokens.head?

def skip : Reading Unit := modify fun r ↦ { r with tokens := r.tokens.drop 1 }

def isNext (ts : List Token) : Reading Bool := do
  match ← peek with
  | some t => return ts.contains t
  | none => return false

/-! ## Properties of nodes -/

/-- The tag that is written. -/
def meaningOf (t : TagText) : Reading String := do
  if t.handle.isEmpty then return t.suffix
  match (← get).handles.lookup t.handle with
  | some start => return start ++ t.suffix
  | none => failure

def readAnchor : Reading (Option String) := do
  match ← peek with
  | some (.anchor name) => skip; return some name
  | _ => return none

def readTag : Reading (Option String) := do
  match ← peek with
  | some (.tag t) => skip; return some (← meaningOf t)
  | _ => return none

/-- The anchor and the tag of a node, in either order. -/
def readProperties : Reading (Option String × Option String) := do
  match ← readAnchor with
  | some name => return (some name, ← readTag)
  | none =>
      match ← readTag with
      | some tag => return (← readAnchor, some tag)
      | none => return (none, none)

/-- Gives an anchor its number: how many other names have been used before, unless the name is
used again and keeps its place among them. -/
def enter (name : String) : Reading (Nat × Nat) := do
  let r ← get
  let number := r.names.length
  set { r with
    names := (name, number) :: r.names.filter (·.1 != name)
    anchors := r.anchors + 1 }
  return (number, r.anchors)

def marking (anchor : Option String) (read : Reading Node) : Reading Node := do
  match anchor with
  | none => read
  | some name =>
      let (number, place) ← enter name
      let node ← read
      modify fun r ↦ { r with anchored := ⟨number, place, node⟩ :: r.anchored }
      return node

def scalarTag (tag : Option String) : Option String := tag.filter (· != "!")

def numberOf (name : String) : Reading Nat := do
  match (← get).names.lookup name with
  | some number => return number
  | none => failure

/-! ## Nodes -/

inductive NodeKind
  | scalar (style : Style) (text : String)
  | missing
  | indentless
  | blockSequence
  | blockMapping
  | flowSequence
  | flowMapping

/-- What the node is that comes next. In a block it may be a block collection, and after the key or
the colon of a mapping a sequence whose dashes are not indented. A node that has an anchor or a tag
may be left out. -/
def readKind (inBlock indentless hasProperties : Bool) : Reading NodeKind := do
  match ← peek with
  | some (.scalar style text) => skip; return .scalar style text
  | some .sequenceOpen => skip; return .flowSequence
  | some .mappingOpen => skip; return .flowMapping
  | some .dash => if indentless then return .indentless else left
  | some .blockSequence => if inBlock then skip; return .blockSequence else left
  | some .blockMapping => if inBlock then skip; return .blockMapping else left
  | _ => left
where
  left : Reading NodeKind :=
    if hasProperties then pure .missing else failure

mutual

/-- A node. One with an anchor or a tag and nothing else is an empty scalar. -/
def readNode : (fuel : Nat) → (inBlock indentless : Bool) → Reading Node
  | 0, _, _ => failure
  | fuel + 1, inBlock, indentless => do
      match ← peek with
      | some (.alias name) => skip; return .alias (← numberOf name)
      | _ =>
          let (anchor, tag) ← readProperties
          let kind ← readKind inBlock indentless (anchor.isSome || tag.isSome)
          marking anchor do
            match kind with
            | .scalar style text => return .scalar (scalarTag tag) style text
            | .missing => return .scalar tag .plain ""
            | .indentless => return .sequence tag (← readDashes fuel)
            | .blockSequence => return .sequence tag (← readBlockSequence fuel)
            | .blockMapping => return .mapping tag (← readBlockMapping fuel)
            | .flowSequence => return .sequence tag (← readFlowSequence fuel true)
            | .flowMapping => return .mapping tag (← readFlowMapping fuel true)

/-- A node, unless one of the tokens comes next that cannot start one. -/
def readNodeUnless : (fuel : Nat) → (inBlock indentless : Bool) → List Token → Reading Node
  | 0, _, _, _ => failure
  | fuel + 1, inBlock, indentless, ts => do
      if ← isNext ts then return .empty else readNode fuel inBlock indentless

def readDashes : (fuel : Nat) → Reading (List Node)
  | 0 => failure
  | fuel + 1 => do
      if ← isNext [.dash] then
        skip
        let item ← readNodeUnless fuel true false [.dash, .key, .value, .blockEnd]
        return item :: (← readDashes fuel)
      else return []

def readBlockSequence : (fuel : Nat) → Reading (List Node)
  | 0 => failure
  | fuel + 1 => do
      match ← peek with
      | some .dash =>
          skip
          let item ← readNodeUnless fuel true false [.dash, .blockEnd]
          return item :: (← readBlockSequence fuel)
      | some .blockEnd => skip; return []
      | _ => failure

def readBlockMapping : (fuel : Nat) → Reading (List (Node × Node))
  | 0 => failure
  | fuel + 1 => do
      match ← peek with
      | some .key =>
          skip
          let key ← readNodeUnless fuel true true [.key, .value, .blockEnd]
          let value ← readValue fuel true [.key, .value, .blockEnd]
          return (key, value) :: (← readBlockMapping fuel)
      | some .blockEnd => skip; return []
      | _ => failure

def readValue : (fuel : Nat) → (inBlock : Bool) → List Token → Reading Node
  | 0, _, _ => failure
  | fuel + 1, inBlock, ts => do
      if ← isNext [.value] then
        skip
        readNodeUnless fuel inBlock inBlock ts
      else return .empty

/-- The items of a sequence between brackets. An item can be a mapping of one key. -/
def readFlowSequence : (fuel : Nat) → (first : Bool) → Reading (List Node)
  | 0, _ => failure
  | fuel + 1, first => do
      if ← isNext [.sequenceClose] then
        skip
        return []
      if !first then
        if ← isNext [.comma] then skip else failure
      match ← peek with
      | some .sequenceClose => skip; return []
      | some .key =>
          skip
          let pair ← readPair fuel
          return .mapping none [pair] :: (← readFlowSequence fuel false)
      | _ =>
          let item ← readNode fuel false false
          return item :: (← readFlowSequence fuel false)

/-- The key and the value of a mapping in a sequence. Where the key is left out, so is the token
after it. -/
def readPair : (fuel : Nat) → Reading (Node × Node)
  | 0 => failure
  | fuel + 1 => do
      if ← isNext [.value, .comma, .sequenceClose] then
        skip
        return (.empty, ← readValue fuel false [.comma, .sequenceClose])
      else
        let key ← readNode fuel false false
        return (key, ← readValue fuel false [.comma, .sequenceClose])

/-- The entries of a mapping between braces. A key may stand alone. -/
def readFlowMapping : (fuel : Nat) → (first : Bool) → Reading (List (Node × Node))
  | 0, _ => failure
  | fuel + 1, first => do
      if ← isNext [.mappingClose] then
        skip
        return []
      if !first then
        if ← isNext [.comma] then skip else failure
      match ← peek with
      | some .mappingClose => skip; return []
      | some .key =>
          skip
          let key ← readNodeUnless fuel false false [.value, .comma, .mappingClose]
          let value ← readValue fuel false [.comma, .mappingClose]
          return (key, value) :: (← readFlowMapping fuel false)
      | _ =>
          let key ← readNode fuel false false
          return (key, .empty) :: (← readFlowMapping fuel false)

end

/-! ## Documents -/

/-- The handles that stand for something without being declared. -/
def standardHandles : List (String × String) := [("!", "!"), ("!!", "tag:yaml.org,2002:")]

/-- The directives before a document. The version can be given once, and each handle can be
declared once. -/
def readDirectives : (fuel : Nat) → (hasVersion : Bool) → (declared : List (String × String)) →
    Reading Unit
  | 0, _, _ => failure
  | fuel + 1, hasVersion, declared => do
      match ← peek with
      | some (.version major minor) =>
          if hasVersion || major != 1 || !(minor == 1 || minor == 2) then failure
          skip
          readDirectives fuel true declared
      | some (.tagHandle handle start) =>
          if (declared.lookup handle).isSome then failure
          skip
          readDirectives fuel hasVersion ((handle, start) :: declared)
      | _ => modify fun r ↦ { r with handles := declared ++ standardHandles }

def atBoundaryToken : Reading Bool := do
  match ← peek with
  | none | some .documentStart | some .documentEnd | some (.version _ _)
  | some (.tagHandle _ _) => return true
  | _ => return false

/-- The root of a document. One without directives needs no mark at its start, unless it is
empty. -/
def readRoot (fuel : Nat) : Reading Node := do
  match ← peek with
  | none => failure
  | some .documentStart | some (.version _ _) | some (.tagHandle _ _) =>
      readDirectives fuel false []
      match ← peek with
      | some .documentStart =>
          skip
          if ← atBoundaryToken then return .empty else readNode fuel true false
      | _ => failure
  | _ => readNode fuel true false

def readDocument (fuel : Nat) : Reading Node := do
  let root ← readRoot fuel
  let r ← get
  if (r.tokens.dropWhile (· == .documentEnd)).isEmpty then return root else failure

end NodeReader

/-- The document that tokens make. From one token to the next, at most four functions call each
other, so that four times the number of tokens and some more are always enough fuel. -/
def Tree.ofTokens? (tokens : List Token) : Option Tree :=
  let reader : NodeReader := ⟨tokens, NodeReader.standardHandles, [], 0, []⟩
  ((NodeReader.readDocument (4 * tokens.length + 4)).run reader).map fun r ↦ ⟨r.1, r.2.anchored⟩

def Tree.ofText? (s : String) : Option Tree := (tokens? s).bind ofTokens?

end ResourceKernel.Yaml
