import ResourceKernel.Yaml.Token.Basic

/-!
# Nodes of YAML

A document is a node and the nodes that aliases stand for. Aliases are resolved when it is known
which part of the document is wanted, since the other parts need not make sense.
-/

namespace ResourceKernel.Yaml

inductive Node
  | scalar (tag : Option String) (style : Style) (text : String)
  | sequence (tag : Option String) (items : List Node)
  | mapping (tag : Option String) (entries : List (Node × Node))
  /-- What the anchor with a number marks. -/
  | alias (number : Nat)
  deriving Repr, Inhabited

namespace Node

def empty : Node := .scalar none .plain ""

mutual

/-- How many marks of start and end the node has, where a node without parts has one. -/
def size : Node → Nat
  | .scalar _ _ _ | .alias _ => 1
  | .sequence _ items => sizeOfItems items + 2
  | .mapping _ entries => sizeOfEntries entries + 2

def sizeOfItems : List Node → Nat
  | [] => 0
  | n :: rest => n.size + sizeOfItems rest

def sizeOfEntries : List (Node × Node) → Nat
  | [] => 0
  | (k, v) :: rest => k.size + v.size + sizeOfEntries rest

end

def text? : Node → Option String
  | .scalar _ _ s => some s
  | _ => none

end Node

structure Anchored where
  number : Nat
  place : Nat
  node : Node

/-- A node and what its aliases stand for. -/
structure Tree where
  root : Node
  anchored : List Anchored

namespace Tree

def later : Option Anchored → Anchored → Option Anchored
  | none, a => some a
  | some b, a => if b.place < a.place then some a else some b

/-- What an alias with the number stands for: what the last anchor with this number marks. -/
def marked? (t : Tree) (number : Nat) : Option Node :=
  ((t.anchored.filter fun a ↦ a.number == number).foldl later none).map (·.node)

/-- How deep collections may nest. -/
def maxDepth : Nat := 128

/-- How often aliases may be followed: a hundred times for every mark in the document. -/
def maxJumps (t : Tree) : Nat := 100 * t.root.size

/-- The node that an alias stands for, at the cost of a jump. Other nodes stand for themselves. -/
def follow (t : Tree) : Node → StateT Nat Option Node
  | .alias number => do
      match ← get with
      | 0 => failure
      | left + 1 =>
          set left
          t.marked? number
  | n => pure n

/-- The node without aliases, where collections nest at most `depth` deep. The state counts the
jumps that are left. -/
def resolve (t : Tree) : (depth : Nat) → Node → StateT Nat Option Node
  | 0, n => do
      match ← t.follow n with
      | .scalar tag style s => return .scalar tag style s
      | _ => failure
  | depth + 1, n => do
      match ← t.follow n with
      | .scalar tag style s => return .scalar tag style s
      | .sequence tag items => return .sequence tag (← items.mapM (resolve t depth))
      | .mapping tag entries =>
          return .mapping tag
            (← entries.mapM fun kv ↦ do return (← resolve t depth kv.1, ← resolve t depth kv.2))
      | .alias _ => failure

/-- An entry of the root, or nothing if it has a name that is not wanted. -/
def resolveEntry (t : Tree) (wanted : List String) (entry : Node × Node) :
    StateT Nat Option (Option (Node × Node)) := do
  let key ← t.resolve (maxDepth - 1) entry.1
  match key.text? with
  | none => failure
  | some name =>
      if wanted.contains name then return some (key, ← t.resolve (maxDepth - 1) entry.2)
      else return none

/-- The root without aliases. Of a mapping, only the entries with wanted names are kept, and the
others need not make sense. -/
def open? (t : Tree) (wanted : List String) : Option Node :=
  let opened : StateT Nat Option Node :=
    match t.root with
    | .mapping tag entries => do
        return .mapping tag ((← entries.mapM (t.resolveEntry wanted)).filterMap id)
    | n => t.resolve maxDepth n
  (opened.run t.maxJumps).map Prod.fst

end Tree

end ResourceKernel.Yaml
