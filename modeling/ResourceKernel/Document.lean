/-!
# Records in documents

Documents of different formats are read by the same rules. A record is a mapping whose known
fields come at most once and whose other fields do not count, or a sequence of the values of its
fields in order, from which the last ones may be missing.
-/

namespace ResourceKernel

/-- A node of a document, by what it can be read as. -/
class Document (δ : Type) where
  /-- The entries of a mapping whose known fields have the given names. -/
  members? : (known : List String) → δ → Option (List (String × δ))
  items? : δ → Option (List δ)
  text? : δ → Option String
  bool? : δ → Option Bool
  nat? : δ → Option Nat
  /-- What is chosen among names that stand for themselves. -/
  choice? : (names : List String) → δ → Option String
  /-- Whether the node says that there is nothing, unless it contradicts itself. -/
  null? : δ → Option Bool

namespace Document

variable {δ : Type} [Document δ] {α : Type}

def natBelow? (bound : Nat) (d : δ) : Option Nat :=
  (nat? d).filter (· < bound)

def optional? (read : δ → Option α) (d : δ) : Option (Option α) :=
  match null? d with
  | some true => some none
  | some false => (read d).map some
  | none => none

def oneOf? (elements : List α) (tag : α → String) (d : δ) : Option α :=
  (choice? (elements.map tag) d).bind fun chosen ↦ elements.find? fun a ↦ tag a == chosen

def readAll? (read : δ → Option α) : List δ → Option (List α)
  | [] => some []
  | d :: rest =>
      match read d, readAll? read rest with
      | some a, some as => some (a :: as)
      | _, _ => none

def listOf? (read : δ → Option α) (d : δ) : Option (List α) := (items? d).bind (readAll? read)

end Document

/-- The nodes of those fields of a record that are present. -/
structure Record (δ : Type) where
  fields : List (String × δ)

namespace Record

variable {δ : Type} {α : Type}

def occurrences (name : String) (fields : List (String × δ)) : Nat :=
  (fields.filter fun kv ↦ kv.1 == name).length

/-- The record of the fields with known names. None of these may occur twice. -/
def ofMembers? (known : List String) (members : List (String × δ)) : Option (Record δ) :=
  if known.all fun name ↦ occurrences name members ≤ 1 then
    some ⟨members.filter fun kv ↦ known.contains kv.1⟩
  else none

/-- The record of values in the order of the known names. -/
def ofItems? (known : List String) (items : List δ) : Option (Record δ) :=
  if items.length ≤ known.length then some ⟨known.zip items⟩ else none

def of? [Document δ] (known : List String) (d : δ) : Option (Record δ) :=
  match Document.members? known d with
  | some members => ofMembers? known members
  | none => (Document.items? d).bind (ofItems? known)

def required? (r : Record δ) (name : String) (read : δ → Option α) : Option α :=
  (r.fields.lookup name).bind read

def default? (r : Record δ) (name : String) (absent : α) (read : δ → Option α) : Option α :=
  match r.fields.lookup name with
  | some d => read d
  | none => some absent

/-- A field that may be absent or say that there is nothing. -/
def optional? [Document δ] (r : Record δ) (name : String) (read : δ → Option α) :
    Option (Option α) :=
  r.default? name none (Document.optional? read)

end Record

end ResourceKernel
