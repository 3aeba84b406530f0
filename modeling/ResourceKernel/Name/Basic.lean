import ResourceKernel.Text.Decimal
import ResourceKernel.Text.Hex
import ResourceKernel.Uri.Basic

/-!
# Names

Applications name their resources by texts, integers, URIs, byte strings or sequences of names.
Names are ordered by kind first and by content within a kind.
-/

namespace ResourceKernel

/-- An opaque name with a type. A composite name lists its segments, outermost first. -/
inductive Name
  | text (s : String)
  | integer (n : Int64)
  | uri (u : Uri)
  | bytes (bs : List UInt8)
  | composite (parts : List Name)
  deriving Repr, Inhabited

inductive NameKind
  | text
  | integer
  | uri
  | bytes
  | composite
  deriving DecidableEq, Repr

namespace NameKind

def all : List NameKind := [.text, .integer, .uri, .bytes, .composite]

def tag : NameKind → String
  | .text => "text"
  | .integer => "integer"
  | .uri => "uri"
  | .bytes => "bytes"
  | .composite => "composite"

def ofTag? (tag : String) : Option NameKind := all.find? fun k ↦ k.tag == tag

def code : NameKind → UInt8
  | .text => 1
  | .integer => 2
  | .uri => 3
  | .bytes => 4
  | .composite => 5

def ofCode? (code : UInt8) : Option NameKind := all.find? fun k ↦ k.code == code

theorem ofTag?_tag (k : NameKind) : ofTag? k.tag = some k := by cases k <;> decide

theorem ofCode?_code (k : NameKind) : ofCode? k.code = some k := by cases k <;> decide

theorem code_of_ofCode? {c : UInt8} {k : NameKind} (h : ofCode? c = some k) : k.code = c := by
  simpa using List.find?_some h

end NameKind

namespace Name

def kind : Name → NameKind
  | .text _ => .text
  | .integer _ => .integer
  | .uri _ => .uri
  | .bytes _ => .bytes
  | .composite _ => .composite

mutual

/-- The name in writing. The parts of a composite name are joined by slashes. -/
def display : Name → String
  | .text s => s
  | .integer n => Text.Decimal.ofInt n.toInt
  | .uri u => u.text
  | .bytes bs => Text.Hex.encode bs
  | .composite parts => displayParts parts

def displayParts : List Name → String
  | [] => ""
  | [part] => part.display
  | part :: next :: rest => part.display ++ "/" ++ displayParts (next :: rest)

end

mutual

def depth : Name → Nat
  | .composite parts => depthBelow parts
  | _ => 0

/-- One more than the greatest depth in a list, and zero for the empty list. -/
def depthBelow : List Name → Nat
  | [] => 0
  | part :: rest => max (part.depth + 1) (depthBelow rest)

end

mutual

def decEq : (a b : Name) → Decidable (a = b)
  | .text s, .text t => decidable_of_iff (s = t) (by simp)
  | .integer m, .integer n => decidable_of_iff (m = n) (by simp)
  | .uri u, .uri v => decidable_of_iff (u = v) (by simp)
  | .bytes s, .bytes t => decidable_of_iff (s = t) (by simp)
  | .composite ps, .composite qs =>
      match decEqParts ps qs with
      | isTrue h => isTrue (h ▸ rfl)
      | isFalse h => isFalse fun e ↦ h (Name.composite.inj e)
  | .text _, .integer _ | .text _, .uri _ | .text _, .bytes _ | .text _, .composite _
  | .integer _, .text _ | .integer _, .uri _ | .integer _, .bytes _ | .integer _, .composite _
  | .uri _, .text _ | .uri _, .integer _ | .uri _, .bytes _ | .uri _, .composite _
  | .bytes _, .text _ | .bytes _, .integer _ | .bytes _, .uri _ | .bytes _, .composite _
  | .composite _, .text _ | .composite _, .integer _ | .composite _, .uri _
  | .composite _, .bytes _ => isFalse nofun

def decEqParts : (ps qs : List Name) → Decidable (ps = qs)
  | [], [] => isTrue rfl
  | [], _ :: _ => isFalse nofun
  | _ :: _, [] => isFalse nofun
  | p :: ps, q :: qs =>
      match decEq p q, decEqParts ps qs with
      | isTrue hp, isTrue hs => isTrue (hp ▸ hs ▸ rfl)
      | isFalse hp, _ => isFalse fun e ↦ hp (List.cons.inj e).1
      | _, isFalse hs => isFalse fun e ↦ hs (List.cons.inj e).2

end

instance : DecidableEq Name := decEq

def rank (n : Name) : Nat := n.kind.code.toNat

mutual

/-- Names of different kinds are ordered by kind. Texts and URIs are ordered by their characters,
and sequences by their first difference. -/
def cmp : Name → Name → Ordering
  | .text s, .text t => compare s t
  | .integer m, .integer n => compare m.toInt n.toInt
  | .uri u, .uri v => compare u.text v.text
  | .bytes s, .bytes t => compare (s.map UInt8.toNat) (t.map UInt8.toNat)
  | .composite ps, .composite qs => cmpParts ps qs
  | a, b => compare a.rank b.rank

def cmpParts : List Name → List Name → Ordering
  | [], [] => .eq
  | [], _ :: _ => .lt
  | _ :: _, [] => .gt
  | p :: ps, q :: qs => (cmp p q).then (cmpParts ps qs)

end

instance : Ord Name := ⟨cmp⟩

end Name

end ResourceKernel
