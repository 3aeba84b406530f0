import ResourceKernel.Text.Composition.Table

/-!
# Composed text

Text is taken apart into base characters and marks, the marks of one base are put in order of
their classes, and what can be composed is composed again. Texts that differ only in how their
characters are composed become equal.
-/

namespace ResourceKernel.Text.Composition

/-- The combining class of a character. Zero stands for all that is not a mark. -/
def classOf (c : Char) : Nat :=
  match classes.find? fun (first, last, _) ↦ first ≤ c.toNat && c.toNat ≤ last with
  | some (_, _, k) => k
  | none => 0

/-- The first syllable, and the first leading consonant, vowel and trailing consonant; the code
point before the first trailing consonant stands for its absence. -/
def firstSyllable : Nat := 0xAC00
def firstLead : Nat := 0x1100
def firstVowel : Nat := 0x1161
def beforeTrail : Nat := 0x11A7
def leadCount : Nat := 19
def vowelCount : Nat := 21
def trailCount : Nat := 28

def syllableParts? (c : Char) : Option (List Char) :=
  let i := c.toNat - firstSyllable
  if firstSyllable ≤ c.toNat && i < leadCount * vowelCount * trailCount then
    let lead := Char.ofNat (firstLead + i / (vowelCount * trailCount))
    let vowel := Char.ofNat (firstVowel + i % (vowelCount * trailCount) / trailCount)
    let trail := i % trailCount
    some ([lead, vowel] ++ if trail = 0 then [] else [Char.ofNat (beforeTrail + trail)])
  else none

/-- The characters of one character, where composites are at most `depth` levels deep. -/
def partsOf : (depth : Nat) → Char → List Char
  | 0, c => [c]
  | depth + 1, c =>
      match syllableParts? c with
      | some parts => parts
      | none =>
          match composites.find? (·.1 == c.toNat) with
          | some (_, base, mark) => partsOf depth (Char.ofNat base) ++ [Char.ofNat mark]
          | none =>
              match singulars.find? (·.1 == c.toNat) with
              | some (_, parts) => parts.map Char.ofNat
              | none => [c]

/-- Adds a character to a reversed list, before the marks of higher class that end it. -/
def placeMark (c : Char) (k : Nat) : List (Char × Nat) → List (Char × Nat)
  | [] => [(c, k)]
  | (d, l) :: rest =>
      if 0 < k ∧ k < l then (d, l) :: placeMark c k rest else (c, k) :: (d, l) :: rest

def decompose (cs : List Char) : List (Char × Nat) :=
  ((cs.flatMap (partsOf 4)).foldl (fun placed c ↦ placeMark c (classOf c) placed) []).reverse

def pair? (a b : Char) : Option Char :=
  let lead := a.toNat - firstLead
  let vowel := b.toNat - firstVowel
  let syllable := a.toNat - firstSyllable
  let trail := b.toNat - beforeTrail
  if firstLead ≤ a.toNat && lead < leadCount && firstVowel ≤ b.toNat && vowel < vowelCount then
    some (Char.ofNat (firstSyllable + (lead * vowelCount + vowel) * trailCount))
  else if firstSyllable ≤ a.toNat && syllable < leadCount * vowelCount * trailCount &&
      syllable % trailCount == 0 && beforeTrail < b.toNat && trail < trailCount then
    some (Char.ofNat (a.toNat + trail))
  else
    (composites.find? fun (_, base, mark) ↦ base == a.toNat && mark == b.toNat).map
      fun e ↦ Char.ofNat e.1

/-- A base character and the marks after it that did not compose with it, latest first. -/
structure Cluster where
  base : Char
  marks : List (Char × Nat)

def Cluster.chars (cl : Cluster) : List Char := cl.base :: (cl.marks.map Prod.fst).reverse

/-- A character composes with the base of its cluster unless a mark of its own class or a higher
one stands between them. -/
def Cluster.compose? (cl : Cluster) (c : Char) (k : Nat) : Option Char :=
  match cl.marks with
  | (_, l) :: _ => if k ≤ l then none else pair? cl.base c
  | [] => pair? cl.base c

/-- Composes the rest of a decomposed text after the open cluster. -/
def composeAfter (cl : Cluster) : List (Char × Nat) → List Char
  | [] => cl.chars
  | (c, k) :: rest =>
      match cl.compose? c k with
      | some d => composeAfter { cl with base := d } rest
      | none =>
          if k = 0 then cl.chars ++ composeAfter ⟨c, []⟩ rest
          else composeAfter { cl with marks := (c, k) :: cl.marks } rest

/-- Composes a decomposed text. Marks before the first base stay as they are. -/
def compose : List (Char × Nat) → List Char
  | [] => []
  | (c, k) :: rest => if k = 0 then composeAfter ⟨c, []⟩ rest else c :: compose rest

/-- The first mark. All characters before it stay as they are, wherever they stand. -/
def firstMark : Nat := 0x300

def normalize (s : String) : String :=
  if s.toList.all (·.toNat < firstMark) then s
  else String.ofList (compose (decompose s.toList))

end ResourceKernel.Text.Composition
