import ResourceKernel.Resource.Identity
import ResourceKernel.Text.Blank
import ResourceKernel.Text.Composition
import ResourceKernel.Text.Decimal

/-!
# Slugs

A slug hands out paths for the children of a container: the preferred path first, then the same
path with growing numbers. The slugs of a store live in a pool and are shared by index, so that
whoever holds an index sees what others do to the slug.
-/

namespace ResourceKernel

open Text

structure Slug where
  container : ResourceId
  path : String
  version : Nat
  deriving DecidableEq, Repr, Inhabited

namespace Slug

def toJson (s : Slug) : Json.Value :=
  .fields [("container", s.container.toJson), ("path", .text s.path), ("version", .int s.version)]

def numbered (path : String) (n : Nat) : String := path ++ "_" ++ Decimal.ofNat n

/-- The path that a slug of the given version hands out. -/
def pathAt (path : String) (version : Nat) : String :=
  if version = 0 then path else numbered path version

def nextPath (s : Slug) : String × Slug :=
  (pathAt s.path s.version, { s with version := s.version + 1 })

def nextPaths : Nat → Slug → List String × Slug
  | 0, s => ([], s)
  | n + 1, s =>
      let (paths, after) := nextPaths n s.nextPath.2
      (s.nextPath.1 :: paths, after)

/-- The characters that part a path into segments or end it. -/
def isPathMark (c : Char) : Bool := c == '/' || c == '?' || c == '#'

/-- Whether the text can stand as one segment of a path. -/
def isSegment (s : String) : Bool :=
  s != "." && s != ".." && !s.isEmpty && s.toList.all fun c ↦ !(isPathMark c || isBlank c)

/-- The path without blanks around it and in composed form, if it is one segment. -/
def normalizePath? (raw : String) : Option String :=
  let path := Composition.normalize (trim raw)
  if isSegment path then some path else none

end Slug

/-- The slugs of a store, each at the index it got when it was made. -/
structure SlugPool where
  slugs : List Slug
  deriving DecidableEq, Repr

namespace SlugPool

def empty : SlugPool := ⟨[]⟩

instance : Inhabited SlugPool := ⟨empty⟩

def get? (p : SlugPool) (index : Nat) : Option Slug := p.slugs[index]?

def next (p : SlugPool) : Nat := p.slugs.length

def push (p : SlugPool) (s : Slug) : SlugPool := ⟨p.slugs ++ [s]⟩

def set (p : SlugPool) (index : Nat) (s : Slug) : SlugPool := ⟨p.slugs.set index s⟩

/-- The pool in which the slug at the index has the given version. -/
def adopt (p : SlugPool) (index version : Nat) : SlugPool :=
  match p.get? index with
  | some s => p.set index { s with version := version }
  | none => p

def nextPath? (p : SlugPool) (index : Nat) : Option (String × SlugPool) :=
  (p.get? index).map fun s ↦ (s.nextPath.1, p.set index s.nextPath.2)

@[simp] theorem get?_push (p : SlugPool) (s : Slug) : (p.push s).get? p.next = some s := by
  simp [get?, push, next]

theorem get?_set_ne (p : SlugPool) {i j : Nat} (s : Slug) (h : j ≠ i) :
    (p.set i s).get? j = p.get? j := by
  simp only [get?, set]
  exact List.getElem?_set_ne h.symm

theorem get?_nextPath {p after : SlugPool} {index : Nat} {path : String}
    (h : p.nextPath? index = some (path, after)) :
    ∃ s, p.get? index = some s ∧ after.get? index = some { s with version := s.version + 1 } ∧
      ∀ other, other ≠ index → after.get? other = p.get? other := by
  obtain ⟨s, hs, heq⟩ := Option.map_eq_some_iff.mp h
  obtain ⟨-, rfl⟩ := Prod.mk.inj heq
  have hlt : index < p.slugs.length := (List.getElem?_eq_some_iff.mp hs).1
  exact ⟨s, hs, List.getElem?_set_self hlt, fun other hother ↦ p.get?_set_ne _ hother⟩

end SlugPool

end ResourceKernel
