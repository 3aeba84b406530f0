import ResourceKernel.Proofs.Graph.Answer
import ResourceKernel.Proofs.Graph.Kinship

/-!
# Aspects of entities

An aspect is what a function tells of the entity with an identity, and something blank of an entity
that does not exist. Where it is as blank of fresh entities, it does not change when one is made,
and a step that puts an entity in the place of another changes it at most there.
-/

namespace ResourceKernel.StoreState

variable {α : Type}

def aspect (f : Entity → α) (blank : α) (s : StoreState) (id : ResourceId) : α :=
  (s.entityOf? id).elim blank f

variable {f : Entity → α} {blank : α} {s t : StoreState} {id : ResourceId} {key : StoredKey}
  {e d : Entity}

theorem aspect_empty (id : ResourceId) : aspect f blank empty id = blank := by
  rw [aspect, entityOf?_empty]
  rfl

theorem aspect_eq (he : s.entityOf? id = some e) : aspect f blank s id = f e := by
  rw [aspect, he]
  rfl

theorem aspect_congr (h : t.resources = s.resources) : aspect f blank t = aspect f blank s := by
  funext id
  rw [aspect, entityOf?_congr h]
  rfl

theorem aspect_put (hkey : id.keyed = .ok key) (hput : t.resources = s.resources.insert key d) :
    aspect f blank t = Function.update (aspect f blank s) id (f d) := by
  funext other
  rw [aspect, entityOf?_put hkey hput, Function.update_apply, Function.update_apply]
  split <;> rfl

theorem aspect_erase (hkey : id.keyed = .ok key) (herase : t.resources = s.resources.erase key) :
    aspect f blank t = Function.update (aspect f blank s) id blank := by
  funext other
  rw [aspect, entityOf?_erase hkey herase, Function.update_apply, Function.update_apply]
  split <;> rfl

theorem aspect_replace (hkey : id.keyed = .ok key) (he : s.entity? key = some e)
    (hput : t.resources = s.resources.insert key d) (hsame : f d = f e) :
    aspect f blank t = aspect f blank s := by
  have hold : aspect f blank s id = f e := aspect_eq ((entityOf?_of_keyed hkey).trans he)
  rw [aspect_put hkey hput, hsame]
  exact Function.update_eq_self_iff.mpr hold.symm

theorem aspect_found (hkey : id.keyed = .ok key) (hfree : s.entity? key = none)
    (hblank : f e = blank) : aspect f blank (s.putEntity key e) = aspect f blank s := by
  have hnone : s.entityOf? id = none := (entityOf?_of_keyed hkey).trans hfree
  have hold : aspect f blank s id = blank := by
    rw [aspect, hnone]
    rfl
  rw [aspect_put hkey rfl, hblank]
  exact Function.update_eq_self_iff.mpr hold.symm

theorem aspect_provide {template : Template} {parent : ResourceId} (hkey : id.keyed = .ok key)
    (hblank : f (Entity.fresh template id (some parent)) = blank) :
    aspect f blank (s.provide key template id parent) = aspect f blank s := by
  cases hfree : s.entity? key with
  | some _ => rw [provide_of_some hfree]
  | none =>
      rw [provide_of_none hfree]
      exact aspect_found hkey hfree hblank

/-- A child is made, unless it has been there, and its parent is put in its own place again. -/
theorem aspect_placed {template : Template} {child : ResourceId} {childKey : StoredKey}
    (hkey : id.keyed = .ok key) (he : s.entity? key = some e) (hchild : child.keyed = .ok childKey)
    (hblank : f (Entity.fresh template child (some id)) = blank) (hsame : f d = f e) :
    aspect f blank ((s.provide childKey template child id).putEntity key d) =
      aspect f blank s := by
  have hkept := entity?_provide childKey template child id he
  rw [aspect_replace hkey hkept rfl hsame, aspect_provide hchild hblank]

end ResourceKernel.StoreState
