import ResourceKernel.Proofs.Graph.Answer
import ResourceKernel.Proofs.Graph.Kinship

/-!
# Refused operations change nothing

An operation that fails, or that answers that there was nothing to do, leaves the state as it was.
An operation that is granted takes one step, or makes a child and then gives it its place.
-/

namespace ResourceKernel

/-- The steps of one operation: none, one, or making a child and then giving it its place. -/
inductive Course (library : TemplateLibrary) (s : StoreState) : StoreState → Prop
  | idle : Course library s s
  | single {t : StoreState} (h : Effect library s t) : Course library s t
  | placed {u t : StoreState} (hmade : Effect library s u) (hplaced : Effect library u t)
      (hext : u.Extends t) : Course library s t

/-- An answer and a state that come of a state in steps, and in none if the answer refuses. -/
structure Orderly (library : TemplateLibrary) (s : StoreState) (after : Result Reply × StoreState) :
    Prop where
  course : Course library s after.2
  unchanged : Refuses after.1 → after.2 = s

variable {library : TemplateLibrary} {s t : StoreState}

theorem Course.effects (h : Course library s t) : Effects library s t := by
  cases h with
  | idle => exact .refl
  | single h => exact .single h
  | placed hmade hplaced _ => exact .tail (.single hmade) hplaced

theorem Course.shift (h : Course library s t) (hs : s.Sound) : Shift s t := by
  cases h with
  | idle => exact .same rfl
  | single h => exact h.shift hs
  | placed hmade _ hext => exact (hmade.shift hs).trans_extends hext

/-! ## The steps of what is granted -/

section

variable {ref : TemplateId} {template : Template} {child parent : ResourceId}
  {key childKey : StoredKey} {e : Entity}

theorem provide_eq_or_effect (htemplate : library.find? ref = some template)
    (hid : child.templateId = ref ∨ child.templateId = template.id)
    (hkey : parent.keyed = .ok key) (he : s.entity? key = some e)
    (hchild : child.keyed = .ok childKey) :
    s.provide childKey template child parent = s ∨
      Effect library s (s.provide childKey template child parent) := by
  cases hfree : s.entity? childKey with
  | some c => exact Or.inl (StoreState.provide_of_some hfree)
  | none =>
      rw [StoreState.provide_of_none hfree]
      refine Or.inr (.found htemplate hid ?_ hchild hfree)
      intro p hp
      obtain rfl := Option.mem_some.mp hp
      exact ⟨key, e, hkey, he⟩

theorem Course.of_provide {u : StoreState} (hmade : u = s ∨ Effect library s u)
    (hplaced : Effect library u t) (hext : u.Extends t) : Course library s t := by
  rcases hmade with rfl | hmade
  · exact .single hplaced
  · exact .placed hmade hplaced hext

theorem course_attached {slot : String} {expected : TemplateKind}
    (hallowed : Graph.childTemplate library parent slot child expected = .ok template)
    (hkey : parent.keyed = .ok key) (he : s.entity? key = some e)
    (hslot : e.base.slots.find? slot = some none) (hnew : e.base.slotOf? child = none)
    (hchild : child.keyed = .ok childKey)
    (howned : ∀ c, s.entity? childKey = some c → c.base.parent = some parent) :
    Course library s ((s.provide childKey template child parent).putEntity key
      (e.withBase { e.base with slots := e.base.slots.insert slot (some child) })) := by
  have hmade := provide_eq_or_effect (Graph.find?_of_childTemplate hallowed) (Or.inl rfl) hkey he
    hchild
  have hsame := StoreState.entity?_provide childKey template child parent he
  obtain ⟨c, hc, hparent⟩ := StoreState.exists_provide template child howned
  have hlineage := (StoreState.lineage?_eq hchild hc).trans (congrArg some hparent)
  apply Course.of_provide hmade
  · exact .bound hallowed hkey hsame hslot hnew hchild hc hparent
  · exact StoreState.extends_bound hkey hsame hslot hlineage

theorem course_entered {name : Name} {c : Container}
    (hallowed : Graph.memberTemplate library parent = .ok template)
    (hkey : parent.keyed = .ok key) (hc : s.entity? key = some (.container c))
    (hnew : c.hasMember ⟨name, template.id⟩ = false)
    (hchild : ResourceId.keyed ⟨name, template.id⟩ = .ok childKey)
    (howned : ∀ d, s.entity? childKey = some d → d.base.parent = some parent) :
    Course library s ((s.provide childKey template ⟨name, template.id⟩ parent).putEntity key
      (.container (c.entered ⟨name, template.id⟩))) := by
  obtain ⟨ref, href⟩ := Graph.exists_find?_of_memberTemplate hallowed
  have hmade := provide_eq_or_effect href (Or.inr rfl) hkey hc hchild
  have hsame := StoreState.entity?_provide childKey template ⟨name, template.id⟩ parent hc
  obtain ⟨d, hd, hparent⟩ := StoreState.exists_provide template ⟨name, template.id⟩ howned
  have hlineage := (StoreState.lineage?_eq hchild hd).trans (congrArg some hparent)
  apply Course.of_provide hmade
  · exact .entered hallowed rfl hkey hsame hnew hchild hd hparent
  · exact StoreState.extends_entered hkey hsame hlineage

end

theorem Granted.course {c : Change} {reply : Reply} (h : Granted library s c reply t) :
    Course library s t := by
  cases h with
  | created htemplate hkey hfree =>
      exact .single (.found htemplate (Or.inr rfl) nofun hkey hfree)
  | attached hallowed hkey he hslot hnew hchild howned =>
      exact course_attached hallowed hkey he hslot hnew hchild howned
  | detached _ he hslot => exact .single (.cleared he hslot)
  | entered hallowed hkey hc hnew hmember howned =>
      exact course_entered hallowed hkey hc hnew hmember howned
  | dropped _ hc => exact .single (.dropped hc)
  | slugAdded _ hc => exact .single (.merged hc)
  | slugMerged _ hc => exact .single (.merged hc)
  | noContainer => exact .idle
  | directed _ he => exact .single (.directed he)
  | complained hkey he hreport => exact .single (.complained hkey he hreport)
  | complainedAside _ he hreport => exact .single (.complainedAside he hreport)
  | noResource => exact .idle
  | settled hkey he => exact .single (.settled hkey he)
  | removed hkey he => exact .single (.removed hkey he)
  | published hpath hkey hfree hnew => exact .single (.published hpath hkey hfree hnew)
  | amended he => exact .single (.amended he)
  | retracted he hresource hkey => exact .single (.retracted he hresource hkey)

theorem Granted.not_refuses {c : Change} {reply : Reply} (h : Granted library s c reply t) :
    ¬Refuses (.ok reply) := by
  rw [refuses_ok_iff]
  cases h <;> exact nofun

namespace Orderly

theorem effects {after : Result Reply × StoreState} (h : Orderly library s after) :
    Effects library s after.2 :=
  h.course.effects

end Orderly

theorem Answers.orderly {c : Change} {after : Result Reply × StoreState}
    (h : Answers library s c after) : Orderly library s after := by
  cases h with
  | refused _ => exact ⟨.idle, fun _ ↦ rfl⟩
  | granted hgranted =>
      exact ⟨hgranted.course, fun hrefuses ↦ absurd hrefuses hgranted.not_refuses⟩

/-- Every change is made in steps, and a change that is refused in none. -/
theorem Change.orderly (hs : s.Sound) (c : Change) :
    Orderly library s ((c.operation library).on s) :=
  (c.answers hs).orderly

end ResourceKernel
