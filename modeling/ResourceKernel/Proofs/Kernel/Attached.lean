import ResourceKernel.Proofs.Graph.Aspect
import ResourceKernel.Proofs.Kernel.Owned

/-!
# Attached children

A child is there under the resource when it is bound to a slot, but it may be removed while it
stays bound. Attaching it again then answers that the slot holds it already, and does not make it
again. Nothing else keeps a child that attaching has answered for from being there.
-/

namespace ResourceKernel

open Function (update)

namespace Entity

/-- What is bound to each slot. -/
def bindings (e : Entity) (slot : String) : Option ResourceId := (e.base.slots.find? slot).join

theorem bindings_fresh (t : Template) (id : ResourceId) (parent : Option ResourceId) :
    (fresh t id parent).bindings = fun _ ↦ none := by
  funext slot
  rw [bindings, base_fresh, Resource.find?_slots_fresh]
  split <;> rfl

theorem bindings_of_slots {e d : Entity} (h : d.base.slots = e.base.slots) :
    d.bindings = e.bindings := by
  funext slot
  rw [bindings, bindings, h]

theorem bindings_withBase {e : Entity} {r : Resource} (h : r.slots = e.base.slots) :
    (e.withBase r).bindings = e.bindings := by
  apply bindings_of_slots
  rw [base_withBase, h]

theorem bindings_insert (e : Entity) (slot : String) (bound : Option ResourceId) :
    (e.withBase { e.base with slots := e.base.slots.insert slot bound }).bindings =
      update e.bindings slot bound := by
  funext other
  rw [bindings, base_withBase, Table.find?_insert, Function.update_apply]
  split <;> rfl

end Entity

namespace StoreState

def bound (s : StoreState) : ResourceId → String → Option ResourceId :=
  s.aspect Entity.bindings fun _ ↦ none

variable {s t : StoreState} {id : ResourceId} {key : StoredKey} {e : Entity}

theorem bound_eq (hkey : id.keyed = .ok key) (he : s.entity? key = some e) :
    s.bound id = e.bindings :=
  aspect_eq ((entityOf?_of_keyed hkey).trans he)

theorem bound_insert {slot : String} {child : Option ResourceId} (hkey : id.keyed = .ok key)
    (he : s.entity? key = some e) :
    (s.putEntity key
        (e.withBase { e.base with slots := e.base.slots.insert slot child })).bound =
      update s.bound id (update (s.bound id) slot child) := by
  rw [bound_eq hkey he, ← Entity.bindings_insert]
  exact aspect_put hkey rfl

theorem bound_provide {template : Template} {parent : ResourceId} (hkey : id.keyed = .ok key) :
    (s.provide key template id parent).bound = s.bound :=
  aspect_provide hkey (Entity.bindings_fresh _ _ _)

end StoreState

/-- What a step means to slots: a child that is there is bound, a slot is cleared, or a resource
goes with all its slots. -/
inductive Binding (s t : StoreState) : Prop
  | same (h : t.bound = s.bound)
  | bound {resource child : ResourceId} {slot : String} (hchild : t.ChildOf child resource)
      (h : t.bound = update s.bound resource (update (s.bound resource) slot (some child)))
  | cleared {resource : ResourceId} {slot : String}
      (h : t.bound = update s.bound resource (update (s.bound resource) slot none))
  | removed {resource : ResourceId} (h : t.bound = update s.bound resource fun _ ↦ none)

variable {library : TemplateLibrary} {s t : StoreState} {c : Change} {reply : Reply}
  {resource child : ResourceId} {slot : String} {expected : TemplateKind}

open StoreState

/-- What a slot holds after one slot has been set was there before, or it is that slot, and holds
what it has been set to. -/
theorem held_of_set {bound : ResourceId → String → Option ResourceId} {owner : ResourceId}
    {place : String} {held : Option ResourceId}
    (h : update bound owner (update (bound owner) place held) resource slot = some child) :
    bound resource slot = some child ∨ resource = owner ∧ held = some child := by
  by_cases howner : resource = owner
  · subst howner
    rw [Function.update_self] at h
    by_cases hplace : slot = place
    · subst hplace
      rw [Function.update_self] at h
      exact Or.inr ⟨rfl, h⟩
    · rw [Function.update_of_ne hplace] at h
      exact Or.inl h
  · rw [Function.update_of_ne howner] at h
    exact Or.inl h

/-- A slot that holds a child has held it before, or has been given a child that is there. -/
theorem Binding.bound_or_childOf (h : Binding s t) (hbound : t.bound resource slot = some child) :
    s.bound resource slot = some child ∨ t.ChildOf child resource := by
  cases h with
  | same hsame => exact Or.inl (hsame ▸ hbound)
  | bound hchild hset =>
      rw [hset] at hbound
      rcases held_of_set hbound with hheld | ⟨rfl, hplaced⟩
      · exact Or.inl hheld
      · exact Or.inr (Option.some.inj hplaced ▸ hchild)
  | cleared hset =>
      rw [hset] at hbound
      exact Or.inl ((held_of_set hbound).resolve_right fun hplaced ↦ nomatch hplaced.2)
  | removed hset =>
      rw [hset, Function.update_apply] at hbound
      split at hbound
      · cases hbound
      · exact Or.inl hbound

/-- What is attached is bound to the slot, and there under the resource. -/
theorem attached_bound {template : Template} {key childKey : StoredKey} {e : Entity}
    (hkey : resource.keyed = .ok key) (he : s.entity? key = some e)
    (hchild : child.keyed = .ok childKey)
    (howned : ∀ c, s.entity? childKey = some c → c.base.parent = some resource) :
    let t := (s.provide childKey template child resource).putEntity key
      (e.withBase { e.base with slots := e.base.slots.insert slot (some child) })
    t.ChildOf child resource ∧
      t.bound = update s.bound resource (update (s.bound resource) slot (some child)) := by
  intro t
  have hkept := entity?_provide childKey template child resource he
  obtain ⟨c, hc, hparent⟩ := exists_provide template child howned
  constructor
  · have hlineage : t.lineage? = (s.provide childKey template child resource).lineage? := by
      apply lineage?_replace hkey hkept rfl
      rw [Entity.base_withBase]
    rw [ChildOf, hlineage, lineage?_eq hchild hc, hparent]
  · have hprovided : (s.provide childKey template child resource).bound = s.bound :=
      bound_provide hchild
    rw [← hprovided]
    exact bound_insert hkey hkept

theorem Granted.binding (h : Granted library s c reply t) : Binding s t := by
  cases h with
  | created _ hkey hfree => exact .same (aspect_found hkey hfree (Entity.bindings_fresh _ _ _))
  | attached _ hkey he _ _ hchild howned =>
      obtain ⟨hthere, hbound⟩ := attached_bound hkey he hchild howned
      exact .bound hthere hbound
  | detached hkey he => exact .cleared (bound_insert hkey he)
  | entered _ hkey hc _ hmember =>
      apply Binding.same
      apply aspect_placed hkey hc hmember (Entity.bindings_fresh _ _ _)
      exact Entity.bindings_of_slots rfl
  | @dropped container member key c hkey hc =>
      apply Binding.same (aspect_replace hkey hc rfl (Entity.bindings_of_slots _))
      exact congrArg Resource.slots (c.id_removeMember member)
  | slugAdded hkey hc | slugMerged hkey hc =>
      apply Binding.same (aspect_replace hkey hc rfl (Entity.bindings_of_slots _))
      exact congrArg Resource.slots (Container.resource_mergeSlug _ _ _)
  | directed hkey he | settled hkey he =>
      exact .same (aspect_replace hkey he rfl (Entity.bindings_withBase rfl))
  | complained hkey he hreport | complainedAside hkey he hreport =>
      obtain ⟨failure, -, rfl, rfl⟩ := Resource.report?_eq_some_iff.mp hreport
      exact .same (aspect_replace hkey he rfl (Entity.bindings_withBase rfl))
  | noContainer | noResource | published | amended | retracted =>
      exact .same (aspect_congr rfl)
  | removed hkey => exact .removed (aspect_erase hkey rfl)

theorem Deed.binding (hs : s.Sound) (d : Deed) : Binding s (d.on library s) := by
  rcases d.granted_or_idle library hs with ⟨slugs, hidle⟩ | ⟨c, reply, -, hgranted⟩
  · rw [hidle]
    exact .same (aspect_congr rfl)
  · exact hgranted.binding

/-! ## Slots that hold what has been removed -/

/-- A child has been removed from under the resource while a slot held it. Since then the slot has
held it throughout, and it has not been there as a child of the resource. -/
def Dangles (library : TemplateLibrary) (deeds : List Deed) (resource : ResourceId)
    (slot : String) (child : ResourceId) : Prop :=
  LeftBehind library (fun s ↦ s.bound resource slot = some child) deeds resource child

theorem dangles_iff {deeds : List Deed} :
    Dangles library deeds resource slot child ↔
      (replay library .empty deeds).bound resource slot = some child ∧
        ¬(replay library .empty deeds).ChildOf child resource := by
  apply leftBehind_iff
  · rw [bound, aspect_empty]
    exact nofun
  · intro s d hs
    exact (d.binding hs).bound_or_childOf

/-! ## Attaching -/

theorem Resource.checkBind_eq_false_iff {r : Resource} :
    r.checkBind slot child = .ok false ↔ r.slots.find? slot = some (some child) := by
  unfold checkBind
  split
  · next h => simp [h]
  · next h => simp [h]
  · next h => split <;> simp [h]

theorem Operation.on_answering {α : Type} (o : Operation α) (reply : α → Reply) (s : StoreState) :
    (o.answering reply).on s = ((o.on s).1.map reply, (o.on s).2) := by
  cases o <;> rfl

/-- The answer that there is nothing to do is given only if the slot holds the child. -/
theorem Graph.bound_of_attach
    (h : ((attach library resource slot child expected).on s).1 = .ok false) :
    s.bound resource slot = some child := by
  unfold attach Operation.withKeyOf Operation.withKey at h
  rcases hkey : resource.keyed with fault | key
  · rw [hkey] at h
    cases h
  rcases hchildKey : child.keyed with fault | childKey
  · rw [hkey, hchildKey] at h
    cases h
  rw [hkey, hchildKey] at h
  change (attachAt library resource slot child expected key childKey s).1 = .ok false at h
  rcases hparent : s.entityAt key resource with fault | e
  · simp [attachAt, hparent] at h
  have he := entityAt_eq_ok_iff.mp hparent
  rcases hallowed : childTemplate library resource slot child expected with fault | t
  · simp [attachAt, hparent, hallowed] at h
  rcases hcheck : e.base.checkBind slot child with fault | _ | _
  · simp [attachAt, hparent, hallowed, hcheck] at h
  · rw [bound_eq hkey he, Entity.bindings, Resource.checkBind_eq_false_iff.mp hcheck]
    rfl
  rcases hthere : checkChild s childKey child resource with fault | present
  · simp [attachAt, hparent, hallowed, hcheck, hthere] at h
  · simp [attachAt_eq hallowed he hcheck hthere] at h

/-- What comes of attaching a child: it fails, or the slot holds the child and nothing is done, or
it is granted. -/
inductive Attaches (library : TemplateLibrary) (s : StoreState) (resource : ResourceId)
    (slot : String) (child : ResourceId) (expected : TemplateKind) :
    Result Bool × StoreState → Prop
  | failed (fault : KernelError) : Attaches library s resource slot child expected (.error fault, s)
  | held (h : s.bound resource slot = some child) :
      Attaches library s resource slot child expected (.ok false, s)
  | granted {t : StoreState}
      (h : Granted library s (.attach resource slot child expected) (.flag true) t) :
      Attaches library s resource slot child expected (.ok true, t)

theorem Graph.attaches (library : TemplateLibrary) (s : StoreState) (resource : ResourceId)
    (slot : String) (child : ResourceId) (expected : TemplateKind) :
    Attaches library s resource slot child expected
      ((attach library resource slot child expected).on s) := by
  have hanswers : Answers library s (.attach resource slot child expected)
      (((attach library resource slot child expected).answering .flag).on s) :=
    answers_attach resource slot child expected
  have hheld : ((attach library resource slot child expected).on s).1 = .ok false →
      s.bound resource slot = some child := bound_of_attach
  rw [Operation.on_answering] at hanswers
  generalize (attach library resource slot child expected).on s = after at hanswers hheld ⊢
  obtain ⟨answer, t⟩ := after
  cases answer with
  | error fault =>
      cases hanswers with
      | refused => exact .failed fault
  | ok added =>
      cases hanswers with
      | refused hrefuses =>
          obtain rfl := Reply.flag.inj (refuses_ok_iff.mp hrefuses)
          exact .held (hheld rfl)
      | granted hgranted =>
          cases added with
          | true => exact .granted hgranted
          | false => cases hgranted

theorem Attaches.of_ok {answer : Bool}
    (h : Attaches library s resource slot child expected (.ok answer, t)) :
    t.bound resource slot = some child ∧ (answer = false ↔ s.bound resource slot = some child) ∧
      (answer = false → t = s) ∧ (answer = true → t.ChildOf child resource) := by
  cases h with
  | held hheld => exact ⟨hheld, iff_of_true rfl hheld, fun _ ↦ rfl, nofun⟩
  | granted hgranted =>
      cases hgranted with
      | attached _ hkey he hslot _ hchild howned =>
          obtain ⟨hthere, hbound⟩ := attached_bound hkey he hchild howned
          have hfree : s.bound resource slot = none := by
            rw [bound_eq hkey he, Entity.bindings, hslot]
            rfl
          refine ⟨?_, iff_of_false nofun ?_, nofun, fun _ ↦ hthere⟩
          · rw [hbound, Function.update_self, Function.update_self]
          · rw [hfree]
            exact nofun

/-- A child for which attaching has answered is missing only if the slot has held it before. -/
theorem Attaches.childOf_iff {answer : Bool}
    (h : Attaches library s resource slot child expected (.ok answer, t)) :
    t.ChildOf child resource ↔
      ¬(s.bound resource slot = some child ∧ ¬s.ChildOf child resource) := by
  obtain ⟨-, hheld, hsame, hthere⟩ := h.of_ok
  cases answer with
  | true =>
      refine iff_of_true (hthere rfl) fun hleft ↦ ?_
      exact absurd (hheld.mpr hleft.1) (by decide)
  | false =>
      obtain rfl : t = s := hsame rfl
      rw [not_and_not_right]
      exact ⟨fun hchild _ ↦ hchild, fun hback ↦ hback (hheld.mp rfl)⟩

theorem Attaches.childOf_iff_not_dangles {deeds : List Deed} {answer : Bool}
    (h : Attaches library (replay library .empty deeds) resource slot child expected
      (.ok answer, t)) :
    t.ChildOf child resource ↔ ¬Dangles library deeds resource slot child := by
  rw [dangles_iff]
  exact h.childOf_iff

theorem Graph.attaches_of_ok {answer : Bool}
    (hok : ((attach library resource slot child expected).on s).1 = .ok answer) :
    Attaches library s resource slot child expected
      (.ok answer, ((attach library resource slot child expected).on s).2) := by
  have hattaches := attaches library s resource slot child expected
  rw [← hok]
  exact hattaches

/-- After a history with any operations in any order, where attaching a child answers that it has
been bound, or that it was bound already, the slot holds the child. It is there as a child of the
resource exactly if it has not been removed and left missing since the slot came to hold it. -/
theorem attached_iff_not_dangles (library : TemplateLibrary) (deeds : List Deed)
    (resource : ResourceId) (slot : String) (child : ResourceId) (expected : TemplateKind)
    (answer : Bool) :
    let s := replay library .empty deeds
    let attached := (Graph.attach library resource slot child expected).on s
    attached.1 = .ok answer →
      attached.2.bound resource slot = some child ∧
      (answer = false ↔ s.bound resource slot = some child) ∧
      (answer = false → attached.2 = s) ∧
      (attached.2.ChildOf child resource ↔ ¬Dangles library deeds resource slot child) := by
  intro s attached hok
  have hattaches := Graph.attaches_of_ok hok
  obtain ⟨hbound, hheld, hsame, -⟩ := hattaches.of_ok
  exact ⟨hbound, hheld, hsame, hattaches.childOf_iff_not_dangles⟩

/-- So it is in every state of a run, with the history that the state comes of. -/
theorem Kernel.attached_run (library : TemplateLibrary) (moves : List Move) :
    ((ofLibrary library).run moves).view.Every fun s ↦
      ∃ deeds, deeds.Sublist (asked moves) ∧ s = replay library .empty deeds ∧
        ∀ resource slot child expected answer,
          let attached := (Graph.attach library resource slot child expected).on s
          attached.1 = .ok answer →
            attached.2.bound resource slot = some child ∧
            (answer = false ↔ s.bound resource slot = some child) ∧
            (answer = false → attached.2 = s) ∧
            (attached.2.ChildOf child resource ↔
              ¬Dangles library deeds resource slot child) := by
  refine every_of_replay ?_ moves
  intro deeds resource slot child expected answer attached hok
  have hattaches := Graph.attaches_of_ok hok
  obtain ⟨hbound, hheld, hsame, -⟩ := hattaches.of_ok
  exact ⟨hbound, hheld, hsame, hattaches.childOf_iff_not_dangles⟩

/-- A library of books that have covers. -/
def TemplateLibrary.books : TemplateLibrary :=
  (TemplateLibrary.empty.insert "books" ⟨"book", "books", none, none,
    [⟨"cover", "cover", "cover", none⟩], .resource⟩).insert "covers"
      ⟨"cover", "covers", none, none, [], .resource⟩

/-- A cover that has been removed comes back once its slot has been cleared. -/
theorem cover_attached_again :
    let a : ResourceId := ⟨.text "a", "book"⟩
    let b : ResourceId := ⟨.text "b", "cover"⟩
    let deeds : List Deed := [.change (.create "book" (.text "a")),
      .change (.attach a "cover" b .resource), .change (.remove b), .change (.detach a "cover")]
    let attached := (Graph.attach .books a "cover" b .resource).on (replay .books .empty deeds)
    attached.1 = .ok true ∧ attached.2.bound a "cover" = some b ∧ attached.2.ChildOf b a ∧
      ¬Dangles .books deeds a "cover" b := by
  intro a b deeds attached
  have hok : attached.1 = .ok true := by decide +kernel
  have hchild : attached.2.ChildOf b a := show attached.2.lineage? b = some (some a) by
    decide +kernel
  obtain ⟨hbound, -, -, hiff⟩ :=
    attached_iff_not_dangles .books deeds a "cover" b .resource true hok
  exact ⟨hok, hbound, hchild, hiff.mp hchild⟩

/-- A cover is removed while the slot of its book holds it. Attaching it again does not fail, and
does not make it. -/
theorem cover_missing_after_attach :
    let a : ResourceId := ⟨.text "a", "book"⟩
    let b : ResourceId := ⟨.text "b", "cover"⟩
    let deeds : List Deed := [.change (.create "book" (.text "a")),
      .change (.attach a "cover" b .resource), .change (.remove b)]
    let attached := (Graph.attach .books a "cover" b .resource).on (replay .books .empty deeds)
    attached.1 = .ok false ∧ attached.2.bound a "cover" = some b ∧
      attached.2.entityOf? b = none ∧ ¬attached.2.ChildOf b a := by
  intro a b deeds attached
  have hnone : attached.2.entityOf? b = none := by decide +kernel
  refine ⟨by decide +kernel, by decide +kernel, hnone, fun hchild ↦ ?_⟩
  rw [ChildOf, lineage?, hnone] at hchild
  cases hchild

end ResourceKernel
