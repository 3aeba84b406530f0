import ResourceKernel.Proofs.Key

/-!
# What keys remember

A key remembers an identity if it was made from it, if it has been asked for it, if it heals a key
that has one, or if it is a copy of a key that does. Whatever is done to keys, a key remembers
nothing but what its fields say, and so it answers as if it had just been read from storage.
-/

namespace ResourceKernel

inductive KeyRequest
  | resourceId
  | decode
  | effectiveType
  | clone
  | healed
  deriving DecidableEq, Repr

/-- A request to one of the keys at hand. -/
structure KeyAccess where
  index : Nat
  request : KeyRequest
  deriving DecidableEq, Repr

namespace ResourceKey

/-- The key with the same fields that remembers nothing. -/
def blank (k : ResourceKey) : ResourceKey := ofStored k.stored

def touched (k : ResourceKey) : KeyRequest → ResourceKey
  | .resourceId | .decode | .healed => k.asked
  | .effectiveType | .clone => k

/-- The keys that a request makes, which is one at most. -/
def made (k : ResourceKey) : KeyRequest → List ResourceKey
  | .clone => [k]
  | .healed => k.healed.toOption.toList
  | .resourceId | .decode | .effectiveType => []

/-- The keys at hand after an access. What has been made comes last. -/
def access (keys : List ResourceKey) (a : KeyAccess) : List ResourceKey :=
  match keys[a.index]? with
  | some k => keys.set a.index (k.touched a.request) ++ k.made a.request
  | none => keys

/-- An access after which all that keys remember is forgotten. -/
def accessBlank (keys : List ResourceKey) (a : KeyAccess) : List ResourceKey :=
  (access keys a).map blank

/-- How keys come about: without fields, from fields as they are stored, or from an identity in
whose name all URIs can be read back. -/
inductive Obtained : ResourceKey → Prop
  | null : Obtained null
  | stored (k : StoredKey) : Obtained (ofStored k)
  | encoded {id : ResourceId} {k : ResourceKey} (h : encode id = .ok k)
      (huris : ∀ u level, Name.SitsAt (.uri u) level id.name → Uri.ofText u.text = .ok u) :
      Obtained k

/-- What the key remembers is what its fields say. -/
def Coherent (k : ResourceKey) : Prop := ∀ id, k.decoded = some id → identityOf k.stored = .ok id

variable {k : ResourceKey} {id : ResourceId} {keys : List ResourceKey} {a : KeyAccess}

/-! ## One key -/

theorem coherent_of_decoded_eq_none (h : k.decoded = none) : k.Coherent := by
  intro id hid
  rw [h] at hid
  cases hid

theorem coherent_remembering {stored : StoredKey} (h : identityOf stored = .ok id) :
    Coherent ⟨stored, some id⟩ := by
  intro found hfound
  obtain rfl := Option.some.inj hfound
  exact h

theorem isNull_eq_false_of_identityOf {stored : StoredKey} (h : identityOf stored = .ok id) :
    stored.isNull = false := by
  unfold identityOf at h
  split at h
  · cases h
  · next htemplate =>
    rw [StoredKey.isNull, Bool.eq_false_iff.mpr htemplate]
    rfl

theorem decode_ofStored_eq_some_iff {stored : StoredKey} :
    (ofStored stored).decode = .ok (some id) ↔ identityOf stored = .ok id := by
  constructor
  · intro h
    unfold decode resourceId ofStored at h
    split at h
    · cases h
    · cases hid : identityOf stored with
      | error fault =>
          rw [hid] at h
          cases h
      | ok found =>
          rw [hid] at h
          exact congrArg Except.ok (Option.some.inj (Except.ok.inj h))
  · intro hid
    simp [decode, resourceId, ofStored, isNull_eq_false_of_identityOf hid, hid, Except.map]

theorem Obtained.coherent (h : Obtained k) : k.Coherent := by
  cases h with
  | null => exact coherent_of_decoded_eq_none rfl
  | stored stored => exact coherent_of_decoded_eq_none rfl
  | encoded hencode huris =>
      have hidentity : identityOf k.stored = .ok _ :=
        decode_ofStored_eq_some_iff.mp (decode_ofStored_encode hencode huris)
      obtain ⟨-, bs, -, rfl⟩ := encode_eq_ok_iff.mp hencode
      exact coherent_remembering hidentity

/-- A coherent key answers what its fields alone would answer. -/
theorem Coherent.resourceId_eq (h : k.Coherent) : k.resourceId = k.blank.resourceId := by
  obtain ⟨stored, decoded⟩ := k
  cases decoded with
  | none => rfl
  | some id =>
      have hid : identityOf stored = .ok id := h id rfl
      simp [resourceId, blank, ofStored, isNull_eq_false_of_identityOf hid, hid]

theorem coherent_blank (k : ResourceKey) : k.blank.Coherent := coherent_of_decoded_eq_none rfl

theorem Coherent.decode_eq (h : k.Coherent) : k.decode = k.blank.decode := by
  rw [decode, h.resourceId_eq]
  rfl

theorem Coherent.healed_eq (h : k.Coherent) : k.healed = k.blank.healed := by
  rw [healed, h.resourceId_eq]
  rfl

/-- What comes of asking for the identity that fields stand for: the fields are those of the null
key, or they say nothing, or what they say is remembered. -/
inductive Recalls (stored : StoredKey) : Except KeyFault (Option ResourceId × ResourceKey) → Prop
  | null : Recalls stored (.ok (none, ofStored stored))
  | failed (fault : KeyFault) : Recalls stored (.error fault)
  | found {id : ResourceId} (hid : identityOf stored = .ok id) :
      Recalls stored (.ok (some id, ⟨stored, some id⟩))

theorem Coherent.recalls (h : k.Coherent) : Recalls k.stored k.resourceId := by
  rw [h.resourceId_eq]
  unfold resourceId blank ofStored
  split
  · exact .null
  · dsimp only
    cases hid : identityOf k.stored with
    | error fault => exact .failed fault
    | ok id => exact .found hid

theorem Coherent.asked (h : k.Coherent) : k.asked.Coherent ∧ k.asked.stored = k.stored := by
  have hrecalls : Recalls k.stored k.resourceId := h.recalls
  unfold ResourceKey.asked
  generalize k.resourceId = answer at hrecalls ⊢
  cases hrecalls with
  | null => exact ⟨coherent_of_decoded_eq_none rfl, rfl⟩
  | failed => exact ⟨h, rfl⟩
  | found hid => exact ⟨coherent_remembering hid, rfl⟩

/-- The kind of the name is stated in a key, but has no part in what its fields say. -/
theorem Coherent.healed (h : k.Coherent) {after : ResourceKey} (hafter : k.healed = .ok after) :
    after.Coherent := by
  have hrecalls : Recalls k.stored k.resourceId := h.recalls
  unfold ResourceKey.healed at hafter
  generalize k.resourceId = answer at hrecalls hafter
  cases hrecalls with
  | null =>
      obtain rfl := Except.ok.inj hafter
      exact coherent_of_decoded_eq_none rfl
  | failed => cases hafter
  | found hid =>
      obtain rfl := Except.ok.inj hafter
      exact coherent_remembering hid

theorem Coherent.touched (h : k.Coherent) (r : KeyRequest) :
    (k.touched r).Coherent ∧ (k.touched r).stored = k.stored := by
  cases r with
  | resourceId | decode | healed => exact h.asked
  | effectiveType | clone => exact ⟨h, rfl⟩

theorem Coherent.of_mem_made (h : k.Coherent) {r : KeyRequest} {after : ResourceKey}
    (hafter : after ∈ k.made r) : after.Coherent := by
  cases r with
  | clone =>
      obtain rfl := List.mem_singleton.mp hafter
      exact h
  | healed =>
      rw [made, Option.mem_toList] at hafter
      cases hhealed : k.healed with
      | error fault =>
          rw [hhealed] at hafter
          cases hafter
      | ok healed =>
          rw [hhealed] at hafter
          obtain rfl := Option.some.inj hafter
          exact h.healed hhealed
  | resourceId | decode | effectiveType => cases hafter

theorem Coherent.made_blank (h : k.Coherent) (r : KeyRequest) :
    (k.made r).map blank = (k.blank.made r).map blank := by
  cases r with
  | healed => rw [made, made, h.healed_eq]
  | _ => rfl

/-! ## Keys at hand -/

theorem coherent_access (h : ∀ k ∈ keys, k.Coherent) (a : KeyAccess) :
    ∀ k ∈ access keys a, k.Coherent := by
  unfold access
  split
  · next k hk =>
    have hcoherent : k.Coherent := h k (List.mem_of_getElem? hk)
    intro after hafter
    rcases List.mem_append.mp hafter with hset | hmade
    · rcases List.mem_or_eq_of_mem_set hset with hold | rfl
      · exact h after hold
      · exact (hcoherent.touched a.request).1
    · exact hcoherent.of_mem_made hmade
  · exact h

theorem coherent_foldl_access (h : ∀ k ∈ keys, k.Coherent) (accesses : List KeyAccess) :
    ∀ k ∈ accesses.foldl access keys, k.Coherent := by
  induction accesses generalizing keys with
  | nil => exact h
  | cons a accesses ih => exact ih (coherent_access h a)

/-- Whether anything was remembered before an access makes no difference to the fields of the keys
after it. -/
theorem map_blank_access (h : ∀ k ∈ keys, k.Coherent) (a : KeyAccess) :
    (access keys a).map blank = accessBlank (keys.map blank) a := by
  unfold accessBlank access
  rw [List.getElem?_map]
  cases hk : keys[a.index]? with
  | none => simp [blank, ofStored]
  | some k =>
      have hcoherent : k.Coherent := h k (List.mem_of_getElem? hk)
      have htouched : (k.touched a.request).blank = (k.blank.touched a.request).blank := by
        rw [blank, blank, (hcoherent.touched a.request).2,
          (k.coherent_blank.touched a.request).2]
        rfl
      have hblank : (keys.map blank).map blank = keys.map blank := by
        rw [List.map_map]
        rfl
      simp only [Option.map_some, List.map_append, List.map_set, htouched,
        hcoherent.made_blank, hblank]

theorem map_blank_foldl_access (h : ∀ k ∈ keys, k.Coherent) (accesses : List KeyAccess) :
    (accesses.foldl access keys).map blank = accesses.foldl accessBlank (keys.map blank) := by
  induction accesses generalizing keys with
  | nil => rfl
  | cons a accesses ih =>
      rw [List.foldl_cons, List.foldl_cons, ← map_blank_access h a]
      exact ih (coherent_access h a)

/-- Keys are obtained in any way, and then they and the keys that this makes are asked for
identities, copied and healed in any order. Whatever a key remembers, its fields decode to it. So it
answers and heals as the key with the same fields that remembers nothing; and neither the fields of
the keys nor how they compare and hash depend on what has been decoded before. -/
theorem reached_keys_answer_blank (hkeys : ∀ k ∈ keys, Obtained k) (accesses : List KeyAccess) :
    let reached := accesses.foldl access keys
    (∀ k ∈ reached, (∀ id, k.decoded = some id → k.blank.decode = .ok (some id)) ∧
      k.resourceId = k.blank.resourceId ∧ k.decode = k.blank.decode ∧
        k.healed = k.blank.healed) ∧
    reached.map blank = accesses.foldl accessBlank (keys.map blank) ∧
    ∀ k ∈ reached, ∀ other ∈ reached, (k == other) = (k.blank == other.blank) ∧
      compare k other = compare k.blank other.blank ∧ hash k = hash k.blank := by
  intro reached
  have hstart : ∀ k ∈ keys, k.Coherent := fun k hk ↦ (hkeys k hk).coherent
  refine ⟨fun k hk ↦ ?_, map_blank_foldl_access hstart accesses, fun k _ other _ ↦ ⟨rfl, rfl, rfl⟩⟩
  have hcoherent : k.Coherent := coherent_foldl_access hstart accesses k hk
  refine ⟨fun id hid ↦ ?_, hcoherent.resourceId_eq, hcoherent.decode_eq, hcoherent.healed_eq⟩
  exact decode_ofStored_eq_some_iff.mpr (hcoherent id hid)

/-- A key that states the wrong kind is copied, asked and healed, next to the null key and the key
of the same identity. -/
theorem stale_key_answers_blank :
    let id : ResourceId := ⟨.integer 7, "counter"⟩
    let encoded : ResourceKey := ⟨⟨"counter", "integer", "AgAAAAgAAAAAAAAABw"⟩, some id⟩
    let stale := ofStored ⟨"counter", "text", "AgAAAAgAAAAAAAAABw"⟩
    let reached := [⟨1, .clone⟩, ⟨1, .resourceId⟩, ⟨1, .healed⟩, ⟨0, .healed⟩, ⟨1, .clone⟩].foldl
      access [null, stale, encoded]
    encode id = .ok encoded ∧
      reached.map (·.decoded) = [none, some id, some id, none, some id, none, some id] ∧
      reached.map (·.effectiveType) =
        ["", "integer", "integer", "text", "integer", "", "integer"] ∧
      ∀ k ∈ reached, (∀ id, k.decoded = some id → k.blank.decode = .ok (some id)) ∧
        k.decode = k.blank.decode := by
  intro id encoded stale reached
  have hencode : encode id = .ok encoded := by rfl
  have hkeys : ∀ k ∈ [null, stale, encoded], Obtained k := by
    intro k hk
    simp only [List.mem_cons, List.not_mem_nil, or_false] at hk
    rcases hk with rfl | rfl | rfl
    · exact .null
    · exact .stored _
    · exact .encoded hencode fun u level hsits ↦ by cases hsits
  obtain ⟨hreached, -, -⟩ := reached_keys_answer_blank hkeys
    [⟨1, .clone⟩, ⟨1, .resourceId⟩, ⟨1, .healed⟩, ⟨0, .healed⟩, ⟨1, .clone⟩]
  refine ⟨hencode, by decide +kernel, by decide +kernel, fun k hk ↦ ?_⟩
  obtain ⟨hdecoded, -, hdecode, -⟩ := hreached k hk
  exact ⟨hdecoded, hdecode⟩

end ResourceKey

end ResourceKernel
