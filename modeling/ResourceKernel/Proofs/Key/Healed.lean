import ResourceKernel.Graph.Operations
import ResourceKernel.Proofs.Key.Remembered
import ResourceKernel.Proofs.Name.Spelling
import ResourceKernel.Proofs.Uri.Urn

/-!
# Keys that heal

A healed key states the kind that its name really has, and keeps the name as it was spelled. It is
the key of its identity, by which the graph finds the entity, exactly if all URIs in the name are
spelled as they are written. The identity has no key if a URI in it has become too long by being
read.
-/

namespace ResourceKernel

open Text

variable {stored : StoredKey} {id : ResourceId} {bytes : List UInt8}

theorem Name.ofBytes_framed_uri {raw : String} {u : Uri}
    (hlen : (Utf8.encode raw).length < UInt32.size) (h : Uri.ofText raw = .ok u) :
    ofBytes (framed .uri (Utf8.encode raw)) = .ok (.uri u) := by
  have huri : ofContent maxDepth .uri (Utf8.encode raw) = .ok (.uri u) := by
    simp only [ofContent, uriOf, textOf_encode, h]
  exact ofBytes_eq_ok_iff.mpr
    (readBelow_eq_ok_iff.mpr ⟨.uri, _, [], hlen, (List.append_nil _).symm, huri, rfl⟩)

/-- All URIs in the name of the key are spelled as they are written. -/
def StoredKey.WritesBack (k : StoredKey) : Prop :=
  ∀ bytes, Base64.decode k.nameValue = some bytes → Name.WritesBack bytes

theorem StoredKey.writesBack_iff (h : Base64.decode stored.nameValue = some bytes) :
    stored.WritesBack ↔ Name.WritesBack bytes := by
  constructor
  · exact fun hall ↦ hall bytes h
  · intro hback other hother
    obtain rfl := Option.some.inj (h.symm.trans hother)
    exact hback

namespace ResourceKey

variable {k : ResourceKey}

theorem identityOf_eq_ok_iff :
    identityOf stored = .ok id ↔ stored.templateId ≠ "" ∧ ∃ bytes,
      Base64.decode stored.nameValue = some bytes ∧ Name.ofBytes bytes = .ok id.name ∧
        stored.templateId = id.templateId := by
  obtain ⟨name, template⟩ := id
  unfold identityOf
  by_cases htemplate : stored.templateId = ""
  · simp [htemplate]
  · have hne : stored.templateId.isEmpty = false := by simpa using htemplate
    cases hbytes : Base64.decode stored.nameValue with
    | none => simp [hne]
    | some bytes =>
        cases hname : Name.ofBytes bytes with
        | error fault => simp [hne, hname]
        | ok found => simp [hne, hname, htemplate]

theorem keyed_eq_ok_iff_encode : id.keyed = .ok stored ↔ encode id = .ok ⟨stored, some id⟩ := by
  rw [ResourceId.keyed_eq_ok_iff]
  constructor
  · rintro ⟨encoded, hencoded, rfl⟩
    obtain ⟨-, bytes, -, rfl⟩ := encode_eq_ok_iff.mp hencoded
    exact hencoded
  · exact fun hencoded ↦ ⟨_, hencoded, rfl⟩

/-- What the fields of a key say does not depend on the kind that is stated there. -/
theorem identityOf_nameType (kind : String) :
    identityOf ⟨stored.templateId, kind, stored.nameValue⟩ = identityOf stored := rfl

theorem Coherent.decode_eq_some_iff (h : k.Coherent) :
    k.decode = .ok (some id) ↔ identityOf k.stored = .ok id := by
  rw [h.decode_eq]
  exact decode_ofStored_eq_some_iff

theorem Coherent.healed_eq_of_identityOf (h : k.Coherent) (hid : identityOf k.stored = .ok id) :
    k.healed = .ok ⟨⟨k.stored.templateId, id.name.kind.tag, k.stored.nameValue⟩, some id⟩ := by
  rw [h.healed_eq]
  simp [ResourceKey.healed, resourceId, blank, ofStored, isNull_eq_false_of_identityOf hid, hid]

/-- An identity that a key stands for has a key unless its name has become too long. -/
theorem exists_encode_iff (hid : identityOf stored = .ok id) :
    (∃ encoded, encode id = .ok encoded) ↔ id.name.contentLength < UInt32.size := by
  obtain ⟨htemplate, bytes, -, hname, hsame⟩ := identityOf_eq_ok_iff.mp hid
  rw [← Name.exists_toBytes_iff_of_ofBytes hname]
  constructor
  · rintro ⟨encoded, hencoded⟩
    obtain ⟨-, written, hwritten, -⟩ := encode_eq_ok_iff.mp hencoded
    exact ⟨written, hwritten⟩
  · rintro ⟨written, hwritten⟩
    exact ⟨_, encode_eq_ok_iff.mpr ⟨hsame ▸ htemplate, written, hwritten, rfl⟩⟩

/-- Reading a URI can make it longer. So a key can stand for an identity whose name has become too
long, and which has no key. -/
theorem exists_decode_encode_ne :
    ∃ (stored : StoredKey) (id : ResourceId), (ofStored stored).decode = .ok (some id) ∧
      ∀ encoded, encode id ≠ .ok encoded := by
  obtain ⟨raw, u, hu, hraw, htext⟩ := Uri.exists_ofText_longer 2147483648
  have hlen : (Utf8.encode raw).length < UInt32.size := by
    rw [hraw]
    decide
  have htemplate : "book" ≠ "" := by decide
  have hid : identityOf ⟨"book", "uri", Base64.encode (Name.framed .uri (Utf8.encode raw))⟩ =
      .ok ⟨.uri u, "book"⟩ :=
    identityOf_eq_ok_iff.mpr
      ⟨htemplate, _, Base64.decode_encode _, Name.ofBytes_framed_uri hlen hu, rfl⟩
  refine ⟨_, _, decode_ofStored_eq_some_iff.mpr hid, fun encoded hencoded ↦ ?_⟩
  have hshort : u.text.utf8ByteSize < UInt32.size := (exists_encode_iff hid).mp ⟨encoded, hencoded⟩
  rw [← Name.length_utf8_encode, htext] at hshort
  exact absurd hshort (by decide)

/-- The fields of a key that states the right kind are those of the key of its identity, exactly if
all URIs in its name are spelled as they are written. -/
theorem encode_eq_ok_iff_writesBack (hid : identityOf stored = .ok id) :
    encode id = .ok ⟨⟨stored.templateId, id.name.kind.tag, stored.nameValue⟩, some id⟩ ↔
      stored.WritesBack := by
  obtain ⟨htemplate, bytes, hbytes, hname, hsame⟩ := identityOf_eq_ok_iff.mp hid
  rw [StoredKey.writesBack_iff hbytes, ← Name.toBytes_eq_ok_iff_writesBack hname]
  constructor
  · intro hencode
    obtain ⟨-, written, hwritten, heq⟩ := encode_eq_ok_iff.mp hencode
    have hvalue : stored.nameValue = Base64.encode written :=
      congrArg (fun key ↦ key.stored.nameValue) heq
    rw [hvalue, Base64.decode_encode] at hbytes
    exact Option.some.inj hbytes ▸ hwritten
  · intro hwritten
    refine encode_eq_ok_iff.mpr ⟨hsame ▸ htemplate, bytes, hwritten, ?_⟩
    rw [← hsame, Base64.encode_of_decode hbytes]

/-- Only a URI can be spelled otherwise than it is written. -/
theorem writesBack_of_identityOf (hid : identityOf stored = .ok id)
    (hnone : ∀ u level, ¬Name.SitsAt (.uri u) level id.name) : stored.WritesBack := by
  obtain ⟨-, bytes, hbytes, hname, -⟩ := identityOf_eq_ok_iff.mp hid
  exact (StoredKey.writesBack_iff hbytes).mpr (Name.writesBack_of_ofBytes hname hnone)

/-- The graph finds by an identity what is kept under a key, exactly if this is the key of the
identity. -/
theorem find_on_eq_iff :
    (∀ s, (Graph.find id).on s = (.ok (s.entity? stored), s)) ↔ id.keyed = .ok stored := by
  unfold Graph.find Operation.withKey
  cases hkey : id.keyed with
  | error fault => simp [Except.map]
  | ok key =>
      simp only [Except.map, Operation.on_ok, Edit.query, Prod.mk.injEq, Except.ok.injEq, and_true]
      constructor
      · intro hfind
        -- an entity that is kept under the key alone tells it from all others
        have hput := hfind (StoreState.empty.putEntity key default)
        rw [StoreState.entity?_putEntity_self] at hput
        by_cases hsame : key = stored
        · exact hsame
        · rw [StoreState.entity?_putEntity_ne _ _ (Ne.symm hsame)] at hput
          cases hput
      · rintro rfl s
        rfl

/-- A key whose fields stand for an identity heals, and still stands for it. What it heals to is the
key of the identity, by which the graph finds the entity, exactly if all URIs in its name are
spelled as they are written, and so if there are none. Two keys of an identity heal to equal keys
exactly if their names are spelled alike, and so if both are spelled as they are written. -/
theorem healed_eq_encode_iff (hk : k.Coherent) (h : k.decode = .ok (some id)) :
    ∃ healed, k.healed = .ok healed ∧ healed.decode = .ok (some id) ∧
      ((∃ encoded, encode id = .ok encoded) ↔ id.name.contentLength < UInt32.size) ∧
      (encode id = .ok healed ↔ k.stored.WritesBack) ∧
      ((∀ u level, ¬Name.SitsAt (.uri u) level id.name) → k.stored.WritesBack) ∧
      ((∀ s, (Graph.find id).on s = (.ok (s.entity? healed.stored), s)) ↔ k.stored.WritesBack) ∧
      ∀ other : ResourceKey, other.Coherent → other.decode = .ok (some id) →
        (other.healed = .ok healed ↔ other.stored.nameValue = k.stored.nameValue) ∧
        (other.stored.WritesBack → k.stored.WritesBack → other.healed = .ok healed) := by
  have hid := hk.decode_eq_some_iff.mp h
  have hhealed := hk.healed_eq_of_identityOf hid
  have hencode := encode_eq_ok_iff_writesBack hid
  refine ⟨_, hhealed, ?_, exists_encode_iff hid, hencode, writesBack_of_identityOf hid, ?_,
    fun other hother hdecode ↦ ?_⟩
  · exact (hk.healed hhealed).decode_eq_some_iff.mpr ((identityOf_nameType _).trans hid)
  · rw [find_on_eq_iff, keyed_eq_ok_iff_encode, hencode]
  · have hother' := hother.decode_eq_some_iff.mp hdecode
    have hsame : other.stored.templateId = k.stored.templateId := by
      obtain ⟨-, -, -, -, htemplate⟩ := identityOf_eq_ok_iff.mp hid
      obtain ⟨-, -, -, -, htemplate'⟩ := identityOf_eq_ok_iff.mp hother'
      rw [htemplate, htemplate']
    rw [hother.healed_eq_of_identityOf hother']
    refine ⟨by simp [hsame], fun hback hback' ↦ ?_⟩
    rw [← (encode_eq_ok_iff_writesBack hother').mpr hback, hencode.mpr hback']

/-- A key of a name with a URI, no bytes and a number in it states the wrong kind, and heals to the
key of its identity. -/
theorem stale_key_heals :
    let id : ResourceId := ⟨.composite [.uri ⟨"http://a/"⟩, .composite [.bytes [], .integer 7]],
      "shelf"⟩
    let value := "BQAAACUDAAAACWh0dHA6Ly9hLwUAAAASBAAAAAACAAAACAAAAAAAAAAH"
    let k := ofStored ⟨"shelf", "text", value⟩
    let healed : ResourceKey := ⟨⟨"shelf", "composite", value⟩, some id⟩
    k.Coherent ∧ k.decode = .ok (some id) ∧ k.healed = .ok healed ∧ encode id = .ok healed ∧
      ∀ s, (Graph.find id).on s = (.ok (s.entity? healed.stored), s) := by
  intro id value k healed
  have hk : k.Coherent := coherent_of_decoded_eq_none rfl
  have hdecode : k.decode = .ok (some id) := by decide +kernel
  obtain ⟨found, hfound, -, -, hencode, -, hfind, -⟩ := healed_eq_encode_iff hk hdecode
  have hhealed : k.healed = .ok healed :=
    hk.healed_eq_of_identityOf (hk.decode_eq_some_iff.mp hdecode)
  obtain rfl := Except.ok.inj (hfound.symm.trans hhealed)
  have hwritten : encode id = .ok healed := by rfl
  exact ⟨hk, hdecode, hhealed, hwritten, hfind.mpr (hencode.mp hwritten)⟩

/-- A URI without its path is read with a path. A key that spells it like this decodes to the
identity of a key that spells the path, does not heal to that key, and does not find what is kept
under it. -/
theorem healed_keeps_spelling :
    let id : ResourceId := ⟨.uri ⟨"http://example.org/"⟩, "book"⟩
    let k := ofStored ⟨"book", "uri", "AwAAABJodHRwOi8vZXhhbXBsZS5vcmc"⟩
    let encoded : ResourceKey := ⟨⟨"book", "uri", "AwAAABNodHRwOi8vZXhhbXBsZS5vcmcv"⟩, some id⟩
    k.decode = .ok (some id) ∧ (ofStored encoded.stored).decode = .ok (some id) ∧
      encode id = .ok encoded ∧ (ofStored encoded.stored).healed = .ok encoded ∧
      ∃ healed, k.healed = .ok healed ∧ (healed == encoded) = false ∧
        ∀ e, let s := StoreState.empty.putEntity encoded.stored e
          (Graph.find id).on s = (.ok (some e), s) ∧ s.entity? healed.stored = none := by
  intro id k encoded
  have hencode : encode id = .ok encoded := by rfl
  have hdecode : k.decode = .ok (some id) := by decide +kernel
  have hdecode' : (ofStored encoded.stored).decode = .ok (some id) := by decide +kernel
  have hhealed {k : ResourceKey} (hk : k.Coherent) (h : k.decode = .ok (some id)) :=
    hk.healed_eq_of_identityOf (hk.decode_eq_some_iff.mp h)
  refine ⟨hdecode, hdecode', hencode, hhealed (coherent_of_decoded_eq_none rfl) hdecode',
    _, hhealed (coherent_of_decoded_eq_none rfl) hdecode, by decide +kernel, fun e ↦ ?_⟩
  have hkey : id.keyed = .ok encoded.stored := keyed_eq_ok_iff_encode.mpr hencode
  refine ⟨?_, ?_⟩
  · rw [find_on_eq_iff.mpr hkey, StoreState.entity?_putEntity_self]
  · rw [StoreState.entity?_putEntity_ne _ _ (by decide)]
    rfl

end ResourceKey

end ResourceKernel
