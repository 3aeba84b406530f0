import ResourceKernel.Error
import ResourceKernel.Proofs.Name.RoundTrip

/-!
# Keys stand for identities

An identity has a key exactly if it has a template and its name can be written. The fields of a
key tell the identity, so that a store keyed by them never takes one resource for another.
-/

namespace ResourceKernel

open Text

namespace ResourceKey

theorem encode_eq_ok_iff {id : ResourceId} {k : ResourceKey} :
    encode id = .ok k ↔ id.templateId ≠ "" ∧ ∃ bs, id.name.toBytes = .ok bs ∧
      k = ⟨⟨id.templateId, id.name.kind.tag, Base64.encode bs⟩, some id⟩ := by
  unfold encode
  by_cases ht : id.templateId = ""
  · simp [ht]
  · have hne : id.templateId.isEmpty = false := by simpa using ht
    cases hb : id.name.toBytes <;> simp [ht, hne, eq_comm]

theorem encode_inj {id other : ResourceId} {k k' : ResourceKey} (h : encode id = .ok k)
    (h' : encode other = .ok k') (hstored : k.stored = k'.stored) : id = other := by
  obtain ⟨-, bs, hbs, rfl⟩ := encode_eq_ok_iff.mp h
  obtain ⟨-, bs', hbs', rfl⟩ := encode_eq_ok_iff.mp h'
  obtain ⟨htemplate, -, hvalue⟩ := StoredKey.mk.inj hstored
  have hbytes : bs = bs' := by
    have := (Base64.decode_encode bs).symm.trans (hvalue ▸ Base64.decode_encode bs')
    exact Option.some.inj this
  obtain ⟨name, templateId⟩ := id
  obtain ⟨name', templateId'⟩ := other
  obtain rfl : templateId = templateId' := htemplate
  obtain rfl : name = name' := Name.toBytes_inj hbs (hbytes ▸ hbs')
  rfl

theorem decode_ofStored_encode {id : ResourceId} {k : ResourceKey} (h : encode id = .ok k)
    (huris : id.name.ReadsBack) : (ofStored k.stored).decode = .ok (some id) := by
  obtain ⟨ht, bs, hbs, rfl⟩ := encode_eq_ok_iff.mp h
  have hne : id.templateId.isEmpty = false := by simpa using ht
  simp only [decode, resourceId, ofStored, StoredKey.isNull, hne, Bool.false_and, identityOf,
    Base64.decode_encode, Name.ofBytes_toBytes hbs huris, Except.map, Bool.false_eq_true, if_false]

/-- An identity can be encoded exactly if it has a template, nothing in its name sits deeper than
the limit, and the content of the name fits its length field. The fields of its key decode to the
identity as long as the URIs in its name read back, and no other identity has an equal key. -/
theorem encode_iff_and_decode_encode (id : ResourceId) :
    ((∃ k, encode id = .ok k) ↔
      id.templateId ≠ "" ∧
        (∀ part level, Name.SitsAt part level id.name → level ≤ Name.maxDepth) ∧
          id.name.contentLength < UInt32.size) ∧
      ∀ k, encode id = .ok k →
        ((∀ u level, Name.SitsAt (.uri u) level id.name → Uri.ofText u.text = .ok u) →
          (ofStored k.stored).decode = .ok (some id)) ∧
        ∀ other k', encode other = .ok k' → (k == k') = true → other = id := by
  refine ⟨?_, fun k hk ↦ ⟨decode_ofStored_encode hk, fun other k' hk' heq ↦ ?_⟩⟩
  · have hname : (∃ bs, id.name.toBytes = .ok bs) ↔
        0 + id.name.depth ≤ Name.maxDepth ∧ id.name.contentLength < UInt32.size :=
      Name.exists_write_iff
    rw [Nat.zero_add, Name.depth_le_iff] at hname
    rw [← hname]
    constructor
    · rintro ⟨k, hk⟩
      obtain ⟨ht, bs, hbs, -⟩ := encode_eq_ok_iff.mp hk
      exact ⟨ht, bs, hbs⟩
    · rintro ⟨ht, bs, hbs⟩
      exact ⟨_, encode_eq_ok_iff.mpr ⟨ht, bs, hbs, rfl⟩⟩
  · have hstored : k.stored = k'.stored := by simpa [BEq.beq] using heq
    exact (encode_inj hk hk' hstored).symm

/-- A nested name with a URI, no bytes and no text in it goes into a key and comes back. -/
theorem decode_encode_nested :
    let id : ResourceId := ⟨.composite [.uri ⟨"http://example.org/a"⟩,
      .composite [.bytes [], .text ""]], "shelf"⟩
    ∃ k, encode id = .ok k ∧ (ofStored k.stored).decode = .ok (some id) ∧
      ∀ other k', encode other = .ok k' → (k == k') = true → other = id := by
  intro id
  have hdepth : id.name.depth ≤ Name.maxDepth := by decide
  have hreads : Uri.ofText "http://example.org/a" = .ok ⟨"http://example.org/a"⟩ := by rfl
  have huris : ∀ u level, Name.SitsAt (.uri u) level id.name → Uri.ofText u.text = .ok u := by
    intro u level hsits
    cases hsits with
    | inside hmem hinner =>
        simp only [List.mem_cons, List.not_mem_nil, or_false] at hmem
        rcases hmem with rfl | rfl
        · cases hinner
          exact hreads
        · cases hinner with
          | inside hmem hinner =>
              simp only [List.mem_cons, List.not_mem_nil, or_false] at hmem
              rcases hmem with rfl | rfl <;> cases hinner
  obtain ⟨k, hk⟩ := (encode_iff_and_decode_encode id).1.mpr
    ⟨by decide, Name.depth_le_iff.mp hdepth, by decide⟩
  obtain ⟨hdecode, hother⟩ := (encode_iff_and_decode_encode id).2 k hk
  exact ⟨k, hk, hdecode huris, hother⟩

end ResourceKey

namespace ResourceId

theorem keyed_eq_ok_iff {id : ResourceId} {key : StoredKey} :
    id.keyed = .ok key ↔ ∃ k, ResourceKey.encode id = .ok k ∧ k.stored = key := by
  unfold keyed ResourceId.key
  cases ResourceKey.encode id <;> simp [Except.map]

/-- Two identities never share a key. -/
theorem keyed_inj {id other : ResourceId} {key : StoredKey} (h : id.keyed = .ok key)
    (h' : other.keyed = .ok key) : id = other := by
  obtain ⟨k, hk, hstored⟩ := keyed_eq_ok_iff.mp h
  obtain ⟨k', hk', hstored'⟩ := keyed_eq_ok_iff.mp h'
  exact ResourceKey.encode_inj hk hk' (hstored.trans hstored'.symm)

end ResourceId

end ResourceKernel
