import ResourceKernel.Proofs.Text.Blank
import ResourceKernel.Uri.Reader

/-!
# URIs that grow as they are read

After a scheme that has no hosts, a path that does not begin with a slash is one text. Reading
encodes the control characters in it and keeps the rest, so the URI that is read can have three
times the bytes of the text it was read from.
-/

namespace ResourceKernel

open Text

theorem Text.Utf8.encode_ofList (cs : List Char) :
    Utf8.encode (String.ofList cs) = cs.flatMap String.utf8EncodeChar := by
  have hbytes : (String.ofList cs).toByteArray = cs.utf8Encode := by simp
  rw [Utf8.encode, hbytes]
  simp [List.utf8Encode]

namespace Uri

variable {scheme : String} {path : List Char}

def urn (path : List Char) : String := String.ofList ('u' :: 'r' :: 'n' :: ':' :: path)

theorem length_encode_urn :
    (Utf8.encode (urn path)).length = 4 + (path.flatMap String.utf8EncodeChar).length := by
  have hfour : (['u', 'r', 'n', ':'].flatMap String.utf8EncodeChar).length = 4 := by decide
  rw [urn, Utf8.encode_ofList, ← hfour, ← List.length_append, ← List.flatMap_append]
  rfl

theorem isBreak_eq_false_of_isMargin {c : Char} (h : isMargin c = false) : isBreak c = false := by
  have hne : c ≠ '\t' ∧ c ≠ '\n' ∧ c ≠ '\r' := by
    refine ⟨?_, ?_, ?_⟩ <;> (rintro rfl; simp [isMargin] at h)
  simp [isBreak, hne]

theorem readOther_rootless (hslash : path.head? ≠ some '/')
    (hend : ∀ c ∈ path, endsPath c = false) :
    readOther scheme path =
      .ok ⟨scheme, none, .rootless (String.ofList (percentEncode isControl path)), none, none⟩ := by
  have htake : path.takeWhile (fun c ↦ !endsPath c) = path :=
    List.takeWhile_eq_self_iff.mpr fun c hc ↦ by simp [hend c hc]
  have hdrop : path.dropWhile (fun c ↦ !endsPath c) = [] :=
    List.dropWhile_eq_nil_iff.mpr fun c hc ↦ by simp [hend c hc]
  unfold readOther
  split
  · simp at hslash
  · simp at hslash
  · simp only [htake, hdrop]
    rfl

theorem ofText_urn (hslash : path.head? ≠ some '/')
    (hpath : ∀ c ∈ path, endsPath c = false ∧ isMargin c = false) :
    ofText (urn path) = .ok ⟨urn (percentEncode isControl path)⟩ := by
  have hmargin : ∀ c ∈ 'u' :: 'r' :: 'n' :: ':' :: path, isMargin c = false := by
    simp only [List.forall_mem_cons]
    exact ⟨by decide, by decide, by decide, by decide, fun c hc ↦ (hpath c hc).2⟩
  have hbreak : ∀ c ∈ 'u' :: 'r' :: 'n' :: ':' :: path, (!isBreak c) = true :=
    fun c hc ↦ by simp [isBreak_eq_false_of_isMargin (hmargin c hc)]
  have hscheme : readScheme ('u' :: 'r' :: 'n' :: ':' :: path) = some ("urn", path) := rfl
  have hkind : SchemeKind.of "urn" = .other := by decide
  have hother : readOther "urn" path = _ :=
    readOther_rootless hslash fun c hc ↦ (hpath c hc).1
  rw [ofText, readParts, urn, String.toList_ofList, stripEnds_eq_self hmargin,
    List.filter_eq_self.mpr hbreak, hscheme]
  simp only [hkind, hother, Except.map, ofParts, Parts.text, pathText]
  congr 2
  apply String.toList_injective
  simp [urn]

/-! ## Delete characters -/

/-- A delete character is one byte, and is written as three. -/
theorem percentEncode_deletes (n : Nat) :
    percentEncode isControl (List.replicate n '\x7f') =
      (List.replicate n ['%', '7', 'F']).flatten := by
  have hone : (Utf8.encode (String.ofList ['\x7f'])).flatMap percentByte = ['%', '7', 'F'] := by
    decide +kernel
  rw [percentEncode, List.flatMap_replicate, ← hone]
  rfl

/-- However long a text is to be, there is one that is read as a URI of nearly three times its
length. -/
theorem exists_ofText_longer (n : Nat) :
    ∃ raw u, ofText raw = .ok u ∧ (Utf8.encode raw).length = 4 + n ∧
      (Utf8.encode u.text).length = 4 + n * 3 := by
  have hpath : ∀ c ∈ List.replicate n '\x7f', endsPath c = false ∧ isMargin c = false := by
    intro c hc
    obtain rfl := List.eq_of_mem_replicate hc
    decide
  have hslash : (List.replicate n '\x7f').head? ≠ some '/' := by
    cases n <;> simp [List.replicate_succ]
  refine ⟨_, _, ofText_urn hslash hpath, ?_, ?_⟩
  · have hone : '\x7f'.utf8Size = 1 := by decide
    simp [length_encode_urn, List.flatMap_def, hone]
  · have hthree : '%'.utf8Size + ('7'.utf8Size + 'F'.utf8Size) = 3 := by decide
    simp [length_encode_urn, percentEncode_deletes, List.flatMap_def, hthree]

end Uri

end ResourceKernel
