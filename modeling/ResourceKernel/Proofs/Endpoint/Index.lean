import ResourceKernel.Proofs.Kernel.Run

/-!
# The index of live endpoints

Rows stand under their paths, and the live ones are those with a resource. The index leads from the
key of a resource to the live row that publishes it, and to nothing else, so that a resource has at
most one such row and is found by it. Since keys tell identities apart, publishing and deleting one
resource leave the entries of all others alone.
-/

namespace ResourceKernel

namespace EndpointTable

/-- The row at the path is live and names the resource. -/
def Publishes (t : EndpointTable) (path : String) (resource : ResourceId) : Prop :=
  ∃ row, t.byPath.find? path = some row ∧ row.deleted = none ∧ row.resource = some resource

structure Indexed (t : EndpointTable) : Prop where
  path_eq {path : String} {row : Endpoint} (h : t.byPath.find? path = some row) : row.path = path
  deleted_iff {path : String} {row : Endpoint} (h : t.byPath.find? path = some row) :
    row.deleted.isSome = true ↔ row.resource = none
  live_iff (key : StoredKey) (path : String) :
    t.live.find? key = some path ↔
      ∃ resource, t.Publishes path resource ∧ resource.keyed = .ok key

theorem indexed_empty : empty.Indexed where
  path_eq h := by simp [empty] at h
  deleted_iff h := by simp [empty] at h
  live_iff key path := by simp [empty, Publishes]

theorem publishes_putRow (t : EndpointTable) (live : Table StoredKey String) (path : String)
    (row : Endpoint) (other : String) (resource : ResourceId) :
    Publishes ⟨t.byPath.insert path row, live⟩ other resource ↔
      if other = path then row.deleted = none ∧ row.resource = some resource
      else t.Publishes other resource := by
  simp only [Publishes, Table.find?_insert]
  by_cases hother : other = path
  · simp [hother]
  · simp [hother]

namespace Indexed

variable {t : EndpointTable} {path : String} {row : Endpoint} {resource : ResourceId}
  {key : StoredKey}

/-- Two paths at which a resource with a key is published are one entry of the index. -/
theorem path_unique (h : t.Indexed) (hkey : resource.keyed = .ok key) {other : String}
    (hpath : t.Publishes path resource) (hother : t.Publishes other resource) : path = other := by
  have hlive := (h.live_iff key path).mpr ⟨resource, hpath, hkey⟩
  have hlive' := (h.live_iff key other).mpr ⟨resource, hother, hkey⟩
  exact Option.some.inj (hlive.symm.trans hlive')

/-- The parts of the invariant that are about rows alone, after a row has been put. -/
theorem putRow (h : t.Indexed) {live : Table StoredKey String} (hpath : row.path = path)
    (hdeleted : row.deleted.isSome = true ↔ row.resource = none)
    (hlive : ∀ k p, live.find? k = some p ↔
      ∃ r, Publishes ⟨t.byPath.insert path row, live⟩ p r ∧ r.keyed = .ok k) :
    Indexed ⟨t.byPath.insert path row, live⟩ where
  path_eq := by
    intro other found hfound
    rw [Table.find?_insert] at hfound
    split at hfound
    · next hother =>
      obtain rfl := Option.some.inj hfound
      exact hpath.trans hother.symm
    · exact h.path_eq hfound
  deleted_iff := by
    intro other found hfound
    rw [Table.find?_insert] at hfound
    split at hfound
    · obtain rfl := Option.some.inj hfound
      exact hdeleted
    · exact h.deleted_iff hfound
  live_iff := hlive

theorem publish (h : t.Indexed) (hkey : resource.keyed = .ok key)
    (hfree : t.byPath.find? path = none) (hnew : t.live.find? key = none)
    (hpath : row.path = path) (hresource : row.resource = some resource)
    (hdeleted : row.deleted = none) :
    Indexed ⟨t.byPath.insert path row, t.live.insert key path⟩ := by
  have hunused : ∀ r, ¬t.Publishes path r := by
    rintro r ⟨old, hold, -⟩
    rw [hfree] at hold
    cases hold
  have hunpublished : ∀ p, ¬t.Publishes p resource := by
    intro p hp
    have hlive := (h.live_iff key p).mpr ⟨resource, hp, hkey⟩
    rw [hnew] at hlive
    cases hlive
  apply h.putRow hpath
  · simp [hdeleted, hresource]
  intro k p
  simp only [publishes_putRow, Table.find?_insert]
  by_cases hk : k = key <;> by_cases hp : p = path
  · simp [hk, hp, hdeleted, hresource, hkey]
  · -- the key is the key of this resource alone, which has no other row
    have hnone : ¬∃ r, t.Publishes p r ∧ r.keyed = .ok key := by
      rintro ⟨r, hr, hrkey⟩
      obtain rfl := ResourceId.keyed_inj hrkey hkey
      exact hunpublished p hr
    simp [hk, hp, Ne.symm hp, hnone]
  · -- nothing has been published at the path, and now only this resource is
    have hold : t.live.find? k ≠ some path := by
      intro hlive
      obtain ⟨r, hr, -⟩ := (h.live_iff k path).mp hlive
      exact hunused r hr
    have hother : resource.keyed ≠ .ok k := by
      intro hsame
      exact hk (Except.ok.inj (hsame.symm.trans hkey))
    simp [hk, hp, hdeleted, hresource, hold, hother]
  · simp [hk, hp, h.live_iff]

theorem amend (h : t.Indexed) {old : Endpoint} (hold : t.byPath.find? path = some old)
    (hpath : row.path = old.path) (hresource : row.resource = old.resource)
    (hdeleted : row.deleted = old.deleted) :
    Indexed ⟨t.byPath.insert path row, t.live⟩ := by
  apply h.putRow (hpath.trans (h.path_eq hold))
  · rw [hdeleted, hresource]
    exact h.deleted_iff hold
  intro k p
  have hsame : ∀ r, Publishes ⟨t.byPath.insert path row, t.live⟩ p r ↔ t.Publishes p r := by
    intro r
    rw [publishes_putRow]
    by_cases hp : p = path
    · simp [hp, Publishes, hold, hdeleted, hresource]
    · simp [hp]
  simp only [hsame]
  exact h.live_iff k p

theorem retract (h : t.Indexed) {old : Endpoint} (hold : t.byPath.find? path = some old)
    (hlive : old.deleted = none) (hpublished : old.resource = some resource)
    (hkey : resource.keyed = .ok key) (hpath : row.path = old.path)
    (hresource : row.resource = none) (hdeleted : row.deleted.isSome = true) :
    Indexed ⟨t.byPath.insert path row, t.live.erase key⟩ := by
  have hrow : t.Publishes path resource := ⟨old, hold, hlive, hpublished⟩
  apply h.putRow (hpath.trans (h.path_eq hold))
  · simp [hdeleted, hresource]
  intro k p
  simp only [publishes_putRow, Table.find?_erase]
  by_cases hk : k = key <;> by_cases hp : p = path
  · simp [hk, hp, hresource]
  · -- the key is the key of this resource alone, whose only row is the one at the path
    have hnone : ¬∃ r, t.Publishes p r ∧ r.keyed = .ok key := by
      rintro ⟨r, hr, hrkey⟩
      obtain rfl := ResourceId.keyed_inj hrkey hkey
      exact hp (h.path_unique hkey hr hrow)
    simp [hk, hp, hnone]
  · have hother : t.live.find? k ≠ some path := by
      intro hindex
      obtain ⟨r, ⟨found, hfound, -, hr⟩, hrkey⟩ := (h.live_iff k path).mp hindex
      obtain rfl := Option.some.inj (hold.symm.trans hfound)
      obtain rfl := Option.some.inj (hpublished.symm.trans hr)
      exact hk (Except.ok.inj (hrkey.symm.trans hkey))
    simp [hk, hp, hresource, hother]
  · simp [hk, hp, h.live_iff]

/-- The index finds the live row of a resource. -/
theorem publishing?_eq_some_iff (h : t.Indexed) (hkey : resource.keyed = .ok key) :
    t.publishing? key = some row ↔
      t.byPath.find? row.path = some row ∧ row.deleted = none ∧ row.resource = some resource := by
  rw [publishing?, Option.bind_eq_some_iff]
  constructor
  · rintro ⟨path, hlive, hrow⟩
    obtain ⟨r, ⟨found, hfound, hdeleted, hr⟩, hrkey⟩ := (h.live_iff key path).mp hlive
    obtain rfl := ResourceId.keyed_inj hrkey hkey
    obtain rfl := Option.some.inj (hfound.symm.trans hrow)
    exact ⟨(h.path_eq hrow).symm ▸ hrow, hdeleted, hr⟩
  · rintro ⟨hrow, hdeleted, hresource⟩
    have hlive := (h.live_iff key row.path).mpr ⟨resource, ⟨row, hrow, hdeleted, hresource⟩, hkey⟩
    exact ⟨row.path, hlive, hrow⟩

end Indexed

end EndpointTable

theorem Effect.indexed {library : TemplateLibrary} {s t : StoreState} (h : Effect library s t)
    (hs : s.endpoints.Indexed) : t.endpoints.Indexed := by
  cases h with
  | published _ hkey hfree hnew => exact hs.publish hkey hfree hnew rfl rfl rfl
  | amended he =>
      obtain ⟨hrow, -⟩ := EndpointTable.liveAt_eq_ok_iff.mp he
      exact hs.amend hrow rfl rfl rfl
  | retracted he hresource hkey =>
      obtain ⟨hrow, hlive⟩ := EndpointTable.liveAt_eq_ok_iff.mp he
      exact hs.retract hrow hlive hresource hkey rfl rfl rfl
  | _ => exact hs

namespace Kernel

/-- In every state of a run, rows stand under their own paths, and just those that have not been
deleted have a resource. The index has the path of each live row under the key of its resource and
nothing else, no two live rows have the same resource, and whoever looks for an endpoint by a
resource that has a key gets its live row, or nothing if there is none. -/
theorem endpoints_indexed (library : TemplateLibrary) (moves : List Move) :
    ((ofLibrary library).run moves).view.Every fun s ↦
      (∀ path row, s.endpoints.byPath.find? path = some row →
        row.path = path ∧ (row.deleted.isSome = true ↔ row.resource = none)) ∧
      (∀ key path, s.endpoints.live.find? key = some path ↔
        ∃ resource, s.endpoints.Publishes path resource ∧ resource.keyed = .ok key) ∧
      (∀ path other resource, s.endpoints.Publishes path resource →
        s.endpoints.Publishes other resource → path = other) ∧
      ∀ resource key, resource.keyed = .ok key →
        ∃ found, (Directory.findByResource resource).on s = (.ok found, s) ∧
          ∀ row, found = some row ↔ s.endpoints.byPath.find? row.path = some row ∧
            row.deleted = none ∧ row.resource = some resource := by
  have hrun := every_run library (P := fun s ↦ s.endpoints.Indexed) EndpointTable.indexed_empty
    (fun s t h _ hs ↦ h.indexed hs) moves
  apply hrun.imp
  rintro s ⟨hs, h⟩
  refine ⟨fun path row hrow ↦ ⟨h.path_eq hrow, h.deleted_iff hrow⟩, h.live_iff, ?_, ?_⟩
  · intro path other resource hpath hother
    obtain ⟨row, hrow, hdeleted, hresource⟩ := hpath
    obtain ⟨same, key, hsame, hkey⟩ := hs.published hrow hdeleted
    obtain rfl := Option.some.inj (hresource.symm.trans hsame)
    exact h.path_unique hkey ⟨row, hrow, hdeleted, hresource⟩ hother
  · intro resource key hkey
    refine ⟨s.endpoints.publishing? key, ?_, fun row ↦ h.publishing?_eq_some_iff hkey⟩
    simp only [Directory.findByResource, Operation.on_ok, Edit.query, hkey, Except.map]

/-- A book that has been published, withdrawn and published again elsewhere is found at its new
path. The row at the old path stays, and is no longer found. -/
theorem found_where_published_again :
    let book : ResourceId := ⟨.text "b", "book"⟩
    let tag : EntityTag := ⟨"v1", false⟩
    let moves : List Move := [.begin "reader" "t", .change "t" (.publish "/old" book 1 tag),
      .commit "t", .begin "reader" "u", .change "u" (.retract "/old" 2),
      .change "u" (.publish "/new" book 3 tag), .commit "u"]
    let k := (ofLibrary .shelves).run moves
    (k.committed.endpoints.byPath.find? "/old").map Endpoint.deleted = some (some 2) ∧
      k.committed.endpoints.Publishes "/new" book ∧
      ∃ row, (Directory.findByResource book).on k.committed = (.ok (some row), k.committed) ∧
        row.path = "/new" := by
  intro book tag moves k
  have hkey : book.keyed = .ok ⟨"book", "text", "AQAAAAFi"⟩ := by rfl
  have hold : (k.committed.endpoints.byPath.find? "/old").map Endpoint.deleted = some (some 2) := by
    decide +kernel
  have hnew : k.committed.endpoints.byPath.find? "/new" =
      some ⟨"/new", some book, 3, none, tag, 3⟩ := by
    decide +kernel
  have hall : k.view.Every _ := endpoints_indexed .shelves moves
  clear_value k
  obtain ⟨found, hanswer, hfound⟩ := hall.committed.2.2.2 book _ hkey
  obtain rfl := (hfound ⟨"/new", some book, 3, none, tag, 3⟩).mpr ⟨hnew, rfl, rfl⟩
  exact ⟨hold, ⟨_, hnew, rfl, rfl⟩, _, hanswer, rfl⟩

end Kernel

end ResourceKernel
