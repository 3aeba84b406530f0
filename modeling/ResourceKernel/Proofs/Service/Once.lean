import ResourceKernel.Service

/-!
# One configuration

A service may be told to configure itself again and again. What fails leaves nothing behind, so that
the next call finds the service as fresh as the first did. What succeeds is published, and whatever
is called afterwards is refused and leaves it as it is.
-/

namespace ResourceKernel

/-- What a service is told to configure itself with. -/
structure ConfigureCall where
  roots : List HandlerId
  instances : List Handler
  deriving DecidableEq, Repr

namespace TemplateService

def call (s : TemplateService) (c : ConfigureCall) : Result Unit × TemplateService :=
  s.configureOnce c.roots c.instances

def after (s : TemplateService) (calls : List ConfigureCall) : TemplateService :=
  calls.foldl (fun s c ↦ (s.call c).2) s

/-- Nothing can be looked up. -/
structure Unready (s : TemplateService) : Prop where
  isConfigured : s.isConfigured = false
  library : s.library = .error ↑StateFault.notConfigured
  graphLibrary : s.graphLibrary = .error ↑StateFault.notConfigured
  templateOfHandler (h : HandlerId) : s.templateOfHandler h = .error ↑StateFault.notConfigured
  templateOfId (id : TemplateId) : s.templateOfId id = .error ↑StateFault.notConfigured
  templateOfIdAs (id : TemplateId) (expected : TemplateKind) :
    s.templateOfIdAs id expected = .error ↑StateFault.notConfigured
  handler (h : HandlerId) : s.handler h = .error ↑StateFault.notConfigured
  handlers : s.handlers = .error ↑StateFault.notConfigured

/-- A configuration is what everything is looked up in. -/
structure Publishes (s : TemplateService) (c : Configuration) : Prop where
  isConfigured : s.isConfigured = true
  library : s.library = .ok c.library
  graphLibrary : s.graphLibrary = .ok c.library
  templateOfHandler (h : HandlerId) : s.templateOfHandler h = .ok (c.library.findByHandler? h)
  templateOfId (id : TemplateId) : s.templateOfId id = .ok (c.library.find? id)
  templateOfIdAs (id : TemplateId) (expected : TemplateKind) :
    s.templateOfIdAs id expected = (c.library.findAs id expected).mapError .graph
  handler (h : HandlerId) : s.handler h = .ok (c.handlers.find? h)
  handlers : s.handlers = .ok c.handlers.values

theorem unready_ofCatalog (catalog : HandlerCatalog) : (ofCatalog catalog).Unready :=
  ⟨rfl, rfl, rfl, fun _ ↦ rfl, fun _ ↦ rfl, fun _ _ ↦ rfl, fun _ ↦ rfl, rfl⟩

theorem publishes_of_configuration (catalog : HandlerCatalog) (c : Configuration) :
    Publishes ⟨catalog, some c⟩ c := by
  refine ⟨rfl, rfl, rfl, fun _ ↦ rfl, fun _ ↦ rfl, fun id expected ↦ ?_, fun _ ↦ rfl, rfl⟩
  have hlibrary : library ⟨catalog, some c⟩ = .ok c.library := rfl
  rw [templateOfIdAs, hlibrary]
  simp only [bind, Except.bind]
  cases c.library.findAs id expected <;> rfl

variable {s : TemplateService} {catalog : HandlerCatalog}

/-! ## One call -/

theorem call_of_isConfigured (h : s.isConfigured = true) (c : ConfigureCall) :
    s.call c = (.error ↑StateFault.configured, s) :=
  if_pos h

/-- A fresh service stays as it is, or publishes what the call has led to. -/
inductive FreshCall (catalog : HandlerCatalog) (c : ConfigureCall) :
    Result Unit × TemplateService → Prop
  | failed {fault : KernelError}
      (h : configurationOf catalog c.roots c.instances = .error fault) :
      FreshCall catalog c (.error fault, ofCatalog catalog)
  | published {configuration : Configuration}
      (h : configurationOf catalog c.roots c.instances = .ok configuration) :
      FreshCall catalog c (.ok (), ⟨catalog, some configuration⟩)

theorem freshCall (catalog : HandlerCatalog) (c : ConfigureCall) :
    FreshCall catalog c ((ofCatalog catalog).call c) := by
  have hfresh : ¬(ofCatalog catalog).isConfigured = true := Bool.false_ne_true
  unfold call configureOnce
  rw [if_neg hfresh]
  cases h : configurationOf (ofCatalog catalog).catalog c.roots c.instances with
  | error fault => exact .failed h
  | ok configuration => exact .published h

/-- A call that fails leaves a fresh service as fresh as it was. -/
theorem call_of_fails {c : ConfigureCall} {fault : KernelError}
    (h : ((ofCatalog catalog).call c).1 = .error fault) :
    ((ofCatalog catalog).call c).2 = ofCatalog catalog := by
  have hcall := freshCall catalog c
  generalize (ofCatalog catalog).call c = answered at h hcall ⊢
  cases hcall with
  | failed => rfl
  | published => cases h

theorem publishes_of_succeeds {c : ConfigureCall} (h : ((ofCatalog catalog).call c).1 = .ok ()) :
    ∃ configuration, configurationOf catalog c.roots c.instances = .ok configuration ∧
      ((ofCatalog catalog).call c).2.Publishes configuration := by
  have hcall := freshCall catalog c
  generalize (ofCatalog catalog).call c = answered at h hcall ⊢
  cases hcall with
  | failed => cases h
  | published hconfiguration => exact ⟨_, hconfiguration, publishes_of_configuration _ _⟩

/-! ## Many calls -/

theorem after_append (s : TemplateService) (calls more : List ConfigureCall) :
    s.after (calls ++ more) = (s.after calls).after more :=
  List.foldl_append

theorem after_of_isConfigured (h : s.isConfigured = true) (calls : List ConfigureCall) :
    s.after calls = s := by
  induction calls with
  | nil => rfl
  | cons c calls ih =>
      change (s.call c).2.after calls = s
      rw [call_of_isConfigured h]
      exact ih

theorem after_of_fails {calls : List ConfigureCall}
    (h : ∀ c ∈ calls, ∃ fault, ((ofCatalog catalog).call c).1 = .error fault) :
    (ofCatalog catalog).after calls = ofCatalog catalog := by
  induction calls with
  | nil => rfl
  | cons c calls ih =>
      obtain ⟨⟨fault, hfault⟩, hcalls⟩ := List.forall_mem_cons.mp h
      change ((ofCatalog catalog).call c).2.after calls = ofCatalog catalog
      rw [call_of_fails hfault]
      exact ih hcalls

/-- Whatever calls have been made before, as long as each of them would have failed on a fresh
service, nothing can be looked up, and a call answers as on a fresh service: it fails and leaves it
at that, or it succeeds and publishes its configuration. Once a call has succeeded, every call is
refused, and the service stays as the first success has left it. -/
theorem configured_by_first_success (catalog : HandlerCatalog) (before : List ConfigureCall)
    (c : ConfigureCall) :
    let fresh := ofCatalog catalog
    let s := fresh.after before
    ((∀ b ∈ before, ∃ fault, (fresh.call b).1 = .error fault) →
      s.Unready ∧ (s.call c).1 = (fresh.call c).1 ∧
      ((∃ fault, (fresh.call c).1 = .error fault) → (s.call c).2.Unready) ∧
      ((fresh.call c).1 = .ok () →
        ∃ configuration, configurationOf catalog c.roots c.instances = .ok configuration ∧
          (s.call c).2.Publishes configuration)) ∧
    ∀ earlier first later, before = earlier ++ first :: later →
      (∀ b ∈ earlier, ∃ fault, (fresh.call b).1 = .error fault) → (fresh.call first).1 = .ok () →
      (s.call c).1 = .error ↑StateFault.configured ∧ (s.call c).2 = (fresh.call first).2 ∧
      ∃ configuration, configurationOf catalog first.roots first.instances = .ok configuration ∧
        (s.call c).2.Publishes configuration := by
  intro fresh s
  constructor
  · intro hbefore
    have hfresh : s = fresh := after_of_fails hbefore
    rw [hfresh]
    refine ⟨unready_ofCatalog catalog, rfl, ?_, publishes_of_succeeds⟩
    rintro ⟨fault, hfault⟩
    rw [call_of_fails hfault]
    exact unready_ofCatalog catalog
  · rintro earlier first later rfl hearlier hfirst
    obtain ⟨configuration, hconfiguration, hpublishes⟩ := publishes_of_succeeds hfirst
    have hs : s = (fresh.call first).2 := by
      change fresh.after (earlier ++ first :: later) = (fresh.call first).2
      rw [after_append, after_of_fails hearlier]
      exact after_of_isConfigured hpublishes.isConfigured later
    rw [hs, call_of_isConfigured hpublishes.isConfigured]
    exact ⟨rfl, rfl, configuration, hconfiguration, hpublishes⟩

/-- A catalog of books, and of covers that cannot be made. -/
def paperless : HandlerCatalog :=
  ⟨.ofList [("Books", { HandlerClass.ofKind "Books" .resource { id := "book" } with
      constructor? := some (.ok ⟨"Books", .forResource⟩) }),
    ("Covers", { HandlerClass.ofKind "Covers" .resource { id := "cover" } with
      constructor? := some (.error "no paper") })]⟩

/-- Books are configured after it has been found out that covers cannot be made, and then nothing
else, not even what a fresh service would accept. -/
theorem books_stay_configured :
    let fresh := ofCatalog paperless
    let s := fresh.after [⟨["Covers"], []⟩, ⟨["Books"], []⟩, ⟨["Covers"], []⟩]
    (fresh.call ⟨["Covers"], []⟩).1 =
        .error (.handlerInstantiation "Covers" (.of (.note "no paper"))) ∧
      (fresh.call ⟨["Books"], []⟩).1 = .ok () ∧ (fresh.call ⟨[], []⟩).1 = .ok () ∧
      (s.call ⟨[], []⟩).1 = .error ↑StateFault.configured ∧
      (s.call ⟨[], []⟩).2 = (fresh.call ⟨["Books"], []⟩).2 := by
  intro fresh s
  have hcovers : (fresh.call ⟨["Covers"], []⟩).1 =
      .error (.handlerInstantiation "Covers" (.of (.note "no paper"))) := by rfl
  have hbooks : (fresh.call ⟨["Books"], []⟩).1 = .ok () := by rfl
  have hearlier : ∀ b ∈ [(⟨["Covers"], []⟩ : ConfigureCall)],
      ∃ fault, (fresh.call b).1 = .error fault := by
    intro b hb
    obtain rfl := List.mem_singleton.mp hb
    exact ⟨_, hcovers⟩
  obtain ⟨hrefused, hsame, -⟩ := (configured_by_first_success paperless _ ⟨[], []⟩).2
    [⟨["Covers"], []⟩] ⟨["Books"], []⟩ [⟨["Covers"], []⟩] rfl hearlier hbooks
  exact ⟨hcovers, hbooks, by rfl, hrefused, hsame⟩

end TemplateService

end ResourceKernel
