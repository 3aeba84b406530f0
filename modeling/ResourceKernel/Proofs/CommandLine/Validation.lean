import ResourceKernel.Proofs.CommandLine.Listing

/-!
# Validated configurations

Once a configuration has been read, it is found to be good, or its templates are found to be bad.
Nothing else can be found out about it, and the exit code tells the one from the other.
-/

namespace ResourceKernel.CommandLine

variable {read : String → Except FileFault (List UInt8)} {path : String} {args : List String}
  {config : KernelConfig} {service : TemplateService} {i : Invocation}

theorem bootstrap_of_fails {fault : KernelError} (hread : readConfig read path = .ok config)
    (hfails : config.service = .error fault) :
    Session.bootstrap read (some path) = .error (.kernel fault) := by
  simp only [Session.bootstrap, hread, hfails, ofResult_ok, bind, Except.bind]
  rfl

theorem exists_answer_validate (path : String) {configuration : Configuration}
    (hpublishes : service.Publishes configuration) :
    ∃ a, Session.answer ⟨path, service⟩ .validate = .ok a := by
  simp only [Session.answer, hpublishes.library, hpublishes.handlers, ofResult_ok]
  exact ⟨_, rfl⟩

section Validate

variable (hargs : Invocation.ofArguments args = .ok i) (hcommand : i.command = .validate)
  (hpath : i.options.config = some path) (hread : readConfig read path = .ok config)

include hargs hcommand hpath hread

theorem status_validate_of_service (hservice : config.service = .ok service) :
    (run read args).status = .ok := by
  obtain ⟨_, configuration, _, -, hpublishes, -⟩ :=
    KernelConfig.exists_finished_of_service hservice
  obtain ⟨a, ha⟩ := exists_answer_validate path hpublishes
  have hanswered : i.run read = .ok a := by
    rw [Invocation.run, hcommand, hpath, bootstrap_of_service hread hservice]
    exact ha
  simp only [run, hargs, hanswered]
  rfl

theorem status_validate_of_fails {cause : Told TemplateFault}
    (hfails : config.service = .error (.templateCreation cause)) :
    (run read args).status = .data := by
  have hfailed : i.run read = .error (.kernel (.templateCreation cause)) := by
    rw [Invocation.run, hcommand, hpath, bootstrap_of_fails hread hfails]
    rfl
  simp only [run, hargs, hfailed]
  rfl

end Validate

/-- A service can be made of a configuration, or else a template cannot be created; nothing else can
go wrong, and to validate it is to find this out. The library of the service has one template for
each entry if no roots are named, and else for each entry that the roots lead to. -/
theorem good_or_bad_templates (config : KernelConfig) :
    ((∃ service, config.service = .ok service) ∨
        ∃ cause, config.service = .error (.templateCreation cause)) ∧
      (∀ service, config.service = .ok service → ∃ catalog library,
        config.catalog = .ok catalog ∧ service.library = .ok library ∧
          (config.roots = [] → catalog.OneEach (· ∈ config.handlers) library ∧
            library.size = config.handlers.length) ∧
          (config.roots ≠ [] → catalog.OneEach config.Leads library)) ∧
      ∀ read path args i, readConfig read path = .ok config →
        Invocation.ofArguments args = .ok i → i.command = .validate →
        i.options.config = some path →
          (∃ service, config.service = .ok service) ∧ (run read args).status.code = 0 ∨
            (∃ cause, config.service = .error (.templateCreation cause)) ∧
              (run read args).status.code = 65 := by
  have hcases := BlamesTemplates.iff_ok_or.mp config.blamesTemplates_service
  refine ⟨hcases, fun service hservice ↦ ?_, fun read path args i hread hargs hcommand hpath ↦ ?_⟩
  · obtain ⟨catalog, configuration, s, hcatalog, hpublishes, hs, hlibrary⟩ :=
      KernelConfig.exists_finished_of_service hservice
    refine ⟨catalog, s.library, hcatalog, hlibrary ▸ hpublishes.library, fun hroots ↦ ?_,
      fun hroots ↦ ?_⟩
    · refine ⟨KernelConfig.oneEach_of_reaches_iff hcatalog hs (fun e he ↦ he) fun h ↦ ?_,
        KernelConfig.size_library_of_roots_eq_nil hcatalog hs hroots⟩
      exact KernelConfig.reaches_iff_of_roots_eq_nil hcatalog hs hroots
    · refine KernelConfig.oneEach_of_reaches_iff hcatalog hs (fun e he ↦ he.mem) fun h ↦ ?_
      exact KernelConfig.reaches_iff_of_roots_ne_nil hcatalog hs hroots
  · obtain ⟨service, hservice⟩ | ⟨cause, hcause⟩ := hcases
    · have hstatus := status_validate_of_service hargs hcommand hpath hread hservice
      exact Or.inl ⟨⟨service, hservice⟩, congrArg ExitStatus.code hstatus⟩
    · have hstatus := status_validate_of_fails hargs hcommand hpath hread hcause
      exact Or.inr ⟨⟨cause, hcause⟩, congrArg ExitStatus.code hstatus⟩

/-- Shelves of books, and something that they do not lead to. -/
def shelvesAndSpare (roots : List String) : KernelConfig where
  version := 1
  roots := roots
  handlers := [
    ⟨"Shelves", some .container, [], [], { id := "shelf", memberHandler := some "Books" }⟩,
    ⟨"Books", some .resource, [], [], { id := "book" }⟩,
    ⟨"Spare", some .resource, [], [], { id := "spare" }⟩]

/-- Without roots all three have templates, with a root those that it leads to. A root of which
nothing is declared is bad. -/
theorem shelves_good_covers_bad :
    let code (config : KernelConfig) := (run (onlyFile config.toJson.render)
      ["--config=ldp.json", "validate"]).status.code
    (∃ (catalog : HandlerCatalog) (library : TemplateLibrary),
        catalog.OneEach (· ∈ (shelvesAndSpare []).handlers) library ∧ library.size = 3) ∧
      (∃ (catalog : HandlerCatalog) (library : TemplateLibrary),
        catalog.OneEach (shelvesAndSpare ["Shelves"]).Leads library ∧ library.size = 2) ∧
      code (shelvesAndSpare ["Shelves"]) = 0 ∧ code ⟨1, ["Covers"], []⟩ = 65 := by
  intro code
  have hargs : Invocation.ofArguments ["--config=ldp.json", "validate"] =
      .ok ⟨{ config := some "ldp.json" }, .validate⟩ := by decide +kernel
  have hformat : formatOf "ldp.json" = .json := by decide +kernel
  have hcode {config : KernelConfig}
      (hconfig : KernelConfig.ofText .json config.toJson.render = .ok config) :=
    (good_or_bad_templates config).2.2 _ _ _ _ (readConfig_onlyFile (hformat ▸ hconfig)) hargs
      rfl rfl
  obtain ⟨all, hall⟩ : ∃ service, (shelvesAndSpare []).service = .ok service := ⟨_, rfl⟩
  obtain ⟨some, hsome, hsize⟩ : ∃ service, (shelvesAndSpare ["Shelves"]).service = .ok service ∧
      service.library.map TemplateLibrary.size = .ok 2 := ⟨_, rfl, by decide +kernel⟩
  obtain ⟨cause, hcovers⟩ : ∃ cause, (KernelConfig.mk 1 ["Covers"] []).service =
      .error (.templateCreation cause) := ⟨_, rfl⟩
  obtain ⟨catalog, library, -, -, hrootless, -⟩ := (good_or_bad_templates _).2.1 all hall
  obtain ⟨catalog', library', -, hlibrary', -, hrooted⟩ := (good_or_bad_templates _).2.1 some hsome
  rw [hlibrary'] at hsize
  refine ⟨⟨catalog, library, hrootless rfl⟩,
    ⟨catalog', library', hrooted (by decide), Except.ok.inj hsize⟩, ?_, ?_⟩
  · obtain ⟨-, hgood⟩ | ⟨⟨fault, hbad⟩, -⟩ :=
      @hcode (shelvesAndSpare ["Shelves"]) (by decide +kernel)
    · exact hgood
    · rw [hsome] at hbad
      cases hbad
  · obtain ⟨⟨service, hgood⟩, -⟩ | ⟨-, hbad⟩ := @hcode ⟨1, ["Covers"], []⟩ (by decide +kernel)
    · rw [hcovers] at hgood
      cases hgood
    · exact hbad

end ResourceKernel.CommandLine
