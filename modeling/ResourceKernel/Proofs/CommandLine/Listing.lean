import ResourceKernel.CommandLine.Run
import ResourceKernel.Proofs.CommandLine.Answer
import ResourceKernel.Proofs.Config.Service
import ResourceKernel.Proofs.Library.Closed

/-!
# Listed templates

Whatever template is listed is in the library under its identifier, and the template of its members
is too. So what is told of it when it is shown is what has been told in the listing and more, if it
can be asked for: a handler type may have blanks inside of its template identifier, and these the
command line refuses.
-/

namespace ResourceKernel

namespace CommandLine

variable {read : String → Except FileFault (List UInt8)} {config : Option String}
  {session : Session}

theorem ofResult_ok {α : Type} (a : α) : ofResult (.ok a) = .ok a := rfl

theorem bootstrap_of_service {path : String} {config : KernelConfig} {service : TemplateService}
    (hread : readConfig read path = .ok config) (hservice : config.service = .ok service) :
    Session.bootstrap read (some path) = .ok ⟨path, service⟩ := by
  simp only [Session.bootstrap, hread, hservice, ofResult_ok, bind, Except.bind]
  rfl

theorem exists_path_of_bootstrap (h : Session.bootstrap read config = .ok session) :
    ∃ path, config = some path := by
  cases config with
  | none => cases h
  | some path => exact ⟨path, rfl⟩

theorem exists_library_of_bootstrap (h : Session.bootstrap read config = .ok session) :
    ∃ catalog roots, ∃ s : Loader, s.Finished catalog roots ∧
      session.service.library = .ok s.library ∧
      ∀ id, session.service.templateOfId id = .ok (s.library.find? id) := by
  cases config with
  | none => cases h
  | some path =>
      obtain ⟨config, -, h⟩ := bind_eq_ok_iff.mp h
      obtain ⟨service, hservice, h⟩ := bind_eq_ok_iff.mp h
      obtain rfl := Except.ok.inj h
      obtain ⟨catalog, configuration, s, -, hpublishes, hs, hlibrary⟩ :=
        KernelConfig.exists_finished_of_service (mapError_eq_ok_iff.mp hservice)
      refine ⟨catalog, config.effectiveRoots, s, hs, ?_⟩
      rw [← hlibrary]
      exact ⟨hpublishes.library, hpublishes.templateOfId⟩

/-! ## Listing and showing -/

theorem checkId_of_trim {id : String} (htrim : Text.trim id = id) (hne : id ≠ "") :
    checkId id = if id.toList.any Text.isBlank then .error (.spacedId id) else .ok id := by
  have hempty : id.isEmpty = false := by simpa using hne
  simp only [checkId, htrim, hempty, Bool.false_eq_true, if_false]

theorem answer_templates {library : TemplateLibrary} (h : session.service.library = .ok library) :
    session.answer .templates = .ok (.templates (library.templates.map (.of library))) := by
  simp only [Session.answer, h, ofResult_ok]
  rfl

theorem answer_template {id : TemplateId} {t : Template}
    (hid : checkId id = .ok id) (ht : session.service.templateOfId id = .ok (some t)) :
    session.answer (.template id) = .ok (.template (.of t)) := by
  simp only [Session.answer, hid, ht, ofResult_ok, bind, Except.bind]
  rfl

theorem answer_template_of_refused {id : String} {fault : CommandFault}
    (hid : checkId id = .error fault) : session.answer (.template id) = .error fault := by
  simp only [Session.answer, hid, bind, Except.bind]

/-! ## Asking -/

theorem wordOf_config (path : String) :
    Word.of ("--config=" ++ path) = .long "config" (some path) := by
  simp [Word.of, String.toList_append]

theorem eq_of_wordOf {word s : String} (h : Word.of word = .plain s) : s = word := by
  unfold Word.of at h
  split at h
  · cases h
  · dsimp only at h
    split at h <;> cases h
  · exact (Word.plain.inj h).symm
  · cases h
  · exact (Word.plain.inj h).symm

theorem wordOf_of_isValue {word : String} (h : isValue word = true) :
    Word.of word = .plain word := by
  unfold isValue at h
  split at h
  · next s hplain =>
    obtain rfl := eq_of_wordOf hplain
    exact hplain
  · cases h

theorem readOptions_of_isValue (o : Options) {word : String} (h : isValue word = true)
    (rest : List String) : readOptions o (word :: rest) = .ok ⟨o, some word, false, rest⟩ := by
  unfold readOptions
  rw [wordOf_of_isValue h]

/-- The arguments that name a configuration, ask for JSON or for lines, and give a command. -/
def arguments (path : String) (json : Bool) (command : List String) : List String :=
  ("--config=" ++ path) :: ((if json then ["--json"] else []) ++ command)

/-- The commands that ask for a template. After the divider an identifier is taken as it is, also
one that looks like an option. -/
inductive AsksFor (id : String) : List String → Prop
  | divided : AsksFor id ["template", "--", id]
  | plain (h : isValue id = true) : AsksFor id ["template", id]

theorem readOptions_arguments (path : String) (json : Bool) {name : String}
    (hname : isValue name = true) (words : List String) :
    readOptions {} (arguments path json (name :: words)) =
      .ok ⟨{ config := some path, json := json }, some name, false, words⟩ := by
  have hjson : Word.of "--json" = .long "json" none := by decide +kernel
  cases json <;>
    simp [arguments, readOptions, wordOf_config, hjson, readOptions_of_isValue _ hname,
      Options.setConfig, Options.setJson, bind, Except.bind]

theorem ofArguments_templates (path : String) (json : Bool) :
    Invocation.ofArguments (arguments path json ["templates"]) =
      .ok ⟨{ config := some path, json := json }, .templates⟩ := by
  have hname : isValue "templates" = true := by decide +kernel
  simp [Invocation.ofArguments, readOptions_arguments path json hname, readCommand,
    readOnlyOptions, readOptions, Options.merge, bind, Except.bind, pure, Except.pure]

theorem readOneWord_of_asksFor {id : String} {words : List String}
    (h : AsksFor id ("template" :: words)) : readOneWord words = .ok (id, {}) := by
  cases h with
  | divided =>
      have hdivider : Word.of "--" = .divider := by decide +kernel
      simp [readOneWord, readOptions, hdivider, bind, Except.bind]
  | plain hid =>
      simp [readOneWord, readOnlyOptions, readOptions, readOptions_of_isValue _ hid, bind,
        Except.bind, pure, Except.pure]

theorem ofArguments_template (path : String) (json : Bool) {id : String} {command : List String}
    (h : AsksFor id command) :
    Invocation.ofArguments (arguments path json command) =
      .ok ⟨{ config := some path, json := json }, .template id⟩ := by
  have hname : isValue "template" = true := by decide +kernel
  obtain ⟨words, rfl⟩ : ∃ words, command = "template" :: words := by
    cases h <;> exact ⟨_, rfl⟩
  simp [Invocation.ofArguments, readOptions_arguments path json hname, readCommand,
    readOneWord_of_asksFor h, Options.merge, bind, Except.bind, pure, Except.pure]

section Run

variable {path : String} {json : Bool} {id : String} {command : List String}
  (h : Session.bootstrap read (some path) = .ok session)

include h

theorem run_templates {a : Answer} (ha : session.answer .templates = .ok a) :
    run read (arguments path json ["templates"]) = .answered json a := by
  simp [run, ofArguments_templates, Invocation.run, h, ha, bind, Except.bind]

theorem run_template {a : Answer} (hcommand : AsksFor id command)
    (ha : session.answer (.template id) = .ok a) :
    run read (arguments path json command) = .answered json a := by
  simp [run, ofArguments_template path json hcommand, Invocation.run, h, ha, bind, Except.bind]

theorem run_template_of_refused {fault : CommandFault} (hcommand : AsksFor id command)
    (ha : session.answer (.template id) = .error fault) :
    run read (arguments path json command) = .failed fault := by
  simp [run, ofArguments_template path json hcommand, Invocation.run, h, ha, bind, Except.bind]

end Run

/-- Every template that is listed is shown with what the listing tells of it, unless there are
blanks in its identifier. If there are, the identifier is refused. -/
theorem shown_as_listed (h : Session.bootstrap read config = .ok session) :
    ∃ path summaries, config = some path ∧
      session.answer .templates = .ok (.templates summaries) ∧
      (∀ json, run read (arguments path json ["templates"]) =
        .answered json (.templates summaries)) ∧
      Answer.listed? (Answer.templates summaries).toJson = some summaries ∧
      ∀ s ∈ summaries,
        ((∀ c ∈ s.id.toList, Text.isBlank c = false) →
          ∃ d, session.answer (.template s.id) = .ok (.template d) ∧
            (∀ json command, AsksFor s.id command →
              run read (arguments path json command) = .answered json (.template d)) ∧
            d.id = s.id ∧ d.kind = s.kind ∧ d.handler = s.handler ∧
            d.memberTemplate = s.memberTemplate ∧
            Answer.shown? (Answer.template d).toJson = some s ∧
            Answer.opening s d.name d.description d.memberPath <+: (Answer.template d).lines) ∧
        ∀ c ∈ s.id.toList, Text.isBlank c = true →
          session.answer (.template s.id) = .error (.spacedId s.id) ∧
            ∀ json command, AsksFor s.id command →
              let ending := run read (arguments path json command)
              ending = .failed (.spacedId s.id) ∧ ending.status.code = 64 := by
  obtain ⟨catalog, roots, loader, hloader, hlibrary, hfind⟩ := exists_library_of_bootstrap h
  obtain ⟨path, rfl⟩ := exists_path_of_bootstrap h
  have hlisted := answer_templates hlibrary
  refine ⟨path, _, rfl, hlisted, fun json ↦ run_templates h hlisted, Answer.listed?_toJson _,
    fun s hs ↦ ?_⟩
  obtain ⟨t, ht, rfl⟩ := List.mem_map.mp hs
  obtain ⟨htrim, hne⟩ := hloader.trim_id ht
  have hcheck := checkId_of_trim htrim hne
  constructor
  · intro hblank
    have hany : t.id.toList.any Text.isBlank = false := by
      rw [List.any_eq_false]
      intro c hc
      rw [hblank c hc]
      exact Bool.false_ne_true
    rw [hany, if_neg Bool.false_ne_true] at hcheck
    have hfound : session.service.templateOfId t.id = .ok (some t) := by
      rw [hfind, hloader.find?_of_mem_templates ht]
    have hanswer := answer_template hcheck hfound
    have hsummary : (TemplateDetail.of t).summary = .of loader.library t := by
      rw [TemplateSummary.of, hloader.memberOf?_eq ht]
      rfl
    refine ⟨.of t, hanswer, fun json command hcommand ↦ run_template h hcommand hanswer, rfl, rfl,
      rfl, (hloader.memberOf?_eq ht).symm, ?_, ?_⟩
    · rw [Answer.shown?_toJson, hsummary]
    · rw [← hsummary]
      exact Answer.opening_prefix_lines (.of t)
  · intro c hc hblank
    have hany : t.id.toList.any Text.isBlank = true := List.any_eq_true.mpr ⟨c, hc, hblank⟩
    rw [hany, if_pos rfl] at hcheck
    have hrefused : session.answer (.template t.id) = .error (.spacedId t.id) :=
      answer_template_of_refused hcheck
    refine ⟨hrefused, fun json command hcommand ↦ ?_⟩
    rw [run_template_of_refused h hcommand hrefused]
    exact ⟨rfl, rfl⟩

/-- The same file, whatever path is asked for. -/
def onlyFile (text : String) : String → Except FileFault (List UInt8) :=
  fun _ ↦ .ok (Text.Utf8.encode text)

theorem readConfig_onlyFile {path text : String} {config : KernelConfig}
    (hconfig : KernelConfig.ofText (formatOf path) text = .ok config) :
    readConfig (onlyFile text) path = .ok config := by
  simp only [readConfig, onlyFile, Text.Utf8.decode_encode]
  exact mapError_eq_ok_iff.mpr hconfig

theorem bootstrap_onlyFile {path text : String} {config : KernelConfig}
    {service : TemplateService} (hconfig : KernelConfig.ofText (formatOf path) text = .ok config)
    (hservice : config.service = .ok service) :
    Session.bootstrap (onlyFile text) (some path) = .ok ⟨path, service⟩ :=
  bootstrap_of_service (readConfig_onlyFile hconfig) hservice

/-- A shelf is listed with its books, though the identifier of the books has blanks around it. The
identifier of the shelf looks like an option. -/
theorem shelf_shown_with_books :
    let text := "\x7b\"version\":1,\"handlers\":[" ++
      "\x7b\"handler\":\"Shelves\",\"id\":\"-shelf\",\"kind\":\"container\"," ++
        "\"member_handler\":\"Books\"\x7d," ++
      "\x7b\"handler\":\"Books\",\"id\":\" book \",\"kind\":\"resource\"\x7d]\x7d"
    let shelf : TemplateSummary := ⟨"-shelf", .container, "Shelves", some "book"⟩
    ∃ session, Session.bootstrap (onlyFile text) (some "ldp.json") = .ok session ∧
      session.answer .templates =
        .ok (.templates [shelf, ⟨"book", .resource, "Books", none⟩]) ∧
      ∃ d, run (onlyFile text) ["--config=ldp.json", "--json", "template", "--", "-shelf"] =
          .answered true (.template d) ∧
        d.kind = .container ∧ d.handler = "Shelves" ∧ d.memberTemplate = some "book" ∧
        Answer.shown? (Answer.template d).toJson = some shelf := by
  intro text shelf
  obtain ⟨config, hconfig, service, hservice, hlisted⟩ : ∃ config,
      KernelConfig.ofText (formatOf "ldp.json") text = .ok config ∧ ∃ service,
        config.service = .ok service ∧ (Session.mk "ldp.json" service).answer .templates =
          .ok (.templates [shelf, ⟨"book", .resource, "Books", none⟩]) :=
    ⟨⟨1, [], [⟨"Shelves", some .container, [], [],
        { id := "-shelf", memberHandler := some "Books" }⟩,
      ⟨"Books", some .resource, [], [], { id := " book " }⟩]⟩, by decide +kernel, _, rfl, rfl⟩
  have hsession := bootstrap_onlyFile hconfig hservice
  refine ⟨_, hsession, hlisted, ?_⟩
  obtain ⟨path, summaries, hpath, hsummaries, -, -, hshown⟩ := shown_as_listed hsession
  obtain rfl := Option.some.inj hpath
  obtain rfl := Answer.templates.inj (Except.ok.inj (hlisted.symm.trans hsummaries))
  obtain ⟨d, -, hrun, -, hkind, hhandler, hmember, hjson, -⟩ :=
    (hshown shelf List.mem_cons_self).1 (by simp [shelf, Text.isBlank])
  exact ⟨d, hrun true _ .divided, hkind, hhandler, hmember, hjson⟩

/-- A template that is listed, and refused when it is asked for under its identifier. -/
theorem words_listed_not_shown :
    let text := "\x7b\"version\":1,\"handlers\":[" ++
      "\x7b\"handler\":\"Words\",\"id\":\"two words\",\"kind\":\"resource\"\x7d]\x7d"
    ∃ session, Session.bootstrap (onlyFile text) (some "ldp.json") = .ok session ∧
      session.answer .templates =
        .ok (.templates [⟨"two words", .resource, "Words", none⟩]) ∧
      session.answer (.template "two words") = .error (.spacedId "two words") ∧
      (run (onlyFile text) ["--config=ldp.json", "template", "two words"]).status = .usage := by
  intro text
  obtain ⟨config, hconfig, service, hservice, hlisted, hrefused⟩ : ∃ config,
      KernelConfig.ofText (formatOf "ldp.json") text = .ok config ∧ ∃ service,
        config.service = .ok service ∧ (Session.mk "ldp.json" service).answer .templates =
          .ok (.templates [⟨"two words", .resource, "Words", none⟩]) ∧
        (Session.mk "ldp.json" service).answer (.template "two words") =
          .error (.spacedId "two words") :=
    ⟨⟨1, [], [⟨"Words", some .resource, [], [], { id := "two words" }⟩]⟩, by decide +kernel, _, rfl,
      rfl, rfl⟩
  have hsession := bootstrap_onlyFile hconfig hservice
  have hcommand : AsksFor "two words" ["template", "two words"] := .plain (by decide +kernel)
  have hrun : run (onlyFile text) (arguments "ldp.json" false ["template", "two words"]) =
      .failed (.spacedId "two words") := run_template_of_refused hsession hcommand hrefused
  refine ⟨_, hsession, hlisted, hrefused, ?_⟩
  exact congrArg Ending.status hrun

end CommandLine

end ResourceKernel
