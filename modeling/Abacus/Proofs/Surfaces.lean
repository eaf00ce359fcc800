import Abacus.Proofs.Answers
import Abacus.Proofs.Environment
import Abacus.Proofs.Invocations
import Abacus.Proofs.Typing

/-!
# Surfaces — one calculator behind requests, command lines and keys

An expression is sent in a request, given on a command line, or typed key by key, in a session or on a
command line.  Each way reads, evaluates and shows it with code of its own, and all of them show the same
outcome:

* `Screen.display_compute` — what a screen displays is what the service shows for the outcome;
* `CommandLine.run_evaluate`, `CommandLine.run_keys` — what the two commands report;
* `Service.Request.Evaluates.answer_eq`, `Service.sessionsEndWith_pressAll` — what the service answers;
* `surfaces_agree` — that these are one outcome.
-/

namespace Abacus

/-! ## Traces -/

namespace CommandLine

variable {setup : Setup} {s : Screen}

/-- The steps that keys make: each with its label and the screen after it. -/
def stepsOf (setup : Setup) (s : Screen) : List Key → List (String × Screen)
  | [] => []
  | key :: keys => (key.label, s.press setup key) :: stepsOf setup (s.press setup key) keys

/-- Labels that pass the check are traced to their end. -/
theorem trace_of_isLabel (setup : Setup) {labels : List String}
    (hall : ∀ label ∈ labels, Key.isLabel label = true) (s : Screen) :
    trace setup s labels = (stepsOf setup s (labels.filterMap Key.ofLabel?), none) := by
  induction labels generalizing s with
  | nil =>
      rfl
  | cons label labels ih =>
      rcases Screen.pressLabel_of_isLabel (hall label List.mem_cons_self) setup s with
        ⟨key, hkey, hpress⟩
      have hrest := ih (fun other hother => hall other (List.mem_cons_of_mem label hother))
        (s.press setup key)
      rw [trace, hpress, List.filterMap_cons_some hkey, stepsOf, Key.label_of_ofLabel? hkey]
      dsimp only
      rw [hrest]

/-- The steps end with the last key and the screen that all keys lead to. -/
theorem getLast?_stepsOf (setup : Setup) (s : Screen) (keys : List Key) (last : Key) :
    (stepsOf setup s (keys ++ [last])).getLast? =
      some (last.label, s.pressAll setup (keys ++ [last])) := by
  induction keys generalizing s with
  | nil =>
      rfl
  | cons key keys ih =>
      have hrest := ih (s.press setup key)
      rw [List.cons_append, stepsOf, List.getLast?_cons, hrest]
      rfl

theorem lastScreen_stepsOf (setup : Setup) (s : Screen) (keys : List Key) :
    lastScreen s (stepsOf setup s keys) = s.pressAll setup keys := by
  rcases List.eq_nil_or_concat keys with rfl | ⟨front, last, rfl⟩
  · rfl
  · rw [List.concat_eq_append, lastScreen, getLast?_stepsOf]
    rfl

end CommandLine

/-! ## Screens -/

namespace Screen

variable {setup : Setup} {s : Screen}

/-- What a computation displays. -/
theorem display_compute (settings : Settings) (s : Screen) :
    (s.compute settings.setup).display =
      Service.display settings (evaluate settings.strictScanner s.expression) := by
  cases houtcome : evaluate settings.strictScanner s.expression with
  | ok value =>
      have hcomputed : s.compute settings.setup = _ := compute_of_ok houtcome
      rw [hcomputed]
      rfl
  | error fault =>
      have hcomputed : s.compute settings.setup = _ := compute_of_error houtcome
      rw [hcomputed]
      rfl

/-- Keys make the same steps in both modes. -/
theorem Consistent.stepsOf_mode (h : s.Consistent setup) (keys : List Key) (mode : Bool) :
    CommandLine.stepsOf { setup with strict := mode } s keys = CommandLine.stepsOf setup s keys := by
  induction keys generalizing s with
  | nil =>
      rfl
  | cons key keys ih =>
      rw [CommandLine.stepsOf, CommandLine.stepsOf, h.press_mode key mode, ih (h.press key)]

end Screen

/-! ## Command lines -/

namespace CommandLine

variable {settings : Settings} {threshold : Log.Level} {environment : List (String × String)}
  {labels : List String}

theorem run_of_invocation {words : List String} {invocation : Invocation}
    (hread : readInvocation words = .ok invocation)
    (hprepare : prepare environment = .ok (settings, threshold)) (input : String) :
    run words input environment =
      .ok (.finished (perform (settingsOf settings invocation) threshold invocation.command
        input)) := by
  unfold run
  rw [hread]
  simp only [hprepare]
  rfl

/-- An expression that is not empty is evaluated in the mode of the settings.  The value `--` of the
option counts as empty. -/
theorem run_evaluate (hprepare : prepare environment = .ok (settings, threshold)) {text : String}
    (hempty : text ≠ "") (hdashes : text ≠ "--") (input : String) :
    run ["eval", "--expr=" ++ text] input environment =
      .ok (.finished ⟨faultCode (evaluate settings.strictScanner text),
        Service.display settings (evaluate settings.strictScanner text) ++ "\n",
        Log.render threshold (Log.ofEvaluation text (evaluate settings.strictScanner text))⟩) := by
  have hvalue : valueOf text.toList = text := by
    have hlist : text.toList ≠ ['-', '-'] := fun hlist => hdashes (String.toList_inj.1 hlist)
    rw [valueOf, if_neg hlist, String.ofList_toList]
  have hsettings : settingsOf settings ⟨false, .evaluate (some text) false⟩ = settings := rfl
  have hread := (readInvocation_evaluate text).1
  rw [hvalue] at hread
  rw [run_of_invocation hread hprepare, hsettings]
  simp [perform, evaluateReport, hempty]

theorem keysReport_of_labels (hall : ∀ label ∈ labels, Key.isLabel label = true) :
    keysReport settings threshold labels =
      ⟨screenCode ((Screen.blank settings.setup).pressAll settings.setup
          (labels.filterMap Key.ofLabel?)),
        (keysTable (stepsOf settings.setup (.blank settings.setup)
          (labels.filterMap Key.ofLabel?))).render,
        Log.render threshold (keysLog settings.setup (.blank settings.setup)
          (stepsOf settings.setup (.blank settings.setup) (labels.filterMap Key.ofLabel?)))⟩ := by
  unfold keysReport
  rw [Service.filter_unknown_eq_nil_iff.2 hall]
  dsimp only
  rw [trace_of_isLabel settings.setup hall]
  dsimp only
  rw [lastScreen_stepsOf]

/-- Keys are pressed on a blank screen, alike in both modes. -/
theorem run_keys (hprepare : prepare environment = .ok (settings, threshold))
    (hne : labels ≠ []) (hall : ∀ label ∈ labels, Key.isLabel label = true) (input : String) :
    ∀ options ∈ [[], ["--strict"]], ∃ errors,
      run (options ++ "keys" :: labels) input environment =
        .ok (.finished ⟨screenCode ((Screen.blank settings.setup).pressAll settings.setup
            (labels.filterMap Key.ofLabel?)),
          (keysTable (stepsOf settings.setup (.blank settings.setup)
            (labels.filterMap Key.ofLabel?))).render, errors⟩) := by
  have hblank := Screen.Consistent.blank settings.setup
  have hreport (strict : Bool) : ∃ errors,
      keysReport (settingsOf settings ⟨strict, .keys labels⟩) threshold labels =
        ⟨screenCode ((Screen.blank settings.setup).pressAll settings.setup
            (labels.filterMap Key.ofLabel?)),
          (keysTable (stepsOf settings.setup (.blank settings.setup)
            (labels.filterMap Key.ofLabel?))).render, errors⟩ := by
    -- The mode of the command line replaces that of the settings, and nothing else.
    have hpressed := hblank.pressAll_mode (labels.filterMap Key.ofLabel?)
      (strict || settings.strictScanner)
    have hsteps := hblank.stepsOf_mode (labels.filterMap Key.ofLabel?)
      (strict || settings.strictScanner)
    rw [keysReport_of_labels hall, ← hpressed, ← hsteps]
    exact ⟨_, rfl⟩
  obtain ⟨hlenient, hstrict⟩ := readInvocation_keys hne hall
  intro options hoptions
  rcases List.mem_cons.1 hoptions with rfl | hoptions
  · obtain ⟨errors, herrors⟩ := hreport false
    refine ⟨errors, ?_⟩
    rw [List.nil_append, run_of_invocation hlenient hprepare, ← herrors]
    rfl
  · obtain rfl := List.mem_singleton.1 hoptions
    obtain ⟨errors, herrors⟩ := hreport true
    refine ⟨errors, ?_⟩
    rw [List.singleton_append, run_of_invocation hstrict hprepare, ← herrors]
    rfl

end CommandLine

/-! ## Requests -/

namespace Service

variable {s : Service} {r : Request}

/-- A request to evaluate a text. -/
structure Request.Evaluates (r : Request) (text : String) : Prop where
  verb : r.verb = "POST"
  path : r.path = "/evaluate"
  body : ∃ fields, r.body = some (.record fields) ∧
    fields.lookup "expression" = some (.text text)

namespace Request.Evaluates

variable {text : String}

theorem route?_eq (h : r.Evaluates text) : r.route? = some .evaluate := by
  unfold Request.route?
  rw [h.path]
  decide +kernel

theorem readExpression_eq (h : r.Evaluates text) : readExpression r.body = .ok text := by
  obtain ⟨fields, hbody, hexpression⟩ := h.body
  have hfield : bodyField "expression" r.body = .ok (.text text) := by
    rw [hbody, bodyField, hexpression]
  unfold readExpression
  rw [hfield]
  rfl

theorem answer_eq (h : r.Evaluates text) (s : Service) :
    s.answer r = ⟨200, .evaluation text (evaluate s.settings.strictScanner text)
      (display s.settings (evaluate s.settings.strictScanner text))⟩ := by
  rw [answer_of_evaluate h.route?_eq h.verb, evaluateBody, h.readExpression_eq]

/-- The display of an evaluation, and the success that it reports. -/
theorem exists_fields (h : r.Evaluates text) (s : Service) :
    ∃ fields, (s.answer r).content.document? = some (.record fields) ∧
      fields.lookup "display" =
        some (.text (display s.settings (evaluate s.settings.strictScanner text))) ∧
      (fields.lookup "ok" = some (.bool true) ↔
        CommandLine.faultCode (evaluate s.settings.strictScanner text) = 0) := by
  rw [h.answer_eq]
  cases evaluate s.settings.strictScanner text with
  | ok value =>
      refine ⟨_, rfl, rfl, ?_⟩
      simp [List.lookup_cons, CommandLine.faultCode]
  | error fault =>
      refine ⟨_, rfl, rfl, ?_⟩
      simp [List.lookup_cons, CommandLine.faultCode]

end Request.Evaluates

/-- A session that is created now and then sent the keys, in any number of batches and among any other
requests that do not delete it, is shown with the screen at the end.  If there are creations among these,
no id must be given out twice. -/
def SessionsEndWith (s : Service) (keys : List Key) (final : Screen) : Prop :=
  ∀ (creation : Request) (id : String) (screen : Screen),
    s.answer creation = ⟨201, .session id screen⟩ →
      ∀ (requests : List Request) (r : Request) (labels : List String),
        (∀ other ∈ requests, other.command? ≠ some (.delete id)) →
          (Function.Injective s.sessions.ids ∨ ∀ other ∈ requests, other.command? ≠ some .create) →
          r.IsBatch id labels → (∀ label ∈ labels, Key.isLabel label = true) →
            requests.flatMap (Request.keysFor id) ++ labels.filterMap Key.ofLabel? = keys →
              ((s.next creation).after requests).answer r = ⟨200, .session id final⟩

theorem sessionsEndWith_pressAll (s : Service) (keys : List Key) :
    s.SessionsEndWith keys ((Screen.blank s.settings.setup).pressAll s.settings.setup keys) := by
  rintro creation id screen hcreation requests r labels hkept hnew hbatch hall rfl
  have hblank := get?_next_of_created hcreation
  have hsettings : ((s.next creation).after requests).settings = s.settings := by
    rw [after_settings, next_settings]
  -- The requests before the last batch have pressed the keys that they sent.
  have hscreen := get?_after_of_live (hnew.imp_left (spent_next_of_created hcreation)) hkept
  rw [hblank, next_settings, Option.map_some] at hscreen
  have hpressed := Screen.foldlM_pressLabel ((s.next creation).after requests).settings.setup hall
    ((Screen.blank s.settings.setup).pressAll s.settings.setup
      (requests.flatMap (Request.keysFor id)))
  unfold answer
  rw [hbatch.respond_eq, pressKeys_of_live hall hscreen hpressed, hsettings, Screen.pressAll_append]

end Service

/-! ## Keys -/

namespace Key

theorem filterMap_equals (labels : List String) :
    (labels ++ ["="]).filterMap ofLabel? = labels.filterMap ofLabel? ++ [.equals] := by
  rw [List.filterMap_append]
  rfl

theorem isLabel_of_mem_equals {labels : List String} (hall : ∀ label ∈ labels, isLabel label = true) :
    ∀ label ∈ labels ++ ["="], isLabel label = true := by
  intro label hlabel
  rcases List.mem_append.1 hlabel with hlabel | hlabel
  · exact hall label hlabel
  · obtain rfl := List.mem_singleton.1 hlabel
    decide +kernel

end Key

namespace Screen

theorem pressAll_equals (setup : Setup) (s : Screen) (labels : List String) :
    s.pressAll setup ((labels ++ ["="]).filterMap Key.ofLabel?) =
      (s.pressAll setup (labels.filterMap Key.ofLabel?)).compute setup := by
  rw [Key.filterMap_equals, pressAll_append]
  rfl

/-- The key behind labels that spell a text computes the outcome of the text, in either mode. -/
theorem last_of_labels (setup : Setup) {labels : List String}
    (hall : ∀ label ∈ labels, Key.isLabel label = true) (hequals : "=" ∉ labels) (strict : Bool) :
    ((blank setup).pressAll setup ((labels ++ ["="]).filterMap Key.ofLabel?)).last =
      some (evaluate strict (Key.edited labels)) := by
  have hknown := ((Consistent.blank setup).pressAll (labels.filterMap Key.ofLabel?)).isKnown
  rw [pressAll_equals, last_compute, evaluate_mode hknown setup.strict strict,
    (Holds.labels setup hall hequals).expression]

/-- It displays this outcome. -/
theorem display_of_labels (settings : Settings) {labels : List String}
    (hall : ∀ label ∈ labels, Key.isLabel label = true) (hequals : "=" ∉ labels) :
    ((blank settings.setup).pressAll settings.setup
        ((labels ++ ["="]).filterMap Key.ofLabel?)).display =
      Service.display settings (evaluate settings.strictScanner (Key.edited labels)) := by
  rw [pressAll_equals, display_compute, (Holds.labels settings.setup hall hequals).expression]

end Screen

theorem CommandLine.screenCode_of_last {screen : Screen} {outcome : Outcome}
    (h : screen.last = some outcome) : screenCode screen = faultCode outcome := by
  unfold screenCode
  rw [h]

/-! ## Agreement -/

/-- For settings with a known log level, a text given on a command line and the same text sent in a
request are shown alike, as the text of the value or as the error message, and the command ends with code
zero exactly when the request reports a success; only `--` is no value of an option.  Labels of keys
without `=` spell a text on a blank screen, and `=` behind them shows the outcome of this text, which is
the same in both modes: on a screen, in a session, and on a command line.  Every text over the characters
of the keys is spelled by its own characters. -/
theorem surfaces_agree {settings : Settings} {threshold : Log.Level}
    (hlevel : settings.threshold = .ok threshold) :
    (∃ environment, CommandLine.prepare environment = .ok (settings, threshold)) ∧
    (∀ environment, CommandLine.prepare environment = .ok (settings, threshold) →
      ∀ (input : String) (s : Service), s.settings = settings →
        (∀ text, text ≠ "" → text ≠ "--" →
          ∃ report, CommandLine.run ["eval", "--expr=" ++ text] input environment =
              .ok (.finished report) ∧
            report.output =
              Service.display settings (evaluate settings.strictScanner text) ++ "\n" ∧
            ∀ r : Service.Request, r.Evaluates text →
              ∃ fields, (s.answer r).content.document? = some (.record fields) ∧
                fields.lookup "display" =
                  some (.text (Service.display settings (evaluate settings.strictScanner text))) ∧
                (fields.lookup "ok" = some (.bool true) ↔ report.code = 0)) ∧
        ∀ labels : List String, (∀ label ∈ labels, Key.isLabel label = true) → "=" ∉ labels →
          let text := Key.edited labels
          let start := Screen.blank settings.setup
          let keys := (labels ++ ["="]).filterMap Key.ofLabel?
          ∃ typed final : Screen,
            labels.foldlM (Screen.pressLabel settings.setup) start = .ok typed ∧
            typed.expression = text ∧
            typed.pressLabel settings.setup "=" = .ok final ∧
            final.display = Service.display settings (evaluate settings.strictScanner text) ∧
            (∀ strict, final.last = some (evaluate strict text)) ∧
            s.SessionsEndWith keys final ∧
            ∀ options ∈ [[], ["--strict"]],
              ∃ report steps,
                CommandLine.run (options ++ "keys" :: (labels ++ ["="])) input environment =
                  .ok (.finished report) ∧
                CommandLine.trace settings.setup start (labels ++ ["="]) = (steps, none) ∧
                report.output = (CommandLine.keysTable steps).render ∧
                steps.getLast? = some ("=", final) ∧
                ∀ strict, report.code = CommandLine.faultCode (evaluate strict text)) ∧
    ∀ text : String, (∀ c ∈ text.toList, c ∈ Key.characters) →
      let labels := text.toList.map String.singleton
      (∀ label ∈ labels, Key.isLabel label = true) ∧ "=" ∉ labels ∧ Key.edited labels = text := by
  refine ⟨⟨_, CommandLine.prepare_toEnvironment hlevel⟩, ?_, ?_⟩
  · rintro environment hprepare input s rfl
    refine ⟨?_, ?_⟩
    · intro text hempty hdashes
      refine ⟨_, CommandLine.run_evaluate hprepare hempty hdashes input, rfl, ?_⟩
      intro r hr
      exact hr.exists_fields s
    · intro labels hall hequals
      dsimp only
      have hlast := Screen.last_of_labels s.settings.setup hall hequals
      have hpressed := Screen.pressAll_equals s.settings.setup (.blank s.settings.setup) labels
      refine ⟨_, _, Screen.foldlM_pressLabel s.settings.setup hall _,
        (Screen.Holds.labels s.settings.setup hall hequals).expression, congrArg _ hpressed.symm,
        Screen.display_of_labels s.settings hall hequals, hlast,
        s.sessionsEndWith_pressAll _, ?_⟩
      intro options hoptions
      have hall' := Key.isLabel_of_mem_equals hall
      obtain ⟨errors, hrun⟩ := CommandLine.run_keys hprepare (by simp) hall' input options hoptions
      refine ⟨_, _, hrun, CommandLine.trace_of_isLabel s.settings.setup hall' _, ?_, ?_, ?_⟩
      · dsimp only
      · rw [Key.filterMap_equals]
        exact CommandLine.getLast?_stepsOf _ _ _ .equals
      · intro strict
        exact CommandLine.screenCode_of_last (hlast strict)
  · intro text htext labels
    obtain ⟨hall, hequals⟩ := Key.isLabel_singletons htext
    refine ⟨hall, hequals, ?_⟩
    have hspelled := Key.foldl_edit_singletons htext ""
    rw [String.empty_append, String.ofList_toList] at hspelled
    exact hspelled

/-- The sum of two and three is shown alike, typed with a slip or not. -/
theorem surfaces_agree_on_sum :
    let s : Service := ⟨{}, .empty⟩
    let r : Service.Request := ⟨"POST", "/evaluate",
      some (.record [("expression", .text "2+3")])⟩
    let creation : Service.Request := ⟨"POST", "/calculator/sessions", none⟩
    let batch : Service.Request := ⟨"POST", "/calculator/sessions/s1/keys",
      some (.record [("keys", .list (["2", "+", "4", "C", "3", "="].map Document.text))])⟩
    let labels := ["2", "+", "4", "C", "3"]
    Settings.threshold {} = .ok .info ∧ CommandLine.prepare [] = .ok ({}, .info) ∧
      (∃ report, CommandLine.run ["eval", "--expr=" ++ "2+3"] "" [] = .ok (.finished report) ∧
        report.output = "5.0\n") ∧
      (∃ fields, (s.answer r).content.document? = some (.record fields) ∧
        fields.lookup "display" = some (.text "5.0")) ∧
      (∀ label ∈ labels, Key.isLabel label = true) ∧ "=" ∉ labels ∧ Key.edited labels = "2+3" ∧
      ∃ final : Screen, final.display = "5.0" ∧
        (s.next creation).answer batch = ⟨200, .session "s1" final⟩ ∧
        ∀ c ∈ "2+3".toList, c ∈ Key.characters := by
  intro s r creation batch labels
  have hlevel : Settings.threshold {} = .ok .info := by decide +kernel
  have hprepare : CommandLine.prepare [] = .ok ({}, .info) := by decide +kernel
  have hevaluates : r.Evaluates "2+3" := ⟨by decide +kernel, by decide +kernel, ⟨_, rfl, rfl⟩⟩
  have hcreate : creation.command? = some .create := by decide +kernel
  have hcreation : s.answer creation = ⟨201, .session "s1" (.blank {})⟩ := by
    have hid : s.sessions.nextId = "s1" := by decide
    rw [Service.answer_of_create hcreate, hid]
    rfl
  have hpath : batch.path = "/calculator/sessions/" ++ "s1" ++ "/keys" := by decide +kernel
  have hbatch : batch.IsBatch "s1" (labels ++ ["="]) :=
    ⟨by decide +kernel, hpath, by decide, by decide, ⟨_, rfl, rfl⟩, by decide⟩
  have hall : ∀ label ∈ labels, Key.isLabel label = true := by decide +kernel
  have hequals : "=" ∉ labels := by decide
  have hcharacters : ∀ c ∈ "2+3".toList, c ∈ Key.characters :=
    Key.mem_characters_of_all (by decide)
  have hspelled : Key.edited labels = "2+3" := by decide +kernel
  have hshown : Service.display {} (evaluate false "2+3") = "5.0" := by decide +kernel
  obtain ⟨-, hagree, -⟩ := surfaces_agree hlevel
  obtain ⟨htexts, hlabels⟩ := hagree [] hprepare "" s rfl
  obtain ⟨report, hrun, houtput, hrequests⟩ := htexts "2+3" (by decide) (by decide)
  obtain ⟨fields, hdocument, hfields, -⟩ := hrequests r hevaluates
  obtain ⟨typed, final, -, -, -, hdisplay, -, hsessions, -⟩ := hlabels labels hall hequals
  have hanswer := hsessions creation "s1" (.blank {}) hcreation [] batch (labels ++ ["="])
    (by simp) (Or.inr (by simp)) hbatch (Key.isLabel_of_mem_equals hall) rfl
  rw [hspelled] at hdisplay
  refine ⟨hlevel, hprepare, ⟨report, hrun, houtput.trans ?_⟩, ⟨fields, hdocument, hfields.trans ?_⟩,
    hall, hequals, hspelled, final, hdisplay.trans hshown, hanswer, hcharacters⟩
  · exact congrArg (· ++ "\n") hshown
  · exact congrArg (some ∘ Document.text) hshown

/-- A request with the text `--` is shown the error message, but the same text on a command line counts
as no expression. -/
theorem surfaces_differ_on_dashes :
    let s : Service := ⟨{}, .empty⟩
    let r : Service.Request := ⟨"POST", "/evaluate", some (.record [("expression", .text "--")])⟩
    CommandLine.prepare [] = .ok ({}, .info) ∧ r.Evaluates "--" ∧
      CommandLine.run ["eval", "--expr=" ++ "--"] "" [] =
        .ok (.finished ⟨1, "", "Błąd: podaj wyrażenie przez --expr lub stdin\n"⟩) ∧
      ∃ fields, (s.answer r).content.document? = some (.record fields) ∧
        fields.lookup "display" = some (.text "Error") ∧ "" ≠ "Error" ++ "\n" := by
  intro s r
  have hprepare : CommandLine.prepare [] = .ok ({}, .info) := by decide +kernel
  have hr : r.Evaluates "--" := ⟨by decide +kernel, by decide +kernel, ⟨_, rfl, rfl⟩⟩
  have hvalue : evaluate false "--" = .error (.missingOperand .minus) := by decide +kernel
  have hread := (CommandLine.readInvocation_evaluate "--").1
  obtain ⟨fields, hdocument, hdisplay, -⟩ := hr.exists_fields s
  refine ⟨hprepare, hr, ?_, fields, hdocument, hdisplay.trans ?_, by decide⟩
  · rw [CommandLine.run_of_invocation hread hprepare]
    decide +kernel
  · have hmode : s.settings.strictScanner = false := rfl
    rw [hmode, hvalue]
    rfl

end Abacus
