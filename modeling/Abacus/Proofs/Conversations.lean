import Abacus.Proofs.Lines
import Abacus.Proofs.Traces

/-!
# Conversations — each line is answered by itself

A conversation greets, then prompts for lines and answers them up to the farewell or to the end of the
input.  The answer to a line is the report of the command for one expression on its text, so it depends on
this line alone:

* `CommandLine.spoken` — the lines up to the farewell;
* `CommandLine.answerTo` — the report on a line;
* `CommandLine.AsksFor`, `CommandLine.run_of_asksFor` — command lines that make the same report;
* `CommandLine.replies_eq`, `CommandLine.converseReport_eq` — a conversation joins these reports;
* `CommandLine.spoken_join` — what follows the farewell is not read;
* `lines_are_answered_alone` — the whole of a conversation.
-/

namespace Abacus

namespace CommandLine

variable {settings : Settings} {threshold : Log.Level} {environment : List (String × String)}
  {line : String}

/-! ## Lines up to the farewell -/

def isFarewell (line : String) : Bool := Text.strip line == "quit" || Text.strip line == "exit"

def spoken (input : String) : List String :=
  (Text.inputLines input).takeWhile fun line => !isFarewell line

theorem isFarewell_iff : isFarewell line = true ↔ Text.strip line = "quit" ∨ Text.strip line = "exit" := by
  simp [isFarewell]

/-- What follows a farewell is not read. -/
theorem spoken_join {lines : List String} {farewell : String}
    (hlines : ∀ line ∈ lines, '\n' ∉ line.toList) (hline : '\n' ∉ farewell.toList)
    (hfarewell : isFarewell farewell = true) (rest : String) :
    spoken (String.join (lines.map (· ++ "\n")) ++ (farewell ++ "\n" ++ rest)) =
      spoken (String.join (lines.map (· ++ "\n"))) := by
  have hread := Text.inputLines_join hlines ""
  have hnone : Text.inputLines "" = [] := by decide +kernel
  rw [String.append_empty, hnone, List.append_nil] at hread
  unfold spoken
  rw [Text.inputLines_join hlines, Text.inputLines_line hline, hread, List.takeWhile_append]
  split
  · rename_i hlength
    rw [(List.takeWhile_prefix _).eq_of_length hlength, List.takeWhile_cons_of_neg (by simp [hfarewell]),
      List.append_nil]
  · rfl

/-! ## Answers -/

/-- The report on a line: nothing if it is blank, else that on its text as an expression. -/
def answerTo (settings : Settings) (threshold : Log.Level) (line : String) : Report :=
  if Text.strip line = "" then ⟨0, "", ""⟩
  else evaluateReport settings threshold (some (Text.strip line)) false ""

theorem evaluateReport_some {text : String} (hne : text ≠ "") (input : String) :
    evaluateReport settings threshold (some text) false input =
      ⟨faultCode (evaluate settings.strictScanner text),
        Service.display settings (evaluate settings.strictScanner text) ++ "\n",
        Log.render threshold (Log.ofEvaluation text (evaluate settings.strictScanner text))⟩ := by
  simp [evaluateReport, hne]

/-- The mode of a command line does not change what is shown for an outcome. -/
theorem display_settingsOf (settings : Settings) (invocation : Invocation) (outcome : Outcome) :
    Service.display (settingsOf settings invocation) outcome = Service.display settings outcome := by
  cases outcome <;> rfl

theorem replyTo_of_blank (hblank : Text.strip line = "") : replyTo settings line = .silence := by
  simp [replyTo, hblank]

theorem replyTo_of_text (hline : isFarewell line = false) (hne : Text.strip line ≠ "") :
    replyTo settings line =
      .answer (Text.strip line) (evaluate settings.strictScanner (Text.strip line)) := by
  have hnot : ¬ (Text.strip line = "quit" ∨ Text.strip line = "exit") := by
    rw [← isFarewell_iff, hline]
    decide
  simp [replyTo, hnot, hne]

/-- The reply to a line shows the output of its report and leaves the same records. -/
theorem replyTo_eq (hline : isFarewell line = false) :
    (replyTo settings line).output settings =
        Text.terminalText (answerTo settings threshold line).output ∧
      Log.render threshold (replyTo settings line).log =
        (answerTo settings threshold line).errors := by
  by_cases hblank : Text.strip line = ""
  · have hempty : Text.terminalText "" = "" := by decide +kernel
    rw [replyTo_of_blank hblank, answerTo, if_pos hblank]
    exact ⟨hempty.symm, rfl⟩
  · rw [replyTo_of_text hline hblank, answerTo, if_neg hblank, evaluateReport_some hblank]
    dsimp only
    exact ⟨(Text.terminalText_newline _).symm, rfl⟩

/-! ## Conversations -/

theorem replies_eq (settings : Settings) (lines : List String) :
    replies settings lines = (lines.takeWhile fun line => !isFarewell line).map (replyTo settings) := by
  induction lines with
  | nil => rfl
  | cons line lines ih =>
      by_cases hline : isFarewell line = true
      · have hreply : replyTo settings line = .farewell := if_pos (isFarewell_iff.1 hline)
        rw [replies, hreply]
        simp [hline]
      · have hline' := Bool.eq_false_iff.2 hline
        have htake : (line :: lines).takeWhile (fun line => !isFarewell line) =
            line :: lines.takeWhile fun line => !isFarewell line := by
          simp [hline']
        rw [htake, List.map_cons, ← ih]
        by_cases hblank : Text.strip line = ""
        · rw [replies, replyTo_of_blank hblank]
        · rw [replies, replyTo_of_text hline' hblank]

/-- A conversation is the greeting and the answers, with a prompt before each and one at the end. -/
theorem converseReport_eq (settings : Settings) (threshold : Log.Level) (input : String) :
    converseReport settings threshold input =
      ⟨0, greeting ++ String.join ((spoken input).map fun line =>
          prompt ++ Text.terminalText (answerTo settings threshold line).output) ++ prompt,
        String.join ((spoken input).map fun line => (answerTo settings threshold line).errors)⟩ := by
  have hspoken : ∀ line ∈ spoken input, isFarewell line = false := by
    intro line hline
    simpa using List.mem_takeWhile_imp hline
  have houtput : (spoken input).map (fun line => prompt ++ (replyTo settings line).output settings) =
      (spoken input).map fun line =>
        prompt ++ Text.terminalText (answerTo settings threshold line).output :=
    List.map_congr_left fun line hline => by
      rw [(replyTo_eq (hspoken line hline)).1]
  have herrors : (spoken input).map (fun line => Log.render threshold (replyTo settings line).log) =
      (spoken input).map fun line => (answerTo settings threshold line).errors :=
    List.map_congr_left fun line hline => (replyTo_eq (hspoken line hline)).2
  unfold converseReport
  dsimp only
  rw [replies_eq, ← spoken, List.flatMap_map, render_flatMap, List.map_map, ← houtput, ← herrors,
    Function.comp_def]

/-! ## Command lines with the same answer -/

/-- A command line that asks for the value of a text, which is given as an option or as the input. -/
def AsksFor (words : List String) (input : String) (strict : Bool) (text : String) : Prop :=
  ∃ expression, readInvocation words = .ok ⟨strict, .evaluate expression false⟩ ∧
    expression.getD (Text.strip input) = text

/-- The text of a line can be given as the input, which is stripped once more. -/
theorem exists_asksFor (strict : Bool) (line : String) :
    ∃ words, AsksFor words (Text.strip line) strict (Text.strip line) := by
  cases strict with
  | false => exact ⟨["eval"], none, by decide +kernel, Text.strip_strip line⟩
  | true => exact ⟨["--strict", "eval"], none, by decide +kernel, Text.strip_strip line⟩

/-- Such a command line reports what a conversation answers to a line with this text. -/
theorem run_of_asksFor {words : List String} {input : String} {strict : Bool}
    (hprepare : prepare environment = .ok (settings, threshold)) (hne : Text.strip line ≠ "")
    (h : AsksFor words input strict (Text.strip line)) :
    run words input environment = .ok (.finished
      (answerTo (settingsOf settings ⟨strict, .converse⟩) threshold line)) := by
  obtain ⟨expression, hread, htext⟩ := h
  have hreport : perform (settingsOf settings ⟨strict, .evaluate expression false⟩) threshold
      (.evaluate expression false) input =
      answerTo (settingsOf settings ⟨strict, .converse⟩) threshold line := by
    rw [answerTo, if_neg hne, ← htext]
    rfl
  rw [run_of_invocation hread hprepare, hreport]

/-- Results are plain texts. -/
theorem isPlain_resultText {value : Binary64} (hfinite : value.isFinite = true) :
    Text.IsPlain value.resultText := by
  have hall : Key.characters.all (fun c => c != '\t' && !Text.ignored.contains c.toNat) = true := by
    decide
  intro c hc
  simpa using List.all_eq_true.1 hall c (Screen.mem_characters_of_resultText hfinite c hc)

theorem isPlain_display {outcome : Outcome}
    (hfinite : ∀ value, outcome = .ok value → value.isFinite = true)
    (hmessage : ∀ fault, outcome = .error fault → Text.IsPlain settings.errorMessage) :
    Text.IsPlain (Service.display settings outcome) := by
  cases outcome with
  | ok value => exact isPlain_resultText (hfinite value rfl)
  | error fault => exact hmessage fault rfl

end CommandLine

/-- What a conversation prints, for settings with a known log level: the greeting, then for each line up to
the farewell a prompt and the output of the answer, then a last prompt; its code is zero.  The answer to
a line does not depend on the input around it: a blank line has none, and any other line has the report of
the command for one expression on its text, in the mode of the conversation.  The terminal is given plain
outputs, such as all results, as they stand.  Nothing after the farewell is read.  The lines of an input
are what its line breaks end, and what is left behind the last of them if anything is. -/
theorem lines_are_answered_alone {words : List String} {strict : Bool}
    {environment : List (String × String)} {settings : Settings} {threshold : Log.Level}
    (hread : CommandLine.readInvocation words = .ok ⟨strict, .converse⟩)
    (hprepare : CommandLine.prepare environment = .ok (settings, threshold)) :
    ∃ answer : String → CommandLine.Report,
      (∀ line, Text.strip line = "" → answer line = ⟨0, "", ""⟩) ∧
      (∀ line, Text.strip line ≠ "" →
        let outcome := evaluate (strict || settings.strictScanner) (Text.strip line)
        (answer line).output = Service.display settings outcome ++ "\n" ∧
        ((∀ fault, outcome = .error fault → Text.IsPlain settings.errorMessage) →
          Text.terminalText (answer line).output = (answer line).output) ∧
        (∃ words', CommandLine.AsksFor words' (Text.strip line) strict (Text.strip line)) ∧
        ∀ words' input', CommandLine.AsksFor words' input' strict (Text.strip line) →
          CommandLine.run words' input' environment = .ok (.finished (answer line))) ∧
      (∀ input, CommandLine.run words input environment =
        .ok (.finished ⟨0,
          CommandLine.greeting ++ String.join ((CommandLine.spoken input).map fun line =>
            CommandLine.prompt ++ Text.terminalText (answer line).output) ++ CommandLine.prompt,
          String.join ((CommandLine.spoken input).map fun line => (answer line).errors)⟩)) ∧
      (∀ (lines : List String) (farewell rest : String), (∀ line ∈ lines, '\n' ∉ line.toList) →
        '\n' ∉ farewell.toList → (Text.strip farewell = "quit" ∨ Text.strip farewell = "exit") →
          CommandLine.run words (String.join (lines.map (· ++ "\n")) ++ (farewell ++ "\n" ++ rest))
              environment =
            CommandLine.run words (String.join (lines.map (· ++ "\n"))) environment) ∧
      ∀ input, ∃ (lines : List String) (rest : String),
        input = String.join (lines.map (· ++ "\n")) ++ rest ∧
          (∀ line ∈ lines, '\n' ∉ line.toList) ∧ '\n' ∉ rest.toList ∧
          CommandLine.spoken input = (lines ++ if rest = "" then [] else [rest]).takeWhile fun line =>
            !(Text.strip line == "quit" || Text.strip line == "exit") := by
  have hrun (input : String) : CommandLine.run words input environment = .ok (.finished
      (CommandLine.converseReport (CommandLine.settingsOf settings ⟨strict, .converse⟩) threshold
        input)) :=
    CommandLine.run_of_invocation hread hprepare input
  refine ⟨CommandLine.answerTo (CommandLine.settingsOf settings ⟨strict, .converse⟩) threshold,
    ?_, ?_, ?_, ?_, ?_⟩
  · intro line hblank
    exact if_pos hblank
  · intro line hne outcome
    have houtput : (CommandLine.answerTo (CommandLine.settingsOf settings ⟨strict, .converse⟩)
        threshold line).output = Service.display settings outcome ++ "\n" := by
      rw [CommandLine.answerTo, if_neg hne, CommandLine.evaluateReport_some hne]
      dsimp only
      rw [CommandLine.display_settingsOf]
      rfl
    refine ⟨houtput, ?_, CommandLine.exists_asksFor strict line, ?_⟩
    · intro hmessage
      have hplain : Text.IsPlain (Service.display settings outcome) :=
        CommandLine.isPlain_display (fun value => evaluate_isFinite) hmessage
      rw [houtput, Text.terminalText_newline, Text.terminalText_of_plain hplain]
    · intro words' input' hasks
      exact CommandLine.run_of_asksFor hprepare hne hasks
  · intro input
    rw [hrun, CommandLine.converseReport_eq]
  · intro lines farewell rest hlines hline hfarewell
    rw [hrun, hrun, CommandLine.converseReport_eq, CommandLine.converseReport_eq,
      CommandLine.spoken_join hlines hline (CommandLine.isFarewell_iff.2 hfarewell)]
  · intro input
    obtain ⟨lines, rest, hinput, hlines, hrest, hsplit⟩ := Text.exists_lines input
    refine ⟨lines, rest, hinput, hlines, hrest, ?_⟩
    rw [CommandLine.spoken, hsplit]
    rfl

/-- A failure, a blank line and a result, before a farewell that is not the last line. -/
theorem lines_are_answered_alone_sample :
    let input := " 1/0 \n\n  2+3 \nquit \n7"
    CommandLine.readInvocation ["repl"] = .ok ⟨false, .converse⟩ ∧
      CommandLine.prepare [] = .ok ({}, .info) ∧
      CommandLine.spoken input = [" 1/0 ", "", "  2+3 "] ∧
      ∃ errors, CommandLine.run ["repl"] input [] = .ok (.finished ⟨0,
        "StackCalc — wpisz wyrażenie, 'quit' kończy.\n> Error\n> > 5.0\n> ", errors⟩) := by
  intro input
  have hread : CommandLine.readInvocation ["repl"] = .ok ⟨false, .converse⟩ := by decide +kernel
  have hprepare : CommandLine.prepare [] = .ok ({}, .info) := by decide +kernel
  have hspoken : CommandLine.spoken input = [" 1/0 ", "", "  2+3 "] := by decide +kernel
  obtain ⟨answer, hblank, htext, hrun, -⟩ := lines_are_answered_alone hread hprepare
  have hfailure : (answer " 1/0 ").output = "Error\n" :=
    (htext " 1/0 " (by decide +kernel)).1.trans (by decide +kernel)
  have hresult : (answer "  2+3 ").output = "5.0\n" :=
    (htext "  2+3 " (by decide +kernel)).1.trans (by decide +kernel)
  have hsilence : (answer "").output = "" := by rw [hblank "" (by decide +kernel)]
  have hprinted : CommandLine.greeting ++ String.join ((CommandLine.spoken input).map fun line =>
      CommandLine.prompt ++ Text.terminalText (answer line).output) ++ CommandLine.prompt =
      "StackCalc — wpisz wyrażenie, 'quit' kończy.\n> Error\n> > 5.0\n> " := by
    rw [hspoken]
    simp only [List.map_cons, List.map_nil, hfailure, hresult, hsilence]
    decide +kernel
  have hreport := hrun input
  rw [hprinted] at hreport
  exact ⟨hread, hprepare, hspoken, _, hreport⟩

end Abacus
