import Abacus.Proofs.Quotations
import Abacus.Proofs.Surfaces
import Abacus.Proofs.Tables
import Mathlib.Data.List.Infix

/-!
# Traces — what a command line reports about keys

The keys of a command line are pressed one after the other on a blank screen, and the command makes three
reports of this one run: a table with a row for each key, a code, and the records of the computations
that failed.  Each report is told by the screens that the first keys lead to:

* `Screen.ofLabels` — these screens;
* `CommandLine.getElem?_rows` — a row of the table, from the keys up to it;
* `CommandLine.ShowsRow`, `CommandLine.render_keysTable` — the lines that the table is printed on;
* `Screen.last_ofLabels_iff` — the outcome behind the code, that of the last `=` after the last `AC`;
* `CommandLine.failures`, `CommandLine.failureLines` — the computations that fail, and the lines of each;
* `CommandLine.render_keysLog` — these lines are all that is recorded;
* `keys_are_traced` — the three reports.
-/

namespace Abacus

/-! ## Labels -/

namespace Key

theorem ofLabel?_singleton {c : Char} (hc : c ∈ characters) :
    ofLabel? (String.singleton c) = ofChar? c := by
  have hall : characters.all (fun c => ofLabel? (String.singleton c) == ofChar? c) = true := by
    decide +kernel
  exact beq_iff_eq.1 (List.all_eq_true.1 hall c hc)

theorem ofLabel?_label (key : Key) : ofLabel? key.label = some key := by
  cases key with
  | digit c hc =>
      rw [label, ofLabel?_singleton (mem_characters_of_isNumeric hc), ofChar?, dif_pos hc]
  | operator c hc =>
      have hnumeric : ¬ isNumeric c = true := by simp [isNumeric_of_isMark hc]
      rw [label, ofLabel?_singleton (mem_characters_of_isMark hc), ofChar?, dif_neg hnumeric,
        dif_pos hc]
  | deleteLast => rfl
  | allClear => rfl
  | equals => rfl

theorem label_injective : Function.Injective label := by
  intro key other h
  have hkeys := ofLabel?_label key
  rw [h, ofLabel?_label other] at hkeys
  exact (Option.some.inj hkeys).symm

theorem filterMap_map_label (keys : List Key) : (keys.map label).filterMap ofLabel? = keys := by
  have hlabels : ofLabel? ∘ label = some := funext ofLabel?_label
  rw [List.filterMap_map, hlabels, List.filterMap_some]

theorem isLabel_label (key : Key) : isLabel key.label = true := by
  rw [← isSome_ofLabel?, ofLabel?_label]
  rfl

/-- Labels that pass the check are those of some keys. -/
theorem exists_eq_map_label {labels : List String} (hall : ∀ label ∈ labels, isLabel label = true) :
    ∃ keys : List Key, labels = keys.map label :=
  ⟨_, (map_label_filterMap hall).symm⟩

/-- A text over the characters of the keys is printed as it stands, and needs no escapes. -/
theorem printed_of_mem_characters {text : String} (h : ∀ c ∈ text.toList, c ∈ characters) :
    Text.IsLine text ∧ Text.quote text = "'" ++ text ++ "'" := by
  have hascii : characters.all Text.isAscii = true := by decide
  have hplain : characters.all (fun c => Text.isPrintable c = true ∧ c ≠ '\'' ∧ c ≠ '\\') = true := by
    decide +kernel
  refine ⟨(Text.isLine_of_ascii (List.all_eq_true.2 ?_)).2, Text.quote_of_printable ?_⟩
  · exact fun c hc => List.all_eq_true.1 hascii c (h c hc)
  · exact fun c hc => of_decide_eq_true (List.all_eq_true.1 hplain c (h c hc))

theorem isLine_label (key : Key) : Text.IsLine key.label := by
  have hall : labels.all (fun label => label.toList.all Text.isAscii) = true := by decide
  exact (Text.isLine_of_ascii (List.all_eq_true.1 hall key.label (isLabel_iff.1 (isLabel_label key)))).2

end Key

theorem Text.isAscii_natural (n : Nat) : (toString n).toList.all isAscii = true := by
  refine List.all_eq_true.2 ?_
  intro c hc
  have hdigit : c.isDigit = true := by
    have hdigits : (toString n).toList = Nat.toDigits 10 n := String.toList_ofList
    rw [hdigits] at hc
    exact Nat.isDigit_of_mem_toDigits (by decide) (by decide) hc
  simp only [Char.isDigit, Bool.and_eq_true, decide_eq_true_eq, ge_iff_le] at hdigit
  simp only [isAscii, Bool.and_eq_true, decide_eq_true_eq]
  exact ⟨UInt32.le_trans (by decide) hdigit.1, UInt32.le_trans hdigit.2 (by decide)⟩

/-! ## Screens -/

namespace Screen

variable {setup : Setup} {s : Screen} {keys : List Key}

/-- The screen that keys with these labels lead to, from a blank screen on. -/
def ofLabels (setup : Setup) (labels : List String) : Screen :=
  (blank setup).pressAll setup (labels.filterMap Key.ofLabel?)

theorem ofLabels_map (setup : Setup) (keys : List Key) :
    ofLabels setup (keys.map Key.label) = (blank setup).pressAll setup keys := by
  rw [ofLabels, Key.filterMap_map_label]

/-- Only `=` and `AC` change the last outcome. -/
theorem last_press {key : Key} (hequals : key ≠ .equals) (hclear : key ≠ .allClear) :
    (s.press setup key).last = s.last := by
  cases key with
  | digit c hc => rfl
  | operator c hc => rfl
  | deleteLast =>
      rw [press, deleteLast]
      split <;> rfl
  | allClear => exact absurd rfl hclear
  | equals => exact absurd rfl hequals

theorem last_pressAll (hequals : Key.equals ∉ keys) (hclear : Key.allClear ∉ keys) :
    (s.pressAll setup keys).last = s.last := by
  induction keys generalizing s with
  | nil =>
      rfl
  | cons key keys ih =>
      rw [List.mem_cons, not_or] at hequals hclear
      rw [pressAll_cons, ih hequals.2 hclear.2,
        last_press (Ne.symm hequals.1) (Ne.symm hclear.1)]

/-- The last outcome is that of the last `=`, unless `AC` came after it. -/
theorem last_pressAll_iff {outcome : Outcome} :
    ((blank setup).pressAll setup keys).last = some outcome ↔
      ∃ before after, keys = before ++ .equals :: after ∧ Key.equals ∉ after ∧
        Key.allClear ∉ after ∧
        evaluate setup.strict ((blank setup).pressAll setup before).expression = outcome := by
  constructor
  · -- The last key computes, or clears, or leaves the outcome as it was.
    induction keys using List.reverseRecOn with
    | nil =>
        intro hlast
        cases hlast
    | append_singleton keys key ih =>
        intro hlast
        have hpressed : (blank setup).pressAll setup (keys ++ [key]) =
            ((blank setup).pressAll setup keys).press setup key := pressAll_append _ _ _ _
        rw [hpressed] at hlast
        by_cases hequals : key = .equals
        · subst hequals
          have hcomputed := last_compute setup ((blank setup).pressAll setup keys)
          exact ⟨keys, [], rfl, List.not_mem_nil, List.not_mem_nil,
            Option.some.inj (hcomputed.symm.trans hlast)⟩
        · by_cases hclear : key = .allClear
          · subst hclear
            cases hlast
          · rw [last_press hequals hclear] at hlast
            obtain ⟨before, after, rfl, hnot, hkept, houtcome⟩ := ih hlast
            refine ⟨before, after ++ [key], by simp, ?_, ?_, houtcome⟩
            · simpa [hnot] using Ne.symm hequals
            · simpa [hkept] using Ne.symm hclear
  · rintro ⟨before, after, rfl, hnot, hkept, rfl⟩
    rw [pressAll_append, pressAll_cons, last_pressAll hnot hkept]
    exact last_compute setup _

/-- The same of labels. -/
theorem last_ofLabels_iff (setup : Setup) {labels : List String}
    (hall : ∀ label ∈ labels, Key.isLabel label = true) (outcome : Outcome) :
    (ofLabels setup labels).last = some outcome ↔
      ∃ before after, labels = before ++ "=" :: after ∧ "=" ∉ after ∧ "AC" ∉ after ∧
        evaluate setup.strict (ofLabels setup before).expression = outcome := by
  obtain ⟨keys, rfl⟩ := Key.exists_eq_map_label hall
  have hmem {key : Key} {after : List Key} : key.label ∈ after.map Key.label ↔ key ∈ after :=
    List.mem_map_of_injective Key.label_injective
  rw [ofLabels_map, last_pressAll_iff]
  -- Labels fall into the same parts as their keys.
  constructor
  · rintro ⟨before, after, rfl, hnot, hkept, houtcome⟩
    refine ⟨before.map Key.label, after.map Key.label, ?_, fun h => hnot (hmem.1 h),
      fun h => hkept (hmem.1 h), ?_⟩
    · rw [List.map_append, List.map_cons]
      rfl
    · rw [ofLabels_map, houtcome]
  · rintro ⟨front, back, hlabels, hnot, hkept, houtcome⟩
    obtain ⟨before, rest, rfl, rfl, hrest⟩ := List.map_eq_append_iff.1 hlabels
    obtain ⟨key, after, rfl, hkey, rfl⟩ := List.map_eq_cons_iff.1 hrest
    obtain rfl : key = .equals := Key.label_injective hkey
    refine ⟨before, after, rfl, fun h => hnot (hmem.2 h), fun h => hkept (hmem.2 h), ?_⟩
    rw [← ofLabels_map, houtcome]

end Screen

namespace CommandLine

variable {setup : Setup} {s : Screen} {keys : List Key} {labels : List String}

/-! ## Rows -/

/-- A step of the run leads to the screen of the keys up to it. -/
theorem getElem?_stepsOf (setup : Setup) (s : Screen) (keys : List Key) (i : Nat) :
    (stepsOf setup s keys)[i]? =
      keys[i]?.map fun key => (key.label, s.pressAll setup (keys.take (i + 1))) := by
  induction keys generalizing s i with
  | nil =>
      rfl
  | cons key keys ih =>
      rw [stepsOf]
      cases i with
      | zero => rfl
      | succ i => exact ih (s.press setup key) i

theorem length_stepsOf (setup : Setup) (s : Screen) (keys : List Key) :
    (stepsOf setup s keys).length = keys.length := by
  induction keys generalizing s with
  | nil => rfl
  | cons key keys ih => rw [stepsOf, List.length_cons, List.length_cons, ih]

theorem title_keysTable (steps : List (String × Screen)) :
    (keysTable steps).title = s!"Keys [{steps.length}]" := rfl

theorem length_rows (steps : List (String × Screen)) :
    (keysTable steps).rows.length = steps.length := by
  unfold keysTable
  rw [List.length_map, List.length_zipIdx]

/-- A row shows a label and the screen of the labels up to it. -/
theorem getElem?_rows (setup : Setup) (keys : List Key) (i : Nat) :
    (keysTable (stepsOf setup (.blank setup) keys)).rows[i]? =
      (keys.map Key.label)[i]?.map fun label =>
        keyRow (i + 1) label (Screen.ofLabels setup ((keys.map Key.label).take (i + 1))) := by
  have hscreen := Screen.ofLabels_map setup (keys.take (i + 1))
  rw [List.map_take] at hscreen
  unfold keysTable
  rw [List.getElem?_map, List.getElem?_zipIdx, getElem?_stepsOf, List.getElem?_map, Option.map_map,
    Option.map_map, Option.map_map, Nat.add_comm 1 i, hscreen]
  rfl

/-! ## Printed rows -/

/-- What a screen displays is text of its own, or the text that the setup displays before and in place of
results. -/
theorem isLine_display {setup : Setup} {screen : Screen} (h : screen.Consistent setup)
    (htexts : ∀ text ∈ [setup.placeholder, setup.errorMessage], screen.display = text →
      Text.IsLine text) : Text.IsLine screen.display := by
  rcases h.display_cases with hdisplay | hdisplay | hdisplay
  · rw [hdisplay]
    exact (Key.printed_of_mem_characters h.characters).1
  · rw [hdisplay]
    exact htexts _ List.mem_cons_self hdisplay
  · rw [hdisplay]
    exact htexts _ (List.mem_cons_of_mem _ List.mem_cons_self) hdisplay

theorem isLine_expression {setup : Setup} {screen : Screen} (h : screen.Consistent setup) :
    Text.IsLine (if screen.expression.isEmpty then "EMPTY" else screen.expression) := by
  split
  · exact (Text.isLine_of_ascii (by decide)).2
  · exact (Key.printed_of_mem_characters h.characters).1

/-- Lines that show a row: the first one shows the number, the label and the expression.  It shows the
display, too, and is the only line, unless a text of the setup is displayed that has line breaks. -/
def ShowsRow (setup : Setup) (index : Nat) (label : String) (screen : Screen) (block : List String) :
    Prop :=
  ∃ number key display expression rest,
    block = ("| " ++ " | ".intercalate [number, key, display, expression] ++ " |") :: rest ∧
      Table.Shows number (toString index) ∧ Table.Shows key label ∧
      Table.Shows expression (if screen.expression.isEmpty then "EMPTY" else screen.expression) ∧
      ((∀ text ∈ [setup.placeholder, setup.errorMessage], screen.display = text → Text.IsLine text) →
        Table.Shows display screen.display ∧ rest = [])

theorem showsRow_rowBlock {table : Table} {setup : Setup} {screen : Screen}
    (hpadded : table.isPadded = true) (h : screen.Consistent setup) {index : Nat} (key : Key)
    (hrow : keyRow index key.label screen ∈ table.rows) :
    ShowsRow setup index key.label screen (table.rowBlock (keyRow index key.label screen)) := by
  have hindex := (Text.isLine_of_ascii (Text.isAscii_natural index)).2
  obtain ⟨printed, rest, hblock, hshows, hrest⟩ :=
    Table.exists_rowBlock hpadded (Table.fits_widths (List.mem_append_right _ hrow))
  rw [hblock]
  unfold keyRow at hshows hrest
  obtain _ | ⟨hnumber, _ | ⟨hkey, _ | ⟨hdisplay, _ | ⟨hexpression, _ | _⟩⟩⟩⟩ := hshows
  refine ⟨_, _, _, _, rest, rfl, hnumber hindex, hkey key.isLine_label,
    hexpression (isLine_expression h), ?_⟩
  intro htexts
  -- The display is the only cell that could have line breaks.
  have hline := isLine_display h htexts
  refine ⟨hdisplay hline, hrest ?_⟩
  simp only [List.mem_cons, List.not_mem_nil, or_false, forall_eq_or_imp, forall_eq]
  exact ⟨hindex, key.isLine_label, hline, isLine_expression h⟩

/-- A table of keys is printed as a frame around the lines of its rows. -/
theorem render_keysTable (setup : Setup) (keys : List Key) :
    let table := keysTable (stepsOf setup (.blank setup) keys)
    ∃ title heads blocks,
      table.render = String.join (([title, table.border table.widths, heads,
        Table.separator table.widths] ++ List.flatten blocks ++ [table.border table.widths]).map
          (· ++ "\n")) ∧
      Table.Shows title table.title ∧ Table.IsRow heads ["#", "Key", "Display", "Expression"] ∧
      blocks.length = keys.length ∧
      ∀ i label, (keys.map Key.label)[i]? = some label →
        ∃ block, blocks[i]? = some block ∧
          ShowsRow setup (i + 1) label (Screen.ofLabels setup ((keys.map Key.label).take (i + 1)))
            block := by
  intro table
  have hascii : ["#", "Key", "Display", "Expression"].all (·.toList.all Text.isAscii) = true := by decide
  have hlines : ∀ cell ∈ ["#", "Key", "Display", "Expression"], Text.IsLine cell := fun cell hcell =>
    (Text.isLine_of_ascii (List.all_eq_true.1 hascii cell hcell)).2
  obtain ⟨heads, hheads, hrender⟩ := Table.render_of_heads (t := table) rfl hlines
  have htitle : Text.visible table.title.toList = table.title.toList := by
    refine (Text.isLine_of_ascii ?_).1
    rw [title_keysTable, String.toList_append, String.toList_append, List.all_append, List.all_append,
      Text.isAscii_natural]
    decide
  refine ⟨_, heads, table.rows.map table.rowBlock, hrender, table.shows_titleLine htitle, hheads, ?_, ?_⟩
  · rw [List.length_map, length_rows, length_stepsOf]
  · intro i label hlabel
    have hrow : table.rows[i]? = some (keyRow (i + 1) label
        (Screen.ofLabels setup ((keys.map Key.label).take (i + 1)))) := by
      rw [getElem?_rows, hlabel]
      rfl
    obtain ⟨key, -, rfl⟩ := List.mem_map.1 (List.mem_of_getElem? hlabel)
    refine ⟨_, by rw [List.getElem?_map, hrow, Option.map_some], ?_⟩
    exact showsRow_rowBlock rfl ((Screen.Consistent.blank setup).pressAll _) key
      (List.mem_of_getElem? hrow)

/-! ## Codes -/

theorem screenCode_eq_one_iff {screen : Screen} :
    screenCode screen = 1 ↔ ∃ fault, screen.last = some (.error fault) := by
  unfold screenCode
  cases hlast : screen.last with
  | none => simp
  | some outcome => cases outcome <;> simp [faultCode]

/-- The code tells the outcome of the last `=` after the last `AC`. -/
theorem screenCode_ofLabels_iff (setup : Setup) (hall : ∀ label ∈ labels, Key.isLabel label = true) :
    screenCode (Screen.ofLabels setup labels) = 1 ↔
      ∃ before after, labels = before ++ "=" :: after ∧ "=" ∉ after ∧ "AC" ∉ after ∧
        ∃ fault, evaluate setup.strict (Screen.ofLabels setup before).expression = .error fault := by
  have hlast := Screen.last_ofLabels_iff setup hall
  rw [screenCode_eq_one_iff]
  constructor
  · rintro ⟨fault, hfault⟩
    obtain ⟨before, after, hlabels, hnot, hkept, houtcome⟩ := (hlast (.error fault)).1 hfault
    exact ⟨before, after, hlabels, hnot, hkept, fault, houtcome⟩
  · rintro ⟨before, after, hlabels, hnot, hkept, fault, houtcome⟩
    exact ⟨fault, (hlast (.error fault)).2 ⟨before, after, hlabels, hnot, hkept, houtcome⟩⟩

theorem screenCode_le_one (screen : Screen) : screenCode screen ≤ 1 := by
  unfold screenCode
  cases hlast : screen.last with
  | none => simp
  | some outcome => cases outcome <;> simp [faultCode]

/-! ## Records -/

/-- The text and its fault, if it has no value. -/
def failure? (strict : Bool) (text : String) : Option (String × Fault) :=
  match evaluate strict text with
  | .ok _ => none
  | .error fault => some (text, fault)

/-- What each `=` finds on the screen, if it has no value. -/
def failures (setup : Setup) (labels : List String) : List (String × Fault) :=
  (labels.inits.zip labels).filterMap fun (before, label) =>
    if label = "=" then failure? setup.strict (Screen.ofLabels setup before).expression else none

def evaluationLine (text : String) (fault : Fault) : String :=
  "DEBUG:stack_calc.evaluator:Evaluation of " ++ Text.quote text ++ " failed: " ++ fault.message ++
    " (" ++ fault.kind.name ++ ")\n"

def computationLine (text : String) (fault : Fault) : String :=
  "INFO:stack_calc.input_buffer:Compute failed for " ++ Text.quote text ++ ": " ++
    fault.kind.name ++ "\n"

/-- The lines of an evaluation that fails and of its computation, as the threshold lets them through. -/
def failureLines (threshold : Log.Level) : String × Fault → String
  | (text, fault) =>
      (if threshold.severity ≤ Log.Level.debug.severity then evaluationLine text fault else "") ++
        if threshold.severity ≤ Log.Level.info.severity then computationLine text fault else ""

theorem render_append (threshold : Log.Level) (records more : List Log.Record) :
    Log.render threshold (records ++ more) =
      Log.render threshold records ++ Log.render threshold more := by
  unfold Log.render
  rw [List.filter_append, List.map_append, String.join_append]

theorem render_singleton (threshold : Log.Level) (record : Log.Record) :
    Log.render threshold [record] =
      if threshold.severity ≤ record.level.severity then record.line else "" := by
  unfold Log.render
  by_cases h : threshold.severity ≤ record.level.severity
  · simp [h]
  · simp [h]

theorem toString_text (text : String) : toString text = text := rfl

/-- A failed evaluation is recorded by one line. -/
theorem render_ofEvaluation (threshold : Log.Level) (text : String) (fault : Fault) :
    Log.render threshold (Log.ofEvaluation text (.error fault)) =
      if threshold.severity ≤ Log.Level.debug.severity then evaluationLine text fault else "" := by
  have hstart : "DEBUG:stack_calc.evaluator:Evaluation of " =
      "DEBUG" ++ ":" ++ "stack_calc.evaluator" ++ ":" ++ "Evaluation of " := by decide
  have hend : ")\n" = ")" ++ "\n" := by decide
  rw [Log.ofEvaluation, render_singleton]
  unfold Log.Record.line evaluationLine
  simp only [Log.Level.name, hstart, hend, toString_text, String.append_assoc]

/-- A failed computation is recorded by one line after that of its evaluation. -/
theorem render_ofCompute (threshold : Log.Level) (strict : Bool) (text : String) :
    Log.render threshold (Log.ofCompute text (evaluate strict text)) =
      ((failure? strict text).map (failureLines threshold)).getD "" := by
  unfold failure? Log.ofCompute
  cases evaluate strict text with
  | ok value => rfl
  | error fault =>
      have hstart : "INFO:stack_calc.input_buffer:Compute failed for " =
          "INFO" ++ ":" ++ "stack_calc.input_buffer" ++ ":" ++ "Compute failed for " := by decide
      rw [render_append, render_ofEvaluation, render_singleton, Option.map_some, Option.getD_some,
        failureLines]
      unfold Log.Record.line computationLine
      simp only [Log.Level.name, hstart, toString_text, String.append_assoc]

theorem render_flatMap {α : Type} (threshold : Log.Level) (records : α → List Log.Record)
    (actions : List α) :
    Log.render threshold (actions.flatMap records) =
      String.join (actions.map fun a => Log.render threshold (records a)) := by
  induction actions with
  | nil => rfl
  | cons a actions ih => rw [List.flatMap_cons, render_append, ih, List.map_cons, String.join_cons]

/-- Of many actions, those that leave nothing can be left out. -/
theorem join_filterMap {α β : Type} (event? : α → Option β) (lines : β → String) (actions : List α) :
    String.join (actions.map fun a => ((event? a).map lines).getD "") =
      String.join ((actions.filterMap event?).map lines) := by
  induction actions with
  | nil => rfl
  | cons a actions ih =>
      rw [List.map_cons, String.join_cons, ih]
      cases hevent : event? a with
      | none =>
          rw [List.filterMap_cons_none hevent]
          simp
      | some event =>
          rw [List.filterMap_cons_some hevent, List.map_cons, String.join_cons]
          rfl

/-- Each key leaves its records on the screen that the keys before it lead to. -/
theorem keysLog_stepsOf (setup : Setup) (s : Screen) (keys : List Key) :
    keysLog setup s (stepsOf setup s keys) =
      (keys.inits.zip keys).flatMap fun (before, key) =>
        Log.ofPress setup (s.pressAll setup before) key.label := by
  induction keys generalizing s with
  | nil => rfl
  | cons key keys ih =>
      rw [stepsOf, keysLog, ih, List.inits_cons, List.zip_cons_cons, List.flatMap_cons,
        List.zip_map_left, List.flatMap_map]
      rfl

/-- All that is recorded of the keys are the lines of the computations that fail. -/
theorem render_keysLog (threshold : Log.Level) (setup : Setup) (keys : List Key) :
    Log.render threshold (keysLog setup (.blank setup) (stepsOf setup (.blank setup) keys)) =
      String.join ((failures setup (keys.map Key.label)).map (failureLines threshold)) := by
  rw [keysLog_stepsOf, render_flatMap]
  unfold failures
  rw [List.map_inits, List.zip_map, List.filterMap_map, ← join_filterMap]
  refine congrArg String.join (List.map_congr_left ?_)
  rintro ⟨before, key⟩ -
  -- Only `=` leaves records, and only its label is looked for among the failures.
  unfold Log.ofPress
  by_cases hequals : key.label = "="
  · have hpressed := Screen.ofLabels_map setup before
    simp only [Function.comp_apply, Prod.map_apply, if_pos hequals, hpressed]
    exact render_ofCompute threshold setup.strict _
  · simp only [Function.comp_apply, Prod.map_apply, if_neg hequals]
    rfl

/-- Expressions that fail are quoted as they stand. -/
theorem quote_of_mem_failures (setup : Setup) (labels : List String) {failure : String × Fault}
    (h : failure ∈ failures setup labels) : Text.quote failure.1 = "'" ++ failure.1 ++ "'" := by
  obtain ⟨⟨before, label⟩, -, hfailure⟩ := List.mem_filterMap.1 h
  have hscreen : (Screen.ofLabels setup before).Consistent setup :=
    (Screen.Consistent.blank setup).pressAll _
  refine (Key.printed_of_mem_characters ?_).2
  dsimp only at hfailure
  split at hfailure
  · unfold failure? at hfailure
    split at hfailure
    · cases hfailure
    · cases hfailure
      exact hscreen.characters
  · cases hfailure

/-! ## Reports -/

/-- A label that no key has is named, and no key is pressed. -/
theorem keysReport_of_unknown {settings : Settings} {threshold : Log.Level}
    (hunknown : ∃ label ∈ labels, Key.isLabel label = false) :
    keysReport settings threshold labels =
      ⟨1, "", "Błąd: nieobsługiwane klawisze: " ++
        " ".intercalate (labels.filter fun label => !Key.isLabel label) ++ "\n"⟩ := by
  unfold keysReport
  split
  · rename_i hnone
    exact absurd hnone (Service.filter_unknown_ne_nil hunknown)
  · rfl

theorem keysReport_map (settings : Settings) (threshold : Log.Level) (keys : List Key) :
    keysReport settings threshold (keys.map Key.label) =
      ⟨screenCode (Screen.ofLabels settings.setup (keys.map Key.label)),
        (keysTable (stepsOf settings.setup (.blank settings.setup) keys)).render,
        String.join ((failures settings.setup (keys.map Key.label)).map
          (failureLines threshold))⟩ := by
  have hall : ∀ label ∈ keys.map Key.label, Key.isLabel label = true := by
    intro label hlabel
    obtain ⟨key, -, rfl⟩ := List.mem_map.1 hlabel
    exact key.isLabel_label
  rw [keysReport_of_labels hall, Key.filterMap_map_label, render_keysLog, Screen.ofLabels_map]

end CommandLine

/-- What the command for keys reports, for settings with a known log level.  Labels that no key has are
named in their order, and nothing else happens.  Otherwise the table of the trace has a row for each key,
with the screen after the keys up to it, and is printed as a frame around the lines of these rows; the
code tells whether the last `=`, if no `AC` came after it, failed; and the records are those of the failed
computations in their order, one line of the evaluation and one of the screen for each, as far as the log
level lets them through. -/
theorem keys_are_traced {words labels : List String} {strict : Bool}
    {environment : List (String × String)} {settings : Settings} {threshold : Log.Level}
    (hread : CommandLine.readInvocation words = .ok ⟨strict, .keys labels⟩)
    (hprepare : CommandLine.prepare environment = .ok (settings, threshold)) (input : String) :
    let setup := { settings.setup with strict := strict || settings.strictScanner }
    ∃ report, CommandLine.run words input environment = .ok (.finished report) ∧
      ((∃ label ∈ labels, Key.isLabel label = false) →
        report = ⟨1, "", "Błąd: nieobsługiwane klawisze: " ++
          " ".intercalate (labels.filter fun label => !Key.isLabel label) ++ "\n"⟩) ∧
      ((∀ label ∈ labels, Key.isLabel label = true) →
        (∃ steps, CommandLine.trace setup (.blank setup) labels = (steps, none) ∧
          let table := CommandLine.keysTable steps
          report.output = table.render ∧
          table.title = s!"Keys [{labels.length}]" ∧
          table.heads = some ["#", "Key", "Display", "Expression"] ∧
          table.rows.length = labels.length ∧
          (∀ i label, labels[i]? = some label →
            let screen := Screen.ofLabels setup (labels.take (i + 1))
            table.rows[i]? = some [toString (i + 1), label, screen.display,
              if screen.expression.isEmpty then "EMPTY" else screen.expression]) ∧
          ∃ (title heads : String) (blocks : List (List String)),
            report.output = String.join (([title, table.border table.widths, heads,
              Table.separator table.widths] ++ blocks.flatten ++ [table.border table.widths]).map
                (· ++ "\n")) ∧
            Table.Shows title s!"Keys [{labels.length}]" ∧
            Table.IsRow heads ["#", "Key", "Display", "Expression"] ∧
            blocks.length = labels.length ∧
            ∀ i label, labels[i]? = some label →
              ∃ block, blocks[i]? = some block ∧ CommandLine.ShowsRow setup (i + 1) label
                (Screen.ofLabels setup (labels.take (i + 1))) block) ∧
        report.code ≤ 1 ∧
        (report.code = 1 ↔
          ∃ before after, labels = before ++ "=" :: after ∧ "=" ∉ after ∧ "AC" ∉ after ∧
            ∃ fault,
              evaluate setup.strict (Screen.ofLabels setup before).expression = .error fault) ∧
        report.errors = String.join ((CommandLine.failures setup labels).map
          (CommandLine.failureLines threshold)) ∧
        ∀ failure ∈ CommandLine.failures setup labels,
          Text.quote failure.1 = "'" ++ failure.1 ++ "'") := by
  intro setup
  have hsetup : (CommandLine.settingsOf settings ⟨strict, .keys labels⟩).setup = setup := rfl
  have hrun : CommandLine.run words input environment = .ok (.finished (CommandLine.keysReport
      (CommandLine.settingsOf settings ⟨strict, .keys labels⟩) threshold labels)) :=
    CommandLine.run_of_invocation hread hprepare input
  refine ⟨_, hrun, ?_, ?_⟩
  · intro hunknown
    exact CommandLine.keysReport_of_unknown hunknown
  · intro hall
    have hcode := CommandLine.screenCode_ofLabels_iff setup hall
    have htrace := CommandLine.trace_of_isLabel setup hall (.blank setup)
    obtain ⟨keys, rfl⟩ := Key.exists_eq_map_label hall
    have hreport := CommandLine.keysReport_map
      (CommandLine.settingsOf settings ⟨strict, .keys (keys.map Key.label)⟩) threshold keys
    have hsteps := CommandLine.length_stepsOf setup (.blank setup) keys
    rw [hsetup] at hreport
    rw [Key.filterMap_map_label] at htrace
    rw [hreport]
    dsimp only
    refine ⟨⟨_, htrace, rfl, ?_, rfl, ?_, ?_, ?_⟩, CommandLine.screenCode_le_one _, hcode, rfl, ?_⟩
    · rw [CommandLine.title_keysTable, hsteps, List.length_map]
    · rw [CommandLine.length_rows, hsteps, List.length_map]
    · intro i label hlabel
      rw [CommandLine.getElem?_rows, hlabel]
      rfl
    · obtain ⟨title, heads, blocks, hrender, htitle, hheads, hlength, hrows⟩ :=
        CommandLine.render_keysTable setup keys
      rw [CommandLine.title_keysTable, hsteps] at htitle
      rw [List.length_map]
      exact ⟨title, heads, blocks, hrender, htitle, hheads, hlength, hrows⟩
    · intro failure hfailure
      exact CommandLine.quote_of_mem_failures setup _ hfailure

/-- Two computations fail, the second one on what `C` has left of the text, and a digit comes after it. -/
theorem keys_are_traced_failing :
    let environment := [("STACK_CALC_LOG_LEVEL", "debug")]
    let labels := ["AC", "1", "/", "0", "=", "C", "=", "7"]
    CommandLine.readInvocation ("keys" :: labels) = .ok ⟨false, .keys labels⟩ ∧
      (∃ report, CommandLine.run ("keys" :: labels) "" environment = .ok (.finished report) ∧
        report.code = 1 ∧
        report.errors = "DEBUG:stack_calc.evaluator:Evaluation of '1/0' failed: " ++
          "Dzielenie przez zero: 1 / 0 (division_by_zero)\n" ++
          "INFO:stack_calc.input_buffer:Compute failed for '1/0': division_by_zero\n" ++
          "DEBUG:stack_calc.evaluator:Evaluation of '1/' failed: " ++
          "Brak operandu dla operatora '/' (malformed_expression)\n" ++
          "INFO:stack_calc.input_buffer:Compute failed for '1/': malformed_expression\n" ∧
        report.output = String.join (["             Keys [8]             ",
          "+--------------------------------+",
          "| # | Key | Display | Expression |",
          "|---+-----+---------+------------|",
          "| 1 | AC  | 0       | EMPTY      |",
          "| 2 | 1   | 1       | 1          |",
          "| 3 | /   | 1/      | 1/         |",
          "| 4 | 0   | 1/0     | 1/0        |",
          "| 5 | =   | Error   | 1/0        |",
          "| 6 | C   | 1/      | 1/         |",
          "| 7 | =   | Error   | 1/         |",
          "| 8 | 7   | 7       | 7          |",
          "+--------------------------------+"].map (· ++ "\n"))) ∧
      CommandLine.run ["keys", "1", "x", "=", "yy"] "" environment =
        .ok (.finished ⟨1, "", "Błąd: nieobsługiwane klawisze: x yy\n"⟩) := by
  intro environment labels
  have hprepare : CommandLine.prepare environment = .ok ({ logLevel := "debug" }, .debug) := by
    decide +kernel
  have hread : CommandLine.readInvocation ("keys" :: labels) = .ok ⟨false, .keys labels⟩ := by
    decide +kernel
  have hread' : CommandLine.readInvocation ["keys", "1", "x", "=", "yy"] =
      .ok ⟨false, .keys ["1", "x", "=", "yy"]⟩ := by
    decide +kernel
  obtain ⟨report, hrun, -, htraced⟩ := keys_are_traced hread hprepare ""
  obtain ⟨report', hrun', hrefused, -⟩ := keys_are_traced hread' hprepare ""
  obtain ⟨⟨steps, htrace, houtput, -⟩, -, hcode, herrors, -⟩ := htraced (by decide +kernel)
  refine ⟨hread, ⟨report, hrun, hcode.2 ⟨["AC", "1", "/", "0", "=", "C"], ["7"], rfl,
    by decide, by decide, .missingOperand .divide, by decide +kernel⟩,
    herrors.trans (by decide +kernel), ?_⟩, ?_⟩
  · obtain rfl : _ = steps := congrArg Prod.fst htrace
    rw [houtput]
    decide +kernel
  · rw [hrun', hrefused ⟨"x", by decide, by decide +kernel⟩]
    decide +kernel

end Abacus
