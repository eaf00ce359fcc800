import Abacus.Proofs.Alphabet
import Abacus.Proofs.Finiteness
import Abacus.Proofs.ResultText
import Abacus.Screen

/-!
# Screens — what holds between the fields of a screen

Seven operations change a screen, each of them some of its four fields.  Those that are not refused
press a key, so one case for each key decides what every run of operations keeps:

* `Screen.Call`, `Screen.perform`, `Screen.run` — the operations and their runs;
* `Screen.exists_key_of_perform` — an operation that is not refused presses a key;
* `Screen.Consistent` — the relation between the fields;
* `Screen.Consistent.press` — every key keeps it;
* `Screen.Consistent.pressAll_mode` — hence a keypad works alike in both modes of evaluation;
* `run_consistent` — what holds after every run.
-/

namespace Abacus

namespace Screen

/-! ## Operations -/

/-- The operations on a screen; the texts need not be labels of keys. -/
inductive Call
  | append (label : String)
  | typeDigit (label : String)
  | typeOperator (label : String)
  | deleteLast
  | clear
  | compute
  | press (label : String)

def perform (setup : Setup) (s : Screen) : Call → Except Key.Refusal Screen
  | .append label => s.append label
  | .typeDigit label => s.typeDigit label
  | .typeOperator label => s.typeOperator label
  | .deleteLast => .ok s.deleteLast
  | .clear => .ok (blank setup)
  | .compute => .ok (s.compute setup)
  | .press label => s.pressLabel setup label

/-- A refused operation leaves the screen as it was. -/
def after (setup : Setup) (s : Screen) (call : Call) : Screen :=
  match s.perform setup call with
  | .ok next => next
  | .error _ => s

/-- The screen after any operations, from a blank screen on. -/
def run (setup : Setup) (calls : List Call) : Screen := calls.foldl (after setup) (blank setup)

/-- An operation that is not refused does what some key does. -/
theorem exists_key_of_perform {setup : Setup} {s next : Screen} {call : Call}
    (h : s.perform setup call = .ok next) : ∃ key : Key, s.press setup key = next := by
  cases call with
  | append label =>
      simp only [perform, append] at h
      split at h
      · rename_i c hc _
        exact ⟨.digit c hc, Except.ok.inj h⟩
      · rename_i c hc _
        exact ⟨.operator c hc, Except.ok.inj h⟩
      · cases h
  | typeDigit label =>
      simp only [perform, typeDigit] at h
      split at h
      · rename_i c hc _
        exact ⟨.digit c hc, Except.ok.inj h⟩
      · cases h
  | typeOperator label =>
      simp only [perform, typeOperator] at h
      split at h
      · rename_i c hc _
        exact ⟨.operator c hc, Except.ok.inj h⟩
      · cases h
  | deleteLast =>
      exact ⟨.deleteLast, Except.ok.inj h⟩
  | clear =>
      exact ⟨.allClear, Except.ok.inj h⟩
  | compute =>
      exact ⟨.equals, Except.ok.inj h⟩
  | press label =>
      simp only [perform, pressLabel] at h
      split at h
      · rename_i key _
        exact ⟨key, Except.ok.inj h⟩
      · cases h

/-! ## Computing -/

theorem compute_of_ok {setup : Setup} {screen : Screen} {value : Binary64}
    (h : evaluate setup.strict screen.expression = .ok value) :
    screen.compute setup = ⟨value.resultText, value.resultText, true, some (.ok value)⟩ := by
  unfold compute
  rw [h]

theorem compute_of_error {setup : Setup} {screen : Screen} {fault : Fault}
    (h : evaluate setup.strict screen.expression = .error fault) :
    screen.compute setup =
      ⟨screen.expression, setup.errorMessage, true, some (.error fault)⟩ := by
  unfold compute
  rw [h]

theorem last_compute (setup : Setup) (screen : Screen) :
    (screen.compute setup).last = some (evaluate setup.strict screen.expression) := by
  unfold compute
  cases evaluate setup.strict screen.expression <;> rfl

/-! ## The relation between the fields -/

/-- What holds between the fields of a screen.  A fresh screen shows the placeholder, a result or what
deleting has left of it, or the error message over the text that failed or what deleting has left of
that; any other screen shows its expression. -/
structure Consistent (setup : Setup) (s : Screen) : Prop where
  characters : ∀ c ∈ s.expression.toList, c ∈ Key.characters
  evaluated : ∀ outcome, s.last = some outcome → ∃ text, evaluate setup.strict text = outcome
  edited : s.fresh = false → s.display = s.expression
  cleared : s.fresh = true → s.last = none → s.expression = "" ∧ s.display = setup.placeholder
  succeeded : ∀ value, s.fresh = true → s.last = some (.ok value) →
    s.expression.toList <+: value.resultText.toList ∧ s.display = s.expression
  failed : ∀ fault, s.fresh = true → s.last = some (.error fault) →
    ∃ text, evaluate setup.strict text = .error fault ∧
      (s.expression = text ∧ s.display = setup.errorMessage ∨
        s.expression.toList <+: text.toList ∧ s.expression ≠ text ∧ s.display = s.expression)

/-- Results are written with characters of the keypad. -/
theorem mem_characters_of_resultText {value : Binary64} (hfinite : value.isFinite = true) :
    ∀ c ∈ value.resultText.toList, c ∈ Key.characters := by
  cases value with
  | infinite negative => cases hfinite
  | nan => cases hfinite
  | finite negative k =>
      rcases Binary64.exists_resultText negative k with ⟨whole, fraction, htext, hlayout⟩
      intro c hc
      rw [htext, Binary64.signed, String.toList_ofList] at hc
      have hunsigned : c ∈ whole ++ '.' :: fraction → c ∈ Key.characters := fun hmem =>
        Key.mem_characters_of_isNumeric (hlayout.isNumeric c hmem)
      cases negative with
      | false => exact hunsigned hc
      | true =>
          rcases List.mem_cons.1 hc with rfl | hmem
          · decide
          · exact hunsigned hmem

theorem pressAll_cons (setup : Setup) (s : Screen) (key : Key) (keys : List Key) :
    s.pressAll setup (key :: keys) = (s.press setup key).pressAll setup keys :=
  rfl

theorem pressAll_append (setup : Setup) (s : Screen) (keys more : List Key) :
    s.pressAll setup (keys ++ more) = (s.pressAll setup keys).pressAll setup more :=
  List.foldl_append

namespace Consistent

variable {setup : Setup} {s : Screen}

theorem blank (setup : Setup) : Consistent setup (Screen.blank setup) where
  characters := by simp [Screen.blank]
  evaluated := by simp [Screen.blank]
  edited := by simp [Screen.blank]
  cleared := by simp [Screen.blank]
  succeeded := by simp [Screen.blank]
  failed := by simp [Screen.blank]

/-- Typing leaves a screen that is not fresh and shows its expression. -/
theorem typed {text : String} {last : Option Outcome}
    (hcharacters : ∀ c ∈ text.toList, c ∈ Key.characters)
    (hlast : ∀ outcome, last = some outcome → ∃ text, evaluate setup.strict text = outcome) :
    Consistent setup ⟨text, text, false, last⟩ where
  characters := hcharacters
  evaluated := hlast
  edited := fun _ => rfl
  cleared := by simp
  succeeded := by simp
  failed := by simp

theorem enterDigit (h : Consistent setup s) {c : Char} (hc : isNumeric c = true) :
    Consistent setup (s.enterDigit c) := by
  refine typed ?_ h.evaluated
  intro d hd
  rw [String.toList_push, List.mem_append, List.mem_singleton] at hd
  rcases hd with hd | rfl
  · -- The old expression stays unless the screen is fresh.
    by_cases hfresh : s.fresh = true
    · simp [hfresh] at hd
    · simp only [hfresh] at hd
      exact h.characters d hd
  · exact Key.mem_characters_of_isNumeric hc

theorem enterOperator (h : Consistent setup s) {c : Char} (hc : isMark c = true) :
    Consistent setup (s.enterOperator c) := by
  refine typed ?_ h.evaluated
  intro d hd
  rw [String.toList_push, List.mem_append, List.mem_singleton] at hd
  rcases hd with hd | rfl
  · exact h.characters d hd
  · exact Key.mem_characters_of_isMark hc

/-- What deleting leaves of a text that is not empty is another text. -/
theorem ofList_dropLast_ne {text : String} (hne : text.isEmpty = false) :
    String.ofList text.toList.dropLast ≠ text := by
  intro heq
  have hlength := congrArg (fun t => t.toList.length) heq
  simp only [String.toList_ofList, List.length_dropLast] at hlength
  have hpos : 0 < text.toList.length := by
    refine List.length_pos_iff.2 ?_
    intro hnil
    rw [String.toList_eq_nil_iff.1 hnil] at hne
    cases hne
  omega

theorem deleteLast (h : Consistent setup s) : Consistent setup s.deleteLast := by
  unfold Screen.deleteLast
  by_cases hempty : s.expression.isEmpty = true
  · rw [if_pos hempty]
    exact h
  · rw [if_neg hempty]
    have hshorter : s.expression.toList.dropLast <+: s.expression.toList := List.dropLast_prefix _
    have hne := ofList_dropLast_ne (Bool.eq_false_iff.2 hempty)
    refine ⟨?_, h.evaluated, fun _ => rfl, ?_, ?_, ?_⟩
    · intro c hc
      rw [String.toList_ofList] at hc
      exact h.characters c (hshorter.subset hc)
    · -- A cleared screen has nothing to delete.
      intro hfresh hlast
      rw [(h.cleared hfresh hlast).1] at hempty
      exact absurd rfl hempty
    · intro value hfresh hlast
      rw [String.toList_ofList]
      exact ⟨hshorter.trans (h.succeeded value hfresh hlast).1, rfl⟩
    · intro fault hfresh hlast
      rcases h.failed fault hfresh hlast with ⟨text, htext, ⟨rfl, -⟩ | ⟨hpart, hdiffers, -⟩⟩
      · refine ⟨s.expression, htext, Or.inr ⟨?_, hne, rfl⟩⟩
        rw [String.toList_ofList]
        exact hshorter
      · refine ⟨text, htext, Or.inr ⟨?_, ?_, rfl⟩⟩
        · rw [String.toList_ofList]
          exact hshorter.trans hpart
        · -- A shorter part of a part is no longer than the text, and so not the text.
          rintro rfl
          rw [String.toList_ofList] at hpart
          have hwhole := hshorter.eq_of_length_le hpart.length_le
          exact hne (by rw [hwhole, String.ofList_toList])

theorem compute (h : Consistent setup s) : Consistent setup (s.compute setup) := by
  unfold Screen.compute
  cases houtcome : evaluate setup.strict s.expression with
  | ok value =>
      refine ⟨mem_characters_of_resultText (evaluate_isFinite houtcome), ?_, by simp, by simp, ?_,
        by simp⟩
      · rintro outcome hlast
        cases hlast
        exact ⟨s.expression, houtcome⟩
      · rintro value' - hlast
        cases hlast
        exact ⟨List.prefix_rfl, rfl⟩
  | error fault =>
      refine ⟨h.characters, ?_, by simp, by simp, by simp, ?_⟩
      · rintro outcome hlast
        cases hlast
        exact ⟨s.expression, houtcome⟩
      · rintro fault' - hlast
        cases hlast
        exact ⟨s.expression, houtcome, Or.inl ⟨rfl, rfl⟩⟩

theorem press (h : Consistent setup s) (key : Key) : Consistent setup (s.press setup key) := by
  cases key with
  | digit c hc => exact h.enterDigit hc
  | operator c hc => exact h.enterOperator hc
  | deleteLast => exact h.deleteLast
  | allClear => exact blank setup
  | equals => exact h.compute

theorem pressAll (h : Consistent setup s) (keys : List Key) :
    Consistent setup (s.pressAll setup keys) := by
  induction keys generalizing s with
  | nil =>
      exact h
  | cons key keys ih =>
      exact ih (h.press key)

/-- What a screen displays is its expression or one of the texts of its setup. -/
theorem display_cases (h : Consistent setup s) :
    s.display = s.expression ∨ s.display = setup.placeholder ∨ s.display = setup.errorMessage := by
  cases hfresh : s.fresh with
  | false =>
      exact Or.inl (h.edited hfresh)
  | true =>
      match hlast : s.last with
      | none => exact Or.inr (Or.inl (h.cleared hfresh hlast).2)
      | some (.ok value) => exact Or.inl (h.succeeded value hfresh hlast).2
      | some (.error fault) =>
          rcases h.failed fault hfresh hlast with ⟨text, -, ⟨-, hdisplay⟩ | ⟨-, -, hdisplay⟩⟩
          · exact Or.inr (Or.inr hdisplay)
          · exact Or.inl hdisplay

theorem isKnown (h : Consistent setup s) : ∀ c ∈ s.expression.toList, isKnown c = true := by
  intro c hc
  exact isKnown_of_mem_characters (h.characters c hc)

/-- Screens hold no foreign characters, on which the modes would differ. -/
theorem press_mode (h : s.Consistent setup) (key : Key) (mode : Bool) :
    s.press { setup with strict := mode } key = s.press setup key := by
  cases key with
  | digit c hc => rfl
  | operator c hc => rfl
  | deleteLast => rfl
  | allClear => rfl
  | equals =>
      have hmode := evaluate_mode h.isKnown mode setup.strict
      simp only [Screen.press, Screen.compute, hmode]

/-- A keypad works alike in both modes. -/
theorem pressAll_mode (h : s.Consistent setup) (keys : List Key) (mode : Bool) :
    s.pressAll { setup with strict := mode } keys = s.pressAll setup keys := by
  induction keys generalizing s with
  | nil =>
      rfl
  | cons key keys ih =>
      rw [pressAll_cons, pressAll_cons, h.press_mode key mode]
      exact ih (h.press key)

theorem after (h : Consistent setup s) (call : Call) : Consistent setup (s.after setup call) := by
  unfold Screen.after
  cases hcall : s.perform setup call with
  | error refusal =>
      exact h
  | ok next =>
      rcases exists_key_of_perform hcall with ⟨key, rfl⟩
      exact h.press key

theorem run (setup : Setup) (calls : List Call) : Consistent setup (Screen.run setup calls) := by
  unfold Screen.run
  have hall : ∀ s, Consistent setup s → Consistent setup (calls.foldl (Screen.after setup) s) := by
    induction calls with
    | nil =>
        exact fun s hs => hs
    | cons call calls ih =>
        exact fun s hs => ih (s.after setup call) (hs.after call)
  exact hall (Screen.blank setup) (blank setup)

end Consistent

end Screen

/-! ## Runs -/

/-- After every run of operations the fields of the screen are consistent, its expression has the same
outcome in both modes and no unexpected character, and an operation that is refused changes nothing. -/
theorem run_consistent (setup : Setup) (calls : List Screen.Call) :
    (Screen.run setup calls).Consistent setup ∧
      evaluate true (Screen.run setup calls).expression =
        evaluate false (Screen.run setup calls).expression ∧
      (∀ strict fault, evaluate strict (Screen.run setup calls).expression = .error fault →
        fault.kind ≠ .unexpectedCharacter) ∧
      ∀ call refusal, (Screen.run setup calls).perform setup call = .error refusal →
        Screen.run setup (calls ++ [call]) = Screen.run setup calls := by
  have hconsistent := Screen.Consistent.run setup calls
  refine ⟨hconsistent, evaluate_eq_of_isKnown hconsistent.isKnown, ?_, ?_⟩
  · intro strict fault hfault
    exact kind_ne_unexpectedCharacter hconsistent.isKnown hfault
  · intro call refusal hrefused
    unfold Screen.run at hrefused ⊢
    rw [List.foldl_append]
    simp [Screen.after, hrefused]

/-- A result less its last character, a text that failed, and what `C` has left of it: all three screens
are fresh. -/
example :
    let screens := [["8", "/", "2", "=", "C"], ["1", "/", "0", "="], ["1", "/", "0", "=", "C"]].map
      fun labels => Screen.run {} (labels.map .press)
    screens.map (fun s => (s.expression, s.display, s.fresh, s.last)) =
      [("4.", "4.", true, some (evaluate false "8/2")),
        ("1/0", "Error", true, some (evaluate false "1/0")),
        ("1/", "1/", true, some (evaluate false "1/0"))] := by
  decide +kernel

end Abacus
