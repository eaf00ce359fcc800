import Abacus.Proofs.Screens

/-!
# Appearance — screens that look alike

A screen shows its expression and its display, and it is fresh or not; the last outcome is only kept.  No
key reads the outcome, and `=` and `AC` put a new one in its place.  So screens that look alike stay
alike under all keys, and after one of these two nothing is left to tell them apart:

* `Screen.LooksLike` — screens that differ in the last outcome at most;
* `Screen.LooksLike.press`, `Screen.LooksLike.press_eq` — one key, and one of these two;
* `Screen.LooksLike.pressAll`, `Screen.LooksLike.pressAll_eq` — any keys, and keys with one of these two;
* `failure_loses_nothing` — an expression that failed is gone on with as if it had not been tried;
* `past_forgotten` — a new expression does not depend on what was done before.
-/

namespace Abacus

namespace Screen

/-- The screens differ in the last outcome at most. -/
structure LooksLike (s t : Screen) : Prop where
  expression : s.expression = t.expression
  display : s.display = t.display
  fresh : s.fresh = t.fresh

variable {s t : Screen}

/-! ## Screens that come to look alike -/

/-- What is typed is shown, and it is not fresh. -/
theorem LooksLike.typed (text : String) (last other : Option Outcome) :
    LooksLike ⟨text, text, false, last⟩ ⟨text, text, false, other⟩ :=
  ⟨rfl, rfl, rfl⟩

/-- An operator goes on with the expression, whatever the display shows. -/
theorem looksLike_enterOperator (h : s.expression = t.expression) (c : Char) :
    (s.enterOperator c).LooksLike (t.enterOperator c) := by
  unfold enterOperator
  rw [h]
  exact LooksLike.typed _ s.last t.last

/-- On fresh screens a digit starts anew, whatever they hold. -/
theorem looksLike_enterDigit_of_fresh (hs : s.fresh = true) (ht : t.fresh = true) (c : Char) :
    (s.enterDigit c).LooksLike (t.enterDigit c) := by
  unfold enterDigit
  rw [if_pos hs, if_pos ht]
  exact LooksLike.typed _ s.last t.last

namespace LooksLike

variable {setup : Setup}

/-! ## Keys on screens that look alike -/

theorem enterDigit (h : s.LooksLike t) (c : Char) :
    (s.enterDigit c).LooksLike (t.enterDigit c) := by
  unfold Screen.enterDigit
  rw [h.expression, h.fresh]
  exact typed _ s.last t.last

theorem deleteLast (h : s.LooksLike t) : s.deleteLast.LooksLike t.deleteLast := by
  unfold Screen.deleteLast
  rw [h.expression]
  by_cases hempty : t.expression.isEmpty = true
  · rw [if_pos hempty, if_pos hempty]
    exact h
  · rw [if_neg hempty, if_neg hempty]
    exact ⟨rfl, rfl, h.fresh⟩

/-- The result, and what is shown of it, come from the expression alone. -/
theorem compute_eq (h : s.LooksLike t) (setup : Setup) : s.compute setup = t.compute setup := by
  unfold Screen.compute
  rw [h.expression]

/-- After `=` and `AC` the screens are the same. -/
theorem press_eq (h : s.LooksLike t) {key : Key} (hkey : key = .equals ∨ key = .allClear) :
    s.press setup key = t.press setup key := by
  rcases hkey with rfl | rfl
  · exact h.compute_eq setup
  · rfl

theorem press (h : s.LooksLike t) (key : Key) : (s.press setup key).LooksLike (t.press setup key) := by
  cases key with
  | digit c hc =>
      exact h.enterDigit c
  | operator c hc =>
      exact looksLike_enterOperator h.expression c
  | deleteLast =>
      exact h.deleteLast
  | allClear =>
      rw [h.press_eq (Or.inr rfl)]
      exact ⟨rfl, rfl, rfl⟩
  | equals =>
      rw [h.press_eq (Or.inl rfl)]
      exact ⟨rfl, rfl, rfl⟩

/-! ## Any keys -/

theorem pressAll (h : s.LooksLike t) (keys : List Key) :
    (s.pressAll setup keys).LooksLike (t.pressAll setup keys) := by
  induction keys generalizing s t with
  | nil =>
      exact h
  | cons key keys ih =>
      exact ih (h.press key)

/-- The induction goes to the first `=` or `AC`; from there on it is one screen. -/
theorem pressAll_eq (h : s.LooksLike t) {keys : List Key}
    (hkeys : .equals ∈ keys ∨ .allClear ∈ keys) : s.pressAll setup keys = t.pressAll setup keys := by
  induction keys generalizing s t with
  | nil =>
      rcases hkeys with hmem | hmem
      · cases hmem
      · cases hmem
  | cons key keys ih =>
      rw [pressAll_cons, pressAll_cons]
      by_cases hkey : key = .equals ∨ key = .allClear
      · rw [h.press_eq hkey]
      · have hrest : .equals ∈ keys ∨ .allClear ∈ keys := by
          simp only [List.mem_cons, @eq_comm Key _ key] at hkeys
          tauto
        exact ih (h.press key) hrest

end LooksLike

end Screen

/-! ## Failures -/

/-- An expression that fails stays on the screen, and fails in the same way again.  Going on with it by an
operator or a bracket leads to the same screens as if `=` had not been pressed; the fault alone is kept
in mind, up to the next `=` or `AC`. -/
theorem failure_loses_nothing (setup : Setup) (s : Screen) (fault : Fault)
    (hfails : evaluate setup.strict s.expression = .error fault) :
    let failed := s.press setup .equals
    failed.expression = s.expression ∧ failed.last = some (.error fault) ∧
      failed.press setup .equals = failed ∧
      ∀ (c : Char) (hc : isMark c = true) (keys : List Key),
        let continued := failed.pressAll setup (.operator c hc :: keys)
        let untried := s.pressAll setup (.operator c hc :: keys)
        continued.LooksLike untried ∧
          (.equals ∈ keys ∨ .allClear ∈ keys → continued.last = untried.last) := by
  intro failed
  have hfailed : failed = ⟨s.expression, setup.errorMessage, true, some (.error fault)⟩ :=
    Screen.compute_of_error hfails
  have hexpression : failed.expression = s.expression := by rw [hfailed]
  have hagain : failed.press setup .equals = failed := by
    have hsame : evaluate setup.strict failed.expression = .error fault := by
      rw [hexpression, hfails]
    calc
      failed.press setup .equals = ⟨failed.expression, setup.errorMessage, true, some (.error fault)⟩ :=
        Screen.compute_of_error hsame
      _ = failed := by rw [hexpression, hfailed]
  refine ⟨hexpression, by rw [hfailed], hagain, ?_⟩
  intro c hc keys continued untried
  -- The operator makes the screens look alike, and then the other keys follow.
  have halike := Screen.looksLike_enterOperator hexpression c
  refine ⟨halike.pressAll keys, ?_⟩
  intro hkeys
  exact congrArg Screen.last (halike.pressAll_eq hkeys)

/-- A failed quotient is gone on with, corrected, and tried again. -/
theorem failure_loses_nothing_corrected :
    let five : Binary64 := .ofUnits false (5 * oneUnits) 1
    let s := (Screen.blank {}).pressAll {} [.digit '5' rfl, .operator '/' rfl, .digit '0' rfl]
    let keys : List Key := [.deleteLast, .deleteLast, .digit '2' rfl, .equals]
    let continued := (s.press {} .equals).pressAll {} (.operator '+' rfl :: keys)
    let untried := s.pressAll {} (.operator '+' rfl :: keys)
    evaluate false s.expression = .error (.divisionByZero five .zero) ∧
      (s.press {} .equals).expression = "5/0" ∧ continued.expression = "2.5" ∧
      continued.LooksLike untried ∧ continued.last = untried.last := by
  intro five s keys continued untried
  have hfails : evaluate false s.expression = .error (.divisionByZero five .zero) := by
    decide +kernel
  have htext : s.expression = "5/0" := by decide
  have hresult : continued.expression = "2.5" := by decide +kernel
  obtain ⟨hkept, -, -, hcontinued⟩ := failure_loses_nothing {} s _ hfails
  obtain ⟨halike, hlast⟩ := hcontinued '+' rfl keys
  exact ⟨hfails, hkept.trans htext, hresult, halike, hlast (Or.inl (by decide))⟩

/-! ## New expressions -/

/-- After `AC` nothing is left of what was done before.  After a digit on a fresh screen nothing but the last
outcome is, up to the next `=` or `AC`. -/
theorem past_forgotten (setup : Setup) (s t : Screen) (keys : List Key) :
    s.pressAll setup (.allClear :: keys) = t.pressAll setup (.allClear :: keys) ∧
      (s.fresh = true → t.fresh = true → ∀ (c : Char) (hc : isNumeric c = true),
        let first := s.pressAll setup (.digit c hc :: keys)
        let second := t.pressAll setup (.digit c hc :: keys)
        first.LooksLike second ∧
          (.equals ∈ keys ∨ .allClear ∈ keys → first.last = second.last)) := by
  refine ⟨rfl, ?_⟩
  intro hs ht c hc first second
  have halike := Screen.looksLike_enterDigit_of_fresh hs ht c
  refine ⟨halike.pressAll keys, ?_⟩
  intro hkeys
  exact congrArg Screen.last (halike.pressAll_eq hkeys)

/-- A failure that was not corrected to the end, and a result, before the same sum. -/
theorem past_forgotten_sum :
    let s := (Screen.blank {}).pressAll {}
      [.digit '5' rfl, .operator '/' rfl, .digit '0' rfl, .equals, .deleteLast]
    let t := (Screen.blank {}).pressAll {} [.digit '7' rfl, .equals]
    let keys : List Key := [.operator '+' rfl, .digit '1' rfl, .equals]
    s.fresh = true ∧ t.fresh = true ∧ s.expression = "5/" ∧ t.expression = "7.0" ∧
      (s.pressAll {} (.digit '2' rfl :: keys)).expression = "3.0" ∧
      (s.pressAll {} (.digit '2' rfl :: keys)).LooksLike
        (t.pressAll {} (.digit '2' rfl :: keys)) ∧
      (s.pressAll {} (.digit '2' rfl :: keys)).last =
        (t.pressAll {} (.digit '2' rfl :: keys)).last := by
  intro s t keys
  have hs : s.fresh = true ∧ s.expression = "5/" := by decide +kernel
  have ht : t.fresh = true ∧ t.expression = "7.0" := by decide +kernel
  have hsum : (s.pressAll {} (.digit '2' rfl :: keys)).expression = "3.0" := by decide +kernel
  obtain ⟨halike, hlast⟩ := (past_forgotten {} s t keys).2 hs.1 ht.1 '2' rfl
  exact ⟨hs.1, ht.1, hs.2, ht.2, hsum, halike, hlast (Or.inl (by decide))⟩

end Abacus
