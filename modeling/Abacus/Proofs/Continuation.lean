import Abacus.Proofs.Concatenation
import Abacus.Proofs.Typing

/-!
# Continuation — going on from a result

A result stands on the screen as text, and the next computation reads this text.  A sign in front of it
is read as an operator that lacks its left operand, so only results without a sign are computed again
to themselves, and only they are operands of what is typed behind them:

* `Binary64.isNegative` — the sign of a number;
* `Binary64.scan_resultText_negative` — a sign is scanned as an operator;
* `result_computed_again` — `=` on a result;
* `Token.scan_resultText_append` — what is typed behind a result is scanned by itself;
* `result_continued` — operators on a result.
-/

namespace Abacus

namespace Binary64

/-! ## Signs -/

/-- Whether the sign bit is set. -/
def isNegative : Binary64 → Bool
  | .finite s _ => s
  | .infinite s => s
  | .nan => false

theorem exists_rank {x : Binary64} (hfinite : x.isFinite = true) :
    ∃ k : Fin finiteCount, x = .finite x.isNegative k := by
  cases x with
  | finite s k => exact ⟨k, rfl⟩
  | infinite s => cases hfinite
  | nan => cases hfinite

theorem resultText_negative (k : Fin finiteCount) :
    (finite true k).resultText = "-" ++ (finite false k).resultText := by
  rw [← String.toList_inj]
  simp [resultText, textBy, signed]

/-- A sign is scanned as an operator. -/
theorem scan_resultText_negative (strict : Bool) (k : Fin finiteCount) :
    Token.scan strict (finite true k).resultText =
      .ok [⟨.operator .minus, 0⟩, ⟨.number (finite false k), 1⟩] := by
  have happart : MeetApart "-".toList (finite false k).resultText.toList := by
    intro c hc d _
    cases hc
    exact Or.inl rfl
  have hminus : Token.scan strict "-" = .ok [⟨.operator .minus, 0⟩] := by
    cases strict <;> decide
  rw [resultText_negative, Token.scan_append happart, hminus, scan_resultText]
  rfl

/-- The operator that a sign is read as lacks its left operand. -/
theorem evaluate_resultText_negative (strict : Bool) (k : Fin finiteCount) :
    evaluate strict (finite true k).resultText = .error (.missingOperand .minus) := by
  unfold evaluate
  rw [scan_resultText_negative]
  rfl

end Binary64

/-- The outcome of a result, in either mode, is decided by its sign. -/
theorem evaluate_result {strict : Bool} {text : String} {value : Binary64}
    (hvalue : evaluate strict text = .ok value) (mode : Bool) :
    evaluate mode value.resultText =
      if value.isNegative then .error (.missingOperand .minus) else .ok value := by
  obtain ⟨k, hk⟩ := Binary64.exists_rank (evaluate_isFinite hvalue)
  cases hsign : value.isNegative with
  | false =>
      rw [hsign] at hk
      subst hk
      exact Binary64.evaluate_resultText mode k
  | true =>
      rw [hsign] at hk
      subst hk
      exact Binary64.evaluate_resultText_negative mode k

/-! ## Computing again -/

/-- A result without a sign is evaluated to itself, in either mode, and a screen that shows it is left
unchanged by another `=`.  A result with a sign lacks the left operand of this sign: another `=` keeps
its text and shows the error message. -/
theorem result_computed_again {strict : Bool} {text : String} {value : Binary64}
    (hvalue : evaluate strict text = .ok value) :
    (∀ mode : Bool, evaluate mode value.resultText =
      if value.isNegative then .error (.missingOperand .minus) else .ok value) ∧
    ∀ (setup : Setup) (screen : Screen), setup.strict = strict → screen.expression = text →
      (screen.compute setup).last = some (.ok value) ∧
      (screen.compute setup).compute setup =
        if value.isNegative then
          ⟨value.resultText, setup.errorMessage, true, some (.error (.missingOperand .minus))⟩
        else screen.compute setup := by
  refine ⟨evaluate_result hvalue, ?_⟩
  rintro setup screen rfl rfl
  have hagain := evaluate_result hvalue setup.strict
  rw [Screen.compute_of_ok hvalue]
  refine ⟨rfl, ?_⟩
  cases hsign : value.isNegative with
  | false =>
      rw [hsign] at hagain
      exact Screen.compute_of_ok hagain
  | true =>
      rw [hsign] at hagain
      exact Screen.compute_of_error hagain

/-- The result is written with as many digits as tell it apart. -/
theorem result_computed_again_two_thirds :
    let value : Binary64 := .finite false ⟨4604180019048437077, by decide⟩
    let screen : Screen := ⟨"2/3", "2/3", false, none⟩
    evaluate false "2/3" = .ok value ∧ value.isNegative = false ∧
      value.resultText = "0.6666666666666666" ∧ evaluate true value.resultText = .ok value ∧
      (screen.compute {}).last = some (.ok value) ∧
      (screen.compute {}).compute {} = screen.compute {} := by
  intro value screen
  have hvalue : evaluate false "2/3" = .ok value := by decide +kernel
  have htext : value.resultText = "0.6666666666666666" := by decide +kernel
  obtain ⟨hmodes, hscreens⟩ := result_computed_again hvalue
  obtain ⟨hlast, hagain⟩ := hscreens {} screen rfl rfl
  exact ⟨hvalue, rfl, htext, hmodes true, hlast, hagain⟩

/-- The result `-5.0` is not computed again: its sign is read as an operator. -/
theorem result_with_sign_not_computed_again :
    let value : Binary64 := .finite true ⟨4617315517961601024, by decide⟩
    let screen : Screen := ⟨"0-5", "0-5", false, none⟩
    evaluate false "0-5" = .ok value ∧ value.resultText = "-5.0" ∧
      evaluate false value.resultText = .error (.missingOperand .minus) ∧
      screen.compute {} = ⟨"-5.0", "-5.0", true, some (.ok value)⟩ ∧
      (screen.compute {}).compute {} =
        ⟨"-5.0", "Error", true, some (.error (.missingOperand .minus))⟩ := by
  intro value screen
  have hvalue : evaluate false "0-5" = .ok value := by decide +kernel
  have htext : value.resultText = "-5.0" := by decide +kernel
  have hfault : evaluate false "-5.0" = .error (.missingOperand .minus) := by decide +kernel
  have hcomputed : screen.compute {} = ⟨value.resultText, value.resultText, true, some (.ok value)⟩ :=
    Screen.compute_of_ok hvalue
  rw [htext] at hcomputed
  have hagain : (⟨"-5.0", "-5.0", true, some (.ok value)⟩ : Screen).compute {} =
      ⟨"-5.0", "Error", true, some (.error (.missingOperand .minus))⟩ :=
    Screen.compute_of_error hfault
  refine ⟨hvalue, htext, ?_, hcomputed, ?_⟩
  · rw [htext]
    exact hfault
  · rw [hcomputed]
    exact hagain

/-! ## Going on -/

/-- What is typed behind a result is scanned by itself, unless it begins with a digit or a point. -/
theorem Token.scan_resultText_append {text : String}
    (hhead : ∀ c ∈ text.toList.head?, isNumeric c = false) (strict : Bool)
    (k : Fin finiteCount) :
    scan strict ((Binary64.finite false k).resultText ++ text) = do
      let tokens ← shiftScan (Binary64.finite false k).resultText.length (scan strict text)
      return ⟨.number (.finite false k), 0⟩ :: tokens := by
  rw [scan_append (MeetApart.of_head hhead _), Binary64.scan_resultText]
  rfl

/-- An operator goes on with any expression, and what follows it is then being typed. -/
theorem Screen.appendChars_of_mark {c : Char} {cs : List Char} (hc : isMark c = true)
    (hcs : ∀ d ∈ cs, d ∈ Key.characters) (screen : Screen) :
    ∃ typed, screen.appendChars (c :: cs) = (typed, none) ∧
      typed.expression = screen.expression ++ String.ofList (c :: cs) := by
  have hkey : Key.ofChar? c = some (.operator c hc) := by
    simp [Key.ofChar?, Key.isNumeric_of_isMark hc, hc]
  have hfirst : screen.append (String.singleton c) = .ok (screen.enterOperator c) :=
    Screen.append_singleton hkey {} screen
  have hstart : Screen.Holds (screen.expression.push c) (screen.enterOperator c) :=
    Screen.Holds.typed (screen.expression.push c) screen.last
  obtain ⟨typed, hrest, htyped⟩ := hstart.appendChars hcs
  refine ⟨typed, ?_, htyped.expression.trans ?_⟩
  · rw [Screen.appendChars, hfirst]
    exact hrest
  · rw [← String.toList_inj]
    simp

/-- Operators, brackets and numbers typed behind a result without a sign, an operator or a bracket
first, are put behind its text.  The outcome is that of the number itself followed by the tokens of what
was typed, which stand further on by the length of the result, as does a fault of theirs. -/
theorem result_continued {setup : Setup} {screen : Screen} {value : Binary64}
    (hvalue : evaluate setup.strict screen.expression = .ok value)
    (hsign : value.isNegative = false) {text : String}
    (hkeys : ∀ c ∈ text.toList, c ∈ Key.characters)
    (hfirst : ∃ c ∈ text.toList.head?, c ∈ ['+', '-', '*', '/', '(', ')']) :
    ∃ typed, (screen.compute setup).appendChars text.toList = (typed, none) ∧
      typed.expression = value.resultText ++ text ∧
      Token.scan setup.strict typed.expression = (do
        let tokens ← Token.shiftScan value.resultText.length (Token.scan setup.strict text)
        return ⟨.number value, 0⟩ :: tokens) ∧
      (typed.compute setup).last = some (do
        let tokens ← Token.shiftScan value.resultText.length (Token.scan setup.strict text)
        evaluateTokens (⟨.number value, 0⟩ :: tokens)) := by
  obtain ⟨k, hk⟩ := Binary64.exists_rank (evaluate_isFinite hvalue)
  rw [hsign] at hk
  obtain ⟨c, hhead, hc⟩ := hfirst
  have hmarks : ['+', '-', '*', '/', '(', ')'].all isMark = true := by decide
  have hmark : isMark c = true := List.all_eq_true.1 hmarks c hc
  obtain ⟨cs, htext⟩ := List.head?_eq_some_iff.1 hhead
  have hcs : ∀ d ∈ cs, d ∈ Key.characters := by
    intro d hd
    refine hkeys d ?_
    rw [htext]
    exact List.mem_cons_of_mem c hd
  -- Computing has put the result in place of the expression.
  have hcomputed : (screen.compute setup).expression = value.resultText := by
    rw [Screen.compute_of_ok hvalue]
  obtain ⟨typed, htyping, htyped⟩ :=
    Screen.appendChars_of_mark hmark hcs (screen.compute setup)
  rw [hcomputed, ← htext, String.ofList_toList] at htyped
  have hapart : ∀ d ∈ text.toList.head?, isNumeric d = false := by
    intro d hd
    rw [hhead] at hd
    cases hd
    exact Key.isNumeric_of_isMark hmark
  have hscan := Token.scan_resultText_append hapart setup.strict k
  rw [← hk, ← htyped] at hscan
  refine ⟨typed, ?_, htyped, hscan, ?_⟩
  · rw [htext]
    exact htyping
  · rw [Screen.last_compute, evaluate, hscan]
    simp only [bind_assoc, pure_bind]

/-- No digit of two thirds is lost on the way through the screen: three times as much, less one, is
one. -/
theorem result_continued_two_thirds :
    let value : Binary64 := .finite false ⟨4604180019048437077, by decide⟩
    let screen : Screen := ⟨"2/3", "2/3", false, none⟩
    evaluate false "2/3" = .ok value ∧ value.isNegative = false ∧
      (∀ c ∈ "*3-1".toList, c ∈ Key.characters) ∧
      (∃ c ∈ "*3-1".toList.head?, c ∈ ['+', '-', '*', '/', '(', ')']) ∧
      ∃ typed, (screen.compute {}).appendChars "*3-1".toList = (typed, none) ∧
        typed.expression = "0.6666666666666666*3-1" ∧
        (typed.compute {}).last = some (.ok .one) := by
  intro value screen
  have hvalue : evaluate false "2/3" = .ok value := by decide +kernel
  have hscreen : evaluate ({} : Setup).strict screen.expression = .ok value := hvalue
  have htext : value.resultText = "0.6666666666666666" := by decide +kernel
  have hkeys : ∀ c ∈ "*3-1".toList, c ∈ Key.characters := Key.mem_characters_of_all (by decide)
  have hfirst : ∃ c ∈ "*3-1".toList.head?, c ∈ ['+', '-', '*', '/', '(', ')'] :=
    ⟨'*', rfl, by decide⟩
  obtain ⟨typed, htyping, htyped, -, hlast⟩ := result_continued hscreen rfl hkeys hfirst
  rw [htext] at htyped hlast
  refine ⟨hvalue, rfl, hkeys, hfirst, typed, htyping, htyped, hlast.trans ?_⟩
  decide +kernel

end Abacus
