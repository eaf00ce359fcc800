import Abacus.Proofs.Nesting

/-!
# Accounting — what the tokens of a value add up to

Evaluation never looks at neighbouring tokens, so an operand that is missing in one place may be made
up for by an operator that is missing in another.  The two numbers of such places are always the same
in a text with a value, and where no operator is missing the tokens are an infix sentence:

* `isSentence_of_evaluateTokens` — tokens with a value in which no operator is missing;
* `value_accounts_for_tokens` — the accounts of a text with a value.
-/

namespace Abacus

theorem evaluateTokens_of_phrase {tokens : List Token} (phrase : Phrase .sum)
    (hyield : phrase.symbols = tokens.map Token.symbol) : evaluateTokens tokens = phrase.value := by
  rw [evaluateTokens_eq_outcome, phrase.ofTokens_eq hyield.symm, phrase.outcome_items]

theorem isSentence_of_evaluateTokens {tokens : List Token} {value : Binary64}
    (h : evaluateTokens tokens = .ok value)
    (hoperators : missingOperators false (tokens.map Token.symbol) = 0) :
    IsSentence (tokens.map Token.symbol) := by
  rcases evaluateTokens_eq_ok_iff.1 h with ⟨phrase, hnotation, -⟩
  -- As many operands as operators are missing, and that is none.
  have hoperands := Postfix.missingOperands_of_ofTokens hnotation
  exact isSentence_of_paired (paired_of_evaluateTokens h) hoperators (hoperands.trans hoperators)

/-- In a text with a value the brackets pair off, there is one number more than operators, and as many
operators are missing as operands.  Tokens in which no operator is missing have a value exactly when
they are a sentence whose operations all succeed, and then it is the value of the sentence. -/
theorem value_accounts_for_tokens :
    (∀ (strict : Bool) (text : String) (value : Binary64), evaluate strict text = .ok value →
      ∃ tokens : List Token, Token.scan strict text = .ok tokens ∧
        (∀ front, front <+: tokens.map Token.symbol →
          front.count .closing ≤ front.count .opening) ∧
        (tokens.map Token.symbol).count .opening = (tokens.map Token.symbol).count .closing ∧
        (tokens.map Token.symbol).countP Symbol.isNumber =
          (tokens.map Token.symbol).countP Symbol.isOperator + 1 ∧
        missingOperators false (tokens.map Token.symbol) =
          missingOperands false (tokens.map Token.symbol)) ∧
    ∀ tokens : List Token, missingOperators false (tokens.map Token.symbol) = 0 →
      ∀ value, evaluateTokens tokens = .ok value ↔
        ∃ phrase : Phrase .sum, phrase.symbols = tokens.map Token.symbol ∧
          phrase.value = .ok value := by
  refine ⟨?_, ?_⟩
  · intro strict text value hvalue
    rcases bind_eq_ok_iff.1 hvalue with ⟨tokens, hscan, htokens⟩
    rcases evaluateTokens_eq_ok_iff.1 htokens with ⟨phrase, hnotation, -⟩
    rcases paired_zero_iff.1 (paired_of_evaluateTokens htokens) with ⟨hfronts, htotal⟩
    refine ⟨tokens, hscan, ?_, htotal, Postfix.countP_of_ofTokens hnotation,
      (Postfix.missingOperands_of_ofTokens hnotation).symm⟩
    intro front hfront
    exact Nat.le_of_not_lt (hfronts front hfront)
  · intro tokens hoperators value
    constructor
    · intro hvalue
      rcases isSentence_of_evaluateTokens hvalue hoperators with ⟨phrase, hyield⟩
      exact ⟨phrase, hyield, (evaluateTokens_of_phrase phrase hyield).symm.trans hvalue⟩
    · rintro ⟨phrase, hyield, hvalue⟩
      rw [evaluateTokens_of_phrase phrase hyield, hvalue]

/-- An operator behind its operands in brackets, and a sum. -/
theorem value_accounts_for_tokens_behind :
    let two : Binary64 := .ofUnits false (2 * oneUnits) 1
    let three : Binary64 := .ofUnits false (3 * oneUnits) 1
    let sum : List Token := [⟨.number .one, 0⟩, ⟨.operator .plus, 1⟩, ⟨.number two, 2⟩]
    evaluate false "(1 2+)" = .ok three ∧
      (∃ tokens : List Token, Token.scan false "(1 2+)" = .ok tokens ∧
        (∀ front, front <+: tokens.map Token.symbol →
          front.count .closing ≤ front.count .opening) ∧
        (tokens.map Token.symbol).count .opening = (tokens.map Token.symbol).count .closing ∧
        (tokens.map Token.symbol).countP Symbol.isNumber =
          (tokens.map Token.symbol).countP Symbol.isOperator + 1 ∧
        missingOperators false (tokens.map Token.symbol) =
          missingOperands false (tokens.map Token.symbol)) ∧
      missingOperators false (sum.map Token.symbol) = 0 ∧
      (evaluateTokens sum = .ok three ↔
        ∃ phrase : Phrase .sum, phrase.symbols = sum.map Token.symbol ∧
          phrase.value = .ok three) := by
  intro two three sum
  have hvalue : evaluate false "(1 2+)" = .ok three := by decide +kernel
  have hoperators : missingOperators false (sum.map Token.symbol) = 0 := rfl
  exact ⟨hvalue, value_accounts_for_tokens.1 false "(1 2+)" three hvalue, hoperators,
    value_accounts_for_tokens.2 sum hoperators three⟩

end Abacus
