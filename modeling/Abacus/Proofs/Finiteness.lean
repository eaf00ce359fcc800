import Abacus.Proofs.Reduction

/-!
# Finiteness — values are finite

Two places keep infinities out: a numeral that would be rounded to one is refused by the scan, and a
result that would be one is refused by the operation.  Everything between them only moves numbers:

* `Token.isFinite_of_scan` — the numbers among the tokens of a text are finite;
* `Stacks.operandsFinite_step` — one token keeps all operands finite;
* `evaluate_isFinite` — hence every value of a text is finite.
-/

namespace Abacus

/-! ## Tokens -/

namespace Token

theorem isFinite_of_readNumber {run : List Char} {position : Nat} {value : Binary64}
    (h : readNumber run position = .ok value) : value.isFinite = true := by
  unfold readNumber at h
  cases hread : Decimal.ofNumeral? run with
  | none =>
      rw [hread] at h
      cases h
  | some d =>
      rw [hread] at h
      dsimp only at h
      -- The number itself stays closed: opening it would expand its units.
      generalize d.toBinary64 false = x at h
      by_cases hfinite : x.isFinite = true
      · simp only [hfinite, if_true] at h
        cases h
        exact hfinite
      · simp [hfinite] at h

/-- The number of a token, if it has one, is finite. -/
def HasFiniteNumber (token : Token) : Prop :=
  ∀ value, token.symbol = .number value → value.isFinite = true

theorem hasFiniteNumber_of_ofMark? {c : Char} {symbol : Symbol} (h : Symbol.ofMark? c = some symbol)
    (position : Nat) : HasFiniteNumber ⟨symbol, position⟩ := by
  rintro value rfl
  -- No mark stands for a number.
  unfold Symbol.ofMark? at h
  split at h
  · cases h
  · cases h
  · rcases Option.map_eq_some_iff.1 h with ⟨op, -, hop⟩
    cases hop

theorem isFinite_of_ofLexemes {strict : Bool} {position : Nat} {lexemes : List Lexeme}
    {tokens : List Token} (h : ofLexemes strict position lexemes = .ok tokens) :
    ∀ token ∈ tokens, token.HasFiniteNumber := by
  induction lexemes generalizing position tokens with
  | nil =>
      cases h
      simp
  | cons lexeme rest ih =>
      cases lexeme with
      | numeral run =>
          simp only [ofLexemes, bind_eq_ok_iff] at h
          rcases h with ⟨value, hvalue, tail, htail, heq⟩
          cases heq
          refine List.forall_mem_cons.2 ⟨?_, ih htail⟩
          rintro value' hsymbol
          cases hsymbol
          exact isFinite_of_readNumber hvalue
      | mark c =>
          simp only [ofLexemes] at h
          split at h
          · rename_i symbol hmark
            rcases bind_eq_ok_iff.1 h with ⟨tail, htail, heq⟩
            cases heq
            exact List.forall_mem_cons.2 ⟨hasFiniteNumber_of_ofMark? hmark position, ih htail⟩
          · split at h
            · cases h
            · exact ih h

theorem isFinite_of_scan {strict : Bool} {text : String} {tokens : List Token}
    (h : scan strict text = .ok tokens) : ∀ token ∈ tokens, token.HasFiniteNumber :=
  isFinite_of_ofLexemes h

end Token

/-! ## Operands -/

namespace Stacks

/-- Every operand is finite. -/
def OperandsFinite (s : Stacks) : Prop := ∀ x ∈ s.operands, x.isFinite = true

theorem operandsFinite_empty : empty.OperandsFinite := by
  intro x hx
  cases hx

theorem operandsFinite_reduce {level : Nat} {operands : List Binary64} {pending : List Pending}
    {s : Stacks} (hfinite : ∀ x ∈ operands, x.isFinite = true)
    (h : reduce level operands pending = .ok s) : s.OperandsFinite := by
  refine reduce_invariant OperandsFinite ?_ hfinite h
  -- The result of an application is checked, and the operands below it stay.
  intro op below next pending _ hbelow htop
  rcases applyTop_eq_ok htop with ⟨right, left, rest, result, rfl, happly, rfl⟩
  refine List.forall_mem_cons.2 ⟨(Operator.apply_eq_ok happly).2, ?_⟩
  intro x hx
  exact hbelow x (List.mem_cons_of_mem right (List.mem_cons_of_mem left hx))

theorem operandsFinite_step {s next : Stacks} {token : Token} (htoken : token.HasFiniteNumber)
    (hs : s.OperandsFinite) (h : s.step token = .ok next) : next.OperandsFinite := by
  obtain ⟨symbol, position⟩ := token
  cases symbol with
  | number value =>
      cases h
      exact List.forall_mem_cons.2 ⟨htoken value rfl, hs⟩
  | opening =>
      cases h
      exact hs
  | closing =>
      rcases bind_eq_ok_iff.1 h with ⟨reduced, hreduce, hclose⟩
      have hfinite := operandsFinite_reduce hs hreduce
      dsimp only at hclose
      split at hclose
      · cases hclose
        exact hfinite
      · cases hclose
  | operator op =>
      rcases bind_eq_ok_iff.1 h with ⟨reduced, hreduce, hpush⟩
      have hfinite := operandsFinite_reduce hs hreduce
      cases hpush
      exact hfinite

theorem isFinite_of_finish {s : Stacks} {value : Binary64} (hs : s.OperandsFinite)
    (h : s.finish = .ok value) : value.isFinite = true := by
  rcases bind_eq_ok_iff.1 h with ⟨reduced, hreduce, hresult⟩
  have hfinite := operandsFinite_reduce hs hreduce
  split at hresult
  · unfold result at hresult
    split at hresult
    · rename_i only hoperands
      cases hresult
      exact hfinite value (by simp [hoperands])
    · cases hresult
    · cases hresult
  · cases hresult

end Stacks

/-! ## Values -/

theorem evaluateTokens_isFinite {tokens : List Token} {value : Binary64}
    (htokens : ∀ token ∈ tokens, token.HasFiniteNumber) (h : evaluateTokens tokens = .ok value) :
    value.isFinite = true := by
  rcases bind_eq_ok_iff.1 h with ⟨s, hrun, hfinish⟩
  have hs : s.OperandsFinite :=
    foldlM_invariant Stacks.OperandsFinite
      (fun token htoken _ _ hbefore => Stacks.operandsFinite_step (htokens token htoken) hbefore)
      Stacks.operandsFinite_empty hrun
  exact Stacks.isFinite_of_finish hs hfinish

theorem evaluate_isFinite {strict : Bool} {text : String} {value : Binary64}
    (h : evaluate strict text = .ok value) : value.isFinite = true := by
  rcases bind_eq_ok_iff.1 h with ⟨tokens, hscan, hvalue⟩
  exact evaluateTokens_isFinite (Token.isFinite_of_scan hscan) hvalue

end Abacus
