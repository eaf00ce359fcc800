import Abacus.Proofs.Sentence

/-!
# Brackets — tokens between brackets stand for their value

Tokens between brackets run above a barrier, on top of whatever waited before.  They never look below
it as long as they find their operands among their own, so they do there what they do alone:

* `Embeds` — a computation in a context that goes as it does alone;
* `Stacks.above` — stacks on top of a barrier and of other stacks;
* `Stacks.step_above`, `Stacks.run_above` — one token, and any tokens, between brackets;
* `Stacks.run_brackets` — tokens between brackets push the value that they have alone;
* `brackets_transparent` — hence they may be replaced by it, whatever stands around them.
-/

namespace Abacus

/-! ## Computations in a context -/

/-- A computation that succeeds alone succeeds `inside` with its result put in place, and one that
fails in an operation fails inside with the same fault.  Nothing is said of the other faults: what is
missing alone may be found inside. -/
structure Embeds {α β : Type} (place : α → β) (alone : Except Fault α) (inside : Except Fault β) :
    Prop where
  ok : ∀ a, alone = .ok a → inside = .ok (place a)
  error : ∀ fault, alone = .error fault → fault.IsArithmetic → inside = .error fault

namespace Embeds

variable {α β γ δ : Type} {place : α → β}

theorem of_ok {a : α} {b : β} (hb : b = place a) : Embeds place (.ok a) (.ok b) where
  ok := by
    intro other hother
    cases hother
    rw [hb]
  error := by
    intro fault hfault
    cases hfault

theorem of_error (fault : Fault) : Embeds place (.error fault) (.error fault) where
  ok := by
    intro a ha
    cases ha
  error := by
    intro other hother _
    cases hother
    rfl

/-- A fault of the notation promises nothing. -/
theorem of_malformed {fault : Fault} (hkind : fault.kind = .malformedExpression)
    (inside : Except Fault β) : Embeds place (.error fault) inside where
  ok := by
    intro a ha
    cases ha
  error := by
    intro other hother harithmetic
    cases hother
    exact absurd hkind harithmetic.kind_ne_malformedExpression

/-- Chains go alike when their first steps do and what follows does. -/
theorem bind {last : γ → δ} {alone : Except Fault α} {inside : Except Fault β}
    {next : α → Except Fault γ} {next' : β → Except Fault δ} (hfirst : Embeds place alone inside)
    (hrest : ∀ a, Embeds last (next a) (next' (place a))) :
    Embeds last (alone >>= next) (inside >>= next') where
  ok := by
    intro c hc
    rcases bind_eq_ok_iff.1 hc with ⟨a, ha, hnext⟩
    rw [hfirst.ok a ha, ok_bind]
    exact (hrest a).ok c hnext
  error := by
    intro fault hfault harithmetic
    rcases bind_eq_error_iff.1 hfault with hhead | ⟨a, ha, hnext⟩
    · rw [hfirst.error fault hhead harithmetic, error_bind]
    · rw [hfirst.ok a ha, ok_bind]
      exact (hrest a).error fault hnext harithmetic

end Embeds

/-! ## Above a barrier -/

namespace Stacks

/-- The stacks of tokens between brackets, on top of those before the opening bracket. -/
def above (below s : Stacks) : Stacks :=
  ⟨s.operands ++ below.operands, s.pending ++ .barrier :: below.pending⟩

theorem applyTop_above (op : Operator) (operands below : List Binary64) :
    Embeds (· ++ below) (applyTop op operands) (applyTop op (operands ++ below)) := by
  match operands with
  | [] => exact Embeds.of_malformed rfl _
  | [_] => exact Embeds.of_malformed rfl _
  | right :: left :: rest =>
      -- Both operands are there alone, so what lies below them makes no difference.
      simp only [applyTop, List.cons_append]
      cases op.apply left right with
      | ok result => exact Embeds.of_ok rfl
      | error fault => exact Embeds.of_error fault

/-- A reduction that empties the stack alone is stopped by the barrier inside. -/
theorem reduce_above (level : Nat) (below : Stacks) (operands : List Binary64)
    (pending : List Pending) :
    Embeds (above below) (reduce level operands pending)
      (reduce level (operands ++ below.operands) (pending ++ .barrier :: below.pending)) := by
  induction pending generalizing operands with
  | nil =>
      exact Embeds.of_ok rfl
  | cons head pending ih =>
      cases head with
      | barrier =>
          exact Embeds.of_ok rfl
      | operator op =>
          by_cases hlevel : level ≤ op.precedence
          · simp only [reduce, List.cons_append, if_pos hlevel]
            exact (applyTop_above op operands below.operands).bind fun next => ih next
          · simp only [reduce, List.cons_append, if_neg hlevel]
            exact Embeds.of_ok rfl

/-- One token between brackets does to the stacks above the barrier what it does alone. -/
theorem step_above (below s : Stacks) (token : Token) :
    Embeds (above below) (s.step token) ((above below s).step token) := by
  obtain ⟨symbol, position⟩ := token
  cases symbol with
  | number value =>
      exact Embeds.of_ok rfl
  | opening =>
      exact Embeds.of_ok rfl
  | closing =>
      refine (reduce_above 0 below s.operands s.pending).bind ?_
      -- The barrier of the context stands only below those that are met alone.
      rintro ⟨operands, pending⟩
      match pending with
      | .barrier :: pending => exact Embeds.of_ok rfl
      | .operator op :: pending => exact Embeds.of_malformed rfl _
      | [] => exact Embeds.of_malformed rfl _
  | operator op =>
      refine (reduce_above op.precedence below s.operands s.pending).bind ?_
      rintro ⟨operands, pending⟩
      exact Embeds.of_ok rfl

theorem run_above (below s : Stacks) (tokens : List Token) :
    Embeds (above below) (tokens.foldlM step s) (tokens.foldlM step (above below s)) := by
  induction tokens generalizing s with
  | nil =>
      exact Embeds.of_ok rfl
  | cons token tokens ih =>
      simp only [List.foldlM_cons]
      exact (step_above below s token).bind fun next => ih next

/-! ## Between brackets -/

/-- What a number does to stacks. -/
def push (s : Stacks) (value : Binary64) : Stacks := ⟨value :: s.operands, s.pending⟩

/-- The closing bracket does what the end of the tokens does alone. -/
theorem close_above (below s : Stacks) (position : Nat) :
    Embeds below.push s.finish ((above below s).close position) := by
  refine (reduce_above 0 below s.operands s.pending).bind ?_
  rintro ⟨operands, pending⟩
  match pending with
  | _ :: _ => exact Embeds.of_malformed rfl _
  | [] =>
      match operands with
      | [value] => exact Embeds.of_ok rfl
      | [] => exact Embeds.of_malformed rfl _
      | _ :: _ :: _ => exact Embeds.of_malformed rfl _

/-- Tokens between brackets push the value that they have alone, on any stacks. -/
theorem run_brackets (below : Stacks) (inner : List Token) (opening closing : Nat) :
    Embeds below.push (evaluateTokens inner)
      ((⟨.opening, opening⟩ :: (inner ++ [⟨.closing, closing⟩])).foldlM step below) := by
  have hclosed := (run_above below empty inner).bind fun s => close_above below s closing
  simpa [evaluateTokens, step, above, empty] using hclosed

end Stacks

/-! ## Whole evaluations -/

/-- Tokens between brackets may be replaced by the value that they have alone, in any context, well
formed or not.  If they fail alone in an operation, and the tokens before them do not fail, the whole
fails with the same fault. -/
theorem brackets_transparent (before inner after : List Token) (opening closing : Nat) :
    (∀ (value : Binary64) (position : Nat), evaluateTokens inner = .ok value →
      evaluateTokens (before ++ [⟨.opening, opening⟩] ++ inner ++ [⟨.closing, closing⟩] ++ after) =
        evaluateTokens (before ++ [⟨.number value, position⟩] ++ after)) ∧
    ∀ (fault : Fault) (s : Stacks), evaluateTokens inner = .error fault →
      fault.kind = .divisionByZero ∨ fault.kind = .numericOverflow →
      before.foldlM Stacks.step Stacks.empty = .ok s →
        evaluateTokens
          (before ++ [⟨.opening, opening⟩] ++ inner ++ [⟨.closing, closing⟩] ++ after) =
          .error fault := by
  have hsplit : before ++ [⟨.opening, opening⟩] ++ inner ++ [⟨.closing, closing⟩] ++ after =
      before ++ ((⟨.opening, opening⟩ :: (inner ++ [⟨.closing, closing⟩])) ++ after) := by
    simp
  rw [hsplit]
  refine ⟨?_, ?_⟩
  · intro value position hvalue
    rw [List.append_assoc]
    unfold evaluateTokens
    rw [List.foldlM_append, List.foldlM_append]
    congr 2
    -- From any stacks on, the brackets and the number lead to the same stacks.
    funext below
    rw [List.foldlM_append, List.foldlM_append,
      (Stacks.run_brackets below inner opening closing).ok value hvalue]
    rfl
  · intro fault s hfault harithmetic hbefore
    unfold evaluateTokens
    rw [List.foldlM_append, hbefore, ok_bind, List.foldlM_append,
      (Stacks.run_brackets s inner opening closing).error fault hfault harithmetic]
    rfl

/-- Inner tokens that are no sentence, and inner tokens that divide by zero. -/
theorem brackets_transparent_in_product :
    let two : Binary64 := .ofUnits false (2 * oneUnits) 1
    let three : Binary64 := .ofUnits false (3 * oneUnits) 1
    let before : List Token := [⟨.number two, 0⟩, ⟨.operator .times, 1⟩]
    let behind : List Token := [⟨.number .one, 3⟩, ⟨.number two, 5⟩, ⟨.operator .plus, 6⟩]
    let quotient : List Token := [⟨.number .one, 3⟩, ⟨.operator .divide, 4⟩, ⟨.number .zero, 5⟩]
    evaluateTokens behind = .ok three ∧
      evaluateTokens (before ++ [⟨.opening, 2⟩] ++ behind ++ [⟨.closing, 7⟩] ++ []) =
        evaluateTokens (before ++ [⟨.number three, 2⟩] ++ []) ∧
      evaluateTokens quotient = .error (.divisionByZero .one .zero) ∧
      before.foldlM Stacks.step Stacks.empty = .ok ⟨[two], [.operator .times]⟩ ∧
      evaluateTokens (before ++ [⟨.opening, 2⟩] ++ quotient ++ [⟨.closing, 6⟩] ++ [⟨.closing, 7⟩]) =
        .error (.divisionByZero .one .zero) := by
  intro two three before behind quotient
  have hvalue : evaluateTokens behind = .ok three := by decide +kernel
  have hfault : evaluateTokens quotient = .error (.divisionByZero .one .zero) := by
    decide +kernel
  have hbefore : before.foldlM Stacks.step Stacks.empty = .ok ⟨[two], [.operator .times]⟩ := rfl
  refine ⟨hvalue, (brackets_transparent before behind [] 2 7).1 three 2 hvalue, hfault, hbefore, ?_⟩
  exact (brackets_transparent before quotient [⟨.closing, 7⟩] 2 6).2 _ _ hfault (Or.inl rfl) hbefore

end Abacus
