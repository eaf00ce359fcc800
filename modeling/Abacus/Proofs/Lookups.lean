import Abacus.Proofs.Reduction
import Abacus.Written

/-!
# Look-ups — no look-up of an evaluation misses

Among the waiting symbols the opening bracket has neither a precedence nor an operation.  The loops stop
in front of it, and all other symbols are those of operators, so evaluation by written symbols runs as
evaluation does:

* `Stacks.written` — waiting operators and barriers as the texts that they are written as;
* `Written.reduceWhile_written` — the loops, down to the next barrier;
* `Written.step_written`, `Written.run_written` — one token, and any tokens;
* `Written.evaluate_eq` — hence an evaluation ends with a value or with a reported fault.
-/

namespace Abacus

/-! ## Waiting symbols -/

namespace Pending

def symbol : Pending → String
  | .operator op => op.symbol
  | .barrier => Written.barrier

end Pending

/-- Operators and barriers as they are written. -/
def Stacks.written (s : Stacks) : Written.Stacks := ⟨s.operands, s.pending.map Pending.symbol⟩

namespace Written

theorem symbol_ne_barrier (op : Operator) : op.symbol ≠ barrier := by
  cases op <;> decide

/-! ## Look-ups -/

theorem precedence_symbol (op : Operator) : precedence op.symbol = .ok op.precedence := by
  cases op <;> decide

theorem named_symbol (op : Operator) : Operator.named op.symbol = .ok op := by
  cases op <;> decide

theorem apply_symbol (op : Operator) (left right : Binary64) :
    apply op.symbol left right = (op.apply left right).mapError Stop.ofFault := by
  unfold apply
  rw [named_symbol]

theorem applyTop_symbol (op : Operator) (operands : List Binary64) :
    applyTop op.symbol operands = (Abacus.Stacks.applyTop op operands).mapError Stop.ofFault := by
  match operands with
  | [] => rfl
  | [_] => rfl
  | right :: left :: rest =>
      simp only [applyTop, Abacus.Stacks.applyTop, apply_symbol]
      cases op.apply left right <;> rfl

/-! ## Reduction -/

/-- A run on typed stacks as one on written stacks. -/
def lift (x : Except Fault Abacus.Stacks) : Except Stop Stacks := do
  return (← x.mapError Stop.ofFault).written

/-- A test that tells for each operator whether its precedence is at least `level`. -/
def Tests (level : Nat) (goesOn : String → Except Stop Bool) : Prop :=
  ∀ op : Operator, goesOn op.symbol = .ok (decide (level ≤ op.precedence))

theorem tests_always : Tests 0 always := by
  intro op
  simp [always]

theorem tests_bindsFrom (level : Nat) : Tests level (bindsFrom level) := by
  intro op
  simp [bindsFrom, precedence_symbol]

/-- The test is asked of operators only. -/
theorem reduceWhile_written {level : Nat} {goesOn : String → Except Stop Bool}
    (htest : Tests level goesOn) (operands : List Binary64) (pending : List Pending) :
    reduceWhile goesOn operands (pending.map Pending.symbol) =
      lift (Abacus.Stacks.reduce level operands pending) := by
  induction pending generalizing operands with
  | nil =>
      rfl
  | cons head pending ih =>
      cases head with
      | barrier =>
          rfl
      | operator op =>
          have hsymbol : (Pending.operator op).symbol = op.symbol := rfl
          rw [List.map_cons, hsymbol, reduceWhile, if_neg (symbol_ne_barrier op), htest op, ok_bind,
            Abacus.Stacks.reduce]
          by_cases hlevel : level ≤ op.precedence
          · rw [if_pos hlevel, if_pos (by simpa using hlevel), applyTop_symbol]
            unfold lift at ih ⊢
            cases Abacus.Stacks.applyTop op operands with
            | error fault => rfl
            | ok next => exact ih next
          · rw [if_neg hlevel, if_neg (by simpa using hlevel)]
            rfl

/-! ## Runs -/

theorem step_written (s : Abacus.Stacks) (token : Token) :
    step s.written token = lift (s.step token) := by
  obtain ⟨symbol, position⟩ := token
  cases symbol with
  | number value =>
      rfl
  | opening =>
      rfl
  | closing =>
      simp only [step, Abacus.Stacks.step, Abacus.Stacks.close, Abacus.Stacks.written]
      rw [reduceWhile_written tests_always]
      cases hreduce : Abacus.Stacks.reduce 0 s.operands s.pending with
      | error fault =>
          rfl
      | ok reduced =>
          -- Whatever is on top is taken away, and that is a barrier.
          obtain ⟨operands, pending⟩ := reduced
          rcases Abacus.Stacks.pending_of_reduce_zero hreduce with hnone | ⟨rest, hbarrier⟩
          · obtain rfl : pending = [] := hnone
            rfl
          · obtain rfl : pending = .barrier :: rest := hbarrier
            rfl
  | operator op =>
      simp only [step, Abacus.Stacks.step, Abacus.Stacks.written, precedence_symbol, ok_bind]
      rw [reduceWhile_written (tests_bindsFrom op.precedence)]
      cases Abacus.Stacks.reduce op.precedence s.operands s.pending <;> rfl

theorem run_written (s : Abacus.Stacks) (tokens : List Token) :
    tokens.foldlM step s.written = lift (tokens.foldlM Abacus.Stacks.step s) := by
  induction tokens generalizing s with
  | nil =>
      rfl
  | cons token tokens ih =>
      rw [List.foldlM_cons, List.foldlM_cons, step_written]
      cases s.step token with
      | error fault => rfl
      | ok next => exact ih next

theorem finish_written (s : Abacus.Stacks) :
    finish s.written = s.finish.mapError Stop.ofFault := by
  unfold finish Abacus.Stacks.finish
  simp only [Abacus.Stacks.written]
  rw [reduceWhile_written tests_always]
  cases Abacus.Stacks.reduce 0 s.operands s.pending with
  | error fault =>
      rfl
  | ok reduced =>
      obtain ⟨operands, pending⟩ := reduced
      cases pending <;> rfl

/-- Evaluation by written symbols ends as evaluation does, and never in a look-up. -/
theorem evaluate_eq (strict : Bool) (text : String) :
    evaluate strict text = (Abacus.evaluate strict text).mapError Stop.ofFault := by
  unfold evaluate Abacus.evaluate
  rw [mapError_bind]
  congr 1
  funext tokens
  have hrun := run_written Abacus.Stacks.empty tokens
  unfold evaluateTokens
  rw [mapError_bind, show Stacks.empty = Abacus.Stacks.empty.written from rfl, hrun]
  cases tokens.foldlM Abacus.Stacks.step Abacus.Stacks.empty with
  | error fault => rfl
  | ok s => exact finish_written s

end Written

end Abacus
