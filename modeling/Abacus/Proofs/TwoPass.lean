import Abacus.Postfix
import Abacus.Proofs.Fallible

/-!
# Two passes — the fused loop is conversion followed by the machine

Evaluation applies operators while it reads tokens; the two-pass definition first writes them down
and runs them afterwards.  This file relates the two at every intermediate point:

* `Postfix.run_append_operator` — one application is one item of the machine;
* `Postfix.run_release` — a reduction is the machine on the released items;
* `Postfix.run_fused` — from any items and waiting operators, the loop has the outcome of both passes.

Faults of the machine are carried along, so the first fault is the same on both sides.
-/

namespace Abacus

namespace Postfix

open Stacks (applyTop reduce step close finish result)

/-! ## The machine -/

@[simp] theorem run_nil : run [] = .ok [] := rfl

theorem run_append (items more : List Item) :
    run (items ++ more) = run items >>= fun stack => more.foldlM runItem stack := by
  simp [run]

theorem runItem_operator (op : Operator) (stack : List Binary64) :
    runItem stack (.operator op) = applyTop op stack := by
  match stack with
  | [] => rfl
  | [_] => rfl
  | right :: left :: rest =>
      simp only [runItem, applyTop]
      cases op.apply left right <;> rfl

theorem run_append_number (items : List Item) (value : Binary64) :
    run (items ++ [.number value]) = run items >>= fun stack => .ok (value :: stack) := by
  simp [run_append, runItem]

theorem run_append_operator (items : List Item) (op : Operator) :
    run (items ++ [.operator op]) = run items >>= applyTop op := by
  simp [run_append, runItem_operator]

/-! ## Reductions -/

/-- What a reduction does to the operands, the machine does with the released items, and both leave
the same operators waiting.  The reduction stands in front of some further work `next`. -/
theorem run_release {α : Type} (level : Nat) (items : List Item) (pending : List Pending)
    (next : Stacks → Except Fault α) :
    (do let operands ← run items
        let s ← reduce level operands pending
        next s) =
      (do let operands ← run (release level items pending).1
          next ⟨operands, (release level items pending).2⟩) := by
  induction pending generalizing items with
  | nil =>
      simp [reduce, release]
  | cons head pending ih =>
      cases head with
      | barrier =>
          simp [reduce, release]
      | operator op =>
          by_cases hlevel : level ≤ op.precedence
          · -- Applying the operator now is having it among the items from the start.
            have hnext := ih (items ++ [.operator op])
            rw [run_append_operator] at hnext
            simpa [reduce, release, hlevel] using hnext
          · simp [reduce, release, hlevel]

/-! ## Tokens -/

theorem run_finish (items : List Item) (pending : List Pending) :
    (do let operands ← run items
        finish ⟨operands, pending⟩) = (convert items pending []).outcome := by
  unfold finish convert
  rw [run_release]
  rcases release 0 items pending with ⟨released, waiting⟩
  cases waiting with
  | nil =>
      -- Nothing waits any more: both sides judge the operands alone.
      simp only [outcome]
      congr 1
      funext stack
      match stack with
      | [] => rfl
      | [_] => rfl
      | _ :: _ :: _ => rfl
  | cons head waiting =>
      rfl

/-- The outcome of both passes from `items` and `pending` on is the outcome of the loop from the
operands that `items` leave. -/
theorem run_fused (tokens : List Token) (items : List Item) (pending : List Pending) :
    (do let operands ← run items
        let s ← tokens.foldlM step ⟨operands, pending⟩
        s.finish) = (convert items pending tokens).outcome := by
  induction tokens generalizing items pending with
  | nil =>
      simpa using run_finish items pending
  | cons token tokens ih =>
      obtain ⟨symbol, position⟩ := token
      cases symbol with
      | number value =>
          have hnext := ih (items ++ [.number value]) pending
          rw [run_append_number] at hnext
          simpa [step, convert] using hnext
      | opening =>
          have hnext := ih items (.barrier :: pending)
          simpa [step, convert] using hnext
      | closing =>
          simp only [List.foldlM_cons, step, close, convert, bind_assoc]
          rw [run_release]
          rcases release 0 items pending with ⟨released, waiting⟩
          -- Without a barrier on top both sides fail here, after the same run.
          match waiting with
          | [] => rfl
          | .operator op :: waiting => rfl
          | .barrier :: waiting => simpa using ih released waiting
      | operator op =>
          simp only [List.foldlM_cons, step, convert, bind_assoc]
          rw [run_release]
          rcases release op.precedence items pending with ⟨released, waiting⟩
          simpa using ih released (.operator op :: waiting)

end Postfix

/-! ## Whole evaluations -/

theorem evaluateTokens_eq_outcome (tokens : List Token) :
    evaluateTokens tokens = (Postfix.ofTokens tokens).outcome := by
  have hfused := Postfix.run_fused tokens [] []
  simpa [evaluateTokens, Postfix.ofTokens, Stacks.empty] using hfused

/-- Tokens in any order, well formed or not, have the outcome of the two passes: the first fault of
the machine, else the fault of the brackets, else the only operand or the wrong number of them.  A
text has the outcome of its tokens, once it scans. -/
theorem evaluation_eq_two_passes :
    (∀ tokens : List Token, evaluateTokens tokens = (Postfix.ofTokens tokens).outcome) ∧
      ∀ (strict : Bool) (text : String),
        evaluate strict text =
          Token.scan strict text >>= fun tokens => (Postfix.ofTokens tokens).outcome := by
  refine ⟨evaluateTokens_eq_outcome, ?_⟩
  intro strict text
  unfold evaluate
  congr 1
  funext tokens
  exact evaluateTokens_eq_outcome tokens

end Abacus
