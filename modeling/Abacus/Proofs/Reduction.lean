import Abacus.Evaluation
import Abacus.Proofs.Fallible

/-!
# Reduction — what applying the waiting operators can do

* `Operator.apply_eq_ok`, `Stacks.applyTop_eq_ok` — an application that succeeds;
* `Stacks.applyTop_eq_error` — one that fails;
* `Stacks.reduce_invariant` — what every application keeps, a reduction keeps;
* `Stacks.precedence_lt_of_reduce` — where a reduction stops.
-/

namespace Abacus

/-! ## One application -/

theorem Operator.apply_eq_ok {op : Operator} {left right value : Binary64}
    (h : op.apply left right = .ok value) :
    value = op.compute left right ∧ value.isFinite = true := by
  unfold Operator.apply at h
  split at h
  · cases h
  · dsimp only at h
    split at h
    · rename_i hfinite
      cases h
      exact ⟨rfl, hfinite⟩
    · cases h

namespace Stacks

/-- An application that succeeds finds two operands and leaves its result in their place. -/
theorem applyTop_eq_ok {op : Operator} {below stack : List Binary64}
    (h : applyTop op below = .ok stack) :
    ∃ right left rest result,
      below = right :: left :: rest ∧ op.apply left right = .ok result ∧ stack = result :: rest := by
  match below with
  | [] => cases h
  | [_] => cases h
  | right :: left :: rest =>
      simp only [applyTop] at h
      cases happly : op.apply left right with
      | error fault =>
          rw [happly] at h
          cases h
      | ok result =>
          rw [happly] at h
          cases h
          exact ⟨right, left, rest, result, rfl, happly, rfl⟩

/-- An application that fails lacks an operand, or its operation fails. -/
theorem applyTop_eq_error {op : Operator} {below : List Binary64} {fault : Fault}
    (h : applyTop op below = .error fault) :
    fault = .missingOperand op ∨ ∃ left right, op.apply left right = .error fault := by
  match below with
  | [] =>
      cases h
      exact Or.inl rfl
  | [_] =>
      cases h
      exact Or.inl rfl
  | right :: left :: rest =>
      simp only [applyTop] at h
      cases happly : op.apply left right with
      | error fault' =>
          rw [happly] at h
          cases h
          exact Or.inr ⟨left, right, happly⟩
      | ok result =>
          rw [happly] at h
          cases h

/-! ## Reductions -/

/-- The induction over a reduction: it applies the operators on top one after the other. -/
theorem reduce_invariant (P : Stacks → Prop) {level : Nat}
    (happly : ∀ op operands next pending, level ≤ op.precedence →
      P ⟨operands, .operator op :: pending⟩ → applyTop op operands = .ok next → P ⟨next, pending⟩)
    {operands : List Binary64} {pending : List Pending} {s : Stacks}
    (hs : P ⟨operands, pending⟩) (hreduce : reduce level operands pending = .ok s) : P s := by
  induction pending generalizing operands with
  | nil =>
      cases hreduce
      exact hs
  | cons head pending ih =>
      cases head with
      | barrier =>
          cases hreduce
          exact hs
      | operator op =>
          by_cases hlevel : level ≤ op.precedence
          · simp only [reduce, if_pos hlevel] at hreduce
            rcases bind_eq_ok_iff.1 hreduce with ⟨next, htop, hrest⟩
            exact ih (happly op operands next pending hlevel hs htop) hrest
          · simp only [reduce, if_neg hlevel] at hreduce
            cases hreduce
            exact hs

/-- An operator that a reduction leaves on top binds less tightly than it asked for. -/
theorem precedence_lt_of_reduce {level : Nat} {operands : List Binary64} {pending : List Pending}
    {s : Stacks} (hreduce : reduce level operands pending = .ok s) {op : Operator}
    (htop : s.pending.head? = some (.operator op)) : op.precedence < level := by
  induction pending generalizing operands with
  | nil =>
      cases hreduce
      cases htop
  | cons head pending ih =>
      cases head with
      | barrier =>
          cases hreduce
          cases htop
      | operator top =>
          by_cases hlevel : level ≤ top.precedence
          · simp only [reduce, if_pos hlevel] at hreduce
            rcases bind_eq_ok_iff.1 hreduce with ⟨next, -, hrest⟩
            exact ih hrest
          · simp only [reduce, if_neg hlevel] at hreduce
            cases hreduce
            cases htop
            exact Nat.lt_of_not_le hlevel

/-- A reduction of all operators ends at a barrier or has emptied the stack. -/
theorem pending_of_reduce_zero {operands : List Binary64} {pending : List Pending} {s : Stacks}
    (hreduce : reduce 0 operands pending = .ok s) :
    s.pending = [] ∨ ∃ rest, s.pending = .barrier :: rest := by
  match hpending : s.pending with
  | [] => exact Or.inl rfl
  | .barrier :: rest => exact Or.inr ⟨rest, rfl⟩
  | .operator op :: rest =>
      have htop : s.pending.head? = some (.operator op) := by rw [hpending, List.head?_cons]
      have hlevel := precedence_lt_of_reduce hreduce htop
      exact absurd hlevel (Nat.not_lt_zero _)

end Stacks

end Abacus
