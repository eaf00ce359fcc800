import Abacus.Token

/-!
# Evaluation on two stacks

Numbers wait on one stack and operators on the other. An incoming operator first applies those on
top that bind at least as tightly, so equal operators associate to the left; an opening bracket is a
barrier that only its closing bracket removes.

* `Stacks.step` — what one token does;
* `Stacks.finish` — what remains at the end of the tokens;
* `evaluateTokens`, `evaluate` — the outcome of tokens and of a text.
-/

namespace Abacus

/-- What waits on the operator stack. -/
inductive Pending
  | operator (op : Operator)
  | barrier
  deriving DecidableEq, Repr

/-- Both stacks have their top in front. -/
structure Stacks where
  operands : List Binary64
  pending : List Pending
  deriving DecidableEq

namespace Stacks

def empty : Stacks := ⟨[], []⟩

/-! ## Reduction -/

/-- Replaces the two operands on top by the result of an operator. -/
def applyTop (op : Operator) : List Binary64 → Except Fault (List Binary64)
  | right :: left :: rest => (op.apply left right).map (· :: rest)
  | _ => .error (.missingOperand op)

/-- Applies the operators on top whose precedence is at least `level`, down to the next barrier. -/
def reduce (level : Nat) (operands : List Binary64) : List Pending → Except Fault Stacks
  | .operator op :: pending =>
      if level ≤ op.precedence then do
        let operands ← applyTop op operands
        reduce level operands pending
      else .ok ⟨operands, .operator op :: pending⟩
  | pending => .ok ⟨operands, pending⟩

/-! ## Tokens -/

/-- A closing bracket applies all down to its barrier and removes it. -/
def close (position : Nat) (s : Stacks) : Except Fault Stacks := do
  let s ← reduce 0 s.operands s.pending
  -- The reduction ends at a barrier or has emptied the stack.
  match s.pending with
  | .barrier :: pending => .ok ⟨s.operands, pending⟩
  | _ => .error (.unmatchedClosing position)

def step (s : Stacks) (token : Token) : Except Fault Stacks :=
  match token.symbol with
  | .number value => .ok ⟨value :: s.operands, s.pending⟩
  | .opening => .ok ⟨s.operands, .barrier :: s.pending⟩
  | .closing => close token.position s
  | .operator op => do
      let s ← reduce op.precedence s.operands s.pending
      return ⟨s.operands, .operator op :: s.pending⟩

/-! ## The end of the tokens -/

/-- The value is the only operand. -/
def result : List Binary64 → Outcome
  | [value] => .ok value
  | [] => .error .emptyExpression
  | operands => .error (.missingOperator operands.length)

/-- All waiting operators are applied; a barrier that is met was never closed. -/
def finish (s : Stacks) : Outcome := do
  let s ← reduce 0 s.operands s.pending
  match s.pending with
  | [] => result s.operands
  | _ => .error .unclosedOpening

end Stacks

/-- The outcome of a list of tokens. -/
def evaluateTokens (tokens : List Token) : Outcome := do
  let s ← tokens.foldlM Stacks.step Stacks.empty
  s.finish

/-- The outcome of a text. -/
def evaluate (strict : Bool) (text : String) : Outcome := do
  let tokens ← Token.scan strict text
  evaluateTokens tokens

end Abacus
