import Abacus.Evaluation

/-!
# Postfix notation

Evaluation in two passes: tokens are put into postfix notation first, where brackets are gone and
operators stand after their operands, and a machine with one stack runs the notation.

* `Postfix.ofTokens` — the notation of tokens, and how their brackets end;
* `Postfix.run` — the operands that the notation leaves on the stack;
* `Postfix.outcome` — the outcome of both passes.
-/

namespace Abacus

/-! ## Notation -/

inductive Postfix.Item
  | number (value : Binary64)
  | operator (op : Operator)
  deriving DecidableEq

/-- How the brackets of the tokens end. -/
inductive Postfix.Ending
  | balanced
  | unmatchedClosing (position : Nat)
  | unclosedOpening
  deriving DecidableEq, Repr

structure Postfix where
  items : List Postfix.Item
  ending : Postfix.Ending
  deriving DecidableEq

namespace Postfix

/-- Moves the waiting operators whose precedence is at least `level` to the items, down to the next
barrier. -/
def release (level : Nat) (items : List Item) : List Pending → List Item × List Pending
  | .operator op :: pending =>
      if level ≤ op.precedence then release level (items ++ [.operator op]) pending
      else (items, .operator op :: pending)
  | pending => (items, pending)

/-- Goes on with the items so far and the operators that wait. -/
def convert (items : List Item) (pending : List Pending) : List Token → Postfix
  | [] =>
      match release 0 items pending with
      | (items, []) => ⟨items, .balanced⟩
      -- The release stopped at a barrier, and what waits below it is never released.
      | (items, _) => ⟨items, .unclosedOpening⟩
  | token :: tokens =>
      match token.symbol with
      | .number value => convert (items ++ [.number value]) pending tokens
      | .opening => convert items (.barrier :: pending) tokens
      | .closing =>
          match release 0 items pending with
          | (items, .barrier :: pending) => convert items pending tokens
          | (items, _) => ⟨items, .unmatchedClosing token.position⟩
      | .operator op =>
          let (items, pending) := release op.precedence items pending
          convert items (.operator op :: pending) tokens

def ofTokens (tokens : List Token) : Postfix := convert [] [] tokens

/-! ## The machine -/

/-- A number is pushed; an operator replaces the two operands on top by its result. -/
def runItem : List Binary64 → Item → Except Fault (List Binary64)
  | stack, .number value => .ok (value :: stack)
  | right :: left :: stack, .operator op => do return (← op.apply left right) :: stack
  | _, .operator op => .error (.missingOperand op)

def run (items : List Item) : Except Fault (List Binary64) := items.foldlM runItem []

/-- The first fault of the machine counts before a fault of the brackets, and that before a wrong
number of operands. -/
def outcome (p : Postfix) : Outcome := do
  let stack ← run p.items
  match p.ending, stack with
  | .unmatchedClosing position, _ => .error (.unmatchedClosing position)
  | .unclosedOpening, _ => .error .unclosedOpening
  | .balanced, [value] => .ok value
  | .balanced, [] => .error .emptyExpression
  | .balanced, stack => .error (.missingOperator stack.length)

end Postfix

end Abacus
