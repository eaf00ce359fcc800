import Abacus.Evaluation

/-!
# Evaluation by written symbols

Here operators wait as the texts that they are written as, among them the opening bracket, and what a
text means is looked up each time.  A look-up may miss, so an evaluation may stop for another reason
than a fault of the expression.

* `Written.Stop` — a fault as it is reported, or a look-up that misses;
* `Written.precedence`, `Written.apply` — the two look-ups;
* `Written.step`, `Written.finish` — the loops over the waiting texts;
* `Written.evaluate` — the outcome of a text.
-/

namespace Abacus

namespace Written

inductive Stop
  | failure (kind : Fault.Kind) (message : String) (position : Option Nat)
  /-- A text that has no precedence. -/
  | unranked (symbol : String)
  /-- A text that names no operation. -/
  | unnamed (refusal : Operator.Unknown)
  deriving DecidableEq, Repr

/-- A fault as it is reported. -/
def Stop.ofFault (fault : Fault) : Stop := .failure fault.kind fault.message fault.position

/-! ## Look-ups -/

/-- The opening bracket has no precedence. -/
def precedences : List (String × Nat) := [("+", 1), ("-", 1), ("*", 2), ("/", 2)]

def precedence (symbol : String) : Except Stop Nat :=
  match precedences.lookup symbol with
  | some level => .ok level
  | none => .error (.unranked symbol)

def apply (symbol : String) (left right : Binary64) : Except Stop Binary64 :=
  match Operator.named symbol with
  | .ok op => (op.apply left right).mapError Stop.ofFault
  | .error refusal => .error (.unnamed refusal)

/-! ## Reduction -/

/-- The opening bracket, as it waits among the operators. -/
def barrier : String := "("

/-- Both stacks have their top in front. -/
structure Stacks where
  operands : List Binary64
  symbols : List String
  deriving DecidableEq

def Stacks.empty : Stacks := ⟨[], []⟩

/-- Operands are counted before the symbol is looked up. -/
def applyTop (symbol : String) : List Binary64 → Except Stop (List Binary64)
  | right :: left :: rest => do return (← apply symbol left right) :: rest
  | _ => .error (.failure .malformedExpression
      s!"Brak operandu dla operatora {Text.quote symbol}" none)

/-- Applies the symbols on top as long as a test says so, down to the next barrier. -/
def reduceWhile (goesOn : String → Except Stop Bool) (operands : List Binary64) :
    List String → Except Stop Stacks
  | [] => .ok ⟨operands, []⟩
  | symbol :: symbols =>
      if symbol = barrier then .ok ⟨operands, symbol :: symbols⟩
      else do
        if ← goesOn symbol then
          let operands ← applyTop symbol operands
          reduceWhile goesOn operands symbols
        else return ⟨operands, symbol :: symbols⟩

def always (_ : String) : Except Stop Bool := .ok true

/-- Whether a waiting symbol binds at least as tightly as an incoming one. -/
def bindsFrom (incoming : Nat) (symbol : String) : Except Stop Bool := do
  return incoming ≤ (← precedence symbol)

/-! ## Tokens -/

def step (s : Stacks) (token : Token) : Except Stop Stacks :=
  match token.symbol with
  | .number value => .ok ⟨value :: s.operands, s.symbols⟩
  | .opening => .ok ⟨s.operands, barrier :: s.symbols⟩
  | .closing => do
      let s ← reduceWhile always s.operands s.symbols
      match s.symbols with
      | [] => .error (.ofFault (.unmatchedClosing token.position))
      | _ :: symbols => return ⟨s.operands, symbols⟩
  | .operator op => do
      let incoming ← precedence op.symbol
      let s ← reduceWhile (bindsFrom incoming) s.operands s.symbols
      return ⟨s.operands, op.symbol :: s.symbols⟩

def finish (s : Stacks) : Except Stop Binary64 := do
  let s ← reduceWhile always s.operands s.symbols
  match s.symbols with
  | [] => (Abacus.Stacks.result s.operands).mapError Stop.ofFault
  | _ => .error (.ofFault .unclosedOpening)

def evaluate (strict : Bool) (text : String) : Except Stop Binary64 := do
  let tokens ← (Token.scan strict text).mapError Stop.ofFault
  let s ← tokens.foldlM step Stacks.empty
  finish s

end Written

end Abacus
