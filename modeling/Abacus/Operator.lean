import Abacus.Binary64.Arithmetic
import Abacus.Text.Quoted

/-!
# Operator — the four operators

* `Operator.precedence` — products and quotients bind tighter than sums and differences;
* `Operator.compute` — the rounded result of two numbers;
* `Operator.named` — the operator of a written symbol, or the refusal of any other text.
-/

namespace Abacus

inductive Operator
  | plus
  | minus
  | times
  | divide
  deriving DecidableEq, Repr

namespace Operator

def char : Operator → Char
  | .plus => '+'
  | .minus => '-'
  | .times => '*'
  | .divide => '/'

def symbol (op : Operator) : String := String.singleton op.char

def ofChar? : Char → Option Operator
  | '+' => some .plus
  | '-' => some .minus
  | '*' => some .times
  | '/' => some .divide
  | _ => none

/-- The operator that a text of exactly one character names. -/
def ofSymbol? (s : String) : Option Operator :=
  match s.toList with
  | [c] => ofChar? c
  | _ => none

/-- The refusal of a text that names no operator. -/
structure Unknown where
  symbol : String
  deriving DecidableEq, Repr

def Unknown.message (u : Unknown) : String := s!"Nieznany operator: {Text.quote u.symbol}"

def named (s : String) : Except Unknown Operator :=
  match ofSymbol? s with
  | some op => .ok op
  | none => .error ⟨s⟩

def precedence : Operator → Nat
  | .plus | .minus => 1
  | .times | .divide => 2

def compute : Operator → Binary64 → Binary64 → Binary64
  | .plus => Binary64.add
  | .minus => Binary64.sub
  | .times => Binary64.mul
  | .divide => Binary64.div

end Operator

end Abacus
