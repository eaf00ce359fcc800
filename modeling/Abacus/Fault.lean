import Abacus.Binary64.Text
import Abacus.Operator

/-!
# Fault — why an expression has no value

* `Fault` — the causes, with what a reader needs to find them;
* `Fault.kind`, `Fault.message`, `Fault.position` — how a cause is reported;
* `Outcome` — the value of an expression, or the first fault;
* `Operator.apply` — one operation, refused when its result would not be finite.
-/

namespace Abacus

/-! ## Kinds -/

inductive Fault.Kind
  | divisionByZero
  | malformedExpression
  | numericParseFailure
  | unexpectedCharacter
  | numericOverflow
  deriving DecidableEq, Repr

def Fault.Kind.name : Fault.Kind → String
  | .divisionByZero => "division_by_zero"
  | .malformedExpression => "malformed_expression"
  | .numericParseFailure => "numeric_parse_failure"
  | .unexpectedCharacter => "unexpected_character"
  | .numericOverflow => "numeric_overflow"

/-! ## Causes -/

/-- Positions count characters from the start of the text. -/
inductive Fault
  | invalidNumber (literal : String) (position : Nat)
  | numberOutOfRange (length : Nat) (position : Nat)
  | unexpectedCharacter (c : Char) (position : Nat)
  | unmatchedClosing (position : Nat)
  | unclosedOpening
  | missingOperand (op : Operator)
  | missingOperator (operands : Nat)
  | emptyExpression
  | divisionByZero (left right : Binary64)
  | resultOutOfRange (op : Operator) (left right : Binary64)
  deriving DecidableEq

/-- The value of an expression, or the first fault met on the way to it. -/
abbrev Outcome := Except Fault Binary64

namespace Fault

def kind : Fault → Kind
  | .invalidNumber _ _ | .numberOutOfRange _ _ => .numericParseFailure
  | .unexpectedCharacter _ _ => .unexpectedCharacter
  | .unmatchedClosing _ | .unclosedOpening | .missingOperand _ | .missingOperator _
  | .emptyExpression => .malformedExpression
  | .divisionByZero _ _ => .divisionByZero
  | .resultOutOfRange _ _ _ => .numericOverflow

/-- Faults of the text and closing brackets have a place; the others concern the whole. -/
def position : Fault → Option Nat
  | .invalidNumber _ p | .numberOutOfRange _ p | .unexpectedCharacter _ p
  | .unmatchedClosing p => some p
  | _ => none

def message : Fault → String
  | .invalidNumber literal p => s!"Niepoprawna liczba {Text.quote literal} na pozycji {p}"
  | .numberOutOfRange length p => s!"Liczba poza zakresem na pozycji {p} ({length} znaków)"
  | .unexpectedCharacter c p =>
      s!"Nieoczekiwany znak {Text.quote (String.singleton c)} na pozycji {p}"
  | .unmatchedClosing p => s!"Nawias ')' bez pary na pozycji {p}"
  | .unclosedOpening => "Niezamknięty nawias '('"
  | .missingOperand op => s!"Brak operandu dla operatora {Text.quote op.symbol}"
  | .missingOperator operands => s!"Brak operatora między {operands} liczbami"
  | .emptyExpression => "Puste wyrażenie"
  | .divisionByZero left right =>
      s!"Dzielenie przez zero: {left.operandText} / {right.operandText}"
  | .resultOutOfRange op left right =>
      s!"Wynik poza zakresem: {left.operandText} {op.symbol} {right.operandText}"

end Fault

/-! ## One operation -/

/-- A zero divisor is refused first, then a result that is not finite. -/
def Operator.apply (op : Operator) (left right : Binary64) : Outcome :=
  if op = .divide ∧ right.isZero then .error (.divisionByZero left right)
  else
    let result := op.compute left right
    if result.isFinite then .ok result else .error (.resultOutOfRange op left right)

end Abacus
