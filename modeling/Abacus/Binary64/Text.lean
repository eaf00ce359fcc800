import Abacus.Decimal.Shortest
import Abacus.Decimal.Layout

/-!
# Writing numbers

Results and operands are written from the shortest decimal that reads back.

* `Binary64.resultText` — a result: positional, with at least one digit after the point;
* `Binary64.plainText` — positional for moderate exponents, else scientific;
* `Binary64.operandText` — an operand in a message: whole numbers stand without a point.
-/

namespace Abacus

namespace Binary64

def signed (negative : Bool) (text : List Char) : String :=
  String.ofList (if negative then '-' :: text else text)

/-- The text of a number by a layout for its magnitude. -/
def textBy (layout : Decimal → List Char) : Binary64 → String
  | .finite s k => signed s (layout (Decimal.shortest k))
  | .infinite s => signed s "inf".toList
  | .nan => "nan"

/-- The text of a result, which reads back as the same number. -/
def resultText : Binary64 → String := textBy Decimal.positional

/-- Positional from 10⁻⁴ up to below 10¹⁶. -/
def plainLayout (d : Decimal) : List Char :=
  if -4 ≤ d.leadingExponent ∧ d.leadingExponent < 16 then d.positional else d.scientific

def plainText : Binary64 → String := textBy plainLayout

/-- A whole number is written exactly and a zero has no sign; all else is `plainText`. -/
def operandText : Binary64 → String
  | .finite s k =>
      if isWhole (.finite s k) then
        signed (s && k.val != 0) (Nat.toDigits 10 (rankUnits k / oneUnits))
      else plainText (.finite s k)
  | x => plainText x

end Binary64

end Abacus
