import Abacus.Decimal.Basic
import Abacus.Lexeme

/-!
# Reading signed decimals

A minus may stand in front of a numeral, and an exponent behind it.

* `Decimal.ofExponent?` — the power of ten of an exponent;
* `Decimal.ofUnsigned?` — the number that a numeral and its exponent denote;
* `Decimal.ofSigned?` — the same with a sign.
-/

namespace Abacus

namespace Decimal

/-- Digits, and nothing else. -/
def ofDigits? (text : List Char) : Option Nat :=
  if text.isEmpty || !text.all Char.isDigit then none else some (Nat.ofDigitChars 10 text 0)

/-- No exponent at all stands for zero. -/
def ofExponent? : List Char → Option Int
  | [] => some 0
  | 'e' :: '-' :: digits => (ofDigits? digits).map fun n : Nat => -(n : Int)
  | 'e' :: '+' :: digits => (ofDigits? digits).map fun n : Nat => (n : Int)
  | 'e' :: digits => (ofDigits? digits).map fun n : Nat => (n : Int)
  | _ => none

def ofUnsigned? (text : List Char) : Option Decimal := do
  let mantissa := text.takeWhile (· != 'e')
  guard (mantissa.all isNumeric)
  let d ← ofNumeral? mantissa
  let power ← ofExponent? (text.dropWhile (· != 'e'))
  return ⟨d.coefficient, d.exponent + power⟩

/-- Whether a minus stands in front, and the number behind it. -/
def ofSigned? : List Char → Option (Bool × Decimal)
  | '-' :: text => (ofUnsigned? text).map fun d => (true, d)
  | text => (ofUnsigned? text).map fun d => (false, d)

end Decimal

end Abacus
