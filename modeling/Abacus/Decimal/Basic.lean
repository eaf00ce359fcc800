import Abacus.Binary64.Rounding

/-!
# Decimal — exact decimal numbers

* `Decimal` — a coefficient and a power of ten;
* `Decimal.rank` — the rank of the nearest binary64 magnitude;
* `Decimal.ofNumeral?` — the number that a run of digits and points denotes.
-/

namespace Abacus

/-- The exact number `coefficient * 10 ^ exponent`. -/
structure Decimal where
  coefficient : Nat
  exponent : Int
  deriving DecidableEq, Repr

namespace Decimal

/-- The exact number is `unitsNum d / unitsDen d` units of 2⁻¹⁰⁷⁴. -/
def unitsNum (d : Decimal) : Nat := d.coefficient * Nat.pow 10 d.exponent.toNat * oneUnits

def unitsDen (d : Decimal) : Nat := Nat.pow 10 (-d.exponent).toNat

/-- The rank of the nearest magnitude, a half going to the even rank. -/
def rank (d : Decimal) : Nat := nearestRank d.unitsNum d.unitsDen

/-- The nearest number of the given sign. -/
def toBinary64 (negative : Bool) (d : Decimal) : Binary64 :=
  Binary64.ofUnits negative d.unitsNum d.unitsDen

/-! ## Reading numerals -/

/-- A numeral is a run of digits with at most one point and at least one digit. -/
def ofNumeral? (run : List Char) : Option Decimal :=
  let whole := run.takeWhile (· != '.')
  match run.dropWhile (· != '.') with
  | [] => if whole.isEmpty then none else some ⟨Nat.ofDigitChars 10 whole 0, 0⟩
  | _ :: fraction =>
      if fraction.contains '.' || (whole ++ fraction).isEmpty then none
      else some ⟨Nat.ofDigitChars 10 (whole ++ fraction) 0, -(fraction.length : Int)⟩

end Decimal

end Abacus
