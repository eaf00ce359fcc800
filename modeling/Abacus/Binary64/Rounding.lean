import Abacus.Binary64.Basic

/-!
# Rounding an exact quotient

Every result of the calculator is an exact quotient of natural numbers, rounded once: to the nearest
magnitude, and a half to the neighbour of even rank. Ranks go on past the finite ones, so an
overflow is a rank that is too large.

* `roundHalfEven` — a quotient to a natural number;
* `nearestRank` — a quotient of units to a rank;
* `Binary64.ofUnits` — a quotient of units and a sign to a number.
-/

namespace Abacus

/-- The natural number nearest to `num / den`; a half goes to the even neighbour. -/
def roundHalfEven (num den : Nat) : Nat :=
  let q := num / den
  let r := num % den
  if den < 2 * r ∨ (2 * r = den ∧ q % 2 = 1) then q + 1 else q

/-- The rank of the magnitude nearest to `num / den` units; a half goes to the even rank. -/
def nearestRank (num den : Nat) : Nat :=
  -- The step of the grid leaves 53 binary digits to the rounded number, or all that there are.
  let shift := (num / den).log2 - 52
  shift * Nat.pow 2 52 + roundHalfEven num (den * Nat.pow 2 shift)

/-- The number of the given sign nearest to `num / den` units. -/
def Binary64.ofUnits (negative : Bool) (num den : Nat) : Binary64 :=
  let k := nearestRank num den
  if h : k < finiteCount then .finite negative ⟨k, h⟩ else .infinite negative

end Abacus
