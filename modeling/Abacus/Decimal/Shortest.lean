import Abacus.Decimal.Basic

/-!
# The shortest decimal that reads back

Decimals are tried on grids of powers of ten, from coarse to fine. On each grid only the two
neighbours of the magnitude can be nearest, so the first grid on which one of them reads back gives
the fewest digits. The finest grid holds the magnitude itself, so the search always ends.

* `Decimal.neighbours` — the two neighbours on a grid, the nearer one first;
* `Decimal.shortest` — the decimal of a rank.
-/

namespace Abacus

namespace Decimal

/-- The exponent of the finest grid, on which every magnitude lies. -/
def finest : Int := -1074

/-- The magnitude of a rank as a multiple of the finest grid. -/
def exactCoefficient (k : Nat) : Nat := rankUnits k * Nat.pow 5 1074

/-- The two multiples of ten to the power `step - 1074` around the magnitude of rank `k`, the nearer
one first; at equal distance the even one is first. -/
def neighbours (k step : Nat) : Decimal × Decimal :=
  let low := exactCoefficient k / Nat.pow 10 step
  let below : Decimal := ⟨low, step + finest⟩
  let above : Decimal := ⟨low + 1, step + finest⟩
  if roundHalfEven (exactCoefficient k) (Nat.pow 10 step) = low then (below, above) else (above, below)

/-- The first decimal that reads back as rank `k`, on grids no coarser than `step`. -/
def search (k : Nat) : Nat → Decimal
  | 0 => ⟨exactCoefficient k, finest⟩
  | step + 1 =>
      -- The nearer neighbour may miss where the farther one reads back: below a power of two the
      -- magnitudes are closer together.
      let candidates := neighbours k (step + 1)
      if candidates.1.rank = k then candidates.1
      else if candidates.2.rank = k then candidates.2
      else search k step

/-- The grid just above the magnitude of rank `k`, or above one for a fraction. -/
def coarsest (k : Nat) : Nat := (Nat.toDigits 10 (rankUnits k / oneUnits)).length + 1074

/-- The decimal with the fewest digits that reads back as rank `k`. -/
def shortest (k : Nat) : Decimal :=
  if k = 0 then ⟨0, 0⟩ else search k (coarsest k)

end Decimal

end Abacus
