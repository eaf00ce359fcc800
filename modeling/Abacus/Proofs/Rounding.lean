import Abacus.Decimal.Basic
import Mathlib.Data.Nat.Dist
import Mathlib.Data.Nat.Log
import Mathlib.Order.Monotone.Basic

/-!
# Rounding — the nearest rank of an exact quotient

Ranks count magnitudes, so rounding to a rank is rounding on a grid whose step doubles at every power
of two from `2 ^ 53` on.  This file proves what rounding promises:

* `rankUnits_succ` — neighbouring magnitudes are one step of the grid apart;
* `nearestRank_isNearestEven` — no magnitude is nearer, and a half goes to the even rank;
* `nearestRank_mul` — only the quotient counts, not how it is written;
* `nearestRank_rankUnits` — a magnitude is rounded to itself.
-/

namespace Abacus

/-! ## The grid of magnitudes -/

theorem rankShift_eq (k : Nat) : rankShift k = k / 2 ^ 52 - 1 := rfl

theorem rankUnits_eq (k : Nat) :
    rankUnits k = (k - rankShift k * 2 ^ 52) * 2 ^ rankShift k := rfl

/-- The magnitude of a rank in steps of its own grid. -/
def significand (k : Nat) : Nat := k - rankShift k * 2 ^ 52

theorem rankShift_mul_add_significand (k : Nat) : rankShift k * 2 ^ 52 + significand k = k := by
  unfold significand
  rw [rankShift_eq]
  omega

theorem significand_lt (k : Nat) : significand k < 2 ^ 53 := by
  unfold significand
  rw [rankShift_eq]
  omega

theorem rankShift_eq_zero_or (k : Nat) : rankShift k = 0 ∨ 2 ^ 52 ≤ significand k := by
  unfold significand
  rw [rankShift_eq]
  omega

/-- A multiple `m` of the step `2 ^ s` has rank `s * 2 ^ 52 + m`, where the grid of this step holds
`m`.  At `m = 2 ^ 53` the next grid begins with the same magnitude. -/
theorem rankUnits_shift_add {s m : Nat} (hgrid : s = 0 ∨ 2 ^ 52 ≤ m) (hm : m ≤ 2 ^ 53) :
    rankUnits (s * 2 ^ 52 + m) = m * 2 ^ s := by
  rw [rankUnits_eq]
  rcases Nat.lt_or_eq_of_le hm with hlt | rfl
  · -- The multiple lies on the grid of the step itself.
    have hshift : rankShift (s * 2 ^ 52 + m) = s := by
      rw [rankShift_eq]
      omega
    rw [hshift, Nat.add_sub_cancel_left]
  · -- It is the first one of the next grid, with half the significand and twice the step.
    have hshift : rankShift (s * 2 ^ 52 + 2 ^ 53) = s + 1 := by
      rw [rankShift_eq]
      omega
    have hfirst : s * 2 ^ 52 + 2 ^ 53 - (s + 1) * 2 ^ 52 = 2 ^ 52 := by
      omega
    rw [hshift, hfirst, ← Nat.pow_add, ← Nat.pow_add]
    congr 1
    omega

theorem rankUnits_succ (k : Nat) : rankUnits (k + 1) = rankUnits k + 2 ^ rankShift k := by
  have hsplit := rankShift_mul_add_significand k
  have hlt := significand_lt k
  have hnext : rankUnits (rankShift k * 2 ^ 52 + (significand k + 1)) =
      (significand k + 1) * 2 ^ rankShift k := by
    refine rankUnits_shift_add ?_ hlt
    rcases rankShift_eq_zero_or k with hzero | hlarge
    · exact Or.inl hzero
    · exact Or.inr (Nat.le_succ_of_le hlarge)
  have hself : rankUnits k = significand k * 2 ^ rankShift k := rfl
  rw [← Nat.add_assoc, hsplit] at hnext
  rw [hnext, hself, Nat.succ_mul]

theorem rankUnits_strictMono : StrictMono rankUnits := by
  refine strictMono_nat_of_lt_succ ?_
  intro k
  rw [rankUnits_succ]
  exact Nat.lt_add_of_pos_right (Nat.two_pow_pos _)

/-! ## Rounding to a natural number -/

theorem roundHalfEven_mul (num den : Nat) {c : Nat} (hc : 0 < c) :
    roundHalfEven (num * c) (den * c) = roundHalfEven num den := by
  unfold roundHalfEven
  -- The quotient stays as it is, and both sides of the comparison with the half are scaled.
  have hquotient : num * c / (den * c) = num / den := Nat.mul_div_mul_right num den hc
  have hremainder : num * c % (den * c) = num % den * c := Nat.mul_mod_mul_right c num den
  have hless : den * c < 2 * (num % den * c) ↔ den < 2 * (num % den) := by
    rw [← Nat.mul_assoc]
    exact Nat.mul_lt_mul_right hc
  have hequal : 2 * (num % den * c) = den * c ↔ 2 * (num % den) = den := by
    rw [← Nat.mul_assoc]
    exact Nat.mul_left_inj hc.ne'
  simp only [hquotient, hremainder, hless, hequal]

/-- The rounded number is half a step away at most, and a whole half only when it is even. -/
theorem roundHalfEven_bounds (num : Nat) {den : Nat} (hden : 0 < den) :
    2 * num ≤ 2 * (roundHalfEven num den * den) + den ∧
      2 * (roundHalfEven num den * den) ≤ 2 * num + den ∧
      (2 * num = 2 * (roundHalfEven num den * den) + den ∨
          2 * (roundHalfEven num den * den) = 2 * num + den →
        roundHalfEven num den % 2 = 0) := by
  have hdivision : num / den * den + num % den = num := Nat.div_add_mod' num den
  have hremainder : num % den < den := Nat.mod_lt num hden
  unfold roundHalfEven
  dsimp only
  split
  · rename_i hup
    have hnext : (num / den + 1) * den = num / den * den + den := Nat.succ_mul _ _
    refine ⟨?_, ?_, ?_⟩ <;> omega
  · rename_i hdown
    refine ⟨?_, ?_, ?_⟩ <;> omega

theorem roundHalfEven_eq_or (num den : Nat) :
    roundHalfEven num den = num / den ∨ roundHalfEven num den = num / den + 1 := by
  unfold roundHalfEven
  dsimp only
  split
  · exact Or.inr rfl
  · exact Or.inl rfl

/-! ## Rounding to a rank -/

/-- The distance of a quotient of units from the magnitude of a rank, in parts of `1 / den`. -/
def rankError (num den k : Nat) : Nat := Nat.dist num (rankUnits k * den)

/-- No magnitude is nearer than that of rank `k`, and if another one is as near then `k` is even. -/
structure IsNearestEven (num den k : Nat) : Prop where
  nearest : ∀ j, rankError num den k ≤ rankError num den j
  even_of_tie : ∀ j, j ≠ k → rankError num den j = rankError num den k → k % 2 = 0

/-- The grid on which a quotient of units is rounded: the power of two of its step. -/
def gridShift (num den : Nat) : Nat := (num / den).log2 - 52

theorem nearestRank_eq (num den : Nat) :
    nearestRank num den =
      gridShift num den * 2 ^ 52 + roundHalfEven num (den * 2 ^ gridShift num den) := rfl

/-- On its grid the whole part of a quotient has at most 53 digits, and no fewer unless the grid is
the finest. -/
theorem gridShift_spec (num den : Nat) :
    num / (den * 2 ^ gridShift num den) < 2 ^ 53 ∧
      (gridShift num den = 0 ∨ 2 ^ 52 ≤ num / (den * 2 ^ gridShift num den)) := by
  rw [← Nat.div_div_eq_div_mul]
  unfold gridShift
  by_cases hzero : num / den = 0
  · simp [hzero]
  · have hlower := Nat.log2_self_le hzero
    have hupper : num / den < 2 ^ ((num / den).log2 + 1) := Nat.lt_log2_self
    rcases Nat.le_total (num / den).log2 52 with hsmall | hlarge
    · -- On the finest grid the digits of the quotient need not fill the significand.
      have hshift : (num / den).log2 - 52 = 0 := Nat.sub_eq_zero_of_le hsmall
      rw [hshift, Nat.pow_zero, Nat.div_one]
      refine ⟨Nat.lt_of_lt_of_le hupper ?_, Or.inl rfl⟩
      exact Nat.pow_le_pow_right (by decide) (by omega)
    · have hsplit : (num / den).log2 = 52 + ((num / den).log2 - 52) := by omega
      refine ⟨?_, Or.inr ?_⟩
      · rw [Nat.div_lt_iff_lt_mul (Nat.two_pow_pos _), ← Nat.pow_add]
        refine Nat.lt_of_lt_of_le hupper (Nat.pow_le_pow_right (by decide) (by omega))
      · rw [Nat.le_div_iff_mul_le (Nat.two_pow_pos _), ← Nat.pow_add, ← hsplit]
        exact hlower

/-- Only the quotient counts. -/
theorem nearestRank_mul (num den : Nat) {c : Nat} (hc : 0 < c) :
    nearestRank (num * c) (den * c) = nearestRank num den := by
  have hshift : gridShift (num * c) (den * c) = gridShift num den := by
    unfold gridShift
    rw [Nat.mul_div_mul_right num den hc]
  rw [nearestRank_eq, nearestRank_eq, hshift, Nat.mul_right_comm, roundHalfEven_mul _ _ hc]

theorem rankUnits_nearestRank_mul (num den : Nat) :
    rankUnits (nearestRank num den) * den =
      roundHalfEven num (den * 2 ^ gridShift num den) * (den * 2 ^ gridShift num den) := by
  rcases gridShift_spec num den with ⟨hupper, hlower⟩
  have hrounded := roundHalfEven_eq_or num (den * 2 ^ gridShift num den)
  have hunits : rankUnits (nearestRank num den) =
      roundHalfEven num (den * 2 ^ gridShift num den) * 2 ^ gridShift num den := by
    rw [nearestRank_eq]
    refine rankUnits_shift_add ?_ (by omega)
    rcases hlower with hzero | hlarge
    · exact Or.inl hzero
    · exact Or.inr (by omega)
  rw [hunits, Nat.mul_assoc, Nat.mul_comm (2 ^ gridShift num den)]

/-- Above the rounded rank the magnitudes are a whole step of the grid away. -/
theorem rankUnits_add_step_le {num den j : Nat} (hj : nearestRank num den < j) :
    rankUnits (nearestRank num den) * den + den * 2 ^ gridShift num den ≤ rankUnits j * den := by
  have hgrid : gridShift num den ≤ rankShift (nearestRank num den) := by
    rcases gridShift_spec num den with ⟨-, hlower⟩
    have hrounded := roundHalfEven_eq_or num (den * 2 ^ gridShift num den)
    rw [rankShift_eq, nearestRank_eq]
    omega
  have hstep : rankUnits (nearestRank num den) + 2 ^ gridShift num den ≤ rankUnits j := by
    calc
      rankUnits (nearestRank num den) + 2 ^ gridShift num den
          ≤ rankUnits (nearestRank num den) + 2 ^ rankShift (nearestRank num den) :=
            Nat.add_le_add_left (Nat.pow_le_pow_right (by decide) hgrid) _
      _ = rankUnits (nearestRank num den + 1) := (rankUnits_succ _).symm
      _ ≤ rankUnits j := rankUnits_strictMono.monotone hj
  calc
    rankUnits (nearestRank num den) * den + den * 2 ^ gridShift num den
        = (rankUnits (nearestRank num den) + 2 ^ gridShift num den) * den := by
          rw [Nat.add_mul, Nat.mul_comm den]
    _ ≤ rankUnits j * den := Nat.mul_le_mul_right den hstep

/-- Below the rounded rank they are, too, when the quotient was rounded up.  (Otherwise the grid may
be finer there, but then the quotient lies on the other side.) -/
theorem rankUnits_add_step_le_of_up {num den j : Nat} (hj : j < nearestRank num den)
    (hup : num < rankUnits (nearestRank num den) * den) :
    rankUnits j * den + den * 2 ^ gridShift num den ≤ rankUnits (nearestRank num den) * den := by
  have hunits := rankUnits_nearestRank_mul num den
  rcases gridShift_spec num den with ⟨hupper, hlower⟩
  have hfloor : num / (den * 2 ^ gridShift num den) * (den * 2 ^ gridShift num den) ≤ num :=
    Nat.div_mul_le_self num _
  -- Rounded up, the quotient lies above the multiple below the rounded one.
  have hnext : roundHalfEven num (den * 2 ^ gridShift num den) =
      num / (den * 2 ^ gridShift num den) + 1 := by
    rcases roundHalfEven_eq_or num (den * 2 ^ gridShift num den) with hdown | hnext
    · rw [hdown] at hunits
      omega
    · exact hnext
  have hbelow : rankUnits j ≤ num / (den * 2 ^ gridShift num den) * 2 ^ gridShift num den := by
    rw [← rankUnits_shift_add hlower hupper.le]
    refine rankUnits_strictMono.monotone ?_
    rw [nearestRank_eq, hnext] at hj
    omega
  calc
    rankUnits j * den + den * 2 ^ gridShift num den
        ≤ num / (den * 2 ^ gridShift num den) * 2 ^ gridShift num den * den +
            den * 2 ^ gridShift num den :=
          Nat.add_le_add_right (Nat.mul_le_mul_right den hbelow) _
    _ = (num / (den * 2 ^ gridShift num den) + 1) * (den * 2 ^ gridShift num den) := by
          rw [Nat.succ_mul, Nat.mul_assoc, Nat.mul_comm (2 ^ gridShift num den) den]
    _ = rankUnits (nearestRank num den) * den := by
          rw [hunits, hnext]

/-- Each other magnitude is a step of the grid away, or on the far side of the quotient. -/
theorem rankUnits_apart {num den j : Nat} (hden : 0 < den) (hj : j ≠ nearestRank num den) :
    rankUnits (nearestRank num den) * den + den * 2 ^ gridShift num den ≤ rankUnits j * den ∨
      rankUnits j * den + den * 2 ^ gridShift num den ≤ rankUnits (nearestRank num den) * den ∨
      rankUnits j * den < rankUnits (nearestRank num den) * den ∧
        rankUnits (nearestRank num den) * den ≤ num := by
  rcases Nat.lt_or_gt_of_ne hj with hbelow | habove
  · rcases Nat.lt_or_ge num (rankUnits (nearestRank num den) * den) with hup | hdown
    · exact Or.inr (Or.inl (rankUnits_add_step_le_of_up hbelow hup))
    · refine Or.inr (Or.inr ⟨?_, hdown⟩)
      exact Nat.mul_lt_mul_of_pos_right (rankUnits_strictMono hbelow) hden
  · exact Or.inl (rankUnits_add_step_le habove)

/-- Rounding finds the nearest magnitude, and of two the one of even rank. -/
theorem nearestRank_isNearestEven (num : Nat) {den : Nat} (hden : 0 < den) :
    IsNearestEven num den (nearestRank num den) := by
  have hstep : 0 < den * 2 ^ gridShift num den := Nat.mul_pos hden (Nat.two_pow_pos _)
  rcases roundHalfEven_bounds num hstep with ⟨hlow, hhigh, htie⟩
  -- The rank has the parity of the rounded number, since a whole grid has an even number of ranks.
  have hparity : nearestRank num den % 2 =
      roundHalfEven num (den * 2 ^ gridShift num den) % 2 := by
    rw [nearestRank_eq]
    omega
  rw [← hparity] at htie
  rw [← rankUnits_nearestRank_mul] at hlow hhigh htie
  refine ⟨?_, ?_⟩
  · intro j
    by_cases hj : j = nearestRank num den
    · rw [hj]
    · have hapart := rankUnits_apart hden hj
      unfold rankError Nat.dist
      omega
  · intro j hj hequal
    have hapart := rankUnits_apart hden hj
    refine htie ?_
    unfold rankError Nat.dist at hequal
    omega

/-- A magnitude is rounded to its own rank. -/
theorem nearestRank_rankUnits (k : Nat) {c : Nat} (hc : 0 < c) :
    nearestRank (rankUnits k * c) c = k := by
  have hnearest := (nearestRank_isNearestEven (rankUnits k * c) hc).nearest k
  unfold rankError at hnearest
  rw [Nat.dist_self, Nat.le_zero] at hnearest
  have hunits := Nat.eq_of_mul_eq_mul_right hc (Nat.eq_of_dist_eq_zero hnearest)
  exact (rankUnits_strictMono.injective hunits).symm

end Abacus
