import Abacus.Proofs.Literals
import Mathlib.Algebra.Order.Field.Basic
import Mathlib.Algebra.Order.Field.Rat
import Mathlib.Order.Fin.Basic
import Mathlib.Tactic.Linarith

/-!
# Magnitudes — the nearest finite number to a rational one

A rank stands for a magnitude, which is a rational number.  Of the finite magnitudes one is nearest to a
given rational number, and where two are, the one with an even significand is meant.  This fixes one rank
for each rational number, and larger numbers have no smaller ranks:

* `magnitude`, `IsNearest` — the value of a rank, and the rank that a rational number is rounded to;
* `IsNearest.le_of_le`, `IsNearest.unique` — monotone, and at most one;
* `isNearest_magnitude` — a magnitude is nearest to itself;
* `isNearest_zero_iff` — what is rounded to zero;
* `exists_magnitude_eq` — whole numbers of 53 binary digits are magnitudes;
* `IsNearestEven.isNearest` — rounding of quotients in units is rounding of rational numbers.
-/

namespace Abacus

/-! ## Values of ranks -/

/-- The exact value of the magnitude of a rank. -/
def magnitude (k : Nat) : ℚ := rankUnits k / oneUnits

theorem oneUnits_cast_pos : (0 : ℚ) < oneUnits := Nat.cast_pos.2 oneUnits_pos

theorem oneUnits_cast : (oneUnits : ℚ) = 2 ^ 1074 := by
  unfold oneUnits
  -- The power itself is too large to be written out.
  generalize 1074 = places
  exact Nat.cast_pow 2 places

theorem magnitude_strictMono : StrictMono magnitude := by
  intro j k hlt
  have hunits : (rankUnits j : ℚ) < rankUnits k := Nat.cast_lt.2 (rankUnits_strictMono hlt)
  exact div_lt_div_of_pos_right hunits oneUnits_cast_pos

theorem magnitude_zero : magnitude 0 = 0 := by
  have hunits : rankUnits 0 = 0 := by decide
  unfold magnitude
  rw [hunits, Nat.cast_zero, zero_div]

theorem magnitude_one : magnitude 1 = 1 / 2 ^ 1074 := by
  have hunits : rankUnits 1 = 1 := by decide
  unfold magnitude
  rw [hunits, Nat.cast_one, oneUnits_cast]

theorem magnitude_of_rankUnits_eq {k n : Nat} (h : rankUnits k = n * oneUnits) :
    magnitude k = n := by
  unfold magnitude
  rw [h, Nat.cast_mul, mul_div_cancel_right₀ _ oneUnits_cast_pos.ne']

/-! ## The nearest magnitude -/

/-- No finite magnitude is nearer to `q` than that of rank `k`, and if another one is as near then the
significand of `k` is even. -/
structure IsNearest (q : ℚ) (k : Fin finiteCount) : Prop where
  nearest : ∀ j : Fin finiteCount, |q - magnitude k| ≤ |q - magnitude j|
  even_of_tie : ∀ j : Fin finiteCount, j ≠ k → |q - magnitude j| = |q - magnitude k| →
    significand k % 2 = 0

/-- Even and odd ranks take turns, and so do their significands. -/
theorem significand_mod_two (k : Nat) : significand k % 2 = k % 2 := by
  have hsplit := rankShift_mul_add_significand k
  omega

namespace IsNearest

variable {q r : ℚ} {j k : Fin finiteCount}

/-- A number lies above half the way from any smaller magnitude. -/
theorem midpoint_le (h : IsNearest q k) (hlt : j < k) : magnitude j + magnitude k ≤ 2 * q := by
  have hmagnitude : magnitude j < magnitude k := magnitude_strictMono hlt
  have hnearest := h.nearest j
  by_contra hbelow
  have hfar : magnitude k - q ≤ |q - magnitude k| := by
    rw [abs_sub_comm]
    exact le_abs_self _
  have hnear : |q - magnitude j| < magnitude k - q :=
    abs_lt.2 ⟨by linarith, by linarith⟩
  linarith

/-- A number lies below half the way to any larger magnitude. -/
theorem le_midpoint (h : IsNearest q j) (hlt : j < k) : 2 * q ≤ magnitude j + magnitude k := by
  have hmagnitude : magnitude j < magnitude k := magnitude_strictMono hlt
  have hnearest := h.nearest k
  by_contra habove
  have hfar : q - magnitude j ≤ |q - magnitude j| := le_abs_self _
  have hnear : |q - magnitude k| < q - magnitude j :=
    abs_lt.2 ⟨by linarith, by linarith⟩
  linarith

theorem even_of_midpoint (h : IsNearest q k) (hne : j ≠ k)
    (hmidpoint : 2 * q = magnitude j + magnitude k) : (k : Nat) % 2 = 0 := by
  rw [← significand_mod_two]
  refine h.even_of_tie j hne ?_
  have hopposite : q - magnitude j = -(q - magnitude k) := by linarith
  rw [hopposite, abs_neg]

/-- Rounding is monotone. -/
theorem le_of_le (hle : q ≤ r) (hj : IsNearest q j) (hk : IsNearest r k) : j ≤ k := by
  by_contra hnot
  have hlt : k < j := not_le.1 hnot
  have hlow := hj.midpoint_le hlt
  have hhigh := hk.le_midpoint hlt
  -- Both numbers lie half-way between the two magnitudes, so both ranks are even.
  have hjeven := hj.even_of_midpoint hlt.ne (by linarith)
  have hkeven := hk.even_of_midpoint (j := j) hlt.ne' (by linarith)
  have hval : (k : Nat) < j := hlt
  -- Then there is a rank between them, and its magnitude is nearer.
  obtain ⟨i, hi⟩ : ∃ i : Fin finiteCount, (i : Nat) = k + 1 := ⟨⟨k + 1, by omega⟩, rfl⟩
  have hki : k < i := Fin.lt_def.2 (by omega)
  have hij : i < j := Fin.lt_def.2 (by omega)
  have hnearer := hk.le_midpoint hki
  have hmagnitude : magnitude i < magnitude j := magnitude_strictMono hij
  linarith

theorem unique (hj : IsNearest q j) (hk : IsNearest q k) : j = k :=
  le_antisymm (hj.le_of_le le_rfl hk) (hk.le_of_le le_rfl hj)

end IsNearest

/-! ## Numbers that are rounded to themselves, and to zero -/

theorem isNearest_magnitude (k : Fin finiteCount) : IsNearest (magnitude k) k where
  nearest := by
    intro j
    rw [sub_self, abs_zero]
    exact abs_nonneg _
  even_of_tie := by
    intro j hne hequal
    rw [sub_self, abs_zero, abs_eq_zero, sub_eq_zero] at hequal
    exact absurd (Fin.ext (magnitude_strictMono.injective hequal)).symm hne

/-- Half of the least magnitude other than zero is still rounded to zero. -/
theorem isNearest_zero_iff {q : ℚ} (hq : 0 ≤ q) :
    IsNearest q ⟨0, finiteCount_pos⟩ ↔ q ≤ 1 / 2 ^ 1075 := by
  have hhalf : (1 : ℚ) / 2 ^ 1075 = magnitude 1 / 2 := by
    rw [magnitude_one, div_div]
    exact congrArg (1 / ·) (pow_succ 2 1074)
  rw [hhalf]
  constructor
  · intro h
    have hone : 1 < finiteCount := by decide
    have hmidpoint := h.le_midpoint (k := ⟨1, hone⟩) (Fin.lt_def.2 Nat.zero_lt_one)
    simp only [magnitude_zero] at hmidpoint
    linarith
  · intro hle
    refine ⟨?_, fun _ _ _ => rfl⟩
    intro j
    by_cases hj : (j : Nat) = 0
    · simp only [hj]
      exact le_rfl
    · have hleast : magnitude 1 ≤ magnitude j :=
        magnitude_strictMono.monotone (Nat.one_le_iff_ne_zero.2 hj)
      calc
        |q - magnitude 0| = q := by rw [magnitude_zero, sub_zero, abs_of_nonneg hq]
        _ ≤ magnitude j - q := by linarith
        _ ≤ |q - magnitude j| := by
          rw [abs_sub_comm]
          exact le_abs_self _

/-! ## Whole numbers -/

/-- Shifted to the left, a number of at most 53 binary digits fills the digits of a significand. -/
theorem exists_shift_of_le {n : Nat} (hzero : n ≠ 0) (hn : n ≤ 2 ^ 53) :
    ∃ shift, shift ≤ 52 ∧ 2 ^ 52 ≤ n * 2 ^ shift ∧ n * 2 ^ shift ≤ 2 ^ 53 := by
  have hlower : 2 ^ n.log2 ≤ n := Nat.log2_self_le hzero
  have hupper : n ≤ 2 ^ (n.log2 + 1) := Nat.lt_log2_self.le
  rcases Nat.le_total n.log2 52 with hshort | hlong
  · refine ⟨52 - n.log2, Nat.sub_le 52 _, ?_, ?_⟩
    · calc
        2 ^ 52 = 2 ^ n.log2 * 2 ^ (52 - n.log2) := by
          rw [← Nat.pow_add, Nat.add_sub_cancel' hshort]
        _ ≤ n * 2 ^ (52 - n.log2) := Nat.mul_le_mul_right _ hlower
    · calc
        n * 2 ^ (52 - n.log2) ≤ 2 ^ (n.log2 + 1) * 2 ^ (52 - n.log2) :=
          Nat.mul_le_mul_right _ hupper
        _ = 2 ^ 53 := by
          rw [← Nat.pow_add, Nat.add_right_comm, Nat.add_sub_cancel' hshort]
  · -- It has all the digits already.
    refine ⟨0, Nat.zero_le 52, ?_, ?_⟩
    · rw [Nat.pow_zero, Nat.mul_one]
      exact (Nat.pow_le_pow_right (by decide) hlong).trans hlower
    · rw [Nat.pow_zero, Nat.mul_one]
      exact hn

theorem exists_rankUnits_eq {n places : Nat} (hn : n ≤ 2 ^ 53) (hplaces : 52 ≤ places)
    (hfinite : (places + 2) * 2 ^ 52 < finiteCount) :
    ∃ k, k < finiteCount ∧ rankUnits k = n * 2 ^ places := by
  by_cases hzero : n = 0
  · subst hzero
    refine ⟨0, finiteCount_pos, ?_⟩
    rw [Nat.zero_mul]
    decide
  · rcases exists_shift_of_le hzero hn with ⟨shift, hshift, hlarge, hsmall⟩
    refine ⟨(places - shift) * 2 ^ 52 + n * 2 ^ shift, ?_, ?_⟩
    · omega
    · -- The zeros that the shift has put behind the number are missing in the step of its grid.
      calc
        rankUnits ((places - shift) * 2 ^ 52 + n * 2 ^ shift)
            = n * 2 ^ shift * 2 ^ (places - shift) :=
              rankUnits_shift_add (Or.inr hlarge) hsmall
        _ = n * 2 ^ places := by
              rw [Nat.mul_assoc, ← Nat.pow_add, Nat.add_sub_cancel' (hshift.trans hplaces)]

/-- Whole numbers up to `2 ^ 53` are magnitudes. -/
theorem exists_magnitude_eq {n : Nat} (hn : n ≤ 2 ^ 53) :
    ∃ k : Fin finiteCount, magnitude k = n := by
  obtain ⟨k, hk, hunits⟩ : ∃ k, k < finiteCount ∧ rankUnits k = n * oneUnits := by
    have hfinite : (1074 + 2) * 2 ^ 52 < finiteCount := by decide
    unfold oneUnits
    generalize hplaces : 1074 = places at hfinite ⊢
    exact exists_rankUnits_eq hn (by omega) hfinite
  exact ⟨⟨k, hk⟩, magnitude_of_rankUnits_eq hunits⟩

/-! ## Quotients of units -/

theorem cast_dist (a b : Nat) : (Nat.dist a b : ℚ) = |(a : ℚ) - b| := by
  rcases Nat.le_total a b with hle | hle
  · rw [Nat.dist_eq_sub_of_le hle, Nat.cast_sub hle, abs_sub_comm, abs_of_nonneg]
    exact sub_nonneg.2 (Nat.cast_le.2 hle)
  · rw [Nat.dist_eq_sub_of_le_right hle, Nat.cast_sub hle, abs_of_nonneg]
    exact sub_nonneg.2 (Nat.cast_le.2 hle)

/-- Distances in parts of units are distances of rational numbers. -/
theorem abs_sub_magnitude (num k : Nat) {den : Nat} (hden : 0 < den) :
    |(num / den : ℚ) - magnitude k| = rankError (num * oneUnits) den k / (den * oneUnits) := by
  have hone := oneUnits_cast_pos
  have hpos : (0 : ℚ) < den := Nat.cast_pos.2 hden
  have hdifference : (num / den : ℚ) - magnitude k =
      ((num * oneUnits : Nat) - (rankUnits k * den : Nat)) / (den * oneUnits) := by
    unfold magnitude
    rw [div_sub_div _ _ hpos.ne' hone.ne', Nat.cast_mul, Nat.cast_mul, mul_comm (rankUnits k : ℚ)]
  rw [hdifference, abs_div, abs_of_pos (mul_pos hpos hone)]
  unfold rankError
  rw [cast_dist]

/-- A quotient of units that is rounded to a finite rank is rounded as a rational number. -/
theorem IsNearestEven.isNearest {num den : Nat} {k : Fin finiteCount} (hden : 0 < den)
    (h : IsNearestEven (num * oneUnits) den k) : IsNearest (num / den) k where
  nearest := by
    intro j
    have hpos : (0 : ℚ) < den * oneUnits := mul_pos (Nat.cast_pos.2 hden) oneUnits_cast_pos
    rw [abs_sub_magnitude num k hden, abs_sub_magnitude num j hden]
    exact div_le_div_of_nonneg_right (Nat.cast_le.2 (h.nearest j)) hpos.le
  even_of_tie := by
    intro j hne hequal
    have hpos : (0 : ℚ) < den * oneUnits := mul_pos (Nat.cast_pos.2 hden) oneUnits_cast_pos
    rw [abs_sub_magnitude num j hden, abs_sub_magnitude num k hden,
      div_left_inj' hpos.ne', Nat.cast_inj] at hequal
    rw [significand_mod_two]
    exact h.even_of_tie j (fun hval => hne (Fin.ext hval)) hequal

end Abacus
