import Abacus.Fault
import Abacus.Proofs.Magnitudes

/-!
# Whole numbers — arithmetic that rounds nothing

Whole numbers of at most 53 binary digits are magnitudes.  An operation whose exact result is one of them
has nothing to round, so it gives this result, with a sign of its own where the result is zero:

* `Binary64.IsInt` — the numbers whose exact value is a given whole number;
* `Operator.IsExact` — the exact result of an operation on whole numbers;
* `Binary64.isInt_ofUnits` — a quotient of units that is a whole number is not rounded;
* `Operator.exists_apply_of_isExact` — the operators give their exact results.
-/

namespace Abacus

/-! ## Signed whole numbers -/

/-- The finite numbers whose exact value is `n`, which is zero for zeros of either sign. -/
inductive Binary64.IsInt : Binary64 → Int → Prop
  | finite {negative : Bool} {k : Fin finiteCount} {n : Int}
      (hvalue : Binary64.signedUnits negative k = n * oneUnits) : IsInt (.finite negative k) n

/-- The whole number of a sign and an absolute value. -/
def signedInt (negative : Bool) (m : Nat) : Int := if negative then -m else m

theorem signedInt_xor (s t : Bool) (a b : Nat) :
    signedInt (s ^^ t) (a * b) = signedInt s a * signedInt t b := by
  cases s <;> cases t <;> simp [signedInt]

theorem natAbs_signedInt (negative : Bool) (m : Nat) : (signedInt negative m).natAbs = m := by
  cases negative <;> simp [signedInt]

theorem signedInt_decide_natAbs (n : Int) : signedInt (decide (n < 0)) n.natAbs = n := by
  unfold signedInt
  split
  · rename_i hnegative
    have hlt : n < 0 := of_decide_eq_true hnegative
    omega
  · rename_i hnegative
    have hge : ¬ n < 0 := fun hlt => hnegative (decide_eq_true hlt)
    omega

namespace Binary64

variable {x y : Binary64} {a b c n : Int} {negative : Bool}

theorem oneUnits_ne_zero : (oneUnits : Int) ≠ 0 :=
  Int.natCast_ne_zero.2 oneUnits_pos.ne'

/-- The sign and the magnitude of a number with a whole value are those of the value. -/
theorem isInt_finite_iff {k : Fin finiteCount} :
    (finite negative k).IsInt n ↔
      rankUnits k = n.natAbs * oneUnits ∧ signedInt negative n.natAbs = n := by
  have hscale (m : Nat) : signedInt negative (m * oneUnits) = signedInt negative m * oneUnits := by
    unfold signedInt
    rw [Int.natCast_mul]
    split
    · exact (Int.neg_mul _ _).symm
    · rfl
  constructor
  · rintro ⟨hvalue⟩
    have hsigned : signedInt negative (rankUnits k) = n * oneUnits := hvalue
    have hunits : rankUnits k = n.natAbs * oneUnits := by
      have habs := congrArg Int.natAbs hsigned
      rw [natAbs_signedInt, Int.natAbs_mul, Int.natAbs_natCast] at habs
      exact habs
    rw [hunits, hscale] at hsigned
    exact ⟨hunits, Int.eq_of_mul_eq_mul_right oneUnits_ne_zero hsigned⟩
  · rintro ⟨hunits, hsign⟩
    have hsigned : signedInt negative (rankUnits k) = n * oneUnits := by
      rw [hunits, hscale, hsign]
    exact .finite hsigned

theorem isFinite_of_isInt (h : x.IsInt n) : x.isFinite = true := by
  cases h
  rfl

theorem isInt_zero (negative : Bool) : (finite negative ⟨0, finiteCount_pos⟩).IsInt 0 := by
  rw [isInt_finite_iff]
  refine ⟨?_, ?_⟩
  · rw [Int.natAbs_zero, Nat.zero_mul]
    decide
  · cases negative <;> rfl

/-- Only zeros have rank zero. -/
theorem isZero_iff_of_isInt (h : x.IsInt n) : x.isZero = true ↔ n = 0 := by
  obtain @⟨negative, k, n, hvalue⟩ := h
  obtain ⟨hunits, -⟩ := isInt_finite_iff.1 (.finite hvalue)
  have hzero : rankUnits 0 = 0 := by decide
  have hrank : (k : Nat) = 0 ↔ rankUnits k = 0 := by
    rw [← rankUnits_strictMono.injective.eq_iff, hzero]
  unfold isZero
  rw [beq_iff_eq, hrank, hunits, Nat.mul_eq_zero, or_iff_left oneUnits_pos.ne', Int.natAbs_eq_zero]

/-! ## Rounding -/

theorem rankUnits_of_magnitude {k m : Nat} (h : magnitude k = m) : rankUnits k = m * oneUnits := by
  unfold magnitude at h
  rw [div_eq_iff oneUnits_cast_pos.ne'] at h
  exact_mod_cast h

/-- A quotient of units that is a whole number of at most 53 binary digits is that number. -/
theorem isInt_ofUnits {m den : Nat} (hsmall : m ≤ 2 ^ 53) (hden : 0 < den) (negative : Bool) :
    (ofUnits negative (m * oneUnits * den) den).IsInt (signedInt negative m) := by
  obtain ⟨k, hmagnitude⟩ := exists_magnitude_eq hsmall
  have hunits := rankUnits_of_magnitude hmagnitude
  have hrank : nearestRank (m * oneUnits * den) den = k := by
    rw [← hunits]
    exact nearestRank_rankUnits k hden
  rw [ofUnits_of_rank hrank negative, isInt_finite_iff, natAbs_signedInt]
  exact ⟨hunits, rfl⟩

/-! ## Operations -/

theorem isInt_neg (h : x.IsInt n) : x.neg.IsInt (-n) := by
  obtain @⟨negative, k, n, hvalue⟩ := h
  have hopposite : signedUnits (!negative) k = -signedUnits negative k := by
    cases negative <;> simp [signedUnits]
  refine .finite ?_
  rw [hopposite, hvalue, Int.neg_mul]

theorem isInt_add (hx : x.IsInt a) (hy : y.IsInt b) (hsmall : (a + b).natAbs ≤ 2 ^ 53) :
    (x.add y).IsInt (a + b) := by
  obtain @⟨s, j, a, hj⟩ := hx
  obtain @⟨t, k, b, hk⟩ := hy
  have hsum : signedUnits s j + signedUnits t k = (a + b) * oneUnits := by
    rw [hj, hk, Int.add_mul]
  unfold add
  simp only [hsum]
  by_cases hzero : a + b = 0
  · -- The exact sum is zero, whatever its sign.
    rw [hzero, Int.zero_mul, if_pos rfl]
    exact isInt_zero (s && t)
  · have hpos : (0 : Int) < oneUnits := Int.natCast_pos.2 oneUnits_pos
    have hnegative : (a + b) * oneUnits < 0 ↔ a + b < 0 := by
      rw [← Int.not_le, ← Int.not_le, Int.mul_nonneg_iff_of_pos_right hpos]
    rw [if_neg (Int.mul_ne_zero hzero oneUnits_ne_zero)]
    simp only [hnegative]
    have hunits : ((a + b) * oneUnits).natAbs = (a + b).natAbs * oneUnits * 1 := by
      rw [Int.natAbs_mul, Int.natAbs_natCast, Nat.mul_one]
    have hrounded := isInt_ofUnits hsmall Nat.one_pos (decide (a + b < 0))
    rw [signedInt_decide_natAbs] at hrounded
    rw [hunits]
    exact hrounded

theorem isInt_sub (hx : x.IsInt a) (hy : y.IsInt b) (hsmall : (a - b).natAbs ≤ 2 ^ 53) :
    (x.sub y).IsInt (a - b) := by
  rw [Int.sub_eq_add_neg] at hsmall ⊢
  exact isInt_add hx (isInt_neg hy) hsmall

theorem isInt_mul (hx : x.IsInt a) (hy : y.IsInt b) (hsmall : (a * b).natAbs ≤ 2 ^ 53) :
    (x.mul y).IsInt (a * b) := by
  obtain @⟨s, j, a, hx⟩ := hx
  obtain @⟨t, k, b, hy⟩ := hy
  obtain ⟨hj, hsx⟩ := isInt_finite_iff.1 (.finite hx)
  obtain ⟨hk, hty⟩ := isInt_finite_iff.1 (.finite hy)
  have hproduct : rankUnits j * rankUnits k = a.natAbs * b.natAbs * oneUnits * oneUnits := by
    rw [hj, hk, Nat.mul_mul_mul_comm, ← Nat.mul_assoc]
  have hsign : signedInt (s ^^ t) (a.natAbs * b.natAbs) = a * b := by
    rw [signedInt_xor, hsx, hty]
  rw [Int.natAbs_mul] at hsmall
  have hrounded := isInt_ofUnits hsmall oneUnits_pos (s ^^ t)
  rw [hsign] at hrounded
  unfold mul
  simp only [hproduct]
  exact hrounded

theorem isInt_div (hx : x.IsInt a) (hy : y.IsInt b) (hb : b ≠ 0) (hexact : a = c * b)
    (hsmall : c.natAbs ≤ 2 ^ 53) : (x.div y).IsInt c := by
  have hnonzero : ¬ y.isZero = true := fun hzero => hb ((isZero_iff_of_isInt hy).1 hzero)
  obtain @⟨s, j, a, hx⟩ := hx
  obtain @⟨t, k, b, hy⟩ := hy
  obtain ⟨hj, hsx⟩ := isInt_finite_iff.1 (.finite hx)
  obtain ⟨hk, hty⟩ := isInt_finite_iff.1 (.finite hy)
  have hrank : ¬ (k : Nat) = 0 := fun hzero => hnonzero (beq_iff_eq.2 hzero)
  have hden : 0 < rankUnits k := by
    rw [hk]
    exact Nat.mul_pos (Int.natAbs_pos.2 hb) oneUnits_pos
  have hquotient : rankUnits j * oneUnits = c.natAbs * oneUnits * rankUnits k := by
    rw [hj, hk, hexact, Int.natAbs_mul, Nat.mul_right_comm, ← Nat.mul_assoc,
      Nat.mul_right_comm (c.natAbs)]
  have hsign : signedInt (s ^^ t) c.natAbs = c := by
    -- Times the divisor, both sides are the dividend.
    refine Int.eq_of_mul_eq_mul_right hb ?_
    calc
      signedInt (s ^^ t) c.natAbs * b = signedInt (s ^^ t) c.natAbs * signedInt t b.natAbs := by
        rw [hty]
      _ = signedInt (s ^^ t ^^ t) (c.natAbs * b.natAbs) := (signedInt_xor _ t _ _).symm
      _ = signedInt s a.natAbs := by
        rw [Bool.xor_assoc, Bool.xor_self, Bool.xor_false, hexact, Int.natAbs_mul]
      _ = c * b := hsx.trans hexact
  have hrounded := isInt_ofUnits hsmall hden (s ^^ t)
  rw [hsign] at hrounded
  unfold div
  simp only [hrank, if_false, hquotient]
  exact hrounded

end Binary64

/-! ## Operators -/

/-- The exact result of an operation on whole numbers; a quotient must have a divisor other than zero, and
leave no remainder. -/
def Operator.IsExact : Operator → Int → Int → Int → Prop
  | .plus, a, b, c => c = a + b
  | .minus, a, b, c => c = a - b
  | .times, a, b, c => c = a * b
  | .divide, a, b, c => b ≠ 0 ∧ a = c * b

theorem Operator.exists_apply_of_isExact {op : Operator} {x y : Binary64} {a b c : Int}
    (hx : x.IsInt a) (hy : y.IsInt b) (hexact : op.IsExact a b c) (hsmall : c.natAbs ≤ 2 ^ 53) :
    ∃ z, op.apply x y = .ok z ∧ z.IsInt c := by
  have hresult : (op.compute x y).IsInt c := by
    cases op with
    | plus =>
        subst hexact
        exact Binary64.isInt_add hx hy hsmall
    | minus =>
        subst hexact
        exact Binary64.isInt_sub hx hy hsmall
    | times =>
        subst hexact
        exact Binary64.isInt_mul hx hy hsmall
    | divide =>
        exact Binary64.isInt_div hx hy hexact.1 hexact.2 hsmall
  have hdivisor : ¬ (op = .divide ∧ y.isZero = true) := by
    rintro ⟨rfl, hzero⟩
    exact hexact.1 ((Binary64.isZero_iff_of_isInt hy).1 hzero)
  refine ⟨op.compute x y, ?_, hresult⟩
  unfold Operator.apply
  rw [if_neg hdivisor]
  exact if_pos (Binary64.isFinite_of_isInt hresult)

end Abacus
