import Abacus.Decimal.Layout
import Abacus.Proofs.Rounding

/-!
# Layout — positional decimals are read back

A positional text puts the point where the exponent says, with zeros where digits are missing.  The
numeral that it is read as need not have the same coefficient and exponent, but it has the same value:

* `Decimal.rank_congr` — decimals of one value have one rank;
* `Decimal.ofNumeral?_point` — what digits around a point are read as;
* `Decimal.IsLayoutOf` — digits around a point that have the value of a decimal;
* `Decimal.exists_layout` — positional texts are such layouts;
* `Decimal.IsLayoutOf.rank_eq` — which are read as a numeral of the same rank.
-/

namespace Abacus

/-- A quotient whose rank is finite is rounded to the number of this rank. -/
theorem Binary64.ofUnits_of_rank {num den : Nat} {k : Fin finiteCount} (h : nearestRank num den = k)
    (negative : Bool) : Binary64.ofUnits negative num den = .finite negative k := by
  have hlt : nearestRank num den < finiteCount := h ▸ k.isLt
  have hfin : (⟨nearestRank num den, hlt⟩ : Fin finiteCount) = k := Fin.ext h
  unfold Binary64.ofUnits
  simp only [dif_pos hlt, hfin]

namespace Decimal

/-! ## Values -/

theorem nearestRank_congr {num den num' den' : Nat} (hden : 0 < den) (hden' : 0 < den')
    (h : num * den' = num' * den) : nearestRank num den = nearestRank num' den' := by
  calc
    nearestRank num den = nearestRank (num * den') (den * den') :=
      (nearestRank_mul num den hden').symm
    _ = nearestRank (num' * den) (den' * den) := by rw [h, Nat.mul_comm den]
    _ = nearestRank num' den' := nearestRank_mul num' den' hden

theorem unitsNum_eq (d : Decimal) :
    d.unitsNum = d.coefficient * 10 ^ d.exponent.toNat * oneUnits := rfl

theorem unitsDen_eq (d : Decimal) : d.unitsDen = 10 ^ (-d.exponent).toNat := rfl

theorem unitsDen_pos (d : Decimal) : 0 < d.unitsDen := Nat.pow_pos (by decide)

theorem rank_congr {d e : Decimal} (h : d.unitsNum * e.unitsDen = e.unitsNum * d.unitsDen) :
    d.rank = e.rank :=
  nearestRank_congr d.unitsDen_pos e.unitsDen_pos h

theorem rank_isNearestEven (d : Decimal) : IsNearestEven d.unitsNum d.unitsDen d.rank :=
  nearestRank_isNearestEven d.unitsNum d.unitsDen_pos

theorem toBinary64_of_rank {d : Decimal} {k : Fin finiteCount} (h : d.rank = k) (negative : Bool) :
    d.toBinary64 negative = .finite negative k :=
  Binary64.ofUnits_of_rank h negative

/-! ## Texts -/

theorem ne_point_of_isDigit {c : Char} (h : c.isDigit = true) : (c != '.') = true := by
  refine bne_iff_ne.2 ?_
  rintro rfl
  revert h
  decide

/-- What digits around a point are read as. -/
theorem ofNumeral?_point {whole fraction : List Char} (hwhole : whole ≠ [])
    (hdigits : ∀ c ∈ whole ++ fraction, c.isDigit = true) :
    ofNumeral? (whole ++ '.' :: fraction) =
      some ⟨Nat.ofDigitChars 10 (whole ++ fraction) 0, -(fraction.length : Int)⟩ := by
  have hfront : ∀ c ∈ whole, (c != '.') = true := by
    intro c hc
    exact ne_point_of_isDigit (hdigits c (List.mem_append_left _ hc))
  have hback : '.' ∉ fraction := by
    intro hmem
    have hpoint := ne_point_of_isDigit (hdigits '.' (List.mem_append_right _ hmem))
    exact bne_iff_ne.1 hpoint rfl
  -- The first point is the one between the parts, and no other one is left behind it.
  unfold ofNumeral?
  rw [List.takeWhile_append_of_pos hfront, List.dropWhile_append_of_pos hfront]
  simp [hback, hwhole]

theorem isDigit_of_mem_digits {d : Decimal} {c : Char} (h : c ∈ d.digits) : c.isDigit = true :=
  Nat.isDigit_of_mem_toDigits (by decide) (by decide) h

theorem digits_ne_nil (d : Decimal) : d.digits ≠ [] := by
  intro hnil
  have hlength : 0 < d.digits.length := Nat.length_toDigits_pos
  simp [hnil] at hlength

theorem isDigit_of_mem_zeros {n : Nat} {c : Char} (h : c ∈ List.replicate n '0') :
    c.isDigit = true := by
  rw [List.eq_of_mem_replicate h]
  rfl

/-- Digits before and behind a point that have the value of `d`: as whole numbers, both sides are
`10 ^ fraction.length * d.unitsDen` times that value. -/
structure IsLayoutOf (d : Decimal) (whole fraction : List Char) : Prop where
  whole_ne_nil : whole ≠ []
  fraction_ne_nil : fraction ≠ []
  isDigit : ∀ c ∈ whole ++ fraction, c.isDigit = true
  value : Nat.ofDigitChars 10 (whole ++ fraction) 0 * d.unitsDen =
    d.coefficient * 10 ^ d.exponent.toNat * 10 ^ fraction.length

/-- Without places behind the point, one zero stands there. -/
theorem isLayoutOf_whole {d : Decimal} (hplaces : (-d.exponent).toNat = 0) :
    IsLayoutOf d (d.digits ++ List.replicate d.exponent.toNat '0') ['0'] := by
  refine ⟨by simp [digits_ne_nil], by simp, ?_, ?_⟩
  · intro c hc
    rcases List.mem_append.1 hc with hc | hc
    · rcases List.mem_append.1 hc with hc | hc
      · exact isDigit_of_mem_digits hc
      · exact isDigit_of_mem_zeros hc
    · rw [List.mem_singleton.1 hc]
      rfl
  · have hzero : ['0'] = List.replicate 1 '0' := rfl
    rw [unitsDen_eq, hplaces, hzero, digits, Nat.ofDigitChars_append, Nat.ofDigitChars_append,
      Nat.ofDigitChars_ten_toDigits, Nat.ofDigitChars_replicate_zero,
      Nat.ofDigitChars_replicate_zero, List.length_replicate, Nat.pow_zero, Nat.mul_one,
      Nat.mul_comm (10 ^ 1), Nat.mul_comm d.coefficient]

/-- With places behind the point, zeros fill up in front so that a digit stands before it. -/
theorem isLayoutOf_fraction {d : Decimal} {padded : List Char}
    (hpadded : padded = List.replicate ((-d.exponent).toNat + 1 - d.digits.length) '0' ++ d.digits)
    (hplaces : (-d.exponent).toNat ≠ 0) :
    IsLayoutOf d (padded.take (padded.length - (-d.exponent).toNat))
      (padded.drop (padded.length - (-d.exponent).toNat)) := by
  -- The zeros in front leave at least one place before the point.
  have hlong : (-d.exponent).toNat + 1 ≤ padded.length := by
    rw [hpadded, List.length_append, List.length_replicate]
    omega
  have hwhole : d.exponent.toNat = 0 := by omega
  have hfraction :
      (padded.drop (padded.length - (-d.exponent).toNat)).length = (-d.exponent).toNat := by
    rw [List.length_drop]
    omega
  refine ⟨?_, ?_, ?_, ?_⟩
  · intro hnil
    have hlength := congrArg List.length hnil
    rw [List.length_take, List.length_nil] at hlength
    omega
  · intro hnil
    rw [hnil] at hfraction
    exact hplaces hfraction.symm
  · rw [List.take_append_drop, hpadded]
    intro c hc
    rcases List.mem_append.1 hc with hc | hc
    · exact isDigit_of_mem_zeros hc
    · exact isDigit_of_mem_digits hc
  · rw [List.take_append_drop, hfraction, hwhole, hpadded, Nat.ofDigitChars_append,
      Nat.ofDigitChars_replicate_zero]
    simp [digits, unitsDen_eq]

theorem exists_layout (d : Decimal) :
    ∃ whole fraction : List Char, d.positional = whole ++ '.' :: fraction ∧
      IsLayoutOf d whole fraction := by
  unfold positional
  dsimp only
  by_cases hplaces : (-d.exponent).toNat = 0
  · rw [if_pos hplaces]
    exact ⟨_, _, rfl, isLayoutOf_whole hplaces⟩
  · rw [if_neg hplaces]
    have hwhole : d.exponent.toNat = 0 := by omega
    refine ⟨_, _, rfl, isLayoutOf_fraction ?_ hplaces⟩
    simp [hwhole]

/-! ## Reading back -/

/-- The numeral of a layout. -/
def ofParts (whole fraction : List Char) : Decimal :=
  ⟨Nat.ofDigitChars 10 (whole ++ fraction) 0, -(fraction.length : Int)⟩

namespace IsLayoutOf

variable {d : Decimal} {whole fraction : List Char}

theorem ofNumeral?_eq (h : IsLayoutOf d whole fraction) :
    ofNumeral? (whole ++ '.' :: fraction) = some (ofParts whole fraction) :=
  ofNumeral?_point h.whole_ne_nil h.isDigit

theorem rank_eq (h : IsLayoutOf d whole fraction) : (ofParts whole fraction).rank = d.rank := by
  refine rank_congr ?_
  have hplaces : (-(-(fraction.length : Int))).toNat = fraction.length := by omega
  have hnone : (-(fraction.length : Int)).toNat = 0 := by omega
  have hnum : (ofParts whole fraction).unitsNum =
      Nat.ofDigitChars 10 (whole ++ fraction) 0 * oneUnits := by
    rw [unitsNum_eq]
    unfold ofParts
    rw [hnone, Nat.pow_zero, Nat.mul_one]
  have hden : (ofParts whole fraction).unitsDen = 10 ^ fraction.length := by
    rw [unitsDen_eq]
    unfold ofParts
    rw [hplaces]
  -- The two quotients are compared by cross multiplication, which is the value of the layout.
  calc
    (ofParts whole fraction).unitsNum * d.unitsDen
        = Nat.ofDigitChars 10 (whole ++ fraction) 0 * d.unitsDen * oneUnits := by
          rw [hnum, Nat.mul_right_comm]
    _ = d.coefficient * 10 ^ d.exponent.toNat * 10 ^ fraction.length * oneUnits := by
          rw [h.value]
    _ = d.unitsNum * (ofParts whole fraction).unitsDen := by
          rw [hden, unitsNum_eq, Nat.mul_right_comm]

end IsLayoutOf

end Decimal

end Abacus
