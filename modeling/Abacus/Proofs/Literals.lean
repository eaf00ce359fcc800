import Abacus.Proofs.Concatenation
import Abacus.Proofs.Layout
import Mathlib.Data.List.Basic
import Mathlib.Data.List.TakeWhile

/-!
# Literals — what a run of digits and points is read as

A run with at most one point and at least one digit is the number of all its digits, with a decimal
place for each digit behind the point.  That number alone decides between the three outcomes of
reading the run:

* `runDigits`, `runPlaces` — the run is the exact number `runDigits run / 10 ^ runPlaces run`;
* `IsNumeral` — the runs that are a number at all;
* `IsTooLarge` — the numbers from which on rounding gives an infinity;
* `IsRounded` — the finite number nearest to a run, a half going to the even neighbour;
* `nearestRank_lt_finiteCount_iff` — the ranks below the bound are the finite ones;
* `Token.readNumber_of_not_isNumeral`, `Token.readNumber_of_isTooLarge`, `Token.exists_readNumber` —
  the three outcomes.
-/

namespace Abacus

/-! ## Numbers of runs -/

/-- All digits of a run as one whole number. -/
def runDigits (run : List Char) : Nat := Nat.ofDigitChars 10 (run.filter (· != '.')) 0

/-- The number of digits behind the point, if there is one. -/
def runPlaces (run : List Char) : Nat := (run.dropWhile (· != '.')).tail.length

def IsNumeral (run : List Char) : Prop := run.count '.' ≤ 1 ∧ ∃ c ∈ run, c.isDigit = true

/-- Half a step of the grid above the largest finite number. -/
def overflowBound : Nat := Nat.pow 2 1024 - Nat.pow 2 970

def IsTooLarge (run : List Char) : Prop := overflowBound * 10 ^ runPlaces run ≤ runDigits run

/-- The value is the finite number nearest to the run, and of two such the one of even rank. -/
def IsRounded (run : List Char) (value : Binary64) : Prop :=
  ∃ k : Fin finiteCount, value = .finite false k ∧
    IsNearestEven (runDigits run * oneUnits) (10 ^ runPlaces run) k

/-! ## The bound of the finite numbers -/

/-- Between a magnitude of odd rank and the next one, the half itself is rounded up. -/
theorem nearestRank_le_iff_of_odd {num den k : Nat} (hden : 0 < den) (hodd : k % 2 = 1) :
    nearestRank num den ≤ k ↔ 2 * num < (rankUnits k + rankUnits (k + 1)) * den := by
  have hround := nearestRank_isNearestEven num hden
  generalize nearestRank num den = r at hround ⊢
  have hgap : rankUnits k * den < rankUnits (k + 1) * den :=
    Nat.mul_lt_mul_of_pos_right (rankUnits_strictMono (Nat.lt_succ_self k)) hden
  have hlow := hround.nearest k
  have hhigh := hround.nearest (k + 1)
  rw [Nat.add_mul]
  unfold rankError Nat.dist at hlow hhigh
  constructor
  · intro hr
    have hbelow : rankUnits r * den ≤ rankUnits k * den :=
      Nat.mul_le_mul_right den (rankUnits_strictMono.monotone hr)
    by_contra hnot
    -- At the half or above it, rank `k` is at best as near as the next one, and it is odd.
    have hsame : rankUnits r * den = rankUnits k * den := by omega
    have htie : rankError num den (k + 1) = rankError num den r := by
      unfold rankError Nat.dist
      omega
    have heven := hround.even_of_tie (k + 1) (by omega) htie
    have hrank := rankUnits_strictMono.injective (Nat.eq_of_mul_eq_mul_right hden hsame)
    omega
  · intro hnum
    by_contra hnot
    -- Every rank above `k` is farther away than `k` is.
    have habove : rankUnits (k + 1) * den ≤ rankUnits r * den :=
      Nat.mul_le_mul_right den (rankUnits_strictMono.monotone (Nat.lt_of_not_le hnot))
    omega

/-- The last finite magnitude and the one after it, where the step of their grid is `2 ^ s`. -/
theorem rankUnits_last {s : Nat} (hs : finiteCount = s * 2 ^ 52 + 2 ^ 53) :
    rankUnits (finiteCount - 1) + rankUnits (finiteCount - 1 + 1) = (2 ^ 54 - 1) * 2 ^ s := by
  have hlast : rankUnits (finiteCount - 1) = (2 ^ 53 - 1) * 2 ^ s := by
    rw [hs, Nat.add_sub_assoc (by decide)]
    exact rankUnits_shift_add (Or.inr (by decide)) (by decide)
  have hnext : rankUnits (finiteCount - 1 + 1) = 2 ^ 53 * 2 ^ s := by
    rw [Nat.sub_add_cancel finiteCount_pos, hs]
    exact rankUnits_shift_add (Or.inr (by decide)) (Nat.le_refl _)
  rw [hlast, hnext, ← Nat.add_mul]
  rfl

theorem two_mul_bound {top low places s : Nat} (htop : top = low + 54)
    (hs : s = low + places + 1) :
    2 * ((Nat.pow 2 top - Nat.pow 2 low) * Nat.pow 2 places) = (2 ^ 54 - 1) * 2 ^ s := by
  subst htop hs
  have hdiff : Nat.pow 2 (low + 54) - Nat.pow 2 low = (2 ^ 54 - 1) * 2 ^ low := by
    have hsplit : Nat.pow 2 (low + 54) = 2 ^ 54 * Nat.pow 2 low :=
      (Nat.pow_add 2 low 54).trans (Nat.mul_comm _ _)
    rw [hsplit, ← Nat.sub_one_mul]
    rfl
  calc
    2 * ((Nat.pow 2 (low + 54) - Nat.pow 2 low) * Nat.pow 2 places)
        = 2 * ((2 ^ 54 - 1) * 2 ^ low * 2 ^ places) := by
          rw [hdiff]
          rfl
    _ = (2 ^ 54 - 1) * (2 * (2 ^ low * 2 ^ places)) := by
          rw [Nat.mul_assoc, Nat.mul_left_comm]
    _ = (2 ^ 54 - 1) * 2 ^ (low + places + 1) := by
          rw [← Nat.pow_add, ← Nat.pow_succ']

/-- In units, the bound lies half-way between these two magnitudes. -/
theorem rankUnits_last_eq_bound :
    rankUnits (finiteCount - 1) + rankUnits (finiteCount - 1 + 1) =
      2 * (overflowBound * oneUnits) := by
  have hcount : finiteCount = 2045 * 2 ^ 52 + 2 ^ 53 := by decide
  unfold overflowBound oneUnits
  -- The exponents become variables: the powers themselves are too large to be written out.
  generalize htop : 1024 = top
  generalize hlow : 970 = low
  generalize hplaces : 1074 = places
  generalize hs : 2045 = s at hcount
  exact (rankUnits_last hcount).trans (two_mul_bound (by omega) (by omega)).symm

theorem oneUnits_pos : 0 < oneUnits := by
  unfold oneUnits
  generalize 1074 = places
  exact Nat.two_pow_pos places

/-- The ranks of the numbers below the bound, and only those, are finite. -/
theorem nearestRank_lt_finiteCount_iff {num den : Nat} (hden : 0 < den) :
    nearestRank (num * oneUnits) den < finiteCount ↔ num < overflowBound * den := by
  have hpred : finiteCount - 1 + 1 = finiteCount := Nat.sub_add_cancel finiteCount_pos
  calc
    nearestRank (num * oneUnits) den < finiteCount
        ↔ nearestRank (num * oneUnits) den ≤ finiteCount - 1 := by
          rw [← Nat.lt_succ_iff, Nat.succ_eq_add_one, hpred]
    _ ↔ 2 * (num * oneUnits) < 2 * (overflowBound * oneUnits) * den := by
          rw [nearestRank_le_iff_of_odd hden (by decide), rankUnits_last_eq_bound]
    _ ↔ num * oneUnits < overflowBound * den * oneUnits := by
          rw [Nat.mul_assoc 2, Nat.mul_right_comm]
          exact Nat.mul_lt_mul_left (by decide)
    _ ↔ num < overflowBound * den := Nat.mul_lt_mul_right oneUnits_pos

/-! ## Decimals of runs -/

variable {run : List Char}

theorem ne_point_of_not_mem {cs : List Char} (h : '.' ∉ cs) : ∀ c ∈ cs, (c != '.') = true := by
  intro c hc
  refine bne_iff_ne.2 ?_
  rintro rfl
  exact h hc

theorem isDigit_of_isNumeric {c : Char} (h : isNumeric c = true) (hc : c ≠ '.') :
    c.isDigit = true := by
  rcases Bool.or_eq_true_iff.1 h with hdigit | hpoint
  · exact hdigit
  · exact absurd (eq_of_beq hpoint) hc

/-- A run has no point, or it has parts before and behind its first point. -/
theorem point_cases (run : List Char) :
    '.' ∉ run ∨ ∃ whole fraction, run = whole ++ '.' :: fraction ∧ '.' ∉ whole := by
  by_cases hpoint : '.' ∈ run
  · exact Or.inr (List.eq_append_cons_of_mem hpoint)
  · exact Or.inl hpoint

/-- The exact number of a run. -/
def runDecimal (run : List Char) : Decimal := ⟨runDigits run, -(runPlaces run : Int)⟩

theorem ofNumeral?_of_not_mem (hpoint : '.' ∉ run) :
    Decimal.ofNumeral? run = if run = [] then none else some (runDecimal run) := by
  have hfront := ne_point_of_not_mem hpoint
  have htake : run.takeWhile (· != '.') = run := List.takeWhile_eq_self_iff.2 hfront
  have hdrop : run.dropWhile (· != '.') = [] := List.dropWhile_eq_nil_iff.2 hfront
  unfold Decimal.ofNumeral? runDecimal runDigits runPlaces
  rw [htake, hdrop, List.filter_eq_self.2 hfront]
  simp

theorem ofNumeral?_append {whole : List Char} (hpoint : '.' ∉ whole) (fraction : List Char) :
    Decimal.ofNumeral? (whole ++ '.' :: fraction) =
      if '.' ∈ fraction ∨ whole ++ fraction = [] then none
      else some (runDecimal (whole ++ '.' :: fraction)) := by
  have hfront := ne_point_of_not_mem hpoint
  unfold Decimal.ofNumeral? runDecimal runDigits runPlaces
  rw [List.takeWhile_append_of_pos hfront, List.dropWhile_append_of_pos hfront,
    List.filter_append, List.filter_eq_self.2 hfront]
  by_cases hback : '.' ∈ fraction
  · simp [hback]
  · simp [hback, List.filter_eq_self.2 (ne_point_of_not_mem hback)]

/-- Whatever is not a point in a run is a digit. -/
theorem exists_digit_iff (hnumeric : ∀ c ∈ run, isNumeric c = true) :
    (∃ c ∈ run, c.isDigit = true) ↔ run.filter (· != '.') ≠ [] := by
  constructor
  · rintro ⟨c, hc, hdigit⟩
    exact List.ne_nil_of_mem (List.mem_filter.2 ⟨hc, Decimal.ne_point_of_isDigit hdigit⟩)
  · intro hne
    rcases List.exists_mem_of_ne_nil _ hne with ⟨c, hc⟩
    rcases List.mem_filter.1 hc with ⟨hmem, hpoint⟩
    exact ⟨c, hmem, isDigit_of_isNumeric (hnumeric c hmem) (bne_iff_ne.1 hpoint)⟩

theorem isNumeral_of_not_mem_iff (hnumeric : ∀ c ∈ run, isNumeric c = true) (hpoint : '.' ∉ run) :
    IsNumeral run ↔ run ≠ [] := by
  unfold IsNumeral
  rw [exists_digit_iff hnumeric, List.filter_eq_self.2 (ne_point_of_not_mem hpoint),
    List.count_eq_zero.2 hpoint]
  exact and_iff_right (Nat.zero_le 1)

theorem isNumeral_append_iff {whole fraction : List Char} (hpoint : '.' ∉ whole)
    (hnumeric : ∀ c ∈ whole ++ '.' :: fraction, isNumeric c = true) :
    IsNumeral (whole ++ '.' :: fraction) ↔ ¬ ('.' ∈ fraction ∨ whole ++ fraction = []) := by
  have hcount : (whole ++ '.' :: fraction).count '.' ≤ 1 ↔ '.' ∉ fraction := by
    rw [List.count_append, List.count_eq_zero.2 hpoint, List.count_cons_self,
      ← List.count_eq_zero]
    omega
  unfold IsNumeral
  rw [hcount, exists_digit_iff hnumeric, not_or]
  refine and_congr_right fun hback => ?_
  -- With no second point behind the first one, the digits are the two parts.
  simp [List.filter_eq_self.2 (ne_point_of_not_mem hpoint),
    List.filter_eq_self.2 (ne_point_of_not_mem hback)]

instance (run : List Char) : Decidable (IsNumeral run) :=
  inferInstanceAs (Decidable (run.count '.' ≤ 1 ∧ ∃ c ∈ run, c.isDigit = true))

/-- A numeral is read as its exact number, and any other run is not read at all. -/
theorem ofNumeral?_eq (hnumeric : ∀ c ∈ run, isNumeric c = true) :
    Decimal.ofNumeral? run = if IsNumeral run then some (runDecimal run) else none := by
  rcases point_cases run with hpoint | ⟨whole, fraction, rfl, hpoint⟩
  · rw [ofNumeral?_of_not_mem hpoint]
    simp only [isNumeral_of_not_mem_iff hnumeric hpoint, ite_not]
  · rw [ofNumeral?_append hpoint]
    simp only [isNumeral_append_iff hpoint hnumeric, ite_not]

/-! ## Outcomes -/

theorem unitsNum_runDecimal (run : List Char) :
    (runDecimal run).unitsNum = runDigits run * oneUnits := by
  have hexponent : (runDecimal run).exponent.toNat = 0 := Int.toNat_neg_natCast _
  rw [Decimal.unitsNum_eq, hexponent, Nat.pow_zero, Nat.mul_one]
  rfl

theorem unitsDen_runDecimal (run : List Char) :
    (runDecimal run).unitsDen = 10 ^ runPlaces run := by
  have hexponent : (-(runDecimal run).exponent).toNat = runPlaces run := by
    simp [runDecimal]
  rw [Decimal.unitsDen_eq, hexponent]

theorem rank_runDecimal_lt_iff (run : List Char) :
    (runDecimal run).rank < finiteCount ↔ ¬ IsTooLarge run := by
  unfold Decimal.rank IsTooLarge
  rw [unitsNum_runDecimal, unitsDen_runDecimal, Nat.not_le]
  exact nearestRank_lt_finiteCount_iff (Nat.pow_pos (by decide))

theorem Decimal.isFinite_toBinary64_iff (d : Decimal) (negative : Bool) :
    (d.toBinary64 negative).isFinite = true ↔ d.rank < finiteCount := by
  unfold Decimal.toBinary64 Decimal.rank Binary64.ofUnits
  dsimp only
  split
  · rename_i hlt
    exact iff_of_true rfl hlt
  · rename_i hge
    exact iff_of_false Bool.false_ne_true hge

namespace Token

variable (place : Nat)

theorem readNumber_of_not_isNumeral (hnumeric : ∀ c ∈ run, isNumeric c = true)
    (h : ¬ IsNumeral run) :
    readNumber run place = .error (.invalidNumber (String.ofList run) place) := by
  unfold readNumber
  rw [ofNumeral?_eq hnumeric, if_neg h]

theorem readNumber_of_isTooLarge (hnumeric : ∀ c ∈ run, isNumeric c = true) (h : IsNumeral run)
    (hlarge : IsTooLarge run) :
    readNumber run place = .error (.numberOutOfRange run.length place) := by
  have hread : Decimal.ofNumeral? run = some (runDecimal run) := by
    rw [ofNumeral?_eq hnumeric, if_pos h]
  have hinfinite : ¬ ((runDecimal run).toBinary64 false).isFinite = true := by
    rw [Decimal.isFinite_toBinary64_iff, rank_runDecimal_lt_iff]
    exact not_not_intro hlarge
  rw [readNumber_eq hread, if_neg hinfinite]

theorem exists_readNumber (hnumeric : ∀ c ∈ run, isNumeric c = true) (h : IsNumeral run)
    (hlarge : ¬ IsTooLarge run) : ∃ value, readNumber run place = .ok value ∧ IsRounded run value := by
  have hread : Decimal.ofNumeral? run = some (runDecimal run) := by
    rw [ofNumeral?_eq hnumeric, if_pos h]
  have hrank : (runDecimal run).rank < finiteCount := (rank_runDecimal_lt_iff run).2 hlarge
  have hnearest := Decimal.rank_isNearestEven (runDecimal run)
  rw [unitsNum_runDecimal, unitsDen_runDecimal] at hnearest
  obtain ⟨k, hk⟩ : ∃ k : Fin finiteCount, (k : Nat) = (runDecimal run).rank := ⟨⟨_, hrank⟩, rfl⟩
  rw [← hk] at hnearest
  refine ⟨.finite false k, ?_, k, rfl, hnearest⟩
  rw [readNumber_eq hread, Decimal.toBinary64_of_rank hk.symm]
  rfl

/-- A run that is read is a numeral, and its number is rounded correctly. -/
theorem isRounded_of_readNumber (hnumeric : ∀ c ∈ run, isNumeric c = true) {value : Binary64}
    (h : readNumber run place = .ok value) : IsNumeral run ∧ IsRounded run value := by
  by_cases hnumeral : IsNumeral run
  · by_cases hlarge : IsTooLarge run
    · rw [readNumber_of_isTooLarge place hnumeric hnumeral hlarge] at h
      cases h
    · rcases exists_readNumber place hnumeric hnumeral hlarge with ⟨other, hread, hrounded⟩
      rw [hread] at h
      cases h
      exact ⟨hnumeral, hrounded⟩
  · rw [readNumber_of_not_isNumeral place hnumeric hnumeral] at h
    cases h

end Token

end Abacus
