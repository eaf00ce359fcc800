import Abacus.Proofs.Magnitudes
import Abacus.Proofs.ResultText

/-!
# Readings — literals are read to the last bit

A literal is a text of digits with at most one point, of any length.  It denotes a rational number, and
this number alone decides what the literal is read as: the finite number nearest to it, or nothing from
half a step above the largest one on.

* `runValue`, `IsLiteral` — the number of a literal;
* `Token.scan_literal_eq_ok_iff` — what a literal is read as;
* `Respells` — other literals of the same number;
* `literal_read_to_nearest` — what follows for the readings of literals.
-/

namespace Abacus

/-- The exact number of a run: its digits as one whole number, and a decimal place for each digit behind
the point. -/
def runValue (run : List Char) : ℚ := runDigits run / 10 ^ runPlaces run

/-- Digits with at most one point, and at least one digit. -/
structure IsLiteral (run : List Char) : Prop where
  numeric : ∀ c ∈ run, isNumeric c = true
  numeral : IsNumeral run

variable {run : List Char}

/-! ## Readings -/

theorem runValue_nonneg (run : List Char) : 0 ≤ runValue run :=
  div_nonneg (Nat.cast_nonneg _) (by positivity)

theorem isTooLarge_iff : IsTooLarge run ↔ overflowBound ≤ runValue run := by
  have hplaces : (0 : ℚ) < 10 ^ runPlaces run := by positivity
  unfold IsTooLarge runValue
  rw [le_div_iff₀ hplaces]
  exact_mod_cast Iff.rfl

theorem lt_bound_of_le {q : ℚ} (hq : q ≤ 2 ^ 53) : q < overflowBound := by
  have hbound : 2 ^ 53 < overflowBound := by decide +kernel
  exact hq.trans_lt (by exact_mod_cast hbound)

theorem IsRounded.isNearest {value : Binary64} (h : IsRounded run value) :
    ∃ k, value = .finite false k ∧ IsNearest (runValue run) k := by
  rcases h with ⟨k, hvalue, hnearest⟩
  have hrational := hnearest.isNearest (Nat.pow_pos (by decide))
  rw [Nat.cast_pow] at hrational
  exact ⟨k, hvalue, hrational⟩

namespace Token

variable {strict : Bool} {text : String} {tokens : List Token}

/-- The text is read as the number of the rank. -/
def Reads (strict : Bool) (text : String) (k : Fin finiteCount) : Prop :=
  scan strict text = .ok [⟨.number (.finite false k), 0⟩]

/-- A literal is one piece of the text. -/
theorem scan_literal (strict : Bool) (h : IsLiteral text.toList) :
    scan strict text = readNumber text.toList 0 >>= fun value => .ok [⟨.number value, 0⟩] := by
  have hne : text.toList ≠ [] := by
    rcases h.numeral.2 with ⟨c, hc, -⟩
    exact List.ne_nil_of_mem hc
  unfold scan
  rw [Lexeme.split_numeric hne h.numeric]
  rfl

theorem scan_literal_of_bound_le (h : IsLiteral text.toList)
    (hlarge : overflowBound ≤ runValue text.toList) :
    scan strict text = .error (.numberOutOfRange text.toList.length 0) := by
  rw [scan_literal strict h,
    readNumber_of_isTooLarge 0 h.numeric h.numeral (isTooLarge_iff.2 hlarge), error_bind]

theorem exists_reads (h : IsLiteral text.toList) (hsmall : runValue text.toList < overflowBound) :
    ∃ k, Reads strict text k ∧ IsNearest (runValue text.toList) k := by
  have hnot : ¬ IsTooLarge text.toList := fun hlarge =>
    absurd (isTooLarge_iff.1 hlarge) hsmall.not_ge
  rcases exists_readNumber 0 h.numeric h.numeral hnot with ⟨value, hread, hrounded⟩
  rcases hrounded.isNearest with ⟨k, rfl, hnearest⟩
  refine ⟨k, ?_, hnearest⟩
  unfold Reads
  rw [scan_literal strict h, hread, ok_bind]

/-- The number of a literal decides what it is read as. -/
theorem scan_literal_eq_ok_iff (h : IsLiteral text.toList) :
    scan strict text = .ok tokens ↔
      runValue text.toList < overflowBound ∧
        ∃ k, IsNearest (runValue text.toList) k ∧ tokens = [⟨.number (.finite false k), 0⟩] := by
  constructor
  · intro hscan
    rcases lt_or_ge (runValue text.toList) overflowBound with hsmall | hlarge
    · obtain ⟨k, hread, hnearest⟩ : ∃ k, Reads strict text k ∧ _ := exists_reads h hsmall
      exact ⟨hsmall, k, hnearest, Except.ok.inj (hscan.symm.trans hread)⟩
    · rw [scan_literal_of_bound_le h hlarge] at hscan
      cases hscan
  · rintro ⟨hsmall, k, hnearest, rfl⟩
    rcases exists_reads h hsmall with ⟨j, hread, hj⟩
    rw [hj.unique hnearest] at hread
    exact hread

theorem reads_iff (h : IsLiteral text.toList) {k : Fin finiteCount} :
    Reads strict text k ↔
      runValue text.toList < overflowBound ∧ IsNearest (runValue text.toList) k := by
  unfold Reads
  rw [scan_literal_eq_ok_iff h]
  refine and_congr_right fun _ => ?_
  constructor
  · rintro ⟨j, hnearest, htokens⟩
    cases htokens
    exact hnearest
  · intro hnearest
    exact ⟨k, hnearest, rfl⟩

theorem scan_literal_eq_error_iff (h : IsLiteral text.toList) :
    scan strict text = .error (.numberOutOfRange text.toList.length 0) ↔
      overflowBound ≤ runValue text.toList := by
  refine ⟨?_, scan_literal_of_bound_le h⟩
  intro hscan
  by_contra hsmall
  rcases exists_reads h (lt_of_not_ge hsmall) with ⟨k, hread, -⟩
  unfold Reads at hread
  rw [hread] at hscan
  cases hscan

/-- Literals of one number are read alike. -/
theorem scan_literal_congr {other : String} (h : IsLiteral text.toList)
    (hother : IsLiteral other.toList) (hvalue : runValue other.toList = runValue text.toList) :
    scan strict other = .ok tokens ↔ scan strict text = .ok tokens := by
  rw [scan_literal_eq_ok_iff h, scan_literal_eq_ok_iff hother, hvalue]

/-- Whole numbers of at most 53 binary digits are magnitudes, and so they are read exactly. -/
theorem exists_readNumber_whole (h : IsLiteral run) {n : Nat} (hn : n ≤ 2 ^ 53)
    (hvalue : runValue run = n) (place : Nat) :
    ∃ k, readNumber run place = .ok (.finite false k) ∧ magnitude k = n := by
  rcases exists_magnitude_eq hn with ⟨k, hk⟩
  have hnearest : IsNearest (runValue run) k := by
    rw [hvalue, ← hk]
    exact isNearest_magnitude k
  have hnot : ¬ IsTooLarge run := by
    rw [isTooLarge_iff, hvalue, not_le]
    exact lt_bound_of_le (by exact_mod_cast hn)
  rcases exists_readNumber place h.numeric h.numeral hnot with ⟨value, hread, hrounded⟩
  rcases hrounded.isNearest with ⟨j, rfl, hj⟩
  rw [hj.unique hnearest] at hread
  exact ⟨k, hread, hk⟩

theorem exists_reads_whole (h : IsLiteral text.toList) {n : Nat} (hn : n ≤ 2 ^ 53)
    (hvalue : runValue text.toList = n) : ∃ k, Reads strict text k ∧ magnitude k = n := by
  rcases exists_readNumber_whole h hn hvalue 0 with ⟨k, hread, hk⟩
  refine ⟨k, ?_, hk⟩
  unfold Reads
  rw [scan_literal strict h, hread, ok_bind]

theorem reads_zero_iff (h : IsLiteral text.toList) :
    Reads strict text ⟨0, finiteCount_pos⟩ ↔ runValue text.toList ≤ 1 / 2 ^ 1075 := by
  rw [reads_iff h, isNearest_zero_iff (runValue_nonneg _)]
  refine and_iff_right_of_imp ?_
  intro hle
  -- What is rounded to zero is far below the bound.
  have hone : (1 : ℚ) ≤ 2 := by norm_num
  have hsmall : (1 : ℚ) / 2 ^ 1075 ≤ 1 :=
    div_le_one_of_le₀ (one_le_pow₀ hone) (pow_nonneg (zero_le_one.trans hone) 1075)
  exact lt_bound_of_le (hle.trans (hsmall.trans (one_le_pow₀ hone)))

end Token

/-! ## Other spellings -/

theorem runPlaces_append_of_not_mem (hpoint : '.' ∉ run) (more : List Char) :
    runPlaces (run ++ more) = runPlaces more := by
  unfold runPlaces
  rw [List.dropWhile_append_of_pos (ne_point_of_not_mem hpoint)]

theorem runPlaces_append_of_mem (hpoint : '.' ∈ run) (more : List Char) :
    runPlaces (run ++ more) = runPlaces run + more.length := by
  obtain ⟨whole, fraction, rfl, hwhole⟩ := List.eq_append_cons_of_mem hpoint
  have hplaces (cs : List Char) : runPlaces ('.' :: cs) = cs.length := by
    simp [runPlaces]
  rw [List.append_assoc, runPlaces_append_of_not_mem hwhole, runPlaces_append_of_not_mem hwhole,
    List.cons_append, hplaces, hplaces, List.length_append]

/-- The digits of more characters follow those of a run. -/
theorem runDigits_append (run more : List Char) :
    runDigits (run ++ more) = Nat.ofDigitChars 10 (more.filter (· != '.')) (runDigits run) := by
  unfold runDigits
  rw [List.filter_append, Nat.ofDigitChars_append]

/-- Another literal of the same number. -/
structure Respells (other run : List Char) : Prop where
  literal : IsLiteral other
  value : runValue other = runValue run

namespace Respells

/-- One character more leaves a literal, if it is not a second point. -/
theorem of_perm {other : List Char} {c : Char} (h : IsLiteral run) (hperm : other.Perm (c :: run))
    (hc : isNumeric c = true) (hcount : (c :: run).count '.' ≤ 1)
    (hvalue : runValue other = runValue run) : Respells other run := by
  have hmem (d : Char) : d ∈ other ↔ d = c ∨ d ∈ run := by
    rw [hperm.mem_iff, List.mem_cons]
  rcases h.numeral.2 with ⟨digit, hdigit, hisDigit⟩
  refine ⟨⟨?_, ?_, digit, (hmem digit).2 (Or.inr hdigit), hisDigit⟩, hvalue⟩
  · intro d hd
    rcases (hmem d).1 hd with rfl | hold
    · exact hc
    · exact h.numeric d hold
  · rw [hperm.count_eq]
    exact hcount

/-- Zeros in front of a literal do not matter, nor does a zero in front of a leading point. -/
theorem zero_cons (h : IsLiteral run) : Respells ('0' :: run) run := by
  refine of_perm h (List.Perm.refl _) rfl ?_ ?_
  · simpa using h.numeral.1
  · have hdigits : runDigits (['0'] ++ run) = runDigits run := by
      rw [runDigits_append]
      rfl
    have hplaces : runPlaces (['0'] ++ run) = runPlaces run :=
      runPlaces_append_of_not_mem (by decide) run
    unfold runValue
    rw [← List.singleton_append, hdigits, hplaces]

/-- Zeros behind the digits of a fraction do not matter. -/
theorem append_zero (h : IsLiteral run) (hpoint : '.' ∈ run) : Respells (run ++ ['0']) run := by
  refine of_perm h (List.perm_append_singleton '0' run) rfl ?_ ?_
  · simpa using h.numeral.1
  · -- One more digit and one more place cancel each other.
    have hdigits : runDigits (run ++ ['0']) = 10 * runDigits run := by
      rw [runDigits_append]
      rfl
    have hplaces : runPlaces (run ++ ['0']) = runPlaces run + 1 :=
      runPlaces_append_of_mem hpoint ['0']
    unfold runValue
    rw [hdigits, hplaces, pow_succ', Nat.cast_mul, Nat.cast_ofNat]
    exact mul_div_mul_left _ _ (by norm_num)

/-- A point behind the last digit does not matter. -/
theorem append_point (h : IsLiteral run) (hpoint : '.' ∉ run) : Respells (run ++ ['.']) run := by
  refine of_perm h (List.perm_append_singleton '.' run) rfl ?_ ?_
  · rw [List.count_cons_self, List.count_eq_zero.2 hpoint]
  · have hdigits : runDigits (run ++ ['.']) = runDigits run := by
      rw [runDigits_append]
      rfl
    have hplaces : runPlaces (run ++ ['.']) = runPlaces run := by
      have hnone : runPlaces (run ++ []) = 0 := runPlaces_append_of_not_mem hpoint []
      rw [List.append_nil] at hnone
      rw [runPlaces_append_of_not_mem hpoint, hnone]
      rfl
    unfold runValue
    rw [hdigits, hplaces]

end Respells

/-! ## Literals -/

/-- A literal is out of range from half a step above the largest finite number on, and else it is read as
the finite number nearest to it, a half going to the even significand.  So the reading depends on the
number of the literal alone, not on how it is spelled; larger literals are not read as smaller numbers;
whole numbers up to `2 ^ 53` are read exactly; and zero is read up to half of the least number above it. -/
theorem literal_read_to_nearest (strict : Bool) (text : String) (h : IsLiteral text.toList) :
    let run := text.toList
    (overflowBound ≤ runValue run ↔
      Token.scan strict text = .error (.numberOutOfRange run.length 0)) ∧
    (runValue run < overflowBound → ∃ k, Token.Reads strict text k ∧
      ∀ j, IsNearest (runValue run) j ↔ j = k) ∧
    (∀ other : String, IsLiteral other.toList → runValue other.toList = runValue run →
      ∀ tokens, Token.scan strict other = .ok tokens ↔ Token.scan strict text = .ok tokens) ∧
    (Respells ('0' :: run) run ∧ ('.' ∈ run → Respells (run ++ ['0']) run) ∧
      ('.' ∉ run → Respells (run ++ ['.']) run)) ∧
    (∀ (other : String) (j k : Fin finiteCount), IsLiteral other.toList →
      runValue other.toList ≤ runValue run → Token.Reads strict other j →
        Token.Reads strict text k → j ≤ k) ∧
    (∀ n : Nat, n ≤ 2 ^ 53 → runValue run = n →
      ∃ k, Token.Reads strict text k ∧ magnitude k = n) ∧
    (Token.Reads strict text ⟨0, finiteCount_pos⟩ ↔ runValue run ≤ 1 / 2 ^ 1075) := by
  intro run
  refine ⟨(Token.scan_literal_eq_error_iff h).symm, ?_, ?_, ?_, ?_, ?_, Token.reads_zero_iff h⟩
  · intro hsmall
    rcases Token.exists_reads h hsmall with ⟨k, hread, hnearest⟩
    refine ⟨k, hread, ?_⟩
    intro j
    constructor
    · intro hj
      exact hj.unique hnearest
    · rintro rfl
      exact hnearest
  · intro other hother hvalue tokens
    exact Token.scan_literal_congr h hother hvalue
  · exact ⟨Respells.zero_cons h, Respells.append_zero h, Respells.append_point h⟩
  · intro other j k hother hle hj hk
    exact ((Token.reads_iff hother).1 hj).2.le_of_le hle ((Token.reads_iff h).1 hk).2
  · intro n hn hvalue
    exact Token.exists_reads_whole h hn hvalue

/-- The first whole number that is not read exactly lies half-way between two that are. -/
theorem literal_read_to_nearest_half_way :
    let text := "9007199254740993"
    let k : Fin finiteCount := ⟨1076 * Nat.pow 2 52, by decide⟩
    IsLiteral text.toList ∧ runValue text.toList = 2 ^ 53 + 1 ∧ Token.Reads true text k ∧
      magnitude k = 2 ^ 53 ∧ IsNearest (2 ^ 53 + 1) k := by
  intro text k
  have hliteral : IsLiteral text.toList :=
    ⟨List.all_eq_true.1 (by decide), by decide, '9', by decide, rfl⟩
  have hdigits : runDigits text.toList = 2 ^ 53 + 1 := by decide +kernel
  have hvalue : runValue text.toList = 2 ^ 53 + 1 := by
    have hplaces : runPlaces text.toList = 0 := by decide
    unfold runValue
    rw [hdigits, hplaces, pow_zero, div_one]
    norm_num
  have hsmall : runValue text.toList < overflowBound := by
    have hbound : 2 ^ 53 + 1 < overflowBound := by decide +kernel
    rw [hvalue]
    exact_mod_cast hbound
  have hread : Token.Reads true text k := by
    unfold Token.Reads
    decide +kernel
  have hmagnitude : magnitude k = 2 ^ 53 := by
    have hunits : rankUnits k = 2 ^ 53 * oneUnits := by decide +kernel
    rw [magnitude_of_rankUnits_eq hunits, Nat.cast_pow, Nat.cast_ofNat]
  obtain ⟨-, hreading, -, -, -, -, -⟩ := literal_read_to_nearest true text hliteral
  rcases hreading hsmall with ⟨j, hj, hnearest⟩
  have hjk : k = j := by
    unfold Token.Reads at hread hj
    rw [hread] at hj
    cases hj
    rfl
  have hk := (hnearest k).2 hjk
  rw [hvalue] at hk
  exact ⟨hliteral, hvalue, hread, hmagnitude, hk⟩

end Abacus
