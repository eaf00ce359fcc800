import Abacus.Binary64.Text
import Abacus.Evaluation
import Abacus.Proofs.Fallible
import Abacus.Proofs.Layout

/-!
# Result texts — a written result is read back exactly

The search for the shortest decimal ends at the latest on the grid that holds the magnitude itself,
so the decimal it finds always has the rank it was given.  Written positionally, it is one numeral:

* `Decimal.rank_shortest` — the decimal found for a rank is rounded to this rank;
* `Lexeme.split_numeric` — digits and points are one piece of a text;
* `Binary64.exists_resultText` — the shape of a result and what it is read as;
* `resultText_reads_back` — reading inverts writing, on its own and in the evaluator.
-/

namespace Abacus

/-! ## The shortest decimal -/

namespace Decimal

/-- A grid of as many decimal places as one unit has binary places holds every magnitude. -/
theorem rank_of_places (k : Nat) {places : Nat} (hunit : oneUnits = Nat.pow 2 places) :
    (Decimal.mk (rankUnits k * Nat.pow 5 places) (-(places : Int))).rank = k := by
  -- One unit is `2 ^ places`, and with the powers of five of the coefficient it cancels the powers
  -- of ten below, so the quotient is the magnitude itself.
  have hnone : (-(places : Int)).toNat = 0 := by omega
  have hplaces : (-(-(places : Int))).toNat = places := by omega
  have hone : Nat.pow 10 0 = 1 := rfl
  have hten : Nat.pow 5 places * Nat.pow 2 places = Nat.pow 10 places :=
    (Nat.mul_pow 5 2 places).symm
  unfold rank unitsNum unitsDen
  rw [hnone, hplaces, hunit, hone, Nat.mul_one, Nat.mul_assoc, hten]
  exact nearestRank_rankUnits k (Nat.pow_pos (by decide))

theorem rank_finest (k : Nat) : (Decimal.mk (exactCoefficient k) finest).rank = k := by
  have hunit : oneUnits = Nat.pow 2 1074 := by
    unfold oneUnits
    rfl
  have hrank := rank_of_places k hunit
  exact hrank

theorem rank_zero : (Decimal.mk 0 0).rank = 0 := by
  have hnum : (Decimal.mk 0 0).unitsNum = rankUnits 0 * 1 := by
    unfold unitsNum rankUnits
    rw [Nat.zero_mul, Nat.zero_mul, Nat.zero_sub, Nat.zero_mul]
  have hden : (Decimal.mk 0 0).unitsDen = 1 := rfl
  unfold rank
  rw [hnum, hden]
  exact nearestRank_rankUnits 0 Nat.one_pos

/-- Whatever grid the search stops on, the decimal has the rank. -/
theorem rank_search (k step : Nat) : (search k step).rank = k := by
  induction step with
  | zero =>
      exact rank_finest k
  | succ step ih =>
      -- A neighbour is taken only if it reads back; otherwise a finer grid is searched.
      rw [search]
      by_cases hnear : (neighbours k (step + 1)).1.rank = k
      · rw [if_pos hnear]
        exact hnear
      · rw [if_neg hnear]
        by_cases hfar : (neighbours k (step + 1)).2.rank = k
        · rw [if_pos hfar]
          exact hfar
        · rw [if_neg hfar]
          exact ih

theorem rank_shortest (k : Nat) : (shortest k).rank = k := by
  unfold shortest
  by_cases hzero : k = 0
  · rw [if_pos hzero, hzero]
    exact rank_zero
  · rw [if_neg hzero]
    exact rank_search k (coarsest k)

end Decimal

/-! ## Pieces of a text -/

theorem Lexeme.split_numeric {run : List Char} (hrun : run ≠ [])
    (hnumeric : ∀ c ∈ run, isNumeric c = true) : Lexeme.split run = [.numeral run] := by
  induction run with
  | nil =>
      exact absurd rfl hrun
  | cons c rest ih =>
      have hc : isNumeric c = true := hnumeric c List.mem_cons_self
      -- The rest is one piece already, unless nothing is left.
      cases rest with
      | nil =>
          simp [Lexeme.split, Lexeme.join, hc]
      | cons next rest =>
          have hrest := ih (List.cons_ne_nil next rest) fun x hx =>
            hnumeric x (List.mem_cons_of_mem c hx)
          rw [Lexeme.split, if_pos hc, hrest, Lexeme.join]

/-- A text of digits and points that reads as a finite number is the token of this number. -/
theorem Token.scan_numeral {run : List Char} {d : Decimal} {value : Binary64} (strict : Bool)
    (hnumeric : ∀ c ∈ run, isNumeric c = true) (hread : Decimal.ofNumeral? run = some d)
    (hvalue : d.toBinary64 false = value) (hfinite : value.isFinite = true) :
    Token.scan strict (String.ofList run) = .ok [⟨.number value, 0⟩] := by
  have hrun : run ≠ [] := by
    rintro rfl
    cases hread
  have hnumber : Token.readNumber run 0 = .ok value := by
    unfold Token.readNumber
    simp [hread, hvalue, hfinite]
  unfold Token.scan
  rw [String.toList_ofList, Lexeme.split_numeric hrun hnumeric]
  simp [Token.ofLexemes, hnumber]

/-! ## Results -/

namespace Decimal.IsLayoutOf

variable {d e : Decimal} {whole fraction whole' fraction' : List Char}

theorem isNumeric (h : IsLayoutOf d whole fraction) :
    ∀ c ∈ whole ++ '.' :: fraction, isNumeric c = true := by
  intro c hc
  unfold Abacus.isNumeric
  rcases List.mem_append.1 hc with hc | hc
  · simp [h.isDigit c (List.mem_append_left _ hc)]
  · rcases List.mem_cons.1 hc with rfl | hc
    · rfl
    · simp [h.isDigit c (List.mem_append_right _ hc)]

/-- The text of a layout does not begin with a sign. -/
theorem head?_ne_minus (h : IsLayoutOf d whole fraction) :
    (whole ++ '.' :: fraction).head? ≠ some '-' := by
  match whole, h with
  | [], h => exact absurd rfl h.whole_ne_nil
  | first :: whole, h =>
      intro hhead
      cases hhead
      have hdigit := h.isDigit '-' List.mem_cons_self
      revert hdigit
      decide

theorem toBinary64_eq (h : IsLayoutOf d whole fraction) {k : Fin finiteCount} (hrank : d.rank = k)
    (negative : Bool) : (ofParts whole fraction).toBinary64 negative = .finite negative k :=
  toBinary64_of_rank (h.rank_eq.trans hrank) negative

/-- Texts of layouts tell decimals of different ranks apart. -/
theorem rank_eq_of_text_eq (h : IsLayoutOf d whole fraction) (h' : IsLayoutOf e whole' fraction')
    (htext : whole ++ '.' :: fraction = whole' ++ '.' :: fraction') : d.rank = e.rank := by
  -- One text is read as one numeral, and each numeral has the rank of its decimal.
  have hparts : some (ofParts whole fraction) = some (ofParts whole' fraction') := by
    rw [← h.ofNumeral?_eq, ← h'.ofNumeral?_eq, htext]
  rw [← h.rank_eq, ← h'.rank_eq, Option.some.inj hparts]

end Decimal.IsLayoutOf

namespace Binary64

theorem exists_resultText (negative : Bool) (k : Fin finiteCount) :
    ∃ whole fraction : List Char,
      (finite negative k).resultText = signed negative (whole ++ '.' :: fraction) ∧
        Decimal.IsLayoutOf (Decimal.shortest k) whole fraction := by
  rcases Decimal.exists_layout (Decimal.shortest k) with ⟨whole, fraction, htext, hlayout⟩
  refine ⟨whole, fraction, ?_, hlayout⟩
  rw [← htext]
  rfl

theorem head?_signed {text : List Char} (hhead : text.head? ≠ some '-') (negative : Bool) :
    (signed negative text).toList.head? = some '-' ↔ negative = true := by
  cases negative with
  | false => simpa [signed] using hhead
  | true => simp [signed]

theorem signed_inj {negative : Bool} {text text' : List Char}
    (h : signed negative text = signed negative text') : text = text' := by
  have hlists := congrArg String.toList h
  cases negative with
  | false => simpa [signed] using hlists
  | true => simpa [signed] using hlists

theorem resultText_head?_eq (negative : Bool) (k : Fin finiteCount) :
    (finite negative k).resultText.toList.head? = some '-' ↔ negative = true := by
  rcases exists_resultText negative k with ⟨whole, fraction, htext, hlayout⟩
  rw [htext]
  exact head?_signed hlayout.head?_ne_minus negative

/-- Finite numbers with one text are one number. -/
theorem resultText_injective {s t : Bool} {j k : Fin finiteCount}
    (h : (finite s j).resultText = (finite t k).resultText) : s = t ∧ j = k := by
  -- The head of the text tells the sign, and the digits tell the rank.
  have hsign : s = t := by
    have hs := resultText_head?_eq s j
    have ht := resultText_head?_eq t k
    rw [h, ht] at hs
    exact (Bool.eq_iff_iff.2 hs).symm
  subst hsign
  refine ⟨rfl, ?_⟩
  rcases exists_resultText s j with ⟨whole, fraction, htext, hlayout⟩
  rcases exists_resultText s k with ⟨whole', fraction', htext', hlayout'⟩
  rw [htext, htext'] at h
  have hrank := hlayout.rank_eq_of_text_eq hlayout' (signed_inj h)
  rw [Decimal.rank_shortest, Decimal.rank_shortest] at hrank
  exact Fin.ext hrank

/-- The result of a number without a sign scans to this number. -/
theorem scan_resultText (strict : Bool) (k : Fin finiteCount) :
    Token.scan strict (finite false k).resultText = .ok [⟨.number (finite false k), 0⟩] := by
  rcases exists_resultText false k with ⟨whole, fraction, htext, hlayout⟩
  rw [htext]
  exact Token.scan_numeral strict hlayout.isNumeric hlayout.ofNumeral?_eq
    (hlayout.toBinary64_eq (Decimal.rank_shortest k) false) rfl

theorem evaluate_resultText (strict : Bool) (k : Fin finiteCount) :
    evaluate strict (finite false k).resultText = .ok (finite false k) := by
  unfold evaluate
  rw [scan_resultText]
  rfl

end Binary64

/-- A finite number is written as an optional sign, digits, a point and digits, with the sign exactly
when its sign bit is set.  The digits are rounded to the number, half to even, so different numbers
are written differently, and a number without a sign is evaluated to itself. -/
theorem resultText_reads_back :
    (∀ (negative : Bool) (k : Fin finiteCount),
      ∃ whole fraction : List Char, whole ≠ [] ∧ fraction ≠ [] ∧
        (∀ c ∈ whole ++ fraction, c.isDigit = true) ∧
        (Binary64.finite negative k).resultText =
          String.ofList ((if negative then ['-'] else []) ++ whole ++ '.' :: fraction) ∧
        ((Binary64.finite negative k).resultText.toList.head? = some '-' ↔ negative = true) ∧
        ∃ d, Decimal.ofNumeral? (whole ++ '.' :: fraction) = some d ∧
          IsNearestEven d.unitsNum d.unitsDen k ∧
          d.toBinary64 negative = .finite negative k) ∧
    (∀ (s t : Bool) (j k : Fin finiteCount),
      (Binary64.finite s j).resultText = (Binary64.finite t k).resultText ↔ s = t ∧ j = k) ∧
    ∀ (strict : Bool) (k : Fin finiteCount),
      Token.scan strict (Binary64.finite false k).resultText =
          .ok [⟨.number (.finite false k), 0⟩] ∧
        evaluate strict (Binary64.finite false k).resultText = .ok (.finite false k) := by
  refine ⟨?_, ?_, ?_⟩
  · intro negative k
    rcases Binary64.exists_resultText negative k with ⟨whole, fraction, htext, hlayout⟩
    have hrank : (Decimal.ofParts whole fraction).rank = k :=
      hlayout.rank_eq.trans (Decimal.rank_shortest k)
    refine ⟨whole, fraction, hlayout.whole_ne_nil, hlayout.fraction_ne_nil, hlayout.isDigit, ?_,
      Binary64.resultText_head?_eq negative k, Decimal.ofParts whole fraction,
      hlayout.ofNumeral?_eq, ?_, Decimal.toBinary64_of_rank hrank negative⟩
    · rw [htext]
      cases negative <;> rfl
    · rw [← hrank]
      exact Decimal.rank_isNearestEven _
  · intro s t j k
    constructor
    · exact Binary64.resultText_injective
    · rintro ⟨rfl, rfl⟩
      rfl
  · intro strict k
    exact ⟨Binary64.scan_resultText strict k, Binary64.evaluate_resultText strict k⟩

end Abacus
