import Abacus.Decimal.Signed
import Abacus.Proofs.Lines
import Abacus.Proofs.Numerals

/-!
# Operands — numbers in messages are exact

The fault of an operation names its operands.  A whole number is written with all its digits, which
can be hundreds, and every other number as the shortest decimal that reads back, with an exponent where
this is shorter.  Either text is read back as the number, so no two numbers but the zeros share one:

* `Decimal.ofUnsigned?_scientific` — what a numeral with an exponent is read as;
* `Binary64.exists_wholeText` — the text of a whole number, and its exact value;
* `Binary64.ofSigned?_operandText` — what the text of a number is read as;
* `Binary64.operandText_eq_iff` — numbers with one text;
* `operands_exact` — hence operations that fail with one message have the same operands.
-/

namespace Abacus

namespace Decimal

/-! ## Exponents -/

theorem ofDigits?_eq {digits : List Char} (hne : digits ≠ []) (hdigits : AllDigits digits) :
    ofDigits? digits = some (Nat.ofDigitChars 10 digits 0) := by
  have hall : digits.all Char.isDigit = true := List.all_eq_true.2 hdigits
  unfold ofDigits?
  simp [hne, hall]

theorem ofExponent?_exponentText (e : Int) : ofExponent? ('e' :: exponentText e) = some e := by
  have hread : ofDigits? (List.replicate (2 - (Nat.toDigits 10 e.natAbs).length) '0' ++
      Nat.toDigits 10 e.natAbs) = some e.natAbs := by
    rw [ofDigits?_eq (by simp [Nat.toDigits_ne_nil]), Nat.ofDigitChars_append,
      Nat.ofDigitChars_replicate_zero, Nat.mul_zero, Nat.ofDigitChars_ten_toDigits]
    intro c hc
    rcases List.mem_append.1 hc with hc | hc
    · exact isDigit_of_mem_zeros hc
    · exact Nat.isDigit_of_mem_toDigits (by decide) (by decide) hc
  unfold exponentText
  dsimp only
  by_cases he : e < 0
  · rw [if_pos he, ofExponent?, hread, Option.map_some]
    congr 1
    omega
  · rw [if_neg he, ofExponent?, hread, Option.map_some]
    congr 1
    omega

/-! ## Numerals -/

variable {mantissa exponent : List Char} {d : Decimal}

/-- A numeral ends where its exponent begins. -/
theorem ofUnsigned?_append (hmantissa : ∀ c ∈ mantissa, isNumeric c = true)
    (hexponent : exponent = [] ∨ ∃ power, exponent = 'e' :: power) :
    ofUnsigned? (mantissa ++ exponent) = (do
      let d ← ofNumeral? mantissa
      let power ← ofExponent? exponent
      return ⟨d.coefficient, d.exponent + power⟩) := by
  have hapart : ∀ c ∈ mantissa, (c != 'e') = true := by
    intro c hc
    rw [bne_iff_ne]
    rintro rfl
    exact absurd (hmantissa 'e' hc) (by decide)
  have htake : (mantissa ++ exponent).takeWhile (· != 'e') = mantissa := by
    rw [List.takeWhile_append_of_pos hapart]
    rcases hexponent with rfl | ⟨power, rfl⟩ <;> simp
  have hdrop : (mantissa ++ exponent).dropWhile (· != 'e') = exponent := by
    rw [List.dropWhile_append_of_pos hapart]
    rcases hexponent with rfl | ⟨power, rfl⟩ <;> simp
  have hall : mantissa.all isNumeric = true := List.all_eq_true.2 hmantissa
  unfold ofUnsigned?
  dsimp only
  rw [htake, hdrop, hall]
  rfl

theorem ofUnsigned?_of_numeral (hmantissa : ∀ c ∈ mantissa, isNumeric c = true) :
    ofUnsigned? mantissa = ofNumeral? mantissa := by
  have hread := ofUnsigned?_append hmantissa (Or.inl (rfl : [] = ([] : List Char)))
  rw [List.append_nil] at hread
  rw [hread]
  cases ofNumeral? mantissa with
  | none => rfl
  | some d => simp [ofExponent?]

/-- A numeral does not begin with a minus. -/
theorem ofUnsigned?_minus (text : List Char) : ofUnsigned? ('-' :: text) = none := by
  have hminus : isNumeric '-' = false := by decide
  unfold ofUnsigned?
  simp [hminus]

theorem isNumeric_of_allDigits {digits : List Char} (hdigits : AllDigits digits) :
    ∀ c ∈ digits, isNumeric c = true := by
  intro c hc
  simp [isNumeric, hdigits c hc]

theorem ofNumeral?_digits {digits : List Char} (hne : digits ≠ []) (hdigits : AllDigits digits) :
    ofNumeral? digits = some ⟨Nat.ofDigitChars 10 digits 0, 0⟩ := by
  have hapart : ∀ c ∈ digits, (c != '.') = true := fun c hc => ne_point_of_isDigit (hdigits c hc)
  have htake : (digits ++ []).takeWhile (· != '.') = _ := List.takeWhile_append_of_pos hapart
  have hdrop : (digits ++ []).dropWhile (· != '.') = _ := List.dropWhile_append_of_pos hapart
  rw [List.append_nil] at htake hdrop
  unfold ofNumeral?
  rw [htake, hdrop]
  simp [hne]

/-- A decimal with an exponent is read as the decimal itself. -/
theorem ofUnsigned?_scientific (d : Decimal) : ofUnsigned? d.scientific = some d := by
  have hdigits := d.allDigits_digits
  have hvalue : Nat.ofDigitChars 10 d.digits 0 = d.coefficient := Nat.ofDigitChars_ten_toDigits
  have hleading : d.leadingExponent = d.exponent + d.digits.length - 1 := rfl
  have hpower : ∀ {mantissa : List Char}, (∀ c ∈ mantissa, isNumeric c = true) →
      ∀ {e : Int}, ofNumeral? mantissa = some ⟨d.coefficient, e⟩ →
        e + d.leadingExponent = d.exponent →
          ofUnsigned? (mantissa ++ 'e' :: exponentText d.leadingExponent) = some d := by
    intro mantissa hmantissa e hread hsum
    rw [ofUnsigned?_append hmantissa (Or.inr ⟨_, rfl⟩), hread, ofExponent?_exponentText]
    simp [hsum]
  unfold scientific
  match hd : d.digits with
  | [] =>
      exact absurd hd d.digits_ne_nil
  | [first] =>
      rw [hd] at hdigits hvalue hleading
      have hread := ofNumeral?_digits (by simp) hdigits
      rw [hvalue] at hread
      refine hpower (isNumeric_of_allDigits hdigits) hread ?_
      rw [hleading, List.length_singleton]
      omega
  | first :: second :: rest =>
      rw [hd] at hdigits hvalue hleading
      have hread : ofNumeral? ([first] ++ '.' :: second :: rest) = _ :=
        ofNumeral?_point (by simp) hdigits
      rw [List.singleton_append, List.singleton_append, hvalue] at hread
      refine hpower ?_ hread ?_
      · intro c hc
        by_cases hpoint : c = '.'
        · simp [isNumeric, hpoint]
        · exact isNumeric_of_allDigits hdigits c (by simpa [hpoint] using hc)
      · rw [hleading]
        simp only [List.length_cons]
        omega

/-! ## Whole numbers -/

/-- A whole number that is a magnitude has its rank. -/
theorem rank_whole {n k : Nat} (hunits : n * oneUnits = rankUnits k) :
    (Decimal.mk n 0).rank = k := by
  have hnum : (Decimal.mk n 0).unitsNum = rankUnits k * 1 := by
    rw [unitsNum_eq, Int.toNat_zero, Nat.pow_zero, Nat.mul_one, Nat.mul_one, hunits]
  have hden : (Decimal.mk n 0).unitsDen = 1 := rfl
  unfold rank
  rw [hnum, hden]
  exact nearestRank_rankUnits k Nat.one_pos

end Decimal

namespace Binary64

variable {negative : Bool} {k : Fin finiteCount}

theorem isWhole_iff : (finite negative k).isWhole = true ↔ oneUnits ∣ rankUnits k :=
  beq_iff_eq.trans Nat.dvd_iff_mod_eq_zero.symm

theorem isWhole_zero (hk : k.val = 0) (negative : Bool) : (finite negative k).isWhole = true := by
  obtain rfl : k = ⟨0, finiteCount_pos⟩ := Fin.ext hk
  cases negative <;> decide +kernel

/-- Neither zero is written with a sign. -/
theorem operandText_zero (hk : k.val = 0) (negative : Bool) :
    (finite negative k).operandText = "0" := by
  obtain rfl : k = ⟨0, finiteCount_pos⟩ := Fin.ext hk
  cases negative <;> decide +kernel

/-- A whole number is written with the digits of its exact value. -/
theorem exists_wholeText (hwhole : (finite negative k).isWhole = true) :
    ∃ digits : List Char,
      (finite negative k).operandText = signed (negative && k.val != 0) digits ∧
        IsUnsignedNumeral digits [] [] ∧ Nat.ofDigitChars 10 digits 0 * oneUnits = rankUnits k := by
  refine ⟨Nat.toDigits 10 (rankUnits k / oneUnits), ?_, ?_, ?_⟩
  · exact if_pos hwhole
  · refine ⟨Nat.toDigits_ne_nil, ?_, ?_, Or.inl rfl, Or.inl rfl⟩
    · exact fun c hc => Nat.isDigit_of_mem_toDigits (by decide) (by decide) hc
    · intro hhead
      by_cases hzero : rankUnits k / oneUnits = 0
      · rw [hzero]
        rfl
      · exact absurd hhead (head?_toDigits hzero)
  · rw [Nat.ofDigitChars_ten_toDigits]
    exact Nat.div_mul_cancel (isWhole_iff.1 hwhole)

theorem operandText_of_fraction (hfraction : (finite negative k).isWhole = false) :
    (finite negative k).operandText = signed negative (plainLayout (Decimal.shortest k)) := by
  have htext : (finite negative k).operandText = (finite negative k).plainText :=
    if_neg (by simp [hfraction])
  exact htext

/-- A number with a fraction is written with a point or with an exponent. -/
theorem point_or_exponent_mem_plainLayout (d : Decimal) :
    '.' ∈ plainLayout d ∨ 'e' ∈ plainLayout d := by
  unfold plainLayout
  split
  · rcases Decimal.exists_layout d with ⟨whole, fraction, htext, -⟩
    rw [htext]
    exact Or.inl (by simp)
  · unfold Decimal.scientific
    exact Or.inr (by simp)

/-! ## Reading operands -/

/-- The shortest decimal of a rank is read from either of its layouts. -/
theorem exists_ofUnsigned?_plainLayout (k : Nat) :
    ∃ d, Decimal.ofUnsigned? (plainLayout (Decimal.shortest k)) = some d ∧ d.rank = k := by
  unfold plainLayout
  split
  · rcases Decimal.exists_layout (Decimal.shortest k) with ⟨whole, fraction, htext, hlayout⟩
    refine ⟨Decimal.ofParts whole fraction, ?_, ?_⟩
    · rw [htext, Decimal.ofUnsigned?_of_numeral hlayout.isNumeric, hlayout.ofNumeral?_eq]
    · rw [hlayout.rank_eq, Decimal.rank_shortest]
  · exact ⟨Decimal.shortest k, Decimal.ofUnsigned?_scientific _, Decimal.rank_shortest k⟩

/-- A sign is read as such, for numerals do not begin with one. -/
theorem ofSigned?_signed {text : List Char} {d : Decimal}
    (hread : Decimal.ofUnsigned? text = some d) (negative : Bool) :
    Decimal.ofSigned? (signed negative text).toList = some (negative, d) := by
  cases negative with
  | true =>
      simp [signed, Decimal.ofSigned?, hread]
  | false =>
      simp only [signed, Bool.false_eq_true, if_false, String.toList_ofList]
      unfold Decimal.ofSigned?
      split
      · rw [Decimal.ofUnsigned?_minus] at hread
        cases hread
      · rw [hread]
        rfl

/-- A number is read from its text, and a negative zero as zero. -/
theorem ofSigned?_operandText (negative : Bool) (k : Fin finiteCount) :
    ∃ d, Decimal.ofSigned? (finite negative k).operandText.toList =
      some (negative && k.val != 0, d) ∧ d.rank = k := by
  by_cases hwhole : (finite negative k).isWhole = true
  · rcases exists_wholeText hwhole with ⟨digits, htext, hnumeral, hvalue⟩
    have hdigits := hnumeral.whole_digits
    refine ⟨⟨Nat.ofDigitChars 10 digits 0, 0⟩, ?_, Decimal.rank_whole hvalue⟩
    rw [htext]
    refine ofSigned?_signed ?_ _
    rw [Decimal.ofUnsigned?_of_numeral (Decimal.isNumeric_of_allDigits hdigits),
      Decimal.ofNumeral?_digits hnumeral.whole_ne_nil hdigits]
  · rcases exists_ofUnsigned?_plainLayout k with ⟨d, hread, hrank⟩
    have hfraction : (finite negative k).isWhole = false := Bool.eq_false_iff.2 hwhole
    -- Zero is whole, so the sign of a fraction is written.
    have hne : (k.val != 0) = true := bne_iff_ne.2 fun hk => hwhole (isWhole_zero hk negative)
    refine ⟨d, ?_, hrank⟩
    rw [operandText_of_fraction hfraction, hne, Bool.and_true]
    exact ofSigned?_signed hread negative

/-- Numbers with one text are one number, or zeros. -/
theorem operandText_eq_iff {s t : Bool} {j k : Fin finiteCount} :
    (finite s j).operandText = (finite t k).operandText ↔
      s = t ∧ j = k ∨ j.val = 0 ∧ k.val = 0 := by
  constructor
  · intro heq
    rcases ofSigned?_operandText s j with ⟨d, hread, hrank⟩
    rcases ofSigned?_operandText t k with ⟨e, hread', hrank'⟩
    rw [heq, hread'] at hread
    obtain ⟨hsign, rfl⟩ := Prod.mk.inj (Option.some.inj hread)
    obtain rfl : j = k := Fin.ext (hrank.symm.trans hrank')
    by_cases hzero : j.val = 0
    · exact Or.inr ⟨hzero, hzero⟩
    · rw [bne_iff_ne.2 hzero, Bool.and_true, Bool.and_true] at hsign
      exact Or.inl ⟨hsign.symm, rfl⟩
  · rintro (⟨rfl, rfl⟩ | ⟨hj, hk⟩)
    · rfl
    · rw [operandText_zero hj, operandText_zero hk]

/-- The text of an operand has the form of a numeral. -/
theorem isJsonNumeral_operandText (negative : Bool) (k : Fin finiteCount) :
    IsJsonNumeral (finite negative k).operandText := by
  by_cases hwhole : (finite negative k).isWhole = true
  · rcases exists_wholeText hwhole with ⟨digits, htext, hnumeral, -⟩
    exact ⟨_, digits, [], [], hnumeral, by rw [htext, List.append_nil, List.append_nil]⟩
  · have hplain : IsJsonNumeral (finite negative k).plainText := isJsonNumeral_plainText_iff.2 rfl
    rw [operandText_of_fraction (Bool.eq_false_iff.2 hwhole)]
    exact hplain

end Binary64

/-! ## Messages -/

/-- A text up to its first blank, and the rest behind this blank. -/
theorem append_blank_inj {front front' rest rest' : List Char} (hfront : ' ' ∉ front)
    (hfront' : ' ' ∉ front') (heq : front ++ ' ' :: rest = front' ++ ' ' :: rest') :
    front = front' ∧ rest = rest' := by
  have hparts := congrArg (Text.splitWhere (· == ' ')) heq
  rw [Text.splitWhere_append rfl (Text.any_eq_false_of_not_mem hfront),
    Text.splitWhere_append rfl (Text.any_eq_false_of_not_mem hfront')] at hparts
  obtain rfl := (List.cons_eq_cons.1 hparts).1
  exact ⟨rfl, (List.cons_inj_right ' ').1 (List.append_cancel_left heq)⟩

namespace Operator

theorem char_injective {op op' : Operator} (h : op.char = op'.char) : op = op' := by
  cases op <;> cases op' <;> first | rfl | cases h

/-- What the messages of failed operations begin with. -/
def faultStarts : List String := ["Dzielenie przez zero: ", "Wynik poza zakresem: "]

theorem faultStart_eq {start start' text text' : String} (hstart : start ∈ faultStarts)
    (hstart' : start' ∈ faultStarts) (h : start ++ text = start' ++ text') : start = start' := by
  have hhead {s t : String} (hs : s ∈ faultStarts) : (s ++ t).toList.head? = s.toList.head? := by
    have hne : s.toList ≠ [] := by
      rcases List.mem_pair.1 hs with rfl | rfl <;> decide
    rw [String.toList_append, List.head?_append_of_ne_nil _ hne]
  have heads : start.toList.head? = start'.toList.head? := by
    rw [← hhead hstart, h, hhead hstart']
  rcases List.mem_pair.1 hstart with rfl | rfl <;>
    rcases List.mem_pair.1 hstart' with rfl | rfl <;>
    first | rfl | exact absurd heads (by decide)

/-- An operation that fails is named in the message, between its operands. -/
theorem message_of_apply {op : Operator} {left right : Binary64} {fault : Fault}
    (h : op.apply left right = .error fault) :
    ∃ start ∈ faultStarts, fault.message =
      start ++ (left.operandText ++ " " ++ op.symbol ++ " " ++ right.operandText) := by
  have hslash : " / " = " " ++ Operator.symbol .divide ++ " " := by decide
  unfold Operator.apply at h
  split at h
  · rename_i hzero
    cases h
    refine ⟨_, List.mem_cons_self, ?_⟩
    rw [hzero.1]
    unfold Fault.message
    simp only [String.append_assoc, hslash]
    rfl
  · dsimp only at h
    split at h
    · cases h
    · cases h
      refine ⟨_, List.mem_cons_of_mem _ List.mem_cons_self, ?_⟩
      unfold Fault.message
      simp only [String.append_assoc]
      rfl

end Operator

namespace Binary64

theorem blank_notMem_operandText (negative : Bool) (k : Fin finiteCount) :
    ' ' ∉ (finite negative k).operandText.toList := by
  intro hmem
  have hchar := (isJsonNumeral_operandText negative k).isDigit_or_mem ' ' hmem
  revert hchar
  decide

end Binary64

/-- Blanks separate an operation from its operands. -/
theorem operation_text_inj {op op' : Operator} {s s' t t' : Bool} {j j' k k' : Fin finiteCount}
    (h : (Binary64.finite s j).operandText ++ " " ++ op.symbol ++ " " ++
        (Binary64.finite t k).operandText =
      (Binary64.finite s' j').operandText ++ " " ++ op'.symbol ++ " " ++
        (Binary64.finite t' k').operandText) :
    (Binary64.finite s j).operandText = (Binary64.finite s' j').operandText ∧ op = op' ∧
      (Binary64.finite t k).operandText = (Binary64.finite t' k').operandText := by
  have hchars := congrArg String.toList h
  have hblank : " ".toList = [' '] := rfl
  have hsymbol (op : Operator) : op.symbol.toList = [op.char] :=
    String.toList_singleton op.char
  simp only [String.toList_append, hblank, hsymbol, List.append_assoc, List.singleton_append]
    at hchars
  rcases append_blank_inj (Binary64.blank_notMem_operandText s j)
    (Binary64.blank_notMem_operandText s' j') hchars with ⟨hleft, hrest⟩
  rcases List.cons_eq_cons.1 hrest with ⟨hop, hright⟩
  exact ⟨String.toList_inj.1 hleft, Operator.char_injective hop,
    String.toList_inj.1 (List.cons_eq_cons.1 hright).2⟩

/-- A finite number other than the negative zero is read from its text: the decimal there is rounded
to it, half to even.  A whole number is written as an integer numeral of its exact value, any other
with a point or an exponent, and the negative zero as zero.  So two finite numbers other than zeros
are written alike only when they are one, and the message of a failed operation, which writes both
operands around the operator, tells them. -/
theorem operands_exact :
    (∀ (negative : Bool) (k : Fin finiteCount), (negative = true → k.val ≠ 0) →
      ∃ d, Decimal.ofSigned? (Binary64.finite negative k).operandText.toList = some (negative, d) ∧
        IsNearestEven d.unitsNum d.unitsDen k ∧ d.toBinary64 negative = .finite negative k) ∧
    (∀ (negative : Bool) (k : Fin finiteCount),
      (oneUnits ∣ rankUnits k →
        ∃ digits : List Char, IsUnsignedNumeral digits [] [] ∧
          (Binary64.finite negative k).operandText =
            Binary64.signed (negative && k.val != 0) digits ∧
          Nat.ofDigitChars 10 digits 0 * oneUnits = rankUnits k) ∧
      (¬ oneUnits ∣ rankUnits k →
        '.' ∈ (Binary64.finite negative k).operandText.toList ∨
          'e' ∈ (Binary64.finite negative k).operandText.toList)) ∧
    (Binary64.finite true ⟨0, finiteCount_pos⟩).operandText = "0" ∧
    (∀ (s t : Bool) (j k : Fin finiteCount),
      (Binary64.finite s j).operandText = (Binary64.finite t k).operandText ↔
        s = t ∧ j = k ∨ j.val = 0 ∧ k.val = 0) ∧
    (∀ (op : Operator) (left right : Binary64) (fault : Fault),
      op.apply left right = .error fault →
        ∃ start ∈ Operator.faultStarts, fault.message =
          start ++ (left.operandText ++ " " ++ op.symbol ++ " " ++ right.operandText)) ∧
    ∀ (op op' : Operator) (s s' t t' : Bool) (j j' k k' : Fin finiteCount) (fault fault' : Fault),
      op.apply (.finite s j) (.finite t k) = .error fault →
      op'.apply (.finite s' j') (.finite t' k') = .error fault' →
      fault.message = fault'.message →
        op = op' ∧ (s = s' ∧ j = j' ∨ j.val = 0 ∧ j'.val = 0) ∧
          (t = t' ∧ k = k' ∨ k.val = 0 ∧ k'.val = 0) := by
  refine ⟨?_, ?_, ?_, ?_, ?_, ?_⟩
  · intro negative k hsign
    rcases Binary64.ofSigned?_operandText negative k with ⟨d, hread, hrank⟩
    have hkept : (negative && k.val != 0) = negative := by
      cases negative with
      | false => rfl
      | true => simpa using hsign rfl
    refine ⟨d, ?_, ?_, Decimal.toBinary64_of_rank hrank negative⟩
    · rw [hread, hkept]
    · rw [← hrank]
      exact Decimal.rank_isNearestEven d
  · intro negative k
    constructor
    · intro hwhole
      rcases Binary64.exists_wholeText (Binary64.isWhole_iff.2 hwhole) with
        ⟨digits, htext, hnumeral, hvalue⟩
      exact ⟨digits, hnumeral, htext, hvalue⟩
    · intro hwhole
      have hmarked := Binary64.point_or_exponent_mem_plainLayout (Decimal.shortest k)
      have hfraction : (Binary64.finite negative k).isWhole = false :=
        Bool.eq_false_iff.2 fun h => hwhole (Binary64.isWhole_iff.1 h)
      rw [Binary64.operandText_of_fraction hfraction]
      cases negative with
      | false =>
          simpa [Binary64.signed] using hmarked
      | true =>
          simpa [Binary64.signed] using hmarked
  · exact Binary64.operandText_zero rfl true
  · intro s t j k
    exact Binary64.operandText_eq_iff
  · intro op left right fault h
    exact Operator.message_of_apply h
  · intro op op' s s' t t' j j' k k' fault fault' h h' hmessage
    rcases Operator.message_of_apply h with ⟨start, hstart, htext⟩
    rcases Operator.message_of_apply h' with ⟨start', hstart', htext'⟩
    rw [htext, htext'] at hmessage
    obtain rfl : start = start' := Operator.faultStart_eq hstart hstart' hmessage
    rcases operation_text_inj (String.append_right_inj start |>.1 hmessage) with
      ⟨hleft, hop, hright⟩
    exact ⟨hop, Binary64.operandText_eq_iff.1 hleft, Binary64.operandText_eq_iff.1 hright⟩

/-- The whole number 10²³ is written with all the digits of its value, which is another; the least
number and a tenth are written from their shortest decimals. -/
theorem operands_exact_samples :
    (Binary64.finite false ⟨4950912855330343670, by decide⟩).operandText =
        "99999999999999991611392" ∧
      (Binary64.finite true ⟨1, by decide⟩).operandText = "-5e-324" ∧
      (Binary64.finite false ⟨4591870180066957722, by decide⟩).operandText = "0.1" ∧
      (∃ d, Decimal.ofSigned? "-5e-324".toList = some (true, d) ∧
        IsNearestEven d.unitsNum d.unitsDen 1 ∧
        d.toBinary64 true = .finite true ⟨1, by decide⟩) ∧
      ¬ (Binary64.finite false ⟨4591870180066957722, by decide⟩).operandText =
        (Binary64.finite true ⟨4591870180066957722, by decide⟩).operandText ∧
      ¬ (Fault.divisionByZero Binary64.one Binary64.zero).message =
        (Fault.divisionByZero Binary64.zero Binary64.zero).message := by
  have hleast : (Binary64.finite true ⟨1, by decide⟩).operandText = "-5e-324" := by decide +kernel
  refine ⟨by decide +kernel, hleast, by decide +kernel, ?_, ?_, ?_⟩
  · have hread := operands_exact.1 true ⟨1, by decide⟩ (fun _ => Nat.one_ne_zero)
    rw [hleast] at hread
    exact hread
  · intro h
    rcases (operands_exact.2.2.2.1 _ _ _ _).1 h with ⟨hsign, -⟩ | ⟨hzero, -⟩
    · cases hsign
    · exact absurd hzero (by decide)
  · intro hmessage
    have hfails : Operator.apply .divide Binary64.one Binary64.zero =
        .error (.divisionByZero Binary64.one Binary64.zero) := rfl
    have hfails' : Operator.apply .divide Binary64.zero Binary64.zero =
        .error (.divisionByZero Binary64.zero Binary64.zero) := rfl
    unfold Binary64.one Binary64.zero at hfails hfails' hmessage
    rcases (operands_exact.2.2.2.2.2 _ _ _ _ _ _ _ _ _ _ _ _ hfails hfails' hmessage).2.1 with
      ⟨-, hone⟩ | ⟨hone, -⟩
    · exact absurd hone (by decide)
    · exact absurd hone (by decide)

end Abacus
