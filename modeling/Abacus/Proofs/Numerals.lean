import Abacus.Binary64.Text
import Abacus.Proofs.ResultText
import Mathlib.Data.List.Basic

/-!
# Numerals — numbers that a JSON text can hold

JSON writes a number as an optional minus, digits that do not begin with a superfluous zero, an
optional fraction and an optional exponent; it has no word for an infinity or for what is not a number.

* `IsJsonNumeral` — the texts of this form;
* `Decimal.head?_digits` — digits do not begin with a zero, except for zero itself;
* `Decimal.isUnsignedNumeral_positional`, `Decimal.isUnsignedNumeral_scientific` — the two layouts;
* `Binary64.isJsonNumeral_plainText_iff` — the finite numbers, and they alone, have a numeral.
-/

namespace Abacus

/-! ## The form of numerals -/

def AllDigits (cs : List Char) : Prop := ∀ c ∈ cs, c.isDigit = true

/-- A numeral without a sign in front. -/
structure IsUnsignedNumeral (whole fraction exponent : List Char) : Prop where
  whole_ne_nil : whole ≠ []
  whole_digits : AllDigits whole
  no_leading_zero : whole.head? = some '0' → whole = ['0']
  fraction : fraction = [] ∨ ∃ digits, digits ≠ [] ∧ AllDigits digits ∧ fraction = '.' :: digits
  exponent : exponent = [] ∨ ∃ sign digits, (sign = '+' ∨ sign = '-') ∧ digits ≠ [] ∧
    AllDigits digits ∧ exponent = 'e' :: sign :: digits

def IsJsonNumeral (text : String) : Prop :=
  ∃ (negative : Bool) (whole fraction exponent : List Char),
    IsUnsignedNumeral whole fraction exponent ∧
      text = Binary64.signed negative (whole ++ fraction ++ exponent)

/-! ## Digits -/

/-- The first digit of a number other than zero: all but the last are those of a tenth. -/
theorem head?_toDigits {n : Nat} (hn : n ≠ 0) : (Nat.toDigits 10 n).head? ≠ some '0' := by
  induction n using Nat.strong_induction_on with
  | _ n ih =>
      rcases Nat.lt_or_ge n 10 with hsmall | hlarge
      · rw [Nat.toDigits_of_lt_base hsmall]
        simpa using hn
      · rw [Nat.toDigits_of_base_le (by decide) hlarge,
          List.head?_append_of_ne_nil _ Nat.toDigits_ne_nil]
        exact ih (n / 10) (by omega) (by omega)

namespace Decimal

variable {d : Decimal}

theorem head?_digits (hd : d.coefficient ≠ 0) : d.digits.head? ≠ some '0' := head?_toDigits hd

theorem allDigits_digits (d : Decimal) : AllDigits d.digits := fun _ hc => isDigit_of_mem_digits hc

/-! ## Layouts -/

/-- A layout that does not begin with a zero is a numeral without an exponent. -/
theorem IsLayoutOf.isUnsignedNumeral {whole fraction : List Char}
    (h : IsLayoutOf d whole fraction) (hhead : whole.head? = some '0' → whole = ['0']) :
    IsUnsignedNumeral whole ('.' :: fraction) [] where
  whole_ne_nil := h.whole_ne_nil
  whole_digits := fun c hc => h.isDigit c (List.mem_append_left fraction hc)
  no_leading_zero := hhead
  fraction := Or.inr ⟨fraction, h.fraction_ne_nil,
    fun c hc => h.isDigit c (List.mem_append_right whole hc), rfl⟩
  exponent := Or.inl rfl

/-- Zeros stand in front of the digits only as long as no digit stands before the point. -/
theorem isUnsignedNumeral_positional (hd : d.coefficient ≠ 0) :
    ∃ whole fraction, d.positional = whole ++ fraction ∧ IsUnsignedNumeral whole fraction [] := by
  have hfirst := head?_digits hd
  unfold positional
  dsimp only
  by_cases hplaces : (-d.exponent).toNat = 0
  · rw [if_pos hplaces]
    refine ⟨_, _, rfl, (isLayoutOf_whole hplaces).isUnsignedNumeral ?_⟩
    intro hzero
    rw [List.head?_append_of_ne_nil _ d.digits_ne_nil] at hzero
    exact absurd hzero hfirst
  · rw [if_neg hplaces]
    have hwhole : d.exponent.toNat = 0 := by omega
    refine ⟨_, _, rfl, (isLayoutOf_fraction (by simp [hwhole]) hplaces).isUnsignedNumeral ?_⟩
    rw [hwhole, List.replicate_zero, List.append_nil]
    rcases Nat.lt_or_ge (-d.exponent).toNat d.digits.length with hlong | hshort
    · -- The digits reach beyond the point, and no zero is put in front of them.
      have hnone : (-d.exponent).toNat + 1 - d.digits.length = 0 := by omega
      rw [hnone, List.replicate_zero, List.nil_append, List.head?_take]
      intro hzero
      split at hzero
      · cases hzero
      · exact absurd hzero hfirst
    · -- One zero stands before the point.
      intro _
      have hlength : (List.replicate ((-d.exponent).toNat + 1 - d.digits.length) '0' ++
          d.digits).length - (-d.exponent).toNat = 1 := by
        rw [List.length_append, List.length_replicate]
        omega
      obtain ⟨zeros, hzeros⟩ : ∃ zeros, (-d.exponent).toNat + 1 - d.digits.length = zeros + 1 :=
        ⟨(-d.exponent).toNat - d.digits.length, by omega⟩
      rw [hlength, hzeros, List.replicate_succ]
      rfl

theorem exponentText_eq (e : Int) :
    ∃ sign digits, (sign = '+' ∨ sign = '-') ∧ digits ≠ [] ∧ AllDigits digits ∧
      exponentText e = sign :: digits := by
  refine ⟨_, _, ?_, ?_, ?_, rfl⟩
  · by_cases he : e < 0
    · exact Or.inr (if_pos he)
    · exact Or.inl (if_neg he)
  · simp [Nat.toDigits_ne_nil]
  · intro c hc
    rcases List.mem_append.1 hc with hc | hc
    · exact isDigit_of_mem_zeros hc
    · exact Nat.isDigit_of_mem_toDigits (by decide) (by decide) hc

/-- One digit stands before the point, and the others, if there are any, behind it. -/
theorem isUnsignedNumeral_scientific (d : Decimal) :
    ∃ whole fraction exponent, d.scientific = whole ++ fraction ++ exponent ∧
      IsUnsignedNumeral whole fraction exponent := by
  rcases exponentText_eq d.leadingExponent with ⟨sign, digits, hsign, hne, hdigits, hexponent⟩
  have hall := d.allDigits_digits
  have hpower : ('e' :: exponentText d.leadingExponent) = [] ∨
      ∃ sign digits, (sign = '+' ∨ sign = '-') ∧ digits ≠ [] ∧ AllDigits digits ∧
        ('e' :: exponentText d.leadingExponent) = 'e' :: sign :: digits :=
    Or.inr ⟨sign, digits, hsign, hne, hdigits, by rw [hexponent]⟩
  unfold scientific
  match hd : d.digits with
  | [] =>
      exact absurd hd d.digits_ne_nil
  | [first] =>
      rw [hd] at hall
      refine ⟨[first], [], _, rfl, by simp, hall, ?_, Or.inl rfl, hpower⟩
      intro hzero
      simpa using hzero
  | first :: second :: rest =>
      rw [hd] at hall
      refine ⟨[first], '.' :: second :: rest, _, rfl, by simp, ?_, ?_, Or.inr ?_, hpower⟩
      · intro c hc
        exact hall c (by simp [List.mem_singleton.1 hc])
      · intro hzero
        simpa using hzero
      · exact ⟨second :: rest, by simp, fun c hc => hall c (List.mem_cons_of_mem first hc), rfl⟩

/-- The decimal of a rank other than zero is not zero. -/
theorem coefficient_shortest_ne_zero {k : Nat} (hk : k ≠ 0) : (shortest k).coefficient ≠ 0 := by
  intro hzero
  have hrank := rank_shortest k
  have hunits : (shortest k).unitsNum * (Decimal.mk 0 0).unitsDen =
      (Decimal.mk 0 0).unitsNum * (shortest k).unitsDen := by
    rw [unitsNum_eq, unitsNum_eq, hzero]
    simp
  rw [rank_congr hunits, rank_zero] at hrank
  exact hk hrank.symm

theorem isUnsignedNumeral_plainLayout (k : Nat) :
    ∃ whole fraction exponent, Binary64.plainLayout (shortest k) = whole ++ fraction ++ exponent ∧
      IsUnsignedNumeral whole fraction exponent := by
  by_cases hk : k = 0
  · have hshortest : shortest k = ⟨0, 0⟩ := by
      unfold shortest
      rw [if_pos hk]
    -- Zero is the one number whose digits begin with a zero.
    have hlayout : IsLayoutOf ⟨0, 0⟩ ['0'] ['0'] := isLayoutOf_whole rfl
    rw [hshortest]
    exact ⟨['0'], ['.', '0'], [], rfl, hlayout.isUnsignedNumeral fun _ => rfl⟩
  · unfold Binary64.plainLayout
    split
    · rcases isUnsignedNumeral_positional (coefficient_shortest_ne_zero hk) with
        ⟨whole, fraction, htext, hnumeral⟩
      exact ⟨whole, fraction, [], by rw [htext, List.append_nil], hnumeral⟩
    · exact isUnsignedNumeral_scientific (shortest k)

end Decimal

/-! ## Numbers -/

/-- The characters of a numeral. -/
theorem IsUnsignedNumeral.isDigit_or_mem {whole fraction exponent : List Char}
    (h : IsUnsignedNumeral whole fraction exponent) :
    ∀ c ∈ whole ++ fraction ++ exponent, c.isDigit = true ∨ c ∈ ['.', 'e', '+', '-'] := by
  intro c hc
  rcases List.mem_append.1 hc with hc | hc
  · rcases List.mem_append.1 hc with hc | hc
    · exact Or.inl (h.whole_digits c hc)
    · rcases h.fraction with hnone | ⟨digits, -, hdigits, hfraction⟩
      · simp [hnone] at hc
      · rw [hfraction] at hc
        rcases List.mem_cons.1 hc with rfl | hc
        · exact Or.inr (by decide)
        · exact Or.inl (hdigits c hc)
  · rcases h.exponent with hnone | ⟨sign, digits, hsign, -, hdigits, hexponent⟩
    · simp [hnone] at hc
    · rw [hexponent] at hc
      rcases List.mem_cons.1 hc with rfl | hc
      · exact Or.inr (by decide)
      · rcases List.mem_cons.1 hc with rfl | hc
        · exact Or.inr (by rcases hsign with rfl | rfl <;> decide)
        · exact Or.inl (hdigits c hc)

theorem IsJsonNumeral.isDigit_or_mem {text : String} (h : IsJsonNumeral text) :
    ∀ c ∈ text.toList, c.isDigit = true ∨ c ∈ ['.', 'e', '+', '-'] := by
  rcases h with ⟨negative, whole, fraction, exponent, hnumeral, rfl⟩
  intro c hc
  cases negative with
  | false =>
      exact hnumeral.isDigit_or_mem c (by simpa [Binary64.signed] using hc)
  | true =>
      rw [Binary64.signed, if_pos rfl, String.toList_ofList] at hc
      rcases List.mem_cons.1 hc with rfl | hc
      · exact Or.inr (by decide)
      · exact hnumeral.isDigit_or_mem c hc

/-- The words for an infinity and for what is not a number have an `n`, and no numeral has one. -/
theorem IsJsonNumeral.not_mem_n {text : String} (h : IsJsonNumeral text) : 'n' ∉ text.toList := by
  intro hn
  have hchar := h.isDigit_or_mem 'n' hn
  revert hchar
  decide

namespace Binary64

/-- The finite numbers, and they alone, are written as numerals. -/
theorem isJsonNumeral_plainText_iff {x : Binary64} :
    IsJsonNumeral x.plainText ↔ x.isFinite = true := by
  cases x with
  | finite negative k =>
      refine ⟨fun _ => rfl, fun _ => ?_⟩
      rcases Decimal.isUnsignedNumeral_plainLayout k with
        ⟨whole, fraction, exponent, htext, hnumeral⟩
      refine ⟨negative, whole, fraction, exponent, hnumeral, ?_⟩
      rw [← htext]
      rfl
  | infinite negative =>
      refine ⟨fun h => absurd ?_ h.not_mem_n, fun h => by cases h⟩
      cases negative <;> decide
  | nan =>
      exact ⟨fun h => absurd (by decide) h.not_mem_n, fun h => by cases h⟩

end Binary64

end Abacus
