import Abacus.Key
import Abacus.Proofs.Reduction
import Abacus.Proofs.Sentence
import Mathlib.Tactic.IntervalCases

/-!
# Alphabet — the characters on the keys

Texts that are typed on the keypad hold no other characters than those on its keys.  For such texts the
mode of scanning makes no difference, and no character of them is unexpected:

* `Key.characters`, `Key.labels` — what stands on the keys;
* `Key.mem_characters_iff`, `Key.isSome_ofLabel?_iff` — these are the texts that keys are found for;
* `Key.isLabel_iff`, `Key.isSome_ofLabel?` — and they are the texts that pass the check;
* `Token.scan_eq_of_isKnown` — both modes scan a text without foreign characters alike;
* `Fault.cases_of_evaluateTokens` — the faults of tokens, and never is it one of the text.
-/

namespace Abacus

/-! ## Keys -/

namespace Key

/-- The characters on the digit keys and the operator keys. -/
def characters : List Char := "0123456789.+-*/()".toList

/-- The labels of all keys. -/
def labels : List String := characters.map String.singleton ++ ["C", "AC", "="]

theorem mem_characters_of_isNumeric {c : Char} (h : isNumeric c = true) : c ∈ characters := by
  unfold isNumeric at h
  rcases Bool.or_eq_true_iff.1 h with hdigit | hpoint
  · simp only [Char.isDigit, Bool.and_eq_true, decide_eq_true_eq, ge_iff_le,
      UInt32.le_iff_toNat_le] at hdigit
    have hlow : 48 ≤ c.toNat := hdigit.1
    have hhigh : c.toNat ≤ 57 := hdigit.2
    rw [← Char.ofNat_toNat c]
    interval_cases c.toNat <;> decide
  · rw [eq_of_beq hpoint]
    decide

theorem mem_characters_of_isMark {c : Char} (h : isMark c = true) : c ∈ characters := by
  unfold isMark Symbol.ofMark? at h
  split at h
  · decide
  · decide
  · unfold Operator.ofChar? at h
    split at h
    · decide
    · decide
    · decide
    · decide
    · cases h

theorem mem_characters_iff {c : Char} :
    c ∈ characters ↔ isNumeric c = true ∨ isMark c = true := by
  constructor
  · intro hc
    have hall : characters.all (fun c => isNumeric c || isMark c) = true := by decide
    exact Bool.or_eq_true_iff.1 (List.all_eq_true.1 hall c hc)
  · rintro (hnumeric | hmark)
    · exact mem_characters_of_isNumeric hnumeric
    · exact mem_characters_of_isMark hmark

/-- No character stands on a digit key and on an operator key. -/
theorem isNumeric_of_isMark {c : Char} (h : isMark c = true) : isNumeric c = false := by
  have hall : (characters.filter isMark).all (fun c => !isNumeric c) = true := by decide
  have hmem : c ∈ characters.filter isMark := List.mem_filter.2 ⟨mem_characters_of_isMark h, h⟩
  simpa using List.all_eq_true.1 hall c hmem

theorem mem_characters_of_all {cs : List Char} (h : cs.all characters.contains = true) :
    ∀ c ∈ cs, c ∈ characters := by
  intro c hc
  exact List.contains_iff_mem.1 (List.all_eq_true.1 h c hc)

theorem isSome_ofChar?_iff {c : Char} : (ofChar? c).isSome = true ↔ c ∈ characters := by
  rw [mem_characters_iff]
  unfold ofChar?
  by_cases hnumeric : isNumeric c = true
  · simp [hnumeric]
  · by_cases hmark : isMark c = true
    · simp [hnumeric, hmark]
    · simp [hnumeric, hmark]

theorem exists_entry_iff {label : String} :
    (∃ key, ofEntry? label = some key) ↔ label ∈ characters.map String.singleton := by
  rw [List.mem_map]
  unfold ofEntry?
  constructor
  · rintro ⟨key, hkey⟩
    split at hkey
    · rename_i c htext
      refine ⟨c, isSome_ofChar?_iff.1 (Option.isSome_of_eq_some hkey), ?_⟩
      rw [← String.toList_inj, htext, String.toList_singleton]
    · cases hkey
  · rintro ⟨c, hc, rfl⟩
    rw [String.toList_singleton]
    exact Option.isSome_iff_exists.1 (isSome_ofChar?_iff.2 hc)

theorem isSome_ofLabel?_iff {label : String} : (ofLabel? label).isSome = true ↔ label ∈ labels := by
  unfold ofLabel? labels
  rw [List.mem_append, ← exists_entry_iff, Option.isSome_iff_exists]
  by_cases hdelete : label = "C"
  · simp [hdelete]
  · by_cases hclear : label = "AC"
    · simp [hclear]
    · by_cases hequals : label = "="
      · simp [hequals]
      · simp [hdelete, hclear, hequals]

theorem isLabel_iff {label : String} : isLabel label = true ↔ label ∈ labels := by
  have hlists : labels = digitLabels ++ operatorLabels ++ controlLabels := by decide
  rw [hlists, isLabel, Bool.or_eq_true, Bool.or_eq_true, List.contains_iff_mem,
    List.contains_iff_mem, List.contains_iff_mem, List.mem_append, List.mem_append]

/-- The check and the search for a key agree on every label. -/
theorem isSome_ofLabel? (label : String) : (ofLabel? label).isSome = isLabel label :=
  Bool.eq_iff_iff.2 (isSome_ofLabel?_iff.trans isLabel_iff.symm)

theorem exists_ofLabel? {label : String} (h : isLabel label = true) :
    ∃ key, ofLabel? label = some key := by
  rw [← isSome_ofLabel?] at h
  exact Option.isSome_iff_exists.1 h

end Key

/-! ## Pieces of a text -/

namespace Lexeme

theorem mark_mem_join_iff {c d : Char} {lexemes : List Lexeme} :
    mark c ∈ join d lexemes ↔ mark c ∈ lexemes := by
  match lexemes with
  | [] => simp [join]
  | .numeral run :: rest => simp [join]
  | .mark e :: rest => simp [join]

/-- The single characters among the pieces are those outside of numerals. -/
theorem mark_mem_split_iff {c : Char} {cs : List Char} :
    mark c ∈ split cs ↔ c ∈ cs ∧ isNumeric c = false := by
  induction cs with
  | nil =>
      simp [split]
  | cons d cs ih =>
      by_cases hd : isNumeric d = true
      · rw [split, if_pos hd, mark_mem_join_iff, ih, List.mem_cons]
        constructor
        · rintro ⟨hc, hnumeric⟩
          exact ⟨Or.inr hc, hnumeric⟩
        · rintro ⟨rfl | hc, hnumeric⟩
          · rw [hd] at hnumeric
            cases hnumeric
          · exact ⟨hc, hnumeric⟩
      · rw [split, if_neg hd, List.mem_cons, ih, List.mem_cons, mark.injEq]
        constructor
        · rintro (rfl | ⟨hc, hnumeric⟩)
          · exact ⟨Or.inl rfl, Bool.eq_false_iff.2 hd⟩
          · exact ⟨Or.inr hc, hnumeric⟩
        · rintro ⟨rfl | hc, hnumeric⟩
          · exact Or.inl rfl
          · exact Or.inr ⟨hc, hnumeric⟩

end Lexeme

/-! ## Scans -/

/-- The characters that a strict scan accepts. -/
def isKnown (c : Char) : Bool := isNumeric c || isMark c || Text.isBlank c

theorem isKnown_of_mem_characters {c : Char} (h : c ∈ Key.characters) : isKnown c = true := by
  unfold isKnown
  rcases Key.mem_characters_iff.1 h with hnumeric | hmark
  · simp [hnumeric]
  · simp [hmark]

namespace Token

theorem ofLexemes_eq_of_isKnown {lexemes : List Lexeme}
    (hknown : ∀ c, Lexeme.mark c ∈ lexemes → isMark c = true ∨ Text.isBlank c = true)
    (position : Nat) : ofLexemes true position lexemes = ofLexemes false position lexemes := by
  induction lexemes generalizing position with
  | nil =>
      rfl
  | cons lexeme rest ih =>
      have hrest := ih fun c hc => hknown c (List.mem_cons_of_mem lexeme hc)
      cases lexeme with
      | numeral run =>
          simp only [ofLexemes, hrest]
      | mark c =>
          simp only [ofLexemes, hrest]
          -- Only the last case of a mark asks for the mode, and there the mark is blank.
          split
          · rfl
          · rename_i hforeign
            rcases hknown c List.mem_cons_self with hmark | hblank
            · rw [isMark, hforeign] at hmark
              cases hmark
            · simp [hblank]

/-- Skipping foreign characters makes no difference where there are none. -/
theorem scan_eq_of_isKnown {text : String} (hknown : ∀ c ∈ text.toList, isKnown c = true) :
    scan true text = scan false text := by
  refine ofLexemes_eq_of_isKnown ?_ 0
  intro c hc
  rcases Lexeme.mark_mem_split_iff.1 hc with ⟨hmem, hnumeric⟩
  simpa [isKnown, hnumeric] using hknown c hmem

/-- A scan that skips foreign characters fails at numerals only. -/
theorem kind_of_ofLexemes_lenient {position : Nat} {lexemes : List Lexeme} {fault : Fault}
    (h : ofLexemes false position lexemes = .error fault) : fault.kind = .numericParseFailure := by
  induction lexemes generalizing position with
  | nil =>
      cases h
  | cons lexeme rest ih =>
      cases lexeme with
      | numeral run =>
          rcases bind_eq_error_iff.1 h with hread | ⟨value, -, hrest⟩
          · unfold readNumber at hread
            split at hread
            · cases hread
              rfl
            · dsimp only at hread
              split at hread
              · cases hread
              · cases hread
                rfl
          · rcases bind_eq_error_iff.1 hrest with htail | ⟨tail, -, hdone⟩
            · exact ih htail
            · cases hdone
      | mark c =>
          simp only [ofLexemes] at h
          split at h
          · rcases bind_eq_error_iff.1 h with htail | ⟨tail, -, hdone⟩
            · exact ih htail
            · cases hdone
          · exact ih h

end Token

/-! ## Faults of tokens -/

/-- Tokens fail at an operation, at the closing bracket that conversion reports, or as a whole. -/
theorem Fault.cases_of_evaluateTokens {tokens : List Token} {fault : Fault}
    (h : evaluateTokens tokens = .error fault) :
    fault.IsArithmetic ∨
      (∃ place, fault = .unmatchedClosing place ∧
        (Postfix.ofTokens tokens).ending = .unmatchedClosing place) ∨
      fault.kind = .malformedExpression ∧ fault.position = none := by
  rw [evaluateTokens_eq_outcome] at h
  rcases bind_eq_error_iff.1 h with hrun | ⟨stack, -, hending⟩
  · rcases exists_step_eq_error hrun with ⟨item, -, before, hitem⟩
    cases item with
    | number value =>
        cases hitem
    | operator op =>
        rw [Postfix.runItem_operator] at hitem
        rcases Stacks.applyTop_eq_error hitem with rfl | ⟨left, right, happly⟩
        · exact Or.inr (Or.inr ⟨rfl, rfl⟩)
        · exact Or.inl (Fault.IsArithmetic.of_apply happly)
  · split at hending
    · -- Of the wrong endings, this one has a place.
      rename_i place hclosing
      cases hending
      exact Or.inr (Or.inl ⟨place, rfl, hclosing⟩)
    all_goals
      cases hending
    all_goals
      exact Or.inr (Or.inr ⟨rfl, rfl⟩)

/-- Once a text has been scanned, only operations and the order of the tokens can fail. -/
theorem Fault.kind_of_evaluateTokens {tokens : List Token} {fault : Fault}
    (h : evaluateTokens tokens = .error fault) :
    fault.kind = .malformedExpression ∨ fault.IsArithmetic := by
  rcases Fault.cases_of_evaluateTokens h with harithmetic | ⟨place, rfl, -⟩ | ⟨hkind, -⟩
  · exact Or.inr harithmetic
  · exact Or.inl rfl
  · exact Or.inl hkind

/-- The outcome of a text without foreign characters does not depend on the mode. -/
theorem evaluate_eq_of_isKnown {text : String} (hknown : ∀ c ∈ text.toList, isKnown c = true) :
    evaluate true text = evaluate false text := by
  unfold evaluate
  rw [Token.scan_eq_of_isKnown hknown]

theorem evaluate_mode {text : String} (hknown : ∀ c ∈ text.toList, isKnown c = true)
    (strict mode : Bool) : evaluate strict text = evaluate mode text := by
  have hmodes := evaluate_eq_of_isKnown hknown
  cases strict with
  | false =>
      cases mode with
      | false => rfl
      | true => exact hmodes.symm
  | true =>
      cases mode with
      | false => exact hmodes
      | true => rfl

theorem kind_ne_unexpectedCharacter {text : String} (hknown : ∀ c ∈ text.toList, isKnown c = true)
    {strict : Bool} {fault : Fault} (h : evaluate strict text = .error fault) :
    fault.kind ≠ .unexpectedCharacter := by
  have hlenient : evaluate false text = .error fault := by
    cases strict with
    | false => exact h
    | true => rw [← evaluate_eq_of_isKnown hknown, h]
  rcases bind_eq_error_iff.1 hlenient with hscan | ⟨tokens, -, htokens⟩
  · rw [Token.kind_of_ofLexemes_lenient hscan]
    decide
  · rcases Fault.kind_of_evaluateTokens htokens with hkind | hkind | hkind
    · rw [hkind]
      decide
    · rw [hkind]
      decide
    · rw [hkind]
      decide

end Abacus
