import Abacus.Proofs.Accounting
import Abacus.Proofs.Readings
import Abacus.Proofs.Scans
import Abacus.Proofs.WholeNumbers

/-!
# Exact results — sentences about whole numbers

A sentence whose literals are whole numbers has an exact value of its own, which is told from its text
without any rounding.  As long as nothing on the way to it takes more than 53 binary digits, and every
quotient is whole, evaluation arrives at the same value:

* `Lexeme.Computes` — sentences of the grammar with their exact values, literal by literal;
* `Lexeme.symbol?` — the symbol of a piece, wherever it stands;
* `Token.exists_scan` — the tokens of a text that is not at fault;
* `Lexeme.Computes.exists_phrase` — a sentence is written for a tree that has the exact value;
* `evaluate_whole_numbers_exact` — hence a text of such a sentence has this value.
-/

namespace Abacus

namespace Lexeme

/-! ## Sentences with exact values -/

instance : DecidablePred IsSymbol
  | .numeral _ => inferInstanceAs (Decidable True)
  | .mark c => inferInstanceAs (Decidable (c ∈ "+-*/()".toList))

/-- The pieces are written by the grammar, their literals are whole numbers, and every operation has a
whole result.  None of these numbers takes more than 53 binary digits, and the last result is `n`. -/
inductive Computes : Level → List Lexeme → Int → Prop
  | sum {left right : List Lexeme} {a b n : Int} (op : Operator) (additive : op = .plus ∨ op = .minus)
      (hleft : Computes .sum left a) (hright : Computes .product right b) (hexact : op.IsExact a b n)
      (hsmall : n.natAbs ≤ 2 ^ 53) : Computes .sum (left ++ .mark op.char :: right) n
  | ofProduct {inner : List Lexeme} {n : Int} (hinner : Computes .product inner n) :
      Computes .sum inner n
  | product {left right : List Lexeme} {a b n : Int} (op : Operator)
      (multiplicative : op = .times ∨ op = .divide) (hleft : Computes .product left a)
      (hright : Computes .factor right b) (hexact : op.IsExact a b n) (hsmall : n.natAbs ≤ 2 ^ 53) :
      Computes .product (left ++ .mark op.char :: right) n
  | ofFactor {inner : List Lexeme} {n : Int} (hinner : Computes .factor inner n) :
      Computes .product inner n
  | number {run : List Char} {n : Nat} (hliteral : IsLiteral run) (hvalue : runValue run = n)
      (hsmall : n ≤ 2 ^ 53) : Computes .factor [.numeral run] n
  | brackets {inner : List Lexeme} {n : Int} (hinner : Computes .sum inner n) :
      Computes .factor (.mark '(' :: (inner ++ [.mark ')'])) n

/-! ## Symbols of pieces -/

/-- The symbol that a piece is written for, which does not depend on its place. -/
def symbol? (l : Lexeme) : Option Symbol := (l.token? 0).map Token.symbol

theorem map_symbol_token? (l : Lexeme) (place : Nat) :
    (l.token? place).map Token.symbol = l.symbol? := by
  cases l with
  | numeral run =>
      have hshift := Token.readNumber_shift run place 0
      rw [Nat.add_zero] at hshift
      simp only [symbol?, token?, hshift]
      cases Token.readNumber run 0 <;> rfl
  | mark c =>
      simp only [symbol?, token?]
      cases Symbol.ofMark? c <;> rfl

theorem map_symbol_tokens (place : Nat) (ls : List Lexeme) :
    (tokens (placed place ls)).map Token.symbol = ls.filterMap symbol? := by
  induction ls generalizing place with
  | nil =>
      rfl
  | cons l ls ih =>
      have hrest := ih (place + l.chars.length)
      have hfirst := map_symbol_token? l place
      unfold tokens at hrest ⊢
      rw [placed, List.filterMap_cons, List.filterMap_cons, ← hfirst]
      cases l.token? place with
      | none => exact hrest
      | some token => exact congrArg (token.symbol :: ·) hrest

theorem mem_marks_of_isMark {c : Char} (h : isMark c = true) : c ∈ "+-*/()".toList := by
  have hfilter : Key.characters.filter isMark = "+-*/()".toList := by decide
  rw [← hfilter]
  exact List.mem_filter.2 ⟨Key.mem_characters_of_isMark h, h⟩

theorem isSymbol_of_symbol? {l : Lexeme} {symbol : Symbol} (h : l.symbol? = some symbol) :
    l.IsSymbol := by
  cases l with
  | numeral run => exact trivial
  | mark c =>
      have hmark : isMark c = true := by
        unfold symbol? token? at h
        unfold isMark
        cases hc : Symbol.ofMark? c with
        | none => simp [hc] at h
        | some symbol => rfl
      exact mem_marks_of_isMark hmark

/-- Only the pieces that are written for a symbol have one. -/
theorem filterMap_filter_isSymbol (ls : List Lexeme) :
    (ls.filter fun l => l.IsSymbol).filterMap symbol? = ls.filterMap symbol? := by
  rw [List.filterMap_filter]
  refine List.filterMap_congr ?_
  intro l _
  cases hsymbol : l.symbol? with
  | none => simp
  | some symbol => simp [isSymbol_of_symbol? hsymbol]

theorem symbol?_mark_char (op : Operator) : (mark op.char).symbol? = some (.operator op) := by
  cases op <;> rfl

theorem fault?_of_symbol? {run : List Char} {symbol : Symbol}
    (h : (numeral run).symbol? = some symbol) (strict : Bool) (place : Nat) :
    (numeral run).fault? strict place = none := by
  rw [← map_symbol_token? (numeral run) place] at h
  unfold token? at h
  unfold fault?
  cases hread : Token.readNumber run place with
  | error fault => simp [hread, Except.toOption] at h
  | ok value => simp only [hread]

end Lexeme

/-! ## Texts without a fault -/

open Lexeme in
/-- A text whose runs can be read has a token for each symbol, unless a foreign character is refused. -/
theorem Token.exists_scan {strict : Bool} {text : String}
    (hknown : strict = true → ∀ c ∈ text.toList, isKnown c = true)
    (hruns : ∀ run, numeral run ∈ split text.toList → ∃ symbol, (numeral run).symbol? = some symbol) :
    ∃ tokens, scan strict text = .ok tokens ∧
      tokens.map Token.symbol = (split text.toList).filterMap symbol? := by
  have hfault : firstFault? strict (placed 0 (split text.toList)) = none := by
    refine List.findSome?_eq_none_iff.2 ?_
    rintro ⟨place, l⟩ hplaced
    have hmem : l ∈ split text.toList := by
      rcases mem_placed_iff.1 hplaced with ⟨front, rest, hsplit, -⟩
      simp [hsplit]
    cases l with
    | numeral run =>
        rcases hruns run hmem with ⟨symbol, hsymbol⟩
        exact fault?_of_symbol? hsymbol strict place
    | mark c =>
        unfold fault?
        cases strict with
        | false => rfl
        | true => simp [hknown rfl c (mark_mem_split_iff.1 hmem).1]
  refine ⟨_, ?_, map_symbol_tokens 0 (split text.toList)⟩
  rw [scan_eq, hfault]

/-! ## Values of sentences -/

/-- An operation on outcomes that are exact is exact. -/
theorem Operator.exists_value_of_isExact {op : Operator} {left right : Outcome} {a b n : Int}
    (hleft : ∃ x, left = .ok x ∧ x.IsInt a) (hright : ∃ y, right = .ok y ∧ y.IsInt b)
    (hexact : op.IsExact a b n) (hsmall : n.natAbs ≤ 2 ^ 53) :
    ∃ z, (do op.apply (← left) (← right)) = .ok z ∧ z.IsInt n := by
  rcases hleft with ⟨x, rfl, hx⟩
  rcases hright with ⟨y, rfl, hy⟩
  exact Operator.exists_apply_of_isExact hx hy hexact hsmall

namespace Lexeme

/-- The pieces are those of a tree, one for each of its symbols, and the tree has the exact value. -/
theorem Computes.exists_phrase {level : Level} {ls : List Lexeme} {n : Int}
    (h : Computes level ls n) :
    ∃ phrase : Phrase level, ls.map symbol? = phrase.symbols.map some ∧
      ∃ x, phrase.value = .ok x ∧ x.IsInt n := by
  induction h with
  | sum op additive _ _ hexact hsmall ihleft ihright =>
      rcases ihleft with ⟨left, hleft, hx⟩
      rcases ihright with ⟨right, hright, hy⟩
      refine ⟨.sum left op additive right, ?_, Operator.exists_value_of_isExact hx hy hexact hsmall⟩
      simp [Phrase.symbols, hleft, hright, symbol?_mark_char]
  | ofProduct _ ih =>
      rcases ih with ⟨inner, hinner, hx⟩
      exact ⟨.ofProduct inner, hinner, hx⟩
  | product op multiplicative _ _ hexact hsmall ihleft ihright =>
      rcases ihleft with ⟨left, hleft, hx⟩
      rcases ihright with ⟨right, hright, hy⟩
      refine ⟨.product left op multiplicative right, ?_,
        Operator.exists_value_of_isExact hx hy hexact hsmall⟩
      simp [Phrase.symbols, hleft, hright, symbol?_mark_char]
  | ofFactor _ ih =>
      rcases ih with ⟨inner, hinner, hx⟩
      exact ⟨.ofFactor inner, hinner, hx⟩
  | @number run n hliteral hvalue hsmall =>
      rcases Token.exists_readNumber_whole hliteral hsmall hvalue 0 with ⟨k, hread, hk⟩
      refine ⟨.number (.finite false k), ?_, .finite false k, rfl, ?_⟩
      · simp [Phrase.symbols, symbol?, token?, hread, Except.toOption]
      · -- A magnitude is a number without a sign.
        rw [Binary64.isInt_finite_iff]
        exact ⟨Binary64.rankUnits_of_magnitude hk, rfl⟩
  | brackets _ ih =>
      rcases ih with ⟨inner, hinner, hx⟩
      refine ⟨.brackets inner, ?_, hx⟩
      have hopening : (mark '(').symbol? = some .opening := rfl
      have hclosing : (mark ')').symbol? = some .closing := rfl
      simp [Phrase.symbols, hinner, hopening, hclosing]

end Lexeme

/-- If the pieces of a text are a sentence about whole numbers that never takes more than 53 binary digits
and never leaves a remainder, then the text has the exact value of the sentence. -/
theorem evaluate_whole_numbers_exact (strict : Bool) (text : String) (n : Int)
    (hknown : strict = true → ∀ c ∈ text.toList, isKnown c = true)
    (hcomputes : Lexeme.Computes .sum
      ((Lexeme.split text.toList).filter fun l => l.IsSymbol) n) :
    ∃ value : Binary64, evaluate strict text = .ok value ∧ value.IsInt n := by
  obtain ⟨phrase, hsymbols, value, hvalue, hexact⟩ := hcomputes.exists_phrase
  refine ⟨value, ?_, hexact⟩
  have hruns : ∀ run, .numeral run ∈ Lexeme.split text.toList →
      ∃ symbol, (Lexeme.numeral run).symbol? = some symbol := by
    intro run hrun
    -- A run is one of the pieces of the sentence, and these have symbols.
    have hpiece : .numeral run ∈ (Lexeme.split text.toList).filter fun l => l.IsSymbol :=
      List.mem_filter.2 ⟨hrun, rfl⟩
    have hmem := List.mem_map_of_mem (f := Lexeme.symbol?) hpiece
    rw [hsymbols] at hmem
    rcases List.mem_map.1 hmem with ⟨symbol, -, hsymbol⟩
    exact ⟨symbol, hsymbol.symm⟩
  obtain ⟨tokens, hscan, htokens⟩ := Token.exists_scan hknown hruns
  have hyield : phrase.symbols = tokens.map Token.symbol := by
    calc
      phrase.symbols = (phrase.symbols.map some).filterMap id := by simp
      _ = ((Lexeme.split text.toList).filter fun l => l.IsSymbol).filterMap Lexeme.symbol? := by
        rw [← hsymbols, List.filterMap_map, Function.id_comp]
      _ = tokens.map Token.symbol := by
        rw [Lexeme.filterMap_filter_isSymbol, htokens]
  calc
    evaluate strict text = evaluateTokens tokens := by simp [evaluate, hscan]
    _ = phrase.value := evaluateTokens_of_phrase phrase hyield
    _ = .ok value := hvalue

/-- A negative quotient on the way to the largest result. -/
theorem evaluate_whole_numbers_exact_largest :
    let text := "9007199254740991-(2-8.0)/6"
    (∀ c ∈ text.toList, isKnown c = true) ∧
      Lexeme.Computes .sum ((Lexeme.split text.toList).filter fun l => l.IsSymbol) (2 ^ 53) ∧
      ∃ value : Binary64, evaluate true text = .ok value ∧ value.IsInt (2 ^ 53) := by
  intro text
  have hknown : ∀ c ∈ text.toList, isKnown c = true := List.all_eq_true.1 (by decide)
  have hliteral (run : List Char) (n : Nat) (hnumeric : run.all isNumeric = true)
      (hpoints : run.count '.' ≤ 1) (hdigit : run.any Char.isDigit = true)
      (hdigits : runDigits run = n * 10 ^ runPlaces run) (hsmall : n ≤ 2 ^ 53) :
      Lexeme.Computes .factor [.numeral run] n := by
    refine .number ⟨List.all_eq_true.1 hnumeric, hpoints, List.any_eq_true.1 hdigit⟩ ?_ hsmall
    unfold runValue
    rw [hdigits, Nat.cast_mul, Nat.cast_pow, Nat.cast_ofNat]
    exact mul_div_cancel_right₀ _ (by positivity)
  have hlarge := hliteral "9007199254740991".toList 9007199254740991
    (by decide) (by decide) (by decide) (by decide +kernel) (by decide)
  have htwo := hliteral "2".toList 2 (by decide) (by decide) (by decide) (by decide) (by decide)
  have height := hliteral "8.0".toList 8 (by decide) (by decide) (by decide) (by decide) (by decide)
  have hsix := hliteral "6".toList 6 (by decide) (by decide) (by decide) (by decide) (by decide)
  have hdifference : Lexeme.Computes .sum
      [.numeral "2".toList, .mark '-', .numeral "8.0".toList] (-6) :=
    .sum .minus (Or.inr rfl) (.ofProduct (.ofFactor htwo)) (.ofFactor height) rfl (by decide)
  have hquotient : Lexeme.Computes .product
      [.mark '(', .numeral "2".toList, .mark '-', .numeral "8.0".toList, .mark ')', .mark '/',
        .numeral "6".toList] (-1) :=
    .product .divide (Or.inr rfl) (.ofFactor (.brackets hdifference)) hsix ⟨by decide, rfl⟩ (by decide)
  have hcomputes : Lexeme.Computes .sum
      ((Lexeme.split text.toList).filter fun l => l.IsSymbol) (2 ^ 53) := by
    have hpieces : ((Lexeme.split text.toList).filter fun l => l.IsSymbol) =
        .numeral "9007199254740991".toList :: .mark '-' ::
          [.mark '(', .numeral "2".toList, .mark '-', .numeral "8.0".toList, .mark ')', .mark '/',
            .numeral "6".toList] := by
      decide
    rw [hpieces]
    exact .sum .minus (Or.inr rfl) (.ofProduct (.ofFactor hlarge)) hquotient rfl (by decide)
  exact ⟨hknown, hcomputes,
    evaluate_whole_numbers_exact true text (2 ^ 53) (fun _ => hknown) hcomputes⟩

end Abacus
