import Abacus.Grammar
import Mathlib.Data.List.Basic

/-!
# Adjacency — sentences seen from neighbouring symbols

A symbol may follow another without an operator between two operands, or without an operand where
one is due.  This file counts both defects and shows that nothing else is wrong with a list of
symbols whose brackets pair off:

* `missingOperators`, `missingOperands` — the two counts;
* `countP_add_missing` — they differ as the numbers and the operators do;
* `isSentence_of_paired` — paired symbols without a defect are a sentence;
* `missingOperators_of_isSentence` — a sentence has no defect.
-/

namespace Abacus

namespace Symbol

def isNumber : Symbol → Bool
  | .number _ => true
  | _ => false

def isOperator : Symbol → Bool
  | .operator _ => true
  | _ => false

def startsOperand : Symbol → Bool
  | .number _ | .opening => true
  | .operator _ | .closing => false

def endsOperand : Symbol → Bool
  | .number _ | .closing => true
  | .operator _ | .opening => false

end Symbol

/-! ## The two defects -/

/-- The places where an operand follows an operand; `ended` tells whether one ends in front. -/
def missingOperators (ended : Bool) : List Symbol → Nat
  | [] => 0
  | symbol :: rest =>
      (ended && symbol.startsOperand).toNat + missingOperators symbol.endsOperand rest

/-- The places where an operator, a closing bracket or the end stands and an operand is due. -/
def missingOperands (ended : Bool) : List Symbol → Nat
  | [] => (!ended).toNat
  | symbol :: rest =>
      (!ended && !symbol.startsOperand).toNat + missingOperands symbol.endsOperand rest

/-- Numbers and missing operands together are one more than operators and missing operators; an
operand that ends in front counts as a number. -/
theorem countP_add_missing (ended : Bool) (symbols : List Symbol) :
    ended.toNat + symbols.countP Symbol.isNumber + missingOperands ended symbols =
      symbols.countP Symbol.isOperator + missingOperators ended symbols + 1 := by
  induction symbols generalizing ended with
  | nil =>
      cases ended <;> rfl
  | cons symbol rest ih =>
      have hrest := ih symbol.endsOperand
      -- In each of the eight cases one symbol changes both sides by the same number.
      rw [List.countP_cons, List.countP_cons, missingOperands, missingOperators]
      cases symbol <;> cases ended <;>
        simp only [Symbol.isNumber, Symbol.isOperator, Symbol.startsOperand, Symbol.endsOperand,
          Bool.and_true, Bool.and_false, Bool.not_true, Bool.not_false, Bool.toNat_true,
          Bool.toNat_false, if_true, if_false, Bool.false_eq_true] at hrest ⊢ <;>
        omega

/-! ## Brackets -/

/-- The brackets pair off when `depth` of them stand open in front. -/
def Paired (depth : Nat) : List Symbol → Prop
  | [] => depth = 0
  | .opening :: rest => Paired (depth + 1) rest
  | .closing :: rest => 0 < depth ∧ Paired (depth - 1) rest
  | .number _ :: rest | .operator _ :: rest => Paired depth rest

/-! ## Reading symbols into trees -/

/-- What stands in one pair of brackets before an operand: nothing, or a sum and its operator. -/
abbrev Lead := Option (Phrase .sum × Operator)

namespace Lead

def symbols : Lead → List Symbol
  | none => []
  | some (left, op) => left.symbols ++ [.operator op]

/-- The symbols in front of an operand, the innermost pair of brackets first. -/
def stacked : List Lead → List Symbol
  | [] => []
  | lead :: outer => stacked outer ++ lead.symbols ++ [.opening]

end Lead

namespace Phrase

/-- Multiplies or divides the last product of a sum by a factor. -/
def scale (left : Phrase .sum) (op : Operator) (hop : op = .times ∨ op = .divide)
    (factor : Phrase .factor) : Phrase .sum :=
  match left with
  | .sum first outer additive last => .sum first outer additive (.product last op hop factor)
  | .ofProduct last => .ofProduct (.product last op hop factor)

theorem symbols_scale (left : Phrase .sum) (op : Operator) (hop : op = .times ∨ op = .divide)
    (factor : Phrase .factor) :
    (left.scale op hop factor).symbols = left.symbols ++ .operator op :: factor.symbols := by
  cases left with
  | sum first outer additive last =>
      simp [scale, symbols]
  | ofProduct last =>
      simp [scale, symbols]

/-- What stands in front of a factor and the factor itself are a sum. -/
theorem exists_sum_of_lead (lead : Lead) (factor : Phrase .factor) :
    ∃ sum : Phrase .sum, sum.symbols = lead.symbols ++ factor.symbols := by
  match lead with
  | none =>
      exact ⟨.ofProduct (.ofFactor factor), rfl⟩
  | some (left, op) =>
      by_cases hop : op = .times ∨ op = .divide
      · refine ⟨left.scale op hop factor, ?_⟩
        simp [symbols_scale, Lead.symbols]
      · have hadditive : op = .plus ∨ op = .minus := by
          cases op <;> simp_all
        refine ⟨.sum left op hadditive (.ofFactor factor), ?_⟩
        simp [symbols, Lead.symbols]

end Phrase

/-- What stands in the innermost pair of brackets: an operand is due there, or one has ended. -/
inductive Front
  | due (lead : Lead)
  | ended (sum : Phrase .sum)

namespace Front

def symbols : Front → List Symbol
  | .due lead => lead.symbols
  | .ended sum => sum.symbols

def hasEnded : Front → Bool
  | .due _ => false
  | .ended _ => true

end Front

/-- The run lemma of reading: from any open brackets and any front, paired symbols without a defect
complete a sentence.  The induction is on what is still to be read. -/
theorem exists_phrase_of_paired (rest : List Symbol) (outer : List Lead) (front : Front)
    (hpaired : Paired outer.length rest) (hoperators : missingOperators front.hasEnded rest = 0)
    (hoperands : missingOperands front.hasEnded rest = 0) :
    ∃ phrase : Phrase .sum, phrase.symbols = Lead.stacked outer ++ front.symbols ++ rest := by
  induction rest generalizing outer front with
  | nil =>
      cases front with
      | due lead =>
          simp [Front.hasEnded, missingOperands] at hoperands
      | ended sum =>
          have houter : outer = [] := List.eq_nil_of_length_eq_zero hpaired
          subst houter
          exact ⟨sum, by simp [Lead.stacked, Front.symbols]⟩
  | cons symbol rest ih =>
      simp only [missingOperators, missingOperands, Nat.add_eq_zero_iff] at hoperators hoperands
      cases front with
      | due lead =>
          cases symbol with
          | number value =>
              -- A factor completes the lead to a sum, here and below at a closing bracket.
              rcases Phrase.exists_sum_of_lead lead (.number value) with ⟨sum, hsum⟩
              rcases ih outer (.ended sum) hpaired hoperators.2 hoperands.2 with ⟨phrase, hphrase⟩
              refine ⟨phrase, ?_⟩
              simp [hphrase, Front.symbols, hsum, Phrase.symbols]
          | opening =>
              rcases ih (lead :: outer) (.due none) hpaired hoperators.2 hoperands.2 with
                ⟨phrase, hphrase⟩
              refine ⟨phrase, ?_⟩
              simp [hphrase, Front.symbols, Lead.stacked, Lead.symbols]
          | operator op =>
              -- An operand is due, so neither an operator nor a closing bracket may stand here.
              simp [Front.hasEnded, Symbol.startsOperand] at hoperands
          | closing =>
              simp [Front.hasEnded, Symbol.startsOperand] at hoperands
      | ended sum =>
          cases symbol with
          | number value =>
              -- An operand has ended, so none may start without an operator.
              simp [Front.hasEnded, Symbol.startsOperand] at hoperators
          | opening =>
              simp [Front.hasEnded, Symbol.startsOperand] at hoperators
          | operator op =>
              rcases ih outer (.due (some (sum, op))) hpaired hoperators.2 hoperands.2 with
                ⟨phrase, hphrase⟩
              refine ⟨phrase, ?_⟩
              simp [hphrase, Front.symbols, Lead.symbols]
          | closing =>
              -- Some bracket is open: its lead takes the sum in brackets as its factor.
              rcases hpaired with ⟨hdepth, hrest⟩
              match outer, hdepth with
              | lead :: outer, _ =>
                  rcases Phrase.exists_sum_of_lead lead (.brackets sum) with ⟨whole, hwhole⟩
                  rcases ih outer (.ended whole) hrest hoperators.2 hoperands.2 with
                    ⟨phrase, hphrase⟩
                  refine ⟨phrase, ?_⟩
                  simp [hphrase, Front.symbols, hwhole, Phrase.symbols, Lead.stacked]

/-- Symbols whose brackets pair off are a sentence when no operator and no operand is missing. -/
theorem isSentence_of_paired {symbols : List Symbol} (hpaired : Paired 0 symbols)
    (hoperators : missingOperators false symbols = 0)
    (hoperands : missingOperands false symbols = 0) : IsSentence symbols := by
  rcases exists_phrase_of_paired symbols [] (.due none) hpaired hoperators hoperands with
    ⟨phrase, hphrase⟩
  exact ⟨phrase, by simpa [Lead.stacked, Front.symbols, Lead.symbols] using hphrase⟩

/-! ## Sentences have no defect -/

/-- A tree is one operand: it follows an operand in front wrongly, and then an operand has ended. -/
theorem Phrase.missingOperators_symbols_append {level : Level} (phrase : Phrase level)
    (ended : Bool) (rest : List Symbol) :
    missingOperators ended (phrase.symbols ++ rest) =
      ended.toNat + missingOperators true rest := by
  induction phrase generalizing ended rest with
  | sum left op additive right ihleft ihright =>
      simp [symbols, ihleft, missingOperators, Symbol.startsOperand, Symbol.endsOperand, ihright]
  | ofProduct inner ih =>
      exact ih ended rest
  | product left op multiplicative right ihleft ihright =>
      simp [symbols, ihleft, missingOperators, Symbol.startsOperand, Symbol.endsOperand, ihright]
  | ofFactor inner ih =>
      exact ih ended rest
  | number value =>
      simp [symbols, missingOperators, Symbol.startsOperand, Symbol.endsOperand]
  | brackets inner ih =>
      simp [symbols, missingOperators, Symbol.startsOperand, Symbol.endsOperand, ih]

theorem missingOperators_of_isSentence {symbols : List Symbol} (h : IsSentence symbols) :
    missingOperators false symbols = 0 := by
  rcases h with ⟨phrase, rfl⟩
  have hyield := phrase.missingOperators_symbols_append false []
  simpa [missingOperators] using hyield

end Abacus
