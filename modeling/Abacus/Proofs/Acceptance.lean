import Abacus.Proofs.Adjacency
import Abacus.Proofs.Reduction
import Abacus.Proofs.Sentence
import Mathlib.Data.List.Induction
import Mathlib.Data.List.Perm.Basic

/-!
# Acceptance — which texts have a value

No stage looks at neighbouring tokens: a text fails by brackets that do not pair off, by an operator
that finds fewer than two operands, or by a wrong number of operands at the end.

* `Postfix.exists_phrase_of_run` — what the machine runs to one operand is the notation of a tree;
* `Postfix.perm_of_balanced`, `Postfix.paired_of_balanced` — what conversion keeps of the tokens;
* `evaluate_eq_ok_iff` — hence a text has a value exactly when its tokens have the notation of a
  sentence with this value, and they are a sentence themselves where operands never meet.
-/

namespace Abacus

/-! ## From notation to trees -/

namespace Phrase

/-- One operation on two sums, in brackets where the grammar asks for them. -/
def join (left : Phrase .sum) (right : Phrase .sum) : Operator → Phrase .sum
  | .plus => .sum left .plus (Or.inl rfl) (.ofFactor (.brackets right))
  | .minus => .sum left .minus (Or.inr rfl) (.ofFactor (.brackets right))
  | .times =>
      .ofProduct (.product (.ofFactor (.brackets left)) .times (Or.inl rfl) (.brackets right))
  | .divide =>
      .ofProduct (.product (.ofFactor (.brackets left)) .divide (Or.inr rfl) (.brackets right))

theorem items_join (left right : Phrase .sum) (op : Operator) :
    (join left right op).items = left.items ++ right.items ++ [.operator op] := by
  cases op <;> rfl

theorem value_join (left right : Phrase .sum) (op : Operator) :
    (join left right op).value =
      left.value >>= fun first => right.value >>= fun second => op.apply first second := by
  cases op <;> rfl

end Phrase

namespace Postfix

/-- Every operand that a run leaves is the value of a tree, and the items are the notations of these
trees, the deepest operand first.  The induction takes the last item off. -/
theorem exists_phrases_of_run (items : List Item) (stack : List Binary64)
    (hrun : run items = .ok stack) :
    ∃ trees : List (Phrase .sum), items = trees.reverse.flatMap Phrase.items ∧
      trees.map Phrase.value = stack.map .ok := by
  induction items using List.reverseRecOn generalizing stack with
  | nil =>
      cases hrun
      exact ⟨[], rfl, rfl⟩
  | append_singleton items item ih =>
      cases item with
      | number value =>
          -- The number is a tree of its own on top of the others.
          rw [run_append_number, bind_eq_ok_iff] at hrun
          rcases hrun with ⟨below, hbelow, hstack⟩
          cases hstack
          rcases ih below hbelow with ⟨trees, hitems, hvalues⟩
          refine ⟨.ofProduct (.ofFactor (.number value)) :: trees, ?_, ?_⟩
          · simp [hitems, Phrase.items]
          · simp [hvalues, Phrase.value]
      | operator op =>
          -- The two trees on top are joined; the lower ones keep their items and values.
          rw [run_append_operator, bind_eq_ok_iff] at hrun
          rcases hrun with ⟨below, hbelow, hreplace⟩
          rcases Stacks.applyTop_eq_ok hreplace with ⟨right, left, rest, result, rfl, happly, rfl⟩
          rcases ih _ hbelow with ⟨trees, hitems, hvalues⟩
          rcases List.map_eq_cons_iff.1 hvalues with ⟨second, tail, rfl, hsecond, htail⟩
          rcases List.map_eq_cons_iff.1 htail with ⟨first, trees, rfl, hfirst, hrest⟩
          refine ⟨.join first second op :: trees, ?_, ?_⟩
          · simp [hitems, Phrase.items_join]
          · simp [hrest, Phrase.value_join, hfirst, hsecond, happly]

theorem exists_phrase_of_run {items : List Item} {value : Binary64}
    (hrun : run items = .ok [value]) :
    ∃ phrase : Phrase .sum, items = phrase.items ∧ phrase.value = .ok value := by
  rcases exists_phrases_of_run items [value] hrun with ⟨trees, hitems, hvalues⟩
  rcases List.map_eq_singleton_iff.1 hvalues with ⟨phrase, rfl, hvalue⟩
  exact ⟨phrase, by simpa using hitems, hvalue⟩

/-- Both passes succeed when the brackets pair off and the machine ends with one operand. -/
theorem outcome_eq_ok_iff {p : Postfix} {value : Binary64} :
    p.outcome = .ok value ↔ p.ending = .balanced ∧ run p.items = .ok [value] := by
  rcases p with ⟨items, ending⟩
  unfold outcome
  rw [bind_eq_ok_iff]
  constructor
  · rintro ⟨stack, hrun, hstack⟩
    match ending, stack with
    | .balanced, [only] =>
        cases hstack
        exact ⟨rfl, hrun⟩
  · rintro ⟨hending, hrun⟩
    cases hending
    exact ⟨[value], hrun, rfl⟩

/-! ## What conversion keeps -/

/-- Brackets leave no item. -/
def Item.ofSymbol? : Symbol → Option Item
  | .number value => some (.number value)
  | .operator op => some (.operator op)
  | .opening | .closing => none

def Item.ofPending? : Pending → Option Item
  | .operator op => some (.operator op)
  | .barrier => none

/-- A release moves operators from the waiting ones to the items, in the order in which they wait. -/
theorem release_append (level : Nat) (items : List Item) (pending : List Pending) :
    (release level items pending).1 ++ (release level items pending).2.filterMap Item.ofPending? =
      items ++ pending.filterMap Item.ofPending? := by
  induction pending generalizing items with
  | nil =>
      simp [release]
  | cons head pending ih =>
      cases head with
      | barrier =>
          simp [release]
      | operator op =>
          by_cases hlevel : level ≤ op.precedence
          · simp [release, hlevel, ih, Item.ofPending?]
          · simp [release, hlevel]

theorem count_barrier_release (level : Nat) (items : List Item) (pending : List Pending) :
    (release level items pending).2.count .barrier = pending.count .barrier := by
  induction pending generalizing items with
  | nil =>
      rfl
  | cons head pending ih =>
      cases head with
      | barrier =>
          rfl
      | operator op =>
          by_cases hlevel : level ≤ op.precedence
          · simp [release, hlevel, ih]
          · simp [release, hlevel]

theorem release_of_balanced_nil {items final : List Item} {pending : List Pending}
    (h : convert items pending [] = ⟨final, .balanced⟩) : release 0 items pending = (final, []) := by
  unfold convert at h
  rcases hrelease : release 0 items pending with ⟨released, waiting⟩
  rw [hrelease] at h
  cases waiting with
  | nil =>
      cases h
      rfl
  | cons head waiting =>
      cases h

theorem release_of_balanced_closing {items final : List Item} {pending : List Pending}
    {position : Nat} {tokens : List Token}
    (h : convert items pending (⟨.closing, position⟩ :: tokens) = ⟨final, .balanced⟩) :
    ∃ released waiting, release 0 items pending = (released, .barrier :: waiting) ∧
      convert released waiting tokens = ⟨final, .balanced⟩ := by
  simp only [convert] at h
  rcases hrelease : release 0 items pending with ⟨released, waiting⟩
  rw [hrelease] at h
  -- Only a barrier on top lets conversion go on, and otherwise the ending is another one.
  cases waiting with
  | nil =>
      cases h
  | cons head waiting =>
      cases head with
      | operator op =>
          cases h
      | barrier =>
          exact ⟨released, waiting, rfl, h⟩

/-- Conversion that ends in balance has used every number and every operator exactly once. -/
theorem perm_of_balanced (tokens : List Token) (items : List Item) (pending : List Pending)
    {final : List Item} (h : convert items pending tokens = ⟨final, .balanced⟩) :
    final.Perm
      (items ++ pending.filterMap Item.ofPending? ++
        (tokens.map Token.symbol).filterMap Item.ofSymbol?) := by
  induction tokens generalizing items pending with
  | nil =>
      have hkept := release_append 0 items pending
      rw [release_of_balanced_nil h] at hkept
      simpa using List.Perm.of_eq hkept
  | cons token tokens ih =>
      obtain ⟨symbol, position⟩ := token
      cases symbol with
      | number value =>
          -- The number overtakes the operators that wait.
          refine (ih (items ++ [.number value]) pending h).trans ?_
          simpa [Item.ofSymbol?] using List.Perm.append_left items List.perm_middle.symm
      | opening =>
          have hperm := ih items (.barrier :: pending) h
          simpa [Item.ofSymbol?, Item.ofPending?, List.filterMap_cons] using hperm
      | closing =>
          have hkept := release_append 0 items pending
          rcases release_of_balanced_closing h with ⟨released, waiting, hrelease, hrest⟩
          rw [hrelease] at hkept
          have hperm := ih released waiting hrest
          simpa [Item.ofSymbol?, Item.ofPending?, List.filterMap_cons, ← hkept] using hperm
      | operator op =>
          -- The operator itself waits behind those that it does not release.
          have hkept := release_append op.precedence items pending
          refine (ih _ _ h).trans ?_
          rw [← hkept]
          simpa [Item.ofSymbol?, Item.ofPending?] using
            List.Perm.append_left (release op.precedence items pending).1 List.perm_middle.symm

/-- Conversion that ends in balance has met the closing bracket of every barrier. -/
theorem paired_of_balanced (tokens : List Token) (items : List Item) (pending : List Pending)
    {final : List Item} (h : convert items pending tokens = ⟨final, .balanced⟩) :
    Paired (pending.count .barrier) (tokens.map Token.symbol) := by
  induction tokens generalizing items pending with
  | nil =>
      have hcount := count_barrier_release 0 items pending
      rw [release_of_balanced_nil h] at hcount
      exact hcount.symm
  | cons token tokens ih =>
      obtain ⟨symbol, position⟩ := token
      cases symbol with
      | number value =>
          exact ih (items ++ [.number value]) pending h
      | opening =>
          simpa [Paired] using ih items (.barrier :: pending) h
      | closing =>
          have hcount := count_barrier_release 0 items pending
          rcases release_of_balanced_closing h with ⟨released, waiting, hrelease, hrest⟩
          rw [hrelease] at hcount
          have hpaired := ih released waiting hrest
          simpa [Paired, ← hcount] using hpaired
      | operator op =>
          have hcount := count_barrier_release op.precedence items pending
          have hpaired := ih _ _ h
          simpa [Paired, ← hcount] using hpaired

/-! ## Counting -/

def Item.isNumber : Item → Bool
  | .number _ => true
  | .operator _ => false

def Item.isOperator : Item → Bool
  | .number _ => false
  | .operator _ => true

theorem Item.countP_isNumber (symbols : List Symbol) :
    (symbols.filterMap Item.ofSymbol?).countP Item.isNumber =
      symbols.countP Symbol.isNumber := by
  rw [List.countP_filterMap]
  congr 1
  funext symbol
  cases symbol <;> rfl

theorem Item.countP_isOperator (symbols : List Symbol) :
    (symbols.filterMap Item.ofSymbol?).countP Item.isOperator =
      symbols.countP Symbol.isOperator := by
  rw [List.countP_filterMap]
  congr 1
  funext symbol
  cases symbol <;> rfl

theorem countP_items {level : Level} (phrase : Phrase level) :
    phrase.items.countP Item.isNumber = phrase.items.countP Item.isOperator + 1 := by
  induction phrase with
  | sum left op additive right ihleft ihright =>
      simp [Phrase.items, ihleft, ihright, Item.isNumber, Item.isOperator]
      omega
  | ofProduct inner ih =>
      exact ih
  | product left op multiplicative right ihleft ihright =>
      simp [Phrase.items, ihleft, ihright, Item.isNumber, Item.isOperator]
      omega
  | ofFactor inner ih =>
      exact ih
  | number value =>
      rfl
  | brackets inner ih =>
      exact ih

/-- Tokens with the notation of a tree have one number more than operators. -/
theorem countP_of_ofTokens {tokens : List Token} {phrase : Phrase .sum}
    (h : ofTokens tokens = ⟨phrase.items, .balanced⟩) :
    (tokens.map Token.symbol).countP Symbol.isNumber =
      (tokens.map Token.symbol).countP Symbol.isOperator + 1 := by
  have hperm : phrase.items.Perm ((tokens.map Token.symbol).filterMap Item.ofSymbol?) := by
    simpa using perm_of_balanced tokens [] [] h
  -- The tree has one number more than operators, and conversion has kept both counts.
  have hnumbers := (hperm.countP_eq Item.isNumber).trans (Item.countP_isNumber _)
  have hoperators := (hperm.countP_eq Item.isOperator).trans (Item.countP_isOperator _)
  have htree := countP_items phrase
  omega

/-- Tokens with the notation of a tree lack as many operands as operators. -/
theorem missingOperands_of_ofTokens {tokens : List Token} {phrase : Phrase .sum}
    (h : ofTokens tokens = ⟨phrase.items, .balanced⟩) :
    missingOperands false (tokens.map Token.symbol) =
      missingOperators false (tokens.map Token.symbol) := by
  have hcount := countP_of_ofTokens h
  have hlaw := countP_add_missing false (tokens.map Token.symbol)
  simp only [Bool.toNat_false] at hlaw
  omega

end Postfix

/-! ## Texts with a value -/

/-- Tokens have a value exactly when they have the notation of a tree with this value. -/
theorem evaluateTokens_eq_ok_iff {tokens : List Token} {value : Binary64} :
    evaluateTokens tokens = .ok value ↔
      ∃ phrase : Phrase .sum, Postfix.ofTokens tokens = ⟨phrase.items, .balanced⟩ ∧
        phrase.value = .ok value := by
  rw [evaluateTokens_eq_outcome]
  constructor
  · intro hvalue
    rcases Postfix.outcome_eq_ok_iff.1 hvalue with ⟨hending, hrun⟩
    rcases Postfix.exists_phrase_of_run hrun with ⟨phrase, hitems, hphrase⟩
    refine ⟨phrase, ?_, hphrase⟩
    rw [← hitems, ← hending]
  · rintro ⟨phrase, hform, hphrase⟩
    rw [hform, phrase.outcome_items, hphrase]

theorem evaluate_eq_ok_iff_exists_phrase {strict : Bool} {text : String} {value : Binary64} :
    evaluate strict text = .ok value ↔
      ∃ (tokens : List Token) (phrase : Phrase .sum), Token.scan strict text = .ok tokens ∧
        Postfix.ofTokens tokens = ⟨phrase.items, .balanced⟩ ∧ phrase.value = .ok value := by
  unfold evaluate
  rw [bind_eq_ok_iff]
  simp only [evaluateTokens_eq_ok_iff, exists_and_left]

/-- A text has a value exactly when its tokens have the notation of a sentence with this value.  The
tokens of a text with a value are a sentence themselves exactly when no operand follows an operand in
them. -/
theorem evaluate_eq_ok_iff (strict : Bool) (text : String) (value : Binary64) :
    (evaluate strict text = .ok value ↔
      ∃ (tokens : List Token) (phrase : Phrase .sum), Token.scan strict text = .ok tokens ∧
        Postfix.ofTokens tokens = ⟨phrase.items, .balanced⟩ ∧ phrase.value = .ok value) ∧
    (evaluate strict text = .ok value →
      ∃ tokens : List Token, Token.scan strict text = .ok tokens ∧
        (IsSentence (tokens.map Token.symbol) ↔
          missingOperators false (tokens.map Token.symbol) = 0)) := by
  refine ⟨evaluate_eq_ok_iff_exists_phrase, ?_⟩
  intro hvalue
  rcases evaluate_eq_ok_iff_exists_phrase.1 hvalue with ⟨tokens, phrase, hscan, hnotation, _⟩
  refine ⟨tokens, hscan, missingOperators_of_isSentence, ?_⟩
  intro hoperators
  have hpaired := Postfix.paired_of_balanced tokens [] [] hnotation
  -- There are as many missing operands as missing operators, so none is missing either.
  have hoperands := Postfix.missingOperands_of_ofTokens hnotation
  exact isSentence_of_paired hpaired hoperators (hoperands.trans hoperators)

/-- The operator finds both operands although it stands behind them: a text with a value whose tokens
are no sentence. -/
theorem evaluate_operator_behind_operands :
    evaluate false "1 2+" = .ok (.ofUnits false (3 * oneUnits) 1) ∧
      ¬ ∃ tokens : List Token, Token.scan false "1 2+" = .ok tokens ∧
        IsSentence (tokens.map Token.symbol) := by
  have hvalue : evaluate false "1 2+" = .ok (.ofUnits false (3 * oneUnits) 1) := by
    decide +kernel
  refine ⟨hvalue, ?_⟩
  rintro ⟨tokens, hscan, hsentence⟩
  have htokens : Token.scan false "1 2+" =
      .ok [⟨.number .one, 0⟩, ⟨.number (.ofUnits false (2 * oneUnits) 1), 2⟩,
        ⟨.operator .plus, 3⟩] := by
    decide +kernel
  rw [htokens] at hscan
  cases hscan
  have hoperators := missingOperators_of_isSentence hsentence
  simp [missingOperators, Symbol.startsOperand, Symbol.endsOperand] at hoperators

end Abacus
