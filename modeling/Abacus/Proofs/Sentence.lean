import Abacus.Grammar
import Abacus.Proofs.TwoPass

/-!
# Sentences — an infix sentence has the outcome of its parse tree

A tree has a postfix notation of its own, read off by recursion.  Conversion finds the same notation
in any context that leaves the tree alone: the operators that wait below bind weaker than the level
of the tree, and what follows binds no tighter.

* `Phrase.items` — the notation of a tree;
* `Postfix.Reads` — tokens that conversion turns into given items in every such context;
* `Phrase.reads_items` — the tokens of a tree are read as its notation;
* `Phrase.foldlM_runItem_items` — the machine runs the notation to the value of the tree;
* `evaluate_sentence` — hence a text that scans to a sentence has the outcome of the tree.
-/

namespace Abacus

/-- The least precedence of the operators that a tree of the level joins outside brackets. -/
def Level.precedence : Level → Nat
  | .sum => 1
  | .product => 2
  | .factor => 3

/-! ## Contexts -/

namespace Postfix

/-- An operator of precedence at least `level` releases none of the waiting operators. -/
def Blocks (level : Nat) : List Pending → Prop
  | .operator op :: _ => op.precedence < level
  | _ => True

/-- The next token, if any, releases every waiting operator of precedence at least `level`. -/
def Follows (level : Nat) : List Token → Prop
  | [] => True
  | ⟨.closing, _⟩ :: _ => True
  | ⟨.operator op, _⟩ :: _ => op.precedence ≤ level
  | _ => False

theorem Blocks.mono {lower level : Nat} {pending : List Pending} (hle : lower ≤ level)
    (hblocks : Blocks lower pending) : Blocks level pending := by
  match pending, hblocks with
  | [], _ => exact trivial
  | .barrier :: _, _ => exact trivial
  | .operator op :: _, hlt => exact Nat.lt_of_lt_of_le hlt hle

theorem Follows.mono {lower level : Nat} {tokens : List Token} (hle : lower ≤ level)
    (hfollows : Follows lower tokens) : Follows level tokens := by
  match tokens, hfollows with
  | [], _ => exact trivial
  | ⟨.closing, _⟩ :: _, _ => exact trivial
  | ⟨.operator op, _⟩ :: _, hop => exact Nat.le_trans hop hle

theorem release_of_blocks {level : Nat} {pending : List Pending} (hblocks : Blocks level pending)
    (items : List Item) : release level items pending = (items, pending) := by
  match pending, hblocks with
  | [], _ => rfl
  | .barrier :: _, _ => rfl
  | .operator op :: _, hlt => simp [release, Nat.not_le_of_lt hlt]

/-- An operator that the next token releases may be released at once. -/
theorem convert_waiting {op : Operator} {tokens : List Token}
    (hfollows : Follows op.precedence tokens) (items : List Item) (pending : List Pending) :
    convert items (.operator op :: pending) tokens =
      convert (items ++ [.operator op]) pending tokens := by
  match tokens, hfollows with
  | [], _ => simp [convert, release]
  | ⟨.closing, _⟩ :: _, _ => simp [convert, release]
  | ⟨.operator next, _⟩ :: _, hnext =>
      have hle : next.precedence ≤ op.precedence := hnext
      simp [convert, release, hle]

/-- In every context that leaves a tree of the level alone, the tokens are read as the items. -/
def Reads (level : Nat) (tokens : List Token) (items : List Item) : Prop :=
  ∀ (before : List Item) (pending : List Pending) (rest : List Token),
    Blocks level pending → Follows level rest →
      convert before pending (tokens ++ rest) = convert (before ++ items) pending rest

namespace Reads

variable {level : Nat} {left right inner : List Token} {first second items : List Item}

theorem of_tighter (hreads : Reads (level + 1) inner items) : Reads level inner items := by
  intro before pending rest hblocks hfollows
  exact hreads before pending rest (hblocks.mono (Nat.le_succ level))
    (hfollows.mono (Nat.le_succ level))

theorem number (value : Binary64) (position : Nat) :
    Reads level [⟨.number value, position⟩] [.number value] := by
  intro before pending rest _ _
  simp [convert]

theorem brackets (hreads : Reads 1 inner items) (opening closing : Nat) :
    Reads level (⟨.opening, opening⟩ :: (inner ++ [⟨.closing, closing⟩])) items := by
  intro before pending rest _ _
  -- Inside, the barrier blocks and the closing bracket follows, whatever the context outside is.
  have hinner := hreads before (.barrier :: pending) (⟨.closing, closing⟩ :: rest) trivial trivial
  simpa [convert, release] using hinner

/-- The operands of an operator are read one after the other, and then the operator is released:
the right operand binds tighter than the operator, and what follows does not. -/
theorem binary {op : Operator} (hlevel : op.precedence = level) (hleft : Reads level left first)
    (hright : Reads (level + 1) right second) (position : Nat) :
    Reads level (left ++ ⟨.operator op, position⟩ :: right)
      (first ++ second ++ [.operator op]) := by
  subst hlevel
  intro before pending rest hblocks hfollows
  -- Both operands see contexts of their own: the operator follows the left one and waits below the
  -- right one.
  have hwaiting : Blocks (op.precedence + 1) (.operator op :: pending) :=
    Nat.lt_succ_self op.precedence
  have hend : Follows (op.precedence + 1) rest := hfollows.mono (Nat.le_succ op.precedence)
  calc
    convert before pending (left ++ ⟨.operator op, position⟩ :: right ++ rest)
        = convert (before ++ first) pending (⟨.operator op, position⟩ :: (right ++ rest)) := by
          rw [List.append_assoc]
          exact hleft before pending _ hblocks (Nat.le_refl op.precedence)
    _ = convert (before ++ first) (.operator op :: pending) (right ++ rest) := by
          simp [convert, release_of_blocks hblocks]
    _ = convert (before ++ first ++ second) (.operator op :: pending) rest :=
          hright _ _ rest hwaiting hend
    _ = convert (before ++ (first ++ second ++ [.operator op])) pending rest := by
          rw [convert_waiting hfollows]
          simp

end Reads

end Postfix

/-! ## Trees -/

namespace Phrase

/-- Operands stand before their operator, and brackets are gone. -/
def items : {level : Level} → Phrase level → List Postfix.Item
  | _, .sum left op _ right => left.items ++ right.items ++ [.operator op]
  | _, .ofProduct inner => inner.items
  | _, .product left op _ right => left.items ++ right.items ++ [.operator op]
  | _, .ofFactor inner => inner.items
  | _, .number value => [.number value]
  | _, .brackets inner => inner.items

theorem precedence_of_additive {op : Operator} (h : op = .plus ∨ op = .minus) :
    op.precedence = 1 := by
  rcases h with rfl | rfl <;> rfl

theorem precedence_of_multiplicative {op : Operator} (h : op = .times ∨ op = .divide) :
    op.precedence = 2 := by
  rcases h with rfl | rfl <;> rfl

/-- Tokens of an operation are those of its operands around the token of the operator. -/
theorem reads_operation {leftLevel rightLevel : Level} {level : Nat} {left : Phrase leftLevel}
    {op : Operator} {right : Phrase rightLevel} {tokens : List Token}
    (hlevel : op.precedence = level)
    (hyield : tokens.map Token.symbol = left.symbols ++ .operator op :: right.symbols)
    (hleft : ∀ before : List Token, before.map Token.symbol = left.symbols →
      Postfix.Reads level before left.items)
    (hright : ∀ after : List Token, after.map Token.symbol = right.symbols →
      Postfix.Reads (level + 1) after right.items) :
    Postfix.Reads level tokens (left.items ++ right.items ++ [.operator op]) := by
  rcases List.map_eq_append_iff.1 hyield with ⟨before, rest, rfl, hbefore, hrest⟩
  rcases List.map_eq_cons_iff.1 hrest with ⟨⟨symbol, position⟩, after, rfl, rfl, hafter⟩
  exact Postfix.Reads.binary hlevel (hleft before hbefore) (hright after hafter) position

theorem reads_items {level : Level} (phrase : Phrase level) (tokens : List Token)
    (hyield : tokens.map Token.symbol = phrase.symbols) :
    Postfix.Reads level.precedence tokens phrase.items := by
  induction phrase generalizing tokens with
  | sum left op additive right ihleft ihright =>
      exact reads_operation (precedence_of_additive additive) hyield ihleft ihright
  | ofProduct inner ih =>
      exact Postfix.Reads.of_tighter (ih tokens hyield)
  | product left op multiplicative right ihleft ihright =>
      exact reads_operation (precedence_of_multiplicative multiplicative) hyield ihleft ihright
  | ofFactor inner ih =>
      exact Postfix.Reads.of_tighter (ih tokens hyield)
  | number value =>
      rcases List.map_eq_singleton_iff.1 hyield with ⟨⟨symbol, position⟩, rfl, rfl⟩
      exact Postfix.Reads.number value position
  | brackets inner ih =>
      -- The tokens are those of the inner sum between a token for each bracket.
      rcases List.map_eq_cons_iff.1 hyield with ⟨⟨symbol, opening⟩, tail, rfl, rfl, htail⟩
      rcases List.map_eq_append_iff.1 htail with ⟨body, last, rfl, hbody, hlast⟩
      rcases List.map_eq_singleton_iff.1 hlast with ⟨⟨symbol, closing⟩, rfl, rfl⟩
      exact Postfix.Reads.brackets (ih body hbody) opening closing

theorem ofTokens_eq {tokens : List Token} (phrase : Phrase .sum)
    (hyield : tokens.map Token.symbol = phrase.symbols) :
    Postfix.ofTokens tokens = ⟨phrase.items, .balanced⟩ := by
  have hreads := phrase.reads_items tokens hyield [] [] [] trivial trivial
  simpa [Postfix.ofTokens, Postfix.convert, Postfix.release] using hreads

/-- The machine does the operations of a tree in the order of its recursion, above any operands. -/
theorem foldlM_runItem_items {level : Level} (phrase : Phrase level) (stack : List Binary64) :
    phrase.items.foldlM Postfix.runItem stack =
      phrase.value >>= fun value => .ok (value :: stack) := by
  induction phrase generalizing stack with
  | sum left op additive right ihleft ihright =>
      -- The right operand runs above the value of the left one, so the stack is general.
      simp [items, value, ihleft, ihright, Postfix.runItem]
  | ofProduct inner ih =>
      exact ih stack
  | product left op multiplicative right ihleft ihright =>
      simp [items, value, ihleft, ihright, Postfix.runItem]
  | ofFactor inner ih =>
      exact ih stack
  | number value =>
      rfl
  | brackets inner ih =>
      exact ih stack

theorem run_items {level : Level} (phrase : Phrase level) :
    Postfix.run phrase.items = phrase.value >>= fun value => .ok [value] :=
  phrase.foldlM_runItem_items []

theorem outcome_items (phrase : Phrase .sum) :
    (Postfix.mk phrase.items .balanced).outcome = phrase.value := by
  simp [Postfix.outcome, run_items]

end Phrase

/-! ## Faults of sentences -/

/-- The faults of operations on numbers, as opposed to those of the notation. -/
def Fault.IsArithmetic (fault : Fault) : Prop :=
  fault.kind = .divisionByZero ∨ fault.kind = .numericOverflow

namespace Fault.IsArithmetic

variable {op : Operator} {fault : Fault}

theorem of_apply {left right : Binary64} (h : op.apply left right = .error fault) :
    fault.IsArithmetic := by
  unfold Operator.apply at h
  split at h
  · -- The divisor is a zero.
    cases h
    exact Or.inl rfl
  · dsimp only at h
    split at h
    · cases h
    · -- The result is not finite.
      cases h
      exact Or.inr rfl

/-- The first fault of an operation on two outcomes is that of an operand or of the operator. -/
theorem of_operation {left right : Outcome} (hleft : left = .error fault → fault.IsArithmetic)
    (hright : right = .error fault → fault.IsArithmetic)
    (h : (do op.apply (← left) (← right)) = .error fault) : fault.IsArithmetic := by
  rcases bind_eq_error_iff.1 h with hfirst | ⟨a, _, hrest⟩
  · exact hleft hfirst
  · rcases bind_eq_error_iff.1 hrest with hsecond | ⟨b, _, happly⟩
    · exact hright hsecond
    · exact of_apply happly

theorem of_value {level : Level} {phrase : Phrase level} (h : phrase.value = .error fault) :
    fault.IsArithmetic := by
  induction phrase with
  | sum left op additive right ihleft ihright =>
      exact of_operation ihleft ihright h
  | ofProduct inner ih =>
      exact ih h
  | product left op multiplicative right ihleft ihright =>
      exact of_operation ihleft ihright h
  | ofFactor inner ih =>
      exact ih h
  | number value =>
      cases h
  | brackets inner ih =>
      exact ih h

theorem position_eq_none (h : fault.IsArithmetic) : fault.position = none := by
  cases fault <;> simp_all [IsArithmetic, Fault.kind, Fault.position]

theorem kind_ne_malformedExpression (h : fault.IsArithmetic) :
    fault.kind ≠ .malformedExpression := by
  rcases h with hkind | hkind
  · simp [hkind]
  · simp [hkind]

end Fault.IsArithmetic

/-! ## Whole texts -/

/-- A text that scans to the yield of a tree has the outcome of the tree, value or fault; the faults
are those of operations, so they have no position and never call the text malformed. -/
theorem evaluate_sentence (strict : Bool) (text : String) (tokens : List Token)
    (phrase : Phrase .sum) (hscan : Token.scan strict text = .ok tokens)
    (hyield : tokens.map Token.symbol = phrase.symbols) :
    evaluate strict text = phrase.value ∧
      ∀ fault, evaluate strict text = .error fault →
        fault.kind ≠ .malformedExpression ∧ fault.position = none := by
  have hvalue : evaluate strict text = phrase.value := by
    calc
      evaluate strict text = evaluateTokens tokens := by simp [evaluate, hscan]
      _ = (Postfix.ofTokens tokens).outcome := evaluateTokens_eq_outcome tokens
      _ = phrase.value := by rw [phrase.ofTokens_eq hyield, phrase.outcome_items]
  refine ⟨hvalue, ?_⟩
  intro fault hfault
  have harithmetic := Fault.IsArithmetic.of_value (hvalue.symm.trans hfault)
  exact ⟨harithmetic.kind_ne_malformedExpression, harithmetic.position_eq_none⟩

/-- The quotient is taken first, although the difference is read first. -/
theorem evaluate_sentence_quotient_first :
    Token.scan true "1-1/0" =
        .ok [⟨.number .one, 0⟩, ⟨.operator .minus, 1⟩, ⟨.number .one, 2⟩,
          ⟨.operator .divide, 3⟩, ⟨.number .zero, 4⟩] ∧
      evaluate true "1-1/0" =
        (Phrase.sum (.ofProduct (.ofFactor (.number .one))) .minus (Or.inr rfl)
          (.product (.ofFactor (.number .one)) .divide (Or.inr rfl) (.number .zero))).value ∧
      evaluate true "1-1/0" = .error (.divisionByZero .one .zero) ∧
      Fault.kind (.divisionByZero .one .zero) ≠ .malformedExpression ∧
      Fault.position (.divisionByZero .one .zero) = none := by
  have hscan : Token.scan true "1-1/0" =
      .ok [⟨.number .one, 0⟩, ⟨.operator .minus, 1⟩, ⟨.number .one, 2⟩,
        ⟨.operator .divide, 3⟩, ⟨.number .zero, 4⟩] := by
    decide +kernel
  have hfault : evaluate true "1-1/0" = .error (.divisionByZero .one .zero) := by
    decide +kernel
  have hsentence := evaluate_sentence true "1-1/0" _
    (.sum (.ofProduct (.ofFactor (.number .one))) .minus (Or.inr rfl)
      (.product (.ofFactor (.number .one)) .divide (Or.inr rfl) (.number .zero))) hscan rfl
  exact ⟨hscan, hsentence.1, hfault, hsentence.2 _ hfault⟩

end Abacus
