import Abacus.Proofs.Sentence
import Mathlib.Data.List.Forall2

/-!
# Lockstep — what the values of the numbers do not decide

Tokens that differ in the values of their numbers alone are evaluated in lockstep: equally many operands
and the same operators wait at every point, so what is malformed on one side is malformed on the other in
the same way.  Only operations look at values, and there either side may stop on its own:

* `Token.Alike`, `SameShape` — tokens that differ in the values of their numbers alone;
* `Lockstep` — two computations that go alike as long as no operation fails;
* `Stacks.step_lockstep`, `Stacks.run_lockstep` — one token, and any tokens, in lockstep;
* `verdict_independent_of_numbers` — hence the structural verdict is that of the shape.
-/

namespace Abacus

/-! ## Shapes -/

/-- One symbol, or two numbers of any values. -/
inductive Symbol.Alike : Symbol → Symbol → Prop
  | number (x y : Binary64) : Alike (.number x) (.number y)
  | operator (op : Operator) : Alike (.operator op) (.operator op)
  | opening : Alike .opening .opening
  | closing : Alike .closing .closing

structure Token.Alike (a b : Token) : Prop where
  symbol : a.symbol.Alike b.symbol
  position : a.position = b.position

/-- Equally many tokens, alike one by one. -/
def SameShape (tokens others : List Token) : Prop := List.Forall₂ Token.Alike tokens others

/-- Equally many operands, and the same operators and barriers. -/
structure Stacks.Alike (s t : Stacks) : Prop where
  operands : s.operands.length = t.operands.length
  pending : s.pending = t.pending

/-! ## Computations in lockstep -/

/-- Both succeed with related results, or both fail with one fault.  Where an operation fails on one
side, nothing is said of the other. -/
inductive Lockstep {α β : Type} (R : α → β → Prop) : Except Fault α → Except Fault β → Prop
  | ok {a : α} {b : β} (h : R a b) : Lockstep R (.ok a) (.ok b)
  | same (fault : Fault) : Lockstep R (.error fault) (.error fault)
  | left {fault : Fault} (h : fault.IsArithmetic) (right : Except Fault β) :
      Lockstep R (.error fault) right
  | right {fault : Fault} (h : fault.IsArithmetic) (left : Except Fault α) :
      Lockstep R left (.error fault)

namespace Lockstep

variable {α β γ δ σ τ : Type} {R : α → β → Prop} {S : γ → δ → Prop}

/-- Chains are in lockstep when their first steps are and what follows is. -/
theorem bind {x : Except Fault α} {y : Except Fault β} {next : α → Except Fault γ}
    {next' : β → Except Fault δ} (hfirst : Lockstep R x y)
    (hrest : ∀ a b, R a b → Lockstep S (next a) (next' b)) :
    Lockstep S (x >>= next) (y >>= next') := by
  cases hfirst with
  | ok h => exact hrest _ _ h
  | same fault => exact Lockstep.same fault
  | left h => exact Lockstep.left h _
  | right h => exact Lockstep.right h _

/-- What is done with the results of both sides keeps them in lockstep. -/
theorem map {x : Except Fault α} {y : Except Fault β} {f : α → γ} {g : β → δ}
    (h : Lockstep R x y) (hfg : ∀ a b, R a b → S (f a) (g b)) :
    Lockstep S (x.map f) (y.map g) := by
  cases h with
  | ok h => exact Lockstep.ok (hfg _ _ h)
  | same fault => exact Lockstep.same fault
  | left h => exact Lockstep.left h _
  | right h => exact Lockstep.right h _

/-- Runs over related lists are in lockstep when their steps are. -/
theorem foldlM {P : σ → τ → Prop} {step : σ → α → Except Fault σ} {step' : τ → β → Except Fault τ}
    (hstep : ∀ s t a b, P s t → R a b → Lockstep P (step s a) (step' t b)) {as : List α}
    {bs : List β} (hlists : List.Forall₂ R as bs) {s : σ} {t : τ} (hst : P s t) :
    Lockstep P (as.foldlM step s) (bs.foldlM step' t) := by
  induction hlists generalizing s t with
  | nil =>
      exact Lockstep.ok hst
  | cons hab _ ih =>
      simp only [List.foldlM_cons]
      exact (hstep s t _ _ hst hab).bind fun next next' hnext => ih hnext

end Lockstep

/-! ## One operation -/

/-- Whatever the operands are, an operation has a result or fails as an operation. -/
theorem Operator.apply_lockstep (op : Operator) (left right left' right' : Binary64) :
    Lockstep (fun _ _ => True) (op.apply left right) (op.apply left' right') := by
  cases happly : op.apply left right with
  | error fault =>
      exact Lockstep.left (Fault.IsArithmetic.of_apply happly) _
  | ok value =>
      cases happly' : op.apply left' right' with
      | error fault => exact Lockstep.right (Fault.IsArithmetic.of_apply happly') _
      | ok value' => exact Lockstep.ok trivial

namespace Stacks

/-- Whether there are two operands is a matter of their number. -/
theorem applyTop_lockstep (op : Operator) {operands others : List Binary64}
    (h : operands.length = others.length) :
    Lockstep (fun next next' => next.length = next'.length) (applyTop op operands)
      (applyTop op others) := by
  match operands, others, h with
  | [], [], _ => exact Lockstep.same _
  | [_], [_], _ => exact Lockstep.same _
  | right :: left :: rest, right' :: left' :: rest', h =>
      have hrest : rest.length = rest'.length := by simpa using h
      exact (op.apply_lockstep left right left' right').map fun _ _ _ => by simp [hrest]

/-- The waiting operators are the same on both sides, so both apply them down to the same one. -/
theorem reduce_lockstep (level : Nat) (pending : List Pending) {operands others : List Binary64}
    (h : operands.length = others.length) :
    Lockstep Stacks.Alike (reduce level operands pending) (reduce level others pending) := by
  induction pending generalizing operands others with
  | nil =>
      exact Lockstep.ok ⟨h, rfl⟩
  | cons head pending ih =>
      cases head with
      | barrier =>
          exact Lockstep.ok ⟨h, rfl⟩
      | operator op =>
          by_cases hlevel : level ≤ op.precedence
          · simp only [reduce, if_pos hlevel]
            exact (applyTop_lockstep op h).bind fun _ _ hnext => ih hnext
          · simp only [reduce, if_neg hlevel]
            exact Lockstep.ok ⟨h, rfl⟩

/-! ## Whole runs -/

variable {s t : Stacks}

/-- The same bracket closes on both sides, or is without a pair on both. -/
theorem close_lockstep (h : s.Alike t) (position : Nat) :
    Lockstep Stacks.Alike (s.close position) (t.close position) := by
  unfold close
  rw [← h.pending]
  apply (reduce_lockstep 0 s.pending h.operands).bind
  rintro ⟨operands, pending⟩ ⟨others, pending'⟩ ⟨hoperands, hpending⟩
  cases hpending
  cases pending with
  | nil =>
      exact Lockstep.same _
  | cons head pending =>
      cases head with
      | barrier => exact Lockstep.ok ⟨hoperands, rfl⟩
      | operator op => exact Lockstep.same _

/-- The step: alike tokens leave alike stacks alike. -/
theorem step_lockstep (h : s.Alike t) {a b : Token} (htokens : a.Alike b) :
    Lockstep Stacks.Alike (s.step a) (t.step b) := by
  obtain ⟨symbol, position⟩ := a
  obtain ⟨symbol', position'⟩ := b
  obtain ⟨hsymbol, hposition⟩ := htokens
  cases hposition
  cases hsymbol with
  | number x y =>
      exact Lockstep.ok ⟨congrArg (· + 1) h.operands, h.pending⟩
  | opening =>
      exact Lockstep.ok ⟨h.operands, congrArg (Pending.barrier :: ·) h.pending⟩
  | closing =>
      exact close_lockstep h position
  | operator op =>
      simp only [step]
      rw [← h.pending]
      apply (reduce_lockstep op.precedence s.pending h.operands).bind
      intro next next' hnext
      exact Lockstep.ok ⟨hnext.operands, congrArg (Pending.operator op :: ·) hnext.pending⟩

/-- The run: tokens of one shape keep the stacks alike to their end. -/
theorem run_lockstep (h : s.Alike t) {tokens others : List Token}
    (hshape : SameShape tokens others) :
    Lockstep Stacks.Alike (tokens.foldlM step s) (others.foldlM step t) := by
  refine Lockstep.foldlM ?_ hshape h
  intro s t a b halike htokens
  exact step_lockstep halike htokens

/-- The only operand is the value, and more than one are counted. -/
theorem result_lockstep {operands others : List Binary64} (h : operands.length = others.length) :
    Lockstep (fun _ _ => True) (result operands) (result others) := by
  match operands, others, h with
  | [], [], _ => exact Lockstep.same _
  | [_], [_], _ => exact Lockstep.ok trivial
  | _ :: _ :: _, _ :: _ :: _, h =>
      simp only [result, h]
      exact Lockstep.same _

theorem finish_lockstep (h : s.Alike t) :
    Lockstep (fun _ _ => True) s.finish t.finish := by
  unfold finish
  rw [← h.pending]
  apply (reduce_lockstep 0 s.pending h.operands).bind
  rintro ⟨operands, pending⟩ ⟨others, pending'⟩ ⟨hoperands, hpending⟩
  cases hpending
  cases pending with
  | nil => exact result_lockstep hoperands
  | cons head pending => exact Lockstep.same _

end Stacks

/-! ## Verdicts -/

theorem evaluateTokens_lockstep {tokens others : List Token} (hshape : SameShape tokens others) :
    Lockstep (fun _ _ => True) (evaluateTokens tokens) (evaluateTokens others) := by
  have hempty : Stacks.empty.Alike Stacks.empty := ⟨rfl, rfl⟩
  exact (Stacks.run_lockstep hempty hshape).bind fun _ _ h => Stacks.finish_lockstep h

/-- What is malformed with some numbers is malformed in the same way with any others, and what has
a value with some has one with any others, unless an operation fails on them. -/
theorem verdict_independent_of_numbers (tokens others : List Token)
    (hshape : SameShape tokens others) :
    (∀ fault, evaluateTokens tokens = .error fault → fault.kind = .malformedExpression →
      evaluateTokens others = .error fault ∨
        ∃ other, evaluateTokens others = .error other ∧ other.IsArithmetic) ∧
    (∀ value, evaluateTokens tokens = .ok value →
      (∃ other, evaluateTokens others = .ok other) ∨
        ∃ other, evaluateTokens others = .error other ∧ other.IsArithmetic) := by
  have hlockstep := evaluateTokens_lockstep hshape
  constructor
  · intro fault hfault hkind
    rw [hfault] at hlockstep
    cases hright : evaluateTokens others with
    | ok value =>
        rw [hright] at hlockstep
        -- A side that is malformed did not fail in an operation.
        cases hlockstep with
        | left h => exact absurd hkind h.kind_ne_malformedExpression
    | error other =>
        rw [hright] at hlockstep
        cases hlockstep with
        | same => exact Or.inl rfl
        | left h => exact absurd hkind h.kind_ne_malformedExpression
        | right h => exact Or.inr ⟨other, rfl, h⟩
  · intro value hvalue
    rw [hvalue] at hlockstep
    cases hright : evaluateTokens others with
    | ok other => exact Or.inl ⟨other, rfl⟩
    | error other =>
        rw [hright] at hlockstep
        cases hlockstep with
        | right h => exact Or.inr ⟨other, rfl, h⟩

/-- A bracket without its opening one is found after the division, which may fail first. -/
theorem verdict_independent_of_numbers_behind_division :
    SameShape [⟨.number .one, 0⟩, ⟨.operator .divide, 1⟩, ⟨.number .one, 2⟩, ⟨.closing, 3⟩]
        [⟨.number .one, 0⟩, ⟨.operator .divide, 1⟩, ⟨.number .zero, 2⟩, ⟨.closing, 3⟩] ∧
      evaluateTokens
          [⟨.number .one, 0⟩, ⟨.operator .divide, 1⟩, ⟨.number .one, 2⟩, ⟨.closing, 3⟩] =
        .error (.unmatchedClosing 3) ∧
      evaluateTokens
          [⟨.number .one, 0⟩, ⟨.operator .divide, 1⟩, ⟨.number .zero, 2⟩, ⟨.closing, 3⟩] ≠
        .error (.unmatchedClosing 3) ∧
      ∃ other,
        evaluateTokens
            [⟨.number .one, 0⟩, ⟨.operator .divide, 1⟩, ⟨.number .zero, 2⟩, ⟨.closing, 3⟩] =
          .error other ∧ other.IsArithmetic := by
  have hshape :
      SameShape [⟨.number .one, 0⟩, ⟨.operator .divide, 1⟩, ⟨.number .one, 2⟩, ⟨.closing, 3⟩]
        [⟨.number .one, 0⟩, ⟨.operator .divide, 1⟩, ⟨.number .zero, 2⟩, ⟨.closing, 3⟩] :=
    .cons ⟨.number _ _, rfl⟩ (.cons ⟨.operator _, rfl⟩ (.cons ⟨.number _ _, rfl⟩
      (.cons ⟨.closing, rfl⟩ .nil)))
  have hmalformed : evaluateTokens
      [⟨.number .one, 0⟩, ⟨.operator .divide, 1⟩, ⟨.number .one, 2⟩, ⟨.closing, 3⟩] =
        .error (.unmatchedClosing 3) := by
    decide +kernel
  have hother : evaluateTokens
      [⟨.number .one, 0⟩, ⟨.operator .divide, 1⟩, ⟨.number .zero, 2⟩, ⟨.closing, 3⟩] ≠
        .error (.unmatchedClosing 3) := by
    decide +kernel
  refine ⟨hshape, hmalformed, hother, ?_⟩
  rcases (verdict_independent_of_numbers _ _ hshape).1 _ hmalformed rfl with hsame | harithmetic
  · exact absurd hsame hother
  · exact harithmetic

end Abacus
