import Abacus.Proofs.Accounting
import Abacus.Proofs.Finiteness
import Abacus.Proofs.Lookups
import Mathlib.Data.List.Chain

/-!
# Waiting — what the two stacks hold while tokens are read

An operator is pushed only after all operators on top that bind at least as tightly were applied, so
towards the bottom the waiting operators bind ever less tightly, down to the next barrier.  Every
application takes one operator and one operand away, so the heights of the stacks tell what was read:

* `Pending.Outranks` — an entry and the one below it;
* `Stacks.Accounts` — what the stacks hold after given symbols;
* `Stacks.Accounts.step`, `Stacks.Accounts.run` — one token keeps the accounts, and so do any tokens;
* `Stacks.Accounts.pairwise_of_infix` — hence at most two operators wait in each pair of brackets;
* `stacks_account_for_tokens` — the accounts of a text, and that no look-up misses.
-/

namespace Abacus

/-! ## Entries and those below them -/

namespace Pending

/-- An operator binds tighter than an operator right below it; barriers may stand anywhere. -/
def Outranks : Pending → Pending → Prop
  | .operator upper, .operator lower => lower.precedence < upper.precedence
  | _, _ => True

def isOperator : Pending → Bool
  | .operator _ => true
  | .barrier => false

end Pending

theorem Operator.precedence_pos (op : Operator) : 0 < op.precedence := by
  cases op <;> decide

theorem Operator.precedence_le_two (op : Operator) : op.precedence ≤ 2 := by
  cases op <;> decide

/-- There are two precedences, so no three operators stand in order. -/
theorem Operator.length_le_two {stretch : List Operator}
    (h : stretch.Pairwise fun upper lower => lower.precedence < upper.precedence) :
    stretch.length ≤ 2 := by
  match stretch with
  | [] => simp
  | [_] => simp
  | [_, _] => simp
  | first :: second :: third :: rest =>
      have hupper := List.rel_of_pairwise_cons h List.mem_cons_self
      have hlower := List.rel_of_pairwise_cons h.of_cons List.mem_cons_self
      have hpos := third.precedence_pos
      have hle := first.precedence_le_two
      omega

namespace Stacks

/-! ## Accounts -/

/-- What the stacks hold after the symbols that were read. -/
structure Accounts (read : List Symbol) (s : Stacks) : Prop where
  ordered : s.pending.IsChain Pending.Outranks
  barriers : s.pending.count .barrier + read.count .closing = read.count .opening
  heights : s.operands.length + read.countP Symbol.isOperator =
    read.countP Symbol.isNumber + s.pending.countP Pending.isOperator

namespace Accounts

variable {read : List Symbol} {s next : Stacks}

theorem empty : Accounts [] Stacks.empty where
  ordered := .nil
  barriers := rfl
  heights := rfl

/-- An application takes one operator and one operand away. -/
theorem reduce (h : s.Accounts read) {level : Nat}
    (hreduce : Stacks.reduce level s.operands s.pending = .ok next) : next.Accounts read := by
  refine reduce_invariant (Accounts read) ?_ h hreduce
  intro op below rest pending _ hbelow htop
  rcases applyTop_eq_ok htop with ⟨right, left, operands, result, rfl, -, rfl⟩
  have hbarriers := hbelow.barriers
  have hheights := hbelow.heights
  refine ⟨hbelow.ordered.tail, ?_, ?_⟩
  · simpa using hbarriers
  · simp only [List.length_cons, List.countP_cons, Pending.isOperator, if_true] at hheights ⊢
    omega

theorem number (h : s.Accounts read) (value : Binary64) :
    (Stacks.mk (value :: s.operands) s.pending).Accounts (read ++ [.number value]) := by
  have hbarriers := h.barriers
  have hheights := h.heights
  refine ⟨h.ordered, ?_, ?_⟩
  · simpa [List.count_append] using hbarriers
  · simp [Symbol.isOperator, Symbol.isNumber]
    omega

theorem opening (h : s.Accounts read) :
    (Stacks.mk s.operands (.barrier :: s.pending)).Accounts (read ++ [.opening]) := by
  have hbarriers := h.barriers
  have hheights := h.heights
  refine ⟨h.ordered.cons fun _ _ => trivial, ?_, ?_⟩
  · simp [List.count_append]
    omega
  · simpa [Symbol.isOperator, Symbol.isNumber, Pending.isOperator] using hheights

/-- The barrier that a closing bracket removes is its pair. -/
theorem closing {operands : List Binary64} {pending : List Pending}
    (h : (Stacks.mk operands (.barrier :: pending)).Accounts read) :
    (Stacks.mk operands pending).Accounts (read ++ [.closing]) := by
  have hbarriers := h.barriers
  have hheights := h.heights
  refine ⟨h.ordered.tail, ?_, ?_⟩
  · simp [List.count_append] at hbarriers ⊢
    omega
  · simpa [Symbol.isOperator, Symbol.isNumber, Pending.isOperator] using hheights

/-- An operator may wait above one that binds less tightly. -/
theorem operator (h : s.Accounts read) {op : Operator}
    (htop : ∀ lower, s.pending.head? = some (.operator lower) → lower.precedence < op.precedence) :
    (Stacks.mk s.operands (.operator op :: s.pending)).Accounts (read ++ [.operator op]) := by
  have hbarriers := h.barriers
  have hheights := h.heights
  refine ⟨h.ordered.cons ?_, ?_, ?_⟩
  · intro entry hentry
    cases entry with
    | barrier => trivial
    | operator lower => exact htop lower hentry
  · simpa [List.count_append] using hbarriers
  · simp [Symbol.isOperator, Symbol.isNumber, Pending.isOperator, List.countP_cons]
    omega

/-! ## Runs -/

theorem step (h : s.Accounts read) {token : Token} (hstep : s.step token = .ok next) :
    next.Accounts (read ++ [token.symbol]) := by
  obtain ⟨symbol, position⟩ := token
  cases symbol with
  | number value =>
      cases hstep
      exact h.number value
  | opening =>
      cases hstep
      exact h.opening
  | closing =>
      rcases bind_eq_ok_iff.1 hstep with ⟨⟨operands, pending⟩, hreduce, hclose⟩
      have hreduced := h.reduce hreduce
      match pending with
      | [] => cases hclose
      | .operator op :: rest => cases hclose
      | .barrier :: rest =>
          cases hclose
          exact hreduced.closing
  | operator op =>
      rcases bind_eq_ok_iff.1 hstep with ⟨reduced, hreduce, hpush⟩
      have hreduced := h.reduce hreduce
      cases hpush
      exact hreduced.operator fun lower htop => precedence_lt_of_reduce hreduce htop

theorem run (h : s.Accounts read) {tokens : List Token}
    (hrun : tokens.foldlM Stacks.step s = .ok next) :
    next.Accounts (read ++ tokens.map Token.symbol) := by
  induction tokens generalizing read s with
  | nil =>
      cases hrun
      rw [List.map_nil, List.append_nil]
      exact h
  | cons token tokens ih =>
      rw [List.foldlM_cons, bind_eq_ok_iff] at hrun
      rcases hrun with ⟨after, hfirst, hrest⟩
      have hall := ih (h.step hfirst) hrest
      rw [List.append_assoc] at hall
      exact hall

/-! ## Stretches between barriers -/

/-- The operators that wait without a barrier between them bind ever less tightly towards the
bottom. -/
theorem pairwise_of_infix (h : s.Accounts read) {stretch : List Operator}
    (hstretch : stretch.map Pending.operator <:+: s.pending) :
    stretch.Pairwise fun upper lower => lower.precedence < upper.precedence := by
  have hchain := h.ordered.infix hstretch
  rw [List.isChain_map] at hchain
  have htrans : IsTrans Operator fun upper lower => lower.precedence < upper.precedence :=
    ⟨fun _ _ _ hfirst hsecond => Nat.lt_trans hsecond hfirst⟩
  exact List.isChain_iff_pairwise.1 hchain

end Accounts

/-- The written symbols are those of operators, or opening brackets. -/
theorem mem_written_symbols {s : Stacks} {symbol : String} (h : symbol ∈ s.written.symbols) :
    symbol ∈ ["+", "-", "*", "/", "("] := by
  rcases List.mem_map.1 h with ⟨entry, -, rfl⟩
  cases entry with
  | operator op => cases op <;> decide
  | barrier => decide

end Stacks

/-! ## Texts -/

/-- After any tokens of a text, the operators that wait between two barriers bind ever less tightly
towards the bottom, and they are two at most; as many barriers wait as brackets are open; the operands
are the numbers that were read, less the operators that were applied; and they are finite.  Evaluation by
written symbols goes through the same stacks, on which nothing but operators and opening brackets waits, so
none of its look-ups misses and it has the outcome of the text. -/
theorem stacks_account_for_tokens :
    (∀ (strict : Bool) (text : String) (tokens : List Token), Token.scan strict text = .ok tokens →
      ∀ (read : List Token) (s : Stacks), read <+: tokens →
        read.foldlM Stacks.step Stacks.empty = .ok s →
          (∀ stretch : List Operator, stretch.map Pending.operator <:+: s.pending →
            stretch.Pairwise (fun upper lower => lower.precedence < upper.precedence) ∧
              stretch.length ≤ 2) ∧
          (s.pending.count .barrier : Int) =
            (read.map Token.symbol).count .opening - (read.map Token.symbol).count .closing ∧
          (s.operands.length : Int) =
            (read.map Token.symbol).countP Symbol.isNumber -
              (read.map Token.symbol).countP Symbol.isOperator +
              s.pending.countP Pending.isOperator ∧
          (∀ x ∈ s.operands, x.isFinite = true) ∧
          read.foldlM Written.step Written.Stacks.empty = .ok s.written ∧
          ∀ symbol ∈ s.written.symbols, symbol ∈ ["+", "-", "*", "/", "("]) ∧
    ∀ (strict : Bool) (text : String),
      Written.evaluate strict text = (evaluate strict text).mapError Written.Stop.ofFault ∧
        (∀ symbol, Written.evaluate strict text ≠ .error (.unranked symbol)) ∧
        ∀ refusal, Written.evaluate strict text ≠ .error (.unnamed refusal) := by
  refine ⟨?_, ?_⟩
  · intro strict text tokens hscan read s hread hrun
    have haccounts := Stacks.Accounts.empty.run hrun
    rw [List.nil_append] at haccounts
    have hbarriers := haccounts.barriers
    have hheights := haccounts.heights
    have hfinite : s.OperandsFinite :=
      foldlM_invariant Stacks.OperandsFinite
        (fun token htoken _ _ hbefore => Stacks.operandsFinite_step
          (Token.isFinite_of_scan hscan token (hread.subset htoken)) hbefore)
        Stacks.operandsFinite_empty hrun
    have hwritten := Written.run_written Stacks.empty read
    rw [hrun] at hwritten
    refine ⟨?_, by omega, by omega, hfinite, hwritten, fun symbol => Stacks.mem_written_symbols⟩
    intro stretch hstretch
    have hordered := haccounts.pairwise_of_infix hstretch
    exact ⟨hordered, Operator.length_le_two hordered⟩
  · intro strict text
    rw [Written.evaluate_eq]
    refine ⟨rfl, ?_, ?_⟩
    · intro symbol hstop
      cases houtcome : evaluate strict text <;> rw [houtcome] at hstop <;> cases hstop
    · intro refusal hstop
      cases houtcome : evaluate strict text <;> rw [houtcome] at hstop <;> cases hstop

/-- Two operators wait in brackets that are still open, above a third. -/
theorem stacks_account_for_tokens_open :
    let read : List Token := [⟨.number .one, 0⟩, ⟨.operator .minus, 1⟩, ⟨.opening, 2⟩,
      ⟨.number .one, 3⟩, ⟨.operator .plus, 4⟩, ⟨.number .one, 5⟩, ⟨.operator .times, 6⟩]
    let s : Stacks := ⟨[.one, .one, .one],
      [.operator .times, .operator .plus, .barrier, .operator .minus]⟩
    Token.scan false "1-(1+1*1)" = .ok (read ++ [⟨.number .one, 7⟩, ⟨.closing, 8⟩]) ∧
      read.foldlM Stacks.step Stacks.empty = .ok s ∧
      [Operator.times, .plus].map Pending.operator <:+: s.pending ∧
      [Operator.times, .plus].Pairwise
        (fun upper lower => lower.precedence < upper.precedence) ∧
      (s.pending.count .barrier : Int) = 1 - 0 ∧ (s.operands.length : Int) = 3 - 3 + 3 ∧
      (∀ x ∈ s.operands, x.isFinite = true) ∧
      read.foldlM Written.step Written.Stacks.empty =
        .ok ⟨[.one, .one, .one], ["*", "+", "(", "-"]⟩ := by
  intro read s
  have hscan : Token.scan false "1-(1+1*1)" =
      .ok (read ++ [⟨.number .one, 7⟩, ⟨.closing, 8⟩]) := by decide +kernel
  have hrun : read.foldlM Stacks.step Stacks.empty = .ok s := rfl
  have hstretch : [Operator.times, .plus].map Pending.operator <:+: s.pending :=
    ⟨[], [.barrier, .operator .minus], rfl⟩
  rcases stacks_account_for_tokens.1 false _ _ hscan read s (List.prefix_append _ _) hrun with
    ⟨hordered, hbarriers, hheights, hfinite, hwritten, -⟩
  exact ⟨hscan, hrun, hstretch, (hordered _ hstretch).1, hbarriers, hheights, hfinite, hwritten⟩

end Abacus
