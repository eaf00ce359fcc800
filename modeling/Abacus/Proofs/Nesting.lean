import Abacus.Proofs.Acceptance

/-!
# Nesting — brackets seen from the beginnings of the tokens

Brackets pair off when no beginning of the tokens closes more of them than it opens, and all that are
opened are closed.  Conversion reports the first closing bracket that breaks this rule, whatever
operators are released before it:

* `Overclosed` — symbols that close more brackets than they open;
* `paired_iff` — brackets that pair off, by counting them;
* `NeverClosed` — symbols in which a bracket stays open to the end;
* `FirstUnmatched` — the place of the first closing bracket that is one too many;
* `Postfix.firstUnmatched_of_ending` — the place that conversion reports.
-/

namespace Abacus

/-! ## Counting brackets -/

/-- More brackets are closed than opened. -/
def Overclosed (symbols : List Symbol) : Prop := symbols.count .opening < symbols.count .closing

/-- Behind some opening bracket, no beginning closes it. -/
def NeverClosed (symbols : List Symbol) : Prop :=
  ∃ front rest, symbols = front ++ .opening :: rest ∧ ∀ part, part <+: rest → ¬ Overclosed part

/-- At the place stands the first closing bracket up to which more are closed than opened. -/
def FirstUnmatched (tokens : List Token) (place : Nat) : Prop :=
  ∃ front rest, tokens = front ++ ⟨.closing, place⟩ :: rest ∧
    Overclosed (front.map Token.symbol ++ [.closing]) ∧
    ∀ part, part <+: front → ¬ Overclosed (part.map Token.symbol)

theorem forall_prefix_cons_iff {α : Type} {P : List α → Prop} {a : α} {as : List α} :
    (∀ front, front <+: a :: as → P front) ↔ P [] ∧ ∀ front, front <+: as → P (a :: front) := by
  constructor
  · intro h
    exact ⟨h [] List.nil_prefix, fun front hfront => h _ ((List.prefix_cons_inj a).2 hfront)⟩
  · rintro ⟨hnil, hcons⟩ front hfront
    rcases List.prefix_cons_iff.1 hfront with rfl | ⟨tail, rfl, htail⟩
    · exact hnil
    · exact hcons tail htail

/-- With `depth` brackets open in front, every beginning closes at most those that are open by then,
and the whole closes all of them. -/
theorem paired_iff {depth : Nat} {symbols : List Symbol} :
    Paired depth symbols ↔
      (∀ front, front <+: symbols → front.count .closing ≤ depth + front.count .opening) ∧
        symbols.count .closing = depth + symbols.count .opening := by
  induction symbols generalizing depth with
  | nil =>
      simp [Paired, eq_comm]
  | cons symbol rest ih =>
      rw [forall_prefix_cons_iff]
      cases symbol with
      | number value =>
          simp [Paired, ih]
      | operator op =>
          simp [Paired, ih]
      | opening =>
          -- One bracket more is open in front of the rest.
          simp [Paired, ih, Nat.add_assoc, Nat.add_comm 1]
      | closing =>
          simp only [Paired, ih, List.count_cons_self, List.count_nil, Nat.zero_le, true_and]
          have hne : Symbol.closing ≠ Symbol.opening := by simp
          simp only [List.count_cons_of_ne hne]
          constructor
          · rintro ⟨hdepth, hfronts, htotal⟩
            refine ⟨fun front hfront => ?_, by omega⟩
            have hfront := hfronts front hfront
            omega
          · rintro ⟨hfronts, htotal⟩
            -- The closing bracket alone is a beginning, so some bracket is open in front of it.
            have hfirst := hfronts [] List.nil_prefix
            simp only [List.count_nil] at hfirst
            refine ⟨by omega, fun front hfront => ?_, by omega⟩
            have hfront := hfronts front hfront
            omega

theorem paired_zero_iff {symbols : List Symbol} :
    Paired 0 symbols ↔
      (∀ front, front <+: symbols → ¬ Overclosed front) ∧
        symbols.count .opening = symbols.count .closing := by
  simp only [paired_iff, Overclosed, Nat.zero_add, Nat.not_lt, eq_comm]

theorem not_neverClosed_of_paired {symbols : List Symbol} (h : Paired 0 symbols) :
    ¬ NeverClosed symbols := by
  rintro ⟨front, rest, rfl, hopen⟩
  rcases paired_zero_iff.1 h with ⟨hfronts, htotal⟩
  have hfront := hfronts front (List.prefix_append front _)
  have hrest := hopen rest (List.prefix_refl rest)
  have hne : Symbol.opening ≠ Symbol.closing := by simp
  -- Neither part closes a bracket of the other, so the one between them is left open.
  simp only [List.count_append, List.count_cons_self, List.count_cons_of_ne hne] at htotal
  unfold Overclosed at hfront hrest
  omega

/-! ## What conversion reports -/

namespace Postfix

/-- Releasing all operators ends at a barrier or when nothing waits any more. -/
theorem release_zero (items : List Item) (pending : List Pending) :
    (release 0 items pending).2 = [] ∨ ∃ below, (release 0 items pending).2 = .barrier :: below := by
  induction pending generalizing items with
  | nil =>
      exact Or.inl rfl
  | cons head pending ih =>
      cases head with
      | barrier => exact Or.inr ⟨pending, rfl⟩
      | operator op => exact ih (items ++ [.operator op])

/-- In front of the closing bracket that conversion reports, the brackets pair off with those that
wait. -/
theorem paired_of_ending (tokens : List Token) (items : List Item) (pending : List Pending)
    {place : Nat} (h : (convert items pending tokens).ending = .unmatchedClosing place) :
    ∃ front rest, tokens = front ++ ⟨.closing, place⟩ :: rest ∧
      Paired (pending.count .barrier) (front.map Token.symbol) := by
  induction tokens generalizing items pending with
  | nil =>
      unfold convert at h
      split at h <;> cases h
  | cons token tokens ih =>
      obtain ⟨symbol, position⟩ := token
      cases symbol with
      | number value =>
          rcases ih (items ++ [.number value]) pending h with ⟨front, rest, rfl, hpaired⟩
          exact ⟨⟨.number value, position⟩ :: front, rest, rfl, hpaired⟩
      | opening =>
          rcases ih items (.barrier :: pending) h with ⟨front, rest, rfl, hpaired⟩
          rw [List.count_cons_self] at hpaired
          exact ⟨⟨.opening, position⟩ :: front, rest, rfl, hpaired⟩
      | operator op =>
          have hcount := count_barrier_release op.precedence items pending
          rcases ih _ _ h with ⟨front, rest, rfl, hpaired⟩
          refine ⟨⟨.operator op, position⟩ :: front, rest, rfl, ?_⟩
          have hne : Pending.operator op ≠ Pending.barrier := by simp
          rw [List.count_cons_of_ne hne, hcount] at hpaired
          exact hpaired
      | closing =>
          have hcount := count_barrier_release 0 items pending
          have hstop := release_zero items pending
          simp only [convert] at h
          generalize release 0 items pending = split at h hcount hstop
          rcases split with ⟨released, waiting⟩
          rcases hstop with rfl | ⟨below, rfl⟩
          · -- No barrier was waiting, so this is the bracket.
            cases h
            exact ⟨[], tokens, rfl, hcount.symm⟩
          · rcases ih released below h with ⟨front, rest, rfl, hpaired⟩
            refine ⟨⟨.closing, position⟩ :: front, rest, rfl, ?_⟩
            rw [← hcount, List.count_cons_self]
            exact ⟨Nat.succ_pos _, hpaired⟩

theorem firstUnmatched_of_ending {tokens : List Token} {place : Nat}
    (h : (ofTokens tokens).ending = .unmatchedClosing place) : FirstUnmatched tokens place := by
  rcases paired_of_ending tokens [] [] h with ⟨front, rest, rfl, hpaired⟩
  rcases paired_zero_iff.1 hpaired with ⟨hfronts, htotal⟩
  refine ⟨front, rest, rfl, ?_, ?_⟩
  · unfold Overclosed
    simp [htotal]
  · intro part hpart
    exact hfronts _ (hpart.map Token.symbol)

end Postfix

theorem paired_of_evaluateTokens {tokens : List Token} {value : Binary64}
    (h : evaluateTokens tokens = .ok value) : Paired 0 (tokens.map Token.symbol) := by
  rcases evaluateTokens_eq_ok_iff.1 h with ⟨phrase, hnotation, -⟩
  exact Postfix.paired_of_balanced tokens [] [] hnotation

end Abacus
