import Mathlib.Control.Monad.Basic

/-!
# Fallible — computations that stop at the first fault

Every stage of the calculator is a chain of steps in `Except`.  The lemmas here open such a chain at
its first step; the later modules never unfold the monad.
-/

namespace Abacus

variable {ε α β : Type}

@[simp] theorem ok_bind (a : α) (f : α → Except ε β) : (Except.ok a >>= f) = f a := rfl

@[simp] theorem error_bind (e : ε) (f : α → Except ε β) :
    (Except.error e >>= f) = Except.error e := rfl

@[simp] theorem pure_eq_ok (a : α) : (pure a : Except ε α) = Except.ok a := rfl

@[simp] theorem bind_ok (x : Except ε α) : (x >>= Except.ok) = x := by
  cases x <;> rfl

/-- A chain succeeds exactly when its first step does and the rest goes on from there. -/
theorem bind_eq_ok_iff {x : Except ε α} {f : α → Except ε β} {b : β} :
    (x >>= f) = Except.ok b ↔ ∃ a, x = Except.ok a ∧ f a = Except.ok b := by
  cases x with
  | error e => simp
  | ok a => simp

/-- A chain fails in its first step, or later on. -/
theorem bind_eq_error_iff {x : Except ε α} {f : α → Except ε β} {e : ε} :
    (x >>= f) = Except.error e ↔
      x = Except.error e ∨ ∃ a, x = Except.ok a ∧ f a = Except.error e := by
  cases x with
  | error e' => simp
  | ok a => simp

/-! ## Renamed faults -/

section MapError

variable {ε' : Type} {f : ε → ε'}

theorem mapError_bind (x : Except ε α) (next : α → Except ε β) :
    (x >>= next).mapError f = x.mapError f >>= fun a => (next a).mapError f := by
  cases x <;> rfl

theorem mapError_eq_self {x : Except ε α} {g : ε → ε} (h : ∀ e, x = Except.error e → g e = e) :
    x.mapError g = x := by
  cases x with
  | ok a => rfl
  | error e => exact congrArg Except.error (h e rfl)

end MapError

/-! ## Runs -/

section Runs

variable {σ : Type} {step : σ → α → Except ε σ}

/-- What every step on a member of the list keeps, a run that succeeds keeps. -/
theorem foldlM_invariant (P : σ → Prop) {as : List α}
    (hstep : ∀ a ∈ as, ∀ s next, P s → step s a = Except.ok next → P next) {s final : σ}
    (hs : P s) (hrun : as.foldlM step s = Except.ok final) : P final := by
  induction as generalizing s with
  | nil =>
      cases hrun
      exact hs
  | cons a as ih =>
      rw [List.foldlM_cons, bind_eq_ok_iff] at hrun
      rcases hrun with ⟨next, hfirst, hrest⟩
      have hnext : P next := hstep a List.mem_cons_self s next hs hfirst
      exact ih (fun b hb => hstep b (List.mem_cons_of_mem a hb)) hnext hrest

/-- A run that fails fails in one of its steps. -/
theorem exists_step_eq_error {as : List α} {s : σ} {e : ε}
    (hrun : as.foldlM step s = Except.error e) :
    ∃ a ∈ as, ∃ before, step before a = Except.error e := by
  induction as generalizing s with
  | nil =>
      cases hrun
  | cons a as ih =>
      rw [List.foldlM_cons, bind_eq_error_iff] at hrun
      rcases hrun with hfirst | ⟨next, -, hrest⟩
      · exact ⟨a, List.mem_cons_self, s, hfirst⟩
      · rcases ih hrest with ⟨b, hb, before, hfault⟩
        exact ⟨b, List.mem_cons_of_mem a hb, before, hfault⟩

end Runs

end Abacus
