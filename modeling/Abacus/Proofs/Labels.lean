import Abacus.Proofs.Alphabet
import Abacus.Proofs.Fallible
import Abacus.Screen

/-!
# Labels — keys that are pressed by their labels

A label is checked against lists of labels, and pressed by a search for its key.  These are two
definitions, and only their agreement keeps the labels that pass the check from being refused:

* `Screen.pressLabel_of_isLabel`, `Screen.pressLabel_eq_error_iff` — one label;
* `Screen.foldlM_pressLabel`, `Screen.pressLabels_of_isLabel` — labels that pass the check are all
  pressed, one after the other.
-/

namespace Abacus

namespace Screen

variable {setup : Setup} {s : Screen} {label : String} {labels : List String}

theorem pressLabel_of_isLabel (hlabel : Key.isLabel label = true) (setup : Setup) (s : Screen) :
    ∃ key, Key.ofLabel? label = some key ∧ s.pressLabel setup label = .ok (s.press setup key) := by
  rcases Key.exists_ofLabel? hlabel with ⟨key, hkey⟩
  exact ⟨key, hkey, by simp [pressLabel, hkey]⟩

theorem pressLabel_eq_error_iff :
    (∃ refusal, s.pressLabel setup label = .error refusal) ↔ Key.isLabel label = false := by
  rw [← Key.isSome_ofLabel?]
  unfold pressLabel
  cases Key.ofLabel? label with
  | none => simp
  | some key => simp

/-- Labels that pass the check are pressed one after the other, and none is refused. -/
theorem foldlM_pressLabel (setup : Setup) (hall : ∀ label ∈ labels, Key.isLabel label = true)
    (s : Screen) :
    labels.foldlM (pressLabel setup) s = .ok (s.pressAll setup (labels.filterMap Key.ofLabel?)) := by
  induction labels generalizing s with
  | nil =>
      rfl
  | cons label labels ih =>
      rcases pressLabel_of_isLabel (hall label List.mem_cons_self) setup s with ⟨key, hkey, hpress⟩
      have hrest := ih (fun other hother => hall other (List.mem_cons_of_mem label hother))
        (s.press setup key)
      rw [List.foldlM_cons, hpress, ok_bind, hrest, List.filterMap_cons_some hkey]
      rfl

/-- Without a refusal, all labels are pressed. -/
theorem pressLabels_of_foldlM {next : Screen}
    (h : labels.foldlM (pressLabel setup) s = .ok next) : s.pressLabels setup labels = (next, none) := by
  induction labels generalizing s with
  | nil =>
      cases h
      rfl
  | cons label labels ih =>
      rw [List.foldlM_cons, bind_eq_ok_iff] at h
      rcases h with ⟨pressed, hpress, hrest⟩
      rw [pressLabels, hpress]
      exact ih hrest

theorem pressLabels_of_isLabel (setup : Setup)
    (hall : ∀ label ∈ labels, Key.isLabel label = true) (s : Screen) :
    s.pressLabels setup labels = (s.pressAll setup (labels.filterMap Key.ofLabel?), none) :=
  pressLabels_of_foldlM (foldlM_pressLabel setup hall s)

end Screen

end Abacus
