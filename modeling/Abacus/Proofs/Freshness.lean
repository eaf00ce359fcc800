import Abacus.Proofs.Screens
import Mathlib.Data.List.Induction

/-!
# Freshness — what a digit finds on the screen

A computation makes the screen fresh, and so does `AC`, which leaves nothing to lose.  Characters end
this, but `C` does not: a text that is being corrected after `=` is still one that the next digit
replaces.  So the last key other than `C` decides what becomes of the text:

* `Key.lastButDeleting?` — that key;
* `Screen.Follows` — a screen on which a given key was the last one other than `C`;
* `Screen.Follows.press`, `Screen.Follows.pressAll` — one key, and any keys, from a blank screen on;
* `digit_replaces_iff_computed` — when a digit goes on with the text, and when it replaces it.
-/

namespace Abacus

namespace Key

/-- The last key other than `C`. -/
def lastButDeleting? (keys : List Key) : Option Key :=
  (keys.filter (· ≠ .deleteLast)).getLast?

variable {key : Key}

theorem lastButDeleting?_concat_deleteLast (keys : List Key) :
    lastButDeleting? (keys ++ [.deleteLast]) = lastButDeleting? keys := by
  simp [lastButDeleting?]

theorem lastButDeleting?_concat (hkey : key ≠ .deleteLast) (keys : List Key) :
    lastButDeleting? (keys ++ [key]) = some key := by
  simp [lastButDeleting?, hkey]

end Key

namespace Screen

variable {setup : Setup} {s : Screen} {last : Option Key}

/-! ## The key that was pressed last -/

/-- A screen is fresh after `=`.  After any other key it is fresh only if it holds nothing. -/
structure Follows (last : Option Key) (s : Screen) : Prop where
  fresh : last = some .equals → s.fresh = true
  kept : last ≠ some .equals → s.fresh = true → s.expression = ""

theorem fresh_compute (setup : Setup) (s : Screen) : (s.compute setup).fresh = true := by
  unfold compute
  cases evaluate setup.strict s.expression <;> rfl

namespace Follows

theorem blank (setup : Setup) : (Screen.blank setup).Follows none where
  fresh := by simp
  kept := fun _ _ => rfl

/-- Typing ends the freshness. -/
theorem typed {key : Key} (hkey : key ≠ .equals) (text : String) (outcome : Option Outcome) :
    Screen.Follows (some key) ⟨text, text, false, outcome⟩ where
  fresh := by simp [hkey]
  kept := by simp

/-- `C` does not end it, and it puts nothing on an empty screen. -/
theorem deleteLast (h : s.Follows last) : s.deleteLast.Follows last := by
  unfold Screen.deleteLast
  by_cases hempty : s.expression.isEmpty = true
  · rw [if_pos hempty]
    exact h
  · rw [if_neg hempty]
    refine ⟨h.fresh, ?_⟩
    intro hlast hfresh
    rw [h.kept hlast hfresh] at hempty
    exact absurd rfl hempty

/-- Every other key decides by itself what the next digit finds. -/
theorem press (setup : Setup) (s : Screen) {key : Key} (hkey : key ≠ .deleteLast) :
    (s.press setup key).Follows (some key) := by
  cases key with
  | digit c hc =>
      exact typed (by simp) _ s.last
  | operator c hc =>
      exact typed (by simp) _ s.last
  | deleteLast =>
      exact absurd rfl hkey
  | allClear =>
      exact ⟨by simp, fun _ _ => rfl⟩
  | equals =>
      exact ⟨fun _ => fresh_compute setup s, by simp⟩

/-- After any keys on a blank screen; the induction takes the last of them off. -/
theorem pressAll (setup : Setup) (keys : List Key) :
    ((Screen.blank setup).pressAll setup keys).Follows (Key.lastButDeleting? keys) := by
  induction keys using List.reverseRecOn with
  | nil =>
      exact blank setup
  | append_singleton keys key ih =>
      rw [pressAll_append]
      by_cases hkey : key = .deleteLast
      · subst hkey
        rw [Key.lastButDeleting?_concat_deleteLast]
        exact ih.deleteLast
      · rw [Key.lastButDeleting?_concat hkey]
        exact press setup _ hkey

/-- A digit goes on with the text, unless `=` was the last key other than `C`. -/
theorem enterDigit (h : s.Follows last) (c : Char) :
    s.enterDigit c =
      let text := (if last = some .equals then "" else s.expression).push c
      ⟨text, text, false, s.last⟩ := by
  have htext : (if s.fresh then "" else s.expression) =
      if last = some .equals then "" else s.expression := by
    by_cases hlast : last = some .equals
    · rw [if_pos hlast, if_pos (h.fresh hlast)]
    · rw [if_neg hlast]
      by_cases hfresh : s.fresh = true
      · rw [if_pos hfresh, h.kept hlast hfresh]
      · rw [if_neg hfresh]
  unfold Screen.enterDigit
  rw [htext]

end Follows

end Screen

/-! ## Digits -/

/-- After any keys on a blank screen, a digit is put behind the text as long as `=` is not the last key
other than `C`.  If it is, the text is gone. -/
theorem digit_replaces_iff_computed (setup : Setup) (keys : List Key) {c : Char}
    (hc : isNumeric c = true) :
    let s := (Screen.blank setup).pressAll setup keys
    (Key.lastButDeleting? keys ≠ some .equals →
      s.press setup (.digit c hc) = ⟨s.expression.push c, s.expression.push c, false, s.last⟩) ∧
    (Key.lastButDeleting? keys = some .equals →
      s.press setup (.digit c hc) = ⟨String.singleton c, String.singleton c, false, s.last⟩) := by
  intro s
  have hdigit : s.press setup (.digit c hc) = _ := (Screen.Follows.pressAll setup keys).enterDigit c
  constructor
  · intro hlast
    rw [if_neg hlast] at hdigit
    exact hdigit
  · intro hlast
    rw [if_pos hlast] at hdigit
    exact hdigit

/-- A result that is gone on with and then corrected is kept. -/
theorem digit_replaces_iff_computed_corrected :
    let keys : List Key :=
      [.digit '2' rfl, .equals, .operator '+' rfl, .operator '-' rfl, .deleteLast, .deleteLast]
    let s := (Screen.blank {}).pressAll {} keys
    s.expression = "2.0" ∧ Key.lastButDeleting? keys = some (.operator '-' rfl) ∧
      (s.press {} (.digit '7' rfl)).expression = "2.07" := by
  intro keys s
  have htext : s.expression = "2.0" := by decide +kernel
  have hlast : Key.lastButDeleting? keys = some (.operator '-' rfl) := by decide
  have hkept := (digit_replaces_iff_computed {} keys (c := '7') rfl).1 (by simp [hlast])
  have hpressed : (s.press {} (.digit '7' rfl)).expression = s.expression.push '7' := by
    rw [hkept]
  refine ⟨htext, hlast, ?_⟩
  rw [hpressed, htext]
  decide

/-- A text whose last character was taken away to correct it, because it failed, is lost. -/
theorem digit_after_correction_discards :
    let keys : List Key :=
      [.digit '5' rfl, .operator '/' rfl, .digit '0' rfl, .equals, .deleteLast]
    let s := (Screen.blank {}).pressAll {} keys
    keys.getLast? ≠ some .equals ∧ s.expression = "5/" ∧
      (s.press {} (.digit '2' rfl)).expression = "2" ∧
      (s.press {} (.digit '2' rfl)).expression ≠ s.expression.push '2' := by
  decide +kernel

end Abacus
