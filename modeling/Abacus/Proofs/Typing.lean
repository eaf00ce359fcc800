import Abacus.Proofs.Screens

/-!
# Typing — the text that keys leave on a screen

As long as nothing is computed, a screen holds the text that its keys spell: a character is put behind
the text, `C` takes the last one away and `AC` all of them.  The fresh screens among these are empty, so
a digit never starts anew where something would be lost:

* `Key.edit`, `Key.edited` — what a label does to a text, and the text that labels spell;
* `Screen.Holds` — a screen on which a text is being typed;
* `Screen.Holds.press`, `Screen.Holds.pressAll` — every key but `=` edits the text;
* `Screen.Holds.labels` — so labels spell their text on a blank screen;
* `Screen.appendChars_eq_pressAll` — appending a text is pressing the keys of its characters.
-/

namespace Abacus

/-! ## Labels -/

namespace Key

variable {c : Char} {key : Key} {label : String}

theorem label_of_ofChar? (h : ofChar? c = some key) : key.label = String.singleton c := by
  unfold ofChar? at h
  split at h
  · cases h
    rfl
  · split at h
    · cases h
      rfl
    · cases h

/-- The key of a character is a digit key or an operator key. -/
theorem ofChar?_ne_equals (c : Char) : ofChar? c ≠ some .equals := by
  unfold ofChar?
  split
  · simp
  · split <;> simp

theorem label_of_ofEntry? (h : ofEntry? label = some key) : key.label = label := by
  unfold ofEntry? at h
  split at h
  · rename_i c htext
    rw [label_of_ofChar? h, ← String.toList_inj, htext, String.toList_singleton]
  · cases h

/-- A key is known by what stands on it. -/
theorem label_of_ofLabel? (h : ofLabel? label = some key) : key.label = label := by
  unfold ofLabel? at h
  by_cases hdelete : label = "C"
  · rw [if_pos hdelete] at h
    cases h
    exact hdelete.symm
  · rw [if_neg hdelete] at h
    by_cases hclear : label = "AC"
    · rw [if_pos hclear] at h
      cases h
      exact hclear.symm
    · rw [if_neg hclear] at h
      by_cases hequals : label = "="
      · rw [if_pos hequals] at h
        cases h
        exact hequals.symm
      · rw [if_neg hequals] at h
        exact label_of_ofEntry? h

theorem map_label_filterMap {labels : List String}
    (hall : ∀ label ∈ labels, isLabel label = true) :
    (labels.filterMap ofLabel?).map Key.label = labels := by
  induction labels with
  | nil =>
      rfl
  | cons first labels ih =>
      rcases exists_ofLabel? (hall first List.mem_cons_self) with ⟨key, hkey⟩
      have hrest := ih fun other hother => hall other (List.mem_cons_of_mem first hother)
      rw [List.filterMap_cons_some hkey, List.map_cons, hrest, label_of_ofLabel? hkey]

/-- Only its own label computes. -/
theorem equals_not_mem {labels : List String} (h : "=" ∉ labels) :
    equals ∉ labels.filterMap ofLabel? := by
  intro hmem
  obtain ⟨label, hlabel, hkey⟩ := List.mem_filterMap.1 hmem
  rw [← label_of_ofLabel? hkey] at hlabel
  exact h hlabel

/-! ## Edited texts -/

/-- A character is put behind the text, `C` takes the last one away, and `AC` takes all. -/
def edit (text label : String) : String :=
  if label = "C" then String.ofList text.toList.dropLast
  else if label = "AC" then ""
  else text ++ label

/-- The text that labels spell, from nothing on. -/
def edited (labels : List String) : String := labels.foldl edit ""

theorem edit_singleton (hc : c ∈ characters) (text : String) :
    edit text (String.singleton c) = text.push c := by
  have hall : characters.all (fun c => String.singleton c != "C" && String.singleton c != "AC") =
      true := by
    decide +kernel
  obtain ⟨hdelete, hclear⟩ : String.singleton c ≠ "C" ∧ String.singleton c ≠ "AC" := by
    simpa using List.all_eq_true.1 hall c hc
  rw [edit, if_neg hdelete, if_neg hclear, String.append_singleton]

/-- The characters of a text spell the text. -/
theorem foldl_edit_singletons {cs : List Char} (hcs : ∀ c ∈ cs, c ∈ characters) (text : String) :
    (cs.map String.singleton).foldl edit text = text ++ String.ofList cs := by
  induction cs generalizing text with
  | nil =>
      simp
  | cons c cs ih =>
      have hc := hcs c List.mem_cons_self
      have hrest := ih (fun d hd => hcs d (List.mem_cons_of_mem c hd)) (text.push c)
      rw [List.map_cons, List.foldl_cons, edit_singleton hc, hrest]
      rw [← String.toList_inj]
      simp

/-- The characters of a text are labels of keys, without `=`. -/
theorem isLabel_singletons {cs : List Char} (hcs : ∀ c ∈ cs, c ∈ characters) :
    (∀ label ∈ cs.map String.singleton, isLabel label = true) ∧ "=" ∉ cs.map String.singleton := by
  have hall : characters.all (fun c => isLabel (String.singleton c) && String.singleton c != "=") =
      true := by
    decide +kernel
  have hone (c : Char) (hc : c ∈ cs) :
      isLabel (String.singleton c) = true ∧ String.singleton c ≠ "=" := by
    simpa using List.all_eq_true.1 hall c (hcs c hc)
  refine ⟨?_, ?_⟩
  · intro label hlabel
    obtain ⟨c, hc, rfl⟩ := List.mem_map.1 hlabel
    exact (hone c hc).1
  · intro hmem
    obtain ⟨c, hc, hequals⟩ := List.mem_map.1 hmem
    exact (hone c hc).2 hequals

end Key

namespace Screen

variable {setup : Setup} {s : Screen} {text : String}

/-! ## Typed texts -/

/-- A text is being typed on the screen: it goes on with the next key, whichever that is. -/
structure Holds (text : String) (s : Screen) : Prop where
  expression : s.expression = text
  fresh : s.fresh = true → text = ""

namespace Holds

theorem blank (setup : Setup) : Holds "" (Screen.blank setup) where
  expression := rfl
  fresh := fun _ => rfl

/-- A screen that was typed on holds what it shows. -/
theorem typed (text : String) (last : Option Outcome) : Holds text ⟨text, text, false, last⟩ where
  expression := rfl
  fresh := by
    intro hfresh
    cases hfresh

theorem enterDigit (h : s.Holds text) (c : Char) : (s.enterDigit c).Holds (text.push c) := by
  have hkept : (if s.fresh then "" else s.expression) = text := by
    by_cases hfresh : s.fresh = true
    · rw [if_pos hfresh, h.fresh hfresh]
    · rw [if_neg hfresh, h.expression]
  unfold Screen.enterDigit
  rw [hkept]
  exact typed _ s.last

theorem enterOperator (h : s.Holds text) (c : Char) : (s.enterOperator c).Holds (text.push c) := by
  unfold Screen.enterOperator
  rw [h.expression]
  exact typed _ s.last

theorem deleteLast (h : s.Holds text) :
    s.deleteLast.Holds (String.ofList text.toList.dropLast) := by
  unfold Screen.deleteLast
  rw [h.expression]
  by_cases hempty : text.isEmpty = true
  · -- Nothing can be taken away from nothing.
    rw [if_pos hempty]
    rw [String.isEmpty_iff] at hempty
    subst hempty
    exact h
  · rw [if_neg hempty]
    refine ⟨rfl, ?_⟩
    intro hfresh
    rw [h.fresh hfresh]
    rfl

/-- Every key but `=` edits the text. -/
theorem press (h : s.Holds text) {key : Key} (hkey : key ≠ .equals) :
    (s.press setup key).Holds (Key.edit text key.label) := by
  cases key with
  | digit c hc =>
      have hlabel := Key.edit_singleton (Key.mem_characters_of_isNumeric hc) text
      rw [Key.label, hlabel]
      exact h.enterDigit c
  | operator c hc =>
      have hlabel := Key.edit_singleton (Key.mem_characters_of_isMark hc) text
      rw [Key.label, hlabel]
      exact h.enterOperator c
  | deleteLast => exact h.deleteLast
  | allClear => exact blank setup
  | equals => exact absurd rfl hkey

theorem pressAll (h : s.Holds text) {keys : List Key} (hkeys : .equals ∉ keys) :
    (s.pressAll setup keys).Holds ((keys.map Key.label).foldl Key.edit text) := by
  induction keys generalizing s text with
  | nil =>
      exact h
  | cons key keys ih =>
      have hkey : key ≠ .equals := by
        rintro rfl
        exact hkeys List.mem_cons_self
      have hrest : .equals ∉ keys := fun hmem => hkeys (List.mem_cons_of_mem key hmem)
      exact ih (h.press hkey) hrest

/-- Labels spell a text on a blank screen. -/
theorem labels (setup : Setup) {labels : List String}
    (hall : ∀ label ∈ labels, Key.isLabel label = true) (hequals : "=" ∉ labels) :
    ((Screen.blank setup).pressAll setup (labels.filterMap Key.ofLabel?)).Holds
      (Key.edited labels) := by
  have hkeys : ((Screen.blank setup).pressAll setup (labels.filterMap Key.ofLabel?)).Holds _ :=
    (blank setup).pressAll (Key.equals_not_mem hequals)
  rw [Key.map_label_filterMap hall] at hkeys
  exact hkeys

end Holds

/-! ## Appended texts -/

theorem append_singleton {c : Char} {key : Key} (h : Key.ofChar? c = some key) (setup : Setup)
    (s : Screen) : s.append (String.singleton c) = .ok (s.press setup key) := by
  have hentry : Key.ofEntry? (String.singleton c) = some key := by
    unfold Key.ofEntry?
    rw [String.toList_singleton]
    exact h
  unfold Key.ofChar? at h
  unfold append
  rw [hentry]
  split at h
  · cases h
    rfl
  · split at h
    · cases h
      rfl
    · cases h

/-- Appending a text is pressing the keys of its characters. -/
theorem appendChars_eq_pressAll {cs : List Char} (hcs : ∀ c ∈ cs, c ∈ Key.characters)
    (setup : Setup) (s : Screen) :
    s.appendChars cs = (s.pressAll setup (cs.filterMap Key.ofChar?), none) := by
  induction cs generalizing s with
  | nil =>
      rfl
  | cons c cs ih =>
      have hc := Key.isSome_ofChar?_iff.2 (hcs c List.mem_cons_self)
      rcases Option.isSome_iff_exists.1 hc with ⟨key, hkey⟩
      have hrest := ih (fun d hd => hcs d (List.mem_cons_of_mem c hd)) (s.press setup key)
      rw [appendChars, append_singleton hkey setup s, List.filterMap_cons_some hkey]
      exact hrest

theorem map_label_ofChar? {cs : List Char} (hcs : ∀ c ∈ cs, c ∈ Key.characters) :
    (cs.filterMap Key.ofChar?).map Key.label = cs.map String.singleton := by
  induction cs with
  | nil =>
      rfl
  | cons c cs ih =>
      have hc := Key.isSome_ofChar?_iff.2 (hcs c List.mem_cons_self)
      rcases Option.isSome_iff_exists.1 hc with ⟨key, hkey⟩
      have hrest := ih fun d hd => hcs d (List.mem_cons_of_mem c hd)
      rw [List.filterMap_cons_some hkey, List.map_cons, List.map_cons, hrest,
        Key.label_of_ofChar? hkey]

/-- A text is typed by appending it. -/
theorem Holds.appendChars {cs : List Char} (h : s.Holds text)
    (hcs : ∀ c ∈ cs, c ∈ Key.characters) :
    ∃ typed, s.appendChars cs = (typed, none) ∧ typed.Holds (text ++ String.ofList cs) := by
  have hequals : Key.equals ∉ cs.filterMap Key.ofChar? := by
    intro hmem
    obtain ⟨c, -, hc⟩ := List.mem_filterMap.1 hmem
    exact Key.ofChar?_ne_equals c hc
  -- Without `=` among the keys the setup of the screen makes no difference.
  have hkeys := appendChars_eq_pressAll hcs {} s
  refine ⟨_, hkeys, ?_⟩
  rw [← Key.foldl_edit_singletons hcs text, ← map_label_ofChar? hcs]
  exact h.pressAll hequals

end Screen

end Abacus
