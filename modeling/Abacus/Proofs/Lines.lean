import Abacus.Text.Terminal
import Mathlib.Data.List.DropRight

/-!
# Lines — what is read and printed line by line

The parts of a text between its separators are the library's `List.splitOnP`, so what is known of that
function tells how an input falls into lines, and which texts a terminal is given as they stand:

* `Text.splitWhere_eq` — the parts;
* `Text.inputLines_line`, `Text.inputLines_join` — lines with their line breaks, in front of any input;
* `Text.exists_lines` — every input consists of such lines and a rest;
* `Text.terminalText_of_plain` — texts without tabs and ignored controls are not changed;
* `Text.strip_strip` — blanks are dropped at once.
-/

namespace Abacus

namespace Text

/-! ## Parts -/

variable {separates : Char → Bool} {c : Char} {cs : List Char}

theorem splitWhere_eq (separates : Char → Bool) (cs : List Char) :
    splitWhere separates cs = cs.splitOnP separates := by
  induction cs with
  | nil => rfl
  | cons c cs ih =>
      rw [splitWhere, ih, List.splitOnP_cons_eq_if_modifyHead]
      by_cases hc : separates c = true
      · rw [if_pos hc, if_pos hc]
      · rw [if_neg hc, if_neg hc]
        cases hparts : cs.splitOnP separates with
        | nil => exact absurd hparts (List.splitOnP_ne_nil separates cs)
        | cons first rest => rfl

theorem splitWhere_of_none (h : cs.any separates = false) : splitWhere separates cs = [cs] := by
  rw [splitWhere_eq]
  exact List.splitOnP_eq_singleton fun c hc => Bool.eq_false_iff.2 (List.any_eq_false.1 h c hc)

theorem splitWhere_append (hc : separates c = true) (h : cs.any separates = false)
    (more : List Char) :
    splitWhere separates (cs ++ c :: more) = cs :: splitWhere separates more := by
  have hfirst := splitWhere_of_none h
  rw [splitWhere_eq] at hfirst
  rw [splitWhere_eq, splitWhere_eq, List.splitOnP_append_cons cs more hc, hfirst]
  rfl

theorem any_eq_false_of_not_mem (h : c ∉ cs) : cs.any (· == c) = false := by
  rw [List.any_eq_false]
  intro d hd hsame
  rw [eq_of_beq hsame] at hd
  exact h hd

theorem splitLines_eq (cs : List Char) : splitLines cs = cs.splitOn '\n' := splitWhere_eq _ cs

theorem splitLines_ne_nil (cs : List Char) : splitLines cs ≠ [] := by
  rw [splitLines_eq]
  exact List.splitOnP_ne_nil _ cs

/-- The parts hold nothing that the text does not hold, and no separator. -/
theorem mem_of_mem_splitWhere {part : List Char}
    (hpart : part ∈ splitWhere separates cs) (hc : c ∈ part) : c ∈ cs ∧ separates c = false := by
  induction cs generalizing part with
  | nil =>
      obtain rfl := List.mem_singleton.1 hpart
      cases hc
  | cons d cs ih =>
      have hlater {other : List Char} (hother : other ∈ splitWhere separates cs) (hc : c ∈ other) :
          c ∈ d :: cs ∧ separates c = false :=
        ⟨List.mem_cons_of_mem d (ih hother hc).1, (ih hother hc).2⟩
      rw [splitWhere] at hpart
      split at hpart
      · rcases List.mem_cons.1 hpart with rfl | hpart
        · cases hc
        · exact hlater hpart hc
      · rename_i hd
        have hfirst : c = d → c ∈ d :: cs ∧ separates c = false := by
          rintro rfl
          exact ⟨List.mem_cons_self, Bool.eq_false_iff.2 hd⟩
        split at hpart
        · rename_i first rest hparts
          rw [hparts] at hlater
          rcases List.mem_cons.1 hpart with rfl | hpart
          · rcases List.mem_cons.1 hc with hc | hc
            · exact hfirst hc
            · exact hlater List.mem_cons_self hc
          · exact hlater (List.mem_cons_of_mem first hpart) hc
        · obtain rfl := List.mem_singleton.1 hpart
          exact hfirst (List.mem_singleton.1 hc)

/-- The lines of a text, with line breaks between them, are the text. -/
theorem intercalate_splitLines (cs : List Char) :
    "\n".intercalate ((splitLines cs).map String.ofList) = String.ofList cs := by
  have hback : (String.toList ∘ String.ofList) = id := funext fun _ => String.toList_ofList
  rw [← String.toList_inj, String.toList_intercalate, List.map_map, hback, List.map_id,
    splitLines_eq]
  exact (List.intercalate_splitOn '\n').trans String.toList_ofList.symm

/-! ## Lines of an input -/

variable {line : String}

theorem splitLines_of_line (hline : '\n' ∉ cs) : splitLines cs = [cs] :=
  splitWhere_of_none (any_eq_false_of_not_mem hline)

theorem splitLines_append (hline : '\n' ∉ cs) (more : List Char) :
    splitLines (cs ++ '\n' :: more) = cs :: splitLines more :=
  splitWhere_append rfl (any_eq_false_of_not_mem hline) more

/-- A line break ends a line, whatever follows. -/
theorem inputLines_line (hline : '\n' ∉ line.toList) (rest : String) :
    inputLines (line ++ "\n" ++ rest) = line :: inputLines rest := by
  have hparts : splitLines (line ++ "\n" ++ rest).toList = line.toList :: splitLines rest.toList := by
    rw [String.toList_append, String.toList_append, List.append_assoc]
    exact splitLines_append hline rest.toList
  have hne := splitLines_ne_nil rest.toList
  unfold inputLines
  dsimp only
  rw [hparts, List.getLast?_cons_of_ne_nil hne, List.dropLast_cons_of_ne_nil hne]
  by_cases hlast : (splitLines rest.toList).getLast? = some []
  · rw [if_pos hlast, if_pos hlast, List.map_cons, String.ofList_toList]
  · rw [if_neg hlast, if_neg hlast, List.map_cons, String.ofList_toList]

/-- The rest of an input is a line, too, unless it is empty. -/
theorem inputLines_of_line (hline : '\n' ∉ line.toList) :
    inputLines line = if line = "" then [] else [line] := by
  unfold inputLines
  dsimp only
  rw [splitLines_of_line hline]
  by_cases hempty : line = ""
  · simp [hempty]
  · simp [hempty]

theorem inputLines_join {lines : List String} (hlines : ∀ line ∈ lines, '\n' ∉ line.toList)
    (rest : String) :
    inputLines (String.join (lines.map (· ++ "\n")) ++ rest) = lines ++ inputLines rest := by
  induction lines with
  | nil =>
      simp
  | cons line lines ih =>
      have hrest := ih fun other hother => hlines other (List.mem_cons_of_mem line hother)
      rw [List.map_cons, String.join_cons, String.append_assoc,
        inputLines_line (hlines line List.mem_cons_self), hrest]
      rfl

theorem intercalate_concat (lines : List String) (rest : String) :
    "\n".intercalate (lines ++ [rest]) = String.join (lines.map (· ++ "\n")) ++ rest := by
  induction lines with
  | nil => simp
  | cons line lines ih =>
      rw [List.cons_append, String.intercalate_cons_of_ne_nil (by simp), ih, List.map_cons,
        String.join_cons, String.append_assoc, String.append_assoc, String.append_assoc]

/-- Every input consists of lines with their line breaks and a rest without one. -/
theorem exists_lines (input : String) :
    ∃ (lines : List String) (rest : String),
      input = String.join (lines.map (· ++ "\n")) ++ rest ∧
        (∀ line ∈ lines, '\n' ∉ line.toList) ∧ '\n' ∉ rest.toList ∧
        inputLines input = lines ++ if rest = "" then [] else [rest] := by
  obtain ⟨parts, last, hparts⟩ : ∃ parts last, splitLines input.toList = parts ++ [last] :=
    ⟨_, _, (List.dropLast_append_getLast (splitLines_ne_nil _)).symm⟩
  have hback := intercalate_splitLines input.toList
  have hapart {part : List Char} (hpart : part ∈ splitLines input.toList) : '\n' ∉ part := fun hc =>
    absurd (mem_of_mem_splitWhere hpart hc).2 (by decide)
  rw [hparts] at hback hapart
  rw [List.map_append, List.map_singleton, intercalate_concat, String.ofList_toList] at hback
  have hlines : ∀ line ∈ parts.map String.ofList, '\n' ∉ line.toList := by
    intro line hline
    obtain ⟨part, hpart, rfl⟩ := List.mem_map.1 hline
    rw [String.toList_ofList]
    exact hapart (List.mem_append_left _ hpart)
  have hrest : '\n' ∉ (String.ofList last).toList := by
    rw [String.toList_ofList]
    exact hapart (List.mem_append_right _ (List.mem_singleton_self last))
  refine ⟨_, _, hback.symm, hlines, hrest, ?_⟩
  rw [← hback, inputLines_join hlines, inputLines_of_line hrest]

/-! ## Texts on a terminal -/

/-- A text that a terminal is given as it stands. -/
def IsPlain (text : String) : Prop := ∀ c ∈ text.toList, c ≠ '\t' ∧ c.toNat ∉ ignored

theorem expandTabs_of_none (h : '\t' ∉ cs) : expandTabs cs = cs := by
  rw [expandTabs, splitWhere_of_none (any_eq_false_of_not_mem h)]
  rfl

theorem terminalText_of_plain {text : String} (h : IsPlain text) : terminalText text = text := by
  have hvisible : visible text.toList = text.toList := by
    refine List.filter_eq_self.2 ?_
    intro c hc
    simp [(h c hc).2]
  have hlines : terminalLines text.toList = splitLines text.toList := by
    unfold terminalLines
    rw [hvisible]
    refine (List.map_congr_left ?_).trans (List.map_id _)
    intro line hline
    refine expandTabs_of_none ?_
    intro htab
    exact (h '\t' (mem_of_mem_splitWhere hline htab).1).1 rfl
  rw [terminalText, hlines, intercalate_splitLines, String.ofList_toList]

/-- The line break behind a text is kept. -/
theorem terminalText_newline (text : String) :
    terminalText (text ++ "\n") = terminalText text ++ "\n" := by
  have hlines : terminalLines (text ++ "\n").toList = terminalLines text.toList ++ [[]] := by
    have hvisible : visible (text ++ "\n").toList = visible text.toList ++ '\n' :: [] := by
      rw [String.toList_append, visible, List.filter_append]
      rfl
    have hparts (front : List Char) :
        (front ++ '\n' :: []).splitOn '\n' = front.splitOn '\n' ++ [[]] :=
      List.splitOnP_append_cons front [] (beq_self_eq_true '\n')
    rw [terminalLines, hvisible, splitLines_eq, hparts, List.map_append, ← splitLines_eq]
    rfl
  have hne : (terminalLines text.toList).map String.ofList ≠ [] := by
    simp [terminalLines, splitLines_ne_nil]
  unfold terminalText
  rw [hlines, List.map_append, String.intercalate_append_of_ne_nil hne (by simp)]
  simp

/-! ## Blanks at the ends -/

theorem stripChars_eq (cs : List Char) :
    stripChars cs = (cs.dropWhile isBlank).rdropWhile isBlank :=
  rfl

/-- Dropping blanks at the end leaves the front as it is. -/
theorem stripChars_stripChars (cs : List Char) : stripChars (stripChars cs) = stripChars cs := by
  have hfront : (stripChars cs).dropWhile isBlank = stripChars cs := by
    obtain ⟨blanks, hblanks⟩ := List.rdropWhile_prefix isBlank (cs.dropWhile isBlank)
    rw [← stripChars_eq] at hblanks
    cases hstripped : stripChars cs with
    | nil => rfl
    | cons c rest =>
        rw [hstripped, List.cons_append] at hblanks
        have hdropped := List.dropWhile_idempotent isBlank cs
        rw [← hblanks, List.dropWhile_eq_self_iff] at hdropped
        exact List.dropWhile_cons_of_neg (hdropped (by simp))
  rw [stripChars_eq, hfront, stripChars_eq, List.rdropWhile_idempotent]

theorem strip_strip (text : String) : strip (strip text) = strip text := by
  rw [strip, strip, String.toList_ofList, stripChars_stripChars]

end Text

end Abacus
