import Abacus.Proofs.Concatenation
import Abacus.Proofs.ResultText
import Mathlib.Data.List.Basic
import Mathlib.Data.List.Pairwise

/-!
# Places — where the pieces of a text stand

A place counts the characters in front of it.  Here the pieces of a text are told from the text alone
and not from the way they are found: a character stands at its index, and a numeral is a run of digits
and points that goes on at neither end.  Splitting finds exactly these pieces:

* `IsRunAt` — a run of digits and points that is not part of a longer one;
* `Lexeme.StandsAt` — a piece of a text at its place;
* `Lexeme.placed` — pieces one after the other, each with its place;
* `Lexeme.mem_placed_split_iff` — splitting finds the pieces of the text at their places;
* `Lexeme.pairwise_placed_split` — and in the order of their places;
* `Lexeme.StandsAt.unique` — with one piece at a place.
-/

namespace Abacus

/-- Digits and points that start at a place of the text, with neither just before nor just after. -/
def IsRunAt (text : List Char) (place : Nat) (run : List Char) : Prop :=
  ∃ front rest, text = front ++ run ++ rest ∧ front.length = place ∧ run ≠ [] ∧
    (∀ c ∈ run, isNumeric c = true) ∧ (∀ c ∈ front.getLast?, isNumeric c = false) ∧
    ∀ c ∈ rest.head?, isNumeric c = false

namespace IsRunAt

variable {text run : List Char} {place : Nat}

theorem ne_nil (h : IsRunAt text place run) : run ≠ [] := by
  rcases h with ⟨front, rest, -, -, hne, -⟩
  exact hne

theorem all_isNumeric (h : IsRunAt text place run) : ∀ c ∈ run, isNumeric c = true := by
  rcases h with ⟨front, rest, -, -, -, hnumeric, -⟩
  exact hnumeric

end IsRunAt

namespace Lexeme

/-- The piece is one of the text: a run that could not be longer, or one other character. -/
def StandsAt (text : List Char) (place : Nat) : Lexeme → Prop
  | .numeral run => IsRunAt text place run
  | .mark c => text[place]? = some c ∧ isNumeric c = false

/-- Pieces with their places, the first of which is `place`. -/
def placed (place : Nat) : List Lexeme → List (Nat × Lexeme)
  | [] => []
  | l :: rest => (place, l) :: placed (place + l.chars.length) rest

/-! ## Splitting at the ends of runs -/

/-- The induction over a text piece by piece: it is empty, or begins with a character outside of
numerals, or with a whole run. -/
theorem split_induction {motive : List Char → Prop} (nil : motive [])
    (mark : ∀ c cs, isNumeric c = false → motive cs → motive (c :: cs))
    (numeral : ∀ run rest, run ≠ [] → (∀ c ∈ run, isNumeric c = true) →
      (∀ c ∈ rest.head?, isNumeric c = false) → motive rest → motive (run ++ rest)) :
    ∀ text, motive text
  | [] => nil
  | c :: cs => by
      by_cases hc : isNumeric c = true
      · have hwhole : c :: cs = c :: cs.takeWhile isNumeric ++ cs.dropWhile isNumeric := by
          rw [List.cons_append, List.takeWhile_append_dropWhile]
        have hrun : ∀ d ∈ c :: cs.takeWhile isNumeric, isNumeric d = true :=
          List.forall_mem_cons.2 ⟨hc, List.all_eq_true.1 List.all_takeWhile⟩
        have hrest : ∀ d ∈ (cs.dropWhile isNumeric).head?, isNumeric d = false := by
          intro d hd
          have hnot := List.head?_dropWhile_not isNumeric cs
          rw [hd] at hnot
          exact hnot
        -- The recursion goes on behind the run, which is at least one character long.
        have hshort : (cs.dropWhile isNumeric).length ≤ cs.length :=
          (List.dropWhile_suffix isNumeric).length_le
        rw [hwhole]
        exact numeral _ _ (List.cons_ne_nil c _) hrun hrest
          (split_induction nil mark numeral (cs.dropWhile isNumeric))
      · exact mark c cs (Bool.eq_false_iff.2 hc) (split_induction nil mark numeral cs)
termination_by text => text.length

theorem split_run_append {run rest : List Char} (hrun : run ≠ [])
    (hnumeric : ∀ c ∈ run, isNumeric c = true) (hrest : ∀ c ∈ rest.head?, isNumeric c = false) :
    split (run ++ rest) = .numeral run :: split rest := by
  rw [split_append (MeetApart.of_head hrest run), split_numeric hrun hnumeric]
  rfl

theorem split_cons_mark {c : Char} (hc : isNumeric c = false) (cs : List Char) :
    split (c :: cs) = .mark c :: split cs := by
  rw [split, hc]
  rfl

/-- A piece has at least one character, and the characters are of its kind. -/
def IsWhole : Lexeme → Prop
  | .numeral run => run ≠ [] ∧ ∀ c ∈ run, isNumeric c = true
  | .mark c => isNumeric c = false

theorem IsWhole.chars_ne_nil {l : Lexeme} (h : l.IsWhole) : l.chars ≠ [] := by
  cases l with
  | numeral run => exact h.1
  | mark c => exact List.cons_ne_nil c []

theorem isWhole_of_mem_split (text : List Char) : ∀ l ∈ split text, l.IsWhole := by
  induction text using split_induction with
  | nil =>
      intro l hl
      cases hl
  | mark c cs hc ih =>
      rw [split_cons_mark hc]
      exact List.forall_mem_cons.2 ⟨hc, ih⟩
  | numeral run rest hrun hnumeric hrest ih =>
      rw [split_run_append hrun hnumeric hrest]
      exact List.forall_mem_cons.2 ⟨⟨hrun, hnumeric⟩, ih⟩

/-- Wherever the pieces are divided into two groups, the texts of the groups meet apart. -/
theorem meetApart_of_split (text : List Char) {front rest : List Lexeme}
    (h : split text = front ++ rest) : MeetApart (front.flatMap chars) (rest.flatMap chars) := by
  induction text using split_induction generalizing front with
  | nil =>
      rw [(List.nil_eq_append_iff.1 h).1]
      exact MeetApart.nil_left _
  | mark c cs hc ih =>
      rw [split_cons_mark hc] at h
      cases front with
      | nil => exact MeetApart.nil_left _
      | cons first front =>
          obtain ⟨rfl, htail⟩ : .mark c = first ∧ split cs = front ++ rest := List.cons.inj h
          rw [List.flatMap_cons]
          by_cases hempty : front.flatMap chars = []
          · -- The first group ends with the character itself.
            rw [hempty]
            intro d hd e he
            cases hd
            exact Or.inl hc
          · exact MeetApart.append_left hempty (ih htail) _
  | numeral run cs hrun hnumeric hrest ih =>
      rw [split_run_append hrun hnumeric hrest] at h
      cases front with
      | nil => exact MeetApart.nil_left _
      | cons first front =>
          obtain ⟨rfl, htail⟩ : .numeral run = first ∧ split cs = front ++ rest := List.cons.inj h
          have hchars : front.flatMap chars ++ rest.flatMap chars = cs := by
            rw [← List.flatMap_append, ← htail, flatMap_chars_split]
          rw [List.flatMap_cons]
          by_cases hempty : front.flatMap chars = []
          · -- The first group ends with the run, so the second one begins behind it.
            rw [hempty, List.nil_append] at hchars
            rw [hchars]
            exact MeetApart.of_head hrest _
          · exact MeetApart.append_left hempty (ih htail) _

/-! ## Places of the pieces -/

/-- The place of a piece is reached by the characters of the pieces before it. -/
theorem mem_placed_iff {ls : List Lexeme} {place q : Nat} {l : Lexeme} :
    (q, l) ∈ placed place ls ↔
      ∃ front rest, ls = front ++ l :: rest ∧ q = place + (front.flatMap chars).length := by
  induction ls generalizing place with
  | nil =>
      simp [placed]
  | cons first ls ih =>
      rw [placed, List.mem_cons, ih]
      constructor
      · rintro (hfirst | ⟨front, rest, rfl, rfl⟩)
        · cases hfirst
          exact ⟨[], ls, rfl, rfl⟩
        · refine ⟨first :: front, rest, rfl, ?_⟩
          rw [List.flatMap_cons, List.length_append, Nat.add_assoc]
      · rintro ⟨front, rest, hls, rfl⟩
        cases front with
        | nil =>
            cases hls
            exact Or.inl rfl
        | cons head front =>
            cases hls
            refine Or.inr ⟨front, rest, rfl, ?_⟩
            rw [List.flatMap_cons, List.length_append, Nat.add_assoc]

theorem standsAt_numeral {front rest run : List Char} (hrun : (numeral run).IsWhole)
    (hfront : MeetApart front (run ++ rest)) (hrest : MeetApart (front ++ run) rest) :
    (numeral run).StandsAt (front ++ run ++ rest) front.length := by
  rcases hrun with ⟨hne, hnumeric⟩
  refine ⟨front, rest, rfl, rfl, hne, hnumeric, ?_, ?_⟩
  · intro c hc
    -- The run begins with a digit or a point, so the character before it is none.
    have hhead : run.head hne ∈ (run ++ rest).head? := by
      rw [List.head?_append_of_ne_nil _ hne, List.head?_eq_some_head hne]
      rfl
    have hfirst := hnumeric _ (List.head_mem hne)
    rcases hfront c hc _ hhead with hnot | hnot
    · exact hnot
    · rw [hfirst] at hnot
      cases hnot
  · intro c hc
    have hlast : run.getLast hne ∈ (front ++ run).getLast? := by
      rw [List.getLast?_append_of_ne_nil _ hne, List.getLast?_eq_some_getLast hne]
      rfl
    have hend := hnumeric _ (List.getLast_mem hne)
    rcases hrest _ hlast c hc with hnot | hnot
    · rw [hend] at hnot
      cases hnot
    · exact hnot

theorem standsAt_of_mem_placed {text : List Char} {place : Nat} {l : Lexeme}
    (h : (place, l) ∈ placed 0 (split text)) : l.StandsAt text place := by
  rcases mem_placed_iff.1 h with ⟨front, rest, hsplit, rfl⟩
  have hwhole : l.IsWhole := isWhole_of_mem_split text l (by simp [hsplit])
  have htext : text = front.flatMap chars ++ l.chars ++ rest.flatMap chars := by
    rw [← flatMap_chars_split text, hsplit]
    simp
  rw [Nat.zero_add]
  cases l with
  | mark c =>
      refine ⟨?_, hwhole⟩
      rw [htext]
      simp [chars]
  | numeral run =>
      have hfront := meetApart_of_split text hsplit
      have hbehind : split text = (front ++ [.numeral run]) ++ rest := by simp [hsplit]
      have hrest := meetApart_of_split text hbehind
      rw [List.flatMap_cons] at hfront
      rw [List.flatMap_append, List.flatMap_singleton] at hrest
      rw [htext]
      exact standsAt_numeral hwhole hfront hrest

theorem mem_placed_of_standsAt {text : List Char} {place : Nat} {l : Lexeme}
    (h : l.StandsAt text place) : (place, l) ∈ placed 0 (split text) := by
  refine mem_placed_iff.2 ?_
  cases l with
  | numeral run =>
      rcases h with ⟨front, rest, rfl, rfl, hne, hnumeric, hfront, hrest⟩
      refine ⟨split front, split rest, ?_, ?_⟩
      · have hmeet : MeetApart front (run ++ rest) := fun c hc _ _ => Or.inl (hfront c hc)
        rw [List.append_assoc, split_append hmeet, split_run_append hne hnumeric hrest]
      · rw [flatMap_chars_split, Nat.zero_add]
  | mark c =>
      rcases h with ⟨hc, hnumeric⟩
      rcases List.getElem?_eq_some_iff.1 hc with ⟨hlt, hget⟩
      have hdrop : text.drop place = c :: text.drop (place + 1) := by
        rw [List.drop_eq_getElem_cons hlt, hget]
      refine ⟨split (text.take place), split (text.drop (place + 1)), ?_, ?_⟩
      · -- No numeral goes on across a character that is none.
        have hmeet : MeetApart (text.take place) (c :: text.drop (place + 1)) := by
          refine MeetApart.of_head ?_ _
          intro d hd
          cases hd
          exact hnumeric
        rw [← split_cons_mark hnumeric, ← split_append hmeet, ← hdrop, List.take_append_drop]
      · rw [flatMap_chars_split, Nat.zero_add, List.length_take, Nat.min_eq_left hlt.le]

theorem StandsAt.isWhole {text : List Char} {place : Nat} {l : Lexeme} (h : l.StandsAt text place) :
    l.IsWhole := by
  cases l with
  | numeral run => exact ⟨IsRunAt.ne_nil h, IsRunAt.all_isNumeric h⟩
  | mark c => exact h.2

/-- Splitting finds the pieces of the text, each at its place, and no others. -/
theorem mem_placed_split_iff {text : List Char} {place : Nat} {l : Lexeme} :
    (place, l) ∈ placed 0 (split text) ↔ l.StandsAt text place :=
  ⟨standsAt_of_mem_placed, mem_placed_of_standsAt⟩

/-! ## Order -/

theorem pairwise_placed {ls : List Lexeme} (hls : ∀ l ∈ ls, l.chars ≠ []) (place : Nat) :
    (placed place ls).Pairwise (fun a b => a.1 < b.1) := by
  induction ls generalizing place with
  | nil =>
      exact List.Pairwise.nil
  | cons first ls ih =>
      rcases List.forall_mem_cons.1 hls with ⟨hfirst, hrest⟩
      refine List.pairwise_cons.2 ⟨?_, ih hrest _⟩
      -- What stands behind the first piece is at least its length away.
      rintro ⟨q, l⟩ hl
      rcases mem_placed_iff.1 hl with ⟨front, rest, -, rfl⟩
      have hlength : 0 < first.chars.length := List.length_pos_of_ne_nil hfirst
      show place < place + first.chars.length + _
      omega

theorem pairwise_placed_split (text : List Char) :
    (placed 0 (split text)).Pairwise (fun a b => a.1 < b.1) :=
  pairwise_placed (fun l hl => (isWhole_of_mem_split text l hl).chars_ne_nil) 0

/-- At each place stands at most one piece. -/
theorem StandsAt.unique {text : List Char} {place : Nat} {l m : Lexeme}
    (hl : l.StandsAt text place) (hm : m.StandsAt text place) : l = m := by
  have hplaces : (placed 0 (split text)).Pairwise (fun a b => a.1 ≠ b.1) :=
    (pairwise_placed_split text).imp fun hlt => Nat.ne_of_lt hlt
  have hsymm : Std.Symm (fun a b : Nat × Lexeme => a.1 ≠ b.1) := ⟨fun _ _ => Ne.symm⟩
  by_contra hne
  have hpairs : (place, l) ≠ (place, m) := fun hsame => hne (Prod.mk.inj hsame).2
  exact hplaces.forall (mem_placed_of_standsAt hl) (mem_placed_of_standsAt hm) hpairs rfl

end Lexeme

end Abacus
