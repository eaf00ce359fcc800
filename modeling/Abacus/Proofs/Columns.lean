import Abacus.Proofs.Lines
import Mathlib.Data.List.Chain

/-!
# Columns — texts that fit into a column

A column lays a text out word by word, and measures each word by itself.  Words that are measured apart
are never wider than the line that they form, so a line that fits is not broken; it can only lose blanks
at its end:

* `Text.ClusterScan.Continues` — a text that is measured by itself, and behind another one;
* `Text.width_add_le` — the parts of a text between a blank and a word are not wider than the text;
* `Text.IsSplit` — the words of a text;
* `Text.fillLines_of_fits`, `Text.foldLine_of_fits` — a line that fits is one line;
* `Text.fold_ne_nil` — any text has a line;
* `Text.IsLine`, `Text.IsLine.fold_of_fits` — the same of texts without line breaks.
-/

namespace Abacus

namespace Text

/-! ## Width -/

namespace Cluster

theorem width_le_extend (k : Cluster) (c : Char) : k.width ≤ (k.extend c).width := by
  unfold extend
  split
  · rename_i hpicture
    have hone : k.width = 1 := by
      have hhas := hpicture.2
      rw [hasPicture, Bool.and_eq_true] at hhas
      exact beq_iff_eq.1 hhas.1
    rw [hone]
    exact Nat.le_succ 1
  · exact Nat.le_refl _

/-- Without a character of its own, a cluster stays without room. -/
theorem width_extend_of_zero {k : Cluster} (h : k.width = 0) (c : Char) : (k.extend c).width = 0 := by
  have hpicture : k.hasPicture = false := by simp [hasPicture, h]
  simp [extend, hpicture, h]

end Cluster

namespace ClusterScan

/-- The places that clusters take together. -/
def places (clusters : List Cluster) : Nat := (clusters.map Cluster.width).foldr (· + ·) 0

theorem places_cons (k : Cluster) (ks : List Cluster) : places (k :: ks) = k.width + places ks := rfl

theorem places_append (ks more : List Cluster) : places (ks ++ more) = places ks + places more := by
  induction ks with
  | nil => exact (Nat.zero_add _).symm
  | cons k ks ih => rw [List.cons_append, places_cons, places_cons, ih, Nat.add_assoc]

/-- Measuring begins with an empty cluster. -/
def measuring : ClusterScan := ⟨[⟨[], 0⟩], false⟩

/-- A character never takes room away. -/
theorem places_le_add (s : ClusterScan) (c : Char) : places s.clusters ≤ places (s.add c).clusters := by
  unfold add
  split
  · rename_i hnone
    rw [hnone]
    exact Nat.zero_le _
  · rename_i k ks hsome
    rw [hsome]
    split
    · exact Nat.le_refl _
    · split
      · exact Nat.add_le_add_right (k.width_le_extend c) _
      · exact Nat.le_add_left _ _

theorem clusters_add_ne_nil (s : ClusterScan) (c : Char) : (s.add c).clusters ≠ [] := by
  unfold add
  split
  · simp
  · split
    · simp
    · split <;> simp

/-- Only a joiner joins what follows it. -/
theorem joined_add {c : Char} (hc : c ≠ joiner) (s : ClusterScan) : (s.add c).joined = false := by
  have hjoiner : (c == joiner) = false := beq_eq_false_iff_ne.2 hc
  unfold add
  split
  · rfl
  · split
    · rfl
    · split
      · exact hjoiner
      · rfl

/-- `s` has gone on from clusters that take `room` places as `t` did from an empty one. -/
structure Continues (room : Nat) (t s : ClusterScan) : Prop where
  joined : s.joined = t.joined
  clusters : ∃ front e k ks, t.clusters = front ++ [e] ∧ s.clusters = front ++ k :: ks ∧
    e.width = 0 ∧ room ≤ places (k :: ks)

theorem Continues.add {room : Nat} {t s : ClusterScan} (h : Continues room t s) (c : Char) :
    Continues room (t.add c) (s.add c) := by
  obtain ⟨hjoined, front, e, k, ks, ht, hs, hempty, hroom⟩ := h
  unfold ClusterScan.add
  cases front with
  | nil =>
      -- The empty cluster takes no room, and the other one loses none.
      rw [ht, hs, List.nil_append, List.nil_append, hjoined]
      dsimp only
      split
      · exact ⟨rfl, [], e.absorb c, k.absorb c, ks, rfl, rfl, hempty, hroom⟩
      · split
        · refine ⟨rfl, [], e.extend c, k.extend c, ks, rfl, rfl, ?_, ?_⟩
          · exact Cluster.width_extend_of_zero hempty c
          · exact Nat.le_trans hroom (Nat.add_le_add_right (k.width_le_extend c) _)
        · exact ⟨rfl, [.ofChar c], e, k, ks, rfl, rfl, hempty, hroom⟩
  | cons first front =>
      rw [ht, hs, List.cons_append, List.cons_append, hjoined]
      dsimp only
      split
      · exact ⟨rfl, first.absorb c :: front, e, k, ks, rfl, rfl, hempty, hroom⟩
      · split
        · exact ⟨rfl, first.extend c :: front, e, k, ks, rfl, rfl, hempty, hroom⟩
        · exact ⟨rfl, .ofChar c :: first :: front, e, k, ks, rfl, rfl, hempty, hroom⟩

theorem Continues.foldl {room : Nat} {t s : ClusterScan} (h : Continues room t s) (cs : List Char) :
    Continues room (cs.foldl ClusterScan.add t) (cs.foldl ClusterScan.add s) := by
  induction cs generalizing t s with
  | nil => exact h
  | cons c cs ih => exact ih (h.add c)

theorem Continues.add_places_le {room : Nat} {t s : ClusterScan} (h : Continues room t s) :
    room + places t.clusters ≤ places s.clusters := by
  obtain ⟨-, front, e, k, ks, ht, hs, hempty, hroom⟩ := h
  have hone : places [e] = 0 := by rw [places_cons, hempty]; rfl
  rw [ht, hs, places_append, places_append, hone]
  omega

end ClusterScan

theorem width_eq (cs : List Char) :
    width cs = ClusterScan.places (cs.foldl ClusterScan.add ClusterScan.measuring).clusters := rfl

theorem width_le_append (cs more : List Char) : width cs ≤ width (cs ++ more) := by
  rw [width_eq, width_eq, List.foldl_append]
  generalize cs.foldl ClusterScan.add ClusterScan.measuring = s
  induction more generalizing s with
  | nil => exact Nat.le_refl _
  | cons c more ih => exact Nat.le_trans (s.places_le_add c) (ih (s.add c))

/-- The text ends with a blank. -/
def EndsBlank (cs : List Char) : Prop := ∃ front c, cs = front ++ [c] ∧ isBlank c = true

theorem EndsBlank.append {cs : List Char} (h : EndsBlank cs) (front : List Char) :
    EndsBlank (front ++ cs) := by
  obtain ⟨start, c, rfl, hc⟩ := h
  exact ⟨front ++ start, c, (List.append_assoc _ _ _).symm, hc⟩

/-- What follows a blank is not wider by itself than behind the blank. -/
theorem width_add_le {cs : List Char} (hcs : cs = [] ∨ EndsBlank cs) (more : List Char) :
    width cs + width more ≤ width (cs ++ more) := by
  have hcontinues : ClusterScan.Continues (width cs) ClusterScan.measuring
      (cs.foldl ClusterScan.add ClusterScan.measuring) := by
    rcases hcs with rfl | ⟨front, c, rfl, hc⟩
    · exact ⟨rfl, [], _, _, [], rfl, rfl, rfl, Nat.le_refl _⟩
    · -- A blank does not swallow the character behind it.
      have hjoiner : c ≠ joiner := by
        rintro rfl
        revert hc
        decide
      rw [width_eq, List.foldl_append, List.foldl_cons, List.foldl_nil]
      obtain ⟨k, ks, hclusters⟩ := List.exists_cons_of_ne_nil
        ((front.foldl ClusterScan.add ClusterScan.measuring).clusters_add_ne_nil c)
      exact ⟨ClusterScan.joined_add hjoiner _, [], _, k, ks, rfl, hclusters, rfl,
        Nat.le_of_eq (congrArg ClusterScan.places hclusters)⟩
  rw [width_eq more, width_eq (cs ++ more), List.foldl_append]
  exact (hcontinues.foldl more).add_places_le

/-! ## Words -/

/-- Blanks and words that make up a text.  A word that another one follows ends with a blank. -/
structure IsSplit (cs blanks : List Char) (words : List (List Char)) : Prop where
  whole : blanks ++ words.flatten = cs
  blank : ∀ c ∈ blanks, isBlank c = true
  apart : words.IsChain fun word _ => EndsBlank word

theorem isSplit_splitWords (cs : List Char) : IsSplit cs (splitWords cs).1 (splitWords cs).2 := by
  induction cs with
  | nil =>
      exact ⟨rfl, by simp [splitWords], .nil⟩
  | cons c cs ih =>
      rw [splitWords]
      cases hc : isBlank c with
      | true =>
          refine ⟨congrArg (c :: ·) ih.whole, ?_, ih.apart⟩
          intro d hd
          rcases List.mem_cons.1 hd with rfl | hd
          · exact hc
          · exact ih.blank d hd
      | false =>
          rcases hsplit : splitWords cs with ⟨blanks, words⟩
          rw [hsplit] at ih
          obtain ⟨hwhole, hblank, hapart⟩ := ih
          cases blanks with
          | nil =>
              cases words with
              | nil =>
                  exact ⟨congrArg (c :: ·) hwhole, by simp, .singleton _⟩
              | cons word words =>
                  refine ⟨congrArg (c :: ·) hwhole, by simp, ?_⟩
                  cases words with
                  | nil => exact .singleton _
                  | cons next words =>
                      rw [List.isChain_cons_cons] at hapart ⊢
                      exact ⟨hapart.1.append [c], hapart.2⟩
          | cons b blanks =>
              refine ⟨congrArg (c :: ·) hwhole, by simp, ?_⟩
              cases words with
              | nil => exact .singleton _
              | cons word words =>
                  rw [List.isChain_cons_cons]
                  refine ⟨?_, hapart⟩
                  obtain ⟨front, d, hlast⟩ := List.eq_nil_or_concat' (b :: blanks) |>.resolve_left
                    (List.cons_ne_nil b blanks)
                  refine ⟨c :: front, d, congrArg (c :: ·) hlast, hblank d ?_⟩
                  rw [hlast]
                  simp

/-- A text without words is all blank, and any other consists of its words. -/
theorem words_spec (cs : List Char) :
    words cs = [] ∨ (words cs).flatten = cs ∧ (words cs).IsChain fun word _ => EndsBlank word := by
  have hsplit := isSplit_splitWords cs
  unfold words
  split
  · rename_i blanks word rest hwords
    rw [hwords] at hsplit
    refine Or.inr ⟨?_, ?_⟩
    · have hwhole : blanks ++ (word :: rest).flatten = cs := hsplit.whole
      rw [List.flatten_cons] at hwhole ⊢
      rw [List.append_assoc, hwhole]
    · have hapart : (word :: rest).IsChain fun word _ => EndsBlank word := hsplit.apart
      cases rest with
      | nil => exact .singleton _
      | cons next rest =>
          rw [List.isChain_cons_cons] at hapart ⊢
          exact ⟨hapart.1.append blanks, hapart.2⟩
  · exact Or.inl rfl

/-! ## Lines -/

theorem exists_trimEnd (cs : List Char) :
    ∃ blanks, cs = trimEnd cs ++ blanks ∧ ∀ c ∈ blanks, isBlank c = true := by
  refine ⟨(cs.reverse.takeWhile isBlank).reverse, ?_, ?_⟩
  · rw [trimEnd, ← List.reverse_append, List.takeWhile_append_dropWhile, List.reverse_reverse]
  · intro c hc
    exact List.mem_takeWhile_imp (List.mem_reverse.1 hc)

/-- Words that fit on one line are all put there. -/
theorem fillLines_of_fits {room column : Nat} {line : List Char} {words : List (List Char)}
    (hcolumn : column ≤ width line) (hline : words ≠ [] → line = [] ∨ EndsBlank line)
    (hwords : words.IsChain fun word _ => EndsBlank word)
    (hfits : width (line ++ words.flatten) ≤ room) :
    fillLines room line column words = [line ++ words.flatten] := by
  induction words generalizing line column with
  | nil =>
      rw [fillLines, List.flatten_nil, List.append_nil]
  | cons word words ih =>
      have hparts := width_add_le (hline (List.cons_ne_nil _ _)) word
      rw [List.flatten_cons, ← List.append_assoc] at hfits ⊢
      have hbegun : width (line ++ word) ≤ room :=
        Nat.le_trans (width_le_append _ words.flatten) hfits
      have hword : width (trimEnd word) ≤ width word := by
        obtain ⟨blanks, hblanks, -⟩ := exists_trimEnd word
        have hle := width_le_append (trimEnd word) blanks
        rwa [← hblanks] at hle
      -- What has been measured of the line is at most its width, so the word fits behind it.
      have hroom : column + width (trimEnd word) ≤ room := by omega
      rw [fillLines, if_pos (by simp [hroom])]
      refine ih (by omega) ?_ (List.IsChain.of_cons hwords) hfits
      intro hne
      obtain ⟨next, rest, rfl⟩ := List.exists_cons_of_ne_nil hne
      rw [List.isChain_cons_cons] at hwords
      exact Or.inr (hwords.1.append line)

/-- Only blanks at the end are dropped. -/
theorem exists_dropExcess (room : Nat) (line : List Char) :
    ∃ dropped, line = dropExcess room line ++ dropped ∧ ∀ c ∈ dropped, isBlank c = true := by
  obtain ⟨blanks, hline, hblanks⟩ := exists_trimEnd line
  unfold dropExcess
  dsimp only
  generalize hn : line.length - min (line.length - (trimEnd line).length) (line.length - room) = n
  refine ⟨line.drop n, (List.take_append_drop n line).symm, ?_⟩
  have hlength : (trimEnd line).length ≤ line.length := by
    have hsum := congrArg List.length hline
    rw [List.length_append] at hsum
    omega
  have hkept : (trimEnd line).length ≤ n := by omega
  intro c hc
  rw [hline, List.drop_append, List.drop_eq_nil_of_le hkept, List.nil_append] at hc
  exact hblanks c (List.mem_of_mem_drop hc)

/-- A line that fits is neither broken nor cut. -/
theorem foldLine_of_fits {room : Nat} {line : List Char} (hfits : width line ≤ room) :
    foldLine room line = [dropExcess room line] := by
  obtain ⟨dropped, hline, -⟩ := exists_dropExcess room line
  have hcut : cut room (dropExcess room line) = dropExcess room line := by
    have hle := width_le_append (dropExcess room line) dropped
    rw [← hline] at hle
    exact if_pos (Nat.le_trans hle hfits)
  have hspec := words_spec line
  unfold foldLine
  cases hwords : words line with
  | nil =>
      -- A line of blanks stays as it is.
      rw [List.map_singleton, hcut]
  | cons word rest =>
      rw [hwords] at hspec
      obtain ⟨hwhole, hapart⟩ := hspec.resolve_left (List.cons_ne_nil word rest)
      rw [← hwhole] at hfits
      have hfilled := fillLines_of_fits (Nat.zero_le _) (fun _ => Or.inl rfl) hapart hfits
      dsimp only
      rw [hfilled, List.nil_append, hwhole, List.map_singleton, hcut]

/-! ## Texts -/

theorem fillLines_ne_nil (room : Nat) (line : List Char) (column : Nat) (words : List (List Char)) :
    fillLines room line column words ≠ [] := by
  induction words generalizing line column with
  | nil => simp [fillLines]
  | cons word words ih =>
      rw [fillLines]
      split
      · exact ih _ _
      · exact List.cons_ne_nil _ _

theorem foldLine_ne_nil (room : Nat) (line : List Char) : foldLine room line ≠ [] := by
  unfold foldLine
  dsimp only
  rw [ne_eq, List.map_eq_nil_iff]
  split
  · exact List.cons_ne_nil _ _
  · exact fillLines_ne_nil _ _ _ _

/-- Every text has a line, if only an empty one. -/
theorem fold_ne_nil (room : Nat) (cs : List Char) : fold room cs ≠ [] := by
  obtain ⟨line, lines, hlines⟩ := List.exists_cons_of_ne_nil (splitLines_ne_nil (visible cs))
  rw [fold, terminalLines, hlines, List.map_cons, List.flatMap_cons]
  exact List.append_ne_nil_of_left_ne_nil (foldLine_ne_nil _ _) _

/-- A text that stands on one line of a terminal, whatever else it holds. -/
def IsLine (text : String) : Prop :=
  ∀ c ∈ visible text.toList, c ≠ '\t' ∧ isLineBreak c = false

theorem IsLine.splitWhere_eq {text : String} (h : IsLine text) :
    splitWhere isLineBreak (visible text.toList) = [visible text.toList] := by
  refine splitWhere_of_none (List.any_eq_false.2 ?_)
  intro c hc
  rw [(h c hc).2]
  exact Bool.false_ne_true

theorem IsLine.terminalLines_eq {text : String} (h : IsLine text) :
    terminalLines text.toList = [visible text.toList] := by
  have hbreak : '\n' ∉ visible text.toList := fun hmem => by
    have hnone := (h '\n' hmem).2
    revert hnone
    decide
  have htab : '\t' ∉ visible text.toList := fun hmem => (h '\t' hmem).1 rfl
  rw [terminalLines, splitLines_of_line hbreak, List.map_singleton, expandTabs_of_none htab]

/-- A text without line breaks that fits into a column is one line there. -/
theorem IsLine.fold_of_fits {text : String} (h : IsLine text) {room : Nat}
    (hfits : width (visible text.toList) ≤ room) :
    fold room text.toList = [dropExcess room (visible text.toList)] := by
  rw [fold, h.terminalLines_eq, List.flatMap_singleton, foldLine_of_fits hfits]

/-- The printed characters of ASCII. -/
def isAscii (c : Char) : Bool := ' ' ≤ c && c ≤ '~'

/-- They are shown as they stand. -/
theorem isLine_of_ascii {text : String} (h : text.toList.all isAscii = true) :
    visible text.toList = text.toList ∧ IsLine text := by
  have hcodes : ∀ c ∈ text.toList, 32 ≤ c.toNat ∧ c.toNat ≤ 126 := by
    intro c hc
    have hascii := List.all_eq_true.1 h c hc
    simp only [isAscii, Bool.and_eq_true, decide_eq_true_eq] at hascii
    exact ⟨UInt32.le_iff_toNat_le.1 hascii.1, UInt32.le_iff_toNat_le.1 hascii.2⟩
  have hvisible : visible text.toList = text.toList := by
    refine List.filter_eq_self.2 ?_
    intro c hc
    have hcode := hcodes c hc
    simp [ignored]
    omega
  refine ⟨hvisible, ?_⟩
  intro c hc
  rw [hvisible] at hc
  have hcode := hcodes c hc
  refine ⟨?_, ?_⟩
  · rintro rfl
    exact absurd hcode.1 (by decide)
  · simp [isLineBreak]
    omega

end Text

end Abacus
