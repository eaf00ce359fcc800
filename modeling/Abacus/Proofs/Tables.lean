import Abacus.Proofs.Columns
import Abacus.Table
import Mathlib.Data.List.Forall2

/-!
# Tables — what stands on the lines of a table

A column is as wide as its widest cell, so no cell without line breaks is broken, and a row of such cells
is one line, which shows them one after the other:

* `Table.Fits` — widths that are wide enough;
* `Table.fits_widths` — those of a table are, for each of its rows;
* `Table.Shows`, `Table.IsRow` — a text that shows a cell, and a line that shows several;
* `Table.exists_rowBlock`, `Table.isRow_rowBlock` — the first line of a row shows its cells without line
  breaks, and if all are, it is the only one;
* `Table.render_of_heads` — a table with heads is a frame around the lines of its rows, in order.
-/

namespace Abacus

namespace Table

/-! ## Widths -/

/-- There is a width for each need, and it is enough. -/
inductive Fits : List Nat → List Nat → Prop
  | nil (widths : List Nat) : Fits [] widths
  | cons {need width : Nat} {needs widths : List Nat} (enough : need ≤ width)
      (rest : Fits needs widths) : Fits (need :: needs) (width :: widths)

namespace Fits

theorem refl (needs : List Nat) : Fits needs needs := by
  induction needs with
  | nil => exact .nil []
  | cons need needs ih => exact .cons (Nat.le_refl _) ih

theorem trans {needs some more : List Nat} (h : Fits needs some) (hmore : Fits some more) :
    Fits needs more := by
  induction h generalizing more with
  | nil => exact .nil more
  | cons enough _ ih =>
      cases hmore with
      | cons enough' rest' => exact .cons (Nat.le_trans enough enough') (ih rest')

theorem widest_left (as bs : List Nat) : Fits as (widest as bs) := by
  induction as generalizing bs with
  | nil => exact .nil _
  | cons a as ih =>
      cases bs with
      | nil => exact refl _
      | cons b bs => exact .cons (Nat.le_max_left a b) (ih bs)

theorem widest_right (as bs : List Nat) : Fits bs (widest as bs) := by
  induction as generalizing bs with
  | nil =>
      cases bs with
      | nil => exact .nil _
      | cons b bs => exact refl _
  | cons a as ih =>
      cases bs with
      | nil => exact .nil _
      | cons b bs => exact .cons (Nat.le_max_right a b) (ih bs)

theorem foldr_widest {needs : List Nat} {rows : List (List Nat)} (h : needs ∈ rows) :
    Fits needs (rows.foldr widest []) := by
  induction rows with
  | nil => cases h
  | cons row rows ih =>
      rcases List.mem_cons.1 h with rfl | h
      · exact widest_left _ _
      · exact (ih h).trans (widest_right _ _)

end Fits

variable {t : Table} {cells heads : List String} {widths : List Nat}

/-- Each row of a table fits into its columns, and so do the heads. -/
theorem fits_widths (h : cells ∈ t.heads.toList ++ t.rows) : Fits (cells.map cellWidth) t.widths :=
  Fits.foldr_widest (List.mem_map_of_mem h)

/-! ## Cells -/

/-- A text that shows a cell: between blanks stands the visible text of the cell, less some blanks at
its end. -/
def Shows (printed cell : String) : Prop :=
  ∃ (before after : Nat) (shown dropped : List Char),
    Text.visible cell.toList = shown ++ dropped ∧ (∀ c ∈ dropped, Text.isBlank c = true) ∧
      printed = blanks before ++ String.ofList shown ++ blanks after

/-- A line that shows cells one after the other. -/
def IsRow (line : String) (cells : List String) : Prop :=
  ∃ printed, List.Forall₂ Shows printed cells ∧ line = "| " ++ " | ".intercalate printed ++ " |"

/-- A cell has a first line, and no other if it has no line breaks and fits.  Filled up or not, that one
shows the cell. -/
theorem exists_cellLines {cell : String} {width : Nat} (hfits : cellWidth cell ≤ width) :
    ∃ first rest, cellLines cell width = first :: rest ∧
      (Text.IsLine cell → rest = [] ∧ ∀ right, Shows (pad right width first) cell) := by
  by_cases hline : Text.IsLine cell
  · -- The cell is measured as the one line that it is.
    have hwidth : Text.width (Text.visible cell.toList) ≤ width := by
      have hcell : cellWidth cell = max (Text.width (Text.visible cell.toList)) 0 := by
        unfold cellWidth
        dsimp only
        rw [hline.splitWhere_eq]
        rfl
      omega
    rcases Text.exists_dropExcess width (Text.visible cell.toList) with ⟨dropped, hvisible, hblank⟩
    refine ⟨String.ofList (Text.dropExcess width (Text.visible cell.toList)), [], ?_, ?_⟩
    · rw [cellLines, hline.fold_of_fits hwidth, List.map_singleton]
    · intro _
      refine ⟨rfl, ?_⟩
      intro right
      rcases exists_pad right width
        (String.ofList (Text.dropExcess width (Text.visible cell.toList))) with ⟨before, after, hpad⟩
      exact ⟨before, after, _, dropped, hvisible, hblank, hpad⟩
  · rcases List.exists_cons_of_ne_nil (Text.fold_ne_nil width cell.toList) with ⟨first, rest, hfold⟩
    refine ⟨String.ofList first, rest.map String.ofList, ?_, fun h => absurd h hline⟩
    rw [cellLines, hfold, List.map_cons]

/-! ## Rows -/

/-- The lines of a row. -/
def rowBlock (t : Table) (cells : List String) : List String :=
  (rowLines t.widths cells).map (t.line t.widths)

/-- The first lines of cells that fit, filled up, show the cells without line breaks. -/
theorem exists_columns (hfits : Fits (cells.map cellWidth) widths) :
    ∃ (firsts : List String) (rests : List (List String)),
      ((cells.zip widths).map fun (cell, width) => cellLines cell width) =
        List.zipWith List.cons firsts rests ∧
      firsts.length = rests.length ∧
      ((∀ cell ∈ cells, Text.IsLine cell) → ∀ rest ∈ rests, rest = []) ∧
      ∀ (right : Nat → Bool) (start : Nat),
        List.Forall₂ (fun text cell => Text.IsLine cell → Shows text cell)
          (((firsts.zip widths).zipIdx start).map fun ((text, width), column) =>
            pad (right column) width text) cells := by
  induction cells generalizing widths with
  | nil =>
      exact ⟨[], [], rfl, rfl, by simp, fun _ _ => .nil⟩
  | cons cell cells ih =>
      cases widths with
      | nil => cases hfits
      | cons width widths =>
          cases hfits with
          | cons enough others =>
              rcases exists_cellLines enough with ⟨first, rest, hcell, hshows⟩
              rcases ih others with ⟨firsts, rests, hcells, hlength, hnone, hall⟩
              -- The cell takes the first width, and the others take the rest of them.
              refine ⟨first :: firsts, rest :: rests, ?_, ?_, ?_, ?_⟩
              · rw [List.zip_cons_cons, List.map_cons, List.zipWith_cons_cons, hcells]
                exact congrArg (· :: List.zipWith List.cons firsts rests) hcell
              · rw [List.length_cons, List.length_cons, hlength]
              · intro hlines rest' hrest'
                rcases List.mem_cons.1 hrest' with rfl | hrest'
                · exact (hshows (hlines cell List.mem_cons_self)).1
                · exact hnone (fun other hother => hlines other (List.mem_cons_of_mem cell hother))
                    rest' hrest'
              · intro right start
                exact .cons (fun hline => (hshows hline).2 (right start)) (hall right (start + 1))

theorem height_zipWith_cons {firsts : List String} {rests : List (List String)}
    (hnone : ∀ rest ∈ rests, rest = []) : height (List.zipWith List.cons firsts rests) = 1 := by
  induction rests generalizing firsts with
  | nil => rw [List.zipWith_nil_right]; rfl
  | cons rest rests ih =>
      cases firsts with
      | nil => rfl
      | cons first firsts =>
          have hrest := hnone rest List.mem_cons_self
          have hheight : height (List.zipWith List.cons firsts rests) = 1 :=
            ih fun other hother => hnone other (List.mem_cons_of_mem rest hother)
          rw [List.zipWith_cons_cons, height, List.foldr_cons, ← height, hheight, hrest]
          rfl

theorem head_zipWith_cons {firsts : List String} {rests : List (List String)}
    (hlength : firsts.length = rests.length) :
    (List.zipWith List.cons firsts rests).map (fun lines => (lines[0]?).getD "") = firsts := by
  induction firsts generalizing rests with
  | nil => rfl
  | cons first firsts ih =>
      cases rests with
      | nil => cases hlength
      | cons rest rests =>
          rw [List.zipWith_cons_cons, List.map_cons, ih (Nat.succ.inj hlength)]
          rfl

/-- First lines make up the first row, and the only one if nothing follows them. -/
theorem exists_rows {firsts : List String} {rests : List (List String)}
    (hlength : firsts.length = rests.length) :
    ∃ others,
      (List.range (height (List.zipWith List.cons firsts rests))).map
          (fun n => (List.zipWith List.cons firsts rests).map fun lines => (lines[n]?).getD "") =
        firsts :: others ∧
      ((∀ rest ∈ rests, rest = []) → others = []) := by
  obtain ⟨more, hmore⟩ := Nat.exists_eq_add_of_le' (one_le_height (List.zipWith List.cons firsts rests))
  -- The rows are counted from zero, where the first lines stand.
  rw [hmore, List.range_succ_eq_map, List.map_cons, head_zipWith_cons hlength]
  refine ⟨_, rfl, ?_⟩
  intro hnone
  rw [height_zipWith_cons hnone] at hmore
  have hzero : more = 0 := by omega
  rw [hzero]
  rfl

/-- A row of cells begins with a line that shows those without line breaks, and if all are, it has no
other line. -/
theorem exists_rowBlock (hpadded : t.isPadded = true) (hfits : Fits (cells.map cellWidth) t.widths) :
    ∃ printed rest,
      t.rowBlock cells = ("| " ++ " | ".intercalate printed ++ " |") :: rest ∧
      List.Forall₂ (fun text cell => Text.IsLine cell → Shows text cell) printed cells ∧
      ((∀ cell ∈ cells, Text.IsLine cell) → rest = []) := by
  rcases exists_columns hfits with ⟨firsts, rests, hcolumns, hlength, hnone, hshows⟩
  rcases exists_rows hlength with ⟨others, hrows, hothers⟩
  have hopen : "|" ++ " " = "| " := by decide
  have hclose : " " ++ "|" = " |" := by decide
  refine ⟨_, others.map (t.line t.widths), ?_, hshows t.rightAligned.contains 0, ?_⟩
  · have hlines : rowLines t.widths cells = firsts :: others := by
      unfold rowLines
      dsimp only
      rw [hcolumns]
      exact hrows
    rw [rowBlock, hlines, List.map_cons]
    unfold line
    dsimp only
    rw [if_pos hpadded, hopen, String.append_assoc, hclose]
  · intro hlines
    rw [hothers (hnone hlines), List.map_nil]

theorem forall_shows {printed : List String}
    (h : List.Forall₂ (fun text cell => Text.IsLine cell → Shows text cell) printed cells)
    (hlines : ∀ cell ∈ cells, Text.IsLine cell) : List.Forall₂ Shows printed cells := by
  induction h with
  | nil => exact .nil
  | cons hfirst _ ih =>
      exact .cons (hfirst (hlines _ List.mem_cons_self))
        (ih fun other hother => hlines other (List.mem_cons_of_mem _ hother))

/-- A row of cells without line breaks is one line, which shows them. -/
theorem isRow_rowBlock (hpadded : t.isPadded = true)
    (hlines : ∀ cell ∈ cells, Text.IsLine cell)
    (hfits : Fits (cells.map cellWidth) t.widths) :
    ∃ line, t.rowBlock cells = [line] ∧ IsRow line cells := by
  rcases exists_rowBlock hpadded hfits with ⟨printed, rest, hblock, hshows, hrest⟩
  rw [hrest hlines] at hblock
  exact ⟨_, hblock, printed, forall_shows hshows hlines, rfl⟩

/-! ## Tables -/

/-- The title stands between blanks. -/
theorem shows_titleLine (t : Table) (hvisible : Text.visible t.title.toList = t.title.toList) :
    Shows (t.titleLine widths) t.title := by
  unfold titleLine
  dsimp only
  rcases exists_pad false (t.innerWidth widths + 2)
    (blanks ((t.innerWidth widths + 2 - t.title.length) / 2) ++ t.title) with ⟨before, after, hpad⟩
  refine ⟨before + (t.innerWidth widths + 2 - t.title.length) / 2, after, t.title.toList, [], ?_, ?_, ?_⟩
  · rw [List.append_nil, hvisible]
  · intro c hc
    cases hc
  · rw [hpad, ← String.append_assoc, blanks_append, String.ofList_toList]

/-- A table with heads is a frame around the lines of its rows. -/
theorem render_of_heads (hheads : t.heads = some heads)
    (hlines : ∀ cell ∈ heads, Text.IsLine cell) :
    ∃ line, IsRow line heads ∧
      t.render = String.join (([t.titleLine t.widths, t.border t.widths, line, separator t.widths] ++
        t.rows.flatMap t.rowBlock ++ [t.border t.widths]).map (· ++ "\n")) := by
  have hpadded : t.isPadded = true := by rw [isPadded, hheads]; rfl
  have hmem : heads ∈ t.heads.toList ++ t.rows := by rw [hheads]; exact List.mem_cons_self
  rcases isRow_rowBlock hpadded hlines (fits_widths hmem) with ⟨line, hblock, hrow⟩
  refine ⟨line, hrow, ?_⟩
  have hheadLines : t.headLines t.widths = [line, separator t.widths] := by
    rw [headLines, hheads]
    exact congrArg (· ++ [separator t.widths]) hblock
  unfold render lines
  dsimp only
  rw [hheadLines, List.map_flatMap]
  rfl

end Table

end Abacus
