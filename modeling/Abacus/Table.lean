import Abacus.Text.Terminal

/-!
# Table — text in columns

* `Table` — a title, columns, and rows of cells;
* `Table.render` — the table drawn with ASCII lines.

A column is as wide as the longest line in it, and a cell of several lines makes its row as high.
Lines that become longer when their tabs are filled up are broken or cut.
-/

namespace Abacus

structure Table where
  title : String
  /-- The heads of the columns; without heads the cells touch the outer border. -/
  heads : Option (List String)
  /-- The columns whose cells stand at the right. -/
  rightAligned : List Nat
  rows : List (List String)
  deriving DecidableEq, Repr

namespace Table

/-! ## Cells -/

/-- The width of the longest line of a cell. -/
def cellWidth (cell : String) : Nat :=
  let lines := Text.splitWhere Text.isLineBreak (Text.visible cell.toList)
  lines.foldr (fun line width => max (Text.width line) width) 0

/-- The lines of a cell in a column of the given width. -/
def cellLines (cell : String) (width : Nat) : List String :=
  (Text.fold width cell.toList).map String.ofList

/-- The height of a row whose cells have these lines. -/
def height (columns : List (List String)) : Nat :=
  columns.foldr (fun lines height => max lines.length height) 1

theorem one_le_height (columns : List (List String)) : 1 ≤ height columns := by
  induction columns with
  | nil => exact Nat.le_refl 1
  | cons lines columns ih => exact Nat.le_trans ih (Nat.le_max_right _ _)

/-- The lines of a row; a cell with fewer lines than its neighbours is blank below. -/
def rowLines (widths : List Nat) (cells : List String) : List (List String) :=
  let columns := (cells.zip widths).map fun (cell, width) => cellLines cell width
  (List.range (height columns)).map fun n => columns.map fun lines => (lines[n]?).getD ""

/-! ## Columns -/

def widest : List Nat → List Nat → List Nat
  | a :: as, b :: bs => max a b :: widest as bs
  | [], bs => bs
  | as, [] => as

def widths (t : Table) : List Nat :=
  ((t.heads.toList ++ t.rows).map (·.map cellWidth)).foldr widest []

def blanks (n : Nat) : String := String.ofList (List.replicate n ' ')

theorem blanks_append (m n : Nat) : blanks m ++ blanks n = blanks (m + n) := by
  rw [blanks, blanks, blanks, ← String.ofList_append, List.replicate_append_replicate]

def dashes (n : Nat) : String := String.ofList (List.replicate n '-')

/-- The blanks that a text lacks to a width. -/
def missing (width : Nat) (text : String) : String := blanks (width - Text.width text.toList)

/-- Fills a text up with blanks; one more follows where a joiner at the end takes the first. -/
def pad (right : Bool) (width : Nat) (text : String) : String :=
  let filled := if right then missing width text ++ text else text ++ missing width text
  filled ++ missing width filled

/-- Filling up puts blanks on both sides. -/
theorem exists_pad (right : Bool) (width : Nat) (text : String) :
    ∃ before after, pad right width text = blanks before ++ text ++ blanks after := by
  cases right with
  | true =>
      exact ⟨width - Text.width text.toList,
        width - Text.width (missing width text ++ text).toList, rfl⟩
  | false =>
      have hnone : blanks 0 = "" := rfl
      have hpad : pad false width text = text ++ missing width text ++
          missing width (text ++ missing width text) := rfl
      refine ⟨0, width - Text.width text.toList +
        (width - Text.width (text ++ missing width text).toList), ?_⟩
      rw [hpad, hnone, String.empty_append, String.append_assoc, ← blanks_append]
      rfl

/-! ## Lines -/

def isPadded (t : Table) : Bool := t.heads.isSome

/-- The width of the table between its outer borders. -/
def innerWidth (t : Table) (widths : List Nat) : Nat :=
  widths.foldr (· + ·) 0 + 3 * (widths.length - 1) + (if t.isPadded then 2 else 0)

def border (t : Table) (widths : List Nat) : String := "+" ++ dashes (t.innerWidth widths) ++ "+"

def separator (widths : List Nat) : String :=
  "|" ++ "+".intercalate (widths.map fun width => dashes (width + 2)) ++ "|"

def line (t : Table) (widths : List Nat) (cells : List String) : String :=
  let texts := (cells.zip widths).zipIdx.map fun ((cell, width), column) =>
    pad (t.rightAligned.contains column) width cell
  let edge := if t.isPadded then " " else ""
  "|" ++ edge ++ " | ".intercalate texts ++ edge ++ "|"

/-- The title stands in the middle of the full width, half a place to the left if need be. -/
def titleLine (t : Table) (widths : List Nat) : String :=
  let width := t.innerWidth widths + 2
  pad false width (blanks ((width - t.title.length) / 2) ++ t.title)

def headLines (t : Table) (widths : List Nat) : List String :=
  match t.heads with
  | some heads => (rowLines widths heads).map (t.line widths) ++ [separator widths]
  | none => []

def lines (t : Table) : List String :=
  let widths := t.widths
  [t.titleLine widths, t.border widths] ++ t.headLines widths ++
    (t.rows.flatMap (rowLines widths)).map (t.line widths) ++ [t.border widths]

def render (t : Table) : String := String.join (t.lines.map (· ++ "\n"))

end Table

end Abacus
