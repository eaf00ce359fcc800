import Abacus.Text.Blank
import Abacus.Text.Cluster
import Abacus.Text.Lines

/-!
# Text on a terminal

* `Text.visible` — a text without the controls that would move the cursor back;
* `Text.expandTabs` — a line with its tabs filled up by spaces;
* `Text.terminalText` — a text as a terminal is given it;
* `Text.fold` — the lines of a text in a column of a given width.

A line that is longer than its column is broken between words, and blanks that do not fit are
dropped. A word that is longer than the column is cut, and an ellipsis shows that it was.
-/

namespace Abacus

namespace Text

/-! ## Controls and tabs -/

/-- The bell, the backspace, the vertical tab, the form feed and the carriage return. -/
def ignored : List Nat := [0x7, 0x8, 0xB, 0xC, 0xD]

def visible (cs : List Char) : List Char := cs.filter fun c => !ignored.contains c.toNat

/-- Joins the parts of a line between its tabs. Tab stops are eight places apart, and a tab fills
at least one place; `column` is the place where the line goes on. -/
def joinAtStops (column : Nat) : List (List Char) → List Char
  | [] => []
  | [part] => part
  | part :: rest =>
      let reached := part ++ [' ']
      let stop := column + width reached
      let gap := (8 - stop % 8) % 8
      reached ++ List.replicate gap ' ' ++ joinAtStops (stop + gap) rest

def expandTabs (cs : List Char) : List Char := joinAtStops 0 (splitWhere (· == '\t') cs)

/-- The lines of a visible text, without tabs. -/
def terminalLines (cs : List Char) : List (List Char) :=
  (splitLines (visible cs)).map expandTabs

def terminalText (s : String) : String :=
  "\n".intercalate ((terminalLines s.toList).map String.ofList)

/-! ## Words -/

/-- The blanks before the first word, and the words, each with the blanks after it. -/
def splitWords : List Char → List Char × List (List Char)
  | [] => ([], [])
  | c :: cs =>
      match isBlank c, splitWords cs with
      | true, (blanks, words) => (c :: blanks, words)
      | false, ([], word :: words) => ([], (c :: word) :: words)
      | false, (blanks, words) => ([], (c :: blanks) :: words)

/-- The words of a line; the first one has the blanks before it, too. -/
def words (cs : List Char) : List (List Char) :=
  match splitWords cs with
  | (blanks, word :: words) => (blanks ++ word) :: words
  | (_, []) => []

def trimEnd (cs : List Char) : List Char := (cs.reverse.dropWhile isBlank).reverse

/-! ## Columns -/

/-- Puts each word on the line before it, as long as it fits there without its blanks. A line is as
long as its words are, each measured by itself. -/
def fillLines (room : Nat) (line : List Char) (column : Nat) :
    List (List Char) → List (List Char)
  | [] => [line]
  | word :: rest =>
      if line.isEmpty || decide (column + width (trimEnd word) ≤ room) then
        fillLines room (line ++ word) (column + width word) rest
      else line :: fillLines room word (width word) rest

/-- Drops as many blanks at the end as there are characters too many. -/
def dropExcess (room : Nat) (line : List Char) : List Char :=
  let blanks := line.length - (trimEnd line).length
  line.take (line.length - min blanks (line.length - room))

/-- Cuts a line that does not fit. -/
def cut (room : Nat) (line : List Char) : List Char :=
  if width line ≤ room then line else takeWidth (room - 1) line ++ ['…']

def foldLine (room : Nat) (line : List Char) : List (List Char) :=
  let lines := match words line with
    | [] => [line]
    | words => fillLines room [] 0 words
  lines.map fun line => cut room (dropExcess room line)

/-- The lines of a text in a column of width `room`. -/
def fold (room : Nat) (cs : List Char) : List (List Char) :=
  (terminalLines cs).flatMap (foldLine room)

end Text

end Abacus
