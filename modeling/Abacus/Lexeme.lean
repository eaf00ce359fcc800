/-!
# Lexeme — the pieces of a text

A text falls into maximal runs of digits and points, and single other characters.

* `isNumeric` — digits and the point;
* `Lexeme.split` — the pieces of a text, in order;
* `Lexeme.flatMap_chars_split` — nothing is lost.
-/

namespace Abacus

/-- ASCII digits and the point make up numerals. -/
def isNumeric (c : Char) : Bool := c.isDigit || c == '.'

inductive Lexeme
  | numeral (run : List Char)
  | mark (c : Char)
  deriving DecidableEq, Repr

namespace Lexeme

def chars : Lexeme → List Char
  | .numeral run => run
  | .mark c => [c]

/-- Puts a numeric character in front: it joins the run that begins there, if one does. -/
def join (c : Char) : List Lexeme → List Lexeme
  | .numeral run :: rest => .numeral (c :: run) :: rest
  | rest => .numeral [c] :: rest

/-- The pieces of a text, in order. -/
def split : List Char → List Lexeme
  | [] => []
  | c :: cs => if isNumeric c then join c (split cs) else .mark c :: split cs

theorem flatMap_chars_join (c : Char) (ls : List Lexeme) :
    (join c ls).flatMap chars = c :: ls.flatMap chars := by
  cases ls with
  | nil => rfl
  | cons l rest => cases l <;> rfl

theorem flatMap_chars_split (cs : List Char) : (split cs).flatMap chars = cs := by
  induction cs with
  | nil => rfl
  | cons c cs ih =>
      unfold split
      split
      · rw [flatMap_chars_join, ih]
      · simp [chars, ih]

end Lexeme

end Abacus
