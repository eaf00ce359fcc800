import Abacus.Token

/-!
# Key — the keys of the keypad

Digit keys and operator keys stand for the character on them; three more keys control the screen.

* `Key` — a key;
* `Key.ofLabel?` — the key with a label;
* `Key.isLabel` — the check of a label against the lists of labels;
* `Key.Refusal` — why a label was not accepted.
-/

namespace Abacus

inductive Key
  | digit (c : Char) (numeric : isNumeric c)
  | operator (c : Char) (mark : isMark c)
  | deleteLast
  | allClear
  | equals
  deriving DecidableEq

namespace Key

/-- The key for one character of an expression. -/
def ofChar? (c : Char) : Option Key :=
  if h : isNumeric c then some (.digit c h)
  else if h : isMark c then some (.operator c h)
  else none

/-- The key for a label of exactly one character of an expression. -/
def ofEntry? (label : String) : Option Key :=
  match label.toList with
  | [c] => ofChar? c
  | _ => none

def ofLabel? (label : String) : Option Key :=
  if label = "C" then some .deleteLast
  else if label = "AC" then some .allClear
  else if label = "=" then some .equals
  else ofEntry? label

/-- The label on a key. -/
def label : Key → String
  | .digit c _ => String.singleton c
  | .operator c _ => String.singleton c
  | .deleteLast => "C"
  | .allClear => "AC"
  | .equals => "="

/-! ## Lists of labels -/

def digitLabels : List String := ["0", "1", "2", "3", "4", "5", "6", "7", "8", "9", "."]

def operatorLabels : List String := ["+", "-", "*", "/", "(", ")"]

def controlLabels : List String := ["C", "AC", "="]

/-- A label is checked against the lists, without a search for its key. -/
def isLabel (label : String) : Bool :=
  digitLabels.contains label || operatorLabels.contains label || controlLabels.contains label

/-! ## Refusals -/

inductive Refusal
  | unsupported (label : String)
  | notDigit (label : String)
  | notOperator (label : String)
  deriving DecidableEq, Repr

def Refusal.message : Refusal → String
  | .unsupported label => s!"Unsupported key: {Text.quote label}"
  | .notDigit label => s!"Not a digit key: {Text.quote label}"
  | .notOperator label => s!"Not an operator key: {Text.quote label}"

end Key

end Abacus
