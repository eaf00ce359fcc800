import Abacus.Evaluation
import Abacus.Key

/-!
# Screen — the state behind the keypad

A screen holds the expression being edited, what is displayed, and the last outcome. After a
computation the screen is *fresh*: the next digit starts a new expression, while an operator goes on
with the old one.

* `Setup` — the mode of evaluation and the two fixed texts of a screen;
* `Screen.press` — what a key does;
* `Screen.pressLabel`, `Screen.append`, `Screen.typeDigit`, `Screen.typeOperator` — keys by their
  labels;
* `Screen.pressLabels` — keys by their labels, one after the other.
-/

namespace Abacus

structure Setup where
  strict : Bool := false
  placeholder : String := "0"
  errorMessage : String := "Error"
  deriving DecidableEq, Repr

structure Screen where
  expression : String
  display : String
  fresh : Bool
  last : Option Outcome

namespace Screen

/-- The screen after switching on, and after clearing. -/
def blank (setup : Setup) : Screen := ⟨"", setup.placeholder, true, none⟩

/-! ## Editing -/

/-- On a fresh screen a digit starts a new expression. -/
def enterDigit (c : Char) (s : Screen) : Screen :=
  let text := (if s.fresh then "" else s.expression).push c
  ⟨text, text, false, s.last⟩

/-- An operator or bracket always goes on with the expression. -/
def enterOperator (c : Char) (s : Screen) : Screen :=
  let text := s.expression.push c
  ⟨text, text, false, s.last⟩

/-- An empty expression is left as it is. -/
def deleteLast (s : Screen) : Screen :=
  if s.expression.isEmpty then s
  else
    let text := String.ofList s.expression.toList.dropLast
    ⟨text, text, s.fresh, s.last⟩

/-! ## Computing -/

/-- A result replaces the expression; a fault leaves it to be corrected. -/
def compute (setup : Setup) (s : Screen) : Screen :=
  match evaluate setup.strict s.expression with
  | .ok value => ⟨value.resultText, value.resultText, true, some (.ok value)⟩
  | .error fault => ⟨s.expression, setup.errorMessage, true, some (.error fault)⟩

/-! ## Keys -/

def press (setup : Setup) (s : Screen) : Key → Screen
  | .digit c _ => s.enterDigit c
  | .operator c _ => s.enterOperator c
  | .deleteLast => s.deleteLast
  | .allClear => blank setup
  | .equals => s.compute setup

def pressAll (setup : Setup) (s : Screen) (keys : List Key) : Screen :=
  keys.foldl (press setup) s

/-! ## Keys by their labels -/

def pressLabel (setup : Setup) (s : Screen) (label : String) : Except Key.Refusal Screen :=
  match Key.ofLabel? label with
  | some key => .ok (s.press setup key)
  | none => .error (.unsupported label)

/-- Presses keys up to the first label that is refused. -/
def pressLabels (setup : Setup) (s : Screen) : List String → Screen × Option Key.Refusal
  | [] => (s, none)
  | label :: labels =>
      match s.pressLabel setup label with
      | .ok next => next.pressLabels setup labels
      | .error refusal => (s, some refusal)

/-- Accepts digit and operator keys only. -/
def append (s : Screen) (label : String) : Except Key.Refusal Screen :=
  match Key.ofEntry? label with
  | some (.digit c _) => .ok (s.enterDigit c)
  | some (.operator c _) => .ok (s.enterOperator c)
  | _ => .error (.unsupported label)

/-- Accepts digit keys only. -/
def typeDigit (s : Screen) (label : String) : Except Key.Refusal Screen :=
  match Key.ofEntry? label with
  | some (.digit c _) => .ok (s.enterDigit c)
  | _ => .error (.notDigit label)

/-- Accepts operator keys only. -/
def typeOperator (s : Screen) (label : String) : Except Key.Refusal Screen :=
  match Key.ofEntry? label with
  | some (.operator c _) => .ok (s.enterOperator c)
  | _ => .error (.notOperator label)

/-- Appends the characters of a text up to the first that no key has. -/
def appendChars (s : Screen) : List Char → Screen × Option Key.Refusal
  | [] => (s, none)
  | c :: cs =>
      match s.append (String.singleton c) with
      | .ok next => next.appendChars cs
      | .error refusal => (s, some refusal)

end Screen

end Abacus
