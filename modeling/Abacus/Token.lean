import Abacus.Fault
import Abacus.Lexeme
import Abacus.Text.Blank

/-!
# Token — the symbols of an expression

* `Symbol` — the terminal symbols of the grammar;
* `Token` — a symbol and where it starts;
* `Token.scan` — the tokens of a text, or the first fault of the text.

In strict mode a character that is neither a symbol nor blank is a fault; otherwise it is skipped.
-/

namespace Abacus

inductive Symbol
  | number (value : Binary64)
  | operator (op : Operator)
  | opening
  | closing
  deriving DecidableEq

structure Token where
  symbol : Symbol
  position : Nat
  deriving DecidableEq

namespace Symbol

/-- Operators and brackets are written as one character. -/
def ofMark? : Char → Option Symbol
  | '(' => some .opening
  | ')' => some .closing
  | c => (Operator.ofChar? c).map .operator

end Symbol

/-- Operators and brackets. -/
def isMark (c : Char) : Bool := (Symbol.ofMark? c).isSome

namespace Token

/-- The number that a run denotes, rounded to the nearest. -/
def readNumber (run : List Char) (position : Nat) : Except Fault Binary64 :=
  match Decimal.ofNumeral? run with
  | none => .error (.invalidNumber (String.ofList run) position)
  | some d =>
      let value := d.toBinary64 false
      if value.isFinite then .ok value else .error (.numberOutOfRange run.length position)

/-- The tokens of the pieces of a text, the first of which starts at `position`. -/
def ofLexemes (strict : Bool) (position : Nat) : List Lexeme → Except Fault (List Token)
  | [] => .ok []
  | .numeral run :: rest => do
      let value ← readNumber run position
      let tokens ← ofLexemes strict (position + run.length) rest
      return ⟨.number value, position⟩ :: tokens
  | .mark c :: rest =>
      match Symbol.ofMark? c with
      | some symbol => do
          let tokens ← ofLexemes strict (position + 1) rest
          return ⟨symbol, position⟩ :: tokens
      | none =>
          if strict && !Text.isBlank c then .error (.unexpectedCharacter c position)
          else ofLexemes strict (position + 1) rest

/-- The tokens of a text. -/
def scan (strict : Bool) (text : String) : Except Fault (List Token) :=
  ofLexemes strict 0 (Lexeme.split text.toList)

end Token

end Abacus
