import Abacus.Proofs.Fallible
import Abacus.Token
import Mathlib.Data.List.Basic

/-!
# Concatenation — a text is scanned in parts

A text may be cut wherever the cut leaves its numerals whole.  The tokens of the parts are then the
tokens of the text, those of the second part further on by the length of the first one, and so is a
fault of the second part:

* `MeetApart` — two texts that share no numeral when they are put together;
* `Lexeme.split_append` — the pieces of such texts;
* `Fault.shift`, `Token.shift`, `Token.shiftScan` — what is found, further on in a longer text;
* `Token.ofLexemes_append`, `Token.ofLexemes_shift` — pieces scanned in parts and from another place;
* `Token.scan_append` — the tokens of two texts put together.
-/

namespace Abacus

/-! ## Pieces -/

/-- One of the texts is empty, or no numeral goes on from the first one into the second. -/
def MeetApart (front rest : List Char) : Prop :=
  ∀ c ∈ front.getLast?, ∀ d ∈ rest.head?, isNumeric c = false ∨ isNumeric d = false

namespace MeetApart

variable {c : Char} {front rest : List Char}

theorem of_head (h : ∀ d ∈ rest.head?, isNumeric d = false) (front : List Char) :
    MeetApart front rest :=
  fun _ _ d hd => Or.inr (h d hd)

theorem nil_left (rest : List Char) : MeetApart [] rest := by
  intro c hc
  cases hc

/-- What stands in front of a text makes no difference to its end. -/
theorem append_left (hfront : front ≠ []) (h : MeetApart front rest) (before : List Char) :
    MeetApart (before ++ front) rest := by
  intro last hlast d hd
  refine h last ?_ d hd
  rw [List.getLast?_append_of_ne_nil before hfront] at hlast
  exact hlast

theorem of_cons (hfront : front ≠ []) (h : MeetApart (c :: front) rest) : MeetApart front rest := by
  intro last hlast d hd
  refine h last ?_ d hd
  rw [List.getLast?_cons_of_ne_nil hfront]
  exact hlast

end MeetApart

namespace Lexeme

theorem join_append (c : Char) {front : List Lexeme} (hfront : front ≠ []) (rest : List Lexeme) :
    join c (front ++ rest) = join c front ++ rest := by
  cases front with
  | nil => exact absurd rfl hfront
  | cons first front => cases first <;> rfl

theorem split_ne_nil {cs : List Char} (h : cs ≠ []) : split cs ≠ [] := by
  intro hnil
  have hchars := flatMap_chars_split cs
  rw [hnil] at hchars
  exact h hchars.symm

/-- A numeral ends where the next character is none of its own. -/
theorem join_split (c : Char) {cs : List Char} (h : ∀ d ∈ cs.head?, isNumeric d = false) :
    join c (split cs) = .numeral [c] :: split cs := by
  cases cs with
  | nil => rfl
  | cons d cs =>
      have hd : isNumeric d = false := h d rfl
      simp [split, hd, join]

theorem split_append {front rest : List Char} (h : MeetApart front rest) :
    split (front ++ rest) = split front ++ split rest := by
  induction front with
  | nil =>
      rfl
  | cons c front ih =>
      by_cases hfront : front = []
      · -- The first text ends here, and its last character may be a numeral by itself.
        subst hfront
        by_cases hc : isNumeric c = true
        · have hrest : ∀ d ∈ rest.head?, isNumeric d = false := by
            intro d hd
            rcases h c rfl d hd with hnot | hd
            · rw [hc] at hnot
              cases hnot
            · exact hd
          simp only [List.singleton_append, split, hc, if_true, join_split c hrest]
          rfl
        · simp [split, hc]
      · have hwhole := ih (h.of_cons hfront)
        by_cases hc : isNumeric c = true
        · simp [split, hc, hwhole, join_append c (split_ne_nil hfront)]
        · simp [split, hc, hwhole]

end Lexeme

/-! ## Places -/

/-- The fault with `n` characters in front of its text. -/
def Fault.shift (n : Nat) : Fault → Fault
  | .invalidNumber literal p => .invalidNumber literal (n + p)
  | .numberOutOfRange length p => .numberOutOfRange length (n + p)
  | .unexpectedCharacter c p => .unexpectedCharacter c (n + p)
  | .unmatchedClosing p => .unmatchedClosing (n + p)
  | fault => fault

@[simp] theorem Fault.kind_shift (n : Nat) (fault : Fault) : (fault.shift n).kind = fault.kind := by
  cases fault <;> rfl

@[simp] theorem Fault.position_shift (n : Nat) (fault : Fault) :
    (fault.shift n).position = fault.position.map (n + ·) := by
  cases fault <;> rfl

namespace Token

/-- The token with `n` characters in front of its text. -/
def shift (n : Nat) (token : Token) : Token := ⟨token.symbol, n + token.position⟩

/-- What a scan finds with `n` characters in front of its text. -/
def shiftScan (n : Nat) : Except Fault (List Token) → Except Fault (List Token)
  | .ok tokens => .ok (tokens.map (shift n))
  | .error fault => .error (fault.shift n)

/-! ## Scans -/

variable {strict : Bool}

/-- The range of a number is checked alike at every place. -/
theorem inRange_shift (x : Binary64) (length n position : Nat) :
    (if x.isFinite then .ok x else .error (.numberOutOfRange length (n + position))) =
      (if x.isFinite then Except.ok x else .error (.numberOutOfRange length position)).mapError
        (Fault.shift n) := by
  by_cases hfinite : x.isFinite = true
  · simp [hfinite, Except.mapError]
  · simp [hfinite, Except.mapError, Fault.shift]

theorem readNumber_eq {run : List Char} {d : Decimal} (h : Decimal.ofNumeral? run = some d)
    (position : Nat) :
    readNumber run position =
      if (d.toBinary64 false).isFinite then .ok (d.toBinary64 false)
      else .error (.numberOutOfRange run.length position) := by
  simp only [readNumber, h]

theorem readNumber_shift (run : List Char) (n position : Nat) :
    readNumber run (n + position) = (readNumber run position).mapError (Fault.shift n) := by
  cases hread : Decimal.ofNumeral? run with
  | none =>
      simp only [readNumber, hread]
      rfl
  | some d =>
      calc
        readNumber run (n + position) = _ := readNumber_eq hread (n + position)
        _ = _ := inRange_shift (d.toBinary64 false) run.length n position
        _ = (readNumber run position).mapError (Fault.shift n) := by
              rw [readNumber_eq hread position]

theorem ofLexemes_shift (n position : Nat) (lexemes : List Lexeme) :
    ofLexemes strict (n + position) lexemes = shiftScan n (ofLexemes strict position lexemes) := by
  induction lexemes generalizing position with
  | nil =>
      rfl
  | cons lexeme rest ih =>
      cases lexeme with
      | numeral run =>
          have hrest := ih (position + run.length)
          simp only [ofLexemes, readNumber_shift, Nat.add_assoc, hrest]
          cases readNumber run position with
          | error fault => rfl
          | ok value =>
              cases ofLexemes strict (position + run.length) rest <;> rfl
      | mark c =>
          have hrest := ih (position + 1)
          simp only [ofLexemes, Nat.add_assoc, hrest]
          cases Symbol.ofMark? c with
          | some symbol =>
              dsimp only
              cases ofLexemes strict (position + 1) rest <;> rfl
          | none =>
              dsimp only
              split <;> rfl

theorem ofLexemes_append (position : Nat) (front rest : List Lexeme) :
    ofLexemes strict position (front ++ rest) = do
      let tokens ← ofLexemes strict position front
      let more ← ofLexemes strict (position + (front.flatMap Lexeme.chars).length) rest
      return tokens ++ more := by
  induction front generalizing position with
  | nil =>
      simp [ofLexemes]
  | cons lexeme front ih =>
      cases lexeme with
      | numeral run =>
          simp [ofLexemes, ih, Lexeme.chars, Nat.add_assoc]
      | mark c =>
          have hplace : position + 1 + (front.flatMap Lexeme.chars).length =
              position + ((Lexeme.mark c :: front).flatMap Lexeme.chars).length := by
            simp [Lexeme.chars, Nat.add_assoc, Nat.add_comm]
          rw [← hplace]
          simp only [List.cons_append, ofLexemes, ih]
          cases Symbol.ofMark? c with
          | some symbol => simp
          | none =>
              dsimp only
              split <;> rfl

/-- Texts that meet apart are scanned one after the other. -/
theorem scan_append {front rest : String} (h : MeetApart front.toList rest.toList) :
    scan strict (front ++ rest) = do
      let tokens ← scan strict front
      let more ← shiftScan front.length (scan strict rest)
      return tokens ++ more := by
  unfold scan
  rw [String.toList_append, Lexeme.split_append h, ofLexemes_append, Lexeme.flatMap_chars_split,
    Nat.zero_add, String.length_toList, ← ofLexemes_shift, Nat.add_zero]

end Token

end Abacus
