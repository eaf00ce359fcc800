import Abacus.Proofs.Alphabet
import Abacus.Proofs.Literals
import Abacus.Proofs.Places

/-!
# Scans — the tokens of a text are its symbols

A scan goes from piece to piece.  Each piece stands for a token, or for nothing, or is at fault, and
what it is depends on the piece and its place alone.  So a scan finds the first fault among the pieces,
or else the tokens of all of them:

* `Lexeme.token?`, `Lexeme.fault?` — what a piece at its place stands for, and what is wrong with it;
* `Token.scan_eq` — a scan in terms of these;
* `Lexeme.Denotes` — the symbol that a piece is written for;
* `tokens_eq_symbols` — the tokens of a text are its symbols in their order.
-/

namespace Abacus

namespace Lexeme

/-! ## One piece -/

/-- The token that a piece stands for, if it stands for one. -/
def token? (place : Nat) : Lexeme → Option Token
  | .numeral run => (Token.readNumber run place).toOption.map (⟨.number ·, place⟩)
  | .mark c => (Symbol.ofMark? c).map (⟨·, place⟩)

/-- What is wrong with a piece; in strict mode a foreign character is. -/
def fault? (strict : Bool) (place : Nat) : Lexeme → Option Fault
  | .numeral run =>
      match Token.readNumber run place with
      | .error fault => some fault
      | .ok _ => none
  | .mark c => if strict && !isKnown c then some (.unexpectedCharacter c place) else none

/-- What is wrong with the first piece that is at fault. -/
def firstFault? (strict : Bool) (pieces : List (Nat × Lexeme)) : Option Fault :=
  pieces.findSome? fun piece => piece.2.fault? strict piece.1

def tokens (pieces : List (Nat × Lexeme)) : List Token :=
  pieces.filterMap fun piece => piece.2.token? piece.1

theorem position_of_token? {l : Lexeme} {place : Nat} {token : Token}
    (h : l.token? place = some token) : token.position = place := by
  cases l with
  | numeral run =>
      rcases Option.map_eq_some_iff.1 h with ⟨value, -, rfl⟩
      rfl
  | mark c =>
      rcases Option.map_eq_some_iff.1 h with ⟨symbol, -, rfl⟩
      rfl

end Lexeme

/-! ## All pieces -/

namespace Token

open Lexeme

variable {strict : Bool}

/-- One piece is at fault, or its token, if it has one, comes before those of the rest. -/
theorem ofLexemes_cons (place : Nat) {l : Lexeme} (hl : l.IsWhole) (rest : List Lexeme) :
    ofLexemes strict place (l :: rest) =
      match l.fault? strict place with
      | some fault => .error fault
      | none => (ofLexemes strict (place + l.chars.length) rest).map ((l.token? place).toList ++ ·) := by
  cases l with
  | numeral run =>
      simp only [ofLexemes, fault?, token?, chars]
      cases readNumber run place with
      | error fault => rfl
      | ok value => cases ofLexemes strict (place + run.length) rest <;> rfl
  | mark c =>
      have hnumeric : isNumeric c = false := hl
      simp only [ofLexemes, fault?, token?, chars, isKnown, isMark, hnumeric]
      cases Symbol.ofMark? c with
      | some symbol =>
          -- Operators and brackets are known in both modes.
          cases ofLexemes strict (place + 1) rest <;> simp [Except.map]
      | none =>
          by_cases hforeign : (strict && !Text.isBlank c) = true
          · simp [hforeign]
          · simp only [Bool.not_eq_true] at hforeign
            cases ofLexemes strict (place + 1) rest <;> simp [hforeign, Except.map]

/-- A scan finds the first fault among the pieces, or else all their tokens. -/
theorem ofLexemes_eq (place : Nat) {ls : List Lexeme} (hls : ∀ l ∈ ls, l.IsWhole) :
    ofLexemes strict place ls =
      match firstFault? strict (placed place ls) with
      | some fault => .error fault
      | none => .ok (tokens (placed place ls)) := by
  induction ls generalizing place with
  | nil =>
      rfl
  | cons l rest ih =>
      rcases List.forall_mem_cons.1 hls with ⟨hl, hrest⟩
      rw [ofLexemes_cons place hl, ih (place + l.chars.length) hrest]
      simp only [firstFault?, tokens, placed, List.findSome?_cons, List.filterMap_cons]
      cases l.fault? strict place with
      | some fault =>
          rfl
      | none =>
          cases l.token? place <;> cases List.findSome? _ (placed _ rest) <;> rfl

theorem scan_eq (text : String) :
    scan strict text =
      match firstFault? strict (placed 0 (split text.toList)) with
      | some fault => .error fault
      | none => .ok (tokens (placed 0 (split text.toList))) :=
  ofLexemes_eq 0 (isWhole_of_mem_split text.toList)

end Token

/-! ## Symbols -/

theorem Operator.char_of_ofChar? {c : Char} {op : Operator} (h : Operator.ofChar? c = some op) :
    op.char = c := by
  unfold Operator.ofChar? at h
  split at h <;> cases h <;> rfl

namespace Lexeme

/-- A numeral is written for the number nearest to it, and a mark for its operator or bracket. -/
inductive Denotes : Lexeme → Symbol → Prop
  | number {run : List Char} {value : Binary64} (hnumeral : IsNumeral run)
      (hrounded : IsRounded run value) : Denotes (.numeral run) (.number value)
  | operator (op : Operator) : Denotes (.mark op.char) (.operator op)
  | opening : Denotes (.mark '(') .opening
  | closing : Denotes (.mark ')') .closing

/-- The pieces that are written for a symbol: all runs, and these six characters. -/
def IsSymbol : Lexeme → Prop
  | .numeral _ => True
  | .mark c => c ∈ "+-*/()".toList

theorem denotes_of_ofMark? {c : Char} {symbol : Symbol} (h : Symbol.ofMark? c = some symbol) :
    (mark c).Denotes symbol := by
  unfold Symbol.ofMark? at h
  split at h
  · cases h
    exact Denotes.opening
  · cases h
    exact Denotes.closing
  · rcases Option.map_eq_some_iff.1 h with ⟨op, hop, rfl⟩
    rw [← Operator.char_of_ofChar? hop]
    exact Denotes.operator op

theorem denotes_of_token? {l : Lexeme} (hl : l.IsWhole) {place : Nat} {token : Token}
    (h : l.token? place = some token) : l.Denotes token.symbol := by
  cases l with
  | numeral run =>
      rcases Option.map_eq_some_iff.1 h with ⟨value, hvalue, rfl⟩
      cases hread : Token.readNumber run place with
      | error fault =>
          rw [hread] at hvalue
          cases hvalue
      | ok other =>
          rw [hread] at hvalue
          cases hvalue
          have hrounded := Token.isRounded_of_readNumber place hl.2 hread
          exact Denotes.number hrounded.1 hrounded.2
  | mark c =>
      rcases Option.map_eq_some_iff.1 h with ⟨symbol, hsymbol, rfl⟩
      exact denotes_of_ofMark? hsymbol

theorem exists_token? {l : Lexeme} (hl : l.IsSymbol) {strict : Bool} {place : Nat}
    (hfault : l.fault? strict place = none) : ∃ token, l.token? place = some token := by
  cases l with
  | numeral run =>
      cases hread : Token.readNumber run place with
      | error fault =>
          simp [fault?, hread] at hfault
      | ok value =>
          exact ⟨⟨.number value, place⟩, by simp [token?, hread, Except.toOption]⟩
  | mark c =>
      have hmarks : "+-*/()".toList.all isMark = true := by decide
      rcases Option.isSome_iff_exists.1 (List.all_eq_true.1 hmarks c hl) with ⟨symbol, hsymbol⟩
      exact ⟨⟨symbol, place⟩, by simp [token?, hsymbol]⟩

end Lexeme

theorem IsRunAt.apart {text run : List Char} {start place : Nat} {c : Char}
    (hrun : IsRunAt text start run) (hc : text[place]? = some c) (hnumeric : isNumeric c = false) :
    place < start ∨ start + run.length ≤ place := by
  rcases hrun with ⟨front, rest, rfl, rfl, -, hall, -, -⟩
  by_contra hinside
  -- A character inside the run is one of its digits and points.
  have hget : run[place - front.length]? = some c := by
    rw [List.append_assoc, List.getElem?_append_right (by omega),
      List.getElem?_append_left (by omega)] at hc
    exact hc
  have hdigit := hall c (List.mem_of_getElem? hget)
  rw [hnumeric] at hdigit
  cases hdigit

theorem mem_numeric_of_isNumeric {c : Char} (h : isNumeric c = true) :
    c ∈ "0123456789.".toList := by
  have hfilter : Key.characters.filter isNumeric = "0123456789.".toList := by decide
  rw [← hfilter]
  exact List.mem_filter.2 ⟨Key.mem_characters_of_isNumeric h, h⟩

/-! ## Tokens of a text -/

namespace Token

open Lexeme

variable {strict : Bool} {text : String} {tokens : List Token}

/-- A scan that succeeds has met no fault, and its tokens are those of the pieces. -/
theorem eq_tokens_of_scan (h : scan strict text = .ok tokens) :
    tokens = Lexeme.tokens (placed 0 (split text.toList)) ∧
      ∀ l place, StandsAt text.toList place l → l.fault? strict place = none := by
  rw [scan_eq] at h
  cases hfault : firstFault? strict (placed 0 (split text.toList)) with
  | some fault =>
      rw [hfault] at h
      cases h
  | none =>
      rw [hfault] at h
      cases h
      refine ⟨rfl, ?_⟩
      intro l place hstands
      exact List.findSome?_eq_none_iff.1 hfault _ (mem_placed_of_standsAt hstands)

theorem mem_tokens_iff {token : Token} :
    token ∈ Lexeme.tokens (placed 0 (split text.toList)) ↔
      ∃ l : Lexeme, l.StandsAt text.toList token.position ∧
        l.token? token.position = some token := by
  unfold Lexeme.tokens
  rw [List.mem_filterMap]
  constructor
  · rintro ⟨⟨place, l⟩, hmem, htoken⟩
    -- A token has the place of its piece.
    have hplace : token.position = place := position_of_token? htoken
    subst hplace
    exact ⟨l, standsAt_of_mem_placed hmem, htoken⟩
  · rintro ⟨l, hstands, htoken⟩
    exact ⟨(token.position, l), mem_placed_of_standsAt hstands, htoken⟩

theorem pairwise_tokens (text : String) :
    (Lexeme.tokens (placed 0 (split text.toList))).Pairwise (fun a b => a.position < b.position) := by
  refine List.Pairwise.filterMap _ ?_ (pairwise_placed_split text.toList)
  intro first second hlt a ha b hb
  rw [position_of_token? ha, position_of_token? hb]
  exact hlt

end Token

/-- The tokens of a text stand in the order of their places, and they are its symbols: each token is
what the one piece at its place is written for, and each piece that is written for a symbol has its
token.
Nothing but ASCII digits and points is part of a run. -/
theorem tokens_eq_symbols (strict : Bool) (text : String) (tokens : List Token)
    (hscan : Token.scan strict text = .ok tokens) :
    tokens.Pairwise (fun a b => a.position < b.position) ∧
    (∀ token ∈ tokens, ∃! l : Lexeme,
      l.StandsAt text.toList token.position ∧ l.Denotes token.symbol) ∧
    (∀ (l : Lexeme) (place : Nat), l.StandsAt text.toList place → l.IsSymbol →
      ∃ symbol, ⟨symbol, place⟩ ∈ tokens ∧ l.Denotes symbol) ∧
    ∀ (place start : Nat) (c : Char) (run : List Char), text.toList[place]? = some c →
      c ∉ "0123456789.".toList → IsRunAt text.toList start run →
        place < start ∨ start + run.length ≤ place := by
  rcases Token.eq_tokens_of_scan hscan with ⟨rfl, hfaults⟩
  refine ⟨Token.pairwise_tokens text, ?_, ?_, ?_⟩
  · intro token htoken
    rcases Token.mem_tokens_iff.1 htoken with ⟨l, hstands, hl⟩
    refine ⟨l, ⟨hstands, Lexeme.denotes_of_token? hstands.isWhole hl⟩, ?_⟩
    intro other hother
    exact hother.1.unique hstands
  · intro l place hstands hsymbol
    rcases Lexeme.exists_token? hsymbol (hfaults l place hstands) with ⟨token, htoken⟩
    have hplace : token.position = place := Lexeme.position_of_token? htoken
    subst hplace
    exact ⟨token.symbol, Token.mem_tokens_iff.2 ⟨l, hstands, htoken⟩,
      Lexeme.denotes_of_token? hstands.isWhole htoken⟩
  · intro place start c run hc hforeign hrun
    refine hrun.apart hc (Bool.eq_false_iff.2 ?_)
    intro hnumeric
    exact hforeign (mem_numeric_of_isNumeric hnumeric)

/-- An Arabic digit three is no digit of a run: the runs around it have a token each. -/
theorem tokens_eq_symbols_apart :
    let two : Binary64 := .ofUnits false (2 * oneUnits) 1
    let tokens : List Token := [⟨.number .one, 0⟩, ⟨.operator .plus, 1⟩, ⟨.number two, 3⟩]
    Token.scan false "1+٣2" = .ok tokens ∧
      tokens.Pairwise (fun a b => a.position < b.position) ∧
      (∃! l : Lexeme, l.StandsAt "1+٣2".toList 3 ∧ l.Denotes (.number two)) ∧
      ∃ symbol, ⟨symbol, 1⟩ ∈ tokens ∧ (Lexeme.mark '+').Denotes symbol := by
  intro two tokens
  have hscan : Token.scan false "1+٣2" = .ok tokens := by decide +kernel
  rcases tokens_eq_symbols false "1+٣2" tokens hscan with ⟨hordered, hdenotes, hsymbols, -⟩
  refine ⟨hscan, hordered, hdenotes ⟨.number two, 3⟩ (by simp [tokens]), ?_⟩
  have hplus : '+' ∈ "+-*/()".toList := by decide
  exact hsymbols (.mark '+') 1 ⟨by decide, by decide⟩ hplus

end Abacus
