import Abacus.Proofs.Defects

/-!
# Blanks — skipping a character is reading a blank

A scan that skips foreign characters is a strict scan of the text in which they are blanks: neither a
foreign character nor a blank is part of a run, and neither has a token.  So the mode matters only for
texts with a foreign character in front of all other defects:

* `blanked` — the text with its foreign characters replaced;
* `Lexeme.split_map_blank` — its pieces are those of the text, replaced one by one;
* `Token.scan_blanked` — the strict scan of it is the lenient scan of the text;
* `Token.scan_eq_of_kind` — a strict scan that meets no foreign character is the lenient one;
* `lenient_eq_strict_blanked` — both modes compared, on scans and on evaluations.
-/

namespace Abacus

/-- A foreign character becomes a blank. -/
def blankForeign (c : Char) : Char := if isKnown c then c else ' '

/-- The text with a blank for each foreign character. -/
def blanked (text : String) : String := String.ofList (text.toList.map blankForeign)

theorem isKnown_blankForeign (c : Char) : isKnown (blankForeign c) = true := by
  unfold blankForeign
  split
  · assumption
  · decide

theorem blankForeign_of_isNumeric {c : Char} (h : isNumeric c = true) : blankForeign c = c := by
  unfold blankForeign isKnown
  simp [h]

theorem isNumeric_blankForeign (c : Char) : isNumeric (blankForeign c) = isNumeric c := by
  unfold blankForeign
  split
  · rfl
  · rename_i hforeign
    rw [isNumeric_of_isKnown_eq_false (Bool.eq_false_iff.2 hforeign)]
    decide

theorem ofMark?_blankForeign (c : Char) : Symbol.ofMark? (blankForeign c) = Symbol.ofMark? c := by
  unfold blankForeign
  split
  · rfl
  · rename_i hforeign
    have hmark : isMark c = false := by
      simp only [isKnown, Bool.or_eq_true, not_or, Bool.not_eq_true] at hforeign
      exact hforeign.1.2
    rw [Option.not_isSome_iff_eq_none.1 (Bool.eq_false_iff.1 hmark)]
    decide

/-! ## Pieces -/

namespace Lexeme

/-- The piece with a blank for a foreign character; runs have none. -/
def blank : Lexeme → Lexeme
  | .numeral run => .numeral run
  | .mark c => .mark (blankForeign c)

theorem join_map_blank (c : Char) (ls : List Lexeme) :
    join c (ls.map blank) = (join c ls).map blank := by
  match ls with
  | [] => rfl
  | .numeral run :: rest => rfl
  | .mark d :: rest => rfl

theorem split_map_blank (cs : List Char) :
    split (cs.map blankForeign) = (split cs).map blank := by
  induction cs with
  | nil =>
      rfl
  | cons c cs ih =>
      rw [List.map_cons, split, split, isNumeric_blankForeign, ih]
      split
      · rename_i hnumeric
        rw [blankForeign_of_isNumeric hnumeric, join_map_blank]
      · rfl

theorem placed_map_blank (place : Nat) (ls : List Lexeme) :
    placed place (ls.map blank) = (placed place ls).map (fun piece => (piece.1, piece.2.blank)) := by
  induction ls generalizing place with
  | nil =>
      rfl
  | cons l ls ih =>
      have hlength : l.blank.chars.length = l.chars.length := by
        cases l <;> rfl
      simp only [List.map_cons, placed, hlength, ih]

theorem fault?_blank (place : Nat) (l : Lexeme) :
    l.blank.fault? true place = l.fault? false place := by
  cases l with
  | numeral run => rfl
  | mark c => simp [blank, fault?, isKnown_blankForeign]

theorem token?_blank (place : Nat) (l : Lexeme) : l.blank.token? place = l.token? place := by
  cases l with
  | numeral run => rfl
  | mark c => simp [blank, token?, ofMark?_blankForeign]

end Lexeme

/-! ## Scans -/

namespace Token

open Lexeme

theorem scan_blanked (text : String) : scan true (blanked text) = scan false text := by
  have hpieces : placed 0 (split (blanked text).toList) =
      (placed 0 (split text.toList)).map (fun piece => (piece.1, piece.2.blank)) := by
    rw [blanked, String.toList_ofList, split_map_blank, placed_map_blank]
  rw [scan_eq, scan_eq, hpieces]
  -- Each piece keeps its fault and its token.
  simp only [firstFault?, Lexeme.tokens, List.findSome?_map, List.filterMap_map,
    Function.comp_def, fault?_blank, token?_blank]

end Token

namespace Defect

variable {text : List Char} {place : Nat} {fault : Fault}

/-- The lenient mode has the defects of the strict one other than foreign characters. -/
theorem lenient_iff :
    Defect false text place fault ↔
      Defect true text place fault ∧ fault.kind ≠ .unexpectedCharacter := by
  constructor
  · intro h
    cases h with
    | notNumeral hrun hcharacters => exact ⟨.notNumeral hrun hcharacters, by simp [Fault.kind]⟩
    | tooLarge hrun hnumeral hlarge => exact ⟨.tooLarge hrun hnumeral hlarge, by simp [Fault.kind]⟩
    | foreign hstrict hc hforeign => cases hstrict
  · rintro ⟨h, hkind⟩
    cases h with
    | notNumeral hrun hcharacters => exact .notNumeral hrun hcharacters
    | tooLarge hrun hnumeral hlarge => exact .tooLarge hrun hnumeral hlarge
    | foreign hstrict hc hforeign => exact absurd rfl hkind

theorem exists_run (h : Defect false text place fault) : ∃ run, IsRunAt text place run := by
  cases h with
  | notNumeral hrun hcharacters => exact ⟨_, hrun⟩
  | tooLarge hrun hnumeral hlarge => exact ⟨_, hrun⟩
  | foreign hstrict hc hforeign => cases hstrict

theorem exists_foreign {strict : Bool} (h : Defect strict text place fault)
    (hkind : fault.kind = .unexpectedCharacter) :
    ∃ c, text[place]? = some c ∧ isKnown c = false := by
  cases h with
  | notNumeral hrun hcharacters => cases hkind
  | tooLarge hrun hnumeral hlarge => cases hkind
  | foreign hstrict hc hforeign => exact ⟨_, hc, hforeign⟩

/-- No run starts at a foreign character, so the other defect is not at its place. -/
theorem place_lt {strict : Bool} {q : Nat} {other : Fault} (h : Defect strict text place fault)
    (hkind : fault.kind = .unexpectedCharacter) (hother : Defect false text q other)
    (hle : place ≤ q) : place < q := by
  rcases h.exists_foreign hkind with ⟨c, hc, hforeign⟩
  rcases hother.exists_run with ⟨run, hrun⟩
  have hlength : 0 < run.length := List.length_pos_of_ne_nil hrun.ne_nil
  -- At the same place, the foreign character would be part of the run.
  have hcases := hrun.apart hc (isNumeric_of_isKnown_eq_false hforeign)
  omega

end Defect

namespace Token

variable {text : String}

/-- A strict scan that does not end at a foreign character is the lenient one. -/
theorem scan_eq_of_kind
    (h : ∀ fault, scan true text = .error fault → fault.kind ≠ .unexpectedCharacter) :
    scan true text = scan false text := by
  cases hstrict : scan true text with
  | error fault =>
      -- The first defect of the strict mode is one of the lenient mode, which has no others.
      rcases scan_eq_error_iff.1 hstrict with ⟨place, hdefect, hfirst⟩
      symm
      refine scan_eq_error_iff.2 ⟨place, Defect.lenient_iff.2 ⟨hdefect, h fault hstrict⟩, ?_⟩
      intro q other hother
      exact hfirst q other (Defect.lenient_iff.1 hother).1
  | ok tokens =>
      cases hlenient : scan false text with
      | error fault =>
          -- The defect it reports would be one of the strict mode as well.
          rcases scan_eq_error_iff.1 hlenient with ⟨place, hdefect, -⟩
          rcases exists_scan_eq_error (Defect.lenient_iff.1 hdefect).1 with ⟨first, hfirst⟩
          rw [hstrict] at hfirst
          cases hfirst
      | ok others =>
          rw [(eq_tokens_of_scan hstrict).1, (eq_tokens_of_scan hlenient).1]

end Token

/-- The lenient mode is the strict mode on the text with its foreign characters blanked.  So the modes
differ only where the strict one reports a foreign character, and no fault of the text that the lenient
one reports then stands in front of it. -/
theorem lenient_eq_strict_blanked (text : String) :
    Token.scan false text = Token.scan true (blanked text) ∧
    evaluate false text = evaluate true (blanked text) ∧
    ((∀ fault, evaluate true text = .error fault → fault.kind ≠ .unexpectedCharacter) →
      evaluate true text = evaluate false text) ∧
    ∀ fault, evaluate true text = .error fault → fault.kind = .unexpectedCharacter →
      ∃ place, fault.position = some place ∧
        ∀ other, Token.scan false text = .error other →
          ∃ q, other.position = some q ∧ place < q := by
  have hscan : Token.scan false text = Token.scan true (blanked text) :=
    (Token.scan_blanked text).symm
  refine ⟨hscan, ?_, ?_, ?_⟩
  · unfold evaluate
    rw [hscan]
  · intro hkind
    unfold evaluate
    rw [Token.scan_eq_of_kind]
    intro fault hfault
    exact hkind fault (evaluate_eq_scan_error_iff.1 hfault).1
  · intro fault hfault hkind
    have hstrict := evaluate_eq_scan_error_iff.2 ⟨hfault, Or.inr hkind⟩
    rcases Token.scan_eq_error_iff.1 hstrict with ⟨place, hdefect, hfirst⟩
    refine ⟨place, hdefect.position_eq, ?_⟩
    intro other hlenient
    rcases Token.scan_eq_error_iff.1 hlenient with ⟨q, hother, -⟩
    have hle := hfirst q other (Defect.lenient_iff.1 hother).1
    exact ⟨q, hother.position_eq, hdefect.place_lt hkind hother hle⟩

/-- A subscript separates two runs, a text without foreign characters, and a foreign character in front
of a run that is no number. -/
theorem lenient_eq_strict_blanked_subscript :
    Token.scan false "1₂1+" = Token.scan true "1 1+" ∧
      evaluate true "1/0" = evaluate false "1/0" ∧
      evaluate true "#1.2.3" = .error (.unexpectedCharacter '#' 0) ∧
      Token.scan false "#1.2.3" = .error (.invalidNumber "1.2.3" 1) ∧
      ∃ q, (Fault.invalidNumber "1.2.3" 1).position = some q ∧ 0 < q := by
  have hblanked : blanked "1₂1+" = "1 1+" := by decide +kernel
  have hvalue : evaluate true "1/0" = .error (.divisionByZero .one .zero) := by decide +kernel
  have hstrict : evaluate true "#1.2.3" = .error (.unexpectedCharacter '#' 0) := by decide +kernel
  have hlenient : Token.scan false "#1.2.3" = .error (.invalidNumber "1.2.3" 1) := by
    decide +kernel
  refine ⟨?_, ?_, hstrict, hlenient, ?_⟩
  · rw [← hblanked]
    exact (lenient_eq_strict_blanked "1₂1+").1
  · refine (lenient_eq_strict_blanked "1/0").2.2.1 ?_
    intro fault hfault
    rw [hvalue] at hfault
    cases hfault
    decide
  · rcases (lenient_eq_strict_blanked "#1.2.3").2.2.2 _ hstrict rfl with ⟨place, hplace, hbehind⟩
    cases hplace
    exact hbehind _ hlenient

end Abacus
