import Abacus.Proofs.Nesting
import Abacus.Proofs.Scans

/-!
# Defects — a report points at the first cause

The defects of a text are told from the text alone: a run that is no number, a run that is too large,
and in strict mode a foreign character, each at its place.  A scan reports the one that stands first,
and evaluation reports what the scan reports, whatever else is wrong with the text.  Only one more
fault has a place, and it is the first closing bracket that is one too many:

* `Defect` — what is wrong with a text at a place;
* `defect_iff` — the defects are the faults of the pieces;
* `Token.scan_eq_error_iff` — a scan reports the first defect;
* `evaluate_eq_scan_error_iff` — and so does evaluation;
* `faults_point_at_first_cause` — all that a place in a report says.
-/

namespace Abacus

/-- What is wrong with a text at one of its places. -/
inductive Defect (strict : Bool) (text : List Char) (place : Nat) : Fault → Prop
  | notNumeral {run : List Char} (hrun : IsRunAt text place run)
      (hcharacters : 1 < run.count '.' ∨ ∀ c ∈ run, c.isDigit = false) :
      Defect strict text place (.invalidNumber (String.ofList run) place)
  | tooLarge {run : List Char} (hrun : IsRunAt text place run) (hnumeral : IsNumeral run)
      (hlarge : IsTooLarge run) : Defect strict text place (.numberOutOfRange run.length place)
  | foreign {c : Char} (hstrict : strict = true) (hc : text[place]? = some c)
      (hforeign : isKnown c = false) : Defect strict text place (.unexpectedCharacter c place)

theorem not_isNumeral_iff {run : List Char} :
    ¬ IsNumeral run ↔ 1 < run.count '.' ∨ ∀ c ∈ run, c.isDigit = false := by
  unfold IsNumeral
  rw [not_and_or, Nat.not_le]
  simp

namespace Defect

variable {strict : Bool} {text : List Char} {place : Nat} {fault : Fault}

theorem position_eq (h : Defect strict text place fault) : fault.position = some place := by
  cases h <;> rfl

theorem kind_eq (h : Defect strict text place fault) :
    fault.kind = .numericParseFailure ∨ fault.kind = .unexpectedCharacter := by
  cases h with
  | notNumeral hrun hcharacters => exact Or.inl rfl
  | tooLarge hrun hnumeral hlarge => exact Or.inl rfl
  | foreign hstrict hc hforeign => exact Or.inr rfl

end Defect

/-! ## Faults of the pieces -/

namespace Lexeme

variable {strict : Bool} {place : Nat} {fault : Fault}

theorem fault?_numeral_eq_some_iff {run : List Char} (hnumeric : ∀ c ∈ run, isNumeric c = true) :
    (numeral run).fault? strict place = some fault ↔
      (¬ IsNumeral run ∧ fault = .invalidNumber (String.ofList run) place) ∨
      IsNumeral run ∧ IsTooLarge run ∧ fault = .numberOutOfRange run.length place := by
  by_cases hnumeral : IsNumeral run
  · by_cases hlarge : IsTooLarge run
    · simp [fault?, Token.readNumber_of_isTooLarge place hnumeric hnumeral hlarge, hnumeral, hlarge,
        eq_comm]
    · rcases Token.exists_readNumber place hnumeric hnumeral hlarge with ⟨value, hread, -⟩
      simp [fault?, hread, hnumeral, hlarge]
  · simp [fault?, Token.readNumber_of_not_isNumeral place hnumeric hnumeral, hnumeral, eq_comm]

theorem fault?_mark_eq_some_iff {c : Char} :
    (mark c).fault? strict place = some fault ↔
      strict = true ∧ isKnown c = false ∧ fault = .unexpectedCharacter c place := by
  simp only [fault?, Option.ite_none_right_eq_some, Option.some.injEq, Bool.and_eq_true,
    Bool.not_eq_true', and_assoc]
  rw [eq_comm (b := fault)]

end Lexeme

theorem isNumeric_of_isKnown_eq_false {c : Char} (h : isKnown c = false) : isNumeric c = false := by
  unfold isKnown at h
  simp only [Bool.or_eq_false_iff] at h
  exact h.1.1

/-- A text has exactly the defects of its pieces. -/
theorem defect_iff {strict : Bool} {text : List Char} {place : Nat} {fault : Fault} :
    Defect strict text place fault ↔
      ∃ l : Lexeme, l.StandsAt text place ∧ l.fault? strict place = some fault := by
  constructor
  · intro h
    cases h with
    | @notNumeral run hrun hcharacters =>
        exact ⟨.numeral run, hrun, (Lexeme.fault?_numeral_eq_some_iff hrun.all_isNumeric).2
          (Or.inl ⟨not_isNumeral_iff.2 hcharacters, rfl⟩)⟩
    | @tooLarge run hrun hnumeral hlarge =>
        exact ⟨.numeral run, hrun, (Lexeme.fault?_numeral_eq_some_iff hrun.all_isNumeric).2
          (Or.inr ⟨hnumeral, hlarge, rfl⟩)⟩
    | @foreign c hstrict hc hforeign =>
        exact ⟨.mark c, ⟨hc, isNumeric_of_isKnown_eq_false hforeign⟩,
          Lexeme.fault?_mark_eq_some_iff.2 ⟨hstrict, hforeign, rfl⟩⟩
  · rintro ⟨l, hstands, hfault⟩
    cases l with
    | numeral run =>
        rcases (Lexeme.fault?_numeral_eq_some_iff hstands.isWhole.2).1 hfault with
          ⟨hnot, rfl⟩ | ⟨hnumeral, hlarge, rfl⟩
        · exact Defect.notNumeral hstands (not_isNumeral_iff.1 hnot)
        · exact Defect.tooLarge hstands hnumeral hlarge
    | mark c =>
        rcases Lexeme.fault?_mark_eq_some_iff.1 hfault with ⟨hstrict, hforeign, rfl⟩
        exact Defect.foreign hstrict hstands.1 hforeign

/-! ## The first fault -/

/-- Among pieces in the order of their places, the first one at fault is the one that stands first. -/
theorem Lexeme.firstFault?_eq_some_iff {strict : Bool} {pieces : List (Nat × Lexeme)} {fault : Fault}
    (hordered : pieces.Pairwise (fun a b => a.1 < b.1)) :
    firstFault? strict pieces = some fault ↔
      ∃ place l, (place, l) ∈ pieces ∧ l.fault? strict place = some fault ∧
        ∀ q other, (q, other) ∈ pieces → other.fault? strict q ≠ none → place ≤ q := by
  unfold firstFault?
  constructor
  · intro h
    rcases List.findSome?_eq_some_iff.1 h with ⟨front, ⟨place, l⟩, rest, rfl, hfault, hfront⟩
    refine ⟨place, l, by simp, hfault, ?_⟩
    intro q other hother hne
    rcases List.mem_append.1 hother with hbefore | hbehind
    · exact absurd (hfront _ hbefore) hne
    · rcases List.mem_cons.1 hbehind with hsame | hrest
      · cases hsame
        exact Nat.le_refl place
      · -- What follows this piece stands farther on.
        have hrest' := (List.pairwise_cons.1 (List.pairwise_append.1 hordered).2.1).1 _ hrest
        exact Nat.le_of_lt hrest'
  · rintro ⟨place, l, hmem, hfault, hfirst⟩
    rcases List.append_of_mem hmem with ⟨front, rest, rfl⟩
    refine List.findSome?_eq_some_iff.2 ⟨front, (place, l), rest, rfl, hfault, ?_⟩
    rintro ⟨q, other⟩ hother
    -- A fault in front of this piece would not stand behind it.
    have hlt : q < place := (List.pairwise_append.1 hordered).2.2 _ hother _ List.mem_cons_self
    by_contra hne
    have hle := hfirst q other (List.mem_append_left _ hother) hne
    omega

namespace Token

open Lexeme

variable {strict : Bool} {text : String} {fault : Fault}

theorem scan_eq_error_iff_firstFault? :
    scan strict text = .error fault ↔
      firstFault? strict (placed 0 (split text.toList)) = some fault := by
  rw [scan_eq]
  cases firstFault? strict (placed 0 (split text.toList)) with
  | none => simp
  | some other => simp

/-- A scan that fails reports the first defect of the text. -/
theorem scan_eq_error_iff :
    scan strict text = .error fault ↔
      ∃ place, Defect strict text.toList place fault ∧
        ∀ q other, Defect strict text.toList q other → place ≤ q := by
  rw [scan_eq_error_iff_firstFault?, firstFault?_eq_some_iff (pairwise_placed_split text.toList)]
  simp only [defect_iff, mem_placed_split_iff]
  constructor
  · rintro ⟨place, l, hstands, hfault, hfirst⟩
    refine ⟨place, ⟨l, hstands, hfault⟩, ?_⟩
    rintro q other ⟨m, hm, hother⟩
    exact hfirst q m hm (Option.ne_none_iff_exists'.2 ⟨other, hother⟩)
  · rintro ⟨place, ⟨l, hstands, hfault⟩, hfirst⟩
    refine ⟨place, l, hstands, hfault, ?_⟩
    intro q m hm hne
    rcases Option.ne_none_iff_exists'.1 hne with ⟨other, hother⟩
    exact hfirst q other ⟨m, hm, hother⟩

/-- A text with a defect does not scan. -/
theorem exists_scan_eq_error {place : Nat} (h : Defect strict text.toList place fault) :
    ∃ first, scan strict text = .error first := by
  cases hscan : scan strict text with
  | error first =>
      exact ⟨first, rfl⟩
  | ok tokens =>
      rcases defect_iff.1 h with ⟨l, hstands, hfault⟩
      rw [(eq_tokens_of_scan hscan).2 l place hstands] at hfault
      cases hfault

end Token

/-! ## Reports -/

/-- The faults of a scan are those reports of evaluation that are about the text. -/
theorem evaluate_eq_scan_error_iff {strict : Bool} {text : String} {fault : Fault} :
    Token.scan strict text = .error fault ↔
      evaluate strict text = .error fault ∧
        (fault.kind = .numericParseFailure ∨ fault.kind = .unexpectedCharacter) := by
  unfold evaluate
  constructor
  · intro hscan
    rcases Token.scan_eq_error_iff.1 hscan with ⟨place, hdefect, -⟩
    rw [hscan]
    exact ⟨rfl, hdefect.kind_eq⟩
  · rintro ⟨hfault, hkind⟩
    rcases bind_eq_error_iff.1 hfault with hscan | ⟨tokens, -, htokens⟩
    · exact hscan
    · -- Tokens have faults of other kinds only.
      rcases Fault.kind_of_evaluateTokens htokens with hother | hother | hother
      all_goals
        rw [hother] at hkind
        simp at hkind

theorem evaluate_of_scan {strict : Bool} {text : String} {tokens : List Token}
    (hscan : Token.scan strict text = .ok tokens) :
    evaluate strict text = evaluateTokens tokens := by
  unfold evaluate
  rw [hscan]
  rfl

/-- The only fault of tokens that has a place is that of the first closing bracket that is one too
many. -/
theorem Fault.firstUnmatched_of_position {tokens : List Token} {fault : Fault} {place : Nat}
    (h : evaluateTokens tokens = .error fault) (hplace : fault.position = some place) :
    fault = .unmatchedClosing place ∧ FirstUnmatched tokens place := by
  rcases Fault.cases_of_evaluateTokens h with harithmetic | ⟨q, rfl, hending⟩ | ⟨-, hnone⟩
  · rw [harithmetic.position_eq_none] at hplace
    cases hplace
  · cases hplace
    exact ⟨rfl, Postfix.firstUnmatched_of_ending hending⟩
  · rw [hnone] at hplace
    cases hplace

/-- Tokens whose brackets do not pair off have no value. -/
theorem exists_evaluateTokens_eq_error {tokens : List Token}
    (h : (∃ front, front <+: tokens.map Token.symbol ∧ Overclosed front) ∨
      NeverClosed (tokens.map Token.symbol)) :
    ∃ fault, evaluateTokens tokens = .error fault := by
  cases hvalue : evaluateTokens tokens with
  | error fault =>
      exact ⟨fault, rfl⟩
  | ok value =>
      have hpaired := paired_of_evaluateTokens hvalue
      rcases h with ⟨front, hfront, hover⟩ | hnever
      · exact absurd hover ((paired_zero_iff.1 hpaired).1 front hfront)
      · exact absurd hnever (not_neverClosed_of_paired hpaired)

/-- Evaluation reports a fault of the text exactly when the scan does, and it is the first defect of
the text.  Otherwise only a closing bracket is reported with its place, which is the first one that
closes a bracket too many; brackets that do not pair off are never accepted, and operations are
reported without a place. -/
theorem faults_point_at_first_cause (strict : Bool) (text : String) :
    (∀ fault, Token.scan strict text = .error fault ↔
      evaluate strict text = .error fault ∧
        (fault.kind = .numericParseFailure ∨ fault.kind = .unexpectedCharacter)) ∧
    ((∃ fault, Token.scan strict text = .error fault) ↔
      ∃ place fault, Defect strict text.toList place fault) ∧
    (∀ fault, Token.scan strict text = .error fault ↔
      ∃ place, fault.position = some place ∧ Defect strict text.toList place fault ∧
        ∀ q other, Defect strict text.toList q other → place ≤ q) ∧
    (∀ tokens, Token.scan strict text = .ok tokens →
      (∀ fault place, evaluate strict text = .error fault → fault.position = some place →
        fault = .unmatchedClosing place ∧ FirstUnmatched tokens place) ∧
      ((∃ front, front <+: tokens.map Token.symbol ∧ Overclosed front) ∨
          NeverClosed (tokens.map Token.symbol) →
        ∃ fault, evaluate strict text = .error fault)) ∧
    ∀ fault, evaluate strict text = .error fault →
      fault.kind = .divisionByZero ∨ fault.kind = .numericOverflow → fault.position = none := by
  refine ⟨fun fault => evaluate_eq_scan_error_iff, ?_, ?_, ?_, ?_⟩
  · constructor
    · rintro ⟨fault, hscan⟩
      rcases Token.scan_eq_error_iff.1 hscan with ⟨place, hdefect, -⟩
      exact ⟨place, fault, hdefect⟩
    · rintro ⟨place, fault, hdefect⟩
      exact Token.exists_scan_eq_error hdefect
  · intro fault
    rw [Token.scan_eq_error_iff]
    constructor
    · rintro ⟨place, hdefect, hfirst⟩
      exact ⟨place, hdefect.position_eq, hdefect, hfirst⟩
    · rintro ⟨place, -, hdefect, hfirst⟩
      exact ⟨place, hdefect, hfirst⟩
  · intro tokens hscan
    rw [evaluate_of_scan hscan]
    exact ⟨fun fault place => Fault.firstUnmatched_of_position, exists_evaluateTokens_eq_error⟩
  · intro fault _ harithmetic
    exact Fault.IsArithmetic.position_eq_none harithmetic

/-- A run that is no number behind a division by zero and a bracket without its pair, a bracket without
its pair in front of a division by zero, a bracket that stays open, and a division by zero alone. -/
theorem faults_point_at_first_cause_behind_others :
    let tokens : List Token :=
      [⟨.opening, 0⟩, ⟨.number .one, 1⟩, ⟨.closing, 2⟩, ⟨.closing, 3⟩, ⟨.operator .divide, 4⟩,
        ⟨.number .zero, 5⟩]
    (evaluate false "1/0)1.2.3" = .error (.invalidNumber "1.2.3" 4) ∧
      Defect false "1/0)1.2.3".toList 4 (.invalidNumber "1.2.3" 4) ∧
      ∀ q other, Defect false "1/0)1.2.3".toList q other → 4 ≤ q) ∧
    Token.scan true "(1))/0" = .ok tokens ∧
      evaluate true "(1))/0" = .error (.unmatchedClosing 3) ∧ FirstUnmatched tokens 3 ∧
    (∃ fault, evaluate true "0(1" = .error fault) ∧
      (Fault.divisionByZero .one .zero).position = none := by
  intro tokens
  have hfails : Token.scan false "1/0)1.2.3" = .error (.invalidNumber "1.2.3" 4) := by
    decide +kernel
  have hscan : Token.scan true "(1))/0" = .ok tokens := by decide +kernel
  have hfault : evaluate true "(1))/0" = .error (.unmatchedClosing 3) := by decide +kernel
  have hopen : Token.scan true "0(1" =
      .ok [⟨.number .zero, 0⟩, ⟨.opening, 1⟩, ⟨.number .one, 2⟩] := by
    decide +kernel
  have hzero : evaluate true "1/0" = .error (.divisionByZero .one .zero) := by decide +kernel
  refine ⟨?_, hscan, hfault, ?_, ?_, ?_⟩
  · rcases faults_point_at_first_cause false "1/0)1.2.3" with ⟨hreports, -, hfirst, -⟩
    rcases (hfirst _).1 hfails with ⟨place, hplace, hdefect, hbefore⟩
    cases hplace
    exact ⟨((hreports _).1 hfails).1, hdefect, hbefore⟩
  · rcases faults_point_at_first_cause true "(1))/0" with ⟨-, -, -, htokens, -⟩
    exact ((htokens tokens hscan).1 _ 3 hfault rfl).2
  · rcases faults_point_at_first_cause true "0(1" with ⟨-, -, -, htokens, -⟩
    refine (htokens _ hopen).2 (Or.inr ⟨[.number .zero], [.number .one], rfl, ?_⟩)
    intro part hpart
    -- Nothing is closed behind the bracket.
    have hcount : part.count .closing ≤ 0 := hpart.sublist.count_le .closing
    unfold Overclosed
    omega
  · rcases faults_point_at_first_cause true "1/0" with ⟨-, -, -, -, harithmetic⟩
    exact harithmetic _ hzero (Or.inl rfl)

end Abacus
