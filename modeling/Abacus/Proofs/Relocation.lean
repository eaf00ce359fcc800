import Abacus.Proofs.Defects

/-!
# Relocation — texts put together and pushed apart

All that is found in a text carries its place, and what stands in front of it decides nothing but this
place.  So texts that share no numeral are scanned one after the other.  Blanks between them move what
stands behind, and evaluation, which hands places on without looking at them, has the same value or a
fault of the same kind:

* `Fault.relocate`, `Token.relocate` — the same with another place;
* `Fault.exists_message` — a message names the place, and the rest of it does not depend on the place;
* `Stacks.step_relocate`, `evaluateTokens_relocate` — one token, and any tokens, at other places;
* `Token.scan_insert_blanks` — blanks put in between two texts;
* `texts_scanned_by_parts` — two texts put together, and pushed apart.
-/

namespace Abacus

/-! ## Other places -/

namespace Fault

/-- The fault with its place renumbered. -/
def relocate (move : Nat → Nat) : Fault → Fault
  | .invalidNumber literal p => .invalidNumber literal (move p)
  | .numberOutOfRange length p => .numberOutOfRange length (move p)
  | .unexpectedCharacter c p => .unexpectedCharacter c (move p)
  | .unmatchedClosing p => .unmatchedClosing (move p)
  | fault => fault

variable {move other : Nat → Nat} {fault : Fault}

theorem shift_eq_relocate (n : Nat) (fault : Fault) : fault.shift n = fault.relocate (n + ·) := by
  cases fault <;> rfl

@[simp] theorem kind_relocate (move : Nat → Nat) (fault : Fault) :
    (fault.relocate move).kind = fault.kind := by
  cases fault <;> rfl

theorem relocate_relocate (move other : Nat → Nat) (fault : Fault) :
    (fault.relocate move).relocate other = fault.relocate fun p => other (move p) := by
  cases fault <;> rfl

/-- Only the place of the fault itself counts. -/
theorem relocate_congr (h : ∀ p ∈ fault.position, move p = other p) :
    fault.relocate move = fault.relocate other := by
  cases fault with
  | invalidNumber literal p => simp only [relocate, h p rfl]
  | numberOutOfRange length p => simp only [relocate, h p rfl]
  | unexpectedCharacter c p => simp only [relocate, h p rfl]
  | unmatchedClosing p => simp only [relocate, h p rfl]
  | _ => rfl

theorem relocate_id (fault : Fault) : fault.relocate (fun p => p) = fault := by
  cases fault <;> rfl

theorem relocate_of_position_eq_none (h : fault.position = none) : fault.relocate move = fault := by
  calc
    fault.relocate move = fault.relocate fun p => p := relocate_congr (by simp [h])
    _ = fault := relocate_id fault

/-- A message names the place of its fault, between texts that do not depend on the place. -/
theorem exists_message {place : Nat} (h : fault.position = some place) :
    ∃ lead trail : String, ∀ move : Nat → Nat,
      (fault.relocate move).message = lead ++ toString (move place) ++ trail := by
  cases fault with
  | invalidNumber literal p =>
      cases h
      refine ⟨s!"Niepoprawna liczba {Text.quote literal} na pozycji ", "", fun move => ?_⟩
      exact String.append_empty.symm
  | numberOutOfRange length p =>
      cases h
      refine ⟨"Liczba poza zakresem na pozycji ", s!" ({length} znaków)", fun move => ?_⟩
      unfold message relocate
      simp only [String.append_assoc]
      rfl
  | unexpectedCharacter c p =>
      cases h
      refine ⟨s!"Nieoczekiwany znak {Text.quote (String.singleton c)} na pozycji ", "",
        fun move => ?_⟩
      exact String.append_empty.symm
  | unmatchedClosing p =>
      cases h
      exact ⟨"Nawias ')' bez pary na pozycji ", "", fun move => String.append_empty.symm⟩
  | _ => cases h

end Fault

namespace Token

/-- The token with its place renumbered. -/
def relocate (move : Nat → Nat) (token : Token) : Token := ⟨token.symbol, move token.position⟩

/-- What a scan finds, with its places renumbered. -/
def relocateScan (move : Nat → Nat) : Except Fault (List Token) → Except Fault (List Token)
  | .ok tokens => .ok (tokens.map (relocate move))
  | .error fault => .error (fault.relocate move)

end Token

/-! ## Evaluation at other places -/

namespace Stacks

variable (move : Nat → Nat)

/-- The faults of an application have no place. -/
theorem applyTop_relocate (op : Operator) (operands : List Binary64) :
    (applyTop op operands).mapError (Fault.relocate move) = applyTop op operands := by
  refine mapError_eq_self fun fault hfault => Fault.relocate_of_position_eq_none ?_
  rcases applyTop_eq_error hfault with rfl | ⟨left, right, happly⟩
  · rfl
  · exact (Fault.IsArithmetic.of_apply happly).position_eq_none

theorem reduce_relocate (level : Nat) (operands : List Binary64) (pending : List Pending) :
    (reduce level operands pending).mapError (Fault.relocate move) =
      reduce level operands pending := by
  induction pending generalizing operands with
  | nil =>
      rfl
  | cons head pending ih =>
      cases head with
      | barrier =>
          rfl
      | operator op =>
          by_cases hlevel : level ≤ op.precedence
          · simp only [reduce, if_pos hlevel, mapError_bind, applyTop_relocate, ih]
          · simp only [reduce, if_neg hlevel]
            rfl

/-- A token does the same at another place, and a fault of its own is there, too. -/
theorem step_relocate (s : Stacks) (token : Token) :
    s.step (token.relocate move) = (s.step token).mapError (Fault.relocate move) := by
  obtain ⟨symbol, position⟩ := token
  cases symbol with
  | number value =>
      rfl
  | opening =>
      rfl
  | closing =>
      simp only [step, Token.relocate, close, mapError_bind, reduce_relocate]
      -- Only the bracket that finds no barrier has a place to report.
      congr 1
      funext next
      split <;> rfl
  | operator op =>
      simp only [step, Token.relocate, mapError_bind, reduce_relocate]
      rfl

theorem run_relocate (s : Stacks) (tokens : List Token) :
    (tokens.map (Token.relocate move)).foldlM step s =
      (tokens.foldlM step s).mapError (Fault.relocate move) := by
  induction tokens generalizing s with
  | nil =>
      rfl
  | cons token tokens ih =>
      simp only [List.map_cons, List.foldlM_cons, mapError_bind, step_relocate, ih]

theorem finish_relocate (s : Stacks) : s.finish.mapError (Fault.relocate move) = s.finish := by
  simp only [finish, mapError_bind, reduce_relocate]
  congr 1
  funext next
  split
  · unfold result
    split <;> rfl
  · rfl

end Stacks

/-- Tokens at other places have the same outcome, at these places. -/
theorem evaluateTokens_relocate (move : Nat → Nat) (tokens : List Token) :
    evaluateTokens (tokens.map (Token.relocate move)) =
      (evaluateTokens tokens).mapError (Fault.relocate move) := by
  simp only [evaluateTokens, Stacks.run_relocate, mapError_bind, Stacks.finish_relocate]

/-! ## Places within a text -/

theorem Lexeme.StandsAt.lt_length {text : List Char} {place : Nat} {l : Lexeme}
    (h : l.StandsAt text place) : place < text.length := by
  cases l with
  | numeral run =>
      rcases h with ⟨front, rest, rfl, rfl, hrun, -⟩
      have hlength : 0 < run.length := List.length_pos_of_ne_nil hrun
      simp only [List.length_append]
      omega
  | mark c =>
      exact (List.getElem?_eq_some_iff.1 h.1).1

namespace Token

variable {strict : Bool} {text : String}

theorem position_lt_of_scan {tokens : List Token} (h : scan strict text = .ok tokens) :
    ∀ token ∈ tokens, token.position < text.length := by
  intro token htoken
  rw [(eq_tokens_of_scan h).1] at htoken
  rcases mem_tokens_iff.1 htoken with ⟨l, hstands, -⟩
  exact hstands.lt_length

theorem fault_lt_of_scan {fault : Fault} (h : scan strict text = .error fault) :
    ∀ p ∈ fault.position, p < text.length := by
  rcases scan_eq_error_iff.1 h with ⟨place, hdefect, -⟩
  rcases defect_iff.1 hdefect with ⟨l, hstands, -⟩
  intro p hp
  rw [hdefect.position_eq] at hp
  cases hp
  exact hstands.lt_length

end Token

/-! ## Blanks in between -/

/-- Where places move to when `n` characters are put in at `place`. -/
def makeRoom (place n p : Nat) : Nat := if p < place then p else n + p

/-- Blanks stand on no key. -/
theorem not_mem_characters_of_isBlank {c : Char} (h : Text.isBlank c = true) :
    c ∉ Key.characters := by
  intro hmem
  have hall : Key.characters.all (fun c => !Text.isBlank c) = true := by decide
  have hnot := List.all_eq_true.1 hall c hmem
  rw [h] at hnot
  cases hnot

theorem isNumeric_of_isBlank {c : Char} (h : Text.isBlank c = true) : isNumeric c = false :=
  Bool.eq_false_iff.2 fun hnumeric =>
    not_mem_characters_of_isBlank h (Key.mem_characters_of_isNumeric hnumeric)

theorem ofMark?_of_isBlank {c : Char} (h : Text.isBlank c = true) : Symbol.ofMark? c = none :=
  Option.not_isSome_iff_eq_none.1 fun hmark =>
    not_mem_characters_of_isBlank h (Key.mem_characters_of_isMark hmark)

namespace MeetApart

variable {front blank rest : List Char}

theorem of_blanks (hblank : ∀ c ∈ blank, Text.isBlank c = true) (rest : List Char) :
    MeetApart blank rest := by
  intro c hc d _
  exact Or.inl (isNumeric_of_isBlank (hblank c (List.mem_of_getLast? hc)))

/-- Blanks do not bring texts together. -/
theorem insert_blanks (h : MeetApart front rest) (hblank : ∀ c ∈ blank, Text.isBlank c = true) :
    MeetApart front (blank ++ rest) := by
  cases blank with
  | nil =>
      exact h
  | cons first blank =>
      refine MeetApart.of_head ?_ front
      intro d hd
      cases hd
      exact isNumeric_of_isBlank (hblank first List.mem_cons_self)

end MeetApart

namespace Token

variable {strict : Bool} {front blank rest : String}

theorem ofLexemes_blanks {cs : List Char} (h : ∀ c ∈ cs, Text.isBlank c = true) (position : Nat) :
    ofLexemes strict position (Lexeme.split cs) = .ok [] := by
  induction cs generalizing position with
  | nil =>
      rfl
  | cons c cs ih =>
      have hc := h c List.mem_cons_self
      have hrest := ih (fun d hd => h d (List.mem_cons_of_mem c hd)) (position + 1)
      rw [Lexeme.split_cons_mark (isNumeric_of_isBlank hc)]
      simp [ofLexemes, ofMark?_of_isBlank hc, hc, hrest]

/-- Blanks in front of a text move what is found in it. -/
theorem scan_blanks_append (hblank : ∀ c ∈ blank.toList, Text.isBlank c = true) (rest : String) :
    scan strict (blank ++ rest) = shiftScan blank.length (scan strict rest) := by
  have hnone : scan strict blank = .ok [] := ofLexemes_blanks hblank 0
  rw [scan_append (MeetApart.of_blanks hblank _), hnone]
  simp

/-- Blanks between two texts that meet apart make room for themselves and change nothing else. -/
theorem scan_insert_blanks (happart : MeetApart front.toList rest.toList)
    (hblank : ∀ c ∈ blank.toList, Text.isBlank c = true) :
    scan strict (front ++ blank ++ rest) =
      relocateScan (makeRoom front.length blank.length) (scan strict (front ++ rest)) := by
  have hwide : MeetApart front.toList (blank ++ rest).toList := by
    rw [String.toList_append]
    exact happart.insert_blanks hblank
  rw [String.append_assoc, scan_append hwide, scan_append happart, scan_blanks_append hblank]
  have hbehind (p : Nat) :
      makeRoom front.length blank.length (front.length + p) = front.length + (blank.length + p) := by
    unfold makeRoom
    rw [if_neg (Nat.not_lt.2 (Nat.le_add_right front.length p)), Nat.add_left_comm]
  have hbefore {p : Nat} (hp : p < front.length) :
      p = makeRoom front.length blank.length p := (if_pos hp).symm
  cases hfront : scan strict front with
  | error fault =>
      -- What is wrong with the first text stands in front of the blanks.
      refine congrArg Except.error ?_
      calc
        fault = fault.relocate fun p => p := (Fault.relocate_id fault).symm
        _ = fault.relocate (makeRoom front.length blank.length) :=
            Fault.relocate_congr fun p hp => hbefore (fault_lt_of_scan hfront p hp)
  | ok tokens =>
      have htokens : tokens.map (relocate (makeRoom front.length blank.length)) = tokens := by
        calc
          tokens.map (relocate (makeRoom front.length blank.length)) = tokens.map id := by
            refine List.map_congr_left fun token htoken => ?_
            have hplace := position_lt_of_scan hfront token htoken
            exact congrArg (Token.mk token.symbol) (hbefore hplace).symm
          _ = tokens := List.map_id tokens
      cases scan strict rest with
      | error fault =>
          refine congrArg Except.error ?_
          simp only [Fault.shift_eq_relocate, Fault.relocate_relocate, hbehind]
      | ok more =>
          refine congrArg Except.ok ?_
          rw [List.map_append, htokens, List.map_map, List.map_map]
          congr 2
          funext token
          exact congrArg (Token.mk token.symbol) (hbehind token.position).symm

end Token

theorem evaluate_insert_blanks {strict : Bool} {front blank rest : String}
    (happart : MeetApart front.toList rest.toList)
    (hblank : ∀ c ∈ blank.toList, Text.isBlank c = true) :
    evaluate strict (front ++ blank ++ rest) =
      (evaluate strict (front ++ rest)).mapError
        (Fault.relocate (makeRoom front.length blank.length)) := by
  unfold evaluate
  rw [Token.scan_insert_blanks happart hblank]
  cases Token.scan strict (front ++ rest) with
  | error fault => rfl
  | ok tokens => exact evaluateTokens_relocate _ tokens

/-! ## Two texts -/

/-- A fault of the second text is reported farther on, in its place and in its message. -/
theorem Fault.exists_message_shift {strict : Bool} {text : String} {fault : Fault}
    (h : Token.scan strict text = .error fault) (n : Nat) :
    ∃ (place : Nat) (lead trail : String), fault.position = some place ∧
      fault.message = lead ++ toString place ++ trail ∧
      (fault.shift n).position = some (n + place) ∧
      (fault.shift n).message = lead ++ toString (n + place) ++ trail := by
  rcases Token.scan_eq_error_iff.1 h with ⟨place, hdefect, -⟩
  have hplace := hdefect.position_eq
  rcases Fault.exists_message hplace with ⟨lead, trail, hmessage⟩
  refine ⟨place, lead, trail, hplace, ?_, ?_, ?_⟩
  · calc
      fault.message = (fault.relocate fun p => p).message := by rw [Fault.relocate_id]
      _ = lead ++ toString place ++ trail := hmessage fun p => p
  · rw [Fault.position_shift, hplace]
    rfl
  · rw [Fault.shift_eq_relocate]
    exact hmessage (n + ·)

/-- Texts that share no numeral are scanned one after the other: what is wrong with the first one is
wrong with the whole, then what is wrong with the second one, farther on by the length of the first, and
else the tokens of both are found.  Blanks between the texts make room for themselves and change nothing
else, so that evaluation has the same value, or a fault of the same kind. -/
theorem texts_scanned_by_parts (strict : Bool) (front rest : String)
    (happart : MeetApart front.toList rest.toList) :
    (∀ fault, Token.scan strict front = .error fault →
      Token.scan strict (front ++ rest) = .error fault) ∧
    (∀ tokens fault, Token.scan strict front = .ok tokens → Token.scan strict rest = .error fault →
      Token.scan strict (front ++ rest) = .error (fault.shift front.length) ∧
      (fault.shift front.length).kind = fault.kind ∧
      ∃ (place : Nat) (lead trail : String), fault.position = some place ∧
        fault.message = lead ++ toString place ++ trail ∧
        (fault.shift front.length).position = some (front.length + place) ∧
        (fault.shift front.length).message = lead ++ toString (front.length + place) ++ trail) ∧
    (∀ tokens more, Token.scan strict front = .ok tokens → Token.scan strict rest = .ok more →
      Token.scan strict (front ++ rest) = .ok (tokens ++ more.map (Token.shift front.length))) ∧
    ∀ blank : String, (∀ c ∈ blank.toList, Text.isBlank c = true) →
      Token.scan strict (front ++ blank ++ rest) =
        Token.relocateScan (makeRoom front.length blank.length) (Token.scan strict (front ++ rest)) ∧
      evaluate strict (front ++ blank ++ rest) =
        (evaluate strict (front ++ rest)).mapError
          (Fault.relocate (makeRoom front.length blank.length)) ∧
      (evaluate strict (front ++ blank ++ rest)).mapError Fault.kind =
        (evaluate strict (front ++ rest)).mapError Fault.kind := by
  have hwhole : Token.scan strict (front ++ rest) = _ := Token.scan_append happart
  refine ⟨?_, ?_, ?_, ?_⟩
  · intro fault hfront
    rw [hwhole, hfront]
    rfl
  · intro tokens fault hfront hrest
    refine ⟨?_, Fault.kind_shift _ fault, Fault.exists_message_shift hrest front.length⟩
    rw [hwhole, hfront, hrest]
    rfl
  · intro tokens more hfront hrest
    rw [hwhole, hfront, hrest]
    rfl
  · intro blank hblank
    have hevaluate : evaluate strict (front ++ blank ++ rest) = _ :=
      evaluate_insert_blanks happart hblank
    refine ⟨Token.scan_insert_blanks happart hblank, hevaluate, ?_⟩
    rw [hevaluate]
    -- The kind of a fault does not depend on its place.
    cases evaluate strict (front ++ rest) with
    | ok value => rfl
    | error fault => exact congrArg Except.error (Fault.kind_relocate _ fault)

/-- A run that ends where the texts meet, in front of an operator and a run that is no number. -/
theorem texts_scanned_by_parts_behind_run :
    let two : Binary64 := .ofUnits false (2 * oneUnits) 1
    let fault : Fault := .invalidNumber "3..4" 1
    MeetApart "2.".toList "*3..4".toList ∧
      Token.scan false "2." = .ok [⟨.number two, 0⟩] ∧
      Token.scan false "*3..4" = .error fault ∧
      Token.scan false ("2." ++ "*3..4") = .error (.invalidNumber "3..4" 3) ∧
      evaluate false ("2." ++ "\t " ++ "*3..4") = .error (.invalidNumber "3..4" 5) := by
  intro two fault
  have happart : MeetApart "2.".toList "*3..4".toList := by
    refine MeetApart.of_head ?_ _
    intro d hd
    cases hd
    rfl
  have hfront : Token.scan false "2." = .ok [⟨.number two, 0⟩] := by decide +kernel
  have hrest : Token.scan false "*3..4" = .error fault := by decide +kernel
  have hvalue : evaluate false ("2." ++ "*3..4") = .error (.invalidNumber "3..4" 3) := by
    decide +kernel
  have hblank : ∀ c ∈ "\t ".toList, Text.isBlank c = true :=
    List.all_eq_true.1 (by decide)
  obtain ⟨-, hfault, -, hblanks⟩ := texts_scanned_by_parts false "2." "*3..4" happart
  refine ⟨happart, hfront, hrest, (hfault _ fault hfront hrest).1, ?_⟩
  refine (hblanks "\t " hblank).2.1.trans ?_
  rw [hvalue]
  rfl

end Abacus
