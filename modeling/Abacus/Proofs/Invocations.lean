import Abacus.CommandLine
import Abacus.Proofs.Alphabet

/-!
# Invocations — what the words of a command line ask for

Words are read against the options that are known where they stand.  Labels of keys are operands
everywhere, and a text may follow the option that takes it in one word, whatever it is:

* `isOperand_iff` — the words that stand for themselves;
* `refuseAmbiguous_of_operands`, `readWords_of_operands` — commands that are given operands alone;
* `readWord_long` — a long name and a value in one word;
* `readInvocation_keys`, `readInvocation_evaluate` — the two commands that are given an expression.
-/

namespace Abacus

namespace CommandLine

variable {known : List Switch} {words : List String}

/-! ## Operands -/

theorem isOperand_iff {word : String} :
    isOperand known word = true ↔ word ≠ "--" ∧ readWord known word = .operand := by
  simp [isOperand]

/-- No key has the label `--`, and no label is the name of an option. -/
theorem isOperand_of_isLabel (hknown : known = leading ∨ known = [.help]) {label : String}
    (hlabel : Key.isLabel label = true) : isOperand known label = true := by
  have hmem := Key.isLabel_iff.1 hlabel
  have hall : ∀ label ∈ Key.labels, isOperand leading label = true ∧
      isOperand [.help] label = true := by decide +kernel
  rcases hknown with rfl | rfl
  · exact (hall label hmem).1
  · exact (hall label hmem).2

theorem refuseAmbiguous_cons {word : String} (hword : word ≠ "--")
    (hclear : ∀ w, readWord known word ≠ .refused (.ambiguous w)) :
    refuseAmbiguous known (word :: words) = refuseAmbiguous known words := by
  rw [refuseAmbiguous, if_neg hword]
  split
  · rename_i w hrefused
    exact absurd hrefused (hclear w)
  · rfl

theorem refuseAmbiguous_of_operands (h : ∀ word ∈ words, isOperand known word = true) :
    refuseAmbiguous known words = .ok () := by
  induction words with
  | nil =>
      rfl
  | cons word words ih =>
      obtain ⟨hword, hread⟩ := isOperand_iff.1 (h word List.mem_cons_self)
      have hrest := ih fun other hother => h other (List.mem_cons_of_mem word hother)
      rw [refuseAmbiguous_cons hword (by simp [hread]), hrest]

/-- Operands are read as they stand. -/
theorem readWords_of_operands (h : ∀ word ∈ words, isOperand known word = true) :
    readWords known words = .ok { operands := words } := by
  induction words with
  | nil =>
      rfl
  | cons word words ih =>
      obtain ⟨hword, hread⟩ := isOperand_iff.1 (h word List.mem_cons_self)
      have hrest := ih fun other hother => h other (List.mem_cons_of_mem word hother)
      rw [readWords.eq_def]
      simp only [if_neg hword, hread, hrest]
      rfl

theorem readArguments_of_operands (h : ∀ word ∈ words, isOperand known word = true) :
    readArguments known words = .ok { operands := words } := by
  unfold readArguments
  rw [refuseAmbiguous_of_operands h, readWords_of_operands h]
  rfl

/-! ## Long names -/

/-- What stands behind the first equals sign of a long name is its value. -/
theorem readLong_value (known : List Switch) (word : List Char) {name : List Char}
    (hname : '=' ∉ name) (value : List Char) :
    readLong known word (name ++ '=' :: value) =
      match candidates known name with
      | [] => readOther word
      | [option] => ofBundle (withValue option value)
      | _ => .refused (.ambiguous (String.ofList word)) := by
  have hapart : ∀ c ∈ name, (c != '=') = true := by
    intro c hc
    rw [bne_iff_ne]
    rintro rfl
    exact hname hc
  have htake : (name ++ '=' :: value).takeWhile (· != '=') = name := by
    simp [List.takeWhile_append_of_pos hapart]
  have hdrop : (name ++ '=' :: value).dropWhile (· != '=') = '=' :: value := by
    simp [List.dropWhile_append_of_pos hapart]
  unfold readLong
  dsimp only
  rw [htake, hdrop]
  cases candidates known name with
  | nil => rfl
  | cons option more => cases more <;> rfl

/-! ## Expressions -/

/-- The options of the command that evaluates. -/
abbrev evaluateOptions : List Switch := [.help, .expression, .verbose]

theorem readOther_ne_refused (word : List Char) (misuse : Misuse) :
    readOther word ≠ .refused misuse := by
  unfold readOther
  split <;> simp

theorem readWord_expression (known : List Switch) (text : String) :
    readWord known ("--expr=" ++ text) =
      match candidates known "expr".toList with
      | [] => readOther ("--expr=" ++ text).toList
      | [option] => ofBundle (withValue option text.toList)
      | _ => .refused (.ambiguous ("--expr=" ++ text)) := by
  have hword : ("--expr=" ++ text).toList = '-' :: '-' :: ("expr".toList ++ '=' :: text.toList) := by
    rw [String.toList_append]
    rfl
  have hlong := readLong_value known ("--expr=" ++ text).toList (by decide : '=' ∉ "expr".toList)
    text.toList
  rw [String.ofList_toList] at hlong
  unfold readWord
  rw [← hlong, hword]
  rfl

/-- Before a command, the option for an expression is not known. -/
theorem readWord_expression_leading (text : String) (misuse : Misuse) :
    readWord leading ("--expr=" ++ text) ≠ .refused misuse := by
  rw [readWord_expression]
  exact readOther_ne_refused _ misuse

theorem readWord_expression_evaluate (text : String) :
    readWord evaluateOptions ("--expr=" ++ text) =
      .options ⟨[(.expression, some (valueOf text.toList))], none⟩ := by
  rw [readWord_expression]
  rfl

theorem expression_ne_end (text : String) : "--expr=" ++ text ≠ "--" := by
  intro heq
  have hlists := congrArg String.toList heq
  rw [String.toList_append] at hlists
  cases hlists

/-! ## Commands -/

/-- A command that can use all words after it is what they ask for, and the option before it asks for
strict evaluation. -/
theorem readInvocation_of_command {name : String} {command : Command}
    (hname : isOperand leading name = true) (hclear : refuseAmbiguous leading words = .ok ())
    (hcommand : readCommand name words = .ok (command, [])) :
    readInvocation (name :: words) = .ok ⟨false, command⟩ ∧
      readInvocation ("--strict" :: name :: words) = .ok ⟨true, command⟩ := by
  obtain ⟨hword, hread⟩ := isOperand_iff.1 hname
  have hstrict : readWord leading "--strict" = .options ⟨[(.strict, none)], none⟩ := by
    decide +kernel
  have hleading (strict : Bool) : readLeading strict [] (name :: words) = .ok ⟨strict, command⟩ := by
    rw [readLeading]
    simp only [if_neg hword, hread, hcommand]
    rfl
  have hnames : refuseAmbiguous leading (name :: words) = .ok () := by
    rw [refuseAmbiguous_cons hword (by simp [hread]), hclear]
  refine ⟨?_, ?_⟩
  · unfold readInvocation
    rw [hnames]
    exact hleading false
  · unfold readInvocation
    rw [refuseAmbiguous_cons (by decide) (by simp [hstrict]), hnames, ok_bind, readLeading]
    simp only [hstrict]
    exact hleading true

/-- The labels of keys are read as they stand. -/
theorem readCommand_keys {labels : List String} (hne : labels ≠ [])
    (hall : ∀ label ∈ labels, Key.isLabel label = true) :
    readCommand "keys" labels = .ok (.keys labels, []) := by
  have hoperands : ∀ label ∈ labels, isOperand [.help] label = true := fun label hlabel =>
    isOperand_of_isLabel (Or.inr rfl) (hall label hlabel)
  have hread := readArguments_of_operands hoperands
  unfold readCommand
  rw [if_neg (by decide), if_pos rfl, hread]
  simp [hne]

/-- A text behind the option for an expression is the expression. -/
theorem readCommand_evaluate (text : String) :
    readCommand "eval" ["--expr=" ++ text] =
      .ok (.evaluate (some (valueOf text.toList)) false, []) := by
  have hread : readArguments evaluateOptions ["--expr=" ++ text] =
      .ok { options := [(.expression, some (valueOf text.toList))] } := by
    have hword := readWord_expression_evaluate text
    unfold readArguments
    rw [refuseAmbiguous_cons (expression_ne_end text) (by simp [hword]), readWords.eq_def]
    simp only [if_neg (expression_ne_end text), hword]
    rfl
  unfold readCommand
  rw [if_pos rfl, hread]
  rfl

theorem readInvocation_keys {labels : List String} (hne : labels ≠ [])
    (hall : ∀ label ∈ labels, Key.isLabel label = true) :
    readInvocation ("keys" :: labels) = .ok ⟨false, .keys labels⟩ ∧
      readInvocation ("--strict" :: "keys" :: labels) = .ok ⟨true, .keys labels⟩ := by
  have hclear : refuseAmbiguous leading labels = .ok () :=
    refuseAmbiguous_of_operands fun label hlabel =>
      isOperand_of_isLabel (Or.inl rfl) (hall label hlabel)
  exact readInvocation_of_command (by decide +kernel) hclear (readCommand_keys hne hall)

theorem readInvocation_evaluate (text : String) :
    readInvocation ["eval", "--expr=" ++ text] =
      .ok ⟨false, .evaluate (some (valueOf text.toList)) false⟩ ∧
    readInvocation ["--strict", "eval", "--expr=" ++ text] =
      .ok ⟨true, .evaluate (some (valueOf text.toList)) false⟩ := by
  have hclear : refuseAmbiguous leading ["--expr=" ++ text] = .ok () := by
    refine refuseAmbiguous_cons (expression_ne_end text) ?_
    intro word
    exact readWord_expression_leading text (.ambiguous word)
  exact readInvocation_of_command (by decide +kernel) hclear (readCommand_evaluate text)

end CommandLine

end Abacus
