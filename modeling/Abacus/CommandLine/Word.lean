import Abacus.Text.DecimalDigit

/-!
# Words of a command line

* `CommandLine.Switch` — the options, their names and whether they take a value;
* `CommandLine.Reading` — an operand, or the options that a word asks for;
* `CommandLine.readWord` — the reading of a word, given the options that are known there.

A long name may be cut short as long as it stays unique. Letters of options without a value may be
written in one word, and a value may follow its option in the same word. Conventions differ on the
value `--` there: some keep it, and others take the mark of the end of options out of all words that
an option is given. The latter is the reading here, and the option is left with an empty value.
-/

namespace Abacus

namespace CommandLine

/-! ## Options -/

inductive Switch
  | help
  | strict
  | expression
  | verbose
  deriving DecidableEq, Repr

namespace Switch

def name : Switch → String
  | .help => "help"
  | .strict => "strict"
  | .expression => "expr"
  | .verbose => "verbose"

def letter? : Switch → Option Char
  | .help => some 'h'
  | .strict => none
  | .expression => some 'e'
  | .verbose => some 'v'

def takesValue : Switch → Bool
  | .expression => true
  | _ => false

end Switch

/-! ## Refusals -/

inductive Misuse
  | ambiguous (word : String)
  | valueExpected (option : Switch)
  | valueUnexpected (option : Switch)
  | commandExpected
  | unknownCommand (word : String)
  | keysExpected
  | unrecognized (words : List String)
  deriving DecidableEq, Repr

def Misuse.message : Misuse → String
  | .ambiguous word => s!"ambiguous option: {word}"
  | .valueExpected option => s!"option --{option.name} needs a value"
  | .valueUnexpected option => s!"option --{option.name} takes no value"
  | .commandExpected => "a command is needed: eval, keys or repl"
  | .unknownCommand word => s!"unknown command: {word}"
  | .keysExpected => "at least one key is needed"
  | .unrecognized words => "unrecognized: " ++ " ".intercalate words

/-! ## Readings -/

/-- The options of one word: those that are complete, and one that takes the next word as its
value. -/
structure Bundle where
  complete : List (Switch × Option String)
  awaiting : Option Switch
  deriving DecidableEq, Repr

inductive Reading
  | operand
  | unknown
  | options (bundle : Bundle)
  | refused (misuse : Misuse)
  deriving DecidableEq, Repr

/-- An option whose word ends with it. -/
def bare (option : Switch) : Bundle :=
  if option.takesValue then ⟨[], some option⟩ else ⟨[(option, none)], none⟩

/-- The value that is given in the word of its option, without a mark of the end of options. -/
def valueOf (text : List Char) : String :=
  if text = ['-', '-'] then "" else String.ofList text

/-- An option and its value in one word. -/
def withValue (option : Switch) (text : List Char) : Except Misuse Bundle :=
  if option.takesValue then .ok ⟨[(option, some (valueOf text))], none⟩
  else .error (.valueUnexpected option)

/-- An option given by its letter, and what follows the letter: its value, or the letters of further
options. -/
def readLetters (known : List Switch) (option : Switch) : List Char → Except Misuse Bundle
  | [] => .ok (bare option)
  | c :: cs =>
      if option.takesValue then withValue option (c :: cs)
      else match known.find? fun other => other.letter? == some c with
        | some other => do
            let rest ← readLetters known other cs
            return { rest with complete := (option, none) :: rest.complete }
        | none => .error (.valueUnexpected option)

/-- An equals sign may stand after the first letter of a word. -/
def readFirstLetter (known : List Switch) (option : Switch) : List Char → Except Misuse Bundle
  | ['='] => withValue option []
  | '=' :: text => readLetters known option text
  | text => readLetters known option text

/-! ## Long names -/

/-- The options that a long name may mean: the one of that name, or all whose names it begins. -/
def candidates (known : List Switch) (name : List Char) : List Switch :=
  match known.find? fun option => option.name.toList == name with
  | some option => [option]
  | none => known.filter fun option => name.isPrefixOf option.name.toList

/-! ## Operands that begin with a dash -/

/-- Digits after a dash, with or without a point before the last of them. -/
def isNegativeNumber : List Char → Bool
  | '-' :: cs =>
      let body := if cs.getLast? = some '\n' then cs.dropLast else cs
      let whole := body.takeWhile Text.isDecimalDigit
      match body.dropWhile Text.isDecimalDigit with
      | [] => !whole.isEmpty
      | '.' :: fraction => !fraction.isEmpty && fraction.all Text.isDecimalDigit
      | _ => false
  | _ => false

/-- Negative numbers and words with a space are operands although they begin with a dash. -/
def readOther (word : List Char) : Reading :=
  if isNegativeNumber word || word.contains ' ' then .operand else .unknown

def ofBundle : Except Misuse Bundle → Reading
  | .ok bundle => .options bundle
  | .error misuse => .refused misuse

def readLong (known : List Switch) (word : List Char) (rest : List Char) : Reading :=
  let name := rest.takeWhile (· != '=')
  match candidates known name, rest.dropWhile (· != '=') with
  | [], _ => readOther word
  | [option], [] => .options (bare option)
  | [option], _ :: value => ofBundle (withValue option value)
  | _, _ => .refused (.ambiguous (String.ofList word))

/-- The reading of a word that stands before the end of the options. -/
def readWord (known : List Switch) (word : String) : Reading :=
  match word.toList with
  | '-' :: '-' :: rest => readLong known word.toList rest
  | '-' :: c :: rest =>
      match known.find? fun option => option.letter? == some c with
      | some option => ofBundle (readFirstLetter known option rest)
      | none => readOther word.toList
  | _ => .operand

end CommandLine

end Abacus
