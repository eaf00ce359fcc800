import Abacus.Document
import Abacus.Log

/-!
# Settings — values from the environment

Each setting has a default, may be set by an environment variable, and may be set directly, which
wins. Variables are the setting's name after `STACK_CALC_`, in any case; others are ignored. Direct
values are under the setting's name, in any case, too.

* `Settings` — the six values;
* `Settings.read` — the values from both sources, or all that is wrong with them.
-/

namespace Abacus

structure Settings where
  strictScanner : Bool := false
  placeholderText : String := "0"
  errorMessage : String := "Error"
  logLevel : String := "INFO"
  appTitle : String := "StackCalc"
  appVersion : String := "0.1.0"
  deriving DecidableEq, Repr

namespace Settings

/-! ## Problems -/

inductive Problem
  | unreadableFlag
  | notFlag
  | notText
  deriving DecidableEq, Repr

def Problem.name : Problem → String
  | .unreadableFlag => "bool_parsing"
  | .notFlag => "bool_type"
  | .notText => "string_type"

/-- The settings that could not be read, in the order of their names. -/
structure Invalid where
  problems : List (String × Problem)
  deriving DecidableEq, Repr

def Invalid.message (i : Invalid) : String :=
  ",".intercalate (i.problems.map fun (name, problem) => s!"{name}:{problem.name}")

/-! ## Values -/

def trueWords : List String := ["1", "true", "t", "yes", "y", "on"]

def falseWords : List String := ["0", "false", "f", "no", "n", "off"]

/-- The whole numbers of 64 bits, the only numbers that are read as flags. -/
def isWord (n : Int) : Bool := decide (-Nat.pow 2 63 ≤ n ∧ n < Nat.pow 2 63)

/-- Numbers that could have a fractional part are read as flags if they have none and their
magnitude is less than 2⁶³. -/
def isWholeWord : Binary64 → Bool
  | .finite s k => (Binary64.finite s k).isWhole && decide (rankUnits k < Nat.pow 2 63 * oneUnits)
  | _ => false

/-- A flag is given by a word in any case of ASCII letters, or by zero or one. -/
def readFlag : Document → Except Problem Bool
  | .bool b => .ok b
  | .text s =>
      if trueWords.contains s.toLower then .ok true
      else if falseWords.contains s.toLower then .ok false
      else .error .unreadableFlag
  | .whole n =>
      if n = 0 then .ok false
      else if n = 1 then .ok true
      else if isWord n then .error .unreadableFlag
      else .error .notFlag
  | .number x =>
      if x.isZero then .ok false
      else if x = .one then .ok true
      else if isWholeWord x then .error .unreadableFlag
      else .error .notFlag
  | _ => .error .notFlag

def readText : Document → Except Problem String
  | .text s => .ok s
  | _ => .error .notText

/-! ## Sources -/

def variableStart : List Char := "stack_calc_".toList

/-- Names of variables are compared in small letters; U+212A is a capital of `k`. -/
def smallLetter (c : Char) : Char := if c = '\u212a' then 'k' else c.toLower

/-- The last variable of a setting's name counts. -/
def environmentValue? (environment : List (String × String)) (name : String) : Option String :=
  let spelled := variableStart ++ name.toList
  (environment.reverse.find? fun entry => entry.1.toList.map smallLetter == spelled).map (·.2)

/-- The first direct value of a setting's name counts. -/
def directValue? (direct : List (String × Document)) (name : String) : Option Document :=
  (direct.find? fun entry => entry.1.toList.map smallLetter == name.toList).map (·.2)

/-- A value given directly wins over a variable. -/
def given? (direct : List (String × Document)) (environment : List (String × String))
    (name : String) : Option Document :=
  match directValue? direct name with
  | some value => some value
  | none => (environmentValue? environment name).map .text

/-- One setting: its value, or the default and what is wrong. -/
def setting {α : Type} (reader : Document → Except Problem α) (default : α) (name : String)
    (value : Option Document) : α × List (String × Problem) :=
  match value.map reader with
  | none => (default, [])
  | some (.ok a) => (a, [])
  | some (.error problem) => (default, [(name, problem)])

def read (direct : List (String × Document)) (environment : List (String × String)) :
    Except Invalid Settings :=
  let defaults : Settings := {}
  let text (name : String) (default : String) :=
    setting readText default name (given? direct environment name)
  let title := text "app_title" defaults.appTitle
  let version := text "app_version" defaults.appVersion
  let error := text "error_message" defaults.errorMessage
  let level := text "log_level" defaults.logLevel
  let placeholder := text "placeholder_text" defaults.placeholderText
  let strict := setting readFlag defaults.strictScanner "strict_scanner"
    (given? direct environment "strict_scanner")
  match title.2 ++ version.2 ++ error.2 ++ level.2 ++ placeholder.2 ++ strict.2 with
  | [] => .ok ⟨strict.1, placeholder.1, error.1, level.1, title.1, version.1⟩
  | problems => .error ⟨problems⟩

/-! ## What they decide -/

/-- How screens behave under these settings. -/
def setup (s : Settings) : Setup := ⟨s.strictScanner, s.placeholderText, s.errorMessage⟩

def threshold (s : Settings) : Except Log.Level.Unknown Log.Level := Log.Level.ofName s.logLevel

end Settings

end Abacus
