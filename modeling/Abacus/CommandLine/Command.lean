import Abacus.CommandLine.Word

/-!
# Commands

* `CommandLine.Command` — what to do;
* `CommandLine.Invocation` — a command and the mode of evaluation;
* `CommandLine.readInvocation` — the invocation that the words of a command line ask for.

The word `--` ends the options: all words after it are operands. A request for help is granted as
soon as it is met; words that nothing can be made of are refused at the end.
-/

namespace Abacus

namespace CommandLine

inductive Command
  | evaluate (expression : Option String) (verbose : Bool)
  | keys (labels : List String)
  | converse
  deriving DecidableEq, Repr

structure Invocation where
  strict : Bool
  command : Command
  deriving DecidableEq, Repr

/-- Why reading stops before an invocation is known. -/
inductive Stop
  | help
  | misuse (misuse : Misuse)
  deriving DecidableEq, Repr

/-- What words were read as, in their order. -/
structure Words where
  options : List (Switch × Option String) := []
  operands : List String := []
  unrecognized : List String := []
  /-- Whether a lone `--` ended the options. -/
  ended : Bool := false
  deriving DecidableEq, Repr

/-- The words that a command without operands cannot use. -/
def Words.surplus (w : Words) : List String :=
  w.unrecognized ++ w.operands ++ if w.ended then ["--"] else []

/-- Puts the options of one word in front. -/
def Words.add (options : List (Switch × Option String)) (w : Words) : Words :=
  { w with options := options ++ w.options }

/-! ## Words -/

/-- Ambiguous names are refused before anything is done. -/
def refuseAmbiguous (known : List Switch) : List String → Except Stop Unit
  | [] => .ok ()
  | word :: rest =>
      if word = "--" then .ok ()
      else match readWord known word with
        | .refused (.ambiguous w) => .error (.misuse (.ambiguous w))
        | _ => refuseAmbiguous known rest

/-- Options take effect in order, and help at once. -/
def grant (options : List (Switch × Option String)) : Except Stop Unit :=
  if options.any fun option => option.1 == .help then .error .help else .ok ()

def isOperand (known : List Switch) (word : String) : Bool :=
  word != "--" && readWord known word == .operand

/-- Reads words in order; an option that takes a value takes the next word, which must be an
operand. -/
def readWords (known : List Switch) : List String → Except Stop Words
  | [] => .ok {}
  | word :: rest =>
      if word = "--" then .ok { operands := rest, ended := true }
      else match readWord known word with
        | .operand => do
            let w ← readWords known rest
            return { w with operands := word :: w.operands }
        | .unknown => do
            let w ← readWords known rest
            return { w with unrecognized := word :: w.unrecognized }
        | .refused misuse => .error (.misuse misuse)
        | .options bundle =>
            match bundle.awaiting, rest with
            | none, rest => do
                grant bundle.complete
                return (← readWords known rest).add bundle.complete
            | some option, [] => .error (.misuse (.valueExpected option))
            | some option, value :: rest =>
                if isOperand known value then do
                  grant bundle.complete
                  return (← readWords known rest).add (bundle.complete ++ [(option, some value)])
                else .error (.misuse (.valueExpected option))

/-- The words after a command, without ambiguous names. -/
def readArguments (known : List Switch) (words : List String) : Except Stop Words := do
  refuseAmbiguous known words
  readWords known words

/-! ## Commands -/

/-- The last value given to an option counts. -/
def lastValue (option : Switch) (options : List (Switch × Option String)) : Option String :=
  options.reverse.findSome? fun (other, value) => if other = option then value else none

/-- The command of a name, and the words after it that it cannot use. -/
def readCommand (name : String) (words : List String) : Except Stop (Command × List String) :=
  if name = "eval" then do
    let w ← readArguments [.help, .expression, .verbose] words
    let verbose := w.options.any fun option => option.1 == .verbose
    return (.evaluate (lastValue .expression w.options) verbose, w.surplus)
  else if name = "keys" then do
    let w ← readArguments [.help] words
    if w.operands.isEmpty then throw (.misuse .keysExpected)
    return (.keys w.operands, w.unrecognized)
  else if name = "repl" then do
    let w ← readArguments [.help] words
    return (.converse, w.surplus)
  else .error (.misuse (.unknownCommand name))

/-- The options before the command. -/
def leading : List Switch := [.help, .strict]

/-- The first operand names the command, which reads all words after it. -/
def readLeading (strict : Bool) (unrecognized : List String) :
    List String → Except Stop Invocation
  | [] => .error (.misuse .commandExpected)
  | word :: rest =>
      if word = "--" then .error (.misuse .commandExpected)
      else match readWord leading word with
        | .operand => do
            let (command, surplus) ← readCommand word rest
            if (unrecognized ++ surplus).isEmpty then return ⟨strict, command⟩
            else throw (.misuse (.unrecognized (unrecognized ++ surplus)))
        | .unknown => readLeading strict (unrecognized ++ [word]) rest
        | .refused misuse => .error (.misuse misuse)
        | .options bundle => do
            grant bundle.complete
            let strict := strict || bundle.complete.any fun option => option.1 == .strict
            readLeading strict unrecognized rest

def readInvocation (words : List String) : Except Stop Invocation := do
  refuseAmbiguous leading words
  readLeading false [] words

end CommandLine

end Abacus
