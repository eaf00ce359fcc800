import Abacus.CommandLine.Command
import Abacus.Service
import Abacus.Table

/-!
# CommandLine — the calculator in a terminal

* `CommandLine.Report` — exit code, output and errors of a command;
* `CommandLine.evaluateReport`, `CommandLine.keysReport`, `CommandLine.converseReport` — the three
  commands;
* `CommandLine.run` — what a command line does, given the input and the environment.
-/

namespace Abacus

namespace CommandLine

structure Report where
  code : Nat
  output : String
  errors : String
  deriving DecidableEq, Repr

/-- The code of a command that ended with a fault. -/
def faultCode : Outcome → Nat
  | .ok _ => 0
  | .error _ => 1

/-! ## One expression -/

def detailRows (text : String) : Outcome → List (List String)
  | .ok value => [["Expression", text], ["Result", value.resultText]]
  | .error fault =>
      [["Expression", text], ["Kind", fault.kind.name], ["Message", fault.message],
        ["Position", (fault.position.map toString).getD "-"]]

def detailTitle : Outcome → String
  | .ok _ => "Evaluation"
  | .error _ => "Evaluation failed"

def detailTable (text : String) (outcome : Outcome) : Table :=
  ⟨detailTitle outcome, none, [], detailRows text outcome⟩

/-- Without an expression the whole input is taken, less the blanks at its ends. -/
def evaluateReport (settings : Settings) (threshold : Log.Level) (expression : Option String)
    (verbose : Bool) (input : String) : Report :=
  let text := expression.getD (Text.strip input)
  if text.isEmpty then ⟨1, "", "Błąd: podaj wyrażenie przez --expr lub stdin\n"⟩
  else
    let outcome := evaluate settings.strictScanner text
    let output :=
      if verbose then (detailTable text outcome).render
      else Service.display settings outcome ++ "\n"
    ⟨faultCode outcome, output, Log.render threshold (Log.ofEvaluation text outcome)⟩

/-! ## Keys -/

/-- The label of each key that is pressed, with the screen after it, up to the first label that is
refused. -/
def trace (setup : Setup) (screen : Screen) :
    List String → List (String × Screen) × Option Key.Refusal
  | [] => ([], none)
  | label :: labels =>
      match screen.pressLabel setup label with
      | .ok next =>
          let (steps, refusal?) := trace setup next labels
          ((label, next) :: steps, refusal?)
      | .error refusal => ([], some refusal)

/-- The screen after all steps. -/
def lastScreen (start : Screen) (steps : List (String × Screen)) : Screen :=
  (steps.getLast?.map Prod.snd).getD start

/-- The records that steps leave, the first of them on a given screen. -/
def keysLog (setup : Setup) (screen : Screen) : List (String × Screen) → List Log.Record
  | [] => []
  | (label, next) :: steps => Log.ofPress setup screen label ++ keysLog setup next steps

def keyRow (index : Nat) (label : String) (screen : Screen) : List String :=
  [toString index, label, screen.display,
    if screen.expression.isEmpty then "EMPTY" else screen.expression]

/-- The rows are counted from one. -/
def keysTable (steps : List (String × Screen)) : Table :=
  ⟨s!"Keys [{steps.length}]", some ["#", "Key", "Display", "Expression"], [0],
    (steps.zipIdx 1).map fun ((label, screen), index) => keyRow index label screen⟩

/-- The code of a screen tells whether its last computation failed. -/
def screenCode (screen : Screen) : Nat :=
  match screen.last with
  | some outcome => faultCode outcome
  | none => 0

/-- Labels are checked before any key is pressed. A label that is refused all the same ends the
command without a table. -/
def keysReport (settings : Settings) (threshold : Log.Level) (labels : List String) : Report :=
  match labels.filter fun label => !Key.isLabel label with
  | [] =>
      let setup := settings.setup
      let start := Screen.blank setup
      match trace setup start labels with
      | (steps, none) =>
          ⟨screenCode (lastScreen start steps), (keysTable steps).render,
            Log.render threshold (keysLog setup start steps)⟩
      | (steps, some refusal) =>
          ⟨1, "", Log.render threshold (keysLog setup start steps) ++ refusal.message ++ "\n"⟩
  | unknown =>
      ⟨1, "", "Błąd: nieobsługiwane klawisze: " ++ " ".intercalate unknown ++ "\n"⟩

/-! ## Conversation -/

def greeting : String := "StackCalc — wpisz wyrażenie, 'quit' kończy.\n"

def prompt : String := "> "

inductive Reply
  | farewell
  | silence
  | answer (text : String) (outcome : Outcome)

/-- What a line of a conversation calls for. -/
def replyTo (settings : Settings) (line : String) : Reply :=
  let text := Text.strip line
  if text = "quit" ∨ text = "exit" then .farewell
  else if text.isEmpty then .silence
  else .answer text (evaluate settings.strictScanner text)

/-- The output that follows the prompt of a line. -/
def Reply.output (settings : Settings) : Reply → String
  | .answer _ outcome => Text.terminalText (Service.display settings outcome) ++ "\n"
  | _ => ""

def Reply.log : Reply → List Log.Record
  | .answer text outcome => Log.ofEvaluation text outcome
  | _ => []

/-- The replies to lines up to the farewell, which is not among them. -/
def replies (settings : Settings) : List String → List Reply
  | [] => []
  | line :: rest =>
      match replyTo settings line with
      | .farewell => []
      | reply => reply :: replies settings rest

/-- A prompt stands before every line read, also the one that ends the conversation. -/
def converseReport (settings : Settings) (threshold : Log.Level) (input : String) : Report :=
  let answers := replies settings (Text.inputLines input)
  ⟨0, greeting ++ String.join (answers.map fun reply => prompt ++ reply.output settings) ++ prompt,
    Log.render threshold (answers.flatMap Reply.log)⟩

/-! ## Command lines -/

/-- Why the settings do not allow a command to run. -/
inductive Refusal
  | invalid (problems : Settings.Invalid)
  | unknownLevel (level : Log.Level.Unknown)
  deriving DecidableEq, Repr

def Refusal.message : Refusal → String
  | .invalid problems => problems.message
  | .unknownLevel level => level.message

inductive Ending
  | help
  | misuse (misuse : Misuse)
  | finished (report : Report)
  deriving DecidableEq, Repr

def Ending.code : Ending → Nat
  | .help => 0
  | .misuse _ => 2
  | .finished report => report.code

def usage : String :=
  "usage: abacus [-h] [--strict] eval [-h] [--expr EXPR] [--verbose]\n" ++
  "       abacus [-h] [--strict] keys [-h] KEY ...\n" ++
  "       abacus [-h] [--strict] repl [-h]\n"

/-- The settings and the log level that hold for a command line. -/
def prepare (environment : List (String × String)) : Except Refusal (Settings × Log.Level) :=
  match Settings.read [] environment with
  | .error problems => .error (.invalid problems)
  | .ok settings =>
      match settings.threshold with
      | .error level => .error (.unknownLevel level)
      | .ok threshold => .ok (settings, threshold)

/-- Strict evaluation is asked for by the settings or by the command line. -/
def settingsOf (settings : Settings) (invocation : Invocation) : Settings :=
  { settings with strictScanner := invocation.strict || settings.strictScanner }

def perform (settings : Settings) (threshold : Log.Level) (command : Command) (input : String) :
    Report :=
  match command with
  | .evaluate expression verbose => evaluateReport settings threshold expression verbose input
  | .keys labels => keysReport settings threshold labels
  | .converse => converseReport settings threshold input

/-- The words are read before the settings. -/
def run (words : List String) (input : String) (environment : List (String × String)) :
    Except Refusal Ending :=
  match readInvocation words with
  | .error .help => .ok .help
  | .error (.misuse misuse) => .ok (.misuse misuse)
  | .ok invocation => do
      let (settings, threshold) ← prepare environment
      return .finished (perform (settingsOf settings invocation) threshold invocation.command input)

end CommandLine

end Abacus
