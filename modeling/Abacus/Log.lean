import Abacus.Screen
import Abacus.Text.Uppercase

/-!
# Log — what is reported beside the results

* `Log.Level` — the severities, least first, and their names;
* `Log.Record` — one entry, and its line;
* `Log.ofEvaluation`, `Log.ofCompute`, `Log.ofPress` — the entries of an action.
-/

namespace Abacus

namespace Log

/-! ## Levels -/

inductive Level
  | all
  | debug
  | info
  | warning
  | error
  | critical
  deriving DecidableEq, Repr

namespace Level

def severity : Level → Nat
  | .all => 0
  | .debug => 10
  | .info => 20
  | .warning => 30
  | .error => 40
  | .critical => 50

def name : Level → String
  | .all => "NOTSET"
  | .debug => "DEBUG"
  | .info => "INFO"
  | .warning => "WARNING"
  | .error => "ERROR"
  | .critical => "CRITICAL"

/-- The names of the levels, two of which have a second one. -/
def names : List (String × Level) :=
  [("CRITICAL", .critical), ("FATAL", .critical), ("ERROR", .error), ("WARN", .warning),
    ("WARNING", .warning), ("INFO", .info), ("DEBUG", .debug), ("NOTSET", .all)]

/-- The refusal of a name, which is reported in capitals. -/
structure Unknown where
  name : String
  deriving DecidableEq, Repr

def Unknown.message (u : Unknown) : String := s!"Unknown level: {Text.quote u.name}"

/-- The level of a name, in any case. -/
def ofName (name : String) : Except Unknown Level :=
  let capitals := Text.uppercase name
  match names.lookup capitals with
  | some level => .ok level
  | none => .error ⟨capitals⟩

end Level

/-! ## Records -/

structure Record where
  level : Level
  source : String
  message : String
  deriving DecidableEq, Repr

def Record.line (r : Record) : String := s!"{r.level.name}:{r.source}:{r.message}\n"

/-- The lines of the records that a threshold lets through. -/
def render (threshold : Level) (records : List Record) : String :=
  String.join ((records.filter fun r => threshold.severity ≤ r.level.severity).map Record.line)

/-! ## The records of an action -/

/-- A failed evaluation leaves one record. -/
def ofEvaluation (text : String) : Outcome → List Record
  | .ok _ => []
  | .error fault =>
      [⟨.debug, "stack_calc.evaluator",
        s!"Evaluation of {Text.quote text} failed: {fault.message} ({fault.kind.name})"⟩]

/-- A failed computation leaves a second record after that of its evaluation. -/
def ofCompute (text : String) (outcome : Outcome) : List Record :=
  ofEvaluation text outcome ++
    match outcome with
    | .ok _ => []
    | .error fault =>
        [⟨.info, "stack_calc.input_buffer",
          s!"Compute failed for {Text.quote text}: {fault.kind.name}"⟩]

/-- Only the key that computes leaves records. -/
def ofPress (setup : Setup) (s : Screen) (label : String) : List Record :=
  if label = "=" then ofCompute s.expression (evaluate setup.strict s.expression) else []

end Log

end Abacus
