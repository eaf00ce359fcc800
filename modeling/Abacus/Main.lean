import Abacus.CommandLine

/-!
# The program

Moves text between the terminal and `CommandLine.run`; a conversation is held line by line.
-/

namespace Abacus

namespace Program

/-- The environment variables that settings are read from. -/
def variableNames : List String :=
  ["STACK_CALC_STRICT_SCANNER", "STACK_CALC_PLACEHOLDER_TEXT", "STACK_CALC_ERROR_MESSAGE",
    "STACK_CALC_LOG_LEVEL", "STACK_CALC_APP_TITLE", "STACK_CALC_APP_VERSION"]

def environment : IO (List (String × String)) := do
  let values ← variableNames.mapM fun name => do return (name, ← IO.getEnv name)
  return values.filterMap fun (name, value) => value.map fun text => (name, text)

partial def readInput (text : String) : IO String := do
  let line ← (← IO.getStdin).getLine
  if line.isEmpty then return text else readInput (text ++ line)

/-- Whether a command line takes its text from the input. -/
def takesInput (words : List String) : Bool :=
  match CommandLine.readInvocation words with
  | .ok ⟨_, .evaluate none _⟩ => true
  | _ => false

/-- Whether a command line asks for a conversation. -/
def isConversation (words : List String) : Bool :=
  match CommandLine.readInvocation words with
  | .ok ⟨_, .converse⟩ => true
  | _ => false

partial def converse (settings : Settings) (threshold : Log.Level) : IO Unit := do
  let stdout ← IO.getStdout
  stdout.putStr CommandLine.prompt
  stdout.flush
  let line ← (← IO.getStdin).getLine
  unless line.isEmpty do
    match CommandLine.replyTo settings line with
    | .farewell => pure ()
    | reply =>
        IO.eprint (Log.render threshold reply.log)
        stdout.putStr (reply.output settings)
        converse settings threshold

def finish (words : List String) (environment : List (String × String)) : IO UInt32 := do
  let input ← if takesInput words then readInput "" else pure ""
  match CommandLine.run words input environment with
  | .error refusal =>
      IO.eprintln refusal.message
      return 1
  | .ok ending =>
      match ending with
      | .help => IO.print CommandLine.usage
      | .misuse misuse =>
          IO.eprint CommandLine.usage
          IO.eprintln ("error: " ++ misuse.message)
      | .finished report =>
          IO.print report.output
          IO.eprint report.errors
      return UInt32.ofNat ending.code

def start (words : List String) : IO UInt32 := do
  let given ← environment
  if isConversation words then
    match CommandLine.readInvocation words, CommandLine.prepare given with
    | .ok invocation, .ok (settings, threshold) =>
        IO.print CommandLine.greeting
        converse (CommandLine.settingsOf settings invocation) threshold
        return 0
    | _, _ => finish words given
  else finish words given

end Program

end Abacus

def main (words : List String) : IO UInt32 := Abacus.Program.start words
