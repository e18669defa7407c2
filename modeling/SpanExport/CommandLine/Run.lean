import SpanExport.CommandLine.Screen
import SpanExport.Tracing.Session

/-!
# Running the command

The command sends one span through a session of its own and shuts the session down. Its exit
code is 1 for a configuration and 2 for an attribute that is refused, and 4 for anything that
fails after that. A fraction or an attribute of the wrong kind is not reported: the command
fails.
-/

namespace SpanExport

namespace Session

/-- Makes one span with the attributes, and a note unless its text is empty. -/
def makeTestSpan (name : Value) (attributes : Fields) (note : Option Value) :
    Call Session Unit := do
  let span ← start name none attributes none
  match note with
  | some (.text text) => if text ≠ "" then addNote span text .empty none
  | _ => pure ()
  finish span none

/-- Configures tracing, makes the span, and shuts tracing down whatever happens in between. -/
def sendTestSpan (c : Configuration) (name : Value) (attributes : Fields)
    (note : Option Value) : Call Session Unit := do
  let _ ← setup c .simple none []
  Call.ensuring (makeTestSpan name attributes note) shutdown

end Session

namespace Arguments

/-- The line for a run that went well, if it was asked for. -/
def sentLine (args : Arguments) (c : Configuration) : String :=
  if args.verbose then
    "Sent span '" ++ args.name.shown ++ "' to dataset '" ++ c.dataset.shown ++ "'\n"
  else ""

def execute (args : Arguments) : Call Session Report := do
  match args.configuration (← Call.get).environment with
  | .error (.fraction cause) => .ofExcept (.error (.configuration (.fraction cause)))
  | .error e => return { stderr := "Error: Invalid configuration: " ++ e.message ++ "\n", exitCode := 1 }
  | .ok c =>
    match Attribute.readAll args.attributes with
    | .error (.noText kind) => .ofExcept (.error (.attribute (.noText kind)))
    | .error e => return { stderr := "Error: Invalid attribute: " ++ e.message ++ "\n", exitCode := 2 }
    | .ok attributes =>
      match ← Call.attempt (Session.sendTestSpan c args.name attributes args.note) with
      | .error e => return { stderr := "Error: " ++ e.message ++ "\n", exitCode := 4 }
      | .ok _ => return { stderr := args.sentLine c, exitCode := 0 }

end Arguments

def runCommand (words : List String) : Call Session Report := do
  match Arguments.parse words with
  | .error stop => return stop.report
  | .ok args => args.execute

end SpanExport
