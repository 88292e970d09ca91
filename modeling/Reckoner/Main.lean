import Reckoner.CommandLine.Execution
import Reckoner.Json.Printer
import Reckoner.Server.Handling
import Reckoner.Settings.Environment
import Std.Time.Format

/-!
The program. Everything that it does is decided elsewhere; here it reads its arguments, its settings
from the environment, files and lines, and writes what comes of them. No fallback service is within
reach, so every call of one fails. The server takes its requests from the standard input, one in a
line: method, target and body, with a space between them.
-/

namespace Reckoner.Program

open CommandLine

def service : Fallback.Service := { answer := fun _ _ => .failed "The service cannot be reached" }

def environment : IO (List (String × String)) := do
  let names := Settings.fields.map (Settings.variableStart ++ ·.name) ++
    Settings.voiceFields.map (Settings.voiceVariableStart ++ ·.name)
  names.filterMapM fun name => do
    return (← IO.getEnv name.toUpper).map fun value => (name, value)

def file (path : String) : IO File := do
  try
    return .text (← IO.FS.readFile path)
  catch
    | .noFileOrDirectory .. => return .missing
    | _ => return .directory

def timeOfDay : IO String := do
  return (← Std.Time.PlainTime.now).format "HH:mm:ss"

def write (text : String) : IO Unit := do
  let output ← IO.getStdout
  output.putStr text
  output.flush

/-- Print a report, and go on with the service if it has a result. Otherwise the message of the
fault is all that follows. -/
def print {α : Type} (report : Report α) (service : Fallback.Service)
    (next : α → Fallback.Service → IO UInt32) : IO UInt32 := do
  let finished := report service
  write finished.output
  match finished.result with
  | .ok a => next a finished.service
  | .error fault =>
    IO.eprintln fault.message
    return 1

def leave (service : Fallback.Service) : IO UInt32 :=
  print (.line Dialogue.farewell) service fun _ _ => return 0

partial def converse (context : Session.Context) (dialogue : Dialogue)
    (service : Fallback.Service) : IO UInt32 := do
  write Dialogue.prompt
  let line ← (← IO.getStdin).getLine
  if line.isEmpty then leave service
  else
    print (dialogue.respond context (← timeOfDay) line) service fun
      | some dialogue, service => converse context dialogue service
      | none, service => leave service

def requestOf (line : String) : Server.Request :=
  let chars := (Text.trim line.toList)
  let method := chars.takeWhile (· ≠ ' ')
  let rest := chars.drop (method.length + 1)
  let target := rest.takeWhile (· ≠ ' ')
  ⟨.ofList method, .ofList target, .ofList (rest.drop (target.length + 1))⟩

/-- An answer on a line: its status, and what it holds. -/
def answerText (answer : Server.Answer) : String :=
  toString answer.status ++ match answer.body with
    | .empty => ""
    | .text text => " " ++ text
    | .json value => " " ++ value.render

partial def serve (server : Server) : IO UInt32 := do
  let line ← (← IO.getStdin).getLine
  if line.isEmpty then return 0
  let (answer, server) := server.handle (requestOf line)
  write (answerText answer ++ "\n")
  serve server

def carryOn (ending : Ending) (service : Fallback.Service) : IO UInt32 := do
  match ending with
  | .exited status => return status.toUInt32
  | .misused cause =>
    IO.eprintln cause.message
    return 2
  | .conversing context dialogue =>
    print (.line Dialogue.greeting) service fun _ service => converse context dialogue service
  | .serving configuration _ =>
    let settings := configuration.settings
    serve {
      configuration, service
      context := .of configuration (.ofSettings none settings)
      registry := .create none settings }

def configurationPath? (arguments : List String) : Option String :=
  match Invocation.read arguments with
  | .ok (.command path _ _ _) => path
  | _ => none

def run (arguments : List String) : IO UInt32 := do
  match Settings.ofEnvironment (← environment) with
  | .error refusals =>
    for (name, cause) in refusals do
      IO.eprintln (Settings.OverrideError.refused name cause).message
    return 1
  | .ok configuration =>
    let found ← match configurationPath? arguments with
      | some path => file path
      | none => pure .missing
    print (start { configuration, file := fun _ => found } arguments) service carryOn

end Reckoner.Program

def main (arguments : List String) : IO UInt32 := Reckoner.Program.run arguments
