import Reckoner.CommandLine.Integer
import Reckoner.CommandLine.Report
import Reckoner.Session.Completion

/-!
The dialogue on a terminal. A line is a sequence of keys between spaces, or an instruction after a
colon; after each of them the display is printed. While a line is awaited the capture runs.
-/

namespace Reckoner.CommandLine

inductive Instruction where
  | leave
  | help
  | history
  /-- Load the entry of the history whose index this is. -/
  | select (argument : String)
  | say (text : String)
  | unknown (name : String)
  | keys (keys : List String)
deriving DecidableEq, Repr

namespace Instruction

def named (name argument : String) : Instruction :=
  match name with
  | "quit" | "exit" | "q" => leave
  | "help" => help
  | "history" => history
  | "select" => select argument
  | "say" => say argument
  | name => unknown name

/-- What a line asks for; a blank line asks for nothing. A colon begins an instruction, and the
words of every other line are keys. -/
def ofLine? (line : String) : Option Instruction :=
  match Text.trim line.toList with
  | [] => none
  | ':' :: chars =>
    let name := chars.takeWhile (· ≠ ' ')
    some (named (String.ofList name) (String.ofList (chars.drop (name.length + 1))))
  | chars => some (keys ((Text.words chars).map String.ofList))

end Instruction

/-- A dialogue: the session that it is about, and the times of the entries in its history. The times
are kept beside the session, which knows of none. -/
structure Dialogue where
  session : Session
  times : List String := []

namespace Dialogue

def greeting : String := "[bold green]VoxCalc[/] - type [cyan]:help[/] for keys and commands"

def prompt : String := "calc> "

def farewell : String := "Goodbye!"

def helpText : String :=
  "[bold]Keypad[/]\n" ++
  "  Enter keypad tokens separated by spaces, e.g. [cyan]2 + 3 =[/] or [cyan]sin 90 ) =[/].\n" ++
  "  Special keys: AC = DEL Deg 2nd sin cos tan lg ln √ x^y 1/x ! e π ( ) MIC\n" ++
  "  Any other token is typed as-is.\n" ++
  "\n" ++
  "[bold]Commands[/]\n" ++
  "  :say TEXT    dictate TEXT as one utterance\n" ++
  "  :history     list history\n" ++
  "  :select N    load history entry N\n" ++
  "  :help        show this help\n" ++
  "  :quit        leave"

def create (configuration : Configuration) (mode : AngleMode) : Dialogue :=
  { session := { Session.create configuration true none with angleMode := mode } }

/-- The modes of a session, as they stand beside its result. All but the angle mode are named only
while they are on. -/
def modes (session : Session) : List String :=
  [session.angleMode.name] ++
    (if session.modifier = .second then ["2nd"] else []) ++
    (if session.isFallbackResult then ["fallback"] else []) ++
    (if session.voice.isListening then ["listening"] else [])

/-- The style of a result: markers of failure stand out. -/
def resultStyle (result : String) : String :=
  if result = Outcome.declinedMarker ∨ result = Outcome.unavailableMarker then "red"
  else "bold green"

def printNotification : Option String → Report Unit
  | some text => .line ("  [yellow]" ++ Console.escape text ++ "[/]")
  | none => pure ()

def printDisplay (session : Session) : Report Unit := do
  let buffer := Console.escape session.buffer
  .line ("  [dim]" ++ (if buffer.isEmpty then " " else buffer) ++ "[/]")
  .line ("  [" ++ resultStyle session.result ++ "]" ++ Console.escape session.result ++ "[/]  [dim]"
    ++ " ".intercalate (modes session) ++ "[/]")

/-- Print the display. A notification is shown once: it is taken off the session as soon as it has
been printed. -/
def display (dialogue : Dialogue) : Report Dialogue := do
  printDisplay dialogue.session
  printNotification dialogue.session.notification
  return { dialogue with session := { dialogue.session with notification := none } }

/-- The rows for entries with their times, of which the first has an index. The texts of an entry
are escaped, for whatever was typed may stand in them. -/
def historyRows (index : Nat) : List (Entry × String) → List (List String)
  | [] => []
  | (entry, time) :: rest =>
    [toString index, Console.escape entry.input, Console.escape entry.result, time] ::
      historyRows (index + 1) rest

def printHistory (dialogue : Dialogue) : Report Unit :=
  let entries := dialogue.session.history.entries
  if entries.isEmpty then .line "[yellow]No history yet[/]"
  else
    .table "History" ["#", "Input", "Result", "Time"] (historyRows 0 (entries.zip dialogue.times))

def timesAfter (response : Session.Response) (now : String) (dialogue : Dialogue) : List String :=
  if response.outcome?.any Outcome.isSuccess then
    History.upTo dialogue.session.history.limit (now :: dialogue.times)
  else dialogue.times

/-- Press a key and wait for what comes of it. An evaluation whose result cannot be written ends the
dialogue with a fault, and nothing after it is printed. -/
def press (context : Session.Context) (now : String) (dialogue : Dialogue) (key : String) :
    Report Dialogue := do
  let (session, response) ← Report.withService fun service =>
    let (session, response, service) := dialogue.session.complete context (.press key) service
    ((session, response), service)
  match response with
  | .started (.crashed cause) => Report.fail (.format cause)
  | response => return { session, times := dialogue.timesAfter response now }

/-- Speak a text into the microphone, which is opened if it is not. Where that fails the session has
a notification. -/
def say (settings : VoiceSettings) (text : String) (session : Session) : Session :=
  let (session, ready) :=
    if session.voice.isListening then (session, true) else session.startCapture settings
  if ready then (session.submit (.heard text true)).1.settle else session

def select (argument : String) (session : Session) : Report Session :=
  let (session, entry) := match integer? argument with
    | some index => session.selectHistory index
    | none => (session, none)
  match entry with
  | some _ => return session
  | none => do
    .line ("[red]No history entry: " ++ argument ++ "[/]")
    return session

def obey (context : Session.Context) (now : String) (dialogue : Dialogue) :
    Instruction → Report Dialogue
  | .leave => return dialogue
  | .help => do
    .line helpText
    return dialogue
  | .history => do
    dialogue.printHistory
    return dialogue
  | .select argument => do
    return { dialogue with session := ← select argument dialogue.session }
  | .say text => return { dialogue with session := say context.voice text dialogue.session }
  | .unknown name => do
    .line ("[red]Unknown command: " ++ name ++ "[/]")
    return dialogue
  | .keys keys => keys.foldlM (press context now) dialogue

/-- Answer a line: the dialogue after it, or none if it was left. What a capture has heard since the
last line is taken first. -/
def respond (context : Session.Context) (now line : String) (dialogue : Dialogue) :
    Report (Option Dialogue) :=
  let dialogue := { dialogue with session := dialogue.session.settle }
  match Instruction.ofLine? line with
  | none => return some dialogue
  | some .leave => return none
  | some instruction => do
    let dialogue ← dialogue.obey context now instruction
    return some (← dialogue.display)

/-- Answer lines until the dialogue is left or no line is left. The prompt is printed before each
line, and also where there is no line to answer. -/
def respondAll (context : Session.Context) (now : String) (dialogue : Dialogue) :
    List String → Report Unit
  | [] => .plain prompt
  | line :: rest => do
    .plain prompt
    match ← dialogue.respond context now line with
    | some dialogue => dialogue.respondAll context now rest
    | none => return

def run (context : Session.Context) (now : String) (lines : List String) (dialogue : Dialogue) :
    Report Unit := do
  .line greeting
  dialogue.respondAll context now lines
  .line farewell

end Dialogue

end Reckoner.CommandLine
