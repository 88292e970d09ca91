import Reckoner.CommandLine.Command
import Reckoner.Console.Print

/-!
Help pages: how a command is called, what it does, and its operands and options in panels as wide as
the screen. A panel sets its rows in columns, each as wide as its widest cell.
-/

namespace Reckoner.CommandLine

/-- A row of a panel: short cells, and after them what is told about their subject. The cells are
aligned with those of other rows, and the remarks are not. -/
structure HelpRow where
  cells : List String
  remarks : List String

structure Panel where
  title : String
  rows : List HelpRow

structure HelpPage where
  usage : String
  description : String
  panels : List Panel

def Panel.innerWidth : Nat := Console.screenWidth - 4

def widerColumns : List Nat → List Nat → List Nat
  | [], widths => widths
  | widths, [] => widths
  | v :: vs, w :: ws => max v w :: widerColumns vs ws

/-- The widths that the short cells of a panel need. -/
def Panel.columnWidths (panel : Panel) : List Nat :=
  panel.rows.foldl (fun widths row => widerColumns widths (row.cells.map String.length)) []

/-- A text filled with spaces up to so many columns. -/
def filled (columns : Nat) (text : String) : String :=
  String.ofList (Console.padTo columns text.toList)

/-- The short cells of a row, two spaces after each. They are filled up to the widths of the panel,
so that the remarks of all rows begin in one column. -/
def HelpRow.start (widths : List Nat) (row : HelpRow) : String :=
  String.join (List.zipWith (fun width cell => filled width cell ++ "  ") widths row.cells)

/-- Remarks stand on one line if they fit there, else each on its own. -/
def remarkLines (columns : Nat) (remarks : List String) : List String :=
  let together := " ".intercalate remarks
  if together.length ≤ columns then [together] else remarks

/-- The lines of a row: remarks go on below the first one, in the column in which they began. So the
short cells stand alone on the left. -/
def HelpRow.lines (widths : List Nat) (row : HelpRow) : List String :=
  let start := row.start widths
  match remarkLines (Panel.innerWidth - start.length) row.remarks with
  | [] => [start]
  | first :: others => (start ++ first) :: others.map (filled start.length "" ++ ·)

def Panel.lines (panel : Panel) : List String :=
  let dashes (n : Nat) := String.ofList (List.replicate n '─')
  let top := "╭─ " ++ panel.title ++ " "
  [top ++ dashes (Console.screenWidth - 1 - top.length) ++ "╮"] ++
    (panel.rows.flatMap (HelpRow.lines panel.columnWidths)).map
      (fun line => "│ " ++ filled Panel.innerWidth line ++ " │") ++
    ["╰" ++ dashes (Console.screenWidth - 2) ++ "╯"]

/-- A help page as it is printed, with an empty line at its end. Usage and description stand before
the panels, which come in the order of the page. -/
def HelpPage.text (page : HelpPage) : String :=
  let lines := ["", " Usage: " ++ page.usage, "", " " ++ page.description, ""] ++
    page.panels.flatMap Panel.lines ++ [""]
  String.join (lines.map (· ++ "\n"))

/-- What is told about an option: its names, that of its opposite, and the kind of its value. A name
that an option does not have is empty. -/
structure OptionNote where
  long : String
  short : String := ""
  opposite : String := ""
  kind : String := "<bool>"
  remarks : List String

/-- An option has a column for each kind of name, also for a short name of its opposite. No option
has one, so that column stays empty. -/
def OptionNote.row (note : OptionNote) : HelpRow :=
  ⟨[note.long, note.short, note.opposite, "", note.kind], note.remarks⟩

def helpNote : OptionNote where
  long := "--help"
  remarks := ["Show this message and exit."]

/-- What is told about the options that stand before the command. -/
def programNotes : List OptionNote := [
  { long := "--config", short := "-c", kind := "<path>", remarks := ["YAML configuration file"] },
  { long := "--verbose", short := "-v", remarks := ["Show debug logs"] },
  helpNote]

/-- What is told about the options for evaluations, given what is told about the angle mode. The two
commands that evaluate differ in nothing else. -/
def evaluationNotes (degrees : String) : List OptionNote := [
  { long := "--degrees", short := "-d", remarks := [degrees] },
  { long := "--fallback", opposite := "--no-fallback",
    remarks := ["Use the fallback interpreter", "[default: fallback]"] },
  helpNote]

def serverNotes : List OptionNote := [
  { long := "--host", short := "-h", kind := "<str>", remarks := ["Host to bind to"] },
  { long := "--port", short := "-p", kind := "<int>", remarks := ["Port to bind to"] },
  { long := "--reload", short := "-r", remarks := ["Enable auto-reload"] },
  helpNote]

/-- What is told about the options that a command takes. -/
def CommandName.notes : CommandName → List OptionNote
  | eval => evaluationNotes "Trig functions use degrees"
  | repl => evaluationNotes "Start in degree mode"
  | serve => serverNotes
  | canonicalize | config => [helpNote]

/-- An operand has a star before it, for it has to be given, and its name stands where the short
names of options do. -/
def operandRow (remark name : String) : HelpRow :=
  ⟨["*", "", name, "", "", "<str>"], [remark, "[required]"]⟩

def CommandName.operandRemark : CommandName → String
  | eval => "Expression to evaluate"
  | canonicalize => "Spoken transcript"
  | config | repl | serve => ""

def CommandName.description : CommandName → String
  | eval => "Evaluate one expression."
  | canonicalize => "Show the calculator tokens a transcript dictates."
  | config => "Show the effective configuration."
  | repl => "Start an interactive keypad session."
  | serve => "Start the VoxCalc API server."

def optionPanel (notes : List OptionNote) : Panel := ⟨"Options", notes.map OptionNote.row⟩

def programPage : HelpPage where
  usage := "voxcalc [OPTIONS] COMMAND [ARGS]..."
  description := "VoxCalc - keypad & voice expression evaluator"
  panels := [
    optionPanel programNotes,
    ⟨"Commands", CommandName.all.map fun name => ⟨[name.text], [name.description]⟩⟩]

def CommandName.page (name : CommandName) : HelpPage where
  usage := "voxcalc " ++ name.text ++ " [OPTIONS]" ++
    String.join (name.operands.map (" " ++ writtenOperand ·))
  description := name.description
  panels :=
    (if name.operands.isEmpty then []
      else [⟨"Arguments", name.operands.map (operandRow name.operandRemark)⟩]) ++
    [optionPanel name.notes]

end Reckoner.CommandLine
