import Reckoner.CommandLine.ConfigurationFile
import Reckoner.Console.Print
import Reckoner.Fallback.Answer
import Reckoner.Settings.Override

/-!
Reports: what a command prints while it may ask a fallback service, and how it ends. What was
printed and asked before a fault counts all the same, so a fault is a result beside the output and
does not stand in its place. `bind_of_ok` says how a report follows one that has a result.
-/

namespace Reckoner.CommandLine

inductive Fault where
  /-- A text that is printed has markup that cannot be shown. -/
  | markup (cause : Console.MarkupError)
  | format (cause : FormatError)
  | file (cause : FileError)
  /-- A value of a configuration file does not fit its setting. -/
  | overrides (cause : Settings.OverrideError)
  /-- The level of detail for the log is none of those that exist. -/
  | logLevel (level : String)

def Fault.message : Fault → String
  | markup cause => cause.message
  | format cause => cause.message
  | file cause => cause.message
  | overrides cause => cause.message
  | logLevel level => String.ofList (Text.quoted ("level " ++ level).toList)

/-- What was printed, the service after all that it was asked, and the result or what prevented
it. -/
structure Finished (α : Type) where
  output : String
  service : Fallback.Service
  result : Except Fault α

/-- A part of a command, which prints and may ask the service. It is given the service as it was
left, so that the questions come in the order of the parts. -/
def Report (α : Type) : Type := Fallback.Service → Finished α

namespace Report

/-- What comes after a report, if it has a result. What was printed and asked before counts in
either case. -/
def bind {α β : Type} (report : Report α) (next : α → Report β) : Report β := fun service =>
  let first := report service
  match first.result with
  | .error fault => ⟨first.output, first.service, .error fault⟩
  | .ok a =>
    let second := next a first.service
    { second with output := first.output ++ second.output }

instance : Monad Report where
  pure a := fun service => ⟨"", service, .ok a⟩
  bind := bind

theorem bind_of_ok {α β : Type} {report : Report α} {next : α → Report β}
    {service after : Fallback.Service} {output : String} {a : α}
    (h : report service = ⟨output, after, .ok a⟩) :
    (report >>= next) service =
      { next a after with output := output ++ (next a after).output } := by
  show bind report next service = _
  simp only [bind, h]

def fail {α : Type} (fault : Fault) : Report α := fun service => ⟨"", service, .error fault⟩

def withService {α : Type} (use : Fallback.Service → α × Fallback.Service) : Report α :=
  fun service =>
    let (a, service) := use service
    ⟨"", service, .ok a⟩

def plain (text : String) : Report Unit := fun service => ⟨text, service, .ok ()⟩

def ofConsole : Except Console.MarkupError String → Report Unit
  | .ok text => plain text
  | .error cause => fail (.markup cause)

def line (markup : String) : Report Unit := ofConsole (Console.printed markup)

def table (title : String) (headings : List String) (rows : List (List String)) : Report Unit :=
  ofConsole (Console.printedTable title headings rows)

end Report

end Reckoner.CommandLine
