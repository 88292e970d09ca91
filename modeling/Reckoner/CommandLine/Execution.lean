import Reckoner.CommandLine.Command
import Reckoner.CommandLine.Dialogue
import Reckoner.CommandLine.Help
import Reckoner.Evaluation

/-!
The commands at work. What lies outside of the program is given to it: what is found under a path,
and how inputs that the grammar rejects are treated. A command that talks to somebody, on a terminal
or over a network, ends here with the order to do so.
-/

namespace Reckoner.CommandLine

structure Surroundings where
  configuration : Configuration := {}
  file : String → File
  /-- The second stage of evaluations under the settings, unless it is switched off. -/
  stage : Settings → Fallback.Stage := .ofSettings none

structure ServerPlan where
  host : String
  port : Int
  reload : Bool
deriving DecidableEq, Repr

inductive Ending where
  | exited (status : Nat)
  | misused (cause : UsageError)
  | conversing (context : Session.Context) (dialogue : Dialogue)
  | serving (configuration : Configuration) (plan : ServerPlan)

/-- The configuration with what a file overrides; none if there is no such file. A missing file is
named and ends the command, but is no fault. -/
def configured (configuration : Configuration) (path : String) (file : File) :
    Report (Option Configuration) :=
  match file.mapping? path with
  | .error cause => .fail (.file cause)
  | .ok none => do
    .line ("[red]Config file not found: " ++ normalPath path ++ "[/]")
    return none
  | .ok (some overrides) =>
    match Settings.applyOverrides overrides configuration with
    | (_, some cause) => .fail (.overrides cause)
    | (configuration, none) => return some configuration

/-- A value as the table of settings shows it. Keys are not shown, only whether there is one, so
that the table can be passed on. -/
def shownValue : Settings.Value → String
  | .text s => s
  | .flag b => if b then "True" else "False"
  | .integer n => toString n
  | .number x => x.text
  | .secret key => if key.any (!·.isEmpty) then "set" else "-"

def printConfiguration (configuration : Configuration) : Report Unit :=
  .table "Configuration" ["Setting", "Value"]
    ((Settings.entries configuration).map fun (name, value) => [name, shownValue value])

/-- The second stage of evaluations, which may be switched off. That is the same as choosing the
provider that is none, so both are closed for the same cause. -/
def Surroundings.stageOf (surroundings : Surroundings) (settings : Settings) (fallback : Bool) :
    Fallback.Stage :=
  if fallback then surroundings.stage settings
  else .ofSettings (some Provider.disabled.name) settings

/-- Print what is said about a failure, if anything is. It is printed as it stands, so a tag in it
is taken for one. -/
def printDetail : Option String → Report Unit
  | some detail => if detail.isEmpty then pure () else .line ("[dim]" ++ detail ++ "[/]")
  | none => pure ()

/-- Print an outcome; the status is zero for a success only. Its texts are printed as they stand,
and a tag in them is taken for one. -/
def printOutcome : Outcome → Report Nat
  | .success text viaFallback => do
    .line (text ++ if viaFallback then " [dim](fallback)[/]" else "")
    return 0
  | failure => do
    .line ("[red]" ++ failure.shown ++ "[/]")
    printDetail failure.detail?
    return 1

def evaluateAndPrint (places : Int) (stage : Fallback.Stage) (mode : AngleMode)
    (expression : String) : Report Nat := fun service =>
  match evaluateInput mode places stage expression service with
  | .ok (outcome, service) => printOutcome outcome service
  | .error cause => Report.fail (.format cause) service

def logLevels : List String :=
  ["critical", "fatal", "error", "warn", "warning", "info", "debug", "notset"]

/-- Make ready to serve: the arguments count before the settings, unless they are empty or zero. An
unknown level of detail for the log is noticed here. -/
def prepareServer (configuration : Configuration) (host : Option String) (port : Option Int)
    (reload : Bool) : Report ServerPlan := do
  let settings := configuration.settings
  let host := (host.filter (!·.isEmpty)).getD settings.host
  let port := (port.filter (· ≠ 0)).getD settings.port
  let level := Text.lowerString settings.logLevel
  if !logLevels.contains level then .fail (.logLevel level)
  else
    .line ("[bold green]Starting VoxCalc server on " ++ host ++ ":" ++ toString port ++ "[/]")
    return { host, port, reload }

def printHelp (page : HelpPage) : Report Ending := do
  .plain page.text
  return .exited 0

def execute (surroundings : Surroundings) (configuration : Configuration) :
    Command → Report Ending
  | .help name => printHelp name.page
  | .evaluate expression mode fallback => do
    let settings := configuration.settings
    let stage := surroundings.stageOf settings fallback
    return .exited (← evaluateAndPrint settings.resultDecimals stage mode expression)
  | .canonicalize transcript => do
    .line (Transcript.canonicalize transcript)
    return .exited 0
  | .showConfiguration => do
    printConfiguration configuration
    return .exited 0
  | .converse mode fallback =>
    let stage := surroundings.stageOf configuration.settings fallback
    return .conversing (.of configuration stage) (.create configuration mode)
  | .serve host port reload => do
    return .serving configuration (← prepareServer configuration host port reload)

/-- Execute the command of a name. Its arguments are looked at only now, so that what comes before
the name is carried out even if they are wrong. -/
def executeNamed (surroundings : Surroundings) (configuration : Configuration) (name : CommandName)
    (arguments : List String) : Report Ending :=
  match Command.read name arguments with
  | .ok command => execute surroundings configuration command
  | .error cause => return .misused cause

/-- Execute what the arguments of the program describe. The configuration file is read before the
arguments of the command are looked at. -/
def start (surroundings : Surroundings) (arguments : List String) : Report Ending :=
  match Invocation.read arguments with
  | .error cause => return .misused cause
  | .ok .help => printHelp programPage
  | .ok (.command none _ name arguments) =>
    executeNamed surroundings surroundings.configuration name arguments
  | .ok (.command (some path) _ name arguments) => do
    match ← configured surroundings.configuration path (surroundings.file path) with
    | none => return .exited 1
    | some configuration => executeNamed surroundings configuration name arguments

end Reckoner.CommandLine
