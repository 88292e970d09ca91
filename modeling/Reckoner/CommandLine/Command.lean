import Reckoner.CommandLine.Arguments
import Reckoner.CommandLine.Integer
import Reckoner.Expression.Scope

/-!
The commands of the program, with the options and operands that each of them takes.
-/

namespace Reckoner.CommandLine

inductive CommandName where
  | eval
  | canonicalize
  | config
  | repl
  | serve
deriving DecidableEq, Repr

namespace CommandName

def text : CommandName → String
  | eval => "eval"
  | canonicalize => "canonicalize"
  | config => "config"
  | repl => "repl"
  | serve => "serve"

def all : List CommandName := [eval, canonicalize, config, repl, serve]

def ofText? (name : String) : Option CommandName := all.find? (·.text = name)

end CommandName

def helpSwitch : Switch := ⟨["--help"], .flag fun options => { options with help := true }⟩

def programSwitches : List Switch := [
  ⟨["--config", "-c"], .valued fun path options => { options with configuration := some path }⟩,
  ⟨["--verbose", "-v"], .flag fun options => { options with verbose := true }⟩,
  helpSwitch]

def evaluationSwitches : List Switch := [
  ⟨["--degrees", "-d"], .flag fun options => { options with degrees := true }⟩,
  ⟨["--fallback"], .flag fun options => { options with fallback := true }⟩,
  ⟨["--no-fallback"], .flag fun options => { options with fallback := false }⟩,
  helpSwitch]

def serverSwitches : List Switch := [
  ⟨["--host", "-h"], .valued fun host options => { options with host := some host }⟩,
  ⟨["--port", "-p"], .valued fun port options => { options with port := some port }⟩,
  ⟨["--reload", "-r"], .flag fun options => { options with reload := true }⟩,
  helpSwitch]

def CommandName.switches : CommandName → List Switch
  | eval | repl => evaluationSwitches
  | serve => serverSwitches
  | canonicalize | config => [helpSwitch]

def CommandName.operands : CommandName → List String
  | eval => ["expression"]
  | canonicalize => ["transcript"]
  | config | repl | serve => []

inductive Command where
  | help (name : CommandName)
  | evaluate (expression : String) (mode : AngleMode) (fallback : Bool)
  | canonicalize (transcript : String)
  | showConfiguration
  | converse (mode : AngleMode) (fallback : Bool)
  | serve (host : Option String) (port : Option Int) (reload : Bool)
deriving DecidableEq, Repr

def checkOperands : List String → List String → Except UsageError Unit
  | [], [] => .ok ()
  | name :: _, [] => .error (.operandMissing name)
  | [], operand :: _ => .error (.operandUnexpected operand)
  | _ :: names, _ :: given => checkOperands names given

def Options.mode (options : Options) : AngleMode :=
  if options.degrees then .degrees else .radians

def Options.portNumber (options : Options) : Except UsageError (Option Int) :=
  match options.port with
  | none => .ok none
  | some numeral =>
    match integer? numeral with
    | some port => .ok (some port)
    | none => .error (.noInteger numeral)

/-- The command of a name, with its arguments. Help is given whatever else is said, so operands are
counted only after it was not asked for. -/
def Command.read (name : CommandName) (arguments : List String) : Except UsageError Command := do
  let (options, operands) ← readWords name.switches true {} [] arguments
  if options.help then return .help name
  checkOperands name.operands operands
  let operand := operands.headD ""
  match name with
  | .eval => return .evaluate operand options.mode options.fallback
  | .canonicalize => return .canonicalize operand
  | .config => return .showConfiguration
  | .repl => return .converse options.mode options.fallback
  | .serve => return .serve options.host (← options.portNumber) options.reload

/-- What stands before the arguments of a command: whether help is asked for, the path of a
configuration file, and the command. -/
inductive Invocation where
  | help
  | command (configuration : Option String) (verbose : Bool) (name : CommandName)
      (arguments : List String)
deriving DecidableEq, Repr

def Invocation.read (arguments : List String) : Except UsageError Invocation := do
  let (options, rest) ← readWords programSwitches false {} [] arguments
  if options.help then return .help
  match rest with
  | [] => .error .commandMissing
  | word :: arguments =>
    match CommandName.ofText? word with
    | some name => return .command options.configuration options.verbose name arguments
    | none => .error (.unknownCommand word)

end Reckoner.CommandLine
