/-!
The arguments of a command. Words that begin with a dash are options; each is known by its names and
sets something, or waits for a value, which is the next word whatever it looks like. Two dashes end
the options. Of an option that is given twice the last value counts.
-/

namespace Reckoner.CommandLine

structure Options where
  configuration : Option String := none
  verbose : Bool := false
  degrees : Bool := false
  fallback : Bool := true
  host : Option String := none
  port : Option String := none
  reload : Bool := false
  help : Bool := false
deriving DecidableEq, Repr

inductive UsageError where
  | unknownOption (name : String)
  /-- No word is left for the value of an option. -/
  | valueMissing
  /-- A value is given to an option that takes none. -/
  | valueUnexpected (name : String)
  | operandMissing (name : String)
  | operandUnexpected (operand : String)
  | commandMissing
  | unknownCommand (name : String)
  | noInteger (value : String)
deriving DecidableEq, Repr

/-- The name of an operand where it stands for what is to be given. -/
def writtenOperand (name : String) : String := "\x7b" ++ name ++ "\x7d"

def UsageError.message : UsageError → String
  | unknownOption name => "No such option: " ++ name
  | valueMissing => "An option requires an argument."
  | valueUnexpected name => "Option '" ++ name ++ "' does not take a value."
  | operandMissing name => "Missing argument '" ++ writtenOperand name ++ "'."
  | operandUnexpected operand => "Got unexpected extra argument (" ++ operand ++ ")"
  | commandMissing => "Missing command."
  | unknownCommand name => "No such command '" ++ name ++ "'."
  | noInteger value => "Invalid value: '" ++ value ++ "' is not a valid integer."

inductive Effect where
  | flag (set : Options → Options)
  | valued (set : String → Options → Options)

structure Switch where
  names : List String
  effect : Effect

def effectOf? (switches : List Switch) (name : String) : Option Effect :=
  (switches.find? (·.names.contains name)).map Switch.effect

/-- The options so far, and what the value that an option waits for will set. Such an option takes
the next word whatever that looks like. -/
structure Reading where
  options : Options := {}
  awaiting : Option (String → Options → Options) := none

/-- Read the rest of a word that begins with two dashes; a value may follow an equals sign. Without
one the value is the next word, and a switch takes none at all. -/
def readLong (switches : List Switch) (options : Options) (rest : List Char) :
    Except UsageError Reading :=
  let letters := rest.takeWhile (· ≠ '=')
  let name := String.ofList ('-' :: '-' :: letters)
  let value := (rest.drop letters.length).tail?.map String.ofList
  match effectOf? switches name, value with
  | none, _ => .error (.unknownOption name)
  | some (.flag set), none => .ok { options := set options }
  | some (.flag _), some _ => .error (.valueUnexpected name)
  | some (.valued set), some value => .ok { options := set value options }
  | some (.valued set), none => .ok { options, awaiting := some set }

/-- Read letters after a single dash, each of them an option. The first that takes a value takes
what is left of the word, or waits for the next word. -/
def readCluster (switches : List Switch) (options : Options) :
    List Char → Except UsageError Reading
  | [] => .ok { options }
  | letter :: rest =>
    let name := String.ofList ['-', letter]
    match effectOf? switches name with
    | none => .error (.unknownOption name)
    | some (.flag set) => readCluster switches (set options) rest
    | some (.valued set) =>
      if rest.isEmpty then .ok { options, awaiting := some set }
      else .ok { options := set (String.ofList rest) options }

/-- Read words: the options, and the operands that are left. Where operands may not stand between
options the first of them ends the options. -/
def readWords (switches : List Switch) (mixed : Bool) (reading : Reading) (operands : List String) :
    List String → Except UsageError (Options × List String)
  | [] => if reading.awaiting.isSome then .error .valueMissing else .ok (reading.options, operands)
  | word :: rest =>
    match reading.awaiting with
    | some set => readWords switches mixed { options := set word reading.options } operands rest
    | none =>
      match word.toList with
      | ['-', '-'] => .ok (reading.options, operands ++ rest)
      | '-' :: '-' :: letters => do
        readWords switches mixed (← readLong switches reading.options letters) operands rest
      | '-' :: letter :: letters => do
        readWords switches mixed (← readCluster switches reading.options (letter :: letters))
          operands rest
      | _ =>
        if mixed then readWords switches mixed reading (operands ++ [word]) rest
        else .ok (reading.options, operands ++ word :: rest)

end Reckoner.CommandLine
