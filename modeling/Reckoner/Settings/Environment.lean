import Reckoner.Settings.Basic

/-!
Settings from environment variables. A variable belongs to a setting when its name is that of the
setting after a common beginning, in any case. All values are converted, and every refusal is
reported.
-/

namespace Reckoner.Settings

/-- What the names of variables begin with, in lower case. The names themselves may be in any
case. -/
def variableStart : String := "voxcalc_"
def voiceVariableStart : String := "voxcalc_voice_"

/-- The value of the variable of a name in lower case; of several the last counts. They can differ
in the case of their names. -/
def lookupVariable? (environment : List (String × String)) (name : String) : Option String :=
  (environment.reverse.find? fun entry =>
    String.ofList (entry.1.toList.map Binary64.lowerLetter) = name).map Prod.snd

/-- Read fields from the environment: the settings with all values that fit, and the refusals with
the names of their settings. -/
def readFields {σ : Type} (environment : List (String × String)) (start : String) :
    List (Field σ) → σ → σ × List (String × Refusal)
  | [], settings => (settings, [])
  | field :: rest, settings =>
    match lookupVariable? environment (start ++ field.name) with
    | none => readFields environment start rest settings
    | some text =>
      match field.assign (.string text) settings with
      | .ok assigned => readFields environment start rest assigned
      | .error cause =>
        let (settings, refusals) := readFields environment start rest settings
        (settings, (field.name, cause) :: refusals)

/-- The configuration that an environment describes. The settings of the voice channel are read only
when all others fit. -/
def ofEnvironment (environment : List (String × String)) :
    Except (List (String × Refusal)) Configuration :=
  match readFields environment variableStart fields {} with
  | (settings, []) =>
    match readFields environment voiceVariableStart voiceFields {} with
    | (voice, []) => .ok { settings, voice }
    | (_, refusals) => .error refusals
  | (_, refusals) => .error refusals

end Reckoner.Settings
