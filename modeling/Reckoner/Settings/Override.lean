import Reckoner.Settings.Basic

/-!
Overriding settings by name. Values are assigned one after the other in the order of the mapping,
those of the voice channel last; unknown names are passed over. The first value that is refused ends
the assignment, and what was assigned before it stays.
-/

namespace Reckoner.Settings

inductive OverrideError where
  /-- A value does not fit the setting of this name. -/
  | refused (name : String) (cause : Refusal)
  /-- The voice section is neither empty nor a mapping. -/
  | voiceNotMapping (value : Json)

def OverrideError.message : OverrideError → String
  | refused name cause => "The value of " ++ name ++ " is refused: " ++ cause.name
  | voiceNotMapping value => "'" ++ value.kind ++ "' object has no attribute 'items'"

/-- Assign named values in order: the settings as far as values were assigned, and what stopped the
assignment. -/
def assignAll {σ : Type} (fields : List (Field σ)) :
    List (String × Json) → σ → σ × Option OverrideError
  | [], settings => (settings, none)
  | (name, json) :: rest, settings =>
    match fields.find? (·.name = name) with
    | none => assignAll fields rest settings
    | some field =>
      match field.assign json settings with
      | .ok assigned => assignAll fields rest assigned
      | .error cause => (settings, some (.refused name cause))

def voiceSection : String := "voice"

def applyOverrides (overrides : List (String × Json)) (configuration : Configuration) :
    Configuration × Option OverrideError :=
  let general := overrides.filter (·.1 ≠ voiceSection)
  match assignAll fields general configuration.settings with
  | (settings, some error) => ({ configuration with settings }, some error)
  | (settings, none) =>
    match overrides.lookup voiceSection with
    | none => ({ configuration with settings }, none)
    | some (.object members) =>
      let (voice, error) := assignAll voiceFields members configuration.voice
      ({ settings, voice }, error)
    | some value =>
      if value.isVacant then ({ configuration with settings }, none)
      else ({ configuration with settings }, some (.voiceNotMapping value))

/-- The names and values of all settings, those of the voice channel after a point. These are the
names under which changes are told. -/
def entries (configuration : Configuration) : List (String × Value) :=
  fields.map (fun field => (field.name, field.value configuration.settings)) ++
    voiceFields.map (fun field =>
      (voiceSection ++ "." ++ field.name, field.value configuration.voice))

/-- The settings whose values differ from those of another configuration, with the values that they
have there. Settings are compared by value, so assigning the same one again is no change. -/
def changes (before after : Configuration) : List (String × Value) :=
  (entries before).zip (entries after) |>.filterMap fun (old, new) =>
    if old.2 = new.2 then none else some new

end Reckoner.Settings
