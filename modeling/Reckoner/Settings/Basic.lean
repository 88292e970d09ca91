import Reckoner.Settings.Conversion

/-!
The settings of the calculator and of its voice channel. Each setting is listed once, as a field
with its name, the conversion of its values and its current value; whatever goes through the
settings by name goes through these lists.
-/

namespace Reckoner

inductive Provider where
  | http
  | openai
  | anthropic
  /-- A model served nearby, which speaks the protocol of chat completions. -/
  | localModel
  | disabled
deriving DecidableEq, Repr

namespace Provider

def name : Provider → String
  | http => "http"
  | openai => "openai"
  | anthropic => "anthropic"
  | localModel => "local"
  | disabled => "none"

def all : List Provider := [http, openai, anthropic, localModel, disabled]

def ofName? (name : String) : Option Provider := all.find? (·.name = name)

end Provider

structure Settings where
  appName : String := "VoxCalc"
  debug : Bool := false
  logLevel : String := "INFO"
  host : String := "0.0.0.0"
  port : Int := 8000
  maxSessions : Int := 1000
  historyLimit : Int := 20
  resultDecimals : Int := 10
  fallbackProvider : Provider := .openai
  fallbackUrl : String := "http://localhost:8090/interpret"
  fallbackTimeout : Binary64 := 15
  fallbackTemperature : Binary64 := 0
  fallbackMaxTokens : Int := 256
  openaiKey : Option String := none
  openaiModel : String := "gpt-4o-mini"
  anthropicKey : Option String := none
  anthropicModel : String := "claude-sonnet-4-20250514"
  localUrl : String := "http://localhost:8080/v1"
  localModel : String := "llama3"

structure VoiceSettings where
  enabled : Bool := true
  language : String := "en-US"
  continuous : Bool := false
deriving DecidableEq, Repr

structure Configuration where
  settings : Settings := {}
  voice : VoiceSettings := {}

namespace Settings

inductive Value where
  | text (s : String)
  | flag (b : Bool)
  | integer (n : Int)
  | number (x : Binary64)
  | secret (s : Option String)
deriving DecidableEq

/-- A setting: its name, how a value is given to it, and its value. A value that is refused is given
to nothing. -/
structure Field (σ : Type) where
  name : String
  assign : Json → σ → Except Refusal σ
  value : σ → Value

def Field.of {σ α : Type} (name : String) (convert : Json → Except Refusal α) (set : α → σ → σ)
    (value : σ → Value) : Field σ :=
  { name, value, assign := fun json settings => (convert json).map fun a => set a settings }

def toProvider : Json → Except Refusal Provider
  | .string s => match Provider.ofName? s with
    | some provider => .ok provider
    | none => .error .notListed
  | _ => .error .notListed

def fields : List (Field Settings) := [
  .of "app_name" toText (fun v s => { s with appName := v }) (.text ·.appName),
  .of "debug" toBool (fun v s => { s with debug := v }) (.flag ·.debug),
  .of "log_level" toText (fun v s => { s with logLevel := v }) (.text ·.logLevel),
  .of "host" toText (fun v s => { s with host := v }) (.text ·.host),
  .of "port" toInt (fun v s => { s with port := v }) (.integer ·.port),
  .of "max_sessions" toInt (fun v s => { s with maxSessions := v }) (.integer ·.maxSessions),
  .of "history_limit" toInt (fun v s => { s with historyLimit := v }) (.integer ·.historyLimit),
  .of "result_decimals" toInt (fun v s => { s with resultDecimals := v })
    (.integer ·.resultDecimals),
  .of "fallback_provider" toProvider (fun v s => { s with fallbackProvider := v })
    (.text ·.fallbackProvider.name),
  .of "fallback_url" toText (fun v s => { s with fallbackUrl := v }) (.text ·.fallbackUrl),
  .of "fallback_timeout_seconds" toNumber (fun v s => { s with fallbackTimeout := v })
    (.number ·.fallbackTimeout),
  .of "fallback_temperature" toNumber (fun v s => { s with fallbackTemperature := v })
    (.number ·.fallbackTemperature),
  .of "fallback_max_tokens" toInt (fun v s => { s with fallbackMaxTokens := v })
    (.integer ·.fallbackMaxTokens),
  .of "openai_api_key" toOptionalText (fun v s => { s with openaiKey := v }) (.secret ·.openaiKey),
  .of "openai_model" toText (fun v s => { s with openaiModel := v }) (.text ·.openaiModel),
  .of "anthropic_api_key" toOptionalText (fun v s => { s with anthropicKey := v })
    (.secret ·.anthropicKey),
  .of "anthropic_model" toText (fun v s => { s with anthropicModel := v })
    (.text ·.anthropicModel),
  .of "local_model_url" toText (fun v s => { s with localUrl := v }) (.text ·.localUrl),
  .of "local_model_name" toText (fun v s => { s with localModel := v }) (.text ·.localModel)]

def voiceFields : List (Field VoiceSettings) := [
  .of "enabled" toBool (fun v s => { s with enabled := v }) (.flag ·.enabled),
  .of "language" toText (fun v s => { s with language := v }) (.text ·.language),
  .of "continuous" toBool (fun v s => { s with continuous := v }) (.flag ·.continuous)]

end Settings

end Reckoner
