import Reckoner.Registry
import Reckoner.Server.Identifier

/-!
What the server shows: the display of a session, its history, and the public part of the
configuration.
-/

namespace Reckoner.Server

def version : String := "1.0.0"

def optionalText : Option String → Json
  | some s => .string s
  | none => .null

def displayOf (session : Session) : Json :=
  .object [
    ("input_text", .string session.buffer),
    ("result_text", .string session.result),
    ("is_fallback_result", .bool session.isFallbackResult),
    ("is_loading", .bool session.isEvaluating),
    ("angle_mode", .string session.angleMode.name),
    ("modifier", .string session.modifier.name),
    ("is_listening", .bool session.voice.isListening),
    ("notification", optionalText session.notification)]

def sessionView (number : Nat) (session : Session) : Json :=
  .object [("session_id", .string (writeIdentifier number)), ("display", displayOf session)]

def entryView (entry : Entry) : Json :=
  .object [("input_text", .string entry.input), ("result_text", .string entry.result)]

def historyView (session : Session) : Json := .array (session.history.entries.map entryView)

def healthView : Json := .object [("status", .string "healthy"), ("version", .string version)]

def configurationView (configuration : Configuration) : Json :=
  let settings := configuration.settings
  .object [
    ("app_name", .string settings.appName),
    ("history_limit", .integer settings.historyLimit),
    ("result_decimals", .integer settings.resultDecimals),
    ("fallback_provider", .string settings.fallbackProvider.name),
    ("voice_enabled", .bool configuration.voice.enabled),
    ("voice_language", .string configuration.voice.language)]

end Reckoner.Server
