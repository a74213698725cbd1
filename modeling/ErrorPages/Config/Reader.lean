import ErrorPages.Config.Problem
import ErrorPages.Files
import ErrorPages.Toml.Document

/-! Settings from a text. A section is a table, or an array of its settings in order; what it does
not give keeps its default, and what it gives beyond the settings is passed over. A text is accepted
only if its settings have no problems. -/

namespace ErrorPages.Config

open Toml (Value)

/-- A section may also be a date-time, which gives no settings. -/
def isSection : Value → Bool
  | .table .. | .array _ | .rows _ | .dateTime => true
  | _ => false

/-- The value that a section gives to the setting of an index and a name. -/
def given? (source : Value) (index : Nat) (name : String) : Option Value :=
  match source with
  | .table _ entries => entries.lookup name
  | .array items => items[index]?
  | .rows rows => rows[index]?.map (.table .header)
  | _ => none

/-- Reads the setting of an index and a name. -/
def setting {α : Type} (source : Value) (index : Nat) (name : String) (default : α)
    (read : Value → Option α) : Option α :=
  match given? source index name with
  | none => some default
  | some value => read value

def text? : Value → Option String
  | .text value => some value
  | _ => none

def flag? : Value → Option Bool
  | .flag value => some value
  | _ => none

def natural? : Value → Option Nat
  | .integer value => if 0 ≤ value then some value.toNat else none
  | _ => none

/-- A choice may be given a payload, which has to be empty. -/
def isEmptyPayload : Value → Bool
  | .array [] | .table _ [] => true
  | _ => false

/-- Reads a format by its name, or by a table whose only key is the name. -/
def logFormat? : Value → Option LogFormat
  | .text name => LogFormat.ofName? name
  | .table _ [(name, payload)] => if isEmptyPayload payload then LogFormat.ofName? name else none
  | _ => none

def Listener.ofToml? (v : Value) : Option Listener := do
  guard (isSection v)
  let d : Listener := {}
  return { bindAddress := ← setting v 0 "bind_address" d.bindAddress text? }

def Timeouts.ofToml? (v : Value) : Option Timeouts := do
  guard (isSection v)
  let d : Timeouts := {}
  return { requestSecs := ← setting v 0 "request_secs" d.requestSecs natural? }

def Templates.ofToml? (v : Value) : Option Templates := do
  guard (isSection v)
  let d : Templates := {}
  return {
    directory := ← setting v 0 "directory" d.directory fun v => some <$> text? v
    extension := ← setting v 1 "extension" d.extension text? }

def Observability.ofToml? (v : Value) : Option Observability := do
  guard (isSection v)
  let d : Observability := {}
  return {
    logLevel := ← setting v 0 "log_level" d.logLevel text?
    logFormat := ← setting v 1 "log_format" d.logFormat logFormat?
    metricsEnabled := ← setting v 2 "metrics_enabled" d.metricsEnabled flag?
    metricsAddress := ← setting v 3 "metrics_address" d.metricsAddress text? }

def ofToml? (v : Value) : Option Config := do
  guard (isSection v)
  return {
    listener := ← setting v 0 "listener" {} Listener.ofToml?
    timeouts := ← setting v 1 "timeouts" {} Timeouts.ofToml?
    templates := ← setting v 2 "templates" {} Templates.ofToml?
    observability := ← setting v 3 "observability" {} Observability.ofToml? }

end Config

/-- Why there are no settings. -/
inductive ConfigError where
  | unreadable (reason : Cause)
  | malformed
  | invalid (problems : List Config.Problem)

namespace ConfigError

def message : ConfigError → String
  | .unreadable reason => "IO error: " ++ reason.shown
  | .malformed => "Parse error: malformed settings"
  | .invalid problems =>
    "Validation failed: " ++ ", ".intercalate (problems.map Config.Problem.message)

def cause (e : ConfigError) : Cause :=
  match e with
  | .unreadable reason => .wrapping e.message reason
  | .malformed | .invalid _ => .root e.message

end ConfigError

namespace Config

def ofText (text : String) : Except ConfigError Config :=
  match (Toml.ofText? text).bind ofToml? with
  | none => .error .malformed
  | some config =>
    match config.problems with
    | [] => .ok config
    | problems => .error (.invalid problems)

def load (files : Files) (path : String) : Except ConfigError Config :=
  match files.text path with
  | .error fault => .error (.unreadable fault.cause)
  | .ok text => ofText text

/-- The settings of a file, or the defaults when no file is named. -/
def loadGiven (files : Files) : Option String → Except ConfigError Config
  | none => .ok {}
  | some path => load files path

/-- The template directory of those settings. -/
def directoryGiven? (files : Files) (path : Option String) : Option String :=
  match loadGiven files path with
  | .ok config => config.templates.directory
  | .error _ => none

theorem problems_of_ofText {text : String} {config : Config} (h : ofText text = .ok config) :
    config.problems = [] := by
  simp only [ofText] at h
  split at h
  · exact nomatch h
  · split at h
    · next heq =>
      cases h
      exact heq
    · exact nomatch h

end ErrorPages.Config
