import ErrorPages.Config
import ErrorPages.Net.Binding
import ErrorPages.Responder
import ErrorPages.TemplateSet.Directory

/-! From settings to a responder and a bound address. The templates are read first, and the address
is bound only when they could be. -/

namespace ErrorPages

inductive StartupError where
  | templates (error : TemplateLoadError)
  | bind (address : String) (reason : Cause)
deriving DecidableEq

namespace StartupError

def message : StartupError → String
  | .templates error => "failed to load templates: " ++ error.message
  | .bind address reason => "failed to bind " ++ address ++ ": " ++ reason.shown

def cause (e : StartupError) : Cause :=
  match e with
  | .templates error => .wrapping e.message error.cause
  | .bind _ reason => .wrapping e.message reason

end StartupError

def noDirectoryEvent : Event where
  origin := .startup
  severity := .info
  message := "No template directory configured, using static error pages"

/-- Builds the responder that the settings ask for. The event says where its pages come from. -/
def Responder.ofConfig (files : Files) (config : Config) (sink : Sink) :
    Except StartupError (Responder × Event) :=
  match config.templates.directory with
  | none => .ok ({ sink }, noDirectoryEvent)
  | some directory =>
    match TemplateSet.load files directory config.templates.extension with
    | .error e => .error (.templates e)
    | .ok set => .ok ({ sink, renderer := some set.renderer }, TemplateSet.loadedEvent directory set)

/-- A server that is ready to answer. -/
structure Server where
  responder : Responder
  address : SocketAddress

namespace Server

def listen (network : Network) (config : Config) (responder : Responder) :
    Except StartupError Server :=
  match network.bind config.listener.bindAddress with
  | .ok address => .ok { responder, address }
  | .error fault => .error (.bind config.listener.bindAddress fault.cause)

def prepare (files : Files) (network : Network) (config : Config) (sink : Sink) :
    Except StartupError Server := do
  let (responder, _) ← Responder.ofConfig files config sink
  listen network config responder

end Server

end ErrorPages
