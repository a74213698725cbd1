import ErrorPages.Text.Digits

/-! The settings. Every setting has a default, so the empty settings are complete. -/

namespace ErrorPages

inductive LogFormat where
  | pretty
  | json
deriving DecidableEq

namespace LogFormat

def all : List LogFormat := [.pretty, .json]

def name : LogFormat → String
  | .pretty => "pretty"
  | .json => "json"

def ofName? (name : String) : Option LogFormat := all.find? (·.name = name)

end LogFormat

structure Config.Listener where
  bindAddress : String := "0.0.0.0:8080"
deriving DecidableEq

structure Config.Timeouts where
  requestSecs : Nat := 30
deriving DecidableEq

structure Config.Templates where
  directory : Option String := none
  extension : String := "html"
deriving DecidableEq

structure Config.Observability where
  logLevel : String := "info"
  logFormat : LogFormat := .pretty
  metricsEnabled : Bool := false
  metricsAddress : String := "0.0.0.0:9090"
deriving DecidableEq

structure Config where
  listener : Config.Listener := {}
  timeouts : Config.Timeouts := {}
  templates : Config.Templates := {}
  observability : Config.Observability := {}
deriving DecidableEq

end ErrorPages
