import ErrorPages.Config
import ErrorPages.Net.SocketAddress.Reader
import ErrorPages.Text.Blank

/-! Problems with settings. Each setting that can be wrong has one problem; all problems are found
in one round. -/

namespace ErrorPages.Config

inductive Problem where
  | bindAddress (value : String)
  | zeroTimeout
  | blankExtension
  | logLevel (value : String)
  | metricsAddress (value : String)
deriving DecidableEq

namespace Problem

def message : Problem → String
  | .bindAddress value => "listener.bind_address `" ++ value ++ "` is not a socket address"
  | .zeroTimeout => "timeouts.request_secs must be greater than zero"
  | .blankExtension => "templates.extension must not be empty"
  | .logLevel value =>
    "observability.log_level `" ++ value ++ "` is not one of trace, debug, info, warn, error"
  | .metricsAddress value =>
    "observability.metrics_address `" ++ value ++ "` is not a socket address"

/-- The text that is wrong, if the setting is a text that is not empty. -/
def value? : Problem → Option String
  | .bindAddress value | .logLevel value | .metricsAddress value => some value
  | .zeroTimeout | .blankExtension => none

end Problem

/-- The log levels, each the name of one in lower case. -/
def logLevels : List String := ["trace", "debug", "info", "warn", "error"]

def isSocketAddress (text : String) : Bool := (SocketAddress.ofText? text).isSome

def isLogLevel (text : String) : Bool := logLevels.contains (text.map Char.toLower)

def isExtension (text : String) : Bool := !(Text.trim text.toList).isEmpty

def problem? (acceptable : Bool) (problem : Problem) : List Problem :=
  if acceptable then [] else [problem]

theorem mem_problem?_iff {acceptable : Bool} {problem other : Problem} :
    other ∈ problem? acceptable problem ↔ acceptable = false ∧ other = problem := by
  cases acceptable <;> simp [problem?]

/-- The problems of all settings, in the order of the settings. -/
def problems (config : Config) : List Problem :=
  problem? (isSocketAddress config.listener.bindAddress)
    (.bindAddress config.listener.bindAddress) ++
  problem? (config.timeouts.requestSecs != 0) .zeroTimeout ++
  problem? (isExtension config.templates.extension) .blankExtension ++
  problem? (isLogLevel config.observability.logLevel) (.logLevel config.observability.logLevel) ++
  problem? (!config.observability.metricsEnabled ||
      isSocketAddress config.observability.metricsAddress)
    (.metricsAddress config.observability.metricsAddress)

end ErrorPages.Config
