import ErrorPages.CommandLine
import ErrorPages.Config.Reader
import ErrorPages.LogFilter
import ErrorPages.LogLine
import ErrorPages.Site
import ErrorPages.Startup
import ErrorPages.Text.CharClass

/-! The start of the server program, from its command line to a server that accepts connections, or
to an end before that. Logging begins once the settings are known, so wrong settings leave no log. A
filter for the log may be given from outside. -/

namespace ErrorPages

namespace Text

def quotedChar (c : Char) : List Char :=
  if c = '\x00' then ['\\', '0']
  else if c = '\t' then ['\\', 't']
  else if c = '\n' then ['\\', 'n']
  else if c = '\r' then ['\\', 'r']
  else if c = '"' ∨ c = '\\' then ['\\', c]
  else if isHidden c then
    ['\\', 'u', '\x7b'] ++ (hexadecimal c.toNat).toList ++ ['\x7d']
  else [c]

/-- A text in quotes, for diagnostic output. Quotes, backslashes and characters that do not show are
escaped. -/
def quoted (s : String) : String := String.ofList ('"' :: s.toList.flatMap quotedChar ++ ['"'])

end Text

/-- How the start came out. -/
inductive Launch.Outcome where
  | helped
  | misused
  | failed (message : String)
  /-- The filter given from outside is cut inside a character. -/
  | crashed
  | serving (server : Server)

structure Launch where
  outcome : Launch.Outcome
  config : Config := {}
  filter : LogFilter := []
  /-- What was logged on the way, before any filter. -/
  events : List Event := []

namespace Launch

def command : Command where
  options := [{ long := "config", short := some 'c', allowsEmpty := false }, { long := "bind" }]

def usage : String := "Usage: strataforge-errors [OPTIONS]\n"

def help : String :=
  "Serve StrataForge error pages\n\n" ++ usage ++
  "\nOptions:\n" ++
  "  -c, --config <CONFIG>  Path to a TOML config file. Defaults apply when omitted\n" ++
  "      --bind <BIND>      Override listener.bind_address\n" ++
  "  -h, --help             Print help\n"

def event (origin : Origin) (message : String) (fields : List (String × Json)) : Event :=
  { origin, severity := .info, message, fields }

def startingEvent : Event := event .program "strataforge-errors v0.1.0 starting" []

/-- The diagnostic text of a setting that may be absent. -/
def optionText : Option String → String
  | none => "None"
  | some text => "Some(" ++ Text.quoted text ++ ")"

def configuredEvent (config : Config) : Event :=
  event .program "Configuration loaded" [
    ("bind_address", .str config.listener.bindAddress),
    ("request_timeout_secs", .int config.timeouts.requestSecs),
    ("templates", .str (optionText config.templates.directory))]

def metricsEvent (address : SocketAddress) : Event :=
  event .metrics "Metrics endpoint listening" [("address", .str address.text)]

def metricsAddressEvent (address : String) : Event where
  severity := .error
  message := "Failed to parse metrics address"
  fields := [("metrics_address", .str address)]

/-- Opens the endpoint for metrics, if there is to be one: the events of it, and the network after. -/
def openMetrics (network : Network) (config : Config) : Except BindFault (List Event × Network) :=
  if config.observability.metricsEnabled then
    match SocketAddress.ofText? config.observability.metricsAddress with
    | none => .ok ([metricsAddressEvent config.observability.metricsAddress], network)
    | some address =>
      match network address with
      | some fault => .error fault
      | none => .ok ([metricsEvent address], network.take address)
  else .ok ([], network)

/-- The settings of a command line: those of the file it names, and the address it gives. -/
def configOf (files : Files) (line : CommandLine) : Except ConfigError Config := do
  let config ← Config.loadGiven files (line.value? "config")
  return match line.value? "bind" with
    | none => config
    | some bindAddress => { config with listener := { bindAddress } }

/-- The filter of the log: the one given from outside if it can be read, else that of the settings.
There is none if the one given is cut inside a character. -/
def filter? (config : Config) (given : Option String) : Option LogFilter :=
  match given.map LogFilter.ofText with
  | some (.ok filter) => some filter
  | some (.error .splitCharacter) => none
  | none | some (.error .unreadable) =>
    some (.ofLevel ((LogLevel.ofText? config.observability.logLevel).getD .error))

/-- Starts with the settings and the filter, which have been read. -/
def start (files : Files) (network : Network) (config : Config) (filter : LogFilter) : Launch :=
  let events := [startingEvent, configuredEvent config]
  let ended (outcome : Outcome) (events : List Event) : Launch :=
    { outcome, config, filter, events }
  match openMetrics network config with
  | .error fault => ended (.failed ("failed to create HTTP listener: " ++ fault.message)) events
  | .ok (opened, network) =>
    let events := events ++ opened
    match Responder.ofConfig files config (.forward .shared) with
    | .error e => ended (.failed e.message) events
    | .ok (responder, event) =>
      let events := events ++ [event]
      match Server.listen network config responder with
      | .error e => ended (.failed e.message) events
      | .ok server => ended (.serving server) events

def run (files : Files) (network : Network) (args : List String) (given : Option String) :
    Launch :=
  match CommandLine.read command args with
  | .error .help => { outcome := .helped }
  | .error .misuse => { outcome := .misused }
  | .ok line =>
    match configOf files line with
    | .error e => { outcome := .failed e.message }
    | .ok config =>
      match filter? config given with
      | none => { outcome := .crashed, config }
      | some filter => start files network config filter

/-- The code with which the program ends, if it does so by itself. -/
def exit? (launch : Launch) : Option Nat :=
  match launch.outcome with
  | .helped => some 0
  | .failed _ => some 1
  | .misused => some 2
  | .crashed => some 101
  | .serving _ => none

/-- The events that the log shows. -/
def log (launch : Launch) : List Event := launch.events.filter launch.filter.passes

end Launch

namespace Server

/-- The event of a server that begins to answer. -/
def openedEvent (server : Server) : Event :=
  Launch.event .server "HTTP server starting" [("address", .str server.address.text)]

/-- The events of a server that has been told to stop. -/
def closedEvents : List Event :=
  [Launch.event .server "Shutdown signal received" [], Launch.event .server "HTTP server stopped" [],
    Launch.event .program "Shutdown complete" []]

end Server

end ErrorPages
