import ErrorPages.CommandLine
import ErrorPages.Config.Reader
import ErrorPages.Startup
import ErrorPages.Text.Lossy

/-! The command that shows one error page without a server: the page goes to the standard output,
and the status and, on demand, the log records to the standard error. -/

namespace ErrorPages

/-- What a run of a command leaves behind. -/
structure CommandRun where
  exit : Nat
  output : String := ""
  errors : String := ""
deriving DecidableEq

namespace Preview

def kinds : List (String × Classification) :=
  [("forbidden", .forbidden), ("unauthorized", .unauthorized), ("not-found", .notFound),
    ("internal-error", .internalError)]

def command : Command where
  options := [
    { long := "config", short := some 'c', allowsEmpty := false },
    { long := "templates", short := some 't', allowsEmpty := false },
    { long := "message", short := some 'm' },
    { long := "path" },
    { long := "show-log", takesValue := false }]
  choice := kinds.map (·.1)

def usage : String := "Usage: errorpage-preview [OPTIONS] <KIND>\n"

def help : String :=
  "Render a StrataForge error page to stdout\n\n" ++ usage ++
  "\nArguments:\n" ++
  "  <KIND>  Failure classification to render " ++
  "[possible values: forbidden, unauthorized, not-found, internal-error]\n" ++
  "\nOptions:\n" ++
  "  -c, --config <CONFIG>        Path to a TOML config file\n" ++
  "  -t, --templates <TEMPLATES>  Template directory, overriding the config\n" ++
  "  -m, --message <MESSAGE>      Message shown on the page instead of the default\n" ++
  "      --path <PATH>            Request path recorded in the log entry [default: /preview]\n" ++
  "      --show-log               Print the captured log records to stderr as JSON\n" ++
  "  -h, --help                   Print help\n"

/-- What is previewed: the class of the failure and what the command line says about it. -/
structure Subject where
  classification : Classification
  config : Option String
  templates : Option String
  message : Option String
  path : String
  showLog : Bool

/-- The settings of a preview: those given, but for the directory of templates if another one is named. -/
def Subject.settings (subject : Subject) (config : Config) : Config :=
  let directory := subject.templates.or config.templates.directory
  { config with templates := { config.templates with directory } }

def subject? (args : List String) : Except CommandLine.Stop Subject := do
  let line ← CommandLine.read command args
  match line.word.bind fun kind => kinds.lookup kind with
  | none => throw .misuse
  | some classification =>
    return {
      classification
      config := line.value? "config"
      templates := line.value? "templates"
      message := line.value? "message"
      path := (line.value? "path").getD "/preview"
      showLog := line.has "show-log" }

def context (path : String) : Context :=
  { method := .get, path, requestId := some "preview" }

def present (responder : Responder) (subject : Subject) : CommandRun :=
  let detail : Detail := { publicMessage := subject.message }
  let (response, journal) :=
    responder.respond (context subject.path) subject.classification detail {}
  let status := response.status
  let records := if subject.showLog then journal.kept else []
  { exit := 0
    output := String.ofList (Text.decodeLossy response.body.bytes.data.toList) ++ "\n"
    errors := "Status: " ++ Text.decimal status.code ++ " " ++ status.phrase ++ "\n" ++
      String.join (records.map fun record => record.toJson.text ++ "\n") }

def failed (message : String) : CommandRun := { exit := 1, errors := "Error: " ++ message ++ "\n" }

def answer (files : Files) (subject : Subject) : CommandRun :=
  match Config.loadGiven files subject.config with
  | .error e => failed e.message
  | .ok config =>
    match Responder.ofConfig files (subject.settings config) .memory with
    | .error e => failed e.message
    | .ok (responder, _) => present responder subject

def run (files : Files) (args : List String) : CommandRun :=
  match subject? args with
  | .error .help => { exit := 0, output := help }
  | .error .misuse => { exit := 2, errors := usage }
  | .ok subject => answer files subject

end Preview

end ErrorPages
