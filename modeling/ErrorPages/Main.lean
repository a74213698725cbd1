import ErrorPages.Http.Wire
import ErrorPages.Launch
import ErrorPages.Preview

/-! The program. `preview` shows a page; `serve` starts a server, answers the request on its standard
input on its standard output, and logs to the standard error. -/

namespace ErrorPages.Main

/-- What is found under a path. -/
def node (path : String) : IO (Except FileFault Node) := do
  if path.isEmpty then return .error .notFound
  let target := (← IO.currentDir) / path
  if ← target.isDir then
    let entries ← (← target.readDir).toList.mapM fun entry => do
      let content ← if ← entry.path.isDir then pure none else some <$> IO.FS.readBinFile entry.path
      return (⟨entry.fileName.toUTF8.data.toList, content⟩ : Entry)
    return .ok (.directory entries)
  else if ← target.pathExists then return .ok (.file (← IO.FS.readBinFile target))
  else return .error .notFound

/-- The files under the given paths. -/
def filesUnder (paths : List String) : IO Files := do
  let found ← paths.mapM fun path => do return (path, ← node path)
  return fun path => (found.lookup path).getD (.error .notFound)

/-- The files that a command line leads to: the settings, and the template directory. -/
def filesFor (command : Command) (args : List String) : IO Files := do
  let line := (CommandLine.read command args).toOption.getD {}
  let config := line.value? "config"
  let files ← filesUnder config.toList
  let directory := (line.value? "templates").or (Config.directoryGiven? files config)
  filesUnder (config.toList ++ directory.toList)

def preview (args : List String) : IO UInt32 := do
  let run := Preview.run (← filesFor Preview.command args) args
  IO.print run.output
  IO.eprint run.errors
  return run.exit.toUInt32

/-- The lines before the first empty one. -/
partial def headLines (input : IO.FS.Stream) : IO (List String) := do
  let line ← input.getLine
  if (unpadded line.toList).isEmpty then return []
  return line :: (← headLines input)

/-- The lowest hexadecimal digits of a number, as many as given. -/
def hexDigits (width n : Nat) : List Char :=
  let cs := List.replicate width '0' ++ Nat.toDigits 16 n
  cs.drop (cs.length - width)

/-- The id of a request that brings none, made of five random numbers: 122 random bits in five groups of
hexadecimal digits, with the marks of their version and variant. -/
def freshId (low middle high sequence node : Nat) : String :=
  String.ofList <| hexDigits 8 low ++ '-' :: hexDigits 4 middle ++
    '-' :: hexDigits 4 (0x4000 + high % 0x1000) ++ '-' :: hexDigits 4 (0x8000 + sequence % 0x4000) ++
    '-' :: hexDigits 12 node

def answer (server : Server) : IO Journal := do
  let fresh := freshId (← IO.rand 0 0xFFFFFFFF) (← IO.rand 0 0xFFFF)
    (← IO.rand 0 0xFFFF) (← IO.rand 0 0xFFFF) (← IO.rand 0 0xFFFFFFFFFFFF)
  let output ← IO.getStdout
  match Request.ofLines? (← headLines (← IO.getStdin)) none with
  | none =>
    output.write ⟨(Response.ofStatus .badRequest).head.toArray⟩
    return {}
  | some request =>
    let (response, journal) := Site.serve server.responder fresh request {}
    output.write ⟨response.head.toArray⟩
    output.write response.body.bytes
    output.flush
    return journal

def serve (args : List String) : IO UInt32 := do
  let given ← IO.getEnv "RUST_LOG"
  let launch := Launch.run (← filesFor Launch.command args) .isolated args given
  let log (events : List Event) : IO Unit := do
    for event in events.filter launch.filter.passes do
      IO.eprintln (event.line launch.config.observability.logFormat)
  log launch.events
  match launch.outcome with
  | .helped => IO.print Launch.help
  | .misused => IO.eprint Launch.usage
  | .failed message => IO.eprintln ("Error: " ++ message)
  | .crashed => IO.eprintln "The filter of the log is cut inside a character."
  | .serving server =>
    log [server.openedEvent]
    log (← answer server).events
    log Server.closedEvents
  return (launch.exit?.getD 0).toUInt32

end ErrorPages.Main

def main (args : List String) : IO UInt32 :=
  match args with
  | "preview" :: args => ErrorPages.Main.preview args
  | "serve" :: args => ErrorPages.Main.serve args
  | _ => do
    IO.eprint (ErrorPages.Preview.usage ++ ErrorPages.Launch.usage)
    return 2
