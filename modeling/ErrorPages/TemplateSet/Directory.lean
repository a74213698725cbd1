import ErrorPages.Files
import ErrorPages.Journal
import ErrorPages.TemplateSet

/-! Templates from the files of a directory. A file named `stem.extension` holds the template
`stem`; files of other extensions and directories are passed over. -/

namespace ErrorPages

inductive TemplateLoadError where
  | notADirectory (path : String)
  | unreadable (path : String) (reason : Cause)
deriving DecidableEq

namespace TemplateLoadError

def message : TemplateLoadError → String
  | .notADirectory path =>
    "template directory `" ++ path ++ "` does not exist or is not a directory"
  | .unreadable path reason => "failed to read template `" ++ path ++ "`: " ++ reason.shown

def cause (e : TemplateLoadError) : Cause :=
  match e with
  | .notADirectory _ => .root e.message
  | .unreadable _ reason => .wrapping e.message reason

end TemplateLoadError

namespace TemplateSet

open FileName (dot)

/-- The stem and the extension of a file name, before and after its last dot. A name whose only dot
stands in front has no extension. -/
def splitName? (name : FileName) : Option (FileName × FileName) :=
  let extension := (name.reverse.takeWhile (· != dot)).reverse
  match name.reverse.dropWhile (· != dot) with
  | [] => none
  | _ :: stem => if stem.isEmpty then none else some (stem.reverse, extension)

/-- The name and the content of the template that an entry holds. -/
def templateOf? (extension : String) (entry : Entry) : Option (String × ByteArray) := do
  let content ← entry.content
  let (stem, found) ← splitName? entry.name
  guard (found = extension.toUTF8.toList)
  let name ← String.fromUTF8? ⟨stem.toArray⟩
  return (name, content)

/-- The path of a name in a directory. -/
def join (directory name : String) : String :=
  if directory.endsWith "/" then directory ++ name else directory ++ "/" ++ name

def insertEntry (directory extension : String) (set : TemplateSet) (entry : Entry) :
    Except TemplateLoadError TemplateSet :=
  match templateOf? extension entry with
  | none => .ok set
  | some (name, content) =>
    match utf8Text? content with
    | .ok source => .ok (set.insert name source)
    | .error fault =>
      .error (.unreadable (join directory (name ++ "." ++ extension)) fault.cause)

/-- Reads the templates of a directory, entry by entry. -/
def ofDirectory (directory extension : String) (entries : List Entry) :
    Except TemplateLoadError TemplateSet :=
  entries.foldlM (insertEntry directory extension) .empty

def load (files : Files) (directory extension : String) : Except TemplateLoadError TemplateSet :=
  match files directory with
  | .ok (.directory entries) => ofDirectory directory extension entries
  | _ => .error (.notADirectory directory)

def loadedEvent (directory : String) (set : TemplateSet) : Event where
  origin := .templates
  severity := .info
  message := "Loaded error page templates"
  fields := [("directory", .str directory), ("count", .int set.size)]

end TemplateSet

end ErrorPages
