import ErrorPages.Config
import ErrorPages.Journal

/-! Events as lines of a log, in either format. -/

namespace ErrorPages

namespace Severity

def capitals (s : Severity) : String := s.name.map Char.toUpper

end Severity

namespace Event

def fieldText (value : Json) : String := (value.str?).getD value.text

/-- The message, and after it each field with its value. -/
def text (event : Event) : String :=
  event.message ++ String.join (event.fields.map fun (name, value) =>
    " " ++ name ++ "=" ++ fieldText value)

/-- The message and the fields as one object. -/
def fieldsJson (event : Event) : Json := .obj (("message", .str event.message) :: event.fields)

def line (format : LogFormat) (event : Event) : String :=
  match format with
  | .pretty => event.severity.capitals ++ " " ++ event.origin.target ++ ": " ++ event.text
  | .json =>
    Json.text (.obj [("level", .str event.severity.capitals), ("fields", event.fieldsJson),
      ("target", .str event.origin.target)])

end Event

end ErrorPages
