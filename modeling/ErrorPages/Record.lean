import ErrorPages.Context

/-! Log records. A record's fields are laid over each other: the request's facts, then the cause,
then what the caller adds, and a later value stands for an earlier one of its name. -/

namespace ErrorPages

structure Record where
  severity : Severity
  message : String
  fields : Fields

namespace Record

def causeField (cause : Option Cause) : Json := .ofOption (cause.map Cause.chain)

def ofEvent (severity : Severity) (context : Context) (message : String) (cause : Option Cause)
    (extra : List (String × Json)) : Record where
  severity := severity
  message := message
  fields := (context.fields.insert "cause" (causeField cause)).extend extra

/-- The record of a classified failure, at the severity of its class. -/
def ofClassified (c : Classification) (context : Context) (message : String) (cause : Option Cause)
    (extra : List (String × Json)) : Record :=
  .ofEvent c.severity context message cause <|
    [("classification", .str c.name), ("status", .int c.status.code)] ++ extra

def field? (record : Record) (name : String) : Option Json := record.fields.get? name

def fieldText? (record : Record) (name : String) : Option String :=
  (record.field? name).bind Json.str?

def toJson (record : Record) : Json :=
  .obj [("level", .str record.severity.name), ("message", .str record.message),
    ("fields", record.fields.toJson)]

end Record

end ErrorPages
