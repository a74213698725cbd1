import ErrorPages.Cause
import ErrorPages.Classification

/-! A failed request, as a handler reports it: its class, a message for the page, and a cause for
the log. -/

namespace ErrorPages

structure Failure where
  classification : Classification
  publicMessage : Option String := none
  cause : Option Cause := none
deriving DecidableEq, Inhabited

namespace Failure

def ofClassification (c : Classification) : Failure := { classification := c }

def forbidden : Failure := ofClassification .forbidden
def unauthorized : Failure := ofClassification .unauthorized
def notFound : Failure := ofClassification .notFound

def withMessage (failure : Failure) (message : String) : Failure :=
  { failure with publicMessage := some message }

def withCause (failure : Failure) (cause : Cause) : Failure := { failure with cause := some cause }

def internal (cause : Cause) : Failure := (ofClassification .internalError).withCause cause

/-- An internal error with a cause that is only a text. -/
def internalText (text : String) : Failure := internal (.root text)

/-- How a handler begins a failure. -/
inductive Start where
  | ofClassification (c : Classification)
  | forbidden
  | unauthorized
  | notFound
  | internal (cause : Cause)
  | internalText (text : String)

def Start.failure : Start → Failure
  | .ofClassification c => .ofClassification c
  | .forbidden => .forbidden
  | .unauthorized => .unauthorized
  | .notFound => .notFound
  | .internal cause => .internal cause
  | .internalText text => .internalText text

/-- What a handler says of a failure that it has begun. -/
inductive Change where
  | message (text : String)
  | cause (cause : Cause)

def change (failure : Failure) : Change → Failure
  | .message text => failure.withMessage text
  | .cause cause => failure.withCause cause

/-- The failure that is begun like this and then changed, one change after the other. -/
def made (start : Start) (changes : List Change) : Failure := changes.foldl change start.failure

/-- A failure is itself an error, caused by its cause. -/
def toCause (failure : Failure) : Cause :=
  let message := failure.classification.row.logMessage
  match failure.cause with
  | none => .root message
  | some cause => .wrapping (message ++ ": " ++ cause.shown) cause

end Failure

end ErrorPages
