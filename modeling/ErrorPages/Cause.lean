import ErrorPages.Template

/-! Errors as causes of a failure. Of an error only two things are ever used: the text it shows, and
the error that caused it. Its chain is the texts of all of them, the outermost first. -/

namespace ErrorPages

inductive Cause where
  | root (shown : String)
  | wrapping (shown : String) (source : Cause)
deriving DecidableEq, Inhabited

namespace Cause

def shown : Cause → String
  | .root shown => shown
  | .wrapping shown _ => shown

def source? : Cause → Option Cause
  | .root _ => none
  | .wrapping _ source => some source

/-- The texts of an error and of the errors behind it. -/
def texts : Cause → List String
  | .root shown => [shown]
  | .wrapping shown source => shown :: source.texts

/-- Adds an error and the errors behind it to the chain so far. -/
def chainAfter (chain : String) : Cause → String
  | .root shown => chain ++ ": " ++ shown
  | .wrapping shown source => chainAfter (chain ++ ": " ++ shown) source

def chain : Cause → String
  | .root shown => shown
  | .wrapping shown source => chainAfter shown source

end Cause

def RenderError.cause (e : RenderError) : Cause :=
  match e with
  | .write => .wrapping e.message (.root "an error occurred when formatting an argument")
  | _ => .root e.message

end ErrorPages
