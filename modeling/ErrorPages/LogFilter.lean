import ErrorPages.LogFilter.Directive

/-! Log filters. A filter is a list of directives, each a level for the targets that begin with a
text; the longest target that fits an event decides, and an event that no target fits is off. -/

namespace ErrorPages

abbrev LogFilter := List Directive

namespace LogFilter

/-- The filter of the targets of the program and of its records. -/
def ofLevel (level : LogLevel) : LogFilter :=
  [Origin.program.target, "strataforge", "tower_http"].map fun target => { target, level }

/-- Reads directives parted by commas, up to the first with a fault. Without any, only errors
pass. -/
def ofText (text : String) : Except Directive.Fault LogFilter :=
  let parts := (text.toList.splitOn ',').filter (!·.isEmpty)
  if parts.isEmpty then .ok [{ level := .error }]
  else parts.mapM fun part => Directive.ofText (String.ofList part)

/-- The directive that decides about an event: the closest one, and of equal ones the last. -/
def deciding? (filter : LogFilter) (event : Event) : Option Directive :=
  (filter.filter (·.concerns event)).foldl (fun chosen directive =>
    if chosen.all (·.yields directive) then some directive else chosen) none

def passes (filter : LogFilter) (event : Event) : Bool :=
  (filter.deciding? event).any fun directive =>
    compare (LogLevel.ofSeverity event.severity) directive.level ≠ .gt

end LogFilter

end ErrorPages
