import ErrorPages.Journal
import ErrorPages.LogFilter.Level
import ErrorPages.Pattern.Usable
import ErrorPages.Text.Cut

/-! Directives of log filters. A directive is a level, a target, or `target[span{field=value}]=level`,
of which the target, the brackets and the level may be left out.

The parts of a directive are marked off without the blanks around it, and are then cut from the text
with its blanks at the same byte positions. So blanks in front displace the parts, and a cut may fall
inside a character. -/

namespace ErrorPages

namespace Text

def unsigned : List Char → List Char
  | '+' :: rest => rest
  | '-' :: rest => rest
  | cs => cs

/-- Whether digits stand on a side of the point at least, and in the exponent if there is one. -/
def isDecimal (cs : List Char) : Bool :=
  let whole := cs.takeWhile (isDigit 10)
  let rest := cs.dropWhile (isDigit 10)
  let (part, rest) := match rest with
    | '.' :: rest => (rest.takeWhile (isDigit 10), rest.dropWhile (isDigit 10))
    | rest => ([], rest)
  !(whole ++ part).isEmpty &&
    match rest with
    | [] => true
    | e :: exponent => e.toLower == 'e' && (value? 10 (unsigned exponent)).isSome

/-- Whether a text writes a number: digits with a point or without one, an exponent, infinity, or what
stands for no number. -/
def isNumber (cs : List Char) : Bool :=
  let cs := unsigned cs
  isDecimal cs || ["inf", "infinity", "nan"].contains (String.ofList (cs.map Char.toLower))

end Text

structure Directive where
  /-- The beginning of the targets that are meant. -/
  target : String := ""
  /-- A field that the event must have. -/
  field : Option String := none
  /-- Whether only events within some span are meant. -/
  withinSpan : Bool := false
  level : LogLevel := .trace
deriving DecidableEq

namespace Directive

inductive Fault where
  | unreadable
  /-- A part begins or ends inside a character. -/
  | splitCharacter
deriving DecidableEq

def isTargetStart (c : Char) : Bool :=
  c == '-' || c == ':' || c == '_' || c == '[' || Text.isAlphanumeric c

/-- A level for all targets, or else a target for all levels. -/
def ofLevelOrTarget (text : String) : Directive :=
  match LogLevel.ofText? text with
  | some level => { level }
  | none => { target := text }

/-- Gives a directive the level that a text names. Without a text all levels are meant. -/
def withLevel (directive : Directive) (text : List Char) : Except Fault Directive :=
  if text.isEmpty then .ok directive
  else match LogLevel.ofText? (String.ofList text) with
    | some level => .ok { directive with level }
    | none => .error .unreadable

/-- Whether a text can be the value of a field: a number, or a pattern for the value. -/
def isValue (text : List Char) : Bool := Text.isNumber text || Pattern.isUsable text

/-- Gives a directive the field that a text names. Only a span has fields with values. -/
def withField (directive : Directive) (text : List Char) : Except Fault Directive :=
  let name := text.takeWhile (· != '=')
  let named := { directive with field := some (String.ofList name) }
  if text.isEmpty then .error .unreadable
  else match text.drop name.length with
    | [] => .ok named
    | _ :: value =>
      if isValue (value.takeWhile (· != '=')) then .ok { named with withinSpan := true }
      else .error .unreadable

/-- The byte position at which an end of the text begins, in the text without its blanks. -/
def position (text rest : List Char) : Nat :=
  Text.byteSize (Text.trim text) - Text.byteSize rest

def orSplit : Option (List Char) → Except Fault (List Char)
  | some part => .ok part
  | none => .error .splitCharacter

/-- The part of a text between the positions at which two ends begin. -/
def part (text start stop : List Char) : Except Fault (List Char) :=
  orSplit (Text.slice? (position text start) (position text stop) text)

/-- The part of a text from the position at which an end begins. -/
def since (text start : List Char) : Except Fault (List Char) :=
  orSplit (Text.dropBytes? (position text start) text)

/-- Reads the level that an end of the text gives to a directive. -/
def readLevel (text : List Char) (directive : Directive) : List Char → Except Fault Directive
  | [] => .ok directive
  | '=' :: level => do directive.withLevel (← since text level)
  | _ => .error .unreadable

/-- Reads what follows an opening brace. -/
def readField (text : List Char) (directive : Directive) (field : List Char) :
    Except Fault Directive :=
  match field.dropWhile (· != '\x7d') with
  | [] => .error .unreadable
  | stop@(_ :: rest) => do
    let directive ← directive.withField (← part text field stop)
    match rest with
    | ']' :: rest => readLevel text directive rest
    | _ => throw .unreadable

/-- Reads what follows an opening bracket. -/
def readSpan (text : List Char) (directive : Directive) (span : List Char) :
    Except Fault Directive :=
  match span.dropWhile fun c => c != ']' && c != '\x7b' with
  | [] => .error .unreadable
  | stop@(mark :: rest) => do
    let name ← part text span stop
    if mark = ']' then readLevel text { directive with withinSpan := true } rest
    else readField text { directive with withinSpan := !name.isEmpty } rest

def ofText (text : String) : Except Fault Directive :=
  let cs := text.toList
  let seen := Text.trim cs
  if !seen.head?.any isTargetStart then .error .unreadable
  else match seen.dropWhile fun c => c != '=' && c != '[' with
    | [] => .ok (ofLevelOrTarget text)
    | stop@(mark :: rest) => do
      let target := String.ofList (← part cs seen stop)
      if mark = '[' then readSpan cs { target } rest else readLevel cs { target } stop

/-- Whether a directive is about an event. The events of the program are within no span. -/
def concerns (directive : Directive) (event : Event) : Bool :=
  !directive.withinSpan && directive.target.toList.isPrefixOf event.origin.target.toList &&
    directive.field.all event.fieldNames.contains

/-- Whether the second of two directives about an event is at least as close to it. -/
def yields (first second : Directive) : Bool :=
  first.target.length < second.target.length ||
    (first.target.length == second.target.length &&
      match first.field, second.field with
      | none, _ => true
      | some _, none => false
      | some a, some b => !(b < a))

end Directive

end ErrorPages
