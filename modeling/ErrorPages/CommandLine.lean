/-! Command lines. A command has options, of which some take a value, and may ask for one word out of
a choice. Each option may be given once. A value stands in the next argument or is attached, and
only an attached value may begin with a dash. -/

namespace ErrorPages

/-- An option of a command. -/
structure CommandOption where
  long : String
  short : Option Char := none
  takesValue : Bool := true
  allowsEmpty : Bool := true
deriving DecidableEq

structure Command where
  options : List CommandOption
  /-- The words to choose from. A command without a choice takes no words. -/
  choice : List String := []
deriving DecidableEq

/-- Why a command line is not carried out. -/
inductive CommandLine.Stop where
  | help
  | misuse
deriving DecidableEq

/-- What a command line gives. -/
structure CommandLine where
  values : List (String × String) := []
  word : Option String := none
deriving DecidableEq

namespace CommandLine

def helpOption : CommandOption := { long := "help", short := some 'h', takesValue := false }

def value? (line : CommandLine) (long : String) : Option String := line.values.lookup long

def has (line : CommandLine) (long : String) : Bool := (line.value? long).isSome

/-- Notes an option and its value. -/
def give (line : CommandLine) (option : CommandOption) (value : String) :
    Except Stop CommandLine :=
  if option = helpOption then .error .help
  else if line.has option.long ∨ (value.isEmpty ∧ !option.allowsEmpty ∧ option.takesValue) then
    .error .misuse
  else .ok { line with values := line.values ++ [(option.long, value)] }

def giveWord (command : Command) (line : CommandLine) (word : String) : Except Stop CommandLine :=
  if line.word.isNone ∧ word ∈ command.choice then .ok { line with word := some word }
  else .error .misuse

/-- Whether an argument is read as options. A dash alone is a word. -/
def isOption (arg : List Char) : Bool := arg.head? = some '-' && arg.length ≠ 1

/-- An argument as options: a line so far, and the option that still needs its value. -/
abbrev Read := Except Stop (CommandLine × Option CommandOption)

def longOption (command : Command) (line : CommandLine) (arg : List Char) : Read := do
  let name := String.ofList (arg.takeWhile (· != '='))
  let attached := arg.dropWhile (· != '=')
  match (helpOption :: command.options).find? (·.long = name), attached with
  | none, _ => throw .misuse
  | some option, _ :: value =>
    if option.takesValue then return (← line.give option (String.ofList value), none)
    else throw .misuse
  | some option, [] =>
    if option.takesValue then return (line, some option)
    else return (← line.give option "", none)

def shortOptions (command : Command) (line : CommandLine) : List Char → Read
  | [] => .ok (line, none)
  | c :: rest => do
    match (helpOption :: command.options).find? (·.short = some c) with
    | none => throw .misuse
    | some option =>
      if option.takesValue then
        match rest with
        | [] => return (line, some option)
        | '=' :: value => return (← line.give option (String.ofList value), none)
        | value => return (← line.give option (String.ofList value), none)
      else shortOptions command (← line.give option "") rest

def options (command : Command) (line : CommandLine) : List Char → Read
  | '-' :: '-' :: arg => longOption command line arg
  | '-' :: arg => shortOptions command line arg
  | _ => .error .misuse

/-- Reads arguments after those already read, of which the last may need a value. -/
def readFrom (command : Command) : CommandLine × Option CommandOption → List String →
    Except Stop CommandLine
  | (line, none), [] => .ok line
  | (_, some _), [] => .error .misuse
  | (line, some option), arg :: rest => do
    if isOption arg.toList then throw .misuse
    readFrom command (← line.give option arg, none) rest
  | (line, none), arg :: rest => do
    if arg = "--" then rest.foldlM (giveWord command) line
    else if isOption arg.toList then readFrom command (← options command line arg.toList) rest
    else readFrom command (← giveWord command line arg, none) rest

/-- Reads the arguments of a command. Where there is a choice, one word must be chosen. -/
def read (command : Command) (args : List String) : Except Stop CommandLine := do
  let line ← readFrom command ({}, none) args
  if line.word.isNone ∧ command.choice ≠ [] then throw .misuse
  return line

end CommandLine

end ErrorPages
