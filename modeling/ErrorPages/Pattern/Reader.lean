import ErrorPages.Pattern
import ErrorPages.Text.Blank
import ErrorPages.Text.CharClass
import ErrorPages.Text.Digits
import ErrorPages.Text.Reader

/-! Reading of patterns. Counted repetitions, properties of characters and groups that look around
are not read. Where blanks do not count, comments do not either: they go from `#` to the end of the
line. -/

namespace ErrorPages.Pattern

open Reader

/-- What the reading of a pattern keeps in mind. -/
structure Reading where
  /-- Whether blanks and comments are passed over. -/
  spaced : Bool := false
  /-- The names of the groups so far. -/
  names : List (List Char) := []

abbrev PieceReader := StateT Reading Reader

/-- What follows blanks and comments. -/
def afterBlanks (inComment : Bool) : List Char → List Char
  | [] => []
  | c :: rest =>
    if inComment then afterBlanks (c != '\n') rest
    else if Text.isBlank c then afterBlanks false rest
    else if c == '#' then afterBlanks true rest
    else c :: rest

/-- Passes over blanks and comments if they do not count. -/
def passIf (spaced : Bool) : Reader Unit := do
  if spaced then modify (afterBlanks false)

def pass : PieceReader Unit := do passIf (← get).spaced

/-- The text that follows, which stays where it is. -/
def ahead : PieceReader (List Char) := (get : Reader (List Char))

/-- Whether a character that is neither a letter nor a digit stands for itself after a backslash. -/
def isEscapable (c : Char) : Bool := c.toNat < 0x80 && !c.isAlphanum && c != '<' && c != '>'

def control? : Char → Option Char
  | 'a' => some '\x07'
  | 'f' => some '\x0c'
  | 'n' => some '\n'
  | 'r' => some '\r'
  | 't' => some '\t'
  | 'v' => some '\x0b'
  | _ => none

/-- The character whose number is written in so many hexadecimal digits. -/
def numbered (width : Nat) : PieceReader Char := do
  let digits ← (List.replicate width ()).mapM fun _ => do
    pass
    next (Text.isDigit 16)
  match Text.value? 16 digits with
  | some n => if n.isValidChar then return Char.ofNat n else failure
  | none => failure

/-- What a backslash and a character mean. -/
def escape : PieceReader Pattern := do
  char '\\'
  let c ← next fun _ => true
  match c with
  | 'x' => .octet <$> numbered 2
  | 'u' => .literal <$> numbered 4
  | 'U' => .literal <$> numbered 8
  | 'd' | 's' | 'w' => return .set (.named false)
  | 'D' | 'S' | 'W' => return .set (.named true)
  | 'A' | 'z' => return .textEdge
  | 'b' | 'B' | '<' | '>' => return .wordEdge
  | _ =>
    match control? c with
    | some c => return .literal c
    | none => if isEscapable c then return .literal c else failure

/-- A member of a set: a character or a named set. -/
def member : PieceReader CharSet := do
  match ← peek with
  | some '\\' =>
    match ← escape with
    | .literal c | .octet c => return .char c
    | .set members => return members
    | _ => failure
  | _ => .char <$> next fun _ => true

/-- Whether a hyphen before this text stands for itself, as it does before the end of a set and
before another hyphen. After a number sign only blanks are passed over. -/
def isAloneBefore (spaced : Bool) (rest : List Char) : Bool :=
  let rest :=
    if spaced then
      match Text.trimStart rest with
      | '#' :: rest => Text.trimStart rest
      | rest => rest
    else rest
  rest.head? == some ']' || rest.head? == some '-'

/-- A member of a set, or the range between two characters. -/
def memberOrRange : PieceReader CharSet := do
  let low ← member
  pass
  match ← ahead with
  | '-' :: rest =>
    if isAloneBefore (← get).spaced rest then return low
    else
      char '-'
      pass
      match low, ← member with
      | .char low, .char high => if low ≤ high then return .range low high else failure
      | _, _ => failure
  | _ => return low

def asciiClasses : List String :=
  ["alnum", "alpha", "ascii", "blank", "cntrl", "digit", "graph", "lower", "print", "punct",
    "space", "upper", "word", "xdigit"]

/-- A class of ASCII characters by its name. -/
def asciiClass : Reader CharSet := do
  word "[:"
  let negated ← opt (char '^')
  let name ← takeWhile (· != ':')
  word ":]"
  if asciiClasses.contains (String.ofList name) then return .ascii negated.isSome else failure

/-- What opens a set: whether it is negated, and its first members. A closing bracket that would
close an empty set belongs to it. -/
def opening : PieceReader (Bool × List CharSet) := do
  char '['
  pass
  let negated := (← opt (char '^')).isSome
  pass
  match ← many (char '-' *> passIf (← get).spaced) with
  | [] => return (negated, (← opt (char ']')).toList.map fun _ => .char ']')
  | hyphens => return (negated, hyphens.map fun _ => .char '-')

def operator : Reader Unit := word "&&" <|> word "--" <|> word "~~"

/-- Reads a set to its end. The members since the last operator are given, and what stands on its
left. A step takes a character at least, so the steps are no more than the characters. -/
def members : Nat → List CharSet → Option CharSet → PieceReader CharSet
  | 0, _, _ => failure
  | steps + 1, found, left => do
    pass
    let right := CharSet.ofMembers found
    let whole := left.elim right fun left => .operation left right
    if (← opt (char ']')).isSome then return whole
    else if (← opt operator).isSome then members steps [] (some whole)
    else if (← peek) = some '[' then
      match ← opt asciiClass with
      | some ascii => members steps (found ++ [ascii]) left
      | none =>
        let (negated, first) ← opening
        let inner ← members steps first none
        members steps (found ++ [.bracketed negated inner]) left
    else members steps (found ++ [← memberOrRange]) left

def charSet : PieceReader Pattern := do
  let (negated, first) ← opening
  let inner ← members ((← ahead).length + 1) first none
  return .set (.bracketed negated inner)

/-- Reads flags up to a mark. Those after a hyphen are turned off, and none comes twice. -/
def flagsText? (cs : List Char) : Option Flags := do
  let (on, off) ← match cs.splitOn '-' with
    | [on] => some (on, [])
    | [on, off] => if off.isEmpty then none else some (on, off)
    | _ => none
  let on ← on.mapM Flag.ofChar?
  let off ← off.mapM Flag.ofChar?
  guard (on ++ off).Nodup
  return on.map (·, true) ++ off.map (·, false)

def isNameStart (c : Char) : Bool := c == '_' || Text.isAlphabetic c

def isNameChar (c : Char) : Bool :=
  c == '_' || c == '.' || c == '[' || c == ']' || Text.isAlphanumeric c

/-- The name of a group, which no other group has. -/
def groupName : PieceReader Unit := do
  let first ← next isNameStart
  let name := first :: (← takeWhile isNameChar)
  char '>'
  if (← get).names.contains name then failure
  else modify fun reading => { reading with names := name :: reading.names }

/-- How a parenthesis begins: flags for what follows, or a group with flags for what is in it. -/
inductive Opening where
  | switch (flags : Flags)
  | group (flags : Flags)

def looksAround (cs : List Char) : Bool :=
  ["?=", "?!", "?<=", "?<!"].any fun mark => mark.toList.isPrefixOf cs

def parenthesis : PieceReader Opening := do
  char '('
  pass
  if looksAround (← ahead) then failure
  else if (← opt (word "?P<" <|> word "?<")).isSome then
    groupName
    return .group []
  else if (← opt (char '?')).isSome then
    let text ← takeWhile fun c => c != ':' && c != ')'
    match flagsText? text, ← next fun _ => true with
    | some flags, ':' => return .group flags
    | some flags, _ => if flags.isEmpty then failure else return .switch flags
    | none, _ => failure
  else return .group []

/-- A piece that is neither a set nor in parentheses. -/
def atom : PieceReader Pattern := do
  match ← peek with
  | some '\\' => escape
  | _ =>
    match ← next (· != '\x7b') with
    | '.' => return .dot
    | '^' | '$' => return .textEdge
    | c => return .literal c

/-- Reads a pattern to its end or to a closing parenthesis. The pieces since the last bar are given,
and the choices before it. -/
def pieces : Nat → List Pattern → List Pattern → PieceReader Pattern
  | 0, _, _ => failure
  | steps + 1, found, choices => do
    pass
    let choices' := choices ++ [ofPieces found]
    match ← peek with
    | none | some ')' => return ofChoices choices'
    | some '|' =>
      char '|'
      pieces steps [] choices'
    | some '(' =>
      let spaced := (← get).spaced
      match ← parenthesis with
      | .switch flags =>
        modify fun reading => { reading with spaced := flags.get .spaced spaced }
        pieces steps (found ++ [.switch flags]) choices
      | .group flags =>
        modify fun reading => { reading with spaced := flags.get .spaced spaced }
        let inner ← pieces steps [] []
        char ')'
        modify fun reading => { reading with spaced }
        pieces steps (found ++ [.group flags inner]) choices
    | some '[' => pieces steps (found ++ [← charSet]) choices
    | some '?' | some '*' | some '+' =>
      let _ ← next fun _ => true
      match found.getLast? with
      | none | some (.switch _) => failure
      | some piece =>
        let _ ← opt (char '?')
        pieces steps (found.dropLast ++ [.repeated piece]) choices
    | some _ => pieces steps (found ++ [← atom]) choices

/-- Reads a pattern. -/
def ofText? (cs : List Char) : Option Pattern :=
  whole? (StateT.run' (pieces (cs.length + 1) [] []) {}) cs

end ErrorPages.Pattern
