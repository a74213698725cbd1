import ErrorPages.Text.Digits
import ErrorPages.Text.Reader

/-! Strings and keys of TOML. A string in double quotes has escapes, one in single quotes has none;
tripled quotes enclose strings of several lines, whose line ends all read as a line feed. -/

namespace ErrorPages.Toml

open Reader

def isSpace (c : Char) : Bool := c == ' ' || c == '\t'

/-- A character that may stand in a line. -/
def isLineChar (c : Char) : Bool := c == '\t' || (0x20 ≤ c.toNat && c.toNat != 0x7F)

def isBasicChar (c : Char) : Bool := isLineChar c && c != '"' && c != '\\'

def isLiteralChar (c : Char) : Bool := isLineChar c && c != '\''

def isBareKeyChar (c : Char) : Bool := c.isAlphanum || c == '-' || c == '_'

def spaces : Reader Unit := do let _ ← takeWhile isSpace

def newline : Reader Unit := char '\n' <|> word "\r\n"

/-- The character whose number is written in so many hexadecimal digits. -/
def codePoint (width : Nat) : Reader Char := do
  let digits ← (List.replicate width ()).mapM fun _ => next (Text.isDigit 16)
  match Text.value? 16 digits with
  | some n => if n.isValidChar then return Char.ofNat n else failure
  | none => failure

def escape : Reader Char := do
  char '\\'
  match ← next fun _ => true with
  | 'b' => return '\x08'
  | 't' => return '\t'
  | 'n' => return '\n'
  | 'f' => return '\x0c'
  | 'r' => return '\r'
  | '"' => return '"'
  | '\\' => return '\\'
  | 'u' => codePoint 4
  | 'U' => codePoint 8
  | _ => failure

def basic : Reader (List Char) := do
  char '"'
  let cs ← many (escape <|> next isBasicChar)
  char '"'
  return cs

def literal : Reader (List Char) := do
  char '\''
  let cs ← many (next isLiteralChar)
  char '\''
  return cs

/-- A run of quotes whose length is in the given range. -/
def quotes (quote : Char) (low high : Nat) : Reader (List Char) := do
  let run ← takeWhile (· == quote)
  if low ≤ run.length ∧ run.length ≤ high then return run else failure

/-- A string between tripled quotes. A line end right after the opening quotes is left out; up to
two quotes may stand anywhere inside, also right before the closing ones. -/
def multiline (quote : Char) (piece : Reader (List Char)) : Reader (List Char) := do
  let _ ← opt newline
  let pieces ← many (piece <|> quotes quote 1 2)
  let closing ← quotes quote 3 5
  return pieces.flatten ++ closing.drop 3

/-- A backslash at the end of a line joins the lines. -/
def joinedLines : Reader (List Char) := do
  char '\\'
  spaces
  newline
  let _ ← many (newline <|> (do let _ ← next isSpace))
  return []

def lineFeed : Reader (List Char) := do
  newline
  return ['\n']

def basicPiece : Reader (List Char) :=
  joinedLines <|> ([·]) <$> escape <|> lineFeed <|> ([·]) <$> next isBasicChar

def literalPiece : Reader (List Char) := lineFeed <|> ([·]) <$> next isLiteralChar

def string : Reader String :=
  String.ofList <$>
    ((word "\"\"\"" *> multiline '"' basicPiece) <|> (word "'''" *> multiline '\'' literalPiece) <|>
      basic <|> literal)

def bareKey : Reader (List Char) := do
  let cs ← takeWhile isBareKeyChar
  if cs.isEmpty then failure else return cs

def simpleKey : Reader String := String.ofList <$> (basic <|> literal <|> bareKey)

/-- The most parts that a dotted key may have. -/
def maxKeyParts : Nat := 79

/-- A dotted key: the path to its table, and the key in it. -/
def key : Reader (List String × String) := do
  let parts ← sepBy (spaces *> simpleKey <* spaces) (char '.')
  match parts.reverse with
  | [] => failure
  | last :: path => if parts.length ≤ maxKeyParts then return (path.reverse, last) else failure

end ErrorPages.Toml
