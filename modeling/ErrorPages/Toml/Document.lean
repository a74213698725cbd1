import ErrorPages.Toml.Number

/-! Documents of TOML. A text is read as a list of statements, and the statements then define the
document one after another. -/

namespace ErrorPages.Toml

open Reader

def comment : Reader Unit := do
  char '#'
  let _ ← takeWhile isLineChar

/-- The end of a line, after spaces and a comment. -/
def lineEnd : Reader Unit := do
  spaces
  let _ ← opt comment
  newline <|> atEnd

/-- What may stand between the items of an array. -/
def gap : Reader Unit := do
  let _ ← many ((do let _ ← next isSpace) <|> newline <|> (comment *> newline))

/-- The items of an array, after its bracket. -/
def arrayItems (value : Reader Value) : Reader Value := do
  let items ← opt (sepBy (gap *> value <* gap) (char ',') <* opt (char ','))
  gap
  char ']'
  return .array (items.getD [])

def pair (value : Reader Value) : Reader ((List String × String) × Value) := do
  let key ← key
  char '='
  spaces
  return (key, ← value)

def assignInBraces (entries : Entries) (pair : (List String × String) × Value) : Option Entries :=
  entries.assign .dotted pair.1.1 pair.1.2 pair.2

/-- The entries of a table in braces, after its brace. -/
def bracesEntries (value : Reader Value) : Reader Value := do
  let pairs ← opt (sepBy (pair value <* spaces) (char ','))
  spaces
  char '}'
  match (pairs.getD []).foldlM assignInBraces [] with
  | some entries => return .table .braces entries
  | none => failure

def scalar : Reader Value :=
  .text <$> string <|> (word "true" *> pure (.flag true)) <|> (word "false" *> pure (.flag false)) <|>
    number

/-- A value that has arrays and tables nested to a depth. -/
def valueWithin : Nat → Reader Value
  | 0 => scalar
  | depth + 1 =>
    (char '[' *> arrayItems (valueWithin depth)) <|>
      (char '{' *> bracesEntries (valueWithin depth)) <|> scalar

def maxDepth : Nat := 79

def value : Reader Value := valueWithin maxDepth

inductive Statement where
  | blank
  | assign (path : List String) (key : String) (value : Value)
  | table (path : List String) (key : String)
  | row (path : List String) (key : String)

def rowHeader : Reader Statement := do
  word "[["
  let (path, key) ← key
  word "]]"
  lineEnd
  return .row path key

def tableHeader : Reader Statement := do
  char '['
  let (path, key) ← key
  char ']'
  lineEnd
  return .table path key

def assignment : Reader Statement := do
  let ((path, key), value) ← pair value
  lineEnd
  return .assign path key value

/-- A line of nothing, or of a comment. -/
def blankLine : Reader Statement := do
  newline <|> (comment *> (newline <|> atEnd))
  return .blank

def statement : Reader Statement := rowHeader <|> tableHeader <|> blankLine <|> assignment

def byteOrderMark : Char := '\uFEFF'

def statements : Reader (List Statement) := do
  let _ ← opt (char byteOrderMark)
  spaces
  many (statement <* spaces)

/-- A document so far, and the place of the table that assignments go to. -/
structure Document where
  root : Entries := []
  place : List String := []

namespace Document

def step (document : Document) : Statement → Option Document
  | .blank => some document
  | .assign path key value => do
    let root ← Entries.change (Entries.assign .dotted path key value) document.place document.root
    return { document with root }
  | .table path key => do
    return ⟨← Entries.change (Entries.openTable key) path document.root, path ++ [key]⟩
  | .row path key => do
    return ⟨← Entries.change (Entries.openRow key) path document.root, path ++ [key]⟩

end Document

/-- Reads a text as a table. -/
def ofText? (text : String) : Option Value := do
  let statements ← Reader.whole? statements text.toList
  let document ← statements.foldlM Document.step {}
  return .table .header document.root

end ErrorPages.Toml
