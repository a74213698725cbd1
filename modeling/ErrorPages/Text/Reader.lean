/-! Readers of text. A reader takes characters from the front of a text and fails without taking
any; `many` stops at the first item that fails. -/

namespace ErrorPages

abbrev Reader := StateT (List Char) Option

namespace Reader

variable {α β : Type}

def next (accept : Char → Bool) : Reader Char
  | c :: rest => if accept c then some (c, rest) else none
  | [] => none

def char (c : Char) : Reader Unit := do let _ ← next (· == c)

/-- Takes these characters in order. -/
def word (text : String) : Reader Unit := text.toList.forM char

def takeWhile (accept : Char → Bool) : Reader (List Char) := fun cs =>
  some (cs.takeWhile accept, cs.dropWhile accept)

/-- The first character that follows, which stays where it is. -/
def peek : Reader (Option Char) := fun cs => some (cs.head?, cs)

def atEnd : Reader Unit
  | [] => some ((), [])
  | _ :: _ => none

def opt (item : Reader α) : Reader (Option α) := (some <$> item) <|> pure none

/-- Takes items until one fails, and at most so many. -/
def manyFrom (item : Reader α) : Nat → List Char → List α × List Char
  | 0, cs => ([], cs)
  | most + 1, cs =>
    match item cs with
    | none => ([], cs)
    | some (a, rest) =>
      let (more, rest) := manyFrom item most rest
      (a :: more, rest)

/-- Takes items until one fails. An item takes a character at least, so there are no more items than
characters. -/
def many (item : Reader α) : Reader (List α) := fun cs => some (manyFrom item cs.length cs)

/-- One item or more, with a separator between neighbours. -/
def sepBy (item : Reader α) (separator : Reader β) : Reader (List α) := do
  let first ← item
  return first :: (← many (separator *> item))

/-- Reads a whole text. -/
def whole? (item : Reader α) (cs : List Char) : Option α :=
  match item cs with
  | some (a, []) => some a
  | _ => none

end Reader

end ErrorPages
