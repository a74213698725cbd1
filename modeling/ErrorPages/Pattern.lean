/-! Patterns of text. A pattern is a tree of pieces, and a set of characters is a tree of its own.
Both are kept only as far as they tell whether the pattern can be used. -/

namespace ErrorPages

/-- What a pattern can turn on and off. -/
inductive Pattern.Flag where
  | caseless
  | linewise
  | dotAll
  | reluctant
  | unicode
  | crlf
  | spaced
deriving DecidableEq

/-- A set of characters. -/
inductive CharSet where
  | empty
  | char (c : Char)
  | range (low high : Char)
  /-- Digits, blanks or word characters, or all but them. -/
  | named (negated : Bool)
  /-- A class of ASCII characters, or all but it. -/
  | ascii (negated : Bool)
  | bracketed (negated : Bool) (inner : CharSet)
  | union (members : List CharSet)
  /-- An intersection or a difference. -/
  | operation (left right : CharSet)

namespace Pattern

def Flag.ofChar? : Char → Option Flag
  | 'i' => some .caseless
  | 'm' => some .linewise
  | 's' => some .dotAll
  | 'U' => some .reluctant
  | 'u' => some .unicode
  | 'R' => some .crlf
  | 'x' => some .spaced
  | _ => none

/-- The flags that a pattern turns on or off at one place. -/
abbrev Flags := List (Flag × Bool)

def Flags.get (flags : Flags) (flag : Flag) (before : Bool) : Bool :=
  match flags.find? (·.1 = flag) with
  | some (_, value) => value
  | none => before

end Pattern

inductive Pattern where
  | empty
  /-- Flags for what follows, up to the end of the group. -/
  | switch (flags : Pattern.Flags)
  | literal (c : Char)
  /-- A character by the number of its byte. -/
  | octet (c : Char)
  | dot
  /-- The beginning or the end of a line or of the text. -/
  | textEdge
  | wordEdge
  | set (members : CharSet)
  | repeated (piece : Pattern)
  | group (flags : Pattern.Flags) (inner : Pattern)
  | sequence (pieces : List Pattern)
  | choice (pieces : List Pattern)

namespace CharSet

def ofMembers : List CharSet → CharSet
  | [] => .empty
  | [member] => member
  | members => .union members

mutual

/-- How many brackets, unions and operations lie around the innermost member. -/
def depth : CharSet → Nat
  | .bracketed _ inner => depth inner + 1
  | .union members => depthOfAll members + 1
  | .operation left right => max (depth left) (depth right) + 1
  | _ => 0

def depthOfAll : List CharSet → Nat
  | [] => 0
  | member :: rest => max (depth member) (depthOfAll rest)

end

end CharSet

namespace Pattern

def ofPieces : List Pattern → Pattern
  | [] => .empty
  | [piece] => piece
  | pieces => .sequence pieces

def ofChoices : List Pattern → Pattern
  | [piece] => piece
  | pieces => .choice pieces

mutual

/-- How many pieces lie around the innermost one. -/
def depth : Pattern → Nat
  | .set members => members.depth
  | .repeated piece => depth piece + 1
  | .group _ inner => depth inner + 1
  | .sequence pieces | .choice pieces => depthOfAll pieces + 1
  | _ => 0

def depthOfAll : List Pattern → Nat
  | [] => 0
  | piece :: rest => max (depth piece) (depthOfAll rest)

end

/-- The most pieces that may lie around another. -/
def maxDepth : Nat := 250

end Pattern

end ErrorPages
