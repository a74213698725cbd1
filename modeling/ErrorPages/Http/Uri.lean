/-! Request targets. Of a target only the path and the query are kept: the fragment, the scheme and
the authority are checked and dropped. -/

namespace ErrorPages

structure Uri where
  path : String
  query : Option String
deriving DecidableEq

namespace Uri

def maxLength : Nat := 65534
def maxSchemeLength : Nat := 64
def maxColons : Nat := 8

def isSchemeChar (c : Char) : Bool := c.isAlphanum || c == '+' || c == '-' || c == '.' || c == '~'

/-- A character that may stand in an authority for itself, brackets and delimiters apart. -/
def isHostChar (c : Char) : Bool := c.isAlphanum || "!$&'()*+,-.;=_~".toList.contains c

def isPathChar (c : Char) : Bool :=
  let n := c.toNat
  n == 0x21 || (0x24 ≤ n && n ≤ 0x3B) || n == 0x3D || (0x40 ≤ n && n ≤ 0x5F) ||
  (0x61 ≤ n && n ≤ 0x7A) || n == 0x7C || n == 0x7E || 0x80 ≤ n || c == '"' || c == '{' || c == '}'

def isQueryChar (c : Char) : Bool :=
  let n := c.toNat
  n == 0x21 || (0x24 ≤ n && n ≤ 0x3B) || n == 0x3D || (0x3F ≤ n && n ≤ 0x7E) || 0x80 ≤ n

def endsAuthority (c : Char) : Bool := c == '/' || c == '?' || c == '#'

/-- What has been seen of an authority: the colons that could announce a port, the brackets, and
whether a percent sign stands outside the user's name and the brackets. -/
structure Authority where
  colons : Nat := 0
  opened : Bool := false
  closed : Bool := false
  percent : Bool := false

namespace Authority

def step (a : Authority) (c : Char) : Option Authority :=
  if c = ':' then
    if a.colons < maxColons then some { a with colons := a.colons + 1 } else none
  else if c = '[' then
    if a.percent || a.opened then none else some { a with opened := true }
  else if c = ']' then
    if !a.opened || a.closed then none
    else some { a with closed := true, colons := 0, percent := false }
  else if c = '@' then some { a with colons := 0, percent := false }
  else if c = '%' then some { a with percent := true }
  else if isHostChar c then some a
  else none

def accepts (cs : List Char) : Bool :=
  match cs.foldlM step {} with
  | none => false
  | some a => a.opened == a.closed && a.colons ≤ 1 && !a.percent && cs.getLast? != some '@'

end Authority

/-- Reads a path and a query, up to a fragment. -/
def ofPathAndQuery? (cs : List Char) : Option Uri :=
  let target := cs.takeWhile (· != '#')
  let path := target.takeWhile (· != '?')
  if path.all isPathChar then
    match target.dropWhile (· != '?') with
    | [] => some ⟨String.ofList path, none⟩
    | _ :: query =>
      if query.all isQueryChar then some ⟨String.ofList path, some (String.ofList query)⟩ else none
  else none

/-- What follows `scheme://`. -/
def afterScheme? (cs : List Char) : Option (List Char × List Char) :=
  match cs.dropWhile isSchemeChar with
  | ':' :: '/' :: '/' :: rest => some (cs.takeWhile isSchemeChar, rest)
  | _ => none

def ofAbsolute? (scheme rest : List Char) : Option Uri :=
  let authority := rest.takeWhile fun c => !endsAuthority c
  if scheme.length ≤ maxSchemeLength ∧ !authority.isEmpty ∧ Authority.accepts authority then
    (ofPathAndQuery? (rest.dropWhile fun c => !endsAuthority c)).map fun uri =>
      { uri with path := if uri.path.isEmpty then "/" else uri.path }
  else none

/-- Reads a target: a path with a query, `*`, an absolute target, or an authority alone, which has
an empty path. -/
def ofText? (text : String) : Option Uri :=
  if text.utf8ByteSize ≤ maxLength then
    match text.toList with
    | [] => none
    | ['*'] => some ⟨"*", none⟩
    | '/' :: rest => ofPathAndQuery? ('/' :: rest)
    | cs =>
      match afterScheme? cs with
      | some (scheme, rest) => ofAbsolute? scheme rest
      | none =>
        if cs.all (fun c => !endsAuthority c) ∧ Authority.accepts cs then some ⟨"", none⟩ else none
  else none

end Uri

end ErrorPages
