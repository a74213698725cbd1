import ErrorPages.Files

/-! Files below `/`, and what a path leads to. A path begins at `/` or in the current directory and
is walked part by part: `.` stays, `..` goes up, and every part but the last must lead to a
directory. -/

namespace ErrorPages

/-- Where an entry stands: the names on the way to it from `/`. -/
abbrev Way := List FileName

namespace Way

open FileName (slash dot)

/-- The parts of a path between its slashes. -/
def parts (path : List UInt8) : List FileName := path.splitOn slash

def isPlain (part : FileName) : Bool := part ≠ [] && part ≠ [dot]

/-- The place where a path begins. -/
def start (current : Way) (path : List UInt8) : Way :=
  if path.head? = some slash then [] else current

/-- Takes one part of a path. Nothing is above `/`. -/
def step (place : Way) (part : FileName) : Way :=
  if !isPlain part then place
  else if part = [dot, dot] then place.dropLast
  else place ++ [part]

def ofPath (current : Way) (path : List UInt8) : Way :=
  (parts path).foldl step (start current path)

/-- The places that the parts of a path lead through, with the first and without the last. -/
def before (place : Way) : List FileName → List Way
  | [] => []
  | part :: rest => place :: before (place.step part) rest

/-- What follows the first names of a way, if it begins with them. -/
def after? : Way → Way → Option Way
  | [], way => some way
  | _ :: _, [] => none
  | a :: place, b :: way => if a = b then after? place way else none

end Way

/-- Files with their content, and directories, each under its way. The directories on the way need no
entry, and of two entries under one way the later one counts. -/
abbrev Placed := List (Way × Option ByteArray)

namespace Placed

/-- A file or a directory under a path, and the directories that the path leads through. -/
def ofPath (current : Way) (path : List UInt8) (content : Option ByteArray) : Placed :=
  (Way.before (Way.start current path) (Way.parts path)).map (·, none) ++
    [(Way.ofPath current path, content)]

/-- The entries of the directory at a place, the last of each name. -/
def listing (entries : Placed) (place : Way) : List Entry :=
  let below := entries.filterMap fun (way, content) =>
    match Way.after? place way with
    | some [name] => some (name, content)
    | some (name :: _) => some (name, none)
    | _ => none
  let names := (below.map (·.1)).eraseDups
  names.map fun name => ⟨name, (below.reverse.lookup name).join⟩

def node? (entries : Placed) (place : Way) : Option Node :=
  let reached := entries.filter fun entry => (Way.after? place entry.1).isSome
  if place = [] then some (.directory (entries.listing []))
  else match reached with
    | [] => none
    | _ =>
      match reached.reverse.findSome? fun entry => if entry.1 = place then entry.2 else none with
      | some content => some (.file content)
      | none => some (.directory (entries.listing place))

/-- What every machine has: some directories, and a file that is always empty. -/
def everywhere : Placed :=
  let way (names : List String) : Way := names.map fun name => name.toUTF8.toList
  [(way ["bin"], none), (way ["dev", "null"], some .empty), (way ["etc"], none),
    (way ["proc"], none), (way ["tmp"], none), (way ["usr"], none), (way ["var"], none)]

end Placed

structure FileTree where
  /-- The directory in which the paths begin that do not begin at `/`. -/
  current : Way
  entries : Placed

namespace FileTree

def maxName : Nat := 255
def maxPath : Nat := 4095

/-- What every machine has, and the given files and directories with their paths from a root. -/
def ofEntries (current root : Way) (entries : List (List UInt8 × Option ByteArray)) : FileTree where
  current := current
  entries := Placed.everywhere ++ (root, none) ::
    entries.flatMap fun (path, content) => Placed.ofPath root path content

/-- Walks from a node at a place through the parts of a path. -/
def walk (tree : FileTree) (place : Way) (node : Node) : List FileName → Except FileFault Node
  | [] => .ok node
  | part :: rest =>
    match node with
    | .file _ => .error .notDirectory
    | .directory _ =>
      if maxName < part.length then .error .nameTooLong
      else match tree.entries.node? (place.step part) with
        | none => .error .notFound
        | some node => walk tree (place.step part) node rest

def files (tree : FileTree) : Files := fun path =>
  if path.isEmpty then .error .notFound
  else if path.contains '\x00' then .error .nulByte
  else if maxPath < path.utf8ByteSize then .error .nameTooLong
  else
    let bytes := path.toUTF8.toList
    let place := Way.start tree.current bytes
    match tree.entries.node? place with
    | none => .error .notFound
    | some node => tree.walk place node (Way.parts bytes)

end FileTree

end ErrorPages
