import ErrorPages.Cause

/-! What is found under a path: a file with its bytes, a directory with its entries, or the fault
that stands in the way. -/

namespace ErrorPages

inductive FileFault where
  | notFound
  | notDirectory
  | isDirectory
  | nameTooLong
  | nulByte
  | invalidUtf8
deriving DecidableEq

namespace FileFault

def message : FileFault → String
  | .notFound => "No such file or directory (os error 2)"
  | .notDirectory => "Not a directory (os error 20)"
  | .isDirectory => "Is a directory (os error 21)"
  | .nameTooLong => "File name too long (os error 36)"
  | .nulByte => "file name contained an unexpected NUL byte"
  | .invalidUtf8 => "stream did not contain valid UTF-8"

def cause (fault : FileFault) : Cause := .root fault.message

end FileFault

/-- The bytes of a name in a directory. -/
abbrev FileName := List UInt8

namespace FileName

def slash : UInt8 := 0x2F
def dot : UInt8 := 0x2E

end FileName

/-- An entry of a directory: a file with its content, or a directory, whose content is not shown. -/
structure Entry where
  name : FileName
  content : Option ByteArray

inductive Node where
  | file (content : ByteArray)
  | directory (entries : List Entry)

abbrev Files := String → Except FileFault Node

/-- The text of bytes that are UTF-8. -/
def utf8Text? (bytes : ByteArray) : Except FileFault String :=
  match String.fromUTF8? bytes with
  | some text => .ok text
  | none => .error .invalidUtf8

/-- Reads the file at a path as text. -/
def Files.text (files : Files) (path : String) : Except FileFault String := do
  match ← files path with
  | .file content => utf8Text? content
  | .directory _ => throw .isDirectory

end ErrorPages
