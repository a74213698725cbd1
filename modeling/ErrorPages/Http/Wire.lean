import ErrorPages.Http.Message
import ErrorPages.Text.Blank

/-! Requests and responses as they travel over a connection: lines of text, and then the body. -/

namespace ErrorPages

def isPadding (c : Char) : Bool := c == ' ' || c == '\t'

/-- A line without its end and without the blanks around it. -/
def unpadded (line : List Char) : List Char :=
  ((line.dropWhile isPadding).reverse.dropWhile fun c =>
    isPadding c || c == '\r' || c == '\n').reverse

namespace Header

/-- Reads a line with a header field. -/
def ofLine? (line : String) : Option (HeaderName × HeaderValue) := do
  let cs := line.toList
  let name ← HeaderName.ofText? (String.ofList (cs.takeWhile (· != ':')))
  let value := unpadded ((cs.dropWhile (· != ':')).drop 1)
  return (name, ← HeaderValue.ofBytes? (String.ofList value).toUTF8.data.toList)

end Header

/-- Reads the lines before the body of a request. -/
def Request.ofLines? (lines : List String) (peer : Option SocketAddress) : Option Request :=
  match lines with
  | [] => none
  | first :: fields =>
    match (unpadded first.toList).splitOn ' ' with
    | [method, target, _] => do
      return {
        method := ← Method.ofName? (String.ofList method)
        uri := ← Uri.ofText? (String.ofList target)
        headers := ⟨← fields.mapM Header.ofLine?⟩
        peer }
    | _ => none

/-- The bytes before the body of a response. -/
def Response.head (response : Response) : List UInt8 :=
  let line (text : String) : List UInt8 := (text ++ "\r\n").toUTF8.data.toList
  line ("HTTP/1.1 " ++ Text.decimal response.status.code ++ " " ++ response.status.phrase) ++
  (response.headers.entries.flatMap fun (name, value) =>
    (name.text ++ ": ").toUTF8.data.toList ++ value.bytes ++ line "") ++
  line "connection: close" ++ line ""

end ErrorPages
