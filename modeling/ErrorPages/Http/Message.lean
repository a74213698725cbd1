import ErrorPages.Failure
import ErrorPages.Http.Header
import ErrorPages.Http.Method
import ErrorPages.Http.Uri
import ErrorPages.Net.SocketAddress

/-! Requests and responses. A body knows its length unless it is streamed; a response may carry the
failure that it stands for until the page for it is built. -/

namespace ErrorPages

structure Body where
  bytes : ByteArray
  streamed : Bool := false

namespace Body

def empty : Body := { bytes := .empty }

def ofText (text : String) : Body := { bytes := text.toUTF8 }

/-- The length of a body, if it is known before the body is sent. -/
def length? (body : Body) : Option Nat := if body.streamed then none else some body.bytes.size

end Body

structure Request where
  method : Method
  uri : Uri
  headers : Headers
  peer : Option SocketAddress
deriving DecidableEq

structure Response where
  status : Status
  headers : Headers := .empty
  body : Body := .empty
  failure : Option Failure := none

namespace Response

def ofStatus (status : Status) : Response := { status }

def ofText (status : Status) (text : String) : Response :=
  { status, headers := Headers.empty.append .contentType .plain, body := .ofText text }

def ofFailure (failure : Failure) : Response :=
  { status := failure.classification.status, failure := some failure }

end Response

end ErrorPages
