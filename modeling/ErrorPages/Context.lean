import ErrorPages.Http.Message
import ErrorPages.Named
import ErrorPages.Net.SocketAddress

/-! The facts of a request that are kept for its failure: they stamp every log record of it, and its
page shows the id. -/

namespace ErrorPages

abbrev Fields := Named Json

def Fields.toJson (fields : Fields) : Json := .obj fields.entries

structure Context where
  method : Method
  path : String
  peer : Option SocketAddress := none
  requestId : Option String := none
deriving DecidableEq

namespace Context

def ofRequest (request : Request) : Context where
  method := request.method
  path := request.uri.path
  peer := request.peer
  requestId := (request.headers.get? .requestId).bind HeaderValue.text?

def fields (context : Context) : Fields :=
  .ofList <| [("method", .str context.method.name), ("path", .str context.path)] ++
    (context.peer.map fun peer => ("remote_addr", .str peer.text)).toList ++
    (context.requestId.map fun id => ("request_id", .str id)).toList

end Context

end ErrorPages
