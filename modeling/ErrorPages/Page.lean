import ErrorPages.Json
import ErrorPages.Markup
import ErrorPages.Text.Digits

/-! What an error page shows, and the built-in page, which needs no template. -/

namespace ErrorPages

structure Page where
  title : String
  status : Nat
  message : Option String
  requestId : Option String
deriving DecidableEq

namespace Page

def heading (page : Page) : String := Text.decimal page.status ++ " " ++ Markup.escape page.title

def messageLine (message : String) : String := "<p>" ++ Markup.escape message ++ "</p>\n"

def requestIdLine (id : String) : String :=
  "<p><small>Request ID: " ++ Markup.escape id ++ "</small></p>\n"

/-- The page served when no template could be rendered. -/
def builtIn (page : Page) : String :=
  "<!DOCTYPE html>\n<html lang=\"en\">\n<head><meta charset=\"utf-8\"><title>" ++ page.heading ++
  "</title></head>\n<body>\n<h1>" ++ page.heading ++ "</h1>\n" ++
  page.message.elim "" messageLine ++ page.requestId.elim "" requestIdLine ++
  "</body>\n</html>\n"

def toJson (page : Page) : Json :=
  .obj [("title", .str page.title), ("status", .int page.status),
    ("message", .ofOption page.message), ("request_id", .ofOption page.requestId)]

end Page

end ErrorPages
