import ErrorPages.Http.Status
import ErrorPages.Severity

/-! The four classes of failed requests. A class is no more than its row: the status, the template
and the texts that go with it, and the severity of its log entry. -/

namespace ErrorPages

inductive Classification where
  | forbidden
  | unauthorized
  | notFound
  | internalError
deriving DecidableEq, Inhabited

structure Row where
  name : String
  status : Status
  template : String
  severity : Severity
  title : String
  message : String
  logMessage : String

namespace Classification

def all : List Classification := [.forbidden, .unauthorized, .notFound, .internalError]

def row : Classification → Row
  | .forbidden => {
      name := "forbidden"
      status := .forbidden
      template := "forbidden"
      severity := .warn
      title := "Forbidden"
      message := "You do not have permission to access this page."
      logMessage := "request forbidden" }
  | .unauthorized => {
      name := "unauthorized"
      status := .unauthorized
      template := "unauthorized"
      severity := .warn
      title := "Unauthorized"
      message := "You need to sign in to access this page."
      logMessage := "request unauthorized" }
  | .notFound => {
      name := "not_found"
      status := .notFound
      template := "not_found"
      severity := .info
      title := "Page Not Found"
      message := "The page you are looking for does not exist."
      logMessage := "resource not found" }
  | .internalError => {
      name := "internal_error"
      status := .internalError
      template := "internal_error"
      severity := .error
      title := "Internal Server Error"
      message := "Something went wrong on our side. Please try again later."
      logMessage := "internal server error" }

def name (c : Classification) : String := c.row.name
def status (c : Classification) : Status := c.row.status
def template (c : Classification) : String := c.row.template
def severity (c : Classification) : Severity := c.row.severity

def ofName? (name : String) : Option Classification := all.find? (·.name = name)

/-- The class of bare answers with this status. -/
def ofStatus? (status : Status) : Option Classification := all.find? (·.status = status)

theorem ofStatus?_status (c : Classification) : ofStatus? c.status = some c := by
  cases c <;> decide

end Classification

end ErrorPages
