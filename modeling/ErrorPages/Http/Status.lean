/-! Status codes: three digits, from 100 to 999. -/

namespace ErrorPages

structure Status where
  code : Nat
  three_digits : 100 ≤ code ∧ code ≤ 999
deriving DecidableEq

namespace Status

def ofNat? (n : Nat) : Option Status :=
  if h : 100 ≤ n ∧ n ≤ 999 then some ⟨n, h⟩ else none

def ok : Status := ⟨200, by decide⟩
def badRequest : Status := ⟨400, by decide⟩
def unauthorized : Status := ⟨401, by decide⟩
def forbidden : Status := ⟨403, by decide⟩
def notFound : Status := ⟨404, by decide⟩
def methodNotAllowed : Status := ⟨405, by decide⟩
def internalError : Status := ⟨500, by decide⟩

/-- The phrases of the statuses that this library answers with. -/
def phrases : List (Status × String) :=
  [(ok, "OK"), (badRequest, "Bad Request"), (unauthorized, "Unauthorized"),
    (forbidden, "Forbidden"), (notFound, "Not Found"), (methodNotAllowed, "Method Not Allowed"),
    (internalError, "Internal Server Error")]

def phrase (s : Status) : String := (phrases.lookup s).getD "<unknown status code>"

end Status

end ErrorPages
