/-! Tokens, the words of the protocol, and request methods: any token, told apart by case. -/

namespace ErrorPages

/-- A character that may stand in a token. -/
def isTokenChar (c : Char) : Bool := c.isAlphanum || "!#$%&'*+-.^_`|~".toList.contains c

def isToken (s : String) : Bool := !s.isEmpty && s.toList.all isTokenChar

structure Method where
  name : String
  token : isToken name = true
deriving DecidableEq

namespace Method

def ofName? (name : String) : Option Method :=
  if h : isToken name = true then some ⟨name, h⟩ else none

def get : Method := ⟨"GET", by decide +kernel⟩
def head : Method := ⟨"HEAD", by decide +kernel⟩

end Method

end ErrorPages
