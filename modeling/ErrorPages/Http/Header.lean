import ErrorPages.Http.Method

/-! Header fields. Names are kept in lower case; a name may have several values, which keep the
order in which they were added. -/

namespace ErrorPages

structure HeaderName where
  text : String
deriving DecidableEq

namespace HeaderName

def maxLength : Nat := 65535

def ofText? (text : String) : Option HeaderName :=
  if isToken text ∧ text.utf8ByteSize ≤ maxLength then some ⟨text.map Char.toLower⟩ else none

def allow : HeaderName := ⟨"allow"⟩
def contentLength : HeaderName := ⟨"content-length"⟩
def contentType : HeaderName := ⟨"content-type"⟩
def requestId : HeaderName := ⟨"x-request-id"⟩

end HeaderName

structure HeaderValue where
  bytes : List UInt8
deriving DecidableEq

namespace HeaderValue

def allowed (b : UInt8) : Bool := (0x20 ≤ b && b != 0x7F) || b == 0x09

/-- A value holds no control byte other than a tab. -/
def ofBytes? (bytes : List UInt8) : Option HeaderValue :=
  if bytes.all allowed then some ⟨bytes⟩ else none

def visible (b : UInt8) : Bool := (0x20 ≤ b && b < 0x7F) || b == 0x09

/-- The text of a value of visible ASCII characters, spaces and tabs. -/
def text? (v : HeaderValue) : Option String :=
  if v.bytes.all visible then some (String.ofList (v.bytes.map fun b => Char.ofNat b.toNat)) else none

/-- The value written with these ASCII characters. -/
def ofText (s : String) : HeaderValue := ⟨s.toList.map fun c => UInt8.ofNat c.toNat⟩

def html : HeaderValue := ofText "text/html; charset=utf-8"
def plain : HeaderValue := ofText "text/plain; charset=utf-8"

end HeaderValue

structure Headers where
  entries : List (HeaderName × HeaderValue)
deriving DecidableEq

namespace Headers

def empty : Headers := ⟨[]⟩

def getAll (headers : Headers) (name : HeaderName) : List HeaderValue :=
  (headers.entries.filter (·.1 = name)).map (·.2)

def get? (headers : Headers) (name : HeaderName) : Option HeaderValue :=
  (headers.getAll name).head?

def contains (headers : Headers) (name : HeaderName) : Bool := headers.entries.any (·.1 = name)

def append (headers : Headers) (name : HeaderName) (value : HeaderValue) : Headers :=
  ⟨headers.entries ++ [(name, value)]⟩

def appendAll (headers more : Headers) : Headers := ⟨headers.entries ++ more.entries⟩

/-- Adds a value unless the name has one. -/
def supply (headers : Headers) (name : HeaderName) (value : HeaderValue) : Headers :=
  if headers.contains name then headers else headers.append name value

/-- All fields but those of the given names. -/
def without (headers : Headers) (names : List HeaderName) : Headers :=
  ⟨headers.entries.filter fun field => !names.contains field.1⟩

theorem getAll_appendAll (headers more : Headers) (name : HeaderName) :
    (headers.appendAll more).getAll name = headers.getAll name ++ more.getAll name := by
  simp [getAll, appendAll]

theorem getAll_without (headers : Headers) (names : List HeaderName) (name : HeaderName) :
    (headers.without names).getAll name = if name ∈ names then [] else headers.getAll name := by
  simp only [getAll, without, List.filter_filter]
  split
  · next h =>
    rw [List.map_eq_nil_iff, List.filter_eq_nil_iff]
    intro field _ hf
    simp only [Bool.and_eq_true, decide_eq_true_eq, Bool.not_eq_true'] at hf
    simp [hf.1, h] at hf
  · next h =>
    congr 1
    apply List.filter_congr
    intro field _
    by_cases hf : field.1 = name
    · simp [hf, h]
    · simp [hf]

end Headers

end ErrorPages
