import ErrorPages.Page
import ErrorPages.Text.Blank
import ErrorPages.Text.Cut

/-! Templates: text with tags, each a placeholder between double braces. Rendering copies the text
outside the tags and writes the escaped value of each placeholder; it stops at the first tag that
is not closed or names no placeholder. Values are never read for tags. -/

namespace ErrorPages

inductive RenderError where
  | missingTemplate (template : String)
  | unknownPlaceholder (template placeholder : String)
  | unterminatedTag (template : String) (offset : Nat)
  | write
deriving DecidableEq

namespace RenderError

def message : RenderError → String
  | .missingTemplate template => "template `" ++ template ++ "` not found"
  | .unknownPlaceholder template placeholder =>
    "template `" ++ template ++ "` references unknown placeholder `" ++ placeholder ++ "`"
  | .unterminatedTag template offset =>
    "template `" ++ template ++ "` has an unterminated tag at byte " ++ Text.decimal offset
  | .write => "failed to write rendered output"

end RenderError

inductive RenderOutcome where
  | finished
  | failed (error : RenderError)
  | panicked
deriving DecidableEq

/-- All the text in the output buffer, and how rendering ended. -/
structure Rendering where
  text : String
  outcome : RenderOutcome
deriving DecidableEq

/-- Renders the template of a name for a page, into an empty buffer. -/
abbrev Renderer := String → Page → Rendering

inductive Placeholder where
  | title
  | status
  | message
  | requestId
deriving DecidableEq

namespace Placeholder

def all : List Placeholder := [.title, .status, .message, .requestId]

def name : Placeholder → String
  | .title => "title"
  | .status => "status"
  | .message => "message"
  | .requestId => "request_id"

def ofName? (name : String) : Option Placeholder := all.find? (·.name = name)

def value (page : Page) : Placeholder → String
  | .title => Markup.escape page.title
  | .status => Text.decimal page.status
  | .message => Markup.escape (page.message.getD "")
  | .requestId => Markup.escape (page.requestId.getD "")

end Placeholder

namespace Template

/-- What stands before and after the first two neighbouring `c`. -/
def splitAtPair (c : Char) : List Char → Option (List Char × List Char)
  | a :: b :: rest =>
    if a = c ∧ b = c then some ([], rest)
    else (splitAtPair c (b :: rest)).map fun parts => (a :: parts.1, parts.2)
  | _ => none

theorem eq_of_splitAtPair {c : Char} {cs before after : List Char}
    (h : splitAtPair c cs = some (before, after)) : cs = before ++ c :: c :: after := by
  induction cs generalizing before with
  | nil => simp [splitAtPair] at h
  | cons a rest ih =>
    cases rest with
    | nil => simp [splitAtPair] at h
    | cons b rest =>
      simp only [splitAtPair] at h
      split at h
      · next heq =>
        obtain ⟨rfl, rfl⟩ := heq
        simp only [Option.some.injEq, Prod.mk.injEq] at h
        obtain ⟨rfl, rfl⟩ := h
        rfl
      · obtain ⟨⟨p, q⟩, hp, heq⟩ := Option.map_eq_some_iff.1 h
        simp only [Prod.mk.injEq] at heq
        obtain ⟨rfl, rfl⟩ := heq
        rw [ih hp]
        rfl

theorem length_splitAtPair {c : Char} {cs before after : List Char}
    (h : splitAtPair c cs = some (before, after)) :
    cs.length = before.length + 2 + after.length := by
  rw [eq_of_splitAtPair h]
  simp only [List.length_append, List.length_cons]
  omega

/-- Renders the rest of a template, which begins at byte `offset` of its source. -/
def renderFrom (template : String) (page : Page) (buffer : String) (offset : Nat)
    (rest : List Char) : Rendering :=
  match _opened : splitAtPair '{' rest with
  | none => ⟨buffer ++ String.ofList rest, .finished⟩
  | some (literal, tail) =>
    let buffer := buffer ++ String.ofList literal
    match _closed : splitAtPair '}' tail with
    | none => ⟨buffer, .failed (.unterminatedTag template (offset + Text.byteSize literal))⟩
    | some (body, next) =>
      let name := String.ofList (Text.trim body)
      match Placeholder.ofName? name with
      | none => ⟨buffer, .failed (.unknownPlaceholder template name)⟩
      | some placeholder =>
        renderFrom template page (buffer ++ placeholder.value page)
          (offset + (Text.byteSize literal + 2 + Text.byteSize body + 2)) next
termination_by rest.length
decreasing_by
  have := length_splitAtPair _opened
  have := length_splitAtPair _closed
  omega

/-- Renders a source after the text already in the buffer. -/
def render (template source : String) (page : Page) (buffer : String) : Rendering :=
  renderFrom template page buffer 0 source.toList

end Template

end ErrorPages
