import ErrorPages.Proofs.Entities
import ErrorPages.Proofs.Markup
import ErrorPages.Proofs.Separator

/-! The built-in page read back. Whatever is written on the page has no angle bracket, so the first one
after a value ends the value, and what follows the heading shows which of the two lines are there. Hence
no two pages look the same: not by values that look like markup, nor by one that is empty where the other
is absent. -/

namespace ErrorPages

namespace Markup

/-- The text begins where an element opens or closes. -/
def Opens (s : String) : Prop := ∃ rest, s.toList = '<' :: rest

theorem Opens.append {s : String} (h : Opens s) (t : String) : Opens (s ++ t) := by
  obtain ⟨rest, hs⟩ := h
  exact ⟨rest ++ t.toList, by rw [String.toList_append, hs, List.cons_append]⟩

/-- A text without marks ends where the next element opens or closes. -/
theorem append_inj_of_opens {s t a b : String} (hs : marks s = []) (ht : marks t = []) (ha : Opens a)
    (hb : Opens b) : s ++ a = t ++ b ↔ s = t ∧ a = b := by
  have hunmarked {s : String} (h : marks s = []) : '<' ∉ s.toList := fun hmem =>
    List.filter_eq_nil_iff.1 h '<' hmem (by decide)
  obtain ⟨a', ha⟩ := ha
  obtain ⟨b', hb⟩ := hb
  simp only [← String.toList_inj, String.toList_append, ha, hb, List.cons.injEq, true_and]
  exact append_cons_inj_of_not_mem (hunmarked hs) (hunmarked ht)

/-- The same of an escaped text, which is settled by what it was before. -/
theorem escape_append_inj {s t a b : String} (ha : Opens a) (hb : Opens b) :
    escape s ++ a = escape t ++ b ↔ s = t ∧ a = b := by
  rw [append_inj_of_opens (marks_escape s) (marks_escape t) ha hb, escape_inj]

end Markup

theorem Text.decimal_inj {m n : Nat} : decimal m = decimal n ↔ m = n := by
  constructor
  · intro h
    have hdigits : Nat.toDigits 10 m = Nat.toDigits 10 n := String.ofList_injective h
    have hread := congrArg (Nat.ofDigitChars 10 · 0) hdigits
    simpa only [Nat.ofDigitChars_ten_toDigits] using hread
  · exact congrArg decimal

namespace Page

theorem heading_inj {p q : Page} :
    p.heading = q.heading ↔ p.status = q.status ∧ p.title = q.title := by
  have hspace (n : Nat) : ' ' ∉ (Text.decimal n).toList := by
    rw [Text.decimal, String.toList_ofList]
    intro hmem
    exact absurd (Nat.isDigit_of_mem_toDigits (by decide) (by decide) hmem) (by decide)
  have hheading (page : Page) : page.heading.toList =
      (Text.decimal page.status).toList ++ ' ' :: (Markup.escape page.title).toList := by
    simp [heading]
  rw [← String.toList_inj, hheading, hheading,
    append_cons_inj_of_not_mem (hspace p.status) (hspace q.status), String.toList_inj,
    String.toList_inj, Text.decimal_inj, Markup.escape_inj]

/-- The end of the page, with the line for the id. -/
def ending (requestId : Option String) : String :=
  requestId.elim "" requestIdLine ++ "</body>\n</html>\n"

theorem ending_some (id : String) : ending (some id) =
    "<p><small>Request ID: " ++ (Markup.escape id ++ ("</small></p>\n" ++ "</body>\n</html>\n")) := by
  unfold ending requestIdLine
  simp only [Option.elim_some, String.append_assoc]

theorem ending_inj {a b : Option String} : ending a = ending b ↔ a = b := by
  have hnone (id : String) : ending (some id) ≠ ending none := by
    intro h
    rw [ending_some] at h
    have hsecond := congrArg (fun s => s.toList[1]?) h
    simp [ending] at hsecond
  have hclosed : Markup.Opens ("</small></p>\n" ++ "</body>\n</html>\n") :=
    Markup.Opens.append ⟨_, rfl⟩ _
  cases a with
  | none =>
    cases b with
    | none => simp
    | some id => simp [Ne.symm (hnone id)]
  | some id =>
    cases b with
    | none => simp [hnone id]
    | some id' =>
      rw [ending_some, ending_some, String.append_right_inj, Markup.escape_append_inj hclosed hclosed,
        Option.some_inj, and_iff_left rfl]

/-- What follows the heading: the lines that the page has, and its end. -/
def lines (message requestId : Option String) : String :=
  message.elim "" messageLine ++ ending requestId

theorem lines_some (message : String) (requestId : Option String) : lines (some message) requestId =
    "<p>" ++ (Markup.escape message ++ ("</p>\n" ++ ending requestId)) := by
  unfold lines messageLine
  simp only [Option.elim_some, String.append_assoc]

theorem lines_none (requestId : Option String) : lines none requestId = ending requestId := by
  simp [lines]

/-- A message is not mistaken for an id: its line does not begin with an element. -/
theorem lines_some_ne_ending (message : String) (a b : Option String) :
    lines (some message) a ≠ ending b := by
  intro h
  rw [lines_some] at h
  cases b with
  | none =>
    have hsecond := congrArg (fun s => s.toList[1]?) h
    simp [ending] at hsecond
  | some id =>
    have hline : "<p><small>Request ID: " = "<p>" ++ ("" ++ "<small>Request ID: ") := by simp
    rw [ending_some, hline, String.append_assoc, String.append_assoc, String.append_right_inj,
      Markup.append_inj_of_opens (Markup.marks_escape message) rfl (Markup.Opens.append ⟨_, rfl⟩ _)
        (Markup.Opens.append ⟨_, rfl⟩ _)] at h
    have hsecond := congrArg (fun s => s.toList[1]?) h.2
    simp at hsecond

theorem lines_inj {m n a b : Option String} : lines m a = lines n b ↔ m = n ∧ a = b := by
  cases m with
  | none =>
    cases n with
    | none => rw [lines_none, lines_none, ending_inj, and_iff_right rfl]
    | some n =>
      rw [lines_none]
      simp [Ne.symm (lines_some_ne_ending n b a)]
  | some m =>
    cases n with
    | none =>
      rw [lines_none]
      simp [lines_some_ne_ending m a b]
    | some n =>
      rw [lines_some, lines_some, String.append_right_inj,
        Markup.escape_append_inj (Markup.Opens.append ⟨_, rfl⟩ _) (Markup.Opens.append ⟨_, rfl⟩ _),
        String.append_right_inj, ending_inj, Option.some_inj]

theorem builtIn_eq (page : Page) : page.builtIn =
    "<!DOCTYPE html>\n<html lang=\"en\">\n<head><meta charset=\"utf-8\"><title>" ++ (page.heading ++
      ("</title></head>\n<body>\n<h1>" ++ (page.heading ++ ("</h1>\n" ++
        lines page.message page.requestId)))) := by
  unfold builtIn lines ending
  simp only [String.append_assoc]

/-- Two pages that look the same are the same page: with the same title and status, and with the same
message and the same id or without one. -/
theorem builtIn_inj {p q : Page} : p.builtIn = q.builtIn ↔ p = q := by
  constructor
  · intro h
    rw [builtIn_eq, builtIn_eq, String.append_right_inj,
      Markup.append_inj_of_opens (marks_heading p) (marks_heading q) (Markup.Opens.append ⟨_, rfl⟩ _)
        (Markup.Opens.append ⟨_, rfl⟩ _)] at h
    obtain ⟨hheading, hrest⟩ := h
    obtain ⟨hstatus, htitle⟩ := heading_inj.1 hheading
    rw [hheading, String.append_right_inj, String.append_right_inj, String.append_right_inj] at hrest
    obtain ⟨hmessage, hid⟩ := lines_inj.1 hrest
    rw [Page.mk.injEq]
    exact ⟨htitle, hstatus, hmessage, hid⟩
  · exact congrArg builtIn

end Page

end ErrorPages
