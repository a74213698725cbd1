import ErrorPages.Classification
import ErrorPages.Text.Digits

/-! Counters. Each has a name and labels, and counts up from nothing. -/

namespace ErrorPages

/-- Why a page was the built-in one. -/
inductive Fallback where
  | unconfigured
  | renderError
  | renderPanic
deriving DecidableEq

def Fallback.name : Fallback → String
  | .unconfigured => "unconfigured"
  | .renderError => "render_error"
  | .renderPanic => "render_panic"

inductive Counter where
  | responses (classification : Classification) (status : Status)
  | fallbacks (reason : Fallback)
  | droppedRecords
deriving DecidableEq

namespace Counter

def name : Counter → String
  | .responses .. => "error_responses_total"
  | .fallbacks _ => "error_page_render_fallbacks_total"
  | .droppedRecords => "error_log_dropped_total"

def labels : Counter → List (String × String)
  | .responses classification status =>
    [("classification", classification.name), ("status", Text.decimal status.code)]
  | .fallbacks reason => [("reason", reason.name)]
  | .droppedRecords => []

end Counter

/-- The counters that have been touched, with their counts. -/
abbrev Counters := List (Counter × Nat)

namespace Counters

def bump (counter : Counter) : Counters → Counters
  | [] => [(counter, 1)]
  | (c, n) :: rest => if c = counter then (c, n + 1) :: rest else (c, n) :: bump counter rest

def count (counters : Counters) (counter : Counter) : Nat := (counters.lookup counter).getD 0

theorem count_bump (counters : Counters) (counter other : Counter) :
    (bump counter counters).count other =
      counters.count other + if other = counter then 1 else 0 := by
  induction counters with
  | nil =>
    by_cases h : other = counter
    · simp [bump, count, h]
    · have hb : (other == counter) = false := by simpa using h
      simp [bump, count, List.lookup_cons, h, hb]
  | cons entry rest ih =>
    obtain ⟨c, n⟩ := entry
    by_cases h' : other = c
    · subst h'
      by_cases h : other = counter <;> simp [bump, count, h]
    · have hb : (other == c) = false := by simpa using h'
      by_cases h : c = counter
      · subst h
        simp [bump, count, List.lookup_cons, hb, h']
      · simpa [bump, count, List.lookup_cons, hb, h] using ih

theorem mem_bump {counters : Counters} {counter other : Counter} :
    other ∈ (counters.bump counter).map (·.1) ↔
      other ∈ counters.map (·.1) ∨ other = counter := by
  induction counters with
  | nil => simp [bump]
  | cons entry rest ih =>
    obtain ⟨c, n⟩ := entry
    by_cases h : c = counter
    · subst h
      simp only [bump, if_true, List.map_cons, List.mem_cons]
      rw [or_right_comm, or_self]
    · simp only [bump, if_neg h, List.map_cons, List.mem_cons, ih, or_assoc]

end Counters

end ErrorPages
