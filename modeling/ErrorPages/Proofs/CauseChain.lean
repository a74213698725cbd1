import ErrorPages.Failure

/-! The chain of an error is the texts of the error and of all errors behind it, each once and the
outermost first. A failure shows its message and then the text of its cause, and the cause is also its
source. So where failures cause each other, the text of the outermost one names all of their messages,
and its chain repeats those of the inner ones, failure by failure. -/

namespace ErrorPages

namespace Cause

/-- The errors from one on, each the source of the one before it. The last of them has no source. -/
inductive Links : Cause → List Cause → Prop where
  | last {error : Cause} : error.source? = none → Links error [error]
  | next {error source : Cause} {behind : List Cause} :
      error.source? = some source → Links source behind → Links error (error :: behind)

theorem exists_links (error : Cause) : ∃ links, Links error links := by
  induction error with
  | root shown => exact ⟨_, .last rfl⟩
  | wrapping shown source ih =>
    obtain ⟨behind, hbehind⟩ := ih
    exact ⟨_, .next rfl hbehind⟩

theorem Links.unique {error : Cause} {links others : List Cause} (h : Links error links)
    (h' : Links error others) : links = others := by
  induction h generalizing others with
  | last hnone =>
    cases h' with
    | last _ => rfl
    | next hsome _ => rw [hnone] at hsome; cases hsome
  | next hsome _ ih =>
    cases h' with
    | last hnone => rw [hnone] at hsome; cases hsome
    | next hsome' hbehind =>
      obtain rfl := Option.some.inj (hsome.symm.trans hsome')
      rw [ih hbehind]

/-- What has been written when the errors behind are reached stays in front of their chain. -/
theorem chainAfter_eq (written : String) (error : Cause) :
    chainAfter written error = written ++ ": " ++ error.chain := by
  induction error generalizing written with
  | root shown => rfl
  | wrapping shown source ih =>
    calc chainAfter written (wrapping shown source)
        = chainAfter (written ++ ": " ++ shown) source := rfl
      _ = written ++ ": " ++ shown ++ ": " ++ source.chain := ih _
      _ = written ++ ": " ++ (shown ++ ": " ++ source.chain) := by simp only [String.append_assoc]
      _ = written ++ ": " ++ chain (wrapping shown source) := by rw [chain, ih]

theorem chain_of_source {error source : Cause} (h : error.source? = some source) :
    error.chain = error.shown ++ ": " ++ source.chain := by
  cases error with
  | root shown => cases h
  | wrapping shown inner =>
    obtain rfl := Option.some.inj h
    exact chainAfter_eq shown inner

theorem chain_of_root {error : Cause} (h : error.source? = none) : error.chain = error.shown := by
  cases error with
  | root shown => rfl
  | wrapping shown inner => cases h

theorem texts_ne_nil (error : Cause) : error.texts ≠ [] := by
  cases error <;> exact List.cons_ne_nil _ _

theorem chain_eq_intercalate (error : Cause) : error.chain = ": ".intercalate error.texts := by
  induction error with
  | root shown => exact String.intercalate_singleton.symm
  | wrapping shown source ih =>
    rw [texts, String.intercalate_cons_of_ne_nil source.texts_ne_nil, ← ih]
    exact chain_of_source rfl

theorem Links.map_shown {error : Cause} {links : List Cause} (h : Links error links) :
    links.map shown = error.texts := by
  induction h with
  | @last error hnone =>
    cases error with
    | root shown => rfl
    | wrapping shown source => cases hnone
  | @next error source behind hsome _ ih =>
    cases error with
    | root shown => cases hsome
    | wrapping shown inner =>
      obtain rfl := Option.some.inj hsome
      rw [List.map_cons, ih]
      rfl

end Cause

namespace Failure

/-- Failures of which each is caused by the next one, and the last one by the root. With them stands
the outermost error, which is the root itself when there are none. -/
inductive Nested (root : Cause) : List Failure → Cause → Prop where
  | bare : Nested root [] root
  | under {failure : Failure} {inner : Cause} {rest : List Failure} :
      failure.cause = some inner → Nested root rest inner → Nested root (failure :: rest) failure.toCause

theorem source?_toCause (failure : Failure) : failure.toCause.source? = failure.cause := by
  rw [toCause]
  cases failure.cause <;> rfl

theorem shown_toCause (failure : Failure) :
    failure.toCause.shown =
      failure.classification.row.logMessage ++ failure.cause.elim "" (": " ++ ·.shown) := by
  rw [toCause]
  cases failure.cause with
  | none => exact String.append_empty.symm
  | some cause => exact String.append_assoc

theorem Nested.shown_eq {root outermost : Cause} {failures : List Failure}
    (h : Nested root failures outermost) :
    outermost.shown =
      ": ".intercalate (failures.map (·.classification.row.logMessage) ++ [root.shown]) := by
  induction h with
  | bare => exact String.intercalate_singleton.symm
  | under hcause _ ih =>
    rw [shown_toCause, hcause, Option.elim_some, ih, List.map_cons, List.cons_append,
      String.intercalate_cons_of_ne_nil (by simp), String.append_assoc]

theorem Nested.chain_eq {root outermost : Cause} {failures : List Failure}
    (h : Nested root failures outermost) :
    outermost.chain = ": ".intercalate (failures.map (·.toCause.shown) ++ [root.chain]) := by
  induction h with
  | bare => exact String.intercalate_singleton.symm
  | @under failure _ _ hcause _ ih =>
    have hsource := failure.source?_toCause.trans hcause
    rw [Cause.chain_of_source hsource, ih, List.map_cons, List.cons_append,
      String.intercalate_cons_of_ne_nil (by simp)]

end Failure

namespace Cause

/-- Every error has one row of links, and its chain is their texts, so that it goes on with the chain of
its source. Failures over a root show their messages and then the text of the root, and their chain is
their texts and then the chain of the root. A failure without a cause is no more than its message. -/
theorem chain_joins (error : Cause) :
    (∃ links, Links error links ∧ (∀ others, Links error others → others = links) ∧
      error.chain = ": ".intercalate (links.map shown)) ∧
    (∀ source, error.source? = some source →
      error.chain = error.shown ++ ": " ++ source.chain) ∧
    (∀ root failures, Failure.Nested root failures error →
      error.shown =
        ": ".intercalate (failures.map (·.classification.row.logMessage) ++ [root.shown]) ∧
      error.chain = ": ".intercalate (failures.map (·.toCause.shown) ++ [root.chain])) ∧
    ∀ failure : Failure, failure.cause = none →
      failure.toCause.shown = failure.classification.row.logMessage ∧
      failure.toCause.chain = failure.classification.row.logMessage := by
  refine ⟨?_, fun source h => chain_of_source h, fun root failures h => ⟨h.shown_eq, h.chain_eq⟩,
    fun failure hnone => ?_⟩
  · obtain ⟨links, hlinks⟩ := exists_links error
    refine ⟨links, hlinks, fun others hothers => hothers.unique hlinks, ?_⟩
    rw [hlinks.map_shown, chain_eq_intercalate]
  · have hsource := failure.source?_toCause.trans hnone
    have hshown : failure.toCause.shown = failure.classification.row.logMessage := by
      rw [failure.shown_toCause, hnone, Option.elim_none, String.append_empty]
    exact ⟨hshown, (chain_of_root hsource).trans hshown⟩

/-- A failure in a failure, over an error that has a source of its own. -/
theorem chain_joins_nested :
    let root : Cause := .wrapping "query failed" (.root "db timeout")
    let inner : Failure := Failure.notFound.withCause root
    let outer : Failure := .internal inner.toCause
    Failure.Nested root [outer, inner] outer.toCause ∧
    outer.toCause.shown = "internal server error: resource not found: query failed" ∧
    outer.toCause.chain = "internal server error: resource not found: query failed: " ++
      "resource not found: query failed: query failed: db timeout" ∧
    outer.toCause.chain = outer.toCause.shown ++ ": " ++ inner.toCause.chain ∧
    Failure.forbidden.toCause.chain = "request forbidden" := by
  intro root inner outer
  have hnested : Failure.Nested root [outer, inner] outer.toCause := .under rfl (.under rfl .bare)
  obtain ⟨-, hsource, hfailures, hbare⟩ := chain_joins outer.toCause
  obtain ⟨hshown, hchain⟩ := hfailures root _ hnested
  refine ⟨hnested, hshown.trans ?_, hchain.trans ?_, hsource _ rfl, (hbare .forbidden rfl).2⟩
  · decide
  · decide

end Cause

end ErrorPages
