import ErrorPages.Proofs.Traffic

/-! What the counters of a run add up to. A logger is used by itself and through responders, with a
renderer or without one, and a clone of either shares its sink and its counters; so a run is a row of
uses, each through a renderer of its own. Every use adds to the counters what it adds alone, and one
more drop for each record that the sink does not take; the totals of a run are the sums. -/

namespace ErrorPages

/-- Why the built-in page stands for a rendering that ended so. -/
def RenderOutcome.fallback? : RenderOutcome → Option Fallback
  | .finished => none
  | .failed _ => some .renderError
  | .panicked => some .renderPanic

theorem Responder.shown_some (page : Page) (rendering : Rendering) :
    shown page (some rendering) =
      if rendering.outcome.fallback?.isSome then page.builtIn else rendering.text := by
  rcases rendering with ⟨text, _ | e | _⟩ <;> rfl

/-- A record is logged, or a failure is answered by a responder with this renderer. The renderer may be
another one at each use, as one with a state of its own is. -/
inductive Use where
  | log (record : Record)
  | respond (renderer : Option Renderer) (call : Call)

namespace Use

def run (sink : Sink) (journal : Journal) : Use → Option Response × Journal
  | .log record => (none, sink.log record journal)
  | .respond renderer call =>
    let (response, journal) := call.alone { sink, renderer } journal
    (some response, journal)

/-- Makes the uses one after another. -/
def runAll (sink : Sink) (journal : Journal) : List Use → List (Option Response) × Journal
  | [] => ([], journal)
  | use :: rest =>
    let (answer, journal) := use.run sink journal
    let (answers, journal) := runAll sink journal rest
    (answer :: answers, journal)

def isLog : Use → Bool
  | .log _ => true
  | .respond .. => false

def classification? : Use → Option Classification
  | .log _ => none
  | .respond _ call => some call.classification

/-- Why the page of a use is the built-in one, if it is. -/
def fallback? : Use → Option Fallback
  | .log _ => none
  | .respond none _ => some .unconfigured
  | .respond (some renderer) call =>
    (renderer call.classification.template call.page).outcome.fallback?

/-- What a use answers, whatever the sink does: the built-in page if it falls back on it, and the
text of the renderer if not. -/
def answer : Use → Option Response
  | .log _ => none
  | .respond renderer call =>
    let text := renderer.elim "" fun renderer =>
      (renderer call.classification.template call.page).text
    let fallsBack := (fallback? (.respond renderer call)).isSome
    some {
      status := call.classification.status
      headers := Headers.empty.append .contentType .html
      body := .ofText (if fallsBack then call.page.builtIn else text) }

/-- The records of a use, in the order in which the sink is given them. -/
def records (sink : Sink) : Use → List Record
  | .log record => [record]
  | .respond renderer call => call.records { sink, renderer }

/-- The counters of a use besides that of dropped records. -/
def counters (use : Use) : List Counter :=
  (use.classification?.map fun c => Counter.responses c c.status).toList ++
    (use.fallback?.map Counter.fallbacks).toList

end Use

/-- The sink keeps a record when it accepts it, and never else. -/
def Sink.KeepsAccepted (sink : Sink) : Prop :=
  ∀ earlier record, (sink.react earlier record).keeps = true ↔
    (sink.react earlier record).outcome = .accepted

theorem Sink.keepsAccepted_script {reactions : List Reaction}
    (h : ∀ reaction ∈ reactions, reaction.keeps = true ↔ reaction.outcome = .accepted) :
    (Sink.script reactions).KeepsAccepted := by
  intro earlier record
  simp only [script, List.getD_eq_getElem?_getD]
  cases hreaction : reactions[earlier.length % reactions.length]? with
  | none => simp [Reaction.keep]
  | some reaction => exact h reaction (List.mem_of_getElem? hreaction)

/-- Between two journals the sink was given records, and counters were bumped besides that of the
dropped records, which counts those that the sink did not take. -/
structure Adds (sink : Sink) (before : Journal) (records : List Record) (counters : List Counter)
    (after : Journal) : Prop where
  offered : after.offered = before.offered ++ records
  dropped : after.dropped = before.dropped + sink.refused before.offered records
  count : ∀ counter, after.counters.count counter = before.counters.count counter +
    counters.count counter +
    if counter = .droppedRecords then sink.refused before.offered records else 0
  touched : ∀ counter ∈ after.counters.map (·.1),
    counter ∈ before.counters.map (·.1) ∨ counter ∈ counters ∨ counter = .droppedRecords
  kept : sink.KeepsAccepted →
    after.kept.length + sink.refused before.offered records = before.kept.length + records.length

theorem Counter.count_singleton (counter other : Counter) :
    [other].count counter = if counter = other then 1 else 0 := by
  rw [List.count_singleton]
  by_cases h : other = counter
  · rw [if_pos (beq_iff_eq.2 h), if_pos h.symm]
  · rw [if_neg (by simpa using h), if_neg (Ne.symm h)]

namespace Adds

variable {sink : Sink} {before middle after : Journal} {records more : List Record}
  {counters others : List Counter}

theorem refl (sink : Sink) (journal : Journal) : Adds sink journal [] [] journal where
  offered := (List.append_nil _).symm
  dropped := rfl
  count counter := by simp [Sink.refused]
  touched counter h := .inl h
  kept _ := rfl

theorem trans (h : Adds sink before records counters middle)
    (h' : Adds sink middle more others after) :
    Adds sink before (records ++ more) (counters ++ others) after := by
  have hrefused : sink.refused before.offered (records ++ more) =
      sink.refused before.offered records + sink.refused middle.offered more := by
    rw [Sink.refused_append, h.offered]
  refine ⟨?_, ?_, ?_, ?_, ?_⟩
  · rw [h'.offered, h.offered, List.append_assoc]
  · rw [h'.dropped, h.dropped, hrefused, Nat.add_assoc]
  · intro counter
    rw [h'.count, h.count, hrefused, List.count_append]
    split <;> omega
  · intro counter hcounter
    rcases h'.touched counter hcounter with hmiddle | hothers | hdropped
    · rcases h.touched counter hmiddle with hbefore | hcounters | hdropped
      · exact .inl hbefore
      · exact .inr (.inl (List.mem_append_left _ hcounters))
      · exact .inr (.inr hdropped)
    · exact .inr (.inl (List.mem_append_right _ hothers))
    · exact .inr (.inr hdropped)
  · intro hkeeps
    have hfirst := h.kept hkeeps
    have hsecond := h'.kept hkeeps
    rw [hrefused, List.length_append]
    omega

theorem log (sink : Sink) (record : Record) (journal : Journal) :
    Adds sink journal [record] [] (sink.log record journal) := by
  have hrefused : sink.refused journal.offered [record] =
      if (sink.react journal.offered record).outcome = .accepted then 0 else 1 := rfl
  refine ⟨sink.offered_log record journal, ?_, ?_, ?_, ?_⟩
  · rw [hrefused, sink.dropped_log]
  · intro counter
    rw [hrefused, sink.counters_log]
    split
    · simp
    · simp [Counters.count_bump]
  · intro counter hcounter
    rw [sink.counters_log] at hcounter
    split at hcounter
    · exact .inl hcounter
    · exact (Counters.mem_bump.1 hcounter).imp_right .inr
  · intro hkeeps
    rw [sink.kept_log, sink.kept_offer, hrefused, List.length_append]
    by_cases haccepted : (sink.react journal.offered record).outcome = .accepted
    · rw [if_pos haccepted, if_pos ((hkeeps _ _).2 haccepted)]
      rfl
    · rw [if_neg haccepted, if_neg (mt (hkeeps _ _).1 haccepted)]
      rfl

theorem bump (sink : Sink) {counter : Counter} (h : counter ≠ .droppedRecords)
    (journal : Journal) : Adds sink journal [] [counter] (journal.bump counter) := by
  refine ⟨(List.append_nil _).symm, rfl, ?_, ?_, fun _ => rfl⟩
  · intro other
    rw [Journal.bump, Counters.count_bump, Counter.count_singleton]
    simp only [Sink.refused, ite_self, Nat.add_zero]
  · intro other hother
    rcases Counters.mem_bump.1 hother with hbefore | rfl
    · exact .inl hbefore
    · exact .inr (.inl List.mem_cons_self)

end Adds

namespace Use

variable (sink : Sink)

theorem adds_body (renderer : Option Renderer) (call : Call) (journal : Journal) :
    let responder : Responder := { sink, renderer }
    Adds sink journal
      (Responder.unrendered call.context call.classification
        (responder.rendering? call.classification call.page))
      ((fallback? (.respond renderer call)).map Counter.fallbacks).toList
      (responder.body call.context call.classification call.page journal).2 := by
  intro responder
  cases renderer with
  | none => exact Adds.bump sink (by simp) journal
  | some renderer =>
    unfold Responder.body Responder.rendering?
    simp only [responder, Option.map_some, fallback?]
    rcases renderer call.classification.template call.page with ⟨text, _ | e | _⟩
    · exact Adds.refl sink journal
    · exact (Adds.bump sink (by simp) journal).trans (Adds.log sink _ _)
    · exact (Adds.bump sink (by simp) journal).trans (Adds.log sink _ _)

theorem adds_run (journal : Journal) (use : Use) :
    Adds sink journal (use.records sink) use.counters (use.run sink journal).2 := by
  cases use with
  | log record => exact Adds.log sink record journal
  | respond renderer call =>
    have hresponses : Counter.responses call.classification call.classification.status ≠
        .droppedRecords := by simp
    have hlogged := (Adds.log sink call.record journal).trans (Adds.bump sink hresponses _)
    exact hlogged.trans (adds_body sink renderer call _)

theorem adds_runAll (journal : Journal) (uses : List Use) :
    Adds sink journal (uses.flatMap (records sink)) (uses.flatMap counters)
      (runAll sink journal uses).2 := by
  induction uses generalizing journal with
  | nil => exact Adds.refl sink journal
  | cons use rest ih =>
    rw [List.flatMap_cons, List.flatMap_cons]
    exact (adds_run sink journal use).trans (ih (use.run sink journal).2)

theorem fst_run (journal : Journal) (use : Use) : (use.run sink journal).1 = use.answer := by
  cases use with
  | log record => rfl
  | respond renderer call =>
    let responder : Responder := { sink, renderer }
    have hshown : Responder.shown call.page
        (responder.rendering? call.classification call.page) =
        if (fallback? (.respond renderer call)).isSome then call.page.builtIn
        else renderer.elim "" fun renderer =>
          (renderer call.classification.template call.page).text := by
      cases renderer with
      | none => rfl
      | some renderer => exact Responder.shown_some call.page _
    have hbody := responder.body_fst call.context call.classification call.page
      (responder.logged call.context call.classification call.detail journal)
    rw [hshown] at hbody
    rw [answer, ← hbody]
    rfl

theorem fst_runAll (journal : Journal) (uses : List Use) :
    (runAll sink journal uses).1 = uses.map answer := by
  induction uses generalizing journal with
  | nil => rfl
  | cons use rest ih =>
    rw [List.map_cons, ← fst_run sink journal use, ← ih (use.run sink journal).2]
    rfl

theorem count_toList (counter : Counter) (found : Option Counter) :
    found.toList.count counter = if found = some counter then 1 else 0 := by
  cases found with
  | none => rfl
  | some other =>
    rw [Option.toList_some, Counter.count_singleton]
    simp only [Option.some.injEq, eq_comm]

theorem count_counters (counter : Counter) (use : Use) : use.counters.count counter =
    (if use.classification?.map (fun c => Counter.responses c c.status) = some counter then 1 else 0) +
      if use.fallback?.map Counter.fallbacks = some counter then 1 else 0 := by
  rw [counters, List.count_append, count_toList, count_toList]

/-- A counter that each use bumps once or not at all counts the uses that do. -/
theorem count_flatMap_counters {counter : Counter} {p : Use → Bool}
    (h : ∀ use : Use, use.counters.count counter = if p use then 1 else 0) (uses : List Use) :
    (uses.flatMap counters).count counter = uses.countP p := by
  induction uses with
  | nil => rfl
  | cons use rest ih =>
    rw [List.flatMap_cons, List.count_append, h, ih, List.countP_cons, Nat.add_comm]

/-- No use bumps the counter of responses of a class with another status, or of another class. -/
theorem mem_counters {c : Classification} {status : Status} {uses : List Use}
    (h : .responses c status ∈ uses.flatMap counters) :
    status = c.status ∧ ∃ use ∈ uses, use.classification? = some c := by
  obtain ⟨use, huse, hcounter⟩ := List.mem_flatMap.1 h
  rcases List.mem_append.1 hcounter with hresponses | hfallback
  · obtain ⟨c', hc, hsame⟩ := Option.map_eq_some_iff.1 (Option.mem_toList.1 hresponses)
    obtain ⟨rfl, rfl⟩ := Counter.responses.inj hsame
    exact ⟨rfl, use, huse, hc⟩
  · obtain ⟨reason, -, hsame⟩ := Option.map_eq_some_iff.1 (Option.mem_toList.1 hfallback)
    cases hsame

theorem count_responses (c : Classification) (status : Status) (uses : List Use) :
    (uses.flatMap counters).count (.responses c status) =
      if status = c.status then uses.countP (·.classification? = some c) else 0 := by
  by_cases hstatus : status = c.status
  · subst hstatus
    rw [if_pos rfl]
    refine count_flatMap_counters (fun use => ?_) uses
    have hfallback : use.fallback?.map Counter.fallbacks ≠ some (.responses c c.status) := by
      cases use.fallback? <;> simp
    have hresponses : use.classification?.map (fun c => Counter.responses c c.status) =
        some (.responses c c.status) ↔ use.classification? = some c := by
      rw [Option.map_eq_some_iff]
      constructor
      · rintro ⟨c', hc, hsame⟩
        obtain ⟨rfl, -⟩ := Counter.responses.inj hsame
        exact hc
      · intro hc
        exact ⟨c, hc, rfl⟩
    rw [count_counters, if_neg hfallback, Nat.add_zero]
    simp only [hresponses, decide_eq_true_eq]
  · rw [if_neg hstatus, List.count_eq_zero]
    intro h
    exact hstatus (mem_counters h).1

theorem count_fallbacks (reason : Fallback) (uses : List Use) :
    (uses.flatMap counters).count (.fallbacks reason) =
      uses.countP (·.fallback? = some reason) := by
  refine count_flatMap_counters (fun use => ?_) uses
  rw [count_counters]
  cases use.classification? <;> cases use.fallback? <;> simp

theorem count_droppedRecords (uses : List Use) :
    (uses.flatMap counters).count .droppedRecords = 0 := by
  rw [List.count_eq_zero]
  intro h
  obtain ⟨use, -, huse⟩ := List.mem_flatMap.1 h
  simp [counters] at huse

theorem length_unrendered (context : Context) (c : Classification) (rendering : Rendering) :
    (Responder.unrendered context c (some rendering)).length =
      (if rendering.outcome.fallback? = some .renderError then 1 else 0) +
        if rendering.outcome.fallback? = some .renderPanic then 1 else 0 := by
  rcases rendering with ⟨text, _ | e | _⟩ <;> rfl

theorem length_records (use : Use) : (use.records sink).length =
    (if use.isLog then 1 else 0) + (if use.classification?.isSome then 1 else 0) +
      (if use.fallback? = some .renderError then 1 else 0) +
      if use.fallback? = some .renderPanic then 1 else 0 := by
  cases use with
  | log record => rfl
  | respond renderer call =>
    cases renderer with
    | none => rfl
    | some renderer =>
      have hunrendered := length_unrendered call.context call.classification
        (renderer call.classification.template call.page)
      have hrecords : ((respond (some renderer) call).records sink).length =
          (Responder.unrendered call.context call.classification
            (some (renderer call.classification.template call.page))).length + 1 := rfl
      rw [hrecords, hunrendered, Nat.add_comm, ← Nat.add_assoc]
      rfl

theorem length_flatMap_records (uses : List Use) : (uses.flatMap (records sink)).length =
    uses.countP isLog + uses.countP (·.classification?.isSome) +
      uses.countP (·.fallback? = some .renderError) +
      uses.countP (·.fallback? = some .renderPanic) := by
  induction uses with
  | nil => rfl
  | cons use rest ih =>
    rw [List.flatMap_cons, List.length_append, length_records, ih]
    simp only [List.countP_cons, decide_eq_true_eq]
    omega

theorem countP_fallback? (uses : List Use) :
    uses.countP (·.fallback? = some .unconfigured) +
      uses.countP (·.fallback? = some .renderError) +
      uses.countP (·.fallback? = some .renderPanic) = uses.countP (·.fallback?.isSome) := by
  induction uses with
  | nil => rfl
  | cons use rest ih =>
    simp only [List.countP_cons, ← ih]
    cases use.fallback? with
    | none => simp
    | some reason =>
      cases reason <;> simp <;> omega

/-- The totals of a run, of any uses with any sink: no counter of responses but those of the classes
is touched, and each counts the calls of its class; the fallbacks are counted by their reason; the sink
is given one record a use and one more for each failed rendering; and the records that it does not take
are counted and dropped. -/
theorem counters_of_runAll (sink : Sink) (uses : List Use) :
    let done := runAll sink {} uses
    let journal := done.2
    let count := journal.counters.count
    done.1 = uses.map answer ∧
    (∀ c status, count (.responses c status) =
      if status = c.status then uses.countP (·.classification? = some c) else 0) ∧
    (∀ c status, .responses c status ∈ journal.counters.map (·.1) →
      status = c.status ∧ ∃ use ∈ uses, use.classification? = some c) ∧
    (∀ reason, count (.fallbacks reason) = uses.countP (·.fallback? = some reason)) ∧
    count (.fallbacks .unconfigured) + count (.fallbacks .renderError) +
      count (.fallbacks .renderPanic) = uses.countP (·.fallback?.isSome) ∧
    journal.offered.length = uses.countP isLog + uses.countP (·.classification?.isSome) +
      count (.fallbacks .renderError) + count (.fallbacks .renderPanic) ∧
    count .droppedRecords = journal.dropped ∧
    journal.dropped = sink.refused [] journal.offered ∧
    (sink.KeepsAccepted → journal.kept.length + journal.dropped = journal.offered.length) := by
  intro done journal count
  have hadds : Adds sink {} (uses.flatMap (records sink)) (uses.flatMap counters) journal :=
    adds_runAll sink {} uses
  have hcount : ∀ counter, count counter = (uses.flatMap counters).count counter +
      if counter = .droppedRecords then sink.refused [] (uses.flatMap (records sink)) else 0 := by
    intro counter
    have hcounted := hadds.count counter
    have hnone : ({} : Journal).counters.count counter = 0 := rfl
    rwa [hnone, Nat.zero_add] at hcounted
  have hfallbacks : ∀ reason, count (.fallbacks reason) =
      uses.countP (·.fallback? = some reason) := by
    intro reason
    rw [hcount, count_fallbacks, if_neg (by simp), Nat.add_zero]
  have hoffered : journal.offered = uses.flatMap (records sink) :=
    hadds.offered.trans (List.nil_append _)
  have hdropped : journal.dropped = sink.refused [] journal.offered := by
    rw [hadds.dropped, hoffered]
    exact Nat.zero_add _
  refine ⟨fst_runAll sink {} uses, ?_, ?_, hfallbacks, ?_, ?_, ?_, hdropped, ?_⟩
  · intro c status
    have hresponses : Counter.responses c status ≠ .droppedRecords := by simp
    rw [hcount, count_responses, if_neg hresponses, Nat.add_zero]
  · intro c status hmem
    rcases hadds.touched _ hmem with hbefore | hcounters | hsame
    · cases hbefore
    · exact mem_counters hcounters
    · cases hsame
  · rw [hfallbacks, hfallbacks, hfallbacks, countP_fallback?]
  · rw [hoffered, length_flatMap_records, hfallbacks, hfallbacks]
  · rw [hcount, count_droppedRecords, if_pos rfl, hdropped, hoffered, Nat.zero_add]
  · intro hkeeps
    have hkept := hadds.kept hkeeps
    rw [hdropped, hoffered, hkept]
    exact Nat.zero_add _

/-- A sink that keeps the first record, refuses the second and panics at the third, and a responder that
goes from no renderer to one that fails. -/
theorem counters_of_runAll_mixed :
    let sink : Sink := .script [.keep, .reject "full", .panic]
    let denied : Call := ⟨⟨.get, "/a", none, none⟩, .forbidden, {}⟩
    let uses : List Use := [.log denied.record, .respond none denied,
      .respond (some fun _ _ => ⟨"<h1>", .failed .write⟩) denied]
    let journal := (runAll sink {} uses).2
    sink.KeepsAccepted ∧
    journal.counters.count (.responses .forbidden .forbidden) = 2 ∧
    journal.counters.count (.fallbacks .renderError) = 1 ∧
    journal.offered.length = 4 ∧ journal.dropped = 2 ∧ journal.kept.length = 2 := by
  intro sink denied uses journal
  obtain ⟨-, hresponses, -, hfallbacks, -, hoffered, -, -, hkept⟩ := counters_of_runAll sink uses
  have hkeeps : sink.KeepsAccepted :=
    Sink.keepsAccepted_script (by decide)
  have hdropped : journal.dropped = 2 := by decide
  have hfour : journal.offered.length = 4 := by
    rw [hoffered, hfallbacks, hfallbacks]
    rfl
  refine ⟨hkeeps, ?_, ?_, hfour, hdropped, ?_⟩
  · rw [hresponses]
    rfl
  · rw [hfallbacks]
    rfl
  · have htotal : journal.kept.length + journal.dropped = journal.offered.length := hkept hkeeps
    omega

end Use

end ErrorPages
