import ErrorPages.Proofs.Delivery
import ErrorPages.Proofs.Interleaving
import ErrorPages.Traffic

/-! Calls in flight do not disturb each other. What a call returns is settled by the call and the
renderer, whenever its turns come; the records that have been kept are those of the calls, merged; and
a sink that only counts refuses as many records in one order of the turns as in another. -/

namespace ErrorPages

/-- What the tasks of a call are still going to do. -/
def Task.records (responder : Responder) (call : Call) : Task → List Record
  | .offer record => [record]
  | .refuse _ => []
  | .count _ => []
  | .render =>
    Responder.unrendered call.context call.classification
      (responder.rendering? call.classification call.page)

/-- A bound on the turns that a task and those that come of it take. -/
def Task.weight : Task → Nat
  | .offer _ => 2
  | .refuse _ => 1
  | .count _ => 1
  | .render => 4

def Task.refusals : Task → Nat
  | .refuse _ => 1
  | _ => 0

def SinkOutcome.refusals (outcome : SinkOutcome) : Nat := if outcome = .accepted then 0 else 1

/-- The records of a call, in the order in which the sink is given them. -/
def Call.records (responder : Responder) (call : Call) : List Record :=
  responder.records call.context call.classification call.detail

namespace SinkOutcome

theorem records_tasks (outcome : SinkOutcome) (responder : Responder) (call : Call) :
    outcome.tasks.flatMap (Task.records responder call) = [] := by
  cases outcome <;> rfl

theorem weight_tasks (outcome : SinkOutcome) : (outcome.tasks.map Task.weight).sum ≤ 1 := by
  cases outcome <;> simp [tasks, Task.weight]

theorem refusals_tasks (outcome : SinkOutcome) :
    (outcome.tasks.map Task.refusals).sum = outcome.refusals := by
  cases outcome <;> rfl

end SinkOutcome

namespace Sink

/-- How many of the records a sink does not take, given the earlier ones. -/
def refused (sink : Sink) (earlier : List Record) : List Record → Nat
  | [] => 0
  | record :: rest =>
    (sink.react earlier record).outcome.refusals + sink.refused (earlier ++ [record]) rest

/-- What becomes of a record depends on how many came before it, and on nothing else. -/
def ByCount (sink : Sink) : Prop :=
  ∀ earlier earlier' record record', earlier.length = earlier'.length →
    (sink.react earlier record).outcome = (sink.react earlier' record').outcome

theorem byCount_script (reactions : List Reaction) : (Sink.script reactions).ByCount := by
  intro earlier earlier' record record' h
  simp only [script, h]

variable (sink : Sink)

theorem refused_append (earlier records more : List Record) :
    sink.refused earlier (records ++ more) =
      sink.refused earlier records + sink.refused (earlier ++ records) more := by
  induction records generalizing earlier with
  | nil => simp [refused]
  | cons record rest ih =>
    rw [List.cons_append, refused, ih, refused, List.append_assoc, List.singleton_append,
      Nat.add_assoc]

theorem refused_eq_of_length (h : sink.ByCount) {earlier earlier' records records' : List Record}
    (hearlier : earlier.length = earlier'.length) (hrecords : records.length = records'.length) :
    sink.refused earlier records = sink.refused earlier' records' := by
  induction records generalizing earlier earlier' records' with
  | nil =>
    obtain rfl : records' = [] := List.eq_nil_of_length_eq_zero hrecords.symm
    rfl
  | cons record rest ih =>
    cases records' with
    | nil => simp at hrecords
    | cons record' rest' =>
      have hnext : (earlier ++ [record]).length = (earlier' ++ [record']).length := by
        simpa using hearlier
      rw [refused, refused, h earlier earlier' record record' hearlier,
        ih hnext (by simpa using hrecords)]

end Sink

namespace Flight

variable (responder : Responder)

theorem text_render (call : Call) : (render responder call).1 =
    Responder.shown call.page (responder.rendering? call.classification call.page) := by
  unfold render Responder.rendering?
  cases responder.renderer with
  | none => rfl
  | some renderer =>
    simp only [Option.map_some]
    rcases renderer call.classification.template call.page with ⟨text, _ | e | _⟩ <;> rfl

theorem records_render (call : Call) :
    (render responder call).2.flatMap (Task.records responder call) =
      Responder.unrendered call.context call.classification
        (responder.rendering? call.classification call.page) := by
  unfold render Responder.rendering?
  cases responder.renderer with
  | none => rfl
  | some renderer =>
    simp only [Option.map_some]
    rcases renderer call.classification.template call.page with ⟨text, _ | e | _⟩ <;> rfl

/-- Nothing, one count, or one count and one record to hand over. -/
theorem tasks_render (call : Call) :
    (render responder call).2 = [] ∨
    (∃ reason, (render responder call).2 = [.count (.fallbacks reason)]) ∨
    ∃ reason record, (render responder call).2 = [.count (.fallbacks reason), .offer record] := by
  unfold render
  cases responder.renderer with
  | none => exact .inr (.inl ⟨_, rfl⟩)
  | some renderer =>
    dsimp only
    rcases renderer call.classification.template call.page with ⟨text, _ | e | _⟩
    · exact .inl rfl
    · exact .inr (.inr ⟨_, _, rfl⟩)
    · exact .inr (.inr ⟨_, _, rfl⟩)

theorem weight_render (call : Call) : ((render responder call).2.map Task.weight).sum ≤ 3 := by
  obtain h | ⟨_, h⟩ | ⟨_, _, h⟩ := tasks_render responder call <;> simp [h, Task.weight]

theorem refusals_render (call : Call) :
    ((render responder call).2.map Task.refusals).sum = 0 := by
  obtain h | ⟨_, h⟩ | ⟨_, _, h⟩ := tasks_render responder call <;> simp [h, Task.refusals]

def pending (flight : Flight) : List Record :=
  flight.tasks.flatMap (Task.records responder flight.call)

def weight (flight : Flight) : Nat := (flight.tasks.map Task.weight).sum

def refusals (flight : Flight) : Nat := (flight.tasks.map Task.refusals).sum

/-- The text of the page is there once there is no task left to make it. -/
def Shows (flight : Flight) : Prop :=
  .render ∈ flight.tasks ∨
    flight.text = Responder.shown flight.call.page
      (responder.rendering? flight.call.classification flight.call.page)

/-- What the next task gives the sink. -/
def handed (flight : Flight) : List Record :=
  match flight.tasks with
  | .offer record :: _ => [record]
  | _ => []

/-- What a turn does to a call and to the journal. -/
structure Moves (before : Flight) (journal : Journal) (after : Flight) (journal' : Journal) :
    Prop where
  call : after.call = before.call
  shows : before.Shows responder → after.Shows responder
  weight : after.weight ≤ before.weight - 1
  pending : before.pending responder = before.handed ++ after.pending responder
  offered : journal'.offered = journal.offered ++ before.handed
  kept : responder.sink.KeepsAll → journal'.kept = journal.kept ++ before.handed
  dropped : journal'.dropped + after.refusals =
    journal.dropped + before.refusals + responder.sink.refused journal.offered before.handed

theorem moves_offer (call : Call) (record : Record) (rest : List Task) (text : String)
    (journal : Journal) :
    Moves responder ⟨call, .offer record :: rest, text⟩ journal
      ⟨call, (responder.sink.offer record journal).1.tasks ++ rest, text⟩
      (responder.sink.offer record journal).2 := by
  have houtcome : (responder.sink.offer record journal).1 =
      (responder.sink.react journal.offered record).outcome := rfl
  refine ⟨rfl, ?_, ?_, ?_, ?_, fun hkeeps => ?_, ?_⟩
  · exact Or.imp_left fun h => List.mem_append_right _ (by simpa using h)
  · have hweight := (responder.sink.offer record journal).1.weight_tasks
    simp only [weight, List.map_append, List.sum_append, List.map_cons, List.sum_cons, Task.weight]
    omega
  · simp [pending, handed, Task.records, SinkOutcome.records_tasks]
  · exact responder.sink.offered_offer record journal
  · rw [responder.sink.kept_offer record journal, hkeeps, if_pos rfl, handed]
  · rw [responder.sink.dropped_offer record journal, houtcome]
    simp only [refusals, handed, Task.refusals, Sink.refused, List.map_append, List.sum_append,
      SinkOutcome.refusals_tasks, List.map_cons, List.sum_cons]
    omega

theorem moves_step (flight : Flight) (journal : Journal) :
    Moves responder flight journal (flight.step responder journal).1
      (flight.step responder journal).2 := by
  obtain ⟨call, tasks, text⟩ := flight
  -- Of the tasks only an offer gives the sink a record.
  have hsame (journal : Journal) : journal.offered = journal.offered ++ [] ∧
      (responder.sink.KeepsAll → journal.kept = journal.kept ++ []) := by simp
  cases tasks with
  | nil => exact ⟨rfl, id, Nat.zero_le _, rfl, (hsame _).1, (hsame _).2, rfl⟩
  | cons task rest =>
    cases task with
    | offer record => exact moves_offer responder call record rest text journal
    | refuse note =>
      refine ⟨rfl, ?_, ?_, ?_, (hsame _).1, (hsame _).2, ?_⟩
      · exact Or.imp_left fun h => by simpa [step] using h
      · simp [step, weight, Task.weight]
      · simp [step, pending, handed, Task.records]
      · simp only [step, refusals, handed, Journal.drop, Journal.bump, Journal.emit, List.map_cons,
          List.sum_cons, Task.refusals, Sink.refused]
        omega
    | count counter =>
      refine ⟨rfl, ?_, ?_, ?_, (hsame _).1, (hsame _).2, ?_⟩
      · exact Or.imp_left fun h => by simpa [step] using h
      · simp [step, weight, Task.weight]
      · simp [step, pending, handed, Task.records]
      · simp [step, refusals, handed, Task.refusals, Sink.refused, Journal.bump]
    | render =>
      refine ⟨rfl, fun _ => .inr ?_, ?_, ?_, (hsame _).1, (hsame _).2, ?_⟩
      · exact text_render responder call
      · have hweight := weight_render responder call
        simp only [step, weight, List.map_append, List.sum_append, List.map_cons, List.sum_cons,
          Task.weight]
        omega
      · simp [step, pending, handed, Task.records, records_render]
      · simp [step, refusals, handed, Task.refusals, Sink.refused, refusals_render]

theorem pending_start (call : Call) : (start call).pending responder = call.records responder := by
  simp [start, pending, Task.records, Call.records, Responder.records, Call.record, Call.page]

theorem weight_pos {flight : Flight} (h : flight.tasks ≠ []) : 0 < flight.weight := by
  obtain ⟨task, rest, htasks⟩ := List.exists_cons_of_ne_nil h
  have htask : 0 < task.weight := by cases task <;> simp [Task.weight]
  simp only [weight, htasks, List.map_cons, List.sum_cons]
  omega

theorem response?_isSome {flight : Flight} : flight.response?.isSome ↔ flight.tasks = [] := by
  unfold response?
  split <;> simp_all

/-- A call that returns does so with the response that it has alone. -/
theorem response_of_shows {flight : Flight} (hshows : flight.Shows responder) {response : Response}
    (h : flight.response? = some response) (journal : Journal) :
    response = (flight.call.alone responder journal).1 := by
  have htasks : flight.tasks = [] := response?_isSome.1 (by simp [h])
  have htext := hshows.resolve_left (by simp [htasks])
  simp only [response?, htasks, List.isEmpty_nil, if_true, Option.some.injEq] at h
  rw [← h, htext, Call.alone, Responder.respond_eq]
  simp only [Responder.body_fst]
  rfl

end Flight

namespace Traffic

variable (responder : Responder)

/-- A call that has all the turns goes on from one state to another. -/
def Alone (flight : Flight) (journal : Journal) (flight' : Flight) (journal' : Journal) : Prop :=
  ∃ n, run responder ⟨[flight], journal, []⟩ (.replicate n (.call 0)) = ⟨[flight'], journal', []⟩

theorem Alone.trans {responder : Responder} {flight flight' flight'' : Flight}
    {journal journal' journal'' : Journal}
    (h : Alone responder flight journal flight' journal')
    (h' : Alone responder flight' journal' flight'' journal'') :
    Alone responder flight journal flight'' journal'' := by
  obtain ⟨n, hn⟩ := h
  obtain ⟨n', hn'⟩ := h'
  refine ⟨n + n', ?_⟩
  rw [← List.replicate_append_replicate, run, List.foldl_append]
  rw [run] at hn
  rw [hn]
  exact hn'

theorem alone_step (flight : Flight) (journal : Journal) :
    Alone responder flight journal (flight.step responder journal).1
      (flight.step responder journal).2 :=
  ⟨1, rfl⟩

theorem alone_offer (call : Call) (record : Record) (rest : List Task) (text : String)
    (journal : Journal) :
    Alone responder ⟨call, .offer record :: rest, text⟩ journal ⟨call, rest, text⟩
      (responder.sink.log record journal) := by
  have hoffer := alone_step responder ⟨call, .offer record :: rest, text⟩ journal
  simp only [Flight.step] at hoffer
  unfold Sink.log
  split <;> rename_i heq <;> rw [heq] at hoffer
  · exact hoffer
  · exact hoffer.trans (alone_step responder _ _)
  · exact hoffer.trans (alone_step responder _ _)

theorem alone_render (call : Call) (journal : Journal) :
    Alone responder ⟨call, [.render], ""⟩ journal
      ⟨call, [], Responder.shown call.page (responder.rendering? call.classification call.page)⟩
      (responder.body call.context call.classification call.page journal).2 := by
  have hrender := alone_step responder ⟨call, [.render], ""⟩ journal
  simp only [Flight.step] at hrender
  unfold Flight.render at hrender
  unfold Responder.body Responder.rendering?
  cases hrenderer : responder.renderer with
  | none =>
    simp only [hrenderer] at hrender
    exact hrender.trans (alone_step responder _ _)
  | some renderer =>
    simp only [hrenderer] at hrender
    simp only [Option.map_some]
    generalize renderer call.classification.template call.page = rendering at hrender ⊢
    rcases rendering with ⟨text, _ | e | _⟩
    · exact hrender
    · exact (hrender.trans (alone_step responder _ _)).trans (alone_offer responder _ _ _ _ _)
    · exact (hrender.trans (alone_step responder _ _)).trans (alone_offer responder _ _ _ _ _)

theorem alone_start (call : Call) (journal : Journal) :
    Alone responder (.start call) journal
      ⟨call, [], Responder.shown call.page (responder.rendering? call.classification call.page)⟩
      (call.alone responder journal).2 :=
  ((alone_offer responder call call.record _ "" journal).trans (alone_step responder _ _)).trans
    (alone_render responder call _)

/-- With nothing else going on, the tasks of a call add up to its response and to what it leaves in
the journal. -/
theorem exists_run_alone (call : Call) (journal : Journal) :
    ∃ n, let traffic := (start [call] journal).run responder (.replicate n (.call 0))
      traffic.response? 0 = some (call.alone responder journal).1 ∧
      traffic.journal = (call.alone responder journal).2 := by
  obtain ⟨n, hn⟩ := alone_start responder call journal
  refine ⟨n, ?_⟩
  have hrun : (start [call] journal).run responder (.replicate n (.call 0)) = _ := hn
  rw [hrun, Call.alone, Responder.respond_eq]
  refine ⟨?_, rfl⟩
  simp only [Responder.body_fst]
  rfl

/-- Each call has given the sink the records of a row, and those that it is still to give follow. -/
def Parted (flights : List Flight) (rows : List (List Record)) : Prop :=
  ∀ (i : Nat) (flight : Flight) (row : List Record), flights[i]? = some flight →
    rows[i]? = some row → row ++ flight.pending responder = flight.call.records responder

theorem Parted.set {responder : Responder} {flights : List Flight} {rows : List (List Record)}
    (h : Parted responder flights rows) {i : Nat} {flight flight' : Flight}
    {row row' : List Record} (hflight : flights[i]? = some flight) (hrow : rows[i]? = some row)
    (hnew : row' ++ flight'.pending responder = flight'.call.records responder) :
    Parted responder (flights.set i flight') (rows.set i row') := by
  intro j other otherRow hother hotherRow
  rw [getElem?_set_of_getElem? hflight] at hother
  rw [getElem?_set_of_getElem? hrow] at hotherRow
  by_cases hij : i = j
  · simp only [hij, if_true, Option.some.injEq] at hother hotherRow
    rw [← hother, ← hotherRow, hnew]
  · rw [if_neg hij] at hother hotherRow
    exact h j other otherRow hother hotherRow

/-- How far calls have come that set out together from a journal: each has given the sink one row of
records, and all rows together are what the sink was given. -/
structure Reaches (calls : List Call) (journal : Journal) (rows : List (List Record))
    (merged : List Record) (traffic : Traffic) : Prop where
  interleaves : Interleaves rows merged
  length_rows : rows.length = calls.length
  calls : ∀ i : Nat, traffic.flights[i]?.map Flight.call = calls[i]?
  shows : ∀ flight ∈ traffic.flights, flight.Shows responder
  parted : Parted responder traffic.flights rows
  offered : traffic.journal.offered = journal.offered ++ merged
  kept : responder.sink.KeepsAll →
    traffic.taken ++ traffic.journal.kept = journal.kept ++ merged
  dropped : traffic.journal.dropped + (traffic.flights.map Flight.refusals).sum =
    journal.dropped + responder.sink.refused journal.offered merged

theorem reaches_start (calls : List Call) (journal : Journal) :
    Reaches responder calls journal (.replicate calls.length []) [] (start calls journal) := by
  refine ⟨.empty _, by simp, ?_, ?_, ?_, by simp [start], fun _ => by simp [start], ?_⟩
  · intro i
    simp [start, Function.comp_def, Flight.start]
  · intro flight hflight
    obtain ⟨call, -, rfl⟩ := List.mem_map.1 hflight
    exact .inl (by simp [Flight.start])
  · intro i flight row hflight hrow
    obtain ⟨call, -, rfl⟩ : ∃ call, calls[i]? = some call ∧ Flight.start call = flight := by
      simpa [start] using hflight
    obtain rfl : row = [] := List.eq_of_mem_replicate (List.mem_of_getElem? hrow)
    exact Flight.pending_start responder call
  · have hnone : calls.map (Flight.refusals ∘ Flight.start) = List.replicate calls.length 0 :=
      List.map_const'
    simp [start, hnone, Sink.refused]

variable {responder} {calls : List Call} {journal : Journal}
  {rows : List (List Record)} {merged : List Record} {traffic : Traffic}

/-- Someone takes the records. -/
theorem Reaches.take (h : Reaches responder calls journal rows merged traffic) :
    Reaches responder calls journal rows merged (traffic.step responder .take) where
  interleaves := h.interleaves
  length_rows := h.length_rows
  calls := h.calls
  shows := h.shows
  parted := h.parted
  offered := h.offered
  kept hkeeps := by simpa [step, Journal.take] using h.kept hkeeps
  dropped := h.dropped

theorem Reaches.exists_row (h : Reaches responder calls journal rows merged traffic) {i : Nat}
    {flight : Flight} (hflight : traffic.flights[i]? = some flight) : ∃ row, rows[i]? = some row := by
  have hcall : calls[i]? = some flight.call := by simpa [hflight] using (h.calls i).symm
  refine ⟨_, List.getElem?_eq_getElem ?_⟩
  rw [h.length_rows]
  exact (List.getElem?_eq_some_iff.1 hcall).1

/-- A turn of a call. -/
theorem Reaches.turn (h : Reaches responder calls journal rows merged traffic) {i : Nat}
    {flight : Flight} (hflight : traffic.flights[i]? = some flight) :
    ∃ rows' merged',
      Reaches responder calls journal rows' merged' (traffic.step responder (.call i)) := by
  obtain ⟨flights, current, taken⟩ := traffic
  simp only at hflight
  have hmoves := Flight.moves_step responder flight current
  simp only [step, hflight]
  generalize (flight.step responder current).1 = flight' at hmoves ⊢
  generalize (flight.step responder current).2 = current' at hmoves ⊢
  have hcalls : ∀ j : Nat, (flights.set i flight')[j]?.map Flight.call = calls[j]? := by
    intro j
    rw [getElem?_set_of_getElem? hflight, ← h.calls j]
    split
    · subst j
      simp [hflight, hmoves.call]
    · rfl
  have hshows : ∀ other ∈ flights.set i flight', other.Shows responder := by
    intro other hother
    obtain hother | rfl := List.mem_or_eq_of_mem_set hother
    · exact h.shows other hother
    · exact hmoves.shows (h.shows flight (List.mem_of_getElem? hflight))
  have hrefusals := sum_map_set Flight.refusals hflight flight'
  have hdropped := h.dropped
  simp only at hdropped
  obtain ⟨row, hrow⟩ := h.exists_row hflight
  refine ⟨rows.set i (row ++ flight.handed), merged ++ flight.handed,
    h.interleaves.append hrow flight.handed, ?_, hcalls, hshows, h.parted.set hflight hrow ?_,
    ?_, ?_, ?_⟩
  · rw [List.length_set, h.length_rows]
  · rw [hmoves.call, ← h.parted i flight row hflight hrow, hmoves.pending, List.append_assoc]
  · rw [hmoves.offered, h.offered, List.append_assoc]
  · intro hkeeps
    rw [hmoves.kept hkeeps, ← List.append_assoc, h.kept hkeeps, List.append_assoc]
  · have hcurrent := hmoves.dropped
    rw [Sink.refused_append, ← h.offered]
    simp only
    omega

theorem Reaches.rows_of_returned (h : Reaches responder calls journal rows merged traffic)
    (hreturned : traffic.Returned) : rows = calls.map (Call.records responder) := by
  refine List.ext_getElem? fun i => ?_
  rw [List.getElem?_map, ← h.calls i]
  cases hflight : traffic.flights[i]? with
  | none =>
    have hcall : calls[i]? = none := by simpa [hflight] using (h.calls i).symm
    rw [List.getElem?_eq_none_iff] at hcall
    exact List.getElem?_eq_none (h.length_rows ▸ hcall)
  | some flight =>
    obtain ⟨row, hrow⟩ := h.exists_row hflight
    have hparted := h.parted i flight row hflight hrow
    rw [Flight.pending, hreturned flight (List.mem_of_getElem? hflight)] at hparted
    simpa [hrow] using hparted

theorem Reaches.dropped_of_returned (h : Reaches responder calls journal rows merged traffic)
    (hreturned : traffic.Returned) : traffic.journal.dropped =
      journal.dropped + responder.sink.refused journal.offered merged := by
  have hnone : traffic.flights.map Flight.refusals = List.replicate traffic.flights.length 0 := by
    rw [← List.map_const']
    exact List.map_congr_left fun flight hflight => by
      rw [Flight.refusals, hreturned flight hflight, List.map_nil, List.sum_nil]
  simpa [hnone] using h.dropped

theorem Reaches.exists_flight (h : Reaches responder calls journal rows merged traffic) {i : Nat}
    {call : Call} (hcall : calls[i]? = some call) :
    ∃ flight, traffic.flights[i]? = some flight ∧ flight.call = call := by
  simpa [hcall] using h.calls i

theorem Reaches.row_of_call (h : Reaches responder calls journal rows merged traffic)
    (hkeeps : responder.sink.KeepsAll) {i : Nat} {call : Call} {row : List Record}
    (hcall : calls[i]? = some call) (hrow : rows[i]? = some row) :
    row <+: (call.alone responder {}).2.kept ∧
      ((traffic.response? i).isSome → row = (call.alone responder {}).2.kept) := by
  have hown : (call.alone responder {}).2.kept = call.records responder :=
    responder.kept_respond call.context call.classification call.detail {} hkeeps
  obtain ⟨flight, hflight, rfl⟩ := h.exists_flight hcall
  have hparted := h.parted i flight row hflight hrow
  rw [hown, ← hparted]
  refine ⟨List.prefix_append _ _, fun hreturned => ?_⟩
  rw [response?, hflight, Option.bind_some, Flight.response?_isSome] at hreturned
  rw [Flight.pending, hreturned, List.flatMap_nil, List.append_nil]

variable (responder)

theorem reaches_run (calls : List Call) (journal : Journal) (turns : List Turn) :
    ∃ rows merged,
      Reaches responder calls journal rows merged ((start calls journal).run responder turns) := by
  suffices hrun : ∀ traffic rows merged, Reaches responder calls journal rows merged traffic →
      ∃ rows merged, Reaches responder calls journal rows merged (traffic.run responder turns) from
    hrun _ _ _ (reaches_start responder calls journal)
  induction turns with
  | nil => exact fun traffic rows merged h => ⟨rows, merged, h⟩
  | cons turn turns ih =>
    intro traffic rows merged h
    rw [run, List.foldl_cons]
    cases turn with
    | take => exact ih _ _ _ h.take
    | call i =>
      cases hflight : traffic.flights[i]? with
      | none => exact ih _ rows merged (by simpa only [step, hflight] using h)
      | some flight =>
        obtain ⟨rows', merged', h'⟩ := h.turn hflight
        exact ih _ _ _ h'

/-- Each turn of a call brings it nearer to its end, and no other turn matters to it. -/
theorem weight_step {i : Nat} {flight : Flight} (hflight : traffic.flights[i]? = some flight)
    (turn : Turn) :
    ∃ flight', (traffic.step responder turn).flights[i]? = some flight' ∧
      flight'.weight ≤ flight.weight - [turn].count (.call i) := by
  cases turn with
  | take => exact ⟨flight, hflight, by simp⟩
  | call j =>
    by_cases hij : j = i
    · subst j
      refine ⟨(flight.step responder traffic.journal).1, ?_, ?_⟩
      · simp [step, hflight, getElem?_set_of_getElem? hflight]
      · simpa using (Flight.moves_step responder flight traffic.journal).weight
    · refine ⟨flight, ?_, by simp [hij]⟩
      cases hother : traffic.flights[j]? with
      | none => simpa only [step, hother] using hflight
      | some other => simpa [step, hother, getElem?_set_of_getElem? hother, hij] using hflight

theorem weight_run {i : Nat} {flight : Flight} (hflight : traffic.flights[i]? = some flight)
    (turns : List Turn) :
    ∃ flight', (traffic.run responder turns).flights[i]? = some flight' ∧
      flight'.weight ≤ flight.weight - turns.count (.call i) := by
  induction turns generalizing traffic flight with
  | nil => exact ⟨flight, hflight, by simp⟩
  | cons turn turns ih =>
    obtain ⟨next, hnext, hstep⟩ := weight_step responder hflight turn
    obtain ⟨last, hlast, hrest⟩ := ih hnext
    refine ⟨last, hlast, ?_⟩
    rw [← List.singleton_append, List.count_append]
    omega

/-- Seven turns are enough for a call: three tasks, of which one may leave two more, and a record may
be refused twice. -/
theorem response?_isSome_of_turns (journal : Journal) {i : Nat} {call : Call} (hcall : calls[i]? = some call)
    {turns : List Turn} (hturns : 7 ≤ turns.count (.call i)) :
    (((start calls journal).run responder turns).response? i).isSome := by
  have hstart : (start calls journal).flights[i]? = some (.start call) := by simp [start, hcall]
  obtain ⟨flight, hflight, hweight⟩ := weight_run responder hstart turns
  have hseven : (Flight.start call).weight = 7 := rfl
  rw [response?, hflight, Option.bind_some, Flight.response?_isSome]
  exact Decidable.of_not_not fun htasks => by
    have hpos := Flight.weight_pos htasks
    omega

theorem returned_of_turns {turns : List Turn}
    (hturns : ∀ i < calls.length, 7 ≤ turns.count (.call i)) :
    ((start calls journal).run responder turns).Returned := by
  obtain ⟨rows, merged, hreaches⟩ := reaches_run responder calls journal turns
  intro flight hflight
  obtain ⟨i, hi⟩ := List.mem_iff_getElem?.1 hflight
  have hcall : calls[i]? = some flight.call := by simpa [hi] using (hreaches.calls i).symm
  have hreturned := response?_isSome_of_turns responder journal hcall
    (hturns i (List.getElem?_eq_some_iff.1 hcall).1)
  rwa [response?, hi, Option.bind_some, Flight.response?_isSome] at hreturned

/-- In whatever order the turns come: a call that has had seven of them has returned, and each one
returns the response that it has alone. With a sink that keeps every record, the records taken so far
and those still there are a merger of one row for each call, the first of the records that the call
leaves alone, and all of them once it has returned. And with a sink that only counts, two orders in
which all calls return leave the same number of records that were not taken. -/
theorem run_undisturbed (responder : Responder) (calls : List Call) (journal : Journal)
    (turns : List Turn) :
    let traffic := (start calls journal).run responder turns
    (∀ (i : Nat) (call : Call), calls[i]? = some call →
      (7 ≤ turns.count (.call i) → (traffic.response? i).isSome) ∧
      ∀ response, traffic.response? i = some response →
        ∀ other, response = (call.alone responder other).1) ∧
    (responder.sink.KeepsAll → ∃ rows merged, Interleaves rows merged ∧
      rows.length = calls.length ∧
      traffic.taken ++ traffic.journal.kept = journal.kept ++ merged ∧
      ∀ (i : Nat) (call : Call) (row : List Record), calls[i]? = some call → rows[i]? = some row →
        row <+: (call.alone responder {}).2.kept ∧
        ((traffic.response? i).isSome → row = (call.alone responder {}).2.kept)) ∧
    (responder.sink.ByCount → ∀ turns' : List Turn,
      let traffic' := (start calls journal).run responder turns'
      traffic.Returned → traffic'.Returned → traffic'.journal.dropped = traffic.journal.dropped) := by
  intro traffic
  obtain ⟨rows, merged, hreaches⟩ := reaches_run responder calls journal turns
  refine ⟨fun i call hcall => ⟨fun hturns => ?_, fun response hresponse other => ?_⟩,
    fun hkeeps => ?_, fun hcount turns' => ?_⟩
  · exact response?_isSome_of_turns responder journal hcall hturns
  · obtain ⟨flight, hflight, rfl⟩ := hreaches.exists_flight hcall
    rw [response?, hflight, Option.bind_some] at hresponse
    exact Flight.response_of_shows responder
      (hreaches.shows flight (List.mem_of_getElem? hflight)) hresponse other
  · exact ⟨rows, merged, hreaches.interleaves, hreaches.length_rows, hreaches.kept hkeeps,
      fun i call row hcall hrow => hreaches.row_of_call hkeeps hcall hrow⟩
  · intro traffic' hreturned hreturned'
    obtain ⟨rows', merged', hreaches'⟩ := reaches_run responder calls journal turns'
    have hlength : merged'.length = merged.length := by
      rw [hreaches'.interleaves.length_eq, hreaches.interleaves.length_eq,
        hreaches'.rows_of_returned hreturned', hreaches.rows_of_returned hreturned]
    rw [hreaches'.dropped_of_returned hreturned', hreaches.dropped_of_returned hreturned,
      responder.sink.refused_eq_of_length hcount rfl hlength]

/-- Two calls whose pages cannot be rendered, and a sink that keeps every record but panics at every second
one. The calls take turns while records are taken, or go one after the other. -/
theorem run_undisturbed_two_calls :
    let responder : Responder :=
      ⟨.script [.keep, .keepThenPanic], some fun _ _ => ⟨"<h1>", .failed .write⟩⟩
    let denied : Call := ⟨⟨.get, "/a", none, none⟩, .forbidden, {}⟩
    let broken : Call := ⟨⟨.get, "/b", none, none⟩, .internalError,
      { fields := .ofList [("user", .str "ada")] }⟩
    let inTurn : List Turn :=
      (List.range 20).map fun k => if k % 3 = 2 then .take else .call (k % 2)
    let inOrder : List Turn := .replicate 7 (.call 1) ++ .replicate 7 (.call 0)
    ((start [denied, broken]).run responder inTurn).response? 1 =
      some (broken.alone responder {}).1 ∧
    (∃ merged, Interleaves [(denied.alone responder {}).2.kept, (broken.alone responder {}).2.kept]
        merged ∧
      ((start [denied, broken]).run responder inTurn).taken ++
        ((start [denied, broken]).run responder inTurn).journal.kept = merged) ∧
    ((start [denied, broken]).run responder inOrder).journal.dropped =
      ((start [denied, broken]).run responder inTurn).journal.dropped := by
  intro responder denied broken inTurn inOrder
  obtain ⟨hcalls, hrecords, hdropped⟩ := run_undisturbed responder [denied, broken] {} inTurn
  have hturns : ∀ i < 2, 7 ≤ inTurn.count (.call i) := by decide
  have horder : ∀ i < 2, 7 ≤ inOrder.count (.call i) := by decide
  have hkeeps : responder.sink.KeepsAll := by
    intro earlier record
    change ([Reaction.keep, .keepThenPanic].getD (earlier.length % 2) .keep).keeps = true
    obtain h | h := Nat.mod_two_eq_zero_or_one earlier.length <;> rw [h] <;> rfl
  have hcount : responder.sink.ByCount := Sink.byCount_script [.keep, .keepThenPanic]
  have hreturned : ((start [denied, broken]).run responder inTurn).Returned :=
    returned_of_turns responder hturns
  have hreturned' : ((start [denied, broken]).run responder inOrder).Returned :=
    returned_of_turns responder horder
  refine ⟨?_, ?_, hdropped hcount inOrder hreturned hreturned'⟩
  · obtain ⟨hreturns, hresponse⟩ := hcalls 1 broken rfl
    obtain ⟨response, hsome⟩ := Option.isSome_iff_exists.1 (hreturns (hturns 1 (by decide)))
    rw [hsome, hresponse response hsome {}]
  · obtain ⟨rows, merged, hrows, hlength, hkept, hrow⟩ := hrecords hkeeps
    obtain ⟨first, second, rfl⟩ : ∃ first second, rows = [first, second] :=
      match rows, hlength with | [first, second], _ => ⟨first, second, rfl⟩
    have hfirst := (hrow 0 denied first rfl rfl).2 ((hcalls 0 denied rfl).1 (hturns 0 (by decide)))
    have hsecond := (hrow 1 broken second rfl rfl).2 ((hcalls 1 broken rfl).1 (hturns 1 (by decide)))
    rw [← hfirst, ← hsecond]
    exact ⟨merged, hrows, hkept⟩

end Traffic

end ErrorPages
