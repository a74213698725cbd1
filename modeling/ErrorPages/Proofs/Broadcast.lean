import ErrorPages.Broadcast

/-! What the receivers of a stop channel are told. To a receiver the channel is no more than the
coordinators that are left and the number of signals that wait for it: its cursor is behind the tail by
that number. So neither the one place of the buffer nor the other receivers show in what it is told. -/

namespace ErrorPages.Broadcast

def after (channel : Broadcast) (steps : List Step) : Broadcast :=
  steps.foldl (fun channel step => (channel.step step).2) channel

/-- What a receiver is told in the course of the steps. -/
def told (id : String) (channel : Broadcast) : List Step → List Reply
  | [] => []
  | step :: steps =>
    let rest := told id (channel.step step).2 steps
    if step = .receive id then (channel.step step).1 :: rest else rest

/-- The receiver that a step makes, asks or drops. -/
def Step.receiver? : Step → Option String
  | .subscribe id _ => some id
  | .receive id => some id
  | .dropReceiver id => some id
  | _ => none

/-- Whether a step is not one of another receiver. -/
def Step.concerns (id : String) (step : Step) : Bool := step.receiver?.all (· = id)

/-- The channel as one receiver knows it: the coordinators that are left, and how many signals wait for
the receiver while there is one. -/
structure View where
  coordinators : List String
  pending : Option Nat := none

namespace View

/-- What is told to a receiver for which so many signals wait, and how many are left then. -/
def answer (view : View) : Nat → Received × Nat
  | 0 => (if view.coordinators.isEmpty then .closed else .empty, 0)
  | 1 => (.signal, 0)
  | missed + 2 => (.lagged (missed + 1), 1)

def reply (view : View) : Reply :=
  match view.pending with
  | none => .noReceiver
  | some pending => .received (view.answer pending).1

def step (id : String) (view : View) : Step → View
  | .subscribe other coordinator =>
    if coordinator ∈ view.coordinators ∧ other = id then { view with pending := some 0 } else view
  | .trigger coordinator =>
    if coordinator ∈ view.coordinators then { view with pending := view.pending.map (· + 1) }
    else view
  | .clone other coordinator =>
    if coordinator ∈ view.coordinators then
      { view with coordinators := other :: view.coordinators.filter (· ≠ other) }
    else view
  | .count _ => view
  | .receive other =>
    if other = id then
      { view with pending := view.pending.map fun pending => (view.answer pending).2 }
    else view
  | .dropReceiver other => if other = id then { view with pending := none } else view
  | .dropCoordinator other =>
    { view with coordinators := view.coordinators.filter (· ≠ other) }

def after (id : String) (view : View) (steps : List Step) : View := steps.foldl (step id) view

/-- What the receiver is told in the course of the steps, going by what it knows. -/
def told (id : String) (view : View) : List Step → List Reply
  | [] => []
  | step :: steps =>
    let rest := told id (view.step id step) steps
    if step = .receive id then view.reply :: rest else rest

end View

section Cursors

variable (channel : Broadcast) (id other : String)

theorem lookup_filter_ne (cursors : List (String × Nat)) :
    (cursors.filter (·.1 ≠ id)).lookup other = if other = id then none else cursors.lookup other := by
  induction cursors with
  | nil => simp
  | cons entry rest ih =>
    obtain ⟨name, cursor⟩ := entry
    by_cases hname : name = id
    · rw [List.filter_cons_of_neg (by simpa using hname), ih, List.lookup_cons]
      by_cases hother : other = id
      · simp [hother]
      · have hne : (other == name) = false := by simpa [hname] using hother
        simp [hother, hne]
    · rw [List.filter_cons_of_pos (by simpa using hname), List.lookup_cons, List.lookup_cons, ih]
      by_cases hother : other = id
      · have hne : (id == name) = false := by simpa using Ne.symm hname
        simp [hother, hne]
      · simp [hother]

theorem lookup_setCursor (cursor : Nat) : (channel.setCursor id cursor).cursors.lookup other =
    if other = id then some cursor else channel.cursors.lookup other := by
  rw [setCursor, List.lookup_cons, lookup_filter_ne]
  by_cases hother : other = id
  · simp [hother]
  · have hne : (other == id) = false := by simpa using hother
    simp [hother, hne]

theorem View.answer_snd_le (view : View) (n : Nat) : (view.answer n).2 ≤ n := by
  match n with
  | 0 => exact Nat.le_refl 0
  | 1 => exact Nat.zero_le 1
  | missed + 2 => exact Nat.succ_le_succ (Nat.zero_le _)

/-- A receiver is told of the signals by which its cursor is behind the tail. -/
theorem receiveAt_eq {view : View} (hview : view.coordinators = channel.coordinators) {cursor : Nat}
    (hcursor : cursor ≤ channel.tail) :
    channel.receiveAt cursor =
      ((view.answer (channel.tail - cursor)).1,
        channel.tail - (view.answer (channel.tail - cursor)).2) := by
  obtain ⟨pending, htail⟩ := Nat.exists_eq_add_of_le hcursor
  rw [htail, Nat.add_sub_cancel_left]
  unfold receiveAt
  rw [htail]
  match pending with
  | 0 => simp [View.answer, hview]
  | 1 => simp [View.answer]
  | missed + 2 =>
    have htold : cursor ≠ cursor + (missed + 2) := by omega
    have hheld : cursor ≠ cursor + (missed + 2) - 1 := by omega
    have hmissed : cursor + (missed + 2) - 1 - cursor = missed + 1 := by omega
    simp only [if_neg htold, if_neg hheld, hmissed, View.answer]

end Cursors

/-- The view shows the channel: the cursor of the receiver is behind the tail by the number of the
signals that wait for it. -/
structure Sees (id : String) (channel : Broadcast) (view : View) : Prop where
  coordinators : view.coordinators = channel.coordinators
  pending : view.pending = (channel.cursors.lookup id).map (channel.tail - ·)
  le_tail : ∀ cursor, channel.cursors.lookup id = some cursor → cursor ≤ channel.tail

theorem sees_start (id coordinator : String) :
    Sees id (start coordinator) { coordinators := [coordinator] } :=
  ⟨rfl, rfl, nofun⟩

section Seeing

variable {id : String} {channel : Broadcast} {view : View} (h : Sees id channel view)

include h

theorem Sees.reply : (channel.step (.receive id)).1 = view.reply := by
  simp only [step, View.reply, h.pending]
  cases hcursor : channel.cursors.lookup id with
  | none => rfl
  | some cursor =>
    simp only [channel.receiveAt_eq h.coordinators (h.le_tail cursor hcursor), Option.map_some]

/-- A step that changes the cursor of one receiver and nothing else. -/
theorem Sees.move {channel' : Broadcast} {other : String} {cursor pending : Option Nat}
    (hcoordinators : channel'.coordinators = channel.coordinators)
    (htail : channel'.tail = channel.tail)
    (hlookup : channel'.cursors.lookup id =
      if id = other then cursor else channel.cursors.lookup id)
    (hpending : other = id → pending = cursor.map (channel.tail - ·))
    (hle : other = id → ∀ position, cursor = some position → position ≤ channel.tail) :
    Sees id channel' (if other = id then { view with pending } else view) := by
  by_cases hother : other = id
  · rw [if_pos hother.symm] at hlookup
    rw [if_pos hother]
    refine ⟨h.coordinators.trans hcoordinators.symm, ?_, fun position hposition => ?_⟩
    · rw [hlookup, htail, ← hpending hother]
    · rw [htail]
      exact hle hother position (hlookup.symm.trans hposition)
  · rw [if_neg (Ne.symm hother)] at hlookup
    rw [if_neg hother]
    refine ⟨h.coordinators.trans hcoordinators.symm, ?_, fun position hposition => ?_⟩
    · rw [hlookup, htail, h.pending]
    · rw [htail]
      exact h.le_tail position (hlookup.symm.trans hposition)

theorem Sees.subscribe (other : String) :
    Sees id (channel.subscribe other) (if other = id then { view with pending := some 0 } else view) :=
  h.move rfl rfl (channel.lookup_setCursor other id channel.tail)
    (fun _ => by rw [Option.map_some, Nat.sub_self]) fun _ _ hposition =>
    Nat.le_of_eq (Option.some.inj hposition).symm

theorem Sees.trigger :
    Sees id channel.trigger { view with pending := view.pending.map (· + 1) } := by
  unfold Broadcast.trigger
  split
  · next hnobody =>
    have hnone : channel.cursors.lookup id = none := by
      rw [List.isEmpty_iff.1 hnobody]
      rfl
    refine ⟨h.coordinators, ?_, h.le_tail⟩
    rw [h.pending, hnone]
    rfl
  · refine ⟨h.coordinators, ?_, fun cursor hcursor => Nat.le_succ_of_le (h.le_tail cursor hcursor)⟩
    cases hcursor : channel.cursors.lookup id with
    | none => simp [h.pending, hcursor]
    | some cursor =>
      have hle := h.le_tail cursor hcursor
      simp only [h.pending, hcursor, Option.map_some, Option.some.injEq]
      omega

theorem Sees.dropReceiver (other : String) :
    Sees id (channel.step (.dropReceiver other)).2
      (if other = id then { view with pending := none } else view) :=
  h.move rfl rfl (lookup_filter_ne other id channel.cursors) (fun _ => rfl) fun _ => nofun

theorem Sees.receive (other : String) :
    Sees id (channel.step (.receive other)).2 (view.step id (.receive other)) := by
  simp only [Broadcast.step, View.step]
  cases hcursor : channel.cursors.lookup other with
  | none =>
    -- there is no receiver of this name, so that nothing waits for it
    by_cases hother : other = id
    · have hnone : view.pending = none := by rw [h.pending, ← hother, hcursor]; rfl
      have hview : { view with pending := view.pending.map fun n => (view.answer n).2 } = view := by
        rw [hnone, Option.map_none, ← hnone]
      rw [if_pos hother, hview]
      exact h
    · rw [if_neg hother]
      exact h
  | some cursor =>
    have hmoved (hother : other = id) : channel.receiveAt cursor =
        ((view.answer (channel.tail - cursor)).1,
          channel.tail - (view.answer (channel.tail - cursor)).2) :=
      channel.receiveAt_eq h.coordinators (h.le_tail cursor (hother ▸ hcursor))
    refine h.move rfl rfl (channel.lookup_setCursor other id _) (fun hother => ?_)
      fun hother position hposition => ?_
    · have hle := h.le_tail cursor (hother ▸ hcursor)
      have hleft := view.answer_snd_le (channel.tail - cursor)
      rw [h.pending, ← hother, hcursor, hmoved hother]
      simp only [Option.map_some, Option.some.injEq]
      omega
    · rw [hmoved hother] at hposition
      exact Option.some.inj hposition ▸ Nat.sub_le ..

theorem Sees.step (step : Step) : Sees id (channel.step step).2 (view.step id step) := by
  obtain ⟨coordinators, pending⟩ := view
  obtain rfl : coordinators = channel.coordinators := h.coordinators
  cases step with
  | subscribe other coordinator =>
    simp only [Broadcast.step, View.step, through]
    by_cases hc : coordinator ∈ channel.coordinators
    · simpa [hc] using h.subscribe other
    · simpa [hc] using h
  | trigger coordinator =>
    simp only [Broadcast.step, View.step, through]
    by_cases hc : coordinator ∈ channel.coordinators
    · simpa [hc] using h.trigger
    · simpa [hc] using h
  | clone other coordinator =>
    simp only [Broadcast.step, View.step, through]
    split
    · exact ⟨rfl, h.pending, h.le_tail⟩
    · exact h
  | count coordinator =>
    simp only [Broadcast.step, View.step, through]
    split <;> exact h
  | receive other => exact h.receive other
  | dropReceiver other => exact h.dropReceiver other
  | dropCoordinator other => exact ⟨rfl, h.pending, h.le_tail⟩

theorem Sees.after (steps : List Step) : Sees id (channel.after steps) (view.after id steps) := by
  induction steps generalizing channel view with
  | nil => exact h
  | cons step steps ih => exact ih (h.step step)

theorem Sees.told (steps : List Step) : channel.told id steps = view.told id steps := by
  induction steps generalizing channel view with
  | nil => rfl
  | cons step steps ih =>
    rw [Broadcast.told, View.told, ih (h.step step)]
    split
    · next hreceive =>
      subst hreceive
      rw [h.reply]
    · rfl

end Seeing

namespace View

variable (id : String) (view : View)

/-- The steps of another receiver pass this one by. -/
theorem step_of_not_concerns {step : Step} (h : step.concerns id = false) :
    view.step id step = view := by
  cases step <;> simp_all [Step.concerns, Step.receiver?, View.step]

theorem told_filter (steps : List Step) :
    view.told id (steps.filter (·.concerns id)) = view.told id steps := by
  induction steps generalizing view with
  | nil => rfl
  | cons step steps ih =>
    cases hconcerns : step.concerns id with
    | true => rw [List.filter_cons_of_pos hconcerns, told, told, ih]
    | false =>
      have hother : step ≠ .receive id := by
        rintro rfl
        simp [Step.concerns, Step.receiver?] at hconcerns
      rw [List.filter_cons_of_neg (by simp [hconcerns]), ih, told, if_neg hother,
        view.step_of_not_concerns id hconcerns]

theorem exists_pending_step {waiting : Nat} (hpending : view.pending = some waiting) {step : Step}
    (hquiet : step.receiver? ≠ some id) :
    ∃ waiting', waiting ≤ waiting' ∧ (view.step id step).pending = some waiting' := by
  cases step with
  | trigger coordinator =>
    simp only [View.step]
    split
    · exact ⟨waiting + 1, Nat.le_succ waiting, by rw [hpending, Option.map_some]⟩
    · exact ⟨waiting, Nat.le_refl _, hpending⟩
  | clone other coordinator =>
    simp only [View.step]
    split <;> exact ⟨waiting, Nat.le_refl _, hpending⟩
  | count coordinator => exact ⟨waiting, Nat.le_refl _, hpending⟩
  | dropCoordinator other => exact ⟨waiting, Nat.le_refl _, hpending⟩
  | _ =>
    have hother : _ ≠ id := fun h => hquiet (congrArg some h)
    exact ⟨waiting, Nat.le_refl _, by simp [View.step, hother, hpending]⟩

/-- What waits for a receiver is not lost while the receiver itself does nothing. -/
theorem exists_pending_after {waiting : Nat} (hpending : view.pending = some waiting)
    {steps : List Step} (hquiet : ∀ step ∈ steps, step.receiver? ≠ some id) :
    ∃ waiting', waiting ≤ waiting' ∧ (view.after id steps).pending = some waiting' := by
  induction steps generalizing view waiting with
  | nil => exact ⟨waiting, Nat.le_refl _, hpending⟩
  | cons step steps ih =>
    obtain ⟨hstep, hsteps⟩ := List.forall_mem_cons.1 hquiet
    obtain ⟨next, hle, hnext⟩ := view.exists_pending_step id hpending hstep
    obtain ⟨last, hle', hlast⟩ := ih (view.step id step) hnext hsteps
    exact ⟨last, Nat.le_trans hle hle', hlast⟩

/-- With no coordinator left, the signal still comes, after word of those that were missed. -/
theorem told_of_closed (hclosed : view.coordinators = []) {missed : Nat}
    (hpending : view.pending = some (missed + 1)) :
    view.told id [.receive id, .receive id] =
      if missed = 0 then [.received .signal, .received .closed]
      else [.received (.lagged missed), .received .signal] := by
  cases missed with
  | zero => simp [told, step, reply, answer, hpending, hclosed]
  | succ missed => simp [told, step, reply, answer, hpending, hclosed]

end View

section Live

/-- The names of the receivers. -/
def live (channel : Broadcast) : List String := channel.cursors.map (·.1)

theorem nodup_filter_keys {cursors : List (String × Nat)} (h : (cursors.map (·.1)).Nodup)
    (id : String) : ((cursors.filter (·.1 ≠ id)).map (·.1)).Nodup :=
  h.sublist (List.filter_sublist.map _)

theorem nodup_setCursor {channel : Broadcast} (h : channel.live.Nodup) (id : String)
    (cursor : Nat) : (channel.setCursor id cursor).live.Nodup := by
  rw [live, setCursor, List.map_cons, List.nodup_cons]
  exact ⟨by simp, nodup_filter_keys h id⟩

/-- No two receivers have one name. -/
theorem nodup_step {channel : Broadcast} (h : channel.live.Nodup) (step : Step) :
    (channel.step step).2.live.Nodup := by
  cases step with
  | subscribe id coordinator =>
    simp only [Broadcast.step, through]
    split
    · exact nodup_setCursor h id channel.tail
    · exact h
  | trigger coordinator =>
    simp only [Broadcast.step, through, trigger]
    split
    · split <;> exact h
    · exact h
  | clone id coordinator => simp only [Broadcast.step, through]; split <;> exact h
  | count coordinator => simp only [Broadcast.step, through]; split <;> exact h
  | receive id =>
    simp only [Broadcast.step]
    split
    · exact h
    · exact nodup_setCursor h id _
  | dropReceiver id => exact nodup_filter_keys h id
  | dropCoordinator id => exact h

theorem nodup_after {channel : Broadcast} (h : channel.live.Nodup) (steps : List Step) :
    (channel.after steps).live.Nodup := by
  induction steps generalizing channel with
  | nil => exact h
  | cons step steps ih => exact ih (nodup_step h step)

theorem Sees.mem_iff {id : String} {channel : Broadcast} {view : View} (h : Sees id channel view) :
    id ∈ channel.live ↔ view.pending.isSome := by
  rw [live, h.pending, Option.isSome_map, List.lookup_isSome_iff, List.mem_map]
  exact exists_congr fun entry => and_congr_right fun _ => eq_comm.trans beq_iff_eq.symm

end Live

/-- In every run a receiver is told what the number of the signals that wait for it says. The receivers
are those that are live; a trigger that none of them is there for changes nothing; what one is told
does not depend on the steps of others; and what waits for it still comes when no coordinator is left. -/
theorem receive_by_pending (first : String) (steps : List Step) :
    let channel := (start first).after steps
    let view (id : String) := View.after id { coordinators := [first] } steps
    (∀ id, (channel.step (.receive id)).1 = (view id).reply) ∧
    (∃ live : List String, live.Nodup ∧ (∀ id, id ∈ live ↔ (view id).pending.isSome) ∧
      channel.receivers = live.length) ∧
    ((∀ id, (view id).pending = none) → ∀ coordinator,
      (channel.step (.trigger coordinator)).2 = channel) ∧
    (∀ id steps', steps'.filter (·.concerns id) = steps.filter (·.concerns id) →
      (start first).told id steps' = (start first).told id steps) ∧
    (∀ id waiting more, (view id).pending = some (waiting + 1) →
      (∀ step ∈ more, step.receiver? ≠ some id) → (channel.after more).coordinators = [] →
      ∃ missed, waiting ≤ missed ∧ ((view id).after id more).pending = some (missed + 1) ∧
        (channel.after more).told id [.receive id, .receive id] =
          if missed = 0 then [.received .signal, .received .closed]
          else [.received (.lagged missed), .received .signal]) := by
  intro channel view
  have hstart (id : String) := sees_start id first
  have hsees (id : String) : Sees id channel (view id) := (hstart id).after steps
  refine ⟨fun id => (hsees id).reply, ?_, fun hnobody coordinator => ?_,
    fun id steps' hsame => ?_, fun id waiting more hpending hquiet hclosed => ?_⟩
  · have hnodup : (start first).live.Nodup := List.nodup_nil
    refine ⟨channel.live, nodup_after hnodup steps, fun id => (hsees id).mem_iff, ?_⟩
    rw [live, List.length_map, receivers]
  · have hlive : channel.live = [] := List.eq_nil_iff_forall_not_mem.2 fun id hid => by
      have hsome := (hsees id).mem_iff.1 hid
      rw [hnobody id] at hsome
      exact absurd hsome Bool.false_ne_true
    have hempty : channel.cursors = [] := List.map_eq_nil_iff.1 hlive
    have htrigger : channel.trigger = channel := by
      rw [trigger, hempty]
      rfl
    simp only [step, through, htrigger]
    split <;> rfl
  · rw [(hstart id).told, (hstart id).told, ← View.told_filter, hsame, View.told_filter]
  · have hlater := (hsees id).after more
    obtain ⟨waiting', hle, hwaiting⟩ := (view id).exists_pending_after id hpending hquiet
    obtain ⟨missed, rfl⟩ : ∃ missed, waiting' = missed + 1 := ⟨waiting' - 1, by omega⟩
    rw [hlater.told]
    exact ⟨missed, Nat.le_of_succ_le_succ hle, hwaiting,
      View.told_of_closed id _ (hlater.coordinators.trans hclosed) hwaiting⟩

/-- Two signals for one receiver, and another receiver that comes after them. -/
theorem receive_by_pending_lagged :
    let steps : List Step := [.subscribe "a" "main", .clone "aux" "main", .trigger "aux",
      .trigger "main", .subscribe "b" "main"]
    let channel := (start "main").after steps
    let closed := channel.after [.dropCoordinator "main", .receive "b", .dropCoordinator "aux"]
    (channel.step (.receive "a")).1 = .received (.lagged 1) ∧
    (channel.step (.receive "b")).1 = .received .empty ∧
    channel.receivers = 2 ∧
    closed.told "a" [.receive "a", .receive "a"] = [.received (.lagged 1), .received .signal] ∧
    ((start "main").step (.trigger "main")).2 = start "main" ∧
    (start "main").told "b" (steps ++ [.receive "b"]) =
      (start "main").told "b" (steps.tail ++ [.receive "b", .receive "a"]) := by
  intro steps channel closed
  obtain ⟨htold, -, -, -, hclosed⟩ := receive_by_pending "main" steps
  obtain ⟨-, -, hnobody, -, -⟩ := receive_by_pending "main" []
  obtain ⟨-, -, -, hothers, -⟩ := receive_by_pending "main" (steps ++ [.receive "b"])
  obtain ⟨missed, -, hmissed, hmore⟩ := hclosed "a" 1
    [.dropCoordinator "main", .receive "b", .dropCoordinator "aux"] rfl (by decide) (by decide)
  obtain rfl : 1 = missed := Nat.succ.inj (Option.some.inj hmissed)
  exact ⟨htold "a", htold "b", by decide, hmore, hnobody (fun _ => rfl) "main",
    (hothers "b" _ (by decide)).symm⟩

end ErrorPages.Broadcast
