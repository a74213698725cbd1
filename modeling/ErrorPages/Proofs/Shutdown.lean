import ErrorPages.Shutdown

/-! Which termination signals reach the server. The channel drops what is sent before there is a
receiver, and nothing makes the listener wait for one: the server learns of the signal exactly when
its receiver was made before the listener triggered the channel. In the other runs nothing stops the
server any more, since the listener has ended. -/

namespace ErrorPages

/-- Only a trigger sends a signal. -/
theorem Broadcast.tail_step (channel : Broadcast) {step : Broadcast.Step}
    (h : ∀ coordinator, step ≠ .trigger coordinator) :
    (channel.step step).2.tail = channel.tail := by
  cases step with
  | trigger coordinator => exact absurd rfl (h coordinator)
  | receive id => simp only [Broadcast.step]; split <;> rfl
  | dropReceiver id => rfl
  | dropCoordinator id => rfl
  | _ => simp only [Broadcast.step, through]; split <;> rfl

namespace Shutdown

theorem pair_sublist_concat_iff {α : Type} {a b c : α} {l : List α} :
    [a, b].Sublist (l ++ [c]) ↔ [a, b].Sublist l ∨ (a ∈ l ∧ b = c) := by
  rw [← List.reverse_sublist, List.reverse_append, List.reverse_singleton, List.singleton_append,
    List.sublist_cons_iff, List.reverse_sublist]
  refine or_congr_right ⟨?_, ?_⟩
  · rintro ⟨r, heq, hr⟩
    obtain ⟨rfl, rfl⟩ : b = c ∧ [a] = r := by simpa using heq
    exact ⟨by simpa using hr, rfl⟩
  · rintro ⟨ha, rfl⟩
    exact ⟨[a], rfl, by simpa using ha⟩

/-- The channel between the two tasks, by how far they have come; `heard` says that the trigger found
the receiver. -/
def channelAt (program : Program) (listener : Listener) (heard : Bool) : Broadcast where
  tail := heard.toNat
  cursors := match program with
    | .created | .spawned => []
    | .subscribed | .waiting => [("server", 0)]
    | .stopped => [("server", 1)]
  coordinators := match listener with
    | .absent | .done => ["program"]
    | .spawned | .installed | .signalled => ["listener", "program"]

theorem channelAt_spawn (heard : Bool) :
    ((channelAt .created .absent heard).step (.clone "listener" "program")).2 =
      channelAt .spawned .spawned heard := by
  cases heard <;> decide

theorem channelAt_subscribe (listener : Listener) :
    ((channelAt .spawned listener false).step (.subscribe "server" "program")).2 =
      channelAt .subscribed listener false := by
  cases listener <;> decide

/-- A receiver that is made too late sees the empty channel. -/
theorem channelAt_receive (listener : Listener) (heard : Bool) :
    (channelAt .waiting listener heard).step (.receive "server") =
      if heard then (.received .signal, channelAt .stopped listener true)
      else (.received .empty, channelAt .waiting listener false) := by
  cases listener <;> cases heard <;> decide

theorem channelAt_receive_subscribed (listener : Listener) (heard : Bool) :
    ((channelAt .subscribed listener heard).step (.receive "server")).1 =
      .received (if heard then .signal else .empty) := by
  cases listener <;> cases heard <;> decide

theorem channelAt_trigger (program : Program) :
    let triggered := ((channelAt program .signalled false).step (.trigger "listener")).2
    (triggered.step (.dropCoordinator "listener")).2 =
      channelAt program .done (decide (program ∉ [.created, .spawned])) := by
  cases program <;> decide

/-- What the actions of the past tell about a state. -/
structure Follows (past : List Action) (s : Shutdown) (heard : Bool) : Prop where
  channel : s.channel = channelAt s.program s.listener heard
  heard_iff : heard = true ↔ [.subscribe, .trigger].Sublist past
  subscribed_iff : s.Subscribed ↔ .subscribe ∈ past
  done_iff : s.listener = .done ↔ .trigger ∈ past
  absent_iff : s.program = .created ↔ s.listener = .absent
  heard_of_stopped : s.program = .stopped → heard = true

theorem follows_nil : Follows [] {} false := by
  refine ⟨rfl, ?_, ?_, ?_, ?_, ?_⟩ <;> simp [Subscribed]

theorem Follows.mem_of_heard {past : List Action} {s : Shutdown} {heard : Bool}
    (h : Follows past s heard) (hh : heard = true) : .subscribe ∈ past ∧ .trigger ∈ past := by
  have hpair := (h.heard_iff.1 hh).subset
  exact ⟨hpair (by simp), hpair (by simp)⟩

/-- An action that neither makes the receiver nor triggers the channel. -/
theorem Follows.quiet {past : List Action} {s s' : Shutdown} {heard : Bool} {a : Action}
    (h : Follows past s heard) (ha : a ∉ [.subscribe, .trigger])
    (hchannel : s'.channel = channelAt s'.program s'.listener heard)
    (hsub : s'.Subscribed ↔ s.Subscribed) (hdone : s'.listener = .done ↔ s.listener = .done)
    (habsent : s'.program = .created ↔ s'.listener = .absent)
    (hstopped : s'.program = .stopped → heard = true) : Follows (past ++ [a]) s' heard := by
  obtain ⟨hs, ht⟩ : .subscribe ≠ a ∧ .trigger ≠ a := by simpa [eq_comm] using ha
  refine ⟨hchannel, ?_, ?_, ?_, habsent, hstopped⟩
  · rw [h.heard_iff, pair_sublist_concat_iff]
    simp [ht]
  · rw [hsub, h.subscribed_iff]
    simp [hs]
  · rw [hdone, h.done_iff]
    simp [ht]

theorem follows_act {past : List Action} {s s' : Shutdown} {heard : Bool} {a : Action}
    (h : Follows past s heard) (ha : act s a = some s') :
    ∃ heard', Follows (past ++ [a]) s' heard' := by
  have hchannel := h.channel
  have habsent := h.absent_iff
  obtain ⟨program, listener, channel⟩ := s
  simp only at hchannel habsent
  subst hchannel
  cases a with
  | spawn =>
    simp only [act, Option.ite_none_right_eq_some, Option.some.injEq] at ha
    obtain ⟨rfl, rfl⟩ := ha
    obtain rfl : listener = .absent := habsent.1 rfl
    exact ⟨heard, h.quiet (by decide) (channelAt_spawn heard) (by simp [Subscribed]) (by simp)
      (by simp) (by simp)⟩
  | subscribe =>
    simp only [act, Option.ite_none_right_eq_some, Option.some.injEq] at ha
    obtain ⟨rfl, rfl⟩ := ha
    have hnew : Action.subscribe ∉ past := mt h.subscribed_iff.2 (by simp [Subscribed])
    obtain rfl : heard = false := Bool.eq_false_iff.2 fun hh => hnew (h.mem_of_heard hh).1
    refine ⟨false, channelAt_subscribe listener, ?_, ?_, ?_, ?_, ?_⟩
    · rw [h.heard_iff, pair_sublist_concat_iff]
      simp
    · simp [Subscribed]
    · simpa using h.done_iff
    · simpa using habsent
    · simp
  | wait =>
    simp only [act, Option.ite_none_right_eq_some, Option.some.injEq] at ha
    obtain ⟨rfl, rfl⟩ := ha
    exact ⟨heard, h.quiet (by decide) rfl (by simp [Subscribed]) (by simp) (by simpa using habsent)
      (by simp)⟩
  | stop =>
    simp only [act, Option.ite_none_right_eq_some, Option.some.injEq] at ha
    obtain ⟨⟨rfl, hreply⟩, rfl⟩ := ha
    rw [channelAt_receive] at hreply ⊢
    obtain rfl : heard = true := by
      cases heard with
      | true => rfl
      | false => exact absurd rfl hreply
    exact ⟨true, h.quiet (by decide) rfl (by simp [Subscribed]) (by simp) (by simpa using habsent)
      (by simp)⟩
  | install =>
    simp only [act, Option.ite_none_right_eq_some, Option.some.injEq] at ha
    obtain ⟨rfl, rfl⟩ := ha
    exact ⟨heard, h.quiet (by decide) rfl Iff.rfl (by simp) (by simpa using habsent)
      h.heard_of_stopped⟩
  | signal =>
    simp only [act, Option.ite_none_right_eq_some, Option.some.injEq] at ha
    obtain ⟨rfl, rfl⟩ := ha
    exact ⟨heard, h.quiet (by decide) rfl Iff.rfl (by simp) (by simpa using habsent)
      h.heard_of_stopped⟩
  | trigger =>
    simp only [act, Option.ite_none_right_eq_some, Option.some.injEq] at ha
    obtain ⟨rfl, rfl⟩ := ha
    have hnew : Action.trigger ∉ past := mt h.done_iff.2 (by simp)
    obtain rfl : heard = false := Bool.eq_false_iff.2 fun hh => hnew (h.mem_of_heard hh).2
    have hgoing : program ≠ .stopped := fun hp => by simpa using h.heard_of_stopped hp
    have hsub := h.subscribed_iff
    refine ⟨decide (program ∉ [.created, .spawned]), channelAt_trigger program, ?_, ?_, ?_, ?_, ?_⟩
    · rw [pair_sublist_concat_iff, ← h.heard_iff, ← hsub]
      simp [Subscribed]
    · simpa [Subscribed] using hsub
    · simp
    · simpa using habsent
    · exact fun hp => absurd hp hgoing

theorem run_cons {s s' : Shutdown} {a : Action} {actions : List Action} :
    s.run (a :: actions) = some s' ↔ ∃ next, act s a = some next ∧ next.run actions = some s' := by
  rw [run, List.foldlM_cons, Option.bind_eq_bind, Option.bind_eq_some_iff]
  rfl

theorem follows_run {past actions : List Action} {s s' : Shutdown} {heard : Bool}
    (h : Follows past s heard) (hrun : s.run actions = some s') :
    ∃ heard', Follows (past ++ actions) s' heard' := by
  induction actions generalizing past s heard with
  | nil =>
    obtain rfl : s = s' := by simpa [run] using hrun
    exact ⟨heard, by simpa using h⟩
  | cons a actions ih =>
    obtain ⟨next, hact, hrest⟩ := run_cons.1 hrun
    obtain ⟨heard', hnext⟩ := follows_act h hact
    rw [List.append_cons]
    exact ih hnext hrest

/-- Once the listener has ended, no further signal is sent. -/
theorem tail_act {s s' : Shutdown} {a : Action} (hd : s.listener = .done) (hs : s.Subscribed)
    (ha : act s a = some s') :
    s'.listener = .done ∧ s'.Subscribed ∧ s'.channel.tail = s.channel.tail := by
  have hprogram : s.program ≠ .created ∧ s.program ≠ .spawned := by simpa [Subscribed] using hs
  cases a with
  | wait =>
    simp only [act, Option.ite_none_right_eq_some, Option.some.injEq] at ha
    obtain ⟨-, rfl⟩ := ha
    exact ⟨hd, by simp [Subscribed], rfl⟩
  | stop =>
    simp only [act, Option.ite_none_right_eq_some, Option.some.injEq] at ha
    obtain ⟨-, rfl⟩ := ha
    exact ⟨hd, by simp [Subscribed], s.channel.tail_step (by simp)⟩
  | spawn => simp [act, hprogram] at ha
  | subscribe => simp [act, hprogram] at ha
  | install => simp [act, hd] at ha
  | signal => simp [act, hd] at ha
  | trigger => simp [act, hd] at ha

theorem tail_run {s s' : Shutdown} {actions : List Action} (hd : s.listener = .done)
    (hs : s.Subscribed) (hrun : s.run actions = some s') : s'.channel.tail = s.channel.tail := by
  induction actions generalizing s with
  | nil =>
    obtain rfl : s = s' := by simpa [run] using hrun
    rfl
  | cons a actions ih =>
    obtain ⟨next, hact, hrest⟩ := run_cons.1 hrun
    obtain ⟨hd', hs', htail⟩ := tail_act hd hs hact
    rw [ih hd' hs' hrest, htail]

theorem Follows.told_iff {past : List Action} {s : Shutdown} {heard : Bool}
    (h : Follows past s heard) (hs : s.Subscribed) :
    s.Pending ∨ s.program = .stopped ↔ heard = true := by
  obtain ⟨program, listener, channel⟩ := s
  obtain rfl : channel = channelAt program listener heard := h.channel
  cases program with
  | created => simp [Subscribed] at hs
  | spawned => simp [Subscribed] at hs
  | subscribed =>
    simp only [Pending, channelAt_receive_subscribed]
    cases heard <;> simp
  | waiting =>
    simp only [Pending, channelAt_receive]
    cases heard <;> simp
  | stopped => simpa using h.heard_of_stopped rfl

/-- A server that has been told can stop. -/
theorem Follows.exists_run_stopped {past : List Action} {s : Shutdown} (h : Follows past s true)
    (hs : s.Subscribed) : ∃ actions s', s.run actions = some s' ∧ s'.program = .stopped := by
  obtain ⟨program, listener, channel⟩ := s
  obtain rfl : channel = channelAt program listener true := h.channel
  have hwait : act ⟨.subscribed, listener, channelAt .subscribed listener true⟩ .wait =
      some ⟨.waiting, listener, channelAt .waiting listener true⟩ := rfl
  have hstop : act ⟨.waiting, listener, channelAt .waiting listener true⟩ .stop =
      some ⟨.stopped, listener, channelAt .stopped listener true⟩ := by
    simp [act, channelAt_receive]
  cases program with
  | created => simp [Subscribed] at hs
  | spawned => simp [Subscribed] at hs
  | subscribed => exact ⟨[.wait, .stop], _, run_cons.2 ⟨_, hwait, run_cons.2 ⟨_, hstop, rfl⟩⟩, rfl⟩
  | waiting => exact ⟨[.stop], _, run_cons.2 ⟨_, hstop, rfl⟩, rfl⟩
  | stopped => exact ⟨[], ⟨.stopped, listener, channelAt .stopped listener true⟩, rfl, rfl⟩

/-- In every run in which the listener has triggered the channel and the server has its receiver, the
server has been told, or can still stop, exactly when the receiver was there first. -/
theorem told_iff_subscribed_first {actions : List Action} {s : Shutdown}
    (h : run {} actions = some s) (hd : s.listener = .done) (hs : s.Subscribed) :
    (s.Pending ∨ s.program = .stopped ↔ [.subscribe, .trigger].Sublist actions) ∧
    ((∃ more s', s.run more = some s' ∧ s'.program = .stopped) ↔
      [.subscribe, .trigger].Sublist actions) := by
  obtain ⟨heard, hfollows⟩ := follows_run follows_nil h
  rw [List.nil_append] at hfollows
  rw [← hfollows.heard_iff]
  refine ⟨hfollows.told_iff hs, ?_, ?_⟩
  · rintro ⟨more, s', hrun, hstopped⟩
    obtain ⟨heard', hfollows'⟩ := follows_run hfollows hrun
    have htail := tail_run hd hs hrun
    rw [hfollows.channel, hfollows'.channel] at htail
    have hheard' := hfollows'.heard_of_stopped hstopped
    cases heard with
    | true => rfl
    | false => simp [channelAt, hheard'] at htail
  · rintro rfl
    exact hfollows.exists_run_stopped hs

/-- The server has its receiver and waits when the signal comes. -/
theorem told_iff_subscribed_first_waiting :
    let actions : List Action := [.spawn, .install, .subscribe, .wait, .signal, .trigger]
    ∃ s, run {} actions = some s ∧ s.listener = .done ∧ s.Subscribed ∧
      (s.Pending ∨ s.program = .stopped) := by
  intro actions
  have hrun : run {} actions = some ⟨.waiting, .done, channelAt .waiting .done true⟩ := by decide
  refine ⟨_, hrun, rfl, by simp [Subscribed], ?_⟩
  exact (told_iff_subscribed_first hrun rfl (by simp [Subscribed])).1.2 (by decide)

/-- The listener may take the signal and trigger the channel before the server has its receiver: the
server then waits on a channel that stays empty. -/
theorem exists_unheard_trigger :
    ¬ ∀ (actions : List Action) (s : Shutdown), run {} actions = some s → s.listener = .done →
      s.Subscribed → s.Pending ∨ s.program = .stopped := by
  intro h
  have hrun : run {} [.spawn, .install, .signal, .trigger, .subscribe, .wait] =
      some ⟨.waiting, .done, channelAt .waiting .done false⟩ := by decide
  have htold := h _ _ hrun rfl (by simp [Subscribed])
  simp [Pending, channelAt_receive] at htold

end Shutdown

end ErrorPages
