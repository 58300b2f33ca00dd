import ReactorNetwork.TimerLoop

/-!
# The timer descriptor is armed for the earliest timer

Adding arms the descriptor only when the earliest expiration changes, cancelling
never does, and `reset` only for a valid stamp. Outside `handle_read` this is
enough: whenever a timer is waiting, an expiration of the descriptor is unread or
the descriptor is armed for no later time than any timer's expiration. While
`handle_read` runs, the descriptor has been read and the law is owed only for
timers that callbacks add with an expiration the clock has reached.

Times are the arguments of `reset_timer_fd`. The kernel's conversion to a delay
is not modelled. The clock is assumed to read no time before the epoch, which is
the time an unset stamp compares as.
-/

namespace ReactorNetwork

namespace TimerQueue

variable {q : TimerQueue} {queued : List Nat} {taken : List Entry}

/-- After an addition the first entry is the added one, and announced, or it was
the first entry before and the descriptor was left alone. -/
theorem addTimerInLoop_first (q : TimerQueue) (id : Nat) (first : Entry)
    (leads : (q.addTimerInLoop id).timers.head? = some first) :
    (q.addTimerInLoop id).timerFd.Announces first.key.val ∨
      q.timers.head? = some first ∧ (q.addTimerInLoop id).timerFd = q.timerFd := by
  have placed : (q.insert id).2.timers.head? = _ := Multimap.head_insert _ _
  by_cases changed : (q.insert id).1 = true
  · have added : q.addTimerInLoop id = { (q.insert id).2 with
        timerFd := (q.insert id).2.timerFd.resetTimerFd ((q.insert id).2.objects id).expiration } :=
      if_pos changed
    rw [added] at leads ⊢
    left
    have new : first = ⟨(q.objects id).expiration, id, q.insertions⟩ := by
      rw [placed] at leads
      cases before : q.timers.head? with
      | none => simpa [before, eq_comm] using leads
      | some earlier =>
        have less : (q.objects id).expiration.val < earlier.key.val := by
          simpa [insert, before] using changed
        simpa [before, Entry.rank, less, eq_comm] using leads
    rw [new]
    exact TimerFd.announces_reset (q.insert id).2.timerFd (q.objects id).expiration
  · have added : q.addTimerInLoop id = (q.insert id).2 := if_neg changed
    rw [added] at leads ⊢
    right
    rw [placed] at leads
    cases before : q.timers.head? with
    | none => simp [insert, before] at changed
    | some earlier =>
      have notLess : ¬ (q.objects id).expiration.val < earlier.key.val := by
        simpa [insert, before] using changed
      exact ⟨by simpa [before, Entry.rank, notLess] using leads, rfl⟩

/-- The loop of `reset` leaves the descriptor alone. -/
theorem resetLoop_timerFd (now : TimeStamp) (q : TimerQueue) (expired : List Entry) :
    (expired.foldl (resetEntry now) q).timerFd = q.timerFd := by
  induction expired generalizing q with
  | nil => rfl
  | cons entry rest inductionHypothesis =>
    have round : (q.resetEntry now entry).timerFd = q.timerFd := by
      unfold resetEntry
      split <;> rfl
    exact (inductionHypothesis _).trans round

/-- An entry the loop of `reset` inserts has a valid key. -/
theorem mem_resetLoop (now : TimeStamp) (q : TimerQueue) (expired : List Entry) (entry : Entry)
    (member : entry ∈ (expired.foldl (resetEntry now) q).timers) :
    entry ∈ q.timers ∨ entry.key.valid = true := by
  induction expired generalizing q with
  | nil => exact Or.inl member
  | cons first rest inductionHypothesis =>
    rcases inductionHypothesis (q.resetEntry now first) member with after | valid
    · unfold resetEntry at after
      split at after
      · rename_i repeating
        rw [insert_timers] at after
        rcases Multimap.mem_insert.mp after with rfl | before
        · right
          simpa [restart, TimerQueue.setObject] using Timer.restart_valid _ now repeating
        · exact Or.inl before
      · exact Or.inl after
    · exact Or.inr valid

end TimerQueue

namespace TimerArming

open Runs TimerLoop

/-- The first timer is announced; inside `handle_read` only if it is due by the
clock reading. -/
structure Armed (s : System) : Prop where
  sound : Sound s
  clock : ∀ now, s.phase.now = some now → 0 ≤ now
  announced : ∀ first, s.queue.timers.head? = some first →
    (∀ now, s.phase.now = some now → first.key.val ≤ now) →
    s.queue.timerFd.Announces first.key.val

/-- Before the first timer nothing is to be announced. -/
theorem initial_armed : Armed initial where
  sound := initial_sound
  clock := by simp [initial, Phase.now]
  announced := by simp [initial, TimerQueue.fresh]

/-- A clock reading is not before the epoch. -/
def readsAfterEpoch : Label → Prop
  | .handleRead now => 0 ≤ now
  | _ => True

/-- An addition keeps the first timer announced. -/
theorem armed_add {s : System} (armed : Armed s) (q : TimerQueue) (id : Nat) (first : Entry)
    (timers : q.timers = s.queue.timers) (fd : q.timerFd = s.queue.timerFd)
    (leads : (q.addTimerInLoop id).timers.head? = some first)
    (due : ∀ now, s.phase.now = some now → first.key.val ≤ now) :
    (q.addTimerInLoop id).timerFd.Announces first.key.val := by
  rcases q.addTimerInLoop_first id first leads with announced | ⟨before, same⟩
  · exact announced
  · rw [same, fd]
    exact armed.announced first (timers ▸ before) due

/-- Erasing entries keeps the first timer announced: it was behind an announced
one. -/
theorem armed_cancel {s : System} (armed : Armed s) (id : Option Nat) (first : Entry)
    (leads : (s.queue.cancelInLoop id).timers.head? = some first)
    (due : ∀ now, s.phase.now = some now → first.key.val ≤ now) :
    (s.queue.cancelInLoop id).timerFd.Announces first.key.val := by
  obtain ⟨kept, sublist, same⟩ := TimerQueue.cancelInLoop_eq s.queue id
  rw [same] at leads ⊢
  have member : first ∈ s.queue.timers := sublist.subset (List.mem_of_head? leads)
  cases before : s.queue.timers.head? with
  | none =>
    rw [List.head?_eq_none_iff.mp before] at member
    cases member
  | some earlier =>
    have notLater : earlier.key.val ≤ first.key.val :=
      Multimap.head_least armed.sound.consistent.ordered before first member
    have announced := armed.announced earlier before
      (fun now reading => le_trans notLater (due now reading))
    exact TimerFd.announces_later announced notLater

/-- A `reset` announces the first timer: it arms the descriptor for a valid
expiration, and an unset one was in the container before the loop, due, and so
announced already. -/
theorem armed_reset {s : System} (armed : Armed s) (now : Int) (expired : List Entry) (next : Nat)
    (running : s.phase = .running now expired next) (first : Entry)
    (leads : (s.queue.reset expired (TimeStamp.ofTimePoint now)).timers.head? = some first) :
    (s.queue.reset expired (TimeStamp.ofTimePoint now)).timerFd.Announces first.key.val := by
  have expiredVector : s.phase.expired = expired := by rw [running]; rfl
  have reading : s.phase.now = some now := by rw [running]; rfl
  have after := (expiredVector ▸ armed.sound.consistent).resetLoop (TimeStamp.ofTimePoint now)
  have fd := TimerQueue.resetLoop_timerFd (TimeStamp.ofTimePoint now) s.queue expired
  have inserted := TimerQueue.mem_resetLoop (TimeStamp.ofTimePoint now) s.queue expired
  unfold TimerQueue.reset at leads ⊢
  generalize expired.foldl (TimerQueue.resetEntry (TimeStamp.ofTimePoint now)) s.queue =
    restarted at leads after fd inserted ⊢
  have sameTimers : restarted.timers.head? = some first := by
    unfold TimerQueue.rearm at leads
    split at leads
    · exact leads
    · exact leads
  have member : first ∈ restarted.timers := List.mem_of_head? sameTimers
  have keyed : restarted.nextExpire = first.key := by
    rw [TimerQueue.nextExpire, sameTimers]
    exact (after.keyed first (List.mem_append_left _ member)).symm
  unfold TimerQueue.rearm
  by_cases valid : first.key.valid = true
  · rw [keyed, if_pos valid]
    exact TimerFd.announces_reset restarted.timerFd first.key
  · rw [keyed, if_neg valid, fd]
    have unset : first.key.val = 0 := first.key.epoch (by simpa using valid)
    have before : first ∈ s.queue.timers := (inserted first member).resolve_right valid
    cases led : s.queue.timers.head? with
    | none =>
      rw [List.head?_eq_none_iff.mp led] at before
      cases before
    | some earlier =>
      have notLater : earlier.key.val ≤ first.key.val :=
        Multimap.head_least armed.sound.consistent.ordered led first before
      have afterEpoch := armed.clock now reading
      have announced := armed.announced earlier led (fun other same => by
        obtain rfl : now = other := Option.some.inj (reading.symm.trans same)
        omega)
      exact TimerFd.announces_later announced notLater

/-- Every step keeps the first timer announced. -/
theorem step_armed (s : System) (label : Label) (t : System) (armed : Armed s)
    (afterEpoch : readsAfterEpoch label) (taken : step s label = .ok t) : Armed t := by
  have sound : Sound t := step_sound s label t armed.sound taken
  cases step_transition taken with
  | add time interval userCode =>
    exact ⟨sound, armed.clock, fun first leads due =>
      armed_add armed (s.queue.makeTimer time interval) _ first rfl rfl leads due⟩
  | addRemote time interval => exact ⟨sound, armed.clock, armed.announced⟩
  | cancel id handle =>
    exact ⟨sound, armed.clock, fun first leads due => armed_cancel armed id first leads due⟩
  | cancelRemote id handle => exact ⟨sound, armed.clock, armed.announced⟩
  | runAdd id rest idle first =>
    exact ⟨sound, armed.clock, fun first leads due =>
      armed_add armed s.queue id first rfl rfl leads due⟩
  | runCancel id rest idle first =>
    exact ⟨sound, armed.clock, fun first leads due => armed_cancel armed id first leads due⟩
  | handleRead now expired queue idle returned =>
    have consistent := armed.sound.consistent
    rw [idle] at consistent
    obtain ⟨_, _, _, _, _, _, _, later⟩ :=
      (consistent.setTimerFd s.queue.timerFd.readTimerFd).getExpired _ returned
    refine ⟨sound, ?_, ?_⟩
    · intro reading same
      obtain rfl : now = reading := Option.some.inj same
      exact afterEpoch
    · intro first leads due
      exact absurd (due now rfl) (not_le.mpr (later first (List.mem_of_head? leads)))
  | beginCallback now expired next entry running present =>
    have clock := armed.clock
    have announced := armed.announced
    rw [running] at clock announced
    exact ⟨sound, clock, announced⟩
  | finishCallback now expired next calling =>
    have clock := armed.clock
    have announced := armed.announced
    rw [calling] at clock announced
    exact ⟨sound, clock, announced⟩
  | reset now expired next running done =>
    exact ⟨sound, by simp [Phase.now], fun first leads _ =>
      armed_reset armed now expired next running first leads⟩
  | fire isArmed => exact ⟨sound, armed.clock, fun _ _ _ => Or.inl rfl⟩

/-- Outside `handle_read`, in every run: if `timers_` is nonempty then an
expiration of the descriptor is unread, or the descriptor is armed and the stamp
last passed to `reset_timer_fd` is no later than the expiration of any timer in
it. -/
theorem timerfd_announces_earliest (labels : List Label) (s : System)
    (clockAfterEpoch : ∀ now, Label.handleRead now ∈ labels → 0 ≤ now)
    (reached : run step initial labels = .ok s) (idle : s.phase = .idle)
    (nonempty : s.queue.timers ≠ []) :
    s.queue.timerFd.unread = true ∨
      s.queue.timerFd.armed = true ∧ ∃ stamp, s.queue.timerFd.expiration = some stamp ∧
        ∀ entry ∈ s.queue.timers, stamp.val ≤ (s.queue.objects entry.timer).expiration.val := by
  have guarded : ∀ label ∈ labels, readsAfterEpoch label := by
    intro label member
    cases label with
    | handleRead now => exact clockAfterEpoch now member
    | _ => trivial
  have armed : Armed s :=
    guarded_invariant step (fun _ label => readsAfterEpoch label) Armed step_armed labels initial s
      initial_armed (along_labels step _ initial labels guarded) reached
  cases leads : s.queue.timers.head? with
  | none => exact absurd (List.head?_eq_none_iff.mp leads) nonempty
  | some first =>
    have announced := armed.announced first leads (by simp [idle, Phase.now])
    rcases announced with unread | ⟨isArmed, stamp, last, inTime⟩
    · exact Or.inl unread
    · refine Or.inr ⟨isArmed, stamp, last, ?_⟩
      intro entry member
      have consistent := armed.sound.consistent
      have keyed := consistent.keyed entry (List.mem_append_left _ member)
      have least : first.key.val ≤ entry.key.val :=
        Multimap.head_least consistent.ordered leads entry member
      rw [← keyed]
      exact le_trans inTime least

/-- A callback adds a timer for an unset stamp and cancels another one while the
descriptor is disarmed. -/
def addedWhileFiring : List Label :=
  [.add (.ofTimePoint 10) ⟨true, 5⟩, .add (.ofTimePoint 90) ⟨false, 0⟩, .fire, .handleRead 20,
    .beginCallback, .add .unset ⟨false, 0⟩, .cancel (some 1), .finishCallback, .reset]

/-- The descriptor is armed for the timer added by the callback, or still readable. -/
theorem timerfd_announces_added_while_firing :
    ∃ s, run step initial addedWhileFiring = .ok s ∧ (s.queue.timerFd.unread = true ∨
      s.queue.timerFd.armed = true ∧ ∃ stamp, s.queue.timerFd.expiration = some stamp ∧
        ∀ entry ∈ s.queue.timers, stamp.val ≤ (s.queue.objects entry.timer).expiration.val) := by
  have completed : (run step initial addedWhileFiring).map
      (fun s => (s.phase, s.queue.timers.length)) = .ok (.idle, 2) := by decide +kernel
  obtain ⟨s, reached, completed⟩ := (map_returned _ _ _).mp completed
  simp only [Prod.mk.injEq] at completed
  refine ⟨s, reached, timerfd_announces_earliest addedWhileFiring s ?_ reached completed.1 ?_⟩
  · intro now member
    simp [addedWhileFiring] at member
    omega
  · intro empty
    simp [empty] at completed

end TimerArming

end ReactorNetwork
