import ReactorNetwork.TimerLoop

/-!
# Timers are neither lost nor run twice

Without cancellations each one-shot timer is in one place until its callback
begins, and begins once; each repeating timer is back in `timers_` when its
`handle_read` returns. Callbacks may add timers while a batch runs, the clock may
read anything, and a failed assertion ends the run.

The order of callbacks needs no such restriction: in every run, callbacks of one
`handle_read` are due and begin by expiration, then by insertion.
-/

namespace ReactorNetwork.TimerConservation

open Runs TimerLoop

/-- One callback is before another by expiration, then by insertion. -/
def Precedes (left right : Firing) : Prop :=
  left.expiration.val < right.expiration.val ∨
    left.expiration.val = right.expiration.val ∧ left.stamp < right.stamp

/-- The callbacks begun so far. Those of the running `handle_read` are before
every entry that still waits. -/
structure InOrder (s : System) : Prop where
  sound : Sound s
  due : ∀ firing ∈ s.fired, ¬ firing.now < firing.expiration.val
  numbered : ∀ firing ∈ s.fired, firing.handleRead ≤ s.handleReads
  ordered : s.fired.Pairwise fun left right =>
    left.handleRead = right.handleRead → Precedes left right
  front : ∀ firing ∈ s.fired, firing.handleRead = s.handleReads →
    ∀ entry ∈ s.phase.awaiting, firing.expiration.val < entry.key.val ∨
      firing.expiration.val = entry.key.val ∧ firing.stamp < entry.stamp

/-- Before the first callback nothing has begun. -/
theorem initial_inOrder : InOrder initial where
  sound := initial_sound
  due := by simp [initial]
  numbered := by simp [initial]
  ordered := List.Pairwise.nil
  front := by simp [initial]

/-- A step that begins no callback and leaves fewer entries waiting keeps the
order. -/
theorem inOrder_kept {s t : System} (inOrder : InOrder s) (sound : Sound t)
    (fired : t.fired = s.fired) (numbered : t.handleReads = s.handleReads)
    (fewer : ∀ entry ∈ t.phase.awaiting, entry ∈ s.phase.awaiting) : InOrder t where
  sound := sound
  due := fired ▸ inOrder.due
  numbered := by rw [fired, numbered]; exact inOrder.numbered
  ordered := fired ▸ inOrder.ordered
  front := by
    rw [fired, numbered]
    exact fun firing member current entry waits =>
      inOrder.front firing member current entry (fewer entry waits)

/-- Every step keeps the order of the callbacks.

Proof: `handle_read` starts a new number, so nothing is in front of its batch
yet. A callback that begins is the first waiting entry: what began before it in
this call is in front of it, and it is in front of the rest because the expired
vector is in container order. -/
theorem step_inOrder (s : System) (label : Label) (t : System) (inOrder : InOrder s)
    (taken : step s label = .ok t) : InOrder t := by
  have sound : Sound t := step_sound s label t inOrder.sound taken
  cases step_transition taken with
  | handleRead now expired queue idle returned =>
    refine ⟨sound, inOrder.due, ?_, inOrder.ordered, ?_⟩
    · exact fun firing member => Nat.le_succ_of_le (inOrder.numbered firing member)
    · intro firing member current
      exact absurd (inOrder.numbered firing member) (by simp only at current; omega)
  | beginCallback now expired next entry running present =>
    have member : entry ∈ expired := List.mem_of_getElem? present
    have keyed : entry.key = (s.queue.objects entry.timer).expiration :=
      inOrder.sound.consistent.keyed entry
        (List.mem_append_right _ (by simpa [running, Phase.expired] using member))
    have dueNow : entry.key.val < now :=
      inOrder.sound.due now (by simp [running, Phase.now]) entry
        (by simpa [running, Phase.expired] using member)
    have waiting := awaiting_next running present
    have batch : Multimap.Ordered Entry.rank Entry.older (entry :: expired.drop (next + 1)) := by
      rw [← drop_at present]
      have whole : Multimap.Ordered Entry.rank Entry.older expired := by
        simpa [running, Phase.expired] using inOrder.sound.batch
      exact whole.sublist (List.drop_sublist _ _)
    refine ⟨sound, ?_, ?_, ?_, ?_⟩
    · intro firing begun
      rcases List.mem_append.mp begun with earlier | new
      · exact inOrder.due firing earlier
      · obtain rfl := List.mem_singleton.mp new
        simp only [System.firing, ← keyed]
        omega
    · intro firing begun
      rcases List.mem_append.mp begun with earlier | new
      · exact inOrder.numbered firing earlier
      · obtain rfl := List.mem_singleton.mp new
        exact Nat.le_refl _
    · apply List.pairwise_append.mpr
      refine ⟨inOrder.ordered, List.pairwise_singleton _ _, ?_⟩
      intro earlier begun new isNew sameRead
      obtain rfl := List.mem_singleton.mp isNew
      have inFront := inOrder.front earlier begun sameRead entry (by simp [waiting])
      simpa [Precedes, System.firing, keyed] using inFront
    · intro firing begun current later waits
      rcases List.mem_append.mp begun with earlier | new
      · exact inOrder.front firing earlier current later
          (by rw [waiting]; exact List.mem_cons_of_mem _ waits)
      · obtain rfl := List.mem_singleton.mp new
        have precedes := (List.pairwise_cons.mp batch).1 later waits
        simp only [System.firing, ← keyed]
        exact precedes
  | finishCallback now expired next calling =>
    exact inOrder_kept inOrder sound rfl rfl (by simp [calling, Phase.awaiting])
  | reset now expired next running done =>
    exact inOrder_kept inOrder sound rfl rfl (by simp [Phase.awaiting])
  | _ => exact inOrder_kept inOrder sound rfl rfl (fun _ waits => waits)

/-- How often the timer's callback has begun. -/
def runs (s : System) (id : Nat) : Nat := s.fired.countP (fun firing => firing.timer = id)

/-- The steps that cancel a timer or ask for it. -/
def cancels : Label → Bool
  | .cancel _ => true
  | .cancelRemote _ => true
  | _ => false

/-- Where the timers created so far are when none was cancelled: a one-shot
timer waits in one place or has begun once, a repeating timer has a place. -/
structure Accounted (s : System) : Prop where
  inOrder : InOrder s
  uncancelled : ∀ id, Functor.cancel id ∉ s.pending
  begun : ∀ firing ∈ s.fired, firing.timer < s.queue.created
  oneShot : ∀ id < s.queue.created, (s.queue.objects id).repeats = false →
    (s.queue.holders s.queued s.phase.awaiting).count id + runs s id = 1
  repeating : ∀ id < s.queue.created, (s.queue.objects id).repeats = true →
    id ∈ s.queue.holders s.queued s.phase.expired

/-- Before the first timer nothing is held. -/
theorem initial_accounted : Accounted initial where
  inOrder := initial_inOrder
  uncancelled := by simp [initial]
  begun := by simp [initial]
  oneShot := by simp [initial, TimerQueue.fresh]
  repeating := by simp [initial, TimerQueue.fresh]

/-- A callback that begins is one more run of its timer. -/
theorem runs_begun {s t : System} (firing : Firing) (id : Nat)
    (fired : t.fired = s.fired ++ [firing]) :
    runs t id = runs s id + if firing.timer = id then 1 else 0 := by
  simp [runs, fired, List.countP_append, List.countP_singleton]

/-- A timer that was not created has not begun. -/
theorem runs_uncreated {s : System} (accounted : Accounted s) {id : Nat}
    (uncreated : s.queue.created ≤ id) : runs s id = 0 := by
  apply List.countP_eq_zero.mpr
  intro firing member
  have created := accounted.begun firing member
  simp only [decide_eq_true_eq]
  omega

/-- The waiting entries are entries of the expired vector. -/
theorem awaiting_sublist (phase : Phase) : phase.awaiting.Sublist phase.expired := by
  cases phase with
  | idle => exact List.Sublist.refl _
  | running now expired next => exact List.drop_sublist _ _
  | calling now expired next => exact List.drop_sublist _ _

/-- Creating a timer object and giving it a place accounts for one timer more,
whether the place is the container or the queue of additions. -/
theorem accounted_created {s t : System} (accounted : Accounted s) (inOrder : InOrder t)
    (time : TimeStamp) (interval : Interval)
    (uncancelled : ∀ id, Functor.cancel id ∉ t.pending)
    (created : t.queue.created = s.queue.created + 1)
    (objects : t.queue.objects =
      TimerQueue.setObject s.queue.objects s.queue.created ⟨time, interval⟩)
    (phase : t.phase = s.phase) (fired : t.fired = s.fired)
    (held : ∀ taken, (t.queue.holders t.queued taken).Perm
      (s.queue.created :: s.queue.holders s.queued taken)) : Accounted t where
  inOrder := inOrder
  uncancelled := uncancelled
  begun := by
    rw [fired, created]
    exact fun firing member => Nat.lt_succ_of_lt (accounted.begun firing member)
  oneShot := by
    intro id exists_ once
    have sameRuns : runs t id = runs s id := by simp [runs, fired]
    rw [phase, (held _).count_eq, sameRuns]
    by_cases new : id = s.queue.created
    · subst new
      have unheld : s.queue.created ∉ s.queue.holders s.queued s.phase.awaiting := by
        intro member
        have consistent := accounted.inOrder.sound.consistent.forget (List.Sublist.refl _)
          (awaiting_sublist s.phase)
        exact absurd (consistent.existing _ member) (Nat.lt_irrefl _)
      rw [List.count_cons_self, List.count_eq_zero.mpr unheld,
        runs_uncreated accounted (Nat.le_refl _)]
    · rw [objects, TimerQueue.setObject_other _ _ _ _ new] at once
      rw [List.count_cons_of_ne (Ne.symm new)]
      exact accounted.oneShot id (by omega) once
  repeating := by
    intro id exists_ again
    rw [phase, (held _).mem_iff]
    by_cases new : id = s.queue.created
    · exact List.mem_cons.mpr (Or.inl new)
    · rw [objects, TimerQueue.setObject_other _ _ _ _ new] at again
      exact List.mem_cons_of_mem _ (accounted.repeating id (by omega) again)

/-- A step that moves timers between places accounts for the same timers. -/
theorem accounted_moved {s t : System} (accounted : Accounted s) (inOrder : InOrder t)
    (uncancelled : ∀ id, Functor.cancel id ∉ t.pending)
    (created : t.queue.created = s.queue.created)
    (repeats : ∀ id, (t.queue.objects id).repeats = (s.queue.objects id).repeats)
    (fired : t.fired = s.fired)
    (waiting : ∀ id, (s.queue.objects id).repeats = false →
      (t.queue.holders t.queued t.phase.awaiting).count id =
        (s.queue.holders s.queued s.phase.awaiting).count id)
    (held : ∀ id, (s.queue.objects id).repeats = true →
      id ∈ s.queue.holders s.queued s.phase.expired →
      id ∈ t.queue.holders t.queued t.phase.expired) : Accounted t where
  inOrder := inOrder
  uncancelled := uncancelled
  begun := by
    rw [fired, created]
    exact accounted.begun
  oneShot := by
    intro id exists_ once
    have sameRuns : runs t id = runs s id := by simp [runs, fired]
    rw [repeats] at once
    rw [created] at exists_
    rw [sameRuns, waiting id once]
    exact accounted.oneShot id exists_ once
  repeating := by
    intro id exists_ again
    rw [repeats] at again
    rw [created] at exists_
    exact held id again (accounted.repeating id exists_ again)

/-- A callback that begins turns one waiting entry into one run. -/
theorem accounted_begun {s : System} (accounted : Accounted s) {now : Int} {expired : List Entry}
    {next : Nat} {entry : Entry}
    (inOrder : InOrder { s with
      phase := .calling now expired next, fired := s.fired ++ [s.firing now entry] })
    (running : s.phase = .running now expired next) (present : expired[next]? = some entry) :
    Accounted { s with
      phase := .calling now expired next, fired := s.fired ++ [s.firing now entry] } := by
  have waiting := awaiting_next running present
  have created : entry.timer < s.queue.created := by
    apply accounted.inOrder.sound.consistent.existing
    apply TimerQueue.holder_of_entry
    exact List.mem_append_right _
      ((awaiting_sublist s.phase).subset (waiting ▸ List.mem_cons_self))
  refine ⟨inOrder, accounted.uncancelled, ?_, ?_, ?_⟩
  · intro firing member
    rcases List.mem_append.mp member with earlier | new
    · exact accounted.begun firing earlier
    · obtain rfl := List.mem_singleton.mp new
      exact created
  · intro id exists_ once
    have before := accounted.oneShot id exists_ once
    rw [waiting, (TimerQueue.holders_taken _ _ _ _).count_eq] at before
    rw [runs_begun (s.firing now entry) id rfl]
    simp only [List.count_cons, beq_iff_eq] at before
    exact (by omega : (s.queue.holders s.queued (expired.drop (next + 1))).count id +
      (runs s id + if entry.timer = id then 1 else 0) = 1)
  · intro id exists_ again
    have before := accounted.repeating id exists_ again
    rw [running] at before
    exact before

/-- Every step but a cancellation keeps the account.

Proof: by the kind of step. New timers get a place, a queued addition moves into
the container, `handle_read` moves entries out, a callback that begins turns one
waiting entry into one run, and `reset` returns the repeating timers. -/
theorem step_accounted (s : System) (label : Label) (t : System) (accounted : Accounted s)
    (allowed : cancels label = false) (taken : step s label = .ok t) : Accounted t := by
  have inOrder : InOrder t := step_inOrder s label t accounted.inOrder taken
  have consistent := accounted.inOrder.sound.consistent
  cases step_transition taken with
  | add time interval userCode =>
    obtain ⟨created, objects⟩ := TimerQueue.addTimerInLoop_objects
      (s.queue.makeTimer time interval) s.queue.created
    exact accounted_created accounted inOrder time interval accounted.uncancelled created objects
      rfl rfl (fun taken => TimerQueue.holders_addTimerInLoop _ _ _ _)
  | addRemote time interval =>
    refine accounted_created accounted inOrder time interval ?_ rfl rfl rfl rfl ?_
    · intro id member
      rcases List.mem_append.mp member with earlier | new
      · exact accounted.uncancelled id earlier
      · simp at new
    · intro taken
      simp [System.queued, TimerQueue.holders, TimerQueue.makeTimer]
  | cancel id handle => simp [cancels] at allowed
  | cancelRemote id handle => simp [cancels] at allowed
  | runCancel id rest idle first =>
    exact absurd (first ▸ List.mem_cons_self) (accounted.uncancelled id)
  | runAdd id rest idle first =>
    obtain ⟨created, objects⟩ := TimerQueue.addTimerInLoop_objects s.queue id
    have held := runAdd_holders first
    refine accounted_moved accounted inOrder ?_ created ?_ rfl ?_ ?_
    · exact fun other member => accounted.uncancelled other (by simp [first, member])
    · exact fun other => by simp only [objects]
    · exact fun other _ => (held _).count_eq other
    · exact fun other _ member => (held _).mem_iff.mpr member
  | handleRead now expired queue idle returned =>
    rw [idle] at consistent
    obtain ⟨_, created, objects, _, held, _, _, _⟩ :=
      (consistent.setTimerFd s.queue.timerFd.readTimerFd).getExpired _ returned
    refine accounted_moved accounted inOrder accounted.uncancelled created ?_ rfl ?_ ?_
    · exact fun id => by simp only [objects]
    · intro id _
      rw [idle]
      exact held.count_eq id
    · intro id _ member
      rw [idle] at member
      exact held.mem_iff.mpr member
  | beginCallback now expired next entry running present =>
    exact accounted_begun accounted inOrder running present
  | finishCallback now expired next calling =>
    refine accounted_moved accounted inOrder accounted.uncancelled rfl (fun _ => rfl) rfl ?_ ?_
    · intro id _
      simp [calling, Phase.awaiting, System.queued]
    · intro id _ member
      rw [calling] at member
      exact member
  | reset now expired next running done =>
    obtain ⟨created, repeats⟩ := TimerQueue.reset_objects s.queue expired
      (TimeStamp.ofTimePoint now)
    have finished : s.phase.awaiting = [] := by
      simpa [running, Phase.awaiting] using done
    refine accounted_moved accounted inOrder accounted.uncancelled created repeats rfl ?_ ?_
    · intro id once
      have kept := TimerQueue.count_holders_reset s.queue s.queued expired
        (TimeStamp.ofTimePoint now) id once
      rw [finished]
      exact kept
    · intro id again member
      rw [running] at member
      exact TimerQueue.mem_holders_reset s.queue s.queued expired (TimeStamp.ofTimePoint now) id
        again member
  | fire armed =>
    exact accounted_moved accounted inOrder accounted.uncancelled rfl (fun _ => rfl) rfl
      (fun _ _ => rfl) (fun _ _ member => member)

/-- In every state of every run without cancellations: an entry of `timers_` is
keyed by the expiration its timer has now, and no timer has two entries. Outside
`handle_read` an added one-shot timer is in `timers_` and has not run, or is not
and has run exactly once; an added repeating timer is in `timers_` exactly once.
No callback has begun in a `handle_read` whose clock reading is before the
timer's expiration, and those of one `handle_read` began by expiration, then by
insertion. -/
theorem timers_conserved (labels : List Label) (s : System)
    (uncancelled : ∀ label ∈ labels, cancels label = false)
    (reached : run step initial labels = .ok s) :
    (∀ entry ∈ s.queue.timers, entry.key = (s.queue.objects entry.timer).expiration) ∧
    (s.queue.timers.map Entry.timer).Nodup ∧
    (s.phase = .idle → ∀ id < s.queue.created, id ∉ s.queued →
      (s.queue.objects id).repeats = false →
      (id ∈ s.queue.timers.map Entry.timer ∧ runs s id = 0) ∨
        (id ∉ s.queue.timers.map Entry.timer ∧ runs s id = 1)) ∧
    (s.phase = .idle → ∀ id < s.queue.created, id ∉ s.queued →
      (s.queue.objects id).repeats = true →
      (s.queue.timers.map Entry.timer).count id = 1) ∧
    (∀ firing ∈ s.fired, ¬ firing.now < firing.expiration.val) ∧
    s.fired.Pairwise fun left right => left.handleRead = right.handleRead →
      left.expiration.val < right.expiration.val ∨
        left.expiration.val = right.expiration.val ∧ left.stamp < right.stamp := by
  have accounted : Accounted s :=
    guarded_invariant step (fun _ label => cancels label = false) Accounted step_accounted labels
      initial s initial_accounted (along_labels step _ initial labels uncancelled) reached
  have consistent := accounted.inOrder.sound.consistent
  have distinct := consistent.distinctTimers
  refine ⟨?_, distinct, ?_, ?_, accounted.inOrder.due, accounted.inOrder.ordered⟩
  · exact fun entry member => consistent.keyed entry (List.mem_append_left _ member)
  · intro idle id created added once
    have account := accounted.oneShot id created once
    rw [idle] at account
    simp only [TimerQueue.holders, Phase.awaiting, List.append_nil, List.count_append,
      List.count_eq_zero.mpr added, Nat.zero_add] at account
    by_cases member : id ∈ s.queue.timers.map Entry.timer
    · rw [List.count_eq_one_of_mem distinct member] at account
      exact Or.inl ⟨member, by omega⟩
    · rw [List.count_eq_zero.mpr member] at account
      exact Or.inr ⟨member, by omega⟩
  · intro idle id created added again
    have held := accounted.repeating id created again
    rw [idle] at held
    simp only [TimerQueue.holders, Phase.expired, List.append_nil] at held
    exact List.count_eq_one_of_mem distinct ((List.mem_append.mp held).resolve_left added)

/-- A repeating and a one-shot timer expire in one call; the first callback adds
a third timer. -/
def twoExpire : List Label :=
  [.add (.ofTimePoint 10) ⟨true, 5⟩, .addRemote (.ofTimePoint 7) ⟨false, 0⟩, .runFunctor, .fire,
    .handleRead 20, .beginCallback, .add (.ofTimePoint 3) ⟨false, 0⟩, .finishCallback,
    .beginCallback, .finishCallback, .reset]

/-- No timer is in the queue twice, and no callback began before its expiration. -/
theorem timers_conserved_two_expire :
    ∃ s, run step initial twoExpire = .ok s ∧
      (s.queue.timers.map Entry.timer).Nodup ∧
      ∀ firing ∈ s.fired, ¬ firing.now < firing.expiration.val := by
  have completed : (run step initial twoExpire).isOk = true := by decide +kernel
  cases reached : run step initial twoExpire with
  | error fault => simp [reached, Except.isOk, Except.toBool] at completed
  | ok s =>
    have conserved := timers_conserved twoExpire s (by decide) reached
    exact ⟨s, rfl, conserved.2.1, conserved.2.2.2.2.1⟩

end ReactorNetwork.TimerConservation
