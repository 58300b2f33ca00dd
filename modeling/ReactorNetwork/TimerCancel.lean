import ReactorNetwork.TimerLoop

/-!
# Cancelled timers

`cancel_in_loop` erases from `timers_` and from nowhere else. A cancelled timer
stays silent when `timers_` is the only place that could bring it back. It is not
when its addition is still queued, when it waits in the expired vector of the
running `handle_read`, or when it repeats and that vector holds it at all, since
`reset` inserts every repeating timer of the vector again. The last is what a
timer that cancels itself meets.
-/

namespace ReactorNetwork.TimerCancel

open Runs TimerLoop

/-- The timer whose `cancel_in_loop` a step executes. -/
def cancelled (s : System) : Label → Option Nat
  | .cancel id => id
  | .runFunctor =>
      match s.phase, s.pending with
      | .idle, .cancel id :: _ => id
      | _, _ => none
  | _ => none

/-- Nothing but `timers_` can bring the timer back: its addition is not queued,
the running `handle_read` does not have its callback before it, nor will it
insert the timer again. -/
def onlyInTimers (s : System) (id : Nat) : Prop :=
  id ∉ s.queued ∧ id ∉ s.phase.awaiting.map Entry.timer ∧
    ((s.queue.objects id).repeats = true → id ∉ s.phase.expired.map Entry.timer)

instance (s : System) (id : Nat) : Decidable (onlyInTimers s id) :=
  inferInstanceAs (Decidable (_ ∧ _ ∧ (_ → _)))

/-- No place holds the timer from which it could begin again. -/
structure Gone (id : Nat) (s : System) : Prop where
  created : id < s.queue.created
  waiting : id ∉ s.queue.holders s.queued s.phase.awaiting
  again : (s.queue.objects id).repeats = true → id ∉ s.queue.holders s.queued s.phase.expired

/-- Erasing by the key of a timer's entry erases the timer: it has no other
entry. -/
theorem cancelInLoop_erases (q : TimerQueue) (id : Nat)
    (distinct : (q.timers.map Entry.timer).Nodup) :
    id ∉ (q.cancelInLoop (some id)).timers.map Entry.timer := by
  unfold TimerQueue.cancelInLoop
  intro member
  cases search : q.timers.find? (fun entry => entry.timer = id) with
  | none =>
    simp only [search] at member
    obtain ⟨entry, inTimers, same⟩ := List.mem_map.mp member
    have absent := List.find?_eq_none.mp search entry inTimers
    simp [same] at absent
  | some found =>
    simp only [search] at member
    obtain ⟨entry, kept, same⟩ := List.mem_map.mp member
    obtain ⟨inTimers, otherKey⟩ := List.mem_filter.mp kept
    have isFound : found.timer = id := by simpa using List.find?_some search
    have equal : entry = found := List.inj_on_of_nodup_map distinct inTimers
      (List.mem_of_find?_eq_some search) (same.trans isFound.symm)
    simp [equal, Entry.rank] at otherKey

/-- A holder is queued for addition, in `timers_` or moved out of it. -/
theorem mem_holders (q : TimerQueue) (queued : List Nat) (taken : List Entry) (id : Nat) :
    id ∈ q.holders queued taken ↔
      id ∈ queued ∨ id ∈ q.timers.map Entry.timer ∨ id ∈ taken.map Entry.timer := by
  simp [TimerQueue.holders]

/-- A cancellation that finds the timer only in `timers_` removes it. -/
theorem cancelled_gone {s t : System} (sound : Sound s) (id : Nat) (created : id < s.queue.created)
    (only : onlyInTimers s id) (queue : t.queue = s.queue.cancelInLoop (some id))
    (queued : t.queued = s.queued) (phase : t.phase = s.phase) : Gone id t := by
  obtain ⟨unqueued, notAwaiting, notAgain⟩ := only
  have erased := cancelInLoop_erases s.queue id sound.consistent.distinctTimers
  obtain ⟨kept, _, same⟩ := TimerQueue.cancelInLoop_eq s.queue (some id)
  constructor
  · rw [queue, same]
    exact created
  · rw [queue, queued, phase, mem_holders]
    rintro (stillQueued | inTimers | awaiting)
    · exact unqueued stillQueued
    · exact erased inTimers
    · exact notAwaiting awaiting
  · intro repeating
    rw [queue, same] at repeating
    rw [queue, queued, phase, mem_holders]
    rintro (stillQueued | inTimers | expired)
    · exact unqueued stillQueued
    · exact erased inTimers
    · exact notAgain repeating expired

/-- A timer that is gone stays so when no step gives it a place. -/
theorem gone_kept {s t : System} {id : Nat} (gone : Gone id s)
    (created : s.queue.created ≤ t.queue.created)
    (repeats : (t.queue.objects id).repeats = (s.queue.objects id).repeats)
    (waiting : id ∈ t.queue.holders t.queued t.phase.awaiting →
      id ∈ s.queue.holders s.queued s.phase.awaiting)
    (again : id ∈ t.queue.holders t.queued t.phase.expired →
      id ∈ s.queue.holders s.queued s.phase.expired) : Gone id t where
  created := Nat.lt_of_lt_of_le gone.created created
  waiting := fun held => gone.waiting (waiting held)
  again := fun repeating held => gone.again (repeats ▸ repeating) (again held)

/-- Creating another timer gives the gone one no place. -/
theorem gone_created {s t : System} {id : Nat} (gone : Gone id s) (timer : Timer)
    (created : t.queue.created = s.queue.created + 1)
    (objects : t.queue.objects = TimerQueue.setObject s.queue.objects s.queue.created timer)
    (phase : t.phase = s.phase)
    (held : ∀ taken, (t.queue.holders t.queued taken).Perm
      (s.queue.created :: s.queue.holders s.queued taken)) : Gone id t := by
  have other : id ≠ s.queue.created := Nat.ne_of_lt gone.created
  have held' : ∀ taken, id ∈ t.queue.holders t.queued taken →
      id ∈ s.queue.holders s.queued taken := fun taken member =>
    (List.mem_cons.mp ((held taken).mem_iff.mp member)).resolve_left other
  apply gone_kept gone
  · omega
  · rw [objects, TimerQueue.setObject_other _ _ _ _ other]
  · rw [phase]
    exact held' _
  · rw [phase]
    exact held' _

/-- Erasing entries gives the gone timer no place. -/
theorem gone_cancel {s t : System} {id : Nat} (gone : Gone id s) (cancelledId : Option Nat)
    (queue : t.queue = s.queue.cancelInLoop cancelledId) (queued : t.queued = s.queued)
    (phase : t.phase = s.phase) : Gone id t := by
  obtain ⟨kept, sublist, same⟩ := TimerQueue.cancelInLoop_eq s.queue cancelledId
  have fewer : ∀ taken, id ∈ t.queue.holders t.queued taken →
      id ∈ s.queue.holders s.queued taken := by
    intro taken member
    rw [queue, same, queued, mem_holders] at member
    rw [mem_holders]
    exact member.imp_right (Or.imp_left fun inKept => (sublist.map _).subset inKept)
  apply gone_kept gone
  · rw [queue, same]
  · rw [queue, same]
  · rw [phase]
    exact fewer _
  · rw [phase]
    exact fewer _

/-- `reset` inserts the repeating timers of its vector, and this one is not among
them. -/
theorem gone_reset {s : System} {id : Nat} (gone : Gone id s) {now : Int} {expired : List Entry}
    {next : Nat} (running : s.phase = .running now expired next) (done : expired.length ≤ next) :
    Gone id { s with queue := s.queue.reset expired (TimeStamp.ofTimePoint now), phase := .idle } := by
  have created := (TimerQueue.reset_objects s.queue expired (TimeStamp.ofTimePoint now)).1
  have finished : s.phase.awaiting = [] := by
    simpa [running, Phase.awaiting] using done
  have vector : s.phase.expired = expired := by rw [running]; rfl
  have unheld : id ∉ (s.queue.reset expired (TimeStamp.ofTimePoint now)).holders s.queued [] := by
    cases again : (s.queue.objects id).repeats with
    | false =>
      have kept := TimerQueue.count_holders_reset s.queue s.queued expired
        (TimeStamp.ofTimePoint now) id again
      have zero := List.count_eq_zero.mpr (finished ▸ gone.waiting)
      exact List.count_eq_zero.mp (kept.trans zero)
    | true =>
      intro held
      exact gone.again again (vector ▸ TimerQueue.mem_of_mem_holders_reset s.queue s.queued
        expired (TimeStamp.ofTimePoint now) id held)
  exact ⟨created ▸ gone.created, unheld, fun _ => unheld⟩

/-- Every step leaves a gone timer gone, and begins another timer's callback if
any.

Proof: additions place other timers, `handle_read` only moves entries out of the
container, and `reset` inserts the repeating timers of its vector, which does not
hold this one if it repeats. -/
theorem step_gone (id : Nat) (s : System) (label : Label) (t : System) (gone : Gone id s)
    (sound : Sound s) (taken : step s label = .ok t) :
    Gone id t ∧ ∃ more, t.fired = s.fired ++ more ∧ ∀ firing ∈ more, firing.timer ≠ id := by
  have silent : t.fired = s.fired →
      ∃ more, t.fired = s.fired ++ more ∧ ∀ firing ∈ more, firing.timer ≠ id :=
    fun same => ⟨[], by simp [same], by simp⟩
  have consistent := sound.consistent
  cases step_transition taken with
  | add time interval userCode =>
    refine ⟨?_, silent rfl⟩
    obtain ⟨created, objects⟩ := TimerQueue.addTimerInLoop_objects
      (s.queue.makeTimer time interval) s.queue.created
    exact gone_created gone ⟨time, interval⟩ created objects rfl
      (fun taken => TimerQueue.holders_addTimerInLoop _ _ _ _)
  | addRemote time interval =>
    refine ⟨gone_created gone ⟨time, interval⟩ rfl rfl rfl ?_, silent rfl⟩
    intro taken
    simp [System.queued, TimerQueue.holders, TimerQueue.makeTimer]
  | cancel other handle => exact ⟨gone_cancel gone other rfl rfl rfl, silent rfl⟩
  | cancelRemote other handle =>
    have queued : System.queued { s with pending := s.pending ++ [.cancel other] } = s.queued := by
      simp [System.queued]
    refine ⟨gone_kept gone (Nat.le_refl _) rfl ?_ ?_, silent rfl⟩
    · rw [queued]
      exact fun held => held
    · rw [queued]
      exact fun held => held
  | runAdd other rest idle first =>
    obtain ⟨created, objects⟩ := TimerQueue.addTimerInLoop_objects s.queue other
    have held := runAdd_holders first
    refine ⟨gone_kept gone (Nat.le_of_eq created.symm) ?_ (held _).mem_iff.mp (held _).mem_iff.mp,
      silent rfl⟩
    simp only [objects]
  | runCancel other rest idle first =>
    refine ⟨gone_cancel gone other rfl ?_ rfl, silent rfl⟩
    simp [System.queued, first]
  | handleRead now expired queue idle returned =>
    rw [idle] at consistent
    obtain ⟨_, created, objects, _, held, _, _, _⟩ :=
      (consistent.setTimerFd s.queue.timerFd.readTimerFd).getExpired _ returned
    refine ⟨gone_kept gone (Nat.le_of_eq created.symm) ?_ ?_ ?_, silent rfl⟩
    · simp only [objects]
    · rw [idle]
      exact held.mem_iff.mp
    · rw [idle]
      exact held.mem_iff.mp
  | beginCallback now expired next entry running present =>
    have waiting := awaiting_next running present
    have holders := TimerQueue.holders_taken s.queue s.queued entry (expired.drop (next + 1))
    constructor
    · refine gone_kept gone (Nat.le_refl _) rfl ?_ ?_
      · rw [waiting]
        exact fun held => holders.mem_iff.mpr (List.mem_cons_of_mem _ held)
      · rw [running]
        exact fun held => held
    · refine ⟨[s.firing now entry], rfl, ?_⟩
      intro firing begun
      obtain rfl := List.mem_singleton.mp begun
      intro same
      apply gone.waiting
      rw [waiting, holders.mem_iff]
      exact List.mem_cons.mpr (Or.inl same.symm)
  | finishCallback now expired next calling =>
    refine ⟨gone_kept gone (Nat.le_refl _) rfl ?_ ?_, silent rfl⟩
    · rw [calling]
      exact fun held => held
    · rw [calling]
      exact fun held => held
  | reset now expired next running done => exact ⟨gone_reset gone running done, silent rfl⟩
  | fire armed =>
    exact ⟨gone_kept gone (Nat.le_refl _) rfl (fun held => held) (fun held => held), silent rfl⟩

/-- A handle names a timer that was created. The queue of functors keeps the
handles it was given. -/
def HandlesExist (s : System) : Prop :=
  ∀ id, Functor.cancel (some id) ∈ s.pending → id < s.queue.created

/-- No step takes a timer back. -/
theorem created_grows (s : System) (label : Label) (t : System) (sound : Sound s)
    (taken : step s label = .ok t) : s.queue.created ≤ t.queue.created := by
  cases step_transition taken with
  | add time interval userCode =>
    rw [(TimerQueue.addTimerInLoop_objects _ _).1]
    exact Nat.le_succ _
  | addRemote time interval => exact Nat.le_succ _
  | runAdd id rest idle first =>
    rw [(TimerQueue.addTimerInLoop_objects _ _).1]
  | cancel id handle =>
    obtain ⟨kept, _, same⟩ := TimerQueue.cancelInLoop_eq s.queue id
    simp only [same]
    exact Nat.le_refl _
  | runCancel id rest idle first =>
    obtain ⟨kept, _, same⟩ := TimerQueue.cancelInLoop_eq s.queue id
    simp only [same]
    exact Nat.le_refl _
  | handleRead now expired queue idle returned =>
    have consistent := sound.consistent
    rw [idle] at consistent
    obtain ⟨_, created, _⟩ :=
      (consistent.setTimerFd s.queue.timerFd.readTimerFd).getExpired _ returned
    exact Nat.le_of_eq created.symm
  | reset now expired next running done =>
    exact Nat.le_of_eq (TimerQueue.reset_objects s.queue expired _).1.symm
  | cancelRemote _ _ => exact Nat.le_refl _
  | beginCallback _ _ _ _ _ _ => exact Nat.le_refl _
  | finishCallback _ _ _ _ => exact Nat.le_refl _
  | fire _ => exact Nat.le_refl _

/-- What a run keeps apart from any one timer. -/
structure Kept (s : System) : Prop where
  sound : Sound s
  handles : HandlesExist s

/-- Every step keeps this. -/
theorem step_kept (s : System) (label : Label) (t : System) (kept : Kept s)
    (taken : step s label = .ok t) : Kept t := by
  have grows := created_grows s label t kept.sound taken
  constructor
  · exact step_sound s label t kept.sound taken
  · intro id member
    have earlier : Functor.cancel (some id) ∈ s.pending → id < t.queue.created := fun before =>
      Nat.lt_of_lt_of_le (kept.handles id before) grows
    cases step_transition taken with
    | addRemote time interval =>
      rcases List.mem_append.mp member with before | new
      · exact earlier before
      · simp at new
    | cancelRemote other handle =>
      rcases List.mem_append.mp member with before | new
      · exact earlier before
      · obtain rfl : other = some id := by simpa [eq_comm] using new
        simpa [System.handle] using handle
    | runAdd other rest idle first => exact earlier (first ▸ List.mem_cons_of_mem _ member)
    | runCancel other rest idle first => exact earlier (first ▸ List.mem_cons_of_mem _ member)
    | _ => exact earlier member

/-- The step that executes a cancellation in place makes the timer gone and
begins nothing. -/
theorem step_cancelled (s : System) (label : Label) (t : System) (id : Nat) (kept : Kept s)
    (cancel : cancelled s label = some id) (only : onlyInTimers s id)
    (taken : step s label = .ok t) : Gone id t ∧ t.fired = s.fired := by
  cases step_transition taken with
  | cancel other handle =>
    obtain rfl : other = some id := by simpa [cancelled] using cancel
    have created : id < s.queue.created := by simpa [System.handle] using handle
    exact ⟨cancelled_gone kept.sound id created only rfl rfl rfl, rfl⟩
  | runCancel other rest idle first =>
    obtain rfl : other = some id := by simpa [cancelled, idle, first] using cancel
    have created : id < s.queue.created := kept.handles id (first ▸ List.mem_cons_self)
    refine ⟨cancelled_gone kept.sound id created only rfl ?_ rfl, rfl⟩
    simp [System.queued, first]
  | runAdd other rest idle first => simp [cancelled, idle, first] at cancel
  | _ => simp [cancelled] at cancel

/-- Once a `cancel_in_loop` of a timer has been executed while nothing but
`timers_` could bring the timer back, its callback is not begun again in the rest
of the run. -/
theorem cancelled_timer_silent (before after : List Label) (label : Label) (middle s : System)
    (id : Nat) (reached : run step initial before = .ok middle)
    (cancel : cancelled middle label = some id) (only : onlyInTimers middle id)
    (continued : run step middle (label :: after) = .ok s) :
    ∃ more, s.fired = middle.fired ++ more ∧ ∀ firing ∈ more, firing.timer ≠ id := by
  have kept : Kept middle := invariant step Kept step_kept before initial middle
    ⟨initial_sound, by simp [HandlesExist, initial]⟩ reached
  obtain ⟨next, taken, rest⟩ := (run_cons _ _ _ _ _).mp continued
  obtain ⟨gone, same⟩ := step_cancelled middle label next id kept cancel only taken
  have silent := invariant step
    (fun s => Gone id s ∧ Sound s ∧
      ∃ more, s.fired = next.fired ++ more ∧ ∀ firing ∈ more, firing.timer ≠ id)
    (by
      rintro s label t ⟨gone, sound, earlier, fired, others⟩ taken
      obtain ⟨stillGone, later, extended, othersToo⟩ := step_gone id s label t gone sound taken
      refine ⟨stillGone, step_sound s label t sound taken, earlier ++ later, ?_, ?_⟩
      · rw [extended, fired, List.append_assoc]
      · intro firing member
        rcases List.mem_append.mp member with first | second
        · exact others firing first
        · exact othersToo firing second)
    after next s ⟨gone, step_sound middle label next kept.sound taken, [], by simp, by simp⟩ rest
  rw [same] at silent
  exact silent.2.2

/-- A one-shot timer expires while a repeating one waits. -/
def firstExpires : List Label :=
  [.add (.ofTimePoint 10) ⟨false, 0⟩, .add (.ofTimePoint 50) ⟨true, 5⟩, .handleRead 20,
    .beginCallback]

/-- The callback of the first cancels the second, and time passes. -/
def cancelsOther : List Label := [.cancel (some 1), .finishCallback, .reset, .handleRead 60]

/-- The timer cancelled by another timer's callback begins no more. -/
theorem cancelled_timer_silent_other_callback :
    ∃ middle s, run step initial firstExpires = .ok middle ∧ run step middle cancelsOther = .ok s ∧
      ∃ more, s.fired = middle.fired ++ more ∧ ∀ firing ∈ more, firing.timer ≠ 1 := by
  have computed : (run step initial firstExpires).map
      (fun middle => (decide (onlyInTimers middle 1), (run step middle cancelsOther).isOk)) =
      .ok (true, true) := by decide +kernel
  obtain ⟨middle, reached, computed⟩ := (map_returned _ _ _).mp computed
  simp only [Prod.mk.injEq, decide_eq_true_eq] at computed
  cases continued : run step middle cancelsOther with
  | error fault => simp [continued, Except.isOk, Except.toBool] at computed
  | ok s =>
    exact ⟨middle, s, reached, continued, cancelled_timer_silent firstExpires _ (.cancel (some 1))
      middle s 1 reached rfl computed.1 continued⟩

/-- A repeating timer expires, and its callback begins. -/
def selfExpires : List Label :=
  [.add (.ofTimePoint 10) ⟨true, 5⟩, .handleRead 20, .beginCallback]

/-- It cancels itself from its callback, and time passes. -/
def cancelsSelf : List Label :=
  [.cancel (some 0), .finishCallback, .reset, .handleRead 10000, .beginCallback]

/-- A timer that cancels itself begins again. -/
theorem cancel_self_fires_again :
    ¬ ∀ (before after : List Label) (label : Label) (middle s : System) (id : Nat),
      run step initial before = .ok middle → cancelled middle label = some id →
      run step middle (label :: after) = .ok s →
      ∃ more, s.fired = middle.fired ++ more ∧ ∀ firing ∈ more, firing.timer ≠ id := by
  intro claimed
  have computed : (run step initial selfExpires).map (fun middle =>
      (middle.fired.map Firing.timer,
        (run step middle cancelsSelf).map (fun s => s.fired.map Firing.timer))) =
      .ok ([0], .ok [0, 0]) := by decide +kernel
  obtain ⟨middle, reached, computed⟩ := (map_returned _ _ _).mp computed
  simp only [Prod.mk.injEq] at computed
  obtain ⟨once, computed⟩ := computed
  obtain ⟨s, continued, twice⟩ := (map_returned _ _ _).mp computed
  obtain ⟨more, same, others⟩ := claimed selfExpires _ (.cancel (some 0)) middle s 0 reached rfl
    continued
  rw [same, List.map_append, once] at twice
  have later : more.map Firing.timer = [0] := List.append_cancel_left twice
  obtain ⟨firing, member, isSelf⟩ :=
    List.mem_map.mp (later ▸ List.mem_cons_self : 0 ∈ more.map Firing.timer)
  exact others firing member isSelf

end ReactorNetwork.TimerCancel
