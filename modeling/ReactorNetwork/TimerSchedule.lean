import ReactorNetwork.TimerConservation

/-!
# When the callbacks of a timer begin

A timer is due at the time it was created with, and a repeating one again an interval
after the clock reading of the `handle_read` that ran it. In between its object moves
through the queue of additions, the container and the vector of expired entries, may be
cancelled from any of them, and is restarted in place; other timers expire and are
restarted around it.

For each timer the callbacks that begin are nevertheless the beginning of one series,
which the clock readings alone determine. None begins before it is due, and the series
cannot run ahead of its interval however often `handle_read` is called.
-/

namespace ReactorNetwork

namespace TimerQueue

variable {q : TimerQueue} {queued : List Nat} {taken : List Entry}

/-- A round of `reset` restarts the timer of its entry if that repeats. -/
theorem resetEntry_object (now : TimeStamp) (q : TimerQueue) (entry : Entry) (id : Nat) :
    (q.resetEntry now entry).objects id =
      if id = entry.timer ∧ (q.objects id).repeats = true then (q.objects id).restart now
      else q.objects id := by
  unfold resetEntry
  by_cases same : id = entry.timer
  · subst same
    split <;> simp_all [insert, restart, TimerQueue.setObject]
  · split <;> simp [insert, restart, TimerQueue.setObject, same]

/-- A timer that has a place after `reset` was in the expired vector, repeats and was
restarted, or had its place before and was left alone. -/
theorem Consistent.reset_held (consistent : Consistent q queued taken) (now : TimeStamp)
    (id : Nat) (held : id ∈ (q.reset taken now).holders queued []) :
    (id ∈ taken.map Entry.timer ∧ (q.objects id).repeats = true ∧
      (q.reset taken now).objects id = (q.objects id).restart now) ∨
    (id ∈ q.holders queued [] ∧ (q.reset taken now).objects id = q.objects id) := by
  obtain ⟨fd, same⟩ := reset_eq q taken now
  rw [same] at held ⊢
  clear same
  induction taken generalizing q with
  | nil => exact Or.inr ⟨held, rfl⟩
  | cons entry rest inductionHypothesis =>
    have places := (holders_taken q queued entry rest).nodup_iff.mp consistent.distinct
    have unheld := (List.nodup_cons.mp places).1
    have object := resetEntry_object now q entry id
    rcases inductionHypothesis (consistent.resetEntry now) held with
      ⟨later, repeats, restarted⟩ | ⟨kept, untouched⟩
    · have other : id ≠ entry.timer := by
        rintro rfl
        obtain ⟨twin, inRest, named⟩ := List.mem_map.mp later
        exact unheld (named ▸ holder_of_entry (List.mem_append_right _ inRest))
      rw [if_neg (fun both => other both.1)] at object
      rw [object] at repeats restarted
      exact Or.inl ⟨List.mem_cons_of_mem _ later, repeats, restarted⟩
    · have before := (holders_resetEntry now q entry queued []).mem_iff.mp kept
      have alone : id ∈ q.holders queued [] → id ≠ entry.timer := by
        rintro held rfl
        apply unheld
        simp only [holders, List.map_append, List.mem_append] at held ⊢
        tauto
      simp only [List.foldl_cons]
      rw [untouched]
      split at before
      · rename_i repeats
        rcases List.mem_cons.mp ((holders_taken q queued entry []).mem_iff.mp before) with
          rfl | earlier
        · rw [if_pos ⟨rfl, repeats⟩] at object
          exact Or.inl ⟨List.mem_cons_self, repeats, object⟩
        · rw [if_neg (fun both => alone earlier both.1)] at object
          exact Or.inr ⟨earlier, object⟩
      · rw [if_neg (fun both => alone before both.1)] at object
        exact Or.inr ⟨before, object⟩

end TimerQueue

namespace TimerSchedule

open Runs TimerLoop

/-- The timer a step creates. -/
def creation : Label → Option Timer
  | .add time interval => some ⟨time, interval⟩
  | .addRemote time interval => some ⟨time, interval⟩
  | _ => none

/-- The timers as they were created, by number. -/
def creations (labels : List Label) : List Timer := labels.filterMap creation

/-- The callbacks of one timer, in the order they began. -/
def firings (s : System) (id : Nat) : List Firing :=
  s.fired.filter (fun firing => firing.timer = id)

/-- When a timer is due after some of its callbacks. -/
def due (timer : Timer) (before : List Firing) : TimeStamp :=
  match before.getLast? with
  | none => timer.expiration
  | some last => Timer.addTime (TimeStamp.ofTimePoint last.now) timer.interval

/-- Each callback was due and began after that; only a repeating timer has a second. -/
def Scheduled (timer : Timer) (firings : List Firing) : Prop :=
  ∀ n firing, firings[n]? = some firing →
    firing.expiration = due timer (firings.take n) ∧ firing.expiration.val < firing.now ∧
      (0 < n → timer.repeats = true)

/-- A callback that was due and began after that goes on with the schedule. -/
theorem Scheduled.concat {timer : Timer} {before : List Firing} {firing : Firing}
    (scheduled : Scheduled timer before) (expiration : firing.expiration = due timer before)
    (began : firing.expiration.val < firing.now)
    (again : before ≠ [] → timer.repeats = true) : Scheduled timer (before ++ [firing]) := by
  intro n current found
  by_cases earlier : n < before.length
  · rw [List.getElem?_append_left earlier] at found
    rw [List.take_append_of_le_length (Nat.le_of_lt earlier)]
    exact scheduled n current found
  · have last : n = before.length := by
      have inside := (List.getElem?_eq_some_iff.mp found).1
      simp only [List.length_append, List.length_singleton] at inside
      omega
    subst last
    rw [List.getElem?_concat_length] at found
    obtain rfl := Option.some.inj found
    rw [List.take_left]
    exact ⟨expiration, began, fun some_ => again (List.ne_nil_of_length_pos some_)⟩

/-- The callback after `n` others begins later than `n` intervals after the first was due,
by a nanosecond for each.

Proof: induction over the callbacks; each is due an interval after the reading of the one
before. -/
theorem Scheduled.paced {timer : Timer} {firings : List Firing}
    (scheduled : Scheduled timer firings) (n : Nat) (firing : Firing)
    (found : firings[n]? = some firing) :
    timer.expiration.val + n * (1000 * timer.interval.microseconds + 1) < firing.now := by
  induction n generalizing firing with
  | zero =>
    obtain ⟨expiration, began, _⟩ := scheduled 0 firing found
    simp only [List.take_zero, due, List.getLast?_nil] at expiration
    rw [expiration] at began
    simpa using began
  | succ n inductionHypothesis =>
    obtain ⟨inside, _⟩ := List.getElem?_eq_some_iff.mp found
    obtain ⟨earlier, present⟩ : ∃ earlier, firings[n]? = some earlier :=
      ⟨_, List.getElem?_eq_getElem (by omega)⟩
    obtain ⟨expiration, began, _⟩ := scheduled (n + 1) firing found
    have last : (firings.take (n + 1)).getLast? = some earlier := by
      rw [List.getLast?_take, if_neg (Nat.succ_ne_zero n), Nat.add_sub_cancel, present]
      rfl
    simp only [due, last, Timer.addTime, TimeStamp.ofTimePoint] at expiration
    rw [expiration] at began
    dsimp only at began
    have before := inductionHypothesis earlier present
    rw [Int.natCast_succ, Int.add_mul, Int.one_mul]
    omega

/-- Where each timer stands in its series. One that waits, in any place, has the expiration
it is due at. One whose callback has begun in the running `handle_read` keeps its old one,
and its last callback has the reading it will be restarted with. -/
structure OnTime (past : List Label) (s : System) : Prop where
  sound : Sound s
  created : s.queue.created = (creations past).length
  begun : ∀ firing ∈ s.fired, firing.timer < s.queue.created
  scheduled : ∀ id timer, (creations past)[id]? = some timer → Scheduled timer (firings s id)
  interval : ∀ id timer, (creations past)[id]? = some timer →
    id ∈ s.queue.holders s.queued s.phase.expired →
    (s.queue.objects id).interval = timer.interval
  waiting : ∀ id timer, (creations past)[id]? = some timer →
    id ∈ s.queue.holders s.queued s.phase.awaiting →
    (s.queue.objects id).expiration = due timer (firings s id) ∧
      (firings s id ≠ [] → timer.repeats = true)
  resting : ∀ now, s.phase.now = some now → ∀ entry ∈ s.phase.expired,
    entry ∉ s.phase.awaiting →
    ∃ last, (firings s entry.timer).getLast? = some last ∧ last.now = now

/-- Before the first timer nothing is scheduled. -/
theorem initial_onTime : OnTime [] initial where
  sound := initial_sound
  created := rfl
  begun := by simp [initial]
  scheduled := by simp [creations]
  interval := by simp [creations]
  waiting := by simp [creations]
  resting := by simp [initial, Phase.now]

/-- A step that creates no timer. -/
theorem creations_silent {label : Label} (past : List Label) (silent : creation label = none) :
    creations (past ++ [label]) = creations past := by
  simp [creations, silent]

/-- A step that creates one. -/
theorem creations_concat {label : Label} {timer : Timer} (past : List Label)
    (made : creation label = some timer) :
    creations (past ++ [label]) = creations past ++ [timer] := by
  simp [creations, made]

/-- A timer is the new one or an earlier one. -/
theorem creations_found {past : List Label} {label : Label} {timer origin : Timer} {id : Nat}
    (made : creation label = some timer)
    (found : (creations (past ++ [label]))[id]? = some origin) :
    id = (creations past).length ∧ origin = timer ∨
      id ≠ (creations past).length ∧ (creations past)[id]? = some origin := by
  rw [creations_concat past made] at found
  by_cases new : id = (creations past).length
  · rw [new, List.getElem?_concat_length] at found
    exact Or.inl ⟨new, (Option.some.inj found).symm⟩
  · obtain ⟨inside, _⟩ := List.getElem?_eq_some_iff.mp found
    simp only [List.length_append, List.length_singleton] at inside
    rw [List.getElem?_append_left (by omega)] at found
    exact Or.inr ⟨new, found⟩

/-- A callback that begins is one more of its timer. -/
theorem firings_begun {s t : System} (firing : Firing) (fired : t.fired = s.fired ++ [firing])
    (id : Nat) :
    firings t id = firings s id ++ if firing.timer = id then [firing] else [] := by
  by_cases same : firing.timer = id <;> simp [firings, fired, same]

section Steps

variable {past : List Label} {s t : System} {label : Label}

/-- No callback of a timer that is not created yet has begun. -/
theorem OnTime.unbegun (onTime : OnTime past s) : firings s s.queue.created = [] := by
  apply List.filter_eq_nil_iff.mpr
  intro firing member
  have below := onTime.begun firing member
  simp only [decide_eq_true_eq]
  omega

/-- The timer whose callback is next waits in the vector of `handle_read` and nowhere
else. -/
theorem OnTime.next_alone (onTime : OnTime past s) {now : Int} {expired : List Entry} {next : Nat}
    {entry : Entry} (running : s.phase = .running now expired next)
    (present : expired[next]? = some entry) :
    entry.timer ∈ s.queue.holders s.queued s.phase.awaiting ∧
      entry.timer ∉ s.queue.holders s.queued (expired.drop (next + 1)) := by
  have waiting := awaiting_next running present
  constructor
  · rw [waiting]
    exact TimerQueue.holder_of_entry (List.mem_append_right _ List.mem_cons_self)
  · have places := (onTime.sound.consistent.forget (List.Sublist.refl _)
      (TimerConservation.awaiting_sublist s.phase)).distinct
    rw [waiting, (TimerQueue.holders_taken _ _ _ _).nodup_iff] at places
    exact (List.nodup_cons.mp places).1

/-- A step that creates no timer, begins no callback and restarts none keeps the timers
on time, if no timer gains a place. -/
theorem onTime_moved (onTime : OnTime past s) (sound : Sound t)
    (silent : creation label = none) (created : t.queue.created = s.queue.created)
    (objects : t.queue.objects = s.queue.objects) (fired : t.fired = s.fired)
    (held : ∀ id ∈ t.queue.holders t.queued t.phase.expired,
      id ∈ s.queue.holders s.queued s.phase.expired)
    (waits : ∀ id ∈ t.queue.holders t.queued t.phase.awaiting,
      id ∈ s.queue.holders s.queued s.phase.awaiting)
    (rests : ∀ now, t.phase.now = some now → ∀ entry ∈ t.phase.expired,
      entry ∉ t.phase.awaiting →
      s.phase.now = some now ∧ entry ∈ s.phase.expired ∧ entry ∉ s.phase.awaiting) :
    OnTime (past ++ [label]) t := by
  have same : ∀ id, firings t id = firings s id := fun id => by simp only [firings, fired]
  constructor
  case sound => exact sound
  case created => rw [creations_silent past silent, created, onTime.created]
  case begun => rw [fired, created]; exact onTime.begun
  all_goals simp only [creations_silent past silent, objects, same]
  case scheduled => exact onTime.scheduled
  case interval =>
    exact fun id timer origin holder => onTime.interval id timer origin (held id holder)
  case waiting =>
    exact fun id timer origin holder => onTime.waiting id timer origin (waits id holder)
  case resting =>
    intro now reading entry expired finished
    obtain ⟨before, inside, done⟩ := rests now reading entry expired finished
    exact onTime.resting now before entry inside done

/-- As long as the phase stays, only the places matter. -/
theorem onTime_kept (onTime : OnTime past s) (sound : Sound t)
    (silent : creation label = none) (created : t.queue.created = s.queue.created)
    (objects : t.queue.objects = s.queue.objects) (fired : t.fired = s.fired)
    (phase : t.phase = s.phase)
    (held : ∀ taken, ∀ id ∈ t.queue.holders t.queued taken,
      id ∈ s.queue.holders s.queued taken) : OnTime (past ++ [label]) t := by
  refine onTime_moved onTime sound silent created objects fired ?_ ?_ ?_
  · rw [phase]; exact held _
  · rw [phase]; exact held _
  · rw [phase]
    exact fun now reading entry expired finished => ⟨reading, expired, finished⟩

/-- A new timer is due at the time it is created with. -/
theorem onTime_created (onTime : OnTime past s) (sound : Sound t) (timer : Timer)
    (made : creation label = some timer)
    (created : t.queue.created = s.queue.created + 1)
    (objects : t.queue.objects = TimerQueue.setObject s.queue.objects s.queue.created timer)
    (phase : t.phase = s.phase) (fired : t.fired = s.fired)
    (held : ∀ taken, (t.queue.holders t.queued taken).Perm
      (s.queue.created :: s.queue.holders s.queued taken)) : OnTime (past ++ [label]) t := by
  have same : ∀ id, firings t id = firings s id := fun id => by simp only [firings, fired]
  have silent := onTime.unbegun
  have origins : ∀ id origin, (creations (past ++ [label]))[id]? = some origin →
      id = s.queue.created ∧ origin = timer ∨
        id ≠ s.queue.created ∧ (creations past)[id]? = some origin := by
    rw [onTime.created]
    exact fun id origin found => creations_found made found
  have kept : ∀ id, id ≠ s.queue.created → t.queue.objects id = s.queue.objects id := by
    intro id other
    rw [objects, TimerQueue.setObject_other _ _ _ _ other]
  have new : t.queue.objects s.queue.created = timer := by
    rw [objects]
    simp [TimerQueue.setObject]
  constructor
  case sound => exact sound
  case created => simp [creations_concat past made, created, onTime.created]
  case begun =>
    rw [fired, created]
    exact fun firing member => Nat.lt_succ_of_lt (onTime.begun firing member)
  case scheduled =>
    intro id origin found
    rw [same]
    rcases origins id origin found with ⟨rfl, rfl⟩ | ⟨other, before⟩
    · rw [silent]
      exact fun n firing present => by simp at present
    · exact onTime.scheduled id origin before
  case interval =>
    intro id origin found holder
    rw [phase, (held _).mem_iff] at holder
    rcases origins id origin found with ⟨rfl, rfl⟩ | ⟨other, before⟩
    · rw [new]
    · rw [kept id other]
      exact onTime.interval id origin before ((List.mem_cons.mp holder).resolve_left other)
  case waiting =>
    intro id origin found holder
    rw [phase, (held _).mem_iff] at holder
    rw [same]
    rcases origins id origin found with ⟨rfl, rfl⟩ | ⟨other, before⟩
    · rw [new, silent]
      exact ⟨rfl, fun begun => absurd rfl begun⟩
    · rw [kept id other]
      exact onTime.waiting id origin before ((List.mem_cons.mp holder).resolve_left other)
  case resting =>
    rw [phase]
    simp only [same]
    exact onTime.resting

/-- A callback that begins is the next of its timer's series. -/
theorem onTime_begun (onTime : OnTime past s) {now : Int} {expired : List Entry} {next : Nat}
    {entry : Entry}
    (sound : Sound { s with
      phase := .calling now expired next, fired := s.fired ++ [s.firing now entry] })
    (running : s.phase = .running now expired next) (present : expired[next]? = some entry) :
    OnTime (past ++ [.beginCallback]) { s with
      phase := .calling now expired next, fired := s.fired ++ [s.firing now entry] } := by
  have waiting := awaiting_next running present
  have consistent := onTime.sound.consistent
  have inside : entry ∈ s.phase.expired := by
    rw [running]
    exact List.mem_of_getElem? present
  obtain ⟨holder, alone⟩ := onTime.next_alone running present
  have begun := firings_begun (s := s) (t := { s with
      phase := .calling now expired next, fired := s.fired ++ [s.firing now entry] })
    (s.firing now entry) rfl
  constructor
  case sound => exact sound
  case created => exact onTime.created.trans (by rw [creations_silent past rfl])
  case begun =>
    intro firing member
    rcases List.mem_append.mp member with earlier | new
    · exact onTime.begun firing earlier
    · obtain rfl := List.mem_singleton.mp new
      exact consistent.existing _ (TimerQueue.holder_of_entry (List.mem_append_right _ inside))
  all_goals simp only [creations_silent past (rfl : creation .beginCallback = none), begun]
  case scheduled =>
    intro id timer origin
    have before := onTime.scheduled id timer origin
    by_cases this : (s.firing now entry).timer = id
    · rw [if_pos this]
      obtain rfl : entry.timer = id := this
      obtain ⟨expiration, again⟩ := onTime.waiting _ timer origin holder
      refine before.concat expiration ?_ again
      have key := consistent.keyed entry (List.mem_append_right _ inside)
      have due := onTime.sound.due now (by rw [running]; rfl) entry inside
      rwa [key] at due
    · rw [if_neg this, List.append_nil]
      exact before
  case interval =>
    intro id timer origin held
    exact onTime.interval id timer origin (by rw [running]; exact held)
  case waiting =>
    intro id timer origin held
    have other : (s.firing now entry).timer ≠ id := by
      rintro rfl
      exact alone held
    rw [if_neg other, List.append_nil]
    apply onTime.waiting id timer origin
    rw [waiting, (TimerQueue.holders_taken _ _ _ _).mem_iff]
    exact List.mem_cons_of_mem _ held
  case resting =>
    intro reading same other member finished
    obtain rfl : now = reading := Option.some.inj same
    by_cases this : (s.firing now entry).timer = other.timer
    · rw [if_pos this]
      exact ⟨s.firing now entry, List.getLast?_concat, rfl⟩
    · rw [if_neg this, List.append_nil]
      apply onTime.resting now (by rw [running]; rfl) other (by rw [running]; exact member)
      rw [waiting]
      intro either
      rcases List.mem_cons.mp either with rfl | later
      · exact this rfl
      · exact finished later

/-- A `reset` gives each repeating timer of its vector the expiration it is next due at. -/
theorem onTime_reset (onTime : OnTime past s) {now : Int} {expired : List Entry} {next : Nat}
    (sound : Sound { s with
      queue := s.queue.reset expired (TimeStamp.ofTimePoint now), phase := .idle })
    (running : s.phase = .running now expired next) (done : expired.length ≤ next) :
    OnTime (past ++ [.reset]) { s with
      queue := s.queue.reset expired (TimeStamp.ofTimePoint now), phase := .idle } := by
  have finished : s.phase.awaiting = [] := by
    simpa [running, Phase.awaiting] using done
  have moved : s.phase.expired = expired := by rw [running]; rfl
  have consistent := onTime.sound.consistent
  rw [moved] at consistent
  obtain ⟨created, _⟩ := TimerQueue.reset_objects s.queue expired (TimeStamp.ofTimePoint now)
  have places := consistent.reset_held (TimeStamp.ofTimePoint now)
  have known : ∀ id timer, (creations past)[id]? = some timer →
      id ∈ s.queue.holders s.queued expired →
      (s.queue.objects id).interval = timer.interval := by
    intro id timer origin held
    exact onTime.interval id timer origin (by rw [moved]; exact held)
  have inVector : ∀ id ∈ expired.map Entry.timer, id ∈ s.queue.holders s.queued expired := by
    intro id listed
    simp only [TimerQueue.holders, List.map_append, List.mem_append]
    exact Or.inr (Or.inr listed)
  constructor
  case sound => exact sound
  case created => exact created.trans (onTime.created.trans (by rw [creations_silent past rfl]))
  case begun => exact fun firing member => created ▸ onTime.begun firing member
  all_goals simp only [creations_silent past (rfl : creation .reset = none)]
  case scheduled => exact onTime.scheduled
  case interval =>
    intro id timer origin held
    rcases places id held with ⟨listed, repeats, restarted⟩ | ⟨before, untouched⟩
    · rw [restarted, Timer.restart, if_pos repeats]
      exact known id timer origin (inVector id listed)
    · rw [untouched]
      apply known id timer origin
      simp only [TimerQueue.holders, List.map_append, List.mem_append] at before ⊢
      tauto
  case waiting =>
    intro id timer origin held
    rcases places id held with ⟨listed, repeats, restarted⟩ | ⟨before, untouched⟩
    · have interval := known id timer origin (inVector id listed)
      obtain ⟨entry, member, rfl⟩ := List.mem_map.mp listed
      obtain ⟨last, latest, reading⟩ := onTime.resting now (by rw [running]; rfl) entry
        (by rw [moved]; exact member) (by rw [finished]; exact List.not_mem_nil)
      have next_ : due timer (firings s entry.timer) =
          Timer.addTime (TimeStamp.ofTimePoint now) timer.interval := by
        rw [due, latest, ← reading]
      refine ⟨?_, fun _ => ?_⟩
      · rw [restarted, Timer.restart, if_pos repeats, interval]
        exact next_.symm
      · rw [Timer.repeats, ← interval]
        exact repeats
    · rw [untouched]
      exact onTime.waiting id timer origin (by rw [finished]; exact before)
  case resting => exact fun reading none_ => by cases none_

/-- Every step keeps the timers on time, cancellations included. -/
theorem step_onTime (past : List Label) (s : System) (label : Label) (t : System)
    (onTime : OnTime past s) (taken : step s label = .ok t) : OnTime (past ++ [label]) t := by
  have sound : Sound t := step_sound s label t onTime.sound taken
  have consistent := onTime.sound.consistent
  cases step_transition taken with
  | add time interval userCode =>
    obtain ⟨created, objects⟩ := TimerQueue.addTimerInLoop_objects
      (s.queue.makeTimer time interval) s.queue.created
    exact onTime_created onTime sound ⟨time, interval⟩ rfl created objects rfl rfl
      (fun taken => TimerQueue.holders_addTimerInLoop _ _ _ _)
  | addRemote time interval =>
    refine onTime_created onTime sound ⟨time, interval⟩ rfl rfl rfl rfl rfl ?_
    intro taken
    simp [System.queued, TimerQueue.holders, TimerQueue.makeTimer]
  | cancel id handle =>
    obtain ⟨kept, sublist, same⟩ := TimerQueue.cancelInLoop_eq s.queue id
    refine onTime_kept onTime sound rfl (by rw [same]) (by rw [same]) rfl rfl ?_
    intro taken other held
    rw [same] at held
    exact ((sublist.append_right taken).map _).append_left _ |>.subset held
  | cancelRemote id handle =>
    refine onTime_kept onTime sound rfl rfl rfl rfl rfl ?_
    intro taken other held
    simpa [System.queued] using held
  | runAdd id rest idle first =>
    obtain ⟨created, objects⟩ := TimerQueue.addTimerInLoop_objects s.queue id
    exact onTime_kept onTime sound rfl created objects rfl rfl
      (fun taken other held => (runAdd_holders first taken).mem_iff.mp held)
  | runCancel id rest idle first =>
    obtain ⟨kept, sublist, same⟩ := TimerQueue.cancelInLoop_eq s.queue id
    refine onTime_kept onTime sound rfl (by rw [same]) (by rw [same]) rfl rfl ?_
    intro taken other held
    rw [same] at held
    have queued : s.queued = System.queued { s with pending := rest } := by
      simp [System.queued, first]
    rw [queued]
    exact ((sublist.append_right taken).map _).append_left _ |>.subset held
  | handleRead now expired queue idle returned =>
    rw [idle] at consistent
    obtain ⟨_, created, objects, _, held, _, _, _⟩ :=
      (consistent.setTimerFd s.queue.timerFd.readTimerFd).getExpired _ returned
    refine onTime_moved onTime sound rfl created objects rfl ?_ ?_ ?_
    · intro id member
      rw [idle]
      exact held.mem_iff.mp member
    · intro id member
      rw [idle]
      exact held.mem_iff.mp member
    · exact fun reading _ entry member finished => absurd member finished
  | beginCallback now expired next entry running present =>
    exact onTime_begun onTime sound running present
  | finishCallback now expired next calling =>
    refine onTime_moved onTime sound rfl rfl rfl rfl ?_ ?_ ?_
    · rw [calling]; exact fun id member => member
    · rw [calling]; exact fun id member => member
    · rw [calling]
      exact fun reading same entry member finished => ⟨same, member, finished⟩
  | reset now expired next running done => exact onTime_reset onTime sound running done
  | fire armed =>
    exact onTime_kept onTime sound rfl rfl rfl rfl rfl (fun taken id member => member)

end Steps

/-- In every run, the callbacks of each timer begin on its schedule: the first after the
time the timer was created with, each other after the interval counted from the reading of
the one before, and never ahead of the interval. -/
theorem callbacks_on_schedule (labels : List Label) (s : System)
    (reached : run step initial labels = .ok s) (id : Nat) (timer : Timer)
    (created : (creations labels)[id]? = some timer) :
    Scheduled timer (firings s id) ∧
      ∀ (n : Nat) firing, (firings s id)[n]? = some firing →
        timer.expiration.val + n * (1000 * timer.interval.microseconds + 1) < firing.now := by
  have onTime : OnTime labels s :=
    history step OnTime step_onTime labels initial s initial_onTime reached
  have scheduled := onTime.scheduled id timer created
  exact ⟨scheduled, scheduled.paced⟩

/-- A timer repeats every five microseconds; its first callback adds another timer, which is
cancelled before the second. -/
def repeated : List Label :=
  [.add (.ofTimePoint 10) ⟨true, 5⟩, .fire, .handleRead 20, .beginCallback,
    .add (.ofTimePoint 30) ⟨false, 0⟩, .finishCallback, .reset, .cancel (some 1), .fire,
    .handleRead 6000, .beginCallback, .finishCallback, .reset]

/-- The repeating timer keeps its schedule, and the cancelled one has none to keep. -/
theorem callbacks_on_schedule_repeated :
    ∃ s, run step initial repeated = .ok s ∧ (firings s 0).map Firing.now = [20, 6000] ∧
      Scheduled ⟨.ofTimePoint 10, ⟨true, 5⟩⟩ (firings s 0) ∧
      Scheduled ⟨.ofTimePoint 30, ⟨false, 0⟩⟩ (firings s 1) := by
  have computed : (run step initial repeated).map (fun s => (firings s 0).map Firing.now) =
      .ok [20, 6000] := by
    decide +kernel
  obtain ⟨s, reached, readings⟩ := (map_returned _ _ _).mp computed
  exact ⟨s, reached, readings, (callbacks_on_schedule repeated s reached 0 _ rfl).1,
    (callbacks_on_schedule repeated s reached 1 _ rfl).1⟩

end TimerSchedule

end ReactorNetwork
