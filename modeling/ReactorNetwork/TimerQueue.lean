import ReactorNetwork.Machine
import ReactorNetwork.Multimap

/-!
# Timers and the timer queue

The timer objects, the multimap `timers_` and the timer descriptor, with the
functions of the queue as the source computes them. A timer object is named by
the number of its creation; a `TimerId` is such a name or the empty default.
The container is ordered by `TimeStamp`, whose comparison reads the time and
ignores whether the stamp is valid.

Times are nanoseconds since the epoch, as unbounded integers. An interval is a
`double` in the source; the timer reads it only through the test `interval > 0`
and the conversion `int(seconds * 1000000)`, so both results are carried and no
relation between them is assumed. What a callback does is not part of a timer.

The descriptor keeps the argument of the last `reset_timer_fd`, whether it is
armed and whether an expiration is unread. How far in the future the kernel is
asked to fire is outside this model.
-/

namespace ReactorNetwork

/-- A time point and whether the stamp was given one. A stamp that was not is the
epoch, which is where a time point starts. -/
structure TimeStamp where
  val : Int
  valid : Bool
  epoch : valid = false → val = 0
deriving DecidableEq, Repr

namespace TimeStamp

/-- The default constructor. -/
def unset : TimeStamp := ⟨0, false, fun _ => rfl⟩

/-- The constructor from a time point. -/
def ofTimePoint (time : Int) : TimeStamp := ⟨time, true, fun unset => by simp at unset⟩

end TimeStamp

/-- What a timer reads of its `double` interval. -/
structure Interval where
  positive : Bool
  microseconds : Int
deriving DecidableEq, Repr

/-- A timer, without its callback. -/
structure Timer where
  expiration : TimeStamp
  interval : Interval
deriving DecidableEq, Repr

namespace Timer

/-- `repeat_`, fixed by the constructor. -/
def repeats (timer : Timer) : Bool := timer.interval.positive

/-- `add_time`. -/
def addTime (timeStamp : TimeStamp) (interval : Interval) : TimeStamp :=
  TimeStamp.ofTimePoint (timeStamp.val + 1000 * interval.microseconds)

/-- `restart`: a repeating timer expires an interval from now, any other at no time. -/
def restart (timer : Timer) (now : TimeStamp) : Timer :=
  if timer.repeats then { timer with expiration := addTime now timer.interval }
  else { timer with expiration := TimeStamp.unset }

/-- A restart does not change whether a timer repeats. -/
@[simp] theorem restart_repeats (timer : Timer) (now : TimeStamp) :
    (timer.restart now).repeats = timer.repeats := by
  unfold restart
  split <;> rfl

/-- A repeating timer restarts with a valid expiration. -/
theorem restart_valid (timer : Timer) (now : TimeStamp) (repeating : timer.repeats = true) :
    (timer.restart now).expiration.valid = true := by
  simp [restart, repeating, addTime, TimeStamp.ofTimePoint]

end Timer

/-- An entry of `timers_`, with the number of its insertion. -/
structure Entry where
  key : TimeStamp
  timer : Nat
  stamp : Nat
deriving DecidableEq, Repr

namespace Entry

/-- What the container compares. -/
def rank (entry : Entry) : Int := entry.key.val

/-- Of two entries with one key the multimap keeps the one inserted first in front. -/
def older (left right : Entry) : Prop := left.stamp < right.stamp

end Entry

/-- The timer descriptor. -/
structure TimerFd where
  armed : Bool
  unread : Bool
  expiration : Option TimeStamp
deriving DecidableEq, Repr

namespace TimerFd

/-- `timerfd_settime` replaces the deadline and clears unread expirations. -/
def resetTimerFd (_fd : TimerFd) (expiration : TimeStamp) : TimerFd :=
  ⟨true, false, some expiration⟩

/-- `read_timer_fd`: the expirations are read, and the descriptor is no longer
readable. -/
def readTimerFd (fd : TimerFd) : TimerFd := { fd with unread := false }

/-- The kernel fires once and disarms. -/
def fire (fd : TimerFd) : TimerFd := { fd with armed := false, unread := true }

/-- An expiration is unread, or the descriptor is armed for no later time. -/
def Announces (fd : TimerFd) (time : Int) : Prop :=
  fd.unread = true ∨ fd.armed = true ∧ ∃ stamp, fd.expiration = some stamp ∧ stamp.val ≤ time

/-- A descriptor that was just set announces the time it was set to. -/
theorem announces_reset (fd : TimerFd) (stamp : TimeStamp) :
    (fd.resetTimerFd stamp).Announces stamp.val :=
  Or.inr ⟨rfl, stamp, rfl, le_refl _⟩

/-- What announces a time announces every later time. -/
theorem announces_later {fd : TimerFd} {time later : Int} (announces : fd.Announces time)
    (notBefore : time ≤ later) : fd.Announces later := by
  rcases announces with unread | ⟨armed, stamp, last, inTime⟩
  · exact Or.inl unread
  · exact Or.inr ⟨armed, stamp, last, le_trans inTime notBefore⟩

end TimerFd

/-- The timer queue, with every timer created so far and the descriptor. -/
structure TimerQueue where
  objects : Nat → Timer
  created : Nat
  timers : List Entry
  insertions : Nat
  timerFd : TimerFd

namespace TimerQueue

/-- The timers with one of them changed. -/
def setObject (objects : Nat → Timer) (id : Nat) (timer : Timer) : Nat → Timer :=
  fun other => if other = id then timer else objects other

/-- The constructor. No timer object exists yet. -/
def fresh : TimerQueue where
  objects := fun _ => ⟨TimeStamp.unset, ⟨false, 0⟩⟩
  created := 0
  timers := []
  insertions := 0
  timerFd := ⟨false, false, none⟩

/-- `std::make_shared<Timer>`. -/
def makeTimer (q : TimerQueue) (when_ : TimeStamp) (interval : Interval) : TimerQueue :=
  { q with
    objects := setObject q.objects q.created ⟨when_, interval⟩
    created := q.created + 1 }

/-- Insert the timer and say whether the earliest expiration changed. -/
def insert (q : TimerQueue) (id : Nat) : Bool × TimerQueue :=
  let when_ := (q.objects id).expiration
  let earliestChanged := match q.timers.head? with
    | none => true
    | some first => decide (when_.val < first.key.val)
  (earliestChanged, { q with
    timers := Multimap.insert Entry.rank ⟨when_, id, q.insertions⟩ q.timers
    insertions := q.insertions + 1 })

/-- `add_timer_in_loop`: the descriptor is set anew if the timer is now the earliest. -/
def addTimerInLoop (q : TimerQueue) (id : Nat) : TimerQueue :=
  let inserted := (q.insert id).2
  if (q.insert id).1 then
    { inserted with timerFd := inserted.timerFd.resetTimerFd (inserted.objects id).expiration }
  else inserted

/-- The expired entries move out; the source asserts that no entry is due at
exactly `now`. -/
def getExpired (q : TimerQueue) (now : TimeStamp) : Outcome (List Entry × TimerQueue) := do
  let last := Multimap.lowerBound Entry.rank now.val q.timers
  require (last.head?.all (fun entry => now.val < entry.key.val) = true)
  pure (Multimap.below Entry.rank now.val q.timers, { q with timers := last })

/-- Restart one timer object in place. -/
def restart (q : TimerQueue) (id : Nat) (now : TimeStamp) : TimerQueue :=
  { q with objects := setObject q.objects id ((q.objects id).restart now) }

/-- One round of the loop in `reset`. -/
def resetEntry (now : TimeStamp) (q : TimerQueue) (entry : Entry) : TimerQueue :=
  if (q.objects entry.timer).repeats then ((q.restart entry.timer now).insert entry.timer).2
  else q

/-- The expiration of the first timer, read from its object. -/
def nextExpire (q : TimerQueue) : TimeStamp :=
  match q.timers.head? with
  | none => TimeStamp.unset
  | some first => (q.objects first.timer).expiration

/-- The end of `reset`: arm the descriptor for the first timer. -/
def rearm (q : TimerQueue) : TimerQueue :=
  if q.nextExpire.valid then { q with timerFd := q.timerFd.resetTimerFd q.nextExpire } else q

/-- `reset`: the expired timers that repeat are inserted again, and the descriptor is
set to the earliest. -/
def reset (q : TimerQueue) (expired : List Entry) (now : TimeStamp) : TimerQueue :=
  (expired.foldl (resetEntry now) q).rearm

/-- A handle that cannot be locked names a timer no container holds, so the
search would not find it either. Erasing is by key. -/
def cancelInLoop (q : TimerQueue) (id : Option Nat) : TimerQueue :=
  match id with
  | none => q
  | some x =>
      match q.timers.find? (fun entry => entry.timer = x) with
      | none => q
      | some found => { q with timers := Multimap.eraseKey Entry.rank found.key.val q.timers }

/-- The timers waiting to be added, in `timers_` or moved out of it. -/
def holders (q : TimerQueue) (queued : List Nat) (taken : List Entry) : List Nat :=
  queued ++ (q.timers ++ taken).map Entry.timer

/-- Each timer object has one place: queued for addition, in `timers_` or moved
out of it by the running `handle_read`. Entries are keyed by the expiration
their timer has now, and `timers_` iterates by expiration and then by age. -/
structure Consistent (q : TimerQueue) (queued : List Nat) (taken : List Entry) : Prop where
  distinct : (q.holders queued taken).Nodup
  existing : ∀ id ∈ q.holders queued taken, id < q.created
  keyed : ∀ entry ∈ q.timers ++ taken, entry.key = (q.objects entry.timer).expiration
  ordered : Multimap.Ordered Entry.rank Entry.older q.timers
  stamped : ∀ entry ∈ q.timers, entry.stamp < q.insertions

variable {q : TimerQueue} {queued : List Nat} {taken : List Entry}

/-- Changing one timer leaves the others. -/
theorem setObject_other (objects : Nat → Timer) (id other : Nat) (timer : Timer)
    (different : other ≠ id) : setObject objects id timer other = objects other := by
  simp [setObject, different]

/-- A fresh queue holds nothing. -/
theorem fresh_consistent : Consistent fresh [] [] where
  distinct := List.nodup_nil
  existing := by simp [holders, fresh]
  keyed := by simp [fresh]
  ordered := List.Pairwise.nil
  stamped := by simp [fresh]

/-- An entry holds its timer. -/
theorem holder_of_entry {entry : Entry} (member : entry ∈ q.timers ++ taken) :
    entry.timer ∈ q.holders queued taken :=
  List.mem_append_right _ (List.mem_map_of_mem member)

/-- No timer has two entries in `timers_`. -/
theorem Consistent.distinctTimers (consistent : Consistent q queued taken) :
    (q.timers.map Entry.timer).Nodup := by
  have whole := consistent.distinct.sublist (List.sublist_append_right _ _)
  rw [List.map_append] at whole
  exact whole.sublist (List.sublist_append_left _ _)

/-- Forgetting holders keeps the rest consistent. -/
theorem Consistent.forget (consistent : Consistent q queued taken) {fewerQueued : List Nat}
    {fewerTaken : List Entry} (queuedSublist : fewerQueued.Sublist queued)
    (takenSublist : fewerTaken.Sublist taken) : Consistent q fewerQueued fewerTaken := by
  have entries : (q.timers ++ fewerTaken).Sublist (q.timers ++ taken) :=
    List.Sublist.append_left takenSublist _
  have sublist : (q.holders fewerQueued fewerTaken).Sublist (q.holders queued taken) :=
    queuedSublist.append (entries.map _)
  exact ⟨consistent.distinct.sublist sublist,
    fun id member => consistent.existing id (sublist.subset member),
    fun entry member => consistent.keyed entry (entries.subset member),
    consistent.ordered, consistent.stamped⟩

/-- Changing a timer object no place holds changes no key. -/
theorem Consistent.setObject (consistent : Consistent q queued taken) (id : Nat) (timer : Timer)
    (unheld : id ∉ q.holders queued taken) :
    Consistent { q with objects := TimerQueue.setObject q.objects id timer } queued taken where
  distinct := consistent.distinct
  existing := consistent.existing
  keyed := fun entry member => by
    have different : entry.timer ≠ id := fun same => unheld (same ▸ holder_of_entry member)
    simp only [setObject_other _ _ _ _ different]
    exact consistent.keyed entry member
  ordered := consistent.ordered
  stamped := consistent.stamped

/-- A new timer object has a name no place holds. -/
theorem Consistent.makeTimer (consistent : Consistent q queued taken) (when_ : TimeStamp)
    (interval : Interval) :
    Consistent (q.makeTimer when_ interval) queued taken ∧
      q.created ∉ q.holders queued taken := by
  have unheld : q.created ∉ q.holders queued taken := fun member =>
    absurd (consistent.existing _ member) (Nat.lt_irrefl _)
  have changed := consistent.setObject q.created ⟨when_, interval⟩ unheld
  refine ⟨⟨changed.distinct, ?_, changed.keyed, changed.ordered, changed.stamped⟩, unheld⟩
  intro id member
  exact Nat.lt_succ_of_lt (consistent.existing id member)

/-- An insertion puts the timer under its expiration. -/
theorem insert_timers (q : TimerQueue) (id : Nat) :
    (q.insert id).2.timers =
      Multimap.insert Entry.rank ⟨(q.objects id).expiration, id, q.insertions⟩ q.timers := rfl

/-- An insertion adds its timer to the holders. -/
theorem holders_insert (q : TimerQueue) (id : Nat) (queued : List Nat) (taken : List Entry) :
    ((q.insert id).2.holders queued taken).Perm (id :: q.holders queued taken) := by
  have inserted := Multimap.insert_perm Entry.rank
    ⟨(q.objects id).expiration, id, q.insertions⟩ q.timers
  have mapped := ((inserted.append_right taken).map Entry.timer).append_left queued
  exact mapped.trans (by simp [holders])

/-- Inserting a timer that has no place gives it one. -/
theorem Consistent.insert (consistent : Consistent q queued taken) (id : Nat)
    (unheld : id ∉ q.holders queued taken) (exists_ : id < q.created) :
    Consistent (q.insert id).2 queued taken where
  distinct := by
    rw [(holders_insert q id queued taken).nodup_iff]
    exact List.nodup_cons.mpr ⟨unheld, consistent.distinct⟩
  existing := fun other member => by
    rcases List.mem_cons.mp ((holders_insert q id queued taken).mem_iff.mp member) with rfl | held
    · exact exists_
    · exact consistent.existing other held
  keyed := fun entry member => by
    rcases List.mem_append.mp member with inTimers | inTaken
    · rw [insert_timers] at inTimers
      rcases Multimap.mem_insert.mp inTimers with rfl | earlier
      · rfl
      · exact consistent.keyed entry (List.mem_append_left _ earlier)
    · exact consistent.keyed entry (List.mem_append_right _ inTaken)
  ordered := Multimap.insert_ordered consistent.ordered consistent.stamped
  stamped := fun entry member => by
    rw [insert_timers] at member
    rcases Multimap.mem_insert.mp member with rfl | earlier
    · exact Nat.lt_succ_self _
    · exact Nat.lt_succ_of_lt (consistent.stamped entry earlier)

/-- The descriptor plays no part in consistency. -/
theorem Consistent.setTimerFd (consistent : Consistent q queued taken) (fd : TimerFd) :
    Consistent { q with timerFd := fd } queued taken :=
  ⟨consistent.distinct, consistent.existing, consistent.keyed, consistent.ordered,
    consistent.stamped⟩

/-- Apart from arming the descriptor, adding a timer is inserting it. -/
theorem addTimerInLoop_eq (q : TimerQueue) (id : Nat) :
    ∃ fd, q.addTimerInLoop id = { (q.insert id).2 with timerFd := fd } := by
  by_cases changed : (q.insert id).1 = true
  · exact ⟨_, if_pos changed⟩
  · exact ⟨(q.insert id).2.timerFd, if_neg changed⟩

/-- Adding a timer leaves the timer objects as they are. -/
theorem addTimerInLoop_objects (q : TimerQueue) (id : Nat) :
    (q.addTimerInLoop id).created = q.created ∧ (q.addTimerInLoop id).objects = q.objects := by
  obtain ⟨fd, same⟩ := addTimerInLoop_eq q id
  rw [same]
  exact ⟨rfl, rfl⟩

/-- Adding an existing timer object gives it a place. -/
theorem holders_addTimerInLoop (q : TimerQueue) (id : Nat) (queued : List Nat)
    (taken : List Entry) :
    ((q.addTimerInLoop id).holders queued taken).Perm (id :: q.holders queued taken) := by
  obtain ⟨fd, same⟩ := addTimerInLoop_eq q id
  rw [same]
  exact holders_insert q id queued taken

/-- Adding a timer that nobody holds keeps the queue consistent. -/
theorem Consistent.addTimerInLoop (consistent : Consistent q queued taken) (id : Nat)
    (unheld : id ∉ q.holders queued taken) (exists_ : id < q.created) :
    Consistent (q.addTimerInLoop id) queued taken := by
  obtain ⟨fd, same⟩ := addTimerInLoop_eq q id
  rw [same]
  exact (consistent.insert id unheld exists_).setTimerFd fd

/-- What `get_expired` leaves in the container and what it takes out. -/
theorem Consistent.getExpired (consistent : Consistent q queued []) (now : TimeStamp)
    {expired : List Entry} {next : TimerQueue}
    (returned : q.getExpired now = .ok (expired, next)) :
    next.timerFd = q.timerFd ∧ next.created = q.created ∧ next.objects = q.objects ∧
    Consistent next queued expired ∧
    (next.holders queued expired).Perm (q.holders queued []) ∧
    Multimap.Ordered Entry.rank Entry.older expired ∧
    (∀ entry ∈ expired, entry.key.val < now.val) ∧
    (∀ entry ∈ next.timers, now.val < entry.key.val) := by
  simp only [TimerQueue.getExpired, require_bind_ok, pure_ok] at returned
  obtain ⟨later, same⟩ := returned
  obtain ⟨rfl, rfl⟩ := Prod.mk.inj same
  have split := Multimap.below_append_lowerBound Entry.rank now.val q.timers
  have lastOrdered := Multimap.lowerBound_ordered now.val consistent.ordered
  have entries : (Multimap.lowerBound Entry.rank now.val q.timers ++
      Multimap.below Entry.rank now.val q.timers).Perm (q.timers ++ []) := by
    rw [List.append_nil]
    exact List.perm_append_comm.trans (List.Perm.of_eq split)
  have held : (TimerQueue.holders
      { q with timers := Multimap.lowerBound Entry.rank now.val q.timers } queued
      (Multimap.below Entry.rank now.val q.timers)).Perm (q.holders queued []) :=
    (entries.map Entry.timer).append_left queued
  have sublist : (Multimap.lowerBound Entry.rank now.val q.timers).Sublist q.timers :=
    List.dropWhile_sublist _
  refine ⟨rfl, rfl, rfl, ⟨?_, ?_, ?_, lastOrdered, ?_⟩, held,
    Multimap.below_ordered now.val consistent.ordered, fun entry => Multimap.below_less, ?_⟩
  · exact held.nodup_iff.mpr consistent.distinct
  · exact fun id member => consistent.existing id (held.mem_iff.mp member)
  · exact fun entry member => consistent.keyed entry (entries.mem_iff.mp member)
  · exact fun entry member => consistent.stamped entry (sublist.subset member)
  · intro entry member
    cases leads : (Multimap.lowerBound Entry.rank now.val q.timers).head? with
    | none =>
      rw [List.head?_eq_none_iff.mp leads] at member
      cases member
    | some first =>
      have notDue : now.val < first.key.val := by simpa [leads] using later
      exact lt_of_lt_of_le notDue (Multimap.head_least lastOrdered leads entry member)

/-- An entry moved out of the container is a holder. -/
theorem holders_taken (q : TimerQueue) (queued : List Nat) (entry : Entry) (taken : List Entry) :
    (q.holders queued (entry :: taken)).Perm (entry.timer :: q.holders queued taken) := by
  have moved : (q.holders queued (entry :: taken)) =
      (queued ++ q.timers.map Entry.timer) ++ entry.timer :: taken.map Entry.timer := by
    simp [holders]
  rw [moved]
  exact List.perm_middle.trans (by simp [holders])

/-- A round of `reset` gives a repeating timer its place back and drops a
one-shot timer. -/
theorem Consistent.resetEntry {entry : Entry}
    (consistent : Consistent q queued (entry :: taken)) (now : TimeStamp) :
    Consistent (q.resetEntry now entry) queued taken := by
  have held : (q.holders queued (entry :: taken)).Perm
      (entry.timer :: q.holders queued taken) := holders_taken q queued entry taken
  have distinct := List.nodup_cons.mp (held.nodup_iff.mp consistent.distinct)
  have exists_ : entry.timer < q.created :=
    consistent.existing _ (held.mem_iff.mpr List.mem_cons_self)
  have rest : Consistent q queued taken :=
    consistent.forget (List.Sublist.refl _) (List.sublist_cons_self _ _)
  unfold TimerQueue.resetEntry
  split
  · exact (rest.setObject entry.timer _ distinct.1).insert entry.timer distinct.1 exists_
  · exact rest

/-- The loop of `reset` empties the vector of expired entries. -/
theorem Consistent.resetLoop (consistent : Consistent q queued taken) (now : TimeStamp) :
    Consistent (taken.foldl (TimerQueue.resetEntry now) q) queued [] := by
  induction taken generalizing q with
  | nil => exact consistent
  | cons entry rest inductionHypothesis => exact inductionHypothesis (consistent.resetEntry now)

/-- Apart from arming the descriptor, `reset` is its loop. -/
theorem reset_eq (q : TimerQueue) (expired : List Entry) (now : TimeStamp) :
    ∃ fd, q.reset expired now = { expired.foldl (resetEntry now) q with timerFd := fd } := by
  unfold reset rearm
  split
  · exact ⟨_, rfl⟩
  · exact ⟨(expired.foldl (resetEntry now) q).timerFd, rfl⟩

/-- The reset gives every expired entry back or drops it, and keeps the queue
consistent. -/
theorem Consistent.reset (consistent : Consistent q queued taken) (now : TimeStamp) :
    Consistent (q.reset taken now) queued [] := by
  obtain ⟨fd, same⟩ := reset_eq q taken now
  rw [same]
  exact (consistent.resetLoop now).setTimerFd fd

/-- Restarting changes expirations, never whether a timer repeats. -/
theorem resetEntry_repeats (now : TimeStamp) (q : TimerQueue) (entry : Entry) (id : Nat) :
    ((q.resetEntry now entry).objects id).repeats = (q.objects id).repeats := by
  unfold resetEntry
  split
  · by_cases same : id = entry.timer
    · subst same
      simp [insert, restart, TimerQueue.setObject]
    · simp [insert, restart, TimerQueue.setObject, same]
  · rfl

/-- A reset creates no timer. -/
theorem resetEntry_created (now : TimeStamp) (q : TimerQueue) (entry : Entry) :
    (q.resetEntry now entry).created = q.created := by
  unfold resetEntry
  split <;> rfl

/-- What a round of `reset` does to the holders: a repeating timer stays one, a
one-shot timer taken out is dropped. -/
theorem holders_resetEntry (now : TimeStamp) (q : TimerQueue) (entry : Entry)
    (queued : List Nat) (taken : List Entry) :
    ((q.resetEntry now entry).holders queued taken).Perm
      (if (q.objects entry.timer).repeats then q.holders queued (entry :: taken)
        else q.holders queued taken) := by
  unfold resetEntry
  split
  · exact (holders_insert (q.restart entry.timer now) entry.timer queued taken).trans
      (holders_taken q queued entry taken).symm
  · exact List.Perm.refl _

/-- A `reset` keeps which timers exist and which of them repeat. -/
theorem reset_objects (q : TimerQueue) (expired : List Entry) (now : TimeStamp) :
    (q.reset expired now).created = q.created ∧
      ∀ id, ((q.reset expired now).objects id).repeats = (q.objects id).repeats := by
  obtain ⟨fd, same⟩ := reset_eq q expired now
  rw [same]
  clear same
  induction expired generalizing q with
  | nil => exact ⟨rfl, fun _ => rfl⟩
  | cons entry rest inductionHypothesis =>
    obtain ⟨created, repeats⟩ := inductionHypothesis (q.resetEntry now entry)
    constructor
    · exact created.trans (resetEntry_created now q entry)
    · intro id
      exact (repeats id).trans (resetEntry_repeats now q entry id)

/-- A `reset` gives every repeating timer of the expired vector its place back. -/
theorem mem_holders_reset (q : TimerQueue) (queued : List Nat) (expired : List Entry)
    (now : TimeStamp) (id : Nat) (repeating : (q.objects id).repeats = true)
    (held : id ∈ q.holders queued expired) : id ∈ (q.reset expired now).holders queued [] := by
  obtain ⟨fd, same⟩ := reset_eq q expired now
  rw [same]
  clear same
  induction expired generalizing q with
  | nil => exact held
  | cons entry rest inductionHypothesis =>
    apply inductionHypothesis (q.resetEntry now entry)
    · rw [resetEntry_repeats]
      exact repeating
    · rw [(holders_resetEntry now q entry queued rest).mem_iff]
      split
      · exact held
      · rename_i oneShot
        have other : id ≠ entry.timer := fun equal => oneShot (equal ▸ repeating)
        have still := (holders_taken q queued entry rest).mem_iff.mp held
        exact (List.mem_cons.mp still).resolve_left other

/-- A `reset` inserts nothing but timers of the expired vector. -/
theorem mem_of_mem_holders_reset (q : TimerQueue) (queued : List Nat) (expired : List Entry)
    (now : TimeStamp) (id : Nat) (held : id ∈ (q.reset expired now).holders queued []) :
    id ∈ q.holders queued expired := by
  obtain ⟨fd, same⟩ := reset_eq q expired now
  rw [same] at held
  clear same
  induction expired generalizing q with
  | nil => exact held
  | cons entry rest inductionHypothesis =>
    have after := inductionHypothesis (q.resetEntry now entry) held
    rw [(holders_resetEntry now q entry queued rest).mem_iff] at after
    split at after
    · exact after
    · exact (holders_taken q queued entry rest).mem_iff.mpr (List.mem_cons_of_mem _ after)

/-- A `reset` adds no one-shot timer to the container. -/
theorem count_holders_reset (q : TimerQueue) (queued : List Nat) (expired : List Entry)
    (now : TimeStamp) (id : Nat) (oneShot : (q.objects id).repeats = false) :
    ((q.reset expired now).holders queued []).count id = (q.holders queued []).count id := by
  obtain ⟨fd, same⟩ := reset_eq q expired now
  rw [same]
  clear same
  induction expired generalizing q with
  | nil => rfl
  | cons entry rest inductionHypothesis =>
    have round : ((q.resetEntry now entry).holders queued []).count id =
        (q.holders queued []).count id := by
      rw [(holders_resetEntry now q entry queued []).count_eq]
      split
      · rename_i repeating
        have other : entry.timer ≠ id := fun equal => by simp [← equal, repeating] at oneShot
        rw [(holders_taken q queued entry []).count_eq, List.count_cons_of_ne other]
      · rfl
    have rounds := inductionHypothesis (q.resetEntry now entry)
      ((resetEntry_repeats now q entry id).trans oneShot)
    exact rounds.trans round

/-- A cancellation only erases entries. -/
theorem cancelInLoop_eq (q : TimerQueue) (id : Option Nat) :
    ∃ kept, kept.Sublist q.timers ∧ q.cancelInLoop id = { q with timers := kept } := by
  unfold cancelInLoop
  split
  · exact ⟨q.timers, List.Sublist.refl _, rfl⟩
  · split
    · exact ⟨q.timers, List.Sublist.refl _, rfl⟩
    · exact ⟨_, List.filter_sublist, rfl⟩

/-- A cancellation keeps the queue consistent. -/
theorem Consistent.cancelInLoop (consistent : Consistent q queued taken) (id : Option Nat) :
    Consistent (q.cancelInLoop id) queued taken := by
  obtain ⟨kept, sublist, same⟩ := cancelInLoop_eq q id
  rw [same]
  have entries : (kept ++ taken).Sublist (q.timers ++ taken) := sublist.append_right taken
  have held : (TimerQueue.holders { q with timers := kept } queued taken).Sublist
      (q.holders queued taken) := (entries.map Entry.timer).append_left queued
  exact ⟨consistent.distinct.sublist held,
    fun other member => consistent.existing other (held.subset member),
    fun entry member => consistent.keyed entry (entries.subset member),
    consistent.ordered.sublist sublist,
    fun entry member => consistent.stamped entry (sublist.subset member)⟩

end TimerQueue

end ReactorNetwork
