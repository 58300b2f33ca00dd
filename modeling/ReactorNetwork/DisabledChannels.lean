import Mathlib.Algebra.Ring.Parity
import Mathlib.Logic.Function.Iterate
import ReactorNetwork.Epoller

/-!
# Channels without interest in the epoll poller

`disable_all` empties the mask and updates the poller, which looks at the status
before the mask: an added channel without interest is deleted from the kernel,
but a deleted one is added again, with the empty mask. So each call undoes the
one before it. The kernel watches the channel after every second call, and epoll
reports errors and hang-ups for it.

`handle_close` followed by `connect_destoryed` makes two such calls.
-/

namespace ReactorNetwork.DisabledChannels

open Runs Epoller

variable {Id : Type} [DecidableEq Id]

/-- One call of `disable_all` takes the descriptor out of the interest list, and
the given number of further calls leaves the list and the index as they are. -/
def StaysUnwatched (s : State Id) (id : Id) (further : Nat) : Prop :=
  ∃ once after, step s (.update id .disableAll) = .ok once ∧
    run step once (List.replicate further (.update id .disableAll)) = .ok after ∧
    once.interest (once.objects id).fd = none ∧ after.interest = once.interest ∧
    (after.objects id).index = (once.objects id).index

/-- What an update of a channel without interest makes of its status. -/
def toggled (index : Int) : Int := if index = kAdded then kDeleted else kAdded

/-- The update adds the channel exactly if it was not added. -/
theorem toggled_added (index : Int) : toggled index = kAdded ↔ index ≠ kAdded := by
  unfold toggled
  split
  case isTrue added => simp [added, kAdded, kDeleted]
  case isFalse other => simp [other]

/-- It leaves the channel added or deleted. -/
theorem toggled_status (index : Int) : toggled index = kAdded ∨ toggled index = kDeleted := by
  unfold toggled
  split
  · exact Or.inr rfl
  · exact Or.inl rfl

/-- A registered channel returns to its status after every second call. -/
theorem toggled_again (index : Int) (known : index = kAdded ∨ index = kDeleted) (count : Nat) :
    toggled^[count] index = index ↔ Even count := by
  have keeps : ∀ count, toggled^[count] index = kAdded ↔ (index = kAdded ↔ Even count) := by
    intro count
    induction count with
    | zero => simp
    | succ count inductionHypothesis =>
      rw [Function.iterate_succ_apply', toggled_added, ne_eq, inductionHypothesis,
        Nat.even_add_one]
      tauto
  have status : toggled^[count] index = kAdded ∨ toggled^[count] index = kDeleted := by
    cases count with
    | zero => exact known
    | succ count =>
      rw [Function.iterate_succ_apply']
      exact toggled_status _
  have different : kAdded ≠ kDeleted := by decide
  have exact_ := keeps count
  rcases known with rfl | rfl
  · simpa using exact_
  · rcases status with added | deleted
    · rw [added] at exact_ ⊢
      simp only [different, different.symm, true_iff, false_iff] at exact_ ⊢
      exact exact_
    · rw [deleted] at exact_ ⊢
      simp only [different.symm, false_iff, true_iff] at exact_ ⊢
      tauto

section Laws

variable {fdOf : Id → Int} {s : State Id}

/-- After calls of `disable_all`: the mask is empty, the status is the given one,
and only the channel's own entry of the interest list has changed. -/
structure Disabled (fdOf : Id → Int) (s t : State Id) (id : Id) (index : Int) : Prop where
  mirrors : Mirrors fdOf t
  index : (t.objects id).index = index
  events : (t.objects id).events = Channel.kNoneEvent
  others : ∀ fd, fd ≠ fdOf id → t.interest fd = s.interest fd

/-- One call of `disable_all` returns with the status toggled. -/
theorem disableAll_disabled (distinct : Function.Injective fdOf) (mirrors : Mirrors fdOf s)
    (id : Id) :
    ∃ t, step s (.update id .disableAll) = .ok t ∧
      Disabled fdOf s t id (toggled (s.objects id).index) := by
  obtain ⟨t, returned, changed⟩ := update_changes distinct mirrors id .disableAll
  have object := changed_same changed
  have index : nextIndex (s.objects id).index (s.objects id).disableAll =
      toggled (s.objects id).index := by
    simp [nextIndex, toggled, Channel.isNoneEvent, Channel.disableAll]
  refine ⟨t, returned, step_mirrors distinct s _ t mirrors returned, ?_, ?_, ?_⟩
  · rw [object]
    exact index
  · rw [object]
    rfl
  · intro fd other
    rw [changed.watched, if_neg other]

/-- Induction over the calls: each one returns and toggles the status. -/
theorem disableAll_repeated (distinct : Function.Injective fdOf) (id : Id) (index : Int)
    (count : Nat) (t : State Id) (disabled : Disabled fdOf s t id index) :
    ∃ u, run step t (List.replicate count (.update id .disableAll)) = .ok u ∧
      Disabled fdOf s u id (toggled^[count] index) := by
  induction count generalizing t index with
  | zero => exact ⟨t, rfl, disabled⟩
  | succ count inductionHypothesis =>
    obtain ⟨next, returned, again⟩ := disableAll_disabled distinct disabled.mirrors id
    rw [disabled.index] at again
    have continued : Disabled fdOf s next id (toggled index) :=
      ⟨again.mirrors, again.index, again.events,
        fun fd other => (again.others fd other).trans (disabled.others fd other)⟩
    obtain ⟨u, reached, last⟩ := inductionHypothesis (toggled index) next continued
    refine ⟨u, ?_, last⟩
    rw [List.replicate_succ, run_returned step returned]
    exact reached

omit [DecidableEq Id] in
/-- Without interest, the status decides the whole interest list. -/
theorem disabled_interest (distinct : Function.Injective fdOf) {t u : State Id} {id : Id}
    {first second : Int} (before : Disabled fdOf s t id first)
    (after : Disabled fdOf s u id second) (same : first = second) : u.interest = t.interest := by
  funext fd
  by_cases own : fd = fdOf id
  · rw [own, interest_own distinct after.mirrors, interest_own distinct before.mirrors]
    simp only [interestOf, after.index, after.events, before.index, before.events, same]
  · rw [after.others fd own, before.others fd own]

omit [DecidableEq Id] in
/-- A channel without interest is outside the kernel's list exactly when it is not
added. -/
theorem disabled_unwatched (distinct : Function.Injective fdOf) {t : State Id} {id : Id}
    {index : Int} (disabled : Disabled fdOf s t id index) :
    t.interest (t.objects id).fd = none ↔ index ≠ kAdded := by
  rw [disabled.mirrors.fds, interest_own distinct disabled.mirrors, interestOf, disabled.index]
  split
  case isTrue added => simp [added]
  case isFalse other => simp [other]

/-- Proof: the first call toggles the status and the further calls toggle it once
each. The list is unwatched after the first call if the channel was added, and
the same status comes back after an even number of calls. -/
theorem staysUnwatched_iff (distinct : Function.Injective fdOf) (mirrors : Mirrors fdOf s)
    (id : Id) (further : Nat) :
    StaysUnwatched s id further ↔ (s.objects id).index = kAdded ∧ Even further := by
  obtain ⟨once, first, disabled⟩ := disableAll_disabled distinct mirrors id
  obtain ⟨after, reached, repeated⟩ := disableAll_repeated distinct id _ further once disabled
  have unwatched := disabled_unwatched distinct disabled
  rw [ne_eq, toggled_added, not_not] at unwatched
  have again := toggled_again _ (toggled_status (s.objects id).index) further
  constructor
  · rintro ⟨otherOnce, otherAfter, otherFirst, otherReached, absent, _, index⟩
    obtain rfl := Except.ok.inj (first.symm.trans otherFirst)
    obtain rfl := Except.ok.inj (reached.symm.trans otherReached)
    rw [repeated.index, disabled.index] at index
    exact ⟨unwatched.mp absent, again.mp index⟩
  · rintro ⟨added, even⟩
    have same := again.mpr even
    refine ⟨once, after, first, reached, unwatched.mpr added, ?_, ?_⟩
    · exact disabled_interest distinct disabled repeated same.symm
    · rw [repeated.index, disabled.index, same]

end Laws

/-- In every state the poller reaches and for every channel, registered or not:
the channel is unwatched after `disable_all` and the given number of further
calls changes nothing, exactly when it was added to the kernel before the first
call and the number is even. So no channel stays unwatched whatever the number. -/
theorem stays_unwatched_iff_even (fdOf : Id → Int) (distinct : Function.Injective fdOf)
    (labels : List (Label Id)) (s : State Id) (reached : run step (initial fdOf) labels = .ok s)
    (id : Id) :
    (∀ further, StaysUnwatched s id further ↔ (s.objects id).index = kAdded ∧ Even further) ∧
    ¬ ∀ further, StaysUnwatched s id further := by
  have mirrors : Mirrors fdOf s :=
    Runs.invariant step (Mirrors fdOf) (step_mirrors distinct) labels (initial fdOf) s
      (initial_mirrors fdOf) reached
  have each := staysUnwatched_iff distinct mirrors id
  refine ⟨each, fun always => ?_⟩
  have odd := ((each 1).mp (always 1)).2
  exact absurd odd (by decide)

/-- A reading channel is unwatched after one call, and watched again after the
second. -/
theorem stays_unwatched_reading :
    ∃ s, run step (initial (fun id : Nat => (id : Int))) [.update 3 .enableReading] = .ok s ∧
      StaysUnwatched s 3 0 ∧ ¬ StaysUnwatched s 3 1 := by
  have computed : (run step (initial (fun id : Nat => (id : Int)))
      [.update 3 .enableReading]).map (fun s => (s.objects 3).index) = .ok kAdded := by
    decide +kernel
  obtain ⟨s, reached, added⟩ := (map_returned _ _ _).mp computed
  have each := (stays_unwatched_iff_even (fun id : Nat => (id : Int))
    (fun left right same => Int.ofNat.inj same) [.update 3 .enableReading] s reached 3).1
  refine ⟨s, reached, (each 0).mpr ⟨added, by decide⟩, ?_⟩
  intro stays
  exact absurd ((each 1).mp stays).2 (by decide)

/-- An established connection is closed and destroyed: its second `disable_all`
puts the descriptor back into the interest list, with an empty mask. -/
theorem watched_again_after_close :
    ∃ s, run step (initial (fun id : Nat => (id : Int))) [.update 7 .enableReading] = .ok s ∧
      s.channels.lookup 7 = some 7 ∧ ¬ StaysUnwatched s 7 1 ∧
      ∃ t, run step s [.update 7 .disableAll, .update 7 .disableAll] = .ok t ∧
        t.interest 7 = some ⟨0#32, 7⟩ := by
  have computed : (run step (initial (fun id : Nat => (id : Int)))
      [.update 7 .enableReading]).map (fun s => s.channels.lookup 7) =
      .ok (some 7) := by
    decide +kernel
  have twice : (run step (initial (fun id : Nat => (id : Int)))
      ([.update 7 .enableReading] ++ [.update 7 .disableAll, .update 7 .disableAll])).map
        (fun t => (t.interest 7, (t.objects 7).index)) = .ok (some ⟨0#32, 7⟩, kAdded) := by
    decide +kernel
  have once : (run step (initial (fun id : Nat => (id : Int)))
      ([.update 7 .enableReading] ++ [.update 7 .disableAll])).map
        (fun t => (t.objects 7).index) = .ok kDeleted := by
    decide +kernel
  obtain ⟨s, reached, known⟩ := (map_returned _ _ _).mp computed
  rw [run_reached step reached] at twice once
  obtain ⟨t, repeated, observed⟩ := (map_returned _ _ _).mp twice
  obtain ⟨u, first, deleted⟩ := (map_returned _ _ _).mp once
  obtain ⟨watched, added⟩ := Prod.mk.inj observed
  refine ⟨s, reached, known, ?_, t, repeated, watched⟩
  rintro ⟨once, after, taken, further, _, _, index⟩
  rw [run_single] at first
  obtain rfl := Except.ok.inj (first.symm.trans taken)
  rw [run_returned step taken] at repeated
  obtain rfl := Except.ok.inj (repeated.symm.trans further)
  rw [added, deleted] at index
  exact absurd index (by decide)

end ReactorNetwork.DisabledChannels
