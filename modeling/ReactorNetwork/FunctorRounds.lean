import ReactorNetwork.FunctorQueue

/-!
# How long a queued functor waits

No wake-up reaches a poll, but every round of the loop ends in `do_pending_functors`. A
functor that is pushed while no batch runs is begun by the end of the next one; one that is
pushed while a batch runs, by a functor or by another thread, waits for the batch after it.
Nothing a functor or a callback pushes in between delays it further.

Between two batches the account is exact: the functors begun are those pushed before the
last swap, and what was pushed since is in the queue. So `loop` leaves behind what was pushed
after its last swap, and a later call of `loop` begins with it.
-/

namespace ReactorNetwork.FunctorRounds

open Runs EventLoop FunctorQueue

variable {Thread Functor : Type} [DecidableEq Thread]

/-- The end of `do_pending_functors`. -/
def endsBatch : Label Thread Functor → Bool
  | .lowerFlag => true
  | _ => false

/-- The steps that take no batch. -/
def keepsBatch : Label Thread Functor → Prop
  | .swap => False
  | _ => True

/-- How many batches have to end until the first `count` functors have begun. -/
def batchesLeft (count : Nat) (s : State Thread Functor) : Nat :=
  if count ≤ s.executed.length then 0
  else if count ≤ s.executed.length + s.position.remaining.length ∨ s.position.batch = none then 1
  else 2

section Steps

variable {loopThread : Thread} {s t : State Thread Functor} {label : Label Thread Functor}

omit [DecidableEq Thread] in
/-- A step that moves no functors ends no batch. -/
theorem endsBatch_plain (plain : label.movesFunctors = false) : endsBatch label = false := by
  cases label with
  | lowerFlag => cases plain
  | _ => rfl

/-- So many functors were pushed. -/
def Pushed (count : Nat) (s : State Thread Functor) : Prop :=
  count ≤ s.executed.length + s.position.remaining.length + s.pendingFunctors.length

/-- No step puts a pushed functor off, and the end of a batch brings it one batch nearer.

Proof: by the kind of step. A swap takes everything pushed into its batch, and a batch ends
with nothing of it left. -/
theorem step_batchesLeft (count : Nat) (s : State Thread Functor) (label : Label Thread Functor)
    (t : State Thread Functor) (all : Pushed count s) (taken : step loopThread s label = .ok t) :
    Pushed count t ∧
      batchesLeft count t ≤ batchesLeft count s - if endsBatch label then 1 else 0 := by
  unfold Pushed at all ⊢
  unfold batchesLeft
  cases step_moves taken with
  | push thread functor stays pending executed =>
    rw [stays, pending, executed, List.length_append]
    exact ⟨by omega, Nat.le_refl _⟩
  | swap flagged swapped pending executed =>
    have before : s.position.remaining = [] := by rw [flagged]; rfl
    have after : t.position.remaining = s.pendingFunctors.map Prod.snd := by rw [swapped]; rfl
    have idle : s.position.batch = none := by rw [flagged]; rfl
    simp only [before, List.length_nil, Nat.add_zero] at all
    rw [after, pending, executed, idle]
    simp only [List.length_map, List.length_nil, endsBatch]
    refine ⟨by omega, ?_⟩
    rw [if_pos (Or.inl all)]
    simp
  | beginFunctor functors next functor running present moved pending executed =>
    have before : s.position.remaining = functor :: functors.drop (next + 1) := by
      rw [running]
      exact drop_at present
    have after : t.position.remaining = functors.drop (next + 1) := by rw [moved]; rfl
    have idle : s.position.batch ≠ none := by rw [running]; simp [Position.batch]
    have still : t.position.batch ≠ none := by rw [moved]; simp [Position.batch]
    rw [before] at all ⊢
    rw [after, pending, executed]
    simp only [List.length_append, List.length_cons, List.length_nil, endsBatch, idle, still,
      or_false, Bool.false_eq_true, if_false, Nat.sub_zero] at all ⊢
    refine ⟨by omega, ?_⟩
    split_ifs <;> omega
  | finishFunctor functors next calling moved pending executed =>
    have same : t.position.remaining = s.position.remaining := by rw [moved, calling]; rfl
    have batch : t.position.batch = s.position.batch := by rw [moved, calling]; rfl
    rw [same, batch, pending, executed]
    exact ⟨all, Nat.le_refl _⟩
  | lowerFlag functors next running done moved pending executed =>
    have before : s.position.remaining = [] := by
      rw [running]
      exact List.drop_of_length_le done
    have after : t.position.remaining = [] := by rw [moved]; rfl
    have idle : s.position.batch ≠ none := by rw [running]; simp [Position.batch]
    have still : t.position.batch = none := by rw [moved]; rfl
    rw [before] at all ⊢
    rw [after, still, pending, executed]
    simp only [List.length_nil, Nat.add_zero, endsBatch, idle, or_false] at all ⊢
    refine ⟨all, ?_⟩
    split_ifs <;> simp_all
  | call _ plain stays pending executed =>
    rw [stays, pending, executed, endsBatch_plain plain]
    exact ⟨all, Nat.le_refl _⟩
  | move _ plain leaves enters _ pending executed =>
    rw [remaining_of_batch_none leaves] at all ⊢
    rw [remaining_of_batch_none enters, leaves, enters, pending, executed, endsBatch_plain plain]
    exact ⟨all, Nat.le_refl _⟩

/-- The functors of the last batch and those pushed since. -/
structure SinceSwap (earlier : List Functor) (since : List (Label Thread Functor))
    (s : State Thread Functor) : Prop where
  begun : s.executed ++ s.position.remaining = earlier
  queued : s.pendingFunctors.map Prod.snd = since.filterMap pushed

/-- Every step but a swap keeps the functors of the last batch, begun or not, and adds
what it pushes to those since. -/
theorem step_sinceSwap (earlier : List Functor) (since : List (Label Thread Functor))
    (s : State Thread Functor) (label : Label Thread Functor) (t : State Thread Functor)
    (account : SinceSwap earlier since s) (kept : keepsBatch label)
    (taken : step loopThread s label = .ok t) : SinceSwap earlier (since ++ [label]) t := by
  obtain ⟨begun, queued⟩ := account
  rw [← begun]
  constructor
  · cases step_moves taken with
    | swap => exact absurd kept not_false
    | push thread functor stays pending executed => rw [stays, executed]
    | beginFunctor functors next functor running present moved pending executed =>
      simp [running, moved, executed, Position.remaining, drop_at present]
    | finishFunctor functors next calling moved pending executed =>
      simp [calling, moved, executed, Position.remaining]
    | lowerFlag functors next running done moved pending executed =>
      simp [running, moved, executed, Position.remaining, done]
    | call _ plain stays pending executed => rw [stays, executed]
    | move _ plain leaves enters _ pending executed =>
      rw [remaining_of_batch_none leaves, remaining_of_batch_none enters, executed]
  · rw [List.filterMap_append, ← queued]
    cases step_moves taken with
    | swap => exact absurd kept not_false
    | push thread functor stays pending executed => simp [pending, pushed]
    | beginFunctor _ _ _ _ _ _ pending => simp [pending, pushed]
    | finishFunctor _ _ _ _ pending => simp [pending, pushed]
    | lowerFlag _ _ _ _ _ pending => simp [pending, pushed]
    | call _ plain stays pending executed => simp [pending, pushed_none label plain]
    | move _ plain leaves enters _ pending executed => simp [pending, pushed_none label plain]

end Steps

/-- In every run the functors pushed are those executed, remaining in the batch and
pending, in order. -/
theorem run_conserved {loopThread : Thread} {labels : List (Label Thread Functor)}
    {s : State Thread Functor} (reached : run (step loopThread) initial labels = .ok s) :
    Conserved labels s :=
  history (step loopThread) Conserved (step_conserved loopThread) labels initial s rfl reached

/-- In every run the functors pushed so far have begun, first of all, when two batches have
ended, and when one has if no batch was running. Whenever no batch is running, the functors
begun are those pushed before the last swap, and those pushed since are in the queue.

Proof: the number of batches that have to end is a measure that no step raises and that the
end of a batch lowers. The second part follows the two halves of the account from the swap
on. -/
theorem functors_begin_within_two_batches (loopThread : Thread)
    (labels : List (Label Thread Functor)) (s : State Thread Functor)
    (reached : run (step loopThread) initial labels = .ok s) :
    (∀ before after middle, labels = before ++ after →
      run (step loopThread) initial before = .ok middle →
      2 ≤ after.countP endsBatch ∨ middle.position.batch = none ∧ 1 ≤ after.countP endsBatch →
      before.filterMap pushed <+: s.executed) ∧
    ∀ before since, labels = before ++ .swap :: since → (∀ label ∈ since, keepsBatch label) →
      s.position.batch = none →
      s.executed = before.filterMap pushed ∧
        s.pendingFunctors.map Prod.snd = since.filterMap pushed := by
  constructor
  · rintro before after middle rfl toMiddle enough
    have continued := (run_reached (step loopThread) toMiddle after).symm.trans reached
    have earlier : Conserved before middle := run_conserved toMiddle
    have all : Conserved (before ++ after) s := run_conserved reached
    unfold Conserved at earlier all
    have length := congrArg List.length earlier
    simp only [List.length_append, List.length_map] at length
    have bounded := lowered (step loopThread) endsBatch (Pushed (before.filterMap pushed).length)
      (batchesLeft (before.filterMap pushed).length) (step_batchesLeft _) after middle s
      (Nat.le_of_eq length.symm) continued
    have none_ : batchesLeft (before.filterMap pushed).length s = 0 := by
      have start : batchesLeft (before.filterMap pushed).length middle ≤ after.countP endsBatch := by
        unfold batchesLeft
        rcases enough with two | ⟨idle, one⟩
        · split_ifs <;> omega
        · rw [idle]
          split_ifs <;> simp_all
      omega
    have begun : (before.filterMap pushed).length ≤ s.executed.length := by
      by_contra fewer
      rw [batchesLeft, if_neg fewer] at none_
      split at none_ <;> cases none_
    rw [List.filterMap_append, List.append_assoc] at all
    exact List.prefix_of_prefix_length_le (List.prefix_append _ _)
      (all ▸ List.prefix_append _ _) begun
  · rintro before since rfl unswapped idle
    obtain ⟨middle, toSwap, continued⟩ := (run_append _ _ _ _ _).mp reached
    obtain ⟨swapped, taken, rest⟩ := (run_cons _ _ _ _ _).mp continued
    have earlier : Conserved before middle := run_conserved toSwap
    have entered : SinceSwap (before.filterMap pushed) [] swapped := by
      rw [← earlier]
      cases step_moves taken with
      | swap flagged swappedOut pending executed =>
        constructor
        · simp [flagged, swappedOut, executed, Position.remaining]
        · simp [pending]
      | call _ plain _ _ _ => cases plain
      | move _ plain _ _ _ _ _ => cases plain
    have account := guarded_history (step loopThread) (fun _ label => keepsBatch label)
      (SinceSwap (before.filterMap pushed))
      (fun past state label next holds kept taken =>
        step_sinceSwap _ past state label next holds kept taken)
      [] since swapped s entered (along_labels _ _ _ _ unswapped) rest
    rw [List.nil_append] at account
    have begun := account.begun
    rw [remaining_of_batch_none idle, List.append_nil] at begun
    exact ⟨begun, account.queued⟩

/-- Thread 1 pushes while the batch of its first functor runs. -/
def pushedDuringBatch : List (Label Nat Nat) :=
  [.enterLoop, .push 1 10, .test 1, .wakeup 1, .enterPoll, .pollReturn [], .raiseFlag, .swap,
    .push 1 20]

/-- Two batches end, and a third functor is pushed behind them. -/
def twoBatches : List (Label Nat Nat) :=
  [.beginFunctor, .finishFunctor, .lowerFlag, .enterPoll, .pollReturn [], .raiseFlag] ++
    .swap :: [.beginFunctor, .finishFunctor, .lowerFlag, .push 2 30]

/-- A functor pushed during a batch begins in the next one, and one pushed behind both
waits. -/
theorem functors_begin_two_batches :
    ∃ s, run (step 0) initial (pushedDuringBatch ++ twoBatches) = .ok s ∧
      [10, 20] <+: s.executed ∧ s.executed = [10, 20] ∧
      s.pendingFunctors.map Prod.snd = [30] := by
  have during : (run (step 0) initial pushedDuringBatch).isOk = true := by decide +kernel
  have computed : (run (step 0) initial (pushedDuringBatch ++ twoBatches)).map
      (fun s => s.position.batch) = .ok none := by
    decide +kernel
  obtain ⟨s, reached, idle⟩ := (map_returned _ _ _).mp computed
  obtain ⟨soon, exactly⟩ := functors_begin_within_two_batches 0 _ s reached
  cases toMiddle : run (step 0) initial pushedDuringBatch with
  | error fault => simp [toMiddle, Except.isOk, Except.toBool] at during
  | ok middle =>
    refine ⟨s, reached, soon pushedDuringBatch twoBatches middle rfl toMiddle (Or.inl (by decide)),
      exactly (pushedDuringBatch ++ _) _ (List.append_assoc ..).symm ?_ idle⟩
    simp [keepsBatch]

end ReactorNetwork.FunctorRounds
