import ReactorNetwork.TimerLoop

/-!
# Expired and cancelled entries

Two functions take entries out of `timers_`. `get_expired` searches the lower
bound of `now` and moves out what is in front of it; an entry that expires at
`now` itself is behind the bound, and the assertion after the search refuses it.
`cancel_in_loop` searches its timer by identity and erases by key, so entries of
the same expiration go with it.

Both are compared with what they are for: the entries due by `now`, and the one
entry of a timer. The laws hold of every container a run can reach, and they say
for which of these the functions do what they are for.
-/

namespace ReactorNetwork.TimerEntries

open Runs TimerLoop

/-- `get_expired` returns the entries due by `now` in the order of the container,
and changes the queue by leaving the others. -/
def SplitsAt (q : TimerQueue) (now : TimeStamp) : Prop :=
  ∃ expired, q.getExpired now =
      .ok (expired, { q with timers := q.timers.filter fun entry => now.val < entry.key.val }) ∧
    expired = q.timers.filter (fun entry => entry.key.val ≤ now.val) ∧
    Multimap.Ordered Entry.rank Entry.older expired

/-- The assertion of `get_expired` on an ordered container.

Proof: the first entry from the lower bound on is the least one that is not less
than `now`, so it is greater exactly when none is equal. -/
theorem asserted_iff {q : TimerQueue} (now : TimeStamp)
    (ordered : Multimap.Ordered Entry.rank Entry.older q.timers) :
    (Multimap.lowerBound Entry.rank now.val q.timers).head?.all
        (fun entry => now.val < entry.key.val) = true ↔
      ∀ entry ∈ q.timers, entry.key.val ≠ now.val := by
  have lastOrdered := Multimap.lowerBound_ordered now.val ordered
  have last := (Multimap.split_ordered now.val ordered).2
  have member : ∀ entry, entry ∈ Multimap.lowerBound Entry.rank now.val q.timers ↔
      entry ∈ q.timers ∧ now.val ≤ entry.key.val := by
    intro entry
    rw [last, List.mem_filter, decide_eq_true_iff]
    exact Iff.rfl
  cases leads : (Multimap.lowerBound Entry.rank now.val q.timers).head? with
  | none =>
    have empty := List.head?_eq_none_iff.mp leads
    simp only [Option.all_none, true_iff]
    intro entry inside same
    have behind := (member entry).mpr ⟨inside, le_of_eq same.symm⟩
    rw [empty] at behind
    cases behind
  | some first =>
    have least := Multimap.head_least lastOrdered leads
    obtain ⟨inside, behind⟩ := (member first).mp (List.mem_of_mem_head? leads)
    simp only [Option.all_some, decide_eq_true_eq]
    constructor
    · intro later entry present same
      have notLess : first.key.val ≤ entry.key.val :=
        least entry ((member entry).mpr ⟨present, le_of_eq same.symm⟩)
      omega
    · intro none
      exact lt_of_le_of_ne behind (fun same => none first inside same.symm)

/-- In an ordered queue the split is right exactly when no expiration equals the
time. -/
theorem splitsAt_iff {q : TimerQueue} (now : TimeStamp)
    (ordered : Multimap.Ordered Entry.rank Entry.older q.timers) :
    SplitsAt q now ↔ ∀ entry ∈ q.timers, entry.key.val ≠ now.val := by
  rw [← asserted_iff now ordered]
  constructor
  · rintro ⟨expired, returned, _, _⟩
    simp only [TimerQueue.getExpired, require_bind_ok, pure_ok] at returned
    exact returned.1
  · intro asserted
    have none := (asserted_iff now ordered).mp asserted
    obtain ⟨front, back⟩ := Multimap.split_ordered now.val ordered
    have due : Multimap.below Entry.rank now.val q.timers =
        q.timers.filter (fun entry => entry.key.val ≤ now.val) := by
      rw [front]
      apply List.filter_congr
      intro entry inside
      have different := none entry inside
      have same : entry.rank < now.val ↔ entry.key.val ≤ now.val := by
        simp only [Entry.rank]
        omega
      exact decide_eq_decide.mpr same
    have left : Multimap.lowerBound Entry.rank now.val q.timers =
        q.timers.filter (fun entry => now.val < entry.key.val) := by
      rw [back]
      apply List.filter_congr
      intro entry inside
      have different := none entry inside
      have same : now.val ≤ entry.rank ↔ now.val < entry.key.val := by
        simp only [Entry.rank]
        omega
      exact decide_eq_decide.mpr same
    refine ⟨Multimap.below Entry.rank now.val q.timers, ?_, due,
      Multimap.below_ordered now.val ordered⟩
    rw [TimerQueue.getExpired, require_passed asserted, left]
    rfl

/-- In every state of every run, `get_expired` splits the container at `now`
exactly when no entry expires at `now` itself. -/
theorem expired_splits_iff (labels : List Label) (s : System)
    (reached : run step initial labels = .ok s) (now : TimeStamp) :
    SplitsAt s.queue now ↔ ∀ entry ∈ s.queue.timers, entry.key.val ≠ now.val := by
  have sound := invariant step Sound step_sound labels initial s initial_sound reached
  exact splitsAt_iff now sound.consistent.ordered

/-- Three timers, two of them of the same expiration. -/
def tied : List Label :=
  [.add (.ofTimePoint 20) ⟨false, 0⟩, .add (.ofTimePoint 10) ⟨false, 0⟩,
    .add (.ofTimePoint 10) ⟨true, 5⟩]

/-- At a time between the expirations the split is right. -/
theorem expired_splits_tied :
    ∃ s, run step initial tied = .ok s ∧ s.queue.timers.map Entry.timer = [1, 2, 0] ∧
      SplitsAt s.queue (.ofTimePoint 15) := by
  have computed : (run step initial tied).map
      (fun s => s.queue.timers.map fun entry => (entry.timer, entry.key.val)) =
        .ok [(1, 10), (2, 10), (0, 20)] := by decide +kernel
  obtain ⟨s, reached, computed⟩ := (map_returned _ _ _).mp computed
  refine ⟨s, reached, ?_, ?_⟩
  · have timers := congrArg (List.map Prod.fst) computed
    simpa [Function.comp_def] using timers
  · apply (expired_splits_iff tied s reached (.ofTimePoint 15)).mpr
    intro entry inside
    have key : entry.key.val ∈ (s.queue.timers.map fun entry =>
        (entry.timer, entry.key.val)).map Prod.snd := by
      simpa using ⟨entry, inside, rfl⟩
    rw [computed] at key
    simp only [List.map_cons, List.map_nil, List.mem_cons, List.not_mem_nil, or_false] at key
    simp only [TimeStamp.ofTimePoint]
    omega

/-- A timer that expires at `now` itself fails the assertion. -/
theorem due_now_is_refused :
    ¬ ∀ (labels : List Label) (s : System) (now : TimeStamp),
      run step initial labels = .ok s → SplitsAt s.queue now := by
  intro claimed
  have computed : (run step initial [.add (.ofTimePoint 10) ⟨false, 0⟩]).map
      (fun s => (s.queue.getExpired (.ofTimePoint 10)).isOk) = .ok false := by decide +kernel
  obtain ⟨s, reached, computed⟩ := (map_returned _ _ _).mp computed
  obtain ⟨expired, returned, _⟩ := claimed _ s (.ofTimePoint 10) reached
  simp [returned, Except.isOk, Except.toBool] at computed

/-- `cancel_in_loop` erases the entry of its timer, if there is one, and changes
nothing else. -/
def ErasesOne (q : TimerQueue) (id : Option Nat) : Prop :=
  q.cancelInLoop id = { q with timers := q.timers.filter fun entry => some entry.timer ≠ id }

/-- No other entry has the expiration of the timer's entry. -/
def AloneAtKey (q : TimerQueue) (id : Option Nat) : Prop :=
  ∀ entry ∈ q.timers, some entry.timer = id →
    ∀ other ∈ q.timers, other.key.val = entry.key.val → other = entry

instance (q : TimerQueue) (id : Option Nat) : Decidable (AloneAtKey q id) :=
  inferInstanceAs (Decidable (∀ _ ∈ _, _ → ∀ _ ∈ _, _ → _))

/-- A timer without an entry is not found, and nothing is erased. -/
theorem erasesOne_absent {q : TimerQueue} {id : Option Nat}
    (absent : ∀ entry ∈ q.timers, some entry.timer ≠ id) : ErasesOne q id := by
  have kept : q.timers.filter (fun entry => some entry.timer ≠ id) = q.timers :=
    List.filter_eq_self.mpr (by simpa using absent)
  unfold ErasesOne
  rw [kept]
  cases id with
  | none => rfl
  | some x =>
    have missing : q.timers.find? (fun entry => entry.timer = x) = none := by
      apply List.find?_eq_none.mpr
      intro entry inside
      simpa using absent entry inside
    simp only [TimerQueue.cancelInLoop, missing]

/-- Erasing by key erases one entry exactly when no other has that key.

Proof: two filters of one list agree exactly when they agree on its entries. An
entry whose key is that of the one found is kept by the second filter if and
only if it is another timer's, and no timer has two entries. -/
theorem erasesOne_found {q : TimerQueue} {found : Entry} (inside : found ∈ q.timers)
    (distinct : (q.timers.map Entry.timer).Nodup) :
    ErasesOne q (some found.timer) ↔ AloneAtKey q (some found.timer) := by
  have unique : ∀ entry ∈ q.timers, entry.timer = found.timer → entry = found :=
    fun entry member same => List.inj_on_of_nodup_map distinct member inside same
  have search : q.timers.find? (fun entry => entry.timer = found.timer) = some found := by
    cases searched : q.timers.find? (fun entry => entry.timer = found.timer) with
    | none =>
      have absent := List.find?_eq_none.mp searched found inside
      simp at absent
    | some entry =>
      have isFound : entry.timer = found.timer := by simpa using List.find?_some searched
      rw [unique entry (List.mem_of_find?_eq_some searched) isFound]
  simp only [ErasesOne, TimerQueue.cancelInLoop, search, Multimap.eraseKey]
  constructor
  · intro erased entry present itsOwn other member sameKey
    rw [unique entry present (Option.some.inj itsOwn)] at sameKey ⊢
    have timers : q.timers.filter (fun entry => entry.rank ≠ found.key.val) =
        q.timers.filter (fun entry => some entry.timer ≠ some found.timer) :=
      congrArg TimerQueue.timers erased
    by_contra different
    have kept : other ∈ q.timers.filter (fun entry => some entry.timer ≠ some found.timer) := by
      apply List.mem_filter.mpr
      simp only [ne_eq, Option.some.injEq, decide_eq_true_eq]
      exact ⟨member, fun same => different (unique other member same)⟩
    rw [← timers, List.mem_filter] at kept
    exact of_decide_eq_true kept.2 sameKey
  · intro alone
    have same : q.timers.filter (fun entry => entry.rank ≠ found.key.val) =
        q.timers.filter (fun entry => some entry.timer ≠ some found.timer) := by
      apply List.filter_congr
      intro entry member
      apply decide_eq_decide.mpr
      constructor
      · intro otherKey itsOwn
        rw [unique entry member (Option.some.inj itsOwn)] at otherKey
        exact otherKey rfl
      · intro otherTimer sameKey
        rw [alone found inside rfl entry member sameKey] at otherTimer
        exact otherTimer rfl
    rw [same]

/-- In every state of every run and for every `TimerId`, `cancel_in_loop` erases
the entry of its timer and nothing else exactly when that entry, if there is one,
has an expiration no other entry has. -/
theorem cancel_erases_one_iff (labels : List Label) (s : System)
    (reached : run step initial labels = .ok s) (id : Option Nat) :
    ErasesOne s.queue id ↔ AloneAtKey s.queue id := by
  have sound := invariant step Sound step_sound labels initial s initial_sound reached
  by_cases present : ∃ entry ∈ s.queue.timers, some entry.timer = id
  · obtain ⟨found, inside, rfl⟩ := present
    exact erasesOne_found inside sound.consistent.distinctTimers
  · have absent : ∀ entry ∈ s.queue.timers, some entry.timer ≠ id :=
      fun entry inside same => present ⟨entry, inside, same⟩
    exact ⟨fun _ entry inside same => absurd same (absent entry inside),
      fun _ => erasesOne_absent absent⟩

/-- Of these three timers only the cancelled one is erased. -/
theorem cancel_erases_one_untied :
    ∃ s, run step initial tied = .ok s ∧ s.queue.timers.map Entry.timer = [1, 2, 0] ∧
      (s.queue.cancelInLoop (some 0)).timers.map Entry.timer = [1, 2] ∧
      ErasesOne s.queue (some 0) := by
  have computed : (run step initial tied).map (fun s => (s.queue.timers.map Entry.timer,
      (s.queue.cancelInLoop (some 0)).timers.map Entry.timer,
      decide (AloneAtKey s.queue (some 0)))) = .ok ([1, 2, 0], [1, 2], true) := by decide +kernel
  obtain ⟨s, reached, computed⟩ := (map_returned _ _ _).mp computed
  simp only [Prod.mk.injEq, decide_eq_true_eq] at computed
  exact ⟨s, reached, computed.1, computed.2.1,
    (cancel_erases_one_iff tied s reached (some 0)).mpr computed.2.2⟩

/-- Cancelling one of two timers with the same expiration cancels both. -/
theorem cancel_erases_tied :
    ¬ ∀ (labels : List Label) (s : System) (id : Option Nat),
      run step initial labels = .ok s → ErasesOne s.queue id := by
  intro claimed
  have computed : (run step initial tied).map (fun s =>
      ((s.queue.cancelInLoop (some 1)).timers.map Entry.timer,
        (s.queue.timers.filter fun entry => some entry.timer ≠ some 1).map Entry.timer)) =
      .ok ([0], [2, 0]) := by decide +kernel
  obtain ⟨s, reached, computed⟩ := (map_returned _ _ _).mp computed
  simp only [Prod.mk.injEq] at computed
  have erased := claimed tied s (some 1) reached
  rw [erased] at computed
  exact absurd (computed.1.symm.trans computed.2) (by decide)

end ReactorNetwork.TimerEntries
