import ReactorNetwork.Epoller

/-!
# Ready channels are reported

`epoll_wait` is level triggered and stores no more events than the vector holds. If
more descriptors are ready it fills the vector with some of them, and the poller
doubles the vector for the next time. The vector never shrinks.

A poll therefore leaves a ready channel out only if more channels are ready than the
vector holds, and that happens a number of times that is logarithmic in how many can
be ready at once, in the whole life of the poller and whatever is registered or
removed in between. Every other poll makes all ready channels active.
-/

namespace ReactorNetwork.ReadyChannels

open Runs Epoller

variable {Id : Type} [DecidableEq Id]

/-- The steps of the poller; at a poll also the descriptors that are ready. -/
inductive Label (Id : Type) where
  | update (channel : Id) (interest : Poller.Interest)
  | remove (channel : Id)
  | poll (ready reported : List (Int × EventMask))
  | pollFailed

/-- The call of the epoller behind a step. -/
def Label.epoller : Label Id → Epoller.Label Id
  | .update channel interest => .update channel interest
  | .remove channel => .remove channel
  | .poll _ reported => .poll reported
  | .pollFailed => .pollFailed

/-- A level-triggered answer: of the ready entries, as many as fit. -/
def Answers (s : State Id) (ready reported : List (Int × EventMask)) : Prop :=
  (ready.map Prod.fst).Nodup ∧ (∀ entry ∈ reported, entry ∈ ready) ∧
    reported.length = min ready.length s.events

instance (s : State Id) (ready reported : List (Int × EventMask)) :
    Decidable (Answers s ready reported) :=
  inferInstanceAs (Decidable (_ ∧ (∀ entry ∈ _, _) ∧ _))

/-- The kernel's answer to a poll is one it may give. -/
def answering (s : State Id) : Label Id → Outcome Unit
  | .poll ready reported => enabled (Answers s ready reported)
  | _ => pure ()

/-- One call of the epoller. -/
def step (s : State Id) (label : Label Id) : Outcome (State Id) := do
  answering s label
  Epoller.step s label.epoller

/-- A poll that leaves a ready channel out. -/
def Label.incomplete : Label Id → Bool
  | .poll ready reported => decide (reported.length < ready.length)
  | _ => false

/-- How many descriptors are ready at a poll. -/
def Label.ready : Label Id → Nat
  | .poll ready _ => ready.length
  | _ => 0

section Laws

variable {s t : State Id} {id : Id}

omit [DecidableEq Id] in
/-- `epoll_ctl` leaves the size of the event list alone. -/
theorem update_events (s : State Id) (operation : Operation) (id : Id) :
    (update s operation id).events = s.events := by
  simp only [update]
  split
  · rfl
  · split <;> rfl

/-- So does `update_channel`. -/
theorem updateChannel_events (taken : updateChannel s id = .ok t) : t.events = s.events := by
  unfold updateChannel at taken
  simp only at taken
  split at taken
  · split at taken
    · simp only [require_bind_ok, pure_ok] at taken
      obtain ⟨_, rfl⟩ := taken
      exact update_events _ _ _
    · simp only [require_bind_ok, pure_ok] at taken
      obtain ⟨_, _, rfl⟩ := taken
      exact update_events _ _ _
  · simp only [require_bind_ok] at taken
    obtain ⟨_, _, _, updated⟩ := taken
    split at updated
    · obtain rfl := (pure_ok _ _).mp updated
      exact update_events _ _ _
    · obtain rfl := (pure_ok _ _).mp updated
      exact update_events _ _ _

/-- And so does `remove_channel`. -/
theorem removeChannel_events (taken : removeChannel s id = .ok t) : t.events = s.events := by
  simp only [removeChannel, require_bind_ok, pure_ok] at taken
  obtain ⟨_, _, _, _, rfl⟩ := taken
  simp only [setIndex]
  split
  · exact update_events _ _ _
  · rfl

/-- And so does filling the active channels. -/
theorem fillActiveChannels_events (events : List (EpollEvent Id))
    (taken : fillActiveChannels s events = .ok t) : t.events = s.events := by
  induction events generalizing s with
  | nil => exact (pure_ok _ _).mp taken ▸ rfl
  | cons event rest inductionHypothesis =>
    simp only [fillActiveChannels, require_bind_ok] at taken
    have later := inductionHypothesis taken.2.2
    exact later

/-- A poll doubles the vector exactly when it was full. -/
theorem poll_events {reported : List (Int × EventMask)}
    (taken : Epoller.step s (.poll reported) = .ok t) (positive : 0 < s.events) :
    t.events = if reported.length = s.events then s.events * 2 else s.events := by
  obtain ⟨_, allowed, polled⟩ := (bind_ok _ _ _).mp taken
  have answer := (enabled_ok _ _).mp allowed
  have width := returned_length reported answer.2.1
  unfold poll at polled
  simp only at polled
  split at polled
  case isTrue =>
    obtain ⟨_, continued⟩ := (require_bind_ok _ _ _).mp polled
    obtain ⟨filled, loop, finished⟩ := (bind_ok _ _ _).mp continued
    have same := fillActiveChannels_events _ loop
    simp only at same
    rw [width, same] at finished
    split at finished
    case isTrue full =>
      obtain rfl := (pure_ok _ _).mp finished
      rw [if_pos full]
    case isFalse spare =>
      obtain rfl := (pure_ok _ _).mp finished
      rw [if_neg spare]
      exact same
  case isFalse none =>
    obtain rfl := (pure_ok _ _).mp polled
    rw [if_neg (by omega)]

/-- After a number of incomplete polls the vector has doubled as many times, and
before the last of them it was already too small for what was ready. -/
structure Grown (past : List (Label Id)) (s : State Id) : Prop where
  size : kInitEventListSize * 2 ^ past.countP Label.incomplete ≤ s.events
  crowded : ∀ bound, (∀ label ∈ past, label.ready ≤ bound) → past.countP Label.incomplete = 0 ∨
    kInitEventListSize * 2 ^ (past.countP Label.incomplete - 1) < bound

omit [DecidableEq Id] in
/-- The vector begins with its initial size, before any poll. -/
theorem initial_grown (fdOf : Id → Int) : Grown [] (initial fdOf) where
  size := by simp [initial]
  crowded := fun _ _ => .inl rfl

omit [DecidableEq Id] in
/-- A step that is no incomplete poll and does not shrink the vector. -/
theorem grown_kept {past : List (Label Id)} {label : Label Id} (grown : Grown past s)
    (complete : label.incomplete = false) (larger : s.events ≤ t.events) :
    Grown (past ++ [label]) t := by
  have same : (past ++ [label]).countP Label.incomplete = past.countP Label.incomplete := by
    simp [complete]
  constructor
  · rw [same]
    exact Nat.le_trans grown.size larger
  · intro bound most
    rw [same]
    exact grown.crowded bound (fun other member => most other (by simp [member]))

/-- Every step keeps the count: only an incomplete poll doubles, and it had more ready
than the vector could hold. -/
theorem step_grown (past : List (Label Id)) (s : State Id) (label : Label Id) (t : State Id)
    (grown : Grown past s) (taken : step s label = .ok t) : Grown (past ++ [label]) t := by
  obtain ⟨_, answered, stepped⟩ := (bind_ok _ _ _).mp taken
  have positive : 0 < s.events :=
    Nat.lt_of_lt_of_le (Nat.mul_pos (by decide) (Nat.pow_pos (by decide))) grown.size
  cases label with
  | update channel interest =>
    have same := updateChannel_events stepped
    exact grown_kept grown rfl (Nat.le_of_eq same.symm)
  | remove channel =>
    exact grown_kept grown rfl (Nat.le_of_eq (removeChannel_events stepped).symm)
  | pollFailed =>
    obtain rfl := (pure_ok _ _).mp stepped
    exact grown_kept grown rfl (Nat.le_refl _)
  | poll ready reported =>
    have answer := ((enabled_ok _ _).mp answered).2.2
    have size := poll_events stepped positive
    by_cases left : reported.length < ready.length
    · have full : reported.length = s.events := by omega
      rw [if_pos full] at size
      have counted : (past ++ [Label.poll ready reported]).countP Label.incomplete =
          past.countP Label.incomplete + 1 := by
        simp [Label.incomplete, left]
      have before := grown.size
      constructor
      · rw [counted, Nat.pow_succ, size, ← Nat.mul_assoc]
        exact Nat.mul_le_mul_right 2 before
      · intro bound most
        have crowd : ready.length ≤ bound := most (.poll ready reported) (by simp)
        rw [counted, Nat.add_sub_cancel]
        exact .inr (by omega)
    · refine grown_kept grown (by simpa [Label.incomplete] using left) ?_
      rw [size]
      split <;> omega

/-- A poll that reports as many as are ready reports all of them. -/
theorem reported_all {ready reported : List (Int × EventMask)}
    (distinct : (reported.map Prod.fst).Nodup) (among : ∀ entry ∈ reported, entry ∈ ready)
    (whole : ready.length ≤ reported.length) : ∀ entry ∈ ready, entry ∈ reported := by
  intro entry member
  have part : reported.Subperm ready :=
    List.subperm_of_subset (List.Nodup.of_map _ distinct) (fun _ present => among _ present)
  exact (part.perm_of_length_le whole).mem_iff.mpr member

end Laws

/-- In every run the polls that leave a ready channel out are few: each of them finds the
event vector too small, which then doubles, so if there are any, the initial size doubled
once for each but the last is still less than the number of channels ready at once. Every
other poll makes all ready channels active.

Proof: the vector has doubled at every incomplete poll and never shrinks. A poll that is not
incomplete reports as many different ready entries as there are. -/
theorem ready_channels_reported (fdOf : Id → Int) (distinct : Function.Injective fdOf)
    (labels : List (Label Id)) (s : State Id)
    (reached : run step (initial fdOf) labels = .ok s) (bound : Nat)
    (atMost : ∀ label ∈ labels, label.ready ≤ bound) :
    (labels.countP Label.incomplete = 0 ∨
      kInitEventListSize * 2 ^ (labels.countP Label.incomplete - 1) < bound) ∧
    ∀ ready reported t, step s (.poll ready reported) = .ok t → ready.length ≤ reported.length →
      ∀ entry ∈ ready, ∃ id ∈ t.active, fdOf id = entry.1 := by
  have grown := history step Grown step_grown labels (initial fdOf) s (initial_grown fdOf) reached
  have mirrors : Mirrors fdOf s := Runs.invariant step (Mirrors fdOf)
    (fun u label v mirrors taken => by
      obtain ⟨_, _, stepped⟩ := (bind_ok _ _ _).mp taken
      exact step_mirrors distinct u label.epoller v mirrors stepped)
    labels (initial fdOf) s (initial_mirrors fdOf) reached
  refine ⟨grown.crowded bound atMost, ?_⟩
  intro ready reported t taken whole entry member
  obtain ⟨_, answered, stepped⟩ := (bind_ok _ _ _).mp taken
  obtain ⟨_, allowed, _⟩ := (bind_ok _ _ _).mp stepped
  have answer := (enabled_ok _ _).mp allowed
  have among := ((enabled_ok _ _).mp answered).2.1
  have present := reported_all answer.1 among whole entry member
  obtain ⟨watched, found⟩ := Option.ne_none_iff_exists'.mp (answer.2.1 entry present)
  obtain ⟨next, polled, _, active⟩ := poll_returns mirrors reported answer
  obtain rfl := Except.ok.inj (polled.symm.trans stepped)
  refine ⟨watched.data, ?_, ((mirrors.watched entry.1 watched).mp found).1⟩
  rw [active]
  refine List.mem_map.mpr ⟨⟨entry.2, watched.data⟩, ?_, rfl⟩
  exact List.mem_filterMap.mpr ⟨entry, present, by simp [found]⟩

/-- Seventeen channels become readable at once: the first poll can report sixteen of
them. -/
def crowded : List (Label Nat) :=
  (List.range 17).map (fun id => .update id .enableReading) ++
    [.poll ((List.range 17).map fun fd => ((fd : Int), 1#32))
      ((List.range 16).map fun fd => ((fd : Int), 1#32))]

/-- Of seventeen ready channels a poll reports sixteen and doubles the vector for the
next. -/
theorem ready_channels_reported_crowded :
    ∃ s : State Nat, run step (initial Int.ofNat) crowded = .ok s ∧ s.events = 32 ∧
      crowded.countP Label.incomplete = 1 ∧ kInitEventListSize * 2 ^ 0 < 17 := by
  have computed : (run step (initial Int.ofNat) crowded).map State.events =
      .ok 32 := by
    decide +kernel
  obtain ⟨s, reached, size⟩ := (map_returned _ _ _).mp computed
  have few := (ready_channels_reported Int.ofNat
    (fun _ _ same => Int.ofNat.inj same) crowded s reached 17 (by decide +kernel)).1
  have one : crowded.countP Label.incomplete = 1 := by decide +kernel
  rw [one] at few
  exact ⟨s, reached, size, one, few.resolve_left (by decide)⟩

end ReactorNetwork.ReadyChannels
