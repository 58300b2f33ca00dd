import ReactorNetwork.Poller

/-!
# The poller over `epoll`

The poller keeps a map from descriptors to channels and a status in each
channel: new, added to the kernel, or deleted from it while still in the map. The
kernel keeps an interest list of its own, one entry for a descriptor, which the
poller changes by `epoll_ctl` and never reads back.

`epoll_ctl` follows its usual contract for open descriptors: adding fails for a
descriptor that is present, modifying and deleting for one that is absent, and a
failure changes nothing. The source logs a failure and goes on, so a failure is
recorded here and does not end the step. `epoll_wait` reports any entries of the
interest list, each at most once and no more than the event vector holds.

Channels, their interest and the pairing of a change of interest with its update
are those of the other poller.
-/

namespace ReactorNetwork.Epoller

open Poller (Interest setChannel)

/-- What the index of a channel says of it, and the initial length of `events_`. -/
def kNew : Int := -1
def kAdded : Int := 1
def kDeleted : Int := 2
def kInitEventListSize : Nat := 16

/-- `struct epoll_event`, whose `data.ptr` points to a channel. -/
structure EpollEvent (Id : Type) where
  events : EventMask
  data : Id
deriving DecidableEq, Repr

/-- The operations of `epoll_ctl`. -/
inductive Operation where
  | add
  | mod
  | del
deriving DecidableEq, Repr

/-- The branches of `update` that report a failed `epoll_ctl`. -/
inductive Log where
  | sysErr (operation : Operation) (fd : Int)
  | sysFatal (operation : Operation) (fd : Int)
deriving DecidableEq, Repr

/-- The poller, the kernel's interest list, the channels both point to, and what
was logged. `events` is the size of the event vector. -/
structure State (Id : Type) where
  interest : Int → Option (EpollEvent Id)
  channels : AList (fun _ : Int => Id)
  objects : Id → Channel
  events : Nat
  active : List Id
  logged : List Log

/-- The calls of the epoller: an update after a change of interest, a removal, and a
poll with the kernel's answer or without one. -/
inductive Label (Id : Type) where
  | update (channel : Id) (interest : Interest)
  | remove (channel : Id)
  | poll (reported : List (Int × EventMask))
  | pollFailed

variable {Id : Type} [DecidableEq Id]

/-- All channels constructed, none registered. -/
def initial (fd : Id → Int) : State Id where
  interest := fun _ => none
  channels := ∅
  objects := fun id => Channel.create (fd id)
  events := kInitEventListSize
  active := []
  logged := []

/-- The kernel's list with one entry changed. -/
def setInterest (interest : Int → Option (EpollEvent Id)) (fd : Int)
    (entry : Option (EpollEvent Id)) : Int → Option (EpollEvent Id) :=
  fun other => if other = fd then entry else interest other

/-- `epoll_ctl` for an open descriptor; `none` is a failure. -/
def epollCtl (interest : Int → Option (EpollEvent Id)) (operation : Operation) (fd : Int)
    (event : EpollEvent Id) : Option (Int → Option (EpollEvent Id)) :=
  match operation, interest fd with
  | .add, none => some (setInterest interest fd (some event))
  | .mod, some _ => some (setInterest interest fd (some event))
  | .del, some _ => some (setInterest interest fd none)
  | _, _ => none

/-- The channels with one index changed. -/
def setIndex (s : State Id) (id : Id) (index : Int) : State Id :=
  { s with objects := setChannel s.objects id { s.objects id with index := index } }

/-- `update`: one call of `epoll_ctl`, whose failure is only logged. -/
def update (s : State Id) (operation : Operation) (id : Id) : State Id :=
  let fd := (s.objects id).fd
  match epollCtl s.interest operation fd ⟨(s.objects id).events, id⟩ with
  | some interest => { s with interest := interest }
  | none =>
      if operation = .del then { s with logged := s.logged ++ [.sysErr operation fd] }
      else { s with logged := s.logged ++ [.sysFatal operation fd] }

/-- `update_channel`. The index is tested before the mask, so an added channel without
interest is taken from the kernel and a deleted one is added again. -/
def updateChannel (s : State Id) (id : Id) : Outcome (State Id) :=
  let c := s.objects id
  if c.index = kNew ∨ c.index = kDeleted then
    if c.index = kNew then do
      require (s.channels.lookup c.fd = none)
      let entered := { s with channels := s.channels.insert c.fd id }
      pure (update (setIndex entered id kAdded) .add id)
    else do
      require (s.channels.lookup c.fd ≠ none)
      require (s.channels.lookup c.fd = some id)
      pure (update (setIndex s id kAdded) .add id)
  else do
    require (s.channels.lookup c.fd ≠ none)
    require (s.channels.lookup c.fd = some id)
    require (c.index = kAdded)
    if c.isNoneEvent then pure (setIndex (update s .del id) id kDeleted)
    else pure (update s .mod id)

/-- The descriptor was found, so `erase` returns one. -/
def removeChannel (s : State Id) (id : Id) : Outcome (State Id) := do
  let c := s.objects id
  require (s.channels.lookup c.fd ≠ none)
  require (s.channels.lookup c.fd = some id)
  require (c.isNoneEvent = true)
  require (c.index = kAdded ∨ c.index = kDeleted)
  let erased := { s with channels := s.channels.erase c.fd }
  let deleted := if c.index = kAdded then update erased .del id else erased
  pure (setIndex deleted id kNew)

/-- The loop over the events the kernel returned. -/
def fillActiveChannels (s : State Id) : List (EpollEvent Id) → Outcome (State Id)
  | [] => pure s
  | event :: rest => do
      let fd := (s.objects event.data).fd
      require (s.channels.lookup fd ≠ none)
      require (s.channels.lookup fd = some event.data)
      fillActiveChannels { s with
        objects := setChannel s.objects event.data
          { s.objects event.data with revents := event.events }
        active := s.active ++ [event.data] } rest

/-- The events `epoll_wait` stores for the reported descriptors. -/
def returned (s : State Id) (reported : List (Int × EventMask)) : List (EpollEvent Id) :=
  reported.filterMap fun (fd, revents) =>
    (s.interest fd).map fun entry => ⟨revents, entry.data⟩

/-- What `epoll_wait` can answer: entries of the interest list, each once, and no
more than fit. -/
def possible (s : State Id) (reported : List (Int × EventMask)) : Prop :=
  (reported.map Prod.fst).Nodup ∧ (∀ entry ∈ reported, s.interest entry.1 ≠ none) ∧
    reported.length ≤ s.events

instance (s : State Id) (reported : List (Int × EventMask)) : Decidable (possible s reported) :=
  inferInstanceAs (Decidable (_ ∧ (∀ entry ∈ _, _) ∧ _))

/-- `poll`: the answer of `epoll_wait` becomes the active channels, and a full `events_`
is doubled. -/
def poll (s : State Id) (reported : List (Int × EventMask)) : Outcome (State Id) :=
  let events := returned s reported
  if 0 < events.length then do
    require (events.length ≤ s.events)
    let filled ← fillActiveChannels { s with active := [] } events
    if events.length = filled.events then pure { filled with events := filled.events * 2 }
    else pure filled
  else pure { s with active := [] }

/-- One call. An update comes from a channel that has changed its mask just before. -/
def step (s : State Id) : Label Id → Outcome (State Id)
  | .update id interest =>
      updateChannel { s with
        objects := setChannel s.objects id (interest.apply (s.objects id)) } id
  | .remove id => removeChannel s id
  | .poll reported => do
      enabled (possible s reported)
      poll s reported
  | .pollFailed => pure { s with active := [] }

/-- The map, the statuses and the kernel's interest list agree. A channel that is
not new is found under its descriptor, and one that is added has the kernel's
entry for it, with its own events and itself as data. -/
structure Mirrors (fdOf : Id → Int) (s : State Id) : Prop where
  fds : ∀ id, (s.objects id).fd = fdOf id
  status : ∀ id, (s.objects id).index = kNew ∨ (s.objects id).index = kAdded ∨
    (s.objects id).index = kDeleted
  listed : ∀ fd id, s.channels.lookup fd = some id ↔ fdOf id = fd ∧ (s.objects id).index ≠ kNew
  watched : ∀ fd entry, s.interest fd = some entry ↔ fdOf entry.data = fd ∧
    (s.objects entry.data).index = kAdded ∧ (s.objects entry.data).events = entry.events
  quiet : s.logged = []

/-- The status a channel has after an update. -/
def nextIndex (index : Int) (c : Channel) : Int :=
  if index = kAdded ∧ c.isNoneEvent = true then kDeleted else kAdded

/-- What the map holds for a channel of this status. -/
def entryOf (id : Id) (c : Channel) : Option Id := if c.index = kNew then none else some id

/-- What the kernel holds for a channel of this status. -/
def interestOf (id : Id) (c : Channel) : Option (EpollEvent Id) :=
  if c.index = kAdded then some ⟨c.events, id⟩ else none

/-- Only one channel changed, and the map and the kernel hold for its descriptor
what its new status says. -/
structure Changed (fdOf : Id → Int) (s t : State Id) (id : Id) (c : Channel) : Prop where
  objects : t.objects = setChannel s.objects id c
  listed : ∀ fd, t.channels.lookup fd = if fd = fdOf id then entryOf id c else s.channels.lookup fd
  watched : ∀ fd, t.interest fd = if fd = fdOf id then interestOf id c else s.interest fd
  quiet : t.logged = s.logged

section Laws

variable {fdOf : Id → Int} {s : State Id}

omit [DecidableEq Id] in
/-- Before the first update neither the map nor the kernel holds anything. -/
theorem initial_mirrors (fdOf : Id → Int) : Mirrors fdOf (initial fdOf) where
  fds := fun _ => rfl
  status := fun _ => Or.inl rfl
  listed := by
    intro fd id
    simp [initial, Channel.create, kNew]
  watched := by
    intro fd entry
    simp [initial, Channel.create, kAdded]
  quiet := rfl

section Changed

variable {t : State Id} {id : Id} {c : Channel}

/-- The channel is changed as stated. -/
theorem changed_same (changed : Changed fdOf s t id c) : t.objects id = c := by
  rw [changed.objects, Poller.setChannel_same]

/-- The other channels stay. -/
theorem changed_other (changed : Changed fdOf s t id c) {other : Id} (different : other ≠ id) :
    t.objects other = s.objects other := by
  rw [changed.objects, Poller.setChannel_other _ _ _ _ different]

/-- The map follows the change of a channel: no other channel has its descriptor. -/
theorem changed_listed (distinct : Function.Injective fdOf) (mirrors : Mirrors fdOf s)
    (changed : Changed fdOf s t id c) (key : Int) (other : Id) :
    t.channels.lookup key = some other ↔ fdOf other = key ∧ (t.objects other).index ≠ kNew := by
  rw [changed.listed]
  by_cases here : other = id
  · subst here
    rw [changed_same changed, eq_comm (b := key)]
    by_cases own : key = fdOf other
    · by_cases new : c.index = kNew
      · simp [own, entryOf, new]
      · simp [own, entryOf, new]
    · have absent : s.channels.lookup key ≠ some other := fun found =>
        own ((mirrors.listed key other).mp found).1.symm
      simp [own, absent]
  · rw [changed_other changed here, ← mirrors.listed]
    by_cases own : key = fdOf id
    · have foreign : ¬ fdOf other = key := fun equal => here (distinct (equal.trans own))
      have absent : s.channels.lookup key ≠ some other := fun found =>
        foreign ((mirrors.listed key other).mp found).1
      have unlisted : entryOf id c ≠ some other := by
        unfold entryOf
        split
        · simp
        · simpa using Ne.symm here
      simp [own] at absent ⊢
      simp [absent, unlisted]
    · simp [own]

/-- The kernel follows the change of a channel. -/
theorem changed_watched (distinct : Function.Injective fdOf) (mirrors : Mirrors fdOf s)
    (changed : Changed fdOf s t id c) (key : Int) (entry : EpollEvent Id) :
    t.interest key = some entry ↔ fdOf entry.data = key ∧
      (t.objects entry.data).index = kAdded ∧ (t.objects entry.data).events = entry.events := by
  rw [changed.watched]
  by_cases here : entry.data = id
  · rw [here, changed_same changed, eq_comm (b := key)]
    by_cases own : key = fdOf id
    · by_cases added : c.index = kAdded
      · simp only [own, interestOf, added, if_true, true_and]
        constructor
        · intro equal
          rw [← Option.some.inj equal]
        · intro events
          rw [events, ← here]
      · simp [own, interestOf, added]
    · have absent : s.interest key ≠ some entry := fun found =>
        own (((mirrors.watched key entry).mp found).1.symm.trans (by rw [here]))
      simp [own, absent]
  · rw [changed_other changed here, ← mirrors.watched]
    by_cases own : key = fdOf id
    · have foreign : ¬ fdOf entry.data = key := fun equal => here (distinct (equal.trans own))
      have absent : s.interest key ≠ some entry := fun found =>
        foreign ((mirrors.watched key entry).mp found).1
      have unwatched : interestOf id c ≠ some entry := by
        unfold interestOf
        split
        · intro equal
          exact here (by rw [← Option.some.inj equal])
        · simp
      simp only [own, if_true] at absent ⊢
      simp [absent, unwatched]
    · simp [own]

/-- A change of one channel that the map and the kernel follow keeps the
agreement. -/
theorem changed_mirrors (distinct : Function.Injective fdOf) (mirrors : Mirrors fdOf s)
    (changed : Changed fdOf s t id c) (fd : c.fd = fdOf id)
    (status : c.index = kNew ∨ c.index = kAdded ∨ c.index = kDeleted) : Mirrors fdOf t := by
  refine ⟨?_, ?_, changed_listed distinct mirrors changed,
    changed_watched distinct mirrors changed, changed.quiet.trans mirrors.quiet⟩
  · intro other
    by_cases here : other = id
    · rw [here, changed_same changed, fd]
    · rw [changed_other changed here]
      exact mirrors.fds other
  · intro other
    by_cases here : other = id
    · rw [here, changed_same changed]
      exact status
    · rw [changed_other changed here]
      exact mirrors.status other

end Changed

omit [DecidableEq Id] in
/-- What the map holds for a channel's own descriptor. -/
theorem lookup_own (distinct : Function.Injective fdOf) (mirrors : Mirrors fdOf s) (id : Id) :
    s.channels.lookup (fdOf id) = entryOf id (s.objects id) := by
  unfold entryOf
  split
  case isTrue new =>
    cases found : s.channels.lookup (fdOf id) with
    | none => rfl
    | some other =>
      obtain ⟨same, known⟩ := (mirrors.listed (fdOf id) other).mp found
      obtain rfl := distinct same
      exact absurd new known
  case isFalse known => exact (mirrors.listed (fdOf id) id).mpr ⟨rfl, known⟩

omit [DecidableEq Id] in
/-- What the kernel holds for a channel's own descriptor. -/
theorem interest_own (distinct : Function.Injective fdOf) (mirrors : Mirrors fdOf s) (id : Id) :
    s.interest (fdOf id) = interestOf id (s.objects id) := by
  unfold interestOf
  split
  case isTrue added =>
    exact (mirrors.watched (fdOf id) ⟨(s.objects id).events, id⟩).mpr ⟨rfl, added, rfl⟩
  case isFalse absent =>
    cases found : s.interest (fdOf id) with
    | none => rfl
    | some entry =>
      obtain ⟨same, added, _⟩ := (mirrors.watched (fdOf id) entry).mp found
      rw [distinct same] at added
      exact absurd added absent

omit [DecidableEq Id] in
/-- The map after an insertion. -/
theorem lookup_insert_at (channels : AList (fun _ : Int => Id)) (fd : Int) (id : Id) (key : Int) :
    (channels.insert fd id).lookup key = if key = fd then some id else channels.lookup key := by
  by_cases own : key = fd
  · rw [if_pos own, own, AList.lookup_insert]
  · rw [if_neg own, AList.lookup_insert_ne own]

omit [DecidableEq Id] in
/-- The map after an erasure. -/
theorem lookup_erase_at (channels : AList (fun _ : Int => Id)) (fd key : Int) :
    (channels.erase fd).lookup key = if key = fd then none else channels.lookup key := by
  by_cases own : key = fd
  · rw [if_pos own, own, AList.lookup_erase]
  · rw [if_neg own, AList.lookup_erase_ne own]

omit [DecidableEq Id] in
/-- Overwriting an entry with itself changes nothing. -/
theorem lookup_at (channels : AList (fun _ : Int => Id)) (fd : Int) (id : Id)
    (known : channels.lookup fd = some id) (key : Int) :
    channels.lookup key = if key = fd then some id else channels.lookup key := by
  by_cases own : key = fd
  · rw [if_pos own, own, known]
  · rw [if_neg own]

section Update

variable {id : Id} {c : Channel}

/-- A new channel is entered into the map and added to the kernel. -/
theorem update_new (distinct : Function.Injective fdOf) (mirrors : Mirrors fdOf s)
    (fd : c.fd = fdOf id) (index : (s.objects id).index = c.index) (new : c.index = kNew) :
    ∃ t, updateChannel { s with objects := setChannel s.objects id c } id = .ok t ∧
      Changed fdOf s t id { c with index := kAdded } := by
  have absent : s.channels.lookup (setChannel s.objects id c id).fd = none := by
    rw [Poller.setChannel_same, fd, lookup_own distinct mirrors, entryOf, if_pos (index.trans new)]
  have unwatched : s.interest c.fd = none := by
    rw [fd, interest_own distinct mirrors, interestOf, if_neg (by rw [index, new]; decide)]
  simp only [updateChannel, Poller.setChannel_same, new, true_or, if_true,
    require_bind_ok, pure_ok, update, setIndex, Poller.setChannel_twice, epollCtl, unwatched]
  refine ⟨_, ⟨absent, rfl⟩, rfl, ?_, ?_, rfl⟩
  · intro key
    rw [← fd]
    exact lookup_insert_at _ _ _ _
  · intro key
    rw [← fd]
    rfl

/-- A channel the kernel deleted is added again. -/
theorem update_deleted (distinct : Function.Injective fdOf) (mirrors : Mirrors fdOf s)
    (fd : c.fd = fdOf id) (index : (s.objects id).index = c.index) (deleted : c.index = kDeleted) :
    ∃ t, updateChannel { s with objects := setChannel s.objects id c } id = .ok t ∧
      Changed fdOf s t id { c with index := kAdded } := by
  have known : s.channels.lookup (setChannel s.objects id c id).fd = some id := by
    rw [Poller.setChannel_same, fd, lookup_own distinct mirrors, entryOf,
      if_neg (by rw [index, deleted]; decide)]
  have unwatched : s.interest c.fd = none := by
    rw [fd, interest_own distinct mirrors, interestOf, if_neg (by rw [index, deleted]; decide)]
  simp only [updateChannel, Poller.setChannel_same, deleted, or_true, if_true,
    require_bind_ok, if_neg (by decide : ¬ kDeleted = kNew), pure_ok, update, setIndex,
    Poller.setChannel_twice, epollCtl, unwatched]
  refine ⟨_, ⟨by simp [known], known, rfl⟩, rfl, ?_, ?_, rfl⟩
  · rw [Poller.setChannel_same, fd] at known
    exact lookup_at _ _ _ known
  · intro key
    rw [← fd]
    rfl

/-- A channel the kernel holds is deleted if it has no interest left and modified
otherwise. -/
theorem update_added (distinct : Function.Injective fdOf) (mirrors : Mirrors fdOf s)
    (fd : c.fd = fdOf id) (index : (s.objects id).index = c.index) (added : c.index = kAdded) :
    ∃ t, updateChannel { s with objects := setChannel s.objects id c } id = .ok t ∧
      Changed fdOf s t id { c with index := nextIndex kAdded c } := by
  have known : s.channels.lookup (setChannel s.objects id c id).fd = some id := by
    rw [Poller.setChannel_same, fd, lookup_own distinct mirrors, entryOf,
      if_neg (by rw [index, added]; decide)]
  have present : s.interest c.fd = some ⟨(s.objects id).events, id⟩ := by
    rw [fd, interest_own distinct mirrors, interestOf, if_pos (index.trans added)]
  have listed : ∀ key, s.channels.lookup key =
      if key = fdOf id then some id else s.channels.lookup key := by
    rw [Poller.setChannel_same, fd] at known
    exact lookup_at _ _ _ known
  have status : ¬ (kAdded = kNew ∨ kAdded = kDeleted) := by decide
  simp only [updateChannel, Poller.setChannel_same, added, if_neg status,
    require_bind_ok]
  cases none : c.isNoneEvent with
  | true =>
    simp only [if_true, pure_ok, update, setIndex, Poller.setChannel_same, Poller.setChannel_twice,
      epollCtl, present, nextIndex, none, and_self]
    refine ⟨_, ⟨by simp [known], known, trivial, rfl⟩, rfl, listed, ?_, rfl⟩
    intro key
    rw [← fd]
    rfl
  | false =>
    simp only [Bool.false_eq_true, if_false, pure_ok, update, Poller.setChannel_same, epollCtl,
      present, nextIndex, none, and_false]
    refine ⟨_, ⟨by simp [known], known, trivial, rfl⟩, by rw [← added], listed, ?_, rfl⟩
    intro key
    rw [← fd]
    rfl

/-- Changing a channel's interest and updating it always returns. -/
theorem update_changes (distinct : Function.Injective fdOf) (mirrors : Mirrors fdOf s) (id : Id)
    (interest : Interest) :
    ∃ t, step s (.update id interest) = .ok t ∧
      Changed fdOf s t id { interest.apply (s.objects id) with
        index := nextIndex (s.objects id).index (interest.apply (s.objects id)) } := by
  have fd : (interest.apply (s.objects id)).fd = fdOf id :=
    (Poller.apply_fd interest _).trans (mirrors.fds id)
  have index := (Poller.apply_index interest (s.objects id)).symm
  have status := mirrors.status id
  rw [index] at status ⊢
  rcases status with new | added | deleted
  · rw [nextIndex, new, if_neg (by simp [kNew, kAdded])]
    exact update_new distinct mirrors fd index new
  · rw [added]
    exact update_added distinct mirrors fd index added
  · rw [nextIndex, deleted, if_neg (by simp [kDeleted, kAdded])]
    exact update_deleted distinct mirrors fd index deleted

end Update

/-- A removal returns exactly for a channel in the map that has no interest. It
leaves the map and, if the kernel still held the channel, the interest list.

Proof: the last of the four asserts holds for every channel in the map. A channel
whose last update registered it without interest is still in the kernel, and its
deletion succeeds. -/
theorem remove_changes (distinct : Function.Injective fdOf) (mirrors : Mirrors fdOf s) (id : Id)
    (t : State Id) (taken : step s (.remove id) = .ok t) :
    (s.objects id).index ≠ kNew ∧ (s.objects id).isNoneEvent = true ∧
      Changed fdOf s t id { s.objects id with index := kNew } := by
  have watched := interest_own distinct mirrors id
  simp only [step, removeChannel, require_bind_ok, pure_ok] at taken
  obtain ⟨_, known, none, status, rfl⟩ := taken
  rw [mirrors.fds] at known ⊢
  refine ⟨((mirrors.listed _ _).mp known).2, none, ?_⟩
  by_cases added : (s.objects id).index = kAdded
  · rw [interestOf, if_pos added] at watched
    simp only [if_pos added, update, mirrors.fds, epollCtl, watched]
    refine ⟨by simp only [setIndex, mirrors.fds], ?_, fun key => rfl, rfl⟩
    intro key
    exact lookup_erase_at _ _ _
  · rw [interestOf, if_neg added] at watched
    simp only [if_neg added]
    refine ⟨rfl, ?_, ?_, rfl⟩
    · intro key
      exact lookup_erase_at _ _ _
    · intro key
      simp only [setIndex, interestOf, if_neg (by decide : ¬ kNew = kAdded)]
      by_cases own : key = fdOf id
      · rw [if_pos own, own, watched]
      · rw [if_neg own]

/-- A known channel without interest can be removed. -/
theorem remove_returns (mirrors : Mirrors fdOf s) (id : Id)
    (known : (s.objects id).index ≠ kNew) (none : (s.objects id).isNoneEvent = true) :
    ∃ t, step s (.remove id) = .ok t := by
  have listed : s.channels.lookup (s.objects id).fd = some id := by
    rw [mirrors.fds]
    exact (mirrors.listed _ _).mpr ⟨rfl, known⟩
  have status := (mirrors.status id).resolve_left known
  simp only [step, removeChannel, require_bind_ok, pure_ok]
  exact ⟨_, by simp [listed], listed, none, status, rfl⟩

omit [DecidableEq Id] in
/-- The events of a possible answer can be handed out: each points to a channel in
the map. -/
theorem returned_found (mirrors : Mirrors fdOf s) (reported : List (Int × EventMask))
    (event : EpollEvent Id) (member : event ∈ returned s reported) :
    s.channels.lookup (fdOf event.data) = some event.data := by
  simp only [returned, List.mem_filterMap, Option.map_eq_some_iff] at member
  obtain ⟨⟨fd, revents⟩, _, entry, found, rfl⟩ := member
  obtain ⟨same, added, _⟩ := (mirrors.watched fd entry).mp found
  refine (mirrors.listed _ _).mpr ⟨rfl, ?_⟩
  rw [added]
  decide

omit [DecidableEq Id] in
/-- A possible answer returns one event for each reported descriptor. -/
theorem returned_length (reported : List (Int × EventMask))
    (present : ∀ entry ∈ reported, s.interest entry.1 ≠ none) :
    (returned s reported).length = reported.length := by
  unfold returned
  induction reported with
  | nil => rfl
  | cons head rest inductionHypothesis =>
    obtain ⟨fd, revents⟩ := head
    obtain ⟨entry, found⟩ : ∃ entry, s.interest fd = some entry :=
      Option.ne_none_iff_exists'.mp (present (fd, revents) List.mem_cons_self)
    have restPresent := inductionHypothesis (fun later member =>
      present later (List.mem_cons_of_mem _ member))
    simp only [List.filterMap_cons, found, Option.map_some, List.length_cons, restPresent]

/-- What a poll leaves alone: everything but the size of the event vector, the
active channels and what they were told. -/
structure Handed (s t : State Id) : Prop where
  interest : t.interest = s.interest
  channels : t.channels = s.channels
  logged : t.logged = s.logged
  rest : ∀ id, { t.objects id with revents := 0 } = { s.objects id with revents := 0 }

/-- The loop passes its asserts when every event points to a channel in the map,
and makes these channels active in order.

Proof: induction over the events. Storing one channel's `revents` changes neither
the map nor any descriptor, so the rest of the events still point into the map. -/
theorem fillActiveChannels_hands (s : State Id) (events : List (EpollEvent Id))
    (found : ∀ event ∈ events,
      s.channels.lookup (s.objects event.data).fd = some event.data) :
    ∃ t, fillActiveChannels s events = .ok t ∧ Handed s t ∧
      t.active = s.active ++ events.map EpollEvent.data := by
  induction events generalizing s with
  | nil => exact ⟨s, rfl, ⟨rfl, rfl, rfl, fun _ => rfl⟩, by simp⟩
  | cons event rest inductionHypothesis =>
    have here := found event List.mem_cons_self
    let stored : State Id := { s with
      objects := setChannel s.objects event.data
        { s.objects event.data with revents := event.events }
      active := s.active ++ [event.data] }
    have fds : ∀ id, (stored.objects id).fd = (s.objects id).fd := by
      intro id
      by_cases same : id = event.data
      · simp only [stored, same, Poller.setChannel_same]
      · simp only [stored, Poller.setChannel_other _ _ _ _ same]
    have later : ∀ next ∈ rest,
        stored.channels.lookup (stored.objects next.data).fd = some next.data := by
      intro next member
      rw [fds]
      exact found next (List.mem_cons_of_mem _ member)
    obtain ⟨t, returned, handed, active⟩ := inductionHypothesis stored later
    refine ⟨t, ?_, ⟨handed.interest, handed.channels, handed.logged, ?_⟩, ?_⟩
    · simp only [fillActiveChannels, require_bind_ok]
      exact ⟨by simp [here], here, returned⟩
    · intro id
      rw [handed.rest id]
      by_cases same : id = event.data
      · simp only [stored, same, Poller.setChannel_same]
      · simp only [stored, Poller.setChannel_other _ _ _ _ same]
    · rw [active]
      simp [stored]

omit [DecidableEq Id] in
/-- The agreement reads nothing that handing out events changes. -/
theorem handed_mirrors {t : State Id} (mirrors : Mirrors fdOf s) (handed : Handed s t) :
    Mirrors fdOf t := by
  have kept : ∀ id, (t.objects id).fd = (s.objects id).fd ∧
      (t.objects id).events = (s.objects id).events ∧
      (t.objects id).index = (s.objects id).index := by
    intro id
    have same := handed.rest id
    simp only [Channel.mk.injEq] at same
    exact ⟨same.1, same.2.1, same.2.2.2⟩
  refine ⟨?_, ?_, ?_, ?_, handed.logged.trans mirrors.quiet⟩
  · exact fun id => (kept id).1.trans (mirrors.fds id)
  · intro id
    rw [(kept id).2.2]
    exact mirrors.status id
  · intro fd id
    rw [handed.channels, (kept id).2.2]
    exact mirrors.listed fd id
  · intro fd entry
    rw [handed.interest, (kept entry.data).2.1, (kept entry.data).2.2]
    exact mirrors.watched fd entry

/-- Every possible answer of `epoll_wait` passes the asserts, and the active
channels are those the kernel's entries point to. -/
theorem poll_returns (mirrors : Mirrors fdOf s) (reported : List (Int × EventMask))
    (answer : possible s reported) :
    ∃ t, step s (.poll reported) = .ok t ∧ Mirrors fdOf t ∧
      t.active = (returned s reported).map EpollEvent.data := by
  have found : ∀ event ∈ returned s reported,
      s.channels.lookup (s.objects event.data).fd = some event.data := by
    intro event member
    rw [mirrors.fds]
    exact returned_found mirrors reported event member
  have allowed : enabled (possible s reported) = .ok () := (enabled_ok _ _).mpr answer
  have fits : (returned s reported).length ≤ s.events := by
    rw [returned_length reported answer.2.1]
    exact answer.2.2
  obtain ⟨filled, loop, handed, active⟩ :=
    fillActiveChannels_hands { s with active := [] } (returned s reported) found
  simp only [step, allowed, bind, Except.bind, poll]
  by_cases some_ : 0 < (returned s reported).length
  · have passed : require ((returned s reported).length ≤ s.events) = .ok () :=
      (require_ok _ _).mpr fits
    simp only [if_pos some_, passed, loop]
    by_cases full : (returned s reported).length = filled.events
    · rw [if_pos full]
      exact ⟨_, rfl, handed_mirrors mirrors ⟨handed.interest, handed.channels, handed.logged,
        handed.rest⟩, by simpa using active⟩
    · rw [if_neg full]
      exact ⟨_, rfl, handed_mirrors mirrors ⟨handed.interest, handed.channels, handed.logged,
        handed.rest⟩, by simpa using active⟩
  · have none : returned s reported = [] := List.eq_nil_of_length_eq_zero (by omega)
    rw [if_neg some_]
    exact ⟨_, rfl, handed_mirrors mirrors ⟨rfl, rfl, rfl, fun _ => rfl⟩, by simp [none]⟩

/-- Every step keeps the agreement. -/
theorem step_mirrors (distinct : Function.Injective fdOf) (s : State Id) (label : Label Id)
    (t : State Id) (mirrors : Mirrors fdOf s) (taken : step s label = .ok t) : Mirrors fdOf t := by
  cases label with
  | update id interest =>
    obtain ⟨next, returned, changed⟩ := update_changes distinct mirrors id interest
    obtain rfl := Except.ok.inj (returned.symm.trans taken)
    have fd := (Poller.apply_fd interest (s.objects id)).trans (mirrors.fds id)
    refine changed_mirrors distinct mirrors changed fd (Or.inr ?_)
    simp only [nextIndex]
    split
    · exact Or.inr rfl
    · exact Or.inl rfl
  | remove id =>
    obtain ⟨_, _, changed⟩ := remove_changes distinct mirrors id t taken
    exact changed_mirrors distinct mirrors changed (mirrors.fds id) (Or.inl rfl)
  | poll reported =>
    obtain ⟨_, answer, _⟩ := (bind_ok _ _ _).mp taken
    obtain ⟨next, returned, kept, _⟩ := poll_returns mirrors reported ((enabled_ok _ _).mp answer)
    obtain rfl := Except.ok.inj (returned.symm.trans taken)
    exact kept
  | pollFailed =>
    obtain rfl := (pure_ok _ _).mp taken
    exact handed_mirrors mirrors ⟨rfl, rfl, rfl, fun _ => rfl⟩

end Laws

/-- In every state the poller reaches: a channel is in the map exactly when its
index says added or deleted, and in the kernel's interest list exactly when it
says added, and the kernel's entry for its descriptor then has the channel's
current events and the channel as data. No `epoll_ctl` failed, and none can in the
next step: every update returns, as does every removal of a channel in the map
that has no interest, and both log nothing. Every answer `epoll_wait` can give
passes the asserts and makes active the channels its events point to. -/
theorem epoller_mirrors_kernel (fdOf : Id → Int) (distinct : Function.Injective fdOf)
    (labels : List (Label Id)) (s : State Id)
    (reached : Runs.run step (initial fdOf) labels = .ok s) :
    (∀ id, s.channels.lookup (fdOf id) = some id ↔
      (s.objects id).index = kAdded ∨ (s.objects id).index = kDeleted) ∧
    (∀ fd id, s.channels.lookup fd = some id → fd = fdOf id) ∧
    (∀ id, (∃ entry, s.interest (fdOf id) = some entry) ↔ (s.objects id).index = kAdded) ∧
    (∀ id, (s.objects id).index = kAdded →
      s.interest (fdOf id) = some ⟨(s.objects id).events, id⟩) ∧
    (∀ fd entry, s.interest fd = some entry → fd = fdOf entry.data) ∧
    s.logged = [] ∧
    (∀ id interest, ∃ t, step s (.update id interest) = .ok t ∧ t.logged = []) ∧
    (∀ id, s.channels.lookup (fdOf id) = some id → (s.objects id).isNoneEvent = true →
      ∃ t, step s (.remove id) = .ok t ∧ t.logged = []) ∧
    (∀ reported, possible s reported → ∃ t, step s (.poll reported) = .ok t ∧
      t.active = (returned s reported).map EpollEvent.data) := by
  have mirrors : Mirrors fdOf s :=
    Runs.invariant step (Mirrors fdOf) (step_mirrors distinct) labels (initial fdOf) s
      (initial_mirrors fdOf) reached
  have quiet : ∀ label t, step s label = .ok t → t.logged = [] :=
    fun label t taken => (step_mirrors distinct s label t mirrors taken).quiet
  refine ⟨?_, ?_, ?_, ?_, ?_, mirrors.quiet, ?_, ?_, ?_⟩
  · intro id
    rw [mirrors.listed]
    constructor
    · rintro ⟨_, known⟩
      exact (mirrors.status id).resolve_left known
    · rintro (added | deleted)
      · exact ⟨rfl, by rw [added]; decide⟩
      · exact ⟨rfl, by rw [deleted]; decide⟩
  · exact fun fd id found => ((mirrors.listed fd id).mp found).1.symm
  · intro id
    rw [interest_own distinct mirrors, interestOf]
    split
    case isTrue added => simp [added]
    case isFalse absent => simp [absent]
  · intro id added
    rw [interest_own distinct mirrors, interestOf, if_pos added]
  · exact fun fd entry found => ((mirrors.watched fd entry).mp found).1.symm
  · intro id interest
    obtain ⟨t, returned, _⟩ := update_changes distinct mirrors id interest
    exact ⟨t, returned, quiet _ t returned⟩
  · intro id known none
    obtain ⟨t, returned⟩ := remove_returns mirrors id ((mirrors.listed _ id).mp known).2 none
    exact ⟨t, returned, quiet _ t returned⟩
  · intro reported answer
    obtain ⟨t, returned, _, active⟩ := poll_returns mirrors reported answer
    exact ⟨t, returned, active⟩

/-- Two channels are registered and reported; one loses its interest twice, the
second time entering the kernel again, is removed and is registered anew. -/
def removedAndRegistered : List (Label Nat) :=
  [.update 3 .enableReading, .update 4 .enableReading, .poll [(4, 1#32), (3, 1#32)],
    .update 4 .disableAll, .update 4 .disableAll, .remove 4, .update 4 .enableWriting]

/-- The removed channel is watched again after its second registration, and nothing was
logged. -/
theorem epoller_mirrors_kernel_removed_and_registered :
    ∃ s, Runs.run step (initial (fun id : Nat => (id : Int))) removedAndRegistered = .ok s ∧
      s.interest 4 = some ⟨4#32, 4⟩ ∧ s.logged = [] := by
  have computed : (Runs.run step (initial (fun id : Nat => (id : Int))) removedAndRegistered).map
      (fun s => (s.interest 4, s.logged)) = .ok (some ⟨4#32, 4⟩, []) := by
    decide +kernel
  obtain ⟨s, reached, computed⟩ := (Runs.map_returned _ _ _).mp computed
  simp only [Prod.mk.injEq] at computed
  have holds := epoller_mirrors_kernel (fun id : Nat => (id : Int))
    (fun left right same => Int.ofNat.inj same) removedAndRegistered s reached
  exact ⟨s, reached, computed.1, holds.2.2.2.2.2.1⟩

section Entries

variable {s t : State Id} {id : Id}

/-- A new index leaves the descriptors alone. -/
theorem setIndex_fd (s : State Id) (id : Id) (index : Int) (other : Id) :
    ((setIndex s id index).objects other).fd = (s.objects other).fd := by
  by_cases same : other = id
  · simp [setIndex, Poller.setChannel, same]
  · simp [setIndex, Poller.setChannel, same]

omit [DecidableEq Id] in
/-- `epoll_ctl` touches neither the map nor the channels. -/
theorem update_fields (s : State Id) (operation : Operation) (id : Id) :
    (update s operation id).channels = s.channels ∧
      (update s operation id).objects = s.objects := by
  simp only [update]
  cases epollCtl s.interest operation (s.objects id).fd ⟨(s.objects id).events, id⟩ with
  | some interest => exact ⟨rfl, rfl⟩
  | none => by_cases deleting : operation = .del <;> simp [deleting]

/-- What an update that passes its asserts does to the map: the descriptor of the
channel was free or its own, and is its own afterwards. No descriptor changes. -/
structure Registered (s t : State Id) (id : Id) : Prop where
  before : s.channels.lookup (s.objects id).fd = none ∨
    s.channels.lookup (s.objects id).fd = some id
  entries : ∀ fd, t.channels.lookup fd =
    if fd = (s.objects id).fd then some id else s.channels.lookup fd
  fds : ∀ other, (t.objects other).fd = (s.objects other).fd

/-- An update that returns registers the channel under its descriptor. -/
theorem updateChannel_registered (taken : updateChannel s id = .ok t) : Registered s t id := by
  unfold updateChannel at taken
  simp only at taken
  split at taken
  · split at taken
    · simp only [require_bind_ok, pure_ok] at taken
      obtain ⟨free, rfl⟩ := taken
      refine ⟨Or.inl free, ?_, ?_⟩
      · intro fd
        rw [(update_fields _ _ _).1]
        exact lookup_insert_at s.channels (s.objects id).fd id fd
      · intro other
        rw [(update_fields _ _ _).2, setIndex_fd]
    · simp only [require_bind_ok, pure_ok] at taken
      obtain ⟨_, known, rfl⟩ := taken
      refine ⟨Or.inr known, ?_, ?_⟩
      · intro fd
        rw [(update_fields _ _ _).1]
        exact lookup_at s.channels (s.objects id).fd id known fd
      · intro other
        rw [(update_fields _ _ _).2, setIndex_fd]
  · simp only [require_bind_ok] at taken
    obtain ⟨_, known, _, updated⟩ := taken
    split at updated
    · obtain rfl := (pure_ok _ _).mp updated
      refine ⟨Or.inr known, ?_, ?_⟩
      · intro fd
        have same : (setIndex (update s .del id) id kDeleted).channels = s.channels :=
          (update_fields s .del id).1
        rw [same]
        exact lookup_at s.channels (s.objects id).fd id known fd
      · intro other
        rw [setIndex_fd, (update_fields _ _ _).2]
    · obtain rfl := (pure_ok _ _).mp updated
      refine ⟨Or.inr known, ?_, ?_⟩
      · intro fd
        rw [(update_fields _ _ _).1]
        exact lookup_at s.channels (s.objects id).fd id known fd
      · intro other
        rw [(update_fields _ _ _).2]

/-- A new channel whose descriptor the map does not hold can be updated. -/
theorem updateChannel_new (new : (s.objects id).index = kNew)
    (free : s.channels.lookup (s.objects id).fd = none) : ∃ t, updateChannel s id = .ok t := by
  simp only [updateChannel, new, true_or, if_true]
  exact ⟨_, require_passed free _⟩

/-- What a removal that passes its asserts does to the map. -/
structure Removed (s t : State Id) (id : Id) : Prop where
  before : s.channels.lookup (s.objects id).fd = some id
  entries : ∀ fd, t.channels.lookup fd =
    if fd = (s.objects id).fd then none else s.channels.lookup fd
  fds : ∀ other, (t.objects other).fd = (s.objects other).fd

/-- A removal that returns takes the channel out. -/
theorem removeChannel_removed (taken : removeChannel s id = .ok t) : Removed s t id := by
  simp only [removeChannel, require_bind_ok, pure_ok] at taken
  obtain ⟨_, known, _, _, rfl⟩ := taken
  refine ⟨known, ?_, ?_⟩
  · intro fd
    have same : (setIndex (if (s.objects id).index = kAdded then
        update { s with channels := s.channels.erase (s.objects id).fd } .del id
        else { s with channels := s.channels.erase (s.objects id).fd }) id kNew).channels =
          s.channels.erase (s.objects id).fd := by
      split
      · exact (update_fields _ _ _).1
      · rfl
    rw [same]
    exact lookup_erase_at s.channels (s.objects id).fd fd
  · intro other
    rw [setIndex_fd]
    split
    · rw [(update_fields _ _ _).2]
    · rfl

omit [DecidableEq Id] in
/-- Registering or removing one channel leaves the entries of the others. -/
theorem Registered.others (registered : Registered s t id) {other : Id} (different : other ≠ id)
    (fd : Int) : t.channels.lookup fd = some other ↔ s.channels.lookup fd = some other := by
  rw [registered.entries]
  split
  · rename_i own
    rw [own]
    rcases registered.before with free | known
    · simp [free, Ne.symm different]
    · simp [known]
  · exact Iff.rfl

omit [DecidableEq Id] in
/-- A removal leaves the entries of the other channels. -/
theorem Removed.others (removed : Removed s t id) {other : Id} (different : other ≠ id)
    (fd : Int) : t.channels.lookup fd = some other ↔ s.channels.lookup fd = some other := by
  rw [removed.entries]
  split
  · rename_i own
    rw [own, removed.before]
    simp [Ne.symm different]
  · exact Iff.rfl

end Entries

end ReactorNetwork.Epoller
