import ReactorNetwork.Channel
import ReactorNetwork.SwapRemove
import Mathlib.Data.List.AList

/-!
# The poller over `poll(2)`

The poller keeps a vector of `pollfd` slots, a map from descriptors to channels,
and in each registered channel the index of its slot. A channel without interest
keeps its slot under the encoded descriptor `-1 - fd`, which `poll` ignores.

Channels are named by an arbitrary type and have distinct nonnegative
descriptors. A channel changes its interest only together with an update, so the
two are one step. The kernel's answer to a poll is the environment's choice of
one `revents` for each slot, none for an ignored slot. `short` is a 16-bit word,
widened by sign.

That a channel which is enabled again after losing all interest stays ignored is
as in the source; nothing here claims that interest reaches the kernel.
-/

namespace ReactorNetwork.Poller

open SwapRemove

/-- A `struct pollfd`. -/
structure PollFd where
  fd : Int
  events : BitVec 16
  revents : BitVec 16
deriving DecidableEq, Repr

/-- The poller, the channels it points to and the active channels of the last
poll. -/
structure State (Id : Type) where
  pollFds : List PollFd
  channels : AList (fun _ : Int => Id)
  objects : Id → Channel
  active : List Id

/-- What a channel does to its interest before it updates. -/
inductive Interest where
  | keep
  | enableReading
  | enableWriting
  | disableWriting
  | disableAll
deriving DecidableEq, Repr

/-- What a change of interest makes of a channel. -/
def Interest.apply : Interest → Channel → Channel
  | .keep, c => c
  | .enableReading, c => c.enableReading
  | .enableWriting, c => c.enableWriting
  | .disableWriting, c => c.disableWriting
  | .disableAll, c => c.disableAll

/-- The calls of the poller: an update after a change of interest, a removal, and a poll
with the kernel's answer or without one. -/
inductive Label (Id : Type) where
  | update (channel : Id) (interest : Interest)
  | remove (channel : Id)
  | poll (revents : List (BitVec 16))
  | pollFailed

/-- `static_cast<short>`. -/
def toShort (mask : EventMask) : BitVec 16 := mask.setWidth 16

/-- The promotion of a `short` to `int`. -/
def toInt (mask : BitVec 16) : EventMask := mask.signExtend 32

variable {Id : Type} [DecidableEq Id]

/-- All channels constructed, none registered. -/
def initial (fd : Id → Int) : State Id where
  pollFds := []
  channels := ∅
  objects := fun id => Channel.create (fd id)
  active := []

/-- The channels with one of them changed. -/
def setChannel (objects : Id → Channel) (id : Id) (channel : Channel) : Id → Channel :=
  fun other => if other = id then channel else objects other

/-- The channels with one index changed. -/
def setIndex (s : State Id) (id : Id) (index : Int) : State Id :=
  { s with objects := setChannel s.objects id { s.objects id with index := index } }

/-- `update_channel`: a channel that was never added gets a slot at the end, a known one
has its slot updated. -/
def updateChannel (s : State Id) (id : Id) : Outcome (State Id) :=
  let c := s.objects id
  if c.index < 0 then do
    require (s.channels.lookup c.fd = none)
    let pushed := { s with pollFds := s.pollFds ++ [⟨c.fd, toShort c.events, 0⟩] }
    let indexed := setIndex pushed id (pushed.pollFds.length - 1)
    pure { indexed with channels := indexed.channels.insert c.fd id }
  else do
    require (s.channels.lookup c.fd ≠ none)
    require (s.channels.lookup c.fd = some id)
    require (0 ≤ c.index ∧ c.index < s.pollFds.length)
    let pfd ← accessed s.pollFds[c.index.toNat]?
    require (pfd.fd = c.fd ∨ pfd.fd = -1 - c.fd)
    let fd := if c.isNoneEvent then -1 - c.fd else pfd.fd
    pure { s with pollFds := s.pollFds.set c.index.toNat ⟨fd, toShort c.events, 0⟩ }

/-- The index of the channel that was moved into the freed slot. -/
def setMovedIndex (s : State Id) (channelAtEnd : Int) (index : Int) : Outcome (State Id) := do
  let fd := if channelAtEnd < 0 then -channelAtEnd - 1 else channelAtEnd
  let moved ← accessed (s.channels.lookup fd)
  pure (setIndex s moved index)

/-- The descriptor was found, so `erase` returns one. -/
def removeChannel (s : State Id) (id : Id) : Outcome (State Id) := do
  let c := s.objects id
  require (s.channels.lookup c.fd ≠ none)
  require (s.channels.lookup c.fd = some id)
  require (c.isNoneEvent = true)
  require (0 ≤ c.index ∧ c.index < s.pollFds.length)
  let pfd ← accessed s.pollFds[c.index.toNat]?
  require (pfd.fd = -c.fd - 1 ∧ toInt pfd.events = c.events)
  let erased := { s with channels := s.channels.erase c.fd }
  if c.index = s.pollFds.length - 1 then
    pure { erased with pollFds := s.pollFds.dropLast }
  else do
    let back ← accessed s.pollFds.getLast?
    let moved ← setMovedIndex erased back.fd c.index
    pure { moved with pollFds := swapRemove s.pollFds c.index.toNat }

/-- The loop over the slots, until `numEvents` active ones were found. -/
def fillActiveChannels (s : State Id) : List PollFd → Int → Outcome (State Id)
  | [], _ => pure s
  | pfd :: rest, numEvents =>
      if 0 < pfd.revents.toInt then do
        let channel ← match s.channels.lookup pfd.fd with
          | some channel => Except.ok channel
          | none => .error .assertion
        require ((s.objects channel).fd = pfd.fd)
        let filled : State Id := { s with
          objects := setChannel s.objects channel
            { s.objects channel with revents := toInt pfd.revents }
          active := s.active ++ [channel] }
        if numEvents - 1 = 0 then pure filled else fillActiveChannels filled rest (numEvents - 1)
      else fillActiveChannels s rest numEvents

/-- The kernel writes one `revents` into each slot. -/
def report (pollFds : List PollFd) (revents : List (BitVec 16)) : List PollFd :=
  List.zipWith (fun pfd r => { pfd with revents := r }) pollFds revents

/-- What `poll(2)` can answer: nothing for an ignored slot, and no negative
`short`. -/
def possible (pollFds : List PollFd) (revents : List (BitVec 16)) : Prop :=
  revents.length = pollFds.length ∧
    ∀ entry ∈ pollFds.zip revents, (entry.1.fd < 0 → entry.2 = 0) ∧ entry.2.msb = false

instance (pollFds : List PollFd) (revents : List (BitVec 16)) :
    Decidable (possible pollFds revents) :=
  inferInstanceAs (Decidable (_ ∧ ∀ entry ∈ _, (_ → _) ∧ _))

/-- `poll`: the kernel's answer is written into `poll_fds_` and becomes the active
channels. -/
def poll (s : State Id) (revents : List (BitVec 16)) : Outcome (State Id) :=
  let reported := report s.pollFds revents
  let numEvents := revents.countP (fun r => r ≠ 0)
  if 0 < numEvents then
    fillActiveChannels { s with pollFds := reported, active := [] } reported numEvents
  else pure { s with pollFds := reported, active := [] }

/-- One call. An update comes from a channel that has changed its mask just before. -/
def step (s : State Id) : Label Id → Outcome (State Id)
  | .update id interest =>
      updateChannel { s with
        objects := setChannel s.objects id (interest.apply (s.objects id)) } id
  | .remove id => removeChannel s id
  | .poll revents => do
      enabled (possible s.pollFds revents)
      poll s revents
  | .pollFailed => pure { s with active := [] }

/-- A slot belongs to a channel: it has the channel's descriptor, plain or
encoded, and its events. -/
structure SlotOf (c : Channel) (pfd : PollFd) : Prop where
  fd : pfd.fd = c.fd ∨ pfd.fd = -1 - c.fd
  events : pfd.events = toShort c.events

/-- The poller's three structures agree on an order of the registered channels:
the map holds exactly these, the vector has one slot for each in that order, and
each knows its position. Every channel keeps its descriptor and only ever shows
interest in the three lowest event bits. -/
structure Represents (fdOf : Id → Int) (order : List Id) (s : State Id) : Prop where
  fds : ∀ id, (s.objects id).fd = fdOf id
  small : ∀ id, (s.objects id).events.toNat < 8
  distinct : order.Nodup
  listed : s.channels.entries.Perm (order.map fun id => ⟨fdOf id, id⟩)
  sized : s.pollFds.length = order.length
  indexed : ∀ (position : Nat) id, order[position]? = some id → (s.objects id).index = position
  slots : ∀ (position : Nat) id pfd, order[position]? = some id →
    s.pollFds[position]? = some pfd → SlotOf (s.objects id) pfd

section Masks

/-- A mask of the three lowest bits survives the cast to `short` and back. -/
theorem toInt_toShort {mask : EventMask} (small : mask.toNat < 8) : toInt (toShort mask) = mask := by
  have narrow : (toShort mask).toNat = mask.toNat := by
    simp only [toShort, BitVec.toNat_setWidth]
    omega
  have positive : (toShort mask).msb = false := by
    rw [BitVec.msb_eq_false_iff_two_mul_lt, narrow]
    omega
  rw [toInt, BitVec.signExtend_eq_setWidth_of_msb_false positive]
  apply BitVec.eq_of_toNat_eq
  rw [BitVec.toNat_setWidth, narrow]
  omega

/-- No change of interest leaves the three lowest bits. -/
theorem apply_small (interest : Interest) (c : Channel) (small : c.events.toNat < 8) :
    (interest.apply c).events.toNat < 8 := by
  have joined : ∀ mask : EventMask, mask.toNat < 8 → (c.events ||| mask).toNat < 8 := by
    intro mask other
    rw [BitVec.toNat_or]
    exact Nat.or_lt_two_pow (n := 3) small other
  cases interest with
  | keep => exact small
  | enableReading => exact joined _ (by decide)
  | enableWriting => exact joined _ (by decide)
  | disableWriting =>
    simp only [Interest.apply, Channel.disableWriting, BitVec.toNat_and]
    exact Nat.lt_of_le_of_lt Nat.and_le_left small
  | disableAll => exact (by decide : Channel.kNoneEvent.toNat < 8)

/-- A change of interest leaves the descriptor alone. -/
theorem apply_fd (interest : Interest) (c : Channel) : (interest.apply c).fd = c.fd := by
  cases interest <;> rfl

/-- It leaves the index alone. -/
theorem apply_index (interest : Interest) (c : Channel) :
    (interest.apply c).index = c.index := by
  cases interest <;> rfl

end Masks

section Laws

variable {fdOf : Id → Int} {order : List Id} {s : State Id}

omit [DecidableEq Id] in
/-- Before the first update nothing is polled. -/
theorem initial_represents (fdOf : Id → Int) : Represents fdOf [] (initial fdOf) where
  fds := fun _ => rfl
  small := fun _ => (by decide : (0#32).toNat < 8)
  distinct := List.nodup_nil
  listed := List.Perm.refl _
  sized := rfl
  indexed := by simp
  slots := by simp

omit [DecidableEq Id] in
/-- A descriptor is found exactly for the registered channel that has it. -/
theorem lookup_iff (represents : Represents fdOf order s) (fd : Int) (id : Id) :
    s.channels.lookup fd = some id ↔ id ∈ order ∧ fdOf id = fd := by
  rw [← Option.mem_def, AList.mem_lookup_iff, represents.listed.mem_iff, List.mem_map]
  constructor
  · rintro ⟨other, member, same⟩
    obtain ⟨rfl, equal⟩ := Sigma.mk.inj same
    obtain rfl := eq_of_heq equal
    exact ⟨member, rfl⟩
  · rintro ⟨member, rfl⟩
    exact ⟨id, member, rfl⟩

omit [DecidableEq Id] in
/-- A descriptor is not found exactly when no registered channel has it. -/
theorem lookup_none_iff (represents : Represents fdOf order s) (fd : Int) :
    s.channels.lookup fd = none ↔ ∀ id ∈ order, fdOf id ≠ fd := by
  constructor
  · intro absent id member same
    have found := (lookup_iff represents fd id).mpr ⟨member, same⟩
    simp [absent] at found
  · intro absent
    cases found : s.channels.lookup fd with
    | none => rfl
    | some id =>
      obtain ⟨member, same⟩ := (lookup_iff represents fd id).mp found
      exact absurd same (absent id member)

/-- The channel that is set is the one found. -/
theorem setChannel_same (objects : Id → Channel) (id : Id) (c : Channel) :
    setChannel objects id c id = c := by
  simp [setChannel]

/-- The others stay. -/
theorem setChannel_other (objects : Id → Channel) (id other : Id) (c : Channel)
    (different : other ≠ id) : setChannel objects id c other = objects other := by
  simp [setChannel, different]

/-- A channel with its descriptor and small events may replace another state of
the same channel. -/
theorem setChannel_fds (represents : Represents fdOf order s) (id : Id) (c : Channel)
    (fd : c.fd = fdOf id) (small : c.events.toNat < 8) :
    (∀ other, (setChannel s.objects id c other).fd = fdOf other) ∧
      ∀ other, (setChannel s.objects id c other).events.toNat < 8 := by
  constructor
  · intro other
    by_cases same : other = id
    · subst same
      rw [setChannel_same]
      exact fd
    · rw [setChannel_other _ _ _ _ same]
      exact represents.fds other
  · intro other
    by_cases same : other = id
    · subst same
      rw [setChannel_same]
      exact small
    · rw [setChannel_other _ _ _ _ same]
      exact represents.small other

/-- Registering a channel puts it at the end of the order. -/
theorem represents_push (represents : Represents fdOf order s) (id : Id) (c : Channel)
    (fd : c.fd = fdOf id) (small : c.events.toNat < 8) (absent : ∀ other ∈ order, fdOf other ≠ fdOf id)
    (index : c.index = order.length) :
    Represents fdOf (order ++ [id]) { s with
      pollFds := s.pollFds ++ [⟨c.fd, toShort c.events, 0⟩]
      objects := setChannel s.objects id c
      channels := s.channels.insert (fdOf id) id } := by
  obtain ⟨fds, smalls⟩ := setChannel_fds represents id c fd small
  have new : id ∉ order := fun member => absent id member rfl
  have fresh : fdOf id ∉ s.channels :=
    AList.lookup_eq_none.mp ((lookup_none_iff represents (fdOf id)).mpr absent)
  have positions : ∀ (position : Nat) other, (order ++ [id])[position]? = some other →
      (order[position]? = some other ∧ other ≠ id) ∨ (position = order.length ∧ other = id) := by
    intro position other found
    by_cases inside : position < order.length
    · rw [List.getElem?_append_left inside] at found
      exact Or.inl ⟨found, fun same => new (same ▸ List.mem_of_getElem? found)⟩
    · rw [List.getElem?_append_right (by omega)] at found
      have first : position - order.length = 0 := by
        by_contra later
        rw [List.getElem?_eq_none (by simp only [List.length_singleton]; omega)] at found
        cases found
      rw [first] at found
      exact Or.inr ⟨by omega, by simpa [eq_comm] using found⟩
  refine ⟨fds, smalls, ?_, ?_, ?_, ?_, ?_⟩
  · exact List.nodup_append.mpr ⟨represents.distinct, by simp, by
      intro other member last same
      obtain rfl := List.mem_singleton.mp same
      exact fun equal => new (equal ▸ member)⟩
  · rw [AList.entries_insert_of_notMem fresh, List.map_append]
    exact (represents.listed.cons _).trans (List.perm_append_singleton _ _).symm
  · simp [represents.sized]
  · intro position other found
    rcases positions position other found with ⟨earlier, different⟩ | ⟨rfl, rfl⟩
    · simp only [setChannel_other _ _ _ _ different]
      exact represents.indexed position other earlier
    · simp only [setChannel_same]
      exact index
  · intro position other pfd found slot
    rcases positions position other found with ⟨earlier, different⟩ | ⟨rfl, rfl⟩
    · have inside : position < s.pollFds.length := by
        rw [represents.sized]
        exact (List.getElem?_eq_some_iff.mp earlier).1
      simp only [List.getElem?_append_left inside] at slot
      simp only [setChannel_other _ _ _ _ different]
      exact represents.slots position other pfd earlier slot
    · simp only [← represents.sized, List.getElem?_concat_length, Option.some.injEq] at slot
      subst slot
      simp only [setChannel_same]
      exact ⟨Or.inl rfl, rfl⟩

/-- Updating a registered channel and its slot keeps the order. -/
theorem represents_set (represents : Represents fdOf order s) (position : Nat) (id : Id)
    (c : Channel) (pfd : PollFd) (registered : order[position]? = some id) (fd : c.fd = fdOf id)
    (small : c.events.toNat < 8) (index : c.index = position) (slot : SlotOf c pfd) :
    Represents fdOf order { s with
      pollFds := s.pollFds.set position pfd
      objects := setChannel s.objects id c } := by
  obtain ⟨fds, smalls⟩ := setChannel_fds represents id c fd small
  have elsewhere : ∀ (other : Nat) otherId, order[other]? = some otherId → other ≠ position →
      otherId ≠ id := by
    intro other otherId found different same
    subst same
    obtain ⟨inside, here⟩ := List.getElem?_eq_some_iff.mp found
    obtain ⟨insideToo, there⟩ := List.getElem?_eq_some_iff.mp registered
    exact different ((represents.distinct.getElem_inj_iff).mp (here.trans there.symm))
  refine ⟨fds, smalls, represents.distinct, represents.listed, ?_, ?_, ?_⟩
  · simp [represents.sized]
  · intro other otherId found
    by_cases here : other = position
    · subst here
      obtain rfl := Option.some.inj (registered.symm.trans found)
      simp only [setChannel_same]
      exact index
    · simp only [setChannel_other _ _ _ _ (elsewhere other otherId found here)]
      exact represents.indexed other otherId found
  · intro other otherId otherPfd found slotFound
    by_cases here : other = position
    · subst here
      obtain rfl := Option.some.inj (registered.symm.trans found)
      have inside : other < s.pollFds.length := by
        rw [represents.sized]
        exact (List.getElem?_eq_some_iff.mp registered).1
      simp only [List.getElem?_set_self inside, Option.some.injEq] at slotFound
      subst slotFound
      simp only [setChannel_same]
      exact slot
    · simp only [List.getElem?_set_ne (Ne.symm here)] at slotFound
      simp only [setChannel_other _ _ _ _ (elsewhere other otherId found here)]
      exact represents.slots other otherId otherPfd found slotFound

omit [DecidableEq Id] in
/-- Removing a channel swaps it out of the order, of the vector and of the map
at once, if the index of the channel that takes its place follows. -/
theorem represents_remove (represents : Represents fdOf order s) (position : Nat) (id : Id)
    (registered : order[position]? = some id) (objects : Id → Channel)
    (unchanged : ∀ other, (objects other).fd = (s.objects other).fd ∧
      (objects other).events = (s.objects other).events)
    (follows : ∀ (place : Nat) other, (swapRemove order position)[place]? = some other →
      (objects other).index = place) :
    Represents fdOf (swapRemove order position) { s with
      pollFds := swapRemove s.pollFds position
      channels := s.channels.erase (fdOf id)
      objects := objects } := by
  have inside : position < order.length := (List.getElem?_eq_some_iff.mp registered).1
  have insideSlots : position < s.pollFds.length := represents.sized ▸ inside
  have removed := swapRemove_perm registered
  refine ⟨?_, ?_, ?_, ?_, ?_, follows, ?_⟩
  · exact fun other => (unchanged other).1.trans (represents.fds other)
  · intro other
    simp only [(unchanged other).2]
    exact represents.small other
  · exact (List.nodup_cons.mp (removed.nodup_iff.mp represents.distinct)).2
  · have entries : s.channels.entries.Perm
        (⟨fdOf id, id⟩ :: (swapRemove order position).map fun id => ⟨fdOf id, id⟩) :=
      represents.listed.trans (removed.map _)
    have erased : (s.channels.erase (fdOf id)).entries.Perm _ :=
      List.Perm.kerase s.channels.nodupKeys entries
    have head : List.kerase (fdOf id) (⟨fdOf id, id⟩ ::
        (swapRemove order position).map fun id => (⟨fdOf id, id⟩ : (_ : Int) × Id)) =
        (swapRemove order position).map fun id => ⟨fdOf id, id⟩ := List.kerase_cons_eq rfl
    rw [head] at erased
    exact erased
  · simp only [swapRemove_length insideSlots, swapRemove_length inside, represents.sized]
  · intro place other pfd found slot
    have within : place < order.length - 1 := by
      have bound := (List.getElem?_eq_some_iff.mp found).1
      rwa [swapRemove_length inside] at bound
    rw [swapRemove_getElem? inside place within] at found
    simp only [swapRemove_getElem? insideSlots place (represents.sized ▸ within)] at slot
    have belongs : SlotOf (s.objects other) pfd := by
      by_cases here : place = position
      · rw [if_pos here, List.getLast?_eq_getElem?] at found slot
        rw [represents.sized] at slot
        exact represents.slots _ other pfd found slot
      · rw [if_neg here] at found slot
        exact represents.slots place other pfd found slot
    obtain ⟨fd, events⟩ := belongs
    exact ⟨by simpa only [(unchanged other).1] using fd,
      by simpa only [(unchanged other).2] using events⟩

/-- Of two changes to one channel the second counts. -/
theorem setChannel_twice (objects : Id → Channel) (id : Id) (first second : Channel) :
    setChannel (setChannel objects id first) id second = setChannel objects id second := by
  funext other
  by_cases same : other = id
  · simp [setChannel, same]
  · simp [setChannel, same]

omit [DecidableEq Id] in
/-- A found channel has a position in the order, which is its index. -/
theorem position_of_lookup (represents : Represents fdOf order s) {fd : Int} {id : Id}
    (found : s.channels.lookup fd = some id) :
    ∃ position : Nat, order[position]? = some id ∧ (s.objects id).index = position ∧
      position < s.pollFds.length := by
  obtain ⟨member, _⟩ := (lookup_iff represents fd id).mp found
  obtain ⟨position, inside, here⟩ := List.mem_iff_getElem.mp member
  have registered : order[position]? = some id := List.getElem?_eq_some_iff.mpr ⟨inside, here⟩
  exact ⟨position, registered, represents.indexed position id registered, represents.sized ▸ inside⟩

/-- Changing a channel's interest and updating it keeps the representation: a
new channel is registered, a known one keeps its place. -/
theorem update_represents (represents : Represents fdOf order s) (id : Id) (interest : Interest)
    (t : State Id) (taken : step s (.update id interest) = .ok t) :
    ∃ next, Represents fdOf next t := by
  have fd : (interest.apply (s.objects id)).fd = fdOf id :=
    (apply_fd interest _).trans (represents.fds id)
  have small := apply_small interest _ (represents.small id)
  have index := apply_index interest (s.objects id)
  simp only [step] at taken
  generalize interest.apply (s.objects id) = c at taken fd small index
  unfold updateChannel at taken
  simp only [setChannel_same] at taken
  split at taken
  · obtain ⟨absent, same⟩ := (require_bind_ok _ _ _).mp taken
    rw [setChannel_same, fd] at absent
    have others := (lookup_none_iff represents (fdOf id)).mp absent
    simp only [setIndex, setChannel_same, setChannel_twice, pure_ok] at same
    subst same
    refine ⟨order ++ [id], ?_⟩
    have length : ((s.pollFds ++ [(⟨c.fd, toShort c.events, 0⟩ : PollFd)]).length : Int) - 1 =
        order.length := by
      simp [represents.sized]
    have pushed := represents_push represents id { c with index := order.length } fd small others
      rfl
    rw [length, fd]
    simp only [fd] at pushed
    exact pushed
  · obtain ⟨_, taken⟩ := (require_bind_ok _ _ _).mp taken
    obtain ⟨found, taken⟩ := (require_bind_ok _ _ _).mp taken
    obtain ⟨_, taken⟩ := (require_bind_ok _ _ _).mp taken
    obtain ⟨pfd, present, taken⟩ := (bind_ok _ _ _).mp taken
    obtain ⟨same, taken⟩ := (require_bind_ok _ _ _).mp taken
    obtain rfl := (pure_ok _ _).mp taken
    obtain ⟨position, registered, atPosition, _⟩ := position_of_lookup represents found
    rw [index, atPosition, Int.toNat_natCast]
    refine ⟨order, represents_set represents position id c _ registered fd small
      (index.trans atPosition) ⟨?_, rfl⟩⟩
    split
    · exact Or.inr rfl
    · exact same

/-- What a removal asserts of the channel and its slot. -/
structure Removable (s : State Id) (id : Id) (pfd : PollFd) : Prop where
  found : s.channels.lookup (s.objects id).fd = some id
  none : (s.objects id).isNoneEvent = true
  present : s.pollFds[(s.objects id).index.toNat]? = some pfd
  ignored : pfd.fd = -(s.objects id).fd - 1 ∧ toInt pfd.events = (s.objects id).events

/-- What a removal leaves: the last slot is dropped, or the last channel takes the
freed slot over. -/
inductive Removed (s : State Id) (id : Id) : State Id → Prop where
  | last (final : (s.objects id).index = s.pollFds.length - 1) :
      Removed s id { s with
        channels := s.channels.erase (s.objects id).fd
        pollFds := s.pollFds.dropLast }
  | moved (back : PollFd) (moved : Id) (notFinal : (s.objects id).index ≠ s.pollFds.length - 1)
      (final : s.pollFds.getLast? = some back)
      (foundMoved : (s.channels.erase (s.objects id).fd).lookup
        (if back.fd < 0 then -back.fd - 1 else back.fd) = some moved) :
      Removed s id { setIndex { s with channels := s.channels.erase (s.objects id).fd } moved
          (s.objects id).index with
        pollFds := swapRemove s.pollFds (s.objects id).index.toNat }

/-- A removal that returns has passed its assertions and leaves one of these. -/
theorem removed {id : Id} {t : State Id} (taken : step s (.remove id) = .ok t) :
    (∃ pfd, Removable s id pfd) ∧ Removed s id t := by
  simp only [step, removeChannel] at taken
  obtain ⟨_, taken⟩ := (require_bind_ok _ _ _).mp taken
  obtain ⟨found, taken⟩ := (require_bind_ok _ _ _).mp taken
  obtain ⟨none, taken⟩ := (require_bind_ok _ _ _).mp taken
  obtain ⟨_, taken⟩ := (require_bind_ok _ _ _).mp taken
  obtain ⟨pfd, present, taken⟩ := (bind_ok _ _ _).mp taken
  obtain ⟨ignored, taken⟩ := (require_bind_ok _ _ _).mp taken
  refine ⟨⟨pfd, found, none, (accessed_ok _ _).mp present, ignored⟩, ?_⟩
  split at taken
  case isTrue final =>
    obtain rfl := (pure_ok _ _).mp taken
    exact .last final
  case isFalse notFinal =>
    obtain ⟨back, final, taken⟩ := (bind_ok _ _ _).mp taken
    obtain ⟨next, setMoved, taken⟩ := (bind_ok _ _ _).mp taken
    obtain ⟨moved, foundMoved, setMoved⟩ := (bind_ok _ _ _).mp setMoved
    obtain rfl := (pure_ok _ _).mp setMoved
    obtain rfl := (pure_ok _ _).mp taken
    exact .moved back moved notFinal ((accessed_ok _ _).mp final) ((accessed_ok _ _).mp foundMoved)

omit [DecidableEq Id] in
/-- Decoding the descriptor of a channel's slot gives the channel's descriptor. -/
theorem decoded_fd (nonnegative : ∀ id, 0 ≤ fdOf id) (represents : Represents fdOf order s)
    {id : Id} {pfd : PollFd} (belongs : SlotOf (s.objects id) pfd) :
    (if pfd.fd < 0 then -pfd.fd - 1 else pfd.fd) = fdOf id := by
  have sign := nonnegative id
  rcases belongs.fd with plain | encoded
  · rw [plain, represents.fds, if_neg (by omega)]
  · rw [encoded, represents.fds, if_pos (by omega)]
    omega

omit [DecidableEq Id] in
/-- The channel a removal moves is the last of the order.

Proof: the descriptor of the last slot decodes to the last channel's, and the map
still holds that channel. -/
theorem moved_last (nonnegative : ∀ id, 0 ≤ fdOf id) (represents : Represents fdOf order s)
    {id moved : Id} {back : PollFd} (nonempty : order ≠ [])
    (final : s.pollFds.getLast? = some back)
    (foundMoved : (s.channels.erase (s.objects id).fd).lookup
      (if back.fd < 0 then -back.fd - 1 else back.fd) = some moved) :
    order.getLast? = some moved ∧ order[order.length - 1]? = some moved := by
  obtain ⟨last, lastAt⟩ : ∃ last, order.getLast? = some last :=
    ⟨_, List.getLast?_eq_some_getLast nonempty⟩
  have lastPosition : order[order.length - 1]? = some last := by
    rw [← List.getLast?_eq_getElem?]
    exact lastAt
  have slotOfLast : SlotOf (s.objects last) back := by
    rw [List.getLast?_eq_getElem?, represents.sized] at final
    exact represents.slots _ last back lastPosition final
  rw [decoded_fd nonnegative represents slotOfLast, represents.fds] at foundMoved
  have isLast : moved = last := by
    by_cases erased : fdOf last = fdOf id
    · rw [erased, AList.lookup_erase] at foundMoved
      cases foundMoved
    · rw [AList.lookup_erase_ne erased] at foundMoved
      have lastFound := (lookup_iff represents (fdOf last) last).mpr
        ⟨List.mem_of_getElem? lastPosition, rfl⟩
      exact Option.some.inj (foundMoved.symm.trans lastFound)
  rw [isLast]
  exact ⟨lastAt, lastPosition⟩

/-- What a removal that returns has checked, and what it leaves: the channel's
position is freed and the last channel takes it over. -/
theorem remove_represents (nonnegative : ∀ id, 0 ≤ fdOf id)
    (represents : Represents fdOf order s) (id : Id) (t : State Id)
    (taken : step s (.remove id) = .ok t) :
    ∃ position : Nat, order[position]? = some id ∧
      Represents fdOf (swapRemove order position) t ∧
      t.pollFds = swapRemove s.pollFds position := by
  obtain ⟨⟨pfd, removable⟩, left⟩ := removed taken
  obtain ⟨position, registered, atPosition, inside⟩ :=
    position_of_lookup represents removable.found
  have insideOrder : position < order.length := represents.sized ▸ inside
  cases left with
  | last isLast =>
    rw [atPosition] at isLast
    have final : position = s.pollFds.length - 1 := by omega
    have dropped : s.pollFds.dropLast = swapRemove s.pollFds position := by
      rw [final, swapRemove_last]
    rw [dropped, represents.fds]
    refine ⟨position, registered, represents_remove represents position id registered s.objects
      (fun _ => ⟨rfl, rfl⟩) ?_, rfl⟩
    intro place other at_
    have within : place < order.length - 1 := by
      have bound := (List.getElem?_eq_some_iff.mp at_).1
      rwa [swapRemove_length insideOrder] at bound
    rw [swapRemove_getElem? insideOrder place within, if_neg (by
      rw [final, represents.sized]
      omega)] at at_
    exact represents.indexed place other at_
  | moved back movedId notLast final foundMoved =>
    obtain ⟨lastAt, lastPosition⟩ :=
      moved_last nonnegative represents (List.ne_nil_of_length_pos (by omega)) final foundMoved
    rw [atPosition] at notLast
    rw [atPosition, represents.fds]
    have notFinal : position ≠ s.pollFds.length - 1 := by omega
    refine ⟨position, registered, ?_⟩
    refine ⟨represents_remove represents position id registered _ ?_ ?_, by simp⟩
    · intro other
      by_cases same : other = movedId
      · subst same
        simp only [setIndex, setChannel_same]
        exact ⟨trivial, trivial⟩
      · simp only [setIndex, setChannel_other _ _ _ _ same]
        exact ⟨trivial, trivial⟩
    · intro place other at_
      have within : place < order.length - 1 := by
        have bound := (List.getElem?_eq_some_iff.mp at_).1
        rwa [swapRemove_length insideOrder] at bound
      rw [swapRemove_getElem? insideOrder place within] at at_
      by_cases here : place = position
      · rw [if_pos here, lastAt] at at_
        obtain rfl := Option.some.inj at_
        simp only [setIndex, setChannel_same, here]
      · rw [if_neg here] at at_
        have different : other ≠ movedId := by
          intro same
          subst same
          obtain ⟨insidePlace, herePlace⟩ := List.getElem?_eq_some_iff.mp at_
          obtain ⟨insideEnd, hereEnd⟩ := List.getElem?_eq_some_iff.mp lastPosition
          have equal := (represents.distinct.getElem_inj_iff).mp (herePlace.trans hereEnd.symm)
          omega
        simp only [setIndex, setChannel_other _ _ _ _ different]
        exact represents.indexed place other at_

end Laws

end ReactorNetwork.Poller
