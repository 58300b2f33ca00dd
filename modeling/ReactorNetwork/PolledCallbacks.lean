import ReactorNetwork.PollerAgreement

/-!
# The callbacks of a channel under either poller

The pollers share the operations of the channels and are asked by the same loop. At a poll
the kernel knows the condition of each descriptor; `poll(2)` answers for each slot with the
requested part of it, `epoll_wait` for each entry of the interest list. Both add errors and
hang-ups, which nobody has to ask for.

After operations that both pollers treat alike, and with polls in between, every channel
that has any interest is told the same by both, so its callbacks are the same. A channel
without interest may still be told of an error or a hang-up by one poller and not by the
other, and of nothing else by either. The order of the active channels is the poller's own.

Polls are complete here: all ready descriptors fit into the event vector.
-/

namespace ReactorNetwork

/-- What the kernel tells of a descriptor to somebody who asks for a mask. -/
def told (conditions : Int → BitVec 15) (fd : Int) (mask : EventMask) : EventMask :=
  (conditions fd).setWidth 32 &&& (mask ||| (POLLERR ||| POLLHUP))

namespace Poller

variable {Id : Type} [DecidableEq Id]

/-- The answer of `poll(2)` for one slot. -/
def slotAnswer (conditions : Int → BitVec 15) (pfd : PollFd) : BitVec 16 :=
  if pfd.fd < 0 then 0
  else (conditions pfd.fd).setWidth 16 &&& (pfd.events ||| toShort (POLLERR ||| POLLHUP))

/-- The answer of `poll(2)`. -/
def pollAnswer (conditions : Int → BitVec 15) (pollFds : List PollFd) : List (BitVec 16) :=
  pollFds.map (slotAnswer conditions)

/-- As an `int`, the answer for a slot that is heard is what the kernel tells. -/
theorem toInt_slotAnswer (conditions : Int → BitVec 15) {pfd : PollFd} (heard : ¬ pfd.fd < 0) :
    toInt (slotAnswer conditions pfd) = told conditions pfd.fd (toInt pfd.events) := by
  have unsigned : ((conditions pfd.fd).setWidth 16).msb = false := by simp [BitVec.msb_setWidth'']
  have widened : toInt ((conditions pfd.fd).setWidth 16) = (conditions pfd.fd).setWidth 32 := by
    rw [toInt, BitVec.signExtend_eq_setWidth_of_msb_false unsigned,
      BitVec.setWidth_setWidth (by omega)]
  have always : toInt (toShort (POLLERR ||| POLLHUP)) = POLLERR ||| POLLHUP := by decide
  rw [slotAnswer, if_neg heard, told, ← widened]
  conv_rhs => rw [← always]
  simp only [toInt, BitVec.signExtend_and, BitVec.signExtend_or]

/-- A mask is zero exactly when its number is. -/
theorem toInt_zero_iff (mask : BitVec 16) : toInt mask = 0 ↔ mask = 0 := by
  constructor
  · intro zero
    apply BitVec.eq_of_toInt_eq
    rw [← BitVec.toInt_signExtend_of_le (by decide : 16 ≤ 32)]
    exact congrArg BitVec.toInt zero
  · rintro rfl
    rfl

/-- The answer is one `poll(2)` can give. -/
theorem pollAnswer_possible (conditions : Int → BitVec 15) (pollFds : List PollFd) :
    possible pollFds (pollAnswer conditions pollFds) := by
  refine ⟨List.length_map _, ?_⟩
  intro entry member
  have same : entry.2 = slotAnswer conditions entry.1 := by
    obtain ⟨position, found⟩ := List.mem_iff_getElem?.mp member
    obtain ⟨slot, answer⟩ := List.getElem?_zip_eq_some.mp found
    rw [pollAnswer, List.getElem?_map, slot] at answer
    exact (Option.some.inj answer).symm
  rw [same, slotAnswer]
  split
  case isTrue ignored => exact ⟨fun _ => rfl, rfl⟩
  case isFalse heard =>
    exact ⟨fun negative => absurd negative heard, by simp [BitVec.msb_setWidth'']⟩

variable {fdOf : Id → Int} {order : List Id} {s t : State Id}

/-- Telling a channel its events changes nothing else of it. -/
theorem told_rest (objects : Id → Channel) (channel : Id) (revents : EventMask) (id : Id) :
    { setChannel objects channel { objects channel with revents := revents } id with revents := 0 } =
      { objects id with revents := 0 } := by
  by_cases same : id = channel
  · rw [same, setChannel_same]
  · rw [setChannel_other _ _ _ _ same]

/-- The loop over the slots changes nothing but the active channels and what they are
told. -/
theorem fillActiveChannels_leaves {slots : List PollFd} {numEvents : Int}
    (taken : fillActiveChannels s slots numEvents = .ok t) :
    t.pollFds = s.pollFds ∧ t.channels = s.channels ∧
      ∀ id, { t.objects id with revents := 0 } = { s.objects id with revents := 0 } := by
  induction slots generalizing s numEvents with
  | nil =>
    obtain rfl := (pure_ok _ _).mp taken
    exact ⟨rfl, rfl, fun _ => rfl⟩
  | cons pfd rest inductionHypothesis =>
    rw [fillActiveChannels] at taken
    split at taken
    case isFalse => exact inductionHypothesis taken
    case isTrue =>
      cases found : s.channels.lookup pfd.fd with
      | none =>
        rw [found] at taken
        cases taken
      | some channel =>
        rw [found] at taken
        obtain ⟨_, taken⟩ := (require_bind_ok _ _ _).mp taken
        have told := told_rest s.objects channel (toInt pfd.revents)
        split at taken
        case isTrue =>
          obtain rfl := (pure_ok _ _).mp taken
          exact ⟨rfl, rfl, told⟩
        case isFalse =>
          obtain ⟨pollFds, channels, rest⟩ := inductionHypothesis taken
          exact ⟨pollFds, channels, fun id => (rest id).trans (told id)⟩

/-- A poll changes no registration. -/
theorem poll_leaves {revents : List (BitVec 16)} (taken : step s (.poll revents) = .ok t) :
    t.pollFds = report s.pollFds revents ∧ t.channels = s.channels ∧
      ∀ id, { t.objects id with revents := 0 } = { s.objects id with revents := 0 } := by
  obtain ⟨_, _, polled⟩ := (bind_ok _ _ _).mp taken
  simp only [poll] at polled
  split at polled
  · exact fillActiveChannels_leaves polled
  · obtain rfl := (pure_ok _ _).mp polled
    exact ⟨rfl, rfl, fun _ => rfl⟩

/-- Channels that differ in `revents` only. -/
theorem kept_of_rest {c d : Channel} (same : { c with revents := 0 } = { d with revents := 0 }) :
    c.fd = d.fd ∧ c.events = d.events ∧ c.index = d.index := by
  simp only [Channel.mk.injEq] at same
  exact ⟨same.1, same.2.1, same.2.2.2⟩

/-- Writing an answer into a slot ignores no channel and reveals none. -/
theorem ignored_polled {revents : List (BitVec 16)} (possibleAnswer : possible s.pollFds revents)
    (taken : step s (.poll revents) = .ok t) (id : Id) : ignored t id = ignored s id := by
  obtain ⟨pollFds, _, rest⟩ := poll_leaves taken
  rw [ignored, ignored, slotOf, slotOf, (kept_of_rest (rest id)).2.2, pollFds, report,
    List.getElem?_zipWith]
  have length := possibleAnswer.1
  cases slot : s.pollFds[(s.objects id).index.toNat]? with
  | none => rfl
  | some pfd =>
    obtain ⟨inside, _⟩ := List.getElem?_eq_some_iff.mp slot
    rw [List.getElem?_eq_getElem (by omega)]
    rfl

/-- What a poll tells a registered channel: its slot's answer, if that is not zero. -/
theorem polled_registered (nonnegative : ∀ id, 0 ≤ fdOf id) (represents : Represents fdOf order s)
    (conditions : Int → BitVec 15)
    (taken : step s (.poll (pollAnswer conditions s.pollFds)) = .ok t) :
    t.active.Nodup ∧ (∀ id ∈ t.active, s.channels.lookup (fdOf id) = some id) ∧
      ∀ id pfd, s.channels.lookup (fdOf id) = some id → slotOf s id = some pfd →
        (id ∈ t.active ↔ slotAnswer conditions pfd ≠ 0) ∧
        (id ∈ t.active → (t.objects id).revents = toInt (slotAnswer conditions pfd)) := by
  have answered := pollAnswer_possible conditions s.pollFds
  obtain ⟨next, returned, _, active, own⟩ := poll_represents nonnegative represents answered
  obtain rfl := Except.ok.inj (returned.symm.trans taken)
  have hit := mem_hits_iff represents (pollAnswer conditions s.pollFds)
  have distinct := (reported_fillable nonnegative represents answered).distinct
  have answer : ∀ id pfd, slotOf s id = some pfd →
      (pollAnswer conditions s.pollFds)[(s.objects id).index.toNat]? =
        some (slotAnswer conditions pfd) := by
    intro id pfd slot
    rw [slotOf] at slot
    rw [pollAnswer, List.getElem?_map, slot]
    rfl
  refine ⟨?_, ?_, ?_⟩
  · rw [active]
    exact distinct.sublist (List.filter_sublist.map _)
  · intro id member
    rw [active, List.mem_map] at member
    obtain ⟨pair, found, rfl⟩ := member
    obtain ⟨_, ⟨fd, registered⟩, _⟩ := (hit pair.1 _).mp ⟨pair, found, rfl, rfl⟩
    rw [((lookup_iff represents fd pair.1).mp registered).2]
    exact registered
  · intro id pfd registered slot
    rw [active, List.mem_map]
    constructor
    · constructor
      · rintro ⟨pair, found, rfl⟩
        obtain ⟨nonzero, _, here⟩ := (hit pair.1 _).mp ⟨pair, found, rfl, rfl⟩
        rw [answer pair.1 pfd slot] at here
        rw [Option.some.inj here]
        exact nonzero
      · intro nonzero
        obtain ⟨pair, found, same, _⟩ :=
          (hit id _).mpr ⟨nonzero, ⟨_, registered⟩, answer id pfd slot⟩
        exact ⟨pair, found, same⟩
    · rintro ⟨pair, found, rfl⟩
      obtain ⟨_, _, here⟩ := (hit pair.1 _).mp ⟨pair, found, rfl, rfl⟩
      rw [answer pair.1 pfd slot] at here
      rw [own pair found, Option.some.inj here]

/-- A poll tells a registered channel nothing if its slot is ignored, and otherwise what the
kernel tells for its interest, if that is not zero. -/
theorem polled_heard (nonnegative : ∀ id, 0 ≤ fdOf id) (represents : Represents fdOf order s)
    (conditions : Int → BitVec 15)
    (taken : step s (.poll (pollAnswer conditions s.pollFds)) = .ok t) (id : Id)
    (known : s.channels.lookup (fdOf id) = some id) :
    (ignored s id = true → id ∉ t.active) ∧
      (ignored s id = false →
        (id ∈ t.active ↔ told conditions (fdOf id) (s.objects id).events ≠ 0) ∧
        (id ∈ t.active →
          (t.objects id).revents = told conditions (fdOf id) (s.objects id).events)) := by
  obtain ⟨_, _, answers⟩ := polled_registered nonnegative represents conditions taken
  obtain ⟨_, _, _, pfd, slot, plainOrEncoded, events⟩ := slot_of_lookup represents known
  obtain ⟨reported, revents⟩ := answers id pfd known slot
  constructor
  · intro unheard member
    have negative : pfd.fd < 0 := by simpa [ignored, slot] using unheard
    exact reported.mp member (by rw [slotAnswer, if_pos negative])
  · intro heard
    have heard : ¬ pfd.fd < 0 := by simpa [ignored, slot] using heard
    have plain : pfd.fd = fdOf id := by
      have sign := nonnegative id
      omega
    have answer := toInt_slotAnswer conditions heard
    rw [plain, events] at answer
    rw [← answer]
    exact ⟨reported.trans (not_congr (toInt_zero_iff _).symm), revents⟩

end Poller

namespace Epoller

variable {Id : Type} [DecidableEq Id]

/-- The answer of `epoll_wait` for one descriptor. -/
def entryAnswer (conditions : Int → BitVec 15) (s : State Id) (fd : Int) : EventMask :=
  match s.interest fd with
  | none => 0
  | some entry => told conditions fd entry.events

/-- A complete answer of `epoll_wait`, in an order of its own. -/
def Reports (conditions : Int → BitVec 15) (s : State Id) (reported : List (Int × EventMask)) :
    Prop :=
  (reported.map Prod.fst).Nodup ∧
    (∀ entry ∈ reported, entry.2 ≠ 0 ∧ entry.2 = entryAnswer conditions s entry.1) ∧
    (∀ fd ∈ s.channels.keys, entryAnswer conditions s fd ≠ 0 →
      (fd, entryAnswer conditions s fd) ∈ reported) ∧
    reported.length ≤ s.events

instance (conditions : Int → BitVec 15) (s : State Id) (reported : List (Int × EventMask)) :
    Decidable (Reports conditions s reported) :=
  inferInstanceAs (Decidable (_ ∧ (∀ entry ∈ _, _) ∧ (∀ fd ∈ _, _) ∧ _))

variable {fdOf : Id → Int} {s t : State Id} {conditions : Int → BitVec 15}
  {reported : List (Int × EventMask)}

omit [DecidableEq Id] in
/-- A report of the conditions is one the kernel may give. -/
theorem reports_possible (reports : Reports conditions s reported) : possible s reported := by
  obtain ⟨distinct, answers, _, fits⟩ := reports
  refine ⟨distinct, ?_, fits⟩
  intro entry member absent
  obtain ⟨nonzero, same⟩ := answers entry member
  rw [entryAnswer, absent] at same
  exact nonzero same

omit [DecidableEq Id] in
/-- An event is returned for a reported descriptor that is watched. -/
theorem mem_returned {event : EpollEvent Id} :
    event ∈ returned s reported ↔
      ∃ fd revents, (fd, revents) ∈ reported ∧ ∃ entry, s.interest fd = some entry ∧
        event = ⟨revents, entry.data⟩ := by
  simp only [returned, List.mem_filterMap, Option.map_eq_some_iff, Prod.exists]
  constructor
  · rintro ⟨fd, revents, member, entry, found, rfl⟩
    exact ⟨fd, revents, member, entry, found, rfl⟩
  · rintro ⟨fd, revents, member, entry, found, rfl⟩
    exact ⟨fd, revents, member, entry, found, rfl⟩

omit [DecidableEq Id] in
/-- Different descriptors are of different channels. -/
theorem returned_distinct (mirrors : Mirrors fdOf s)
    (distinct : (reported.map Prod.fst).Nodup) :
    ((returned s reported).map EpollEvent.data).Nodup := by
  have fds : (((returned s reported).map EpollEvent.data).map fdOf).Sublist
      (reported.map Prod.fst) := by
    clear distinct
    unfold returned
    induction reported with
    | nil => exact List.Sublist.refl _
    | cons head rest inductionHypothesis =>
      cases found : s.interest head.1 with
      | none =>
        simp only [List.filterMap_cons, found, Option.map_none, List.map_cons]
        exact inductionHypothesis.cons _
      | some entry =>
        obtain ⟨same, _⟩ := (mirrors.watched head.1 entry).mp found
        simp only [List.filterMap_cons, found, Option.map_some, List.map_cons, same]
        exact inductionHypothesis.cons_cons _
  exact (distinct.sublist fds).of_map _

/-- The loop over the events tells each channel its own. -/
theorem fillActiveChannels_told {events : List (EpollEvent Id)}
    (taken : fillActiveChannels s events = .ok t)
    (distinct : (events.map EpollEvent.data).Nodup) :
    (∀ event ∈ events, (t.objects event.data).revents = event.events) ∧
      ∀ id ∉ events.map EpollEvent.data, t.objects id = s.objects id := by
  induction events generalizing s with
  | nil =>
    obtain rfl := (pure_ok _ _).mp taken
    exact ⟨fun event member => absurd member List.not_mem_nil, fun _ _ => rfl⟩
  | cons event rest inductionHypothesis =>
    simp only [fillActiveChannels, require_bind_ok] at taken
    obtain ⟨_, _, taken⟩ := taken
    obtain ⟨fresh, distinct⟩ := List.nodup_cons.mp distinct
    obtain ⟨told, untold⟩ := inductionHypothesis taken distinct
    dsimp only at untold
    constructor
    · intro later member
      rcases List.mem_cons.mp member with rfl | member
      · rw [untold later.data fresh, Poller.setChannel_same]
      · exact told later member
    · intro id absent
      obtain ⟨other, unlisted⟩ := not_or.mp (fun either => absent (List.mem_cons.mpr either))
      rw [untold id unlisted, Poller.setChannel_other _ _ _ _ other]

/-- What a poll does: it tells the channels the events point to, and changes no
registration. -/
theorem polled (mirrors : Mirrors fdOf s) (reports : Reports conditions s reported)
    (taken : step s (.poll reported) = .ok t) :
    t.active = (returned s reported).map EpollEvent.data ∧
      (∀ event ∈ returned s reported, (t.objects event.data).revents = event.events) ∧
      t.channels = s.channels ∧
      ∀ id, { t.objects id with revents := 0 } = { s.objects id with revents := 0 } := by
  have distinct := returned_distinct mirrors reports.1
  have found : ∀ event ∈ returned s reported,
      s.channels.lookup (s.objects event.data).fd = some event.data := by
    intro event member
    rw [mirrors.fds]
    exact returned_found mirrors reported event member
  obtain ⟨_, _, polled⟩ := (bind_ok _ _ _).mp taken
  simp only [poll] at polled
  split at polled
  case isFalse none_ =>
    obtain rfl := (pure_ok _ _).mp polled
    have none_ : returned s reported = [] := List.eq_nil_of_length_eq_zero (by omega)
    simp [none_]
  case isTrue =>
    obtain ⟨_, polled⟩ := (require_bind_ok _ _ _).mp polled
    obtain ⟨filled, loop, grown⟩ := (bind_ok _ _ _).mp polled
    obtain ⟨next, again, handed, active⟩ :=
      fillActiveChannels_hands { s with active := [] } (returned s reported) found
    obtain rfl := Except.ok.inj (again.symm.trans loop)
    obtain ⟨told, _⟩ := fillActiveChannels_told loop distinct
    have same : t.active = next.active ∧ t.objects = next.objects ∧ t.channels = next.channels := by
      split at grown
      · obtain rfl := (pure_ok _ _).mp grown
        exact ⟨rfl, rfl, rfl⟩
      · obtain rfl := (pure_ok _ _).mp grown
        exact ⟨rfl, rfl, rfl⟩
    obtain ⟨sameActive, sameObjects, sameChannels⟩ := same
    rw [sameActive, sameObjects, sameChannels]
    exact ⟨by simpa using active, told, handed.channels, handed.rest⟩

/-- A poll tells an added channel what the kernel tells for its interest, if that is not
zero. -/
theorem polled_added (distinct : Function.Injective fdOf) (mirrors : Mirrors fdOf s)
    (reports : Reports conditions s reported) (taken : step s (.poll reported) = .ok t) :
    t.active.Nodup ∧ (∀ id ∈ t.active, (s.objects id).index = kAdded) ∧
      ∀ id, (s.objects id).index = kAdded →
        (id ∈ t.active ↔ told conditions (fdOf id) (s.objects id).events ≠ 0) ∧
        (id ∈ t.active →
          (t.objects id).revents = told conditions (fdOf id) (s.objects id).events) := by
  obtain ⟨active, stored, _, _⟩ := polled mirrors reports taken
  have source : ∀ event ∈ returned s reported, (s.objects event.data).index = kAdded ∧
      event.events ≠ 0 ∧ event.events = entryAnswer conditions s (fdOf event.data) := by
    intro event member
    obtain ⟨fd, revents, present, entry, found, rfl⟩ := mem_returned.mp member
    obtain ⟨same, added, _⟩ := (mirrors.watched fd entry).mp found
    obtain ⟨nonzero, answer⟩ := reports.2.1 (fd, revents) present
    exact ⟨added, nonzero, same ▸ answer⟩
  rw [active]
  refine ⟨returned_distinct mirrors reports.1, ?_, ?_⟩
  · intro id member
    obtain ⟨event, present, rfl⟩ := List.mem_map.mp member
    exact (source event present).1
  · intro id added
    have interest := interest_own distinct mirrors id
    rw [interestOf, if_pos added] at interest
    have answer : entryAnswer conditions s (fdOf id) =
        told conditions (fdOf id) (s.objects id).events := by
      rw [entryAnswer, interest]
    rw [← answer]
    constructor
    · constructor
      · intro member
        obtain ⟨event, present, rfl⟩ := List.mem_map.mp member
        obtain ⟨_, nonzero, same⟩ := source event present
        exact same ▸ nonzero
      · intro nonzero
        have listed : s.channels.lookup (fdOf id) = some id :=
          (mirrors.listed _ _).mpr ⟨rfl, by rw [added]; decide⟩
        have known : fdOf id ∈ s.channels.keys :=
          AList.mem_keys.mpr (AList.lookup_isSome.mp (by rw [listed]; rfl))
        have present := reports.2.2.1 (fdOf id) known nonzero
        exact List.mem_map.mpr ⟨_, mem_returned.mpr ⟨_, _, present, _, interest, rfl⟩, rfl⟩
    · intro member
      obtain ⟨event, present, rfl⟩ := List.mem_map.mp member
      rw [stored event present]
      exact (source event present).2.2

end Epoller

namespace PollerAgreement

open Runs

variable {Id : Type} [DecidableEq Id]

/-- A loop's channels with either poller. -/
structure Pair (Id : Type) where
  poller : Poller.State Id
  epoller : Epoller.State Id

/-- An operation of a channel, or a poll under the conditions of the descriptors. -/
inductive Label (Id : Type) where
  | operation (operation : Operation Id)
  | poll (conditions : Int → BitVec 15) (reported : List (Int × EventMask))

/-- Both pollers before the first update. -/
def initial (fdOf : Id → Int) : Pair Id where
  poller := Poller.initial fdOf
  epoller := Epoller.initial fdOf

/-- One call of both pollers, under the same conditions of the descriptors. -/
def step (s : Pair Id) : Label Id → Outcome (Pair Id)
  | .operation operation => do
      let poller ← pollerStep s.poller operation
      let epoller ← epollerStep s.epoller operation
      pure ⟨poller, epoller⟩
  | .poll conditions reported => do
      enabled (Epoller.Reports conditions s.epoller reported)
      let poller ← Poller.step s.poller
        (.poll (Poller.pollAnswer conditions s.poller.pollFds))
      let epoller ← Epoller.step s.epoller (.poll reported)
      pure ⟨poller, epoller⟩

/-- Both pollers treat the operation alike; polls are free. -/
def treatedAlike (s : Pair Id) : Label Id → Prop
  | .operation operation => alike s.poller operation
  | .poll _ _ => True

instance (s : Pair Id) (label : Label Id) : Decidable (treatedAlike s label) :=
  match label with
  | .operation operation => inferInstanceAs (Decidable (alike s.poller operation))
  | .poll _ _ => isTrue trivial

/-- The callbacks that a poll leads to for a channel. -/
def callbacks (active : List Id) (objects : Id → Channel) (provided : Callback → Bool) (id : Id) :
    List Callback :=
  if id ∈ active then Channel.handleEvent provided (objects id).revents else []

/-- What is told to somebody who asks for nothing leads to the close and the error callback
only. -/
theorem handleEvent_unasked (provided : Callback → Bool) (conditions : Int → BitVec 15) (fd : Int)
    (callback : Callback)
    (called : callback ∈ Channel.handleEvent provided (told conditions fd 0#32)) :
    callback = .close ∨ callback = .error := by
  have only : told conditions fd 0#32 = (conditions fd).setWidth 32 &&& (POLLERR ||| POLLHUP) := by
    rw [told, BitVec.zero_or]
  have unread : anySet (told conditions fd 0#32) (POLLIN ||| POLLPRI ||| POLLRDHUP) = false := by
    have apart : (POLLERR ||| POLLHUP) &&& (POLLIN ||| POLLPRI ||| POLLRDHUP) = 0#32 := by decide
    rw [only, anySet, BitVec.and_assoc, apart]
    simp
  have unwritten : anySet (told conditions fd 0#32) POLLOUT = false := by
    have apart : (POLLERR ||| POLLHUP) &&& POLLOUT = 0#32 := by decide
    rw [only, anySet, BitVec.and_assoc, apart]
    simp
  cases callback with
  | close => exact Or.inl rfl
  | error => exact Or.inr rfl
  | read | write => simp [Channel.handleEvent, unread, unwritten] at called

section Polls

variable {fdOf : Id → Int} {s t : Pair Id} {conditions : Int → BitVec 15}
  {reported : List (Int × EventMask)}

/-- A poll is one of each poller. -/
theorem poll_ok (taken : step s (.poll conditions reported) = .ok t) :
    Epoller.Reports conditions s.epoller reported ∧
      Poller.step s.poller (.poll (Poller.pollAnswer conditions s.poller.pollFds)) = .ok t.poller ∧
      Epoller.step s.epoller (.poll reported) = .ok t.epoller := by
  obtain ⟨_, reports, taken⟩ := (bind_ok _ _ _).mp taken
  obtain ⟨poller, polled, taken⟩ := (bind_ok _ _ _).mp taken
  obtain ⟨epoller, waited, same⟩ := (bind_ok _ _ _).mp taken
  obtain rfl := (pure_ok _ _).mp same
  exact ⟨(enabled_ok _ _).mp reports, polled, waited⟩

/-- A poll keeps the pollers in corresponding states. -/
theorem poll_related (nonnegative : ∀ id, 0 ≤ fdOf id) (distinct : Function.Injective fdOf)
    (related : Related fdOf s.poller s.epoller)
    (taken : step s (.poll conditions reported) = .ok t) :
    Related fdOf t.poller t.epoller := by
  obtain ⟨reports, polled, waited⟩ := poll_ok taken
  obtain ⟨_, channels, rest⟩ := Poller.poll_leaves polled
  obtain ⟨_, _, _, epollRest⟩ := Epoller.polled related.mirrors reports waited
  have kept := fun id => Poller.kept_of_rest (rest id)
  have epollKept := fun id => Poller.kept_of_rest (epollRest id)
  have ignored := Poller.ignored_polled (Poller.pollAnswer_possible conditions _) polled
  constructor
  · exact Poller.step_represents nonnegative _ _ _ related.represents polled
  · exact Epoller.step_mirrors distinct _ _ _ related.mirrors waited
  · intro id
    exact (kept id).2.1.trans ((related.events id).trans (epollKept id).2.1.symm)
  · intro id
    rw [channels, (epollKept id).2.2]
    exact related.registered id
  · intro id known unheard
    rw [channels] at known
    rw [ignored] at unheard
    rw [Channel.isNoneEvent, (kept id).2.1]
    exact related.silent id known unheard
  · intro id deleted
    rw [(epollKept id).2.2] at deleted
    rw [Channel.isNoneEvent, (epollKept id).2.1]
    exact related.deleted id deleted

/-- Every step on which both pollers are treated alike keeps them related. -/
theorem step_related (nonnegative : ∀ id, 0 ≤ fdOf id) (distinct : Function.Injective fdOf)
    (s : Pair Id) (label : Label Id) (t : Pair Id) (related : Related fdOf s.poller s.epoller)
    (met : treatedAlike s label) (taken : step s label = .ok t) :
    Related fdOf t.poller t.epoller := by
  cases label with
  | poll conditions reported => exact poll_related nonnegative distinct related taken
  | operation operation =>
    obtain ⟨poller, updated, taken⟩ := (bind_ok _ _ _).mp taken
    obtain ⟨epoller, mirrored, same⟩ := (bind_ok _ _ _).mp taken
    obtain rfl := (pure_ok _ _).mp same
    rcases step_alike distinct nonnegative related operation met with
      ⟨p, e, first, second, next⟩ | ⟨_, _, failed, _⟩
    · obtain rfl := Except.ok.inj (first.symm.trans updated)
      obtain rfl := Except.ok.inj (second.symm.trans mirrored)
      exact next
    · rw [failed] at updated
      cases updated

/-- After a poll: a channel with interest is told the same by both pollers, and one
without is told at most of an error and a hang-up by each.

Proof: if the channel has interest its slot is plain and its status is added, so both
tell what the kernel tells for that interest. -/
theorem told_alike (nonnegative : ∀ id, 0 ≤ fdOf id) (distinct : Function.Injective fdOf)
    (related : Related fdOf s.poller s.epoller)
    (taken : step s (.poll conditions reported) = .ok t) (id : Id) :
    ((s.poller.objects id).isNoneEvent = false →
      (id ∈ t.poller.active ↔ id ∈ t.epoller.active) ∧
      (id ∈ t.poller.active →
        (t.poller.objects id).revents = (t.epoller.objects id).revents)) ∧
    ((s.poller.objects id).isNoneEvent = true →
      (id ∈ t.poller.active → (t.poller.objects id).revents = told conditions (fdOf id) 0#32) ∧
      (id ∈ t.epoller.active →
        (t.epoller.objects id).revents = told conditions (fdOf id) 0#32)) := by
  obtain ⟨reports, polled, waited⟩ := poll_ok taken
  obtain ⟨order, represents⟩ := related.represents
  obtain ⟨_, listed, _⟩ := Poller.polled_registered nonnegative represents conditions polled
  obtain ⟨_, added, waitTold⟩ := Epoller.polled_added distinct related.mirrors reports waited
  have waitTold := waitTold id
  rw [← related.events] at waitTold
  by_cases known : s.poller.channels.lookup (fdOf id) = some id
  · obtain ⟨unheard, heard⟩ :=
      Poller.polled_heard nonnegative represents conditions polled id known
    constructor
    · intro interested
      have plain : Poller.ignored s.poller id = false := by
        by_contra encoded
        rw [related.silent id known (by simpa using encoded)] at interested
        cases interested
      have watched : (s.epoller.objects id).index = Epoller.kAdded := by
        have status := (related.mirrors.status id).resolve_left ((related.registered id).mp known)
        refine status.resolve_right ?_
        intro deleted
        have none_ := related.deleted id deleted
        rw [Channel.isNoneEvent, ← related.events] at none_
        rw [Channel.isNoneEvent, none_] at interested
        cases interested
      have same := (heard plain).1.trans (waitTold watched).1.symm
      refine ⟨same, ?_⟩
      intro member
      exact ((heard plain).2 member).trans ((waitTold watched).2 (same.mp member)).symm
    · intro none_
      have empty : (s.poller.objects id).events = 0#32 := by
        simpa [Channel.isNoneEvent, Channel.kNoneEvent] using none_
      rw [empty] at heard waitTold
      constructor
      · intro member
        have plain : Poller.ignored s.poller id = false := by
          by_contra encoded
          exact unheard (by simpa using encoded) member
        exact (heard plain).2 member
      · exact fun member => (waitTold (added id member)).2 member
  · have unreported : id ∉ t.poller.active := fun member => known (listed id member)
    have unwatched : id ∉ t.epoller.active := by
      intro member
      refine known ((related.registered id).mpr ?_)
      rw [added id member]
      decide
    exact ⟨fun _ => ⟨iff_of_false unreported unwatched, fun member => absurd member unreported⟩,
      fun _ => ⟨fun member => absurd member unreported, fun member => absurd member unwatched⟩⟩

/-- A complete answer of the kernel passes the asserts of both pollers. -/
theorem poll_passes (nonnegative : ∀ id, 0 ≤ fdOf id)
    (related : Related fdOf s.poller s.epoller)
    (reports : Epoller.Reports conditions s.epoller reported) :
    ∃ t, step s (.poll conditions reported) = .ok t := by
  obtain ⟨order, represents⟩ := related.represents
  obtain ⟨poller, polled, _⟩ := Poller.poll_represents nonnegative represents
    (Poller.pollAnswer_possible conditions s.poller.pollFds)
  obtain ⟨epoller, waited, _⟩ := Epoller.poll_returns related.mirrors reported
    (Epoller.reports_possible reports)
  refine ⟨⟨poller, epoller⟩, ?_⟩
  apply (bind_ok _ _ _).mpr ⟨(), (enabled_ok _ _).mpr reports, ?_⟩
  apply (bind_ok _ _ _).mpr ⟨poller, polled, ?_⟩
  exact (bind_ok _ _ _).mpr ⟨epoller, waited, rfl⟩

/-- Neither poller makes a channel active twice. -/
theorem active_once (nonnegative : ∀ id, 0 ≤ fdOf id) (distinct : Function.Injective fdOf)
    (related : Related fdOf s.poller s.epoller)
    (taken : step s (.poll conditions reported) = .ok t) :
    t.poller.active.Nodup ∧ t.epoller.active.Nodup := by
  obtain ⟨reports, polled, waited⟩ := poll_ok taken
  obtain ⟨order, represents⟩ := related.represents
  exact ⟨(Poller.polled_registered nonnegative represents conditions polled).1,
    (Epoller.polled_added distinct related.mirrors reports waited).1⟩

end Polls

/-- After every run of operations that both pollers treat alike, and of polls: the next poll
passes the asserts of both, and leads to the same callbacks of a channel with interest under
either, whatever the conditions of the descriptors and whichever callbacks the channel has.
For a channel without interest either poller can lead to its close and its error callback
only. Neither makes a channel active twice. -/
theorem polled_callbacks_agree (fdOf : Id → Int) (distinct : Function.Injective fdOf)
    (nonnegative : ∀ id, 0 ≤ fdOf id) (labels : List (Label Id)) (s : Pair Id)
    (met : Along step treatedAlike (initial fdOf) labels)
    (reached : run step (initial fdOf) labels = .ok s) (conditions : Int → BitVec 15)
    (reported : List (Int × EventMask))
    (reports : Epoller.Reports conditions s.epoller reported) :
    ∃ t, step s (.poll conditions reported) = .ok t ∧
      t.poller.active.Nodup ∧ t.epoller.active.Nodup ∧
      ∀ (id : Id) (provided : Callback → Bool),
        ((s.poller.objects id).isNoneEvent = false →
          callbacks t.poller.active t.poller.objects provided id =
            callbacks t.epoller.active t.epoller.objects provided id) ∧
        ((s.poller.objects id).isNoneEvent = true →
          ∀ callback, callback ∈ callbacks t.poller.active t.poller.objects provided id ∨
            callback ∈ callbacks t.epoller.active t.epoller.objects provided id →
            callback = .close ∨ callback = .error) := by
  have related : Related fdOf s.poller s.epoller :=
    guarded_invariant step treatedAlike (fun s => Related fdOf s.poller s.epoller)
      (step_related nonnegative distinct) labels (initial fdOf) s (initial_related fdOf) met reached
  obtain ⟨t, taken⟩ := poll_passes nonnegative related reports
  obtain ⟨once, onceMore⟩ := active_once nonnegative distinct related taken
  refine ⟨t, taken, once, onceMore, ?_⟩
  intro id provided
  obtain ⟨interested, uninterested⟩ := told_alike nonnegative distinct related taken id
  constructor
  · intro some_
    obtain ⟨both, revents⟩ := interested some_
    unfold callbacks
    by_cases member : id ∈ t.poller.active
    · rw [if_pos member, if_pos (both.mp member), revents member]
    · rw [if_neg member, if_neg (fun other => member (both.mpr other))]
  · intro none_ callback called
    obtain ⟨first, second⟩ := uninterested none_
    unfold callbacks at called
    rcases called with called | called
    · split at called
      case isTrue member => exact handleEvent_unasked provided _ _ callback (first member ▸ called)
      case isFalse => cases called
    · split at called
      case isTrue member => exact handleEvent_unasked provided _ _ callback (second member ▸ called)
      case isFalse => cases called

/-- Two channels are used, polled and used again; the second loses its interest. -/
def usedAndPolled : List (Label Nat) :=
  [.operation (.update 3 .enableReading), .operation (.update 4 .enableReading),
    .poll (fun _ => 0x1#15) [(4, 0x1#32), (3, 0x1#32)], .operation (.update 3 .enableWriting),
    .operation (.update 4 .disableAll)]

/-- Readable and hung up. -/
def hungUp : Int → BitVec 15 := fun _ => 0x11#15

/-- A channel that is readable and hung up has the same callbacks behind both
pollers. -/
theorem polled_callbacks_hungUp :
    ∃ s t : Pair Nat, run step (initial (fun id : Nat => (id : Int))) usedAndPolled = .ok s ∧
      step s (.poll hungUp [(3, 0x11#32)]) = .ok t ∧
      callbacks t.poller.active t.poller.objects (fun _ => true) 3 =
        callbacks t.epoller.active t.epoller.objects (fun _ => true) 3 := by
  have computed : (run step (initial (fun id : Nat => (id : Int))) usedAndPolled).map (fun s =>
      ((s.poller.objects 3).isNoneEvent, decide (Epoller.Reports hungUp s.epoller [(3, 0x11#32)]))) =
      .ok (false, true) := by
    decide +kernel
  obtain ⟨s, reached, observed⟩ := (map_returned _ _ _).mp computed
  simp only [Prod.mk.injEq, decide_eq_true_eq] at observed
  obtain ⟨t, taken, _, _, agree⟩ := polled_callbacks_agree (fun id : Nat => (id : Int))
    (fun left right same => Int.ofNat.inj same) (fun id => Int.natCast_nonneg id) usedAndPolled s
    (by decide +kernel) reached hungUp _ observed.2
  exact ⟨s, t, reached, taken, (agree 3 (fun _ => true)).1 observed.1⟩

end PollerAgreement

end ReactorNetwork
