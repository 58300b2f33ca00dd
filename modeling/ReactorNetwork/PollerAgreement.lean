import ReactorNetwork.PollerRuns
import ReactorNetwork.Epoller

/-!
# The two pollers under the same operations

A loop is given one of two pollers, and its channels cannot tell which. This
module runs both on one sequence of channel operations and compares, after each
of them, whether the asserts passed and which descriptors the kernel is asked to
watch for a nonzero mask: through the slots that are not ignored, or through the
interest list.

The comparison fails on three kinds of operation. The poller over `poll(2)` never
makes an ignored slot plain again, keeps the index of a removed channel, and does
not remove a channel whose slot is plain. Exactly the sequences without these
operations are treated alike. Polls are left out: they change no registration.
-/

namespace ReactorNetwork.Poller

open SwapRemove Runs

variable {Id : Type} [DecidableEq Id]

/-- The slot of the channel is one `poll` ignores. -/
def ignored (s : State Id) (id : Id) : Bool := (slotOf s id).any fun pfd => pfd.fd < 0

/-- The poller asks for a nonzero mask on a descriptor. -/
def Watches (s : State Id) (fd : Int) (mask : EventMask) : Prop :=
  mask ≠ 0 ∧ ∃ pfd ∈ s.pollFds, 0 ≤ pfd.fd ∧ pfd.fd = fd ∧ toInt pfd.events = mask

/-- The slot an update writes for a channel whose slot was `before`. -/
def slotAfter (before : Option PollFd) (c : Channel) : PollFd where
  fd := match before with
    | none => c.fd
    | some pfd => if c.isNoneEvent then -1 - c.fd else pfd.fd
  events := toShort c.events
  revents := 0

variable {fdOf : Id → Int} {order : List Id} {s : State Id}

/-- What an update leaves: the channel is registered with the given slot, every
other registered channel keeps its own. -/
structure Updated (fdOf : Id → Int) (s t : State Id) (id : Id) (c : Channel) (slot : PollFd) :
    Prop where
  events : ∀ other, (t.objects other).events =
    if other = id then c.events else (s.objects other).events
  listed : ∀ fd, t.channels.lookup fd = if fd = fdOf id then some id else s.channels.lookup fd
  slot : slotOf t id = some slot
  others : ∀ fd other, other ≠ id → s.channels.lookup fd = some other →
    slotOf t other = slotOf s other

/-- A registered channel's update passes the asserts and writes its slot. -/
theorem update_known (represents : Represents fdOf order s) (id : Id) (interest : Interest)
    (known : s.channels.lookup (fdOf id) = some id) :
    ∃ t, step s (.update id interest) = .ok t ∧
      Updated fdOf s t id (interest.apply (s.objects id))
        (slotAfter (slotOf s id) (interest.apply (s.objects id))) := by
  have fd : (interest.apply (s.objects id)).fd = fdOf id :=
    (apply_fd interest _).trans (represents.fds id)
  have index := apply_index interest (s.objects id)
  obtain ⟨position, registered, atPosition, inside⟩ := position_of_lookup represents known
  obtain ⟨_, _, _, pfd, slot, plainOrEncoded, _⟩ := slot_of_lookup represents known
  have elsewhere : ∀ fd other, other ≠ id → s.channels.lookup fd = some other →
      (s.objects other).index.toNat ≠ position := by
    intro fd other different found
    obtain ⟨place, otherAt, otherIndex, _⟩ := position_of_lookup represents found
    rw [otherIndex, Int.toNat_natCast]
    rintro rfl
    exact different (Option.some.inj (otherAt.symm.trans registered))
  simp only [step]
  generalize interest.apply (s.objects id) = c at fd index
  have place : c.index = position := index.trans atPosition
  have found : s.channels.lookup (setChannel s.objects id c id).fd = some id := by
    rw [setChannel_same, fd]
    exact known
  have bounds : 0 ≤ (setChannel s.objects id c id).index ∧
      (setChannel s.objects id c id).index < s.pollFds.length := by
    rw [setChannel_same, place]
    omega
  have slotAt : s.pollFds[(setChannel s.objects id c id).index.toNat]? = some pfd := by
    rw [setChannel_same, index]
    exact slot
  have owned : pfd.fd = (setChannel s.objects id c id).fd ∨
      pfd.fd = -1 - (setChannel s.objects id c id).fd := by
    rw [setChannel_same, fd]
    exact plainOrEncoded
  have old : ¬ (setChannel s.objects id c id).index < 0 := by omega
  refine ⟨{ s with
    pollFds := s.pollFds.set position (slotAfter (some pfd) c)
    objects := setChannel s.objects id c }, ?_, ?_⟩
  · unfold updateChannel
    simp only [if_neg old]
    rw [require_passed (by simp [found]), require_passed found, require_passed bounds,
      accessed_found slotAt, require_passed owned]
    simp only [setChannel_same, place, Int.toNat_natCast, slotAfter]
    rfl
  · rw [slot]
    refine ⟨?_, ?_, ?_, ?_⟩
    · intro other
      by_cases same : other = id
      · simp [same, setChannel_same]
      · simp [same, setChannel_other _ _ _ _ same]
    · exact Epoller.lookup_at _ _ _ known
    · simp only [slotOf, setChannel_same, place, Int.toNat_natCast]
      exact List.getElem?_set_self inside
    · intro fd other different otherFound
      simp only [slotOf, setChannel_other _ _ _ _ different]
      exact List.getElem?_set_ne (Ne.symm (elsewhere fd other different otherFound))

/-- An update that passes the asserts was of a new or a registered channel. -/
theorem update_checked (represents : Represents fdOf order s) (id : Id) (interest : Interest)
    (t : State Id) (taken : step s (.update id interest) = .ok t) :
    (s.objects id).index < 0 ∨ s.channels.lookup (fdOf id) = some id := by
  have fd : (interest.apply (s.objects id)).fd = fdOf id :=
    (apply_fd interest _).trans (represents.fds id)
  have index := apply_index interest (s.objects id)
  simp only [step] at taken
  generalize interest.apply (s.objects id) = c at taken fd index
  unfold updateChannel at taken
  simp only [setChannel_same] at taken
  split at taken
  case isTrue new => exact Or.inl (index ▸ new)
  case isFalse =>
    obtain ⟨_, taken⟩ := (require_bind_ok _ _ _).mp taken
    obtain ⟨found, _⟩ := (require_bind_ok _ _ _).mp taken
    rw [setChannel_same, fd] at found
    exact Or.inr found

/-- A new channel's update passes the asserts and appends a plain slot. -/
theorem update_fresh (distinct : Function.Injective fdOf) (represents : Represents fdOf order s)
    (id : Id) (interest : Interest) (new : (s.objects id).index < 0) :
    ∃ t, step s (.update id interest) = .ok t ∧
      Updated fdOf s t id (interest.apply (s.objects id))
        (slotAfter none (interest.apply (s.objects id))) := by
  have fd : (interest.apply (s.objects id)).fd = fdOf id :=
    (apply_fd interest _).trans (represents.fds id)
  have index := apply_index interest (s.objects id)
  have absent : s.channels.lookup (fdOf id) = none := by
    refine (lookup_none_iff represents (fdOf id)).mpr ?_
    intro other member same
    obtain rfl := distinct same
    have found := (lookup_iff represents (fdOf other) other).mpr ⟨member, rfl⟩
    obtain ⟨position, _, atPosition, _⟩ := position_of_lookup represents found
    omega
  simp only [step]
  generalize interest.apply (s.objects id) = c at fd index
  have missing : s.channels.lookup (setChannel s.objects id c id).fd = none := by
    rw [setChannel_same, fd]
    exact absent
  have fresh : (setChannel s.objects id c id).index < 0 := by
    rw [setChannel_same, index]
    exact new
  refine ⟨{ s with
    pollFds := s.pollFds ++ [slotAfter none c]
    objects := setChannel s.objects id { c with index := s.pollFds.length }
    channels := s.channels.insert (fdOf id) id }, ?_, ?_⟩
  · unfold updateChannel
    simp only [if_pos fresh, require_bind_ok, pure_ok]
    refine ⟨missing, ?_⟩
    have last : ((s.pollFds ++ [(⟨c.fd, toShort c.events, 0⟩ : PollFd)]).length : Int) - 1 =
        s.pollFds.length := by
      simp
    simp only [setIndex, setChannel_same, setChannel_twice, fd, slotAfter]
    rw [fd] at last
    rw [last]
  · refine ⟨?_, ?_, ?_, ?_⟩
    · intro other
      by_cases same : other = id
      · simp [same, setChannel_same]
      · simp [same, setChannel_other _ _ _ _ same]
    · exact Epoller.lookup_insert_at _ _ _
    · simp only [slotOf, setChannel_same, Int.toNat_natCast]
      exact List.getElem?_concat_length
    · intro fd other different found
      obtain ⟨position, _, atPosition, inside⟩ := position_of_lookup represents found
      simp only [slotOf, setChannel_other _ _ _ _ different, atPosition, Int.toNat_natCast]
      exact List.getElem?_append_left inside

omit [DecidableEq Id] in
/-- A registered channel's slot is ignored when it carries the encoded descriptor,
and otherwise plain. -/
theorem ignored_iff (nonnegative : ∀ id, 0 ≤ fdOf id) (represents : Represents fdOf order s)
    (id : Id) (known : s.channels.lookup (fdOf id) = some id) :
    ∃ pfd, slotOf s id = some pfd ∧ toInt pfd.events = (s.objects id).events ∧
      pfd.fd = if ignored s id = true then -1 - fdOf id else fdOf id := by
  obtain ⟨_, _, _, pfd, slot, owned, events⟩ := slot_of_lookup represents known
  have sign := nonnegative id
  refine ⟨pfd, slot, events, ?_⟩
  simp only [ignored, slot, Option.any_some, decide_eq_true_eq]
  rcases owned with plain | encoded
  · rw [plain, if_neg (by omega)]
  · rw [encoded, if_pos (by omega)]

omit [DecidableEq Id] in
/-- What the poller watches: the interest of the registered channels whose slot is
not ignored. -/
theorem watches_iff (nonnegative : ∀ id, 0 ≤ fdOf id) (represents : Represents fdOf order s)
    (fd : Int) (mask : EventMask) :
    Watches s fd mask ↔ mask ≠ 0 ∧ ∃ id, fdOf id = fd ∧ s.channels.lookup (fdOf id) = some id ∧
      ignored s id = false ∧ (s.objects id).events = mask := by
  refine and_congr_right (fun _ => ?_)
  constructor
  · rintro ⟨pfd, member, plain, rfl, rfl⟩
    obtain ⟨position, inside, here⟩ := List.mem_iff_getElem.mp member
    have insideOrder : position < order.length := represents.sized ▸ inside
    have orderAt := List.getElem?_eq_getElem insideOrder
    have known : s.channels.lookup (fdOf order[position]) = some order[position] :=
      (lookup_iff represents _ _).mpr ⟨List.getElem_mem insideOrder, rfl⟩
    have slotAt : slotOf s order[position] = some pfd := by
      rw [slotOf, represents.indexed position _ orderAt, Int.toNat_natCast,
        List.getElem?_eq_getElem inside, here]
    obtain ⟨own, slot, events, encoded⟩ := ignored_iff nonnegative represents _ known
    obtain rfl := Option.some.inj (slotAt.symm.trans slot)
    have heard : ignored s order[position] = false := by
      simp only [ignored, slotAt, Option.any_some, decide_eq_false_iff_not]
      omega
    rw [heard, if_neg (by simp)] at encoded
    exact ⟨order[position], encoded.symm, known, heard, events.symm⟩
  · rintro ⟨id, rfl, known, heard, rfl⟩
    obtain ⟨pfd, slot, events, encoded⟩ := ignored_iff nonnegative represents id known
    rw [heard, if_neg (by simp)] at encoded
    exact ⟨pfd, List.mem_of_getElem? slot, by rw [encoded]; exact nonnegative id, encoded, events⟩

/-- A removal that passes the asserts was of a registered channel without interest
whose slot is ignored. -/
theorem remove_checked (nonnegative : ∀ id, 0 ≤ fdOf id) (represents : Represents fdOf order s)
    (id : Id) (t : State Id) (taken : step s (.remove id) = .ok t) :
    s.channels.lookup (fdOf id) = some id ∧ (s.objects id).isNoneEvent = true ∧
      ignored s id = true := by
  obtain ⟨⟨pfd, found, none, present, encoded⟩, _⟩ := removed taken
  rw [represents.fds] at found
  refine ⟨found, none, ?_⟩
  have here : slotOf s id = some pfd := present
  have sign := nonnegative id
  have negative : pfd.fd < 0 := by
    rw [encoded.1, represents.fds]
    omega
  simpa [ignored, here] using negative

/-- A registered channel without interest whose slot is ignored can be removed.

Proof: the asserts are what the representation says of the channel's slot. If the
slot is not the last, the last slot decodes to the descriptor of another channel,
which is still in the map. -/
theorem remove_passes (distinct : Function.Injective fdOf) (nonnegative : ∀ id, 0 ≤ fdOf id)
    (represents : Represents fdOf order s) (id : Id)
    (known : s.channels.lookup (fdOf id) = some id) (none : (s.objects id).isNoneEvent = true)
    (silent : ignored s id = true) : ∃ t, step s (.remove id) = .ok t := by
  obtain ⟨pfd, slot, events, encoded⟩ := ignored_iff nonnegative represents id known
  obtain ⟨position, registered, atPosition, inside⟩ := position_of_lookup represents known
  have found : s.channels.lookup (s.objects id).fd = some id := by
    rw [represents.fds]
    exact known
  have bounds : 0 ≤ (s.objects id).index ∧ (s.objects id).index < s.pollFds.length := by omega
  have checked : pfd.fd = -(s.objects id).fd - 1 ∧ toInt pfd.events = (s.objects id).events := by
    rw [encoded, if_pos silent, represents.fds]
    exact ⟨by omega, events⟩
  have slotAt : s.pollFds[(s.objects id).index.toNat]? = some pfd := slot
  simp only [step, removeChannel]
  rw [require_passed (by simp [found]), require_passed found, require_passed none,
    require_passed bounds, accessed_found slotAt, require_passed checked]
  split
  · exact ⟨_, rfl⟩
  · rename_i notLast
    have insideOrder : position < order.length := represents.sized ▸ inside
    have final : s.pollFds.length - 1 < s.pollFds.length := by omega
    have finalOrder : s.pollFds.length - 1 < order.length := represents.sized ▸ final
    have lastSlot : s.pollFds.getLast? = some s.pollFds[s.pollFds.length - 1] := by
      rw [List.getLast?_eq_getElem?, List.getElem?_eq_getElem final]
    have lastAt := List.getElem?_eq_getElem finalOrder
    have belongs := represents.slots _ _ _ lastAt (List.getElem?_eq_getElem final)
    have other : order[s.pollFds.length - 1] ≠ id := by
      intro same
      have indexed := represents.indexed _ _ lastAt
      rw [same] at indexed
      omega
    have stillThere : (s.channels.erase (fdOf id)).lookup (fdOf order[s.pollFds.length - 1]) =
        some order[s.pollFds.length - 1] := by
      rw [AList.lookup_erase_ne (fun same => other (distinct same))]
      exact (lookup_iff represents _ _).mpr ⟨List.getElem_mem finalOrder, rfl⟩
    have decoded := decoded_fd nonnegative represents belongs
    rw [← decoded, ← represents.fds] at stillThere
    rw [accessed_found lastSlot]
    simp only [setMovedIndex]
    rw [accessed_found stillThere]
    exact ⟨_, rfl⟩

/-- A removal forgets the channel and leaves every channel its events. -/
theorem remove_leaves (id : Id) (t : State Id) (taken : step s (.remove id) = .ok t) :
    t.channels = s.channels.erase (s.objects id).fd ∧
      ∀ other, (t.objects other).events = (s.objects other).events := by
  cases (removed taken).2 with
  | last => exact ⟨rfl, fun _ => rfl⟩
  | moved _ movedId =>
    refine ⟨rfl, ?_⟩
    intro other
    by_cases same : other = movedId
    · simp [setIndex, same, setChannel_same]
    · simp [setIndex, setChannel_other _ _ _ _ same]

end ReactorNetwork.Poller

namespace ReactorNetwork.Epoller

/-- The kernel holds a nonzero mask for a descriptor. -/
def Watches {Id : Type} (s : State Id) (fd : Int) (mask : EventMask) : Prop :=
  mask ≠ 0 ∧ ∃ entry, s.interest fd = some entry ∧ entry.events = mask

/-- What the kernel watches: the interest of the added channels. -/
theorem watches_iff {Id : Type} {fdOf : Id → Int} {s : State Id} (mirrors : Mirrors fdOf s)
    (fd : Int) (mask : EventMask) :
    Watches s fd mask ↔ mask ≠ 0 ∧ ∃ id, fdOf id = fd ∧ (s.objects id).index = kAdded ∧
      (s.objects id).events = mask := by
  refine and_congr_right (fun _ => ?_)
  constructor
  · rintro ⟨entry, found, rfl⟩
    exact ⟨entry.data, (mirrors.watched fd entry).mp found⟩
  · rintro ⟨id, same, added, events⟩
    exact ⟨⟨mask, id⟩, (mirrors.watched fd ⟨mask, id⟩).mpr ⟨same, added, events⟩, rfl⟩

end ReactorNetwork.Epoller

namespace ReactorNetwork.PollerAgreement

open Runs
open Poller (Interest)

variable {Id : Type} [DecidableEq Id]

/-- What a channel asks of its poller, whichever it is. -/
inductive Operation (Id : Type) where
  | update (channel : Id) (interest : Interest)
  | remove (channel : Id)
deriving DecidableEq, Repr

/-- An operation on the poller. -/
def pollerStep (s : Poller.State Id) : Operation Id → Outcome (Poller.State Id)
  | .update id interest => Poller.step s (.update id interest)
  | .remove id => Poller.step s (.remove id)

/-- The same operation on the epoller. -/
def epollerStep (s : Epoller.State Id) : Operation Id → Outcome (Epoller.State Id)
  | .update id interest => Epoller.step s (.update id interest)
  | .remove id => Epoller.step s (.remove id)

/-- Both pollers passed their asserts and watch the same pairs, or both failed. -/
def Agree : Outcome (Poller.State Id) → Outcome (Epoller.State Id) → Prop
  | .ok p, .ok e => ∀ fd mask, Poller.Watches p fd mask ↔ Epoller.Watches e fd mask
  | .error _, .error _ => True
  | _, _ => False

/-- The pollers agree after every step of the operations. -/
def Interchangeable (fdOf : Id → Int) (operations : List (Operation Id)) : Prop :=
  ∀ count, Agree (run pollerStep (Poller.initial fdOf) (operations.take count))
    (run epollerStep (Epoller.initial fdOf) (operations.take count))

/-- The operation is one both pollers treat alike. An update is of a channel never
registered before, or of a registered one that stays without interest if its slot
is ignored; a removal of a registered channel without interest finds its slot
ignored. -/
def alike (s : Poller.State Id) : Operation Id → Prop
  | .update id interest =>
      (s.objects id).index < 0 ∨ s.channels.lookup (s.objects id).fd = some id ∧
        (Poller.ignored s id = true → (interest.apply (s.objects id)).isNoneEvent = true)
  | .remove id => s.channels.lookup (s.objects id).fd = some id →
      (s.objects id).isNoneEvent = true → Poller.ignored s id = true

instance (s : Poller.State Id) (operation : Operation Id) : Decidable (alike s operation) :=
  match operation with
  | .update _ _ => inferInstanceAs (Decidable (_ ∨ _ ∧ (_ → _)))
  | .remove _ => inferInstanceAs (Decidable (_ → _ → _))

/-- The two pollers are in corresponding states: each keeps its own invariant, the
channels have the same interest, the same channels are registered, and a
registered channel that one of them does not watch has no interest. -/
structure Related (fdOf : Id → Int) (p : Poller.State Id) (e : Epoller.State Id) : Prop where
  represents : ∃ order, Poller.Represents fdOf order p
  mirrors : Epoller.Mirrors fdOf e
  events : ∀ id, (p.objects id).events = (e.objects id).events
  registered : ∀ id, p.channels.lookup (fdOf id) = some id ↔ (e.objects id).index ≠ Epoller.kNew
  silent : ∀ id, p.channels.lookup (fdOf id) = some id → Poller.ignored p id = true →
    (p.objects id).isNoneEvent = true
  deleted : ∀ id, (e.objects id).index = Epoller.kDeleted → (e.objects id).isNoneEvent = true

section Laws

variable {fdOf : Id → Int} {p : Poller.State Id} {e : Epoller.State Id}

omit [DecidableEq Id] in
/-- Before the first update both pollers are empty. -/
theorem initial_related (fdOf : Id → Int) :
    Related fdOf (Poller.initial fdOf) (Epoller.initial fdOf) where
  represents := ⟨[], Poller.initial_represents fdOf⟩
  mirrors := Epoller.initial_mirrors fdOf
  events := fun _ => rfl
  registered := by
    intro id
    simp [Poller.initial, Epoller.initial, Channel.create, Epoller.kNew]
  silent := by
    intro id known
    simp [Poller.initial] at known
  deleted := by
    intro id deleted
    simp [Epoller.initial, Channel.create, Epoller.kDeleted] at deleted

omit [DecidableEq Id] in
/-- Related pollers watch the same pairs: for a registered channel with interest,
the one's slot is plain and the other's status is added. -/
theorem related_agree (nonnegative : ∀ id, 0 ≤ fdOf id) (related : Related fdOf p e) :
    Agree (.ok p) (.ok e) := by
  intro fd mask
  obtain ⟨order, represents⟩ := related.represents
  rw [Poller.watches_iff nonnegative represents, Epoller.watches_iff related.mirrors]
  refine and_congr_right (fun nonzero => exists_congr (fun id => and_congr_right (fun _ => ?_)))
  constructor
  · rintro ⟨known, _, events⟩
    refine ⟨?_, (related.events id).symm.trans events⟩
    have status := (related.mirrors.status id).resolve_left ((related.registered id).mp known)
    refine status.resolve_right (fun deleted => nonzero ?_)
    have none := related.deleted id deleted
    rw [← events, related.events]
    simpa [Channel.isNoneEvent, Channel.kNoneEvent] using none
  · rintro ⟨added, events⟩
    have known := (related.registered id).mpr (by rw [added]; decide)
    refine ⟨known, ?_, (related.events id).trans events⟩
    cases heard : Poller.ignored p id with
    | false => rfl
    | true =>
      have none := related.silent id known heard
      rw [Channel.isNoneEvent, related.events, events] at none
      exact absurd (by simpa [Channel.kNoneEvent] using none) nonzero

/-- Corresponding updates lead to related pollers, if an ignored slot is left only
to a channel without interest. -/
theorem updated_related {t : Poller.State Id} {u : Epoller.State Id} {id : Id}
    {c : Channel} {pfd : Poller.PollFd} {d : Channel} (distinct : Function.Injective fdOf)
    (related : Related fdOf p e) (represents : ∃ order, Poller.Represents fdOf order t)
    (mirrors : Epoller.Mirrors fdOf u) (updated : Poller.Updated fdOf p t id c pfd)
    (changed : Epoller.Changed fdOf e u id d) (known : d.index ≠ Epoller.kNew)
    (events : c.events = d.events) (silent : pfd.fd < 0 → c.isNoneEvent = true)
    (deleted : d.index = Epoller.kDeleted → d.isNoneEvent = true) : Related fdOf t u := by
  have same : u.objects id = d := by rw [changed.objects, Poller.setChannel_same]
  have other : ∀ different, different ≠ id → u.objects different = e.objects different := by
    intro different ne
    rw [changed.objects, Poller.setChannel_other _ _ _ _ ne]
  have ownEvents : (t.objects id).events = c.events := by rw [updated.events, if_pos rfl]
  have lookupOther : ∀ different, different ≠ id →
      t.channels.lookup (fdOf different) = p.channels.lookup (fdOf different) := by
    intro different ne
    rw [updated.listed, if_neg (fun equal => ne (distinct equal))]
  refine ⟨represents, mirrors, ?_, ?_, ?_, ?_⟩
  · intro different
    by_cases here : different = id
    · rw [here, ownEvents, same, events]
    · rw [updated.events, if_neg here, other different here]
      exact related.events different
  · intro different
    by_cases here : different = id
    · rw [here, updated.listed, if_pos rfl, same]
      simp [known]
    · rw [lookupOther different here, other different here]
      exact related.registered different
  · intro different registered ignored
    by_cases here : different = id
    · rw [here, Poller.ignored, updated.slot] at ignored
      rw [here, Channel.isNoneEvent, ownEvents]
      exact silent (by simpa using ignored)
    · rw [lookupOther different here] at registered
      rw [Poller.ignored, updated.others _ different here registered] at ignored
      rw [Channel.isNoneEvent, updated.events, if_neg here]
      exact related.silent different registered ignored
  · intro different
    by_cases here : different = id
    · rw [here, same]
      exact deleted
    · rw [other different here]
      exact related.deleted different

/-- A change of interest gives channels with the same interest the same one. -/
theorem apply_events (interest : Interest) {c d : Channel} (same : c.events = d.events) :
    (interest.apply c).events = (interest.apply d).events := by
  cases interest <;>
    simp [Interest.apply, Channel.enableReading, Channel.enableWriting, Channel.disableWriting,
      Channel.disableAll, same]

/-- The update of either poller, whatever the one over `poll(2)` did with the
channel's slot. -/
theorem update_related (distinct : Function.Injective fdOf) (nonnegative : ∀ id, 0 ≤ fdOf id)
    (related : Related fdOf p e) (id : Id) (interest : Interest) {t : Poller.State Id}
    {pfd : Poller.PollFd} (taken : Poller.step p (.update id interest) = .ok t)
    (updated : Poller.Updated fdOf p t id (interest.apply (p.objects id)) pfd)
    (silent : pfd.fd < 0 → (interest.apply (p.objects id)).isNoneEvent = true) :
    ∃ u, Epoller.step e (.update id interest) = .ok u ∧ Related fdOf t u := by
  obtain ⟨u, returned, changed⟩ := Epoller.update_changes distinct related.mirrors id interest
  have represents := Poller.step_represents nonnegative p _ t related.represents taken
  have mirrors := Epoller.step_mirrors distinct e _ u related.mirrors returned
  have events := apply_events interest (related.events id)
  refine ⟨u, returned, updated_related distinct related represents mirrors updated changed ?_
    events silent ?_⟩
  · simp only [Epoller.nextIndex]
    split
    · decide
    · decide
  · simp only [Epoller.nextIndex]
    split
    case isTrue both => exact fun _ => both.2
    case isFalse => exact fun impossible => absurd impossible (by decide)

/-- Corresponding removals lead to related pollers. -/
theorem remove_related (distinct : Function.Injective fdOf) (nonnegative : ∀ id, 0 ≤ fdOf id)
    (related : Related fdOf p e) (id : Id) {t : Poller.State Id} {u : Epoller.State Id}
    (taken : Poller.step p (.remove id) = .ok t) (returned : Epoller.step e (.remove id) = .ok u) :
    Related fdOf t u := by
  obtain ⟨order, represents⟩ := related.represents
  obtain ⟨channels, events⟩ := Poller.remove_leaves id t taken
  have slots := Poller.remove_keeps_slots nonnegative represents id t taken
  obtain ⟨_, _, changed⟩ := Epoller.remove_changes distinct related.mirrors id u returned
  have eventsKept : ∀ other, (u.objects other).events = (e.objects other).events := by
    intro other
    rw [changed.objects]
    by_cases here : other = id
    · rw [here, Poller.setChannel_same]
    · rw [Poller.setChannel_other _ _ _ _ here]
  have indexOther : ∀ other, other ≠ id → (u.objects other).index = (e.objects other).index := by
    intro other here
    rw [changed.objects, Poller.setChannel_other _ _ _ _ here]
  have indexOwn : (u.objects id).index = Epoller.kNew := by
    rw [changed.objects, Poller.setChannel_same]
  have lookupOwn : t.channels.lookup (fdOf id) = none := by
    rw [channels, represents.fds, AList.lookup_erase]
  have lookupOther : ∀ other, other ≠ id →
      t.channels.lookup (fdOf other) = p.channels.lookup (fdOf other) := by
    intro other here
    rw [channels, represents.fds, AList.lookup_erase_ne (fun same => here (distinct same))]
  refine ⟨Poller.step_represents nonnegative p _ t related.represents taken,
    Epoller.step_mirrors distinct e _ u related.mirrors returned, ?_, ?_, ?_, ?_⟩
  · intro other
    rw [events, eventsKept]
    exact related.events other
  · intro other
    by_cases here : other = id
    · rw [here, lookupOwn, indexOwn]
      simp
    · rw [lookupOther other here, indexOther other here]
      exact related.registered other
  · intro other known ignored
    have here : other ≠ id := by
      rintro rfl
      rw [lookupOwn] at known
      cases known
    rw [lookupOther other here] at known
    rw [Poller.ignored, (slots _ other here known).2] at ignored
    rw [Channel.isNoneEvent, events]
    exact related.silent other known ignored
  · intro other deleted
    have here : other ≠ id := by
      rintro rfl
      rw [indexOwn] at deleted
      exact absurd deleted (by decide)
    rw [indexOther other here] at deleted
    rw [Channel.isNoneEvent, eventsKept]
    exact related.deleted other deleted

/-- An operation that both treat alike passes in both, and leads to related
pollers, or fails in both. -/
theorem step_alike (distinct : Function.Injective fdOf) (nonnegative : ∀ id, 0 ≤ fdOf id)
    (related : Related fdOf p e) (operation : Operation Id) (met : alike p operation) :
    (∃ t u, pollerStep p operation = .ok t ∧ epollerStep e operation = .ok u ∧
      Related fdOf t u) ∨
    ∃ reason why, pollerStep p operation = .error reason ∧ epollerStep e operation = .error why := by
  obtain ⟨order, represents⟩ := related.represents
  cases operation with
  | update id interest =>
    left
    rcases met with new | ⟨known, silent⟩
    · obtain ⟨t, taken, updated⟩ := Poller.update_fresh distinct represents id interest new
      obtain ⟨u, returned, next⟩ := update_related distinct nonnegative related id interest taken
        updated (by
          intro negative
          have sign := nonnegative id
          simp only [Poller.slotAfter, Poller.apply_fd, represents.fds] at negative
          omega)
      exact ⟨t, u, taken, returned, next⟩
    · rw [represents.fds] at known
      obtain ⟨t, taken, updated⟩ := Poller.update_known represents id interest known
      obtain ⟨pfd, slot, _, _⟩ := Poller.ignored_iff nonnegative represents id known
      obtain ⟨u, returned, next⟩ := update_related distinct nonnegative related id interest taken
        updated (by
          intro negative
          cases none : (interest.apply (p.objects id)).isNoneEvent with
          | true => rfl
          | false =>
            simp only [Poller.slotAfter, slot, none, Bool.false_eq_true, if_false] at negative
            have heard := silent (by simpa [Poller.ignored, slot] using negative)
            rw [none] at heard
            exact heard)
      exact ⟨t, u, taken, returned, next⟩
  | remove id =>
    by_cases checked : p.channels.lookup (fdOf id) = some id ∧ (p.objects id).isNoneEvent = true
    · left
      obtain ⟨known, none⟩ := checked
      have ignored := met (by rw [represents.fds]; exact known) none
      obtain ⟨t, taken⟩ := Poller.remove_passes distinct nonnegative represents id known none ignored
      obtain ⟨u, returned⟩ := Epoller.remove_returns related.mirrors id
        ((related.registered id).mp known) (by rw [Channel.isNoneEvent, ← related.events]; exact none)
      exact ⟨t, u, taken, returned,
        remove_related distinct nonnegative related id taken returned⟩
    · right
      cases taken : Poller.step p (.remove id) with
      | ok t =>
        obtain ⟨known, none, _⟩ := Poller.remove_checked nonnegative represents id t taken
        exact absurd ⟨known, none⟩ checked
      | error reason =>
        cases returned : Epoller.step e (.remove id) with
        | ok u =>
          obtain ⟨known, none, _⟩ := Epoller.remove_changes distinct related.mirrors id u returned
          refine absurd ⟨(related.registered id).mpr known, ?_⟩ checked
          rw [Channel.isNoneEvent, related.events]
          exact none
        | error why => exact ⟨reason, why, taken, returned⟩

/-- On every other operation the pollers differ: one of them fails, or only one
of them watches the channel.

Proof: by the three kinds. An update of a removed channel fails for its old index.
An ignored slot that gets interest stays ignored while the kernel adds the
channel. A removal finds a plain slot. -/
theorem step_differs (distinct : Function.Injective fdOf) (nonnegative : ∀ id, 0 ≤ fdOf id)
    (related : Related fdOf p e) (operation : Operation Id) (violated : ¬ alike p operation) :
    ¬ Agree (pollerStep p operation) (epollerStep e operation) := by
  obtain ⟨order, represents⟩ := related.represents
  intro agree
  cases operation with
  | update id interest =>
    obtain ⟨u, returned, changed⟩ := Epoller.update_changes distinct related.mirrors id interest
    simp only [alike, not_or, not_and, Classical.not_imp] at violated
    obtain ⟨old, violated⟩ := violated
    rw [represents.fds] at violated
    cases taken : Poller.step p (.update id interest) with
    | error reason =>
      rw [pollerStep, epollerStep, taken, returned] at agree
      exact agree
    | ok t =>
      have known := (Poller.update_checked represents id interest t taken).resolve_left old
      obtain ⟨silent, interested⟩ := violated known
      obtain ⟨same, returnedAgain, updated⟩ := Poller.update_known represents id interest known
      obtain rfl := Except.ok.inj (returnedAgain.symm.trans taken)
      obtain ⟨next, nextRepresents⟩ :=
        Poller.step_represents nonnegative p _ same related.represents taken
      have mirrors := Epoller.step_mirrors distinct e _ u related.mirrors returned
      have events := apply_events interest (related.events id)
      rw [pollerStep, epollerStep, taken, returned] at agree
      have watched : Epoller.Watches u (fdOf id) (interest.apply (p.objects id)).events := by
        refine (Epoller.watches_iff mirrors _ _).mpr ⟨?_, id, rfl, ?_, ?_⟩
        · simpa [Channel.isNoneEvent, Channel.kNoneEvent] using interested
        · rw [changed.objects, Poller.setChannel_same]
          simp only [Epoller.nextIndex, Channel.isNoneEvent, ← events]
          rw [if_neg (fun both => interested both.2)]
        · rw [changed.objects, Poller.setChannel_same]
          exact events.symm
      obtain ⟨_, other, sameFd, _, heard, _⟩ :=
        (Poller.watches_iff nonnegative nextRepresents _ _).mp ((agree _ _).mpr watched)
      obtain rfl := distinct sameFd
      have kept : Poller.ignored same other = true := by
        obtain ⟨pfd, slot, _, _⟩ := Poller.ignored_iff nonnegative represents other known
        rw [Poller.ignored, slot] at silent
        simp only [Poller.ignored, updated.slot, Poller.slotAfter, slot, interested]
        simpa using silent
      rw [kept] at heard
      cases heard
  | remove id =>
    simp only [alike, Classical.not_imp] at violated
    obtain ⟨known, none, heard⟩ := violated
    rw [represents.fds] at known
    obtain ⟨u, returned⟩ := Epoller.remove_returns related.mirrors id
      ((related.registered id).mp known) (by rw [Channel.isNoneEvent, ← related.events]; exact none)
    cases taken : Poller.step p (.remove id) with
    | ok t =>
      obtain ⟨_, _, ignored⟩ := Poller.remove_checked nonnegative represents id t taken
      exact heard ignored
    | error reason =>
      rw [pollerStep, epollerStep, taken, returned] at agree
      exact agree

/-- From related pollers, agreement after every step is that every step is one
both treat alike.

Proof: induction over the operations. A step that is alike keeps the relation or
ends both runs; a step that is not makes the pollers differ right after it. -/
theorem agree_iff_along (distinct : Function.Injective fdOf) (nonnegative : ∀ id, 0 ≤ fdOf id)
    (operations : List (Operation Id)) (related : Related fdOf p e) :
    (∀ count, Agree (run pollerStep p (operations.take count))
      (run epollerStep e (operations.take count))) ↔
    Along pollerStep alike p operations := by
  induction operations generalizing p e with
  | nil =>
    have agree := related_agree nonnegative related
    exact ⟨fun _ => trivial, fun _ count => by simpa using agree⟩
  | cons operation rest inductionHypothesis =>
    by_cases met : alike p operation
    · rcases step_alike distinct nonnegative related operation met with
        ⟨t, u, taken, returned, next⟩ | ⟨reason, why, taken, returned⟩
      · have later := inductionHypothesis next
        constructor
        · intro agree
          refine ⟨met, fun other same => ?_⟩
          obtain rfl := Except.ok.inj (taken.symm.trans same)
          refine later.mp (fun count => ?_)
          have after := agree (count + 1)
          rwa [List.take_succ_cons, run_returned _ taken, run_returned _ returned] at after
        · intro along count
          cases count with
          | zero => exact related_agree nonnegative related
          | succ count =>
            rw [List.take_succ_cons, run_returned _ taken, run_returned _ returned]
            exact later.mpr (along.2 t taken) count
      · constructor
        · intro _
          refine ⟨met, fun other same => ?_⟩
          rw [taken] at same
          cases same
        · intro _ count
          cases count with
          | zero => exact related_agree nonnegative related
          | succ count =>
            rw [List.take_succ_cons, run_failed _ taken, run_failed _ returned]
            trivial
    · constructor
      · intro agree
        have first := agree 1
        rw [List.take_succ_cons, List.take_zero, run_single, run_single] at first
        exact absurd first (step_differs distinct nonnegative related operation met)
      · exact fun along => absurd along.1 met

end Laws

/-- The pollers agree after every step of a sequence of operations exactly when
each operation of it is one both treat alike: no update gives interest to a
registered channel whose slot is ignored or is of a removed channel, and no
removal is of a registered channel that has no interest but a plain slot. -/
theorem interchangeable_iff (fdOf : Id → Int) (distinct : Function.Injective fdOf)
    (nonnegative : ∀ id, 0 ≤ fdOf id) (operations : List (Operation Id)) :
    Interchangeable fdOf operations ↔
      Along pollerStep alike (Poller.initial fdOf) operations :=
  agree_iff_along distinct nonnegative operations (initial_related fdOf)

/-- Two channels are used; one of them is written to, loses its interest and is
removed. -/
def usedAndRemoved : List (Operation Nat) :=
  [.update 3 .enableReading, .update 4 .enableReading, .update 4 .enableWriting,
    .update 4 .disableWriting, .update 4 .disableAll, .remove 4]

/-- This run looks the same on both pollers. -/
theorem interchangeable_used_and_removed :
    Interchangeable (fun id : Nat => (id : Int)) usedAndRemoved := by
  refine (interchangeable_iff (fun id : Nat => (id : Int))
    (fun left right same => Int.ofNat.inj same) (fun id => Int.natCast_nonneg id)
    usedAndRemoved).mpr ?_
  decide +kernel

/-- A channel loses its interest and is enabled again. -/
def enabledAgain : List (Operation Nat) :=
  [.update 3 .enableReading, .update 3 .disableAll, .update 3 .enableReading]

/-- A channel is removed and registered again. -/
def registeredAgain : List (Operation Nat) :=
  [.update 3 .enableReading, .update 3 .disableAll, .remove 3, .update 3 .enableReading]

/-- A channel is registered without interest and removed. -/
def removedAtOnce : List (Operation Nat) := [.update 3 .disableAll, .remove 3]

/-- The pollers differ on each of these: on the first in what they watch, on the
other two because only the poller over `poll(2)` fails an assert. -/
theorem pollers_differ_when_used_again :
    ¬ Interchangeable (fun id : Nat => (id : Int)) enabledAgain ∧
    ¬ Interchangeable (fun id : Nat => (id : Int)) registeredAgain ∧
    ¬ Interchangeable (fun id : Nat => (id : Int)) removedAtOnce := by
  have iff_along : ∀ operations, Interchangeable (fun id : Nat => (id : Int)) operations ↔
      Along pollerStep alike (Poller.initial fun id : Nat => (id : Int)) operations :=
    fun operations => agree_iff_along (fun left right same => Int.ofNat.inj same)
      (fun id => Int.natCast_nonneg id) operations (initial_related _)
  simp only [iff_along]
  decide +kernel

end ReactorNetwork.PollerAgreement
