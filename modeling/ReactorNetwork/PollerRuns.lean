import ReactorNetwork.Poller

/-!
# Runs of the poller

The representation holds in every state the poller reaches: each update, removal
and poll keeps it. From it follow what the rest of the library relies on: a
removal leaves every other channel its slot, and a poll makes active exactly the
channels whose slot was reported, once each and with their own events.
-/

namespace ReactorNetwork.Poller

open SwapRemove Runs

variable {Id : Type} [DecidableEq Id]

/-- The slots that were reported, with their channels. -/
def hits (pairs : List (Id × PollFd)) : List (Id × PollFd) :=
  pairs.filter fun pair => pair.2.revents ≠ 0

/-- The loop over the rest of the slots can do its work: a reported slot has a
positive `revents` and the descriptor of its channel. -/
structure Fillable (s : State Id) (pairs : List (Id × PollFd)) : Prop where
  distinct : (pairs.map Prod.fst).Nodup
  found : ∀ pair ∈ pairs, pair.2.revents ≠ 0 →
    0 < pair.2.revents.toInt ∧ s.channels.lookup pair.2.fd = some pair.1 ∧
      (s.objects pair.1).fd = pair.2.fd

/-- What the loop leaves: the reported channels are appended to the active ones
and hold their slot's events; everything else is unchanged. -/
structure Filled (s t : State Id) (pairs : List (Id × PollFd)) : Prop where
  pollFds : t.pollFds = s.pollFds
  channels : t.channels = s.channels
  active : t.active = s.active ++ (hits pairs).map Prod.fst
  own : ∀ pair ∈ hits pairs, (t.objects pair.1).revents = toInt pair.2.revents
  others : ∀ id ∉ (hits pairs).map Prod.fst, t.objects id = s.objects id
  rest : ∀ id, { t.objects id with revents := 0 } = { s.objects id with revents := 0 }

omit [DecidableEq Id] in
/-- With no event reported nothing becomes active. -/
theorem filled_nothing (s : State Id) (pairs : List (Id × PollFd)) (none : hits pairs = []) :
    Filled s s pairs := by
  refine ⟨rfl, rfl, ?_, ?_, fun _ _ => rfl, fun _ => rfl⟩
  · simp [none]
  · simp [none]

/-- Storing a slot's events in its channel changes nothing else of it. -/
theorem fillable_stored {s : State Id} {pair : Id × PollFd} {pairs : List (Id × PollFd)}
    (fillable : Fillable s (pair :: pairs)) (active : List Id) :
    Fillable { s with
      objects := setChannel s.objects pair.1
        { s.objects pair.1 with revents := toInt pair.2.revents }
      active := active } pairs := by
  obtain ⟨distinct, found⟩ := fillable
  constructor
  · exact (List.nodup_cons.mp distinct).2
  · intro later member reported
    obtain ⟨positive, registered, fd⟩ := found later (List.mem_cons_of_mem _ member) reported
    refine ⟨positive, registered, ?_⟩
    by_cases same : later.1 = pair.1
    · simp only [same, setChannel_same]
      exact same ▸ fd
    · simp only [setChannel_other _ _ _ _ same]
      exact fd

/-- The loop that counts down from the number of reported slots visits them all.

Proof: induction over the slots. After a reported slot the loop stops when the
count reaches zero; then no slot after it is reported. -/
theorem fillActiveChannels_fills (s : State Id) (pairs : List (Id × PollFd))
    (fillable : Fillable s pairs) :
    ∃ t, fillActiveChannels s (pairs.map Prod.snd) ((hits pairs).length : Int) = .ok t ∧
      Filled s t pairs := by
  induction pairs generalizing s with
  | nil => exact ⟨s, rfl, filled_nothing s [] rfl⟩
  | cons pair rest inductionHypothesis =>
    by_cases silent : pair.2.revents = 0
    · have none : hits (pair :: rest) = hits rest := by simp [hits, silent]
      have restFillable : Fillable s rest := ⟨(List.nodup_cons.mp fillable.distinct).2,
        fun later member => fillable.found later (List.mem_cons_of_mem _ member)⟩
      obtain ⟨t, returned, filled⟩ := inductionHypothesis s restFillable
      refine ⟨t, ?_, ⟨filled.pollFds, filled.channels, ?_, ?_, ?_, filled.rest⟩⟩
      · have skipped : ¬ 0 < pair.2.revents.toInt := by simp [silent]
        rw [List.map_cons, fillActiveChannels, if_neg skipped, none]
        exact returned
      · rw [none]
        exact filled.active
      · rw [none]
        exact filled.own
      · rw [none]
        exact filled.others
    · obtain ⟨positive, registered, fd⟩ := fillable.found pair List.mem_cons_self silent
      have hit : hits (pair :: rest) = pair :: hits rest :=
        List.filter_cons_of_pos (by simpa using silent)
      have new : pair.1 ∉ (hits rest).map Prod.fst := by
        intro member
        have inRest : pair.1 ∈ rest.map Prod.fst :=
          (List.filter_sublist.map Prod.fst).subset member
        exact (List.nodup_cons.mp fillable.distinct).1 inRest
      let stored : State Id := { s with
        objects := setChannel s.objects pair.1
          { s.objects pair.1 with revents := toInt pair.2.revents }
        active := s.active ++ [pair.1] }
      have continued : ∃ t, (if ((hits rest).length : Int) = 0 then pure stored
          else fillActiveChannels stored (rest.map Prod.snd) (hits rest).length) = .ok t ∧
          Filled stored t rest := by
        by_cases finished : ((hits rest).length : Int) = 0
        · have noMore : hits rest = [] := List.eq_nil_of_length_eq_zero (by omega)
          exact ⟨stored, by rw [if_pos finished]; rfl, filled_nothing stored rest noMore⟩
        · rw [if_neg finished]
          exact inductionHypothesis stored (fillable_stored fillable (s.active ++ [pair.1]))
      obtain ⟨t, returned, filled⟩ := continued
      refine ⟨t, ?_, ⟨filled.pollFds, filled.channels, ?_, ?_, ?_, ?_⟩⟩
      · have counted : ((pair :: hits rest).length : Int) - 1 = (hits rest).length := by simp
        rw [List.map_cons, fillActiveChannels, if_pos positive, registered, hit]
        have passed : require ((s.objects pair.1).fd = pair.2.fd) = .ok () :=
          (require_ok _ _).mpr fd
        simp only [passed, counted, bind, Except.bind]
        exact returned
      · rw [hit, filled.active]
        simp [stored]
      · intro later member
        rw [hit] at member
        rcases List.mem_cons.mp member with rfl | inRest
        · rw [filled.others _ new]
          simp [stored, setChannel_same]
        · exact filled.own later inRest
      · intro id outside
        rw [hit, List.map_cons, List.mem_cons, not_or] at outside
        rw [filled.others id outside.2]
        exact setChannel_other _ _ _ _ outside.1
      · intro id
        rw [filled.rest id]
        by_cases same : id = pair.1
        · subst same
          simp [stored, setChannel_same]
        · simp [stored, setChannel_other _ _ _ _ same]

variable {fdOf : Id → Int} {order : List Id} {s : State Id}

/-- Each registered channel with its reported slot. -/
def reportedPairs (order : List Id) (s : State Id) (revents : List (BitVec 16)) :
    List (Id × PollFd) :=
  order.zip (report s.pollFds revents)

omit [DecidableEq Id] in
/-- The kernel writes its answer into the entries that are there. -/
theorem report_length {revents : List (BitVec 16)}
    (possibleAnswer : possible s.pollFds revents) :
    (report s.pollFds revents).length = s.pollFds.length := by
  simp [report, possibleAnswer.1]

omit [DecidableEq Id] in
/-- A channel's reported slot is its slot with the answer for its position. -/
theorem mem_reportedPairs {pair : Id × PollFd} {revents : List (BitVec 16)} :
    pair ∈ reportedPairs order s revents ↔
      ∃ (position : Nat) (pfd : PollFd) (r : BitVec 16), order[position]? = some pair.1 ∧
        s.pollFds[position]? = some pfd ∧ revents[position]? = some r ∧
        pair.2 = { pfd with revents := r } := by
  rw [reportedPairs, List.mem_iff_getElem?]
  constructor
  · rintro ⟨position, found⟩
    obtain ⟨registered, slot⟩ := List.getElem?_zip_eq_some.mp found
    rw [report, List.getElem?_zipWith_eq_some] at slot
    obtain ⟨pfd, r, slotAt, answer, same⟩ := slot
    exact ⟨position, pfd, r, registered, slotAt, answer, same.symm⟩
  · rintro ⟨position, pfd, r, registered, slotAt, answer, same⟩
    refine ⟨position, List.getElem?_zip_eq_some.mpr ⟨registered, ?_⟩⟩
    rw [report, List.getElem?_zipWith_eq_some]
    exact ⟨pfd, r, slotAt, answer, same.symm⟩

omit [DecidableEq Id] in
/-- The answer to a poll can be distributed: a reported slot is not ignored, so
it has its channel's own descriptor. -/
theorem reported_fillable (nonnegative : ∀ id, 0 ≤ fdOf id)
    (represents : Represents fdOf order s) {revents : List (BitVec 16)}
    (possibleAnswer : possible s.pollFds revents) :
    Fillable { s with pollFds := report s.pollFds revents, active := [] }
      (reportedPairs order s revents) := by
  have length := report_length possibleAnswer
  constructor
  · rw [reportedPairs, List.map_fst_zip (by rw [length, represents.sized])]
    exact represents.distinct
  · intro pair member reported
    obtain ⟨position, pfd, r, registered, slotAt, answer, same⟩ := mem_reportedPairs.mp member
    have zipped : (pfd, r) ∈ s.pollFds.zip revents :=
      List.mem_of_getElem? (List.getElem?_zip_eq_some.mpr ⟨slotAt, answer⟩)
    obtain ⟨ignored, positive⟩ := possibleAnswer.2 _ zipped
    rw [same] at reported ⊢
    have heard : ¬ pfd.fd < 0 := fun negative => reported (ignored negative)
    have own : pfd.fd = fdOf pair.1 := by
      have sign := nonnegative pair.1
      rcases (represents.slots position pair.1 pfd registered slotAt).fd with plain | encoded
      · rw [plain, represents.fds]
      · rw [represents.fds] at encoded
        omega
    refine ⟨?_, ?_, ?_⟩
    · have nonzero : r.toNat ≠ 0 := fun zero =>
        reported (BitVec.eq_of_toNat_eq (by simpa using zero))
      have widened : r.toInt = r.toNat := BitVec.toInt_eq_toNat_of_msb positive
      simp only [widened]
      omega
    · exact (lookup_iff represents pfd.fd pair.1).mpr
        ⟨List.mem_of_getElem? registered, own.symm⟩
    · exact (represents.fds pair.1).trans own.symm

omit [DecidableEq Id] in
/-- The number of events is the number of reported slots. -/
theorem hits_length (represents : Represents fdOf order s) {revents : List (BitVec 16)}
    (possibleAnswer : possible s.pollFds revents) :
    (hits (reportedPairs order s revents)).length = revents.countP (fun r => r ≠ 0) := by
  have length := report_length possibleAnswer
  have slots : (reportedPairs order s revents).map Prod.snd = report s.pollFds revents :=
    List.map_snd_zip (by rw [length, represents.sized])
  have answers : (report s.pollFds revents).map PollFd.revents = revents := by
    apply List.ext_getElem?
    intro position
    rw [List.getElem?_map, report, List.getElem?_zipWith]
    have same := possibleAnswer.1
    by_cases inside : position < revents.length
    · rw [List.getElem?_eq_getElem inside, List.getElem?_eq_getElem (same ▸ inside)]
      rfl
    · rw [List.getElem?_eq_none (by omega), List.getElem?_eq_none (by omega)]
      rfl
  rw [hits, ← List.countP_eq_length_filter]
  conv_rhs => rw [← answers, ← slots, List.map_map, List.countP_map]
  rfl

/-- A poll returns and keeps the order. It makes active the channels of the
reported slots and hands each its own events. -/
theorem poll_represents (nonnegative : ∀ id, 0 ≤ fdOf id)
    (represents : Represents fdOf order s) {revents : List (BitVec 16)}
    (possibleAnswer : possible s.pollFds revents) :
    ∃ t, step s (.poll revents) = .ok t ∧ Represents fdOf order t ∧
      t.active = (hits (reportedPairs order s revents)).map Prod.fst ∧
      ∀ pair ∈ hits (reportedPairs order s revents),
        (t.objects pair.1).revents = toInt pair.2.revents := by
  have length := report_length possibleAnswer
  have fillable := reported_fillable nonnegative represents possibleAnswer
  have counted := hits_length represents possibleAnswer
  have slots : (reportedPairs order s revents).map Prod.snd = report s.pollFds revents :=
    List.map_snd_zip (by rw [length, represents.sized])
  obtain ⟨t, returned, filled⟩ : ∃ t, step s (.poll revents) = .ok t ∧
      Filled { s with pollFds := report s.pollFds revents, active := [] } t
        (reportedPairs order s revents) := by
    have enabledStep : enabled (possible s.pollFds revents) = .ok () :=
      (enabled_ok _ _).mpr possibleAnswer
    simp only [step, enabledStep, bind, Except.bind, poll]
    by_cases some_ : 0 < revents.countP (fun r => r ≠ 0)
    · rw [if_pos some_, ← counted]
      have filledAll := fillActiveChannels_fills _ _ fillable
      rwa [slots] at filledAll
    · rw [if_neg some_]
      have none : hits (reportedPairs order s revents) = [] :=
        List.eq_nil_of_length_eq_zero (by omega)
      exact ⟨_, rfl, filled_nothing _ _ none⟩
  have kept : ∀ id, (t.objects id).fd = (s.objects id).fd ∧
      (t.objects id).events = (s.objects id).events ∧
      (t.objects id).index = (s.objects id).index := by
    intro id
    have same := filled.rest id
    simp only [Channel.mk.injEq] at same
    exact ⟨same.1, same.2.1, same.2.2.2⟩
  refine ⟨t, returned, ?_, by simpa using filled.active, filled.own⟩
  refine ⟨?_, ?_, represents.distinct, ?_, ?_, ?_, ?_⟩
  · exact fun id => (kept id).1.trans (represents.fds id)
  · intro id
    rw [(kept id).2.1]
    exact represents.small id
  · rw [filled.channels]
    exact represents.listed
  · rw [filled.pollFds]
    exact length.trans represents.sized
  · intro position id registered
    rw [(kept id).2.2]
    exact represents.indexed position id registered
  · intro position id pfd registered slot
    rw [filled.pollFds] at slot
    simp only [report, List.getElem?_zipWith_eq_some] at slot
    obtain ⟨before, r, slotAt, _, rfl⟩ := slot
    obtain ⟨fd, events⟩ := represents.slots position id before registered slotAt
    exact ⟨by simpa only [(kept id).1] using fd, by simpa only [(kept id).2.1] using events⟩

/-- Every step keeps the representation, with an order of its own. -/
theorem step_represents (nonnegative : ∀ id, 0 ≤ fdOf id) (s : State Id) (label : Label Id)
    (t : State Id) (represented : ∃ order, Represents fdOf order s)
    (taken : step s label = .ok t) : ∃ order, Represents fdOf order t := by
  obtain ⟨order, represents⟩ := represented
  cases label with
  | update id interest => exact update_represents represents id interest t taken
  | remove id =>
    obtain ⟨position, _, removed, _⟩ := remove_represents nonnegative represents id t taken
    exact ⟨_, removed⟩
  | poll revents =>
    obtain ⟨_, possibleAnswer, _⟩ := (bind_ok _ _ _).mp taken
    obtain ⟨next, returned, kept, _⟩ :=
      poll_represents nonnegative represents ((enabled_ok _ _).mp possibleAnswer)
    obtain rfl := Except.ok.inj (returned.symm.trans taken)
    exact ⟨order, kept⟩
  | pollFailed =>
    obtain rfl := (pure_ok _ _).mp taken
    exact ⟨order, represents.fds, represents.small, represents.distinct, represents.listed,
      represents.sized, represents.indexed, represents.slots⟩

/-- A registered channel's slot, at the channel's own index. -/
def slotOf (s : State Id) (id : Id) : Option PollFd := s.pollFds[(s.objects id).index.toNat]?

omit [DecidableEq Id] in
/-- What the representation says of one registered channel. -/
theorem slot_of_lookup (represents : Represents fdOf order s) {fd : Int} {id : Id}
    (found : s.channels.lookup fd = some id) :
    (s.objects id).fd = fd ∧ 0 ≤ (s.objects id).index ∧
      (s.objects id).index < s.pollFds.length ∧
      ∃ pfd, slotOf s id = some pfd ∧ (pfd.fd = fd ∨ pfd.fd = -1 - fd) ∧
        toInt pfd.events = (s.objects id).events := by
  obtain ⟨position, registered, index, inside⟩ := position_of_lookup represents found
  obtain ⟨_, owned⟩ := (lookup_iff represents fd id).mp found
  have fdSame : (s.objects id).fd = fd := (represents.fds id).trans owned
  have slotAt := List.getElem?_eq_getElem inside
  have belongs := represents.slots position id _ registered slotAt
  refine ⟨fdSame, by omega, by omega, s.pollFds[position], ?_, fdSame ▸ belongs.fd, ?_⟩
  · rw [slotOf, index, Int.toNat_natCast]
    exact slotAt
  · rw [belongs.events]
    exact toInt_toShort (represents.small id)

/-- A removal leaves every other registered channel its slot: a channel in front
of the end keeps its position, and the last channel's slot moves with it. -/
theorem remove_keeps_slots (nonnegative : ∀ id, 0 ≤ fdOf id)
    (represents : Represents fdOf order s) (id : Id) (t : State Id)
    (taken : step s (.remove id) = .ok t) (fd : Int) (other : Id) (different : other ≠ id)
    (found : s.channels.lookup fd = some other) :
    t.channels.lookup fd = some other ∧ slotOf t other = slotOf s other := by
  obtain ⟨position, registered, removed, slots⟩ :=
    remove_represents nonnegative represents id t taken
  have inside : position < order.length := (List.getElem?_eq_some_iff.mp registered).1
  obtain ⟨place, otherAt, index, insideSlots⟩ := position_of_lookup represents found
  obtain ⟨_, owned⟩ := (lookup_iff represents fd other).mp found
  have elsewhere : place ≠ position := by
    intro same
    subst same
    exact different (Option.some.inj (otherAt.symm.trans registered))
  -- where the channel stands after the removal
  obtain ⟨next, nextAt, sameSlot⟩ : ∃ next : Nat,
      (swapRemove order position)[next]? = some other ∧ t.pollFds[next]? = s.pollFds[place]? := by
    by_cases last : place = order.length - 1
    · refine ⟨position, ?_, ?_⟩
      · rw [swapRemove_getElem? inside position (by omega), if_pos rfl, List.getLast?_eq_getElem?,
          ← last]
        exact otherAt
      · rw [slots, swapRemove_getElem? (represents.sized ▸ inside) position
          (by rw [represents.sized]; omega), if_pos rfl, List.getLast?_eq_getElem?,
          represents.sized, ← last]
    · have within : place < order.length - 1 := by
        have bound := (List.getElem?_eq_some_iff.mp otherAt).1
        omega
      refine ⟨place, ?_, ?_⟩
      · rw [swapRemove_getElem? inside place within, if_neg elsewhere]
        exact otherAt
      · rw [slots, swapRemove_getElem? (represents.sized ▸ inside) place
          (represents.sized ▸ within), if_neg elsewhere]
  constructor
  · exact (lookup_iff removed fd other).mpr ⟨List.mem_of_getElem? nextAt, owned⟩
  · rw [slotOf, slotOf, removed.indexed next other nextAt, index, Int.toNat_natCast,
      Int.toNat_natCast]
    exact sameSlot

omit [DecidableEq Id] in
/-- A channel is reported exactly when it is registered and its slot's answer is
not zero. -/
theorem mem_hits_iff (represents : Represents fdOf order s) (revents : List (BitVec 16))
    (id : Id) (r : BitVec 16) :
    (∃ pair ∈ hits (reportedPairs order s revents), pair.1 = id ∧ pair.2.revents = r) ↔
      r ≠ 0 ∧ (∃ fd, s.channels.lookup fd = some id) ∧
        revents[(s.objects id).index.toNat]? = some r := by
  constructor
  · rintro ⟨pair, member, rfl, rfl⟩
    obtain ⟨reported, nonzero⟩ := List.mem_filter.mp member
    obtain ⟨position, pfd, r, registered, slotAt, answer, same⟩ := mem_reportedPairs.mp reported
    refine ⟨by simpa using nonzero, ⟨fdOf pair.1, ?_⟩, ?_⟩
    · exact (lookup_iff represents _ _).mpr ⟨List.mem_of_getElem? registered, rfl⟩
    · rw [represents.indexed position pair.1 registered, Int.toNat_natCast, same]
      exact answer
  · rintro ⟨nonzero, ⟨fd, found⟩, answer⟩
    obtain ⟨position, registered, index, inside⟩ := position_of_lookup represents found
    rw [index, Int.toNat_natCast] at answer
    refine ⟨(id, { s.pollFds[position] with revents := r }), ?_, rfl, rfl⟩
    apply List.mem_filter.mpr
    refine ⟨mem_reportedPairs.mpr ⟨position, s.pollFds[position], r, registered,
      List.getElem?_eq_getElem inside, answer, rfl⟩, by simpa using nonzero⟩

/-- In every state the poller reaches: the map and the vector have the same
number of entries; every registered channel has an index inside the vector, at
which the slot carries its descriptor, plain or encoded, and its events; no two
registered channels share an index. A removal leaves every other registered
channel registered and its slot unchanged. Every answer of `poll(2)` makes active
exactly the registered channels whose slot has a nonzero `revents`, each once and
with its own. -/
theorem poller_representation (fdOf : Id → Int) (nonnegative : ∀ id, 0 ≤ fdOf id)
    (labels : List (Label Id)) (s : State Id)
    (reached : run step (initial fdOf) labels = .ok s) :
    s.channels.entries.length = s.pollFds.length ∧
    (∀ fd id, s.channels.lookup fd = some id →
      (s.objects id).fd = fd ∧ 0 ≤ (s.objects id).index ∧
      (s.objects id).index < s.pollFds.length ∧
      ∃ pfd, slotOf s id = some pfd ∧ (pfd.fd = fd ∨ pfd.fd = -1 - fd) ∧
        toInt pfd.events = (s.objects id).events) ∧
    (∀ fd id otherFd other, s.channels.lookup fd = some id →
      s.channels.lookup otherFd = some other →
      (s.objects id).index = (s.objects other).index → id = other) ∧
    (∀ id t, step s (.remove id) = .ok t → ∀ fd other, other ≠ id →
      s.channels.lookup fd = some other →
      t.channels.lookup fd = some other ∧ slotOf t other = slotOf s other) ∧
    (∀ revents, possible s.pollFds revents → ∃ t, step s (.poll revents) = .ok t ∧
      t.active.Nodup ∧
      (∀ id, id ∈ t.active ↔ (∃ fd, s.channels.lookup fd = some id) ∧
        ∃ r, revents[(s.objects id).index.toNat]? = some r ∧ r ≠ 0) ∧
      ∀ id ∈ t.active, ∃ r, revents[(s.objects id).index.toNat]? = some r ∧
        (t.objects id).revents = toInt r) := by
  obtain ⟨order, represents⟩ : ∃ order, Represents fdOf order s :=
    invariant step (fun s => ∃ order, Represents fdOf order s) (step_represents nonnegative) labels
      (initial fdOf) s ⟨[], initial_represents fdOf⟩ reached
  refine ⟨?_, ?_, ?_, ?_, ?_⟩
  · rw [represents.listed.length_eq, List.length_map, represents.sized]
  · exact fun fd id found => slot_of_lookup represents found
  · intro fd id otherFd other found otherFound same
    obtain ⟨position, registered, index, _⟩ := position_of_lookup represents found
    obtain ⟨place, otherAt, otherIndex, _⟩ := position_of_lookup represents otherFound
    have equal : position = place := by omega
    subst equal
    exact Option.some.inj (registered.symm.trans otherAt)
  · exact fun id t taken => remove_keeps_slots nonnegative represents id t taken
  · intro revents possibleAnswer
    obtain ⟨t, returned, _, active, own⟩ := poll_represents nonnegative represents possibleAnswer
    have distinct : (reportedPairs order s revents).map Prod.fst |>.Nodup :=
      (reported_fillable nonnegative represents possibleAnswer).distinct
    refine ⟨t, returned, ?_, ?_, ?_⟩
    · rw [active]
      exact distinct.sublist (List.filter_sublist.map _)
    · intro id
      rw [active, List.mem_map]
      constructor
      · rintro ⟨pair, member, rfl⟩
        obtain ⟨nonzero, registered, answer⟩ :=
          (mem_hits_iff represents revents pair.1 _).mp ⟨pair, member, rfl, rfl⟩
        exact ⟨registered, _, answer, nonzero⟩
      · rintro ⟨registered, r, answer, nonzero⟩
        obtain ⟨pair, member, same, _⟩ :=
          (mem_hits_iff represents revents id r).mpr ⟨nonzero, registered, answer⟩
        exact ⟨pair, member, same⟩
    · intro id member
      rw [active, List.mem_map] at member
      obtain ⟨pair, hit, rfl⟩ := member
      obtain ⟨_, _, answer⟩ :=
        (mem_hits_iff represents revents pair.1 _).mp ⟨pair, hit, rfl, rfl⟩
      exact ⟨pair.2.revents, answer, own pair hit⟩

/-- Three channels are registered, the middle one loses its interest and is
removed, and the last one takes its slot. -/
def middleRemoved : List (Label Nat) :=
  [.update 3 .enableReading, .update 4 .enableReading, .update 5 .enableWriting,
    .poll [1#16, 0#16, 4#16], .update 4 .disableAll, .remove 4]

/-- After the removal from the middle map and vector have the same number of entries. -/
theorem poller_representation_middle_removed :
    ∃ s, run step (initial (fun id : Nat => (id : Int))) middleRemoved = .ok s ∧
      s.channels.entries.length = s.pollFds.length := by
  have completed : (run step (initial (fun id : Nat => (id : Int))) middleRemoved).isOk = true := by
    decide +kernel
  cases reached : run step (initial (fun id : Nat => (id : Int))) middleRemoved with
  | error fault => simp [reached, Except.isOk, Except.toBool] at completed
  | ok s =>
    have holds := poller_representation (fun id : Nat => (id : Int)) (by intro id; omega)
      middleRemoved s reached
    exact ⟨s, rfl, holds.1⟩

end ReactorNetwork.Poller
