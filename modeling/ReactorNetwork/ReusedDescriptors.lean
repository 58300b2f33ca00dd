import ReactorNetwork.Epoller

/-!
# Channels whose descriptors are reused

The kernel gives a closed descriptor out again, and the channel that had it may still exist.
So the channels of a long run do not differ in their descriptors, as a fixed set of channels
does; only those in the map do. The laws of `update_channel` and `remove_channel` hold all the
same, as long as a channel that enters the map has a descriptor that no channel there has.
-/

namespace ReactorNetwork.Epoller

open Poller (setChannel)

variable {Id : Type} [DecidableEq Id] {p q : State Id} {id : Id} {c : Channel}

/-- The agreement of map, statuses and kernel when only the channels in the map differ in
their descriptors; a channel the kernel deleted has no interest. -/
structure Faithful (p : State Id) : Prop where
  mirrors : Mirrors (fun id => (p.objects id).fd) p
  idle : ∀ id, (p.objects id).index = kDeleted → (p.objects id).isNoneEvent = true

omit [DecidableEq Id] in
/-- The kernel knows a descriptor only through a channel in the map. -/
theorem Faithful.unwatched (faithful : Faithful p) {fd : Int}
    (free : p.channels.lookup fd = none) : p.interest fd = none := by
  cases found : p.interest fd with
  | none => rfl
  | some entry =>
    obtain ⟨same, added, _⟩ := (faithful.mirrors.watched fd entry).mp found
    have listed := (faithful.mirrors.listed fd entry.data).mpr ⟨same, by rw [added]; decide⟩
    cases free.symm.trans listed

omit [DecidableEq Id] in
/-- What the kernel holds for a channel in the map. -/
theorem Faithful.interest (faithful : Faithful p) (known : (p.objects id).index ≠ kNew) :
    p.interest (p.objects id).fd = interestOf id (p.objects id) := by
  have own := (faithful.mirrors.listed _ id).mpr ⟨rfl, known⟩
  unfold interestOf
  split
  case isTrue added => exact (faithful.mirrors.watched _ ⟨_, id⟩).mpr ⟨rfl, added, rfl⟩
  case isFalse absent =>
    cases found : p.interest (p.objects id).fd with
    | none => rfl
    | some entry =>
      obtain ⟨same, added, _⟩ := (faithful.mirrors.watched _ entry).mp found
      have other := (faithful.mirrors.listed _ entry.data).mpr ⟨same, by rw [added]; decide⟩
      rw [← Option.some.inj (own.symm.trans other)] at added
      exact absurd added absent

section Followed

variable (faithful : Faithful p) (changed : Changed (fun _ => c.fd) p q id c)
  (free : p.channels.lookup c.fd = none ∨ p.channels.lookup c.fd = some id)
  (same : (p.objects id).index ≠ kNew → (p.objects id).fd = c.fd)

omit [DecidableEq Id] in
include faithful free in
/-- No other channel in the map has the descriptor. -/
theorem foreign_fd (other : Id) (different : other ≠ id)
    (known : (p.objects other).index ≠ kNew) : (p.objects other).fd ≠ c.fd := by
  intro equal
  have listed := (faithful.mirrors.listed c.fd other).mpr ⟨equal, known⟩
  rcases free with none | own
  · cases none.symm.trans listed
  · exact different (Option.some.inj (listed.symm.trans own))

include faithful changed free same

/-- The map follows the change of a channel, which was in the map before or was not. -/
theorem followed_listed (key : Int) (other : Id) :
    q.channels.lookup key = some other ↔
      (q.objects other).fd = key ∧ (q.objects other).index ≠ kNew := by
  have mirrors := faithful.mirrors
  rw [changed.listed]
  by_cases this : other = id
  · subst this
    rw [changed_same changed]
    by_cases own : key = c.fd
    · by_cases new : c.index = kNew <;> simp [own, entryOf, new]
    · have absent : p.channels.lookup key ≠ some other := by
        intro found
        obtain ⟨equal, known⟩ := (mirrors.listed key other).mp found
        exact own (equal.symm.trans (same known))
      simp [own, absent, Ne.symm own]
  · rw [changed_other changed this]
    by_cases own : key = c.fd
    · have unlisted : entryOf id c ≠ some other := by
        unfold entryOf
        split
        · simp
        · simpa using Ne.symm this
      rw [if_pos own, own]
      exact iff_of_false unlisted fun found => foreign_fd faithful free other this found.2 found.1
    · rw [if_neg own]
      exact mirrors.listed key other

/-- So does the kernel. -/
theorem followed_watched (key : Int) (entry : EpollEvent Id) :
    q.interest key = some entry ↔ (q.objects entry.data).fd = key ∧
      (q.objects entry.data).index = kAdded ∧ (q.objects entry.data).events = entry.events := by
  have mirrors := faithful.mirrors
  rw [changed.watched]
  by_cases this : entry.data = id
  · rw [this, changed_same changed]
    by_cases own : key = c.fd
    · by_cases added : c.index = kAdded
      · simp only [own, interestOf, added, if_true, true_and]
        constructor
        · intro equal
          rw [← Option.some.inj equal]
        · intro events
          rw [events, ← this]
      · simp [own, interestOf, added]
    · have absent : p.interest key ≠ some entry := by
        intro found
        obtain ⟨equal, added, _⟩ := (mirrors.watched key entry).mp found
        rw [this] at equal added
        exact own (equal.symm.trans (same (by rw [added]; decide)))
      simp [own, absent, Ne.symm own]
  · rw [changed_other changed this]
    by_cases own : key = c.fd
    · have unwatched : interestOf id c ≠ some entry := by
        unfold interestOf
        split
        · intro equal
          exact this (by rw [← Option.some.inj equal])
        · simp
      rw [if_pos own, own]
      refine iff_of_false unwatched ?_
      rintro ⟨equal, added, _⟩
      exact foreign_fd faithful free entry.data this (by rw [added]; decide) equal
    · rw [if_neg own]
      exact mirrors.watched key entry

/-- A change of one channel that the map and the kernel follow keeps the agreement. -/
theorem followed_faithful
    (status : c.index = kNew ∨ c.index = kAdded ∨ c.index = kDeleted)
    (idle : c.index = kDeleted → c.isNoneEvent = true) : Faithful q where
  mirrors := by
    refine ⟨fun _ => rfl, ?_, followed_listed faithful changed free same,
      followed_watched faithful changed free same, changed.quiet.trans faithful.mirrors.quiet⟩
    intro other
    by_cases this : other = id
    · rw [this, changed_same changed]
      exact status
    · rw [changed_other changed this]
      exact faithful.mirrors.status other
  idle := by
    intro other
    by_cases this : other = id
    · rw [this, changed_same changed]
      exact idle
    · rw [changed_other changed this]
      exact faithful.idle other

end Followed

/-- An update of a channel under a descriptor that is its own, or free if the channel is
not in the map, passes the asserts. -/
theorem update_follows (status : c.index = kNew ∨ c.index = kAdded ∨ c.index = kDeleted)
    (listed : p.channels.lookup c.fd = entryOf id c)
    (watched : (p.interest c.fd).isSome = decide (c.index = kAdded)) :
    ∃ q, updateChannel { p with objects := setChannel p.objects id c } id = .ok q ∧
      Changed (fun _ => c.fd) p q id { c with index := nextIndex c.index c } := by
  have there : ∀ entry, p.channels.lookup c.fd = entry →
      p.channels.lookup (setChannel p.objects id c id).fd = entry := by
    rw [Poller.setChannel_same]
    exact fun _ found => found
  rcases status with new | added | deleted
  · have free : p.interest c.fd = none := by
      rw [new] at watched
      simpa [kNew, kAdded] using watched
    rw [entryOf, if_pos new] at listed
    simp only [updateChannel, Poller.setChannel_same, new, true_or, if_true, require_bind_ok,
      pure_ok, update, setIndex, Poller.setChannel_twice, epollCtl, free]
    exact ⟨_, ⟨there _ listed, rfl⟩, rfl, fun key => lookup_insert_at _ _ _ _, fun key => rfl, rfl⟩
  · obtain ⟨entry, present⟩ : ∃ entry, p.interest c.fd = some entry := by
      rw [added] at watched
      exact Option.isSome_iff_exists.mp watched
    rw [entryOf, if_neg (by rw [added]; decide)] at listed
    have status : ¬ (kAdded = kNew ∨ kAdded = kDeleted) := by decide
    simp only [updateChannel, Poller.setChannel_same, added, if_neg status, require_bind_ok]
    cases none : c.isNoneEvent with
    | true =>
      simp only [if_true, pure_ok, update, setIndex, Poller.setChannel_same,
        Poller.setChannel_twice, epollCtl, present, nextIndex, none, and_self]
      exact ⟨_, ⟨by simp [there _ listed], there _ listed, trivial, rfl⟩, rfl, lookup_at _ _ _ listed,
        fun key => rfl, rfl⟩
    | false =>
      simp only [Bool.false_eq_true, if_false, pure_ok, update, Poller.setChannel_same, epollCtl,
        present, nextIndex, none, and_false]
      exact ⟨_, ⟨by simp [there _ listed], there _ listed, trivial, rfl⟩, by rw [← added],
        lookup_at _ _ _ listed, fun key => rfl, rfl⟩
  · have free : p.interest c.fd = none := by
      rw [deleted] at watched
      simpa [kDeleted, kAdded] using watched
    rw [entryOf, if_neg (by rw [deleted]; decide)] at listed
    simp only [updateChannel, Poller.setChannel_same, deleted, or_true, if_true, require_bind_ok,
      if_neg (by decide : ¬ kDeleted = kNew), pure_ok, update, setIndex, Poller.setChannel_twice,
      epollCtl, free]
    exact ⟨_, ⟨by simp [there _ listed], there _ listed, rfl⟩, rfl, lookup_at _ _ _ listed,
      fun key => rfl, rfl⟩

/-- A change of a channel that is then updated. The channel keeps its descriptor, or has
one that no channel in the map has. -/
theorem Faithful.update (faithful : Faithful p) (id : Id) (c : Channel)
    (index : c.index = (p.objects id).index)
    (same : (p.objects id).index ≠ kNew → (p.objects id).fd = c.fd)
    (free : (p.objects id).index = kNew → p.channels.lookup c.fd = none) :
    ∃ q, updateChannel { p with objects := setChannel p.objects id c } id = .ok q ∧ Faithful q ∧
      q.objects = setChannel p.objects id { c with index := nextIndex c.index c } := by
  have status := faithful.mirrors.status id
  have listed : p.channels.lookup c.fd = entryOf id c := by
    unfold entryOf
    split
    case isTrue new => exact free (index ▸ new)
    case isFalse known =>
      rw [index] at known
      exact (faithful.mirrors.listed _ id).mpr ⟨same known, known⟩
  have watched : (p.interest c.fd).isSome = decide (c.index = kAdded) := by
    by_cases new : (p.objects id).index = kNew
    · rw [faithful.unwatched (free new), index, new]
      rfl
    · rw [← same new, faithful.interest new, interestOf, index]
      split <;> simp_all
  obtain ⟨q, updated, changed⟩ := update_follows (index ▸ status) listed watched
  refine ⟨q, updated, ?_, changed.objects⟩
  have next : nextIndex c.index c = kAdded ∨ nextIndex c.index c = kDeleted := by
    unfold nextIndex
    split
    · exact Or.inr rfl
    · exact Or.inl rfl
  refine followed_faithful (c := { c with index := nextIndex c.index c }) faithful changed ?_ same
    (Or.inr next) ?_
  · rw [show p.channels.lookup _ = _ from listed]
    unfold entryOf
    split
    · exact Or.inl rfl
    · exact Or.inr rfl
  · intro deleted
    simp only [nextIndex] at deleted
    split at deleted
    case isTrue none => exact none.2
    case isFalse => cases deleted

/-- A removal of a channel in the map that has no interest. -/
theorem Faithful.remove (faithful : Faithful p) (known : (p.objects id).index ≠ kNew)
    (none : (p.objects id).isNoneEvent = true) :
    ∃ q, removeChannel p id = .ok q ∧ Faithful q ∧ q.channels.lookup (p.objects id).fd = Option.none ∧
      q.objects = setChannel p.objects id { p.objects id with index := kNew } := by
  have listed := (faithful.mirrors.listed _ id).mpr ⟨rfl, known⟩
  have watched := faithful.interest known
  have status := (faithful.mirrors.status id).resolve_left known
  obtain ⟨q, removed, changed⟩ : ∃ q, removeChannel p id = .ok q ∧
      Changed (fun _ => (p.objects id).fd) p q id { p.objects id with index := kNew } := by
    simp only [removeChannel, require_bind_ok, pure_ok]
    refine ⟨_, ⟨by simp [listed], listed, none, status, rfl⟩, ?_⟩
    by_cases added : (p.objects id).index = kAdded
    · rw [interestOf, if_pos added] at watched
      simp only [if_pos added, Epoller.update, epollCtl, watched]
      exact ⟨rfl, fun key => lookup_erase_at _ _ _, fun key => rfl, rfl⟩
    · rw [interestOf, if_neg added] at watched
      simp only [if_neg added]
      refine ⟨rfl, fun key => lookup_erase_at _ _ _, ?_, rfl⟩
      intro key
      simp only [setIndex, interestOf, if_neg (by decide : ¬ kNew = kAdded)]
      by_cases own : key = (p.objects id).fd
      · rw [if_pos own, own, watched]
      · rw [if_neg own]
  exact ⟨q, removed, followed_faithful (c := { p.objects id with index := kNew }) faithful changed
    (Or.inr listed) (fun _ => rfl) (Or.inl rfl) (by simp [kNew, kDeleted]),
    (changed.listed _).trans (if_pos rfl), changed.objects⟩

omit [DecidableEq Id] in
/-- Closing descriptors of no channel in the map. -/
theorem Faithful.close (faithful : Faithful p) {closed : List Int}
    (unlisted : ∀ fd ∈ closed, p.channels.lookup fd = none) :
    Faithful { p with interest := fun fd => if fd ∈ closed then none else p.interest fd } := by
  have same : (fun fd => if fd ∈ closed then none else p.interest fd) = p.interest := by
    funext fd
    split
    case isTrue member => exact (faithful.unwatched (unlisted fd member)).symm
    case isFalse => rfl
  rw [same]
  exact faithful

end ReactorNetwork.Epoller
