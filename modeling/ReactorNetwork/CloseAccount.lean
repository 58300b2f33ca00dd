import ReactorNetwork.ConnectionLife

/-!
# The account of close callbacks

Every close callback of a run is answered by one destruction of the same
connection: it is executed, queued, or about to be queued by the removal in
progress. The account is kept by every step of a run in which no read callback
reads an end of file after the hang-up branch of its own dispatch, for every
owner that meets the laws of removal and enrolment.

The argument rests on the turn of the loop: a destruction queued in one iteration
runs before the next poll, and a connection is dispatched at most once in an
iteration. Only the rest of the dispatch that closed a connection could close it
again.
-/

namespace ReactorNetwork.ConnectionLife

open TcpConnection

variable {O : Owner}

/-- The destructions of the batch being run. -/
def Phase.batch : Phase → List Nat
  | .running batch => batch
  | _ => []

/-- The connection whose close callback is being executed. -/
def Phase.removed : Phase → List Nat
  | .removing id _ _ _ => [id]
  | _ => []

/-- No connection whose destruction is queued is dispatched again before it runs,
and the rest of its own dispatch is quiet. -/
def InTurn (s : System O) : Prop :=
  match s.phase with
  | .polling => s.pending = []
  | .dispatching active => active.Nodup ∧ (∀ id ∈ active, id < s.created) ∧
      ∀ id ∈ s.pending, id ∉ active
  | .handling id revents callbacks active => (id :: active).Nodup ∧
      (∀ other ∈ id :: active, other < s.created) ∧ (∀ other ∈ s.pending, other ∉ active) ∧
      (id ∈ s.pending → Quiet revents callbacks) ∧
      callbacks <:+ Channel.handleEvent connectionCallbacks revents
  | .removing id revents callbacks active => (id :: active).Nodup ∧
      (∀ other ∈ id :: active, other < s.created) ∧ (∀ other ∈ s.pending, other ∉ active) ∧
      Quiet revents callbacks ∧ callbacks <:+ Channel.handleEvent connectionCallbacks revents
  | .running _ => s.pending = []

/-- Every close callback so far led to one destruction, which is executed, queued
or about to be queued; the owner holds the connections that are not closed; a
connection is open until it is destroyed. -/
structure Sound (valid : O.State → Prop) (s : System O) : Prop where
  ownerValid : valid s.owner
  once : ∀ id, s.closed.count id ≤ 1
  balanced : ∀ id, s.closed.count id =
    s.destroyed.count id + (s.phase.batch ++ s.pending).count id + s.phase.removed.count id
  held : ∀ id, O.holds s.owner id ↔ id < s.created ∧ s.closed.count id = s.phase.removed.count id
  known : ∀ id ∈ s.closed, id < s.created
  opened : ∀ id < s.created, s.destroyed.count id = 0 ↔ Open (s.objects id)
  inTurn : InTurn s

variable {valid : O.State → Prop} {s : System O}

/-- Before the first connection nothing is closed, and a lawful owner holds nothing. -/
theorem initial_sound (lawful : Lawful O valid) : Sound valid (initial O) where
  ownerValid := lawful.initial_valid
  once := by simp [initial]
  balanced := by simp [initial, Phase.batch, Phase.removed]
  held := fun id => by
    have empty := lawful.initial_empty id
    simp [initial, empty]
  known := by simp [initial]
  opened := by simp [initial]
  inTurn := rfl

/-- Replacing a connection by one in an equally open state keeps what is known of
all. -/
theorem opened_set (sound : Sound valid s) (id : Nat) (c : TcpConnection)
    (same : Open c ↔ Open (s.objects id)) :
    ∀ other < s.created, s.destroyed.count other = 0 ↔ Open (setObject s.objects id c other) := by
  intro other created
  by_cases here : other = id
  · subst here
    rw [sound.opened other created, ← same]
    simp [setObject]
  · rw [sound.opened other created]
    simp [setObject, here]

/-- A change of a connection that leaves its state equally open keeps the
account. -/
theorem sound_set (sound : Sound valid s) (id : Nat) (c : TcpConnection)
    (same : Open c ↔ Open (s.objects id)) :
    Sound valid { s with objects := setObject s.objects id c } :=
  ⟨sound.ownerValid, sound.once, sound.balanced, sound.held, sound.known,
    opened_set sound id c same, sound.inTurn⟩

/-- A move of the loop that neither queues, runs nor closes anything keeps the
account. -/
theorem sound_move (sound : Sound valid s) (phase : Phase) (batch : phase.batch = s.phase.batch)
    (removed : phase.removed = s.phase.removed) (inTurn : InTurn { s with phase := phase }) :
    Sound valid { s with phase := phase } where
  ownerValid := sound.ownerValid
  once := sound.once
  balanced := by
    simp only [batch, removed]
    exact sound.balanced
  held := by
    simp only [removed]
    exact sound.held
  known := sound.known
  opened := sound.opened
  inTurn := inTurn

/-- A poll begins to dispatch while no destruction is queued. -/
theorem poll_sound (sound : Sound valid s) (active : List Nat) (t : System O)
    (taken : step s (.poll active) = .ok t) : Sound valid t := by
  cases stepped taken with
  | poll _ polling distinct created =>
    have empty : s.pending = [] := by
      have inTurn := sound.inTurn
      simpa only [InTurn, polling] using inTurn
    refine sound_move sound _ (by rw [polling]; rfl) (by rw [polling]; rfl) ?_
    exact ⟨distinct, created, by simp [empty]⟩

/-- A dispatch begins with the callbacks of its mask. -/
theorem dispatch_sound (sound : Sound valid s) (revents : EventMask) (t : System O)
    (taken : step s (.dispatch revents) = .ok t) : Sound valid t := by
  cases stepped taken with
  | dispatch id active _ dispatching =>
    have inTurn := sound.inTurn
    simp only [InTurn, dispatching] at inTurn
    obtain ⟨distinct, created, queued⟩ := inTurn
    refine sound_move sound _ (by rw [dispatching]; rfl) (by rw [dispatching]; rfl) ?_
    refine ⟨distinct, created, ?_, ?_, List.suffix_refl _⟩
    · exact fun other member later => queued other member (List.mem_cons_of_mem _ later)
    · exact fun member => absurd List.mem_cons_self (queued id member)

/-- A dispatch ends when its callbacks are done. -/
theorem finishEvent_sound (sound : Sound valid s) (t : System O)
    (taken : step s .finishEvent = .ok t) : Sound valid t := by
  cases stepped taken with
  | finishEvent id revents active handling =>
    have inTurn := sound.inTurn
    simp only [InTurn, handling] at inTurn
    obtain ⟨distinct, created, queued, _, _⟩ := inTurn
    refine sound_move sound _ (by rw [handling]; rfl) (by rw [handling]; rfl) ?_
    exact ⟨(List.nodup_cons.mp distinct).2,
      fun other member => created other (List.mem_cons_of_mem _ member), queued⟩

/-- A batch ends when its destructions are done. -/
theorem finishFunctors_sound (sound : Sound valid s) (t : System O)
    (taken : step s .finishFunctors = .ok t) : Sound valid t := by
  cases stepped taken with
  | finishFunctors running =>
    have inTurn := sound.inTurn
    simp only [InTurn, running] at inTurn
    exact sound_move sound _ (by rw [running]; rfl) (by rw [running]; rfl) inTurn

/-- A swap turns the queued destructions into the batch. -/
theorem swap_sound (sound : Sound valid s) (t : System O)
    (taken : step s .swap = .ok t) : Sound valid t := by
  cases stepped taken with
  | swap dispatching =>
    have balanced := sound.balanced
    have held := sound.held
    rw [dispatching] at balanced held
    refine ⟨sound.ownerValid, sound.once, ?_, held, sound.known, sound.opened, rfl⟩
    intro id
    rw [balanced id]
    simp [Phase.batch, Phase.removed]

/-- A destruction that runs finds its connection open, and it is the only one.

Proof: a queued destruction accounts for the connection's one close callback, so
none was executed before, and an undestroyed connection is open. -/
theorem running_open (sound : Sound valid s) {id : Nat} {rest : List Nat}
    (running : s.phase = .running (id :: rest)) : Open (s.objects id) := by
  have balanced := sound.balanced id
  have once := sound.once id
  rw [running] at balanced
  simp only [Phase.batch, List.cons_append, List.count_cons_self] at balanced
  have member : id ∈ s.closed := by
    apply List.count_pos_iff.mp
    omega
  exact (sound.opened id (sound.known id member)).mp (by omega)

/-- A destruction is executed once for its close callback, and the connection is open no
more. -/
theorem runFunctor_sound (sound : Sound valid s) (t : System O)
    (taken : step s .runFunctor = .ok t) : Sound valid t := by
  cases stepped taken with
  | runFunctor id rest c effects running destroyed =>
    obtain ⟨_, result⟩ := (connectDestoryed_ok _ _).mp destroyed
    have gone : ¬ Open c := by
      obtain ⟨rfl, _⟩ := Prod.mk.inj result
      simp [Open]
    have balanced := sound.balanced
    have held := sound.held
    have inTurn := sound.inTurn
    simp only [InTurn, running] at inTurn
    rw [running] at balanced held
    refine ⟨sound.ownerValid, sound.once, ?_, held, sound.known, ?_, inTurn⟩
    · intro other
      rw [balanced other]
      simp only [Phase.batch, Phase.removed, List.cons_append, List.count_append, List.count_cons,
        List.count_nil]
      omega
    · intro other created
      by_cases here : other = id
      · subst here
        simp [setObject, gone]
      · simp only [setObject, here, if_false, List.count_append,
          List.count_singleton, beq_iff_eq, Ne.symm here, Nat.add_zero]
        exact sound.opened other created

/-- The end of file a read callback may not see is exactly what the condition on
the step excludes. -/
theorem noEof_of_guard {id : Nat} {revents : EventMask} {callback : Callback}
    {callbacks : List Callback} {active : List Nat} {read : ReadvResult} {write : WriteResult}
    (handling : s.phase = .handling id revents (callback :: callbacks) active)
    (guard : noEofAfterHangup s (.callback read write)) :
    callback = .read → hangup revents = true → read ≠ .received [] := by
  intro reading hungUp
  subst reading
  simpa [noEofAfterHangup, readsEofAfterHangup, handling, hungUp] using guard

/-- A close callback is the connection's first.

Proof: a queued destruction would have left a quiet rest of this dispatch, so
none is queued, and none was executed since the connection is open. -/
theorem first_close (sound : Sound valid s) {id : Nat} {revents : EventMask} {callback : Callback}
    {callbacks : List Callback} {active : List Nat} {read : ReadvResult}
    (handling : s.phase = .handling id revents (callback :: callbacks) active)
    (noEof : callback = .read → hangup revents = true → read ≠ .received [])
    (reached : closes callback read) (isOpen : Open (s.objects id)) : s.closed.count id = 0 := by
  have inTurn := sound.inTurn
  have balanced := sound.balanced id
  simp only [InTurn, handling] at inTurn
  obtain ⟨_, created, _, quiet, _⟩ := inTurn
  have undestroyed := (sound.opened id (created id List.mem_cons_self)).mpr isOpen
  have unqueued : id ∉ s.pending :=
    fun member => quiet_not_closes (quiet member) noEof reached
  have none : s.pending.count id = 0 := List.count_eq_zero.mpr unqueued
  rw [handling] at balanced
  simpa [Phase.batch, Phase.removed, undestroyed, none] using balanced

/-- A callback closes its connection at most once, for nothing of the dispatch closes it
again. -/
theorem callback_sound (sound : Sound valid s) (read : ReadvResult) (write : WriteResult)
    (t : System O) (guard : noEofAfterHangup s (.callback read write))
    (taken : step s (.callback read write) = .ok t) : Sound valid t := by
  cases stepped taken with
  | closing id revents callback callbacks active _ _ c effects handling handled invoked =>
    obtain ⟨same, closing, isOpen⟩ := handle_state handled
    have reached := closing.mp invoked
    have noEof := noEof_of_guard handling guard
    have first := first_close sound handling noEof reached (isOpen invoked)
    have inTurn := sound.inTurn
    simp only [InTurn, handling] at inTurn
    obtain ⟨distinct, created, queued, _, suffix⟩ := inTurn
    have balanced := sound.balanced
    have held := sound.held
    rw [handling] at balanced held
    refine ⟨sound.ownerValid, ?_, ?_, ?_, ?_,
      opened_set sound id c (by rw [Open, Open, same]), ?_⟩
    · intro other
      have once := sound.once other
      by_cases here : other = id
      · subst here
        simp [first]
      · simpa [List.count_singleton, Ne.symm here] using once
    · intro other
      have before := balanced other
      simp only [Phase.batch, Phase.removed, List.count_append, List.count_nil] at before ⊢
      omega
    · intro other
      rw [held other]
      simp [Phase.removed]
    · intro other member
      rcases List.mem_append.mp member with earlier | now
      · exact sound.known other earlier
      · rw [List.mem_singleton.mp now]
        exact created id List.mem_cons_self
    · exact ⟨distinct, created, queued, quiet_after_close suffix reached,
        (List.suffix_cons _ _).trans suffix⟩
  | callback id revents callback callbacks active _ _ c effects handling handled =>
    have same := (handle_state handled).1
    have inTurn := sound.inTurn
    simp only [InTurn, handling] at inTurn
    obtain ⟨distinct, created, queued, quiet, suffix⟩ := inTurn
    have balanced := sound.balanced
    have held := sound.held
    rw [handling] at balanced held
    refine ⟨sound.ownerValid, sound.once, balanced, held, sound.known,
      opened_set sound id c (by rw [Open, Open, same]), ?_⟩
    exact ⟨distinct, created, queued, fun member => quiet_tail (quiet member),
      (List.suffix_cons _ _).trans suffix⟩

/-- The removal takes the connection from its owner and queues the one destruction. -/
theorem remove_sound (lawful : Lawful O valid) (sound : Sound valid s) (choice : O.Choice)
    (t : System O) (taken : step s (.remove choice) = .ok t) : Sound valid t := by
  cases stepped taken with
  | remove id revents callbacks active _ owner removing removed =>
    obtain ⟨kept, holds⟩ := lawful.remove_kept s.owner id choice owner sound.ownerValid removed
    have inTurn := sound.inTurn
    simp only [InTurn, removing] at inTurn
    obtain ⟨distinct, created, queued, quiet, rest⟩ := inTurn
    have balanced := sound.balanced
    have held := sound.held
    rw [removing] at balanced held
    refine ⟨kept, sound.once, ?_, ?_, sound.known, sound.opened, ?_⟩
    · intro other
      have before := balanced other
      simp only [Phase.batch, Phase.removed, List.nil_append, List.count_append,
        List.count_nil] at before ⊢
      omega
    · intro other
      rw [holds other, held other]
      by_cases here : other = id
      · subst here
        have before := balanced other
        simp only [Phase.removed, List.count_singleton_self] at before
        simp only [Phase.removed, List.count_nil]
        constructor
        · exact fun both => absurd rfl both.2
        · intro both
          omega
      · simp [Phase.removed, here, Ne.symm here]
    · refine ⟨distinct, created, ?_, fun _ => quiet, rest⟩
      intro other member
      rcases List.mem_append.mp member with earlier | now
      · exact queued other earlier
      · rw [List.mem_singleton.mp now]
        exact (List.nodup_cons.mp distinct).1

/-- The exchange of `shutdown` keeps a connection open or not open. -/
theorem exchangeState_open (c : TcpConnection) : Open (exchangeState c) ↔ Open c := by
  unfold exchangeState
  split
  · rename_i connected
    simp [Open, connected]
  · exact Iff.rfl

/-- A shutdown changes no more than that. -/
theorem shutdown_sound (sound : Sound valid s) (id : Nat) (t : System O)
    (taken : step s (.shutdown id) = .ok t) : Sound valid t := by
  cases stepped taken with
  | shutdown _ created => exact sound_set sound id _ (exchangeState_open _)

/-- A send keeps the state of its connection. -/
theorem send_sound (sound : Sound valid s) (id : Nat) (message : StringView) (result : WriteResult)
    (t : System O) (taken : step s (.send id message result) = .ok t) : Sound valid t := by
  cases stepped taken with
  | send _ _ _ c effects created sent =>
    have same := (sendInLoop_state sent).1
    exact sound_set sound id c (by rw [Open, Open, same])

/-- A new connection has the number no other has, so nothing is on record for it. -/
theorem new_unrecorded (sound : Sound valid s) :
    s.closed.count s.created = 0 ∧ s.destroyed.count s.created = 0 := by
  have unknown : s.closed.count s.created = 0 :=
    List.count_eq_zero.mpr fun member => Nat.lt_irrefl _ (sound.known _ member)
  have balanced := sound.balanced s.created
  exact ⟨unknown, by omega⟩

/-- The turn of the loop goes on when there are more connections. -/
theorem inTurn_grows (s t : System O) (phase : t.phase = s.phase) (pending : t.pending = s.pending)
    (created : s.created ≤ t.created) (inTurn : InTurn s) : InTurn t := by
  unfold InTurn at inTurn ⊢
  rw [phase, pending]
  split at inTurn
  case h_1 => exact inTurn
  case h_2 =>
    exact ⟨inTurn.1, fun id member => Nat.lt_of_lt_of_le (inTurn.2.1 id member) created, inTurn.2.2⟩
  case h_3 =>
    exact ⟨inTurn.1, fun id member => Nat.lt_of_lt_of_le (inTurn.2.1 id member) created, inTurn.2.2⟩
  case h_4 =>
    exact ⟨inTurn.1, fun id member => Nat.lt_of_lt_of_le (inTurn.2.1 id member) created, inTurn.2.2⟩
  case h_5 => exact inTurn

/-- A step of a lawful owner enrolls a new connection that is open, or leaves all as
they are. -/
theorem owner_sound (lawful : Lawful O valid) (sound : Sound valid s) (label : O.Label)
    (t : System O) (taken : step s (.owner label) = .ok t) : Sound valid t := by
  cases stepped taken with
  | acted _ owner acted =>
    obtain ⟨kept, holds⟩ := lawful.act_kept s.owner label owner none sound.ownerValid acted
    refine ⟨kept, sound.once, sound.balanced, ?_, sound.known, sound.opened, sound.inTurn⟩
    intro id
    rw [← sound.held id]
    exact holds id
  | established _ owner sockFd writeCompleteCallback c effects acted room established =>
    obtain ⟨unclosed, undestroyed⟩ := new_unrecorded sound
    have fresh : ¬ O.holds s.owner s.created := by
      rw [sound.held]
      exact fun both => Nat.lt_irrefl _ both.1
    obtain ⟨enrolled, members⟩ :=
      lawful.enroll_kept s.owner label owner _ s.created sound.ownerValid acted fresh
    have isOpen : Open c := by
      obtain ⟨_, result⟩ := (connectEstablished_ok _ _).mp established
      obtain ⟨rfl, _⟩ := Prod.mk.inj result
      exact Or.inl rfl
    refine ⟨enrolled, sound.once, sound.balanced, ?_, ?_, ?_, ?_⟩
    · intro other
      rw [members other, sound.held other]
      by_cases here : other = s.created
      · subst here
        have balanced := sound.balanced s.created
        simp only [true_or, Nat.lt_succ_self, true_and, true_iff]
        omega
      · simp only [here, false_or]
        have bound : other < s.created + 1 ↔ other < s.created := by omega
        rw [bound]
    · exact fun other member => Nat.lt_succ_of_lt (sound.known other member)
    · intro other below
      by_cases here : other = s.created
      · subst here
        simp [setObject, isOpen, undestroyed]
      · simp only [setObject, here, if_false]
        exact sound.opened other (Nat.lt_of_le_of_ne (Nat.le_of_lt_succ below) here)
    · exact inTurn_grows s _ rfl rfl (Nat.le_succ _) sound.inTurn

/-- Every step that meets the condition on hang-ups keeps the account. -/
theorem step_sound (lawful : Lawful O valid) (label : Label O) (t : System O)
    (sound : Sound valid s) (guard : noEofAfterHangup s label) (taken : step s label = .ok t) :
    Sound valid t := by
  cases label with
  | poll active => exact poll_sound sound active t taken
  | dispatch revents => exact dispatch_sound sound revents t taken
  | callback read write => exact callback_sound sound read write t guard taken
  | remove choice => exact remove_sound lawful sound choice t taken
  | finishEvent => exact finishEvent_sound sound t taken
  | swap => exact swap_sound sound t taken
  | runFunctor => exact runFunctor_sound sound t taken
  | finishFunctors => exact finishFunctors_sound sound t taken
  | shutdown id => exact shutdown_sound sound id t taken
  | send id message result => exact send_sound sound id message result t taken
  | owner label => exact owner_sound lawful sound label t taken

/-- In every run that meets the condition at each step the account of close
callbacks and destructions is kept. -/
theorem run_sound (lawful : Lawful O valid) (labels : List (Label O)) (t : System O)
    (guarded : Runs.Along step noEofAfterHangup (initial O) labels)
    (reached : Runs.run step (initial O) labels = .ok t) : Sound valid t :=
  Runs.guarded_invariant step noEofAfterHangup (Sound valid)
    (fun _ label next sound guard taken => step_sound lawful label next sound guard taken)
    labels (initial O) t (initial_sound lawful) guarded reached

/-- In a kept account the owner holds what was created and not closed to the end. -/
theorem holds_open (sound : Sound valid s) (id : Nat) :
    O.holds s.owner id ↔ id < s.created ∧ ¬ (id ∈ s.closed ∧ id ∉ s.phase.removed) := by
  have once := sound.once id
  have balanced := sound.balanced id
  rw [sound.held id]
  refine and_congr_right fun _ => ?_
  by_cases removed : id ∈ s.phase.removed
  · have positive := List.count_pos_iff.mpr removed
    simp only [removed, not_true_eq_false, and_false, not_false_eq_true, iff_true]
    omega
  · have none := List.count_eq_zero.mpr removed
    simp only [removed, not_false_eq_true, and_true, none]
    exact List.count_eq_zero

/-- A connection that is not destroyed is held by its owner, or its destruction is
queued or in the batch.

Proof: the account of an undestroyed connection leaves its close callback, if
there was one, to a queued destruction or to the removal in progress. -/
theorem undestroyed_owned (sound : Sound valid s) {id : Nat} (created : id < s.created)
    (alive : id ∉ s.destroyed) :
    O.holds s.owner id ∨ id ∈ s.pending ∨ id ∈ s.phase.batch := by
  have balanced := sound.balanced id
  rw [List.count_eq_zero.mpr alive, List.count_append] at balanced
  by_cases queued : id ∈ s.pending
  · exact Or.inr (Or.inl queued)
  · by_cases inBatch : id ∈ s.phase.batch
    · exact Or.inr (Or.inr inBatch)
    · rw [List.count_eq_zero.mpr queued, List.count_eq_zero.mpr inBatch] at balanced
      refine Or.inl ((sound.held id).mpr ⟨created, ?_⟩)
      omega

end ReactorNetwork.ConnectionLife
