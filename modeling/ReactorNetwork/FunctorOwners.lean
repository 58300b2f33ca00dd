import ReactorNetwork.QueuedCalls

/-!
# Owners of the connections that queued functors use

The functors of `send` and the write-complete functors capture a raw `this`. A
connection is owned by `connections_` until its close is handled, then by its
queued `connect_destoryed`, and by the batch that calls it until the whole batch
is done. A functor with a raw `this` that is called no later than in that batch
finds an owner. One queued by the batch itself, or later, is called after it, and
then only a pointer that user code still holds keeps the connection.

The law is exact for every run: no such functor finds its connection gone exactly
when user code holds a pointer to the connection each time one is called after
the batch of the connection's destruction.
-/

namespace ReactorNetwork.QueuedCalls

open TcpConnection ConnectionLife TcpServer

variable {name : List Char}

section Placement

/-- Every connection is in one place: in the map, queued for destruction, in the
batch, or destroyed. -/
structure Placed (s : System (server name)) : Prop where
  wellNamed : WellNamed name s.owner
  known : Known s
  heldKnown : ∀ id, (server name).holds s.owner id → id < s.created
  once : ∀ id < s.created, s.pending.count id + s.phase.batch.count id + s.destroyed.count id +
    (if (server name).holds s.owner id then 1 else 0) = 1

/-- Before the first connection every place is empty. -/
theorem initial_placed (name : List Char) : Placed (ConnectionLife.initial (server name)) where
  wellNamed := (server_lawful name).initial_valid
  known := initial_known
  heldKnown := fun id held => absurd held ((server_lawful name).initial_empty id)
  once := by
    intro id created
    cases created

/-- What counts of a connection's place when the owner's part stays. -/
theorem once_moved {s t : System (server name)} (placed : Placed s) (owner : t.owner = s.owner)
    (created : t.created = s.created)
    (moved : ∀ id, t.pending.count id + t.phase.batch.count id + t.destroyed.count id =
      s.pending.count id + s.phase.batch.count id + s.destroyed.count id) (known : Known t) :
    Placed t := by
  refine ⟨owner ▸ placed.wellNamed, known, ?_, ?_⟩
  · rw [owner, created]
    exact placed.heldKnown
  · intro id below
    rw [moved id, owner]
    exact placed.once id (created ▸ below)

/-- A removal that passes its assertion takes the connection out of the map. -/
theorem removed_held {connections rest : ConnectionMap} (wellNamed : WellNamed name connections)
    {id : Nat} (removed : removeConnectionInLoop name connections id = .ok rest) :
    (server name).holds connections id := by
  obtain ⟨present, _⟩ := (removeConnectionInLoop_ok _ _ _ _).mp removed
  obtain ⟨other, found⟩ := Option.isSome_iff_exists.mp (AList.lookup_isSome.mpr present)
  have same := connName_injective name (wellNamed _ other found)
  rw [← same] at found
  exact found

/-- Every step leaves every connection in one place.

Proof: a removal moves a connection from the map to the queue, a swap from the
queue to the batch, a destruction from the batch to the destroyed ones. A new one
enters the map and was nowhere before. -/
theorem step_placed {s t : System (server name)} {label : ConnectionLife.Label (server name)}
    (placed : Placed s) (taken : ConnectionLife.step s label = .ok t) : Placed t := by
  have known := step_known placed.known taken
  have once := placed.once
  cases stepped taken
  case remove id revents callbacks active choice owner removing removed =>
    have held := removed_held placed.wellNamed removed
    obtain ⟨kept, holds⟩ :=
      (server_lawful name).remove_kept s.owner id choice owner placed.wellNamed removed
    refine ⟨kept, known, fun other inside => placed.heldKnown other ((holds other).mp inside).1, ?_⟩
    intro other created
    have before := once other created
    rw [removing] at before
    simp only [holds other, List.count_append, Phase.batch, List.count_nil] at before ⊢
    by_cases here : other = id
    · subst here
      simp_all
    · simpa [List.count_singleton, here, Ne.symm here] using before
  case swap dispatching =>
    refine once_moved placed rfl rfl ?_ known
    intro id
    simp [dispatching, Phase.batch]
  case runFunctor id rest c effects running _ =>
    refine once_moved placed rfl rfl ?_ known
    intro other
    simp only [running, Phase.batch, List.count_append, List.count_cons, List.count_nil]
    omega
  case acted label owner acted =>
    cases acted
  case established label owner sockFd writeCompleteCallback c effects acted _ _ =>
    have absent : ¬ (server name).holds s.owner s.created :=
      fun held => absurd (placed.heldKnown _ held) (Nat.lt_irrefl _)
    obtain ⟨kept, holds⟩ :=
      (server_lawful name).enroll_kept s.owner label owner _ s.created placed.wellNamed acted absent
    refine ⟨kept, known, ?_, ?_⟩
    · intro other inside
      rcases (holds other).mp inside with rfl | before
      · exact Nat.lt_succ_self _
      · exact Nat.lt_succ_of_lt (placed.heldKnown other before)
    · intro other created
      by_cases here : other = s.created
      · subst here
        have pending : s.created ∉ s.pending :=
          fun member => absurd (placed.known _ (Or.inr (Or.inl member))) (Nat.lt_irrefl _)
        have batch : s.created ∉ s.phase.batch :=
          fun member => absurd (placed.known _ (Or.inr (Or.inr (Or.inl member)))) (Nat.lt_irrefl _)
        simp [holds, List.count_eq_zero.mpr pending, List.count_eq_zero.mpr batch,
          List.count_eq_zero.mpr (fresh_undestroyed placed.known)]
      · have below : other < s.created :=
          Nat.lt_of_le_of_ne (Nat.lt_succ_iff.mp created) here
        have before := once other below
        simpa [holds other, here] using before
  all_goals
    refine once_moved placed rfl rfl ?_ known
    intro other
    simp_all [Phase.batch]

end Placement

section Links

variable {s t : System (server name)} {label : ConnectionLife.Label (server name)}

/-- The destructions in two parts of a queue. -/
theorem destructions_append (earlier later : List Functor) :
    destructions (earlier ++ later) = destructions earlier ++ destructions later :=
  List.flatMap_append

/-- Notifications are write-complete functors of the connections with effects. -/
theorem notifications {effects : List (Nat × Effect)} {functor : Functor}
    (member : functor ∈ effects.filterMap notification) :
    ∃ id effect, (id, effect) ∈ effects ∧ functor = .writeComplete id := by
  obtain ⟨⟨id, effect⟩, inside, told⟩ := List.mem_filterMap.mp member
  refine ⟨id, effect, inside, ?_⟩
  cases effect <;> simp_all [notification]

/-- A notification is no destruction. -/
theorem destructions_notifications (effects : List (Nat × Effect)) :
    destructions (effects.filterMap notification) = [] := by
  refine List.flatMap_eq_nil_iff.mpr ?_
  intro functor member
  obtain ⟨id, _, _, rfl⟩ := notifications member
  rfl

/-- A step other than a swap queues the destructions of its functors. -/
theorem pending_queued (taken : ConnectionLife.step s label = .ok t) (noSwap : label ≠ .swap) :
    t.pending = s.pending ++ destructions (queuedBy s label) := by
  rw [queuedBy, destructions_append, destructions_notifications]
  cases stepped taken
  case swap => exact absurd rfl noSwap
  case remove removing _ => simp [removal, removing, destructions, Functor.destroyed]
  all_goals simp [removal, destructions]

/-- The effects of a step are those of a connection the loop knows. -/
theorem effects_known (known : Known s) (taken : ConnectionLife.step s label = .ok t) {id : Nat}
    {effect : Effect} (member : (id, effect) ∈ effectsOf s label) : id < t.created := by
  cases stepped taken
  case closing handling handled _ =>
    rw [effectsOf_callback handling handled] at member
    obtain ⟨_, _, same⟩ := List.mem_map.mp member
    rw [← (Prod.mk.inj same).1]
    exact known _ (Or.inl (by simp [handling, Phase.dispatched]))
  case callback handling handled _ =>
    rw [effectsOf_callback handling handled] at member
    obtain ⟨_, _, same⟩ := List.mem_map.mp member
    rw [← (Prod.mk.inj same).1]
    exact known _ (Or.inl (by simp [handling, Phase.dispatched]))
  case runFunctor gone rest c effects running destroyed =>
    have whose : id = gone := by
      rw [effectsOf_runFunctor running destroyed] at member
      simp only [List.mem_cons, Prod.mk.injEq, List.not_mem_nil, or_false] at member
      rcases member with ⟨same, _⟩ | ⟨same, _⟩ | ⟨same, _⟩ <;> exact same
    rw [whose]
    exact known _ (Or.inr (Or.inr (Or.inl (by simp [running, Phase.batch]))))
  case send created sent =>
    rw [effectsOf_send sent] at member
    obtain ⟨_, _, same⟩ := List.mem_map.mp member
    rw [← (Prod.mk.inj same).1]
    exact created
  case acted acted => simp [effectsOf_acted acted] at member
  case established acted _ established =>
    rw [effectsOf_established acted established] at member
    simp only [List.mem_cons, Prod.mk.injEq, List.not_mem_nil, or_false] at member
    rcases member with ⟨rfl, _⟩ | ⟨rfl, _⟩
    · exact Nat.lt_succ_self _
    · exact Nat.lt_succ_self _
  all_goals cases member

/-- Functors that a step queues use connections the loop knows. -/
theorem queued_real (known : Known s) (taken : ConnectionLife.step s label = .ok t) :
    ∀ functor ∈ queuedBy s label, ∀ id ∈ functor.captured ++ functor.raw, id < t.created := by
  intro functor member id used
  rcases List.mem_append.mp member with notified | removed
  · obtain ⟨other, effect, inside, rfl⟩ := notifications notified
    rw [show id = other by simpa [Functor.captured, Functor.raw] using used]
    exact effects_known known taken inside
  · cases label
    case remove choice =>
      simp only [removal] at removed
      split at removed
      · rw [List.mem_singleton.mp removed] at used
        cases used
      · cases removed
    all_goals cases removed

/-- Only swapping and running functors change the batch. -/
theorem batch_kept (taken : ConnectionLife.step s label = .ok t) (noSwap : label ≠ .swap)
    (noRun : label ≠ .runFunctor) (noFinish : label ≠ .finishFunctors) :
    t.phase.batch = s.phase.batch := by
  cases stepped taken
  case swap => exact absurd rfl noSwap
  case runFunctor => exact absurd rfl noRun
  case finishFunctors => exact absurd rfl noFinish
  all_goals simp_all [Phase.batch]

/-- Only a functor of the batch destroys a connection. -/
theorem destroyed_kept (taken : ConnectionLife.step s label = .ok t) (noRun : label ≠ .runFunctor) :
    t.destroyed = s.destroyed := by
  cases stepped taken
  case runFunctor => exact absurd rfl noRun
  all_goals rfl

/-- No step takes a connection back. -/
theorem created_grows (taken : ConnectionLife.step s label = .ok t) : s.created ≤ t.created := by
  cases stepped taken
  case established => exact Nat.le_succ _
  all_goals exact Nat.le_refl _

end Links

/-- The loop's own account of destructions is that of the functors, every functor
and pointer is of a connection that was created, and the batch keeps the
destructions it has executed. -/
structure Accounted (s : State name) : Prop where
  placed : Placed s.life.system
  pending : destructions s.pending = s.life.system.pending
  batch : destructions s.rest = s.life.system.phase.batch
  called : ∀ id ∈ destructions s.called, id ∈ s.life.system.destroyed
  functors : ∀ functor ∈ s.functors, ∀ id ∈ functor.captured ++ functor.raw,
    id < s.life.system.created
  held : ∀ id ∈ s.held, id < s.life.system.created
  calls : ∀ call ∈ s.calls, call.1 < s.life.system.created

variable {s t : State name}

/-- Before the first connection nothing is queued or held. -/
theorem initial_accounted (name : List Char) : Accounted (initial name) where
  placed := initial_placed name
  pending := rfl
  batch := rfl
  called := by
    intro id member
    cases member
  functors := by
    intro functor member
    cases member
  held := by
    intro id member
    cases member
  calls := by
    intro call member
    cases member

/-- The destructions among all functors are queued, in the batch or executed. -/
theorem destructions_functors (accounted : Accounted s) (id : Nat) :
    id ∈ destructions s.functors ↔ id ∈ destructions s.called ∨
      id ∈ s.life.system.phase.batch ∨ id ∈ s.life.system.pending := by
  unfold State.functors
  rw [destructions_append, destructions_append, accounted.pending, accounted.batch,
    List.mem_append, List.mem_append, or_assoc]

/-- Only connections that were created are owned. -/
theorem owned_created (accounted : Accounted s) {id : Nat} (owned : Owned s id) :
    id < s.life.system.created := by
  have known := accounted.placed.known id
  rcases owned with inMap | queued | pointer | call | functor
  · exact accounted.placed.heldKnown id inMap
  · rcases (destructions_functors accounted id).mp queued with executed | batch | pending
    · exact known (by simp [accounted.called id executed])
    · exact known (by simp [batch])
    · exact known (by simp [pending])
  · exact accounted.held id pointer
  · obtain ⟨entry, member, rfl⟩ := List.mem_map.mp call
    exact accounted.calls entry member
  · obtain ⟨functor, member, inside⟩ := List.mem_flatMap.mp functor
    exact accounted.functors functor member id (List.mem_append.mpr (Or.inl inside))

/-- A step of the loop that neither swaps nor runs functors keeps the account. -/
theorem advance_accounted {label : ConnectionLife.Label (server name)} (accounted : Accounted s)
    (taken : s.advance label = .ok t) (noSwap : label ≠ .swap) (noRun : label ≠ .runFunctor)
    (noFinish : label ≠ .finishFunctors) : Accounted t := by
  obtain ⟨life, performed, rfl⟩ := advance_ok taken
  obtain ⟨system, stepping, rfl⟩ := perform_ok performed
  have grows := created_grows stepping
  have queued := queued_real accounted.placed.known stepping
  refine ⟨step_placed accounted.placed stepping, ?_, ?_, ?_, ?_, ?_, ?_⟩
  · simp only [destructions_append, accounted.pending]
    exact (pending_queued stepping noSwap).symm
  · simp only [accounted.batch]
    exact (batch_kept stepping noSwap noRun noFinish).symm
  · simp only [destroyed_kept stepping noRun]
    exact accounted.called
  · intro functor member id used
    simp only [State.functors, ← List.append_assoc] at member
    rcases List.mem_append.mp member with before | now
    · exact Nat.lt_of_lt_of_le (accounted.functors functor before id used) grows
    · exact queued functor now id used
  · exact fun id member => Nat.lt_of_lt_of_le (accounted.held id member) grows
  · exact fun call member => Nat.lt_of_lt_of_le (accounted.calls call member) grows

/-- Calling a functor that is not a destruction keeps the account. -/
theorem calling_accounted {functor : Functor} {rest : List Functor} (accounted : Accounted s)
    (next : s.rest = functor :: rest) (other : functor.destroyed = []) :
    Accounted { s with called := s.called ++ [functor], rest := rest } where
  placed := accounted.placed
  pending := accounted.pending
  batch := by
    have batch := accounted.batch
    rw [next] at batch
    simpa [destructions, other] using batch
  called := by
    intro id member
    apply accounted.called id
    simpa [destructions, other] using member
  functors := by
    have functors := accounted.functors
    simpa [State.functors, next] using functors
  held := accounted.held
  calls := accounted.calls

/-- A called destruction is the next of the loop's batch. -/
theorem destroy_accounted {id : Nat} {rest : List Functor} {result : WriteResult}
    (accounted : Accounted s) (next : s.rest = .destroy id :: rest)
    (taken : callStep s (.destroy id) rest result = .ok t) : Accounted t := by
  obtain ⟨life, performed, rfl⟩ := advance_ok taken
  obtain ⟨system, stepping, rfl⟩ := perform_ok performed
  have placed := step_placed accounted.placed stepping
  have queued := pending_queued stepping (by simp)
  have grown := queued_real accounted.placed.known stepping
  cases stepped stepping
  case runFunctor gone remaining c effects running destroyed =>
    have batch := accounted.batch
    have functors := accounted.functors
    rw [running, next] at batch
    obtain ⟨rfl, linked⟩ := List.cons.inj batch
    refine ⟨placed, ?_, linked, ?_, ?_, accounted.held, accounted.calls⟩
    · simp only [destructions_append, accounted.pending]
      exact queued.symm
    · intro other member
      simp only [destructions_append, List.mem_append] at member ⊢
      rcases member with before | now
      · exact Or.inl (accounted.called other before)
      · exact Or.inr now
    · intro functor member other used
      have split : functor ∈ s.functors ∨ functor ∈ queuedBy s.life.system .runFunctor := by
        simp only [State.functors, next, List.mem_append, List.mem_cons, List.not_mem_nil,
          or_false] at member ⊢
        tauto
      rcases split with before | now
      · exact functors functor before other used
      · exact grown functor now other used

/-- A functor that runs keeps the account. -/
theorem callStep_accounted {functor : Functor} {rest : List Functor} {result : WriteResult}
    (accounted : Accounted s) (next : s.rest = functor :: rest)
    (taken : callStep s functor rest result = .ok t) : Accounted t := by
  cases functor with
  | destroy id => exact destroy_accounted accounted next taken
  | shared ids =>
    obtain rfl := Except.ok.inj taken
    exact calling_accounted accounted next rfl
  | sendInLoop id message =>
    simp only [callStep] at taken
    split at taken
    case isFalse => cases taken
    case isTrue =>
      exact advance_accounted (calling_accounted accounted next rfl) taken (by simp) (by simp)
        (by simp)
  | writeComplete id =>
    simp only [callStep] at taken
    split at taken
    case isFalse => cases taken
    case isTrue =>
      obtain rfl := Except.ok.inj taken
      exact calling_accounted accounted next rfl

/-- So does a step of the loop. -/
theorem loopStep_accounted {label : ConnectionLife.Label (server name)} (accounted : Accounted s)
    (taken : loopStep s label = .ok t) : Accounted t := by
  cases label
  case poll active =>
    simp only [loopStep] at taken
    split at taken
    case isFalse => cases taken
    case isTrue => exact advance_accounted accounted taken (by simp) (by simp) (by simp)
  case send id message result =>
    simp only [loopStep] at taken
    split at taken
    case isFalse => cases taken
    case isTrue =>
      split at taken
      case isFalse =>
        obtain rfl := Except.ok.inj taken
        exact accounted
      case isTrue => exact advance_accounted accounted taken (by simp) (by simp) (by simp)
  case shutdown id =>
    simp only [loopStep] at taken
    split at taken
    case isFalse => cases taken
    case isTrue => exact advance_accounted accounted taken (by simp) (by simp) (by simp)
  case swap | runFunctor | finishFunctors => cases taken
  all_goals exact advance_accounted accounted taken (by simp) (by simp) (by simp)

/-- A functor queued by user code or by another thread destroys nothing and is of
a connection that was created. -/
theorem pushed_accounted (functor : Functor) (accounted : Accounted s)
    (other : functor.destroyed = [])
    (real : ∀ id ∈ functor.captured ++ functor.raw, id < s.life.system.created) :
    Accounted { s with pending := s.pending ++ [functor] } where
  placed := accounted.placed
  pending := by
    rw [destructions_append, accounted.pending]
    simp [destructions, other]
  batch := accounted.batch
  called := accounted.called
  functors := by
    intro candidate member
    simp only [State.functors, ← List.append_assoc] at member
    rcases List.mem_append.mp member with before | now
    · exact accounted.functors candidate before
    · rw [List.mem_singleton.mp now]
      exact real
  held := accounted.held
  calls := accounted.calls

/-- A swap turns the queued functors into the batch. -/
theorem swap_accounted (accounted : Accounted s) (taken : step s .swap = .ok t) :
    Accounted t := by
  obtain ⟨swapped, advanced, same⟩ := (bind_ok _ _ _).mp taken
  obtain rfl := (pure_ok _ _).mp same
  obtain ⟨life, performed, rfl⟩ := advance_ok advanced
  obtain ⟨system, stepping, rfl⟩ := perform_ok performed
  have placed := step_placed accounted.placed stepping
  have functors := accounted.functors
  cases stepped stepping with
  | swap =>
    refine ⟨placed, rfl, accounted.pending, ?_, ?_, accounted.held, accounted.calls⟩
    · intro id member
      cases member
    · intro functor member
      apply functors functor
      simp only [State.functors, List.mem_append, List.not_mem_nil, false_or, or_false] at member ⊢
      exact Or.inr member

/-- The end of a batch drops its functors, and nothing is queued there. -/
theorem finish_accounted (accounted : Accounted s) (taken : step s .finish = .ok t) :
    Accounted t := by
  simp only [step] at taken
  split at taken
  case h_2 => cases taken
  case h_1 empty =>
    obtain ⟨finished, advanced, same⟩ := (bind_ok _ _ _).mp taken
    obtain rfl := (pure_ok _ _).mp same
    obtain ⟨life, performed, rfl⟩ := advance_ok advanced
    obtain ⟨system, stepping, rfl⟩ := perform_ok performed
    have placed := step_placed accounted.placed stepping
    have functors := accounted.functors
    cases stepped stepping with
    | finishFunctors =>
      have quiet : queuedBy s.life.system .finishFunctors = [] := rfl
      refine ⟨placed, ?_, ?_, ?_, ?_, accounted.held, accounted.calls⟩
      · simp only [quiet, List.append_nil]
        exact accounted.pending
      · simp only [empty]
        rfl
      · intro id member
        cases member
      · intro functor member
        apply functors functor
        simp only [State.functors, quiet, List.append_nil, List.mem_append, List.not_mem_nil,
          false_or] at member ⊢
        tauto

/-- Every step keeps the account. -/
theorem step_accounted (label : Label name) (accounted : Accounted s)
    (taken : step s label = .ok t) : Accounted t := by
  cases label
  case loop inner => exact loopStep_accounted accounted taken
  case call result =>
    simp only [step] at taken
    split at taken
    case h_1 => cases taken
    case h_2 functor rest next => exact callStep_accounted accounted next taken
  case swap => exact swap_accounted accounted taken
  case finish => exact finish_accounted accounted taken
  case queue ids =>
    simp only [step] at taken
    split at taken
    case isFalse => cases taken
    case isTrue owned =>
      obtain rfl := (pure_ok _ _).mp taken
      refine pushed_accounted _ accounted rfl ?_
      intro id used
      exact owned_created accounted (owned id (by simpa [Functor.captured, Functor.raw] using used))
  case hold id =>
    simp only [step] at taken
    split at taken
    case isFalse => cases taken
    case isTrue owned =>
      obtain rfl := (pure_ok _ _).mp taken
      refine { accounted with held := ?_ }
      intro other member
      rcases List.mem_cons.mp member with rfl | before
      · exact owned_created accounted owned
      · exact accounted.held other before
  case drop id =>
    simp only [step] at taken
    split at taken
    case isFalse => cases taken
    case isTrue =>
      obtain rfl := (pure_ok _ _).mp taken
      exact { accounted with
        held := fun other member => accounted.held other (List.mem_of_mem_erase member) }
  case test id message =>
    simp only [step] at taken
    split at taken
    case isFalse => cases taken
    case isTrue holding =>
      split at taken
      case isFalse =>
        obtain rfl := (pure_ok _ _).mp taken
        exact accounted
      case isTrue =>
        obtain rfl := (pure_ok _ _).mp taken
        refine { accounted with calls := ?_ }
        intro call member
        rcases List.mem_append.mp member with before | now
        · exact accounted.calls call before
        · rw [List.mem_singleton.mp now]
          exact accounted.held id holding
  case push index =>
    simp only [step] at taken
    split at taken
    case h_2 => cases taken
    case h_1 id message found =>
      obtain rfl := (pure_ok _ _).mp taken
      have created := accounted.calls _ (List.mem_of_getElem? found)
      refine { pushed_accounted (.sendInLoop id message) accounted rfl ?_ with
        calls := fun call member => accounted.calls call (List.mem_of_mem_eraseIdx member) }
      intro other used
      rw [show other = id by simpa [Functor.captured, Functor.raw] using used]
      exact created

/-- When a functor with a raw `this` is called after the batch that executed the
connection's destruction, user code holds the connection. -/
def pointerKept (s : State name) : Label name → Prop
  | .call _ => ∀ id ∈ raws (s.rest.take 1), id ∈ s.life.system.destroyed →
      id ∉ destructions s.called → UserHolds s id
  | _ => True

instance (s : State name) (label : Label name) : Decidable (pointerKept s label) :=
  match label with
  | .call _ => inferInstanceAs (Decidable (∀ id ∈ raws (s.rest.take 1), _ → _ → _))
  | .loop _ | .swap | .finish | .queue _ | .hold _ | .drop _ | .test _ _ | .push _ => isTrue trivial

/-- A connection has an owner until the batch of its destruction is done, and
after that exactly while user code holds it.

Proof: it is in one place. In the map, in the queue and in the batch it is owned,
and once destroyed the called destruction owns it until the batch is done. -/
theorem owned_iff (accounted : Accounted s) {id : Nat} (created : id < s.life.system.created) :
    Owned s id ↔
      (id ∈ s.life.system.destroyed → id ∉ destructions s.called → UserHolds s id) := by
  have once := accounted.placed.once id created
  have queued := destructions_functors accounted id
  constructor
  · intro owned destroyed uncalled
    have counted := List.count_pos_iff.mpr destroyed
    rcases owned with inMap | inFunctors | user
    · rw [if_pos inMap] at once
      omega
    · rcases queued.mp inFunctors with executed | batch | pending
      · exact absurd executed uncalled
      · have another := List.count_pos_iff.mpr batch
        omega
      · have another := List.count_pos_iff.mpr pending
        omega
    · exact user
  · intro kept
    by_cases destroyed : id ∈ s.life.system.destroyed
    · by_cases executed : id ∈ destructions s.called
      · exact Or.inr (Or.inl (queued.mpr (Or.inl executed)))
      · exact Or.inr (Or.inr (kept destroyed executed))
    · rw [List.count_eq_zero.mpr destroyed] at once
      by_cases inMap : (server name).holds s.life.system.owner id
      · exact Or.inl inMap
      · rw [if_neg inMap] at once
        refine Or.inr (Or.inl (queued.mpr (Or.inr ?_)))
        by_cases pending : id ∈ s.life.system.pending
        · exact Or.inr pending
        · rw [List.count_eq_zero.mpr pending] at once
          exact Or.inl (List.count_pos_iff.mp (by omega))

/-- The call of a functor with a raw `this` finds it dangling exactly when nobody
owns the connection. -/
theorem callStep_dangling (s : State name) (functor : Functor) (rest : List Functor)
    (result : WriteResult) :
    callStep s functor rest result = .error .dangling ↔ ∃ id ∈ functor.raw, ¬ Owned s id := by
  cases functor with
  | destroy id => simp [callStep, advance_anchored, Functor.raw]
  | shared ids => simp [callStep, Functor.raw]
  | sendInLoop id message =>
    by_cases owned : Owned s id
    · simp [callStep, owned, advance_anchored, Functor.raw]
    · simp [callStep, owned, Functor.raw]
  | writeComplete id =>
    by_cases owned : Owned s id
    · simp [callStep, owned, Functor.raw]
    · simp [callStep, owned, Functor.raw]

/-- The loop's own steps use no raw `this`. -/
theorem loopStep_anchored (s : State name) (label : ConnectionLife.Label (server name)) :
    loopStep s label ≠ .error .dangling := by
  intro failed
  cases label
  case poll | send | shutdown =>
    simp only [loopStep] at failed
    repeat' split at failed
    all_goals first
      | exact advance_anchored _ _ failed
      | cases failed
  case swap | runFunctor | finishFunctors => cases failed
  all_goals exact advance_anchored _ _ failed

/-- A step fails at a dangling functor exactly when it does not meet the
condition. -/
theorem step_dangling (accounted : Accounted s) (label : Label name) :
    step s label = .error .dangling ↔ ¬ pointerKept s label := by
  cases label
  case call result =>
    cases next : s.rest with
    | nil => simp [step, next, pointerKept, raws]
    | cons functor rest =>
      have real : ∀ id ∈ functor.raw, id < s.life.system.created := by
        intro id used
        exact accounted.functors functor (by simp [State.functors, next]) id
          (List.mem_append.mpr (Or.inr used))
      simp only [step, next, callStep_dangling, pointerKept, raws, List.take_succ_cons,
        List.take_zero, List.flatMap_cons, List.flatMap_nil, List.append_nil, not_forall]
      constructor
      · rintro ⟨id, used, unowned⟩
        have abandoned := mt (owned_iff accounted (real id used)).mpr unowned
        simp only [not_forall] at abandoned
        exact ⟨id, used, abandoned⟩
      · rintro ⟨id, used, abandoned⟩
        refine ⟨id, used, ?_⟩
        intro owned
        obtain ⟨destroyed, uncalled, unheld⟩ := abandoned
        exact unheld ((owned_iff accounted (real id used)).mp owned destroyed uncalled)
  all_goals
    refine iff_of_false ?_ (not_not.mpr trivial)
    intro failed
  case loop inner => exact loopStep_anchored s inner failed
  case swap =>
    cases advanced : s.advance .swap with
    | error failure =>
      simp only [step, advanced] at failed
      cases failed
      exact advance_anchored s .swap advanced
    | ok swapped =>
      simp only [step, advanced] at failed
      cases failed
  case finish =>
    simp only [step] at failed
    split at failed
    case h_2 => cases failed
    case h_1 =>
      cases advanced : s.advance .finishFunctors with
      | error failure =>
        simp only [advanced] at failed
        cases failed
        exact advance_anchored s .finishFunctors advanced
      | ok finished =>
        simp only [advanced] at failed
        cases failed
  all_goals
    simp only [step] at failed
    repeat' split at failed
    all_goals cases failed

/-- In every run of a server on one loop, each functor with a raw `this` finds an
owner of its connection when it is called, exactly when user code holds the
connection each time such a functor is called after the batch that executed the
connection's destruction. -/
theorem raw_functors_owned_iff (name : List Char) (labels : List (Label name)) :
    Runs.run step (initial name) labels ≠ .error .dangling ↔
      Runs.Along step pointerKept (initial name) labels :=
  Runs.unfailing_iff step pointerKept .dangling Accounted
    (fun _ label _ accounted taken => step_accounted label accounted taken)
    (fun _ label accounted => step_dangling accounted label)
    labels (initial name) (initial_accounted name)

/-- A user functor keeps a pointer to an accepted connection and queues itself
again. The peer's close is handled, so the functor's second call and the
destruction fall into one batch. -/
def functorAndDestruction : List (Label []) :=
  [.loop (.poll []), .loop (.owner ⟨5, true⟩), .queue [0], .swap, .call (.failed 0), .queue [0],
    .finish, .loop (.poll [0]), .loop (.dispatch POLLIN), .loop (.callback (.received []) (.failed 0)),
    .loop (.remove ()), .loop .finishEvent, .swap, .call (.failed 0)]

/-- The functor sends in its second call, which queues the write-complete functor
for the next batch. When it is called there the connection is gone. -/
def sendsInLastBatch : List (Label []) :=
  functorAndDestruction ++ [.loop (.send 0 ⟨[17, 18], by decide⟩ (.accepted 2)), .call (.failed 0),
    .finish, .loop (.poll []), .swap, .call (.failed 0)]

/-- A functor that sends together with the destruction leaves a write-complete
functor behind whose connection has no owner. -/
theorem write_complete_after_destruction_dangles :
    ¬ ∀ (name : List Char) (labels : List (Label name)),
      Runs.run step (initial name) labels ≠ .error .dangling := by
  intro claimed
  have computed : (Runs.run step (initial []) sendsInLastBatch).map (fun _ => ()) =
      .error .dangling := by decide +kernel
  exact claimed [] _ ((Runs.map_failed _ _ _).mp computed)

end ReactorNetwork.QueuedCalls
