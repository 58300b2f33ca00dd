import ReactorNetwork.CloseAccount

/-!
# What the poller and the user see of the connections

The runs of a loop's connections, together with what leaves them: which channels
are registered with the poller, and which user callbacks were invoked and in what
state. The poller reports registered channels only, and user code sends through
`send`, which does nothing outside state `connected`.

The kernel is assumed never to report a hang-up without readable data together
with urgent data or a peer shutdown; then a dispatch closes a connection at most
once. Under that assumption every connection is announced once as connected and
at most once as disconnected, nothing is received after that, and the channel of
a destroyed connection stays out of the poller.
-/

namespace ReactorNetwork.ConnectionLife

open TcpConnection

/-- A user callback: the connection callback, with the state it finds, or the
message callback. -/
inductive Notice where
  | connection (id : Nat) (state : ConnectionState)
  | message (id : Nat)
deriving DecidableEq, Repr

variable {O : Owner}

/-- The effects of a step, each with its connection. -/
def effectsOf (s : System O) : Label O → List (Nat × Effect)
  | .callback read write =>
      match s.phase with
      | .handling id _ (callback :: _) _ =>
          match handle (s.objects id) callback read write with
          | .ok (_, effects) => effects.map fun effect => (id, effect)
          | .error _ => []
      | _ => []
  | .runFunctor =>
      match s.phase with
      | .running (id :: _) =>
          match (s.objects id).connectDestoryed with
          | .ok (_, effects) => effects.map fun effect => (id, effect)
          | .error _ => []
      | _ => []
  | .send id message result =>
      match (s.objects id).sendInLoop message result with
      | .ok (_, effects) => effects.map fun effect => (id, effect)
      | .error _ => []
  | .owner label =>
      match O.act s.owner label with
      | .ok (_, some (sockFd, writeCompleteCallback)) =>
          match (create sockFd writeCompleteCallback).connectEstablished with
          | .ok (_, effects) => effects.map fun effect => (s.created, effect)
          | .error _ => []
      | _ => []
  | _ => []

/-- The system, the registered channels and the user callbacks invoked so far. -/
structure Traced (O : Owner) where
  system : System O
  registered : Nat → Bool
  heard : List Notice

/-- The loop before its first connection, with nothing registered or heard. -/
def Traced.initial (O : Owner) : Traced O where
  system := ConnectionLife.initial O
  registered := fun _ => false
  heard := []

/-- `update_channel` and `remove_channel` of the poller. -/
def register (registered : Nat → Bool) : Nat × Effect → Nat → Bool
  | (id, .updateChannel) => fun other => if other = id then true else registered other
  | (id, .removeChannel) => fun other => if other = id then false else registered other
  | _ => registered

/-- The user callback an effect invokes, in the state the step leaves. -/
def noticeOf (objects : Nat → TcpConnection) : Nat × Effect → Option Notice
  | (id, .connectCallback) => some (.connection id (objects id).state)
  | (id, .messageCallback) => some (.message id)
  | _ => none

/-- A step of the system, with its effects. -/
def Traced.perform (s : Traced O) (label : Label O) : Except Failure (Traced O) := do
  let system ← ConnectionLife.step s.system label
  let effects := effectsOf s.system label
  pure {
    system := system
    registered := effects.foldl register s.registered
    heard := s.heard ++ effects.filterMap (noticeOf system.objects) }

/-- The poller reports registered channels only, and `send` tests the state. -/
def Traced.step (s : Traced O) : Label O → Except Failure (Traced O)
  | .poll active =>
      if ∀ id ∈ active, s.registered id = true then s.perform (.poll active)
      else .error .notEnabled
  | .send id message result =>
      if (s.system.objects id).state = .connected then s.perform (.send id message result) else pure s
  | label => s.perform label

/-- The kernel does not report a hang-up without readable data together with
urgent data or a peer shutdown. -/
def plainHangup (_ : Traced O) : Label O → Prop
  | .dispatch revents => hangup revents = true → anySet revents (POLLPRI ||| POLLRDHUP) = false
  | _ => True

instance (s : Traced O) (label : Label O) : Decidable (plainHangup s label) :=
  match label with
  | .dispatch _ => inferInstanceAs (Decidable (_ → _))
  | .poll _ | .callback _ _ | .remove _ | .finishEvent | .swap | .runFunctor | .finishFunctors
  | .shutdown _ | .send _ _ _ | .owner _ => isTrue trivial

section Effects

/-- Inside a dispatch neither the connection callback is invoked nor a channel
removed. -/
theorem handle_effects {c after : TcpConnection} {callback : Callback} {read : ReadvResult}
    {write : WriteResult} {effects : List Effect}
    (returned : handle c callback read write = .ok (after, effects)) :
    Effect.connectCallback ∉ effects ∧ Effect.removeChannel ∉ effects := by
  cases callback with
  | close =>
    obtain ⟨_, same⟩ := (handleClose_ok _ _).mp ((asserted_ok _ _ _).mp returned)
    obtain ⟨_, rfl⟩ := Prod.mk.inj same
    simp
  | error =>
    obtain ⟨_, rfl⟩ := Prod.mk.inj ((pure_ok _ _).mp returned)
    simp
  | read =>
    obtain ⟨⟨filled, n⟩, _, continued⟩ := (bind_ok _ _ _).mp ((lift_ok _ _).mp returned)
    simp only at continued
    split at continued
    · obtain ⟨_, same⟩ := (handleClose_ok _ _).mp continued
      obtain ⟨_, rfl⟩ := Prod.mk.inj same
      simp
    · obtain ⟨_, rfl⟩ := Prod.mk.inj ((pure_ok _ _).mp continued)
      simp
    · obtain ⟨_, rfl⟩ := Prod.mk.inj ((pure_ok _ _).mp continued)
      simp
  | write =>
    have sending := (handleWrite_state ((lift_ok _ _).mp returned)).2
    constructor
    · exact fun member => by cases sending _ member
    · exact fun member => by cases sending _ member

/-- The effects of a connection register and remove its own channel only. -/
theorem registered_by (registered : Nat → Bool) (id other : Nat) (effects : List Effect)
    (present : (effects.map fun effect => (id, effect)).foldl register registered other = true) :
    registered other = true ∨ other = id := by
  induction effects generalizing registered with
  | nil => exact Or.inl present
  | cons effect rest inductionHypothesis =>
    rcases inductionHypothesis (register registered (id, effect)) present with before | same
    · by_cases same : other = id
      · exact Or.inr same
      · cases effect <;> simp_all [register]
    · exact Or.inr same

/-- What a connection's effects announce, if they do not invoke the connection
callback, are messages of its own. -/
theorem notices_messages (objects : Nat → TcpConnection) (id : Nat) (effects : List Effect)
    (quiet : Effect.connectCallback ∉ effects) :
    ∀ notice ∈ (effects.map fun effect => (id, effect)).filterMap (noticeOf objects),
      notice = .message id := by
  intro notice member
  rw [List.filterMap_map, List.mem_filterMap] at member
  obtain ⟨effect, inside, told⟩ := member
  cases effect <;> simp_all [noticeOf]

/-- Sending invokes no user callback. -/
theorem send_silent {objects : Nat → TcpConnection} {id : Nat} {c after : TcpConnection}
    {message : StringView} {result : WriteResult} {effects : List Effect}
    (sent : c.sendInLoop message result = .ok (after, effects)) :
    (effects.map fun effect => (id, effect)).filterMap (noticeOf objects) = [] := by
  rw [List.filterMap_map]
  apply List.filterMap_eq_nil_iff.mpr
  intro effect member
  have sending := (sendInLoop_state sent).2 effect member
  cases effect <;> simp_all [noticeOf, outgoing]

end Effects

/-- The connections that are dispatched in this iteration, the current one
included. -/
def Phase.dispatched : Phase → List Nat
  | .dispatching active => active
  | .handling id _ _ active | .removing id _ _ active => id :: active
  | _ => []

section Told

variable {s : System O}

/-- A callback shows the effects of the connection's function. -/
theorem effectsOf_callback {id : Nat} {revents : EventMask} {callback : Callback}
    {callbacks : List Callback} {active : List Nat} {read : ReadvResult} {write : WriteResult}
    {c : TcpConnection} {effects : List Effect}
    (handling : s.phase = .handling id revents (callback :: callbacks) active)
    (handled : handle (s.objects id) callback read write = .ok (c, effects)) :
    effectsOf s (.callback read write) = effects.map fun effect => (id, effect) := by
  simp only [effectsOf, handling, handled]

/-- So does a `send_in_loop`. -/
theorem effectsOf_send {id : Nat} {message : StringView} {result : WriteResult} {c : TcpConnection}
    {effects : List Effect} (sent : (s.objects id).sendInLoop message result = .ok (c, effects)) :
    effectsOf s (.send id message result) = effects.map fun effect => (id, effect) := by
  simp only [effectsOf, sent]

/-- The destruction of a connection shows these three effects. -/
theorem effectsOf_runFunctor {id : Nat} {rest : List Nat} {c : TcpConnection}
    {effects : List Effect} (running : s.phase = .running (id :: rest))
    (destroyed : (s.objects id).connectDestoryed = .ok (c, effects)) :
    effectsOf s .runFunctor =
      [(id, .updateChannel), (id, .connectCallback), (id, .removeChannel)] := by
  obtain ⟨_, rfl⟩ := Prod.mk.inj ((connectDestoryed_ok _ _).mp destroyed).2
  simp only [effectsOf, running, destroyed]
  rfl

/-- A call of the owner that establishes nothing shows no effects. -/
theorem effectsOf_acted {label : O.Label} {owner : O.State}
    (acted : O.act s.owner label = .ok (owner, none)) : effectsOf s (.owner label) = [] := by
  simp only [effectsOf, acted]

/-- The establishment of a connection shows these two effects. -/
theorem effectsOf_established {label : O.Label} {owner : O.State} {sockFd : Int}
    {writeCompleteCallback : Bool} {c : TcpConnection} {effects : List Effect}
    (acted : O.act s.owner label = .ok (owner, some (sockFd, writeCompleteCallback)))
    (established : (create sockFd writeCompleteCallback).connectEstablished = .ok (c, effects)) :
    effectsOf s (.owner label) =
      [(s.created, .updateChannel), (s.created, .connectCallback)] := by
  obtain ⟨_, rfl⟩ := Prod.mk.inj ((connectEstablished_ok _ _).mp established).2
  simp only [effectsOf, acted, established]
  rfl

end Told

/-- The loop works with connections it created. -/
def Known (s : System O) : Prop :=
  ∀ id, id ∈ s.phase.dispatched ∨ id ∈ s.pending ∨ id ∈ s.phase.batch ∨ id ∈ s.destroyed →
    id < s.created

/-- The loop starts with empty lists. -/
theorem initial_known : Known (initial O) := by
  rintro id (member | member | member | member) <;> cases member

/-- Every step works with connections that were created before. -/
theorem step_known {s t : System O} {label : Label O} (known : Known s)
    (taken : step s label = .ok t) : Known t := by
  unfold Known at known ⊢
  cases stepped taken
  case poll active polling _ created =>
    rw [polling] at known
    rintro id (member | member | member | member)
    · exact created id member
    · exact known id (by simp [member])
    · cases member
    · exact known id (by simp [member])
  case dispatch dispatching =>
    rw [dispatching] at known
    exact known
  case closing handling _ _ =>
    rw [handling] at known
    exact known
  case callback handling _ _ =>
    rw [handling] at known
    exact known
  case remove id revents callbacks active choice owner removing _ =>
    rw [removing] at known
    rintro other (member | member | member | member)
    · exact known other (Or.inl member)
    · rcases List.mem_append.mp member with earlier | now
      · exact known other (Or.inr (Or.inl earlier))
      · rw [List.mem_singleton.mp now]
        exact known id (Or.inl List.mem_cons_self)
    · cases member
    · exact known other (by simp [member])
  case finishEvent id revents active handling =>
    rw [handling] at known
    rintro other (member | rest)
    · exact known other (Or.inl (List.mem_cons_of_mem _ member))
    · exact known other (Or.inr rest)
  case swap dispatching =>
    rintro id (member | member | member | member)
    · cases member
    · cases member
    · exact known id (Or.inr (Or.inl member))
    · exact known id (by simp [member])
  case runFunctor id rest c effects running _ =>
    rw [running] at known
    rintro other (member | member | member | member)
    · cases member
    · exact known other (Or.inr (Or.inl member))
    · exact known other (Or.inr (Or.inr (Or.inl (List.mem_cons_of_mem _ member))))
    · rcases List.mem_append.mp member with earlier | now
      · exact known other (by simp [earlier])
      · rw [List.mem_singleton.mp now]
        exact known id (Or.inr (Or.inr (Or.inl List.mem_cons_self)))
  case finishFunctors running =>
    rw [running] at known
    exact known
  case shutdown | send | acted => exact known
  case established => exact fun id member => Nat.lt_succ_of_lt (known id member)

/-- The next connection is in no list yet. -/
theorem fresh_undestroyed {s : System O} (known : Known s) : s.created ∉ s.destroyed :=
  fun member => absurd (known _ (Or.inr (Or.inr (Or.inr member)))) (Nat.lt_irrefl _)

/-- A dispatched or registered connection is not destroyed, and a destroyed one is
in state `disconnected`. -/
structure Apart (s : Traced O) : Prop where
  known : Known s.system
  gone : ∀ id ∈ s.system.destroyed, (s.system.objects id).state = .disconnected
  live : ∀ id ∈ s.system.phase.dispatched, id ∉ s.system.destroyed
  registered : ∀ id, s.registered id = true → id < s.system.created ∧ id ∉ s.system.destroyed

/-- Before the first connection nothing is dispatched or registered. -/
theorem initial_apart : Apart (Traced.initial O) where
  known := initial_known
  gone := by
    intro id member
    cases member
  live := by
    intro id member
    cases member
  registered := by
    intro id present
    cases present

/-- The poller reports registered channels, and nobody sends on a destroyed
connection. -/
def Admitted (s : Traced O) : Label O → Prop
  | .poll active => ∀ id ∈ active, s.registered id = true
  | .send id _ _ => id ∉ s.system.destroyed
  | _ => True

variable {s t : Traced O}

/-- A performed step is one of the loop, with what it registers and what is heard. -/
theorem perform_ok {label : Label O} (taken : s.perform label = .ok t) :
    ∃ system, ConnectionLife.step s.system label = .ok system ∧ t = {
      system := system
      registered := (effectsOf s.system label).foldl register s.registered
      heard := s.heard ++ (effectsOf s.system label).filterMap (noticeOf system.objects) } := by
  obtain ⟨system, stepping, same⟩ := (bind_ok _ _ _).mp taken
  exact ⟨system, stepping, ((pure_ok _ _).mp same).symm⟩

/-- A connection that is connected or disconnecting is not destroyed. -/
theorem open_alive (apart : Apart s) {id : Nat} (isOpen : Open (s.system.objects id)) :
    id ∉ s.system.destroyed := by
  intro member
  have gone := apart.gone id member
  rcases isOpen with connected | disconnecting
  · rw [connected] at gone
    cases gone
  · rw [disconnecting] at gone
    cases gone

/-- A change of a connection that is not destroyed leaves the destroyed ones. -/
theorem gone_set (apart : Apart s) {id : Nat} (alive : id ∉ s.system.destroyed)
    (c : TcpConnection) :
    ∀ other ∈ s.system.destroyed, (setObject s.system.objects id c other).state = .disconnected := by
  intro other member
  have different : other ≠ id := fun same => alive (same ▸ member)
  simpa [setObject, different] using apart.gone other member

/-- The effects of a connection that is not destroyed register no destroyed one. -/
theorem registered_set (apart : Apart s) {id : Nat} (created : id < s.system.created)
    (alive : id ∉ s.system.destroyed) (effects : List Effect) (other : Nat)
    (present : (effects.map fun effect => (id, effect)).foldl register s.registered other = true) :
    other < s.system.created ∧ other ∉ s.system.destroyed := by
  rcases registered_by _ id other effects present with before | rfl
  · exact apart.registered other before
  · exact ⟨created, alive⟩

section Handled

variable {id : Nat} {revents : EventMask} {callback : Callback} {callbacks : List Callback}
  {active : List Nat} {read : ReadvResult} {write : WriteResult} {c : TcpConnection}
  {effects : List Effect}

/-- The connection whose event is handled is not destroyed. -/
theorem handled_alive (apart : Apart s)
    (handling : s.system.phase = .handling id revents (callback :: callbacks) active) :
    id ∉ s.system.destroyed := by
  have live := apart.live
  rw [handling] at live
  exact live id List.mem_cons_self

/-- A callback of a dispatch touches neither the destroyed connections nor their
registration. -/
theorem handled_apart (apart : Apart s)
    (handling : s.system.phase = .handling id revents (callback :: callbacks) active)
    (handled : handle (s.system.objects id) callback read write = .ok (c, effects)) :
    (∀ other ∈ s.system.destroyed, (setObject s.system.objects id c other).state = .disconnected) ∧
      ∀ other, (effectsOf s.system (.callback read write)).foldl register s.registered other = true →
        other < s.system.created ∧ other ∉ s.system.destroyed := by
  have created := apart.known id (by simp [handling, Phase.dispatched])
  have alive := handled_alive apart handling
  refine ⟨gone_set apart alive c, ?_⟩
  rw [effectsOf_callback handling handled]
  exact registered_set apart created alive effects

end Handled

/-- Every admitted step keeps the destroyed connections apart.

Proof: by cases on the step. Only a destruction adds a destroyed connection, and
it runs when nothing is dispatched and removes the channel; only a poll adds a
dispatched one, and it is registered. -/
theorem perform_apart {label : Label O} (apart : Apart s) (admitted : Admitted s label)
    (taken : s.perform label = .ok t) : Apart t := by
  obtain ⟨system, stepping, rfl⟩ := perform_ok taken
  have known := apart.known
  have live := apart.live
  suffices kept : (∀ id ∈ system.destroyed, (system.objects id).state = .disconnected) ∧
      (∀ id ∈ system.phase.dispatched, id ∉ system.destroyed) ∧
      ∀ id, (effectsOf s.system label).foldl register s.registered id = true →
        id < system.created ∧ id ∉ system.destroyed from
    ⟨step_known known stepping, kept.1, kept.2.1, kept.2.2⟩
  cases stepped stepping
  case poll active _ _ _ =>
    exact ⟨apart.gone, fun id member => (apart.registered id (admitted id member)).2,
      apart.registered⟩
  case dispatch id active revents dispatching =>
    rw [dispatching] at live
    exact ⟨apart.gone, live, apart.registered⟩
  case closing id revents callback callbacks active read write c effects handling handled _ =>
    obtain ⟨gone, registered⟩ := handled_apart apart handling handled
    rw [handling] at live
    exact ⟨gone, live, registered⟩
  case callback id revents callback callbacks active read write c effects handling handled _ =>
    obtain ⟨gone, registered⟩ := handled_apart apart handling handled
    rw [handling] at live
    exact ⟨gone, live, registered⟩
  case remove id revents callbacks active choice owner removing _ =>
    rw [removing] at live
    exact ⟨apart.gone, live, apart.registered⟩
  case finishEvent id revents active handling =>
    rw [handling] at live
    exact ⟨apart.gone, fun other member => live other (List.mem_cons_of_mem _ member),
      apart.registered⟩
  case swap | finishFunctors =>
    refine ⟨apart.gone, ?_, apart.registered⟩
    intro id member
    cases member
  case runFunctor id rest c effects running destroyed =>
    refine ⟨?_, ?_, ?_⟩
    · obtain ⟨rfl, _⟩ := Prod.mk.inj ((connectDestoryed_ok _ _).mp destroyed).2
      intro other member
      by_cases here : other = id
      · simp [setObject, here]
      · rcases List.mem_append.mp member with earlier | now
        · simpa [setObject, here] using apart.gone other earlier
        · exact absurd (List.mem_singleton.mp now) here
    · intro other member
      cases member
    · intro other present
      simp only [effectsOf_runFunctor running destroyed, List.foldl_cons, List.foldl_nil,
        register] at present
      split at present
      · cases present
      · rename_i different
        obtain ⟨created, undestroyed⟩ := apart.registered other present
        refine ⟨created, ?_⟩
        simp [undestroyed, different]
  case shutdown id _ =>
    refine ⟨?_, live, apart.registered⟩
    intro other member
    by_cases here : other = id
    · subst here
      have gone := apart.gone other member
      simp [setObject, exchangeState, gone]
    · simpa [setObject, here] using apart.gone other member
  case send id message result c effects created sent =>
    refine ⟨gone_set apart admitted c, live, ?_⟩
    rw [effectsOf_send sent]
    exact registered_set apart created admitted effects
  case acted label owner acted =>
    refine ⟨apart.gone, live, ?_⟩
    rw [effectsOf_acted acted]
    exact apart.registered
  case established label owner sockFd writeCompleteCallback c effects acted _ established =>
    have fresh := fresh_undestroyed known
    refine ⟨gone_set apart fresh c, live, ?_⟩
    intro other present
    simp only [effectsOf_established acted established, List.foldl_cons, List.foldl_nil,
      register] at present
    split at present
    · rename_i here
      subst here
      exact ⟨Nat.lt_succ_self _, fresh⟩
    · obtain ⟨created, undestroyed⟩ := apart.registered other present
      exact ⟨Nat.lt_succ_of_lt created, undestroyed⟩

/-- What a step tests: the poller's registration, and the state in `send`. -/
def Tested (s : Traced O) : Label O → Prop
  | .poll active => ∀ id ∈ active, s.registered id = true
  | .send id _ _ => (s.system.objects id).state = .connected
  | _ => True

/-- A step that passed its test works on connections that are not destroyed. -/
theorem admitted_of_tested {label : Label O} (apart : Apart s) (tested : Tested s label) :
    Admitted s label := by
  cases label
  case poll active => exact tested
  case send id message result => exact open_alive apart (Or.inl tested)
  all_goals trivial

/-- A step is refused, changes nothing, or performs a label that passed its test. -/
theorem step_tested {label : Label O} (taken : s.step label = .ok t) :
    t = s ∨ Tested s label ∧ s.perform label = .ok t := by
  cases label
  case poll active =>
    simp only [Traced.step] at taken
    split at taken
    case isFalse => cases taken
    case isTrue reported => exact Or.inr ⟨reported, taken⟩
  case send id message result =>
    simp only [Traced.step] at taken
    split at taken
    case isFalse => exact Or.inl ((pure_ok _ _).mp taken).symm
    case isTrue connected => exact Or.inr ⟨connected, taken⟩
  all_goals exact Or.inr ⟨trivial, taken⟩

/-- Every step keeps the dispatched and registered connections apart from the destroyed
ones. -/
theorem step_apart {label : Label O} (apart : Apart s) (taken : s.step label = .ok t) :
    Apart t := by
  rcases step_tested taken with rfl | ⟨tested, performed⟩
  · exact apart
  · exact perform_apart apart (admitted_of_tested apart tested) performed

/-- A dispatch that takes the hang-up branch has no read callback left. -/
def Phase.Plain : Phase → Prop
  | .handling _ revents callbacks _ | .removing _ revents callbacks _ =>
      Callback.read ∈ callbacks → hangup revents = false
  | _ => True

/-- The states in which a connection was announced. -/
def announcements (id : Nat) (heard : List Notice) : List ConnectionState :=
  heard.filterMap fun
    | .connection other state => if other = id then some state else none
    | .message _ => none

/-- Nothing is received after the announcement that the connection is gone. -/
def Hushed (heard : List Notice) : Prop :=
  heard.Pairwise fun earlier later =>
    ∀ id, earlier = .connection id .disconnected → later ≠ .message id

/-- The account of the closes is kept; a dispatched or registered connection is not
destroyed; a connection was announced as connected when it was created and as
disconnected when it was destroyed, and not otherwise. -/
structure Traces (valid : O.State → Prop) (s : Traced O) : Prop where
  sound : Sound valid s.system
  plain : s.system.phase.Plain
  apart : Apart s
  announced : ∀ id, announcements id s.heard =
    (if id < s.system.created then [.connected] else []) ++
      (if id ∈ s.system.destroyed then [.disconnected] else [])
  hushed : Hushed s.heard

/-- Before the first connection nothing was announced. -/
theorem initial_traces {valid : O.State → Prop} (lawful : Lawful O valid) :
    Traces valid (Traced.initial O) where
  sound := initial_sound lawful
  plain := trivial
  apart := initial_apart
  announced := fun _ => rfl
  hushed := List.Pairwise.nil

variable {valid : O.State → Prop}

/-- The announcements of two parts of what was heard. -/
theorem announcements_append (id : Nat) (earlier later : List Notice) :
    announcements id (earlier ++ later) = announcements id earlier ++ announcements id later :=
  List.filterMap_append

/-- Messages are no announcements. -/
theorem announcements_messages (id : Nat) {notices : List Notice}
    (messages : ∀ notice ∈ notices, ∃ other, notice = .message other) :
    announcements id notices = [] := by
  apply List.filterMap_eq_nil_iff.mpr
  intro notice member
  obtain ⟨other, rfl⟩ := messages notice member
  rfl

/-- A connection announced as disconnected is destroyed. -/
theorem announced_destroyed (traces : Traces valid s) {id : Nat}
    (told : .connection id .disconnected ∈ s.heard) : id ∈ s.system.destroyed := by
  have member : ConnectionState.disconnected ∈ announcements id s.heard :=
    List.mem_filterMap.mpr ⟨_, told, by simp⟩
  rw [traces.announced id] at member
  by_contra alive
  simp only [alive, if_false, List.append_nil] at member
  split at member
  · simp at member
  · cases member

/-- Messages of a connection that is not destroyed keep the hush. -/
theorem hushed_messages (traces : Traces valid s) {id : Nat} (alive : id ∉ s.system.destroyed)
    {notices : List Notice} (messages : ∀ notice ∈ notices, notice = .message id) :
    Hushed (s.heard ++ notices) := by
  refine List.pairwise_append.mpr ⟨traces.hushed, ?_, ?_⟩
  · refine List.pairwise_of_forall_mem_list ?_
    intro earlier first later _ other told
    rw [messages earlier first] at told
    cases told
  · intro earlier before later after other told same
    have here := messages later after
    rw [same] at here
    obtain rfl := Notice.message.inj here
    exact alive (announced_destroyed traces (told ▸ before))

/-- An announcement keeps the hush. -/
theorem hushed_announcement (traces : Traces valid s) (id : Nat) (state : ConnectionState) :
    Hushed (s.heard ++ [.connection id state]) := by
  refine List.pairwise_append.mpr ⟨traces.hushed, List.pairwise_singleton _ _, ?_⟩
  intro earlier before later after other told
  rw [List.mem_singleton.mp after]
  simp

/-- The assumption on the masks excludes an end of file after a hang-up. -/
theorem plain_noEof (traces : Traces valid s) (label : Label O) :
    noEofAfterHangup s.system label := by
  cases label
  case callback read write =>
    have plain := traces.plain
    simp only [noEofAfterHangup, readsEofAfterHangup]
    split
    case h_2 => rfl
    case h_1 id revents callbacks active handling =>
      rw [handling] at plain
      simp [plain List.mem_cons_self]
  all_goals trivial

/-- A traced step fails where the step of the system does. -/
theorem traced_failed {label : Label O} {failure : Failure}
    (enabled : failure ≠ .notEnabled) (failed : s.step label = .error failure) :
    ConnectionLife.step s.system label = .error failure := by
  have performed : s.perform label = .error failure →
      ConnectionLife.step s.system label = .error failure := by
    intro inside
    rcases (bind_failed _ _ _).mp inside with stepped | ⟨system, _, after⟩
    · exact stepped
    · cases after
  cases label
  case poll active =>
    simp only [Traced.step] at failed
    split at failed
    · exact performed failed
    · exact absurd (Except.error.inj failed).symm enabled
  case send id message result =>
    simp only [Traced.step] at failed
    split at failed
    · exact performed failed
    · cases failed
  all_goals exact performed failed

/-- The read callback of a plain hang-up is not invoked. -/
theorem plain_handleEvent {revents : EventMask}
    (allowed : hangup revents = true → anySet revents (POLLPRI ||| POLLRDHUP) = false)
    (reads : Callback.read ∈ Channel.handleEvent connectionCallbacks revents) :
    hangup revents = false := by
  by_contra notPlain
  have hungUp : hangup revents = true := by simpa using notPlain
  have unread : anySet revents (POLLIN ||| POLLPRI ||| POLLRDHUP) = false := by
    have others := allowed hungUp
    simp only [hangup, Bool.and_eq_true, Bool.not_eq_true'] at hungUp
    rw [Channel.anySet_or, Bool.or_eq_false_iff] at others
    simp [Channel.anySet_or, hungUp.2, others.1, others.2]
  simp [Channel.handleEvent, unread, connectionCallbacks] at reads

/-- A plain dispatch stays plain. -/
theorem step_plain {label : Label O} {after : System O} (plain : s.system.phase.Plain)
    (allowed : plainHangup s label) (taken : step s.system label = .ok after) :
    after.phase.Plain := by
  cases stepped taken
  case dispatch => exact plain_handleEvent allowed
  case closing handling _ _ =>
    rw [handling] at plain
    exact fun member => plain (List.mem_cons_of_mem _ member)
  case callback handling _ _ =>
    rw [handling] at plain
    exact fun member => plain (List.mem_cons_of_mem _ member)
  case remove removing _ =>
    rw [removing] at plain
    exact plain
  case shutdown | send | acted | established => exact plain
  all_goals trivial

/-- The messages of a connection leave the announcements as they were. -/
theorem announced_messages (heard : List Notice) {id : Nat} {notices : List Notice}
    (messages : ∀ notice ∈ notices, notice = .message id) (other : Nat) :
    announcements other (heard ++ notices) = announcements other heard := by
  rw [announcements_append,
    announcements_messages other fun notice member => ⟨id, messages notice member⟩,
    List.append_nil]

/-- What a step says to the user fits what it creates and destroys.

Proof: callbacks of a dispatch bring messages of a connection that is not
destroyed; the connection callback is invoked by an establishment, for a new
connection, and by a destruction, for one that was not destroyed before. -/
theorem perform_heard {label : Label O} (traces : Traces valid s)
    (taken : s.perform label = .ok t) :
    (∀ id, announcements id t.heard =
      (if id < t.system.created then [.connected] else []) ++
        (if id ∈ t.system.destroyed then [.disconnected] else [])) ∧ Hushed t.heard := by
  obtain ⟨system, stepping, rfl⟩ := perform_ok taken
  have announced := traces.announced
  have hushed := traces.hushed
  cases stepped stepping
  case closing id revents callback callbacks active read write c effects handling handled _ =>
    have messages := notices_messages (setObject s.system.objects id c) id effects
      (handle_effects handled).1
    simp only [effectsOf_callback handling handled, announced_messages s.heard messages]
    exact ⟨announced, hushed_messages traces (handled_alive traces.apart handling) messages⟩
  case callback id revents callback callbacks active read write c effects handling handled _ =>
    have messages := notices_messages (setObject s.system.objects id c) id effects
      (handle_effects handled).1
    simp only [effectsOf_callback handling handled, announced_messages s.heard messages]
    exact ⟨announced, hushed_messages traces (handled_alive traces.apart handling) messages⟩
  case runFunctor id rest c effects running destroyed =>
    obtain ⟨isOpen, result⟩ := (connectDestoryed_ok _ _).mp destroyed
    have alive := open_alive traces.apart isOpen
    have created := traces.apart.known id (by simp [running, Phase.batch])
    simp only [effectsOf_runFunctor running destroyed, List.filterMap_cons, noticeOf,
      List.filterMap_nil]
    refine ⟨?_, hushed_announcement traces id _⟩
    intro other
    rw [announcements_append, announced other]
    obtain ⟨rfl, _⟩ := Prod.mk.inj result
    by_cases here : other = id
    · subst here
      simp [announcements, alive, setObject]
    · simp [announcements, here, Ne.symm here]
  case send id message result c effects _ sent =>
    simp only [effectsOf_send sent, send_silent sent, List.append_nil]
    exact ⟨announced, hushed⟩
  case acted label owner acted =>
    simp only [effectsOf_acted acted, List.filterMap_nil, List.append_nil]
    exact ⟨announced, hushed⟩
  case established label owner sockFd writeCompleteCallback c effects acted _ established =>
    have fresh := fresh_undestroyed traces.apart.known
    obtain ⟨rfl, _⟩ := Prod.mk.inj ((connectEstablished_ok _ _).mp established).2
    simp only [effectsOf_established acted established, List.filterMap_cons, noticeOf,
      List.filterMap_nil]
    refine ⟨?_, hushed_announcement traces _ _⟩
    intro other
    rw [announcements_append, announced other]
    by_cases here : other = s.system.created
    · subst here
      simp [announcements, fresh, setObject]
    · have bound : other < s.system.created + 1 ↔ other < s.system.created := by omega
      simp [announcements, Ne.symm here, bound]
  all_goals
    simp only [effectsOf, List.filterMap_nil, List.append_nil]
    exact ⟨announced, hushed⟩

/-- Every step whose mask meets the assumption keeps this. -/
theorem step_traces (lawful : Lawful O valid) (label : Label O) (t : Traced O)
    (traces : Traces valid s) (allowed : plainHangup s label) (taken : s.step label = .ok t) :
    Traces valid t := by
  rcases step_tested taken with rfl | ⟨-, performed⟩
  · exact traces
  · have apart := step_apart traces.apart taken
    obtain ⟨announced, hushed⟩ := perform_heard traces performed
    obtain ⟨system, stepping, rfl⟩ := perform_ok performed
    exact ⟨step_sound lawful _ system traces.sound (plain_noEof traces _) stepping,
      step_plain traces.plain allowed stepping, apart, announced, hushed⟩

/-- What the poller and the user see of the connections holds in every run whose
masks meet the assumption. -/
theorem run_traces (lawful : Lawful O valid) (labels : List (Label O)) (t : Traced O)
    (allowed : Runs.Along Traced.step plainHangup (Traced.initial O) labels)
    (reached : Runs.run Traced.step (Traced.initial O) labels = .ok t) : Traces valid t :=
  Runs.guarded_invariant Traced.step plainHangup (Traces valid)
    (fun _ label next traces met taken => step_traces lawful label next traces met taken)
    labels (Traced.initial O) t (initial_traces lawful) allowed reached

/-- The states in which the connection callback was invoked, of all connections. -/
def statesTold (heard : List Notice) : List ConnectionState :=
  heard.filterMap fun
    | .connection _ state => some state
    | .message _ => none

/-- The states told in two parts of what was heard. -/
theorem statesTold_append (earlier later : List Notice) :
    statesTold (earlier ++ later) = statesTold earlier ++ statesTold later :=
  List.filterMap_append

/-- Messages tell no states. -/
theorem statesTold_messages {id : Nat} {notices : List Notice}
    (messages : ∀ notice ∈ notices, notice = .message id) : statesTold notices = [] := by
  apply List.filterMap_eq_nil_iff.mpr
  intro notice member
  rw [messages notice member]

/-- What a step tells of connections: a new one, a destroyed one, or nothing. -/
inductive Told (s t : Traced O) : Label O → Prop where
  | nothing (label : Label O) (created : t.system.created = s.system.created)
      (destroyed : t.system.destroyed = s.system.destroyed)
      (told : statesTold t.heard = statesTold s.heard) : Told s t label
  | established (label : O.Label) (owner : O.State) (socket : Int × Bool)
      (acted : O.act s.system.owner label = .ok (owner, some socket))
      (created : t.system.created = s.system.created + 1)
      (destroyed : t.system.destroyed = s.system.destroyed)
      (told : statesTold t.heard = statesTold s.heard ++ [.connected]) : Told s t (.owner label)
  | destroyed (id : Nat) (batch : id ∈ s.system.phase.batch) (isOpen : Open (s.system.objects id))
      (created : t.system.created = s.system.created)
      (destroyed : t.system.destroyed = s.system.destroyed ++ [id])
      (told : statesTold t.heard = statesTold s.heard ++ [.disconnected]) : Told s t .runFunctor

/-- A step that returns does one of these. -/
theorem perform_told {label : Label O} (taken : s.perform label = .ok t) : Told s t label := by
  obtain ⟨system, stepping, rfl⟩ := perform_ok taken
  cases stepped stepping
  case closing id revents callback callbacks active read write c effects handling handled _ =>
    refine .nothing _ rfl rfl ?_
    have messages := notices_messages (setObject s.system.objects id c) id effects
      (handle_effects handled).1
    simp only [effectsOf_callback handling handled, statesTold_append,
      statesTold_messages messages, List.append_nil]
  case callback id revents callback callbacks active read write c effects handling handled _ =>
    refine .nothing _ rfl rfl ?_
    have messages := notices_messages (setObject s.system.objects id c) id effects
      (handle_effects handled).1
    simp only [effectsOf_callback handling handled, statesTold_append,
      statesTold_messages messages, List.append_nil]
  case runFunctor id rest c effects running destroyed =>
    obtain ⟨isOpen, result⟩ := (connectDestoryed_ok _ _).mp destroyed
    refine .destroyed id (by simp [running, Phase.batch]) isOpen rfl rfl ?_
    simp only [effectsOf_runFunctor running destroyed, statesTold_append]
    obtain ⟨rfl, _⟩ := Prod.mk.inj result
    simp [statesTold, noticeOf, setObject]
  case send id message result c effects _ sent =>
    refine .nothing _ rfl rfl ?_
    simp only [effectsOf_send sent, send_silent sent, List.append_nil]
  case acted label owner acted =>
    refine .nothing _ rfl rfl ?_
    simp only [effectsOf_acted acted, List.filterMap_nil, List.append_nil]
  case established label owner sockFd writeCompleteCallback c effects acted _ established =>
    refine .established label owner _ acted rfl rfl ?_
    simp only [effectsOf_established acted established, statesTold_append]
    obtain ⟨rfl, _⟩ := Prod.mk.inj ((connectEstablished_ok _ _).mp established).2
    simp [statesTold, noticeOf, setObject]
  all_goals
    refine .nothing _ rfl rfl ?_
    simp only [effectsOf, List.filterMap_nil, List.append_nil]

end ReactorNetwork.ConnectionLife
