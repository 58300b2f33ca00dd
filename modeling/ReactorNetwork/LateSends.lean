import ReactorNetwork.QueuedCalls

/-!
# Sends that come after the destruction

A destroyed connection should stay out of the poller: after `connect_destoryed`
nobody writes to its descriptor or updates its channel. The events of the loop
keep to that, since the poller reports registered channels only, and so does
`send` on the loop thread, which tests the state. A `send` of another thread
tests the state too, but the functor it queues does not: `send_in_loop` runs
whatever has happened since.

The law is exact for every run: a destroyed connection stays out as long as no
queued `send_in_loop` that would write or enable writing is called for a
destroyed connection.
-/

namespace ReactorNetwork.QueuedCalls

open TcpConnection ConnectionLife TcpServer

variable {name : List Char} {s t : State name}

/-- Nothing is written or updated for a connection after its destruction. -/
def Unrevived (touches : List Touch) : Prop :=
  touches.Pairwise fun earlier later => ∀ id, earlier = .destroyed id → later.id ≠ id

/-- A destroyed connection is not touched again and not registered. -/
structure StaysOut (s : State name) : Prop where
  unrevived : Unrevived s.touches
  unregistered : ∀ id ∈ s.life.system.destroyed, s.life.registered id = false

/-- `send_in_loop` writes at once, or it buffers and enables writing. -/
def sendTouches (c : TcpConnection) (message : StringView) : Bool :=
  !c.channel.isWriting && (c.outputBuffer.readableBytes == 0 || !message.bytes.isEmpty)

/-- The next functor is a `send_in_loop` that would touch a destroyed connection. -/
def lateSend (s : State name) : Bool :=
  match s.rest with
  | .sendInLoop id message :: _ =>
      decide (id ∈ s.life.system.destroyed) && sendTouches (s.life.system.objects id) message
  | _ => false

/-- A queued `send_in_loop` that would touch a destroyed connection is not
called. -/
def sendsInTime (s : State name) : Label name → Prop
  | .call _ => lateSend s = false
  | _ => True

instance (s : State name) (label : Label name) : Decidable (sendsInTime s label) :=
  match label with
  | .call _ => inferInstanceAs (Decidable (_ = false))
  | .loop _ | .swap | .finish | .queue _ | .hold _ | .drop _ | .test _ _ | .push _ => isTrue trivial

section Sends

variable {c after : TcpConnection} {message : StringView} {result : WriteResult}
  {effects : List Effect}

/-- Nothing is offered to the kernel while writing is awaited or bytes are
buffered. -/
theorem writeDirectly_waiting (c : TcpConnection) (message : List Byte) (result : WriteResult)
    (waiting : idle c = false) : c.writeDirectly message result = (0, []) := by
  unfold writeDirectly
  rw [if_neg]
  simpa [idle] using waiting

/-- A touching `send_in_loop` calls `write` or updates the channel. -/
theorem sendInLoop_touches (returned : c.sendInLoop message result = .ok (after, effects))
    (touching : sendTouches c message = true) :
    idle c = true ∨ Effect.updateChannel ∈ effects := by
  by_cases waiting : idle c = false
  · right
    have buffered : c.channel.isWriting = false ∧ 0 < message.bytes.length := by
      simp only [sendTouches, idle, Bool.and_eq_true, Bool.or_eq_true, Bool.not_eq_true',
        Bool.and_eq_false_iff] at touching waiting
      simp_all [List.length_pos_iff]
    simp only [sendInLoop, writeDirectly_waiting c message.bytes result waiting, buffered.1,
      if_pos buffered.2] at returned
    obtain ⟨_, _, continued⟩ := (bind_ok _ _ _).mp returned
    obtain ⟨_, rfl⟩ := Prod.mk.inj ((pure_ok _ _).mp continued)
    simp
  · exact Or.inl (by simpa using waiting)

/-- A `send_in_loop` that does not touch has no effects. -/
theorem sendInLoop_silent (returned : c.sendInLoop message result = .ok (after, effects))
    (silent : sendTouches c message = false) : idle c = false ∧ effects = [] := by
  have waiting : idle c = false := by
    simp only [sendTouches, idle, Bool.and_eq_false_iff, Bool.or_eq_false_iff] at silent ⊢
    rcases silent with writing | ⟨nonempty, _⟩
    · exact Or.inl writing
    · exact Or.inr nonempty
  refine ⟨waiting, ?_⟩
  simp only [sendInLoop, writeDirectly_waiting c message.bytes result waiting] at returned
  split at returned
  · rename_i more
    have writing : c.channel.isWriting = true := by
      simp only [sendTouches, Bool.and_eq_false_iff, Bool.or_eq_false_iff] at silent
      rcases silent with writing | ⟨_, empty⟩
      · simpa using writing
      · simp_all [List.length_pos_iff]
    obtain ⟨_, _, continued⟩ := (bind_ok _ _ _).mp returned
    rw [if_pos writing] at continued
    exact (Prod.mk.inj ((pure_ok _ _).mp continued)).2.symm
  · exact (Prod.mk.inj ((pure_ok _ _).mp returned)).2.symm

end Sends

section Touches

variable {system after : System (server name)} {label : ConnectionLife.Label (server name)}

/-- The touches of effects that remove no channel are updates. -/
theorem touches_updates (id : Nat) {effects : List Effect} (kept : Effect.removeChannel ∉ effects) :
    ∀ touch ∈ (effects.map fun effect => (id, effect)).filterMap touchOf, touch = .update id := by
  intro touch member
  rw [List.filterMap_map, List.mem_filterMap] at member
  obtain ⟨effect, inside, told⟩ := member
  cases effect <;> simp_all [touchOf]

/-- What a step of the loop touches: the connection it is about, by writing and
updating, or the one it destroys, which is updated and then gone. -/
inductive TouchedBy (system after : System (server name))
    (label : ConnectionLife.Label (server name)) : Prop where
  | writes (id : Nat) (kept : after.destroyed = system.destroyed)
      (touched : ∀ touch ∈ touchesOf system label, touch = .write id ∨ touch = .update id)
      (whose : id ∈ system.phase.dispatched ∨ (∃ message result, label = .send id message result) ∨
        id = system.created)
  | destroys (id : Nat) (isOpen : Open (system.objects id))
      (added : after.destroyed = system.destroyed ++ [id])
      (touched : touchesOf system label = [.update id, .destroyed id])

/-- A callback tries to write to its own connection only. -/
theorem attempts_callback {id : Nat} {revents : EventMask} {callbacks : List Callback}
    {active : List Nat} (handling : system.phase = .handling id revents callbacks active)
    (read : ReadvResult) (write : WriteResult) :
    ∀ touch ∈ attempts system (.callback read write), touch = .write id := by
  intro touch member
  simp only [attempts, handling] at member
  split at member
  · split at member
    · simp_all
    · cases member
  · cases member

/-- A step that returns touches one connection, in one of these ways. -/
theorem touchedBy (taken : ConnectionLife.step system label = .ok after) :
    TouchedBy system after label := by
  cases stepped taken
  case closing id revents callback callbacks active read write c effects handling handled _ =>
    refine .writes id rfl ?_ (Or.inl (by simp [handling, Phase.dispatched]))
    intro touch member
    rw [touchesOf, effectsOf_callback handling handled] at member
    rcases List.mem_append.mp member with attempt | effect
    · exact Or.inl (attempts_callback handling read write touch attempt)
    · exact Or.inr (touches_updates id (handle_effects handled).2 touch effect)
  case callback id revents callback callbacks active read write c effects handling handled _ =>
    refine .writes id rfl ?_ (Or.inl (by simp [handling, Phase.dispatched]))
    intro touch member
    rw [touchesOf, effectsOf_callback handling handled] at member
    rcases List.mem_append.mp member with attempt | effect
    · exact Or.inl (attempts_callback handling read write touch attempt)
    · exact Or.inr (touches_updates id (handle_effects handled).2 touch effect)
  case runFunctor id rest c effects running destroyed =>
    refine .destroys id ((connectDestoryed_ok _ _).mp destroyed).1 rfl ?_
    rw [touchesOf, effectsOf_runFunctor running destroyed]
    rfl
  case send id message result c effects _ sent =>
    refine .writes id rfl ?_ (Or.inr (Or.inl ⟨message, result, rfl⟩))
    intro touch member
    rw [touchesOf, effectsOf_send sent] at member
    rcases List.mem_append.mp member with attempt | effect
    · simp only [attempts] at attempt
      split at attempt
      · exact Or.inl (List.mem_singleton.mp attempt)
      · cases attempt
    · refine Or.inr (touches_updates id ?_ touch effect)
      exact fun removal => by cases (sendInLoop_state sent).2 _ removal
  case acted label owner acted =>
    refine .writes system.created rfl ?_ (Or.inr (Or.inr rfl))
    simp [touchesOf, attempts, effectsOf_acted acted]
  case established label owner sockFd writeCompleteCallback c effects acted _ established =>
    refine .writes system.created rfl ?_ (Or.inr (Or.inr rfl))
    simp [touchesOf, attempts, effectsOf_established acted established, touchOf]
  all_goals
    refine .writes system.created rfl ?_ (Or.inr (Or.inr rfl))
    simp [touchesOf, attempts, effectsOf]

end Touches

/-- The destructions executed are those on record. -/
def Recorded (s : State name) : Prop :=
  ∀ id, Touch.destroyed id ∈ s.touches ↔ id ∈ s.life.system.destroyed

/-- A performed label records what it destroys. -/
theorem performed_recorded {inner : ConnectionLife.Label (server name)} (recorded : Recorded s)
    (performed : s.life.perform inner = .ok t.life)
    (touches : t.touches = s.touches ++ touchesOf s.life.system inner) : Recorded t := by
  obtain ⟨system, stepping, same⟩ := perform_ok performed
  have reached : t.life.system = system := by rw [same]
  intro id
  rw [touches, reached, List.mem_append, recorded id]
  cases touchedBy stepping with
  | writes whose kept touched _ =>
    rw [kept]
    constructor
    · rintro (before | now)
      · exact before
      · rcases touched _ now with written | updated
        · cases written
        · cases updated
    · exact Or.inl
  | destroys gone _ added touched =>
    rw [added, touched]
    simp

/-- Every step records the destructions it executes. -/
theorem step_recorded (label : Label name) (recorded : Recorded s)
    (taken : step s label = .ok t) : Recorded t := by
  cases step_moved taken with
  | still life touches =>
    unfold Recorded
    rw [life, touches]
    exact recorded
  | performed inner _ performed touches => exact performed_recorded recorded performed touches
  | sent id message result rest _ _ performed touches =>
    exact performed_recorded recorded performed touches

/-- The loop keeps apart from destroyed connections, and they stay out. -/
structure Tidy (s : State name) : Prop where
  apart : Apart s.life
  recorded : Recorded s
  unrevived : Unrevived s.touches

/-- Before the first connection nothing was touched. -/
theorem initial_tidy (name : List Char) : Tidy (initial name) where
  apart := initial_apart
  recorded := by
    intro id
    constructor
    · intro member
      cases member
    · intro member
      cases member
  unrevived := List.Pairwise.nil

/-- Touches of connections that are not destroyed revive none. -/
theorem unrevived_append (tidy : Tidy s) {touches : List Touch} (ordered : Unrevived touches)
    (alive : ∀ touch ∈ touches, touch.id ∉ s.life.system.destroyed) :
    Unrevived (s.touches ++ touches) := by
  refine List.pairwise_append.mpr ⟨tidy.unrevived, ordered, ?_⟩
  intro earlier before later now id gone same
  apply alive later now
  rw [same]
  exact (tidy.recorded id).mp (gone ▸ before)

/-- An admitted label of the loop keeps destroyed connections out.

Proof: it touches a connection that is dispatched, sent on or new, none of which
is destroyed, or it destroys an open one, and then the update comes first. -/
theorem performed_tidy {inner : ConnectionLife.Label (server name)} (tidy : Tidy s)
    (admitted : Admitted s.life inner) (performed : s.life.perform inner = .ok t.life)
    (touches : t.touches = s.touches ++ touchesOf s.life.system inner) : Tidy t := by
  refine ⟨perform_apart tidy.apart admitted performed,
    performed_recorded tidy.recorded performed touches, ?_⟩
  obtain ⟨system, stepping, _⟩ := perform_ok performed
  rw [touches]
  cases touchedBy stepping with
  | writes id _ touched whose =>
    have alive : id ∉ s.life.system.destroyed := by
      rcases whose with dispatched | ⟨message, result, rfl⟩ | rfl
      · exact tidy.apart.live id dispatched
      · exact admitted
      · exact fresh_undestroyed tidy.apart.known
    refine unrevived_append tidy ?_ ?_
    · refine List.pairwise_of_forall_mem_list ?_
      intro earlier first later _ other gone
      rcases touched earlier first with rfl | rfl
      · cases gone
      · cases gone
    · intro touch member
      rcases touched touch member with rfl | rfl
      · exact alive
      · exact alive
  | destroys id isOpen _ touched =>
    have alive := open_alive tidy.apart isOpen
    rw [touched]
    refine unrevived_append tidy ?_ ?_
    · simp [Unrevived]
    · simpa [Touch.id] using alive

/-- A queued `send_in_loop` that touches nothing keeps destroyed connections out. -/
theorem silent_tidy {id : Nat} {message : StringView} {result : WriteResult} (tidy : Tidy s)
    (silent : sendTouches (s.life.system.objects id) message = false)
    (performed : s.life.perform (.send id message result) = .ok t.life)
    (touches : t.touches = s.touches ++ touchesOf s.life.system (.send id message result)) :
    Tidy t := by
  obtain ⟨system, stepping, reached⟩ := perform_ok performed
  have known := step_known tidy.apart.known stepping
  cases stepped stepping
  case send c effects created sent =>
    obtain ⟨waiting, rfl⟩ := sendInLoop_silent sent silent
    have none : effectsOf s.life.system (.send id message result) = [] := effectsOf_send sent
    have untouched : t.touches = s.touches := by
      rw [touches, touchesOf, none]
      simp [attempts, waiting]
    rw [none] at reached
    have state := (sendInLoop_state sent).1
    refine ⟨?_, performed_recorded tidy.recorded performed touches, untouched ▸ tidy.unrevived⟩
    rw [reached]
    refine ⟨known, ?_, tidy.apart.live, tidy.apart.registered⟩
    intro other member
    by_cases here : other = id
    · subst here
      simpa [setObject, state] using tidy.apart.gone other member
    · simpa [setObject, here] using tidy.apart.gone other member

/-- Every step whose queued sends are in time keeps this. -/
theorem step_tidy (label : Label name) (tidy : Tidy s) (inTime : sendsInTime s label)
    (taken : step s label = .ok t) : Tidy t := by
  cases step_moved taken with
  | still life touches =>
    refine ⟨life ▸ tidy.apart, step_recorded label tidy.recorded taken, ?_⟩
    rw [touches]
    exact tidy.unrevived
  | performed inner tested performed touches =>
    exact performed_tidy tidy (admitted_of_tested tidy.apart tested) performed touches
  | sent id message result rest calls next performed touches =>
    by_cases gone : id ∈ s.life.system.destroyed
    · subst calls
      have silent : sendTouches (s.life.system.objects id) message = false := by
        simpa [sendsInTime, lateSend, next, gone] using inTime
      exact silent_tidy tidy silent performed touches
    · have admitted : Admitted s.life (.send id message result) := gone
      exact performed_tidy tidy admitted performed touches

/-- In a tidy state destroyed connections are out. -/
theorem staysOut_of_tidy (tidy : Tidy s) : StaysOut s where
  unrevived := tidy.unrevived
  unregistered := by
    intro id gone
    by_contra present
    exact (tidy.apart.registered id (by simpa using present)).2 gone

/-- A late `send_in_loop` touches a destroyed connection. -/
theorem late_revives (label : Label name) (recorded : Recorded s) (late : ¬ sendsInTime s label)
    (taken : step s label = .ok t) : ¬ Unrevived t.touches := by
  cases label
  case call result =>
    cases next : s.rest with
    | nil => simp [sendsInTime, lateSend, next] at late
    | cons functor rest =>
      cases functor with
      | destroy id => simp [sendsInTime, lateSend, next] at late
      | shared ids => simp [sendsInTime, lateSend, next] at late
      | writeComplete id => simp [sendsInTime, lateSend, next] at late
      | sendInLoop id message =>
        simp only [sendsInTime, lateSend, next, Bool.not_eq_false, Bool.and_eq_true,
          decide_eq_true_eq] at late
        obtain ⟨gone, touching⟩ := late
        simp only [step, next, callStep] at taken
        split at taken
        case isFalse => cases taken
        case isTrue =>
          obtain ⟨life, performed, rfl⟩ := advance_ok taken
          obtain ⟨system, stepping, -⟩ := perform_ok performed
          cases stepped stepping
          case send c effects _ sent =>
            have revived : ∃ touch ∈ touchesOf s.life.system (.send id message result),
                touch.id = id := by
              rcases sendInLoop_touches sent touching with direct | updated
              · refine ⟨.write id, List.mem_append.mpr (Or.inl ?_), rfl⟩
                simp [attempts, direct]
              · refine ⟨.update id, List.mem_append.mpr (Or.inr ?_), rfl⟩
                rw [effectsOf_send sent, List.filterMap_map]
                exact List.mem_filterMap.mpr ⟨_, updated, rfl⟩
            obtain ⟨touch, member, whose⟩ := revived
            intro unrevived
            have apart := (List.pairwise_append.mp unrevived).2.2
            exact apart _ ((recorded id).mpr gone) touch member id rfl whose
  all_goals exact absurd trivial late

/-- A run only adds to the record. -/
theorem run_touches (labels : List (Label name)) (recorded : Recorded s)
    (reached : Runs.run step s labels = .ok t) : Recorded t ∧ s.touches <+: t.touches := by
  refine Runs.invariant step (fun state => Recorded state ∧ s.touches <+: state.touches) ?_
    labels s t ⟨recorded, List.prefix_refl _⟩ reached
  rintro state label next ⟨before, grown⟩ taken
  refine ⟨step_recorded label before taken, ?_⟩
  cases step_moved taken with
  | still _ touches => rw [touches]; exact grown
  | performed inner _ _ touches =>
    rw [touches]
    exact grown.trans (List.prefix_append _ _)
  | sent id message result rest _ _ _ touches =>
    rw [touches]
    exact grown.trans (List.prefix_append _ _)

/-- In every run of a server on one loop, with other threads sending at any time:
destroyed connections stay out of the poller and unwritten exactly when no queued
`send_in_loop` that would write or enable writing is called for a destroyed
connection.

Proof: a late call leaves a touch behind the destruction on record, and the record
only grows. -/
theorem destroyed_stay_out_iff (name : List Char) (labels : List (Label name)) (s : State name)
    (reached : Runs.run step (initial name) labels = .ok s) :
    StaysOut s ↔ Runs.Along step sendsInTime (initial name) labels := by
  have start := initial_tidy name
  constructor
  · intro staysOut
    by_contra violated
    obtain ⟨before, label, after, middle, next, _, arrived, late, taken, continued⟩ :=
      Runs.not_along step sendsInTime labels (initial name) s reached violated
    have recorded := (run_touches before start.recorded arrived).1
    have grown := (run_touches after (step_recorded label recorded taken) continued).2
    exact late_revives label recorded late taken (staysOut.unrevived.sublist grown.sublist)
  · intro along
    exact staysOut_of_tidy (Runs.guarded_invariant step sendsInTime Tidy
      (fun _ label next tidy inTime taken => step_tidy label tidy inTime taken)
      labels (initial name) s start along reached)

/-- A connection is accepted, and another thread takes a pointer to it. -/
def acceptedAndHeld : List (Label []) :=
  [.loop (.poll []), .loop (.owner ⟨5, false⟩), .hold 0, .swap, .finish, .loop (.poll [0]),
    .loop (.dispatch POLLIN)]

/-- The thread hands its message over before the peer's close is handled. -/
def sentBeforeClose : List (Label []) :=
  acceptedAndHeld ++ [.test 0 ⟨[13, 14], by decide⟩, .push 0,
    .loop (.callback (.received []) (.failed 0)), .loop (.remove ()),
    .loop .finishEvent, .swap, .call (.accepted 2), .call (.failed 0), .finish]

/-- The thread tests the state before the peer's close is handled and hands its
message over afterwards, behind the queued destruction. -/
def sentAfterClose : List (Label []) :=
  acceptedAndHeld ++ [.test 0 ⟨[13, 14], by decide⟩, .loop (.callback (.received []) (.failed 0)),
    .loop (.remove ()), .push 0, .loop .finishEvent, .swap, .call (.failed 0), .call (.accepted 1)]

/-- The message is written before the destruction, behind which nothing is touched. -/
theorem destroyed_stay_out_sent_before_close :
    ∃ s, Runs.run step (initial []) sentBeforeClose = .ok s ∧
      s.touches = [.update 0, .update 0, .write 0, .update 0, .destroyed 0] ∧ StaysOut s := by
  have computed : (Runs.run step (initial []) sentBeforeClose).map State.touches =
      .ok [.update 0, .update 0, .write 0, .update 0, .destroyed 0] := by decide +kernel
  obtain ⟨s, reached, computed⟩ := (Runs.map_returned _ _ _).mp computed
  have staysOut := (destroyed_stay_out_iff [] _ s reached).mpr (by decide +kernel)
  exact ⟨s, reached, computed, staysOut⟩

/-- A functor handed over behind the destruction writes to the descriptor of the
destroyed connection and registers its channel again. -/
theorem sent_after_close_revives :
    ¬ ∀ (name : List Char) (labels : List (Label name)) (s : State name),
      Runs.run step (initial name) labels = .ok s → StaysOut s := by
  intro claimed
  have computed : (Runs.run step (initial []) sentAfterClose).map
      (fun s => (s.touches, s.life.system.destroyed, s.life.registered 0)) =
      .ok ([.update 0, .update 0, .update 0, .destroyed 0, .write 0, .update 0], [0], true) := by
    decide +kernel
  obtain ⟨s, reached, computed⟩ := (Runs.map_returned _ _ _).mp computed
  simp only [Prod.mk.injEq] at computed
  obtain ⟨_, destroyed, registered⟩ := computed
  have out := (claimed [] _ s reached).unregistered 0 (by simp [destroyed])
  rw [registered] at out
  cases out

end ReactorNetwork.QueuedCalls
