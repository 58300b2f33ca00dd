import ReactorNetwork.ConnectionTrace
import ReactorNetwork.TcpServer

/-!
# Queued functors and who owns the connections

The runs of a server on one loop with the loop's queue as it is: besides the
destructions it holds the functors of `send` and the write-complete functors,
which capture a raw `this`, and functors that capture shared pointers, queued by
user code or by another thread's `shutdown`. A batch owns its functors until its
last one has returned, the called ones included.

Other threads call `send` on connections they hold a pointer to: the test of
`state_` is one step, the hand-over to the queue another. User code takes and
drops pointers and queues functors at any time, with pointers it can reach. A
functor with a raw `this` that is called when its connection has no owner ends
the run.

Every `write(2)`, every update of a channel and every executed destruction is
recorded in order.
-/

namespace ReactorNetwork.QueuedCalls

open TcpConnection ConnectionLife TcpServer

/-- What the queue holds: `connect_destoryed` and other functors with shared
pointers, and the two kinds with a raw `this`. -/
inductive Functor where
  | destroy (id : Nat)
  | shared (ids : List Nat)
  | sendInLoop (id : Nat) (message : StringView)
  | writeComplete (id : Nat)

/-- The connection a functor destroys. -/
def Functor.destroyed : Functor → List Nat
  | .destroy id => [id]
  | _ => []

/-- The connections a functor owns for user code. -/
def Functor.captured : Functor → List Nat
  | .shared ids => ids
  | _ => []

/-- The connection whose raw `this` is captured. -/
def Functor.raw : Functor → List Nat
  | .sendInLoop id _ | .writeComplete id => [id]
  | _ => []

/-- The connections that queued functors destroy, in order. -/
def destructions (functors : List Functor) : List Nat := functors.flatMap Functor.destroyed

/-- The connections that queued functors own for user code. -/
def captured (functors : List Functor) : List Nat := functors.flatMap Functor.captured

/-- The connections that queued functors name by a raw `this`. -/
def raws (functors : List Functor) : List Nat := functors.flatMap Functor.raw

/-- A call of a functor whose connection is gone, a step that is not possible, or
a failure inside the loop. -/
inductive Failure where
  | dangling
  | refused
  | loop (failure : ConnectionLife.Failure)
deriving DecidableEq

/-- A call of `write(2)`, an update of the channel, and the end of
`connect_destoryed`, each for a connection. -/
inductive Touch where
  | write (id : Nat)
  | update (id : Nat)
  | destroyed (id : Nat)
deriving DecidableEq

/-- The connection that was touched. -/
def Touch.id : Touch → Nat
  | .write id | .update id | .destroyed id => id

/-- The server's loop, its queue and batch, the pointers user code holds, and the
sends of other threads between test and hand-over, each with its own pointer. -/
structure State (name : List Char) where
  life : Traced (server name)
  pending : List Functor
  called : List Functor
  rest : List Functor
  held : List Nat
  calls : List (Nat × StringView)
  touches : List Touch

/-- Events and user calls on the loop thread, the batch, and user code of any
thread. -/
inductive Label (name : List Char) where
  | loop (label : ConnectionLife.Label (server name))
  | swap
  | call (result : WriteResult)
  | finish
  | queue (ids : List Nat)
  | hold (id : Nat)
  | drop (id : Nat)
  | test (id : Nat) (message : StringView)
  | push (index : Nat)

variable {name : List Char}

/-- A server before its first connection. -/
def initial (name : List Char) : State name where
  life := Traced.initial (server name)
  pending := []
  called := []
  rest := []
  held := []
  calls := []
  touches := []

/-- The functors that exist, the called ones of the batch included. -/
def State.functors (s : State name) : List Functor := s.called ++ s.rest ++ s.pending

/-- User code holds the connection by a pointer, in a call or in a functor. -/
def UserHolds (s : State name) (id : Nat) : Prop :=
  id ∈ s.held ∨ id ∈ s.calls.map Prod.fst ∨ id ∈ captured s.functors

/-- The connection has an owner: `connections_`, a functor or user code. -/
def Owned (s : State name) (id : Nat) : Prop :=
  (server name).holds s.life.system.owner id ∨ id ∈ destructions s.functors ∨ UserHolds s id

instance (s : State name) (id : Nat) : Decidable (UserHolds s id) :=
  inferInstanceAs (Decidable (_ ∨ _ ∨ _))

instance (owner : (server name).State) (id : Nat) : Decidable ((server name).holds owner id) :=
  inferInstanceAs (Decidable (AList.lookup (connName name id) owner = some id))

instance (s : State name) (id : Nat) : Decidable (Owned s id) :=
  inferInstanceAs (Decidable (_ ∨ _ ∨ _))

/-- `send_in_loop` tries to write at once. -/
def idle (c : TcpConnection) : Bool :=
  !c.channel.isWriting && c.outputBuffer.readableBytes == 0

/-- The write-complete functor, which `send_in_loop` and `handle_write` queue. -/
def notification : Nat × Effect → Option Functor
  | (id, .queueWriteComplete) => some (.writeComplete id)
  | _ => none

/-- The functor `remove_connection_in_loop` queues. -/
def removal (s : System (server name)) : ConnectionLife.Label (server name) → List Functor
  | .remove _ =>
      match s.phase with
      | .removing id _ _ _ => [.destroy id]
      | _ => []
  | _ => []

/-- The functors a step of the loop queues. -/
def queuedBy (s : System (server name)) (label : ConnectionLife.Label (server name)) :
    List Functor :=
  (effectsOf s label).filterMap notification ++ removal s label

/-- The call of `write(2)` in a step of the loop. -/
def attempts (s : System (server name)) : ConnectionLife.Label (server name) → List Touch
  | .callback _ _ =>
      match s.phase with
      | .handling id _ (.write :: _) _ => if (s.objects id).channel.isWriting then [.write id] else []
      | _ => []
  | .send id _ _ => if idle (s.objects id) then [.write id] else []
  | _ => []

/-- What an effect of a connection touches. -/
def touchOf : Nat × Effect → Option Touch
  | (id, .updateChannel) => some (.update id)
  | (id, .removeChannel) => some (.destroyed id)
  | _ => none

/-- What a step of the loop touches: what a callback tries to write, and what the
effects reach. -/
def touchesOf (s : System (server name)) (label : ConnectionLife.Label (server name)) :
    List Touch :=
  attempts s label ++ (effectsOf s label).filterMap touchOf

/-- A step of the loop, with what it queues and touches. -/
def State.advance (s : State name) (label : ConnectionLife.Label (server name)) :
    Except Failure (State name) :=
  match s.life.perform label with
  | .error failure => .error (.loop failure)
  | .ok life => .ok { s with
      life := life
      pending := s.pending ++ queuedBy s.life.system label
      touches := s.touches ++ touchesOf s.life.system label }

/-- Steps of the loop thread outside a batch's own order: the poller reports
registered channels, and user code calls `send` and `shutdown` with pointers it
can reach. -/
def loopStep (s : State name) : ConnectionLife.Label (server name) → Except Failure (State name)
  | .poll active =>
      if ∀ id ∈ active, s.life.registered id = true then s.advance (.poll active)
      else .error .refused
  | .send id message result =>
      if Owned s id then
        if (s.life.system.objects id).state = .connected then s.advance (.send id message result)
        else .ok s
      else .error .refused
  | .shutdown id => if Owned s id then s.advance (.shutdown id) else .error .refused
  | .swap | .runFunctor | .finishFunctors => .error .refused
  | label => s.advance label

/-- The call of one functor of the batch. What user code does inside is a step of
its own. -/
def callStep (s : State name) (functor : Functor) (rest : List Functor) (result : WriteResult) :
    Except Failure (State name) :=
  let calling := { s with called := s.called ++ [functor], rest := rest }
  match functor with
  | .destroy _ => calling.advance .runFunctor
  | .shared _ => .ok calling
  | .sendInLoop id message =>
      if Owned s id then calling.advance (.send id message result) else .error .dangling
  | .writeComplete id => if Owned s id then .ok calling else .error .dangling

/-- One step of the loop, of a queued functor or of user code in another thread. -/
def step (s : State name) : Label name → Except Failure (State name)
  | .loop label => loopStep s label
  | .swap => do
      let swapped ← s.advance .swap
      pure { swapped with called := [], rest := s.pending, pending := [] }
  | .call result =>
      match s.rest with
      | [] => .error .refused
      | functor :: rest => callStep s functor rest result
  | .finish =>
      match s.rest with
      | [] => do
          let finished ← s.advance .finishFunctors
          pure { finished with called := [] }
      | _ :: _ => .error .refused
  | .queue ids =>
      if ∀ id ∈ ids, Owned s id then pure { s with pending := s.pending ++ [.shared ids] }
      else .error .refused
  | .hold id => if Owned s id then pure { s with held := id :: s.held } else .error .refused
  | .drop id => if id ∈ s.held then pure { s with held := s.held.erase id } else .error .refused
  | .test id message =>
      if id ∈ s.held then
        if (s.life.system.objects id).state = .connected then
          pure { s with calls := s.calls ++ [(id, message)] }
        else pure s
      else .error .refused
  | .push index =>
      match s.calls[index]? with
      | some (id, message) => pure { s with
          calls := s.calls.eraseIdx index
          pending := s.pending ++ [.sendInLoop id message] }
      | none => .error .refused

variable {s t : State name}

/-- The loop performs a label, queues the functors of its effects and records what it
touches. -/
theorem advance_ok {label : ConnectionLife.Label (server name)} (taken : s.advance label = .ok t) :
    ∃ life, s.life.perform label = .ok life ∧ t = { s with
      life := life
      pending := s.pending ++ queuedBy s.life.system label
      touches := s.touches ++ touchesOf s.life.system label } := by
  unfold State.advance at taken
  split at taken
  case h_1 => cases taken
  case h_2 life performed => exact ⟨life, performed, (Except.ok.inj taken).symm⟩

/-- A step of the loop calls no functor, so it finds none dangling. -/
theorem advance_anchored (s : State name) (label : ConnectionLife.Label (server name)) :
    s.advance label ≠ .error .dangling := by
  unfold State.advance
  split
  · intro failed
    cases failed
  · intro failed
    cases failed

/-- What a step leaves of the loop's part: nothing changes, or the loop performs a
label. That label passed its test, or it is the send of a called functor. -/
inductive Moved (s : State name) (label : Label name) (t : State name) : Prop where
  | still (life : t.life = s.life) (touches : t.touches = s.touches)
  | performed (inner : ConnectionLife.Label (server name)) (tested : Tested s.life inner)
      (performed : s.life.perform inner = .ok t.life)
      (touches : t.touches = s.touches ++ touchesOf s.life.system inner)
  | sent (id : Nat) (message : StringView) (result : WriteResult) (rest : List Functor)
      (calls : label = .call result) (next : s.rest = .sendInLoop id message :: rest)
      (performed : s.life.perform (.send id message result) = .ok t.life)
      (touches : t.touches = s.touches ++ touchesOf s.life.system (.send id message result))

/-- A label that passed its test moves the loop's part by that label. -/
theorem advance_moved {label : Label name} {inner : ConnectionLife.Label (server name)}
    (taken : s.advance inner = .ok t) (tested : Tested s.life inner) : Moved s label t := by
  obtain ⟨life, performed, rfl⟩ := advance_ok taken
  exact .performed inner tested performed rfl

/-- A step of the loop moves its part by a tested label, or leaves it alone. -/
theorem loopStep_moved {label : Label name} {inner : ConnectionLife.Label (server name)}
    (taken : loopStep s inner = .ok t) : Moved s label t := by
  cases inner
  case poll active =>
    simp only [loopStep] at taken
    split at taken
    case isFalse => cases taken
    case isTrue reported => exact advance_moved taken reported
  case send id message result =>
    simp only [loopStep] at taken
    split at taken
    case isFalse => cases taken
    case isTrue =>
      split at taken
      case isFalse =>
        obtain rfl := Except.ok.inj taken
        exact .still rfl rfl
      case isTrue connected => exact advance_moved taken connected
  case shutdown id =>
    simp only [loopStep] at taken
    split at taken
    case isFalse => cases taken
    case isTrue => exact advance_moved taken trivial
  case swap | runFunctor | finishFunctors => cases taken
  all_goals exact advance_moved taken trivial

/-- So does every other step, but for the called `send_in_loop`, which tests nothing. -/
theorem step_moved {label : Label name} (taken : step s label = .ok t) : Moved s label t := by
  cases label
  case loop inner => exact loopStep_moved taken
  case swap =>
    obtain ⟨swapped, advanced, same⟩ := (bind_ok _ _ _).mp taken
    obtain rfl := (pure_ok _ _).mp same
    obtain ⟨life, performed, rfl⟩ := advance_ok advanced
    exact .performed .swap trivial performed rfl
  case call result =>
    simp only [step] at taken
    split at taken
    case h_1 => cases taken
    case h_2 functor rest next =>
      cases functor with
      | destroy id =>
        obtain ⟨life, performed, rfl⟩ := advance_ok taken
        exact .performed .runFunctor trivial performed rfl
      | shared ids =>
        obtain rfl := Except.ok.inj taken
        exact .still rfl rfl
      | sendInLoop id message =>
        simp only [callStep] at taken
        split at taken
        case isFalse => cases taken
        case isTrue =>
          obtain ⟨life, performed, rfl⟩ := advance_ok taken
          exact .sent id message result rest rfl next performed rfl
      | writeComplete id =>
        simp only [callStep] at taken
        split at taken
        case isFalse => cases taken
        case isTrue =>
          obtain rfl := Except.ok.inj taken
          exact .still rfl rfl
  case finish =>
    simp only [step] at taken
    split at taken
    case h_2 => cases taken
    case h_1 =>
      obtain ⟨finished, advanced, same⟩ := (bind_ok _ _ _).mp taken
      obtain rfl := (pure_ok _ _).mp same
      obtain ⟨life, performed, rfl⟩ := advance_ok advanced
      exact .performed .finishFunctors trivial performed rfl
  all_goals
    simp only [step] at taken
    repeat' split at taken
    all_goals cases taken
    all_goals exact .still rfl rfl

end ReactorNetwork.QueuedCalls
