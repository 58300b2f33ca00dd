import ReactorNetwork.CloseAccount
import ReactorNetwork.TcpServer
import ReactorNetwork.TcpClient

/-!
# Closing once

For a server and for a client on one loop: a run closes every connection at most
once, with the assertions of the removal and of `connect_destoryed` passing
throughout, exactly when no dispatch reads an end of file after its hang-up
branch. A mask with a hang-up and without readable data takes that branch, and
the urgent or peer-shutdown bit lets the same dispatch read as well.

Both directions hold of the final state of every run, hence of every state a run
passes through.
-/

namespace ReactorNetwork.ConnectionLife

open TcpConnection

variable {O : Owner} {valid : O.State → Prop} {s : System O}

/-- No connection is closed or destroyed twice, and whatever the next step is,
the owner finds the connection it removes and `connect_destoryed` the state it
asserts. -/
structure ClosedOnce (s : System O) : Prop where
  closedOnce : ∀ id, s.closed.count id ≤ 1
  destroyedOnce : ∀ id, s.destroyed.count id ≤ 1
  removalPasses : ∀ label, step s label ≠ .error .removal
  destructionPasses : ∀ label, step s label ≠ .error .destroyedState

/-- A named assertion fails only inside a removal, or in a queued destruction. -/
theorem named_from (lawful : Lawful O valid) (label : Label O) {failure : Failure}
    (named : Named failure) (failed : step s label = .error failure) :
    (∃ id revents callbacks active choice, s.phase = .removing id revents callbacks active ∧
        O.remove s.owner id choice = .error failure) ∨
      ∃ id rest, s.phase = .running (id :: rest) ∧
        ∀ result, (s.objects id).connectDestoryed ≠ .ok result := by
  have enabled : failure ≠ .notEnabled := by
    rcases named with rfl | rfl <;> simp
  cases label
  -- These steps are refused or return; nothing else can end them.
  case poll | dispatch | finishEvent | swap | finishFunctors | shutdown =>
    simp only [step] at failed
    repeat' split at failed
    all_goals cases failed
    all_goals exact absurd rfl enabled
  case remove choice =>
    simp only [step] at failed
    split at failed
    case h_2 => exact absurd (Except.error.inj failed).symm enabled
    case h_1 id revents callbacks active removing =>
      rcases (bind_failed _ _ _).mp failed with inside | ⟨owner, _, after⟩
      · exact Or.inl ⟨id, revents, callbacks, active, choice, removing, inside⟩
      · cases after
  case runFunctor =>
    simp only [step] at failed
    split at failed
    case h_2 => exact absurd (Except.error.inj failed).symm enabled
    case h_1 id rest running =>
      rcases (bind_failed _ _ _).mp failed with inside | ⟨result, _, after⟩
      · refine Or.inr ⟨id, rest, running, ?_⟩
        intro result returned
        rw [returned] at inside
        cases inside
      · cases after
  case callback read write =>
    simp only [step] at failed
    split at failed
    case h_2 => exact absurd (Except.error.inj failed).symm enabled
    case h_1 =>
      rcases (bind_failed _ _ _).mp failed with inside | ⟨⟨c, effects⟩, _, after⟩
      · exact absurd inside (handle_unnamed _ _ _ _ named)
      · split at after <;> cases after
  case send id message result =>
    simp only [step] at failed
    split at failed
    · rcases (bind_failed _ _ _).mp failed with inside | ⟨sent, _, after⟩
      · exact absurd inside (lift_unnamed _ named)
      · cases after
    · exact absurd (Except.error.inj failed).symm enabled
  case owner label =>
    have quiet : O.act s.owner label ≠ .error failure := by
      rcases named with rfl | rfl
      · exact (lawful.act_quiet s.owner label).1
      · exact (lawful.act_quiet s.owner label).2
    rcases (bind_failed _ _ _).mp failed with inside | ⟨⟨owner, socket⟩, _, after⟩
    · exact absurd inside quiet
    · cases socket with
      | none => cases after
      | some socket =>
        simp only at after
        split at after
        · rcases (bind_failed _ _ _).mp after with inside | ⟨result, _, last⟩
          · exact absurd inside (lift_unnamed _ named)
          · cases last
        · cases after
          rcases named with named | named <;> cases named

/-- Inside a removal the owner still holds the connection. -/
theorem removing_held (sound : Sound valid s) {id : Nat} {revents : EventMask}
    {callbacks : List Callback} {active : List Nat}
    (removing : s.phase = .removing id revents callbacks active) : O.holds s.owner id := by
  have inTurn := sound.inTurn
  simp only [InTurn, removing] at inTurn
  have balanced := sound.balanced id
  have once := sound.once id
  rw [removing] at balanced
  rw [sound.held, removing]
  simp only [Phase.removed, List.count_singleton_self] at balanced ⊢
  exact ⟨inTurn.2.1 id List.mem_cons_self, by omega⟩

/-- A state whose account is kept closes nothing twice, and the named assertions
pass in it. -/
theorem closedOnce_of_sound (lawful : Lawful O valid) (sound : Sound valid s) : ClosedOnce s := by
  have passes : ∀ failure label, Named failure → step s label ≠ .error failure := by
    intro failure label named failed
    rcases named_from lawful label named failed with
      ⟨id, revents, callbacks, active, choice, removing, inside⟩ | ⟨id, rest, running, fails⟩
    · rcases named with rfl | rfl
      · exact lawful.remove_held s.owner id choice sound.ownerValid
          (removing_held sound removing) inside
      · exact lawful.remove_quiet s.owner id choice inside
    · exact fails _ ((connectDestoryed_ok _ _).mpr ⟨running_open sound running, rfl⟩)
  refine ⟨sound.once, ?_, ?_, ?_⟩
  · intro id
    have once := sound.once id
    have balanced := sound.balanced id
    omega
  · exact fun label => passes _ label (Or.inl rfl)
  · exact fun label => passes _ label (Or.inr rfl)

/-- In every run that meets the condition at each step, every connection is
closed at most once and the named assertions pass. -/
theorem run_closedOnce (lawful : Lawful O valid) (labels : List (Label O)) (t : System O)
    (guarded : Runs.Along step noEofAfterHangup (initial O) labels)
    (reached : Runs.run step (initial O) labels = .ok t) : ClosedOnce t :=
  closedOnce_of_sound lawful (run_sound lawful labels t guarded reached)

section Exactness

/-- Once the close callback of a hang-up dispatch is behind, it has been invoked. -/
def HangupClosed (s : System O) : Prop :=
  match s.phase with
  | .handling id revents callbacks _ | .removing id revents callbacks _ =>
      callbacks <:+ Channel.handleEvent connectionCallbacks revents ∧
        (hangup revents = true → Callback.close ∉ callbacks → id ∈ s.closed)
  | _ => True

/-- A hang-up without data invokes the close callback. -/
theorem close_mem_of_hangup {revents : EventMask} (hungUp : hangup revents = true) :
    Callback.close ∈ Channel.handleEvent connectionCallbacks revents := by
  unfold hangup at hungUp
  simp [Channel.handleEvent, hungUp, connectionCallbacks]

/-- Every step keeps the record of close callbacks and adds to it at most. -/
theorem step_record (label : Label O) (t : System O) (hangupClosed : HangupClosed s)
    (taken : step s label = .ok t) : HangupClosed t ∧ s.closed <+: t.closed := by
  cases stepped taken with
  | poll | finishEvent | swap | finishFunctors | runFunctor =>
    exact ⟨trivial, List.prefix_refl _⟩
  | shutdown | send | acted | established =>
    exact ⟨hangupClosed, List.prefix_refl _⟩
  | dispatch =>
    refine ⟨⟨List.suffix_refl _, ?_⟩, List.prefix_refl _⟩
    exact fun hungUp behind => absurd (close_mem_of_hangup hungUp) behind
  | closing id revents callback callbacks active read write c effects handling =>
    simp only [HangupClosed, handling] at hangupClosed
    have rest := (List.suffix_cons callback callbacks).trans hangupClosed.1
    exact ⟨⟨rest, fun _ _ => by simp⟩, List.prefix_append _ _⟩
  | callback id revents callback callbacks active read write c effects handling handled
      uninvoked =>
    simp only [HangupClosed, handling] at hangupClosed
    obtain ⟨suffix, before⟩ := hangupClosed
    refine ⟨⟨(List.suffix_cons callback callbacks).trans suffix, ?_⟩, List.prefix_refl _⟩
    -- a close callback always invokes, so this one is not it
    intro hungUp behind
    apply before hungUp
    intro member
    rcases List.mem_cons.mp member with here | later
    · exact uninvoked ((handle_state handled).2.1.mpr (Or.inl here.symm))
    · exact behind later
  | remove id revents callbacks active choice owner removing =>
    simp only [HangupClosed, removing] at hangupClosed
    exact ⟨hangupClosed, List.prefix_refl _⟩

/-- A run keeps what is on record from any of its states on. -/
theorem run_record (labels : List (Label O)) (t : System O) (hangupClosed : HangupClosed s)
    (reached : Runs.run step s labels = .ok t) : HangupClosed t ∧ s.closed <+: t.closed :=
  Runs.invariant step (fun state => HangupClosed state ∧ s.closed <+: state.closed)
    (fun _ label next record taken =>
      have kept := step_record label next record.1 taken
      ⟨kept.1, record.2.trans kept.2⟩)
    labels s t ⟨hangupClosed, List.prefix_refl _⟩ reached

/-- A read of an end of file after a hang-up invokes the close callback a second
time.

Proof: the close callback of the hang-up comes first in the order of the
dispatch, so it is on record when the read callback runs. -/
theorem violation_closes_again (label : Label O) (t : System O) (hangupClosed : HangupClosed s)
    (violated : ¬ noEofAfterHangup s label) (taken : step s label = .ok t) :
    ∃ id, 2 ≤ t.closed.count id := by
  cases label
  case callback read write =>
    simp only [noEofAfterHangup, readsEofAfterHangup] at violated
    split at violated
    case h_2 => exact absurd rfl violated
    case h_1 id revents callbacks active handling =>
      simp only [Bool.not_eq_false, Bool.and_eq_true, beq_iff_eq] at violated
      obtain ⟨hungUp, rfl⟩ := violated
      simp only [HangupClosed, handling] at hangupClosed
      obtain ⟨suffix, before⟩ := hangupClosed
      have later := (List.pairwise_cons.mp
        ((handleEvent_ordered revents).sublist suffix.sublist)).1
      have behind : Callback.close ∉ Callback.read :: callbacks := by
        intro member
        rcases List.mem_cons.mp member with here | after
        · cases here
        · exact absurd (later _ after) (by decide)
      have earlier := List.count_pos_iff.mpr (before hungUp behind)
      simp only [step, handling] at taken
      obtain ⟨⟨c, effects⟩, handled, continued⟩ := (bind_ok _ _ _).mp taken
      obtain ⟨_, closing, _⟩ := handle_state handled
      have invoked := closing.mpr (Or.inr ⟨rfl, rfl⟩)
      rw [if_pos invoked] at continued
      obtain rfl := (pure_ok _ _).mp continued
      refine ⟨id, ?_⟩
      simp only [List.count_append, List.count_singleton_self]
      omega
  all_goals exact absurd trivial violated

/-- A run closes nothing twice exactly when it meets the condition at each step.

Proof: a violating step closes a second time, and nothing is taken off the record
afterwards. -/
theorem run_closedOnce_iff (lawful : Lawful O valid) (labels : List (Label O)) (t : System O)
    (reached : Runs.run step (initial O) labels = .ok t) :
    ClosedOnce t ↔ Runs.Along step noEofAfterHangup (initial O) labels := by
  constructor
  · intro closedOnce
    by_contra violated
    obtain ⟨before, label, after, middle, next, _, arrived, unmet, taken, continued⟩ :=
      Runs.not_along step noEofAfterHangup labels (initial O) t reached violated
    have start : HangupClosed (initial O) := trivial
    have record := (run_record before middle start arrived).1
    obtain ⟨id, twice⟩ := violation_closes_again label next record unmet taken
    have kept := (run_record after t (step_record label next record taken).1 continued).2
    have more := kept.sublist.count_le id
    have once := closedOnce.closedOnce id
    omega
  · exact fun guarded => run_closedOnce lawful labels t guarded reached

end Exactness

/-- What a single loop's connections can belong to. -/
inductive Endpoint where
  | server (name : List Char)
  | client

/-- The owner of the connections at this end. -/
def Endpoint.owner : Endpoint → Owner
  | .server name => TcpServer.server name
  | .client => TcpClient.client

/-- In every run of a server, under any name, and in every run of a client: the
connections are closed once, found by their owner and destroyed once, exactly
when no step reads an end of file after the hang-up branch of its dispatch. -/
theorem closed_once_iff_no_eof_after_hangup (endpoint : Endpoint)
    (labels : List (Label endpoint.owner)) (s : System endpoint.owner)
    (reached : Runs.run step (initial endpoint.owner) labels = .ok s) :
    ClosedOnce s ↔ Runs.Along step noEofAfterHangup (initial endpoint.owner) labels := by
  cases endpoint with
  | server name => exact run_closedOnce_iff (TcpServer.server_lawful name) labels s reached
  | client => exact run_closedOnce_iff TcpClient.client_lawful labels s reached

/-- A connection is accepted and hangs up with urgent data; the read callback of
the same dispatch still receives `read`. -/
def hangupWithUrgentData (read : ReadvResult) : List (Label (Endpoint.server []).owner) :=
  [.owner ⟨5, false⟩, .poll [0], .dispatch (POLLHUP ||| POLLPRI),
    .callback (.failed 0) (.failed 0), .remove (), .callback read (.failed 0)]

/-- A client connects, and its connection is closed by the peer. -/
def connectedThenClosed : List (Label Endpoint.client.owner) :=
  [.owner .connect, .owner (.startInLoop ⟨5, EINPROGRESS⟩), .owner (.handleWrite 0 false false false),
    .owner .resetChannel, .poll [0], .dispatch POLLIN, .callback (.received []) (.failed 0),
    .remove ⟨6, 0⟩, .finishEvent, .swap, .runFunctor, .finishFunctors]

/-- Each of these runs closes its connection once. -/
theorem closed_once_hangup_and_peer_close :
    (∃ s, Runs.run step (initial (Endpoint.server []).owner) (hangupWithUrgentData (.received [7])) =
        .ok s ∧ s.closed = [0] ∧ ClosedOnce s) ∧
      ∃ s, Runs.run step (initial Endpoint.client.owner) connectedThenClosed = .ok s ∧
        s.closed = [0] ∧ s.destroyed = [0] ∧ ClosedOnce s := by
  constructor
  · have computed : (Runs.run step (initial (Endpoint.server []).owner)
        (hangupWithUrgentData (.received [7]))).map System.closed = .ok [0] := by decide +kernel
    obtain ⟨s, reached, computed⟩ := (Runs.map_returned _ _ _).mp computed
    exact ⟨s, reached, computed,
      (closed_once_iff_no_eof_after_hangup (.server []) _ s reached).mpr (by decide +kernel)⟩
  · have computed : (Runs.run step (initial Endpoint.client.owner) connectedThenClosed).map
        (fun s => (s.closed, s.destroyed)) = .ok ([0], [0]) := by decide +kernel
    obtain ⟨s, reached, computed⟩ := (Runs.map_returned _ _ _).mp computed
    simp only [Prod.mk.injEq] at computed
    exact ⟨s, reached, computed.1, computed.2,
      (closed_once_iff_no_eof_after_hangup .client _ s reached).mpr (by decide +kernel)⟩

/-- The hang-up branch closes, and the read callback of the same dispatch reads an
end of file and closes again: the second removal finds no entry. -/
theorem hangup_and_eof_close_twice :
    ¬ ∀ (endpoint : Endpoint) (labels : List (Label endpoint.owner)) (s : System endpoint.owner),
      Runs.run step (initial endpoint.owner) labels = .ok s → ClosedOnce s := by
  intro claimed
  have computed : (Runs.run step (initial (Endpoint.server []).owner)
      (hangupWithUrgentData (.received []))).map System.closed = .ok [0, 0] := by decide +kernel
  obtain ⟨s, reached, computed⟩ := (Runs.map_returned _ _ _).mp computed
  have once := (claimed (.server []) _ s reached).closedOnce 0
  rw [computed] at once
  exact absurd once (by decide)

end ReactorNetwork.ConnectionLife
