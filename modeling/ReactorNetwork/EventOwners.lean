import ReactorNetwork.FunctorOwners
import ReactorNetwork.LateSends

/-!
# Owners of the connections whose events are handled

The poller and the list of active channels hold raw pointers to the channels of
connections. A connection can be closed in the middle of its own event, by any of its
callbacks, and user code may drop its last pointer there; later channels of the same list,
and later callbacks of the same event, are still to come.

What keeps a connection through its events is `connections_` and then the functor of its
destruction, which runs only after the last channel of the list. So as long as no queued
`send_in_loop` comes too late, no channel that the poller knows or that is still to be
dispatched belongs to a destroyed connection, whatever user code holds or drops.
-/

namespace ReactorNetwork.QueuedCalls

open TcpConnection ConnectionLife TcpServer

variable {name : List Char} {s : State name}

/-- The server's map or a functor of a destruction owns the connection. -/
def ServerKeeps (s : State name) (id : Nat) : Prop :=
  (server name).holds s.life.system.owner id ∨ id ∈ destructions s.functors

/-- A connection is kept by the server until its destruction is executed. -/
theorem undestroyed_kept (accounted : Accounted s) {id : Nat} (created : id < s.life.system.created)
    (alive : id ∉ s.life.system.destroyed) : ServerKeeps s id := by
  have once := accounted.placed.once id created
  rw [List.count_eq_zero.mpr alive] at once
  by_cases inMap : (server name).holds s.life.system.owner id
  · exact Or.inl inMap
  · right
    rw [if_neg inMap] at once
    apply (destructions_functors accounted id).mpr
    by_cases pending : id ∈ s.life.system.pending
    · exact Or.inr (Or.inr pending)
    · rw [List.count_eq_zero.mpr pending] at once
      exact Or.inr (Or.inl (List.count_pos_iff.mp (by omega)))

/-- In every run of a server on one loop in which no queued `send_in_loop` is late: each
connection whose channel the poller knows, and each one that the loop is handling or still
has to dispatch in this iteration, is in `connections_` or owned by a queued or running
destruction. No pointer of user code is needed for that.

Proof: neither kind is destroyed, so it has its one place before the destruction. -/
theorem handled_connections_kept (name : List Char) (labels : List (Label name)) (s : State name)
    (inTime : Runs.Along step sendsInTime (initial name) labels)
    (reached : Runs.run step (initial name) labels = .ok s) :
    (∀ id, s.life.registered id = true → ServerKeeps s id) ∧
      ∀ id ∈ s.life.system.phase.dispatched, ServerKeeps s id := by
  have accounted : Accounted s := Runs.invariant step Accounted
    (fun _ label _ before taken => step_accounted label before taken) labels (initial name) s
    (initial_accounted name) reached
  have tidy : Tidy s := Runs.guarded_invariant step sendsInTime Tidy
    (fun _ label _ before guard taken => step_tidy label before guard taken) labels (initial name) s
    (initial_tidy name) inTime reached
  constructor
  · intro id registered
    obtain ⟨created, alive⟩ := tidy.apart.registered id registered
    exact undestroyed_kept accounted created alive
  · intro id dispatched
    have created := accounted.placed.known id (Or.inl dispatched)
    exact undestroyed_kept accounted created (tidy.apart.live id dispatched)

/-- The last pointer of user code is dropped before the read callback, which closes the
connection; its event is not finished. -/
def closedWhileHandled : List (Label []) :=
  acceptedAndHeld ++ [.drop 0, .loop (.callback (.received []) (.failed 0)), .loop (.remove ())]

/-- The connection is no longer in the map, and the queued destruction owns it. -/
theorem handled_connection_kept_closed :
    ∃ s, Runs.run step (initial []) closedWhileHandled = .ok s ∧ s.held = [] ∧
      s.life.system.phase.dispatched = [0] ∧ s.life.system.pending = [0] ∧ ServerKeeps s 0 := by
  have computed : (Runs.run step (initial []) closedWhileHandled).map (fun s =>
      (s.held, s.life.system.phase.dispatched, s.life.system.pending)) = .ok ([], [0], [0]) := by
    decide +kernel
  obtain ⟨s, reached, computed⟩ := (Runs.map_returned _ _ _).mp computed
  simp only [Prod.mk.injEq] at computed
  obtain ⟨held, dispatched, pending⟩ := computed
  obtain ⟨_, kept⟩ := handled_connections_kept [] _ s (by decide +kernel) reached
  exact ⟨s, reached, held, dispatched, pending, kept 0 (by simp [dispatched])⟩

end ReactorNetwork.QueuedCalls
