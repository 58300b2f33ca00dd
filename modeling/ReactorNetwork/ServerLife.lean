import ReactorNetwork.ConnectionTrace
import ReactorNetwork.CloseOnce

/-!
# The connections of a server without IO threads

Every run of a server on its single loop: accepts, dispatches, destructions and
user calls of `send` and `shutdown`, in any order the loop allows. The map
`connections_` holds the accepted connections whose `handle_close` has not run,
each under its own name. A connection is announced as connected and, at most once
and as its last notice, as disconnected, and it has an owner until it is out of
the poller.

The kernel is assumed not to report a hang-up without readable data together with
urgent data or a peer shutdown. A run has fewer connections than `next_conn_id_`
can count.
-/

namespace ReactorNetwork.TcpServer

open ConnectionLife

variable {name : List Char}

/-- `handle_close` ran to its end, the removal included. -/
def CloseRan (s : System (server name)) (id : Nat) : Prop := id ∈ s.closed ∧ id ∉ s.phase.removed

/-- The connections map of a run. -/
def connections (s : System (server name)) : ConnectionMap := s.owner

/-- What holds of a server's connections in every state of a run. `heard` is the
record of the user's callbacks and `registered` what the poller knows. -/
structure Lifecycle (name : List Char) (s : Traced (server name)) : Prop where
  contents : ∀ key id, (connections s.system).lookup key = some id ↔
    key = connName name id ∧ id < s.system.created ∧ ¬ CloseRan s.system id
  distinct : ∀ id other, connName name id = connName name other → id = other
  erasesOne : ∀ id revents callbacks active,
    s.system.phase = .removing id revents callbacks active →
      (erase (connections s.system) (connName name id)).2 = 1 ∧
        (erase (connections s.system) (connName name id)).1.keys.length + 1 =
          (connections s.system).keys.length
  removalPasses : ∀ label, s.step label ≠ .error .removal
  announced : ∀ id, announcements id s.heard =
    (if id < s.system.created then [.connected] else []) ++
      (if id ∈ s.system.destroyed then [.disconnected] else [])
  hushed : Hushed s.heard
  owned : ∀ id < s.system.created, id ∉ s.system.destroyed →
    (connections s.system).lookup (connName name id) = some id ∨
      id ∈ s.system.pending ∨ id ∈ s.system.phase.batch
  registered : ∀ id, s.registered id = true → id < s.system.created ∧ id ∉ s.system.destroyed

/-- The map of a well-named server holds each connection under its name only. -/
theorem lookup_iff {connections : ConnectionMap} (wellNamed : WellNamed name connections)
    (key : List Char) (id : Nat) : connections.lookup key = some id ↔
      key = connName name id ∧ connections.lookup (connName name id) = some id := by
  constructor
  · intro found
    have same := wellNamed key id found
    exact ⟨same, same ▸ found⟩
  · rintro ⟨rfl, found⟩
    exact found

/-- Erasing a key that is present leaves one key fewer. -/
theorem keys_erase_length {α : Type} [DecidableEq α] {β : α → Type} {entries : AList β} {key : α}
    (present : key ∈ entries) : (entries.erase key).keys.length + 1 = entries.keys.length := by
  rw [AList.keys_erase, List.length_erase_of_mem present]
  exact Nat.succ_pred_eq_of_pos (List.length_pos_of_mem present)

/-- What holds of the server and its connections along a run gives each part of the
lifecycle. -/
theorem lifecycle_of_traces {s : Traced (server name)} (traces : Traces (WellNamed name) s) :
    Lifecycle name s where
  contents := by
    intro key id
    refine (lookup_iff traces.sound.ownerValid key id).trans ?_
    exact and_congr_right fun _ => holds_open traces.sound id
  distinct := fun _ _ same => connName_injective name same
  erasesOne := by
    intro id revents callbacks active removing
    have held := removing_held traces.sound removing
    have present : connName name id ∈ connections s.system :=
      AList.lookup_isSome.mp (Option.isSome_iff_exists.mpr ⟨id, held⟩)
    constructor
    · simp only [erase, present, if_true]
    · exact keys_erase_length present
  removalPasses := by
    intro label failed
    have closedOnce := closedOnce_of_sound (server_lawful name) traces.sound
    exact closedOnce.removalPasses label (traced_failed (by simp) failed)
  announced := traces.announced
  hushed := traces.hushed
  owned := fun _ created alive => undestroyed_owned traces.sound created alive
  registered := traces.apart.registered

/-- In every run of a server without IO threads, under any name, every state keeps
the lifecycle of its connections. -/
theorem connections_live_and_die_in_order (name : List Char) (labels : List (Label (server name)))
    (s : Traced (server name))
    (allowed : Runs.Along Traced.step plainHangup (Traced.initial (server name)) labels)
    (reached : Runs.run Traced.step (Traced.initial (server name)) labels = .ok s) :
    Lifecycle name s :=
  lifecycle_of_traces (run_traces (server_lawful name) labels s allowed reached)

/-- Two connections are accepted; the first sends, receives a message and is closed
by its peer, and the second is shut down and hangs up. -/
def twoConnections : List (Label (server [])) :=
  [.owner ⟨5, false⟩, .owner ⟨6, true⟩, .send 0 ⟨[9, 10], by decide⟩ (.accepted 2), .poll [0, 1],
    .dispatch POLLIN, .callback (.received [7]) (.failed 0), .finishEvent, .shutdown 1,
    .dispatch POLLHUP, .callback (.failed 0) (.failed 0), .remove (), .finishEvent, .swap,
    .runFunctor, .finishFunctors, .poll [0], .dispatch POLLIN, .callback (.received []) (.failed 0),
    .remove (), .finishEvent, .swap]

/-- The shut-down connection is destroyed in the first batch, the other is queued for
the next. -/
theorem lifecycle_two_connections :
    ∃ s, Runs.run Traced.step (Traced.initial (server [])) twoConnections = .ok s ∧
      s.system.destroyed = [1] ∧ s.system.phase.batch = [0] ∧
      s.heard = [.connection 0 .connected, .connection 1 .connected, .message 0,
        .connection 1 .disconnected] ∧ Lifecycle [] s := by
  have computed : (Runs.run Traced.step (Traced.initial (server [])) twoConnections).map
      (fun s => (s.system.destroyed, s.system.phase.batch, s.heard)) =
        .ok ([1], [0], [.connection 0 .connected, .connection 1 .connected, .message 0,
          .connection 1 .disconnected]) := by decide +kernel
  obtain ⟨s, reached, computed⟩ := (Runs.map_returned _ _ _).mp computed
  simp only [Prod.mk.injEq] at computed
  obtain ⟨destroyed, batch, heard⟩ := computed
  have lifecycle := connections_live_and_die_in_order [] twoConnections s (by decide +kernel)
    reached
  exact ⟨s, reached, destroyed, batch, heard, lifecycle⟩

end ReactorNetwork.TcpServer
