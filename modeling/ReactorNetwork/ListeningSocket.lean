import ReactorNetwork.Acceptor

/-!
# A listening socket served one connection at a time

The acceptor of a server is called once for each readable event of its socket, and
`handle_read_once` accepts once. Between the calls connections arrive, and the rest of
the process opens descriptors and closes those it owns, among them the ones it was
passed. None of that happens inside a call: the acceptor gives its reserve away and
takes it back without another descriptor being opened in between.

So the reserve survives every run, also a table that stays full; and every call takes
one pending connection off the backlog, in the order of arrival, whether it can be
served or has to be shed.
-/

namespace ReactorNetwork.ListeningSocket

open Runs Acceptor

/-- A connection comes, the acceptor is called, or other code opens or closes a
descriptor. -/
inductive Label where
  | arrive (connection : PendingConnection)
  | handleReadOnce
  | openFd
  | closeFd (fd : Nat)

variable (callback : Bool)

/-- A descriptor is opened if one is free, and closed by its owner, who is not the
acceptor. -/
def step (a : Acceptor) : Label → Outcome Acceptor
  | .arrive connection => pure { a with backlog := a.backlog ++ [connection] }
  | .handleReadOnce => pure (a.handleReadOnce callback)
  | .openFd =>
      match a.table.allocate with
      | some (_, table) => pure { a with table := table }
      | none => .error .notEnabled
  | .closeFd fd => do
      enabled (fd ∈ a.table.inUse ∧ a.idleFd ≠ fd)
      pure { a with table := a.table.release fd }

/-- What a step does to the pending connections. -/
def Label.pending (backlog : List PendingConnection) : Label → List PendingConnection
  | .arrive connection => backlog ++ [connection]
  | .handleReadOnce => backlog.tail
  | _ => backlog

/-- The step opens a descriptor outside the acceptor. -/
def Label.opens : Label → Bool
  | .openFd => true
  | _ => false

/-- The step closes one outside the acceptor. -/
def Label.closes : Label → Bool
  | .closeFd _ => true
  | _ => false

/-- The connections whose descriptors were passed on. -/
def passes : List AcceptorEvent → Nat
  | [] => 0
  | .passed _ :: rest => passes rest + 1
  | _ :: rest => passes rest

/-- The connections passed on in two parts of a record add up. -/
theorem passes_append (front rest : List AcceptorEvent) :
    passes (front ++ rest) = passes front + passes rest := by
  induction front with
  | nil => simp [passes]
  | cons event front inductionHypothesis =>
    cases event with
    | passed fd =>
      simp only [List.cons_append, passes, inductionHypothesis]
      omega
    | accepted fd | closed fd =>
      simpa [passes] using inductionHypothesis

/-- What one call leaves behind: one pending connection less, everything it accepted
settled, its reserve, and one more descriptor in use for each connection passed on. -/
structure Served (a b : Acceptor) : Prop where
  settles : ∃ events, settled events = true ∧ b.events = a.events ++ events
  backlog : b.backlog = a.backlog.tail
  idle : b.IdleOpen
  inUse : b.table.inUse.card + passes a.events = a.table.inUse.card + passes b.events

section Laws

variable {callback : Bool} {a b : Acceptor}

/-- `accept` itself passes nothing on. -/
theorem passes_accept (a : Acceptor) : passes a.accept.2.events = passes a.events := by
  unfold accept
  split
  · rfl
  · rfl
  · simp [passes_append, passes]

/-- Shedding passes nothing on. -/
theorem passes_shedConnection (a : Acceptor) :
    passes a.shedConnection.events = passes a.events := by
  have opened : ∀ b : Acceptor, b.openIdle.events = b.events := by
    intro b
    unfold openIdle
    split <;> rfl
  have accepted := passes_accept { a with table := close a.table a.idleFd }
  unfold shedConnection
  generalize Acceptor.accept { a with table := close a.table a.idleFd } = outcome at accepted ⊢
  obtain ⟨result, taken⟩ := outcome
  cases result with
  | failed errno => simpa [opened] using accepted
  | connFd fd connection => simpa [opened, passes_append, passes] using accepted

/-- An accepted connection is passed on exactly if it stays: its poll succeeds and a
callback is set. -/
theorem passes_handleAccepted (callback : Bool) (a : Acceptor) (fd : Nat) (connection : PendingConnection) :
    passes (a.handleAccepted callback fd connection).events =
      passes a.events + if stays callback connection then 1 else 0 := by
  unfold handleAccepted stays
  cases connection.pollFails <;> cases callback <;> simp [passes_append, passes]

/-- One call of `handle_read_once` takes the head of the backlog, passes it on or closes
it, and keeps the reserve. -/
theorem handleReadOnce_served (callback : Bool) (idle : a.IdleOpen) :
    Served a (a.handleReadOnce callback) := by
  obtain ⟨events, done, appended, kept⟩ := handleReadOnce_settles callback idle
  cases found : a.table.lowest with
  | none =>
    have full := SlotTable.lowest_none.mp found
    obtain ⟨_, _, shed⟩ := shedConnection_full full idle
    have result : a.handleReadOnce callback = a.shedConnection := by
      simp [handleReadOnce, accept_full full]
    have backlog : a.shedConnection.backlog = a.backlog.tail := by rw [shed]
    have table : a.shedConnection.table = a.table := by rw [shed]
    refine ⟨⟨events, done, appended⟩, by rw [result, backlog], kept, ?_⟩
    rw [result, table, passes_shedConnection]
  | some fd =>
    obtain ⟨absent, inside, _⟩ := SlotTable.lowest_some.mp found
    cases pending : a.backlog with
    | nil =>
      have result : a.handleReadOnce callback = a := by
        simp [handleReadOnce, accept_none found pending, EAGAIN, EMFILE]
      rw [result]
      exact ⟨⟨[], rfl, by simp⟩, by simp [pending], idle, rfl⟩
    | cons connection rest =>
      obtain ⟨_, _, handled⟩ := handleAccepted_settles callback found connection rest
      have accounted := passes_handleAccepted callback { a with
        table := a.table.take fd
        backlog := rest
        events := a.events ++ [.accepted fd] } fd connection
      have result : a.handleReadOnce callback = handleAccepted callback { a with
          table := a.table.take fd
          backlog := rest
          events := a.events ++ [.accepted fd] } fd connection := by
        simp only [handleReadOnce, accept_pending found pending]
      refine ⟨⟨events, done, appended⟩, by rw [result, handled, pending]; rfl, kept, ?_⟩
      rw [result, accounted, handled, passes_append]
      cases open_ : stays callback connection with
      | true =>
        simp [passes, SlotTable.take, inside, Finset.card_insert_of_notMem absent]
        omega
      | false => simp [passes]

/-- The account of a run: what is pending, that everything accepted is settled, the
reserve, and the descriptors in use. -/
structure Accounted (a : Acceptor) (past : List Label) (b : Acceptor) : Prop where
  backlog : b.backlog = past.foldl Label.pending a.backlog
  settles : ∃ events, settled events = true ∧ b.events = a.events ++ events
  idle : b.IdleOpen
  inUse : b.table.inUse.card + past.countP Label.closes + passes a.events =
    a.table.inUse.card + past.countP Label.opens + passes b.events

/-- Every step keeps the account of the run. -/
theorem step_accounted (start : Acceptor) (past : List Label) (a : Acceptor) (label : Label)
    (b : Acceptor) (accounted : Accounted start past a) (taken : step callback a label = .ok b) :
    Accounted start (past ++ [label]) b := by
  obtain ⟨backlog, settles, idle, inUse⟩ := accounted
  have pending : (past ++ [label]).foldl Label.pending start.backlog =
      Label.pending a.backlog label := by
    rw [List.foldl_append, ← backlog]
    rfl
  cases label with
  | arrive connection =>
    obtain rfl := (pure_ok _ _).mp taken
    exact ⟨by rw [pending]; rfl, settles, idle, by simpa [Label.closes, Label.opens] using inUse⟩
  | handleReadOnce =>
    obtain rfl := (pure_ok _ _).mp taken
    obtain ⟨⟨more, done, appended⟩, tail, kept, cost⟩ := handleReadOnce_served callback idle
    obtain ⟨events, settled, front⟩ := settles
    refine ⟨by rw [pending]; exact tail, ⟨events ++ more, ?_, ?_⟩, kept, ?_⟩
    · rw [settled_append more settled]
      exact done
    · rw [appended, front, List.append_assoc]
    · simp only [List.countP_append, List.countP_singleton, Label.closes, Label.opens]
      simp only [Bool.false_eq_true, if_false]
      omega
  | openFd =>
    simp only [step] at taken
    split at taken
    case h_2 => cases taken
    case h_1 slot table allocated =>
      obtain rfl := (pure_ok _ _).mp taken
      obtain ⟨fd, found, same⟩ := Option.map_eq_some_iff.mp allocated
      obtain ⟨rfl, rfl⟩ := Prod.mk.inj same
      obtain ⟨absent, inside, _⟩ := SlotTable.lowest_some.mp found
      refine ⟨by rw [pending]; rfl, settles,
        idleOpen_kept idle rfl (SlotTable.take_inUse a.table fd), ?_⟩
      simp only [List.countP_append, List.countP_singleton, Label.closes, Label.opens,
        SlotTable.take, if_pos inside, Finset.card_insert_of_notMem absent]
      simp only [Bool.false_eq_true, if_false, if_true]
      omega
  | closeFd fd =>
    obtain ⟨_, allowed, same⟩ := (bind_ok _ _ _).mp taken
    obtain rfl := (pure_ok _ _).mp same
    obtain ⟨open_, foreign⟩ := (enabled_ok _ _).mp allowed
    refine ⟨by rw [pending]; rfl, settles, ?_, ?_⟩
    · obtain ⟨reserve, isIdle, member⟩ := idle
      refine ⟨reserve, isIdle, Finset.mem_erase.mpr ⟨?_, member⟩⟩
      rintro rfl
      exact foreign isIdle
    · have fewer := Finset.card_erase_of_mem open_
      have some_ := Finset.card_pos.mpr ⟨fd, open_⟩
      simp only [List.countP_append, List.countP_singleton, Label.closes, Label.opens,
        SlotTable.release]
      simp only [Bool.false_eq_true, if_false, if_true]
      omega

end Laws

/-- From every acceptor with its reserve, in every run of arrivals, calls of
`handle_read_once` and descriptors opened and closed elsewhere, however full the table: the
reserve stays open, every accepted descriptor is passed on once or closed once, each call
takes the oldest pending connection off the backlog, and the descriptors in use are those
from the beginning, those opened elsewhere and those passed on, less those closed. -/
theorem each_call_serves_one (callback : Bool) (start : Acceptor) (idle : start.IdleOpen)
    (quiet : start.events = []) (labels : List Label) (a : Acceptor)
    (reached : run (step callback) start labels = .ok a) :
    a.IdleOpen ∧ settled a.events = true ∧
      a.backlog = labels.foldl Label.pending start.backlog ∧
      a.table.inUse.card + labels.countP Label.closes =
        start.table.inUse.card + labels.countP Label.opens + passes a.events := by
  have accounted := history (step callback) (Accounted start) (step_accounted start) labels start a
    ⟨rfl, ⟨[], rfl, by simp⟩, idle, by simp⟩ reached
  obtain ⟨backlog, ⟨events, done, appended⟩, kept, inUse⟩ := accounted
  rw [quiet, List.nil_append] at appended
  refine ⟨kept, appended ▸ done, backlog, ?_⟩
  rw [quiet] at inUse
  simpa [passes] using inUse

/-- Two connections arrive at a table with one descriptor left: the first takes it and the
second is shed; a descriptor is closed and the third is served. -/
def crowdedTable : List Label :=
  [.arrive ⟨false⟩, .arrive ⟨false⟩, .handleReadOnce, .handleReadOnce, .arrive ⟨false⟩,
    .closeFd 3, .handleReadOnce]

/-- With one descriptor left of two connections the first is passed on and the second
shed; the third is passed on when a descriptor has been closed. -/
theorem each_call_serves_one_crowded :
    ∃ a, run (step true) ⟨⟨4, {0, 1, 2}, by decide⟩, [], 2, []⟩ crowdedTable = .ok a ∧
      a.IdleOpen ∧ a.backlog = [] ∧ passes a.events = 2 := by
  have computed : (run (step true) ⟨⟨4, {0, 1, 2}, by decide⟩, [], 2, []⟩ crowdedTable).map
      (fun a => passes a.events) = .ok 2 := by
    decide +kernel
  obtain ⟨a, reached, passed⟩ := (map_returned _ _ _).mp computed
  obtain ⟨idle, _, backlog, _⟩ := each_call_serves_one true _ ⟨2, rfl, by decide⟩ rfl crowdedTable a
    reached
  exact ⟨a, reached, idle, backlog.trans (by decide), passed⟩

end ReactorNetwork.ListeningSocket
