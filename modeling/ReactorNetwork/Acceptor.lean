import ReactorNetwork.Connector
import ReactorNetwork.SlotTable

/-!
# Accepting connections until none is left

An acceptor with the descriptor table of its process and the connections waiting
on its socket. `accept` takes the lowest free descriptor; it fails with `EMFILE`
when the table is full, even if nothing is pending, and with `EAGAIN` when a
descriptor is free and nothing is pending. The environment says for each
connection whether the `poll` of its descriptor fails. The callback is code of the
user, who may close the descriptor it is passed, open others and close others; what
it leaves of the table is an argument of the loop.

`handle_read_all` loops on the accepted descriptor itself. Descriptor zero is a
false condition, so the loop ends there and leaves it behind. The `EMFILE` branch
gives the reserve descriptor back before it loops, so the table is as full as
before, and the loop does not end once the table has become full.
`handle_read_once` tests for a negative descriptor and does not loop. The callback is
the last thing it calls, so that what the callback opens and closes is no part of it
here.

The loop runs on fuel here; a call terminates when some fuel is enough.
-/

namespace ReactorNetwork

/-- The error number of a process with no free descriptor. -/
def EMFILE : Nat := 24

/-- A pending connection, and whether `poll` on its descriptor will fail. -/
structure PendingConnection where
  pollFails : Bool
deriving DecidableEq, Repr

/-- What happens to accepted descriptors, in order. -/
inductive AcceptorEvent where
  | accepted (fd : Nat)
  | passed (fd : Nat)
  | closed (fd : Nat)
deriving DecidableEq, Repr

/-- The listening socket, with the process's descriptors and the connections that
wait. -/
structure Acceptor where
  table : SlotTable
  backlog : List PendingConnection
  idleFd : Int
  events : List AcceptorEvent
deriving DecidableEq

namespace Acceptor

/-- What `accept` returned: `-1` with an `errno`, or a descriptor. -/
inductive AcceptResult where
  | failed (errno : Nat)
  | connFd (fd : Nat) (connection : PendingConnection)
deriving DecidableEq, Repr

/-- `accept4` of a non-blocking socket. -/
def accept (a : Acceptor) : AcceptResult × Acceptor :=
  match a.table.allocate, a.backlog with
  | none, _ => (.failed EMFILE, a)
  | some _, [] => (.failed EAGAIN, a)
  | some (fd, table), connection :: rest =>
      (.connFd fd connection,
        { a with table := table, backlog := rest, events := a.events ++ [.accepted fd] })

/-- `close`; of a negative descriptor it fails and changes nothing. -/
def close (table : SlotTable) : Int → SlotTable
  | .ofNat fd => table.release fd
  | .negSucc _ => table

/-- `idle_fd_ = open("/dev/null")`. -/
def openIdle (a : Acceptor) : Acceptor :=
  match a.table.allocate with
  | some (fd, table) => { a with table := table, idleFd := fd }
  | none => { a with idleFd := -1 }

/-- The `EMFILE` branch: accept with the reserve descriptor, drop what was
accepted, and reserve again. -/
def shedConnection (a : Acceptor) : Acceptor :=
  let (result, taken) := { a with table := close a.table a.idleFd }.accept
  match result with
  | .failed _ => { taken with idleFd := -1, table := close taken.table (-1) }.openIdle
  | .connFd fd _ =>
      { taken with
        idleFd := fd
        table := close taken.table fd
        events := taken.events ++ [AcceptorEvent.closed fd] }.openIdle

/-- What `new_connection_callback_` leaves of the descriptor table, given the connections
still pending, the descriptor it is passed and the table. The pending connections tell its
calls in one loop apart. -/
abbrev Callback := List PendingConnection → Nat → SlotTable → SlotTable

section Calls

variable (callback : Bool)

/-- An accepted descriptor is tested, and passed to the callback or closed. -/
def handleAccepted (a : Acceptor) (fd : Nat) (connection : PendingConnection) : Acceptor :=
  if connection.pollFails then
    { a with table := close a.table fd, events := a.events ++ [.closed fd] }
  else if callback then { a with events := a.events ++ [.passed fd] }
  else { a with table := close a.table fd, events := a.events ++ [.closed fd] }

/-- `handle_read_once`. -/
def handleReadOnce (a : Acceptor) : Acceptor :=
  let (result, taken) := a.accept
  match result with
  | .connFd fd connection => taken.handleAccepted callback fd connection
  | .failed errno => if errno = EMFILE then taken.shedConnection else taken

end Calls

section Loop

variable (callback : Option Callback)

/-- The callback opens and closes descriptors, if it is called. -/
def calledBack (a : Acceptor) (fd : Nat) (connection : PendingConnection) : Acceptor :=
  match callback with
  | some effect =>
      if connection.pollFails then a else { a with table := effect a.backlog fd a.table }
  | none => a

/-- `none` is a loop that has not ended within the fuel. -/
def handleReadAll : Nat → Acceptor → Option Acceptor
  | 0, _ => none
  | fuel + 1, a =>
      let (result, taken) := a.accept
      match result with
      | .connFd fd connection =>
          -- `while (int conn_fd = ...)`
          if fd = 0 then some taken
          else
            handleReadAll fuel
              ((taken.handleAccepted callback.isSome fd connection).calledBack callback fd
                connection)
      | .failed errno =>
          if errno = EMFILE then handleReadAll fuel taken.shedConnection else some taken

/-- Every accepted descriptor is passed on once or closed once. -/
def settled : List AcceptorEvent → Bool
  | [] => true
  | .accepted fd :: .passed other :: rest => fd = other && settled rest
  | .accepted fd :: .closed other :: rest => fd = other && settled rest
  | _ => false

/-- `idle_fd_` is an open descriptor. -/
def IdleOpen (a : Acceptor) : Prop := ∃ fd : Nat, a.idleFd = fd ∧ fd ∈ a.table.inUse

/-- The call terminates, accounts for every descriptor and keeps its reserve. -/
def Drains (a : Acceptor) : Prop :=
  ∃ fuel after, a.handleReadAll callback fuel = some after ∧ settled after.events = true ∧
    after.IdleOpen

end Loop

/-- The connection's descriptor is passed to the callback. -/
def stays (callback : Bool) (connection : PendingConnection) : Bool :=
  callback && !connection.pollFails

/-- The callback does not close the acceptor's own reserve. -/
def KeepsReserve (callback : Option Callback) (idleFd : Nat) : Prop :=
  ∀ effect ∈ callback, ∀ pending fd table, fd ≠ idleFd → idleFd ∈ table.inUse →
    idleFd ∈ (effect pending fd table).inUse

/-- The table that a connection leaves, with the others still pending: the lowest free
descriptor is passed to the callback, or closed again. -/
def tableAfter (callback : Option Callback) (table : SlotTable) (connection : PendingConnection)
    (rest : List PendingConnection) : SlotTable :=
  match table.lowest, callback with
  | some fd, some effect =>
      if connection.pollFails then table else effect rest fd (table.take fd)
  | _, _ => table

/-- The table before each pending connection, and the one after the last. -/
def tables (callback : Option Callback) (table : SlotTable) :
    List PendingConnection → List SlotTable
  | [] => [table]
  | connection :: rest =>
      table :: tables callback (tableAfter callback table connection rest) rest

/-- A descriptor is free before each connection and after the last, and descriptor zero is
in use before each. -/
def Room (callback : Option Callback) (table : SlotTable) (backlog : List PendingConnection) :
    Prop :=
  (∀ before ∈ tables callback table backlog, 0 < before.free) ∧
    ∀ before ∈ (tables callback table backlog).dropLast, 0 ∈ before.inUse

instance (callback : Option Callback) (table : SlotTable) (backlog : List PendingConnection) :
    Decidable (Room callback table backlog) := inferInstanceAs (Decidable (_ ∧ _))

variable {a : Acceptor}

/-- Connections that were settled one after another settle whatever comes behind
them. -/
theorem settled_append {front : List AcceptorEvent} (rest : List AcceptorEvent)
    (done : settled front = true) : settled (front ++ rest) = settled rest := by
  fun_induction settled front with
  | case1 => rfl
  | case2 fd other tail inductionHypothesis =>
    simp only [Bool.and_eq_true, decide_eq_true_eq] at done
    simp [settled, done.1, inductionHypothesis done.2]
  | case3 fd other tail inductionHypothesis =>
    simp only [Bool.and_eq_true, decide_eq_true_eq] at done
    simp [settled, done.1, inductionHypothesis done.2]
  | case4 => cases done

/-- With a full table `accept` fails and changes nothing. -/
theorem accept_full (full : a.table.free = 0) : a.accept = (.failed EMFILE, a) := by
  simp [accept, SlotTable.allocate, SlotTable.lowest_none.mpr full]

/-- With nothing pending it fails with `EAGAIN`. -/
theorem accept_none {fd : Nat} (found : a.table.lowest = some fd) (empty : a.backlog = []) :
    a.accept = (.failed EAGAIN, a) := by
  simp [accept, SlotTable.allocate, found, empty]

/-- Otherwise it accepts the first connection under the lowest free descriptor. -/
theorem accept_pending {fd : Nat} {connection : PendingConnection}
    {rest : List PendingConnection} (found : a.table.lowest = some fd)
    (pending : a.backlog = connection :: rest) :
    a.accept = (.connFd fd connection,
      { a with
        table := a.table.take fd
        backlog := rest
        events := a.events ++ [.accepted fd] }) := by
  simp [accept, SlotTable.allocate, found, pending]

/-- Closing a descriptor frees its place in the table. -/
@[simp] theorem close_natCast (table : SlotTable) (fd : Nat) :
    close table (fd : Int) = table.release fd := rfl

/-- Closing a failed descriptor does nothing. -/
@[simp] theorem close_failed (table : SlotTable) : close table (-1) = table := rfl

/-- The reserve is opened at the lowest free descriptor. -/
theorem openIdle_found {fd : Nat} (found : a.table.lowest = some fd) :
    a.openIdle = { a with table := a.table.take fd, idleFd := fd } := by
  simp [openIdle, SlotTable.allocate, found]

/-- The reserve stays open where no descriptor is closed. -/
theorem idleOpen_kept {b : Acceptor} (idle : a.IdleOpen) (same : b.idleFd = a.idleFd)
    (grown : a.table.inUse ⊆ b.table.inUse) : b.IdleOpen := by
  obtain ⟨fd, isIdle, member⟩ := idle
  exact ⟨fd, same.trans isIdle, grown member⟩

/-- Shedding in a full table changes nothing but the backlog: the reserve
descriptor is the only one that can be given out, and comes back. -/
theorem shedConnection_full (full : a.table.free = 0) (idle : a.IdleOpen) :
    ∃ events, settled events = true ∧
      a.shedConnection = { a with backlog := a.backlog.tail, events := a.events ++ events } := by
  obtain ⟨fd, isIdle, member⟩ := idle
  have found := SlotTable.lowest_release full member
  have back := SlotTable.take_release member
  have closed : close a.table a.idleFd = a.table.release fd := by rw [isIdle, close_natCast]
  cases pending : a.backlog with
  | nil =>
    have nothing := accept_none (a := { a with table := a.table.release fd }) found pending
    have opened := openIdle_found
      (a := { a with table := a.table.release fd, idleFd := -1 }) found
    refine ⟨[], rfl, ?_⟩
    simp only [shedConnection, closed, nothing, close_failed, opened, back]
    simp [isIdle, pending]
  | cons connection rest =>
    have taken := accept_pending (a := { a with table := a.table.release fd }) found pending
    have opened := openIdle_found
      (a := ⟨a.table.release fd, rest, fd, a.events ++ [.accepted fd] ++ [.closed fd]⟩) found
    refine ⟨[.accepted fd, .closed fd], by simp [settled], ?_⟩
    simp only [shedConnection, closed, taken, close_natCast, back, opened]
    simp [isIdle]

/-- An accepted descriptor is settled; it stays in use if it is passed on, and is
free again otherwise. -/
theorem handleAccepted_settles (callback : Bool) {fd : Nat} (found : a.table.lowest = some fd)
    (connection : PendingConnection) (rest : List PendingConnection) :
    ∃ events, settled events = true ∧
      handleAccepted callback { a with
        table := a.table.take fd
        backlog := rest
        events := a.events ++ [.accepted fd] } fd connection =
      { a with
        table := if stays callback connection then a.table.take fd else a.table
        backlog := rest
        events := a.events ++ events } := by
  obtain ⟨absent, inside, _⟩ := SlotTable.lowest_some.mp found
  have back := SlotTable.release_take absent inside
  unfold handleAccepted
  cases fails : connection.pollFails with
  | true =>
    exact ⟨[.accepted fd, .closed fd], by simp [settled], by simp [stays, fails, back]⟩
  | false =>
    cases callback with
    | true => exact ⟨[.accepted fd, .passed fd], by simp [settled], by simp [stays, fails]⟩
    | false => exact ⟨[.accepted fd, .closed fd], by simp [settled], by simp [stays, back]⟩

/-- One call of `handle_read_once` settles what it accepts, descriptor zero
included, and keeps the reserve. -/
theorem handleReadOnce_settles (callback : Bool) (idle : a.IdleOpen) :
    ∃ events, settled events = true ∧
      (a.handleReadOnce callback).events = a.events ++ events ∧
      (a.handleReadOnce callback).IdleOpen := by
  cases found : a.table.lowest with
  | none =>
    have full := SlotTable.lowest_none.mp found
    obtain ⟨events, done, shed⟩ := shedConnection_full full idle
    have result : a.handleReadOnce callback =
        { a with backlog := a.backlog.tail, events := a.events ++ events } := by
      simp only [handleReadOnce, accept_full full, if_true, shed]
    rw [result]
    exact ⟨events, done, rfl, idle⟩
  | some fd =>
    cases pending : a.backlog with
    | nil =>
      have result : a.handleReadOnce callback = a := by
        simp [handleReadOnce, accept_none found pending, EAGAIN, EMFILE]
      rw [result]
      exact ⟨[], rfl, by simp, idle⟩
    | cons connection rest =>
      obtain ⟨events, done, handled⟩ := handleAccepted_settles callback found connection rest
      simp only [handleReadOnce, accept_pending found pending, handled]
      refine ⟨events, done, rfl, idleOpen_kept idle rfl ?_⟩
      simp only
      split
      · exact SlotTable.take_inUse a.table fd
      · exact Finset.Subset.refl _

section Loop

variable {callback : Option Callback}

/-- With a full table the loop never ends, whether anything is pending or not. -/
theorem handleReadAll_full (fuel : Nat) (full : a.table.free = 0) (idle : a.IdleOpen) :
    a.handleReadAll callback fuel = none := by
  induction fuel generalizing a with
  | zero => rfl
  | succ fuel inductionHypothesis =>
    obtain ⟨events, _, shed⟩ := shedConnection_full full idle
    simp only [handleReadAll, accept_full full, if_true, shed]
    exact inductionHypothesis full idle

/-- So the loop does not drain the backlog. -/
theorem drains_full (full : a.table.free = 0) (idle : a.IdleOpen) : ¬ a.Drains callback := by
  rintro ⟨fuel, after, ended, _⟩
  rw [handleReadAll_full fuel full idle] at ended
  cases ended

/-- With a free descriptor and nothing pending the loop ends at once. -/
theorem drains_empty {fd : Nat} (found : a.table.lowest = some fd) (empty : a.backlog = [])
    (done : settled a.events = true) (idle : a.IdleOpen) : a.Drains callback := by
  refine ⟨1, a, ?_, done, idle⟩
  simp [handleReadAll, accept_none found empty, EAGAIN, EMFILE]

/-- A round of the loop settles what it accepts and leaves the table to the callback. -/
theorem round_settles (callback : Option Callback) {fd : Nat} (connection : PendingConnection)
    (rest : List PendingConnection) (found : a.table.lowest = some fd) :
    ∃ events, settled events = true ∧
      calledBack callback (handleAccepted callback.isSome { a with
        table := a.table.take fd
        backlog := rest
        events := a.events ++ [.accepted fd] } fd connection) fd connection =
      { a with
        table := tableAfter callback a.table connection rest
        backlog := rest
        events := a.events ++ events } := by
  obtain ⟨events, done, handled⟩ := handleAccepted_settles callback.isSome found connection rest
  refine ⟨events, done, ?_⟩
  rw [handled]
  cases callback with
  | none => simp [calledBack, tableAfter, found, stays]
  | some effect =>
    cases fails : connection.pollFails with
    | true => simp [calledBack, tableAfter, found, stays, fails]
    | false => simp [calledBack, tableAfter, found, stays, fails]

/-- Behind a connection whose descriptor is not zero the rest of the loop decides. -/
theorem drains_pending (callback : Option Callback) {fd : Nat} {connection : PendingConnection}
    {rest : List PendingConnection} (found : a.table.lowest = some fd) (nonzero : fd ≠ 0)
    (pending : a.backlog = connection :: rest) :
    ∃ events, settled events = true ∧ (a.Drains callback ↔
      Drains callback { a with
        table := tableAfter callback a.table connection rest
        backlog := rest
        events := a.events ++ events }) := by
  obtain ⟨events, done, handled⟩ := round_settles callback connection rest found
  refine ⟨events, done, ?_⟩
  have continues : ∀ fuel, a.handleReadAll callback (fuel + 1) =
      handleReadAll callback fuel { a with
        table := tableAfter callback a.table connection rest
        backlog := rest
        events := a.events ++ events } := by
    intro fuel
    simp only [handleReadAll, accept_pending found pending, if_neg nonzero, handled]
  constructor
  · rintro ⟨fuel, after, ended, met⟩
    cases fuel with
    | zero => cases ended
    | succ fuel =>
      rw [continues] at ended
      exact ⟨fuel, after, ended, met⟩
  · rintro ⟨fuel, after, ended, met⟩
    rw [← continues] at ended
    exact ⟨fuel + 1, after, ended, met⟩

/-- With descriptor zero free, a pending connection ends the loop and is left behind. -/
theorem drains_zero_free {connection : PendingConnection} {rest : List PendingConnection}
    (found : a.table.lowest = some 0) (pending : a.backlog = connection :: rest)
    (done : settled a.events = true) : ¬ a.Drains callback := by
  rintro ⟨fuel, after, ended, settledAfter, _⟩
  cases fuel with
  | zero => cases ended
  | succ fuel =>
    simp only [handleReadAll, accept_pending found pending, if_true, Option.some.injEq] at ended
    rw [← ended, settled_append _ done] at settledAfter
    cases settledAfter

/-- The reserve is still in use behind a connection. -/
theorem tableAfter_reserve {idleFd : Nat} {table : SlotTable} {connection : PendingConnection}
    {rest : List PendingConnection} (keeps : KeepsReserve callback idleFd)
    (reserved : idleFd ∈ table.inUse) :
    idleFd ∈ (tableAfter callback table connection rest).inUse := by
  unfold tableAfter
  split
  case h_1 fd effect found =>
    obtain ⟨absent, _, _⟩ := SlotTable.lowest_some.mp found
    split
    · exact reserved
    · exact keeps effect rfl rest fd _ (fun same => absent (same ▸ reserved))
        (SlotTable.take_inUse table fd reserved)
  case h_2 => exact reserved

/-- With nothing pending a free descriptor is needed, at which the last `accept` fails
with `EAGAIN`. -/
theorem room_nil (table : SlotTable) : Room callback table [] ↔ 0 < table.free := by
  simp [Room, tables]

/-- A pending connection needs a free descriptor, a descriptor 0 in use, and room for
the connections behind it. -/
theorem room_cons (table : SlotTable) (connection : PendingConnection)
    (rest : List PendingConnection) :
    Room callback table (connection :: rest) ↔ 0 < table.free ∧ 0 ∈ table.inUse ∧
      Room callback (tableAfter callback table connection rest) rest := by
  have nonempty : tables callback (tableAfter callback table connection rest) rest ≠ [] := by
    cases rest <;> simp [tables]
  simp only [Room, tables, List.mem_cons, forall_eq_or_imp,
    List.dropLast_cons_of_ne_nil nonempty]
  tauto

/-- Draining depends on the tables that the connections leave one another.

Proof: induction over the backlog. A full table never drains, and a free descriptor zero
takes the next connection and loses it. Any other connection is handled, and the table it
leaves decides. -/
theorem drains_room {idleFd : Nat} (isIdle : a.idleFd = idleFd)
    (reserved : idleFd ∈ a.table.inUse) (keeps : KeepsReserve callback idleFd)
    (done : settled a.events = true) :
    a.Drains callback ↔ Room callback a.table a.backlog := by
  induction pending : a.backlog generalizing a with
  | nil =>
    rw [room_nil]
    cases found : a.table.lowest with
    | none =>
      have full := SlotTable.lowest_none.mp found
      simp [full, drains_full full ⟨idleFd, isIdle, reserved⟩]
    | some fd =>
      simp [SlotTable.free_pos found, drains_empty found pending done ⟨idleFd, isIdle, reserved⟩]
  | cons connection rest inductionHypothesis =>
    rw [room_cons]
    cases found : a.table.lowest with
    | none =>
      have full := SlotTable.lowest_none.mp found
      simp [full, drains_full full ⟨idleFd, isIdle, reserved⟩]
    | some fd =>
      by_cases zero : 0 ∈ a.table.inUse
      · obtain ⟨absent, _, _⟩ := SlotTable.lowest_some.mp found
        have nonzero : fd ≠ 0 := fun same => absent (same ▸ zero)
        obtain ⟨more, settledMore, continues⟩ := drains_pending callback found nonzero
          pending
        have kept : settled (a.events ++ more) = true :=
          (settled_append more done).trans settledMore
        have later := inductionHypothesis
          (a := { a with
            table := tableAfter callback a.table connection rest
            backlog := rest
            events := a.events ++ more })
          isIdle (tableAfter_reserve keeps reserved) kept rfl
        rw [continues, later]
        simp [SlotTable.free_pos found, zero]
      · have lowest : fd = 0 := by
          obtain ⟨_, _, lower⟩ := SlotTable.lowest_some.mp found
          by_contra nonzero
          exact zero (lower 0 (Nat.pos_of_ne_zero nonzero))
        subst lowest
        simp [zero, drains_zero_free found pending done]

end Loop

/-- A callback that keeps the descriptor it is passed and opens no other. -/
def keeping : Callback := fun _ _ table => table

/-- A callback that closes the descriptor before it returns. -/
def closing : Callback := fun _ fd table => table.release fd

/-- With descriptors that are kept, fewer may be passed on than are free. -/
theorem room_keeping_iff (table : SlotTable) (backlog : List PendingConnection) :
    Room (some keeping) table backlog ↔
      (backlog = [] ∨ 0 ∈ table.inUse) ∧ backlog.countP (stays true) < table.free := by
  induction backlog generalizing table with
  | nil => simp [room_nil]
  | cons connection rest inductionHypothesis =>
    rw [room_cons, inductionHypothesis]
    cases found : table.lowest with
    | none =>
      have full := SlotTable.lowest_none.mp found
      simp [full]
    | some fd =>
      have free := SlotTable.free_pos found
      obtain ⟨absent, inside, _⟩ := SlotTable.lowest_some.mp found
      cases fails : connection.pollFails with
      | true =>
        have same : tableAfter (some keeping) table connection rest = table := by
          simp [tableAfter, found, fails]
        rw [same, List.countP_cons_of_neg (by simp [stays, fails])]
        tauto
      | false =>
        have taken : tableAfter (some keeping) table connection rest = table.take fd := by
          simp [tableAfter, found, fails, keeping]
        have cost := SlotTable.take_free absent inside
        have grown := SlotTable.take_inUse table fd
        rw [taken, List.countP_cons_of_pos (by simp [stays, fails])]
        constructor
        · rintro ⟨_, zero, _, fewer⟩
          exact ⟨Or.inr zero, by omega⟩
        · rintro ⟨nonempty | zero, fewer⟩
          · cases nonempty
          · exact ⟨free, zero, Or.inr (grown zero), by omega⟩

/-- A descriptor that is closed again costs nothing. -/
theorem tableAfter_closing (table : SlotTable) (connection : PendingConnection)
    (rest : List PendingConnection) :
    tableAfter (some closing) table connection rest = table := by
  unfold tableAfter
  cases found : table.lowest with
  | none => rfl
  | some fd =>
    obtain ⟨absent, inside, _⟩ := SlotTable.lowest_some.mp found
    simp only [closing, SlotTable.release_take absent inside, ite_self]

/-- With descriptors that are closed, one free descriptor is enough. -/
theorem room_closing_iff (table : SlotTable) (backlog : List PendingConnection) :
    Room (some closing) table backlog ↔
      (backlog = [] ∨ 0 ∈ table.inUse) ∧ 0 < table.free := by
  induction backlog with
  | nil => simp [room_nil]
  | cons connection rest inductionHypothesis =>
    rw [room_cons, tableAfter_closing, inductionHypothesis]
    simp
    tauto

/-- For every callback that leaves the reserve open, every backlog and every occupancy of
the table: `handle_read_all` terminates, settles every accepted descriptor and keeps its
reserve exactly when the callbacks leave a descriptor free before each pending connection
and after the last, and descriptor zero in use before each. -/
theorem drains_iff (callback : Option Callback) (table : SlotTable)
    (backlog : List PendingConnection) (idleFd : Nat) (reserved : idleFd ∈ table.inUse)
    (keeps : KeepsReserve callback idleFd) :
    Drains callback ⟨table, backlog, idleFd, []⟩ ↔ Room callback table backlog :=
  drains_room (a := ⟨table, backlog, idleFd, []⟩) rfl reserved keeps rfl

/-- Standard input, a socket and the reserve, in a table of four. -/
def smallTable : SlotTable := ⟨4, {0, 1, 2}, by decide⟩

/-- Three connections are served through the one free descriptor by a callback that
closes it, as a callback of the repository's tests does. -/
theorem drains_small :
    KeepsReserve (some closing) 2 ∧
      Drains (some closing) ⟨smallTable, [⟨false⟩, ⟨false⟩, ⟨true⟩], 2, []⟩ := by
  have keeps : KeepsReserve (some closing) 2 := by
    rintro effect (_ | _) pending fd table foreign reserved
    exact Finset.mem_erase.mpr ⟨foreign.symm, reserved⟩
  exact ⟨keeps, (drains_iff (some closing) smallTable [⟨false⟩, ⟨false⟩, ⟨true⟩] 2 (by decide)
    keeps).mpr (by decide)⟩

/-- With a full table and nothing pending the loop never ends, whatever the callback. With
descriptor zero free the first accepted descriptor ends it, and is neither passed on nor
closed. -/
theorem full_table_spins :
    (∀ callback fuel,
        handleReadAll callback fuel ⟨⟨3, {0, 1, 2}, by decide⟩, [], 2, []⟩ = none) ∧
      (∀ callback, ¬ Drains callback ⟨⟨3, {0, 1, 2}, by decide⟩, [], 2, []⟩) ∧
      (handleReadAll (some closing) 1 ⟨⟨4, {1, 2}, by decide⟩, [⟨false⟩], 2, []⟩).map events =
        some [.accepted 0] := by
  have spins : ∀ callback fuel,
      handleReadAll callback fuel ⟨⟨3, {0, 1, 2}, by decide⟩, [], 2, []⟩ = none :=
    fun callback fuel => handleReadAll_full fuel (by decide) ⟨2, rfl, by decide⟩
  refine ⟨spins, ?_, by decide⟩
  rintro callback ⟨fuel, after, ended, _⟩
  rw [spins callback fuel] at ended
  cases ended

end Acceptor

end ReactorNetwork
