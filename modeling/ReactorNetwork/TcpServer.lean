import ReactorNetwork.ConnectionLife
import Mathlib.Data.List.AList

/-!
# TCP server on one loop

A server without IO threads: its connections live on the loop that accepts them,
so a removal runs inside the close callback. `connections_` is a map from names
to connections; a connection is given by its number, counted from zero, and its
name is made from the value of `next_conn_id_` it was created with.

The acceptor hands over any socket at any time. Its own loop, the thread pool
and the server's destructor are not part of this module.
-/

namespace ReactorNetwork.TcpServer

open ConnectionLife

/-- The name of a connection: `name_` followed by `"#%d"`. -/
def connName (name : List Char) (id : Nat) : List Char := name ++ '#' :: Nat.toDigits 10 (id + 1)

/-- `std::map<std::string, TcpConnectionPtr>`; its keys are distinct. -/
abbrev ConnectionMap := AList fun _ : List Char => Nat

/-- What the acceptor hands over, and whether `write_complete_callback_` is set. -/
structure Accepted where
  sockFd : Int
  writeCompleteCallback : Bool

/-- `std::map::erase` by key, with the number of elements removed. -/
def erase (connections : ConnectionMap) (key : List Char) : ConnectionMap × Nat :=
  (connections.erase key, if key ∈ connections then 1 else 0)

/-- `remove_connection_in_loop` up to the queueing of `connect_destoryed`. -/
def removeConnectionInLoop (name : List Char) (connections : ConnectionMap) (id : Nat) :
    Except Failure ConnectionMap :=
  let (rest, n) := erase connections (connName name id)
  if n = 1 then pure rest else .error .removal

/-- A server as the owner of its loop's connections. `new_connection` enters the
connection under its name before it is established. -/
def server (name : List Char) : Owner where
  State := ConnectionMap
  Label := Accepted
  Choice := Unit
  initial := ∅
  act := fun connections accepted =>
    pure (connections, some (accepted.sockFd, accepted.writeCompleteCallback))
  enroll := fun connections id => connections.insert (connName name id) id
  remove := fun connections id _ => removeConnectionInLoop name connections id
  holds := fun connections id => connections.lookup (connName name id) = some id

/-- Different connections have different names.

Proof: the common front cancels, and the decimal digits determine the number. -/
theorem connName_injective (name : List Char) : Function.Injective (connName name) := by
  intro left right same
  have digits : Nat.toDigits 10 (left + 1) = Nat.toDigits 10 (right + 1) :=
    (List.cons.inj (List.append_cancel_left same)).2
  have numbers := congrArg (fun chars => Nat.ofDigitChars 10 chars 0) digits
  simp only [Nat.ofDigitChars_ten_toDigits] at numbers
  exact Nat.succ.inj numbers

/-- A removal passes its assertion exactly when the name is in the map. -/
theorem removeConnectionInLoop_ok (name : List Char) (connections rest : ConnectionMap)
    (id : Nat) :
    removeConnectionInLoop name connections id = .ok rest ↔
      connName name id ∈ connections ∧ connections.erase (connName name id) = rest := by
  unfold removeConnectionInLoop erase
  by_cases present : connName name id ∈ connections
  · simp [present]
  · simp [present]

/-- Entering a connection adds it and no other. -/
theorem lookup_entered (name : List Char) (connections : ConnectionMap) (id other : Nat) :
    (connections.insert (connName name id) id).lookup (connName name other) = some other ↔
      other = id ∨ connections.lookup (connName name other) = some other := by
  by_cases here : other = id
  · subst here
    simp
  · have named : connName name other ≠ connName name id :=
      fun same => here (connName_injective name same)
    simp [here, AList.lookup_insert_ne named]

/-- Erasing a connection's name removes it and no other. -/
theorem lookup_erased (name : List Char) (connections : ConnectionMap) (id other : Nat) :
    (connections.erase (connName name id)).lookup (connName name other) = some other ↔
      connections.lookup (connName name other) = some other ∧ other ≠ id := by
  by_cases here : other = id
  · subst here
    simp
  · have named : connName name other ≠ connName name id :=
      fun same => here (connName_injective name same)
    simp [here, AList.lookup_erase_ne named]

/-- A connection in the map is removed. -/
theorem removeConnectionInLoop_held (name : List Char) (connections : ConnectionMap) (id : Nat)
    (held : connections.lookup (connName name id) = some id) :
    removeConnectionInLoop name connections id =
      .ok (connections.erase (connName name id)) := by
  have present : connName name id ∈ connections := AList.lookup_isSome.mp (by rw [held]; rfl)
  exact (removeConnectionInLoop_ok _ _ _ _).mpr ⟨present, rfl⟩

/-- Every entry of the map is a connection under its own name. -/
def WellNamed (name : List Char) (connections : ConnectionMap) : Prop :=
  ∀ key id, connections.lookup key = some id → key = connName name id

/-- A connection inserted under its own name keeps the map well-named. -/
theorem insert_wellNamed {name : List Char} {connections : ConnectionMap}
    (wellNamed : WellNamed name connections) (id : Nat) :
    WellNamed name (connections.insert (connName name id) id) := by
  intro key other found
  by_cases here : key = connName name id
  · subst here
    rw [AList.lookup_insert] at found
    rw [Option.some.inj found]
  · rw [AList.lookup_insert_ne here] at found
    exact wellNamed key other found

/-- So does an erasure. -/
theorem erase_wellNamed {name : List Char} {connections : ConnectionMap}
    (wellNamed : WellNamed name connections) (id : Nat) :
    WellNamed name (connections.erase (connName name id)) := by
  intro key other found
  by_cases here : key = connName name id
  · subst here
    rw [AList.lookup_erase] at found
    cases found
  · rw [AList.lookup_erase_ne here] at found
    exact wellNamed key other found

/-- A server owns the connections in its map, each from its creation to its removal. -/
theorem server_lawful (name : List Char) : Lawful (server name) (WellNamed name) where
  initial_valid := by
    intro key id found
    cases found
  initial_empty := by
    intro id held
    cases held
  act_kept := by
    intro connections accepted after socket wellNamed acted
    obtain ⟨rfl, _⟩ := Prod.mk.inj ((pure_ok _ _).mp acted)
    exact ⟨wellNamed, fun _ => Iff.rfl⟩
  enroll_kept := by
    intro connections accepted after socket id wellNamed acted _
    obtain ⟨rfl, _⟩ := Prod.mk.inj ((pure_ok _ _).mp acted)
    exact ⟨insert_wellNamed wellNamed id, lookup_entered name connections id⟩
  remove_kept := by
    intro connections id _ rest wellNamed removed
    obtain ⟨_, rfl⟩ := (removeConnectionInLoop_ok _ _ _ _).mp removed
    exact ⟨erase_wellNamed wellNamed id, lookup_erased name connections id⟩
  remove_held := by
    intro connections id _ _ held failed
    cases (removeConnectionInLoop_held name connections id held).symm.trans failed
  act_quiet := by
    intro connections accepted
    constructor
    · intro failed
      cases failed
    · intro failed
      cases failed
  remove_quiet := by
    intro connections id _ failed
    simp only [server, removeConnectionInLoop, erase] at failed
    split at failed
    · cases failed
    · cases failed

end ReactorNetwork.TcpServer
