import ReactorNetwork.Delivery

/-!
# Bytes get across

Flushing, reading and retrieving are the steps that move bytes along a
conversation. In any order, with any counts the kernel chooses, each of them brings
at least one byte nearer to the other user: a byte that is unsent has three moves
before it, one on the wire two, an unread one the last. So there are only so many of
them, and while both channels read the moves run out only when everything has been
delivered. None of them fails, short of an input buffer at its maximal size.

A user who sends back what arrives returns to the other what that one sent.
-/

namespace ReactorNetwork.Conversation

open Runs TcpConnection

/-- A step that moves at least one byte. -/
def Moves (s : State) : Label → Prop
  | .act side (.handleWrite (.accepted count)) => 0 < count ∧
      (s side).connection.channel.isWriting = true ∧ (s side).writeShut = false ∧
      (s side).connection.unsent ≠ []
  | .act side (.retrieve len) => 0 < len ∧ len ≤ (s side).connection.inputBuffer.readableBytes
  | .handleRead side (.upTo _) => (s side.other).wire ≠ []
  | _ => False

instance (s : State) (label : Label) : Decidable (Moves s label) :=
  match label with
  | .act _ (.handleWrite (.accepted _)) => inferInstanceAs (Decidable (_ ∧ _ ∧ _ ∧ _))
  | .act _ (.retrieve _) => inferInstanceAs (Decidable (_ ∧ _))
  | .handleRead _ (.upTo _) => inferInstanceAs (Decidable (_ ≠ _))
  | .act _ (.handleWrite (.failed _)) | .act _ .connectEstablished | .act _ (.send _ _)
  | .act _ .shutdown | .act _ .handleClose | .act _ .connectDestoryed | .act _ (.echo _)
  | .handleRead _ (.failed _) => isFalse id

/-- The moves ahead of the bytes from one end to the other. -/
def ahead (p peer : Party) : Nat :=
  3 * p.connection.unsent.length + 2 * p.wire.length + peer.unread.length

/-- The moves ahead of the bytes in both directions. -/
def backlog (s : State) : Nat :=
  ahead (s .near) (s .far) + ahead (s .far) (s .near)

/-- The backlog, seen from either end. -/
theorem backlog_at (s : State) (side : Side) :
    backlog s = ahead (s side) (s side.other) + ahead (s side.other) (s side) := by
  cases side
  · rfl
  · exact Nat.add_comm _ _

section Moving

variable {p q : Party}

/-- A flush whose write accepts something writes something. -/
theorem handleWrite_writes {c : TcpConnection} {count : Nat}
    {outcome : TcpConnection × List Effect} (wellFormed : c.outputBuffer.WellFormed)
    (positive : 0 < count) (writing : c.channel.isWriting = true) (waiting : c.unsent ≠ [])
    (flushed : c.handleWrite (.accepted count) = .ok outcome) : written outcome.2 ≠ [] := by
  have readable : c.outputBuffer.readableBytes = c.unsent.length :=
    (Buffer.content_length wellFormed).symm
  rw [handleWrite, if_pos writing] at flushed
  obtain ⟨offered, loaded, continued⟩ := (bind_ok _ _ _).mp flushed
  have width : offered.length = c.unsent.length :=
    (CellStore.load_length ((accessed_ok _ _).mp loaded)).trans readable
  have present := List.length_pos_iff.mpr waiting
  obtain ⟨n, some_⟩ : ∃ n, min count offered.length = n + 1 :=
    ⟨min count offered.length - 1, by omega⟩
  simp only [writeCount, some_] at continued
  obtain ⟨rest, _, finished⟩ := (bind_ok _ _ _).mp continued
  have nonempty : offered.take (n + 1) ≠ [] := by
    intro nothing
    have short := congrArg List.length nothing
    rw [List.length_take, List.length_nil] at short
    omega
  split at finished
  · obtain rfl := (pure_ok _ _).mp finished
    simp [written, nonempty]
  · obtain rfl := (pure_ok _ _).mp finished
    simp [written, nonempty]

/-- A read takes something off a wire that carries something. -/
theorem readv_takes {b : Buffer} {wire : List Byte} {finished : Bool} {count : Nat}
    (some_ : wire ≠ []) : taken (readv b wire finished (.upTo count)) ≠ [] := by
  simp only [readv, if_neg some_, taken]
  intro nothing
  have short := congrArg List.length nothing
  have positive := List.length_pos_iff.mpr some_
  rw [List.length_take, List.length_nil] at short
  unfold Buffer.extraBuffSize at short
  omega

/-- A flush brings the sender's bytes nearer to the peer, and moves none of the other
direction. -/
theorem flush_nearer (wellFormed : WellFormed p) {count : Nat} (positive : 0 < count)
    (writing : p.connection.channel.isWriting = true) (shut : p.writeShut = false)
    (waiting : p.connection.unsent ≠ []) (done : act p (.handleWrite (.accepted count)) = .ok q)
    (peer : Party) :
    ahead q peer < ahead p peer ∧ ahead peer q = ahead peer p ∧
      reads q.connection = reads p.connection := by
  obtain ⟨outcome, flushed, same⟩ := (bind_ok _ _ _).mp done
  obtain rfl := (pure_ok _ _).mp same
  obtain ⟨input, turned⟩ := handleWrite_frame flushed
  have same : answered p (.accepted count) = .accepted count := by simp [answered, shut]
  rw [same] at flushed
  have some_ := handleWrite_writes wellFormed.output positive writing waiting flushed
  have stream := congrArg List.length
    ((handleWrite_returns wellFormed.output _ False).of_ok flushed).stream
  have longer := List.length_pos_iff.mpr some_
  rw [List.length_append] at stream
  refine ⟨?_, by simp [ahead, perform, Party.unread, input], reads_writing (turned.imp id .inr)⟩
  simp only [ahead, perform, List.length_append]
  omega

/-- Retrieving brings the peer's bytes nearer to its user, and moves none of the other
direction. -/
theorem retrieve_nearer (wellFormed : WellFormed p) {len : Nat} (positive : 0 < len)
    (present : len ≤ p.connection.inputBuffer.readableBytes)
    (done : act p (.retrieve len) = .ok q) (peer : Party) :
    ahead q peer = ahead p peer ∧ ahead peer q < ahead peer p ∧
      reads q.connection = reads p.connection := by
  obtain ⟨rest, retrieved, same⟩ := (bind_ok _ _ _).mp done
  obtain rfl := (pure_ok _ _).mp same
  obtain ⟨_, dropped, _⟩ :=
    (Buffer.retrieve_returns wellFormed.input len present False).of_ok retrieved
  have shorter := congrArg List.length dropped
  rw [List.length_drop] at shorter
  rw [← Buffer.content_length wellFormed.input] at present
  refine ⟨rfl, ?_, rfl⟩
  simp only [ahead, Party.unread]
  omega

/-- A read brings bytes from the peer's wire nearer, and both channels go on reading as
before. -/
theorem read_nearer {peer : Party} (wellFormed : WellFormed p) {count : Nat}
    (some_ : peer.wire ≠ []) {both : Party × Party}
    (received : receive p peer (.upTo count) = .ok both) :
    ahead both.1 both.2 = ahead p peer ∧ ahead both.2 both.1 < ahead peer p ∧
      reads both.1.connection = reads p.connection ∧
      reads both.2.connection = reads peer.connection := by
  have arrived := receive_arrived wellFormed _ received
  have nonempty : taken (readv p.connection.inputBuffer peer.wire peer.writeShut (.upTo count)) ≠
      [] := readv_takes some_
  have longer := List.length_pos_iff.mpr nonempty
  have carried := congrArg List.length arrived.wire
  have grown := congrArg List.length arrived.unread
  rw [List.length_append] at carried grown
  have unsent : both.1.connection.unsent = p.connection.unsent :=
    congrArg Buffer.content arrived.output
  have wire : both.1.wire = p.wire := by rw [arrived.receiver]
  have sender : both.2.connection = peer.connection := by rw [arrived.sender]
  refine ⟨?_, ?_, ?_, by rw [sender]⟩
  · simp only [ahead, Party.unread, sender, unsent, wire]
  · simp only [ahead, sender]
    omega
  · simp only [reads, arrived.channel nonempty]

end Moving

/-- The kinds of moves, with what each of them needs. -/
inductive Moving (s : State) : Label → Prop where
  | flush (side : Side) (count : Nat) (positive : 0 < count)
      (writing : (s side).connection.channel.isWriting = true)
      (shut : (s side).writeShut = false) (waiting : (s side).connection.unsent ≠ []) :
      Moving s (.act side (.handleWrite (.accepted count)))
  | retrieve (side : Side) (len : Nat) (positive : 0 < len)
      (present : len ≤ (s side).connection.inputBuffer.readableBytes) :
      Moving s (.act side (.retrieve len))
  | read (side : Side) (count : Nat) (some_ : (s side.other).wire ≠ []) :
      Moving s (.handleRead side (.upTo count))

/-- Every move is of one of these kinds. -/
theorem moving {s : State} {label : Label} (moves : Moves s label) : Moving s label := by
  unfold Moves at moves
  split at moves
  case h_1 side count => exact .flush side count moves.1 moves.2.1 moves.2.2.1 moves.2.2.2
  case h_2 side len => exact .retrieve side len moves.1 moves.2
  case h_3 side count => exact .read side count moves
  case h_4 => exact moves.elim

/-- A move keeps the conversation as it is, both channels reading, and brings bytes
nearer. -/
theorem move_nearer (s : State) (label : Label) (t : State)
    (open_ : Healthy s ∧ ∀ side, reads (s side).connection = true) (moves : Moves s label)
    (taken : step s label = .ok t) :
    (Healthy t ∧ ∀ side, reads (t side).connection = true) ∧ backlog t < backlog s := by
  obtain ⟨healthy, reading⟩ := open_
  have healthy' : StillReading s label → Healthy t :=
    fun still => step_healthy s label t healthy still taken
  cases moving moves with
  | flush side count positive writing shut waiting =>
    obtain ⟨q, done, same⟩ := (bind_ok _ _ _).mp taken
    obtain rfl := (pure_ok _ _).mp same
    obtain ⟨nearer, back, kept⟩ := flush_nearer (healthy.sound side).wellFormed positive writing
      shut waiting done (s side.other)
    refine ⟨⟨healthy' trivial, ?_⟩, ?_⟩
    · exact ends_all (fun p => reads p.connection = true) (kept.trans (reading side))
        (reading side.other)
    · rw [backlog_at _ side, backlog_at s side, ends_same, ends_other]
      omega
  | retrieve side len positive present =>
    obtain ⟨q, done, same⟩ := (bind_ok _ _ _).mp taken
    obtain rfl := (pure_ok _ _).mp same
    obtain ⟨forth, nearer, kept⟩ := retrieve_nearer (healthy.sound side).wellFormed positive
      present done (s side.other)
    refine ⟨⟨healthy' trivial, ?_⟩, ?_⟩
    · exact ends_all (fun p => reads p.connection = true) (kept.trans (reading side))
        (reading side.other)
    · rw [backlog_at _ side, backlog_at s side, ends_same, ends_other]
      omega
  | read side count some_ =>
    obtain ⟨both, received, same⟩ := (bind_ok _ _ _).mp taken
    obtain rfl := (pure_ok _ _).mp same
    obtain ⟨forth, nearer, kept, sender⟩ :=
      read_nearer (healthy.sound side).wellFormed some_ received
    refine ⟨⟨healthy' trivial, ?_⟩, ?_⟩
    · exact ends_all (fun p => reads p.connection = true) (kept.trans (reading side))
        (sender.trans (reading side.other))
    · rw [backlog_at _ side, backlog_at s side, ends_same, ends_other]
      omega

/-- Some input buffer could not hold what is on the way to it. -/
def TooLong (s : State) : Prop :=
  ∃ side, vectorMaxSize < (s side).connection.inputBuffer.writerIndex + (s side.other).wire.length

/-- A pure continuation does not change whether a computation returns. -/
theorem returns_then {α β : Type} {first : Outcome α} {tooLong : Prop} {post : α → Prop}
    (returns : Returns first tooLong post) (next : α → β) :
    Returns (first >>= fun value => pure (next value)) tooLong (fun _ => True) :=
  returns.bind (fun _ _ => returns_ok trivial)

/-- Reading something into a well-formed buffer returns if the buffer can hold it. -/
theorem handleRead_returns {c : TcpConnection} (wellFormed : c.inputBuffer.WellFormed)
    (data : List Byte) (some_ : data ≠ [])
    (fits : c.inputBuffer.writerIndex + data.length < sizeLimit) :
    Returns (c.handleRead (.received data))
      (vectorMaxSize < c.inputBuffer.writerIndex + data.length) (fun _ => True) := by
  apply (Buffer.readFd_returns wellFormed data fits).bind
  rintro ⟨filled, n⟩ ⟨_, _, count⟩
  obtain rfl : n = .ok data.length := count
  cases width : data.length with
  | zero => exact absurd (List.length_eq_zero_iff.mp width) some_
  | succ n => exact returns_ok trivial

/-- A move is taken, unless a read needs more than the maximal size of a vector. -/
theorem move_returns {s : State} {label : Label} (sound : Sound s) (moves : Moves s label) :
    Returns (step s label) (TooLong s) (fun _ => True) := by
  cases moving moves with
  | flush side count =>
    have flushed := handleWrite_returns (sound side).wellFormed.output
      (answered (s side) (.accepted count)) (TooLong s)
    exact returns_then (returns_then flushed _) _
  | retrieve side len _ present =>
    have retrieved := Buffer.retrieve_returns (sound side).wellFormed.input len present (TooLong s)
    exact returns_then (returns_then retrieved _) _
  | read side count some_ =>
    have input := (sound side).wellFormed.input
    have nonempty : taken (readv (s side).connection.inputBuffer (s side.other).wire
        (s side.other).writeShut (.upTo count)) ≠ [] := readv_takes some_
    cases answer : readv (s side).connection.inputBuffer (s side.other).wire
        (s side.other).writeShut (.upTo count) with
    | failed errno =>
      rw [answer] at nonempty
      exact absurd rfl nonempty
    | received data =>
      rw [answer] at nonempty
      have carried := congrArg List.length (readv_splits answer).1
      rw [List.length_append] at carried
      have handled := handleRead_returns input data nonempty
        (readv_fits (sound side).wellFormed answer)
      rw [← answer] at handled
      refine returns_then (returns_then (handled.imp ?_ (fun _ kept => kept)) _) _
      exact fun tooLong => ⟨side, by omega⟩

/-- While both channels read, the moves run out only when nothing is on the way. -/
theorem delivered_of_no_moves {s : State} (healthy : Healthy s)
    (reading : ∀ side, reads (s side).connection = true) (stuck : ∀ label, ¬ Moves s label)
    (side : Side) : (s side.other).delivered = (s side).handed := by
  have read : (s side).wire = [] := by
    by_contra some_
    exact stuck (.handleRead side.other (.upTo 0)) (by simpa [Moves] using some_)
  have retrieved : (s side.other).unread = [] := by
    by_contra some_
    refine stuck (.act side.other (.retrieve 1)) ⟨Nat.one_pos, ?_⟩
    rw [← Buffer.content_length (healthy.sound side.other).wellFormed.input]
    exact List.length_pos_iff.mpr some_
  have flushed : (s side).connection.unsent = [] := by
    by_contra some_
    have writing := (healthy.watched side (.inr (reading side))).mpr some_
    have shut : (s side).writeShut = false := by
      by_contra shut
      exact some_ (healthy.sent side (by simpa using shut))
    exact stuck (.act side (.handleWrite (.accepted 1))) ⟨Nat.one_pos, writing, shut, some_⟩
  have carried := (healthy.sound side).carried
  rw [read, retrieved, flushed] at carried
  simpa using carried.symm

/-- From every state that is reached while both channels read, each sequence of moves is
at most as long as the backlog, each further move can be taken short of a buffer at its
maximal size, and when none is left each user has everything the other has handed over.

Proof: the backlog counts the moves ahead of each byte and every move lowers it. While a
channel reads its write interest is on exactly when bytes wait, so unsent bytes can be
flushed. -/
theorem moves_deliver_everything (sockFd : Side → Int) (writeCompleteCallback : Side → Bool)
    (labels : List Label) (s : State)
    (reached : run step (initial sockFd writeCompleteCallback) labels = .ok s)
    (still : Along step StillReading (initial sockFd writeCompleteCallback) labels)
    (reading : ∀ side, reads (s side).connection = true) (moves : List Label) (t : State)
    (moved : Along step Moves s moves) (continued : run step s moves = .ok t) :
    moves.length ≤ backlog s ∧
      (∀ label, Moves t label → Returns (step t label) (TooLong t) (fun _ => True)) ∧
      ((∀ label, ¬ Moves t label) → ∀ side, (t side.other).delivered = (t side).handed) := by
  have healthy := run_healthy sockFd writeCompleteCallback labels s reached still
  have bounded := length_bounded step Moves
    (fun u => Healthy u ∧ ∀ side, reads (u side).connection = true) backlog move_nearer moves s t
    ⟨healthy, reading⟩ moved continued
  have last := guarded_invariant step Moves
    (fun u => Healthy u ∧ ∀ side, reads (u side).connection = true)
    (fun u label v open_ moves taken => (move_nearer u label v open_ moves taken).1) moves s t
    ⟨healthy, reading⟩ moved continued
  refine ⟨by omega, fun label moves => move_returns last.1.sound moves, ?_⟩
  exact fun stuck side => delivered_of_no_moves last.1 last.2 stuck side

/-- A message that could not be written directly. -/
def buffered : List Label :=
  [.act .near .connectEstablished, .act .far .connectEstablished,
    .act .near (.send ⟨[51, 52], by decide⟩ (.failed EWOULDBLOCK))]

/-- The moves that bring it across. -/
def crossing : List Label :=
  [.act .near (.handleWrite (.accepted 5)), .handleRead .far (.upTo 9), .act .far (.retrieve 2)]

/-- Three moves carry a buffered message of two bytes across and deliver it. -/
theorem moves_deliver_crossing :
    ∃ s t, run step unestablished buffered = .ok s ∧ run step s crossing = .ok t ∧
      3 ≤ backlog s ∧ (t .far).delivered = [51, 52] ∧
      (∀ label, Moves t label → Returns (step t label) (TooLong t) (fun _ => True)) := by
  have first : (run step unestablished buffered).map (fun s =>
      (reads (s .near).connection, reads (s .far).connection, decide (Along step Moves s crossing),
        (run step s crossing).map (fun t => (t .far).delivered))) =
      .ok (true, true, true, .ok [51, 52]) := by
    decide +kernel
  obtain ⟨s, reached, observed⟩ := (map_returned _ _ _).mp first
  obtain ⟨near, far, moved, second⟩ : reads (s .near).connection = true ∧
      reads (s .far).connection = true ∧ Along step Moves s crossing ∧
      (run step s crossing).map (fun t => (t .far).delivered) = .ok [51, 52] := by
    simpa using observed
  obtain ⟨t, continued, delivered⟩ := (map_returned _ _ _).mp second
  have reading : ∀ side, reads (s side).connection = true := by
    intro side
    cases side
    · exact near
    · exact far
  obtain ⟨bounded, returns, _⟩ := moves_deliver_everything _ _ buffered s reached
    (by decide +kernel) reading crossing t moved continued
  exact ⟨s, t, reached, continued, bounded, delivered, returns⟩

/-- The far user is established before it does anything, and only echoes. -/
def Echoes (s : State) : Label → Prop
  | .act .far (.echo _) => (s .far).connection.state ≠ .connecting
  | .act .far (.send _ _) => False
  | .act .far (.retrieve _) => False
  | _ => True

instance (s : State) (label : Label) : Decidable (Echoes s label) :=
  match label with
  | .act .far (.echo _) => inferInstanceAs (Decidable (_ ≠ _))
  | .act .far (.send _ _) | .act .far (.retrieve _) => isFalse id
  | .act .far .connectEstablished | .act .far .shutdown | .act .far (.handleWrite _)
  | .act .far .handleClose | .act .far .connectDestoryed | .act .near _ | .handleRead _ _ =>
      isTrue trivial

/-- What an echoing user has retrieved it has passed on, until it may not send any
more. -/
structure Echoed (p : Party) : Prop where
  returned : p.handed <+: p.delivered
  whole : ¬ Closing p → p.handed = p.delivered

section Echoing

variable {p q : Party}

/-- An action that hands over nothing and retrieves nothing. -/
theorem echoed_kept (echoed : Echoed p) (handed : q.handed = p.handed)
    (delivered : q.delivered = p.delivered) (closing : Closing p → Closing q) : Echoed q where
  returned := by
    rw [handed, delivered]
    exact echoed.returned
  whole := by
    intro open_
    rw [handed, delivered]
    exact echoed.whole (fun closed => open_ (closing closed))

/-- An echo passes on all that was unread, unless the connection is closing and refuses
it. -/
theorem echo_echoed (wellFormed : WellFormed p) {result : WriteResult} (echoed : Echoed p)
    (established : p.connection.state ≠ .connecting) (done : act p (.echo result) = .ok q) :
    Echoed q := by
  obtain ⟨addressable, sends⟩ := echo_sends wellFormed done
  unfold send at sends
  split at sends
  case isTrue connected =>
    obtain ⟨outcome, _, same⟩ := (bind_ok _ _ _).mp sends
    obtain rfl := (pure_ok _ _).mp same
    have whole := echoed.whole (not_closing connected)
    have equal : p.handed ++ p.unread = p.delivered ++ p.unread := by rw [whole]
    exact ⟨by simp [perform, emptied, equal], fun _ => equal⟩
  case isFalse refused =>
    obtain rfl := (pure_ok _ _).mp sends
    have closing : Closing p := by
      unfold Closing
      cases state : p.connection.state with
      | connecting => exact absurd state established
      | connected => exact absurd state refused
      | disconnected => exact .inr rfl
      | disconnecting => exact .inl rfl
    exact ⟨echoed.returned.trans (List.prefix_append _ _), fun open_ => absurd closing open_⟩

/-- The other actions hand nothing over and deliver nothing, so they leave an echoing
user as it is. -/
theorem act_echoed (wellFormed : WellFormed p) (action : Action) (echoed : Echoed p)
    (only : ∀ message result, action ≠ .send message result) (none : ∀ len, action ≠ .retrieve len)
    (established : ∀ result, action = .echo result → p.connection.state ≠ .connecting)
    (done : act p action = .ok q) : Echoed q := by
  have closing : Closing p → Closing q := by
    obtain ⟨message, acted⟩ := act_acted wellFormed action done
    exact fun closed => (acted.closing closed).1
  cases action with
  | send message result => exact absurd rfl (only message result)
  | retrieve len => exact absurd rfl (none len)
  | echo result => exact echo_echoed wellFormed echoed (established result rfl) done
  | shutdown =>
    obtain rfl := (pure_ok _ _).mp done
    unfold shutdown at closing ⊢
    split
    case isTrue connected =>
      rw [if_pos connected] at closing
      exact echoed_kept echoed rfl rfl closing
    case isFalse => exact echoed
  | handleWrite | connectEstablished | handleClose | connectDestoryed =>
    obtain ⟨outcome, _, same⟩ := (bind_ok _ _ _).mp done
    obtain rfl := (pure_ok _ _).mp same
    exact echoed_kept echoed rfl rfl closing

end Echoing

/-- Every step of a run in which the far user only echoes keeps it echoing. -/
theorem step_echoed (s : State) (label : Label) (t : State)
    (before : Sound s ∧ Echoed (s .far)) (echoes : Echoes s label)
    (taken : step s label = .ok t) : Sound t ∧ Echoed (t .far) := by
  obtain ⟨sound, echoed⟩ := before
  refine ⟨step_sound s label t sound taken, ?_⟩
  cases label with
  | act place action =>
    obtain ⟨q, done, same⟩ := (bind_ok _ _ _).mp taken
    obtain rfl := (pure_ok _ _).mp same
    cases place with
    | near => exact echoed
    | far =>
      refine act_echoed (sound .far).wellFormed action echoed ?_ ?_ ?_ done
      · rintro message result rfl
        exact echoes
      · rintro len rfl
        exact echoes
      · rintro result rfl
        exact echoes
  | handleRead place choice =>
    obtain ⟨both, received, same⟩ := (bind_ok _ _ _).mp taken
    obtain rfl := (pure_ok _ _).mp same
    have arrived := receive_arrived (sound place).wellFormed choice received
    cases place with
    | near =>
      change Echoed both.2
      rw [arrived.sender]
      exact ⟨echoed.returned, echoed.whole⟩
    | far =>
      change Echoed both.1
      exact echoed_kept echoed (by rw [arrived.receiver]) (by rw [arrived.receiver]) arrived.closing

/-- In every run whose far user echoes what it receives, the near user gets back a
prefix of what it has handed over. Until the far end closes, that is exactly what it has
handed over, less what is on one of the two ways or unread at the far end, in the order
of the circle.

Proof: an echoing user has passed on what it has retrieved. The two directions are then
one account. -/
theorem echo_round_trip (sockFd : Side → Int) (writeCompleteCallback : Side → Bool)
    (labels : List Label) (s : State)
    (reached : run step (initial sockFd writeCompleteCallback) labels = .ok s)
    (echoes : Along step Echoes (initial sockFd writeCompleteCallback) labels) :
    (s .near).delivered <+: (s .near).handed ∧
      (¬ Closing (s .far) → (s .near).handed =
        ((s .near).delivered ++ (s .near).connection.inputBuffer.content ++ (s .far).wire ++
          (s .far).connection.outputBuffer.content) ++
        ((s .far).connection.inputBuffer.content ++ (s .near).wire ++
          (s .near).connection.outputBuffer.content)) := by
  obtain ⟨sound, echoed⟩ := guarded_invariant step Echoes (fun t => Sound t ∧ Echoed (t .far))
    step_echoed labels _ s
    ⟨initial_sound sockFd writeCompleteCallback, ⟨List.prefix_refl _, fun _ => rfl⟩⟩ echoes reached
  have forth : (s .near).handed = (s .far).delivered ++ (s .far).unread ++ (s .near).wire ++
      (s .near).connection.unsent := (sound .near).carried
  have back : (s .far).handed = (s .near).delivered ++ (s .near).unread ++ (s .far).wire ++
      (s .far).connection.unsent := (sound .far).carried
  refine ⟨?_, ?_⟩
  · have received : (s .near).delivered <+: (s .far).handed := by
      rw [back, List.append_assoc, List.append_assoc]
      exact List.prefix_append _ _
    refine (received.trans echoed.returned).trans ?_
    rw [forth, List.append_assoc, List.append_assoc]
    exact List.prefix_append _ _
  · intro open_
    rw [← echoed.whole open_, back] at forth
    simpa [Party.unread, unsent, List.append_assoc] using forth

/-- One byte comes back while the second is not yet sent. -/
def returning : List Label :=
  [.act .near .connectEstablished, .act .far .connectEstablished,
    .act .near (.send ⟨[53, 54], by decide⟩ (.accepted 1)), .handleRead .far (.upTo 9),
    .act .far (.echo (.accepted 9)), .handleRead .near (.upTo 9), .act .near (.retrieve 1)]

/-- A byte that comes back to the near user is the byte it sent. -/
theorem echo_round_trip_returning :
    ∃ s, run step unestablished returning = .ok s ∧ (s .near).delivered = [53] ∧
      [53] <+: (s .near).handed := by
  have computed : (run step unestablished returning).map (fun s => (s .near).delivered) =
      .ok [53] := by
    decide +kernel
  obtain ⟨s, reached, delivered⟩ := (map_returned _ _ _).mp computed
  have returned := (echo_round_trip _ _ returning s reached (by decide +kernel)).1
  exact ⟨s, reached, delivered, delivered ▸ returned⟩

end ReactorNetwork.Conversation
