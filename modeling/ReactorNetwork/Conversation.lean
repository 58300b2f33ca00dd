import ReactorNetwork.TcpConnection

/-!
# Two connections and the bytes between them

The two ends of one TCP stream, each a `TcpConnection` on its own loop thread.
What `write(2)` accepts at one end travels in order and arrives at the other:
`readv` takes a nonempty prefix of what is on the way, reports the end of the
stream only behind the last byte of an end that has shut down its write side,
and fails otherwise. After that shutdown `write(2)` fails with `EPIPE`. Both may
fail for other reasons at any time, and both may do less than they are asked to.

User code sends, shuts down and consumes its input buffer on its own loop
thread, at any time; a message callback may also send back what it received.
Neither descriptor is closed during a run.

Beside each connection stand the bytes its user passed to `send_in_loop`, those
its user has retrieved, and those its kernel has accepted and the other end has
not yet read.
-/

namespace ReactorNetwork.Conversation

open Runs TcpConnection

/-- The error numbers of a read without data and of a write behind a shutdown. -/
def EWOULDBLOCK : Nat := 11
def EPIPE : Nat := 32

/-- The two ends of a conversation. -/
inductive Side where
  | near
  | far
deriving DecidableEq, Repr

/-- The end that the given one talks to. -/
def Side.other : Side → Side
  | .near => .far
  | .far => .near

/-- The other end of the other end is the end itself. -/
@[simp] theorem other_other (side : Side) : side.other.other = side := by
  cases side <;> rfl

/-- The two ends are different. -/
@[simp] theorem other_ne (side : Side) : side.other ≠ side := by
  cases side <;> simp [Side.other]

/-- There are no further ends. -/
theorem same_or_other (place side : Side) : place = side ∨ place = side.other := by
  cases place <;> cases side <;> simp [Side.other]

/-- One end: its connection, what its user has passed on and got back, and what
is on the way from it. `ended` records that a read reported the end. -/
structure Party where
  connection : TcpConnection
  handed : List Byte
  delivered : List Byte
  wire : List Byte
  writeShut : Bool
  ended : Bool

/-- The bytes received and not yet retrieved. -/
def Party.unread (p : Party) : List Byte := p.connection.inputBuffer.content

/-- A conversation: what each end is and what it has sent. -/
abbrev State := Side → Party

/-- What `readv` will do: fail, or deliver up to one byte more than the count. -/
inductive ReadChoice where
  | failed (errno : Nat)
  | upTo (count : Nat)
deriving DecidableEq, Repr

/-- What one end does on its loop thread, reading apart. `echo` is the message
callback `conn->send(buf->retrieve_as_string())`. -/
inductive Action where
  | connectEstablished
  | send (message : StringView) (result : WriteResult)
  | shutdown
  | handleWrite (result : WriteResult)
  | handleClose
  | connectDestoryed
  | retrieve (len : Nat)
  | echo (result : WriteResult)

/-- A step of a conversation: an action of one end, or a read event at it. -/
inductive Label where
  | act (side : Side) (action : Action)
  | handleRead (side : Side) (choice : ReadChoice)

/-- An end before its connection is established. -/
def initialParty (sockFd : Int) (writeCompleteCallback : Bool) : Party where
  connection := create sockFd writeCompleteCallback
  handed := []
  delivered := []
  wire := []
  writeShut := false
  ended := false

/-- Two connections that are not yet established. -/
def initial (sockFd : Side → Int) (writeCompleteCallback : Side → Bool) : State :=
  fun side => initialParty (sockFd side) (writeCompleteCallback side)

/-- After the shutdown of the write side every write fails. -/
def answered (p : Party) (result : WriteResult) : WriteResult :=
  if p.writeShut then .failed EPIPE else result

/-- What `readv` stores, given the bytes on the way and whether more may follow. -/
def readv (b : Buffer) (wire : List Byte) (finished : Bool) : ReadChoice → ReadvResult
  | .failed errno => .failed errno
  | .upTo count =>
      if wire = [] then
        if finished then .received [] else .failed EWOULDBLOCK
      else .received (wire.take (min (count + 1) (b.writableBytes + Buffer.extraBuffSize)))

/-- The bytes a read took off the wire. -/
def taken : ReadvResult → List Byte
  | .failed _ => []
  | .received data => data

/-- A function of the connection and what it did to the outgoing direction. -/
def perform (p : Party) (outcome : TcpConnection × List Effect) : Party :=
  { p with
    connection := outcome.1
    wire := p.wire ++ written outcome.2
    writeShut := p.writeShut || decide (Effect.shutdownWrite ∈ outcome.2) }

/-- `send` on the loop thread. -/
def send (p : Party) (message : StringView) (result : WriteResult) : Outcome Party :=
  if p.connection.state = .connected then do
    let outcome ← p.connection.sendInLoop message (answered p result)
    pure { perform p outcome with handed := p.handed ++ message.bytes }
  else pure p

/-- `shutdown` on the loop thread: the second exchange of its loop fails. -/
def shutdown (p : Party) : Party :=
  if p.connection.state = .connected then
    let closing : TcpConnection := { p.connection with state := .disconnecting }
    perform p (closing, closing.shutdownInLoop)
  else p

/-- What an action makes of an end. -/
def act (p : Party) : Action → Outcome Party
  | .connectEstablished => do
      let outcome ← p.connection.connectEstablished
      pure (perform p outcome)
  | .send message result => send p message result
  | .shutdown => pure (shutdown p)
  | .handleWrite result => do
      let outcome ← p.connection.handleWrite (answered p result)
      pure (perform p outcome)
  | .handleClose => do
      let outcome ← p.connection.handleClose
      pure (perform p outcome)
  | .connectDestoryed => do
      let outcome ← p.connection.connectDestoryed
      pure (perform p outcome)
  | .retrieve len => do
      let rest ← p.connection.inputBuffer.retrieve len
      pure { p with
        connection := { p.connection with inputBuffer := rest }
        delivered := p.delivered ++ p.unread.take len }
  | .echo result => do
      let (rest, str) ← p.connection.inputBuffer.retrieveAsString
      let retrieved := { p with
        connection := { p.connection with inputBuffer := rest }
        delivered := p.delivered ++ str }
      if addressable : str.length ≤ vectorMaxSize then send retrieved ⟨str, addressable⟩ result
      else .error .lengthError

/-- `handle_read` of one end, with the bytes it takes off the other's wire. -/
def receive (p peer : Party) (choice : ReadChoice) : Outcome (Party × Party) := do
  let result := readv p.connection.inputBuffer peer.wire peer.writeShut choice
  let outcome ← p.connection.handleRead result
  pure ({ perform p outcome with ended := p.ended || decide (Effect.closeCallback ∈ outcome.2) },
    { peer with wire := peer.wire.drop (taken result).length })

/-- The two ends, the first of them at the given side. -/
def ends (side : Side) (p peer : Party) : State := fun place => if place = side then p else peer

/-- One step of a conversation. -/
def step (s : State) : Label → Outcome State
  | .act side action => do
      let p ← act (s side) action
      pure (ends side p (s side.other))
  | .handleRead side choice => do
      let (p, peer) ← receive (s side) (s side.other) choice
      pure (ends side p peer)

/-- The first of two ends stands at the given side. -/
@[simp] theorem ends_same (side : Side) (p peer : Party) : ends side p peer side = p := by
  simp [ends]

/-- The second stands at the other. -/
@[simp] theorem ends_other (side : Side) (p peer : Party) : ends side p peer side.other = peer := by
  simp [ends]

/-- What holds of both ends holds of each. -/
theorem ends_all (holds : Party → Prop) {side : Side} {p peer : Party} (first : holds p)
    (second : holds peer) (place : Side) : holds (ends side p peer place) := by
  obtain rfl | rfl := same_or_other place side
  · simpa using first
  · simpa using second

section Acting

variable {p q : Party}

/-- Both buffers of an end are well formed. -/
structure WellFormed (p : Party) : Prop where
  output : p.connection.outputBuffer.WellFormed
  input : p.connection.inputBuffer.WellFormed

/-- The write side is shut down only once the state has left `connected` for good. -/
def Closing (p : Party) : Prop :=
  p.connection.state = .disconnecting ∨ p.connection.state = .disconnected

/-- What one action of an end leaves behind. Both streams are extended by what is
handed over and by nothing else. Nothing is written and nothing handed over once
the write side is shut down, and it is shut down only in a closing state. -/
structure Acted (p q : Party) (message : List Byte) : Prop where
  wellFormed : WellFormed q
  handed : q.handed = p.handed ++ message
  outgoing : q.wire ++ q.connection.unsent = p.wire ++ p.connection.unsent ++ message
  incoming : q.delivered ++ q.unread = p.delivered ++ p.unread
  ended : q.ended = p.ended
  closing : Closing p → Closing q ∧ message = []
  shut : q.writeShut = true → p.writeShut = true ∨ Closing q
  frozen : p.writeShut = true → Closing p →
    q.writeShut = true ∧ q.wire = p.wire ∧ q.connection.unsent = p.connection.unsent

/-- A function that touches neither buffer and writes nothing. -/
theorem acted_quiet (wellFormed : WellFormed p) (c : TcpConnection) (effects : List Effect)
    (output : c.outputBuffer = p.connection.outputBuffer)
    (input : c.inputBuffer = p.connection.inputBuffer) (silent : written effects = [])
    (open_ : Effect.shutdownWrite ∉ effects)
    (closing : Closing p → c.state = .disconnecting ∨ c.state = .disconnected) :
    Acted p (perform p (c, effects)) [] where
  wellFormed := ⟨by simpa [perform, output] using wellFormed.output,
    by simpa [perform, input] using wellFormed.input⟩
  handed := by simp [perform]
  outgoing := by simp [perform, silent, unsent, output]
  incoming := by simp [perform, Party.unread, input]
  ended := rfl
  closing := fun before => ⟨closing before, rfl⟩
  shut := fun shut => .inl (by simpa [perform, open_] using shut)
  frozen := fun shut _ => by simp [perform, shut, silent, unsent, output]

/-- Sending does not touch the input side, and turns at most the write interest on. -/
theorem sendInLoop_frame {c : TcpConnection} {message : StringView} {result : WriteResult}
    {outcome : TcpConnection × List Effect} (sent : c.sendInLoop message result = .ok outcome) :
    outcome.1.inputBuffer = c.inputBuffer ∧
      (outcome.1.channel = c.channel ∨ outcome.1.channel = c.channel.enableWriting) := by
  unfold sendInLoop at sent
  simp only at sent
  split at sent
  case isTrue =>
    obtain ⟨buffered, _, continued⟩ := (bind_ok _ _ _).mp sent
    split at continued
    · exact (pure_ok _ _).mp continued ▸ ⟨rfl, .inl rfl⟩
    · exact (pure_ok _ _).mp continued ▸ ⟨rfl, .inr rfl⟩
  case isFalse => exact (pure_ok _ _).mp sent ▸ ⟨rfl, .inl rfl⟩

/-- Flushing does not touch it either, and turns at most the write interest off. -/
theorem handleWrite_frame {c : TcpConnection} {result : WriteResult}
    {outcome : TcpConnection × List Effect} (flushed : c.handleWrite result = .ok outcome) :
    outcome.1.inputBuffer = c.inputBuffer ∧
      (outcome.1.channel = c.channel ∨ outcome.1.channel = c.channel.disableWriting) := by
  unfold handleWrite at flushed
  split at flushed
  case isFalse => exact (pure_ok _ _).mp flushed ▸ ⟨rfl, .inl rfl⟩
  case isTrue =>
    obtain ⟨offered, _, continued⟩ := (bind_ok _ _ _).mp flushed
    split at continued
    case h_1 =>
      obtain ⟨rest, _, finished⟩ := (bind_ok _ _ _).mp continued
      split at finished
      · exact (pure_ok _ _).mp finished ▸ ⟨rfl, .inr rfl⟩
      · exact (pure_ok _ _).mp finished ▸ ⟨rfl, .inl rfl⟩
    case h_2 => exact (pure_ok _ _).mp continued ▸ ⟨rfl, .inl rfl⟩

/-- A write that fails leaves the connection as it was. -/
theorem handleWrite_failed {c : TcpConnection} {errno : Nat}
    {outcome : TcpConnection × List Effect} (flushed : c.handleWrite (.failed errno) = .ok outcome) :
    outcome = (c, []) := by
  unfold handleWrite at flushed
  split at flushed
  case isFalse => exact ((pure_ok _ _).mp flushed).symm
  case isTrue =>
    obtain ⟨offered, _, continued⟩ := (bind_ok _ _ _).mp flushed
    exact ((pure_ok _ _).mp continued).symm

/-- A connected end is not closing. -/
theorem not_closing (connected : p.connection.state = .connected) : ¬ Closing p := by
  simp [Closing, connected]

/-- A send hands its message over if the end is connected, and nothing otherwise. -/
theorem send_acted (wellFormed : WellFormed p) (message : StringView) (result : WriteResult)
    (sent : send p message result = .ok q) : ∃ handed, Acted p q handed := by
  unfold send at sent
  split at sent
  case isFalse =>
    obtain rfl := (pure_ok _ _).mp sent
    exact ⟨[], ⟨wellFormed, by simp, by simp, rfl, rfl, fun closing => ⟨closing, rfl⟩, .inl,
      fun shut _ => ⟨shut, rfl, rfl⟩⟩⟩
  case isTrue connected =>
    obtain ⟨outcome, acted, same⟩ := (bind_ok _ _ _).mp sent
    obtain rfl := (pure_ok _ _).mp same
    have law := (sendInLoop_returns wellFormed.output message _).of_ok acted
    have input := (sendInLoop_frame acted).1
    refine ⟨message.bytes, ⟨⟨law.wellFormed, ?_⟩, rfl, ?_, ?_, rfl, ?_, ?_, ?_⟩⟩
    · simpa [perform, input] using wellFormed.input
    · have stream := law.stream
      simp only [perform, List.append_assoc]
      rw [stream]
    · simp [perform, Party.unread, input]
    · exact fun closing => absurd closing (not_closing connected)
    · exact fun shut => .inl (by simpa [perform, law.quiet] using shut)
    · exact fun _ closing => absurd closing (not_closing connected)

/-- A flush moves unsent bytes to the wire and hands nothing over. -/
theorem handleWrite_acted (wellFormed : WellFormed p) (result : WriteResult)
    {outcome : TcpConnection × List Effect}
    (flushed : p.connection.handleWrite (answered p result) = .ok outcome) :
    Acted p (perform p outcome) [] := by
  have law := (handleWrite_returns wellFormed.output _ False).of_ok flushed
  have input := (handleWrite_frame flushed).1
  refine ⟨⟨law.wellFormed, ?_⟩, by simp [perform], ?_, ?_, rfl, ?_, ?_, ?_⟩
  · simpa [perform, input] using wellFormed.input
  · have stream := law.stream
    simp only [perform, List.append_assoc, List.append_nil]
    rw [stream]
  · simp [perform, Party.unread, input]
  · exact fun closing => ⟨by simpa [Closing, perform, law.state] using closing, rfl⟩
  · intro shut
    simp only [perform, Bool.or_eq_true, decide_eq_true_eq] at shut
    rcases shut with earlier | now
    · exact .inl earlier
    · exact .inr (.inl (law.state.trans (law.shutdown now).1))
  · intro shut _
    rw [answered, if_pos shut] at flushed
    obtain rfl := handleWrite_failed flushed
    simp [perform, shut, written]

/-- A shutdown hands nothing over, and closes the write side in a closing state only. -/
theorem shutdown_acted (wellFormed : WellFormed p) : Acted p (shutdown p) [] := by
  unfold shutdown
  by_cases connected : p.connection.state = .connected
  · rw [if_pos connected]
    have silent : ∀ c : TcpConnection, written c.shutdownInLoop = [] := by
      intro c
      unfold shutdownInLoop
      split <;> rfl
    refine ⟨⟨wellFormed.output, wellFormed.input⟩, by simp [perform], ?_, rfl, rfl, ?_, ?_, ?_⟩
    · simp [perform, silent, unsent]
    · exact fun closing => absurd closing (not_closing connected)
    · exact fun _ => .inr (.inl rfl)
    · exact fun _ closing => absurd closing (not_closing connected)
  · rw [if_neg connected]
    exact ⟨wellFormed, by simp, by simp, rfl, rfl, fun closing => ⟨closing, rfl⟩, .inl,
      fun shut _ => ⟨shut, rfl, rfl⟩⟩

/-- The user takes bytes from the front of the input buffer. -/
theorem consumed_acted (wellFormed : WellFormed p) (rest : Buffer) (bytes : List Byte)
    (kept : rest.WellFormed) (split : bytes ++ rest.content = p.unread) :
    Acted p { p with
      connection := { p.connection with inputBuffer := rest }
      delivered := p.delivered ++ bytes } [] where
  wellFormed := ⟨wellFormed.output, kept⟩
  handed := by simp
  outgoing := by simp [unsent]
  incoming := by simp only [Party.unread, List.append_assoc] at split ⊢; rw [split]
  ended := rfl
  closing := fun closing => ⟨closing, rfl⟩
  shut := .inl
  frozen := fun shut _ => ⟨shut, rfl, rfl⟩

/-- Two actions in a row hand over what both do. -/
theorem Acted.trans {r : Party} {first second : List Byte} (left : Acted p q first)
    (right : Acted q r second) : Acted p r (first ++ second) where
  wellFormed := right.wellFormed
  handed := by rw [right.handed, left.handed, List.append_assoc]
  outgoing := by rw [right.outgoing, left.outgoing, List.append_assoc]
  incoming := right.incoming.trans left.incoming
  ended := right.ended.trans left.ended
  closing := by
    intro closing
    obtain ⟨later, none⟩ := left.closing closing
    obtain ⟨last, nothing⟩ := right.closing later
    exact ⟨last, by rw [none, nothing]; rfl⟩
  shut := by
    intro shut
    rcases right.shut shut with earlier | closing
    · rcases left.shut earlier with first | closing
      · exact .inl first
      · exact .inr (right.closing closing).1
    · exact .inr closing
  frozen := by
    intro shut closing
    obtain ⟨still, wire, unsent⟩ := left.frozen shut closing
    obtain ⟨last, wire', unsent'⟩ := right.frozen still (left.closing closing).1
    exact ⟨last, wire'.trans wire, unsent'.trans unsent⟩

/-- The end after its user has taken everything it received. -/
def emptied (p : Party) : Party :=
  { p with
    connection := { p.connection with inputBuffer := p.connection.inputBuffer.retrieveAll }
    delivered := p.delivered ++ p.unread }

/-- Retrieving everything moves the unread bytes to the user. -/
theorem emptied_acted (wellFormed : WellFormed p) : Acted p (emptied p) [] :=
  consumed_acted wellFormed _ p.unread (Buffer.retrieveAll_wellFormed wellFormed.input)
    (by rw [Buffer.retrieveAll_content]; simp)

/-- Echoing takes everything received and sends it. -/
theorem echo_sends (wellFormed : WellFormed p) {result : WriteResult}
    (echoed : act p (.echo result) = .ok q) :
    ∃ addressable, send (emptied p) ⟨p.unread, addressable⟩ result = .ok q := by
  obtain ⟨⟨rest, str⟩, retrieved, continued⟩ := (bind_ok _ _ _).mp echoed
  obtain ⟨rfl, rfl⟩ := (Buffer.retrieveAsString_returns wellFormed.input False).of_ok retrieved
  simp only at continued
  split at continued
  case isFalse => cases continued
  case isTrue addressable => exact ⟨addressable, continued⟩

/-- Every action of an end extends the two streams by what it hands over, and by nothing
else. -/
theorem act_acted (wellFormed : WellFormed p) (action : Action) (done : act p action = .ok q) :
    ∃ handed, Acted p q handed := by
  cases action with
  | send message result => exact send_acted wellFormed message result done
  | shutdown =>
    obtain rfl := (pure_ok _ _).mp done
    exact ⟨[], shutdown_acted wellFormed⟩
  | handleWrite result =>
    obtain ⟨outcome, flushed, same⟩ := (bind_ok _ _ _).mp done
    obtain rfl := (pure_ok _ _).mp same
    exact ⟨[], handleWrite_acted wellFormed result flushed⟩
  | connectEstablished =>
    obtain ⟨outcome, established, same⟩ := (bind_ok _ _ _).mp done
    obtain rfl := (pure_ok _ _).mp same
    obtain ⟨connecting, rfl⟩ := (connectEstablished_ok _ _).mp established
    refine ⟨[], acted_quiet wellFormed _ _ rfl rfl rfl (by simp) ?_⟩
    simp [Closing, connecting]
  | handleClose =>
    obtain ⟨outcome, closed, same⟩ := (bind_ok _ _ _).mp done
    obtain rfl := (pure_ok _ _).mp same
    obtain ⟨_, rfl⟩ := (handleClose_ok _ _).mp closed
    exact ⟨[], acted_quiet wellFormed _ _ rfl rfl rfl (by simp) id⟩
  | connectDestoryed =>
    obtain ⟨outcome, destroyed, same⟩ := (bind_ok _ _ _).mp done
    obtain rfl := (pure_ok _ _).mp same
    obtain ⟨_, rfl⟩ := (connectDestoryed_ok _ _).mp destroyed
    exact ⟨[], acted_quiet wellFormed _ _ rfl rfl rfl (by simp) (fun _ => .inr rfl)⟩
  | retrieve len =>
    obtain ⟨rest, retrieved, same⟩ := (bind_ok _ _ _).mp done
    obtain rfl := (pure_ok _ _).mp same
    have present := ((require_bind_ok _ _ _).mp retrieved).1
    obtain ⟨kept, dropped, _⟩ :=
      (Buffer.retrieve_returns wellFormed.input len present False).of_ok retrieved
    refine ⟨[], consumed_acted wellFormed rest _ kept ?_⟩
    rw [dropped]
    exact List.take_append_drop _ _
  | echo result =>
    obtain ⟨addressable, sends⟩ := echo_sends wellFormed done
    have consumed := emptied_acted wellFormed
    obtain ⟨handed, sent⟩ := send_acted consumed.wellFormed _ result sends
    exact ⟨[] ++ handed, consumed.trans sent⟩

/-- What one read leaves at its two ends: `data` has moved from the wire to the
input buffer. Only an empty wire behind a shut-down write side is reported as the
end of the stream. -/
structure Arrived (p peer q rest : Party) (data : List Byte) : Prop where
  wellFormed : WellFormed q
  unread : q.unread = p.unread ++ data
  wire : peer.wire = data ++ rest.wire
  receiver : q = { p with connection := q.connection, ended := q.ended }
  output : q.connection.outputBuffer = p.connection.outputBuffer
  channel : data ≠ [] → q.connection.channel = p.connection.channel
  sender : rest = { peer with wire := rest.wire }
  closing : Closing p → Closing q
  ended : q.ended = true → p.ended = true ∨ peer.writeShut = true ∧ peer.wire = []

/-- A read never asks for more than the writable tail and the stack array hold. -/
theorem readv_fits (wellFormed : WellFormed p) {wire : List Byte} {finished : Bool}
    {choice : ReadChoice} {data : List Byte}
    (received : readv p.connection.inputBuffer wire finished choice = .received data) :
    p.connection.inputBuffer.writerIndex + data.length < sizeLimit := by
  have inside := wellFormed.input.inside
  have sized := wellFormed.input.sized
  have writable := Buffer.writableBytes_exact wellFormed.input
  have bounded : data.length ≤ p.connection.inputBuffer.writableBytes + Buffer.extraBuffSize := by
    unfold readv at received
    split at received
    case h_1 => cases received
    case h_2 =>
      split at received
      case isTrue =>
        split at received
        · cases received
          simp
        · cases received
      case isFalse =>
        cases received
        simp only [List.length_take]
        omega
  unfold Buffer.extraBuffSize at bounded
  unfold vectorMaxSize at sized
  unfold sizeLimit
  omega

/-- What `readv` stores is a prefix of the wire, and an empty one only at its end. -/
theorem readv_splits {b : Buffer} {wire : List Byte} {finished : Bool} {choice : ReadChoice}
    {data : List Byte} (received : readv b wire finished choice = .received data) :
    wire = data ++ wire.drop data.length ∧ (data = [] → finished = true ∧ wire = []) := by
  unfold readv at received
  split at received
  case h_1 => cases received
  case h_2 count =>
    split at received
    case isTrue empty =>
      split at received
      case isTrue shut =>
        cases received
        exact ⟨rfl, fun _ => ⟨shut, empty⟩⟩
      case isFalse => cases received
    case isFalse some_ =>
      obtain rfl := ReadvResult.received.inj received
      refine ⟨?_, ?_⟩
      · exact (List.prefix_iff_eq_append.mp (List.take_prefix _ _)).symm
      · intro nothing
        have width := congrArg List.length nothing
        have positive := List.length_pos_iff.mpr some_
        simp only [List.length_take, List.length_nil, Buffer.extraBuffSize] at width
        omega

/-- A read moves its bytes from the wire to the input buffer, and reports the end of the
stream only behind a wire that is empty and shut down. -/
theorem receive_arrived {peer : Party} (wellFormed : WellFormed p) (choice : ReadChoice)
    {both : Party × Party} (received : receive p peer choice = .ok both) :
    Arrived p peer both.1 both.2
      (taken (readv p.connection.inputBuffer peer.wire peer.writeShut choice)) := by
  obtain ⟨outcome, handled, same⟩ := (bind_ok _ _ _).mp received
  obtain rfl := (pure_ok _ _).mp same
  obtain ⟨⟨filled, n⟩, read, continued⟩ := (bind_ok _ _ _).mp handled
  cases answer : readv p.connection.inputBuffer peer.wire peer.writeShut choice with
  | failed errno =>
    rw [answer] at read
    obtain ⟨rfl, rfl⟩ := Prod.mk.inj ((pure_ok _ _).mp read)
    obtain rfl := (pure_ok _ _).mp continued
    refine ⟨⟨wellFormed.output, wellFormed.input⟩, by simp [perform, Party.unread, taken],
      by simp [taken], by simp [perform, written], rfl, fun _ => rfl, rfl, id, ?_⟩
    exact fun ended => .inl (by simpa [perform] using ended)
  | received data =>
    rw [answer] at read
    obtain ⟨kept, extended, count⟩ :=
      (Buffer.readFd_returns wellFormed.input data (readv_fits wellFormed answer)).of_ok read
    obtain ⟨split, last⟩ := readv_splits answer
    obtain rfl : n = .ok data.length := count
    simp only at kept extended continued
    cases width : data.length with
    | zero =>
      obtain rfl := List.length_eq_zero_iff.mp width
      obtain ⟨_, rfl⟩ := (handleClose_ok _ _).mp continued
      exact ⟨⟨wellFormed.output, kept⟩, extended, by simp [taken], by simp [perform, written], rfl,
        fun some_ => absurd rfl some_, rfl, id, fun _ => .inr (last rfl)⟩
    | succ n =>
      rw [width] at continued
      obtain rfl := (pure_ok _ _).mp continued
      refine ⟨⟨wellFormed.output, kept⟩, extended, split, by simp [perform, written], rfl,
        fun _ => rfl, rfl, id, ?_⟩
      exact fun ended => .inl (by simpa [perform] using ended)

/-- The direction from one end to the other: everything handed over is, in order,
with the other user, unread in the other input buffer, on the wire or unsent. -/
structure Linked (p peer : Party) : Prop where
  wellFormed : WellFormed p
  carried : p.handed = peer.delivered ++ peer.unread ++ p.wire ++ p.connection.unsent
  closing : p.writeShut = true → Closing p
  ended : peer.ended = true → p.writeShut = true ∧ p.wire = []

/-- An action keeps both directions: it extends one of them at its end and only
regroups the other. -/
theorem acted_linked {peer : Party} {message : List Byte} (forth : Linked p peer)
    (back : Linked peer p) (acted : Acted p q message) : Linked q peer ∧ Linked peer q := by
  constructor
  · refine ⟨acted.wellFormed, ?_, ?_, ?_⟩
    · rw [acted.handed, forth.carried, List.append_assoc (peer.delivered ++ peer.unread) q.wire,
        acted.outgoing]
      simp
    · intro shut
      rcases acted.shut shut with earlier | closing
      · exact (acted.closing (forth.closing earlier)).1
      · exact closing
    · intro ended
      obtain ⟨shut, empty⟩ := forth.ended ended
      obtain ⟨still, wire, _⟩ := acted.frozen shut (forth.closing shut)
      exact ⟨still, wire.trans empty⟩
  · refine ⟨back.wellFormed, ?_, back.closing, ?_⟩
    · rw [acted.incoming]
      exact back.carried
    · rw [acted.ended]
      exact back.ended

/-- A read moves bytes along one direction and leaves the other alone. -/
theorem arrived_linked {peer rest : Party} {data : List Byte} (forth : Linked p peer)
    (back : Linked peer p) (arrived : Arrived p peer q rest data) :
    Linked q rest ∧ Linked rest q := by
  obtain ⟨kept, unread, wire, receiver, output, _, sender, closing, ended⟩ := arrived
  have handed : q.handed = p.handed := by rw [receiver]
  have delivered : q.delivered = p.delivered := by rw [receiver]
  have outgoing : q.wire = p.wire := by rw [receiver]
  have shut : q.writeShut = p.writeShut := by rw [receiver]
  have unsent : q.connection.unsent = p.connection.unsent := congrArg Buffer.content output
  have peerConnection : rest.connection = peer.connection := by rw [sender]
  have peerHanded : rest.handed = peer.handed := by rw [sender]
  have peerDelivered : rest.delivered = peer.delivered := by rw [sender]
  have peerShut : rest.writeShut = peer.writeShut := by rw [sender]
  have peerEnded : rest.ended = peer.ended := by rw [sender]
  constructor
  · refine ⟨kept, ?_, ?_, ?_⟩
    · rw [handed, peerDelivered, Party.unread, peerConnection, outgoing, unsent]
      exact forth.carried
    · rw [shut]
      exact fun before => closing (forth.closing before)
    · rw [peerEnded, shut, outgoing]
      exact forth.ended
  · refine ⟨⟨peerConnection ▸ back.wellFormed.output, peerConnection ▸ back.wellFormed.input⟩,
      ?_, ?_, ?_⟩
    · rw [peerHanded, back.carried, delivered, unread, peerConnection, wire]
      simp
    · rw [peerShut, Closing, peerConnection]
      exact back.closing
    · intro atEnd
      rw [peerShut]
      have finished : peer.writeShut = true ∧ peer.wire = [] := by
        rcases ended atEnd with before | now
        · exact back.ended before
        · exact now
      refine ⟨finished.1, ?_⟩
      rw [finished.2] at wire
      exact (List.append_eq_nil_iff.mp wire.symm).2

end Acting

/-- Both directions are accounted for. -/
def Sound (s : State) : Prop := ∀ side, Linked (s side) (s side.other)

/-- Two directions that are accounted for make a sound conversation, whichever end comes
first. -/
theorem sound_ends {side : Side} {p peer : Party} (forth : Linked p peer) (back : Linked peer p) :
    Sound (ends side p peer) := by
  intro place
  obtain rfl | rfl := same_or_other place side
  · simpa using forth
  · simpa using back

/-- Before anything was sent both directions are empty. -/
theorem initial_sound (sockFd : Side → Int) (writeCompleteCallback : Side → Bool) :
    Sound (initial sockFd writeCompleteCallback) := by
  intro side
  have empty : Buffer.fresh.content = [] := Buffer.fresh_content
  refine ⟨⟨Buffer.fresh_wellFormed, Buffer.fresh_wellFormed⟩, ?_, by simp [initial, initialParty],
    by simp [initial, initialParty]⟩
  simp [initial, initialParty, Party.unread, unsent, create, empty]

/-- Every step keeps both directions accounted for: an action extends one of them, a
read moves bytes along the other. -/
theorem step_sound (s : State) (label : Label) (t : State) (sound : Sound s)
    (taken : step s label = .ok t) : Sound t := by
  cases label with
  | act side action =>
    obtain ⟨q, done, same⟩ := (bind_ok _ _ _).mp taken
    obtain rfl := (pure_ok _ _).mp same
    obtain ⟨message, acted⟩ := act_acted (sound side).wellFormed action done
    have back : Linked (s side.other) (s side) := by simpa using sound side.other
    obtain ⟨forth, back⟩ := acted_linked (sound side) back acted
    exact sound_ends forth back
  | handleRead side choice =>
    obtain ⟨both, received, same⟩ := (bind_ok _ _ _).mp taken
    obtain rfl := (pure_ok _ _).mp same
    have arrived := receive_arrived (sound side).wellFormed choice received
    have back : Linked (s side.other) (s side) := by simpa using sound side.other
    obtain ⟨forth, back⟩ := arrived_linked (sound side) back arrived
    exact sound_ends forth back

/-- So does every run of two connections, from their construction on. -/
theorem run_sound (sockFd : Side → Int) (writeCompleteCallback : Side → Bool)
    (labels : List Label) (s : State)
    (reached : run step (initial sockFd writeCompleteCallback) labels = .ok s) : Sound s :=
  Runs.invariant step Sound step_sound labels _ s (initial_sound sockFd writeCompleteCallback) reached

/-- In every interleaving of the two loops, with any results of their system calls,
the bytes handed over at one end are, in this order and with nothing between, those
the other user has retrieved, those in the other input buffer, those on the wire and
those in the output buffer.

Proof: an action extends its own direction by what it hands over and only regroups
the other; a read moves a prefix of the wire behind the unread bytes. -/
theorem bytes_between_users (sockFd : Side → Int) (writeCompleteCallback : Side → Bool)
    (labels : List Label) (s : State)
    (reached : run step (initial sockFd writeCompleteCallback) labels = .ok s) (side : Side) :
    (s side).handed = (s side.other).delivered ++ (s side.other).connection.inputBuffer.content ++
      (s side).wire ++ (s side).connection.outputBuffer.content :=
  (run_sound sockFd writeCompleteCallback labels s reached side).carried

/-- Two ends that have not done anything yet. -/
def unestablished : State := initial (fun _ => 5) (fun _ => false)

/-- A short write, a flush of one more byte, and a read of what has arrived. -/
def onTheWay : List Label :=
  [.act .near .connectEstablished, .act .far .connectEstablished,
    .act .near (.send ⟨[41, 42, 43, 44], by decide⟩ (.accepted 2)),
    .handleRead .far (.upTo 9), .act .far (.retrieve 1),
    .act .near (.handleWrite (.accepted 1))]

/-- In the middle of a transfer the four bytes sent lie in four places, in order. -/
theorem bytes_on_the_way :
    ∃ s, run step unestablished onTheWay = .ok s ∧
      [41, 42, 43, 44] = [41] ++ (s .far).connection.inputBuffer.content ++ [43] ++
        (s .near).connection.outputBuffer.content := by
  have computed : (run step unestablished onTheWay).map
      (fun s => ((s .near).handed, (s .far).delivered, (s .near).wire)) =
        .ok ([41, 42, 43, 44], [41], [43]) := by
    decide +kernel
  obtain ⟨s, reached, observed⟩ := (map_returned _ _ _).mp computed
  obtain ⟨handed, delivered, wire⟩ : (s .near).handed = [41, 42, 43, 44] ∧ (s .far).delivered = [41] ∧
      (s .near).wire = [43] := by simpa using observed
  refine ⟨s, reached, ?_⟩
  have exact := bytes_between_users _ _ onTheWay s reached .near
  rw [handed, wire] at exact
  exact delivered ▸ exact

end ReactorNetwork.Conversation
