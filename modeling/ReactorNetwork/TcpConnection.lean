import ReactorNetwork.Buffer
import ReactorNetwork.Channel

/-!
# One TCP connection on its loop thread

The functions a connection runs on its loop thread, each as a transformation of
the connection together with the effects it has outside, in program order. The
environment supplies what the system calls return: `write(2)` accepts any part
of what it is offered or fails with any `errno`, `readv` returns any bytes.
Logging is left out.

The laws say what one call does to the output stream: bytes the kernel accepted
followed by the bytes still buffered change exactly by the message sent. They
hold for every result of the system calls and need no relation between the
write interest and the buffer; that relation is kept as a second law.
-/

namespace ReactorNetwork

open CellStore

/-- A `std::string_view`. No object is larger than `PTRDIFF_MAX` bytes. -/
structure StringView where
  bytes : List Byte
  addressable : bytes.length ≤ vectorMaxSize

/-- What one `write` call did. -/
inductive WriteResult where
  | accepted (count : Nat)
  | failed (errno : Nat)
deriving DecidableEq, Repr

/-- The number of bytes `write` reports for the offered data, never more than
were offered; `none` stands for `-1`. -/
def writeCount (offered : List Byte) : WriteResult → Option Nat
  | .accepted count => some (min count offered.length)
  | .failed _ => none

/-- What a connection does outside itself, in the order it happens. -/
inductive Effect where
  | wrote (data : List Byte)
  | updateChannel
  | removeChannel
  | queueWriteComplete
  | shutdownWrite
  | connectCallback
  | messageCallback
  | closeCallback
deriving DecidableEq, Repr

/-- The bytes the kernel accepted, in order. -/
def written (effects : List Effect) : List Byte :=
  effects.flatMap fun
    | .wrote data => data
    | _ => []

/-- What two records of effects have written, one behind the other. -/
@[simp] theorem written_append (left right : List Effect) :
    written (left ++ right) = written left ++ written right := by
  simp [written]

/-- `TcpConnection::State`. -/
inductive ConnectionState where
  | connecting
  | connected
  | disconnected
  | disconnecting
deriving DecidableEq, Repr

/-- A connection, without its name, its addresses and its callbacks. -/
structure TcpConnection where
  state : ConnectionState
  channel : Channel
  inputBuffer : Buffer
  outputBuffer : Buffer
  writeCompleteCallback : Bool
deriving DecidableEq, Repr

namespace TcpConnection

/-- The constructor, with `set_write_callback` applied or not. -/
def create (sockFd : Int) (writeCompleteCallback : Bool) : TcpConnection where
  state := .connecting
  channel := Channel.create sockFd
  inputBuffer := Buffer.fresh
  outputBuffer := Buffer.fresh
  writeCompleteCallback := writeCompleteCallback

/-- Queue the write-complete notification if a callback is set. -/
def notify (c : TcpConnection) : List Effect :=
  if c.writeCompleteCallback then [.queueWriteComplete] else []

/-- The direct attempt of `send_in_loop`: nothing is buffered or awaited, so the
message is offered to the kernel. A failure counts as zero bytes. -/
def writeDirectly (c : TcpConnection) (message : List Byte) (result : WriteResult) :
    Nat × List Effect :=
  if !c.channel.isWriting && c.outputBuffer.readableBytes == 0 then
    match writeCount message result with
    | some nWrote =>
        if nWrote < message.length then (nWrote, [.wrote (message.take nWrote)])
        else (nWrote, .wrote (message.take nWrote) :: c.notify)
    | none => (0, [])
  else (0, [])

/-- `n_wrote` is a natural number here, which is what the source asserts. -/
def sendInLoop (c : TcpConnection) (message : StringView) (result : WriteResult) :
    Outcome (TcpConnection × List Effect) :=
  let (nWrote, effects) := c.writeDirectly message.bytes result
  if nWrote < message.bytes.length then do
    let buffered ← c.outputBuffer.appendBytes (message.bytes.drop nWrote)
      (sizeSub message.bytes.length nWrote)
    if c.channel.isWriting then
      pure ({ c with outputBuffer := buffered }, effects)
    else
      pure ({ c with outputBuffer := buffered, channel := c.channel.enableWriting },
        effects ++ [.updateChannel])
  else
    pure (c, effects)

/-- `shutdown_in_loop`: the write side is closed unless bytes still wait. -/
def shutdownInLoop (c : TcpConnection) : List Effect :=
  if c.channel.isWriting then [] else [.shutdownWrite]

/-- `connect_established`. -/
def connectEstablished (c : TcpConnection) : Outcome (TcpConnection × List Effect) := do
  require (c.state = .connecting)
  pure ({ c with state := .connected, channel := c.channel.enableReading },
    [.updateChannel, .connectCallback])

/-- `connect_destoryed`. -/
def connectDestoryed (c : TcpConnection) : Outcome (TcpConnection × List Effect) := do
  require (c.state = .connected ∨ c.state = .disconnecting)
  pure ({ c with state := .disconnected, channel := c.channel.disableAll },
    [.updateChannel, .connectCallback, .removeChannel])

/-- `handle_close`, which leaves the state alone. -/
def handleClose (c : TcpConnection) : Outcome (TcpConnection × List Effect) := do
  require (c.state = .connected ∨ c.state = .disconnecting)
  pure ({ c with channel := c.channel.disableAll }, [.updateChannel, .closeCallback])

/-- `handle_error` only reads and logs `SO_ERROR`. -/
def handleRead (c : TcpConnection) (result : ReadvResult) :
    Outcome (TcpConnection × List Effect) := do
  let (filled, n) ← c.inputBuffer.readFd result
  let received := { c with inputBuffer := filled }
  match n with
  | .ok 0 => received.handleClose
  | .ok _ => pure (received, [.messageCallback])
  | .error _ => pure (received, [])

/-- `handle_write`: waiting bytes are offered to the kernel. -/
def handleWrite (c : TcpConnection) (result : WriteResult) :
    Outcome (TcpConnection × List Effect) :=
  if c.channel.isWriting then do
    let offered ← accessed (load c.outputBuffer.buffer c.outputBuffer.peek
      c.outputBuffer.readableBytes)
    match writeCount offered result with
    | some (n + 1) =>
        let rest ← c.outputBuffer.retrieve (n + 1)
        if rest.readableBytes = 0 then
          let drained := { c with outputBuffer := rest, channel := c.channel.disableWriting }
          pure (drained, [.wrote (offered.take (n + 1)), .updateChannel] ++ drained.notify ++
            (if drained.state = .disconnecting then drained.shutdownInLoop else []))
        else
          pure ({ c with outputBuffer := rest }, [.wrote (offered.take (n + 1))])
    | _ => pure (c, [])
  else
    pure (c, [])

/-- Establishing is possible once, from the constructed state. -/
theorem connectEstablished_ok (c : TcpConnection) (result : TcpConnection × List Effect) :
    c.connectEstablished = .ok result ↔ c.state = .connecting ∧
      result = ({ c with state := .connected, channel := c.channel.enableReading },
        [.updateChannel, .connectCallback]) := by
  simp only [connectEstablished, require_bind_ok, pure_ok]
  exact and_congr_right fun _ => eq_comm

/-- `handle_close` returns exactly in the states it asserts, with the channel disabled
and the close callback invoked. -/
theorem handleClose_ok (c : TcpConnection) (result : TcpConnection × List Effect) :
    c.handleClose = .ok result ↔ (c.state = .connected ∨ c.state = .disconnecting) ∧
      result = ({ c with channel := c.channel.disableAll }, [.updateChannel, .closeCallback]) := by
  simp only [handleClose, require_bind_ok, pure_ok]
  exact and_congr_right fun _ => eq_comm

/-- `connect_destoryed` returns exactly in the states it asserts, with the connection
`disconnected` and its channel removed. -/
theorem connectDestoryed_ok (c : TcpConnection) (result : TcpConnection × List Effect) :
    c.connectDestoryed = .ok result ↔ (c.state = .connected ∨ c.state = .disconnecting) ∧
      result = ({ c with state := .disconnected, channel := c.channel.disableAll },
        [.updateChannel, .connectCallback, .removeChannel]) := by
  simp only [connectDestoryed, require_bind_ok, pure_ok]
  exact and_congr_right fun _ => eq_comm

/-- The bytes accepted for sending and not yet taken by the kernel. -/
def unsent (c : TcpConnection) : List Byte := c.outputBuffer.content

/-- The write interest is on exactly when bytes are waiting. -/
def InterestExact (c : TcpConnection) : Prop := c.channel.isWriting = true ↔ c.unsent ≠ []

variable {c : TcpConnection}

/-- The output buffer is empty by its indices exactly when nothing is unsent. -/
theorem readableBytes_zero (wellFormed : c.outputBuffer.WellFormed) :
    c.outputBuffer.readableBytes = 0 ↔ c.unsent = [] := by
  rw [← Buffer.content_length wellFormed, List.length_eq_zero_iff]
  rfl

/-- A queued write-complete callback writes nothing. -/
theorem written_notify : written c.notify = [] := by
  unfold notify
  split <;> rfl

/-- And it shuts nothing down. -/
theorem notify_quiet : Effect.shutdownWrite ∉ c.notify := by
  unfold notify
  split <;> simp

/-- The direct attempt writes a prefix of the message, and a nonempty one only
when nothing is buffered in front of it. -/
theorem writeDirectly_exact (wellFormed : c.outputBuffer.WellFormed) (message : List Byte)
    (result : WriteResult) :
    (c.writeDirectly message result).1 ≤ message.length ∧
      written (c.writeDirectly message result).2 = message.take (c.writeDirectly message result).1 ∧
      ((c.writeDirectly message result).1 = 0 ∨ c.unsent = []) ∧
      Effect.shutdownWrite ∉ (c.writeDirectly message result).2 := by
  unfold writeDirectly
  by_cases idle : (!c.channel.isWriting && c.outputBuffer.readableBytes == 0) = true
  · have empty : c.unsent = [] := by
      simp only [Bool.and_eq_true, beq_iff_eq] at idle
      exact (readableBytes_zero wellFormed).mp idle.2
    rw [if_pos idle]
    cases result with
    | failed errno => simp [writeCount, written]
    | accepted count =>
      simp only [writeCount]
      split
      · refine ⟨Nat.min_le_right _ _, ?_, Or.inr empty, by simp⟩
        simp [written]
      · refine ⟨Nat.min_le_right _ _, ?_, Or.inr empty, ?_⟩
        · have quiet : written c.notify = [] := written_notify
          simp [written] at quiet ⊢
          exact quiet
        · simp [notify_quiet]
  · rw [if_neg idle]
    simp [written]

/-- What one `send_in_loop` leaves behind, whatever the kernel answered. -/
structure Sent (before after : TcpConnection) (message : List Byte) (effects : List Effect) :
    Prop where
  wellFormed : after.outputBuffer.WellFormed
  stream : written effects ++ after.unsent = before.unsent ++ message
  interest : before.InterestExact → after.InterestExact
  state : after.state = before.state
  quiet : Effect.shutdownWrite ∉ effects

/-- A send accounts for every byte of its message: the kernel accepted it or it
is buffered behind all earlier ones.

Proof: the direct attempt writes a prefix and only in front of an empty buffer.
If it took the whole message nothing changes. Otherwise the rest is appended and
the interest is on afterwards, with bytes waiting. -/
theorem sendInLoop_returns (wellFormed : c.outputBuffer.WellFormed) (message : StringView)
    (result : WriteResult) :
    Returns (c.sendInLoop message result)
      (vectorMaxSize < c.outputBuffer.writerIndex + message.bytes.length)
      (fun outcome => Sent c outcome.1 message.bytes outcome.2) := by
  obtain ⟨bounded, prefixed, alone, quiet⟩ := writeDirectly_exact wellFormed message.bytes result
  unfold sendInLoop
  generalize c.writeDirectly message.bytes result = direct at bounded prefixed alone quiet
  obtain ⟨nWrote, effects⟩ := direct
  simp only at bounded prefixed alone quiet ⊢
  by_cases more : nWrote < message.bytes.length
  · rw [if_pos more]
    have addressable := message.addressable
    have inside := wellFormed.inside
    have sized := wellFormed.sized
    have remaining : sizeSub message.bytes.length nWrote = message.bytes.length - nWrote :=
      sizeSub_exact _ _ bounded (by unfold vectorMaxSize at addressable; unfold sizeLimit; omega)
    have width : (message.bytes.drop nWrote).length = message.bytes.length - nWrote :=
      List.length_drop
    have appended := Buffer.appendBytes_returns wellFormed (message.bytes.drop nWrote)
      (message.bytes.length - nWrote) (Nat.le_of_eq width.symm) (by
        unfold vectorMaxSize at addressable sized
        unfold sizeLimit
        omega)
    rw [remaining]
    refine (appended.imp (fun tooLong => by omega) (fun _ kept => kept)).bind ?_
    rintro buffered ⟨kept, extended⟩
    rw [List.take_of_length_le (Nat.le_of_eq width)] at extended
    have stream : written effects ++ buffered.content = c.unsent ++ message.bytes := by
      rw [extended, prefixed]
      rcases alone with none | empty
      · simp [none, unsent]
      · simp only [unsent] at empty ⊢
        rw [empty, List.nil_append, List.nil_append, List.take_append_drop]
    have waiting : buffered.content ≠ [] := by
      rw [extended]
      intro nothing
      have short := congrArg List.length nothing
      simp only [List.length_append, List.length_drop, List.length_nil] at short
      omega
    by_cases writing : c.channel.isWriting = true
    · rw [if_pos writing]
      exact returns_ok ⟨kept, stream, fun _ => ⟨fun _ => waiting, fun _ => writing⟩, rfl, quiet⟩
    · rw [if_neg writing]
      refine returns_ok ⟨kept, ?_, ?_, rfl, by simp [quiet]⟩
      · simp only [written_append]
        simpa [written, unsent] using stream
      · intro _
        exact ⟨fun _ => waiting, fun _ => Channel.isWriting_enableWriting c.channel⟩
  · rw [if_neg more]
    have all : nWrote = message.bytes.length := by omega
    refine returns_ok ⟨wellFormed, ?_, id, rfl, quiet⟩
    simp only [prefixed, all, List.take_length]
    rcases alone with none | empty
    · have blank : message.bytes = [] := List.eq_nil_of_length_eq_zero (by omega)
      simp [blank]
    · simp [empty]

/-- What one `handle_write` leaves behind. It shuts the write side down only in
state `disconnecting`, after the kernel has accepted everything buffered, and as
its last effect. -/
structure Flushed (before after : TcpConnection) (result : WriteResult)
    (effects : List Effect) : Prop where
  wellFormed : after.outputBuffer.WellFormed
  stream : written effects ++ after.unsent = before.unsent
  interest : before.InterestExact → after.InterestExact
  state : after.state = before.state
  shutdown : Effect.shutdownWrite ∈ effects →
    before.state = .disconnecting ∧ after.unsent = [] ∧
      writeCount before.unsent result = some before.unsent.length ∧
      ∃ earlier, effects = earlier ++ [.shutdownWrite] ∧ Effect.shutdownWrite ∉ earlier

/-- `handle_write` returns, and flushes what the kernel accepts. -/
theorem handleWrite_returns (wellFormed : c.outputBuffer.WellFormed) (result : WriteResult)
    (tooLong : Prop) :
    Returns (c.handleWrite result) tooLong (fun outcome => Flushed c outcome.1 result outcome.2) := by
  have idle : Flushed c c result [] := ⟨wellFormed, rfl, id, rfl, by simp⟩
  unfold handleWrite
  by_cases writing : c.channel.isWriting = true
  · rw [if_pos writing]
    have ordered := wellFormed.ordered
    have inside := wellFormed.inside
    have readable := Buffer.readableBytes_exact wellFormed
    have offered : load c.outputBuffer.buffer c.outputBuffer.peek c.outputBuffer.readableBytes =
        some c.unsent := by
      have stop : c.outputBuffer.peek + c.outputBuffer.readableBytes =
          c.outputBuffer.writerIndex := by
        unfold Buffer.peek
        omega
      rw [load, stop, if_pos inside]
      rfl
    apply Returns.access offered
    cases result with
    | failed errno => exact returns_ok idle
    | accepted count =>
      simp only [writeCount]
      cases taken : min count c.unsent.length with
      | zero => exact returns_ok idle
      | succ n =>
        have present : n + 1 ≤ c.outputBuffer.readableBytes := by
          rw [← Buffer.content_length wellFormed]
          exact taken ▸ Nat.min_le_right count c.unsent.length
        apply (Buffer.retrieve_returns wellFormed (n + 1) present tooLong).bind
        rintro rest ⟨kept, dropped, _⟩
        have stream : c.unsent.take (n + 1) ++ rest.content = c.unsent := by
          rw [dropped]
          exact List.take_append_drop _ _
        have emptied : rest.readableBytes = 0 ↔ rest.content = [] := by
          rw [← Buffer.content_length kept, List.length_eq_zero_iff]
        by_cases drained : rest.readableBytes = 0
        · rw [if_pos drained]
          have blank : rest.content = [] := emptied.mp drained
          refine returns_ok ⟨kept, ?_, ?_, rfl, ?_⟩
          · simp only [written_append, written_notify]
            split <;> simp [written, unsent, shutdownInLoop] <;> simpa [unsent] using stream
          · intro _
            simp [InterestExact, unsent, blank]
          · intro shutdown
            have closing : c.state = .disconnecting := by
              by_contra other
              simp [other, notify_quiet] at shutdown
            refine ⟨closing, blank, ?_, ?_⟩
            · have whole : c.unsent.length ≤ n + 1 := by
                rw [dropped] at blank
                exact List.drop_eq_nil_iff.mp blank
              have bound : n + 1 ≤ c.unsent.length := taken ▸ Nat.min_le_right count c.unsent.length
              simp only [writeCount, taken]
              exact congrArg some (Nat.le_antisymm bound whole)
            · refine ⟨[.wrote (c.unsent.take (n + 1)), .updateChannel] ++ c.notify, ?_, ?_⟩
              · simp [closing, shutdownInLoop, notify]
              · simp [notify_quiet]
        · rw [if_neg drained]
          refine returns_ok ⟨kept, ?_, ?_, rfl, by simp⟩
          · simpa [written, unsent] using stream
          · intro _
            have waiting : rest.content ≠ [] := fun blank => drained (emptied.mpr blank)
            exact ⟨fun _ => waiting, fun _ => writing⟩
  · rw [if_neg writing]
    exact returns_ok idle

end TcpConnection

end ReactorNetwork
