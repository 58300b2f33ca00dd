import ReactorNetwork.TcpConnection

/-!
# The outgoing byte stream of a connection

A run is any sequence of loop-thread steps on one connection, with any result of
`write(2)` at each of them. The bytes the kernel has accepted are recorded
beside the connection. Followed by the bytes still in the output buffer they are
the messages passed to `send_in_loop`, in call order: the direct attempt and the
buffered path neither drop, repeat nor reorder a byte.

Until a close disables the channel, the write interest is on exactly when the
output buffer is nonempty. A step fails an assertion only where it asserts the
connection's state; sending and flushing never do.
-/

namespace ReactorNetwork.OutputStream

open Runs TcpConnection

/-- The loop-thread steps of one connection. -/
inductive Label where
  | connectEstablished
  | sendInLoop (message : StringView) (result : WriteResult)
  | handleWrite (result : WriteResult)
  | handleClose
  | connectDestoryed

/-- The steps that disable the channel. -/
def Label.disables : Label → Bool
  | .handleClose => true
  | .connectDestoryed => true
  | _ => false

/-- The bytes a step passes to `send_in_loop`. -/
def Label.sent : Label → List Byte
  | .sendInLoop message _ => message.bytes
  | _ => []

/-- The connection and every byte the kernel has accepted from it. -/
structure Stream where
  connection : TcpConnection
  accepted : List Byte

/-- The function of the connection that a label calls. -/
def act (c : TcpConnection) : Label → Outcome (TcpConnection × List Effect)
  | .connectEstablished => c.connectEstablished
  | .sendInLoop message result => c.sendInLoop message result
  | .handleWrite result => c.handleWrite result
  | .handleClose => c.handleClose
  | .connectDestoryed => c.connectDestoryed

/-- One call, with the bytes it wrote appended to the stream. -/
def step (stream : Stream) (label : Label) : Outcome Stream := do
  let (connection, effects) ← act stream.connection label
  pure ⟨connection, stream.accepted ++ written effects⟩

/-- A connection that has just been created, with nothing written. -/
def initial (sockFd : Int) (writeCompleteCallback : Bool) : Stream :=
  ⟨create sockFd writeCompleteCallback, []⟩

/-- The steps taken so far account for every accepted and waiting byte. -/
structure Accounts (past : List Label) (stream : Stream) : Prop where
  wellFormed : stream.connection.outputBuffer.WellFormed
  accounted : stream.accepted ++ stream.connection.unsent = past.flatMap Label.sent
  interest : (∀ label ∈ past, label.disables = false) → stream.connection.InterestExact

/-- A new connection has nothing to write. -/
theorem initial_accounts (sockFd : Int) (writeCompleteCallback : Bool) :
    Accounts [] (initial sockFd writeCompleteCallback) where
  wellFormed := Buffer.fresh_wellFormed
  accounted := Buffer.fresh_content
  interest := fun _ => by
    have empty : (initial sockFd writeCompleteCallback).connection.unsent = [] :=
      Buffer.fresh_content
    have off : (initial sockFd writeCompleteCallback).connection.channel.isWriting = false := by
      simp [initial, create, Channel.create, Channel.isWriting_bit]
    simp [InterestExact, empty, off]

/-- A step that only changes the state and the channel keeps the account; if it
disables the channel it owes nothing about the interest. -/
theorem unsent_kept (past : List Label) (before after : Stream) (label : Label)
    (accounts : Accounts past before) (silent : label.sent = [])
    (buffer : after.connection.outputBuffer = before.connection.outputBuffer)
    (accepted : after.accepted = before.accepted)
    (interest : label.disables = false →
      after.connection.channel.isWriting = before.connection.channel.isWriting) :
    Accounts (past ++ [label]) after := by
  have same : after.connection.unsent = before.connection.unsent := congrArg Buffer.content buffer
  refine ⟨buffer ▸ accounts.wellFormed, ?_, ?_⟩
  · rw [accepted, same, accounts.accounted]
    simp [silent]
  · intro enabled
    have exactBefore := accounts.interest (fun earlier member => enabled earlier (by simp [member]))
    have unchanged := interest (enabled label (by simp))
    simpa [InterestExact, same, unchanged] using exactBefore

/-- Every step that returns keeps the account. -/
theorem step_accounts (past : List Label) (before : Stream) (label : Label) (after : Stream)
    (accounts : Accounts past before) (taken : step before label = .ok after) :
    Accounts (past ++ [label]) after := by
  obtain ⟨⟨connection, effects⟩, acted, same⟩ := (bind_ok _ _ _).mp taken
  obtain rfl := (pure_ok _ _).mp same
  have earlier : ∀ (enabled : ∀ other ∈ past ++ [label], other.disables = false),
      before.connection.InterestExact := fun enabled =>
    accounts.interest (fun other member => enabled other (by simp [member]))
  cases label with
  | sendInLoop message result =>
    have sent := (sendInLoop_returns accounts.wellFormed message result).of_ok acted
    refine ⟨sent.wellFormed, ?_, fun enabled => sent.interest (earlier enabled)⟩
    have stream := sent.stream
    simp only at stream ⊢
    rw [List.append_assoc, stream, ← List.append_assoc, accounts.accounted]
    simp [Label.sent]
  | handleWrite result =>
    have flushed := (handleWrite_returns accounts.wellFormed result False).of_ok acted
    refine ⟨flushed.wellFormed, ?_, fun enabled => flushed.interest (earlier enabled)⟩
    have stream := flushed.stream
    simp only at stream ⊢
    rw [List.append_assoc, stream, accounts.accounted]
    simp [Label.sent]
  | connectEstablished =>
    obtain ⟨_, same⟩ := (connectEstablished_ok _ _).mp acted
    obtain ⟨rfl, rfl⟩ := Prod.mk.inj same
    exact unsent_kept past before _ _ accounts rfl rfl (by simp [written]) (by simp)
  | handleClose =>
    obtain ⟨_, same⟩ := (handleClose_ok _ _).mp acted
    obtain ⟨rfl, rfl⟩ := Prod.mk.inj same
    exact unsent_kept past before _ _ accounts rfl rfl (by simp [written]) (by simp [Label.disables])
  | connectDestoryed =>
    obtain ⟨_, same⟩ := (connectDestoryed_ok _ _).mp acted
    obtain ⟨rfl, rfl⟩ := Prod.mk.inj same
    exact unsent_kept past before _ _ accounts rfl rfl (by simp [written]) (by simp [Label.disables])

/-- In every state of every run, the bytes the kernel has accepted followed by
the readable bytes of the output buffer are the messages sent so far. Until a
close disables the channel its write interest is on exactly when the output
buffer is nonempty. Further sends and flushes return, unless the output buffer
would exceed the vector's maximal size.

Proof: the account holds of a fresh connection and each returning step keeps it.
Both streaming steps have a law for every result of `write(2)`. -/
theorem outgoing_stream_exact (sockFd : Int) (writeCompleteCallback : Bool)
    (labels : List Label) (stream : Stream)
    (reached : run step (initial sockFd writeCompleteCallback) labels = .ok stream) :
    stream.accepted ++ stream.connection.outputBuffer.content = labels.flatMap Label.sent ∧
    ((∀ label ∈ labels, label.disables = false) →
      (stream.connection.channel.isWriting = true ↔
        stream.connection.outputBuffer.content ≠ [])) ∧
    (∀ message result, Returns (step stream (.sendInLoop message result))
      (vectorMaxSize < stream.connection.outputBuffer.writerIndex + message.bytes.length)
      (fun _ => True)) ∧
    (∀ result, Returns (step stream (.handleWrite result)) False (fun _ => True)) := by
  have accounts : Accounts labels stream :=
    history step Accounts step_accounts labels (initial sockFd writeCompleteCallback) stream
      (initial_accounts sockFd writeCompleteCallback) reached
  refine ⟨accounts.accounted, accounts.interest, ?_, ?_⟩
  · intro message result
    exact (sendInLoop_returns accounts.wellFormed message result).bind
      (fun _ _ => returns_ok trivial)
  · intro result
    exact (handleWrite_returns accounts.wellFormed result False).bind
      (fun _ _ => returns_ok trivial)

/-- Two sends with a short write between them, then a flush. -/
def shortWrites : List Label :=
  [.sendInLoop ⟨[1, 2, 3], by decide⟩ (.accepted 1), .sendInLoop ⟨[4], by decide⟩ (.failed 32),
    .handleWrite (.accepted 2)]

/-- The bytes accepted and those waiting are the bytes of both messages, in order. -/
theorem outgoing_stream_short_writes :
    ∃ stream, run step (initial 5 true) shortWrites = .ok stream ∧
      stream.accepted ++ stream.connection.outputBuffer.content = [1, 2, 3, 4] := by
  have completed : (run step (initial 5 true) shortWrites).isOk = true := by decide +kernel
  cases reached : run step (initial 5 true) shortWrites with
  | error fault => simp [reached, Except.isOk, Except.toBool] at completed
  | ok stream =>
    exact ⟨stream, rfl, (outgoing_stream_exact 5 true shortWrites stream reached).1⟩

end ReactorNetwork.OutputStream
