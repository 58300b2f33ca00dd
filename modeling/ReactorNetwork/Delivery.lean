import ReactorNetwork.Conversation

/-!
# The end of the stream

An end that shuts down its write side has passed on everything it was handed
exactly when, at the call of `shutdown`, its channel waits for writability or its
output buffer is empty. What breaks this is a close handled before: `handle_close`
drops the write interest and leaves the state at `connected`, so a later `shutdown`
shuts the write side down in front of the unsent bytes. While a connection still
reads, the end of the stream means that nothing is missing.
-/

namespace ReactorNetwork.Conversation

open Runs TcpConnection

/-- A call of `shutdown` that takes effect finds the write interest on or nothing
unsent. -/
def Orderly (s : State) : Label → Prop
  | .act side .shutdown => (s side).connection.state = .connected →
      (s side).connection.channel.isWriting = false → (s side).connection.unsent = []
  | _ => True

instance (s : State) (label : Label) : Decidable (Orderly s label) :=
  match label with
  | .act _ .shutdown => inferInstanceAs (Decidable (_ → _ → _))
  | .act _ .connectEstablished | .act _ (.send _ _) | .act _ (.handleWrite _) | .act _ .handleClose
  | .act _ .connectDestoryed | .act _ (.retrieve _) | .act _ (.echo _) | .handleRead _ _ =>
      isTrue trivial

/-- Whatever was handed over at an end whose write side is shut down has left it. -/
def Released (s : State) : Prop :=
  ∀ side, (s side).writeShut = true → (s side).handed =
    (s side.other).delivered ++ (s side.other).connection.inputBuffer.content ++ (s side).wire

section Release

variable {p q : Party}

/-- Everything handed over is accounted for, so what is behind a closed write side has
left exactly when nothing is unsent there. -/
theorem released_iff_sent {s : State} (sound : Sound s) :
    Released s ↔ ∀ side, (s side).writeShut = true → (s side).connection.unsent = [] := by
  refine forall_congr' fun side => imp_congr_right fun _ => ?_
  have carried := (sound side).carried
  unfold Party.unread at carried
  rw [carried]
  exact List.append_right_eq_self

/-- A send leaves the write side of its end as it is. -/
theorem send_open (wellFormed : WellFormed p) {message : StringView} {result : WriteResult}
    (sent : send p message result = .ok q) : q.writeShut = p.writeShut := by
  unfold send at sent
  split at sent
  case isFalse => exact (pure_ok _ _).mp sent ▸ rfl
  case isTrue =>
    obtain ⟨outcome, acted, same⟩ := (bind_ok _ _ _).mp sent
    obtain rfl := (pure_ok _ _).mp same
    simp [perform, ((sendInLoop_returns wellFormed.output message _).of_ok acted).quiet]

/-- The write side is shut down behind the last buffered byte, or by `shutdown`
itself, which looks at the write interest only. -/
theorem act_shuts (wellFormed : WellFormed p) (action : Action) (done : act p action = .ok q)
    (before : p.writeShut = false) (after : q.writeShut = true) :
    q.connection.unsent = [] ∨ action = .shutdown ∧ p.connection.state = .connected ∧
      p.connection.channel.isWriting = false ∧ q.connection.unsent = p.connection.unsent := by
  cases action with
  | shutdown =>
    obtain rfl := (pure_ok _ _).mp done
    unfold shutdown at after ⊢
    split at after
    case isFalse => exact absurd (before.symm.trans after) (by simp)
    case isTrue connected =>
      rw [if_pos connected]
      refine .inr ⟨rfl, connected, ?_, rfl⟩
      by_contra writing
      simp only [perform, shutdownInLoop] at after
      simp [writing, before] at after
  | handleWrite result =>
    obtain ⟨outcome, flushed, same⟩ := (bind_ok _ _ _).mp done
    obtain rfl := (pure_ok _ _).mp same
    simp only [perform, before, Bool.false_or, decide_eq_true_eq] at after
    exact .inl (((handleWrite_returns wellFormed.output _ False).of_ok flushed).shutdown after).2.1
  | send message result =>
    rw [send_open wellFormed done, before] at after
    cases after
  | echo result =>
    obtain ⟨addressable, sends⟩ := echo_sends wellFormed done
    have same : q.writeShut = (emptied p).writeShut :=
      send_open (emptied_acted wellFormed).wellFormed sends
    exact absurd (before.symm.trans (same.symm.trans after)) (by simp)
  | retrieve len =>
    obtain ⟨rest, _, same⟩ := (bind_ok _ _ _).mp done
    obtain rfl := (pure_ok _ _).mp same
    exact absurd (before.symm.trans after) (by simp)
  | connectEstablished =>
    obtain ⟨outcome, established, same⟩ := (bind_ok _ _ _).mp done
    obtain rfl := (pure_ok _ _).mp same
    obtain ⟨_, rfl⟩ := (connectEstablished_ok _ _).mp established
    simp [perform, before] at after
  | handleClose =>
    obtain ⟨outcome, closed, same⟩ := (bind_ok _ _ _).mp done
    obtain rfl := (pure_ok _ _).mp same
    obtain ⟨_, rfl⟩ := (handleClose_ok _ _).mp closed
    simp [perform, before] at after
  | connectDestoryed =>
    obtain ⟨outcome, destroyed, same⟩ := (bind_ok _ _ _).mp done
    obtain rfl := (pure_ok _ _).mp same
    obtain ⟨_, rfl⟩ := (connectDestoryed_ok _ _).mp destroyed
    simp [perform, before] at after

end Release

/-- Once its write side is shut down, an end keeps what it has not sent. -/
theorem step_frozen {s t : State} {label : Label} (sound : Sound s) (taken : step s label = .ok t)
    (side : Side) (shut : (s side).writeShut = true) :
    (t side).writeShut = true ∧ (t side).connection.unsent = (s side).connection.unsent := by
  cases label with
  | act place action =>
    obtain ⟨q, done, same⟩ := (bind_ok _ _ _).mp taken
    obtain rfl := (pure_ok _ _).mp same
    obtain rfl | rfl := same_or_other side place
    · obtain ⟨message, acted⟩ := act_acted (sound side).wellFormed action done
      obtain ⟨still, _, unsent⟩ := acted.frozen shut ((sound side).closing shut)
      simpa using ⟨still, unsent⟩
    · simpa using shut
  | handleRead place choice =>
    obtain ⟨both, received, same⟩ := (bind_ok _ _ _).mp taken
    obtain rfl := (pure_ok _ _).mp same
    have arrived := receive_arrived (sound place).wellFormed choice received
    obtain rfl | rfl := same_or_other side place
    · have kept : both.1.writeShut = (s side).writeShut := by rw [arrived.receiver]
      simpa using ⟨kept.trans shut, congrArg Buffer.content arrived.output⟩
    · rw [ends_other, arrived.sender]
      exact ⟨shut, rfl⟩

/-- The only step that shuts down a write side in front of unsent bytes is a call of
`shutdown` that finds no write interest. -/
theorem step_shuts {s t : State} {label : Label} (sound : Sound s) (taken : step s label = .ok t)
    (side : Side) (before : (s side).writeShut = false) (after : (t side).writeShut = true) :
    (t side).connection.unsent = [] ∨
      label = .act side .shutdown ∧ (s side).connection.state = .connected ∧
        (s side).connection.channel.isWriting = false ∧
        (t side).connection.unsent = (s side).connection.unsent := by
  cases label with
  | act place action =>
    obtain ⟨q, done, same⟩ := (bind_ok _ _ _).mp taken
    obtain rfl := (pure_ok _ _).mp same
    obtain rfl | rfl := same_or_other side place
    · rw [ends_same] at after ⊢
      have shuts := act_shuts (sound side).wellFormed action done before after
      exact shuts.imp id (fun found => ⟨congrArg (Label.act side) found.1, found.2⟩)
    · rw [ends_other, before] at after
      cases after
  | handleRead place choice =>
    obtain ⟨both, received, same⟩ := (bind_ok _ _ _).mp taken
    obtain rfl := (pure_ok _ _).mp same
    have arrived := receive_arrived (sound place).wellFormed choice received
    obtain rfl | rfl := same_or_other side place
    · rw [ends_same, arrived.receiver, before] at after
      cases after
    · rw [ends_other, arrived.sender, before] at after
      cases after

/-- An orderly step leaves no unsent bytes behind a closed write side: one that is
closed is frozen, and one closes behind the last byte or by an orderly `shutdown`. -/
theorem step_orderly (s : State) (label : Label) (t : State)
    (sent : Sound s ∧ ∀ side, (s side).writeShut = true → (s side).connection.unsent = [])
    (orderly : Orderly s label) (taken : step s label = .ok t) :
    Sound t ∧ ∀ side, (t side).writeShut = true → (t side).connection.unsent = [] := by
  obtain ⟨sound, released⟩ := sent
  refine ⟨step_sound s label t sound taken, ?_⟩
  intro side shut
  cases before : (s side).writeShut with
  | true => exact (step_frozen sound taken side before).2.trans (released side before)
  | false =>
    rcases step_shuts sound taken side before shut with empty | ⟨rfl, connected, idle, same⟩
    · exact empty
    · exact same.trans (orderly connected idle)

/-- A `shutdown` that is not orderly closes the write side in front of bytes that stay
unsent. -/
theorem disorderly_stuck {s t : State} {label : Label} (unmet : ¬ Orderly s label)
    (taken : step s label = .ok t) :
    ∃ side, (t side).writeShut = true ∧ (t side).connection.unsent ≠ [] := by
  cases label with
  | handleRead => exact absurd trivial unmet
  | act side action =>
    cases action with
    | shutdown =>
      obtain ⟨q, done, same⟩ := (bind_ok _ _ _).mp taken
      obtain rfl := (pure_ok _ _).mp same
      obtain rfl := (pure_ok _ _).mp done
      simp only [Orderly, not_forall] at unmet
      obtain ⟨connected, idle, held⟩ := unmet
      refine ⟨side, ?_⟩
      rw [ends_same, shutdown, if_pos connected]
      refine ⟨?_, held⟩
      simp [perform, shutdownInLoop, idle]
    | connectEstablished | send | handleWrite | handleClose | connectDestoryed | retrieve | echo =>
      exact absurd trivial unmet

/-- In every run an end whose write side is shut down has passed everything on, to the
wire or beyond, exactly when each call of `shutdown` finds the write interest on or the
output buffer empty.

Proof: apart from such a call the write side is shut down only behind the last buffered
byte, and afterwards every write fails, so the output buffer stays as it is. -/
theorem released_iff_orderly (sockFd : Side → Int) (writeCompleteCallback : Side → Bool)
    (labels : List Label) (s : State)
    (reached : run step (initial sockFd writeCompleteCallback) labels = .ok s) :
    Released s ↔ Along step Orderly (initial sockFd writeCompleteCallback) labels := by
  rw [released_iff_sent (run_sound _ _ labels s reached)]
  constructor
  · intro released
    by_contra violated
    obtain ⟨before, label, after, middle, next, _, arrived, unmet, taken, continued⟩ :=
      not_along step Orderly labels _ s reached violated
    have sound := run_sound _ _ before middle arrived
    obtain ⟨side, shut, held⟩ := disorderly_stuck unmet taken
    have last := Runs.invariant step
      (fun t => Sound t ∧ (t side).writeShut = true ∧ (t side).connection.unsent ≠ [])
      (fun t label u kept taken =>
        have frozen := step_frozen kept.1 taken side kept.2.1
        ⟨step_sound t label u kept.1 taken, frozen.1, frozen.2.symm ▸ kept.2.2⟩)
      after next s ⟨step_sound _ _ _ sound taken, shut, held⟩ continued
    exact last.2.2 (released side last.2.1)
  · intro along
    exact (guarded_invariant step Orderly _ step_orderly labels _ s
      ⟨initial_sound sockFd writeCompleteCallback, by simp [initial, initialParty]⟩ along reached).2

/-- The near end sends, shuts down behind a short write, and flushes the rest. -/
def farewell : List Label :=
  [.act .near .connectEstablished, .act .far .connectEstablished,
    .act .near (.send ⟨[45, 46, 47], by decide⟩ (.accepted 1)), .act .near .shutdown,
    .handleRead .far (.upTo 9), .act .near (.handleWrite (.accepted 9)),
    .handleRead .far (.upTo 9), .handleRead .far (.upTo 0)]

/-- The near end handles the close of a half-closed stream before it shuts down: what it
has not sent by then stays behind. -/
def halfClosed : List Label :=
  [.act .near .connectEstablished, .act .far .connectEstablished, .act .far .shutdown,
    .act .near (.send ⟨[48, 49], by decide⟩ (.failed EWOULDBLOCK)), .handleRead .near (.upTo 0),
    .act .near .shutdown]

/-- A farewell is released; bytes that wait behind a handled close when `shutdown` comes
are not. -/
theorem released_farewell_not_halfClosed :
    (∃ s, run step unestablished farewell = .ok s ∧ Released s) ∧
      ∃ s, run step unestablished halfClosed = .ok s ∧ ¬ Released s := by
  have first : (run step unestablished farewell).map (fun s => (s .near).writeShut) = .ok true := by
    decide +kernel
  have second : (run step unestablished halfClosed).map (fun s => (s .near).writeShut) =
      .ok true := by
    decide +kernel
  obtain ⟨s, reached, _⟩ := (map_returned _ _ _).mp first
  obtain ⟨t, arrived, _⟩ := (map_returned _ _ _).mp second
  refine ⟨⟨s, reached, ?_⟩, ⟨t, arrived, ?_⟩⟩
  · exact (released_iff_orderly _ _ farewell s reached).mpr (by decide +kernel)
  · intro released
    have orderly := (released_iff_orderly _ _ halfClosed t arrived).mp released
    exact absurd orderly (by decide +kernel)

/-- The channel is interested in reading. -/
def reads (c : TcpConnection) : Bool := anySet c.channel.events Channel.kReadEvent

/-- A call of `shutdown` that takes effect finds the channel reading: no close has been
handled. -/
def StillReading (s : State) : Label → Prop
  | .act side .shutdown => (s side).connection.state = .connected → reads (s side).connection = true
  | _ => True

instance (s : State) (label : Label) : Decidable (StillReading s label) :=
  match label with
  | .act _ .shutdown => inferInstanceAs (Decidable (_ → _))
  | .act _ .connectEstablished | .act _ (.send _ _) | .act _ (.handleWrite _) | .act _ .handleClose
  | .act _ .connectDestoryed | .act _ (.retrieve _) | .act _ (.echo _) | .handleRead _ _ =>
      isTrue trivial

/-- Until a close is handled, the write interest is on exactly when bytes wait. -/
def Watched (c : TcpConnection) : Prop :=
  c.state = .connecting ∨ reads c = true → c.InterestExact

section Watching

variable {c d : TcpConnection}

/-- The read interest is the two bits of readable and of urgent data. -/
theorem reads_bits (channel : Channel) : anySet channel.events Channel.kReadEvent =
    (channel.events.getLsbD 0 || channel.events.getLsbD 1) := by
  rw [show Channel.kReadEvent = BitVec.twoPow 32 0 ||| BitVec.twoPow 32 1 by decide,
    Channel.anySet_or, Channel.anySet_twoPow _ 0 (by decide),
    Channel.anySet_twoPow _ 1 (by decide)]

/-- Turning the write interest on or off does not touch the other bits. -/
theorem reads_writing {channel changed : Channel}
    (written : changed = channel ∨ changed = channel.enableWriting ∨ changed = channel.disableWriting) :
    anySet changed.events Channel.kReadEvent = anySet channel.events Channel.kReadEvent := by
  rw [reads_bits, reads_bits]
  rcases written with rfl | rfl | rfl
  · rfl
  · simp [Channel.enableWriting, Channel.kWriteEvent, POLLOUT]
  · simp [Channel.disableWriting, Channel.kWriteEvent, POLLOUT]

/-- Watching is kept by whatever keeps the state, the read interest and the exactness of
the write interest. -/
theorem watched_kept (watched : Watched c) (state : d.state = c.state) (reading : reads d = reads c)
    (interest : c.InterestExact → d.InterestExact) : Watched d := by
  unfold Watched
  rw [state, reading]
  exact fun open_ => interest (watched open_)

/-- A channel that was disabled after it was established has nothing left to promise. -/
theorem disabled_watched (started : d.state ≠ .connecting) (off : d.channel.events = 0#32) :
    Watched d := by
  have silent : reads d = false := by simp [reads, off, anySet]
  intro open_
  simp [started, silent] at open_

/-- A send keeps the write interest exact and touches no other. -/
theorem send_watched {p q : Party} (wellFormed : WellFormed p) {message : StringView}
    {result : WriteResult} (watched : Watched p.connection)
    (sent : send p message result = .ok q) : Watched q.connection := by
  unfold send at sent
  split at sent
  case isFalse => exact (pure_ok _ _).mp sent ▸ watched
  case isTrue =>
    obtain ⟨outcome, acted, same⟩ := (bind_ok _ _ _).mp sent
    obtain rfl := (pure_ok _ _).mp same
    have law := (sendInLoop_returns wellFormed.output message _).of_ok acted
    have turned := (sendInLoop_frame acted).2
    exact watched_kept watched law.state (reads_writing (turned.imp id .inl)) law.interest

/-- So does everything an end does by itself: its callbacks, its flushes and its
shutdown. -/
theorem act_watched {p q : Party} (wellFormed : WellFormed p) (action : Action)
    (watched : Watched p.connection) (done : act p action = .ok q) : Watched q.connection := by
  cases action with
  | send message result => exact send_watched wellFormed watched done
  | echo result =>
    obtain ⟨addressable, sends⟩ := echo_sends wellFormed done
    exact send_watched (emptied_acted wellFormed).wellFormed watched sends
  | shutdown =>
    obtain rfl := (pure_ok _ _).mp done
    unfold shutdown
    split
    case isFalse => exact watched
    case isTrue connected =>
      intro open_
      simp only [perform, reads] at open_
      exact watched (.inr (by simpa [reads] using open_))
  | handleWrite result =>
    obtain ⟨outcome, flushed, same⟩ := (bind_ok _ _ _).mp done
    obtain rfl := (pure_ok _ _).mp same
    have law := (handleWrite_returns wellFormed.output _ False).of_ok flushed
    have turned := (handleWrite_frame flushed).2
    exact watched_kept watched law.state (reads_writing (turned.imp id .inr)) law.interest
  | connectEstablished =>
    obtain ⟨outcome, established, same⟩ := (bind_ok _ _ _).mp done
    obtain rfl := (pure_ok _ _).mp same
    obtain ⟨connecting, rfl⟩ := (connectEstablished_ok _ _).mp established
    intro _
    simpa [InterestExact, perform, unsent] using watched (.inl connecting)
  | handleClose =>
    obtain ⟨outcome, closed, same⟩ := (bind_ok _ _ _).mp done
    obtain rfl := (pure_ok _ _).mp same
    obtain ⟨started, rfl⟩ := (handleClose_ok _ _).mp closed
    refine disabled_watched ?_ rfl
    rcases started with connected | disconnecting
    · simp [perform, connected]
    · simp [perform, disconnecting]
  | connectDestoryed =>
    obtain ⟨outcome, destroyed, same⟩ := (bind_ok _ _ _).mp done
    obtain rfl := (pure_ok _ _).mp same
    obtain ⟨_, rfl⟩ := (connectDestoryed_ok _ _).mp destroyed
    exact disabled_watched (by simp [perform]) rfl
  | retrieve len =>
    obtain ⟨rest, _, same⟩ := (bind_ok _ _ _).mp done
    obtain rfl := (pure_ok _ _).mp same
    exact watched_kept watched rfl rfl id

/-- A read changes no write interest, or it handles the close, which disables the
channel. -/
theorem receive_watched {p peer : Party} {both : Party × Party} (choice : ReadChoice)
    (watched : Watched p.connection) (received : receive p peer choice = .ok both) :
    Watched both.1.connection := by
  obtain ⟨outcome, handled, same⟩ := (bind_ok _ _ _).mp received
  obtain rfl := (pure_ok _ _).mp same
  obtain ⟨⟨filled, n⟩, read, continued⟩ := (bind_ok _ _ _).mp handled
  simp only at continued
  split at continued
  case h_1 =>
    obtain ⟨started, rfl⟩ := (handleClose_ok _ _).mp continued
    refine disabled_watched ?_ rfl
    rcases started with connected | disconnecting
    · simp only at connected
      simp [perform, connected]
    · simp only at disconnecting
      simp [perform, disconnecting]
  case h_2 =>
    obtain rfl := (pure_ok _ _).mp continued
    exact watched_kept watched rfl rfl id
  case h_3 =>
    obtain rfl := (pure_ok _ _).mp continued
    exact watched_kept watched rfl rfl id

end Watching

/-- Every step keeps both channels watched: until an end handles a close its write
interest is on exactly when bytes wait. -/
theorem step_watched (s : State) (label : Label) (t : State)
    (before : Sound s ∧ ∀ side, Watched (s side).connection) (taken : step s label = .ok t) :
    Sound t ∧ ∀ side, Watched (t side).connection := by
  obtain ⟨sound, watched⟩ := before
  refine ⟨step_sound s label t sound taken, ?_⟩
  intro side
  cases label with
  | act place action =>
    obtain ⟨q, done, same⟩ := (bind_ok _ _ _).mp taken
    obtain rfl := (pure_ok _ _).mp same
    obtain rfl | rfl := same_or_other side place
    · rw [ends_same]
      exact act_watched (sound side).wellFormed action (watched side) done
    · rw [ends_other]
      exact watched place.other
  | handleRead place choice =>
    obtain ⟨both, received, same⟩ := (bind_ok _ _ _).mp taken
    obtain rfl := (pure_ok _ _).mp same
    obtain rfl | rfl := same_or_other side place
    · rw [ends_same]
      exact receive_watched choice (watched side) received
    · have arrived := receive_arrived (sound place).wellFormed choice received
      rw [ends_other, arrived.sender]
      exact watched place.other

/-- A connection that is not established yet has nothing to write and no interest. -/
theorem initial_watched (sockFd : Side → Int) (writeCompleteCallback : Side → Bool) (side : Side) :
    Watched (initial sockFd writeCompleteCallback side).connection := by
  intro _
  have empty : (initial sockFd writeCompleteCallback side).connection.unsent = [] :=
    Buffer.fresh_content
  have off : (initial sockFd writeCompleteCallback side).connection.channel.isWriting = false := by
    simp [initial, initialParty, create, Channel.create, Channel.isWriting_bit]
  simp [InterestExact, empty, off]

/-- A channel that still reads has its write interest on if bytes wait. -/
theorem reading_orderly {s : State} {label : Label} (watched : ∀ side, Watched (s side).connection)
    (still : StillReading s label) : Orderly s label := by
  unfold Orderly
  split
  case h_1 side =>
    intro connected idle
    by_contra waiting
    have writing := (watched side (.inr (still connected))).mpr waiting
    rw [idle] at writing
    cases writing
  case h_2 => trivial

/-- Both directions are accounted for, nothing is kept behind a shut-down write side, and
until a close is handled the write interest is exact. -/
structure Healthy (s : State) : Prop where
  sound : Sound s
  sent : ∀ side, (s side).writeShut = true → (s side).connection.unsent = []
  watched : ∀ side, Watched (s side).connection

/-- A step in which no `shutdown` comes behind a handled close keeps both ends
healthy. -/
theorem step_healthy (s : State) (label : Label) (t : State) (healthy : Healthy s)
    (still : StillReading s label) (taken : step s label = .ok t) : Healthy t := by
  obtain ⟨sound, sent, watched⟩ := healthy
  have orderly := reading_orderly watched still
  exact ⟨step_sound s label t sound taken, (step_orderly s label t ⟨sound, sent⟩ orderly taken).2,
    (step_watched s label t ⟨sound, watched⟩ taken).2⟩

/-- So does a whole run of such steps. -/
theorem run_healthy (sockFd : Side → Int) (writeCompleteCallback : Side → Bool)
    (labels : List Label) (s : State)
    (reached : run step (initial sockFd writeCompleteCallback) labels = .ok s)
    (still : Along step StillReading (initial sockFd writeCompleteCallback) labels) : Healthy s :=
  guarded_invariant step StillReading Healthy step_healthy labels _ s
    ⟨initial_sound sockFd writeCompleteCallback, by simp [initial, initialParty],
      initial_watched sockFd writeCompleteCallback⟩ still reached

/-- In every run in which each call of `shutdown` finds its channel still reading, the
end of the stream comes behind everything: once a read has reported it, all bytes handed
over at the other end have been received.

Proof: a channel that reads has its write interest on exactly when bytes wait, so the
calls are orderly and nothing stays unsent; and the end is reported behind the last byte
on the wire. -/
theorem end_of_stream_complete (sockFd : Side → Int) (writeCompleteCallback : Side → Bool)
    (labels : List Label) (s : State)
    (reached : run step (initial sockFd writeCompleteCallback) labels = .ok s)
    (still : Along step StillReading (initial sockFd writeCompleteCallback) labels) (side : Side)
    (ended : (s side.other).ended = true) :
    (s side).handed =
      (s side.other).delivered ++ (s side.other).connection.inputBuffer.content := by
  have healthy := run_healthy sockFd writeCompleteCallback labels s reached still
  obtain ⟨shut, empty⟩ := (healthy.sound side).ended ended
  have carried := (healthy.sound side).carried
  rw [empty, healthy.sent side shut, List.append_nil, List.append_nil] at carried
  exact carried

/-- The far end of a farewell has the whole of it when it reads the end of the
stream. -/
theorem end_of_stream_farewell :
    ∃ s, run step unestablished farewell = .ok s ∧ (s .far).ended = true ∧
      [45, 46, 47] = (s .far).delivered ++ (s .far).connection.inputBuffer.content := by
  have computed : (run step unestablished farewell).map
      (fun s => ((s .far).ended, (s .near).handed)) = .ok (true, [45, 46, 47]) := by
    decide +kernel
  obtain ⟨s, reached, observed⟩ := (map_returned _ _ _).mp computed
  obtain ⟨ended, handed⟩ := Prod.mk.inj observed
  have complete := end_of_stream_complete _ _ farewell s reached (by decide +kernel) .near ended
  exact ⟨s, reached, ended, handed ▸ complete⟩

end ReactorNetwork.Conversation
