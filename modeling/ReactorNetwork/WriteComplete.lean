import ReactorNetwork.OutputStream

/-!
# Write-complete notifications

A notification is queued by the direct write of a whole message and by the flush
that empties the output buffer. Against the outgoing stream: it is queued only
when the kernel has accepted every byte sent so far, and a step that writes and
leaves nothing unsent queues exactly one.

Sending an empty message with nothing buffered also queues one. It writes no
byte, but every earlier byte has been accepted, so the notification is true.
-/

namespace ReactorNetwork.WriteComplete

open Runs TcpConnection OutputStream

/-- How the notifications of one call agree with what it leaves unsent. -/
structure Notified (before after : TcpConnection) (effects : List Effect) : Prop where
  callback : after.writeCompleteCallback = before.writeCompleteCallback
  once : effects.count .queueWriteComplete ≤ 1
  complete : Effect.queueWriteComplete ∈ effects → after.unsent = []
  owed : before.writeCompleteCallback = true → written effects ≠ [] → after.unsent = [] →
    Effect.queueWriteComplete ∈ effects

/-- A call that neither writes nor queues a notification owes none. -/
theorem silent_notified (before after : TcpConnection) (effects : List Effect)
    (callback : after.writeCompleteCallback = before.writeCompleteCallback)
    (absent : Effect.queueWriteComplete ∉ effects) (nothing : written effects = []) :
    Notified before after effects where
  callback := callback
  once := by simp [List.count_eq_zero_of_not_mem absent]
  complete := fun member => absurd member absent
  owed := fun _ wrote => absurd nothing wrote

/-- A notification is queued once at most. -/
theorem notify_once (c : TcpConnection) : c.notify.count .queueWriteComplete ≤ 1 := by
  unfold notify
  split <;> simp

/-- It is queued if the callback is set. -/
theorem notify_set {c : TcpConnection} (callback : c.writeCompleteCallback = true) :
    Effect.queueWriteComplete ∈ c.notify := by
  simp [notify, callback]

/-- The direct attempt notifies at most once, only for the whole message and an
empty buffer, and always for the whole of a nonempty message. -/
theorem writeDirectly_notified (c : TcpConnection) (message : List Byte) (result : WriteResult) :
    (c.writeDirectly message result).2.count .queueWriteComplete ≤ 1 ∧
      (Effect.queueWriteComplete ∈ (c.writeDirectly message result).2 →
        (c.writeDirectly message result).1 = message.length ∧
          c.outputBuffer.readableBytes = 0) ∧
      (c.writeCompleteCallback = true → 0 < (c.writeDirectly message result).1 →
        (c.writeDirectly message result).1 = message.length →
        Effect.queueWriteComplete ∈ (c.writeDirectly message result).2) := by
  unfold writeDirectly
  by_cases idle : (!c.channel.isWriting && c.outputBuffer.readableBytes == 0) = true
  · have empty : c.outputBuffer.readableBytes = 0 := by
      simp only [Bool.and_eq_true, beq_iff_eq] at idle
      exact idle.2
    rw [if_pos idle]
    cases result with
    | failed errno => simp [writeCount]
    | accepted count =>
      simp only [writeCount]
      split
      next short =>
        refine ⟨by simp, by simp, ?_⟩
        intro _ _ whole
        exact absurd whole (Nat.ne_of_lt short)
      next whole =>
        have all : min count message.length = message.length := by omega
        refine ⟨?_, fun _ => ⟨all, empty⟩, fun callback _ _ => ?_⟩
        · rw [List.count_cons_of_ne (by simp)]
          exact notify_once c
        · exact List.mem_cons_of_mem _ (notify_set callback)
  · rw [if_neg idle]
    simp

/-- Proof: a notification comes from the direct attempt. If the message was
taken whole the connection is unchanged and nothing was buffered. Otherwise the
stream law leaves the rest of the message unsent, so none is owed. -/
theorem sendInLoop_notified {c : TcpConnection} (wellFormed : c.outputBuffer.WellFormed)
    (message : StringView) (result : WriteResult) (after : TcpConnection) (effects : List Effect)
    (taken : c.sendInLoop message result = .ok (after, effects)) :
    Notified c after effects := by
  have stream := ((sendInLoop_returns wellFormed message result).of_ok taken).stream
  obtain ⟨once, complete, owed⟩ := writeDirectly_notified c message.bytes result
  obtain ⟨bounded, prefixed, _, _⟩ := writeDirectly_exact wellFormed message.bytes result
  unfold sendInLoop at taken
  generalize c.writeDirectly message.bytes result = direct at taken once complete owed bounded prefixed
  obtain ⟨nWrote, direct⟩ := direct
  simp only at taken once complete owed bounded prefixed
  by_cases more : nWrote < message.bytes.length
  · rw [if_pos more] at taken
    obtain ⟨buffered, _, taken⟩ := (bind_ok _ _ _).mp taken
    have absent : Effect.queueWriteComplete ∉ direct := fun member =>
      absurd (complete member).1 (Nat.ne_of_lt more)
    have waiting (effects : List Effect) (same : written effects = written direct)
        (sent : written effects ++ after.unsent = c.unsent ++ message.bytes) :
        after.unsent ≠ [] := by
      intro nothing
      have sizes := congrArg List.length sent
      rw [nothing, same, prefixed] at sizes
      simp only [List.length_append, List.length_take, List.length_nil] at sizes
      omega
    split at taken
    · obtain ⟨rfl, rfl⟩ := Prod.mk.inj ((pure_ok _ _).mp taken)
      refine ⟨rfl, once, fun member => absurd member absent, fun _ _ nothing => ?_⟩
      exact absurd nothing (waiting direct rfl stream)
    · obtain ⟨rfl, rfl⟩ := Prod.mk.inj ((pure_ok _ _).mp taken)
      refine ⟨rfl, ?_, fun member => absurd member (by simp [absent]), fun _ _ nothing => ?_⟩
      · simp [List.count_append, once]
      · exact absurd nothing (waiting _ (by simp [written]) stream)
  · rw [if_neg more] at taken
    obtain ⟨rfl, rfl⟩ := Prod.mk.inj ((pure_ok _ _).mp taken)
    refine ⟨rfl, once, fun member => ?_, fun callback wrote _ => ?_⟩
    · exact (readableBytes_zero wellFormed).mp (complete member).2
    · have positive : 0 < nWrote := by
        apply Nat.pos_of_ne_zero
        intro none
        exact wrote (by rw [prefixed, none, List.take_zero])
      exact owed callback positive (by omega)

/-- Proof: only the flush that empties the buffer notifies, and a flush that
wrote without emptying it leaves bytes unsent. -/
theorem handleWrite_notified {c : TcpConnection} (wellFormed : c.outputBuffer.WellFormed)
    (result : WriteResult) (after : TcpConnection) (effects : List Effect)
    (taken : c.handleWrite result = .ok (after, effects)) : Notified c after effects := by
  have kept := ((handleWrite_returns wellFormed result False).of_ok taken).wellFormed
  unfold handleWrite at taken
  split at taken
  · obtain ⟨offered, _, taken⟩ := (bind_ok _ _ _).mp taken
    split at taken
    · obtain ⟨rest, _, taken⟩ := (bind_ok _ _ _).mp taken
      split at taken
      next drained =>
        obtain ⟨rfl, rfl⟩ := Prod.mk.inj ((pure_ok _ _).mp taken)
        refine ⟨rfl, ?_, fun _ => (readableBytes_zero kept).mp drained, fun callback _ _ => ?_⟩
        · have quiet (c : TcpConnection) :
              List.count Effect.queueWriteComplete
                (if c.state = .disconnecting then c.shutdownInLoop else []) = 0 := by
            unfold shutdownInLoop
            repeat' split
            all_goals simp
          rw [List.count_append, List.count_append, quiet]
          simpa using notify_once _
        · refine List.mem_append_left _ (List.mem_append_right _ (notify_set callback))
      next waiting =>
        obtain ⟨rfl, rfl⟩ := Prod.mk.inj ((pure_ok _ _).mp taken)
        refine ⟨rfl, by simp, by simp, fun _ _ nothing => ?_⟩
        exact absurd ((readableBytes_zero kept).mpr nothing) waiting
    · obtain ⟨rfl, rfl⟩ := Prod.mk.inj ((pure_ok _ _).mp taken)
      exact silent_notified c c [] rfl (by simp) rfl
  · obtain ⟨rfl, rfl⟩ := Prod.mk.inj ((pure_ok _ _).mp taken)
    exact silent_notified c c [] rfl (by simp) rfl

/-- Every loop-thread step notifies as its stream demands. The other steps
neither write nor notify. -/
theorem act_notified {c : TcpConnection} (wellFormed : c.outputBuffer.WellFormed) (label : Label)
    (after : TcpConnection) (effects : List Effect) (taken : act c label = .ok (after, effects)) :
    Notified c after effects := by
  cases label with
  | sendInLoop message result =>
    exact sendInLoop_notified wellFormed message result after effects taken
  | handleWrite result => exact handleWrite_notified wellFormed result after effects taken
  | connectEstablished =>
    obtain ⟨_, same⟩ := (connectEstablished_ok _ _).mp taken
    obtain ⟨rfl, rfl⟩ := Prod.mk.inj same
    exact silent_notified _ _ _ rfl (by simp) rfl
  | handleClose =>
    obtain ⟨_, same⟩ := (handleClose_ok _ _).mp taken
    obtain ⟨rfl, rfl⟩ := Prod.mk.inj same
    exact silent_notified _ _ _ rfl (by simp) rfl
  | connectDestoryed =>
    obtain ⟨_, same⟩ := (connectDestoryed_ok _ _).mp taken
    obtain ⟨rfl, rfl⟩ := Prod.mk.inj same
    exact silent_notified _ _ _ rfl (by simp) rfl

/-- The account of the stream, and the callback as it was set. -/
structure Watched (writeCompleteCallback : Bool) (past : List Label) (stream : Stream) :
    Prop where
  accounts : Accounts past stream
  callback : stream.connection.writeCompleteCallback = writeCompleteCallback

/-- Every step keeps the account of the stream, and the callback as it was set. -/
theorem step_watched (writeCompleteCallback : Bool) (past : List Label) (before : Stream)
    (label : Label) (after : Stream) (watched : Watched writeCompleteCallback past before)
    (taken : step before label = .ok after) :
    Watched writeCompleteCallback (past ++ [label]) after := by
  have accounts := step_accounts past before label after watched.accounts taken
  obtain ⟨⟨connection, effects⟩, acted, same⟩ := (bind_ok _ _ _).mp taken
  obtain rfl := (pure_ok _ _).mp same
  have notified := act_notified watched.accounts.wellFormed label connection effects acted
  exact ⟨accounts, notified.callback.trans watched.callback⟩

/-- After every run of a connection whose write-complete callback is set, the
next step queues a notification only if the kernel has then accepted every byte
passed to `send_in_loop`. If it wrote a byte and leaves none unsent it queues
exactly one. It never queues two.

Proof: the account of the stream holds in every state of the run. A notifying
step leaves nothing unsent, so the account says the accepted bytes are all the
bytes sent. -/
theorem notifications_match_stream (sockFd : Int) (labels : List Label) (stream : Stream)
    (reached : run step (initial sockFd true) labels = .ok stream) (label : Label)
    (after : TcpConnection) (effects : List Effect)
    (taken : act stream.connection label = .ok (after, effects)) :
    (Effect.queueWriteComplete ∈ effects →
      stream.accepted ++ written effects = (labels ++ [label]).flatMap Label.sent) ∧
    (written effects ≠ [] → after.outputBuffer.content = [] →
      effects.count .queueWriteComplete = 1) ∧
    effects.count .queueWriteComplete ≤ 1 := by
  have watched : Watched true labels stream :=
    history step (Watched true) (step_watched true) labels (initial sockFd true) stream
      ⟨initial_accounts sockFd true, rfl⟩ reached
  have notified := act_notified watched.accounts.wellFormed label after effects taken
  refine ⟨fun queued => ?_, fun wrote nothing => ?_, notified.once⟩
  · have stepped : step stream label = .ok ⟨after, stream.accepted ++ written effects⟩ := by
      simp [step, taken]
    have accounted := (step_accounts labels stream label _ watched.accounts stepped).accounted
    have nothing : after.unsent = [] := notified.complete queued
    simpa [nothing] using accounted
  · have queued := notified.owed watched.callback wrote nothing
    exact Nat.le_antisymm notified.once (List.count_pos_iff.mpr queued)

/-- A short direct write, then the flush of the rest. -/
theorem notifications_after_flush :
    ∃ stream after effects,
      run step (initial 5 true) [.sendInLoop ⟨[6, 7, 8], by decide⟩ (.accepted 1)] = .ok stream ∧
      act stream.connection (.handleWrite (.accepted 2)) = .ok (after, effects) ∧
      written effects = [7, 8] ∧ effects.count .queueWriteComplete = 1 := by
  have computed : (run step (initial 5 true)
      [.sendInLoop ⟨[6, 7, 8], by decide⟩ (.accepted 1)]).map (fun stream =>
        (act stream.connection (.handleWrite (.accepted 2))).map fun result =>
          (written result.2, result.1.outputBuffer.content)) = .ok (.ok ([7, 8], [])) := by
    decide +kernel
  obtain ⟨stream, reached, computed⟩ := (map_returned _ _ _).mp computed
  obtain ⟨⟨after, effects⟩, taken, computed⟩ := (map_returned _ _ _).mp computed
  obtain ⟨wrote, nothing⟩ := Prod.mk.inj computed
  have laws := notifications_match_stream 5 _ stream reached (.handleWrite (.accepted 2)) after
    effects taken
  refine ⟨stream, after, effects, reached, taken, wrote, ?_⟩
  exact laws.2.1 (by simp [wrote]) nothing

end ReactorNetwork.WriteComplete
