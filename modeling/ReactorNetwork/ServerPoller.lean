import ReactorNetwork.ServerDescriptors

/-!
# A server and its poller

The connections of a server and the poller of its loop were modelled apart: what the
connections do to the poller is a list of effects, and what the poller asserts is a matter
of its own. Here they run together, with the acceptor and the channels of other components.

While the server exists the two layers fit. The poller refuses nothing the connections ask
for, no `epoll_ctl` fails, and what the kernel watches a connection for is what its channel
says, from its establishment to its destruction and not longer. So the traced connections,
which know of the poller only who is registered, describe the server on its real poller.

Both rest on what becomes of the sends of other threads between their test and the functor
they queue. The poller fits as long as none of these functors runs on a destroyed connection,
whose channel it would register again; the traced connections, whose `send` tests and writes
in one step, describe the runs in which each finds its connection still `connected`.
-/

namespace ReactorNetwork.ServerDestruction

open Runs ConnectionLife TcpServer TcpConnection

variable {name : List Char} {acceptorFd : Int} {s t : State name}

/-- What the connections do in a step. -/
def Label.own : Label name → Option (ConnectionLife.Label (server name))
  | .life label => some label
  | .sendInLoop id message result => some (.send id message result)
  | .listen | .dropLast _ | .register _ | .update _ _ | .unregister _ | .destroyServer => none

/-- A `send_in_loop` that another thread queued finds its connection not destroyed. -/
def sendsInTime (s : State name) : Label name → Prop
  | .sendInLoop id _ _ => id ∉ s.life.destroyed
  | _ => True

instance (s : State name) (label : Label name) : Decidable (sendsInTime s label) :=
  match label with
  | .sendInLoop _ _ _ => inferInstanceAs (Decidable (_ ∉ _))
  | .life _ | .listen | .dropLast _ | .register _ | .update _ _ | .unregister _
  | .destroyServer => isTrue trivial

/-- It finds its connection still `connected`, as the test of `send` did. -/
def sendsConnected (s : State name) : Label name → Prop
  | .sendInLoop id _ _ => (s.life.objects id).state = .connected
  | _ => True

instance (s : State name) (label : Label name) : Decidable (sendsConnected s label) :=
  match label with
  | .sendInLoop _ _ _ => inferInstanceAs (Decidable (_ = _))
  | .life _ | .listen | .dropLast _ | .register _ | .update _ _ | .unregister _
  | .destroyServer => isTrue trivial

/-- How a step of a server and its poller ends: in a state that fits as long as the server
exists, or with a failure of the connections' own, or it is not possible. -/
inductive Answered (acceptorFd : Int) (own : Failure → Prop)
    (outcome : Except Failure (State name)) : Prop where
  | returned (t : State name) (same : outcome = .ok t)
      (fits : t.alive = true → Fits acceptorFd t)
  | refused (same : outcome = .error .notEnabled)
  | failed (failure : Failure) (same : outcome = .error failure) (cause : own failure)

/-- An answer may name the cause of a failure in a weaker way. -/
theorem Answered.imp {own other : Failure → Prop} {outcome : Except Failure (State name)}
    (answered : Answered acceptorFd own outcome) (cause : ∀ failure, own failure → other failure) :
    Answered acceptorFd other outcome := by
  cases answered with
  | returned t same fits => exact .returned t same fits
  | refused same => exact .refused same
  | failed failure same because => exact .failed failure same (cause failure because)

/-- A step of the connections returns, and the poller with it, unless it fails by
itself. -/
theorem perform_returns (fits : Fits acceptorFd s) (label : ConnectionLife.Label (server name))
    (admitted : Admitted (seen s) label)
    (closed : ∀ accepted, label = .owner accepted → accepted.sockFd ∉ s.openFds) :
    (∃ life poller, perform s label = .ok { s with life := life, poller := poller } ∧
      Fits acceptorFd
        { s with life := life, poller := poller, openFds := opened s.openFds label }) ∨
    ∃ failure, perform s label = .error failure ∧
      ConnectionLife.step s.life label = .error failure := by
  cases stepping : ConnectionLife.step s.life label with
  | error failure =>
    refine Or.inr ⟨failure, ?_, rfl⟩
    rw [perform, stepping]
    rfl
  | ok life =>
    obtain ⟨poller, polled, after⟩ := perform_fits fits stepping admitted closed
    refine Or.inl ⟨life, poller, ?_, after⟩
    simp only [perform, bind_ok, lift_ok, pure_ok]
    exact ⟨life, stepping, poller, polled, rfl⟩

/-- A step of the connections is answered by the poller, or fails by itself. -/
theorem perform_answered (fits : Fits acceptorFd s) {label : ConnectionLife.Label (server name)}
    (admitted : Admitted (seen s) label) (quiet : ∀ accepted, label ≠ .owner accepted) :
    Answered acceptorFd (fun failure => ConnectionLife.step s.life label = .error failure)
      (perform s label) := by
  have same : opened s.openFds label = s.openFds := by
    cases label with
    | owner accepted => exact absurd rfl (quiet accepted)
    | _ => rfl
  rcases perform_returns fits label admitted
    (fun accepted accepts => absurd accepts (quiet accepted)) with
    ⟨life, poller, returned, after⟩ | ⟨failure, failed, cause⟩
  · rw [same] at after
    exact .returned _ returned fun _ => after
  · exact .failed failure failed cause

/-- Beside the connections. -/
theorem Fits.beside (fits : Fits acceptorFd s) (life : t.life = s.life)
    (faithful : Epoller.Faithful t.poller)
    (connections : ∀ id, t.poller.objects (.connection id) = s.poller.objects (.connection id))
    (held : Held acceptorFd t) (dropped : ∀ id ∈ t.dropped, id ∈ t.life.destroyed)
    (acceptor : (t.poller.objects .acceptor).fd = acceptorFd)
    (fresh : ∀ id, t.others ≤ id → (t.poller.objects (.other id)).index = Epoller.kNew) :
    Fits acceptorFd t where
  faithful := faithful
  placed := life ▸ fits.placed
  apart := by
    have same : seen t = seen s := by simp only [seen, life, connections]
    exact same ▸ fits.apart
  follows := by
    rw [life]
    intro id created alive
    rw [connections id]
    exact fits.follows id created alive
  held := held
  dropped := dropped
  acceptor := acceptor
  fresh := fresh

/-- A change of interest of a channel that has its descriptor is never refused. -/
theorem Fits.interest (fits : Fits acceptorFd s) (id : Id) (interest : Poller.Interest)
    (holds : descriptor acceptorFd s id = some (s.poller.objects id).fd) :
    ∃ q, Epoller.step s.poller (.update id interest) = .ok q ∧ Epoller.Faithful q ∧
      (∀ other, other ≠ id → q.objects other = s.poller.objects other) ∧
      Follows (q.objects id) (interest.apply (s.poller.objects id)) := by
  have fd := apply_fd interest (s.poller.objects id)
  obtain ⟨q, updated, faithful, changed⟩ := fits.faithful.update id
    (interest.apply (s.poller.objects id)) (Poller.apply_index interest _) (fun _ => fd.symm)
    (fun new => by rw [fd]; exact fits.free holds new)
  refine ⟨q, updated, faithful, ?_, ?_⟩
  · intro other different
    rw [changed, Poller.setChannel_other _ _ _ _ different]
  · rw [changed, Poller.setChannel_same]
    refine ⟨rfl, rfl, ?_⟩
    simp only [Epoller.nextIndex]
    split <;> decide

/-- Listening registers the acceptor's channel. -/
theorem listen_fits (fits : Fits acceptorFd s) :
    ∃ poller, Epoller.step s.poller (.update .acceptor .enableReading) = .ok poller ∧
      Fits acceptorFd { s with listening := true, poller := poller } := by
  obtain ⟨poller, updated, faithful, others, follows⟩ :=
    fits.interest .acceptor .enableReading (by rw [descriptor, fits.acceptor])
  refine ⟨poller, updated, fits.beside rfl faithful (fun id => others _ (by simp)) ?_ fits.dropped
    (follows.fd.trans fits.acceptor) ?_⟩
  · refine fits.held.fewer ?_ (fun _ _ _ member => member)
    intro id fd holds
    cases id with
    | acceptor => exact holds
    | connection id => exact holds
    | other id => simpa only [descriptor, others (.other id) (by simp)] using holds
  · intro id later
    rw [show poller.objects (.other id) = _ from others _ (by simp)]
    exact fits.fresh id later

/-- An update of a registered channel of user code returns, and concerns no
connection. -/
theorem update_fits (fits : Fits acceptorFd s) {id : Nat} (interest : Poller.Interest)
    (known : s.poller.channels.lookup (s.poller.objects (.other id)).fd = some (.other id)) :
    ∃ poller, Epoller.step s.poller (.update (.other id) interest) = .ok poller ∧
      Fits acceptorFd { s with poller := poller } ∧
      Follows (poller.objects (.other id)) (interest.apply (s.poller.objects (.other id))) := by
  have listed := ((fits.faithful.mirrors.listed _ _).mp known).2
  obtain ⟨poller, updated, faithful, others, follows⟩ := fits.interest _ interest (fits.own listed)
  refine ⟨poller, updated, fits.beside rfl faithful (fun id => others _ (by simp)) ?_ fits.dropped
    ?_ ?_, follows⟩
  · refine fits.held.fewer ?_ (fun _ _ _ member => member)
    intro other fd holds
    cases other with
    | acceptor => exact holds
    | connection other => exact holds
    | other other =>
      by_cases this : other = id
      · subst this
        simp only [descriptor, if_pos listed, if_pos follows.listed, follows.fd, apply_fd]
          at holds ⊢
        exact holds
      · simpa only [descriptor, others (.other other) (by simpa using this)] using holds
  · rw [show poller.objects .acceptor = _ from others _ (by simp)]
    exact fits.acceptor
  · intro other later
    have this : other ≠ id := by
      rintro rfl
      exact listed (fits.fresh other later)
    rw [show poller.objects (.other other) = _ from others _ (by simpa using this)]
    exact fits.fresh other later

/-- Another component registers a channel under a descriptor that was not open. -/
theorem register_fits (fits : Fits acceptorFd s) {fd : Int} (closed : fd ∉ s.openFds) :
    ∃ poller, Epoller.step { s.poller with
        objects := Poller.setChannel s.poller.objects (.other s.others) (Channel.create fd) }
        (.update (.other s.others) .enableReading) = .ok poller ∧
      Fits acceptorFd
        { s with poller := poller, openFds := fd :: s.openFds, others := s.others + 1 } := by
  have new := fits.fresh s.others (Nat.le_refl _)
  obtain ⟨poller, updated, faithful, changed⟩ := fits.faithful.update (.other s.others)
    (Channel.create fd).enableReading (by rw [new]; rfl) (fun listed => absurd new listed)
    (fun _ => fits.free_closed closed)
  have others : ∀ other, other ≠ .other s.others → poller.objects other = s.poller.objects other :=
    fun other different => by rw [changed, Poller.setChannel_other _ _ _ _ different]
  refine ⟨poller, ?_, ?_⟩
  · simp only [Epoller.step, Poller.setChannel_same, Poller.setChannel_twice]
    exact updated
  refine fits.beside rfl faithful (fun id => others _ (by simp)) ?_ fits.dropped ?_ ?_
  · refine fits.held.more (.other s.others) closed ?_ rfl
    intro other key holds
    cases other with
    | acceptor => exact Or.inr holds
    | connection other => exact Or.inr holds
    | other other =>
      by_cases this : other = s.others
      · subst this
        simp only [descriptor, changed, Poller.setChannel_same] at holds
        split at holds
        · exact Or.inl ⟨rfl, (Option.some.inj holds).symm⟩
        · cases holds
      · right
        simpa only [descriptor, others (.other other) (by simpa using this)] using holds
  · rw [show poller.objects .acceptor = _ from others _ (by simp)]
    exact fits.acceptor
  · intro other later
    have this : other ≠ s.others := by
      rintro rfl
      exact absurd later (Nat.not_succ_le_self _)
    rw [show poller.objects (.other other) = _ from others _ (by simpa using this)]
    exact fits.fresh other (Nat.le_of_succ_le later)

/-- Another component removes its channel and closes the descriptor. -/
theorem unregister_fits (fits : Fits acceptorFd s) {id : Nat}
    (known : s.poller.channels.lookup (s.poller.objects (.other id)).fd = some (.other id)) :
    ∃ disabled removed,
      Epoller.step s.poller (.update (.other id) .disableAll) = .ok disabled ∧
      Epoller.removeChannel disabled (.other id) = .ok removed ∧
      Fits acceptorFd
        (closeFds { s with poller := removed } [(s.poller.objects (.other id)).fd]) := by
  obtain ⟨disabled, updated, between, follows⟩ := update_fits fits .disableAll known
  have none : (disabled.objects (.other id)).isNoneEvent = true := by
    rw [Channel.isNoneEvent, follows.events]
    rfl
  obtain ⟨removed, erased, faithful, unlisted, changed⟩ :=
    between.faithful.remove follows.listed none
  rw [follows.fd.trans (apply_fd _ _)] at unlisted
  have others : ∀ other, other ≠ .other id → removed.objects other = disabled.objects other :=
    fun other different => by rw [changed, Poller.setChannel_other _ _ _ _ different]
  refine ⟨disabled, removed, updated, erased, ?_⟩
  refine between.beside rfl (faithful.close ?_) (fun _ => others _ (by simp)) ?_ fits.dropped ?_ ?_
  · intro fd member
    rw [List.mem_singleton.mp member]
    exact unlisted
  · have holds := between.own follows.listed
    rw [follows.fd.trans (apply_fd _ _)] at holds
    refine between.held.closed holds ?_ rfl
    intro other key present
    cases other with
    | acceptor => exact ⟨by simp, present⟩
    | connection other => exact ⟨by simp, present⟩
    | other other =>
      by_cases this : other = id
      · subst this
        simp [descriptor, closeFds, changed, Poller.setChannel_same] at present
      · refine ⟨by simpa using this, ?_⟩
        simpa only [descriptor, closeFds, others (.other other) (by simpa using this)] using present
  · rw [show (closeFds { s with poller := removed } _).poller.objects .acceptor = _ from
      others _ (by simp)]
    exact between.acceptor
  · intro other later
    by_cases this : other = id
    · rw [this]
      exact congrArg Channel.index
        ((congrFun changed (.other id)).trans (Poller.setChannel_same _ _ _))
    · exact (congrArg Channel.index (others (.other other) (by simpa using this))).trans
        (between.fresh other later)

/-- The last reference to a destroyed connection is dropped. -/
theorem dropLast_fits (fits : Fits acceptorFd s) {id : Nat} (destroyed : id ∈ s.life.destroyed)
    (kept : id ∉ s.dropped) :
    Fits acceptorFd
      { closeFds s [(s.life.objects id).channel.fd] with dropped := id :: s.dropped } := by
  have created := fits.apart.known id (Or.inr (Or.inr (Or.inr destroyed)))
  have holds : descriptor acceptorFd s (.connection id) = some (s.life.objects id).channel.fd :=
    if_pos ⟨created, kept⟩
  have unlisted : (s.poller.objects (.connection id)).index = Epoller.kNew := by
    by_contra listed
    exact (fits.apart.registered id (decide_eq_true listed)).2 destroyed
  refine fits.beside rfl (fits.faithful.close ?_) (fun _ => rfl) ?_ ?_ fits.acceptor fits.fresh
  · intro fd member
    rw [List.mem_singleton.mp member]
    exact fits.free holds unlisted
  · refine fits.held.closed holds ?_ rfl
    intro other key present
    cases other with
    | acceptor => exact ⟨by simp, present⟩
    | other other => exact ⟨by simp, present⟩
    | connection other =>
      simp only [descriptor, closeFds, List.mem_cons, not_or] at present ⊢
      split at present
      case isFalse => cases present
      case isTrue still =>
        rw [if_pos ⟨still.1, still.2.2⟩]
        exact ⟨by simpa using still.2.1, present⟩
  · intro other member
    rcases List.mem_cons.mp member with rfl | earlier
    · exact destroyed
    · exact fits.dropped other earlier

/-- A step of the server that its own tests admit is answered. -/
theorem lifeStep_answered (fits : Fits acceptorFd s) (label : ConnectionLife.Label (server name)) :
    Answered acceptorFd (fun failure => ConnectionLife.step s.life label = .error failure)
      (lifeStep s label) := by
  cases label with
  | poll active =>
    simp only [lifeStep]
    split
    case isFalse => exact .refused rfl
    case isTrue reported =>
      refine perform_answered fits (fun id member => decide_eq_true ?_) (by simp)
      exact ((fits.faithful.mirrors.listed _ _).mp (reported id member)).2
  | send id message result =>
    simp only [lifeStep]
    split
    case isFalse => exact .returned s rfl fun _ => fits
    case isTrue connected =>
      exact perform_answered fits (open_alive fits.apart (Or.inl connected)) (by simp)
  | owner accepted =>
    simp only [lifeStep]
    split
    case isFalse => exact .refused rfl
    case isTrue listens =>
      rcases perform_returns fits (.owner accepted) trivial (fun other accepts => by
          obtain rfl := ConnectionLife.Label.owner.inj accepts
          exact listens.2) with
        ⟨life, poller, returned, after⟩ | ⟨failure, failed, cause⟩
      · rw [returned]
        exact .returned _ rfl fun _ => after
      · rw [failed]
        exact .failed failure rfl cause
  | _ => exact perform_answered fits trivial (by simp)

/-- Every step whose queued sends are in time is answered. -/
theorem step_answered (fits : Fits acceptorFd s) (label : Label name)
    (inTime : sendsInTime s label) :
    Answered acceptorFd (fun failure => ∃ own, label.own = some own ∧
      ConnectionLife.step s.life own = .error failure) (step acceptorFd s label) := by
  cases label with
  | sendInLoop id message result =>
    simp only [step]
    split
    case isFalse => exact .refused rfl
    case isTrue =>
      have admitted : Admitted (seen s) (.send id message result) := inTime
      exact (perform_answered fits admitted (by simp)).imp fun _ cause => ⟨_, rfl, cause⟩
  | life label =>
    simp only [step]
    split
    case isFalse => exact .refused rfl
    case isTrue => exact (lifeStep_answered fits label).imp fun _ cause => ⟨label, rfl, cause⟩
  | listen =>
    obtain ⟨poller, updated, after⟩ := listen_fits fits
    simp only [step, updated, lift, bind, Except.bind, pure, Except.pure]
    split
    case isFalse => exact .refused rfl
    case isTrue => exact .returned _ rfl fun _ => after
  | dropLast id =>
    simp only [step]
    split
    case isFalse => exact .refused rfl
    case isTrue last => exact .returned _ rfl fun _ => dropLast_fits fits last.1 last.2
  | register fd =>
    simp only [step]
    split
    case isFalse => exact .refused rfl
    case isTrue closed =>
      obtain ⟨poller, updated, after⟩ := register_fits fits closed
      simp only [updated, lift, bind, Except.bind, pure, Except.pure]
      exact .returned _ rfl fun _ => after
  | update id interest =>
    simp only [step]
    split
    case isFalse => exact .refused rfl
    case isTrue known =>
      obtain ⟨poller, updated, after, _⟩ := update_fits fits interest known
      simp only [updated, lift, bind, Except.bind, pure, Except.pure]
      exact .returned _ rfl fun _ => after
  | unregister id =>
    simp only [step]
    split
    case isFalse => exact .refused rfl
    case isTrue known =>
      obtain ⟨disabled, removed, updated, erased, after⟩ := unregister_fits fits known
      simp only [updated, erased, lift, bind, Except.bind, pure, Except.pure]
      exact .returned _ rfl fun _ => after
  | destroyServer =>
    simp only [step]
    split
    case isFalse => exact .refused rfl
    case isTrue => exact .returned _ rfl fun alive => by cases alive

/-- Only a server that exists still exists after a step. -/
theorem step_alive {label : Label name} (taken : step acceptorFd s label = .ok t)
    (alive : t.alive = true) : s.alive = true := by
  cases label with
  | life label | sendInLoop id message result =>
    simp only [step] at taken
    split at taken
    case isTrue lives => exact lives
    case isFalse => cases taken
  | listen =>
    simp only [step] at taken
    split at taken
    case isTrue lives => exact lives.1
    case isFalse => cases taken
  | dropLast id =>
    simp only [step] at taken
    split at taken
    · obtain rfl := (pure_ok _ _).mp taken
      exact alive
    · cases taken
  | register fd | update id interest =>
    simp only [step] at taken
    split at taken
    · simp only [bind_ok, pure_ok] at taken
      obtain ⟨_, _, rfl⟩ := taken
      exact alive
    · cases taken
  | unregister id =>
    simp only [step] at taken
    split at taken
    · simp only [bind_ok, pure_ok] at taken
      obtain ⟨_, _, _, _, rfl⟩ := taken
      exact alive
    · cases taken
  | destroyServer =>
    simp only [step] at taken
    split at taken
    · obtain rfl := (pure_ok _ _).mp taken
      cases alive
    · cases taken

/-- Every such step keeps the poller in step with the server, until the server is
destroyed. -/
theorem step_fits {label : Label name} (fits : s.alive = true → Fits acceptorFd s)
    (inTime : sendsInTime s label) (taken : step acceptorFd s label = .ok t) :
    t.alive = true → Fits acceptorFd t := by
  intro alive
  cases step_answered (fits (step_alive taken alive)) label inTime with
  | returned u same after =>
    obtain rfl := Except.ok.inj (taken.symm.trans same)
    exact after alive
  | refused same => cases taken.symm.trans same
  | failed failure same cause => cases taken.symm.trans same

/-- In every state a server reaches before it is destroyed, with its acceptor, the poller of
its loop and the channels of other components, in a run whose queued sends find their
connections not destroyed: the map holds the channel of a connection exactly from its
establishment to its destruction; the kernel watches each such connection that has an
interest, for the events its channel says; whatever the kernel watches is open, and a
connection among it is not destroyed; no `epoll_ctl` has failed. The poller adds no failure: a
step that is possible fails only where the connections' own step does.

Proof: every open descriptor belongs to one channel, so that a channel that enters the map
finds its descriptor free, and one that is in the map has it to itself. -/
theorem server_fits_poller (name : List Char) (acceptorFd : Int) (labels : List (Label name))
    (s : State name) (inTime : Along (step acceptorFd) sendsInTime (initial name acceptorFd) labels)
    (reached : run (step acceptorFd) (initial name acceptorFd) labels = .ok s)
    (alive : s.alive = true) :
    (∀ id, (∃ fd, s.poller.channels.lookup fd = some (.connection id)) ↔
      id < s.life.created ∧ id ∉ s.life.destroyed) ∧
    (∀ id < s.life.created, id ∉ s.life.destroyed →
      (s.life.objects id).channel.isNoneEvent = false →
      s.poller.interest (s.life.objects id).channel.fd =
        some ⟨(s.life.objects id).channel.events, .connection id⟩) ∧
    (∀ fd entry, s.poller.interest fd = some entry → fd ∈ s.openFds ∧
      ∀ id, entry.data = .connection id → id < s.life.created ∧ id ∉ s.life.destroyed ∧
        fd = (s.life.objects id).channel.fd ∧
        entry.events = (s.life.objects id).channel.events) ∧
    s.poller.logged = [] ∧
    ∀ label failure, sendsInTime s label → step acceptorFd s label = .error failure →
      failure = .notEnabled ∨ ∃ own, label.own = some own ∧
        ConnectionLife.step s.life own = .error failure := by
  have fits : Fits acceptorFd s := guarded_invariant (step acceptorFd) sendsInTime
    (fun s => s.alive = true → Fits acceptorFd s)
    (fun _ _ _ fits inTime taken => step_fits fits inTime taken)
    labels (initial name acceptorFd) s (fun _ => initial_fits name acceptorFd) inTime reached alive
  have mirrors := fits.faithful.mirrors
  refine ⟨?_, ?_, ?_, mirrors.quiet, ?_⟩
  · intro id
    constructor
    · rintro ⟨fd, found⟩
      exact (fits.registered_iff id).mp (decide_eq_true ((mirrors.listed _ _).mp found).2)
    · rintro ⟨created, undestroyed⟩
      exact ⟨_, (mirrors.listed _ _).mpr ⟨rfl, (fits.follows id created undestroyed).listed⟩⟩
  · intro id created undestroyed interested
    have follows := fits.follows id created undestroyed
    have added : (s.poller.objects (.connection id)).index = Epoller.kAdded := by
      refine ((mirrors.status (.connection id)).resolve_left follows.listed).resolve_right ?_
      intro deleted
      have idle := fits.faithful.idle _ deleted
      rw [Channel.isNoneEvent, follows.events] at idle
      cases idle.symm.trans interested
    exact (mirrors.watched _ ⟨_, _⟩).mpr ⟨follows.fd, added, follows.events⟩
  · intro fd entry watched
    obtain ⟨same, added, events⟩ := (mirrors.watched fd entry).mp watched
    have listed : (s.poller.objects entry.data).index ≠ Epoller.kNew := by
      rw [added]
      decide
    refine ⟨fits.held.opened entry.data fd (same ▸ fits.own listed), ?_⟩
    intro id this
    rw [this] at same events listed
    obtain ⟨created, undestroyed⟩ := fits.apart.registered id (decide_eq_true listed)
    have follows := fits.follows id created undestroyed
    exact ⟨created, undestroyed, same.symm.trans follows.fd, events.symm.trans follows.events⟩
  · intro label failure inTime failed
    cases step_answered fits label inTime with
    | returned t same _ => cases failed.symm.trans same
    | refused same => exact Or.inl (Except.error.inj (failed.symm.trans same))
    | failed other same cause =>
      obtain rfl := Except.error.inj (failed.symm.trans same)
      exact Or.inr cause

/-- A connection reads an end of file and is destroyed; the next one is given its
descriptor, and a send that another thread queued runs on it. -/
def reusedDescriptor : List (Label []) :=
  [.listen, .life (.owner ⟨8, false⟩), .life (.poll [0]), .life (.dispatch 1#32),
    .life (.callback (.received []) (.failed 0)), .life (.remove ()), .life .finishEvent,
    .life .swap, .life .runFunctor, .life .finishFunctors, .dropLast 0, .life (.owner ⟨8, true⟩),
    .sendInLoop 1 ⟨[21, 22, 23], by decide⟩ (.accepted 1)]

/-- The descriptor of the destroyed connection is watched for the second one, and for it
only. -/
theorem server_fits_poller_reused :
    ∃ s, run (step 3) (initial [] 3) reusedDescriptor = .ok s ∧
      s.poller.interest 8 = some ⟨7#32, .connection 1⟩ ∧
      ¬ ∃ fd, s.poller.channels.lookup fd = some (.connection 0) := by
  have computed : (run (step 3) (initial [] 3) reusedDescriptor).map (fun s =>
      (s.alive, s.life.destroyed, s.poller.interest 8)) =
        .ok (true, [0], some ⟨7#32, .connection 1⟩) := by
    decide +kernel
  obtain ⟨s, reached, observed⟩ := (map_returned _ _ _).mp computed
  obtain ⟨alive, destroyed, watched⟩ : s.alive = true ∧ s.life.destroyed = [0] ∧
      s.poller.interest 8 = some ⟨7#32, .connection 1⟩ := by simpa using observed
  have fits := server_fits_poller [] 3 reusedDescriptor s (by decide +kernel) reached alive
  refine ⟨s, reached, watched, ?_⟩
  rw [fits.1 0, destroyed]
  simp

/-- What the effects of a step register is what is there afterwards: the connections that
are not destroyed. -/
theorem registers_undestroyed (fits : Fits acceptorFd s)
    {label : ConnectionLife.Label (server name)} {life : System (server name)}
    (stepping : ConnectionLife.step s.life label = .ok life) (id : Nat)
    (created : id < life.created) (undestroyed : id ∉ life.destroyed) :
    (effectsOf s.life label).foldl register (seen s).registered id = true := by
  have listed : id < s.life.created → id ∉ s.life.destroyed → (seen s).registered id = true :=
    fun known alive => decide_eq_true (fits.follows id known alive).listed
  cases stepped stepping
  case closing handling handled _ =>
    rw [effectsOf_callback handling handled]
    exact registers_kept _ _ id _ (handle_effects handled).2 (listed created undestroyed)
  case callback handling handled _ =>
    rw [effectsOf_callback handling handled]
    exact registers_kept _ _ id _ (handle_effects handled).2 (listed created undestroyed)
  case send sent =>
    rw [effectsOf_send sent]
    refine registers_kept _ _ id _ (fun member => ?_) (listed created undestroyed)
    cases (sendInLoop_state sent).2 _ member
  case runFunctor other _ _ _ running destroyed =>
    have this : id ≠ other := by
      rintro rfl
      exact undestroyed (List.mem_append_right _ List.mem_cons_self)
    simp only [effectsOf_runFunctor running destroyed, List.foldl_cons, List.foldl_nil, register,
      if_neg this]
    exact listed created fun member => undestroyed (List.mem_append_left _ member)
  case acted acted => cases acted
  case established acted _ established =>
    simp only [effectsOf_established acted established, List.foldl_cons, List.foldl_nil, register]
    split
    · rfl
    · rename_i this
      exact listed (Nat.lt_of_le_of_ne (Nat.le_of_lt_succ created) this) undestroyed
  all_goals exact listed created undestroyed

/-- A step of the connections with the poller is one of the connections alone. -/
theorem perform_traced (fits : Fits acceptorFd s) {label : ConnectionLife.Label (server name)}
    (taken : perform s label = .ok t) (admitted : Admitted (seen s) label)
    {openFds : List Int} (after : Fits acceptorFd { t with openFds := openFds })
    {traced : Traced (server name)} (system : traced.system = s.life)
    (registered : traced.registered = (seen s).registered) :
    ∃ next, traced.perform label = .ok next ∧ next.system = t.life ∧
      next.registered = (seen t).registered := by
  simp only [perform, bind_ok, lift_ok, pure_ok] at taken
  obtain ⟨life, stepping, poller, _, rfl⟩ := taken
  have performed : ∀ traced : Traced (server name), traced.system = s.life →
      traced.registered = (seen s).registered → traced.perform label = .ok {
        system := life
        registered := (effectsOf s.life label).foldl register (seen s).registered
        heard := traced.heard ++ (effectsOf s.life label).filterMap (noticeOf life.objects) } := by
    intro traced system registered
    rw [Traced.perform, system, registered, stepping]
    rfl
  refine ⟨_, performed traced system registered, rfl, ?_⟩
  have apart := perform_apart fits.apart admitted
    (performed (seen s) rfl rfl)
  funext id
  rw [Bool.eq_iff_iff]
  constructor
  · intro present
    exact (after.registered_iff id).mpr (apart.registered id present)
  · intro present
    obtain ⟨created, undestroyed⟩ := (after.registered_iff id).mp present
    exact registers_undestroyed fits stepping id created undestroyed

/-- `send_in_loop` of a connection that is `connected` is a send of the traced
connections. -/
theorem send_traced (fits : Fits acceptorFd s) {id : Nat} {message : StringView}
    {result : WriteResult} (taken : perform s (.send id message result) = .ok t)
    (connected : (s.life.objects id).state = .connected) (after : Fits acceptorFd t)
    {traced : Traced (server name)} (system : traced.system = s.life)
    (registered : traced.registered = (seen s).registered) :
    ∃ next, traced.step (.send id message result) = .ok next ∧ next.system = t.life ∧
      next.registered = (seen t).registered := by
  obtain ⟨next, performed, same⟩ := perform_traced fits taken
    (open_alive fits.apart (Or.inl connected)) after system registered
  refine ⟨next, ?_, same⟩
  rw [Traced.step, system, if_pos connected]
  exact performed

/-- A step of the connections with their poller is one of the traced connections. -/
theorem lifeStep_traced (fits : Fits acceptorFd s) {label : ConnectionLife.Label (server name)}
    (taken : lifeStep s label = .ok t) (after : Fits acceptorFd t) {traced : Traced (server name)}
    (system : traced.system = s.life) (registered : traced.registered = (seen s).registered) :
    ∃ next, traced.step label = .ok next ∧ next.system = t.life ∧
      next.registered = (seen t).registered := by
  cases label with
  | poll active =>
    simp only [lifeStep] at taken
    split at taken
    case isFalse => cases taken
    case isTrue reported =>
      have admitted : ∀ id ∈ active, (seen s).registered id = true := fun id member =>
        decide_eq_true ((fits.faithful.mirrors.listed _ _).mp (reported id member)).2
      obtain ⟨next, performed, same⟩ := perform_traced fits taken admitted after system registered
      refine ⟨next, ?_, same⟩
      rw [Traced.step, registered, if_pos admitted]
      exact performed
  | send id message result =>
    simp only [lifeStep] at taken
    split at taken
    case isFalse disconnected =>
      obtain rfl := (pure_ok _ _).mp taken
      refine ⟨traced, ?_, system, registered⟩
      rw [Traced.step, system, if_neg disconnected]
      rfl
    case isTrue connected =>
      exact send_traced fits taken connected after system registered
  | owner accepted =>
    simp only [lifeStep] at taken
    split at taken
    case isFalse => cases taken
    case isTrue =>
      obtain ⟨entered, performed, rest⟩ := (bind_ok _ _ _).mp taken
      obtain rfl := (pure_ok _ _).mp rest
      obtain ⟨next, traces, same⟩ :=
        perform_traced fits performed trivial after system registered
      exact ⟨next, traces, same⟩
  | _ => exact perform_traced fits taken trivial after system registered

/-- Beside the connections nothing happens to them. -/
theorem step_life {label : Label name} (taken : step acceptorFd s label = .ok t)
    (beside : label.own = none) : t.life = s.life := by
  cases label with
  | life label | sendInLoop id message result => cases beside
  | dropLast id | destroyServer =>
    simp only [step] at taken
    split at taken
    · obtain rfl := (pure_ok _ _).mp taken
      rfl
    · cases taken
  | listen | register fd | update id interest =>
    simp only [step] at taken
    split at taken
    · simp only [bind_ok, pure_ok] at taken
      obtain ⟨_, _, rfl⟩ := taken
      rfl
    · cases taken
  | unregister id =>
    simp only [step] at taken
    split at taken
    · simp only [bind_ok, pure_ok] at taken
      obtain ⟨_, _, _, _, rfl⟩ := taken
      rfl
    · cases taken

/-- The traced connections are those of the server, as long as it exists. -/
def SameConnections (acceptorFd : Int) (s : State name) (traced : Traced (server name)) : Prop :=
  s.alive = true → Fits acceptorFd s ∧ traced.system = s.life ∧
    traced.registered = (seen s).registered

/-- A step of the connections is one of the traced connections, if a queued send finds its
connection `connected`. -/
theorem own_traced (fits : Fits acceptorFd s) {label : Label name}
    (connected : sendsConnected s label) {own : ConnectionLife.Label (server name)}
    (inner : label.own = some own) (taken : step acceptorFd s label = .ok t)
    (after : Fits acceptorFd t) {traced : Traced (server name)} (system : traced.system = s.life)
    (registered : traced.registered = (seen s).registered) :
    ∃ next, traced.step own = .ok next ∧ next.system = t.life ∧
      next.registered = (seen t).registered := by
  cases label with
  | life label =>
    obtain rfl := Option.some.inj inner
    simp only [step] at taken
    split at taken
    case isTrue => exact lifeStep_traced fits taken after system registered
    case isFalse => cases taken
  | sendInLoop id message result =>
    obtain rfl := Option.some.inj inner
    simp only [step] at taken
    split at taken
    case isTrue => exact send_traced fits taken connected after system registered
    case isFalse => cases taken
  | listen | dropLast | register | update | unregister | destroyServer => cases inner

/-- A queued send that finds its connection `connected` finds it not destroyed. -/
theorem inTime_of_connected (fits : Fits acceptorFd s) {label : Label name}
    (connected : sendsConnected s label) : sendsInTime s label := by
  cases label with
  | sendInLoop id message result => exact open_alive fits.apart (Or.inl connected)
  | life | listen | dropLast | register | update | unregister | destroyServer => trivial

/-- A step of the server is one of the traced connections, or none. -/
theorem step_traced {label : Label name} {traced : Traced (server name)}
    (before : SameConnections acceptorFd s traced) (connected : sendsConnected s label)
    (taken : step acceptorFd s label = .ok t) :
    ∃ own next, run Traced.step traced own = .ok next ∧ SameConnections acceptorFd t next := by
  by_cases living : t.alive = true
  · have lives := step_alive taken living
    obtain ⟨fits, system, registered⟩ := before lives
    have after := step_fits (fun _ => fits) (inTime_of_connected fits connected) taken living
    cases inner : label.own with
    | some own =>
      obtain ⟨next, stepped, same⟩ :=
        own_traced fits connected inner taken after system registered
      exact ⟨[own], next, (run_single _ _ _).trans stepped, fun _ => ⟨after, same⟩⟩
    | none =>
      have life := step_life taken inner
      refine ⟨[], traced, rfl, fun _ => ⟨after, system.trans life.symm, ?_⟩⟩
      funext id
      rw [registered, Bool.eq_iff_iff, fits.registered_iff, after.registered_iff, life]
  · exact ⟨[], traced, rfl, fun dead => absurd dead living⟩

/-- The connections of a server on its poller run as the traced connections do: every run of
the server up to its destruction, in which the sends that other threads queued find their
connections `connected`, is one of theirs, in which the registered channels are those in the
poller's map. -/
theorem server_traced (name : List Char) (acceptorFd : Int) (labels : List (Label name))
    (s : State name)
    (connected : Along (step acceptorFd) sendsConnected (initial name acceptorFd) labels)
    (reached : run (step acceptorFd) (initial name acceptorFd) labels = .ok s)
    (alive : s.alive = true) :
    ∃ own traced, run Traced.step (Traced.initial (server name)) own = .ok traced ∧
      traced.system = s.life ∧
      ∀ id, traced.registered id = true ↔
        ∃ fd, s.poller.channels.lookup fd = some (.connection id) := by
  obtain ⟨own, traced, arrived, same⟩ := guarded_simulated (step acceptorFd) sendsConnected
    Traced.step (SameConnections acceptorFd)
    (fun _ _ _ _ before connected taken => step_traced before connected taken)
    labels (initial name acceptorFd) s (Traced.initial (server name))
    (fun _ => ⟨initial_fits name acceptorFd, rfl, rfl⟩) connected reached
  obtain ⟨fits, system, registered⟩ := same alive
  refine ⟨own, traced, arrived, system, ?_⟩
  intro id
  rw [registered]
  constructor
  · exact fun present => ⟨_, (fits.faithful.mirrors.listed _ _).mpr
      ⟨rfl, of_decide_eq_true present⟩⟩
  · exact fun ⟨fd, found⟩ => decide_eq_true ((fits.faithful.mirrors.listed fd _).mp found).2

/-- In this run the first connection is destroyed and the second registered. -/
theorem server_traced_reused :
    ∃ own traced, run Traced.step (Traced.initial (server [])) own = .ok traced ∧
      traced.system.destroyed = [0] ∧ traced.registered 1 = true := by
  have computed : (run (step 3) (initial [] 3) reusedDescriptor).map (fun s =>
      (s.alive, s.life.destroyed, s.poller.channels.lookup 8)) =
        .ok (true, [0], some (.connection 1)) := by
    decide +kernel
  obtain ⟨s, reached, observed⟩ := (map_returned _ _ _).mp computed
  obtain ⟨alive, destroyed, listed⟩ : s.alive = true ∧ s.life.destroyed = [0] ∧
      s.poller.channels.lookup 8 = some (.connection 1) := by simpa using observed
  obtain ⟨own, traced, arrived, system, registered⟩ :=
    server_traced [] 3 reusedDescriptor s (by decide +kernel) reached alive
  exact ⟨own, traced, arrived, by rw [system, destroyed], (registered 1).mpr ⟨8, listed⟩⟩

end ReactorNetwork.ServerDestruction
