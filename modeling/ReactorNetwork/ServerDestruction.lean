import ReactorNetwork.ConnectionTrace
import ReactorNetwork.TcpServer
import ReactorNetwork.Epoller

/-!
# Destroying a server

A server on one loop, from its construction to its destruction between two
iterations, together with the loop's poller and the descriptors that are open.
The acceptor's channel is registered when the server starts to listen, and a
connection's channel when the connection is established; only
`connect_destoryed` removes one. The destructor of the server is the defaulted
one: it destroys the acceptor and the connections that nobody else owns, which
closes their descriptors, and says nothing to the poller.

Other components of the program share the loop before and after. They register a
channel for a descriptor the kernel has given them, which is one that is not open,
and remove the channel before they close the descriptor. Closing a descriptor
takes it out of the kernel's interest list.

`start` is called on the loop thread. A `send` of another thread tests the state and queues
`send_in_loop`, which tests nothing: the functor is a step of its own and may run whatever has
become of the connection since. A connection whose destruction has been
executed keeps its descriptor open until its last reference is dropped.
-/

namespace ReactorNetwork.ServerDestruction

open Runs ConnectionLife TcpServer

/-- The channels of one loop. -/
inductive Id where
  | acceptor
  | connection (id : Nat)
  | other (id : Nat)
deriving DecidableEq, Repr

/-- A server with the loop's poller, until its destruction and after it. -/
structure State (name : List Char) where
  life : System (server name)
  /-- The server has not been destroyed. -/
  alive : Bool
  listening : Bool
  poller : Epoller.State Id
  openFds : List Int
  /-- The connections whose last reference was dropped. -/
  dropped : List Nat
  /-- The number of channels other components have constructed. -/
  others : Nat

/-- A step of the connections, a queued send, or a call that changes who is
registered. -/
inductive Label (name : List Char) where
  | life (label : ConnectionLife.Label (server name))
  | sendInLoop (id : Nat) (message : StringView) (result : WriteResult)
  | listen
  | dropLast (id : Nat)
  | register (fd : Int)
  | update (id : Nat) (interest : Poller.Interest)
  | unregister (id : Nat)
  | destroyServer

variable {name : List Char}

/-- A server has been constructed; its channel is not registered. -/
def initial (name : List Char) (acceptorFd : Int) : State name where
  life := ConnectionLife.initial (server name)
  alive := true
  listening := false
  poller := Epoller.initial fun
    | .acceptor => acceptorFd
    | _ => 0
  openFds := [acceptorFd]
  dropped := []
  others := 0

/-- The kernel forgets descriptors that are closed. -/
def closeFds (s : State name) (closed : List Int) : State name :=
  { s with
    openFds := s.openFds.filter (fun fd => decide (fd ∉ closed))
    poller := { s.poller with
      interest := fun fd => if fd ∈ closed then none else s.poller.interest fd } }

/-- What a connection's effect does to the poller. The poller's status of the
channel is kept with the poller. -/
def pollerStep (objects : Nat → TcpConnection) (p : Epoller.State Id) :
    Nat × Effect → Outcome (Epoller.State Id)
  | (id, .updateChannel) =>
      let channel := { (objects id).channel with index := (p.objects (.connection id)).index }
      Epoller.updateChannel
        { p with objects := Poller.setChannel p.objects (.connection id) channel } (.connection id)
  | (id, .removeChannel) => Epoller.removeChannel p (.connection id)
  | _ => pure p

/-- A step of the server's connections, with its effects on the poller. -/
def perform (s : State name) (label : ConnectionLife.Label (server name)) :
    Except Failure (State name) := do
  let life ← ConnectionLife.step s.life label
  let poller ← lift ((effectsOf s.life label).foldlM (pollerStep life.objects) s.poller)
  pure { s with life := life, poller := poller }

/-- The poller reports registered channels only, `send` tests the state, and the
acceptor accepts while it listens, sockets with a descriptor that was not open. -/
def lifeStep (s : State name) :
    ConnectionLife.Label (server name) → Except Failure (State name)
  | .poll active =>
      if ∀ id ∈ active,
          s.poller.channels.lookup (s.life.objects id).channel.fd = some (.connection id) then
        perform s (.poll active)
      else .error .notEnabled
  | .send id message result =>
      if (s.life.objects id).state = .connected then perform s (.send id message result) else pure s
  | .owner accepted =>
      if s.listening = true ∧ accepted.sockFd ∉ s.openFds then do
        let entered ← perform s (.owner accepted)
        pure { entered with openFds := accepted.sockFd :: s.openFds }
      else .error .notEnabled
  | label => perform s label

/-- The descriptors the destructor closes: the acceptor's and those of the
connections in `connections_`. -/
def owned (s : State name) (acceptorFd : Int) : List Int :=
  acceptorFd :: s.life.owner.entries.map fun entry => (s.life.objects entry.2).channel.fd

/-- Whether the loop is between two iterations. -/
def betweenIterations : Phase → Bool
  | .polling => true
  | _ => false

/-- One step. -/
def step (acceptorFd : Int) (s : State name) : Label name → Except Failure (State name)
  | .life label => if s.alive then lifeStep s label else .error .notEnabled
  | .sendInLoop id message result =>
      if s.alive then perform s (.send id message result) else .error .notEnabled
  | .listen =>
      if s.alive = true ∧ s.listening = false then do
        let poller ← lift (Epoller.step s.poller (.update .acceptor .enableReading))
        pure { s with listening := true, poller := poller }
      else .error .notEnabled
  | .dropLast id =>
      if id ∈ s.life.destroyed ∧ id ∉ s.dropped then
        pure { closeFds s [(s.life.objects id).channel.fd] with dropped := id :: s.dropped }
      else .error .notEnabled
  | .register fd =>
      if fd ∉ s.openFds then do
        let created := { s.poller with
          objects := Poller.setChannel s.poller.objects (.other s.others) (Channel.create fd) }
        let poller ← lift (Epoller.step created (.update (.other s.others) .enableReading))
        pure { s with poller := poller, openFds := fd :: s.openFds, others := s.others + 1 }
      else .error .notEnabled
  | .update id interest =>
      if s.poller.channels.lookup (s.poller.objects (.other id)).fd = some (.other id) then do
        let poller ← lift (Epoller.step s.poller (.update (.other id) interest))
        pure { s with poller := poller }
      else .error .notEnabled
  | .unregister id =>
      if s.poller.channels.lookup (s.poller.objects (.other id)).fd = some (.other id) then do
        let disabled ← lift (Epoller.step s.poller (.update (.other id) .disableAll))
        let removed ← lift (Epoller.removeChannel disabled (.other id))
        pure (closeFds { s with poller := removed } [(s.poller.objects (.other id)).fd])
      else .error .notEnabled
  | .destroyServer =>
      if s.alive = true ∧ betweenIterations s.life.phase = true then
        pure { closeFds s (owned s acceptorFd) with alive := false }
      else .error .notEnabled

/-- Nothing is being dispatched or destroyed. -/
def quiet : Phase → Bool
  | .polling => true
  | .dispatching [] => true
  | .running [] => true
  | _ => false

/-- Before the server listens it has accepted nothing. -/
structure Unvisited (s : System (server name)) : Prop where
  created : s.created = 0
  pending : s.pending = []
  destroyed : s.destroyed = []
  phase : quiet s.phase = true
  connections : s.owner = (server name).initial
  objects : ∀ id, (s.objects id).state ≠ .connected

/-- The acceptor's entry is there as soon as the server listens. Until then every
entry belongs to another component, under a descriptor that is open and not the
acceptor's. -/
structure Accounted (acceptorFd : Int) (s : State name) : Prop where
  acceptor : (s.poller.objects .acceptor).fd = acceptorFd
  listed : s.listening = true → s.poller.channels.lookup acceptorFd = some .acceptor
  unvisited : s.listening = false → Unvisited s.life
  foreign : s.listening = false → ∀ fd id, s.poller.channels.lookup fd = some id →
    (∃ other, id = .other other) ∧ fd ∈ s.openFds
  reserved : s.listening = false → s.alive = true →
    acceptorFd ∈ s.openFds ∧ s.poller.channels.lookup acceptorFd = none

/-- A server that was just constructed has its descriptor reserved and nothing
registered. -/
theorem initial_accounted (name : List Char) (acceptorFd : Int) :
    Accounted acceptorFd (initial name acceptorFd) where
  acceptor := rfl
  listed := by simp [initial]
  unvisited := fun _ => ⟨rfl, rfl, rfl, rfl, rfl, fun _ => by
    simp [initial, ConnectionLife.initial, TcpConnection.create]⟩
  foreign := by simp [initial, Epoller.initial]
  reserved := by simp [initial, Epoller.initial]

/-- The poller has changed and the acceptor's channel has not. -/
structure Spares (p q : Epoller.State Id) : Prop where
  fd : (q.objects .acceptor).fd = (p.objects .acceptor).fd
  entries : ∀ fd, p.channels.lookup fd = some .acceptor → q.channels.lookup fd = some .acceptor

/-- What has not changed is spared. -/
theorem Spares.refl (p : Epoller.State Id) : Spares p p := ⟨rfl, fun _ => id⟩

/-- One step that spares the acceptor behind another. -/
theorem Spares.trans {p q r : Epoller.State Id} (first : Spares p q) (second : Spares q r) :
    Spares p r :=
  ⟨second.fd.trans first.fd, fun fd found => second.entries fd (first.entries fd found)⟩

/-- Updating another channel spares the acceptor's. -/
theorem updateChannel_spares {p q : Epoller.State Id} {id : Id} (different : .acceptor ≠ id)
    (taken : Epoller.updateChannel p id = .ok q) : Spares p q := by
  have registered := Epoller.updateChannel_registered taken
  exact ⟨registered.fds .acceptor, fun fd found => (registered.others different fd).mpr found⟩

/-- So does removing one. -/
theorem removeChannel_spares {p q : Epoller.State Id} {id : Id} (different : .acceptor ≠ id)
    (taken : Epoller.removeChannel p id = .ok q) : Spares p q := by
  have removed := Epoller.removeChannel_removed taken
  exact ⟨removed.fds .acceptor, fun fd found => (removed.others different fd).mpr found⟩

/-- Setting another channel touches neither the acceptor's nor the map. -/
theorem setChannel_spares (p : Epoller.State Id) {id : Id} (different : .acceptor ≠ id)
    (channel : Channel) :
    Spares p { p with objects := Poller.setChannel p.objects id channel } :=
  ⟨congrArg Channel.fd (Poller.setChannel_other _ _ _ _ different), fun _ found => found⟩

/-- So does every effect of a connection. -/
theorem pollerStep_spares {objects : Nat → TcpConnection} {p q : Epoller.State Id}
    {effect : Nat × Effect} (taken : pollerStep objects p effect = .ok q) : Spares p q := by
  obtain ⟨id, effect⟩ := effect
  have different : Id.acceptor ≠ .connection id := by simp
  cases effect with
  | updateChannel =>
    exact (setChannel_spares p different _).trans (updateChannel_spares different taken)
  | removeChannel => exact removeChannel_spares different taken
  | _ =>
    obtain rfl := (pure_ok _ _).mp taken
    exact Spares.refl p

/-- So do all effects of a step. -/
theorem pollerSteps_spares {objects : Nat → TcpConnection} (effects : List (Nat × Effect))
    {p q : Epoller.State Id} (taken : effects.foldlM (pollerStep objects) p = .ok q) :
    Spares p q :=
  invariant (pollerStep objects) (Spares p)
    (fun _ _ _ spared once => spared.trans (pollerStep_spares once)) effects p q (Spares.refl p)
    taken

/-- A step of the connections spares the acceptor's channel and changes neither flag. -/
theorem perform_spares {s t : State name} {label : ConnectionLife.Label (server name)}
    (taken : perform s label = .ok t) :
    Spares s.poller t.poller ∧ t.alive = s.alive ∧ t.listening = s.listening := by
  simp only [perform, bind_ok, lift_ok, pure_ok] at taken
  obtain ⟨life, _, poller, polled, rfl⟩ := taken
  exact ⟨pollerSteps_spares _ polled, rfl, rfl⟩

/-- No step of the connections touches the acceptor's channel. -/
theorem lifeStep_spares {s t : State name} {label : ConnectionLife.Label (server name)}
    (taken : lifeStep s label = .ok t) :
    Spares s.poller t.poller ∧ t.alive = s.alive ∧ t.listening = s.listening := by
  cases label with
  | poll active =>
    simp only [lifeStep] at taken
    split at taken
    · exact perform_spares taken
    · cases taken
  | send id message result =>
    simp only [lifeStep] at taken
    split at taken
    · exact perform_spares taken
    · obtain rfl := (pure_ok _ _).mp taken
      exact ⟨Spares.refl _, rfl, rfl⟩
  | owner accepted =>
    simp only [lifeStep] at taken
    split at taken
    · simp only [bind_ok, pure_ok] at taken
      obtain ⟨entered, performed, rfl⟩ := taken
      obtain ⟨spares, alive, listening⟩ := perform_spares performed
      exact ⟨spares, alive, listening⟩
    · cases taken
  | _ => exact perform_spares taken

/-- A step of connections that do not exist is a turn of the loop. -/
theorem unvisited_turn {s t : System (server name)} {label : ConnectionLife.Label (server name)}
    (unvisited : Unvisited s) (noAccept : ∀ accepted, label ≠ .owner accepted)
    (noSend : ∀ id message result, label ≠ .send id message result)
    (taken : ConnectionLife.step s label = .ok t) : Unvisited t ∧ effectsOf s label = [] := by
  obtain ⟨created, pending, destroyed, phase, connections, objects⟩ := unvisited
  cases label with
  | poll active =>
    cases at_ : s.phase with
    | polling =>
      simp only [ConnectionLife.step, at_, created] at taken
      split at taken
      · rename_i allowed
        have empty : active = [] := List.eq_nil_iff_forall_not_mem.mpr fun id member =>
          Nat.not_lt_zero id (allowed.2 id member)
        obtain rfl := (pure_ok _ _).mp taken
        exact ⟨⟨rfl, pending, destroyed, by rw [empty]; rfl, connections, objects⟩, rfl⟩
      · cases taken
    | _ => simp [ConnectionLife.step, at_] at taken
  | dispatch revents =>
    cases at_ : s.phase with
    | dispatching active =>
      cases active with
      | nil => simp [ConnectionLife.step, at_] at taken
      | cons id rest => simp [at_, quiet] at phase
    | _ => simp [ConnectionLife.step, at_] at taken
  | callback read write =>
    cases at_ : s.phase with
    | handling id revents callbacks active => simp [at_, quiet] at phase
    | _ => simp [ConnectionLife.step, at_] at taken
  | remove choice =>
    cases at_ : s.phase with
    | removing id revents callbacks active => simp [at_, quiet] at phase
    | _ => simp [ConnectionLife.step, at_] at taken
  | finishEvent =>
    cases at_ : s.phase with
    | handling id revents callbacks active => simp [at_, quiet] at phase
    | _ => simp [ConnectionLife.step, at_] at taken
  | swap =>
    cases at_ : s.phase with
    | dispatching active =>
      cases active with
      | nil =>
        simp only [ConnectionLife.step, at_, pure_ok] at taken
        subst taken
        exact ⟨⟨created, rfl, destroyed, by rw [pending]; rfl, connections, objects⟩, rfl⟩
      | cons id rest => simp [at_, quiet] at phase
    | _ => simp [ConnectionLife.step, at_] at taken
  | runFunctor =>
    cases at_ : s.phase with
    | running batch =>
      cases batch with
      | nil => simp [ConnectionLife.step, at_] at taken
      | cons id rest => simp [at_, quiet] at phase
    | _ => simp [ConnectionLife.step, at_] at taken
  | finishFunctors =>
    cases at_ : s.phase with
    | running batch =>
      cases batch with
      | nil =>
        simp only [ConnectionLife.step, at_, pure_ok] at taken
        subst taken
        exact ⟨⟨created, pending, destroyed, rfl, connections, objects⟩, rfl⟩
      | cons id rest => simp [at_, quiet] at phase
    | _ => simp [ConnectionLife.step, at_] at taken
  | shutdown id => simp [ConnectionLife.step, created] at taken
  | send id message result => exact absurd rfl (noSend id message result)
  | owner accepted => exact absurd rfl (noAccept accepted)

/-- Without connections a step of the loop tells the poller nothing. -/
theorem perform_unvisited {s t : State name} {label : ConnectionLife.Label (server name)}
    (unvisited : Unvisited s.life) (noAccept : ∀ accepted, label ≠ .owner accepted)
    (noSend : ∀ id message result, label ≠ .send id message result)
    (taken : perform s label = .ok t) :
    Unvisited t.life ∧ t.poller = s.poller ∧ t.openFds = s.openFds := by
  simp only [perform, bind_ok, lift_ok, pure_ok] at taken
  obtain ⟨life, moved, poller, polled, rfl⟩ := taken
  obtain ⟨still, silent⟩ := unvisited_turn unvisited noAccept noSend moved
  rw [silent] at polled
  obtain rfl := (pure_ok _ _).mp polled
  exact ⟨still, rfl, rfl⟩

/-- Until the server listens its connections leave the poller alone. -/
theorem lifeStep_unvisited {s t : State name} {label : ConnectionLife.Label (server name)}
    (unvisited : Unvisited s.life) (deaf : s.listening = false)
    (taken : lifeStep s label = .ok t) :
    Unvisited t.life ∧ t.poller = s.poller ∧ t.openFds = s.openFds := by
  cases label with
  | poll active =>
    simp only [lifeStep] at taken
    split at taken
    · exact perform_unvisited unvisited (by simp) (by simp) taken
    · cases taken
  | send id message result =>
    simp only [lifeStep] at taken
    rw [if_neg (unvisited.objects id)] at taken
    obtain rfl := (pure_ok _ _).mp taken
    exact ⟨unvisited, rfl, rfl⟩
  | owner accepted => simp [lifeStep, deaf] at taken
  | _ => exact perform_unvisited unvisited (by simp) (by simp) taken

variable {acceptorFd : Int} {s t : State name}

/-- A step that spares the acceptor keeps the account of a server that listens. -/
theorem listening_accounted (accounted : Accounted acceptorFd s) (listens : s.listening = true)
    (same : t.listening = s.listening) (spares : Spares s.poller t.poller) :
    Accounted acceptorFd t := by
  have hears : t.listening ≠ false := by
    rw [same, listens]
    decide
  exact ⟨spares.fd.trans accounted.acceptor,
    fun _ => spares.entries acceptorFd (accounted.listed listens), fun deaf => absurd deaf hears,
    fun deaf => absurd deaf hears, fun deaf => absurd deaf hears⟩

/-- Every step of the connections keeps the account. -/
theorem life_accounted (accounted : Accounted acceptorFd s)
    (label : ConnectionLife.Label (server name)) (taken : lifeStep s label = .ok t) :
    Accounted acceptorFd t := by
  obtain ⟨spares, alive, listening⟩ := lifeStep_spares taken
  rcases Bool.eq_false_or_eq_true s.listening with listens | listens
  · exact listening_accounted accounted listens listening spares
  · obtain ⟨unvisited, poller, fds⟩ :=
      lifeStep_unvisited (accounted.unvisited listens) listens taken
    refine ⟨poller ▸ accounted.acceptor, ?_, fun _ => unvisited, ?_, ?_⟩
    · intro hears
      rw [listening, listens] at hears
      cases hears
    · intro _
      rw [poller, fds]
      exact accounted.foreign listens
    · intro _ lives
      rw [poller, fds]
      exact accounted.reserved listens (alive.symm.trans lives)

/-- Another component's channel is registered or its interest changed: what
becomes of the account of a server that does not listen. -/
theorem registered_accounted (accounted : Accounted acceptorFd s) (deaf : s.listening = false)
    {p q : Epoller.State Id} {id : Nat} {fds : List Int}
    (registered : Epoller.Registered p q (.other id))
    (acceptor : p.objects .acceptor = s.poller.objects .acceptor)
    (channels : p.channels = s.poller.channels)
    (opened : (p.objects (.other id)).fd ∈ fds) (still : ∀ fd ∈ s.openFds, fd ∈ fds)
    (away : s.alive = true → (p.objects (.other id)).fd ≠ acceptorFd) (others : Nat) :
    Accounted acceptorFd { s with poller := q, openFds := fds, others := others } where
  acceptor := by
    rw [← accounted.acceptor, ← acceptor]
    exact registered.fds .acceptor
  listed := by
    intro hears
    cases deaf.symm.trans hears
  unvisited := accounted.unvisited
  foreign := by
    intro _ fd found present
    have entry := registered.entries fd
    by_cases own : fd = (p.objects (.other id)).fd
    · rw [if_pos own] at entry
      exact ⟨⟨id, Option.some.inj (present.symm.trans entry)⟩, own ▸ opened⟩
    · rw [if_neg own, channels] at entry
      obtain ⟨other, known⟩ := accounted.foreign deaf fd found (entry.symm.trans present)
      exact ⟨other, still fd known⟩
  reserved := by
    intro _ lives
    obtain ⟨open_, free⟩ := accounted.reserved deaf lives
    refine ⟨still _ open_, ?_⟩
    rw [registered.entries, if_neg (Ne.symm (away lives)), channels]
    exact free

/-- A change of interest keeps the descriptor. -/
theorem apply_fd (interest : Poller.Interest) (c : Channel) : (interest.apply c).fd = c.fd := by
  cases interest <;> rfl

/-- A change of interest, as an update of the changed channel. -/
theorem update_registered {p q : Epoller.State Id} {id : Id} {interest : Poller.Interest}
    (taken : Epoller.step p (.update id interest) = .ok q) :
    Epoller.Registered
      { p with objects := Poller.setChannel p.objects id (interest.apply (p.objects id)) } q id ∧
    (Poller.setChannel p.objects id (interest.apply (p.objects id)) id).fd = (p.objects id).fd := by
  refine ⟨Epoller.updateChannel_registered taken, ?_⟩
  rw [Poller.setChannel_same]
  exact apply_fd interest _

/-- Other components change the interest of their own channels only. -/
theorem update_spares {p q : Epoller.State Id} {id : Nat} {interest : Poller.Interest}
    (taken : Epoller.step p (.update (.other id) interest) = .ok q) : Spares p q := by
  have different : Id.acceptor ≠ .other id := by simp
  exact (setChannel_spares p different _).trans (updateChannel_spares different taken)

/-- Listening registers the acceptor's channel under its descriptor. -/
theorem listen_accounted (accounted : Accounted acceptorFd s) {poller : Epoller.State Id}
    (taken : Epoller.step s.poller (.update .acceptor .enableReading) = .ok poller) :
    Accounted acceptorFd { s with listening := true, poller := poller } := by
  obtain ⟨registered, fd⟩ := update_registered taken
  have own := fd.trans accounted.acceptor
  refine ⟨(registered.fds .acceptor).trans own, ?_, by simp, by simp, by simp⟩
  intro _
  exact (registered.entries acceptorFd).trans (if_pos own.symm)

/-- A channel that another component registers has a descriptor that was not open, so it
is not the acceptor's. -/
theorem register_accounted (accounted : Accounted acceptorFd s) {fd : Int}
    (free : fd ∉ s.openFds) {poller : Epoller.State Id}
    (taken : Epoller.step { s.poller with
        objects := Poller.setChannel s.poller.objects (.other s.others) (Channel.create fd) }
      (.update (.other s.others) .enableReading) = .ok poller) (others : Nat) :
    Accounted acceptorFd
      { s with poller := poller, openFds := fd :: s.openFds, others := others } := by
  have different : Id.acceptor ≠ .other s.others := by simp
  rcases Bool.eq_false_or_eq_true s.listening with listens | listens
  · exact listening_accounted accounted listens rfl
      ((setChannel_spares s.poller different _).trans (update_spares taken))
  · obtain ⟨registered, own⟩ := update_registered taken
    have created : (Poller.setChannel s.poller.objects (.other s.others) (Channel.create fd)
        (.other s.others)).fd = fd := by
      rw [Poller.setChannel_same]
      rfl
    have fdOf := own.trans created
    refine registered_accounted accounted listens registered ?_ rfl ?_ ?_ ?_ others
    · simp [Poller.setChannel]
    · exact List.mem_cons.mpr (Or.inl fdOf)
    · exact fun other open_ => List.mem_cons_of_mem _ open_
    · intro lives same
      exact free ((fdOf.symm.trans same) ▸ (accounted.reserved listens lives).1)

/-- The descriptor of another component's entry is open, and not the acceptor's
while the server exists and does not listen. -/
theorem known_fd (accounted : Accounted acceptorFd s) (deaf : s.listening = false) {fd : Int}
    {id : Id} (known : s.poller.channels.lookup fd = some id) :
    fd ∈ s.openFds ∧ (s.alive = true → fd ≠ acceptorFd) := by
  refine ⟨(accounted.foreign deaf fd id known).2, ?_⟩
  intro lives same
  have free := (accounted.reserved deaf lives).2
  rw [← same, known] at free
  cases free

/-- A change of interest keeps entries under the descriptors they had. -/
theorem update_accounted (accounted : Accounted acceptorFd s) {id : Nat}
    {interest : Poller.Interest} {poller : Epoller.State Id}
    (known : s.poller.channels.lookup (s.poller.objects (.other id)).fd = some (.other id))
    (taken : Epoller.step s.poller (.update (.other id) interest) = .ok poller) :
    Accounted acceptorFd { s with poller := poller } := by
  rcases Bool.eq_false_or_eq_true s.listening with listens | listens
  · exact listening_accounted accounted listens rfl (update_spares taken)
  · obtain ⟨registered, own⟩ := update_registered taken
    obtain ⟨open_, away⟩ := known_fd accounted listens known
    refine registered_accounted accounted listens registered ?_ rfl ?_ (fun _ known => known) ?_
      s.others
    · simp [Poller.setChannel]
    · exact own ▸ open_
    · intro lives
      exact own ▸ away lives

/-- Closing descriptors leaves the map alone. -/
theorem closeFds_spares (s : State name) (closed : List Int) :
    Spares s.poller (closeFds s closed).poller := ⟨rfl, fun _ found => found⟩

/-- Closing descriptors that no entry is kept under. -/
theorem close_accounted (accounted : Accounted acceptorFd s) (deaf : s.listening = false)
    {closed : List Int} (unlisted : ∀ fd ∈ closed, s.poller.channels.lookup fd = none)
    (reserved : s.alive = true → acceptorFd ∉ closed) :
    Accounted acceptorFd (closeFds s closed) where
  acceptor := accounted.acceptor
  listed := accounted.listed
  unvisited := accounted.unvisited
  foreign := by
    intro _ fd id present
    obtain ⟨other, open_⟩ := accounted.foreign deaf fd id present
    refine ⟨other, List.mem_filter.mpr ⟨open_, decide_eq_true ?_⟩⟩
    intro member
    cases (unlisted fd member).symm.trans present
  reserved := by
    intro _ lives
    obtain ⟨open_, free⟩ := accounted.reserved deaf lives
    exact ⟨List.mem_filter.mpr ⟨open_, decide_eq_true (reserved lives)⟩, free⟩

/-- A component that removes its channel and closes the descriptor leaves no entry of
it. -/
theorem unregister_accounted (accounted : Accounted acceptorFd s) {id : Nat}
    {removed : Epoller.State Id}
    (known : s.poller.channels.lookup (s.poller.objects (.other id)).fd = some (.other id))
    (taken : Epoller.removeChannel s.poller (.other id) = .ok removed) :
    Accounted acceptorFd
      (closeFds { s with poller := removed } [(s.poller.objects (.other id)).fd]) := by
  have different : Id.acceptor ≠ .other id := by simp
  have spares := removeChannel_spares different taken
  have gone := Epoller.removeChannel_removed taken
  rcases Bool.eq_false_or_eq_true s.listening with listens | listens
  · exact listening_accounted accounted listens rfl
      (spares.trans (closeFds_spares { s with poller := removed } _))
  · obtain ⟨-, away⟩ := known_fd accounted listens known
    have fewer : ∀ fd found, removed.channels.lookup fd = some found →
        s.poller.channels.lookup fd = some found := by
      intro fd found present
      rw [gone.entries] at present
      split at present
      · cases present
      · exact present
    have after : Accounted acceptorFd { s with poller := removed } := by
      refine ⟨spares.fd.trans accounted.acceptor, ?_, accounted.unvisited, ?_, ?_⟩
      · intro hears
        cases listens.symm.trans hears
      · intro _ fd found present
        exact accounted.foreign listens fd found (fewer fd found present)
      · intro _ lives
        obtain ⟨open_, free⟩ := accounted.reserved listens lives
        refine ⟨open_, ?_⟩
        rw [gone.entries]
        split
        · rfl
        · exact free
    refine close_accounted after listens ?_ ?_
    · intro fd member
      rw [List.mem_singleton.mp member]
      exact (gone.entries _).trans (if_pos rfl)
    · intro lives member
      exact away lives (List.mem_singleton.mp member).symm

/-- The destruction closes descriptors and leaves the map as it is. -/
theorem destroy_accounted (accounted : Accounted acceptorFd s) (lives : s.alive = true) :
    Accounted acceptorFd { closeFds s (owned s acceptorFd) with alive := false } := by
  rcases Bool.eq_false_or_eq_true s.listening with listens | listens
  · exact listening_accounted accounted listens rfl (closeFds_spares s _)
  · have alone : owned s acceptorFd = [acceptorFd] := by
      rw [owned, (accounted.unvisited listens).connections]
      rfl
    have free := (accounted.reserved listens lives).2
    have dead : Accounted acceptorFd { s with alive := false } :=
      ⟨accounted.acceptor, accounted.listed, accounted.unvisited, accounted.foreign, by simp⟩
    rw [alone]
    exact close_accounted dead listens
      (fun fd member => by rw [List.mem_singleton.mp member]; exact free) (by simp)

/-- A queued `send_in_loop` is for a connection that was established, so the server
listens. -/
theorem sendInLoop_accounted (accounted : Accounted acceptorFd s) {id : Nat} {message : StringView}
    {result : WriteResult} (taken : perform s (.send id message result) = .ok t) :
    Accounted acceptorFd t := by
  obtain ⟨spares, _, listening⟩ := perform_spares taken
  rcases Bool.eq_false_or_eq_true s.listening with listens | deaf
  · exact listening_accounted accounted listens listening spares
  · obtain ⟨life, sent, _⟩ := (bind_ok _ _ _).mp taken
    simp [ConnectionLife.step, (accounted.unvisited deaf).created] at sent

/-- Every step keeps the account. -/
theorem step_accounted (label : Label name) (accounted : Accounted acceptorFd s)
    (taken : step acceptorFd s label = .ok t) : Accounted acceptorFd t := by
  cases label with
  | life label =>
    simp only [step] at taken
    split at taken
    · exact life_accounted accounted label taken
    · cases taken
  | sendInLoop id message result =>
    simp only [step] at taken
    split at taken
    · exact sendInLoop_accounted accounted taken
    · cases taken
  | listen =>
    simp only [step] at taken
    split at taken
    · simp only [bind_ok, lift_ok, pure_ok] at taken
      obtain ⟨poller, updated, rfl⟩ := taken
      exact listen_accounted accounted updated
    · cases taken
  | dropLast id =>
    simp only [step] at taken
    split at taken
    · rename_i destroyed
      obtain rfl := (pure_ok _ _).mp taken
      rcases Bool.eq_false_or_eq_true s.listening with listens | listens
      · exact listening_accounted accounted listens rfl (closeFds_spares s _)
      · rw [(accounted.unvisited listens).destroyed] at destroyed
        cases destroyed.1
    · cases taken
  | register fd =>
    simp only [step] at taken
    split at taken
    · rename_i free
      simp only [bind_ok, lift_ok, pure_ok] at taken
      obtain ⟨poller, updated, rfl⟩ := taken
      exact register_accounted accounted free updated _
    · cases taken
  | update id interest =>
    simp only [step] at taken
    split at taken
    · rename_i known
      simp only [bind_ok, lift_ok, pure_ok] at taken
      obtain ⟨poller, updated, rfl⟩ := taken
      exact update_accounted accounted known updated
    · cases taken
  | unregister id =>
    simp only [step] at taken
    split at taken
    · rename_i known
      simp only [bind_ok, lift_ok, pure_ok] at taken
      obtain ⟨disabled, updated, removed, erased, rfl⟩ := taken
      have after := update_accounted accounted known updated
      obtain ⟨registered, own⟩ := update_registered updated
      have fd : (disabled.objects (.other id)).fd = (s.poller.objects (.other id)).fd :=
        (registered.fds (.other id)).trans own
      have still : disabled.channels.lookup (disabled.objects (.other id)).fd = some (.other id) :=
        (registered.entries _).trans (if_pos (registered.fds (.other id)))
      have gone := unregister_accounted after still erased
      rw [fd] at gone
      exact gone
    · cases taken
  | destroyServer =>
    simp only [step] at taken
    split at taken
    · rename_i between
      obtain rfl := (pure_ok _ _).mp taken
      exact destroy_accounted accounted between.1
    · cases taken

/-- After the server is gone no entry of its channels is left, whatever happens
later, and a channel for a descriptor that is not open can always be
registered. -/
def LeavesNothing (acceptorFd : Int) (s : State name) : Prop :=
  ∀ later t, run (step acceptorFd) s later = .ok t →
    (∀ fd id, t.poller.channels.lookup fd = some id → ∃ other, id = .other other) ∧
    ∀ fd, fd ∉ t.openFds → ∃ u, step acceptorFd t (.register fd) = .ok u

/-- A channel registers under a descriptor the map does not hold. -/
theorem register_returns (fd : Int) (closed : fd ∉ s.openFds)
    (free : s.poller.channels.lookup fd = none) :
    ∃ u, step acceptorFd s (.register fd) = .ok u := by
  have created : Poller.setChannel (Poller.setChannel s.poller.objects (.other s.others)
      (Channel.create fd)) (.other s.others) (Poller.Interest.enableReading.apply
        (Poller.setChannel s.poller.objects (.other s.others) (Channel.create fd)
          (.other s.others))) (.other s.others) = (Channel.create fd).enableReading := by
    rw [Poller.setChannel_same, Poller.setChannel_same]
    rfl
  obtain ⟨poller, updated⟩ : ∃ poller, Epoller.step { s.poller with
      objects := Poller.setChannel s.poller.objects (.other s.others) (Channel.create fd) }
      (.update (.other s.others) .enableReading) = .ok poller := by
    apply Epoller.updateChannel_new
    · exact congrArg Channel.index created
    · exact (congrArg (fun c : Channel => s.poller.channels.lookup c.fd) created).trans free
  refine ⟨{ s with poller := poller, openFds := fd :: s.openFds, others := s.others + 1 }, ?_⟩
  simp only [step, if_pos closed, bind_ok, lift_ok]
  exact ⟨poller, updated, rfl⟩

/-- Once the server is gone it does not start to listen. -/
theorem step_deaf (label : Label name) (gone : s.alive = false ∧ s.listening = false)
    (taken : step acceptorFd s label = .ok t) : t.alive = false ∧ t.listening = false := by
  obtain ⟨dead, deaf⟩ := gone
  cases label with
  | life label => simp [step, dead] at taken
  | sendInLoop id message result => simp [step, dead] at taken
  | listen => simp [step, dead] at taken
  | destroyServer => simp [step, dead] at taken
  | dropLast id =>
    simp only [step] at taken
    split at taken
    · obtain rfl := (pure_ok _ _).mp taken
      exact ⟨dead, deaf⟩
    · cases taken
  | register fd | update id interest =>
    simp only [step] at taken
    split at taken
    · simp only [bind_ok, pure_ok] at taken
      obtain ⟨_, _, rfl⟩ := taken
      exact ⟨dead, deaf⟩
    · cases taken
  | unregister id =>
    simp only [step] at taken
    split at taken
    · simp only [bind_ok, pure_ok] at taken
      obtain ⟨_, _, _, _, rfl⟩ := taken
      exact ⟨dead, deaf⟩
    · cases taken

/-- A server destroyed between two iterations, in any state it can reach, leaves
nothing behind exactly when it never listened.

Proof: the acceptor's entry is made when the server starts to listen and no step
takes it away, so it is there after the destruction. A server that does not listen
has accepted nothing, so that every entry belongs to another component and is kept
under an open descriptor, before the destruction and ever after. -/
theorem destroyed_leaves_nothing_iff (name : List Char) (acceptorFd : Int)
    (labels : List (Label name)) (s t : State name)
    (reached : run (step acceptorFd) (initial name acceptorFd) labels = .ok s)
    (destroyed : step acceptorFd s .destroyServer = .ok t) :
    LeavesNothing acceptorFd t ↔ s.listening = false := by
  have accounted : Accounted acceptorFd s := invariant (step acceptorFd) (Accounted acceptorFd)
    (fun _ label _ holds taken => step_accounted label holds taken) labels _ s
    (initial_accounted name acceptorFd) reached
  have after := step_accounted .destroyServer accounted destroyed
  have same : t.alive = false ∧ t.listening = s.listening := by
    simp only [step] at destroyed
    split at destroyed
    · obtain rfl := (pure_ok _ _).mp destroyed
      exact ⟨rfl, rfl⟩
    · cases destroyed
  constructor
  · intro nothing
    by_contra listens
    have hears : t.listening = true := same.2.trans (Bool.not_eq_false _ ▸ listens)
    obtain ⟨_, foreign⟩ := (nothing [] t rfl).1 acceptorFd .acceptor (after.listed hears)
    cases foreign
  · intro deaf later u continued
    have still : Accounted acceptorFd u ∧ u.alive = false ∧ u.listening = false :=
      invariant (step acceptorFd)
        (fun v => Accounted acceptorFd v ∧ v.alive = false ∧ v.listening = false)
        (fun _ label _ holds taken =>
          ⟨step_accounted label holds.1 taken, step_deaf label holds.2 taken⟩)
        later t u ⟨after, same.1, same.2.trans deaf⟩ continued
    obtain ⟨kept, _, silent⟩ := still
    refine ⟨fun fd id present => (kept.foreign silent fd id present).1, ?_⟩
    intro fd closed
    apply register_returns fd closed
    cases found : u.poller.channels.lookup fd with
    | none => rfl
    | some id => exact absurd (kept.foreign silent fd id found).2 closed

/-- A server that was never started, beside another component. -/
def neverStarted : List (Label []) := [.register 9, .update 0 .enableWriting]

/-- A server that was never started is destroyed beside another component and leaves
nothing. -/
theorem destroyed_leaves_nothing_neverStarted :
    ∃ s t : State [], run (step 3) (initial [] 3) neverStarted = .ok s ∧
      step 3 s .destroyServer = .ok t ∧ s.listening = false ∧ LeavesNothing 3 t := by
  have computed : (run (step 3) (initial [] 3) neverStarted).map State.listening =
      .ok false := by decide +kernel
  have gone : (run (step 3) (initial [] 3) (neverStarted ++ [.destroyServer])).map
      (fun _ => ()) = .ok () := by decide +kernel
  obtain ⟨s, before, computed⟩ := (map_returned _ _ _).mp computed
  rw [run_reached _ before, run_single] at gone
  obtain ⟨t, destroyed, _⟩ := (map_returned _ _ _).mp gone
  exact ⟨s, t, before, destroyed, computed,
    (destroyed_leaves_nothing_iff [] 3 neverStarted s t before destroyed).mpr computed⟩

/-- The server listens and has one connection when it is destroyed. -/
def startedAndDestroyed : List (Label []) :=
  [.listen, .life (.owner ⟨8, false⟩), .destroyServer]

/-- The entries of the acceptor and of the connection are still there, both
descriptors are free, and a channel for either fails the assert. -/
theorem destroyed_leaves_entries :
    ∃ t : State [], run (step 3) (initial [] 3) startedAndDestroyed = .ok t ∧
      t.alive = false ∧ t.openFds = [] ∧
      t.poller.channels.lookup 3 = some .acceptor ∧
      t.poller.channels.lookup 8 = some (.connection 0) ∧
      run (step 3) t [.register 3] = .error (.fault .assertion) ∧
      run (step 3) t [.register 8] = .error (.fault .assertion) ∧ ¬ LeavesNothing 3 t := by
  have computed : (run (step 3) (initial [] 3) startedAndDestroyed).map (fun t =>
      (t.alive, t.openFds, t.poller.channels.lookup 3, t.poller.channels.lookup 8)) =
        .ok (false, [], some .acceptor, some (.connection 0)) := by decide +kernel
  have first : (run (step 3) (initial [] 3) (startedAndDestroyed ++ [.register 3])).map
      (fun _ => ()) = .error (.fault .assertion) := by decide +kernel
  have second : (run (step 3) (initial [] 3) (startedAndDestroyed ++ [.register 8])).map
      (fun _ => ()) = .error (.fault .assertion) := by decide +kernel
  obtain ⟨t, reached, computed⟩ := (map_returned _ _ _).mp computed
  simp only [Prod.mk.injEq] at computed
  obtain ⟨dead, closed, acceptor, connection⟩ := computed
  have refused : ∀ fd, (run (step 3) (initial [] 3) (startedAndDestroyed ++ [.register fd])).map
      (fun _ => ()) = .error (.fault .assertion) →
      run (step 3) t [.register fd] = .error (.fault .assertion) := by
    intro fd failed
    rw [run_reached _ reached] at failed
    exact (map_failed _ _ _).mp failed
  refine ⟨t, reached, dead, closed, acceptor, connection, refused 3 first, refused 8 second, ?_⟩
  intro nothing
  obtain ⟨_, foreign⟩ := (nothing [] t rfl).1 3 .acceptor acceptor
  cases foreign

end ReactorNetwork.ServerDestruction
