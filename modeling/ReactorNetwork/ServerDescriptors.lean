import ReactorNetwork.FunctorOwners
import ReactorNetwork.ReusedDescriptors
import ReactorNetwork.ServerDestruction

/-!
# The descriptors of a server

The channels of a server and of other components of its loop, over one table of open
descriptors. Each of them that is alive stands for a descriptor that belongs to no other: the
acceptor's for the listening socket, a connection's from its establishment until the last
reference is dropped, another component's as long as it is registered.

On this rests that the poller and the connections fit: what a step of the connections asks of
the poller passes its asserts, and leaves each connection that is not destroyed in the map, with
the interest its own channel says.
-/

namespace ReactorNetwork.ServerDestruction

open Runs ConnectionLife TcpServer TcpConnection

/-- What a function of a connection does to its channel: the descriptor stays, and the
poller is told of a change. -/
structure Told (before after : TcpConnection) (effects : List Effect) : Prop where
  fd : after.channel.fd = before.channel.fd
  silent : Effect.updateChannel ∉ effects → after.channel = before.channel

/-- A `send_in_loop` tells the poller of every change of interest. -/
theorem sendInLoop_told {c after : TcpConnection} {message : StringView} {result : WriteResult}
    {effects : List Effect} (returned : c.sendInLoop message result = .ok (after, effects)) :
    Told c after effects := by
  unfold sendInLoop at returned
  generalize c.writeDirectly message.bytes result = written at returned
  simp only at returned
  split at returned
  · obtain ⟨buffered, _, continued⟩ := (bind_ok _ _ _).mp returned
    split at continued
    · obtain ⟨rfl, rfl⟩ := Prod.mk.inj ((pure_ok _ _).mp continued)
      exact ⟨rfl, fun _ => rfl⟩
    · obtain ⟨rfl, rfl⟩ := Prod.mk.inj ((pure_ok _ _).mp continued)
      exact ⟨rfl, fun untold => absurd (List.mem_append_right _ List.mem_cons_self) untold⟩
  · obtain ⟨rfl, rfl⟩ := Prod.mk.inj ((pure_ok _ _).mp returned)
    exact ⟨rfl, fun _ => rfl⟩

/-- So does a flush. -/
theorem handleWrite_told {c after : TcpConnection} {result : WriteResult} {effects : List Effect}
    (returned : c.handleWrite result = .ok (after, effects)) : Told c after effects := by
  unfold handleWrite at returned
  split at returned
  · obtain ⟨offered, _, continued⟩ := (bind_ok _ _ _).mp returned
    split at continued
    · obtain ⟨rest, _, finished⟩ := (bind_ok _ _ _).mp continued
      split at finished
      · obtain ⟨rfl, rfl⟩ := Prod.mk.inj ((pure_ok _ _).mp finished)
        exact ⟨rfl, fun untold => absurd (by simp) untold⟩
      · obtain ⟨rfl, rfl⟩ := Prod.mk.inj ((pure_ok _ _).mp finished)
        exact ⟨rfl, fun _ => rfl⟩
    · obtain ⟨rfl, rfl⟩ := Prod.mk.inj ((pure_ok _ _).mp continued)
      exact ⟨rfl, fun _ => rfl⟩
  · obtain ⟨rfl, rfl⟩ := Prod.mk.inj ((pure_ok _ _).mp returned)
    exact ⟨rfl, fun _ => rfl⟩

/-- So does a close. -/
theorem handleClose_told {c after : TcpConnection} {effects : List Effect}
    (returned : c.handleClose = .ok (after, effects)) : Told c after effects := by
  obtain ⟨_, same⟩ := (handleClose_ok _ _).mp returned
  obtain ⟨rfl, rfl⟩ := Prod.mk.inj same
  exact ⟨rfl, fun untold => absurd List.mem_cons_self untold⟩

/-- So does every callback of the connection. -/
theorem handle_told {c after : TcpConnection} {callback : Callback} {read : ReadvResult}
    {write : WriteResult} {effects : List Effect}
    (returned : handle c callback read write = .ok (after, effects)) : Told c after effects := by
  cases callback with
  | close => exact handleClose_told ((asserted_ok _ _ _).mp returned)
  | error =>
    obtain ⟨rfl, rfl⟩ := Prod.mk.inj ((pure_ok _ _).mp returned)
    exact ⟨rfl, fun _ => rfl⟩
  | read =>
    obtain ⟨⟨filled, n⟩, _, continued⟩ := (bind_ok _ _ _).mp ((lift_ok _ _).mp returned)
    simp only at continued
    split at continued
    · obtain ⟨fd, silent⟩ := handleClose_told continued
      exact ⟨fd, silent⟩
    · obtain ⟨rfl, rfl⟩ := Prod.mk.inj ((pure_ok _ _).mp continued)
      exact ⟨rfl, fun _ => rfl⟩
    · obtain ⟨rfl, rfl⟩ := Prod.mk.inj ((pure_ok _ _).mp continued)
      exact ⟨rfl, fun _ => rfl⟩
  | write => exact handleWrite_told ((lift_ok _ _).mp returned)

/-- The poller has a channel in its map, with the descriptor and the interest the channel
itself has. -/
structure Follows (known own : Channel) : Prop where
  fd : known.fd = own.fd
  events : known.events = own.events
  listed : known.index ≠ Epoller.kNew

section Effects

variable {p : Epoller.State Id} {id : Nat}

/-- An update a connection asks for is never refused. -/
theorem update_told (objects : Nat → TcpConnection) (faithful : Epoller.Faithful p)
    (same : (p.objects (.connection id)).index ≠ Epoller.kNew →
      (p.objects (.connection id)).fd = (objects id).channel.fd)
    (free : (p.objects (.connection id)).index = Epoller.kNew →
      p.channels.lookup (objects id).channel.fd = none) :
    ∃ q, pollerStep objects p (id, .updateChannel) = .ok q ∧ Epoller.Faithful q ∧
      (∀ other, other ≠ .connection id → q.objects other = p.objects other) ∧
      Follows (q.objects (.connection id)) (objects id).channel := by
  obtain ⟨q, updated, kept, changed⟩ := faithful.update (.connection id)
    { (objects id).channel with index := (p.objects (.connection id)).index } rfl same free
  refine ⟨q, updated, kept, ?_, ?_⟩
  · intro other different
    rw [changed, Poller.setChannel_other _ _ _ _ different]
  · rw [changed, Poller.setChannel_same]
    refine ⟨rfl, rfl, ?_⟩
    simp only [Epoller.nextIndex]
    split <;> decide

/-- What the poller makes of the effects of one connection that do not remove its
channel. -/
theorem effects_told (objects : Nat → TcpConnection) (effects : List Effect)
    (stays : Effect.removeChannel ∉ effects)
    (faithful : Epoller.Faithful p)
    (same : (p.objects (.connection id)).index ≠ Epoller.kNew →
      (p.objects (.connection id)).fd = (objects id).channel.fd)
    (free : (p.objects (.connection id)).index = Epoller.kNew →
      p.channels.lookup (objects id).channel.fd = none) :
    ∃ q, (effects.map fun effect => (id, effect)).foldlM (pollerStep objects) p = .ok q ∧
      Epoller.Faithful q ∧ (∀ other, other ≠ .connection id → q.objects other = p.objects other) ∧
      (Effect.updateChannel ∈ effects → Follows (q.objects (.connection id)) (objects id).channel) ∧
      (Effect.updateChannel ∉ effects →
        q.objects (.connection id) = p.objects (.connection id)) := by
  induction effects generalizing p with
  | nil => exact ⟨p, rfl, faithful, fun _ _ => rfl, by simp, fun _ => rfl⟩
  | cons effect rest inductionHypothesis =>
    have stays' : Effect.removeChannel ∉ rest := fun member => stays (List.mem_cons_of_mem _ member)
    by_cases update : effect = .updateChannel
    · subst update
      obtain ⟨middle, updated, kept, others, follows⟩ := update_told objects faithful same free
      obtain ⟨q, finished, settled, unmoved, told, untold⟩ := inductionHypothesis stays' kept
        (fun _ => follows.fd) (fun new => absurd new follows.listed)
      refine ⟨q, ?_, settled, ?_, ?_, ?_⟩
      · rw [List.map_cons, List.foldlM_cons, updated]
        exact finished
      · exact fun other different => (unmoved other different).trans (others other different)
      · intro _
        by_cases again : Effect.updateChannel ∈ rest
        · exact told again
        · rw [untold again]
          exact follows
      · exact fun absent => absurd List.mem_cons_self absent
    · have passed : pollerStep objects p (id, effect) = .ok p := by
        cases effect with
        | updateChannel => exact absurd rfl update
        | removeChannel => exact absurd List.mem_cons_self stays
        | _ => rfl
      obtain ⟨q, finished, settled, unmoved, told, untold⟩ :=
        inductionHypothesis stays' faithful same free
      refine ⟨q, ?_, settled, unmoved, ?_, ?_⟩
      · rw [List.map_cons, List.foldlM_cons, passed]
        exact finished
      · intro member
        exact told ((List.mem_cons.mp member).resolve_left (Ne.symm update))
      · exact fun absent => untold fun member => absent (List.mem_cons_of_mem _ member)

end Effects

variable {name : List Char} {acceptorFd : Int} {s t : State name}

/-- What the traced connections see of the poller. -/
def seen (s : State name) : Traced (server name) where
  system := s.life
  registered := fun id => decide ((s.poller.objects (.connection id)).index ≠ Epoller.kNew)
  heard := []

/-- The open descriptor a channel stands for. That of a connection is open until the last
reference is dropped, and that of another component as long as its channel is
registered. -/
def descriptor (acceptorFd : Int) (s : State name) : Id → Option Int
  | .acceptor => some acceptorFd
  | .connection id =>
      if id < s.life.created ∧ id ∉ s.dropped then some (s.life.objects id).channel.fd else none
  | .other id =>
      if (s.poller.objects (.other id)).index ≠ Epoller.kNew then
        some (s.poller.objects (.other id)).fd
      else none

/-- Every descriptor is open, and none belongs to two channels. -/
structure Held (acceptorFd : Int) (s : State name) : Prop where
  opened : ∀ id fd, descriptor acceptorFd s id = some fd → fd ∈ s.openFds
  unique : ∀ left right fd, descriptor acceptorFd s left = some fd →
    descriptor acceptorFd s right = some fd → left = right

/-- The poller and the connections of a server that exists. -/
structure Fits (acceptorFd : Int) (s : State name) : Prop where
  faithful : Epoller.Faithful s.poller
  placed : QueuedCalls.Placed s.life
  apart : Apart (seen s)
  follows : ∀ id < s.life.created, id ∉ s.life.destroyed →
    Follows (s.poller.objects (.connection id)) (s.life.objects id).channel
  held : Held acceptorFd s
  dropped : ∀ id ∈ s.dropped, id ∈ s.life.destroyed
  acceptor : (s.poller.objects .acceptor).fd = acceptorFd
  fresh : ∀ id, s.others ≤ id → (s.poller.objects (.other id)).index = Epoller.kNew

/-- Before the server listens the poller is empty. -/
theorem initial_fits (name : List Char) (acceptorFd : Int) :
    Fits acceptorFd (initial name acceptorFd) where
  faithful := by
    refine ⟨?_, fun _ deleted => by cases deleted⟩
    have mirrors :=
      Epoller.initial_mirrors fun id => ((initial name acceptorFd).poller.objects id).fd
    exact ⟨fun _ => rfl, mirrors.status, mirrors.listed, mirrors.watched, mirrors.quiet⟩
  placed := QueuedCalls.initial_placed name
  apart := initial_apart
  follows := by
    intro id created
    cases created
  held := by
    have only : ∀ id fd, descriptor acceptorFd (initial name acceptorFd) id = some fd →
        id = .acceptor ∧ fd = acceptorFd := by
      intro id fd held
      cases id with
      | acceptor => exact ⟨rfl, (Option.some.inj held).symm⟩
      | connection id => simp [descriptor, initial, ConnectionLife.initial] at held
      | other id =>
        simp [descriptor, initial, Epoller.initial, Channel.create, Epoller.kNew] at held
    constructor
    · intro id fd held
      rw [(only id fd held).2]
      exact List.mem_cons_self
    · exact fun left right fd first second =>
        (only left fd first).1.trans (only right fd second).1.symm
  dropped := by simp [initial]
  acceptor := rfl
  fresh := fun _ _ => rfl

section Descriptors

/-- Channels that have lost their descriptors, or have none they did not have. -/
theorem Held.fewer (held : Held acceptorFd s)
    (before : ∀ id fd, descriptor acceptorFd t id = some fd → descriptor acceptorFd s id = some fd)
    (open_ : ∀ id fd, descriptor acceptorFd t id = some fd → fd ∈ s.openFds → fd ∈ t.openFds) :
    Held acceptorFd t where
  opened := fun id fd holds => open_ id fd holds (held.opened id fd (before id fd holds))
  unique := fun left right fd first second =>
    held.unique left right fd (before left fd first) (before right fd second)

/-- One channel has a descriptor that was not open. -/
theorem Held.more (held : Held acceptorFd s) (id : Id) {fd : Int} (closed : fd ∉ s.openFds)
    (before : ∀ other key, descriptor acceptorFd t other = some key →
      other = id ∧ key = fd ∨ descriptor acceptorFd s other = some key)
    (open_ : t.openFds = fd :: s.openFds) : Held acceptorFd t where
  opened := by
    intro other key holds
    rw [open_]
    rcases before other key holds with ⟨_, rfl⟩ | earlier
    · exact List.mem_cons_self
    · exact List.mem_cons_of_mem _ (held.opened other key earlier)
  unique := by
    intro left right key first second
    rcases before left key first with ⟨rfl, rfl⟩ | earlier
    · rcases before right key second with ⟨rfl, _⟩ | other
      · rfl
      · exact absurd (held.opened right key other) closed
    · rcases before right key second with ⟨_, rfl⟩ | other
      · exact absurd (held.opened left key earlier) closed
      · exact held.unique left right key earlier other

/-- One channel has given up its descriptor, which is closed. -/
theorem Held.closed (held : Held acceptorFd s) {id : Id} {fd : Int}
    (holds : descriptor acceptorFd s id = some fd)
    (before : ∀ other key, descriptor acceptorFd t other = some key →
      other ≠ id ∧ descriptor acceptorFd s other = some key)
    (open_ : t.openFds = s.openFds.filter fun key => decide (key ∉ [fd])) :
    Held acceptorFd t := by
  refine held.fewer (fun other key holds => (before other key holds).2) ?_
  intro other key present member
  obtain ⟨different, earlier⟩ := before other key present
  rw [open_]
  refine List.mem_filter.mpr ⟨member, decide_eq_true ?_⟩
  intro same
  rw [List.mem_singleton.mp same] at earlier
  exact different (held.unique other id fd earlier holds)

/-- A channel in the map has its own descriptor. -/
theorem Fits.own (fits : Fits acceptorFd s) {id : Id}
    (listed : (s.poller.objects id).index ≠ Epoller.kNew) :
    descriptor acceptorFd s id = some (s.poller.objects id).fd := by
  cases id with
  | acceptor => rw [descriptor, fits.acceptor]
  | connection id =>
    obtain ⟨created, alive⟩ := fits.apart.registered id (decide_eq_true listed)
    have kept : id ∉ s.dropped := fun member => alive (fits.dropped id member)
    rw [descriptor, if_pos ⟨created, kept⟩, (fits.follows id created alive).fd]
  | other id => rw [descriptor, if_pos listed]

/-- The connections in the map are those that are not destroyed. -/
theorem Fits.registered_iff (fits : Fits acceptorFd s) (id : Nat) :
    (seen s).registered id = true ↔ id < s.life.created ∧ id ∉ s.life.destroyed :=
  ⟨fits.apart.registered id, fun ⟨created, undestroyed⟩ =>
    decide_eq_true (fits.follows id created undestroyed).listed⟩

/-- A descriptor of a channel that is not in the map is free there. -/
theorem Fits.free (fits : Fits acceptorFd s) {id : Id} {fd : Int}
    (holds : descriptor acceptorFd s id = some fd)
    (unlisted : (s.poller.objects id).index = Epoller.kNew) :
    s.poller.channels.lookup fd = none := by
  cases found : s.poller.channels.lookup fd with
  | none => rfl
  | some other =>
    obtain ⟨same, listed⟩ := (fits.faithful.mirrors.listed fd other).mp found
    have own := fits.own listed
    rw [same] at own
    obtain rfl := fits.held.unique id other fd holds own
    exact absurd unlisted listed

/-- So is a descriptor that is not open. -/
theorem Fits.free_closed (fits : Fits acceptorFd s) {fd : Int} (closed : fd ∉ s.openFds) :
    s.poller.channels.lookup fd = none := by
  cases found : s.poller.channels.lookup fd with
  | none => rfl
  | some other =>
    obtain ⟨same, listed⟩ := (fits.faithful.mirrors.listed fd other).mp found
    have own := fits.own listed
    rw [same] at own
    exact absurd (fits.held.opened other fd own) closed

end Descriptors

section Connections

variable {label : ConnectionLife.Label (server name)} {life : System (server name)}

/-- What is left to show of a step of the connections: what the poller has, whom it knows,
and whose the descriptors are. -/
theorem Fits.advance (fits : Fits acceptorFd s)
    (stepping : ConnectionLife.step s.life label = .ok life) (admitted : Admitted (seen s) label)
    {poller : Epoller.State Id} {openFds : List Int} (faithful : Epoller.Faithful poller)
    (registers : ∀ id, (poller.objects (.connection id)).index ≠ Epoller.kNew →
      (effectsOf s.life label).foldl register (seen s).registered id = true)
    (others : ∀ id, (∀ connection, id ≠ .connection connection) →
      poller.objects id = s.poller.objects id)
    (follows : ∀ id < life.created, id ∉ life.destroyed →
      Follows (poller.objects (.connection id)) (life.objects id).channel)
    (destroyed : ∀ id ∈ s.life.destroyed, id ∈ life.destroyed)
    (held : Held acceptorFd { s with life := life, poller := poller, openFds := openFds }) :
    Fits acceptorFd { s with life := life, poller := poller, openFds := openFds } where
  faithful := faithful
  placed := QueuedCalls.step_placed fits.placed stepping
  apart := by
    have performed : (seen s).perform label = .ok {
        system := life
        registered := (effectsOf s.life label).foldl register (seen s).registered
        heard := [] ++ (effectsOf s.life label).filterMap (noticeOf life.objects) } := by
      rw [Traced.perform, show ConnectionLife.step (seen s).system label = .ok life from stepping]
      rfl
    obtain ⟨known, gone, live, registered⟩ :=
      perform_apart fits.apart admitted performed
    exact ⟨known, gone, live, fun id listed =>
      registered id (registers id (of_decide_eq_true listed))⟩
  follows := follows
  held := held
  dropped := fun id member => destroyed id (fits.dropped id member)
  acceptor := by
    rw [show poller.objects .acceptor = _ from others .acceptor (by simp)]
    exact fits.acceptor
  fresh := by
    intro id later
    rw [show poller.objects (.other id) = _ from others (.other id) (by simp)]
    exact fits.fresh id later

/-- A connection in the map stays there under effects that do not remove it. -/
theorem registers_kept (registered : Nat → Bool) (id other : Nat) (effects : List Effect)
    (stays : Effect.removeChannel ∉ effects) (listed : registered other = true) :
    (effects.map fun effect => (id, effect)).foldl register registered other = true := by
  induction effects generalizing registered with
  | nil => exact listed
  | cons effect rest inductionHypothesis =>
    rw [List.map_cons, List.foldl_cons]
    apply inductionHypothesis
    · exact fun member => stays (List.mem_cons_of_mem _ member)
    · cases effect with
      | removeChannel => exact absurd List.mem_cons_self stays
      | updateChannel =>
        simp only [register]
        split
        · rfl
        · exact listed
      | _ => exact listed

/-- The descriptors stay when the channels of the connections keep theirs. -/
theorem descriptor_kept {poller : Epoller.State Id} {openFds : List Int}
    (created : life.created = s.life.created)
    (fds : ∀ id, (life.objects id).channel.fd = (s.life.objects id).channel.fd)
    (others : ∀ id, (∀ connection, id ≠ .connection connection) →
      poller.objects id = s.poller.objects id) (id : Id) :
    descriptor acceptorFd { s with life := life, poller := poller, openFds := openFds } id =
      descriptor acceptorFd s id := by
  cases id with
  | acceptor => rfl
  | connection id => simp only [descriptor, created, fds]
  | other id =>
    have same := others (.other id) (by simp)
    simp only [descriptor, same]

/-- A step that tells the poller nothing changes no channel. -/
theorem silent_fits (fits : Fits acceptorFd s)
    (stepping : ConnectionLife.step s.life label = .ok life) (admitted : Admitted (seen s) label)
    (silent : effectsOf s.life label = []) (created : life.created = s.life.created)
    (destroyed : life.destroyed = s.life.destroyed)
    (channels : ∀ id, (life.objects id).channel = (s.life.objects id).channel) :
    ∃ poller, (effectsOf s.life label).foldlM (pollerStep life.objects) s.poller = .ok poller ∧
      Fits acceptorFd { s with life := life, poller := poller } := by
  refine ⟨s.poller, by rw [silent]; rfl, ?_⟩
  refine fits.advance stepping admitted fits.faithful ?_ (fun _ _ => rfl) ?_ ?_ ?_
  · intro id listed
    rw [silent]
    exact decide_eq_true listed
  · rw [created, destroyed]
    intro id below alive
    rw [channels id]
    exact fits.follows id below alive
  · rw [destroyed]
    exact fun _ member => member
  · refine fits.held.fewer ?_ (fun _ _ _ member => member)
    intro id fd holds
    rwa [descriptor_kept created (fun id => by rw [channels id]) (fun _ _ => rfl)] at holds

/-- A step of one connection that stays in the map. -/
theorem told_fits (fits : Fits acceptorFd s)
    (stepping : ConnectionLife.step s.life label = .ok life) (admitted : Admitted (seen s) label)
    {id : Nat} {c : TcpConnection} {effects : List Effect} (below : id < s.life.created)
    (alive : id ∉ s.life.destroyed) (told : Told (s.life.objects id) c effects)
    (stays : Effect.removeChannel ∉ effects)
    (effects_ : effectsOf s.life label = effects.map fun effect => (id, effect))
    (objects : life.objects = setObject s.life.objects id c)
    (created : life.created = s.life.created) (destroyed : life.destroyed = s.life.destroyed) :
    ∃ poller, (effectsOf s.life label).foldlM (pollerStep life.objects) s.poller = .ok poller ∧
      Fits acceptorFd { s with life := life, poller := poller } := by
  have here : life.objects id = c := by simp [objects, setObject]
  have there : ∀ other, other ≠ id → life.objects other = s.life.objects other := by
    intro other different
    simp [objects, setObject, different]
  have before := fits.follows id below alive
  obtain ⟨poller, polled, faithful, unmoved, follows, still⟩ :=
    effects_told life.objects effects stays fits.faithful
      (fun _ => by rw [here, told.fd]; exact before.fd) (fun new => absurd new before.listed)
  have others : ∀ other, (∀ connection, other ≠ .connection connection) →
      poller.objects other = s.poller.objects other := fun other different =>
    unmoved other (different id)
  refine ⟨poller, by rw [effects_]; exact polled, ?_⟩
  refine fits.advance stepping admitted faithful ?_ others ?_ ?_ ?_
  · intro other listed
    rw [effects_]
    refine registers_kept _ id other effects stays (decide_eq_true ?_)
    by_cases this : other = id
    · rw [this]
      exact before.listed
    · rwa [unmoved _ (by simpa using this)] at listed
  · rw [created, destroyed]
    intro other known undestroyed
    by_cases this : other = id
    · subst this
      by_cases update : Effect.updateChannel ∈ effects
      · exact follows update
      · rw [still update, here, told.silent update]
        exact before
    · rw [unmoved _ (by simpa using this), there other this]
      exact fits.follows other known undestroyed
  · rw [destroyed]
    exact fun _ member => member
  · refine fits.held.fewer ?_ (fun _ _ _ member => member)
    have fds : ∀ other, (life.objects other).channel.fd = (s.life.objects other).channel.fd := by
      intro other
      by_cases this : other = id
      · rw [this, here, told.fd]
      · rw [there other this]
    intro other fd holds
    rwa [descriptor_kept created fds others] at holds

/-- A destruction takes the channel out of the map; its descriptor stays open. -/
theorem destroyed_fits (fits : Fits acceptorFd s)
    (stepping : ConnectionLife.step s.life label = .ok life) (admitted : Admitted (seen s) label)
    {id : Nat} {c : TcpConnection} (batch : id ∈ s.life.phase.batch)
    (disabled : c.channel = (s.life.objects id).channel.disableAll)
    (told : effectsOf s.life label =
      [(id, .updateChannel), (id, .connectCallback), (id, .removeChannel)])
    (objects : life.objects = setObject s.life.objects id c)
    (created : life.created = s.life.created)
    (destroyed : life.destroyed = s.life.destroyed ++ [id]) :
    ∃ poller, (effectsOf s.life label).foldlM (pollerStep life.objects) s.poller = .ok poller ∧
      Fits acceptorFd { s with life := life, poller := poller } := by
  have here : life.objects id = c := by simp [objects, setObject]
  have there : ∀ other, other ≠ id → life.objects other = s.life.objects other := by
    intro other different
    simp [objects, setObject, different]
  have below := fits.placed.known id (Or.inr (Or.inr (Or.inl batch)))
  have alive : id ∉ s.life.destroyed := by
    intro already
    have once := fits.placed.once id below
    have first := List.count_pos_iff.mpr batch
    have second := List.count_pos_iff.mpr already
    omega
  have before := fits.follows id below alive
  obtain ⟨middle, updated, kept, unmoved, follows⟩ := update_told life.objects
    fits.faithful (fun _ => by rw [here, disabled]; exact before.fd)
    (fun new => absurd new before.listed)
  have none : (middle.objects (.connection id)).isNoneEvent = true := by
    rw [Channel.isNoneEvent, follows.events, here, disabled]
    rfl
  obtain ⟨poller, removed, faithful, _, changed⟩ := kept.remove follows.listed none
  have others : ∀ other, other ≠ .connection id →
      poller.objects other = s.poller.objects other := by
    intro other different
    rw [changed, Poller.setChannel_other _ _ _ _ different, unmoved other different]
  refine ⟨poller, ?_, ?_⟩
  · have last : [(id, Effect.removeChannel)].foldlM (pollerStep life.objects) middle = .ok poller :=
      (bind_ok _ _ _).mpr ⟨poller, removed, rfl⟩
    rw [told, List.foldlM_cons, updated]
    exact last
  refine fits.advance stepping admitted faithful ?_ (fun other different => others other
    (different id)) ?_ ?_ ?_
  · intro other listed
    have this : other ≠ id := by
      rintro rfl
      rw [changed, Poller.setChannel_same] at listed
      exact listed rfl
    rw [others _ (by simpa using this)] at listed
    simp only [told, List.foldl_cons, List.foldl_nil, register, if_neg this]
    exact decide_eq_true listed
  · rw [created, destroyed]
    intro other known undestroyed
    have this : other ≠ id := by
      rintro rfl
      exact undestroyed (List.mem_append_right _ List.mem_cons_self)
    rw [others _ (by simpa using this), there other this]
    exact fits.follows other known fun earlier => undestroyed (List.mem_append_left _ earlier)
  · rw [destroyed]
    exact fun _ earlier => List.mem_append_left _ earlier
  · refine fits.held.fewer ?_ (fun _ _ _ present => present)
    have fds : ∀ other, (life.objects other).channel.fd = (s.life.objects other).channel.fd := by
      intro other
      by_cases this : other = id
      · rw [this, here, disabled]
        rfl
      · rw [there other this]
    intro other fd holds
    rwa [descriptor_kept created fds fun other different => others other (different id)] at holds

/-- A new connection enters the map under a descriptor that was not open. -/
theorem established_fits (fits : Fits acceptorFd s)
    (stepping : ConnectionLife.step s.life label = .ok life) (admitted : Admitted (seen s) label)
    {c : TcpConnection} (closed : c.channel.fd ∉ s.openFds)
    (told : effectsOf s.life label =
      [(s.life.created, .updateChannel), (s.life.created, .connectCallback)])
    (objects : life.objects = setObject s.life.objects s.life.created c)
    (created : life.created = s.life.created + 1)
    (destroyed : life.destroyed = s.life.destroyed) :
    ∃ poller, (effectsOf s.life label).foldlM (pollerStep life.objects) s.poller = .ok poller ∧
      Fits acceptorFd
        { s with life := life, poller := poller, openFds := c.channel.fd :: s.openFds } := by
  have here : life.objects s.life.created = c := by simp [objects, setObject]
  have there : ∀ other, other ≠ s.life.created → life.objects other = s.life.objects other := by
    intro other different
    simp [objects, setObject, different]
  have unlisted : (s.poller.objects (.connection s.life.created)).index = Epoller.kNew := by
    by_contra listed
    exact absurd (fits.apart.registered _ (decide_eq_true listed)).1 (Nat.lt_irrefl _)
  obtain ⟨poller, updated, faithful, unmoved, follows⟩ := update_told life.objects
    fits.faithful (fun listed => absurd unlisted listed)
    (fun _ => by rw [here]; exact fits.free_closed closed)
  refine ⟨poller, ?_, ?_⟩
  · rw [told, List.foldlM_cons, updated]
    rfl
  refine fits.advance stepping admitted faithful ?_ (fun other different => unmoved other
    (different _)) ?_ ?_ ?_
  · intro other listed
    rw [told]
    by_cases this : other = s.life.created
    · simp [register, this]
    · rw [unmoved _ (by simpa using this)] at listed
      simp only [List.foldl_cons, List.foldl_nil, register, if_neg this]
      exact decide_eq_true listed
  · rw [created, destroyed]
    intro other known undestroyed
    by_cases this : other = s.life.created
    · rw [this]
      exact follows
    · rw [unmoved _ (by simpa using this), there other this]
      exact fits.follows other (by omega) undestroyed
  · rw [destroyed]
    exact fun _ member => member
  · refine fits.held.more (.connection s.life.created) closed ?_ rfl
    intro other key holds
    cases other with
    | acceptor => exact Or.inr holds
    | connection other =>
      simp only [descriptor, created] at holds ⊢
      split at holds
      case isFalse => cases holds
      case isTrue known =>
        by_cases this : other = s.life.created
        · rw [this, here] at holds
          exact Or.inl ⟨by rw [this], (Option.some.inj holds).symm⟩
        · rw [there other this] at holds
          rw [if_pos ⟨by omega, known.2⟩]
          exact Or.inr holds
    | other other =>
      right
      simpa only [descriptor, unmoved (.other other) (by simp)] using holds

/-- The descriptors that are open after a step of the connections. -/
def opened (fds : List Int) : ConnectionLife.Label (server name) → List Int
  | .owner accepted => accepted.sockFd :: fds
  | _ => fds

/-- The poller accepts what any step of the connections asks of it. -/
theorem perform_fits (fits : Fits acceptorFd s)
    (stepping : ConnectionLife.step s.life label = .ok life) (admitted : Admitted (seen s) label)
    (closed : ∀ accepted, label = .owner accepted → accepted.sockFd ∉ s.openFds) :
    ∃ poller, (effectsOf s.life label).foldlM (pollerStep life.objects) s.poller = .ok poller ∧
      Fits acceptorFd
        { s with life := life, poller := poller, openFds := opened s.openFds label } := by
  cases stepped stepping
  case poll => exact silent_fits fits stepping admitted rfl rfl rfl fun _ => rfl
  case dispatch => exact silent_fits fits stepping admitted rfl rfl rfl fun _ => rfl
  case remove => exact silent_fits fits stepping admitted rfl rfl rfl fun _ => rfl
  case finishEvent => exact silent_fits fits stepping admitted rfl rfl rfl fun _ => rfl
  case swap => exact silent_fits fits stepping admitted rfl rfl rfl fun _ => rfl
  case finishFunctors => exact silent_fits fits stepping admitted rfl rfl rfl fun _ => rfl
  case shutdown id _ =>
    refine silent_fits fits stepping admitted rfl rfl rfl fun other => ?_
    by_cases this : other = id
    · subst this
      simp only [setObject, if_true, exchangeState]
      split <;> rfl
    · simp only [setObject, if_neg this]
  case closing id revents callback callbacks active read write c effects handling handled _ =>
    exact told_fits fits stepping admitted
      (fits.apart.known id (Or.inl (by simp [seen, handling, Phase.dispatched])))
      (handled_alive fits.apart handling) (handle_told handled) (handle_effects handled).2
      (effectsOf_callback handling handled) rfl rfl rfl
  case callback id revents callback callbacks active read write c effects handling handled _ =>
    exact told_fits fits stepping admitted
      (fits.apart.known id (Or.inl (by simp [seen, handling, Phase.dispatched])))
      (handled_alive fits.apart handling) (handle_told handled) (handle_effects handled).2
      (effectsOf_callback handling handled) rfl rfl rfl
  case send id message result c effects created sent =>
    have stays : Effect.removeChannel ∉ effects := fun member => by
      cases (sendInLoop_state sent).2 _ member
    exact told_fits fits stepping admitted created admitted
      (sendInLoop_told sent) stays (effectsOf_send sent) rfl rfl rfl
  case runFunctor id rest c effects running destroyed =>
    have same := ((connectDestoryed_ok _ _).mp destroyed).2
    exact destroyed_fits fits stepping admitted (by simp [running, Phase.batch])
      (by rw [(Prod.mk.inj same).1]) (effectsOf_runFunctor running destroyed) rfl rfl rfl
  case acted accepted owner acted => cases acted
  case established accepted owner sockFd writeCompleteCallback c effects acted _ established =>
    have same := ((connectEstablished_ok _ _).mp established).2
    have fd : c.channel.fd = accepted.sockFd := by
      rw [(Prod.mk.inj same).1]
      cases acted
      rfl
    have fits := established_fits fits stepping admitted (by rw [fd]; exact closed accepted rfl)
      (effectsOf_established acted established) rfl rfl rfl
    rwa [fd] at fits

end Connections

end ReactorNetwork.ServerDestruction
