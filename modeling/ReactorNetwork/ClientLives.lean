import ReactorNetwork.ClientLoop

/-!
# The connections of a client, one after another

What the steps of a client and its connections do, apart from its connector: which
of them establish a connection, which leave the client alone, and what the user
hears. If a connection is established only when every earlier one is destroyed, the
user's connection callback is invoked in state `Connected` and in state
`Disconnected` in turn.
-/

namespace ReactorNetwork.ClientLoop

open ConnectionLife TcpClient

variable {life after : Traced client}

/-- What a call of the client does to its state, and which connection it
establishes. -/
theorem owner_acted {action : Action} (taken : life.step (.owner action) = .ok after) :
    ∃ q socket, act (queued life) action = .ok (q, socket) ∧
      after.system.phase = life.system.phase ∧ after.system.destroyed = life.system.destroyed ∧
      (socket = none ∧ after.system.created = life.system.created ∧ queued after = q ∨
        socket ≠ none ∧ after.system.created = life.system.created + 1 ∧
          queued after = { q with
            client := { q.client with connection := some life.system.created } }) := by
  obtain ⟨system, stepping, rfl⟩ := perform_ok taken
  cases stepped stepping
  case acted owner acted => exact ⟨owner, none, acted, rfl, rfl, Or.inl ⟨rfl, rfl, rfl⟩⟩
  case established owner sockFd writeCompleteCallback c effects _ _ acted =>
    exact ⟨owner, some (sockFd, writeCompleteCallback), acted, rfl, rfl,
      Or.inr ⟨by simp, rfl, rfl⟩⟩

/-- Nothing was established, and nothing is dispatched that was not before. -/
structure Still (life after : Traced client) : Prop where
  connection : ∀ id, (queued after).client.connection = some id →
    (queued life).client.connection = some id
  created : after.system.created = life.system.created
  destroyed : life.system.destroyed ⊆ after.system.destroyed
  dispatched : after.system.phase.dispatched ⊆ life.system.phase.dispatched

/-- Taking no step establishes nothing. -/
theorem still_refl (life : Traced client) : Still life life :=
  ⟨fun _ => id, rfl, List.Subset.refl _, List.Subset.refl _⟩

/-- Nor do two parts of a run that establish nothing. -/
theorem still_trans {last : Traced client} (first : Still life after) (second : Still after last) :
    Still life last :=
  ⟨fun id held => first.connection id (second.connection id held),
    second.created.trans first.created, List.Subset.trans first.destroyed second.destroyed,
    List.Subset.trans second.dispatched first.dispatched⟩

/-- The labels that neither poll nor establish. -/
def settles : ConnectionLife.Label client → Bool
  | .poll _ | .owner (.handleWrite _ _ _ _) => false
  | _ => true

/-- Only a writable event of the connector hands a socket over. -/
theorem act_settles {q after : Queued} {action : Action} {socket : Option (Int × Bool)}
    (settling : settles (.owner action) = true) (taken : act q action = .ok (after, socket)) :
    socket = none := by
  have callback : ∀ outcome,
      (∀ connector effects, outcome = .ok (connector, effects) →
        ∀ sockFd, ConnectorEffect.newConnection sockFd ∉ effects) →
      TcpClient.connectorStep q outcome false false = .ok (after, socket) → socket = none := by
    intro outcome quiet returned
    obtain ⟨⟨connector, effects⟩, inside, same⟩ := (bind_ok _ _ _).mp returned
    obtain ⟨_, rfl⟩ := Prod.mk.inj ((pure_ok _ _).mp same)
    by_contra some
    obtain ⟨pair, made⟩ := Option.ne_none_iff_exists'.mp some
    obtain ⟨sockFd, member⟩ := newConnection_handed made
    exact quiet connector effects ((lift_ok _ _).mp inside) sockFd member
  cases action
  case connect | disconnect | stop | enableRetry =>
    exact (Prod.mk.inj ((pure_ok _ _).mp taken)).2.symm
  case startInLoop result =>
    exact callback _ (fun _ _ returned => (Connector.startInLoop_state returned).2) taken
  case handleWrite => cases settling
  case handleError =>
    exact callback _ (fun _ _ returned => (Connector.handleError_state returned).2) taken
  case resetChannel =>
    simp only [act] at taken
    split at taken
    · exact (Prod.mk.inj ((pure_ok _ _).mp taken)).2.symm
    · cases taken

/-- A step that neither polls nor hands a socket over establishes nothing. -/
theorem step_still {label : ConnectionLife.Label client} (traces : Traces Settled life)
    (settling : settles label = true) (taken : life.step label = .ok after) :
    Still life after := by
  have settled := traces.sound.ownerValid
  rcases step_tested taken with rfl | ⟨-, performed⟩
  · exact still_refl _
  · obtain ⟨system, stepping, rfl⟩ := perform_ok performed
    cases stepped stepping
    case poll => cases settling
    case dispatch id active revents dispatching =>
      refine ⟨fun _ held => held, rfl, List.Subset.refl _, ?_⟩
      rw [dispatching]
      exact List.Subset.refl _
    case closing handling _ _ =>
      refine ⟨fun _ => id, rfl, List.Subset.refl _, ?_⟩
      rw [handling]
      exact List.Subset.refl _
    case callback handling _ _ =>
      refine ⟨fun _ => id, rfl, List.Subset.refl _, ?_⟩
      rw [handling]
      exact List.Subset.refl _
    case remove id revents callbacks active choice owner removing removed =>
      refine ⟨?_, rfl, List.Subset.refl _, ?_⟩
      · exact fun other held =>
          (((client_lawful.remove_kept _ _ _ _ settled removed).2 other).mp held).1
      · rw [removing]
        exact List.Subset.refl _
    case finishEvent handling =>
      refine ⟨fun _ => id, rfl, List.Subset.refl _, ?_⟩
      rw [handling]
      exact List.subset_cons_self _ _
    case swap | finishFunctors => exact ⟨fun _ => id, rfl, List.Subset.refl _, List.nil_subset _⟩
    case runFunctor => exact ⟨fun _ => id, rfl, List.subset_append_left _ _, List.nil_subset _⟩
    case shutdown | send => exact ⟨fun _ => id, rfl, List.Subset.refl _, List.Subset.refl _⟩
    case acted label owner acted =>
      refine ⟨?_, rfl, List.Subset.refl _, List.Subset.refl _⟩
      exact fun id held => ((client_lawful.act_kept _ _ _ _ settled acted).2 id).mp held
    case established acted _ _ => cases act_settles settling acted

/-- Either every connection is destroyed, or every one but the last. -/
inductive Paired (s : System client) : Prop where
  | down (destroyed : ∀ id < s.created, id ∈ s.destroyed)
      (even : s.created = s.destroyed.length) : Paired s
  | up (last : Nat) (created : s.created = last + 1) (alive : last ∉ s.destroyed)
      (destroyed : ∀ id < last, id ∈ s.destroyed) (odd : last = s.destroyed.length) : Paired s

/-- `Connected` and `Disconnected` in turn, beginning with `Connected`. -/
def Alternates (states : List ConnectionState) : Prop :=
  ∀ i state, states[i]? = some state →
    state = if i % 2 = 0 then .connected else .disconnected

/-- The next state goes on with the turn. -/
theorem alternates_append {states : List ConnectionState} (alternates : Alternates states)
    {state : ConnectionState}
    (next : state = if states.length % 2 = 0 then .connected else .disconnected) :
    Alternates (states ++ [state]) := by
  intro i other found
  by_cases earlier : i < states.length
  · rw [List.getElem?_append_left earlier] at found
    exact alternates i other found
  · rw [List.getElem?_append_right (by omega)] at found
    obtain ⟨zero, rfl⟩ : i - states.length = 0 ∧ state = other := by
      cases position : i - states.length with
      | zero => simpa [position] using found
      | succ => simp [position] at found
    rw [next, show i = states.length by omega]

/-- What the user hears of the connections, and what was created and destroyed. -/
structure Lived (life : Traced client) : Prop where
  traces : Traces Settled life
  paired : Paired life.system
  alternates : Alternates (statesTold life.heard)
  told : (statesTold life.heard).length = life.system.created + life.system.destroyed.length

/-- Before the first connection nothing was heard. -/
theorem initial_lived : Lived (Traced.initial client) where
  traces := initial_traces client_lawful
  paired := .down (fun _ created => absurd created (Nat.not_lt_zero _)) rfl
  alternates := by
    intro i state found
    cases found
  told := rfl

/-- A step after which the user hears that a connection is up finds every earlier
one destroyed. -/
def Cleared (life : Traced client) (label : ConnectionLife.Label client) : Prop :=
  ∀ action q socket, label = .owner action → act (queued life) action = .ok (q, some socket) →
    ∀ id < life.system.created, id ∈ life.system.destroyed

/-- Establishments and destructions come in turn.

Proof: a destruction finds its connection open, so it is the last one and was not
destroyed before; an establishment finds every connection destroyed. -/
theorem step_lived {label : ConnectionLife.Label client} (lived : Lived life)
    (plain : ConnectionLife.plainHangup life label) (cleared : Cleared life label)
    (taken : life.step label = .ok after) : Lived after := by
  have traces := step_traces client_lawful label after lived.traces plain taken
  rcases step_tested taken with rfl | ⟨-, performed⟩
  · exact lived
  · have told := lived.told
    cases perform_told performed
    case nothing created destroyed same =>
      have paired := lived.paired
      refine ⟨traces, ?_, by rw [same]; exact lived.alternates,
        by rw [same, created, destroyed]; exact told⟩
      cases paired with
      | down gone even =>
        exact .down (by rw [created, destroyed]; exact gone) (by rw [created, destroyed]; exact even)
      | up last more alive earlier odd =>
        exact .up last (by omega) (by rw [destroyed]; exact alive) (by rw [destroyed]; exact earlier)
          (by rw [destroyed]; exact odd)
    case established action owner socket acted created destroyed same =>
      have gone := cleared action owner socket rfl acted
      have even : life.system.created = life.system.destroyed.length := by
        cases lived.paired with
        | down _ even => exact even
        | up last more alive => exact absurd (gone last (by omega)) alive
      refine ⟨traces, ?_, ?_, ?_⟩
      · refine .up life.system.created created ?_ (by rw [destroyed]; exact gone)
          (by rw [destroyed]; exact even)
        rw [destroyed]
        exact fresh_undestroyed lived.traces.apart.known
      · rw [same]
        refine alternates_append lived.alternates ?_
        rw [if_pos (by omega)]
      · rw [same, List.length_append, created, destroyed, told, List.length_singleton]
        omega
    case destroyed id batch isOpen created destroyed same =>
      have alive := open_alive lived.traces.apart isOpen
      have known := lived.traces.apart.known id (by simp [batch])
      cases lived.paired with
      | down gone => exact absurd (gone id known) alive
      | up last more lastAlive earlier odd =>
        have here : id = last := by
          by_contra different
          exact alive (earlier id (by omega))
        subst here
        refine ⟨traces, ?_, ?_, ?_⟩
        · refine .down ?_ (by rw [created, destroyed, List.length_append, List.length_singleton]; omega)
          rw [created, destroyed]
          intro other below
          by_cases same : other = id
          · simp [same]
          · exact List.mem_append_left _ (earlier other (by omega))
        · rw [same]
          refine alternates_append lived.alternates ?_
          rw [if_neg (by omega)]
        · simp only [same, List.length_append, created, destroyed, told, List.length_singleton]
          omega

/-- A settled part of a step keeps the lives and establishes nothing. -/
theorem run_settled (labels : List (ConnectionLife.Label client)) (lived : Lived life)
    (settling : ∀ label ∈ labels, settles label = true)
    (plain : ∀ label ∈ labels, ∀ other, ConnectionLife.plainHangup other label)
    (reached : Runs.run Traced.step life labels = .ok after) : Lived after ∧ Still life after := by
  let quiet (label : ConnectionLife.Label client) : Prop :=
    settles label = true ∧ ∀ other, ConnectionLife.plainHangup other label
  refine Runs.guarded_invariant Traced.step (fun _ => quiet)
    (fun last => Lived last ∧ Still life last) ?_ labels life after ⟨lived, still_refl _⟩
    (Runs.along_labels _ quiet _ _ fun label member => ⟨settling label member, plain label member⟩)
    reached
  intro middle label next ⟨lived, still⟩ ⟨settling, plain⟩ taken
  constructor
  · refine step_lived lived (plain middle) ?_ taken
    intro action q socket same acted
    subst same
    cases act_settles settling acted
  · exact still_trans still (step_still lived.traces settling taken)

/-- The client changes only by its own calls and by removals. -/
theorem step_queued {label : ConnectionLife.Label client} (foreign : ∀ action, label ≠ .owner action)
    (kept : ∀ choice, label ≠ .remove choice) (taken : life.step label = .ok after) :
    queued after = queued life := by
  rcases step_tested taken with rfl | ⟨-, performed⟩
  · rfl
  · obtain ⟨system, stepping, rfl⟩ := perform_ok performed
    exact step_owner stepping foreign kept

/-- A removal, with the restart the client asks for. -/
theorem removeConnection_cases {c after : TcpClient} {id : Nat} {result : ConnectResult}
    {effects : List ConnectorEffect}
    (removed : c.removeConnection id result = .ok (after, effects)) :
    (c.retry && c.connectFlag) = true ∧ c.connector.restart result = .ok (after.connector, effects) ∨
      (c.retry && c.connectFlag) = false ∧ after.connector = c.connector ∧ effects = [] := by
  unfold removeConnection at removed
  split at removed
  case isFalse => cases removed
  case isTrue =>
    simp only at removed
    split at removed
    · rename_i wanted
      obtain ⟨⟨connector, further⟩, restarted, same⟩ := (bind_ok _ _ _).mp removed
      obtain ⟨rfl, rfl⟩ := Prod.mk.inj ((pure_ok _ _).mp same)
      exact Or.inl ⟨wanted, (lift_ok _ _).mp restarted⟩
    · rename_i unwanted
      obtain ⟨rfl, rfl⟩ := Prod.mk.inj ((pure_ok _ _).mp removed)
      exact Or.inr ⟨by simpa using unwanted, rfl, rfl⟩

/-- What a removal does to the client. -/
theorem remove_queued {result : ConnectResult}
    (taken : life.step (.remove result) = .ok after) :
    ∃ id revents callbacks active c effects,
      life.system.phase = .removing id revents callbacks active ∧
      (queued life).client.removeConnection id result = .ok (c, effects) ∧
      queued after = TcpClient.queued (queued life) c effects := by
  obtain ⟨system, stepping, rfl⟩ := perform_ok taken
  cases stepped stepping
  case remove id revents callbacks active owner removing removed =>
    obtain ⟨⟨c, effects⟩, inside, finished⟩ := (bind_ok _ _ _).mp removed
    obtain rfl := (pure_ok _ _).mp finished
    exact ⟨id, revents, callbacks, active, c, effects, removing, inside, rfl⟩

end ReactorNetwork.ClientLoop
