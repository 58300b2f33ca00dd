import Mathlib.Data.List.Basic

/-!
# Finite runs of a labelled step function

A system is given by an executable step: a label carries every choice its
environment makes, and the step either returns the next state or an error. A
run folds the step over its labels, so the first error ends it. Since every
prefix of a run is a run, a law of the last state is a law of every state the
system passes through.

The invariant rules are stated once, relative to a guard on the state before
each step and to the labels already taken. The unguarded and history-free forms
are instances. Nothing here knows what a label or a state stands for.
-/

namespace ReactorNetwork.Runs

universe u v w
variable {ε : Type u} {State : Type v} {Label : Type w}

/-- Take the labels in order; the first failed step ends the run. -/
def run (step : State → Label → Except ε State) (state : State) (labels : List Label) :
    Except ε State :=
  labels.foldlM step state

/-- A run of no steps stays where it is. -/
@[simp] theorem run_nil (step : State → Label → Except ε State) (state : State) :
    run step state [] = .ok state := rfl

/-- What is observed of a run is observed of the state it reaches. -/
theorem map_returned {α β : Type*} (observe : α → β) (outcome : Except ε α) (value : β) :
    outcome.map observe = .ok value ↔ ∃ state, outcome = .ok state ∧ observe state = value := by
  cases outcome <;> simp [Except.map]

/-- An observation of a run fails exactly where the run does. -/
theorem map_failed {α β : Type*} (observe : α → β) (outcome : Except ε α) (reason : ε) :
    outcome.map observe = .error reason ↔ outcome = .error reason := by
  cases outcome <;> simp [Except.map]

/-- A run of a first label and a rest takes the step and continues. -/
theorem run_cons (step : State → Label → Except ε State) (state last : State) (label : Label)
    (labels : List Label) :
    run step state (label :: labels) = .ok last ↔
      ∃ next, step state label = .ok next ∧ run step next labels = .ok last := by
  cases taken : step state label with
  | error reason => simp [run, List.foldlM_cons, taken, bind, Except.bind]
  | ok next => simp [run, List.foldlM_cons, taken, bind, Except.bind]

/-- A run whose first step returns continues from there. -/
theorem run_returned (step : State → Label → Except ε State) {state next : State} {label : Label}
    (taken : step state label = .ok next) (labels : List Label) :
    run step state (label :: labels) = run step next labels := by
  simp [run, List.foldlM_cons, taken, bind, Except.bind]

/-- A run whose first step fails ends there. -/
theorem run_failed (step : State → Label → Except ε State) {state : State} {label : Label}
    {reason : ε} (failed : step state label = .error reason) (labels : List Label) :
    run step state (label :: labels) = .error reason := by
  simp [run, List.foldlM_cons, failed, bind, Except.bind]

/-- A run fails at its first step or after it. -/
theorem run_cons_failed (step : State → Label → Except ε State) (state : State) (label : Label)
    (labels : List Label) (reason : ε) :
    run step state (label :: labels) = .error reason ↔ step state label = .error reason ∨
      ∃ next, step state label = .ok next ∧ run step next labels = .error reason := by
  cases taken : step state label with
  | error other => simp [run_failed step taken]
  | ok next => simp [run_returned step taken]

/-- A run of one step is that step. -/
theorem run_single (step : State → Label → Except ε State) (state : State) (label : Label) :
    run step state [label] = step state label := by
  cases taken : step state label with
  | error reason => exact run_failed step taken []
  | ok next => exact run_returned step taken []

/-- A run splits at every prefix of its labels, with the state reached there. -/
theorem run_append (step : State → Label → Except ε State) (state last : State)
    (before after : List Label) :
    run step state (before ++ after) = .ok last ↔
      ∃ middle, run step state before = .ok middle ∧ run step middle after = .ok last := by
  induction before generalizing state with
  | nil => simp
  | cons label rest inductionHypothesis =>
    simp only [List.cons_append, run_cons, inductionHypothesis]
    constructor
    · rintro ⟨next, taken, middle, reached, continued⟩
      exact ⟨middle, ⟨next, taken, reached⟩, continued⟩
    · rintro ⟨middle, ⟨next, taken, reached⟩, continued⟩
      exact ⟨next, taken, middle, reached, continued⟩

/-- A run continues from the state it has reached, also where it fails later. -/
theorem run_reached (step : State → Label → Except ε State) {state middle : State}
    {before : List Label} (reached : run step state before = .ok middle) (after : List Label) :
    run step state (before ++ after) = run step middle after := by
  have split : run step state (before ++ after) =
      run step state before >>= fun next => run step next after :=
    List.foldlM_append
  rw [split, reached]
  rfl

/-- One more label is one more step from the state already reached. -/
theorem run_concat (step : State → Label → Except ε State) (state last : State)
    (labels : List Label) (label : Label) :
    run step state (labels ++ [label]) = .ok last ↔
      ∃ middle, run step state labels = .ok middle ∧ step middle label = .ok last := by
  simp [run_append, run_cons]

/-- Each step of the run is taken in a state that meets the guard. The guard
reads the state before the step and the label, never what the step computes. -/
def Along (step : State → Label → Except ε State) (guard : State → Label → Prop) :
    State → List Label → Prop
  | _, [] => True
  | state, label :: labels =>
      guard state label ∧ ∀ next, step state label = .ok next → Along step guard next labels

/-- A decidable guard is decided along a run by taking its steps. -/
instance decidableAlong (step : State → Label → Except ε State) (guard : State → Label → Prop)
    [∀ state label, Decidable (guard state label)] :
    ∀ state labels, Decidable (Along step guard state labels)
  | _, [] => isTrue trivial
  | state, label :: labels =>
      match taken : step state label with
      | .error _ => decidable_of_iff (guard state label)
          ⟨fun met => ⟨met, fun _ same => by simp [taken] at same⟩, fun along => along.1⟩
      | .ok next =>
          have := decidableAlong step guard next labels
          decidable_of_iff (guard state label ∧ Along step guard next labels)
            ⟨fun ⟨met, rest⟩ => ⟨met, fun _ same => Except.ok.inj (taken.symm.trans same) ▸ rest⟩,
              fun along => ⟨along.1, along.2 next taken⟩⟩

/-- A guarded run is guarded up to each state it reaches, and from there on. -/
theorem along_append (step : State → Label → Except ε State) (guard : State → Label → Prop)
    (state : State) (before after : List Label) :
    Along step guard state (before ++ after) ↔ Along step guard state before ∧
      ∀ middle, run step state before = .ok middle → Along step guard middle after := by
  induction before generalizing state with
  | nil =>
    constructor
    · intro along
      refine ⟨trivial, ?_⟩
      intro middle same
      exact Except.ok.inj same ▸ along
    · exact fun along => along.2 state rfl
  | cons label rest inductionHypothesis =>
    simp only [List.cons_append, Along, run_cons, inductionHypothesis]
    constructor
    · rintro ⟨met, later⟩
      refine ⟨⟨met, fun next taken => (later next taken).1⟩, ?_⟩
      rintro middle ⟨next, taken, reached⟩
      exact (later next taken).2 middle reached
    · rintro ⟨⟨met, front⟩, later⟩
      refine ⟨met, fun next taken => ⟨front next taken, ?_⟩⟩
      intro middle reached
      exact later middle ⟨next, taken, reached⟩

/-- A guard on the labels alone holds along a run whose labels all meet it. -/
theorem along_labels (step : State → Label → Except ε State) (guard : Label → Prop)
    (state : State) (labels : List Label) (all : ∀ label ∈ labels, guard label) :
    Along step (fun _ label => guard label) state labels := by
  induction labels generalizing state with
  | nil => trivial
  | cons label rest inductionHypothesis =>
    constructor
    · exact all label List.mem_cons_self
    · intro next _
      exact inductionHypothesis next (fun other member => all other (List.mem_cons_of_mem _ member))

/-- The unconstrained guard holds along every run. -/
theorem along_true (step : State → Label → Except ε State) (state : State) (labels : List Label) :
    Along step (fun _ _ => True) state labels :=
  along_labels step (fun _ => True) state labels (fun _ _ => trivial)

/-- A guarded run keeps every relation between the labels taken so far and the
state reached that each guarded step keeps.

Proof: induction over the labels, with the past generalized. The guard and the
relation at the current state give the relation after its step, whose past is
one label longer. -/
theorem guarded_history (step : State → Label → Except ε State) (guard : State → Label → Prop)
    (related : List Label → State → Prop)
    (kept : ∀ past state label next, related past state → guard state label →
      step state label = .ok next → related (past ++ [label]) next)
    (past labels : List Label) (state last : State) (initial : related past state)
    (guarded : Along step guard state labels) (reached : run step state labels = .ok last) :
    related (past ++ labels) last := by
  induction labels generalizing past state with
  | nil =>
    have same : state = last := Except.ok.inj reached
    simpa [same] using initial
  | cons label rest inductionHypothesis =>
    obtain ⟨next, taken, continued⟩ := (run_cons step state last label rest).mp reached
    have advanced : related (past ++ [label]) next :=
      kept past state label next initial guarded.1 taken
    have whole : related ((past ++ [label]) ++ rest) last :=
      inductionHypothesis (past ++ [label]) next advanced (guarded.2 next taken) continued
    simpa using whole

/-- A relation between the labels taken so far and the state reached that every
step keeps holds at the end of every run. -/
theorem history (step : State → Label → Except ε State) (related : List Label → State → Prop)
    (kept : ∀ past state label next, related past state → step state label = .ok next →
      related (past ++ [label]) next)
    (labels : List Label) (state last : State) (initial : related [] state)
    (reached : run step state labels = .ok last) : related labels last := by
  have whole := guarded_history step (fun _ _ => True) related
    (fun past state label next holds _ taken => kept past state label next holds taken)
    [] labels state last initial (along_true step state labels) reached
  simpa using whole

/-- A state invariant that every guarded step keeps holds at the end of every
guarded run. -/
theorem guarded_invariant (step : State → Label → Except ε State)
    (guard : State → Label → Prop) (invariant : State → Prop)
    (kept : ∀ state label next, invariant state → guard state label →
      step state label = .ok next → invariant next)
    (labels : List Label) (state last : State) (initial : invariant state)
    (guarded : Along step guard state labels) (reached : run step state labels = .ok last) :
    invariant last :=
  guarded_history step guard (fun _ => invariant)
    (fun _ state label next holds met taken => kept state label next holds met taken)
    [] labels state last initial guarded reached

/-- A state invariant that every step keeps holds at the end of every run. -/
theorem invariant (step : State → Label → Except ε State) (holds : State → Prop)
    (kept : ∀ state label next, holds state → step state label = .ok next → holds next)
    (labels : List Label) (state last : State) (initial : holds state)
    (reached : run step state labels = .ok last) : holds last :=
  history step (fun _ => holds)
    (fun _ state label next before taken => kept state label next before taken)
    labels state last initial reached

/-- What every step changes by a function of its label, a run changes by the fold of
that function over its labels. -/
theorem folded {α : Type*} (step : State → Label → Except ε State) (observe : State → α)
    (update : α → Label → α)
    (kept : ∀ state label next, step state label = .ok next →
      observe next = update (observe state) label)
    (labels : List Label) (state last : State) (reached : run step state labels = .ok last) :
    observe last = labels.foldl update (observe state) :=
  history step (fun past current => observe current = past.foldl update (observe state))
    (fun past current label next same taken => by
      rw [kept current label next taken, same, List.foldl_append, List.foldl_cons, List.foldl_nil])
    labels state last rfl reached

/-- If every guarded step is matched by steps of another system from a related state,
every guarded run is matched by a run of that system. -/
theorem guarded_simulated {Other : Type*} {Abstract : Type*}
    (step : State → Label → Except ε State) (guard : State → Label → Prop)
    (other : Abstract → Other → Except ε Abstract) (related : State → Abstract → Prop)
    (matched : ∀ state label next abstract, related state abstract → guard state label →
      step state label = .ok next →
      ∃ labels following, run other abstract labels = .ok following ∧ related next following)
    (labels : List Label) (state last : State) (abstract : Abstract)
    (initial : related state abstract) (guarded : Along step guard state labels)
    (reached : run step state labels = .ok last) :
    ∃ others following, run other abstract others = .ok following ∧ related last following := by
  refine guarded_invariant step guard (fun state => ∃ others following,
    run other abstract others = .ok following ∧ related state following) ?_ labels state last
    ⟨[], abstract, rfl, initial⟩ guarded reached
  rintro middle label next ⟨others, following, arrived, holds⟩ met taken
  obtain ⟨more, final, continued, kept⟩ := matched middle label next following holds met taken
  exact ⟨others ++ more, final, (run_append other abstract final others more).mpr
    ⟨following, arrived, continued⟩, kept⟩

/-- If every step is matched by steps of another system from a related state, every
run is matched by a run of that system. -/
theorem simulated {Other : Type*} {Abstract : Type*} (step : State → Label → Except ε State)
    (other : Abstract → Other → Except ε Abstract) (related : State → Abstract → Prop)
    (matched : ∀ state label next abstract, related state abstract →
      step state label = .ok next →
      ∃ labels following, run other abstract labels = .ok following ∧ related next following)
    (labels : List Label) (state last : State) (abstract : Abstract)
    (initial : related state abstract) (reached : run step state labels = .ok last) :
    ∃ others following, run other abstract others = .ok following ∧ related last following :=
  guarded_simulated step (fun _ _ => True) other related
    (fun state label next abstract holds _ taken => matched state label next abstract holds taken)
    labels state last abstract initial (along_true step state labels) reached

/-- A guarded run each of whose steps lowers a measure has no more steps than the
measure it spends. -/
theorem length_bounded (step : State → Label → Except ε State) (guard : State → Label → Prop)
    (invariant : State → Prop) (measure : State → Nat)
    (kept : ∀ state label next, invariant state → guard state label →
      step state label = .ok next → invariant next ∧ measure next < measure state)
    (labels : List Label) (state last : State) (initial : invariant state)
    (guarded : Along step guard state labels) (reached : run step state labels = .ok last) :
    labels.length + measure last ≤ measure state := by
  induction labels generalizing state with
  | nil =>
    have same : state = last := Except.ok.inj reached
    simp [same]
  | cons label rest inductionHypothesis =>
    obtain ⟨next, taken, continued⟩ := (run_cons step state last label rest).mp reached
    obtain ⟨holds, lower⟩ := kept state label next initial guarded.1 taken
    have bounded := inductionHypothesis next holds (guarded.2 next taken) continued
    rw [List.length_cons]
    omega

/-- A measure that no step raises and each counted step lowers is lowered by the number of
counted steps of a run, or is zero. -/
theorem lowered (step : State → Label → Except ε State) (counted : Label → Bool)
    (invariant : State → Prop) (measure : State → Nat)
    (kept : ∀ state label next, invariant state → step state label = .ok next →
      invariant next ∧ measure next ≤ measure state - if counted label then 1 else 0)
    (labels : List Label) (state last : State) (initial : invariant state)
    (reached : run step state labels = .ok last) :
    measure last ≤ measure state - labels.countP counted := by
  induction labels generalizing state with
  | nil =>
    have same : state = last := Except.ok.inj reached
    simp [same]
  | cons label rest inductionHypothesis =>
    obtain ⟨next, taken, continued⟩ := (run_cons step state last label rest).mp reached
    obtain ⟨holds, lower⟩ := kept state label next initial taken
    have bounded := inductionHypothesis next holds continued
    rw [List.countP_cons]
    omega

/-- A run that returns without meeting the guard throughout takes some step
whose state does not meet it. -/
theorem not_along (step : State → Label → Except ε State) (guard : State → Label → Prop)
    (labels : List Label) (state last : State) (reached : run step state labels = .ok last)
    (violated : ¬ Along step guard state labels) :
    ∃ before label after middle next, labels = before ++ label :: after ∧
      run step state before = .ok middle ∧ ¬ guard middle label ∧
      step middle label = .ok next ∧ run step next after = .ok last := by
  induction labels generalizing state with
  | nil => exact absurd trivial violated
  | cons label rest inductionHypothesis =>
    obtain ⟨next, taken, continued⟩ := (run_cons step state last label rest).mp reached
    by_cases met : guard state label
    · have later : ¬ Along step guard next rest := by
        intro along
        apply violated
        constructor
        · exact met
        · intro other same
          exact Except.ok.inj (taken.symm.trans same) ▸ along
      obtain ⟨before, failing, after, middle, following, split, arrived, rest'⟩ :=
        inductionHypothesis next continued later
      exact ⟨label :: before, failing, after, middle, following, by rw [split]; rfl,
        (run_cons step state middle label before).mpr ⟨next, taken, arrived⟩, rest'⟩
    · exact ⟨[], label, rest, state, next, rfl, rfl, met, taken, continued⟩

/-- The property holds in every state the run passes through. -/
def Throughout (step : State → Label → Except ε State) (holds : State → Prop) (state : State)
    (labels : List Label) : Prop :=
  ∀ before after last, labels = before ++ after → run step state before = .ok last → holds last

/-- If guarded steps keep a property and all others break it, it holds throughout a run
exactly when the run meets the guard throughout. -/
theorem throughout_iff (step : State → Label → Except ε State) (guard : State → Label → Prop)
    (holds : State → Prop)
    (kept : ∀ state label next, holds state → guard state label →
      step state label = .ok next → holds next)
    (broken : ∀ state label next, holds state → ¬ guard state label →
      step state label = .ok next → ¬ holds next)
    (labels : List Label) (state last : State) (initial : holds state)
    (reached : run step state labels = .ok last) :
    Throughout step holds state labels ↔ Along step guard state labels := by
  constructor
  · intro throughout
    by_contra violated
    obtain ⟨before, label, after, middle, next, split, arrived, unmet, taken, _⟩ :=
      not_along step guard labels state last reached violated
    have here := throughout before (label :: after) middle split arrived
    have there : run step state (before ++ [label]) = .ok next :=
      (run_concat step state next before label).mpr ⟨middle, arrived, taken⟩
    exact broken middle label next here unmet taken
      (throughout (before ++ [label]) after next (by rw [split]; simp) there)
  · intro along before after final split arrived
    have front := ((along_append step guard state before after).mp (split ▸ along)).1
    exact guarded_invariant step guard holds kept before state final initial front arrived

/-- If no guarded step fails for a reason, no guarded run does. -/
theorem guarded_unfailing (step : State → Label → Except ε State)
    (guard : State → Label → Prop) (reason : ε) (invariant : State → Prop)
    (kept : ∀ state label next, invariant state → guard state label →
      step state label = .ok next → invariant next)
    (unfailing : ∀ state label, invariant state → guard state label →
      step state label ≠ .error reason)
    (labels : List Label) (state : State) (initial : invariant state)
    (guarded : Along step guard state labels) : run step state labels ≠ .error reason := by
  induction labels generalizing state with
  | nil => simp
  | cons label rest inductionHypothesis =>
    intro failed
    rcases (run_cons_failed step state label rest reason).mp failed with
      now | ⟨next, taken, later⟩
    · exact unfailing state label initial guarded.1 now
    · exact inductionHypothesis next (kept state label next initial guarded.1 taken)
        (guarded.2 next taken) later

/-- If an allowed step fails badly exactly when it does not meet the guard, and never
returns without meeting it, an allowed run does not end badly exactly when it meets the
guard throughout.

Proof: induction over the labels. A first step that fails ends the run, and one
that returns has met the guard. -/
theorem guarded_unfailing_iff (step : State → Label → Except ε State)
    (allowed guard : State → Label → Prop) (bad : ε → Prop) (invariant : State → Prop)
    (kept : ∀ state label next, invariant state → allowed state label →
      step state label = .ok next → invariant next)
    (fails : ∀ state label reason, invariant state → allowed state label →
      step state label = .error reason → (bad reason ↔ ¬ guard state label))
    (returns : ∀ state label next, invariant state → allowed state label →
      step state label = .ok next → guard state label)
    (labels : List Label) (state : State) (initial : invariant state)
    (along : Along step allowed state labels) :
    (∀ reason, run step state labels = .error reason → ¬ bad reason) ↔
      Along step guard state labels := by
  induction labels generalizing state with
  | nil => simp [Along]
  | cons label rest inductionHypothesis =>
    cases taken : step state label with
    | error reason =>
      have exact := fails state label reason initial along.1 taken
      rw [run_failed step taken rest]
      constructor
      · intro unfailing
        refine ⟨by_contra fun unmet => unfailing reason rfl (exact.mpr unmet), ?_⟩
        intro next same
        cases taken.symm.trans same
      · rintro guarded other same
        obtain rfl := Except.error.inj same
        exact fun failed => exact.mp failed guarded.1
    | ok next =>
      rw [run_returned step taken rest, inductionHypothesis next
        (kept state label next initial along.1 taken) (along.2 next taken)]
      constructor
      · intro guarded
        refine ⟨returns state label next initial along.1 taken, ?_⟩
        intro other same
        exact Except.ok.inj (taken.symm.trans same) ▸ guarded
      · exact fun guarded => guarded.2 next taken

/-- If a step fails for a reason exactly when it does not meet the guard, a run
does not end for that reason exactly when it meets the guard throughout. -/
theorem unfailing_iff (step : State → Label → Except ε State) (guard : State → Label → Prop)
    (reason : ε) (invariant : State → Prop)
    (kept : ∀ state label next, invariant state → step state label = .ok next → invariant next)
    (exact : ∀ state label, invariant state →
      (step state label = .error reason ↔ ¬ guard state label))
    (labels : List Label) (state : State) (initial : invariant state) :
    run step state labels ≠ .error reason ↔ Along step guard state labels := by
  have general := guarded_unfailing_iff step (fun _ _ => True) guard (· = reason) invariant
    (fun state label next holds _ taken => kept state label next holds taken)
    (fun state label other holds _ failed => by
      rw [← exact state label holds, failed, Except.error.injEq])
    (fun state label next holds _ taken => by
      by_contra unmet
      cases taken.symm.trans ((exact state label holds).mpr unmet))
    labels state initial (along_true step state labels)
  rw [← general]
  exact ⟨fun different other failed same => different (same ▸ failed),
    fun unfailing failed => unfailing reason failed rfl⟩

end ReactorNetwork.Runs
