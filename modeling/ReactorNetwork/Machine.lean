import ReactorNetwork.Runs
import ReactorNetwork.CellStore
import Mathlib.Algebra.Group.Nat.Defs

/-!
# Faults and machine sizes

An operation of the modelled program returns its result or the fault that ends
it. A failed `assert` aborts the process; `std::length_error` is thrown by a
vector asked to exceed its maximal size; an access outside a vector has no
defined behaviour, so the model stops there instead of choosing one. A label
that describes nothing the current state can do is refused as not enabled.

`size_t` is a natural number below `2 ^ 64` with arithmetic modulo that limit.
The library's maximal vector size on this platform is `PTRDIFF_MAX`.
-/

namespace ReactorNetwork

/-- Why an operation did not return. -/
inductive Fault where
  | assertion
  | lengthError
  | outOfBounds
  | notEnabled
deriving DecidableEq, Repr

/-- A result, or the fault that ended the operation. -/
abbrev Outcome := Except Fault

/-- `assert(condition)`. -/
def require (condition : Prop) [Decidable condition] : Outcome Unit :=
  if condition then .ok () else .error .assertion

/-- A label is taken only where it describes what the state can do. -/
def enabled (condition : Prop) [Decidable condition] : Outcome Unit :=
  if condition then .ok () else .error .notEnabled

/-- A refused memory access. -/
def accessed {α : Type} : Option α → Outcome α
  | some value => .ok value
  | none => .error .outOfBounds

/-- A composed operation returns exactly when both parts do. -/
@[simp] theorem bind_ok {ε α β : Type} (first : Except ε α) (next : α → Except ε β) (result : β) :
    (first >>= next) = .ok result ↔ ∃ value, first = .ok value ∧ next value = .ok result := by
  cases first with
  | error fault => simp [bind, Except.bind]
  | ok value => simp [bind, Except.bind]

/-- A composed operation fails where its first part fails or after it. -/
theorem bind_error {ε α β : Type} (first : Except ε α) (next : α → Except ε β) (fault : ε) :
    (first >>= next) = .error fault ↔
      first = .error fault ∨ ∃ value, first = .ok value ∧ next value = .error fault := by
  cases first with
  | error reason => simp [bind, Except.bind]
  | ok value => simp [bind, Except.bind]

/-- A pure computation returns its value. -/
@[simp] theorem pure_ok {ε α : Type} (value result : α) :
    (pure value : Except ε α) = .ok result ↔ value = result := by
  simp [pure, Except.pure]

/-- An assertion returns exactly where its condition holds. -/
@[simp] theorem require_ok (condition : Prop) [Decidable condition] (result : Unit) :
    require condition = .ok result ↔ condition := by
  by_cases holds : condition <;> simp [require, holds]

/-- An assertion is passed exactly when it holds and the rest returns. -/
theorem require_bind_ok {α : Type} (condition : Prop) [Decidable condition]
    (next : Unit → Outcome α) (result : α) :
    (require condition >>= next) = .ok result ↔ condition ∧ next () = .ok result := by
  simp only [bind_ok, require_ok]
  exact ⟨fun ⟨_, holds, returned⟩ => ⟨holds, returned⟩, fun both => ⟨(), both⟩⟩

/-- An assertion that holds is passed. -/
theorem require_passed {α : Type} {condition : Prop} [Decidable condition] (holds : condition)
    (next : Unit → Outcome α) : (require condition >>= next) = next () := by
  rw [require, if_pos holds]
  rfl

/-- A guard returns exactly where its condition holds. -/
@[simp] theorem enabled_ok (condition : Prop) [Decidable condition] (result : Unit) :
    enabled condition = .ok result ↔ condition := by
  by_cases holds : condition <;> simp [enabled, holds]

/-- A label that is not enabled is refused for that reason only. -/
theorem enabled_error (condition : Prop) [Decidable condition] (fault : Fault) :
    enabled condition = .error fault ↔ ¬ condition ∧ fault = .notEnabled := by
  by_cases holds : condition <;> simp [enabled, holds, eq_comm]

/-- Where it does not hold, the assertion fails. -/
theorem require_error (condition : Prop) [Decidable condition] (fault : Fault) :
    require condition = .error fault ↔ ¬ condition ∧ fault = .assertion := by
  by_cases holds : condition <;> simp [require, holds, eq_comm]

/-- An access returns what is there. -/
@[simp] theorem accessed_ok {α : Type} (access : Option α) (result : α) :
    accessed access = .ok result ↔ access = some result := by
  cases access <;> simp [accessed]

/-- Where nothing is there, it is out of bounds. -/
theorem accessed_error {α : Type} (access : Option α) (fault : Fault) :
    accessed access = .error fault ↔ access = none ∧ fault = .outOfBounds := by
  cases access <;> simp [accessed, eq_comm]

/-- A computation goes on with what is there. -/
theorem accessed_found {α β : Type} {access : Option α} {value : α} (present : access = some value)
    (next : α → Outcome β) : (accessed access >>= next) = next value := by
  rw [present]
  rfl

/-- The operation returns a value that meets the postcondition, or throws
`std::length_error`, and that only for the stated reason. No assertion fails
and no access leaves its vector. -/
inductive Returns {α : Type} (outcome : Outcome α) (tooLong : Prop) (post : α → Prop) : Prop where
  | returned (value : α) (same : outcome = .ok value) (met : post value)
  | threw (same : outcome = .error .lengthError) (reason : tooLong)

/-- A computation that has returned a value with the property. -/
theorem returns_ok {α : Type} {value : α} {tooLong : Prop} {post : α → Prop} (met : post value) :
    Returns (.ok value) tooLong post := .returned value rfl met

/-- An operation that is known to return meets its postcondition there. -/
theorem Returns.of_ok {α : Type} {outcome : Outcome α} {tooLong : Prop} {post : α → Prop}
    {value : α} (returns : Returns outcome tooLong post) (same : outcome = .ok value) :
    post value := by
  cases returns with
  | returned other equal met => exact Except.ok.inj (equal.symm.trans same) ▸ met
  | threw equal _ => exact absurd (equal.symm.trans same) (by simp)

/-- No access is refused, and what is returned meets the postcondition. The
operation may fail in other ways. -/
structure Safely {α : Type} (outcome : Outcome α) (post : α → Prop) : Prop where
  met : ∀ value, outcome = .ok value → post value
  accesses : outcome ≠ .error .outOfBounds

/-- A returned value with the property. -/
theorem safely_pure {α : Type} {value : α} {post : α → Prop} (met : post value) :
    Safely (pure value) post where
  met := by
    intro other same
    obtain rfl := (pure_ok _ _).mp same
    exact met
  accesses := by simp [pure, Except.pure]

/-- A failure is safe unless it is a refused access. -/
theorem safely_error {α : Type} {fault : Fault} {post : α → Prop} (other : fault ≠ .outOfBounds) :
    Safely (.error fault) post where
  met := by
    intro value same
    cases same
  accesses := by simpa using other

/-- An operation that returns or is too long refuses no access. -/
theorem Returns.safely {α : Type} {outcome : Outcome α} {tooLong : Prop} {post : α → Prop}
    (returns : Returns outcome tooLong post) : Safely outcome post := by
  cases returns with
  | returned value same met => exact same ▸ safely_pure met
  | threw same reason => exact same ▸ safely_error (by simp)

/-- Sequencing: the first part's postcondition is the second part's premise. -/
theorem Returns.bind {α β : Type} {first : Outcome α} {next : α → Outcome β} {tooLong : Prop}
    {middle : α → Prop} {post : β → Prop} (returns : Returns first tooLong middle)
    (continued : ∀ value, middle value → Returns (next value) tooLong post) :
    Returns (first >>= next) tooLong post := by
  cases returns with
  | returned value same met =>
    subst same
    exact continued value met
  | threw same reason =>
    subst same
    exact .threw rfl reason

/-- Weaken the postcondition and the reason for throwing. -/
theorem Returns.imp {α : Type} {outcome : Outcome α} {tooLong longer : Prop}
    {post weaker : α → Prop} (returns : Returns outcome tooLong post) (reason : tooLong → longer)
    (weakened : ∀ value, post value → weaker value) : Returns outcome longer weaker := by
  cases returns with
  | returned value same met => exact .returned value same (weakened value met)
  | threw same why => exact .threw same (reason why)

/-- An assertion whose condition holds is passed. -/
theorem Returns.assert {β : Type} {condition : Prop} [Decidable condition]
    {next : Unit → Outcome β} {tooLong : Prop} {post : β → Prop} (holds : condition)
    (continued : Returns (next ()) tooLong post) :
    Returns (require condition >>= next) tooLong post := by
  rw [require, if_pos holds]
  exact continued

/-- A memory access inside its vector continues with the value. -/
theorem Returns.access {α β : Type} {access : Option α} {value : α} {next : α → Outcome β}
    {tooLong : Prop} {post : β → Prop} (present : access = some value)
    (continued : Returns (next value) tooLong post) :
    Returns (accessed access >>= next) tooLong post := by
  subst present
  exact continued

/-- A guarded run of returning steps returns, and keeps the relation its steps
keep. It throws only where one of its steps does, in the state reached there. -/
theorem run_returns {State Label : Type} (step : State → Label → Outcome State)
    (guard : State → Label → Prop) (tooLong : State → Label → Prop)
    (related : List Label → State → Prop)
    (kept : ∀ past state label, related past state → guard state label →
      Returns (step state label) (tooLong state label) (related (past ++ [label])))
    (past labels : List Label) (state : State) (initial : related past state)
    (guarded : Runs.Along step guard state labels) :
    Returns (Runs.run step state labels)
      (∃ before label after middle, labels = before ++ label :: after ∧
        Runs.run step state before = .ok middle ∧ tooLong middle label)
      (related (past ++ labels)) := by
  induction labels generalizing past state with
  | nil => exact returns_ok (by simpa using initial)
  | cons label rest inductionHypothesis =>
    cases kept past state label initial guarded.1 with
    | threw taken reason =>
      exact .threw (Runs.run_failed step taken rest) ⟨[], label, rest, state, rfl, rfl, reason⟩
    | returned next taken advanced =>
      rw [Runs.run_returned step taken rest]
      have following :=
        inductionHypothesis (past ++ [label]) next advanced (guarded.2 next taken)
      refine following.imp ?_ (fun last holds => by simpa using holds)
      rintro ⟨before, failing, after, middle, split, reached, reason⟩
      exact ⟨label :: before, failing, after, middle, by rw [split]; rfl,
        (Runs.run_cons step state middle label before).mpr ⟨next, taken, reached⟩, reason⟩

/-- A guarded run of safe steps is safe, and keeps the invariant its steps keep. -/
theorem run_safely {State Label : Type} (step : State → Label → Outcome State)
    (guard : State → Label → Prop) (invariant : State → Prop)
    (kept : ∀ state label, invariant state → guard state label →
      Safely (step state label) invariant)
    (labels : List Label) (state : State) (initial : invariant state)
    (guarded : Runs.Along step guard state labels) :
    Safely (Runs.run step state labels) invariant where
  met := fun last reached => Runs.guarded_invariant step guard invariant
    (fun before label next holds allowed taken => (kept before label holds allowed).met next taken)
    labels state last initial guarded reached
  accesses := Runs.guarded_unfailing step guard .outOfBounds invariant
    (fun before label next holds allowed taken => (kept before label holds allowed).met next taken)
    (fun before label holds allowed => (kept before label holds allowed).accesses)
    labels state initial guarded

/-- A vector visited by index: the element at the index heads the rest. -/
theorem drop_at {α : Type} {elements : List α} {index : Nat} {element : α}
    (present : elements[index]? = some element) :
    elements.drop index = element :: elements.drop (index + 1) := by
  obtain ⟨inside, same⟩ := List.getElem?_eq_some_iff.mp present
  rw [List.drop_eq_getElem_cons inside, same]

/-- The number of `size_t` values. -/
def sizeLimit : Nat := 2 ^ 64

/-- `size_t` addition. -/
def sizeAdd (left right : Nat) : Nat := (left + right) % sizeLimit

/-- `size_t` subtraction. -/
def sizeSub (left right : Nat) : Nat := (sizeLimit - right + left) % sizeLimit

/-- A sum below the limit does not wrap. -/
theorem sizeAdd_exact (left right : Nat) (fits : left + right < sizeLimit) :
    sizeAdd left right = left + right := Nat.mod_eq_of_lt fits

/-- A difference of ordered sizes does not wrap. -/
theorem sizeSub_exact (left right : Nat) (ordered : right ≤ left) (fits : left < sizeLimit) :
    sizeSub left right = left - right := by
  unfold sizeSub
  have shifted : sizeLimit - right + left = (left - right) + sizeLimit := by omega
  rw [shifted, Nat.add_mod_right, Nat.mod_eq_of_lt (by omega)]

/-- `std::vector<char>::max_size()`. -/
def vectorMaxSize : Nat := 2 ^ 63 - 1

/-- `std::vector::resize`: keep a prefix, fill with value-initialized elements,
and throw above the maximal size. -/
def resize {α : Type} (fill : α) (cells : List α) (size : Nat) : Outcome (List α) :=
  if size ≤ vectorMaxSize then
    .ok (cells.take size ++ List.replicate (size - cells.length) fill)
  else .error .lengthError

/-- A vector that was resized has the size it was given, which is allowed. -/
theorem resize_length {α : Type} {fill : α} {cells resized : List α} {size : Nat}
    (returned : resize fill cells size = .ok resized) :
    resized.length = size ∧ size ≤ vectorMaxSize := by
  unfold resize at returned
  split at returned
  case isFalse => cases returned
  case isTrue allowed =>
    obtain rfl := Except.ok.inj returned
    rw [List.length_append, List.length_take, List.length_replicate]
    exact ⟨by omega, allowed⟩

/-- Growing keeps every cell and appends the fill. -/
theorem resize_grow {α : Type} (fill : α) (cells : List α) (size : Nat)
    (grows : cells.length ≤ size) (fits : size ≤ vectorMaxSize) :
    resize fill cells size = .ok (cells ++ List.replicate (size - cells.length) fill) := by
  simp [resize, fits, List.take_of_length_le grows]

end ReactorNetwork
