import Mathlib.Data.Int.CardIntervalMod
import ReactorNetwork.EventLoopThreadPool
import ReactorNetwork.ThreadConfinement

/-!
# Handing out the loops of a pool

`get_next_loop` returns the loop at `next_`, moves the index on and sets it back
to zero at the end of `loops_`. The index is an `int`; it is converted to `size_t`
for the access and again for the comparison with the size of the vector. A pool
without loops returns the base loop and leaves the index alone.

What the calls rely on is what `start` leaves behind: it fills the vector once, in
a loop that an `int` counts, with the loops of different threads.

A server calls it once for each accepted connection. Its model counts with natural
numbers; it hands out the loops as the pool does, and its connections are spread over
them in turn, whatever its threads do in between.
-/

namespace ReactorNetwork.RoundRobin

open EventLoopThreadPool

/-- `INT_MAX`. -/
def intMax : Nat := 2 ^ 31 - 1

/-- `next_++`. An overflow has no defined result. -/
def increment (value : Int) : Option Int :=
  if value < intMax then some (value + 1) else none

/-- The conversion of an `int` to `size_t`. -/
def sizeOfInt (value : Int) : Nat := (value % sizeLimit).toNat

/-- The pool with `base_loop_` and `next_`. -/
structure Pool (Loop : Type) extends State Loop where
  baseLoop : Loop
  next : Int
deriving DecidableEq, Repr

variable {Loop : Type}

namespace Pool

/-- The constructor. -/
def create (baseLoop : Loop) : Pool Loop where
  toState := EventLoopThreadPool.create
  baseLoop := baseLoop
  next := 0

/-- `set_thread_num`. -/
def setThreadNum (p : Pool Loop) (numThreads : Int) : Pool Loop :=
  { p with toState := EventLoopThreadPool.setThreadNum p.toState numThreads }

/-- `start`, which leaves the turn alone. -/
def start (published : Nat → Loop) (p : Pool Loop) : Outcome (Pool Loop) := do
  let started ← EventLoopThreadPool.start published p.toState
  pure { p with toState := started }

/-- `assert_in_loop_thread` only logs. -/
def getNextLoop (p : Pool Loop) : Outcome (Pool Loop × Loop) :=
  if p.loops = [] then pure (p, p.baseLoop)
  else do
    let loop ← accessed p.loops[sizeOfInt p.next]?
    let next ← accessed (increment p.next)
    if p.loops.length ≤ sizeOfInt next then pure ({ p with next := 0 }, loop)
    else pure ({ p with next := next }, loop)

/-- So many calls, one after the other, with what they return. -/
def getLoops (p : Pool Loop) : Nat → Outcome (Pool Loop × List Loop)
  | 0 => pure (p, [])
  | k + 1 => do
      let (q, returned) ← p.getLoops k
      let (after, loop) ← q.getNextLoop
      pure (after, returned ++ [loop])

/-- A pool before the first call. The loops are objects of different threads, as many
as an `int` counts. -/
structure Filled (p : Pool Loop) : Prop where
  counted : p.loops.length ≤ intMax
  distinct : p.loops.Nodup
  first : p.next = 0

/-- The loop whose turn it is at a call. -/
def turn (p : Pool Loop) (positive : 0 < p.loops.length) (j : Nat) : Loop :=
  p.loops.get ⟨j % p.loops.length, Nat.mod_lt j positive⟩

end Pool

section Start

variable {published : Nat → Loop}

/-- An iteration of `start` that returns adds one loop. -/
theorem startOne_loops {s t : State Loop} {i : Nat} (returned : startOne published s i = .ok t) :
    t.loops = s.loops ++ [published i] := by
  obtain ⟨⟨running, loop⟩, started, same⟩ := (bind_ok _ _ _).mp returned
  obtain rfl := (pure_ok _ _).mp same
  obtain ⟨_, _, continued⟩ := (bind_ok _ _ _).mp started
  obtain ⟨_, _, finished⟩ := (bind_ok _ _ _).mp continued
  obtain ⟨_, result⟩ := (require_bind_ok _ _ _).mp finished
  obtain ⟨rfl, rfl⟩ := Prod.mk.inj ((pure_ok _ _).mp result)
  rfl

/-- The loops are added in the order of the iterations. -/
theorem startAll_loops {s t : State Loop} (indices : List Nat)
    (returned : indices.foldlM (startOne published) s = .ok t) :
    t.loops = s.loops ++ indices.map published := by
  induction indices generalizing s with
  | nil =>
    obtain rfl := (pure_ok _ _).mp returned
    simp
  | cons i rest inductionHypothesis =>
    obtain ⟨next, one, continued⟩ := (bind_ok _ _ _).mp returned
    rw [inductionHypothesis continued, startOne_loops one]
    simp

/-- What the calls rely on holds of every pool that `start` returns, for every number of
threads that an `int` can hold. Such a pool has no loops: with threads to start, `start`
uses the moved `t` and does not return, so for a pool with loops nothing is shown here. -/
theorem start_filled (baseLoop : Loop) {numThreads : Int} (ranged : numThreads ≤ intMax)
    (different : Function.Injective published) {p : Pool Loop}
    (returned : ((Pool.create baseLoop).setThreadNum numThreads).start published = .ok p) :
    p.Filled := by
  obtain ⟨started, filled, same⟩ := (bind_ok _ _ _).mp returned
  obtain rfl := (pure_ok _ _).mp same
  obtain ⟨_, looped⟩ := (require_bind_ok _ _ _).mp filled
  have loops : started.loops = (List.range numThreads.toNat).map published :=
    startAll_loops _ looped
  refine ⟨?_, ?_, rfl⟩
  · simp only [loops, List.length_map, List.length_range]
    omega
  · simp only [loops]
    exact List.nodup_range.map different

end Start

section Calls

variable {p : Pool Loop}

/-- An index that is not negative keeps its value. -/
theorem sizeOfInt_exact (value : Nat) (ranged : value < sizeLimit) : sizeOfInt value = value := by
  have small : (value : Int) % (sizeLimit : Int) = value :=
    Int.emod_eq_of_lt (Int.natCast_nonneg value) (by exact_mod_cast ranged)
  rw [sizeOfInt, small, Int.toNat_natCast]

/-- Below the limit of `int` the increment adds one. -/
theorem increment_exact (value : Nat) (ranged : value < intMax) :
    increment value = some ((value + 1 : Nat) : Int) := by
  rw [increment, if_pos (by exact_mod_cast ranged)]
  rfl

/-- The index is set back exactly where the next residue is zero. -/
theorem turned (n j : Nat) (positive : 0 < n) :
    (if n ≤ j % n + 1 then 0 else j % n + 1) = (j + 1) % n := by
  have inside := Nat.mod_lt j positive
  rw [← Nat.mod_add_mod]
  by_cases last : j % n + 1 = n
  · rw [last, if_pos (Nat.le_refl n), Nat.mod_self]
  · have short : j % n + 1 < n := by omega
    rw [if_neg (by omega), Nat.mod_eq_of_lt short]

/-- One call in the middle of a round, or at its end.

Proof: the index is below the number of loops, so neither conversion changes it and the
increment does not overflow. -/
theorem getNextLoop_turn (counted : p.loops.length ≤ intMax) (positive : 0 < p.loops.length)
    (j : Nat) (here : p.next = (j % p.loops.length : Nat)) :
    p.getNextLoop =
      .ok ({ p with next := ((j + 1) % p.loops.length : Nat) }, p.turn positive j) := by
  have inside : j % p.loops.length < p.loops.length := Nat.mod_lt j positive
  have limit : intMax < sizeLimit := by decide
  have some' : p.loops ≠ [] := List.ne_nil_of_length_pos positive
  have found : p.loops[j % p.loops.length]? = some (p.turn positive j) :=
    List.getElem?_eq_getElem inside
  rw [Pool.getNextLoop, if_neg some', here, sizeOfInt_exact _ (by omega), accessed_found found,
    increment_exact _ (by omega)]
  simp only [accessed, bind, Except.bind]
  rw [sizeOfInt_exact _ (by omega)]
  rw [← turned p.loops.length j positive]
  split <;> rfl

/-- The calls of a pool with loops return, and after them it is the turn of their number. -/
theorem getLoops_turns (filled : p.Filled) (positive : 0 < p.loops.length) (k : Nat) :
    p.getLoops k = .ok ({ p with next := (k % p.loops.length : Nat) },
      (List.range k).map (p.turn positive)) := by
  induction k with
  | zero =>
    have start : ((0 % p.loops.length : Nat) : Int) = p.next := by
      rw [Nat.zero_mod, filled.first]
      rfl
    rw [start]
    rfl
  | succ k inductionHypothesis =>
    have call := getNextLoop_turn (p := { p with next := (k % p.loops.length : Nat) })
      filled.counted positive k rfl
    rw [Pool.getLoops, inductionHypothesis]
    simp only [bind, Except.bind, call, List.range_succ, List.map_append]
    rfl

/-- Without loops there is only the base loop. -/
theorem getLoops_base (none : p.loops = []) (k : Nat) :
    p.getLoops k = .ok (p, List.replicate k p.baseLoop) := by
  induction k with
  | zero => rfl
  | succ k inductionHypothesis =>
    rw [Pool.getLoops, inductionHypothesis]
    simp only [bind, Except.bind, Pool.getNextLoop, if_pos none, List.replicate_succ']
    rfl

variable [DecidableEq Loop]

/-- How often a loop was returned: once in every full round, and once more if its place
lies before the end of the last one. -/
theorem turns_count (filled : p.Filled) (positive : 0 < p.loops.length) (k place : Nat)
    (inside : place < p.loops.length) :
    ((List.range k).map (p.turn positive)).count (p.loops.get ⟨place, inside⟩) =
      k / p.loops.length + if place < k % p.loops.length then 1 else 0 := by
  have same : ∀ j, p.turn positive j = p.loops.get ⟨place, inside⟩ ↔
      j ≡ place [MOD p.loops.length] := by
    intro j
    rw [Pool.turn, filled.distinct.get_inj_iff, Fin.mk.injEq, Nat.ModEq, Nat.mod_eq_of_lt inside]
  calc ((List.range k).map (p.turn positive)).count (p.loops.get ⟨place, inside⟩)
      = Nat.count (fun j => j ≡ place [MOD p.loops.length]) k := by
        rw [List.count, List.countP_map, Nat.count]
        refine List.countP_congr ?_
        intro j _
        simpa using same j
    _ = k / p.loops.length + if place < k % p.loops.length then 1 else 0 := by
        rw [Nat.count_modEq_card k positive place, Nat.mod_eq_of_lt inside]

/-- For every pool and every number of calls. With loops the index stays inside them,
no access is refused, the calls return the loops in turn, and no loop is returned more
than once more often than another. Without loops each call returns the base loop.

Proof: the index before a call is the residue of the number of calls so far, by
induction over the calls; the calls that return one loop are those with the residue of
its place. -/
theorem loops_handed_out_in_turn (p : Pool Loop) (filled : p.Filled) (k : Nat) :
    ∃ after returned, p.getLoops k = .ok (after, returned) ∧ returned.length = k ∧
      (p.loops = [] → ∀ loop ∈ returned, loop = p.baseLoop) ∧
      (1 ≤ p.loops.length →
        (0 ≤ after.next ∧ after.next < p.loops.length) ∧
        (∀ j < k, returned[j]? = p.loops[j % p.loops.length]?) ∧
        ∀ one ∈ p.loops, ∀ other ∈ p.loops, returned.count one ≤ returned.count other + 1) := by
  by_cases none : p.loops = []
  · refine ⟨p, List.replicate k p.baseLoop, getLoops_base none k, by simp, ?_, ?_⟩
    · intro _ loop member
      exact List.eq_of_mem_replicate member
    · intro positive
      simp [none] at positive
  · have positive : 0 < p.loops.length := List.length_pos_of_ne_nil none
    refine ⟨_, _, getLoops_turns filled positive k, by simp, fun empty => absurd empty none, ?_⟩
    intro _
    refine ⟨⟨Int.natCast_nonneg _, ?_⟩, ?_, ?_⟩
    · exact Int.ofNat_lt.mpr (Nat.mod_lt k positive)
    · intro j called
      rw [List.getElem?_map, List.getElem?_range called,
        List.getElem?_eq_getElem (Nat.mod_lt j positive)]
      rfl
    · intro one member other present
      obtain ⟨first, rfl⟩ := List.get_of_mem member
      obtain ⟨second, rfl⟩ := List.get_of_mem present
      rw [turns_count filled positive k first first.isLt,
        turns_count filled positive k second second.isLt]
      split <;> split <;> omega

/-- A pool of three loops. -/
def threeLoops : Pool Nat where
  objects := [⟨1, some 10⟩, ⟨1, some 20⟩, ⟨1, some 30⟩]
  started := true
  numThreads := 3
  threads := [some 0, some 1, some 2]
  loops := [10, 20, 30]
  baseLoop := 0
  next := 0

/-- The fourth call returns the first of three loops again. -/
theorem loops_handed_out_threeLoops :
    threeLoops.Filled ∧ ∃ after returned, threeLoops.getLoops 4 = .ok (after, returned) ∧
      returned[3]? = some 10 ∧ returned.count 10 ≤ returned.count 20 + 1 := by
  have filled : threeLoops.Filled := ⟨by decide, by decide, rfl⟩
  obtain ⟨after, returned, called, _, _, inTurn⟩ := loops_handed_out_in_turn threeLoops filled 4
  obtain ⟨_, each, even⟩ := inTurn (by decide)
  exact ⟨filled, after, returned, called, each 3 (by decide), even 10 (by decide) 20 (by decide)⟩

end Calls

section Server

open ThreadConfinement

variable {name : List Char} {ioLoops : Nat} {s t : ThreadConfinement.State}

/-- The server's model hands out the loops as the pool does. -/
theorem getNextLoop_server {p : Pool Nat} (counted : p.loops.length ≤ intMax)
    (base : p.baseLoop = 0) (numbered : p.loops = (List.range ioLoops).map (· + 1)) (j : Nat)
    (here : p.next = (j % ioLoops : Nat)) :
    p.getNextLoop =
      .ok ({ p with next := ((ThreadConfinement.getNextLoop ioLoops (j % ioLoops)).2 : Nat) },
        (ThreadConfinement.getNextLoop ioLoops (j % ioLoops)).1) := by
  have length : p.loops.length = ioLoops := by rw [numbered, List.length_map, List.length_range]
  unfold ThreadConfinement.getNextLoop
  by_cases none : ioLoops = 0
  · have empty : p.loops = [] := List.length_eq_zero_iff.mp (length.trans none)
    have unmoved : p = { p with next := (j % ioLoops : Nat) } := by rw [← here]
    rw [if_pos none, Pool.getNextLoop, if_pos empty]
    exact congrArg Except.ok (Prod.ext unmoved base)
  · have positive : 0 < p.loops.length := by omega
    have number : p.turn positive j = j % ioLoops + 1 := by
      simp [Pool.turn, numbered]
    rw [if_neg none, getNextLoop_turn counted positive j (by rw [length]; exact here), number, length]
    simp only [turned ioLoops j (by omega)]

/-- The effects of a connection's functions ask for no loop. -/
theorem effects_next (s : ThreadConfinement.State) (id : Nat) (effects : List Effect) :
    (effects.foldl (fun state effect => state.effect id effect) s).next = s.next := by
  induction effects generalizing s with
  | nil => rfl
  | cons effect rest inductionHypothesis =>
    rw [List.foldl_cons, inductionHypothesis]
    cases effect <;> rfl

/-- Nor does the removal on the server's thread. -/
theorem removeConnectionInLoop_next {thread id : Nat}
    (taken : ThreadConfinement.removeConnectionInLoop name s thread id = .ok t) : t.next = s.next := by
  obtain ⟨connections, _, same⟩ := (bind_ok _ _ _).mp taken
  obtain rfl := (pure_ok _ _).mp same
  rfl

/-- Nor does the removal from any other thread. -/
theorem removeConnection_next {thread id : Nat}
    (taken : ThreadConfinement.removeConnection name s thread id = .ok t) : t.next = s.next := by
  unfold ThreadConfinement.removeConnection at taken
  split at taken
  · exact removeConnectionInLoop_next taken
  · obtain rfl := (pure_ok _ _).mp taken
    rfl

/-- Nor does a queued functor. -/
theorem runFunctor_next {thread : Nat} {result : WriteResult} {functor : ThreadConfinement.Functor}
    (taken : ThreadConfinement.runFunctor name s thread result functor = .ok t) :
    t.next = s.next := by
  cases functor with
  | removeConnectionInLoop id => exact removeConnectionInLoop_next taken
  | connectDestoryed id | sendInLoop id message =>
    obtain ⟨⟨c, effects⟩, _, same⟩ := (bind_ok _ _ _).mp taken
    obtain rfl := (pure_ok _ _).mp same
    exact effects_next _ id effects
  | shutdownInLoop id | writeComplete id =>
    obtain rfl := (pure_ok _ _).mp taken
    rfl

/-- Only an accept asks for a loop. -/
theorem step_next (label : ThreadConfinement.Label) (other : label.accepts = false)
    (taken : ThreadConfinement.step name ioLoops s label = .ok t) : t.next = s.next := by
  cases stepped taken with
  | accept => cases other
  | closing thread _ _ id callback _ _ c effects _ _ _ _ removed =>
    exact (removeConnection_next removed).trans (effects_next _ id effects)
  | callback thread _ _ id callback _ _ c effects => exact effects_next _ id effects
  | runFunctor thread _ _ rest _ _ ran => exact (runFunctor_next ran).trans rfl
  | sent thread id _ _ c effects => exact effects_next _ id effects
  | _ => rfl

/-- The connections so far have taken the loops in turn, and it is the next one's. -/
structure Spread (ioLoops : Nat) (s : ThreadConfinement.State) : Prop where
  next : s.next = s.created % ioLoops
  loopOf : ∀ id < s.created, s.loopOf id = id % ioLoops + 1

/-- Every step keeps the turn: an accept takes the next loop, and nothing else takes
any. -/
theorem step_spread (pooled : 0 < ioLoops) (label : ThreadConfinement.Label)
    (spread : Spread ioLoops s) (taken : ThreadConfinement.step name ioLoops s label = .ok t) :
    Spread ioLoops t := by
  by_cases accepts : label.accepts = true
  · cases stepped taken with
    | accept _ _ _ c effects =>
      have handed : ThreadConfinement.getNextLoop ioLoops s.next =
          (s.created % ioLoops + 1, (s.created + 1) % ioLoops) := by
        rw [ThreadConfinement.getNextLoop, if_neg (by omega), spread.next,
          turned ioLoops s.created pooled]
      have continued := perform_continued (enter name ioLoops s) 0 s.created [.connectEstablished] c
        effects
      have entered : (enter name ioLoops s).next = (s.created + 1) % ioLoops := by
        simp only [enter, handed, State.access]
      have loopOf : (enter name ioLoops s).loopOf =
          Function.update s.loopOf s.created (s.created % ioLoops + 1) := by
        simp only [enter, handed, State.access]
      refine ⟨?_, ?_⟩
      · rw [continued.created]
        exact (effects_next _ s.created effects).trans entered
      · intro id below
        rw [continued.created] at below
        rw [continued.loopOf, loopOf]
        by_cases here : id = s.created
        · rw [here, Function.update_self]
        · rw [Function.update_of_ne here]
          exact spread.loopOf id (Nat.lt_of_le_of_ne (Nat.le_of_lt_succ below) here)
    | _ => cases accepts
  · have other : label.accepts = false := by simpa using accepts
    have continued := step_continued label other taken
    refine ⟨?_, ?_⟩
    · rw [step_next label other taken, continued.created]
      exact spread.next
    · rw [continued.created, continued.loopOf]
      exact spread.loopOf

/-- In every run of a server with IO loops, each connection has the loop whose turn it
was when it was accepted, whatever the threads did before and after. -/
theorem connections_spread (name : List Char) (pooled : 0 < ioLoops)
    (labels : List ThreadConfinement.Label) (s : ThreadConfinement.State)
    (reached : Runs.run (ThreadConfinement.step name ioLoops) initial labels = .ok s) :
    ∀ id < s.created, s.loopOf id = id % ioLoops + 1 := by
  have spread : Spread ioLoops s :=
    Runs.invariant (ThreadConfinement.step name ioLoops) (Spread ioLoops)
      (fun _ label _ before taken => step_spread pooled label before taken) labels initial s
      ⟨(Nat.zero_mod ioLoops).symm, fun id below => absurd below (Nat.not_lt_zero id)⟩ reached
  exact spread.loopOf

/-- How many connections a loop has been given. -/
def load (s : ThreadConfinement.State) (loop : Nat) : Nat :=
  ((List.range s.created).map s.loopOf).count loop

/-- In every run of a server with IO loops the connections are handed to the loops in turn
and stay with them, so each loop has been given the same number, and each of the first ones
one more for what is left over. -/
theorem connections_balanced (name : List Char) (pooled : 0 < ioLoops)
    (labels : List ThreadConfinement.Label) (s : ThreadConfinement.State)
    (reached : Runs.run (ThreadConfinement.step name ioLoops) initial labels = .ok s) :
    (∀ id < s.created, s.loopOf id = id % ioLoops + 1) ∧
      ∀ place < ioLoops, load s (place + 1) =
        s.created / ioLoops + if place < s.created % ioLoops then 1 else 0 := by
  have spread := connections_spread name pooled labels s reached
  refine ⟨spread, ?_⟩
  intro place inside
  calc load s (place + 1)
      = Nat.count (fun id => id ≡ place [MOD ioLoops]) s.created := by
        rw [load, List.count, List.countP_map, Nat.count]
        refine List.countP_congr ?_
        intro id below
        simp only [Function.comp_apply, beq_iff_eq, decide_eq_true_eq]
        rw [spread id (List.mem_range.mp below), Nat.ModEq, Nat.mod_eq_of_lt inside]
        omega
    _ = s.created / ioLoops + if place < s.created % ioLoops then 1 else 0 := by
        rw [Nat.count_modEq_card s.created pooled place, Nat.mod_eq_of_lt inside]

end Server

/-- Three connections for two loops; the second is closed by its own loop before the third. -/
def threeAccepted : List ThreadConfinement.Label :=
  [.poll 0 [], .accept 4 false, .accept 5 false, .poll 2 [1], .dispatch 2 POLLIN,
    .callback 2 (.received []) (.failed 0), .accept 6 false]

/-- Two of the three connections are on the first loop, although the second was closed
before the third came. -/
theorem connections_balanced_threeAccepted :
    ∃ s, Runs.run (ThreadConfinement.step [] 2) ThreadConfinement.initial threeAccepted = .ok s ∧
      s.created = 3 ∧ s.loopOf 2 = 1 ∧ load s 1 = 2 ∧ load s 2 = 1 := by
  have computed : (Runs.run (ThreadConfinement.step [] 2) ThreadConfinement.initial
      threeAccepted).map (fun s => s.created) = .ok 3 := by
    decide +kernel
  obtain ⟨s, reached, created⟩ := (Runs.map_returned _ _ _).mp computed
  obtain ⟨turns, loads⟩ := connections_balanced [] (by decide) threeAccepted s reached
  have first := loads 0 (by decide)
  have second := loads 1 (by decide)
  rw [created] at turns first second
  exact ⟨s, reached, created, turns 2 (by decide), first, second⟩

end ReactorNetwork.RoundRobin
