import Mathlib.Data.List.Induction
import ReactorNetwork.EventLoop

/-!
# Requests to quit

Any thread may call `quit` at any time after the loop is constructed. The store
to `quit_` is a step; so is the store that clears it at the start of `loop`, and
so is each test of the `while` loop. A test that passes leads to the one poll
behind it, which may have begun or not when another thread takes its next step.

A request is outstanding from its store to the next return of `loop`. It is kept
if `quit_` stays set for as long as it is outstanding and no test passes. What
loses it is the start of `loop`.
-/

namespace ReactorNetwork.QuitRequests

open Runs EventLoop

variable {Thread Functor : Type}

/-- What a step stores to `quit_`. -/
def stored (quit : Bool) : Label Thread Functor → Bool
  | .quit _ => true
  | .enterLoop => false
  | _ => quit

/-- Whether a request is outstanding after a step. -/
def awaited (outstanding : Bool) : Label Thread Functor → Bool
  | .quit _ => true
  | .leaveLoop => false
  | _ => outstanding

/-- A request has been made since the loop was constructed or last returned. -/
def outstanding (past : List (Label Thread Functor)) : Bool := past.foldl awaited false

/-- `loop` is entered only while no request is outstanding. -/
def EnteredUnasked (labels : List (Label Thread Functor)) : Prop :=
  ∀ before after, labels = before ++ .enterLoop :: after → outstanding before = false

/-- Whether a request is outstanding after one more step. -/
theorem outstanding_concat (past : List (Label Thread Functor)) (label : Label Thread Functor) :
    outstanding (past ++ [label]) = awaited (outstanding past) label := by
  simp [outstanding]

/-- An outstanding request was made, and the loop has not returned since. -/
theorem outstanding_iff (past : List (Label Thread Functor)) :
    outstanding past = true ↔
      ∃ before thread middle, past = before ++ .quit thread :: middle ∧ Label.leaveLoop ∉ middle := by
  induction past using List.reverseRecOn with
  | nil => simp [outstanding]
  | append_singleton past label inductionHypothesis =>
    rw [outstanding_concat]
    constructor
    · intro waiting
      by_cases requests : ∃ thread, label = .quit thread
      · obtain ⟨thread, rfl⟩ := requests
        exact ⟨past, thread, [], rfl, List.not_mem_nil⟩
      · have earlier : outstanding past = true ∧ label ≠ .leaveLoop := by
          cases label with
          | quit thread => exact absurd ⟨thread, rfl⟩ requests
          | leaveLoop => cases waiting
          | _ => exact ⟨waiting, by simp⟩
        obtain ⟨before, thread, middle, rfl, stays⟩ := inductionHypothesis.mp earlier.1
        refine ⟨before, thread, middle ++ [label], by simp, ?_⟩
        simp [stays, Ne.symm earlier.2]
    · rintro ⟨before, thread, middle, split, stays⟩
      rcases List.eq_nil_or_concat middle with rfl | ⟨earlier, last, rfl⟩
      · obtain ⟨-, rfl⟩ := List.append_inj' split rfl |>.imp id List.singleton_inj.mp
        rfl
      · have parts : past = before ++ .quit thread :: earlier ∧ label = last := by
          have whole : past ++ [label] = (before ++ .quit thread :: earlier) ++ [last] := by
            simpa using split
          exact (List.append_inj' whole rfl).imp id List.singleton_inj.mp
        obtain ⟨rfl, rfl⟩ := parts
        simp only [List.concat_eq_append, List.mem_append, List.mem_singleton, not_or] at stays
        have waiting := inductionHypothesis.mpr ⟨before, thread, earlier, rfl, stays.1⟩
        cases label with
        | leaveLoop => exact absurd rfl stays.2
        | quit thread => rfl
        | _ => exact waiting

/-- While `loop` is only entered unasked, an outstanding request keeps `quit_`
set. -/
theorem stored_of_outstanding {labels : List (Label Thread Functor)}
    (unasked : EnteredUnasked labels) (waiting : outstanding labels = true) :
    labels.foldl stored false = true := by
  induction labels using List.reverseRecOn with
  | nil => cases waiting
  | append_singleton past label inductionHypothesis =>
    rw [outstanding_concat] at waiting
    have earlier : EnteredUnasked past := fun before after split =>
      unasked before (after ++ [label]) (by simp [split])
    rw [List.foldl_append, List.foldl_cons, List.foldl_nil]
    cases label with
    | quit thread => rfl
    | leaveLoop => cases waiting
    | enterLoop =>
      have none := unasked past [] rfl
      exact absurd (waiting.symm.trans none) (by decide)
    | _ => exact inductionHypothesis earlier waiting

variable [DecidableEq Thread]

/-- `quit_` holds what was stored to it last. -/
theorem step_quit {loopThread : Thread} {s t : State Thread Functor}
    {label : Label Thread Functor} (taken : step loopThread s label = .ok t) :
    t.quit = stored s.quit label := by
  unfold step at taken
  split at taken
  case h_5 =>
    obtain ⟨_, _, moved⟩ := (bind_ok _ _ _).mp taken
    unfold loopStep at moved
    split at moved
    case h_10 =>
      split at moved
      · cases moved
      · obtain rfl := (pure_ok _ _).mp moved
        rfl
    case h_13 => cases moved
    all_goals
      simp only [bind_ok, pure_ok] at moved
      first
        | subst moved; rfl
        | obtain ⟨_, _, rfl⟩ := moved; rfl
  all_goals
    simp only [callStep, bind_ok, pure_ok] at taken
    obtain ⟨_, _, rfl⟩ := taken
    rfl

/-- `quit_` holds what the steps of the run stored last. -/
theorem run_quit {loopThread : Thread} {labels : List (Label Thread Functor)}
    {s : State Thread Functor} (reached : run (step loopThread) initial labels = .ok s) :
    s.quit = labels.foldl stored false :=
  folded (step loopThread) State.quit stored (fun _ _ _ taken => step_quit taken) labels initial s
    reached

/-- A test passes only while `quit_` is clear. -/
theorem enterPoll_clear {loopThread : Thread} {s t : State Thread Functor}
    (taken : step loopThread s .enterPoll = .ok t) : s.quit = false := by
  simp only [step, bind_ok, enabled_ok] at taken
  obtain ⟨_, _, moved⟩ := taken
  cases at_ : s.position with
  | atTest =>
    simp only [loopStep, at_, bind_ok, enabled_ok] at moved
    obtain ⟨_, clear, _⟩ := moved
    exact clear
  | _ => simp [loopStep, at_] at moved

/-- After each request, and until `loop` returns, `quit_` is set and no test of
the `while` loop passes. The only poll that can still begin is the one behind the
last test before the request. -/
def Kept (loopThread : Thread) (labels : List (Label Thread Functor)) : Prop :=
  ∀ before thread middle after s, labels = before ++ .quit thread :: middle ++ after →
    Label.leaveLoop ∉ middle →
    run (step loopThread) initial (before ++ .quit thread :: middle) = .ok s →
    s.quit = true ∧ Label.enterPoll ∉ middle

/-- The requests of a run are kept exactly when `loop` is never entered while one
is outstanding.

Proof: only the start of `loop` clears `quit_`. If it is never taken with a
request outstanding, the flag is set while one is, and a test that passed would
have found it clear. A start that is taken then clears the flag of a request
that no return of `loop` has answered. -/
theorem quit_kept_iff (loopThread : Thread) (labels : List (Label Thread Functor))
    (last : State Thread Functor) (reached : run (step loopThread) initial labels = .ok last) :
    Kept loopThread labels ↔ EnteredUnasked labels := by
  constructor
  · intro kept before after split
    by_contra waiting
    obtain ⟨first, thread, middle, rfl, stays⟩ :=
      (outstanding_iff before).mp (Bool.not_eq_false _ ▸ waiting)
    have longer : labels = first ++ .quit thread :: (middle ++ [.enterLoop]) ++ after := by
      simp [split]
    rw [longer] at reached
    obtain ⟨s, started, -⟩ := (run_append _ _ _ _ _).mp reached
    have asked := (kept first thread (middle ++ [.enterLoop]) after s longer (by simp [stays])
      started).1
    have cleared := run_quit started
    simp [stored, asked] at cleared
  · intro unasked before thread middle after s split stays started
    have prefixes : ∀ part rest, middle = part ++ rest →
        (before ++ .quit thread :: part).foldl stored false = true := by
      rintro part rest rfl
      apply stored_of_outstanding
      · intro earlier later cut
        have longer : labels = (before ++ .quit thread :: part) ++ (rest ++ after) := by
          simp [split]
        exact unasked earlier (later ++ (rest ++ after)) (by rw [longer, cut]; simp)
      · exact (outstanding_iff _).mpr ⟨before, thread, part, rfl, fun member =>
          stays (List.mem_append_left _ member)⟩
    refine ⟨(run_quit started).trans (prefixes middle [] (by simp)), ?_⟩
    intro passed
    obtain ⟨part, rest, cut⟩ := List.append_of_mem passed
    have whole : before ++ .quit thread :: middle =
        (before ++ .quit thread :: part) ++ .enterPoll :: rest := by simp [cut]
    rw [whole] at started
    obtain ⟨u, arrived, continued⟩ := (run_append _ _ _ _ _).mp started
    obtain ⟨v, tested, -⟩ := (run_cons _ _ _ _ _).mp continued
    have set_ := (run_quit arrived).trans (prefixes part (.enterPoll :: rest) cut)
    exact absurd (set_.symm.trans (enterPoll_clear tested)) (by decide)

omit [DecidableEq Thread] in
/-- A loop that is entered first and not again is entered unasked. -/
theorem enteredUnasked_once {labels : List (Label Thread Functor)}
    (once : Label.enterLoop ∉ labels) : EnteredUnasked (.enterLoop :: labels) := by
  intro before after split
  cases before with
  | nil => rfl
  | cons first rest =>
    obtain ⟨-, tail⟩ := List.cons.inj split
    exact absurd (tail ▸ List.mem_append_right rest List.mem_cons_self) once

/-- Another thread asks during the poll; the loop finishes its iteration and
returns. -/
def askedDuringPoll : List (Label Nat Nat) :=
  [.enterPoll, .quit 1, .wakeup 1, .pollReturn [], .raiseFlag, .swap, .lowerFlag, .leaveLoop]

/-- The request made during the poll ends the loop. -/
theorem quit_kept_during_poll :
    ∃ last, run (step 0) initial (.enterLoop :: askedDuringPoll) = .ok last ∧
      last.position = .outside ∧ Kept 0 (.enterLoop :: askedDuringPoll) := by
  have computed : (run (step 0) initial (.enterLoop :: askedDuringPoll)).map State.position =
      .ok .outside := by decide +kernel
  obtain ⟨last, reached, computed⟩ := (map_returned _ _ _).mp computed
  refine ⟨last, reached, computed, ?_⟩
  exact (quit_kept_iff 0 (.enterLoop :: askedDuringPoll) last reached).mpr
    (enteredUnasked_once (by simp [askedDuringPoll]))

/-- A request made before the loop starts is forgotten: the first test passes. -/
theorem quit_before_loop_is_lost :
    ∃ last : State Nat Nat,
      run (step 0) initial [.quit 1, .wakeup 1, .enterLoop, .enterPoll] = .ok last ∧
      last.quit = false ∧ last.position = .polling ∧
      ¬ Kept 0 ([.quit 1, .wakeup 1, .enterLoop, .enterPoll] : List (Label Nat Nat)) := by
  have computed : (run (step 0) (initial : State Nat Nat)
      [.quit 1, .wakeup 1, .enterLoop, .enterPoll]).map (fun s => (s.quit, s.position)) =
        .ok (false, .polling) := by decide +kernel
  obtain ⟨last, reached, computed⟩ := (map_returned _ _ _).mp computed
  simp only [Prod.mk.injEq] at computed
  refine ⟨last, reached, computed.1, computed.2, ?_⟩
  intro kept
  have unpassed := (kept [] 1 [.wakeup 1, .enterLoop, .enterPoll] [] last rfl (by simp)
    reached).2
  exact unpassed (by simp)

end ReactorNetwork.QuitRequests
