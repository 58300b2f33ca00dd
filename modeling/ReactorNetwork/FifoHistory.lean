import Mathlib.Data.List.Basic

/-!
# First-in first-out histories

A history records everything that ever entered a queue, in order, and how many
of those entries have left it. Entries leave only at the front and never more
than are present; the structure carries that bound, so no history can serve an
entry twice or before it arrived. What is still queued is the unserved suffix.

This is the abstract account to which a byte buffer is compared. It has no
capacity and no representation.
-/

namespace ReactorNetwork

universe u

/-- Everything that arrived, and the number served from the front. -/
structure FifoHistory (α : Type u) where
  arrived : List α
  served : Nat
  bounded : served ≤ arrived.length

namespace FifoHistory

variable {α : Type u}

/-- Nothing has arrived and nothing was served. -/
def empty : FifoHistory α := ⟨[], 0, Nat.le_refl 0⟩

/-- The entries that arrived and were not served, oldest first. -/
def queued (history : FifoHistory α) : List α := history.arrived.drop history.served

/-- New entries join behind all earlier ones. -/
def enqueue (history : FifoHistory α) (entries : List α) : FifoHistory α where
  arrived := history.arrived ++ entries
  served := history.served
  bounded := by
    have bound := history.bounded
    rw [List.length_append]
    omega

/-- Serve from the front, at most as many entries as are queued. -/
def serve (history : FifoHistory α) (count : Nat) : FifoHistory α where
  arrived := history.arrived
  served := min (history.served + count) history.arrived.length
  bounded := Nat.min_le_right _ _

/-- Nothing is queued in an empty history. -/
@[simp] theorem queued_empty : (empty : FifoHistory α).queued = [] := rfl

/-- New entries arrive behind all earlier ones. -/
@[simp] theorem enqueue_arrived (history : FifoHistory α) (entries : List α) :
    (history.enqueue entries).arrived = history.arrived ++ entries := rfl

/-- Serving is no arrival. -/
@[simp] theorem serve_arrived (history : FifoHistory α) (count : Nat) :
    (history.serve count).arrived = history.arrived := rfl

/-- Arrival appends to what is queued. -/
@[simp] theorem queued_enqueue (history : FifoHistory α) (entries : List α) :
    (history.enqueue entries).queued = history.queued ++ entries :=
  List.drop_append_of_le_length history.bounded

/-- Serving removes exactly the front of what is queued. -/
@[simp] theorem queued_serve (history : FifoHistory α) (count : Nat) :
    (history.serve count).queued = history.queued.drop count := by
  change history.arrived.drop (min (history.served + count) history.arrived.length) =
    (history.arrived.drop history.served).drop count
  rw [List.drop_drop]
  rcases Nat.le_total (history.served + count) history.arrived.length with within | beyond
  · rw [Nat.min_eq_left within]
  · rw [Nat.min_eq_right beyond, List.drop_length, List.drop_eq_nil_of_le beyond]

end FifoHistory

end ReactorNetwork
