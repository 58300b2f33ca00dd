import Mathlib.Data.Finset.Card
import Mathlib.Data.Finset.Range

/-!
# Tables of numbered slots

A table has finitely many slots, numbered from zero, some of them in use. The
lowest free slot is taken first; any slot can be released. The structure carries
that the slots in use lie within the table, so the free slots can be counted.
-/

namespace ReactorNetwork

/-- A table of numbered slots, below a limit, of which some are in use. -/
@[ext] structure SlotTable where
  limit : Nat
  inUse : Finset Nat
  bounded : inUse ⊆ Finset.range limit
deriving DecidableEq

namespace SlotTable

/-- The number of free slots. -/
def free (table : SlotTable) : Nat := table.limit - table.inUse.card

/-- The lowest free slot, if there is one. -/
def lowest (table : SlotTable) : Option Nat :=
  (List.range table.limit).find? fun slot => slot ∉ table.inUse

/-- Use a slot of the table. -/
def take (table : SlotTable) (slot : Nat) : SlotTable where
  limit := table.limit
  inUse := if slot < table.limit then insert slot table.inUse else table.inUse
  bounded := by
    split
    case isTrue inside => exact Finset.insert_subset (Finset.mem_range.mpr inside) table.bounded
    case isFalse => exact table.bounded

/-- The table with one slot free. -/
def release (table : SlotTable) (slot : Nat) : SlotTable where
  limit := table.limit
  inUse := table.inUse.erase slot
  bounded := fun _ member => table.bounded (Finset.mem_of_mem_erase member)

/-- Take the lowest free slot. -/
def allocate (table : SlotTable) : Option (Nat × SlotTable) :=
  table.lowest.map fun slot => (slot, table.take slot)

variable {table : SlotTable} {slot : Nat}

/-- The lowest free slot is the one below which all are in use. -/
theorem lowest_some : table.lowest = some slot ↔
    slot ∉ table.inUse ∧ slot < table.limit ∧ ∀ lower < slot, lower ∈ table.inUse := by
  simp [lowest, List.find?_range_eq_some]

/-- No more slots are in use than there are. -/
theorem inUse_card_le (table : SlotTable) : table.inUse.card ≤ table.limit := by
  simpa using Finset.card_le_card table.bounded

/-- No slot is found exactly when none is free. -/
theorem lowest_none : table.lowest = none ↔ table.free = 0 := by
  have count := table.inUse_card_le
  have every : table.lowest = none ↔ Finset.range table.limit ⊆ table.inUse := by
    simp only [lowest, List.find?_eq_none, List.mem_range, decide_eq_true_eq, not_not]
    exact ⟨fun all slot member => all slot (Finset.mem_range.mp member),
      fun all slot less => all (Finset.mem_range.mpr less)⟩
  rw [every]
  constructor
  · intro all
    have larger := Finset.card_le_card all
    rw [Finset.card_range] at larger
    unfold free
    omega
  · intro none
    have same : table.inUse = Finset.range table.limit := by
      apply Finset.eq_of_subset_of_card_le table.bounded
      rw [Finset.card_range]
      unfold free at none
      omega
    rw [same]

/-- A slot that is found is a free one. -/
theorem free_pos (found : table.lowest = some slot) : 0 < table.free := by
  apply Nat.pos_of_ne_zero
  intro none
  rw [lowest_none.mpr none] at found
  cases found

/-- Taking a slot gives none back. -/
theorem take_inUse (table : SlotTable) (slot : Nat) : table.inUse ⊆ (table.take slot).inUse := by
  simp only [take]
  split
  · exact Finset.subset_insert slot table.inUse
  · exact Finset.Subset.refl _

/-- Taking a free slot leaves one free slot fewer. -/
theorem take_free (absent : slot ∉ table.inUse) (inside : slot < table.limit) :
    (table.take slot).free + 1 = table.free := by
  have count := (table.take slot).inUse_card_le
  simp only [take, if_pos inside, Finset.card_insert_of_notMem absent] at count
  simp only [free, take, if_pos inside, Finset.card_insert_of_notMem absent]
  omega

/-- Releasing a slot that was just taken restores the table. -/
theorem release_take (absent : slot ∉ table.inUse) (inside : slot < table.limit) :
    (table.take slot).release slot = table := by
  ext
  · rfl
  · simp only [release, take, if_pos inside, Finset.erase_insert absent]

/-- Taking a slot that was just released restores the table. -/
theorem take_release (member : slot ∈ table.inUse) : (table.release slot).take slot = table := by
  have inside : slot < table.limit := Finset.mem_range.mp (table.bounded member)
  ext
  · rfl
  · simp only [release, take, if_pos inside, Finset.insert_erase member]

/-- In a full table a released slot is the lowest free one. -/
theorem lowest_release (full : table.free = 0) (member : slot ∈ table.inUse) :
    (table.release slot).lowest = some slot := by
  have inside : slot < table.limit := Finset.mem_range.mp (table.bounded member)
  refine lowest_some.mpr ⟨by simp [release], inside, ?_⟩
  intro other less
  have all := List.find?_eq_none.mp (lowest_none.mpr full) other
    (List.mem_range.mpr (Nat.lt_trans less inside))
  simp only [release, Finset.mem_erase]
  exact ⟨Nat.ne_of_lt less, by simpa using all⟩

end SlotTable

end ReactorNetwork
