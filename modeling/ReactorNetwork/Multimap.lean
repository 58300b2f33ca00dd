import Mathlib.Data.List.Sort
import Mathlib.Data.List.TakeWhile

/-!
# Ordered multimaps with stable insertion

A multimap is the list of its entries in iteration order. Entries are compared
by a rank in a linear order; entries of one rank keep their order of insertion,
since an insertion goes behind every entry that is not greater. Which entry is
older is a relation of the user's choosing, so the order law says both at once:
ranks never decrease, and older entries come first among equals.

Two lists with the same entries in the same order are the same multimap. Costs
and iterator validity are outside these laws.
-/

namespace ReactorNetwork.Multimap

variable {Entry Rank : Type} [LinearOrder Rank] (rank : Entry → Rank)

/-- Insert at the upper bound of the entry's rank. -/
def insert (entry : Entry) (entries : List Entry) : List Entry :=
  entries.orderedInsert (fun left right => rank left < rank right) entry

/-- The entries in front of the lower bound. -/
def below (bound : Rank) (entries : List Entry) : List Entry :=
  entries.takeWhile (fun entry => rank entry < bound)

/-- The entries from the lower bound on. -/
def lowerBound (bound : Rank) (entries : List Entry) : List Entry :=
  entries.dropWhile (fun entry => rank entry < bound)

/-- Erase by key: every entry of that rank goes. -/
def eraseKey (key : Rank) (entries : List Entry) : List Entry :=
  entries.filter (fun entry => rank entry ≠ key)

variable (older : Entry → Entry → Prop)

/-- One entry comes in front of another. -/
def Precedes (left right : Entry) : Prop :=
  rank left < rank right ∨ rank left = rank right ∧ older left right

/-- Iteration order: by rank, and older entries first among equals. -/
def Ordered (entries : List Entry) : Prop := entries.Pairwise (Precedes rank older)

variable {rank older} {entries : List Entry}

variable (rank) in
/-- An insertion adds the entry and keeps all others. -/
theorem insert_perm (entry : Entry) (entries : List Entry) :
    (insert rank entry entries).Perm (entry :: entries) :=
  List.perm_orderedInsert _ _ _

/-- The entries behind an insertion are the new one and those before. -/
theorem mem_insert {entry other : Entry} :
    other ∈ insert rank entry entries ↔ other = entry ∨ other ∈ entries := by
  simpa using (insert_perm rank entry entries).mem_iff

/-- What precedes an entry has no greater key. -/
theorem precedes_rank {left right : Entry} (precedes : Precedes rank older left right) :
    rank left ≤ rank right := by
  rcases precedes with less | ⟨same, _⟩
  · exact le_of_lt less
  · exact le_of_eq same

/-- Inserting the newest entry keeps the order.

Proof: induction over the entries. Either the new rank is less than the first
one, hence less than all, or the first entry stays in front: it has a smaller
rank, or the same one and is older. -/
theorem insert_ordered {entry : Entry} (ordered : Ordered rank older entries)
    (newest : ∀ other ∈ entries, older other entry) :
    Ordered rank older (insert rank entry entries) := by
  induction entries with
  | nil => exact List.pairwise_singleton _ _
  | cons first rest inductionHypothesis =>
    obtain ⟨inFront, restOrdered⟩ := List.pairwise_cons.mp ordered
    by_cases less : rank entry < rank first
    · have placed : insert rank entry (first :: rest) = entry :: first :: rest := by
        simp [insert, less]
      rw [placed]
      apply List.pairwise_cons.mpr
      refine ⟨?_, ordered⟩
      intro other member
      rcases List.mem_cons.mp member with rfl | later
      · exact Or.inl less
      · exact Or.inl (lt_of_lt_of_le less (precedes_rank (inFront other later)))
    · have placed : insert rank entry (first :: rest) = first :: insert rank entry rest := by
        simp [insert, less]
      rw [placed]
      apply List.pairwise_cons.mpr
      constructor
      · intro other member
        rcases mem_insert.mp member with rfl | later
        · rcases lt_or_eq_of_le (not_lt.mp less) with smaller | same
          · exact Or.inl smaller
          · exact Or.inr ⟨same, newest first List.mem_cons_self⟩
        · exact inFront other later
      · exact inductionHypothesis restOrdered
          (fun other later => newest other (List.mem_cons_of_mem _ later))

/-- The first entry after an insertion: the new one if its rank is less than the
previous first one's, or if there was none. -/
theorem head_insert (entry : Entry) (entries : List Entry) :
    (insert rank entry entries).head? =
      match entries.head? with
      | none => some entry
      | some first => if rank entry < rank first then some entry else some first := by
  cases entries with
  | nil => rfl
  | cons first rest =>
    by_cases less : rank entry < rank first
    · simp [insert, less]
    · simp [insert, less]

/-- The first entry has the least rank. -/
theorem head_least {first : Entry} (ordered : Ordered rank older entries)
    (leads : entries.head? = some first) : ∀ entry ∈ entries, rank first ≤ rank entry := by
  intro entry member
  cases entries with
  | nil => cases leads
  | cons head rest =>
    obtain rfl : head = first := by simpa using leads
    rcases List.mem_cons.mp member with rfl | later
    · exact le_refl _
    · exact precedes_rank ((List.pairwise_cons.mp ordered).1 entry later)

variable (rank) in
/-- `lower_bound` cuts the entries in two. -/
theorem below_append_lowerBound (bound : Rank) (entries : List Entry) :
    below rank bound entries ++ lowerBound rank bound entries = entries :=
  List.takeWhile_append_dropWhile

/-- In front of the bound every key is smaller. -/
theorem below_less {bound : Rank} {entry : Entry} (member : entry ∈ below rank bound entries) :
    rank entry < bound := by
  simpa using List.mem_takeWhile_imp member

/-- The front of ordered entries is ordered. -/
theorem below_ordered (bound : Rank) (ordered : Ordered rank older entries) :
    Ordered rank older (below rank bound entries) :=
  ordered.sublist (List.takeWhile_sublist _)

/-- And so is the rest. -/
theorem lowerBound_ordered (bound : Rank) (ordered : Ordered rank older entries) :
    Ordered rank older (lowerBound rank bound entries) :=
  ordered.sublist (List.dropWhile_sublist _)

/-- In iteration order the entries in front of the lower bound are those of a
smaller rank, and the rest are the others. -/
theorem split_ordered (bound : Rank) (ordered : Ordered rank older entries) :
    below rank bound entries = entries.filter (fun entry => rank entry < bound) ∧
      lowerBound rank bound entries = entries.filter (fun entry => bound ≤ rank entry) := by
  induction entries with
  | nil => exact ⟨rfl, rfl⟩
  | cons first rest inductionHypothesis =>
    obtain ⟨inFront, restOrdered⟩ := List.pairwise_cons.mp ordered
    by_cases less : rank first < bound
    · obtain ⟨front, back⟩ := inductionHypothesis restOrdered
      constructor
      · simpa [below, less] using front
      · simpa [lowerBound, less] using back
    · have later : ∀ entry ∈ rest, bound ≤ rank entry := fun entry member =>
        le_trans (not_lt.mp less) (precedes_rank (inFront entry member))
      constructor
      · symm
        simpa [below, less] using later
      · symm
        simpa [lowerBound, less] using ⟨not_lt.mp less, later⟩

end ReactorNetwork.Multimap
