import Mathlib.Data.List.Basic

/-!
# Ranges of a growable cell store

A store is a finite list of cells addressed by position. Writing a sequence and
copying a range inside the store proceed one cell at a time in increasing
order, and refuse any access outside the store: nothing is clipped or silently
dropped. The range laws say what a half-open range reads after such writes.

A copy toward the front may overlap its own source. Every source cell is then
read before the copy reaches it, so the result is the original range; the
opposite direction has no such law and none is claimed.
-/

namespace ReactorNetwork.CellStore

universe u
variable {α : Type u}

/-- The cells of the half-open range from `first` up to, excluding, `last`. -/
def slice (cells : List α) (first last : Nat) : List α := (cells.take last).drop first

/-- The store with `data` in place of as many cells from `position` on. -/
def splice (cells : List α) (position : Nat) (data : List α) : List α :=
  cells.take position ++ data ++ cells.drop (position + data.length)

/-- Write the data cell by cell; the first cell outside the store refuses. -/
def store (cells : List α) (position : Nat) : List α → Option (List α)
  | [] => some cells
  | value :: rest =>
      if position < cells.length then store (cells.set position value) (position + 1) rest
      else none

/-- Copy `count` cells from `first` on to `target` on, reading and writing the
same store in increasing order. -/
def copyForward (cells : List α) (first target : Nat) : Nat → Option (List α)
  | 0 => some cells
  | count + 1 =>
      match cells[first]? with
      | none => none
      | some value =>
          if target < cells.length then
            copyForward (cells.set target value) (first + 1) (target + 1) count
          else none

/-- Copy a range given by its bounds; a reversed range refuses. -/
def copyRange (cells : List α) (first last target : Nat) : Option (List α) :=
  if first ≤ last then copyForward cells first target (last - first) else none

/-- Read a range; any cell outside the store refuses. -/
def load (cells : List α) (first count : Nat) : Option (List α) :=
  if first + count ≤ cells.length then some (slice cells first (first + count)) else none

/-- An empty slice. -/
@[simp] theorem slice_same (cells : List α) (position : Nat) : slice cells position position = [] := by
  simp [slice]

/-- A range inside the store has as many cells as its bounds say. -/
theorem slice_length (cells : List α) (first last : Nat) (inside : last ≤ cells.length) :
    (slice cells first last).length = last - first := by
  simp [slice, Nat.min_eq_left inside]

/-- A range that was read lies inside the store. -/
theorem load_inside {cells found : List α} {first count : Nat}
    (loaded : load cells first count = some found) : first + count ≤ cells.length := by
  unfold load at loaded
  split at loaded
  case isTrue inside => exact inside
  case isFalse => cases loaded

/-- A range that was read has as many cells as were asked for. -/
theorem load_length {cells found : List α} {first count : Nat}
    (loaded : load cells first count = some found) : found.length = count := by
  have inside := load_inside loaded
  rw [load, if_pos inside] at loaded
  obtain rfl := Option.some.inj loaded
  rw [slice_length _ _ _ inside]
  omega

/-- The whole array can be loaded. -/
theorem load_whole (cells : List α) : load cells 0 cells.length = some cells := by
  simp [load, slice]

/-- Dropping from the front of a range moves its lower bound. -/
theorem slice_drop (cells : List α) (first last count : Nat) :
    (slice cells first last).drop count = slice cells (first + count) last := by
  simp [slice, List.drop_drop]

/-- The front of a range is the range with an upper bound inside it. -/
theorem slice_take (cells : List α) (first last count : Nat) (inside : first + count ≤ last) :
    (slice cells first last).take count = slice cells first (first + count) := by
  rw [slice, slice, List.take_drop, List.take_take, Nat.min_eq_left inside]

/-- A range below the old end is unchanged by appending cells. -/
theorem slice_extend (cells more : List α) (first last : Nat) (inside : last ≤ cells.length) :
    slice (cells ++ more) first last = slice cells first last := by
  simp [slice, List.take_append_of_le_length inside]

/-- A range that starts with a stored cell reads it first. -/
theorem slice_cons (cells : List α) (first last : Nat) (value : α)
    (present : cells[first]? = some value) (nonempty : first < last) :
    slice cells first last = value :: slice cells (first + 1) last := by
  obtain ⟨bounded, rfl⟩ := List.getElem?_eq_some_iff.mp present
  have insideTake : first < (cells.take last).length := by
    rw [List.length_take]
    omega
  unfold slice
  rw [List.drop_eq_getElem_cons insideTake]
  simp

/-- Overwriting a cell below a range does not change what the range reads. -/
theorem slice_set_below (cells : List α) (position first last : Nat) (value : α)
    (below : position < first) :
    slice (cells.set position value) first last = slice cells first last := by
  unfold slice
  rw [List.take_set, List.drop_set_of_lt below]

/-- Storing nothing changes nothing. -/
@[simp] theorem splice_nil (cells : List α) (position : Nat) : splice cells position [] = cells := by
  simp [splice]

/-- A splice inside the store keeps its size. -/
theorem splice_length (cells : List α) (position : Nat) (data : List α)
    (inside : position + data.length ≤ cells.length) :
    (splice cells position data).length = cells.length := by
  simp only [splice, List.length_append, List.length_take, List.length_drop]
  omega

/-- Writing one cell and splicing the rest behind it splices the whole. -/
theorem splice_cons (cells : List α) (position : Nat) (value : α) (rest : List α)
    (inside : position < cells.length) :
    splice (cells.set position value) (position + 1) rest = splice cells position (value :: rest) := by
  have front : (cells.set position value).take (position + 1) = cells.take position ++ [value] := by
    rw [List.take_set, List.take_add_one, List.getElem?_eq_getElem inside]
    have width : position = (cells.take position).length := by
      rw [List.length_take]
      omega
    rw [List.set_append_right _ _ (by omega)]
    simp [← width]
  have back : (cells.set position value).drop (position + 1 + rest.length) =
      cells.drop (position + 1 + rest.length) := List.drop_set_of_lt (by omega)
  have shifted : position + (value :: rest).length = position + 1 + rest.length := by
    simp only [List.length_cons]
    omega
  simp only [splice, front, back, shifted, List.append_assoc, List.cons_append, List.nil_append]

/-- A write that fits succeeds and is exactly the splice. -/
theorem store_exact (cells : List α) (position : Nat) (data : List α)
    (inside : position + data.length ≤ cells.length) :
    store cells position data = some (splice cells position data) := by
  induction data generalizing cells position with
  | nil => simp [store]
  | cons value rest inductionHypothesis =>
    simp only [List.length_cons] at inside
    have first : position < cells.length := by omega
    rw [store, if_pos first, inductionHypothesis (cells.set position value) (position + 1) (by
      rw [List.length_set]
      omega), splice_cons cells position value rest first]

/-- A write that succeeds lies inside the store and keeps its size. -/
theorem store_inside {cells written : List α} {position : Nat} {data : List α}
    (stored : store cells position data = some written) :
    written.length = cells.length ∧ (data = [] ∨ position + data.length ≤ cells.length) := by
  induction data generalizing cells position with
  | nil =>
    obtain rfl := Option.some.inj stored
    exact ⟨rfl, Or.inl rfl⟩
  | cons value rest inductionHypothesis =>
    rw [store] at stored
    split at stored
    case isFalse => cases stored
    case isTrue first =>
      obtain ⟨same, room⟩ := inductionHypothesis stored
      rw [List.length_set] at same room
      refine ⟨same, Or.inr ?_⟩
      rcases room with rfl | fits
      · exact first
      · rw [List.length_cons]
        omega

/-- A copy that succeeds keeps the size of the store. -/
theorem copyForward_length {cells copied : List α} {first target count : Nat}
    (done : copyForward cells first target count = some copied) :
    copied.length = cells.length := by
  induction count generalizing cells first target with
  | zero =>
    obtain rfl := Option.some.inj done
    rfl
  | succ count inductionHypothesis =>
    rw [copyForward] at done
    split at done
    case h_1 => cases done
    case h_2 value read =>
      split at done
      case isFalse => cases done
      case isTrue =>
        have same := inductionHypothesis done
        rw [List.length_set] at same
        exact same

/-- A copy keeps the number of cells. -/
theorem copyRange_length {cells copied : List α} {first last target : Nat}
    (done : copyRange cells first last target = some copied) : copied.length = cells.length := by
  unfold copyRange at done
  split at done
  case isTrue => exact copyForward_length done
  case isFalse => cases done

/-- A copy toward the front succeeds and places the original source range, also
where source and target overlap.

Proof: induction over the count. The cell just written lies at or below the
cell just read, hence below everything still to be read, so the remaining source
range is still the original one. -/
theorem copyForward_exact (cells : List α) (first target count : Nat)
    (toFront : target ≤ first) (inside : first + count ≤ cells.length) :
    copyForward cells first target count =
      some (splice cells target (slice cells first (first + count))) := by
  induction count generalizing cells first target with
  | zero => simp [copyForward]
  | succ count inductionHypothesis =>
    have readable : first < cells.length := by omega
    have writable : target < cells.length := by omega
    have read : cells[first]? = some cells[first] := List.getElem?_eq_getElem readable
    have remaining : slice (cells.set target cells[first]) (first + 1) (first + 1 + count) =
        slice cells (first + 1) (first + 1 + count) := slice_set_below _ _ _ _ _ (by omega)
    rw [copyForward, read]
    simp only [if_pos writable]
    rw [inductionHypothesis (cells.set target cells[first]) (first + 1) (target + 1) (by omega) (by
      rw [List.length_set]
      omega), remaining, splice_cons cells target cells[first] _ writable,
      slice_cons cells first (first + (count + 1)) cells[first] read (by omega)]
    congr 4
    omega

/-- A range is copied toward the front whole, wherever it lies. -/
theorem copyRange_exact (cells : List α) (first last target : Nat) (ordered : first ≤ last)
    (toFront : target ≤ first) (inside : last ≤ cells.length) :
    copyRange cells first last target = some (splice cells target (slice cells first last)) := by
  have bound : first + (last - first) = last := by omega
  rw [copyRange, if_pos ordered, copyForward_exact cells first target (last - first) toFront
    (by omega), bound]

/-- Reading up to the end of a splice gives the old cells before it and then
the spliced data. -/
theorem slice_splice (cells : List α) (first position : Nat) (data : List α)
    (ordered : first ≤ position) (inside : position + data.length ≤ cells.length) :
    slice (splice cells position data) first (position + data.length) =
      slice cells first position ++ data := by
  have width : (cells.take position).length = position := by
    rw [List.length_take]
    omega
  have frontWidth : (cells.take position ++ data).length = position + data.length := by
    rw [List.length_append, width]
  have front : (splice cells position data).take (position + data.length) =
      cells.take position ++ data := by
    unfold splice
    rw [List.take_append_of_le_length (Nat.le_of_eq frontWidth.symm),
      List.take_of_length_le (Nat.le_of_eq frontWidth)]
  unfold slice
  rw [front, List.drop_append_of_le_length (by omega)]

/-- A splice is not seen below its position. -/
theorem slice_splice_below (cells : List α) (first last position : Nat) (data : List α)
    (below : last ≤ position) (inside : position ≤ cells.length) :
    slice (splice cells position data) first last = slice cells first last := by
  have width : last ≤ (cells.take position).length := by
    rw [List.length_take]
    omega
  unfold slice splice
  rw [List.append_assoc, List.take_append_of_le_length width, List.take_take,
    Nat.min_eq_left below]

/-- A range splits at each position inside it. -/
theorem slice_append (cells : List α) (first middle last : Nat) (lower : first ≤ middle)
    (upper : middle ≤ last) :
    slice cells first last = slice cells first middle ++ slice cells middle last := by
  have split : cells.take last = cells.take middle ++ (cells.take last).drop middle := by
    have front : (cells.take last).take middle = cells.take middle := by
      rw [List.take_take, Nat.min_eq_left upper]
    rw [← front, List.take_append_drop]
  by_cases inside : middle ≤ cells.length
  · have width : first ≤ (cells.take middle).length := by
      rw [List.length_take]
      omega
    unfold slice
    conv_lhs => rw [split]
    exact List.drop_append_of_le_length width
  · have short : cells.take middle = cells := List.take_of_length_le (by omega)
    have shorter : cells.take last = cells := List.take_of_length_le (by omega)
    unfold slice
    rw [short, shorter, List.drop_eq_nil_of_le (by omega : cells.length ≤ middle), List.append_nil]

/-- Writing over a range what it reads changes nothing. -/
theorem splice_slice (cells : List α) (first last : Nat) (ordered : first ≤ last)
    (inside : last ≤ cells.length) : splice cells first (slice cells first last) = cells := by
  have behind : first + (slice cells first last).length = last := by
    rw [slice_length _ _ _ inside]
    omega
  have front : cells.take first ++ slice cells first last = cells.take last := by
    have whole := slice_append cells 0 first last (Nat.zero_le _) ordered
    simpa [slice] using whole.symm
  rw [splice, behind, front, List.take_append_drop]

/-- A cell of a range is a cell of the store, counted from the front of the range. -/
theorem slice_getElem? (cells : List α) (first last index : Nat) :
    (slice cells first last)[index]? = if first + index < last then cells[first + index]? else none := by
  rw [slice, List.getElem?_drop, List.getElem?_take]

end ReactorNetwork.CellStore
