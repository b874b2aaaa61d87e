import Mathlib

/-! Rows stored one behind the other, with a pooled value for each whole block of them. Rows may
be given up and written again, and nothing is undone then: what was pooled stays until the last
row of its block is written once more. As long as writes begin at or before the end of the rows
that count, the pooled values of their whole blocks are right. -/
namespace PooledRows

structure Cells (ρ π : Type) where
  rows : Nat → ρ
  pooled : Nat → π

variable {ρ π : Type} (size : Nat) (pool : Nat → List ρ → π)

def block (rows : List ρ) (index : Nat) : List ρ := (rows.drop (index * size)).take size

/-- An array with some values stored in a row. -/
def put (first : Nat) (new : List ρ) (values : Nat → ρ) : Nat → ρ := fun place =>
  if first ≤ place then new.getD (place - first) (values place) else values place

def slice (first count : Nat) (values : Nat → ρ) : List ρ :=
  (List.range count).map fun offset => values (first + offset)

def poolBlocks (first last : Nat) (cells : Cells ρ π) : Cells ρ π :=
  { cells with
    pooled := fun index =>
      if first ≤ index ∧ index < last then pool index (slice (index * size) size cells.rows)
      else cells.pooled index }

/-- Rows from a place on, and then the blocks of which one of them is the last row. -/
def write (first : Nat) (new : List ρ) (cells : Cells ρ π) : Cells ρ π :=
  poolBlocks size pool (first / size) ((first + new.length) / size)
    { cells with rows := put first new cells.rows }

/-- The cells hold these rows, and what belongs to their whole blocks. -/
structure Keeps (cells : Cells ρ π) (rows : List ρ) : Prop where
  placed : ∀ place (inside : place < rows.length), cells.rows place = rows[place]
  pooled : ∀ index, (index + 1) * size ≤ rows.length →
    cells.pooled index = pool index (block size rows index)

/-- The pooled values of all whole blocks. -/
def pooledBlocks (rows : List ρ) : List π :=
  (List.range (rows.length / size)).map fun index => pool index (block size rows index)

variable {size pool} {cells : Cells ρ π} {rows new : List ρ} {first place index : Nat}

section Arrays
variable {values : Nat → ρ} {count : Nat}

theorem put_here (from_ : first ≤ place) (inside : place - first < new.length) :
    put first new values place = new[place - first] := by
  simp [put, inside, from_]

theorem put_before (before : place < first) : put first new values place = values place :=
  if_neg (Nat.not_le.mpr before)

theorem put_found (from_ : first ≤ place) (inside : place - first < new.length) :
    some (put first new values place) = new[place - first]? := by
  rw [put_here from_ inside, List.getElem?_eq_getElem inside]

theorem put_only {value : ρ} (from_ : first ≤ place) (upTo : place < first + 1) :
    put first [value] values place = value := by
  have here : place = first := Nat.le_antisymm (Nat.le_of_lt_succ upTo) from_
  simp [put, here]

theorem put_length (rows : List ρ) (agrees : ∀ place (inside : place < rows.length),
      values place = rows[place]) (inside : place < (rows ++ new).length) :
    put rows.length new values place = (rows ++ new)[place] := by
  rw [List.length_append] at inside
  rcases Nat.lt_or_ge place rows.length with early | late
  · rw [put_before early, agrees place early, List.getElem_append_left early]
  · rw [put_here late (by omega), List.getElem_append_right late]

@[simp] theorem slice_length : (slice first count values).length = count := by
  simp [slice]

theorem slice_one : slice first 1 values = [values first] := by
  simp [slice]

theorem slice_put (inside : count ≤ new.length) :
    slice first count (put first new values) = new.take count := by
  apply List.ext_getElem
  · simp [Nat.min_eq_left inside]
  · intro place early _
    rw [slice_length] at early
    simp only [slice, List.getElem_map, List.getElem_range, List.getElem_take]
    rw [put_here (Nat.le_add_right _ _) (by omega)]
    simp only [Nat.add_sub_cancel_left]

theorem slice_append (first count more : Nat) (values : Nat → ρ) :
    slice first (count + more) values =
      slice first count values ++ slice (first + count) more values := by
  simp [slice, List.range_add, Nat.add_assoc]

theorem slice_take {more : Nat} (inside : count ≤ more) :
    (slice first more values).take count = slice first count values := by
  obtain ⟨rest, rfl⟩ := Nat.exists_eq_add_of_le inside
  rw [slice_append]
  exact List.take_left' slice_length

/-- What stands before the new values stays. -/
theorem slice_before {start : Nat} (before : start + count ≤ first) :
    slice start count (put first new values) = slice start count values := by
  unfold slice
  apply List.map_congr_left
  intro offset early
  rw [List.mem_range] at early
  exact put_before (by omega)

theorem slice_found {listed : List ρ} (length : listed.length = count)
    (found : ∀ offset < count, some (values (first + offset)) = listed[offset]?) :
    slice first count values = listed := by
  apply List.ext_getElem?
  intro offset
  rcases Nat.lt_or_ge offset count with inside | beyond
  · rw [← found offset inside]
    simp [slice, inside]
  · rw [List.getElem?_eq_none (by rw [slice_length]; exact beyond),
      List.getElem?_eq_none (by rw [length]; exact beyond)]

theorem slice_congr {other : Nat → ρ} (same : ∀ offset < count,
      values (first + offset) = other (first + offset)) :
    slice first count values = slice first count other := by
  unfold slice
  apply List.map_congr_left
  intro offset early
  exact same offset (List.mem_range.mp early)

theorem put_map {τ : Type} (make : ρ → τ) :
    (fun place => make (put first new values place)) =
      put first (new.map make) fun place => make (values place) := by
  funext place
  unfold put
  split
  · rw [List.getD_eq_getElem?_getD, List.getD_eq_getElem?_getD, List.getElem?_map]
    cases new[place - first]? <;> rfl
  · rfl

end Arrays

theorem keeps_nil (positive : 0 < size) : Keeps size pool cells [] where
  placed place inside := absurd inside (Nat.not_lt_zero place)
  pooled index whole := by
    have some : 0 < (index + 1) * size := Nat.mul_pos (Nat.succ_pos index) positive
    exact absurd whole (Nat.not_le.mpr some)

theorem block_append (whole : (index + 1) * size ≤ rows.length) :
    block size (rows ++ new) index = block size rows index := by
  rw [Nat.succ_mul] at whole
  unfold block
  rw [List.drop_append_of_le_length (by omega), List.take_append_of_le_length]
  rw [List.length_drop]
  omega

theorem Keeps.early (keeps : Keeps size pool cells (rows ++ new)) :
    Keeps size pool cells rows where
  placed place inside := by
    rw [keeps.placed place (by rw [List.length_append]; omega), List.getElem_append_left inside]
  pooled index whole := by
    rw [keeps.pooled index (by rw [List.length_append]; omega), block_append whole]

theorem Keeps.take (keeps : Keeps size pool cells rows) (count : Nat) :
    Keeps size pool cells (rows.take count) := by
  have split := List.take_append_drop count rows
  rw [← split] at keeps
  exact keeps.early

/-- Whole blocks end before the first place of a write do not notice it. -/
theorem early_block (positive : 0 < size) (whole : (index + 1) * size ≤ first) :
    ¬ first / size ≤ index := by
  rw [Nat.not_le, ← Nat.succ_le_iff, Nat.le_div_iff_mul_le positive]
  exact whole

/-- A write behind some rows leaves them as they are. -/
theorem Keeps.beside {other : Nat → List ρ → π} (positive : 0 < size)
    (keeps : Keeps size pool cells rows) (behind : rows.length ≤ first) :
    Keeps size pool (write size other first new cells) rows where
  placed place inside := by
    change put first new cells.rows place = _
    rw [put_before (Nat.lt_of_lt_of_le inside behind), keeps.placed place inside]
  pooled index whole := by
    have early := @early_block _ first index positive (Nat.le_trans whole behind)
    rw [← keeps.pooled index whole]
    simp [write, poolBlocks, early]

/-- A write at the end of some rows appends to them. -/
theorem Keeps.append (positive : 0 < size) (keeps : Keeps size pool cells rows) :
    Keeps size pool (write size pool rows.length new cells) (rows ++ new) where
  placed _ inside := put_length rows keeps.placed inside
  pooled index whole := by
    rcases Nat.lt_or_ge rows.length ((index + 1) * size) with late | early
    · -- the last row of the block is a new one, so the block is pooled again
      have begins : rows.length / size ≤ index :=
        Nat.le_of_lt_succ ((Nat.div_lt_iff_lt_mul positive).mpr late)
      have ends : index < (rows.length + new.length) / size := by
        rw [← Nat.succ_le_iff, Nat.le_div_iff_mul_le positive, ← List.length_append]
        exact whole
      simp only [write, poolBlocks, begins, ends, and_self, if_true]
      congr 1
      rw [Nat.succ_mul] at whole
      apply List.ext_getElem
      · simp only [block, slice_length, List.length_take, List.length_drop]
        omega
      · intro offset inside _
        rw [slice_length] at inside
        simp only [slice, List.getElem_map, List.getElem_range, block, List.getElem_take,
          List.getElem_drop]
        exact put_length rows keeps.placed (by omega)
    · rw [block_append early]
      exact (keeps.beside positive (Nat.le_refl _)).pooled index early

/-- What a reader of so many rows finds. -/
theorem Keeps.visible (keeps : Keeps size pool cells rows) {count : Nat}
    (inside : count ≤ rows.length) : slice 0 count cells.rows = rows.take count := by
  apply List.ext_getElem
  · simp [Nat.min_eq_left inside]
  · intro place early _
    rw [slice_length] at early
    simp only [slice, Nat.zero_add, List.getElem_map, List.getElem_range, List.getElem_take]
    exact keeps.placed place (Nat.lt_of_lt_of_le early inside)

theorem Keeps.visible_pooled (keeps : Keeps size pool cells rows) (positive : 0 < size)
    {count : Nat} (inside : count ≤ rows.length) :
    slice 0 (count / size) cells.pooled = pooledBlocks size pool (rows.take count) := by
  have kept := keeps.take count
  have length : (rows.take count).length = count := by
    rw [List.length_take, Nat.min_eq_left inside]
  unfold pooledBlocks slice
  rw [length]
  apply List.map_congr_left
  intro index early
  rw [Nat.zero_add]
  apply kept.pooled
  rw [length, ← Nat.le_div_iff_mul_le positive]
  exact List.mem_range.mp early

/-- The pooled value of a whole block is that of the rows stored for it now. -/
theorem Keeps.stored (keeps : Keeps size pool cells rows)
    (whole : (index + 1) * size ≤ rows.length) :
    cells.pooled index = pool index (slice (index * size) size cells.rows) := by
  rw [keeps.pooled index whole]
  congr 1
  rw [Nat.succ_mul] at whole
  apply List.ext_getElem
  · simp only [block, slice_length, List.length_take, List.length_drop]
    omega
  · intro offset _ inside
    rw [slice_length] at inside
    simp only [block, slice, List.getElem_take, List.getElem_drop, List.getElem_map,
      List.getElem_range]
    exact (keeps.placed _ (by omega)).symm

end PooledRows
