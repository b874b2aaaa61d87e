import Mathlib

/-!
Loops with a step. Workers that start at their own number and step by the number
of workers share one range; chunks of one size at the values of a loop make up
one range; a table laid out row by row is one list.
-/
namespace StridedLoops

/-- The values of a loop variable that starts at `first`, grows by `step` and
stays below `bound`. -/
def strided (first step bound : Nat) : List Nat :=
  List.range' first ((bound - first + (step - 1)) / step) step

theorem mem_strided {first step bound value : Nat} (positive : 0 < step) :
    value ∈ strided first step bound ↔
      value < bound ∧ ∃ turn, value = first + step * turn := by
  rw [strided, List.mem_range']
  constructor
  · rintro ⟨turn, early, rfl⟩
    rw [Nat.lt_div_iff_mul_lt positive, Nat.mul_comm] at early
    exact ⟨by omega, turn, rfl⟩
  · rintro ⟨inside, turn, rfl⟩
    refine ⟨turn, ?_, rfl⟩
    rw [Nat.lt_div_iff_mul_lt positive, Nat.mul_comm]
    omega

theorem strided_nodup {first step bound : Nat} (positive : 0 < step) :
    (strided first step bound).Nodup :=
  List.nodup_range' step positive

/-- Workers that start at their own number and step by the number of workers
share a range: each value has one worker. -/
theorem workers_perm {workers bound : Nat} (positive : 0 < workers) :
    ((List.range workers).flatMap fun worker => strided worker workers bound).Perm
      (List.range bound) := by
  rw [List.perm_ext_iff_of_nodup]
  · intro value
    simp only [List.mem_flatMap, List.mem_range, mem_strided positive]
    constructor
    · rintro ⟨worker, -, inside, -⟩
      exact inside
    · intro inside
      exact ⟨value % workers, Nat.mod_lt _ positive, inside, value / workers,
        (Nat.mod_add_div value workers).symm⟩
  · rw [List.nodup_flatMap]
    refine ⟨fun worker _ => strided_nodup positive, ?_⟩
    apply List.Nodup.pairwise_of_forall_ne List.nodup_range
    intro first listed second listed' differ value mine other
    rw [List.mem_range] at listed listed'
    obtain ⟨-, turn, rfl⟩ := (mem_strided positive).mp mine
    obtain ⟨-, turn', same⟩ := (mem_strided positive).mp other
    apply differ
    have residue := congrArg (· % workers) same
    simp only [Nat.add_mul_mod_self_left, Nat.mod_eq_of_lt listed, Nat.mod_eq_of_lt listed']
      at residue
    exact residue
  · exact List.nodup_range

theorem groups_range (groups size : Nat) :
    ((List.range groups).flatMap fun group => (List.range size).map (group * size + ·)) =
      List.range (groups * size) := by
  induction groups with
  | zero => simp
  | succ groups ih =>
      rw [List.range_succ, List.flatMap_append, ih, Nat.succ_mul, List.range_add]
      simp

/-- The same when the workers come in groups of one size. -/
theorem grid_perm {groups size bound : Nat} (positive : 0 < groups * size) :
    ((List.range groups).flatMap fun group => (List.range size).flatMap fun worker =>
      strided (group * size + worker) (groups * size) bound).Perm (List.range bound) := by
  have shared := @workers_perm _ bound positive
  rw [← groups_range, List.flatMap_assoc] at shared
  simpa only [List.flatMap_map] using shared

/-- The chunks at the values of a loop from 0 make up one range. -/
theorem strided_chunks (size bound : Nat) :
    ((strided 0 size bound).flatMap fun base => (List.range size).map (base + ·)) =
      List.range ((bound + (size - 1)) / size * size) := by
  have bases (count : Nat) : List.range' 0 count size = (List.range count).map (· * size) := by
    apply List.ext_getElem
    · simp
    · intro index _ _
      simp [Nat.mul_comm]
  rw [← groups_range, strided, bases, List.flatMap_map, Nat.sub_zero]

/-- The values of a loop and the values up to the next turn cover a range in order. -/
theorem strided_cover {size : Nat} (positive : 0 < size) (bound : Nat) :
    ((strided 0 size bound).flatMap fun first =>
      (List.range (min size (bound - first))).map (first + ·)) = List.range bound := by
  have turns (count : Nat) :
      ((List.range' 0 count size).flatMap fun first =>
        (List.range (min size (bound - first))).map (first + ·)) =
        List.range (min (count * size) bound) := by
    induction count with
    | zero => simp
    | succ count ih =>
        rw [List.range'_concat, List.flatMap_append, ih, Nat.zero_add, Nat.mul_comm size,
          List.flatMap_cons, List.flatMap_nil, List.append_nil, Nat.succ_mul]
        rcases Nat.le_total (count * size) bound with inside | beyond
        · rw [Nat.min_eq_left inside, ← List.range_add]
          congr 1
          omega
        · have far : min (count * size + size) bound = bound := by omega
          rw [Nat.min_eq_right beyond, far, Nat.sub_eq_zero_of_le beyond]
          simp
  have ceiling := Nat.div_add_mod (bound - 0 + (size - 1)) size
  have rest := Nat.mod_lt (bound - 0 + (size - 1)) positive
  rw [Nat.mul_comm] at ceiling
  rw [strided, turns, Nat.min_eq_right (by omega)]

theorem strided_eq_map (size bound : Nat) :
    strided 0 size bound = (List.range ((bound + (size - 1)) / size)).map (· * size) := by
  apply List.ext_getElem
  · simp [strided]
  · intro index _ _
    simp [strided, Nat.mul_comm]

/-- A loop over whole steps and a rest is the loop over the steps and the loop
over the rest. -/
theorem strided_append {size : Nat} (positive : 0 < size) (count rest : Nat) :
    strided 0 size (size * count + rest) =
      strided 0 size (size * count) ++ (strided 0 size rest).map (size * count + ·) := by
  have whole : (size * count + (size - 1)) / size = count := by
    rw [Nat.mul_add_div positive, Nat.div_eq_of_lt (by omega), Nat.add_zero]
  have both : (size * count + rest + (size - 1)) / size = count + (rest + (size - 1)) / size := by
    rw [Nat.add_assoc, Nat.mul_add_div positive]
  rw [strided_eq_map, strided_eq_map, strided_eq_map, whole, both, List.range_add,
    List.map_append, List.map_map, List.map_map]
  congr 1
  apply List.map_congr_left
  intro turn _
  rw [Function.comp_apply, Function.comp_apply, Nat.add_mul, Nat.mul_comm count]

/-- A loop of large steps visits the multiples that a loop over the number of
small steps visits. -/
theorem strided_scaled {count size : Nat} (some : 0 < count) (positive : 0 < size) (bound : Nat) :
    strided 0 (count * size) bound =
      (strided 0 count ((bound + (size - 1)) / size)).map (· * size) := by
  have steps : (bound + (count * size - 1)) / (count * size) =
      ((bound + (size - 1)) / size + (count - 1)) / count := by
    have shifted : (bound + (size - 1)) / size + (count - 1) =
        (bound + (size - 1) + size * (count - 1)) / size := by
      rw [Nat.add_mul_div_left _ _ positive]
    have whole : bound + (size - 1) + size * (count - 1) = bound + (count * size - 1) := by
      obtain ⟨fewer, rfl⟩ := Nat.exists_eq_succ_of_ne_zero (Nat.ne_of_gt some)
      rw [Nat.succ_sub_one, Nat.succ_mul, Nat.mul_comm size]
      omega
    rw [shifted, whole, Nat.div_div_eq_div_mul, Nat.mul_comm size]
  rw [strided_eq_map, strided_eq_map, List.map_map, steps]
  apply List.map_congr_left
  intro turn _
  rw [Function.comp_apply, Nat.mul_assoc]

/-- Blocks of a whole number of steps do not change what a loop visits. -/
theorem strided_blocks {count size : Nat} (some : 0 < count) (positive : 0 < size) (bound : Nat) :
    ((strided 0 (count * size) bound).flatMap fun first =>
      (strided 0 size (min (count * size) (bound - first))).map (first + ·)) =
      strided 0 size bound := by
  have steps (first : Nat) : (min (count * size) (bound - first * size) + (size - 1)) / size =
      min count ((bound + (size - 1)) / size - first) := by
    rcases Nat.le_total (count * size) (bound - first * size) with inside | beyond
    · have left : (count * size + (size - 1)) / size = count := by
        rw [Nat.mul_comm, Nat.mul_add_div positive, Nat.div_eq_of_lt (by omega), Nat.add_zero]
      have right : count ≤ (bound + (size - 1)) / size - first := by
        have far : (first + count) * size ≤ bound + (size - 1) := by
          rw [Nat.add_mul]
          have room : 0 < count * size := Nat.mul_pos some positive
          omega
        have quotient := (Nat.le_div_iff_mul_le positive).mpr far
        omega
      rw [Nat.min_eq_left inside, left, Nat.min_eq_left right]
    · have right : (bound + (size - 1)) / size - first ≤ count := by
        have near : bound + (size - 1) < (first + count + 1) * size := by
          rw [Nat.succ_mul, Nat.add_mul]
          omega
        have quotient := (Nat.div_lt_iff_lt_mul positive).mpr near
        omega
      rw [Nat.min_eq_right beyond, Nat.min_eq_right right]
      rcases Nat.lt_or_ge (first * size) bound with early | late
      · have moved : bound - first * size + (size - 1) = bound + (size - 1) - size * first := by
          rw [Nat.mul_comm size]
          omega
        rw [moved, Nat.sub_mul_div]
      · have none : bound - first * size = 0 := Nat.sub_eq_zero_of_le late
        have short : (bound + (size - 1)) / size ≤ first := by
          rw [← Nat.lt_succ_iff, Nat.div_lt_iff_lt_mul positive, Nat.succ_mul]
          omega
        rw [none, Nat.zero_add, Nat.div_eq_of_lt (by omega), Nat.sub_eq_zero_of_le short]
  have cover := congrArg (List.map (· * size)) (strided_cover some ((bound + (size - 1)) / size))
  rw [← strided_eq_map, List.map_flatMap] at cover
  rw [← cover, strided_scaled some positive, List.flatMap_map]
  apply List.flatMap_congr
  intro first _
  rw [strided_eq_map, steps, List.map_map, List.map_map]
  apply List.map_congr_left
  intro turn _
  rw [Function.comp_apply, Function.comp_apply, Nat.add_mul]

/-- A table written row by row, by the place of its entries. -/
theorem table_list {α : Type} (rows width : Nat) (entry : Nat → Nat → α) :
    ((List.range rows).flatMap fun row => (List.range width).map (entry row)) =
      (List.range (rows * width)).map fun place => entry (place / width) (place % width) := by
  rw [← groups_range, List.map_flatMap]
  apply List.flatMap_congr
  intro row _
  rw [List.map_map]
  apply List.map_congr_left
  intro column listed
  rw [List.mem_range] at listed
  have positive : 0 < width := Nat.zero_lt_of_lt listed
  rw [Function.comp_apply, Nat.mul_comm row, Nat.mul_add_div positive,
    Nat.div_eq_of_lt listed, Nat.add_zero, Nat.mul_add_mod, Nat.mod_eq_of_lt listed]

end StridedLoops
