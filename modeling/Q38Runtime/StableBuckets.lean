import Q38Runtime.StridedLoops

/-!
Items put into buckets without changing their order in a bucket. An item comes
to stand behind the buckets before its own and behind the earlier items of its
own; buckets are then cut into tiles of one size.
-/
namespace StableBuckets
open StridedLoops

section Order
variable (bucket : Nat → Nat)

/-- How many of the first `items` items are in a bucket. -/
def size (items target : Nat) : Nat := (List.range items).countP (bucket · = target)

/-- How many earlier items share the bucket of `item`. -/
def rank (item : Nat) : Nat := size bucket item (bucket item)

/-- Where a run begins when each is as long as its count. -/
def offset (count : Nat → Nat) (target : Nat) : Nat := ((List.range target).map count).sum

/-- Where a bucket begins. -/
def start (items target : Nat) : Nat := offset (size bucket items) target

def place (items item : Nat) : Nat := start bucket items (bucket item) + rank bucket item

/-- The items bucket by bucket. -/
def ordered (items buckets : Nat) : List Nat :=
  (List.range buckets).flatMap fun target => (List.range items).filter (bucket · = target)

variable {bucket} {items buckets : Nat}

theorem offset_succ (count : Nat → Nat) (target : Nat) :
    offset count (target + 1) = offset count target + count target := by
  rw [offset, List.range_succ, List.map_append, List.sum_append]
  simp [offset]

theorem offset_congr {count count' : Nat → Nat} {target : Nat}
    (same : ∀ lower < target, count lower = count' lower) :
    offset count target = offset count' target := by
  rw [offset, offset, List.map_congr_left fun lower listed => same lower (List.mem_range.mp listed)]

theorem offset_mono (count : Nat → Nat) {lower upper : Nat} (le : lower ≤ upper) :
    offset count lower ≤ offset count upper := by
  induction le with
  | refl => exact le_rfl
  | step _ ih => exact ih.trans ((offset_succ count _).symm ▸ Nat.le_add_right _ _)

theorem size_succ (item target : Nat) :
    size bucket (item + 1) target =
      size bucket item target + if bucket item = target then 1 else 0 := by
  rw [size, List.range_succ, List.countP_append, List.countP_singleton]
  simp [size]

theorem mem_ordered {item : Nat} :
    item ∈ ordered bucket items buckets ↔ item < items ∧ bucket item < buckets := by
  simp only [ordered, List.mem_flatMap, List.mem_range, List.mem_filter, decide_eq_true_eq]
  constructor
  · rintro ⟨target, inside, listed, rfl⟩
    exact ⟨listed, inside⟩
  · rintro ⟨listed, inside⟩
    exact ⟨bucket item, inside, listed, rfl⟩

/-- Lower buckets come first, and in a bucket earlier items. -/
theorem ordered_sorted (items buckets : Nat) :
    (ordered bucket items buckets).Pairwise fun left right =>
      bucket left < bucket right ∨ bucket left = bucket right ∧ left < right := by
  rw [ordered, List.pairwise_flatMap]
  constructor
  · intro target _
    have rising := List.Pairwise.filter (fun item => decide (bucket item = target))
      (List.pairwise_lt_range (n := items))
    apply rising.imp_of_mem
    intro left right listed listed' earlier
    simp only [List.mem_filter, decide_eq_true_eq] at listed listed'
    exact Or.inr ⟨listed.2.trans listed'.2.symm, earlier⟩
  · apply List.pairwise_lt_range.imp
    intro first second earlier left listed right listed'
    simp only [List.mem_filter, decide_eq_true_eq] at listed listed'
    rw [listed.2, listed'.2]
    exact Or.inl earlier

theorem ordered_nodup (items buckets : Nat) : (ordered bucket items buckets).Nodup := by
  apply (ordered_sorted items buckets).imp
  rintro left right (lower | ⟨-, earlier⟩) rfl
  · exact Nat.lt_irrefl _ lower
  · exact Nat.lt_irrefl _ earlier

theorem ordered_perm (known : ∀ item < items, bucket item < buckets) :
    (ordered bucket items buckets).Perm (List.range items) := by
  rw [List.perm_ext_iff_of_nodup (ordered_nodup items buckets) List.nodup_range]
  intro item
  rw [mem_ordered, List.mem_range]
  exact ⟨And.left, fun listed => ⟨listed, known item listed⟩⟩

theorem ordered_length (known : ∀ item < items, bucket item < buckets) :
    (ordered bucket items buckets).length = items := by
  rw [(ordered_perm known).length_eq, List.length_range]

theorem flat_length (items target : Nat) :
    ((List.range target).flatMap fun lower =>
      (List.range items).filter (bucket · = lower)).length = start bucket items target := by
  rw [List.length_flatMap, start, offset]
  congr 1
  apply List.map_congr_left
  intro lower _
  rw [size, List.countP_eq_length_filter]

/-- An item stands at its place. -/
theorem ordered_at_place {item : Nat} (listed : item < items) (inside : bucket item < buckets) :
    (ordered bucket items buckets)[place bucket items item]? = some item := by
  have split (bound middle : Nat) (below : middle < bound) : List.range bound =
      List.range middle ++ middle :: (List.range (bound - middle - 1)).map (middle + 1 + ·) := by
    have whole : bound = middle + (1 + (bound - middle - 1)) := by omega
    conv_lhs => rw [whole, List.range_add, List.range_add]
    simp [Function.comp_def, Nat.add_assoc]
  have here : ((List.range items).filter (bucket · = bucket item))[rank bucket item]? =
      some item := by
    rw [split items item listed, List.filter_append, List.filter_cons_of_pos (by simp),
      List.getElem?_append_right, rank, size, List.countP_eq_length_filter, Nat.sub_self]
    · rfl
    · exact (List.countP_eq_length_filter ..).ge
  have room : rank bucket item <
      ((List.range items).filter (bucket · = bucket item)).length := by
    by_contra beyond
    rw [List.getElem?_eq_none (Nat.le_of_not_lt beyond)] at here
    cases here
  rw [ordered, split buckets (bucket item) inside, List.flatMap_append, List.flatMap_cons,
    List.getElem?_append_right, flat_length, place, Nat.add_sub_cancel_left,
    List.getElem?_append_left room, here]
  rw [flat_length]
  exact Nat.le_add_right _ _

theorem place_lt (known : ∀ item < items, bucket item < buckets) {item : Nat}
    (listed : item < items) : place bucket items item < items := by
  have found := ordered_at_place listed (known item listed)
  have inside := (List.getElem?_eq_some_iff.mp found).1
  rwa [ordered_length known] at inside

theorem place_injective (known : ∀ item < items, bucket item < buckets) {left right : Nat}
    (listed : left < items) (listed' : right < items)
    (same : place bucket items left = place bucket items right) : left = right := by
  have found := ordered_at_place listed (known left listed)
  rw [same, ordered_at_place listed' (known right listed')] at found
  exact (Option.some.inj found).symm

/-- Every place is that of the item that stands there. -/
theorem place_ordered (known : ∀ item < items, bucket item < buckets) {index : Nat}
    (inside : index < (ordered bucket items buckets).length) :
    place bucket items (ordered bucket items buckets)[index] = index := by
  have listed := (mem_ordered.mp (List.getElem_mem inside)).1
  have found := ordered_at_place listed (known _ listed)
  have again := List.getElem?_eq_getElem inside
  rw [← again] at found
  have short : place bucket items (ordered bucket items buckets)[index] <
      (ordered bucket items buckets).length := by
    rw [ordered_length known]
    exact place_lt known listed
  exact (List.getElem?_inj short (ordered_nodup items buckets)).mp found

theorem start_total (known : ∀ item < items, bucket item < buckets) :
    start bucket items buckets = items := by
  have whole := ordered_length known
  rw [ordered, flat_length] at whole
  exact whole

theorem size_mono {fewer more : Nat} (le : fewer ≤ more) (target : Nat) :
    size bucket fewer target ≤ size bucket more target := by
  induction le with
  | refl => exact le_rfl
  | step _ ih => exact ih.trans ((size_succ _ target).symm ▸ Nat.le_add_right _ _)

theorem rank_lt {item : Nat} (listed : item < items) :
    rank bucket item < size bucket items (bucket item) := by
  have later := @size_mono bucket _ _ (Nat.succ_le_of_lt listed) (bucket item)
  rw [Nat.succ_eq_add_one, size_succ, if_pos rfl] at later
  exact later

/-- What stands in a bucket's run is of that bucket. -/
theorem bucket_at (known : ∀ item < items, bucket item < buckets) {index target : Nat}
    (begins : start bucket items target ≤ index) (ends : index < start bucket items (target + 1))
    (inside : index < (ordered bucket items buckets).length) :
    bucket (ordered bucket items buckets)[index] = target := by
  have here := place_ordered known inside
  have listed := (mem_ordered.mp (List.getElem_mem inside)).1
  generalize (ordered bucket items buckets)[index] = item at here listed ⊢
  have ranked := @rank_lt bucket _ _ listed
  have next := offset_succ (size bucket items) (bucket item)
  rw [place] at here
  rcases Nat.lt_trichotomy (bucket item) target with lower | same | upper
  · have before := offset_mono (size bucket items) (Nat.succ_le_of_lt lower)
    simp only [start, Nat.succ_eq_add_one] at *
    omega
  · exact same
  · have after := offset_mono (size bucket items) (Nat.succ_le_of_lt upper)
    simp only [start, Nat.succ_eq_add_one] at *
    omega

end Order

section Tiles
variable {bucket : Nat → Nat} {items buckets width : Nat}

/-- The tiles that hold `count` items. -/
def tilesFor (width count : Nat) : Nat := (count + width - 1) / width

theorem tiles_for_succ (positive : 0 < width) (count : Nat) :
    tilesFor width (count + 1) = 1 + count / width := by
  rw [tilesFor, Nat.add_right_comm, Nat.add_sub_cancel, Nat.add_div_right _ positive, Nat.add_comm]

/-- A started bucket costs a tile; every further one costs a whole width. -/
theorem tiles_sum (positive : 0 < width) (counts : List Nat) :
    (counts.map (tilesFor width)).sum ≤
      counts.countP (· ≠ 0) + (counts.sum - counts.countP (· ≠ 0)) / width ∧
    counts.countP (· ≠ 0) ≤ counts.sum := by
  induction counts with
  | nil => simp
  | cons count rest ih =>
      obtain ⟨fewer, started⟩ := ih
      rw [List.map_cons, List.sum_cons, List.sum_cons]
      rcases count with _ | count
      · rw [List.countP_cons_of_neg (by simp), Nat.zero_add]
        have none : tilesFor width 0 = 0 := by
          rw [tilesFor]
          exact Nat.div_eq_of_lt (by omega)
        rw [none, Nat.zero_add]
        exact ⟨fewer, started⟩
      · rw [List.countP_cons_of_pos (by simp), tiles_for_succ positive]
        have together : count / width + (rest.sum - rest.countP (· ≠ 0)) / width ≤
            (count + 1 + rest.sum - (rest.countP (· ≠ 0) + 1)) / width := by
          have regroup : count + 1 + rest.sum - (rest.countP (· ≠ 0) + 1) =
              count + (rest.sum - rest.countP (· ≠ 0)) := by omega
          rw [regroup]
          exact Nat.div_add_div_le_add_div
        exact ⟨by omega, by omega⟩

/-- The bound rises with the number of started buckets. -/
theorem started_mono (positive : 0 < width) {fewer more total : Nat} (le : fewer ≤ more)
    (within : more ≤ total) :
    fewer + (total - fewer) / width ≤ more + (total - more) / width := by
  have wide : total - fewer ≤ (more - fewer) * width + (total - more) := by
    have scaled := Nat.le_mul_of_pos_right (more - fewer) positive
    omega
  have quotient := Nat.div_le_div_right (c := width) wide
  rw [Nat.mul_comm, Nat.mul_add_div positive] at quotient
  omega

/-- The number of tiles is bounded by the number of items alone. -/
theorem tiles_bounded (positive : 0 < width)
    (known : ∀ item < items, bucket item < buckets) :
    ((List.range buckets).map fun target => tilesFor width (size bucket items target)).sum ≤
      min items buckets + (items - min items buckets) / width := by
  obtain ⟨fewer, started⟩ := tiles_sum positive ((List.range buckets).map (size bucket items))
  have total : ((List.range buckets).map (size bucket items)).sum = items := start_total known
  have few : ((List.range buckets).map (size bucket items)).countP (· ≠ 0) ≤ buckets := by
    have bound := @List.countP_le_length _ (fun count => decide (count ≠ 0))
      ((List.range buckets).map (size bucket items))
    simpa using bound
  rw [total] at fewer started
  rw [List.map_map] at fewer
  exact fewer.trans (started_mono positive (Nat.le_min.mpr ⟨started, few⟩) (Nat.min_le_left _ _))

/-- The tiles of a bucket cover it in order. -/
theorem tiles_cover (positive : 0 < width) (count first : Nat) :
    ((List.range (tilesFor width count)).flatMap fun tile =>
      (List.range (min width (count - tile * width))).map (first + tile * width + ·)) =
      (List.range count).map (first + ·) := by
  have cover := congrArg (List.map (first + ·)) (strided_cover positive count)
  rw [strided_eq_map, List.flatMap_map, List.map_flatMap] at cover
  rw [tilesFor, Nat.add_sub_assoc positive, ← cover]
  apply List.flatMap_congr
  intro tile _
  rw [List.map_map]
  apply List.map_congr_left
  intro row _
  rw [Function.comp_apply, Nat.add_assoc]

/-- Runs follow each other without a gap. -/
theorem runs_cover (count : Nat → Nat) (runs : Nat) :
    ((List.range runs).flatMap fun run =>
      (List.range (count run)).map (offset count run + ·)) = List.range (offset count runs) := by
  induction runs with
  | zero => rfl
  | succ runs ih =>
      rw [List.range_succ, List.flatMap_append, ih, offset_succ, List.range_add]
      simp

end Tiles

end StableBuckets
