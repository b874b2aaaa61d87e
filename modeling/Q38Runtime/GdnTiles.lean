import Q38Runtime.GdnColumns

/-! The prefill kernels that cut a head's state into tiles of 32 columns. A thread has every 32nd
key of a column, in global memory or in four registers, and the sums over the keys come together
in shared memory. -/
namespace Q38.GdnKernels
open StridedLoops ScheduledTurns OwnedTurns

variable {Half R : Type} [CommRing R] {functions : Functions Half R} {inputs : Inputs Half}
  {token valueHead partition : Nat}

section Sharing

theorem lane_keys {keyLane : Nat} (inside : keyLane < 32) :
    strided keyLane 32 kQ38GdnHeadWidth = (List.range 4).map fun item => keyLane + item * 32 := by
  have turns : (kQ38GdnHeadWidth - keyLane + (32 - 1)) / 32 = 4 := by
    simp only [kQ38GdnHeadWidth]
    omega
  rw [strided, turns]
  simp [List.range_succ, List.range']

/-- The lanes share the keys. -/
theorem lanes_total (values : Nat → R) :
    ((List.range 32).map fun keyLane =>
      ((strided keyLane 32 kQ38GdnHeadWidth).map values).sum).sum =
      ((List.range kQ38GdnHeadWidth).map values).sum := by
  have shared := (@workers_perm 32 kQ38GdnHeadWidth (by decide)).map values
  rw [← shared.sum_eq, List.map_flatMap, List.flatMap, List.sum_flatten, List.map_map]
  rfl

theorem column_total_sum (partials : Nat → R) (lane : Nat) :
    columnTotal partials lane =
      ((List.range 32).map fun keyLane => partials (keyLane * 32 + lane)).sum := by
  unfold columnTotal
  rw [List.sum_eq_foldl, List.foldl_map]
  rfl

theorem tile_column (partition lane : Nat) :
    tileColumn partition lane = partition * 32 + lane := rfl

end Sharing

section Sweeping
variable {change : Nat → Nat → R → R} {weight : Nat → R → R}

/-- The thread of a cell. -/
def threadOf (index : Nat) : Nat := index / 128 % 128 % 32 * 32 + index % 32

def InTile (valueHead partition head column : Nat) : Prop :=
  (head, column / 32) = (valueHead, partition)

instance (valueHead partition head column : Nat) :
    Decidable (InTile valueHead partition head column) :=
  inferInstanceAs (Decidable (_ = _))

/-- What the threads of a block make of a tile, and add up of it. -/
def tileStep (valueHead partition : Nat) (change : Nat → Nat → R → R) (weight : Nat → R → R)
    (tile : Tile R) : Tile R where
  state index :=
    if InTile valueHead partition (index / 16384) (index % 128) then
      change (index % 32) (index / 128 % 128) (tile.state index)
    else tile.state index
  partials place :=
    if place < 1024 then
      ((strided (place / 32) 32 kQ38GdnHeadWidth).map fun key => weight key
        (change (place % 32) key
          (tile.state (stateIndex valueHead (tileColumn partition (place % 32)) key)))).sum
    else tile.partials place

/-- A thread has its cells and the place of its number. -/
def tileParts (valueHead partition : Nat) : Parts (Option Nat) (Tile R) where
  same part left right :=
    (∀ index, (if InTile valueHead partition (index / 16384) (index % 128) then
      some (threadOf index) else none) = part → left.state index = right.state index) ∧
    ∀ place, some place = part → left.partials place = right.partials place
  equivalence part := {
    refl := fun tile => ⟨fun _ _ => rfl, fun _ _ => rfl⟩
    symm := fun same => ⟨fun index owned => (same.1 index owned).symm,
      fun place owned => (same.2 place owned).symm⟩
    trans := fun first second =>
      ⟨fun index owned => (first.1 index owned).trans (second.1 index owned),
        fun place owned => (first.2 place owned).trans (second.2 place owned)⟩ }
  separate {left right} same := by
    rcases left with ⟨state, partials⟩
    rcases right with ⟨state', partials'⟩
    have states : state = state' := funext fun index => (same _).1 index rfl
    have sums : partials = partials' := funext fun place => (same _).2 place rfl
    rw [states, sums]

theorem in_tile {head column : Nat} :
    InTile valueHead partition head column ↔ head = valueHead ∧ column / 32 = partition :=
  Prod.mk_inj

/-- The cell of a thread and one of its keys. -/
theorem tile_cell {thread key : Nat} (small : thread < 1024) (narrow : partition < 4)
    (listed : key ∈ strided (thread / 32) 32 kQ38GdnHeadWidth) :
    let index := stateIndex valueHead (tileColumn partition (thread % 32)) key
    InTile valueHead partition (index / 16384) (index % 128) ∧ threadOf index = thread ∧
      index % 32 = thread % 32 ∧ index / 128 % 128 = key := by
  obtain ⟨inside, turn, spaced⟩ := (mem_strided (by decide)).mp listed
  dsimp only
  rw [in_tile]
  simp only [stateIndex, tile_column, threadOf, kQ38GdnHeadWidth] at *
  omega

theorem tile_place {index : Nat}
    (inside : InTile valueHead partition (index / 16384) (index % 128)) :
    index / 128 % 128 ∈ strided (threadOf index / 32) 32 kQ38GdnHeadWidth ∧
      index = stateIndex valueHead (tileColumn partition (threadOf index % 32))
        (index / 128 % 128) ∧ threadOf index < 1024 ∧ threadOf index % 32 = index % 32 := by
  obtain ⟨head, column⟩ := in_tile.mp inside
  rw [mem_strided (by decide)]
  simp only [stateIndex, tile_column, threadOf, kQ38GdnHeadWidth]
  refine ⟨⟨by omega, index / 128 % 128 / 32, by omega⟩, by omega, by omega, by omega⟩

theorem tile_partwise (narrow : partition < 4) :
    Partwise (tileParts valueHead partition) some (List.range 1024)
      (tileStep valueHead partition change weight) := by
  constructor
  case local_ =>
    intro part left right same
    constructor
    · intro index owned
      dsimp only [tileStep]
      rw [same.1 index owned]
    · rintro place rfl
      dsimp only [tileStep]
      split
      case isTrue small =>
        congr 1
        apply List.map_congr_left
        intro key listed
        obtain ⟨inside, thread, -⟩ := @tile_cell valueHead partition place key small narrow listed
        rw [same.1 _ (by rw [if_pos inside, thread])]
      case isFalse => exact same.2 place rfl
  case idle =>
    intro part foreign tile
    constructor
    · intro index owned
      dsimp only [tileStep]
      split at owned
      case isTrue inside =>
        subst owned
        exact absurd (List.mem_map_of_mem (List.mem_range.mpr (tile_place inside).2.2.1)) foreign
      case isFalse outside => rw [if_neg outside]
    · rintro place rfl
      dsimp only [tileStep]
      rw [if_neg]
      intro small
      exact foreign (List.mem_map_of_mem (List.mem_range.mpr small))

/-- The loop of a thread changes its cells and nothing else. -/
theorem sweep_does (narrow : partition < 4) :
    Does (tileParts valueHead partition) some (List.range 1024)
      (tileStep valueHead partition change weight) fun tile thread =>
        sweepTile valueHead partition (fun place => sweep place (change (thread % 32)) weight)
          thread tile := by
  have left (tile : Tile R) (thread : Nat) :=
    swept (stateIndex valueHead (tileColumn partition (thread % 32))) (change (thread % 32)) weight
      (@strided_nodup (thread / 32) 32 kQ38GdnHeadWidth (by decide))
      (fun _ _ _ _ => state_index_apart) (tile.state, 0)
  have number (thread : Nat) : thread / 32 * kGdnPartitionColumns + thread % 32 = thread :=
    Nat.div_add_mod' thread 32
  constructor
  case here =>
    intro thread listed tile
    have small := List.mem_range.mp listed
    constructor
    · intro index owned
      dsimp only [tileStep]
      split at owned
      case isTrue inside =>
        obtain ⟨key, place, -, lane⟩ := tile_place inside
        rw [Option.some_inj.mp owned] at key place lane
        have changed := (left tile thread).here _ key
        rw [← place] at changed
        rw [if_pos inside, ← lane]
        exact changed
      case isFalse => cases owned
    · intro place owned
      obtain rfl : place = thread := Option.some_inj.mp owned
      dsimp only [tileStep, sweepTile]
      rw [if_pos small, number, Function.update_self, (left tile place).total, zero_add]
  case beside =>
    intro thread listed part foreign tile
    have small := List.mem_range.mp listed
    constructor
    · intro index owned
      apply (left tile thread).beside
      rintro key inside rfl
      obtain ⟨here, same, -⟩ := @tile_cell valueHead partition thread key small narrow inside
      rw [if_pos here, same] at owned
      exact foreign owned.symm
    · rintro place rfl
      apply Function.update_of_ne
      rw [number]
      rintro rfl
      exact foreign rfl

variable (change weight) in
theorem run_sweeps {scheduler : Scheduler} {phase : List Nat} (narrow : partition < 4)
    (tile : Tile R) :
    scheduler.run phase (List.range 1024) (fun tile thread =>
      sweepTile valueHead partition (fun place => sweep place (change (thread % 32)) weight)
        thread tile) tile = tileStep valueHead partition change weight tile :=
  run_specified (List.nodup_range.map (Option.some_injective _)) (tile_partwise narrow)
    (sweep_does narrow) tile

/-- What the first warp adds up of the sums of the threads. -/
theorem tile_total (tile : Tile R) {lane : Nat} (inside : lane < 32) :
    columnTotal (tileStep valueHead partition change weight tile).partials lane =
      ((List.range kQ38GdnHeadWidth).map fun key => weight key
        (change lane key (cellsOf tile.state valueHead (tileColumn partition lane) key))).sum := by
  rw [column_total_sum, ← lanes_total]
  congr 1
  apply List.map_congr_left
  intro keyLane listed
  have row := List.mem_range.mp listed
  have quotient : (keyLane * 32 + lane) / 32 = keyLane := by omega
  have rest : (keyLane * 32 + lane) % 32 = lane := by omega
  dsimp only [tileStep]
  rw [if_pos (by omega), quotient, rest]
  rfl

end Sweeping

section Columns
variable {device : Device R} {phase : List Nat}

theorem column_deltas {row : Row R} {beta : R} {partials deltas : Nat → R} {lane : Nat}
    (inside : lane < 32) :
    columnDeltas device phase row beta partition partials deltas lane =
      (row.value (tileColumn partition lane) - columnTotal partials lane) * beta :=
  @run_stores _ _ id _ _ _ _ (fun lane =>
    (row.value (tileColumn partition lane) - columnTotal partials lane) * beta) lane
    (List.mem_range.mpr inside) fun turn _ same => by rw [show turn = lane from same]

theorem columns_stored {partials : Nat → R} {output : Nat → Half}
    (listed : valueHead < kQ38GdnValueHeads) (narrow : partition < 4) (index : Nat) :
    storeColumns functions device phase token valueHead partition partials output index =
      if InTile valueHead partition (index % kQ38GdnValueWidth / 128) (index % 128) ∧
          index / kQ38GdnValueWidth = token then
        functions.store (columnTotal partials (index % 32))
      else output index := by
  have inside (lane : Nat) (small : lane < 32) : tileColumn partition lane < 128 := by
    rw [tile_column]
    omega
  split
  case isTrue here =>
    obtain ⟨tile, row⟩ := here
    obtain ⟨head, column⟩ := in_tile.mp tile
    have place := output_index_of index
    have lane : index % 128 = tileColumn partition (index % 32) := by
      rw [tile_column]
      omega
    rw [row, head, lane] at place
    have stored := @run_stores _ _ (fun lane => outputIndex token valueHead
      (tileColumn partition lane)) (List.range 32) output device.scheduler phase
      (fun lane => functions.store (columnTotal partials lane)) (index % 32)
      (List.mem_range.mpr (Nat.mod_lt _ (by decide))) fun turn member same => by
        have columns := congrArg (· % 128) same
        rw [output_index_column (inside turn (List.mem_range.mp member)),
          output_index_column (inside _ (Nat.mod_lt _ (by decide))), tile_column,
          tile_column] at columns
        rw [Nat.add_left_cancel columns]
    rw [place] at stored
    exact stored
  case isFalse elsewhere =>
    apply run_stores_beside
    rintro lane member rfl
    have small := inside lane (List.mem_range.mp member)
    apply elsewhere
    change InTile _ _ (outputIndex token valueHead (tileColumn partition lane) % _ / 128)
      (outputIndex token valueHead (tileColumn partition lane) % 128) ∧
        outputIndex token valueHead (tileColumn partition lane) / _ = _
    rw [output_index_head listed small, output_index_column small, output_index_token listed small,
      in_tile, tile_column]
    have lane_ := List.mem_range.mp member
    refine ⟨⟨rfl, ?_⟩, rfl⟩
    omega

end Columns

/-- The column of a place in a tile. -/
theorem tile_lane {head index : Nat} (inside : InTile valueHead partition head (index % 128)) :
    index % 128 = tileColumn partition (index % 32) := by
  obtain ⟨-, column⟩ := in_tile.mp inside
  rw [tile_column]
  omega

/-- Tiles of the right cells, and stores of the right sums, are what a token does to a tile. -/
theorem tile_block {device : Device R} {phase : List Nat} {row : Row R} {state partials : Nat → R}
    (memory : Memory Half R) (listed : valueHead < kQ38GdnValueHeads) (narrow : partition < 4)
    (rowed : row = prefillRow functions inputs token valueHead)
    (cells : ∀ index, InTile valueHead partition (index / 16384) (index % 128) →
      state index = nextCell row (totalScales functions row) (tileColumn partition (index % 32))
        (cellsOf memory.state valueHead (tileColumn partition (index % 32)))
        (index / 128 % 128))
    (others : ∀ index, ¬ InTile valueHead partition (index / 16384) (index % 128) →
      state index = memory.state index)
    (cores : ∀ lane < 32, columnTotal partials lane =
      columnCore row (totalScales functions row) (tileColumn partition lane)
        (cellsOf memory.state valueHead (tileColumn partition lane))) :
    (⟨state, storeColumns functions device phase token valueHead partition partials
      memory.output⟩ : Memory Half R) =
      blockStep functions inputs token (InTile valueHead partition) memory := by
  unfold blockStep
  congr 1
  · funext index
    by_cases inside : InTile valueHead partition (index / 16384) (index % 128)
    · rw [if_pos inside, cells index inside]
      dsimp only [tokenStep]
      rw [(in_tile.mp inside).1, if_pos listed, tile_lane inside, rowed]
    · rw [if_neg inside, others index inside]
  · funext index
    rw [columns_stored listed narrow]
    by_cases inside : InTile valueHead partition (index % kQ38GdnValueWidth / 128) (index % 128)
    · rw [if_pos inside]
      dsimp only [tokenStep]
      by_cases now : index / kQ38GdnValueWidth = token
      · rw [if_pos ⟨inside, now⟩, if_pos now, cores _ (Nat.mod_lt _ (by decide)),
          (in_tile.mp inside).1, tile_lane inside, rowed]
      · rw [if_neg (fun both => now both.2), if_neg now]
    · rw [if_neg (fun both => inside both.1), if_neg inside]

section Partitioned
variable (device : Device R)

theorem cell_in_tile {lane key : Nat} (narrow : partition < 4) (inside : lane < 32)
    (listed : key < 128) :
    let index := stateIndex valueHead (tileColumn partition lane) key
    InTile valueHead partition (index / 16384) (index % 128) := by
  have small : tileColumn partition lane < 128 := by
    rw [tile_column]
    omega
  dsimp only
  rw [state_index_head small listed, state_index_column small, in_tile, tile_column]
  exact ⟨rfl, by omega⟩

theorem partitioned_token (listed : valueHead < kQ38GdnValueHeads) (narrow : partition < 4)
    (memory : Memory Half R) :
    partitionedToken functions device inputs token valueHead partition memory =
      blockStep functions inputs token (InTile valueHead partition) memory := by
  unfold partitionedToken
  dsimp only
  rw [partitioned_scales]
  generalize rowed : (prefillRow functions inputs token valueHead : Row R) = row
  generalize scaled : totalScales functions row = scales
  let cells := fun lane => cellsOf memory.state valueHead (tileColumn partition lane)
  -- the tile behind the first barrier, and the differences the first warp makes of its sums
  let decayed := fun partials => tileStep valueHead partition (fun _ _ cell => cell * scales.decay)
    (fun key changed => changed * scaledKey row scales key) (⟨memory.state, partials⟩ : Tile R)
  have first (phase : List Nat) (partials : Nat → R) :
      device.scheduler.run phase (List.range 1024) (fun tile thread =>
        sweepTile valueHead partition (decayCell row scales) thread tile)
        ⟨memory.state, partials⟩ = decayed partials :=
    run_sweeps (fun _ _ cell => cell * scales.decay)
      (fun key changed => changed * scaledKey row scales key) narrow _
  have delta (phase : List Nat) (partials stale : Nat → R) : ∀ lane < 32,
      columnDeltas device phase row scales.beta partition (decayed partials).partials stale lane =
      columnDelta row scales (tileColumn partition lane) (cells lane) := by
    intro lane inside
    rw [column_deltas inside, tile_total _ inside]
    rfl
  rw [first]
  have deltas_ := delta ([valueHead, partition, token] ++ [1])
    (device.stale [valueHead, partition, token]).partials
    (device.stale [valueHead, partition, token]).deltas
  revert deltas_
  generalize columnDeltas device ([valueHead, partition, token] ++ [1]) row scales.beta partition
    _ _ = deltas
  intro deltas_
  have second (phase : List Nat) (tile : Tile R) :
      device.scheduler.run phase (List.range 1024) (fun tile thread =>
        sweepTile valueHead partition (updateCell row scales (deltas (thread % 32))) thread tile)
        tile =
      tileStep valueHead partition
        (fun lane key cell => cell + scaledKey row scales key * deltas lane)
        (fun key changed => changed * scaledQuery row scales key) tile :=
    run_sweeps (fun lane key cell => cell + scaledKey row scales key * deltas lane)
      (fun key changed => changed * scaledQuery row scales key) narrow _
  rw [second]
  have next : ∀ lane < 32, ∀ key,
      cells lane key * scales.decay + scaledKey row scales key * deltas lane =
        nextCell row scales (tileColumn partition lane) (cells lane) key := by
    intro lane inside key
    rw [deltas_ lane inside]
    rfl
  apply tile_block memory listed narrow rowed.symm
  · intro index inside
    have place := state_index_of index
    rw [(in_tile.mp inside).1, tile_lane inside] at place
    have stepped := next (index % 32) (Nat.mod_lt _ (by decide)) (index / 128 % 128)
    dsimp only [cells, cellsOf] at stepped
    rw [place] at stepped
    simp only [decayed, tileStep, if_pos inside]
    rw [scaled]
    exact stepped
  · intro index outside
    simp only [decayed, tileStep, if_neg outside]
  · intro lane inside
    rw [tile_total _ inside, scaled]
    unfold columnCore
    congr 1
    apply List.map_congr_left
    intro key member
    have tile := @cell_in_tile valueHead partition lane key narrow inside (List.mem_range.mp member)
    have decayed_ : cellsOf (decayed (device.stale [valueHead, partition, token]).partials).state
        valueHead (tileColumn partition lane) key = cells lane key * scales.decay := if_pos tile
    rw [decayed_, next lane inside]

/-- The blocks of a launch with a head and a partition each. -/
theorem tiles_nodup :
    ((List.range kQ38GdnValueHeads ×ˢ List.range kGdnPrefillPartitions).map id).Nodup := by
  rw [List.map_id]
  exact List.nodup_range.product List.nodup_range

theorem tiles_cover (head : Nat) (listed : head < kQ38GdnValueHeads) (column : Nat)
    (inside : column < 128) : (head, column / 32) ∈
      (List.range kQ38GdnValueHeads ×ˢ List.range kGdnPrefillPartitions).map id := by
  rw [List.map_id]
  refine List.pair_mem_product.mpr ⟨List.mem_range.mpr listed, List.mem_range.mpr ?_⟩
  rw [kGdnPrefillPartitions]
  omega

theorem partitioned_prefill (inputs : Inputs Half) (tokens : Nat) (memory : Memory Half R) :
    gdnRecurrentPrefillPartitionedKernel functions device inputs tokens memory =
      (List.range tokens).foldl (fun memory token => tokenStep functions inputs token memory)
        memory := by
  unfold gdnRecurrentPrefillPartitionedKernel
  apply @run_rounds _ _ _ _ (columnParts fun head column => (head, column / 32)) id _
    (List.range tokens) _
    (fun token memory block =>
      partitionedToken functions device inputs token block.1 block.2 memory)
  · exact tiles_nodup
  · exact fun token _ => token_partwise tiles_cover
  · intro token _
    apply block_does
    intro block listed memory
    obtain ⟨head, column⟩ := List.pair_mem_product.mp listed
    exact partitioned_token device (List.mem_range.mp head) (List.mem_range.mp column) memory

end Partitioned

end Q38.GdnKernels
