import Q38Runtime.GdnTiles

/-! The prefill kernel that finds its parameters prepared and keeps the state in registers from
the first token to the last. -/
namespace Q38.GdnKernels
open StridedLoops ScheduledTurns OwnedTurns

variable {Half R : Type} [CommRing R] {functions : Functions Half R} {inputs : Inputs Half}
  {token valueHead partition : Nat}

section Preparing

/-- The parameters of a token are those the other kernels work out for themselves. -/
structure Ready (functions : Functions Half R) (inputs : Inputs Half) (prepared : Prepared R)
    (token valueHead : Nat) : Prop where
  queryScale : prepared.queryScales (token * kQ38GdnKeyHeads + keyHeadOf valueHead) =
    (totalScales functions (prefillRow functions inputs token valueHead)).queryScale
  keyScale : prepared.keyScales (token * kQ38GdnKeyHeads + keyHeadOf valueHead) =
    (totalScales functions (prefillRow functions inputs token valueHead)).keyScale
  decay : prepared.decays (token * kQ38GdnValueHeads + valueHead) =
    (totalScales functions (prefillRow functions inputs token valueHead)).decay
  beta : prepared.betas (token * kQ38GdnValueHeads + valueHead) =
    (totalScales functions (prefillRow functions inputs token valueHead)).beta

theorem norm_total (raw : Nat → R) : (fourWarps fun element => raw element * raw element) =
    ((List.range kQ38GdnHeadWidth).map fun element => raw element * raw element).sum :=
  four_warps_total _

section Stores
variable {α : Type} {memory : Nat → α} {value : Nat → α} {target : α} {heads : List Nat}

/-- A store of the right value where it hits the place. -/
theorem update_right {place other : Nat} {stored : α} (agree : other = place → stored = target)
    (held : memory place = target) : Function.update memory other stored place = target := by
  by_cases same : other = place
  · rw [← same, Function.update_self, agree same]
  · rw [Function.update_of_ne (Ne.symm same), held]

/-- The stores of a block for its value heads, where one of them hits the place. -/
theorem heads_stored (listed : valueHead ∈ heads) :
    heads.foldl (fun memory head => Function.update memory (token * kQ38GdnValueHeads + head)
      (value head)) memory (token * kQ38GdnValueHeads + valueHead) = value valueHead := by
  apply fold_settles (fun memory : Nat → α =>
    memory (token * kQ38GdnValueHeads + valueHead) = value valueHead) listed
  · exact fun memory => Function.update_self _ _ _
  · intro head member memory held
    exact update_right (fun same => by rw [Nat.add_left_cancel same]) held

theorem heads_kept {other : Nat} (narrow : ∀ head ∈ heads, head < kQ38GdnValueHeads)
    (column : valueHead < kQ38GdnValueHeads) (agree : other = token → value valueHead = target)
    (held : memory (token * kQ38GdnValueHeads + valueHead) = target) :
    heads.foldl (fun memory head => Function.update memory (other * kQ38GdnValueHeads + head)
      (value head)) memory (token * kQ38GdnValueHeads + valueHead) = target := by
  apply fold_keeps (fun memory : Nat → α =>
    memory (token * kQ38GdnValueHeads + valueHead) = target) ?_ held
  intro head member memory held
  apply update_right (fun same => ?_) held
  have small := narrow head member
  simp only [kQ38GdnValueHeads] at same small column
  have token_ : other = token := by omega
  have head_ : head = valueHead := by omega
  rw [head_, agree token_]

end Stores

/-- The value heads of a key head. -/
theorem heads_of {keyHead : Nat} (listed : keyHead < kQ38GdnKeyHeads) {valueHead : Nat} :
    valueHead ∈ (List.range (kQ38GdnValueHeads / kQ38GdnKeyHeads)).map
        (keyHead * (kQ38GdnValueHeads / kQ38GdnKeyHeads) + ·) ↔
      valueHead < kQ38GdnValueHeads ∧ keyHeadOf valueHead = keyHead := by
  simp only [List.mem_map, List.mem_range, keyHeadOf, kQ38GdnValueHeads, kQ38GdnKeyHeads] at *
  constructor
  · rintro ⟨local_, small, rfl⟩
    omega
  · rintro ⟨small, rfl⟩
    exact ⟨valueHead % 3, by omega, by omega⟩

theorem key_head_small (listed : valueHead < kQ38GdnValueHeads) :
    keyHeadOf valueHead < kQ38GdnKeyHeads := by
  simp only [keyHeadOf, kQ38GdnValueHeads, kQ38GdnKeyHeads] at *
  omega

theorem prepare_makes (listed : valueHead < kQ38GdnValueHeads) (prepared : Prepared R) :
    Ready functions inputs
      (prepareBlock functions inputs prepared (keyHeadOf valueHead, token)) token valueHead := by
  have among := (heads_of (key_head_small listed)).mpr ⟨listed, rfl⟩
  constructor
  case queryScale =>
    exact (Function.update_self _ _ _).trans (congrArg (queryScale functions) (norm_total _))
  case keyScale =>
    exact (Function.update_self _ _ _).trans (congrArg (keyScale functions) (norm_total _))
  case decay => exact heads_stored among
  case beta => exact heads_stored among

theorem prepare_keeps {block : Nat × Nat} (block_ : block.1 < kQ38GdnKeyHeads)
    (listed : valueHead < kQ38GdnValueHeads) {prepared : Prepared R}
    (ready : Ready functions inputs prepared token valueHead) :
    Ready functions inputs (prepareBlock functions inputs prepared block) token valueHead := by
  obtain ⟨keyHead, other⟩ := block
  have narrow : ∀ head ∈ (List.range (kQ38GdnValueHeads / kQ38GdnKeyHeads)).map
      (keyHead * (kQ38GdnValueHeads / kQ38GdnKeyHeads) + ·), head < kQ38GdnValueHeads :=
    fun head member => ((heads_of block_).mp member).1
  have place : other * kQ38GdnKeyHeads + keyHead =
      token * kQ38GdnKeyHeads + keyHeadOf valueHead → other = token ∧
        keyHead = keyHeadOf valueHead := by
    have small := key_head_small listed
    simp only [kQ38GdnKeyHeads] at *
    omega
  constructor
  case queryScale =>
    apply update_right (fun same => ?_) ready.queryScale
    obtain ⟨rfl, rfl⟩ := place same
    exact congrArg (queryScale functions) (norm_total _)
  case keyScale =>
    apply update_right (fun same => ?_) ready.keyScale
    obtain ⟨rfl, rfl⟩ := place same
    exact congrArg (keyScale functions) (norm_total _)
  case decay => exact heads_kept narrow listed (by rintro rfl; rfl) ready.decay
  case beta => exact heads_kept narrow listed (by rintro rfl; rfl) ready.beta

theorem prepared_ready (device : Device R) (inputs : Inputs Half) {tokens : Nat}
    (early : token < tokens) (listed : valueHead < kQ38GdnValueHeads) (prepared : Prepared R) :
    Ready functions inputs
      (gdnPreparePrefillParametersKernel functions device inputs tokens prepared) token
      valueHead := by
  unfold gdnPreparePrefillParametersKernel
  have maker : (keyHeadOf valueHead, token) ∈
      List.range kQ38GdnKeyHeads ×ˢ List.range tokens :=
    List.pair_mem_product.mpr
      ⟨List.mem_range.mpr (key_head_small listed), List.mem_range.mpr early⟩
  apply run_settles (fun later => Ready functions inputs later token valueHead) maker
  · exact prepare_makes listed
  · intro block member later ready
    exact prepare_keeps (List.mem_range.mp (List.pair_mem_product.mp member).1) listed ready

end Preparing

section Registers
variable {device : Device R} {phase : List Nat}

/-- The state in global memory, as it will be when the registers are stored. -/
def settled (valueHead partition : Nat) (state : Nat → R) (cells : Nat → Nat → R) (index : Nat) :
    R :=
  if InTile valueHead partition (index / 16384) (index % 128) then
    cells (threadOf index) (index / 128 % 128 / 32)
  else state index

theorem partials_stored {value : Nat → Nat → R} {partials : Nat → R} {thread : Nat}
    (small : thread < 1024) : storePartials device phase value partials thread =
      ((List.range 4).map (value thread)).sum := by
  have number (thread : Nat) : thread / 32 * kGdnPartitionColumns + thread % 32 = thread :=
    Nat.div_add_mod' thread 32
  unfold storePartials
  have stored := @run_stores _ _ id _ partials device.scheduler phase
    (fun thread => (List.range 4).foldl (fun total item => total + value thread item) 0) thread
    (List.mem_range.mpr small) fun turn _ same => by rw [show turn = thread from same]
  simp only [number]
  refine stored.trans ?_
  rw [List.sum_eq_foldl, List.foldl_map]

/-- What the first warp adds up of the sums of the threads. -/
theorem registers_total {value : Nat → Nat → R} {partials : Nat → R} {lane : Nat}
    (inside : lane < 32) (at_ : Nat → R)
    (agree : ∀ keyLane < 32, ∀ item < 4,
      value (keyLane * 32 + lane) item = at_ (keyLane + item * 32)) :
    columnTotal (storePartials device phase value partials) lane =
      ((List.range kQ38GdnHeadWidth).map at_).sum := by
  rw [column_total_sum, ← lanes_total]
  congr 1
  apply List.map_congr_left
  intro keyLane listed
  have row := List.mem_range.mp listed
  rw [partials_stored (by omega), lane_keys row, List.map_map]
  congr 1
  apply List.map_congr_left
  intro item member
  exact agree keyLane row item (List.mem_range.mp member)

omit [CommRing R] in
theorem settled_cell {state : Nat → R} {cells : Nat → Nat → R} {keyLane lane item : Nat}
    (narrow : partition < 4) (row : keyLane < 32) (inside : lane < 32) (four : item < 4) :
    cellsOf (settled valueHead partition state cells) valueHead (tileColumn partition lane)
      (keyLane + item * 32) = cells (keyLane * 32 + lane) item := by
  have listed : keyLane + item * 32 < 128 := by omega
  have small : tileColumn partition lane < 128 := by
    rw [tile_column]
    omega
  have thread : threadOf (stateIndex valueHead (tileColumn partition lane) (keyLane + item * 32)) =
      keyLane * 32 + lane := by
    rw [threadOf, state_index_key small listed]
    simp only [stateIndex, tile_column, kQ38GdnHeadWidth]
    omega
  have rest : (keyLane + item * 32) / 32 = item := by omega
  unfold cellsOf settled
  rw [if_pos (cell_in_tile narrow inside listed), thread, state_index_key small listed, rest]

/-- A token in the registers is a token in the memory they will be stored to. -/
theorem precomputed_token {prepared : Prepared R} {state : Nat → R} {resident : Resident Half R}
    (listed : valueHead < kQ38GdnValueHeads) (narrow : partition < 4)
    (ready : Ready functions inputs prepared token valueHead) :
    (⟨settled valueHead partition state (precomputedToken functions device inputs prepared token
        valueHead partition resident).cells, (precomputedToken functions device inputs prepared
          token valueHead partition resident).output⟩ : Memory Half R) =
      blockStep functions inputs token (InTile valueHead partition)
        ⟨settled valueHead partition state resident.cells, resident.output⟩ := by
  unfold precomputedToken
  dsimp only
  rw [ready.queryScale, ready.keyScale, ready.decay, ready.beta]
  generalize rowed : (prefillRow functions inputs token valueHead : Row R) = row
  generalize scaled : totalScales functions row = scales
  let cells := fun lane => cellsOf (settled valueHead partition state resident.cells) valueHead
    (tileColumn partition lane)
  have delta (phase : List Nat) (partials stale : Nat → R) : ∀ lane < 32,
      columnDeltas device phase row scales.beta partition
        (storePartials device ([valueHead, partition, token] ++ [0]) (fun thread item =>
          resident.cells thread item * scales.decay *
            (row.key (keyElementOf thread item) * scales.keyScale)) partials) stale lane =
      columnDelta row scales (tileColumn partition lane) (cells lane) := by
    intro lane inside
    rw [column_deltas inside, registers_total inside fun key =>
      cells lane key * scales.decay * scaledKey row scales key]
    · rfl
    · intro keyLane lane_ item four
      have quotient : (keyLane * 32 + lane) / 32 = keyLane := by omega
      dsimp only [cells, keyElementOf]
      rw [settled_cell narrow lane_ inside four, quotient]
      rfl
  have deltas_ := delta ([valueHead, partition, token] ++ [1])
    (device.stale [valueHead, partition, token]).partials
    (device.stale [valueHead, partition, token]).deltas
  revert deltas_
  generalize columnDeltas device ([valueHead, partition, token] ++ [1]) row scales.beta partition
    _ _ = deltas
  intro deltas_
  have next : ∀ lane < 32, ∀ keyLane < 32, ∀ item < 4,
      resident.cells (keyLane * 32 + lane) item * scales.decay +
        row.key (keyLane + item * 32) * scales.keyScale * deltas lane =
      nextCell row scales (tileColumn partition lane) (cells lane) (keyLane + item * 32) := by
    intro lane inside keyLane lane_ item four
    unfold nextCell
    dsimp only [cells]
    rw [settled_cell narrow lane_ inside four, deltas_ lane inside]
    rfl
  apply tile_block ⟨settled valueHead partition state resident.cells, resident.output⟩ listed narrow
    rowed.symm
  · intro index inside
    have stepped := next (index % 32) (Nat.mod_lt _ (by decide)) (index / 128 % 128 % 32)
      (Nat.mod_lt _ (by decide)) (index / 128 % 128 / 32) (by omega)
    have key : index / 128 % 128 % 32 + index / 128 % 128 / 32 * 32 = index / 128 % 128 :=
      Nat.mod_add_div' _ _
    have thread : threadOf index / 32 = index / 128 % 128 % 32 := by
      unfold threadOf
      omega
    have lane : threadOf index % 32 = index % 32 := by
      unfold threadOf
      omega
    rw [key] at stepped
    rw [settled, if_pos inside, scaled, ← stepped]
    dsimp only [keyElementOf]
    rw [thread, lane, key]
    rfl
  · intro index outside
    simp only [settled, if_neg outside]
  · intro lane inside
    rw [scaled]
    unfold columnCore
    apply registers_total inside
    intro keyLane lane_ item four
    have quotient : (keyLane * 32 + lane) / 32 = keyLane := by omega
    have rest : (keyLane * 32 + lane) % 32 = lane := by omega
    dsimp only [keyElementOf]
    rw [quotient, rest, next lane inside keyLane lane_ item four]
    rfl

theorem precomputed_tokens {prepared : Prepared R} {state : Nat → R} {resident : Resident Half R}
    {tokens : List Nat} (listed : valueHead < kQ38GdnValueHeads) (narrow : partition < 4)
    (ready : ∀ token ∈ tokens, Ready functions inputs prepared token valueHead) :
    (⟨settled valueHead partition state (tokens.foldl (fun resident token => precomputedToken
        functions device inputs prepared token valueHead partition resident) resident).cells,
      (tokens.foldl (fun resident token => precomputedToken functions device inputs prepared token
        valueHead partition resident) resident).output⟩ : Memory Half R) =
      tokens.foldl (fun memory token =>
        blockStep functions inputs token (InTile valueHead partition) memory)
        ⟨settled valueHead partition state resident.cells, resident.output⟩ := by
  induction tokens generalizing resident with
  | nil => rfl
  | cons token tokens ih =>
      rw [List.foldl_cons, List.foldl_cons,
        ih fun other member => ready other (List.mem_cons_of_mem token member),
        precomputed_token listed narrow (ready token List.mem_cons_self)]

omit [CommRing R] in
/-- What the threads load is what the memory holds. -/
theorem settled_loaded (state : Nat → R) :
    (settled valueHead partition state fun thread item =>
      state (residentIndex valueHead partition thread item)) = state := by
  funext index
  unfold settled
  split
  case isTrue inside =>
    obtain ⟨-, place, -⟩ := tile_place inside
    have thread : threadOf index / 32 = index / 128 % 128 % 32 := by
      unfold threadOf
      omega
    dsimp only [residentIndex, keyElementOf]
    rw [thread, Nat.mod_add_div', ← place]
  case isFalse => rfl

omit [CommRing R] in
/-- Every thread stores its registers where it loaded them from. -/
theorem registers_stored {state : Nat → R} {cells : Nat → Nat → R} (narrow : partition < 4) :
    device.scheduler.run phase (List.range 1024) (fun state thread =>
      (List.range 4).foldl (fun state item =>
        Function.update state (residentIndex valueHead partition thread item) (cells thread item))
        state) state = settled valueHead partition state cells := by
  have cell {thread item : Nat} (small : thread < 1024) (four : item < 4) :=
    @tile_cell valueHead partition thread (keyElementOf thread item) small narrow
      ((mem_strided (by decide)).mpr ⟨by
        simp only [keyElementOf, kQ38GdnHeadWidth]
        omega, item, by rw [keyElementOf, Nat.mul_comm]⟩)
  have rest {thread item : Nat} (small : thread < 1024) :
      keyElementOf thread item / 32 = item := by
    unfold keyElementOf
    omega
  funext index
  unfold settled
  split
  case isTrue inside =>
    obtain ⟨-, place, small, -⟩ := tile_place inside
    have thread : threadOf index / 32 = index / 128 % 128 % 32 := by
      unfold threadOf
      omega
    have four : index / 128 % 128 / 32 < 4 := by omega
    have here : residentIndex valueHead partition (threadOf index) (index / 128 % 128 / 32) =
        index := by
      rw [residentIndex, keyElementOf, thread, Nat.mod_add_div', ← place]
    have right : ∀ thread < 1024, ∀ item < 4,
        residentIndex valueHead partition thread item = index →
        cells thread item = cells (threadOf index) (index / 128 % 128 / 32) := by
      intro thread small item four same
      obtain ⟨-, thread_, -, key⟩ := cell small four
      change threadOf (residentIndex valueHead partition thread item) = thread at thread_
      change residentIndex valueHead partition thread item / 128 % 128 = _ at key
      rw [← same, thread_, key, rest small]
    apply run_settles (fun later : Nat → R =>
      later index = cells (threadOf index) (index / 128 % 128 / 32))
      (List.mem_range.mpr small)
    · intro later
      apply fold_settles (fun later : Nat → R =>
        later index = cells (threadOf index) (index / 128 % 128 / 32)) (List.mem_range.mpr four)
      · intro later
        rw [here]
        exact Function.update_self _ _ _
      · intro item member later held
        exact update_right (right _ small item (List.mem_range.mp member)) held
    · intro thread listed later held
      apply fold_keeps (fun later : Nat → R =>
        later index = cells (threadOf index) (index / 128 % 128 / 32)) ?_ held
      intro item member later held
      exact update_right (right thread (List.mem_range.mp listed) item (List.mem_range.mp member))
        held
  case isFalse outside =>
    apply run_keeps fun later : Nat → R => later index = state index
    · intro thread listed later held
      apply fold_keeps (fun later : Nat → R => later index = state index) ?_ held
      intro item member later held
      refine (Function.update_of_ne ?_ _ _).trans held
      rintro rfl
      exact outside (cell (List.mem_range.mp listed) (List.mem_range.mp member)).1
    · rfl

end Registers

section Precomputed
variable (device : Device R) (inputs : Inputs Half)

theorem precomputed_prefill {prepared : Prepared R} {tokens : Nat}
    (ready : ∀ token < tokens, ∀ valueHead < kQ38GdnValueHeads,
      Ready functions inputs prepared token valueHead) (memory : Memory Half R) :
    gdnRecurrentPrefillPrecomputedKernel functions device inputs prepared tokens memory =
      (List.range tokens).foldl (fun memory token => tokenStep functions inputs token memory)
        memory := by
  unfold gdnRecurrentPrefillPrecomputedKernel
  have partwise : ∀ token ∈ List.range tokens,
      Partwise (columnParts fun head column => (head, column / 32)) id
        (List.range kQ38GdnValueHeads ×ˢ List.range kGdnPrefillPartitions)
        (tokenStep functions inputs token) := fun token _ => token_partwise tiles_cover
  have rounds := does_rounds (List.range tokens)
    (fun token memory (block : Nat × Nat) =>
      blockStep functions inputs token (InTile block.1 block.2) memory) partwise
    fun token _ => block_does fun block _ memory => rfl
  apply run_specified tiles_nodup (partwise_rounds _ partwise)
  apply rounds.of_eq
  intro block listed memory
  obtain ⟨head, column⟩ := List.pair_mem_product.mp listed
  have narrow := List.mem_range.mp column
  have tokens_ := @precomputed_tokens _ _ _ functions inputs block.1 block.2 device prepared
    memory.state ⟨fun thread item => memory.state (residentIndex block.1 block.2 thread item),
      memory.output⟩ (List.range tokens) (List.mem_range.mp head) narrow
    fun token member => ready token (List.mem_range.mp member) _ (List.mem_range.mp head)
  rw [settled_loaded] at tokens_
  dsimp only
  rw [registers_stored narrow]
  exact tokens_

end Precomputed

end Q38.GdnKernels
