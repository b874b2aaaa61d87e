import Q38Runtime.GdnKernels
import Q38Runtime.OwnedTurns

/-! What the recurrence of `q38_gdn.cu` does to one column of a head's state for one token, and
that the loops of a thread over the keys do just that. -/
namespace Q38.GdnKernels
open HalvingLoops StridedLoops ScheduledTurns AttentionKernels OwnedTurns

variable {Half R : Type} [CommRing R] (functions : Functions Half R)

section Sums

theorem warp_sum_total (values : Nat → R) :
    warpSum values = ((List.range 32).map values).sum := by
  have offsets : halvings 16 = [16, 8, 4, 2, 1] := by
    simp [halvings]
  unfold warpSum warpReduce
  rw [offsets]
  simp only [List.foldl_cons, List.foldl_nil]
  simp [List.range_succ]
  abel

theorem sum_groups (groups size : Nat) (values : Nat → R) :
    ((List.range groups).map fun group =>
      ((List.range size).map fun place => values (group * size + place)).sum).sum =
      ((List.range (groups * size)).map values).sum := by
  rw [← groups_range, List.map_flatMap, List.flatMap, List.sum_flatten, List.map_map]
  congr 2
  funext group
  rw [Function.comp_apply, List.map_map]
  rfl

theorem block_sum_total (values : Nat → R) :
    blockSum128 values = ((List.range 128).map values).sum := by
  unfold blockSum128
  rw [warp_sum_total, ← sum_groups 4 32 values]
  simp only [warp_sum_total]
  simp [List.range_succ]

theorem four_warps_total (values : Nat → R) :
    fourWarps values = ((List.range 128).map values).sum := by
  unfold fourWarps
  rw [← sum_groups 4 32 values, List.sum_eq_foldl, List.foldl_map]
  simp only [warp_sum_total]

end Sums

section Sweeps

/-- A loop that changes a cell for every key and adds up what it made of them. -/
def sweep (place : Nat → Nat) (change weight : Nat → R → R) (loop : (Nat → R) × R) (key : Nat) :
    (Nat → R) × R :=
  let changed := change key (loop.1 (place key))
  (Function.update loop.1 (place key) changed, loop.2 + weight key changed)

/-- What such a loop leaves, as no two keys have one place. -/
structure Swept (place : Nat → Nat) (change weight : Nat → R → R) (keys : List Nat)
    (before after : (Nat → R) × R) : Prop where
  here : ∀ key ∈ keys, after.1 (place key) = change key (before.1 (place key))
  beside : ∀ index, (∀ key ∈ keys, place key ≠ index) → after.1 index = before.1 index
  total : after.2 = before.2 +
    (keys.map fun key => weight key (change key (before.1 (place key)))).sum

theorem swept (place : Nat → Nat) (change weight : Nat → R → R) {keys : List Nat}
    (distinct : keys.Nodup)
    (apart : ∀ left ∈ keys, ∀ right ∈ keys, place left = place right → left = right)
    (loop : (Nat → R) × R) :
    Swept place change weight keys loop (keys.foldl (sweep place change weight) loop) := by
  induction keys generalizing loop with
  | nil => exact ⟨fun _ listed => absurd listed List.not_mem_nil, fun _ _ => rfl, by simp⟩
  | cons key keys ih =>
      obtain ⟨fresh, distinct⟩ := List.nodup_cons.mp distinct
      have later := ih distinct (fun left first right second => apart left
        (List.mem_cons_of_mem key first) right (List.mem_cons_of_mem key second))
        (sweep place change weight loop key)
      have others : ∀ other ∈ keys, place other ≠ place key := by
        intro other listed same
        have equal := apart other (List.mem_cons_of_mem key listed) key List.mem_cons_self same
        exact fresh (equal ▸ listed)
      have untouched : ∀ other ∈ keys,
          (sweep place change weight loop key).1 (place other) = loop.1 (place other) :=
        fun other listed => Function.update_of_ne (others other listed) _ _
      rw [List.foldl_cons]
      constructor
      case here =>
        intro other listed
        rcases List.mem_cons.mp listed with rfl | listed
        · rw [later.beside _ others]
          exact Function.update_self _ _ _
        · rw [later.here other listed, untouched other listed]
      case beside =>
        intro index free
        rw [later.beside index fun other listed => free other (List.mem_cons_of_mem key listed)]
        exact Function.update_of_ne (Ne.symm (free key List.mem_cons_self)) _ _
      case total =>
        have same : (keys.map fun other => weight other
            (change other ((sweep place change weight loop key).1 (place other)))) =
            keys.map fun other => weight other (change other (loop.1 (place other))) :=
          List.map_congr_left fun other listed => by rw [untouched other listed]
        rw [later.total, same, List.map_cons, List.sum_cons, ← add_assoc]
        rfl

end Sweeps

section Columns
variable (row : Row R) (scales : Scales R)

/-- What the keys of a column are compared with: the decayed cells, weighted by the keys. -/
def memoryValue (cells : Nat → R) : R :=
  ((List.range kQ38GdnHeadWidth).map fun key =>
    cells key * scales.decay * scaledKey row scales key).sum

def columnDelta (column : Nat) (cells : Nat → R) : R :=
  (row.value column - memoryValue row scales cells) * scales.beta

/-- The cells of a column behind a token. -/
def nextCell (column : Nat) (cells : Nat → R) (key : Nat) : R :=
  cells key * scales.decay + scaledKey row scales key * columnDelta row scales column cells

/-- What a column gives out for a token. -/
def columnCore (column : Nat) (cells : Nat → R) : R :=
  ((List.range kQ38GdnHeadWidth).map fun key =>
    nextCell row scales column cells key * scaledQuery row scales key).sum

theorem decay_cell (place : Nat → Nat) : decayCell row scales place =
    sweep place (fun _ cell => cell * scales.decay)
      fun key changed => changed * scaledKey row scales key := rfl

theorem update_cell (delta : R) (place : Nat → Nat) : updateCell row scales delta place =
    sweep place (fun key cell => cell + scaledKey row scales key * delta)
      fun key changed => changed * scaledQuery row scales key := rfl

end Columns

section Places

theorem state_index_head {valueHead column key : Nat} (inside : column < 128) (listed : key < 128) :
    stateIndex valueHead column key / 16384 = valueHead := by
  simp only [stateIndex, kQ38GdnHeadWidth]
  omega

theorem state_index_key {valueHead column key : Nat} (inside : column < 128) (listed : key < 128) :
    stateIndex valueHead column key / 128 % 128 = key := by
  simp only [stateIndex, kQ38GdnHeadWidth]
  omega

theorem state_index_column {valueHead column key : Nat} (inside : column < 128) :
    stateIndex valueHead column key % 128 = column := by
  simp only [stateIndex, kQ38GdnHeadWidth]
  omega

theorem state_index_of (index : Nat) :
    stateIndex (index / 16384) (index % 128) (index / 128 % 128) = index := by
  simp only [stateIndex, kQ38GdnHeadWidth]
  omega

theorem state_index_apart {valueHead column left right : Nat}
    (same : stateIndex valueHead column left = stateIndex valueHead column right) :
    left = right := by
  simp only [stateIndex, kQ38GdnHeadWidth] at same
  omega

/-- The place of an output. -/
def outputIndex (token valueHead column : Nat) : Nat :=
  token * kQ38GdnValueWidth + valueHead * kQ38GdnHeadWidth + column

section Outputs
variable {token valueHead column : Nat}

theorem output_index_token (listed : valueHead < kQ38GdnValueHeads) (inside : column < 128) :
    outputIndex token valueHead column / kQ38GdnValueWidth = token := by
  simp only [outputIndex, kQ38GdnValueWidth, kQ38GdnHeadWidth, kQ38GdnValueHeads] at listed ⊢
  omega

theorem output_index_head (listed : valueHead < kQ38GdnValueHeads) (inside : column < 128) :
    outputIndex token valueHead column % kQ38GdnValueWidth / 128 = valueHead := by
  simp only [outputIndex, kQ38GdnValueWidth, kQ38GdnHeadWidth, kQ38GdnValueHeads] at listed ⊢
  omega

theorem output_index_column (inside : column < 128) :
    outputIndex token valueHead column % 128 = column := by
  simp only [outputIndex, kQ38GdnValueWidth, kQ38GdnHeadWidth]
  omega

theorem output_index_of (index : Nat) :
    outputIndex (index / kQ38GdnValueWidth) (index % kQ38GdnValueWidth / 128) (index % 128) =
      index := by
  simp only [outputIndex, kQ38GdnValueWidth, kQ38GdnHeadWidth]
  omega

end Outputs

end Places

section Specification

/-- The cells of a column. -/
def cellsOf (state : Nat → R) (valueHead column key : Nat) : R :=
  state (stateIndex valueHead column key)

variable (inputs : Inputs Half) (token : Nat)

def totalScales (row : Row R) : Scales R :=
  let norm := fun (raw : Nat → R) =>
    ((List.range kQ38GdnHeadWidth).map fun element => raw element * raw element).sum
  GdnKernels.scales functions row (norm row.query) (norm row.key)

/-- What a token does to the memory, place by place. -/
def tokenStep (memory : Memory Half R) : Memory Half R where
  state index :=
    let valueHead := index / 16384
    let column := index % 128
    let row := prefillRow functions inputs token valueHead
    if valueHead < kQ38GdnValueHeads then
      nextCell row (totalScales functions row) column (cellsOf memory.state valueHead column)
        (index / 128 % 128)
    else memory.state index
  output index :=
    let valueHead := index % kQ38GdnValueWidth / 128
    let column := index % 128
    let row := prefillRow functions inputs token valueHead
    if index / kQ38GdnValueWidth = token then
      functions.store (columnCore row (totalScales functions row) column
        (cellsOf memory.state valueHead column))
    else memory.output index

/-- The same for the columns of a block only. -/
def blockStep (mine : Nat → Nat → Prop) [∀ head column, Decidable (mine head column)]
    (memory : Memory Half R) : Memory Half R where
  state index :=
    if mine (index / 16384) (index % 128) then (tokenStep functions inputs token memory).state index
    else memory.state index
  output index :=
    if mine (index % kQ38GdnValueWidth / 128) (index % 128) then
      (tokenStep functions inputs token memory).output index
    else memory.output index

/-- The parts of the memory, by head and column. -/
def columnParts {κ : Type} (owner : Nat → Nat → κ) : Parts κ (Memory Half R) where
  same part left right :=
    (∀ index, owner (index / 16384) (index % 128) = part → left.state index = right.state index) ∧
    ∀ index, owner (index % kQ38GdnValueWidth / 128) (index % 128) = part →
      left.output index = right.output index
  equivalence part := {
    refl := fun memory => ⟨fun _ _ => rfl, fun _ _ => rfl⟩
    symm := fun same => ⟨fun index owned => (same.1 index owned).symm,
      fun index owned => (same.2 index owned).symm⟩
    trans := fun first second =>
      ⟨fun index owned => (first.1 index owned).trans (second.1 index owned),
        fun index owned => (first.2 index owned).trans (second.2 index owned)⟩ }
  separate {left right} same := by
    rcases left with ⟨state, output⟩
    rcases right with ⟨state', output'⟩
    have states : state = state' := funext fun index => (same _).1 index rfl
    have outputs : output = output' := funext fun index => (same _).2 index rfl
    rw [states, outputs]

theorem cells_agree {row : Row R} {scales : Scales R} {column : Nat} {cells cells' : Nat → R}
    (agree : ∀ key < 128, cells key = cells' key) :
    columnDelta row scales column cells = columnDelta row scales column cells' ∧
      ∀ key < 128,
        nextCell row scales column cells key = nextCell row scales column cells' key := by
  have memories : memoryValue row scales cells = memoryValue row scales cells' := by
    unfold memoryValue
    congr 1
    exact List.map_congr_left fun key listed => by rw [agree key (List.mem_range.mp listed)]
  have deltas : columnDelta row scales column cells = columnDelta row scales column cells' := by
    unfold columnDelta
    rw [memories]
  refine ⟨deltas, fun key listed => ?_⟩
  unfold nextCell
  rw [deltas, agree key listed]

theorem cores_agree {row : Row R} {scales : Scales R} {column : Nat} {cells cells' : Nat → R}
    (agree : ∀ key < 128, cells key = cells' key) :
    columnCore row scales column cells = columnCore row scales column cells' := by
  unfold columnCore
  congr 1
  exact List.map_congr_left fun key listed => by
    rw [(cells_agree agree).2 key (List.mem_range.mp listed)]

variable {functions inputs token}

theorem token_local {κ : Type} {owner : Nat → Nat → κ} {part : κ} {left right : Memory Half R}
    (same : (columnParts owner).same part left right) :
    (columnParts owner).same part (tokenStep functions inputs token left)
      (tokenStep functions inputs token right) := by
  have agree : ∀ head column, column < 128 → owner head column = part → ∀ key < 128,
      cellsOf left.state head column key = cellsOf right.state head column key := by
    intro head column inside owned key listed
    apply same.1
    rw [state_index_head inside listed, state_index_column inside]
    exact owned
  constructor
  · intro index owned
    dsimp only [tokenStep]
    split
    · exact (cells_agree (agree _ _ (Nat.mod_lt _ (by decide)) owned)).2 _
        (Nat.mod_lt _ (by decide))
    · exact same.1 index owned
  · intro index owned
    dsimp only [tokenStep]
    split
    · rw [cores_agree (agree _ _ (Nat.mod_lt _ (by decide)) owned)]
    · exact same.2 index owned

theorem block_partwise {ι κ : Type} {owner : Nat → Nat → κ} {own : ι → κ} {turns : List ι}
    {mine : Nat → Nat → Prop} [∀ head column, Decidable (mine head column)]
    (covered : ∀ head < kQ38GdnValueHeads, ∀ column < 128, mine head column →
      owner head column ∈ turns.map own) :
    Partwise (columnParts owner) own turns (blockStep (R := R) functions inputs token mine) := by
  constructor
  case local_ =>
    intro part left right same
    have stepped := @token_local _ _ _ functions inputs token _ _ _ _ _ same
    constructor
    · intro index owned
      dsimp only [blockStep]
      split
      · exact stepped.1 index owned
      · exact same.1 index owned
    · intro index owned
      dsimp only [blockStep]
      split
      · exact stepped.2 index owned
      · exact same.2 index owned
  case idle =>
    intro part foreign memory
    constructor
    · intro index owned
      dsimp only [blockStep, tokenStep]
      split
      case isTrue here =>
        rw [if_neg]
        intro listed
        exact foreign (owned ▸ covered _ listed _ (Nat.mod_lt _ (by decide)) here)
      case isFalse => rfl
    · intro index owned
      dsimp only [blockStep]
      rw [if_neg]
      intro here
      have listed : index % kQ38GdnValueWidth / 128 < kQ38GdnValueHeads := by
        simp only [kQ38GdnValueWidth, kQ38GdnValueHeads]
        omega
      exact foreign (owned ▸ covered _ listed _ (Nat.mod_lt _ (by decide)) here)

theorem block_all : blockStep (R := R) functions inputs token (fun _ _ => True) =
    tokenStep functions inputs token := by
  funext memory
  simp [blockStep]

theorem token_partwise {ι κ : Type} {owner : Nat → Nat → κ} {own : ι → κ} {turns : List ι}
    (covered : ∀ head < kQ38GdnValueHeads, ∀ column < 128, owner head column ∈ turns.map own) :
    Partwise (columnParts owner) own turns (tokenStep (R := R) functions inputs token) := by
  rw [← block_all]
  exact block_partwise fun head listed column inside _ => covered head listed column inside

/-- Blocks that each do their columns do what a token does. -/
theorem block_does {ι κ : Type} [DecidableEq κ] {owner : Nat → Nat → κ} {own : ι → κ}
    {turns : List ι} {effect : Memory Half R → ι → Memory Half R}
    (each : ∀ turn ∈ turns, ∀ memory, effect memory turn =
      blockStep functions inputs token (fun head column => owner head column = own turn) memory) :
    Does (columnParts owner) own turns (tokenStep functions inputs token) effect := by
  constructor
  case here =>
    intro turn listed memory
    rw [each turn listed]
    exact ⟨fun index owned => if_pos owned, fun index owned => if_pos owned⟩
  case beside =>
    intro turn listed part foreign memory
    rw [each turn listed]
    exact ⟨fun index owned => if_neg fun here => foreign (owned.symm.trans here),
      fun index owned => if_neg fun here => foreign (owned.symm.trans here)⟩

end Specification

section Serial
variable {row : Row R} {scales : Scales R} {valueHead element : Nat}

/-- The two loops of a thread over all keys of its column. -/
theorem recurrent_thread (outputBase : Nat) (memory : Memory Half R) :
    (∀ key < 128, (recurrentThread functions row scales outputBase valueHead memory element).state
        (stateIndex valueHead element key) =
      nextCell row scales element (cellsOf memory.state valueHead element) key) ∧
    (∀ index, (∀ key < 128, stateIndex valueHead element key ≠ index) →
      (recurrentThread functions row scales outputBase valueHead memory element).state index =
        memory.state index) ∧
    (recurrentThread functions row scales outputBase valueHead memory element).output =
      Function.update memory.output (outputBase + valueHead * kQ38GdnHeadWidth + element)
        (functions.store (columnCore row scales element
          (cellsOf memory.state valueHead element))) := by
  have apart : ∀ left ∈ List.range kQ38GdnHeadWidth, ∀ right ∈ List.range kQ38GdnHeadWidth,
      stateIndex valueHead element left = stateIndex valueHead element right → left = right :=
    fun _ _ _ _ => state_index_apart
  have first := swept (stateIndex valueHead element) (fun _ cell => cell * scales.decay)
    (fun key changed => changed * scaledKey row scales key) List.nodup_range apart
    (memory.state, 0)
  rw [← decay_cell] at first
  have memories : ((List.range kQ38GdnHeadWidth).foldl (decayCell row scales
      (stateIndex valueHead element)) (memory.state, 0)).2 =
      memoryValue row scales (cellsOf memory.state valueHead element) := by
    rw [first.total, zero_add]
    rfl
  have second := swept (stateIndex valueHead element)
    (fun key cell => cell + scaledKey row scales key *
      columnDelta row scales element (cellsOf memory.state valueHead element))
    (fun key changed => changed * scaledQuery row scales key) List.nodup_range apart
    (((List.range kQ38GdnHeadWidth).foldl (decayCell row scales (stateIndex valueHead element))
      (memory.state, 0)).1, 0)
  rw [← update_cell] at second
  have updated : ∀ key ∈ List.range kQ38GdnHeadWidth,
      ((List.range kQ38GdnHeadWidth).foldl (decayCell row scales (stateIndex valueHead element))
        (memory.state, 0)).1 (stateIndex valueHead element key) +
        scaledKey row scales key *
          columnDelta row scales element (cellsOf memory.state valueHead element) =
      nextCell row scales element (cellsOf memory.state valueHead element) key := by
    intro key listed
    rw [first.here key listed]
    rfl
  have threaded : recurrentThread functions row scales outputBase valueHead memory element =
      let swept := (List.range kQ38GdnHeadWidth).foldl (updateCell row scales
        (columnDelta row scales element (cellsOf memory.state valueHead element))
        (stateIndex valueHead element)) (((List.range kQ38GdnHeadWidth).foldl
          (decayCell row scales (stateIndex valueHead element)) (memory.state, 0)).1, 0)
      ⟨swept.1, Function.update memory.output
        (outputBase + valueHead * kQ38GdnHeadWidth + element) (functions.store swept.2)⟩ := by
    unfold recurrentThread
    dsimp only
    rw [memories]
    rfl
  rw [threaded]
  dsimp only
  refine ⟨?_, ?_, ?_⟩
  · intro key listed
    have member : key ∈ List.range kQ38GdnHeadWidth := List.mem_range.mpr listed
    rw [second.here key member]
    exact updated key member
  · intro index free
    rw [second.beside index fun key listed => free key (List.mem_range.mp listed)]
    exact first.beside index fun key listed => free key (List.mem_range.mp listed)
  · rw [second.total, zero_add]
    congr 3
    exact List.map_congr_left fun key listed => by rw [updated key listed]

omit [CommRing R] in
theorem decode_row (inputs : Inputs Half) (token valueHead : Nat) :
    decodeRow functions (inputs.at token) valueHead =
      (prefillRow functions inputs token valueHead : Row R) := by
  unfold decodeRow prefillRow rawQuery rawKey
  simp only [Inputs.at, Nat.add_assoc]

theorem block_scales (row : Row R) : blockScales functions row = totalScales functions row := by
  unfold blockScales totalScales
  rw [block_sum_total, block_sum_total]
  rfl

theorem partitioned_scales (row : Row R) :
    partitionedScales functions row = totalScales functions row := by
  have inside (raw : Nat → R) :
      ((List.range 128).map fun thread =>
        if thread < kQ38GdnHeadWidth then raw thread * raw thread else 0) =
      (List.range kQ38GdnHeadWidth).map fun element => raw element * raw element :=
    List.map_congr_left fun thread listed => if_pos (List.mem_range.mp listed)
  unfold partitionedScales totalScales
  dsimp only
  rw [four_warps_total, four_warps_total, inside, inside]

/-- A thread has the column of its number. -/
def columnOwner (valueHead head column : Nat) : Option Nat :=
  if head = valueHead then some column else none

variable {inputs : Inputs Half} {token : Nat}

theorem column_owner_some {head column : Nat} :
    columnOwner valueHead head column = some element ↔ head = valueHead ∧ column = element := by
  unfold columnOwner
  split <;> simp [*]

theorem thread_does (listed : valueHead < kQ38GdnValueHeads) :
    Does (columnParts (columnOwner valueHead)) some (List.range kQ38GdnHeadWidth)
      (blockStep functions inputs token fun head _ => head = valueHead)
      (recurrentThread (R := R) functions (prefillRow functions inputs token valueHead)
        (totalScales functions (prefillRow functions inputs token valueHead))
        (token * kQ38GdnValueWidth) valueHead) := by
  constructor
  case here =>
    intro element inside memory
    rw [List.mem_range] at inside
    obtain ⟨cells, -, output⟩ := recurrent_thread functions (token * kQ38GdnValueWidth) memory
    constructor
    · intro index owned
      obtain ⟨head, column⟩ := column_owner_some.mp owned
      have place := state_index_of index
      rw [head, column] at place
      have stepped := cells (index / 128 % 128) (Nat.mod_lt _ (by decide))
      rw [place] at stepped
      dsimp only [blockStep, tokenStep]
      rw [if_pos head, head, if_pos listed, column]
      exact stepped
    · intro index owned
      obtain ⟨head, column⟩ := column_owner_some.mp owned
      have place := output_index_of index
      rw [head, column] at place
      dsimp only [blockStep, tokenStep]
      rw [output, if_pos head, head, column]
      split
      case isTrue here =>
        rw [here] at place
        rw [← place]
        exact Function.update_self _ _ _
      case isFalse elsewhere =>
        apply Function.update_of_ne
        rintro rfl
        exact elsewhere (output_index_token listed inside)
  case beside =>
    intro element inside part foreign memory
    rw [List.mem_range] at inside
    obtain ⟨-, beside, output⟩ := recurrent_thread functions (token * kQ38GdnValueWidth) memory
    constructor
    · intro index owned
      apply beside
      rintro key listed rfl
      rw [state_index_head inside listed, state_index_column inside] at owned
      exact foreign (owned ▸ column_owner_some.mpr ⟨rfl, rfl⟩)
    · intro index owned
      rw [output]
      apply Function.update_of_ne
      rintro rfl
      apply foreign
      rw [← owned]
      exact column_owner_some.mpr ⟨output_index_head listed inside, output_index_column inside⟩

theorem serial_block {scheduler : Scheduler} {phase : List Nat}
    (listed : valueHead < kQ38GdnValueHeads) (memory : Memory Half R) :
    scheduler.run phase (List.range kQ38GdnHeadWidth)
      (recurrentThread functions (prefillRow functions inputs token valueHead)
        (blockScales functions (prefillRow functions inputs token valueHead))
        (token * kQ38GdnValueWidth) valueHead) memory =
      blockStep functions inputs token (fun head _ => head = valueHead) memory := by
  rw [block_scales]
  apply @run_specified _ _ _ (columnParts (columnOwner valueHead)) some
  · exact List.nodup_range.map (Option.some_injective _)
  · apply block_partwise
    rintro head - column inside rfl
    rw [column_owner_some.mpr ⟨rfl, rfl⟩]
    exact List.mem_map_of_mem (List.mem_range.mpr inside)
  · exact thread_does functions listed

end Serial

section SerialKernels
variable (device : Device R) (inputs : Inputs Half)

theorem decode_step (token : Nat) (memory : Memory Half R) :
    gdnRecurrentDecodeKernel functions device (inputs.at token) (token * kQ38GdnValueWidth) memory =
      tokenStep functions inputs token memory := by
  unfold gdnRecurrentDecodeKernel
  apply @run_specified _ _ _ (columnParts fun head _ => head) id
  · rw [List.map_id]
    exact List.nodup_range
  · apply token_partwise
    intro head listed _ _
    rw [List.map_id]
    exact List.mem_range.mpr listed
  · apply block_does
    intro valueHead listed memory
    dsimp only
    rw [decode_row, serial_block functions (List.mem_range.mp listed)]
    rfl

theorem serial_prefill (tokens : Nat) (memory : Memory Half R) :
    gdnRecurrentPrefillKernel functions device inputs tokens memory =
      (List.range tokens).foldl (fun memory token => tokenStep functions inputs token memory)
        memory := by
  unfold gdnRecurrentPrefillKernel
  apply @run_rounds _ _ _ _ (columnParts fun head _ => head) id _ (List.range tokens) _
    (fun token memory valueHead =>
      device.scheduler.run [valueHead, token] (List.range kQ38GdnHeadWidth)
        (recurrentThread functions (prefillRow functions inputs token valueHead)
          (blockScales functions (prefillRow functions inputs token valueHead))
          (token * kQ38GdnValueWidth) valueHead) memory)
  · rw [List.map_id]
    exact List.nodup_range
  · intro token _
    apply token_partwise
    intro head listed _ _
    rw [List.map_id]
    exact List.mem_range.mpr listed
  · intro token _
    apply block_does
    intro valueHead listed memory
    exact serial_block functions (List.mem_range.mp listed) memory

end SerialKernels

end Q38.GdnKernels
