import Q38Runtime.RouteTasks

/-!
The grouped experts of a prefill slab. Hidden rows are packed by expert, blocks of
threads take the tasks of the route plan, and a token adds its routes up in the
order of its ranks. What an expert does to a row stays a function here, with one
value for each column; a launch stores in any order. Device, pointer and tensor
checks are taken to pass.
-/
namespace Q38.GroupedExperts
open Contracts RoutePlan ScatteredStores StridedLoops

def kQ38HiddenWidth : Nat := 2560
def kQ38MoeIntermediate : Nat := 640
def kRowThreads : Nat := 256
def kWarpThreads : Nat := 32
def kWmmaTile : Nat := 16
def kGateUpWarps : Nat := 4
def kDownWarps : Nat := 8
def kGateUpOutputTiles : Nat := 10
def kDownOutputTiles : Nat := 20

/-- A row of a buffer laid out row by row. -/
def rowAt {α : Type*} (width : Nat) (cells : Nat → α) (row : Nat) : Fin width → α :=
  fun column => cells (row * width + column)

/-- The arithmetic on one row. -/
structure Arithmetic (Hidden Weight Middle Route Shared Gate Output : Type) where
  gateUp : Nat → (Fin kQ38HiddenWidth → Hidden) → Weight → Nat → Middle
  down : Nat → (Fin kQ38MoeIntermediate → Middle) → Nat → Route
  zero : Route
  add : Route → Route → Route
  combine : Route → Shared → Gate → Output

section Grids

/-- A thread's store into the row of its block. -/
structure RowTurn where
  block : Nat
  column : Nat

/-- The turns of a grid whose blocks each take a row. -/
def rowTurns (blocks width : Nat) : List RowTurn :=
  (List.range blocks ×ˢ
    (List.range kRowThreads).flatMap fun lane => strided lane kRowThreads width).map
      fun turn => ⟨turn.1, turn.2⟩

/-- A thread's store into the tile of its warp; `y` is the task of the block. -/
structure TileTurn where
  x : Nat
  y : Nat
  warp : Nat
  element : Nat

/-- The turns of a grid whose blocks each take some columns of a task. -/
def tileTurns (tiles taskCount warps : Nat) : List TileTurn :=
  ((List.range tiles ×ˢ List.range taskCount) ×ˢ (List.range warps ×ˢ
    (List.range kWarpThreads).flatMap fun lane =>
      strided lane kWarpThreads (kWmmaTile * kWmmaTile))).map
    fun turn => ⟨turn.1.1, turn.1.2, turn.2.1, turn.2.2⟩

def TileTurn.localRow (turn : TileTurn) : Nat := turn.element / kWmmaTile

def TileTurn.column (turn : TileTurn) (warps : Nat) : Nat :=
  turn.x * (warps * kWmmaTile) + turn.warp * kWmmaTile + turn.element % kWmmaTile

end Grids

section Kernels
variable {α Hidden Weight Middle Route Shared Gate Output : Type}
variable (arithmetic : Arithmetic Hidden Weight Middle Route Shared Gate Output)

def packHiddenKernel (hidden : Nat → Hidden) (packedAssignment : Buffer Nat) (routes : Nat)
    (packedHidden : Buffer Hidden) (turn : RowTurn) : Buffer Hidden :=
  if routes ≤ turn.block then packedHidden
  else
    let token := packedAssignment.cells turn.block / kQ38RouteTopK
    packedHidden.store (turn.block * kQ38HiddenWidth + turn.column)
      (hidden (token * kQ38HiddenWidth + turn.column))

/-- Rows that the task does not have are not stored. -/
def storeTile (tasks : Buffer Q38ExpertMmqTaskV1) (warps width : Nat)
    (value : Q38ExpertMmqTaskV1 → Nat → Nat → α) (buffer : Buffer α) (turn : TileTurn) :
    Buffer α :=
  let task := tasks.cells turn.y
  if task.validRows = 0 then buffer
  else if task.validRows ≤ turn.localRow then buffer
  else
    let packedRow := task.packedBegin + turn.localRow
    buffer.store (packedRow * width + turn.column warps) (value task packedRow (turn.column warps))

def groupedGateUpKernel (packedHidden : Buffer Hidden) (packedAssignment : Buffer Nat)
    (tokenRankWeights : Nat → Weight) (tasks : Buffer Q38ExpertMmqTaskV1) :
    Buffer Middle → TileTurn → Buffer Middle :=
  storeTile tasks kGateUpWarps kQ38MoeIntermediate fun task packedRow column =>
    arithmetic.gateUp task.expert (rowAt kQ38HiddenWidth packedHidden.cells packedRow)
      (tokenRankWeights (packedAssignment.cells packedRow)) column

def groupedDownKernel (weightedMid : Buffer Middle) (tasks : Buffer Q38ExpertMmqTaskV1) :
    Buffer Route → TileTurn → Buffer Route :=
  storeTile tasks kDownWarps kQ38HiddenWidth fun task packedRow column =>
    arithmetic.down task.expert (rowAt kQ38MoeIntermediate weightedMid.cells packedRow) column

def routed (routeOutput : Buffer Route) (assignmentToPacked : Buffer Nat) (token column : Nat) :
    Route :=
  (List.range kQ38RouteTopK).foldl (fun routed rank =>
    arithmetic.add routed (routeOutput.cells
      (assignmentToPacked.cells (token * kQ38RouteTopK + rank) * kQ38HiddenWidth + column)))
    arithmetic.zero

def reduceTop10AndCombineSharedKernel (routeOutput : Buffer Route)
    (assignmentToPacked : Buffer Nat) (sharedOutput : Nat → Shared) (sharedGate : Nat → Gate)
    (output : Buffer Output) (turn : RowTurn) : Buffer Output :=
  let place := turn.block * kQ38HiddenWidth + turn.column
  output.store place (arithmetic.combine
    (routed arithmetic routeOutput assignmentToPacked turn.block turn.column)
    (sharedOutput place) (sharedGate turn.block))

end Kernels

section Launches
variable {Hidden Weight Middle Route Shared Gate Output : Type}
variable (arithmetic : Arithmetic Hidden Weight Middle Route Shared Gate Output)

def cudaMoePackHiddenV1 (hidden : Nat → Hidden) (packedAssignment : Buffer Nat) (routes : Nat)
    (order : List RowTurn) (packedHidden : Buffer Hidden) : Except Thrown (Buffer Hidden) :=
  if routes = 0 ∨ kMaxRoutes < routes ∨ routes % kQ38RouteTopK ≠ 0 then
    .error (.invalidArgument "invalid prefill MoE hidden-pack input")
  else .ok (order.foldl (packHiddenKernel hidden packedAssignment routes) packedHidden)

def cudaMoeGroupedGateUpV1 (packedHidden : Buffer Hidden) (packedAssignment : Buffer Nat)
    (tokenRankWeights : Nat → Weight) (tasks : Buffer Q38ExpertMmqTaskV1) (taskCount : Nat)
    (order : List TileTurn) (weightedMid : Buffer Middle) : Except Thrown (Buffer Middle) :=
  if taskCount = 0 ∨ q38MoePrefillMaxTasksV1 kQ38PrefillSlabMaxTokens < taskCount then
    .error (.invalidArgument "invalid grouped prefill gate/up input")
  else .ok (order.foldl (groupedGateUpKernel arithmetic packedHidden packedAssignment
    tokenRankWeights tasks) weightedMid)

def cudaMoeGroupedDownV1 (weightedMid : Buffer Middle) (tasks : Buffer Q38ExpertMmqTaskV1)
    (taskCount : Nat) (order : List TileTurn) (routeOutput : Buffer Route) :
    Except Thrown (Buffer Route) :=
  if taskCount = 0 ∨ q38MoePrefillMaxTasksV1 kQ38PrefillSlabMaxTokens < taskCount then
    .error (.invalidArgument "invalid grouped prefill down input")
  else .ok (order.foldl (groupedDownKernel arithmetic weightedMid tasks) routeOutput)

def cudaMoeReduceTop10AndCombineSharedV1 (routeOutput : Buffer Route)
    (assignmentToPacked : Buffer Nat) (sharedOutput : Nat → Shared) (sharedGate : Nat → Gate)
    (tokens : Nat) (order : List RowTurn) (output : Buffer Output) :
    Except Thrown (Buffer Output) :=
  if tokens = 0 ∨ kQ38PrefillSlabMaxTokens < tokens then
    .error (.invalidArgument "invalid grouped prefill reduction input")
  else .ok (order.foldl (reduceTop10AndCombineSharedKernel arithmetic routeOutput
    assignmentToPacked sharedOutput sharedGate) output)

/-- What the launches of a slab read. -/
structure Slab (Hidden Weight Shared Gate : Type) where
  expertIds : Nat → Int
  hidden : Nat → Hidden
  expertWeights : Nat → Weight
  sharedOutput : Nat → Shared
  sharedGate : Nat → Gate

/-- The buffers that they store into. -/
structure Workspace (Hidden Middle Route Output : Type) where
  plan : Plan
  packedHidden : Buffer Hidden
  weightedMid : Buffer Middle
  routeOutput : Buffer Route
  blockOutput : Buffer Output

/-- The order of the stores in each launch. -/
structure Launches (tokens : Nat) where
  plan : Schedule (q38MoePrefillRoutesV1 tokens) (q38MoePrefillMaxTasksV1 tokens)
  pack : List RowTurn
  gateUp : List TileTurn
  down : List TileTurn
  reduce : List RowTurn
  packed : pack.Perm (rowTurns (tokens * kQ38RouteTopK) kQ38HiddenWidth)
  gated : gateUp.Perm (tileTurns kGateUpOutputTiles (q38MoePrefillMaxTasksV1 tokens) kGateUpWarps)
  downed : down.Perm (tileTurns kDownOutputTiles (q38MoePrefillMaxTasksV1 tokens) kDownWarps)
  reduced : reduce.Perm (rowTurns tokens kQ38HiddenWidth)

/-- The grouped branch of the experts in a prefill tile. -/
def groupedPrefill (slab : Slab Hidden Weight Shared Gate) (tokens : Nat)
    (launches : Launches tokens) (shared : Nat → Nat)
    (workspace : Workspace Hidden Middle Route Output) :
    Except Thrown (Workspace Hidden Middle Route Output) := do
  let block ← cudaMoeBuildRoutePlanV1 slab.expertIds tokens launches.plan workspace.plan shared
  let plan := block.plan
  let packedHidden ← cudaMoePackHiddenV1 slab.hidden plan.packedAssignment
    (tokens * kQ38RouteTopK) launches.pack workspace.packedHidden
  let weightedMid ← cudaMoeGroupedGateUpV1 arithmetic packedHidden plan.packedAssignment
    slab.expertWeights plan.tasks (q38MoePrefillMaxTasksV1 tokens) launches.gateUp
    workspace.weightedMid
  let routeOutput ← cudaMoeGroupedDownV1 arithmetic weightedMid plan.tasks
    (q38MoePrefillMaxTasksV1 tokens) launches.down workspace.routeOutput
  let blockOutput ← cudaMoeReduceTop10AndCombineSharedV1 arithmetic routeOutput
    plan.assignmentToPacked slab.sharedOutput slab.sharedGate tokens launches.reduce
    workspace.blockOutput
  return ⟨plan, packedHidden, weightedMid, routeOutput, blockOutput⟩

end Launches

section Stores
variable {α : Type}

/-- A place in rows of one width names its row and its column. -/
theorem row_column {width row row' column column' : Nat} (inside : column < width)
    (inside' : column' < width) (same : row * width + column = row' * width + column') :
    row = row' ∧ column = column' := by
  have positive : 0 < width := Nat.zero_lt_of_lt inside
  have rows := congrArg (· / width) same
  simp only [Nat.mul_comm _ width, Nat.mul_add_div positive, Nat.div_eq_of_lt inside,
    Nat.div_eq_of_lt inside', Nat.add_zero] at rows
  subst rows
  exact ⟨rfl, Nat.add_left_cancel same⟩

theorem row_place {width rows row column : Nat} (inside : column < width) (listed : row < rows) :
    row * width + column < rows * width := by
  have next := Nat.mul_le_mul_right width (Nat.succ_le_of_lt listed)
  rw [Nat.succ_mul] at next
  omega

theorem mem_row_turns {blocks width : Nat} {turn : RowTurn} :
    turn ∈ rowTurns blocks width ↔ turn.block < blocks ∧ turn.column < width := by
  have columns := (@workers_perm kRowThreads width (by decide)).mem_iff (a := turn.column)
  simp only [rowTurns, List.mem_map, Prod.exists, List.mem_product]
  constructor
  · rintro ⟨block, column, ⟨listed, inside⟩, rfl⟩
    exact ⟨List.mem_range.mp listed, List.mem_range.mp (columns.mp inside)⟩
  · rintro ⟨listed, inside⟩
    exact ⟨turn.block, turn.column,
      ⟨List.mem_range.mpr listed, columns.mpr (List.mem_range.mpr inside)⟩, rfl⟩

theorem row_turns_nodup (blocks width : Nat) : (rowTurns blocks width).Nodup := by
  have columns := (@workers_perm kRowThreads width (by decide)).nodup_iff.mpr List.nodup_range
  apply List.Nodup.map
  · rintro ⟨block, column⟩ ⟨block', column'⟩ same
    cases same
    rfl
  · exact List.nodup_range.product columns

/-- A grid whose blocks each take a row fills the rows. -/
theorem rows_stored {blocks width rows : Nat} {order : List RowTurn} {buffer : Buffer α}
    (value : RowTurn → α) (perm : order.Perm (rowTurns blocks width)) (within : blocks ≤ rows)
    (room : Room (rows * width) buffer) :
    let stored := storeEach (fun turn : RowTurn => turn.block * width + turn.column) value order
      buffer
    Room (rows * width) stored ∧ ∀ block < blocks, ∀ column < width,
      stored.cells (block * width + column) = value ⟨block, column⟩ := by
  have listed {turn : RowTurn} (found : turn ∈ order) := mem_row_turns.mp (perm.mem_iff.mp found)
  have keyed (turn : RowTurn) (found : turn ∈ order) :
      turn.block * width + turn.column < rows * width :=
    row_place (listed found).2 ((listed found).1.trans_le within)
  have apart : (order.map fun turn : RowTurn => turn.block * width + turn.column).Nodup := by
    apply List.Nodup.map_on
    · rintro ⟨block, column⟩ found ⟨block', column'⟩ found' same
      obtain ⟨rfl, rfl⟩ := row_column (listed found).2 (listed found').2 same
      rfl
    · exact perm.nodup_iff.mpr (row_turns_nodup blocks width)
  refine ⟨room_store_each room keyed, fun block inside column below => ?_⟩
  exact store_each_at value room keyed apart
    (perm.mem_iff.mpr ((@mem_row_turns blocks width ⟨block, column⟩).mpr ⟨inside, below⟩))

theorem mem_tile_turns {tiles taskCount warps : Nat} {turn : TileTurn} :
    turn ∈ tileTurns tiles taskCount warps ↔ turn.x < tiles ∧ turn.y < taskCount ∧
      turn.warp < warps ∧ turn.element < kWmmaTile * kWmmaTile := by
  have elements := (@workers_perm kWarpThreads (kWmmaTile * kWmmaTile) (by decide)).mem_iff
    (a := turn.element)
  simp only [tileTurns, List.mem_map, Prod.exists, List.mem_product]
  constructor
  · rintro ⟨x, y, warp, element, ⟨⟨left, listed⟩, own, inside⟩, rfl⟩
    exact ⟨List.mem_range.mp left, List.mem_range.mp listed, List.mem_range.mp own,
      List.mem_range.mp (elements.mp inside)⟩
  · rintro ⟨left, listed, own, inside⟩
    exact ⟨turn.x, turn.y, turn.warp, turn.element,
      ⟨⟨List.mem_range.mpr left, List.mem_range.mpr listed⟩, List.mem_range.mpr own,
        elements.mpr (List.mem_range.mpr inside)⟩, rfl⟩

theorem tile_turns_nodup (tiles taskCount warps : Nat) :
    (tileTurns tiles taskCount warps).Nodup := by
  have elements := (@workers_perm kWarpThreads (kWmmaTile * kWmmaTile) (by decide)).nodup_iff.mpr
    List.nodup_range
  apply List.Nodup.map
  · rintro ⟨⟨x, y⟩, warp, element⟩ ⟨⟨x', y'⟩, warp', element'⟩ same
    cases same
    rfl
  · exact (List.nodup_range.product List.nodup_range).product (List.nodup_range.product elements)

theorem tile_column {tiles taskCount warps : Nat} {turn : TileTurn}
    (listed : turn ∈ tileTurns tiles taskCount warps) :
    turn.warp * kWmmaTile + turn.element % kWmmaTile < warps * kWmmaTile ∧
      turn.column warps < tiles * (warps * kWmmaTile) := by
  obtain ⟨left, -, own, -⟩ := mem_tile_turns.mp listed
  have lane := row_place (Nat.mod_lt turn.element (by decide : 0 < kWmmaTile)) own
  refine ⟨lane, ?_⟩
  rw [TileTurn.column, Nat.add_assoc]
  exact row_place lane left

/-- Only the rows of a task are stored. -/
theorem store_tiles (tasks : Buffer Q38ExpertMmqTaskV1) (warps width : Nat)
    (value : Q38ExpertMmqTaskV1 → Nat → Nat → α) (order : List TileTurn) (buffer : Buffer α) :
    order.foldl (storeTile tasks warps width value) buffer =
      storeEach (fun turn : TileTurn =>
          ((tasks.cells turn.y).packedBegin + turn.localRow) * width + turn.column warps)
        (fun turn => value (tasks.cells turn.y)
          ((tasks.cells turn.y).packedBegin + turn.localRow) (turn.column warps))
        (order.filter fun turn => turn.localRow < (tasks.cells turn.y).validRows) buffer := by
  induction order generalizing buffer with
  | nil => rfl
  | cons turn rest ih =>
      rw [List.foldl_cons, ih]
      by_cases own : turn.localRow < (tasks.cells turn.y).validRows
      · rw [List.filter_cons_of_pos (by simpa using own), storeTile]
        dsimp only
        rw [if_neg (Nat.ne_zero_of_lt own), if_neg (Nat.not_le_of_lt own)]
        rfl
      · rw [List.filter_cons_of_neg (by simpa using own), storeTile]
        dsimp only
        rw [if_pos (Nat.le_of_not_lt own), ite_self]

/-- Tasks that share no row fill their rows. -/
structure RowsApart (tasks : Buffer Q38ExpertMmqTaskV1) (taskCount rows : Nat) : Prop where
  few : ∀ task < taskCount, (tasks.cells task).validRows ≤ kWmmaTile
  inside : ∀ task < taskCount, ∀ row < (tasks.cells task).validRows,
    (tasks.cells task).packedBegin + row < rows
  apart : ∀ task < taskCount, ∀ other < taskCount, ∀ row < (tasks.cells task).validRows,
    ∀ row' < (tasks.cells other).validRows,
      (tasks.cells task).packedBegin + row = (tasks.cells other).packedBegin + row' → task = other

theorem tiles_stored {tiles taskCount warps rows capacity : Nat} {order : List TileTurn}
    {tasks : Buffer Q38ExpertMmqTaskV1} {buffer : Buffer α}
    (value : Q38ExpertMmqTaskV1 → Nat → Nat → α)
    (perm : order.Perm (tileTurns tiles taskCount warps)) (shared : RowsApart tasks taskCount rows)
    (within : rows ≤ capacity) (room : Room (capacity * (tiles * (warps * kWmmaTile))) buffer) :
    let width := tiles * (warps * kWmmaTile)
    let stored := order.foldl (storeTile tasks warps width value) buffer
    Room (capacity * width) stored ∧ ∀ task < taskCount,
      ∀ row < (tasks.cells task).validRows, ∀ column < width,
        stored.cells (((tasks.cells task).packedBegin + row) * width + column) =
          value (tasks.cells task) ((tasks.cells task).packedBegin + row) column := by
  dsimp only
  rw [store_tiles]
  generalize wide : tiles * (warps * kWmmaTile) = width at *
  have listed {turn : TileTurn} (found : turn ∈ order.filter fun turn =>
      turn.localRow < (tasks.cells turn.y).validRows) :
      turn ∈ tileTurns tiles taskCount warps ∧
        turn.localRow < (tasks.cells turn.y).validRows := by
    rw [List.mem_filter, decide_eq_true_eq] at found
    exact ⟨perm.mem_iff.mp found.1, found.2⟩
  have below {turn : TileTurn} (found : turn ∈ tileTurns tiles taskCount warps) :
      turn.column warps < width := wide ▸ (tile_column found).2
  have keyed (turn : TileTurn) (found : turn ∈ order.filter fun turn =>
      turn.localRow < (tasks.cells turn.y).validRows) :
      ((tasks.cells turn.y).packedBegin + turn.localRow) * width + turn.column warps <
        capacity * width := by
    obtain ⟨here, own⟩ := listed found
    have inside := shared.inside turn.y (mem_tile_turns.mp here).2.1 turn.localRow own
    exact row_place (below here) (inside.trans_le within)
  have apart : ((order.filter fun turn => turn.localRow < (tasks.cells turn.y).validRows).map
      fun turn => ((tasks.cells turn.y).packedBegin + turn.localRow) * width +
        turn.column warps).Nodup := by
    apply List.Nodup.map_on
    · rintro ⟨x, y, warp, element⟩ found ⟨x', y', warp', element'⟩ found' same
      obtain ⟨here, own⟩ := listed found
      obtain ⟨here', own'⟩ := listed found'
      obtain ⟨sameRow, sameColumn⟩ := row_column (below here) (below here') same
      obtain rfl : y = y' := shared.apart y (mem_tile_turns.mp here).2.1 y'
        (mem_tile_turns.mp here').2.1 _ own _ own' sameRow
      simp only [TileTurn.column, Nat.add_assoc] at sameColumn
      obtain ⟨rfl, sameLane⟩ :=
        row_column (tile_column here).1 (tile_column here').1 sameColumn
      obtain ⟨rfl, sameRest⟩ := row_column (Nat.mod_lt element (by decide : 0 < kWmmaTile))
        (Nat.mod_lt element' (by decide : 0 < kWmmaTile)) sameLane
      have sameLocal : element / kWmmaTile = element' / kWmmaTile := Nat.add_left_cancel sameRow
      obtain rfl : element = element' := by
        rw [← Nat.div_add_mod element kWmmaTile, sameLocal, sameRest, Nat.div_add_mod]
      rfl
    · exact (perm.nodup_iff.mpr (tile_turns_nodup tiles taskCount warps)).filter _
  refine ⟨room_store_each room keyed, fun task inside row own column near => ?_⟩
  -- the turn that stores this place
  have positive : 0 < warps * kWmmaTile := by
    rcases Nat.eq_zero_or_pos (warps * kWmmaTile) with none | some_
    · rw [← wide, none, Nat.mul_zero] at near
      cases near
    · exact some_
  let turn : TileTurn := ⟨column / (warps * kWmmaTile), task,
    column % (warps * kWmmaTile) / kWmmaTile, row * kWmmaTile + column % kWmmaTile⟩
  have lane := Nat.mod_lt column (by decide : 0 < kWmmaTile)
  have localRow : turn.localRow = row := by
    change (row * kWmmaTile + column % kWmmaTile) / kWmmaTile = row
    rw [Nat.mul_comm, Nat.mul_add_div (by decide), Nat.div_eq_of_lt lane, Nat.add_zero]
  have place : turn.column warps = column := by
    change column / (warps * kWmmaTile) * (warps * kWmmaTile) +
      column % (warps * kWmmaTile) / kWmmaTile * kWmmaTile +
        (row * kWmmaTile + column % kWmmaTile) % kWmmaTile = column
    have deep : column % kWmmaTile = column % (warps * kWmmaTile) % kWmmaTile :=
      (Nat.mod_mul_left_mod column warps kWmmaTile).symm
    rw [Nat.mul_comm row, Nat.mul_add_mod, Nat.mod_mod, deep, Nat.add_assoc, Nat.div_add_mod',
      Nat.div_add_mod']
  have found : turn ∈ order.filter fun turn =>
      turn.localRow < (tasks.cells turn.y).validRows := by
    rw [List.mem_filter, decide_eq_true_eq, localRow]
    refine ⟨perm.mem_iff.mpr (mem_tile_turns.mpr ⟨?_, inside, ?_, ?_⟩), own⟩
    · rw [Nat.div_lt_iff_lt_mul positive, wide]
      exact near
    · rw [Nat.div_lt_iff_lt_mul (by decide)]
      exact Nat.mod_lt column positive
    · exact row_place lane (own.trans_le (shared.few task inside))
  have stored := store_each_at (fun turn : TileTurn => value (tasks.cells turn.y)
    ((tasks.cells turn.y).packedBegin + turn.localRow) (turn.column warps)) room keyed apart found
  rw [localRow, place] at stored
  exact stored

end Stores

section Plans
variable {expertIds : Nat → Int} {tokens : Nat} {plan : Plan}

/-- Different tasks of a plan share no row. -/
theorem orderly_apart (orderly : Orderly expertIds tokens plan) :
    RowsApart plan.tasks (q38MoePrefillMaxTasksV1 tokens) (tokens * kQ38RouteTopK) := by
  have started {task row : Nat} (inside : task < q38MoePrefillMaxTasksV1 tokens)
      (own : row < (plan.tasks.cells task).validRows) : task < plan.header.taskCount := by
    by_contra beyond
    rw [orderly.spare task (Nat.le_of_not_lt beyond) inside] at own
    cases own
  have listed {task : Nat} (inside : task < plan.header.taskCount) :
      plan.tasks.cells task ∈ plan.listed :=
    List.mem_map.mpr ⟨task, List.mem_range.mpr inside, rfl⟩
  have rows {task row : Nat} (own : row < (plan.tasks.cells task).validRows) :
      (plan.tasks.cells task).packedBegin + row ∈ (plan.tasks.cells task).rows :=
    List.mem_map.mpr ⟨row, List.mem_range.mpr own, rfl⟩
  constructor
  case few =>
    intro task inside
    rcases Nat.eq_zero_or_pos (plan.tasks.cells task).validRows with none | own
    · rw [none]
      exact Nat.zero_le _
    · exact (orderly.tasks _ (listed (started inside own))).2.1
  case inside =>
    intro task inside row own
    rw [← List.mem_range, ← orderly.cover]
    exact List.mem_flatMap.mpr ⟨_, listed (started inside own), rows own⟩
  case apart =>
    intro task inside other inside' row own row' own' same
    by_contra differ
    have distinct : (plan.listed.flatMap (·.rows)).Nodup := by
      rw [orderly.cover]
      exact List.nodup_range
    rw [Plan.listed, List.flatMap_map, List.nodup_flatMap] at distinct
    have symmetric : Std.Symm (Function.onFun List.Disjoint fun task =>
        (plan.tasks.cells task).rows) := ⟨fun _ _ apart => apart.symm⟩
    have meet := distinct.2.forall
      (List.mem_range.mpr (started inside own)) (List.mem_range.mpr (started inside' own')) differ
    exact meet (rows own) (same ▸ rows own')

/-- Every packed row is a row of a task of its expert. -/
theorem orderly_row (orderly : Orderly expertIds tokens plan) {row : Nat}
    (inside : row < tokens * kQ38RouteTopK) :
    ∃ task < q38MoePrefillMaxTasksV1 tokens, ∃ own < (plan.tasks.cells task).validRows,
      (plan.tasks.cells task).packedBegin + own = row ∧
        (plan.tasks.cells task).expert = (expertIds (plan.packedAssignment.cells row)).toNat := by
  rw [← List.mem_range, ← orderly.cover, List.mem_flatMap] at inside
  obtain ⟨listed, member, covered⟩ := inside
  have sound := (orderly.tasks listed member).2.2 row covered
  obtain ⟨task, early, rfl⟩ := List.mem_map.mp member
  obtain ⟨own, few, rfl⟩ := List.mem_map.mp covered
  refine ⟨task, (List.mem_range.mp early).trans_le orderly.bounded, own, List.mem_range.mp few,
    rfl, ?_⟩
  rw [sound]
  rfl

end Plans

section Pipeline
variable {Hidden Weight Middle Route Shared Gate Output : Type}
variable (arithmetic : Arithmetic Hidden Weight Middle Route Shared Gate Output)

/-- The workspace of a stage whose prefill tiles hold `planTokens` tokens. -/
structure Allocated (planTokens : Nat) (workspace : Workspace Hidden Middle Route Output) :
    Prop where
  plan : Sized planTokens workspace.plan
  packedHidden : Room (planTokens * kQ38RouteTopK * kQ38HiddenWidth) workspace.packedHidden
  weightedMid : Room (planTokens * kQ38RouteTopK * kQ38MoeIntermediate) workspace.weightedMid
  routeOutput : Room (planTokens * kQ38RouteTopK * kQ38HiddenWidth) workspace.routeOutput
  blockOutput : Room (planTokens * kQ38HiddenWidth) workspace.blockOutput

/-- What an expert makes of a token's hidden row with one of its weights. -/
def expertRow (expert : Nat) (hidden : Fin kQ38HiddenWidth → Hidden) (weight : Weight)
    (column : Nat) : Route :=
  arithmetic.down expert (fun middle => arithmetic.gateUp expert hidden weight middle) column

/-- A token's own experts in the order of their ranks. -/
def routedSum (slab : Slab Hidden Weight Shared Gate) (token column : Nat) : Route :=
  (List.range kQ38RouteTopK).foldl (fun routed rank =>
    let assignment := token * kQ38RouteTopK + rank
    arithmetic.add routed (expertRow arithmetic (slab.expertIds assignment).toNat
      (rowAt kQ38HiddenWidth slab.hidden token) (slab.expertWeights assignment) column))
    arithmetic.zero

variable {slab : Slab Hidden Weight Shared Gate} {tokens planTokens : Nat} {plan : Plan}

theorem packed_hidden {buffer : Buffer Hidden} {order : List RowTurn}
    (perm : order.Perm (rowTurns (tokens * kQ38RouteTopK) kQ38HiddenWidth))
    (fits : tokens ≤ planTokens)
    (room : Room (planTokens * kQ38RouteTopK * kQ38HiddenWidth) buffer) :
    let packed := order.foldl (packHiddenKernel slab.hidden plan.packedAssignment
      (tokens * kQ38RouteTopK)) buffer
    Room (planTokens * kQ38RouteTopK * kQ38HiddenWidth) packed ∧
      ∀ row < tokens * kQ38RouteTopK, rowAt kQ38HiddenWidth packed.cells row =
        rowAt kQ38HiddenWidth slab.hidden (plan.packedAssignment.cells row / kQ38RouteTopK) := by
  have every : order.foldl (packHiddenKernel slab.hidden plan.packedAssignment
      (tokens * kQ38RouteTopK)) buffer =
      storeEach (fun turn : RowTurn => turn.block * kQ38HiddenWidth + turn.column)
        (fun turn => slab.hidden (plan.packedAssignment.cells turn.block / kQ38RouteTopK *
          kQ38HiddenWidth + turn.column)) order buffer := by
    apply List.foldl_ext
    intro buffer turn found
    have listed := (mem_row_turns.mp (perm.mem_iff.mp found)).1
    rw [packHiddenKernel, if_neg (Nat.not_le_of_lt listed)]
  obtain ⟨kept, filled⟩ := rows_stored (fun turn => slab.hidden
    (plan.packedAssignment.cells turn.block / kQ38RouteTopK * kQ38HiddenWidth + turn.column)) perm
    (Nat.mul_le_mul_right _ fits) room
  dsimp only
  rw [every]
  refine ⟨kept, fun row inside => ?_⟩
  funext column
  exact filled row inside column column.isLt

theorem weighted_mid {packedHidden : Buffer Hidden} {buffer : Buffer Middle}
    {order : List TileTurn} (orderly : Orderly slab.expertIds tokens plan)
    (perm : order.Perm
      (tileTurns kGateUpOutputTiles (q38MoePrefillMaxTasksV1 tokens) kGateUpWarps))
    (packed : ∀ row < tokens * kQ38RouteTopK, rowAt kQ38HiddenWidth packedHidden.cells row =
      rowAt kQ38HiddenWidth slab.hidden (plan.packedAssignment.cells row / kQ38RouteTopK))
    (fits : tokens ≤ planTokens)
    (room : Room (planTokens * kQ38RouteTopK * kQ38MoeIntermediate) buffer) :
    let middle := order.foldl (groupedGateUpKernel arithmetic packedHidden plan.packedAssignment
      slab.expertWeights plan.tasks) buffer
    Room (planTokens * kQ38RouteTopK * kQ38MoeIntermediate) middle ∧
      ∀ row < tokens * kQ38RouteTopK, ∀ column < kQ38MoeIntermediate,
        middle.cells (row * kQ38MoeIntermediate + column) =
          let assignment := plan.packedAssignment.cells row
          arithmetic.gateUp (slab.expertIds assignment).toNat
            (rowAt kQ38HiddenWidth slab.hidden (assignment / kQ38RouteTopK))
            (slab.expertWeights assignment) column := by
  obtain ⟨kept, filled⟩ := tiles_stored (fun task packedRow column =>
    arithmetic.gateUp task.expert (rowAt kQ38HiddenWidth packedHidden.cells packedRow)
      (slab.expertWeights (plan.packedAssignment.cells packedRow)) column) perm
    (orderly_apart orderly) (Nat.mul_le_mul_right kQ38RouteTopK fits) room
  refine ⟨kept, fun row inside column below => ?_⟩
  obtain ⟨task, listed, own, few, rfl, expert⟩ := orderly_row orderly inside
  refine (filled task listed own few column below).trans ?_
  dsimp only
  rw [packed _ inside, expert]

theorem route_output {weightedMid : Buffer Middle} {buffer : Buffer Route}
    {order : List TileTurn} (orderly : Orderly slab.expertIds tokens plan)
    (perm : order.Perm (tileTurns kDownOutputTiles (q38MoePrefillMaxTasksV1 tokens) kDownWarps))
    (middle : ∀ row < tokens * kQ38RouteTopK, ∀ column < kQ38MoeIntermediate,
      weightedMid.cells (row * kQ38MoeIntermediate + column) =
        let assignment := plan.packedAssignment.cells row
        arithmetic.gateUp (slab.expertIds assignment).toNat
          (rowAt kQ38HiddenWidth slab.hidden (assignment / kQ38RouteTopK))
          (slab.expertWeights assignment) column)
    (fits : tokens ≤ planTokens)
    (room : Room (planTokens * kQ38RouteTopK * kQ38HiddenWidth) buffer) :
    let output := order.foldl (groupedDownKernel arithmetic weightedMid plan.tasks) buffer
    Room (planTokens * kQ38RouteTopK * kQ38HiddenWidth) output ∧
      ∀ row < tokens * kQ38RouteTopK, ∀ column < kQ38HiddenWidth,
        output.cells (row * kQ38HiddenWidth + column) =
          let assignment := plan.packedAssignment.cells row
          expertRow arithmetic (slab.expertIds assignment).toNat
            (rowAt kQ38HiddenWidth slab.hidden (assignment / kQ38RouteTopK))
            (slab.expertWeights assignment) column := by
  obtain ⟨kept, filled⟩ := tiles_stored (fun task packedRow column =>
    arithmetic.down task.expert (rowAt kQ38MoeIntermediate weightedMid.cells packedRow) column)
    perm (orderly_apart orderly) (Nat.mul_le_mul_right kQ38RouteTopK fits) room
  refine ⟨kept, fun row inside column below => ?_⟩
  obtain ⟨task, listed, own, few, rfl, expert⟩ := orderly_row orderly inside
  refine (filled task listed own few column below).trans ?_
  dsimp only
  rw [expert, expertRow]
  congr 1
  funext unit
  exact middle _ inside unit unit.isLt

/-- A token finds each of its routes where the scatter put it. -/
theorem routed_sum {routeOutput : Buffer Route} (orderly : Orderly slab.expertIds tokens plan)
    (output : ∀ row < tokens * kQ38RouteTopK, ∀ column < kQ38HiddenWidth,
      routeOutput.cells (row * kQ38HiddenWidth + column) =
        let assignment := plan.packedAssignment.cells row
        expertRow arithmetic (slab.expertIds assignment).toNat
          (rowAt kQ38HiddenWidth slab.hidden (assignment / kQ38RouteTopK))
          (slab.expertWeights assignment) column)
    {token column : Nat} (listed : token < tokens) (below : column < kQ38HiddenWidth) :
    routed arithmetic routeOutput plan.assignmentToPacked token column =
      routedSum arithmetic slab token column := by
  apply List.foldl_ext
  intro sum rank ranked
  rw [List.mem_range] at ranked
  have inside := row_place ranked listed
  obtain ⟨packed, stands⟩ := orderly.inverse _ inside
  have own : (token * kQ38RouteTopK + rank) / kQ38RouteTopK = token := by
    rw [Nat.mul_comm, Nat.mul_add_div (by decide), Nat.div_eq_of_lt ranked, Nat.add_zero]
  have route := output _ packed column below
  dsimp only at route
  rw [stands, own] at route
  rw [route]

/-- Every launch of the branch is accepted, and each token gets its own sum. -/
theorem grouped_prefill {workspace : Workspace Hidden Middle Route Output} (some_ : 0 < tokens)
    (fits : tokens ≤ planTokens) (slabbed : planTokens ≤ kQ38PrefillSlabMaxTokens)
    (valid : ∀ assignment < tokens * kQ38RouteTopK, validExpert (slab.expertIds assignment) = true)
    (launches : Launches tokens) (shared : Nat → Nat) (allocated : Allocated planTokens workspace) :
    ∃ block after,
      cudaMoeBuildRoutePlanV1 slab.expertIds tokens launches.plan workspace.plan shared =
        .ok block ∧
      Room kMaxRoutes block.routeExperts ∧
      groupedPrefill arithmetic slab tokens launches shared workspace = .ok after ∧
      after.plan = block.plan ∧ Orderly slab.expertIds tokens after.plan ∧
      Allocated planTokens after ∧
      ∀ token < tokens, ∀ column < kQ38HiddenWidth,
        after.blockOutput.cells (token * kQ38HiddenWidth + column) = arithmetic.combine
          (routedSum arithmetic slab token column)
          (slab.sharedOutput (token * kQ38HiddenWidth + column)) (slab.sharedGate token) := by
  have within : tokens ≤ kQ38PrefillSlabMaxTokens := fits.trans slabbed
  have routes := routes_eq within
  obtain ⟨planned, sharedRoom⟩ := kernel_planned slabbed fits (routes ▸ valid) allocated.plan
    shared launches.plan
  have orderly := planned_orderly planned within valid
  have built : cudaMoeBuildRoutePlanV1 slab.expertIds tokens launches.plan workspace.plan shared =
      .ok (buildRoutePlanKernel slab.expertIds tokens launches.plan workspace.plan shared) :=
    if_neg (by rintro (none | many) <;> omega)
  generalize buildRoutePlanKernel slab.expertIds tokens launches.plan workspace.plan shared =
    block at *
  obtain ⟨packedRoom, packed⟩ := packed_hidden launches.packed fits allocated.packedHidden
  obtain ⟨middleRoom, middle⟩ := weighted_mid arithmetic orderly launches.gated packed fits
    allocated.weightedMid
  obtain ⟨outputRoom, output⟩ := route_output arithmetic orderly launches.downed middle fits
    allocated.routeOutput
  generalize packs : launches.pack.foldl (packHiddenKernel slab.hidden block.plan.packedAssignment
    (tokens * kQ38RouteTopK)) workspace.packedHidden = packedHidden at *
  generalize gates : launches.gateUp.foldl (groupedGateUpKernel arithmetic packedHidden
    block.plan.packedAssignment slab.expertWeights block.plan.tasks) workspace.weightedMid =
    weightedMid at *
  generalize downs : launches.down.foldl (groupedDownKernel arithmetic weightedMid
    block.plan.tasks) workspace.routeOutput = routeOutput at *
  obtain ⟨reducedRoom, reduced⟩ := rows_stored (fun turn : RowTurn => arithmetic.combine
    (routed arithmetic routeOutput block.plan.assignmentToPacked turn.block turn.column)
    (slab.sharedOutput (turn.block * kQ38HiddenWidth + turn.column))
    (slab.sharedGate turn.block)) launches.reduced fits allocated.blockOutput
  have packs_accepted : cudaMoePackHiddenV1 slab.hidden block.plan.packedAssignment
      (tokens * kQ38RouteTopK) launches.pack workspace.packedHidden = .ok packedHidden := by
    rw [cudaMoePackHiddenV1, if_neg, packs]
    simp only [kMaxRoutes, kQ38RouteTopK, kQ38PrefillSlabMaxTokens] at within ⊢
    omega
  have started : q38MoePrefillMaxTasksV1 tokens ≠ 0 := by
    rw [max_tasks_eq, routes]
    simp only [kQ38RouteTopK, kQ38RouteExperts, kQ38MmqM]
    omega
  have counted : ¬ (q38MoePrefillMaxTasksV1 tokens = 0 ∨
      q38MoePrefillMaxTasksV1 kQ38PrefillSlabMaxTokens < q38MoePrefillMaxTasksV1 tokens) := by
    rintro (none | many)
    · exact started none
    · exact absurd (max_tasks_mono le_rfl within) (Nat.not_le_of_lt many)
  have accepted : groupedPrefill arithmetic slab tokens launches shared workspace =
      .ok ⟨block.plan, packedHidden, weightedMid, routeOutput,
        launches.reduce.foldl (reduceTop10AndCombineSharedKernel arithmetic routeOutput
          block.plan.assignmentToPacked slab.sharedOutput slab.sharedGate)
          workspace.blockOutput⟩ := by
    have reduces : ¬ (tokens = 0 ∨ kQ38PrefillSlabMaxTokens < tokens) := by omega
    simp only [groupedPrefill, built, packs_accepted, cudaMoeGroupedGateUpV1,
      cudaMoeGroupedDownV1, cudaMoeReduceTop10AndCombineSharedV1, if_neg counted,
      if_neg reduces, gates, downs, bind, Except.bind, pure, Except.pure]
  refine ⟨block, _, built, sharedRoom, accepted, rfl, orderly,
    ⟨planned.sized, packedRoom, middleRoom, outputRoom, reducedRoom⟩, ?_⟩
  intro token listed column below
  refine (reduced token listed column below).trans ?_
  dsimp only
  rw [routed_sum arithmetic orderly output listed below]

/-- The plan is orderly and inside its allocation, and the branch computes from it. -/
theorem grouped_experts_exact {workspace : Workspace Hidden Middle Route Output}
    {allocation allocationBytes : Nat} {views : Q38RoutePlanStorageV1}
    (made : cudaMoeRoutePlanStorageV1 allocation allocationBytes planTokens = .ok views)
    (allocated : Allocated planTokens workspace) (some_ : 0 < tokens) (fits : tokens ≤ planTokens)
    (valid : ∀ assignment < tokens * kQ38RouteTopK, validExpert (slab.expertIds assignment) = true)
    (launches : Launches tokens) (shared : Nat → Nat) :
    (views.regions planTokens).Pairwise (fun lower upper => lower.1 + lower.2 ≤ upper.1) ∧
    (∀ region ∈ views.regions planTokens,
      allocation ≤ region.1 ∧ region.1 + region.2 ≤ allocation + allocationBytes) ∧
    ∃ block after,
      cudaMoeBuildRoutePlanV1 slab.expertIds tokens launches.plan workspace.plan shared =
        .ok block ∧
      Room kMaxRoutes block.routeExperts ∧
      groupedPrefill arithmetic slab tokens launches shared workspace = .ok after ∧
      after.plan = block.plan ∧ Orderly slab.expertIds tokens after.plan ∧
      Allocated planTokens after ∧
      ∀ token < tokens, ∀ column < kQ38HiddenWidth,
        after.blockOutput.cells (token * kQ38HiddenWidth + column) = arithmetic.combine
          (routedSum arithmetic slab token column)
          (slab.sharedOutput (token * kQ38HiddenWidth + column)) (slab.sharedGate token) := by
  obtain ⟨-, slabbed, behind, inside⟩ := storage_regions made
  exact ⟨behind, inside,
    grouped_prefill arithmetic some_ fits slabbed valid launches shared allocated⟩

end Pipeline

section Sample

/-- One token whose ranks are the first ten experts. -/
def rankSlab : Slab Nat Nat Nat Nat where
  expertIds := fun assignment => assignment
  hidden := fun place => place + 3
  expertWeights := fun assignment => assignment + 1
  sharedOutput := fun _ => 1000
  sharedGate := fun _ => 1

def rankArithmetic : Arithmetic Nat Nat Nat Nat Nat Nat Nat where
  gateUp := fun expert hidden weight column => (expert + hidden ⟨0, by decide⟩) * weight + column
  down := fun expert middle column => middle ⟨0, by decide⟩ + expert + column
  zero := 0
  add := (· + ·)
  combine := fun routed shared gate => routed + shared * gate

def blankBuffer (capacity : Nat) : Buffer Nat := ⟨capacity, fun _ => 0, false⟩

def oneTokenWorkspace : Workspace Nat Nat Nat Nat where
  plan :=
    { header := openHeader 0 0
      expertCounts := blankBuffer kQ38RouteExperts
      expertOffsets := blankBuffer (kQ38RouteExperts + 1)
      expertTaskOffsets := blankBuffer (kQ38RouteExperts + 1)
      packedAssignment := blankBuffer (q38MoePrefillRoutesV1 1)
      assignmentToPacked := blankBuffer (q38MoePrefillRoutesV1 1)
      tasks := ⟨q38MoePrefillMaxTasksV1 1, fun _ => {}, false⟩ }
  packedHidden := blankBuffer (1 * kQ38RouteTopK * kQ38HiddenWidth)
  weightedMid := blankBuffer (1 * kQ38RouteTopK * kQ38MoeIntermediate)
  routeOutput := blankBuffer (1 * kQ38RouteTopK * kQ38HiddenWidth)
  blockOutput := blankBuffer (1 * kQ38HiddenWidth)

def inTurn (tokens : Nat) : Launches tokens where
  plan := ⟨_, _, _, _, _, .refl _, .refl _, .refl _, .refl _, .refl _⟩
  pack := rowTurns (tokens * kQ38RouteTopK) kQ38HiddenWidth
  gateUp := tileTurns kGateUpOutputTiles (q38MoePrefillMaxTasksV1 tokens) kGateUpWarps
  down := tileTurns kDownOutputTiles (q38MoePrefillMaxTasksV1 tokens) kDownWarps
  reduce := rowTurns tokens kQ38HiddenWidth
  packed := .refl _
  gated := .refl _
  downed := .refl _
  reduced := .refl _

theorem grouped_experts_exact_one : ∃ after,
    groupedPrefill rankArithmetic rankSlab 1 (inTurn 1) (fun _ => 7) oneTokenWorkspace =
      .ok after ∧
    (after.plan.packed.Perm (List.range (1 * kQ38RouteTopK)) ∧
      after.blockOutput.cells (0 * kQ38HiddenWidth + 0) = 1540) := by
  obtain ⟨-, -, block, after, -, -, accepted, -, orderly, -, sums⟩ :=
    @grouped_experts_exact Nat Nat Nat Nat Nat Nat Nat rankArithmetic rankSlab 1 1
      oneTokenWorkspace 4096 8192 _ rfl
      ⟨⟨⟨rfl, rfl⟩, ⟨rfl, rfl⟩, ⟨rfl, rfl⟩, ⟨rfl, rfl⟩, ⟨rfl, rfl⟩, ⟨rfl, rfl⟩⟩, ⟨rfl, rfl⟩,
        ⟨rfl, rfl⟩, ⟨rfl, rfl⟩, ⟨rfl, rfl⟩⟩ (by decide) (by decide) (by decide) (inTurn 1)
      (fun _ => 7)
  exact ⟨after, accepted, orderly.permutation, (sums 0 (by decide) 0 (by decide)).trans rfl⟩

end Sample

end Q38.GroupedExperts
