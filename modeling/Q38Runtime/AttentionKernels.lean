import Q38Runtime.HalvingLoops
import Q38Runtime.QsaSelection
import Q38Runtime.ScheduledTurns

/-!
The sparse attention kernels of `q38_qsa.cu`, from stored queries, keys and values to the
attention output. Floating point is left open: an operation is what it is applied to.
Threads of a launch come in any order between barriers, and shared memory holds anything
before it is written. Pointer and range checks are taken to pass.
-/
namespace Q38.AttentionKernels
open HalvingLoops StridedLoops ScheduledTurns QsaSelection

def kQ38QsaHeads : Nat := 24
def kQ38QsaKvHeads : Nat := 2
def kQ38QsaHeadWidth : Nat := 256
def kQsaQueriesPerKv : Nat := kQ38QsaHeads / kQ38QsaKvHeads
def kQsaGroupedKeyTile : Nat := 32
def kQsaGroupedValueTile : Nat := 64
def kWarpsPerBlock : Nat := 256 / 32
def kAttentionTiles : Nat := 4

/-- The operations on `float` and on stored `bfloat16`. -/
structure Arithmetic (Half Float : Type) where
  load : Half → Float
  store : Float → Half
  zero : Float
  lowest : Float
  add : Float → Float → Float
  sub : Float → Float → Float
  mul : Float → Float → Float
  div : Float → Float → Float
  max : Float → Float → Float
  exp : Float → Float
  rsqrt : Float → Float
  ofNat : Nat → Float

/-- The arrays in shared memory. -/
structure Shared (Half Float : Type) where
  queries : Nat → Half
  keys : Nat → Half
  scores : Nat → Float
  positions : Nat → Word
  maxima : Nat → Float
  denominators : Nat → Float

/-- What a launch finds: an order of its turns, and what shared memory held in a block. -/
structure Device (Half Float : Type) where
  scheduler : Scheduler
  stale : List Nat → Shared Half Float

/-- The keys and values that are cached, and the queries and positions of a launch. -/
structure Inputs (Half : Type) where
  query : Nat → Half
  keys : Nat → Half
  values : Nat → Half
  selected : Nat → Word

variable {Half Float : Type} (arithmetic : Arithmetic Half Float)

section Reductions

/-- `__shfl_down_sync` in a full warp gives a lane its own value where there is no other. -/
def warpReduce (op : Float → Float → Float) (values : Nat → Float) : Nat → Float :=
  (halvings 16).foldl (fun values offset lane =>
    op (values lane) (values (if lane + offset < 32 then lane + offset else lane))) values

def blockReduce (op : Float → Float → Float) (unit : Float) (values : Nat → Float) : Float :=
  let partials := fun warp => warpReduce op (fun lane => values (warp * 32 + lane)) 0
  warpReduce op (fun lane => if lane < kThreads / 32 then partials lane else unit) 0

/-- The dot product of a warp, scaled by its first lane. -/
def scaledDot (query key : Nat → Float) : Float :=
  let dot := warpReduce arithmetic.add (fun lane =>
    (strided lane 32 kQ38QsaHeadWidth).foldl (fun dot element =>
      arithmetic.add dot (arithmetic.mul (query element) (key element))) arithmetic.zero) 0
  arithmetic.mul dot (arithmetic.rsqrt (arithmetic.ofNat kQ38QsaHeadWidth))

def rowMaximum (row : Nat → Float) (count : Nat) : Float :=
  blockReduce arithmetic.max arithmetic.lowest fun thread =>
    (strided thread kThreads count).foldl (fun maximum index =>
      arithmetic.max maximum (row index)) arithmetic.lowest

def rowDenominator (row : Nat → Float) (maximum : Float) (count : Nat) : Float :=
  blockReduce arithmetic.add arithmetic.zero fun thread =>
    (strided thread kThreads count).foldl (fun sum index =>
      arithmetic.add sum (arithmetic.exp (arithmetic.sub (row index) maximum))) arithmetic.zero

def normalized (score maximum denominator : Float) : Float :=
  arithmetic.div (arithmetic.exp (arithmetic.sub score maximum)) denominator

def weighted (weights values : Nat → Float) (count : Nat) : Float :=
  (List.range count).foldl (fun value index =>
    arithmetic.add value (arithmetic.mul (weights index) (values index))) arithmetic.zero

end Reductions

section Places

/-- The index of an element of a cached row; 64-bit arithmetic wraps. -/
def cacheIndex (position : Word) (kvHead element : Nat) : Nat :=
  (((position.signExtend 64).toNat * kQ38QsaKvHeads + kvHead) * kQ38QsaHeadWidth + element) %
    2 ^ 64

def selectedCountAt (position : Nat) : Nat :=
  min (completeBlocksAt position) kQ38QsaBlockBudget * kQ38QsaBlockTokens +
    (position + 1) % kQ38QsaBlockTokens

def rowOfHead (token head : Nat) : Nat := token * kQ38QsaHeads + head

def scoreBase (token head : Nat) : Nat := rowOfHead token head * kQ38QsaMaximumSelected

def elementBase (token head : Nat) : Nat := rowOfHead token head * kQ38QsaHeadWidth

def tokenSelected (selected : Nat → Word) (token index : Nat) : Word :=
  selected (token * kQ38QsaMaximumSelected + index)

def loaded (cells : Nat → Half) (position : Word) (kvHead element : Nat) : Float :=
  arithmetic.load (cells (cacheIndex position kvHead element))

/-- A score from queries at a base in `query`. -/
def score (inputs : Inputs Half) (queryBase kvHead : Nat) (position : Word) : Float :=
  scaledDot arithmetic (fun element => arithmetic.load (inputs.query (queryBase + element)))
    (loaded arithmetic inputs.keys position kvHead)

end Places

section Softmax

/-- The loops that 256 threads run over a row of scores. -/
def normalizeRow (scheduler : Scheduler) (phase : List Nat) (base count : Nat)
    (scores : Nat → Float) : Nat → Float :=
  let row := fun index => scores (base + index)
  let maximum := rowMaximum arithmetic row count
  let denominator := rowDenominator arithmetic row maximum count
  scheduler.run phase (workerTurns kThreads count) (fun scores index =>
    Function.update scores (base + index)
      (normalized arithmetic (scores (base + index)) maximum denominator)) scores

end Softmax

section Decode
variable (device : Device Half Float) (inputs : Inputs Half) (selectedCount : Nat)

def kvHeadOf (head : Nat) : Nat := head / (kQ38QsaHeads / kQ38QsaKvHeads)

/-- The positions that the warps of a tile come to. -/
def tileTurns (tile bound : Nat) : List Nat :=
  (List.range kWarpsPerBlock).flatMap fun warp =>
    strided (tile * kWarpsPerBlock + warp) (kAttentionTiles * kWarpsPerBlock) bound

def qsaAttentionScoresKernel (scores : Nat → Float) : Nat → Float :=
  device.scheduler.run [] (List.range kQ38QsaHeads ×ˢ List.range kAttentionTiles)
    (fun scores block =>
      let (head, tile) := block
      device.scheduler.run [head, tile] (tileTurns tile selectedCount) (fun scores index =>
        Function.update scores (head * selectedCount + index)
          (score arithmetic inputs (head * kQ38QsaHeadWidth) (kvHeadOf head)
            (inputs.selected index))) scores) scores

def qsaAttentionSoftmaxKernel (scores : Nat → Float) : Nat → Float :=
  device.scheduler.run [] (List.range kQ38QsaHeads) (fun scores head =>
    normalizeRow arithmetic device.scheduler [head] (head * selectedCount) selectedCount scores)
    scores

/-- Blocks of 64 threads, each thread with one element. -/
def qsaAttentionOutputKernel (scores : Nat → Float) (output : Nat → Half) : Nat → Half :=
  device.scheduler.run [] (List.range kQ38QsaHeads ×ˢ List.range kAttentionTiles)
    (fun output block =>
      let (head, tile) := block
      device.scheduler.run [head, tile] (List.range 64) (fun output thread =>
        let element := tile * 64 + thread
        if kQ38QsaHeadWidth ≤ element then output
        else Function.update output (head * kQ38QsaHeadWidth + element)
          (arithmetic.store (weighted arithmetic
            (fun index => scores (head * selectedCount + index))
            (fun index => loaded arithmetic inputs.values (inputs.selected index)
              (kvHeadOf head) element) selectedCount))) output) output

end Decode

section Prefill
variable (device : Device Half Float) (inputs : Inputs Half) (firstPosition tokens : Nat)

def qsaAttentionScoresPrefillKernel (scores : Nat → Float) : Nat → Float :=
  device.scheduler.run [] (List.range kQ38QsaHeads ×ˢ List.range tokens) (fun scores block =>
    let (head, token) := block
    let selectedCount := selectedCountAt (firstPosition + token)
    device.scheduler.run [head, token] (workerTurns kWarpsPerBlock selectedCount)
      (fun scores index =>
        Function.update scores (scoreBase token head + index)
          (score arithmetic inputs (elementBase token head) (kvHeadOf head)
            (tokenSelected inputs.selected token index))) scores) scores

/-- The scores in global memory and the output. -/
structure Results (Half Float : Type) where
  scores : Nat → Float
  output : Nat → Half

def qsaAttentionOutputPrefillKernel (results : Results Half Float) : Results Half Float :=
  device.scheduler.run [] (List.range kQ38QsaHeads ×ˢ List.range tokens) (fun results block =>
    let (head, token) := block
    let selectedCount := selectedCountAt (firstPosition + token)
    let scores := normalizeRow arithmetic device.scheduler [head, token, 0]
      (scoreBase token head) selectedCount results.scores
    { scores := scores
      output := device.scheduler.run [head, token, 1] (List.range kQ38QsaHeadWidth)
        (fun output element =>
          Function.update output (elementBase token head + element)
            (arithmetic.store (weighted arithmetic
              (fun index => scores (scoreBase token head + index))
              (fun index => loaded arithmetic inputs.values
                (tokenSelected inputs.selected token index) (kvHeadOf head) element)
              selectedCount))) results.output }) results

end Prefill

section Grouped
variable (device : Device Half Float) (inputs : Inputs Half) (firstPosition tokens : Nat)

def headOf (kvHead queryLocal : Nat) : Nat := kvHead * kQsaQueriesPerKv + queryLocal

/-- All queries of a group, copied by 256 threads. -/
def stageQueries (phase : List Nat) (token kvHead : Nat) (queries : Nat → Half) : Nat → Half :=
  device.scheduler.run phase (workerTurns kThreads (kQsaQueriesPerKv * kQ38QsaHeadWidth))
    (fun queries index =>
      let head := headOf kvHead (index / kQ38QsaHeadWidth)
      Function.update queries index
        (inputs.query (elementBase token head + index % kQ38QsaHeadWidth))) queries

def stageKeys (phase : List Nat) (token kvHead tileBase tileCount : Nat) (keys : Nat → Half) :
    Nat → Half :=
  device.scheduler.run phase (workerTurns kThreads (tileCount * kQ38QsaHeadWidth))
    (fun keys index =>
      let position := tokenSelected inputs.selected token (tileBase + index / kQ38QsaHeadWidth)
      Function.update keys index
        (inputs.keys (cacheIndex position kvHead (index % kQ38QsaHeadWidth)))) keys

/-- The keys in shared memory and the scores, from tile to tile. -/
structure KeyTiles (Half Float : Type) where
  keys : Nat → Half
  scores : Nat → Float

def scoreTile (phase : List Nat) (token kvHead selectedCount : Nat) (queries : Nat → Half)
    (tiles : KeyTiles Half Float) (tileBase : Nat) : KeyTiles Half Float :=
  let tileCount := min kQsaGroupedKeyTile (selectedCount - tileBase)
  let keys := stageKeys device inputs (phase ++ [tileBase, 0]) token kvHead tileBase tileCount
    tiles.keys
  { keys := keys
    scores := device.scheduler.run (phase ++ [tileBase, 1])
      (workerTurns kWarpsPerBlock tileCount ×ˢ List.range kQsaQueriesPerKv) (fun scores turn =>
        let (tileIndex, queryLocal) := turn
        Function.update scores (scoreBase token (headOf kvHead queryLocal) + tileBase + tileIndex)
          (scaledDot arithmetic
            (fun element => arithmetic.load (queries (queryLocal * kQ38QsaHeadWidth + element)))
            (fun element => arithmetic.load (keys (tileIndex * kQ38QsaHeadWidth + element)))))
      tiles.scores }

/-- The queries once, and then the keys tile by tile. -/
def scoreGroup (phase : List Nat) (token kvHead : Nat) (scores : Nat → Float) : Nat → Float :=
  let selectedCount := selectedCountAt (firstPosition + token)
  let stale := device.stale phase
  let queries := stageQueries device inputs (phase ++ [0]) token kvHead stale.queries
  ((strided 0 kQsaGroupedKeyTile selectedCount).foldl
    (scoreTile arithmetic device inputs (phase ++ [1]) token kvHead selectedCount queries)
    ⟨stale.keys, scores⟩).scores

def qsaAttentionScoresGroupedPrefillKernel (scores : Nat → Float) : Nat → Float :=
  device.scheduler.run [] (List.range kQ38QsaKvHeads ×ˢ List.range tokens) (fun scores block =>
    let (kvHead, token) := block
    scoreGroup arithmetic device inputs firstPosition [kvHead, token] token kvHead scores) scores

def qsaAttentionSoftmaxPrefillKernel (scores : Nat → Float) : Nat → Float :=
  device.scheduler.run [] (List.range kQ38QsaHeads ×ˢ List.range tokens) (fun scores block =>
    let (head, token) := block
    normalizeRow arithmetic device.scheduler [head, token] (scoreBase token head)
      (selectedCountAt (firstPosition + token)) scores) scores

/-- The tile in shared memory, and the accumulators of every thread. -/
structure ValueTiles (Float : Type) where
  scores : Nat → Float
  positions : Nat → Word
  accumulators : Nat → Nat → Float

def stagePositions (phase : List Nat) (token tileBase tileCount : Nat) (positions : Nat → Word) :
    Nat → Word :=
  device.scheduler.run phase ((List.range kThreads).filter fun thread => thread < tileCount)
    (fun positions thread => Function.update positions thread
      (tokenSelected inputs.selected token (tileBase + thread))) positions

def stageScores (phase : List Nat) (token kvHead tileBase tileCount : Nat)
    (global shared : Nat → Float) : Nat → Float :=
  device.scheduler.run phase (workerTurns kThreads (kQsaQueriesPerKv * kQsaGroupedValueTile))
    (fun shared flat =>
      let tileIndex := flat % kQsaGroupedValueTile
      if tileCount ≤ tileIndex then shared
      else
        let head := headOf kvHead (flat / kQsaGroupedValueTile)
        Function.update shared flat (global (scoreBase token head + tileBase + tileIndex))) shared

def valueTile (phase : List Nat) (token kvHead selectedCount : Nat) (global : Nat → Float)
    (tiles : ValueTiles Float) (tileBase : Nat) : ValueTiles Float :=
  let tileCount := min kQsaGroupedValueTile (selectedCount - tileBase)
  let positions := stagePositions device inputs (phase ++ [tileBase, 0]) token tileBase tileCount
    tiles.positions
  let scores := stageScores device (phase ++ [tileBase, 1]) token kvHead tileBase tileCount global
    tiles.scores
  { scores := scores
    positions := positions
    accumulators := fun element =>
      (List.range tileCount).foldl (fun accumulators tileIndex queryLocal =>
        arithmetic.add (accumulators queryLocal)
          (arithmetic.mul (scores (queryLocal * kQsaGroupedValueTile + tileIndex))
            (loaded arithmetic inputs.values (positions tileIndex) kvHead element)))
        (tiles.accumulators element) }

/-- Every thread stores its accumulators, one for each head of the group. -/
def storeGroup (phase : List Nat) (token kvHead : Nat) (accumulators : Nat → Nat → Float)
    (output : Nat → Half) : Nat → Half :=
  device.scheduler.run phase (List.range kQ38QsaHeadWidth ×ˢ List.range kQsaQueriesPerKv)
    (fun output turn =>
      let (element, queryLocal) := turn
      Function.update output (elementBase token (headOf kvHead queryLocal) + element)
        (arithmetic.store (accumulators element queryLocal))) output

def qsaAttentionValueGroupedPrefillKernel (scores : Nat → Float) (output : Nat → Half) :
    Nat → Half :=
  device.scheduler.run [] (List.range kQ38QsaKvHeads ×ˢ List.range tokens) (fun output block =>
    let (kvHead, token) := block
    let selectedCount := selectedCountAt (firstPosition + token)
    let stale := device.stale [kvHead, token]
    let tiles := (strided 0 kQsaGroupedValueTile selectedCount).foldl
      (valueTile arithmetic device inputs [kvHead, token, 0] token kvHead selectedCount scores)
      ⟨stale.scores, stale.positions, fun _ _ => arithmetic.zero⟩
    storeGroup arithmetic device [kvHead, token, 1] token kvHead tiles.accumulators output) output

end Grouped

section Fused
variable (device : Device Half Float) (inputs : Inputs Half) (firstPosition tokens : Nat)

/-- The value loop of a thread without tiles: `weight` of a head and an index. -/
def accumulate (token kvHead selectedCount : Nat) (weight : Nat → Nat → Float)
    (element : Nat) : Nat → Float :=
  (List.range selectedCount).foldl (fun accumulators index queryLocal =>
    arithmetic.add (accumulators queryLocal)
      (arithmetic.mul (weight queryLocal index)
        (loaded arithmetic inputs.values (tokenSelected inputs.selected token index) kvHead
          element))) fun _ => arithmetic.zero

def qsaAttentionSoftmaxValueGroupedPrefillKernel (results : Results Half Float) :
    Results Half Float :=
  device.scheduler.run [] (List.range kQ38QsaKvHeads ×ˢ List.range tokens) (fun results block =>
    let (kvHead, token) := block
    let selectedCount := selectedCountAt (firstPosition + token)
    let scores := (List.range kQsaQueriesPerKv).foldl (fun scores queryLocal =>
      normalizeRow arithmetic device.scheduler [kvHead, token, 0, queryLocal]
        (scoreBase token (headOf kvHead queryLocal)) selectedCount scores) results.scores
    let accumulators := accumulate arithmetic inputs token kvHead selectedCount
      fun queryLocal index => scores (scoreBase token (headOf kvHead queryLocal) + index)
    { scores := scores
      output := storeGroup arithmetic device [kvHead, token, 1] token kvHead accumulators
        results.output }) results

/-- The maximum and the denominator of every head of a group, stored by its first thread. -/
def reduceGroup (token kvHead selectedCount : Nat) (scores : Nat → Float)
    (shared : Shared Half Float) : Shared Half Float :=
  (List.range kQsaQueriesPerKv).foldl (fun shared queryLocal =>
    let row := fun index => scores (scoreBase token (headOf kvHead queryLocal) + index)
    let maximum := rowMaximum arithmetic row selectedCount
    { shared with
      maxima := Function.update shared.maxima queryLocal maximum
      denominators := Function.update shared.denominators queryLocal
        (rowDenominator arithmetic row maximum selectedCount) }) shared

def qsaAttentionFusedGroupedPrefillKernel (results : Results Half Float) : Results Half Float :=
  device.scheduler.run [] (List.range kQ38QsaKvHeads ×ˢ List.range tokens) (fun results block =>
    let (kvHead, token) := block
    let selectedCount := selectedCountAt (firstPosition + token)
    let scores := scoreGroup arithmetic device inputs firstPosition [kvHead, token] token kvHead
      results.scores
    let shared := reduceGroup arithmetic token kvHead selectedCount scores
      (device.stale [kvHead, token])
    let accumulators := accumulate arithmetic inputs token kvHead selectedCount
      fun queryLocal index => normalized arithmetic
        (scores (scoreBase token (headOf kvHead queryLocal) + index))
        (shared.maxima queryLocal) (shared.denominators queryLocal)
    { scores := scores
      output := storeGroup arithmetic device [kvHead, token, 2] token kvHead accumulators
        results.output }) results

end Fused

section Paths
variable (devices : Nat → Device Half Float) (inputs : Inputs Half)

/-- Every launch finds a device of its own. -/
def cudaQsaAttentionDecodeBf16 (selectedCount : Nat) (results : Results Half Float) :
    Results Half Float :=
  let scores := qsaAttentionSoftmaxKernel arithmetic (devices 1) selectedCount
    (qsaAttentionScoresKernel arithmetic (devices 0) inputs selectedCount results.scores)
  { scores := scores
    output := qsaAttentionOutputKernel arithmetic (devices 2) inputs selectedCount scores
      results.output }

variable (firstPosition tokens : Nat)

def cudaQsaApplyPrefillBf16 (results : Results Half Float) : Results Half Float :=
  qsaAttentionOutputPrefillKernel arithmetic (devices 1) inputs firstPosition tokens
    { results with
      scores := qsaAttentionScoresPrefillKernel arithmetic (devices 0) inputs firstPosition tokens
        results.scores }

def cudaQsaApplyGroupedPrefillBf16 (results : Results Half Float) : Results Half Float :=
  let scores := qsaAttentionSoftmaxPrefillKernel arithmetic (devices 1) firstPosition tokens
    (qsaAttentionScoresGroupedPrefillKernel arithmetic (devices 0) inputs firstPosition tokens
      results.scores)
  { scores := scores
    output := qsaAttentionValueGroupedPrefillKernel arithmetic (devices 2) inputs firstPosition
      tokens scores results.output }

/-- `persistent` is what the environment asks for. -/
def cudaQsaApplyGroupedFusedPrefillBf16 (persistent : Bool) (results : Results Half Float) :
    Results Half Float :=
  if persistent then
    qsaAttentionFusedGroupedPrefillKernel arithmetic (devices 0) inputs firstPosition tokens
      results
  else
    qsaAttentionSoftmaxValueGroupedPrefillKernel arithmetic (devices 1) inputs firstPosition tokens
      { results with
        scores := qsaAttentionScoresGroupedPrefillKernel arithmetic (devices 0) inputs
          firstPosition tokens results.scores }

end Paths

end Q38.AttentionKernels
