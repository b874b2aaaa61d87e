import Q38Runtime.AttentionKernels

/-! The recurrence of `q38_gdn.cu`, for one token and for a prefill slab: serial, partitioned by
columns, and with parameters prepared beforehand and the state held in registers. Numbers are
those of a commutative ring, and the functions that are none of its operations are left open.
Threads of a launch come in any order between barriers, and shared memory holds anything before
it is written. -/
namespace Q38.GdnKernels
open StridedLoops ScheduledTurns AttentionKernels

def kQ38GdnKeyHeads : Nat := 16
def kQ38GdnValueHeads : Nat := 48
def kQ38GdnHeadWidth : Nat := 128
def kQ38GdnQkvWidth : Nat := 10240
def kQ38GdnValueWidth : Nat := 6144
def kGdnPrefillPartitions : Nat := 4
def kGdnPartitionColumns : Nat := kQ38GdnHeadWidth / kGdnPrefillPartitions

/-- `above` is `> 20.0f` and `epsilon` is `1.0e-6f`. -/
structure Functions (Half R : Type) where
  load : Half → R
  store : R → Half
  exp : R → R
  log1p : R → R
  rsqrt : R → R
  div : R → R → R
  above : R → Bool
  epsilon : R

structure Inputs (Half : Type) where
  qkv : Nat → Half
  projectedB : Nat → Half
  projectedA : Nat → Half
  aLog : Nat → Half
  dtBias : Nat → Half

/-- The inputs behind pointers that were moved on to a token. -/
def Inputs.at (inputs : Inputs Half) (token : Nat) : Inputs Half :=
  { inputs with
    qkv := fun index => inputs.qkv (token * kQ38GdnQkvWidth + index)
    projectedB := fun index => inputs.projectedB (token * kQ38GdnValueHeads + index)
    projectedA := fun index => inputs.projectedA (token * kQ38GdnValueHeads + index) }

structure Memory (Half R : Type) where
  state : Nat → R
  output : Nat → Half

/-- The arrays in shared memory. -/
structure Shared (R : Type) where
  partials : Nat → R
  deltas : Nat → R

structure Device (R : Type) where
  scheduler : Scheduler
  stale : List Nat → Shared R

variable {Half R : Type} [CommRing R] (functions : Functions Half R)

section Parameters

def warpSum (values : Nat → R) : R := warpReduce (· + ·) values 0

def blockSum128 (values : Nat → R) : R :=
  warpSum fun lane =>
    if lane < 4 then warpSum fun place => values (lane * 32 + place) else 0

/-- The four warps, one behind the other. -/
def fourWarps (values : Nat → R) : R :=
  (List.range 4).foldl (fun norm warp => norm + warpSum fun lane => values (warp * 32 + lane)) 0

/-- What one value head reads for one token. -/
structure Row (R : Type) where
  query : Nat → R
  key : Nat → R
  value : Nat → R
  a : R
  b : R
  aLog : R
  dtBias : R

structure Scales (R : Type) where
  queryScale : R
  keyScale : R
  decay : R
  beta : R

def keyHeadOf (valueHead : Nat) : Nat := valueHead / (kQ38GdnValueHeads / kQ38GdnKeyHeads)

def keyBase (keyHead : Nat) : Nat :=
  kQ38GdnKeyHeads * kQ38GdnHeadWidth + keyHead * kQ38GdnHeadWidth

def valueBase (valueHead : Nat) : Nat :=
  2 * kQ38GdnKeyHeads * kQ38GdnHeadWidth + valueHead * kQ38GdnHeadWidth

def decodeRow (inputs : Inputs Half) (valueHead : Nat) : Row R :=
  let keyHead := keyHeadOf valueHead
  { query := fun element =>
      functions.load (inputs.qkv (keyHead * kQ38GdnHeadWidth + element))
    key := fun element => functions.load (inputs.qkv (keyBase keyHead + element))
    value := fun element => functions.load (inputs.qkv (valueBase valueHead + element))
    a := functions.load (inputs.projectedA valueHead)
    b := functions.load (inputs.projectedB valueHead)
    aLog := functions.load (inputs.aLog valueHead)
    dtBias := functions.load (inputs.dtBias valueHead) }

def rawQuery (inputs : Inputs Half) (token keyHead element : Nat) : R :=
  functions.load (inputs.qkv (token * kQ38GdnQkvWidth + keyHead * kQ38GdnHeadWidth + element))

def rawKey (inputs : Inputs Half) (token keyHead element : Nat) : R :=
  functions.load (inputs.qkv (token * kQ38GdnQkvWidth + keyBase keyHead + element))

def prefillRow (inputs : Inputs Half) (token valueHead : Nat) : Row R :=
  { query := rawQuery functions inputs token (keyHeadOf valueHead)
    key := rawKey functions inputs token (keyHeadOf valueHead)
    value := fun element => functions.load
      (inputs.qkv (token * kQ38GdnQkvWidth + valueBase valueHead + element))
    a := functions.load (inputs.projectedA (token * kQ38GdnValueHeads + valueHead))
    b := functions.load (inputs.projectedB (token * kQ38GdnValueHeads + valueHead))
    aLog := functions.load (inputs.aLog valueHead)
    dtBias := functions.load (inputs.dtBias valueHead) }

def queryScale (queryNorm : R) : R :=
  functions.rsqrt (queryNorm + functions.epsilon) *
    functions.rsqrt ((kQ38GdnHeadWidth : Nat) : R)

def keyScale (keyNorm : R) : R := functions.rsqrt (keyNorm + functions.epsilon)

def decay (row : Row R) : R :=
  let shiftedA := row.a + row.dtBias
  let softplus :=
    if functions.above shiftedA then shiftedA else functions.log1p (functions.exp shiftedA)
  functions.exp (-functions.exp row.aLog * softplus)

def beta (row : Row R) : R := functions.div 1 (1 + functions.exp (-row.b))

def scales (row : Row R) (queryNorm keyNorm : R) : Scales R where
  queryScale := queryScale functions queryNorm
  keyScale := keyScale functions keyNorm
  decay := decay functions row
  beta := beta functions row

end Parameters

section Columns
variable (row : Row R) (scales : Scales R)

def stateIndex (valueHead column keyElement : Nat) : Nat :=
  valueHead * kQ38GdnHeadWidth * kQ38GdnHeadWidth + keyElement * kQ38GdnHeadWidth + column

def scaledKey (keyElement : Nat) : R := row.key keyElement * scales.keyScale

def scaledQuery (keyElement : Nat) : R := row.query keyElement * scales.queryScale

/-- One turn of the first loop over the keys. -/
def decayCell (place : Nat → Nat) (loop : (Nat → R) × R) (keyElement : Nat) : (Nat → R) × R :=
  let decayed := loop.1 (place keyElement) * scales.decay
  (Function.update loop.1 (place keyElement) decayed,
    loop.2 + decayed * scaledKey row scales keyElement)

/-- One turn of the second loop over the keys. -/
def updateCell (delta : R) (place : Nat → Nat) (loop : (Nat → R) × R) (keyElement : Nat) :
    (Nat → R) × R :=
  let updated := loop.1 (place keyElement) + scaledKey row scales keyElement * delta
  (Function.update loop.1 (place keyElement) updated,
    loop.2 + updated * scaledQuery row scales keyElement)

end Columns

section Serial
variable (row : Row R) (scales : Scales R) (outputBase valueHead : Nat)

/-- A thread of a block of 128, after the parameters are there. -/
def recurrentThread (memory : Memory Half R) (element : Nat) : Memory Half R :=
  let place := stateIndex valueHead element
  let keys := List.range kQ38GdnHeadWidth
  let decayed := keys.foldl (decayCell row scales place) (memory.state, 0)
  let delta := (row.value element - decayed.2) * scales.beta
  let updated := keys.foldl (updateCell row scales delta place) (decayed.1, 0)
  { state := updated.1
    output := Function.update memory.output
      (outputBase + valueHead * kQ38GdnHeadWidth + element) (functions.store updated.2) }

def blockScales : Scales R :=
  GdnKernels.scales functions row (blockSum128 fun element => row.query element * row.query element)
    (blockSum128 fun element => row.key element * row.key element)

end Serial

section Kernels
variable (device : Device R) (inputs : Inputs Half)

/-- `output` is where the output pointer points. -/
def gdnRecurrentDecodeKernel (output : Nat) (memory : Memory Half R) : Memory Half R :=
  device.scheduler.run [] (List.range kQ38GdnValueHeads) (fun memory valueHead =>
    let row := decodeRow functions inputs valueHead
    device.scheduler.run [valueHead] (List.range kQ38GdnHeadWidth)
      (recurrentThread functions row (blockScales functions row) output valueHead) memory) memory

def gdnRecurrentPrefillKernel (tokens : Nat) (memory : Memory Half R) : Memory Half R :=
  device.scheduler.run [] (List.range kQ38GdnValueHeads) (fun memory valueHead =>
    (List.range tokens).foldl (fun memory token =>
      let row := prefillRow functions inputs token valueHead
      device.scheduler.run [valueHead, token] (List.range kQ38GdnHeadWidth)
        (recurrentThread functions row (blockScales functions row) (token * kQ38GdnValueWidth)
          valueHead) memory) memory) memory

/-- The cells in global memory and the partial sums of a block of 1024 threads. -/
structure Tile (R : Type) where
  state : Nat → R
  partials : Nat → R

def tileColumn (partition lane : Nat) : Nat := partition * kGdnPartitionColumns + lane

/-- One of the two loops of a thread, over every 32nd key. -/
def sweepTile (valueHead partition : Nat)
    (cell : (Nat → Nat) → (Nat → R) × R → Nat → (Nat → R) × R) (thread : Nat) (tile : Tile R) :
    Tile R :=
  let lane := thread % 32
  let keyLane := thread / 32
  let swept := (strided keyLane 32 kQ38GdnHeadWidth).foldl
    (cell (stateIndex valueHead (tileColumn partition lane))) (tile.state, 0)
  { state := swept.1
    partials := Function.update tile.partials (keyLane * kGdnPartitionColumns + lane) swept.2 }

/-- What the first warp adds up for a column. -/
def columnTotal (partials : Nat → R) (lane : Nat) : R :=
  (List.range 32).foldl (fun total keyLane =>
    total + partials (keyLane * kGdnPartitionColumns + lane)) 0

def columnDeltas (phase : List Nat) (row : Row R) (beta : R) (partition : Nat)
    (partials deltas : Nat → R) : Nat → R :=
  device.scheduler.run phase (List.range 32) (fun deltas lane =>
    Function.update deltas lane
      ((row.value (tileColumn partition lane) - columnTotal partials lane) * beta)) deltas

def storeColumns (phase : List Nat) (token valueHead partition : Nat) (partials : Nat → R)
    (output : Nat → Half) : Nat → Half :=
  device.scheduler.run phase (List.range 32) (fun output lane =>
    Function.update output
      (token * kQ38GdnValueWidth + valueHead * kQ38GdnHeadWidth + tileColumn partition lane)
      (functions.store (columnTotal partials lane))) output

/-- The squares that the first 128 of 1024 threads bring. -/
def partitionedScales (row : Row R) : Scales R :=
  let square := fun (raw : Nat → R) thread =>
    if thread < kQ38GdnHeadWidth then raw thread * raw thread else 0
  scales functions row (fourWarps (square row.query)) (fourWarps (square row.key))

def partitionedToken (token valueHead partition : Nat) (memory : Memory Half R) :
    Memory Half R :=
  let phase := [valueHead, partition, token]
  let stale := device.stale phase
  let row := prefillRow functions inputs token valueHead
  let scales := partitionedScales functions row
  let decayed := device.scheduler.run (phase ++ [0]) (List.range 1024) (fun tile thread =>
    sweepTile valueHead partition (decayCell row scales) thread tile)
    ⟨memory.state, stale.partials⟩
  let deltas := columnDeltas device (phase ++ [1]) row scales.beta partition decayed.partials
    stale.deltas
  let updated := device.scheduler.run (phase ++ [2]) (List.range 1024) (fun tile thread =>
    sweepTile valueHead partition (updateCell row scales (deltas (thread % 32))) thread tile)
    decayed
  { state := updated.state
    output := storeColumns functions device (phase ++ [3]) token valueHead partition
      updated.partials memory.output }

def gdnRecurrentPrefillPartitionedKernel (tokens : Nat) (memory : Memory Half R) :
    Memory Half R :=
  device.scheduler.run []
    (List.range kQ38GdnValueHeads ×ˢ List.range kGdnPrefillPartitions) (fun memory block =>
      (List.range tokens).foldl (fun memory token =>
        partitionedToken functions device inputs token block.1 block.2 memory) memory) memory

/-- What the kernel with prepared parameters finds. -/
structure Prepared (R : Type) where
  queryScales : Nat → R
  keyScales : Nat → R
  decays : Nat → R
  betas : Nat → R

def prepareBlock (prepared : Prepared R) (block : Nat × Nat) : Prepared R :=
  let (keyHead, token) := block
  let local_ := kQ38GdnValueHeads / kQ38GdnKeyHeads
  let heads := (List.range local_).map (keyHead * local_ + ·)
  let row := prefillRow functions inputs token
  let norm := fun (raw : Nat → R) => fourWarps fun element => raw element * raw element
  let keyScaleIndex := token * kQ38GdnKeyHeads + keyHead
  { queryScales := Function.update prepared.queryScales keyScaleIndex
      (queryScale functions (norm (rawQuery functions inputs token keyHead)))
    keyScales := Function.update prepared.keyScales keyScaleIndex
      (keyScale functions (norm (rawKey functions inputs token keyHead)))
    decays := heads.foldl (fun decays valueHead =>
      Function.update decays (token * kQ38GdnValueHeads + valueHead)
        (decay functions (row valueHead))) prepared.decays
    betas := heads.foldl (fun betas valueHead =>
      Function.update betas (token * kQ38GdnValueHeads + valueHead)
        (beta functions (row valueHead))) prepared.betas }

def gdnPreparePrefillParametersKernel (tokens : Nat) (prepared : Prepared R) : Prepared R :=
  device.scheduler.run [] (List.range kQ38GdnKeyHeads ×ˢ List.range tokens)
    (prepareBlock functions inputs) prepared

/-- The output, and the registers of every thread with four cells each. -/
structure Resident (Half R : Type) where
  cells : Nat → Nat → R
  output : Nat → Half

def keyElementOf (thread item : Nat) : Nat := thread / 32 + item * 32

def storePartials (phase : List Nat) (value : Nat → Nat → R) (partials : Nat → R) : Nat → R :=
  device.scheduler.run phase (List.range 1024) (fun partials thread =>
    Function.update partials (thread / 32 * kGdnPartitionColumns + thread % 32)
      ((List.range 4).foldl (fun total item => total + value thread item) 0)) partials

def precomputedToken (prepared : Prepared R) (token valueHead partition : Nat)
    (resident : Resident Half R) : Resident Half R :=
  let phase := [valueHead, partition, token]
  let stale := device.stale phase
  let row := prefillRow functions inputs token valueHead
  let keyScaleIndex := token * kQ38GdnKeyHeads + keyHeadOf valueHead
  let valueIndex := token * kQ38GdnValueHeads + valueHead
  let queryScale := prepared.queryScales keyScaleIndex
  let keyScale := prepared.keyScales keyScaleIndex
  let decay := prepared.decays valueIndex
  let beta := prepared.betas valueIndex
  let decayed := fun thread item => resident.cells thread item * decay
  let normalizedKeys := fun thread item => row.key (keyElementOf thread item) * keyScale
  let memories := storePartials device (phase ++ [0])
    (fun thread item => decayed thread item * normalizedKeys thread item) stale.partials
  let deltas := columnDeltas device (phase ++ [1]) row beta partition memories stale.deltas
  let updated := fun thread item =>
    decayed thread item + normalizedKeys thread item * deltas (thread % 32)
  let cores := storePartials device (phase ++ [2])
    (fun thread item =>
      updated thread item * (row.query (keyElementOf thread item) * queryScale)) memories
  { cells := updated
    output := storeColumns functions device (phase ++ [3]) token valueHead partition cores
      resident.output }

def residentIndex (valueHead partition thread item : Nat) : Nat :=
  stateIndex valueHead (tileColumn partition (thread % 32)) (keyElementOf thread item)

def gdnRecurrentPrefillPrecomputedKernel (prepared : Prepared R) (tokens : Nat)
    (memory : Memory Half R) : Memory Half R :=
  device.scheduler.run []
    (List.range kQ38GdnValueHeads ×ˢ List.range kGdnPrefillPartitions) (fun memory block =>
      let (valueHead, partition) := block
      let loaded : Resident Half R :=
        ⟨fun thread item => memory.state (residentIndex valueHead partition thread item),
          memory.output⟩
      let resident := (List.range tokens).foldl (fun resident token =>
        precomputedToken functions device inputs prepared token valueHead partition resident) loaded
      { state := device.scheduler.run [valueHead, partition] (List.range 1024)
          (fun state thread => (List.range 4).foldl (fun state item =>
            Function.update state (residentIndex valueHead partition thread item)
              (resident.cells thread item)) state) memory.state
        output := resident.output }) memory

end Kernels

end Q38.GdnKernels
