import Q38Runtime.LayerSweeps
import Q38Runtime.PleHashCalls
import Q38Runtime.QsaSelection
import Q38Runtime.SpeculativeRows
import Q38Runtime.StateBanks

/-!
`CudaStageBackend` of `cuda_backend.cu`: the walks of rows through the layers of a
stage, the drafts of its MTP layer, and the state that a transaction keeps or gives
up. What the kernels compute is left open, with one kernel for a single row and one
for a prefill slab. A device call or a poll may fail wherever the source makes one.
-/
namespace Q38.CudaBackend
open Contracts Imperative PleHash PleReadAhead QsaSelection SpeculativeRows StateBanks
  PooledRows StridedLoops

def kLayers : Nat := 48
def kCut : Nat := 25
def kVocabulary : Nat := 248320
def kQ38HyperWidth : Nat := 10240

/-- What device memory holds. -/
structure Values where
  Hyper : Type
  Gdn : Type
  Ple : Type
  Row : Type
  Pooled : Type
  PleRows : Type
  Logits : Type

/-- The kernels. A layer is named by its number in the model, a row of the attention
holds a key, a value and a raw index key, and a block of rows its pooled index key. -/
structure Kernels (v : Values) where
  embed : Token → v.Hyper
  fetch : List Row → v.PleRows
  ple : Nat → v.PleRows → v.Hyper → v.Ple → v.Ple × v.Hyper
  gdn : Nat → v.Hyper → v.Gdn → v.Gdn × v.Hyper
  row : Nat → Nat → v.Hyper → v.Row
  pool : Nat → Nat → List v.Row → v.Pooled
  attend : Nat → Nat → v.Hyper → List v.Row → List v.Pooled → v.Hyper
  moe : Nat → v.Hyper → v.Hyper
  head : v.Hyper → v.Logits
  mtpHead : v.Hyper → v.Logits
  argmax : v.Logits → Token
  fuse : v.Hyper → Token → v.Hyper
  checksum : List v.Hyper → UInt64
  plePrefill : Nat → List v.PleRows → List v.Hyper → v.Ple → v.Ple × List v.Hyper
  gdnPrefill : Nat → List v.Hyper → v.Gdn → v.Gdn × List v.Hyper
  attendPrefill : Nat → Nat → List v.Hyper → (Nat → v.Row) → (Nat → v.Pooled) → List v.Hyper
  moePrefill : Nat → List v.Hyper → List v.Hyper
  fusePrefill : List v.Hyper → List Token → List v.Hyper

structure LayerWeights where
  global : Nat
  stateLocal : Nat
  qsa : Bool
  hasPle : Bool
  deriving DecidableEq

def bindLayer (layer stateLocal : Nat) : LayerWeights where
  global := layer
  stateLocal := stateLocal
  qsa := layer % 4 = 3
  hasPle := layer = 1

/-- The loop of the constructor, with its two counters. -/
def bindLayers : List Nat → Nat → Nat → List LayerWeights
  | [], _, _ => []
  | layer :: rest, gdnLocal, qsaLocal =>
      if layer % 4 = 3 then bindLayer layer qsaLocal :: bindLayers rest gdnLocal (qsaLocal + 1)
      else bindLayer layer gdnLocal :: bindLayers rest (gdnLocal + 1) qsaLocal

def stageLayers (stage : Stage) : List LayerWeights :=
  if stage = .stage0 then bindLayers (List.range kCut) 0 0
  else bindLayers (List.range' kCut (kLayers - kCut)) 0 0

def mtpLayer : LayerWeights where
  global := kLayers
  stateLocal := 0
  qsa := true
  hasPle := false

structure CudaOptions where
  stage : Stage
  maxTransactionTokens : Nat
  contextCapacity : Nat
  enableMtp : Bool
  hash : PleHashConfig

/-- The MTP layer is bound on stage 1 only. -/
def CudaOptions.mtp (options : CudaOptions) : Bool :=
  options.enableMtp && options.stage ≠ .stage0

section Memory

structure Workspace (v : Values) where
  tokens : Nat → Token
  predictions : Nat → Token
  hostPredictions : Nat → Token
  boundary : Nat → v.Hyper
  finalHc : Nat → v.Hyper
  pleRows : Nat → v.PleRows
  logits : v.Logits
  mtpPendingHc : v.Hyper
  mtpCandidateHc : v.Hyper

/-- Stage 0 has the PLE bank, stage 1 the MTP bank when MTP is on. -/
structure Memory (v : Values) where
  workspace : Workspace v
  gdnState : StateBank (Nat → v.Gdn)
  pleState : StateBank v.Ple
  qsaState : QsaBank v.Row v.Pooled
  mtpQsaState : QsaBank v.Row v.Pooled

variable {v : Values} {α : Type}

abbrev MemoryCall (v : Values) (α : Type) := DeviceCall (Memory v) α

def onWorkspace (update : Workspace v → Workspace v) : MemoryCall v Unit :=
  change fun memory => { memory with workspace := update memory.workspace }

def onGdn (call : DeviceCall (StateBank (Nat → v.Gdn)) α) : MemoryCall v α :=
  onContents Memory.gdnState (fun bank memory => { memory with gdnState := bank }) call

def onPle (call : DeviceCall (StateBank v.Ple) α) : MemoryCall v α :=
  onContents Memory.pleState (fun bank memory => { memory with pleState := bank }) call

def onQsa (call : DeviceCall (QsaBank v.Row v.Pooled) α) : MemoryCall v α :=
  onContents Memory.qsaState (fun bank memory => { memory with qsaState := bank }) call

def onMtpQsa (call : DeviceCall (QsaBank v.Row v.Pooled) α) : MemoryCall v α :=
  onContents Memory.mtpQsaState (fun bank memory => { memory with mtpQsaState := bank }) call

end Memory

section Rows
variable {v : Values} (kernels : Kernels v) (plan : Nat → Option Thrown)

/-- The rows that the reader hands over, by their place in the transaction, go into the
workspace; what it hands over are the rows of the tokens that were hashed. -/
def ensurePleReady (reads : Nat → List Row) (transactionOffset workspaceOffset tokens : Nat) :
    MemoryCall v Unit := do
  mayThrow plan
  onWorkspace fun workspace =>
    { workspace with
      pleRows := put workspaceOffset
        ((List.range tokens).map fun token => kernels.fetch (reads (transactionOffset + token)))
        workspace.pleRows }

def pleInactive : Thrown := .logicError "PLE state is not active"
def gdnInactive : Thrown := .logicError "invalid GDN working state request"
def qsaInactive : Thrown := .logicError "invalid QSA working state request"

def runPle (layer : LayerWeights) (current : v.Hyper) (tokenIndex : Nat) :
    MemoryCall v v.Hyper := do
  let memory ← look id
  Proc.ensure (memory.pleState.active = true) pleInactive
  let made := kernels.ple layer.global (memory.workspace.pleRows tokenIndex) current
    memory.pleState.working
  change fun memory => { memory with pleState := memory.pleState.setWorking made.1 }
  pure made.2

def runPlePrefill (layer : LayerWeights) (current : List v.Hyper) (tokenOffset : Nat) :
    MemoryCall v (List v.Hyper) := do
  let memory ← look id
  Proc.ensure (memory.pleState.active = true) pleInactive
  let made := kernels.plePrefill layer.global
    (slice tokenOffset current.length memory.workspace.pleRows) current memory.pleState.working
  change fun memory => { memory with pleState := memory.pleState.setWorking made.1 }
  pure made.2

def runGdn (layer : LayerWeights) (current : v.Hyper) : MemoryCall v v.Hyper := do
  let memory ← look id
  Proc.ensure (memory.gdnState.active = true) gdnInactive
  let made := kernels.gdn layer.global current (memory.gdnState.working layer.stateLocal)
  change fun memory =>
    { memory with
      gdnState := memory.gdnState.setWorking
        (Function.update memory.gdnState.working layer.stateLocal made.1) }
  pure made.2

def runGdnPrefill (layer : LayerWeights) (current : List v.Hyper) :
    MemoryCall v (List v.Hyper) := do
  let memory ← look id
  Proc.ensure (memory.gdnState.active = true) gdnInactive
  let made := kernels.gdnPrefill layer.global current (memory.gdnState.working layer.stateLocal)
  change fun memory =>
    { memory with
      gdnState := memory.gdnState.setWorking
        (Function.update memory.gdnState.working layer.stateLocal made.1) }
  pure made.2

/-- New rows of a layer, and the keys of the blocks that end among them. -/
def storeRows (layer : LayerWeights) (first : Nat) (new : List v.Row)
    (bank : QsaBank v.Row v.Pooled) : QsaBank v.Row v.Pooled :=
  { bank with
    cells := Function.update bank.cells layer.stateLocal
      (write kQ38QsaBlockTokens (kernels.pool layer.global) first new
        (bank.cells layer.stateLocal)) }

/-- `run_qsa`; `prepare_index_decode` pools a block when the position is its last one. -/
def runQsa (layer : LayerWeights) (position : Nat) (current : v.Hyper) :
    DeviceCall (QsaBank v.Row v.Pooled) v.Hyper := do
  let bank ← look id
  Proc.ensure (bank.active = true) qsaInactive
  Proc.ensure (position < kQ38ContextLimit)
    (.invalidArgument "invalid QSA main preparation buffers")
  change (storeRows kernels layer position [kernels.row layer.global position current])
  let cells ← look fun bank => bank.cells layer.stateLocal
  pure (kernels.attend layer.global position current (slice 0 (position + 1) cells.rows)
    (slice 0 ((position + 1) / kQ38QsaBlockTokens) cells.pooled))

def runQsaPrefill (layer : LayerWeights) (firstPosition : Nat) (current : List v.Hyper) :
    DeviceCall (QsaBank v.Row v.Pooled) (List v.Hyper) := do
  let bank ← look id
  Proc.ensure (bank.active = true) qsaInactive
  Proc.ensure (current ≠ [] ∧ firstPosition < kQ38ContextLimit ∧
    current.length ≤ kQ38ContextLimit - firstPosition)
    (.invalidArgument "invalid QSA prefill preparation buffers")
  change (storeRows kernels layer firstPosition
    (current.mapIdx fun token hyper => kernels.row layer.global (firstPosition + token) hyper))
  let cells ← look fun bank => bank.cells layer.stateLocal
  pure (kernels.attendPrefill layer.global firstPosition current cells.rows cells.pooled)

/-- Where a row or a tile of a transaction stands. -/
structure Place where
  transactionOffset : Nat
  workspaceOffset : Nat
  position : Nat

variable (reads : Nat → List Row)

def enterPle (place : Place) (layer : LayerWeights) (current : v.Hyper) :
    MemoryCall v v.Hyper :=
  if layer.hasPle then do
    ensurePleReady kernels plan reads place.transactionOffset place.workspaceOffset 1
    runPle kernels layer current place.workspaceOffset
  else pure current

def runMixer (place : Place) (layer : LayerWeights) (current : v.Hyper) : MemoryCall v v.Hyper :=
  if layer.qsa then onQsa (runQsa kernels layer place.position current)
  else runGdn kernels layer current

/-- The body of the loop over the layers in `run_one`. -/
def runLayer (place : Place) (layer : LayerWeights) (current : v.Hyper) :
    MemoryCall v v.Hyper := do
  mayThrow plan
  let current ← enterPle kernels plan reads place layer current
  let current ← runMixer kernels place layer current
  mayThrow plan
  pure (kernels.moe layer.global current)

def runLayers (place : Place) : List LayerWeights → v.Hyper → MemoryCall v v.Hyper
  | [], current => pure current
  | layer :: rest, current => do
      let current ← runLayer kernels plan reads place layer current
      runLayers place rest current

def enterPlePrefill (place : Place) (layer : LayerWeights) (current : List v.Hyper) :
    MemoryCall v (List v.Hyper) :=
  if layer.hasPle then do
    ensurePleReady kernels plan reads place.transactionOffset place.workspaceOffset current.length
    runPlePrefill kernels layer current place.workspaceOffset
  else pure current

def runMixerPrefill (place : Place) (layer : LayerWeights) (current : List v.Hyper) :
    MemoryCall v (List v.Hyper) :=
  if layer.qsa then onQsa (runQsaPrefill kernels layer place.position current)
  else runGdnPrefill kernels layer current

/-- The body of the loop over the layers in `run_prefill`. -/
def runTileLayer (place : Place) (layer : LayerWeights) (current : List v.Hyper) :
    MemoryCall v (List v.Hyper) := do
  mayThrow plan
  let current ← enterPlePrefill kernels plan reads place layer current
  let current ← runMixerPrefill kernels place layer current
  mayThrow plan
  pure (kernels.moePrefill layer.global current)

def runTileLayers (place : Place) : List LayerWeights → List v.Hyper →
    MemoryCall v (List v.Hyper)
  | [], current => pure current
  | layer :: rest, current => do
      let current ← runTileLayer kernels plan reads place layer current
      runTileLayers place rest current

variable (options : CudaOptions)

/-- What enters the first layer: an embedding on stage 0, a boundary row on stage 1. -/
def inputRow (workspace : Workspace v) (index : Nat) : v.Hyper :=
  if options.stage = .stage0 then kernels.embed (workspace.tokens index)
  else workspace.boundary index

/-- The results of one row. `resultIndex` counts from the start of the transaction. -/
def rowResults (pleIndex resultIndex : Nat) (writeResult : Bool) (current : v.Hyper)
    (workspace : Workspace v) : Workspace v :=
  { workspace with
    boundary := if options.stage = .stage0 ∧ writeResult = true then
        put pleIndex [current] workspace.boundary
      else workspace.boundary
    finalHc := if options.mtp = true then put resultIndex [current] workspace.finalHc
      else workspace.finalHc
    logits := if options.stage ≠ .stage0 ∧ writeResult = true then kernels.head current
      else workspace.logits
    predictions := if options.stage ≠ .stage0 ∧ writeResult = true then
        put resultIndex [kernels.argmax (kernels.head current)] workspace.predictions
      else workspace.predictions }

/-- `dataIndex` and `pleIndex` are rows of the workspace. -/
def runOne (dataIndex pleIndex resultIndex position : Nat) (writeResult : Bool) :
    MemoryCall v Unit := do
  mayThrow plan
  let input ← look fun memory => inputRow kernels options memory.workspace dataIndex
  let current ← runLayers kernels plan reads ⟨resultIndex, pleIndex, position⟩
    (stageLayers options.stage) input
  mayThrow plan
  onWorkspace (rowResults kernels options pleIndex resultIndex writeResult current)

/-- The results of one tile stand at its rows in the chunk, not in the transaction; only the
last row of the chunk is predicted from. -/
def tileResults (count first tokens : Nat) (writeResult : Bool) (current : List v.Hyper)
    (workspace : Workspace v) : Workspace v :=
  let predicted := options.stage ≠ .stage0 ∧ writeResult = true ∧ first + tokens = count
  { workspace with
    boundary := if options.stage = .stage0 ∧ writeResult = true then
        put first current workspace.boundary
      else workspace.boundary
    finalHc := if options.mtp = true then put first current workspace.finalHc
      else workspace.finalHc
    logits := if predicted then (current.getLast?.map kernels.head).getD workspace.logits
      else workspace.logits
    predictions := if predicted then
        put (count - 1) (current.getLast?.map fun last => kernels.argmax (kernels.head last)).toList
          workspace.predictions
      else workspace.predictions }

/-- One turn of the loop of `run_prefill`. -/
def runTile (count chunkOffset base : Nat) (writeResult : Bool) (first : Nat) :
    MemoryCall v Unit := do
  mayThrow plan
  let tokens := min kPrefillTile (count - first)
  let input ← look fun memory =>
    (List.range tokens).map fun token => inputRow kernels options memory.workspace (first + token)
  let current ← runTileLayers kernels plan reads
    ⟨chunkOffset + first, first, base + chunkOffset + first⟩ (stageLayers options.stage) input
  mayThrow plan
  onWorkspace (tileResults kernels options count first tokens writeResult current)
  mayThrow plan

/-- A loop whose body may throw. -/
def forEach {σ ι : Type} (body : ι → DeviceCall σ Unit) : List ι → DeviceCall σ Unit
  | [] => pure ()
  | item :: rest => do
      body item
      forEach body rest

/-- An append of more than one token goes in tiles, all others go row by row; rows of a
speculation have their inputs at their own places. Decode graphs issue the calls of
`run_one` and are left out here. -/
def evaluateRows (kind : TxnKind) (base count chunkOffset : Nat) (writeResult : Bool) :
    MemoryCall v Unit :=
  if kind = .appendKnown ∧ 1 < count then
    forEach (runTile kernels plan reads options count chunkOffset base writeResult)
      (strided 0 kPrefillTile count)
  else
    forEach (fun token =>
        runOne kernels plan reads options
          (if kind = .speculative then chunkOffset + token else token) token
          (chunkOffset + token) (base + chunkOffset + token) writeResult)
      (List.range count)

def runTokens (kind : TxnKind) (epoch base count chunkOffset : Nat) (writeResult : Bool) :
    MemoryCall v Unit := do
  evaluateRows kernels plan reads options kind base count chunkOffset writeResult
  onQsa (QsaBank.markEvaluated epoch (chunkOffset + count))

/-! The MTP layer. It runs one token behind the target: a row is made of the hidden state
of one position and the token of the next. -/

def runMtpStep (targetHc : v.Hyper) (token : Token) (position : Nat) :
    MemoryCall v v.Hyper := do
  mayThrow plan
  let current ← onMtpQsa (runQsa kernels mtpLayer position (kernels.fuse targetHc token))
  mayThrow plan
  pure (kernels.moe mtpLayer.global current)

/-- One draft: from the hidden state and the token before it to a prediction, which is the
next token, and to the hidden state behind that. -/
def draftStep (firstPosition epoch index : Nat) : MemoryCall v Unit := do
  mayThrow plan
  let workspace ← look Memory.workspace
  let targetHc := if index = 0 then workspace.mtpPendingHc else workspace.mtpCandidateHc
  let token := if index = 0 then workspace.tokens 0 else workspace.predictions (index - 1)
  let current ← runMtpStep kernels plan targetHc token (firstPosition + index)
  onWorkspace fun workspace =>
    { workspace with
      logits := kernels.mtpHead current
      predictions := put index [kernels.argmax (kernels.mtpHead current)] workspace.predictions
      mtpCandidateHc := current }
  onMtpQsa (QsaBank.markEvaluated epoch (index + 1))

/-- The hidden states and the tokens of one tile of `run_mtp_prefill`. -/
def mtpPairs (workspace : Workspace v) (hadPending : Bool) (first tokens : Nat) :
    List v.Hyper × List Token :=
  (if hadPending = true ∧ first = 0 then
      workspace.mtpCandidateHc :: slice 0 (tokens - 1) workspace.finalHc
    else slice (if hadPending then first - 1 else first) tokens workspace.finalHc,
    slice (first + if hadPending then 0 else 1) tokens workspace.tokens)

def runMtpTile (firstPosition evaluated : Nat) (hadPending : Bool) (first : Nat) :
    MemoryCall v Unit := do
  mayThrow plan
  let workspace ← look Memory.workspace
  let pairs := mtpPairs workspace hadPending first (min kPrefillTile (evaluated - first))
  let _ ← onMtpQsa (runQsaPrefill kernels mtpLayer (firstPosition + first)
    (kernels.fusePrefill pairs.1 pairs.2))
  mayThrow plan

def runMtpPrefill (firstPosition evaluated : Nat) (hadPending : Bool) : MemoryCall v Unit := do
  Proc.ensure (evaluated ≠ 0) (.logicError "invalid MTP prefill extent")
  forEach (runMtpTile kernels plan firstPosition evaluated hadPending)
    (strided 0 kPrefillTile evaluated)

end Rows

end Q38.CudaBackend
