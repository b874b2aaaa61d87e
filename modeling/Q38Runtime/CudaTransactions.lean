import Q38Runtime.CudaBackend

/-! The calls of `CudaStageBackend` on a transaction, from its first chunk to its commit or
rollback, with the drafts of the MTP layer. The reader thread of the rows, the rings, the
metrics and the decode graphs are left out. -/
namespace Q38.CudaTransactions
open Contracts Imperative PleHash PleReadAhead QsaSelection SpeculativeRows StateBanks
  PooledRows CudaBackend

structure CudaStageBackend (v : Values) where
  memory : Memory v
  committedPleHash : PleHashState
  candidatePleHashes : List PleHashState := []
  pleReadRows : Nat → List Row := fun _ => []
  provisionalTokens : List Token := []
  committedFrontier : Nat := 0
  committedEpoch : Nat := 0
  provisionalEpoch : Nat := 0
  provisionalBase : Nat := 0
  provisionalExpected : Nat := 0
  provisionalProcessed : Nat := 0
  speculativeCheckpointCount : Nat := 0
  provisionalKind : TxnKind := .invalid
  statesActive : Bool := false
  mtpPendingValid : Bool := false
  mtpCandidatePendingValid : Bool := false
  mtpTransactionActive : Bool := false
  mtpTransactionEpoch : Nat := 0
  mtpTransactionRows : Nat := 0
  mtpReconciledRows : Nat := 0

/-- `StageInput`; the payload of the boundary is an array of rows. -/
structure CudaInput (v : Values) where
  txn : SessionTxnV1
  tokenIds : List Token
  frame : StageBoundaryFrameV1 := {}
  payload : Nat → v.Hyper
  chunkOffset : Nat
  finalChunk : Bool
  needLogits : Bool := false

structure CudaOutput (v : Values) where
  frame : StageBoundaryFrameV1 := {}
  payload : List v.Hyper := []
  stateCommitCount : Nat := 0
  nextToken : Token := -1
  stateDigest : UInt64 := 0
  logits : Option v.Logits := none

section Calls
variable {v : Values} {α : Type} (kernels : Kernels v) (options : CudaOptions)
  (plan : Nat → Option Thrown)

abbrev Call (v : Values) (α : Type) := DeviceCall (CudaStageBackend v) α

def onMemory (call : MemoryCall v α) : Call v α :=
  onContents CudaStageBackend.memory (fun memory stage => { stage with memory := memory }) call

/-- The rows of each token of a chunk. -/
def rowsByToken (tokens : Nat) (rows : List Row) : List (List Row) :=
  (List.range tokens).map fun token =>
    (rows.drop (token * kQ38PleRowsPerToken)).take kQ38PleRowsPerToken

def startPleRead (tokenIds : List Token) (tokenOffset : Nat) : Call v Unit := do
  let stage ← look id
  let rows ← Proc.within (fun device => device.contents.candidatePleHashes)
    (fun hashes device =>
      { device with contents := { device.contents with candidatePleHashes := hashes } })
    (hashChunk options.hash stage.committedPleHash tokenIds)
  mayThrow plan
  change fun stage =>
    { stage with
      pleReadRows := put tokenOffset (rowsByToken tokenIds.length rows) stage.pleReadRows }

/-- What `draft_retained` left for this transaction. -/
def retainedDraft (stage : CudaStageBackend v) (txn : SessionTxnV1) : Bool :=
  options.mtp && txn.kind = .speculative && stage.mtpTransactionActive &&
    stage.mtpTransactionEpoch = txn.epoch && stage.mtpTransactionRows ≠ 0 &&
    stage.mtpTransactionRows + 1 = txn.evaluatedCount

def enterTransaction (txn : SessionTxnV1) (stage : CudaStageBackend v) : CudaStageBackend v :=
  { stage with
    provisionalEpoch := txn.epoch
    provisionalBase := txn.baseTarget
    provisionalExpected := txn.evaluatedCount
    provisionalProcessed := 0
    speculativeCheckpointCount := 0
    provisionalKind := txn.kind
    provisionalTokens := []
    candidatePleHashes := [] }

def dropDraft (stage : CudaStageBackend v) : CudaStageBackend v :=
  { stage with
    mtpTransactionActive := false
    mtpTransactionEpoch := 0
    mtpTransactionRows := 0
    mtpReconciledRows := 0 }

def beginBanks (epoch : Nat) : Call v Unit := do
  onMemory (onGdn (StateBank.begin plan "GDN" epoch))
  onMemory (onQsa (QsaBank.begin epoch))
  Proc.whenever (options.stage = .stage0) (onMemory (onPle (StateBank.begin plan "PLE" epoch)))

/-- An append goes on from the hidden state before it. -/
def seedAppend (kind : TxnKind) : Call v Unit :=
  Proc.whenever (options.mtp = true ∧ kind = .appendKnown) (do
    change fun stage => { stage with mtpCandidatePendingValid := stage.mtpPendingValid }
    let stage ← look id
    Proc.whenever (stage.mtpPendingValid = true) (do
      mayThrow plan
      onMemory (onWorkspace fun workspace =>
        { workspace with mtpCandidateHc := workspace.mtpPendingHc })))

/-- The first chunk of a transaction. The states are active when all banks have begun. -/
def beginTransaction (input : CudaInput v) : Call v Unit := do
  let stage ← look id
  Proc.ensure (stage.committedEpoch < input.txn.epoch ∧ input.chunkOffset = 0 ∧
    input.txn.baseTarget = stage.committedFrontier ∧
    stage.memory.qsaState.committed = input.txn.baseTarget)
    (.runtimeError "CUDA backend frontier/epoch mismatch")
  let retained := retainedDraft options stage input.txn
  change (enterTransaction input.txn)
  Proc.ensure (stage.mtpTransactionActive = true → retained = true)
    (.runtimeError "retained MTP draft does not match target transaction")
  Proc.whenever (retained = false) (change dropDraft)
  change ({ · with mtpCandidatePendingValid := false })
  beginBanks options plan input.txn.epoch
  change ({ · with statesActive := true })
  seedAppend options plan input.txn.kind

/-- The boundary rows of a chunk; a speculative transaction keeps those of its earlier rows. -/
def receiveBoundary (input : CudaInput v) : Call v Unit := do
  let count := input.tokenIds.length
  Proc.ensure (validateBoundary input.frame count = none ∧ input.frame.epoch = input.txn.epoch ∧
    input.frame.tokenStart = input.txn.baseTarget + input.chunkOffset ∧
    input.frame.tokenCount = count ∧ input.frame.hiddenWidth = kQ38HyperWidth)
    (.runtimeError
      ("CUDA stage1 boundary invalid: " ++ (validateBoundary input.frame count).getD ""))
  mayThrow plan
  onMemory (onWorkspace fun workspace =>
    { workspace with
      boundary := put (if input.txn.kind = .speculative then input.chunkOffset else 0)
        (slice 0 count input.payload) workspace.boundary })

/-- After each target chunk of an append. The rows and the last hidden state stay
provisional until the commit. -/
def advanceMtpAppend (epoch chunkOffset count : Nat) : Call v Unit := do
  Proc.ensure (count ≠ 0) (.logicError "invalid chunked MTP append")
  let stage ← look id
  let priorPairs := stage.memory.mtpQsaState.committed
  Proc.ensure (priorPairs + stage.mtpPendingValid.toNat = stage.provisionalBase ∧
    priorPairs + stage.mtpTransactionRows + stage.mtpCandidatePendingValid.toNat =
      stage.provisionalBase + chunkOffset)
    (.runtimeError "chunked MTP frontier differs")
  let evaluated := count - if stage.mtpCandidatePendingValid then 0 else 1
  Proc.whenever (evaluated ≠ 0) (do
    Proc.whenever (stage.mtpTransactionActive = false) (do
      onMemory (onMtpQsa (QsaBank.begin epoch))
      change ({ · with mtpTransactionActive := true, mtpTransactionEpoch := epoch }))
    onMemory (runMtpPrefill kernels plan (priorPairs + stage.mtpTransactionRows) evaluated
      stage.mtpCandidatePendingValid)
    change fun stage => { stage with mtpTransactionRows := stage.mtpTransactionRows + evaluated }
    onMemory (onMtpQsa (QsaBank.markEvaluated epoch (stage.mtpTransactionRows + evaluated))))
  mayThrow plan
  onMemory (onWorkspace fun workspace =>
    { workspace with mtpCandidateHc := workspace.finalHc (count - 1) })
  change ({ · with mtpCandidatePendingValid := true })

/-- How many rows agree with the prediction before them: `left` are still to be compared. -/
def acceptedRows (tokens : List Token) (predictions : Nat → Token) : Nat → Nat → Nat
  | 0, accepted => accepted
  | left + 1, accepted =>
      if tokens[accepted]? = some (predictions (accepted - 1)) then
        acceptedRows tokens predictions left (accepted + 1)
      else accepted

def digestOf (input : CudaInput v) : UInt64 :=
  UInt64.ofNat input.txn.epoch ^^^ UInt64.ofNat input.txn.baseTarget ^^^
    UInt64.ofNat input.chunkOffset ^^^ UInt64.ofNat input.tokenIds.length

/-- What stage 0 returns: the first rows of the workspace, in a slot of a ring. -/
def boundaryOutput (input : CudaInput v) : Call v (CudaOutput v) := do
  mayThrow plan
  let stage ← look id
  let count := input.tokenIds.length
  let rows := slice 0 count stage.memory.workspace.boundary
  pure
    { frame :=
        { sessionHash := input.txn.sessionHash
          epoch := input.txn.epoch
          tokenStart := input.txn.baseTarget + input.chunkOffset
          tokenCount := count
          hiddenDtype := .bfloat16
          producerStatus := .ready
          hiddenWidth := kQ38HyperWidth
          payloadBytes := count * kQ38HyperWidth * 2
          payloadChecksum := kernels.checksum rows }
      payload := rows
      stateCommitCount := stage.provisionalProcessed
      stateDigest := digestOf input }

/-- What stage 1 returns: a prediction, and after the last row of a speculation how many
rows were verified. -/
def predictionOutput (input : CudaInput v) : Call v (CudaOutput v) := do
  let count := input.tokenIds.length
  let predictionOffset := if input.txn.kind = .speculative then input.chunkOffset else 0
  mayThrow plan
  onMemory (onWorkspace fun workspace =>
    { workspace with
      hostPredictions := put predictionOffset (slice predictionOffset count workspace.predictions)
        workspace.hostPredictions })
  Proc.ensure (input.needLogits = true →
    input.finalChunk = true ∧ input.txn.kind ≠ .speculative)
    (.runtimeError "CUDA logits requested for an invalid execution lane")
  mayThrow plan
  let stage ← look id
  let output : CudaOutput v :=
    { stateDigest := digestOf input
      logits := if input.needLogits then some stage.memory.workspace.logits else none }
  let host := stage.memory.workspace.hostPredictions
  let processed := stage.provisionalProcessed
  if input.txn.kind = .speculative then
    if input.finalChunk = false then
      pure { output with stateCommitCount := processed, nextToken := host (processed - 1) }
    else
      let accepted := acceptedRows stage.provisionalTokens host (processed - 1) 1
      pure { output with stateCommitCount := accepted, nextToken := host (accepted - 1) }
  else pure { output with stateCommitCount := processed, nextToken := host (count - 1) }

def invalidChunkExtent : Thrown := .runtimeError "CUDA backend received invalid chunk extent"

/-- The checks on an input alone. -/
def acceptInput (input : CudaInput v) : Call v Unit := do
  Proc.ensure (input.txn.magic = kTxnMagic ∧ input.txn.version = kContractVersion ∧
    input.txn.status = .prepared ∧ input.tokenIds ≠ [] ∧
    input.tokenIds.length ≤ options.maxTransactionTokens)
    (.runtimeError "CUDA backend received invalid transaction")
  Proc.ensure (input.chunkOffset + input.tokenIds.length ≤ input.txn.evaluatedCount ∧
    (input.finalChunk = true ↔
      input.chunkOffset + input.tokenIds.length = input.txn.evaluatedCount) ∧
    input.txn.baseTarget + input.txn.evaluatedCount ≤ options.contextCapacity)
    invalidChunkExtent

/-- The transaction a chunk belongs to: a new one, or the one that is open. -/
def enterChunk (input : CudaInput v) : Call v Unit := do
  let stage ← look id
  if stage.provisionalEpoch = 0 then beginTransaction options plan input
  else
    Proc.ensure (input.txn.epoch = stage.provisionalEpoch ∧
      input.txn.baseTarget = stage.provisionalBase ∧
      input.txn.evaluatedCount = stage.provisionalExpected ∧
      input.txn.kind = stage.provisionalKind ∧
      input.chunkOffset = stage.provisionalProcessed ∧ stage.statesActive = true)
      (.runtimeError "CUDA backend chunk is not the next provisional range")

/-- What the rows of a chunk need besides their tokens. -/
def receiveChunk (input : CudaInput v) : Call v Unit :=
  if options.stage = .stage0 then startPleRead options plan input.tokenIds input.chunkOffset
  else receiveBoundary plan input

/-- The tokens of a chunk, on the host and in the workspace. -/
def storeTokens (input : CudaInput v) : Call v Unit := do
  change fun stage =>
    { stage with provisionalTokens := stage.provisionalTokens ++ input.tokenIds }
  mayThrow plan
  onMemory (onWorkspace fun workspace =>
    { workspace with
      tokens := put (if input.txn.kind = .speculative then input.chunkOffset else 0)
        input.tokenIds workspace.tokens })

/-- Everything before the rows of a chunk are evaluated. -/
def prepareChunk (input : CudaInput v) : Call v Unit := do
  mayThrow plan
  acceptInput options input
  enterChunk options plan input
  receiveChunk options plan input
  storeTokens plan input

def execute (input : CudaInput v) : Call v (CudaOutput v) := do
  prepareChunk options plan input
  let stage ← look id
  onMemory (runTokens kernels plan stage.pleReadRows options input.txn.kind input.txn.epoch
    input.txn.baseTarget input.tokenIds.length input.chunkOffset true)
  Proc.whenever (options.mtp = true ∧ input.txn.kind = .appendKnown)
    (advanceMtpAppend kernels plan input.txn.epoch input.chunkOffset input.tokenIds.length)
  change fun stage =>
    { stage with provisionalProcessed := stage.provisionalProcessed + input.tokenIds.length }
  if options.stage = .stage0 then boundaryOutput kernels plan input
  else predictionOutput plan input

def draftNotReady : Thrown := .runtimeError "MTP draft frontier is not ready"

/-- The epoch of a draft that nobody retains. -/
def kEphemeralDraftEpoch : Nat := maxUInt64

/-- A draft is kept for the transaction it is made for, or given up at once. -/
def settleDraft (epoch maxDraft retainedEpoch : Nat) : Call v Unit :=
  if retainedEpoch ≠ 0 then
    change ({ · with
      mtpTransactionActive := true
      mtpTransactionEpoch := retainedEpoch
      mtpTransactionRows := maxDraft
      mtpReconciledRows := 1 })
  else onMemory (onMtpQsa (QsaBank.rollback epoch))

def runMtpDraft (pendingToken : Token) (position maxDraft retainedEpoch : Nat) :
    Call v (List Token) := do
  mayThrow plan
  Proc.ensure (options.stage ≠ .stage0) (.runtimeError "stage0 cannot draft tokens")
  Proc.ensure (options.mtp = true) (.logicError "MTP is disabled for this executor")
  let stage ← look id
  let bank := stage.memory.mtpQsaState
  Proc.ensure (maxDraft ≠ 0 ∧ maxDraft ≤ kMaximumMtpDraftWidth ∧
    maxDraft ≤ options.maxTransactionTokens ∧ 0 ≤ pendingToken.toInt ∧
    pendingToken.toInt < kVocabulary ∧ position = stage.committedFrontier ∧
    stage.provisionalEpoch = 0 ∧ stage.mtpPendingValid = true ∧ bank.committed + 1 = position ∧
    maxDraft ≤ bank.capacity - bank.committed ∧ stage.mtpTransactionActive = false) draftNotReady
  let epoch := if retainedEpoch = 0 then kEphemeralDraftEpoch else retainedEpoch
  mayThrow plan
  onMemory (onWorkspace fun workspace =>
    { workspace with tokens := put 0 [pendingToken] workspace.tokens })
  onMemory (onMtpQsa (QsaBank.begin epoch))
  Proc.catching (do
      onMemory (forEach (draftStep kernels plan bank.committed epoch) (List.range maxDraft))
      mayThrow plan
      onMemory (onWorkspace fun workspace =>
        { workspace with
          hostPredictions := put 0 (slice 0 maxDraft workspace.predictions)
            workspace.hostPredictions })
      mayThrow plan)
    fun thrown => do
      onMemory (onMtpQsa (QsaBank.rollback epoch))
      Proc.throwing thrown
  settleDraft epoch maxDraft retainedEpoch
  look fun stage => slice 0 maxDraft stage.memory.workspace.hostPredictions

def draft (pendingToken : Token) (position maxDraft : Nat) : Call v (List Token) :=
  if maxDraft = 0 then pure []
  else runMtpDraft kernels options plan pendingToken position maxDraft 0

def draftRetained (pendingToken : Token) (position maxDraft transactionEpoch : Nat) :
    Call v (List Token) := do
  Proc.ensure (¬ (maxDraft = 0 ∨ transactionEpoch = 0))
    (.invalidArgument "retained MTP draft extent is invalid")
  runMtpDraft kernels options plan pendingToken position maxDraft transactionEpoch

def checkpointSpeculativePrefix (transactionEpoch prefixTokens : Nat) : Call v Unit := do
  mayThrow plan
  let stage ← look id
  Proc.ensure (options.stage = .stage0 ∧ stage.provisionalEpoch = transactionEpoch ∧
    stage.provisionalKind = .speculative ∧ stage.statesActive = true ∧ prefixTokens ≠ 0 ∧
    prefixTokens = stage.provisionalProcessed ∧ prefixTokens < stage.provisionalExpected)
    (.runtimeError "speculative prefix checkpoint is invalid")
  onMemory (onGdn (StateBank.takeCheckpoint plan "GDN"))
  onMemory (onPle (StateBank.takeCheckpoint plan "PLE"))
  change ({ · with speculativeCheckpointCount := prefixTokens })

/-- The row behind an accepted draft is made again, of the target's hidden state. -/
def reconcileRetainedDraft (transactionEpoch targetRow : Nat) : Call v Unit := do
  mayThrow plan
  let stage ← look id
  Proc.ensure (options.mtp = true ∧ stage.mtpTransactionActive = true ∧
    stage.mtpTransactionEpoch = transactionEpoch ∧ stage.provisionalEpoch = transactionEpoch ∧
    stage.provisionalKind = .speculative ∧ targetRow < stage.mtpTransactionRows ∧
    stage.provisionalProcessed = targetRow + 1 ∧ stage.mtpReconciledRows = targetRow + 1)
    (.runtimeError "retained MTP reconciliation is invalid")
  mayThrow plan
  let workspace := stage.memory.workspace
  let _ ← onMemory (runMtpStep kernels plan (workspace.finalHc targetRow)
    (workspace.predictions targetRow) (stage.memory.mtpQsaState.committed + targetRow + 1))
  onMemory (onMtpQsa (QsaBank.markEvaluated transactionEpoch (targetRow + 2)))
  change ({ · with mtpReconciledRows := targetRow + 2 })

def abandonRetainedDraft (transactionEpoch : Nat) : Call v Unit := do
  mayThrow plan
  let stage ← look id
  Proc.whenever (stage.mtpTransactionActive = true) (do
    Proc.ensure (stage.mtpTransactionEpoch = transactionEpoch ∧ stage.mtpTransactionRows ≠ 0)
      (.runtimeError "retained MTP draft epoch mismatch")
    onMemory (onMtpQsa (QsaBank.rollback stage.mtpTransactionEpoch))
    change dropDraft)

/-- The rows of the accepted tokens. A retained draft has them, as far as it was reconciled;
without one they are made now. -/
def prepareMtpRows (epoch priorPairs evaluated : Nat) : Call v Unit := do
  let stage ← look id
  if stage.mtpTransactionActive = true then do
    Proc.ensure (stage.mtpTransactionEpoch = epoch ∧ stage.mtpTransactionRows ≠ 0 ∧
      stage.mtpPendingValid = true ∧ stage.provisionalKind = .speculative ∧
      stage.provisionalExpected = stage.mtpTransactionRows + 1 ∧ evaluated ≠ 0 ∧
      evaluated ≤ stage.mtpReconciledRows)
      (.runtimeError "retained MTP draft does not match target commit")
    change ({ · with mtpTransactionRows := evaluated })
  else do
    change ({ · with mtpTransactionRows := 0 })
    Proc.whenever (evaluated ≠ 0) (do
      onMemory (onMtpQsa (QsaBank.begin epoch))
      change ({ · with mtpTransactionActive := true, mtpTransactionEpoch := epoch })
      Proc.catching (do
          onMemory (runMtpPrefill kernels plan priorPairs evaluated stage.mtpPendingValid)
          onMemory (onMtpQsa (QsaBank.markEvaluated epoch evaluated))
          change ({ · with mtpTransactionRows := evaluated }))
        fun thrown => do
          onMemory (onMtpQsa (QsaBank.rollback epoch))
          change ({ · with mtpTransactionActive := false, mtpTransactionEpoch := 0 })
          Proc.throwing thrown)

/-- The last wait of the preparation. -/
def awaitMtpRows : Call v Unit :=
  Proc.catching (mayThrow plan) fun thrown => do
    let stage ← look id
    Proc.whenever (stage.mtpTransactionActive = true) (do
      onMemory (onMtpQsa (QsaBank.rollback stage.mtpTransactionEpoch))
      change ({ · with
        mtpTransactionActive := false
        mtpTransactionEpoch := 0
        mtpTransactionRows := 0 }))
    Proc.throwing thrown

/-- The MTP rows of the accepted target rows, and the hidden state behind the last of them. -/
def prepareMtpCommit (epoch accepted : Nat) : Call v Unit := do
  Proc.ensure (accepted ≠ 0) (.logicError "invalid MTP commit preparation")
  let stage ← look id
  let priorPairs := stage.memory.mtpQsaState.committed
  Proc.ensure (priorPairs + stage.mtpPendingValid.toNat = stage.provisionalBase)
    (.runtimeError "MTP target frontier differs")
  change fun stage => { stage with mtpCandidatePendingValid := stage.mtpPendingValid }
  Proc.whenever (stage.mtpPendingValid = true) (do
    mayThrow plan
    onMemory (onWorkspace fun workspace =>
      { workspace with mtpCandidateHc := workspace.mtpPendingHc }))
  prepareMtpRows kernels plan epoch priorPairs
    (accepted - if stage.mtpPendingValid then 0 else 1)
  mayThrow plan
  onMemory (onWorkspace fun workspace =>
    { workspace with mtpCandidateHc := workspace.finalHc (accepted - 1) })
  change ({ · with mtpCandidatePendingValid := true })
  awaitMtpRows plan

/-- Stage 0 may be one row ahead, with a checkpoint behind the rows that are accepted. -/
def onlineLookahead (stage : CudaStageBackend v) (stateCommitCount : Nat) : Bool :=
  options.stage = .stage0 && stage.provisionalKind = .speculative &&
    stage.provisionalProcessed = stateCommitCount + 1 &&
    stage.speculativeCheckpointCount = stateCommitCount

def onlineExact (stage : CudaStageBackend v) (stateCommitCount : Nat) : Bool :=
  stage.provisionalKind = .speculative && stage.provisionalProcessed = stateCommitCount &&
    stage.provisionalProcessed < stage.provisionalExpected

/-- The states of a prefix, from the checkpoint. -/
def restorePrefix : Call v Unit := do
  onMemory (onGdn (StateBank.restoreCheckpoint plan "GDN"))
  Proc.whenever (options.stage = .stage0)
    (onMemory (onPle (StateBank.restoreCheckpoint plan "PLE")))
  mayThrow plan

/-- The tokens of a prefix are hashed once more. -/
def rehashPrefix (tokens : List Token) : Call v Unit :=
  Proc.whenever (options.stage = .stage0) (do
    onMemory (onPle (StateBank.restore plan "PLE"))
    change ({ · with candidatePleHashes := [] })
    startPleRead options plan tokens 0)

/-- The states of a prefix, by evaluating it once more. -/
def evaluatePrefix (epoch stateCommitCount : Nat) : Call v Unit := do
  let stage ← look id
  onMemory (onGdn (StateBank.restore plan "GDN"))
  rehashPrefix options plan (stage.provisionalTokens.take stateCommitCount)
  let stage ← look id
  onMemory (runTokens kernels plan stage.pleReadRows options stage.provisionalKind epoch
    stage.provisionalBase stateCommitCount 0 false)
  mayThrow plan

def shortenStates (epoch stateCommitCount : Nat) : Call v Unit := do
  let stage ← look id
  if onlineLookahead options stage stateCommitCount = true then restorePrefix options plan
  else evaluatePrefix kernels options plan epoch stateCommitCount

def leaveTransaction (epoch : Nat) (stage : CudaStageBackend v) : CudaStageBackend v :=
  { stage with
    committedEpoch := epoch
    provisionalEpoch := 0
    provisionalExpected := 0
    provisionalProcessed := 0
    speculativeCheckpointCount := 0
    provisionalKind := .invalid
    provisionalTokens := []
    candidatePleHashes := []
    statesActive := false
    mtpCandidatePendingValid := false }

/-- Everything that was provisional becomes committed. -/
def publish (epoch stateCommitCount : Nat) : Call v Unit := do
  onMemory (onGdn (StateBank.commit "GDN" epoch))
  onMemory (onQsa (QsaBank.commit epoch stateCommitCount))
  Proc.whenever (options.stage = .stage0) (do
    onMemory (onPle (StateBank.commit "PLE" epoch))
    change fun stage =>
      { stage with
        committedPleHash :=
          stage.candidatePleHashes.getD (stateCommitCount - 1) stage.committedPleHash })
  let stage ← look id
  Proc.whenever (stage.mtpTransactionActive = true) (do
    onMemory (onMtpQsa (QsaBank.commit stage.mtpTransactionEpoch stage.mtpTransactionRows))
    change dropDraft)
  Proc.whenever (options.mtp = true) (do
    mayThrow plan
    onMemory (onWorkspace fun workspace =>
      { workspace with mtpPendingHc := workspace.mtpCandidateHc })
    mayThrow plan
    change fun stage => { stage with mtpPendingValid := stage.mtpCandidatePendingValid })
  change fun stage =>
    { leaveTransaction epoch stage with
      committedFrontier := stage.provisionalBase + stateCommitCount }

def commit (epoch stateCommitCount : Nat) : Call v Unit := do
  mayThrow plan
  let stage ← look id
  Proc.ensure (epoch = stage.provisionalEpoch ∧ stage.statesActive = true ∧
    stateCommitCount ≠ 0 ∧ stateCommitCount ≤ stage.provisionalProcessed ∧
    (stage.provisionalProcessed = stage.provisionalExpected ∨
      onlineExact stage stateCommitCount = true ∨
      onlineLookahead options stage stateCommitCount = true))
    (.runtimeError "CUDA backend commit does not match transaction")
  Proc.whenever (stateCommitCount < stage.provisionalProcessed)
    (shortenStates kernels options plan epoch stateCommitCount)
  Proc.whenever (options.mtp = true) (do
    let stage ← look id
    if stage.provisionalKind = .appendKnown then
      Proc.ensure (stateCommitCount = stage.provisionalExpected ∧
        stage.mtpCandidatePendingValid = true)
        (.runtimeError "chunked append MTP state is incomplete")
    else prepareMtpCommit kernels plan epoch stateCommitCount)
  publish options plan epoch stateCommitCount

/-- The members that a rollback of a draft clears. -/
def forgetDraft (stage : CudaStageBackend v) : CudaStageBackend v :=
  { stage with
    mtpTransactionActive := false
    mtpTransactionEpoch := 0
    mtpTransactionRows := 0 }

def rollback (epoch : Nat) : Call v Unit := do
  mayThrow plan
  let stage ← look id
  if stage.provisionalEpoch = 0 then
    Proc.whenever (stage.mtpTransactionActive = true) (do
      Proc.ensure (stage.mtpTransactionEpoch = epoch)
        (.runtimeError "retained MTP rollback epoch mismatch")
      onMemory (onMtpQsa (QsaBank.rollback stage.mtpTransactionEpoch))
      change forgetDraft)
    Proc.ensure (stage.committedEpoch < epoch)
      (.runtimeError "CUDA backend rollback epoch is stale")
    change ({ · with committedEpoch := epoch })
  else
    Proc.ensure (epoch = stage.provisionalEpoch)
      (.runtimeError "CUDA backend rollback epoch mismatch")
    Proc.whenever (stage.statesActive = true) (do
      onMemory (onGdn (StateBank.rollback "GDN" epoch))
      onMemory (onQsa (QsaBank.rollback epoch))
      Proc.whenever (options.stage = .stage0)
        (onMemory (onPle (StateBank.rollback "PLE" epoch))))
    Proc.whenever (stage.mtpTransactionActive = true) (do
      onMemory (onMtpQsa (QsaBank.rollback stage.mtpTransactionEpoch))
      change forgetDraft)
    change (leaveTransaction epoch)

/-- What the banks hold at first and after a reset. -/
structure Zeros (v : Values) where
  gdn : v.Gdn
  ple : v.Ple

/-- What the constructor does not set: the arrays of the workspace and of the attention, and
the checkpoints, where they are allocated. -/
structure Unset (v : Values) where
  workspace : Workspace v
  cells : Nat → Cells v.Row v.Pooled
  mtpCells : Nat → Cells v.Row v.Pooled
  gdnCheckpoint : Option (Nat → v.Gdn)
  pleCheckpoint : Option v.Ple

def constructed (zeros : Zeros v) (unset : Unset v) : CudaStageBackend v where
  memory :=
    { workspace := unset.workspace
      gdnState := .constructed (fun _ => zeros.gdn) unset.gdnCheckpoint
      pleState := .constructed zeros.ple unset.pleCheckpoint
      qsaState := { cells := unset.cells, capacity := options.contextCapacity }
      mtpQsaState := { cells := unset.mtpCells, capacity := options.contextCapacity } }
  committedPleHash := PleHash.reset options.hash

def resetSession (zeros : Zeros v) : Call v Unit := do
  mayThrow plan
  let stage ← look id
  Proc.ensure (stage.provisionalEpoch = 0 ∧ stage.statesActive = false ∧
    stage.mtpTransactionActive = false) (.logicError "cannot reset an active CUDA transaction")
  onMemory (onGdn (StateBank.reset plan "GDN" fun _ => zeros.gdn))
  onMemory (onQsa QsaBank.reset)
  Proc.whenever (options.stage = .stage0) (do
    onMemory (onPle (StateBank.reset plan "PLE" zeros.ple))
    change ({ · with committedPleHash := PleHash.reset options.hash }))
  Proc.whenever (options.mtp = true) (onMemory (onMtpQsa QsaBank.reset))
  mayThrow plan
  change ({ · with
    committedFrontier := 0
    committedEpoch := 0
    provisionalBase := 0
    provisionalExpected := 0
    provisionalProcessed := 0
    provisionalKind := .invalid
    provisionalTokens := []
    candidatePleHashes := []
    mtpPendingValid := false
    mtpCandidatePendingValid := false
    mtpTransactionEpoch := 0
    mtpTransactionRows := 0
    mtpReconciledRows := 0 })

end Calls

end Q38.CudaTransactions
