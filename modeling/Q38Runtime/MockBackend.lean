import Q38Runtime.Backend

/-! `MockStageBackend` of `mock_backend.cc`: a CPU stage with the full
provisional state of a device stage and a hash for a model. -/
namespace Q38.MockBackend
open Contracts Cancellation Backend Imperative

/-- The members the constructor fixes. -/
structure MockStage where
  stage : Stage
  hiddenWidth : UInt32
  vocabSize : UInt32
  deriving DecidableEq, Repr

def makeMockStage (stage : Stage) (hiddenWidth vocabSize : UInt32) : Except Thrown MockStage :=
  if hiddenWidth = 0 ∨ vocabSize = 0 then
    .error (.invalidArgument "mock backend dimensions must be nonzero")
  else .ok ⟨stage, hiddenWidth, vocabSize⟩

structure MockState where
  committedFrontier : Nat := 0
  committedEpoch : Nat := 0
  provisionalEpoch : Nat := 0
  provisionalBase : Nat := 0
  provisionalExpected : Nat := 0
  provisionalProcessed : Nat := 0
  provisionalKind : TxnKind := .invalid
  provisionalDigest : UInt64 := 0
  provisionalTokens : List Token := []
  speculativeCheckpoint : Nat := 0
  deriving DecidableEq, Repr

abbrev MockCall (α : Type) := Proc Thrown MockState α

def digestTokens (tokens : List Token) (seed : UInt64) : UInt64 :=
  tokens.foldl (fun digest token => mix64 (digest ^^^ token.toUInt32.toUInt64)) seed

/-- `float_to_bf16` on the bits of the float. -/
def floatToBf16 (bits : UInt32) : UInt16 :=
  ((bits + ((0x7fff : UInt32) + ((bits >>> 16) &&& 1))) >>> 16).toUInt16

def minusEight : UInt32 := 0xc1000000
def plusEight : UInt32 := 0x41000000
def sevenAndHalf : UInt32 := 0x40f00000

section Stage
variable (mock : MockStage)

def predict (token : Token) (position : Nat) : Token :=
  let value := mix64 (token.toUInt32.toUInt64 ^^^ (UInt64.ofNat position * 0x9e3779b97f4a7c15))
  (value % mock.vocabSize.toUInt64).toUInt32.toInt32

/-- The provisional state a first chunk opens. -/
def openProvisional (txn : SessionTxnV1) (state : MockState) : MockState :=
  { state with
    provisionalEpoch := txn.epoch
    provisionalBase := txn.baseTarget
    provisionalExpected := txn.evaluatedCount
    provisionalProcessed := 0
    provisionalKind := txn.kind
    provisionalTokens := []
    provisionalDigest := UInt64.ofNat txn.epoch ^^^ mock.stage.code.toUInt64 }

def advance (tokenIds : List Token) (state : MockState) : MockState :=
  { state with
    provisionalDigest := digestTokens tokenIds state.provisionalDigest
    provisionalTokens := state.provisionalTokens ++ tokenIds
    provisionalProcessed := state.provisionalProcessed + tokenIds.length }

/-- The head of `execute`: the chunk is the next one of this transaction. -/
def expect (input : StageInput) : MockCall Unit := do
  let txn := input.txn
  let count := input.tokenIds.length
  check input.cancellation 0
  Proc.ensure (¬ (txn.magic ≠ kTxnMagic ∨ txn.version ≠ kContractVersion ∨
      txn.status ≠ .prepared))
    (.runtimeError "backend received an invalid transaction")
  Proc.ensure (¬ (count = 0 ∨ input.chunkOffset > txn.evaluatedCount ∨
      count > txn.evaluatedCount - input.chunkOffset ∨
      input.finalChunk ≠ Decidable.decide (input.chunkOffset + count = txn.evaluatedCount)))
    (.runtimeError "backend received an invalid chunk extent")
  let state ← Proc.read id
  Proc.whenever (state.provisionalEpoch = 0) do
    Proc.ensure (¬ (txn.epoch ≤ state.committedEpoch ∨ input.chunkOffset ≠ 0 ∨
        txn.baseTarget ≠ state.committedFrontier))
      (.runtimeError "backend transaction epoch/frontier is not monotonic")
    Proc.write (openProvisional mock txn)
  Proc.ensure (state.provisionalEpoch = 0 ∨
      ¬ (txn.epoch ≠ state.provisionalEpoch ∨ txn.baseTarget ≠ state.provisionalBase ∨
        txn.evaluatedCount ≠ state.provisionalExpected ∨ txn.kind ≠ state.provisionalKind ∨
        input.chunkOffset ≠ state.provisionalProcessed))
    (.runtimeError "backend chunk is not the next provisional range")
  Proc.write (advance input.tokenIds)

def boundaryWords (digest : UInt64) (txn : SessionTxnV1) (chunkOffset count : Nat) :
    List UInt16 :=
  (List.range count).flatMap fun row =>
    List.replicate mock.hiddenWidth.toNat
      (mix64 (digest ^^^ UInt64.ofNat txn.baseTarget ^^^ UInt64.ofNat chunkOffset ^^^
        UInt64.ofNat row)).toUInt16

def boundaryOf (state : MockState) (input : StageInput) : BoundaryBuffer :=
  let txn := input.txn
  let count := input.tokenIds.length
  let words := boundaryWords mock state.provisionalDigest txn input.chunkOffset count
  { frame := {
      sessionHash := txn.sessionHash
      epoch := txn.epoch
      tokenStart := txn.baseTarget + input.chunkOffset
      tokenCount := count
      hiddenDtype := .bfloat16
      producerStatus := .ready
      hiddenWidth := mock.hiddenWidth.toNat
      ringSlot := txn.epoch % 3
      payloadBytes := mock.hiddenWidth.toNat * count * 2 % 2 ^ 64
      payloadChecksum := boundaryPayloadChecksum words }
    bf16 := words }

/-- The rest of `execute` on stage 0. -/
def executeFront (input : StageInput) : MockCall StageOutput := do
  let state ← Proc.read id
  check input.cancellation 1
  pure {
    boundary := boundaryOf mock state input
    stateCommitCount := state.provisionalProcessed
    stateDigest := state.provisionalDigest }

/-- How many rows behind the first repeat the prediction made before them. -/
def matching (base : Nat) : Nat → List Token → Nat
  | index, previous :: token :: rest =>
      if token = predict mock previous (base + index) then
        matching base (index + 1) (token :: rest) + 1
      else 0
  | _, _ => 0

def verifyBoundary (input : StageInput) : MockCall Unit := do
  let frame := input.boundary.frame
  let count := input.tokenIds.length
  Proc.accept (validateBoundary frame count)
    fun error => .runtimeError ("stage1 rejected boundary: " ++ error)
  Proc.ensure (input.boundary.payloadChecksum = frame.payloadChecksum)
    (.runtimeError "stage1 boundary checksum mismatch")
  Proc.ensure (¬ (frame.epoch ≠ input.txn.epoch ∨
      frame.tokenStart ≠ input.txn.baseTarget + input.chunkOffset ∨
      input.boundary.bf16.length ≠ mock.hiddenWidth.toNat * count))
    (.runtimeError "stage1 boundary identity mismatch")

/-- The prediction behind the first `count` provisional tokens. -/
def predictAfter (state : MockState) (txn : SessionTxnV1) (count : Nat) : Token :=
  predict mock (state.provisionalTokens.getD (count - 1) 0) (txn.baseTarget + count)

def logitsFor (nextToken : Token) : List UInt16 :=
  let next := nextToken.toUInt32
  ((List.replicate mock.vocabSize.toNat (floatToBf16 minusEight)).set next.toNat
    (floatToBf16 plusEight)).set ((next + 1) % mock.vocabSize).toNat (floatToBf16 sevenAndHalf)

/-- The rest of `execute` on stage 1. -/
def executeBack (input : StageInput) : MockCall StageOutput := do
  let txn := input.txn
  verifyBoundary mock input
  let state ← Proc.read id
  if txn.kind = .speculative ∧ input.finalChunk = false then
    pure {
      stateCommitCount := state.provisionalProcessed
      nextToken := predictAfter mock state txn state.provisionalProcessed
      stateDigest := state.provisionalDigest }
  else do
    let committed := if txn.kind = .speculative then
        1 + matching mock txn.baseTarget 1 state.provisionalTokens
      else state.provisionalProcessed
    let nextToken := predictAfter mock state txn committed
    Proc.ensure (¬ (input.needLogits = true ∧
        (input.finalChunk = false ∨ txn.kind = .speculative)))
      (.runtimeError "mock logits requested for invalid lane")
    check input.cancellation 1
    pure {
      stateCommitCount := committed
      nextToken := nextToken
      stateDigest := state.provisionalDigest
      logitsBf16 := if input.needLogits then logitsFor mock nextToken else [] }

def execute (input : StageInput) : MockCall StageOutput := do
  expect mock input
  if mock.stage = .stage0 then executeFront mock input else executeBack mock input

/-- The token `draft` proposes for one row; the row `mismatch` is spoiled. -/
def proposal (previous : Token) (position maxDraft mismatch index : Nat) : Token :=
  let next := predict mock previous (position + index + 1)
  if index = mismatch ∧ mismatch < maxDraft then
    ((next + 1).toUInt32 % mock.vocabSize).toInt32
  else next

def proposals (position maxDraft mismatch : Nat) : Nat → Nat → Token → List Token
  | 0, _, _ => []
  | rows + 1, index, previous =>
      let next := proposal mock previous position maxDraft mismatch index
      next :: proposals position maxDraft mismatch rows (index + 1) next

/-- The row the mock spoils, a hash of the position. -/
def spoiledRow (position maxDraft : Nat) : Nat :=
  if maxDraft = 0 then 0
  else (mix64 (UInt64.ofNat position) % UInt64.ofNat (toUInt32 (maxDraft + 1))).toNat

def checkRows (cancellation : Option Polls) : Nat → Nat → MockCall Unit
  | 0, _ => pure ()
  | rows + 1, index => do
      check cancellation (index + 1)
      checkRows cancellation rows (index + 1)

def draft (pendingToken : Token) (position maxDraft : Nat) (cancellation : Option Polls) :
    MockCall (List Token) := do
  check cancellation 0
  Proc.ensure (mock.stage = .stage1) (.runtimeError "stage0 cannot draft tokens")
  checkRows cancellation maxDraft 0
  pure (proposals mock position maxDraft (spoiledRow position maxDraft) maxDraft 0 pendingToken)

def checkpointSpeculativePrefix (transactionEpoch prefixTokens : Nat) : MockCall Unit := do
  let state ← Proc.read id
  Proc.ensure (¬ (mock.stage ≠ .stage0 ∨ transactionEpoch ≠ state.provisionalEpoch ∨
      state.provisionalKind ≠ .speculative ∨ prefixTokens = 0 ∨
      prefixTokens ≠ state.provisionalProcessed))
    (.runtimeError "mock speculative checkpoint is invalid")
  Proc.write ({ · with speculativeCheckpoint := prefixTokens })

/-- The provisional members as every end of a transaction leaves them. -/
def closeProvisional (state : MockState) : MockState :=
  { state with
    provisionalEpoch := 0
    provisionalExpected := 0
    provisionalProcessed := 0
    provisionalKind := .invalid
    provisionalDigest := 0
    provisionalTokens := []
    speculativeCheckpoint := 0 }

def commit (epoch stateCommitCount : Nat) : MockCall Unit := do
  let state ← Proc.read id
  let complete := state.provisionalProcessed = state.provisionalExpected
  let onlineExact := state.provisionalKind = .speculative ∧
    state.provisionalProcessed = stateCommitCount
  let onlineLookahead := state.provisionalKind = .speculative ∧
    state.provisionalProcessed = stateCommitCount + 1 ∧
    state.speculativeCheckpoint = stateCommitCount
  Proc.ensure (¬ (epoch ≠ state.provisionalEpoch ∨ stateCommitCount = 0 ∨
      stateCommitCount > state.provisionalProcessed ∨
      (¬ complete ∧ ¬ onlineExact ∧ ¬ onlineLookahead)))
    (.runtimeError "backend commit does not match provisional state")
  Proc.write fun state => closeProvisional { state with
    committedFrontier := state.provisionalBase + stateCommitCount
    committedEpoch := epoch }

def rollback (epoch : Nat) : MockCall Unit := do
  let state ← Proc.read id
  if state.provisionalEpoch = 0 then do
    Proc.ensure (¬ epoch ≤ state.committedEpoch)
      (.runtimeError "backend rollback epoch is stale")
    Proc.write ({ · with committedEpoch := epoch })
  else do
    Proc.ensure (epoch = state.provisionalEpoch)
      (.runtimeError "backend rollback epoch mismatch")
    Proc.write fun state => closeProvisional { state with committedEpoch := epoch }

def resetSession : MockCall Unit := do
  let state ← Proc.read id
  Proc.ensure (¬ state.provisionalEpoch ≠ 0)
    (.logicError "cannot reset an active backend transaction")
  Proc.write fun state => closeProvisional { state with
    committedFrontier := 0
    committedEpoch := 0
    provisionalBase := 0 }

/-- The stage as the executor sees it; what the class does not override is the
default of the interface. -/
def mockBackend : StageBackend MockState where
  stage := mock.stage
  prefetchTransaction := defaultPrefetchTransaction
  execute := execute mock
  draft := draft mock
  draftRetained := defaultDraftRetained (draft mock)
  checkpointSpeculativePrefix := checkpointSpeculativePrefix mock
  reconcileRetainedDraft := defaultReconcileRetainedDraft
  commit := commit
  rollback := rollback
  resetSession := resetSession

end Stage

end Q38.MockBackend
