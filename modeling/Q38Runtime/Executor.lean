import Q38Runtime.Backend
import Q38Runtime.Snapshot
import Q38Runtime.Transaction

/-! `DualStageExecutor` of `executor.cc`. A worker runs its tasks in the order
they are submitted, so a task is run when it is submitted and its outcome is
kept until the coordinator asks for it. What the cancelling thread and the
clock do, and what the stages read when they poll, comes from the weather of
the setup, one entry for each access. -/
namespace Q38.Executor
open Contracts Cancellation Backend Transaction Sampling Identity Snapshot Imperative

structure ExecutorOptions where
  sessionHash : UInt64 := 1
  hiddenWidth : UInt32 := 4 * 2560
  vocabSize : UInt32 := 248320
  appendChunkTokens : UInt32 := 512
  contextLimit : UInt32 := 262144
  backendFailureIsFatal : Bool := false
  retainLastLogitsForDiagnostics : Bool := false
  sampling : SamplingConfigV1 := {}
  stopTokenIds : List Token := []
  identity : SessionIdentityV1 := {}

structure LogitSnapshotV1 where
  transactionEpoch : Nat := 0
  targetFrontier : Nat := 0
  transactionKind : TxnKind := .invalid
  selectedToken : Token := -1
  logitsBf16 : List UInt16 := []
  deriving DecidableEq, Repr

structure DecodeResult where
  commit : CommitEventV1
  publishedTokens : List Token
  deriving DecidableEq, Repr

structure RetainedDraftRequest where
  pendingToken : Token
  position : Nat
  maxDraft : Nat
  deriving DecidableEq, Repr

def kMaximumMtpDraftWidth : Nat := 64

/-- The members of the executor that the coordinating thread owns. -/
structure Coordinator where
  engine : SessionTxnEngine
  sampler : TransactionalSampler
  tokens : List Token := []
  lastSample : Token := -1
  haveLastSample : Bool := false
  lastLogitSnapshot : Option LogitSnapshotV1 := none
  poisoned : Bool := false
  deriving DecidableEq, Repr

inductive Task where
  | prefetchTransaction
  | execute
  | draftRetained
  | checkpointSpeculativePrefix
  | reconcileRetainedDraft
  | commit
  | rollback
  | resetSession
  deriving DecidableEq, Repr

/-- A stage and the tasks its worker has run, newest first, with what each threw. -/
structure StageWorker (σ : Type) where
  state : σ
  finished : List (Task × Option Thrown) := []
  deriving DecidableEq, Repr

structure World (σ₀ σ₁ : Type) where
  coordinator : Coordinator
  worker0 : StageWorker σ₀
  worker1 : StageWorker σ₁
  cancellation : Option CancellationToken := none
  clock : Nat := 0

/-- `arrivals` come before an access, `between` falls into a `seal`, and
`reads` is what the polls of a stage task see. -/
structure Weather where
  arrivals : List Arrival := []
  between : List Arrival := []
  reads : Polls := fun _ => .active

structure Setup (σ₀ σ₁ : Type) where
  options : ExecutorOptions
  select : Selection
  stage0 : StageBackend σ₀
  stage1 : StageBackend σ₁
  weather : Nat → Weather

/-! What the coordinator computes from the options alone. -/
section Choices
variable (options : ExecutorOptions)

/-- `std::binary_search` in the sorted stop tokens. -/
def isStop (token : Token) : Bool := options.stopTokenIds.contains token

/-- The logits the last chunk of a non-speculative transaction is asked for. -/
def needsLogits (sampled : Bool) (kind : TxnKind) (finalChunk : Bool) : Bool :=
  (sampled || options.retainLastLogitsForDiagnostics) && finalChunk &&
    kind != .speculative

/-- A draft the target repeats is accepted; a stop token ends the speculation
all the same. -/
def keepsDraft (output1 : StageOutput) (draftToken : Token) : Bool :=
  output1.nextToken == draftToken && !isStop options draftToken

/-- In sampled mode the sampler chooses the token; otherwise stage 1 did. -/
def sampleToken (select : Selection) (sampler : TransactionalSampler) (kind : TxnKind)
    (evalTokens : List Token) (output1 : StageOutput) :
    Except Thrown (Token × Option SamplerDecisionV1) :=
  if sampler.sampled then
    if kind = .speculative then
      .error (.logicError "sampled mode requires non-speculative target decode")
    else
      match sampler.prepare select output1.logitsBf16
          (if kind = .appendKnown then evalTokens else []) with
      | .error thrown => .error thrown
      | .ok decision =>
          if inVocabulary options.vocabSize decision.token then
            .ok (decision.token, some decision)
          else .error (.runtimeError "sampler returned a token outside the vocabulary")
  else .ok (output1.nextToken, none)

/-- Sampling and the check behind it: the token to publish, and the decision
the sampler has to commit with it. -/
def resolveToken (select : Selection) (sampler : TransactionalSampler) (kind : TxnKind)
    (evalTokens : List Token) (output1 : StageOutput) :
    Except Thrown (Token × Option SamplerDecisionV1) :=
  match sampleToken options select sampler kind evalTokens output1 with
  | .error thrown => .error thrown
  | .ok resolved =>
      if options.retainLastLogitsForDiagnostics = true ∧ kind ≠ .speculative ∧
          output1.logitsBf16.length ≠ options.vocabSize.toNat then
        .error (.runtimeError "diagnostic logits size differs from vocabulary")
      else .ok resolved

/-- Cut the accepted rows before the first stop token among them, which becomes
the new pending token. -/
def truncateAtStop (kind : TxnKind) (evalTokens : List Token) (output1 : StageOutput) :
    StageOutput :=
  if kind = .speculative then
    match ((evalTokens.take output1.stateCommitCount).drop 1).findIdx? (isStop options) with
    | some index => { output1 with
        stateCommitCount := index + 1, nextToken := evalTokens.getD (index + 1) 0 }
    | none => output1
  else output1

end Choices

def retainedMismatch (kind : TxnKind) (evalTokens : List Token) (chunkTokens : Nat) :
    Option RetainedDraftRequest → Bool
  | none => false
  | some request => kind != .speculative || chunkTokens != 1 || request.maxDraft == 0 ||
      evalTokens.length != request.maxDraft + 1 || evalTokens.head? != some request.pendingToken

section Calls
variable {σ₀ σ₁ : Type}

abbrev ExecutorCall (σ₀ σ₁ α : Type) := Proc Thrown (World σ₀ σ₁) α

def World.withEngine (world : World σ₀ σ₁) (engine : SessionTxnEngine) : World σ₀ σ₁ :=
  { world with coordinator := { world.coordinator with engine := engine } }

def World.withSampler (world : World σ₀ σ₁) (sampler : TransactionalSampler) : World σ₀ σ₁ :=
  { world with coordinator := { world.coordinator with sampler := sampler } }

def poison : ExecutorCall σ₀ σ₁ Unit :=
  Proc.write fun world => { world with coordinator := { world.coordinator with poisoned := true } }

/-- A call on the engine, whose refusals the executor throws. -/
def coordinate {α : Type} (describe : String → Thrown) (call : EngineCall α) :
    ExecutorCall σ₀ σ₁ α := fun world =>
  match call world.coordinator.engine with
  | (.ok value, engine) => (.ok value, world.withEngine engine)
  | (.error message, engine) => (.error (describe message), world.withEngine engine)

def onSampler (call : SamplerCall) : ExecutorCall σ₀ σ₁ Unit :=
  Proc.within (·.coordinator.sampler) (fun sampler world => world.withSampler sampler) call

def failed (what message : String) : Thrown := .runtimeError (what ++ message)

def ensureHealthy : ExecutorCall σ₀ σ₁ Unit := do
  let poisoned ← Proc.read (·.coordinator.poisoned)
  Proc.ensure (poisoned = false) (.runtimeError "executor is fail-closed")

variable (setup : Setup σ₀ σ₁)

/-- An access of the coordinator to the token, if it was given one. -/
def onToken (access : Weather → Proc Thrown CancellationToken Unit) :
    ExecutorCall σ₀ σ₁ Unit := fun world =>
  let weather := setup.weather world.clock
  match world.cancellation with
  | none => (.ok (), { world with clock := world.clock + 1 })
  | some token =>
      let outcome := access weather (token.meetAll weather.arrivals)
      (outcome.1, { world with cancellation := some outcome.2, clock := world.clock + 1 })

def poll : ExecutorCall σ₀ σ₁ Unit :=
  onToken setup fun _ => CancellationToken.throwIfRequested

def sealToken : ExecutorCall σ₀ σ₁ Unit :=
  onToken setup fun weather => CancellationToken.seal weather.between

/-- What a task threw, if it threw. -/
def failure {α : Type} : Except Thrown α → Option Thrown
  | .ok _ => none
  | .error thrown => some thrown

def StageWorker.run {σ α : Type} (worker : StageWorker σ) (task : Task)
    (body : Proc Thrown σ α) : Except Thrown α × StageWorker σ :=
  let outcome := body worker.state
  (outcome.1, ⟨outcome.2, (task, failure outcome.1) :: worker.finished⟩)

def World.polls (world : World σ₀ σ₁) : Option Polls :=
  world.cancellation.map fun _ => (setup.weather world.clock).reads

def submit0 {α : Type} (task : Task) (body : Option Polls → Proc Thrown σ₀ α) :
    ExecutorCall σ₀ σ₁ (Except Thrown α) := fun world =>
  let outcome := world.worker0.run task (body (world.polls setup))
  (.ok outcome.1, { world with worker0 := outcome.2, clock := world.clock + 1 })

def submit1 {α : Type} (task : Task) (body : Option Polls → Proc Thrown σ₁ α) :
    ExecutorCall σ₀ σ₁ (Except Thrown α) := fun world =>
  let outcome := world.worker1.run task (body (world.polls setup))
  (.ok outcome.1, { world with worker1 := outcome.2, clock := world.clock + 1 })

/-- `rollback_prepared`: it lets nothing out. The engine's answer is not read. -/
def rollbackPrepared (epoch : Nat) : ExecutorCall σ₀ σ₁ Unit :=
  Proc.catching (do
    let first ← submit0 setup .rollback fun _ => setup.stage0.rollback epoch
    let second ← submit1 setup .rollback fun _ => setup.stage1.rollback epoch
    Proc.settle first
    Proc.settle second
    Proc.write fun world =>
      if world.coordinator.engine.active then
        world.withEngine (rollback world.coordinator.engine).2
      else world)
  fun _ => poison

structure PendingStage0 where
  offset : Nat
  count : Nat
  finalChunk : Bool
  tokens : List Token
  outcome : Except Thrown StageOutput

def submitStage0 (txn : SessionTxnV1) (chunkTokens : Nat) (evalTokens : List Token)
    (offset : Nat) : ExecutorCall σ₀ σ₁ PendingStage0 := do
  let count := min chunkTokens (txn.evaluatedCount - offset)
  let finalChunk := Decidable.decide (offset + count = txn.evaluatedCount)
  let tokens := (evalTokens.drop offset).take count
  let outcome ← submit0 setup .execute fun cancellation => setup.stage0.execute {
    txn := txn, tokenIds := tokens, chunkOffset := offset, finalChunk := finalChunk
    cancellation := cancellation }
  pure ⟨offset, count, finalChunk, tokens, outcome⟩

/-- The chunk behind the current one, if there is one. -/
def submitNext (txn : SessionTxnV1) (chunkTokens : Nat) (evalTokens : List Token)
    (nextOffset : Nat) : ExecutorCall σ₀ σ₁ (Option PendingStage0) :=
  if nextOffset < txn.evaluatedCount then do
    let next ← submitStage0 setup txn chunkTokens evalTokens nextOffset
    pure (some next)
  else pure none

def submitStage1 (txn : SessionTxnV1) (pending : PendingStage0) (boundary : BoundaryBuffer)
    (needLogits : Bool) : ExecutorCall σ₀ σ₁ (Except Thrown StageOutput) :=
  submit1 setup .execute fun cancellation => setup.stage1.execute {
    txn := txn, tokenIds := pending.tokens, boundary := boundary
    chunkOffset := pending.offset, finalChunk := pending.finalChunk
    needLogits := needLogits, cancellation := cancellation }

def boundaryMatches (txn : SessionTxnV1) (offset count : Nat) (frame : StageBoundaryFrameV1) :
    Prop :=
  frame.sessionHash = txn.sessionHash ∧ frame.epoch = txn.epoch ∧
    frame.tokenStart = txn.baseTarget + offset ∧ frame.tokenCount = count ∧
    frame.hiddenWidth = setup.options.hiddenWidth.toNat

instance (txn : SessionTxnV1) (offset count : Nat) (frame : StageBoundaryFrameV1) :
    Decidable (boundaryMatches setup txn offset count frame) := by
  unfold boundaryMatches; infer_instance

def checkBoundary (txn : SessionTxnV1) (offset count : Nat) (frame : StageBoundaryFrameV1) :
    ExecutorCall σ₀ σ₁ Unit := do
  Proc.accept (validateBoundary frame count) (failed "stage0 boundary invalid: ")
  Proc.ensure (boundaryMatches setup txn offset count frame)
    (.runtimeError "stage0 boundary does not match the transaction chunk")

def ensureVocabulary (token : Token) (thrown : Thrown) : ExecutorCall σ₀ σ₁ Unit :=
  Proc.ensure (inVocabulary setup.options.vocabSize token = true) thrown

/-- The first half of a turn of the loop: wait for stage 0 and check its frame. -/
def receiveStage0 (txn : SessionTxnV1) (pending0 : PendingStage0) :
    ExecutorCall σ₀ σ₁ StageOutput := do
  poll setup
  let output0 ← Proc.settle pending0.outcome
  poll setup
  checkBoundary setup txn pending0.offset pending0.count output0.boundary.frame
  pure output0

def checkpointRows (txn : SessionTxnV1) (retained : Bool) (nextOffset : Nat) :
    ExecutorCall σ₀ σ₁ Unit :=
  Proc.whenever (retained = true ∧ nextOffset < txn.evaluatedCount) do
    let checkpoint ← submit0 setup .checkpointSpeculativePrefix fun _ =>
      setup.stage0.checkpointSpeculativePrefix txn.epoch nextOffset
    Proc.settle checkpoint

/-- The second half: hand the chunk to stage 1, launch the next one on stage 0
and wait for stage 1. -/
def forwardToStage1 (txn : SessionTxnV1) (chunkTokens : Nat) (retained : Bool)
    (evalTokens : List Token) (pending0 : PendingStage0) (boundary : BoundaryBuffer) :
    ExecutorCall σ₀ σ₁ (StageOutput × Option PendingStage0) := do
  let sampled ← Proc.read (·.coordinator.sampler.sampled)
  let stage1 ← submitStage1 setup txn pending0 boundary
    (needsLogits setup.options sampled txn.kind pending0.finalChunk)
  let nextOffset := pending0.offset + pending0.count
  checkpointRows setup txn retained nextOffset
  let next0 ← submitNext setup txn chunkTokens evalTokens nextOffset
  let output1 ← Proc.settle stage1
  poll setup
  ensureVocabulary setup output1.nextToken
    (.runtimeError "stage1 returned a token outside the vocabulary")
  pure (output1, next0)

/-- The pipeline loop, `while (pending0)`. Stage 0 is one chunk ahead of
stage 1. Answers the last output of stage 1 and how many rows it verified. -/
def verifyRows (txn : SessionTxnV1) (chunkTokens : Nat) (retained : Bool)
    (evalTokens : List Token) : Nat → PendingStage0 → ExecutorCall σ₀ σ₁ (StageOutput × Nat)
  | 0, _ => Proc.throwing .unknown
  | fuel + 1, pending0 => do
      let output0 ← receiveStage0 setup txn pending0
      let (output1, next0) ← forwardToStage1 setup txn chunkTokens retained evalTokens pending0
        output0.boundary
      let nextOffset := pending0.offset + pending0.count
      match next0 with
      | none => pure (output1, txn.evaluatedCount)
      | some next =>
          if retained = true then
            if keepsDraft setup.options output1 (evalTokens.getD nextOffset 0) then do
              let reconcile ← submit1 setup .reconcileRetainedDraft fun _ =>
                setup.stage1.reconcileRetainedDraft txn.epoch pending0.offset
              Proc.settle reconcile
              verifyRows txn chunkTokens retained evalTokens fuel next
            else do
              -- the row launched ahead is waited for and thrown away; an accepted
              -- stop token is the prediction itself, so `nextToken` stands
              let _ ← Proc.settle next.outcome
              pure ({ output1 with stateCommitCount := nextOffset }, nextOffset)
          else verifyRows txn chunkTokens retained evalTokens fuel next

def submitDraft (epoch : Nat) : Option RetainedDraftRequest →
    ExecutorCall σ₀ σ₁ (Option (Except Thrown (List Token)))
  | none => pure none
  | some request => do
      let outcome ← submit1 setup .draftRetained fun cancellation =>
        setup.stage1.draftRetained request.pendingToken request.position request.maxDraft epoch
          cancellation
      pure (some outcome)

/-- The drafts overwrite the rows behind the pending token. -/
def installDrafts (evalTokens : List Token) (retainedDraft : Option RetainedDraftRequest)
    (drafted : Option (Except Thrown (List Token))) : ExecutorCall σ₀ σ₁ (List Token) :=
  match retainedDraft, drafted with
  | some request, some outcome => do
      let tokens ← Proc.settle outcome
      Proc.ensure (tokens.length = request.maxDraft)
        (.runtimeError "retained draft backend returned a partial width")
      Proc.ensure (tokens.all (inVocabulary setup.options.vocabSize) = true)
        (.runtimeError "draft backend returned a token outside the vocabulary")
      pure (evalTokens.take 1 ++ tokens)
  | _, _ => pure evalTokens

def commitDecision : Option SamplerDecisionV1 → ExecutorCall σ₀ σ₁ Unit
  | some decision => onSampler (Sampling.commit decision)
  | none => pure ()

/-- Both backends follow the coordinator, whatever they answer. -/
def commitStages (epoch stateCommit : Nat) (decision : Option SamplerDecisionV1) :
    ExecutorCall σ₀ σ₁ Unit := do
  let c0 ← submit0 setup .commit fun _ => setup.stage0.commit epoch stateCommit
  let c1 ← submit1 setup .commit fun _ => setup.stage1.commit epoch stateCommit
  Proc.settle c0
  Proc.settle c1
  commitDecision decision

def loggedLogits (kind : TxnKind) (event : CommitEventV1) (output1 : StageOutput) :
    Option LogitSnapshotV1 :=
  if kind = .speculative then none
  else some ⟨event.epoch, event.target, event.kind, output1.nextToken, output1.logitsBf16⟩

def retainLogits (kind : TxnKind) (event : CommitEventV1) (output1 : StageOutput) :
    ExecutorCall σ₀ σ₁ Unit :=
  Proc.write fun world =>
    if setup.options.retainLastLogitsForDiagnostics then
      { world with coordinator := { world.coordinator with
          lastLogitSnapshot := loggedLogits kind event output1 } }
    else world

/-- How many rows both stages are asked to commit. -/
def stateCommit (txn : SessionTxnV1) (output1 : StageOutput) : Nat :=
  if txn.kind = .speculative then output1.stateCommitCount else txn.evaluatedCount

/-- What follows the seal: the coordinator's commit, and that of the stages. -/
def concludeTransaction (txn : SessionTxnV1) (output1 : StageOutput)
    (decision : Option SamplerDecisionV1) : ExecutorCall σ₀ σ₁ CommitEventV1 := do
  let coordinated ← Proc.read (·.coordinator.engine.txn.evaluatedCount)
  coordinate (failed "stage acknowledge failed: ") (acknowledge .stage0 txn.epoch coordinated)
  coordinate (failed "stage acknowledge failed: ") (acknowledge .stage1 txn.epoch coordinated)
  coordinate (failed "transaction decision failed: ")
    (Transaction.decide (stateCommit txn output1))
  let event ← coordinate (failed "coordinator commit failed: ") Transaction.commit
  Proc.catching (commitStages setup txn.epoch (stateCommit txn output1) decision) fun thrown => do
    poison
    Proc.throwing thrown
  retainLogits setup txn.kind event output1
  pure event

/-- From the shortening of a speculation to the last commit. -/
def finishTransaction (txn : SessionTxnV1) (verified : Nat) (retained : Bool)
    (output1 : StageOutput) (decision : Option SamplerDecisionV1) :
    ExecutorCall σ₀ σ₁ CommitEventV1 := do
  Proc.whenever (retained = true ∧ verified < txn.evaluatedCount)
    (coordinate (failed "speculative shortening failed: ") (shortenSpeculative verified))
  sealToken setup
  concludeTransaction setup txn output1 decision

/-- The body of the outer `try` of `run_transaction`. -/
def transact (txn : SessionTxnV1) (evalTokens : List Token) (chunkTokens : Nat)
    (retainedDraft : Option RetainedDraftRequest) :
    ExecutorCall σ₀ σ₁ (CommitEventV1 × StageOutput × List Token) := do
  let drafted ← submitDraft setup txn.epoch retainedDraft
  Proc.whenever (txn.kind = .appendKnown ∧ txn.evaluatedCount > chunkTokens) do
    let prefetch ← submit0 setup .prefetchTransaction fun cancellation =>
      setup.stage0.prefetchTransaction txn evalTokens cancellation
    Proc.settle prefetch
  let pending0 ← submitStage0 setup txn chunkTokens evalTokens 0
  let evalTokens ← installDrafts setup evalTokens retainedDraft drafted
  let (output1, verified) ← verifyRows setup txn chunkTokens retainedDraft.isSome evalTokens
    txn.evaluatedCount pending0
  ensureVocabulary setup output1.nextToken
    (.runtimeError "stage1 returned a token outside the vocabulary")
  let sampler ← Proc.read (·.coordinator.sampler)
  let (nextToken, decision) ← Proc.settle
    (resolveToken setup.options setup.select sampler txn.kind evalTokens output1)
  let output1 := truncateAtStop setup.options txn.kind evalTokens
    { output1 with nextToken := nextToken }
  let event ← finishTransaction setup txn verified retainedDraft.isSome output1 decision
  pure (event, output1, evalTokens)

def isInterruption : Thrown → Bool
  | .executionDeadlineExceeded | .executionCancelled => true
  | _ => false

/-- The handlers of `run_transaction`, which all rethrow. -/
def abandon (epoch : Nat) (thrown : Thrown) : ExecutorCall σ₀ σ₁ Unit := do
  let active ← Proc.read (·.coordinator.engine.active)
  Proc.whenever (active = true) (rollbackPrepared setup epoch)
  Proc.whenever (isInterruption thrown = false ∧ setup.options.backendFailureIsFatal = true) poison

def runTransaction (kind : TxnKind) (evalTokens : List Token) (chunkTokens : Nat)
    (appendedCount : Nat) (retainedDraft : Option RetainedDraftRequest) :
    ExecutorCall σ₀ σ₁ (CommitEventV1 × StageOutput × List Token) := do
  ensureHealthy
  poll setup
  Proc.ensure (evalTokens ≠ []) (.invalidArgument "cannot run an empty transaction")
  Proc.ensure (chunkTokens ≠ 0) (.invalidArgument "transaction chunk size is zero")
  Proc.ensure (retainedMismatch kind evalTokens chunkTokens retainedDraft = false)
    (.invalidArgument "retained draft extent differs from speculative transaction")
  let evaluated := toUInt32 evalTokens.length
  coordinate (failed "prepare failed: ")
    (if kind = .appendKnown then prepareAppendKnown appendedCount evaluated
     else prepare kind evaluated)
  let txn ← Proc.read (·.coordinator.engine.txn)
  Proc.catching (transact setup txn evalTokens chunkTokens retainedDraft) fun thrown => do
    abandon setup txn.epoch thrown
    Proc.throwing thrown

/-- `vector::at`. -/
def tokenAt (tokens : List Token) (index : Nat) : Except Thrown Token :=
  match tokens[index]? with
  | some token => .ok token
  | none => .error (.outOfRange "vector::_M_range_check")

/-- The rows of an append: the pending token, if there is one, and the new ones. -/
def withPending (tokens : List Token) (target pending : Nat) (tokenIds : List Token) :
    Except Thrown (List Token) :=
  if pending = 1 then
    match tokenAt tokens target with
    | .ok token => .ok (token :: tokenIds)
    | .error thrown => .error thrown
  else .ok tokenIds

def publish (published : List Token) : ExecutorCall σ₀ σ₁ Unit := do
  Proc.write fun world => { world with
    coordinator := { world.coordinator with tokens := world.coordinator.tokens ++ published } }
  onSampler (commitTokens published)

def remember (sample : Token) : ExecutorCall σ₀ σ₁ Unit :=
  Proc.write fun world => { world with
    coordinator := { world.coordinator with lastSample := sample } }

def append (tokenIds : List Token) : ExecutorCall σ₀ σ₁ Unit := do
  ensureHealthy
  poll setup
  Proc.ensure (tokenIds ≠ []) (.invalidArgument "cannot append zero tokens")
  Proc.ensure (tokenIds.all (inVocabulary setup.options.vocabSize) = true)
    (.invalidArgument "token is outside the configured vocabulary")
  let frontiers ← Proc.read (·.coordinator.engine.frontiers)
  let limit := setup.options.contextLimit.toNat
  Proc.ensure (¬ tokenIds.length > limit - min frontiers.canonical limit)
    (.lengthError "append exceeds the configured context limit")
  let pending := frontiers.canonical - frontiers.target
  Proc.ensure (¬ pending > 1) (.runtimeError "append has more than one pending token")
  let tokens ← Proc.read (·.coordinator.tokens)
  let evaluated ← Proc.settle (withPending tokens frontiers.target pending tokenIds)
  let (_, output1, _) ← runTransaction setup .appendKnown evaluated
    setup.options.appendChunkTokens.toNat (toUInt32 tokenIds.length) none
  publish tokenIds
  remember output1.nextToken
  Proc.write fun world => { world with
    coordinator := { world.coordinator with haveLastSample := true } }

def seedDecode : ExecutorCall σ₀ σ₁ Token := do
  ensureHealthy
  poll setup
  sealToken setup
  let coordinator ← Proc.read (·.coordinator)
  Proc.ensure (coordinator.haveLastSample = true)
    (.runtimeError "append must produce logits before decode seed")
  Proc.ensure (¬ coordinator.engine.frontiers.canonical ≥ setup.options.contextLimit.toNat)
    (.lengthError "decode seed exceeds the context limit")
  coordinate (failed "decode seed failed: ") seedDecodePending
  publish [coordinator.lastSample]
  pure coordinator.lastSample

def decodeOne : ExecutorCall σ₀ σ₁ DecodeResult := do
  ensureHealthy
  let frontiers ← Proc.read (·.coordinator.engine.frontiers)
  Proc.ensure (frontiers.canonical - frontiers.target = 1)
    (.runtimeError "decode requires exactly one pending token")
  Proc.ensure (¬ frontiers.canonical ≥ setup.options.contextLimit.toNat)
    (.lengthError "decode would exceed the context limit")
  let tokens ← Proc.read (·.coordinator.tokens)
  let pending ← Proc.settle (tokenAt tokens frontiers.target)
  let (event, output1, _) ← runTransaction setup .decode [pending] 1 0 none
  publish [output1.nextToken]
  remember output1.nextToken
  pure ⟨event, [output1.nextToken]⟩

/-- The drafting half of `speculative_step`, for a width that survived the cap. -/
def speculate (cappedDraft : Nat) : ExecutorCall σ₀ σ₁ DecodeResult := do
  let frontiers ← Proc.read (·.coordinator.engine.frontiers)
  let tokens ← Proc.read (·.coordinator.tokens)
  let pending ← Proc.settle (tokenAt tokens frontiers.target)
  let (event, output1, evalTokens) ← runTransaction setup .speculative
    (pending :: List.replicate cappedDraft 0) 1 0 (some ⟨pending, frontiers.target, cappedDraft⟩)
  let published := (evalTokens.drop 1).take (event.newlyPublished - 1) ++ [output1.nextToken]
  publish published
  remember output1.nextToken
  pure ⟨event, published⟩

def speculativeStep (maxDraft : Nat) : ExecutorCall σ₀ σ₁ DecodeResult := do
  ensureHealthy
  poll setup
  Proc.ensure (¬ maxDraft > kMaximumMtpDraftWidth)
    (.invalidArgument "MTP draft width exceeds 64")
  let sampled ← Proc.read (·.coordinator.sampler.sampled)
  if sampled = true ∨ maxDraft = 0 then decodeOne setup
  else do
    let frontiers ← Proc.read (·.coordinator.engine.frontiers)
    Proc.ensure (frontiers.canonical - frontiers.target = 1)
      (.runtimeError "speculative decode requires one pending token")
    Proc.ensure (¬ frontiers.canonical ≥ setup.options.contextLimit.toNat)
      (.lengthError "speculative decode would exceed the context limit")
    let remaining := setup.options.contextLimit.toNat - frontiers.canonical
    let cappedDraft := min maxDraft (remaining - 1)
    if cappedDraft = 0 then decodeOne setup else speculate setup cappedDraft

/-- The stage half of `reset_session`: both stages reset, the first failure is
the one thrown. -/
def resetStages : ExecutorCall σ₀ σ₁ Unit := do
  let reset0 ← submit0 setup .resetSession fun _ => setup.stage0.resetSession
  let reset1 ← submit1 setup .resetSession fun _ => setup.stage1.resetSession
  Proc.settle reset0
  Proc.settle reset1

def resetSession : ExecutorCall σ₀ σ₁ Unit := do
  ensureHealthy
  let active ← Proc.read (·.coordinator.engine.active)
  Proc.ensure (active = false) (.logicError "cannot reset an active executor transaction")
  Proc.catching (resetStages setup) fun thrown => do
    poison
    Proc.throwing thrown
  coordinate .logicError Transaction.reset
  Proc.write fun world => { world with coordinator := { world.coordinator with
    sampler := Sampling.reset world.coordinator.sampler
    tokens := []
    lastSample := -1
    haveLastSample := false
    lastLogitSnapshot := none } }

/-- The calls that write, each with its own token, as a writer request makes them. -/
inductive Operation where
  | append (tokenIds : List Token)
  | seedDecode
  | decodeOne
  | speculativeStep (maxDraft : Nat)
  | resetSession
  deriving DecidableEq, Repr

/-- One operation, answered with the tokens it returns to its caller. -/
def dispatch : Operation → ExecutorCall σ₀ σ₁ (List Token)
  | .append tokenIds => do
      append setup tokenIds
      pure []
  | .seedDecode => do
      let token ← seedDecode setup
      pure [token]
  | .decodeOne => do
      let result ← decodeOne setup
      pure result.publishedTokens
  | .speculativeStep maxDraft => do
      let result ← speculativeStep setup maxDraft
      pure result.publishedTokens
  | .resetSession => do
      resetSession setup
      pure []

def perform (operation : Operation) (cancellation : Option CancellationToken) :
    ExecutorCall σ₀ σ₁ (List Token) := do
  Proc.write fun world => { world with cancellation := cancellation }
  dispatch setup operation

end Calls

/-- `snapshot()`; the journal fills in the sequence, the clock and the extent. -/
def Coordinator.snapshot (coordinator : Coordinator) (identity : SessionIdentityV1) :
    Except Thrown StateSnapshotV1 :=
  if coordinator.engine.active then
    .error (.logicError "cannot snapshot an active transaction")
  else .ok {
    header := {
      identityChecksum := identity.identityChecksum
      frontiers := coordinator.engine.frontiers.toWords
      sampler := coordinator.sampler.state
      canonicalTokenCount := UInt64.ofNat coordinator.tokens.length
      canonicalChecksum := canonicalTokenChecksum coordinator.tokens
      lastSample := coordinator.lastSample
      flags := kSnapshotColdRebuild |||
        (if coordinator.haveLastSample then kSnapshotHasLastSample else 0) }
    canonicalTokens := coordinator.tokens }

/-- The options as the constructor completes them. -/
def completeOptions (options : ExecutorOptions) : ExecutorOptions :=
  let stops := (options.stopTokenIds.mergeSort fun left right => left ≤ right).dedup
  let identity := if options.identity.identityChecksum = 0 then
      makeDevelopmentIdentity options.sessionHash options.contextLimit options.sampling
    else options.identity
  { options with stopTokenIds := stops, identity := identity }

/-- The constructor: the completed options and the members at the start. -/
def makeExecutor (options : ExecutorOptions) (first second : Stage) :
    Except Thrown (ExecutorOptions × Coordinator) := do
  let sampler ← makeSampler options.vocabSize options.sampling
  if first ≠ .stage0 ∨ second ≠ .stage1 then
    .error (.invalidArgument "executor stage ownership is reversed")
  else if options.appendChunkTokens = 0 then
    .error (.invalidArgument "append chunk size must be nonzero")
  else if options.contextLimit = 0 then
    .error (.invalidArgument "context limit must be nonzero")
  else if options.vocabSize = 0 then
    .error (.invalidArgument "vocabulary size must be nonzero")
  else if !options.stopTokenIds.all (inVocabulary options.vocabSize) then
    .error (.invalidArgument "stop token is outside vocabulary")
  else
    let completed := completeOptions options
    let refusal := validateSessionIdentity completed.identity
    if refusal ≠ none ∨ completed.identity.sessionHash ≠ options.sessionHash ∨
        completed.identity.contextLimit ≠ options.contextLimit then
      .error (.invalidArgument ("executor session identity mismatch: " ++ refusal.getD ""))
    else .ok (completed, { engine := { sessionHash := options.sessionHash }, sampler := sampler })

end Q38.Executor
