import Q38Runtime.Backend
import Q38Runtime.PleHash
import Q38Runtime.StridedLoops

/-!
The read-ahead of the first CUDA stage. A reader thread cuts the rows of a
submitted text into tiles and keeps at most two of them ready; the stage takes
the tiles one by one while it executes the chunks of a transaction. Only what
decides about rows and tiles is kept of the stage: the kernels, the copies and
the contents of the rows are left out. Device calls are taken to succeed.
-/
namespace Q38.PleReadAhead
open Contracts Imperative PleHash StridedLoops

def kPrefillTile : Nat := 512
def kQ38PleRowsPerToken : Nat := 16

/-- Rows of the submitted row set. -/
structure Extent where
  firstRow : Nat
  rows : Nat
  deriving DecidableEq

section Reader

def kRowsPerTile : Nat := kPrefillTile * kQ38PleRowsPerToken

/-- The tiles that the reader thread makes of a row set, in order. -/
def tiles (rows : Nat) : List Extent :=
  (strided 0 kRowsPerTile rows).map fun first =>
    { firstRow := first, rows := min kRowsPerTile (rows - first) }

/-- What the mutex of the reader guards. `request` is a row set that the thread
has not picked up, `working` the tiles that it has yet to read. -/
structure PleAsyncReader where
  request : Option Nat
  working : Option (List Extent)
  readyTiles : List Extent
  resultReady : Bool
  failed : Bool
  totalRows : Nat
  deriving DecidableEq

/-- One step of the reader thread while nobody cancels it. -/
inductive ReaderStep : PleAsyncReader → PleAsyncReader → Prop
  | start (reader : PleAsyncReader) (rows : Nat) (asked : reader.request = some rows) :
      ReaderStep reader { reader with request := none, working := some (tiles rows) }
  | read (reader : PleAsyncReader) (tile : Extent) (rest : List Extent)
      (next : reader.working = some (tile :: rest)) (room : reader.readyTiles.length < 2) :
      ReaderStep reader
        { reader with working := some rest, readyTiles := reader.readyTiles ++ [tile] }
  | fail (reader : PleAsyncReader) (tile : Extent) (rest : List Extent)
      (next : reader.working = some (tile :: rest)) (room : reader.readyTiles.length < 2) :
      ReaderStep reader { reader with working := none, resultReady := true, failed := true }
  | finish (reader : PleAsyncReader) (done : reader.working = some []) :
      ReaderStep reader { reader with working := none, resultReady := true, failed := false }

abbrev ReaderRuns := Relation.ReflTransGen ReaderStep

def busy (reader : PleAsyncReader) : Bool :=
  reader.request.isSome || reader.working.isSome || reader.resultReady

def PleAsyncReader.submit (rows : List Row) : Proc Thrown PleAsyncReader Unit := do
  Proc.ensure (rows ≠ []) (.invalidArgument "PLE async row set is empty")
  let busy ← Proc.read busy
  Proc.ensure (busy = false) (.logicError "PLE async reader already has work")
  Proc.write fun reader =>
    { reader with request := some rows.length, failed := false, totalRows := rows.length }

/-- `cancel` waits for the thread, which stops at its next tile, and then drops
everything; a reader without work is left as it is. -/
def PleAsyncReader.cancel (reader : PleAsyncReader) : PleAsyncReader :=
  if busy reader then
    { request := none, working := none, readyTiles := [], resultReady := false, failed := false,
      totalRows := 0 }
  else reader

def stoppedEarly (reader : PleAsyncReader) : Thrown :=
  if reader.failed then .unknown else .runtimeError "PLE async reader stopped early"

/-- `take`, whose two waits let the reader thread run. There is no outcome
while a wait does not end. -/
inductive Take (wanted : Extent) : PleAsyncReader → Except Thrown Unit → PleAsyncReader → Prop
  | invalid (reader : PleAsyncReader)
      (outside : wanted.rows = 0 ∨ reader.totalRows < wanted.firstRow + wanted.rows) :
      Take wanted reader (.error (.invalidArgument "PLE async take extent is invalid")) reader
  | stopped (reader waited : PleAsyncReader)
      (inside : wanted.rows ≠ 0 ∧ wanted.firstRow + wanted.rows ≤ reader.totalRows)
      (runs : ReaderRuns reader waited) (result : waited.resultReady = true)
      (absent : ∀ tile ∈ waited.readyTiles.head?, tile.firstRow ≠ wanted.firstRow) :
      Take wanted reader (.error (stoppedEarly waited))
        { waited with resultReady := false, failed := false }
  | differs (reader waited : PleAsyncReader) (tile : Extent) (rest : List Extent)
      (inside : wanted.rows ≠ 0 ∧ wanted.firstRow + wanted.rows ≤ reader.totalRows)
      (runs : ReaderRuns reader waited) (front : waited.readyTiles = tile :: rest)
      (same : tile.firstRow = wanted.firstRow) (differ : tile.rows ≠ wanted.rows) :
      Take wanted reader (.error (.logicError "PLE async tile extent differs"))
        { waited with readyTiles := rest }
  | between (reader waited : PleAsyncReader) (rest : List Extent)
      (inside : wanted.rows ≠ 0 ∧ wanted.firstRow + wanted.rows ≤ reader.totalRows)
      (runs : ReaderRuns reader waited) (front : waited.readyTiles = wanted :: rest)
      (more : wanted.firstRow + wanted.rows ≠ waited.totalRows) :
      Take wanted reader (.ok ()) { waited with readyTiles := rest }
  | last (reader waited ended : PleAsyncReader) (rest : List Extent)
      (inside : wanted.rows ≠ 0 ∧ wanted.firstRow + wanted.rows ≤ reader.totalRows)
      (runs : ReaderRuns reader waited) (front : waited.readyTiles = wanted :: rest)
      (final : wanted.firstRow + wanted.rows = waited.totalRows)
      (finishes : ReaderRuns { waited with readyTiles := rest } ended)
      (result : ended.resultReady = true) :
      Take wanted reader (if ended.failed then .error .unknown else .ok ())
        { ended with resultReady := false, failed := false }

end Reader

section Extents

/-- Tokens of a transaction, by the offset of the first. -/
structure Slice where
  offset : Nat
  tokens : Nat
  deriving DecidableEq

/-- The chunks that the executor submits. -/
def chunks (chunkTokens evaluated : Nat) : List Slice :=
  (strided 0 chunkTokens evaluated).map fun offset =>
    { offset := offset, tokens := min chunkTokens (evaluated - offset) }

/-- The slices whose rows `run_tokens` asks for, in order. -/
def runTokens (kind : TxnKind) (chunk : Slice) : List Slice :=
  if kind = .appendKnown ∧ chunk.tokens > 1 then
    (strided 0 kPrefillTile chunk.tokens).map fun first =>
      { offset := chunk.offset + first, tokens := min kPrefillTile (chunk.tokens - first) }
  else (List.range chunk.tokens).map fun token => { offset := chunk.offset + token, tokens := 1 }

/-- Where the rows of a slice are in the row set. -/
def extentOf (tokenBase : Nat) (slice : Slice) : Extent where
  firstRow := (slice.offset - tokenBase) * kQ38PleRowsPerToken
  rows := slice.tokens * kQ38PleRowsPerToken

/-- What the stage takes while it executes an append: the row set is that of
the whole transaction, read ahead or submitted with its only chunk. -/
def appendTakes (chunkTokens evaluated : Nat) : List Extent :=
  ((chunks chunkTokens evaluated).flatMap (runTokens .appendKnown)).map (extentOf 0)

end Extents

section Stage

structure Options where
  hash : PleHashConfig
  maxTransactionTokens : Nat
  contextCapacity : Nat

/-- The part of the backend that the read-ahead and its checks look at. -/
structure Stage0 where
  reader : PleAsyncReader
  committedPleHash : PleHashState
  candidatePleHashes : List PleHashState
  pleReadActive : Bool
  pleReadRows : List Row
  pleReadTokenBase : Nat
  pleReadEpoch : Nat
  committedFrontier : Nat
  committedEpoch : Nat
  provisionalEpoch : Nat
  provisionalBase : Nat
  provisionalExpected : Nat
  provisionalProcessed : Nat
  provisionalKind : TxnKind
  provisionalTokens : List Token
  speculativeCheckpointCount : Nat
  statesActive : Bool

variable (options : Options)

def onReader (call : Proc Thrown PleAsyncReader Unit) : Proc Thrown Stage0 Unit :=
  Proc.within Stage0.reader (fun reader stage => { stage with reader := reader }) call

def hashRows (state : PleHashState) (tokens : List Token) :
    Proc Thrown Stage0 (List Row × PleHashState) := fun stage =>
  match rows options.hash state tokens with
  | some hashed => (.ok hashed, stage)
  | none => (.error (.runtimeError "PLE hash token is outside vocabulary"), stage)

def startPlePrefetch (txn : SessionTxnV1) (tokens : List Token) : Proc Thrown Stage0 Unit := do
  let stage ← Proc.read id
  Proc.ensure (txn.kind = .appendKnown ∧ txn.status = .prepared ∧ txn.epoch ≠ 0 ∧
    stage.committedEpoch < txn.epoch ∧ txn.baseTarget = stage.committedFrontier ∧
    tokens.length = txn.evaluatedCount ∧ tokens ≠ [] ∧
    options.maxTransactionTokens < tokens.length ∧ stage.provisionalEpoch = 0 ∧
    stage.statesActive = false ∧ stage.pleReadActive = false)
    (.logicError "invalid PLE transaction read-ahead")
  let hashed ← hashRows options stage.committedPleHash tokens
  Proc.write fun stage =>
    { stage with pleReadRows := hashed.1, pleReadTokenBase := 0, pleReadEpoch := txn.epoch }
  onReader (PleAsyncReader.submit hashed.1)
  Proc.write fun stage => { stage with pleReadActive := true }

/-- The hash states after each token of a chunk. -/
def hashesAfter : PleHashState → List Token → List PleHashState
  | _, [] => []
  | state, token :: tokens => shift state token :: hashesAfter (shift state token) tokens

def startPleRead (tokens : List Token) (tokenOffset : Nat) : Proc Thrown Stage0 Unit := do
  let stage ← Proc.read id
  let candidate := stage.candidatePleHashes.getLastD stage.committedPleHash
  let hashed ← hashRows options candidate tokens
  Proc.write fun stage =>
    { stage with candidatePleHashes := stage.candidatePleHashes ++ hashesAfter candidate tokens }
  if stage.pleReadActive then
    Proc.ensure (stage.pleReadEpoch = stage.provisionalEpoch ∧
      stage.pleReadTokenBase ≤ tokenOffset)
      (.logicError "PLE read-ahead transaction differs")
    let first := (tokenOffset - stage.pleReadTokenBase) * kQ38PleRowsPerToken
    Proc.ensure (first + hashed.1.length ≤ stage.pleReadRows.length ∧
      (stage.pleReadRows.drop first).take hashed.1.length = hashed.1)
      (.logicError "PLE read-ahead rows differ")
  else
    Proc.write fun stage =>
      { stage with
        pleReadRows := hashed.1
        pleReadTokenBase := tokenOffset
        pleReadEpoch := stage.provisionalEpoch }
    onReader (PleAsyncReader.submit hashed.1)
    Proc.write fun stage => { stage with pleReadActive := true }

def drainPleRead (stage : Stage0) : Stage0 :=
  if stage.pleReadActive then
    { stage with
      reader := stage.reader.cancel
      pleReadActive := false
      pleReadRows := []
      pleReadTokenBase := 0
      pleReadEpoch := 0 }
  else stage

/-- `ensure_ple_ready`; its handler forgets the row set but leaves the reader. -/
inductive EnsurePleReady (slice : Slice) : Stage0 → Except Thrown Unit → Stage0 → Prop
  | inactive (stage : Stage0) (off : stage.pleReadActive = false) :
      EnsurePleReady slice stage (.ok ()) stage
  | unavailable (stage : Stage0) (on : stage.pleReadActive = true)
      (early : slice.offset < stage.pleReadTokenBase) :
      EnsurePleReady slice stage
        (.error (.logicError "PLE read-ahead range is unavailable")) stage
  | invalid (stage : Stage0) (on : stage.pleReadActive = true)
      (based : stage.pleReadTokenBase ≤ slice.offset)
      (outside : stage.pleReadRows.length <
        (extentOf stage.pleReadTokenBase slice).firstRow +
          (extentOf stage.pleReadTokenBase slice).rows) :
      EnsurePleReady slice stage (.error (.logicError "PLE read-ahead extent is invalid")) stage
  | refused (stage : Stage0) (reader : PleAsyncReader) (thrown : Thrown)
      (on : stage.pleReadActive = true) (based : stage.pleReadTokenBase ≤ slice.offset)
      (inside : (extentOf stage.pleReadTokenBase slice).firstRow +
        (extentOf stage.pleReadTokenBase slice).rows ≤ stage.pleReadRows.length)
      (takes : Take (extentOf stage.pleReadTokenBase slice) stage.reader (.error thrown) reader) :
      EnsurePleReady slice stage (.error thrown)
        { stage with reader := reader, pleReadActive := false, pleReadRows := [] }
  | served (stage : Stage0) (reader : PleAsyncReader)
      (on : stage.pleReadActive = true) (based : stage.pleReadTokenBase ≤ slice.offset)
      (inside : (extentOf stage.pleReadTokenBase slice).firstRow +
        (extentOf stage.pleReadTokenBase slice).rows ≤ stage.pleReadRows.length)
      (takes : Take (extentOf stage.pleReadTokenBase slice) stage.reader (.ok ()) reader) :
      EnsurePleReady slice stage (.ok ())
        (if (extentOf stage.pleReadTokenBase slice).firstRow +
            (extentOf stage.pleReadTokenBase slice).rows = stage.pleReadRows.length then
          { stage with
            reader := reader
            pleReadActive := false
            pleReadRows := []
            pleReadTokenBase := 0
            pleReadEpoch := 0 }
        else { stage with reader := reader })

/-- The body of `execute`: the rows of one slice after another. It may throw
anywhere: the cancellation is polled before every layer. -/
inductive RunSlices : List Slice → Stage0 → Except Thrown Unit → Stage0 → Prop
  | done (stage : Stage0) : RunSlices [] stage (.ok ()) stage
  | thrown (slices : List Slice) (stage : Stage0) (thrown : Thrown) :
      RunSlices slices stage (.error thrown) stage
  | refused (slice : Slice) (slices : List Slice) (stage after : Stage0) (thrown : Thrown)
      (ensures : EnsurePleReady slice stage (.error thrown) after) :
      RunSlices (slice :: slices) stage (.error thrown) after
  | next (slice : Slice) (slices : List Slice) (stage middle after : Stage0)
      (outcome : Except Thrown Unit) (ensures : EnsurePleReady slice stage (.ok ()) middle)
      (rest : RunSlices slices middle outcome after) :
      RunSlices (slice :: slices) stage outcome after

structure Input where
  txn : SessionTxnV1
  tokens : List Token
  chunkOffset : Nat
  finalChunk : Bool

def beginTransaction (input : Input) (stage : Stage0) : Stage0 :=
  { stage with
    provisionalEpoch := input.txn.epoch
    provisionalBase := input.txn.baseTarget
    provisionalExpected := input.txn.evaluatedCount
    provisionalProcessed := 0
    speculativeCheckpointCount := 0
    provisionalKind := input.txn.kind
    provisionalTokens := []
    candidatePleHashes := []
    statesActive := true }

/-- `execute` up to its `try`. -/
def acceptInput (input : Input) : Proc Thrown Stage0 Unit := do
  Proc.ensure (input.txn.magic = kTxnMagic ∧ input.txn.version = kContractVersion ∧
    input.txn.status = .prepared ∧ input.tokens ≠ [] ∧
    input.tokens.length ≤ options.maxTransactionTokens)
    (.runtimeError "CUDA backend received invalid transaction")
  Proc.ensure (input.chunkOffset + input.tokens.length ≤ input.txn.evaluatedCount ∧
    input.finalChunk =
      decide (input.chunkOffset + input.tokens.length = input.txn.evaluatedCount) ∧
    input.txn.baseTarget + input.txn.evaluatedCount ≤ options.contextCapacity)
    (.runtimeError "CUDA backend received invalid chunk extent")
  let stage ← Proc.read id
  if stage.provisionalEpoch = 0 then
    Proc.ensure (stage.committedEpoch < input.txn.epoch ∧ input.chunkOffset = 0 ∧
      input.txn.baseTarget = stage.committedFrontier)
      (.runtimeError "CUDA backend frontier/epoch mismatch")
    Proc.write (beginTransaction input)
  else
    Proc.ensure (input.txn.epoch = stage.provisionalEpoch ∧
      input.txn.baseTarget = stage.provisionalBase ∧
      input.txn.evaluatedCount = stage.provisionalExpected ∧
      input.txn.kind = stage.provisionalKind ∧
      input.chunkOffset = stage.provisionalProcessed ∧ stage.statesActive = true)
      (.runtimeError "CUDA backend chunk is not the next provisional range")
  startPleRead options input.tokens input.chunkOffset
  Proc.write fun stage =>
    { stage with provisionalTokens := stage.provisionalTokens ++ input.tokens }

/-- `execute` on stage 0. The token of the call is polled first, before its `try`. -/
inductive Execute (input : Input) : Stage0 → Except Thrown Unit → Stage0 → Prop
  | cancelled (stage : Stage0) (thrown : Thrown) : Execute input stage (.error thrown) stage
  | rejected (stage after : Stage0) (thrown : Thrown)
      (rejects : acceptInput options input stage = (.error thrown, after)) :
      Execute input stage (.error thrown) after
  | caught (stage ready after : Stage0) (thrown : Thrown)
      (accepts : acceptInput options input stage = (.ok (), ready))
      (runs : RunSlices (runTokens input.txn.kind ⟨input.chunkOffset, input.tokens.length⟩) ready
        (.error thrown) after) :
      Execute input stage (.error thrown) (drainPleRead after)
  | returned (stage ready after : Stage0)
      (accepts : acceptInput options input stage = (.ok (), ready))
      (runs : RunSlices (runTokens input.txn.kind ⟨input.chunkOffset, input.tokens.length⟩) ready
        (.ok ()) after) :
      Execute input stage (.ok ())
        { after with provisionalProcessed := after.provisionalProcessed + input.tokens.length }

def checkpointSpeculativePrefix (transactionEpoch prefixTokens : Nat) :
    Proc Thrown Stage0 Unit := do
  let stage ← Proc.read id
  Proc.ensure (stage.provisionalEpoch = transactionEpoch ∧ stage.provisionalKind = .speculative ∧
    stage.statesActive = true ∧ prefixTokens ≠ 0 ∧ prefixTokens = stage.provisionalProcessed ∧
    prefixTokens < stage.provisionalExpected)
    (.runtimeError "speculative prefix checkpoint is invalid")
  Proc.write fun stage => { stage with speculativeCheckpointCount := prefixTokens }

def endTransaction (epoch : Nat) (stage : Stage0) : Stage0 :=
  { stage with
    committedEpoch := epoch
    provisionalEpoch := 0
    provisionalExpected := 0
    provisionalProcessed := 0
    speculativeCheckpointCount := 0
    provisionalKind := .invalid
    provisionalTokens := []
    candidatePleHashes := []
    statesActive := false }

def onlineLookahead (stage : Stage0) (stateCommitCount : Nat) : Bool :=
  stage.provisionalKind = .speculative && stage.provisionalProcessed = stateCommitCount + 1 &&
    stage.speculativeCheckpointCount = stateCommitCount

def commitMatches (epoch stateCommitCount : Nat) (stage : Stage0) : Bool :=
  epoch = stage.provisionalEpoch && stage.statesActive && stateCommitCount ≠ 0 &&
    stateCommitCount ≤ stage.provisionalProcessed &&
    (stage.provisionalProcessed = stage.provisionalExpected ||
      stage.provisionalKind = .speculative && stage.provisionalProcessed = stateCommitCount &&
        stage.provisionalProcessed < stage.provisionalExpected ||
      onlineLookahead stage stateCommitCount)

/-- The rows to commit are to be evaluated once more. -/
def replays (stage : Stage0) (stateCommitCount : Nat) : Bool :=
  stateCommitCount < stage.provisionalProcessed && !onlineLookahead stage stateCommitCount

def restartRead (stateCommitCount : Nat) : Proc Thrown Stage0 Unit := do
  Proc.write fun stage => { drainPleRead stage with candidatePleHashes := [] }
  let stage ← Proc.read id
  startPleRead options (stage.provisionalTokens.take stateCommitCount) 0

def publish (epoch stateCommitCount : Nat) (stage : Stage0) : Stage0 :=
  { endTransaction epoch stage with
    committedPleHash :=
      stage.candidatePleHashes.getD (stateCommitCount - 1) stage.committedPleHash
    committedFrontier := stage.provisionalBase + stateCommitCount }

inductive Commit (epoch stateCommitCount : Nat) : Stage0 → Except Thrown Unit → Stage0 → Prop
  | refused (stage : Stage0) (differs : commitMatches epoch stateCommitCount stage = false) :
      Commit epoch stateCommitCount stage
        (.error (.runtimeError "CUDA backend commit does not match transaction")) stage
  | direct (stage : Stage0) (accepted : commitMatches epoch stateCommitCount stage = true)
      (once : replays stage stateCommitCount = false) :
      Commit epoch stateCommitCount stage (.ok ()) (publish epoch stateCommitCount stage)
  | unready (stage after : Stage0) (thrown : Thrown)
      (accepted : commitMatches epoch stateCommitCount stage = true)
      (again : replays stage stateCommitCount = true)
      (restarts : restartRead options stateCommitCount stage = (.error thrown, after)) :
      Commit epoch stateCommitCount stage (.error thrown) after
  | replayThrew (stage ready after : Stage0) (thrown : Thrown)
      (accepted : commitMatches epoch stateCommitCount stage = true)
      (again : replays stage stateCommitCount = true)
      (restarts : restartRead options stateCommitCount stage = (.ok (), ready))
      (runs : RunSlices (runTokens stage.provisionalKind ⟨0, stateCommitCount⟩) ready
        (.error thrown) after) :
      Commit epoch stateCommitCount stage (.error thrown) after
  | replayed (stage ready after : Stage0)
      (accepted : commitMatches epoch stateCommitCount stage = true)
      (again : replays stage stateCommitCount = true)
      (restarts : restartRead options stateCommitCount stage = (.ok (), ready))
      (runs : RunSlices (runTokens stage.provisionalKind ⟨0, stateCommitCount⟩) ready
        (.ok ()) after) :
      Commit epoch stateCommitCount stage (.ok ()) (publish epoch stateCommitCount after)

def rollback (epoch : Nat) : Proc Thrown Stage0 Unit := do
  let stage ← Proc.read id
  if stage.provisionalEpoch = 0 then
    Proc.ensure (stage.committedEpoch < epoch)
      (.runtimeError "CUDA backend rollback epoch is stale")
    Proc.write fun stage => { stage with committedEpoch := epoch }
  else
    Proc.ensure (epoch = stage.provisionalEpoch)
      (.runtimeError "CUDA backend rollback epoch mismatch")
    Proc.write (endTransaction epoch)

def resetSession : Proc Thrown Stage0 Unit := do
  let stage ← Proc.read id
  Proc.ensure (stage.provisionalEpoch = 0 ∧ stage.statesActive = false)
    (.logicError "cannot reset an active CUDA transaction")
  Proc.write fun stage =>
    { drainPleRead stage with
      committedPleHash := reset options.hash
      committedFrontier := 0
      committedEpoch := 0
      provisionalBase := 0
      candidatePleHashes := [] }

end Stage

section Protocol

/-- The transaction that the executor has open. -/
structure Open where
  txn : SessionTxnV1
  tokens : List Token
  chunkTokens : Nat
  offset : Nat
  readAhead : Bool
  failed : Bool

structure System where
  stage : Stage0
  active : Option Open

inductive Event where
  | reader
  | prepare
  | prefetch
  | execute
  | checkpoint
  | commit
  | rollback
  | reset
  deriving DecidableEq

/-- The whole of an append is read ahead when it takes more than one chunk. -/
def needsReadAhead (opened : Open) : Bool :=
  opened.txn.kind = .appendKnown && opened.chunkTokens < opened.tokens.length

def chunkCount (opened : Open) : Nat :=
  min opened.chunkTokens (opened.tokens.length - opened.offset)

/-- What a speculative chunk holds is known when its draft is. -/
def chunkInput (opened : Open) (tokens : List Token) : Input where
  txn := opened.txn
  tokens := if opened.txn.kind = .speculative then tokens
    else (opened.tokens.drop opened.offset).take (chunkCount opened)
  chunkOffset := opened.offset
  finalChunk := opened.offset + chunkCount opened = opened.tokens.length

def Open.fail (opened : Open) : Open := { opened with failed := true }

/-- `run_transaction` and the session reset as the first stage sees them. After
anything has failed, here or elsewhere, the transaction is rolled back; it may
be rolled back at any moment. A transaction whose commit throws is the last. -/
inductive Step (options : Options) : System → Event → System → Prop
  | reader (system : System) (after : PleAsyncReader)
      (step : ReaderStep system.stage.reader after) :
      Step options system .reader { system with stage := { system.stage with reader := after } }
  | prepare (system : System) (txn : SessionTxnV1) (tokens : List Token)
      (closed : system.active = none) (count : txn.evaluatedCount = tokens.length) :
      Step options system .prepare
        { system with
          active := some
            { txn := txn
              tokens := tokens
              chunkTokens := if txn.kind = .appendKnown then options.maxTransactionTokens else 1
              offset := 0
              readAhead := false
              failed := false } }
  | prefetchCancelled (system : System) (opened : Open) (active : system.active = some opened)
      (needed : needsReadAhead opened = true) (unread : opened.readAhead = false)
      (first : opened.offset = 0) (sound : opened.failed = false) :
      Step options system .prefetch { system with active := some opened.fail }
  | prefetchFailed (system : System) (opened : Open) (thrown : Thrown) (after : Stage0)
      (active : system.active = some opened) (needed : needsReadAhead opened = true)
      (unread : opened.readAhead = false) (first : opened.offset = 0)
      (sound : opened.failed = false)
      (threw : startPlePrefetch options opened.txn opened.tokens system.stage =
        (.error thrown, after)) :
      Step options system .prefetch { stage := after, active := some opened.fail }
  | prefetched (system : System) (opened : Open) (after : Stage0)
      (active : system.active = some opened) (needed : needsReadAhead opened = true)
      (unread : opened.readAhead = false) (first : opened.offset = 0)
      (sound : opened.failed = false)
      (started : startPlePrefetch options opened.txn opened.tokens system.stage =
        (.ok (), after)) :
      Step options system .prefetch
        { stage := after, active := some { opened with readAhead := true } }
  | executeFailed (system : System) (opened : Open) (tokens : List Token) (thrown : Thrown)
      (after : Stage0) (active : system.active = some opened)
      (reads : opened.readAhead = needsReadAhead opened) (sound : opened.failed = false)
      (more : opened.offset < opened.tokens.length)
      (count : (chunkInput opened tokens).tokens.length = chunkCount opened)
      (threw : Execute options (chunkInput opened tokens) system.stage (.error thrown) after) :
      Step options system .execute { stage := after, active := some opened.fail }
  | executed (system : System) (opened : Open) (tokens : List Token) (after : Stage0)
      (active : system.active = some opened)
      (reads : opened.readAhead = needsReadAhead opened) (sound : opened.failed = false)
      (more : opened.offset < opened.tokens.length)
      (count : (chunkInput opened tokens).tokens.length = chunkCount opened)
      (returned : Execute options (chunkInput opened tokens) system.stage (.ok ()) after) :
      Step options system .execute
        { stage := after
          active := some { opened with offset := opened.offset + chunkCount opened } }
  | checkpointFailed (system : System) (opened : Open) (thrown : Thrown) (after : Stage0)
      (active : system.active = some opened) (sound : opened.failed = false)
      (threw : checkpointSpeculativePrefix opened.txn.epoch opened.offset system.stage =
        (.error thrown, after)) :
      Step options system .checkpoint { stage := after, active := some opened.fail }
  | checkpointed (system : System) (opened : Open) (after : Stage0)
      (active : system.active = some opened) (sound : opened.failed = false)
      (returned : checkpointSpeculativePrefix opened.txn.epoch opened.offset system.stage =
        (.ok (), after)) :
      Step options system .checkpoint { system with stage := after }
  | commit (system : System) (opened : Open) (count : Nat) (after : Stage0)
      (active : system.active = some opened) (sound : opened.failed = false)
      (decided : count = opened.offset ∧
          (opened.offset = opened.tokens.length ∨ opened.txn.kind = .speculative) ∨
        opened.txn.kind = .speculative ∧ opened.offset = count + 1 ∧
          system.stage.speculativeCheckpointCount = count)
      (progress : 0 < opened.offset)
      (returned : Commit options opened.txn.epoch count system.stage (.ok ()) after) :
      Step options system .commit { stage := after, active := none }
  | rollback (system : System) (opened : Open) (after : Stage0)
      (active : system.active = some opened)
      (returned : rollback opened.txn.epoch system.stage = (.ok (), after)) :
      Step options system .rollback { stage := after, active := none }
  | reset (system : System) (after : Stage0) (closed : system.active = none)
      (returned : resetSession options system.stage = (.ok (), after)) :
      Step options system .reset { stage := after, active := none }

end Protocol

end Q38.PleReadAhead
