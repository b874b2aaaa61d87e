import Q38Runtime.ExecutorRuns

/-! `ExecutorRpcServiceV1` of `rpc.cc`. Writers are serialized, so a writer is
handled in one step; the cancel requests that reach it meanwhile are arrivals at
its token, and what they are answered is read off the states they found there. -/
namespace Q38.ExecutorRpc
open Contracts Cancellation Executor Snapshot FixedCodec Imperative

def kExecutorRpcMagic : UInt32 := fourcc 'Q' '3' '8' 'R'
def kExecutorRpcVersion : UInt16 := 1
def kExecutorRpcMaximumPayload : UInt64 := 64 * 1024 * 1024
def kExecutorRpcFlagDeadline : UInt32 := 1
def kMaximumStepsPerRequest : UInt32 := 1
def kMaximumTimeoutMs : UInt32 := 24 * 60 * 60 * 1000
def kMaximumCachedWriterResponses : Nat := 4096

inductive ExecutorRpcOpcodeV1 where
  | invalid
  | ping
  | state
  | append
  | seed
  | decode
  | speculative
  | stats
  | cancel
  | reset
  | logits
  | unlisted (value : UInt32)
  deriving DecidableEq, Repr

def ExecutorRpcOpcodeV1.code : ExecutorRpcOpcodeV1 → UInt32
  | .invalid => 0
  | .ping => 1
  | .state => 2
  | .append => 3
  | .seed => 4
  | .decode => 5
  | .speculative => 6
  | .stats => 7
  | .cancel => 8
  | .reset => 9
  | .logits => 10
  | .unlisted value => value

inductive ExecutorRpcStatusV1 where
  | ok
  | badRequest
  | failedPrecondition
  | capacityExhausted
  | internal
  | poisoned
  | cancelled
  | deadlineExceeded
  deriving DecidableEq, Repr

structure ExecutorRpcRequestHeaderV1 where
  magic : UInt32 := kExecutorRpcMagic
  version : UInt16 := kExecutorRpcVersion
  headerBytes : UInt16 := 56
  requestId : UInt64 := 0
  sessionHash : UInt64 := 0
  opcode : ExecutorRpcOpcodeV1 := .invalid
  flags : UInt32 := 0
  tokenCount : UInt32 := 0
  argument0 : UInt32 := 0
  argument1 : UInt32 := 0
  timeoutMs : UInt32 := 0
  payloadBytes : UInt64 := 0
  deriving DecidableEq, Repr

structure ExecutorRpcResponseHeaderV1 where
  magic : UInt32 := kExecutorRpcMagic
  version : UInt16 := kExecutorRpcVersion
  headerBytes : UInt16 := 96
  requestId : UInt64 := 0
  sessionHash : UInt64 := 0
  status : ExecutorRpcStatusV1 := .ok
  opcode : ExecutorRpcOpcodeV1 := .invalid
  tokenCount : UInt32 := 0
  messageBytes : UInt32 := 0
  payloadBytes : UInt64 := 0
  frontiers : SessionFrontiersV1 Nat := .fresh
  deriving DecidableEq, Repr

structure ExecutorRpcRequestV1 where
  header : ExecutorRpcRequestHeaderV1 := {}
  tokens : List Token := []
  deriving DecidableEq, Repr

structure ExecutorRpcResponseV1 where
  header : ExecutorRpcResponseHeaderV1 := {}
  tokens : List Token := []
  message : String := ""
  deriving DecidableEq, Repr

def validOpcode : ExecutorRpcOpcodeV1 → Bool
  | .invalid | .unlisted _ => false
  | _ => true

def isWriterOpcode : ExecutorRpcOpcodeV1 → Bool
  | .append | .seed | .decode | .speculative | .reset => true
  | _ => false

/-- The last switch of the validation: what each operation may carry. -/
def refusePayload (request : ExecutorRpcRequestV1) : Option String :=
  let header := request.header
  match header.opcode with
  | .append =>
      if request.tokens = [] then some "append RPC requires tokens"
      else if header.argument0 ≠ 0 ∨ header.argument1 ≠ 0 then
        some "append RPC arguments must be zero"
      else none
  | .decode =>
      if request.tokens ≠ [] ∨ header.argument0 = 0 ∨
          header.argument0 > kMaximumStepsPerRequest ∨ header.argument1 ≠ 0 then
        some "decode RPC arguments are invalid"
      else none
  | .speculative =>
      if request.tokens ≠ [] ∨ header.argument0 = 0 ∨
          header.argument0 > kMaximumStepsPerRequest ∨ header.argument1 = 0 ∨
          header.argument1.toNat > kMaximumMtpDraftWidth then
        some "speculative RPC arguments are invalid"
      else none
  | .logits =>
      if request.tokens ≠ [] ∨ header.argument0 > 1 ∨ header.argument1 ≠ 0 then
        some "logits RPC arguments are invalid"
      else none
  | .ping | .state | .seed | .stats | .cancel | .reset =>
      if request.tokens ≠ [] ∨ header.argument0 ≠ 0 ∨ header.argument1 ≠ 0 then
        some "executor RPC operation takes no payload"
      else none
  | .invalid | .unlisted _ => some "invalid executor RPC opcode"

def validateExecutorRpcRequest (request : ExecutorRpcRequestV1) (expectedSessionHash : UInt64) :
    Option String :=
  let header := request.header
  let deadline := header.flags &&& kExecutorRpcFlagDeadline ≠ 0
  if header.magic ≠ kExecutorRpcMagic then some "invalid executor RPC magic"
  else if header.version ≠ kExecutorRpcVersion ∨ header.headerBytes ≠ 56 then
    some "unsupported executor RPC version"
  else if header.sessionHash ≠ expectedSessionHash then some "executor RPC session does not match"
  else if header.requestId = 0 then some "executor RPC request id must be nonzero"
  else if !validOpcode header.opcode then some "invalid executor RPC opcode"
  else if header.flags &&& ~~~kExecutorRpcFlagDeadline ≠ 0 then
    some "executor RPC flags are invalid"
  else if isWriterOpcode header.opcode ∧ deadline ∧
      (header.timeoutMs = 0 ∨ header.timeoutMs > kMaximumTimeoutMs) then
    some "executor RPC timeout is invalid"
  else if isWriterOpcode header.opcode ∧ ¬ deadline ∧ header.timeoutMs ≠ 0 then
    some "executor RPC timeout requires deadline flag"
  else if ¬ isWriterOpcode header.opcode ∧ (header.flags ≠ 0 ∨ header.timeoutMs ≠ 0) then
    some "read/cancel RPC cannot carry a deadline"
  else if header.payloadBytes > kExecutorRpcMaximumPayload then
    some "executor RPC payload is too large"
  else if request.tokens.length ≠ header.tokenCount.toNat then
    some "executor RPC token count does not match payload"
  else if header.payloadBytes.toNat ≠ request.tokens.length * 4 then
    some "executor RPC payload byte count is invalid"
  else refusePayload request

structure RequestFingerprint where
  first : UInt64 := 1469598103934665603
  second : UInt64 := 1099511628211
  deriving DecidableEq, Repr

def fingerprintByte (fingerprint : RequestFingerprint) (byte : UInt8) : RequestFingerprint :=
  let first := (fingerprint.first ^^^ byte.toUInt64) * 1099511628211
  let sum := fingerprint.second + (byte.toUInt64 + 0x9e3779b97f4a7c15)
  ⟨first, (sum ^^^ (sum >>> 29)) * 0xbf58476d1ce4e5b9⟩

/-- The bytes `request_fingerprint` feeds in, field by field. -/
def fingerprintedBytes (request : ExecutorRpcRequestV1) : List UInt8 :=
  let header := request.header
  toBytes 8 header.sessionHash.toNat ++ toBytes 4 header.opcode.code.toNat ++
    toBytes 4 header.flags.toNat ++ toBytes 4 header.tokenCount.toNat ++
    toBytes 4 header.argument0.toNat ++ toBytes 4 header.argument1.toNat ++
    toBytes 4 header.timeoutMs.toNat ++ Codec.i32.encodeAll request.tokens

def requestFingerprint (request : ExecutorRpcRequestV1) : RequestFingerprint :=
  (fingerprintedBytes request).foldl fingerprintByte {}

structure CachedWriterResponse where
  requestId : UInt64
  fingerprint : RequestFingerprint
  response : ExecutorRpcResponseV1
  deriving DecidableEq, Repr

/-- What the service is built over, and what it meets: the disk and the clock of
the journal, and the texts of its two reports. -/
structure ServiceSetup (σ₀ σ₁ : Type) where
  executor : Setup σ₀ σ₁
  sessionHash : UInt64
  enableLogitDiagnostics : Bool := false
  disk : Nat → Disk := fun _ => .complete
  now : Nat → UInt64 := fun _ => 0
  metricsJson : World σ₀ σ₁ → String := fun _ => ""
  logitSnapshotJson : LogitSnapshotV1 → Bool → String := fun _ _ => ""

/-- `writerResponses` is the map and the order it is evicted in, oldest first. -/
structure Service (σ₀ σ₁ : Type) where
  world : World σ₀ σ₁
  highestWriterRequestId : UInt64 := 0
  writerResponses : List CachedWriterResponse := []
  publishedFrontiers : SessionFrontiersV1 Nat := .fresh
  publishedPoisoned : Bool := false
  snapshotJournal : Option SnapshotJournal := none

def responseBase (request : ExecutorRpcRequestV1) (sessionHash : UInt64) :
    ExecutorRpcResponseV1 :=
  { header := {
      requestId := request.header.requestId
      sessionHash := sessionHash
      opcode := request.header.opcode } }

def finalizeResponse (response : ExecutorRpcResponseV1) (frontiers : SessionFrontiersV1 Nat) :
    ExecutorRpcResponseV1 :=
  { response with header := { response.header with
      frontiers := frontiers
      tokenCount := UInt32.ofNat response.tokens.length
      messageBytes := UInt32.ofNat response.message.utf8ByteSize
      payloadBytes := UInt64.ofNat (response.tokens.length * 4 + response.message.utf8ByteSize) } }

def refused (response : ExecutorRpcResponseV1) (status : ExecutorRpcStatusV1) (message : String) :
    ExecutorRpcResponseV1 :=
  { response with header := { response.header with status := status }, message := message }

/-- `what()`; the last handler has no exception to ask. -/
def whatOf : Thrown → String
  | .executionDeadlineExceeded => "execution deadline exceeded"
  | .executionCancelled => "execution cancelled"
  | .lengthError what | .invalidArgument what | .outOfRange what | .logicError what
  | .overflowError what | .systemError what | .runtimeError what => what
  | .unknown => "unknown executor failure"

/-- The ladder of handlers behind a writer. -/
def statusOf (thrown : Thrown) (poisoned : Bool) : ExecutorRpcStatusV1 :=
  match thrown with
  | .executionDeadlineExceeded => .deadlineExceeded
  | .executionCancelled => .cancelled
  | .lengthError _ => .capacityExhausted
  | .invalidArgument _ => .badRequest
  | .outOfRange _ | .logicError _ => .failedPrecondition
  | .overflowError _ | .systemError _ | .runtimeError _ =>
      if poisoned then .poisoned else .internal
  | .unknown => .internal

def writerOperation (request : ExecutorRpcRequestV1) : Operation :=
  match request.header.opcode with
  | .append => .append request.tokens
  | .seed => .seedDecode
  | .decode => .decodeOne
  | .speculative => .speculativeStep request.header.argument1.toNat
  | _ => .resetSession

/-- What a Cancel request is answered that finds its writer active, with the
token in this state; the token follows the request. -/
def cancelAnswer : TokenState → ExecutorRpcStatusV1 × String
  | .active => (.ok, "cancellation requested")
  | .sealed => (.failedPrecondition, "writer passed its commit point")
  | .cancelled | .deadline => (.ok, "cancellation was already requested")

section Handle
variable {σ₀ σ₁ : Type} (setup : ServiceSetup σ₀ σ₁)

/-- The writer's turn on the executor. A reset is sealed by the service; between
the end of the call and the moment the writer is no longer active the token can
be met once more. -/
def runWriter (request : ExecutorRpcRequestV1) : ExecutorCall σ₀ σ₁ (List Token) := do
  let outcome ← Proc.attempt do
    Proc.write fun world => { world with
      cancellation := some { hasDeadline := request.header.timeoutMs != 0 } }
    Proc.whenever (request.header.opcode = .reset) do
      poll setup.executor
      sealToken setup.executor
    dispatch setup.executor (writerOperation request)
  onToken setup.executor fun _ => pure ()
  Proc.settle outcome

/-- The response to a writer the executor was handed. -/
def writerResponse (request : ExecutorRpcRequestV1) (outcome : Except Thrown (List Token))
    (poisoned : Bool) : ExecutorRpcResponseV1 :=
  let response := responseBase request setup.sessionHash
  match outcome with
  | .ok tokens => { response with
      tokens := tokens
      message := if request.header.opcode = .reset then "session state reset" else "" }
  | .error thrown => refused response (statusOf thrown poisoned) (whatOf thrown)

/-- `executor->fail_closed()`. -/
def failClosed (world : World σ₀ σ₁) : World σ₀ σ₁ :=
  { world with coordinator := { world.coordinator with poisoned := true } }

/-- The journal takes the state of every writer that was answered kOk. -/
def journalWriter (response : ExecutorRpcResponseV1) (service : Service σ₀ σ₁) :
    ExecutorRpcResponseV1 × Service σ₀ σ₁ :=
  match service.snapshotJournal with
  | none => (response, service)
  | some journal =>
      if response.header.status ≠ .ok then (response, service)
      else
        let clock := service.world.clock
        let isolated (thrown : Thrown) (journal : SnapshotJournal) :=
          ({ refused response .poisoned
                ("durable snapshot failed; session isolated: " ++ whatOf thrown) with
              tokens := [] },
            { service with world := failClosed service.world, snapshotJournal := some journal })
        match service.world.coordinator.snapshot setup.executor.options.identity with
        | .error thrown => isolated thrown journal
        | .ok snapshot =>
            match Snapshot.append (setup.now clock) (setup.disk clock) snapshot journal with
            | (.ok (), journal) => (response, { service with snapshotJournal := some journal })
            | (.error thrown, journal) => isolated thrown journal

/-- Remember a response, and forget the oldest one beyond the capacity. -/
def remember (entry : CachedWriterResponse) (responses : List CachedWriterResponse) :
    List CachedWriterResponse :=
  let grown := responses ++ [entry]
  if grown.length > kMaximumCachedWriterResponses then grown.drop 1 else grown

/-- The end of a writer: publish, forget the session a reset discarded, remember. -/
def publishWriter (request : ExecutorRpcRequestV1) (response : ExecutorRpcResponseV1)
    (service : Service σ₀ σ₁) : ExecutorRpcResponseV1 × Service σ₀ σ₁ :=
  let frontiers := service.world.coordinator.engine.frontiers
  let response := finalizeResponse response frontiers
  let kept := if request.header.opcode = .reset then [] else service.writerResponses
  (response, { service with
    publishedFrontiers := frontiers
    publishedPoisoned := service.world.coordinator.poisoned
    writerResponses :=
      remember ⟨request.header.requestId, requestFingerprint request, response⟩ kept })

def handleWriter (request : ExecutorRpcRequestV1) (service : Service σ₀ σ₁) :
    ExecutorRpcResponseV1 × Service σ₀ σ₁ :=
  let response := responseBase request setup.sessionHash
  match service.writerResponses.find? (·.requestId = request.header.requestId) with
  | some found =>
      if found.fingerprint = requestFingerprint request then (found.response, service)
      else (finalizeResponse (refused response .badRequest
        "request id was already used with different contents") service.publishedFrontiers, service)
  | none =>
      if request.header.requestId ≤ service.highestWriterRequestId then
        (finalizeResponse (refused response .failedPrecondition "writer request id is stale")
          service.publishedFrontiers, service)
      else
        let service := { service with highestWriterRequestId := request.header.requestId }
        if service.publishedPoisoned then
          publishWriter request (refused response .poisoned "executor is fail-closed") service
        else
          let outcome := runWriter setup request service.world
          let service := { service with world := outcome.2 }
          let journaled := journalWriter setup
            (writerResponse setup request outcome.1 outcome.2.coordinator.poisoned) service
          publishWriter request journaled.1 journaled.2

/-- A Cancel request that finds no active writer. -/
def handleCancel (request : ExecutorRpcRequestV1) (service : Service σ₀ σ₁) :
    ExecutorRpcResponseV1 :=
  let completed := service.writerResponses.any (·.requestId = request.header.requestId)
  finalizeResponse (refused (responseBase request setup.sessionHash) .failedPrecondition
    (if completed then "writer request already completed" else "writer request is not active"))
    service.publishedFrontiers

def handleRead (request : ExecutorRpcRequestV1) (service : Service σ₀ σ₁) :
    ExecutorRpcResponseV1 :=
  let response := responseBase request setup.sessionHash
  let coordinator := service.world.coordinator
  let answered :=
    if coordinator.poisoned then refused response .poisoned "executor is fail-closed"
    else match request.header.opcode with
      | .stats => { response with message := setup.metricsJson service.world }
      | .logits =>
          if !setup.enableLogitDiagnostics then
            refused response .failedPrecondition "logit diagnostics are disabled"
          else match coordinator.lastLogitSnapshot with
            | none => refused response .failedPrecondition
                "no committed target logit snapshot is available"
            | some snapshot => { response with
                message := setup.logitSnapshotJson snapshot (request.header.argument0 = 1) }
      | _ => response
  finalizeResponse answered coordinator.engine.frontiers

def handle (request : ExecutorRpcRequestV1) (service : Service σ₀ σ₁) :
    ExecutorRpcResponseV1 × Service σ₀ σ₁ :=
  match validateExecutorRpcRequest request setup.sessionHash with
  | some error => (finalizeResponse
      (refused (responseBase request setup.sessionHash) .badRequest error)
      service.publishedFrontiers, service)
  | none =>
      if request.header.opcode = .cancel then (handleCancel setup request service, service)
      else if isWriterOpcode request.header.opcode then handleWriter setup request service
      else (handleRead setup request service, service)

/-- The constructor, over a new executor. -/
def makeService (world : World σ₀ σ₁) (journal : Option SnapshotJournal) : Service σ₀ σ₁ where
  world := world
  publishedFrontiers := world.coordinator.engine.frontiers
  publishedPoisoned := world.coordinator.poisoned
  snapshotJournal := journal

end Handle

end Q38.ExecutorRpc
