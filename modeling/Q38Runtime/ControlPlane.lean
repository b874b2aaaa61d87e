import Q38Runtime.ExecutorRpc

/-! `Q38ControlPlane` of `q38_control_plane.py` over the executor's service. The
writer lock is held for a whole operation, a generator's included, so operations
follow each other; a caller that drops a generator ends its operation there. Each
call of the transport meets a fate: the request may not arrive, and the response
may be lost after the executor has answered it. -/
namespace Q38.ControlPlane
open Contracts Executor ExecutorRpc Imperative

structure ControlPlaneError where
  status : Nat
  code : String
  message : String
  deriving DecidableEq, Repr

/-- What an operation raises: an error of its own, or what came out of a call. -/
inductive Raised where
  | controlPlane (error : ControlPlaneError)
  | transport
  deriving DecidableEq, Repr

inductive Fate where
  | answered
  | responseLost
  | requestLost
  deriving DecidableEq, Repr

/-- `canonicalTokens` are Python integers; the hashes over them are not kept. -/
structure SessionRecord where
  sessionId : String
  contextLimit : Nat
  model : String
  canonicalTokens : List Int := []
  revision : Nat := 0
  coldRebuild : Bool := false
  deriving DecidableEq, Repr

inductive Mode where
  | plain
  | mtp
  | unlisted (name : String)
  deriving DecidableEq, Repr

structure CommittedTokenEvent where
  tokenIds : List Int
  revision : Nat
  committedTokens : Nat
  remainingTokens : Int
  finishReason : Option String
  deriving DecidableEq, Repr

/-- The members the constructors fix, and the fates of the calls. -/
structure Plane (σ₀ σ₁ : Type) where
  service : ServiceSetup σ₀ σ₁
  sessionHash : UInt64
  contextLimit : Nat := 262144
  model : String := "Qwen3.8-Flash-Next"
  vocabulary : Int := 248320
  stopTokenIds : List Int := []
  defaultTimeoutMs : Nat := 3600000
  mtpEnabled : Bool := true
  mtpMaxDraft : Nat := 64
  fates : Nat → Fate

/-- The control plane, and the service behind its transport. -/
structure ControlWorld (σ₀ σ₁ : Type) where
  service : Service σ₀ σ₁
  session : Option SessionRecord := none
  nextRequestId : Nat
  calls : Nat := 0

section Transport
variable {σ₀ σ₁ : Type}

abbrev ControlCall (σ₀ σ₁ α : Type) := Proc Raised (ControlWorld σ₀ σ₁) α

def raising (status : Nat) (code message : String) : Raised :=
  .controlPlane ⟨status, code, message⟩

/-- `TOKEN.pack`. -/
def packToken (token : Int) : Option Token :=
  if -2 ^ 31 ≤ token ∧ token < 2 ^ 31 then some (Int32.ofInt token) else none

/-- The frame `Client.call` sends, where every field fits its format. -/
def packRequest (sessionHash : UInt64) (requestId : Nat) (opcode : ExecutorRpcOpcodeV1)
    (tokens : List Int) (argument0 argument1 timeoutMs : Nat) : Option ExecutorRpcRequestV1 := do
  let packed ← tokens.mapM packToken
  if requestId < 2 ^ 64 ∧ tokens.length < 2 ^ 32 ∧ argument0 < 2 ^ 32 ∧ argument1 < 2 ^ 32 ∧
      timeoutMs < 2 ^ 32 then
    some {
      header := {
        requestId := UInt64.ofNat requestId
        sessionHash := sessionHash
        opcode := opcode
        flags := if timeoutMs = 0 then 0 else 1
        tokenCount := UInt32.ofNat tokens.length
        argument0 := UInt32.ofNat argument0
        argument1 := UInt32.ofNat argument1
        timeoutMs := UInt32.ofNat timeoutMs
        payloadBytes := UInt64.ofNat (tokens.length * 4) }
      tokens := packed }
  else none

variable (plane : Plane σ₀ σ₁)

/-- `ExecutorTransport.call`. A response the client finds fault with is lost. -/
def call (opcode : ExecutorRpcOpcodeV1) (tokens : List Int) (argument0 argument1 timeoutMs : Nat) :
    ControlCall σ₀ σ₁ ExecutorRpcResponseV1 := fun world =>
  let reserved := { world with
    nextRequestId := world.nextRequestId + 1, calls := world.calls + 1 }
  match packRequest plane.sessionHash world.nextRequestId opcode tokens argument0 argument1
      timeoutMs with
  | none => (.error .transport, reserved)
  | some request =>
      let outcome := handle plane.service request world.service
      match plane.fates world.calls with
      | .requestLost => (.error .transport, reserved)
      | .responseLost => (.error .transport, { reserved with service := outcome.2 })
      | .answered => (.ok outcome.1, { reserved with service := outcome.2 })

def statusName : ExecutorRpcStatusV1 → String
  | .ok => "ok"
  | .badRequest => "bad_request"
  | .failedPrecondition => "failed_precondition"
  | .capacityExhausted => "capacity_exhausted"
  | .internal => "internal"
  | .poisoned => "poisoned"
  | .cancelled => "cancelled"
  | .deadlineExceeded => "deadline_exceeded"

def httpStatus : ExecutorRpcStatusV1 → Nat
  | .badRequest => 400
  | .failedPrecondition => 409
  | .capacityExhausted => 422
  | .poisoned => 503
  | .cancelled => 499
  | .deadlineExceeded => 504
  | .ok | .internal => 500

def requireOk (response : ExecutorRpcResponseV1) (operation : String) :
    ControlCall σ₀ σ₁ ExecutorRpcResponseV1 := do
  let status := response.header.status
  let told := if response.message.isEmpty then statusName status else response.message
  Proc.ensure (status = .ok) (raising (httpStatus status) ("executor_" ++ statusName status)
    (operation ++ " failed: " ++ told))
  pure response

def readState : ControlCall σ₀ σ₁ ExecutorRpcResponseV1 := do
  let response ← call plane .state [] 0 0 0
  requireOk response "state"

end Transport

/-- `any(response.frontiers[:5])`. -/
def anyFrontier (response : ExecutorRpcResponseV1) : Bool :=
  let frontiers := response.header.frontiers
  frontiers.canonical != 0 || frontiers.target != 0 || frontiers.stage0 != 0 ||
    frontiers.stage1 != 0 || frontiers.draft != 0

section Operations
variable {σ₀ σ₁ : Type} (plane : Plane σ₀ σ₁)

def storeRecord (record : SessionRecord) : ControlCall σ₀ σ₁ Unit :=
  Proc.write fun world => { world with session := some record }

def createSession (sessionId : String) : ControlCall σ₀ σ₁ SessionRecord := do
  let session ← Proc.read (·.session)
  Proc.ensure (session = none)
    (raising 409 "session_exists" "this executor already owns a live session")
  let response ← readState plane
  Proc.ensure (anyFrontier response = false) (raising 409 "executor_not_empty"
    "executor state is not empty; cold rebuild or a new executor is required")
  let created : SessionRecord := {
    sessionId := sessionId, contextLimit := plane.contextLimit, model := plane.model }
  storeRecord created
  pure created

def verifyResetFrontiers (response : ExecutorRpcResponseV1) : ControlCall σ₀ σ₁ Unit :=
  Proc.ensure (anyFrontier response = false)
    (raising 503 "reset_divergence" "executor reset did not clear every semantic frontier")

def resetExecutor (timeoutMs : Nat) : ControlCall σ₀ σ₁ Unit := do
  let response ← call plane .reset [] 0 0 timeoutMs
  let response ← requireOk response "reset"
  verifyResetFrontiers response

def replaceSession (sessionId : String) : ControlCall σ₀ σ₁ SessionRecord := do
  resetExecutor plane plane.defaultTimeoutMs
  let replacement : SessionRecord := {
    sessionId := sessionId, contextLimit := plane.contextLimit, model := plane.model
    revision := 1, coldRebuild := true }
  storeRecord replacement
  pure replacement

def sessionChecked (sessionId : String) : ControlCall σ₀ σ₁ SessionRecord := do
  let missing := raising 404 "session_not_found" "session not found"
  let session ← Proc.read (·.session)
  match session with
  | none => Proc.throwing missing
  | some record => do
      Proc.ensure (record.sessionId = sessionId) missing
      pure record

def validateTokens (tokens : List Int) : ControlCall σ₀ σ₁ Unit :=
  Proc.ensure (tokens.all (fun token => 0 ≤ token && token < plane.vocabulary) = true)
    (raising 400 "invalid_token" "token id is outside the model vocabulary")

def requireBudget (record : SessionRecord) (additional : Nat) : ControlCall σ₀ σ₁ Unit :=
  Proc.ensure (record.canonicalTokens.length + additional ≤ plane.contextLimit)
    (raising 422 "context_length_exceeded"
      "prompt plus requested generation exceeds the 262,144-token budget")

def verifyExecutorFrontiers (response : ExecutorRpcResponseV1) (expectedCanonical : Nat) :
    ControlCall σ₀ σ₁ Unit := do
  let frontiers := response.header.frontiers
  Proc.ensure (frontiers.canonical = expectedCanonical ∧ frontiers.stage0 = frontiers.target ∧
      frontiers.stage1 = frontiers.target)
    (raising 503 "frontier_divergence"
      "executor and control-plane frontiers diverged; session is isolated")
  Proc.ensure (frontiers.target = frontiers.canonical ∨
      frontiers.target = frontiers.canonical - 1)
    (raising 503 "frontier_divergence"
      "executor pending-token range violates the Q38 contract")

/-- `canonical_tokens.extend` and what goes with it. -/
def extended (record : SessionRecord) (values : List Int) : SessionRecord :=
  { record with
    canonicalTokens := record.canonicalTokens ++ values
    revision := record.revision + 1 }

def resetRecordLocked (record : SessionRecord) (timeoutMs : Nat) :
    ControlCall σ₀ σ₁ SessionRecord := do
  resetExecutor plane timeoutMs
  let cleared := { record with
    canonicalTokens := [], revision := record.revision + 1, coldRebuild := true }
  storeRecord cleared
  pure cleared

def appendLocked (record : SessionRecord) (tokens : List Int) (timeoutMs : Nat) :
    ControlCall σ₀ σ₁ SessionRecord := do
  validateTokens plane tokens
  if tokens = [] then pure record
  else do
    requireBudget plane record tokens.length
    let response ← call plane .append tokens 0 0 timeoutMs
    let response ← requireOk response "append"
    verifyExecutorFrontiers response (record.canonicalTokens.length + tokens.length)
    let grown := extended record tokens
    storeRecord grown
    pure grown

/-- `timeout_ms or self.default_timeout_ms`. -/
def effectiveTimeout (timeoutMs : Option Nat) : Nat :=
  match timeoutMs with
  | none | some 0 => plane.defaultTimeoutMs
  | some timeoutMs => timeoutMs

def appendTokens (sessionId : String) (tokens : List Int) (timeoutMs : Option Nat) :
    ControlCall σ₀ σ₁ SessionRecord := do
  let record ← sessionChecked sessionId
  appendLocked plane record tokens (effectiveTimeout plane timeoutMs)

/-- The history continues what the record holds. -/
def matching (record : SessionRecord) (history : List Int) : Prop :=
  record.canonicalTokens.length ≤ history.length ∧
    history.take record.canonicalTokens.length = record.canonicalTokens

instance (record : SessionRecord) (history : List Int) : Decidable (matching record history) :=
  inferInstanceAs (Decidable (_ ∧ _))

/-- A record the history does not continue is dropped. -/
def matchedRecord (record : SessionRecord) (history : List Int) (timeoutMs : Nat) :
    ControlCall σ₀ σ₁ SessionRecord :=
  if matching record history then pure record else resetRecordLocked plane record timeoutMs

def appendFullHistoryLocked (record : SessionRecord) (history : List Int) (timeoutMs : Nat) :
    ControlCall σ₀ σ₁ SessionRecord := do
  validateTokens plane history
  Proc.ensure (history.length ≤ plane.contextLimit)
    (raising 422 "context_length_exceeded" "prompt exceeds the 262,144-token budget")
  let kept ← matchedRecord plane record history timeoutMs
  let rebuilt := !matching record history ||
    (record.coldRebuild && record.canonicalTokens.isEmpty)
  let appended ← appendLocked plane kept (history.drop kept.canonicalTokens.length) timeoutMs
  let marked := { appended with coldRebuild := rebuilt }
  storeRecord marked
  pure marked

def appendFullHistory (sessionId : String) (history : List Int) (timeoutMs : Option Nat) :
    ControlCall σ₀ σ₁ SessionRecord := do
  let record ← sessionChecked sessionId
  appendFullHistoryLocked plane record history (effectiveTimeout plane timeoutMs)

/-- The request of one turn of the generation, and its two arguments. -/
def generationRequest (mode : Mode) (mtpWidth canonical target remaining : Nat) :
    ExecutorRpcOpcodeV1 × Nat × Nat :=
  if canonical = target then (.seed, 0, 0)
  else if mode = .mtp ∧ remaining > 1 then (.speculative, 1, min mtpWidth (remaining - 1))
  else (.decode, 1, 0)

/-- One turn: what the executor publishes is recorded. -/
def generateTurn (record : SessionRecord) (mode : Mode) (mtpWidth remaining timeoutMs : Nat) :
    ControlCall σ₀ σ₁ (SessionRecord × List Int) := do
  let state ← readState plane
  verifyExecutorFrontiers state record.canonicalTokens.length
  let request := generationRequest mode mtpWidth state.header.frontiers.canonical
    state.header.frontiers.target remaining
  let response ← call plane request.1 [] request.2.1 request.2.2 timeoutMs
  let response ← requireOk response "generate"
  Proc.ensure (¬ (response.tokens = [] ∨ response.tokens.length > remaining))
    (raising 503 "invalid_commit_event"
      "executor returned an empty or oversized committed token event")
  let values := response.tokens.map Int32.toInt
  validateTokens plane values
  verifyExecutorFrontiers response (record.canonicalTokens.length + values.length)
  let grown := extended record values
  storeRecord grown
  pure (grown, values)

def eventOf (record : SessionRecord) (values : List Int) (hitStop complete : Bool) :
    CommittedTokenEvent where
  tokenIds := values
  revision := record.revision
  committedTokens := record.canonicalTokens.length
  remainingTokens := plane.contextLimit - record.canonicalTokens.length
  finishReason := if hitStop then some "stop" else if complete then some "length" else none

/-- The loop of `_generate_locked`, for as many events as the caller takes. -/
def generateLoop (mode : Mode) (mtpWidth timeoutMs maxNewTokens : Nat) :
    Nat → SessionRecord → Nat → ControlCall σ₀ σ₁ (List CommittedTokenEvent)
  | 0, _, _ => pure []
  | demand + 1, record, generated =>
      if generated < maxNewTokens then do
        let (grown, values) ← generateTurn plane record mode mtpWidth (maxNewTokens - generated)
          timeoutMs
        let hitStop := values.any fun token => plane.stopTokenIds.contains token
        let total := generated + values.length
        let event := eventOf plane grown values hitStop (total == maxNewTokens)
        if hitStop then pure [event]
        else do
          let later ← generateLoop mode mtpWidth timeoutMs maxNewTokens demand grown total
          pure (event :: later)
      else pure []

def generateLocked (record : SessionRecord) (maxNewTokens : Nat) (mode : Mode)
    (mtpWidth timeoutMs demand : Nat) : ControlCall σ₀ σ₁ (List CommittedTokenEvent) := do
  Proc.ensure (maxNewTokens ≠ 0)
    (raising 400 "invalid_max_tokens" "max_new_tokens must be positive")
  Proc.ensure ((mode = .plain ∨ mode = .mtp) ∧ 1 ≤ mtpWidth ∧ mtpWidth ≤ 64)
    (raising 400 "invalid_generation_mode" "invalid mode/width")
  Proc.ensure (¬ (mode = .mtp ∧ plane.mtpEnabled = false))
    (raising 409 "mtp_disabled" "MTP is disabled for this executor")
  Proc.ensure (¬ (mode = .mtp ∧ mtpWidth > plane.mtpMaxDraft))
    (raising 400 "invalid_generation_mode" ("MTP draft width exceeds the configured " ++
      toString plane.mtpMaxDraft ++ "-token limit"))
  requireBudget plane record maxNewTokens
  Proc.ensure (record.canonicalTokens ≠ [])
    (raising 409 "empty_prompt" "generation requires a prompt")
  generateLoop plane mode mtpWidth timeoutMs maxNewTokens demand record 0

/-- A generator runs nothing before its first event is asked for. -/
def generate (sessionId : String) (maxNewTokens : Nat) (mode : Mode) (mtpWidth : Nat)
    (timeoutMs : Option Nat) (demand : Nat) : ControlCall σ₀ σ₁ (List CommittedTokenEvent) :=
  if demand = 0 then pure []
  else do
    let record ← sessionChecked sessionId
    generateLocked plane record maxNewTokens mode mtpWidth (effectiveTimeout plane timeoutMs)
      demand

def completeFullHistory (sessionId : String) (history : List Int) (maxNewTokens : Nat)
    (mode : Mode) (mtpWidth : Nat) (timeoutMs : Option Nat) (demand : Nat) :
    ControlCall σ₀ σ₁ (List CommittedTokenEvent) :=
  if demand = 0 then pure []
  else do
    let record ← sessionChecked sessionId
    let appended ← appendFullHistoryLocked plane record history (effectiveTimeout plane timeoutMs)
    generateLocked plane appended maxNewTokens mode mtpWidth (effectiveTimeout plane timeoutMs)
      demand

inductive ControlOperation where
  | createSession (sessionId : String)
  | replaceSession (sessionId : String)
  | appendTokens (sessionId : String) (tokens : List Int) (timeoutMs : Option Nat)
  | appendFullHistory (sessionId : String) (history : List Int) (timeoutMs : Option Nat)
  | generate (sessionId : String) (maxNewTokens : Nat) (mode : Mode) (mtpWidth : Nat)
      (timeoutMs : Option Nat) (demand : Nat)
  | completeFullHistory (sessionId : String) (history : List Int) (maxNewTokens : Nat)
      (mode : Mode) (mtpWidth : Nat) (timeoutMs : Option Nat) (demand : Nat)
  deriving DecidableEq, Repr

def operate : ControlOperation → ControlCall σ₀ σ₁ Unit
  | .createSession sessionId => do
      let _ ← createSession plane sessionId
      pure ()
  | .replaceSession sessionId => do
      let _ ← replaceSession plane sessionId
      pure ()
  | .appendTokens sessionId tokens timeoutMs => do
      let _ ← appendTokens plane sessionId tokens timeoutMs
      pure ()
  | .appendFullHistory sessionId history timeoutMs => do
      let _ ← appendFullHistory plane sessionId history timeoutMs
      pure ()
  | .generate sessionId maxNewTokens mode mtpWidth timeoutMs demand => do
      let _ ← generate plane sessionId maxNewTokens mode mtpWidth timeoutMs demand
      pure ()
  | .completeFullHistory sessionId history maxNewTokens mode mtpWidth timeoutMs demand => do
      let _ ← completeFullHistory plane sessionId history maxNewTokens mode mtpWidth timeoutMs
        demand
      pure ()

end Operations

end Q38.ControlPlane
