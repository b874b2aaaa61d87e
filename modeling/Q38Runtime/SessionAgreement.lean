import Q38Runtime.ControlPlane
import Q38Runtime.PenaltyHistory
import Q38Runtime.WriterOutcomes

/-! The record of the control plane and the tokens of the executor. A call that is
answered kOk tells what the executor did; behind one that is not, the two may
differ, and only a reset that is answered brings them together again. -/
namespace Q38.ControlPlane
open Contracts Executor SessionModel StageContracts SessionRefinement ExecutorRuns ExecutorRpc
  Imperative

section Agreement
variable {σ₀ σ₁ : Type} (plane : Plane σ₀ σ₁)

/-- The canonical tokens of the executor, as Python integers. -/
def executorTokens (world : ControlWorld σ₀ σ₁) : List Int :=
  world.service.world.coordinator.tokens.map Int32.toInt

/-- The session record holds the executor's canonical tokens. -/
def Agrees (world : ControlWorld σ₀ σ₁) : Prop :=
  ∀ record, world.session = some record → record.canonicalTokens = executorTokens world

/-- The service is in order, and the next request id is new to it. -/
structure Steady (world : ControlWorld σ₀ σ₁) : Prop where
  serving : Serving plane.service world.service
  fresh : world.service.highestWriterRequestId.toNat < world.nextRequestId

variable {plane} {world after : ControlWorld σ₀ σ₁}

/-- What a request asks the executor for. -/
structure Packs (requestId : Nat) (opcode : ExecutorRpcOpcodeV1) (tokens : List Int)
    (request : ExecutorRpcRequestV1) : Prop where
  requestId : request.header.requestId.toNat = requestId
  opcode : request.header.opcode = opcode
  tokens : request.tokens.map Int32.toInt = tokens

theorem pack_token_int {token : Int} {packed : Token} (packs : packToken token = some packed) :
    packed.toInt = token := by
  unfold packToken at packs
  split at packs
  · next fits =>
      cases packs
      rw [Int32.toInt_ofInt_of_le fits.1 fits.2]
  · cases packs

theorem pack_tokens_int {tokens : List Int} {packed : List Token}
    (packs : tokens.mapM packToken = some packed) : packed.map Int32.toInt = tokens := by
  induction tokens generalizing packed with
  | nil =>
      cases packs
      rfl
  | cons token rest ih =>
      rw [List.mapM_cons] at packs
      simp only [Option.pure_def, Option.bind_eq_bind, Option.bind_eq_some_iff,
        Option.some.injEq] at packs
      obtain ⟨first, head, others, tail, rfl⟩ := packs
      rw [List.map_cons, pack_token_int head, ih tail]

theorem pack_request_packs {sessionHash : UInt64} {requestId : Nat}
    {opcode : ExecutorRpcOpcodeV1} {tokens : List Int} {argument0 argument1 timeoutMs : Nat}
    {request : ExecutorRpcRequestV1}
    (packed : packRequest sessionHash requestId opcode tokens argument0 argument1 timeoutMs =
      some request) : Packs requestId opcode tokens request := by
  unfold packRequest at packed
  simp only [Option.bind_eq_bind, Option.bind_eq_some_iff] at packed
  obtain ⟨values, packs, packed⟩ := packed
  split at packed
  · next fits =>
      cases packed
      refine ⟨?_, rfl, pack_tokens_int packs⟩
      change (UInt64.ofNat requestId).toNat = requestId
      rw [UInt64.toNat_ofNat', Nat.mod_eq_of_lt fits.1]
  · cases packed

theorem handle_highest (setup : ServiceSetup σ₀ σ₁) (request : ExecutorRpcRequestV1)
    (service : Service σ₀ σ₁) :
    (handle setup request service).2.highestWriterRequestId = service.highestWriterRequestId ∨
      (handle setup request service).2.highestWriterRequestId = request.header.requestId := by
  unfold handle
  split
  · exact Or.inl rfl
  · split
    · exact Or.inl rfl
    · split
      · by_cases accepts : Accepts service request
        · right
          rw [handle_writer_accepted accepts]
          exact (@journal_writer_cache _ _ setup _ _).2
        · rcases @handle_writer_refused _ _ setup _ _ accepts with
            ⟨entry, -, -, -, same⟩ | ⟨response, same, -⟩ | ⟨-, -, same⟩
          · exact Or.inl (by rw [same])
          · exact Or.inl (by rw [same])
          · exact Or.inr (by rw [same]; rfl)
      · exact Or.inl rfl

/-- A writer request that passed every check of the service. -/
theorem handle_writer_ok {setup : ServiceSetup σ₀ σ₁} {request : ExecutorRpcRequestV1}
    {service : Service σ₀ σ₁} (writer : isWriterOpcode request.header.opcode = true)
    (built : Built setup.executor.options) (serving : Serving setup service)
    (fresh : service.highestWriterRequestId < request.header.requestId)
    (ok : (handle setup request service).1.header.status = .ok) :
    Acknowledged setup request service (handle setup request service).2
      (handle setup request service).1 := by
  unfold handle at ok ⊢
  split at ok
  · cases ok
  · next valid =>
      have busy : request.header.opcode ≠ .cancel := by
        intro cancel
        rw [cancel] at writer
        cases writer
      rw [if_neg busy, if_pos writer] at ok ⊢
      exact writer_acknowledged writer built serving fresh ok

/-- The state of a healthy executor. -/
theorem handle_state_ok {setup : ServiceSetup σ₀ σ₁} {request : ExecutorRpcRequestV1}
    {service : Service σ₀ σ₁} (read : request.header.opcode = .state)
    (ok : (handle setup request service).1.header.status = .ok) :
    (handle setup request service).2 = service ∧
      service.world.coordinator.poisoned = false ∧
      (handle setup request service).1.header.frontiers =
        service.world.coordinator.engine.frontiers := by
  unfold handle at ok ⊢
  split at ok
  · cases ok
  · simp only [read, reduceCtorEq, if_false, isWriterOpcode, Bool.false_eq_true] at ok ⊢
    refine ⟨trivial, ?_, rfl⟩
    by_contra poisoned
    have isolated : service.world.coordinator.poisoned = true := by simpa using poisoned
    simp [handleRead, isolated, refused, finalizeResponse] at ok

/-- A call that was answered kOk. -/
structure Answered (plane : Plane σ₀ σ₁) (opcode : ExecutorRpcOpcodeV1) (tokens : List Int)
    (world after : ControlWorld σ₀ σ₁) (response : ExecutorRpcResponseV1) : Prop where
  steady : Steady plane after
  session : after.session = world.session
  ok : response.header.status = .ok
  request : ∃ request : ExecutorRpcRequestV1, request.header.opcode = opcode ∧
    request.tokens.map Int32.toInt = tokens ∧
    world.service.highestWriterRequestId < request.header.requestId ∧
    handle plane.service request world.service = (response, after.service)

theorem call_ends (built : Built plane.service.executor.options) (steady : Steady plane world)
    (opcode : ExecutorRpcOpcodeV1) (tokens : List Int) (argument0 argument1 timeoutMs : Nat) :
    Ends (call plane opcode tokens argument0 argument1 timeoutMs)
      (fun response after => Steady plane after ∧ (response.header.status = .ok →
          Answered plane opcode tokens world after response))
      (fun _ after => Steady plane after) world := by
  obtain ⟨serving, fresh⟩ := steady
  unfold Ends call
  dsimp only
  split
  · exact ⟨serving, Nat.lt_succ_of_lt fresh⟩
  · next request packed =>
      have packs := pack_request_packs packed
      have steady : Steady plane { world with
          service := (handle plane.service request world.service).2
          nextRequestId := world.nextRequestId + 1
          calls := world.calls + 1 } := by
        refine ⟨handle_serving built serving, ?_⟩
        rcases handle_highest plane.service request world.service with same | same
        · simp only [same]
          exact Nat.lt_succ_of_lt fresh
        · simp only [same, packs.requestId]
          exact Nat.lt_succ_self _
      split
      · exact ⟨serving, Nat.lt_succ_of_lt fresh⟩
      · exact steady
      · refine ⟨steady, fun ok => ⟨steady, rfl, ok, request, packs.opcode, packs.tokens, ?_, rfl⟩⟩
        rw [UInt64.lt_iff_toNat_lt, packs.requestId]
        exact fresh

/-- A call and the check of its status, as every operation makes them. -/
theorem checked_call_ends {α : Type} (built : Built plane.service.executor.options)
    (steady : Steady plane world) (opcode : ExecutorRpcOpcodeV1) (tokens : List Int)
    (argument0 argument1 timeoutMs : Nat) (operation : String)
    {next : ExecutorRpcResponseV1 → ControlCall σ₀ σ₁ α}
    {returns : α → ControlWorld σ₀ σ₁ → Prop}
    (rest : ∀ response after, Answered plane opcode tokens world after response →
      Ends (next response) returns (fun _ after => Steady plane after) after) :
    Ends (do
        let response ← call plane opcode tokens argument0 argument1 timeoutMs
        let response ← requireOk response operation
        next response)
      returns (fun _ after => Steady plane after) world := by
  apply (call_ends built steady opcode tokens argument0 argument1 timeoutMs).chain
  rintro response after ⟨steady, answered⟩
  unfold requireOk
  simp only [ends_bind, ends_ensure]
  exact ⟨fun ok => rest response after (answered ok), fun _ => steady⟩

/-- What the executor did for a writer that was answered kOk. -/
theorem answered_acknowledged (built : Built plane.service.executor.options)
    (steady : Steady plane world) {opcode : ExecutorRpcOpcodeV1}
    (writer : isWriterOpcode opcode = true) {tokens : List Int} {response : ExecutorRpcResponseV1}
    (answered : Answered plane opcode tokens world after response) :
    ∃ request : ExecutorRpcRequestV1, request.header.opcode = opcode ∧
      request.tokens.map Int32.toInt = tokens ∧
      Acknowledged plane.service request world.service after.service response := by
  obtain ⟨request, same, packed, fresh, handled⟩ := answered.request
  have writes : isWriterOpcode request.header.opcode = true := by
    rw [same]
    exact writer
  have acknowledged := @handle_writer_ok _ _ plane.service request world.service writes built
    steady.serving fresh (by rw [handled]; exact answered.ok)
  rw [handled] at acknowledged
  exact ⟨request, same, packed, acknowledged⟩

/-- The canonical tokens behind an operation that returned. -/
def tokensBehind (tokens answer : List Token) : Operation → List Token
  | .append tokenIds => tokens ++ tokenIds
  | .resetSession => []
  | .seedDecode | .decodeOne | .speculativeStep _ => tokens ++ answer

theorem happens_tokens {options : ExecutorOptions} {select : Sampling.Selection}
    {session behind : Session} {operation : Operation} {answer : List Token}
    (happens : Happens unknownModel options select session operation answer behind) :
    behind.tokens = tokensBehind session.tokens answer operation := by
  cases happens with
  | transacted admitted asked done =>
      cases operation with
      | append tokenIds => rfl
      | seedDecode => cases asked
      | decodeOne => rfl
      | speculativeStep maxDraft => rfl
      | resetSession => cases asked
  | seedDecode admitted => rfl
  | resetSession => rfl

/-- The tokens of the executor moved as the response tells. -/
theorem answered_append (built : Built plane.service.executor.options)
    (steady : Steady plane world) {tokens : List Int} {response : ExecutorRpcResponseV1}
    (answered : Answered plane .append tokens world after response) :
    executorTokens after = executorTokens world ++ tokens := by
  obtain ⟨request, opcode, packed, acknowledged⟩ := answered_acknowledged built steady rfl answered
  have operation : writerOperation request = .append request.tokens := by
    simp [writerOperation, opcode]
  have moved := happens_tokens (operation ▸ acknowledged.happens)
  unfold executorTokens
  rw [← packed, ← List.map_append]
  exact congrArg (List.map Int32.toInt) moved

theorem answered_generated (built : Built plane.service.executor.options)
    (steady : Steady plane world) {opcode : ExecutorRpcOpcodeV1} {tokens : List Int}
    (generates : opcode = .seed ∨ opcode = .decode ∨ opcode = .speculative)
    {response : ExecutorRpcResponseV1}
    (answered : Answered plane opcode tokens world after response) :
    executorTokens after = executorTokens world ++ response.tokens.map Int32.toInt := by
  have writer : isWriterOpcode opcode = true := by
    rcases generates with rfl | rfl | rfl <;> rfl
  obtain ⟨request, same, -, acknowledged⟩ := answered_acknowledged built steady writer answered
  have moved := happens_tokens acknowledged.happens
  have grown : (sessionOf after.service.world.coordinator).tokens =
      (sessionOf world.service.world.coordinator).tokens ++ response.tokens := by
    rw [moved]
    rcases generates with rfl | rfl | rfl <;> simp only [writerOperation, same, tokensBehind]
  unfold executorTokens
  rw [← List.map_append]
  exact congrArg (List.map Int32.toInt) grown

theorem answered_reset (built : Built plane.service.executor.options)
    (steady : Steady plane world) {response : ExecutorRpcResponseV1}
    (answered : Answered plane .reset [] world after response) : executorTokens after = [] := by
  obtain ⟨request, opcode, -, acknowledged⟩ := answered_acknowledged built steady rfl answered
  have operation : writerOperation request = .resetSession := by
    simp [writerOperation, opcode]
  have moved := happens_tokens (operation ▸ acknowledged.happens)
  exact congrArg (List.map Int32.toInt) moved

/-- The state is read without moving anything. -/
theorem answered_state {response : ExecutorRpcResponseV1}
    (answered : Answered plane .state [] world after response) :
    after.service = world.service ∧ world.service.world.coordinator.poisoned = false ∧
      response.header.frontiers = world.service.world.coordinator.engine.frontiers := by
  obtain ⟨request, opcode, -, -, handled⟩ := answered.request
  have told := @handle_state_ok _ _ plane.service request world.service opcode
    (by rw [handled]; exact answered.ok)
  rw [handled] at told
  exact told

end Agreement

section Operations
variable {σ₀ σ₁ : Type} {plane : Plane σ₀ σ₁} {world after : ControlWorld σ₀ σ₁}
  {record grown : SessionRecord}

/-- The record was carried on: it agrees now exactly if it did before. -/
structure Follows (plane : Plane σ₀ σ₁) (record : SessionRecord) (world : ControlWorld σ₀ σ₁)
    (grown : SessionRecord) (after : ControlWorld σ₀ σ₁) : Prop where
  steady : Steady plane after
  session : after.session = some grown
  agrees : grown.canonicalTokens = executorTokens after ↔
    record.canonicalTokens = executorTokens world

theorem agrees_of_session (session : world.session = some record) :
    Agrees world ↔ record.canonicalTokens = executorTokens world := by
  constructor
  · exact fun agrees => agrees record session
  · intro same other held
    rw [session] at held
    cases held
    exact same

theorem Follows.agrees_iff (follows : Follows plane record world grown after)
    (session : world.session = some record) : Agrees after ↔ Agrees world := by
  rw [agrees_of_session follows.session, agrees_of_session session]
  exact follows.agrees

theorem reset_executor_ends (built : Built plane.service.executor.options)
    (steady : Steady plane world) (timeoutMs : Nat) :
    Ends (resetExecutor plane timeoutMs)
      (fun _ after => Steady plane after ∧ executorTokens after = [])
      (fun _ after => Steady plane after) world := by
  apply checked_call_ends built steady .reset [] 0 0 timeoutMs "reset"
  intro response after answered
  unfold verifyResetFrontiers
  rw [ends_ensure]
  exact ⟨fun _ => ⟨answered.steady, answered_reset built steady answered⟩,
    fun _ => answered.steady⟩

theorem verify_frontiers_ends (response : ExecutorRpcResponseV1) (expected : Nat)
    (steady : Steady plane world) :
    Ends (verifyExecutorFrontiers response expected)
      (fun _ after => after = world ∧ response.header.frontiers.canonical = expected)
      (fun _ after => Steady plane after) world := by
  unfold verifyExecutorFrontiers
  simp only [ends_bind, ends_ensure]
  exact ⟨fun level => ⟨fun _ => ⟨trivial, level.1⟩, fun _ => steady⟩, fun _ => steady⟩

theorem append_locked_ends (built : Built plane.service.executor.options)
    (steady : Steady plane world) (session : world.session = some record) (tokens : List Int)
    (timeoutMs : Nat) :
    Ends (appendLocked plane record tokens timeoutMs)
      (fun grown after => Follows plane record world grown after)
      (fun _ after => Steady plane after) world := by
  unfold appendLocked validateTokens
  rw [ends_bind, ends_ensure]
  refine ⟨fun _ => ?_, fun _ => steady⟩
  rw [ends_ite]
  constructor
  · intro _
    exact ⟨steady, session, Iff.rfl⟩
  · intro _
    unfold requireBudget
    rw [ends_bind, ends_ensure]
    refine ⟨fun _ => ?_, fun _ => steady⟩
    apply checked_call_ends built steady .append tokens 0 0 timeoutMs "append"
    intro response after answered
    apply (verify_frontiers_ends response _ answered.steady).chain
    rintro _ middle ⟨rfl, -⟩
    unfold storeRecord
    simp only [ends_bind, ends_write, ends_pure]
    refine ⟨⟨answered.steady.serving, answered.steady.fresh⟩, rfl, ?_⟩
    change record.canonicalTokens ++ tokens = executorTokens middle ↔ _
    rw [answered_append built steady answered, List.append_left_inj]

/-- Behind the reset, if there is one, the record agrees. -/
theorem matched_record_ends (built : Built plane.service.executor.options)
    (steady : Steady plane world) (session : world.session = some record) (history : List Int)
    (timeoutMs : Nat) :
    Ends (matchedRecord plane record history timeoutMs)
      (fun kept after => Steady plane after ∧ after.session = some kept ∧
        (kept.canonicalTokens = executorTokens after ↔
          (record.canonicalTokens = executorTokens world ∨ ¬ matching record history)))
      (fun _ after => Steady plane after) world := by
  unfold matchedRecord
  rw [ends_ite]
  constructor
  · intro same
    exact ⟨steady, session, by simp [same]⟩
  · intro differs
    unfold resetRecordLocked
    apply (reset_executor_ends built steady timeoutMs).chain
    rintro _ middle ⟨steady, cleared⟩
    unfold storeRecord
    simp only [ends_bind, ends_write, ends_pure]
    refine ⟨⟨steady.serving, steady.fresh⟩, trivial, ?_⟩
    exact iff_of_true cleared.symm (Or.inr differs)

/-- Only a history that does not continue the record resets the executor. -/
theorem append_full_history_ends (built : Built plane.service.executor.options)
    (steady : Steady plane world) (session : world.session = some record) (history : List Int)
    (timeoutMs : Nat) :
    Ends (appendFullHistoryLocked plane record history timeoutMs)
      (fun grown after => Steady plane after ∧ after.session = some grown ∧
        (grown.canonicalTokens = executorTokens after ↔
          (record.canonicalTokens = executorTokens world ∨ ¬ matching record history)))
      (fun _ after => Steady plane after) world := by
  unfold appendFullHistoryLocked validateTokens
  rw [ends_bind, ends_ensure]
  refine ⟨fun _ => ?_, fun _ => steady⟩
  rw [ends_bind, ends_ensure]
  refine ⟨fun _ => ?_, fun _ => steady⟩
  apply (matched_record_ends built steady session history timeoutMs).chain
  rintro kept middle ⟨steady, session, agrees⟩
  apply (append_locked_ends built steady session _ timeoutMs).chain
  rintro grown after ⟨steady, session, follows⟩
  unfold storeRecord
  simp only [ends_bind, ends_write, ends_pure]
  exact ⟨⟨steady.serving, steady.fresh⟩, trivial, follows.trans agrees⟩

theorem generation_request_opcode (mode : Mode) (mtpWidth canonical target remaining : Nat) :
    let opcode := (generationRequest mode mtpWidth canonical target remaining).1
    opcode = .seed ∨ opcode = .decode ∨ opcode = .speculative := by
  unfold generationRequest
  dsimp only
  split
  · exact Or.inl rfl
  · split
    · exact Or.inr (Or.inr rfl)
    · exact Or.inr (Or.inl rfl)

theorem read_state_ends (built : Built plane.service.executor.options)
    (steady : Steady plane world) :
    Ends (readState plane)
      (fun response after => Steady plane after ∧ after.service = world.service ∧
        world.service.world.coordinator.poisoned = false ∧
        response.header.frontiers = world.service.world.coordinator.engine.frontiers)
      (fun _ after => Steady plane after) world := by
  unfold readState
  apply (call_ends built steady .state [] 0 0 0).chain
  rintro response after ⟨steady, answered⟩
  unfold requireOk
  simp only [ends_bind, ends_ensure, ends_pure]
  exact ⟨fun ok => ⟨steady, answered_state (answered ok)⟩, fun _ => steady⟩

theorem generate_turn_ends (built : Built plane.service.executor.options)
    (steady : Steady plane world) (mode : Mode) (mtpWidth remaining timeoutMs : Nat) :
    Ends (generateTurn plane record mode mtpWidth remaining timeoutMs)
      (fun turn after => Follows plane record world turn.1 after)
      (fun _ after => Steady plane after) world := by
  unfold generateTurn
  apply (read_state_ends built steady).chain
  rintro state first ⟨read, same, -, -⟩
  apply (verify_frontiers_ends state _ read).chain
  rintro _ second ⟨rfl, -⟩
  have generates := generation_request_opcode mode mtpWidth state.header.frontiers.canonical
    state.header.frontiers.target remaining
  generalize generationRequest mode mtpWidth state.header.frontiers.canonical
    state.header.frontiers.target remaining = request at generates ⊢
  apply checked_call_ends built read request.1 [] request.2.1 request.2.2 timeoutMs
    "generate"
  intro response third answered
  unfold validateTokens
  rw [ends_bind, ends_ensure]
  refine ⟨fun _ => ?_, fun _ => answered.steady⟩
  rw [ends_bind, ends_ensure]
  refine ⟨fun _ => ?_, fun _ => answered.steady⟩
  apply (verify_frontiers_ends response _ answered.steady).chain
  rintro _ fourth ⟨rfl, -⟩
  unfold storeRecord
  simp only [ends_bind, ends_write, ends_pure]
  refine ⟨⟨answered.steady.serving, answered.steady.fresh⟩, rfl, ?_⟩
  have before : executorTokens second = executorTokens world := by
    rw [executorTokens, executorTokens, same]
  change record.canonicalTokens ++ response.tokens.map Int32.toInt = executorTokens fourth ↔ _
  rw [answered_generated built read generates answered, before, List.append_left_inj]

/-- However many events the caller takes. -/
theorem generate_loop_ends (built : Built plane.service.executor.options) (mode : Mode)
    (mtpWidth timeoutMs maxNewTokens demand generated : Nat) (steady : Steady plane world)
    (session : world.session = some record) :
    Ends (generateLoop plane mode mtpWidth timeoutMs maxNewTokens demand record generated)
      (fun _ after => ∃ grown, Follows plane record world grown after)
      (fun _ after => Steady plane after) world := by
  induction demand generalizing world record generated with
  | zero => exact ⟨record, steady, session, Iff.rfl⟩
  | succ demand ih =>
      unfold generateLoop
      rw [ends_ite]
      constructor
      · intro _
        apply (generate_turn_ends built steady mode mtpWidth _ timeoutMs).chain
        rintro ⟨grown, values⟩ middle follows
        dsimp only
        rw [ends_ite]
        constructor
        · intro _
          exact ⟨grown, follows⟩
        · intro _
          apply (ih _ follows.steady follows.session).chain
          rintro later after ⟨final, further⟩
          exact ⟨final, further.steady, further.session, further.agrees.trans follows.agrees⟩
      · intro _
        exact ⟨record, steady, session, Iff.rfl⟩

theorem generate_locked_ends (built : Built plane.service.executor.options)
    (steady : Steady plane world) (session : world.session = some record) (maxNewTokens : Nat)
    (mode : Mode) (mtpWidth timeoutMs demand : Nat) :
    Ends (generateLocked plane record maxNewTokens mode mtpWidth timeoutMs demand)
      (fun _ after => ∃ grown, Follows plane record world grown after)
      (fun _ after => Steady plane after) world := by
  unfold generateLocked requireBudget
  simp only [ends_bind, ends_ensure]
  exact ⟨fun _ => ⟨fun _ => ⟨fun _ => ⟨fun _ => ⟨fun _ => ⟨fun _ =>
    generate_loop_ends built mode mtpWidth timeoutMs maxNewTokens demand 0 steady session,
    fun _ => steady⟩, fun _ => steady⟩, fun _ => steady⟩, fun _ => steady⟩, fun _ => steady⟩,
    fun _ => steady⟩

theorem session_checked_ends (steady : Steady plane world) (sessionId : String) :
    Ends (sessionChecked sessionId)
      (fun record after => after = world ∧ world.session = some record ∧
        record.sessionId = sessionId)
      (fun _ after => Steady plane after) world := by
  unfold sessionChecked
  rw [ends_bind, ends_read]
  cases session : world.session with
  | none => exact steady
  | some record =>
      dsimp only
      rw [ends_bind, ends_ensure]
      exact ⟨fun same => ⟨rfl, rfl, same⟩, fun _ => steady⟩

/-- The operation drops what the executor holds before it does anything else. -/
def Resets (world : ControlWorld σ₀ σ₁) : ControlOperation → Prop
  | .replaceSession _ => True
  | .appendFullHistory _ history _ =>
      ∃ record, world.session = some record ∧ ¬ matching record history
  | .completeFullHistory _ history _ _ _ _ demand =>
      demand ≠ 0 ∧ ∃ record, world.session = some record ∧ ¬ matching record history
  | .createSession _ | .appendTokens .. | .generate .. => False

theorem create_session_ends (built : Built plane.service.executor.options)
    (steady : Steady plane world) (sessionId : String) :
    Ends (createSession plane sessionId)
      (fun _ after => Steady plane after ∧ Agrees after ∧ Agrees world)
      (fun _ after => Steady plane after) world := by
  unfold createSession
  rw [ends_bind, ends_read, ends_bind, ends_ensure]
  refine ⟨fun none => ?_, fun _ => steady⟩
  apply (read_state_ends built steady).chain
  rintro response after ⟨steady', same, healthy, frontiers⟩
  rw [ends_bind, ends_ensure]
  refine ⟨fun empty => ?_, fun _ => steady'⟩
  unfold storeRecord
  simp only [ends_bind, ends_write, ends_pure]
  refine ⟨⟨steady'.serving, steady'.fresh⟩, ?_, ?_⟩
  · rintro record ⟨⟩
    have settled := steady.serving.standing.resolve_left (by simp [healthy])
    have length : world.service.world.coordinator.tokens.length = 0 := by
      rw [← settled.consistent.canonical, ← frontiers]
      simp only [anyFrontier, Bool.or_eq_false_iff, bne_eq_false_iff_eq] at empty
      exact empty.1.1.1.1
    have cleared : executorTokens after = [] := by
      rw [executorTokens, same, List.length_eq_zero_iff.mp length, List.map_nil]
    exact cleared.symm
  · intro record held
    rw [none] at held
    cases held

theorem replace_session_ends (built : Built plane.service.executor.options)
    (steady : Steady plane world) (sessionId : String) :
    Ends (replaceSession plane sessionId)
      (fun _ after => Steady plane after ∧ Agrees after)
      (fun _ after => Steady plane after) world := by
  unfold replaceSession
  apply (reset_executor_ends built steady plane.defaultTimeoutMs).chain
  rintro _ after ⟨steady, cleared⟩
  unfold storeRecord
  simp only [ends_bind, ends_write, ends_pure]
  refine ⟨⟨steady.serving, steady.fresh⟩, ?_⟩
  rintro record ⟨⟩
  exact cleared.symm

/-- An operation that returns leaves the record in agreement exactly if it found
it so or reset the executor. -/
theorem operate_ends (built : Built plane.service.executor.options) (steady : Steady plane world)
    (operation : ControlOperation) :
    Ends (operate plane operation)
      (fun _ after => Steady plane after ∧
        (Agrees after ↔ (Agrees world ∨ Resets world operation)))
      (fun _ after => Steady plane after) world := by
  have carried {after : ControlWorld σ₀ σ₁} {operation : ControlOperation}
      {record grown : SessionRecord} (session : world.session = some record)
      (stays : ¬ Resets world operation) (follows : Follows plane record world grown after) :
      Steady plane after ∧ (Agrees after ↔ (Agrees world ∨ Resets world operation)) :=
    ⟨follows.steady, by rw [follows.agrees_iff session, or_iff_left stays]⟩
  have idle {operation : ControlOperation} (stays : ¬ Resets world operation) :
      Steady plane world ∧ (Agrees world ↔ (Agrees world ∨ Resets world operation)) :=
    ⟨steady, by rw [or_iff_left stays]⟩
  cases operation with
  | createSession sessionId =>
      apply (create_session_ends built steady sessionId).chain
      rintro _ after ⟨steady, agrees, before⟩
      exact ⟨steady, iff_of_true agrees (Or.inl before)⟩
  | replaceSession sessionId =>
      apply (replace_session_ends built steady sessionId).chain
      rintro _ after ⟨steady, agrees⟩
      exact ⟨steady, iff_of_true agrees (Or.inr trivial)⟩
  | appendTokens sessionId tokens timeoutMs =>
      unfold operate appendTokens
      rw [ends_bind]
      apply (session_checked_ends steady sessionId).chain
      rintro record _ ⟨rfl, session, -⟩
      apply (append_locked_ends built steady session tokens _).weaken _ fun _ _ failed => failed
      intro grown after follows
      exact carried session id follows
  | appendFullHistory sessionId history timeoutMs =>
      unfold operate appendFullHistory
      rw [ends_bind]
      apply (session_checked_ends steady sessionId).chain
      rintro record _ ⟨rfl, session, -⟩
      apply (append_full_history_ends built steady session history _).weaken _
        fun _ _ failed => failed
      rintro grown after ⟨steady, stored, agrees⟩
      refine ⟨steady, ?_⟩
      rw [agrees_of_session stored, agrees, agrees_of_session session]
      simp [Resets, session]
  | generate sessionId maxNewTokens mode mtpWidth timeoutMs demand =>
      unfold operate generate
      rw [ends_bind, ends_ite]
      constructor
      · intro _
        exact idle id
      · intro _
        apply (session_checked_ends steady sessionId).chain
        rintro record _ ⟨rfl, session, -⟩
        apply (generate_locked_ends built steady session maxNewTokens mode mtpWidth _
          demand).weaken _ fun _ _ failed => failed
        rintro _ after ⟨grown, follows⟩
        exact carried session id follows
  | completeFullHistory sessionId history maxNewTokens mode mtpWidth timeoutMs demand =>
      unfold operate completeFullHistory
      rw [ends_bind, ends_ite]
      constructor
      · intro none
        exact idle fun resets => resets.1 none
      · intro some_
        apply (session_checked_ends steady sessionId).chain
        rintro record _ ⟨rfl, session, -⟩
        apply (append_full_history_ends built steady session history _).chain
        rintro appended middle ⟨steady, stored, agrees⟩
        apply (generate_locked_ends built steady stored maxNewTokens mode mtpWidth _
          demand).weaken _ fun _ _ failed => failed
        rintro _ after ⟨grown, follows⟩
        refine ⟨follows.steady, ?_⟩
        rw [follows.agrees_iff stored, agrees_of_session stored, agrees,
          agrees_of_session session]
        simp [Resets, session, some_]

/-- The worlds a control plane operates through. -/
inductive Operates (plane : Plane σ₀ σ₁) (start : ControlWorld σ₀ σ₁) :
    ControlWorld σ₀ σ₁ → Prop
  | start : Operates plane start start
  | operation {world : ControlWorld σ₀ σ₁} (reached : Operates plane start world)
      (operation : ControlOperation) : Operates plane start (operate plane operation world).2

theorem operates_steady (built : Built plane.service.executor.options)
    {start : ControlWorld σ₀ σ₁} (begins : Steady plane start)
    (reached : Operates plane start world) : Steady plane world := by
  induction reached with
  | start => exact begins
  | @operation world reached operation ih =>
      have ended := operate_ends built ih operation
      rcases outcome : operate plane operation world with ⟨answer, after⟩
      unfold Ends at ended
      rw [outcome] at ended
      cases answer with
      | ok _ => exact ended.1
      | error raised => exact ended

/-- A new control plane over a new service. -/
structure Begins (plane : Plane σ₀ σ₁) (options : ExecutorOptions)
    (world : ControlWorld σ₀ σ₁) : Prop where
  made : makeExecutor options plane.service.executor.stage0.stage
      plane.service.executor.stage1.stage =
    .ok (plane.service.executor.options, world.service.world.coordinator)
  service : ∃ journal, world.service = makeService world.service.world journal
  session : world.session = none
  identified : 0 < world.nextRequestId

theorem begins_steady {options : ExecutorOptions} (begins : Begins plane options world) :
    Steady plane world := by
  have constructed := make_executor_constructed begins.made
  obtain ⟨journal, service⟩ := begins.service
  constructor
  · rw [service]
    exact ⟨Or.inr ⟨constructed.consistent, trivial, trivial⟩, rfl, rfl, nofun⟩
  · rw [service]
    exact begins.identified

end Operations

section Sample
open PenaltyHistory

/-- The response to the third call is lost. -/
def samplePlane : Plane Unit Unit where
  service := { executor := sampleSetup, sessionHash := 1 }
  sessionHash := 1
  contextLimit := 16
  vocabulary := 4
  fates call := if call = 2 then .responseLost else .answered

def sampleControl : ControlWorld Unit Unit where
  service := makeService sampleStart none
  nextRequestId := 1

theorem sample_begins : Begins samplePlane sampleOptions sampleControl :=
  ⟨made_sample, ⟨none, rfl⟩, rfl, by decide⟩

/-- The worlds of one run: a session, two tokens, a reset whose response is lost,
and an append that is found out. -/
def sampleCreated : ControlWorld Unit Unit :=
  (operate samplePlane (.createSession "s") sampleControl).2

def sampleAppended : ControlWorld Unit Unit :=
  (operate samplePlane (.appendTokens "s" [1, 2] none) sampleCreated).2

def sampleReset : ControlWorld Unit Unit :=
  (operate samplePlane (.replaceSession "t") sampleAppended).2

def sampleDiverged : ControlWorld Unit Unit :=
  (operate samplePlane (.appendTokens "s" [3, 3] none) sampleReset).2

end Sample

end Q38.ControlPlane
