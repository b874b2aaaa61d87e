import Q38Runtime.SessionAgreement

/-! The runs of `_generate_locked`, whatever stands behind the executor and whatever
becomes of its responses. What a request lets the executor publish is bounded by the
request itself, so it never exceeds what remains of the budget. -/
namespace Q38.GenerationRuns
open Contracts Executor SessionModel StageContracts SessionRefinement ExecutorRuns ExecutorRpc
  ControlPlane Imperative

/-- The most canonical tokens an operation adds. -/
def publishes : Operation → Nat
  | .append tokenIds => tokenIds.length
  | .seedDecode | .decodeOne => 1
  | .speculativeStep maxDraft => maxDraft + 1
  | .resetSession => 0

/-- The tokens grew by at most `count`. -/
def Grows (count : Nat) (before after : List Token) : Prop :=
  ∃ fresh, after = before ++ fresh ∧ fresh.length ≤ count

theorem grows_refl (count : Nat) (tokens : List Token) : Grows count tokens tokens :=
  ⟨[], by simp⟩

theorem grows_of_eq {count : Nat} {before after : List Token} (same : after = before) :
    Grows count before after :=
  same ▸ grows_refl count before

section Publication
variable {model : StageModel} {options : ExecutorOptions} {select : Sampling.Selection}
  {session behind : Session} {answer : List Token}

theorem fresh_length (rows : List Token) (count : Nat) (next : Token) :
    ((rows.drop 1).take (count - 1) ++ [next]).length ≤ (rows.length - 1) + 1 := by
  simp

theorem decode_rows {rows : List Token} (admitted : session.tokens.length = session.target + 1)
    (candidate : Candidate model options (decodeAttempt session) rows) : rows.length = 1 := by
  simp only [Candidate, decodeAttempt] at candidate
  rw [candidate, Session.pending, List.length_drop]
  omega

theorem speculative_rows {rows : List Token} {width : Nat}
    (candidate : Candidate model options (speculativeAttempt session width) rows) :
    rows.length ≤ width + 1 := by
  obtain ⟨drafts, -, installed, rfl⟩ := candidate
  simp only [installable, Bool.and_eq_true, beq_iff_eq] at installed
  simp only [List.length_append, List.length_take, installed.1]
  omega

theorem draft_width_le (options : ExecutorOptions) (session : Session) (maxDraft : Nat) :
    draftWidth options session maxDraft ≤ maxDraft := by
  unfold draftWidth
  split
  · exact Nat.zero_le _
  · exact Nat.min_le_left _ _

theorem happens_grows {operation : Operation} (moves : operation ≠ .resetSession)
    (happens : Happens model options select session operation answer behind) :
    Grows (publishes operation) session.tokens behind.tokens := by
  cases happens with
  | @transacted _ attempt rows count next decision admitted asked done =>
      refine ⟨freshOf rows count next operation, rfl, ?_⟩
      have bounded (width : Nat) (few : rows.length ≤ width + 1) :
          ((rows.drop 1).take (count - 1) ++ [next]).length ≤ width + 1 := by
        have := fresh_length rows count next
        omega
      cases operation with
      | append tokenIds => exact le_rfl
      | seedDecode => cases asked
      | decodeOne =>
          cases asked
          exact bounded 0 (decode_rows admitted.1 done.candidate).le
      | speculativeStep maxDraft =>
          simp only [attemptOf] at asked
          split at asked
          · cases asked
            have single := decode_rows admitted.2.1 done.candidate
            exact bounded maxDraft (by omega)
          · cases asked
            have wide := speculative_rows done.candidate
            have narrow := draft_width_le options session maxDraft
            exact bounded maxDraft (by omega)
      | resetSession => cases asked
  | seedDecode admitted => exact ⟨[session.lastSample], rfl, le_rfl⟩
  | resetSession => exact absurd rfl moves

end Publication

section Service
variable {σ₀ σ₁ : Type} {setup : ServiceSetup σ₀ σ₁} {request : ExecutorRpcRequestV1}
  {service : Service σ₀ σ₁}

theorem execution_grows (writer : isWriterOpcode request.header.opcode = true)
    (moves : writerOperation request ≠ .resetSession)
    (built : Built setup.executor.options)
    (settled : Settled (unknownPair setup.executor) service.world)
    (healthy : service.world.coordinator.poisoned = false) :
    Grows (publishes (writerOperation request)) service.world.coordinator.tokens
      (execution setup request service).2.coordinator.tokens := by
  have ended := run_writer_ends writer built settled healthy
  unfold execution
  unfold Ends at ended
  rcases run : runWriter setup request service.world with ⟨outcome, after⟩
  rw [run] at ended
  cases outcome with
  | ok answer => exact happens_grows moves ended.performed.happens
  | error thrown => exact grows_of_eq (aborted_keeps ended).1

theorem executed_tokens :
    (executed setup request service).2.world.coordinator.tokens =
      (execution setup request service).2.coordinator.tokens := by
  rcases @journal_writer_world _ _ setup _ _ with ⟨-, -, same⟩ | ⟨-, -, closed⟩
  · rw [executed, same]
  · rw [executed, closed]
    rfl

theorem handle_writer_grows (writer : isWriterOpcode request.header.opcode = true)
    (moves : writerOperation request ≠ .resetSession)
    (built : Built setup.executor.options) (serving : Serving setup service) :
    Grows (publishes (writerOperation request)) service.world.coordinator.tokens
      (handleWriter setup request service).2.world.coordinator.tokens := by
  by_cases accepts : Accepts service request
  · rw [handle_writer_accepted accepts]
    have healthy := accepts.2.2
    rw [serving.poisoned] at healthy
    have settled := serving.standing.resolve_left (by simp [healthy])
    change Grows _ _ (executed setup request service).2.world.coordinator.tokens
    rw [executed_tokens]
    exact execution_grows writer moves built settled healthy
  · apply grows_of_eq
    rcases @handle_writer_refused _ _ setup _ _ accepts with
      ⟨entry, -, -, -, same⟩ | ⟨response, same, -⟩ | ⟨-, -, same⟩
    · rw [same]
    · rw [same]
    · rw [same]
      rfl

/-- The requests of a generation. -/
def Generates (opcode : ExecutorRpcOpcodeV1) : Prop :=
  opcode = .seed ∨ opcode = .decode ∨ opcode = .speculative

theorem generates_writer {opcode : ExecutorRpcOpcodeV1} (generates : Generates opcode) :
    isWriterOpcode opcode = true := by
  rcases generates with rfl | rfl | rfl <;> rfl

theorem generates_moves (generates : Generates request.header.opcode) :
    writerOperation request ≠ .resetSession := by
  intro reset
  have resets := (reset_operation (generates_writer generates)).mp reset
  rw [resets] at generates
  rcases generates with other | other | other <;> cases other

theorem handle_grows (generates : Generates request.header.opcode)
    (built : Built setup.executor.options) (serving : Serving setup service) :
    Grows (publishes (writerOperation request)) service.world.coordinator.tokens
      (handle setup request service).2.world.coordinator.tokens := by
  unfold handle
  split
  · exact grows_refl _ _
  · split
    · exact grows_refl _ _
    · split
      · exact handle_writer_grows (generates_writer generates) (generates_moves generates) built
          serving
      · exact grows_refl _ _

theorem handle_read_service (read : request.header.opcode = .state) :
    (handle setup request service).2 = service := by
  unfold handle
  split
  · rfl
  · simp [read, isWriterOpcode]

end Service

section Turn
variable {σ₀ σ₁ : Type} {plane : Plane σ₀ σ₁} {world after : ControlWorld σ₀ σ₁}
  {record : SessionRecord}

/-- The most a request of a generation lets the executor publish. -/
def allowance (opcode : ExecutorRpcOpcodeV1) (argument1 : Nat) : Nat :=
  if opcode = .speculative then argument1 + 1 else 1

/-- The record stands, and the executor published at most `count` tokens. -/
structure Spent (count : Nat) (world after : ControlWorld σ₀ σ₁) : Prop where
  session : after.session = world.session
  executed : ∃ fresh, executorTokens after = executorTokens world ++ fresh ∧
    fresh.length ≤ count

theorem spent_of_service {count : Nat} (session : after.session = world.session)
    (service : after.service = world.service) : Spent count world after :=
  ⟨session, [], by simp [executorTokens, service], Nat.zero_le _⟩

theorem Spent.more {count larger : Nat} (spent : Spent count world after)
    (le : count ≤ larger) : Spent larger world after := by
  obtain ⟨session, fresh, executed, few⟩ := spent
  exact ⟨session, fresh, executed, few.trans le⟩

theorem pack_request_argument {sessionHash : UInt64} {requestId : Nat}
    {opcode : ExecutorRpcOpcodeV1} {tokens : List Int} {argument0 argument1 timeoutMs : Nat}
    {request : ExecutorRpcRequestV1}
    (packed : packRequest sessionHash requestId opcode tokens argument0 argument1 timeoutMs =
      some request) : request.header.argument1.toNat = argument1 := by
  unfold packRequest at packed
  simp only [Option.bind_eq_bind, Option.bind_eq_some_iff] at packed
  obtain ⟨values, packs, packed⟩ := packed
  split at packed
  · next fits =>
      cases packed
      change (UInt32.ofNat argument1).toNat = argument1
      rw [UInt32.toNat_ofNat', Nat.mod_eq_of_lt fits.2.2.2.1]
  · cases packed

theorem publishes_request {request : ExecutorRpcRequestV1} {opcode : ExecutorRpcOpcodeV1}
    {argument1 : Nat} (generates : Generates opcode) (same : request.header.opcode = opcode)
    (argument : request.header.argument1.toNat = argument1) :
    publishes (writerOperation request) = allowance opcode argument1 := by
  rcases generates with rfl | rfl | rfl <;>
    simp [writerOperation, same, publishes, allowance, argument]

theorem call_spends (built : Built plane.service.executor.options) (steady : Steady plane world)
    {opcode : ExecutorRpcOpcodeV1} (generates : Generates opcode) (tokens : List Int)
    (argument0 argument1 timeoutMs : Nat) :
    Ends (call plane opcode tokens argument0 argument1 timeoutMs)
      (fun _ after => Spent (allowance opcode argument1) world after)
      (fun _ after => Spent (allowance opcode argument1) world after) world := by
  unfold Ends call
  dsimp only
  split
  · exact spent_of_service rfl rfl
  · next request packed =>
      have same := (pack_request_packs packed).opcode
      obtain ⟨fresh, moved, few⟩ := @handle_grows _ _ plane.service request world.service
        (same ▸ generates) built steady.serving
      rw [publishes_request generates same (pack_request_argument packed)] at few
      have executed : ∃ fresh, executorTokens { world with
          service := (handle plane.service request world.service).2 } =
            executorTokens world ++ fresh ∧ fresh.length ≤ allowance opcode argument1 :=
        ⟨fresh.map Int32.toInt, by simp [executorTokens, moved], by simpa using few⟩
      split
      · exact spent_of_service rfl rfl
      · exact ⟨rfl, executed⟩
      · exact ⟨rfl, executed⟩

theorem read_state_stands (plane : Plane σ₀ σ₁) (world : ControlWorld σ₀ σ₁) :
    Ends (readState plane)
      (fun _ after => after.session = world.session ∧ after.service = world.service)
      (fun _ after => after.session = world.session ∧ after.service = world.service) world := by
  have asked : Ends (call plane .state [] 0 0 0)
      (fun _ after => after.session = world.session ∧ after.service = world.service)
      (fun _ after => after.session = world.session ∧ after.service = world.service) world := by
    unfold Ends call
    dsimp only
    split
    · exact ⟨rfl, rfl⟩
    · next request packed =>
        have same := @handle_read_service _ _ plane.service request world.service
          (pack_request_packs packed).opcode
        split
        · exact ⟨rfl, rfl⟩
        · exact ⟨rfl, same⟩
        · exact ⟨rfl, same⟩
  unfold readState
  apply asked.chain
  intro response after stands
  unfold requireOk
  simp only [ends_bind, ends_ensure, ends_pure]
  exact ⟨fun _ => stands, fun _ => stands⟩

theorem generation_request_generates (mode : Mode)
    (mtpWidth canonical target remaining : Nat) :
    Generates (generationRequest mode mtpWidth canonical target remaining).1 :=
  generation_request_opcode mode mtpWidth canonical target remaining

/-- A request lets the executor publish no more than remains. -/
theorem request_within_budget (mode : Mode) (mtpWidth canonical target : Nat) {remaining : Nat}
    (left : 0 < remaining) :
    allowance (generationRequest mode mtpWidth canonical target remaining).1
      (generationRequest mode mtpWidth canonical target remaining).2.2 ≤ remaining := by
  unfold generationRequest
  split
  · exact left
  · split
    · next speculates =>
        have narrow := Nat.min_le_right mtpWidth (remaining - 1)
        simp only [allowance, if_true]
        omega
    · exact left

/-- A turn that returned. -/
structure Turned (record : SessionRecord) (remaining : Nat) (world : ControlWorld σ₀ σ₁)
    (turn : SessionRecord × List Int) (after : ControlWorld σ₀ σ₁) : Prop where
  grown : turn.1 = extended record turn.2
  session : after.session = some turn.1
  published : turn.2 ≠ []
  within : turn.2.length ≤ remaining
  executed : executorTokens after = executorTokens world ++ turn.2

theorem generation_call_ends (built : Built plane.service.executor.options)
    (steady : Steady plane world) {opcode : ExecutorRpcOpcodeV1} (generates : Generates opcode)
    (argument0 argument1 timeoutMs : Nat) :
    Ends (call plane opcode [] argument0 argument1 timeoutMs)
      (fun response after => Spent (allowance opcode argument1) world after ∧
        (response.header.status = .ok →
          executorTokens after = executorTokens world ++ response.tokens.map Int32.toInt))
      (fun _ after => Spent (allowance opcode argument1) world after) world := by
  apply ((call_ends built steady opcode [] argument0 argument1 timeoutMs).both
    (call_spends built steady generates [] argument0 argument1 timeoutMs)).weaken
  · rintro response after ⟨⟨-, answered⟩, spent⟩
    exact ⟨spent, fun ok => answered_generated built steady generates (answered ok)⟩
  · exact fun _ _ facts => facts.2

theorem verify_frontiers_stands {throws : Raised → ControlWorld σ₀ σ₁ → Prop}
    (response : ExecutorRpcResponseV1) (expected : Nat)
    (thrown : ∀ raised, throws raised world) :
    Ends (verifyExecutorFrontiers response expected) (fun _ after => after = world) throws
      world := by
  unfold verifyExecutorFrontiers
  simp only [ends_bind, ends_ensure]
  exact ⟨fun _ => ⟨fun _ => trivial, fun _ => thrown _⟩, fun _ => thrown _⟩

theorem generate_turn_spends (built : Built plane.service.executor.options)
    (steady : Steady plane world) (mode : Mode) (mtpWidth timeoutMs : Nat) {remaining : Nat}
    (left : 0 < remaining) :
    Ends (generateTurn plane record mode mtpWidth remaining timeoutMs)
      (fun turn after => Turned record remaining world turn after)
      (fun _ after => Spent remaining world after) world := by
  unfold generateTurn
  have read : Ends (readState plane)
      (fun _ after => Steady plane after ∧ after.session = world.session ∧
        after.service = world.service)
      (fun _ after => Spent remaining world after) world := by
    apply ((read_state_ends built steady).both (read_state_stands plane world)).weaken
    · exact fun _ _ facts => ⟨facts.1.1, facts.2⟩
    · exact fun _ _ facts => spent_of_service facts.2.1 facts.2.2
  apply read.chain
  rintro state first ⟨steady, session, service⟩
  have still : executorTokens first = executorTokens world := by
    rw [executorTokens, executorTokens, service]
  apply (verify_frontiers_stands state _ fun _ => spent_of_service session service).chain
  rintro _ second rfl
  have generates := generation_request_generates mode mtpWidth
    state.header.frontiers.canonical state.header.frontiers.target remaining
  have fits := request_within_budget mode mtpWidth state.header.frontiers.canonical
    state.header.frontiers.target left
  generalize generationRequest mode mtpWidth state.header.frontiers.canonical
    state.header.frontiers.target remaining = request at generates fits ⊢
  have later {after : ControlWorld σ₀ σ₁}
      (spent : Spent (allowance request.1 request.2.2) second after) :
      Spent remaining world after := by
    obtain ⟨same, fresh, executed, few⟩ := spent
    exact ⟨same.trans session, fresh, by rw [executed, still], few.trans fits⟩
  have asked := generation_call_ends built steady generates request.2.1 request.2.2 timeoutMs
  apply (asked.weaken (fun _ _ facts => facts) fun _ _ spent => later spent).chain
  rintro response third ⟨spent, told⟩
  have spent := later spent
  unfold requireOk validateTokens storeRecord
  simp only [ends_bind, ends_ensure, ends_pure]
  refine ⟨fun ok => ⟨fun sized => ⟨fun listed => ?_, fun _ => spent⟩, fun _ => spent⟩,
    fun _ => spent⟩
  apply (verify_frontiers_stands response _ fun _ => spent).weaken
  · rintro _ _ rfl
    rw [ends_bind, ends_write, ends_pure]
    push Not at sized
    exact ⟨rfl, rfl, by simpa using sized.1, by simpa using sized.2, by
      rw [← still]
      exact told ok⟩
  · exact fun _ _ spent => spent

end Turn

section Run
variable {σ₀ σ₁ : Type} {plane : Plane σ₀ σ₁} {world after : ControlWorld σ₀ σ₁}
  {record : SessionRecord}

def eventTokens (events : List CommittedTokenEvent) : List Int :=
  events.flatMap CommittedTokenEvent.tokenIds

/-- The event contains a stop token of the control plane. -/
def hitsStop (plane : Plane σ₀ σ₁) (event : CommittedTokenEvent) : Bool :=
  event.tokenIds.any fun token => plane.stopTokenIds.contains token

def dueReason (plane : Plane σ₀ σ₁) (maxNewTokens total : Nat) (event : CommittedTokenEvent) :
    Option String :=
  if hitsStop plane event then some "stop" else if total = maxNewTokens then some "length" else none

/-- The events given by a loop that stood at `generated` when it began, and that was
asked for `demand` of them. -/
structure Generated (plane : Plane σ₀ σ₁) (record : SessionRecord)
    (maxNewTokens generated demand : Nat) (world : ControlWorld σ₀ σ₁)
    (events : List CommittedTokenEvent) (after : ControlWorld σ₀ σ₁) : Prop where
  recorded : ∃ grown, after.session = some grown ∧
    grown.canonicalTokens = record.canonicalTokens ++ eventTokens events
  executed : executorTokens after = executorTokens world ++ eventTokens events
  within : generated + (eventTokens events).length ≤ maxNewTokens
  published : ∀ event ∈ events, event.tokenIds ≠ []
  begun : generated < maxNewTokens → 0 < demand → events ≠ []
  reasons : ∀ done event rest, events = done ++ event :: rest →
    event.finishReason = dueReason plane maxNewTokens
      (generated + (eventTokens (done ++ [event])).length) event
  final : ∀ done event rest, events = done ++ event :: rest →
    (event.finishReason ≠ none → rest = []) ∧
      (rest = [] → done.length + 1 < demand → event.finishReason ≠ none)

/-- A loop that raised behind its first `events`. -/
structure Interrupted (maxNewTokens generated : Nat) (events : List CommittedTokenEvent)
    (middle after : ControlWorld σ₀ σ₁) : Prop where
  unfinished : ∀ event ∈ events, event.finishReason = none
  recorded : after.session = middle.session
  executed : ∃ fresh, executorTokens after = executorTokens middle ++ fresh ∧
    generated + (eventTokens events).length + fresh.length ≤ maxNewTokens

theorem event_tokens_cons (event : CommittedTokenEvent) (events : List CommittedTokenEvent) :
    eventTokens (event :: events) = event.tokenIds ++ eventTokens events := rfl

theorem generated_none {maxNewTokens generated demand : Nat}
    (session : world.session = some record) (within : generated ≤ maxNewTokens)
    (blocked : generated < maxNewTokens → ¬ 0 < demand) :
    Generated plane record maxNewTokens generated demand world [] world where
  recorded := ⟨record, session, by simp [eventTokens]⟩
  executed := by simp [eventTokens]
  within := by simpa [eventTokens] using within
  published := by simp
  begun left asked := (blocked left asked).elim
  reasons done event rest split := by simp at split
  final done event rest split := by simp at split

/-- The event of a turn. -/
def turnEvent (plane : Plane σ₀ σ₁) (maxNewTokens generated : Nat)
    (turn : SessionRecord × List Int) : CommittedTokenEvent :=
  eventOf plane turn.1 turn.2 (turn.2.any fun token => plane.stopTokenIds.contains token)
    (generated + turn.2.length == maxNewTokens)

theorem turn_event_reason (plane : Plane σ₀ σ₁) (maxNewTokens generated : Nat)
    (turn : SessionRecord × List Int) :
    (turnEvent plane maxNewTokens generated turn).finishReason =
      dueReason plane maxNewTokens (generated + turn.2.length)
        (turnEvent plane maxNewTokens generated turn) := by
  simp [turnEvent, eventOf, dueReason, hitsStop]

theorem generated_cons {maxNewTokens generated demand asked : Nat}
    {turn : SessionRecord × List Int} {middle : ControlWorld σ₀ σ₁}
    {later : List CommittedTokenEvent}
    (turned : Turned record (maxNewTokens - generated) world turn middle)
    (open_ : (turnEvent plane maxNewTokens generated turn).finishReason = none ∨ later = [])
    (more : later = [] → 0 < demand →
      (turnEvent plane maxNewTokens generated turn).finishReason ≠ none)
    (same : asked = demand ∨ later = [])
    (rest : Generated plane turn.1 maxNewTokens (generated + turn.2.length) asked middle later
      after) :
    Generated plane record maxNewTokens generated (demand + 1) world
      (turnEvent plane maxNewTokens generated turn :: later) after := by
  obtain ⟨⟨final, held, tokens⟩, executed, within, published, begun, reasons, last⟩ := rest
  have values : (turnEvent plane maxNewTokens generated turn).tokenIds = turn.2 := rfl
  constructor
  · refine ⟨final, held, ?_⟩
    rw [tokens, turned.grown, event_tokens_cons, values]
    simp [extended]
  · rw [executed, turned.executed, event_tokens_cons, values, List.append_assoc]
  · rw [event_tokens_cons, values, List.length_append]
    omega
  · intro event member
    rcases List.mem_cons.mp member with rfl | member
    · exact turned.published
    · exact published event member
  · simp
  · intro done event rest split
    cases done with
    | nil =>
        obtain ⟨rfl, rfl⟩ := List.cons.inj split
        simpa [eventTokens, values] using turn_event_reason plane maxNewTokens generated turn
    | cons head done =>
        obtain ⟨rfl, rfl⟩ := List.cons.inj split
        rw [reasons done event rest rfl, List.cons_append, event_tokens_cons, values,
          List.length_append, ← Nat.add_assoc]
  · intro done event rest split
    cases done with
    | nil =>
        obtain ⟨rfl, rfl⟩ := List.cons.inj split
        refine ⟨fun reason => open_.resolve_left reason, fun alone asked => more alone ?_⟩
        simpa using asked
    | cons head done =>
        obtain ⟨rfl, rfl⟩ := List.cons.inj split
        obtain ⟨ends, closes⟩ := last done event rest rfl
        refine ⟨ends, fun alone few => closes alone ?_⟩
        rw [same.resolve_right (by simp)]
        simpa using few

theorem generate_loop_continues {mode : Mode} {mtpWidth timeoutMs maxNewTokens generated : Nat}
    {turn : SessionRecord × List Int} {middle : ControlWorld σ₀ σ₁} {demand : Nat}
    {later : List CommittedTokenEvent} (less : generated < maxNewTokens)
    (turned : generateTurn plane record mode mtpWidth (maxNewTokens - generated) timeoutMs world =
      (.ok turn, middle))
    (goes : (turn.2.any fun token => plane.stopTokenIds.contains token) = false)
    (rest : generateLoop plane mode mtpWidth timeoutMs maxNewTokens demand turn.1
      (generated + turn.2.length) middle = (.ok later, after)) :
    generateLoop plane mode mtpWidth timeoutMs maxNewTokens (demand + 1) record generated world =
      (.ok (turnEvent plane maxNewTokens generated turn :: later), after) := by
  unfold generateLoop
  rw [if_pos less]
  change Proc.bind _ _ world = _
  unfold Proc.bind
  rw [turned]
  dsimp only
  rw [goes]
  change Proc.bind _ _ middle = _
  unfold Proc.bind
  rw [rest]
  simp only [turnEvent, goes]
  rfl

theorem generate_loop_full (mode : Mode) (mtpWidth timeoutMs demand : Nat)
    {maxNewTokens generated : Nat} (used : generated = maxNewTokens) :
    generateLoop plane mode mtpWidth timeoutMs maxNewTokens demand record generated world =
      (.ok [], world) := by
  cases demand with
  | zero => rfl
  | succ demand =>
      unfold generateLoop
      rw [if_neg (by omega)]
      rfl

theorem nothing_after_budget {maxNewTokens demand : Nat} {later : List CommittedTokenEvent}
    (rest : Generated plane record maxNewTokens maxNewTokens demand world later after) :
    later = [] := by
  cases later with
  | nil => rfl
  | cons event later =>
      have within := rest.within
      have some_ := List.length_pos_of_ne_nil (rest.published event List.mem_cons_self)
      rw [event_tokens_cons, List.length_append] at within
      omega

theorem interrupted_cons {maxNewTokens generated : Nat} {turn : SessionRecord × List Int}
    {middle : ControlWorld σ₀ σ₁} {events : List CommittedTokenEvent}
    (open_ : (turnEvent plane maxNewTokens generated turn).finishReason = none)
    (rest : Interrupted maxNewTokens (generated + turn.2.length) events middle after) :
    Interrupted maxNewTokens generated (turnEvent plane maxNewTokens generated turn :: events)
      middle after := by
  obtain ⟨unfinished, recorded, fresh, executed, few⟩ := rest
  refine ⟨?_, recorded, fresh, executed, ?_⟩
  · intro event member
    rcases List.mem_cons.mp member with rfl | member
    · exact open_
    · exact unfinished event member
  · rw [event_tokens_cons, List.length_append]
    change generated + (turn.2.length + _) + _ ≤ _
    omega

/-- Every outcome of the loop: its events, or those it had given when it raised. -/
theorem generate_loop_runs (built : Built plane.service.executor.options) (mode : Mode)
    (mtpWidth timeoutMs maxNewTokens demand generated : Nat) (steady : Steady plane world)
    (session : world.session = some record) (within : generated ≤ maxNewTokens) :
    Ends (generateLoop plane mode mtpWidth timeoutMs maxNewTokens demand record generated)
      (fun events after => Generated plane record maxNewTokens generated demand world events after)
      (fun _ after => ∃ events middle, events.length < demand ∧
        generateLoop plane mode mtpWidth timeoutMs maxNewTokens events.length record generated
          world = (.ok events, middle) ∧
        Interrupted maxNewTokens generated events middle after) world := by
  induction demand generalizing world record generated with
  | zero => exact generated_none session within fun _ => Nat.lt_irrefl 0
  | succ demand ih =>
      by_cases less : generated < maxNewTokens
      · have turn := ((@generate_turn_ends _ _ plane world record built steady mode mtpWidth
          (maxNewTokens - generated) timeoutMs).both
          (generate_turn_spends built steady mode mtpWidth timeoutMs
            (Nat.sub_pos_of_lt less))).both (ends_self _ world)
        unfold generateLoop
        rw [if_pos less]
        rw [ends_bind]
        apply turn.weaken
        · rintro turn middle ⟨⟨follows, turned⟩, run⟩
          have fits : generated + turn.2.length ≤ maxNewTokens := by
            have := turned.within
            omega
          dsimp only
          rw [ends_ite]
          constructor
          · intro stops
            have reason : (turnEvent plane maxNewTokens generated turn).finishReason ≠ none := by
              simp only [turnEvent, eventOf, stops, if_true]
              exact Option.some_ne_none _
            exact generated_cons turned (Or.inr rfl) (fun _ _ => reason) (Or.inr rfl)
              (generated_none follows.session fits fun _ => Nat.lt_irrefl 0)
          · intro goes
            have goes := eq_false_of_ne_true goes
            have reason : (turnEvent plane maxNewTokens generated turn).finishReason =
                if generated + turn.2.length = maxNewTokens then some "length" else none := by
              simp only [turnEvent, eventOf, goes, Bool.false_eq_true, if_false, beq_iff_eq]
            rw [ends_bind]
            apply ((ih _ follows.steady follows.session fits).both (ends_self _ middle)).weaken
            · rintro later after ⟨rest, -⟩
              rw [ends_pure]
              have event : eventOf plane turn.1 turn.2
                  (turn.2.any fun token => plane.stopTokenIds.contains token)
                  (generated + turn.2.length == maxNewTokens) =
                turnEvent plane maxNewTokens generated turn := rfl
              rw [event]
              by_cases used : generated + turn.2.length = maxNewTokens
              · have nothing : later = [] := nothing_after_budget (used ▸ rest)
                exact generated_cons turned (Or.inr nothing)
                  (fun _ _ => by simp [reason, used]) (Or.inl rfl) rest
              · have left : generated + turn.2.length < maxNewTokens := by omega
                exact generated_cons turned (Or.inl (by simp [reason, used]))
                  (fun none_ asked => (rest.begun left asked none_).elim) (Or.inl rfl) rest
            · rintro raised after ⟨⟨events, last, fewer, given_, interrupted⟩, threw⟩
              have open_ : (turnEvent plane maxNewTokens generated turn).finishReason = none := by
                rw [reason, if_neg]
                intro used
                rw [generate_loop_full mode mtpWidth timeoutMs demand used] at threw
                cases congrArg Prod.fst threw
              exact ⟨turnEvent plane maxNewTokens generated turn :: events, last,
                Nat.succ_lt_succ fewer, generate_loop_continues less run goes given_,
                interrupted_cons open_ interrupted⟩
        · rintro raised middle ⟨⟨-, spent⟩, -⟩
          obtain ⟨recorded, fresh, executed, few⟩ := spent
          refine ⟨[], world, Nat.succ_pos _, rfl, by simp, recorded, fresh, executed, ?_⟩
          simp only [eventTokens, List.flatMap_nil, List.length_nil]
          omega
      · unfold generateLoop
        rw [if_neg less]
        exact generated_none session within fun left => (less left).elim

/-- As many events as tokens are enough. -/
theorem generate_loop_finishes (built : Built plane.service.executor.options) (mode : Mode)
    (mtpWidth timeoutMs : Nat) {maxNewTokens demand generated : Nat} (more : Nat)
    (steady : Steady plane world) (session : world.session = some record)
    (enough : maxNewTokens ≤ generated + demand) :
    generateLoop plane mode mtpWidth timeoutMs maxNewTokens (demand + more) record generated world =
      generateLoop plane mode mtpWidth timeoutMs maxNewTokens demand record generated world := by
  induction demand generalizing world record generated with
  | zero =>
      have used : ¬ generated < maxNewTokens := by omega
      cases more with
      | zero => rfl
      | succ more =>
          rw [Nat.zero_add]
          exact congrFun (if_neg used) world
  | succ demand ih =>
      rw [Nat.add_right_comm]
      unfold generateLoop
      by_cases less : generated < maxNewTokens
      · rw [if_pos less, if_pos less]
        have turn := (@generate_turn_ends _ _ plane world record built steady mode mtpWidth
          (maxNewTokens - generated) timeoutMs).both
          (generate_turn_spends built steady mode mtpWidth timeoutMs (Nat.sub_pos_of_lt less))
        apply bind_agrees turn
        rintro turn middle ⟨follows, turned⟩
        have some_ := List.length_pos_of_ne_nil turned.published
        dsimp only
        apply ite_agrees
        · exact fun _ => rfl
        · intro _
          exact head_agrees (ih follows.steady follows.session (by omega))
      · rw [if_neg less, if_neg less]

end Run

section Claims
variable {σ₀ σ₁ : Type} {plane : Plane σ₀ σ₁} {world after : ControlWorld σ₀ σ₁}
  {record : SessionRecord}

/-- What `_generate_locked` checks before its first turn. -/
structure Accepted (plane : Plane σ₀ σ₁) (record : SessionRecord) (maxNewTokens : Nat)
    (mode : Mode) (mtpWidth : Nat) : Prop where
  positive : maxNewTokens ≠ 0
  listed : (mode = .plain ∨ mode = .mtp) ∧ 1 ≤ mtpWidth ∧ mtpWidth ≤ 64
  enabled : ¬ (mode = .mtp ∧ plane.mtpEnabled = false)
  narrow : ¬ (mode = .mtp ∧ mtpWidth > plane.mtpMaxDraft)
  budget : record.canonicalTokens.length + maxNewTokens ≤ plane.contextLimit
  prompted : record.canonicalTokens ≠ []

theorem ensure_bind {α : Type} (condition : Prop) [Decidable condition] (thrown : Raised)
    (next : Unit → ControlCall σ₀ σ₁ α) (world : ControlWorld σ₀ σ₁) :
    (Proc.ensure condition thrown >>= next) world =
      if condition then next () world else (.error thrown, world) := by
  change Proc.bind _ _ world = _
  unfold Proc.bind Proc.ensure
  by_cases holds : condition
  · simp only [if_pos holds]
    rfl
  · simp only [if_neg holds]
    rfl

theorem generate_locked_accepted {maxNewTokens mtpWidth : Nat} {mode : Mode}
    (accepted : Accepted plane record maxNewTokens mode mtpWidth) (timeoutMs demand : Nat)
    (world : ControlWorld σ₀ σ₁) :
    generateLocked plane record maxNewTokens mode mtpWidth timeoutMs demand world =
      generateLoop plane mode mtpWidth timeoutMs maxNewTokens demand record 0 world := by
  unfold generateLocked requireBudget
  rw [ensure_bind, if_pos accepted.positive, ensure_bind, if_pos accepted.listed, ensure_bind,
    if_pos accepted.enabled, ensure_bind, if_pos accepted.narrow, ensure_bind,
    if_pos accepted.budget, ensure_bind, if_pos accepted.prompted]

theorem events_le_tokens {events : List CommittedTokenEvent}
    (published : ∀ event ∈ events, event.tokenIds ≠ []) :
    events.length ≤ (eventTokens events).length := by
  induction events with
  | nil => exact Nat.le_refl 0
  | cons event events ih =>
      have some_ := List.length_pos_of_ne_nil (published event List.mem_cons_self)
      have rest := ih fun other member => published other (List.mem_cons_of_mem event member)
      rw [event_tokens_cons, List.length_append, List.length_cons]
      omega

/-- Taken to its end, a run gives its reason with its last event and with no other. -/
theorem reason_ends_run {maxNewTokens demand : Nat} {events : List CommittedTokenEvent}
    (run : Generated plane record maxNewTokens 0 demand world events after)
    (enough : maxNewTokens ≤ demand) {done rest : List CommittedTokenEvent}
    {event : CommittedTokenEvent} (split : events = done ++ event :: rest) :
    event.finishReason ≠ none ↔ rest = [] := by
  obtain ⟨ends, closes⟩ := run.final done event rest split
  constructor
  · exact ends
  · rintro rfl
    by_cases fewer : done.length + 1 < demand
    · exact closes rfl fewer
    · have long := events_le_tokens run.published
      have within := run.within
      rw [split] at long within
      rw [List.length_append, List.length_singleton] at long
      rw [run.reasons done event [] split, dueReason]
      split
      · exact Option.some_ne_none _
      · rw [if_pos (by omega)]
        exact Option.some_ne_none _

/-- A run taken to its end gives at most `maxNewTokens` tokens, which are what its
record and the executor grew by, and one reason, with its last event; a run that
raises gave none, and the executor never went beyond the budget. -/
theorem generation_runs {options : ExecutorOptions} {start : ControlWorld σ₀ σ₁}
    (begins : Begins plane options start) (reached : Operates plane start world)
    (session : world.session = some record) {maxNewTokens mtpWidth : Nat} {mode : Mode}
    (accepted : Accepted plane record maxNewTokens mode mtpWidth) (timeoutMs demand : Nat) :
    (maxNewTokens ≤ demand → ∀ more,
      generateLocked plane record maxNewTokens mode mtpWidth timeoutMs (demand + more) world =
        generateLocked plane record maxNewTokens mode mtpWidth timeoutMs demand world) ∧
    (∀ events after, generateLocked plane record maxNewTokens mode mtpWidth timeoutMs demand
        world = (.ok events, after) →
      Generated plane record maxNewTokens 0 demand world events after ∧
        (maxNewTokens ≤ demand → events ≠ [] ∧ ∀ done event rest,
          events = done ++ event :: rest → (event.finishReason ≠ none ↔ rest = []))) ∧
    (∀ raised after, generateLocked plane record maxNewTokens mode mtpWidth timeoutMs demand
        world = (.error raised, after) →
      ∃ events middle, events.length < demand ∧
        generateLocked plane record maxNewTokens mode mtpWidth timeoutMs events.length world =
          (.ok events, middle) ∧
        Interrupted maxNewTokens 0 events middle after) ∧
    ∀ canonical target remaining argument0 argument1,
      generationRequest mode mtpWidth canonical target remaining =
        (.speculative, argument0, argument1) → argument1 + 1 ≤ remaining := by
  have built := (make_executor_constructed begins.made).built
  have steady := operates_steady built (begins_steady begins) reached
  have ended := @generate_loop_runs _ _ plane world record built mode mtpWidth timeoutMs maxNewTokens
    demand 0 steady session (Nat.zero_le maxNewTokens)
  unfold Ends at ended
  refine ⟨?_, ?_, ?_, ?_⟩
  · intro enough more
    rw [generate_locked_accepted accepted, generate_locked_accepted accepted]
    exact generate_loop_finishes built mode mtpWidth timeoutMs more steady session (by omega)
  · intro events after run
    rw [generate_locked_accepted accepted] at run
    rw [run] at ended
    refine ⟨ended, fun enough => ⟨?_, fun done event rest split =>
      reason_ends_run ended enough split⟩⟩
    have positive := Nat.pos_of_ne_zero accepted.positive
    exact ended.begun positive (positive.trans_le enough)
  · intro raised after run
    rw [generate_locked_accepted accepted] at run
    rw [run] at ended
    obtain ⟨events, middle, fewer, given_, interrupted⟩ := ended
    refine ⟨events, middle, fewer, ?_, interrupted⟩
    rw [generate_locked_accepted accepted]
    exact given_
  · intro canonical target remaining argument0 argument1 request
    by_cases left : 0 < remaining
    · have fits := request_within_budget mode mtpWidth canonical target left
      simpa [request, allowance] using fits
    · have none_ : remaining = 0 := Nat.eq_zero_of_not_pos left
      subst none_
      unfold generationRequest at request
      split at request
      · cases request
      · rw [if_neg (by omega)] at request
        cases request

end Claims

section Sample
open PenaltyHistory

/-- The writer of the second turn is cancelled before it seals its token. -/
def cancelledPlane : Plane Unit Unit where
  service := {
    executor := { sampleSetup with
      weather := fun clock => if clock = 14 then { arrivals := [.cancelRequested] } else {} }
    sessionHash := 1 }
  sessionHash := 1
  contextLimit := 16
  vocabulary := 4
  fates _ := .answered

def promptedWorld : ControlWorld Unit Unit :=
  (operate cancelledPlane (.appendTokens "s" [1, 2] none)
    (operate cancelledPlane (.createSession "s") sampleControl).2).2

def promptedRecord : SessionRecord :=
  promptedWorld.session.getD { sessionId := "", contextLimit := 0, model := "" }

theorem cancelled_begins : Begins cancelledPlane sampleOptions sampleControl :=
  ⟨made_sample, ⟨none, rfl⟩, rfl, by decide⟩

theorem prompted_operates : Operates cancelledPlane sampleControl promptedWorld :=
  .operation (.operation .start _) _

theorem prompted_session : promptedWorld.session = some promptedRecord := by
  have held : promptedWorld.session.isSome = true := by decide +kernel
  obtain ⟨record, session⟩ := Option.isSome_iff_exists.mp held
  rw [promptedRecord, session]
  rfl

theorem prompted_accepted {maxNewTokens : Nat} (some_ : maxNewTokens ≠ 0)
    (few : maxNewTokens ≤ 14) : Accepted cancelledPlane promptedRecord maxNewTokens .plain 1 := by
  have tokens : promptedRecord.canonicalTokens = [1, 2] := by decide +kernel
  refine ⟨some_, by decide, by decide, by decide, ?_, by simp [tokens]⟩
  rw [tokens]
  change 2 + maxNewTokens ≤ 16
  omega

/-- What the events of an outcome published, and which of them tell a reason. -/
def told (outcome : Except Raised (List CommittedTokenEvent)) : Option (List (List Int × Bool)) :=
  outcome.toOption.map fun events =>
    events.map fun event => (event.tokenIds, event.finishReason.isSome)

theorem generation_runs_seed :
    ∃ events after, Generated cancelledPlane promptedRecord 1 0 1 promptedWorld events after ∧
      eventTokens events = [3] := by
  obtain ⟨-, returned, -⟩ := generation_runs cancelled_begins prompted_operates prompted_session
    (@prompted_accepted 1 (by decide) (by decide)) 0 1
  have given_ : told (generateLocked cancelledPlane promptedRecord 1 .plain 1 0 1
      promptedWorld).1 = some [([3], true)] := by
    decide +kernel
  rcases run : generateLocked cancelledPlane promptedRecord 1 .plain 1 0 1 promptedWorld with
    ⟨outcome, after⟩
  rw [run] at given_
  cases outcome with
  | error raised => cases given_
  | ok events =>
      refine ⟨events, after, (returned events after run).1, ?_⟩
      have split := Option.some.inj given_
      obtain ⟨event, rfl, values⟩ := List.map_eq_singleton_iff.mp split
      exact (List.append_nil _).trans (Prod.ext_iff.mp values).1

/-- A cancellation in the second turn: the run ends, and no event told why. -/
theorem cancelled_run_tells_nothing :
    Begins cancelledPlane sampleOptions sampleControl ∧
      Operates cancelledPlane sampleControl promptedWorld ∧
      promptedWorld.session = some promptedRecord ∧
      Accepted cancelledPlane promptedRecord 2 .plain 1 ∧
      told (generateLocked cancelledPlane promptedRecord 2 .plain 1 0 1 promptedWorld).1 =
        some [([3], false)] ∧
      told (generateLocked cancelledPlane promptedRecord 2 .plain 1 0 2 promptedWorld).1 =
        none := by
  refine ⟨cancelled_begins, prompted_operates, prompted_session,
    prompted_accepted (by decide) (by decide), ?_, ?_⟩
  · decide +kernel
  · decide +kernel

end Sample

end Q38.GenerationRuns
