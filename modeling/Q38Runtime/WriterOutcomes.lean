import Q38Runtime.ExecutorRpc

/-! What a writer leaves behind, over stages about which nothing is known. It
returned past the seal of its token with the session moved on as the session
model allows, or it threw and the session stands where it stood, unless the
executor is poisoned. -/
namespace Q38.ExecutorRpc
open Contracts Cancellation Backend Executor SessionModel StageContracts Pipeline TransactionRun
  SessionRefinement ExecutorRuns Imperative

section Waiting
variable {σ₀ σ₁ : Type} {setup : Setup σ₀ σ₁} {operation : Operation}
  {world middle after : World σ₀ σ₁}

/-- Only the token and the clock moved. -/
structure Passing (world after : World σ₀ σ₁) : Prop where
  coordinator : after.coordinator = world.coordinator
  same0 : after.worker0 = world.worker0
  same1 : after.worker1 = world.worker1
  token : TokenLater world.cancellation after.cancellation

theorem Passing.waited (passing : Passing world after) :
    Waited (unknownPair setup) world after where
  coordinator := passing.coordinator
  token := passing.token
  ran0 := passing.same0 ▸ Ran.refl _
  ran1 := passing.same1 ▸ Ran.refl _
  calm undisturbed := undisturbed.front.elim
  same0 := passing.same0
  same1 := passing.same1

theorem accessed_passing {token : Option CancellationToken}
    (later : TokenLater world.cancellation token) : Passing world (accessed world token) :=
  ⟨rfl, rfl, rfl, later⟩

/-- A seal is final. -/
theorem sealed_later {before after : Option CancellationToken} (later : TokenLater before after)
    (passed : ∀ token, before = some token → token.state = .sealed) :
    ∀ token, after = some token → token.state = .sealed := by
  rintro token rfl
  cases before with
  | none => exact later.elim
  | some held =>
      have sealed := passed held rfl
      have final : token.state = held.state := Later.settled later (by simp [sealed])
      rw [final, sealed]

theorem performed_passing {answer : List Token}
    (performed : Performed (unknownPair setup) operation world answer middle)
    (passing : Passing middle after) :
    Performed (unknownPair setup) operation world answer after := by
  obtain ⟨settled, healthy, happens, token, passed, epoch⟩ := performed
  refine ⟨settled.polled passing.waited, ?_, ?_, token.trans passing.token, ?_, ?_⟩
  · rw [passing.coordinator]
    exact healthy
  · rw [passing.coordinator]
    exact happens
  · exact fun other => sealed_later passing.token (passed other)
  · rw [passing.coordinator]
    exact epoch

theorem closed_passing {ending : Task} {σ : Type} {before worker final : StageWorker σ}
    {result : Option Thrown} (same : final = worker)
    (closed : Closed (ending, result) before worker) : Closed (ending, result) before final :=
  same ▸ closed

theorem isolated_passing {ending : Task} (isolated : Isolated world middle ending)
    (passing : Passing middle after) : Isolated world after ending := by
  obtain ⟨coordinator, token, first, second, threw, closed0, closed1⟩ := isolated
  refine ⟨?_, token.trans passing.token, first, second, threw, ?_, ?_⟩
  · rw [passing.coordinator]
    exact coordinator
  · exact closed_passing passing.same0 closed0
  · exact closed_passing passing.same1 closed1

theorem aborted_passing {thrown : Thrown}
    (aborted : Aborted (unknownPair setup) operation world thrown middle)
    (passing : Passing middle after) :
    Aborted (unknownPair setup) operation world thrown after := by
  cases aborted with
  | transaction facts =>
      cases facts with
      | untouched facts =>
          exact .transaction (.untouched {
            coordinator := passing.coordinator.trans facts.coordinator
            same0 := passing.same0.trans facts.same0
            same1 := passing.same1.trans facts.same1
            token := facts.token.trans passing.token
            cause := facts.cause })
      | restored facts =>
          obtain ⟨coordinator, idle, sessionHash, frontiers, fresh, front, back, token, closed0,
            closed1, cause⟩ := facts
          rw [← passing.coordinator] at coordinator idle sessionHash frontiers
          exact .transaction (.restored ⟨coordinator, idle, sessionHash, frontiers, fresh, trivial,
            trivial, token.trans passing.token, closed_passing passing.same0 closed0,
            closed_passing passing.same1 closed1, cause⟩)
      | stuck facts cause => exact .transaction (.stuck (isolated_passing facts passing) cause)
      | torn facts passed cause =>
          exact .transaction (.torn (isolated_passing facts passing) (sealed_later passing.token passed) cause)
  | halted reset facts cause => exact .halted reset (isolated_passing facts passing) cause

end Waiting

section Writer
variable {σ₀ σ₁ : Type} {setup : ServiceSetup σ₀ σ₁} {request : ExecutorRpcRequestV1}
  {world : World σ₀ σ₁}

/-- The token a writer is given. -/
def writerToken (request : ExecutorRpcRequestV1) : CancellationToken :=
  { hasDeadline := request.header.timeoutMs != 0 }

/-- A writer that returned: past the seal, and the session moved on. -/
structure Returned (setup : Setup σ₀ σ₁) (operation : Operation) (world : World σ₀ σ₁)
    (answer : List Token) (after : World σ₀ σ₁) : Prop where
  performed : Performed (unknownPair setup) operation world answer after
  passed : ∀ token, after.cancellation = some token → token.state = .sealed

theorem reset_operation (writer : isWriterOpcode request.header.opcode = true) :
    writerOperation request = .resetSession ↔ request.header.opcode = .reset := by
  unfold writerOperation
  cases opcode : request.header.opcode <;> simp_all [isWriterOpcode]

theorem run_writer_ends (writer : isWriterOpcode request.header.opcode = true)
    (built : Built setup.executor.options)
    (settled : Settled (unknownPair setup.executor) world)
    (healthy : world.coordinator.poisoned = false) :
    Ends (runWriter setup request)
      (fun answer after => Returned setup.executor (writerOperation request)
        (given world (some (writerToken request))) answer after)
      (fun thrown after => Aborted (unknownPair setup.executor) (writerOperation request)
        (given world (some (writerToken request))) thrown after) world := by
  have opened := settled_given settled (some (writerToken request))
  -- the turn of the executor, before the token is met for the last time
  have turn : Ends (do
        Proc.write fun world : World σ₀ σ₁ => { world with
          cancellation := some { hasDeadline := request.header.timeoutMs != 0 } }
        Proc.whenever (request.header.opcode = .reset) do
          poll setup.executor
          sealToken setup.executor
        dispatch setup.executor (writerOperation request))
      (fun answer after => Returned setup.executor (writerOperation request)
        (given world (some (writerToken request))) answer after)
      (fun thrown after => Aborted (unknownPair setup.executor) (writerOperation request)
        (given world (some (writerToken request))) thrown after) world := by
    rw [ends_bind, ends_write, ends_bind, ends_whenever]
    constructor
    · intro reset
      rw [(reset_operation writer).mpr reset, ends_bind]
      apply (poll_ends (unknownPair setup.executor)).weaken
      · rintro _ polled waited
        apply (seal_token_ends (unknownPair setup.executor)).weaken
        · rintro _ _ ⟨token, rfl, later, passed⟩
          have passing : Passing polled (accessed polled token) := accessed_passing later
          have spared : (accessed polled token).coordinator.poisoned = false := by
            rw [passing.coordinator, waited.coordinator]
            exact healthy
          have entered := (opened.polled waited).polled passing.waited
          apply (dispatch_ends built entered spared .resetSession).weaken
          · intro answer after performed
            exact ⟨(performed.earlier passing.waited).earlier waited,
              sealed_later performed.token passed⟩
          · exact fun _ _ aborted => (aborted.earlier passing.waited).earlier waited
        · rintro thrown after ⟨sealing, disturbed, -⟩
          exact Aborted.earlier (.transaction (.untouched ⟨sealing.coordinator, sealing.same0,
            sealing.same1, sealing.token, fun undisturbed => (disturbed undisturbed).elim⟩)) waited
      · rintro thrown after ⟨waited, disturbed, -⟩
        exact .transaction (.untouched ⟨waited.coordinator, waited.same0, waited.same1,
          waited.token, fun undisturbed => (disturbed undisturbed).elim⟩)
    · intro other
      have writes : writerOperation request ≠ .resetSession :=
        fun reset => other ((reset_operation writer).mp reset)
      apply (dispatch_ends built opened healthy (writerOperation request)).weaken
      · exact fun _ _ performed => ⟨performed, performed.passed writes⟩
      · exact fun _ _ aborted => aborted
  have late (middle : World σ₀ σ₁) : Ends (onToken setup.executor fun _ => pure ())
      (fun _ after => Passing middle after) (fun _ _ => False) middle := by
    apply on_token_ends
    · intro absent
      exact accessed_passing (absent ▸ TokenLater.refl _)
    · intro token held
      rw [ends_pure]
      apply accessed_passing
      rw [held]
      exact token.meet_all_later _
  unfold runWriter
  rw [ends_bind, ends_attempt]
  apply turn.weaken
  · rintro answer middle ⟨performed, passed⟩
    apply (late middle).proceed
    intro _ after passing
    rw [ends_settle]
    constructor
    · rintro _ ⟨⟩
      exact ⟨performed_passing performed passing, sealed_later passing.token passed⟩
    · exact fun _ impossible => nomatch impossible
  · intro thrown middle aborted
    apply (late middle).proceed
    intro _ after passing
    rw [ends_settle]
    constructor
    · exact fun _ impossible => nomatch impossible
    · rintro _ ⟨⟩
      exact aborted_passing aborted passing

end Writer

section Service
variable {σ₀ σ₁ : Type} {setup : ServiceSetup σ₀ σ₁} {request : ExecutorRpcRequestV1}
  {service : Service σ₀ σ₁}

/-- A service between two requests. -/
structure Serving (setup : ServiceSetup σ₀ σ₁) (service : Service σ₀ σ₁) : Prop where
  standing : Standing (unknownPair setup.executor) service.world
  poisoned : service.publishedPoisoned = service.world.coordinator.poisoned
  published : service.publishedFrontiers = service.world.coordinator.engine.frontiers
  remembered : ∀ entry ∈ service.writerResponses,
    entry.requestId ≤ service.highestWriterRequestId

/-- The writer is one the service has not seen, and the executor is healthy. -/
def Accepts (service : Service σ₀ σ₁) (request : ExecutorRpcRequestV1) : Prop :=
  service.writerResponses.find? (·.requestId = request.header.requestId) = none ∧
    service.highestWriterRequestId < request.header.requestId ∧
    service.publishedPoisoned = false

instance (service : Service σ₀ σ₁) (request : ExecutorRpcRequestV1) :
    Decidable (Accepts service request) :=
  inferInstanceAs (Decidable (_ ∧ _ ∧ _))

/-- What the executor makes of a writer it is handed. -/
def execution (setup : ServiceSetup σ₀ σ₁) (request : ExecutorRpcRequestV1)
    (service : Service σ₀ σ₁) : Except Thrown (List Token) × World σ₀ σ₁ :=
  runWriter setup request service.world

/-- The service behind an execution, and its response, before they are published. -/
def executed (setup : ServiceSetup σ₀ σ₁) (request : ExecutorRpcRequestV1)
    (service : Service σ₀ σ₁) : ExecutorRpcResponseV1 × Service σ₀ σ₁ :=
  let outcome := execution setup request service
  journalWriter setup (writerResponse setup request outcome.1 outcome.2.coordinator.poisoned)
    { service with highestWriterRequestId := request.header.requestId, world := outcome.2 }

theorem handle_writer_accepted (accepts : Accepts service request) :
    handleWriter setup request service =
      publishWriter request (executed setup request service).1
        (executed setup request service).2 := by
  obtain ⟨unseen, later, healthy⟩ := accepts
  unfold handleWriter
  rw [unseen]
  simp only [UInt64.not_le.mpr later, if_false]
  rw [if_neg (by simp [healthy])]
  rfl

/-- A writer that is not handed to the executor leaves the world alone, and the
cache too unless the executor is poisoned. -/
theorem handle_writer_refused (refuses : ¬ Accepts service request) :
    (∃ entry ∈ service.writerResponses, entry.requestId = request.header.requestId ∧
        entry.fingerprint = requestFingerprint request ∧
        handleWriter setup request service = (entry.response, service)) ∨
      (∃ response, handleWriter setup request service = (response, service) ∧
        (response.header.status = .badRequest ∨
          response.header.status = .failedPrecondition)) ∨
      (service.publishedPoisoned = true ∧
        service.highestWriterRequestId < request.header.requestId ∧
        handleWriter setup request service = publishWriter request
          (refused (responseBase request setup.sessionHash) .poisoned "executor is fail-closed")
          { service with highestWriterRequestId := request.header.requestId }) := by
  unfold handleWriter
  cases found : service.writerResponses.find? (·.requestId = request.header.requestId) with
  | some entry =>
      by_cases same : entry.fingerprint = requestFingerprint request
      · left
        refine ⟨entry, List.mem_of_find?_eq_some found, ?_, same, ?_⟩
        · simpa using List.find?_some found
        · simp only [same, if_true]
      · right
        left
        simp only [same, if_false]
        exact ⟨_, rfl, Or.inl rfl⟩
  | none =>
      right
      by_cases stale : request.header.requestId ≤ service.highestWriterRequestId
      · left
        simp only [stale, if_true]
        exact ⟨_, rfl, Or.inr rfl⟩
      · right
        have later := UInt64.not_le.mp stale
        have poisoned : service.publishedPoisoned = true := by
          by_contra healthy
          exact refuses ⟨found, later, eq_false_of_ne_true healthy⟩
        simp only [stale, if_false, poisoned, if_true]
        exact ⟨trivial, later, trivial⟩

/-- The journal only ever isolates the session. -/
theorem journal_writer_world (response : ExecutorRpcResponseV1) (service : Service σ₀ σ₁) :
    (journalWriter setup response service).1.header.status = response.header.status ∧
        (journalWriter setup response service).1.tokens = response.tokens ∧
        (journalWriter setup response service).2.world = service.world ∨
      (response.header.status = .ok ∧
        (journalWriter setup response service).1.header.status = .poisoned ∧
        (journalWriter setup response service).2.world = failClosed service.world) := by
  unfold journalWriter
  cases service.snapshotJournal with
  | none => exact Or.inl ⟨rfl, rfl, rfl⟩
  | some journal =>
      by_cases ok : response.header.status = .ok
      · simp only [ok, ne_eq, not_true_eq_false, if_false]
        split
        · exact Or.inr ⟨trivial, rfl, rfl⟩
        · split
          · exact Or.inl ⟨ok, rfl, rfl⟩
          · exact Or.inr ⟨trivial, rfl, rfl⟩
      · simp only [ne_eq, ok, not_false_eq_true, if_true]
        exact Or.inl ⟨trivial, trivial, trivial⟩

theorem journal_writer_cache (response : ExecutorRpcResponseV1) (service : Service σ₀ σ₁) :
    (journalWriter setup response service).2.writerResponses = service.writerResponses ∧
      (journalWriter setup response service).2.highestWriterRequestId =
        service.highestWriterRequestId := by
  unfold journalWriter
  cases service.snapshotJournal with
  | none => exact ⟨rfl, rfl⟩
  | some journal =>
      by_cases ok : response.header.status = .ok
      · simp only [ok, ne_eq, not_true_eq_false, if_false]
        split
        · exact ⟨rfl, rfl⟩
        · split <;> exact ⟨rfl, rfl⟩
      · simp only [ne_eq, ok, not_false_eq_true, if_true]
        exact ⟨trivial, trivial⟩

theorem mem_remember {entry other : CachedWriterResponse} {responses : List CachedWriterResponse}
    (member : other ∈ remember entry responses) : other = entry ∨ other ∈ responses := by
  unfold remember at member
  have grown : other ∈ responses ++ [entry] := by
    dsimp only at member
    split at member
    · exact List.mem_of_mem_drop member
    · exact member
  rcases List.mem_append.mp grown with old | new
  · exact Or.inr old
  · exact Or.inl (List.mem_singleton.mp new)

/-- Publishing keeps a service in order. -/
theorem publish_serving {response : ExecutorRpcResponseV1}
    (standing : Standing (unknownPair setup.executor) service.world)
    (remembered : ∀ entry ∈ service.writerResponses,
      entry.requestId ≤ service.highestWriterRequestId)
    (latest : service.highestWriterRequestId = request.header.requestId) :
    Serving setup (publishWriter request response service).2 where
  standing := standing
  poisoned := rfl
  published := rfl
  remembered := by
    intro entry member
    change entry.requestId ≤ service.highestWriterRequestId
    rcases mem_remember member with rfl | old
    · exact latest ▸ UInt64.le_refl _
    · split at old
      · cases old
      · exact remembered entry old

theorem execution_standing (writer : isWriterOpcode request.header.opcode = true)
    (built : Built setup.executor.options)
    (settled : Settled (unknownPair setup.executor) service.world)
    (healthy : service.world.coordinator.poisoned = false) :
    Standing (unknownPair setup.executor) (execution setup request service).2 := by
  have ended := run_writer_ends writer built settled healthy
  unfold execution
  unfold Ends at ended
  rcases run : runWriter setup request service.world with ⟨outcome, after⟩
  rw [run] at ended
  cases outcome with
  | ok answer => exact Or.inr ended.performed.settled
  | error thrown =>
      exact aborted_standing (settled_given settled (some (writerToken request))) ended

theorem executed_standing (writer : isWriterOpcode request.header.opcode = true)
    (built : Built setup.executor.options)
    (settled : Settled (unknownPair setup.executor) service.world)
    (healthy : service.world.coordinator.poisoned = false) :
    Standing (unknownPair setup.executor) (executed setup request service).2.world := by
  have standing := execution_standing writer built settled healthy
  rcases @journal_writer_world _ _ setup _ _ with ⟨-, -, same⟩ | ⟨-, -, closed⟩
  · rw [executed, same]
    exact standing
  · rw [executed, closed]
    exact Or.inl rfl

theorem handle_writer_serving (writer : isWriterOpcode request.header.opcode = true)
    (built : Built setup.executor.options) (serving : Serving setup service) :
    Serving setup (handleWriter setup request service).2 := by
  obtain ⟨standing, poisoned, published, remembered⟩ := serving
  have stays (later : service.highestWriterRequestId < request.header.requestId) :
      ∀ entry ∈ service.writerResponses, entry.requestId ≤ request.header.requestId :=
    fun entry member => UInt64.le_trans (remembered entry member) (UInt64.le_of_lt later)
  by_cases accepts : Accepts service request
  · rw [handle_writer_accepted accepts]
    have healthy := accepts.2.2
    rw [poisoned] at healthy
    have settled := standing.resolve_left (by simp [healthy])
    obtain ⟨cache, highest⟩ := @journal_writer_cache _ _ setup
      (writerResponse setup request (execution setup request service).1
        (execution setup request service).2.coordinator.poisoned)
      { service with
        highestWriterRequestId := request.header.requestId
        world := (execution setup request service).2 }
    apply publish_serving (executed_standing writer built settled healthy)
    · rw [executed, cache, highest]
      exact stays accepts.2.1
    · exact highest
  · rcases @handle_writer_refused _ _ setup _ _ accepts with
      ⟨entry, -, -, -, same⟩ | ⟨response, same, -⟩ | ⟨-, later, same⟩
    · rw [same]
      exact ⟨standing, poisoned, published, remembered⟩
    · rw [same]
      exact ⟨standing, poisoned, published, remembered⟩
    · rw [same]
      exact publish_serving standing (stays later) rfl

theorem handle_serving (built : Built setup.executor.options) (serving : Serving setup service) :
    Serving setup (handle setup request service).2 := by
  unfold handle
  split
  · exact serving
  · split
    · exact serving
    · split
      · next writer => exact handle_writer_serving writer built serving
      · exact serving

/-- A writer that was answered kOk. -/
structure Acknowledged (setup : ServiceSetup σ₀ σ₁) (request : ExecutorRpcRequestV1)
    (service after : Service σ₀ σ₁) (response : ExecutorRpcResponseV1) : Prop where
  settled : Settled (unknownPair setup.executor) after.world
  healthy : after.world.coordinator.poisoned = false
  happens : Happens unknownModel setup.executor.options setup.executor.select
    (sessionOf service.world.coordinator) (writerOperation request) response.tokens
    (sessionOf after.world.coordinator)
  frontiers : response.header.frontiers = after.world.coordinator.engine.frontiers

theorem status_of_not_ok (thrown : Thrown) (poisoned : Bool) : statusOf thrown poisoned ≠ .ok := by
  cases thrown <;> cases poisoned <;> exact nofun

theorem unseen_of_fresh (serving : Serving setup service)
    (fresh : service.highestWriterRequestId < request.header.requestId) :
    service.writerResponses.find? (·.requestId = request.header.requestId) = none := by
  rw [List.find?_eq_none]
  intro entry member same
  have below := serving.remembered entry member
  rw [of_decide_eq_true same] at below
  exact UInt64.not_le.mpr fresh below

theorem writer_acknowledged (writer : isWriterOpcode request.header.opcode = true)
    (built : Built setup.executor.options) (serving : Serving setup service)
    (fresh : service.highestWriterRequestId < request.header.requestId)
    (ok : (handleWriter setup request service).1.header.status = .ok) :
    Acknowledged setup request service (handleWriter setup request service).2
      (handleWriter setup request service).1 := by
  have unseen := unseen_of_fresh serving fresh
  by_cases accepts : Accepts service request
  · rw [handle_writer_accepted accepts] at ok ⊢
    have healthy := accepts.2.2
    rw [serving.poisoned] at healthy
    have settled := serving.standing.resolve_left (by simp [healthy])
    have ended := run_writer_ends writer built settled healthy
    unfold Ends at ended
    rcases run : runWriter setup request service.world with ⟨outcome, after⟩
    rw [run] at ended
    have answered : execution setup request service = (outcome, after) := run
    change (executed setup request service).1.header.status = .ok at ok
    rcases @journal_writer_world _ _ setup
      (writerResponse setup request (execution setup request service).1
        (execution setup request service).2.coordinator.poisoned)
      { service with
        highestWriterRequestId := request.header.requestId
        world := (execution setup request service).2 } with
      ⟨status, tokens, same⟩ | ⟨-, isolated, -⟩
    · have status : (writerResponse setup request outcome after.coordinator.poisoned).header.status =
          .ok := by
        have kept := status.symm.trans ok
        rw [answered] at kept
        exact kept
      cases outcome with
      | error thrown => exact (status_of_not_ok thrown _ status).elim
      | ok answer =>
          have world : (executed setup request service).2.world = after := by
            rw [executed, same, answered]
          have told : (executed setup request service).1.tokens = answer := by
            rw [executed, tokens, answered]
            rfl
          have performed := ended.performed
          constructor
          · change Settled _ (executed setup request service).2.world
            rw [world]
            exact performed.settled
          · change (executed setup request service).2.world.coordinator.poisoned = false
            rw [world]
            exact performed.healthy
          · change Happens _ _ _ _ _ (executed setup request service).1.tokens
              (sessionOf (executed setup request service).2.world.coordinator)
            rw [world, told]
            exact performed.happens
          · rfl
    · rw [executed] at ok
      rw [isolated] at ok
      contradiction
  · rcases @handle_writer_refused _ _ setup _ _ accepts with
      ⟨entry, member, same, -, -⟩ | ⟨response, same, status⟩ | ⟨-, -, same⟩
    · have absent := List.find?_eq_none.mp unseen entry member
      simp [same] at absent
    · rw [same] at ok
      rcases status with status | status <;> simp [status] at ok
    · rw [same] at ok
      cases ok

end Service

end Q38.ExecutorRpc
