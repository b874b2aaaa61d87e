import Q38Runtime.WriterReplay

/-!
What the response to a writer says about the session, after any requests before it. A writer
that was answered kOk did what the session model allows, and no cancellation was promised to
anyone; a promised cancellation leaves the session alone; and a status that is neither kOk nor
kPoisoned hides an isolated executor exactly for the exceptions the ladder of handlers names.
-/
namespace Q38.WriterTruth
open Contracts Cancellation Backend Sampling Identity Executor SessionModel StageContracts
  Pipeline TransactionRun SessionRefinement ExecutorRuns ExecutorRpc MockBackend FaultyStages
  ExecutorInvariant SilentFailures SpeculativeDecoding WriterReplay Imperative

section Service
variable {σ₀ σ₁ : Type} {setup : ServiceSetup σ₀ σ₁} {request : ExecutorRpcRequestV1}
  {service : Service σ₀ σ₁}

theorem handle_all_serving (built : Built setup.executor.options)
    (requests : List ExecutorRpcRequestV1) (serving : Serving setup service) :
    Serving setup (handleAll setup requests service).2 := by
  induction requests generalizing service with
  | nil => exact serving
  | cons request rest ih => exact ih (handle_serving built serving)

theorem make_service_serving {options : ExecutorOptions} {first second : Stage}
    {world : World σ₀ σ₁} {journal : Option Snapshot.SnapshotJournal}
    (made : makeExecutor options first second = .ok (setup.executor.options, world.coordinator)) :
    Serving setup (makeService world journal) where
  standing := Or.inr ⟨(make_executor_constructed made).consistent, trivial, trivial⟩
  poisoned := rfl
  published := rfl
  remembered _ impossible := by cases impossible

/-- How a writer that the executor was handed ends, and what it is answered. -/
inductive Concluded (setup : ServiceSetup σ₀ σ₁) (request : ExecutorRpcRequestV1)
    (service : Service σ₀ σ₁) (response : ExecutorRpcResponseV1) (after : Service σ₀ σ₁) : Prop
  | acknowledged {answer : List Token} {world : World σ₀ σ₁}
      (ran : execution setup request service = (.ok answer, world))
      (returned : Returned setup.executor (writerOperation request)
        (given service.world (some (writerToken request))) answer world)
      (status : response.header.status = .ok) (tokens : response.tokens = answer)
      (same : after.world = world)
  | unrecorded {answer : List Token} {world : World σ₀ σ₁}
      (ran : execution setup request service = (.ok answer, world))
      (returned : Returned setup.executor (writerOperation request)
        (given service.world (some (writerToken request))) answer world)
      (status : response.header.status = .poisoned) (closed : after.world = failClosed world)
  | refused {thrown : Thrown} {world : World σ₀ σ₁}
      (ran : execution setup request service = (.error thrown, world))
      (aborted : Aborted (unknownPair setup.executor) (writerOperation request)
        (given service.world (some (writerToken request))) thrown world)
      (status : response.header.status = statusOf thrown world.coordinator.poisoned)
      (same : after.world = world)

theorem writer_concluded (writer : isWriterOpcode request.header.opcode = true)
    (built : Built setup.executor.options) (serving : Serving setup service)
    (accepts : Accepts service request) :
    Concluded setup request service (handleWriter setup request service).1
      (handleWriter setup request service).2 := by
  rw [handle_writer_accepted accepts]
  have healthy := accepts.2.2
  rw [serving.poisoned] at healthy
  have settled := serving.standing.resolve_left (by simp [healthy])
  have ended := run_writer_ends writer built settled healthy
  rw [Ends] at ended
  rcases run : runWriter setup request service.world with ⟨outcome, world⟩
  rw [run] at ended
  have ran : execution setup request service = (outcome, world) := run
  have journaled := @journal_writer_world _ _ setup
    (writerResponse setup request (execution setup request service).1
      (execution setup request service).2.coordinator.poisoned)
    { service with
      highestWriterRequestId := request.header.requestId
      world := (execution setup request service).2 }
  change (executed setup request service).1.header.status = _ ∧
      (executed setup request service).1.tokens = _ ∧
      (executed setup request service).2.world = _ ∨
    _ ∧ (executed setup request service).1.header.status = _ ∧
      (executed setup request service).2.world = _ at journaled
  rw [ran] at journaled
  cases outcome with
  | ok answer =>
      rcases journaled with ⟨status, tokens, same⟩ | ⟨-, status, closed⟩
      · exact .acknowledged ran ended status tokens same
      · exact .unrecorded ran ended status closed
  | error thrown =>
      rcases journaled with ⟨status, tokens, same⟩ | ⟨ok, -, -⟩
      · exact .refused ran ended status same
      · exact (status_of_not_ok thrown _ ok).elim

/-- The session is where it was before the writer. -/
structure Kept (before after : Coordinator) : Prop where
  tokens : after.tokens = before.tokens
  sampler : after.sampler = before.sampler
  lastSample : after.lastSample = before.lastSample
  haveLastSample : after.haveLastSample = before.haveLastSample
  frontiers : after.poisoned = false →
    after.engine.frontiers.canonical = before.engine.frontiers.canonical ∧
      after.engine.frontiers.target = before.engine.frontiers.target

theorem aborted_kept {operation : Operation} {world final : World σ₀ σ₁} {thrown : Thrown}
    (idle : world.coordinator.engine.active = false)
    (aborted : Aborted (unknownPair setup.executor) operation world thrown final) :
    Kept world.coordinator final.coordinator := by
  obtain ⟨tokens, sampler, last, have_⟩ := aborted_keeps aborted
  refine ⟨tokens, sampler, last, have_, fun spared => ?_⟩
  rcases (aborted_frontiers idle aborted spared).2 with same | later
  · rw [same]
    exact ⟨rfl, rfl⟩
  · rw [later]
    exact ⟨rfl, rfl⟩

theorem aborted_token {operation : Operation} {world final : World σ₀ σ₁} {thrown : Thrown}
    (aborted : Aborted (unknownPair setup.executor) operation world thrown final) :
    TokenLater world.cancellation final.cancellation := by
  cases aborted with
  | transaction facts =>
      cases facts with
      | untouched facts => exact facts.token
      | restored facts => exact facts.token
      | stuck facts => exact facts.token
      | torn facts => exact facts.token
  | halted reset facts => exact facts.token

/-- A writer's token at its end: what the cancellations met is what it became. -/
theorem writer_token {request : ExecutorRpcRequestV1} {final : Option CancellationToken}
    (later : TokenLater (some (writerToken request)) final) :
    ∃ token, final = some token ∧ ∀ state ∈ token.found,
      if state = .active then token.state = .cancelled else token.state = state := by
  cases final with
  | none => exact later.elim
  | some token =>
      refine ⟨token, rfl, fun state member => ?_⟩
      rcases later.seen state member with old | told
      · cases old
      · exact told

/-- A Cancel that met a sealed token was refused, and any other was promised. -/
theorem cancel_promised {state : TokenState} (promised : (cancelAnswer state).1 = .ok) :
    state ≠ .sealed := by
  rintro rfl
  cases promised

/-- The exceptions the handlers answer without asking whether the executor is isolated. -/
def hidesIsolation : Thrown → Bool
  | .overflowError _ | .systemError _ | .runtimeError _ => false
  | _ => true

theorem status_of_poisoned (thrown : Thrown) :
    statusOf thrown true = .poisoned ↔ hidesIsolation thrown = false := by
  cases thrown <;> simp [statusOf, hidesIsolation]

theorem status_of_healthy (thrown : Thrown) : statusOf thrown false ≠ .poisoned := by
  cases thrown <;> exact nofun

variable {options : ExecutorOptions} {first second : Stage} {world : World σ₀ σ₁}
  {journal : Option Snapshot.SnapshotJournal}

end Service

section Isolated
variable {σ₀ σ₁ : Type} {setup : ServiceSetup σ₀ σ₁} {service : Service σ₀ σ₁}

theorem finalized_status (response : ExecutorRpcResponseV1) (frontiers) :
    (finalizeResponse response frontiers).header.status = response.header.status := rfl

/-- One request to an isolated service. -/
theorem isolated_handle (published : service.publishedPoisoned = true)
    (poisoned : service.world.coordinator.poisoned = true) (request : ExecutorRpcRequestV1) :
    (handle setup request service).2.world = service.world ∧
      (handle setup request service).2.publishedPoisoned = true ∧
      ((handle setup request service).1.header.status = .ok →
        ∃ entry ∈ service.writerResponses, entry.response = (handle setup request service).1) ∧
      ∀ entry ∈ (handle setup request service).2.writerResponses,
        entry ∈ service.writerResponses ∨ entry.response.header.status ≠ .ok := by
  have unchanged {response : ExecutorRpcResponseV1} (status : response.header.status ≠ .ok)
      (handled : handle setup request service = (response, service)) :
      (handle setup request service).2.world = service.world ∧
        (handle setup request service).2.publishedPoisoned = true ∧
        ((handle setup request service).1.header.status = .ok →
          ∃ entry ∈ service.writerResponses, entry.response = (handle setup request service).1) ∧
        ∀ entry ∈ (handle setup request service).2.writerResponses,
          entry ∈ service.writerResponses ∨ entry.response.header.status ≠ .ok := by
    rw [handled]
    exact ⟨rfl, published, fun ok => (status ok).elim, fun entry member => Or.inl member⟩
  by_cases valid : validateExecutorRpcRequest request setup.sessionHash = none
  swap
  · obtain ⟨error, refused_⟩ := Option.ne_none_iff_exists'.mp valid
    apply @unchanged (finalizeResponse
      (refused (responseBase request setup.sessionHash) .badRequest error) _) (by rintro ⟨⟩)
    rw [handle, refused_]
  by_cases writer : isWriterOpcode request.header.opcode = true
  swap
  · by_cases cancel : request.header.opcode = .cancel
    · apply @unchanged (handleCancel setup request service) (by rintro ⟨⟩)
      rw [handle, valid]
      dsimp only
      rw [if_pos cancel]
    · apply @unchanged (handleRead setup request service)
      · rw [handleRead]
        simp only [poisoned, if_true, finalized_status]
        rintro ⟨⟩
      · rw [handle, valid]
        dsimp only
        rw [if_neg cancel, if_neg writer]
  have refuses : ¬ Accepts service request := fun accepts => by
    have healthy := accepts.2.2
    simp [published] at healthy
  rw [handle_writer_request valid writer] at unchanged ⊢
  rcases @handle_writer_refused _ _ setup _ _ refuses with
    ⟨entry, member, -, -, replayed⟩ | ⟨response, answered, status⟩ | ⟨-, -, handled⟩
  · rw [replayed]
    exact ⟨rfl, published, fun _ => ⟨entry, member, rfl⟩, fun entry member => Or.inl member⟩
  · refine unchanged ?_ answered
    rcases status with status | status <;> rw [status] <;> rintro ⟨⟩
  · rw [handled]
    refine ⟨rfl, poisoned, (by rintro ⟨⟩), fun entry member => ?_⟩
    rcases mem_remember member with rfl | old
    · exact Or.inr (by rintro ⟨⟩)
    · split at old
      · cases old
      · exact Or.inl old

/-- An isolated service never turns to its executor again, and whatever it still answers with kOk
it had answered before. -/
theorem isolation_final {options : ExecutorOptions} {first second : Stage} {world : World σ₀ σ₁}
    {journal : Option Snapshot.SnapshotJournal}
    (made : makeExecutor options first second = .ok (setup.executor.options, world.coordinator))
    (requests later : List ExecutorRpcRequestV1)
    (poisoned : (handleAll setup requests
      (makeService world journal)).2.world.coordinator.poisoned = true) :
    let isolated := (handleAll setup requests (makeService world journal)).2
    (handleAll setup later isolated).2.world = isolated.world ∧
      ∀ response ∈ (handleAll setup later isolated).1, response.header.status = .ok →
        ∃ entry ∈ isolated.writerResponses, entry.response = response := by
  intro isolated
  have built := (make_executor_constructed made).built
  have serving : Serving setup isolated :=
    handle_all_serving built requests (make_service_serving made)
  have published : isolated.publishedPoisoned = true := serving.poisoned.trans poisoned
  -- the cache grows by refusals only
  have run (later : List ExecutorRpcRequestV1) : ∀ service : Service σ₀ σ₁,
      service.publishedPoisoned = true → service.world = isolated.world →
      (∀ entry ∈ service.writerResponses,
        entry ∈ isolated.writerResponses ∨ entry.response.header.status ≠ .ok) →
      (handleAll setup later service).2.world = isolated.world ∧
        ∀ response ∈ (handleAll setup later service).1, response.header.status = .ok →
          ∃ entry ∈ isolated.writerResponses, entry.response = response := by
    induction later with
    | nil => exact fun service _ same _ => ⟨same, nofun⟩
    | cons request rest ih =>
        intro service published same cached
        obtain ⟨unmoved, still, told, grown⟩ := @isolated_handle _ _ setup _ published
          (by rw [same]; exact poisoned) request
        obtain ⟨ends_, others⟩ := ih _ still (unmoved.trans same) fun entry member => by
          rcases grown entry member with old | refusal
          · exact cached entry old
          · exact Or.inr refusal
        refine ⟨ends_, fun response member ok => ?_⟩
        rcases List.mem_cons.mp member with rfl | member
        · obtain ⟨entry, held, replayed⟩ := told ok
          rcases cached entry held with before | refusal
          · exact ⟨entry, before, replayed⟩
          · rw [replayed] at refusal
            exact (refusal ok).elim
        · exact others response member ok
  exact run later isolated published rfl fun entry member => Or.inl member

end Isolated

section Samples

/-- A Cancel reaches the append before its first poll. -/
def cancelledService : ServiceSetup (Faulty MockState) (Faulty MockState) where
  executor := faultyMocks greedyCompleted (fun _ _ _ => .ok 0)
    (fun access => if access = 0 then { arrivals := [.cancelRequested] } else {}) ⟨.stage0, 1, 4⟩
    ⟨.stage1, 1, 4⟩ (fun _ => none) fun _ => none
  sessionHash := 1

def cancelledServed : Service (Faulty MockState) (Faulty MockState) :=
  (handleAll cancelledService [] (makeService (freshWorld greedyStart) none)).2

theorem cancelled_ready : completes cancelledService cancelledServed appendRequest = true ∧
    cancelledServed.publishedPoisoned = false := by
  decide

theorem append_healthy : greedyServed.publishedPoisoned = false := by
  decide

theorem append_ok : (handle greedyService appendRequest greedyServed).1.header.status = .ok := by
  decide +kernel

/-- Stage 0 throws from the first chunk and from the rollback behind it. -/
def brokenService : ServiceSetup (Faulty MockState) (Faulty MockState) where
  executor := faultyMocks greedyCompleted (fun _ _ _ => .ok 0) (fun _ => {}) ⟨.stage0, 1, 4⟩
    ⟨.stage1, 1, 4⟩ (fun call => if call < 2 then some (.before .unknown) else none) fun _ => none
  sessionHash := 1

def brokenServed : Service (Faulty MockState) (Faulty MockState) :=
  (handleAll brokenService [appendRequest] (makeService (freshWorld greedyStart) none)).2

theorem broken_isolated : brokenServed.world.coordinator.poisoned = true := by
  decide +kernel

theorem isolation_final_append :
    (handleAll brokenService [appendRequest, { header := { requestId := 2 } }]
      brokenServed).2.world = brokenServed.world := by
  have final := @isolation_final _ _ brokenService _ .stage0 .stage1 (freshWorld greedyStart) none
    made_greedy [appendRequest]
    [appendRequest, { header := { requestId := 2 } }] broken_isolated
  rw [← brokenServed] at final
  exact final.1

end Samples

end Q38.WriterTruth
