import Q38Runtime.SessionRefinement

/-! Runs of an executor. In every state a run reaches between two operations the
executor is settled, or it is poisoned and stays as it is. -/
namespace Q38.ExecutorRuns
open Contracts Cancellation Backend Sampling Identity Transaction Executor SessionModel
  StageContracts Pipeline Commitment TransactionRun SessionRefinement Imperative

/-- What the constructor establishes. -/
structure Constructed (options : ExecutorOptions) (coordinator : Coordinator) : Prop where
  built : Built options
  consistent : Consistent options coordinator
  healthy : coordinator.poisoned = false
  empty : coordinator.tokens = []
  frontiers : coordinator.engine.frontiers = .fresh
  counts : coordinator.sampler.counts = List.replicate options.vocabSize.toNat 0

theorem make_sampler_ok {vocabulary : UInt32} {config : SamplingConfigV1}
    {sampler : TransactionalSampler} (made : makeSampler vocabulary config = .ok sampler) :
    sampler.vocabulary = vocabulary ∧ sampler.state = { rngState := config.seed } ∧
      sampler.counts = List.replicate vocabulary.toNat 0 := by
  unfold makeSampler at made
  split at made
  · cases made
  · split at made
    · cases made
    · split at made
      · cases made
      · cases made
        exact ⟨rfl, rfl, rfl⟩

theorem make_executor_constructed {options completed : ExecutorOptions} {first second : Stage}
    {coordinator : Coordinator}
    (made : makeExecutor options first second = .ok (completed, coordinator)) :
    Constructed completed coordinator := by
  unfold makeExecutor at made
  cases sampling : makeSampler options.vocabSize options.sampling with
  | error thrown =>
      rw [sampling] at made
      cases made
  | ok sampler =>
      obtain ⟨vocabulary, state, counts⟩ := make_sampler_ok sampling
      rw [sampling] at made
      change (if _ then _ else _) = _ at made
      split at made
      · cases made
      split at made
      · cases made
      next chunk =>
      split at made
      · cases made
      split at made
      · cases made
      split at made
      · cases made
      dsimp only at made
      split at made
      · cases made
      next identity =>
      simp only [not_or, not_not] at identity
      cases made
      constructor
      · exact ⟨chunk, identity.1, identity.2.2⟩
      · constructor
        · rfl
        · rfl
        · exact Nat.zero_le _
        · rfl
        · exact Nat.zero_le _
        · exact Nat.zero_le _
        · exact vocabulary
        · rw [state]
        · rw [state]
          rfl
        · intro token member
          cases member
        · intro impossible
          cases impossible
      · rfl
      · rfl
      · rfl
      · exact counts

section Runs
variable {σ₀ σ₁ : Type} {model : StageModel} {setup : Setup σ₀ σ₁}

variable (setup) in
/-- The worlds a run reaches from `start`, one operation after the other. -/
inductive Reaches (start : World σ₀ σ₁) : World σ₀ σ₁ → Prop
  | start : Reaches start start
  | perform {world} (reached : Reaches start world) (operation : Operation)
      (cancellation : Option CancellationToken) :
      Reaches start (perform setup operation cancellation world).2

variable (contract : PairContract model setup)

/-- An executor between two operations. -/
def Standing (world : World σ₀ σ₁) : Prop :=
  world.coordinator.poisoned = true ∨ Settled contract world

variable {contract} {operation : Operation} {world after : World σ₀ σ₁} {thrown : Thrown}

/-- The world an operation is dispatched in. -/
def given (world : World σ₀ σ₁) (cancellation : Option CancellationToken) : World σ₀ σ₁ :=
  { world with cancellation := cancellation }

theorem settled_given (settled : Settled contract world)
    (cancellation : Option CancellationToken) : Settled contract (given world cancellation) := by
  obtain ⟨consistent, front, back⟩ := settled
  exact ⟨consistent, front, back⟩

/-- A throw leaves the tokens, the sampler and the sample alone, whatever became
of the stages. -/
theorem aborted_keeps (aborted : Aborted contract operation world thrown after) :
    after.coordinator.tokens = world.coordinator.tokens ∧
      after.coordinator.sampler = world.coordinator.sampler ∧
      after.coordinator.lastSample = world.coordinator.lastSample ∧
      after.coordinator.haveLastSample = world.coordinator.haveLastSample := by
  have kept {engine : SessionTxnEngine} {poisoned : Bool}
      (coordinator : after.coordinator =
        { world.coordinator with engine := engine, poisoned := poisoned }) :
      after.coordinator.tokens = world.coordinator.tokens ∧
        after.coordinator.sampler = world.coordinator.sampler ∧
        after.coordinator.lastSample = world.coordinator.lastSample ∧
        after.coordinator.haveLastSample = world.coordinator.haveLastSample := by
    rw [coordinator]
    exact ⟨rfl, rfl, rfl, rfl⟩
  cases aborted with
  | transaction facts =>
      cases facts with
      | untouched facts =>
          rw [facts.coordinator]
          exact ⟨rfl, rfl, rfl, rfl⟩
      | restored facts => exact kept facts.coordinator
      | stuck facts => exact kept facts.coordinator
      | torn facts => exact kept facts.coordinator
  | halted reset facts => exact kept facts.coordinator

/-- A rolled back transaction uses up its epoch and nothing else. -/
theorem restored_settled {declined : Prop} (settled : Settled contract world)
    (restored : Restored contract (sessionOf world.coordinator).history world after declined
      thrown) : Settled contract after := by
  have consistent := settled.consistent
  have coordinator := restored.coordinator
  have frontiers := restored.frontiers
  have tokens : after.coordinator.tokens = world.coordinator.tokens := by rw [coordinator]
  have sampler : after.coordinator.sampler = world.coordinator.sampler := by rw [coordinator]
  have have_ : after.coordinator.haveLastSample = world.coordinator.haveLastSample := by
    rw [coordinator]
  have sample : after.coordinator.lastSample = world.coordinator.lastSample := by
    rw [coordinator]
  have history : (sessionOf after.coordinator).history = (sessionOf world.coordinator).history := by
    simp only [sessionOf, Session.history, tokens, frontiers]
  constructor
  · constructor
    · exact restored.idle
    · rw [frontiers]
      exact consistent.valid
    · rw [frontiers]
      exact restored.fresh
    · rw [frontiers, tokens]
      exact consistent.canonical
    · rw [frontiers, tokens]
      exact consistent.lag
    · rw [tokens]
      exact consistent.limit
    · rw [sampler]
      exact consistent.vocabulary
    · rw [sampler]
      exact consistent.magic
    · rw [sampler, tokens]
      exact consistent.counted
    · rw [tokens]
      exact consistent.tokens
    · rw [have_, sample]
      exact consistent.sample
  · rw [history]
    exact restored.front
  · rw [history]
    exact restored.back

theorem aborted_standing (settled : Settled contract world)
    (aborted : Aborted contract operation world thrown after) : Standing contract after := by
  cases aborted with
  | transaction facts =>
      cases facts with
      | untouched facts =>
          right
          obtain ⟨consistent, front, back⟩ := settled
          rw [← facts.coordinator] at consistent front back
          rw [← facts.same0] at front
          rw [← facts.same1] at back
          exact ⟨consistent, front, back⟩
      | restored facts => exact Or.inr (restored_settled settled facts)
      | stuck facts =>
          left
          rw [facts.coordinator]
      | torn facts =>
          left
          rw [facts.coordinator]
  | halted reset facts =>
      left
      rw [facts.coordinator]

/-- What an operation does to a settled executor, seen from before it was given its token. -/
theorem perform_ends (built : Built setup.options) (settled : Settled contract world)
    (healthy : world.coordinator.poisoned = false) (operation : Operation)
    (cancellation : Option CancellationToken) :
    Ends (perform setup operation cancellation)
      (fun answer after => Performed contract operation (given world cancellation) answer after)
      (fun thrown after => Aborted contract operation (given world cancellation) thrown after)
      world := by
  unfold perform
  rw [ends_bind, ends_write]
  exact dispatch_ends built (settled_given settled cancellation) healthy operation

/-- An undisturbed operation throws only where the coordinator refuses it. -/
theorem aborted_refuses (undisturbed : Undisturbed contract world) (commits : Commits contract)
    (aborted : Aborted contract operation world thrown after) :
    Refuses setup model operation world := by
  cases aborted with
  | transaction facts =>
      cases facts with
      | untouched facts => exact facts.cause undisturbed
      | restored facts => exact facts.cause undisturbed
      | stuck facts cause => exact (cause undisturbed).elim
      | torn facts passed cause => exact (cause undisturbed commits).elim
  | halted reset facts cause => exact (cause undisturbed).elim

theorem undisturbed_performs (built : Built setup.options) (settled : Settled contract world)
    (healthy : world.coordinator.poisoned = false) {cancellation : Option CancellationToken}
    (undisturbed : Undisturbed contract (given world cancellation)) (commits : Commits contract)
    (accepts : ¬ Refuses setup model operation (given world cancellation)) :
    ∃ answer after, perform setup operation cancellation world = (.ok answer, after) ∧
      Performed contract operation (given world cancellation) answer after := by
  have ended := perform_ends built settled healthy operation cancellation
  unfold Ends at ended
  rcases outcome : perform setup operation cancellation world with ⟨result, after⟩
  rw [outcome] at ended
  cases result with
  | ok answer => exact ⟨answer, after, rfl, ended⟩
  | error thrown => exact (accepts (aborted_refuses undisturbed commits ended)).elim

theorem perform_poisoned (poisoned : world.coordinator.poisoned = true) (operation : Operation)
    (cancellation : Option CancellationToken) :
    perform setup operation cancellation world =
      (.error (.runtimeError "executor is fail-closed"), given world cancellation) :=
  @poisoned_refuses _ _ setup (given world cancellation) poisoned operation

theorem perform_standing (built : Built setup.options) (standing : Standing contract world)
    (operation : Operation) (cancellation : Option CancellationToken) :
    Standing contract (perform setup operation cancellation world).2 := by
  by_cases poisoned : world.coordinator.poisoned = true
  · rw [perform_poisoned poisoned]
    exact Or.inl poisoned
  · have settled := standing.resolve_left poisoned
    have ended := perform_ends built settled (eq_false_of_ne_true poisoned) operation cancellation
    rcases outcome : perform setup operation cancellation world with ⟨answer, after⟩
    unfold Ends at ended
    rw [outcome] at ended
    cases answer with
    | ok answer => exact Or.inr ended.settled
    | error thrown => exact aborted_standing (settled_given settled cancellation) ended

/-- Every state of a run is settled or poisoned. -/
theorem reaches_standing (built : Built setup.options) {start : World σ₀ σ₁}
    (begins : Settled contract start) (reached : Reaches setup start world) :
    Standing contract world := by
  induction reached with
  | start => exact Or.inr begins
  | perform reached operation cancellation ih =>
      exact perform_standing built ih operation cancellation

/-- A poisoned executor stays poisoned. -/
theorem poisoned_stays (poisoned : world.coordinator.poisoned = true) (operation : Operation)
    (cancellation : Option CancellationToken) :
    (perform setup operation cancellation world).2.coordinator = world.coordinator := by
  rw [perform_poisoned poisoned]
  rfl

end Runs

end Q38.ExecutorRuns
