import Q38Runtime.PleBackend
import Q38Runtime.SpeculativeDecoding

/-!
What the wrapper costs a speculation. `PleStage0Backend` only commits a transaction
all of whose prepared rows it has hashed, and a speculation that meets a rejected
draft or a stop token stops evaluating. So a speculative step returns only if every
draft but the last was kept; after any other the session is isolated, though the
coordinator has committed.
-/
namespace Q38.PleSpeculation
open Contracts Cancellation Backend Sampling Transaction Executor SessionModel StageContracts
  Pipeline RowVerification Coordination Preparation Commitment TransactionRun SessionRefinement
  ExecutorRuns PleBackend PleHash Imperative

/-- A first stage that follows a commit only when it has evaluated every prepared row. -/
def Strict {σ : Type} {backend : StageBackend σ} (contract : FrontContract backend) : Prop :=
  ∀ {history txn rows mark count state}, contract.ready history txn rows mark state →
    0 < count → count ≤ rows.length →
    Ends (backend.commit txn.epoch count) (fun _ _ => toUInt32 rows.length = txn.evaluatedCount)
      (fun _ _ => True) state

section Transaction
variable {σ₀ σ₁ : Type} {model : StageModel} {setup : Setup σ₀ σ₁}
  {contract : PairContract model setup} {attempt : Attempt} {history : List Token}
  {txn : SessionTxnV1} {start : World σ₀ σ₁}

theorem commit_stages_strict (strict : Strict contract.front) {world : World σ₀ σ₁}
    {front : List Token} {mark count : Nat} {decision : Option SamplerDecisionV1}
    (ready : contract.front.ready history txn front mark world.worker0.state)
    (positive : 0 < count) (within : count ≤ front.length) :
    Ends (commitStages setup txn.epoch count decision)
      (fun _ _ => toUInt32 front.length = txn.evaluatedCount) (fun _ _ => True) world := by
  have commits := strict ready positive within
  unfold commitStages
  apply (submit0_recorded .commit (fun _ => setup.stage0.commit txn.epoch count) commits).proceed
  rintro c0 first ⟨-, -, -, -, followed⟩
  rw [ends_bind]
  apply (ends_trivial _ _).weaken
  swap
  · exact fun _ _ _ => trivial
  intro c1 second _
  simp only [ends_bind, ends_settle]
  refine ⟨?_, fun _ _ => trivial⟩
  rintro _ rfl
  refine ⟨fun _ _ => ?_, fun _ _ => trivial⟩
  exact (ends_trivial _ _).weaken (fun _ _ _ => followed) fun _ _ _ => trivial

variable {rows : List Token} {length : rows.length = attempt.evalTokens.length}
  {prepared : Prepared contract attempt history txn start} {output1 : StageOutput}
  {verified : Nat} {world : World σ₀ σ₁}

/-- Where stage 0 has evaluated every prepared row, at most the last draft was
rejected. -/
theorem strict_count (exact : model.Exact)
    (done : Verified contract (prepared.pass rows length) (output1, verified) world)
    (kind : txn.kind = .speculative) :
    ∃ processed mark, FrontAt contract (prepared.pass rows length) processed mark world ∧
      verified ≤ processed ∧ processed ≤ rows.length ∧ stateCommit txn output1 ≤ processed ∧
        (processed = rows.length → rows.length ≤ stateCommit txn output1 + 1) := by
  rw [stateCommit, if_pos kind]
  cases done.ending with
  | complete mark chunk last answered front =>
      have final : _ = true := chunk.final.trans (decide_eq_true last)
      have all := (answered.exact chunk (fun retained => last ▸ done.reached retained) exact).2
        kind final
      change output1.stateCommitCount = rows.length at all
      exact ⟨_, mark, front, le_rfl, le_rfl, all.le, fun _ => by omega⟩
  | early retained cut front count =>
      change output1.stateCommitCount = verified at count
      exact ⟨_, _, front, Nat.le_succ _, cut, by omega, fun all => by omega⟩

/-- What a returned speculation tells: at most the last draft was not published. -/
def Whole (attempt : Attempt) (event : CommitEventV1) : Prop :=
  attempt.kind = .speculative → attempt.evalTokens.length ≤ event.newlyPublished + 1

theorem conclude_strict (strict : Strict contract.front) (exact : model.Exact)
    {after : World σ₀ σ₁} {engine : SessionTxnEngine}
    (done : Verified contract (prepared.pass rows length) (output1, verified) world)
    {next : Token} {decision : Option SamplerDecisionV1}
    (expecting : Expecting start txn verified engine)
    (beyond : Beyond contract start world engine after) :
    Ends (concludeTransaction setup txn { output1 with nextToken := next } decision)
      (fun event _ => Whole attempt event) (fun _ _ => True) after := by
  have engaged := expecting.engaged
  have here : after.coordinator.engine = engine := by rw [beyond.coordinator]
  have same : stateCommit txn { output1 with nextToken := next } = stateCommit txn output1 := rfl
  have extent := prepared.sound.extent
  obtain ⟨acked0, acked1⟩ := acknowledge_accepted engaged
  by_cases kind : txn.kind = .speculative
  swap
  · refine (ends_trivial _ _).weaken (fun event _ _ speculative => ?_) fun _ _ _ => trivial
    exact (kind (prepared.kind.trans speculative)).elim
  unfold concludeTransaction
  rw [ends_bind, ends_read, here, ends_bind]
  apply coordinate_accepted _ (by rw [here]; exact acked0)
  rw [ends_bind]
  apply coordinate_accepted _ acked1
  rw [ends_bind, same]
  rcases verified_decision done with ⟨accepted, positive, within⟩ | ⟨⟨message, refused⟩, -⟩
  · rw [← engaged.txn] at accepted
    apply coordinate_accepted _ (decide_accepted engaged accepted)
    rw [ends_bind]
    obtain ⟨processed, mark, front, enough, inside, covers, most⟩ := strict_count exact done kind
    obtain ⟨event, committed, answer, published, -⟩ :=
      coordinator_commits prepared expecting (within.trans (enough.trans (length ▸ inside)))
    apply coordinate_accepted _ answer
    have size : (rows.take processed).length = processed := by
      rw [List.length_take]
      omega
    have ready : contract.front.ready history txn (rows.take processed) mark
        after.worker0.state := beyond.same0 ▸ front
    have follows (told : World σ₀ σ₁) (same0 : told.worker0 = after.worker0) :
        Ends (commitStages setup txn.epoch (stateCommit txn output1) decision)
          (fun _ _ => toUInt32 (rows.take processed).length = txn.evaluatedCount)
          (fun _ _ => True) told :=
      commit_stages_strict strict (same0 ▸ ready) positive (by omega)
    rw [ends_bind, ends_catching]
    refine (follows _ (by rfl)).weaken (fun _ ended all => ?_) fun _ _ _ => trivial
    unfold retainLogits
    rw [ends_bind, ends_write, ends_pure]
    intro speculative
    rw [size, prepared.evaluated, toUInt32, Nat.mod_eq_of_lt (by omega)] at all
    have counted : event.newlyPublished = stateCommit txn output1 := by
      rw [published, publishes, if_neg (by simp [speculative])]
    have last := most (all.trans length.symm)
    omega
  · rw [← engaged.txn] at refused
    rw [ends_coordinate]
    unfold Ends
    change Lands _ _ (Transaction.decide (stateCommit txn output1) (acknowledged engine))
    rw [decide_refused engaged refused]
    trivial

theorem transact_strict (strict : Strict contract.front) (exact : model.Exact)
    (prepared : Prepared contract attempt history txn start) :
    Ends (transact setup txn attempt.evalTokens attempt.chunkTokens attempt.retainedDraft)
      (fun result _ => Whole attempt result.1) (fun _ _ => True) start := by
  unfold transact
  apply (submit_draft_ends prepared).proceed
  rintro drafted first ⟨working, same, facts⟩
  have front : contract.front.ready history txn [] 0 first.worker0.state := same ▸ prepared.front
  rw [ends_bind]
  apply (prefetch_ends (txn.kind = .appendKnown ∧ txn.evaluatedCount > attempt.chunkTokens)
    attempt.evalTokens False working front facts).weaken
  swap
  · exact fun _ _ _ => trivial
  rintro _ second ⟨working, front, facts⟩
  obtain ⟨length, -, -⟩ := @drafted_rows_shape _ drafted prepared.sound
  have inside : 0 < (draftedRows attempt drafted).length := by
    rw [length]
    exact List.length_pos_iff.mpr prepared.sound.nonempty
  rw [@submit_first _ drafted _ _ setup txn prepared.sound]
  have entry : FrontAt contract (prepared.pass (draftedRows attempt drafted) length) 0 0
    second := front
  apply (submit_stage0_ends working entry inside (Nat.zero_mod _)).proceed
  rintro pending third ⟨chunk, first, working, same, running⟩
  rw [ends_bind]
  apply (install_drafts_ends (facts.carried same)).weaken
  swap
  · exact fun _ _ _ => trivial
  rintro rows fourth ⟨rfl, rfl, back, candidate⟩
  have launched := first_launched prepared chunk first working running back
  have enough : (draftedRows attempt drafted).length - pending.offset ≤ txn.evaluatedCount := by
    rw [prepared.evaluated, length]
    exact Nat.sub_le _ _
  rw [ends_bind]
  apply (verify_rows_ends launched enough).weaken
  swap
  · exact fun _ _ _ => trivial
  rintro ⟨output1, verified⟩ fifth done
  simp only [ends_bind, ensureVocabulary, ends_ensure, ends_read, ends_settle]
  refine ⟨fun _ => ⟨?_, fun _ _ => trivial⟩, fun _ => trivial⟩
  rintro ⟨next, decision⟩ _
  simp only
  rw [truncate_settled done next]
  unfold finishTransaction
  rw [ends_bind]
  apply shortening_ends done
  intro engine engaged frontiers sessionHash
  have expecting : Expecting start txn verified engine := ⟨engaged, frontiers, sessionHash⟩
  have same : fifth.coordinator = start.coordinator := done.working.coordinator
  rw [ends_bind]
  apply (seal_token_ends contract).weaken
  swap
  · exact fun _ _ _ => trivial
  rintro _ _ ⟨token, rfl, later, -⟩
  have beyond : Beyond contract start fifth engine
      (accessed (fifth.withEngine engine) token) :=
    ⟨by simp only [accessed, World.withEngine, same], later, rfl, rfl⟩
  exact (conclude_strict strict exact done expecting beyond).weaken (fun _ _ whole => whole)
    fun _ _ _ => trivial

theorem run_strict (strict : Strict contract.front) (exact : model.Exact)
    (startable : Startable contract attempt history world) :
    Ends (runTransaction setup attempt.kind attempt.evalTokens attempt.chunkTokens
        attempt.appendedCount attempt.retainedDraft)
      (fun result _ => Whole attempt result.1) (fun _ _ => True) world := by
  unfold runTransaction ensureHealthy
  simp only [ends_bind, ends_read, ends_ensure]
  refine ⟨fun _ => ?_, fun _ => trivial⟩
  apply (poll_ends contract).weaken
  swap
  · exact fun _ _ _ => trivial
  rintro _ polled waited
  simp only [ends_bind, ends_ensure]
  refine ⟨fun _ => ⟨fun _ => ⟨fun _ => ?_, fun _ => trivial⟩, fun _ => trivial⟩, fun _ => trivial⟩
  have ready := startable.polled waited
  apply (prepare_attempt_ends ready).weaken
  swap
  · exact fun _ _ _ => trivial
  rintro _ _ ⟨rfl, -⟩
  rw [ends_bind, ends_read, ends_catching]
  apply (transact_strict strict exact (startable_prepared ready)).weaken
  · exact fun _ _ whole => whole
  · intro thrown middle _
    rw [ends_bind]
    exact (ends_trivial _ _).weaken (fun _ _ _ => trivial) fun _ _ _ => trivial

end Transaction

section Steps
variable {σ₀ σ₁ : Type} {model : StageModel} {setup : Setup σ₀ σ₁}
  {contract : PairContract model setup} {world : World σ₀ σ₁}

theorem speculate_strict (strict : Strict contract.front) (exact : model.Exact)
    (built : Built setup.options) (settled : Settled contract world)
    (healthy : world.coordinator.poisoned = false) {maxDraft width : Nat}
    (one : world.coordinator.tokens.length = world.coordinator.engine.frontiers.target + 1)
    (room : world.coordinator.tokens.length < setup.options.contextLimit.toNat)
    (decoding : Decoding setup.options (sessionOf world.coordinator) (.speculativeStep maxDraft)
      (speculativeAttempt (sessionOf world.coordinator) width)) :
    Ends (speculate setup width) (fun result _ => width ≤ result.publishedTokens.length)
      (fun _ _ => True) world := by
  have admitted := decoding.admits.mpr ⟨one, room⟩
  have consistent := settled.consistent
  obtain ⟨token, rows⟩ := token_at_pending one
  have fitting := asked_fitting built consistent.ordered consistent.lag admitted decoding.asked
  have ran := (transaction_ends built settled healthy admitted decoding.asked).both
    (run_strict strict exact (settled_startable settled healthy fitting))
  have pending : (sessionOf world.coordinator).tokens.getD (sessionOf world.coordinator).target 0 =
      world.coordinator.tokens.getD world.coordinator.engine.frontiers.target 0 := rfl
  simp only [speculativeAttempt, rows, pending, List.singleton_append] at ran
  unfold speculate
  simp only [ends_bind, ends_read, ends_settle, token, Except.ok.injEq, forall_eq']
  constructor
  swap
  · rintro _ ⟨⟩
  apply ran.weaken
  swap
  · exact fun _ _ _ => trivial
  rintro ⟨event, output1, evaluated⟩ after ⟨⟨count, decision, completed⟩, whole⟩
  have completed' : Completed contract (speculativeAttempt (sessionOf world.coordinator) width)
      (sessionOf world.coordinator).history world (event, output1, evaluated) count decision
      after := by
    rw [speculativeAttempt, rows, pending]
    exact completed
  have grows := transacted_grows built consistent.ordered consistent.lag admitted decoding.asked
    completed'.transacted completed'.positive completed'.within completed'.listed
  have length := grows.length
  rw [decoding.fresh] at length
  have published : event.newlyPublished = count := completed.event
  have most : width + 1 ≤ count + 1 := by
    have most := whole rfl
    simpa [published] using most
  simp only [published]
  have fresh : ((evaluated.drop 1).take (count - 1) ++ [output1.nextToken]).length = count := length
  rw [ends_bind]
  apply (ends_trivial _ _).weaken
  swap
  · exact fun _ _ _ => trivial
  intro _ told _
  unfold remember
  rw [ends_bind, ends_write, ends_pure, fresh]
  omega

theorem speculative_step_strict (strict : Strict contract.front) (exact : model.Exact)
    (built : Built setup.options) (settled : Settled contract world)
    (healthy : world.coordinator.poisoned = false) (maxDraft : Nat) :
    Ends (speculativeStep setup maxDraft)
      (fun result _ => draftWidth setup.options (sessionOf world.coordinator) maxDraft ≤
        result.publishedTokens.length) (fun _ _ => True) world := by
  unfold speculativeStep ensureHealthy
  simp only [ends_bind, ends_read, ends_ensure]
  refine ⟨fun _ => ?_, fun _ => trivial⟩
  apply (poll_ends contract).weaken
  swap
  · exact fun _ _ _ => trivial
  intro _ polled waited
  have settled := settled.polled waited
  rw [← waited.coordinator] at healthy ⊢
  have consistent := settled.consistent
  simp only [ends_bind, ends_ensure, ends_read, ends_ite]
  refine ⟨fun narrow => ⟨fun plain => ?_, fun drafting => ?_⟩, fun _ => trivial⟩
  · have none : draftWidth setup.options (sessionOf polled.coordinator) maxDraft = 0 := by
      rcases plain with sampled | zero
      · exact if_pos sampled
      · simp [draftWidth, zero]
    rw [none]
    exact (ends_trivial _ _).weaken (fun _ _ _ => Nat.zero_le _) fun _ _ _ => trivial
  · simp only [not_or] at drafting
    simp only [consistent.canonical]
    refine ⟨fun one => ⟨fun room => ?_, fun _ => trivial⟩, fun _ => trivial⟩
    have width : draftWidth setup.options (sessionOf polled.coordinator) maxDraft =
        min maxDraft (setup.options.contextLimit.toNat - polled.coordinator.tokens.length - 1) :=
      if_neg drafting.1
    rw [← width]
    constructor
    · intro none
      rw [none]
      exact (ends_trivial _ _).weaken (fun _ _ _ => Nat.zero_le _) fun _ _ _ => trivial
    · intro some_
      have ordered := consistent.ordered
      apply speculate_strict strict exact built settled healthy (by omega) (Nat.lt_of_not_le room)
      apply speculative_decoding (Nat.le_of_not_lt narrow)
      rw [attemptOf, if_neg some_]

end Steps

section Wrapper
variable {σ τ σ₁ : Type} {ple : PleStage0 σ τ} {stage1 : StageBackend σ₁} {model : StageModel}
  {options completed : ExecutorOptions} {select : Selection} {weather : Nat → Weather}

theorem ple_strict (contract : FrontContract ple.inner) : Strict (pleFront contract) :=
  fun ready positive within =>
    (PleBackend.commit_ends ready positive within).weaken (fun _ _ lands => lands.2)
      fun _ _ _ => trivial

/-- Over the wrapper a speculative step that returns published at least as many
tokens as there were drafts: no draft but the last was rejected, and none is a stop.
Any earlier rejection throws. -/
theorem speculation_keeps_drafts
    (pair : PairContract model (innerSetup completed select weather ple stage1))
    (exact : model.Exact) {start world after : World (PleState σ τ) σ₁} {inner : σ} {store : τ}
    (made : makeExecutor options (pleStage0Backend ple).stage stage1.stage =
      .ok (completed, start.coordinator))
    (wrapped : makePleStage0 ple inner store = .ok start.worker0.state)
    (front : pair.front.idle [] 0 inner) (back : pair.back.idle [] 0 start.worker1.state)
    (reached : Reaches (pleSetup completed select weather ple stage1) start world)
    {maxDraft : Nat} {cancellation : Option CancellationToken} {answer : List Token}
    (run : perform (pleSetup completed select weather ple stage1) (.speculativeStep maxDraft)
      cancellation world = (.ok answer, after)) :
    draftWidth completed (sessionOf world.coordinator) maxDraft ≤ answer.length := by
  have built := (make_executor_constructed made).built
  have standing := reaches_standing built (fresh_wrapped pair made wrapped front back) reached
  by_cases poisoned : world.coordinator.poisoned = true
  · rw [perform_poisoned poisoned] at run
    cases run
  have settled := standing.resolve_left poisoned
  have healthy := eq_false_of_ne_true poisoned
  have step := @speculative_step_strict _ _ _ _ (plePair pair) (given world cancellation)
    (ple_strict pair.front) exact built (settled_given settled cancellation) healthy maxDraft
  have ended : Ends (perform (pleSetup completed select weather ple stage1)
      (.speculativeStep maxDraft) cancellation)
      (fun answer _ => draftWidth completed (sessionOf world.coordinator) maxDraft ≤ answer.length)
      (fun _ _ => True) world := by
    unfold perform dispatch
    rw [ends_bind, ends_write, ends_bind]
    exact step
  have kept := ended.returned (congrArg Prod.fst run)
  exact kept

end Wrapper

section Samples
open MockBackend MockContract ExecutorInvariant

theorem wrapped_speculates :
    (perform wrappedMocks (.speculativeStep 4) none wrappedPending).1 = .ok [0, 3, 3, 1, 0] := by
  decide +kernel

def wrappedSpeculated : World (PleState MockState PleStore.Store) MockState :=
  (perform wrappedMocks (.speculativeStep 4) none wrappedPending).2

theorem wrapped_speculated : perform wrappedMocks (.speculativeStep 4) none wrappedPending =
    (.ok [0, 3, 3, 1, 0], wrappedSpeculated) := by
  rw [wrappedSpeculated, ← wrapped_speculates, Prod.mk.eta]

theorem speculation_keeps_drafts_mocks :
    draftWidth greedyCompleted (sessionOf wrappedPending.coordinator) 4 ≤
      ([0, 3, 3, 1, 0] : List Token).length :=
  @speculation_keeps_drafts _ _ _ samplePle (mockBackend ⟨.stage1, 1, 4⟩) _ _ greedyCompleted
    (fun _ _ _ => .ok 0) (fun _ => {})
    (mockPair greedyCompleted (fun _ _ _ => .ok 0) (fun _ => {}) rfl rfl) (mock_exact _ _ _)
    wrappedStart wrappedPending wrappedSpeculated {} PleStore.sampleStore made_greedy rfl
    ⟨rfl, rfl, rfl, rfl⟩ ⟨rfl, rfl, rfl, rfl⟩ wrapped_reached 4 none [0, 3, 3, 1, 0]
    wrapped_speculated

/-- The second of three drafts is rejected: without the wrapper two tokens are
published, with it the session is isolated behind a commit that moved the frontier. -/
example :
    let plain := perform SpeculativeDecoding.greedyMocks (.speculativeStep 3) none
      SpeculativeDecoding.pendingWorld
    let wrapped := perform wrappedMocks (.speculativeStep 3) none wrappedPending
    plain.1 = .ok [0, 3] ∧ wrapped.1 =
        .error (.runtimeError "PLE commit does not match candidate state") ∧
      wrapped.2.coordinator.poisoned = true ∧ wrapped.2.coordinator.tokens.length = 2 ∧
      wrapped.2.coordinator.engine.frontiers.canonical = 4 := by
  decide +kernel

end Samples
end Q38.PleSpeculation
