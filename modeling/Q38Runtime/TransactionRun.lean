import Q38Runtime.Commitment

/-! `run_transaction` as a whole. It returns with both stages and the
coordinator at the same place, or throws in one of four situations: nothing was
prepared, everything was rolled back, a stage would not roll back, or a stage
would not follow the commit. In the last two the executor is poisoned. -/
namespace Q38.TransactionRun
open Contracts Cancellation Backend Sampling Transaction Executor SessionModel StageContracts
  Pipeline RowVerification Coordination Preparation Commitment Imperative

section Transact
variable {σ₀ σ₁ : Type} {model : StageModel} {setup : Setup σ₀ σ₁}
  {contract : PairContract model setup} {attempt : Attempt} {history : List Token}
  {txn : SessionTxnV1} {start : World σ₀ σ₁}

/-- The first chunk is under way and the rows are known. -/
theorem first_launched (prepared : Prepared contract attempt history txn start)
    {rows : List Token} {length : rows.length = attempt.evalTokens.length} {world : World σ₀ σ₁}
    {pending : PendingStage0} (chunk : Chunk (prepared.pass rows length) pending)
    (first : pending.offset = 0) (working : Working contract start world)
    (running : Running0 contract (prepared.pass rows length) 0 pending world)
    (back : contract.back.ready history txn [] 0 world.worker1.state) :
    Launched contract (prepared.pass rows length) world pending where
  chunk := chunk
  working := working
  outcome := by
    rw [first, Pass.mark, ite_self]
    exact running
  back := by
    rw [first, List.take_zero]
    exact back
  reached := by
    intro _ index positive below
    omega
  seen := by
    intro offset _ _ below
    omega

/-- A transaction that does not speculate has an answer at the end of the loop. -/
theorem verified_answer {prepared : Prepared contract attempt history txn start}
    {rows : List Token} {length : rows.length = attempt.evalTokens.length} {world : World σ₀ σ₁}
    {output1 : StageOutput} {verified : Nat}
    (done : Verified contract (prepared.pass rows length) (output1, verified) world)
    (kind : attempt.kind ≠ .speculative) :
    Answer model setup.options start.coordinator.sampler history rows output1 := by
  rw [← prepared.kind] at kind
  cases done.ending with
  | complete mark chunk last answered front => exact answered_plain kind chunk last answered
  | early retained => exact (kind ((prepared.pass rows length).speculative.mp retained)).elim

theorem transact_ends (prepared : Prepared contract attempt history txn start) :
    Ends (transact setup txn attempt.evalTokens attempt.chunkTokens attempt.retainedDraft)
      (fun result after => ∃ count decision,
        Finished contract attempt history txn start result count decision after)
      (fun _ after => Unfinished contract history txn start (Declined model setup.options
          setup.select start.coordinator.sampler history attempt) after ∨
        Torn contract start after) start := by
  have dropped {declined : Prop} {after : World σ₀ σ₁}
      (reversible : Reversible contract history txn.epoch declined start after)
      (declines : declined → Declined model setup.options setup.select
        start.coordinator.sampler history attempt) :
      Unfinished contract history txn start (Declined model setup.options setup.select
        start.coordinator.sampler history attempt) after ∨ Torn contract start after :=
    Or.inl (unfinished_of_reversible prepared.engaged
      { reversible with cause := fun undisturbed => declines (reversible.cause undisturbed) })
  unfold transact
  apply (submit_draft_ends prepared).proceed
  rintro drafted first ⟨working, same, facts⟩
  have front : contract.front.ready history txn [] 0 first.worker0.state := same ▸ prepared.front
  rw [ends_bind]
  apply (prefetch_ends (txn.kind = .appendKnown ∧ txn.evaluatedCount > attempt.chunkTokens)
    attempt.evalTokens False working front facts).weaken
  swap
  · exact fun _ after reversible => dropped reversible False.elim
  rintro _ second ⟨working, front, facts⟩
  obtain ⟨length, -, -⟩ := @drafted_rows_shape _ drafted prepared.sound
  have inside : 0 < (draftedRows attempt drafted).length := by
    rw [length]
    exact List.length_pos_iff.mpr prepared.sound.nonempty
  rw [@submit_first _ drafted _ _ setup txn prepared.sound]
  have entry : FrontAt contract (prepared.pass (draftedRows attempt drafted) length) 0 0
    second := front
  have launching := submit_stage0_ends working entry inside (Nat.zero_mod _)
  apply launching.proceed
  rintro pending third ⟨chunk, first, working, same, running⟩
  have facts := facts.carried same
  rw [ends_bind]
  apply (install_drafts_ends facts).weaken
  swap
  · rintro _ after ⟨rfl, undraftable⟩
    exact dropped ⟨working, running.restores0, facts.restores1, undraftable⟩ Or.inl
  rintro rows fourth ⟨rfl, rfl, back, candidate⟩
  have launched := first_launched prepared chunk first working running back
  have enough : (draftedRows attempt drafted).length - pending.offset ≤ txn.evaluatedCount := by
    rw [prepared.evaluated, length]
    exact Nat.sub_le _ _
  rw [ends_bind]
  apply (verify_rows_ends launched enough).weaken
  swap
  · exact fun _ after reversible => dropped reversible fun refused =>
      Or.inr ⟨_, candidate, Or.inl refused⟩
  rintro ⟨output1, verified⟩ fifth done
  have sampler : fifth.coordinator.sampler = start.coordinator.sampler := by
    rw [done.working.coordinator]
    rfl
  simp only [ends_bind, ensureVocabulary, ends_ensure, ends_read, ends_settle, sampler]
  refine ⟨fun _ => ⟨?_, ?_⟩, fun unlisted => (unlisted done.listed).elim⟩
  · rintro ⟨next, decision⟩ resolved
    simp only
    rw [truncate_settled done next]
    apply (finish_ends done candidate resolved).weaken
    · rintro event after ⟨count, finished⟩
      exact ⟨count, decision, finished⟩
    · exact fun _ _ threw => threw
  · intro thrown unresolved
    obtain ⟨_, _, front, -⟩ := front_at_end done
    apply dropped ⟨done.working, contract.front.restores front,
      contract.back.restores done.back, fun _ => ?_⟩ id
    rw [prepared.kind] at unresolved
    exact Or.inr ⟨_, candidate, Or.inr ⟨output1, thrown, verified_answer done, unresolved⟩⟩

end Transact

section Rollback
variable {σ₀ σ₁ : Type} {model : StageModel} {setup : Setup σ₀ σ₁}
  (contract : PairContract model setup) (history : List Token) (epoch : Nat)
  {world : World σ₀ σ₁}

/-- Both stages and the engine went back. -/
structure WentBack (world after : World σ₀ σ₁) : Prop where
  coordinator : after.coordinator =
    { world.coordinator with engine := rolledBack world.coordinator.engine }
  token : after.cancellation = world.cancellation
  front : contract.front.idle history epoch after.worker0.state
  back : contract.back.idle history epoch after.worker1.state
  closed0 : after.worker0.finished = (.rollback, none) :: world.worker0.finished
  closed1 : after.worker1.finished = (.rollback, none) :: world.worker1.finished

/-- One of the stages did not go back. -/
structure WentAstray (world after : World σ₀ σ₁) : Prop where
  coordinator : after.coordinator = { world.coordinator with poisoned := true }
  token : after.cancellation = world.cancellation
  closed : ∃ first second, (first ≠ none ∨ second ≠ none) ∧
    after.worker0.finished = (.rollback, first) :: world.worker0.finished ∧
    after.worker1.finished = (.rollback, second) :: world.worker1.finished
  cause : ¬ (contract.front.calm ∧ contract.back.calm)

variable {contract history epoch}

theorem rollback_active {engine : SessionTxnEngine} (active : engine.active = true) :
    (Transaction.rollback engine).2 = rolledBack engine := by
  unfold Transaction.rollback
  rw [if_neg (by simp [active])]
  dsimp only
  split <;> rfl

theorem rollback_prepared_ends (active : world.coordinator.engine.active = true)
    (restores0 : Restores setup.stage0 contract.front.calm contract.front.idle history epoch
      world.worker0.state)
    (restores1 : Restores setup.stage1 contract.back.calm contract.back.idle history epoch
      world.worker1.state) :
    Ends (rollbackPrepared setup epoch)
      (fun _ after => WentBack contract history epoch world after ∨
        WentAstray contract world after)
      (fun _ _ => False) world := by
  unfold rollbackPrepared
  rw [ends_catching]
  apply (submit0_recorded .rollback (fun _ => setup.stage0.rollback epoch) restores0).proceed
  rintro outcome0 first ⟨coordinator, token, same, closed0, lands0⟩
  rw [← same] at restores1
  apply (submit1_recorded .rollback (fun _ => setup.stage1.rollback epoch) restores1).proceed
  rintro outcome1 second ⟨coordinator', token', same', closed1, lands1⟩
  have unmoved : second.coordinator = world.coordinator := coordinator'.trans coordinator
  have recorded : second.worker0.finished =
      (.rollback, failure outcome0) :: world.worker0.finished := by rw [same', closed0]
  rw [same] at closed1
  have astray (threw : failure outcome0 ≠ none ∨ failure outcome1 ≠ none)
      (cause : ¬ (contract.front.calm ∧ contract.back.calm)) :
      WentAstray contract world
        { second with coordinator := { second.coordinator with poisoned := true } } := {
    coordinator := by rw [unmoved]
    token := token'.trans token
    closed := ⟨_, _, threw, recorded, closed1⟩
    cause := cause }
  simp only [ends_bind, ends_settle, ends_write]
  constructor
  · rintro value0 rfl
    constructor
    · rintro value1 rfl
      left
      rw [if_pos (by rw [unmoved]; exact active), unmoved, rollback_active active]
      exact {
        coordinator := by simp only [World.withEngine, unmoved]
        token := token'.trans token
        front := same' ▸ lands0
        back := lands1
        closed0 := recorded
        closed1 := closed1 }
    · rintro thrown rfl
      exact Or.inr (astray (Or.inr (Option.some_ne_none _)) fun calm => lands1 calm.2)
  · rintro thrown rfl
    exact Or.inr (astray (Or.inl (Option.some_ne_none _)) fun calm => lands0 calm.1)

end Rollback

section Outcomes
variable {σ₀ σ₁ : Type} {model : StageModel} {setup : Setup σ₀ σ₁}
  (contract : PairContract model setup) (history : List Token) (world : World σ₀ σ₁)
  (after : World σ₀ σ₁)

/-- A throw that left the session alone. -/
structure Untouched (declined : Prop) : Prop where
  coordinator : after.coordinator = world.coordinator
  same0 : after.worker0 = world.worker0
  same1 : after.worker1 = world.worker1
  token : TokenLater world.cancellation after.cancellation
  cause : Undisturbed contract world → declined

/-- A throw after which the prepared transaction was rolled back. -/
structure Restored (declined : Prop) (thrown : Thrown) : Prop where
  coordinator : after.coordinator = { world.coordinator with
    engine := after.coordinator.engine
    poisoned := !isInterruption thrown && setup.options.backendFailureIsFatal }
  idle : after.coordinator.engine.active = false
  sessionHash : after.coordinator.engine.sessionHash = world.coordinator.engine.sessionHash
  frontiers : after.coordinator.engine.frontiers =
    { world.coordinator.engine.frontiers with
      epoch := world.coordinator.engine.frontiers.epoch + 1 }
  fresh : world.coordinator.engine.frontiers.epoch < maxUInt64
  front : contract.front.idle history after.coordinator.engine.frontiers.epoch
    after.worker0.state
  back : contract.back.idle history after.coordinator.engine.frontiers.epoch
    after.worker1.state
  token : TokenLater world.cancellation after.cancellation
  closed0 : Closed (.rollback, none) world.worker0 after.worker0
  closed1 : Closed (.rollback, none) world.worker1 after.worker1
  cause : Undisturbed contract world → declined

/-- A throw after which some stage did not end the transaction as it was told. -/
structure Isolated (ending : Task) : Prop where
  coordinator : after.coordinator = { world.coordinator with
    engine := after.coordinator.engine, poisoned := true }
  token : TokenLater world.cancellation after.cancellation
  closed : ∃ first second, (first ≠ none ∨ second ≠ none) ∧
    Closed (ending, first) world.worker0 after.worker0 ∧
    Closed (ending, second) world.worker1 after.worker1

/-- The four ways a transaction throws. -/
inductive Failed (declined : Prop) (thrown : Thrown) : Prop
  | untouched (facts : Untouched contract world after declined)
  | restored (facts : Restored contract history world after declined thrown)
  | stuck (facts : Isolated world after .rollback) (cause : ¬ Undisturbed contract world)
  | torn (facts : Isolated world after .commit)
      (passed : ∀ token, after.cancellation = some token → token.state = .sealed)
      (cause : Undisturbed contract world → ¬ Commits contract)

end Outcomes

section Run
variable {σ₀ σ₁ : Type} {model : StageModel} {setup : Setup σ₀ σ₁}
  (contract : PairContract model setup) (attempt : Attempt) (history : List Token)
  (world : World σ₀ σ₁)

/-- A settled session and arguments that fit it. -/
structure Startable : Prop where
  sound : Sound attempt
  healthy : world.coordinator.poisoned = false
  idle : world.coordinator.engine.active = false
  valid : validateFrontiers world.coordinator.engine.frontiers = none
  target : world.coordinator.engine.frontiers.target = history.length
  epoch : world.coordinator.engine.frontiers.epoch ≤ maxUInt64
  room : world.coordinator.engine.frontiers.canonical < 2 ^ 32
  vocabulary : world.coordinator.sampler.vocabulary = setup.options.vocabSize
  appended : attempt.kind = .appendKnown → attempt.appendedCount ≠ 0 ∧
    world.coordinator.engine.frontiers.canonical - world.coordinator.engine.frontiers.target ≤ 1 ∧
    attempt.evalTokens.length = attempt.appendedCount +
      (world.coordinator.engine.frontiers.canonical - world.coordinator.engine.frontiers.target)
  pending : attempt.kind ≠ .appendKnown →
    world.coordinator.engine.frontiers.canonical - world.coordinator.engine.frontiers.target = 1
  front : contract.front.idle history world.coordinator.engine.frontiers.epoch
    world.worker0.state
  back : contract.back.idle history world.coordinator.engine.frontiers.epoch
    world.worker1.state

/-- How far a transaction moves the canonical frontier. -/
def advances (count : Nat) : Nat :=
  if attempt.kind = .appendKnown then attempt.appendedCount else count

/-- `Finished`, told from before the prepare. -/
structure Completed (result : CommitEventV1 × StageOutput × List Token) (count : Nat)
    (decision : Option SamplerDecisionV1) (after : World σ₀ σ₁) : Prop where
  transacted : Transacted model setup.options setup.select world.coordinator.sampler history
    attempt result.2.2 count result.2.1.nextToken decision
  listed : inVocabulary setup.options.vocabSize result.2.1.nextToken = true
  positive : 0 < count
  within : count ≤ attempt.evalTokens.length
  event : result.1.newlyPublished = publishes attempt.kind count
  coordinator : after.coordinator =
    { world.coordinator with
      engine := after.coordinator.engine
      sampler := decidedSampler decision world.coordinator.sampler
      lastLogitSnapshot := after.coordinator.lastLogitSnapshot }
  idle : after.coordinator.engine.active = false
  sessionHash : after.coordinator.engine.sessionHash = world.coordinator.engine.sessionHash
  valid : validateFrontiers after.coordinator.engine.frontiers = none
  canonical : after.coordinator.engine.frontiers.canonical =
    world.coordinator.engine.frontiers.canonical + advances attempt count
  target : after.coordinator.engine.frontiers.target =
    world.coordinator.engine.frontiers.target + count
  epoch : after.coordinator.engine.frontiers.epoch =
    world.coordinator.engine.frontiers.epoch + 1
  fresh : world.coordinator.engine.frontiers.epoch < maxUInt64
  front : contract.front.idle (history ++ result.2.2.take count)
    after.coordinator.engine.frontiers.epoch after.worker0.state
  back : contract.back.idle (history ++ result.2.2.take count)
    after.coordinator.engine.frontiers.epoch after.worker1.state
  token : TokenLater world.cancellation after.cancellation
  passed : ∀ token, after.cancellation = some token → token.state = .sealed
  closed0 : Closed (.commit, none) world.worker0 after.worker0
  closed1 : Closed (.commit, none) world.worker1 after.worker1

/-- The engine behind the prepare of an attempt. -/
def openedFor (engine : SessionTxnEngine) : SessionTxnEngine :=
  if attempt.kind = .appendKnown then
    openedAppend engine attempt.appendedCount attempt.evalTokens.length
  else opened engine attempt.kind attempt.evalTokens.length

variable {contract attempt history world}

/-- The frontiers of a prepared transaction: those before, with the reserved
suffix of an append. -/
theorem opened_for_shape (engine : SessionTxnEngine) :
    (openedFor attempt engine).frontiers = { engine.frontiers with
        canonical := engine.frontiers.canonical + advances attempt 0 } ∧
      (openedFor attempt engine).sessionHash = engine.sessionHash ∧
      (openedFor attempt engine).txn = openedTxn engine attempt.kind attempt.evalTokens.length ∧
      Engaged (openedFor attempt engine) (openedFor attempt engine).txn := by
  by_cases append : attempt.kind = .appendKnown
  · rw [openedFor, if_pos append, advances, if_pos append, append]
    exact ⟨rfl, rfl, rfl, rfl, rfl, rfl, rfl, rfl⟩
  · rw [openedFor, if_neg append, advances, if_neg append]
    exact ⟨rfl, rfl, rfl, rfl, rfl, rfl, rfl, rfl⟩

/-- A prepare of a startable attempt is refused only when the epochs run out. -/
theorem prepare_attempt_ends (startable : Startable contract attempt history world) :
    Ends (coordinate (failed "prepare failed: ")
        (if attempt.kind = .appendKnown then
          prepareAppendKnown attempt.appendedCount (toUInt32 attempt.evalTokens.length)
        else prepare attempt.kind (toUInt32 attempt.evalTokens.length)))
      (fun _ after => after = world.withEngine (openedFor attempt world.coordinator.engine) ∧
        world.coordinator.engine.frontiers.epoch < maxUInt64)
      (fun _ after => after = world ∧
        world.coordinator.engine.frontiers.epoch = maxUInt64) world := by
  have sound := startable.sound
  have extent : toUInt32 attempt.evalTokens.length = attempt.evalTokens.length :=
    Nat.mod_eq_of_lt sound.extent
  have nonempty : attempt.evalTokens.length ≠ 0 := by
    have := List.length_pos_iff.mpr sound.nonempty
    omega
  have more {engine : SessionTxnEngine} (differs : engine.frontiers.epoch ≠ maxUInt64)
      (same : engine = world.coordinator.engine) :
      world.coordinator.engine.frontiers.epoch < maxUInt64 := by
    have := startable.epoch
    rw [same] at differs
    omega
  rw [ends_coordinate, extent]
  by_cases append : attempt.kind = .appendKnown
  · obtain ⟨appended, most, covers⟩ := startable.appended append
    rw [if_pos append]
    apply (prepare_append_known_spec _ _ _).weaken
    · rintro _ after ⟨guards, rfl⟩
      refine ⟨?_, more guards.epoch rfl⟩
      rw [openedFor, if_pos append]
    · rintro _ after ⟨rfl, refused⟩
      refine ⟨rfl, ?_⟩
      by_contra fresh
      refine refused ⟨startable.idle, appended, startable.valid, most, covers, ?_, fresh⟩
      have := startable.room
      have := sound.extent
      rw [addChecked, if_neg]
      simp only [maxUInt64]
      omega
  · have pending := startable.pending append
    rw [if_neg append]
    apply (prepare_spec _ _ _).weaken
    · rintro _ after ⟨guards, rfl⟩
      refine ⟨?_, more guards.epoch rfl⟩
      rw [openedFor, if_neg append]
    · rintro _ after ⟨rfl, refused⟩
      refine ⟨rfl, ?_⟩
      by_contra fresh
      refine refused ⟨startable.idle, nonempty, startable.valid, ?_, fresh⟩
      rcases sound.listed with kind | kind | kind
      · exact (append kind).elim
      · simp [refuseExtent, kind, pending, sound.single kind]
      · simp [refuseExtent, kind, pending]

/-- The prepared world, as the body of the transaction finds it. -/
theorem startable_prepared (startable : Startable contract attempt history world) :
    Prepared contract attempt history
      (openedFor attempt world.coordinator.engine).txn
      (world.withEngine (openedFor attempt world.coordinator.engine)) := by
  obtain ⟨frontiers, sessionHash, txn, engaged⟩ :=
    @opened_for_shape attempt world.coordinator.engine
  obtain ⟨zero, one, target, draft⟩ := (validate_frontiers_iff _).mp startable.valid
  have opens : Opens history world.coordinator.engine.frontiers.epoch
      (openedFor attempt world.coordinator.engine).txn := by
    rw [txn]
    exact ⟨rfl, rfl, rfl, startable.target, Nat.lt_succ_self _⟩
  have room := startable.room
  have extent := startable.sound.extent
  have small : advances attempt 0 ≤ attempt.evalTokens.length := by
    rw [advances]
    split
    · next append =>
        have := (startable.appended append).2.2
        omega
    · exact Nat.zero_le _
  constructor
  · exact startable.sound
  · rw [txn]
    rfl
  · rw [txn]
    rfl
  · exact engaged
  · apply (validate_frontiers_iff _).mpr
    simp only [World.withEngine, frontiers]
    exact ⟨zero, one, by omega, by omega⟩
  · simp only [World.withEngine, frontiers, maxUInt64]
    omega
  · intro append
    have := startable.appended append
    simp only [World.withEngine, frontiers, advances, append, if_true]
    omega
  · exact startable.vocabulary
  · exact contract.front.opens startable.front opens
  · exact contract.back.opens startable.back opens

/-- What the transaction leaves behind, seen from before the prepare. -/
theorem finished_completed (startable : Startable contract attempt history world)
    {result : CommitEventV1 × StageOutput × List Token} {count : Nat}
    {decision : Option SamplerDecisionV1} {after : World σ₀ σ₁}
    (fresh : world.coordinator.engine.frontiers.epoch < maxUInt64)
    (finished : Finished contract attempt history
      (openedFor attempt world.coordinator.engine).txn
      (world.withEngine (openedFor attempt world.coordinator.engine)) result count decision after) :
    Completed contract attempt history world result count decision after := by
  obtain ⟨frontiers, sessionHash, txn, -⟩ :=
    @opened_for_shape attempt world.coordinator.engine
  have prepared := startable_prepared startable
  have within := finished.within
  have advanced := finished.engine.frontiers
  have epoch : after.coordinator.engine.frontiers.epoch =
      (openedFor attempt world.coordinator.engine).txn.epoch := by
    rw [advanced]
    rfl
  exact {
    transacted := finished.transacted
    listed := finished.listed
    positive := finished.positive
    within := within
    event := finished.event
    coordinator := finished.coordinator
    idle := finished.engine.idle
    sessionHash := finished.engine.sessionHash.trans sessionHash
    valid := by
      rw [advanced]
      apply advanced_frontiers_valid prepared.valid
      intro append
      have kind : attempt.kind = .appendKnown := by
        rw [← append]
        change _ = (openedFor attempt world.coordinator.engine).txn.kind
        rw [txn]
        rfl
      have covered := prepared.covered kind
      omega
    canonical := by
      rw [advanced]
      simp only [advancedFrontiers, World.withEngine, frontiers, txn, openedTxn, advances,
        publishes]
      by_cases append : attempt.kind = .appendKnown <;> simp [append]
    target := by
      rw [advanced]
      simp only [advancedFrontiers, World.withEngine, frontiers]
    epoch := by
      rw [epoch, txn]
      rfl
    fresh := fresh
    front := by
      rw [epoch]
      exact finished.front
    back := by
      rw [epoch]
      exact finished.back
    token := finished.token
    passed := finished.passed
    closed0 := finished.closed0
    closed1 := finished.closed1 }

theorem Completed.earlier {polled : World σ₀ σ₁} {result : CommitEventV1 × StageOutput × List Token}
    {count : Nat} {decision : Option SamplerDecisionV1} {after : World σ₀ σ₁}
    (completed : Completed contract attempt history polled result count decision after)
    (waited : Waited contract world polled) :
    Completed contract attempt history world result count decision after := by
  have same := waited.coordinator
  obtain ⟨transacted, listed, positive, within, event, coordinator, idle, sessionHash, valid,
    canonical, target, epoch, fresh, front, back, token, passed, closed0, closed1⟩ := completed
  rw [same] at transacted coordinator sessionHash canonical target epoch fresh
  rw [waited.same0] at closed0
  rw [waited.same1] at closed1
  exact ⟨transacted, listed, positive, within, event, coordinator, idle, sessionHash, valid,
    canonical, target, epoch, fresh, front, back, waited.token.trans token, passed, closed0,
    closed1⟩

/-- The engine a rollback leaves has the frontiers of the time before the
prepare; only the epoch is used up. -/
theorem rolled_back_frontiers {engine : SessionTxnEngine}
    (opened : StillOpen (openedFor attempt world.coordinator.engine) engine) :
    (rolledBack engine).frontiers = { world.coordinator.engine.frontiers with
      epoch := world.coordinator.engine.frontiers.epoch + 1 } := by
  obtain ⟨frontiers, -, txn, -⟩ :=
    @opened_for_shape attempt world.coordinator.engine
  have kind := opened.kind
  have base := opened.baseCanonical
  have epoch := opened.epoch
  rw [txn] at kind base epoch
  simp only [rolledBack, restoredCanonical, kind, base, epoch, opened.frontiers, frontiers,
    openedTxn, advances]
  split <;> rfl

/-- The last handler poisons the executor where failures are fatal. -/
def fatal (setup : Setup σ₀ σ₁) (thrown : Thrown) : Bool :=
  !isInterruption thrown && setup.options.backendFailureIsFatal

theorem poison_fatal_ends {thrown : Thrown} {middle : World σ₀ σ₁}
    {returns : Unit → World σ₀ σ₁ → Prop}
    (holds : returns () { middle with coordinator := { middle.coordinator with
      poisoned := middle.coordinator.poisoned || fatal setup thrown } }) :
    Ends (Proc.whenever (isInterruption thrown = false ∧
        setup.options.backendFailureIsFatal = true) poison)
      returns (fun _ _ => False) middle := by
  rw [ends_whenever, poison, ends_write]
  constructor
  · rintro ⟨failure, fatal_⟩
    simpa [fatal, failure, fatal_] using holds
  · intro spared
    have kept : fatal setup thrown = false := by
      cases interruption : isInterruption thrown <;>
        cases fatal_ : setup.options.backendFailureIsFatal <;> simp_all [fatal]
    rw [kept, Bool.or_false] at holds
    exact holds

/-- The handlers of a transaction that still has its stages in hand. -/
theorem abandon_unfinished {middle : World σ₀ σ₁} {thrown : Thrown} {declined : Prop}
    (healthy : world.coordinator.poisoned = false)
    (fresh : world.coordinator.engine.frontiers.epoch < maxUInt64)
    (unfinished : Unfinished contract history (openedFor attempt world.coordinator.engine).txn
      (world.withEngine (openedFor attempt world.coordinator.engine)) declined middle) :
    Ends (abandon setup (openedFor attempt world.coordinator.engine).txn.epoch thrown)
      (fun _ after => Failed contract history world after declined thrown)
      (fun _ _ => False) middle := by
  obtain ⟨-, sessionHash, txn, -⟩ :=
    @opened_for_shape attempt world.coordinator.engine
  have spared : middle.coordinator.poisoned = false := by
    rw [unfinished.coordinator]
    exact healthy
  unfold abandon
  simp only [ends_bind, ends_read]
  rw [ends_whenever]
  refine ⟨fun active => ?_, fun inactive => (inactive unfinished.engine.active).elim⟩
  apply (rollback_prepared_ends active unfinished.restores0 unfinished.restores1).weaken
  swap
  · exact fun _ _ impossible => impossible
  rintro _ after (back | astray)
  · have frontiers := rolled_back_frontiers unfinished.engine
    have engine : after.coordinator.engine = rolledBack middle.coordinator.engine := by
      rw [back.coordinator]
    have epoch : after.coordinator.engine.frontiers.epoch =
        (openedFor attempt world.coordinator.engine).txn.epoch := by
      rw [engine, frontiers, txn]
      rfl
    apply poison_fatal_ends
    refine .restored {
      coordinator := ?_
      idle := ?_
      sessionHash := ?_
      frontiers := by
        change after.coordinator.engine.frontiers = _
        rw [engine]
        exact frontiers
      fresh := fresh
      front := by
        change contract.front.idle history after.coordinator.engine.frontiers.epoch _
        rw [epoch]
        exact back.front
      back := by
        change contract.back.idle history after.coordinator.engine.frontiers.epoch _
        rw [epoch]
        exact back.back
      token := by
        change TokenLater _ after.cancellation
        rw [back.token]
        exact unfinished.token
      closed0 := ⟨middle.worker0, unfinished.ran0, back.closed0⟩
      closed1 := ⟨middle.worker1, unfinished.ran1, back.closed1⟩
      cause := fun undisturbed => unfinished.cause { undisturbed with } }
    · change { after.coordinator with
        poisoned := after.coordinator.poisoned || fatal setup thrown } =
          { world.coordinator with
            engine := after.coordinator.engine, poisoned := fatal setup thrown }
      rw [back.coordinator, unfinished.coordinator]
      simp [World.withEngine, healthy]
    · change after.coordinator.engine.active = false
      rw [engine]
      rfl
    · change after.coordinator.engine.sessionHash = _
      rw [engine]
      exact unfinished.engine.sessionHash.trans sessionHash
  · apply poison_fatal_ends
    refine .stuck {
      coordinator := ?_
      token := ?_
      closed := ?_ } ?_
    · change { after.coordinator with
        poisoned := after.coordinator.poisoned || fatal setup thrown } =
          { world.coordinator with engine := after.coordinator.engine, poisoned := true }
      rw [astray.coordinator, unfinished.coordinator]
      simp [World.withEngine]
    · change TokenLater _ after.cancellation
      rw [astray.token]
      exact unfinished.token
    · obtain ⟨first, second, threw, closed0, closed1⟩ := astray.closed
      exact ⟨first, second, threw, ⟨middle.worker0, unfinished.ran0, closed0⟩,
        ⟨middle.worker1, unfinished.ran1, closed1⟩⟩
    · exact fun undisturbed => astray.cause ⟨undisturbed.front, undisturbed.back⟩

/-- The handlers behind the coordinator's commit only pass the failure on. -/
theorem abandon_torn {middle : World σ₀ σ₁} {thrown : Thrown} {declined : Prop}
    (torn : Torn contract (world.withEngine (openedFor attempt world.coordinator.engine)) middle) :
    Ends (abandon setup (openedFor attempt world.coordinator.engine).txn.epoch thrown)
      (fun _ after => Failed contract history world after declined thrown)
      (fun _ _ => False) middle := by
  obtain ⟨count, positive, advanced⟩ := torn.engine
  unfold abandon
  simp only [ends_bind, ends_read]
  rw [ends_whenever]
  refine ⟨fun active => by simp [advanced.idle] at active, fun _ => ?_⟩
  apply poison_fatal_ends
  refine .torn {
    coordinator := ?_
    token := torn.token
    closed := torn.closed } torn.passed fun undisturbed => torn.cause { undisturbed with }
  change { middle.coordinator with
    poisoned := middle.coordinator.poisoned || fatal setup thrown } =
      { world.coordinator with engine := middle.coordinator.engine, poisoned := true }
  rw [torn.coordinator]
  simp [World.withEngine]

theorem Failed.earlier {polled : World σ₀ σ₁} {declined reason : Prop} {thrown : Thrown}
    {after : World σ₀ σ₁} (failed_ : Failed contract history polled after declined thrown)
    (waited : Waited contract world polled) (because : declined → reason) :
    Failed contract history world after reason thrown := by
  have same := waited.coordinator
  cases failed_ with
  | untouched facts =>
      exact .untouched {
        coordinator := facts.coordinator.trans same
        same0 := facts.same0.trans waited.same0
        same1 := facts.same1.trans waited.same1
        token := waited.token.trans facts.token
        cause := fun undisturbed => because (facts.cause (waited.calm undisturbed)) }
  | restored facts =>
      obtain ⟨coordinator, idle, sessionHash, frontiers, fresh, front, back, token, closed0,
        closed1, cause⟩ := facts
      rw [same] at coordinator sessionHash frontiers fresh
      rw [waited.same0] at closed0
      rw [waited.same1] at closed1
      exact .restored ⟨coordinator, idle, sessionHash, frontiers, fresh, front, back,
        waited.token.trans token, closed0, closed1, fun undisturbed =>
          because (cause (waited.calm undisturbed))⟩
  | stuck facts cause =>
      obtain ⟨coordinator, token, closed⟩ := facts
      rw [same] at coordinator
      rw [waited.same0, waited.same1] at closed
      exact .stuck ⟨coordinator, waited.token.trans token, closed⟩
        fun undisturbed => cause (waited.calm undisturbed)
  | torn facts passed cause =>
      obtain ⟨coordinator, token, closed⟩ := facts
      rw [same] at coordinator
      rw [waited.same0, waited.same1] at closed
      exact .torn ⟨coordinator, waited.token.trans token, closed⟩ passed
        fun undisturbed => cause (waited.calm undisturbed)

theorem Startable.polled {after : World σ₀ σ₁}
    (startable : Startable contract attempt history world)
    (waited : Waited contract world after) : Startable contract attempt history after := by
  obtain ⟨sound, healthy, idle, valid, target, epoch, room, vocabulary, appended, pending, front,
    back⟩ := startable
  have same := waited.coordinator
  rw [← same] at healthy idle valid target epoch room vocabulary appended pending front back
  rw [← waited.same0] at front
  rw [← waited.same1] at back
  exact ⟨sound, healthy, idle, valid, target, epoch, room, vocabulary, appended, pending, front,
    back⟩

/-- Why an undisturbed transaction throws. -/
def Hopeless (setup : Setup σ₀ σ₁) (model : StageModel) (attempt : Attempt)
    (history : List Token) (world : World σ₀ σ₁) : Prop :=
  Declined model setup.options setup.select world.coordinator.sampler history attempt ∨
    world.coordinator.engine.frontiers.epoch = maxUInt64

theorem run_transaction_ends (startable : Startable contract attempt history world) :
    Ends (runTransaction setup attempt.kind attempt.evalTokens attempt.chunkTokens
        attempt.appendedCount attempt.retainedDraft)
      (fun result after => ∃ count decision,
        Completed contract attempt history world result count decision after)
      (fun thrown after => Failed contract history world after
        (Hopeless setup model attempt history world) thrown) world := by
  have sound := startable.sound
  unfold runTransaction ensureHealthy
  simp only [ends_bind, ends_read, ends_ensure]
  refine ⟨fun _ => ?_, fun sick => (sick startable.healthy).elim⟩
  apply (poll_ends contract).weaken
  swap
  · rintro thrown after ⟨waited, disturbed, -⟩
    exact .untouched ⟨waited.coordinator, waited.same0, waited.same1, waited.token,
      fun undisturbed => (disturbed undisturbed).elim⟩
  rintro _ polled waited
  simp only [ends_bind, ends_ensure]
  refine ⟨fun _ => ⟨fun _ => ⟨fun _ => ?_, fun mismatch => (mismatch sound.matched).elim⟩,
    fun zero => (zero sound.chunk).elim⟩, fun empty => (empty sound.nonempty).elim⟩
  have ready := startable.polled waited
  apply (prepare_attempt_ends ready).weaken
  swap
  · rintro thrown _ ⟨rfl, exhausted⟩
    rw [waited.coordinator] at exhausted
    exact .untouched ⟨waited.coordinator, waited.same0, waited.same1, waited.token,
      fun _ => Or.inr exhausted⟩
  rintro _ _ ⟨rfl, fresh⟩
  rw [ends_bind, ends_read, ends_catching]
  apply (transact_ends (startable_prepared ready)).weaken
  · rintro result after ⟨count, decision, finished⟩
    exact ⟨count, decision, (finished_completed ready fresh finished).earlier waited⟩
  · intro thrown middle threw
    have abandoned : Ends (abandon setup (openedFor attempt polled.coordinator.engine).txn.epoch
        thrown) (fun _ after => Failed contract history polled after
          (Declined model setup.options setup.select polled.coordinator.sampler history attempt)
          thrown) (fun _ _ => False) middle := by
      rcases threw with unfinished | torn
      · exact abandon_unfinished ready.healthy fresh unfinished
      · exact abandon_torn torn
    apply abandoned.proceed
    intro _ after threw
    apply threw.earlier waited
    rw [waited.coordinator]
    exact Or.inl

end Run

end Q38.TransactionRun
