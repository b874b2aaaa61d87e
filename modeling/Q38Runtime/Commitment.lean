import Q38Runtime.Preparation

/-! From the verified rows to the end of the transaction: the seal decides, and
behind the coordinator's commit nothing is undone any more. -/
namespace Q38.Commitment
open Contracts Cancellation Backend Sampling Transaction Executor SessionModel StageContracts
  Pipeline RowVerification Coordination Preparation Imperative

/-- A transaction the engine has not finished. -/
structure StillOpen (before after : SessionTxnEngine) : Prop where
  active : after.active = true
  sessionHash : after.sessionHash = before.sessionHash
  frontiers : after.frontiers = before.frontiers
  epoch : after.txn.epoch = before.txn.epoch
  kind : after.txn.kind = before.txn.kind
  baseCanonical : after.txn.baseCanonical = before.txn.baseCanonical

/-- The engine behind the commit of `count` rows. -/
structure Advanced (before after : SessionTxnEngine) (count : Nat) : Prop where
  idle : after.active = false
  sessionHash : after.sessionHash = before.sessionHash
  frontiers : after.frontiers = advancedFrontiers before count

section Outcomes
variable {σ₀ σ₁ : Type} {model : StageModel} {setup : Setup σ₀ σ₁}
  (contract : PairContract model setup) (attempt : Attempt) (history : List Token)
  (txn : SessionTxnV1) (start : World σ₀ σ₁)

/-- The commits of `run_transaction` that both stages are promised to follow: of
all rows, and of a speculation with the row launched ahead on stage 0. -/
structure Commits : Prop where
  front : ∀ {txn : SessionTxnV1} {processed mark count : Nat},
    (processed = count ∧ count = txn.evaluatedCount) ∨
      (txn.kind = .speculative ∧ processed = count + 1 ∧ mark = count) →
    contract.front.committable txn processed mark count
  back : ∀ {txn : SessionTxnV1} {mark count : Nat},
    count = txn.evaluatedCount ∨ txn.kind = .speculative →
    contract.back.committable txn count mark count

/-- A throw before the coordinator's commit. -/
structure Unfinished (declined : Prop) (after : World σ₀ σ₁) : Prop where
  coordinator : after.coordinator =
    { start.coordinator with engine := after.coordinator.engine }
  engine : StillOpen start.coordinator.engine after.coordinator.engine
  token : TokenLater start.cancellation after.cancellation
  ran0 : Ran start.worker0 after.worker0
  ran1 : Ran start.worker1 after.worker1
  restores0 : Restores setup.stage0 contract.front.calm contract.front.idle history txn.epoch
    after.worker0.state
  restores1 : Restores setup.stage1 contract.back.calm contract.back.idle history txn.epoch
    after.worker1.state
  cause : Undisturbed contract start → declined

/-- A throw behind the coordinator's commit. -/
structure Torn (after : World σ₀ σ₁) : Prop where
  coordinator : after.coordinator =
    { start.coordinator with engine := after.coordinator.engine, poisoned := true }
  engine : ∃ count, 0 < count ∧ Advanced start.coordinator.engine after.coordinator.engine count
  token : TokenLater start.cancellation after.cancellation
  passed : ∀ token, after.cancellation = some token → token.state = .sealed
  closed : ∃ first second, (first ≠ none ∨ second ≠ none) ∧
    Closed (.commit, first) start.worker0 after.worker0 ∧
    Closed (.commit, second) start.worker1 after.worker1
  cause : Undisturbed contract start → ¬ Commits contract

/-- A return: `count` rows are committed everywhere. -/
structure Finished (result : CommitEventV1 × StageOutput × List Token) (count : Nat)
    (decision : Option SamplerDecisionV1) (after : World σ₀ σ₁) : Prop where
  transacted : Transacted model setup.options setup.select start.coordinator.sampler history
    attempt result.2.2 count result.2.1.nextToken decision
  listed : inVocabulary setup.options.vocabSize result.2.1.nextToken = true
  positive : 0 < count
  within : count ≤ attempt.evalTokens.length
  event : result.1.newlyPublished = publishes attempt.kind count
  coordinator : after.coordinator =
    { start.coordinator with
      engine := after.coordinator.engine
      sampler := decidedSampler decision start.coordinator.sampler
      lastLogitSnapshot := after.coordinator.lastLogitSnapshot }
  engine : Advanced start.coordinator.engine after.coordinator.engine count
  front : contract.front.idle (history ++ result.2.2.take count) txn.epoch after.worker0.state
  back : contract.back.idle (history ++ result.2.2.take count) txn.epoch after.worker1.state
  token : TokenLater start.cancellation after.cancellation
  passed : ∀ token, after.cancellation = some token → token.state = .sealed
  closed0 : Closed (.commit, none) start.worker0 after.worker0
  closed1 : Closed (.commit, none) start.worker1 after.worker1

variable {contract attempt history txn start}

/-- A throw of the loop or before it. -/
theorem unfinished_of_reversible {declined : Prop} {after : World σ₀ σ₁}
    (engaged : Engaged start.coordinator.engine txn)
    (dropped : Reversible contract history txn.epoch declined start after) :
    Unfinished contract history txn start declined after where
  coordinator := by rw [dropped.working.coordinator]
  engine := by
    rw [dropped.working.coordinator]
    exact ⟨engaged.active, rfl, rfl, rfl, rfl, rfl⟩
  token := dropped.working.token
  ran0 := dropped.working.ran0
  ran1 := dropped.working.ran1
  restores0 := dropped.restores0
  restores1 := dropped.restores1
  cause := dropped.cause

end Outcomes

section Settlement
variable {σ₀ σ₁ : Type} {model : StageModel} {setup : Setup σ₀ σ₁}
  {contract : PairContract model setup} {attempt : Attempt} {history : List Token}
  {txn : SessionTxnV1} {start : World σ₀ σ₁} {rows : List Token}
  {length : rows.length = attempt.evalTokens.length}

/-- Where the published token comes from: the answer of stage 1, or a decision
the sampler made in its present state. -/
theorem resolve_token_ok {options : ExecutorOptions} {select : Selection}
    {sampler : TransactionalSampler} {kind : TxnKind} {out : StageOutput} {next : Token}
    {decision : Option SamplerDecisionV1}
    (resolved : resolveToken options select sampler kind rows out = .ok (next, decision)) :
    (sampler.sampled = false ∧ next = out.nextToken ∧ decision = none) ∨
      (sampler.sampled = true ∧ kind ≠ .speculative ∧
        inVocabulary options.vocabSize next = true ∧ ∃ made, decision = some made ∧
          next = made.token ∧ made.rngBefore = sampler.state.rngState ∧
          made.rngAfter = nextState made.rngBefore) := by
  have drawn : sampleToken options select sampler kind rows out = .ok (next, decision) := by
    unfold resolveToken at resolved
    split at resolved
    · cases resolved
    · split at resolved
      · cases resolved
      · cases resolved
        assumption
  unfold sampleToken at drawn
  by_cases sampled : sampler.sampled = true
  · right
    rw [if_pos sampled] at drawn
    by_cases kinds : kind = .speculative
    · rw [if_pos kinds] at drawn
      cases drawn
    rw [if_neg kinds] at drawn
    split at drawn
    · cases drawn
    · next made prepared =>
        split at drawn
        · next listed =>
            cases drawn
            obtain ⟨-, before, after⟩ := prepare_decides prepared
            exact ⟨sampled, kinds, listed, made, rfl, rfl, before, after⟩
        · cases drawn
  · left
    rw [if_neg sampled] at drawn
    cases drawn
    exact ⟨Bool.eq_false_iff.mpr sampled, rfl, rfl⟩

/-- The token that is published was checked, whoever chose it. -/
theorem resolved_listed {options : ExecutorOptions} {select : Selection}
    {sampler : TransactionalSampler} {kind : TxnKind} {out : StageOutput} {next : Token}
    {decision : Option SamplerDecisionV1}
    (listed : inVocabulary options.vocabSize out.nextToken = true)
    (resolved : resolveToken options select sampler kind rows out = .ok (next, decision)) :
    inVocabulary options.vocabSize next = true := by
  rcases resolve_token_ok resolved with ⟨-, same, -⟩ | ⟨-, -, chosen, -⟩
  · exact same ▸ listed
  · exact chosen

theorem resolved_decides {options : ExecutorOptions} {select : Selection}
    {sampler : TransactionalSampler} {kind : TxnKind} {out : StageOutput} {next : Token}
    {decision : Option SamplerDecisionV1} (vocabulary : sampler.vocabulary = options.vocabSize)
    (resolved : resolveToken options select sampler kind rows out = .ok (next, decision)) :
    Decides sampler decision := by
  intro made given
  rcases resolve_token_ok resolved with ⟨-, -, greedy⟩ | ⟨sampled, -, chosen, other, same, token, rng⟩
  · rw [greedy] at given
    cases given
  · rw [same] at given
    cases given
    exact ⟨sampled, by rw [vocabulary, ← token]; exact chosen, rng⟩

/-- There is no stop among the rows a speculation has reached. -/
theorem no_stop_reached {options : ExecutorOptions} {round : Round} {count verified : Nat}
    (reached : Reached model options round verified)
    (small : min count round.evalTokens.length ≤ verified) :
    ((round.evalTokens.take count).drop 1).findIdx? (isStop options) = none := by
  rw [List.findIdx?_eq_none_iff]
  intro token member
  obtain ⟨index, inside, rfl⟩ := List.getElem_of_mem member
  rw [List.length_drop, List.length_take] at inside
  have passed := (reached (1 + index) (by omega) (by omega)).2
  rw [List.getD_eq_getElem _ _ (by omega)] at passed
  simp only [List.getElem_drop, List.getElem_take]
  exact passed

variable {prepared : Prepared contract attempt history txn start} {output1 : StageOutput}
  {verified : Nat} {world : World σ₀ σ₁}

theorem truncate_settled
    (done : Verified contract (prepared.pass rows length) (output1, verified) world)
    (next : Token) :
    truncateAtStop setup.options txn.kind rows { output1 with nextToken := next } =
      { output1 with nextToken := next } := by
  by_cases kind : txn.kind = .speculative
  · have retained : (prepared.pass rows length).retained = true :=
      (prepared.pass rows length).speculative.mpr kind
    have none : ((rows.take output1.stateCommitCount).drop 1).findIdx?
        (isStop setup.options) = none := by
      have reached := done.reached retained
      apply no_stop_reached reached
      cases done.ending with
      | complete => exact min_le_right _ _
      | early _ _ _ count => exact (min_le_left _ _).trans count.le
    rw [truncateAtStop, if_pos kind]
    simp only [none]
  · rw [truncateAtStop, if_neg kind]

/-- What a transaction that does not speculate answers. -/
theorem answered_plain (kind : txn.kind ≠ .speculative) {pending : PendingStage0}
    (chunk : Chunk (prepared.pass rows length) pending)
    (last : pending.offset + pending.count = rows.length)
    (answered : Answered contract (prepared.pass rows length) pending output1) :
    Answer model setup.options start.coordinator.sampler history rows output1 := by
  have final : pending.finalChunk = true := by
    rw [chunk.final]
    exact decide_eq_true last
  constructor
  · have predicted := answered.predicts chunk fun speculates => kind speculates.1
    rw [last, Round.historyAt] at predicted
    change model.predicts (history ++ rows.take rows.length) _ at predicted
    rwa [List.take_length] at predicted
  · intro asked
    obtain ⟨polls, boundary, output⟩ := answered
    have asks : needLogits setup (prepared.pass rows length) pending = true := by
      change needsLogits setup.options start.coordinator.sampler.sampled txn.kind
        pending.finalChunk = true
      simpa [needsLogits, final, kind] using asked
    have scored := contract.back.scored output asks
    have whole : rows.take pending.offset ++ pending.tokens = rows := (final_rows chunk final).2
    change model.logits (history ++ (rows.take pending.offset ++ pending.tokens)) _ at scored
    rwa [whole] at scored

/-- The verified rows and the resolved token make a result of the transaction,
unless the target accepted a number of rows that is no prefix. -/
theorem verified_settles
    (done : Verified contract (prepared.pass rows length) (output1, verified) world)
    {next : Token} {decision : Option SamplerDecisionV1}
    (resolved : resolveToken setup.options setup.select start.coordinator.sampler txn.kind rows
      output1 = .ok (next, decision))
    (positive : 0 < stateCommit txn output1) (within : stateCommit txn output1 ≤ rows.length) :
    Settles model setup.options setup.select start.coordinator.sampler history attempt rows
      (stateCommit txn output1) next decision := by
  by_cases kind : txn.kind = .speculative
  · rw [kind] at resolved
    obtain ⟨greedy, same, none⟩ : start.coordinator.sampler.sampled = false ∧
        next = output1.nextToken ∧ decision = Option.none := by
      rcases resolve_token_ok resolved with greedy | ⟨-, other, -⟩
      · exact greedy
      · exact (other rfl).elim
    subst same none
    have retained : (prepared.pass rows length).retained = true :=
      (prepared.pass rows length).speculative.mpr kind
    have reached := done.reached retained
    simp only [stateCommit, if_pos kind] at positive within ⊢
    refine .speculative (prepared.kind ▸ kind) greedy ?_
    cases done.ending with
    | complete mark chunk last answered front =>
        have final : _ = true := chunk.final.trans (decide_eq_true last)
        obtain ⟨accepted, predicted⟩ := answered.verdict chunk kind final
        exact {
          positive := positive
          within := within
          reached := fun index above below => reached index above (below.trans_le within)
          predicted := predicted
          ended := .complete reached (fun offset count span => done.seen offset count span span.1)
            accepted }
    | early _ cut front count predicted dropped =>
        simp only at cut count
        subst count
        exact {
          positive := positive
          within := within
          reached := reached
          predicted := predicted
          ended := .early cut done.seen dropped }
  · cases done.ending with
    | complete mark chunk last answered front =>
        rw [prepared.kind] at resolved kind
        rw [stateCommit, if_neg (prepared.kind ▸ kind), prepared.evaluated, ← length]
        exact .plain kind (fun offset count span => done.seen offset count span span.1)
          (answered_plain (prepared.kind ▸ kind) chunk last answered) resolved
    | early retained => exact (kind ((prepared.pass rows length).speculative.mp retained)).elim

/-- The decision about the verified rows: accepted, or refused because the
target accepted no prefix, which an exact target does not do. -/
theorem verified_decision
    (done : Verified contract (prepared.pass rows length) (output1, verified) world) :
    (publishedBy { txn with evaluatedCount := verified } (stateCommit txn output1) =
        .ok (publishes txn.kind (stateCommit txn output1)) ∧
      0 < stateCommit txn output1 ∧ stateCommit txn output1 ≤ verified) ∨
    ((∃ message, publishedBy { txn with evaluatedCount := verified } (stateCommit txn output1) =
        .error message) ∧ ¬ Undisturbed contract start) := by
  have sound := prepared.sound
  have nonempty : 0 < rows.length := by
    rw [length]
    exact List.length_pos_iff.mpr sound.nonempty
  by_cases kind : txn.kind = .speculative
  · simp only [stateCommit, if_true, publishedBy, publishes, kind]
    by_cases odd : output1.stateCommitCount = 0 ∨ output1.stateCommitCount > verified
    · right
      rw [if_pos odd]
      refine ⟨⟨_, rfl⟩, fun undisturbed => ?_⟩
      cases done.ending with
      | complete mark chunk last answered front =>
          have final : _ = true := chunk.final.trans (decide_eq_true last)
          have whole := (answered.exact chunk (fun retained => last ▸ done.reached retained)
            (contract.back.calmExact undisturbed.back)).2 kind final
          change output1.stateCommitCount = rows.length at whole
          change output1.stateCommitCount = 0 ∨ output1.stateCommitCount > rows.length at odd
          omega
      | early _ cut front count =>
          have := done.positive
          simp only at count this
          omega
    · left
      rw [if_neg odd]
      exact ⟨by simp, by omega, by omega⟩
  · left
    have whole : verified = rows.length := by
      cases done.ending with
      | complete => rfl
      | early retained => exact (kind ((prepared.pass rows length).speculative.mp retained)).elim
    have evaluated := prepared.evaluated
    simp only [stateCommit, if_neg kind, whole, evaluated, length]
    refine ⟨?_, by omega, le_rfl⟩
    rcases sound.listed with append | decode | speculates
    · simp [publishedBy, publishes, prepared.kind, append]
    · simp [publishedBy, publishes, prepared.kind, decode, sound.single decode]
    · exact (kind (prepared.kind.trans speculates)).elim

end Settlement



section Commit
variable {σ₀ σ₁ : Type} {model : StageModel} {setup : Setup σ₀ σ₁}
  {contract : PairContract model setup} {history : List Token} {txn : SessionTxnV1}

/-- What `commitStages` does, whether it returns or throws. -/
structure Followed (first second : Option Thrown) (world after : World σ₀ σ₁) : Prop where
  token : after.cancellation = world.cancellation
  closed0 : after.worker0.finished = (.commit, first) :: world.worker0.finished
  closed1 : after.worker1.finished = (.commit, second) :: world.worker1.finished

/-- Both stages follow the commit, or one of them was never promised to. -/
theorem commit_stages_ends {world : World σ₀ σ₁} {front back : List Token}
    {mark0 mark1 count : Nat} {decision : Option SamplerDecisionV1}
    (ready0 : contract.front.ready history txn front mark0 world.worker0.state)
    (ready1 : contract.back.ready history txn back mark1 world.worker1.state)
    (positive : 0 < count) (within0 : count ≤ front.length) (within1 : count ≤ back.length)
    (decides : Decides world.coordinator.sampler decision) :
    Ends (commitStages setup txn.epoch count decision)
      (fun _ after => Followed none none world after ∧
        after.coordinator = { world.coordinator with
          sampler := decidedSampler decision world.coordinator.sampler } ∧
        contract.front.idle (history ++ front.take count) txn.epoch after.worker0.state ∧
        contract.back.idle (history ++ back.take count) txn.epoch after.worker1.state)
      (fun _ after => (∃ first second, (first ≠ none ∨ second ≠ none) ∧
          Followed first second world after) ∧
        after.coordinator = world.coordinator ∧
        (¬ (contract.front.calm ∧ contract.front.committable txn front.length mark0 count) ∨
          ¬ (contract.back.calm ∧ contract.back.committable txn back.length mark1 count)))
      world := by
  have inner0 := contract.front.commit ready0 positive within0
  apply (submit0_recorded .commit (fun _ => setup.stage0.commit txn.epoch count) inner0).proceed
  rintro c0 first ⟨coordinator, token, same, recorded, lands0⟩
  rw [← same] at ready1
  have inner1 := contract.back.commit ready1 positive within1
  apply (submit1_recorded .commit (fun _ => setup.stage1.commit txn.epoch count) inner1).proceed
  rintro c1 second ⟨coordinator', token', same', recorded', lands1⟩
  have followed : Followed (failure c0) (failure c1) world second := by
    refine ⟨token'.trans token, ?_, ?_⟩
    · rw [same', recorded]
    · rw [recorded', same]
  have unmoved : second.coordinator = world.coordinator := coordinator'.trans coordinator
  simp only [ends_bind, ends_settle]
  constructor
  · rintro value0 rfl
    constructor
    · rintro value1 rfl
      rw [← unmoved] at decides
      apply commit_decision_ends decides
      refine ⟨⟨followed.token, followed.closed0, followed.closed1⟩, ?_, ?_, lands1⟩
      · simp only [World.withSampler, unmoved]
      · simp only [World.withSampler, same']
        exact lands0
    · rintro thrown rfl
      exact ⟨⟨_, _, Or.inr (Option.some_ne_none _), followed⟩, unmoved, Or.inr lands1⟩
  · rintro thrown rfl
    exact ⟨⟨_, _, Or.inl (Option.some_ne_none _), followed⟩, unmoved, Or.inl lands0⟩

end Commit

section Finish
variable {σ₀ σ₁ : Type} {model : StageModel} {setup : Setup σ₀ σ₁}
  {contract : PairContract model setup} {attempt : Attempt} {history : List Token}
  {txn : SessionTxnV1} {start : World σ₀ σ₁} {rows : List Token}
  {length : rows.length = attempt.evalTokens.length}
  {prepared : Prepared contract attempt history txn start} {output1 : StageOutput}
  {verified : Nat} {world : World σ₀ σ₁}

/-- A speculation that ended early is cut to what was verified; afterwards the
engine expects exactly the verified rows, however the loop ended. -/
theorem shortening_ends
    (done : Verified contract (prepared.pass rows length) (output1, verified) world)
    {returns : Unit → World σ₀ σ₁ → Prop} {throws : Thrown → World σ₀ σ₁ → Prop}
    (holds : ∀ engine, Engaged engine { txn with evaluatedCount := verified } →
      engine.frontiers = start.coordinator.engine.frontiers →
      engine.sessionHash = start.coordinator.engine.sessionHash →
      returns () (world.withEngine engine)) :
    Ends (Proc.whenever (attempt.retainedDraft.isSome = true ∧ verified < txn.evaluatedCount)
        (coordinate (failed "speculative shortening failed: ") (shortenSpeculative verified)))
      returns throws world := by
  have same : world.coordinator = start.coordinator := done.working.coordinator
  have engaged : Engaged world.coordinator.engine txn := by
    rw [same]
    exact prepared.engaged
  have evaluated : txn.evaluatedCount = rows.length := prepared.evaluated.trans length.symm
  rw [ends_whenever]
  constructor
  · rintro ⟨retained, shorter⟩
    have kind := (prepared.pass rows length).speculative.mp retained
    apply coordinate_accepted _ (shorten_accepted engaged kind done.positive shorter)
    apply holds
    · exact {
        active := engaged.active
        txn := by rw [shortened, engaged.txn]
        stage0Ack := engaged.stage0Ack
        stage1Ack := engaged.stage1Ack
        prepared := engaged.prepared }
    · rw [shortened, same]
    · rw [shortened, same]
  · intro whole
    have all : verified = txn.evaluatedCount := by
      cases done.ending with
      | complete => exact evaluated.symm
      | early retained cut =>
          change verified < rows.length at cut
          exact (whole ⟨retained, evaluated ▸ cut⟩).elim
    subst all
    have kept := holds world.coordinator.engine engaged (by rw [same]) (by rw [same])
    exact kept

/-- The frontiers a commit computes only depend on what the engine keeps. -/
theorem advanced_frontiers_same {before after : SessionTxnEngine} (count : Nat)
    (frontiers : after.frontiers = before.frontiers) (kind : after.txn.kind = before.txn.kind)
    (epoch : after.txn.epoch = before.txn.epoch) :
    advancedFrontiers after count = advancedFrontiers before count := by
  simp only [advancedFrontiers, frontiers, kind, epoch]

/-- The rows stage 0 has evaluated by the end of the loop; where nothing went
wrong they are those to commit, or one more. -/
theorem front_at_end
    (done : Verified contract (prepared.pass rows length) (output1, verified) world) :
    ∃ processed mark, FrontAt contract (prepared.pass rows length) processed mark world ∧
      verified ≤ processed ∧ processed ≤ rows.length ∧
      (Undisturbed contract start → stateCommit txn output1 = verified ∧
        ((processed = verified ∧ verified = txn.evaluatedCount) ∨
          (txn.kind = .speculative ∧ processed = verified + 1 ∧ mark = verified))) := by
  have evaluated : txn.evaluatedCount = rows.length := prepared.evaluated.trans length.symm
  cases done.ending with
  | complete mark chunk last answered front =>
      refine ⟨_, mark, front, le_rfl, le_rfl, fun undisturbed => ⟨?_, Or.inl ⟨rfl, evaluated.symm⟩⟩⟩
      by_cases kind : txn.kind = .speculative
      · have final : _ = true := chunk.final.trans (decide_eq_true last)
        rw [stateCommit, if_pos kind]
        exact (answered.exact chunk (fun retained => last ▸ done.reached retained)
          (contract.back.calmExact undisturbed.back)).2 kind final
      · rw [stateCommit, if_neg kind]
        exact evaluated
  | early retained cut front count =>
      have kind := (prepared.pass rows length).speculative.mp retained
      refine ⟨_, _, front, Nat.le_succ _, cut, fun _ => ⟨?_, Or.inr ⟨kind, rfl, rfl⟩⟩⟩
      rw [stateCommit, if_pos (show txn.kind = .speculative from kind)]
      exact count

/-- A world behind the loop in which only the engine and the token moved on. -/
structure Beyond (contract : PairContract model setup) (start world : World σ₀ σ₁)
    (engine : SessionTxnEngine) (after : World σ₀ σ₁) : Prop where
  coordinator : after.coordinator = { start.coordinator with engine := engine }
  later : TokenLater world.cancellation after.cancellation
  same0 : after.worker0 = world.worker0
  same1 : after.worker1 = world.worker1

theorem Beyond.unfinished {engine : SessionTxnEngine} {after : World σ₀ σ₁} {declined : Prop}
    (beyond : Beyond contract start world engine after)
    (done : Verified contract (prepared.pass rows length) (output1, verified) world)
    (opened : StillOpen start.coordinator.engine engine)
    (disturbed : ¬ Undisturbed contract start) :
    Unfinished contract history txn start declined after := by
  obtain ⟨processed, mark, front, -⟩ := front_at_end done
  exact {
    coordinator := by rw [beyond.coordinator]
    engine := by rw [beyond.coordinator]; exact opened
    token := done.working.token.trans beyond.later
    ran0 := beyond.same0 ▸ done.working.ran0
    ran1 := beyond.same1 ▸ done.working.ran1
    restores0 := beyond.same0 ▸ contract.front.restores front
    restores1 := beyond.same1 ▸ contract.back.restores done.back
    cause := fun undisturbed => (disturbed undisturbed).elim }

/-- The engine behind the shortening, which expects the verified rows. -/
structure Expecting (start : World σ₀ σ₁) (txn : SessionTxnV1) (verified : Nat)
    (engine : SessionTxnEngine) : Prop where
  engaged : Engaged engine { txn with evaluatedCount := verified }
  frontiers : engine.frontiers = start.coordinator.engine.frontiers
  sessionHash : engine.sessionHash = start.coordinator.engine.sessionHash

theorem Expecting.stillOpen {engine other : SessionTxnEngine}
    (expecting : Expecting start txn verified engine)
    (prepared : Prepared contract attempt history txn start) (active : other.active = true)
    (hash : other.sessionHash = engine.sessionHash) (kept : other.frontiers = engine.frontiers)
    (same : other.txn = engine.txn) :
    StillOpen start.coordinator.engine other := by
  have startTxn := prepared.engaged.txn
  have here := expecting.engaged.txn
  constructor
  · exact active
  · rw [hash, expecting.sessionHash]
  · rw [kept, expecting.frontiers]
  · rw [same, here, startTxn]
  · rw [same, here, startTxn]
  · rw [same, here, startTxn]

/-- The coordinator commits what it decided. -/
theorem coordinator_commits (prepared : Prepared contract attempt history txn start)
    {engine : SessionTxnEngine} (expecting : Expecting start txn verified engine) {count : Nat}
    (within : count ≤ attempt.evalTokens.length) :
    ∃ event after, Transaction.commit (decided (acknowledged engine) count
        (publishes txn.kind count)) = (.ok event, after) ∧
      event.newlyPublished = publishes attempt.kind count ∧
      Advanced start.coordinator.engine after count := by
  have startTxn := prepared.engaged.txn
  have kept := expecting.engaged.txn
  have kinds : engine.txn.kind = txn.kind := by rw [kept]
  have same : advancedFrontiers (acknowledged engine) count =
      advancedFrontiers start.coordinator.engine count := by
    apply advanced_frontiers_same
    · exact expecting.frontiers
    · rw [startTxn]
      exact kinds
    · rw [startTxn]
      change engine.txn.epoch = txn.epoch
      rw [kept]
  have computed : committedFrontiers (decided (acknowledged engine) count
      (publishes txn.kind count)) = .ok (advancedFrontiers start.coordinator.engine count) := by
    have ordered := ((validate_frontiers_iff _).mp prepared.valid).2.2.1
    have room := prepared.room
    rw [← same, ← kinds]
    apply @committed_frontiers_eq (acknowledged engine)
    · change engine.frontiers.target ≤ engine.frontiers.canonical
      rw [expecting.frontiers]
      exact Nat.le_of_not_lt ordered
    · change engine.txn.kind = _ ∨ engine.txn.kind = _ ∨ engine.txn.kind = _
      rw [kinds, prepared.kind]
      exact prepared.sound.listed
    · change engine.frontiers.canonical + count ≤ maxUInt64
      rw [expecting.frontiers]
      omega
  have valid : validateFrontiers (advancedFrontiers start.coordinator.engine count) = none := by
    apply advanced_frontiers_valid prepared.valid
    intro append
    have covered := prepared.covered (by rw [← prepared.kind, ← startTxn, append])
    omega
  refine ⟨_, _, commit_accepted ?_ rfl rfl rfl computed valid, ?_, ?_, ?_, ?_⟩
  · exact expecting.engaged.active
  · rw [← prepared.kind]
    rfl
  · rfl
  · exact expecting.sessionHash
  · rfl

/-- The rest of the transaction behind the coordinator's commit. -/
theorem follow_ends {after : World σ₀ σ₁} {engine : SessionTxnEngine}
    (done : Verified contract (prepared.pass rows length) (output1, verified) world)
    (candidate : Candidate model setup.options attempt rows)
    {next : Token} {decision : Option SamplerDecisionV1}
    (resolved : resolveToken setup.options setup.select start.coordinator.sampler txn.kind rows
      output1 = .ok (next, decision))
    (positive : 0 < stateCommit txn output1) (within : stateCommit txn output1 ≤ verified)
    (advanced : Advanced start.coordinator.engine engine (stateCommit txn output1))
    {event : CommitEventV1}
    (published : event.newlyPublished = publishes attempt.kind (stateCommit txn output1))
    (beyond : Beyond contract start world engine after)
    (passed : ∀ token, after.cancellation = some token → token.state = .sealed) :
    Ends (do
        Proc.catching (commitStages setup txn.epoch (stateCommit txn output1) decision)
          fun thrown => do
            poison
            Proc.throwing thrown
        retainLogits setup txn.kind event { output1 with nextToken := next }
        pure event)
      (fun event after => ∃ count, Finished contract attempt history txn start
        (event, { output1 with nextToken := next }, rows) count decision after)
      (fun _ after => Torn contract start after) after := by
  obtain ⟨processed, mark, front, enough, inside, shape⟩ := front_at_end done
  have sizes : (rows.take processed).length = processed ∧ (rows.take verified).length = verified := by
    simp only [List.length_take]
    omega
  have decides : Decides after.coordinator.sampler decision := by
    rw [beyond.coordinator]
    exact resolved_decides prepared.vocabulary resolved
  have ready0 : contract.front.ready history txn (rows.take processed) mark
      after.worker0.state := beyond.same0 ▸ front
  have ready1 : contract.back.ready history txn (rows.take verified) 0
      after.worker1.state := beyond.same1 ▸ done.back
  have following := commit_stages_ends ready0 ready1 positive (by omega) (by omega) decides
  have ran0 : Ran start.worker0 after.worker0 := beyond.same0 ▸ done.working.ran0
  have ran1 : Ran start.worker1 after.worker1 := beyond.same1 ▸ done.working.ran1
  have later := done.working.token.trans beyond.later
  rw [ends_bind, ends_catching]
  apply following.weaken
  · rintro _ ended ⟨followed, coordinator, idle0, idle1⟩
    rw [ends_bind, retainLogits, ends_write, ends_pure]
    rw [List.take_take, min_eq_left (by omega)] at idle0 idle1
    have settles := verified_settles done resolved positive (by omega)
    refine ⟨stateCommit txn output1, ?_⟩
    generalize logged : (if setup.options.retainLastLogitsForDiagnostics = true then _ else ended)
      = final
    have same : final.coordinator = { ended.coordinator with
        lastLogitSnapshot := final.coordinator.lastLogitSnapshot } ∧
        final.cancellation = ended.cancellation ∧ final.worker0 = ended.worker0 ∧
        final.worker1 = ended.worker1 := by
      subst logged
      split <;> exact ⟨rfl, rfl, rfl, rfl⟩
    obtain ⟨sameCoordinator, sameToken, same0, same1⟩ := same
    have engine_ : final.coordinator.engine = engine := by
      rw [sameCoordinator, coordinator, beyond.coordinator]
    exact {
      transacted := ⟨candidate, settles⟩
      listed := resolved_listed done.listed resolved
      positive := positive
      within := by omega
      event := published
      coordinator := by
        rw [engine_, sameCoordinator, coordinator, beyond.coordinator]
      engine := by rw [engine_]; exact advanced
      front := by rw [same0]; exact idle0
      back := by rw [same1]; exact idle1
      token := by rw [sameToken, followed.token]; exact later
      passed := by rw [sameToken, followed.token]; exact passed
      closed0 := ⟨after.worker0, ran0, by rw [same0, followed.closed0]⟩
      closed1 := ⟨after.worker1, ran1, by rw [same1, followed.closed1]⟩ }
  · rintro thrown ended ⟨⟨first, second, failed_, followed⟩, coordinator, unpromised⟩
    exact {
      coordinator := by
        change { ended.coordinator with poisoned := true } =
          { start.coordinator with engine := ended.coordinator.engine, poisoned := true }
        rw [coordinator, beyond.coordinator]
      engine := by
        refine ⟨_, positive, ?_⟩
        change Advanced _ ended.coordinator.engine _
        rw [coordinator, beyond.coordinator]
        exact advanced
      token := by
        change TokenLater _ ended.cancellation
        rw [followed.token]
        exact later
      passed := by
        change ∀ token, ended.cancellation = some token → _
        rw [followed.token]
        exact passed
      closed := ⟨first, second, failed_, ⟨after.worker0, ran0, followed.closed0⟩,
        ⟨after.worker1, ran1, followed.closed1⟩⟩
      cause := by
        intro undisturbed commits
        obtain ⟨count, shape⟩ := shape undisturbed
        rw [sizes.1, sizes.2, count] at unpromised
        rcases unpromised with front | back
        · exact front ⟨undisturbed.front, commits.front shape⟩
        · exact back ⟨undisturbed.back, commits.back (shape.imp And.right And.left)⟩ }

/-- The rest of the transaction behind a seal that returned. -/
theorem conclude_ends {after : World σ₀ σ₁} {engine : SessionTxnEngine}
    (done : Verified contract (prepared.pass rows length) (output1, verified) world)
    (candidate : Candidate model setup.options attempt rows)
    {next : Token} {decision : Option SamplerDecisionV1}
    (resolved : resolveToken setup.options setup.select start.coordinator.sampler txn.kind rows
      output1 = .ok (next, decision)) {declined : Prop}
    (expecting : Expecting start txn verified engine)
    (beyond : Beyond contract start world engine after)
    (passed : ∀ token, after.cancellation = some token → token.state = .sealed) :
    Ends (concludeTransaction setup txn { output1 with nextToken := next } decision)
      (fun event after => ∃ count, Finished contract attempt history txn start
        (event, { output1 with nextToken := next }, rows) count decision after)
      (fun _ after => Unfinished contract history txn start declined after ∨
        Torn contract start after) after := by
  have engaged := expecting.engaged
  have here : after.coordinator.engine = engine := by rw [beyond.coordinator]
  have same : stateCommit txn { output1 with nextToken := next } = stateCommit txn output1 := rfl
  obtain ⟨acked0, acked1⟩ := acknowledge_accepted engaged
  unfold concludeTransaction
  rw [ends_bind, ends_read, here, ends_bind]
  apply coordinate_accepted _ (by rw [here]; exact acked0)
  rw [ends_bind]
  apply coordinate_accepted _ acked1
  rw [ends_bind, same]
  have moved (other : SessionTxnEngine) : Beyond contract start world other
      (after.withEngine other) := by
    refine ⟨?_, beyond.later, beyond.same0, beyond.same1⟩
    simp only [World.withEngine, beyond.coordinator]
  rcases verified_decision done with ⟨accepted, positive, within⟩ | ⟨⟨message, refused⟩, disturbed⟩
  · rw [← engaged.txn] at accepted
    apply coordinate_accepted _ (decide_accepted engaged accepted)
    rw [ends_bind]
    have whole : verified ≤ attempt.evalTokens.length := by
      obtain ⟨_, _, _, enough, inside, -⟩ := front_at_end done
      omega
    obtain ⟨event, committed, answer, published, advanced⟩ :=
      coordinator_commits prepared expecting (within.trans whole)
    apply coordinate_accepted _ answer
    apply (follow_ends done candidate resolved positive within advanced published
      (moved committed) passed).weaken
    · exact fun _ _ finished => finished
    · exact fun _ _ torn => Or.inr torn
  · -- the decision is refused behind the seal, with both stages still to be rolled back
    rw [← engaged.txn] at refused
    rw [ends_coordinate]
    unfold Ends
    change Lands _ _ (Transaction.decide (stateCommit txn output1) (acknowledged engine))
    rw [decide_refused engaged refused]
    left
    exact (moved (acknowledged engine)).unfinished done
      (expecting.stillOpen prepared engaged.active rfl rfl rfl) disturbed

/-- The loop has returned, and its token is resolved. -/
theorem finish_ends
    (done : Verified contract (prepared.pass rows length) (output1, verified) world)
    (candidate : Candidate model setup.options attempt rows)
    {next : Token} {decision : Option SamplerDecisionV1}
    (resolved : resolveToken setup.options setup.select start.coordinator.sampler txn.kind rows
      output1 = .ok (next, decision)) {declined : Prop} :
    Ends (finishTransaction setup txn verified attempt.retainedDraft.isSome
        { output1 with nextToken := next } decision)
      (fun event after => ∃ count, Finished contract attempt history txn start
        (event, { output1 with nextToken := next }, rows) count decision after)
      (fun _ after => Unfinished contract history txn start declined after ∨
        Torn contract start after) world := by
  have same : world.coordinator = start.coordinator := done.working.coordinator
  unfold finishTransaction
  rw [ends_bind]
  apply shortening_ends done
  intro engine engaged frontiers sessionHash
  have expecting : Expecting start txn verified engine := ⟨engaged, frontiers, sessionHash⟩
  rw [ends_bind]
  apply (seal_token_ends contract).weaken
  · rintro _ _ ⟨token, rfl, later, passed⟩
    apply conclude_ends done candidate resolved expecting ?_ passed
    exact ⟨by simp only [accessed, World.withEngine, same], later, rfl, rfl⟩
  · rintro _ after ⟨waited, disturbed, -⟩
    left
    have beyond : Beyond contract start world engine after := by
      refine ⟨?_, waited.token, waited.same0, waited.same1⟩
      rw [waited.coordinator, World.withEngine, same]
    apply beyond.unfinished done (expecting.stillOpen prepared engaged.active rfl rfl rfl)
    exact fun undisturbed => disturbed { done.working.calm undisturbed with }

end Finish

end Q38.Commitment
