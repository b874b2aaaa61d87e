import Q38Runtime.PenaltyHistory

/-! The generator of a sampling session over whole runs. Each committed
transaction draws once, and nothing else moves the generator: not an operation
that throws, and not the publication of a token that was drawn before. -/
namespace Q38.SamplerRuns
open Contracts Cancellation Backend Sampling Transaction Executor SessionModel StageContracts
  Pipeline TransactionRun SessionRefinement ExecutorRuns PenaltyHistory Imperative

/-- The step of the generator. -/
def increment : UInt64 := 0x9e3779b97f4a7c15

/-- The generator after `count` steps from `seed`. -/
def drawnFrom (seed : UInt64) (count : Nat) : UInt64 := seed + UInt64.ofNat count * increment

theorem drawn_from_succ (seed : UInt64) (count : Nat) :
    nextState (drawnFrom seed count) = drawnFrom seed (count + 1) := by
  simp only [nextState, drawnFrom, increment, UInt64.ofNat_add, UInt64.add_mul, UInt64.add_assoc]
  rfl

/-- Publishing tokens leaves the generator and the number of draws alone. -/
theorem counted_undrawn (tokens : List Token) (sampler : TransactionalSampler) :
    let after := tokens.foldl (fun sampler token => counted token sampler) sampler
    after.state.rngState = sampler.state.rngState ∧
      after.state.sampledTokens = sampler.state.sampledTokens := by
  induction tokens generalizing sampler with
  | nil => exact ⟨rfl, rfl⟩
  | cons token rest ih => exact ih (counted token sampler)

theorem make_sampler_config {vocabulary : UInt32} {config : SamplingConfigV1}
    {sampler : TransactionalSampler} (made : makeSampler vocabulary config = .ok sampler) :
    sampler.config = config := by
  unfold makeSampler at made
  split at made
  · cases made
  · split at made
    · cases made
    · split at made
      · cases made
      · cases made
        rfl

/-- The completed options and the sampler are those the executor was asked for. -/
theorem make_executor_sampling {options completed : ExecutorOptions} {first second : Stage}
    {coordinator : Coordinator}
    (made : makeExecutor options first second = .ok (completed, coordinator)) :
    completed.sampling = options.sampling ∧ coordinator.sampler.config = options.sampling ∧
      coordinator.sampler.state = { rngState := options.sampling.seed } := by
  unfold makeExecutor at made
  cases sampling : makeSampler options.vocabSize options.sampling with
  | error thrown =>
      rw [sampling] at made
      cases made
  | ok sampler =>
      rw [sampling] at made
      change (if _ then _ else _) = _ at made
      repeat (split at made; · cases made)
      dsimp only at made
      split at made
      · cases made
      · cases made
        exact ⟨rfl, make_sampler_config sampling, (make_sampler_ok sampling).2.1⟩

section Draws
variable {model : StageModel} {options : ExecutorOptions} {select : Selection}
  {session : Session} {history : List Token} {attempt : Attempt}

/-- The sampler of a session stands `count` steps behind its seed. -/
structure Drawn (options : ExecutorOptions) (session : Session) (count : Nat) : Prop where
  config : session.sampler.config = options.sampling
  rng : session.sampler.state.rngState = drawnFrom options.sampling.seed count
  sampled : session.sampler.state.sampledTokens = UInt64.ofNat count
  covered : count ≤ session.tokens.length

/-- A transaction of a sampling session decides one draw from the present state. -/
theorem transacted_draws {sampler : TransactionalSampler} (drawing : sampler.sampled = true)
    {rows : List Token} {count : Nat} {next : Token} {decision : Option SamplerDecisionV1}
    (done : Transacted model options select sampler history attempt rows count next decision) :
    ∃ made, decision = some made ∧ made.rngAfter = nextState sampler.state.rngState := by
  cases done.settles with
  | speculative kind greedy verdict =>
      rw [drawing] at greedy
      contradiction
  | @plain out _ _ kind seen answer resolved =>
      unfold resolveToken sampleToken at resolved
      simp only [drawing, kind, if_true, if_false] at resolved
      generalize asked : sampler.prepare select out.logitsBf16 _ = prepared at resolved
      cases prepared with
      | error thrown => cases resolved
      | ok made =>
          obtain ⟨-, before, after⟩ := prepare_decides asked
          refine ⟨made, ?_, by rw [after, before]⟩
          by_cases listed : inVocabulary options.vocabSize made.token = true
          · simp only [listed, if_true] at resolved
            split at resolved
            · cases resolved
            · cases resolved
              rfl
          · simp only [listed, if_false, Bool.false_eq_true] at resolved
            cases resolved

/-- Every transaction publishes at least one token. -/
theorem fresh_positive {rows : List Token} {count : Nat} {next : Token} {operation : Operation}
    (admitted : Admits options session operation) (listed : attemptOf options session operation =
      some attempt) : 0 < (freshOf rows count next operation).length := by
  cases operation with
  | append tokenIds => exact List.length_pos_iff.mpr admitted.1
  | decodeOne | speculativeStep maxDraft => simp [freshOf]
  | seedDecode | resetSession => cases listed

/-- Some row of every transaction is committed. -/
theorem transacted_positive {sampler : TransactionalSampler} {rows : List Token} {count : Nat}
    {next : Token} {decision : Option SamplerDecisionV1} {operation : Operation}
    (admitted : Admits options session operation)
    (asked : attemptOf options session operation = some attempt)
    (done : Transacted model options select sampler history attempt rows count next decision) :
    0 < count := by
  cases done.settles with
  | speculative kind greedy verdict => exact verdict.positive
  | plain kind seen answer resolved =>
      have candidate := done.candidate
      have single (one : session.tokens.length = session.target + 1) :
          0 < session.pending.length := by
        rw [Session.pending, List.length_drop]
        omega
      cases operation with
      | append tokenIds =>
          cases asked
          have evaluated : rows = session.pending ++ tokenIds := candidate
          have some_ := List.length_pos_iff.mpr admitted.1
          rw [evaluated, List.length_append]
          omega
      | decodeOne =>
          cases asked
          have evaluated : rows = session.pending := candidate
          rw [evaluated]
          exact single admitted.1
      | speculativeStep maxDraft =>
          simp only [attemptOf] at asked
          split at asked
          · cases asked
            have evaluated : rows = session.pending := candidate
            rw [evaluated]
            exact single admitted.2.1
          · cases asked
            exact absurd rfl kind
      | seedDecode | resetSession => cases asked

/-- The transactions committed since the last reset, behind an operation that
returned: the commit of the coordinator moves its target frontier. -/
def committedBehind (operation : Operation) (before after : Session) (count : Nat) : Nat :=
  if operation = .resetSession then 0
  else if before.target < after.target then count + 1
  else count

theorem happens_drawn {count : Nat} {operation : Operation} {answer : List Token}
    {after : Session} (drawing : options.sampling.mode = .topKTopP)
    (drawn : Drawn options session count)
    (happens : Happens model options select session operation answer after) :
    Drawn options after (committedBehind operation session after count) := by
  have samples : session.sampler.sampled = true := by
    rw [TransactionalSampler.sampled, drawn.config, drawing]
    rfl
  cases happens with
  | @transacted _ attempt rows accepted next decision admitted asked done =>
      obtain ⟨made, rfl, drew⟩ := transacted_draws samples done
      have fresh := @fresh_positive _ _ _ rows accepted next _ admitted asked
      have plain : operation ≠ .resetSession := by
        rintro rfl
        cases asked
      have moved := counted_undrawn (freshOf rows accepted next operation)
        (decidedSampler (some made) session.sampler)
      have fixed := counted_fixed (freshOf rows accepted next operation)
        (decidedSampler (some made) session.sampler)
      have ahead : session.target < session.target + accepted :=
        Nat.lt_add_of_pos_right (transacted_positive admitted asked done)
      rw [committedBehind, if_neg plain, Session.extended, if_pos ahead]
      constructor
      · exact fixed.2.1.trans drawn.config
      · rw [← drawn_from_succ, ← drawn.rng, ← drew]
        exact moved.1
      · rw [UInt64.ofNat_add, ← drawn.sampled]
        exact moved.2
      · have covered := drawn.covered
        simp only [List.length_append]
        omega
  | seedDecode admitted =>
      rw [committedBehind, if_neg (by simp), Session.seeded, if_neg (Nat.lt_irrefl _)]
      constructor
      · exact drawn.config
      · exact drawn.rng
      · exact drawn.sampled
      · exact drawn.covered.trans (by simp)
  | resetSession =>
      rw [committedBehind, if_pos rfl]
      constructor
      · exact drawn.config
      · change session.sampler.config.seed = drawnFrom options.sampling.seed 0
        rw [drawn.config, drawnFrom]
        simp
      · rfl
      · exact Nat.zero_le _

end Draws

section Runs
variable {σ₀ σ₁ : Type} {model : StageModel} {setup : Setup σ₀ σ₁}
  {contract : PairContract model setup} {start world after : World σ₀ σ₁}

variable (setup) in
/-- The worlds a run reaches, with the transactions committed since its last
reset. An operation that throws commits none. -/
inductive Counts (start : World σ₀ σ₁) : World σ₀ σ₁ → Nat → Prop
  | start : Counts start start 0
  | returned {world after count answer} (counting : Counts start world count)
      (operation : Operation) (cancellation : Option CancellationToken)
      (outcome : perform setup operation cancellation world = (.ok answer, after)) :
      Counts start after (committedBehind operation (sessionOf world.coordinator)
        (sessionOf after.coordinator) count)
  | threw {world after count thrown} (counting : Counts start world count)
      (operation : Operation) (cancellation : Option CancellationToken)
      (outcome : perform setup operation cancellation world = (.error thrown, after)) :
      Counts start after count

theorem counts_reach {count : Nat} (counting : Counts setup start world count) :
    Reaches setup start world := by
  induction counting with
  | start => exact .start
  | returned counting operation cancellation outcome ih =>
      have step := ih.perform operation cancellation
      rwa [outcome] at step
  | threw counting operation cancellation outcome ih =>
      have step := ih.perform operation cancellation
      rwa [outcome] at step

/-- An operation that returned was run by a settled executor. -/
theorem returned_performed (built : Built setup.options) (standing : Standing contract world)
    {operation : Operation} {cancellation : Option CancellationToken} {answer : List Token}
    (outcome : perform setup operation cancellation world = (.ok answer, after)) :
    Performed contract operation (given world cancellation) answer after := by
  by_cases poisoned : world.coordinator.poisoned = true
  · rw [perform_poisoned poisoned] at outcome
    cases outcome
  · have ended := perform_ends built (standing.resolve_left poisoned)
      (eq_false_of_ne_true poisoned) operation cancellation
    unfold Ends at ended
    rwa [outcome] at ended

/-- A throw of the sampler would show as two commits that returned. -/
def SamplerThrew (before after : World σ₀ σ₁) : Prop :=
  Closed (.commit, none) before.worker0 after.worker0 ∧
    Closed (.commit, none) before.worker1 after.worker1

theorem closed_not_same {σ : Type} {ending : Task × Option Thrown} {before after : StageWorker σ}
    (closed : Closed ending before after) : after ≠ before := by
  rintro rfl
  obtain ⟨worker, ran, finished⟩ := closed
  obtain ⟨tasks, longer, -⟩ := ran
  have sizes := congrArg List.length finished
  rw [longer] at sizes
  simp at sizes
  omega

theorem closed_same_ending {σ : Type} {left right : Task × Option Thrown}
    {before after : StageWorker σ} (first : Closed left before after)
    (second : Closed right before after) : left = right := by
  obtain ⟨_, -, finished⟩ := first
  obtain ⟨_, -, again⟩ := second
  rw [finished] at again
  exact (List.cons.inj again).1

/-- The commit of the sampler is all that follows those of the stages. -/
theorem commit_stages_threw (epoch count : Nat) (decision : Option SamplerDecisionV1) :
    Ends (commitStages setup epoch count decision) (fun _ _ => True)
      (fun thrown after => SamplerThrew world after ↔ ∃ behind, SamplerThrew world behind ∧
        behind.coordinator = world.coordinator ∧
        commitDecision decision behind = (.error thrown, after)) world := by
  have kept {behind after : World σ₀ σ₁} {thrown : Thrown}
      (refused : commitDecision decision behind = (.error thrown, after)) :
      after.worker0 = behind.worker0 ∧ after.worker1 = behind.worker1 := by
    cases decision with
    | none => cases refused
    | some made =>
        have same := congrArg Prod.snd refused
        subst same
        exact ⟨rfl, rfl⟩
  have shows {behind after : World σ₀ σ₁} {thrown : Thrown} (threw : SamplerThrew world behind)
      (refused : commitDecision decision behind = (.error thrown, after)) :
      SamplerThrew world after := by
    obtain ⟨same0, same1⟩ := kept refused
    rw [SamplerThrew, same0, same1]
    exact threw
  -- a stage that threw shows another task than a throw of the sampler does
  have blamed {after : World σ₀ σ₁} {first second : Option Thrown} {thrown : Thrown}
      (threw : first ≠ none ∨ second ≠ none)
      (closed0 : Closed (.commit, first) world.worker0 after.worker0)
      (closed1 : Closed (.commit, second) world.worker1 after.worker1) :
      SamplerThrew world after ↔ ∃ behind, SamplerThrew world behind ∧
        behind.coordinator = world.coordinator ∧
        commitDecision decision behind = (.error thrown, after) := by
    have absent : ¬ SamplerThrew world after := by
      rintro ⟨front, back⟩
      have same0 := closed_same_ending front closed0
      have same1 := closed_same_ending back closed1
      simp only [Prod.mk.injEq, true_and] at same0 same1
      exact threw.elim (fun threw => threw same0.symm) fun threw => threw same1.symm
    exact iff_of_false absent fun ⟨_, both, _, refused⟩ => absent (shows both refused)
  apply (submit0_recorded .commit (fun _ => setup.stage0.commit epoch count)
    (ends_trivial _ _)).proceed
  rintro c0 first ⟨coordinator, -, same, recorded, -⟩
  apply (submit1_recorded .commit (fun _ => setup.stage1.commit epoch count)
    (ends_trivial _ _)).proceed
  rintro c1 second ⟨coordinator', -, same', recorded', -⟩
  have closed0 : Closed (.commit, failure c0) world.worker0 second.worker0 :=
    ⟨_, Ran.refl _, by rw [same', recorded]⟩
  have closed1 : Closed (.commit, failure c1) world.worker1 second.worker1 :=
    ⟨_, Ran.refl _, by rw [recorded', same]⟩
  simp only [ends_bind, ends_settle]
  constructor
  · rintro value0 rfl
    constructor
    · rintro value1 rfl
      unfold Ends
      rcases answer : commitDecision decision second with ⟨outcome, after⟩
      cases outcome with
      | ok => trivial
      | error thrown =>
          exact iff_of_true (shows ⟨closed0, closed1⟩ answer)
            ⟨second, ⟨closed0, closed1⟩, coordinator'.trans coordinator, answer⟩
    · rintro thrown rfl
      exact blamed (Or.inr (Option.some_ne_none _)) closed0 closed1
  · rintro thrown rfl
    exact blamed (Or.inl (Option.some_ne_none _)) closed0 closed1

/-- What an operation that threw left alone. -/
structure Undrawn (before after : World σ₀ σ₁) : Prop where
  sampler : after.coordinator.sampler = before.coordinator.sampler
  tokens : after.coordinator.tokens = before.coordinator.tokens
  committed : ¬ SamplerThrew before after

theorem isolated_not_sampler {ending : Task} (isolated : Isolated world after ending) :
    ¬ SamplerThrew world after := by
  rintro ⟨front, back⟩
  obtain ⟨first, second, threw, closed0, closed1⟩ := isolated.closed
  have same0 := closed_same_ending front closed0
  have same1 := closed_same_ending back closed1
  simp only [Prod.mk.injEq] at same0 same1
  rcases threw with threw | threw
  · exact threw same0.2.symm
  · exact threw same1.2.symm

theorem threw_undrawn (built : Built setup.options) (standing : Standing contract world)
    {operation : Operation} {cancellation : Option CancellationToken} {thrown : Thrown}
    (outcome : perform setup operation cancellation world = (.error thrown, after)) :
    Undrawn world after := by
  by_cases poisoned : world.coordinator.poisoned = true
  · rw [perform_poisoned poisoned] at outcome
    cases outcome
    exact ⟨rfl, rfl, fun threw => closed_not_same threw.1 rfl⟩
  · have ended := perform_ends built (standing.resolve_left poisoned)
      (eq_false_of_ne_true poisoned) operation cancellation
    unfold Ends at ended
    rw [outcome] at ended
    obtain ⟨tokens, sampler, -⟩ := aborted_keeps ended
    refine ⟨sampler, tokens, ?_⟩
    change ¬ SamplerThrew (given world cancellation) after
    cases ended with
    | transaction facts =>
        cases facts with
        | untouched facts => exact fun threw => closed_not_same threw.1 facts.same0
        | restored facts =>
            intro threw
            cases closed_same_ending threw.1 facts.closed0
        | stuck facts => exact isolated_not_sampler facts
        | torn facts => exact isolated_not_sampler facts
    | halted reset facts => exact isolated_not_sampler facts

/-- In every state of a run the generator is where the commits put it. -/
theorem counts_drawn (built : Built setup.options) (begins : Settled contract start)
    (drawing : setup.options.sampling.mode = .topKTopP)
    (drawn : Drawn setup.options (sessionOf start.coordinator) 0) {count : Nat}
    (counting : Counts setup start world count) :
    Drawn setup.options (sessionOf world.coordinator) count := by
  induction counting with
  | start => exact drawn
  | returned counting operation cancellation outcome ih =>
      have standing := reaches_standing built begins (counts_reach counting)
      exact happens_drawn drawing ih (returned_performed built standing outcome).happens
  | @threw world after _ _ counting operation cancellation outcome ih =>
      have standing := reaches_standing built begins (counts_reach counting)
      obtain ⟨sampler, tokens, -⟩ := threw_undrawn built standing outcome
      constructor
      · change after.coordinator.sampler.config = _
        rw [sampler]
        exact ih.config
      · change after.coordinator.sampler.state.rngState = _
        rw [sampler]
        exact ih.rng
      · change after.coordinator.sampler.state.sampledTokens = _
        rw [sampler]
        exact ih.sampled
      · change _ ≤ after.coordinator.tokens.length
        rw [tokens]
        exact ih.covered

/-- The canonical tokens are those of a session that fits its options. -/
theorem reaches_listed (built : Built setup.options) (begins : Settled contract start)
    (reached : Reaches setup start world) :
    world.coordinator.tokens.length < 2 ^ 32 ∧
      ∀ token ∈ world.coordinator.tokens, inVocabulary setup.options.vocabSize token = true := by
  induction reached with
  | start => exact ⟨begins.consistent.small, begins.consistent.tokens⟩
  | @perform world reached operation cancellation ih =>
      have standing := reaches_standing built begins reached
      rcases outcome : perform setup operation cancellation world with ⟨answer, after⟩
      cases answer with
      | ok answer =>
          have consistent := (returned_performed built standing outcome).settled.consistent
          exact ⟨consistent.small, consistent.tokens⟩
      | error thrown =>
          rw [(threw_undrawn built standing outcome).tokens]
          exact ih

/-- The sampler of an executor behind `count` committed transactions. -/
structure Follows (options : ExecutorOptions) (coordinator : Coordinator) (count : Nat) :
    Prop where
  rng : coordinator.sampler.state.rngState = drawnFrom options.sampling.seed count
  sampled : coordinator.sampler.state.sampledTokens.toNat = count
  counts : coordinator.sampler.counts.map UInt32.toNat =
    (List.range options.vocabSize.toNat).map fun token =>
      coordinator.tokens.count (Int32.ofNat token)
  listed : ∀ token ∈ coordinator.tokens, inVocabulary options.vocabSize token = true

/-- The generator and the counts follow the commits of a sampling session and
nothing else, and the sampler takes every decision it is given behind them. -/
theorem sampler_follows_commits {options : ExecutorOptions}
    (made : makeExecutor options setup.stage0.stage setup.stage1.stage =
      .ok (setup.options, start.coordinator))
    (drawing : options.sampling.mode = .topKTopP) {count : Nat}
    (counting : Counts setup start world count) :
    Follows setup.options world.coordinator count ∧
      setup.options.sampling = options.sampling ∧
      ∀ operation cancellation thrown after,
        perform setup operation cancellation world = (.error thrown, after) →
          Undrawn world after := by
  have constructed := make_executor_constructed made
  obtain ⟨completed, config, state⟩ := make_executor_sampling made
  have begins : Settled (unknownPair setup) start := ⟨constructed.consistent, trivial, trivial⟩
  have reached := counts_reach counting
  have standing := reaches_standing constructed.built begins reached
  have tallied := reaches_tallied constructed.built begins (constructed_tallied constructed) reached
  obtain ⟨small, listed⟩ := reaches_listed constructed.built begins reached
  have fresh : Drawn setup.options (sessionOf start.coordinator) 0 := by
    constructor
    · exact config.trans completed.symm
    · change start.coordinator.sampler.state.rngState = _
      rw [state, completed, drawnFrom]
      simp
    · change start.coordinator.sampler.state.sampledTokens = _
      rw [state]
      rfl
    · exact Nat.zero_le _
  have drawn := counts_drawn constructed.built begins (by rw [completed]; exact drawing) fresh
    counting
  refine ⟨⟨drawn.rng, ?_, ?_, listed⟩, completed, fun _ _ _ _ outcome =>
    threw_undrawn constructed.built standing outcome⟩
  · have sampled : world.coordinator.sampler.state.sampledTokens = UInt64.ofNat count :=
      drawn.sampled
    have covered : count ≤ world.coordinator.tokens.length := drawn.covered
    rw [sampled, UInt64.toNat_ofNat']
    omega
  · change world.coordinator.sampler.counts =
      tallies setup.options.vocabSize world.coordinator.tokens at tallied
    rw [tallied, tallies, List.map_map]
    apply List.map_congr_left
    intro token _
    have few := @List.count_le_length _ _ (Int32.ofNat token) world.coordinator.tokens
    rw [Function.comp_apply, UInt32.toNat_ofNat']
    omega

end Runs

/-- One append draws once. -/
theorem sampler_follows_commits_append :
    makeExecutor sampleOptions sampleSetup.stage0.stage sampleSetup.stage1.stage =
        .ok (sampleSetup.options, sampleStart.coordinator) ∧
      Follows sampleSetup.options afterAppend.coordinator 1 ∧
      afterAppend.coordinator.sampler.state.rngState = 1 + increment := by
  have answer : (perform sampleSetup (.append [1]) none sampleStart).1 = .ok [] := by
    decide +kernel
  have outcome : perform sampleSetup (.append [1]) none sampleStart = (.ok [], afterAppend) := by
    rw [← answer]
    exact Prod.mk.eta.symm
  have once : committedBehind (.append [1]) (sessionOf sampleStart.coordinator)
      (sessionOf afterAppend.coordinator) 0 = 1 := by
    decide +kernel
  have run := Counts.returned .start (.append [1]) none outcome
  rw [once] at run
  exact ⟨made_sample, (sampler_follows_commits made_sample rfl run).1, by decide +kernel⟩

end Q38.SamplerRuns
