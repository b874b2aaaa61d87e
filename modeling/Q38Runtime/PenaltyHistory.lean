import Q38Runtime.ExecutorRuns

/-! What the penalties of a sample are counted over. The sampler counts the
tokens it was told of; what the executor adds for one sample are the rows of an
append. A setup told which counts to use, whatever the sampler counted, behaves
like the real one exactly when it is told the counts the real one uses. -/
namespace Q38.PenaltyHistory
open Contracts Cancellation Backend Sampling Transaction Executor SessionModel StageContracts
  Pipeline RowVerification Coordination Preparation TransactionRun SessionRefinement ExecutorRuns
  Imperative

/-- The choice made with `counts` in place of those of the sampler. -/
def countingWith (select : Selection) (counts : List UInt64) : Selection :=
  fun config scored generator => select config ((scored.map Prod.fst).zip counts) generator

/-- The tokens a transaction adds to the counts of its sample. -/
def additional (kind : TxnKind) (rows : List Token) : List Token :=
  if kind = .appendKnown then rows else []

/-- The stage calls and the bookkeeping around a sample are those of `setup`. -/
def scoring {σ₀ σ₁ : Type} (setup : Setup σ₀ σ₁) (counts : List UInt64) : Setup σ₀ σ₁ :=
  { setup with select := countingWith setup.select counts }

section Sample
variable {options : ExecutorOptions} {select : Selection} {sampler : TransactionalSampler}

theorem penalty_counts_length (extra : List Token) :
    (penaltyCounts sampler extra).length = sampler.counts.length := by
  rw [penaltyCounts, List.length_map, List.length_zipIdx]

theorem prepare_counting (whole : sampler.counts.length = sampler.vocabulary.toNat)
    (logits : List UInt16) (extra : List Token) :
    sampler.prepare select logits extra =
      sampler.prepare (countingWith select (penaltyCounts sampler extra)) logits extra := by
  unfold TransactionalSampler.prepare countingWith
  by_cases size : logits.length = sampler.vocabulary.toNat
  · have fits : logits.length ≤ (penaltyCounts sampler extra).length := by
      rw [penalty_counts_length, whole, size]
    rw [List.map_fst_zip fits]
  · simp only [ne_eq, size, not_false_eq_true, if_true]

theorem resolve_token_counting (whole : sampler.counts.length = sampler.vocabulary.toNat)
    (kind : TxnKind) (rows : List Token) (out : StageOutput) :
    resolveToken options select sampler kind rows out =
      resolveToken options
        (countingWith select (penaltyCounts sampler (additional kind rows))) sampler kind rows
        out := by
  have same := @prepare_counting select _ whole out.logitsBf16 (additional kind rows)
  unfold additional at same ⊢
  simp only [resolveToken, sampleToken, ← same]

end Sample

section Transaction
variable {σ₀ σ₁ : Type} {model : StageModel} {setup : Setup σ₀ σ₁} (counts : List UInt64)

theorem verify_rows_scoring (txn : SessionTxnV1) (chunkTokens : Nat) (retained : Bool)
    (evalTokens : List Token) (fuel : Nat) :
    verifyRows (scoring setup counts) txn chunkTokens retained evalTokens fuel =
      verifyRows setup txn chunkTokens retained evalTokens fuel := by
  induction fuel with
  | zero => rfl
  | succ fuel ih =>
      funext pending
      simp only [verifyRows, ih]
      rfl

/-- The body of a transaction, with the step that makes a token of the answer
of stage 1 left open. -/
def transactResolving (setup : Setup σ₀ σ₁) (txn : SessionTxnV1) (evalTokens : List Token)
    (chunkTokens : Nat) (retainedDraft : Option RetainedDraftRequest)
    (resolve : TransactionalSampler → List Token → StageOutput →
      Except Thrown (Token × Option SamplerDecisionV1)) :
    ExecutorCall σ₀ σ₁ (CommitEventV1 × StageOutput × List Token) := do
  let drafted ← submitDraft setup txn.epoch retainedDraft
  Proc.whenever (txn.kind = .appendKnown ∧ txn.evaluatedCount > chunkTokens) do
    let prefetch ← submit0 setup .prefetchTransaction fun cancellation =>
      setup.stage0.prefetchTransaction txn evalTokens cancellation
    Proc.settle prefetch
  let pending0 ← submitStage0 setup txn chunkTokens evalTokens 0
  let rows ← installDrafts setup evalTokens retainedDraft drafted
  let (output1, verified) ← verifyRows setup txn chunkTokens retainedDraft.isSome rows
    txn.evaluatedCount pending0
  ensureVocabulary setup output1.nextToken
    (.runtimeError "stage1 returned a token outside the vocabulary")
  let sampler ← Proc.read (·.coordinator.sampler)
  let (nextToken, decision) ← Proc.settle (resolve sampler rows output1)
  let output1 := truncateAtStop setup.options txn.kind rows
    { output1 with nextToken := nextToken }
  let event ← finishTransaction setup txn verified retainedDraft.isSome output1 decision
  pure (event, output1, rows)

theorem transact_resolving (txn : SessionTxnV1) (evalTokens : List Token) (chunkTokens : Nat)
    (retainedDraft : Option RetainedDraftRequest) :
    transact setup txn evalTokens chunkTokens retainedDraft =
      transactResolving setup txn evalTokens chunkTokens retainedDraft fun sampler =>
        resolveToken setup.options setup.select sampler txn.kind := rfl

/-- Only the choice of the token tells the two setups apart. -/
theorem transact_scoring (txn : SessionTxnV1) (evalTokens : List Token) (chunkTokens : Nat)
    (retainedDraft : Option RetainedDraftRequest) :
    transact (scoring setup counts) txn evalTokens chunkTokens retainedDraft =
      transactResolving setup txn evalTokens chunkTokens retainedDraft fun sampler =>
        resolveToken setup.options (countingWith setup.select counts) sampler txn.kind := by
  rw [transact_resolving]
  unfold transactResolving
  simp only [verify_rows_scoring]
  rfl

end Transaction

section Prepared
variable {σ₀ σ₁ : Type} {model : StageModel} {setup : Setup σ₀ σ₁}
  {contract : PairContract model setup} {attempt : Attempt} {history : List Token}
  {txn : SessionTxnV1} {start : World σ₀ σ₁}

/-- The sampler is asked in the state the transaction was prepared in, and an
append adds the rows it was prepared with. -/
theorem transact_counting (prepared : Prepared contract attempt history txn start)
    (whole : start.coordinator.sampler.counts.length =
      start.coordinator.sampler.vocabulary.toNat) :
    transact setup txn attempt.evalTokens attempt.chunkTokens attempt.retainedDraft start =
      transact (scoring setup (penaltyCounts start.coordinator.sampler
          (additional attempt.kind attempt.evalTokens)))
        txn attempt.evalTokens attempt.chunkTokens attempt.retainedDraft start := by
  rw [transact_resolving, transact_scoring]
  unfold transactResolving
  apply bind_agrees (submit_draft_ends prepared)
  rintro drafted first ⟨working, same, facts⟩
  have front : contract.front.ready history txn [] 0 first.worker0.state := same ▸ prepared.front
  apply bind_agrees (prefetch_ends (txn.kind = .appendKnown ∧
    txn.evaluatedCount > attempt.chunkTokens) attempt.evalTokens False working front facts)
  rintro _ second ⟨working, front, facts⟩
  obtain ⟨length, -, plain⟩ := @drafted_rows_shape _ drafted prepared.sound
  have inside : 0 < (draftedRows attempt drafted).length := by
    rw [length]
    exact List.length_pos_iff.mpr prepared.sound.nonempty
  rw [@submit_first _ drafted _ _ setup txn prepared.sound]
  have entry : FrontAt contract (prepared.pass (draftedRows attempt drafted) length) 0 0
    second := front
  apply bind_agrees (submit_stage0_ends working entry inside (Nat.zero_mod _))
  rintro pending third ⟨chunk, zero, working, same, running⟩
  have facts := facts.carried same
  apply bind_agrees (install_drafts_ends facts)
  rintro rows fourth ⟨rfl, rfl, back, candidate⟩
  have launched := first_launched prepared chunk zero working running back
  have enough : (draftedRows attempt drafted).length - pending.offset ≤ txn.evaluatedCount := by
    rw [prepared.evaluated, length]
    exact Nat.sub_le _ _
  apply bind_agrees (verify_rows_ends launched enough)
  rintro ⟨output1, verified⟩ fifth done
  have sampler : fifth.coordinator.sampler = start.coordinator.sampler := by
    rw [done.working.coordinator]
    rfl
  have extra : additional attempt.kind attempt.evalTokens =
      additional txn.kind (draftedRows attempt drafted) := by
    unfold additional
    rw [prepared.kind]
    by_cases append : attempt.kind = .appendKnown
    · have undrafted : attempt.retainedDraft = none := by
        by_contra asked
        have speculates := prepared.sound.retained.mp (Option.isSome_iff_ne_none.mpr asked)
        rw [append] at speculates
        contradiction
      rw [if_pos append, if_pos append, plain undrafted]
    · rw [if_neg append, if_neg append]
  apply ensure_agrees
  intro _
  have resolved : resolveToken setup.options setup.select fifth.coordinator.sampler txn.kind
        (draftedRows attempt drafted) output1 =
      resolveToken setup.options (countingWith setup.select
        (penaltyCounts start.coordinator.sampler (additional attempt.kind attempt.evalTokens)))
        fifth.coordinator.sampler txn.kind (draftedRows attempt drafted) output1 := by
    rw [extra, ← sampler]
    exact resolve_token_counting (by rw [sampler, whole]) _ _ _
  change (Proc.settle (resolveToken setup.options setup.select fifth.coordinator.sampler txn.kind
    (draftedRows attempt drafted) output1) >>= _) fifth = _
  rw [resolved]
  rfl

variable {world : World σ₀ σ₁}

theorem run_transaction_counting (startable : Startable contract attempt history world)
    (whole : world.coordinator.sampler.counts.length =
      world.coordinator.sampler.vocabulary.toNat) :
    runTransaction setup attempt.kind attempt.evalTokens attempt.chunkTokens
        attempt.appendedCount attempt.retainedDraft world =
      runTransaction (scoring setup (penaltyCounts world.coordinator.sampler
          (additional attempt.kind attempt.evalTokens)))
        attempt.kind attempt.evalTokens attempt.chunkTokens attempt.appendedCount
        attempt.retainedDraft world := by
  unfold runTransaction ensureHealthy
  apply ensure_agrees
  intro _
  apply bind_agrees (poll_ends contract)
  rintro _ polled waited
  have ready := startable.polled waited
  apply ensure_agrees
  intro _
  apply ensure_agrees
  intro _
  apply ensure_agrees
  intro _
  apply bind_agrees (prepare_attempt_ends ready)
  rintro _ _ ⟨rfl, fresh⟩
  rw [← waited.coordinator] at whole ⊢
  have same := transact_counting (startable_prepared ready) whole
  exact catching_agrees same

end Prepared

section Operations
variable {σ₀ σ₁ : Type} {model : StageModel} {setup : Setup σ₀ σ₁}
  {contract : PairContract model setup} {world : World σ₀ σ₁}

/-- The tokens an operation adds to the counts of its sample. -/
def addedBy (session : Session) : Operation → List Token
  | .append tokenIds => session.pending ++ tokenIds
  | _ => []

/-- The counts the sample of an operation is made with. -/
def sampleCounts (coordinator : Coordinator) (operation : Operation) : List UInt64 :=
  penaltyCounts coordinator.sampler (addedBy (sessionOf coordinator) operation)

/-- The sampler keeps one count for each token of its vocabulary. -/
def Whole (sampler : TransactionalSampler) : Prop :=
  sampler.counts.length = sampler.vocabulary.toNat

theorem transaction_counting (built : Built setup.options) (settled : Settled contract world)
    (healthy : world.coordinator.poisoned = false) (whole : Whole world.coordinator.sampler)
    {operation : Operation} {attempt : Attempt}
    (admitted : Admits setup.options (sessionOf world.coordinator) operation)
    (asked : attemptOf setup.options (sessionOf world.coordinator) operation = some attempt) :
    runTransaction setup attempt.kind attempt.evalTokens attempt.chunkTokens
        attempt.appendedCount attempt.retainedDraft world =
      runTransaction (scoring setup (penaltyCounts world.coordinator.sampler
          (additional attempt.kind attempt.evalTokens)))
        attempt.kind attempt.evalTokens attempt.chunkTokens attempt.appendedCount
        attempt.retainedDraft world := by
  have fitting := asked_fitting built settled.consistent.ordered settled.consistent.lag admitted
    asked
  exact run_transaction_counting (settled_startable settled healthy fitting) whole

/-- An operation that starts with a poll reads the members it was called with. -/
theorem polled_agrees {α : Type} {left right : Unit → ExecutorCall σ₀ σ₁ α}
    (settled : Settled contract world) (healthy : world.coordinator.poisoned = false)
    (same : ∀ polled : World σ₀ σ₁, polled.coordinator = world.coordinator →
      Settled contract polled → polled.coordinator.poisoned = false →
      left () polled = right () polled) :
    (do
        ensureHealthy
        let polled ← poll setup
        left polled) world =
      (do
        ensureHealthy
        let polled ← poll setup
        right polled) world := by
  unfold ensureHealthy
  apply ensure_agrees
  intro _
  apply bind_agrees (poll_ends contract)
  rintro _ polled waited
  apply same polled waited.coordinator (settled.polled waited)
  rw [waited.coordinator]
  exact healthy

theorem append_counting (built : Built setup.options) (settled : Settled contract world)
    (healthy : world.coordinator.poisoned = false) (whole : Whole world.coordinator.sampler)
    (tokenIds : List Token) :
    append setup tokenIds world =
      append (scoring setup (sampleCounts world.coordinator (.append tokenIds))) tokenIds
        world := by
  apply polled_agrees settled healthy
  intro polled same settled healthy
  have consistent := settled.consistent
  have ordered := consistent.ordered
  have lag := consistent.lag
  have limit := consistent.limit
  apply ensure_agrees
  intro nonempty
  apply ensure_agrees
  intro listed
  apply ensure_agrees
  intro room
  apply ensure_agrees
  intro _
  apply settle_agrees
  intro evaluated pending
  dsimp only at room pending
  rw [with_pending_ok consistent, Except.ok.injEq] at pending
  subst pending
  have admitted : Admits setup.options (sessionOf polled.coordinator) (.append tokenIds) := by
    refine ⟨nonempty, listed, ?_⟩
    simp only [sessionOf]
    rw [consistent.canonical] at room
    omega
  have small : toUInt32 tokenIds.length = tokenIds.length := by
    apply Nat.mod_eq_of_lt
    have fits : polled.coordinator.tokens.length + tokenIds.length ≤
      setup.options.contextLimit.toNat := admitted.2.2
    have := setup.options.contextLimit.toNat_lt
    omega
  rw [small, ← same]
  rw [← same] at whole
  have asked : attemptOf setup.options (sessionOf polled.coordinator) (.append tokenIds) =
    some (appendAttempt setup.options (sessionOf polled.coordinator) tokenIds) := rfl
  exact head_agrees (transaction_counting built settled healthy whole admitted asked)

theorem decode_one_counting (built : Built setup.options) (settled : Settled contract world)
    (healthy : world.coordinator.poisoned = false) (whole : Whole world.coordinator.sampler) :
    decodeOne setup world =
      decodeOne (scoring setup (penaltyCounts world.coordinator.sampler [])) world := by
  have consistent := settled.consistent
  have lag := consistent.lag
  have ordered := consistent.ordered
  unfold decodeOne ensureHealthy
  apply ensure_agrees
  intro _
  apply ensure_agrees
  intro one
  apply ensure_agrees
  intro room
  apply settle_agrees
  intro pending found
  dsimp only at one room found
  rw [consistent.canonical] at one room
  have single : world.coordinator.tokens.length =
    world.coordinator.engine.frontiers.target + 1 := by omega
  obtain ⟨token, rows⟩ := token_at_pending single
  rw [token, Except.ok.injEq] at found
  have admitted : Admits setup.options (sessionOf world.coordinator) .decodeOne :=
    ⟨single, Nat.lt_of_not_le room⟩
  have same := transaction_counting built settled healthy whole admitted rfl
  simp only [decodeAttempt, rows, found] at same
  exact head_agrees same

theorem speculate_counting (built : Built setup.options) (settled : Settled contract world)
    (healthy : world.coordinator.poisoned = false) (whole : Whole world.coordinator.sampler)
    {maxDraft : Nat}
    (admitted : Admits setup.options (sessionOf world.coordinator) (.speculativeStep maxDraft))
    (wide : draftWidth setup.options (sessionOf world.coordinator) maxDraft ≠ 0) :
    speculate setup (draftWidth setup.options (sessionOf world.coordinator) maxDraft) world =
      speculate (scoring setup (penaltyCounts world.coordinator.sampler []))
        (draftWidth setup.options (sessionOf world.coordinator) maxDraft) world := by
  have one : world.coordinator.tokens.length = world.coordinator.engine.frontiers.target + 1 :=
    admitted.2.1
  obtain ⟨token, rows⟩ := token_at_pending one
  apply settle_agrees
  intro pending found
  dsimp only at found
  rw [token, Except.ok.injEq] at found
  have asked : attemptOf setup.options (sessionOf world.coordinator) (.speculativeStep maxDraft) =
      some (speculativeAttempt (sessionOf world.coordinator)
        (draftWidth setup.options (sessionOf world.coordinator) maxDraft)) := if_neg wide
  have same := transaction_counting built settled healthy whole admitted asked
  have first : (sessionOf world.coordinator).tokens.getD (sessionOf world.coordinator).target 0 =
      world.coordinator.tokens.getD world.coordinator.engine.frontiers.target 0 := rfl
  simp only [speculativeAttempt, rows, first, found, List.singleton_append] at same
  exact head_agrees same

theorem speculative_step_counting (built : Built setup.options)
    (settled : Settled contract world) (healthy : world.coordinator.poisoned = false)
    (whole : Whole world.coordinator.sampler) (maxDraft : Nat) :
    speculativeStep setup maxDraft world =
      speculativeStep (scoring setup (sampleCounts world.coordinator (.speculativeStep maxDraft)))
        maxDraft world := by
  apply polled_agrees settled healthy
  intro polled same settled healthy
  have consistent := settled.consistent
  have ordered := consistent.ordered
  have lag := consistent.lag
  rw [← same] at whole ⊢
  apply ensure_agrees
  intro narrow
  apply read_agrees
  apply ite_agrees
  · intro _
    exact decode_one_counting built settled healthy whole
  · intro drafting
    simp only [not_or] at drafting
    apply read_agrees
    apply ensure_agrees
    intro one
    apply ensure_agrees
    intro room
    rw [consistent.canonical] at one room
    have single : polled.coordinator.tokens.length =
      polled.coordinator.engine.frontiers.target + 1 := by omega
    have width : draftWidth setup.options (sessionOf polled.coordinator) maxDraft =
        min maxDraft (setup.options.contextLimit.toNat -
          polled.coordinator.engine.frontiers.canonical - 1) := by
      rw [consistent.canonical]
      exact if_neg drafting.1
    apply ite_agrees
    · intro _
      exact decode_one_counting built settled healthy whole
    · intro some_
      change speculate setup (min maxDraft (setup.options.contextLimit.toNat -
          polled.coordinator.engine.frontiers.canonical - 1)) polled =
        speculate _ (min maxDraft (setup.options.contextLimit.toNat -
          polled.coordinator.engine.frontiers.canonical - 1)) polled
      rw [← width] at some_ ⊢
      exact speculate_counting built settled healthy whole
        ⟨Nat.le_of_not_lt narrow, single, Nat.lt_of_not_le room⟩ some_

/-- Each sample of an operation is made with `sampleCounts`. -/
theorem dispatch_counting (built : Built setup.options) (settled : Settled contract world)
    (healthy : world.coordinator.poisoned = false) (whole : Whole world.coordinator.sampler)
    (operation : Operation) :
    dispatch setup operation world =
      dispatch (scoring setup (sampleCounts world.coordinator operation)) operation world := by
  cases operation with
  | append tokenIds => exact head_agrees (append_counting built settled healthy whole tokenIds)
  | seedDecode => rfl
  | decodeOne => exact head_agrees (decode_one_counting built settled healthy whole)
  | speculativeStep maxDraft =>
      exact head_agrees (speculative_step_counting built settled healthy whole maxDraft)
  | resetSession => rfl

end Operations

section Counts
variable {vocabulary : UInt32} {tokens : List Token} {sampler : TransactionalSampler}

/-- How often each token of the vocabulary occurs. -/
def trueCounts (vocabulary : UInt32) (tokens : List Token) : List UInt64 :=
  (List.range vocabulary.toNat).map fun token => UInt64.ofNat (tokens.count (Int32.ofNat token))

/-- The same in the 32-bit counters of the sampler. -/
def tallies (vocabulary : UInt32) (tokens : List Token) : List UInt32 :=
  (List.range vocabulary.toNat).map fun token => UInt32.ofNat (tokens.count (Int32.ofNat token))

theorem in_vocabulary_lt {token : Token} (listed : inVocabulary vocabulary token = true) :
    token.toUInt32.toNat < vocabulary.toNat := by
  simp only [inVocabulary, Bool.and_eq_true, decide_eq_true_eq] at listed
  exact UInt32.lt_iff_toNat_lt.mp listed.2

/-- The token at an index of the counters. -/
theorem of_nat_eq_iff {index : Nat} (small : index < 2 ^ 32) (token : Token) :
    token = Int32.ofNat index ↔ token.toUInt32.toNat = index := by
  constructor
  · rintro rfl
    change (BitVec.ofNat 32 index).toNat = index
    rw [BitVec.toNat_ofNat, Nat.mod_eq_of_lt small]
  · intro same
    apply Int32.toBitVec_inj.mp
    apply BitVec.eq_of_toNat_eq
    change token.toUInt32.toNat = (BitVec.ofNat 32 index).toNat
    rw [BitVec.toNat_ofNat, Nat.mod_eq_of_lt small, same]

theorem tallies_snoc (token : Token) :
    (tallies vocabulary tokens).modify token.toUInt32.toNat (· + 1) =
      tallies vocabulary (tokens ++ [token]) := by
  apply List.ext_getElem
  · simp [tallies]
  · intro index inside _
    have small : index < 2 ^ 32 := by
      have := vocabulary.toNat_lt
      simp [tallies] at inside
      omega
    simp only [tallies, List.getElem_modify, List.getElem_map, List.getElem_range,
      List.count_append, List.count_singleton, beq_iff_eq, of_nat_eq_iff small]
    split
    · rw [UInt32.ofNat_add]
      rfl
    · rw [Nat.add_zero]

theorem counted_tallies (published : List Token)
    (counts : sampler.counts = tallies vocabulary tokens) :
    (published.foldl (fun sampler token => counted token sampler) sampler).counts =
      tallies vocabulary (tokens ++ published) := by
  induction published generalizing sampler tokens with
  | nil => simpa using counts
  | cons token rest ih =>
      have next : (counted token sampler).counts = tallies vocabulary (tokens ++ [token]) := by
        rw [← tallies_snoc token, ← counts]
        rfl
      rw [List.foldl_cons, ih next, List.append_assoc]
      rfl

theorem penalty_counts_at (counts : sampler.counts = tallies vocabulary tokens)
    (extra : List Token) :
    penaltyCounts sampler extra = (List.range vocabulary.toNat).map fun token =>
      (UInt32.ofNat (tokens.count (Int32.ofNat token)) +
        UInt32.ofNat (extra.count (Int32.ofNat token))).toUInt64 := by
  apply List.ext_getElem
  · simp [penaltyCounts, counts, tallies]
  · intro index inside _
    simp [penaltyCounts, counts, tallies]

/-- Below 2^32 tokens the 32-bit sums do not wrap. -/
theorem widened_sum (left right : Nat) (small : left + right < 2 ^ 32) :
    (UInt32.ofNat left + UInt32.ofNat right).toUInt64 = UInt64.ofNat (left + right) := by
  apply UInt64.toNat_inj.mp
  rw [UInt32.toNat_toUInt64, UInt32.toNat_add, UInt32.toNat_ofNat', UInt32.toNat_ofNat',
    UInt64.toNat_ofNat']
  omega

theorem penalty_counts_true (counts : sampler.counts = tallies vocabulary tokens)
    {extra : List Token} (small : tokens.length + extra.length < 2 ^ 32) :
    penaltyCounts sampler extra = trueCounts vocabulary (tokens ++ extra) := by
  rw [penalty_counts_at counts, trueCounts]
  apply List.map_congr_left
  intro token _
  have left := @List.count_le_length _ _ (Int32.ofNat token) tokens
  have right := @List.count_le_length _ _ (Int32.ofNat token) extra
  rw [List.count_append, widened_sum _ _ (by omega)]

/-- A token among the rows of an append that was counted before is counted twice. -/
theorem penalty_counts_twice (counts : sampler.counts = tallies vocabulary tokens)
    {pending : Token} {extra : List Token} (listed : inVocabulary vocabulary pending = true) :
    penaltyCounts sampler (pending :: extra) ≠ trueCounts vocabulary (tokens ++ extra) := by
  intro same
  have inside := in_vocabulary_lt listed
  have below : pending.toUInt32.toNat < 2 ^ 32 := pending.toUInt32.toNat_lt
  have token : Int32.ofNat pending.toUInt32.toNat = pending :=
    ((of_nat_eq_iff below pending).mpr rfl).symm
  rw [penalty_counts_at counts, trueCounts] at same
  have here := congrArg (fun list => list[pending.toUInt32.toNat]?) same
  simp only [List.getElem?_map, List.getElem?_range inside, Option.map_some, token,
    List.count_cons_self, List.count_append, Option.some.injEq] at here
  have clash := congrArg UInt64.toNat here
  rw [UInt32.toNat_toUInt64, UInt32.toNat_add, UInt32.toNat_ofNat', UInt32.toNat_ofNat',
    UInt64.toNat_ofNat'] at clash
  omega

end Counts

section Runs
variable {σ₀ σ₁ : Type} {model : StageModel} {setup : Setup σ₀ σ₁}
  {contract : PairContract model setup} {start world : World σ₀ σ₁}

/-- The tokens that become canonical behind the sample of an operation. -/
def appendedBy : Operation → List Token
  | .append tokenIds => tokenIds
  | _ => []

/-- The counters of the sampler are those of the canonical tokens. -/
def Tallied (options : ExecutorOptions) (session : Session) : Prop :=
  session.sampler.counts = tallies options.vocabSize session.tokens

theorem happens_tallied {options : ExecutorOptions} {select : Selection}
    {session after : Session} {operation : Operation} {answer : List Token}
    (tallied : Tallied options session)
    (happens : Happens model options select session operation answer after) :
    Tallied options after := by
  cases happens with
  | @transacted _ attempt rows count next decision admitted asked done =>
      apply counted_tallies
      have undecided : (decidedSampler decision session.sampler).counts =
          session.sampler.counts := by
        cases decision <;> rfl
      exact undecided.trans tallied
  | seedDecode admitted => exact counted_tallies [session.lastSample] tallied
  | resetSession =>
      change session.sampler.counts.map (fun _ => 0) = tallies options.vocabSize []
      rw [tallied, tallies, tallies, List.map_map]
      rfl

theorem perform_tallied (built : Built setup.options) (standing : Standing contract world)
    (tallied : Tallied setup.options (sessionOf world.coordinator)) (operation : Operation)
    (cancellation : Option CancellationToken) :
    Tallied setup.options
      (sessionOf (perform setup operation cancellation world).2.coordinator) := by
  by_cases poisoned : world.coordinator.poisoned = true
  · rw [perform_poisoned poisoned]
    exact tallied
  · have settled := standing.resolve_left poisoned
    have ended := perform_ends built settled (eq_false_of_ne_true poisoned) operation cancellation
    rcases outcome : perform setup operation cancellation world with ⟨answer, after⟩
    unfold Ends at ended
    rw [outcome] at ended
    cases answer with
    | ok answer => exact happens_tallied tallied ended.happens
    | error thrown =>
        obtain ⟨tokens, sampler, -⟩ := aborted_keeps ended
        change after.coordinator.sampler.counts =
          tallies setup.options.vocabSize after.coordinator.tokens
        rw [tokens, sampler]
        exact tallied

theorem constructed_tallied {options : ExecutorOptions} {coordinator : Coordinator}
    (constructed : Constructed options coordinator) :
    Tallied options (sessionOf coordinator) := by
  change coordinator.sampler.counts = tallies options.vocabSize coordinator.tokens
  rw [constructed.counts, constructed.empty, tallies]
  simp

/-- In every state of a run the counters are right. -/
theorem reaches_tallied (built : Built setup.options) (begins : Settled contract start)
    (tallied : Tallied setup.options (sessionOf start.coordinator))
    (reached : Reaches setup start world) :
    Tallied setup.options (sessionOf world.coordinator) := by
  induction reached with
  | start => exact tallied
  | perform reached operation cancellation ih =>
      exact perform_tallied built (reaches_standing built begins reached) ih operation cancellation

/-- The counts of a sample are those of the history exactly when no decoded
token is evaluated together with an append. -/
theorem sample_counts_iff (settled : Settled contract world)
    (tallied : Tallied setup.options (sessionOf world.coordinator)) {operation : Operation}
    (admitted : Admits setup.options (sessionOf world.coordinator) operation) :
    sampleCounts world.coordinator operation =
        trueCounts setup.options.vocabSize (world.coordinator.tokens ++ appendedBy operation) ↔
      (appends operation = true → world.coordinator.engine.frontiers.canonical =
        world.coordinator.engine.frontiers.target) := by
  have consistent := settled.consistent
  have plain : penaltyCounts world.coordinator.sampler [] =
      trueCounts setup.options.vocabSize (world.coordinator.tokens ++ []) :=
    penalty_counts_true tallied consistent.small
  cases operation with
  | append tokenIds =>
      have ordered := consistent.ordered
      have lag := consistent.lag
      have room : world.coordinator.tokens.length + tokenIds.length ≤
        setup.options.contextLimit.toNat := admitted.2.2
      have small : world.coordinator.tokens.length + tokenIds.length < 2 ^ 32 :=
        room.trans_lt setup.options.contextLimit.toNat_lt
      simp only [sampleCounts, addedBy, appendedBy, appends, true_implies, consistent.canonical]
      by_cases level : world.coordinator.tokens.length = world.coordinator.engine.frontiers.target
      · have none : (sessionOf world.coordinator).pending = [] := List.drop_eq_nil_of_le level.le
        rw [none, List.nil_append]
        exact iff_of_true (penalty_counts_true tallied small) level
      · have one : world.coordinator.tokens.length =
          world.coordinator.engine.frontiers.target + 1 := by omega
        have inside : world.coordinator.engine.frontiers.target <
          world.coordinator.tokens.length := by omega
        rw [(token_at_pending one).2, List.singleton_append]
        apply iff_of_false _ level
        apply penalty_counts_twice tallied
        apply consistent.tokens
        rw [List.getD_eq_getElem _ _ inside]
        exact List.getElem_mem inside
  | seedDecode => exact iff_of_true plain fun appended => absurd appended Bool.false_ne_true
  | decodeOne => exact iff_of_true plain fun appended => absurd appended Bool.false_ne_true
  | speculativeStep maxDraft => exact iff_of_true plain fun appended => absurd appended Bool.false_ne_true
  | resetSession => exact iff_of_true plain fun appended => absurd appended Bool.false_ne_true

/-- In every run every sample is made with `sampleCounts`, which are the counts
of the canonical history unless an append is made behind a decoded token that
is still pending. -/
theorem penalties_see_history_iff {options : ExecutorOptions}
    (made : makeExecutor options setup.stage0.stage setup.stage1.stage =
      .ok (setup.options, start.coordinator))
    (reached : Reaches setup start world) (operation : Operation)
    (cancellation : Option CancellationToken) :
    perform setup operation cancellation world =
        perform (scoring setup (sampleCounts world.coordinator operation)) operation cancellation
          world ∧
      (world.coordinator.poisoned = false →
        Admits setup.options (sessionOf world.coordinator) operation →
        (sampleCounts world.coordinator operation = trueCounts setup.options.vocabSize
            (world.coordinator.tokens ++ appendedBy operation) ↔
          (appends operation = true → world.coordinator.engine.frontiers.canonical =
            world.coordinator.engine.frontiers.target))) := by
  have constructed := make_executor_constructed made
  have begins : Settled (unknownPair setup) start := ⟨constructed.consistent, trivial, trivial⟩
  have standing := reaches_standing constructed.built begins reached
  have tallied := reaches_tallied constructed.built begins (constructed_tallied constructed) reached
  by_cases poisoned : world.coordinator.poisoned = true
  · rw [perform_poisoned poisoned, perform_poisoned poisoned, poisoned]
    exact ⟨rfl, nofun⟩
  · have settled := standing.resolve_left poisoned
    have healthy := eq_false_of_ne_true poisoned
    constructor
    · have whole : Whole world.coordinator.sampler := by
        change world.coordinator.sampler.counts =
          tallies setup.options.vocabSize world.coordinator.tokens at tallied
        rw [Whole, tallied, settled.consistent.vocabulary]
        simp [tallies]
      exact dispatch_counting constructed.built (settled_given settled cancellation) healthy whole
        operation
    · exact fun _ admitted => sample_counts_iff settled tallied admitted

end Runs

section Sample

/-- A stage that keeps no state; its answers are fixed. -/
def fixedStage (stage : Stage) (answer : StageInput → StageOutput) : StageBackend Unit where
  stage := stage
  prefetchTransaction _ _ _ := pure ()
  execute input := pure (answer input)
  draft _ _ _ _ := pure []
  draftRetained _ _ _ _ _ := pure []
  checkpointSpeculativePrefix _ _ := pure ()
  reconcileRetainedDraft _ _ := pure ()
  commit _ _ := pure ()
  rollback _ := pure ()
  resetSession := pure ()

def framed (input : StageInput) : StageOutput :=
  { boundary := { frame := {
      sessionHash := input.txn.sessionHash
      epoch := input.txn.epoch
      tokenStart := input.txn.baseTarget + input.chunkOffset
      tokenCount := input.tokenIds.length
      hiddenDtype := .bfloat16
      producerStatus := .ready
      hiddenWidth := 1
      payloadBytes := input.tokenIds.length * 2 } } }

def scored (_ : StageInput) : StageOutput := { nextToken := 0, logitsBf16 := [0, 0, 0, 0] }

def sampleOptions : ExecutorOptions :=
  { hiddenWidth := 1, vocabSize := 4, contextLimit := 16, sampling := { mode := .topKTopP } }

/-- Token 3, unless it was counted twice. -/
def preferThree : Selection := fun _ scored _ =>
  .ok (if (scored.getD 3 (0, 0)).2 ≤ 1 then 3 else 0)

def sampleSetup : Setup Unit Unit where
  options := { sampleOptions with
    identity := Identity.makeDevelopmentIdentity 1 16 { mode := .topKTopP } }
  select := preferThree
  stage0 := fixedStage .stage0 framed
  stage1 := fixedStage .stage1 scored
  weather _ := {}

def sampleStart : World Unit Unit where
  coordinator := {
    engine := { sessionHash := 1 }
    sampler := ⟨4, { mode := .topKTopP }, { rngState := 1 }, [0, 0, 0, 0]⟩ }
  worker0 := { state := () }
  worker1 := { state := () }

theorem made_sample :
    makeExecutor sampleOptions sampleSetup.stage0.stage sampleSetup.stage1.stage =
      .ok (sampleSetup.options, sampleStart.coordinator) := by
  have completed : completeOptions sampleOptions = sampleSetup.options := by
    simp [completeOptions, sampleOptions, sampleSetup]
  have valid := Identity.development_identity_valid 1 16 { mode := .topKTopP } (by decide)
    (by decide)
  have sampling : makeSampler sampleOptions.vocabSize sampleOptions.sampling =
      .ok sampleStart.coordinator.sampler := by decide
  unfold makeExecutor
  simp only [sampling, completed, bind, Except.bind]
  rw [if_neg (by decide), if_neg (by decide), if_neg (by decide), if_neg (by decide),
    if_neg (by decide), if_neg]
  · rfl
  · intro refused
    rcases refused with invalid | session | context
    · exact invalid valid
    · exact session rfl
    · exact context rfl

theorem penalties_see_history_iff_decode :
    perform sampleSetup (.append [1]) none sampleStart =
        perform (scoring sampleSetup (sampleCounts sampleStart.coordinator (.append [1])))
          (.append [1]) none sampleStart ∧
      sampleCounts sampleStart.coordinator (.append [1]) = trueCounts 4 [1] := by
  obtain ⟨same, exactly⟩ := penalties_see_history_iff made_sample .start (.append [1]) none
  exact ⟨same, (exactly rfl ⟨by decide, by decide, by decide⟩).mpr fun _ => rfl⟩

def afterAppend : World Unit Unit := (perform sampleSetup (.append [1]) none sampleStart).2

def afterSeed : World Unit Unit := (perform sampleSetup .seedDecode none afterAppend).2

/-- The decoded token 3 occurs once in the history `[1, 3, 2]` and is counted
twice for the sample behind it. -/
theorem pending_token_counted_twice :
    makeExecutor sampleOptions sampleSetup.stage0.stage sampleSetup.stage1.stage =
        .ok (sampleSetup.options, sampleStart.coordinator) ∧
      Reaches sampleSetup sampleStart afterSeed ∧ afterSeed.coordinator.tokens = [1, 3] ∧
      sampleCounts afterSeed.coordinator (.append [2]) = [0, 1, 1, 2] ∧
      trueCounts 4 [1, 3, 2] = [0, 1, 1, 1] ∧
      (perform sampleSetup (.append [2]) none afterSeed).2.coordinator.lastSample = 0 ∧
      (perform (scoring sampleSetup (trueCounts 4 [1, 3, 2])) (.append [2]) none
        afterSeed).2.coordinator.lastSample = 3 := by
  refine ⟨made_sample, .perform (.perform .start _ _) _ _, ?_, ?_, ?_, ?_, ?_⟩ <;> decide +kernel

end Sample

end Q38.PenaltyHistory
