import Q38Runtime.ChunkDelivery
import Q38Runtime.ExecutorInvariant

/-!
How an append is cut into chunks does not matter to the mocks. Two appends of the
same tokens to the same session that both return leave the same session, the same
frontiers and the same last digests on both stages; the digests are folds over the
rows, not over the chunks.
-/
namespace Q38.ChunkSizes
open Contracts Cancellation Backend Sampling Transaction Executor SessionModel StageContracts
  Pipeline Coordination Preparation Commitment TransactionRun SessionRefinement ExecutorRuns
  MockBackend MockContract ExecutorInvariant RecordedStages ChunkDelivery Imperative
  ConsecutiveRuns

section Frontiers
variable {σ₀ σ₁ : Type} {model : StageModel} {setup : Setup σ₀ σ₁}
variable {contract : PairContract model setup} {attempt : Attempt} {history : List Token}
variable {world : World σ₀ σ₁}

/-- The frontiers behind a transaction are computed from those before it. -/
theorem run_transaction_frontiers (startable : Startable contract attempt history world) :
    Ends (runTransaction setup attempt.kind attempt.evalTokens attempt.chunkTokens
        attempt.appendedCount attempt.retainedDraft)
      (fun _ after => ∃ count, after.coordinator.engine.frontiers =
        advancedFrontiers (openedFor attempt world.coordinator.engine) count)
      (fun _ _ => True) world := by
  have sound := startable.sound
  unfold runTransaction ensureHealthy
  simp only [ends_bind, ends_read, ends_ensure]
  refine ⟨fun _ => ?_, fun sick => (sick startable.healthy).elim⟩
  apply (poll_ends contract).weaken
  swap
  · exact fun _ _ _ => trivial
  rintro _ polled waited
  simp only [ends_bind, ends_ensure]
  refine ⟨fun _ => ⟨fun _ => ⟨fun _ => ?_, fun mismatch => (mismatch sound.matched).elim⟩,
    fun zero => (zero sound.chunk).elim⟩, fun empty => (empty sound.nonempty).elim⟩
  have ready := startable.polled waited
  apply (prepare_attempt_ends ready).weaken
  swap
  · exact fun _ _ _ => trivial
  rintro _ _ ⟨rfl, -⟩
  rw [ends_bind, ends_read, ends_catching]
  apply (transact_ends (startable_prepared ready)).weaken
  · rintro result after ⟨count, decision, finished⟩
    refine ⟨count, ?_⟩
    rw [finished.engine.frontiers]
    change advancedFrontiers (openedFor attempt polled.coordinator.engine) count = _
    rw [waited.coordinator]
  · intro thrown middle _
    rw [ends_bind]
    exact (ends_trivial (abandon setup _ thrown) middle).weaken (fun _ _ _ => trivial)
      fun _ _ _ => trivial

end Frontiers

section Appends
variable {σ₀ σ₁ : Type} {model : StageModel} {setup : Setup σ₀ σ₁}
variable {contract : PairContract model setup} {world : World (Recorded σ₀) (Recorded σ₁)}

/-- The rows an append evaluates. -/
def appendRows (coordinator : Coordinator) (tokenIds : List Token) : List Token :=
  (sessionOf coordinator).pending ++ tokenIds

/-- An append that returned: what its stages were given, and the frontiers behind it. -/
structure Traced (options : ExecutorOptions) (tokenIds : List Token)
    (world after : World (Recorded σ₀) (Recorded σ₁)) : Prop where
  done : Done (preparedTxn world.coordinator.engine .appendKnown
      (appendRows world.coordinator tokenIds)) (appendRows world.coordinator tokenIds) world after
    (appendRows world.coordinator tokenIds).length
  frontiers : ∃ count, after.coordinator.engine.frontiers = advancedFrontiers
    (openedFor (appendAttempt options (sessionOf world.coordinator) tokenIds)
      world.coordinator.engine) count

theorem Traced.earlier {options : ExecutorOptions} {tokenIds : List Token}
    {polled after : World (Recorded σ₀) (Recorded σ₁)} (still : Still world polled)
    (same : polled.coordinator = world.coordinator)
    (traced : Traced options tokenIds polled after) : Traced options tokenIds world after := by
  obtain ⟨done, frontiers⟩ := traced
  rw [same] at done frontiers
  exact ⟨done.earlier still, frontiers⟩

theorem Traced.kept {options : ExecutorOptions} {tokenIds : List Token}
    {behind after : World (Recorded σ₀) (Recorded σ₁)}
    (traced : Traced options tokenIds world behind) (same0 : after.worker0 = behind.worker0)
    (same1 : after.worker1 = behind.worker1)
    (engine : after.coordinator.engine = behind.coordinator.engine) :
    Traced options tokenIds world after := by
  obtain ⟨done, frontiers⟩ := traced
  refine ⟨done.still (still_workers (by rw [same0]) (by rw [same1])), ?_⟩
  rw [engine]
  exact frontiers

theorem append_traced (built : Built setup.options) (settled : Settled (recordedPair contract) world)
    (healthy : world.coordinator.poisoned = false) (tokenIds : List Token) :
    Ends (append (recordingSetup setup) tokenIds)
      (fun _ after => Traced setup.options tokenIds world after) (fun _ _ => True) world := by
  unfold append ensureHealthy
  simp only [ends_bind, ends_read, ends_ensure]
  refine ⟨fun _ => ?_, fun sick => (sick healthy).elim⟩
  apply ((poll_ends (recordedPair contract)).both (on_token_still _)).weaken
  swap
  · exact fun _ _ _ => trivial
  rintro _ polled ⟨waited, still⟩
  have settled := settled.polled waited
  have consistent := settled.consistent
  have healthy : polled.coordinator.poisoned = false := by rw [waited.coordinator, healthy]
  simp only [ends_bind, ends_ensure, ends_read, ends_settle]
  refine ⟨fun nonempty => ⟨fun listed => ⟨fun room => ⟨fun _ => ⟨?_, fun _ _ => trivial⟩,
    fun _ => trivial⟩, fun _ => trivial⟩, fun _ => trivial⟩, fun _ => trivial⟩
  intro evaluated pending
  rw [with_pending_ok consistent, Except.ok.injEq] at pending
  subst pending
  have admitted : Admits setup.options (sessionOf polled.coordinator) (.append tokenIds) := by
    refine ⟨nonempty, listed, ?_⟩
    rw [consistent.canonical] at room
    change ¬ tokenIds.length > setup.options.contextLimit.toNat - min polled.coordinator.tokens.length
      setup.options.contextLimit.toNat at room
    change polled.coordinator.tokens.length + _ ≤ _
    have limit := consistent.limit
    change _ ≤ setup.options.contextLimit.toNat at limit
    omega
  have fitting := append_fitting built consistent.ordered consistent.lag admitted
  have startable := settled_startable settled healthy fitting
  have small : toUInt32 tokenIds.length = tokenIds.length := by
    apply Nat.mod_eq_of_lt
    have fits : polled.coordinator.tokens.length + tokenIds.length ≤
      setup.options.contextLimit.toNat := admitted.2.2
    have := setup.options.contextLimit.toNat_lt
    omega
  rw [small]
  apply ((run_transaction_given .appendKnown (appendRows polled.coordinator tokenIds) _ _ none).both
    (run_transaction_frontiers startable)).weaken
  swap
  · exact fun _ _ _ => trivial
  rintro ⟨event, output1, rows⟩ behind ⟨⟨-, -, done⟩, frontiers⟩
  have traced : Traced setup.options tokenIds polled behind := by
    have whole : toUInt32 (appendRows polled.coordinator tokenIds).length =
        (appendRows polled.coordinator tokenIds).length := Nat.mod_eq_of_lt startable.sound.extent
    have done := done rfl
    rw [whole] at done
    exact ⟨done, frontiers⟩
  have traced := traced.earlier still waited.coordinator
  -- the append publishes its tokens, which touches neither a stage nor a frontier
  unfold publish onSampler remember
  simp only [ends_bind, ends_write, ends_within]
  apply (ends_trivial (commitTokens tokenIds) _).weaken
  · exact fun _ _ _ => traced.kept rfl rfl rfl
  · exact fun _ _ _ => trivial

end Appends

section Sessions
variable {model : StageModel} {options : ExecutorOptions} {select : Selection} {session after : Session}
variable {tokenIds answer : List Token}

/-- What an append leaves is computed from the rows and one answer behind them. -/
theorem happens_append (happens : Happens model options select session (.append tokenIds) answer
      after) :
    Admits options session (.append tokenIds) ∧ ∃ out next decision,
      Answer model options session.sampler session.history (session.pending ++ tokenIds) out ∧
      resolveToken options select session.sampler .appendKnown (session.pending ++ tokenIds) out =
        .ok (next, decision) ∧
      after = session.extended tokenIds (session.pending ++ tokenIds).length decision next true := by
  cases happens with
  | transacted admitted asked done =>
      cases asked
      have rows := done.candidate
      change _ = session.pending ++ tokenIds at rows
      subst rows
      cases done.settles with
      | plain kind seen answer resolved =>
          refine ⟨admitted, _, _, _, answer, resolved, ?_⟩
          rw [appends, Bool.or_true]
          rfl
      | speculative kind => cases kind

theorem extended_history (ordered : session.target ≤ session.tokens.length) (next : Token)
    (decision : Option SamplerDecisionV1) (sampled : Bool) :
    (session.extended tokenIds (session.pending ++ tokenIds).length decision next sampled).history =
      session.history ++ (session.pending ++ tokenIds) := by
  have all : session.tokens ++ tokenIds = session.history ++ (session.pending ++ tokenIds) := by
    rw [← List.append_assoc, Session.history, Session.pending, List.take_append_drop]
  have length : session.target + (session.pending ++ tokenIds).length =
      (session.history ++ (session.pending ++ tokenIds)).length := by
    rw [@List.length_append _ session.history, Session.history, List.length_take,
      min_eq_left ordered]
  change (session.tokens ++ tokenIds).take (session.target + (session.pending ++ tokenIds).length) = _
  rw [length, ← all, List.take_length]

/-- The chunk size is none of the options an answer or its token depends on. -/
def rechunked (options : ExecutorOptions) (chunkTokens : UInt32) : ExecutorOptions :=
  { options with appendChunkTokens := chunkTokens }

theorem rechunked_token_unique {front back : MockStage} {left right : UInt32} {rows : List Token}
    {out out' : StageOutput}
    (answered : Answer (mockModel front back (rechunked options left)) (rechunked options left)
      session.sampler session.history rows out)
    (answered' : Answer (mockModel front back (rechunked options right)) (rechunked options right)
      session.sampler session.history rows out') :
    resolveToken (rechunked options left) select session.sampler .appendKnown rows out =
      resolveToken (rechunked options right) select session.sampler .appendKnown rows out' := by
  have deterministic := mock_deterministic front back options
  have same : resolveToken options select session.sampler .appendKnown rows out =
      resolveToken options select session.sampler .appendKnown rows out' :=
    resolve_token_answer .appendKnown rows
      (deterministic.predicts answered.predicted answered'.predicted)
      fun asked => deterministic.logits (answered.scored asked) (answered'.scored asked)
  exact same

theorem append_session_unique {front back : MockStage} {left right : UInt32} {first second : Session}
    {one other : List Token}
    (here : Happens (mockModel front back (rechunked options left)) (rechunked options left) select
      session (.append tokenIds) one first)
    (there : Happens (mockModel front back (rechunked options right)) (rechunked options right)
      select session (.append tokenIds) other second) : first = second := by
  obtain ⟨-, out, next, decision, answered, resolved, rfl⟩ := happens_append here
  obtain ⟨-, out', next', decision', answered', resolved', rfl⟩ := happens_append there
  have both := resolved.symm.trans ((rechunked_token_unique answered answered').trans resolved')
  rw [Except.ok.injEq, Prod.mk.injEq] at both
  rw [both.1, both.2]

/-- Fitted mocks decline no append of a size where they do not decline it in another. -/
theorem append_not_declined {front back : MockStage} {left right : UInt32} {first : Session}
    {one : List Token} (fitted : Fitted front back options) (positive : right ≠ 0)
    (here : Happens (mockModel front back (rechunked options left)) (rechunked options left) select
      session (.append tokenIds) one first) :
    ¬ Declines (mockModel front back (rechunked options right)) (rechunked options right) select
      session (.append tokenIds) := by
  obtain ⟨admitted, out, next, decision, answered, resolved, -⟩ := happens_append here
  have chunk : right.toNat ≠ 0 := fun zero => positive (UInt32.toNat_inj.mp zero)
  rintro (refused | ⟨attempt, asked, undraftable | ⟨rows, candidate, refused | unresolved⟩⟩)
  · exact refused admitted
  · cases asked
    obtain ⟨request, drafts, impossible, -⟩ := undraftable
    cases impossible
  · cases asked
    obtain ⟨offset, count, ⟨inside, -, size⟩, misfit | ⟨-, token, predicts, unlisted⟩⟩ := refused
    · have word := right.toNat_lt
      change count = min right.toNat _ at size
      change offset < rows.length at inside
      change count = min right.toNat (rows.length - offset) at size
      exact misfit (fitted_fits fitted (by omega) (by omega))
    · have listed := fitted_predicts fitted
        (((appendAttempt (rechunked options right) session tokenIds).round session.history
          rows).historyAt (offset + count))
      rw [show token = _ from predicts] at unlisted
      exact absurd (listed.symm.trans unlisted) (by decide)
  · cases asked
    obtain ⟨out', thrown, answered', failed⟩ := unresolved
    have rowsAre : rows = session.pending ++ tokenIds := candidate
    subst rowsAre
    have answered' := answered' fun kind => by cases kind
    have both := resolved.symm.trans ((rechunked_token_unique answered answered').trans failed)
    cases both

end Sessions

section Digests
variable {mock : MockStage} {history rows : List Token} {input : StageInput}

/-- The digest a stage answered last. -/
def lastDigest (stage : Recorded MockState) : Option (Except Thrown UInt64) :=
  stage.calls.getLast?.map fun call => call.2.map (·.stateDigest)

theorem back_answer_digest (mock : MockStage) (rows : List Token) (input : StageInput) :
    (backAnswer mock rows input).stateDigest = digestAfter mock input.txn rows := by
  unfold backAnswer
  dsimp only
  split <;> rfl

/-- A stage that committed all rows answered last behind all rows. -/
theorem committed_digest {backend : StageBackend MockState} (contract : StageContract backend)
    (output : SessionTxnV1 → List Token → UInt64) {stage : Recorded MockState} {txn : SessionTxnV1}
    {calls : List ExecuteCall}
    (answers : ∀ {history rows input out}, contract.output history rows input out →
      out.stateDigest = output input.txn (rows ++ input.tokenIds))
    (idle : RecordedIdle contract (history ++ rows) txn.epoch stage)
    (base : txn.baseTarget = history.length) (evaluated : txn.evaluatedCount = rows.length)
    (some_ : rows ≠ []) (same : stage.calls = calls)
    (delivered : Delivered txn rows (calls.map Prod.fst) txn.evaluatedCount) :
    lastDigest stage = some (.ok (output txn rows)) := by
  have positive := List.length_pos_iff.mpr some_
  rcases List.eq_nil_or_concat calls with rfl | ⟨earlier, last, rfl⟩
  · have total := runs_total delivered.runs
    rw [List.map_nil, List.map_nil, List.sum_nil] at total
    omega
  rw [List.concat_eq_append] at same delivered
  rw [List.map_append] at delivered
  obtain ⟨-, whole⟩ := runs_concat delivered.runs
  have owner := delivered.owner last.1 (List.mem_append_right _ List.mem_cons_self)
  have found : stage.calls.getLast? = some last := by rw [same, List.getLast?_concat]
  obtain ⟨out, history', rows', answered, answer, base', offset, committed⟩ :=
    idle.remembers last.1 last.2 found (by rw [owner]) (by
      rw [Grown, owner, base, List.length_append]
      omega)
  have length : history.length = history'.length := by rw [base', owner, base]
  have evaluatedAll : history ++ rows = history' ++ (rows' ++ last.1.tokenIds) := by
    apply List.IsPrefix.eq_of_length committed
    rw [tokenCount] at whole
    simp only [List.length_append]
    omega
  have rowsAll := (List.append_inj evaluatedAll length).2
  rw [lastDigest, found, Option.map_some, answered, rowsAll, ← owner]
  exact congrArg (some ∘ Except.ok) (answers answer)

end Digests

section Mocks
variable {front back : MockStage} {options : ExecutorOptions} {select : Selection}
variable {weather : Nat → Weather} {chunk : UInt32} {world : World MockState MockState}
variable {tokenIds : List Token}

/-- The same executor, whose stages are recorded from here on. -/
def listening {σ₀ σ₁ : Type} (world : World σ₀ σ₁) : World (Recorded σ₀) (Recorded σ₁) where
  coordinator := world.coordinator
  worker0 := ⟨⟨world.worker0.state, []⟩, world.worker0.finished⟩
  worker1 := ⟨⟨world.worker1.state, []⟩, world.worker1.finished⟩
  cancellation := world.cancellation
  clock := world.clock

/-- An append in chunks of a size, over mocks. -/
def chunkedAppend (options : ExecutorOptions) (select : Selection) (weather : Nat → Weather)
    (front back : MockStage) (chunk : UInt32) (tokenIds : List Token)
    (cancellation : Option CancellationToken) (world : World MockState MockState) :
    Except Thrown (List Token) × World (Recorded MockState) (Recorded MockState) :=
  perform (recordingSetup (mockSetup (rechunked options chunk) select weather front back))
    (.append tokenIds) cancellation (listening world)

/-- What an append leaves, told without its chunks. -/
structure Left (options : ExecutorOptions) (select : Selection) (front back : MockStage)
    (chunk : UInt32) (tokenIds : List Token) (world : World MockState MockState)
    (after : World (Recorded MockState) (Recorded MockState)) : Prop where
  fresh : world.coordinator.engine.frontiers.epoch < maxUInt64
  happens : ∃ answer, Happens (mockModel front back (rechunked options chunk))
    (rechunked options chunk) select (sessionOf world.coordinator) (.append tokenIds) answer
    (sessionOf after.coordinator)
  frontiers : ∃ count, after.coordinator.engine.frontiers = advancedFrontiers
    (openedAppend world.coordinator.engine tokenIds.length
      (appendRows world.coordinator tokenIds).length) count
  digest0 : lastDigest after.worker0.state = some (.ok (digestAfter front
    (preparedTxn world.coordinator.engine .appendKnown (appendRows world.coordinator tokenIds))
    (appendRows world.coordinator tokenIds)))
  digest1 : lastDigest after.worker1.state = some (.ok (digestAfter back
    (preparedTxn world.coordinator.engine .appendKnown (appendRows world.coordinator tokenIds))
    (appendRows world.coordinator tokenIds)))

theorem listening_settled {other : UInt32} {before : Nat → Weather}
    {first : front.stage = .stage0} {second : back.stage = .stage1}
    (settled : Settled (mockPair options select before first second) world) :
    Settled (recordedPair (mockPair (rechunked options other) select weather first second))
      (listening world) := by
  obtain ⟨consistent, idle0, idle1⟩ := settled
  refine ⟨?_, ?_, ?_⟩
  · obtain ⟨idle, valid, epoch, canonical, lag, limit, vocabulary, magic, counted, tokens,
      sample⟩ := consistent
    exact ⟨idle, valid, epoch, canonical, lag, limit, vocabulary, magic, counted, tokens, sample⟩
  · exact ⟨idle0, List.forall_mem_nil _, fun _ _ last => by cases last⟩
  · exact ⟨idle1, List.forall_mem_nil _, fun _ _ last => by cases last⟩

variable (weather) in
theorem append_left {before : Nat → Weather} (first : front.stage = .stage0)
    (second : back.stage = .stage1) (built : Built (rechunked options chunk))
    (settled : Settled (mockPair options select before first second) world)
    (healthy : world.coordinator.poisoned = false) (cancellation : Option CancellationToken) :
    Ends (perform (recordingSetup (mockSetup (rechunked options chunk) select weather front back))
        (.append tokenIds) cancellation)
      (fun _ after => Left options select front back chunk tokenIds world after)
      (fun _ _ => True) (listening world) := by
  have settled : Settled (recordedPair (mockPair (rechunked options chunk) select weather first
      second)) (listening world) := listening_settled settled
  have heard : Settled (recordedPair (mockPair (rechunked options chunk) select weather first second))
      (given (listening world) cancellation) := settled_given settled cancellation
  have traced := append_traced built heard healthy tokenIds
  have performed := perform_ends built settled healthy (.append tokenIds) cancellation
  have both : Ends (perform (recordingSetup (mockSetup (rechunked options chunk) select weather front
        back)) (.append tokenIds) cancellation)
      (fun _ after => Traced (rechunked options chunk) tokenIds (given (listening world) cancellation)
        after) (fun _ _ => True) (listening world) := by
    unfold perform
    rw [ends_bind, ends_write]
    exact (traced.chain fun _ _ done => done)
  apply (performed.both both).weaken
  swap
  · exact fun _ _ _ => trivial
  rintro answer after ⟨performed, ⟨frontCalls, backCalls, took, flow, level⟩, frontiers⟩
  have consistent := settled.consistent
  have epoch := (performed.epoch _ rfl).2
  obtain ⟨⟨nonempty, -⟩, _, next, decision, -, -, same⟩ := happens_append performed.happens
  have some_ : appendRows world.coordinator tokenIds ≠ [] := by simp [appendRows, nonempty]
  have whole : (preparedTxn world.coordinator.engine .appendKnown
      (appendRows world.coordinator tokenIds)).evaluatedCount =
      (appendRows world.coordinator tokenIds).length :=
    Nat.le_antisymm (Nat.mod_le _ _) flow.fronts.within
  have history : (sessionOf after.coordinator).history =
      (sessionOf world.coordinator).history ++ appendRows world.coordinator tokenIds := by
    rw [same]
    exact extended_history consistent.ordered next decision true
  have base : (preparedTxn world.coordinator.engine .appendKnown
      (appendRows world.coordinator tokenIds)).baseTarget =
      (sessionOf world.coordinator).history.length := consistent.history_length.symm
  have idle0 := performed.settled.front
  have idle1 := performed.settled.back
  rw [history, epoch] at idle0 idle1
  constructor
  case fresh => exact (performed.epoch _ rfl).1
  case happens => exact ⟨answer, performed.happens⟩
  case frontiers =>
    obtain ⟨count, frontiers⟩ := frontiers
    exact ⟨count, frontiers⟩
  case digest0 =>
    refine committed_digest (mockFront front first).toStageContract (digestAfter front) ?_ idle0
      base whole some_ took.front ?_
    · intro history rows input out answer
      rw [show out = frontAnswer front (rows ++ input.tokenIds) input from answer]
      rfl
    · rw [whole]
      exact flow.fronts
  case digest1 =>
    refine committed_digest (mockBack front back (rechunked options chunk) second).toStageContract
      (digestAfter back) ?_ idle1 base whole some_ took.back ?_
    · intro history rows input out answers
      rw [answers.answer, back_answer_digest]
    · rw [whole]
      exact flow.backs

/-- Two appends that left the same. -/
structure Alike (left right : World (Recorded MockState) (Recorded MockState)) : Prop where
  session : sessionOf left.coordinator = sessionOf right.coordinator
  frontiers : left.coordinator.engine.frontiers = right.coordinator.engine.frontiers
  digest0 : lastDigest left.worker0.state = lastDigest right.worker0.state
  digest1 : lastDigest left.worker1.state = lastDigest right.worker1.state

theorem left_alike {left right : UInt32}
    {first second : World (Recorded MockState) (Recorded MockState)}
    (one : Left options select front back left tokenIds world first)
    (other : Left options select front back right tokenIds world second) : Alike first second := by
  obtain ⟨-, ⟨answer, happens⟩, ⟨count, frontiers⟩, digest0, digest1⟩ := one
  obtain ⟨-, ⟨answer', happens'⟩, ⟨count', frontiers'⟩, digest0', digest1'⟩ := other
  have session := append_session_unique happens happens'
  have target : first.coordinator.engine.frontiers.target =
      second.coordinator.engine.frontiers.target := congrArg Session.target session
  rw [frontiers, frontiers'] at target
  have counts : count = count' := Nat.add_left_cancel target
  exact ⟨session, by rw [frontiers, frontiers', counts], digest0.trans digest0'.symm,
    digest1.trans digest1'.symm⟩

/-- Nothing is requested from a call on. -/
structure Untroubled (weather : Nat → Weather) (cancellation : Option CancellationToken) : Prop where
  weather : ∀ index, (weather index).arrivals = [] ∧ (weather index).between = [] ∧
    ∀ poll, observe ((weather index).reads poll) = .ok ()
  fresh : ∀ token, cancellation = some token → token.Fresh

theorem append_returns {left right : UInt32} {before : Nat → Weather} (first : front.stage = .stage0)
    (second : back.stage = .stage1) (built : Built (rechunked options right))
    (fitted : Fitted front back options) (positive : right ≠ 0)
    (settled : Settled (mockPair options select before first second) world)
    (healthy : world.coordinator.poisoned = false) {cancellation : Option CancellationToken}
    (untroubled : Untroubled weather cancellation)
    {one : World (Recorded MockState) (Recorded MockState)}
    (here : Left options select front back left tokenIds world one) :
    ∃ answer, (chunkedAppend options select weather front back right tokenIds cancellation
      world).1 = .ok answer := by
  obtain ⟨answer, happens⟩ := here.happens
  have settled : Settled (recordedPair (mockPair (rechunked options right) select weather first
      second)) (listening world) := listening_settled settled
  have undisturbed : Undisturbed (recordedPair (mockPair (rechunked options right) select weather
      first second)) (given (listening world) cancellation) :=
    ⟨untroubled.weather, trivial, fitted.width1, untroubled.fresh⟩
  have commits := mock_commits (rechunked options right) select weather first second
  have accepts : ¬ Refuses (recordingSetup (mockSetup (rechunked options right) select weather front
      back)) (mockModel front back (rechunked options right)) (.append tokenIds)
      (given (listening world) cancellation) := by
    rintro (declines | ⟨-, exhausted⟩)
    · exact append_not_declined fitted positive happens declines
    · exact absurd exhausted here.fresh.ne
  obtain ⟨answer, after, outcome, -⟩ := undisturbed_performs built settled healthy
    undisturbed ⟨commits.front, commits.back⟩ accepts
  exact ⟨answer, congrArg Prod.fst outcome⟩

/-- An executor over two mocks as it is constructed. -/
def freshMocks (coordinator : Coordinator) : World MockState MockState where
  coordinator := coordinator
  worker0 := { state := {} }
  worker1 := { state := {} }

theorem fresh_mocks_settled {made options : ExecutorOptions} {coordinator : Coordinator}
    (constructed : makeExecutor made front.stage back.stage = .ok (options, coordinator))
    (first : front.stage = .stage0) (second : back.stage = .stage1) :
    Settled (mockPair options select weather first second) (freshMocks coordinator) := by
  have facts := make_executor_constructed constructed
  have history : (sessionOf coordinator).history = [] := by
    rw [Session.history, sessionOf, facts.empty, List.take_nil]
  have idle : Idle (sessionOf coordinator).history coordinator.engine.frontiers.epoch {} := by
    rw [history, facts.frontiers]
    exact ⟨rfl, rfl, rfl, rfl⟩
  exact ⟨facts.consistent, idle, idle⟩

/-- Mocks of width 1, the second with a vocabulary of its own. -/
def greedyMocks (vocabulary : UInt32) : Setup MockState MockState :=
  mockSetup greedyCompleted (fun _ _ _ => .ok 0) (fun _ => {}) ⟨.stage0, 1, 4⟩
    ⟨.stage1, 1, vocabulary⟩

def greedyAppend (vocabulary chunk : UInt32) (tokenIds : List Token) :
    Except Thrown (List Token) × World (Recorded MockState) (Recorded MockState) :=
  chunkedAppend greedyCompleted (fun _ _ _ => .ok 0) (fun _ => {}) ⟨.stage0, 1, 4⟩
    ⟨.stage1, 1, vocabulary⟩ chunk tokenIds none (freshMocks greedyStart)

theorem greedy_append_returns : (greedyAppend 4 1 [1, 2]).1 = .ok [] ∧
    (greedyAppend 4 2 [1, 2]).1 = .ok [] := by
  constructor <;> decide +kernel

/-- Token 0 is pending behind token 1. -/
def pendingMocks : World MockState MockState :=
  (perform (greedyMocks 4) .seedDecode none
    (perform (greedyMocks 4) (.append [1]) none (freshMocks greedyStart)).2).2

def threeRows : Except Thrown (List Token) × World (Recorded MockState) (Recorded MockState) :=
  perform (recordingSetup (greedyMocks 4)) (.speculativeStep 2) none (listening pendingMocks)

end Mocks

end Q38.ChunkSizes
