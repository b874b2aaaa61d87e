import Q38Runtime.TransactionRun

/-! The executor refines the session model. Between two operations it is settled,
every operation that returns does what the model allows, and one that throws
leaves the session alone unless a stage did not end a transaction as told. -/
namespace Q38.SessionRefinement
open Contracts Cancellation Backend Sampling Identity Transaction Executor SessionModel
  StageContracts Pipeline Coordination Preparation TransactionRun Imperative

/-- The session the members of the coordinator stand for. -/
def sessionOf (coordinator : Coordinator) : Session where
  tokens := coordinator.tokens
  target := coordinator.engine.frontiers.target
  sampler := coordinator.sampler
  lastSample := coordinator.lastSample
  haveLastSample := coordinator.haveLastSample

section Settled
variable {σ₀ σ₁ : Type} {model : StageModel} {setup : Setup σ₀ σ₁}

/-- The members of an executor between two operations. -/
structure Consistent (options : ExecutorOptions) (coordinator : Coordinator) : Prop where
  idle : coordinator.engine.active = false
  valid : validateFrontiers coordinator.engine.frontiers = none
  epoch : coordinator.engine.frontiers.epoch ≤ maxUInt64
  canonical : coordinator.engine.frontiers.canonical = coordinator.tokens.length
  lag : coordinator.tokens.length ≤ coordinator.engine.frontiers.target + 1
  limit : coordinator.tokens.length ≤ options.contextLimit.toNat
  vocabulary : coordinator.sampler.vocabulary = options.vocabSize
  magic : coordinator.sampler.state.magic = kSamplerStateMagic
  counted : coordinator.sampler.state.canonicalTokens = UInt64.ofNat coordinator.tokens.length
  tokens : ∀ token ∈ coordinator.tokens, inVocabulary options.vocabSize token = true
  sample : coordinator.haveLastSample = true →
    inVocabulary options.vocabSize coordinator.lastSample = true

/-- The stages stand where the coordinator does. -/
structure Settled (contract : PairContract model setup) (world : World σ₀ σ₁) : Prop where
  consistent : Consistent setup.options world.coordinator
  front : contract.front.idle (sessionOf world.coordinator).history
    world.coordinator.engine.frontiers.epoch world.worker0.state
  back : contract.back.idle (sessionOf world.coordinator).history
    world.coordinator.engine.frontiers.epoch world.worker1.state

theorem Consistent.ordered {options : ExecutorOptions} {coordinator : Coordinator}
    (consistent : Consistent options coordinator) :
    coordinator.engine.frontiers.target ≤ coordinator.tokens.length := by
  have ordered := ((validate_frontiers_iff _).mp consistent.valid).2.2.1
  rw [consistent.canonical] at ordered
  exact Nat.le_of_not_lt ordered

theorem Consistent.small {options : ExecutorOptions} {coordinator : Coordinator}
    (consistent : Consistent options coordinator) : coordinator.tokens.length < 2 ^ 32 :=
  consistent.limit.trans_lt options.contextLimit.toNat_lt

theorem Consistent.history_length {options : ExecutorOptions} {coordinator : Coordinator}
    (consistent : Consistent options coordinator) :
    (sessionOf coordinator).history.length = coordinator.engine.frontiers.target := by
  rw [Session.history, List.length_take]
  exact min_eq_left consistent.ordered

theorem Consistent.pending_length {options : ExecutorOptions} {coordinator : Coordinator}
    (consistent : Consistent options coordinator) :
    (sessionOf coordinator).pending.length =
      coordinator.engine.frontiers.canonical - coordinator.engine.frontiers.target := by
  rw [Session.pending, List.length_drop, consistent.canonical]
  rfl

/-- `vector::at` at the target frontier finds the pending token. -/
theorem token_at_pending {coordinator : Coordinator}
    (one : coordinator.tokens.length = coordinator.engine.frontiers.target + 1) :
    tokenAt coordinator.tokens coordinator.engine.frontiers.target =
        .ok (coordinator.tokens.getD coordinator.engine.frontiers.target 0) ∧
      (sessionOf coordinator).pending =
        [coordinator.tokens.getD coordinator.engine.frontiers.target 0] := by
  have inside : coordinator.engine.frontiers.target < coordinator.tokens.length := by omega
  constructor
  · rw [tokenAt, List.getElem?_eq_getElem inside, List.getD_eq_getElem _ _ inside]
  · change coordinator.tokens.drop coordinator.engine.frontiers.target = _
    rw [List.drop_eq_getElem_cons inside, List.getD_eq_getElem _ _ inside,
      List.drop_eq_nil_of_le (by omega)]

/-- The rows of an append are the pending token and the new ones. -/
theorem with_pending_ok {options : ExecutorOptions} {coordinator : Coordinator}
    (consistent : Consistent options coordinator) (tokenIds : List Token) :
    withPending coordinator.tokens coordinator.engine.frontiers.target
        (coordinator.engine.frontiers.canonical - coordinator.engine.frontiers.target) tokenIds =
      .ok ((sessionOf coordinator).pending ++ tokenIds) := by
  have ordered := consistent.ordered
  have lag := consistent.lag
  rw [withPending, consistent.canonical]
  by_cases one : coordinator.tokens.length = coordinator.engine.frontiers.target + 1
  · obtain ⟨found, pending⟩ := token_at_pending one
    rw [if_pos (by omega), found, pending]
    rfl
  · rw [if_neg (by omega)]
    have none : (sessionOf coordinator).pending = [] := by
      apply List.drop_eq_nil_of_le
      change coordinator.tokens.length ≤ coordinator.engine.frontiers.target
      omega
    rw [none, List.nil_append]

end Settled

section Start
variable {σ₀ σ₁ : Type} {model : StageModel} {setup : Setup σ₀ σ₁}
  {contract : PairContract model setup} {world : World σ₀ σ₁}

/-- What the constructor checks about the options. -/
structure Built (options : ExecutorOptions) : Prop where
  appendChunk : options.appendChunkTokens ≠ 0
  identity : validateSessionIdentity options.identity = none
  contextLimit : options.identity.contextLimit = options.contextLimit

theorem chunk_positive {options : ExecutorOptions} (built : Built options) :
    options.appendChunkTokens.toNat ≠ 0 := by
  intro zero
  apply built.appendChunk
  rw [← UInt32.toNat_inj, zero]
  rfl

/-- The transaction an operation asks for has rows that fit the context. -/
structure Fitting (options : ExecutorOptions) (session : Session) (attempt : Attempt) :
    Prop where
  sound : Sound attempt
  appended : attempt.kind = .appendKnown → attempt.appendedCount ≠ 0 ∧
    attempt.evalTokens.length = attempt.appendedCount + session.pending.length
  pending : attempt.kind ≠ .appendKnown → session.tokens.length = session.target + 1 ∧
    session.tokens.length + attempt.evalTokens.length ≤ options.contextLimit.toNat

theorem append_fitting {options : ExecutorOptions} {session : Session} (built : Built options)
    (ordered : session.target ≤ session.tokens.length)
    (lag : session.tokens.length ≤ session.target + 1) {tokenIds : List Token}
    (admitted : Admits options session (.append tokenIds)) :
    Fitting options session (appendAttempt options session tokenIds) := by
  obtain ⟨nonempty, -, room⟩ := admitted
  have some_ : 0 < tokenIds.length := List.length_pos_iff.mpr nonempty
  have limit := options.contextLimit.toNat_lt
  have pending : session.pending.length = session.tokens.length - session.target :=
    List.length_drop ..
  constructor
  · constructor
    · simp [appendAttempt, nonempty]
    · exact chunk_positive built
    · simp only [appendAttempt, List.length_append]
      omega
    · exact Or.inl rfl
    · intro impossible
      cases impossible
    · simp [appendAttempt]
    · rfl
  · intro _
    simp only [appendAttempt, List.length_append]
    omega
  · exact fun other => (other rfl).elim

theorem decode_fitting {options : ExecutorOptions} {session : Session}
    (one : session.tokens.length = session.target + 1)
    (room : session.tokens.length < options.contextLimit.toNat) :
    Fitting options session (decodeAttempt session) := by
  have pending : session.pending.length = 1 := by
    rw [Session.pending, List.length_drop]
    omega
  constructor
  · constructor
    · intro empty
      simp [show session.pending = [] from empty] at pending
    · exact Nat.one_ne_zero
    · simp [decodeAttempt, pending]
    · exact Or.inr (Or.inl rfl)
    · exact fun _ => pending
    · simp [decodeAttempt]
    · rfl
  · intro impossible
    cases impossible
  · intro _
    simp only [decodeAttempt, pending]
    omega

theorem speculative_fitting {options : ExecutorOptions} {session : Session} {maxDraft : Nat}
    (narrow : maxDraft ≤ kMaximumMtpDraftWidth)
    (one : session.tokens.length = session.target + 1)
    (wide : draftWidth options session maxDraft ≠ 0) :
    Fitting options session
      (speculativeAttempt session (draftWidth options session maxDraft)) := by
  have pending : session.pending = [session.tokens.getD session.target 0] := by
    have inside : session.target < session.tokens.length := by omega
    rw [Session.pending, List.drop_eq_getElem_cons inside, List.getD_eq_getElem _ _ inside,
      List.drop_eq_nil_of_le (by omega)]
  have bounded : draftWidth options session maxDraft ≤ 64 ∧
      session.tokens.length + draftWidth options session maxDraft + 1 ≤
        options.contextLimit.toNat := by
    simp only [draftWidth, kMaximumMtpDraftWidth] at wide narrow ⊢
    split at wide <;> split <;> first | contradiction | omega
  generalize draftWidth options session maxDraft = width at wide bounded
  constructor
  · constructor
    · simp [speculativeAttempt, pending]
    · exact Nat.one_ne_zero
    · simp only [speculativeAttempt, pending, List.length_append, List.length_replicate,
        List.length_singleton]
      omega
    · exact Or.inr (Or.inr rfl)
    · intro impossible
      cases impossible
    · simp [speculativeAttempt]
    · simp [retainedMismatch, speculativeAttempt, pending, wide]
  · intro impossible
    cases impossible
  · intro _
    simp only [speculativeAttempt, pending, List.length_append, List.length_replicate,
      List.length_singleton]
    omega

theorem asked_fitting {options : ExecutorOptions} {session : Session} (built : Built options)
    (ordered : session.target ≤ session.tokens.length)
    (lag : session.tokens.length ≤ session.target + 1) {operation : Operation}
    {attempt : Attempt} (admitted : Admits options session operation)
    (asked : attemptOf options session operation = some attempt) :
    Fitting options session attempt := by
  cases operation with
  | append tokenIds =>
      cases asked
      exact append_fitting built ordered lag admitted
  | decodeOne =>
      cases asked
      exact decode_fitting admitted.1 admitted.2
  | speculativeStep maxDraft =>
      obtain ⟨narrow, one, room⟩ := admitted
      simp only [attemptOf] at asked
      split at asked
      · cases asked
        exact decode_fitting one room
      · next wide =>
          cases asked
          exact speculative_fitting narrow one wide
  | seedDecode => cases asked
  | resetSession => cases asked

/-- The transaction of an admitted operation can be started. -/
theorem settled_startable (settled : Settled contract world)
    (healthy : world.coordinator.poisoned = false) {attempt : Attempt}
    (fitting : Fitting setup.options (sessionOf world.coordinator) attempt) :
    Startable contract attempt (sessionOf world.coordinator).history world := by
  have consistent := settled.consistent
  have pending := consistent.pending_length
  have ordered := consistent.ordered
  have lag := consistent.lag
  exact {
    sound := fitting.sound
    healthy := healthy
    idle := consistent.idle
    valid := consistent.valid
    target := consistent.history_length.symm
    epoch := consistent.epoch
    room := by
      rw [consistent.canonical]
      exact consistent.small
    vocabulary := consistent.vocabulary
    appended := by
      intro append
      obtain ⟨nonzero, extent⟩ := fitting.appended append
      refine ⟨nonzero, ?_, by rw [extent, pending]⟩
      rw [consistent.canonical]
      omega
    pending := by
      intro other
      have one : world.coordinator.tokens.length =
          world.coordinator.engine.frontiers.target + 1 := (fitting.pending other).1
      rw [consistent.canonical]
      omega
    front := settled.front
    back := settled.back }

end Start

section Growth
variable {model : StageModel} {options : ExecutorOptions} {select : Selection}
  {session : Session} {operation : Operation} {attempt : Attempt} {rows : List Token}
  {count : Nat} {next : Token} {decision : Option SamplerDecisionV1}

/-- What a committed transaction adds to the session fits behind it. -/
structure Grows (options : ExecutorOptions) (session : Session) (attempt : Attempt)
    (rows : List Token) (count : Nat) (fresh : List Token) : Prop where
  listed : ∀ token ∈ fresh, inVocabulary options.vocabSize token = true
  length : fresh.length = advances attempt count
  ahead : session.target + count ≤ session.tokens.length + fresh.length
  lag : session.tokens.length + fresh.length ≤ session.target + count + 1
  limit : session.tokens.length + fresh.length ≤ options.contextLimit.toNat
  history : (session.tokens ++ fresh).take (session.target + count) =
    session.history ++ rows.take count

/-- The rows of a decode step are the pending token and what was drafted. -/
theorem step_rows (other : attempt.kind ≠ .appendKnown)
    (one : session.tokens.length = session.target + 1)
    (asked : attemptOf options session operation = some attempt)
    (candidate : Candidate model options attempt rows) :
    ∃ rest, rows = session.pending ++ rest ∧
      (∀ token ∈ rest, inVocabulary options.vocabSize token = true) ∧
      rows.length = attempt.evalTokens.length := by
  have single : session.pending.length = 1 := by
    rw [Session.pending, List.length_drop]
    omega
  have plain (same : attempt = decodeAttempt session) : ∃ rest, rows = session.pending ++ rest ∧
      (∀ token ∈ rest, inVocabulary options.vocabSize token = true) ∧
      rows.length = attempt.evalTokens.length := by
    subst same
    change rows = session.pending at candidate
    exact ⟨[], by rw [candidate, List.append_nil], nofun, by rw [candidate]; rfl⟩
  cases operation with
  | append tokenIds =>
      cases asked
      exact (other rfl).elim
  | decodeOne => exact plain (Option.some.inj asked).symm
  | speculativeStep maxDraft =>
      simp only [attemptOf] at asked
      split at asked
      · exact plain (Option.some.inj asked).symm
      · cases asked
        obtain ⟨drafts, -, installed, rfl⟩ := candidate
        simp only [installable, Bool.and_eq_true, beq_iff_eq, List.all_eq_true] at installed
        have first : (session.pending ++ List.replicate (draftWidth options session maxDraft) 0).take
            1 = session.pending := List.take_left' single
        refine ⟨drafts, ?_, installed.2, ?_⟩
        · simp only [speculativeAttempt, first]
        · simp only [speculativeAttempt, first, List.length_append, List.length_replicate,
            installed.1]
  | seedDecode => cases asked
  | resetSession => cases asked

theorem step_grows (fitting : Fitting options session attempt)
    (other : attempt.kind ≠ .appendKnown) {rest : List Token}
    (rowsEq : rows = session.pending ++ rest)
    (restListed : ∀ token ∈ rest, inVocabulary options.vocabSize token = true)
    (extent : rows.length = attempt.evalTokens.length) (positive : 0 < count)
    (within : count ≤ attempt.evalTokens.length)
    (listed : inVocabulary options.vocabSize next = true) :
    Grows options session attempt rows count ((rows.drop 1).take (count - 1) ++ [next]) := by
  obtain ⟨one, room⟩ := fitting.pending other
  have single : session.pending.length = 1 := by
    rw [Session.pending, List.length_drop]
    omega
  have behind : rows.drop 1 = rest := by
    rw [rowsEq, List.drop_left' single]
  have restLength : rest.length + 1 = rows.length := by
    rw [rowsEq, List.length_append, single, Nat.add_comm]
  have length : ((rows.drop 1).take (count - 1) ++ [next]).length = count := by
    rw [List.length_append, List.length_take, behind, List.length_singleton]
    omega
  rw [behind] at length ⊢
  constructor
  · intro token member
    rcases List.mem_append.mp member with drafted | last
    · exact restListed token (List.mem_of_mem_take drafted)
    · rw [List.mem_singleton.mp last]
      exact listed
  · rw [length, advances, if_neg other]
  · omega
  · omega
  · omega
  · -- the tokens before the target frontier, the pending one, and the accepted drafts
    have split : session.tokens = session.history ++ session.pending :=
      (List.take_append_drop session.target session.tokens).symm
    have target : session.history.length = session.target := by
      rw [Session.history, List.length_take]
      omega
    have cut : rows.take count = session.pending ++ rest.take (count - 1) := by
      rw [rowsEq, List.take_append, single, List.take_of_length_le (by omega)]
    have kept : (rest.take (count - 1)).length = count - 1 := by
      rw [List.length_take]
      omega
    rw [cut]
    conv_lhs => rw [split]
    rw [List.append_assoc, ← target, List.take_length_add_append, ← List.append_assoc,
      List.take_left']
    rw [List.length_append, single, kept]
    omega

theorem append_grows {tokenIds : List Token} (ordered : session.target ≤ session.tokens.length)
    (admitted : Admits options session (.append tokenIds))
    (rowsEq : rows = session.pending ++ tokenIds) (whole : count = rows.length) :
    Grows options session (appendAttempt options session tokenIds) rows count tokenIds := by
  obtain ⟨nonempty, listed, room⟩ := admitted
  have extent : rows.length = session.tokens.length - session.target + tokenIds.length := by
    rw [rowsEq, List.length_append, Session.pending, List.length_drop]
  constructor
  · exact List.all_eq_true.mp listed
  · rfl
  · omega
  · omega
  · exact room
  · have reach : session.target + count = session.tokens.length + tokenIds.length := by omega
    rw [reach, List.take_of_length_le (by rw [List.length_append]), whole, List.take_length,
      rowsEq, ← List.append_assoc, Session.history, Session.pending, List.take_append_drop]

/-- The rows of an attempt that does not speculate are all committed. -/
theorem settles_whole {sampler : TransactionalSampler} {history : List Token}
    (kind : attempt.kind ≠ .speculative)
    (settles : Settles model options select sampler history attempt rows count next decision) :
    count = rows.length := by
  cases settles with
  | plain => rfl
  | speculative speculates => exact (kind speculates).elim

theorem transacted_grows (built : Built options)
    (ordered : session.target ≤ session.tokens.length)
    (lag : session.tokens.length ≤ session.target + 1)
    (admitted : Admits options session operation)
    (asked : attemptOf options session operation = some attempt)
    (done : Transacted model options select session.sampler session.history attempt rows count
      next decision) (positive : 0 < count) (within : count ≤ attempt.evalTokens.length)
    (listed : inVocabulary options.vocabSize next = true) :
    Grows options session attempt rows count (freshOf rows count next operation) := by
  have fitting := asked_fitting built ordered lag admitted asked
  have step (other : attempt.kind ≠ .appendKnown) :
      Grows options session attempt rows count ((rows.drop 1).take (count - 1) ++ [next]) := by
    obtain ⟨rest, rowsEq, restListed, extent⟩ :=
      step_rows other (fitting.pending other).1 asked done.candidate
    exact step_grows fitting other rowsEq restListed extent positive within listed
  cases operation with
  | append tokenIds =>
      cases asked
      have plain : (appendAttempt options session tokenIds).kind ≠ .speculative := nofun
      exact append_grows ordered admitted done.candidate (settles_whole plain done.settles)
  | decodeOne =>
      cases asked
      exact step nofun
  | speculativeStep maxDraft =>
      apply step
      intro append
      simp only [attemptOf] at asked
      split at asked <;> cases asked <;> cases append
  | seedDecode => cases asked
  | resetSession => cases asked

end Growth

section Performance
variable {σ₀ σ₁ : Type} {model : StageModel} {setup : Setup σ₀ σ₁}
  (contract : PairContract model setup) (operation : Operation) (world : World σ₀ σ₁)

/-- An operation that returned. -/
structure Performed (answer : List Token) (after : World σ₀ σ₁) : Prop where
  settled : Settled contract after
  healthy : after.coordinator.poisoned = false
  happens : Happens model setup.options setup.select (sessionOf world.coordinator) operation
    answer (sessionOf after.coordinator)
  token : TokenLater world.cancellation after.cancellation
  passed : operation ≠ .resetSession →
    ∀ token, after.cancellation = some token → token.state = .sealed
  epoch : ∀ attempt, attemptOf setup.options (sessionOf world.coordinator) operation =
      some attempt →
    world.coordinator.engine.frontiers.epoch < maxUInt64 ∧
      after.coordinator.engine.frontiers.epoch =
        world.coordinator.engine.frontiers.epoch + 1

/-- Why an undisturbed operation throws. -/
def Refuses (setup : Setup σ₀ σ₁) (model : StageModel) (operation : Operation)
    (world : World σ₀ σ₁) : Prop :=
  Declines model setup.options setup.select (sessionOf world.coordinator) operation ∨
    ((attemptOf setup.options (sessionOf world.coordinator) operation).isSome = true ∧
      world.coordinator.engine.frontiers.epoch = maxUInt64)

/-- An operation that threw. -/
inductive Aborted (thrown : Thrown) (after : World σ₀ σ₁) : Prop
  | transaction (facts : Failed contract (sessionOf world.coordinator).history world after
      (Refuses setup model operation world) thrown)
  | halted (reset : operation = .resetSession) (facts : Isolated world after .resetSession)
      (cause : ¬ Undisturbed contract world)

variable {contract operation world}

/-- The world behind the publication of a transaction. -/
def extendedWorld (after : World σ₀ σ₁) (fresh : List Token) (next : Token)
    (haveLastSample : Bool) : World σ₀ σ₁ :=
  { after with coordinator := { after.coordinator with
      tokens := after.coordinator.tokens ++ fresh
      sampler := fresh.foldl (fun sampler token => counted token sampler) after.coordinator.sampler
      lastSample := next
      haveLastSample := haveLastSample } }

theorem decided_sampler_fixed (decision : Option SamplerDecisionV1)
    (sampler : TransactionalSampler) :
    (decidedSampler decision sampler).vocabulary = sampler.vocabulary ∧
      (decidedSampler decision sampler).state.magic = sampler.state.magic ∧
      (decidedSampler decision sampler).state.canonicalTokens =
        sampler.state.canonicalTokens := by
  cases decision <;> exact ⟨rfl, rfl, rfl⟩

/-- A committed and published transaction leaves the executor settled. -/
theorem completed_performs (built : Built setup.options) (settled : Settled contract world)
    (healthy : world.coordinator.poisoned = false) {attempt : Attempt}
    (admitted : Admits setup.options (sessionOf world.coordinator) operation)
    (asked : attemptOf setup.options (sessionOf world.coordinator) operation = some attempt)
    {result : CommitEventV1 × StageOutput × List Token} {count : Nat}
    {decision : Option SamplerDecisionV1} {after : World σ₀ σ₁}
    (completed : Completed contract attempt (sessionOf world.coordinator).history world result
      count decision after) :
    Performed contract operation world
      (answerOf (freshOf result.2.2 count result.2.1.nextToken operation) operation)
      (extendedWorld after (freshOf result.2.2 count result.2.1.nextToken operation)
        result.2.1.nextToken
        (world.coordinator.haveLastSample || appends operation)) := by
  have consistent := settled.consistent
  have grows := transacted_grows built consistent.ordered consistent.lag admitted asked
    completed.transacted completed.positive completed.within completed.listed
  generalize freshEq : freshOf result.2.2 count result.2.1.nextToken operation = fresh at grows ⊢
  obtain ⟨listed, length, ahead, lag, limit, history⟩ := grows
  simp only [sessionOf] at length ahead lag limit history
  have coordinator := completed.coordinator
  have tokens : after.coordinator.tokens = world.coordinator.tokens := by rw [coordinator]
  have sampler : after.coordinator.sampler =
      decidedSampler decision world.coordinator.sampler := by rw [coordinator]
  have fixed := counted_fixed fresh (decidedSampler decision world.coordinator.sampler)
  have decided_ := decided_sampler_fixed decision world.coordinator.sampler
  have target := completed.target
  have canonical := completed.canonical
  have stands : (sessionOf (extendedWorld after fresh result.2.1.nextToken
      (world.coordinator.haveLastSample || appends operation)).coordinator).history =
      (sessionOf world.coordinator).history ++ result.2.2.take count := by
    simp only [sessionOf, Session.history, extendedWorld, tokens, target]
    exact history
  constructor
  · constructor
    · constructor
      · exact completed.idle
      · exact completed.valid
      · change after.coordinator.engine.frontiers.epoch ≤ maxUInt64
        rw [completed.epoch]
        exact completed.fresh
      · simp only [extendedWorld, canonical, tokens, List.length_append, length,
          consistent.canonical]
      · simp only [extendedWorld, target, tokens, List.length_append]
        exact lag
      · simp only [extendedWorld, tokens, List.length_append]
        exact limit
      · simp only [extendedWorld, sampler]
        exact fixed.1.trans (decided_.1.trans consistent.vocabulary)
      · simp only [extendedWorld, sampler]
        exact fixed.2.2.trans (decided_.2.1.trans consistent.magic)
      · simp only [extendedWorld, sampler, tokens, List.length_append]
        rw [counted_canonical_tokens, decided_.2.2, consistent.counted, UInt64.ofNat_add]
      · simp only [extendedWorld, tokens]
        intro token member
        rcases List.mem_append.mp member with old | new
        · exact consistent.tokens token old
        · exact listed token new
      · exact fun _ => completed.listed
    · rw [stands]
      exact completed.front
    · rw [stands]
      exact completed.back
  · change after.coordinator.poisoned = false
    rw [coordinator]
    exact healthy
  · have same : sessionOf (extendedWorld after fresh result.2.1.nextToken
        (world.coordinator.haveLastSample || appends operation)).coordinator =
        (sessionOf world.coordinator).extended fresh count decision result.2.1.nextToken
          (world.coordinator.haveLastSample || appends operation) := by
      simp only [sessionOf, extendedWorld, Session.extended, tokens, sampler, target]
    rw [same, ← freshEq]
    exact .transacted admitted asked completed.transacted
  · exact completed.token
  · exact fun _ => completed.passed
  · exact fun _ _ => ⟨completed.fresh, completed.epoch⟩

theorem Settled.polled {polled : World σ₀ σ₁} (settled : Settled contract world)
    (waited : Waited contract world polled) : Settled contract polled := by
  obtain ⟨consistent, front, back⟩ := settled
  rw [← waited.coordinator] at consistent front back
  rw [← waited.same0] at front
  rw [← waited.same1] at back
  exact ⟨consistent, front, back⟩

theorem Performed.earlier {polled after : World σ₀ σ₁} {answer : List Token}
    (performed : Performed contract operation polled answer after)
    (waited : Waited contract world polled) :
    Performed contract operation world answer after := by
  obtain ⟨settled, healthy, happens, token, passed, epoch⟩ := performed
  rw [waited.coordinator] at happens epoch
  exact ⟨settled, healthy, happens, waited.token.trans token, passed, epoch⟩

theorem Aborted.earlier {polled after : World σ₀ σ₁} {thrown : Thrown}
    (aborted : Aborted contract operation polled thrown after)
    (waited : Waited contract world polled) :
    Aborted contract operation world thrown after := by
  cases aborted with
  | transaction facts =>
      rw [waited.coordinator] at facts
      refine .transaction (facts.earlier waited ?_)
      rw [Refuses, waited.coordinator]
      exact id
  | halted reset facts cause =>
      obtain ⟨coordinator, token, closed⟩ := facts
      rw [waited.coordinator] at coordinator
      rw [waited.same0, waited.same1] at closed
      exact .halted reset ⟨coordinator, waited.token.trans token, closed⟩
        fun undisturbed => cause (waited.calm undisturbed)

/-- A throw before anything was prepared. -/
theorem refused_aborts {thrown : Thrown}
    (cause : Undisturbed contract world → Refuses setup model operation world) :
    Aborted contract operation world thrown world :=
  .transaction (.untouched ⟨rfl, rfl, rfl, TokenLater.refl _, cause⟩)

/-- An operation that starts with a poll starts in a world like the one it was
called in. -/
theorem polled_ends {α : Type} {rest : Unit → ExecutorCall σ₀ σ₁ α}
    {answer : α → List Token}
    (settled : Settled contract world) (healthy : world.coordinator.poisoned = false)
    (next : ∀ polled : World σ₀ σ₁, Settled contract polled →
      polled.coordinator.poisoned = false →
      Ends (rest ()) (fun value after => Performed contract operation polled (answer value) after)
        (fun thrown after => Aborted contract operation polled thrown after) polled) :
    Ends (do
        ensureHealthy
        let polled ← poll setup
        rest polled)
      (fun value after => Performed contract operation world (answer value) after)
      (fun thrown after => Aborted contract operation world thrown after) world := by
  unfold ensureHealthy
  simp only [ends_bind, ends_read, ends_ensure]
  refine ⟨fun _ => ?_, fun sick => (sick healthy).elim⟩
  apply (poll_ends contract).weaken
  · intro _ polled waited
    apply (next polled (settled.polled waited) ?_).weaken
    · exact fun _ _ performed => performed.earlier waited
    · exact fun _ _ aborted => aborted.earlier waited
    · rw [waited.coordinator]
      exact healthy
  · rintro thrown after ⟨waited, disturbed, -⟩
    exact .transaction (.untouched ⟨waited.coordinator, waited.same0, waited.same1,
      waited.token, fun undisturbed => (disturbed undisturbed).elim⟩)

/-- The transaction of an admitted operation. -/
theorem transaction_ends (built : Built setup.options) (settled : Settled contract world)
    (healthy : world.coordinator.poisoned = false) {attempt : Attempt}
    (admitted : Admits setup.options (sessionOf world.coordinator) operation)
    (asked : attemptOf setup.options (sessionOf world.coordinator) operation = some attempt) :
    Ends (runTransaction setup attempt.kind attempt.evalTokens attempt.chunkTokens
        attempt.appendedCount attempt.retainedDraft)
      (fun result after => ∃ count decision, Completed contract attempt
        (sessionOf world.coordinator).history world result count decision after)
      (fun thrown after => Aborted contract operation world thrown after) world := by
  have fitting := asked_fitting built settled.consistent.ordered settled.consistent.lag admitted
    asked
  apply (run_transaction_ends (settled_startable settled healthy fitting)).weaken
  · exact fun _ _ completed => completed
  · intro thrown after failed_
    refine .transaction (failed_.earlier (Waited.refl world) ?_)
    rintro (declined | exhausted)
    · exact Or.inl (Or.inr ⟨attempt, asked, declined⟩)
    · exact Or.inr ⟨by rw [asked]; rfl, exhausted⟩

theorem publish_ends {published : List Token} {after : World σ₀ σ₁}
    (listed : ∀ token ∈ published,
      inVocabulary after.coordinator.sampler.vocabulary token = true)
    {returns : Unit → World σ₀ σ₁ → Prop} {throws : Thrown → World σ₀ σ₁ → Prop}
    (holds : returns () { after with coordinator := { after.coordinator with
      tokens := after.coordinator.tokens ++ published
      sampler := published.foldl (fun sampler token => counted token sampler)
        after.coordinator.sampler } }) :
    Ends (publish published) returns throws after := by
  unfold publish onSampler
  rw [ends_bind, ends_write, ends_within]
  unfold Ends
  rw [commit_tokens_valid listed]
  exact holds

end Performance

section Operations
variable {σ₀ σ₁ : Type} {model : StageModel} {setup : Setup σ₀ σ₁}
  {contract : PairContract model setup} {operation : Operation} {world : World σ₀ σ₁}

theorem append_ends (built : Built setup.options) (settled : Settled contract world)
    (healthy : world.coordinator.poisoned = false) (tokenIds : List Token) :
    Ends (append setup tokenIds)
      (fun _ after => Performed contract (.append tokenIds) world [] after)
      (fun thrown after => Aborted contract (.append tokenIds) world thrown after) world := by
  apply polled_ends settled healthy
  intro polled settled healthy
  have consistent := settled.consistent
  have ordered := consistent.ordered
  have lag := consistent.lag
  have limit := consistent.limit
  have refused (unfit : ¬ Admits setup.options (sessionOf polled.coordinator)
      (.append tokenIds)) {thrown : Thrown} :
      Aborted contract (.append tokenIds) polled thrown polled :=
    refused_aborts fun _ => Or.inl (Or.inl unfit)
  simp only [ends_bind, ends_ensure, ends_read, ends_settle]
  refine ⟨fun nonempty => ⟨fun listed => ⟨fun room => ⟨fun _ => ⟨?_, ?_⟩, ?_⟩, ?_⟩, ?_⟩, ?_⟩
  · intro evaluated pending
    rw [with_pending_ok consistent, Except.ok.injEq] at pending
    subst pending
    have admitted : Admits setup.options (sessionOf polled.coordinator) (.append tokenIds) := by
      refine ⟨nonempty, listed, ?_⟩
      simp only [sessionOf]
      rw [consistent.canonical] at room
      omega
    have small : toUInt32 tokenIds.length = tokenIds.length := by
      apply Nat.mod_eq_of_lt
      have fits : polled.coordinator.tokens.length + tokenIds.length ≤
        setup.options.contextLimit.toNat := admitted.2.2
      have := setup.options.contextLimit.toNat_lt
      omega
    rw [small]
    have asked : attemptOf setup.options (sessionOf polled.coordinator) (.append tokenIds) =
      some (appendAttempt setup.options (sessionOf polled.coordinator) tokenIds) := rfl
    apply (transaction_ends built settled healthy admitted asked).weaken
    swap
    · exact fun _ _ aborted => aborted
    rintro ⟨event, output1, rows⟩ after ⟨count, decision, completed⟩
    have performed := completed_performs built settled healthy admitted rfl completed
    have vocabulary : after.coordinator.sampler.vocabulary = setup.options.vocabSize := by
      rw [completed.coordinator]
      exact (decided_sampler_fixed decision _).1.trans consistent.vocabulary
    simp only [ends_bind]
    apply publish_ends
    · rw [vocabulary]
      exact List.all_eq_true.mp listed
    · simp only [remember]
      rw [appends, Bool.or_true] at performed
      exact performed
  · intro thrown missing
    rw [with_pending_ok consistent] at missing
    cases missing
  · intro many
    rw [consistent.canonical] at many
    omega
  · intro full
    apply refused
    rintro ⟨-, -, room⟩
    simp only [sessionOf] at room
    rw [consistent.canonical] at full
    omega
  · exact fun unlisted => refused fun admitted => unlisted admitted.2.1
  · exact fun empty => refused fun admitted => empty admitted.1

/-- The operations that decode, and when they are admitted. -/
structure Decoding (options : ExecutorOptions) (session : Session) (operation : Operation)
    (attempt : Attempt) : Prop where
  asked : attemptOf options session operation = some attempt
  admits : Admits options session operation ↔ session.tokens.length = session.target + 1 ∧
    session.tokens.length < options.contextLimit.toNat
  silent : appends operation = false
  fresh : ∀ rows count next,
    freshOf rows count next operation = (rows.drop 1).take (count - 1) ++ [next]
  answer : ∀ fresh, answerOf fresh operation = fresh

theorem decode_one_decoding {options : ExecutorOptions} {session : Session} :
    Decoding options session .decodeOne (decodeAttempt session) :=
  ⟨rfl, Iff.rfl, rfl, fun _ _ _ => rfl, fun _ => rfl⟩

theorem speculative_decoding {options : ExecutorOptions} {session : Session} {maxDraft : Nat}
    (narrow : maxDraft ≤ kMaximumMtpDraftWidth) {attempt : Attempt}
    (asked : attemptOf options session (.speculativeStep maxDraft) = some attempt) :
    Decoding options session (.speculativeStep maxDraft) attempt where
  asked := asked
  admits := and_iff_right narrow
  silent := rfl
  fresh _ _ _ := rfl
  answer _ := rfl

/-- A decoding transaction that committed, with its publication. -/
theorem decoding_performs (built : Built setup.options) (settled : Settled contract world)
    (healthy : world.coordinator.poisoned = false) {attempt : Attempt}
    (decoding : Decoding setup.options (sessionOf world.coordinator) operation attempt)
    (admitted : Admits setup.options (sessionOf world.coordinator) operation)
    {result : CommitEventV1 × StageOutput × List Token} {count : Nat}
    {decision : Option SamplerDecisionV1} {after : World σ₀ σ₁}
    (completed : Completed contract attempt (sessionOf world.coordinator).history world result
      count decision after) :
    (∀ token ∈ (result.2.2.drop 1).take (count - 1) ++ [result.2.1.nextToken],
        inVocabulary after.coordinator.sampler.vocabulary token = true) ∧
      Performed contract operation world
        ((result.2.2.drop 1).take (count - 1) ++ [result.2.1.nextToken])
        (extendedWorld after ((result.2.2.drop 1).take (count - 1) ++ [result.2.1.nextToken])
          result.2.1.nextToken after.coordinator.haveLastSample) := by
  have consistent := settled.consistent
  have performed := completed_performs built settled healthy admitted decoding.asked completed
  have grows := transacted_grows built consistent.ordered consistent.lag admitted decoding.asked
    completed.transacted completed.positive completed.within completed.listed
  have vocabulary : after.coordinator.sampler.vocabulary = setup.options.vocabSize := by
    rw [completed.coordinator]
    exact (decided_sampler_fixed decision _).1.trans consistent.vocabulary
  have kept : after.coordinator.haveLastSample = world.coordinator.haveLastSample := by
    rw [completed.coordinator]
  rw [decoding.answer, decoding.fresh, decoding.silent, Bool.or_false] at performed
  rw [decoding.fresh] at grows
  refine ⟨?_, ?_⟩
  · rw [vocabulary]
    exact grows.listed
  · rw [kept]
    exact performed

theorem decode_one_ends (built : Built setup.options) (settled : Settled contract world)
    (healthy : world.coordinator.poisoned = false)
    (decoding : Decoding setup.options (sessionOf world.coordinator) operation
      (decodeAttempt (sessionOf world.coordinator))) :
    Ends (decodeOne setup)
      (fun result after => Performed contract operation world result.publishedTokens after)
      (fun thrown after => Aborted contract operation world thrown after) world := by
  have consistent := settled.consistent
  have ordered := consistent.ordered
  have lag := consistent.lag
  have refused (unfit : ¬ (world.coordinator.tokens.length =
      world.coordinator.engine.frontiers.target + 1 ∧
        world.coordinator.tokens.length < setup.options.contextLimit.toNat)) {thrown : Thrown} :
      Aborted contract operation world thrown world :=
    refused_aborts fun _ => Or.inl (Or.inl fun admitted => unfit (decoding.admits.mp admitted))
  unfold decodeOne ensureHealthy
  simp only [ends_bind, ends_ensure, ends_read, ends_settle, consistent.canonical]
  refine ⟨fun _ => ⟨fun one => ⟨fun room => ⟨?_, ?_⟩, ?_⟩, ?_⟩, fun sick => (sick healthy).elim⟩
  · intro pending found
    have single : world.coordinator.tokens.length =
      world.coordinator.engine.frontiers.target + 1 := by omega
    obtain ⟨token, rows⟩ := token_at_pending single
    rw [token, Except.ok.injEq] at found
    have admitted := decoding.admits.mpr ⟨single, Nat.lt_of_not_le room⟩
    have transaction := transaction_ends built settled healthy admitted decoding.asked
    simp only [decodeAttempt, rows, found] at transaction
    apply transaction.weaken
    swap
    · exact fun _ _ aborted => aborted
    rintro ⟨event, output1, evaluated⟩ after ⟨count, decision, completed⟩
    have plain : TxnKind.decode ≠ .speculative := by simp
    have whole : count = evaluated.length := settles_whole plain completed.transacted.settles
    have same : evaluated = [pending] := completed.transacted.candidate
    have completed' : Completed contract (decodeAttempt (sessionOf world.coordinator))
        (sessionOf world.coordinator).history world (event, output1, evaluated) count decision
        after := by
      rw [decodeAttempt, rows, found]
      exact completed
    obtain ⟨listed, performed⟩ := decoding_performs built settled healthy decoding admitted completed'
    rw [whole, same] at listed performed
    simp only [ends_bind]
    apply publish_ends listed
    exact performed
  · intro thrown missing
    have single : world.coordinator.tokens.length =
      world.coordinator.engine.frontiers.target + 1 := by omega
    rw [(token_at_pending single).1] at missing
    cases missing
  · exact fun full => refused fun admitted => full (Nat.not_le.mpr admitted.2)
  · intro several
    apply refused
    rintro ⟨one, -⟩
    omega

theorem speculate_ends (built : Built setup.options) (settled : Settled contract world)
    (healthy : world.coordinator.poisoned = false) {width : Nat}
    (one : world.coordinator.tokens.length = world.coordinator.engine.frontiers.target + 1)
    (room : world.coordinator.tokens.length < setup.options.contextLimit.toNat)
    (decoding : Decoding setup.options (sessionOf world.coordinator) operation
      (speculativeAttempt (sessionOf world.coordinator) width)) :
    Ends (speculate setup width)
      (fun result after => Performed contract operation world result.publishedTokens after)
      (fun thrown after => Aborted contract operation world thrown after) world := by
  have admitted := decoding.admits.mpr ⟨one, room⟩
  obtain ⟨token, rows⟩ := token_at_pending one
  have transaction := transaction_ends built settled healthy admitted decoding.asked
  have pending : (sessionOf world.coordinator).tokens.getD (sessionOf world.coordinator).target 0 =
      world.coordinator.tokens.getD world.coordinator.engine.frontiers.target 0 := rfl
  simp only [speculativeAttempt, rows, pending, List.singleton_append] at transaction
  unfold speculate
  simp only [ends_bind, ends_read, ends_settle, token, Except.ok.injEq, forall_eq']
  refine ⟨?_, nofun⟩
  apply transaction.weaken
  swap
  · exact fun _ _ aborted => aborted
  rintro ⟨event, output1, evaluated⟩ after ⟨count, decision, completed⟩
  have completed' : Completed contract (speculativeAttempt (sessionOf world.coordinator) width)
      (sessionOf world.coordinator).history world (event, output1, evaluated) count decision
      after := by
    rw [speculativeAttempt, rows, pending]
    exact completed
  obtain ⟨listed, performed⟩ :=
    decoding_performs built settled healthy decoding admitted completed'
  have published : event.newlyPublished = count := completed.event
  simp only [published, ends_bind]
  apply publish_ends listed
  exact performed

theorem speculative_step_ends (built : Built setup.options) (settled : Settled contract world)
    (healthy : world.coordinator.poisoned = false) (maxDraft : Nat) :
    Ends (speculativeStep setup maxDraft)
      (fun result after => Performed contract (.speculativeStep maxDraft) world
        result.publishedTokens after)
      (fun thrown after => Aborted contract (.speculativeStep maxDraft) world thrown after)
      world := by
  apply polled_ends settled healthy
  intro polled settled healthy
  have consistent := settled.consistent
  have ordered := consistent.ordered
  have lag := consistent.lag
  have refused (unfit : ¬ Admits setup.options (sessionOf polled.coordinator)
      (.speculativeStep maxDraft)) {thrown : Thrown} :
      Aborted contract (.speculativeStep maxDraft) polled thrown polled :=
    refused_aborts fun _ => Or.inl (Or.inl unfit)
  have plain (narrow : maxDraft ≤ kMaximumMtpDraftWidth)
      (none : draftWidth setup.options (sessionOf polled.coordinator) maxDraft = 0) :
      Ends (decodeOne setup)
        (fun result after => Performed contract (.speculativeStep maxDraft) polled
          result.publishedTokens after)
        (fun thrown after => Aborted contract (.speculativeStep maxDraft) polled thrown after)
        polled := by
    apply decode_one_ends built settled healthy
    apply speculative_decoding narrow
    rw [attemptOf, if_pos none]
  rw [ends_bind, ends_ensure]
  refine ⟨fun narrow => ?_, fun wide => refused fun admitted => wide (Nat.not_lt.mpr admitted.1)⟩
  have narrow := Nat.le_of_not_lt narrow
  rw [ends_bind, ends_read, ends_ite]
  constructor
  · intro diverted
    apply plain narrow
    rcases diverted with sampled | zero
    · exact if_pos sampled
    · simp [draftWidth, zero]
  · intro drafting
    simp only [not_or] at drafting
    simp only [ends_bind, ends_ensure, ends_read, consistent.canonical]
    refine ⟨fun one => ⟨fun room => ?_, ?_⟩, ?_⟩
    · have single : polled.coordinator.tokens.length =
        polled.coordinator.engine.frontiers.target + 1 := by omega
      have width : draftWidth setup.options (sessionOf polled.coordinator) maxDraft =
          min maxDraft (setup.options.contextLimit.toNat - polled.coordinator.tokens.length - 1) :=
        if_neg drafting.1
      rw [← width, ends_ite]
      constructor
      · exact plain narrow
      · intro some_
        apply speculate_ends built settled healthy single (Nat.lt_of_not_le room)
        apply speculative_decoding narrow
        rw [attemptOf, if_neg some_]
    · exact fun full => refused fun admitted => full (Nat.not_le.mpr admitted.2.2)
    · intro several
      apply refused
      rintro ⟨-, one, -⟩
      simp only [sessionOf] at one
      omega

/-- Seeding an admitted session is accepted, and any other is left alone. -/
theorem seed_answer {options : ExecutorOptions} {coordinator : Coordinator}
    (consistent : Consistent options coordinator) :
    (coordinator.tokens.length = coordinator.engine.frontiers.target →
        seedDecodePending coordinator.engine = (.ok (), grown coordinator.engine 1)) ∧
      (coordinator.tokens.length ≠ coordinator.engine.frontiers.target →
        ∃ message, seedDecodePending coordinator.engine = (.error message, coordinator.engine)) := by
  have idle := consistent.idle
  have small := consistent.small
  have canonical := consistent.canonical
  constructor
  · intro level
    have added : addChecked coordinator.engine.frontiers.canonical 1 =
        some (coordinator.engine.frontiers.canonical + 1) := by
      rw [addChecked, if_neg]
      simp only [maxUInt64]
      omega
    unfold seedDecodePending addCanonical
    rw [if_neg (by simp [idle]), if_neg (by omega), added]
    rfl
  · intro pending
    unfold seedDecodePending
    rw [if_neg (by simp [idle]), if_pos (by omega)]
    exact ⟨_, rfl⟩

/-- The world behind a seed that was admitted. -/
theorem seeded_performs (settled : Settled contract world)
    (healthy : world.coordinator.poisoned = false)
    (admitted : Admits setup.options (sessionOf world.coordinator) .seedDecode)
    {token : Option CancellationToken} (later : TokenLater world.cancellation token)
    (passed : ∀ held, token = some held → held.state = .sealed) :
    Performed contract .seedDecode world [world.coordinator.lastSample]
      { accessed world token with coordinator := { world.coordinator with
        engine := grown world.coordinator.engine 1
        tokens := world.coordinator.tokens ++ [world.coordinator.lastSample]
        sampler := counted world.coordinator.lastSample world.coordinator.sampler } } := by
  have consistent := settled.consistent
  obtain ⟨sampled, room, level⟩ := admitted
  change world.coordinator.tokens.length < setup.options.contextLimit.toNat at room
  change world.coordinator.tokens.length = world.coordinator.engine.frontiers.target at level
  have fixed := counted_fixed [world.coordinator.lastSample] world.coordinator.sampler
  have history : (world.coordinator.tokens ++ [world.coordinator.lastSample]).take
      world.coordinator.engine.frontiers.target = (sessionOf world.coordinator).history :=
    List.take_append_of_le_length level.ge
  obtain ⟨zero, one, target, draft⟩ := (validate_frontiers_iff _).mp consistent.valid
  constructor
  · constructor
    · constructor
      · exact consistent.idle
      · apply (validate_frontiers_iff _).mpr
        simp only [grown]
        exact ⟨zero, one, by omega, by omega⟩
      · exact consistent.epoch
      · simp only [grown, consistent.canonical, List.length_append, List.length_singleton]
      · simp only [grown, List.length_append, List.length_singleton]
        omega
      · simp only [List.length_append, List.length_singleton]
        omega
      · exact fixed.1.trans consistent.vocabulary
      · exact fixed.2.2.trans consistent.magic
      · simp only [counted, consistent.counted, List.length_append, UInt64.ofNat_add]
        rfl
      · intro token member
        rcases List.mem_append.mp member with old | new
        · exact consistent.tokens token old
        · rw [List.mem_singleton.mp new]
          exact consistent.sample sampled
      · exact consistent.sample
    · have front := settled.front
      rw [← history] at front
      exact front
    · have back := settled.back
      rw [← history] at back
      exact back
  · exact healthy
  · exact .seedDecode ⟨sampled, room, level⟩
  · exact later
  · exact fun _ => passed
  · intro attempt asked
    cases asked

/-- Seeding moves the canonical frontier alone; the stages do not take part. -/
theorem seed_decode_ends (settled : Settled contract world)
    (healthy : world.coordinator.poisoned = false) :
    Ends (seedDecode setup)
      (fun token after => Performed contract .seedDecode world [token] after)
      (fun thrown after => Aborted contract .seedDecode world thrown after) world := by
  apply polled_ends settled healthy
  intro polled settled healthy
  have consistent := settled.consistent
  have ordered := consistent.ordered
  have untouched {after : World σ₀ σ₁} {thrown : Thrown}
      (coordinator : after.coordinator = polled.coordinator)
      (same0 : after.worker0 = polled.worker0) (same1 : after.worker1 = polled.worker1)
      (later : TokenLater polled.cancellation after.cancellation)
      (cause : Undisturbed contract polled → Refuses setup model .seedDecode polled) :
      Aborted contract .seedDecode polled thrown after :=
    .transaction (.untouched ⟨coordinator, same0, same1, later, cause⟩)
  rw [ends_bind]
  apply (seal_token_ends contract).weaken
  swap
  · rintro thrown after ⟨waited, disturbed, -⟩
    exact untouched waited.coordinator waited.same0 waited.same1 waited.token
      fun undisturbed => (disturbed undisturbed).elim
  rintro _ _ ⟨token, rfl, later, passed⟩
  have refused (unfit : ¬ Admits setup.options (sessionOf polled.coordinator) .seedDecode)
      {thrown : Thrown} : Aborted contract .seedDecode polled thrown (accessed polled token) :=
    untouched rfl rfl rfl later fun _ => Or.inl (Or.inl unfit)
  simp only [ends_bind, ends_ensure, ends_read]
  refine ⟨fun sampled => ⟨fun room => ?_, ?_⟩, fun none => refused fun admitted => none admitted.1⟩
  · change ¬ polled.coordinator.engine.frontiers.canonical ≥ _ at room
    rw [consistent.canonical] at room
    by_cases level : polled.coordinator.tokens.length = polled.coordinator.engine.frontiers.target
    · have answer : seedDecodePending (accessed polled token).coordinator.engine =
          (.ok (), grown polled.coordinator.engine 1) := (seed_answer consistent).1 level
      apply coordinate_accepted _ answer
      rw [ends_bind]
      apply publish_ends
      · intro token member
        rw [List.mem_singleton.mp member]
        exact consistent.vocabulary ▸ consistent.sample sampled
      · exact seeded_performs settled healthy ⟨sampled, Nat.lt_of_not_le room, level⟩ later passed
    · obtain ⟨message, answer⟩ := (seed_answer consistent).2 level
      rw [ends_coordinate]
      unfold Ends
      change Lands _ _ (seedDecodePending polled.coordinator.engine)
      rw [answer]
      exact refused fun admitted => level admitted.2.2
  · intro full
    apply refused
    rintro ⟨-, room, -⟩
    change ¬ ¬ polled.coordinator.engine.frontiers.canonical ≥ _ at full
    rw [consistent.canonical] at full
    exact full (Nat.not_le.mpr room)

/-- Both stages forget the session, or one of them does not follow. -/
theorem reset_stages_ends (settled : Settled contract world) :
    Ends (resetStages setup)
      (fun _ after => after.coordinator = world.coordinator ∧
        after.cancellation = world.cancellation ∧
        contract.front.idle [] 0 after.worker0.state ∧
        contract.back.idle [] 0 after.worker1.state)
      (fun _ after => after.coordinator = world.coordinator ∧
        after.cancellation = world.cancellation ∧
        (∃ first second, (first ≠ none ∨ second ≠ none) ∧
          Closed (.resetSession, first) world.worker0 after.worker0 ∧
          Closed (.resetSession, second) world.worker1 after.worker1) ∧
        ¬ (contract.front.calm ∧ contract.back.calm)) world := by
  unfold resetStages
  have inner0 := contract.front.resets settled.front
  apply (submit0_recorded .resetSession (fun _ => setup.stage0.resetSession) inner0).proceed
  rintro reset0 first ⟨coordinator, token, same, closed0, lands0⟩
  have inner1 := contract.back.resets settled.back
  rw [← same] at inner1
  apply (submit1_recorded .resetSession (fun _ => setup.stage1.resetSession) inner1).proceed
  rintro reset1 second ⟨coordinator', token', same', closed1, lands1⟩
  rw [← same'] at closed0
  rw [same] at closed1
  have closed : Closed (.resetSession, failure reset0) world.worker0 second.worker0 ∧
      Closed (.resetSession, failure reset1) world.worker1 second.worker1 :=
    ⟨⟨_, Ran.refl _, closed0⟩, ⟨_, Ran.refl _, closed1⟩⟩
  have coordinator := coordinator'.trans coordinator
  have token := token'.trans token
  simp only [ends_bind, ends_settle]
  constructor
  · rintro value0 rfl
    constructor
    · rintro value1 rfl
      exact ⟨coordinator, token, same' ▸ lands0, lands1⟩
    · rintro thrown rfl
      exact ⟨coordinator, token, ⟨_, _, Or.inr (Option.some_ne_none _), closed⟩,
        fun calm => lands1 calm.2⟩
  · rintro thrown rfl
    exact ⟨coordinator, token, ⟨_, _, Or.inl (Option.some_ne_none _), closed⟩,
      fun calm => lands0 calm.1⟩

theorem reset_session_ends (settled : Settled contract world)
    (healthy : world.coordinator.poisoned = false) :
    Ends (resetSession setup)
      (fun _ after => Performed contract .resetSession world [] after)
      (fun thrown after => Aborted contract .resetSession world thrown after) world := by
  have consistent := settled.consistent
  unfold resetSession ensureHealthy
  simp only [ends_bind, ends_ensure, ends_read]
  refine ⟨fun _ => ⟨fun _ => ?_, fun busy => (busy consistent.idle).elim⟩,
    fun sick => (sick healthy).elim⟩
  rw [ends_catching]
  apply (reset_stages_ends settled).weaken
  · rintro _ cleared ⟨coordinator, token, front, back⟩
    have answer : Transaction.reset cleared.coordinator.engine = (.ok (), {
        cleared.coordinator.engine with
        frontiers := .fresh, txn := {}, stage0Ack := false, stage1Ack := false }) := by
      rw [Transaction.reset, if_neg (by simp [coordinator, consistent.idle])]
    rw [ends_bind]
    apply coordinate_accepted _ answer
    rw [ends_write]
    constructor
    · constructor
      · constructor
        · change cleared.coordinator.engine.active = false
          rw [coordinator]
          exact consistent.idle
        · rfl
        · exact Nat.zero_le _
        · rfl
        · exact Nat.zero_le _
        · exact Nat.zero_le _
        · change cleared.coordinator.sampler.vocabulary = _
          rw [coordinator]
          exact consistent.vocabulary
        · rfl
        · rfl
        · intro token listed
          cases listed
        · intro impossible
          cases impossible
      · exact front
      · exact back
    · change cleared.coordinator.poisoned = false
      rw [coordinator]
      exact healthy
    · have emptied : Sampling.reset cleared.coordinator.sampler =
          Sampling.reset world.coordinator.sampler := by rw [coordinator]
      have happens : Happens model setup.options setup.select (sessionOf world.coordinator)
        .resetSession [] (sessionOf world.coordinator).emptied := .resetSession
      rw [Session.emptied, sessionOf, ← emptied] at happens
      exact happens
    · change TokenLater _ cleared.cancellation
      rw [token]
      exact TokenLater.refl _
    · exact fun other => (other rfl).elim
    · intro attempt asked
      cases asked
  · rintro thrown after ⟨coordinator, token, closed, cause⟩
    rw [ends_bind, poison, ends_write, ends_throwing]
    refine .halted rfl ⟨?_, ?_, closed⟩ fun undisturbed =>
      cause ⟨undisturbed.front, undisturbed.back⟩
    · change { after.coordinator with poisoned := true } =
        { world.coordinator with engine := after.coordinator.engine, poisoned := true }
      rw [coordinator]
    · change TokenLater _ after.cancellation
      rw [token]
      exact TokenLater.refl _

/-- The executor refines the session model, operation by operation. -/
theorem dispatch_ends (built : Built setup.options) (settled : Settled contract world)
    (healthy : world.coordinator.poisoned = false) (operation : Operation) :
    Ends (dispatch setup operation)
      (fun answer after => Performed contract operation world answer after)
      (fun thrown after => Aborted contract operation world thrown after) world := by
  cases operation with
  | append tokenIds => exact (append_ends built settled healthy tokenIds).chain fun _ _ done => done
  | seedDecode => exact (seed_decode_ends settled healthy).chain fun _ _ done => done
  | decodeOne =>
      exact (decode_one_ends built settled healthy decode_one_decoding).chain fun _ _ done => done
  | speculativeStep maxDraft =>
      exact (speculative_step_ends built settled healthy maxDraft).chain fun _ _ done => done
  | resetSession => exact (reset_session_ends settled healthy).chain fun _ _ done => done

/-- A poisoned executor refuses every operation and stays as it is. -/
theorem poisoned_refuses (poisoned : world.coordinator.poisoned = true) (operation : Operation) :
    dispatch setup operation world = (.error (.runtimeError "executor is fail-closed"), world) := by
  have sick : (ensureHealthy : ExecutorCall σ₀ σ₁ Unit) world =
      (.error (.runtimeError "executor is fail-closed"), world) := by
    change Proc.ensure (world.coordinator.poisoned = false) _ world = _
    simp [Proc.ensure, poisoned, Proc.throwing]
  cases operation <;> exact bind_throws (bind_throws sick)

end Operations

end Q38.SessionRefinement
