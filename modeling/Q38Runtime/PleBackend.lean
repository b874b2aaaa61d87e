import Q38Runtime.ExecutorInvariant
import Q38Runtime.PageTransparency
import Q38Runtime.PleHashCalls

/-!
`PleStage0Backend` of `ple_backend.cc`. It wraps a first stage, hashes every
evaluated token and reads the rows of each. Whatever the stage inside, the store
and the polls do, between two operations the committed hash is the hash of exactly
the committed evaluated tokens.
-/
namespace Q38.PleBackend
open Contracts Cancellation Backend Executor SessionModel StageContracts SessionRefinement
  ExecutorRuns PleHash PleReadAhead Imperative

/-- `hash_bytes`, an FNV-1a fold. -/
def hashBytes (bytes : List UInt8) (seed : UInt64) : UInt64 :=
  bytes.foldl (fun digest byte => (digest ^^^ byte.toUInt64) * 1099511628211) seed

/-- What the constructor is given: a stage, the `read_rows` of a store and the
configuration of the hash. `innerPolls` is how often the stage inside polls the
token in one `execute`; the wrapper goes on polling behind it. -/
structure PleStage0 (σ τ : Type) where
  inner : StageBackend σ
  innerPolls : StageInput → σ → Nat
  readRows : List Row → Proc Thrown τ (List UInt8)
  hashConfig : PleHashConfig

structure PleState (σ τ : Type) where
  inner : σ
  store : τ
  committedHash : PleHashState
  candidateHashes : List PleHashState := []
  provisionalEpoch : Nat := 0
  provisionalExpected : Nat := 0
  provisionalProcessed : Nat := 0

section Wrapper
variable {σ τ : Type} (ple : PleStage0 σ τ)

def makePleStage0 (inner : σ) (store : τ) : Except Thrown (PleState σ τ) :=
  if ple.inner.stage ≠ .stage0 then
    .error (.invalidArgument "PLE backend requires stage0 and a store")
  else .ok { inner := inner, store := store, committedHash := PleHash.reset ple.hashConfig }

abbrev PleCall (σ τ α : Type) := Proc Thrown (PleState σ τ) α

def onInner {α : Type} (call : Proc Thrown σ α) : PleCall σ τ α :=
  Proc.within PleState.inner (fun inner state => { state with inner := inner }) call

def onStore {α : Type} (call : Proc Thrown τ α) : PleCall σ τ α :=
  Proc.within PleState.store (fun store state => { state with store := store }) call

/-- The loop over the tokens of a chunk and the poll behind it. The candidate and
the digest are locals of the loop. -/
def readTokens (cancellation : Option Polls) :
    List Token → Nat → PleHashState → UInt64 → PleCall σ τ UInt64
  | [], index, _, digest => do
      check cancellation index
      pure digest
  | token :: rest, index, candidate, digest => do
      check cancellation index
      let hashed := PleHashState.rows ple.hashConfig [token] candidate
      let rows ← Proc.settle hashed.1
      let bytes ← onStore (ple.readRows rows)
      Proc.write fun state =>
        { state with candidateHashes := state.candidateHashes ++ [hashed.2] }
      readTokens cancellation rest (index + 1) hashed.2 (hashBytes bytes digest)

def openTransaction (input : StageInput) (state : PleState σ τ) : PleState σ τ :=
  { state with
    candidateHashes := []
    provisionalEpoch := input.txn.epoch
    provisionalExpected := input.txn.evaluatedCount }

/-- The `try` of `execute`. -/
def extendCandidates (input : StageInput) (first : Bool) (polled : Nat) (output : StageOutput) :
    PleCall σ τ StageOutput := do
  Proc.whenever (first = true) (Proc.write (openTransaction input))
  let candidate ← Proc.read fun state => state.candidateHashes.getLastD state.committedHash
  let digest ← readTokens ple input.cancellation input.tokenIds polled candidate output.stateDigest
  Proc.write fun state =>
    { state with
      provisionalProcessed := toUInt32 (state.provisionalProcessed + input.tokenIds.length) }
  pure { output with stateDigest := digest }

def execute (input : StageInput) : PleCall σ τ StageOutput := do
  let state ← Proc.read id
  let first := Decidable.decide (state.provisionalEpoch = 0)
  Proc.ensure (¬ ((first = false ∧ (input.txn.epoch ≠ state.provisionalEpoch ∨
        input.txn.evaluatedCount ≠ state.provisionalExpected ∨
        input.chunkOffset ≠ state.provisionalProcessed)) ∨
      (first = true ∧ input.chunkOffset ≠ 0)))
    (.runtimeError "PLE backend received a noncontiguous chunk")
  let output ← onInner (ple.inner.execute input)
  Proc.catching (extendCandidates ple input first (ple.innerPolls input state.inner) output)
    fun thrown => do
      Proc.write ({ · with candidateHashes := [] })
      Proc.throwing thrown

/-- The provisional members as every end of a transaction leaves them. -/
def closeTransaction (state : PleState σ τ) : PleState σ τ :=
  { state with
    candidateHashes := []
    provisionalEpoch := 0
    provisionalExpected := 0
    provisionalProcessed := 0 }

def commit (epoch stateCommitCount : Nat) : PleCall σ τ Unit := do
  let state ← Proc.read id
  Proc.ensure (¬ (epoch ≠ state.provisionalEpoch ∨ stateCommitCount = 0 ∨
      state.provisionalProcessed ≠ state.provisionalExpected ∨
      stateCommitCount > state.candidateHashes.length))
    (.runtimeError "PLE commit does not match candidate state")
  onInner (ple.inner.commit epoch stateCommitCount)
  Proc.write fun state => closeTransaction { state with
    committedHash := state.candidateHashes.getD (stateCommitCount - 1) state.committedHash }

def rollback (epoch : Nat) : PleCall σ τ Unit := do
  onInner (ple.inner.rollback epoch)
  let state ← Proc.read id
  Proc.ensure (¬ (state.provisionalEpoch ≠ 0 ∧ epoch ≠ state.provisionalEpoch))
    (.runtimeError "PLE rollback epoch mismatch")
  Proc.write closeTransaction

def resetSession : PleCall σ τ Unit := do
  let state ← Proc.read id
  Proc.ensure (¬ state.provisionalEpoch ≠ 0)
    (.logicError "cannot reset an active PLE transaction")
  onInner ple.inner.resetSession
  Proc.write fun state =>
    { state with
      committedHash := PleHash.reset ple.hashConfig
      candidateHashes := []
      provisionalExpected := 0
      provisionalProcessed := 0 }

/-- The stage as the executor sees it. Checkpoints, reconciliations and retained
drafts are not overridden: the stage inside never hears of them. -/
def pleStage0Backend : StageBackend (PleState σ τ) where
  stage := .stage0
  prefetchTransaction txn tokenIds cancellation :=
    onInner (ple.inner.prefetchTransaction txn tokenIds cancellation)
  execute := execute ple
  draft pendingToken position maxDraft cancellation :=
    onInner (ple.inner.draft pendingToken position maxDraft cancellation)
  draftRetained := defaultDraftRetained fun pendingToken position maxDraft cancellation =>
    onInner (ple.inner.draft pendingToken position maxDraft cancellation)
  checkpointSpeculativePrefix := defaultCheckpointSpeculativePrefix
  reconcileRetainedDraft := defaultReconcileRetainedDraft
  commit := commit ple
  rollback := rollback ple
  resetSession := resetSession ple

end Wrapper

section Hashes

/-- A single known token moves the hash by one place; an unknown one throws. -/
theorem rows_one_ok {config : PleHashConfig} {token : Token} {candidate : PleHashState}
    {rows : List Row} (hashed : (PleHashState.rows config [token] candidate).1 = .ok rows) :
    (PleHashState.rows config [token] candidate).2 = shift candidate token := by
  by_cases all : [token].all (known config) = true
  · rw [rows_known all]
    rfl
  · rw [rows_unknown all] at hashed
    cases hashed

end Hashes

theorem check_ends_same {σ : Type} {state : σ} (cancellation : Option Polls) (index : Nat) :
    Ends (check cancellation index) (fun _ after => after = state) (fun _ after => after = state)
      state := by
  cases cancellation with
  | none => exact rfl
  | some reads =>
      unfold check
      rw [ends_settle]
      exact ⟨fun _ _ => rfl, fun _ _ => rfl⟩

section Contract
variable {σ τ : Type} {ple : PleStage0 σ τ} (contract : FrontContract ple.inner)

/-- The hash behind a history. -/
def hashAfter (ple : PleStage0 σ τ) (history : List Token) : PleHashState :=
  advance (PleHash.reset ple.hashConfig) history

/-- The wrapper between two transactions. -/
structure PleIdle (history : List Token) (epoch : Nat) (state : PleState σ τ) : Prop where
  inner : contract.idle history epoch state.inner
  hash : state.committedHash = hashAfter ple history
  candidates : state.candidateHashes = []
  closed : state.provisionalEpoch = 0
  expected : state.provisionalExpected = 0
  processed : state.provisionalProcessed = 0

/-- A transaction of which rows are hashed. -/
structure Hashed (txn : SessionTxnV1) (rows : List Token) (state : PleState σ τ) : Prop where
  candidates : state.candidateHashes = hashesAfter state.committedHash rows
  epoch : state.provisionalEpoch = txn.epoch
  expected : state.provisionalExpected = txn.evaluatedCount
  processed : state.provisionalProcessed = toUInt32 rows.length

/-- The first chunk of a transaction opens it. -/
def Progress (txn : SessionTxnV1) (rows : List Token) (state : PleState σ τ) : Prop :=
  (rows = [] ∧ state.candidateHashes = [] ∧ state.provisionalEpoch = 0 ∧
    state.provisionalExpected = 0 ∧ state.provisionalProcessed = 0) ∨ Hashed txn rows state

/-- The wrapper within a transaction. The checkpoint of the stage inside stays
where it was. -/
structure PleReady (history : List Token) (txn : SessionTxnV1) (rows : List Token) (_ : Nat)
    (state : PleState σ τ) : Prop where
  inner : contract.ready history txn rows 0 state.inner
  hash : state.committedHash = hashAfter ple history
  later : txn.epoch ≠ 0
  progress : Progress txn rows state

variable {contract} {history rows : List Token} {txn : SessionTxnV1} {mark epoch : Nat}
variable {state : PleState σ τ}

/-- A rollback forgets the candidates and keeps the committed hash. -/
theorem rollback_ends {calm : Prop} (state : PleState σ τ)
    (restores : Restores ple.inner calm contract.idle history epoch state.inner)
    (hash : state.committedHash = hashAfter ple history) :
    Restores (pleStage0Backend ple) False (PleIdle contract) history epoch state := by
  change Ends (rollback ple epoch) _ _ state
  unfold rollback onInner
  rw [ends_bind, ends_within]
  apply restores.weaken
  · intro _ inner idle
    simp only [ends_bind, ends_read, ends_ensure, ends_write]
    exact ⟨fun _ => ⟨idle, hash, rfl, rfl, rfl, rfl⟩, fun _ => not_false⟩
  · exact fun _ _ _ => not_false

theorem PleReady.restores (ready : PleReady contract history txn rows mark state) :
    Restores (pleStage0Backend ple) False (PleIdle contract) history txn.epoch state :=
  rollback_ends state (contract.restores ready.inner) ready.hash

/-- The loop appends the hash behind each token and touches nothing else; where it
throws only candidates and the store have moved. -/
theorem read_tokens_ends (cancellation : Option Polls) (tokens : List Token) (index : Nat)
    (candidate : PleHashState) (digest : UInt64) :
    Ends (readTokens ple cancellation tokens index candidate digest)
      (fun _ after => ∃ store, after = { state with
        store := store
        candidateHashes := state.candidateHashes ++ hashesAfter candidate tokens })
      (fun _ after => ∃ store candidates, after = { state with
        store := store, candidateHashes := candidates }) state := by
  induction tokens generalizing index candidate digest state with
  | nil =>
      unfold readTokens
      rw [ends_bind]
      apply (check_ends_same cancellation index).weaken
      · rintro _ _ rfl
        exact ⟨_, by rw [hashesAfter, List.append_nil]⟩
      · rintro _ _ rfl
        exact ⟨_, _, rfl⟩
  | cons token rest ih =>
      unfold readTokens
      rw [ends_bind]
      apply (check_ends_same cancellation index).weaken
      swap
      · rintro _ _ rfl
        exact ⟨_, _, rfl⟩
      rintro _ _ rfl
      simp only [ends_bind, ends_settle]
      refine ⟨fun hashes hashed => ?_, fun _ _ => ⟨_, _, rfl⟩⟩
      unfold onStore
      rw [ends_within]
      apply (ends_trivial _ _).weaken
      swap
      · exact fun _ store _ => ⟨store, _, rfl⟩
      intro bytes store _
      rw [ends_bind, ends_write, rows_one_ok hashed]
      apply (ih _ _ _).weaken
      · rintro _ _ ⟨store, rfl⟩
        refine ⟨store, ?_⟩
        simp only [List.append_assoc, List.singleton_append]
        rfl
      · rintro _ _ ⟨store, candidates, rfl⟩
        exact ⟨store, candidates, rfl⟩

theorem Progress.inner (progress : Progress txn rows state) (inner : σ) :
    Progress txn rows { state with inner := inner } := by
  rcases progress with unopened | ⟨candidates, epoch, expected, processed⟩
  · exact Or.inl unopened
  · exact Or.inr ⟨candidates, epoch, expected, processed⟩

/-- The rows of a chunk join the candidates, behind those of the chunks before. -/
theorem extend_candidates_ends {input : StageInput} {polled : Nat} {output : StageOutput}
    (owner : input.txn = txn) (later : txn.epoch ≠ 0) (progress : Progress txn rows state) :
    Ends (extendCandidates ple input (Decidable.decide (state.provisionalEpoch = 0)) polled output)
      (fun out after => out = { output with stateDigest := out.stateDigest } ∧
        after.inner = state.inner ∧ after.committedHash = state.committedHash ∧
        Hashed txn (rows ++ input.tokenIds) after)
      (fun _ after => after.inner = state.inner ∧ after.committedHash = state.committedHash)
      state := by
  -- the first chunk opens the transaction; behind that both cases are one
  have run (opened : PleState σ τ) (hashed : Hashed txn rows opened)
      (inner : opened.inner = state.inner) (hash : opened.committedHash = state.committedHash) :
      Ends (do
        let candidate ← Proc.read fun state => state.candidateHashes.getLastD state.committedHash
        let digest ← readTokens ple input.cancellation input.tokenIds polled candidate
          output.stateDigest
        Proc.write fun state =>
          { state with
            provisionalProcessed :=
              toUInt32 (state.provisionalProcessed + input.tokenIds.length) }
        pure { output with stateDigest := digest })
      (fun out after => out = { output with stateDigest := out.stateDigest } ∧
        after.inner = state.inner ∧ after.committedHash = state.committedHash ∧
        Hashed txn (rows ++ input.tokenIds) after)
      (fun _ after => after.inner = state.inner ∧ after.committedHash = state.committedHash)
      opened := by
    rw [ends_bind, ends_read, ends_bind]
    apply (read_tokens_ends _ _ _ _ _).weaken
    · rintro digest _ ⟨store, rfl⟩
      rw [ends_bind, ends_write, ends_pure]
      refine ⟨rfl, inner, hash, ?_, hashed.epoch, hashed.expected, ?_⟩
      · rw [hashed.candidates, hashes_after_last, hashes_after_append]
      · simp only [hashed.processed, toUInt32, List.length_append]
        omega
    · rintro _ _ ⟨store, candidates, rfl⟩
      exact ⟨inner, hash⟩
  unfold extendCandidates
  rw [ends_bind, ends_whenever]
  constructor
  · intro first
    rw [ends_write]
    rcases progress with ⟨rfl, -, -, -, processed⟩ | hashed
    · apply run (openTransaction input state) ?_ rfl rfl
      exact ⟨rfl, by rw [← owner]; rfl, by rw [← owner]; rfl, processed⟩
    · exact (later (hashed.epoch.symm.trans (of_decide_eq_true first))).elim
  · intro open_
    rcases progress with ⟨-, -, closed, -⟩ | hashed
    · exact (open_ (decide_eq_true closed)).elim
    · exact run state hashed rfl rfl

/-- What the wrapper answers is what the stage inside does, but for the digest. -/
def PleOutput (contract : FrontContract ple.inner) (history rows : List Token) (input : StageInput)
    (out : StageOutput) : Prop :=
  ∃ inner, contract.output history rows input inner ∧
    out = { inner with stateDigest := out.stateDigest }

theorem execute_ends {input : StageInput} (ready : PleReady contract history txn rows mark state)
    (extended : Extends txn rows input) :
    Ends (execute ple input)
      (fun out after => PleReady contract history txn (rows ++ input.tokenIds) mark after ∧
        PleOutput contract history rows input out)
      (fun _ after => Restores (pleStage0Backend ple) False (PleIdle contract) history txn.epoch
        after) state := by
  unfold execute onInner
  simp only [ends_bind, ends_read, ends_ensure, ends_within, ends_catching]
  refine ⟨fun _ => ?_, fun _ => ready.restores⟩
  apply (contract.execute ready.inner extended (contract.anyInput _ _ _)).weaken
  · rintro output inner ⟨readied, answered⟩
    have extending := @extend_candidates_ends σ τ ple rows txn { state with inner := inner } input
      (ple.innerPolls input state.inner) output extended.owner ready.later
      (ready.progress.inner inner)
    apply extending.weaken
    · rintro out after ⟨answer, same, hash, hashed⟩
      exact ⟨⟨same ▸ readied, hash.trans ready.hash, ready.later, Or.inr hashed⟩,
        output, answered, answer⟩
    · rintro _ after ⟨same, hash⟩
      rw [ends_bind, ends_write, ends_throwing]
      have restores : Restores ple.inner contract.calm contract.idle history txn.epoch after.inner :=
        same ▸ contract.restores readied
      exact rollback_ends { after with candidateHashes := [] } restores
        (hash.trans ready.hash)
  · rintro _ inner ⟨-, restores⟩
    exact rollback_ends { state with inner := inner } restores ready.hash

theorem commit_ends {count : Nat} (ready : PleReady contract history txn rows mark state)
    (positive : 0 < count) (within : count ≤ rows.length) :
    Ends (commit ple txn.epoch count)
      (fun _ after => PleIdle contract (history ++ rows.take count) txn.epoch after ∧
        toUInt32 rows.length = txn.evaluatedCount)
      (fun _ _ => True) state := by
  unfold commit onInner
  simp only [ends_bind, ends_read, ends_ensure, ends_within]
  refine ⟨fun accepted => ?_, fun _ => trivial⟩
  have hashed : Hashed txn rows state := by
    rcases ready.progress with ⟨-, -, closed, -⟩ | hashed
    · simp only [not_or, not_not, id_eq] at accepted
      exact (ready.later (accepted.1.trans closed)).elim
    · exact hashed
  apply (contract.commit ready.inner positive within).weaken
  · intro _ inner idle
    rw [ends_write]
    refine ⟨⟨idle, ?_, rfl, rfl, rfl, rfl⟩, ?_⟩
    · simp only [closeTransaction, hashed.candidates]
      rw [hashes_after_get _ positive within, ready.hash, hashAfter, hashAfter, advance_append]
    · simp only [not_or, not_not, id_eq] at accepted
      rw [← hashed.processed, accepted.2.2.1, hashed.expected]
  · exact fun _ _ _ => trivial

theorem reset_ends (idle : PleIdle contract history epoch state) :
    Ends (resetSession ple) (fun _ after => PleIdle contract [] 0 after) (fun _ _ => True)
      state := by
  unfold resetSession onInner
  simp only [ends_bind, ends_read, ends_ensure, ends_within]
  refine ⟨fun _ => ?_, fun _ => trivial⟩
  apply (contract.resets idle.inner).weaken
  · intro _ inner fresh
    rw [ends_write]
    exact ⟨fresh, rfl, rfl, idle.closed, rfl, rfl⟩
  · exact fun _ _ _ => trivial

theorem prefetch_ends (tokens : List Token) (polls : Option Polls)
    (ready : PleReady contract history txn [] 0 state) :
    Ends (onInner (ple.inner.prefetchTransaction txn tokens polls))
      (fun _ after => PleReady contract history txn [] 0 after)
      (fun _ after => ¬ (False ∧ Quiet polls) ∧
        Restores (pleStage0Backend ple) False (PleIdle contract) history txn.epoch after)
      state := by
  unfold onInner
  rw [ends_within]
  apply (contract.prefetch tokens polls ready.inner).weaken
  · exact fun _ inner readied => ⟨readied, ready.hash, ready.later, ready.progress.inner inner⟩
  · rintro _ inner ⟨-, restores⟩
    exact ⟨fun calm => calm.1, rollback_ends { state with inner := inner } restores
      ready.hash⟩

variable (contract)

/-- The wrapper keeps what the executor asks of a first stage, and promises of no
call that it returns: a token outside the vocabulary, a failing store and a
speculation that ends early all make it throw. -/
def pleFront : FrontContract (pleStage0Backend ple) where
  calm := False
  idle := PleIdle contract
  ready := PleReady contract
  admits _ _ _ := True
  output := PleOutput contract
  committable _ _ _ _ := True
  opens idle begins := {
    inner := contract.opens idle.inner begins
    hash := idle.hash
    later := (Nat.zero_le _).trans_lt begins.later |>.ne'
    progress := Or.inl ⟨rfl, idle.candidates, idle.closed, idle.expected, idle.processed⟩ }
  restores := PleReady.restores
  execute ready extended _ := (execute_ends ready extended).weaken (fun _ _ lands => lands)
    fun _ _ restores => ⟨fun calm => calm.1, restores⟩
  commit ready positive within := (commit_ends ready positive within).weaken
    (fun _ _ lands => lands.1) fun _ _ _ calm => calm.1
  resets idle := (reset_ends idle).weaken (fun _ _ fresh => fresh) fun _ _ _ => id
  anyInput _ _ _ := trivial
  prefetch := prefetch_ends
  checkpoint ready _ _ := ⟨ready.inner, ready.hash, ready.later, ready.progress⟩

end Contract

section Runs
variable {σ τ σ₁ : Type}

/-- An executor whose first stage is wrapped. -/
def pleSetup (options : ExecutorOptions) (select : Sampling.Selection) (weather : Nat → Weather)
    (ple : PleStage0 σ τ) (stage1 : StageBackend σ₁) : Setup (PleState σ τ) σ₁ where
  options := options
  select := select
  stage0 := pleStage0Backend ple
  stage1 := stage1
  weather := weather

variable {options completed : ExecutorOptions} {select : Sampling.Selection}
  {weather : Nat → Weather} {ple : PleStage0 σ τ} {stage1 : StageBackend σ₁}

/-- The same executor without the wrapper. -/
def innerSetup (options : ExecutorOptions) (select : Sampling.Selection) (weather : Nat → Weather)
    (ple : PleStage0 σ τ) (stage1 : StageBackend σ₁) : Setup σ σ₁ where
  options := options
  select := select
  stage0 := ple.inner
  stage1 := stage1
  weather := weather

/-- The boundary a wrapped stage hands on is that of the stage inside. -/
def plePair {model : StageModel}
    (pair : PairContract model (innerSetup options select weather ple stage1)) :
    PairContract model (pleSetup options select weather ple stage1) where
  front := pleFront pair.front
  back := pair.back
  fitting := by
    rintro history rows input out ⟨inner, answered, answer⟩ accepted
    have same : out.boundary = inner.boundary := by rw [answer]
    rw [same] at accepted
    exact pair.fitting answered accepted
  framed impossible := impossible.elim
  link := by
    rintro history rows input out needLogits cancellation ⟨inner, answered, answer⟩ accepted
    have same : out.boundary = inner.boundary := by rw [answer]
    rw [same] at accepted ⊢
    exact pair.link needLogits cancellation answered accepted

theorem fresh_wrapped {model : StageModel}
    (pair : PairContract model (innerSetup completed select weather ple stage1))
    {start : World (PleState σ τ) σ₁} {inner : σ} {store : τ}
    (made : makeExecutor options (pleStage0Backend ple).stage stage1.stage =
      .ok (completed, start.coordinator))
    (wrapped : makePleStage0 ple inner store = .ok start.worker0.state)
    (front : pair.front.idle [] 0 inner) (back : pair.back.idle [] 0 start.worker1.state) :
    Settled (plePair pair) start := by
  have constructed := make_executor_constructed made
  have history : (sessionOf start.coordinator).history = [] := by
    rw [Session.history, sessionOf, constructed.empty, List.take_nil]
  have epoch : start.coordinator.engine.frontiers.epoch = 0 := by
    rw [constructed.frontiers]
    rfl
  have fresh : start.worker0.state =
      { inner := inner, store := store, committedHash := PleHash.reset ple.hashConfig } := by
    unfold makePleStage0 at wrapped
    split at wrapped
    · cases wrapped
    · exact (Except.ok.inj wrapped).symm
  refine ⟨constructed.consistent, ?_, ?_⟩
  · change PleIdle pair.front (sessionOf start.coordinator).history _ _
    rw [history, epoch, fresh]
    exact ⟨front, rfl, rfl, rfl, rfl, rfl⟩
  · change pair.back.idle (sessionOf start.coordinator).history _ _
    rw [history, epoch]
    exact back

/-- In every state that a run reaches and that is not isolated, no transaction is
open and the committed hash is that of the evaluated part of the session: the
tokens that come next are given the rows they have in the whole text. -/
theorem hash_follows_session {start world : World (PleState σ τ) σ₁} {inner : σ} {store : τ}
    (made : makeExecutor options (pleStage0Backend ple).stage stage1.stage =
      .ok (completed, start.coordinator))
    (wrapped : makePleStage0 ple inner store = .ok start.worker0.state)
    (reached : Reaches (pleSetup completed select weather ple stage1) start world)
    (healthy : world.coordinator.poisoned = false) :
    let state := world.worker0.state
    let history := (sessionOf world.coordinator).history
    state.candidateHashes = [] ∧ state.provisionalEpoch = 0 ∧
      state.committedHash = lastTwo ple.hashConfig history ∧
      ∀ tokens, tokens.all (known ple.hashConfig) = true →
        (PleHashState.rows ple.hashConfig tokens state.committedHash).1 =
          .ok ((rowsFrom ple.hashConfig (PleHash.reset ple.hashConfig) (history ++ tokens)).drop
            (history.length * kPleHeads)) := by
  have built := (make_executor_constructed made).built
  have standing := reaches_standing built
    (fresh_wrapped (unknownPair _) made wrapped trivial trivial) reached
  rcases standing with poisoned | settled
  · rw [healthy] at poisoned
    cases poisoned
  have idle : PleIdle (unknownFront ple.inner) (sessionOf world.coordinator).history
      world.coordinator.engine.frontiers.epoch world.worker0.state := settled.front
  refine ⟨idle.candidates, idle.closed, ?_, fun tokens all => ?_⟩
  · rw [idle.hash, hashAfter]
    exact advance_last_two [] _
  · rw [rows_known all, idle.hash, rows_from_append,
      List.drop_left' (rows_from_length _ _ _)]
    rfl

end Runs

section Samples
open MockBackend ExecutorInvariant

/-- A hash whose rows are the two of the sample layout. -/
def sampleHash : PleHashConfig where
  unigramVocabSize := 4
  eosTokenId := 3
  multipliers _ := 1
  headVocabSizes _ := 2
  headOffsets _ := 0

/-- `PleStore::read_rows`; what is not thrown by the store ends in `std::terminate`. -/
def sampleRead (rows : List Row) : Proc Thrown PleStore.Store (List UInt8) := fun store =>
  match PleStore.readRows PleStore.quietSetup (rows.map UInt64.ofBitVec) store with
  | (.ok bytes, after) => (.ok bytes, after)
  | (.error (.thrown thrown), after) => (.error thrown, after)
  | (.error _, after) => (.error .unknown, after)

/-- A wrapped mock, which polls twice in one `execute`. -/
def samplePle : PleStage0 MockState PleStore.Store where
  inner := mockBackend ⟨.stage0, 1, 4⟩
  innerPolls _ _ := 2
  readRows := sampleRead
  hashConfig := sampleHash

abbrev wrappedMocks : Setup (PleState MockState PleStore.Store) MockState :=
  pleSetup greedyCompleted (fun _ _ _ => .ok 0) (fun _ => {}) samplePle
    (mockBackend ⟨.stage1, 1, 4⟩)

def wrappedStart : World (PleState MockState PleStore.Store) MockState where
  coordinator := greedyStart
  worker0 := { state := {
    inner := {}
    store := PleStore.sampleStore
    committedHash := PleHash.reset sampleHash } }
  worker1 := { state := {} }

/-- An executor over the wrapper with a pending token. -/
def wrappedPending : World (PleState MockState PleStore.Store) MockState :=
  (perform wrappedMocks .seedDecode none
    (perform wrappedMocks (.append [1]) none wrappedStart).2).2

theorem wrapped_reached : Reaches wrappedMocks wrappedStart wrappedPending :=
  .perform (.perform .start _ _) _ _

theorem wrapped_healthy : wrappedPending.coordinator.poisoned = false := by
  decide +kernel

theorem hash_follows_session_pending :
    wrappedPending.worker0.state.committedHash =
      lastTwo sampleHash (sessionOf wrappedPending.coordinator).history := by
  have follows := @hash_follows_session _ _ _ _ _ (fun _ _ _ => .ok 0) (fun _ => {}) samplePle
    (mockBackend ⟨.stage1, 1, 4⟩) wrappedStart wrappedPending {} PleStore.sampleStore made_greedy
    rfl wrapped_reached wrapped_healthy
  exact follows.2.2.1

end Samples
end Q38.PleBackend
