import Q38Runtime.RowVerification

/-! The coordinator's half of a transaction: from a prepared transaction the
engine follows one path, shorten, acknowledge twice, decide, commit, and every
step of it is accepted. -/
namespace Q38.Coordination
open Contracts Cancellation Backend Sampling Transaction Executor StageContracts Pipeline
  RowVerification Imperative

/-- The engine holds a prepared transaction nobody has acknowledged. -/
structure Engaged (engine : SessionTxnEngine) (txn : SessionTxnV1) : Prop where
  active : engine.active = true
  txn : engine.txn = txn
  stage0Ack : engine.stage0Ack = false
  stage1Ack : engine.stage1Ack = false
  prepared : engine.txn.status = .prepared

section Engine
variable {engine : SessionTxnEngine} {txn : SessionTxnV1}

/-- The engine after the transaction was cut to `count` rows. -/
def shortened (engine : SessionTxnEngine) (count : Nat) : SessionTxnEngine :=
  { engine with txn := { engine.txn with evaluatedCount := count } }

theorem shorten_accepted (engaged : Engaged engine txn) (kind : txn.kind = .speculative)
    {count : Nat} (positive : 0 < count) (shorter : count < txn.evaluatedCount) :
    shortenSpeculative count engine = (.ok (), shortened engine count) := by
  have nonzero : ¬ (count = 0 ∨ count ≥ engine.txn.evaluatedCount) := by
    rw [engaged.txn]
    omega
  have kinds : engine.txn.kind = .speculative := by rw [engaged.txn, kind]
  have unacked : ¬ (engine.stage0Ack = true ∨ engine.stage1Ack = true) := by
    simp [engaged.stage0Ack, engaged.stage1Ack]
  rw [shortenSpeculative, if_neg (by simp [engaged.active]),
    if_neg (not_not_intro engaged.prepared), if_neg (not_not_intro kinds), if_neg unacked,
    if_neg nonzero]
  rfl

/-- Both stages acknowledge what the engine asks for. -/
def acknowledged (engine : SessionTxnEngine) : SessionTxnEngine :=
  { engine with stage0Ack := true, stage1Ack := true }

theorem acknowledge_accepted (engaged : Engaged engine txn) :
    acknowledge .stage0 txn.epoch engine.txn.evaluatedCount engine =
        (.ok (), { engine with stage0Ack := true }) ∧
      acknowledge .stage1 txn.epoch engine.txn.evaluatedCount { engine with stage0Ack := true } =
        (.ok (), acknowledged engine) := by
  have epoch : txn.epoch = engine.txn.epoch := by rw [engaged.txn]
  constructor
  · simp [acknowledge, engaged.active, engaged.prepared, engaged.stage0Ack, epoch]
  · simp [acknowledge, engaged.active, engaged.prepared, engaged.stage1Ack, epoch, acknowledged]

/-- The engine after a decision to commit `count` rows and publish `published`. -/
def decided (engine : SessionTxnEngine) (count published : Nat) : SessionTxnEngine :=
  { engine with txn := { engine.txn with
      publishCount := published, stateCommitCount := count, status := .decided } }

theorem decide_accepted (engaged : Engaged engine txn) {count published : Nat}
    (accepted : publishedBy engine.txn count = .ok published) :
    Transaction.decide count (acknowledged engine) =
      (.ok (), decided (acknowledged engine) count published) := by
  simp [Transaction.decide, acknowledged, engaged.active, engaged.prepared, accepted, decided]

theorem decide_refused (engaged : Engaged engine txn) {count : Nat} {message : String}
    (refused : publishedBy engine.txn count = .error message) :
    Transaction.decide count (acknowledged engine) = (.error message, acknowledged engine) := by
  simp [Transaction.decide, acknowledged, engaged.active, engaged.prepared, refused, fail,
    Proc.throwing]

/-- How many tokens a commit of `count` rows publishes. -/
def publishes (kind : TxnKind) (count : Nat) : Nat := if kind = .appendKnown then 0 else count

/-- The frontiers behind the commit of `count` rows. -/
def advancedFrontiers (engine : SessionTxnEngine) (count : Nat) : SessionFrontiersV1 Nat :=
  let target := engine.frontiers.target + count
  { canonical := engine.frontiers.canonical + publishes engine.txn.kind count
    target := target
    stage0 := target
    stage1 := target
    draft := if engine.txn.kind = .appendKnown then min engine.frontiers.draft target else target
    epoch := engine.txn.epoch }

theorem committed_frontiers_eq {count : Nat} (ordered : engine.frontiers.target ≤
      engine.frontiers.canonical)
    (kinds : engine.txn.kind = .appendKnown ∨ engine.txn.kind = .decode ∨
      engine.txn.kind = .speculative)
    (fits : engine.frontiers.canonical + count ≤ maxUInt64) :
    committedFrontiers (decided engine count (publishes engine.txn.kind count)) =
      .ok (advancedFrontiers engine count) := by
  have targetSum : addChecked engine.frontiers.target count =
      some (engine.frontiers.target + count) := by
    rw [addChecked, if_neg (by omega)]
  have canonicalSum : addChecked engine.frontiers.canonical count =
      some (engine.frontiers.canonical + count) := by
    rw [addChecked, if_neg (by omega)]
  rcases kinds with kind | kind | kind
  · by_cases beyond : engine.frontiers.target + count < engine.frontiers.draft
    · have least := min_eq_right (Nat.le_of_lt beyond)
      simp [committedFrontiers, decided, targetSum, kind, publishes, advancedFrontiers, beyond,
        least]
    · have least := min_eq_left (Nat.le_of_not_lt beyond)
      simp [committedFrontiers, decided, targetSum, kind, publishes, advancedFrontiers, beyond,
        least]
  all_goals
    simp [committedFrontiers, decided, targetSum, canonicalSum, kind, publishes,
      advancedFrontiers]

theorem advanced_frontiers_valid {count : Nat}
    (valid : validateFrontiers engine.frontiers = none)
    (covered : engine.txn.kind = .appendKnown →
      engine.frontiers.target + count ≤ engine.frontiers.canonical) :
    validateFrontiers (advancedFrontiers engine count) = none := by
  obtain ⟨-, -, target, draft⟩ := (validate_frontiers_iff _).mp valid
  apply (validate_frontiers_iff _).mpr
  by_cases append : engine.txn.kind = .appendKnown
  · have := covered append
    simp only [advancedFrontiers, publishes, append, if_true, true_and]
    omega
  · simp only [advancedFrontiers, publishes, append, if_false, true_and]
    omega

theorem commit_accepted {next : SessionFrontiersV1 Nat} (active : engine.active = true)
    (status : engine.txn.status = .decided) (acked0 : engine.stage0Ack = true)
    (acked1 : engine.stage1Ack = true) (computed : committedFrontiers engine = .ok next)
    (valid : validateFrontiers next = none) :
    Transaction.commit engine =
      (.ok { epoch := engine.txn.epoch, canonical := next.canonical, target := next.target
             newlyPublished := engine.txn.publishCount, kind := engine.txn.kind },
        { engine with
          txn := { engine.txn with status := .committed }, frontiers := next, active := false }) := by
  simp [Transaction.commit, active, status, acked0, acked1, computed, valid]

end Engine

section World
variable {σ₀ σ₁ α : Type} {world : World σ₀ σ₁}

theorem ends_coordinate (describe : String → Thrown) (call : EngineCall α)
    {returns : α → World σ₀ σ₁ → Prop} {throws : Thrown → World σ₀ σ₁ → Prop} :
    Ends (coordinate describe call) returns throws world ↔
      Ends call (fun value engine => returns value (world.withEngine engine))
        (fun message engine => throws (describe message) (world.withEngine engine))
        world.coordinator.engine := by
  unfold Ends coordinate
  rcases call world.coordinator.engine with ⟨outcome, engine⟩
  cases outcome <;> rfl

/-- An engine call whose answer is known. -/
theorem coordinate_accepted (describe : String → Thrown) {call : EngineCall α}
    {value : α} {engine : SessionTxnEngine}
    (answer : call world.coordinator.engine = (.ok value, engine))
    {returns : α → World σ₀ σ₁ → Prop} {throws : Thrown → World σ₀ σ₁ → Prop}
    (holds : returns value (world.withEngine engine)) :
    Ends (coordinate describe call) returns throws world := by
  rw [ends_coordinate, Ends, answer]
  exact holds

/-- A decision the sampler made in its present state. -/
def Decides (sampler : TransactionalSampler) (decision : Option SamplerDecisionV1) : Prop :=
  ∀ made, decision = some made → sampler.sampled = true ∧
    inVocabulary sampler.vocabulary made.token = true ∧
    made.rngBefore = sampler.state.rngState ∧ made.rngAfter = nextState made.rngBefore

theorem commit_decision_ends {decision : Option SamplerDecisionV1}
    (decides : Decides world.coordinator.sampler decision)
    {returns : Unit → World σ₀ σ₁ → Prop} {throws : Thrown → World σ₀ σ₁ → Prop}
    (holds : returns () (world.withSampler (decidedSampler decision world.coordinator.sampler))) :
    Ends (commitDecision decision) returns throws world := by
  cases decision with
  | none => exact holds
  | some made =>
      obtain ⟨sampled, listed, before, after⟩ := decides made rfl
      rw [commitDecision, onSampler, ends_within]
      unfold Ends Sampling.commit
      rw [if_neg (by simp [sampled, listed, ← before, after])]
      exact holds

end World

end Q38.Coordination
