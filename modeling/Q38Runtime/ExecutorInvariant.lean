import Q38Runtime.ExecutorRuns
import Q38Runtime.MockContract
import Q38Runtime.SnapshotValidity

/-!
Between two operations the token vector, the coordinator, the sampler and both
stages stand at the same place, whatever failed before, and the snapshot taken
there is one the journal accepts.
-/
namespace Q38.ExecutorInvariant
open Contracts Cancellation Backend Sampling Identity Transaction Executor SessionModel
  StageContracts MockBackend FaultyStages MockContract SessionRefinement ExecutorRuns Snapshot
  SnapshotValidity

section Snapshots
variable {options : ExecutorOptions} {coordinator : Coordinator}

/-- `snapshot()` with the sequence the journal fills in. -/
def sequenced (sequence : UInt64) (snapshot : StateSnapshotV1) : StateSnapshotV1 :=
  { snapshot with header := { snapshot.header with sequence := sequence } }

theorem word_of_small {count : Nat} (small : count < 2 ^ 32) :
    (UInt64.ofNat count).toNat = count := by
  rw [UInt64.toNat_ofNat']
  omega

theorem listed_nonnegative {vocabulary : UInt32} {token : Token}
    (listed : inVocabulary vocabulary token = true) : ¬ token < 0 := by
  rw [inVocabulary, Bool.and_eq_true, Bool.not_eq_true'] at listed
  exact of_decide_eq_false listed.1

theorem snapshot_flags (sampled : Bool) :
    (kSnapshotColdRebuild ||| (if sampled then kSnapshotHasLastSample else 0)) &&&
        kSnapshotColdRebuild ≠ 0 ∧
      (kSnapshotColdRebuild ||| (if sampled then kSnapshotHasLastSample else 0)) &&&
        ~~~(kSnapshotColdRebuild ||| kSnapshotHasLastSample) = 0 ∧
      ((kSnapshotColdRebuild ||| (if sampled then kSnapshotHasLastSample else 0)) &&&
        kSnapshotHasLastSample ≠ 0 → sampled = true) := by
  cases sampled <;> decide

theorem consistent_snapshot (built : Built options) (consistent : Consistent options coordinator) :
    ∃ snapshot, coordinator.snapshot options.identity = .ok snapshot ∧
      ∀ sequence, sequence ≠ 0 →
        validateStateSnapshot (sequenced sequence snapshot) options.identity = none := by
  have small := consistent.small
  have ordered := consistent.ordered
  have lag := consistent.lag
  obtain ⟨zero, one, target, draft⟩ := (validate_frontiers_iff _).mp consistent.valid
  have canonical : coordinator.engine.frontiers.toWords.canonical.toNat =
      coordinator.tokens.length := by
    rw [← consistent.canonical]
    exact word_of_small (consistent.canonical.trans_lt small)
  have base : coordinator.engine.frontiers.toWords.target.toNat =
      coordinator.engine.frontiers.target := word_of_small (ordered.trans_lt small)
  refine ⟨_, by rw [Coordinator.snapshot, if_neg (by simp [consistent.idle])], ?_⟩
  intro sequence positive
  rw [validate_state_snapshot_iff]
  constructor
  case magic => rfl
  case version => rfl
  case headerBytes => rfl
  case owner => rfl
  case sequence => exact positive
  case count => exact word_of_small small
  case bounded =>
    intro beyond
    have limit := consistent.limit
    rw [gt_iff_lt, UInt64.lt_iff_toNat_lt] at beyond
    change options.identity.contextLimit.toUInt64.toNat < (UInt64.ofNat _).toNat at beyond
    rw [built.contextLimit, UInt32.toNat_toUInt64, word_of_small small] at beyond
    omega
  case canonical => exact congrArg UInt64.ofNat consistent.canonical
  case ordered =>
    intro beyond
    change coordinator.engine.frontiers.toWords.canonical <
      coordinator.engine.frontiers.toWords.target at beyond
    rw [UInt64.lt_iff_toNat_lt, canonical, base] at beyond
    omega
  case pending =>
    intro beyond
    change 1 < coordinator.engine.frontiers.toWords.canonical -
      coordinator.engine.frontiers.toWords.target at beyond
    have behind : coordinator.engine.frontiers.toWords.target ≤
        coordinator.engine.frontiers.toWords.canonical := by
      rw [UInt64.le_iff_toNat_le, canonical, base]
      exact ordered
    rw [UInt64.lt_iff_toNat_lt, UInt64.toNat_sub_of_le _ _ behind, canonical, base] at beyond
    change 1 < _ at beyond
    omega
  case frontiers => exact words_valid _ (consistent.canonical.trans_lt (by omega)) consistent.valid
  case rebuild => exact (snapshot_flags _).1
  case flags => exact (snapshot_flags _).2.1
  case checksum => rfl
  case sampler => exact consistent.magic
  case counted => exact consistent.counted
  case last =>
    rintro ⟨sampled, negative⟩
    exact listed_nonnegative (consistent.sample ((snapshot_flags _).2.2 sampled)) negative

end Snapshots

section Runs
variable {front back : MockStage}

/-- An executor over two mocks that fail by a plan, as it is constructed. -/
def freshWorld (coordinator : Coordinator) : World (Faulty MockState) (Faulty MockState) where
  coordinator := coordinator
  worker0 := { state := { inner := {} } }
  worker1 := { state := { inner := {} } }

abbrev faultyMocks (options : ExecutorOptions) (select : Selection) (weather : Nat → Weather)
    (front back : MockStage) (faults0 faults1 : Nat → Option Fault) :
    Setup (Faulty MockState) (Faulty MockState) :=
  faultySetup (mockSetup options select weather front back) faults0 faults1

/-- What holds between two operations. -/
structure Between (options : ExecutorOptions)
    (world : World (Faulty MockState) (Faulty MockState)) : Prop where
  canonical : world.coordinator.tokens.length = world.coordinator.engine.frontiers.canonical
  sampler : world.coordinator.sampler.state.canonicalTokens.toNat =
    world.coordinator.tokens.length
  ordered : world.coordinator.engine.frontiers.target ≤
    world.coordinator.engine.frontiers.canonical
  lag : world.coordinator.engine.frontiers.canonical ≤
    world.coordinator.engine.frontiers.target + 1
  limit : world.coordinator.engine.frontiers.canonical ≤ options.contextLimit.toNat
  idle : world.coordinator.engine.active = false
  frontier0 : world.worker0.state.inner.committedFrontier =
    world.coordinator.engine.frontiers.target
  frontier1 : world.worker1.state.inner.committedFrontier =
    world.coordinator.engine.frontiers.target
  epoch0 : world.worker0.state.inner.committedEpoch = world.coordinator.engine.frontiers.epoch
  epoch1 : world.worker1.state.inner.committedEpoch = world.coordinator.engine.frontiers.epoch
  snapshot : ∃ snapshot, world.coordinator.snapshot options.identity = .ok snapshot ∧
    ∀ sequence, sequence ≠ 0 →
      validateStateSnapshot (sequenced sequence snapshot) options.identity = none

/-- The constructor takes stages in their order only. -/
theorem made_stages {options completed : ExecutorOptions} {first second : Stage}
    {coordinator : Coordinator}
    (made : makeExecutor options first second = .ok (completed, coordinator)) :
    first = .stage0 ∧ second = .stage1 := by
  by_contra reversed
  rw [not_and_or] at reversed
  unfold makeExecutor at made
  cases sampling : makeSampler options.vocabSize options.sampling with
  | error thrown =>
      rw [sampling] at made
      cases made
  | ok sampler =>
      rw [sampling] at made
      change (if _ then _ else _) = _ at made
      rw [if_pos reversed] at made
      cases made

variable {options completed : ExecutorOptions} {coordinator : Coordinator} {select : Selection}
variable {weather : Nat → Weather} {faults0 faults1 : Nat → Option Fault}
variable {world : World (Faulty MockState) (Faulty MockState)}

theorem fresh_settled (made : makeExecutor options front.stage back.stage =
    .ok (completed, coordinator)) (first : front.stage = .stage0) (second : back.stage = .stage1) :
    Settled (faultyPair (mockPair completed select weather first second) faults0 faults1)
      (freshWorld coordinator) := by
  have constructed := make_executor_constructed made
  have history : (sessionOf coordinator).history = [] := by
    rw [Session.history, sessionOf, constructed.empty, List.take_nil]
  refine ⟨constructed.consistent, ?_, ?_⟩
  · change Idle (sessionOf coordinator).history coordinator.engine.frontiers.epoch _
    rw [history, constructed.frontiers]
    exact ⟨rfl, rfl, rfl, rfl⟩
  · change Idle (sessionOf coordinator).history coordinator.engine.frontiers.epoch _
    rw [history, constructed.frontiers]
    exact ⟨rfl, rfl, rfl, rfl⟩

/-- The stages and the coordinator stand at the same place between two operations. -/
theorem settled_between (built : Built completed) {first : front.stage = .stage0}
    {second : back.stage = .stage1}
    (settled : Settled (faultyPair (mockPair completed select weather first second) faults0 faults1)
      world) : Between completed world := by
  obtain ⟨consistent, idle0, idle1⟩ := settled
  have idle0 : Idle (sessionOf world.coordinator).history _ world.worker0.state.inner := idle0
  have idle1 : Idle (sessionOf world.coordinator).history _ world.worker1.state.inner := idle1
  have length := consistent.history_length
  constructor
  case canonical => exact consistent.canonical.symm
  case sampler =>
    rw [consistent.counted]
    exact word_of_small consistent.small
  case ordered =>
    rw [consistent.canonical]
    exact consistent.ordered
  case lag =>
    rw [consistent.canonical]
    exact consistent.lag
  case limit =>
    rw [consistent.canonical]
    exact consistent.limit
  case idle => exact consistent.idle
  case frontier0 => exact idle0.frontier.trans length
  case frontier1 => exact idle1.frontier.trans length
  case epoch0 => exact idle0.epoch
  case epoch1 => exact idle1.epoch
  case snapshot => exact consistent_snapshot built consistent

/-- Whatever fails on the way, a state between two operations that is not
poisoned is a consistent one. -/
theorem executor_invariant
    (made : makeExecutor options front.stage back.stage = .ok (completed, coordinator))
    (reached : Reaches (faultyMocks completed select weather front back faults0 faults1)
      (freshWorld coordinator) world)
    (healthy : world.coordinator.poisoned = false) : Between completed world := by
  obtain ⟨first, second⟩ := made_stages made
  have built := (make_executor_constructed made).built
  have standing := @reaches_standing _ _ _ _
    (faultyPair (mockPair completed select weather first second) faults0 faults1) _ built _
    (fresh_settled made first second) reached
  rcases standing with poisoned | settled
  · rw [healthy] at poisoned
    cases poisoned
  · exact settled_between built settled

def greedyOptions : ExecutorOptions := { hiddenWidth := 1, vocabSize := 4, contextLimit := 16 }

def greedyCompleted : ExecutorOptions :=
  { greedyOptions with identity := makeDevelopmentIdentity 1 16 {} }

def greedyStart : Coordinator where
  engine := { sessionHash := 1 }
  sampler := ⟨4, {}, { rngState := 1 }, [0, 0, 0, 0]⟩

theorem made_greedy :
    makeExecutor greedyOptions .stage0 .stage1 = .ok (greedyCompleted, greedyStart) := by
  have completed : completeOptions greedyOptions = greedyCompleted := by
    simp [completeOptions, greedyOptions, greedyCompleted]
  have valid := development_identity_valid 1 16 {} (by decide) (by decide)
  have sampling : makeSampler greedyOptions.vocabSize greedyOptions.sampling =
      .ok greedyStart.sampler := by decide
  unfold makeExecutor
  simp only [sampling, completed, bind, Except.bind]
  rw [if_neg (by decide), if_neg (by decide), if_neg (by decide), if_neg (by decide),
    if_neg (by decide), if_neg]
  · rfl
  · rintro (invalid | session | context)
    · exact invalid valid
    · exact session rfl
    · exact context rfl

/-- Stage 0 throws at its first call. -/
def failsFirst : Nat → Option Fault
  | 0 => some (.before .unknown)
  | _ => none

def failedAppend : World (Faulty MockState) (Faulty MockState) :=
  (perform (faultyMocks greedyCompleted (fun _ _ _ => .ok 0) (fun _ => {}) ⟨.stage0, 1, 4⟩
    ⟨.stage1, 1, 4⟩ failsFirst fun _ => none) (.append [1]) none (freshWorld greedyStart)).2

theorem executor_invariant_failed : Between greedyCompleted failedAppend :=
  @executor_invariant ⟨.stage0, 1, 4⟩ ⟨.stage1, 1, 4⟩ _ _ _ _ _ _ _ _ made_greedy
    (.perform .start _ _) (by decide +kernel)

end Runs

end Q38.ExecutorInvariant
