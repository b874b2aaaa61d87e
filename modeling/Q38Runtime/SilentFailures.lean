import Q38Runtime.ExecutorInvariant

/-!
A failed operation leaves no trace. Whatever stages throw, whenever a request is
cancelled or expires: a run that was not isolated by it answers and ends as its
returned operations alone do where nothing fails. What a failure does leave
behind, and when it isolates the session, holds over any stages at all.
-/
namespace Q38.SilentFailures
open Contracts Cancellation Backend Sampling Transaction Executor SessionModel StageContracts
  Pipeline Coordination Commitment TransactionRun SessionRefinement ExecutorRuns MockBackend
  FaultyStages MockContract ExecutorInvariant Imperative

section Epochs
variable {σ₀ σ₁ : Type} {setup : Setup σ₀ σ₁} {world : World σ₀ σ₁}
  {cancellation : Option CancellationToken}

theorem seed_keeps_epoch :
    Ends (perform setup .seedDecode cancellation)
      (fun _ after => after.coordinator.engine.frontiers.epoch =
        world.coordinator.engine.frontiers.epoch) (fun _ _ => True) world := by
  unfold perform dispatch seedDecode ensureHealthy
  simp only [ends_bind, ends_write, ends_read, ends_ensure]
  refine ⟨fun _ => ?_, fun _ => trivial⟩
  apply (poll_ends (unknownPair setup)).weaken (fun _ polled waited => ?_) fun _ _ _ => trivial
  rw [ends_bind]
  apply (seal_token_ends (unknownPair setup)).weaken ?_ fun _ _ _ => trivial
  rintro _ _ ⟨token, rfl, -⟩
  have same : (accessed polled token).coordinator.engine.frontiers =
      world.coordinator.engine.frontiers :=
    congrArg (fun coordinator => coordinator.engine.frontiers) waited.coordinator
  simp only [ends_bind, ends_read, ends_ensure]
  refine ⟨fun _ => ⟨fun _ => ?_, fun _ => trivial⟩, fun _ => trivial⟩
  rw [ends_coordinate]
  apply (seed_decode_pending_spec _).weaken ?_ fun _ _ _ => trivial
  rintro _ engine ⟨-, -, -, rfl⟩
  unfold publish onSampler
  rw [ends_bind, ends_bind, ends_write, ends_within]
  apply (ends_trivial _ _).weaken ?_ fun _ _ _ => trivial
  intro _ sampler _
  have epoch := congrArg SessionFrontiersV1.epoch same
  exact epoch

theorem reset_clears_epoch :
    Ends (perform setup .resetSession cancellation)
      (fun _ after => after.coordinator.engine.frontiers.epoch = 0) (fun _ _ => True) world := by
  unfold perform dispatch Executor.resetSession ensureHealthy
  simp only [ends_bind, ends_write, ends_read, ends_ensure]
  refine ⟨fun _ => ⟨fun _ => ?_, fun _ => trivial⟩, fun _ => trivial⟩
  apply (ends_trivial _ _).weaken ?_ fun _ _ _ => trivial
  rintro _ cleared -
  rw [ends_bind, ends_coordinate]
  apply (reset_spec _).weaken ?_ fun _ _ _ => trivial
  rintro _ engine ⟨-, rfl⟩
  rfl

end Epochs

section Runs
variable {σ₀ σ₁ : Type} (setup : Setup σ₀ σ₁)

/-- The operations of a run that returned, with their answers, and its last world. -/
def performAll : List (Operation × Option CancellationToken) → World σ₀ σ₁ →
    List (Operation × List Token) × World σ₀ σ₁
  | [], world => ([], world)
  | (operation, cancellation) :: rest, world =>
      match perform setup operation cancellation world with
      | (.ok answer, after) =>
          ((operation, answer) :: (performAll rest after).1, (performAll rest after).2)
      | (.error _, after) => performAll rest after

variable {setup}

theorem perform_all_returned {operation : Operation} {cancellation : Option CancellationToken}
    {rest : List (Operation × Option CancellationToken)} {world after : World σ₀ σ₁}
    {answer : List Token} (run : perform setup operation cancellation world = (.ok answer, after)) :
    performAll setup ((operation, cancellation) :: rest) world =
      ((operation, answer) :: (performAll setup rest after).1,
        (performAll setup rest after).2) := by
  rw [performAll, run]

theorem perform_all_threw {operation : Operation} {cancellation : Option CancellationToken}
    {rest : List (Operation × Option CancellationToken)} {world after : World σ₀ σ₁}
    {thrown : Thrown} (run : perform setup operation cancellation world = (.error thrown, after)) :
    performAll setup ((operation, cancellation) :: rest) world = performAll setup rest after := by
  rw [performAll, run]

theorem perform_all_poisoned (calls : List (Operation × Option CancellationToken))
    {world : World σ₀ σ₁} (poisoned : world.coordinator.poisoned = true) :
    (performAll setup calls world).2.coordinator.poisoned = true := by
  induction calls generalizing world with
  | nil => exact poisoned
  | cons call rest ih =>
      rw [perform_all_threw (perform_poisoned poisoned call.1 call.2)]
      exact ih poisoned

end Runs

section Throws
variable {σ₀ σ₁ : Type} {model : StageModel} {setup : Setup σ₀ σ₁}
  {contract : PairContract model setup} {world after : World σ₀ σ₁} {operation : Operation}
  {thrown : Thrown}

/-- Unless the executor is isolated, a throw leaves the frontiers where they were. -/
theorem aborted_frontiers (idle : world.coordinator.engine.active = false)
    (aborted : Aborted contract operation world thrown after)
    (spared : after.coordinator.poisoned = false) :
    after.coordinator.engine.active = false ∧
      (after.coordinator.engine.frontiers = world.coordinator.engine.frontiers ∨
        after.coordinator.engine.frontiers = { world.coordinator.engine.frontiers with
          epoch := world.coordinator.engine.frontiers.epoch + 1 }) := by
  have poisons {ending : Task} (isolated : Isolated world after ending) : False := by
    rw [isolated.coordinator] at spared
    cases spared
  cases aborted with
  | transaction facts =>
      cases facts with
      | untouched facts =>
          rw [facts.coordinator]
          exact ⟨idle, Or.inl rfl⟩
      | restored facts => exact ⟨facts.idle, Or.inr facts.frontiers⟩
      | stuck facts => exact (poisons facts).elim
      | torn facts => exact (poisons facts).elim
  | halted reset facts => exact (poisons facts).elim

end Throws

section Mirroring
variable {σ₀ σ₁ τ₀ τ₁ : Type} {model : StageModel} {setup : Setup σ₀ σ₁} {smooth : Setup τ₀ τ₁}
  {contract : PairContract model setup} {calm : PairContract model smooth}
  {world after : World σ₀ σ₁} {mirror : World τ₀ τ₁} {operation : Operation}
  {cancellation : Option CancellationToken}

variable (setup smooth) in
/-- Two executors over different stages, or the same stages in different weather. -/
structure Alike : Prop where
  options : smooth.options = setup.options
  select : smooth.select = setup.select

variable (calm) in
/-- Stages that do not fail, and weather in which nothing is requested. -/
structure Untroubled : Prop where
  weather : ∀ index, (smooth.weather index).arrivals = [] ∧
    (smooth.weather index).between = [] ∧
    ∀ poll, observe ((smooth.weather index).reads poll) = .ok ()
  front : calm.front.calm
  back : calm.back.calm
  commits : Commits calm

variable (calm) in
/-- A world that stands for the same session, and has used no more epochs. -/
structure Mirrors (world : World σ₀ σ₁) (mirror : World τ₀ τ₁) : Prop where
  session : sessionOf mirror.coordinator = sessionOf world.coordinator
  settled : Settled calm mirror
  healthy : mirror.coordinator.poisoned = false
  epoch : mirror.coordinator.engine.frontiers.epoch ≤ world.coordinator.engine.frontiers.epoch

theorem untroubled_given (untroubled : Untroubled calm) (mirror : World τ₀ τ₁) :
    Undisturbed calm (given mirror none) where
  weather := untroubled.weather
  front := untroubled.front
  back := untroubled.back
  fresh _ impossible := by cases impossible

/-- How far an operation that returned moves the epoch. -/
theorem returned_epoch {answer : List Token}
    (performed : Performed contract operation (given world cancellation) answer after)
    (run : perform setup operation cancellation world = (.ok answer, after)) :
    after.coordinator.engine.frontiers.epoch =
      if operation = .resetSession then 0
      else if operation = .seedDecode then world.coordinator.engine.frontiers.epoch
      else world.coordinator.engine.frontiers.epoch + 1 := by
  have transacts (attempt : Attempt)
      (asked : attemptOf setup.options (sessionOf world.coordinator) operation = some attempt) :
      after.coordinator.engine.frontiers.epoch =
        world.coordinator.engine.frontiers.epoch + 1 := (performed.epoch attempt asked).2
  cases operation with
  | resetSession =>
      have ended := @reset_clears_epoch _ _ setup world cancellation
      rw [Ends, run] at ended
      exact ended
  | seedDecode =>
      have ended := @seed_keeps_epoch _ _ setup world cancellation
      rw [Ends, run] at ended
      exact ended
  | append tokenIds => exact transacts _ rfl
  | decodeOne => exact transacts _ rfl
  | speculativeStep maxDraft =>
      cases asked : attemptOf setup.options (sessionOf world.coordinator)
          (.speculativeStep maxDraft) with
      | none =>
          rw [attemptOf] at asked
          split at asked <;> cases asked
      | some attempt => exact transacts attempt asked

/-- What the model lets an untroubled executor do, it does. -/
theorem happening_performed (deterministic : model.Deterministic) (untroubled : Untroubled calm)
    (built : Built smooth.options) (settled : Settled calm mirror)
    (healthy : mirror.coordinator.poisoned = false) {answer : List Token} {session : Session}
    (happens : Happens model smooth.options smooth.select (sessionOf mirror.coordinator) operation
      answer session)
    (room : (attemptOf smooth.options (sessionOf mirror.coordinator) operation).isSome = true →
      mirror.coordinator.engine.frontiers.epoch < maxUInt64) :
    ∃ next, perform smooth operation none mirror = (.ok answer, next) ∧
      sessionOf next.coordinator = session ∧
      Performed calm operation (given mirror none) answer next := by
  have accepts : ¬ Refuses smooth model operation (given mirror none) := by
    rintro (declines | ⟨asked, exhausted⟩)
    · exact happens_not_declines deterministic happens declines
    · exact (room asked).ne exhausted
  obtain ⟨other, next, repeated, performed⟩ := undisturbed_performs built settled healthy
    (untroubled_given untroubled mirror) untroubled.commits accepts
  have again := performed.happens
  change Happens model smooth.options smooth.select (sessionOf mirror.coordinator) operation other
    (sessionOf next.coordinator) at again
  obtain ⟨told, session⟩ := happens_unique deterministic again happens
  subst told
  exact ⟨next, repeated, session, performed⟩

/-- What returned is repeated by the mirror. -/
theorem returned_mirrors (deterministic : model.Deterministic) (built : Built setup.options)
    (alike : Alike setup smooth) (untroubled : Untroubled calm) (settled : Settled contract world)
    (healthy : world.coordinator.poisoned = false) (mirrors : Mirrors calm world mirror)
    {answer : List Token}
    (run : perform setup operation cancellation world = (.ok answer, after)) :
    Settled contract after ∧ after.coordinator.poisoned = false ∧
      ∃ next, perform smooth operation none mirror = (.ok answer, next) ∧
        Mirrors calm after next := by
  have ended := perform_ends built settled healthy operation cancellation
  rw [Ends, run] at ended
  have performed : Performed contract operation (given world cancellation) answer after := ended
  -- the mirror has the same session, so the model lets it do the same
  have happens : Happens model smooth.options smooth.select (sessionOf mirror.coordinator) operation
      answer (sessionOf after.coordinator) := by
    rw [alike.options, alike.select, mirrors.session]
    exact performed.happens
  have behind := mirrors.epoch
  have room : (attemptOf smooth.options (sessionOf mirror.coordinator) operation).isSome = true →
      mirror.coordinator.engine.frontiers.epoch < maxUInt64 := by
    rw [alike.options, mirrors.session]
    intro asked
    obtain ⟨attempt, asks⟩ := Option.isSome_iff_exists.mp asked
    exact behind.trans_lt (performed.epoch attempt asks).1
  obtain ⟨next, repeated, session, mirrored⟩ := happening_performed deterministic untroubled
    (alike.options ▸ built) mirrors.settled mirrors.healthy happens room
  refine ⟨performed.settled, performed.healthy, next, repeated, session, mirrored.settled,
    mirrored.healthy, ?_⟩
  rw [returned_epoch mirrored repeated, returned_epoch performed run]
  split_ifs <;> omega

/-- What threw and did not isolate the session is passed over by the mirror. -/
theorem threw_mirrors (built : Built setup.options) (settled : Settled contract world)
    (healthy : world.coordinator.poisoned = false) (mirrors : Mirrors calm world mirror)
    {thrown : Thrown}
    (run : perform setup operation cancellation world = (.error thrown, after))
    (spared : after.coordinator.poisoned = false) :
    Settled contract after ∧ Mirrors calm after mirror := by
  have ended := perform_ends built settled healthy operation cancellation
  rw [Ends, run] at ended
  have aborted : Aborted contract operation (given world cancellation) thrown after := ended
  have standing := aborted_standing (settled_given settled cancellation) aborted
  obtain ⟨tokens, sampler, last, have_⟩ := aborted_keeps aborted
  have frontiers : after.coordinator.engine.frontiers.target =
        world.coordinator.engine.frontiers.target ∧
      world.coordinator.engine.frontiers.epoch ≤ after.coordinator.engine.frontiers.epoch := by
    have kept := @aborted_frontiers _ _ _ _ _ (given world cancellation) _ _ _
      settled.consistent.idle aborted spared
    rcases kept.2 with same | later
    · rw [same]
      exact ⟨rfl, le_refl _⟩
    · rw [later]
      exact ⟨rfl, Nat.le_succ _⟩
  refine ⟨standing.resolve_left (by simp [spared]), ?_, mirrors.settled, mirrors.healthy,
    mirrors.epoch.trans frontiers.2⟩
  rw [mirrors.session]
  simp only [sessionOf, tokens, sampler, last, have_, frontiers.1]
  rfl

/-- A run and the run of what it returned, side by side. -/
theorem run_mirrors (deterministic : model.Deterministic) (built : Built setup.options)
    (alike : Alike setup smooth) (untroubled : Untroubled calm) (settled : Settled contract world)
    (healthy : world.coordinator.poisoned = false) (mirrors : Mirrors calm world mirror)
    (calls : List (Operation × Option CancellationToken))
    (spared : (performAll setup calls world).2.coordinator.poisoned = false) :
    Settled contract (performAll setup calls world).2 ∧
      ∃ next, performAll smooth ((performAll setup calls world).1.map fun done => (done.1, none))
          mirror = ((performAll setup calls world).1, next) ∧
        Mirrors calm (performAll setup calls world).2 next := by
  -- the mirror takes a step for every call that returns and waits while one throws
  induction calls generalizing world mirror with
  | nil => exact ⟨settled, mirror, rfl, mirrors⟩
  | cons call rest ih =>
      obtain ⟨operation, cancellation⟩ := call
      rcases run : perform setup operation cancellation world with ⟨outcome, after⟩
      cases outcome with
      | ok answer =>
          rw [perform_all_returned run] at spared ⊢
          obtain ⟨settled, healthy, next, repeated, mirrors⟩ :=
            returned_mirrors deterministic built alike untroubled settled healthy mirrors run
          obtain ⟨settled, last, rest, mirrors⟩ := ih settled healthy mirrors spared
          refine ⟨settled, last, ?_, mirrors⟩
          rw [List.map_cons, perform_all_returned repeated, rest]
      | error thrown =>
          rw [perform_all_threw run] at spared ⊢
          have sound : after.coordinator.poisoned = false := by
            by_contra poisoned
            rw [perform_all_poisoned rest (eq_true_of_ne_false poisoned)] at spared
            cases spared
          obtain ⟨settled, mirrors⟩ := threw_mirrors built settled healthy mirrors run sound
          exact ih settled sound mirrors spared

end Mirroring

section Isolation
variable {σ₀ σ₁ : Type} {model : StageModel} {setup : Setup σ₀ σ₁}
  {contract : PairContract model setup} {world after : World σ₀ σ₁} {operation : Operation}
  {cancellation : Option CancellationToken} {thrown : Thrown}

/-- What a worker has run in between, newest first. -/
def newTasks {σ : Type} (before after : StageWorker σ) : List (Task × Option Thrown) :=
  after.finished.take (after.finished.length - before.finished.length)

def endsTransaction (task : Task × Option Thrown) : Prop := task.1 = .commit ∨ task.1 = .rollback

/-- A stage threw when it was told to commit or to roll back. -/
def Unfollowed (world after : World σ₀ σ₁) : Prop :=
  ∃ task ∈ newTasks world.worker0 after.worker0 ++ newTasks world.worker1 after.worker1,
    endsTransaction task ∧ task.2 ≠ none

theorem new_tasks_same {σ : Type} {before after : StageWorker σ} (same : after = before) :
    newTasks before after = [] := by
  rw [newTasks, same, Nat.sub_self, List.take_zero]

theorem new_tasks_closed {σ : Type} {before after : StageWorker σ} {ending : Task × Option Thrown}
    (closed : Closed ending before after) :
    ∃ tasks, newTasks before after = ending :: tasks ∧ ∀ task ∈ tasks, ¬ endsTransaction task := by
  obtain ⟨worker, ⟨tasks, extends_, kind⟩, finished⟩ := closed
  refine ⟨tasks, ?_, ?_⟩
  · have whole : after.finished = (ending :: tasks) ++ before.finished := by
      rw [finished, extends_, List.cons_append]
    rw [newTasks, whole, List.length_append, Nat.add_sub_cancel, List.take_left]
  · rintro task member (commits | rolls)
    · exact (kind task member).1 commits
    · exact (kind task member).2 rolls

/-- Both stages were closed with the same task: it threw in one of them or in none. -/
theorem unfollowed_closed {first second : Option Thrown} {task : Task}
    (ends_ : task = .commit ∨ task = .rollback)
    (closed0 : Closed (task, first) world.worker0 after.worker0)
    (closed1 : Closed (task, second) world.worker1 after.worker1) :
    Unfollowed world after ↔ first ≠ none ∨ second ≠ none := by
  obtain ⟨tasks0, new0, other0⟩ := new_tasks_closed closed0
  obtain ⟨tasks1, new1, other1⟩ := new_tasks_closed closed1
  rw [Unfollowed, new0, new1]
  constructor
  · rintro ⟨found, member, ending, threw⟩
    simp only [List.cons_append, List.mem_cons, List.mem_append] at member
    rcases member with rfl | old | rfl | old
    · exact Or.inl threw
    · exact (other0 found old ending).elim
    · exact Or.inr threw
    · exact (other1 found old ending).elim
  · rintro (threw | threw)
    · exact ⟨(task, first), by simp, ends_, threw⟩
    · exact ⟨(task, second), by simp, ends_, threw⟩

theorem isolated_unfollowed {ending : Task} (ends_ : ending = .commit ∨ ending = .rollback)
    (isolated : Isolated world after ending) : Unfollowed world after := by
  obtain ⟨first, second, threw, closed0, closed1⟩ := isolated.closed
  exact (unfollowed_closed ends_ closed0 closed1).mpr threw

/-- A reset that throws has isolated the session. -/
theorem reset_throw_isolates (settled : Settled contract world)
    (healthy : world.coordinator.poisoned = false) :
    Ends (perform setup .resetSession cancellation) (fun _ _ => True)
      (fun _ after => after.coordinator.poisoned = true) world := by
  have idle := settled.consistent.idle
  unfold perform dispatch Executor.resetSession ensureHealthy
  simp only [ends_bind, ends_write, ends_read, ends_ensure]
  refine ⟨fun _ => ⟨fun _ => ?_, fun busy => (busy idle).elim⟩, fun sick => (sick healthy).elim⟩
  rw [ends_catching]
  apply (reset_stages_ends (settled_given settled cancellation)).weaken
  · rintro _ cleared ⟨coordinator, -⟩
    have still : cleared.coordinator.engine.active = false := by
      rw [coordinator]
      exact idle
    have answer : Transaction.reset cleared.coordinator.engine = (.ok (), {
        cleared.coordinator.engine with
        frontiers := .fresh, txn := {}, stage0Ack := false, stage1Ack := false }) := by
      rw [Transaction.reset, if_neg (by simp [still])]
    rw [ends_bind]
    apply coordinate_accepted _ answer
    exact trivial
  · rintro other stopped -
    rw [ends_bind, poison, ends_write, ends_throwing]

/-- The executor isolates itself exactly when a stage did not end a transaction or a reset as it
was told, or when failures are declared fatal and a prepared transaction failed without an
interruption. -/
structure Spared (setup : Setup σ₀ σ₁) (operation : Operation) (world : World σ₀ σ₁)
    (thrown : Thrown) (after : World σ₀ σ₁) : Prop where
  tokens : after.coordinator.tokens = world.coordinator.tokens
  sampler : after.coordinator.sampler = world.coordinator.sampler
  lastSample : after.coordinator.lastSample = world.coordinator.lastSample
  haveLastSample : after.coordinator.haveLastSample = world.coordinator.haveLastSample
  isolated : after.coordinator.poisoned = true ↔
    operation = .resetSession ∨ Unfollowed world after ∨
      (setup.options.backendFailureIsFatal = true ∧ isInterruption thrown = false ∧
        after.coordinator.engine.frontiers.epoch ≠ world.coordinator.engine.frontiers.epoch)
  frontiers : after.coordinator.poisoned = false →
    after.coordinator.engine.active = false ∧
      (after.coordinator.engine.frontiers = world.coordinator.engine.frontiers ∨
        after.coordinator.engine.frontiers = { world.coordinator.engine.frontiers with
          epoch := world.coordinator.engine.frontiers.epoch + 1 })

theorem threw_spared (built : Built setup.options) (settled : Settled contract world)
    (healthy : world.coordinator.poisoned = false)
    (run : perform setup operation cancellation world = (.error thrown, after)) :
    Spared setup operation world thrown after := by
  have ended := perform_ends built settled healthy operation cancellation
  rw [Ends, run] at ended
  have aborted : Aborted contract operation (given world cancellation) thrown after := ended
  obtain ⟨tokens, sampler, last, have_⟩ := aborted_keeps aborted
  have poisons {ending : Task} (isolated : Isolated (given world cancellation) after ending) :
      after.coordinator.poisoned = true := by
    rw [isolated.coordinator]
  have sealed {ending : Task} (ends_ : ending = .commit ∨ ending = .rollback)
      (isolated : Isolated (given world cancellation) after ending) : Unfollowed world after := by
    have unfollowed := isolated_unfollowed ends_ isolated
    exact unfollowed
  have resets (reset : operation = .resetSession) : after.coordinator.poisoned = true := by
    subst reset
    have threw := @reset_throw_isolates _ _ _ _ _ _ cancellation settled healthy
    rw [Ends, run] at threw
    exact threw
  refine ⟨tokens, sampler, last, have_, ?_, ?_⟩
  · by_cases reset : operation = .resetSession
    · exact ⟨fun _ => Or.inl reset, fun _ => resets reset⟩
    cases aborted with
    | transaction facts =>
        cases facts with
        | untouched facts =>
            have same : after.coordinator = world.coordinator := facts.coordinator
            have none0 := @new_tasks_same _ world.worker0 _ facts.same0
            have none1 := @new_tasks_same _ world.worker1 _ facts.same1
            have followed : ¬ Unfollowed world after := by
              rw [Unfollowed, none0, none1]
              rintro ⟨_, member, -⟩
              cases member
            simp [same, healthy, reset, followed]
        | restored facts =>
            have followed : ¬ Unfollowed (given world cancellation) after := by
              rw [unfollowed_closed (Or.inr rfl) facts.closed0 facts.closed1]
              simp
            change ¬ Unfollowed world after at followed
            have epoch : after.coordinator.engine.frontiers.epoch ≠
                world.coordinator.engine.frontiers.epoch := by
              rw [facts.frontiers]
              exact Nat.succ_ne_self _
            rw [facts.coordinator]
            simp [reset, followed, epoch, and_comm]
        | stuck facts =>
            exact ⟨fun _ => Or.inr (Or.inl (sealed (Or.inr rfl) facts)), fun _ => poisons facts⟩
        | torn facts =>
            exact ⟨fun _ => Or.inr (Or.inl (sealed (Or.inl rfl) facts)), fun _ => poisons facts⟩
    | halted halts => exact (reset halts).elim
  · exact @aborted_frontiers _ _ _ _ _ (given world cancellation) _ _ _ settled.consistent.idle
      aborted

/-- What a throw leaves behind, over any stages at all, at any point of any run. -/
theorem throws_spare {options : ExecutorOptions} {first second : Stage} {start : World σ₀ σ₁}
    (made : makeExecutor options first second = .ok (setup.options, start.coordinator))
    (reached : Reaches setup start world) (healthy : world.coordinator.poisoned = false)
    (run : perform setup operation cancellation world = (.error thrown, after)) :
    Spared setup operation world thrown after := by
  have constructed := make_executor_constructed made
  have standing := @reaches_standing _ _ _ _ (unknownPair setup) world constructed.built start
    ⟨constructed.consistent, trivial, trivial⟩ reached
  exact threw_spared constructed.built (standing.resolve_left (by simp [healthy])) healthy run

end Isolation

section Mocks
variable {front back : MockStage} {options completed : ExecutorOptions}
  {coordinator : Coordinator} {select : Selection}

/-- The setup of an executor over mocks that nothing disturbs. -/
abbrev calmMocks (options : ExecutorOptions) (select : Selection) (front back : MockStage) :
    Setup (Faulty MockState) (Faulty MockState) :=
  faultyMocks options select (fun _ => {}) front back (fun _ => none) fun _ => none

theorem calm_untroubled (first : front.stage = .stage0) (second : back.stage = .stage1)
    (width : back.hiddenWidth = completed.hiddenWidth) :
    Untroubled (faultyPair (mockPair completed select (fun _ => {}) first second) (fun _ => none)
      fun _ => none) where
  weather _ := ⟨rfl, rfl, fun _ => rfl⟩
  front := ⟨trivial, fun _ => rfl⟩
  back := ⟨width, fun _ => rfl⟩
  commits := by
    have follows := mock_commits completed select (fun _ => {}) first second
    exact ⟨follows.front, follows.back⟩

/-- Failures leave no trace: a run that is not isolated by what fails in it answers and ends as
the run of its returned operations does where nothing fails. -/
theorem failures_leave_no_trace
    (made : makeExecutor options front.stage back.stage = .ok (completed, coordinator))
    (width : back.hiddenWidth = completed.hiddenWidth)
    (weather : Nat → Weather) (faults0 faults1 : Nat → Option Fault)
    (calls : List (Operation × Option CancellationToken))
    (spared : (performAll (faultyMocks completed select weather front back faults0 faults1) calls
      (freshWorld coordinator)).2.coordinator.poisoned = false) :
    let troubled := performAll (faultyMocks completed select weather front back faults0 faults1)
      calls (freshWorld coordinator)
    let smooth := performAll (calmMocks completed select front back)
      (troubled.1.map fun done => (done.1, none)) (freshWorld coordinator)
    smooth.1 = troubled.1 ∧
      sessionOf smooth.2.coordinator = sessionOf troubled.2.coordinator ∧
      smooth.2.worker0.state.inner.committedFrontier =
        troubled.2.worker0.state.inner.committedFrontier ∧
      smooth.2.worker1.state.inner.committedFrontier =
        troubled.2.worker1.state.inner.committedFrontier ∧
      smooth.2.coordinator.poisoned = false := by
  intro troubled smooth
  obtain ⟨first, second⟩ := made_stages made
  have constructed := make_executor_constructed made
  have mirrors : Mirrors (faultyPair (mockPair completed select (fun _ => {}) first second)
      (fun _ => none) fun _ => none) (freshWorld coordinator) (freshWorld coordinator) :=
    ⟨rfl, fresh_settled made first second, constructed.healthy, le_refl _⟩
  have alike : Alike (faultyMocks completed select weather front back faults0 faults1)
      (calmMocks completed select front back) := ⟨rfl, rfl⟩
  obtain ⟨settled, next, repeated, mirrored⟩ := run_mirrors
    (mock_deterministic front back completed) constructed.built alike
    (calm_untroubled first second width)
    (@fresh_settled front back options completed coordinator select weather faults0 faults1 made
      first second) constructed.healthy mirrors calls spared
  have same : smooth = (troubled.1, next) := repeated
  have front_ : Idle (sessionOf troubled.2.coordinator).history _ troubled.2.worker0.state.inner :=
    settled.front
  have back_ : Idle (sessionOf troubled.2.coordinator).history _ troubled.2.worker1.state.inner :=
    settled.back
  have front' : Idle (sessionOf next.coordinator).history _ next.worker0.state.inner :=
    mirrored.settled.front
  have back' : Idle (sessionOf next.coordinator).history _ next.worker1.state.inner :=
    mirrored.settled.back
  rw [same]
  refine ⟨rfl, mirrored.session, ?_, ?_, mirrored.healthy⟩
  · rw [front_.frontier, front'.frontier, mirrored.session]
  · rw [back_.frontier, back'.frontier, mirrored.session]

/-- Stage 0 fails the first of two appends. -/
theorem failures_leave_no_trace_append :
    let setup := faultyMocks greedyCompleted (fun _ _ _ => .ok 0) (fun _ => {}) ⟨.stage0, 1, 4⟩
      ⟨.stage1, 1, 4⟩ failsFirst fun _ => none
    let troubled := performAll setup [(.append [1], none), (.append [2], none)]
      (freshWorld greedyStart)
    let smooth := performAll (calmMocks greedyCompleted (fun _ _ _ => .ok 0) ⟨.stage0, 1, 4⟩
      ⟨.stage1, 1, 4⟩) (troubled.1.map fun done => (done.1, none)) (freshWorld greedyStart)
    smooth.1 = troubled.1 ∧ sessionOf smooth.2.coordinator = sessionOf troubled.2.coordinator := by
  have same := @failures_leave_no_trace ⟨.stage0, 1, 4⟩ ⟨.stage1, 1, 4⟩ _ _ _
    (fun _ _ _ => .ok 0) made_greedy rfl (fun _ => {}) failsFirst (fun _ => none)
    [(.append [1], none), (.append [2], none)] (by decide +kernel)
  exact ⟨same.1, same.2.1⟩

abbrev failingMocks : Setup (Faulty MockState) (Faulty MockState) :=
  faultyMocks greedyCompleted (fun _ _ _ => .ok 0) (fun _ => {}) ⟨.stage0, 1, 4⟩ ⟨.stage1, 1, 4⟩
    failsFirst fun _ => none

theorem failed_append_threw :
    perform failingMocks (.append [1]) none (freshWorld greedyStart) =
      (.error .unknown, failedAppend) := by
  refine Prod.ext ?_ ?_
  · decide +kernel
  · unfold failedAppend
    exact rfl

/-- The append that stage 0 failed is spared. -/
theorem throws_spare_append :
    Spared failingMocks (.append [1]) (freshWorld greedyStart) .unknown failedAppend :=
  @throws_spare _ _ _ _ _ _ _ _ _ .stage0 .stage1 _ made_greedy .start rfl failed_append_threw

end Mocks

end Q38.SilentFailures
