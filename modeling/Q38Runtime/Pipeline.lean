import Q38Runtime.StageContracts

/-! What the accesses of the coordinator do to the world: polls move the token
and the clock, tasks move a worker and the clock. `Working` is what every step
between the prepare and the seal leaves alone. -/
namespace Q38.Pipeline
open Contracts Cancellation Backend Executor SessionModel StageContracts Imperative

section Steps
variable {σ₀ σ₁ : Type} {model : StageModel} {setup : Setup σ₀ σ₁}
  (contract : PairContract model setup)

/-- No fault, cancellation or deadline will be met from here on. -/
structure Undisturbed (world : World σ₀ σ₁) : Prop where
  weather : ∀ index, (setup.weather index).arrivals = [] ∧ (setup.weather index).between = [] ∧
    ∀ poll, observe ((setup.weather index).reads poll) = .ok ()
  front : contract.front.calm
  back : contract.back.calm
  fresh : ∀ token, world.cancellation = some token → token.Fresh

def TokenLater : Option CancellationToken → Option CancellationToken → Prop
  | none, none => True
  | some before, some after => Later before after
  | _, _ => False

theorem TokenLater.refl (token : Option CancellationToken) : TokenLater token token := by
  cases token with
  | none => exact trivial
  | some token => exact Later.refl token

theorem TokenLater.trans {first second third : Option CancellationToken}
    (head : TokenLater first second) (tail : TokenLater second third) :
    TokenLater first third := by
  cases first <;> cases second <;> cases third <;> simp only [TokenLater] at head tail ⊢
  exact Later.trans head tail

/-- The worker has run more tasks, none of which ends a transaction. -/
def Ran {σ : Type} (before after : StageWorker σ) : Prop :=
  ∃ tasks, after.finished = tasks ++ before.finished ∧
    ∀ task ∈ tasks, task.1 ≠ .commit ∧ task.1 ≠ .rollback

theorem Ran.refl {σ : Type} (worker : StageWorker σ) : Ran worker worker :=
  ⟨[], rfl, nofun⟩

theorem Ran.trans {σ : Type} {first second third : StageWorker σ} (head : Ran first second)
    (tail : Ran second third) : Ran first third := by
  obtain ⟨early, earlyEq, earlyKind⟩ := head
  obtain ⟨late, lateEq, lateKind⟩ := tail
  refine ⟨late ++ early, by rw [lateEq, earlyEq, List.append_assoc], ?_⟩
  intro task member
  rcases List.mem_append.mp member with new | old
  · exact lateKind task new
  · exact earlyKind task old

structure Working (world after : World σ₀ σ₁) : Prop where
  coordinator : after.coordinator = world.coordinator
  token : TokenLater world.cancellation after.cancellation
  ran0 : Ran world.worker0 after.worker0
  ran1 : Ran world.worker1 after.worker1
  calm : Undisturbed contract world → Undisturbed contract after

theorem Working.refl (world : World σ₀ σ₁) : Working contract world world :=
  ⟨rfl, TokenLater.refl _, Ran.refl _, Ran.refl _, id⟩

variable {contract}

theorem Working.trans {first second third : World σ₀ σ₁} (head : Working contract first second)
    (tail : Working contract second third) : Working contract first third where
  coordinator := tail.coordinator.trans head.coordinator
  token := head.token.trans tail.token
  ran0 := head.ran0.trans tail.ran0
  ran1 := head.ran1.trans tail.ran1
  calm undisturbed := tail.calm (head.calm undisturbed)

variable (contract) in
/-- An access of the coordinator to the token: only the token and the clock move. -/
structure Waited (world after : World σ₀ σ₁) : Prop extends Working contract world after where
  same0 : after.worker0 = world.worker0
  same1 : after.worker1 = world.worker1

/-- The worker ended a transaction with its last task. -/
def Closed {σ : Type} (ending : Task × Option Thrown) (before after : StageWorker σ) : Prop :=
  ∃ worker : StageWorker σ, Ran before worker ∧ after.finished = ending :: worker.finished

variable (contract) in
/-- A throw before the seal: both stages can still be rolled back. -/
structure Reversible (history : List Token) (epoch : Nat) (declined : Prop)
    (start after : World σ₀ σ₁) : Prop where
  working : Working contract start after
  restores0 : Restores setup.stage0 contract.front.calm contract.front.idle history epoch
    after.worker0.state
  restores1 : Restores setup.stage1 contract.back.calm contract.back.idle history epoch
    after.worker1.state
  cause : Undisturbed contract start → declined

theorem Waited.refl (world : World σ₀ σ₁) : Waited contract world world :=
  ⟨Working.refl contract world, rfl, rfl⟩

section Token
variable {world : World σ₀ σ₁}

/-- The world behind an access that left `token` in place of the old one. -/
def accessed (world : World σ₀ σ₁) (token : Option CancellationToken) : World σ₀ σ₁ :=
  { world with cancellation := token, clock := world.clock + 1 }

theorem on_token_ends {access : Weather → Proc Thrown CancellationToken Unit}
    {returns : Unit → World σ₀ σ₁ → Prop} {throws : Thrown → World σ₀ σ₁ → Prop}
    (absent : world.cancellation = none → returns () (accessed world none))
    (present : ∀ token, world.cancellation = some token →
      Ends (access (setup.weather world.clock))
        (fun value after => returns value (accessed world (some after)))
        (fun thrown after => throws thrown (accessed world (some after)))
        (token.meetAll (setup.weather world.clock).arrivals)) :
    Ends (onToken setup access) returns throws world := by
  unfold Ends onToken at *
  split
  · next none =>
      have answered := absent none
      rw [accessed, ← none] at answered
      exact answered
  · next token given =>
      have answered := present token given
      rcases run : access (setup.weather world.clock)
        (token.meetAll (setup.weather world.clock).arrivals) with ⟨outcome, after⟩
      rw [run] at answered
      simp only [run]
      cases outcome <;> exact answered

theorem accessed_waited {token : Option CancellationToken}
    (later : TokenLater world.cancellation token)
    (same : Undisturbed contract world → token = world.cancellation) :
    Waited contract world (accessed world token) where
  coordinator := rfl
  token := later
  ran0 := Ran.refl _
  ran1 := Ran.refl _
  calm undisturbed := { undisturbed with
    fresh := fun other member => undisturbed.fresh other (same undisturbed ▸ member) }
  same0 := rfl
  same1 := rfl

variable (contract) in
theorem poll_ends :
    Ends (poll setup) (fun _ after => Waited contract world after)
      (fun thrown after => Waited contract world after ∧ ¬ Undisturbed contract world ∧
        isInterruption thrown = true) world := by
  apply on_token_ends
  · intro none
    exact accessed_waited (none ▸ TokenLater.refl _) fun _ => none.symm
  · intro token given
    have met := token.meet_all_later (setup.weather world.clock).arrivals
    have unmoved (undisturbed : Undisturbed contract world) :
        token.meetAll (setup.weather world.clock).arrivals = token := by
      rw [(undisturbed.weather world.clock).1]
      rfl
    have moves {after : CancellationToken}
        (later : Later (token.meetAll (setup.weather world.clock).arrivals) after)
        (expired : after =
          (token.meetAll (setup.weather world.clock).arrivals).expireDeadline) :
        Waited contract world (accessed world (some after)) := by
      apply accessed_waited
      · rw [given]
        exact met.trans later
      · intro undisturbed
        rw [given, expired, unmoved undisturbed,
          CancellationToken.fresh_expire (undisturbed.fresh token given)]
    apply (CancellationToken.throw_if_requested_ends _).weaken
    · intro _ after polled
      exact moves polled.1 polled.2.1
    · intro thrown after threw
      refine ⟨moves threw.1 threw.2.1, fun undisturbed => ?_, ?_⟩
      · have active := (undisturbed.fresh token given).1
        have expired := threw.2.1
        rw [unmoved undisturbed,
          CancellationToken.fresh_expire (undisturbed.fresh token given)] at expired
        rcases threw.2.2 with ⟨moved, -⟩ | ⟨moved, -⟩ <;> simp [expired, active] at moved
      · rcases threw.2.2 with ⟨-, rfl⟩ | ⟨-, rfl⟩ <;> rfl

variable (contract) in
theorem seal_token_ends :
    Ends (sealToken setup)
      (fun _ after => ∃ token, after = accessed world token ∧
        TokenLater world.cancellation token ∧ ∀ held, token = some held → held.state = .sealed)
      (fun thrown after => Waited contract world after ∧ ¬ Undisturbed contract world ∧
        isInterruption thrown = true) world := by
  apply on_token_ends
  · intro absent
    exact ⟨none, rfl, absent ▸ TokenLater.refl _, nofun⟩
  · intro token given
    have met := token.meet_all_later (setup.weather world.clock).arrivals
    have sealing := CancellationToken.seal_ends
      (token.meetAll (setup.weather world.clock).arrivals) (setup.weather world.clock).between
    apply (sealing.both (ends_self _ _)).weaken
    · rintro _ after ⟨⟨later, passed⟩, -⟩
      refine ⟨some after, rfl, ?_, ?_⟩
      · rw [given]
        exact met.trans later
      · rintro other ⟨⟩
        exact passed
    · rintro thrown after ⟨⟨later, threw⟩, run⟩
      have disturbed : ¬ Undisturbed contract world := by
        intro undisturbed
        obtain ⟨arrivals, between, -⟩ := undisturbed.weather world.clock
        rw [arrivals, between] at run
        have passes := CancellationToken.fresh_seals (undisturbed.fresh token given)
        rw [CancellationToken.meetAll, List.foldl_nil] at run
        rw [passes] at run
        cases run
      refine ⟨accessed_waited ?_ fun undisturbed => (disturbed undisturbed).elim, disturbed, ?_⟩
      · rw [given]
        exact met.trans later
      · rcases threw with ⟨-, rfl⟩ | ⟨-, rfl⟩ <;> rfl

end Token

section Tasks
variable {world : World σ₀ σ₁} {α : Type} {task : Task}

theorem ran_task {σ : Type} (worker : StageWorker σ) (body : Proc Thrown σ α)
    (kind : task ≠ .commit ∧ task ≠ .rollback) : Ran worker (worker.run task body).2 :=
  ⟨[_], rfl, fun _ member => by rw [List.mem_singleton.mp member]; exact kind⟩

theorem undisturbed_quiet (undisturbed : Undisturbed contract world) :
    Quiet (world.polls setup) := by
  intro reads given index
  cases held : world.cancellation with
  | none => simp [World.polls, held] at given
  | some token =>
      simp only [World.polls, held, Option.map_some, Option.some.injEq] at given
      rw [← given]
      exact (undisturbed.weather world.clock).2.2 index

variable (contract) in
/-- A task of stage 0 leaves the other stage alone, and its outcome is kept. -/
theorem submit0_ends (task : Task) (body : Option Polls → Proc Thrown σ₀ α)
    {returns : α → σ₀ → Prop} {throws : Thrown → σ₀ → Prop}
    (kind : task ≠ .commit ∧ task ≠ .rollback)
    (inner : Ends (body (world.polls setup)) returns throws world.worker0.state) :
    Ends (submit0 setup task body)
      (fun outcome after => Working contract world after ∧ after.worker1 = world.worker1 ∧
        Lands returns throws (outcome, after.worker0.state))
      (fun _ _ => False) world := by
  refine ⟨?_, rfl, inner⟩
  exact {
    coordinator := rfl
    token := TokenLater.refl _
    ran0 := ran_task world.worker0 _ kind
    ran1 := Ran.refl _
    calm := fun undisturbed => { undisturbed with } }

variable (contract) in
theorem submit1_ends (task : Task) (body : Option Polls → Proc Thrown σ₁ α)
    {returns : α → σ₁ → Prop} {throws : Thrown → σ₁ → Prop}
    (kind : task ≠ .commit ∧ task ≠ .rollback)
    (inner : Ends (body (world.polls setup)) returns throws world.worker1.state) :
    Ends (submit1 setup task body)
      (fun outcome after => Working contract world after ∧ after.worker0 = world.worker0 ∧
        Lands returns throws (outcome, after.worker1.state))
      (fun _ _ => False) world := by
  refine ⟨?_, rfl, inner⟩
  exact {
    coordinator := rfl
    token := TokenLater.refl _
    ran0 := Ran.refl _
    ran1 := ran_task world.worker1 _ kind
    calm := fun undisturbed => { undisturbed with } }

/-- A task as the trace of its worker shows it. -/
theorem submit0_recorded (task : Task) (body : Option Polls → Proc Thrown σ₀ α)
    {returns : α → σ₀ → Prop} {throws : Thrown → σ₀ → Prop}
    (inner : Ends (body (world.polls setup)) returns throws world.worker0.state) :
    Ends (submit0 setup task body)
      (fun outcome after => after.coordinator = world.coordinator ∧
        after.cancellation = world.cancellation ∧ after.worker1 = world.worker1 ∧
        after.worker0.finished = (task, failure outcome) :: world.worker0.finished ∧
        Lands returns throws (outcome, after.worker0.state))
      (fun _ _ => False) world :=
  ⟨rfl, rfl, rfl, rfl, inner⟩

theorem submit1_recorded (task : Task) (body : Option Polls → Proc Thrown σ₁ α)
    {returns : α → σ₁ → Prop} {throws : Thrown → σ₁ → Prop}
    (inner : Ends (body (world.polls setup)) returns throws world.worker1.state) :
    Ends (submit1 setup task body)
      (fun outcome after => after.coordinator = world.coordinator ∧
        after.cancellation = world.cancellation ∧ after.worker0 = world.worker0 ∧
        after.worker1.finished = (task, failure outcome) :: world.worker1.finished ∧
        Lands returns throws (outcome, after.worker1.state))
      (fun _ _ => False) world :=
  ⟨rfl, rfl, rfl, rfl, inner⟩

end Tasks
end Steps

end Q38.Pipeline
