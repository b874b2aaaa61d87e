import Q38Runtime.Contracts

/-! `CancellationToken` of `backend.h`. One thread polls and seals the token;
other threads request cancellation, the clock passes the deadline, and a stage
that polls may be the one to notice it. What they do between two accesses of
the coordinator is a list of arrivals. -/
namespace Q38.Cancellation
open Contracts Imperative

inductive TokenState where
  | active
  | cancelled
  | deadline
  | sealed
  deriving DecidableEq, Repr

/-- `expired` is whether the clock has reached the deadline. `found` lists the
states the cancellation requests met, newest first. -/
structure CancellationToken where
  state : TokenState := .active
  hasDeadline : Bool := false
  expired : Bool := false
  found : List TokenState := []
  deriving DecidableEq, Repr

/-- What a poll makes of the state it reads. -/
def observe : TokenState → Except Thrown Unit
  | .deadline => .error .executionDeadlineExceeded
  | .cancelled => .error .executionCancelled
  | .active | .sealed => .ok ()

namespace CancellationToken

/-- The compare-and-exchange that every transition is made of. -/
def exchange (next : TokenState) (token : CancellationToken) : CancellationToken :=
  if token.state = .active then { token with state := next } else token

def requestCancel (token : CancellationToken) : CancellationToken :=
  { token.exchange .cancelled with found := token.state :: token.found }

def expireDeadline (token : CancellationToken) : CancellationToken :=
  if token.hasDeadline ∧ token.expired then token.exchange .deadline else token

def throwIfRequested : Proc Thrown CancellationToken Unit := fun token =>
  (observe token.expireDeadline.state, token.expireDeadline)

end CancellationToken

inductive Arrival where
  | cancelRequested
  | deadlinePassed
  | polledElsewhere
  deriving DecidableEq, Repr

def CancellationToken.meet (token : CancellationToken) : Arrival → CancellationToken
  | .cancelRequested => token.requestCancel
  | .deadlinePassed => { token with expired := true }
  | .polledElsewhere => token.expireDeadline

def CancellationToken.meetAll (token : CancellationToken) (arrivals : List Arrival) :
    CancellationToken :=
  arrivals.foldl meet token

/-- `seal`: a poll and an exchange. Others may act in between. -/
def CancellationToken.seal (between : List Arrival) : Proc Thrown CancellationToken Unit := do
  throwIfRequested
  Proc.write (·.meetAll between)
  let state ← Proc.read CancellationToken.state
  Proc.write (exchange .sealed)
  if state = .active then pure () else throwIfRequested

/-- What no thread can undo, and what every cancellation request was told. -/
structure Later (before after : CancellationToken) : Prop where
  settled : before.state ≠ .active → after.state = before.state
  seen : ∀ state ∈ after.found, state ∈ before.found ∨
    (if state = .active then after.state = .cancelled else after.state = state)

namespace Later
variable {before middle after : CancellationToken}

theorem refl (token : CancellationToken) : Later token token where
  settled _ := rfl
  seen _ member := Or.inl member

theorem trans (first : Later before middle) (second : Later middle after) :
    Later before after where
  settled moved := by
    have same := first.settled moved
    rw [second.settled (by rw [same]; exact moved), same]
  seen state member := by
    rcases second.seen state member with earlier | told
    · rcases first.seen state earlier with older | told
      · exact Or.inl older
      · -- an answer given before `middle` still fits, since the state it names is final
        right
        by_cases active : state = .active
        · rw [if_pos active] at told ⊢
          rw [second.settled (by simp [told]), told]
        · rw [if_neg active] at told ⊢
          rw [second.settled (by simpa [told] using active), told]
    · exact Or.inr told

end Later

namespace CancellationToken
variable (token : CancellationToken)

theorem exchange_later (next : TokenState) : Later token (token.exchange next) := by
  constructor
  · intro moved
    rw [exchange, if_neg moved]
  · intro state member
    left
    rw [exchange] at member
    split at member <;> exact member

theorem request_cancel_later : Later token token.requestCancel := by
  constructor
  · exact (exchange_later token .cancelled).settled
  · intro state member
    rcases List.mem_cons.mp member with same | old
    · right
      subst same
      by_cases active : token.state = .active
      · simp [requestCancel, exchange, active]
      · rw [if_neg active]
        exact (exchange_later token .cancelled).settled active
    · exact Or.inl old

theorem expire_deadline_later : Later token token.expireDeadline := by
  rw [expireDeadline]
  split
  · exact exchange_later token .deadline
  · exact Later.refl token

theorem meet_later (arrival : Arrival) : Later token (token.meet arrival) := by
  cases arrival with
  | cancelRequested => exact request_cancel_later token
  | deadlinePassed => exact ⟨fun _ => rfl, fun _ member => Or.inl member⟩
  | polledElsewhere => exact expire_deadline_later token

theorem meet_all_later (arrivals : List Arrival) : Later token (token.meetAll arrivals) := by
  induction arrivals generalizing token with
  | nil => exact Later.refl token
  | cons arrival rest ih => exact (meet_later token arrival).trans (ih _)

/-- A poll only throws what the state says, and never what it did not find. -/
theorem throw_if_requested_ends :
    Ends throwIfRequested
      (fun _ after => Later token after ∧ after = token.expireDeadline ∧
        (after.state = .active ∨ after.state = .sealed))
      (fun thrown after => Later token after ∧ after = token.expireDeadline ∧
        ((after.state = .cancelled ∧ thrown = .executionCancelled) ∨
          (after.state = .deadline ∧ thrown = .executionDeadlineExceeded))) token := by
  have later := expire_deadline_later token
  simp only [Ends, throwIfRequested]
  cases state : token.expireDeadline.state with
  | active => exact ⟨later, rfl, Or.inl state⟩
  | sealed => exact ⟨later, rfl, Or.inr state⟩
  | cancelled => exact ⟨later, rfl, Or.inl ⟨state, rfl⟩⟩
  | deadline => exact ⟨later, rfl, Or.inr ⟨state, rfl⟩⟩

/-- Nothing was requested and the deadline is not reached. -/
def Fresh : Prop := token.state = .active ∧ (token.hasDeadline = true → token.expired = false)

theorem fresh_expire {token : CancellationToken} (fresh : token.Fresh) :
    token.expireDeadline = token := by
  rw [expireDeadline, if_neg]
  rintro ⟨deadline, expired⟩
  simp [fresh.2 deadline] at expired

theorem fresh_polls {token : CancellationToken} (fresh : token.Fresh) :
    throwIfRequested token = (.ok (), token) := by
  simp only [throwIfRequested, fresh_expire fresh, fresh.1, observe]

theorem fresh_seals {token : CancellationToken} (fresh : token.Fresh) :
    CancellationToken.seal [] token = (.ok (), { token with state := .sealed }) := by
  change Proc.bind throwIfRequested _ token = _
  simp only [Proc.bind, fresh_polls fresh]
  change (if token.state = .active then pure () else throwIfRequested : Proc _ _ Unit)
    (token.exchange .sealed) = _
  rw [if_pos fresh.1, exchange, if_pos fresh.1]
  rfl

/-- Once sealed, no poll at any later time throws. -/
theorem sealed_never_throws (passed : token.state = .sealed) (arrivals : List Arrival) :
    throwIfRequested (token.meetAll arrivals) =
      (.ok (), (token.meetAll arrivals).expireDeadline) := by
  have kept : (token.meetAll arrivals).state = .sealed := by
    rw [(meet_all_later token arrivals).settled (by simp [passed]), passed]
  have expired : (token.meetAll arrivals).expireDeadline.state = .sealed := by
    rw [(expire_deadline_later _).settled (by simp [kept]), kept]
  simp only [throwIfRequested, expired, observe]

/-- `seal` returns in the sealed state and otherwise throws what was requested. -/
theorem seal_ends (between : List Arrival) :
    Ends (CancellationToken.seal between)
      (fun _ after => Later token after ∧ after.state = .sealed)
      (fun thrown after => Later token after ∧
        ((after.state = .cancelled ∧ thrown = .executionCancelled) ∨
          (after.state = .deadline ∧ thrown = .executionDeadlineExceeded))) token := by
  have polled := (throw_if_requested_ends token).weaken
    (fun _ _ kept => kept.1) (fun _ _ threw => And.intro threw.1 threw.2.2)
  apply polled.chain
  intro _ middle first
  have later := first.trans (meet_all_later middle between)
  simp only [ends_bind, ends_write, ends_read, ends_ite, ends_pure]
  constructor
  · intro active
    exact ⟨later.trans (exchange_later _ _), by simp [exchange, active]⟩
  · intro moved
    have same : (middle.meetAll between).exchange .sealed = middle.meetAll between := if_neg moved
    rw [same]
    apply (throw_if_requested_ends (middle.meetAll between)).weaken
    · intro _ after ended
      have kept := ended.1.settled moved
      exact ⟨later.trans ended.1, ended.2.2.resolve_left fun active => moved (kept ▸ active)⟩
    · intro _ after threw
      exact ⟨later.trans threw.1, threw.2.2⟩

end CancellationToken

end Q38.Cancellation
