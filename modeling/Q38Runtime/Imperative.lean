import Mathlib

/-! Calls that update a state and may throw. The state written before a throw
stays written, as it does in a program without an undo log; a call that wants
atomicity has to arrange for it. The rules below compute what a call ends in
from what its parts end in, first for one call and then for two calls run side
by side. -/
namespace Imperative

/-- A call in state `σ` that returns an `α` or throws an `ε`. -/
def Proc (ε σ α : Type) : Type := σ → Except ε α × σ

variable {ε σ τ α β : Type}

namespace Proc

protected def pure (value : α) : Proc ε σ α := fun state => (.ok value, state)

protected def bind (first : Proc ε σ α) (next : α → Proc ε σ β) : Proc ε σ β := fun state =>
  match first state with
  | (.ok value, after) => next value after
  | (.error thrown, after) => (.error thrown, after)

instance : Monad (Proc ε σ) where
  pure := Proc.pure
  bind := Proc.bind

def throwing (thrown : ε) : Proc ε σ α := fun state => (.error thrown, state)

def read (view : σ → α) : Proc ε σ α := fun state => (.ok (view state), state)

def write (change : σ → σ) : Proc ε σ Unit := fun state => (.ok (), change state)

/-- Throw `thrown` unless `condition` holds. -/
def ensure (condition : Prop) [Decidable condition] (thrown : ε) : Proc ε σ Unit :=
  if condition then Proc.pure () else throwing thrown

/-- Run `call` only if `condition` holds. -/
def whenever (condition : Prop) [Decidable condition] (call : Proc ε σ Unit) : Proc ε σ Unit :=
  if condition then call else Proc.pure ()

/-- Throw what a check refused with; `none` is acceptance. -/
def accept (refusal : Option String) (describe : String → ε) : Proc ε σ Unit :=
  match refusal with
  | none => Proc.pure ()
  | some message => throwing (describe message)

/-- Run `body`; if it throws, run `handler` in the state it left behind. -/
def catching (body : Proc ε σ α) (handler : ε → Proc ε σ α) : Proc ε σ α := fun state =>
  match body state with
  | (.ok value, after) => (.ok value, after)
  | (.error thrown, after) => handler thrown after

/-- Keep the outcome of a call for later, as a future does. -/
def attempt (body : Proc ε σ α) : Proc ε σ (Except ε α) := fun state =>
  let outcome := body state
  (.ok outcome.1, outcome.2)

/-- Return or rethrow a stored outcome. -/
def settle (outcome : Except ε α) : Proc ε σ α := fun state => (outcome, state)

/-- Run a call on one component of a larger state. -/
def within (view : τ → σ) (store : σ → τ → τ) (body : Proc ε σ α) : Proc ε τ α := fun state =>
  let outcome := body (view state)
  (outcome.1, store outcome.2 state)

end Proc

def Lands (returns : α → σ → Prop) (throws : ε → σ → Prop) : Except ε α × σ → Prop
  | (.ok value, after) => returns value after
  | (.error thrown, after) => throws thrown after

/-- `Ends call returns throws state`: run from `state`, the call either returns
a value in a state satisfying `returns`, or throws in one satisfying `throws`. -/
def Ends (call : Proc ε σ α) (returns : α → σ → Prop) (throws : ε → σ → Prop) (state : σ) : Prop :=
  Lands returns throws (call state)

section Ends
variable {returns returns' : α → σ → Prop} {throws throws' : ε → σ → Prop} {state : σ}

theorem ends_pure (value : α) :
    Ends (pure value : Proc ε σ α) returns throws state ↔ returns value state := Iff.rfl

theorem ends_throwing (thrown : ε) :
    Ends (Proc.throwing thrown : Proc ε σ α) returns throws state ↔ throws thrown state := Iff.rfl

theorem ends_read (view : σ → α) :
    Ends (Proc.read view : Proc ε σ α) returns throws state ↔ returns (view state) state := Iff.rfl

theorem ends_write {returns : Unit → σ → Prop} (change : σ → σ) :
    Ends (Proc.write change : Proc ε σ Unit) returns throws state ↔
      returns () (change state) := Iff.rfl

theorem ends_bind {returns : β → σ → Prop} (first : Proc ε σ α) (next : α → Proc ε σ β) :
    Ends (first >>= next) returns throws state ↔
      Ends first (fun value => Ends (next value) returns throws) throws state := by
  change Lands returns throws (Proc.bind first next state) ↔ _
  unfold Ends Proc.bind
  rcases first state with ⟨outcome, after⟩
  cases outcome <;> rfl

theorem ends_ensure {returns : Unit → σ → Prop} (condition : Prop) [Decidable condition]
    (thrown : ε) :
    Ends (Proc.ensure condition thrown : Proc ε σ Unit) returns throws state ↔
      (condition → returns () state) ∧ (¬ condition → throws thrown state) := by
  unfold Proc.ensure
  by_cases holds : condition
  · simp [holds, Ends, Lands, Proc.pure]
  · simp [holds, Ends, Lands, Proc.throwing]

theorem ends_whenever {returns : Unit → σ → Prop} (condition : Prop) [Decidable condition]
    (call : Proc ε σ Unit) :
    Ends (Proc.whenever condition call) returns throws state ↔
      (condition → Ends call returns throws state) ∧ (¬ condition → returns () state) := by
  unfold Proc.whenever
  by_cases holds : condition
  · simp [holds]
  · simp [holds, Ends, Lands, Proc.pure]

theorem ends_accept {returns : Unit → σ → Prop} (refusal : Option String)
    (describe : String → ε) :
    Ends (Proc.accept refusal describe : Proc ε σ Unit) returns throws state ↔
      (refusal = none → returns () state) ∧
        (∀ message, refusal = some message → throws (describe message) state) := by
  cases refusal <;> simp [Proc.accept, Ends, Lands, Proc.pure, Proc.throwing]

theorem ends_catching (body : Proc ε σ α) (handler : ε → Proc ε σ α) :
    Ends (Proc.catching body handler) returns throws state ↔
      Ends body returns (fun thrown => Ends (handler thrown) returns throws) state := by
  unfold Ends Proc.catching
  rcases body state with ⟨outcome, after⟩
  cases outcome <;> rfl

theorem ends_attempt {returns : Except ε α → σ → Prop} (body : Proc ε σ α) :
    Ends (Proc.attempt body) returns throws state ↔
      Ends body (fun value => returns (.ok value)) (fun thrown => returns (.error thrown))
        state := by
  unfold Ends Proc.attempt
  rcases body state with ⟨outcome, after⟩
  cases outcome <;> rfl

theorem ends_settle (outcome : Except ε α) :
    Ends (Proc.settle outcome : Proc ε σ α) returns throws state ↔
      (∀ value, outcome = .ok value → returns value state) ∧
        (∀ thrown, outcome = .error thrown → throws thrown state) := by
  cases outcome <;> simp [Ends, Lands, Proc.settle]

theorem ends_within {returns : α → τ → Prop} {throws : ε → τ → Prop} {state : τ}
    (view : τ → σ) (store : σ → τ → τ) (body : Proc ε σ α) :
    Ends (Proc.within view store body) returns throws state ↔
      Ends body (fun value after => returns value (store after state))
        (fun thrown after => throws thrown (store after state)) (view state) := by
  unfold Ends Proc.within
  rcases body (view state) with ⟨outcome, after⟩
  cases outcome <;> rfl

theorem ends_ite (condition : Prop) [Decidable condition] (yes no : Proc ε σ α) :
    Ends (if condition then yes else no) returns throws state ↔
      (condition → Ends yes returns throws state) ∧
        (¬ condition → Ends no returns throws state) := by
  by_cases holds : condition <;> simp [holds]

/-- Consequence: weaken what holds after a return and after a throw. -/
theorem Ends.weaken {call : Proc ε σ α} (ended : Ends call returns throws state)
    (returned : ∀ value after, returns value after → returns' value after)
    (threw : ∀ thrown after, throws thrown after → throws' thrown after) :
    Ends call returns' throws' state := by
  unfold Ends at *
  rcases run : call state with ⟨outcome, after⟩
  rw [run] at ended
  cases outcome with
  | ok value => exact returned value after ended
  | error thrown => exact threw thrown after ended

/-- The sequence rule: run the next call from whatever the first one ends in. -/
theorem Ends.chain {between : α → σ → Prop} {returns : β → σ → Prop} {first : Proc ε σ α}
    {next : α → Proc ε σ β} (head : Ends first between throws state)
    (tail : ∀ value after, between value after → Ends (next value) returns throws after) :
    Ends (first >>= next) returns throws state :=
  (ends_bind first next).mpr (head.weaken tail fun _ _ thrown => thrown)

/-- The sequence rule behind a call that never throws. -/
theorem Ends.proceed {between : α → σ → Prop} {returns : β → σ → Prop} {first : Proc ε σ α}
    {next : α → Proc ε σ β} (head : Ends first between (fun _ _ => False) state)
    (tail : ∀ value after, between value after → Ends (next value) returns throws after) :
    Ends (first >>= next) returns throws state :=
  (head.weaken (fun _ _ kept => kept) fun _ _ impossible => impossible.elim).chain tail

theorem Ends.both {call : Proc ε σ α} (left : Ends call returns throws state)
    (right : Ends call returns' throws' state) :
    Ends call (fun value after => returns value after ∧ returns' value after)
      (fun thrown after => throws thrown after ∧ throws' thrown after) state := by
  unfold Ends at *
  rcases run : call state with ⟨outcome, after⟩
  rw [run] at left right
  cases outcome <;> exact ⟨left, right⟩

theorem Ends.returned {call : Proc ε σ α} (ended : Ends call returns throws state)
    {value : α} (result : (call state).1 = .ok value) : returns value (call state).2 := by
  unfold Ends at ended
  generalize call state = outcome at *
  obtain ⟨answer, after⟩ := outcome
  subst result
  exact ended

theorem Ends.threw {call : Proc ε σ α} (ended : Ends call returns throws state)
    {thrown : ε} (result : (call state).1 = .error thrown) : throws thrown (call state).2 := by
  unfold Ends at ended
  generalize call state = outcome at *
  obtain ⟨answer, after⟩ := outcome
  subst result
  exact ended

/-- A sequence whose first call throws does not reach the next one. -/
theorem bind_throws {first : Proc ε σ α} {next : α → Proc ε σ β} {thrown : ε} {after : σ}
    (threw : first state = (.error thrown, after)) :
    (first >>= next) state = (.error thrown, after) := by
  change Proc.bind first next state = _
  simp only [Proc.bind, threw]

/-- Every call ends in its own outcome. -/
theorem ends_self (call : Proc ε σ α) (state : σ) :
    Ends call (fun value after => call state = (.ok value, after))
      (fun thrown after => call state = (.error thrown, after)) state := by
  unfold Ends
  rcases outcome : call state with ⟨result, after⟩
  cases result <;> rfl

/-- Calls that go on alike from wherever the first one returns are alike. -/
theorem bind_agrees {between : α → σ → Prop} {throws : ε → σ → Prop} {first : Proc ε σ α}
    {left right : α → Proc ε σ β} (ended : Ends first between throws state)
    (same : ∀ value after, between value after → left value after = right value after) :
    (first >>= left) state = (first >>= right) state := by
  change Proc.bind first left state = Proc.bind first right state
  unfold Ends at ended
  unfold Proc.bind
  rcases run : first state with ⟨outcome, after⟩
  rw [run] at ended
  cases outcome with
  | ok value => exact same value after ended
  | error thrown => rfl

theorem head_agrees {left right : Proc ε σ α} {next : α → Proc ε σ β}
    (same : left state = right state) : (left >>= next) state = (right >>= next) state := by
  change Proc.bind left next state = Proc.bind right next state
  unfold Proc.bind
  rw [same]

theorem ensure_agrees {condition : Prop} [Decidable condition] {thrown : ε}
    {left right : Unit → Proc ε σ β} (same : condition → left () state = right () state) :
    (Proc.ensure condition thrown >>= left) state =
      (Proc.ensure condition thrown >>= right) state := by
  have ended : Ends (Proc.ensure condition thrown : Proc ε σ Unit)
      (fun _ after => condition ∧ after = state) (fun _ _ => True) state := by
    rw [ends_ensure]
    exact ⟨fun holds => ⟨holds, rfl⟩, fun _ => trivial⟩
  apply bind_agrees ended
  rintro ⟨⟩ _ ⟨holds, rfl⟩
  exact same holds

theorem read_agrees {view : σ → α} {left right : α → Proc ε σ β}
    (same : left (view state) state = right (view state) state) :
    (Proc.read view >>= left) state = (Proc.read view >>= right) state := same

theorem ite_agrees {condition : Prop} [Decidable condition] {yes no other else_ : Proc ε σ α}
    (holds : condition → yes state = other state) (fails : ¬ condition → no state = else_ state) :
    (if condition then yes else no) state = (if condition then other else else_) state := by
  by_cases chosen : condition
  · rw [if_pos chosen, if_pos chosen]
    exact holds chosen
  · rw [if_neg chosen, if_neg chosen]
    exact fails chosen

theorem settle_agrees {outcome : Except ε α} {left right : α → Proc ε σ β}
    (same : ∀ value, outcome = .ok value → left value state = right value state) :
    (Proc.settle outcome >>= left) state = (Proc.settle outcome >>= right) state := by
  cases outcome with
  | ok value => exact same value rfl
  | error thrown => rfl

theorem catching_agrees {left right : Proc ε σ α} {handler : ε → Proc ε σ α}
    (same : left state = right state) :
    Proc.catching left handler state = Proc.catching right handler state := by
  unfold Proc.catching
  rw [same]

end Ends

end Imperative
