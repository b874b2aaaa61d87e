import Q38Runtime.Contracts

/-! `SessionTxnEngine` of `transaction.cc`: the coordinator that reserves,
prepares, acknowledges, decides and finishes one transaction at a time. Each
call answers with a message on refusal and carries the engine it leaves
behind, so a call that wrote before refusing would be seen to have written. -/
namespace Q38.Transaction
open Contracts Imperative

structure CommitEventV1 where
  epoch : Nat := 0
  canonical : Nat := 0
  target : Nat := 0
  newlyPublished : Nat := 0
  kind : TxnKind := .invalid
  deriving DecidableEq, Repr

structure SessionTxnEngine where
  sessionHash : UInt64
  frontiers : SessionFrontiersV1 Nat := .fresh
  txn : SessionTxnV1 := {}
  active : Bool := false
  stage0Ack : Bool := false
  stage1Ack : Bool := false
  deriving DecidableEq, Repr

abbrev EngineCall (α : Type) := Proc String SessionTxnEngine α

def fail (message : String) {α : Type} : EngineCall α := Proc.throwing message

def addChecked (value add : Nat) : Option Nat :=
  if value > maxUInt64 - add then none else some (value + add)

/-- `add_checked(&frontiers_.canonical, add, error)`. -/
def addCanonical (add : Nat) : EngineCall Unit := fun engine =>
  match addChecked engine.frontiers.canonical add with
  | none => fail "frontier overflow" engine
  | some canonical =>
      (.ok (), { engine with frontiers := { engine.frontiers with canonical := canonical } })

def appendKnown (count : Nat) : EngineCall Unit := fun engine =>
  if engine.active then fail "cannot append during an active transaction" engine
  else if count = 0 then fail "cannot append zero known tokens" engine
  else addCanonical count engine

/-- The switch of `prepare`: a message when the kind refuses the extent. -/
def refuseExtent (kind : TxnKind) (evaluatedCount pending : Nat) : Option String :=
  match kind with
  | .appendKnown =>
      if evaluatedCount > pending then
        some "append transaction exceeds known pending tokens" else none
  | .decode =>
      if pending ≠ 1 ∨ evaluatedCount ≠ 1 then
        some "decode requires exactly one pending token" else none
  | .speculative =>
      if pending ≠ 1 then some "speculative verify requires one pending token" else none
  | .invalid => some "invalid transaction kind"
  | .unlisted _ => none

def openedTxn (engine : SessionTxnEngine) (kind : TxnKind) (evaluatedCount : Nat) :
    SessionTxnV1 :=
  { sessionHash := engine.sessionHash
    epoch := engine.frontiers.epoch + 1
    baseTarget := engine.frontiers.target
    baseCanonical := engine.frontiers.canonical
    evaluatedCount := evaluatedCount
    kind := kind
    status := .prepared }

def prepare (kind : TxnKind) (evaluatedCount : Nat) : EngineCall Unit := fun engine =>
  if engine.active then fail "transaction already active" engine
  else if evaluatedCount = 0 then fail "cannot evaluate zero tokens" engine
  else match validateFrontiers engine.frontiers with
  | some message => fail message engine
  | none =>
    let pending := engine.frontiers.canonical - engine.frontiers.target
    match refuseExtent kind evaluatedCount pending with
    | some message => fail message engine
    | none =>
      if engine.frontiers.epoch = maxUInt64 then fail "transaction epoch exhausted" engine
      else
        (.ok (), { engine with
          txn := openedTxn engine kind evaluatedCount
          active := true, stage0Ack := false, stage1Ack := false })

def prepareAppendKnown (appendedCount evaluatedCount : Nat) : EngineCall Unit := fun engine =>
  if engine.active then fail "transaction already active" engine
  else if appendedCount = 0 then fail "cannot append zero known tokens" engine
  else match validateFrontiers engine.frontiers with
  | some message => fail message engine
  | none =>
    let pending := engine.frontiers.canonical - engine.frontiers.target
    if pending > 1 then fail "append request has too many pending tokens" engine
    else if evaluatedCount ≠ appendedCount + pending then
      fail "append evaluated range does not cover pending suffix" engine
    else
      let baseCanonical := engine.frontiers.canonical
      match addCanonical appendedCount engine with
      | (.error message, reserved) => (.error message, reserved)
      | (.ok (), reserved) =>
        match prepare .appendKnown evaluatedCount reserved with
        | (.error message, refused) =>
            (.error message, { refused with
              frontiers := { refused.frontiers with canonical := baseCanonical } })
        | (.ok (), prepared) =>
            (.ok (), { prepared with txn := { prepared.txn with baseCanonical := baseCanonical } })

def seedDecodePending : EngineCall Unit := fun engine =>
  if engine.active then fail "cannot seed during an active transaction" engine
  else if engine.frontiers.canonical ≠ engine.frontiers.target then
    fail "decode seed requires no pending tokens" engine
  else addCanonical 1 engine

def acknowledge (stage : Stage) (epoch evaluatedCount : Nat) : EngineCall Unit := fun engine =>
  if !engine.active then fail "no active transaction to acknowledge" engine
  else if engine.txn.status ≠ .prepared ∧ engine.txn.status ≠ .decided then
    fail "transaction is not acknowledgeable" engine
  else if epoch ≠ engine.txn.epoch then fail "stage acknowledged wrong epoch" engine
  else if evaluatedCount ≠ engine.txn.evaluatedCount then
    fail "stage acknowledged wrong evaluated count" engine
  else match stage with
  | .stage0 =>
      if engine.stage0Ack then fail "duplicate stage0 acknowledgement" engine
      else (.ok (), { engine with stage0Ack := true })
  | .stage1 =>
      if engine.stage1Ack then fail "duplicate stage1 acknowledgement" engine
      else (.ok (), { engine with stage1Ack := true })
  | .unlisted _ => fail "invalid stage acknowledgement" engine

def shortenSpeculative (evaluatedCount : Nat) : EngineCall Unit := fun engine =>
  if !engine.active then fail "no active transaction to shorten" engine
  else if engine.txn.status ≠ .prepared then fail "transaction is not shorten-able" engine
  else if engine.txn.kind ≠ .speculative then
    fail "only speculative transactions may be shortened" engine
  else if engine.stage0Ack ∨ engine.stage1Ack then
    fail "acknowledged transaction cannot be shortened" engine
  else if evaluatedCount = 0 ∨ evaluatedCount ≥ engine.txn.evaluatedCount then
    fail "shortened speculative extent is invalid" engine
  else (.ok (), { engine with txn := { engine.txn with evaluatedCount := evaluatedCount } })

/-- The switch of `decide`: the number of tokens the decision publishes. -/
def publishedBy (txn : SessionTxnV1) (stateCommitCount : Nat) : Except String Nat :=
  match txn.kind with
  | .appendKnown =>
      if stateCommitCount ≠ txn.evaluatedCount then
        .error "append must commit its full evaluated range" else .ok 0
  | .decode =>
      if stateCommitCount ≠ 1 then
        .error "plain decode must commit its pending token" else .ok 1
  | .speculative =>
      if stateCommitCount = 0 ∨ stateCommitCount > txn.evaluatedCount then
        .error "speculative accepted prefix is invalid" else .ok stateCommitCount
  | .invalid => .error "invalid transaction kind"
  | .unlisted _ => .ok txn.publishCount

def decide (stateCommitCount : Nat) : EngineCall Unit := fun engine =>
  if !engine.active then fail "no active transaction to decide" engine
  else if engine.txn.status ≠ .prepared then fail "transaction was already decided" engine
  else match publishedBy engine.txn stateCommitCount with
  | .error message => fail message engine
  | .ok publishCount =>
      (.ok (), { engine with txn := { engine.txn with
        publishCount := publishCount
        stateCommitCount := stateCommitCount
        status := .decided } })

/-- The frontiers `commit` computes before it stores anything. -/
def committedFrontiers (engine : SessionTxnEngine) : Except String (SessionFrontiersV1 Nat) :=
  match addChecked engine.frontiers.target engine.txn.stateCommitCount with
  | none => .error "frontier overflow"
  | some target =>
    let next := { engine.frontiers with
      target := target, stage0 := target, stage1 := target, epoch := engine.txn.epoch }
    if engine.txn.kind = .decode ∨ engine.txn.kind = .speculative then
      match addChecked engine.frontiers.canonical engine.txn.publishCount with
      | none => .error "frontier overflow"
      | some canonical => .ok { next with canonical := canonical, draft := target }
    else if next.draft > target then .ok { next with draft := target }
    else .ok next

def commit : EngineCall CommitEventV1 := fun engine =>
  if !engine.active then fail "no active transaction to commit" engine
  else if engine.txn.status ≠ .decided then fail "transaction has no decision" engine
  else if !engine.stage0Ack ∨ !engine.stage1Ack then
    fail "both stages must acknowledge before commit" engine
  else match committedFrontiers engine with
  | .error message => fail message engine
  | .ok next =>
    match validateFrontiers next with
    | some message => fail message engine
    | none =>
      (.ok { epoch := engine.txn.epoch, canonical := next.canonical, target := next.target
             newlyPublished := engine.txn.publishCount, kind := engine.txn.kind },
        { engine with
          txn := { engine.txn with status := .committed }
          frontiers := next
          active := false })

def rollback : EngineCall Unit := fun engine =>
  if !engine.active then fail "no active transaction to roll back" engine
  else
    let canonical := if engine.txn.kind = .appendKnown then engine.txn.baseCanonical
      else engine.frontiers.canonical
    let after := { engine with
      txn := { engine.txn with status := .rolledBack }
      frontiers := { engine.frontiers with canonical := canonical, epoch := engine.txn.epoch }
      active := false, stage0Ack := false, stage1Ack := false }
    match validateFrontiers after.frontiers with
    | some message => (.error message, after)
    | none => (.ok (), after)

/-- Throws `std::logic_error` while a transaction is active. -/
def reset : EngineCall Unit := fun engine =>
  if engine.active then fail "cannot reset an active transaction" engine
  else (.ok (), { engine with
    frontiers := .fresh, txn := {}, stage0Ack := false, stage1Ack := false })

/-! What each call can do. A refusal leaves the engine as it was; an accepted
call names the guards it passed and the engine it stores. -/
section Specs
variable (engine : SessionTxnEngine)

theorem add_checked_eq {value add sum : Nat} (added : addChecked value add = some sum) :
    sum = value + add ∧ value + add ≤ maxUInt64 + (add - maxUInt64) := by
  unfold addChecked at added
  split at added
  · contradiction
  · cases added
    exact ⟨rfl, by omega⟩

/-- The engine with `count` more canonical tokens. -/
def grown (count : Nat) : SessionTxnEngine :=
  { engine with
    frontiers := { engine.frontiers with canonical := engine.frontiers.canonical + count } }

theorem add_canonical_spec (add : Nat) :
    Ends (addCanonical add)
      (fun _ after => addChecked engine.frontiers.canonical add =
          some (engine.frontiers.canonical + add) ∧ after = grown engine add)
      (fun _ after => after = engine) engine := by
  simp only [Ends, addCanonical]
  cases added : addChecked engine.frontiers.canonical add with
  | none => exact rfl
  | some canonical =>
      have sum := (add_checked_eq added).1
      subst sum
      exact ⟨rfl, rfl⟩

theorem append_known_spec (count : Nat) :
    Ends (appendKnown count)
      (fun _ after => engine.active = false ∧ 0 < count ∧
        addChecked engine.frontiers.canonical count =
          some (engine.frontiers.canonical + count) ∧ after = grown engine count)
      (fun _ after => after = engine) engine := by
  have added := add_canonical_spec engine count
  unfold Ends appendKnown at *
  by_cases busy : engine.active = true
  · rw [if_pos busy]; exact rfl
  by_cases zero : count = 0
  · rw [if_neg busy, if_pos zero]; exact rfl
  rw [if_neg busy, if_neg zero]
  exact Ends.weaken added
    (fun _ _ stored => ⟨Bool.eq_false_iff.mpr busy, Nat.pos_of_ne_zero zero, stored⟩)
    (fun _ _ same => same)

theorem seed_decode_pending_spec :
    Ends seedDecodePending
      (fun _ after => engine.active = false ∧
        engine.frontiers.canonical = engine.frontiers.target ∧
        addChecked engine.frontiers.canonical 1 = some (engine.frontiers.canonical + 1) ∧
        after = grown engine 1)
      (fun _ after => after = engine) engine := by
  have added := add_canonical_spec engine 1
  unfold Ends seedDecodePending at *
  by_cases busy : engine.active = true
  · rw [if_pos busy]; exact rfl
  by_cases settled : engine.frontiers.canonical = engine.frontiers.target
  · rw [if_neg busy, if_neg (not_not_intro settled)]
    exact Ends.weaken added
      (fun _ _ stored => ⟨Bool.eq_false_iff.mpr busy, settled, stored⟩)
      (fun _ _ same => same)
  · rw [if_neg busy, if_pos settled]; exact rfl

/-- The guards `prepare` has passed once it opens a transaction. -/
structure Preparable (kind : TxnKind) (evaluatedCount : Nat) : Prop where
  idle : engine.active = false
  nonempty : evaluatedCount ≠ 0
  valid : validateFrontiers engine.frontiers = none
  extent : refuseExtent kind evaluatedCount
    (engine.frontiers.canonical - engine.frontiers.target) = none
  epoch : engine.frontiers.epoch ≠ maxUInt64

def opened (kind : TxnKind) (evaluatedCount : Nat) : SessionTxnEngine :=
  { engine with
    txn := openedTxn engine kind evaluatedCount
    active := true, stage0Ack := false, stage1Ack := false }

theorem prepare_spec (kind : TxnKind) (evaluatedCount : Nat) :
    Ends (prepare kind evaluatedCount)
      (fun _ after => Preparable engine kind evaluatedCount ∧
        after = opened engine kind evaluatedCount)
      (fun _ after => after = engine ∧ ¬ Preparable engine kind evaluatedCount) engine := by
  unfold Ends prepare
  by_cases busy : engine.active = true
  · simp only [busy, ↓reduceIte]
    exact ⟨rfl, fun guards => by simp [guards.idle] at busy⟩
  by_cases zero : evaluatedCount = 0
  · simp only [busy, zero, ↓reduceIte]
    exact ⟨rfl, fun guards => guards.nonempty rfl⟩
  simp only [busy, zero, ↓reduceIte]
  cases valid : validateFrontiers engine.frontiers with
  | some message => exact ⟨rfl, fun guards => by simp [guards.valid] at valid⟩
  | none =>
    cases extent : refuseExtent kind evaluatedCount
        (engine.frontiers.canonical - engine.frontiers.target) with
    | some message => exact ⟨rfl, fun guards => by simp [guards.extent] at extent⟩
    | none =>
      by_cases last : engine.frontiers.epoch = maxUInt64
      · simp only [last, ↓reduceIte]
        exact ⟨rfl, fun guards => guards.epoch last⟩
      · simp only [last, ↓reduceIte]
        exact ⟨⟨by simpa using busy, zero, valid, extent, last⟩, rfl⟩

/-- The guards `prepare_append_known` has passed once it opens a transaction. -/
structure Appendable (appendedCount evaluatedCount : Nat) : Prop where
  idle : engine.active = false
  nonempty : appendedCount ≠ 0
  valid : validateFrontiers engine.frontiers = none
  pending : engine.frontiers.canonical - engine.frontiers.target ≤ 1
  covers : evaluatedCount =
    appendedCount + (engine.frontiers.canonical - engine.frontiers.target)
  fits : addChecked engine.frontiers.canonical appendedCount =
    some (engine.frontiers.canonical + appendedCount)
  epoch : engine.frontiers.epoch ≠ maxUInt64

/-- The engine with a suffix reserved and its transaction open. -/
def openedAppend (appendedCount evaluatedCount : Nat) : SessionTxnEngine :=
  { grown engine appendedCount with
    txn := openedTxn engine .appendKnown evaluatedCount
    active := true, stage0Ack := false, stage1Ack := false }

theorem prepare_append_known_spec (appendedCount evaluatedCount : Nat) :
    Ends (prepareAppendKnown appendedCount evaluatedCount)
      (fun _ after => Appendable engine appendedCount evaluatedCount ∧
        after = openedAppend engine appendedCount evaluatedCount)
      (fun _ after => after = engine ∧ ¬ Appendable engine appendedCount evaluatedCount)
      engine := by
  unfold Ends prepareAppendKnown
  by_cases busy : engine.active = true
  · simp only [busy, ↓reduceIte]
    exact ⟨rfl, fun guards => by simp [guards.idle] at busy⟩
  by_cases zero : appendedCount = 0
  · simp only [busy, zero, ↓reduceIte]
    exact ⟨rfl, fun guards => guards.nonempty rfl⟩
  simp only [busy, zero, ↓reduceIte]
  cases valid : validateFrontiers engine.frontiers with
  | some message => exact ⟨rfl, fun guards => by simp [guards.valid] at valid⟩
  | none =>
    by_cases many : engine.frontiers.canonical - engine.frontiers.target > 1
    · simp only [many, ↓reduceIte]
      exact ⟨rfl, fun guards => by have := guards.pending; omega⟩
    by_cases covers : evaluatedCount =
        appendedCount + (engine.frontiers.canonical - engine.frontiers.target)
    swap
    · simp only [many, covers, ↓reduceIte, ne_eq, not_false_eq_true]
      exact ⟨rfl, fun guards => covers guards.covers⟩
    simp only [many, ← covers, ↓reduceIte, ne_eq, not_true_eq_false]
    unfold addCanonical
    cases added : addChecked engine.frontiers.canonical appendedCount with
    | none => exact ⟨rfl, fun guards => by simp [guards.fits] at added⟩
    | some canonical =>
      have sum := (add_checked_eq added).1
      subst sum
      have inner := prepare_spec (grown engine appendedCount) .appendKnown evaluatedCount
      unfold Ends at inner
      change Lands _ _ (match prepare .appendKnown evaluatedCount (grown engine appendedCount) with
        | (.error message, refused) => _
        | (.ok (), prepared) => _)
      generalize prepare .appendKnown evaluatedCount (grown engine appendedCount) = outcome
        at inner ⊢
      obtain ⟨answer, after⟩ := outcome
      cases answer with
      | ok _ =>
          obtain ⟨guards, rfl⟩ := inner
          exact ⟨⟨by simpa using busy, zero, valid, by omega, covers, added, guards.epoch⟩, rfl⟩
      | error message =>
          obtain ⟨rfl, refused⟩ := inner
          refine ⟨rfl, fun guards => refused ⟨guards.idle, by omega, ?_, ?_, guards.epoch⟩⟩
          · obtain ⟨first, second, third, fourth⟩ := (validate_frontiers_iff _).mp valid
            exact (validate_frontiers_iff _).mpr
              ⟨first, second, by simp only [grown]; omega, by simp only [grown]; omega⟩
          · obtain ⟨_, _, third, _⟩ := (validate_frontiers_iff _).mp valid
            exact if_neg (by simp only [grown]; omega)

theorem acknowledge_spec (stage : Stage) (epoch evaluatedCount : Nat) :
    Ends (acknowledge stage epoch evaluatedCount)
      (fun _ after => engine.active = true ∧ epoch = engine.txn.epoch ∧
        evaluatedCount = engine.txn.evaluatedCount ∧
        ((stage = .stage0 ∧ after = { engine with stage0Ack := true }) ∨
          (stage = .stage1 ∧ after = { engine with stage1Ack := true })))
      (fun _ after => after = engine) engine := by
  unfold Ends acknowledge
  by_cases idle : (!engine.active) = true
  · rw [if_pos idle]; exact rfl
  by_cases status : engine.txn.status ≠ .prepared ∧ engine.txn.status ≠ .decided
  · rw [if_neg idle, if_pos status]; exact rfl
  by_cases epochs : epoch = engine.txn.epoch
  swap
  · rw [if_neg idle, if_neg status, if_pos epochs]; exact rfl
  by_cases counts : evaluatedCount = engine.txn.evaluatedCount
  swap
  · rw [if_neg idle, if_neg status, if_neg (not_not_intro epochs), if_pos counts]; exact rfl
  rw [if_neg idle, if_neg status, if_neg (not_not_intro epochs), if_neg (not_not_intro counts)]
  have active : engine.active = true := by simpa using idle
  cases stage with
  | stage0 =>
      by_cases twice : engine.stage0Ack = true
      · dsimp only; rw [if_pos twice]; exact rfl
      · dsimp only; rw [if_neg twice]
        exact ⟨active, epochs, counts, Or.inl ⟨rfl, rfl⟩⟩
  | stage1 =>
      by_cases twice : engine.stage1Ack = true
      · dsimp only; rw [if_pos twice]; exact rfl
      · dsimp only; rw [if_neg twice]
        exact ⟨active, epochs, counts, Or.inr ⟨rfl, rfl⟩⟩
  | unlisted value => exact rfl

theorem shorten_speculative_spec (evaluatedCount : Nat) :
    Ends (shortenSpeculative evaluatedCount)
      (fun _ after => engine.active = true ∧ engine.txn.status = .prepared ∧
        engine.txn.kind = .speculative ∧ engine.stage0Ack = false ∧ engine.stage1Ack = false ∧
        0 < evaluatedCount ∧ evaluatedCount < engine.txn.evaluatedCount ∧
        after = { engine with txn := { engine.txn with evaluatedCount := evaluatedCount } })
      (fun _ after => after = engine) engine := by
  unfold Ends shortenSpeculative
  by_cases idle : (!engine.active) = true
  · rw [if_pos idle]; exact rfl
  by_cases status : engine.txn.status = .prepared
  swap
  · rw [if_neg idle, if_pos status]; exact rfl
  by_cases kind : engine.txn.kind = .speculative
  swap
  · rw [if_neg idle, if_neg (not_not_intro status), if_pos kind]; exact rfl
  by_cases acked : engine.stage0Ack = true ∨ engine.stage1Ack = true
  · rw [if_neg idle, if_neg (not_not_intro status), if_neg (not_not_intro kind), if_pos acked]
    exact rfl
  by_cases extent : evaluatedCount = 0 ∨ evaluatedCount ≥ engine.txn.evaluatedCount
  · rw [if_neg idle, if_neg (not_not_intro status), if_neg (not_not_intro kind), if_neg acked,
      if_pos extent]
    exact rfl
  rw [if_neg idle, if_neg (not_not_intro status), if_neg (not_not_intro kind), if_neg acked,
    if_neg extent]
  simp only [not_or, Bool.not_eq_true] at acked
  exact ⟨by simpa using idle, status, kind, acked.1, acked.2, by omega, by omega, rfl⟩

theorem decide_spec (stateCommitCount : Nat) :
    Ends (decide stateCommitCount)
      (fun _ after => engine.active = true ∧ engine.txn.status = .prepared ∧
        ∃ publishCount, publishedBy engine.txn stateCommitCount = .ok publishCount ∧
          after = { engine with txn := { engine.txn with
            publishCount := publishCount, stateCommitCount := stateCommitCount
            status := .decided } })
      (fun _ after => after = engine) engine := by
  unfold Ends decide
  by_cases idle : (!engine.active) = true
  · rw [if_pos idle]; exact rfl
  by_cases status : engine.txn.status = .prepared
  swap
  · rw [if_neg idle, if_pos status]; exact rfl
  rw [if_neg idle, if_neg (not_not_intro status)]
  cases published : publishedBy engine.txn stateCommitCount with
  | error message => exact rfl
  | ok publishCount => exact ⟨by simpa using idle, status, publishCount, rfl, rfl⟩

theorem commit_spec :
    Ends commit
      (fun event after => engine.active = true ∧ engine.txn.status = .decided ∧
        engine.stage0Ack = true ∧ engine.stage1Ack = true ∧
        ∃ next, committedFrontiers engine = .ok next ∧ validateFrontiers next = none ∧
          event = { epoch := engine.txn.epoch, canonical := next.canonical, target := next.target
                    newlyPublished := engine.txn.publishCount, kind := engine.txn.kind } ∧
          after = { engine with
            txn := { engine.txn with status := .committed }, frontiers := next, active := false })
      (fun _ after => after = engine) engine := by
  unfold Ends commit
  by_cases idle : (!engine.active) = true
  · rw [if_pos idle]; exact rfl
  by_cases status : engine.txn.status = .decided
  swap
  · rw [if_neg idle, if_pos status]; exact rfl
  by_cases missing : (!engine.stage0Ack) = true ∨ (!engine.stage1Ack) = true
  · rw [if_neg idle, if_neg (not_not_intro status), if_pos missing]; exact rfl
  rw [if_neg idle, if_neg (not_not_intro status), if_neg missing]
  cases computed : committedFrontiers engine with
  | error message => exact rfl
  | ok next =>
    cases valid : validateFrontiers next with
    | some message => simp only [valid]; exact rfl
    | none =>
      simp only [valid]
      simp only [not_or, Bool.not_eq_true', Bool.not_eq_false] at missing
      exact ⟨by simpa using idle, status, missing.1, missing.2, next, rfl, valid, rfl, rfl⟩

/-- The canonical frontier a rollback returns to. -/
def restoredCanonical : Nat :=
  if engine.txn.kind = .appendKnown then engine.txn.baseCanonical else engine.frontiers.canonical

def rolledBack : SessionTxnEngine :=
  { engine with
    txn := { engine.txn with status := .rolledBack }
    frontiers := { engine.frontiers with
      canonical := restoredCanonical engine, epoch := engine.txn.epoch }
    active := false, stage0Ack := false, stage1Ack := false }

/-- `rollback` stores before it validates, so its refusal is clean only when
the frontiers it returns to are valid. -/
theorem rollback_spec
    (restorable : engine.active = true → validateFrontiers (rolledBack engine).frontiers = none) :
    Ends rollback
      (fun _ after => engine.active = true ∧ after = rolledBack engine)
      (fun _ after => after = engine ∧ engine.active = false) engine := by
  unfold Ends rollback
  by_cases idle : (!engine.active) = true
  · rw [if_pos idle]; exact ⟨rfl, by simpa using idle⟩
  have active : engine.active = true := by simpa using idle
  rw [if_neg idle]
  change Lands _ _ (match validateFrontiers (rolledBack engine).frontiers with
    | some message => (.error message, rolledBack engine)
    | none => (.ok (), rolledBack engine))
  rw [restorable active]
  exact ⟨active, rfl⟩

theorem reset_spec :
    Ends reset
      (fun _ after => engine.active = false ∧ after = { engine with
        frontiers := .fresh, txn := {}, stage0Ack := false, stage1Ack := false })
      (fun _ after => after = engine) engine := by
  unfold Ends reset
  by_cases busy : engine.active = true
  · rw [if_pos busy]; exact rfl
  · rw [if_neg busy]; exact ⟨Bool.eq_false_iff.mpr busy, rfl⟩

end Specs

end Q38.Transaction
