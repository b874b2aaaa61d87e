import Q38Runtime.Transaction

/-! Safety of `SessionTxnEngine` under arbitrary call sequences. A `History`
records what a caller can note from calls and answers alone: the frontiers
before the open transaction, its extent, the acknowledged counts, the decision
and the epochs handed out since the last reset. The engine never contradicts
that record. -/
namespace Q38.TransactionSafety
open Contracts Transaction Imperative

/-- The public operations with the argument types of the header. The
two-argument `prepare_append_known(count)` is the case `count count`. -/
inductive Call where
  | appendKnown (count : UInt32)
  | prepareAppendKnown (appendedCount evaluatedCount : UInt32)
  | seedDecodePending
  | prepare (kind : TxnKind) (evaluatedCount : UInt32)
  | shortenSpeculative (evaluatedCount : UInt32)
  | acknowledge (stage : Stage) (epoch : UInt64) (evaluatedCount : UInt32)
  | decide (stateCommitCount : UInt32)
  | commit
  | rollback
  | reset
  deriving DecidableEq

def perform : Call → EngineCall Unit
  | .appendKnown count => appendKnown count.toNat
  | .prepareAppendKnown appendedCount evaluatedCount =>
      prepareAppendKnown appendedCount.toNat evaluatedCount.toNat
  | .seedDecodePending => seedDecodePending
  | .prepare kind evaluatedCount => prepare kind evaluatedCount.toNat
  | .shortenSpeculative evaluatedCount => shortenSpeculative evaluatedCount.toNat
  | .acknowledge stage epoch evaluatedCount =>
      acknowledge stage epoch.toNat evaluatedCount.toNat
  | .decide stateCommitCount => Transaction.decide stateCommitCount.toNat
  | .commit => commit >>= fun _ => pure ()
  | .rollback => rollback
  | .reset => reset

structure History where
  opened : Option (SessionFrontiersV1 Nat) := none
  extent : Option Nat := none
  acked0 : Option Nat := none
  acked1 : Option Nat := none
  decided : Option Nat := none
  epochs : List Nat := []

/-- Note an accepted call. -/
def History.note (history : History) (before after : SessionTxnEngine) : Call → History
  | .prepare _ evaluatedCount | .prepareAppendKnown _ evaluatedCount =>
      { opened := some before.frontiers
        extent := some evaluatedCount.toNat
        epochs := after.txn.epoch :: history.epochs }
  | .shortenSpeculative evaluatedCount => { history with extent := some evaluatedCount.toNat }
  | .acknowledge .stage0 _ evaluatedCount => { history with acked0 := some evaluatedCount.toNat }
  | .acknowledge .stage1 _ evaluatedCount => { history with acked1 := some evaluatedCount.toNat }
  | .decide stateCommitCount => { history with decided := some stateCommitCount.toNat }
  | .commit | .rollback => { epochs := history.epochs }
  | .reset => {}
  | _ => history

structure Session where
  engine : SessionTxnEngine
  history : History := {}

def start (sessionHash : UInt64) : Session := { engine := { sessionHash := sessionHash } }

def step (session : Session) (call : Call) : Session :=
  match perform call session.engine with
  | (.ok (), after) => ⟨after, session.history.note session.engine after call⟩
  | (.error _, after) => ⟨after, session.history⟩

def run (session : Session) (calls : List Call) : Session := calls.foldl step session

/-- What the engine and the record agree on while a transaction is open. -/
structure Opened (engine : SessionTxnEngine) (history : History) : Prop where
  epoch : engine.txn.epoch = engine.frontiers.epoch + 1
  epochFits : engine.txn.epoch ≤ maxUInt64
  publishFits : engine.txn.publishCount ≤ maxUInt64
  opened : history.opened =
    some { engine.frontiers with canonical := restoredCanonical engine }
  restorable : validateFrontiers
    { engine.frontiers with canonical := restoredCanonical engine } = none
  restoredFits : restoredCanonical engine ≤ maxUInt64
  extent : history.extent = some engine.txn.evaluatedCount
  acked0 : engine.stage0Ack = true → history.acked0 = some engine.txn.evaluatedCount
  acked1 : engine.stage1Ack = true → history.acked1 = some engine.txn.evaluatedCount
  decided : engine.txn.status = .decided → history.decided = some engine.txn.stateCommitCount

/-- The newest epoch handed out, or the last one finished. -/
def newestEpoch (engine : SessionTxnEngine) : Nat :=
  if engine.active then engine.txn.epoch else engine.frontiers.epoch

structure Coherent (session : Session) : Prop where
  valid : validateFrontiers session.engine.frontiers = none
  epochFits : session.engine.frontiers.epoch ≤ maxUInt64
  canonicalFits : session.engine.frontiers.canonical ≤ maxUInt64
  handed : ∀ epoch ∈ session.history.epochs, epoch ≤ newestEpoch session.engine
  distinct : session.history.epochs.Nodup
  opened : session.engine.active = true → Opened session.engine session.history

theorem start_coherent (sessionHash : UInt64) : Coherent (start sessionHash) where
  valid := rfl
  epochFits := Nat.zero_le _
  canonicalFits := Nat.zero_le _
  handed := by simp [start]
  distinct := by simp [start]
  opened := by simp [start]

/-- The guards leave a rollback nothing to refuse but a missing transaction. -/
theorem Coherent.restorable {session : Session} (coherent : Coherent session)
    (active : session.engine.active = true) :
    validateFrontiers (rolledBack session.engine).frontiers = none := by
  have valid := (validate_frontiers_iff _).mp (coherent.opened active).restorable
  exact (validate_frontiers_iff _).mpr valid

/-- A refused call leaves the whole engine as it was. -/
theorem refusal_clean {session : Session} (coherent : Coherent session) (call : Call) :
    Ends (perform call) (fun _ _ => True) (fun _ after => after = session.engine)
      session.engine := by
  have settled : ∀ {call : EngineCall Unit} {returns : Unit → SessionTxnEngine → Prop},
      Ends call returns (fun _ after => after = session.engine) session.engine →
      Ends call (fun _ _ => True) (fun _ after => after = session.engine) session.engine :=
    fun ended => ended.weaken (fun _ _ _ => trivial) (fun _ _ same => same)
  cases call with
  | appendKnown count => exact settled (append_known_spec _ _)
  | prepareAppendKnown appended evaluated =>
      exact (prepare_append_known_spec _ _ _).weaken (fun _ _ _ => trivial)
        (fun _ _ refused => refused.1)
  | seedDecodePending => exact settled (seed_decode_pending_spec _)
  | prepare kind evaluated =>
      exact (prepare_spec _ _ _).weaken (fun _ _ _ => trivial) (fun _ _ refused => refused.1)
  | shortenSpeculative evaluated => exact settled (shorten_speculative_spec _ _)
  | acknowledge stage epoch evaluated => exact settled (acknowledge_spec _ _ _ _)
  | decide count => exact settled (decide_spec _ _)
  | commit =>
      have committed := (commit_spec session.engine).weaken
        (fun _ _ (_ : _) => trivial) (fun _ _ same => same)
      exact committed.chain (fun _ _ _ => trivial)
  | rollback =>
      exact (rollback_spec _ coherent.restorable).weaken (fun _ _ _ => trivial)
        (fun _ _ refused => refused.1)
  | reset => exact settled (reset_spec _)

theorem published_fits {txn : SessionTxnV1} {stateCommitCount publishCount : Nat}
    (small : stateCommitCount ≤ maxUInt64) (kept : txn.publishCount ≤ maxUInt64)
    (published : publishedBy txn stateCommitCount = .ok publishCount) :
    publishCount ≤ maxUInt64 := by
  unfold publishedBy at published
  split at published <;> (try split at published) <;> cases published
  all_goals first | assumption | simp [maxUInt64]

theorem committed_frontiers_eq {engine : SessionTxnEngine} {next : SessionFrontiersV1 Nat}
    (computed : committedFrontiers engine = .ok next) :
    next.target = engine.frontiers.target + engine.txn.stateCommitCount ∧
      next.epoch = engine.txn.epoch ∧
      (next.canonical = engine.frontiers.canonical ∨
        next.canonical ≤ maxUInt64 + (engine.txn.publishCount - maxUInt64)) := by
  unfold committedFrontiers at computed
  cases target : addChecked engine.frontiers.target engine.txn.stateCommitCount with
  | none => simp [target] at computed
  | some sum =>
    have sumEq := (add_checked_eq target).1
    subst sumEq
    simp only [target] at computed
    split at computed
    · cases canonical : addChecked engine.frontiers.canonical engine.txn.publishCount with
      | none => simp [canonical] at computed
      | some grown =>
        have grownEq := add_checked_eq canonical
        simp only [canonical, Except.ok.injEq] at computed
        subst computed
        exact ⟨rfl, rfl, Or.inr (by simp only; omega)⟩
    · split at computed <;> cases computed <;> exact ⟨rfl, rfl, Or.inl rfl⟩

section Accepted
variable {session : Session} (coherent : Coherent session)
include coherent

theorem grown_coherent (idle : session.engine.active = false) (count : Nat)
    (fits : session.engine.frontiers.canonical + count ≤ maxUInt64) :
    Coherent ⟨grown session.engine count, session.history⟩ := by
  obtain ⟨zero, one, target, draft⟩ := (validate_frontiers_iff _).mp coherent.valid
  have handed := coherent.handed
  simp only [newestEpoch, idle, Bool.false_eq_true, ↓reduceIte] at handed
  exact {
    valid := (validate_frontiers_iff _).mpr
      ⟨zero, one, by simp only [grown]; omega, by simp only [grown]; omega⟩
    epochFits := coherent.epochFits
    canonicalFits := fits
    handed := by simpa only [newestEpoch, grown, idle, Bool.false_eq_true, ↓reduceIte] using handed
    distinct := coherent.distinct
    opened := fun active => absurd (idle ▸ active : false = true) Bool.false_ne_true }

/-- A new transaction takes an epoch above all those handed out before. -/
theorem epochs_extended (idle : session.engine.active = false) (after : SessionTxnEngine)
    (active : after.active = true)
    (fresh : after.txn.epoch = session.engine.frontiers.epoch + 1) :
    (∀ epoch ∈ after.txn.epoch :: session.history.epochs, epoch ≤ newestEpoch after) ∧
      (after.txn.epoch :: session.history.epochs).Nodup := by
  have older : ∀ epoch ∈ session.history.epochs, epoch ≤ session.engine.frontiers.epoch := by
    simpa only [newestEpoch, idle, Bool.false_eq_true, ↓reduceIte] using coherent.handed
  constructor
  · intro epoch member
    rw [newestEpoch, if_pos active]
    rcases List.mem_cons.mp member with same | old
    · exact le_of_eq same
    · exact le_trans (older epoch old) (by omega)
  · refine List.nodup_cons.mpr ⟨fun member => ?_, coherent.distinct⟩
    have := older _ member
    omega

theorem prepared_coherent {kind : TxnKind} {evaluatedCount : UInt32}
    (guards : Preparable session.engine kind evaluatedCount.toNat) :
    Coherent ⟨opened session.engine kind evaluatedCount.toNat,
      session.history.note session.engine (opened session.engine kind evaluatedCount.toNat)
        (.prepare kind evaluatedCount)⟩ := by
  have below : session.engine.frontiers.epoch < maxUInt64 :=
    lt_of_le_of_ne coherent.epochFits guards.epoch
  have restored : restoredCanonical (opened session.engine kind evaluatedCount.toNat) =
      session.engine.frontiers.canonical := by
    unfold restoredCanonical
    split <;> rfl
  obtain ⟨handed, distinct⟩ := epochs_extended coherent guards.idle
    (opened session.engine kind evaluatedCount.toNat) rfl rfl
  refine ⟨coherent.valid, coherent.epochFits, coherent.canonicalFits, handed, distinct,
    fun _ => ?_⟩
  exact {
    epoch := rfl
    epochFits := below
    publishFits := Nat.zero_le _
    opened := by rw [restored]; rfl
    restorable := by rw [restored]; exact coherent.valid
    restoredFits := by rw [restored]; exact coherent.canonicalFits
    extent := rfl
    acked0 := nofun
    acked1 := nofun
    decided := nofun }

theorem append_prepared_coherent {appendedCount evaluatedCount : UInt32}
    (guards : Appendable session.engine appendedCount.toNat evaluatedCount.toNat) :
    Coherent ⟨openedAppend session.engine appendedCount.toNat evaluatedCount.toNat,
      session.history.note session.engine
        (openedAppend session.engine appendedCount.toNat evaluatedCount.toNat)
        (.prepareAppendKnown appendedCount evaluatedCount)⟩ := by
  have below : session.engine.frontiers.epoch < maxUInt64 :=
    lt_of_le_of_ne coherent.epochFits guards.epoch
  have fits := (add_checked_eq guards.fits).2
  have small := appendedCount.toNat_lt
  have grownFits : session.engine.frontiers.canonical + appendedCount.toNat ≤ maxUInt64 := by
    simp only [maxUInt64] at *
    omega
  have grownCoherent := grown_coherent coherent guards.idle appendedCount.toNat grownFits
  obtain ⟨handed, distinct⟩ := epochs_extended coherent guards.idle
    (openedAppend session.engine appendedCount.toNat evaluatedCount.toNat) rfl rfl
  refine ⟨grownCoherent.valid, coherent.epochFits, grownFits, handed, distinct, fun _ => ?_⟩
  exact {
    epoch := rfl
    epochFits := below
    publishFits := Nat.zero_le _
    opened := rfl
    restorable := coherent.valid
    restoredFits := coherent.canonicalFits
    extent := rfl
    acked0 := nofun
    acked1 := nofun
    decided := nofun }

theorem acknowledged_coherent {stage : Stage} {epoch : UInt64} {evaluatedCount : UInt32}
    {after : SessionTxnEngine} (active : session.engine.active = true)
    (counted : evaluatedCount.toNat = session.engine.txn.evaluatedCount)
    (stored : (stage = .stage0 ∧ after = { session.engine with stage0Ack := true }) ∨
      (stage = .stage1 ∧ after = { session.engine with stage1Ack := true })) :
    Coherent ⟨after,
      session.history.note session.engine after (.acknowledge stage epoch evaluatedCount)⟩ := by
  have held := coherent.opened active
  rcases stored with ⟨rfl, rfl⟩ | ⟨rfl, rfl⟩
  · refine ⟨coherent.valid, coherent.epochFits, coherent.canonicalFits, coherent.handed,
      coherent.distinct, fun _ => { held with acked0 := ?_ }⟩
    exact fun _ => congrArg some counted
  · refine ⟨coherent.valid, coherent.epochFits, coherent.canonicalFits, coherent.handed,
      coherent.distinct, fun _ => { held with acked1 := ?_ }⟩
    exact fun _ => congrArg some counted

/-- Shortening comes before any acknowledgement, so no count goes stale. -/
theorem shortened_coherent {evaluatedCount : UInt32} (active : session.engine.active = true)
    (unacked0 : session.engine.stage0Ack = false) (unacked1 : session.engine.stage1Ack = false)
    (after : SessionTxnEngine)
    (stored : after = { session.engine with
      txn := { session.engine.txn with evaluatedCount := evaluatedCount.toNat } }) :
    Coherent ⟨after,
      session.history.note session.engine after (.shortenSpeculative evaluatedCount)⟩ := by
  have held := coherent.opened active
  subst stored
  refine ⟨coherent.valid, coherent.epochFits, coherent.canonicalFits, coherent.handed,
    coherent.distinct, fun _ => ?_⟩
  exact { held with
    extent := rfl
    acked0 := fun acked => absurd (unacked0.symm.trans acked) Bool.false_ne_true
    acked1 := fun acked => absurd (unacked1.symm.trans acked) Bool.false_ne_true }

theorem decided_coherent {stateCommitCount : UInt32} (active : session.engine.active = true)
    {publishCount : Nat}
    (published : publishedBy session.engine.txn stateCommitCount.toNat = .ok publishCount)
    (after : SessionTxnEngine)
    (stored : after = { session.engine with txn := { session.engine.txn with
      publishCount := publishCount, stateCommitCount := stateCommitCount.toNat
      status := .decided } }) :
    Coherent ⟨after, session.history.note session.engine after (.decide stateCommitCount)⟩ := by
  have held := coherent.opened active
  have small : stateCommitCount.toNat ≤ maxUInt64 := by
    have := stateCommitCount.toNat_lt
    simp only [maxUInt64]
    omega
  subst stored
  refine ⟨coherent.valid, coherent.epochFits, coherent.canonicalFits, coherent.handed,
    coherent.distinct, fun _ => ?_⟩
  exact { held with
    publishFits := published_fits small held.publishFits published
    decided := fun _ => rfl }

/-- Finishing a transaction keeps the epoch it was handed as the newest one. -/
theorem finished_coherent (active : session.engine.active = true) (call : Call)
    (finishing : call = .commit ∨ call = .rollback) {after : SessionTxnEngine}
    (idle : after.active = false) (epoch : after.frontiers.epoch = session.engine.txn.epoch)
    (valid : validateFrontiers after.frontiers = none)
    (fits : after.frontiers.canonical ≤ maxUInt64) :
    Coherent ⟨after, session.history.note session.engine after call⟩ := by
  have kept : session.history.note session.engine after call = { epochs := session.history.epochs } := by
    rcases finishing with rfl | rfl <;> rfl
  rw [kept]
  refine ⟨valid, ?_, fits, ?_, coherent.distinct, ?_⟩
  · simp only
    rw [epoch]
    exact (coherent.opened active).epochFits
  · have handed := coherent.handed
    simp only [newestEpoch, active, ↓reduceIte] at handed
    simpa only [newestEpoch, idle, Bool.false_eq_true, ↓reduceIte, epoch] using handed
  · exact fun open_ => absurd (idle.symm.trans open_) Bool.false_ne_true

theorem committed_coherent :
    Ends commit (fun _ after => Coherent
      ⟨after, session.history.note session.engine after .commit⟩)
      (fun _ after => after = session.engine) session.engine := by
  refine (commit_spec session.engine).weaken (fun event after committed => ?_) (fun _ _ same => same)
  obtain ⟨active, _, _, _, next, computed, valid, _, rfl⟩ := committed
  obtain ⟨_, epoch, canonical⟩ := committed_frontiers_eq computed
  have publishFits := (coherent.opened active).publishFits
  have canonicalFits := coherent.canonicalFits
  exact finished_coherent coherent active .commit (Or.inl rfl) rfl epoch valid
    (by simp only; omega)

theorem rolled_back_coherent :
    Ends rollback (fun _ after => Coherent
      ⟨after, session.history.note session.engine after .rollback⟩)
      (fun _ after => after = session.engine) session.engine := by
  refine (rollback_spec _ coherent.restorable).weaken (fun _ after done => ?_)
    (fun _ _ refused => refused.1)
  obtain ⟨active, rfl⟩ := done
  exact finished_coherent coherent active .rollback (Or.inr rfl) rfl rfl
    (coherent.restorable active) (coherent.opened active).restoredFits

end Accepted

/-- One call, accepted or refused, keeps the engine and the record coherent. -/
theorem step_coherent {session : Session} (coherent : Coherent session) (call : Call) :
    Coherent (step session call) := by
  have settled : Ends (perform call)
      (fun _ after => Coherent ⟨after, session.history.note session.engine after call⟩)
      (fun _ after => after = session.engine) session.engine := by
    cases call with
    | appendKnown count =>
        refine (append_known_spec _ _).weaken ?_ (fun _ _ same => same)
        rintro _ _ ⟨idle, _, added, rfl⟩
        have small := count.toNat_lt
        have fits := (add_checked_eq added).2
        exact grown_coherent coherent idle _ (by simp only [maxUInt64] at *; omega)
    | prepareAppendKnown appended evaluated =>
        refine (prepare_append_known_spec _ _ _).weaken ?_ (fun _ _ refused => refused.1)
        rintro _ _ ⟨guards, rfl⟩
        exact append_prepared_coherent coherent guards
    | seedDecodePending =>
        refine (seed_decode_pending_spec _).weaken ?_ (fun _ _ same => same)
        rintro _ _ ⟨idle, _, added, rfl⟩
        have fits := (add_checked_eq added).2
        exact grown_coherent coherent idle _ (by simp only [maxUInt64] at *; omega)
    | prepare kind evaluated =>
        refine (prepare_spec _ _ _).weaken ?_ (fun _ _ refused => refused.1)
        rintro _ _ ⟨guards, rfl⟩
        exact prepared_coherent coherent guards
    | shortenSpeculative evaluated =>
        refine (shorten_speculative_spec _ _).weaken ?_ (fun _ _ same => same)
        rintro _ after ⟨active, _, _, unacked0, unacked1, _, _, stored⟩
        exact shortened_coherent coherent active unacked0 unacked1 after stored
    | acknowledge stage epoch evaluated =>
        refine (acknowledge_spec _ _ _ _).weaken ?_ (fun _ _ same => same)
        rintro _ after ⟨active, _, counted, stored⟩
        exact acknowledged_coherent coherent active counted stored
    | decide count =>
        refine (decide_spec _ _).weaken ?_ (fun _ _ same => same)
        rintro _ after ⟨active, _, publishCount, published, stored⟩
        exact decided_coherent coherent active published after stored
    | commit =>
        exact Ends.chain (committed_coherent coherent) fun _ _ committed => committed
    | rollback => exact rolled_back_coherent coherent
    | reset =>
        refine (reset_spec _).weaken ?_ (fun _ _ same => same)
        rintro _ _ ⟨idle, rfl⟩
        exact ⟨rfl, Nat.zero_le _, Nat.zero_le _, nofun, List.nodup_nil,
          fun active => absurd (idle.symm.trans active) Bool.false_ne_true⟩
  unfold Ends at settled
  unfold step
  generalize perform call session.engine = outcome at settled ⊢
  obtain ⟨answer, after⟩ := outcome
  cases answer with
  | ok _ => exact settled
  | error message =>
      have same : after = session.engine := settled
      subst same
      exact coherent

theorem run_coherent {session : Session} (coherent : Coherent session) (calls : List Call) :
    Coherent (run session calls) := by
  induction calls generalizing session with
  | nil => exact coherent
  | cons call rest ih => exact ih (step_coherent coherent call)

/-- A successful commit found both stages acknowledged at the final extent and
a decision, and advances the target by that decision. -/
theorem commit_follows {session : Session} (coherent : Coherent session) :
    Ends (perform .commit)
      (fun _ after => ∃ count decided,
        session.history.extent = some count ∧ session.history.acked0 = some count ∧
        session.history.acked1 = some count ∧ session.history.decided = some decided ∧
        after.frontiers.target = session.engine.frontiers.target + decided ∧
        after.frontiers.epoch = session.engine.frontiers.epoch + 1)
      (fun _ after => after = session.engine) session.engine := by
  refine Ends.chain (commit_spec session.engine) fun event after committed => ?_
  obtain ⟨active, status, acked0, acked1, next, computed, _, _, rfl⟩ := committed
  have held := coherent.opened active
  obtain ⟨target, epoch, _⟩ := committed_frontiers_eq computed
  exact ⟨_, _, held.extent, held.acked0 acked0, held.acked1 acked1, held.decided status, target,
    epoch.trans held.epoch⟩

/-- A rollback returns to the frontiers recorded before the transaction. -/
theorem rollback_follows {session : Session} (coherent : Coherent session) :
    Ends rollback
      (fun _ after => ∃ before, session.history.opened = some before ∧
        after.frontiers.canonical = before.canonical ∧
        after.frontiers.target = before.target ∧
        after.frontiers.epoch = session.engine.frontiers.epoch + 1)
      (fun _ after => after = session.engine) session.engine := by
  refine (rollback_spec _ coherent.restorable).weaken (fun _ after done => ?_)
    (fun _ _ refused => refused.1)
  obtain ⟨active, rfl⟩ := done
  have held := coherent.opened active
  exact ⟨_, held.opened, rfl, rfl, held.epoch⟩

/-- Safety over every call sequence, at every point of it and for every next
call: the frontiers are valid and fit their words; a refusal changes nothing;
commit and rollback advance the epoch by one and prepared epochs never repeat;
a commit rests on both acknowledgements and a decision; a rollback returns to
the frontiers before its prepare. -/
theorem session_txn_engine_safe (sessionHash : UInt64) (calls : List Call) (call : Call) :
    let session := run (start sessionHash) calls
    let outcome := perform call session.engine
    (validateFrontiers session.engine.frontiers = none ∧
      session.engine.frontiers.canonical ≤ maxUInt64 ∧
      session.engine.frontiers.epoch ≤ maxUInt64) ∧
    (∀ message, outcome.1 = .error message → outcome.2 = session.engine) ∧
    (outcome.1 = .ok () → call = .commit ∨ call = .rollback →
      outcome.2.frontiers.epoch = session.engine.frontiers.epoch + 1) ∧
    session.history.epochs.Nodup ∧
    (outcome.1 = .ok () → call = .commit → ∃ count decided,
      session.history.extent = some count ∧ session.history.acked0 = some count ∧
      session.history.acked1 = some count ∧ session.history.decided = some decided ∧
      outcome.2.frontiers.target = session.engine.frontiers.target + decided) ∧
    (outcome.1 = .ok () → call = .rollback → ∃ before,
      session.history.opened = some before ∧
      outcome.2.frontiers.canonical = before.canonical ∧
      outcome.2.frontiers.target = before.target) := by
  intro session outcome
  have coherent : Coherent session := run_coherent (start_coherent sessionHash) calls
  refine ⟨⟨coherent.valid, coherent.canonicalFits, coherent.epochFits⟩, ?_, ?_,
    coherent.distinct, ?_, ?_⟩
  · intro message refused
    exact (refusal_clean coherent call).threw refused
  · intro accepted finishing
    rcases finishing with rfl | rfl
    · obtain ⟨_, _, _, _, _, _, _, epoch⟩ := (commit_follows coherent).returned accepted
      exact epoch
    · obtain ⟨_, _, _, _, epoch⟩ := (rollback_follows coherent).returned accepted
      exact epoch
  · rintro accepted rfl
    obtain ⟨count, decided, extent, acked0, acked1, decision, target, _⟩ :=
      (commit_follows coherent).returned accepted
    exact ⟨count, decided, extent, acked0, acked1, decision, target⟩
  · rintro accepted rfl
    obtain ⟨before, opened, canonical, target, _⟩ := (rollback_follows coherent).returned accepted
    exact ⟨before, opened, canonical, target⟩

end Q38.TransactionSafety
