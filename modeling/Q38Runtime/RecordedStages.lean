import Q38Runtime.StageContracts

/-!
A recording stage behaves as the stage inside it and keeps the inputs of its execute
calls with their answers, up to a reset. It keeps the contract of the stage inside
it, and what it has kept last was answered behind the rows evaluated last.
-/
namespace Q38.RecordedStages
open Contracts Cancellation Backend Executor SessionModel StageContracts Imperative

abbrev ExecuteCall := StageInput × Except Thrown StageOutput

structure Recorded (σ : Type) where
  inner : σ
  calls : List ExecuteCall := []

section Recording
variable {σ σ₀ σ₁ α : Type}

def onInner (body : Proc Thrown σ α) : Proc Thrown (Recorded σ) α :=
  Proc.within (·.inner) (fun inner stage => { stage with inner := inner }) body

def recordExecute (backend : StageBackend σ) (input : StageInput) :
    Proc Thrown (Recorded σ) StageOutput := fun stage =>
  let outcome := backend.execute input stage.inner
  (outcome.1, ⟨outcome.2, stage.calls ++ [(input, outcome.1)]⟩)

def recording (backend : StageBackend σ) : StageBackend (Recorded σ) where
  stage := backend.stage
  prefetchTransaction txn tokenIds cancellation :=
    onInner (backend.prefetchTransaction txn tokenIds cancellation)
  execute := recordExecute backend
  draft pendingToken position maxDraft cancellation :=
    onInner (backend.draft pendingToken position maxDraft cancellation)
  draftRetained pendingToken position maxDraft transactionEpoch cancellation :=
    onInner (backend.draftRetained pendingToken position maxDraft transactionEpoch cancellation)
  checkpointSpeculativePrefix transactionEpoch prefixTokens :=
    onInner (backend.checkpointSpeculativePrefix transactionEpoch prefixTokens)
  reconcileRetainedDraft transactionEpoch targetRow :=
    onInner (backend.reconcileRetainedDraft transactionEpoch targetRow)
  commit epoch stateCommitCount := onInner (backend.commit epoch stateCommitCount)
  rollback epoch := onInner (backend.rollback epoch)
  resetSession := do
    onInner backend.resetSession
    Proc.write fun stage => { stage with calls := [] }

def recordingSetup (setup : Setup σ₀ σ₁) : Setup (Recorded σ₀) (Recorded σ₁) where
  options := setup.options
  select := setup.select
  stage0 := recording setup.stage0
  stage1 := recording setup.stage1
  weather := setup.weather

theorem ends_on_inner {body : Proc Thrown σ α} {stage : Recorded σ}
    {returns : α → Recorded σ → Prop} {throws : Thrown → Recorded σ → Prop} :
    Ends (onInner body) returns throws stage ↔
      Ends body (fun value after => returns value ⟨after, stage.calls⟩)
        (fun thrown after => throws thrown ⟨after, stage.calls⟩) stage.inner :=
  ends_within _ _ body

theorem ends_record_execute {backend : StageBackend σ} {input : StageInput} {stage : Recorded σ}
    {returns : StageOutput → Recorded σ → Prop} {throws : Thrown → Recorded σ → Prop} :
    Ends (recordExecute backend input) returns throws stage ↔
      Ends (backend.execute input)
        (fun out after => returns out ⟨after, stage.calls ++ [(input, .ok out)]⟩)
        (fun thrown after => throws thrown ⟨after, stage.calls ++ [(input, .error thrown)]⟩)
        stage.inner := by
  unfold Ends recordExecute
  rcases backend.execute input stage.inner with ⟨outcome, after⟩
  cases outcome <;> rfl

end Recording

section Contracts
variable {σ : Type} {backend : StageBackend σ} (contract : StageContract backend)

/-- No call is newer than an epoch. -/
def Dated (epoch : Nat) (calls : List ExecuteCall) : Prop :=
  ∀ call ∈ calls, call.1.txn.epoch ≤ epoch

/-- The last call, if it belongs to an epoch and is `due`, was answered behind rows
that satisfy `behind`. -/
def Remembers (epoch : Nat) (calls : List ExecuteCall) (due : StageInput → Prop)
    (behind : StageInput → List Token → List Token → Prop) : Prop :=
  ∀ input outcome, calls.getLast? = some (input, outcome) → input.txn.epoch = epoch →
    due input → ∃ out history rows, outcome = .ok out ∧ contract.output history rows input out ∧
      history.length = input.txn.baseTarget ∧ rows.length = input.chunkOffset ∧
      behind input history (rows ++ input.tokenIds)

/-- Something was committed behind the start of the transaction. -/
def Grown (history : List Token) (input : StageInput) : Prop :=
  input.txn.baseTarget < history.length

/-- The committed history begins what was evaluated for it. -/
def Committed (committed : List Token) (_ : StageInput) (history rows : List Token) : Prop :=
  committed <+: history ++ rows

/-- The evaluated rows are those of the open transaction. -/
def Evaluating (txn : SessionTxnV1) (history rows : List Token) (input : StageInput)
    (history' rows' : List Token) : Prop :=
  input.txn = txn ∧ history' = history ∧ rows' = rows

structure RecordedIdle (history : List Token) (epoch : Nat) (stage : Recorded σ) : Prop where
  idle : contract.idle history epoch stage.inner
  dated : Dated epoch stage.calls
  remembers : Remembers contract epoch stage.calls (Grown history) (Committed history)

structure RecordedReady (history : List Token) (txn : SessionTxnV1) (rows : List Token)
    (mark : Nat) (stage : Recorded σ) : Prop where
  ready : contract.ready history txn rows mark stage.inner
  base : txn.baseTarget = history.length
  dated : Dated txn.epoch stage.calls
  remembers : Remembers contract txn.epoch stage.calls (fun _ => True)
    (Evaluating txn history rows)

variable {contract} {history rows : List Token} {txn : SessionTxnV1} {mark : Nat}
variable {calls : List ExecuteCall} {epoch : Nat} {stage : Recorded σ}

section Remembering
variable {due : StageInput → Prop} {behind behind' : StageInput → List Token → List Token → Prop}

theorem Remembers.weaken (remembers : Remembers contract epoch calls (fun _ => True) behind)
    (implies : ∀ input history rows, behind input history rows → behind' input history rows) :
    Remembers contract epoch calls due behind' := by
  intro input outcome last same _
  obtain ⟨out, history, rows, answered, output, base, offset, holds⟩ :=
    remembers input outcome last same trivial
  exact ⟨out, history, rows, answered, output, base, offset, implies input _ _ holds⟩

theorem remembers_older {later : Nat} (dated : Dated epoch calls) (newer : epoch < later) :
    Remembers contract later calls due behind := by
  intro input outcome last same
  have older := dated (input, outcome) (List.mem_of_getLast? last)
  dsimp only at older
  omega

theorem remembers_undue {call : ExecuteCall} (undue : ¬ due call.1) :
    Remembers contract epoch (calls ++ [call]) due behind := by
  intro input outcome last _ expected
  rw [List.getLast?_concat, Option.some.injEq] at last
  rw [last] at undue
  exact (undue expected).elim

end Remembering

theorem dated_snoc {call : ExecuteCall} (dated : Dated epoch calls)
    (newest : call.1.txn.epoch = epoch) : Dated epoch (calls ++ [call]) := by
  intro other listed
  rcases List.mem_append.mp listed with before | same
  · exact dated other before
  · rw [List.mem_singleton.mp same, newest]

theorem restores_recorded (restores : Restores backend contract.calm contract.idle history epoch
      stage.inner) (dated : Dated epoch stage.calls)
    (remembers : Remembers contract epoch stage.calls (Grown history) (Committed history)) :
    Restores (recording backend) contract.calm (RecordedIdle contract) history epoch stage := by
  unfold Restores
  change Ends (onInner (backend.rollback epoch)) _ _ stage
  rw [ends_on_inner]
  exact restores.weaken (fun _ _ idle => ⟨idle, dated, remembers⟩) fun _ _ troubled => troubled

theorem evaluating_committed (input : StageInput) (earlier rows' : List Token)
    (holds : Evaluating txn history rows input earlier rows') :
    Committed history input earlier rows' := by
  obtain ⟨-, same, -⟩ := holds
  rw [Committed, same]
  exact List.prefix_append history rows'

theorem RecordedReady.restores (ready : RecordedReady contract history txn rows mark stage) :
    Restores (recording backend) contract.calm (RecordedIdle contract) history txn.epoch stage :=
  restores_recorded (contract.restores ready.ready) ready.dated
    (ready.remembers.weaken evaluating_committed)

/-- A call that is not recorded. -/
theorem RecordedReady.restores_inner {α : Type} {body : Proc Thrown σ α} {quiet : Prop}
    {returns : α → σ → Prop} (ready : RecordedReady contract history txn rows mark stage)
    (inner : Ends body returns (fun _ after => ¬ (contract.calm ∧ quiet) ∧
      Restores backend contract.calm contract.idle history txn.epoch after) stage.inner) :
    Ends (onInner body) (fun value after => returns value after.inner ∧ after.calls = stage.calls)
      (fun _ after => ¬ (contract.calm ∧ quiet) ∧
        Restores (recording backend) contract.calm (RecordedIdle contract) history txn.epoch after)
      stage := by
  rw [ends_on_inner]
  exact inner.weaken (fun _ _ lands => ⟨lands, rfl⟩) fun _ _ ⟨troubled, restores⟩ =>
    ⟨troubled, restores_recorded restores ready.dated (ready.remembers.weaken evaluating_committed)⟩

/-- The same for a call that polls nothing. -/
theorem RecordedReady.restores_unpolled {α : Type} {body : Proc Thrown σ α}
    {returns : α → σ → Prop} (ready : RecordedReady contract history txn rows mark stage)
    (inner : Ends body returns (fun _ after => ¬ contract.calm ∧
      Restores backend contract.calm contract.idle history txn.epoch after) stage.inner) :
    Ends (onInner body) (fun value after => returns value after.inner ∧ after.calls = stage.calls)
      (fun _ after => ¬ contract.calm ∧
        Restores (recording backend) contract.calm (RecordedIdle contract) history txn.epoch after)
      stage := by
  have polled : Ends body returns (fun _ after => ¬ (contract.calm ∧ True) ∧
      Restores backend contract.calm contract.idle history txn.epoch after) stage.inner :=
    inner.weaken (fun _ _ lands => lands) fun _ _ threw => ⟨fun calm => threw.1 calm.1, threw.2⟩
  exact (ready.restores_inner polled).weaken (fun _ _ lands => lands)
    fun _ _ threw => ⟨fun calm => threw.1 ⟨calm, trivial⟩, threw.2⟩

theorem recorded_execute {input : StageInput}
    (ready : RecordedReady contract history txn rows mark stage) (extended : Extends txn rows input)
    (admitted : contract.admits history rows input) :
    Ends (recordExecute backend input)
      (fun out after => RecordedReady contract history txn (rows ++ input.tokenIds) mark after ∧
        contract.output history rows input out)
      (fun _ after => ¬ (contract.calm ∧ Quiet input.cancellation) ∧
        Restores (recording backend) contract.calm (RecordedIdle contract) history txn.epoch after)
      stage := by
  have owner := extended.owner
  rw [ends_record_execute]
  apply (contract.execute ready.ready extended admitted).weaken
  · rintro out after ⟨readied, output⟩
    refine ⟨⟨readied, ready.base, dated_snoc ready.dated (by rw [owner]), ?_⟩, output⟩
    intro other outcome last _ _
    rw [List.getLast?_concat, Option.some.injEq] at last
    cases last
    exact ⟨out, history, rows, rfl, output, by rw [owner, ready.base], extended.offset.symm,
      owner, rfl, rfl⟩
  · rintro thrown after ⟨troubled, restores⟩
    have ungrown : ¬ Grown history input := by
      rw [Grown, owner, ready.base]
      exact lt_irrefl _
    exact ⟨troubled, restores_recorded restores (dated_snoc ready.dated (by rw [owner]))
      (remembers_undue ungrown)⟩

theorem recorded_commit {count : Nat}
    (ready : RecordedReady contract history txn rows mark stage) (positive : 0 < count)
    (within : count ≤ rows.length) :
    Ends (onInner (backend.commit txn.epoch count))
      (fun _ after => RecordedIdle contract (history ++ rows.take count) txn.epoch after)
      (fun _ _ => ¬ (contract.calm ∧ contract.committable txn rows.length mark count)) stage := by
  rw [ends_on_inner]
  apply (contract.commit ready.ready positive within).weaken (fun _ _ idle => ?_)
    (fun _ _ troubled => troubled)
  refine ⟨idle, ready.dated, ready.remembers.weaken ?_⟩
  rintro input _ _ ⟨-, same, all⟩
  rw [Committed, same, all]
  exact (List.prefix_append_right_inj history).mpr (List.take_prefix count rows)

theorem recorded_resets (idle : RecordedIdle contract history epoch stage) :
    Ends (recording backend).resetSession (fun _ after => RecordedIdle contract [] 0 after)
      (fun _ _ => ¬ contract.calm) stage := by
  change Ends (do
    onInner backend.resetSession
    Proc.write fun stage => { stage with calls := [] }) _ _ stage
  rw [ends_bind, ends_on_inner]
  apply (contract.resets idle.idle).weaken (fun _ _ fresh => ?_) (fun _ _ troubled => troubled)
  rw [ends_write]
  exact ⟨fresh, List.forall_mem_nil _, fun _ _ last => by cases last⟩

theorem RecordedReady.moved {mark' : Nat} {after : Recorded σ}
    (ready : RecordedReady contract history txn rows mark stage)
    (readied : contract.ready history txn rows mark' after.inner)
    (same : after.calls = stage.calls) : RecordedReady contract history txn rows mark' after :=
  ⟨readied, ready.base, same ▸ ready.dated, same ▸ ready.remembers⟩

variable (contract)

def recordedStage : StageContract (recording backend) where
  calm := contract.calm
  idle := RecordedIdle contract
  ready := RecordedReady contract
  admits := contract.admits
  output := contract.output
  committable := contract.committable
  opens idle begins := ⟨contract.opens idle.idle begins, begins.base,
    fun call listed => (idle.dated call listed).trans begins.later.le,
    remembers_older idle.dated begins.later⟩
  restores := RecordedReady.restores
  execute := recorded_execute
  commit := recorded_commit
  resets := recorded_resets

def recordedFront (contract : FrontContract backend) : FrontContract (recording backend) where
  toStageContract := recordedStage contract.toStageContract
  anyInput := contract.anyInput
  prefetch tokens polls ready :=
    (ready.restores_inner (contract.prefetch tokens polls ready.ready)).weaken
      (fun _ _ ⟨readied, same⟩ => ready.moved readied same) fun _ _ threw => threw
  checkpoint ready kind some_ :=
    (ready.restores_unpolled (contract.checkpoint ready.ready kind some_)).weaken
      (fun _ _ ⟨readied, same⟩ => ready.moved readied same) fun _ _ threw => threw

def recordedBack {model : StageModel} (contract : BackContract model backend) :
    BackContract model (recording backend) where
  toStageContract := recordedStage contract.toStageContract
  calmExact := contract.calmExact
  answers := contract.answers
  verdict := contract.verdict
  scored := contract.scored
  draft pending position width polls ready some_ :=
    (ready.restores_inner (contract.draft pending position width polls ready.ready some_)).weaken
      (fun _ _ ⟨⟨readied, drafted⟩, same⟩ => ⟨ready.moved readied same, drafted⟩)
      fun _ _ threw => threw
  reconcile row ready :=
    (ready.restores_unpolled (contract.reconcile row ready.ready)).weaken
      (fun _ _ ⟨readied, same⟩ => ready.moved readied same) fun _ _ threw => threw

end Contracts

section Pair
variable {σ₀ σ₁ : Type} {model : StageModel} {setup : Setup σ₀ σ₁}

def recordedPair (contract : PairContract model setup) :
    PairContract model (recordingSetup setup) where
  front := recordedFront contract.front
  back := recordedBack contract.back
  fitting := contract.fitting
  framed := contract.framed
  link := contract.link

end Pair

end Q38.RecordedStages
