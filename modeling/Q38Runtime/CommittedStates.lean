import Q38Runtime.CudaHistory

/-! What a stage keeps, and what it has of an open transaction. The committed banks, extents and
hash stand for the committed rows; the working banks stand for these and the rows evaluated
since. Every call keeps the first, also when it throws. -/
namespace Q38.CommittedStates
open Contracts Imperative PleHash QsaSelection SpeculativeRows StateBanks PooledRows
  LayerSweeps CudaBackend CudaRows CudaTiles CudaChunks CudaTransactions CudaHistory
open PleReadAhead (hashesAfter)

variable {v : Values} (kernels : Kernels v) (options : CudaOptions) (zeros : Zeros v)

section Invariants

/-- The banks behind some committed rows. -/
structure Lasting (memory : Memory v) (fed : List (Fed v)) : Prop where
  extent : memory.qsaState.committed = fed.length
  capacity : memory.qsaState.capacity = options.contextCapacity
  gdn : memory.gdnState.current = (statesBehind kernels options zeros fed).gdn
  ple : options.stage = .stage0 →
    memory.pleState.current = (statesBehind kernels options zeros fed).ple
  rows : ∀ layer ∈ stageLayers options.stage, layer.qsa = true →
    Keeps kQ38QsaBlockTokens (kernels.pool layer.global) (memory.qsaState.cells layer.stateLocal)
      ((statesBehind kernels options zeros fed).rows layer.stateLocal)

/-- What a stage keeps of the committed rows, whatever becomes of a transaction. -/
structure Stands (stage : CudaStageBackend v) (fed : List (Fed v)) : Prop where
  frontier : stage.committedFrontier = fed.length
  banks : Lasting kernels options zeros stage.memory fed
  hash : options.stage = .stage0 → stage.committedPleHash = hashBehind options fed

/-- What the inputs of a transaction have left so far. -/
structure Recorded (stage : CudaStageBackend v) (fed rows : List (Fed v)) : Prop where
  tokens : stage.provisionalTokens = rows.map Prod.fst
  hashes : options.stage = .stage0 → stage.candidatePleHashes =
    hashesAfter (hashBehind options fed) (rows.map Prod.fst)
  reads : options.stage = .stage0 → slice 0 rows.length stage.pleReadRows =
    rowsEach options.hash (hashBehind options fed) (rows.map Prod.fst)
  inputs : stage.provisionalKind = .speculative →
    slice 0 rows.length (inputRow kernels options stage.memory.workspace) = rows.map Prod.snd

/-- The token that a stage predicts behind a hidden state. -/
def predictedToken (hidden : v.Hyper) : Token := kernels.argmax (kernels.head hidden)

/-- The results of the rows of a transaction. An append has those of its last chunk only. -/
structure Answered (stage : CudaStageBackend v) (fed rows : List (Fed v)) : Prop where
  hidden : options.mtp = true → stage.provisionalKind ≠ .appendKnown →
    slice 0 rows.length stage.memory.workspace.finalHc =
      hiddenOf kernels options zeros fed rows
  predicted : options.stage ≠ .stage0 → stage.provisionalKind = .speculative →
    slice 0 rows.length stage.memory.workspace.predictions =
      (hiddenOf kernels options zeros fed rows).map (predictedToken kernels)

/-- The predictions of a speculation on the host. -/
def Hosted (stage : CudaStageBackend v) (fed rows : List (Fed v)) : Prop :=
  options.stage ≠ .stage0 → stage.provisionalKind = .speculative →
    slice 0 rows.length stage.memory.workspace.hostPredictions =
      (hiddenOf kernels options zeros fed rows).map (predictedToken kernels)

/-- What evaluating its rows has left so far. -/
structure Banked (stage : CudaStageBackend v) (fed rows : List (Fed v)) : Prop where
  epoch : stage.provisionalEpoch ≠ 0
  base : stage.provisionalBase = fed.length
  active : stage.statesActive = true
  room : fed.length + rows.length ≤ options.contextCapacity
  opened : Opened options stage.memory
  qsaEpoch : stage.memory.qsaState.epoch = stage.provisionalEpoch
  evaluated : stage.memory.qsaState.evaluated = rows.length
  holds : Holds kernels (stageLayers options.stage) stage.memory
    (statesBehind kernels options zeros (fed ++ rows))
  checkpoint : stage.speculativeCheckpointCount ≠ 0 →
    stage.speculativeCheckpointCount ≤ rows.length ∧
      stage.memory.gdnState.checkpoint = some (statesBehind kernels options zeros
        (fed ++ rows.take stage.speculativeCheckpointCount)).gdn ∧
      stage.memory.pleState.checkpoint = some (statesBehind kernels options zeros
        (fed ++ rows.take stage.speculativeCheckpointCount)).ple

/-- An open transaction with some rows behind the committed ones. -/
structure Provisional (stage : CudaStageBackend v) (fed rows : List (Fed v)) : Prop extends
    Recorded kernels options stage fed rows, Answered kernels options zeros stage fed rows,
    Banked kernels options zeros stage fed rows where
  hosted : Hosted kernels options zeros stage fed rows
  processed : stage.provisionalProcessed = rows.length

end Invariants

variable {kernels options zeros} {plan : Nat → Option Thrown} {fed rows : List (Fed v)}

section Frames
variable {before after : CudaStageBackend v} {memory memory' : Memory v} {base : Nat}

theorem states_rows_length {layer : LayerWeights} (listed : layer ∈ stageLayers options.stage)
    (attention : layer.qsa = true) :
    ((statesBehind kernels options zeros fed).rows layer.stateLocal).length = fed.length :=
  states_reach layer listed attention

/-- Evaluating rows behind the committed ones leaves these. -/
theorem Lasting.walked (lasting : Lasting kernels options zeros memory fed)
    (walked : Walked base memory memory') (behind : fed.length ≤ base) :
    Lasting kernels options zeros memory' fed where
  extent := by
    rw [walked.qsa]
    exact lasting.extent
  capacity := by
    rw [walked.qsa]
    exact lasting.capacity
  gdn := by
    obtain ⟨value, made⟩ := walked.gdn
    rw [made, current_set]
    exact lasting.gdn
  ple front := by
    obtain ⟨value, made⟩ := walked.ple
    rw [made, current_set]
    exact lasting.ple front
  rows layer listed attention := by
    apply walked.kept _ _ _ _ (lasting.rows layer listed attention)
    rw [states_rows_length listed attention]
    exact behind

/-- What the MTP layer changes, and the workspace. -/
structure MtpOnly (before after : CudaStageBackend v) : Prop where
  rest : after = { before with
    memory := { before.memory with
      workspace := after.memory.workspace
      mtpQsaState := after.memory.mtpQsaState }
    mtpPendingValid := after.mtpPendingValid
    mtpCandidatePendingValid := after.mtpCandidatePendingValid
    mtpTransactionActive := after.mtpTransactionActive
    mtpTransactionEpoch := after.mtpTransactionEpoch
    mtpTransactionRows := after.mtpTransactionRows
    mtpReconciledRows := after.mtpReconciledRows }

/-- The same, with one row of the workspace only. -/
structure Aside (before after : CudaStageBackend v) : Prop extends MtpOnly before after where
  workspace : after.memory.workspace = { before.memory.workspace with
    mtpCandidateHc := after.memory.workspace.mtpCandidateHc }

theorem Aside.refl (stage : CudaStageBackend v) : Aside stage stage := ⟨⟨rfl⟩, rfl⟩

theorem MtpOnly.trans {between : CudaStageBackend v} (first : MtpOnly before between)
    (second : MtpOnly between after) : MtpOnly before after := ⟨by rw [second.rest, first.rest]⟩

theorem Aside.trans {between : CudaStageBackend v} (first : Aside before between)
    (second : Aside between after) : Aside before after :=
  ⟨first.toMtpOnly.trans second.toMtpOnly, by rw [second.workspace, first.workspace]⟩

theorem Stands.beside (stands : Stands kernels options zeros before fed)
    (mtp : MtpOnly before after) : Stands kernels options zeros after fed where
  frontier := by
    rw [mtp.rest]
    exact stands.frontier
  banks := by
    have banks := stands.banks
    rw [mtp.rest]
    exact ⟨banks.extent, banks.capacity, banks.gdn, banks.ple, banks.rows⟩
  hash front := by
    rw [mtp.rest]
    exact stands.hash front

theorem Aside.input (aside : Aside before after) :
    inputRow kernels options after.memory.workspace =
      inputRow kernels options before.memory.workspace := by
  rw [aside.workspace]
  rfl

theorem Recorded.beside (recorded : Recorded kernels options before fed rows)
    (aside : Aside before after) : Recorded kernels options after fed rows where
  tokens := by
    rw [aside.rest]
    exact recorded.tokens
  hashes front := by
    rw [aside.rest]
    exact recorded.hashes front
  reads front := by
    rw [aside.rest]
    exact recorded.reads front
  inputs kind := by
    rw [aside.input]
    apply recorded.inputs
    rw [aside.rest] at kind
    exact kind

theorem Answered.beside (answered : Answered kernels options zeros before fed rows)
    (aside : Aside before after) : Answered kernels options zeros after fed rows := by
  have kind : after.provisionalKind = before.provisionalKind := by rw [aside.rest]
  refine ⟨fun mtp other => ?_, fun back same => ?_⟩ <;> rw [aside.workspace]
  · exact answered.hidden mtp (kind ▸ other)
  · exact answered.predicted back (kind.symm.trans same)

theorem Banked.beside (banked : Banked kernels options zeros before fed rows)
    (mtp : MtpOnly before after) : Banked kernels options zeros after fed rows := by
  have holds := banked.holds
  rw [mtp.rest]
  exact ⟨banked.epoch, banked.base, banked.active, banked.room,
    ⟨banked.opened.gdn, banked.opened.qsa, banked.opened.ple⟩, banked.qsaEpoch, banked.evaluated,
    ⟨holds.gdn, holds.ple, holds.rows⟩, banked.checkpoint⟩

theorem hosted_beside (hosted : Hosted kernels options zeros before fed rows)
    (aside : Aside before after) : Hosted kernels options zeros after fed rows := by
  intro back kind
  rw [aside.rest] at kind
  rw [aside.workspace]
  exact hosted back kind

theorem Provisional.beside (provisional : Provisional kernels options zeros before fed rows)
    (aside : Aside before after) : Provisional kernels options zeros after fed rows where
  toRecorded := provisional.toRecorded.beside aside
  toAnswered := provisional.toAnswered.beside aside
  toBanked := provisional.toBanked.beside aside.toMtpOnly
  hosted := hosted_beside provisional.hosted aside
  processed := by
    rw [aside.rest]
    exact provisional.processed

end Frames

/-! The calls of the MTP layer leave the other layers alone. -/
section Mtp

def mtpOnly : Frame (CudaStageBackend v) := ⟨MtpOnly, fun _ => ⟨rfl⟩, MtpOnly.trans⟩

def aside : Frame (CudaStageBackend v) := ⟨Aside, Aside.refl, Aside.trans⟩

def mtpBank : Frame (Memory v) where
  kept before after := after = { before with mtpQsaState := after.mtpQsaState }
  refl _ := rfl
  trans first second := by rw [second, first]

/-- The workspace, and what the MTP layer has. -/
def mtpMemory : Frame (Memory v) where
  kept before after := after = { before with
    workspace := after.workspace
    mtpQsaState := after.mtpQsaState }
  refl _ := rfl
  trans first second := by rw [second, first]

variable {α : Type} {epoch : Nat}

theorem mtp_call_confined (call : DeviceCall (QsaBank v.Row v.Pooled) α) :
    Confined mtpBank (onMtpQsa call) :=
  confined_on_contents (confined_anything call) fun _ _ _ => rfl

theorem mtp_memory_confined {call : MemoryCall v α} (confined : Confined mtpBank call) :
    Confined aside (onMemory call) := by
  apply confined_on_contents confined
  intro stage memory kept
  dsimp only [mtpBank] at kept
  refine ⟨⟨?_⟩, ?_⟩
  · dsimp only
    rw [kept]
  · rw [kept]

theorem mtp_bank_confined (call : DeviceCall (QsaBank v.Row v.Pooled) α) :
    Confined aside (onMemory (onMtpQsa call)) := mtp_memory_confined (mtp_call_confined call)

theorem workspace_confined {update : Workspace v → Workspace v}
    (candidate : ∀ workspace, update workspace = { workspace with
      mtpCandidateHc := (update workspace).mtpCandidateHc }) :
    Confined aside (onMemory (onWorkspace update)) := by
  intro device
  unfold onMemory onWorkspace
  rw [ends_on_contents, ends_change]
  exact ⟨⟨rfl⟩, candidate _⟩

theorem seed_append_confined (kind : TxnKind) :
    Confined aside (seedAppend (v := v) options plan kind) :=
  confined_whenever (confined_bind (confined_change fun _ => ⟨⟨rfl⟩, rfl⟩) fun _ =>
    confined_bind (confined_look id) fun _ => confined_whenever
      (confined_bind confined_may_throw fun _ =>
        workspace_confined fun _ => rfl))

theorem run_mtp_step_confined (targetHc : v.Hyper) (token : Token) (position : Nat) :
    Confined mtpBank (runMtpStep kernels plan targetHc token position) :=
  confined_bind confined_may_throw fun _ => confined_bind (mtp_call_confined _) fun _ =>
    confined_bind confined_may_throw fun _ => confined_pure _

theorem for_each_confined {σ ι : Type} {frame : Frame σ} {body : ι → DeviceCall σ Unit}
    (each : ∀ item, Confined frame (body item)) (items : List ι) :
    Confined frame (forEach body items) := by
  induction items with
  | nil => exact confined_pure ()
  | cons item rest ih => exact confined_bind (each item) fun _ => ih

theorem run_mtp_prefill_confined (firstPosition evaluated : Nat) (hadPending : Bool) :
    Confined mtpBank (runMtpPrefill kernels plan firstPosition evaluated hadPending) :=
  confined_bind (confined_ensure _ _) fun _ => for_each_confined (fun _ =>
    confined_bind confined_may_throw fun _ => confined_bind (confined_look _) fun _ =>
      confined_bind (mtp_call_confined _) fun _ => confined_may_throw) _

theorem advance_append_confined (chunkOffset count : Nat) :
    Confined aside (advanceMtpAppend kernels plan epoch chunkOffset count) := by
  apply confined_bind (confined_ensure _ _)
  intro _
  apply confined_bind (confined_look id)
  intro stage
  apply confined_bind (confined_ensure _ _)
  intro _
  refine confined_bind (confined_whenever ?_) fun _ => ?_
  · refine confined_bind (confined_whenever ?_) fun _ => ?_
    · exact confined_bind (mtp_bank_confined _) fun _ => confined_change fun _ => ⟨⟨rfl⟩, rfl⟩
    · refine confined_bind (mtp_memory_confined (run_mtp_prefill_confined _ _ _)) fun _ => ?_
      exact confined_bind (confined_change fun _ => ⟨⟨rfl⟩, rfl⟩) fun _ => mtp_bank_confined _
  · refine confined_bind confined_may_throw fun _ => ?_
    refine confined_bind (workspace_confined fun _ => rfl) fun _ => ?_
    exact confined_change fun _ => ⟨⟨rfl⟩, rfl⟩

theorem reconcile_confined (targetRow : Nat) :
    Confined aside (reconcileRetainedDraft kernels options plan epoch targetRow) := by
  refine confined_bind confined_may_throw fun _ => confined_bind (confined_look id) fun _ => ?_
  refine confined_bind (confined_ensure _ _) fun _ => confined_bind confined_may_throw fun _ => ?_
  refine confined_bind (mtp_memory_confined (run_mtp_step_confined _ _ _)) fun _ => ?_
  exact confined_bind (mtp_bank_confined _) fun _ => confined_change fun _ => ⟨⟨rfl⟩, rfl⟩

theorem abandon_confined : Confined aside (abandonRetainedDraft (v := v) plan epoch) := by
  refine confined_bind confined_may_throw fun _ => confined_bind (confined_look id) fun _ => ?_
  refine confined_whenever (confined_bind (confined_ensure _ _) fun _ => ?_)
  exact confined_bind (mtp_bank_confined _) fun _ => confined_change fun _ => ⟨⟨rfl⟩, rfl⟩

theorem prepare_rows_confined (priorPairs evaluated : Nat) :
    Confined aside (prepareMtpRows kernels plan epoch priorPairs evaluated) := by
  refine confined_bind (confined_look id) fun stage => confined_ite ?_ ?_
  · exact confined_bind (confined_ensure _ _) fun _ => confined_change fun _ => ⟨⟨rfl⟩, rfl⟩
  · refine confined_bind (confined_change fun _ => ⟨⟨rfl⟩, rfl⟩) fun _ => confined_whenever ?_
    refine confined_bind (mtp_bank_confined _) fun _ => ?_
    refine confined_bind (confined_change fun _ => ⟨⟨rfl⟩, rfl⟩) fun _ => ?_
    refine confined_catching ?_ fun thrown => ?_
    · refine confined_bind (mtp_memory_confined (run_mtp_prefill_confined _ _ _)) fun _ => ?_
      exact confined_bind (mtp_bank_confined _) fun _ => confined_change fun _ => ⟨⟨rfl⟩, rfl⟩
    · refine confined_bind (mtp_bank_confined _) fun _ => ?_
      exact confined_bind (confined_change fun _ => ⟨⟨rfl⟩, rfl⟩) fun _ => confined_throwing _

theorem await_rows_confined : Confined aside (awaitMtpRows (v := v) plan) := by
  refine confined_catching confined_may_throw fun thrown => ?_
  refine confined_bind (confined_look id) fun stage => ?_
  refine confined_bind (confined_whenever ?_) fun _ => confined_throwing _
  exact confined_bind (mtp_bank_confined _) fun _ => confined_change fun _ => ⟨⟨rfl⟩, rfl⟩

theorem prepare_commit_confined (accepted : Nat) :
    Confined aside (prepareMtpCommit kernels plan epoch accepted) := by
  refine confined_bind (confined_ensure _ _) fun _ => confined_bind (confined_look id) fun _ => ?_
  refine confined_bind (confined_ensure _ _) fun _ => ?_
  refine confined_bind (confined_change fun _ => ⟨⟨rfl⟩, rfl⟩) fun _ => ?_
  refine confined_bind (confined_whenever (confined_bind confined_may_throw fun _ =>
    workspace_confined fun _ => rfl)) fun _ => ?_
  refine confined_bind (prepare_rows_confined _ _) fun _ => ?_
  refine confined_bind confined_may_throw fun _ => ?_
  refine confined_bind (workspace_confined fun _ => rfl) fun _ => ?_
  exact confined_bind (confined_change fun _ => ⟨⟨rfl⟩, rfl⟩) fun _ => await_rows_confined

end Mtp

/-! The first chunk of a transaction. -/
section Begin
variable {device : Device (CudaStageBackend v)} {input : CudaInput v} {epoch : Nat}
  {stage : CudaStageBackend v}

/-- What the first chunk sets before the banks begin. -/
structure Entered (input : CudaInput v) (stage : CudaStageBackend v) : Prop where
  epoch : stage.provisionalEpoch = input.txn.epoch
  base : stage.provisionalBase = input.txn.baseTarget
  processed : stage.provisionalProcessed = 0
  kind : stage.provisionalKind = input.txn.kind
  tokens : stage.provisionalTokens = []
  hashes : stage.candidatePleHashes = []
  checkpoint : stage.speculativeCheckpointCount = 0

/-- A bank that begins has the committed states to work on. -/
theorem open_gdn (lasting : Lasting kernels options zeros stage.memory fed) :
    Lasting kernels options zeros { stage.memory with
      gdnState := stage.memory.gdnState.opened epoch } fed :=
  ⟨lasting.extent, lasting.capacity, (current_opened _ _).trans lasting.gdn, lasting.ple,
    lasting.rows⟩

theorem open_ple {memory : Memory v} (lasting : Lasting kernels options zeros memory fed) :
    Lasting kernels options zeros { memory with pleState := memory.pleState.opened epoch } fed :=
  ⟨lasting.extent, lasting.capacity, lasting.gdn,
    fun front => (current_opened _ _).trans (lasting.ple front), lasting.rows⟩

/-- The banks of a new transaction, behind their `begin`. -/
structure Begun (kernels : Kernels v) (options : CudaOptions) (zeros : Zeros v)
    (stage : CudaStageBackend v) (fed : List (Fed v)) : Prop where
  lasting : Lasting kernels options zeros stage.memory fed
  opened : Opened options stage.memory
  gdn : stage.memory.gdnState.working = stage.memory.gdnState.current
  ple : options.stage = .stage0 → stage.memory.pleState.working = stage.memory.pleState.current
  epoch : stage.provisionalEpoch ≠ 0
  qsaEpoch : stage.memory.qsaState.epoch = stage.provisionalEpoch
  evaluated : stage.memory.qsaState.evaluated = 0

theorem begin_banks_ends (stands : Stands kernels options zeros device.contents fed)
    (entered : Entered input device.contents) :
    Ends (beginBanks options plan input.txn.epoch)
      (fun _ after => Stands kernels options zeros after.contents fed ∧
        Entered input after.contents ∧
        Begun kernels options zeros after.contents fed)
      (fun _ after => Stands kernels options zeros after.contents fed) device := by
  have banks := stands.banks
  unfold beginBanks onMemory onGdn onQsa onPle StateBank.begin QsaBank.begin
  rw [ends_bind, ends_on_contents, ends_on_contents]
  apply ends_guarded
  · rintro ⟨positive, -⟩
    rw [ends_bind, ends_on_contents, ends_on_contents]
    have begun := @open_gdn _ _ _ _ _ input.txn.epoch _ banks
    apply ends_checked
    · rintro -
      rw [ends_whenever]
      constructor
      · intro front
        rw [ends_on_contents, ends_on_contents]
        apply ends_guarded
        · rintro -
          have lasting := @open_ple _ _ _ _ _ input.txn.epoch _ begun
          refine ⟨⟨stands.frontier, ⟨lasting.extent, lasting.capacity, lasting.gdn, lasting.ple,
            lasting.rows⟩, stands.hash⟩, ⟨entered.epoch, entered.base, entered.processed,
            entered.kind, entered.tokens, entered.hashes, entered.checkpoint⟩, ?_⟩
          exact
            { lasting := ⟨lasting.extent, lasting.capacity, lasting.gdn, lasting.ple, lasting.rows⟩
              opened := ⟨rfl, rfl, fun _ => rfl⟩
              gdn := (working_opened _ _).trans (current_opened _ _).symm
              ple := fun _ => (working_opened _ _).trans (current_opened _ _).symm
              epoch := by
                intro zero
                exact positive (entered.epoch.symm.trans zero)
              qsaEpoch := entered.epoch.symm
              evaluated := rfl }
        · intro _ _
          exact ⟨stands.frontier, ⟨begun.extent, begun.capacity, begun.gdn, begun.ple, begun.rows⟩,
            stands.hash⟩
      · intro back
        refine ⟨⟨stands.frontier, ⟨begun.extent, begun.capacity, begun.gdn, begun.ple,
          begun.rows⟩, stands.hash⟩, ⟨entered.epoch, entered.base, entered.processed,
          entered.kind, entered.tokens, entered.hashes, entered.checkpoint⟩, ?_⟩
        exact
          { lasting := ⟨begun.extent, begun.capacity, begun.gdn, begun.ple, begun.rows⟩
            opened := ⟨rfl, rfl, fun front => absurd front back⟩
            gdn := (working_opened _ _).trans (current_opened _ _).symm
            ple := fun front => absurd front back
            epoch := by
              intro zero
              exact positive (entered.epoch.symm.trans zero)
            qsaEpoch := entered.epoch.symm
            evaluated := rfl }
    · intro _
      exact ⟨stands.frontier, ⟨begun.extent, begun.capacity, begun.gdn, begun.ple, begun.rows⟩,
        stands.hash⟩
  · intro _ _
    exact ⟨stands.frontier, ⟨banks.extent, banks.capacity, banks.gdn, banks.ple, banks.rows⟩,
      stands.hash⟩

/-- A new transaction has no rows yet. -/
theorem begin_transaction_ends (stands : Stands kernels options zeros device.contents fed)
    (room : input.txn.baseTarget ≤ options.contextCapacity) :
    Ends (beginTransaction options plan input)
      (fun _ after => Stands kernels options zeros after.contents fed ∧
        Provisional kernels options zeros after.contents fed [] ∧ input.chunkOffset = 0 ∧
        after.contents.provisionalEpoch = input.txn.epoch ∧
        after.contents.provisionalBase = input.txn.baseTarget ∧
        after.contents.provisionalKind = input.txn.kind)
      (fun _ after => Stands kernels options zeros after.contents fed) device := by
  unfold beginTransaction
  rw [ends_bind, ends_look, ends_bind, ends_ensure]
  refine ⟨fun checked => ?_, fun _ => stands⟩
  obtain ⟨-, first, frontier, -⟩ := checked
  rw [ends_bind, ends_change, ends_bind, ends_ensure]
  have stands : Stands kernels options zeros (enterTransaction input.txn device.contents) fed :=
    ⟨stands.frontier, stands.banks, stands.hash⟩
  have entered : Entered input (enterTransaction input.txn device.contents) :=
    ⟨rfl, rfl, rfl, rfl, rfl, rfl, rfl⟩
  have base : input.txn.baseTarget = fed.length := frontier.trans stands.frontier
  refine ⟨fun _ => ?_, fun _ => stands⟩
  have dropped : Ends (Proc.whenever (retainedDraft options device.contents input.txn = false)
      (change dropDraft))
      (fun _ after => Stands kernels options zeros after.contents fed ∧
        Entered input after.contents)
      (fun _ after => Stands kernels options zeros after.contents fed)
      ⟨enterTransaction input.txn device.contents, device.ticks⟩ := by
    rw [ends_whenever, ends_change]
    exact ⟨fun _ => ⟨⟨stands.frontier, stands.banks, stands.hash⟩, ⟨rfl, rfl, rfl, rfl, rfl, rfl,
      rfl⟩⟩, fun _ => ⟨stands, entered⟩⟩
  apply dropped.chain
  rintro _ after ⟨stands, entered⟩
  rw [ends_bind, ends_change]
  have started := @begin_banks_ends _ _ _ _ plan _ ⟨{ after.contents with
    mtpCandidatePendingValid := false }, after.ticks⟩ input ⟨stands.frontier, stands.banks,
      stands.hash⟩ ⟨entered.epoch, entered.base, entered.processed, entered.kind, entered.tokens,
      entered.hashes,
      entered.checkpoint⟩
  apply started.chain
  rintro _ begun ⟨stands, entered, banks⟩
  rw [ends_bind, ends_change]
  have stands : Stands kernels options zeros { begun.contents with statesActive := true } fed :=
    ⟨stands.frontier, stands.banks, stands.hash⟩
  have lasting := banks.lasting
  have provisional : Provisional kernels options zeros
      { begun.contents with statesActive := true } fed [] :=
    { tokens := entered.tokens
      hashes := fun _ => entered.hashes
      reads := fun _ => rfl
      inputs := fun _ => rfl
      hidden := fun _ _ => rfl
      predicted := fun _ _ => rfl
      hosted := fun _ _ => rfl
      epoch := banks.epoch
      base := entered.base.trans base
      active := rfl
      room := base ▸ room
      opened := banks.opened
      qsaEpoch := banks.qsaEpoch
      evaluated := banks.evaluated
      holds := by
        rw [List.append_nil]
        exact ⟨banks.gdn.trans lasting.gdn, fun layer listed ple =>
          (banks.ple (ple_on_front listed ple)).trans (lasting.ple (ple_on_front listed ple)),
          lasting.rows⟩
      checkpoint := fun taken => absurd entered.checkpoint taken
      processed := entered.processed }
  apply (seed_append_confined input.txn.kind _).weaken
  · intro _ ended aside
    refine ⟨stands.beside aside.toMtpOnly, provisional.beside aside, first, ?_, ?_, ?_⟩ <;>
      rw [aside.rest]
    exacts [entered.epoch, entered.base, entered.kind]
  · exact fun _ _ aside => stands.beside aside.toMtpOnly

end Begin

end Q38.CommittedStates
