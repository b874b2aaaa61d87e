import Q38Runtime.TransactionEnds

/-! Runs of a CUDA stage: chunks, checkpoints, commits, rollbacks, resets and drafts in any order
a caller may choose, each of which may throw. Behind every one of them the committed states are
those behind the committed rows. -/
namespace Q38.CudaRuns
open Contracts Imperative QsaSelection SpeculativeRows StateBanks PooledRows CudaBackend
  CudaTransactions CudaHistory CommittedStates ProvisionalRows ExecutedChunks TransactionEnds

variable {v : Values} (kernels : Kernels v) (options : CudaOptions) (zeros : Zeros v)
  (plan : Nat → Option Thrown)

/-- What a caller knows of the open transaction: the rows evaluated in it, or that a call has
thrown, so that it may only be rolled back. -/
inductive Phase (v : Values) where
  | idle
  | evaluated (rows : List (Fed v))
  | failed

def Phase.rows : Phase v → List (Fed v)
  | .evaluated rows => rows
  | _ => []

/-- A stage, and the rows that were committed since it was built or last reset. -/
structure System (v : Values) where
  device : Device (CudaStageBackend v)
  committed : List (Fed v)
  phase : Phase v

/-- A call of a stage. A commit or a reset that throws is the end of a run. An append is
committed as a whole, and nothing is drafted while a transaction is open. -/
inductive Step : System v → System v → Prop
  | executed {system : System v} {input : CudaInput v} {output : CudaOutput v}
      {after : Device (CudaStageBackend v)} (ready : system.phase ≠ .failed)
      (returned : execute kernels options plan input system.device = (.ok output, after)) :
      Step system ⟨after, system.committed,
        .evaluated (system.phase.rows ++ enteringRows kernels options input)⟩
  | executeThrew {system : System v} {input : CudaInput v} {thrown : Thrown}
      {after : Device (CudaStageBackend v)} (ready : system.phase ≠ .failed)
      (threw : execute kernels options plan input system.device = (.error thrown, after)) :
      Step system ⟨after, system.committed, .failed⟩
  | checkpointed {system : System v} {rows : List (Fed v)} {epoch prefixTokens : Nat}
      {after : Device (CudaStageBackend v)} (open_ : system.phase = .evaluated rows)
      (returned : checkpointSpeculativePrefix options plan epoch prefixTokens system.device =
        (.ok (), after)) :
      Step system ⟨after, system.committed, .evaluated rows⟩
  | checkpointThrew {system : System v} {rows : List (Fed v)} {epoch prefixTokens : Nat}
      {thrown : Thrown} {after : Device (CudaStageBackend v)}
      (open_ : system.phase = .evaluated rows)
      (threw : checkpointSpeculativePrefix options plan epoch prefixTokens system.device =
        (.error thrown, after)) :
      Step system ⟨after, system.committed, .failed⟩
  | committed {system : System v} {rows : List (Fed v)} {epoch count : Nat}
      {after : Device (CudaStageBackend v)} (open_ : system.phase = .evaluated rows)
      (whole : count = rows.length ∨
        system.device.contents.provisionalKind = .speculative)
      (returned : commit kernels options plan epoch count system.device = (.ok (), after)) :
      Step system ⟨after, system.committed ++ rows.take count, .idle⟩
  | rolledBack {system : System v} {epoch : Nat} {after : Device (CudaStageBackend v)}
      (returned : rollback options plan epoch system.device = (.ok (), after)) :
      Step system ⟨after, system.committed, .idle⟩
  | rollbackThrew {system : System v} {epoch : Nat} {thrown : Thrown}
      {after : Device (CudaStageBackend v)}
      (threw : rollback options plan epoch system.device = (.error thrown, after)) :
      Step system ⟨after, system.committed, .failed⟩
  | wasReset {system : System v} {after : Device (CudaStageBackend v)}
      (returned : resetSession options plan zeros system.device = (.ok (), after)) :
      Step system ⟨after, [], .idle⟩
  | drafted {system : System v} {pendingToken : Token} {position maxDraft : Nat}
      (closed : system.phase = .idle) :
      Step system { system with
        device := (draft kernels options plan pendingToken position maxDraft system.device).2 }
  | retained {system : System v} {pendingToken : Token} {position maxDraft epoch : Nat}
      (closed : system.phase = .idle) :
      Step system { system with
        device := (draftRetained kernels options plan pendingToken position maxDraft epoch
          system.device).2 }
  | reconciled {system : System v} {epoch targetRow : Nat} :
      Step system { system with
        device := (reconcileRetainedDraft kernels options plan epoch targetRow system.device).2 }
  | abandoned {system : System v} {epoch : Nat} :
      Step system { system with
        device := (abandonRetainedDraft plan epoch system.device).2 }

/-- A system right behind the constructor. -/
def built (unset : Unset v) : System v where
  device := ⟨constructed options zeros unset, 0⟩
  committed := []
  phase := .idle

/-- The systems that some run comes to. -/
def Reachable (unset : Unset v) (system : System v) : Prop :=
  Relation.ReflTransGen (Step kernels options zeros plan) (built options zeros unset) system

/-- What holds between two calls. -/
structure Sound (system : System v) : Prop where
  stands : Stands kernels options zeros system.device.contents system.committed
  closed : system.phase = .idle → system.device.contents.provisionalEpoch = 0
  opened : ∀ rows, system.phase = .evaluated rows →
    Provisional kernels options zeros system.device.contents system.committed rows

variable {kernels options zeros plan} {unset : Unset v}

theorem built_sound : Sound kernels options zeros (built options zeros unset) where
  stands := ⟨rfl, ⟨rfl, rfl, rfl, fun _ => rfl, fun _ _ _ => keeps_nil
    CudaTiles.block_tokens_positive⟩,
    fun _ => rfl⟩
  closed _ := rfl
  opened _ open_ := by cases open_

section Outcomes
variable {σ α : Type} {call : DeviceCall σ α} {device after : Device σ}
  {returns : α → Device σ → Prop} {throws : Thrown → Device σ → Prop}

theorem ends_ok {value : α} (ended : Ends call returns throws device)
    (returned : call device = (.ok value, after)) : returns value after := by
  unfold Ends at ended
  rw [returned] at ended
  exact ended

theorem ends_error {thrown : Thrown} (ended : Ends call returns throws device)
    (threw : call device = (.error thrown, after)) : throws thrown after := by
  unfold Ends at ended
  rw [threw] at ended
  exact ended

/-- A call that keeps to a frame does so however it ends. -/
theorem confined_after {frame : Frame σ} (confined : Confined frame call) (device : Device σ) :
    frame.kept device.contents (call device).2.contents := by
  have ended := confined device
  rcases answer : call device with ⟨outcome, after⟩
  cases outcome with
  | error thrown => exact ends_error ended answer
  | ok value => exact ends_ok ended answer

end Outcomes

/-- Calls of the MTP layer, while no transaction is open. -/
theorem Sound.draft {system : System v} {α : Type} {call : Call v α}
    (sound : Sound kernels options zeros system) (closed : system.phase = .idle)
    (confined : Confined mtpOnly call) :
    Sound kernels options zeros { system with device := (call system.device).2 } := by
  have kept := confined_after confined system.device
  refine ⟨sound.stands.beside kept, fun _ => ?_, fun rows open_ => ?_⟩
  · have idle := sound.closed closed
    dsimp only
    rw [kept.rest]
    exact idle
  · rw [closed] at open_
    cases open_

/-- Calls of the MTP layer at any time. -/
theorem Sound.aside {system : System v} {α : Type} {call : Call v α}
    (sound : Sound kernels options zeros system) (confined : Confined aside call) :
    Sound kernels options zeros { system with device := (call system.device).2 } := by
  have kept := confined_after confined system.device
  refine ⟨sound.stands.beside kept.toMtpOnly, fun idle => ?_, fun rows open_ => ?_⟩
  · have idle := sound.closed idle
    dsimp only
    rw [kept.rest]
    exact idle
  · exact (sound.opened rows open_).beside kept

/-- What a chunk finds. -/
theorem Sound.found {system : System v} (sound : Sound kernels options zeros system)
    (ready : system.phase ≠ .failed) :
    system.device.contents.provisionalEpoch = 0 ∧ system.phase.rows = [] ∨
      Provisional kernels options zeros system.device.contents system.committed
        system.phase.rows := by
  cases at_ : system.phase with
  | idle => exact .inl ⟨sound.closed at_, rfl⟩
  | evaluated rows => exact .inr (sound.opened rows at_)
  | failed => exact absurd at_ ready

/-- A system whose transaction is over. -/
theorem sound_idle {device : Device (CudaStageBackend v)} {fed : List (Fed v)}
    (ended : Stands kernels options zeros device.contents fed ∧
      device.contents.provisionalEpoch = 0) :
    Sound kernels options zeros ⟨device, fed, .idle⟩ :=
  ⟨ended.1, fun _ => ended.2, fun _ open_ => (by cases open_)⟩

theorem sound_failed {device : Device (CudaStageBackend v)} {fed : List (Fed v)}
    (stands : Stands kernels options zeros device.contents fed) :
    Sound kernels options zeros ⟨device, fed, .failed⟩ :=
  ⟨stands, fun idle => (by cases idle), fun _ open_ => (by cases open_)⟩

theorem sound_open {device : Device (CudaStageBackend v)} {fed rows : List (Fed v)}
    (stands : Stands kernels options zeros device.contents fed)
    (provisional : Provisional kernels options zeros device.contents fed rows) :
    Sound kernels options zeros ⟨device, fed, .evaluated rows⟩ := by
  refine ⟨stands, fun idle => (by cases idle), fun rows open_ => ?_⟩
  cases open_
  exact provisional

section Runs
variable (agree : CudaTiles.Agree kernels) (limit : options.contextCapacity ≤ kQ38ContextLimit)
include agree limit

/-- Every call keeps what holds between two calls. -/
theorem step_sound {system next : System v} (sound : Sound kernels options zeros system)
    (step : Step kernels options zeros plan system next) : Sound kernels options zeros next := by
  cases step with
  | executed ready returned =>
      have ended := ends_ok (execute_ends agree limit sound.stands (sound.found ready)) returned
      exact sound_open ended.1 ended.2.1
  | executeThrew ready threw =>
      exact sound_failed
        (ends_error (execute_ends agree limit sound.stands (sound.found ready)) threw)
  | checkpointed open_ returned =>
      have ended := ends_ok (checkpoint_ends sound.stands (sound.opened _ open_) _) returned
      exact sound_open ended.1 ended.2
  | checkpointThrew open_ threw =>
      exact sound_failed
        (ends_error (checkpoint_ends sound.stands (sound.opened _ open_) _) threw)
  | committed open_ whole returned =>
      exact sound_idle
        (ends_ok (commit_ends agree limit sound.stands (sound.opened _ open_) whole) returned)
  | rolledBack returned => exact sound_idle (ends_ok (rollback_ends sound.stands) returned)
  | rollbackThrew threw => exact sound_failed (ends_error (rollback_ends sound.stands) threw)
  | wasReset returned => exact sound_idle (ends_ok (reset_ends sound.stands) returned)
  | drafted closed =>
      exact sound.draft closed (confined_ite (confined_pure _) (draft_confined _ _ _ _))
  | retained closed =>
      exact sound.draft closed (confined_bind (confined_ensure _ _) fun _ =>
        draft_confined _ _ _ _)
  | reconciled => exact sound.aside (reconcile_confined _)
  | abandoned => exact sound.aside abandon_confined

/-- The invariant over a whole run. -/
theorem run_sound {system : System v}
    (reached : Reachable kernels options zeros plan unset system) :
    Sound kernels options zeros system := by
  induction reached with
  | refl => exact built_sound
  | tail _ step ih => exact step_sound agree limit ih step

end Runs

/-! A session of one append, with numbers for everything. -/
section Sample

/-- A chunk that returned. -/
theorem has_output {σ α : Type} {result : Except Thrown α × σ} (ok : result.1.isOk = true) :
    ∃ value, result = (.ok value, result.2) := by
  obtain ⟨outcome, after⟩ := result
  cases outcome with
  | error thrown => exact absurd ok (by simp [Except.isOk, Except.toBool])
  | ok value => exact ⟨value, rfl⟩

def sampleValues : Values := ⟨Nat, Nat, Nat, Nat, Nat, Nat, Nat⟩

def sampleKernels : Kernels sampleValues := CudaTiles.oneByOne
  { embed := fun token => token.toNatClampNeg
    fetch := fun rows => rows.length
    ple := fun _ (rows hyper state : Nat) => (state + rows, hyper + state)
    gdn := fun _ (hyper state : Nat) => (state + hyper, hyper + 1)
    row := fun _ position (hyper : Nat) => (position + hyper : Nat)
    pool := fun _ _ rows => rows.length
    attend := fun _ _ (hyper : Nat) (rows : List Nat) _ => (hyper + rows.length : Nat)
    moe := fun _ hyper => hyper
    head := fun hyper => hyper
    mtpHead := fun hyper => hyper
    argmax := fun (logits : Nat) => Int32.ofNat logits
    fuse := fun hyper _ => hyper
    checksum := fun _ => 0
    plePrefill := fun _ _ hypers state => (state, hypers)
    gdnPrefill := fun _ hypers state => (state, hypers)
    attendPrefill := fun _ _ hypers _ _ => hypers
    moePrefill := fun _ hypers => hypers
    fusePrefill := fun hypers _ => hypers }

def sampleOptions (stage : Stage) : CudaOptions where
  stage := stage
  maxTransactionTokens := 64
  contextCapacity := 128
  enableMtp := true
  hash := ⟨100, 0, fun _ => 1, fun _ => 7, fun _ => 0⟩

def sampleZeros : Zeros sampleValues := ⟨(0 : Nat), (0 : Nat)⟩

def sampleUnset : Unset sampleValues where
  workspace := ⟨fun _ => 0, fun _ => 0, fun _ => 0, fun _ => (0 : Nat), fun _ => (0 : Nat),
    fun _ => (0 : Nat), (0 : Nat), (0 : Nat), (0 : Nat)⟩
  cells := fun _ => ⟨fun _ => (0 : Nat), fun _ => (0 : Nat)⟩
  mtpCells := fun _ => ⟨fun _ => (0 : Nat), fun _ => (0 : Nat)⟩
  gdnCheckpoint := some fun _ => (0 : Nat)
  pleCheckpoint := some (0 : Nat)

def sampleInput : CudaInput sampleValues where
  txn := { kind := .appendKnown, status := .prepared, epoch := 1, evaluatedCount := 64 }
  tokenIds := List.replicate 64 3
  payload := fun _ => (0 : Nat)
  chunkOffset := 0
  finalChunk := true

abbrev sampleStart : System sampleValues := built (sampleOptions .stage0) sampleZeros sampleUnset

abbrev SampleReachable : System sampleValues → Prop :=
  Reachable sampleKernels (sampleOptions .stage0) sampleZeros (fun _ => none) sampleUnset

def sampleRan := execute sampleKernels (sampleOptions .stage0) (fun _ => none) sampleInput
  sampleStart.device

def sampleDone := commit sampleKernels (sampleOptions .stage0) (fun _ => none) 1 64 sampleRan.2

theorem sample_agrees : CudaTiles.Agree sampleKernels := CudaTiles.one_by_one_agrees _

theorem sample_limit (stage : Stage) :
    (sampleOptions stage).contextCapacity ≤ kQ38ContextLimit := by
  change 128 ≤ kQ38ContextLimit
  decide

theorem sample_ran : ∃ output, execute sampleKernels (sampleOptions .stage0) (fun _ => none)
    sampleInput sampleStart.device = (.ok output, sampleRan.2) :=
  has_output (by decide +kernel)

theorem sample_done : ∃ value, commit sampleKernels (sampleOptions .stage0) (fun _ => none) 1 64
    sampleRan.2 = (.ok value, sampleDone.2) :=
  has_output (by decide +kernel)

attribute [irreducible] sampleRan sampleDone

/-- The rows of the sample. -/
def sampleRows : List (Fed sampleValues) :=
  enteringRows sampleKernels (sampleOptions .stage0) sampleInput

theorem sample_rows_length : sampleRows.length = 64 := entering_length

theorem sample_evaluated : SampleReachable ⟨sampleRan.2, [], .evaluated ([] ++ sampleRows)⟩ := by
  obtain ⟨output, ran⟩ := sample_ran
  have ready : sampleStart.phase ≠ .failed := fun failed => by cases failed
  exact Relation.ReflTransGen.single (.executed ready ran)

theorem sample_committed : SampleReachable ⟨sampleDone.2, [] ++ sampleRows.take 64, .idle⟩ := by
  obtain ⟨⟨⟩, done⟩ := sample_done
  refine sample_evaluated.tail ?_
  exact @Step.committed _ _ _ _ _ ⟨sampleRan.2, [], .evaluated ([] ++ sampleRows)⟩ sampleRows 1 64
    sampleDone.2 rfl (.inl sample_rows_length.symm) done

end Sample

/-! What holds in every run. -/
section Results
variable (agree : CudaTiles.Agree kernels) (limit : options.contextCapacity ≤ kQ38ContextLimit)
include agree limit

end Results

end Q38.CudaRuns
