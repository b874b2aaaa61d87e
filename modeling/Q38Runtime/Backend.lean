import Q38Runtime.Cancellation

/-! The stage interface of `backend.h`. A stage polls the shared token from its
own thread, at moments the coordinator does not control; the states it reads
are handed to the call as `Polls`. -/
namespace Q38.Backend
open Contracts Cancellation Imperative

/-- The state each successive poll of one call reads. -/
abbrev Polls := Nat → TokenState

/-- `if (cancellation) cancellation->throw_if_requested()`, the `index`-th time
in this call. -/
def check {σ : Type} (cancellation : Option Polls) (index : Nat) : Proc Thrown σ Unit :=
  match cancellation with
  | none => pure ()
  | some reads => Proc.settle (observe (reads index))

/-- Owned storage only: a ring lease is a device matter. -/
structure BoundaryBuffer where
  frame : StageBoundaryFrameV1 := {}
  bf16 : List UInt16 := []
  deriving DecidableEq, Repr

def BoundaryBuffer.payloadChecksum (boundary : BoundaryBuffer) : UInt64 :=
  boundaryPayloadChecksum boundary.bf16

structure StageInput where
  txn : SessionTxnV1
  tokenIds : List Token
  boundary : BoundaryBuffer := {}
  chunkOffset : Nat := 0
  finalChunk : Bool := true
  needLogits : Bool := false
  cancellation : Option Polls := none

structure StageOutput where
  boundary : BoundaryBuffer := {}
  stateCommitCount : Nat := 0
  nextToken : Token := -1
  stateDigest : UInt64 := 0
  logitsBf16 : List UInt16 := []
  deriving DecidableEq, Repr

/-- A stage with the private state `σ`. -/
structure StageBackend (σ : Type) where
  stage : Stage
  prefetchTransaction (txn : SessionTxnV1) (tokenIds : List Token)
    (cancellation : Option Polls) : Proc Thrown σ Unit
  execute (input : StageInput) : Proc Thrown σ StageOutput
  draft (pendingToken : Token) (position maxDraft : Nat) (cancellation : Option Polls) :
    Proc Thrown σ (List Token)
  draftRetained (pendingToken : Token) (position maxDraft transactionEpoch : Nat)
    (cancellation : Option Polls) : Proc Thrown σ (List Token)
  checkpointSpeculativePrefix (transactionEpoch prefixTokens : Nat) : Proc Thrown σ Unit
  reconcileRetainedDraft (transactionEpoch targetRow : Nat) : Proc Thrown σ Unit
  commit (epoch stateCommitCount : Nat) : Proc Thrown σ Unit
  rollback (epoch : Nat) : Proc Thrown σ Unit
  resetSession : Proc Thrown σ Unit

section Defaults
variable {σ : Type}

/-- `StageBackend::prefetch_transaction` where a stage does not override it. -/
def defaultPrefetchTransaction (_ : SessionTxnV1) (_ : List Token)
    (cancellation : Option Polls) : Proc Thrown σ Unit := check cancellation 0

def defaultDraftRetained
    (draft : Token → Nat → Nat → Option Polls → Proc Thrown σ (List Token))
    (pendingToken : Token) (position maxDraft transactionEpoch : Nat)
    (cancellation : Option Polls) : Proc Thrown σ (List Token) := do
  Proc.ensure (¬ (maxDraft = 0 ∨ transactionEpoch = 0))
    (.invalidArgument "retained draft extent is invalid")
  draft pendingToken position maxDraft cancellation

def defaultCheckpointSpeculativePrefix (_ _ : Nat) : Proc Thrown σ Unit := pure ()

def defaultReconcileRetainedDraft (_ _ : Nat) : Proc Thrown σ Unit := pure ()

end Defaults

/-! A stage whose calls fail by a plan: the `n`-th call made on it may throw
before the inner call or after it. -/

inductive Fault where
  | before (thrown : Thrown)
  | after (thrown : Thrown)
  deriving DecidableEq, Repr

structure Faulty (σ : Type) where
  inner : σ
  calls : Nat := 0
  deriving DecidableEq, Repr

section Faults
variable {σ α : Type} (faults : Nat → Option Fault)

/-- One call on the wrapper. -/
def injected (body : Proc Thrown σ α) : Proc Thrown (Faulty σ) α := fun state =>
  match faults state.calls with
  | none =>
      let outcome := body state.inner
      (outcome.1, ⟨outcome.2, state.calls + 1⟩)
  | some (.before thrown) => (.error thrown, { state with calls := state.calls + 1 })
  | some (.after thrown) => (.error thrown, ⟨(body state.inner).2, state.calls + 1⟩)

def faultyBackend (backend : StageBackend σ) : StageBackend (Faulty σ) where
  stage := backend.stage
  prefetchTransaction txn tokenIds cancellation :=
    injected faults (backend.prefetchTransaction txn tokenIds cancellation)
  execute input := injected faults (backend.execute input)
  draft pendingToken position maxDraft cancellation :=
    injected faults (backend.draft pendingToken position maxDraft cancellation)
  draftRetained pendingToken position maxDraft transactionEpoch cancellation :=
    injected faults
      (backend.draftRetained pendingToken position maxDraft transactionEpoch cancellation)
  checkpointSpeculativePrefix transactionEpoch prefixTokens :=
    injected faults (backend.checkpointSpeculativePrefix transactionEpoch prefixTokens)
  reconcileRetainedDraft transactionEpoch targetRow :=
    injected faults (backend.reconcileRetainedDraft transactionEpoch targetRow)
  commit epoch stateCommitCount := injected faults (backend.commit epoch stateCommitCount)
  rollback epoch := injected faults (backend.rollback epoch)
  resetSession := injected faults backend.resetSession

/-- A call on the wrapper ends as the inner call does, or as planned, before
the inner call or behind it. -/
theorem injected_ends {body : Proc Thrown σ α} {returns : α → σ → Prop}
    {throws : Thrown → σ → Prop} {state : Faulty σ} (inner : Ends body returns throws state.inner) :
    Ends (injected faults body)
      (fun value after => returns value after.inner)
      (fun thrown after => throws thrown after.inner ∨
        (faults state.calls ≠ none ∧ (after.inner = state.inner ∨
          (∃ value, returns value after.inner) ∨ ∃ other, throws other after.inner))) state := by
  unfold Ends injected at *
  rcases run : body state.inner with ⟨outcome, after⟩
  rw [run] at inner
  cases faults state.calls with
  | none =>
      cases outcome with
      | ok value => exact inner
      | error thrown => exact Or.inl inner
  | some fault =>
      cases fault with
      | before thrown => exact Or.inr ⟨nofun, Or.inl rfl⟩
      | after thrown =>
          cases outcome with
          | ok value => exact Or.inr ⟨nofun, Or.inr (Or.inl ⟨value, inner⟩)⟩
          | error other => exact Or.inr ⟨nofun, Or.inr (Or.inr ⟨other, inner⟩)⟩

end Faults

end Q38.Backend
