import Q38Runtime.SessionModel

/-! What the executor asks of its stages. A stage is idle between transactions
and ready inside one; ready stages can be rolled back at any time, and a stage
that throws can be rolled back as well. What they answer follows a model, and
while they are calm a call is promised not to throw. A stage about which nothing
is known satisfies the contract with a model that allows everything. -/
namespace Q38.StageContracts
open Contracts Cancellation Backend Executor SessionModel Imperative

/-- Polls that find nothing requested. -/
def Quiet (polls : Option Polls) : Prop :=
  ∀ reads, polls = some reads → ∀ index, observe (reads index) = .ok ()

/-- A prepared transaction that starts where the committed history ends. -/
structure Opens (history : List Token) (epoch : Nat) (txn : SessionTxnV1) : Prop where
  magic : txn.magic = kTxnMagic
  version : txn.version = kContractVersion
  status : txn.status = .prepared
  base : txn.baseTarget = history.length
  later : epoch < txn.epoch

/-- The next chunk of a transaction of which `rows` are evaluated. -/
structure Extends (txn : SessionTxnV1) (rows : List Token) (input : StageInput) : Prop where
  owner : input.txn = txn
  offset : input.chunkOffset = rows.length
  nonempty : input.tokenIds ≠ []
  extent : rows.length + input.tokenIds.length ≤ txn.evaluatedCount
  final : input.finalChunk =
    Decidable.decide (rows.length + input.tokenIds.length = txn.evaluatedCount)
  logits : input.needLogits = true → input.finalChunk = true ∧ txn.kind ≠ .speculative

section Stage
variable {σ : Type}

/-- A rollback of this epoch brings the committed history back. -/
def Restores (backend : StageBackend σ) (calm : Prop) (idle : List Token → Nat → σ → Prop)
    (history : List Token) (epoch : Nat) (state : σ) : Prop :=
  Ends (backend.rollback epoch) (fun _ after => idle history epoch after) (fun _ _ => ¬ calm) state

/-- `ready history txn rows mark`: the committed history, the open transaction,
its evaluated rows and the last checkpoint among them. -/
structure StageContract (backend : StageBackend σ) where
  calm : Prop
  idle : List Token → Nat → σ → Prop
  ready : List Token → SessionTxnV1 → List Token → Nat → σ → Prop
  admits : List Token → List Token → StageInput → Prop
  output : List Token → List Token → StageInput → StageOutput → Prop
  committable : SessionTxnV1 → Nat → Nat → Nat → Prop
  opens : ∀ {history epoch txn state}, idle history epoch state → Opens history epoch txn →
    ready history txn [] 0 state
  restores : ∀ {history txn rows mark state}, ready history txn rows mark state →
    Restores backend calm idle history txn.epoch state
  execute : ∀ {history txn rows mark state input}, ready history txn rows mark state →
    Extends txn rows input → admits history rows input →
    Ends (backend.execute input)
      (fun out after => ready history txn (rows ++ input.tokenIds) mark after ∧
        output history rows input out)
      (fun _ after => ¬ (calm ∧ Quiet input.cancellation) ∧
        Restores backend calm idle history txn.epoch after) state
  commit : ∀ {history txn rows mark count state}, ready history txn rows mark state →
    0 < count → count ≤ rows.length →
    Ends (backend.commit txn.epoch count)
      (fun _ after => idle (history ++ rows.take count) txn.epoch after)
      (fun _ _ => ¬ (calm ∧ committable txn rows.length mark count)) state
  resets : ∀ {history epoch state}, idle history epoch state →
    Ends backend.resetSession (fun _ after => idle [] 0 after) (fun _ _ => ¬ calm) state

/-- Stage 0 also prefetches and keeps checkpoints. -/
structure FrontContract (backend : StageBackend σ) extends StageContract backend where
  anyInput : ∀ history rows input, admits history rows input
  prefetch : ∀ {history txn state} (tokens : List Token) (polls : Option Polls),
    ready history txn [] 0 state →
    Ends (backend.prefetchTransaction txn tokens polls)
      (fun _ after => ready history txn [] 0 after)
      (fun _ after => ¬ (calm ∧ Quiet polls) ∧
        Restores backend calm idle history txn.epoch after) state
  checkpoint : ∀ {history txn rows mark state}, ready history txn rows mark state →
    txn.kind = .speculative → rows ≠ [] →
    Ends (backend.checkpointSpeculativePrefix txn.epoch rows.length)
      (fun _ after => ready history txn rows rows.length after)
      (fun _ after => ¬ calm ∧ Restores backend calm idle history txn.epoch after) state

/-- Stage 1 also drafts, and its answers follow the model. -/
structure BackContract (model : StageModel) (backend : StageBackend σ) extends
    StageContract backend where
  calmExact : calm → model.Exact
  answers : ∀ {history rows input out}, output history rows input out →
    ¬ (input.txn.kind = .speculative ∧ input.finalChunk = true) →
    model.predicts (history ++ (rows ++ input.tokenIds)) out.nextToken
  verdict : ∀ {history rows input out}, output history rows input out →
    input.txn.kind = .speculative → input.finalChunk = true →
    model.accepts history (rows ++ input.tokenIds) out.stateCommitCount ∧
      model.predicts (history ++ (rows ++ input.tokenIds).take out.stateCommitCount)
        out.nextToken
  scored : ∀ {history rows input out}, output history rows input out →
    input.needLogits = true → model.logits (history ++ (rows ++ input.tokenIds)) out.logitsBf16
  draft : ∀ {history txn state} (pending : Token) (position width : Nat) (polls : Option Polls),
    ready history txn [] 0 state → 0 < width →
    Ends (backend.draftRetained pending position width txn.epoch polls)
      (fun tokens after => ready history txn [] 0 after ∧
        model.drafts pending position width tokens)
      (fun _ after => ¬ (calm ∧ Quiet polls) ∧
        Restores backend calm idle history txn.epoch after) state
  reconcile : ∀ {history txn rows mark state} (row : Nat), ready history txn rows mark state →
    Ends (backend.reconcileRetainedDraft txn.epoch row)
      (fun _ after => ready history txn rows mark after)
      (fun _ after => ¬ calm ∧ Restores backend calm idle history txn.epoch after) state

end Stage

section Pair
variable {σ₀ σ₁ : Type}

/-- The checks `checkBoundary` makes. -/
def FrameAccepted (setup : Setup σ₀ σ₁) (input : StageInput) (frame : StageBoundaryFrameV1) :
    Prop :=
  validateBoundary frame input.tokenIds.length = none ∧
    boundaryMatches setup input.txn input.chunkOffset input.tokenIds.length frame

/-- The two stages of a setup. -/
structure PairContract (model : StageModel) (setup : Setup σ₀ σ₁) where
  front : FrontContract setup.stage0
  back : BackContract model setup.stage1
  fitting : ∀ {history rows input out}, front.output history rows input out →
    FrameAccepted setup input out.boundary.frame → model.fits input.tokenIds.length
  framed : ∀ {history txn rows input out}, front.calm → front.output history rows input out →
    Extends txn rows input → model.fits input.tokenIds.length →
    FrameAccepted setup input out.boundary.frame
  link : ∀ {history rows input out} (needLogits : Bool) (cancellation : Option Polls),
    front.output history rows input out → FrameAccepted setup input out.boundary.frame →
    back.admits history rows { input with
      boundary := out.boundary, needLogits := needLogits, cancellation := cancellation }

end Pair

/-! A stage about which nothing is known. -/
section Unknown
variable {σ₀ σ₁ : Type}

theorem ends_trivial {ε σ α : Type} (call : Proc ε σ α) (state : σ) :
    Ends call (fun _ _ => True) (fun _ _ => True) state := by
  unfold Ends
  rcases call state with ⟨outcome, after⟩
  cases outcome <;> exact trivial

/-- A contract that promises nothing. -/
theorem ends_unknown {ε σ α : Type} {other : Prop} (call : Proc ε σ α) (state : σ) :
    Ends call (fun _ _ => True) (fun _ _ => ¬ (False ∧ other)) state :=
  (ends_trivial call state).weaken (fun _ _ _ => trivial) (fun _ _ _ => fun both => both.1)

theorem restores_unknown {σ : Type} (backend : StageBackend σ) (history : List Token)
    (epoch : Nat) (state : σ) :
    Restores backend False (fun _ _ _ => True) history epoch state :=
  (ends_trivial _ state).weaken (fun _ _ _ => trivial) (fun _ _ _ => id)

def unknownStage {σ : Type} (backend : StageBackend σ) : StageContract backend where
  calm := False
  idle _ _ _ := True
  ready _ _ _ _ _ := True
  admits _ _ _ := True
  output _ _ _ _ := True
  committable _ _ _ _ := True
  opens _ _ := trivial
  restores _ := restores_unknown backend _ _ _
  execute _ _ _ := (ends_trivial _ _).weaken (fun _ _ _ => ⟨trivial, trivial⟩)
    (fun _ _ _ => ⟨fun both => both.1, restores_unknown backend _ _ _⟩)
  commit _ _ _ := ends_unknown _ _
  resets _ := (ends_trivial _ _).weaken (fun _ _ _ => trivial) (fun _ _ _ => id)

def unknownFront {σ : Type} (backend : StageBackend σ) : FrontContract backend where
  toStageContract := unknownStage backend
  anyInput _ _ _ := trivial
  prefetch _ _ _ := (ends_trivial _ _).weaken (fun _ _ _ => trivial)
    (fun _ _ _ => ⟨fun both => both.1, restores_unknown backend _ _ _⟩)
  checkpoint _ _ _ := (ends_trivial _ _).weaken (fun _ _ _ => trivial)
    (fun _ _ _ => ⟨id, restores_unknown backend _ _ _⟩)

def unknownModel : StageModel where
  fits _ := True
  predicts _ _ := True
  logits _ _ := True
  accepts _ _ _ := True
  drafts _ _ _ _ := True

def unknownBack {σ : Type} (backend : StageBackend σ) : BackContract unknownModel backend where
  toStageContract := unknownStage backend
  calmExact impossible := impossible.elim
  answers _ _ := trivial
  verdict _ _ _ := ⟨trivial, trivial⟩
  scored _ _ := trivial
  draft _ _ _ _ _ _ := (ends_trivial _ _).weaken (fun _ _ _ => ⟨trivial, trivial⟩)
    (fun _ _ _ => ⟨fun both => both.1, restores_unknown backend _ _ _⟩)
  reconcile _ _ := (ends_trivial _ _).weaken (fun _ _ _ => trivial)
    (fun _ _ _ => ⟨id, restores_unknown backend _ _ _⟩)

def unknownPair (setup : Setup σ₀ σ₁) : PairContract unknownModel setup where
  front := unknownFront setup.stage0
  back := unknownBack setup.stage1
  fitting _ _ := trivial
  framed impossible := impossible.elim
  link _ _ _ _ := trivial

end Unknown

end Q38.StageContracts
