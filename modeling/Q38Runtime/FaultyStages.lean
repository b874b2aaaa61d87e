import Q38Runtime.StageContracts

/-!
A stage that fails by a plan keeps the contract of the stage inside it. A planned
failure is one more way to throw: before the call the stage is as it was, behind
the call it is as the call left it, and from either a rollback brings the
committed history back. Without a plan to fail nothing is lost.
-/
namespace Q38.FaultyStages
open Contracts Cancellation Backend Executor SessionModel StageContracts Imperative

section Stage
variable {σ : Type} {backend : StageBackend σ} (faults : Nat → Option Fault)

/-- No call is planned to fail. -/
def Faultless : Prop := ∀ call, faults call = none

variable {faults}

theorem planned_faulty {call : Nat} (planned : faults call ≠ none) : ¬ Faultless faults :=
  fun faultless => planned (faultless call)

theorem restores_faulty {calm : Prop} {idle : List Token → Nat → σ → Prop} {history : List Token}
    {epoch : Nat} {stage : Faulty σ} (restores : Restores backend calm idle history epoch stage.inner) :
    Restores (faultyBackend faults backend) (calm ∧ Faultless faults)
      (fun history epoch stage => idle history epoch stage.inner) history epoch stage := by
  apply (injected_ends faults restores).weaken (fun _ _ lands => lands)
  rintro thrown after (troubled | ⟨planned, -⟩) ⟨calm, faultless⟩
  · exact troubled calm
  · exact planned_faulty planned faultless

section Calls
variable (contract : StageContract backend) {α : Type} {body : Proc Thrown σ α}
variable {history : List Token} {epoch : Nat} {stage : Faulty σ} {returns : α → σ → Prop}
variable {quiet : Prop}

/-- A call whose every outcome can be rolled back. -/
theorem injected_restores
    (inner : Ends body returns (fun _ after => ¬ (contract.calm ∧ quiet) ∧
      Restores backend contract.calm contract.idle history epoch after) stage.inner)
    (before : Restores backend contract.calm contract.idle history epoch stage.inner)
    (behind : ∀ value after, returns value after →
      Restores backend contract.calm contract.idle history epoch after) :
    Ends (injected faults body) (fun value after => returns value after.inner)
      (fun _ after => ¬ ((contract.calm ∧ Faultless faults) ∧ quiet) ∧
        Restores (faultyBackend faults backend) (contract.calm ∧ Faultless faults)
          (fun history epoch stage => contract.idle history epoch stage.inner) history epoch after)
      stage := by
  apply (injected_ends faults inner).weaken (fun _ _ lands => lands)
  rintro thrown after (⟨troubled, restores⟩ | ⟨planned, place⟩)
  · exact ⟨fun calm => troubled ⟨calm.1.1, calm.2⟩, restores_faulty restores⟩
  · refine ⟨fun calm => planned_faulty planned calm.1.2, restores_faulty ?_⟩
    rcases place with same | ⟨value, returned⟩ | ⟨other, -, restores⟩
    · rw [same]
      exact before
    · exact behind value _ returned
    · exact restores

/-- The same for a call that polls nothing. -/
theorem injected_unpolled
    (inner : Ends body returns (fun _ after => ¬ contract.calm ∧
      Restores backend contract.calm contract.idle history epoch after) stage.inner)
    (before : Restores backend contract.calm contract.idle history epoch stage.inner)
    (behind : ∀ value after, returns value after →
      Restores backend contract.calm contract.idle history epoch after) :
    Ends (injected faults body) (fun value after => returns value after.inner)
      (fun _ after => ¬ (contract.calm ∧ Faultless faults) ∧
        Restores (faultyBackend faults backend) (contract.calm ∧ Faultless faults)
          (fun history epoch stage => contract.idle history epoch stage.inner) history epoch after)
      stage := by
  have polled : Ends body returns (fun _ after => ¬ (contract.calm ∧ True) ∧
      Restores backend contract.calm contract.idle history epoch after) stage.inner :=
    inner.weaken (fun _ _ lands => lands)
      fun _ _ threw => ⟨fun calm => threw.1 calm.1, threw.2⟩
  exact (injected_restores contract polled before behind).weaken (fun _ _ lands => lands)
    fun _ _ threw => ⟨fun calm => threw.1 ⟨calm, trivial⟩, threw.2⟩

/-- A call that is not rolled back. -/
theorem injected_calm
    (inner : Ends body returns (fun _ _ => ¬ (contract.calm ∧ quiet)) stage.inner) :
    Ends (injected faults body) (fun value after => returns value after.inner)
      (fun _ _ => ¬ ((contract.calm ∧ Faultless faults) ∧ quiet)) stage := by
  apply (injected_ends faults inner).weaken (fun _ _ lands => lands)
  rintro thrown after (troubled | ⟨planned, -⟩) calm
  · exact troubled ⟨calm.1.1, calm.2⟩
  · exact planned_faulty planned calm.1.2

end Calls

/-- The contract that does not mention what the polls see. -/
theorem ends_untroubled {α : Type} {calm : Prop} {body : Proc Thrown σ α} {state : σ}
    {returns : α → σ → Prop} (ended : Ends body returns (fun _ _ => ¬ calm) state) :
    Ends body returns (fun _ _ => ¬ (calm ∧ True)) state :=
  ended.weaken (fun _ _ lands => lands) fun _ _ troubled calm => troubled calm.1

variable (faults)

def faultyStage (contract : StageContract backend) :
    StageContract (faultyBackend faults backend) where
  calm := contract.calm ∧ Faultless faults
  idle history epoch stage := contract.idle history epoch stage.inner
  ready history txn rows mark stage := contract.ready history txn rows mark stage.inner
  admits := contract.admits
  output := contract.output
  committable := contract.committable
  opens idle begins := contract.opens idle begins
  restores ready := restores_faulty (contract.restores ready)
  execute ready extended admitted :=
    injected_restores contract (contract.execute ready extended admitted)
      (contract.restores ready) fun _ _ lands => contract.restores lands.1
  commit ready positive within := injected_calm contract (contract.commit ready positive within)
  resets idle := (injected_calm contract (ends_untroubled (contract.resets idle))).weaken
    (fun _ _ lands => lands) fun _ _ troubled calm => troubled ⟨calm, trivial⟩

def faultyFront (contract : FrontContract backend) :
    FrontContract (faultyBackend faults backend) where
  toStageContract := faultyStage faults contract.toStageContract
  anyInput := contract.anyInput
  prefetch tokens polls ready :=
    injected_restores contract.toStageContract (contract.prefetch tokens polls ready)
      (contract.restores ready) fun _ _ lands => contract.restores lands
  checkpoint ready kind some_ :=
    injected_unpolled contract.toStageContract (contract.checkpoint ready kind some_)
      (contract.restores ready) fun _ _ lands => contract.restores lands

def faultyBack {model : StageModel} (contract : BackContract model backend) : BackContract model (faultyBackend faults backend) where
  toStageContract := faultyStage faults contract.toStageContract
  calmExact calm := contract.calmExact calm.1
  answers := contract.answers
  verdict := contract.verdict
  scored := contract.scored
  draft pending position width polls ready some_ :=
    injected_restores contract.toStageContract
      (contract.draft pending position width polls ready some_) (contract.restores ready)
      fun _ _ lands => contract.restores lands.1
  reconcile row ready :=
    injected_unpolled contract.toStageContract (contract.reconcile row ready)
      (contract.restores ready) fun _ _ lands => contract.restores lands

end Stage

section Pair
variable {σ₀ σ₁ : Type} {model : StageModel} {setup : Setup σ₀ σ₁}

/-- The setup whose stages fail by a plan. -/
def faultySetup (setup : Setup σ₀ σ₁) (faults0 faults1 : Nat → Option Fault) :
    Setup (Faulty σ₀) (Faulty σ₁) where
  options := setup.options
  select := setup.select
  stage0 := faultyBackend faults0 setup.stage0
  stage1 := faultyBackend faults1 setup.stage1
  weather := setup.weather

def faultyPair (contract : PairContract model setup) (faults0 faults1 : Nat → Option Fault) :
    PairContract model (faultySetup setup faults0 faults1) where
  front := faultyFront faults0 contract.front
  back := faultyBack faults1 contract.back
  fitting := contract.fitting
  framed calm := contract.framed calm.1
  link := contract.link

end Pair

end Q38.FaultyStages
