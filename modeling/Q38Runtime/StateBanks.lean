import Q38Runtime.Contracts
import Q38Runtime.PooledRows

/-! The state banks of a CUDA stage, of `q38_gdn.cu`, `q38_ple.cu` and `q38_qsa.cu`. The
recurrent states have a committed bank and a working one that change places at a commit; the
rows of the attention are only ever written behind the committed ones. A plan says which of
the device calls and polls fail; a call that fails has done nothing. -/
namespace Q38.StateBanks
open Contracts Imperative PooledRows

section Device

/-- Something on a device, and how many calls have been made that may fail. -/
structure Device (σ : Type) where
  contents : σ
  ticks : Nat := 0

abbrev DeviceCall (σ α : Type) := Proc Thrown (Device σ) α

variable {σ τ α : Type} (plan : Nat → Option Thrown)

/-- A device call, or a poll of the cancellation token. -/
def mayThrow : DeviceCall σ Unit := fun device =>
  (match plan device.ticks with
    | none => .ok ()
    | some thrown => .error thrown, { device with ticks := device.ticks + 1 })

def look (view : σ → α) : DeviceCall σ α := Proc.read fun device => view device.contents

def change (update : σ → σ) : DeviceCall σ Unit :=
  Proc.write fun device => { device with contents := update device.contents }

/-- A call on one part of what is on the device. -/
def onContents (view : τ → σ) (store : σ → τ → τ) (call : DeviceCall σ α) : DeviceCall τ α :=
  Proc.within (fun device => ⟨view device.contents, device.ticks⟩)
    (fun inner device => ⟨store inner.contents device.contents, inner.ticks⟩) call

variable {plan} {returns : α → Device σ → Prop} {throws : Thrown → Device σ → Prop}
  {device : Device σ}

/-- Nothing fails. -/
def Calm (plan : Nat → Option Thrown) : Prop := ∀ tick, plan tick = none

theorem ends_may_throw_iff {returns : Unit → Device σ → Prop} :
    Ends (mayThrow plan) returns throws device ↔
      (plan device.ticks = none → returns () ⟨device.contents, device.ticks + 1⟩) ∧
        ∀ thrown, plan device.ticks = some thrown →
          throws thrown ⟨device.contents, device.ticks + 1⟩ := by
  unfold Ends mayThrow
  cases plan device.ticks <;> simp [Lands]

theorem ends_may_throw {returns : Unit → Device σ → Prop}
    (threw : ¬ Calm plan → ∀ thrown, throws thrown ⟨device.contents, device.ticks + 1⟩)
    (returned : returns () ⟨device.contents, device.ticks + 1⟩) :
    Ends (mayThrow plan) returns throws device := by
  refine ends_may_throw_iff.mpr ⟨fun _ => returned, fun thrown planned => ?_⟩
  have faulty : ¬ Calm plan := fun calm => by simp [calm device.ticks] at planned
  exact threw faulty thrown

theorem may_throw_then {next : Unit → DeviceCall σ α}
    (threw : ¬ Calm plan → ∀ thrown, throws thrown ⟨device.contents, device.ticks + 1⟩)
    (goes : Ends (next ()) returns throws ⟨device.contents, device.ticks + 1⟩) :
    Ends (mayThrow plan >>= next) returns throws device :=
  (ends_bind _ _).mpr (ends_may_throw threw goes)

theorem ends_look (view : σ → α) :
    Ends (look view) returns throws device ↔ returns (view device.contents) device := Iff.rfl

theorem ends_change {returns : Unit → Device σ → Prop} (update : σ → σ) :
    Ends (change update) returns throws device ↔
      returns () ⟨update device.contents, device.ticks⟩ := Iff.rfl

theorem ends_on_contents {returns : α → Device τ → Prop} {throws : Thrown → Device τ → Prop}
    {device : Device τ} (view : τ → σ) (store : σ → τ → τ) (call : DeviceCall σ α) :
    Ends (onContents view store call) returns throws device ↔
      Ends call (fun value after => returns value ⟨store after.contents device.contents, after.ticks⟩)
        (fun thrown after => throws thrown ⟨store after.contents device.contents, after.ticks⟩)
        ⟨view device.contents, device.ticks⟩ := ends_within _ _ _

/-- A call that is refused, or fails, or changes what is there. -/
theorem ends_guarded {guard : σ → Prop} [DecidablePred guard] {refusal : Thrown}
    {update : σ → σ} {returns : Unit → Device σ → Prop}
    (returned : guard device.contents →
      returns () ⟨update device.contents, device.ticks + 1⟩)
    (threw : ∀ thrown ticks, throws thrown ⟨device.contents, ticks⟩) :
    Ends (do
      let contents ← look id
      Proc.ensure (guard contents) refusal
      mayThrow plan
      change update) returns throws device := by
  rw [ends_bind, ends_look, ends_bind, ends_ensure]
  refine ⟨fun passed => ?_, fun _ => threw _ _⟩
  exact may_throw_then (fun _ thrown => threw thrown _) (returned passed)

/-- A call that is refused or changes what is there. -/
theorem ends_checked {guard : σ → Prop} [DecidablePred guard] {refusal : Thrown}
    {update : σ → σ} {returns : Unit → Device σ → Prop}
    (returned : guard device.contents → returns () ⟨update device.contents, device.ticks⟩)
    (threw : ∀ thrown, throws thrown device) :
    Ends (do
      let contents ← look id
      Proc.ensure (guard contents) refusal
      change update) returns throws device := by
  rw [ends_bind, ends_look, ends_bind, ends_ensure]
  exact ⟨returned, fun _ => threw _⟩

/-- What calls may do to what is on a device: nothing is fine, and one thing after another. -/
structure Frame (σ : Type) where
  kept : σ → σ → Prop
  refl : ∀ contents, kept contents contents
  trans : ∀ {before between after}, kept before between → kept between after → kept before after

/-- However the call ends, it has kept to the frame. -/
def Confined (frame : Frame σ) (call : DeviceCall σ α) : Prop :=
  ∀ device, Ends call (fun _ after => frame.kept device.contents after.contents)
    (fun _ after => frame.kept device.contents after.contents) device

section Confined
variable {frame : Frame σ} {β : Type}

theorem confined_pure (value : α) : Confined frame (pure value : DeviceCall σ α) :=
  fun device => frame.refl device.contents

theorem confined_look (view : σ → α) : Confined frame (look view) :=
  fun device => frame.refl device.contents

theorem confined_throwing (thrown : Thrown) :
    Confined frame (Proc.throwing thrown : DeviceCall σ α) := fun device => frame.refl device.contents

theorem confined_change {update : σ → σ} (each : ∀ contents, frame.kept contents (update contents)) :
    Confined frame (change update) := fun device => each device.contents

theorem confined_may_throw : Confined frame (mayThrow plan) := fun device =>
  ends_may_throw_iff.mpr ⟨fun _ => frame.refl device.contents, fun _ _ => frame.refl device.contents⟩

theorem confined_ensure (condition : Prop) [Decidable condition] (thrown : Thrown) :
    Confined frame (Proc.ensure condition thrown : DeviceCall σ Unit) := fun device =>
  (ends_ensure _ _).mpr ⟨fun _ => frame.refl device.contents, fun _ => frame.refl device.contents⟩

theorem confined_bind {first : DeviceCall σ α} {next : α → DeviceCall σ β}
    (head : Confined frame first) (tail : ∀ value, Confined frame (next value)) :
    Confined frame (first >>= next) := by
  intro device
  apply (head device).chain
  intro value after kept
  exact (tail value after).weaken (fun _ _ later => frame.trans kept later)
    fun _ _ later => frame.trans kept later

theorem confined_ite {condition : Prop} [Decidable condition] {yes no : DeviceCall σ α}
    (first : Confined frame yes) (second : Confined frame no) :
    Confined frame (if condition then yes else no) := by
  split
  · exact first
  · exact second

theorem confined_whenever {condition : Prop} [Decidable condition] {call : DeviceCall σ Unit}
    (confined : Confined frame call) : Confined frame (Proc.whenever condition call) := by
  intro device
  exact (ends_whenever _ _).mpr ⟨fun _ => confined device, fun _ => frame.refl device.contents⟩

theorem confined_catching {body : DeviceCall σ α} {handler : Thrown → DeviceCall σ α}
    (tried : Confined frame body) (caught : ∀ thrown, Confined frame (handler thrown)) :
    Confined frame (Proc.catching body handler) := by
  intro device
  apply (ends_catching _ _).mpr
  apply (tried device).weaken
  · exact fun _ _ kept => kept
  · intro thrown after kept
    exact (caught thrown after).weaken (fun _ _ later => frame.trans kept later)
      fun _ _ later => frame.trans kept later

/-- A part of what is on the device, with a frame of its own. -/
theorem confined_on_contents {inner : Frame τ} {view : σ → τ} {store : τ → σ → σ}
    {call : DeviceCall τ α} (confined : Confined inner call)
    (each : ∀ contents part, inner.kept (view contents) part →
      frame.kept contents (store part contents)) :
    Confined frame (onContents view store call) := by
  intro device
  exact (ends_on_contents view store call).mpr
    ((confined _).weaken (fun _ _ kept => each _ _ kept) fun _ _ kept => each _ _ kept)

/-- The frame that allows everything. -/
def anything (σ : Type) : Frame σ := ⟨fun _ _ => True, fun _ => trivial, fun _ _ => trivial⟩

theorem confined_anything (call : DeviceCall σ α) : Confined (anything σ) call := by
  intro device
  exact (ends_self call device).weaken (fun _ _ _ => trivial) fun _ _ _ => trivial

end Confined

end Device

section Recurrent
variable {α : Type}

/-- `CudaGdnStateBank` and `CudaPleStateBank`; the checkpoint is there when it was allocated. -/
structure StateBank (α : Type) where
  banks : Fin 2 → α
  checkpoint : Option α := none
  committed : Fin 2 := 0
  active : Bool := false
  checkpointValid : Bool := false
  epoch : Nat := 0

namespace StateBank
variable (plan : Nat → Option Thrown) (name : String)

/-- Both banks are set to zero; a checkpoint is allocated and not set. -/
def constructed (zero : α) (unset : Option α) : StateBank α where
  banks _ := zero
  checkpoint := unset

def current (bank : StateBank α) : α := bank.banks bank.committed

/-- What kernels read and write between `begin` and the end of a transaction. -/
def working (bank : StateBank α) : α := bank.banks (1 - bank.committed)

def setWorking (value : α) (bank : StateBank α) : StateBank α :=
  { bank with banks := Function.update bank.banks (1 - bank.committed) value }

def opened (epoch : Nat) (bank : StateBank α) : StateBank α :=
  { bank.setWorking bank.current with active := true, epoch := epoch, checkpointValid := false }

def closed (bank : StateBank α) : StateBank α :=
  { bank with active := false, epoch := 0, checkpointValid := false }

def begin (epoch : Nat) : DeviceCall (StateBank α) Unit := do
  let bank ← look id
  Proc.ensure (epoch ≠ 0 ∧ bank.active = false)
    (.logicError ("invalid " ++ name ++ " transaction begin"))
  mayThrow plan
  change (opened epoch)

def restore : DeviceCall (StateBank α) Unit := do
  let bank ← look id
  Proc.ensure (bank.active = true) (.logicError ("invalid " ++ name ++ " transaction restore"))
  mayThrow plan
  change fun bank => bank.setWorking bank.current

def takeCheckpoint : DeviceCall (StateBank α) Unit := do
  let bank ← look id
  Proc.ensure (bank.active = true ∧ bank.checkpoint.isSome = true)
    (.logicError ("invalid " ++ name ++ " speculative checkpoint"))
  mayThrow plan
  change fun bank => { bank with checkpoint := some bank.working, checkpointValid := true }

def restoreCheckpoint : DeviceCall (StateBank α) Unit := do
  let bank ← look id
  Proc.ensure (bank.active = true ∧ bank.checkpointValid = true)
    (.logicError ("invalid " ++ name ++ " checkpoint restore"))
  mayThrow plan
  change fun bank => bank.setWorking (bank.checkpoint.getD bank.working)

def commit (epoch : Nat) : DeviceCall (StateBank α) Unit := do
  let bank ← look id
  Proc.ensure (bank.active = true ∧ bank.epoch = epoch)
    (.logicError (name ++ " commit epoch mismatch"))
  change fun bank => { bank.closed with committed := 1 - bank.committed }

def rollback (epoch : Nat) : DeviceCall (StateBank α) Unit := do
  let bank ← look id
  Proc.ensure (bank.active = true ∧ bank.epoch = epoch)
    (.logicError (name ++ " rollback epoch mismatch"))
  change closed

/-- Both banks are set to zero, and the checkpoint where there is one. -/
def reset (zero : α) : DeviceCall (StateBank α) Unit := do
  let bank ← look id
  Proc.ensure (bank.active = false) (.logicError ("invalid " ++ name ++ " reset"))
  mayThrow plan
  change fun bank => { bank with banks := Function.update bank.banks 0 zero }
  mayThrow plan
  change fun bank => { bank with banks := Function.update bank.banks 1 zero }
  Proc.whenever (bank.checkpoint.isSome = true) (do
    mayThrow plan
    change fun bank => { bank with checkpoint := some zero })
  change fun bank => { bank with committed := 0, checkpointValid := false }

end StateBank

theorem other_bank : ∀ bank : Fin 2, 1 - bank ≠ bank := by decide

variable (bank : StateBank α) (value : α)

@[simp] theorem working_set : (bank.setWorking value).working = value :=
  Function.update_self _ _ _

@[simp] theorem current_set : (bank.setWorking value).current = bank.current :=
  Function.update_of_ne (other_bank _).symm _ _

@[simp] theorem committed_set : (bank.setWorking value).committed = bank.committed := rfl

@[simp] theorem active_set : (bank.setWorking value).active = bank.active := rfl

@[simp] theorem epoch_set : (bank.setWorking value).epoch = bank.epoch := rfl

@[simp] theorem checkpoint_set : (bank.setWorking value).checkpoint = bank.checkpoint := rfl

@[simp] theorem valid_set : (bank.setWorking value).checkpointValid = bank.checkpointValid := rfl

@[simp] theorem set_set (other : α) :
    (bank.setWorking other).setWorking value = bank.setWorking value := by
  simp [StateBank.setWorking]

@[simp] theorem set_working : bank.setWorking bank.working = bank := by
  simp [StateBank.setWorking, StateBank.working]

@[simp] theorem current_closed : bank.closed.current = bank.current := rfl

@[simp] theorem working_opened (epoch : Nat) : (bank.opened epoch).working = bank.current :=
  working_set bank bank.current

@[simp] theorem current_opened (epoch : Nat) : (bank.opened epoch).current = bank.current :=
  current_set bank bank.current

/-- What was the working bank is the committed one. -/
theorem current_committed :
    ({ bank.closed with committed := 1 - bank.committed } : StateBank α).current =
      bank.working := rfl

end Recurrent

section Attention
variable {ρ π : Type}

/-- `CudaQsaStateBank`. Each layer has cells of its own for its rows and its pooled keys. -/
structure QsaBank (ρ π : Type) where
  cells : Nat → Cells ρ π
  capacity : Nat
  committed : Nat := 0
  active : Bool := false
  epoch : Nat := 0
  evaluated : Nat := 0

namespace QsaBank

def closed (bank : QsaBank ρ π) : QsaBank ρ π :=
  { bank with active := false, epoch := 0, evaluated := 0 }

def begin (epoch : Nat) : DeviceCall (QsaBank ρ π) Unit := do
  let bank ← look id
  Proc.ensure (epoch ≠ 0 ∧ bank.active = false) (.logicError "invalid QSA transaction begin")
  change fun bank => { bank with active := true, epoch := epoch, evaluated := 0 }

def markEvaluated (epoch tokens : Nat) : DeviceCall (QsaBank ρ π) Unit := do
  let bank ← look id
  Proc.ensure (bank.active = true ∧ bank.epoch = epoch ∧ tokens ≠ 0 ∧
    bank.committed + tokens ≤ bank.capacity) (.logicError "invalid QSA evaluated extent")
  change ({ · with evaluated := tokens })

def commit (epoch acceptedTokens : Nat) : DeviceCall (QsaBank ρ π) Unit := do
  let bank ← look id
  Proc.ensure (bank.active = true ∧ bank.epoch = epoch ∧ acceptedTokens ≠ 0 ∧
    acceptedTokens ≤ bank.evaluated) (.logicError "invalid QSA commit extent")
  change fun bank => { bank.closed with committed := bank.committed + acceptedTokens }

def rollback (epoch : Nat) : DeviceCall (QsaBank ρ π) Unit := do
  let bank ← look id
  Proc.ensure (bank.active = true ∧ bank.epoch = epoch) (.logicError "QSA rollback epoch mismatch")
  change closed

def reset : DeviceCall (QsaBank ρ π) Unit := do
  let bank ← look id
  Proc.ensure (bank.active = false) (.logicError "cannot reset active QSA state")
  change ({ · with committed := 0 })

end QsaBank

end Attention

end Q38.StateBanks
