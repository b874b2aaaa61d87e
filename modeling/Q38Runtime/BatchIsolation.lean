import Q38Runtime.RingBatches

/-! Batches of one provider after each other. As long as none has thrown, every
batch depends on its own reads only. A batch that throws leaves reads behind in the
rings, and nothing takes them out before the next one. -/
namespace Q38.IoUring
open Imperative

/-- A provider that was set up; the kernel has made room for its queue. -/
structure Provider where
  kernel : Kernel
  queueDepth : Nat
  sqEntries : Nat
  positive : 0 < queueDepth
  room : queueDepth ≤ sqEntries

def kDirectPageBytes : Nat := 4096

namespace Provider
variable (provider : Provider)

def batch (requests : List ReadRequest) : RingCall (List Bytes × Nat) :=
  read provider.kernel provider.sqEntries kDirectPageBytes requests provider.queueDepth

/-- The rings behind batches that have all returned. -/
inductive Batches : Ring → Prop
  | opened (buffers : Nat → Bytes) : Batches { buffers := buffers }
  | returned {ring : Ring} (reached : Batches ring) (requests : List ReadRequest)
      {answer : List Bytes × Nat} (returned : (provider.batch requests ring).1 = .ok answer) :
      Batches (provider.batch requests ring).2

variable {provider}

theorem batch_ends {requests : List ReadRequest} {ring : Ring} (some_ : requests ≠ [])
    (idle : Idle ring) :
    Ends (provider.batch requests)
      (fun answer after => Idle after ∧ answer.1.length = requests.length ∧
        ∀ index < requests.length,
          Served (begun provider.kernel requests kDirectPageBytes provider.queueDepth ring) answer.1
            index ∧
          Returned (begun provider.kernel requests kDirectPageBytes provider.queueDepth ring) after
            index)
      (fun _ after =>
        Missing (begun provider.kernel requests kDirectPageBytes provider.queueDepth ring) after)
      ring :=
  read_ends (provider.positive.trans_le provider.room) provider.positive some_ idle

theorem batches_idle {ring : Ring} (reached : provider.Batches ring) : Idle ring := by
  induction reached with
  | opened buffers => exact ⟨rfl, rfl, rfl⟩
  | @returned ring reached requests answer returned ih =>
      have some_ : requests ≠ [] := by
        rintro rfl
        cases returned
      exact ((batch_ends some_ ih).returned returned).1

section Sample

/-- Two files of one byte each; the first submission is refused. -/
def sampleKernel : Kernel where
  files fd := [UInt8.ofNat (fd + 1)]
  turn turn := { answer := if turn = 0 then .failed "EAGAIN" else .took 1, awaited := (0, 1) }

def sampleProvider : Provider := ⟨sampleKernel, 2, 2, by decide, by decide⟩

def sampleRing : Ring := { buffers := fun _ => [] }

/-- The same provider over a kernel that refuses nothing. -/
def quietProvider : Provider :=
  ⟨{ sampleKernel with turn := fun _ => { answer := .took 1, awaited := (0, 1) } }, 2, 2,
    by decide, by decide⟩

def refusedRing : Ring := (sampleProvider.batch [⟨0, 0, 1⟩] sampleRing).2

end Sample

end Provider

end Q38.IoUring
