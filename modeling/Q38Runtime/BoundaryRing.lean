import Mathlib

/-!
The boundary ring of `cuda_transport.cu`: calls of `copy_from_device` on any
number of threads, the leases they return and the releases of these. A critical
section of the mutex is one step, and so is every call of the CUDA runtime, which
may fail. A lease keeps the state of the ring alive, so that it is released in the
same way once the ring object is gone. The device buffers and their contents are
left out.
-/
namespace Q38.BoundaryRing

/-- The slot of a copy or of a lease, and the words copied. -/
structure Held where
  slot : Nat
  words : Nat
  deriving DecidableEq

/-- The calls of the `try` block, in order. -/
inductive CudaCall where
  | setDevice
  | memsetChecksum
  | checksumKernel
  | copyChecksum
  | recordChecksum
  | copyBoundary
  | recordReady
  | synchronizeChecksum
  deriving DecidableEq

def copyCalls : List CudaCall :=
  [.setDevice, .memsetChecksum, .checksumKernel, .copyChecksum, .recordChecksum, .copyBoundary,
    .recordReady, .synchronizeChecksum]

/-- Where a call of `copy_from_device` is: before it looks for a slot, in its
wait, before the rest of its `try` block, in its handler, before it counts the
transfer and before it makes the lease. -/
inductive Copy where
  | looking (words : Nat)
  | asleep (words : Nat)
  | copying (held : Held) (calls : List CudaCall)
  | failed (held : Held)
  | copied (held : Held)
  | leasing (held : Held)
  deriving DecidableEq

structure Statistics where
  transfers : Nat
  bytes : Nat
  waits : Nat
  deriving DecidableEq

/-- `notifying` counts the threads that have returned a slot and are yet to call
`notify_one`; `alive` says whether the ring object exists. -/
structure Ring where
  capacityWords : Nat
  slots : Nat
  leased : Nat → Bool
  cursor : Nat
  statistics : Statistics
  copies : List Copy
  leases : List Held
  notifying : Nat
  alive : Bool

def setLeased (leased : Nat → Bool) (slot : Nat) (value : Bool) : Nat → Bool :=
  fun other => if other = slot then value else leased other

/-- The loop over the slots from the cursor on. -/
def findSlot (ring : Ring) : Option Nat :=
  ((List.range ring.slots).map fun attempt => (ring.cursor + attempt) % ring.slots).find?
    fun candidate => !ring.leased candidate

def makeRing (slots capacityWords : Nat) : Ring where
  capacityWords := capacityWords
  slots := slots
  leased := fun _ => false
  cursor := 0
  statistics := { transfers := 0, bytes := 0, waits := 0 }
  copies := []
  leases := []
  notifying := 0
  alive := true

/-- The copy that a thread looks for a slot with. -/
def look (ring : Ring) (words : Nat) : Copy × Ring :=
  match findSlot ring with
  | some slot =>
      (.copying { slot := slot, words := words } copyCalls,
        { ring with
          cursor := (slot + 1) % ring.slots
          leased := setLeased ring.leased slot true })
  | none =>
      (.asleep words,
        { ring with statistics := { ring.statistics with waits := ring.statistics.waits + 1 } })

/-- A slot goes back to the ring, and its thread is to notify a waiting copy. -/
def restore (ring : Ring) (slot : Nat) : Ring :=
  { ring with leased := setLeased ring.leased slot false, notifying := ring.notifying + 1 }

inductive Event where
  | call
  | look
  | cuda
  | cudaFailed
  | restore
  | count
  | lease
  | leaseFailed
  | release
  | notify
  | wake
  | destroy
  deriving DecidableEq

/-- The ring object is destroyed when none of its calls is running. -/
inductive Step : Ring → Event → Ring → Prop
  | call (ring : Ring) (words : Nat) (alive : ring.alive = true)
      (valid : words ≠ 0 ∧ words ≤ ring.capacityWords) :
      Step ring .call { ring with copies := .looking words :: ring.copies }
  | look (ring : Ring) (before after : List Copy) (words : Nat)
      (at_ : ring.copies = before ++ .looking words :: after) :
      Step ring .look
        { (look ring words).2 with copies := before ++ (look ring words).1 :: after }
  | cuda (ring : Ring) (before after : List Copy) (held : Held) (first : CudaCall)
      (rest : List CudaCall) (at_ : ring.copies = before ++ .copying held (first :: rest) :: after) :
      Step ring .cuda
        { ring with
          copies := before ++
            (if rest = [] then Copy.copied held else Copy.copying held rest) :: after }
  | cudaFailed (ring : Ring) (before after : List Copy) (held : Held) (calls : List CudaCall)
      (at_ : ring.copies = before ++ .copying held calls :: after) :
      Step ring .cudaFailed { ring with copies := before ++ .failed held :: after }
  | restore (ring : Ring) (before after : List Copy) (held : Held)
      (at_ : ring.copies = before ++ .failed held :: after) :
      Step ring .restore { restore ring held.slot with copies := before ++ after }
  | count (ring : Ring) (before after : List Copy) (held : Held)
      (at_ : ring.copies = before ++ .copied held :: after) :
      Step ring .count
        { ring with
          copies := before ++ .leasing held :: after
          statistics :=
            { ring.statistics with
              transfers := ring.statistics.transfers + 1
              bytes := ring.statistics.bytes + held.words * 2 } }
  | lease (ring : Ring) (before after : List Copy) (held : Held)
      (at_ : ring.copies = before ++ .leasing held :: after) :
      Step ring .lease { ring with copies := before ++ after, leases := held :: ring.leases }
  | leaseFailed (ring : Ring) (before after : List Copy) (held : Held)
      (at_ : ring.copies = before ++ .leasing held :: after) :
      Step ring .leaseFailed { ring with copies := before ++ after }
  | release (ring : Ring) (before after : List Held) (held : Held)
      (at_ : ring.leases = before ++ held :: after) :
      Step ring .release { restore ring held.slot with leases := before ++ after }
  | notify (ring : Ring) (before after : List Copy) (words : Nat) (pending : 0 < ring.notifying)
      (at_ : ring.copies = before ++ .asleep words :: after) :
      Step ring .notify
        { ring with
          copies := before ++ .looking words :: after
          notifying := ring.notifying - 1 }
  | notifyNobody (ring : Ring) (pending : 0 < ring.notifying)
      (nobody : ∀ words, Copy.asleep words ∉ ring.copies) :
      Step ring .notify { ring with notifying := ring.notifying - 1 }
  | wake (ring : Ring) (before after : List Copy) (words : Nat)
      (at_ : ring.copies = before ++ .asleep words :: after) :
      Step ring .wake { ring with copies := before ++ .looking words :: after }
  | destroy (ring : Ring) (alive : ring.alive = true) (unused : ring.copies = []) :
      Step ring .destroy { ring with alive := false }

/-- A run in which the events are those given, in order. -/
inductive Run : Ring → List Event → Ring → Prop
  | here (ring : Ring) : Run ring [] ring
  | next (ring middle after : Ring) (events : List Event) (event : Event)
      (run : Run ring events middle) (step : Step middle event after) :
      Run ring (events ++ [event]) after

/-- The slot that a call has taken. -/
def Copy.slot? : Copy → Option Nat
  | .looking _ | .asleep _ => none
  | .copying held _ | .failed held | .copied held | .leasing held => some held.slot

def heldBy (copies : List Copy) (leases : List Held) : List Nat :=
  copies.filterMap Copy.slot? ++ leases.map Held.slot

/-- The slots of all copies in progress and of all live leases. -/
def holders (ring : Ring) : List Nat := heldBy ring.copies ring.leases

end Q38.BoundaryRing
