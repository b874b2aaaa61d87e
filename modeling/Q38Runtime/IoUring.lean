import Q38Runtime.Contracts
import Q38Runtime.Imperative

/-! `PleStore::IoUringProvider` of `ple.cc`, and the two rings it shares with the
kernel. The kernel completes reads in an order of its own and may refuse or fail
any of them. What lies in a ring stays there when a batch throws. -/
namespace Q38.IoUring
open Contracts Imperative

abbrev Bytes := List UInt8

/-- One IORING_OP_READ_FIXED. `buffer` is its address, its buffer index and its user
data; `position` is where the tail of the submission ring stood. -/
structure Sqe where
  fd : Nat
  off : Nat
  len : Nat
  buffer : Nat
  position : Nat
  deriving DecidableEq, Repr

structure Cqe where
  userData : Nat
  res : Int
  deriving DecidableEq, Repr

/-- `queued` lies between head and tail of the submission ring, `completions` between
those of the completion ring; the kernel has taken `flying`, and `history` is what it
has completed, by position. -/
structure Ring where
  tail : Nat := 0
  queued : List Sqe := []
  flying : List Sqe := []
  completions : List Cqe := []
  history : List (Nat × Int) := []
  buffers : Nat → Bytes
  turns : Nat := 0

/-- What `io_uring_enter` returns once it is not interrupted any more. -/
inductive EnterAnswer where
  | failed (what : String)
  | took (count : Nat)
  deriving DecidableEq, Repr

/-- A turn of the kernel: its answer, and what it completes before the program
looks again, each with its place among the reads in flight and its result. A call
that fails ends the batch, so what completes then is seen in a later turn; a wait
that does not fail ends with `awaited`. -/
structure Turn where
  answer : EnterAnswer
  completes : List (Nat × Int) := []
  awaited : Nat × Int := (0, 0)

structure Kernel where
  files : Nat → Bytes
  turn : Nat → Turn
  strerror : Int → String := fun _ => ""

/-- What ends a call: an exception, or a wait that has nothing to end it. -/
inductive Fault where
  | thrown (thrown : Thrown)
  | blocked
  deriving DecidableEq, Repr

def runtime (what : String) : Fault := .thrown (.runtimeError what)

abbrev RingCall := Proc Fault Ring

/-- Complete one read: its bytes are in its buffer when its completion is posted. -/
def complete (files : Nat → Bytes) (ring : Ring) (which : Nat × Int) : Ring :=
  match ring.flying[which.1]? with
  | none => ring
  | some entry =>
      let bytes := ((files entry.fd).drop entry.off).take (min which.2.toNat entry.len)
      let res : Int := if which.2 < 0 then which.2 else bytes.length
      { ring with
        flying := ring.flying.eraseIdx which.1
        completions := ring.completions ++ [⟨entry.buffer, res⟩]
        history := ring.history ++ [(entry.position, res)]
        buffers := Function.update ring.buffers entry.buffer
          (bytes ++ (ring.buffers entry.buffer).drop bytes.length) }

def completeAll (files : Nat → Bytes) (which : List (Nat × Int)) (ring : Ring) : Ring :=
  which.foldl (complete files) ring

structure ReadRequest where
  fd : Nat
  offset : Nat
  expectedBytes : Nat
  deriving DecidableEq, Repr

/-- The locals of `read`. The last free buffer comes first; `pages` are the outputs. -/
structure Batch where
  active : Nat → Option Nat := fun _ => none
  freeBuffers : List Nat
  nextRequest : Nat := 0
  completed : Nat := 0
  inFlight : Nat := 0
  physicalBytes : Nat := 0
  pages : List Bytes

section Read
variable (kernel : Kernel) (sqEntries pageBytes : Nat) (requests : List ReadRequest)

/-- `io_uring_enter` that submits. -/
def enter (toSubmit : Nat) : RingCall Nat := fun ring =>
  let turn := kernel.turn ring.turns
  let ring := { ring with turns := ring.turns + 1 }
  match turn.answer with
  | .failed what => (.error (runtime ("io_uring_enter failed: " ++ what)), ring)
  | .took count =>
      let count := min count (min toSubmit ring.queued.length)
      (.ok count, completeAll kernel.files turn.completes { ring with
        queued := ring.queued.drop count
        flying := ring.flying ++ ring.queued.take count })

/-- Queue reads while there are requests, buffers and room; the free buffers are given. -/
def fill : List Nat → Batch → RingCall Batch
  | [], batch => pure { batch with freeBuffers := [] }
  | buffer :: rest, batch => do
      let queued ← Proc.read (·.queued)
      match requests[batch.nextRequest]? with
      | none => pure { batch with freeBuffers := buffer :: rest }
      | some request =>
          if queued.length < sqEntries then do
            Proc.write fun ring => { ring with
              tail := ring.tail + 1
              queued := ring.queued ++
                [⟨request.fd, request.offset, pageBytes, buffer, ring.tail⟩] }
            fill rest { batch with
              active := Function.update batch.active buffer (some batch.nextRequest)
              nextRequest := batch.nextRequest + 1 }
          else pure { batch with freeBuffers := buffer :: rest }

/-- The submission loop, `left` reads before its end; it takes at most that many turns. -/
def submitAll : Nat → Nat → RingCall Unit
  | 0, _ => pure ()
  | fuel + 1, left =>
      if left = 0 then pure ()
      else do
        let count ← enter kernel left
        Proc.ensure (count ≠ 0) (runtime "io_uring submitted no PLE reads")
        submitAll fuel (left - count)

/-- Wait until the completion ring holds something. -/
def waitCompletion : RingCall Unit := fun ring =>
  if ring.completions ≠ [] then (.ok (), ring)
  else
    let turn := kernel.turn ring.turns
    let ring := { ring with turns := ring.turns + 1 }
    match turn.answer with
    | .failed what => (.error (runtime ("io_uring completion wait failed: " ++ what)), ring)
    | .took _ =>
        if ring.flying = [] then (.error .blocked, ring)
        else (.ok (), completeAll kernel.files
          ((turn.awaited.1 % ring.flying.length, turn.awaited.2) :: turn.completes) ring)

/-- Take one completion. -/
def takeCompletion (buffers : Nat → Bytes) (completion : Cqe) (batch : Batch) :
    Except Fault Batch :=
  let failure := if completion.res < 0
    then "PLE io_uring read failed: " ++ kernel.strerror completion.res
    else "PLE io_uring completion identity is invalid"
  match batch.active completion.userData with
  | none => .error (runtime failure)
  | some index =>
      match requests[index]? with
      | none => .error (runtime failure)
      | some request =>
          if completion.res < 0 then .error (runtime failure)
          else
            let bytes := completion.res.toNat
            if bytes < request.expectedBytes ∨ bytes > pageBytes then
              .error (runtime "PLE io_uring direct read was short")
            else .ok { batch with
              active := Function.update batch.active completion.userData none
              freeBuffers := completion.userData :: batch.freeBuffers
              completed := batch.completed + 1
              inFlight := batch.inFlight - 1
              physicalBytes := batch.physicalBytes + bytes
              pages := batch.pages.modify index fun page =>
                (buffers completion.userData).take bytes ++ page.drop bytes }

/-- Take the completions seen so far. Their head is stored behind the last of them. -/
def takeCompletions (batch : Batch) : RingCall Batch := fun ring =>
  match ring.completions.foldlM
      (fun batch completion => takeCompletion kernel pageBytes requests ring.buffers completion batch)
      batch with
  | .error fault => (.error fault, ring)
  | .ok batch => (.ok batch, { ring with completions := [] })

/-- One turn of the window. -/
def turnWindow (batch : Batch) : RingCall Batch := do
  let filled ← fill sqEntries pageBytes requests batch.freeBuffers batch
  let queued := filled.nextRequest - batch.nextRequest
  submitAll kernel queued queued
  let filled := { filled with inFlight := filled.inFlight + queued }
  Proc.ensure (filled.inFlight ≠ 0) (runtime "PLE io_uring made no progress")
  waitCompletion kernel
  takeCompletions kernel pageBytes requests filled

/-- The window, turned until every request is completed; each turn completes one. -/
def turnWindows : Nat → Batch → RingCall Batch
  | 0, _ => Proc.throwing .blocked
  | fuel + 1, batch =>
      if batch.completed < requests.length then do
        let turned ← turnWindow kernel sqEntries pageBytes requests batch
        turnWindows fuel turned
      else pure batch

/-- `IoUringProvider::read` into pages of zeros. -/
def read (queueDepth : Nat) : RingCall (List Bytes × Nat) := do
  Proc.ensure (requests ≠ []) (.thrown (.invalidArgument "PLE io_uring batch size is invalid"))
  let batch ← turnWindows kernel sqEntries pageBytes requests (requests.length + 1) {
    freeBuffers := List.range queueDepth
    pages := List.replicate requests.length (List.replicate pageBytes 0) }
  pure (batch.pages, batch.physicalBytes)

end Read

end Q38.IoUring
