import Q38Runtime.StridedLoops

/-!
Copying through a ring of staging buffers. A copy is queued on an in-order
stream and reads its buffer only when the stream reaches it, which may be at any
time up to the next wait for that buffer. Whatever the stream has executed so
far, what it will have written in the end is what copies at once would write.
-/
namespace StagedUpload

open StridedLoops

variable {β : Type}

/-- `chunk` written at `target`. -/
def place (memory : Nat → β) (target : Nat) (chunk : List β) : Nat → β := fun address =>
  if target ≤ address then (chunk[address - target]?).getD (memory address)
  else memory address

structure Copy where
  buffer : Nat
  bytes : Nat
  target : Nat

structure Uploader (β : Type) where
  buffers : Nat → Nat → β
  device : Nat → β
  pending : List Copy
  cursor : Nat

/-- What the stream does when it reaches a copy. -/
def transfer (buffers : Nat → Nat → β) (device : Nat → β) (copy : Copy) : Nat → β :=
  place device copy.target ((List.range copy.bytes).map (buffers copy.buffer))

/-- The stream executes its first `count` copies. -/
def execute (count : Nat) (uploader : Uploader β) : Uploader β :=
  { uploader with
    device := (uploader.pending.take count).foldl (transfer uploader.buffers) uploader.device
    pending := uploader.pending.drop count }

/-- Wait until the stream is past the last copy that reads `buffer`. -/
def waitFor (buffer : Nat) (uploader : Uploader β) : Uploader β :=
  execute (uploader.pending.length -
    uploader.pending.reverse.findIdx fun copy => copy.buffer = buffer) uploader

/-- Fill the next buffer of a ring of `ring` with `chunk` and queue its copy; the
stream executes `eager` copies before the caller goes on. -/
def push (ring eager : Nat) (chunk : List β) (target : Nat) (uploader : Uploader β) :
    Uploader β :=
  let buffer := uploader.cursor % ring
  let ready := waitFor buffer uploader
  execute eager
    { ready with
      buffers := Function.update ready.buffers buffer (place (ready.buffers buffer) 0 chunk)
      pending := ready.pending ++ [{ buffer := buffer, bytes := chunk.length, target := target }]
      cursor := uploader.cursor + 1 }

/-- Wait for the whole stream. -/
def synchronize (uploader : Uploader β) : Uploader β := execute uploader.pending.length uploader

/-- What the device will hold once the stream has executed everything. -/
def Uploader.settled (uploader : Uploader β) : Nat → β :=
  uploader.pending.foldl (transfer uploader.buffers) uploader.device

theorem execute_settled (count : Nat) (uploader : Uploader β) :
    (execute count uploader).settled = uploader.settled := by
  unfold Uploader.settled execute
  rw [← List.foldl_append, List.take_append_drop]

theorem wait_for_settled (buffer : Nat) (uploader : Uploader β) :
    (waitFor buffer uploader).settled = uploader.settled :=
  execute_settled _ uploader

/-- After the wait no queued copy reads the buffer. -/
theorem wait_for_unused (buffer : Nat) (uploader : Uploader β) :
    ∀ copy ∈ (waitFor buffer uploader).pending, copy.buffer ≠ buffer := by
  intro copy listed
  simp only [waitFor, execute] at listed
  have early : copy ∈ uploader.pending.reverse.take
      (uploader.pending.reverse.findIdx fun copy => copy.buffer = buffer) := by
    have swapped := List.mem_reverse.mpr listed
    rw [List.reverse_drop] at swapped
    have within : (uploader.pending.reverse.findIdx fun copy => copy.buffer = buffer) ≤
        uploader.pending.length := by
      rw [← List.length_reverse]
      exact List.findIdx_le_length
    rwa [Nat.sub_sub_self within] at swapped
  obtain ⟨place, inside, rfl⟩ := List.getElem_of_mem early
  rw [List.length_take] at inside
  rw [List.getElem_take]
  have missed := List.not_of_lt_findIdx (Nat.lt_of_lt_of_le inside (Nat.min_le_left _ _))
  simpa using missed

theorem transfers_congr {first second : Nat → Nat → β} {copies : List Copy}
    (same : ∀ copy ∈ copies, first copy.buffer = second copy.buffer) (device : Nat → β) :
    copies.foldl (transfer first) device = copies.foldl (transfer second) device := by
  induction copies generalizing device with
  | nil => rfl
  | cons copy copies ih =>
      rw [List.foldl_cons, List.foldl_cons]
      have here : transfer first device copy = transfer second device copy := by
        unfold transfer
        rw [same copy List.mem_cons_self]
      rw [here]
      exact ih (fun other listed => same other (List.mem_cons_of_mem _ listed)) _

theorem filled_chunk (buffer : Nat → β) (chunk : List β) :
    (List.range chunk.length).map (place buffer 0 chunk) = chunk := by
  apply List.ext_getElem
  · simp
  · intro index inside _
    rw [List.length_map, List.length_range] at inside
    simp [place, inside]

/-- A chunk that is pushed settles as if it were written at once. -/
theorem push_settled (ring eager : Nat) (chunk : List β) (target : Nat) (uploader : Uploader β) :
    (push ring eager chunk target uploader).settled = place uploader.settled target chunk := by
  have unused := wait_for_unused (uploader.cursor % ring) uploader
  have waited := wait_for_settled (uploader.cursor % ring) uploader
  unfold push
  dsimp only
  rw [execute_settled]
  generalize waitFor (uploader.cursor % ring) uploader = ready at *
  unfold Uploader.settled at *
  rw [List.foldl_append, List.foldl_cons, List.foldl_nil]
  have earlier : ready.pending.foldl (transfer (Function.update ready.buffers
      (uploader.cursor % ring) (place (ready.buffers (uploader.cursor % ring)) 0 chunk)))
      ready.device = ready.pending.foldl (transfer ready.buffers) ready.device := by
    apply transfers_congr
    intro copy listed
    exact Function.update_of_ne (unused copy listed) _ _
  rw [earlier, waited]
  simp only [transfer, Function.update_self, filled_chunk]

theorem synchronize_device (uploader : Uploader β) :
    (synchronize uploader).device = uploader.settled := by
  unfold synchronize execute Uploader.settled
  rw [List.take_length]

theorem place_append (memory : Nat → β) (target : Nat) (first second : List β) :
    place (place memory target first) (target + first.length) second =
      place memory target (first ++ second) := by
  funext address
  unfold place
  by_cases before : target ≤ address
  · by_cases early : address - target < first.length
    · rw [if_neg (by omega), if_pos before, if_pos before, List.getElem?_append_left early]
    · rw [if_pos (by omega), if_pos before, if_pos before,
        List.getElem?_append_right (by omega), Nat.sub_sub]
      rw [List.getElem?_eq_none (l := first) (by omega), Option.getD_none]
  · rw [if_neg (by omega), if_neg before, if_neg before]

theorem place_inside (memory : Nat → β) (target : Nat) (chunk : List β) {index : Nat}
    (inside : index < chunk.length) :
    place memory target chunk (target + index) = chunk[index] := by
  unfold place
  rw [if_pos (Nat.le_add_right _ _), Nat.add_sub_cancel_left, List.getElem?_eq_getElem inside,
    Option.getD_some]

theorem place_outside (memory : Nat → β) (target : Nat) (chunk : List β) {address : Nat}
    (outside : address < target ∨ target + chunk.length ≤ address) :
    place memory target chunk address = memory address := by
  unfold place
  split
  · rw [List.getElem?_eq_none (by omega), Option.getD_none]
  · rfl

/-- Push chunks one behind the other. -/
def pushAll (ring : Nat) (eager : Nat → Nat) : List (List β) → Nat → Uploader β → Uploader β
  | [], _, uploader => uploader
  | chunk :: rest, target, uploader =>
      pushAll ring eager rest (target + chunk.length)
        (push ring (eager uploader.cursor) chunk target uploader)

theorem push_all_settled (ring : Nat) (eager : Nat → Nat) (chunks : List (List β)) (target : Nat)
    (uploader : Uploader β) :
    (pushAll ring eager chunks target uploader).settled =
      place uploader.settled target chunks.flatten := by
  induction chunks generalizing target uploader with
  | nil =>
      funext address
      simp [pushAll, place]
  | cons chunk chunks ih =>
      rw [pushAll, ih, push_settled, place_append, List.flatten_cons]

/-- A text cut into pieces of `size`. -/
def pieces (size : Nat) (text : List β) : List (List β) :=
  (strided 0 size text.length).map fun copied => (text.drop copied).take size

theorem pieces_flatten {size : Nat} (positive : 0 < size) (text : List β) :
    (pieces size text).flatten = text := by
  have turns (count : Nat) :
      ((List.range' 0 count size).map fun copied => (text.drop copied).take size).flatten =
        text.take (count * size) := by
    induction count with
    | zero => simp
    | succ count ih =>
        rw [List.range'_concat, List.map_append, List.flatten_append, ih, Nat.succ_mul,
          List.take_add, Nat.zero_add, Nat.mul_comm size]
        simp
  have ceiling := Nat.div_add_mod (text.length - 0 + (size - 1)) size
  have rest := Nat.mod_lt (text.length - 0 + (size - 1)) positive
  rw [Nat.mul_comm] at ceiling
  rw [pieces, strided, turns, List.take_of_length_le (by omega)]

end StagedUpload
