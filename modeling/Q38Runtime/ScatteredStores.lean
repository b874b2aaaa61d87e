import Mathlib

/-!
Buffers of a fixed capacity that many workers store into, each at places of its
own. A store outside the capacity is kept as an overrun. What stands at a place
does not depend on the order of the stores, as long as no two hit the same
place.
-/
namespace ScatteredStores

structure Buffer (α : Type*) where
  capacity : Nat
  cells : Nat → α
  overrun : Bool := false

variable {α ι : Type*}

def Buffer.store (buffer : Buffer α) (index : Nat) (value : α) : Buffer α :=
  if index < buffer.capacity then
    { buffer with cells := Function.update buffer.cells index value }
  else { buffer with overrun := true }

/-- One store for each turn. -/
def storeEach (key : ι → Nat) (value : ι → α) (turns : List ι) (buffer : Buffer α) : Buffer α :=
  turns.foldl (fun buffer turn => buffer.store (key turn) (value turn)) buffer

section Stores
variable {buffer : Buffer α} {key : ι → Nat} {value : ι → α} {turns : List ι}

@[simp] theorem store_capacity (index : Nat) (value : α) :
    (buffer.store index value).capacity = buffer.capacity := by
  unfold Buffer.store
  split <;> rfl

theorem store_inside {index : Nat} (inside : index < buffer.capacity) (value : α) :
    buffer.store index value =
      { buffer with cells := Function.update buffer.cells index value } := if_pos inside

/-- What a list of stores inside the capacity leaves. -/
structure Stored (key : ι → Nat) (value : ι → α) (turns : List ι) (before after : Buffer α) :
    Prop where
  capacity : after.capacity = before.capacity
  overrun : after.overrun = before.overrun
  untouched : ∀ index, (∀ turn ∈ turns, key turn ≠ index) →
    after.cells index = before.cells index
  touched : (turns.map key).Nodup → ∀ turn ∈ turns, after.cells (key turn) = value turn

theorem store_each_stored (inside : ∀ turn ∈ turns, key turn < buffer.capacity) :
    Stored key value turns buffer (storeEach key value turns buffer) := by
  induction turns generalizing buffer with
  | nil => exact ⟨rfl, rfl, fun _ _ => rfl, fun _ _ listed => by cases listed⟩
  | cons turn rest ih =>
      have here := inside turn List.mem_cons_self
      have stored := @ih (buffer.store (key turn) (value turn)) fun other listed => by
        rw [store_capacity]
        exact inside other (List.mem_cons_of_mem turn listed)
      change Stored key value (turn :: rest) buffer
        (storeEach key value rest (buffer.store (key turn) (value turn)))
      rw [store_inside here] at stored ⊢
      constructor
      · exact stored.capacity
      · exact stored.overrun
      · intro index other
        rw [stored.untouched index fun turn listed =>
          other turn (List.mem_cons_of_mem _ listed)]
        exact Function.update_of_ne (other turn List.mem_cons_self).symm _ _
      · intro distinct other listed
        rw [List.map_cons, List.nodup_cons] at distinct
        rcases List.mem_cons.mp listed with rfl | later
        · rw [stored.untouched (key other) fun turn listed same =>
            distinct.1 (List.mem_map.mpr ⟨turn, listed, same⟩)]
          exact Function.update_self _ _ _
        · exact stored.touched distinct.2 other later

/-- A buffer of this capacity without an overrun. -/
structure Room (capacity : Nat) (buffer : Buffer α) : Prop where
  capacity : buffer.capacity = capacity
  quiet : buffer.overrun = false

theorem room_store_each {capacity : Nat} (room : Room capacity buffer)
    (inside : ∀ turn ∈ turns, key turn < capacity) :
    Room capacity (storeEach key value turns buffer) := by
  rw [← room.capacity] at inside
  have stored := @store_each_stored _ _ buffer key value turns inside
  exact ⟨stored.capacity.trans room.capacity, stored.overrun.trans room.quiet⟩

theorem store_each_at {capacity : Nat} (value : ι → α) (room : Room capacity buffer)
    (inside : ∀ turn ∈ turns, key turn < capacity) (distinct : (turns.map key).Nodup) {turn : ι}
    (listed : turn ∈ turns) : (storeEach key value turns buffer).cells (key turn) = value turn := by
  rw [← room.capacity] at inside
  exact (store_each_stored inside).touched distinct turn listed

theorem store_each_beside {capacity : Nat} (room : Room capacity buffer)
    (inside : ∀ turn ∈ turns, key turn < capacity) {index : Nat}
    (other : ∀ turn ∈ turns, key turn ≠ index) :
    (storeEach key value turns buffer).cells index = buffer.cells index := by
  rw [← room.capacity] at inside
  exact (store_each_stored inside).untouched index other

theorem store_each_append (first second : List ι) (buffer : Buffer α) :
    storeEach key value (first ++ second) buffer =
      storeEach key value second (storeEach key value first buffer) := List.foldl_append

theorem store_each_flat {κ : Type*} (key : ι → Nat) (value : ι → α) (groups : List κ)
    (turnsOf : κ → List ι) (buffer : Buffer α) :
    storeEach key value (groups.flatMap turnsOf) buffer =
      groups.foldl (fun buffer group => storeEach key value (turnsOf group) buffer) buffer := by
  induction groups generalizing buffer with
  | nil => rfl
  | cons group rest ih =>
      rw [List.flatMap_cons, List.foldl_cons, ← ih, store_each_append]

theorem store_each_map {κ : Type*} (key : ι → Nat) (value : ι → α) (turns : List κ)
    (turnOf : κ → ι) (buffer : Buffer α) :
    storeEach key value (turns.map turnOf) buffer =
      storeEach (key ∘ turnOf) (value ∘ turnOf) turns buffer := by
  rw [storeEach, List.foldl_map]
  rfl

theorem store_each_congr {key' : ι → Nat} {value' : ι → α}
    (same : ∀ turn ∈ turns, key turn = key' turn ∧ value turn = value' turn) :
    storeEach key value turns buffer = storeEach key' value' turns buffer := by
  induction turns generalizing buffer with
  | nil => rfl
  | cons turn rest ih =>
      obtain ⟨place, content⟩ := same turn List.mem_cons_self
      change storeEach key value rest (buffer.store (key turn) (value turn)) =
        storeEach key' value' rest (buffer.store (key' turn) (value' turn))
      rw [place, content]
      exact ih fun other listed => same other (List.mem_cons_of_mem turn listed)

theorem store_range_succ (value : Nat → α) (count : Nat) :
    (storeEach id value (List.range count) buffer).store count (value count) =
      storeEach id value (List.range (count + 1)) buffer := by
  rw [List.range_succ, store_each_append]
  rfl

/-- A turn for each place below `count`, in some order. -/
theorem room_store_range {capacity count : Nat} {value : Nat → α} {order : List Nat}
    (room : Room capacity buffer) (fits : count ≤ capacity)
    (perm : order.Perm (List.range count)) : Room capacity (storeEach id value order buffer) :=
  room_store_each room fun _ listed =>
    (List.mem_range.mp (perm.mem_iff.mp listed)).trans_le fits

theorem store_range_at {capacity count : Nat} {value : Nat → α} {order : List Nat}
    (room : Room capacity buffer) (fits : count ≤ capacity)
    (perm : order.Perm (List.range count)) {index : Nat} (inside : index < count) :
    (storeEach id value order buffer).cells index = value index := by
  have listed : index ∈ order := perm.mem_iff.mpr (List.mem_range.mpr inside)
  have distinct : (order.map id).Nodup := by
    rw [List.map_id]
    exact perm.nodup_iff.mpr List.nodup_range
  exact store_each_at value room (fun _ listed =>
    (List.mem_range.mp (perm.mem_iff.mp listed)).trans_le fits) distinct listed

end Stores

end ScatteredStores
