import Mathlib

/-!
Loops whose variable doubles or halves.
-/
namespace HalvingLoops

/-- The values of a loop variable that is halved until it is 0. -/
def halvings (value : Nat) : List Nat :=
  if value = 0 then [] else value :: halvings (value / 2)

/-- The values of a loop variable that is doubled while it stays within `bound`. -/
def doublings (value bound : Nat) : List Nat :=
  if 0 < value ∧ value ≤ bound then value :: doublings (2 * value) bound else []
termination_by bound + 1 - value

theorem halvings_zero : halvings 0 = [] := by rw [halvings, if_pos rfl]

/-- The loop that starts at half of a power of two. -/
theorem halvings_below (exponent : Nat) :
    halvings (2 ^ (exponent + 1) / 2) = 2 ^ exponent :: halvings (2 ^ exponent / 2) := by
  have half : 2 ^ (exponent + 1) / 2 = 2 ^ exponent := by
    rw [Nat.pow_succ, Nat.mul_div_cancel _ Nat.two_pos]
  rw [half, halvings, if_neg (Nat.two_pow_pos _).ne']

theorem doublings_pow (first count : Nat) :
    doublings (2 ^ first) (2 ^ (first + count)) =
      (List.range' first (count + 1)).map (2 ^ ·) := by
  induction count generalizing first with
  | zero =>
      rw [doublings, if_pos ⟨Nat.two_pow_pos _, Nat.le_refl _⟩, doublings, if_neg]
      · rfl
      · rintro ⟨-, small⟩
        have positive := Nat.two_pow_pos first
        rw [Nat.add_zero] at small
        omega
  | succ count ih =>
      have within : 2 ^ first ≤ 2 ^ (first + (count + 1)) :=
        Nat.pow_le_pow_right Nat.two_pos (Nat.le_add_right _ _)
      rw [doublings, if_pos ⟨Nat.two_pow_pos _, within⟩, List.range'_succ, List.map_cons,
        ← Nat.pow_succ', ← ih (first + 1), Nat.add_right_comm, Nat.add_assoc]

theorem doublings_two (exponent : Nat) :
    doublings 2 (2 ^ exponent) = (List.range' 1 exponent).map (2 ^ ·) := by
  cases exponent with
  | zero =>
      rw [doublings, if_neg (by decide)]
      rfl
  | succ exponent =>
      have doubled := doublings_pow 1 exponent
      rwa [Nat.add_comm 1 exponent] at doubled

theorem halvings_le {value : Nat} : ∀ step ∈ halvings value, step ≤ value := by
  induction value using Nat.strongRecOn with
  | ind value ih =>
      intro step listed
      rw [halvings] at listed
      split at listed
      · cases listed
      · next positive =>
          rcases List.mem_cons.mp listed with rfl | later
          · exact Nat.le_refl _
          · have smaller : value / 2 < value := by omega
            have less := ih (value / 2) smaller step later
            omega

section Trees

variable {α : Type} {op : α → α → α}

/-- A tree reduction in place: between two barriers every place below the offset
takes in the place that lies the offset behind it. -/
def reduceTree (op : α → α → α) (array : Nat → α) (offsets : List Nat) : Nat → α :=
  offsets.foldl
    (fun array offset place =>
      if place < offset then op (array place) (array (place + offset)) else array place) array

variable [Std.Associative op] [Std.Commutative op]

theorem foldl_pairs (list : List Nat) (first second : Nat → α) (start start' : α) :
    (list.map fun place => op (first place) (second place)).foldl op (op start start') =
      op ((list.map first).foldl op start) ((list.map second).foldl op start') := by
  induction list generalizing start start' with
  | nil => rfl
  | cons place rest ih =>
      rw [List.map_cons, List.foldl_cons, List.map_cons, List.foldl_cons, List.map_cons,
        List.foldl_cons, ← ih]
      congr 1
      ac_rfl

/-- The tree reduces all places, whose number is a power of two. -/
theorem reduce_tree_eq {unit : α} [Std.LawfulIdentity op unit] (exponent : Nat)
    (array : Nat → α) :
    reduceTree op array (halvings (2 ^ exponent / 2)) 0 =
      ((List.range (2 ^ exponent)).map array).foldl op unit := by
  induction exponent generalizing array with
  | zero =>
      rw [show 2 ^ 0 / 2 = 0 from rfl, halvings_zero]
      exact (Std.LawfulLeftIdentity.left_id (array 0)).symm
  | succ exponent ih =>
      have halved : ((List.range (2 ^ exponent)).map fun place =>
          if place < 2 ^ exponent then op (array place) (array (place + 2 ^ exponent))
          else array place) =
          (List.range (2 ^ exponent)).map fun place =>
            op (array place) (array (2 ^ exponent + place)) := by
        apply List.map_congr_left
        intro place inside
        rw [if_pos (List.mem_range.mp inside), Nat.add_comm]
      have units : unit = op unit unit := (Std.LawfulLeftIdentity.left_id unit).symm
      rw [halvings_below, reduceTree, List.foldl_cons]
      refine (ih _).trans ?_
      rw [halved, Nat.pow_succ, Nat.mul_two, List.range_add, List.map_append, List.foldl_append,
        List.map_map]
      conv_lhs => rw [units, foldl_pairs]
      generalize (List.range (2 ^ exponent)).map array = front
      have carried : ∀ back : List α, back.foldl op (op (front.foldl op unit) unit) =
          op (front.foldl op unit) (back.foldl op unit) := fun back => List.foldl_assoc
      have same : op (front.foldl op unit) unit = front.foldl op unit :=
        Std.LawfulRightIdentity.right_id _
      rw [same] at carried
      exact (carried _).symm

end Trees

end HalvingLoops
