import Mathlib

/-!
Items that follow each other without a gap, each with a start and a length. A
table whose starts were checked with sums modulo a power follows itself exactly
as long as the exact sum of the lengths stays below it.
-/
namespace ConsecutiveRuns

variable {α : Type*} {start length : α → Nat}

/-- Items from `first` up to the last place. -/
inductive Runs (start length : α → Nat) : Nat → List α → Nat → Prop where
  | nil {first : Nat} : Runs start length first [] first
  | cons {first last : Nat} {item : α} {rest : List α} : start item = first → 0 < length item →
      Runs start length (first + length item) rest last →
      Runs start length first (item :: rest) last

/-- The same as it is checked with sums that wrap around. -/
inductive Wrapping (modulus : Nat) (start length : α → Nat) : Nat → List α → Nat → Prop where
  | nil {first : Nat} : Wrapping modulus start length first [] first
  | cons {first last : Nat} {item : α} {rest : List α} : start item = first → 0 < length item →
      Wrapping modulus start length ((first + length item) % modulus) rest last →
      Wrapping modulus start length first (item :: rest) last

theorem wrapping_exact {modulus first last : Nat} {items : List α}
    (checked : Wrapping modulus start length first items last)
    (exact : first + (items.map length).sum < modulus) : Runs start length first items last := by
  induction checked with
  | nil => exact .nil
  | cons here some_ _ ih =>
      rw [List.map_cons, List.sum_cons] at exact
      rw [Nat.mod_eq_of_lt (by omega)] at ih
      exact .cons here some_ (ih (by omega))

/-- It is enough that no single sum wraps around. -/
theorem wrapping_each {modulus first last : Nat} {items : List α}
    (checked : Wrapping modulus start length first items last)
    (each : ∀ item ∈ items, start item + length item < modulus) :
    Runs start length first items last := by
  induction checked with
  | nil => exact .nil
  | @cons first last item rest here some_ _ ih =>
      have fits := each item List.mem_cons_self
      rw [here] at fits
      rw [Nat.mod_eq_of_lt fits] at ih
      exact .cons here some_ (ih fun other later => each other (List.mem_cons_of_mem item later))

/-- One more item at the end. -/
theorem Runs.snoc {first last : Nat} {items : List α} {item : α}
    (runs : Runs start length first items last) (here : start item = last)
    (some_ : 0 < length item) : Runs start length first (items ++ [item]) (last + length item) := by
  induction runs with
  | nil => exact .cons here some_ .nil
  | cons begins more _ ih => exact .cons begins more (ih here)

/-- Without the last item, up to where it starts. -/
theorem runs_concat {first last : Nat} {items : List α} {item : α}
    (runs : Runs start length first (items ++ [item]) last) :
    Runs start length first items (start item) ∧ start item + length item = last := by
  induction items generalizing first with
  | nil =>
      cases runs with
      | cons here _ rest =>
          cases rest
          subst here
          exact ⟨.nil, rfl⟩
  | cons head items ih =>
      cases runs with
      | cons here some_ rest =>
          obtain ⟨earlier, ends⟩ := ih rest
          exact ⟨.cons here some_ earlier, ends⟩

section Exact
variable {first last : Nat} {items : List α} (runs : Runs start length first items last)
include runs

theorem runs_total : first + (items.map length).sum = last := by
  induction runs with
  | nil => simp
  | cons _ _ _ ih =>
      rw [List.map_cons, List.sum_cons]
      omega

theorem runs_bounds {item : α} (listed : item ∈ items) :
    first ≤ start item ∧ start item + length item ≤ last ∧ 0 < length item := by
  induction runs with
  | nil => cases listed
  | cons here some_ rest ih =>
      have total := runs_total rest
      rcases List.mem_cons.mp listed with rfl | later
      · omega
      · have bounds := ih later
        omega

/-- The places of the items are a range in order. -/
theorem runs_places : (items.flatMap fun item => List.range' (start item) (length item)) =
    List.range' first (last - first) := by
  induction runs with
  | nil => simp
  | @cons first last item rest here _ later ih =>
      have total := runs_total later
      rw [List.flatMap_cons, ih, here]
      rw [List.range'_append_1]
      congr 1
      omega

theorem runs_apart : items.Pairwise fun lower upper => start lower + length lower ≤ start upper := by
  induction runs with
  | nil => exact .nil
  | cons here _ rest ih =>
      refine .cons (fun item later => ?_) ih
      have bounds := runs_bounds rest later
      omega

/-- Whoever looks for the last item that starts by a place finds the one around it. -/
theorem runs_find {place : Nat} (begins : first ≤ place) (ends : place < last) :
    ∃ item ∈ items, (items.takeWhile (start · ≤ place)).getLast? = some item ∧
      start item ≤ place ∧ place < start item + length item := by
  induction runs with
  | nil => omega
  | @cons first last item rest here some_ later ih =>
      rw [List.takeWhile_cons_of_pos (by simpa [here] using begins)]
      by_cases beyond : first + length item ≤ place
      · obtain ⟨found, listed, stands, around⟩ := ih beyond ends
        refine ⟨found, List.mem_cons_of_mem item listed, ?_, around⟩
        rw [List.getLast?_cons, stands]
        rfl
      · refine ⟨item, List.mem_cons_self, ?_, by omega⟩
        have stop : rest.takeWhile (start · ≤ place) = [] := by
          cases later with
          | nil => rfl
          | cons next _ _ => exact List.takeWhile_cons_of_neg (by simp only [decide_eq_true_eq]; omega)
        rw [stop]
        rfl

end Exact

end ConsecutiveRuns
