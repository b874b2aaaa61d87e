import Mathlib.Algebra.BigOperators.Group.List.Basic
import Mathlib.Algebra.GroupWithZero.Nat
import Mathlib.Data.List.Nodup

/-!
Totals kept under keys, in the order in which the keys came first. A total under a
key, or over all keys of a kind, is what the items of that key or kind add up to.
-/
namespace Q38.KeyedTotals

universe u v
variable {Key : Type u} {Item : Type v}

def totalWhere (chosen : Key → Bool) (totals : List (Key × Nat)) : Nat :=
  ((totals.filter fun entry => chosen entry.1).map Prod.snd).sum

@[simp] theorem total_where_nil (chosen : Key → Bool) : totalWhere chosen [] = 0 := rfl

theorem total_where_cons (chosen : Key → Bool) (entry : Key × Nat) (rest : List (Key × Nat)) :
    totalWhere chosen (entry :: rest) =
      (if chosen entry.1 then entry.2 else 0) + totalWhere chosen rest := by
  unfold totalWhere
  by_cases hit : chosen entry.1
  · simp [hit]
  · simp [hit]

variable [DecidableEq Key]

def bump (key : Key) (amount : Nat) : List (Key × Nat) → List (Key × Nat)
  | [] => [(key, amount)]
  | entry :: rest =>
      if entry.1 = key then (entry.1, entry.2 + amount) :: rest
      else entry :: bump key amount rest

/-- A key that never came has no total, which counts as zero. -/
def count (key : Key) : List (Key × Nat) → Nat
  | [] => 0
  | entry :: rest => if entry.1 = key then entry.2 else count key rest

def tally (key : Item → Key) (amount : Item → Nat) (items : List Item) : List (Key × Nat) :=
  items.foldl (fun totals item => bump (key item) (amount item) totals) []

theorem count_bump (key other : Key) (amount : Nat) (totals : List (Key × Nat)) :
    count other (bump key amount totals) =
      count other totals + if key = other then amount else 0 := by
  induction totals with
  | nil => simp [bump, count]
  | cons entry rest ih =>
      simp only [bump]
      by_cases met : entry.1 = key
      · by_cases same : key = other
        · simp [count, met, same]
        · simp [count, met, same]
      · rw [if_neg met, count, count, ih]
        by_cases same : entry.1 = other
        · have apart : key ≠ other := fun equal => met (same.trans equal.symm)
          simp [same, apart]
        · simp [same]

theorem total_where_bump (chosen : Key → Bool) (key : Key) (amount : Nat)
    (totals : List (Key × Nat)) :
    totalWhere chosen (bump key amount totals) =
      totalWhere chosen totals + if chosen key then amount else 0 := by
  induction totals with
  | nil => simp [bump, total_where_cons]
  | cons entry rest ih =>
      simp only [bump]
      by_cases met : entry.1 = key
      · rw [if_pos met, total_where_cons, total_where_cons, met]
        by_cases hit : chosen key
        · simp only [hit, if_true]
          omega
        · simp [hit]
      · rw [if_neg met, total_where_cons, total_where_cons, ih, Nat.add_assoc]

/-- An amount is bumped under its key at each item, whatever else the loop does. -/
theorem count_folded (key : Item → Key) (amount : Item → Nat) (items : List Item)
    (start : List (Key × Nat)) (other : Key) :
    count other (items.foldl (fun totals item => bump (key item) (amount item) totals) start) =
      count other start +
        ((items.filter fun item => key item = other).map amount).sum := by
  induction items generalizing start with
  | nil => simp
  | cons item rest ih =>
      rw [List.foldl_cons, ih, count_bump]
      by_cases same : key item = other
      · simp [same, Nat.add_assoc]
      · simp [same]

theorem count_tally (key : Item → Key) (amount : Item → Nat) (items : List Item) (other : Key) :
    count other (tally key amount items) =
      ((items.filter fun item => key item = other).map amount).sum := by
  rw [tally, count_folded, count, Nat.zero_add]

theorem total_where_folded (key : Item → Key) (amount : Item → Nat) (items : List Item)
    (start : List (Key × Nat)) (chosen : Key → Bool) :
    totalWhere chosen
        (items.foldl (fun totals item => bump (key item) (amount item) totals) start) =
      totalWhere chosen start +
        ((items.filter fun item => chosen (key item)).map amount).sum := by
  induction items generalizing start with
  | nil => simp
  | cons item rest ih =>
      rw [List.foldl_cons, ih, total_where_bump]
      by_cases hit : chosen (key item)
      · simp [hit, Nat.add_assoc]
      · simp [hit]

theorem total_where_tally (key : Item → Key) (amount : Item → Nat) (items : List Item)
    (chosen : Key → Bool) :
    totalWhere chosen (tally key amount items) =
      ((items.filter fun item => chosen (key item)).map amount).sum := by
  rw [tally, total_where_folded, total_where_nil, Nat.zero_add]

theorem keys_bump (key : Key) (amount : Nat) (totals : List (Key × Nat)) :
    (bump key amount totals).map Prod.fst =
      if key ∈ totals.map Prod.fst then totals.map Prod.fst
      else totals.map Prod.fst ++ [key] := by
  induction totals with
  | nil => simp [bump]
  | cons entry rest ih =>
      simp only [bump]
      by_cases met : entry.1 = key
      · simp [met]
      · have other : key ≠ entry.1 := Ne.symm met
        rw [if_neg met, List.map_cons, ih]
        by_cases here : key ∈ rest.map Prod.fst
        · simp [here]
        · simp [here, other]

theorem keys_tally_nodup (key : Item → Key) (amount : Item → Nat) (items : List Item) :
    ((tally key amount items).map Prod.fst).Nodup := by
  have from_ (start : List (Key × Nat)) (distinct : (start.map Prod.fst).Nodup) :
      ((items.foldl (fun totals item => bump (key item) (amount item) totals) start).map
        Prod.fst).Nodup := by
    induction items generalizing start with
    | nil => exact distinct
    | cons item rest ih =>
        apply ih
        rw [keys_bump]
        split
        · exact distinct
        · next fresh =>
            exact List.nodup_append.mpr ⟨distinct, List.nodup_singleton _, fun met member last
              final same => fresh (List.mem_singleton.mp final ▸ same ▸ member)⟩
  exact from_ [] List.nodup_nil

theorem count_eq_total_where {totals : List (Key × Nat)} (distinct : (totals.map Prod.fst).Nodup)
    (key : Key) : count key totals = totalWhere (fun other => other = key) totals := by
  induction totals with
  | nil => rfl
  | cons entry rest ih =>
      rw [List.map_cons, List.nodup_cons] at distinct
      rw [count, total_where_cons, ih distinct.2]
      by_cases met : entry.1 = key
      · have none_ : rest.filter (fun other => other.1 = key) = [] := by
          rw [List.filter_eq_nil_iff]
          intro other member same
          have same : other.1 = key := by simpa using same
          exact distinct.1 (met.trans same.symm ▸ List.mem_map_of_mem member)
        simp [met, totalWhere, none_]
      · simp [met]

/-- The order of the keys does not matter. -/
theorem count_perm {totals others : List (Key × Nat)} (same : totals.Perm others)
    (distinct : (totals.map Prod.fst).Nodup) (key : Key) :
    count key totals = count key others := by
  rw [count_eq_total_where distinct,
    count_eq_total_where ((same.map Prod.fst).nodup_iff.mp distinct)]
  exact ((same.filter _).map Prod.snd).sum_eq

section Kinds
variable {amount : Item → Nat} {first second both : Item → Bool}

/-- Two kinds that share no item add up to their union. -/
theorem sum_apart {items : List Item}
    (union : ∀ item ∈ items, both item = (first item || second item))
    (apart : ∀ item ∈ items, (first item && second item) = false) :
    ((items.filter first).map amount).sum + ((items.filter second).map amount).sum =
      ((items.filter both).map amount).sum := by
  induction items with
  | nil => rfl
  | cons item rest ih =>
      have rest_ := ih (fun other member => union other (List.mem_cons_of_mem item member))
        fun other member => apart other (List.mem_cons_of_mem item member)
      have here := union item List.mem_cons_self
      have once := apart item List.mem_cons_self
      cases one : first item with
      | true =>
          have two : second item = false := by simpa [one] using once
          simp only [List.filter_cons, here, one, two, Bool.or_false, if_true, Bool.false_eq_true,
            if_false, List.map_cons, List.sum_cons]
          omega
      | false =>
          cases two : second item with
          | true =>
              simp only [List.filter_cons, here, one, two, Bool.or_true, if_true,
                Bool.false_eq_true, if_false, List.map_cons, List.sum_cons]
              omega
          | false =>
              simpa only [List.filter_cons, here, one, two, Bool.or_self, Bool.false_eq_true,
                if_false] using rest_

end Kinds

end Q38.KeyedTotals
