import Q38Runtime.StridedLoops

/-!
Selecting the largest keys of an indexed family. A threshold is narrowed by one
digit at a time from a histogram of the keys that still agree with it, and the
keys above the threshold together with the first of the keys that equal it are
the largest ones.
-/
namespace RadixSelection

/-- After some digits: the wanted threshold starts with the digits `leading`,
and `rank` of the keys that start with them are still wanted. -/
structure Narrowed (keys : List Nat) (budget width leading rank : Nat) : Prop where
  positive : 0 < rank
  enough : rank ≤ keys.countP (· / width = leading)
  above : keys.countP (leading < · / width) + rank = budget

/-- The highest bucket at which the keys counted from above reach `rank`, and
the rank that is left inside it. -/
def pick (histogram : Nat → Nat) : Nat → Nat → Nat × Nat
  | 0, rank => (0, rank)
  | bucket + 1, rank =>
      if rank ≤ histogram bucket then (bucket, rank)
      else pick histogram bucket (rank - histogram bucket)

theorem pick_spec (histogram : Nat → Nat) (buckets rank : Nat) (positive : 0 < rank)
    (enough : rank ≤ ∑ digit ∈ Finset.Ico 0 buckets, histogram digit) :
    let picked := pick histogram buckets rank
    picked.1 < buckets ∧ 0 < picked.2 ∧ picked.2 ≤ histogram picked.1 ∧
      (∑ digit ∈ Finset.Ico (picked.1 + 1) buckets, histogram digit) + picked.2 = rank := by
  induction buckets generalizing rank with
  | zero => simp at enough; omega
  | succ bucket ih =>
      rw [Finset.sum_Ico_succ_top (Nat.zero_le _)] at enough
      simp only [pick]
      split
      · next reached => simp [positive, reached]
      · next short =>
          obtain ⟨inside, left, fits, total⟩ :=
            ih (rank - histogram bucket) (by omega) (by omega)
          refine ⟨by omega, left, fits, ?_⟩
          rw [Finset.sum_Ico_succ_top (by omega)]
          omega

theorem sum_countP {α : Type} (holds : α → Prop) [DecidablePred holds] (digit : α → Nat)
    (low high : Nat) (keys : List α) :
    ∑ value ∈ Finset.Ico low high, keys.countP (fun key => holds key ∧ digit key = value) =
      keys.countP (fun key => holds key ∧ low ≤ digit key ∧ digit key < high) := by
  induction keys with
  | nil => simp
  | cons key keys ih =>
      simp only [List.countP_cons, Finset.sum_add_distrib, ih, decide_eq_true_eq]
      congr 1
      by_cases kept : holds key
      · simp [kept, Finset.sum_ite_eq, Finset.mem_Ico]
      · simp [kept]

theorem countP_or {α : Type} (first second : α → Prop) [DecidablePred first]
    [DecidablePred second] (keys : List α) (apart : ∀ key ∈ keys, first key → ¬ second key) :
    keys.countP (fun key => first key ∨ second key) =
      keys.countP (fun key => first key) + keys.countP (fun key => second key) := by
  induction keys with
  | nil => rfl
  | cons key keys ih =>
      have rest := ih fun key listed => apart key (List.mem_cons_of_mem _ listed)
      have here := apart key List.mem_cons_self
      simp only [List.countP_cons, rest, decide_eq_true_eq]
      split <;> split <;> split <;> grind

theorem leading_iff {key width radix leading digit : Nat} (small : digit < radix) :
    key / width = leading * radix + digit ↔
      key / (width * radix) = leading ∧ key / width % radix = digit := by
  rw [← Nat.div_div_eq_div_mul, Nat.div_mod_unique (by omega), Nat.mul_comm radix,
    Nat.add_comm digit]
  exact ⟨fun same => ⟨same.symm, small⟩, fun same => same.1.symm⟩

theorem leading_above {key width radix leading digit : Nat} (small : digit < radix) :
    leading * radix + digit < key / width ↔
      leading < key / (width * radix) ∨
        key / (width * radix) = leading ∧ digit < key / width % radix := by
  rw [← Nat.div_div_eq_div_mul]
  have split := Nat.div_add_mod (key / width) radix
  have below : key / width % radix < radix := Nat.mod_lt _ (by omega)
  generalize key / width / radix = quotient at *
  generalize key / width % radix = rest at *
  rw [← split, Nat.mul_comm radix]
  constructor
  · intro less
    rcases Nat.lt_trichotomy leading quotient with lower | same | higher
    · exact Or.inl lower
    · subst same
      exact Or.inr ⟨rfl, by omega⟩
    · have room : (quotient + 1) * radix ≤ leading * radix := Nat.mul_le_mul_right _ higher
      rw [Nat.succ_mul] at room
      omega
  · rintro (lower | ⟨rfl, less⟩)
    · have room : (leading + 1) * radix ≤ quotient * radix := Nat.mul_le_mul_right _ lower
      rw [Nat.succ_mul] at room
      omega
    · omega

/-- One more digit: the histogram of the next digit over the keys that agree
with the leading ones narrows the threshold. -/
theorem narrow {keys : List Nat} {budget width radix leading rank : Nat}
    {histogram : Nat → Nat} (wide : 0 < radix)
    (narrowed : Narrowed keys budget (width * radix) leading rank)
    (counted : ∀ digit < radix, histogram digit = keys.countP fun key =>
      key / (width * radix) = leading ∧ key / width % radix = digit) :
    let picked := pick histogram radix rank
    picked.1 < radix ∧ Narrowed keys budget width (leading * radix + picked.1) picked.2 := by
  have sums (low : Nat) : ∑ digit ∈ Finset.Ico low radix, histogram digit =
      keys.countP fun key => key / (width * radix) = leading ∧
        low ≤ key / width % radix ∧ key / width % radix < radix := by
    rw [← sum_countP]
    apply Finset.sum_congr rfl
    intro digit listed
    exact counted digit (Finset.mem_Ico.mp listed).2
  have bounded (key : Nat) : key / width % radix < radix := Nat.mod_lt _ wide
  simp only [bounded, and_true] at sums
  have enough : rank ≤ ∑ digit ∈ Finset.Ico 0 radix, histogram digit := by
    rw [sums]
    simpa using narrowed.enough
  obtain ⟨inside, left, fits, total⟩ := pick_spec histogram radix rank narrowed.positive enough
  rw [sums] at total
  refine ⟨inside, left, ?_, ?_⟩
  · simp only [leading_iff inside]
    rw [← counted _ inside]
    exact fits
  · simp only [leading_above inside]
    rw [countP_or]
    · have above := narrowed.above
      simp only [Nat.succ_le_iff] at total
      omega
    · intro key _ greater same
      omega

/-- The digits are determined by the keys and the budget. -/
theorem narrowed_unique {keys : List Nat} {budget width first second rank rank' : Nat}
    (one : Narrowed keys budget width first rank) (other : Narrowed keys budget width second rank') :
    first = second := by
  have ordered {low high rank rank' : Nat} (one : Narrowed keys budget width low rank)
      (other : Narrowed keys budget width high rank') : ¬ low < high := by
    intro less
    have split : keys.countP (fun key => high < key / width ∨ key / width = high) =
        keys.countP (high < · / width) + keys.countP (· / width = high) :=
      countP_or _ _ keys fun key _ greater same => by omega
    have more : keys.countP (fun key => high < key / width ∨ key / width = high) ≤
        keys.countP (low < · / width) := by
      apply List.countP_mono_left
      intro key _ holds
      rw [decide_eq_true_eq] at holds ⊢
      omega
    have above := one.above
    have above' := other.above
    have positive := one.positive
    have enough := other.enough
    omega
  have up := ordered one other
  have down := ordered other one
  omega

section Largest

variable {κ : Type} [LinearOrder κ]

/-- The order of the selection: larger keys first, lower indices on ties. -/
def Outranks (key : Nat → κ) (first second : Nat) : Prop :=
  key second < key first ∨ key first = key second ∧ first < second

/-- `chosen` lists the `budget` indices below `bound` that outrank all others. -/
structure Largest (key : Nat → κ) (bound budget : Nat) (chosen : List Nat) : Prop where
  nodup : chosen.Nodup
  length : chosen.length = budget
  inside : ∀ index ∈ chosen, index < bound
  best : ∀ index ∈ chosen, ∀ other < bound, other ∉ chosen → Outranks key index other

/-- The indices above a threshold, then those at it, each in ascending order. -/
def candidates (key : Nat → κ) (bound : Nat) (threshold : κ) : List Nat :=
  (List.range bound).filter (threshold < key ·) ++ (List.range bound).filter (key · = threshold)

theorem take_before_drop {values : List Nat} (sorted : values.Pairwise (· < ·)) {count : Nat}
    {early late : Nat} (first : early ∈ values.take count) (member : late ∈ values)
    (absent : late ∉ values.take count) : early < late := by
  rw [← List.take_append_drop count values] at sorted member
  rw [List.pairwise_append] at sorted
  rcases List.mem_append.mp member with taken | dropped
  · exact (absent taken).elim
  · exact sorted.2.2 early first late dropped

/-- A threshold with fewer than `budget` keys above it and at least `budget`
keys from it on: the first `budget` candidates are the largest. -/
theorem threshold_largest {key : Nat → κ} {bound budget : Nat} {threshold : κ}
    (few : (List.range bound).countP (threshold < key ·) ≤ budget)
    (enough : budget ≤ (List.range bound).countP (threshold < key ·) +
      (List.range bound).countP (key · = threshold)) :
    Largest key bound budget ((candidates key bound threshold).take budget) := by
  rw [List.countP_eq_length_filter] at few
  simp only [List.countP_eq_length_filter] at enough
  have cut : (candidates key bound threshold).take budget =
      (List.range bound).filter (threshold < key ·) ++
        ((List.range bound).filter (key · = threshold)).take
          (budget - ((List.range bound).filter (threshold < key ·)).length) := by
    rw [candidates, List.take_append, List.take_of_length_le few]
  have sorted : ((List.range bound).filter (key · = threshold)).Pairwise (· < ·) :=
    List.Pairwise.filter _ List.pairwise_lt_range
  rw [cut]
  constructor
  · rw [List.nodup_append]
    refine ⟨List.nodup_range.filter _, (List.nodup_range.filter _).sublist (List.take_sublist _ _), ?_⟩
    rintro index above other level rfl
    have greater := (List.mem_filter.mp above).2
    have same := (List.mem_filter.mp (List.mem_of_mem_take level)).2
    simp only [decide_eq_true_eq] at greater same
    exact greater.ne' same
  · rw [List.length_append, List.length_take]
    omega
  · intro index listed
    rcases List.mem_append.mp listed with above | level
    · exact List.mem_range.mp (List.mem_filter.mp above).1
    · exact List.mem_range.mp (List.mem_filter.mp (List.mem_of_mem_take level)).1
  · intro index listed other inside absent
    rw [List.mem_append, not_or] at absent
    have low : key other ≤ threshold := by
      by_contra greater
      exact absent.1 (List.mem_filter.mpr ⟨List.mem_range.mpr inside, by simpa using greater⟩)
    rcases List.mem_append.mp listed with above | level
    · have greater := (List.mem_filter.mp above).2
      simp only [decide_eq_true_eq] at greater
      exact Or.inl (low.trans_lt greater)
    · have same := (List.mem_filter.mp (List.mem_of_mem_take level)).2
      simp only [decide_eq_true_eq] at same
      rcases low.lt_or_eq with less | equal
      · exact Or.inl (same.symm ▸ less)
      · refine Or.inr ⟨same.trans equal.symm, take_before_drop sorted level ?_ absent.2⟩
        exact List.mem_filter.mpr ⟨List.mem_range.mpr inside, by simpa using equal⟩

end Largest

end RadixSelection
