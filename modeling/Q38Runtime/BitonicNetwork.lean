import Q38Runtime.HalvingLoops

/-!
A bitonic sorting network on the first `2 ^ m` places of an array. A stage
compares every place with the place whose number differs in one bit, and the
pairs of a stage may be taken in any order. The proof is by thresholds: a network
of minima and maxima commutes with every monotone map, so it sorts when it sorts
arrays of Booleans.
-/
namespace BitonicNetwork
open HalvingLoops

variable {κ : Type} [LinearOrder κ]

section Network

def swap (left right : Nat) (array : Nat → κ) : Nat → κ :=
  fun place => if place = left then array right else if place = right then array left
    else array place

/-- The pair of a place, which the place compares itself with when it is the lower one. -/
def compareExchange (width stride : Nat) (array : Nat → κ) (left : Nat) : Nat → κ :=
  if left ^^^ stride ≤ left then array
  else if left &&& width = 0 ∧ array (left ^^^ stride) < array left ∨
      left &&& width ≠ 0 ∧ array left < array (left ^^^ stride) then
    swap left (left ^^^ stride) array
  else array

def stage (width stride : Nat) (order : List Nat) (array : Nat → κ) : Nat → κ :=
  order.foldl (compareExchange width stride) array

/-- The strides of a width, one after another. -/
def merge (orders : Nat → Nat → List Nat) (width : Nat) (strides : List Nat)
    (array : Nat → κ) : Nat → κ :=
  strides.foldl (fun array stride => stage width stride (orders width stride) array) array

def network (orders : Nat → Nat → List Nat) (size : Nat) (array : Nat → κ) : Nat → κ :=
  (doublings 2 size).foldl
    (fun array width => merge orders width (halvings (width / 2)) array) array

end Network

section Places

/-- A place by the block it lies in. -/
theorem block_test_bit (block exponent : Nat) {offset : Nat} (inside : offset < 2 ^ exponent)
    {bit : Nat} (above : exponent ≤ bit) :
    (2 ^ exponent * block + offset).testBit bit = (2 ^ exponent * block).testBit bit := by
  rw [Nat.testBit_two_pow_mul_add _ inside, if_neg (Nat.not_lt.mpr above),
    Nat.testBit_two_pow_mul, decide_eq_true above, Bool.true_and]

theorem and_two_pow_eq_zero (place bit : Nat) :
    place &&& 2 ^ bit = 0 ↔ place.testBit bit = false := by
  rw [Nat.and_two_pow]
  cases place.testBit bit <;> simp

theorem lower_xor (block exponent : Nat) {offset : Nat} (inside : offset < 2 ^ exponent) :
    (2 ^ (exponent + 1) * block + offset) ^^^ 2 ^ exponent =
      2 ^ (exponent + 1) * block + (2 ^ exponent + offset) := by
  have wide : 2 ^ exponent + offset < 2 ^ (exponent + 1) := by rw [Nat.pow_succ]; omega
  have narrow : offset < 2 ^ (exponent + 1) := by omega
  apply Nat.eq_of_testBit_eq
  intro bit
  rw [Nat.testBit_xor, Nat.testBit_two_pow_mul_add _ narrow, Nat.testBit_two_pow_mul_add _ wide,
    Nat.testBit_two_pow]
  rcases Nat.lt_trichotomy bit exponent with low | rfl | high
  · rw [if_pos (by omega), if_pos (by omega), Nat.testBit_two_pow_add_gt low,
      decide_eq_false (by omega), Bool.xor_false]
  · rw [if_pos (by omega), if_pos (by omega), Nat.testBit_two_pow_add_eq, decide_eq_true rfl,
      Bool.xor_true]
  · rw [if_neg (by omega), if_neg (by omega), decide_eq_false (by omega), Bool.xor_false]

end Places

section Stages

variable {width stride left : Nat} {array : Nat → κ} {order : List Nat}

theorem compare_other {first place : Nat} (apart : place ≠ first)
    (unpaired : place ≠ first ^^^ stride) :
    compareExchange width stride array first place = array place := by
  unfold compareExchange
  split
  · rfl
  · split
    · rw [swap, if_neg apart, if_neg unpaired]
    · rfl

/-- The pairs of a stage are disjoint. -/
theorem compare_apart {first : Nat} (lower : left < left ^^^ stride) (apart : first ≠ left) :
    compareExchange width stride array first left = array left ∧
      compareExchange width stride array first (left ^^^ stride) = array (left ^^^ stride) := by
  by_cases upper : first = left ^^^ stride
  · have idle : compareExchange width stride array first = array := by
      rw [compareExchange, upper, Nat.xor_assoc, Nat.xor_self, Nat.xor_zero, if_pos lower.le]
    rw [idle]
    exact ⟨rfl, rfl⟩
  · refine ⟨compare_other apart.symm ?_, compare_other (Ne.symm upper) ?_⟩
    · intro paired
      apply upper
      rw [paired, Nat.xor_assoc, Nat.xor_self, Nat.xor_zero]
    · intro paired
      exact apart (Nat.xor_left_injective paired).symm

theorem compare_pair (lower : left < left ^^^ stride) :
    compareExchange width stride array left left =
        (if left &&& width = 0 then min (array left) (array (left ^^^ stride))
          else max (array left) (array (left ^^^ stride))) ∧
      compareExchange width stride array left (left ^^^ stride) =
        (if left &&& width = 0 then max (array left) (array (left ^^^ stride))
          else min (array left) (array (left ^^^ stride))) := by
  rw [compareExchange, if_neg (Nat.not_le.mpr lower)]
  by_cases ascending : left &&& width = 0
  · rw [if_pos ascending, if_pos ascending]
    by_cases wrong : array (left ^^^ stride) < array left
    · rw [if_pos (.inl ⟨ascending, wrong⟩), min_eq_right wrong.le, max_eq_left wrong.le]
      simp [swap, lower.ne']
    · rw [if_neg (by simp [ascending, wrong]), min_eq_left (not_lt.mp wrong),
        max_eq_right (not_lt.mp wrong)]
      exact ⟨rfl, rfl⟩
  · rw [if_neg ascending, if_neg ascending]
    by_cases wrong : array left < array (left ^^^ stride)
    · rw [if_pos (.inr ⟨ascending, wrong⟩), max_eq_right wrong.le, min_eq_left wrong.le]
      simp [swap, lower.ne']
    · rw [if_neg (by simp [ascending, wrong]), max_eq_left (not_lt.mp wrong),
        min_eq_right (not_lt.mp wrong)]
      exact ⟨rfl, rfl⟩

theorem stage_untouched (lower : left < left ^^^ stride) (absent : left ∉ order) :
    stage width stride order array left = array left ∧
      stage width stride order array (left ^^^ stride) = array (left ^^^ stride) := by
  unfold stage
  induction order generalizing array with
  | nil => exact ⟨rfl, rfl⟩
  | cons first rest ih =>
      obtain ⟨here, there⟩ := @compare_apart _ _ width stride left array _ lower
        (fun same => absent (same ▸ List.mem_cons_self))
      obtain ⟨here', there'⟩ := ih (fun listed => absent (List.mem_cons_of_mem _ listed))
      exact ⟨here'.trans here, there'.trans there⟩

/-- What a stage leaves at a pair does not depend on the order of its pairs. -/
theorem stage_pair (lower : left < left ^^^ stride) (once : order.Nodup) (listed : left ∈ order) :
    stage width stride order array left =
        (if left &&& width = 0 then min (array left) (array (left ^^^ stride))
          else max (array left) (array (left ^^^ stride))) ∧
      stage width stride order array (left ^^^ stride) =
        (if left &&& width = 0 then max (array left) (array (left ^^^ stride))
          else min (array left) (array (left ^^^ stride))) := by
  unfold stage
  induction order generalizing array with
  | nil => cases listed
  | cons first rest ih =>
      rw [List.nodup_cons] at once
      rw [List.foldl_cons]
      by_cases same : first = left
      · subst same
        obtain ⟨here, there⟩ := @compare_pair _ _ width stride _ array lower
        obtain ⟨here', there'⟩ := @stage_untouched _ _ width stride first
          (compareExchange width stride array first) rest lower once.1
        exact ⟨here'.trans here, there'.trans there⟩
      · obtain ⟨here, there⟩ := @compare_apart _ _ width stride left array _ lower same
        have later : left ∈ rest := (List.mem_cons.mp listed).resolve_left (Ne.symm same)
        have settled := @ih (compareExchange width stride array first) once.2 later
        rw [here, there] at settled
        exact settled

end Stages

section Thresholds

variable {ι : Type} [LinearOrder ι] {image : κ → ι}

theorem compare_comp (monotone : Monotone image) (width stride left : Nat) (array : Nat → κ) :
    compareExchange width stride (image ∘ array) left =
      image ∘ compareExchange width stride array left := by
  by_cases lower : left < left ^^^ stride
  · funext place
    obtain ⟨here, there⟩ := @compare_pair _ _ width stride _ (image ∘ array) lower
    obtain ⟨here', there'⟩ := @compare_pair _ _ width stride _ array lower
    by_cases first : place = left
    · simp only [first, here, here', Function.comp_apply]
      split <;> simp only [monotone.map_min, monotone.map_max]
    by_cases second : place = left ^^^ stride
    · simp only [second, there, there', Function.comp_apply]
      split <;> simp only [monotone.map_min, monotone.map_max]
    · rw [compare_other first second, Function.comp_apply, Function.comp_apply,
        compare_other first second]
  · rw [compareExchange, compareExchange, if_pos (Nat.not_lt.mp lower),
      if_pos (Nat.not_lt.mp lower)]

theorem stage_comp (monotone : Monotone image) (width stride : Nat) (order : List Nat)
    (array : Nat → κ) :
    stage width stride order (image ∘ array) = image ∘ stage width stride order array := by
  unfold stage
  induction order generalizing array with
  | nil => rfl
  | cons left rest ih => rw [List.foldl_cons, List.foldl_cons, compare_comp monotone, ih]

theorem merge_comp (monotone : Monotone image) (orders : Nat → Nat → List Nat) (width : Nat)
    (strides : List Nat) (array : Nat → κ) :
    merge orders width strides (image ∘ array) = image ∘ merge orders width strides array := by
  unfold merge
  induction strides generalizing array with
  | nil => rfl
  | cons stride rest ih => rw [List.foldl_cons, List.foldl_cons, stage_comp monotone, ih]

theorem network_comp (monotone : Monotone image) (orders : Nat → Nat → List Nat) (size : Nat)
    (array : Nat → κ) :
    network orders size (image ∘ array) = image ∘ network orders size array := by
  unfold network
  induction doublings 2 size generalizing array with
  | nil => rfl
  | cons width rest ih => rw [List.foldl_cons, List.foldl_cons, merge_comp monotone, ih]

end Thresholds

section Booleans

/-- The places of a block are in ascending order, or in descending order. -/
def Ordered (descending : Bool) (array : Nat → Bool) (first size : Nat) : Prop :=
  ∀ low high, low < high → high < size →
    if descending then array (first + high) ≤ array (first + low)
    else array (first + low) ≤ array (first + high)

/-- No four places of a block alternate. -/
def Bitonic (array : Nat → Bool) (size : Nat) : Prop :=
  ∀ one two three four, one < two → two < three → three < four → four < size →
    array one = array three → array two = array four → array one = array two

theorem bitonic_of_ordered {array : Nat → Bool} {first size : Nat}
    (rises : Ordered false array first size) (falls : Ordered true array (first + size) size) :
    Bitonic (fun offset => array (first + offset)) (size + size) := by
  intro one two three four before between behind inside same same'
  simp only at same same' ⊢
  by_contra differ
  have up (low high : Nat) (less : low < high) (here : high < size) :
      array (first + low) ≤ array (first + high) := by simpa using rises low high less here
  have down (low high : Nat) (less : low < high) (there : size ≤ low) (here : high < size + size) :
      array (first + high) ≤ array (first + low) := by
    have fall := falls (low - size) (high - size) (by omega) (by omega)
    rw [if_pos rfl, show first + size + (high - size) = first + high by omega,
      show first + size + (low - size) = first + low by omega] at fall
    exact fall
  cases at_ : array (first + one) with
  | false =>
      have top : array (first + two) = true := by simpa [at_] using differ
      -- the fall from the second to the third lies in the upper half, and so does the fourth
      have far : size ≤ three := by
        by_contra near
        have rise := up two three between (by omega)
        rw [top, ← same, at_] at rise
        exact absurd rise (by decide)
      have fall := down three four behind far inside
      rw [← same', ← same, at_, top] at fall
      exact absurd fall (by decide)
  | true =>
      have bottom : array (first + two) = false := by simpa [at_] using differ
      have far : size ≤ two := by
        by_contra near
        have rise := up one two before (by omega)
        rw [bottom, at_] at rise
        exact absurd rise (by decide)
      have fall := down two three between far (by omega)
      rw [← same, at_, bottom] at fall
      exact absurd fall (by decide)

theorem Bitonic.not {array : Nat → Bool} {size : Nat} (bitonic : Bitonic array size) :
    Bitonic (fun offset => !array offset) size := by
  intro one two three four before between behind inside same same'
  rw [Bool.not_inj_iff] at *
  exact bitonic one two three four before between behind inside same same'

theorem Bitonic.of_agree {array other : Nat → Bool} {size : Nat} (bitonic : Bitonic array size)
    (agree : ∀ offset < size, other offset = array offset) : Bitonic other size := by
  intro one two three four before between behind inside same same'
  rw [agree one (by omega), agree three (by omega)] at same
  rw [agree two (by omega), agree four inside] at same'
  rw [agree one (by omega), agree two (by omega)]
  exact bitonic one two three four before between behind inside same same'

/-- The maxima of the two halves of a bitonic block. -/
theorem maxima_bitonic {array : Nat → Bool} {half : Nat}
    (bitonic : Bitonic array (half + half)) :
    Bitonic (fun offset => array offset || array (half + offset)) half := by
  intro one two three four before between behind inside same same'
  simp only at same same' ⊢
  by_contra differ
  have alternate (value : Bool) (first second third fourth : Nat) (before : first < second)
      (between : second < third) (behind : third < fourth) (inside : fourth < half + half)
      (here : array first = value) (other : array second = !value) (back : array third = value)
      (last : array fourth = !value) : False := by
    have same := bitonic first second third fourth before between behind inside
      (here.trans back.symm) (other.trans last.symm)
    rw [here, other] at same
    cases value <;> cases same
  cases low : array one || array (half + one) with
  | false =>
      have third := same.symm.trans low
      have second : (array two || array (half + two)) = true := by
        rw [low] at differ
        exact Bool.eq_true_of_not_eq_false (Ne.symm differ)
      have fourth := same'.symm.trans second
      rw [Bool.or_eq_false_iff] at low third
      rw [Bool.or_eq_true] at second fourth
      rcases second with second | second
      · rcases fourth with fourth | fourth
        · exact alternate false one two three four before between behind (by omega) low.1 second
            third.1 fourth
        · exact alternate false one two three (half + four) before between (by omega) (by omega)
            low.1 second third.1 fourth
      · rcases fourth with fourth | fourth
        · exact alternate false three four (half + one) (half + two) behind (by omega) (by omega)
            (by omega) third.1 fourth low.2 second
        · exact alternate false (half + one) (half + two) (half + three) (half + four) (by omega)
            (by omega) (by omega) (by omega) low.2 second third.2 fourth
  | true =>
      have third := same.symm.trans low
      have second : (array two || array (half + two)) = false := by
        rw [low] at differ
        exact Bool.eq_false_of_not_eq_true (Ne.symm differ)
      have fourth := same'.symm.trans second
      rw [Bool.or_eq_false_iff] at second fourth
      rw [Bool.or_eq_true] at low third
      rcases low with first | first
      · rcases third with third | third
        · exact alternate true one two three four before between behind (by omega) first second.1
            third fourth.1
        · exact alternate true one two (half + three) (half + four) before (by omega) (by omega)
            (by omega) first second.1 third fourth.2
      · rcases third with third | third
        · exact alternate false two three four (half + one) between behind (by omega) (by omega)
            second.1 third fourth.1 first
        · exact alternate true (half + one) (half + two) (half + three) (half + four) (by omega)
            (by omega) (by omega) (by omega) first second.2 third fourth.2

theorem minima_bitonic {array : Nat → Bool} {half : Nat}
    (bitonic : Bitonic array (half + half)) :
    Bitonic (fun offset => array offset && array (half + offset)) half := by
  have complement := (maxima_bitonic bitonic.not).not
  simpa only [← Bool.not_and, Bool.not_not] using complement

/-- The lower or the upper of the two halves is constant. -/
theorem half_constant {array : Nat → Bool} {half : Nat} (bitonic : Bitonic array (half + half)) :
    (∀ offset < half, (array offset && array (half + offset)) = false) ∨
      ∀ offset < half, (array offset || array (half + offset)) = true := by
  by_contra neither
  push Not at neither
  obtain ⟨⟨high, here, both⟩, low, there, none_⟩ := neither
  simp only [ne_eq, Bool.not_eq_false, Bool.and_eq_true] at both
  simp only [ne_eq, Bool.not_eq_true, Bool.or_eq_false_iff] at none_
  -- the two pairs alternate
  rcases Nat.lt_trichotomy low high with less | rfl | less
  · have wrong := bitonic low high (half + low) (half + high) less (by omega) (by omega)
      (by omega) (none_.1.trans none_.2.symm) (both.1.trans both.2.symm)
    rw [none_.1, both.1] at wrong
    cases wrong
  · rw [both.1] at none_
    cases none_.1
  · have wrong := bitonic high low (half + high) (half + low) less (by omega) (by omega)
      (by omega) (both.1.trans both.2.symm) (none_.1.trans none_.2.symm)
    rw [both.1, none_.1] at wrong
    cases wrong

/-- Two ordered halves of which one is constant on the right side. -/
theorem ordered_join {array : Nat → Bool} {descending : Bool} {first half : Nat}
    (lower : Ordered descending array first half)
    (upper : Ordered descending array (first + half) half)
    (level : (∀ offset < half, array (first + offset) = descending) ∨
      ∀ offset < half, array (first + half + offset) = !descending) :
    Ordered descending array first (half + half) := by
  intro low high less inside
  by_cases near : high < half
  · exact lower low high less near
  have shifted (offset : Nat) (far : half ≤ offset) :
      first + half + (offset - half) = first + offset := by omega
  by_cases far : half ≤ low
  · have ordered := upper (low - half) (high - half) (by omega) (by omega)
    rw [shifted low far, shifted high (by omega)] at ordered
    exact ordered
  rcases level with level | level
  · rw [level low (by omega)]
    cases descending <;> simp
  · have there := level (high - half) (by omega)
    rw [shifted high (by omega)] at there
    rw [there]
    cases descending <;> simp

end Booleans

section Merging

variable {orders : Nat → Nat → List Nat} {exponent : Nat}

/-- Every stage visits every place once, in some order. -/
def Complete (orders : Nat → Nat → List Nat) (size : Nat) : Prop :=
  ∀ width stride, (orders width stride).Perm (List.range size)

/-- A stage inside a block: the halves are compared place by place, in the
direction of the block. -/
theorem stage_block {κ : Type} [LinearOrder κ] {bits bit block offset : Nat}
    (complete : Complete orders (2 ^ exponent)) (array : Nat → κ) (narrow : bit < bits)
    (inside : offset < 2 ^ bit) (fits : 2 ^ (bit + 1) * (block + 1) ≤ 2 ^ exponent) :
    stage (2 ^ bits) (2 ^ bit) (orders (2 ^ bits) (2 ^ bit)) array
        (2 ^ (bit + 1) * block + offset) =
      (if (2 ^ (bit + 1) * block).testBit bits then
        max (array (2 ^ (bit + 1) * block + offset))
          (array (2 ^ (bit + 1) * block + (2 ^ bit + offset)))
      else
        min (array (2 ^ (bit + 1) * block + offset))
          (array (2 ^ (bit + 1) * block + (2 ^ bit + offset)))) ∧
    stage (2 ^ bits) (2 ^ bit) (orders (2 ^ bits) (2 ^ bit)) array
        (2 ^ (bit + 1) * block + (2 ^ bit + offset)) =
      (if (2 ^ (bit + 1) * block).testBit bits then
        min (array (2 ^ (bit + 1) * block + offset))
          (array (2 ^ (bit + 1) * block + (2 ^ bit + offset)))
      else
        max (array (2 ^ (bit + 1) * block + offset))
          (array (2 ^ (bit + 1) * block + (2 ^ bit + offset)))) := by
  have paired := lower_xor block bit inside
  have wide : offset < 2 ^ (bit + 1) := by rw [Nat.pow_succ]; omega
  have lower : 2 ^ (bit + 1) * block + offset <
      (2 ^ (bit + 1) * block + offset) ^^^ 2 ^ bit := by
    have positive := Nat.two_pow_pos bit
    rw [paired]
    omega
  have listed : 2 ^ (bit + 1) * block + offset ∈ orders (2 ^ bits) (2 ^ bit) := by
    rw [(complete _ _).mem_iff, List.mem_range]
    rw [Nat.mul_succ] at fits
    omega
  have once : (orders (2 ^ bits) (2 ^ bit)).Nodup :=
    (complete _ _).nodup_iff.mpr List.nodup_range
  have settled := @stage_pair _ _ (2 ^ bits) (2 ^ bit) _ array _ lower once listed
  rw [paired] at settled
  have ascending : (2 ^ (bit + 1) * block + offset) &&& 2 ^ bits = 0 ↔
      (2 ^ (bit + 1) * block).testBit bits = false := by
    rw [and_two_pow_eq_zero, block_test_bit block (bit + 1) wide narrow]
  cases direction : (2 ^ (bit + 1) * block).testBit bits with
  | false =>
      rw [if_pos (ascending.mpr direction), if_pos (ascending.mpr direction)] at settled
      exact settled
  | true =>
      have falls : ¬ (2 ^ (bit + 1) * block + offset) &&& 2 ^ bits = 0 := by
        rw [ascending, direction]
        decide
      rw [if_neg falls, if_neg falls] at settled
      exact settled

theorem halves_fit {bit block : Nat} (fits : 2 ^ (bit + 1) * (block + 1) ≤ 2 ^ exponent) :
    2 ^ bit * (2 * block + 1) ≤ 2 ^ exponent ∧ 2 ^ bit * (2 * block + 1 + 1) ≤ 2 ^ exponent := by
  have whole : 2 ^ bit * (2 * block + 1 + 1) = 2 ^ (bit + 1) * (block + 1) := by
    rw [Nat.pow_succ]
    ring
  have less : 2 ^ bit * (2 * block + 1) ≤ 2 ^ bit * (2 * block + 1 + 1) :=
    Nat.mul_le_mul_left _ (Nat.le_succ _)
  omega

theorem halves_places (bit block : Nat) :
    2 ^ bit * (2 * block) = 2 ^ (bit + 1) * block ∧
      2 ^ bit * (2 * block + 1) = 2 ^ (bit + 1) * block + 2 ^ bit := by
  constructor <;> rw [Nat.pow_succ] <;> ring

/-- A constant block stays what it is. -/
theorem merge_constant {array : Nat → Bool} {bits bit block : Nat} (value : Bool)
    (complete : Complete orders (2 ^ exponent)) (narrow : bit ≤ bits)
    (fits : 2 ^ bit * (block + 1) ≤ 2 ^ exponent)
    (constant : ∀ offset < 2 ^ bit, array (2 ^ bit * block + offset) = value) :
    ∀ offset < 2 ^ bit,
      merge orders (2 ^ bits) (halvings (2 ^ bit / 2)) array (2 ^ bit * block + offset) =
        value := by
  induction bit generalizing array block with
  | zero =>
      rw [show 2 ^ 0 / 2 = 0 from rfl, halvings_zero]
      exact constant
  | succ bit ih =>
      intro offset inside
      obtain ⟨fits', fits''⟩ := halves_fit fits
      obtain ⟨place, place'⟩ := halves_places bit block
      have kept : ∀ offset < 2 ^ bit,
          stage (2 ^ bits) (2 ^ bit) (orders (2 ^ bits) (2 ^ bit)) array
            (2 ^ (bit + 1) * block + offset) = value ∧
          stage (2 ^ bits) (2 ^ bit) (orders (2 ^ bits) (2 ^ bit)) array
            (2 ^ (bit + 1) * block + (2 ^ bit + offset)) = value := by
        intro offset inside
        obtain ⟨here, there⟩ := stage_block complete array narrow inside fits
        have wide : 2 ^ bit + offset < 2 ^ (bit + 1) := by rw [Nat.pow_succ]; omega
        rw [here, there, constant offset (by omega), constant _ wide]
        simp
      rw [halvings_below, merge, List.foldl_cons]
      rw [Nat.pow_succ] at inside
      by_cases low : offset < 2 ^ bit
      · have settled := @ih _ (2 * block) (Nat.le_of_succ_le narrow) fits'
          (fun offset inside => by
            rw [place]
            exact (kept offset inside).1) offset low
        rw [place] at settled
        exact settled
      · have settled := @ih _ (2 * block + 1) (Nat.le_of_succ_le narrow) fits''
          (fun offset inside => by
            rw [place', Nat.add_assoc]
            exact (kept offset inside).2) (offset - 2 ^ bit) (by omega)
        rw [place', show 2 ^ (bit + 1) * block + 2 ^ bit + (offset - 2 ^ bit) =
          2 ^ (bit + 1) * block + offset by omega] at settled
        exact settled

/-- Below a bit, a bitonic block is put in order. -/
theorem merge_ordered {array : Nat → Bool} {bits bit block : Nat}
    (complete : Complete orders (2 ^ exponent)) (narrow : bit ≤ bits)
    (fits : 2 ^ bit * (block + 1) ≤ 2 ^ exponent)
    (bitonic : Bitonic (fun offset => array (2 ^ bit * block + offset)) (2 ^ bit)) :
    Ordered ((2 ^ bit * block).testBit bits)
      (merge orders (2 ^ bits) (halvings (2 ^ bit / 2)) array) (2 ^ bit * block) (2 ^ bit) := by
  induction bit generalizing array block with
  | zero =>
      intro low high less inside
      rw [Nat.pow_zero] at inside
      omega
  | succ bit ih =>
      obtain ⟨fits', fits''⟩ := halves_fit fits
      obtain ⟨place, place'⟩ := halves_places bit block
      have wide : 2 ^ bit < 2 ^ (bit + 1) := by
        have positive := Nat.two_pow_pos bit
        rw [Nat.pow_succ]
        omega
      have direction : (2 ^ bit * (2 * block + 1)).testBit bits =
          (2 ^ (bit + 1) * block).testBit bits := by
        rw [place', block_test_bit block (bit + 1) wide narrow]
      rw [halvings_below, merge, List.foldl_cons]
      generalize cleaned : stage (2 ^ bits) (2 ^ bit) (orders (2 ^ bits) (2 ^ bit)) array = halves
      have settled (offset : Nat) (inside : offset < 2 ^ bit) := by
        have pair := stage_block complete array narrow inside fits
        rw [cleaned] at pair
        exact pair
      have bitonic' : Bitonic (fun offset => array (2 ^ (bit + 1) * block + offset))
          (2 ^ bit + 2 ^ bit) := by rwa [← Nat.two_mul, ← Nat.pow_succ']
      have level := half_constant bitonic'
      have minima := minima_bitonic bitonic'
      have maxima := maxima_bitonic bitonic'
      -- the halves of the block after its first stage
      have halved : Bitonic (fun offset => halves (2 ^ bit * (2 * block) + offset)) (2 ^ bit) ∧
          Bitonic (fun offset => halves (2 ^ bit * (2 * block + 1) + offset)) (2 ^ bit) ∧
          ((∀ offset < 2 ^ bit, halves (2 ^ bit * (2 * block) + offset) =
              (2 ^ (bit + 1) * block).testBit bits) ∨
            ∀ offset < 2 ^ bit, halves (2 ^ bit * (2 * block + 1) + offset) =
              !(2 ^ (bit + 1) * block).testBit bits) := by
        simp only [place, place', Nat.add_assoc]
        cases falls : (2 ^ (bit + 1) * block).testBit bits with
        | false =>
            simp only [falls, Bool.false_eq_true, if_false] at settled
            refine ⟨minima.of_agree fun offset inside => (settled offset inside).1,
              maxima.of_agree fun offset inside => (settled offset inside).2, ?_⟩
            exact level.imp (fun low offset inside => (settled offset inside).1.trans (low _ inside))
              (fun high offset inside => (settled offset inside).2.trans (high _ inside))
        | true =>
            simp only [falls, if_true] at settled
            refine ⟨maxima.of_agree fun offset inside => (settled offset inside).1,
              minima.of_agree fun offset inside => (settled offset inside).2, ?_⟩
            exact level.symm.imp
              (fun high offset inside => (settled offset inside).1.trans (high _ inside))
              (fun low offset inside => (settled offset inside).2.trans (low _ inside))
      obtain ⟨lower, upper, flat⟩ := halved
      have narrow' := Nat.le_of_succ_le narrow
      have lower' := ih narrow' fits' lower
      have upper' := ih narrow' fits'' upper
      have flat' := flat.imp (merge_constant _ complete narrow' fits')
        (merge_constant _ complete narrow' fits'')
      rw [direction] at upper'
      rw [place] at lower' flat'
      rw [place'] at upper' flat'
      have joined := ordered_join lower' upper' flat'
      rwa [← Nat.two_mul, ← Nat.pow_succ'] at joined

/-- The blocks of a width are in order, every other one the other way round. -/
theorem network_ordered (complete : Complete orders (2 ^ exponent)) (array : Nat → Bool)
    (bits block : Nat) (fits : 2 ^ bits * (block + 1) ≤ 2 ^ exponent) :
    Ordered ((2 ^ bits * block).testBit bits)
      (((List.range' 1 bits).map (2 ^ ·)).foldl
        (fun array width => merge orders width (halvings (width / 2)) array) array)
      (2 ^ bits * block) (2 ^ bits) := by
  induction bits generalizing block with
  | zero =>
      intro low high less inside
      rw [Nat.pow_zero] at inside
      omega
  | succ bits ih =>
      obtain ⟨fits', fits''⟩ := halves_fit fits
      obtain ⟨place, place'⟩ := halves_places bits block
      rw [List.range'_concat, List.map_append, List.foldl_append, Nat.one_mul, Nat.add_comm 1 bits]
      have rises := ih (2 * block) fits'
      have falls := ih (2 * block + 1) fits''
      have even_ : (2 ^ bits * (2 * block)).testBit bits = false := by
        rw [Nat.testBit_two_pow_mul]
        simp
      have odd_ : (2 ^ bits * (2 * block + 1)).testBit bits = true := by
        rw [Nat.testBit_two_pow_mul]
        simp
      rw [even_, place] at rises
      rw [odd_, place'] at falls
      apply merge_ordered complete (Nat.le_refl _) fits
      have bitonic := bitonic_of_ordered rises falls
      rwa [← Nat.two_mul, ← Nat.pow_succ'] at bitonic

end Merging

section Sorting

variable {orders : Nat → Nat → List Nat} {exponent : Nat}

/-- The network sorts. -/
theorem network_sorted (complete : Complete orders (2 ^ exponent)) (array : Nat → κ)
    {low high : Nat} (less : low < high) (inside : high < 2 ^ exponent) :
    network orders (2 ^ exponent) array low ≤ network orders (2 ^ exponent) array high := by
  -- the threshold at the lower of the two places
  let reaches : κ → Bool := fun key => decide (network orders (2 ^ exponent) array low ≤ key)
  have monotone : Monotone reaches := by
    intro key other rises
    by_cases reached : network orders (2 ^ exponent) array low ≤ key
    · simp [reaches, reached, reached.trans rises]
    · simp [reaches, reached]
  have ordered := network_ordered complete (reaches ∘ array) exponent 0 (by simp) low high less
    inside
  rw [← doublings_two, Nat.mul_zero, Nat.zero_testBit, Nat.zero_add, Nat.zero_add] at ordered
  have commutes := network_comp monotone orders (2 ^ exponent) array
  rw [network] at commutes
  rw [commutes] at ordered
  have reached : reaches (network orders (2 ^ exponent) array low) = true := by simp [reaches]
  simp only [Bool.false_eq_true, if_false, Function.comp_apply, reached, Bool.le_iff_imp] at ordered
  exact of_decide_eq_true (ordered trivial)

omit [LinearOrder κ] in
theorem swap_eq (left right : Nat) (array : Nat → κ) :
    swap left right array = array ∘ Equiv.swap left right := by
  funext place
  rw [swap, Function.comp_apply, Equiv.swap_apply_def]
  split_ifs <;> rfl

omit [LinearOrder κ] in
theorem swap_perm {left right size : Nat} (here : left < size) (there : right < size)
    (array : Nat → κ) :
    ((List.range size).map (swap left right array)).Perm ((List.range size).map array) := by
  rw [swap_eq, ← List.map_map]
  apply List.Perm.map
  rw [List.perm_ext_iff_of_nodup (List.nodup_range.map (Equiv.injective _)) List.nodup_range]
  intro place
  rw [List.mem_map]
  constructor
  · rintro ⟨source, listed, rfl⟩
    rw [List.mem_range] at listed ⊢
    rw [Equiv.swap_apply_def]
    split_ifs <;> assumption
  · intro listed
    refine ⟨Equiv.swap left right place, ?_, Equiv.swap_apply_self _ _ _⟩
    rw [List.mem_range] at listed ⊢
    rw [Equiv.swap_apply_def]
    split_ifs <;> assumption

theorem stage_perm {width stride : Nat} (narrow : stride < 2 ^ exponent) {order : List Nat}
    (inside : ∀ left ∈ order, left < 2 ^ exponent) (array : Nat → κ) :
    ((List.range (2 ^ exponent)).map (stage width stride order array)).Perm
      ((List.range (2 ^ exponent)).map array) := by
  unfold stage
  induction order generalizing array with
  | nil => exact List.Perm.refl _
  | cons left rest ih =>
      rw [List.forall_mem_cons] at inside
      refine (ih inside.2 _).trans ?_
      unfold compareExchange
      split
      · exact List.Perm.refl _
      · split
        · exact swap_perm inside.1 (Nat.xor_lt_two_pow inside.1 narrow) array
        · exact List.Perm.refl _

/-- The network permutes. -/
theorem network_perm (complete : Complete orders (2 ^ exponent)) (array : Nat → κ) :
    ((List.range (2 ^ exponent)).map (network orders (2 ^ exponent) array)).Perm
      ((List.range (2 ^ exponent)).map array) := by
  have inside (width stride : Nat) : ∀ left ∈ orders width stride, left < 2 ^ exponent :=
    fun left listed => List.mem_range.mp ((complete width stride).mem_iff.mp listed)
  have merged (width : Nat) (strides : List Nat) (narrow : ∀ stride ∈ strides, stride < 2 ^ exponent)
      (array : Nat → κ) :
      ((List.range (2 ^ exponent)).map (merge orders width strides array)).Perm
        ((List.range (2 ^ exponent)).map array) := by
    unfold merge
    induction strides generalizing array with
    | nil => exact List.Perm.refl _
    | cons stride rest ih =>
        rw [List.forall_mem_cons] at narrow
        exact (ih narrow.2 _).trans (stage_perm narrow.1 (inside _ _) array)
  have widths : ∀ width ∈ doublings 2 (2 ^ exponent), width ≤ 2 ^ exponent := by
    intro width listed
    rw [doublings_two, List.mem_map] at listed
    obtain ⟨bits, bounded, rfl⟩ := listed
    rw [List.mem_range'_1] at bounded
    exact Nat.pow_le_pow_right Nat.two_pos (by omega)
  unfold network
  generalize doublings 2 (2 ^ exponent) = all at widths
  induction all generalizing array with
  | nil => exact List.Perm.refl _
  | cons width rest ih =>
      rw [List.forall_mem_cons] at widths
      refine (ih _ widths.2).trans (merged width _ ?_ array)
      intro stride listed
      have bounded := halvings_le stride listed
      have positive := Nat.two_pow_pos exponent
      omega

end Sorting

end BitonicNetwork
