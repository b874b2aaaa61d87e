import Q38Runtime.QsaSelection

/-!
The four histogram passes of the block selector. Between two passes the scratch
words hold zeroed buckets, the mask of the digits decided so far, those digits
and the rank that is left; after the last pass they hold the score of the last
block inside the budget.
-/
namespace Q38.QsaSelection

open RadixSelection StridedLoops

/-- The bits of a score as a number; scores are not negative, so this is their order. -/
def scoreBits (scores : Memory) (block : Nat) : Nat := (scores block).toNat

def blockKeys (scores : Memory) (completeBlocks : Nat) : List Nat :=
  (List.range completeBlocks).map (scoreBits scores)

/-- The scratch words once all digits from bit `width` on are decided. -/
structure Decided (keys : List Nat) (width : Nat) (scratch : Memory) : Prop where
  cleared : ∀ slot < kThreads, scratch slot = 0
  mask : scratch kQsaRadixMaskSlot = BitVec.allOnes 32 <<< width
  narrowed : ∃ leading, (scratch kQsaRadixPrefixSlot).toNat = leading * 2 ^ width ∧
    Narrowed keys kQ38QsaBlockBudget (2 ^ width) leading (scratch kQsaRadixRankSlot).toNat

/-- The scratch words with the histogram of the digit at `shift` filled in. -/
structure Counted (keys : List Nat) (shift : Nat) (scratch : Memory) : Prop where
  mask : scratch kQsaRadixMaskSlot = BitVec.allOnes 32 <<< (shift + 8)
  narrowed : ∃ leading, (scratch kQsaRadixPrefixSlot).toNat = leading * 2 ^ (shift + 8) ∧
    Narrowed keys kQ38QsaBlockBudget (2 ^ (shift + 8)) leading
      (scratch kQsaRadixRankSlot).toNat ∧
    ∀ digit < kThreads, (scratch digit).toNat = keys.countP fun key =>
      key / 2 ^ (shift + 8) = leading ∧ key / 2 ^ shift % 256 = digit

theorem digit_value (bits : Word) (shift : Nat) :
    digitOf bits shift = bits.toNat / 2 ^ shift % 256 := by
  have ones : (0xff#32).toNat = 2 ^ 8 - 1 := rfl
  rw [digitOf, BitVec.toNat_and, ones, Nat.and_two_pow_sub_one_eq_mod, BitVec.toNat_ushiftRight,
    Nat.shiftRight_eq_div_pow]

theorem masked_value (bits : Word) (width : Nat) :
    (bits &&& BitVec.allOnes 32 <<< width).toNat = bits.toNat / 2 ^ width * 2 ^ width := by
  have same : bits &&& BitVec.allOnes 32 <<< width = (bits >>> width) <<< width := by
    ext index inside
    simp only [BitVec.getElem_and, BitVec.getElem_shiftLeft, BitVec.getElem_allOnes]
    by_cases low : index < width
    · simp [low]
    · simp [low, Nat.add_sub_cancel' (Nat.le_of_not_lt low), BitVec.getElem_eq_testBit_toNat]
  rw [same, BitVec.toNat_shiftLeft, BitVec.toNat_ushiftRight, Nat.shiftRight_eq_div_pow,
    Nat.shiftLeft_eq, Nat.mod_eq_of_lt]
  exact Nat.lt_of_le_of_lt (Nat.div_mul_le_self _ _) bits.isLt

theorem matches_leading {bits leadingBits : Word} {width leading : Nat}
    (value : leadingBits.toNat = leading * 2 ^ width) :
    (bits &&& BitVec.allOnes 32 <<< width = leadingBits) ↔ bits.toNat / 2 ^ width = leading := by
  rw [← BitVec.toNat_inj, masked_value, value]
  exact Nat.mul_left_inj (Nat.two_pow_pos width).ne'

/-- Which key a block counts for in a histogram pass. -/
def agrees (width shift leading digit key : Nat) : Prop :=
  key / 2 ^ width = leading ∧ key / 2 ^ shift % 256 = digit

instance (width shift leading digit key : Nat) : Decidable (agrees width shift leading digit key) :=
  inferInstanceAs (Decidable (_ ∧ _))

theorem local_histogram_counts {scores : Memory} {leadingBits : Word} {width leading : Nat}
    (value : leadingBits.toNat = leading * 2 ^ width) (shift : Nat) (blocks : List Nat)
    (digit : Nat) :
    localHistogram scores (BitVec.allOnes 32 <<< width) leadingBits shift blocks digit =
      BitVec.ofNat 32 (blocks.countP fun block =>
        agrees width shift leading digit (scores block).toNat) := by
  have general (start : Memory) : (blocks.foldl (fun histogram block =>
      if scores block &&& BitVec.allOnes 32 <<< width = leadingBits then
        Function.update histogram (digitOf (scores block) shift)
          (histogram (digitOf (scores block) shift) + 1)
      else histogram) start) digit =
      start digit + BitVec.ofNat 32 (blocks.countP fun block =>
        agrees width shift leading digit (scores block).toNat) := by
    induction blocks generalizing start with
    | nil => simp
    | cons block blocks ih =>
        rw [List.foldl_cons, ih, List.countP_cons]
        simp only [matches_leading value, digit_value, agrees]
        by_cases same : (scores block).toNat / 2 ^ width = leading
        · by_cases here : (scores block).toNat / 2 ^ shift % 256 = digit
          · subst here
            simp only [same, if_true, Function.update_self, and_self]
            rw [BitVec.add_assoc, Nat.add_comm, BitVec.ofNat_add]
            rfl
          · simp [same, here, Function.update_of_ne (Ne.symm here)]
        · simp [same]
  rw [localHistogram, general]
  exact BitVec.zero_add _

theorem cta_share_perm {ctas completeBlocks : Nat} (positive : 0 < ctas) :
    ((List.range ctas).flatMap fun cta => ctaShare ctas cta completeBlocks).Perm
      (List.range completeBlocks) :=
  grid_perm (Nat.mul_pos positive (by decide))

/-- All CTAs together add to each bucket the blocks that belong there. -/
theorem radix8_histogram_slot (scores : Memory) {scratch : Memory} {width leading : Nat}
    (mask : scratch kQsaRadixMaskSlot = BitVec.allOnes 32 <<< width)
    (value : (scratch kQsaRadixPrefixSlot).toNat = leading * 2 ^ width)
    (completeBlocks shift : Nat) {ctas : Nat} (positive : 0 < ctas) (slot : Nat) :
    radix8Histogram scores completeBlocks ctas shift scratch slot =
      if slot < kThreads then scratch slot + BitVec.ofNat 32 ((List.range completeBlocks).countP
        fun block => agrees width shift leading slot (scores block).toNat)
      else scratch slot := by
  have general (listed : List Nat) (start : Memory)
      (mask : start kQsaRadixMaskSlot = BitVec.allOnes 32 <<< width)
      (value : (start kQsaRadixPrefixSlot).toNat = leading * 2 ^ width) :
      (listed.foldl (fun scratch cta =>
        let histogram := localHistogram scores (scratch kQsaRadixMaskSlot)
          (scratch kQsaRadixPrefixSlot) shift (ctaShare ctas cta completeBlocks)
        fun slot => if slot < kThreads ∧ histogram slot ≠ 0 then scratch slot + histogram slot
          else scratch slot) start) slot =
        if slot < kThreads then start slot + BitVec.ofNat 32
          ((listed.flatMap fun cta => ctaShare ctas cta completeBlocks).countP
            fun block => agrees width shift leading slot (scores block).toNat)
        else start slot := by
    induction listed generalizing start with
    | nil => simp
    | cons cta listed ih =>
        rw [List.foldl_cons, ih]
        · simp only [mask, local_histogram_counts value]
          by_cases inside : slot < kThreads
          · simp only [inside, true_and, if_true, List.flatMap_cons, List.countP_append,
              BitVec.ofNat_add]
            split
            · rw [BitVec.add_assoc]
            · next zero =>
                rw [not_not.mp zero]
                simp
          · simp [inside]
        · rw [if_neg (by simp [kQsaRadixMaskSlot, kThreads])]
          exact mask
        · rw [if_neg (by simp [kQsaRadixPrefixSlot, kThreads])]
          exact value
  rw [radix8Histogram, general _ _ mask value, (cta_share_perm positive).countP_eq]

theorem init_decided {scores : Memory} {completeBlocks : Nat}
    (many : kQ38QsaBlockBudget < completeBlocks) (selected : Memory) :
    Decided (blockKeys scores completeBlocks) 32 (radix8Init selected) := by
  have every : ∀ key ∈ blockKeys scores completeBlocks, key / 2 ^ 32 = 0 := by
    intro key listed
    obtain ⟨block, -, rfl⟩ := List.mem_map.mp listed
    exact Nat.div_eq_of_lt (scores block).isLt
  constructor
  · intro slot inside
    rw [radix8Init, if_pos inside]
  · rfl
  · have rank : (radix8Init selected kQsaRadixRankSlot).toNat = kQ38QsaBlockBudget := rfl
    refine ⟨0, rfl, ?_⟩
    rw [rank]
    constructor
    · decide
    · rw [List.countP_eq_length.mpr fun key listed => decide_eq_true (every key listed),
        blockKeys, List.length_map, List.length_range]
      exact many.le
    · rw [List.countP_eq_zero.mpr, Nat.zero_add]
      intro key listed
      rw [every key listed]
      decide

theorem histogram_counted {scores scratch : Memory} {completeBlocks shift ctas : Nat}
    (small : completeBlocks < 2 ^ 32) (positive : 0 < ctas)
    (decided : Decided (blockKeys scores completeBlocks) (shift + 8) scratch) :
    Counted (blockKeys scores completeBlocks) shift
      (radix8Histogram scores completeBlocks ctas shift scratch) := by
  obtain ⟨leading, value, narrowed⟩ := decided.narrowed
  have slots := radix8_histogram_slot scores decided.mask value completeBlocks shift positive
  constructor
  · rw [slots]
    exact decided.mask
  · refine ⟨leading, ?_, ?_, ?_⟩
    · rw [slots]
      exact value
    · rw [slots]
      exact narrowed
    · intro digit inside
      rw [slots, if_pos inside, decided.cleared digit inside, zero_add, BitVec.toNat_ofNat,
        blockKeys, List.countP_map]
      apply Nat.mod_eq_of_lt
      exact Nat.lt_of_le_of_lt List.countP_le_length (by rwa [List.length_range])

/-- The walk over the buckets is the walk over their counts. -/
theorem choose_bucket_pick (histogram : Memory) (shift buckets : Nat) (leading rank : Word) :
    let picked := pick (fun digit => (histogram digit).toNat) buckets rank.toNat
    (chooseBucket histogram shift buckets leading rank).1 =
        leading ||| BitVec.ofNat 32 picked.1 <<< shift ∧
      (chooseBucket histogram shift buckets leading rank).2.toNat = picked.2 := by
  induction buckets generalizing rank with
  | zero => simp [chooseBucket, pick]
  | succ bucket ih =>
      simp only [chooseBucket, pick, BitVec.le_def]
      split
      · simp
      · next short =>
          have left : (rank - histogram bucket).toNat = rank.toNat - (histogram bucket).toNat :=
            BitVec.toNat_sub_of_le (BitVec.le_def.mpr (Nat.le_of_lt (Nat.lt_of_not_le short)))
          rw [← left]
          exact ih _

theorem extended_leading {leadingBits : Word} {leading digit shift : Nat}
    (value : leadingBits.toNat = leading * 2 ^ (shift + 8)) (small : digit < 256)
    (fits : shift ≤ 24) :
    (leadingBits ||| BitVec.ofNat 32 digit <<< shift).toNat =
      (leading * 256 + digit) * 2 ^ shift := by
  have room : digit * 2 ^ shift < 2 ^ (shift + 8) := by
    rw [Nat.pow_add, Nat.mul_comm]
    exact Nat.mul_lt_mul_of_pos_left small (Nat.two_pow_pos shift)
  have word : 2 ^ (shift + 8) ≤ 2 ^ 32 := Nat.pow_le_pow_right (by decide) (by omega)
  rw [BitVec.toNat_or, BitVec.toNat_shiftLeft, BitVec.toNat_ofNat, value,
    Nat.mod_eq_of_lt (small.trans (by decide)), Nat.shiftLeft_eq,
    Nat.mod_eq_of_lt (room.trans_le word),
    ← Nat.shiftLeft_eq, ← Nat.shiftLeft_add_eq_or_of_lt room, Nat.shiftLeft_eq, Nat.pow_add]
  ring

theorem choose_decided {keys : List Nat} {scratch : Memory} {shift : Nat} (fits : shift ≤ 24)
    (mask : BitVec.allOnes 32 <<< (shift + 8) ||| 0xff#32 <<< shift = BitVec.allOnes 32 <<< shift)
    (counted : Counted keys shift scratch) : Decided keys shift (radix8Choose shift scratch) := by
  obtain ⟨leading, value, narrowed, counts⟩ := counted.narrowed
  rw [Nat.pow_add] at narrowed counts
  obtain ⟨inside, next⟩ := narrow (by decide) narrowed counts
  obtain ⟨chosen, rank⟩ := choose_bucket_pick scratch shift kThreads
    (scratch kQsaRadixPrefixSlot) (scratch kQsaRadixRankSlot)
  constructor
  · intro slot inside
    exact if_pos inside
  · change scratch kQsaRadixMaskSlot ||| 0xff#32 <<< shift = _
    rw [counted.mask, mask]
  · have top : (radix8Choose shift scratch kQsaRadixPrefixSlot).toNat = _ :=
      (congrArg BitVec.toNat chosen).trans (extended_leading value inside fits)
    have left : (radix8Choose shift scratch kQsaRadixRankSlot).toNat = _ := rank
    refine ⟨_, top, ?_⟩
    rw [left]
    exact next

/-- What the last pass leaves: the score that the first block outside the budget
does not exceed. -/
theorem passes_threshold {scores : Memory} {completeBlocks : Nat} {scratch : Memory}
    (decided : Decided (blockKeys scores completeBlocks) 0 scratch) :
    (List.range completeBlocks).countP
          ((scratch kQsaRadixPrefixSlot).toNat < scoreBits scores ·) ≤ kQ38QsaBlockBudget ∧
      kQ38QsaBlockBudget ≤
        (List.range completeBlocks).countP
          ((scratch kQsaRadixPrefixSlot).toNat < scoreBits scores ·) +
        (List.range completeBlocks).countP
          (scoreBits scores · = (scratch kQsaRadixPrefixSlot).toNat) := by
  obtain ⟨leading, value, narrowed⟩ := decided.narrowed
  have above := narrowed.above
  have enough := narrowed.enough
  rw [pow_zero, Nat.mul_one] at value
  simp only [pow_zero, Nat.div_one, blockKeys, List.countP_map, Function.comp_def, ← value]
    at above enough
  omega

end Q38.QsaSelection
