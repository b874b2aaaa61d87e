import Q38Runtime.QsaGather

/-!
The selector from end to end. The decode path and every row of the prefill path
leave the same list: all visible positions while the blocks fit the budget, and
otherwise the positions of the blocks with the largest scores followed by the
positions of the incomplete last block.
-/
namespace Q38.QsaSelection

open RadixSelection StridedLoops

/-- A row kernel keeps to the words of its row. -/
def Confined (kernel : Memory → Memory) : Prop :=
  ∀ selected index, kQ38QsaMaximumSelected ≤ index → kernel selected index = selected index

/-- Two rows hold the same words. -/
def SameRow (first second : Memory) : Prop :=
  ∀ index < kQ38QsaMaximumSelected, first index = second index

theorem launch_later {kernel : Nat → Memory → Memory} (confined : ∀ token, Confined (kernel token))
    (memory : Memory) {tokens token : Nat} (later : tokens ≤ token) :
    rowOf token (launch tokens kernel memory) = rowOf token memory := by
  induction tokens with
  | zero => rfl
  | succ earlier ih =>
      have row : (earlier + 1) * kQ38QsaMaximumSelected ≤ token * kQ38QsaMaximumSelected :=
        Nat.mul_le_mul_right _ later
      rw [Nat.add_mul, Nat.one_mul] at row
      rw [← ih (Nat.le_of_succ_le later), launch, List.range_succ, List.foldl_append]
      funext index
      simp only [List.foldl_cons, List.foldl_nil, rowOf]
      rw [atRow, if_neg (by omega), confined earlier _ _ (by omega), rowOf,
        Nat.add_sub_cancel' (by omega)]
      rfl

/-- Every token of a launch sees its own row as it was and leaves it as its
kernel does. -/
theorem launch_row {kernel : Nat → Memory → Memory} (confined : ∀ token, Confined (kernel token))
    (memory : Memory) {tokens token : Nat} (inside : token < tokens) :
    SameRow (rowOf token (launch tokens kernel memory)) (kernel token (rowOf token memory)) := by
  intro index within
  induction tokens with
  | zero => omega
  | succ last ih =>
      rw [launch, List.range_succ, List.foldl_append, ← launch]
      simp only [List.foldl_cons, List.foldl_nil, rowOf, atRow]
      rcases Nat.lt_succ_iff_lt_or_eq.mp inside with earlier | rfl
      · have row : (token + 1) * kQ38QsaMaximumSelected ≤ last * kQ38QsaMaximumSelected :=
          Nat.mul_le_mul_right _ earlier
        rw [Nat.add_mul, Nat.one_mul] at row
        rw [if_pos (by omega)]
        exact ih earlier
      · rw [if_neg (by omega), Nat.add_sub_cancel_left]
        exact congrArg (kernel token · index) (launch_later confined memory le_rfl)

theorem init_confined : Confined radix8Init := by
  intro selected index far
  simp only [kQ38QsaMaximumSelected] at far
  unfold radix8Init kThreads kQsaRadixPrefixSlot kQsaRadixMaskSlot kQsaRadixRankSlot
  rw [if_neg (by omega), if_neg (by omega), if_neg (by omega), if_neg (by omega)]

theorem histogram_confined (scores : Memory) (completeBlocks ctas shift : Nat) :
    Confined (radix8Histogram scores completeBlocks ctas shift) := by
  intro selected index far
  have outside : ¬ index < kThreads := by
    simp only [kQ38QsaMaximumSelected, kThreads] at *
    omega
  unfold radix8Histogram
  induction List.range ctas generalizing selected with
  | nil => rfl
  | cons cta listed ih =>
      rw [List.foldl_cons, ih]
      simp [outside]

theorem choose_confined (shift : Nat) : Confined (radix8Choose shift) := by
  intro selected index far
  simp only [kQ38QsaMaximumSelected] at far
  unfold radix8Choose kThreads kQsaRadixPrefixSlot kQsaRadixMaskSlot kQsaRadixRankSlot
  rw [if_neg (by omega), if_neg (by omega), if_neg (by omega), if_neg (by omega)]

theorem gather_confined {take : Nat → Nat → Bool} {selectedBlocks completeBlocks : Nat}
    (visible : ∀ pass block, take pass block = true → block < completeBlocks)
    (budget : selectedBlocks ≤ kQ38QsaBlockBudget) (position : Nat) (selected : Memory)
    (index : Nat) (far : kQ38QsaMaximumSelected ≤ index) :
    gather take selectedBlocks completeBlocks position selected index = selected index := by
  have filled := @passes_filled _ selectedBlocks _ visible selected
  have tail : (position + 1) % kQ38QsaBlockTokens < kQ38QsaBlockTokens :=
    Nat.mod_lt _ (by decide)
  simp only [kQ38QsaMaximumSelected, kQ38QsaBlockBudget, kQ38QsaBlockTokens] at *
  rw [gather, tail_written, if_neg (by simp only [kQ38QsaBlockTokens]; omega)]
  exact filled.behind index (by simp only [kQ38QsaBlockTokens]; omega)

theorem Decided.same {keys : List Nat} {width : Nat} {first second : Memory}
    (same : SameRow first second) (decided : Decided keys width second) :
    Decided keys width first := by
  obtain ⟨cleared, mask, narrowed⟩ := decided
  constructor
  · intro slot inside
    rw [same slot (inside.trans (by decide))]
    exact cleared slot inside
  · rw [same _ (by decide)]
    exact mask
  · rw [same _ (by decide), same _ (by decide)]
    exact narrowed

theorem Counted.same {keys : List Nat} {shift : Nat} {first second : Memory}
    (same : SameRow first second) (counted : Counted keys shift second) :
    Counted keys shift first := by
  obtain ⟨mask, leading, value, narrowed, counts⟩ := counted
  constructor
  · rw [same _ (by decide)]
    exact mask
  · refine ⟨leading, ?_, ?_, ?_⟩
    · rw [same _ (by decide)]
      exact value
    · rw [same _ (by decide)]
      exact narrowed
    · intro digit inside
      rw [same digit (inside.trans (by decide))]
      exact counts digit inside

/-- The masks of the passes are disjoint bytes. -/
theorem byte_mask {shift : Nat} (listed : shift ∈ [24, 16, 8, 0]) :
    shift ≤ 24 ∧
      BitVec.allOnes 32 <<< (shift + 8) ||| 0xff#32 <<< shift = BitVec.allOnes 32 <<< shift := by
  simp only [List.mem_cons, List.not_mem_nil, or_false] at listed
  rcases listed with rfl | rfl | rfl | rfl <;> decide

/-- A pass decides one more byte; the passes of the decode path and of a row of
the prefill path are this pass on their own words. -/
theorem pass_decided {scores scratch counts after : Memory} {completeBlocks shift ctas : Nat}
    (small : completeBlocks < 2 ^ 32) (positive : 0 < ctas) (listed : shift ∈ [24, 16, 8, 0])
    (histogram : SameRow counts (radix8Histogram scores completeBlocks ctas shift scratch))
    (choose : SameRow after (radix8Choose shift counts))
    (decided : Decided (blockKeys scores completeBlocks) (shift + 8) scratch) :
    Decided (blockKeys scores completeBlocks) shift after := by
  obtain ⟨fits, mask⟩ := byte_mask listed
  have counted := (histogram_counted small positive decided).same histogram
  exact (choose_decided fits mask counted).same choose

theorem complete_blocks_small {position : Nat} (inside : position < kQ38ContextLimit) :
    completeBlocksAt position < 2 ^ 32 := by
  simp only [completeBlocksAt, kQ38QsaBlockTokens, kQ38ContextLimit] at *
  omega

/-- The list of a query position is what the sparse attention wants. -/
structure SelectsExactly (scores : Memory) (position : Nat) (selected : List Nat) : Prop where
  length : selected.length = attentionCount position
  capacity : selected.length ≤ kQ38QsaMaximumSelected
  visible : ∀ index ∈ selected, index ≤ position
  whole : completeBlocksAt position ≤ kQ38QsaBlockBudget → selected = List.range (position + 1)
  largest : kQ38QsaBlockBudget < completeBlocksAt position → ∃ blocks,
    Largest (scoreBits scores) (completeBlocksAt position) kQ38QsaBlockBudget blocks ∧
      selected = blockPositions blocks ++ tailPositions position

theorem attention_count_capacity (position : Nat) :
    attentionCount position ≤ kQ38QsaMaximumSelected := by
  simp only [attentionCount, kQ38QsaBlockBudget, kQ38QsaBlockTokens, kQ38QsaMaximumSelected]
  omega

theorem block_positions_length (blocks : List Nat) :
    (blockPositions blocks).length = blocks.length * kQ38QsaBlockTokens := by
  induction blocks with
  | nil => rfl
  | cons block blocks ih =>
      rw [blockPositions, List.flatMap_cons, List.length_append, ← blockPositions, ih,
        List.length_map, List.length_range, List.length_cons, Nat.add_mul, Nat.one_mul,
        Nat.add_comm]

theorem block_positions_range (count : Nat) :
    blockPositions (List.range count) = List.range (count * kQ38QsaBlockTokens) :=
  groups_range count kQ38QsaBlockTokens

theorem visible_split (position : Nat) :
    blockPositions (List.range (completeBlocksAt position)) ++ tailPositions position =
      List.range (position + 1) := by
  rw [block_positions_range, tailPositions, ← List.range_add, completeBlocksAt,
    Nat.div_add_mod']

/-- A list of blocks below the last complete one, and the tail behind it. -/
theorem listed_exactly {scores : Memory} {position : Nat} {blocks : List Nat}
    (many : kQ38QsaBlockBudget < completeBlocksAt position)
    (largest : Largest (scoreBits scores) (completeBlocksAt position) kQ38QsaBlockBudget blocks) :
    SelectsExactly scores position (blockPositions blocks ++ tailPositions position) := by
  have length : (blockPositions blocks ++ tailPositions position).length =
      attentionCount position := by
    rw [List.length_append, block_positions_length, largest.length, tailPositions,
      List.length_map, List.length_range, attentionCount, Nat.min_eq_right many.le]
  constructor
  · exact length
  · rw [length]
    exact attention_count_capacity position
  · intro index listed
    have split := Nat.div_add_mod' (position + 1) kQ38QsaBlockTokens
    rw [← completeBlocksAt] at split
    rcases List.mem_append.mp listed with inside | behind
    · obtain ⟨block, member, row⟩ := List.mem_flatMap.mp inside
      obtain ⟨offset, below, rfl⟩ := List.mem_map.mp row
      rw [List.mem_range] at below
      have early := largest.inside block member
      simp only [kQ38QsaBlockTokens] at *
      omega
    · obtain ⟨offset, below, rfl⟩ := List.mem_map.mp behind
      rw [List.mem_range] at below
      omega
  · intro few
    omega
  · exact fun _ => ⟨blocks, largest, rfl⟩

theorem all_exactly (scores : Memory) {position : Nat}
    (few : completeBlocksAt position ≤ kQ38QsaBlockBudget) :
    SelectsExactly scores position (List.range (position + 1)) := by
  have length : (List.range (position + 1)).length = attentionCount position := by
    rw [List.length_range, attentionCount, Nat.min_eq_left few, completeBlocksAt,
      Nat.div_add_mod']
  constructor
  · exact length
  · rw [length]
    exact attention_count_capacity position
  · intro index listed
    exact Nat.le_of_lt_succ (List.mem_range.mp listed)
  · exact fun _ => rfl
  · intro many
    omega

/-- What the gather kernels list when more blocks are visible than the budget
takes: the candidates at the threshold that the passes left. -/
theorem gathered_largest {scores scratch selected : Memory} {position : Nat}
    (inside : position < kQ38ContextLimit)
    (decided : Decided (blockKeys scores (completeBlocksAt position)) 0 scratch)
    {take : Nat → Nat → Bool}
    (above : ∀ block, take 0 block = true ↔
      block < completeBlocksAt position ∧ scratch kQsaRadixPrefixSlot < scores block)
    (level : ∀ block, take 1 block = true ↔
      block < completeBlocksAt position ∧ scores block = scratch kQsaRadixPrefixSlot)
    (visible : ∀ pass block, take pass block = true → block < completeBlocksAt position) :
    let blocks := (candidates (scoreBits scores) (completeBlocksAt position)
      (scratch kQsaRadixPrefixSlot).toNat).take kQ38QsaBlockBudget
    Largest (scoreBits scores) (completeBlocksAt position) kQ38QsaBlockBudget blocks ∧
      indices (gather take kQ38QsaBlockBudget (completeBlocksAt position) position selected)
        (kQ38QsaBlockBudget * kQ38QsaBlockTokens + (position + 1) % kQ38QsaBlockTokens) =
        blockPositions blocks ++ tailPositions position := by
  obtain ⟨few, enough⟩ := passes_threshold decided
  have first : (List.range (completeBlocksAt position)).filter (take 0) =
      (List.range (completeBlocksAt position)).filter
        ((scratch kQsaRadixPrefixSlot).toNat < scoreBits scores ·) := by
    apply List.filter_congr
    intro block listed
    rw [Bool.eq_iff_iff, above, decide_eq_true_eq, BitVec.lt_def]
    exact and_iff_right (List.mem_range.mp listed)
  have second : (List.range (completeBlocksAt position)).filter (take 1) =
      (List.range (completeBlocksAt position)).filter
        (scoreBits scores · = (scratch kQsaRadixPrefixSlot).toNat) := by
    apply List.filter_congr
    intro block listed
    rw [Bool.eq_iff_iff, level, decide_eq_true_eq, ← BitVec.toNat_inj]
    exact and_iff_right (List.mem_range.mp listed)
  have plenty : kQ38QsaBlockBudget ≤
      ((List.range (completeBlocksAt position)).filter (take 0) ++
        (List.range (completeBlocksAt position)).filter (take 1)).length := by
    rw [first, second, List.length_append]
    simpa only [List.countP_eq_length_filter] using enough
  have listed := gather_indices inside visible plenty selected
  rw [first, second] at listed
  exact ⟨threshold_largest few enough, listed⟩

theorem select_all_indices (count : Nat) (small : count ≤ kQ38ContextLimit) (selected : Memory) :
    indices (selectAllDecode count ((count + 255) / 256) selected) count = List.range count := by
  have general (listed : List Nat) (start : Memory) (address : Nat) :
      listed.foldl (fun selected index => Function.update selected index (BitVec.ofNat 32 index))
        start address = if address ∈ listed then BitVec.ofNat 32 address else start address := by
    induction listed generalizing start with
    | nil => simp
    | cons index listed ih =>
        rw [List.foldl_cons, ih, Function.update_apply]
        by_cases same : address = index
        · subst same
          simp
        · simp [same]
  have flat (ctas : List Nat) (share : Nat → List Nat) (start : Memory) :
      ctas.foldl (fun selected cta => (share cta).foldl (fun selected index =>
        Function.update selected index (BitVec.ofNat 32 index)) selected) start =
      (ctas.flatMap share).foldl (fun selected index =>
        Function.update selected index (BitVec.ofNat 32 index)) start := by
    rw [List.foldl_flatMap]
  have visited (address : Nat) (inside : address < count) :
      address ∈ (List.range ((count + 255) / 256)).flatMap fun cta =>
        ctaShare ((count + 255) / 256) cta count := by
    have positive : 0 < (count + 255) / 256 := by omega
    rw [(cta_share_perm positive).mem_iff, List.mem_range]
    exact inside
  have values : (List.range count).map id = List.range count := List.map_id _
  rw [indices, selectAllDecode, flat, ← values, List.map_id]
  conv_rhs => rw [← values]
  apply List.map_congr_left
  intro address listed
  rw [List.mem_range] at listed
  rw [general, if_pos (visited address listed), BitVec.toNat_ofNat]
  apply Nat.mod_eq_of_lt
  simp only [kQ38ContextLimit] at small
  omega

/-- The radix passes of the decode path. -/
theorem decode_decided (scores selected : Memory) {position : Nat}
    (inside : position < kQ38ContextLimit)
    (many : kQ38QsaBlockBudget < completeBlocksAt position) {ctas : Nat} (positive : 0 < ctas) :
    Decided (blockKeys scores (completeBlocksAt position)) 0
      ([24, 16, 8, 0].foldl (fun scratch shift =>
        radix8Choose shift (radix8Histogram scores (completeBlocksAt position) ctas shift scratch))
        (radix8Init selected)) := by
  have step {shift : Nat} {scratch : Memory} (listed : shift ∈ [24, 16, 8, 0])
      (decided : Decided (blockKeys scores (completeBlocksAt position)) (shift + 8) scratch) :=
    pass_decided (complete_blocks_small inside) positive listed (fun _ _ => rfl)
      (fun _ _ => rfl) decided
  have first := step (by simp) (init_decided many selected)
  have second := step (by simp) first
  have third := step (by simp) second
  exact step (by simp) third

/-- The list that a threshold gives. -/
def listAt (scores : Memory) (position threshold : Nat) : List Nat :=
  blockPositions ((candidates (scoreBits scores) (completeBlocksAt position) threshold).take
    kQ38QsaBlockBudget) ++ tailPositions position

/-- What a selector has to leave in its row. -/
structure Leaves (scores : Memory) (position : Nat) (after : Memory) : Prop where
  whole : completeBlocksAt position ≤ kQ38QsaBlockBudget →
    indices after (attentionCount position) = List.range (position + 1)
  largest : kQ38QsaBlockBudget < completeBlocksAt position → ∃ scratch,
    Decided (blockKeys scores (completeBlocksAt position)) 0 scratch ∧
      Largest (scoreBits scores) (completeBlocksAt position) kQ38QsaBlockBudget
        ((candidates (scoreBits scores) (completeBlocksAt position)
          (scratch kQsaRadixPrefixSlot).toNat).take kQ38QsaBlockBudget) ∧
      indices after (attentionCount position) =
        listAt scores position (scratch kQsaRadixPrefixSlot).toNat

theorem Leaves.exactly {scores after : Memory} {position : Nat}
    (leaves : Leaves scores position after) :
    SelectsExactly scores position (indices after (attentionCount position)) := by
  by_cases few : completeBlocksAt position ≤ kQ38QsaBlockBudget
  · rw [leaves.whole few]
    exact all_exactly scores few
  · have many := Nat.lt_of_not_le few
    obtain ⟨scratch, -, largest, listed⟩ := leaves.largest many
    rw [listed]
    exact listed_exactly many largest

theorem Leaves.unique {scores first second : Memory} {position : Nat}
    (one : Leaves scores position first) (other : Leaves scores position second) :
    indices first (attentionCount position) = indices second (attentionCount position) := by
  by_cases few : completeBlocksAt position ≤ kQ38QsaBlockBudget
  · rw [one.whole few, other.whole few]
  · have many := Nat.lt_of_not_le few
    obtain ⟨scratch, decided, -, listed⟩ := one.largest many
    obtain ⟨scratch', decided', -, listed'⟩ := other.largest many
    obtain ⟨leading, value, narrowed⟩ := decided.narrowed
    obtain ⟨leading', value', narrowed'⟩ := decided'.narrowed
    have same := narrowed_unique narrowed narrowed'
    rw [listed, listed', value, value', same]

/-- The threshold words that the passes leave give the list of the decode path. -/
theorem gather_decode_leaves {scores scratch : Memory} {position : Nat}
    (inside : position < kQ38ContextLimit)
    (many : kQ38QsaBlockBudget < completeBlocksAt position)
    (decided : Decided (blockKeys scores (completeBlocksAt position)) 0 scratch) :
    Leaves scores position
      (radix8GatherDecode scores (completeBlocksAt position) position scratch) := by
  refine ⟨fun few => absurd few (Nat.not_le.mpr many), fun _ => ⟨scratch, decided, ?_⟩⟩
  rw [attentionCount, Nat.min_eq_right many.le]
  apply gathered_largest inside decided
  · intro block
    simp
  · intro block
    simp
  · intro pass block taken
    simp only [decide_eq_true_eq] at taken
    exact taken.1

theorem gather_prefill_leaves (scores : Memory) (scoreStride : Nat) {firstPosition token : Nat}
    {selected : Memory} (inside : firstPosition + token < kQ38ContextLimit)
    (ready : kQ38QsaBlockBudget < completeBlocksAt (firstPosition + token) →
      Decided (blockKeys (tokenScores scores scoreStride token)
        (completeBlocksAt (firstPosition + token))) 0 selected) :
    Leaves (tokenScores scores scoreStride token) (firstPosition + token)
      (radix8GatherPrefill scores scoreStride firstPosition token selected) := by
  constructor
  · intro few
    have all (pass block : Nat) : (decide (block < completeBlocksAt (firstPosition + token) ∧
        (completeBlocksAt (firstPosition + token) ≤ completeBlocksAt (firstPosition + token) ∨
          if pass = 0 then 0 < tokenScores scores scoreStride token block
          else tokenScores scores scoreStride token block = 0))) =
        decide (block < completeBlocksAt (firstPosition + token)) := by
      simp
    have taken : (List.range (completeBlocksAt (firstPosition + token))).filter (fun block =>
        decide (block < completeBlocksAt (firstPosition + token))) =
        List.range (completeBlocksAt (firstPosition + token)) := by
      rw [List.filter_eq_self]
      intro block listed
      exact decide_eq_true (List.mem_range.mp listed)
    have listed := @gather_indices
      (fun _ block => decide (block < completeBlocksAt (firstPosition + token)))
      (completeBlocksAt (firstPosition + token)) (firstPosition + token) inside
      (fun _ _ visible => of_decide_eq_true visible)
      (by rw [taken, List.length_append, List.length_range]; omega) selected
    rw [taken, List.take_left' List.length_range, visible_split] at listed
    rw [radix8GatherPrefill, attentionCount, Nat.min_eq_left few]
    simp only [gt_iff_lt, lt_self_iff_false, if_false, all]
    exact listed
  · intro many
    refine ⟨selected, ready many, ?_⟩
    rw [attentionCount, radix8GatherPrefill, Nat.min_eq_right many.le, if_pos many]
    apply gathered_largest inside (ready many)
    · intro block
      simp [many]
    · intro block
      simp [many]
    · intro pass block taken
      simp only [decide_eq_true_eq] at taken
      exact taken.1

theorem decode_leaves (scores selected : Memory) {position : Nat}
    (inside : position < kQ38ContextLimit) :
    ∃ after, cudaQsaSelectDecode scores position selected =
        some (after, attentionCount position) ∧ Leaves scores position after := by
  have count : min ((position + 1) / kQ38QsaBlockTokens) kQ38QsaBlockBudget * kQ38QsaBlockTokens +
      (position + 1) % kQ38QsaBlockTokens = attentionCount position := rfl
  rw [cudaQsaSelectDecode, if_neg (Nat.not_le.mpr inside)]
  dsimp only
  rw [count, ← completeBlocksAt]
  by_cases few : completeBlocksAt position ≤ kQ38QsaBlockBudget
  · rw [if_pos few]
    refine ⟨_, rfl, ?_, fun many => absurd few (Nat.not_le.mpr many)⟩
    intro _
    have all : attentionCount position = position + 1 := by
      rw [attentionCount, Nat.min_eq_left few, completeBlocksAt, Nat.div_add_mod']
    rw [all]
    exact select_all_indices _ inside selected
  · have many := Nat.lt_of_not_le few
    have positive : 0 < min ((completeBlocksAt position + 255) / 256) 64 := by omega
    rw [if_neg few]
    exact ⟨_, rfl, gather_decode_leaves inside many
      (decode_decided scores selected inside many positive)⟩

theorem gather_prefill_confined (scores : Memory) (scoreStride firstPosition token : Nat) :
    Confined (radix8GatherPrefill scores scoreStride firstPosition token) := by
  intro selected index far
  unfold radix8GatherPrefill
  apply gather_confined _ (Nat.min_le_right _ _) _ _ _ far
  intro pass block taken
  simp only [decide_eq_true_eq] at taken
  exact taken.1

theorem init_prefill_confined (firstPosition token : Nat) :
    Confined (radix8InitPrefill firstPosition token) := by
  intro selected index far
  unfold radix8InitPrefill
  split
  · rfl
  · exact init_confined selected index far

theorem histogram_prefill_confined (scores : Memory)
    (scoreStride firstPosition ctas shift token : Nat) :
    Confined (radix8HistogramPrefill scores scoreStride firstPosition ctas shift token) := by
  intro selected index far
  unfold radix8HistogramPrefill
  split
  · rfl
  · exact histogram_confined _ _ _ _ selected index far

theorem choose_prefill_confined (firstPosition shift token : Nat) :
    Confined (radix8ChoosePrefill firstPosition shift token) := by
  intro selected index far
  unfold radix8ChoosePrefill
  split
  · rfl
  · exact choose_confined shift selected index far

/-- The radix passes of a prefill launch, seen from the row of one token. -/
theorem prefill_decided (scores selected : Memory) (scoreStride : Nat)
    {firstPosition tokens token ctas : Nat} (listed : token < tokens)
    (inside : firstPosition + token < kQ38ContextLimit) (positive : 0 < ctas)
    (many : kQ38QsaBlockBudget < completeBlocksAt (firstPosition + token)) :
    Decided (blockKeys (tokenScores scores scoreStride token)
        (completeBlocksAt (firstPosition + token))) 0
      (rowOf token ([24, 16, 8, 0].foldl (fun memory shift =>
        launch tokens (radix8ChoosePrefill firstPosition shift)
          (launch tokens
            (radix8HistogramPrefill scores scoreStride firstPosition ctas shift) memory))
        (launch tokens (radix8InitPrefill firstPosition) selected))) := by
  have busy := Nat.not_le.mpr many
  have step {shift : Nat} {memory : Memory} (member : shift ∈ [24, 16, 8, 0])
      (decided : Decided (blockKeys (tokenScores scores scoreStride token)
        (completeBlocksAt (firstPosition + token))) (shift + 8) (rowOf token memory)) :
      Decided (blockKeys (tokenScores scores scoreStride token)
        (completeBlocksAt (firstPosition + token))) shift
        (rowOf token (launch tokens (radix8ChoosePrefill firstPosition shift)
          (launch tokens
            (radix8HistogramPrefill scores scoreStride firstPosition ctas shift) memory))) := by
    have histogram := launch_row
      (histogram_prefill_confined scores scoreStride firstPosition ctas shift) memory listed
    have choose := launch_row (choose_prefill_confined firstPosition shift) (launch tokens
      (radix8HistogramPrefill scores scoreStride firstPosition ctas shift) memory) listed
    rw [radix8HistogramPrefill, if_neg busy] at histogram
    rw [radix8ChoosePrefill, if_neg busy] at choose
    exact pass_decided (complete_blocks_small inside) positive member histogram choose decided
  have start := launch_row (init_prefill_confined firstPosition) selected listed
  rw [radix8InitPrefill, if_neg busy] at start
  have first := step (by simp) ((init_decided many (rowOf token selected)).same start)
  have second := step (by simp) first
  have third := step (by simp) second
  exact step (by simp) third

theorem Leaves.same {scores first second : Memory} {position : Nat}
    (same : SameRow first second) (leaves : Leaves scores position second) :
    Leaves scores position first := by
  have listed : indices first (attentionCount position) =
      indices second (attentionCount position) := by
    apply List.map_congr_left
    intro index member
    rw [same index ((List.mem_range.mp member).trans_le (attention_count_capacity position))]
  constructor
  · rw [listed]
    exact leaves.whole
  · rw [listed]
    exact leaves.largest

theorem prefill_leaves (scores selected : Memory) {scoreStride firstPosition tokens token : Nat}
    (listed : token < tokens) (inside : firstPosition + tokens ≤ kQ38ContextLimit)
    (wide : (firstPosition + tokens + kQ38QsaBlockTokens - 1) / kQ38QsaBlockTokens ≤
      scoreStride) :
    ∃ after, cudaQsaSelectPrefill scores scoreStride firstPosition tokens selected = some after ∧
      Leaves (tokenScores scores scoreStride token) (firstPosition + token)
        (rowOf token after) := by
  have accepted : ¬ (tokens = 0 ∨ firstPosition ≥ kQ38ContextLimit ∨
      tokens > kQ38ContextLimit - firstPosition ∨
      scoreStride < (firstPosition + tokens + kQ38QsaBlockTokens - 1) / kQ38QsaBlockTokens) := by
    omega
  have here : firstPosition + token < kQ38ContextLimit := by omega
  rw [cudaQsaSelectPrefill, if_neg accepted]
  refine ⟨_, rfl, ?_⟩
  have row (memory : Memory) :=
    launch_row (gather_prefill_confined scores scoreStride firstPosition) memory listed
  apply (gather_prefill_leaves scores scoreStride here _).same (row _)
  intro many
  have more : completeBlocksAt (firstPosition + token) ≤
      (firstPosition + tokens) / kQ38QsaBlockTokens :=
    Nat.div_le_div_right (by omega)
  rw [if_pos (many.trans_le more)]
  exact prefill_decided scores selected scoreStride listed here (by omega) many

theorem Leaves.congr {first second after : Memory} {position : Nat}
    (same : ∀ block < completeBlocksAt position, first block = second block)
    (leaves : Leaves first position after) : Leaves second position after := by
  have bits : ∀ block < completeBlocksAt position,
      scoreBits first block = scoreBits second block := by
    intro block visible
    rw [scoreBits, same block visible, scoreBits]
  have keys : blockKeys first (completeBlocksAt position) =
      blockKeys second (completeBlocksAt position) := by
    apply List.map_congr_left
    intro block listed
    exact bits block (List.mem_range.mp listed)
  refine ⟨leaves.whole, fun many => ?_⟩
  obtain ⟨scratch, decided, -, listed⟩ := leaves.largest many
  rw [keys] at decided
  have candidates_same : candidates (scoreBits first) (completeBlocksAt position)
      (scratch kQsaRadixPrefixSlot).toNat =
      candidates (scoreBits second) (completeBlocksAt position)
        (scratch kQsaRadixPrefixSlot).toNat := by
    unfold candidates
    congr 1
    · apply List.filter_congr
      intro block member
      rw [bits block (List.mem_range.mp member)]
    · apply List.filter_congr
      intro block member
      rw [bits block (List.mem_range.mp member)]
  obtain ⟨few, enough⟩ := passes_threshold decided
  refine ⟨scratch, decided, threshold_largest few enough, ?_⟩
  rw [listed, listAt, candidates_same, listAt]

/-- For every query position the decode selector lists exactly the wanted
positions, and a prefill that covers the position with the same scores lists
the same. -/
theorem qsa_selection_exact (scores selected : Memory) {position : Nat}
    (inside : position < kQ38ContextLimit) :
    ∃ after count, cudaQsaSelectDecode scores position selected = some (after, count) ∧
      count = attentionCount position ∧
      SelectsExactly scores position (indices after count) ∧
      ∀ prefillScores prefillSelected scoreStride firstPosition tokens token,
        firstPosition + token = position → token < tokens →
        firstPosition + tokens ≤ kQ38ContextLimit →
        (firstPosition + tokens + kQ38QsaBlockTokens - 1) / kQ38QsaBlockTokens ≤ scoreStride →
        (∀ block < completeBlocksAt position,
          tokenScores prefillScores scoreStride token block = scores block) →
        ∃ rows, cudaQsaSelectPrefill prefillScores scoreStride firstPosition tokens
            prefillSelected = some rows ∧
          indices (rowOf token rows) (attentionCount position) = indices after count := by
  obtain ⟨after, decoded, leaves⟩ := decode_leaves scores selected inside
  refine ⟨after, _, decoded, rfl, leaves.exactly, ?_⟩
  rintro prefillScores prefillSelected scoreStride firstPosition tokens token rfl listed within
    wide same
  obtain ⟨rows, prefilled, row⟩ :=
    prefill_leaves prefillScores prefillSelected listed within wide
  exact ⟨rows, prefilled, (row.congr same).unique leaves⟩

/-- The selector at the sixth position, from blank words and scores. -/
theorem qsa_selection_exact_sixth : 5 < kQ38ContextLimit ∧
    ∃ after count, cudaQsaSelectDecode (fun _ => 0) 5 (fun _ => 0) = some (after, count) ∧
      count = attentionCount 5 ∧ SelectsExactly (fun _ => 0) 5 (indices after count) := by
  obtain ⟨after, count, decoded, counted, exactly, -⟩ :=
    qsa_selection_exact (fun _ => 0) (fun _ => 0) (show 5 < kQ38ContextLimit by decide)
  exact ⟨by decide, after, count, decoded, counted, exactly⟩

end Q38.QsaSelection
