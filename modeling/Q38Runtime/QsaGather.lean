import Q38Runtime.QsaThreshold

/-!
The gather kernel. A thread finds its slot from the ballots of the warps; over
all chunks and both passes the slots are filled with the taken blocks in order,
up to the budget. With the threshold of the radix passes these are the blocks
of the largest scores.
-/
namespace Q38.QsaSelection

open RadixSelection StridedLoops

theorem cpop_count (bits : Word) (width : Nat) :
    bits.cpopNatRec width 0 = (List.range width).countP bits.getLsbD := by
  induction width with
  | zero => rfl
  | succ width ih =>
      rw [BitVec.cpopNatRec_succ, BitVec.cpopNatRec_eq, ih, List.range_succ, List.countP_append]
      cases set : bits.getLsbD width <;> simp [set]

theorem cpop_eq_count (bits : Word) :
    bits.cpop.toNat = (List.range 32).countP bits.getLsbD := by
  rw [BitVec.toNat_cpop, cpop_count]

theorem ballot_bit (take : Nat → Bool) (warp : Nat) {lane : Nat} (inside : lane < 32) :
    (ballot take warp).getLsbD lane = take (warp * 32 + lane) := by
  rw [ballot, BitVec.iunfoldr_getLsbD (fun _ => ()) ⟨lane, inside⟩ fun _ => rfl]

theorem warp_count_eq (take : Nat → Bool) (warp : Nat) :
    warpCount take warp = ((List.range 32).map (warp * 32 + ·)).countP take := by
  rw [warpCount, cpop_eq_count, List.countP_map]
  apply List.countP_congr
  intro lane listed
  rw [ballot_bit take warp (List.mem_range.mp listed)]
  rfl

theorem warps_count (take : Nat → Bool) (warps : Nat) :
    ((List.range warps).map (warpCount take)).sum = (List.range (warps * 32)).countP take := by
  rw [← groups_range, List.countP_flatMap]
  congr 1
  apply List.map_congr_left
  intro warp _
  exact warp_count_eq take warp

theorem lower_lanes_bit {lane other : Nat} (inside : lane < 32) :
    (lowerLanes lane).getLsbD other = decide (other < lane) := by
  have ones : 0xffffffff#32 = BitVec.allOnes 32 := rfl
  rw [lowerLanes]
  split
  · next first => simp [first]
  · next later =>
      rw [ones, BitVec.getLsbD_ushiftRight, BitVec.getLsbD_allOnes]
      apply decide_eq_decide.mpr
      omega

theorem take_offset_eq (take : Nat → Bool) (thread : Nat) :
    takeOffset take thread = (List.range thread).countP take := by
  have lane : thread % 32 < 32 := Nat.mod_lt _ (by decide)
  have lanes : (List.range 32).countP (ballot take (thread / 32) &&&
        lowerLanes (thread % 32)).getLsbD =
      (List.range (thread % 32)).countP fun other => take (thread / 32 * 32 + other) := by
    have whole : List.range 32 = List.range (thread % 32) ++
        (List.range (32 - thread % 32)).map (thread % 32 + ·) := by
      rw [← List.range_add, Nat.add_sub_cancel' lane.le]
    rw [whole, List.countP_append]
    have early : (List.range (thread % 32)).countP (ballot take (thread / 32) &&&
          lowerLanes (thread % 32)).getLsbD =
        (List.range (thread % 32)).countP fun other => take (thread / 32 * 32 + other) := by
      apply List.countP_congr
      intro other listed
      rw [List.mem_range] at listed
      rw [BitVec.getLsbD_and, ballot_bit take _ (listed.trans lane),
        lower_lanes_bit lane, decide_eq_true listed, Bool.and_true]
    have late : ((List.range (32 - thread % 32)).map (thread % 32 + ·)).countP
        (ballot take (thread / 32) &&& lowerLanes (thread % 32)).getLsbD = 0 := by
      rw [List.countP_eq_zero]
      intro other listed
      obtain ⟨step, inside, rfl⟩ := List.mem_map.mp listed
      rw [List.mem_range] at inside
      rw [BitVec.getLsbD_and, lower_lanes_bit lane]
      simp
    rw [early, late, Nat.add_zero]
  have split : List.range thread = List.range (thread / 32 * 32) ++
      (List.range (thread % 32)).map (thread / 32 * 32 + ·) := by
    rw [← List.range_add, Nat.div_add_mod']
  rw [takeOffset, warps_count, cpop_eq_count, lanes, split, List.countP_append, List.countP_map]
  rfl

/-- The first slots hold these blocks. -/
def Holds (blocks : List Nat) (selected : Memory) : Prop :=
  ∀ slot (inside : slot < blocks.length), ∀ row < kQ38QsaBlockTokens,
    selected (slot * kQ38QsaBlockTokens + row) =
      BitVec.ofNat 32 (blocks[slot] * kQ38QsaBlockTokens + row)

theorem write_block_at (slot block : Nat) (selected : Memory) (address : Nat) :
    writeBlock slot block selected address =
      if slot * kQ38QsaBlockTokens ≤ address ∧
          address < slot * kQ38QsaBlockTokens + kQ38QsaBlockTokens then
        BitVec.ofNat 32 (block * kQ38QsaBlockTokens + (address - slot * kQ38QsaBlockTokens))
      else selected address := by
  have rows : List.range kQ38QsaBlockTokens = [0, 1, 2, 3] := rfl
  simp only [writeBlock, rows, List.foldl_cons, List.foldl_nil, Function.update_apply]
  split
  · next last => subst last; simp [kQ38QsaBlockTokens]
  · split
    · next third => subst third; simp [kQ38QsaBlockTokens]
    · split
      · next second => subst second; simp [kQ38QsaBlockTokens]
      · split
        · next first => subst first; simp [kQ38QsaBlockTokens]
        · rw [if_neg]
          simp only [kQ38QsaBlockTokens] at *
          omega

theorem holds_extend {blocks : List Nat} {selected : Memory} (holds : Holds blocks selected)
    (block : Nat) : Holds (blocks ++ [block]) (writeBlock blocks.length block selected) := by
  intro slot inside row small
  rw [write_block_at]
  rw [List.length_append, List.length_singleton] at inside
  rcases Nat.lt_succ_iff_lt_or_eq.mp inside with earlier | rfl
  · rw [if_neg, List.getElem_append_left earlier]
    · exact holds slot earlier row small
    · simp only [kQ38QsaBlockTokens] at *
      omega
  · rw [if_pos (by omega)]
    simp

/-- The taken blocks up to the budget stand in the list; nothing is written
behind the budget. -/
structure Filled (selectedBlocks : Nat) (blocks : List Nat) (before : Memory)
    (state : Gathered) : Prop where
  written : state.written = min selectedBlocks blocks.length
  holds : Holds (blocks.take selectedBlocks) state.selected
  behind : ∀ address, selectedBlocks * kQ38QsaBlockTokens ≤ address →
    state.selected address = before address

theorem Filled.full {selectedBlocks : Nat} {blocks : List Nat} {before : Memory}
    {state : Gathered} (filled : Filled selectedBlocks blocks before state)
    (full : state.written = selectedBlocks) (more : List Nat) :
    Filled selectedBlocks (blocks ++ more) before state := by
  have enough : selectedBlocks ≤ blocks.length := by
    rw [← full, filled.written]
    exact Nat.min_le_right _ _
  constructor
  · rw [full, List.length_append]
    omega
  · rw [List.take_append_of_le_length enough]
    exact filled.holds
  · exact filled.behind

/-- The blocks that a pass takes from the chunks at some bases. -/
def takenFrom (take : Nat → Bool) (bases : List Nat) : List Nat :=
  (bases.flatMap fun base => (List.range kThreads).map (base + ·)).filter take

theorem write_chunk_holds {selectedBlocks : Nat} {blocks : List Nat} {before : Memory}
    {state : Gathered} (filled : Filled selectedBlocks blocks before state)
    (take : Nat → Bool) (base threads : Nat) :
    let after := writeChunk (fun thread => take (base + thread)) selectedBlocks base state.written
      threads state.selected
    Holds ((blocks ++ ((List.range threads).map (base + ·)).filter take).take selectedBlocks)
      after ∧
    ∀ address, selectedBlocks * kQ38QsaBlockTokens ≤ address → after address = before address := by
  induction threads with
  | zero =>
      simp only [writeChunk, List.range_zero, List.map_nil, List.filter_nil, List.append_nil]
      exact ⟨filled.holds, filled.behind⟩
  | succ thread ih =>
      obtain ⟨holds, behind⟩ := ih
      have written := filled.written
      have mine : (((List.range thread).map (base + ·)).filter take).length =
          takeOffset (fun thread => take (base + thread)) thread := by
        rw [take_offset_eq, ← List.countP_eq_length_filter, List.countP_map]
        rfl
      have length : (blocks ++ ((List.range thread).map (base + ·)).filter take).length =
          blocks.length + takeOffset (fun thread => take (base + thread)) thread := by
        rw [List.length_append, mine]
      have step (chosen : Nat → Bool) (start : Memory) : writeChunk chosen selectedBlocks base
          state.written (thread + 1) start =
          let earlier := writeChunk chosen selectedBlocks base state.written thread start
          if chosen thread ∧ state.written + takeOffset chosen thread < selectedBlocks then
            writeBlock (state.written + takeOffset chosen thread) (base + thread) earlier
          else earlier := by
        rw [writeChunk, List.range_succ, List.foldl_append]
        rfl
      rw [step, List.range_succ, List.map_append, List.filter_append, ← List.append_assoc]
      generalize blocks ++ ((List.range thread).map (base + ·)).filter take = listed at *
      dsimp only
      cases taken : take (base + thread) with
      | false =>
          have none : (List.map (base + ·) [thread]).filter take = [] := by simp [taken]
          rw [if_neg (by simp), none, List.append_nil]
          exact ⟨holds, behind⟩
      | true =>
          have one : (List.map (base + ·) [thread]).filter take = [base + thread] := by
            simp [taken]
          rw [one]
          split
          · next room =>
              have slot : state.written + takeOffset (fun thread => take (base + thread)) thread =
                  listed.length := by omega
              have short : listed.length < selectedBlocks := slot ▸ room.2
              rw [slot]
              rw [List.take_of_length_le short.le] at holds
              rw [List.take_of_length_le (by rw [List.length_append]; exact short)]
              refine ⟨holds_extend holds _, ?_⟩
              intro address far
              rw [write_block_at, if_neg]
              · exact behind address far
              · simp only [kQ38QsaBlockTokens] at *
                omega
          · next full =>
              simp only [true_and] at full
              rw [List.take_append_of_le_length (by omega)]
              exact ⟨holds, behind⟩

theorem gather_chunk_filled {selectedBlocks : Nat} {blocks : List Nat} {before : Memory}
    {state : Gathered} (filled : Filled selectedBlocks blocks before state)
    (take : Nat → Bool) (base : Nat) :
    Filled selectedBlocks (blocks ++ takenFrom take [base]) before
      (gatherChunk take selectedBlocks base state) := by
  have listed : takenFrom take [base] = ((List.range kThreads).map (base + ·)).filter take := by
    rw [takenFrom, List.flatMap_cons, List.flatMap_nil, List.append_nil]
  obtain ⟨holds, behind⟩ := write_chunk_holds filled take base kThreads
  rw [listed]
  have length : (((List.range kThreads).map (base + ·)).filter take).length =
      (List.range kThreads).countP fun thread => take (base + thread) := by
    rw [← List.countP_eq_length_filter, List.countP_map]
    rfl
  have warps : kThreads / 32 * 32 = kThreads := rfl
  unfold gatherChunk
  dsimp only
  rw [warps_count, warps]
  constructor
  · dsimp only
    rw [filled.written, List.length_append, length]
    omega
  · dsimp only
    exact holds
  · dsimp only
    exact behind

theorem gather_pass_filled {selectedBlocks : Nat} {before : Memory} (take : Nat → Bool)
    (bases : List Nat) {blocks : List Nat} {state : Gathered}
    (filled : Filled selectedBlocks blocks before state) :
    Filled selectedBlocks (blocks ++ takenFrom take bases) before
      (gatherPass take selectedBlocks bases state) := by
  induction bases generalizing blocks state with
  | nil =>
      simp only [takenFrom, List.flatMap_nil, List.filter_nil, List.append_nil]
      exact filled
  | cons base bases ih =>
      have chunk := gather_chunk_filled filled take base
      have cut : takenFrom take (base :: bases) =
          takenFrom take [base] ++ takenFrom take bases := by
        simp [takenFrom]
      rw [cut, ← List.append_assoc, gatherPass]
      split
      · next full => exact chunk.full full _
      · exact ih chunk

theorem taken_from_all {take : Nat → Bool} {completeBlocks : Nat}
    (visible : ∀ block, take block = true → block < completeBlocks) :
    takenFrom take (strided 0 kThreads completeBlocks) =
      (List.range completeBlocks).filter take := by
  have covered : completeBlocks ≤ (completeBlocks + (kThreads - 1)) / kThreads * kThreads := by
    simp only [kThreads]
    omega
  have late (more : Nat) :
      ((List.range more).map (completeBlocks + ·)).filter take = [] := by
    rw [List.filter_eq_nil_iff]
    intro block listed taken
    obtain ⟨step, -, rfl⟩ := List.mem_map.mp listed
    have := visible _ taken
    omega
  rw [takenFrom, strided_chunks, ← Nat.add_sub_cancel' covered, List.range_add,
    List.filter_append, late, List.append_nil]

theorem empty_filled (selectedBlocks : Nat) (selected : Memory) :
    Filled selectedBlocks [] selected { written := 0, selected := selected } := by
  constructor
  · simp
  · intro slot inside
    simp at inside
  · intro address _
    rfl

/-- Both passes together: the blocks of the first, then those of the second. -/
theorem passes_filled {take : Nat → Nat → Bool} {selectedBlocks completeBlocks : Nat}
    (visible : ∀ pass block, take pass block = true → block < completeBlocks)
    (selected : Memory) :
    let bases := strided 0 kThreads completeBlocks
    let first := gatherPass (take 0) selectedBlocks bases { written := 0, selected := selected }
    Filled selectedBlocks ((List.range completeBlocks).filter (take 0) ++
      (List.range completeBlocks).filter (take 1)) selected
      (if first.written = selectedBlocks then first
        else gatherPass (take 1) selectedBlocks bases first) := by
  have first := gather_pass_filled (take 0) (strided 0 kThreads completeBlocks)
    (empty_filled selectedBlocks selected)
  rw [List.nil_append, taken_from_all (visible 0)] at first
  dsimp only
  split
  · next full => exact first.full full _
  · have second := gather_pass_filled (take 1) (strided 0 kThreads completeBlocks) first
    rw [taken_from_all (visible 1)] at second
    exact second

theorem tail_written (start value tail : Nat) (selected : Memory) (address : Nat) :
    (List.range tail).foldl (fun selected index => Function.update selected (start + index)
        (BitVec.ofNat 32 (value + index))) selected address =
      if start ≤ address ∧ address < start + tail then
        BitVec.ofNat 32 (value + (address - start)) else selected address := by
  induction tail with
  | zero => simp
  | succ tail ih =>
      rw [List.range_succ, List.foldl_append, List.foldl_cons, List.foldl_nil,
        Function.update_apply, ih]
      split
      · next here =>
          subst here
          simp
      · next away =>
          by_cases earlier : start ≤ address ∧ address < start + tail
          · rw [if_pos earlier, if_pos (by omega)]
          · rw [if_neg earlier, if_neg (by omega)]

theorem Holds.indices {blocks : List Nat} {selected : Memory} (holds : Holds blocks selected)
    (small : ∀ block ∈ blocks, block < kQ38ContextLimit) :
    indices selected (blocks.length * kQ38QsaBlockTokens) = blockPositions blocks := by
  induction blocks using List.reverseRecOn with
  | nil => rfl
  | append_singleton blocks block ih =>
      have earlier : Holds blocks selected := by
        intro slot inside row below
        rw [holds slot (by rw [List.length_append]; omega) row below,
          List.getElem_append_left inside]
      have last := holds blocks.length (by simp)
      rw [List.getElem_concat_length rfl] at last
      have limit := small block (by simp)
      rw [QsaSelection.indices, List.length_append, List.length_singleton, Nat.add_mul, Nat.one_mul,
        List.range_add, List.map_append, ← QsaSelection.indices, ih earlier fun other listed =>
          small other (List.mem_append_left _ listed), blockPositions, blockPositions,
        List.flatMap_append, List.flatMap_cons, List.flatMap_nil, List.append_nil, List.map_map]
      congr 1
      apply List.map_congr_left
      intro row listed
      rw [List.mem_range] at listed
      rw [Function.comp_apply, last row listed, BitVec.toNat_ofNat]
      apply Nat.mod_eq_of_lt
      simp only [kQ38QsaBlockTokens, kQ38ContextLimit] at *
      omega

/-- The list that the gather kernel leaves, when its passes fill the budget. -/
theorem gather_indices {take : Nat → Nat → Bool} {selectedBlocks position : Nat}
    (inside : position < kQ38ContextLimit)
    (visible : ∀ pass block, take pass block = true → block < completeBlocksAt position)
    (enough : selectedBlocks ≤ ((List.range (completeBlocksAt position)).filter (take 0) ++
      (List.range (completeBlocksAt position)).filter (take 1)).length) (selected : Memory) :
    indices (gather take selectedBlocks (completeBlocksAt position) position selected)
        (selectedBlocks * kQ38QsaBlockTokens + (position + 1) % kQ38QsaBlockTokens) =
      blockPositions (((List.range (completeBlocksAt position)).filter (take 0) ++
        (List.range (completeBlocksAt position)).filter (take 1)).take selectedBlocks) ++
        tailPositions position := by
  have filled := @passes_filled _ selectedBlocks _ visible selected
  dsimp only at filled
  have holds := filled.holds
  have below : ∀ block ∈ ((List.range (completeBlocksAt position)).filter (take 0) ++
      (List.range (completeBlocksAt position)).filter (take 1)).take selectedBlocks,
      block < kQ38ContextLimit := by
    intro block listed
    have here : block < completeBlocksAt position := by
      rcases List.mem_append.mp (List.mem_of_mem_take listed) with early | late
      · exact List.mem_range.mp (List.mem_filter.mp early).1
      · exact List.mem_range.mp (List.mem_filter.mp late).1
    simp only [completeBlocksAt, kQ38QsaBlockTokens] at here
    omega
  have length := List.length_take_of_le enough
  have whole := holds.indices below
  rw [length] at whole
  rw [gather, indices, List.range_add, List.map_append]
  congr 1
  · rw [← whole, indices]
    apply List.map_congr_left
    intro address listed
    rw [List.mem_range] at listed
    rw [tail_written, if_neg (by omega)]
  · rw [tailPositions, List.map_map]
    apply List.map_congr_left
    intro index listed
    rw [List.mem_range] at listed
    rw [Function.comp_apply, tail_written, if_pos (by omega), Nat.add_sub_cancel_left,
      BitVec.toNat_ofNat]
    apply Nat.mod_eq_of_lt
    simp only [completeBlocksAt, kQ38QsaBlockTokens, kQ38ContextLimit] at *
    omega

end Q38.QsaSelection
