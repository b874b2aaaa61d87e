import Q38Runtime.PleReadAhead

/-!
The reader cuts an append from its start, the stage cuts it from the start of
every chunk. The two agree when there is one chunk, or when chunks are made of
whole tiles, and on nothing else.
-/
namespace Q38.PleReadAhead
open Contracts StridedLoops

/-- The tiles of an append that starts at `offset`, in tokens. -/
def tileSlices (offset tokens : Nat) : List Slice :=
  (strided 0 kPrefillTile tokens).map fun first =>
    { offset := offset + first, tokens := min kPrefillTile (tokens - first) }

theorem run_tokens_append (chunk : Slice) :
    runTokens .appendKnown chunk = tileSlices chunk.offset chunk.tokens := by
  unfold runTokens tileSlices
  split
  · rfl
  · next small =>
      have few : chunk.tokens = 0 ∨ chunk.tokens = 1 := by
        have bound : ¬ chunk.tokens > 1 := fun many => small ⟨rfl, many⟩
        omega
      rcases few with none | one
      · rw [none]
        rfl
      · rw [one]
        rfl

theorem extent_of_injective : Function.Injective (extentOf 0) := by
  intro first second same
  simp only [extentOf, kQ38PleRowsPerToken, Extent.mk.injEq, Nat.sub_zero] at same
  cases first
  cases second
  simp only [Slice.mk.injEq] at *
  omega

/-- The tiles of the reader, in tokens. -/
theorem tiles_slices (tokens : Nat) :
    tiles (tokens * kQ38PleRowsPerToken) = (tileSlices 0 tokens).map (extentOf 0) := by
  have whole : (tokens * kQ38PleRowsPerToken + (kQ38PleRowsPerToken - 1)) / kQ38PleRowsPerToken =
      tokens := by
    unfold kQ38PleRowsPerToken
    omega
  unfold tiles tileSlices kRowsPerTile
  rw [strided_scaled (by decide) (by decide), whole, List.map_map, List.map_map]
  apply List.map_congr_left
  intro first _
  simp only [Function.comp_apply, extentOf, Extent.mk.injEq, Nat.zero_add, Nat.sub_zero, true_and]
  rw [← Nat.sub_mul, ← Nat.mul_min_mul_right]

theorem one_tile {offset tokens : Nat} (positive : 0 < tokens) (fits : tokens ≤ kPrefillTile) :
    tileSlices offset tokens = [⟨offset, tokens⟩] := by
  have turns : (tokens - 0 + (kPrefillTile - 1)) / kPrefillTile = 1 := by
    unfold kPrefillTile at *
    omega
  unfold tileSlices strided
  rw [turns]
  simp [fits]

/-- Whole tiles come first, the rest is cut where they end. -/
theorem tile_slices_append (offset count rest : Nat) :
    tileSlices offset (kPrefillTile * count + rest) =
      tileSlices offset (kPrefillTile * count) ++
        tileSlices (offset + kPrefillTile * count) rest := by
  unfold tileSlices
  rw [strided_append (by decide), List.map_append, List.map_map]
  congr 1
  · apply List.map_congr_left
    intro first listed
    obtain ⟨inside, turn, rfl⟩ := (mem_strided (by decide)).mp listed
    have room : kPrefillTile * turn + kPrefillTile ≤ kPrefillTile * count := by
      rw [Nat.zero_add] at inside
      rw [← Nat.mul_succ]
      exact Nat.mul_le_mul_left _ (Nat.lt_of_mul_lt_mul_left inside)
    simp only [Slice.mk.injEq, true_and]
    omega
  · apply List.map_congr_left
    intro first _
    simp only [Function.comp_apply, Slice.mk.injEq]
    omega

theorem one_chunk {chunkTokens evaluated : Nat} (some : 0 < evaluated)
    (fits : evaluated ≤ chunkTokens) : chunks chunkTokens evaluated = [⟨0, evaluated⟩] := by
  have turns : (evaluated - 0 + (chunkTokens - 1)) / chunkTokens = 1 := by
    rw [Nat.div_eq_iff (by omega)]
    omega
  unfold chunks strided
  rw [turns]
  simp [fits]

theorem whole_tiles {count : Nat} (some : 0 < count) (evaluated : Nat) :
    (chunks (count * kPrefillTile) evaluated).flatMap (runTokens .appendKnown) =
      tileSlices 0 evaluated := by
  unfold chunks tileSlices
  rw [← strided_blocks some (show 0 < kPrefillTile by decide) evaluated, List.flatMap_map,
    List.map_flatMap]
  apply List.flatMap_congr
  intro offset _
  rw [run_tokens_append, tileSlices, List.map_map]
  apply List.map_congr_left
  intro first listed
  obtain ⟨inside, turn, rfl⟩ := (mem_strided (by decide)).mp listed
  simp only [Function.comp_apply, Slice.mk.injEq, Nat.zero_add, true_and] at *
  -- A tile that starts in a chunk of whole tiles ends in it.
  have room : kPrefillTile * turn + kPrefillTile ≤ count * kPrefillTile := by
    have early : turn < count := by
      rw [Nat.lt_min, Nat.mul_comm] at inside
      exact Nat.lt_of_mul_lt_mul_right inside.1
    rw [← Nat.mul_succ, Nat.mul_comm count]
    exact Nat.mul_le_mul_left _ early
  omega

/-- The offset of a second chunk is a boundary of tiles only if chunks are made
of whole tiles. -/
theorem second_chunk {chunkTokens evaluated : Nat} (positive : 0 < chunkTokens)
    (more : chunkTokens < evaluated)
    (agree : (chunks chunkTokens evaluated).flatMap (runTokens .appendKnown) =
      tileSlices 0 evaluated) : kPrefillTile ∣ chunkTokens := by
  have chunk : (⟨chunkTokens, min chunkTokens (evaluated - chunkTokens)⟩ : Slice) ∈
      chunks chunkTokens evaluated := by
    apply List.mem_map.mpr
    exact ⟨chunkTokens, (mem_strided positive).mpr ⟨more, 1, by omega⟩, rfl⟩
  have first : 0 ∈ strided 0 kPrefillTile (min chunkTokens (evaluated - chunkTokens)) :=
    (mem_strided (by decide)).mpr ⟨by omega, 0, rfl⟩
  have slice : (⟨chunkTokens + 0, min kPrefillTile
      (min chunkTokens (evaluated - chunkTokens) - 0)⟩ : Slice) ∈
      runTokens .appendKnown ⟨chunkTokens, min chunkTokens (evaluated - chunkTokens)⟩ := by
    rw [run_tokens_append]
    exact List.mem_map.mpr ⟨0, first, rfl⟩
  have taken := List.mem_flatMap.mpr ⟨_, chunk, slice⟩
  rw [agree] at taken
  obtain ⟨start, listed, same⟩ := List.mem_map.mp taken
  obtain ⟨-, turn, rfl⟩ := (mem_strided (by decide)).mp listed
  have offset := congrArg Slice.offset same
  exact ⟨turn, by simpa using offset.symm⟩

/-- What the stage takes is what the reader makes exactly when the append is one
chunk or chunks are made of whole tiles. -/
theorem append_takes_agree {chunkTokens evaluated : Nat} (chunked : 1 ≤ chunkTokens)
    (some : 1 ≤ evaluated) :
    appendTakes chunkTokens evaluated = tiles (evaluated * kQ38PleRowsPerToken) ↔
      evaluated ≤ chunkTokens ∨ kPrefillTile ∣ chunkTokens := by
  unfold appendTakes
  rw [tiles_slices, (List.map_injective_iff.mpr extent_of_injective).eq_iff]
  constructor
  · intro agree
    rcases Nat.lt_or_ge chunkTokens evaluated with more | fits
    · exact Or.inr (second_chunk chunked more agree)
    · exact Or.inl fits
  · rintro (fits | ⟨count, rfl⟩)
    · rw [one_chunk some fits, List.flatMap_cons, List.flatMap_nil, List.append_nil,
        run_tokens_append]
    · rw [Nat.mul_comm kPrefillTile]
      exact whole_tiles (Nat.pos_of_mul_pos_left chunked) evaluated

theorem append_takes_agree_aligned :
    appendTakes 1024 1500 = tiles (1500 * kQ38PleRowsPerToken) :=
  (append_takes_agree (by decide) (by decide)).mpr (Or.inr (by decide))

theorem append_takes_differ_unaligned :
    appendTakes 100 200 ≠ tiles (200 * kQ38PleRowsPerToken) := by
  decide

end Q38.PleReadAhead
