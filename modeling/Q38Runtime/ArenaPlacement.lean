import Q38Runtime.WeightArena

/-! Where the tensors of an accepted index go: up the arena, one above the other, each at
its own alignment, or nowhere because a word of the sizes would wrap around. -/
namespace Q38.WeightArena
open Contracts DeviceArtifact UploadedRanges FallibleRuns

/-- The error of sizes that do not fit in a word. -/
def Overflows (thrown : Thrown) : Prop := ∃ what, thrown = .overflowError what

section Words
variable {value alignment offset bytes : UInt64}

theorem room_iff :
    ¬ 18446744073709551615 - offset < bytes ↔ offset.toNat + bytes.toNat < 2 ^ 64 := by
  have greatest : (18446744073709551615 : UInt64).toNat = 2 ^ 64 - 1 := by decide
  have bounded := offset.toNat_lt
  have below : offset ≤ 18446744073709551615 := by
    rw [UInt64.le_iff_toNat_le, greatest]
    omega
  rw [UInt64.not_lt, UInt64.le_iff_toNat_le, UInt64.toNat_sub_of_le _ _ below, greatest]
  omega

/-- Clearing the low bits of a word rounds it down. -/
theorem masked_down {word exponent : Nat} (small : word < 2 ^ 64) (narrow : exponent < 64) :
    word &&& (2 ^ 64 - 2 ^ exponent) = word / 2 ^ exponent * 2 ^ exponent := by
  have positive : 0 < 2 ^ exponent := Nat.two_pow_pos _
  have below : 2 ^ exponent - 1 < 2 ^ 64 := by
    have wider := Nat.pow_lt_pow_right (show 1 < 2 by decide) narrow
    omega
  have mask : 2 ^ 64 - 2 ^ exponent = 2 ^ 64 - ((2 ^ exponent - 1) + 1) := by omega
  apply Nat.eq_of_testBit_eq
  intro bit
  rw [mask, Nat.testBit_and, Nat.testBit_two_pow_sub_succ below, Nat.testBit_two_pow_sub_one,
    Nat.testBit_mul_two_pow, Nat.testBit_div_two_pow]
  by_cases low : bit < exponent
  · simp [low]
  · by_cases high : bit < 64
    · simp [low, high, Nat.not_lt.mp low]
    · have clear : word.testBit bit = false := by
        apply Nat.testBit_lt_two_pow
        exact Nat.lt_of_lt_of_le small (Nat.pow_le_pow_right (by decide) (Nat.not_lt.mp high))
      simp [high, clear, Nat.not_lt.mp low]

/-- For a power of two the words compute what the numbers do, or they overflow. -/
theorem align_up_yields {exponent : Nat} (power : alignment.toNat = 2 ^ exponent) :
    Yields (fun result => result.toNat = WeightPacking.alignUp value.toNat alignment.toNat)
      Overflows (alignUp value alignment) := by
  have positive : 0 < 2 ^ exponent := Nat.two_pow_pos _
  have narrow : exponent < 64 := by
    have bounded := alignment.toNat_lt
    rw [power] at bounded
    exact (Nat.pow_lt_pow_iff_right (by decide)).mp bounded
  have some_ : alignment ≠ 0 := by
    rintro rfl
    rw [← power] at positive
    exact absurd positive (by decide)
  have mask : (alignment - 1).toNat = 2 ^ exponent - 1 := by
    have one : 1 ≤ alignment := UInt64.le_iff_toNat_le.mpr (power ▸ positive)
    rw [UInt64.toNat_sub_of_le _ _ one, power]
    rfl
  have single : alignment &&& (alignment - 1) = 0 := by
    apply UInt64.toNat_inj.mp
    rw [UInt64.toNat_and, mask, power, Nat.and_two_pow_sub_one_eq_mod, Nat.mod_self]
    rfl
  unfold alignUp
  rw [if_neg (not_or.mpr ⟨some_, not_not.mpr single⟩)]
  dsimp only
  split
  · exact ⟨_, rfl⟩
  · next fits =>
      have total := room_iff.mp fits
      rw [mask, Nat.add_comm] at total
      have complement : UInt64.size - 1 - (2 ^ exponent - 1) = 2 ^ 64 - 2 ^ exponent := by
        have size : UInt64.size = 2 ^ 64 := rfl
        omega
      change ((value + (alignment - 1)) &&& ~~~(alignment - 1)).toNat = _
      rw [UInt64.toNat_and, UInt64.toNat_not, UInt64.toNat_add, mask, Nat.mod_eq_of_lt total,
        complement, masked_down total narrow, WeightPacking.alignUp, power]

theorem reserve_yields :
    Yields (fun result => result.toNat = offset.toNat + bytes.toNat) Overflows
      (reserve offset bytes) := by
  unfold reserve
  split
  · exact ⟨_, rfl⟩
  · next fits =>
      change (offset + bytes).toNat = _
      rw [UInt64.toNat_add, Nat.mod_eq_of_lt (room_iff.mp fits)]

end Words

section Placement

/-- The bytes of a tensor in the arena, and of its scales if it has some. -/
def TensorPlacement.ranges (placement : TensorPlacement) : List Range :=
  ⟨placement.dataOffset.toNat, placement.tensor.dataBytes.toNat⟩ ::
    if placement.tensor.scaleBytes = 0 then []
    else [⟨placement.scaleOffset.toNat, placement.tensor.scaleBytes.toNat⟩]

def rangesOf (placements : List TensorPlacement) : List Range :=
  placements.flatMap TensorPlacement.ranges

variable {options : CudaDeviceWeightOptions} {moeLayout : Option String}

structure Aligned (options : CudaDeviceWeightOptions) (moeLayout : Option String)
    (placement : TensorPlacement) : Prop where
  data : options.arenaAlignment.toNat ∣ placement.dataOffset.toNat
  scales : 256 ∣ placement.scaleOffset.toNat
  layout : placement.layout = layoutOf moeLayout placement.tensor

/-- The arena once the tensors `done` have been gone through. -/
structure Arena.Sound (options : CudaDeviceWeightOptions) (moeLayout : Option String)
    (done : List DeviceTensorV1) (arena : Arena) : Prop where
  stacked : Stacked 0 (rangesOf arena.placements) arena.bytes.toNat
  aligned : ∀ placement ∈ arena.placements, Aligned options moeLayout placement
  residents : arena.placements.map TensorPlacement.tensor = done.filter (resident options)

theorem Arena.Sound.snoc {done : List DeviceTensorV1} {arena : Arena} {placement : TensorPlacement}
    {bytes : UInt64} (sound : arena.Sound options moeLayout done)
    (kept : resident options placement.tensor = true)
    (aligned : Aligned options moeLayout placement)
    (above : Stacked arena.bytes.toNat placement.ranges bytes.toNat) :
    ({ bytes := bytes, placements := arena.placements ++ [placement] } : Arena).Sound options
      moeLayout (done ++ [placement.tensor]) := by
  constructor
  · have joined := sound.stacked.append above
    rw [← List.append_nil placement.ranges] at joined
    rw [rangesOf, List.flatMap_append, List.flatMap_singleton]
    rwa [List.append_nil] at joined
  · intro other listed
    rcases List.mem_append.mp listed with before | here
    · exact sound.aligned other before
    · rw [List.mem_singleton.mp here]
      exact aligned
  · rw [List.map_append, sound.residents, List.filter_append]
    simp [kept]

theorem place_tensor_sound {exponent : Nat} (power : options.arenaAlignment.toNat = 2 ^ exponent)
    {done : List DeviceTensorV1} {arena : Arena} (sound : arena.Sound options moeLayout done)
    (tensor : DeviceTensorV1) :
    Yields (Arena.Sound options moeLayout (done ++ [tensor])) Overflows
      (placeTensor options moeLayout arena tensor) := by
  unfold placeTensor
  split
  · next skipped =>
      refine ⟨sound.stacked, sound.aligned, ?_⟩
      rw [sound.residents, List.filter_append]
      simp [skipped]
  · next kept =>
      rw [Bool.not_eq_false] at kept
      have positive : 0 < options.arenaAlignment.toNat := power ▸ Nat.two_pow_pos _
      refine (align_up_yields power).bind fun dataOffset aligned => ?_
      refine reserve_yields.bind fun dataEnd extended => ?_
      have begins := WeightPacking.align_up_le positive arena.bytes.toNat
      have multiple : options.arenaAlignment.toNat ∣ dataOffset.toNat :=
        aligned ▸ Nat.dvd_mul_left _ _
      rw [← aligned] at begins
      split
      · next plain =>
          have here : Aligned options moeLayout
              { tensor := tensor, dataOffset := dataOffset, layout := layoutOf moeLayout tensor } :=
            ⟨multiple, Nat.dvd_zero _, rfl⟩
          refine sound.snoc kept here ?_
          rw [TensorPlacement.ranges, if_pos plain]
          exact .cons begins (.nil (Nat.le_of_eq extended.symm))
      · next scaled =>
          have eight : (256 : UInt64).toNat = 2 ^ 8 := rfl
          refine (align_up_yields eight).bind fun scaleOffset rounded => ?_
          refine reserve_yields.bind fun scaleEnd ended => ?_
          have above := WeightPacking.align_up_le (show 0 < 256 by decide) dataEnd.toNat
          rw [eight] at rounded
          have multiple_ : 256 ∣ scaleOffset.toNat := rounded ▸ Nat.dvd_mul_left _ _
          have here : Aligned options moeLayout
              { tensor := tensor, dataOffset := dataOffset, scaleOffset := scaleOffset
                layout := layoutOf moeLayout tensor } := ⟨multiple, multiple_, rfl⟩
          refine sound.snoc kept here ?_
          rw [TensorPlacement.ranges, if_neg scaled]
          refine .cons begins (.cons ?_ (.nil (Nat.le_of_eq ended.symm)))
          dsimp only
          rw [← extended, rounded]
          exact above

/-- All tensors: the arena is sound, or the sizes overflow. -/
theorem place_tensors_sound {exponent : Nat} (power : options.arenaAlignment.toNat = 2 ^ exponent)
    (tensors : List DeviceTensorV1) :
    Yields (Arena.Sound options moeLayout tensors) Overflows
      (placeTensors options moeLayout tensors) := by
  have positive : 0 < options.arenaAlignment.toNat := power ▸ Nat.two_pow_pos _
  unfold placeTensors
  have begins : ({} : Arena).Sound options moeLayout [] := by
    refine ⟨.nil (Nat.le_refl _), ?_, rfl⟩
    intro placement listed
    cases listed
  have placed : Yields (Arena.Sound options moeLayout tensors) Overflows
      (tensors.foldlM (placeTensor options moeLayout) {}) := by
    apply Yields.fold begins
    intro before tensor _ arena _ sound
    exact place_tensor_sound power sound tensor
  refine placed.bind fun arena sound => (align_up_yields power).bind fun bytes rounded => ?_
  split
  · exact ⟨_, rfl⟩
  · have ending := WeightPacking.align_up_le positive arena.bytes.toNat
    rw [← rounded] at ending
    have joined := sound.stacked.append (.nil ending)
    rw [List.append_nil] at joined
    exact ⟨joined, sound.aligned, sound.residents⟩

end Placement

end Q38.WeightArena
