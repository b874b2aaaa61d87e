import Q38Runtime.EvenRounding
import Mathlib.Data.Int.Log
import Mathlib.Tactic.LinearCombination

/-!
The eight-bit floats of the PLE table: `f32_to_e4m3fn` rounds to the nearest of them, the
even one where two are as near, and both decoders read an encoding back.
-/
namespace Q38.Fp8Encoding
open EvenRounding

section Encoding

/-- A float with its sign, so that there are two zeros. -/
inductive Float32
  | nan (negative : Bool)
  | infinite (negative : Bool)
  | finite (negative : Bool) (magnitude : ℚ)
  deriving DecidableEq

def Float32.signbit : Float32 → Bool
  | .nan negative => negative
  | .infinite negative => negative
  | .finite negative _ => negative

/-- The magnitudes of finite floats. -/
def Binary32 (value : ℚ) : Prop := Dyadic 24 (-149) 104 value

def clip (value low high : ℤ) : ℤ := min (max value low) high

/-- `(exponent_bits << 3) | mantissa` in 32 bits, of which the low ones are kept. -/
def packBits (exponentBits mantissa : ℤ) : UInt8 :=
  UInt8.ofBitVec ((BitVec.ofInt 32 exponentBits <<< 3 ||| BitVec.ofInt 32 mantissa).setWidth 8)

/-- `log2` is that of NumPy, and `float` rounds the result of an operation on floats. -/
structure Arithmetic where
  log2 : ℚ → ℚ
  float : ℚ → ℚ

variable (arithmetic : Arithmetic)

def subnormalBits (magnitude : ℚ) : UInt8 :=
  let mantissa := clip (rint (arithmetic.float (magnitude * 512))) 0 8
  if mantissa = 8 then 0x08 else UInt8.ofNat mantissa.toNat

def normalBits (magnitude : ℚ) : UInt8 :=
  let value := min magnitude 448
  let exponent := clip ⌊arithmetic.log2 value⌋ (-6) 8
  let base : ℚ := 2 ^ exponent
  let fraction := arithmetic.float (arithmetic.float (value / base) - 1)
  let mantissa := rint (arithmetic.float (fraction * 8))
  let carry := mantissa = 8
  let exponent := clip (exponent + if carry then 1 else 0) (-6) 8
  let mantissa := if carry then 0 else mantissa
  let exponentBits := exponent + 7
  let mantissa := if exponentBits = 15 then min mantissa 6 else mantissa
  packBits exponentBits mantissa

def magnitudeBits : Float32 → UInt8
  | .nan _ => 0x7F
  | .infinite _ => 0x7E
  | .finite _ magnitude =>
      if magnitude = 0 then 0
      else if magnitude < 2 ^ (-6 : ℤ) then subnormalBits arithmetic magnitude
      else normalBits arithmetic magnitude

def f32ToE4m3fn (source : Float32) : UInt8 :=
  magnitudeBits arithmetic source ||| (if source.signbit then 1 else 0 : UInt8) <<< 7

end Encoding

section Decoding
variable (float : ℚ → ℚ)

/-- The decoder of the host. -/
def e4m3fnToF32 (encoded : UInt8) : Float32 :=
  let negative := decide (encoded &&& 0x80 ≠ 0)
  let exponent := ((encoded >>> 3) &&& 0x0F).toNat
  let mantissa := (encoded &&& 0x07).toNat
  let result :=
    if exponent = 0 then float (mantissa * 2 ^ (-9 : ℤ))
    else float (float (1 + float (mantissa / 8)) * 2 ^ ((exponent : ℤ) - 7))
  let result := if exponent = 15 ∧ mantissa = 7 then 0 else result
  .finite negative result

/-- The decoder of the device. -/
def decodeE4m3fn (encoded : UInt8) : Float32 :=
  let negative := decide (encoded &&& 0x80 ≠ 0)
  let exponent := ((encoded >>> 3) &&& 0x0F).toNat
  let mantissa := (encoded &&& 0x07).toNat
  if exponent = 0 then .finite negative (float (mantissa * (1 / 512)))
  else if exponent = 15 ∧ mantissa = 7 then .finite false 0
  else .finite negative (float (float (1 + float (mantissa / 8)) * 2 ^ ((exponent : ℤ) - 7)))

end Decoding

section Levels

/-- The magnitude of an encoding without its sign. -/
def level (code : ℕ) : ℚ :=
  if code / 8 = 0 then (code % 8 : ℕ) / 512
  else (1 + (code % 8 : ℕ) / 8) * 2 ^ ((code / 8 : ℕ) - 7 : ℤ)

/-- Sixteen steps of one size, of which the first eight are below the smallest power of two
or another binade's. -/
theorem level_place {binade place : ℕ} (most : place ≤ 16) (least : binade = 0 ∨ 8 ≤ place) :
    level (8 * binade + place) = place * 2 ^ ((binade : ℤ) - 9) := by
  have unit : (2 : ℚ) ^ ((binade : ℤ) - 9) = 2 ^ ((binade : ℤ) - 6) / 8 := by
    rw [show (binade : ℤ) - 9 = binade - 6 + -3 by ring, two_zpow]
    norm_num
    ring
  rcases Nat.lt_or_ge place 8 with less | more
  · have zero : binade = 0 := by omega
    subst zero
    rw [level, if_pos (by omega), show (8 * 0 + place) % 8 = place by omega]
    norm_num
    ring
  · rcases Nat.lt_or_ge place 16 with less | full
    · rw [level, if_neg (by omega), show (8 * binade + place) % 8 = place - 8 by omega,
        show (8 * binade + place) / 8 = binade + 1 by omega, unit]
      push_cast [more]
      rw [show (binade : ℤ) + 1 - 7 = binade - 6 by ring]
      ring
    · have sixteen : place = 16 := by omega
      subst sixteen
      rw [level, if_neg (by omega), show (8 * binade + 16) % 8 = 0 by omega,
        show (8 * binade + 16) / 8 = binade + 2 by omega, unit]
      push_cast
      rw [show (binade : ℤ) + 2 - 7 = binade - 6 + 1 by ring, two_zpow]
      norm_num
      ring

theorem level_mono : StrictMono level := by
  apply strictMono_nat_of_lt_succ
  intro code
  have step (binade place : ℕ) (most : place < 16) (least : binade = 0 ∨ 8 ≤ place) :
      level (8 * binade + place) < level (8 * binade + (place + 1)) := by
    rw [level_place most.le least, level_place most (by omega)]
    have positive : (0 : ℚ) < 2 ^ ((binade : ℤ) - 9) := by positivity
    push_cast
    linarith
  rcases Nat.lt_or_ge code 8 with low | high
  · have less := step 0 code (by omega) (.inl rfl)
    simpa using less
  · have less := step (code / 8 - 1) (code % 8 + 8) (by omega) (.inr (by omega))
    rwa [show 8 * (code / 8 - 1) + (code % 8 + 8) = code by omega,
      show 8 * (code / 8 - 1) + (code % 8 + 8 + 1) = code + 1 by omega] at less

theorem level_top : level 126 = 448 := by
  rw [show 126 = 8 * 14 + 14 from rfl, level_place (by omega) (by omega)]
  norm_num

/-- The nearest step of a binade is the nearest level of all. -/
theorem level_nearest {binade : ℕ} {magnitude unit : ℚ}
    (unit_ : unit = 2 ^ ((binade : ℤ) - 9)) (positive : 0 ≤ magnitude)
    (low : binade = 0 ∨ 8 * unit ≤ magnitude) (high : magnitude ≤ 16 * unit) (other : ℕ) :
    |magnitude - level (8 * binade + (rint (magnitude / unit)).toNat)| ≤
        |magnitude - level other| ∧
      (other ≠ 8 * binade + (rint (magnitude / unit)).toNat →
        |magnitude - level other| =
          |magnitude - level (8 * binade + (rint (magnitude / unit)).toNat)| →
        Even (8 * binade + (rint (magnitude / unit)).toNat)) := by
  have unitPositive : 0 < unit := unit_ ▸ by positivity
  have least : 0 ≤ rint (magnitude / unit) := le_rint (by simpa using by positivity)
  have most : rint (magnitude / unit) ≤ 16 :=
    rint_le (by push_cast; rwa [div_le_iff₀ unitPositive])
  have normal : binade = 0 ∨ 8 ≤ rint (magnitude / unit) := by
    refine low.imp_right fun low => le_rint ?_
    push_cast
    rwa [le_div_iff₀ unitPositive]
  obtain ⟨place, place_⟩ := Int.eq_ofNat_of_zero_le least
  rw [place_] at most normal
  have scaled : ∀ step : ℤ, |magnitude - step * unit| = |magnitude / unit - step| * unit := by
    intro step
    rw [← abs_of_pos unitPositive, ← abs_mul, abs_of_pos unitPositive, sub_mul,
      div_mul_cancel₀ _ unitPositive.ne']
  have steps : ∀ step : ℕ, step ≤ 16 → (binade = 0 ∨ 8 ≤ step) →
      level (8 * binade + step) = (step : ℤ) * unit := by
    intro step most least
    rw [level_place most least, unit_]
    push_cast
    rfl
  have near : ∀ step : ℤ, |magnitude - (place : ℤ) * unit| ≤ |magnitude - step * unit| := by
    intro step
    rw [scaled, scaled, ← place_]
    exact mul_le_mul_of_nonneg_right (rint_nearest _ step) unitPositive.le
  have here := steps place (by omega) (by omega)
  rw [place_, Int.toNat_natCast, here]
  -- A level of another binade is farther away than the end of this one.
  have outside : |magnitude - (place : ℤ) * unit| < |magnitude - level other| →
      |magnitude - (place : ℤ) * unit| ≤ |magnitude - level other| ∧
        (other ≠ 8 * binade + place →
          |magnitude - level other| = |magnitude - (place : ℤ) * unit| →
          Even (8 * binade + place)) :=
    fun farther => ⟨farther.le, fun _ tie => absurd tie farther.ne'⟩
  by_cases below : binade ≠ 0 ∧ other < 8 * binade + 8
  · apply outside
    have less := level_mono below.2
    rw [steps 8 (by omega) (by omega)] at less
    have end_ := near 8
    have edge : 8 * unit ≤ magnitude := low.resolve_left below.1
    push_cast at less end_ ⊢
    rw [abs_of_nonneg (a := magnitude - 8 * unit) (by linarith)] at end_
    rw [abs_of_nonneg (a := magnitude - level other) (by linarith)]
    linarith
  by_cases above : 8 * binade + 16 < other
  · apply outside
    have more := level_mono above
    rw [steps 16 (by omega) (by omega)] at more
    have end_ := near 16
    push_cast at more end_ ⊢
    rw [abs_of_nonpos (a := magnitude - 16 * unit) (by linarith)] at end_
    rw [abs_of_nonpos (a := magnitude - level other) (by linarith)]
    linarith
  obtain ⟨step, rfl⟩ : ∃ step, other = 8 * binade + step := ⟨other - 8 * binade, by omega⟩
  rw [steps step (by omega) (by omega)]
  refine ⟨near step, fun differ tie => ?_⟩
  rw [scaled, scaled, ← place_] at tie
  have differ_ : (step : ℤ) ≠ rint (magnitude / unit) := by
    rw [place_]
    omega
  have even := rint_tied differ_ (mul_right_cancel₀ unitPositive.ne' tie)
  rw [place_, Int.even_coe_nat] at even
  exact (Even.mul_right (by decide) binade).add even

end Levels

section Exactness
variable {magnitude : ℚ} {exponent : ℤ}

theorem binary_zpow (low : -149 ≤ exponent) (high : exponent ≤ 104) : Binary32 (2 ^ exponent) :=
  ⟨1, exponent, by norm_num, low, high, by simp⟩

theorem binary_top : Binary32 448 := ⟨7, 6, by norm_num, by norm_num, by norm_num, by norm_num⟩

theorem binary_min (binary : Binary32 magnitude) : Binary32 (min magnitude 448) := by
  rcases min_choice magnitude 448 with here | here <;> rw [here]
  · exact binary
  · exact binary_top

/-- Scaling a subnormal by a power of two loses nothing. -/
theorem subnormal_exact (binary : Binary32 magnitude) (positive : 0 < magnitude)
    (small : magnitude < 2 ^ (-6 : ℤ)) : Binary32 (magnitude * 512) := by
  obtain ⟨significand, exponent, bound, low, high, rfl⟩ := binary
  have unit : (0 : ℚ) < 2 ^ exponent := by positivity
  have some_ : 1 ≤ significand := by
    have positive_ : (0 : ℚ) < significand := pos_of_mul_pos_left positive unit.le
    exact_mod_cast positive_
  have less : exponent < -6 := by
    apply zpow_less
    have some_' : (1 : ℚ) ≤ significand := by exact_mod_cast some_
    nlinarith
  refine ⟨significand, exponent + 9, bound, by omega, by omega, ?_⟩
  rw [two_zpow]
  norm_num
  ring

/-- The quotient by a power of two, its distance from one and eight times that are floats. -/
theorem quotient_exact (binary : Binary32 magnitude) (low : 2 ^ (-6 : ℤ) ≤ magnitude)
    (high : magnitude ≤ 448) (least : -6 ≤ exponent) (most : exponent ≤ 8)
    (above : 1 / 2 ≤ magnitude / 2 ^ exponent) (below : magnitude / 2 ^ exponent < 2) :
    Binary32 (magnitude / 2 ^ exponent) ∧ Binary32 (magnitude / 2 ^ exponent - 1) ∧
      Binary32 ((magnitude / 2 ^ exponent - 1) * 8) := by
  obtain ⟨significand, place, bound, -, -, rfl⟩ := binary
  have unit : (0 : ℚ) < 2 ^ place := by positivity
  have positive : (0 : ℚ) < significand * 2 ^ place := lt_of_lt_of_le (by positivity) low
  have some_ : (0 : ℚ) < significand := pos_of_mul_pos_left positive unit.le
  have some_' : 1 ≤ significand := by exact_mod_cast some_
  have bound_ : (significand : ℚ) < 2 ^ (24 : ℤ) := by
    have read := (abs_lt.mp bound).2
    exact_mod_cast read
  have placeLow : -30 < place := by
    have less : (2 : ℚ) ^ (-6 : ℤ) < 2 ^ (24 + place) := by
      rw [two_zpow]
      exact low.trans_lt (mul_lt_mul_of_pos_right bound_ unit)
    have read := zpow_less less
    omega
  have placeHigh : place < 9 := by
    apply zpow_less
    have one : (1 : ℚ) ≤ significand := by exact_mod_cast some_'
    norm_num
    nlinarith
  have scaled : significand * 2 ^ place / 2 ^ exponent =
      (significand : ℚ) * 2 ^ (place - exponent) := by
    rw [zpow_sub₀ two_ne_zero]
    ring
  rw [scaled] at above below ⊢
  refine ⟨⟨significand, place - exponent, bound, by omega, by omega, rfl⟩, ?_⟩
  rcases le_or_gt place exponent with inside | outside
  · let whole : ℤ := 2 ^ (exponent - place).toNat
    have whole_ : (whole : ℚ) = 2 ^ (exponent - place) := by
      simp only [whole, Int.cast_pow, Int.cast_ofNat]
      rw [← zpow_natCast, Int.toNat_of_nonneg (by omega)]
    have one : (whole : ℚ) * 2 ^ (place - exponent) = 1 := by
      rw [whole_, ← two_zpow]
      simp
    have unit_ : (0 : ℚ) < 2 ^ (place - exponent) := by positivity
    have wholePositive : 0 < whole := by positivity
    have half : whole ≤ 2 * significand := by
      have half_ : (whole : ℚ) ≤ 2 * significand := by
        by_contra more
        have more_ := mul_lt_mul_of_pos_right (not_le.mp more) unit_
        rw [one] at more_
        linarith
      exact_mod_cast half_
    have near : |significand - whole| < 2 ^ 24 := by
      rw [abs_lt] at bound ⊢
      omega
    refine ⟨⟨significand - whole, place - exponent, near, by omega, by omega, ?_⟩,
      ⟨significand - whole, place - exponent + 3, near, by omega, by omega, ?_⟩⟩
    · push_cast
      rw [sub_mul, one]
    · rw [two_zpow]
      push_cast
      linear_combination (8 : ℚ) * one
  · -- A float below two that is a multiple of two would be zero.
    exfalso
    have two : (2 : ℚ) ≤ 2 ^ (place - exponent) := by
      calc (2 : ℚ) = 2 ^ (1 : ℤ) := by norm_num
        _ ≤ 2 ^ (place - exponent) := zpow_le_zpow_right₀ one_le_two (by omega)
    have one : (1 : ℚ) ≤ significand := by exact_mod_cast some_'
    nlinarith

end Exactness

section Agreement
variable {arithmetic : Arithmetic} {magnitude : ℚ}

/-- `log2` keeps the order and is exact at powers of two, and a result that is a float is
not rounded. -/
structure Assumed (arithmetic : Arithmetic) : Prop where
  monotone : ∀ first second, Binary32 first → Binary32 second → 0 < first → first ≤ second →
    arithmetic.log2 first ≤ arithmetic.log2 second
  powers : ∀ exponent : ℤ, -149 ≤ exponent → exponent ≤ 104 →
    arithmetic.log2 (2 ^ exponent) = exponent
  exact : ∀ value, Binary32 value → arithmetic.float value = value

/-- No logarithm is rounded up to that of a power of two which is a thirty-second away. -/
def Accurate (arithmetic : Arithmetic) : Prop :=
  ∀ value exponent, Binary32 value → 0 < value → value < 31 / 32 * 2 ^ (exponent : ℤ) →
    arithmetic.log2 value < exponent

theorem exponent_bounds (assumed : Assumed arithmetic) (accurate : Accurate arithmetic)
    (binary : Binary32 magnitude) (low : 2 ^ (-6 : ℤ) ≤ magnitude) (high : magnitude ≤ 448) :
    -6 ≤ ⌊arithmetic.log2 magnitude⌋ ∧ ⌊arithmetic.log2 magnitude⌋ ≤ 8 ∧
      magnitude < 2 * 2 ^ ⌊arithmetic.log2 magnitude⌋ ∧
      31 / 32 * 2 ^ ⌊arithmetic.log2 magnitude⌋ ≤ magnitude := by
  have positive : 0 < magnitude := lt_of_lt_of_le (by positivity) low
  have least : -6 ≤ ⌊arithmetic.log2 magnitude⌋ := by
    rw [Int.le_floor, ← assumed.powers (-6) (by norm_num) (by norm_num)]
    exact assumed.monotone _ _ (binary_zpow (by norm_num) (by norm_num)) binary
      (by positivity) low
  have most : ⌊arithmetic.log2 magnitude⌋ < 9 := by
    rw [Int.floor_lt]
    refine accurate magnitude 9 binary positive ?_
    norm_num
    linarith
  refine ⟨least, by omega, ?_, ?_⟩
  · by_contra more
    have power : (2 : ℚ) ^ (⌊arithmetic.log2 magnitude⌋ + 1) ≤ magnitude := by
      rw [two_zpow, zpow_one]
      linarith
    have ordered := assumed.monotone _ _ (binary_zpow (by omega) (by omega)) binary
      (by positivity) power
    rw [assumed.powers _ (by omega) (by omega)] at ordered
    have less := Int.lt_floor_add_one (arithmetic.log2 magnitude)
    push_cast at ordered
    linarith
  · by_contra less
    have below := accurate magnitude _ binary positive (not_le.mp less)
    have floor := Int.floor_le (arithmetic.log2 magnitude)
    linarith

theorem pack_bits {exponentBits mantissa : ℤ} (least : 0 ≤ exponentBits) (most : exponentBits ≤ 15)
    (least_ : 0 ≤ mantissa) (most_ : mantissa ≤ 7) :
    (packBits exponentBits mantissa).toNat = 8 * exponentBits.toNat + mantissa.toNat := by
  have all : ∀ (high : Fin 16) (low : Fin 8),
      (packBits (high.val : ℤ) (low.val : ℤ)).toNat = 8 * high.val + low.val := by decide
  have here := all ⟨exponentBits.toNat, by omega⟩ ⟨mantissa.toNat, by omega⟩
  dsimp only at here
  rwa [Int.toNat_of_nonneg least, Int.toNat_of_nonneg least_] at here

/-- The bits of a normal value from its exponent and its rounded fraction. -/
theorem normal_bits (assumed : Assumed arithmetic) (accurate : Accurate arithmetic)
    (binary : Binary32 magnitude) (low : 2 ^ (-6 : ℤ) ≤ magnitude) :
    ∃ exponent mantissa : ℤ, -6 ≤ exponent ∧ exponent ≤ 8 ∧
      31 / 32 * 2 ^ exponent ≤ min magnitude 448 ∧ min magnitude 448 < 2 * 2 ^ exponent ∧
      mantissa = rint ((min magnitude 448 / 2 ^ exponent - 1) * 8) ∧
      0 ≤ mantissa ∧ mantissa ≤ 8 ∧ (exponent = 8 → mantissa ≤ 6) ∧
      ((normalBits arithmetic magnitude).toNat : ℤ) = 8 * (exponent + 7) + mantissa := by
  have binary_ := binary_min binary
  have low_ : 2 ^ (-6 : ℤ) ≤ min magnitude 448 := le_min low (by norm_num)
  have high : min magnitude 448 ≤ 448 := min_le_right _ _
  obtain ⟨least, most, below, above⟩ := exponent_bounds assumed accurate binary_ low_ high
  generalize exponent_ : ⌊arithmetic.log2 (min magnitude 448)⌋ = exponent at least most below above
  have unit : (0 : ℚ) < 2 ^ exponent := by positivity
  have above_ : 31 / 32 ≤ min magnitude 448 / 2 ^ exponent := (le_div_iff₀ unit).mpr above
  have below_ : min magnitude 448 / 2 ^ exponent < 2 := (div_lt_iff₀ unit).mpr below
  obtain ⟨quotient, difference, product⟩ :=
    quotient_exact binary_ low_ high least most (by linarith) below_
  generalize mantissa_ : rint ((min magnitude 448 / 2 ^ exponent - 1) * 8) = mantissa
  have mantissaLow : 0 ≤ mantissa := by
    rw [← mantissa_]
    rcases le_or_gt 0 ((min magnitude 448 / 2 ^ exponent - 1) * 8) with least | less
    · exact le_rint (by simpa using least)
    · refine (rint_unique ?_).ge
      rw [Int.cast_zero, sub_zero, abs_of_neg less]
      linarith
  have mantissaHigh : mantissa ≤ 8 := by
    rw [← mantissa_]
    exact rint_le (by push_cast; linarith)
  have topHigh : exponent = 8 → mantissa ≤ 6 := by
    intro top
    have quarter : min magnitude 448 / 2 ^ exponent ≤ 7 / 4 := by
      rw [div_le_iff₀ unit, top]
      norm_num
    rw [← mantissa_]
    exact rint_le (by push_cast; linarith)
  refine ⟨exponent, mantissa, least, most, above, below, mantissa_.symm, mantissaLow, mantissaHigh,
    topHigh, ?_⟩
  have kept : clip exponent (-6) 8 = exponent := by
    unfold clip
    omega
  unfold normalBits
  dsimp only
  rw [exponent_, kept, assumed.exact _ quotient, assumed.exact _ difference,
    assumed.exact _ product, mantissa_]
  by_cases carry : mantissa = 8
  · have next : clip (exponent + 1) (-6) 8 = exponent + 1 := by
      unfold clip
      omega
    simp only [carry, if_true]
    rw [next, show (if exponent + 1 + 7 = 15 then min (0 : ℤ) 6 else 0) = 0 by
      split <;> rfl, pack_bits (by omega) (by omega) (by omega) (by omega)]
    push_cast
    omega
  · simp only [carry, if_false, add_zero]
    rw [kept, show (if exponent + 7 = 15 then min mantissa 6 else mantissa) = mantissa by
      split <;> omega, pack_bits (by omega) (by omega) (by omega) (by omega)]
    push_cast
    omega

/-- The bits of a normal value are the nearest step of a binade. A logarithm that is rounded
up takes the next binade, where the value is rounded to the first step. -/
theorem normal_place (assumed : Assumed arithmetic) (accurate : Accurate arithmetic)
    (binary : Binary32 magnitude) (low : 2 ^ (-6 : ℤ) ≤ magnitude) :
    ∃ binade : ℕ, 8 * 2 ^ ((binade : ℤ) - 9) ≤ min magnitude 448 ∧
      min magnitude 448 ≤ 16 * 2 ^ ((binade : ℤ) - 9) ∧
      (normalBits arithmetic magnitude).toNat =
        8 * binade + (rint (min magnitude 448 / 2 ^ ((binade : ℤ) - 9))).toNat ∧
      (normalBits arithmetic magnitude).toNat ≤ 126 := by
  obtain ⟨exponent, mantissa, least, most, above, below, mantissa_, mantissaLow, mantissaHigh,
    topHigh, bits⟩ := normal_bits assumed accurate binary low
  have low_ : 2 ^ (-6 : ℤ) ≤ min magnitude 448 := le_min low (by norm_num)
  generalize value_ : min magnitude 448 = value at above below mantissa_ low_
  have unit : (0 : ℚ) < 2 ^ exponent := by positivity
  rcases le_or_gt (2 ^ exponent) value with inside | outside
  · have step : (2 : ℚ) ^ (((exponent + 6).toNat : ℤ) - 9) = 2 ^ exponent / 8 := by
      rw [Int.toNat_of_nonneg (by omega), show exponent + 6 - 9 = exponent + -3 by ring, two_zpow]
      norm_num
      ring
    refine ⟨(exponent + 6).toNat, ?_, ?_, ?_, by omega⟩
    · rw [step]
      linarith
    · rw [step]
      linarith
    · have shifted : value / (2 ^ exponent / 8) = (value / 2 ^ exponent - 1) * 8 + (8 : ℤ) := by
        push_cast
        field_simp
        ring
      rw [step, shifted, rint_add_even _ (by decide), ← mantissa_]
      omega
  · have apart : -6 < exponent := zpow_less (low_.trans_lt outside)
    have step : (2 : ℚ) ^ (((exponent + 5).toNat : ℤ) - 9) = 2 ^ exponent / 16 := by
      rw [Int.toNat_of_nonneg (by omega), show exponent + 5 - 9 = exponent + -4 by ring, two_zpow]
      norm_num
      ring
    have first : mantissa = 0 := by
      rw [mantissa_]
      apply rint_unique
      have quotient : 31 / 32 ≤ value / 2 ^ exponent := (le_div_iff₀ unit).mpr above
      have less : value / 2 ^ exponent < 1 := (div_lt_one unit).mpr outside
      rw [Int.cast_zero, sub_zero, abs_lt]
      constructor <;> linarith
    refine ⟨(exponent + 5).toNat, ?_, ?_, ?_, by omega⟩
    · rw [step]
      linarith
    · rw [step]
      linarith
    · have last : rint (value / (2 ^ exponent / 16)) = 16 := by
        have half : 31 / 2 ≤ value / (2 ^ exponent / 16) := by
          rw [le_div_iff₀ (by positivity)]
          linarith
        have less : value / (2 ^ exponent / 16) < 16 := by
          rw [div_lt_iff₀ (by positivity)]
          linarith
        rcases half.lt_or_eq with more | tie
        · apply rint_unique
          rw [abs_lt]
          push_cast
          constructor <;> linarith
        · apply rint_even _ (by decide)
          rw [← tie]
          norm_num [abs_of_neg]
      rw [step, last]
      omega

end Agreement

section Codes
variable {arithmetic : Arithmetic} {magnitude : ℚ} {negative : Bool}

theorem byte_fields (encoded : UInt8) :
    decide (encoded &&& 0x80 ≠ 0) = decide (128 ≤ encoded.toNat) ∧
      ((encoded >>> 3) &&& 0x0F).toNat = encoded.toNat % 128 / 8 ∧
      (encoded &&& 0x07).toNat = encoded.toNat % 128 % 8 := by
  have all : ∀ byte : Fin 256,
      decide (UInt8.ofFin byte &&& 0x80 ≠ 0) = decide (128 ≤ byte.val) ∧
        ((UInt8.ofFin byte >>> 3) &&& 0x0F).toNat = byte.val % 128 / 8 ∧
        (UInt8.ofFin byte &&& 0x07).toNat = byte.val % 128 % 8 := by decide +kernel
  exact all encoded.toFin

theorem signed_bits {bits : UInt8} (low : bits.toNat < 128) (negative : Bool) :
    (bits ||| (if negative then 1 else 0 : UInt8) <<< 7).toNat =
      bits.toNat + if negative then 128 else 0 := by
  have all : ∀ (byte : Fin 128) (negative : Bool),
      (UInt8.ofNat byte.val ||| (if negative then 1 else 0 : UInt8) <<< 7).toNat =
        byte.val + if negative then 128 else 0 := by decide +kernel
  have here := all ⟨bits.toNat, low⟩ negative
  rwa [UInt8.ofNat_toNat] at here

theorem subnormal_level (assumed : Assumed arithmetic) {mantissa : ℕ} (less : mantissa < 8) :
    arithmetic.float (mantissa * 2 ^ (-9 : ℤ)) = level mantissa := by
  have binary : Binary32 (mantissa * 2 ^ (-9 : ℤ)) :=
    ⟨mantissa, -9, by rw [abs_lt]; omega, by norm_num, by norm_num, by push_cast; rfl⟩
  rw [assumed.exact _ binary, level, if_pos (by omega), Nat.mod_eq_of_lt less]
  norm_num
  ring

theorem normal_level (assumed : Assumed arithmetic) {exponent mantissa : ℕ} (less : mantissa < 8)
    (some_ : exponent ≠ 0) (most : exponent ≤ 15) :
    arithmetic.float (arithmetic.float (1 + arithmetic.float (mantissa / 8)) *
      2 ^ ((exponent : ℤ) - 7)) = level (8 * exponent + mantissa) := by
  have eighth : Binary32 (mantissa / 8 : ℚ) :=
    ⟨mantissa, -3, by rw [abs_lt]; omega, by norm_num, by norm_num, by norm_num; ring⟩
  have one : Binary32 (1 + mantissa / 8 : ℚ) :=
    ⟨8 + mantissa, -3, by rw [abs_lt]; omega, by norm_num, by norm_num, by norm_num; ring⟩
  have whole : Binary32 ((1 + mantissa / 8 : ℚ) * 2 ^ ((exponent : ℤ) - 7)) := by
    refine ⟨8 + mantissa, exponent - 10, by rw [abs_lt]; omega, by omega, by omega, ?_⟩
    rw [show (exponent : ℤ) - 10 = exponent - 7 + -3 by ring, two_zpow ((exponent : ℤ) - 7) (-3)]
    push_cast
    norm_num
    ring
  rw [assumed.exact _ eighth, assumed.exact _ one, assumed.exact _ whole, level,
    if_neg (by omega), show (8 * exponent + mantissa) % 8 = mantissa by omega,
    show (8 * exponent + mantissa) / 8 = exponent by omega]

theorem host_level (assumed : Assumed arithmetic) (encoded : UInt8) :
    e4m3fnToF32 arithmetic.float encoded = .finite (decide (128 ≤ encoded.toNat))
      (if encoded.toNat % 128 = 127 then 0 else level (encoded.toNat % 128)) := by
  obtain ⟨sign, exponent, mantissa⟩ := byte_fields encoded
  have bound : encoded.toNat % 128 < 128 := Nat.mod_lt _ (by decide)
  unfold e4m3fnToF32
  dsimp only
  rw [sign, exponent, mantissa]
  generalize encoded.toNat % 128 = code at bound
  by_cases nan : code = 127
  · rw [if_pos nan, if_pos (by omega)]
  · rw [if_neg nan, if_neg (by omega)]
    by_cases subnormal : code / 8 = 0
    · rw [if_pos subnormal, subnormal_level assumed (by omega), show code % 8 = code by omega]
    · rw [if_neg subnormal, normal_level assumed (by omega) subnormal (by omega),
        Nat.div_add_mod code 8]

theorem device_level (assumed : Assumed arithmetic) (encoded : UInt8) :
    decodeE4m3fn arithmetic.float encoded =
      if encoded.toNat % 128 = 127 then .finite false 0
      else .finite (decide (128 ≤ encoded.toNat)) (level (encoded.toNat % 128)) := by
  obtain ⟨sign, exponent, mantissa⟩ := byte_fields encoded
  have bound : encoded.toNat % 128 < 128 := Nat.mod_lt _ (by decide)
  unfold decodeE4m3fn
  dsimp only
  rw [sign, exponent, mantissa]
  generalize encoded.toNat % 128 = code at bound
  by_cases nan : code = 127
  · rw [if_pos nan, if_neg (by omega), if_pos (by omega)]
  · rw [if_neg nan]
    by_cases subnormal : code / 8 = 0
    · have unit : (1 / 512 : ℚ) = 2 ^ (-9 : ℤ) := by norm_num
      rw [if_pos subnormal, unit, subnormal_level assumed (by omega),
        show code % 8 = code by omega]
    · rw [if_neg subnormal, if_neg (by omega),
        normal_level assumed (by omega) subnormal (by omega), Nat.div_add_mod code 8]

end Codes

section Results
variable {arithmetic : Arithmetic} {magnitude : ℚ} {negative : Bool}

/-- The encoding decodes to the nearest level up to 448, the even one where two are as near,
with the sign of the value. -/
structure Encodes (float : ℚ → ℚ) (negative : Bool) (magnitude : ℚ) (encoded : UInt8) : Prop where
  decoded : e4m3fnToF32 float encoded = .finite negative (level (encoded.toNat % 128))
  finite : encoded.toNat % 128 ≤ 126
  nearest : ∀ other ≤ 126,
    |magnitude - level (encoded.toNat % 128)| ≤ |magnitude - level other|
  even : ∀ other ≤ 126, other ≠ encoded.toNat % 128 →
    |magnitude - level other| = |magnitude - level (encoded.toNat % 128)| →
    Even (encoded.toNat % 128)
  saturated : 448 ≤ magnitude → level (encoded.toNat % 128) = 448

/-- The bits of a magnitude are the nearest step of a binade of what is no more than 448. -/
theorem magnitude_place (assumed : Assumed arithmetic) (accurate : Accurate arithmetic)
    (positive : 0 ≤ magnitude) (binary : Binary32 magnitude) (negative : Bool) :
    ∃ binade : ℕ, (binade = 0 ∨ 8 * 2 ^ ((binade : ℤ) - 9) ≤ min magnitude 448) ∧
      min magnitude 448 ≤ 16 * 2 ^ ((binade : ℤ) - 9) ∧
      (magnitudeBits arithmetic (.finite negative magnitude)).toNat =
        8 * binade + (rint (min magnitude 448 / 2 ^ ((binade : ℤ) - 9))).toNat ∧
      (magnitudeBits arithmetic (.finite negative magnitude)).toNat ≤ 126 := by
  unfold magnitudeBits
  dsimp only
  by_cases zero : magnitude = 0
  · refine ⟨0, .inl rfl, ?_, ?_, ?_⟩
    · rw [zero]
      norm_num
    · rw [if_pos zero, zero, min_eq_left (by norm_num), zero_div]
      have nothing := rint_int (α := ℚ) 0
      rw [Int.cast_zero] at nothing
      rw [nothing]
      rfl
    · rw [if_pos zero]
      decide
  rw [if_neg zero]
  by_cases small : magnitude < 2 ^ (-6 : ℤ)
  · rw [if_pos small]
    have unit : (2 : ℚ) ^ (((0 : ℕ) : ℤ) - 9) = 1 / 512 := by norm_num
    have small_ : magnitude < 1 / 64 := by
      norm_num at small ⊢
      exact small
    have kept : min magnitude 448 = magnitude := min_eq_left (by linarith)
    have least : 0 ≤ rint (magnitude * 512) := le_rint (by simpa using positive)
    have most : rint (magnitude * 512) ≤ 8 := rint_le (by push_cast; linarith)
    have bits : (subnormalBits arithmetic magnitude).toNat = (rint (magnitude * 512)).toNat := by
      unfold subnormalBits
      have kept : clip (rint (magnitude * 512)) 0 8 = rint (magnitude * 512) := by
        unfold clip
        omega
      have some_ : 0 < magnitude := lt_of_le_of_ne positive (Ne.symm zero)
      dsimp only
      rw [assumed.exact _ (subnormal_exact binary some_ small), kept]
      split
      · rename_i eight
        rw [eight]
        rfl
      · rw [UInt8.toNat_ofNat', Nat.mod_eq_of_lt (by omega)]
    refine ⟨0, .inl rfl, ?_, ?_, by omega⟩
    · rw [kept, unit]
      linarith
    · rw [bits, kept, unit, one_div, div_inv_eq_mul, Nat.mul_zero, Nat.zero_add]
  · rw [if_neg small]
    obtain ⟨binade, low, high, bits, most⟩ :=
      normal_place assumed accurate binary (not_lt.mp small)
    exact ⟨binade, .inr low, high, bits, most⟩

theorem encodes (assumed : Assumed arithmetic) (accurate : Accurate arithmetic)
    (positive : 0 ≤ magnitude) (binary : Binary32 magnitude) (negative : Bool) :
    Encodes arithmetic.float negative magnitude
      (f32ToE4m3fn arithmetic (.finite negative magnitude)) := by
  obtain ⟨binade, low, high, bits, most⟩ :=
    magnitude_place assumed accurate positive binary negative
  have signed := signed_bits (by omega : (magnitudeBits arithmetic
    (.finite negative magnitude)).toNat < 128) negative
  have code : (f32ToE4m3fn arithmetic (.finite negative magnitude)).toNat % 128 =
      (magnitudeBits arithmetic (.finite negative magnitude)).toNat := by
    unfold f32ToE4m3fn
    rw [Float32.signbit, signed]
    cases negative <;> simp <;> omega
  have sign : decide (128 ≤ (f32ToE4m3fn arithmetic (.finite negative magnitude)).toNat) =
      negative := by
    unfold f32ToE4m3fn
    rw [Float32.signbit, signed]
    cases negative <;> simp
    omega
  have near := level_nearest rfl (le_min positive (by norm_num)) low high
  rw [← bits, ← code] at near
  have top : 448 ≤ magnitude → (f32ToE4m3fn arithmetic (.finite negative magnitude)).toNat % 128 =
      126 := by
    intro large
    have reached := (near 126).1
    rw [min_eq_right large, level_top, sub_self, abs_zero] at reached
    have same := abs_nonpos_iff.mp reached
    apply level_mono.injective
    rw [level_top]
    linarith
  rw [← code] at most
  generalize f32ToE4m3fn arithmetic (.finite negative magnitude) = encoded at *
  constructor
  case decoded => rw [host_level assumed, sign, if_neg (by omega)]
  case finite => exact most
  case nearest =>
    intro other bounded
    rcases le_or_gt magnitude 448 with inside | outside
    · rw [min_eq_left inside] at near
      exact (near other).1
    · have below := level_mono.monotone bounded
      rw [top outside.le, level_top]
      rw [level_top] at below
      rw [abs_of_pos (by linarith), abs_of_pos (by linarith)]
      linarith
  case even =>
    intro other _ differ tie
    rcases le_or_gt magnitude 448 with inside | outside
    · rw [min_eq_left inside] at near
      exact (near other).2 differ tie
    · rw [top outside.le]
      decide
  case saturated =>
    intro large
    rw [top large, level_top]

theorem level_binary {code : ℕ} (bound : code < 128) : Binary32 (level code) := by
  rcases Nat.lt_or_ge code 8 with low | high
  · rw [← Nat.zero_add code, ← Nat.mul_zero 8, level_place (by omega) (.inl rfl)]
    exact ⟨code, -9, by rw [abs_lt]; omega, by norm_num, by norm_num, by push_cast; rfl⟩
  · rw [show code = 8 * (code / 8 - 1) + (code % 8 + 8) by omega,
      level_place (by omega) (.inr (by omega))]
    exact ⟨(code % 8 + 8 : ℕ), ((code / 8 - 1 : ℕ) : ℤ) - 9, by rw [abs_lt]; omega, by omega,
      by omega, by push_cast; rfl⟩

theorem level_positive (code : ℕ) : 0 ≤ level code := by
  unfold level
  split <;> positivity

/-- What a decoded encoding is encoded to is the encoding itself. -/
theorem decoded_encoded (assumed : Assumed arithmetic) (accurate : Accurate arithmetic)
    {encoded : UInt8} (number : encoded.toNat % 128 ≠ 127) :
    f32ToE4m3fn arithmetic (e4m3fnToF32 arithmetic.float encoded) = encoded := by
  have bound : encoded.toNat % 128 < 128 := Nat.mod_lt _ (by decide)
  have small := encoded.toNat_lt
  rw [host_level assumed, if_neg number]
  have again := encodes assumed accurate (level_positive (encoded.toNat % 128))
    (level_binary bound) (decide (128 ≤ encoded.toNat))
  generalize f32ToE4m3fn arithmetic _ = twice at again ⊢
  have code : twice.toNat % 128 = encoded.toNat % 128 := by
    have reached := again.nearest (encoded.toNat % 128) (by omega)
    rw [sub_self, abs_zero] at reached
    exact (level_mono.injective (sub_eq_zero.mp (abs_nonpos_iff.mp reached))).symm
  have sign : decide (128 ≤ twice.toNat) = decide (128 ≤ encoded.toNat) := by
    have read := again.decoded
    rw [host_level assumed] at read
    exact (Float32.finite.inj read).1
  have small_ := twice.toNat_lt
  apply UInt8.toNat_inj.mp
  rw [decide_eq_decide] at sign
  omega

/-- A finite float as a number. -/
def Float32.number : Float32 → Option ℚ
  | .nan _ => none
  | .infinite _ => none
  | .finite negative magnitude => some (if negative then -magnitude else magnitude)

/-- A value is rounded to the nearest encoding, the decoders agree as numbers, and in sign too
but for a NaN, and what is decoded is encoded to what it was. -/
theorem e4m3fn_rounds (arithmetic : Arithmetic) (assumed : Assumed arithmetic)
    (accurate : Accurate arithmetic) :
    (∀ negative magnitude, 0 ≤ magnitude → Binary32 magnitude →
      Encodes arithmetic.float negative magnitude
        (f32ToE4m3fn arithmetic (.finite negative magnitude))) ∧
    (∀ encoded, (e4m3fnToF32 arithmetic.float encoded).number =
      (decodeE4m3fn arithmetic.float encoded).number) ∧
    (∀ encoded, encoded ≠ 0xFF →
      e4m3fnToF32 arithmetic.float encoded = decodeE4m3fn arithmetic.float encoded) ∧
    (∀ encoded : UInt8, encoded.toNat % 128 ≠ 127 →
      f32ToE4m3fn arithmetic (e4m3fnToF32 arithmetic.float encoded) = encoded) := by
  refine ⟨fun negative magnitude positive binary =>
    encodes assumed accurate positive binary negative, fun encoded => ?_, fun encoded differ => ?_,
    fun encoded => decoded_encoded assumed accurate⟩
  · rw [host_level assumed, device_level assumed]
    by_cases nan : encoded.toNat % 128 = 127
    · simp [nan, Float32.number]
    · rw [if_neg nan, if_neg nan]
  · have small := encoded.toNat_lt
    rw [host_level assumed, device_level assumed]
    by_cases nan : encoded.toNat % 128 = 127
    · have other : ¬ 128 ≤ encoded.toNat := by
        intro negative
        apply differ
        apply UInt8.toNat_inj.mp
        change encoded.toNat = 255
        omega
      rw [if_pos nan, if_pos nan, decide_eq_false other]
    · rw [if_neg nan, if_neg nan]

/-- The exact arithmetic whose logarithm is rounded down to an integer. -/
def flooring : Arithmetic := ⟨fun value => Int.log 2 value, id⟩

/-- The exact arithmetic whose logarithm is rounded up to an integer. -/
def ceiling : Arithmetic := ⟨fun value => Int.clog 2 value, id⟩

theorem flooring_assumed : Assumed flooring where
  monotone first second _ _ positive ordered := by
    have less := Int.log_mono_right (b := 2) positive ordered
    exact Int.cast_le.mpr less
  powers exponent _ _ := by
    have here := Int.log_zpow (R := ℚ) one_lt_two exponent
    exact congrArg Int.cast here
  exact _ _ := rfl

theorem ceiling_assumed : Assumed ceiling where
  monotone first second _ _ positive ordered := by
    have less := Int.clog_mono_right (b := 2) positive ordered
    exact Int.cast_le.mpr less
  powers exponent _ _ := by
    have here := Int.clog_zpow (R := ℚ) one_lt_two exponent
    exact congrArg Int.cast here
  exact _ _ := rfl

theorem flooring_accurate : Accurate flooring := by
  intro value exponent _ positive below
  have less : value < ((2 : ℕ) : ℚ) ^ exponent := by
    have unit : (0 : ℚ) < 2 ^ exponent := by positivity
    push_cast
    linarith
  exact Int.cast_lt.mpr ((Int.lt_zpow_iff_log_lt one_lt_two positive).mp less)

/-- Two of a binade's first step. -/
theorem e4m3fn_rounds_two :
    Encodes id true 2 (f32ToE4m3fn flooring (.finite true 2)) ∧
    (e4m3fnToF32 id 0xFF).number = (decodeE4m3fn id 0xFF).number ∧
    e4m3fnToF32 id 0x80 = decodeE4m3fn id 0x80 ∧
    f32ToE4m3fn flooring (e4m3fnToF32 id 0x80) = 0x80 := by
  have each := e4m3fn_rounds flooring flooring_assumed flooring_accurate
  exact ⟨each.1 true 2 (by norm_num) ⟨1, 1, by norm_num, by norm_num, by norm_num, by norm_num⟩,
    each.2.1 0xFF, each.2.2.1 0x80 (by decide), each.2.2.2 0x80 (by decide)⟩

/-- A logarithm that keeps the order and is exact at powers of two may make minus 448 of
three quarters; and the decoders have zeros of two signs for the negative NaN. -/
theorem three_quarters_lost :
    Assumed ceiling ∧ Binary32 (3 / 4) ∧ f32ToE4m3fn ceiling (.finite false (3 / 4)) = 0xFE ∧
      ¬ Encodes id false (3 / 4) (f32ToE4m3fn ceiling (.finite false (3 / 4))) ∧
      e4m3fnToF32 id 0xFF ≠ decodeE4m3fn id 0xFF := by
  have lost : f32ToE4m3fn ceiling (.finite false (3 / 4)) = 0xFE := by decide +kernel
  refine ⟨ceiling_assumed, ⟨3, -2, by norm_num, by norm_num, by norm_num, by norm_num⟩, lost, ?_,
    by decide +kernel⟩
  rw [lost]
  intro encodes
  have read := (Float32.finite.inj (encodes.decoded.symm.trans (host_level ceiling_assumed 0xFE))).1
  exact absurd read (by decide)

end Results

end Q38.Fp8Encoding
