import Mathlib.Algebra.Order.Floor.Ring
import Mathlib.Data.Rat.Floor
import Mathlib.Algebra.Order.Field.Power
import Mathlib.Tactic.Linarith
import Mathlib.Tactic.Positivity
import Mathlib.Tactic.NormNum

/-!
Rounding to the nearest integer, a tie to the even one, and the numbers a binary format has:
an integer of some bits times a power of two.
-/
namespace Q38.EvenRounding

section Integers
variable {α : Type} [Field α] [LinearOrder α] [IsStrictOrderedRing α] [FloorRing α]
variable {value : α} {place other : ℤ}

def rint (value : α) : ℤ :=
  let below := ⌊value⌋
  if value - below < 1 / 2 then below
  else if 1 / 2 < value - below then below + 1
  else if below % 2 = 0 then below
  else below + 1

omit [IsStrictOrderedRing α] in
theorem rint_cases (value : α) :
    (rint value = ⌊value⌋ ∧ value - ⌊value⌋ < 1 / 2) ∨
    (rint value = ⌊value⌋ + 1 ∧ 1 / 2 < value - ⌊value⌋) ∨
    (value - ⌊value⌋ = 1 / 2 ∧ Even (rint value) ∧
      (rint value = ⌊value⌋ ∨ rint value = ⌊value⌋ + 1)) := by
  unfold rint
  dsimp only
  split
  · rename_i less
    exact .inl ⟨rfl, less⟩
  · rename_i least
    split
    · rename_i more
      exact .inr (.inl ⟨rfl, more⟩)
    · rename_i most
      have half : value - ⌊value⌋ = 1 / 2 := le_antisymm (not_lt.mp most) (not_lt.mp least)
      split
      · rename_i even
        exact .inr (.inr ⟨half, Int.even_iff.mpr even, .inl rfl⟩)
      · rename_i odd
        exact .inr (.inr ⟨half, Int.even_iff.mpr (by omega), .inr rfl⟩)

theorem rint_near (value : α) : |value - rint value| ≤ 1 / 2 := by
  have least := Int.floor_le value
  have most := Int.lt_floor_add_one value
  rcases rint_cases value with ⟨here, half⟩ | ⟨here, half⟩ | ⟨half, _, here | here⟩ <;>
    rw [here, abs_le] <;> push_cast <;> constructor <;> linarith

/-- Where the nearest integer is half a unit away, it is even. -/
theorem rint_tie (tie : |value - rint value| = 1 / 2) : Even (rint value) := by
  have least := Int.floor_le value
  have most := Int.lt_floor_add_one value
  rcases rint_cases value with ⟨here, half⟩ | ⟨here, half⟩ | ⟨_, even, _⟩
  · rw [here, abs_of_nonneg (by linarith)] at tie
    linarith
  · rw [here, abs_of_nonpos (by push_cast; linarith)] at tie
    push_cast at tie
    linarith
  · exact even

theorem rint_unique (near : |value - place| < 1 / 2) : rint value = place := by
  have here := abs_le.mp (rint_near value)
  have there := abs_lt.mp near
  have above : (rint value : α) < place + 1 := by linarith
  have below : (place : α) < rint value + 1 := by linarith
  have above_ : rint value < place + 1 := by exact_mod_cast above
  have below_ : place < rint value + 1 := by exact_mod_cast below
  omega

/-- Of two integers half a unit away, the even one is taken. -/
theorem rint_even (near : |value - place| = 1 / 2) (even : Even place) : rint value = place := by
  have here := abs_le.mp (rint_near value)
  have there := abs_le.mp near.le
  have above : (rint value : α) ≤ place + 1 := by linarith
  have below : (place : α) ≤ rint value + 1 := by linarith
  have above_ : rint value ≤ place + 1 := by exact_mod_cast above
  have below_ : place ≤ rint value + 1 := by exact_mod_cast below
  by_contra differ
  have beside : rint value = place + 1 ∨ rint value = place - 1 := by omega
  have tie : |value - rint value| = 1 / 2 := by
    rcases beside with beside | beside <;> rw [beside] at here ⊢ <;> push_cast at here ⊢
    · have exact_ : value - place = 1 / 2 := by linarith
      rw [abs_of_nonpos (by linarith)]
      linarith
    · have exact_ : value - place = -(1 / 2) := by linarith
      rw [abs_of_nonneg (by linarith)]
      linarith
  have even_ := rint_tie tie
  rw [Int.even_iff] at even even_
  omega

theorem rint_nearest (value : α) (other : ℤ) : |value - rint value| ≤ |value - other| := by
  rcases lt_or_ge |value - other| (1 / 2) with near | far
  · rw [rint_unique near]
  · exact (rint_near value).trans far

/-- An integer that is as near as the nearest one makes a tie. -/
theorem rint_tied (differ : other ≠ rint value)
    (tie : |value - other| = |value - rint value|) : Even (rint value) := by
  rcases lt_or_ge |value - other| (1 / 2) with near | far
  · exact absurd (rint_unique near).symm differ
  · exact rint_tie (le_antisymm (rint_near value) (tie ▸ far))

theorem rint_add_even (value : α) (even : Even place) :
    rint (value + place) = rint value + place := by
  have shifted : value + place - ((rint value + place : ℤ) : α) = value - rint value := by
    push_cast
    ring
  rcases (rint_near value).lt_or_eq with near | tie
  · exact rint_unique (shifted ▸ near)
  · exact rint_even (shifted ▸ tie) ((rint_tie tie).add even)

theorem rint_int (place : ℤ) : rint (place : α) = place :=
  rint_unique (by simp)

theorem rint_le (least : value ≤ place) : rint value ≤ place := by
  rcases lt_or_ge (rint value) (place + 1) with less | more
  · omega
  · have here := abs_le.mp (rint_near value)
    have more_ : ((place + 1 : ℤ) : α) ≤ rint value := by exact_mod_cast more
    push_cast at more_
    linarith

theorem le_rint (most : (place : α) ≤ value) : place ≤ rint value := by
  rcases lt_or_ge (rint value) place with less | more
  · have here := abs_le.mp (rint_near value)
    have less_ : ((rint value + 1 : ℤ) : α) ≤ place := by exact_mod_cast less
    push_cast at less_
    linarith
  · exact more

end Integers

section Formats

/-- An integer of some bits times a power of two of the range. -/
def Dyadic (bits : ℕ) (low high : ℤ) (value : ℚ) : Prop :=
  ∃ significand exponent : ℤ, |significand| < 2 ^ bits ∧ low ≤ exponent ∧ exponent ≤ high ∧
    value = significand * 2 ^ exponent

variable {bits : ℕ} {low high : ℤ} {value : ℚ}

theorem two_zpow (first second : ℤ) : (2 : ℚ) ^ (first + second) = 2 ^ first * 2 ^ second :=
  zpow_add₀ two_ne_zero first second

theorem zpow_less {first second : ℤ} (less : (2 : ℚ) ^ first < 2 ^ second) : first < second :=
  (zpow_lt_zpow_iff_right₀ one_lt_two).mp less

end Formats

end Q38.EvenRounding
