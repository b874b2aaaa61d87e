import Q38Runtime.FallibleRuns
import Q38Runtime.TensorIndex
import Q38Runtime.TensorLedger

/-!
What one language writes, the other reads. Fields that are joined by a character none of
them has are split into the same fields, and a number below `2 ^ 64` is read back.
-/
namespace Q38.TextFields
open Contracts PleLayout TensorLedger TensorIndex

section Splitting
variable {separator : Char}

theorem split_at_separator {field : List Char} (plain : separator ∉ field)
    (rest met : List Char) :
    split separator (field ++ separator :: rest) met =
      (met.reverse ++ field) :: split separator rest [] := by
  induction field generalizing met with
  | nil => simp [split]
  | cons next field ih =>
      rw [List.mem_cons, not_or] at plain
      rw [List.cons_append, split, if_neg (Ne.symm plain.1), ih plain.2]
      simp

theorem split_last {field : List Char} (plain : separator ∉ field) (met : List Char)
    (some_ : met.reverse ++ field ≠ []) :
    split separator field met = [met.reverse ++ field] := by
  induction field generalizing met with
  | nil =>
      cases met with
      | nil => exact absurd rfl some_
      | cons last met => simp [split]
  | cons next field ih =>
      rw [List.mem_cons, not_or] at plain
      rw [split, if_neg (Ne.symm plain.1), ih plain.2 _ (by simp)]
      simp

theorem joined_cons (field next : List Char) (rest : List (List Char)) :
    joined [separator] (field :: next :: rest) =
      field ++ separator :: joined [separator] (next :: rest) := by
  simp [joined, List.intercalate_cons_cons]

/-- A last field that is empty would be lost. -/
theorem split_joined {fields : List (List Char)} (plain : ∀ field ∈ fields, separator ∉ field)
    (last : ∀ field ∈ fields.getLast?, field ≠ []) :
    split separator (joined [separator] fields) [] = fields := by
  induction fields with
  | nil => rfl
  | cons field rest ih =>
      have first : separator ∉ field := plain field List.mem_cons_self
      cases rest with
      | nil =>
          have some_ : field ≠ [] := last field (by simp)
          have alone : joined [separator] [field] = field := by simp [joined]
          rw [alone, split_last first [] some_]
          rfl
      | cons next rest =>
          rw [joined_cons, split_at_separator first]
          rw [ih (fun other member => plain other (List.mem_cons_of_mem field member))
            (fun other member => last other (by simpa using member))]
          rfl

theorem split_lines {fields : List (List Char)} (plain : ∀ field ∈ fields, separator ∉ field)
    (some_ : fields ≠ []) :
    split separator (joined [separator] fields ++ [separator]) [] = fields := by
  induction fields with
  | nil => exact absurd rfl some_
  | cons field rest ih =>
      have first : separator ∉ field := plain field List.mem_cons_self
      cases rest with
      | nil =>
          have alone : joined [separator] [field] = field := by simp [joined]
          rw [alone, split_at_separator first]
          rfl
      | cons next rest =>
          rw [joined_cons, List.append_assoc, List.cons_append, split_at_separator first]
          rw [ih (fun other member => plain other (List.mem_cons_of_mem field member))
            (List.cons_ne_nil next rest)]
          rfl

theorem joined_plain {other : Char} {fields : List (List Char)} (apart : other ≠ separator)
    (plain : ∀ field ∈ fields, other ∉ field) : other ∉ joined [separator] fields := by
  induction fields with
  | nil => simp [joined]
  | cons field rest ih =>
      have first : other ∉ field := plain field List.mem_cons_self
      have later := ih fun field_ member => plain field_ (List.mem_cons_of_mem field member)
      cases rest with
      | nil => simpa [joined] using first
      | cons next rest =>
          rw [joined_cons, List.mem_append, List.mem_cons]
          rintro (here | here | here)
          · exact first here
          · exact apart here
          · exact later here

end Splitting

section Numbers

theorem decimal_digit {value : Nat} {letter : Char} (member : letter ∈ decimalText value) :
    letter.isDigit = true :=
  Nat.isDigit_of_mem_toDigits (by decide) (by decide) member

theorem decimal_plain {value : Nat} {letter : Char} (mark : letter.isDigit = false) :
    letter ∉ decimalText value := by
  intro member
  rw [decimal_digit member] at mark
  cases mark

theorem decimal_some (value : Nat) : decimalText value ≠ [] := Nat.toDigits_ne_nil

theorem decimal_worth (value : Nat) :
    (decimalText value).foldl (fun parsed digit => 10 * parsed + (digit.toNat - 48)) 0 = value :=
  Nat.ofDigitChars_ten_toDigits

theorem decimal_injective : Function.Injective decimalText := by
  intro first second same
  rw [← decimal_worth first, same, decimal_worth second]

theorem digit_not_space {letter : Char} (digit : letter.isDigit = true) :
    isSpace letter = false := by
  have low : 48 ≤ letter.val.toNat := by
    simp only [Char.isDigit, Bool.and_eq_true, decide_eq_true_eq] at digit
    exact digit.1
  have apart (other : Char) (small : other.val.toNat < 48) : letter ≠ other := by
    rintro rfl
    omega
  simp only [isSpace, Char.isWhitespace, Bool.or_eq_false_iff, decide_eq_false_iff_not]
  refine ⟨⟨⟨⟨⟨?_, ?_⟩, ?_⟩, ?_⟩, ?_⟩, ?_⟩ <;> exact apart _ (by decide)

/-- A numeral has no space or sign before its digits, and nothing after them. -/
theorem stoull_decimal (value : Nat) :
    stoull (decimalText value) = if value < 2 ^ 64 then some (value, []) else none := by
  have whole : (decimalText value).takeWhile Char.isDigit = decimalText value :=
    List.takeWhile_eq_self_iff.mpr fun letter member => decimal_digit member
  have worth := decimal_worth value
  have unspaced : (decimalText value).dropWhile isSpace = decimalText value := by
    obtain ⟨first, rest, shape⟩ := List.exists_cons_of_ne_nil (decimal_some value)
    have member : first ∈ decimalText value := shape ▸ List.mem_cons_self
    rw [shape, List.dropWhile_cons, digit_not_space (decimal_digit member)]
    rfl
  have unsigned (sign : Char) (mark : sign.isDigit = false) :
      (decimalText value).head? ≠ some sign := fun head =>
    decimal_plain mark (List.mem_of_mem_head? head)
  have positive := unsigned '+' (by decide)
  have negative := unsigned '-' (by decide)
  simp only [stoull, unspaced, negative, positive, or_self, if_false, whole, worth,
    decimal_some, false_or, List.drop_length]
  by_cases small : value < 2 ^ 64
  · rw [if_neg (Nat.not_le.mpr small), if_pos small]
  · rw [if_pos (Nat.not_lt.mp small), if_neg small]

theorem parse_decimal_iff {field : String} {value : Nat} {parsed : UInt64} :
    TensorIndex.parseU64 field (decimalText value) = .ok parsed ↔
      value < 2 ^ 64 ∧ parsed = UInt64.ofNat value := by
  unfold TensorIndex.parseU64
  rw [stoull_decimal]
  by_cases small : value < 2 ^ 64
  · rw [if_pos small]
    constructor
    · intro read
      cases read
      exact ⟨small, rfl⟩
    · rintro ⟨_, rfl⟩
      rfl
  · rw [if_neg small]
    constructor
    · intro read
      cases read
    · intro fits
      exact absurd fits.1 small

theorem parse_word (field : String) (word : UInt64) :
    TensorIndex.parseU64 field (decimalText word.toNat) = .ok word :=
  parse_decimal_iff.mpr ⟨word.toNat_lt, (UInt64.ofNat_toNat).symm⟩

theorem parse_words (field : String) (words : List UInt64) :
    (words.map fun word => decimalText word.toNat).mapM (TensorIndex.parseU64 field) =
      .ok words := by
  induction words with
  | nil => rfl
  | cons word rest ih =>
      rw [List.map_cons, List.mapM_cons, parse_word, ih]
      rfl

end Numbers

end Q38.TextFields
