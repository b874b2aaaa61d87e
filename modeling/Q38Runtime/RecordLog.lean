import Mathlib

/-! Append-only logs. A reader takes one record after another from the front of
the log and stops, without an error, at a record that was cut short. What a
crash leaves of a log is a prefix of it; the reader recovers exactly the
records that lie wholly inside that prefix. -/
namespace RecordLog

structure Reader (ε σ β : Type) where
  read : σ → List β → Except ε (Option (σ × List β))
  shrinks : ∀ {state input next rest}, read state input = .ok (some (next, rest)) →
    rest.length < input.length

variable {ε σ β : Type}

namespace Reader

/-- Take records until one is cut short. -/
def readAll (reader : Reader ε σ β) (state : σ) (input : List β) : Except ε σ :=
  match _taken : reader.read state input with
  | .error thrown => .error thrown
  | .ok none => .ok state
  | .ok (some (next, rest)) => reader.readAll next rest
termination_by input.length
decreasing_by exact reader.shrinks _taken

theorem read_all_stops {reader : Reader ε σ β} {state : σ} {input : List β}
    (stops : reader.read state input = .ok none) : reader.readAll state input = .ok state := by
  rw [readAll]
  split
  · next failed => simp [stops] at failed
  · rfl
  · next taken => simp [stops] at taken

theorem read_all_takes {reader : Reader ε σ β} {state next : σ} {input rest : List β}
    (takes : reader.read state input = .ok (some (next, rest))) :
    reader.readAll state input = reader.readAll next rest := by
  rw [readAll]
  split
  · next failed => simp [takes] at failed
  · next stopped => simp [takes] at stopped
  · next taken =>
      rw [takes] at taken
      cases taken
      rfl

/-- The reader takes `record` from `state` to `next` when it is whole and stops
before it when it is torn. -/
structure Takes (reader : Reader ε σ β) (state : σ) (record : List β) (next : σ) : Prop where
  whole : ∀ rest, reader.read state (record ++ rest) = .ok (some (next, rest))
  torn : ∀ part, part <+: record → part.length < record.length →
    reader.read state part = .ok none

/-- `records` is a log that takes the reader from one state to another. -/
inductive Reads (reader : Reader ε σ β) : σ → List (List β) → σ → Prop
  | nil (state : σ) : Reads reader state [] state
  | cons {state next final : σ} {record : List β} {records : List (List β)}
      (takes : reader.Takes state record next) (reads : Reads reader next records final) :
      Reads reader state (record :: records) final

theorem Reads.snoc {reader : Reader ε σ β} {state middle final : σ} {records : List (List β)}
    {record : List β} (reads : Reads reader state records middle)
    (takes : reader.Takes middle record final) :
    Reads reader state (records ++ [record]) final := by
  induction reads with
  | nil state => exact .cons takes (.nil final)
  | cons head _ ih => exact .cons head (ih takes)

/-- An intact log is read to its end. -/
theorem Reads.read_all {reader : Reader ε σ β} {state final : σ} {records : List (List β)}
    (reads : Reads reader state records final)
    (ended : reader.read final [] = .ok none) :
    reader.readAll state records.flatten = .ok final := by
  induction reads with
  | nil state => exact read_all_stops ended
  | cons takes _ ih =>
      rw [List.flatten_cons, read_all_takes (takes.whole _)]
      exact ih ended

/-- What is left of `records` when the log is cut after `length` bytes: the
longest run of them that lies wholly inside the cut. -/
def whole : Nat → List (List β) → List (List β)
  | _, [] => []
  | length, record :: records =>
      if record.length ≤ length then record :: whole (length - record.length) records else []

theorem whole_leads (length : Nat) (records : List (List β)) :
    whole length records <+: records := by
  induction records generalizing length with
  | nil => exact List.prefix_refl _
  | cons record records ih =>
      rw [whole]
      split
      · exact List.cons_prefix_cons.mpr ⟨rfl, ih _⟩
      · exact List.nil_prefix

theorem whole_fits (length : Nat) (records : List (List β)) :
    (whole length records).flatten.length ≤ length := by
  induction records generalizing length with
  | nil => simp [whole]
  | cons record records ih =>
      rw [whole]
      split
      · have := ih (length - record.length)
        simp only [List.flatten_cons, List.length_append]
        omega
      · simp

/-- No longer run of records fits. -/
theorem whole_longest {length : Nat} {records kept : List (List β)} (run : kept <+: records)
    (fits : kept.flatten.length ≤ length) : kept <+: whole length records := by
  induction records generalizing length kept with
  | nil => rw [List.prefix_nil.mp run]; exact List.nil_prefix
  | cons record records ih =>
      cases kept with
      | nil => exact List.nil_prefix
      | cons first kept =>
          obtain ⟨rfl, shorter⟩ := List.cons_prefix_cons.mp run
          simp only [List.flatten_cons, List.length_append] at fits
          rw [whole, if_pos (by omega)]
          exact List.cons_prefix_cons.mpr ⟨rfl, ih shorter (by omega)⟩

/-- Crash recovery: a log cut anywhere is read back as the records before the
cut. -/
theorem Reads.recovers {reader : Reader ε σ β} {state final : σ} {records : List (List β)}
    (reads : Reads reader state records final)
    (ended : ∀ state, reader.read state [] = .ok none) (length : Nat) :
    ∃ recovered, Reads reader state (whole length records) recovered ∧
      reader.readAll state (records.flatten.take length) = .ok recovered := by
  induction reads generalizing length with
  | nil state => exact ⟨state, .nil state, by simp [read_all_stops (ended state)]⟩
  | @cons state next final record records takes _ ih =>
      rw [whole, List.flatten_cons]
      by_cases inside : record.length ≤ length
      · obtain ⟨recovered, kept, read⟩ := ih (length - record.length)
        refine ⟨recovered, ?_, ?_⟩
        · rw [if_pos inside]
          exact .cons takes kept
        · rw [List.take_append, List.take_of_length_le inside, read_all_takes (takes.whole _)]
          exact read
      · refine ⟨state, ?_, ?_⟩
        · rw [if_neg inside]
          exact .nil state
        · rw [List.take_append_of_le_length (by omega)]
          exact read_all_stops (takes.torn _ (List.take_prefix _ _) (by simp; omega))

end Reader
end RecordLog
