import Mathlib.Data.List.Basic

/-! Byte streams that system calls move in pieces. A call may be interrupted, may move fewer
bytes than it was asked for, and may fail; a schedule says what each call meets, and calls
beyond it move all they are asked for. The loops that collect a whole record from such calls,
or hand one over, are stated here with what they do under every schedule. -/
namespace ByteStreams

/-- What one call meets; `moved` bounds the bytes behind the first one. -/
inductive Turn where
  | interrupted
  | moved (more : Nat)
  | failed
  deriving DecidableEq, Repr

/-- What is still to be read before the other end closes. -/
structure Incoming where
  bytes : List UInt8
  turns : List Turn := []
  deriving DecidableEq, Repr

/-- What has been handed to the other end. -/
structure Outgoing where
  sent : List UInt8 := []
  turns : List Turn := []
  deriving DecidableEq, Repr

inductive Gathered where
  | full (bytes : List UInt8)
  | ended (bytes : List UInt8)
  | failed
  deriving DecidableEq, Repr

def Gathered.behind (piece : List UInt8) : Gathered → Gathered
  | .full bytes => .full (piece ++ bytes)
  | .ended bytes => .ended (piece ++ bytes)
  | .failed => .failed

@[simp] theorem behind_nil (outcome : Gathered) : outcome.behind [] = outcome := by
  cases outcome <;> rfl

/-- Read until `wanted` bytes have come or a call brings none. -/
def gatherTurns (wanted : Nat) (bytes : List UInt8) : List Turn → Gathered × Incoming
  | [] =>
      if wanted ≤ bytes.length then (.full (bytes.take wanted), ⟨bytes.drop wanted, []⟩)
      else (.ended bytes, ⟨[], []⟩)
  | turn :: turns =>
      if wanted = 0 then (.full [], ⟨bytes, turn :: turns⟩)
      else match turn with
        | .interrupted => gatherTurns wanted bytes turns
        | .failed => (.failed, ⟨bytes, turns⟩)
        | .moved more =>
            let piece := bytes.take (min wanted (more + 1))
            if piece = [] then (.ended [], ⟨bytes, turns⟩)
            else
              let later := gatherTurns (wanted - piece.length) (bytes.drop piece.length) turns
              (later.1.behind piece, later.2)

def gather (wanted : Nat) (incoming : Incoming) : Gathered × Incoming :=
  gatherTurns wanted incoming.bytes incoming.turns

/-- Hand over `bytes`; what was handed over, and whether that was all. -/
def deliverTurns (bytes : List UInt8) : List Turn → Bool × Outgoing
  | [] => (true, ⟨bytes, []⟩)
  | turn :: turns =>
      if bytes = [] then (true, ⟨[], turn :: turns⟩)
      else match turn with
        | .interrupted => deliverTurns bytes turns
        | .failed => (false, ⟨[], turns⟩)
        | .moved more =>
            let later := deliverTurns (bytes.drop (more + 1)) turns
            (later.1, { later.2 with sent := bytes.take (more + 1) ++ later.2.sent })

def deliver (bytes : List UInt8) (outgoing : Outgoing) : Bool × Outgoing :=
  let handed := deliverTurns bytes outgoing.turns
  (handed.1, { handed.2 with sent := outgoing.sent ++ handed.2.sent })

/-- No call of the schedule fails. -/
def Lasting (turns : List Turn) : Prop := Turn.failed ∉ turns

theorem Lasting.suffix {turns later : List Turn} (lasting : Lasting turns)
    (behind : later <:+ turns) : Lasting later :=
  fun failed => lasting (behind.subset failed)

/-- What the schedule and the bytes were before, from what was gathered of them. -/
def Gathered.Of (turns : List Turn) (wanted : Nat) (bytes : List UInt8) (incoming : Incoming) :
    Gathered → Prop
  | .full got => got.length = wanted ∧ bytes = got ++ incoming.bytes
  | .ended got => got.length < wanted ∧ bytes = got
  | .failed => Turn.failed ∈ turns

theorem Gathered.Of.behind {turns later : List Turn} {wanted : Nat} {piece bytes : List UInt8}
    {incoming : Incoming} {outcome : Gathered} (fits : piece.length ≤ wanted)
    (among : later ⊆ turns) (rest : outcome.Of later (wanted - piece.length) bytes incoming) :
    (outcome.behind piece).Of turns wanted (piece ++ bytes) incoming := by
  cases outcome with
  | full got =>
      obtain ⟨sized, rfl⟩ := rest
      refine ⟨?_, by rw [List.append_assoc]⟩
      rw [List.length_append, sized]
      omega
  | ended got =>
      obtain ⟨short, rfl⟩ := rest
      refine ⟨?_, rfl⟩
      rw [List.length_append]
      omega
  | failed => exact among rest

theorem gather_turns (wanted : Nat) (bytes : List UInt8) (turns : List Turn) :
    (gatherTurns wanted bytes turns).1.Of turns wanted bytes (gatherTurns wanted bytes turns).2 ∧
      (gatherTurns wanted bytes turns).2.turns <:+ turns := by
  induction turns generalizing wanted bytes with
  | nil =>
      unfold gatherTurns
      split
      case isTrue fits =>
        exact ⟨⟨List.length_take_of_le fits, (List.take_append_drop wanted bytes).symm⟩,
          List.suffix_refl []⟩
      case isFalse short => exact ⟨⟨by omega, rfl⟩, List.suffix_refl []⟩
  | cons turn turns ih =>
      have among : turns ⊆ turn :: turns := List.subset_cons_self _ _
      have behind : turns <:+ turn :: turns := List.suffix_cons _ _
      by_cases nothing : wanted = 0
      · subst nothing
        simp only [gatherTurns, if_pos]
        exact ⟨⟨rfl, rfl⟩, List.suffix_refl _⟩
      · cases turn with
        | interrupted =>
            simp only [gatherTurns, if_neg nothing]
            have rest := @Gathered.Of.behind _ _ _ [] _ _ _ (Nat.zero_le _) among
              (ih wanted bytes).1
            exact ⟨by simpa using rest, (ih wanted bytes).2.trans behind⟩
        | failed =>
            simp only [gatherTurns, if_neg nothing]
            exact ⟨List.mem_cons_self, behind⟩
        | moved more =>
            simp only [gatherTurns, if_neg nothing]
            have fits : (bytes.take (min wanted (more + 1))).length ≤ wanted := by
              rw [List.length_take]
              omega
            have whole := List.prefix_iff_eq_append.mp
              (List.take_prefix (min wanted (more + 1)) bytes)
            split
            case isTrue empty =>
              have gone : bytes = [] := by
                rcases List.take_eq_nil_iff.mp empty with zero | gone
                · omega
                · exact gone
              exact ⟨⟨Nat.pos_of_ne_zero nothing, gone⟩, behind⟩
            case isFalse =>
              have rest := ih (wanted - (bytes.take (min wanted (more + 1))).length)
                (bytes.drop (bytes.take (min wanted (more + 1))).length)
              have all := rest.1.behind fits among
              rw [whole] at all
              exact ⟨all, rest.2.trans behind⟩

/-- Enough bytes are there and no call fails: the loop collects the record and nothing else. -/
theorem gather_whole {turns : List Turn} {record rest : List UInt8} (lasting : Lasting turns) :
    ∃ later, Lasting later ∧
      gather record.length ⟨record ++ rest, turns⟩ = (.full record, ⟨rest, later⟩) := by
  have moved := gather_turns record.length (record ++ rest) turns
  refine ⟨_, lasting.suffix moved.2, ?_⟩
  unfold gather
  revert moved
  generalize gatherTurns record.length (record ++ rest) turns = outcome
  rcases outcome with ⟨found, after, later⟩
  intro moved
  cases found with
  | full got =>
      obtain ⟨⟨sized, same⟩, -⟩ := moved
      obtain ⟨rfl, rfl⟩ := List.append_inj same sized.symm
      rfl
  | ended got =>
      obtain ⟨⟨short, rfl⟩, -⟩ := moved
      rw [List.length_append] at short
      omega
  | failed => exact absurd moved.1 lasting

theorem deliver_turns (bytes : List UInt8) (turns : List Turn) :
    (deliverTurns bytes turns).2.turns <:+ turns ∧
      if (deliverTurns bytes turns).1 then (deliverTurns bytes turns).2.sent = bytes
      else Turn.failed ∈ turns := by
  induction turns generalizing bytes with
  | nil => exact ⟨List.suffix_refl [], rfl⟩
  | cons turn turns ih =>
      have behind : turns <:+ turn :: turns := List.suffix_cons _ _
      by_cases nothing : bytes = []
      · subst nothing
        exact ⟨List.suffix_refl _, rfl⟩
      · cases turn with
        | interrupted =>
            simp only [deliverTurns, if_neg nothing]
            refine ⟨(ih bytes).1.trans behind, ?_⟩
            have rest := (ih bytes).2
            split at rest
            case isTrue all => rw [if_pos all, rest]
            case isFalse broken =>
              rw [if_neg broken]
              exact List.mem_cons_of_mem _ rest
        | failed =>
            simp only [deliverTurns, if_neg nothing]
            exact ⟨behind, by simp⟩
        | moved more =>
            simp only [deliverTurns, if_neg nothing]
            refine ⟨(ih _).1.trans behind, ?_⟩
            have rest := (ih (bytes.drop (more + 1))).2
            split at rest
            case isTrue all => rw [if_pos all, rest, List.take_append_drop]
            case isFalse broken =>
              rw [if_neg broken]
              exact List.mem_cons_of_mem _ rest

theorem deliver_ends (bytes : List UInt8) (outgoing : Outgoing) :
    (deliver bytes outgoing).2.turns <:+ outgoing.turns ∧
      if (deliver bytes outgoing).1 then (deliver bytes outgoing).2.sent = outgoing.sent ++ bytes
      else ¬ Lasting outgoing.turns := by
  have handed := deliver_turns bytes outgoing.turns
  refine ⟨handed.1, ?_⟩
  have rest := handed.2
  unfold deliver
  dsimp only
  split at rest
  case isTrue all => rw [if_pos all, rest]
  case isFalse broken =>
    rw [if_neg broken]
    exact fun lasting => lasting rest

end ByteStreams
