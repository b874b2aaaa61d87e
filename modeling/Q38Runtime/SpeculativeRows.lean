import Q38Runtime.Contracts

/-!
The rows of the stage workspaces that one speculative step touches. Every array
of `Workspace` that is indexed by row has as many rows as an append chunk has
tokens. Drafting checks its width against that number; verification needs one
row more than the width.
-/
namespace Q38.SpeculativeRows
open Contracts

def kMaximumMtpDraftWidth : Nat := 64

/-- The arrays of a workspace with `maximum_tokens` rows. -/
inductive Buffer where
  | tokens
  | predictions
  | hostPredictions
  | boundary
  | finalHc
  deriving DecidableEq

structure Access where
  stage : Stage
  buffer : Buffer
  row : Nat
  deriving DecidableEq

section Rows

/-- `run_mtp_draft`: the pending token, one prediction for each draft made from
the one before, and the copy to the host. -/
def runMtpDraft (maximumTokens maxDraft : Nat) : Except Thrown (List Access) :=
  if maxDraft = 0 ∨ maxDraft > kMaximumMtpDraftWidth ∨ maxDraft > maximumTokens then
    .error (.runtimeError "MTP draft frontier is not ready")
  else
    .ok (⟨.stage1, .tokens, 0⟩ ::
      ((List.range maxDraft).flatMap fun index =>
        [if index = 0 then ⟨.stage1, .tokens, 0⟩ else ⟨.stage1, .predictions, index - 1⟩,
          ⟨.stage1, .predictions, index⟩]) ++
      ((List.range maxDraft).flatMap fun index =>
        [⟨.stage1, .predictions, index⟩, ⟨.stage1, .hostPredictions, index⟩]))

/-- `execute` of one speculative row on stage 0: the token, and the boundary
row that goes into the ring. -/
def executeStage0 (chunkOffset : Nat) : List Access :=
  [⟨.stage0, .tokens, chunkOffset⟩, ⟨.stage0, .boundary, 0⟩]

/-- The predictions that the last row compares with the tokens, and the count it
accepts: `accepted` rows have agreed, `left` are still to be compared. -/
def compareRows (agrees : Nat → Bool) : Nat → Nat → List Access × Nat
  | 0, accepted => ([⟨.stage1, .hostPredictions, accepted - 1⟩], accepted)
  | left + 1, accepted =>
      if agrees (accepted - 1) then
        let later := compareRows agrees left (accepted + 1)
        (⟨.stage1, .hostPredictions, accepted - 1⟩ :: later.1, later.2)
      else ([⟨.stage1, .hostPredictions, accepted - 1⟩], accepted)

/-- What a row of stage 1 writes and reads before it compares. -/
def executeStage1 (chunkOffset : Nat) : List Access :=
  [⟨.stage1, .boundary, chunkOffset⟩, ⟨.stage1, .tokens, chunkOffset⟩,
    ⟨.stage1, .finalHc, chunkOffset⟩, ⟨.stage1, .predictions, chunkOffset⟩,
    ⟨.stage1, .hostPredictions, chunkOffset⟩]

def reconcileRetainedDraft (targetRow : Nat) : List Access :=
  [⟨.stage1, .finalHc, targetRow⟩, ⟨.stage1, .predictions, targetRow⟩]

def prepareMtpCommit (accepted : Nat) : List Access := [⟨.stage1, .finalHc, accepted - 1⟩]

/-- From `row` on, with `left` drafts behind it: stage 0 runs one row ahead of
stage 1, and the first draft that is not accepted ends the transaction. -/
def verifyRows (accepts : Nat → Bool) : Nat → Nat → List Access
  | 0, row =>
      let compared := compareRows accepts row 1
      executeStage1 row ++ compared.1 ++ prepareMtpCommit compared.2
  | left + 1, row =>
      executeStage1 row ++ executeStage0 (row + 1) ++
        if accepts row then reconcileRetainedDraft row ++ verifyRows accepts left (row + 1)
        else prepareMtpCommit (row + 1)

/-- The width that `speculative_step` asks for. -/
def cappedDraft (contextLimit canonical maxDraft : Nat) : Nat :=
  min maxDraft (contextLimit - canonical - 1)

/-- A speculative step of that width on workspaces of `maximumTokens` rows.
`accepts row` says whether the draft behind a row is accepted. -/
def speculativeStep (maximumTokens width : Nat) (accepts : Nat → Bool) :
    Except Thrown (List Access) := do
  let drafted ← runMtpDraft maximumTokens width
  .ok (drafted ++ executeStage0 0 ++ verifyRows accepts width 0)

end Rows

section Bounds

theorem draft_rows {maximumTokens maxDraft : Nat} {accesses : List Access}
    (drafted : runMtpDraft maximumTokens maxDraft = .ok accesses) :
    ∀ access ∈ accesses, access.row < maxDraft := by
  unfold runMtpDraft at drafted
  split at drafted
  · cases drafted
  · next accepted =>
      cases drafted
      intro access listed
      simp only [List.cons_append, List.mem_cons, List.mem_append, List.mem_flatMap,
        List.mem_range, List.not_mem_nil, or_false] at listed
      rcases listed with rfl | ⟨index, inside, place⟩ | ⟨index, inside, place⟩
      · dsimp only
        omega
      · rcases place with rfl | rfl
        · split
          · dsimp only
            omega
          · dsimp only
            omega
        · exact inside
      · rcases place with rfl | rfl
        · exact inside
        · exact inside

theorem compare_rows (agrees : Nat → Bool) (left accepted : Nat) (some : 0 < accepted) :
    (∀ access ∈ (compareRows agrees left accepted).1, access.row < accepted + left) ∧
      (compareRows agrees left accepted).2 ≤ accepted + left ∧
      0 < (compareRows agrees left accepted).2 := by
  induction left generalizing accepted with
  | zero =>
      refine ⟨?_, Nat.le_refl _, some⟩
      intro access listed
      cases List.mem_singleton.mp listed
      dsimp only
      omega
  | succ left ih =>
      rw [compareRows]
      split
      · obtain ⟨rows, count, positive⟩ := ih (accepted + 1) (Nat.succ_pos _)
        refine ⟨?_, by dsimp only; omega, positive⟩
        intro access listed
        rcases List.mem_cons.mp listed with rfl | later
        · dsimp only
          omega
        · have bound := rows access later
          omega
      · refine ⟨?_, by dsimp only; omega, some⟩
        intro access listed
        cases List.mem_singleton.mp listed
        dsimp only
        omega

/-- Verification stays at or below the row of its last draft. -/
theorem verify_rows (accepts : Nat → Bool) (left row : Nat) :
    ∀ access ∈ verifyRows accepts left row, access.row ≤ row + left := by
  induction left generalizing row with
  | zero =>
      obtain ⟨rows, count, positive⟩ := compare_rows accepts row 1 Nat.zero_lt_one
      intro access listed
      simp only [verifyRows, executeStage1, prepareMtpCommit, List.mem_append, List.mem_cons,
        List.not_mem_nil, or_false] at listed
      rcases listed with (here | compared) | rfl
      · rcases here with rfl | rfl | rfl | rfl | rfl <;> exact Nat.le_refl _
      · have bound := rows access compared
        omega
      · dsimp only
        omega
  | succ left ih =>
      intro access listed
      simp only [verifyRows, List.mem_append] at listed
      rcases listed with (here | ahead) | later
      · simp only [executeStage1, List.mem_cons, List.not_mem_nil, or_false] at here
        rcases here with rfl | rfl | rfl | rfl | rfl <;> exact Nat.le_add_right _ _
      · simp only [executeStage0, List.mem_cons, List.not_mem_nil, or_false] at ahead
        rcases ahead with rfl | rfl
        · dsimp only
          omega
        · exact Nat.zero_le _
      · split at later
        · rcases List.mem_append.mp later with reconciled | rest
          · simp only [reconcileRetainedDraft, List.mem_cons, List.not_mem_nil, or_false]
              at reconciled
            rcases reconciled with rfl | rfl <;> exact Nat.le_add_right _ _
          · have bound := ih (row + 1) access rest
            omega
        · simp only [prepareMtpCommit, List.mem_cons, List.not_mem_nil, or_false] at later
          subst later
          dsimp only
          omega

/-- When every draft is accepted, stage 0 reads the token of the last row. -/
theorem last_row_touched (left row : Nat) :
    ⟨.stage1, .tokens, row + left⟩ ∈ verifyRows (fun _ => true) left row := by
  induction left generalizing row with
  | zero => simp [verifyRows, executeStage1]
  | succ left ih =>
      have later := ih (row + 1)
      have place : row + 1 + left = row + (left + 1) := by omega
      rw [place] at later
      simp only [verifyRows, if_true, List.mem_append]
      exact Or.inr (Or.inr later)

/-- A step is safe on its workspaces, whatever is accepted, exactly when they
have a row for the pending token besides those for the drafts. -/
theorem speculative_rows_fit {maximumTokens contextLimit canonical maxDraft : Nat}
    (accepted : maxDraft ≤ kMaximumMtpDraftWidth)
    (width : 1 ≤ cappedDraft contextLimit canonical maxDraft) :
    (∀ accepts, ∃ accesses,
      speculativeStep maximumTokens (cappedDraft contextLimit canonical maxDraft) accepts =
          .ok accesses ∧ ∀ access ∈ accesses, access.row < maximumTokens) ↔
      cappedDraft contextLimit canonical maxDraft < maximumTokens := by
  have limit : cappedDraft contextLimit canonical maxDraft ≤ kMaximumMtpDraftWidth :=
    Nat.le_trans (Nat.min_le_left _ _) accepted
  generalize cappedDraft contextLimit canonical maxDraft = drafts at *
  constructor
  · intro safe
    obtain ⟨accesses, ran, inside⟩ := safe fun _ => true
    unfold speculativeStep at ran
    cases drafted : runMtpDraft maximumTokens drafts with
    | error thrown =>
        rw [drafted] at ran
        cases ran
    | ok rows =>
        rw [drafted] at ran
        cases ran
        have last := last_row_touched drafts 0
        rw [Nat.zero_add] at last
        exact inside _ (List.mem_append_right _ last)
  · intro fits accepts
    have drafted : ∃ rows, runMtpDraft maximumTokens drafts = .ok rows := by
      unfold runMtpDraft
      rw [if_neg (by omega)]
      exact ⟨_, rfl⟩
    obtain ⟨rows, ran⟩ := drafted
    refine ⟨rows ++ executeStage0 0 ++ verifyRows accepts drafts 0, ?_, ?_⟩
    · unfold speculativeStep
      rw [ran]
      rfl
    · intro access listed
      simp only [List.mem_append] at listed
      rcases listed with (drafted | first) | verified
      · exact Nat.lt_trans (draft_rows ran access drafted) fits
      · simp only [executeStage0, List.mem_cons, List.not_mem_nil, or_false] at first
        rcases first with rfl | rfl <;> exact Nat.lt_of_le_of_lt (Nat.zero_le _) fits
      · have bound := verify_rows accepts drafts 0 access verified
        omega

theorem speculative_rows_fit_five :
    ∃ accesses, speculativeStep 5 (cappedDraft 100 10 4) (fun _ => true) = .ok accesses ∧
      ∀ access ∈ accesses, access.row < 5 :=
  (speculative_rows_fit (by decide) (by decide)).mpr (by decide) fun _ => true

/-- Four drafts on workspaces of four rows: the draft is made, and when all of it
is accepted the fifth row is touched. -/
theorem speculative_rows_overflow :
    ¬ ∃ accesses, speculativeStep 4 (cappedDraft 100 10 4) (fun _ => true) = .ok accesses ∧
      ∀ access ∈ accesses, access.row < 4 := by
  rintro ⟨accesses, ran, inside⟩
  cases ran
  have touched := inside ⟨.stage0, .tokens, 4⟩ (by decide)
  exact absurd touched (by decide)

end Bounds

end Q38.SpeculativeRows
