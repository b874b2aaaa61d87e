import Q38Runtime.Commitment
import Q38Runtime.FaultyStages
import Q38Runtime.MockBackend

/-!
The mock stages keep what the executor asks of its stages, with a model that
leaves nothing open: the token behind an evaluated history is a hash of its last
token and its length, a speculation is accepted up to the first row that differs
from the prediction before it, and the digests are folds over the rows.
-/
namespace Q38.MockContract
open Contracts Cancellation Backend Executor SessionModel StageContracts Commitment MockBackend
  FaultyStages Imperative

section Model
variable (mock : MockStage)

/-- The token behind an evaluated history. -/
def predicted (history : List Token) : Token :=
  predict mock (history.getLastD 0) history.length

/-- The frame stage 0 makes of a chunk passes the checks of the coordinator. -/
def frameFits (mock : MockStage) (hiddenWidth : UInt32) (count : Nat) : Prop :=
  mock.hiddenWidth = hiddenWidth ∧ validateBoundary {
    tokenCount := count
    hiddenDtype := .bfloat16
    producerStatus := .ready
    hiddenWidth := mock.hiddenWidth.toNat
    payloadBytes := mock.hiddenWidth.toNat * count * 2 % 2 ^ 64 } count = none

/-- What a front and a back mock compute together. -/
def mockModel (front back : MockStage) (options : ExecutorOptions) : StageModel where
  fits := frameFits front options.hiddenWidth
  predicts history token := token = predicted back history
  logits history words := words = logitsFor back (predicted back history)
  accepts history rows count := count = 1 + matching back history.length 1 rows
  drafts pending position width tokens :=
    tokens = proposals back position width (spoiledRow position width) width 0 pending

theorem matching_le (base index : Nat) (rows : List Token) (some_ : rows ≠ []) :
    1 + matching mock base index rows ≤ rows.length := by
  induction rows generalizing index with
  | nil => exact (some_ rfl).elim
  | cons previous rest ih =>
      cases rest with
      | nil => exact le_rfl
      | cons token rest =>
          have next := ih (index + 1) (List.cons_ne_nil token rest)
          rw [matching]
          split
          · rw [List.length_cons]
            omega
          · simp

/-- Rows that are all predicted are all accepted. -/
theorem matching_full (base index : Nat) (rows : List Token) (some_ : rows ≠ [])
    (follow : ∀ row, row + 1 < rows.length →
      rows.getD (row + 1) 0 = predict mock (rows.getD row 0) (base + index + row)) :
    1 + matching mock base index rows = rows.length := by
  induction rows generalizing index with
  | nil => exact (some_ rfl).elim
  | cons previous rest ih =>
      cases rest with
      | nil => rfl
      | cons token rest =>
          have first : token = predict mock previous (base + index) :=
            follow 0 (by simp)
          rw [matching, if_pos first, List.length_cons, ← ih (index + 1) (List.cons_ne_nil token rest)]
          · omega
          · intro row inside
            have behind := follow (row + 1) (by simpa using inside)
            rw [show base + (index + 1) + row = base + index + (row + 1) by omega]
            exact behind

/-- The last of some evaluated rows is the last of the whole history. -/
theorem last_of_rows (history rows : List Token) {count : Nat} (positive : 0 < count)
    (within : count ≤ rows.length) :
    (history ++ rows.take count).getLastD 0 = rows.getD (count - 1) 0 := by
  have inside : count - 1 < rows.length := by omega
  have some_ : rows.take count ≠ [] := by
    intro empty
    have length := congrArg List.length empty
    rw [List.length_take, List.length_nil] at length
    omega
  rw [List.getLastD_eq_getLast?, List.getLast?_append_of_ne_nil _ some_,
    List.getLast?_eq_getElem?, List.length_take, min_eq_left within,
    List.getElem?_take_of_lt (by omega), List.getD_eq_getElem?_getD]

theorem mock_exact (front back : MockStage) (options : ExecutorOptions) :
    (mockModel front back options).Exact := by
  intro history rows count accepted some_ follow
  change count = 1 + matching back history.length 1 rows at accepted
  rw [accepted]
  apply matching_full back history.length 1 rows some_
  intro row inside
  have token : rows.getD (row + 1) 0 = predicted back (history ++ rows.take (row + 1)) :=
    follow (row + 1) (Nat.succ_pos row) inside
  rw [token, predicted, last_of_rows history rows (Nat.succ_pos row) inside.le, List.length_append,
    List.length_take, min_eq_left inside.le]
  congr 1
  omega

theorem mock_deterministic (front back : MockStage) (options : ExecutorOptions) :
    (mockModel front back options).Deterministic where
  predicts one two := one.trans two.symm
  logits one two := one.trans two.symm
  accepts one two := one.trans two.symm
  drafts one two := one.trans two.symm
  exact := mock_exact front back options

end Model

section States
variable (mock : MockStage)

/-- The digest behind some rows of a transaction. -/
def digestAfter (txn : SessionTxnV1) (rows : List Token) : UInt64 :=
  digestTokens rows (UInt64.ofNat txn.epoch ^^^ mock.stage.code.toUInt64)

/-- The provisional members behind some rows of a transaction. -/
structure Provisional (txn : SessionTxnV1) (rows : List Token) (mark : Nat) (state : MockState) :
    Prop where
  epoch : state.provisionalEpoch = txn.epoch
  base : state.provisionalBase = txn.baseTarget
  expected : state.provisionalExpected = txn.evaluatedCount
  processed : state.provisionalProcessed = rows.length
  kind : state.provisionalKind = txn.kind
  digest : state.provisionalDigest = digestAfter mock txn rows
  tokens : state.provisionalTokens = rows
  checkpoint : state.speculativeCheckpoint = mark

/-- A mock between two transactions. -/
structure Idle (history : List Token) (epoch : Nat) (state : MockState) : Prop where
  frontier : state.committedFrontier = history.length
  epoch : state.committedEpoch = epoch
  closed : state.provisionalEpoch = 0
  checkpoint : state.speculativeCheckpoint = 0

/-- A mock within a transaction. The first chunk opens the provisional members. -/
structure Ready (history : List Token) (txn : SessionTxnV1) (rows : List Token) (mark : Nat)
    (state : MockState) : Prop where
  magic : txn.magic = kTxnMagic
  version : txn.version = kContractVersion
  status : txn.status = .prepared
  base : txn.baseTarget = history.length
  frontier : state.committedFrontier = history.length
  later : state.committedEpoch < txn.epoch
  progress : (rows = [] ∧ mark = 0 ∧ state.provisionalEpoch = 0 ∧
    state.speculativeCheckpoint = 0) ∨ Provisional mock txn rows mark state

variable {mock} {history rows : List Token} {txn : SessionTxnV1} {mark : Nat} {state : MockState}
variable {input : StageInput}

theorem idle_opens {epoch : Nat} (idle : Idle history epoch state)
    (begins : Opens history epoch txn) : Ready mock history txn [] 0 state :=
  ⟨begins.magic, begins.version, begins.status, begins.base, idle.frontier,
    idle.epoch ▸ begins.later, Or.inl ⟨rfl, rfl, idle.closed, idle.checkpoint⟩⟩

theorem check_ends (polls : Option Polls) (index : Nat) :
    Ends (check polls index) (fun _ after => after = state)
      (fun _ after => after = state ∧ ¬ StageContracts.Quiet polls) state := by
  cases polls with
  | none => exact rfl
  | some reads =>
      unfold check
      rw [ends_settle]
      refine ⟨fun _ _ => rfl, fun thrown stopped => ⟨rfl, fun quiet => ?_⟩⟩
      rw [quiet reads rfl index] at stopped
      cases stopped

theorem rollback_ends (ready : Ready mock history txn rows mark state) :
    Ends (rollback txn.epoch) (fun _ after => Idle history txn.epoch after) (fun _ _ => False)
      state := by
  have later := ready.later
  unfold rollback
  rw [ends_bind, ends_read, ends_ite]
  constructor
  · intro closed
    rw [ends_bind, ends_ensure, ends_write]
    refine ⟨fun _ => ⟨ready.frontier, rfl, closed, ?_⟩, fun stale => stale (by simp [later])⟩
    rcases ready.progress with ⟨-, -, -, checkpoint⟩ | provisional
    · exact checkpoint
    · have epoch := provisional.epoch
      simp only [id_eq] at closed
      omega
  · intro open_
    rw [ends_bind, ends_ensure, ends_write]
    refine ⟨fun _ => ⟨ready.frontier, rfl, rfl, rfl⟩, fun other => ?_⟩
    rcases ready.progress with ⟨-, -, closed, -⟩ | provisional
    · exact open_ closed
    · exact other provisional.epoch.symm

theorem ready_restores (calm : Prop) (ready : Ready mock history txn rows mark state) :
    Restores (mockBackend mock) calm Idle history txn.epoch state :=
  (rollback_ends ready).weaken (fun _ _ idle => idle) fun _ _ impossible => impossible.elim

theorem advance_provisional (provisional : Provisional mock txn rows mark state)
    (tokenIds : List Token) :
    Provisional mock txn (rows ++ tokenIds) mark (advance tokenIds state) where
  epoch := provisional.epoch
  base := provisional.base
  expected := provisional.expected
  processed := by rw [List.length_append, ← provisional.processed]; rfl
  kind := provisional.kind
  digest := by
    change digestTokens tokenIds state.provisionalDigest = _
    rw [provisional.digest, digestAfter, digestAfter, digestTokens, digestTokens, digestTokens,
      List.foldl_append]
  tokens := by rw [← provisional.tokens]; rfl
  checkpoint := provisional.checkpoint

/-- The next chunk is taken, unless a request is seen before. -/
theorem expect_ends (ready : Ready mock history txn rows mark state)
    (extended : Extends txn rows input) :
    Ends (expect mock input)
      (fun _ after => Ready mock history txn (rows ++ input.tokenIds) mark after ∧
        Provisional mock txn (rows ++ input.tokenIds) mark after)
      (fun _ after => ¬ StageContracts.Quiet input.cancellation ∧ after = state) state := by
  obtain ⟨rfl, offset, nonempty, extent, final, -⟩ := extended
  have some_ : 0 < input.tokenIds.length := List.length_pos_iff.mpr nonempty
  unfold expect
  rw [ends_bind]
  apply (check_ends input.cancellation 0).weaken
  swap
  · exact fun _ _ stopped => ⟨stopped.2, stopped.1⟩
  intro _ after same
  rw [same, ends_bind, ends_ensure]
  refine ⟨fun _ => ?_, fun other => (other ?_).elim⟩
  swap
  · simp [ready.magic, ready.version, ready.status]
  rw [ends_bind, ends_ensure]
  refine ⟨fun _ => ?_, fun other => (other ?_).elim⟩
  swap
  · rw [final, offset]
    simp only [not_or, not_lt, ne_eq, not_not]
    exact ⟨by omega, by omega, by omega, trivial⟩
  rw [ends_bind, ends_read, ends_bind, ends_whenever]
  constructor
  · intro closed
    have first : rows = [] ∧ mark = 0 ∧ state.speculativeCheckpoint = 0 := by
      rcases ready.progress with ⟨none_, mark, -, checkpoint⟩ | provisional
      · exact ⟨none_, mark, checkpoint⟩
      · have epoch := provisional.epoch
        have later := ready.later
        simp only [id_eq] at closed
        omega
    obtain ⟨rfl, rfl, checkpoint⟩ := first
    rw [ends_bind, ends_ensure, ends_write]
    refine ⟨fun _ => ?_, fun other => (other ?_).elim⟩
    swap
    · simp [offset, ready.base, ready.frontier, ready.later]
    rw [ends_bind, ends_ensure, ends_write]
    refine ⟨fun _ => ?_, fun other => (other (Or.inl closed)).elim⟩
    have opened : Provisional mock input.txn [] 0 (openProvisional mock input.txn state) :=
      ⟨rfl, rfl, rfl, rfl, rfl, rfl, rfl, checkpoint⟩
    have taken := advance_provisional opened input.tokenIds
    exact ⟨⟨ready.magic, ready.version, ready.status, ready.base, ready.frontier, ready.later,
      Or.inr taken⟩, taken⟩
  · intro open_
    have provisional : Provisional mock input.txn rows mark state := by
      rcases ready.progress with ⟨-, -, closed, -⟩ | provisional
      · exact (open_ closed).elim
      · exact provisional
    rw [ends_bind, ends_ensure, ends_write]
    refine ⟨fun _ => ?_, fun other => (other (Or.inr ?_)).elim⟩
    swap
    · simp [provisional.epoch, provisional.base, provisional.expected, provisional.kind,
        provisional.processed, offset]
    have taken := advance_provisional provisional input.tokenIds
    exact ⟨⟨ready.magic, ready.version, ready.status, ready.base, ready.frontier, ready.later,
      Or.inr taken⟩, taken⟩

/-- The commits a mock follows: of all rows, and of a speculation with at most
one checkpointed row behind. -/
def Committable (txn : SessionTxnV1) (processed mark count : Nat) : Prop :=
  processed = txn.evaluatedCount ∨ txn.kind = .speculative ∧
    (processed = count ∨ processed = count + 1 ∧ mark = count)

theorem commit_ends (ready : Ready mock history txn rows mark state) {count : Nat}
    (positive : 0 < count) (within : count ≤ rows.length) :
    Ends (commit txn.epoch count)
      (fun _ after => Idle (history ++ rows.take count) txn.epoch after)
      (fun _ _ => ¬ Committable txn rows.length mark count) state := by
  have provisional : Provisional mock txn rows mark state := by
    rcases ready.progress with ⟨rfl, -⟩ | provisional
    · rw [List.length_nil] at within
      omega
    · exact provisional
  unfold commit
  rw [ends_bind, ends_read, ends_bind, ends_ensure, ends_write]
  constructor
  · intro _
    refine ⟨?_, rfl, rfl, rfl⟩
    change state.provisionalBase + count = _
    rw [provisional.base, ready.base, List.length_append, List.length_take, min_eq_left within]
  · intro refused committable
    apply refused
    simp only [id_eq, provisional.epoch, provisional.processed, provisional.expected,
      provisional.kind, provisional.checkpoint]
    rintro (other | zero | more | ⟨partial_, inexact, unmarked⟩)
    · exact other rfl
    · omega
    · omega
    · rcases committable with complete | ⟨kind, exact_ | ⟨ahead, marked⟩⟩
      · exact partial_ complete
      · exact inexact ⟨kind, exact_⟩
      · exact unmarked ⟨kind, ahead, marked⟩

theorem reset_ends {epoch : Nat} (idle : Idle history epoch state) :
    Ends MockBackend.resetSession (fun _ after => Idle [] 0 after) (fun _ _ => False) state := by
  unfold MockBackend.resetSession
  rw [ends_bind, ends_read, ends_bind, ends_ensure, ends_write]
  exact ⟨fun _ => ⟨rfl, rfl, rfl, rfl⟩, fun open_ => open_ (not_not_intro idle.closed)⟩

theorem checkpoint_ends (front : mock.stage = .stage0)
    (ready : Ready mock history txn rows mark state) (kind : txn.kind = .speculative)
    (some_ : rows ≠ []) :
    Ends (checkpointSpeculativePrefix mock txn.epoch rows.length)
      (fun _ after => Ready mock history txn rows rows.length after) (fun _ _ => False) state := by
  have provisional : Provisional mock txn rows mark state := by
    rcases ready.progress with ⟨none_, -⟩ | provisional
    · exact (some_ none_).elim
    · exact provisional
  have positive : rows.length ≠ 0 := fun zero => some_ (List.length_eq_zero_iff.mp zero)
  unfold checkpointSpeculativePrefix
  rw [ends_bind, ends_read, ends_bind, ends_ensure, ends_write]
  constructor
  · intro _
    exact ⟨ready.magic, ready.version, ready.status, ready.base, ready.frontier, ready.later,
      Or.inr { provisional with checkpoint := rfl }⟩
  · intro refused
    apply refused
    simp [front, provisional.epoch, provisional.kind, provisional.processed, kind, positive]

end States

section Front
variable {mock : MockStage} {history rows : List Token} {txn : SessionTxnV1} {mark : Nat}
variable {state : MockState} {input : StageInput}

/-- What stage 0 answers behind some rows. -/
def frontAnswer (mock : MockStage) (rows : List Token) (input : StageInput) : StageOutput where
  boundary := boundaryOf mock { provisionalDigest := digestAfter mock input.txn rows } input
  stateCommitCount := rows.length
  stateDigest := digestAfter mock input.txn rows

theorem execute_front_ends (front : mock.stage = .stage0)
    (ready : Ready mock history txn rows mark state) (extended : Extends txn rows input) :
    Ends (MockBackend.execute mock input)
      (fun out after => Ready mock history txn (rows ++ input.tokenIds) mark after ∧
        out = frontAnswer mock (rows ++ input.tokenIds) input)
      (fun _ after => ¬ StageContracts.Quiet input.cancellation ∧
        ∃ rows', Ready mock history txn rows' mark after) state := by
  unfold MockBackend.execute
  rw [ends_bind]
  apply (expect_ends ready extended).weaken
  swap
  · rintro _ _ ⟨loud, same⟩
    exact ⟨loud, rows, same ▸ ready⟩
  rintro _ after ⟨taken, provisional⟩
  rw [if_pos front]
  unfold executeFront
  rw [ends_bind, ends_read, ends_bind]
  apply (check_ends input.cancellation 1).weaken
  swap
  · rintro _ _ ⟨same, loud⟩
    exact ⟨loud, _, same ▸ taken⟩
  intro _ last same
  rw [ends_pure, same]
  refine ⟨taken, ?_⟩
  have owner := extended.owner
  subst owner
  rw [frontAnswer, ← provisional.digest, ← provisional.processed]
  rfl

def mockFront (mock : MockStage) (front : mock.stage = .stage0) :
    FrontContract (mockBackend mock) where
  calm := True
  idle := Idle
  ready := Ready mock
  admits _ _ _ := True
  output _ rows input out := out = frontAnswer mock (rows ++ input.tokenIds) input
  committable := Committable
  opens := idle_opens
  restores := ready_restores True
  execute ready extended _ := (execute_front_ends front ready extended).weaken
    (fun _ _ lands => lands) fun _ _ ⟨loud, _, last⟩ =>
      ⟨fun calm => loud calm.2, ready_restores True last⟩
  commit ready positive within := (commit_ends ready positive within).weaken
    (fun _ _ idle => idle) fun _ _ refused calm => refused calm.2
  resets idle := (reset_ends idle).weaken (fun _ _ idle => idle) fun _ _ impossible =>
    impossible.elim
  anyInput _ _ _ := trivial
  prefetch _ polls ready := (check_ends polls 0).weaken (fun _ _ same => same ▸ ready)
    fun _ _ ⟨same, loud⟩ => ⟨fun calm => loud calm.2, ready_restores True (same ▸ ready)⟩
  checkpoint ready kind some_ := (checkpoint_ends front ready kind some_).weaken
    (fun _ _ lands => lands) fun _ _ impossible => impossible.elim

end Front

section Back
variable {mock : MockStage} {history rows : List Token} {txn : SessionTxnV1} {mark : Nat}
variable {state : MockState} {input : StageInput}

/-- What stage 1 answers behind some rows. -/
def backAnswer (mock : MockStage) (rows : List Token) (input : StageInput) : StageOutput :=
  let txn := input.txn
  let predictedAt := predictAfter mock { provisionalTokens := rows } txn
  if txn.kind = .speculative ∧ input.finalChunk = false then {
    stateCommitCount := rows.length
    nextToken := predictedAt rows.length
    stateDigest := digestAfter mock txn rows }
  else
    let committed := if txn.kind = .speculative then 1 + matching mock txn.baseTarget 1 rows
      else rows.length
    { stateCommitCount := committed
      nextToken := predictedAt committed
      stateDigest := digestAfter mock txn rows
      logitsBf16 := if input.needLogits then logitsFor mock (predictedAt committed) else [] }

/-- A boundary that stage 1 takes. -/
structure Admitted (hiddenWidth : UInt32) (input : StageInput) : Prop where
  valid : validateBoundary input.boundary.frame input.tokenIds.length = none
  checksum : input.boundary.payloadChecksum = input.boundary.frame.payloadChecksum
  epoch : input.boundary.frame.epoch = input.txn.epoch
  start : input.boundary.frame.tokenStart = input.txn.baseTarget + input.chunkOffset
  size : input.boundary.bf16.length = hiddenWidth.toNat * input.tokenIds.length

theorem verify_boundary_ends {hiddenWidth : UInt32} (admitted : Admitted hiddenWidth input) :
    Ends (verifyBoundary mock input) (fun _ after => after = state)
      (fun _ after => after = state ∧ mock.hiddenWidth ≠ hiddenWidth) state := by
  unfold verifyBoundary
  rw [ends_bind, ends_accept]
  refine ⟨fun _ => ?_, fun message refused => ?_⟩
  swap
  · rw [admitted.valid] at refused
    cases refused
  rw [ends_bind, ends_ensure]
  refine ⟨fun _ => ?_, fun other => (other admitted.checksum).elim⟩
  rw [ends_ensure]
  refine ⟨fun _ => rfl, fun other => ⟨rfl, fun wide => other ?_⟩⟩
  rw [admitted.epoch, admitted.start, admitted.size, wide]
  simp

theorem predict_after_tokens (tokens : state.provisionalTokens = rows) (count : Nat) :
    predictAfter mock state txn count = predictAfter mock { provisionalTokens := rows } txn count := by
  rw [predictAfter, tokens]
  rfl

/-- Behind the boundary stage 1 throws for a request alone. -/
theorem execute_back_ends (back : mock.stage = .stage1) {hiddenWidth : UInt32}
    (ready : Ready mock history txn rows mark state) (extended : Extends txn rows input)
    (admitted : Admitted hiddenWidth input) :
    Ends (MockBackend.execute mock input)
      (fun out after => Ready mock history txn (rows ++ input.tokenIds) mark after ∧
        out = backAnswer mock (rows ++ input.tokenIds) input)
      (fun _ after => ¬ (mock.hiddenWidth = hiddenWidth ∧ StageContracts.Quiet input.cancellation) ∧
        ∃ rows', Ready mock history txn rows' mark after) state := by
  unfold MockBackend.execute
  rw [ends_bind]
  apply (expect_ends ready extended).weaken
  swap
  · rintro _ _ ⟨loud, same⟩
    exact ⟨fun calm => loud calm.2, rows, same ▸ ready⟩
  rintro _ after ⟨taken, provisional⟩
  rw [if_neg (by rw [back]; exact Stage.noConfusion)]
  unfold executeBack
  rw [ends_bind]
  apply (verify_boundary_ends admitted).weaken
  swap
  · rintro _ _ ⟨same, narrow⟩
    exact ⟨fun calm => narrow calm.1, _, same ▸ taken⟩
  intro _ second same
  subst same
  have owner := extended.owner
  subst owner
  rw [ends_bind, ends_read, ends_ite]
  constructor
  · intro early
    rw [ends_pure]
    refine ⟨taken, ?_⟩
    rw [backAnswer, if_pos early, id_eq, provisional.processed, provisional.digest,
      predict_after_tokens provisional.tokens]
  · intro late
    rw [ends_bind, ends_ensure]
    refine ⟨fun _ => ?_, fun other => (other ?_).elim⟩
    swap
    · rintro ⟨asked, early⟩
      obtain ⟨final, kind⟩ := extended.logits asked
      rcases early with early | speculative
      · rw [final] at early
        cases early
      · exact kind speculative
    rw [ends_bind]
    apply (check_ends input.cancellation 1).weaken
    swap
    · rintro _ _ ⟨same, loud⟩
      exact ⟨fun calm => loud calm.2, _, same ▸ taken⟩
    intro _ last same
    rw [ends_pure, same]
    refine ⟨taken, ?_⟩
    rw [backAnswer, if_neg late]
    simp only [id_eq, provisional.processed, provisional.digest, provisional.tokens,
      predict_after_tokens provisional.tokens]

theorem check_rows_ends (polls : Option Polls) (count index : Nat) :
    Ends (checkRows polls count index) (fun _ after => after = state)
      (fun _ after => after = state ∧ ¬ StageContracts.Quiet polls) state := by
  induction count generalizing index with
  | zero => exact rfl
  | succ count ih =>
      rw [checkRows]
      apply (check_ends polls (index + 1)).chain
      intro _ after same
      rw [same]
      exact ih (index + 1)

theorem draft_ends (back : mock.stage = .stage1) (pending : Token) (position width : Nat)
    (polls : Option Polls) :
    Ends (draft mock pending position width polls)
      (fun tokens after => after = state ∧
        tokens = proposals mock position width (spoiledRow position width) width 0 pending)
      (fun _ after => after = state ∧ ¬ StageContracts.Quiet polls) state := by
  unfold draft
  apply (check_ends polls 0).chain
  intro _ first same
  rw [same, ends_bind, ends_ensure]
  refine ⟨fun _ => ?_, fun other => (other back).elim⟩
  apply (check_rows_ends polls width 0).chain
  intro _ last same
  rw [ends_pure, same]
  exact ⟨rfl, rfl⟩

/-- An answer stands behind the history of its own transaction. -/
structure Answers (mock : MockStage) (history rows : List Token) (input : StageInput)
    (out : StageOutput) : Prop where
  base : input.txn.baseTarget = history.length
  some_ : rows ++ input.tokenIds ≠ []
  logits : input.needLogits = true → input.finalChunk = true ∧ input.txn.kind ≠ .speculative
  answer : out = backAnswer mock (rows ++ input.tokenIds) input

theorem predict_after_history {rows : List Token} (base : txn.baseTarget = history.length)
    {count : Nat} (positive : 0 < count) (within : count ≤ rows.length) :
    predictAfter mock { provisionalTokens := rows } txn count =
      predicted mock (history ++ rows.take count) := by
  rw [predictAfter, predicted, last_of_rows history rows positive within, base, List.length_append,
    List.length_take, min_eq_left within]

theorem answers_plain {out : StageOutput} (answers : Answers mock history rows input out)
    (plain : ¬ (input.txn.kind = .speculative ∧ input.finalChunk = true)) :
    out.nextToken = predicted mock (history ++ (rows ++ input.tokenIds)) := by
  obtain ⟨base, some_, -, answer⟩ := answers
  have whole := @predict_after_history mock _ _ _ base _ (List.length_pos_iff.mpr some_) le_rfl
  rw [List.take_length] at whole
  rw [answer, backAnswer]
  by_cases early : input.txn.kind = .speculative ∧ input.finalChunk = false
  · rw [if_pos early]
    exact whole
  · rw [if_neg early]
    have kind : input.txn.kind ≠ .speculative := by
      intro kind
      cases final : input.finalChunk with
      | true => exact plain ⟨kind, final⟩
      | false => exact early ⟨kind, final⟩
    simp only [if_neg kind]
    exact whole

theorem answers_verdict {out : StageOutput} (answers : Answers mock history rows input out)
    (kind : input.txn.kind = .speculative) (final : input.finalChunk = true) :
    out.stateCommitCount = 1 + matching mock history.length 1 (rows ++ input.tokenIds) ∧
      out.nextToken = predicted mock
        (history ++ (rows ++ input.tokenIds).take out.stateCommitCount) := by
  obtain ⟨base, some_, -, answer⟩ := answers
  rw [backAnswer, if_neg (by simp [final])] at answer
  simp only [if_pos kind, base] at answer
  subst answer
  refine ⟨rfl, predict_after_history base ?_ (matching_le mock history.length 1 _ some_)⟩
  omega

theorem answers_scored {out : StageOutput} (answers : Answers mock history rows input out)
    (asked : input.needLogits = true) :
    out.logitsBf16 = logitsFor mock (predicted mock (history ++ (rows ++ input.tokenIds))) := by
  obtain ⟨final, kind⟩ := answers.logits asked
  have next := answers_plain answers fun both => kind both.1
  rw [← next, answers.answer, backAnswer, if_neg (by simp [final])]
  exact if_pos asked

def mockBack (front mock : MockStage) (options : ExecutorOptions) (back : mock.stage = .stage1) :
    BackContract (mockModel front mock options) (mockBackend mock) where
  calm := mock.hiddenWidth = options.hiddenWidth
  idle := Idle
  ready := Ready mock
  admits _ _ input := Admitted options.hiddenWidth input
  output history rows input out := Answers mock history rows input out
  committable := Committable
  opens := idle_opens
  restores := ready_restores _
  execute ready extended admitted := (execute_back_ends back ready extended admitted).weaken
    (fun _ _ ⟨last, answer⟩ => ⟨last, by rw [extended.owner]; exact ready.base,
      by simp [extended.nonempty], extended.owner ▸ extended.logits, answer⟩)
    fun _ _ ⟨loud, _, last⟩ => ⟨loud, ready_restores _ last⟩
  commit ready positive within := (commit_ends ready positive within).weaken
    (fun _ _ idle => idle) fun _ _ refused calm => refused calm.2
  resets idle := (reset_ends idle).weaken (fun _ _ idle => idle) fun _ _ impossible =>
    impossible.elim
  calmExact _ := mock_exact front mock options
  answers := answers_plain
  verdict := answers_verdict
  scored := answers_scored
  draft pending position width polls ready some_ := by
    change Ends (defaultDraftRetained (draft mock) pending position width _ polls) _ _ _
    unfold defaultDraftRetained
    rw [ends_bind, ends_ensure]
    constructor
    · intro _
      exact (draft_ends back pending position width polls).weaken
        (fun _ _ ⟨same, drafted⟩ => ⟨same ▸ ready, drafted⟩)
        fun _ _ ⟨same, loud⟩ => ⟨fun calm => loud calm.2, ready_restores _ (same ▸ ready)⟩
    · intro refused
      have later := ready.later
      omega
  reconcile _ ready := ready

end Back

section Pair
variable {front back : MockStage} (options : ExecutorOptions) (select : Sampling.Selection)
variable (weather : Nat → Weather)

/-- An executor over two mocks. -/
def mockSetup (front back : MockStage) : Setup MockState MockState where
  options := options
  select := select
  stage0 := mockBackend front
  stage1 := mockBackend back
  weather := weather

theorem boundary_words_length (mock : MockStage) (digest : UInt64) (txn : SessionTxnV1)
    (chunkOffset count : Nat) :
    (boundaryWords mock digest txn chunkOffset count).length = mock.hiddenWidth.toNat * count := by
  simp [boundaryWords, List.length_flatMap, Nat.mul_comm]

def mockPair (first : front.stage = .stage0) (second : back.stage = .stage1) :
    PairContract (mockModel front back options) (mockSetup options select weather front back) where
  front := mockFront front first
  back := mockBack front back options second
  fitting := by
    rintro history rows input _ rfl ⟨valid, accepted⟩
    exact ⟨UInt32.toNat_inj.mp accepted.2.2.2.2, valid⟩
  framed := by
    rintro history txn rows input _ - rfl extended ⟨width, valid⟩
    exact ⟨valid, rfl, rfl, rfl, rfl, congrArg UInt32.toNat width⟩
  link := by
    rintro history rows input _ needLogits cancellation rfl ⟨valid, accepted⟩
    refine ⟨valid, rfl, rfl, rfl, ?_⟩
    have width : front.hiddenWidth = options.hiddenWidth :=
      UInt32.toNat_inj.mp accepted.2.2.2.2
    rw [← width]
    exact boundary_words_length front _ _ _ _

/-- The mocks follow every commit of the executor. -/
theorem mock_commits (first : front.stage = .stage0) (second : back.stage = .stage1) :
    Commits (mockPair options select weather first second) where
  front := by
    rintro txn processed mark count (⟨same, whole⟩ | ⟨kind, ahead, marked⟩)
    · exact Or.inl (same.trans whole)
    · exact Or.inr ⟨kind, Or.inr ⟨ahead, marked⟩⟩
  back := by
    rintro txn mark count (whole | kind)
    · exact Or.inl whole
    · exact Or.inr ⟨kind, Or.inl rfl⟩

end Pair

section Fitted
variable {front back : MockStage} {options : ExecutorOptions}

/-- Mocks of the width and the vocabulary of their executor. -/
structure Fitted (front back : MockStage) (options : ExecutorOptions) : Prop where
  width0 : front.hiddenWidth = options.hiddenWidth
  width1 : back.hiddenWidth = options.hiddenWidth
  wide : options.hiddenWidth ≠ 0
  narrow : options.hiddenWidth.toNat < 2 ^ 31
  vocabulary : back.vocabSize = options.vocabSize
  words : options.vocabSize ≠ 0
  listed : options.vocabSize.toNat ≤ 2 ^ 31

theorem listed_of_word {vocabulary value : UInt32} (small : vocabulary.toNat ≤ 2 ^ 31)
    (inside : value.toNat < vocabulary.toNat) :
    Sampling.inVocabulary vocabulary value.toInt32 = true := by
  have sign : ¬ value.toInt32 < 0 := by
    rw [Int32.lt_iff_toInt_lt]
    have : value.toInt32.toInt = value.toNat := by
      change value.toBitVec.toInt = _
      rw [BitVec.toInt_eq_toNat_of_lt]
      · rfl
      · change 2 * value.toNat < 2 ^ 32
        omega
    rw [this]
    simp
  simp [Sampling.inVocabulary, sign, UInt32.lt_iff_toNat_lt, inside]

theorem fitted_predicts (fitted : Fitted front back options) (history : List Token) :
    Sampling.inVocabulary options.vocabSize (predicted back history) = true := by
  have words : 0 < options.vocabSize.toNat :=
    Nat.pos_of_ne_zero fun zero => fitted.words (UInt32.toNat_inj.mp zero)
  unfold predicted predict
  apply listed_of_word fitted.listed
  rw [fitted.vocabulary]
  simp only [UInt64.toNat_toUInt32, UInt64.toNat_mod, UInt32.toNat_toUInt64]
  have bound := options.vocabSize.toNat_lt
  have below := Nat.mod_lt (mix64 ((history.getLastD 0).toUInt32.toUInt64 ^^^
    UInt64.ofNat history.length * 0x9e3779b97f4a7c15)).toNat words
  rw [Nat.mod_eq_of_lt (below.trans bound)]
  exact below

theorem fitted_fits (fitted : Fitted front back options) {count : Nat} (positive : 0 < count)
    (word : count < 2 ^ 32) : frameFits front options.hiddenWidth count := by
  refine ⟨fitted.width0, ?_⟩
  have wide : front.hiddenWidth.toNat ≠ 0 := by
    rw [fitted.width0]
    exact fun zero => fitted.wide (UInt32.toNat_inj.mp zero)
  have narrow : front.hiddenWidth.toNat < 2 ^ 31 := by
    rw [fitted.width0]
    exact fitted.narrow
  have area : front.hiddenWidth.toNat * count < 2 ^ 63 :=
    calc front.hiddenWidth.toNat * count < 2 ^ 31 * 2 ^ 32 :=
          Nat.mul_lt_mul'' narrow word
      _ = 2 ^ 63 := by norm_num
  generalize front.hiddenWidth.toNat = width at *
  have quotient : width ≤ maxUInt64 / count := by
    rw [Nat.le_div_iff_mul_le positive, maxUInt64]
    omega
  unfold validateBoundary
  rw [if_neg (by simp), if_neg (by simp), if_neg (by simp), if_neg (by simp), if_neg, if_neg wide,
    if_neg (by simp [dtypeBytes]), if_neg, if_neg]
  · simp only [dtypeBytes]
    rw [Nat.mod_eq_of_lt (by omega)]
    exact not_not_intro rfl
  · simp only [dtypeBytes, not_or, not_lt]
    exact ⟨quotient, by rw [maxUInt64]; omega⟩
  · simp only [not_or, not_lt]
    omega

end Fitted

end Q38.MockContract
