import Q38Runtime.ConsecutiveRuns
import Q38Runtime.Preparation
import Q38Runtime.RecordedStages

/-!
The chunks that reach the stages. Whatever recorded stages answer, the inputs they
are given follow each other without a gap from row 0 on, and stage 1 is handed each
chunk with the boundary that stage 0 answered for it.
-/
namespace Q38.ChunkDelivery
open Contracts Cancellation Backend Sampling Executor Transaction Coordination RecordedStages
  Imperative ConsecutiveRuns

section Chunks
variable (txn : SessionTxnV1) (rows : List Token)

def tokenCount (input : StageInput) : Nat := input.tokenIds.length

/-- Chunks of the rows from row 0 up to a row; only the last one of all is final. -/
structure Delivered (inputs : List StageInput) (reached : Nat) : Prop where
  runs : Runs (·.chunkOffset) tokenCount 0 inputs reached
  within : reached ≤ txn.evaluatedCount
  owner : ∀ input ∈ inputs, input.txn = txn
  tokens : ∀ input ∈ inputs,
    input.tokenIds = (rows.drop input.chunkOffset).take (tokenCount input)
  final : ∀ input ∈ inputs, input.finalChunk =
    decide (input.chunkOffset + tokenCount input = txn.evaluatedCount)

/-- A chunk of stage 0 as stage 1 is given it. -/
structure Handed (front : ExecuteCall) (input : StageInput) : Prop where
  offset : input.chunkOffset = front.1.chunkOffset
  tokens : input.tokenIds = front.1.tokenIds
  boundary : ∃ output, front.2 = .ok output ∧ input.boundary = output.boundary
  start : input.boundary.frame.tokenStart = txn.baseTarget + input.chunkOffset
  count : input.boundary.frame.tokenCount = tokenCount input

/-- What both stages were given: stage 1 follows stage 0. -/
structure Flow (front back : List ExecuteCall) (ahead reached : Nat) : Prop where
  fronts : Delivered txn rows (front.map Prod.fst) ahead
  backs : Delivered txn rows (back.map Prod.fst) reached
  handed : List.Forall₂ (Handed txn) (front.take back.length) (back.map Prod.fst)
  behind : reached ≤ ahead

variable {txn rows}

theorem delivered_none : Delivered txn rows [] 0 :=
  ⟨.nil, Nat.zero_le _, List.forall_mem_nil _, List.forall_mem_nil _, List.forall_mem_nil _⟩

theorem Delivered.snoc {inputs : List StageInput} {reached : Nat}
    (delivered : Delivered txn rows inputs reached) {input : StageInput} (owner : input.txn = txn)
    (here : input.chunkOffset = reached) (some_ : 0 < tokenCount input)
    (within : reached + tokenCount input ≤ txn.evaluatedCount)
    (tokens : input.tokenIds = (rows.drop reached).take (tokenCount input))
    (final : input.finalChunk = decide (reached + tokenCount input = txn.evaluatedCount)) :
    Delivered txn rows (inputs ++ [input]) (reached + tokenCount input) := by
  constructor
  case runs => exact delivered.runs.snoc here some_
  case within => exact within
  case owner =>
    intro other listed
    rcases List.mem_append.mp listed with before | same
    · exact delivered.owner other before
    · rw [List.mem_singleton.mp same, owner]
  case tokens =>
    intro other listed
    rcases List.mem_append.mp listed with before | same
    · exact delivered.tokens other before
    · rw [List.mem_singleton.mp same, here]
      exact tokens
  case final =>
    intro other listed
    rcases List.mem_append.mp listed with before | same
    · exact delivered.final other before
    · rw [List.mem_singleton.mp same, here]
      exact final

/-- Only the chunk that ends the rows is final, and none follows it. -/
theorem delivered_final {inputs : List StageInput} {input : StageInput} {reached : Nat}
    (delivered : Delivered txn rows (inputs ++ [input]) reached) :
    (∀ earlier ∈ inputs, earlier.finalChunk = false) ∧
      input.finalChunk = decide (reached = txn.evaluatedCount) := by
  obtain ⟨-, ends_⟩ := runs_concat delivered.runs
  have final := delivered.final
  constructor
  · intro earlier listed
    rw [final earlier (List.mem_append_left [input] listed), decide_eq_false_iff_not]
    have apart := (List.pairwise_append.mp (runs_apart delivered.runs)).2.2 earlier listed input
      List.mem_cons_self
    have bounds := runs_bounds delivered.runs
      (List.mem_append_right inputs (List.mem_cons_self (a := input)))
    have within := delivered.within
    omega
  · rw [final input (List.mem_append_right inputs List.mem_cons_self), ends_]

/-- Row after row up to `reached`, each once, and final only where the rows end. -/
structure Covers (txn : SessionTxnV1) (inputs : List StageInput) (reached : Nat) : Prop where
  places : (inputs.flatMap fun input => List.range' input.chunkOffset (tokenCount input)) =
    List.range reached
  final : ∀ earlier last, inputs = earlier ++ [last] →
    (∀ input ∈ earlier, input.finalChunk = false) ∧
      last.finalChunk = decide (reached = txn.evaluatedCount)

theorem delivered_covers {inputs : List StageInput} {reached : Nat}
    (delivered : Delivered txn rows inputs reached) : Covers txn inputs reached := by
  constructor
  case places => rw [runs_places delivered.runs, Nat.sub_zero, List.range_eq_range']
  case final =>
    rintro earlier last rfl
    exact delivered_final delivered

end Chunks

section Steps
variable {σ₀ σ₁ α : Type} {setup : Setup σ₀ σ₁}
variable {world after : World (Recorded σ₀) (Recorded σ₁)}

/-- The calls that both stages have taken since `world`. -/
structure Took (world after : World (Recorded σ₀) (Recorded σ₁)) (front back : List ExecuteCall) :
    Prop where
  front : after.worker0.state.calls = world.worker0.state.calls ++ front
  back : after.worker1.state.calls = world.worker1.state.calls ++ back

/-- Neither stage was given a chunk. -/
def Still (world after : World (Recorded σ₀) (Recorded σ₁)) : Prop := Took world after [] []

theorem still_workers (front : after.worker0.state.calls = world.worker0.state.calls)
    (back : after.worker1.state.calls = world.worker1.state.calls) : Still world after :=
  ⟨by rw [front, List.append_nil], by rw [back, List.append_nil]⟩

theorem still_refl (world : World (Recorded σ₀) (Recorded σ₁)) : Still world world :=
  still_workers rfl rfl

theorem Took.trans {middle : World (Recorded σ₀) (Recorded σ₁)}
    {front back front' back' : List ExecuteCall} (first : Took world middle front back)
    (second : Took middle after front' back') :
    Took world after (front ++ front') (back ++ back') :=
  ⟨by rw [second.front, first.front, List.append_assoc],
    by rw [second.back, first.back, List.append_assoc]⟩

theorem Took.still {middle : World (Recorded σ₀) (Recorded σ₁)} {front back : List ExecuteCall}
    (first : Took world middle front back) (second : Still middle after) :
    Took world after front back := by
  have both := first.trans second
  rwa [List.append_nil, List.append_nil] at both

theorem on_token_still (access : Weather → Proc Thrown CancellationToken Unit) :
    Ends (onToken (recordingSetup setup) access) (fun _ after => Still world after)
      (fun _ after => Still world after) world := by
  unfold Ends onToken
  cases world.cancellation with
  | none => exact still_workers rfl rfl
  | some token =>
      dsimp only
      rcases (access _ _).1 with thrown | value
      · exact still_workers rfl rfl
      · exact still_workers rfl rfl

/-- A task that is no execute call. -/
theorem submit0_still (task : Task) (body : Option Polls → Proc Thrown σ₀ α) :
    Ends (submit0 (recordingSetup setup) task fun polls => onInner (body polls))
      (fun _ after => Still world after) (fun _ _ => False) world :=
  still_workers rfl rfl

theorem submit1_still (task : Task) (body : Option Polls → Proc Thrown σ₁ α) :
    Ends (submit1 (recordingSetup setup) task fun polls => onInner (body polls))
      (fun _ after => Still world after) (fun _ _ => False) world :=
  still_workers rfl rfl

end Steps

section Turns
variable {σ₀ σ₁ : Type} {setup : Setup σ₀ σ₁} {txn : SessionTxnV1} {rows : List Token}
variable {chunkTokens : Nat} {world : World (Recorded σ₀) (Recorded σ₁)}

/-- A chunk that stage 0 was given, as the coordinator remembers it. -/
structure Pends (txn : SessionTxnV1) (rows : List Token) (chunkTokens offset : Nat)
    (pending : PendingStage0) (call : ExecuteCall) : Prop where
  here : pending.offset = offset
  count : pending.count = min chunkTokens (txn.evaluatedCount - offset)
  tokens : pending.tokens = (rows.drop offset).take pending.count
  final : pending.finalChunk = decide (offset + pending.count = txn.evaluatedCount)
  owner : call.1.txn = txn
  sameOffset : call.1.chunkOffset = offset
  sameTokens : call.1.tokenIds = pending.tokens
  sameFinal : call.1.finalChunk = pending.finalChunk
  outcome : call.2 = pending.outcome

theorem submit_stage0_took (offset : Nat) :
    Ends (submitStage0 (recordingSetup setup) txn chunkTokens rows offset)
      (fun pending after => ∃ call, Took world after [call] [] ∧
        Pends txn rows chunkTokens offset pending call) (fun _ _ => False) world :=
  ⟨_, ⟨rfl, (List.append_nil _).symm⟩, ⟨rfl, rfl, rfl, rfl, rfl, rfl, rfl, rfl, rfl⟩⟩

/-- Stage 0 is one chunk ahead, the pending one. -/
structure Turn (txn : SessionTxnV1) (rows : List Token) (chunkTokens : Nat)
    (front : List ExecuteCall) (call : ExecuteCall) (back : List ExecuteCall)
    (pending : PendingStage0) : Prop where
  flow : Flow txn rows (front ++ [call]) back (pending.offset + pending.count) pending.offset
  level : back.length = front.length
  pends : Pends txn rows chunkTokens pending.offset pending call
  wide : tokenCount call.1 = pending.count

variable (whole : txn.evaluatedCount ≤ rows.length) (positive : 0 < chunkTokens)
include whole positive

theorem turn_begins {front back : List ExecuteCall} {reached : Nat}
    (flow : Flow txn rows front back reached reached) (level : back.length = front.length)
    (inside : reached < txn.evaluatedCount) {pending : PendingStage0} {call : ExecuteCall}
    (pends : Pends txn rows chunkTokens reached pending call) :
    Turn txn rows chunkTokens front call back pending := by
  have wide : tokenCount call.1 = pending.count := by
    rw [tokenCount, pends.sameTokens, pends.tokens, List.length_take, List.length_drop, pends.count]
    omega
  have some_ : 0 < tokenCount call.1 := by
    rw [wide, pends.count]
    omega
  have within : reached + tokenCount call.1 ≤ txn.evaluatedCount := by
    rw [wide, pends.count]
    omega
  have here := pends.here
  subst here
  refine ⟨?_, level, pends, wide⟩
  constructor
  case fronts =>
    rw [List.map_append, ← wide]
    refine flow.fronts.snoc pends.owner pends.sameOffset some_ within ?_ ?_
    · rw [pends.sameTokens, wide]
      exact pends.tokens
    · rw [pends.sameFinal, wide]
      exact pends.final
  case backs => exact flow.backs
  case handed =>
    rw [level, List.take_left]
    have handed := flow.handed
    rwa [level, List.take_length] at handed
  case behind => exact Nat.le_add_right _ _

omit whole positive in
/-- Stage 1 is given the pending chunk. -/
theorem turn_forwards {front back : List ExecuteCall} {call next : ExecuteCall}
    {pending : PendingStage0} (turn : Turn txn rows chunkTokens front call back pending)
    {output0 : StageOutput} (answer : pending.outcome = .ok output0)
    (start : output0.boundary.frame.tokenStart = txn.baseTarget + pending.offset)
    (count : output0.boundary.frame.tokenCount = pending.count) (owner : next.1.txn = txn)
    (offset : next.1.chunkOffset = pending.offset) (tokens : next.1.tokenIds = pending.tokens)
    (final : next.1.finalChunk = pending.finalChunk)
    (boundary : next.1.boundary = output0.boundary) :
    Flow txn rows (front ++ [call]) (back ++ [next]) (pending.offset + pending.count)
      (pending.offset + pending.count) := by
  obtain ⟨flow, level, pends, wide⟩ := turn
  have same : tokenCount next.1 = tokenCount call.1 := by
    rw [tokenCount, tokens, tokenCount, pends.sameTokens]
  have bounds := runs_bounds flow.fronts.runs
    (List.mem_map_of_mem (List.mem_append_right front List.mem_cons_self))
  have some_ : 0 < tokenCount next.1 := same ▸ bounds.2.2
  constructor
  case fronts => exact flow.fronts
  case backs =>
    rw [List.map_append, ← wide, ← same]
    refine flow.backs.snoc owner offset some_ ?_ ?_ ?_
    · rw [same, wide]
      exact flow.fronts.within
    · rw [tokens, same, wide]
      exact pends.tokens
    · rw [final, same, wide]
      exact pends.final
  case handed =>
    have before := flow.handed
    rw [level, List.take_left] at before
    rw [List.length_append, level, ← @List.length_append _ front [next], List.map_append]
    have full : (front ++ [call]).take (front ++ [next]).length = front ++ [call] := by
      apply List.take_of_length_le
      simp
    rw [full]
    refine List.rel_append before (.cons ⟨?_, ?_, ?_, ?_, ?_⟩ .nil)
    · rw [offset, pends.sameOffset]
    · rw [tokens, pends.sameTokens]
    · exact ⟨output0, pends.outcome.trans answer, boundary⟩
    · rw [boundary, offset]
      exact start
    · rw [boundary, count, same, wide]
  case behind => exact le_rfl

end Turns

section Loop
variable {σ₀ σ₁ : Type} {setup : Setup σ₀ σ₁} {txn : SessionTxnV1} {rows : List Token}
variable {chunkTokens : Nat} {start world : World (Recorded σ₀) (Recorded σ₁)}

/-- What both stages were given since `start` is in order. -/
def Given (txn : SessionTxnV1) (rows : List Token) (start after : World (Recorded σ₀) (Recorded σ₁)) :
    Prop :=
  ∃ front back ahead reached, Took start after front back ∧ Flow txn rows front back ahead reached

/-- The loop before a turn. -/
def Turns (txn : SessionTxnV1) (rows : List Token) (chunkTokens : Nat)
    (start after : World (Recorded σ₀) (Recorded σ₁)) (pending : PendingStage0) : Prop :=
  ∃ front call back, Took start after (front ++ [call]) back ∧
    Turn txn rows chunkTokens front call back pending

/-- The loop behind its last turn: `reached` rows went through both stages. -/
def Done (txn : SessionTxnV1) (rows : List Token) (start after : World (Recorded σ₀) (Recorded σ₁))
    (reached : Nat) : Prop :=
  ∃ front back, Took start after front back ∧ Flow txn rows front back reached reached ∧
    back.length = front.length

theorem Turns.given {pending : PendingStage0} (turns : Turns txn rows chunkTokens start world pending) :
    Given txn rows start world := by
  obtain ⟨front, call, back, took, turn⟩ := turns
  exact ⟨_, _, _, _, took, turn.flow⟩

theorem Turns.still {after : World (Recorded σ₀) (Recorded σ₁)} {pending : PendingStage0}
    (turns : Turns txn rows chunkTokens start world pending) (still : Still world after) :
    Turns txn rows chunkTokens start after pending := by
  obtain ⟨front, call, back, took, turn⟩ := turns
  exact ⟨front, call, back, took.still still, turn⟩

theorem Given.still {after : World (Recorded σ₀) (Recorded σ₁)} (given : Given txn rows start world)
    (still : Still world after) : Given txn rows start after := by
  obtain ⟨front, back, ahead, reached, took, flow⟩ := given
  exact ⟨front, back, ahead, reached, took.still still, flow⟩

theorem Done.given {reached : Nat} (done : Done txn rows start world reached) :
    Given txn rows start world := by
  obtain ⟨front, back, took, flow, -⟩ := done
  exact ⟨front, back, reached, reached, took, flow⟩

theorem Done.still {after : World (Recorded σ₀) (Recorded σ₁)} {reached : Nat}
    (done : Done txn rows start world reached) (still : Still world after) :
    Done txn rows start after reached := by
  obtain ⟨front, back, took, rest⟩ := done
  exact ⟨front, back, took.still still, rest⟩

theorem Given.earlier {middle : World (Recorded σ₀) (Recorded σ₁)} (still : Still start middle)
    (given : Given txn rows middle world) : Given txn rows start world := by
  obtain ⟨front, back, ahead, reached, took, flow⟩ := given
  exact ⟨front, back, ahead, reached, Took.trans still took, flow⟩

theorem Done.earlier {middle : World (Recorded σ₀) (Recorded σ₁)} {reached : Nat}
    (still : Still start middle) (done : Done txn rows middle world reached) :
    Done txn rows start world reached := by
  obtain ⟨front, back, took, rest⟩ := done
  exact ⟨front, back, Took.trans still took, rest⟩

theorem receive_still (pending : PendingStage0) :
    Ends (receiveStage0 (recordingSetup setup) txn pending)
      (fun output after => Still world after ∧ pending.outcome = .ok output ∧
        output.boundary.frame.tokenStart = txn.baseTarget + pending.offset ∧
        output.boundary.frame.tokenCount = pending.count)
      (fun _ after => Still world after) world := by
  unfold receiveStage0 poll
  apply (on_token_still _).chain
  intro _ first still
  rw [ends_bind, ends_settle]
  refine ⟨fun output answer => ?_, fun _ _ => still⟩
  rw [ends_bind]
  apply (on_token_still _).weaken
  · intro _ second again
    have both := Took.still still again
    simp only [checkBoundary, ends_bind, ends_accept, ends_ensure, ends_pure]
    exact ⟨fun _ => ⟨fun fits => ⟨both, answer, fits.2.2.1, fits.2.2.2.1⟩, fun _ => both⟩,
      fun _ _ => both⟩
  · exact fun _ _ again => Took.still still again

theorem submit_stage1_took (pending : PendingStage0) (boundary : BoundaryBuffer)
    (needLogits : Bool) :
    Ends (submitStage1 (recordingSetup setup) txn pending boundary needLogits)
      (fun outcome after => ∃ next, Took world after [] [next] ∧ next.2 = outcome ∧
        next.1.txn = txn ∧ next.1.chunkOffset = pending.offset ∧
        next.1.tokenIds = pending.tokens ∧ next.1.finalChunk = pending.finalChunk ∧
        next.1.boundary = boundary) (fun _ _ => False) world :=
  ⟨_, ⟨(List.append_nil _).symm, rfl⟩, rfl, rfl, rfl, rfl, rfl, rfl⟩

theorem checkpoint_still (retained : Bool) (nextOffset : Nat) :
    Ends (checkpointRows (recordingSetup setup) txn retained nextOffset)
      (fun _ after => Still world after) (fun _ after => Still world after) world := by
  rw [checkpointRows, ends_whenever]
  refine ⟨fun _ => ?_, fun _ => still_refl world⟩
  apply (submit0_still .checkpointSpeculativePrefix fun _ =>
    setup.stage0.checkpointSpeculativePrefix txn.epoch nextOffset).proceed
  intro outcome after still
  rw [ends_settle]
  exact ⟨fun _ _ => still, fun _ _ => still⟩

variable (whole : txn.evaluatedCount ≤ rows.length) (positive : 0 < chunkTokens)
include whole positive

theorem submit_next_turns {reached : Nat} (done : Done txn rows start world reached) :
    Ends (submitNext (recordingSetup setup) txn chunkTokens rows reached)
      (fun next after => match next with
        | none => Done txn rows start after reached ∧ reached = txn.evaluatedCount
        | some pending => Turns txn rows chunkTokens start after pending ∧
            pending.offset = reached)
      (fun _ _ => False) world := by
  obtain ⟨front, back, took, flow, level⟩ := done
  rw [submitNext]
  split
  case isTrue inside =>
    apply (submit_stage0_took reached).proceed
    rintro pending after ⟨call, also, pends⟩
    refine ⟨⟨front, call, back, ?_, turn_begins whole positive flow level inside pends⟩,
      pends.here⟩
    have both := took.trans also
    rwa [List.append_nil] at both
  case isFalse finished =>
    have within := flow.fronts.within
    exact ⟨⟨front, back, took, flow, level⟩, by omega⟩

theorem forward_turns {retained : Bool} {pending : PendingStage0}
    (turns : Turns txn rows chunkTokens start world pending) {output0 : StageOutput}
    (answer : pending.outcome = .ok output0)
    (begins : output0.boundary.frame.tokenStart = txn.baseTarget + pending.offset)
    (count : output0.boundary.frame.tokenCount = pending.count) :
    Ends (forwardToStage1 (recordingSetup setup) txn chunkTokens retained rows pending
        output0.boundary)
      (fun result after => match result.2 with
        | none => Done txn rows start after txn.evaluatedCount
        | some next => Turns txn rows chunkTokens start after next ∧
            next.offset = pending.offset + pending.count)
      (fun _ after => Given txn rows start after) world := by
  obtain ⟨front, call, back, took, turn⟩ := turns
  unfold forwardToStage1
  rw [ends_bind, ends_read]
  apply (submit_stage1_took pending output0.boundary _).proceed
  rintro outcome first ⟨next, also, -, owner, offset, tokens, final, boundary⟩
  have flow := turn_forwards turn answer begins count owner offset tokens final boundary
  have done : Done txn rows start first (pending.offset + pending.count) := by
    refine ⟨_, _, ?_, flow, by simp [turn.level]⟩
    have both := took.trans also
    rwa [List.append_nil] at both
  rw [ends_bind]
  apply (checkpoint_still retained _).weaken
  swap
  · exact fun _ _ still => (done.still still).given
  intro _ second still
  apply (submit_next_turns whole positive (done.still still)).proceed
  intro next0 third going
  have given : Given txn rows start third := by
    cases next0 with
    | none => exact going.1.given
    | some next => exact going.1.given
  rw [ends_bind, ends_settle]
  refine ⟨fun output1 _ => ?_, fun _ _ => given⟩
  rw [ends_bind]
  apply (on_token_still _).weaken
  swap
  · exact fun _ _ still => given.still still
  intro _ fourth still
  simp only [ensureVocabulary, ends_bind, ends_ensure, ends_pure]
  refine ⟨fun _ => ?_, fun _ => given.still still⟩
  cases next0 with
  | none =>
      obtain ⟨done, finished⟩ := going
      rw [finished] at done
      exact done.still still
  | some next => exact ⟨going.1.still still, going.2⟩

/-- The loop delivers all rows, or a part that a rejected draft ends. -/
theorem verify_rows_given {retained : Bool} {fuel : Nat} {pending : PendingStage0}
    (turns : Turns txn rows chunkTokens start world pending) :
    Ends (verifyRows (recordingSetup setup) txn chunkTokens retained rows fuel pending)
      (fun _ after => Given txn rows start after ∧
        (retained = false → Done txn rows start after txn.evaluatedCount))
      (fun _ after => Given txn rows start after) world := by
  induction fuel generalizing world pending with
  | zero => exact turns.given
  | succ fuel ih =>
      rw [verifyRows, ends_bind]
      apply (receive_still pending).weaken
      swap
      · exact fun _ _ still => turns.given.still still
      rintro output0 first ⟨still, answer, begins, count⟩
      rw [ends_bind]
      apply (forward_turns whole positive (turns.still still) answer begins count).weaken
      swap
      · exact fun _ _ given => given
      rintro ⟨output1, next0⟩ second going
      cases next0 with
      | none => exact ⟨going.given, fun _ => going⟩
      | some next =>
          obtain ⟨turns, -⟩ := going
          dsimp only
          rw [ends_ite]
          refine ⟨fun kept => ?_, fun _ => ih turns⟩
          rw [ends_ite]
          constructor
          · intro _
            apply (submit1_still .reconcileRetainedDraft fun _ =>
              setup.stage1.reconcileRetainedDraft txn.epoch pending.offset).proceed
            intro outcome third still
            rw [ends_bind, ends_settle]
            exact ⟨fun _ _ => ih (turns.still still), fun _ _ => turns.given.still still⟩
          · intro _
            rw [ends_bind, ends_settle]
            refine ⟨fun _ _ => ⟨turns.given, fun plain => ?_⟩, fun _ _ => turns.given⟩
            rw [plain] at kept
            cases kept

end Loop

section Quiet
variable {σ₀ σ₁ α β : Type}

/-- A call that hands no chunk to a stage. -/
def Quiet (call : ExecutorCall (Recorded σ₀) (Recorded σ₁) α) : Prop :=
  ∀ world, Ends call (fun _ after => Still world after) (fun _ after => Still world after) world

theorem quiet_pure (value : α) :
    Quiet (pure value : ExecutorCall (Recorded σ₀) (Recorded σ₁) α) := still_refl

theorem quiet_throwing (thrown : Thrown) :
    Quiet (Proc.throwing thrown : ExecutorCall (Recorded σ₀) (Recorded σ₁) α) := still_refl

theorem quiet_read (view : World (Recorded σ₀) (Recorded σ₁) → α) : Quiet (Proc.read view) :=
  still_refl

theorem quiet_settle (outcome : Except Thrown α) :
    Quiet (Proc.settle outcome : ExecutorCall (Recorded σ₀) (Recorded σ₁) α) := by
  intro world
  cases outcome with
  | ok value => exact still_refl world
  | error thrown => exact still_refl world

theorem quiet_bind {first : ExecutorCall (Recorded σ₀) (Recorded σ₁) α}
    {next : α → ExecutorCall (Recorded σ₀) (Recorded σ₁) β} (head : Quiet first)
    (tail : ∀ value, Quiet (next value)) : Quiet (first >>= next) := by
  intro world
  apply (head world).chain
  intro value middle still
  exact (tail value middle).weaken (fun _ _ again => Took.still still again)
    fun _ _ again => Took.still still again

theorem quiet_ensure (condition : Prop) [Decidable condition] (thrown : Thrown) :
    Quiet (Proc.ensure condition thrown : ExecutorCall (Recorded σ₀) (Recorded σ₁) Unit) := by
  intro world
  rw [ends_ensure]
  exact ⟨fun _ => still_refl world, fun _ => still_refl world⟩

theorem quiet_whenever {condition : Prop} [Decidable condition]
    {call : ExecutorCall (Recorded σ₀) (Recorded σ₁) Unit} (quiet : Quiet call) :
    Quiet (Proc.whenever condition call) := by
  intro world
  rw [ends_whenever]
  exact ⟨fun _ => quiet world, fun _ => still_refl world⟩

theorem quiet_catching {body : ExecutorCall (Recorded σ₀) (Recorded σ₁) α}
    {handler : Thrown → ExecutorCall (Recorded σ₀) (Recorded σ₁) α} (quiet : Quiet body)
    (handles : ∀ thrown, Quiet (handler thrown)) : Quiet (Proc.catching body handler) := by
  intro world
  rw [ends_catching]
  apply (quiet world).weaken (fun _ _ still => still)
  intro thrown middle still
  exact (handles thrown middle).weaken (fun _ _ again => Took.still still again)
    fun _ _ again => Took.still still again

theorem quiet_coordinate (describe : String → Thrown) (call : EngineCall α) :
    Quiet (coordinate describe call : ExecutorCall (Recorded σ₀) (Recorded σ₁) α) := by
  intro world
  rw [ends_coordinate]
  exact (ends_self call _).weaken (fun _ _ _ => still_workers rfl rfl)
    fun _ _ _ => still_workers rfl rfl

theorem quiet_sampler (call : SamplerCall) :
    Quiet (onSampler call : ExecutorCall (Recorded σ₀) (Recorded σ₁) Unit) := by
  intro world
  rw [onSampler, ends_within]
  exact (ends_self call _).weaken (fun _ _ _ => still_workers rfl rfl)
    fun _ _ _ => still_workers rfl rfl

theorem quiet_poison : Quiet (poison : ExecutorCall (Recorded σ₀) (Recorded σ₁) Unit) :=
  fun _ => still_workers rfl rfl

variable {setup : Setup σ₀ σ₁}

theorem quiet_submit0 (task : Task) (body : Option Polls → Proc Thrown σ₀ α) :
    Quiet (submit0 (recordingSetup setup) task fun polls => onInner (body polls)) :=
  fun _ => submit0_still task body

theorem quiet_submit1 (task : Task) (body : Option Polls → Proc Thrown σ₁ α) :
    Quiet (submit1 (recordingSetup setup) task fun polls => onInner (body polls)) :=
  fun _ => submit1_still task body

theorem quiet_submit_draft (epoch : Nat) (retainedDraft : Option RetainedDraftRequest) :
    Quiet (submitDraft (recordingSetup setup) epoch retainedDraft) := by
  cases retainedDraft with
  | none => exact quiet_pure none
  | some request =>
      exact quiet_bind (quiet_submit1 .draftRetained fun polls =>
        setup.stage1.draftRetained request.pendingToken request.position request.maxDraft epoch
          polls) fun outcome => quiet_pure (some outcome)

theorem quiet_rollback (epoch : Nat) : Quiet (rollbackPrepared (recordingSetup setup) epoch) := by
  apply quiet_catching
  · apply quiet_bind (quiet_submit0 .rollback fun _ => setup.stage0.rollback epoch)
    intro first
    apply quiet_bind (quiet_submit1 .rollback fun _ => setup.stage1.rollback epoch)
    intro second
    apply quiet_bind (quiet_settle first)
    intro _
    apply quiet_bind (quiet_settle second)
    intro _ world
    rw [ends_write]
    split
    · exact still_workers rfl rfl
    · exact still_refl world
  · exact fun _ => quiet_poison

theorem quiet_abandon (epoch : Nat) (thrown : Thrown) :
    Quiet (abandon (recordingSetup setup) epoch thrown) := by
  apply quiet_bind (quiet_read _)
  intro active
  apply quiet_bind (quiet_whenever (quiet_rollback epoch))
  exact fun _ => quiet_whenever quiet_poison

theorem quiet_commit_stages (epoch stateCommit : Nat) (decision : Option SamplerDecisionV1) :
    Quiet (commitStages (recordingSetup setup) epoch stateCommit decision) := by
  apply quiet_bind (quiet_submit0 .commit fun _ => setup.stage0.commit epoch stateCommit)
  intro first
  apply quiet_bind (quiet_submit1 .commit fun _ => setup.stage1.commit epoch stateCommit)
  intro second
  apply quiet_bind (quiet_settle first)
  intro _
  apply quiet_bind (quiet_settle second)
  intro _
  cases decision with
  | none => exact quiet_pure ()
  | some decision => exact quiet_sampler _

theorem quiet_finish (txn : SessionTxnV1) (verified : Nat) (retained : Bool)
    (output1 : StageOutput) (decision : Option SamplerDecisionV1) :
    Quiet (finishTransaction (recordingSetup setup) txn verified retained output1 decision) := by
  apply quiet_bind (quiet_whenever (quiet_coordinate _ _))
  intro _
  apply quiet_bind fun _ => on_token_still _
  intro _
  apply quiet_bind (quiet_read _)
  intro coordinated
  apply quiet_bind (quiet_coordinate _ _)
  intro _
  apply quiet_bind (quiet_coordinate _ _)
  intro _
  apply quiet_bind (quiet_coordinate _ _)
  intro _
  apply quiet_bind (quiet_coordinate _ _)
  intro event
  apply quiet_bind
  · apply quiet_catching (quiet_commit_stages _ _ decision)
    exact fun thrown => quiet_bind quiet_poison fun _ => quiet_throwing thrown
  intro _
  apply quiet_bind
  · intro world
    rw [retainLogits, ends_write]
    split
    · exact still_workers rfl rfl
    · exact still_refl world
  exact fun _ => quiet_pure event

end Quiet

section Run
variable {σ₀ σ₁ : Type} {setup : Setup σ₀ σ₁} {txn : SessionTxnV1} {evalTokens : List Token}
variable {chunkTokens : Nat} {retainedDraft : Option RetainedDraftRequest}
variable {world : World (Recorded σ₀) (Recorded σ₁)}

/-- The rows of a transaction: drafts stand behind the first one. -/
structure Evaluated (evalTokens : List Token) (retainedDraft : Option RetainedDraftRequest)
    (rows : List Token) : Prop where
  length : rows.length = evalTokens.length
  first : rows.take 1 = evalTokens.take 1
  plain : retainedDraft = none → rows = evalTokens

theorem evaluated_self (evalTokens : List Token) (retainedDraft : Option RetainedDraftRequest) :
    Evaluated evalTokens retainedDraft evalTokens := ⟨rfl, rfl, fun _ => rfl⟩

/-- What the checks of a retained draft leave. -/
theorem retained_matched {kind : TxnKind} {request : RetainedDraftRequest}
    (matched : retainedMismatch kind evalTokens chunkTokens (some request) = false) :
    chunkTokens = 1 ∧ evalTokens.length = request.maxDraft + 1 := by
  simp only [retainedMismatch, Bool.or_eq_false_iff, bne_eq_false_iff_eq] at matched
  exact ⟨matched.1.1.1.2, matched.1.2⟩

theorem install_drafts_evaluated {kind : TxnKind}
    (matched : retainedMismatch kind evalTokens chunkTokens retainedDraft = false)
    (drafted : Option (Except Thrown (List Token))) :
    Ends (installDrafts (recordingSetup setup) evalTokens retainedDraft drafted)
      (fun rows after => Still world after ∧ Evaluated evalTokens retainedDraft rows)
      (fun _ after => Still world after) world := by
  have unchanged := evaluated_self evalTokens retainedDraft
  cases retainedDraft with
  | none => exact ⟨still_refl world, unchanged⟩
  | some request =>
      cases drafted with
      | none => exact ⟨still_refl world, unchanged⟩
      | some outcome =>
          obtain ⟨-, length⟩ := retained_matched matched
          unfold installDrafts
          rw [ends_bind, ends_settle]
          refine ⟨fun tokens _ => ?_, fun _ _ => still_refl world⟩
          simp only [ends_bind, ends_ensure, ends_pure]
          refine ⟨fun width => ⟨fun _ => ⟨still_refl world, ?_⟩, fun _ => still_refl world⟩,
            fun _ => still_refl world⟩
          have head : (evalTokens.take 1).length = 1 := by
            rw [List.length_take, length]
            omega
          constructor
          case length => rw [List.length_append, head, width, length, Nat.add_comm]
          case first => rw [List.take_append_of_le_length head.ge, List.take_take, min_self]
          case plain => exact fun absent => by cases absent

/-- The first chunk is the same whatever is drafted. -/
theorem pends_evaluated {kind : TxnKind}
    (matched : retainedMismatch kind evalTokens chunkTokens retainedDraft = false)
    {rows : List Token} (evaluated : Evaluated evalTokens retainedDraft rows)
    {pending : PendingStage0} {call : ExecuteCall}
    (pends : Pends txn evalTokens chunkTokens 0 pending call) :
    Pends txn rows chunkTokens 0 pending call := by
  refine { pends with tokens := ?_ }
  rw [pends.tokens]
  cases retainedDraft with
  | none => rw [evaluated.plain rfl]
  | some request =>
      have small : pending.count ≤ 1 := by
        rw [pends.count, (retained_matched matched).1]
        exact min_le_left _ _
      have cut := congrArg (List.take pending.count) evaluated.first
      rw [List.take_take, List.take_take, min_eq_left small] at cut
      rw [List.drop_zero, List.drop_zero, cut]

variable (counted : txn.evaluatedCount ≤ evalTokens.length) (some_ : 0 < txn.evaluatedCount)
  (positive : 0 < chunkTokens)
include counted some_ positive

theorem transact_given {kind : TxnKind}
    (matched : retainedMismatch kind evalTokens chunkTokens retainedDraft = false) :
    Ends (transact (recordingSetup setup) txn evalTokens chunkTokens retainedDraft)
      (fun result after => Evaluated evalTokens retainedDraft result.2.2 ∧
        Given txn result.2.2 world after ∧
        (retainedDraft = none → Done txn evalTokens world after txn.evaluatedCount))
      (fun _ after => ∃ rows, Evaluated evalTokens retainedDraft rows ∧
        Given txn rows world after) world := by
  have nothing : Done txn evalTokens world world 0 :=
    ⟨[], [], still_refl world, ⟨delivered_none, delivered_none, .nil, le_rfl⟩, rfl⟩
  have unchanged := evaluated_self evalTokens retainedDraft
  have early {after : World (Recorded σ₀) (Recorded σ₁)} (still : Still world after) :
      ∃ rows, Evaluated evalTokens retainedDraft rows ∧ Given txn rows world after :=
    ⟨evalTokens, unchanged, (nothing.still still).given⟩
  unfold transact
  rw [ends_bind]
  apply (quiet_submit_draft txn.epoch retainedDraft world).weaken
  swap
  · exact fun _ _ still => early still
  intro drafted first still
  rw [ends_bind]
  apply (quiet_whenever (quiet_bind (quiet_submit0 .prefetchTransaction fun polls =>
    setup.stage0.prefetchTransaction txn evalTokens polls) quiet_settle) first).weaken
  swap
  · exact fun _ _ again => early (Took.still still again)
  intro _ second again
  have waited : Took world second [] [] := Took.still still again
  have submitted := @submit_stage0_took _ _ setup txn evalTokens chunkTokens second 0
  apply submitted.proceed
  rintro pending third ⟨call, also, pends⟩
  have turns {rows : List Token} (evaluated : Evaluated evalTokens retainedDraft rows) :
      Turns txn rows chunkTokens world third pending := by
    have whole : txn.evaluatedCount ≤ rows.length := counted.trans evaluated.length.ge
    have flow : Flow txn rows [] [] 0 0 := ⟨delivered_none, delivered_none, .nil, le_rfl⟩
    exact ⟨[], call, [], waited.trans also,
      turn_begins whole positive flow rfl some_ (pends_evaluated matched evaluated pends)⟩
  rw [ends_bind]
  apply (install_drafts_evaluated matched drafted).weaken
  swap
  · exact fun _ _ same => ⟨evalTokens, unchanged, ((turns unchanged).still same).given⟩
  rintro rows fourth ⟨same, evaluated⟩
  have whole : txn.evaluatedCount ≤ rows.length := counted.trans evaluated.length.ge
  rw [ends_bind]
  apply (verify_rows_given whole positive ((turns evaluated).still same)).weaken
  swap
  · exact fun _ _ given => ⟨rows, evaluated, given⟩
  rintro ⟨output1, verified⟩ fifth ⟨given, done⟩
  -- what follows the loop hands no chunk to a stage
  rw [ends_bind]
  apply (quiet_ensure _ _ fifth).weaken
  swap
  · exact fun _ _ same => ⟨rows, evaluated, given.still same⟩
  intro _ sixth same
  rw [ends_bind, ends_read, ends_bind, ends_settle]
  refine ⟨?_, fun _ _ => ⟨rows, evaluated, given.still same⟩⟩
  rintro ⟨nextToken, decision⟩ -
  rw [ends_bind]
  apply (quiet_finish txn verified retainedDraft.isSome _ decision sixth).weaken
  swap
  · exact fun _ _ last => ⟨rows, evaluated, given.still (Took.still same last)⟩
  intro event seventh last
  rw [ends_pure]
  refine ⟨evaluated, given.still (Took.still same last), fun plain => ?_⟩
  have complete := done (by rw [plain]; rfl)
  rw [evaluated.plain plain] at complete
  exact complete.still (Took.still same last)

end Run

section Transaction
variable {σ₀ σ₁ : Type} {setup : Setup σ₀ σ₁} {world : World (Recorded σ₀) (Recorded σ₁)}

theorem on_token_coordinator (access : Weather → Proc Thrown CancellationToken Unit) :
    Ends (onToken (recordingSetup setup) access)
      (fun _ after => Still world after ∧ after.coordinator = world.coordinator)
      (fun _ after => Still world after) world := by
  have kept : Ends (onToken (recordingSetup setup) access)
      (fun _ after => after.coordinator = world.coordinator) (fun _ _ => True) world := by
    unfold Ends onToken
    cases world.cancellation with
    | none => exact rfl
    | some token =>
        dsimp only
        rcases (access _ _).1 with thrown | value
        · exact trivial
        · exact rfl
  exact ((on_token_still access).both kept).weaken (fun _ _ both => both) fun _ _ both => both.1

/-- The transaction an executor prepares for some rows. -/
def preparedTxn (engine : SessionTxnEngine) (kind : TxnKind) (evalTokens : List Token) :
    SessionTxnV1 := openedTxn engine kind (toUInt32 evalTokens.length)

theorem prepare_opens (kind : TxnKind) (evalTokens : List Token) (appendedCount : Nat) :
    Ends (coordinate (failed "prepare failed: ")
        (if kind = .appendKnown then prepareAppendKnown appendedCount (toUInt32 evalTokens.length)
         else prepare kind (toUInt32 evalTokens.length)))
      (fun _ after => Still world after ∧ 0 < toUInt32 evalTokens.length ∧
        after.coordinator.engine.txn = preparedTxn world.coordinator.engine kind evalTokens)
      (fun _ after => Still world after) world := by
  rw [ends_coordinate]
  split
  · next append =>
      apply (prepare_append_known_spec _ appendedCount (toUInt32 evalTokens.length)).weaken
      · rintro _ _ ⟨appendable, rfl⟩
        have covers := appendable.covers
        have nonempty := appendable.nonempty
        refine ⟨still_workers rfl rfl, by omega, ?_⟩
        rw [append]
        rfl
      · exact fun _ _ _ => still_workers rfl rfl
  · apply (prepare_spec _ kind (toUInt32 evalTokens.length)).weaken
    · rintro _ _ ⟨preparable, rfl⟩
      exact ⟨still_workers rfl rfl, Nat.pos_of_ne_zero preparable.nonempty, rfl⟩
    · exact fun _ _ _ => still_workers rfl rfl

/-- Whatever becomes of a transaction, what the stages were given is in order;
if it returns and drafts nothing, they were given all rows. -/
theorem run_transaction_given (kind : TxnKind) (evalTokens : List Token)
    (chunkTokens appendedCount : Nat) (retainedDraft : Option RetainedDraftRequest) :
    Ends (runTransaction (recordingSetup setup) kind evalTokens chunkTokens appendedCount
        retainedDraft)
      (fun result after => Evaluated evalTokens retainedDraft result.2.2 ∧
        Given (preparedTxn world.coordinator.engine kind evalTokens) result.2.2 world after ∧
        (retainedDraft = none → Done (preparedTxn world.coordinator.engine kind evalTokens)
          evalTokens world after (toUInt32 evalTokens.length)))
      (fun _ after => ∃ rows, Evaluated evalTokens retainedDraft rows ∧
        Given (preparedTxn world.coordinator.engine kind evalTokens) rows world after) world := by
  have early {after : World (Recorded σ₀) (Recorded σ₁)} (still : Still world after) :
      ∃ rows, Evaluated evalTokens retainedDraft rows ∧
        Given (preparedTxn world.coordinator.engine kind evalTokens) rows world after :=
    ⟨evalTokens, evaluated_self evalTokens retainedDraft, [], [], 0, 0, still,
      ⟨delivered_none, delivered_none, .nil, le_rfl⟩⟩
  unfold runTransaction ensureHealthy
  simp only [ends_bind, ends_read, ends_ensure]
  refine ⟨fun _ => ?_, fun _ => early (still_refl world)⟩
  apply (on_token_coordinator _).weaken
  swap
  · exact fun _ _ still => early still
  rintro _ polled ⟨still, same⟩
  simp only [ends_bind, ends_ensure]
  refine ⟨fun _ => ⟨fun nonzero => ⟨fun matched => ?_, fun _ => early still⟩,
    fun _ => early still⟩, fun _ => early still⟩
  apply (prepare_opens kind evalTokens appendedCount).weaken
  swap
  · exact fun _ _ again => early (Took.still still again)
  rintro _ opened ⟨again, some_, txn⟩
  rw [same] at txn
  have waited : Still world opened := Took.still still again
  rw [ends_bind, ends_read, ends_catching, txn]
  have counted : (preparedTxn world.coordinator.engine kind evalTokens).evaluatedCount ≤
      evalTokens.length := Nat.mod_le _ _
  apply (transact_given counted some_ (Nat.pos_of_ne_zero nonzero) matched).weaken
  · rintro result after ⟨evaluated, given, done⟩
    exact ⟨evaluated, given.earlier waited, fun plain => (done plain).earlier waited⟩
  · rintro thrown middle ⟨rows, evaluated, given⟩
    rw [ends_bind]
    apply (quiet_abandon _ thrown middle).weaken
    · intro _ after last
      rw [ends_throwing]
      exact ⟨rows, evaluated, (given.earlier waited).still last⟩
    · exact fun _ after last => ⟨rows, evaluated, (given.earlier waited).still last⟩

end Transaction

end Q38.ChunkDelivery
