import Q38Runtime.Pipeline

/-! The pipeline loop of a transaction under a stage contract: what is verified
when it returns, and that both stages can be rolled back when it throws. -/
namespace Q38.RowVerification
open Contracts Cancellation Backend Sampling Executor SessionModel StageContracts Pipeline
  Imperative

/-- What the loop is run on. `start` is the world behind the prepare. -/
structure Pass (σ₀ σ₁ : Type) extends Round where
  txn : SessionTxnV1
  start : World σ₀ σ₁
  evaluated : txn.evaluatedCount = evalTokens.length
  positive : 0 < chunkTokens
  single : retained = true → chunkTokens = 1
  speculative : retained = true ↔ txn.kind = .speculative

section Pass
variable {σ₀ σ₁ : Type} {model : StageModel} {setup : Setup σ₀ σ₁}
  (contract : PairContract model setup) (pass : Pass σ₀ σ₁)

def Restores0 (world : World σ₀ σ₁) : Prop :=
  Restores setup.stage0 contract.front.calm contract.front.idle pass.history pass.txn.epoch
    world.worker0.state

def Restores1 (world : World σ₀ σ₁) : Prop :=
  Restores setup.stage1 contract.back.calm contract.back.idle pass.history pass.txn.epoch
    world.worker1.state

/-- A throw of the loop. -/
abbrev Dropped (after : World σ₀ σ₁) : Prop :=
  Reversible contract pass.history pass.txn.epoch (Refused model setup.options pass.toRound)
    pass.start after

/-- The last checkpoint of stage 0 while the chunk at `offset` is under way. -/
def Pass.mark (offset : Nat) : Nat := if pass.retained = true then offset else 0

def Pass.input (pending : PendingStage0) (polls : Option Polls) : StageInput where
  txn := pass.txn
  tokenIds := pending.tokens
  chunkOffset := pending.offset
  finalChunk := pending.finalChunk
  cancellation := polls

/-- The shape of a chunk the coordinator launches. -/
structure Chunk (pending : PendingStage0) : Prop where
  span : pass.Span pending.offset pending.count
  tokens : pending.tokens = (pass.evalTokens.drop pending.offset).take pending.count
  final : pending.finalChunk =
    Decidable.decide (pending.offset + pending.count = pass.evalTokens.length)

/-- Stage 0 has run the chunk; its answer is not read yet. -/
def Running0 (mark : Nat) (pending : PendingStage0) (world : World σ₀ σ₁) : Prop :=
  Lands
    (fun out state => contract.front.ready pass.history pass.txn
        (pass.evalTokens.take (pending.offset + pending.count)) mark state ∧
      ∃ polls, contract.front.output pass.history (pass.evalTokens.take pending.offset)
        (pass.input pending polls) out)
    (fun _ state => ¬ Undisturbed contract pass.start ∧
      Restores setup.stage0 contract.front.calm contract.front.idle pass.history pass.txn.epoch
        state)
    (pending.outcome, world.worker0.state)

/-- Stage 0 has run the chunk, and stage 1 the rows before it. -/
structure Launched (world : World σ₀ σ₁) (pending : PendingStage0) : Prop where
  chunk : Chunk pass pending
  working : Working contract pass.start world
  outcome : Running0 contract pass (pass.mark pending.offset) pending world
  back : contract.back.ready pass.history pass.txn (pass.evalTokens.take pending.offset) 0
    world.worker1.state
  reached : pass.retained = true → Reached model setup.options pass.toRound (pending.offset + 1)
  seen : ∀ offset count, pass.Span offset count → offset < pending.offset →
    Seen model setup.options pass.toRound offset count

variable {contract pass}

namespace Chunk
variable {pending : PendingStage0}

theorem count_positive (chunk : Chunk pass pending) : 0 < pending.count := by
  have := chunk.span
  have := pass.positive
  simp only [Round.Span] at *
  omega

theorem inside (chunk : Chunk pass pending) :
    pending.offset + pending.count ≤ pass.evalTokens.length := by
  have := chunk.span
  simp only [Round.Span] at this
  omega

theorem tokens_length (chunk : Chunk pass pending) : pending.tokens.length = pending.count := by
  have := chunk.inside
  rw [chunk.tokens, List.length_take, List.length_drop]
  omega

theorem rows (chunk : Chunk pass pending) :
    pass.evalTokens.take pending.offset ++ pending.tokens =
      pass.evalTokens.take (pending.offset + pending.count) := by
  rw [chunk.tokens, List.take_add]

theorem offset_length (chunk : Chunk pass pending) :
    (pass.evalTokens.take pending.offset).length = pending.offset := by
  have := chunk.inside
  rw [List.length_take]
  omega

theorem extends_rows (chunk : Chunk pass pending) (boundary : BoundaryBuffer)
    (needLogits : Bool) (polls : Option Polls)
    (lane : needLogits = true → pending.finalChunk = true ∧ pass.txn.kind ≠ .speculative) :
    Extends pass.txn (pass.evalTokens.take pending.offset) { pass.input pending polls with
      boundary := boundary, needLogits := needLogits } where
  owner := rfl
  offset := chunk.offset_length.symm
  nonempty empty := by
    have := chunk.tokens_length
    have := chunk.count_positive
    have : pending.tokens = [] := empty
    simp_all
  extent := by
    change (pass.evalTokens.take pending.offset).length + pending.tokens.length ≤ _
    rw [chunk.offset_length, chunk.tokens_length, pass.evaluated]
    exact chunk.inside
  final := by
    change pending.finalChunk = Decidable.decide
      ((pass.evalTokens.take pending.offset).length + pending.tokens.length = _)
    rw [chunk.offset_length, chunk.tokens_length, pass.evaluated]
    exact chunk.final
  logits := lane

end Chunk

theorem Running0.restores0 {mark : Nat} {world : World σ₀ σ₁} {pending : PendingStage0}
    (running : Running0 contract pass mark pending world) : Restores0 contract pass world := by
  unfold Running0 at running
  cases answer : pending.outcome with
  | ok out =>
      rw [answer] at running
      exact contract.front.restores running.1
  | error thrown =>
      rw [answer] at running
      exact running.2

theorem Launched.restores0 {world : World σ₀ σ₁} {pending : PendingStage0}
    (launched : Launched contract pass world pending) : Restores0 contract pass world :=
  launched.outcome.restores0

theorem Launched.restores1 {world : World σ₀ σ₁} {pending : PendingStage0}
    (launched : Launched contract pass world pending) : Restores1 contract pass world :=
  contract.back.restores launched.back

theorem Launched.waited {world after : World σ₀ σ₁} {pending : PendingStage0}
    (launched : Launched contract pass world pending) (waited : Waited contract world after) :
    Launched contract pass after pending := by
  obtain ⟨chunk, working, outcome, back, reached, seen⟩ := launched
  refine ⟨chunk, working.trans waited.toWorking, ?_, ?_, reached, seen⟩
  · rw [Running0, waited.same0]
    exact outcome
  · rw [waited.same1]
    exact back

theorem Launched.dropped {world : World σ₀ σ₁} {pending : PendingStage0}
    (launched : Launched contract pass world pending)
    (cause : Undisturbed contract pass.start →
    Refused model setup.options pass.toRound) :
    Dropped contract pass world :=
  ⟨launched.working, launched.restores0, launched.restores1, cause⟩

/-- A poll in the loop: it goes on with the chunk, or drops the transaction. -/
theorem launched_poll_ends {world : World σ₀ σ₁} {pending : PendingStage0}
    (launched : Launched contract pass world pending) :
    Ends (poll setup) (fun _ after => Launched contract pass after pending)
      (fun _ after => Dropped contract pass after) world := by
  apply (poll_ends contract).weaken
  · intro _ after waited
    exact launched.waited waited
  · intro _ after threw
    exact (launched.waited threw.1).dropped fun undisturbed =>
      (threw.2.1 (launched.working.calm undisturbed)).elim

theorem check_boundary_ends {world : World σ₀ σ₁} (input : StageInput)
    (frame : StageBoundaryFrameV1) :
    Ends (checkBoundary setup input.txn input.chunkOffset input.tokenIds.length frame)
      (fun _ after => after = world ∧ FrameAccepted setup input frame)
      (fun _ after => after = world ∧ ¬ FrameAccepted setup input frame) world := by
  simp only [checkBoundary, ends_bind, ends_accept, ends_ensure]
  refine ⟨fun valid => ⟨fun fits => ⟨trivial, valid, fits⟩, fun differs => ⟨trivial, ?_⟩⟩,
    fun message refused => ⟨trivial, ?_⟩⟩
  · exact fun accepted => differs accepted.2
  · intro accepted
    rw [accepted.1] at refused
    contradiction

/-- The first half of a turn. -/
theorem receive_ends {world : World σ₀ σ₁} {pending : PendingStage0}
    (launched : Launched contract pass world pending) :
    Ends (receiveStage0 setup pass.txn pending)
      (fun out after => Launched contract pass after pending ∧ pending.outcome = .ok out ∧
        ∃ polls, contract.front.output pass.history (pass.evalTokens.take pending.offset)
            (pass.input pending polls) out ∧
          FrameAccepted setup (pass.input pending polls) out.boundary.frame)
      (fun _ after => Dropped contract pass after) world := by
  apply (launched_poll_ends launched).chain
  intro _ first launched
  rw [ends_bind, ends_settle]
  constructor
  · intro out answer
    apply (launched_poll_ends launched).chain
    intro _ second launched
    have outcome := launched.outcome
    rw [Running0, answer] at outcome
    obtain ⟨-, polls, output⟩ := outcome
    have same : pending.count = (pass.input pending polls).tokenIds.length :=
      launched.chunk.tokens_length.symm
    rw [ends_bind, same]
    apply (check_boundary_ends (pass.input pending polls) out.boundary.frame).weaken
    · rintro _ after ⟨rfl, accepted⟩
      exact ⟨launched, answer, polls, output, accepted⟩
    · rintro _ after ⟨rfl, refused⟩
      apply launched.dropped
      intro undisturbed
      refine ⟨pending.offset, pending.count, launched.chunk.span, Or.inl fun fits => refused ?_⟩
      have extended := launched.chunk.extends_rows {} false polls nofun
      exact contract.framed undisturbed.front output extended (same ▸ fits)
  · intro thrown answer
    apply launched.dropped
    intro undisturbed
    have outcome := launched.outcome
    rw [Running0, answer] at outcome
    exact (outcome.1 undisturbed).elim

/-- Whether the chunk is asked for logits. -/
def needLogits (setup : Setup σ₀ σ₁) (pass : Pass σ₀ σ₁) (pending : PendingStage0) : Bool :=
  needsLogits setup.options pass.start.coordinator.sampler.sampled pass.txn.kind pending.finalChunk

theorem need_logits_lane (pending : PendingStage0)
    (asked : needLogits setup pass pending = true) :
    pending.finalChunk = true ∧ pass.txn.kind ≠ .speculative := by
  simp only [needLogits, needsLogits, Bool.and_eq_true, bne_iff_ne, ne_eq] at asked
  exact ⟨asked.1.2, asked.2⟩

variable (contract pass) in
/-- Stage 1 answered this chunk. -/
def Answered (pending : PendingStage0) (out : StageOutput) : Prop :=
  ∃ polls boundary, contract.back.output pass.history (pass.evalTokens.take pending.offset)
    { pass.input pending polls with
      boundary := boundary, needLogits := needLogits setup pass pending } out

variable (contract pass) in
/-- Stage 1 has run the chunk; its answer is not read yet. -/
def Running1 (pending : PendingStage0) (outcome : Except Thrown StageOutput)
    (world : World σ₀ σ₁) : Prop :=
  Lands
    (fun out state => contract.back.ready pass.history pass.txn
        (pass.evalTokens.take (pending.offset + pending.count)) 0 state ∧
      Answered contract pass pending out)
    (fun _ state => ¬ Undisturbed contract pass.start ∧
      Restores setup.stage1 contract.back.calm contract.back.idle pass.history pass.txn.epoch
        state)
    (outcome, world.worker1.state)

theorem Running1.restores1 {pending : PendingStage0} {outcome : Except Thrown StageOutput}
    {world : World σ₀ σ₁} (running : Running1 contract pass pending outcome world) :
    Restores1 contract pass world := by
  cases outcome with
  | ok out => exact contract.back.restores running.1
  | error thrown => exact running.2

theorem submit_stage1_ends {world : World σ₀ σ₁} {pending : PendingStage0} {out : StageOutput}
    {polls : Option Polls} (launched : Launched contract pass world pending)
    (output : contract.front.output pass.history (pass.evalTokens.take pending.offset)
      (pass.input pending polls) out)
    (accepted : FrameAccepted setup (pass.input pending polls) out.boundary.frame) :
    Ends (submitStage1 setup pass.txn pending out.boundary
        (needLogits setup pass pending))
      (fun outcome after => Working contract pass.start after ∧
        after.worker0 = world.worker0 ∧ Running1 contract pass pending outcome after)
      (fun _ _ => False) world := by
  have admitted := contract.link (needLogits setup pass pending)
    (world.polls setup) output accepted
  have extended := launched.chunk.extends_rows out.boundary
    (needLogits setup pass pending) (world.polls setup) (need_logits_lane pending)
  have inner := contract.back.execute launched.back extended admitted
  apply (submit1_ends contract .execute _ (by simp) inner).weaken
  · rintro outcome after ⟨working, same, lands⟩
    refine ⟨launched.working.trans working, same, ?_⟩
    cases outcome with
    | ok answer =>
        obtain ⟨ready, answered⟩ := lands
        refine ⟨?_, world.polls setup, out.boundary, answered⟩
        rw [← launched.chunk.rows]
        exact ready
    | error thrown =>
        refine ⟨fun undisturbed => lands.1 ?_, lands.2⟩
        have here := launched.working.calm undisturbed
        exact ⟨here.back, undisturbed_quiet here⟩
  · exact fun _ _ impossible => impossible

/-- The rows stage 0 has evaluated, with the checkpoint it keeps. -/
def FrontAt (contract : PairContract model setup) (pass : Pass σ₀ σ₁) (rows mark : Nat)
    (world : World σ₀ σ₁) : Prop :=
  contract.front.ready pass.history pass.txn (pass.evalTokens.take rows) mark world.worker0.state

/-- The checkpoint behind a chunk: kept if another chunk follows. -/
def Pass.nextMark (pass : Pass σ₀ σ₁) (pending : PendingStage0) : Nat :=
  if pass.retained = true ∧ pending.offset + pending.count < pass.txn.evaluatedCount then
    pending.offset + pending.count
  else pass.mark pending.offset

theorem checkpoint_ends {world : World σ₀ σ₁} {pending : PendingStage0}
    {outcome : Except Thrown StageOutput} (chunk : Chunk pass pending)
    (working : Working contract pass.start world)
    (front : FrontAt contract pass (pending.offset + pending.count) (pass.mark pending.offset)
      world)
    (running : Running1 contract pass pending outcome world) :
    Ends (checkpointRows setup pass.txn pass.retained (pending.offset + pending.count))
      (fun _ after => Working contract pass.start after ∧
        FrontAt contract pass (pending.offset + pending.count) (pass.nextMark pending) after ∧
        Running1 contract pass pending outcome after)
      (fun _ after => Dropped contract pass after) world := by
  rw [checkpointRows, ends_whenever]
  constructor
  · intro kept
    have length : (pass.evalTokens.take (pending.offset + pending.count)).length =
        pending.offset + pending.count := by
      rw [List.length_take]
      exact min_eq_left chunk.inside
    have nonempty : pass.evalTokens.take (pending.offset + pending.count) ≠ [] := by
      have := chunk.count_positive
      intro empty
      rw [empty] at length
      simp only [List.length_nil] at length
      omega
    have inner := contract.front.checkpoint front (pass.speculative.mp kept.1) nonempty
    rw [length] at inner
    have ran := submit0_ends contract .checkpointSpeculativePrefix
      (fun _ => setup.stage0.checkpointSpeculativePrefix pass.txn.epoch
        (pending.offset + pending.count)) (by simp) inner
    apply ran.proceed
    rintro answer after ⟨moved, same, lands⟩
    have running : Running1 contract pass pending outcome after := by
      rw [Running1, same]
      exact running
    rw [ends_settle]
    constructor
    · rintro value rfl
      refine ⟨working.trans moved, ?_, running⟩
      rw [Pass.nextMark, if_pos kept]
      exact lands
    · rintro thrown rfl
      exact ⟨working.trans moved, lands.2, running.restores1, fun undisturbed =>
        (lands.1 (working.calm undisturbed).front).elim⟩
  · intro last
    refine ⟨working, ?_, running⟩
    rw [Pass.nextMark, if_neg last]
    exact front

theorem submit_stage0_ends {world : World σ₀ σ₁} {offset mark : Nat}
    (working : Working contract pass.start world) (front : FrontAt contract pass offset mark world)
    (inside : offset < pass.evalTokens.length) (aligned : offset % pass.chunkTokens = 0) :
    Ends (submitStage0 setup pass.txn pass.chunkTokens pass.evalTokens offset)
      (fun pending after => Chunk pass pending ∧ pending.offset = offset ∧
        Working contract pass.start after ∧ after.worker1 = world.worker1 ∧
        Running0 contract pass mark pending after)
      (fun _ _ => False) world := by
  have chunk (outcome : Except Thrown StageOutput) : Chunk pass {
      offset := offset
      count := min pass.chunkTokens (pass.txn.evaluatedCount - offset)
      finalChunk := Decidable.decide
        (offset + min pass.chunkTokens (pass.txn.evaluatedCount - offset) = pass.txn.evaluatedCount)
      tokens := (pass.evalTokens.drop offset).take
        (min pass.chunkTokens (pass.txn.evaluatedCount - offset))
      outcome := outcome } := by
    rw [pass.evaluated]
    exact ⟨⟨inside, aligned, rfl⟩, rfl, rfl⟩
  have shape := chunk (.error .unknown)
  have extended := shape.extends_rows {} false (world.polls setup) nofun
  have inner := contract.front.execute front extended (contract.front.anyInput _ _ _)
  unfold submitStage0
  apply (submit0_ends contract .execute _ (by simp) inner).chain
  rintro outcome after ⟨moved, same, lands⟩
  rw [ends_pure]
  refine ⟨chunk outcome, rfl, working.trans moved, same, ?_⟩
  cases outcome with
  | ok out =>
      obtain ⟨ready, output⟩ := lands
      refine ⟨?_, world.polls setup, output⟩
      rw [← (chunk (.ok out)).rows]
      exact ready
  | error thrown =>
      refine ⟨fun undisturbed => lands.1 ?_, lands.2⟩
      have here := working.calm undisturbed
      exact ⟨here.front, undisturbed_quiet here⟩

/-- The chunk behind the current one, launched or missing. -/
def Ahead (contract : PairContract model setup) (pass : Pass σ₀ σ₁) (pending : PendingStage0)
    (next0 : Option PendingStage0) (world : World σ₀ σ₁) : Prop :=
  match next0 with
  | none => pending.offset + pending.count = pass.evalTokens.length ∧
      FrontAt contract pass pass.evalTokens.length (pass.nextMark pending) world
  | some next => Chunk pass next ∧ next.offset = pending.offset + pending.count ∧
      Running0 contract pass (pass.mark next.offset) next world

theorem Ahead.restores0 {pending : PendingStage0} {next0 : Option PendingStage0}
    {world : World σ₀ σ₁} (ahead : Ahead contract pass pending next0 world) :
    Restores0 contract pass world := by
  cases next0 with
  | none => exact contract.front.restores ahead.2
  | some next => exact ahead.2.2.restores0

theorem span_next {offset count : Nat} (span : pass.Span offset count)
    (more : offset + count < pass.evalTokens.length) :
    count = pass.chunkTokens ∧ (offset + count) % pass.chunkTokens = 0 := by
  obtain ⟨inside, aligned, size⟩ := span
  have whole : count = pass.chunkTokens := by omega
  refine ⟨whole, ?_⟩
  rw [whole, Nat.add_mod_right, aligned]

theorem submit_next_ends {world : World σ₀ σ₁} {pending : PendingStage0}
    {outcome : Except Thrown StageOutput} (chunk : Chunk pass pending)
    (working : Working contract pass.start world)
    (front : FrontAt contract pass (pending.offset + pending.count) (pass.nextMark pending) world)
    (running : Running1 contract pass pending outcome world) :
    Ends (submitNext setup pass.txn pass.chunkTokens pass.evalTokens
        (pending.offset + pending.count))
      (fun next0 after => Working contract pass.start after ∧
        Ahead contract pass pending next0 after ∧ Running1 contract pass pending outcome after)
      (fun _ after => Dropped contract pass after) world := by
  rw [submitNext, ends_ite, pass.evaluated]
  constructor
  · intro more
    have aligned := (span_next chunk.span more).2
    have submitted := submit_stage0_ends working front more aligned
    apply submitted.proceed
    rintro next after ⟨nextChunk, offset, moved, same, ran⟩
    rw [ends_pure]
    refine ⟨moved, ⟨nextChunk, offset, ?_⟩, ?_⟩
    · rw [offset]
      have marks : pass.nextMark pending = pass.mark (pending.offset + pending.count) := by
        rw [Pass.nextMark, Pass.mark, Pass.mark, pass.evaluated]
        by_cases retained : pass.retained = true <;> simp [retained, more]
      rw [← marks]
      exact ran
    · rw [Running1, same]
      exact running
  · intro last
    have all : pending.offset + pending.count = pass.evalTokens.length := by
      have := chunk.inside
      omega
    rw [ends_pure]
    exact ⟨working, ⟨all, all ▸ front⟩, running⟩

/-- A turn of the loop, up to the decision about the draft. -/
structure Forwarded (contract : PairContract model setup) (pass : Pass σ₀ σ₁) (pending : PendingStage0)
    (output1 : StageOutput) (next0 : Option PendingStage0) (world : World σ₀ σ₁) : Prop where
  working : Working contract pass.start world
  ahead : Ahead contract pass pending next0 world
  back : contract.back.ready pass.history pass.txn
    (pass.evalTokens.take (pending.offset + pending.count)) 0 world.worker1.state
  answered : Answered contract pass pending output1
  listed : inVocabulary setup.options.vocabSize output1.nextToken = true

theorem Answered.predicts {pending : PendingStage0} {out : StageOutput}
    (answered : Answered contract pass pending out) (chunk : Chunk pass pending)
    (open_ : ¬ (pass.txn.kind = .speculative ∧ pending.finalChunk = true)) :
    model.predicts (pass.historyAt (pending.offset + pending.count)) out.nextToken := by
  obtain ⟨polls, boundary, output⟩ := answered
  have predicted := contract.back.answers output open_
  rw [Round.historyAt, ← chunk.rows]
  exact predicted

theorem final_rows {pending : PendingStage0} (chunk : Chunk pass pending)
    (final : pending.finalChunk = true) :
    pending.offset + pending.count = pass.evalTokens.length ∧
      pass.evalTokens.take pending.offset ++ pending.tokens = pass.evalTokens := by
  have all : pending.offset + pending.count = pass.evalTokens.length := by
    rw [chunk.final] at final
    exact of_decide_eq_true final
  exact ⟨all, by rw [chunk.rows, all, List.take_length]⟩

theorem Answered.verdict {pending : PendingStage0} {out : StageOutput}
    (answered : Answered contract pass pending out) (chunk : Chunk pass pending)
    (kind : pass.txn.kind = .speculative) (final : pending.finalChunk = true) :
    model.accepts pass.history pass.evalTokens out.stateCommitCount ∧
      model.predicts (pass.historyAt out.stateCommitCount) out.nextToken := by
  obtain ⟨polls, boundary, output⟩ := answered
  have verdict := contract.back.verdict output kind final
  change model.accepts pass.history
      (pass.evalTokens.take pending.offset ++ pending.tokens) _ ∧
    model.predicts (pass.history ++
      (pass.evalTokens.take pending.offset ++ pending.tokens).take _) _ at verdict
  rw [(final_rows chunk final).2] at verdict
  exact verdict

/-- Where the stage is exact, its answer is the prediction behind the chunk,
also when the chunk ends a speculation whose drafts were all accepted. -/
theorem Answered.exact {pending : PendingStage0} {out : StageOutput}
    (answered : Answered contract pass pending out) (chunk : Chunk pass pending)
    (reached : pass.retained = true → Reached model setup.options pass.toRound (pending.offset + pending.count))
    (exact : model.Exact) :
    model.predicts (pass.historyAt (pending.offset + pending.count)) out.nextToken ∧
      (pass.txn.kind = .speculative → pending.finalChunk = true →
        out.stateCommitCount = pass.evalTokens.length) := by
  by_cases ends : pass.txn.kind = .speculative ∧ pending.finalChunk = true
  · obtain ⟨kind, final⟩ := ends
    obtain ⟨all, -⟩ := final_rows chunk final
    obtain ⟨accepted, predicted⟩ := answered.verdict chunk kind final
    have nonempty : pass.evalTokens ≠ [] := by
      have := chunk.count_positive
      intro empty
      simp only [empty, List.length_nil] at all
      omega
    have whole := exact accepted nonempty fun index positive below =>
      (reached (pass.speculative.mpr kind) index positive (all ▸ below)).1
    exact ⟨by rw [all, ← whole]; exact predicted, fun _ _ => whole⟩
  · exact ⟨answered.predicts chunk ends, fun kind final => (ends ⟨kind, final⟩).elim⟩

theorem retained_count {pending : PendingStage0} (chunk : Chunk pass pending)
    (retained : pass.retained = true) : pending.count = 1 := by
  have span := chunk.span
  simp only [Round.Span, pass.single retained] at span
  omega

theorem Launched.reached_end {world : World σ₀ σ₁} {pending : PendingStage0}
    (launched : Launched contract pass world pending) (retained : pass.retained = true) :
    Reached model setup.options pass.toRound (pending.offset + pending.count) := by
  rw [retained_count launched.chunk retained]
  exact launched.reached retained

/-- The second half of a turn. -/
theorem forward_ends {world : World σ₀ σ₁} {pending : PendingStage0} {out : StageOutput}
    {polls : Option Polls} (launched : Launched contract pass world pending)
    (answer : pending.outcome = .ok out)
    (output : contract.front.output pass.history (pass.evalTokens.take pending.offset)
      (pass.input pending polls) out)
    (accepted : FrameAccepted setup (pass.input pending polls) out.boundary.frame) :
    Ends (forwardToStage1 setup pass.txn pass.chunkTokens pass.retained pass.evalTokens pending
        out.boundary)
      (fun result after => Forwarded contract pass pending result.1 result.2 after)
      (fun _ after => Dropped contract pass after) world := by
  have chunk := launched.chunk
  have need : needsLogits setup.options world.coordinator.sampler.sampled pass.txn.kind
      pending.finalChunk = needLogits setup pass pending := by
    rw [needLogits, launched.working.coordinator]
  unfold forwardToStage1
  rw [ends_bind, ends_read, need]
  have submitted := submit_stage1_ends launched output accepted
  apply submitted.proceed
  rintro outcome first ⟨working, same, running⟩
  have front : FrontAt contract pass (pending.offset + pending.count) (pass.mark pending.offset)
      first := by
    have ran := launched.outcome
    rw [Running0, answer] at ran
    rw [FrontAt, same]
    exact ran.1
  apply (checkpoint_ends chunk working front running).chain
  rintro _ second ⟨working, front, running⟩
  apply (submit_next_ends chunk working front running).chain
  rintro next0 third ⟨working, ahead, running⟩
  have drop (cause : Undisturbed contract pass.start →
    Refused model setup.options pass.toRound) :
      Dropped contract pass third :=
    ⟨working, ahead.restores0, running.restores1, cause⟩
  rw [ends_bind, ends_settle]
  constructor
  swap
  · rintro thrown rfl
    exact drop fun undisturbed => (running.1 undisturbed).elim
  rintro output1 rfl
  obtain ⟨back, answered⟩ := running
  have kept {after : World σ₀ σ₁} (waited : Waited contract third after) :
      Working contract pass.start after ∧ Ahead contract pass pending next0 after ∧
        contract.back.ready pass.history pass.txn
          (pass.evalTokens.take (pending.offset + pending.count)) 0 after.worker1.state := by
    refine ⟨working.trans waited.toWorking, ?_, by rw [waited.same1]; exact back⟩
    cases next0 <;> simpa only [Ahead, FrontAt, Running0, waited.same0] using ahead
  apply ((poll_ends contract).weaken (fun _ _ waited => kept waited) _).chain
  · rintro _ fourth ⟨working, ahead, back⟩
    rw [ends_bind, ensureVocabulary, ends_ensure]
    constructor
    · intro listed
      exact ⟨working, ahead, back, answered, listed⟩
    · intro unlisted
      refine ⟨working, ahead.restores0, contract.back.restores back, fun undisturbed => ?_⟩
      refine ⟨pending.offset, pending.count, chunk.span, Or.inr ⟨launched.reached_end,
        output1.nextToken, ?_, Bool.eq_false_iff.mpr unlisted⟩⟩
      exact (answered.exact chunk launched.reached_end
        (contract.back.calmExact undisturbed.back)).1
  · intro _ fourth threw
    obtain ⟨working', ahead, back⟩ := kept threw.1
    exact ⟨working', ahead.restores0, contract.back.restores back, fun undisturbed =>
      (threw.2.1 (working.calm undisturbed)).elim⟩

/-- How the loop ends: with the last chunk, or at a draft it does not keep. -/
inductive Ending (contract : PairContract model setup) (pass : Pass σ₀ σ₁) (output1 : StageOutput)
    (world : World σ₀ σ₁) : Nat → Prop
  | complete {pending : PendingStage0} (mark : Nat) (chunk : Chunk pass pending)
      (last : pending.offset + pending.count = pass.evalTokens.length)
      (answered : Answered contract pass pending output1)
      (front : FrontAt contract pass pass.evalTokens.length mark world) :
      Ending contract pass output1 world pass.evalTokens.length
  | early {verified : Nat} (retained : pass.retained = true)
      (cut : verified < pass.evalTokens.length)
      (front : FrontAt contract pass (verified + 1) verified world)
      (count : output1.stateCommitCount = verified)
      (predicted : model.predicts (pass.historyAt verified) output1.nextToken)
      (dropped : output1.nextToken ≠ pass.evalTokens.getD verified 0 ∨
        isStop setup.options (pass.evalTokens.getD verified 0) = true) :
      Ending contract pass output1 world verified

structure Verified (contract : PairContract model setup) (pass : Pass σ₀ σ₁)
    (result : StageOutput × Nat) (world : World σ₀ σ₁) : Prop where
  working : Working contract pass.start world
  positive : 0 < result.2
  back : contract.back.ready pass.history pass.txn (pass.evalTokens.take result.2) 0
    world.worker1.state
  listed : inVocabulary setup.options.vocabSize result.1.nextToken = true
  reached : pass.retained = true → Reached model setup.options pass.toRound result.2
  seen : ∀ offset count, pass.Span offset count → offset < result.2 →
    Seen model setup.options pass.toRound offset count
  ending : Ending contract pass result.1 world result.2

/-- The chunks up to and including the current one. -/
theorem seen_next {world : World σ₀ σ₁} {pending : PendingStage0} {output1 : StageOutput}
    {next0 : Option PendingStage0} {after : World σ₀ σ₁}
    (launched : Launched contract pass world pending) (fits : model.fits pending.count)
    (forwarded : Forwarded contract pass pending output1 next0 after) {offset count : Nat}
    (span : pass.Span offset count) (below : offset < pending.offset + pending.count) :
    Seen model setup.options pass.toRound offset count := by
  by_cases earlier : offset < pending.offset
  · exact launched.seen offset count span earlier
  · have here := launched.chunk.span
    have same : offset = pending.offset := by
      -- both are multiples of the chunk length, and less than one chunk apart
      obtain ⟨_, alignedSpan, _⟩ := span
      obtain ⟨_, aligned, size⟩ := here
      have near : offset - pending.offset < pass.chunkTokens := by omega
      have multiple : (offset - pending.offset) % pass.chunkTokens = 0 :=
        Nat.sub_mod_eq_zero_of_mod_eq (alignedSpan.trans aligned.symm)
      rw [Nat.mod_eq_of_lt near] at multiple
      omega
    subst same
    have counts : count = pending.count := span.2.2.trans here.2.2.symm
    subst counts
    exact ⟨fits, fun exact => ⟨output1.nextToken,
      (forwarded.answered.exact launched.chunk launched.reached_end exact).1, forwarded.listed⟩⟩

/-- A kept draft carries the loop to the next row. -/
theorem reached_next {pending next : PendingStage0} {output1 : StageOutput}
    (reached : Reached model setup.options pass.toRound (pending.offset + pending.count))
    (answered : Answered contract pass pending output1) (chunk : Chunk pass pending)
    (more : pending.offset + pending.count < pass.evalTokens.length)
    (offset : next.offset = pending.offset + pending.count)
    (keeps : keepsDraft setup.options output1
      (pass.evalTokens.getD (pending.offset + pending.count) 0) = true) :
    Reached model setup.options pass.toRound (next.offset + 1) := by
  intro index positive below
  by_cases earlier : index < pending.offset + pending.count
  · exact reached index positive earlier
  · have same : index = pending.offset + pending.count := by omega
    subst same
    simp only [keepsDraft, Bool.and_eq_true, beq_iff_eq, Bool.not_eq_true'] at keeps
    have open_ : ¬ (pass.txn.kind = .speculative ∧ pending.finalChunk = true) := by
      rintro ⟨-, final⟩
      have := (final_rows chunk final).1
      omega
    rw [← keeps.1]
    exact ⟨answered.predicts chunk open_, by rw [keeps.1]; exact keeps.2⟩

theorem verify_rows_ends {fuel : Nat} {world : World σ₀ σ₁} {pending : PendingStage0}
    (launched : Launched contract pass world pending)
    (enough : pass.evalTokens.length - pending.offset ≤ fuel) :
    Ends (verifyRows setup pass.txn pass.chunkTokens pass.retained pass.evalTokens fuel pending)
      (fun result after => Verified contract pass result after)
      (fun _ after => Dropped contract pass after) world := by
  induction fuel generalizing world pending with
  | zero =>
      have := launched.chunk.span.1
      omega
  | succ fuel ih =>
      unfold verifyRows
      apply (receive_ends launched).chain
      rintro out first ⟨launched, answer, polls, output, accepted⟩
      have chunk := launched.chunk
      have fits : model.fits pending.count := by
        have fitting := contract.fitting output accepted
        change model.fits pending.tokens.length at fitting
        rwa [chunk.tokens_length] at fitting
      apply (forward_ends launched answer output accepted).chain
      rintro ⟨output1, next0⟩ second forwarded
      have positive : 0 < pending.offset + pending.count := by
        have := chunk.count_positive
        omega
      have seen : ∀ offset count, pass.Span offset count →
          offset < pending.offset + pending.count → Seen model setup.options pass.toRound offset count :=
        fun _ _ span below => seen_next launched fits forwarded span below
      cases next0 with
      | none =>
          obtain ⟨all, front⟩ := forwarded.ahead
          rw [ends_pure, pass.evaluated]
          refine { working := forwarded.working, positive := all ▸ positive, back := ?_
                   listed := forwarded.listed, reached := fun retained => all ▸ launched.reached_end retained
                   seen := fun offset count span _ => seen offset count span (all ▸ span.1)
                   ending := .complete _ chunk all forwarded.answered front }
          rw [← all]
          exact forwarded.back
      | some next =>
          obtain ⟨nextChunk, offset, running⟩ := forwarded.ahead
          have more : pending.offset + pending.count < pass.evalTokens.length :=
            offset ▸ nextChunk.span.1
          have shorter : pass.evalTokens.length - next.offset ≤ fuel := by
            have := chunk.count_positive
            omega
          have carried {third : World σ₀ σ₁} (working : Working contract pass.start third)
              (running : Running0 contract pass (pass.mark next.offset) next third)
              (back : contract.back.ready pass.history pass.txn
                (pass.evalTokens.take (pending.offset + pending.count)) 0 third.worker1.state)
              (reached : pass.retained = true → Reached model setup.options pass.toRound (next.offset + 1)) :
              Launched contract pass third next :=
            { chunk := nextChunk, working := working, outcome := running
              back := offset ▸ back, reached := reached, seen := offset ▸ seen }
          rw [ends_ite]
          constructor
          · intro retained
            rw [ends_ite]
            constructor
            · intro keeps
              have reached := reached_next (launched.reached_end retained) forwarded.answered chunk
                more offset keeps
              have inner := contract.back.reconcile pending.offset forwarded.back
              have submitted := submit1_ends contract .reconcileRetainedDraft
                (fun _ => setup.stage1.reconcileRetainedDraft pass.txn.epoch pending.offset)
                (by simp) inner
              apply submitted.proceed
              rintro reconciled third ⟨moved, same, lands⟩
              have working := forwarded.working.trans moved
              have running : Running0 contract pass (pass.mark next.offset) next third := by
                rw [Running0, same]
                exact running
              rw [ends_bind, ends_settle]
              constructor
              · rintro value rfl
                exact ih (carried working running lands fun _ => reached) shorter
              · rintro thrown rfl
                exact ⟨working, running.restores0, lands.2, fun undisturbed =>
                  (lands.1 (forwarded.working.calm undisturbed).back).elim⟩
            · intro drops
              rw [ends_bind, ends_settle]
              constructor
              · intro lookahead answer
                rw [Running0, answer] at running
                rw [ends_pure]
                have open_ : ¬ (pass.txn.kind = .speculative ∧ pending.finalChunk = true) := by
                  rintro ⟨-, final⟩
                  have := (final_rows chunk final).1
                  omega
                refine { working := forwarded.working, positive := positive, back := forwarded.back
                         listed := forwarded.listed
                         reached := fun retained => launched.reached_end retained
                         seen := seen, ending := .early retained more ?_ rfl
                           (forwarded.answered.predicts chunk open_) ?_ }
                · have ready := running.1
                  rw [retained_count nextChunk retained, offset, Pass.mark, if_pos retained] at ready
                  exact ready
                · simp only [keepsDraft, Bool.and_eq_true, beq_iff_eq, Bool.not_eq_true',
                    not_and] at drops
                  by_cases same : output1.nextToken =
                      pass.evalTokens.getD (pending.offset + pending.count) 0
                  · exact Or.inr (by simpa using drops same)
                  · exact Or.inl same
              · intro thrown answer
                rw [Running0, answer] at running
                exact ⟨forwarded.working, running.2, contract.back.restores forwarded.back,
                  fun undisturbed => (running.1 undisturbed).elim⟩
          · intro plain
            exact ih (carried forwarded.working running forwarded.back
              fun retained => (plain retained).elim) shorter

end Pass

end Q38.RowVerification
