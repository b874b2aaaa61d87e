import Q38Runtime.Coordination

/-! From the prepare to the first turn of the loop: drafting, prefetching and
the first chunk of stage 0, which is launched before the drafts are known. -/
namespace Q38.Preparation
open Contracts Cancellation Backend Sampling Transaction Executor SessionModel StageContracts
  Pipeline RowVerification Coordination Imperative

/-- The arguments as the operations of the executor make them. -/
structure Sound (attempt : Attempt) : Prop where
  nonempty : attempt.evalTokens ≠ []
  chunk : attempt.chunkTokens ≠ 0
  extent : attempt.evalTokens.length < 2 ^ 32
  listed : attempt.kind = .appendKnown ∨ attempt.kind = .decode ∨ attempt.kind = .speculative
  single : attempt.kind = .decode → attempt.evalTokens.length = 1
  retained : attempt.retainedDraft.isSome = true ↔ attempt.kind = .speculative
  matched : retainedMismatch attempt.kind attempt.evalTokens attempt.chunkTokens
    attempt.retainedDraft = false

/-- A retained draft asks for one token for each row behind the pending one. -/
structure Retains (attempt : Attempt) (request : RetainedDraftRequest) : Prop where
  kind : attempt.kind = .speculative
  single : attempt.chunkTokens = 1
  width : 0 < request.maxDraft
  extent : attempt.evalTokens.length = request.maxDraft + 1

theorem Sound.retains {attempt : Attempt} (sound : Sound attempt)
    {request : RetainedDraftRequest} (asked : attempt.retainedDraft = some request) :
    Retains attempt request := by
  have matched := sound.matched
  simp only [asked, retainedMismatch, Bool.or_eq_false_iff, bne_eq_false_iff_eq,
    beq_eq_false_iff_ne, ne_eq] at matched
  obtain ⟨⟨⟨⟨kind, single⟩, width⟩, extent⟩, -⟩ := matched
  exact ⟨kind, single, Nat.pos_of_ne_zero width, extent⟩

/-- The rows the answer of a draft leaves; an answer that is not installed
leaves those of the caller. -/
def draftedRows (attempt : Attempt) (drafted : Option (Except Thrown (List Token))) : List Token :=
  match attempt.retainedDraft, drafted with
  | some request, some (.ok tokens) =>
      if tokens.length = request.maxDraft then attempt.evalTokens.take 1 ++ tokens
      else attempt.evalTokens
  | _, _ => attempt.evalTokens

section Rows
variable {attempt : Attempt} {drafted : Option (Except Thrown (List Token))}

/-- Drafting replaces tokens, never the extent, and keeps the first row of a
speculation. -/
theorem drafted_rows_shape (sound : Sound attempt) :
    (draftedRows attempt drafted).length = attempt.evalTokens.length ∧
      (attempt.retainedDraft.isSome = true →
        (draftedRows attempt drafted).take 1 = attempt.evalTokens.take 1) ∧
      (attempt.retainedDraft = none → draftedRows attempt drafted = attempt.evalTokens) := by
  unfold draftedRows
  split
  · next request tokens asked =>
      have retains := sound.retains asked
      split
      · next width =>
          have first : (attempt.evalTokens.take 1).length = 1 := by
            rw [List.length_take, retains.extent]
            omega
          refine ⟨?_, fun _ => ?_, fun absent => by simp [absent] at asked⟩
          · rw [List.length_append, first, width, retains.extent, Nat.add_comm]
          · rw [List.take_append_of_le_length first.ge, List.take_take, min_self]
      · exact ⟨rfl, fun _ => rfl, fun _ => rfl⟩
  · exact ⟨rfl, fun _ => rfl, fun _ => rfl⟩

/-- The first chunk does not depend on what is drafted. -/
theorem submit_first {σ₀ σ₁ : Type} (setup : Setup σ₀ σ₁) (txn : SessionTxnV1)
    (sound : Sound attempt) :
    submitStage0 setup txn attempt.chunkTokens attempt.evalTokens 0 =
      submitStage0 setup txn attempt.chunkTokens (draftedRows attempt drafted) 0 := by
  obtain ⟨-, first, plain⟩ := @drafted_rows_shape _ drafted sound
  cases asked : attempt.retainedDraft with
  | none => rw [plain asked]
  | some request =>
      have single := (sound.retains asked).single
      have same (count : Nat) (small : count ≤ 1) :
          (draftedRows attempt drafted).take count = attempt.evalTokens.take count := by
        have cut := congrArg (List.take count) (first (by rw [asked]; rfl))
        rwa [List.take_take, List.take_take, min_eq_left small] at cut
      simp only [submitStage0, single, List.drop_zero]
      rw [same _ (min_le_left _ _)]

end Rows

section Prepared
variable {σ₀ σ₁ : Type} {model : StageModel} {setup : Setup σ₀ σ₁}
  (contract : PairContract model setup) (attempt : Attempt) (history : List Token)
  (txn : SessionTxnV1) (start : World σ₀ σ₁)

/-- A prepared transaction whose stages are ready for its first rows. -/
structure Prepared : Prop where
  sound : Sound attempt
  kind : txn.kind = attempt.kind
  evaluated : txn.evaluatedCount = attempt.evalTokens.length
  engaged : Engaged start.coordinator.engine txn
  valid : validateFrontiers start.coordinator.engine.frontiers = none
  room : start.coordinator.engine.frontiers.canonical + attempt.evalTokens.length ≤ maxUInt64
  covered : attempt.kind = .appendKnown →
    start.coordinator.engine.frontiers.target + attempt.evalTokens.length ≤
      start.coordinator.engine.frontiers.canonical
  vocabulary : start.coordinator.sampler.vocabulary = setup.options.vocabSize
  front : contract.front.ready history txn [] 0 start.worker0.state
  back : contract.back.ready history txn [] 0 start.worker1.state

variable {contract attempt history txn start} in
/-- What the loop is run on once the rows are known. -/
def Prepared.pass (prepared : Prepared contract attempt history txn start) (rows : List Token)
    (length : rows.length = attempt.evalTokens.length) : Pass σ₀ σ₁ :=
  { attempt.round history rows with
    txn := txn
    start := start
    evaluated := prepared.evaluated.trans length.symm
    positive := Nat.pos_of_ne_zero prepared.sound.chunk
    single := fun retained =>
      (prepared.sound.retains (Option.eq_some_of_isSome retained)).single
    speculative := by rw [prepared.kind]; exact prepared.sound.retained }

/-- Stage 1 was asked for drafts if they are wanted, and has answered. -/
def Drafted (drafted : Option (Except Thrown (List Token))) (world : World σ₀ σ₁) : Prop :=
  match attempt.retainedDraft, drafted with
  | none, none => contract.back.ready history txn [] 0 world.worker1.state
  | some request, some outcome => Lands
      (fun tokens state => contract.back.ready history txn [] 0 state ∧
        model.drafts request.pendingToken request.position request.maxDraft tokens)
      (fun _ state => ¬ Undisturbed contract start ∧
        Restores setup.stage1 contract.back.calm contract.back.idle history txn.epoch state)
      (outcome, world.worker1.state)
  | _, _ => False

variable {contract attempt history txn start}

theorem Drafted.restores1 {drafted : Option (Except Thrown (List Token))} {world : World σ₀ σ₁}
    (facts : Drafted contract attempt history txn start drafted world) :
    Restores setup.stage1 contract.back.calm contract.back.idle history txn.epoch
      world.worker1.state := by
  unfold Drafted at facts
  split at facts
  · exact contract.back.restores facts
  · next request outcome asked =>
      cases outcome with
      | ok tokens => exact contract.back.restores facts.1
      | error thrown => exact facts.2
  · exact facts.elim

theorem Drafted.carried {drafted : Option (Except Thrown (List Token))} {world after : World σ₀ σ₁}
    (facts : Drafted contract attempt history txn start drafted world)
    (same : after.worker1 = world.worker1) :
    Drafted contract attempt history txn start drafted after := by
  unfold Drafted at *
  rw [same]
  exact facts

theorem submit_draft_ends (prepared : Prepared contract attempt history txn start) :
    Ends (submitDraft setup txn.epoch attempt.retainedDraft)
      (fun drafted after => Working contract start after ∧ after.worker0 = start.worker0 ∧
        Drafted contract attempt history txn start drafted after)
      (fun _ _ => False) start := by
  unfold submitDraft Drafted
  cases asked : attempt.retainedDraft with
  | none => exact ⟨Working.refl contract start, rfl, prepared.back⟩
  | some request =>
      have inner := contract.back.draft request.pendingToken request.position request.maxDraft
        (start.polls setup) prepared.back (prepared.sound.retains asked).width
      apply (submit1_ends contract .draftRetained _ (by simp) inner).chain
      rintro outcome after ⟨working, same, lands⟩
      rw [ends_pure]
      refine ⟨working, same, ?_⟩
      cases outcome with
      | ok tokens => exact lands
      | error thrown =>
          refine ⟨fun undisturbed => lands.1 ⟨undisturbed.back, ?_⟩, lands.2⟩
          exact undisturbed_quiet undisturbed

/-- The prefetch of a long append. Whatever was drafted stays as it is. -/
theorem prefetch_ends (condition : Prop) [Decidable condition] (rows : List Token)
    (declined : Prop) {drafted : Option (Except Thrown (List Token))} {world : World σ₀ σ₁}
    (working : Working contract start world)
    (front : contract.front.ready history txn [] 0 world.worker0.state)
    (facts : Drafted contract attempt history txn start drafted world) :
    Ends (Proc.whenever condition do
        let prefetch ← submit0 setup .prefetchTransaction fun cancellation =>
          setup.stage0.prefetchTransaction txn rows cancellation
        Proc.settle prefetch)
      (fun _ after => Working contract start after ∧
        contract.front.ready history txn [] 0 after.worker0.state ∧
        Drafted contract attempt history txn start drafted after)
      (fun _ after => Reversible contract history txn.epoch declined start after) world := by
  rw [ends_whenever]
  constructor
  · intro _
    have inner := contract.front.prefetch rows (world.polls setup) front
    apply (submit0_ends contract .prefetchTransaction
      (fun cancellation => setup.stage0.prefetchTransaction txn rows cancellation)
      (by simp) inner).proceed
    rintro outcome after ⟨moved, same, lands⟩
    have kept := facts.carried same
    rw [ends_settle]
    constructor
    · rintro value rfl
      exact ⟨working.trans moved, lands, kept⟩
    · rintro thrown rfl
      refine ⟨working.trans moved, lands.2, kept.restores1, fun undisturbed => ?_⟩
      have here := working.calm undisturbed
      exact (lands.1 ⟨here.front, undisturbed_quiet here⟩).elim
  · intro _
    exact ⟨working, front, facts⟩

/-- Installing the drafts makes the rows of the caller those that are
evaluated; drafts the coordinator refuses drop the transaction. -/
theorem install_drafts_ends {world : World σ₀ σ₁}
    {drafted : Option (Except Thrown (List Token))}
    (facts : Drafted contract attempt history txn start drafted world) :
    Ends (installDrafts setup attempt.evalTokens attempt.retainedDraft drafted)
      (fun rows after => after = world ∧ rows = draftedRows attempt drafted ∧
        contract.back.ready history txn [] 0 world.worker1.state ∧
        Candidate model setup.options attempt rows)
      (fun _ after => after = world ∧
        (Undisturbed contract start → Undraftable model setup.options attempt)) world := by
  unfold Drafted at facts
  unfold installDrafts draftedRows Candidate
  cases asked : attempt.retainedDraft with
  | none =>
      cases drafted with
      | none =>
          simp only [asked] at facts ⊢
          exact ⟨rfl, rfl, facts, rfl⟩
      | some outcome => simp [asked] at facts
  | some request =>
      cases drafted with
      | none => simp [asked] at facts
      | some outcome =>
          simp only [asked] at facts ⊢
          rw [ends_bind, ends_settle]
          constructor
          · rintro tokens rfl
            obtain ⟨ready, drafts⟩ := facts
            have refused (uninstallable : installable setup.options request tokens = false) :
                Undraftable model setup.options attempt :=
              ⟨request, tokens, asked, drafts, uninstallable⟩
            simp only [ends_bind, ends_ensure, ends_pure]
            refine ⟨fun width => ⟨fun listed => ⟨trivial, ?_, ready, tokens, drafts, ?_, rfl⟩,
              fun unlisted => ⟨trivial, fun _ => refused ?_⟩⟩,
              fun narrow => ⟨trivial, fun _ => refused ?_⟩⟩
            · rw [if_pos width]
            · simp [installable, width, listed]
            · simp [installable, unlisted]
            · simp [installable, narrow]
          · rintro thrown rfl
            exact ⟨rfl, fun undisturbed => (facts.1 undisturbed).elim⟩

end Prepared

end Q38.Preparation
