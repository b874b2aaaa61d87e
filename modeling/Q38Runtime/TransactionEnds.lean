import Q38Runtime.ExecutedChunks

/-! How a transaction ends. A commit makes the states behind the accepted rows the committed
ones: the working states, those of the checkpoint, or those of evaluating the accepted rows once
more. A rollback and whatever throws leave the committed ones. -/
namespace Q38.TransactionEnds
open Contracts Imperative PleHash QsaSelection SpeculativeRows StateBanks PooledRows
  LayerSweeps CudaBackend CudaRows CudaTiles CudaChunks CudaTransactions CudaHistory
  CommittedStates ProvisionalRows
open PleReadAhead (hashesAfter)

variable {v : Values} {kernels : Kernels v} {options : CudaOptions} {zeros : Zeros v}
  {plan : Nat → Option Thrown} {fed rows : List (Fed v)}
  {device : Device (CudaStageBackend v)} {epoch : Nat}

section Checkpoint

/-- Stage 0 has a layer with embedding rows. -/
theorem front_ple (front : options.stage = .stage0) :
    ∃ layer ∈ stageLayers options.stage, layer.hasPle = true := by
  rw [front]
  exact ⟨bindLayer 1 1, by decide, rfl⟩

theorem checkpoint_ends (stands : Stands kernels options zeros device.contents fed)
    (provisional : Provisional kernels options zeros device.contents fed rows)
    (prefixTokens : Nat) :
    Ends (checkpointSpeculativePrefix options plan epoch prefixTokens)
      (fun _ after => Stands kernels options zeros after.contents fed ∧
        Provisional kernels options zeros after.contents fed rows)
      (fun _ after => Stands kernels options zeros after.contents fed) device := by
  have banks := stands.banks
  have holds := provisional.holds
  unfold checkpointSpeculativePrefix
  apply may_throw_then
  · exact fun _ _ => stands
  rw [ends_bind, ends_look, ends_bind, ends_ensure]
  refine ⟨fun checked => ?_, fun _ => stands⟩
  obtain ⟨front, -, -, -, -, processed, -⟩ := checked
  have whole : prefixTokens = rows.length := processed.trans provisional.processed
  obtain ⟨layer, listed, first⟩ := front_ple front
  unfold onMemory onGdn onPle StateBank.takeCheckpoint
  rw [ends_bind, ends_on_contents, ends_on_contents]
  apply ends_guarded
  · rintro -
    rw [ends_bind, ends_on_contents, ends_on_contents]
    apply ends_guarded
    · rintro -
      rw [ends_change]
      refine ⟨⟨stands.frontier, ⟨banks.extent, banks.capacity, banks.gdn, banks.ple, banks.rows⟩,
        stands.hash⟩, ?_⟩
      have opened := provisional.opened
      exact
        { tokens := provisional.tokens
          hashes := provisional.hashes
          reads := provisional.reads
          inputs := provisional.inputs
          hidden := provisional.hidden
          predicted := provisional.predicted
          epoch := provisional.epoch
          base := provisional.base
          active := provisional.active
          room := provisional.room
          opened := ⟨opened.gdn, opened.qsa, opened.ple⟩
          qsaEpoch := provisional.qsaEpoch
          evaluated := provisional.evaluated
          holds := ⟨holds.gdn, holds.ple, holds.rows⟩
          checkpoint := fun _ => by
            dsimp only
            rw [whole, List.take_length]
            exact ⟨Nat.le_refl _, congrArg some holds.gdn,
              congrArg some (holds.ple layer listed first)⟩
          hosted := provisional.hosted
          processed := provisional.processed }
    · intro _ _
      exact ⟨stands.frontier, ⟨banks.extent, banks.capacity, banks.gdn, banks.ple, banks.rows⟩,
        stands.hash⟩
  · intro _ _
    exact stands

end Checkpoint

section Rollback

/-- Calls that keep what is committed, and the transaction they find. -/
def standing (kernels : Kernels v) (options : CudaOptions) (zeros : Zeros v)
    (fed : List (Fed v)) : Frame (CudaStageBackend v) where
  kept before after := (Stands kernels options zeros before fed →
    Stands kernels options zeros after fed) ∧ after.provisionalEpoch = before.provisionalEpoch
  refl _ := ⟨fun stands => stands, rfl⟩
  trans first second := ⟨fun stands => second.1 (first.1 stands), second.2.trans first.2⟩

/-- A bank that is given up has the committed states still. -/
theorem gdn_given_up : Confined (standing kernels options zeros fed)
    (onMemory (onGdn (StateBank.rollback "GDN" epoch))) := by
  intro device
  unfold onMemory onGdn StateBank.rollback
  rw [ends_on_contents, ends_on_contents]
  apply ends_checked
  · rintro -
    refine ⟨fun stands => ?_, rfl⟩
    have banks := stands.banks
    exact ⟨stands.frontier, ⟨banks.extent, banks.capacity, banks.gdn, banks.ple, banks.rows⟩,
      stands.hash⟩
  · exact fun _ => ⟨fun stands => stands, rfl⟩

theorem ple_given_up : Confined (standing kernels options zeros fed)
    (onMemory (onPle (StateBank.rollback "PLE" epoch))) := by
  intro device
  unfold onMemory onPle StateBank.rollback
  rw [ends_on_contents, ends_on_contents]
  apply ends_checked
  · rintro -
    refine ⟨fun stands => ?_, rfl⟩
    have banks := stands.banks
    exact ⟨stands.frontier, ⟨banks.extent, banks.capacity, banks.gdn, banks.ple, banks.rows⟩,
      stands.hash⟩
  · exact fun _ => ⟨fun stands => stands, rfl⟩

theorem qsa_given_up : Confined (standing kernels options zeros fed)
    (onMemory (onQsa (QsaBank.rollback epoch))) := by
  intro device
  unfold onMemory onQsa QsaBank.rollback
  rw [ends_on_contents, ends_on_contents]
  apply ends_checked
  · rintro -
    refine ⟨fun stands => ?_, rfl⟩
    have banks := stands.banks
    exact ⟨stands.frontier, ⟨banks.extent, banks.capacity, banks.gdn, banks.ple, banks.rows⟩,
      stands.hash⟩
  · exact fun _ => ⟨fun stands => stands, rfl⟩

theorem beside_standing {α : Type} {call : Call v α} (confined : Confined aside call) :
    Confined (standing kernels options zeros fed) call := by
  intro device
  apply (confined device).weaken <;>
  · intro _ after beside
    refine ⟨fun stands => stands.beside beside.toMtpOnly, ?_⟩
    rw [beside.rest]

theorem draft_given_up : Confined (standing kernels options zeros fed) (do
    onMemory (onMtpQsa (QsaBank.rollback epoch))
    change forgetDraft) :=
  beside_standing (confined_bind (mtp_bank_confined _) fun _ =>
    confined_change fun _ => ⟨⟨rfl⟩, rfl⟩)

theorem rollback_ends (stands : Stands kernels options zeros device.contents fed) :
    Ends (rollback options plan epoch)
      (fun _ after => Stands kernels options zeros after.contents fed ∧
        after.contents.provisionalEpoch = 0)
      (fun _ after => Stands kernels options zeros after.contents fed) device := by
  unfold rollback
  apply may_throw_then
  · exact fun _ _ => stands
  rw [ends_bind, ends_look, ends_ite]
  constructor
  · -- there is nothing but a draft to give up
    intro idle
    have given_up : Confined (standing kernels options zeros fed)
        (Proc.whenever (device.contents.mtpTransactionActive = true) (do
          Proc.ensure (device.contents.mtpTransactionEpoch = epoch)
            (.runtimeError "retained MTP rollback epoch mismatch")
          onMemory (onMtpQsa (QsaBank.rollback device.contents.mtpTransactionEpoch))
          change forgetDraft)) :=
      confined_whenever (confined_bind (confined_ensure _ _) fun _ => draft_given_up)
    apply ((given_up ⟨device.contents, device.ticks + 1⟩).weaken (fun _ _ kept => kept)
      fun _ _ kept => kept.1 stands).chain
    rintro _ after ⟨kept, same⟩
    have stands := kept stands
    rw [ends_bind, ends_ensure]
    exact ⟨fun _ => ⟨⟨stands.frontier, stands.banks, stands.hash⟩, same.trans idle⟩,
      fun _ => stands⟩
  · intro _
    rw [ends_bind, ends_ensure]
    refine ⟨fun _ => ?_, fun _ => stands⟩
    have banks : Confined (standing kernels options zeros fed)
        (Proc.whenever (device.contents.statesActive = true) (do
          onMemory (onGdn (StateBank.rollback "GDN" epoch))
          onMemory (onQsa (QsaBank.rollback epoch))
          Proc.whenever (options.stage = .stage0)
            (onMemory (onPle (StateBank.rollback "PLE" epoch))))) :=
      confined_whenever (confined_bind gdn_given_up fun _ =>
        confined_bind qsa_given_up fun _ => confined_whenever ple_given_up)
    apply ((banks ⟨device.contents, device.ticks + 1⟩).weaken (fun _ _ kept => kept)
      fun _ _ kept => kept.1 stands).chain
    rintro _ after ⟨kept, -⟩
    have stands := kept stands
    have given_up : Confined (standing kernels options zeros fed)
        (Proc.whenever (device.contents.mtpTransactionActive = true) (do
          onMemory (onMtpQsa (QsaBank.rollback device.contents.mtpTransactionEpoch))
          change forgetDraft)) := confined_whenever draft_given_up
    apply ((given_up after).weaken (fun _ _ kept => kept) fun _ _ kept => kept.1 stands).chain
    rintro _ after ⟨kept, -⟩
    have stands := kept stands
    exact ⟨⟨stands.frontier, stands.banks, stands.hash⟩, rfl⟩

end Rollback

section Reset

theorem bank_reset_ends {α : Type} {zero : α} {bank : StateBank α} {ticks : Nat} {name : String}
    {returns : Unit → Device (StateBank α) → Prop} {throws : Thrown → Device (StateBank α) → Prop}
    (returned : ∀ after : Device (StateBank α), after.contents.current = zero → returns () after)
    (threw : ∀ thrown after, throws thrown after) :
    Ends (StateBank.reset plan name zero) returns throws ⟨bank, ticks⟩ := by
  unfold StateBank.reset
  rw [ends_bind, ends_look, ends_bind, ends_ensure]
  refine ⟨fun _ => ?_, fun _ => threw _ _⟩
  apply may_throw_then fun _ _ => threw _ _
  rw [ends_bind, ends_change]
  apply may_throw_then fun _ _ => threw _ _
  rw [ends_bind, ends_change, ends_bind]
  simp only [ends_whenever, ends_bind, ends_change, ends_may_throw_iff]
  refine ⟨fun _ => ⟨fun _ => returned _ ?_, fun _ _ => threw _ _⟩, fun _ => returned _ ?_⟩ <;>
    simp [StateBank.current]

/-- A session that is reset has no rows. -/
theorem reset_ends (stands : Stands kernels options zeros device.contents fed) :
    Ends (resetSession options plan zeros)
      (fun _ after => Stands kernels options zeros after.contents [] ∧
        after.contents.provisionalEpoch = 0)
      (fun _ _ => True) device := by
  have capacity := stands.banks.capacity
  have blank (cells : Cells v.Row v.Pooled) (pool : Nat → List v.Row → v.Pooled) :
      Keeps kQ38QsaBlockTokens pool cells [] := keeps_nil block_tokens_positive
  unfold resetSession
  apply may_throw_then fun _ _ => trivial
  rw [ends_bind, ends_look, ends_bind, ends_ensure]
  refine ⟨fun settled => ?_, fun _ => trivial⟩
  obtain ⟨idle, -, -⟩ := settled
  unfold onMemory onGdn onQsa onPle onMtpQsa
  rw [ends_bind, ends_on_contents, ends_on_contents]
  apply bank_reset_ends _ fun _ _ => trivial
  intro gdn zero
  rw [ends_bind, ends_on_contents, ends_on_contents]
  unfold QsaBank.reset
  apply ends_checked _ fun _ => trivial
  rintro -
  have hashed : Ends (Proc.whenever (options.stage = .stage0) (do
        onMemory (onPle (StateBank.reset plan "PLE" zeros.ple))
        change ({ · with committedPleHash := PleHash.reset options.hash })))
      (fun _ after => after.contents.provisionalEpoch = 0 ∧
        Lasting kernels options zeros after.contents.memory [] ∧
        (options.stage = .stage0 → after.contents.committedPleHash = hashBehind options
          ([] : List (Fed v))))
      (fun _ _ => True)
      ⟨{ device.contents with memory := { device.contents.memory with
          gdnState := gdn.contents
          qsaState := { device.contents.memory.qsaState with committed := 0 } } }, gdn.ticks⟩ := by
    rw [ends_whenever]
    constructor
    · intro front
      unfold onMemory onPle
      rw [ends_bind, ends_on_contents, ends_on_contents]
      apply bank_reset_ends _ fun _ _ => trivial
      intro ple zero'
      rw [ends_change]
      exact ⟨idle, ⟨rfl, capacity, zero, fun _ => zero', fun _ _ _ => blank _ _⟩, fun _ => rfl⟩
    · intro back
      exact ⟨idle, ⟨rfl, capacity, zero, fun front => absurd front back, fun _ _ _ => blank _ _⟩,
        fun front => absurd front back⟩
  apply (hashed.weaken (fun _ _ kept => kept) fun _ _ _ => trivial).chain
  rintro _ after ⟨idle, lasting, hash⟩
  have cleared : Ends (Proc.whenever (options.mtp = true) (onMemory (onMtpQsa QsaBank.reset)))
      (fun _ later => Aside after.contents later.contents)
      (fun _ later => Aside after.contents later.contents) after :=
    @confined_whenever _ aside _ _ _ (mtp_bank_confined _) after
  apply (cleared.weaken (fun _ _ beside => beside) fun _ _ _ => trivial).chain
  intro _ later beside
  apply may_throw_then fun _ _ => trivial
  rw [ends_change]
  rw [beside.rest]
  exact ⟨⟨rfl, ⟨lasting.extent, lasting.capacity, lasting.gdn, lasting.ple, lasting.rows⟩, hash⟩,
    idle⟩

end Reset

section Commit

/-- What a commit needs: the working states are those behind the accepted rows. -/
structure Publishable (kernels : Kernels v) (options : CudaOptions) (zeros : Zeros v)
    (stage : CudaStageBackend v) (fed accepted : List (Fed v)) : Prop where
  stands : Stands kernels options zeros stage fed
  base : stage.provisionalBase = fed.length
  holds : Holds kernels (stageLayers options.stage) stage.memory
    (statesBehind kernels options zeros (fed ++ accepted))
  hash : options.stage = .stage0 → ∀ fallback,
    stage.candidatePleHashes.getD (accepted.length - 1) fallback =
      hashBehind options (fed ++ accepted)

variable {accepted : List (Fed v)}

theorem Publishable.beside {before after : CudaStageBackend v}
    (publishable : Publishable kernels options zeros before fed accepted)
    (beside : Aside before after) : Publishable kernels options zeros after fed accepted where
  stands := publishable.stands.beside beside.toMtpOnly
  base := by
    rw [beside.rest]
    exact publishable.base
  holds := by
    have holds := publishable.holds
    rw [beside.rest]
    exact ⟨holds.gdn, holds.ple, holds.rows⟩
  hash front := by
    rw [beside.rest]
    exact publishable.hash front

/-- Some of the rows of a transaction, by the hashes of all of them. -/
theorem accepted_hash {count : Nat} (some_ : 0 < count) (inside : count ≤ rows.length)
    (fallback : PleHashState) :
    (hashesAfter (hashBehind options fed) (rows.map Prod.fst)).getD (count - 1) fallback =
      hashBehind options (fed ++ rows.take count) := by
  rw [hashes_after_get _ some_ (by rw [List.length_map]; exact inside), hash_behind_append,
    List.map_take]

theorem provisional_publishable {stage : CudaStageBackend v} (some_ : 0 < rows.length)
    (stands : Stands kernels options zeros stage fed)
    (provisional : Provisional kernels options zeros stage fed rows) :
    Publishable kernels options zeros stage fed rows := by
  refine ⟨stands, provisional.base, provisional.holds, fun front fallback => ?_⟩
  rw [provisional.hashes front, accepted_hash some_ (Nat.le_refl _), List.take_length]

/-- The rows of the attention that are stored are more than those that are accepted. -/
theorem rows_taken {layer : LayerWeights} {cells : Cells v.Row v.Pooled} {count : Nat}
    (keeps : Keeps kQ38QsaBlockTokens (kernels.pool layer.global) cells
      ((statesBehind kernels options zeros (fed ++ rows)).rows layer.stateLocal)) :
    Keeps kQ38QsaBlockTokens (kernels.pool layer.global) cells
      ((statesBehind kernels options zeros (fed ++ rows.take count)).rows layer.stateLocal) := by
  have split : fed ++ rows = (fed ++ rows.take count) ++ rows.drop count := by
    rw [List.append_assoc, List.take_append_drop]
  rw [split, states_append] at keeps
  obtain ⟨more, whole⟩ := @behind_rows _ kernels options (statesBehind kernels options zeros
    (fed ++ rows.take count)) (itemsFrom kernels options (hashBehind options
    (fed ++ rows.take count)) (rows.drop count)) layer.stateLocal
  rw [← whole] at keeps
  exact keeps.early

variable {count : Nat}

theorem restore_prefix_ends (stands : Stands kernels options zeros device.contents fed)
    (provisional : Provisional kernels options zeros device.contents fed rows)
    (some_ : 0 < count) (front : options.stage = .stage0)
    (taken : device.contents.speculativeCheckpointCount = count) :
    Ends (restorePrefix (v := v) options plan)
      (fun _ after => Publishable kernels options zeros after.contents fed (rows.take count))
      (fun _ _ => True) device := by
  have banks := stands.banks
  obtain ⟨inside, gdn, ple⟩ := provisional.checkpoint (by omega)
  rw [taken] at inside gdn ple
  unfold restorePrefix onMemory onGdn onPle StateBank.restoreCheckpoint
  rw [ends_bind, ends_on_contents, ends_on_contents]
  apply ends_guarded _ fun _ _ => trivial
  rintro -
  rw [ends_bind, ends_whenever]
  refine ⟨fun _ => ?_, fun back => absurd front back⟩
  rw [ends_on_contents, ends_on_contents]
  apply ends_guarded _ fun _ _ => trivial
  rintro -
  apply ends_may_throw fun _ _ => trivial
  have length : (rows.take count).length = count := by
    rw [List.length_take, Nat.min_eq_left inside]
  refine ⟨⟨stands.frontier, ⟨banks.extent, banks.capacity, ?_, fun _ => ?_, banks.rows⟩,
    stands.hash⟩, provisional.base, ⟨?_, fun _ _ _ => ?_, fun layer listed attention => ?_⟩,
    fun _ fallback => ?_⟩
  · exact (current_set _ _).trans banks.gdn
  · exact (current_set _ _).trans (banks.ple front)
  · dsimp only
    rw [working_set, gdn]
    rfl
  · dsimp only
    rw [working_set, ple]
    rfl
  · exact rows_taken (provisional.holds.rows layer listed attention)
  · rw [length]
    dsimp only
    rw [provisional.hashes front, accepted_hash some_ inside]

/-- The prefix of a speculation, ready to be evaluated once more. -/
structure Rewound (kernels : Kernels v) (options : CudaOptions) (zeros : Zeros v)
    (stage : CudaStageBackend v) (fed accepted : List (Fed v)) : Prop where
  stands : Stands kernels options zeros stage fed
  base : stage.provisionalBase = fed.length
  kind : stage.provisionalKind = .speculative
  opened : Opened options stage.memory
  epoch : stage.memory.qsaState.epoch = stage.provisionalEpoch
  holds : Holds kernels (stageLayers options.stage) stage.memory
    (statesBehind kernels options zeros fed)
  hashes : options.stage = .stage0 → stage.candidatePleHashes =
    hashesAfter (hashBehind options fed) (accepted.map Prod.fst)
  reads : options.stage = .stage0 → slice 0 accepted.length stage.pleReadRows =
    rowsEach options.hash (hashBehind options fed) (accepted.map Prod.fst)
  inputs : slice 0 accepted.length (inputRow kernels options stage.memory.workspace) =
    accepted.map Prod.snd

theorem rehash_prefix_ends (stands : Stands kernels options zeros device.contents fed)
    (recorded : Recorded kernels options device.contents fed rows)
    (base : device.contents.provisionalBase = fed.length)
    (opened : Opened options device.contents.memory)
    (bankEpoch : device.contents.memory.qsaState.epoch = device.contents.provisionalEpoch)
    (speculative : device.contents.provisionalKind = .speculative)
    (inside : count ≤ rows.length)
    (restored : device.contents.memory.gdnState.working =
      device.contents.memory.gdnState.current) :
    Ends (rehashPrefix options plan (device.contents.provisionalTokens.take count))
      (fun _ after => Rewound kernels options zeros after.contents fed (rows.take count) ∧
        after.contents.provisionalEpoch = device.contents.provisionalEpoch)
      (fun _ _ => True) device := by
  have banks := stands.banks
  have length : (rows.take count).length = count := by
    rw [List.length_take, Nat.min_eq_left inside]
  have inputs : slice 0 (rows.take count).length
      (inputRow kernels options device.contents.memory.workspace) =
      (rows.take count).map Prod.snd := by
    rw [length, ← slice_take inside, recorded.inputs speculative, List.map_take]
  have tokens : device.contents.provisionalTokens.take count =
      (rows.take count).map Prod.fst := by
    rw [recorded.tokens, List.map_take]
  unfold rehashPrefix
  rw [ends_whenever]
  constructor
  · intro front
    unfold onMemory onPle StateBank.restore
    rw [ends_bind, ends_on_contents, ends_on_contents]
    apply ends_guarded _ fun _ _ => trivial
    rintro -
    rw [ends_bind, ends_change, tokens]
    have last : ([] : List PleHashState).getLastD device.contents.committedPleHash =
        hashBehind options fed := stands.hash front
    apply (@start_ple_read_ends _ _ _ ⟨{ device.contents with
        memory := { device.contents.memory with
          pleState := device.contents.memory.pleState.setWorking
            device.contents.memory.pleState.current }
        candidatePleHashes := [] }, device.ticks + 1⟩ _ _ _ last).weaken _ fun _ _ _ => trivial
    rintro _ after made
    rw [made]
    refine ⟨⟨⟨stands.frontier, ⟨banks.extent, banks.capacity, banks.gdn, fun _ => ?_, banks.rows⟩,
      stands.hash⟩, base, speculative, ⟨opened.gdn, opened.qsa, opened.ple⟩,
      bankEpoch, ⟨?_, fun _ _ _ => ?_, banks.rows⟩, fun _ => rfl, fun _ => ?_,
      inputs⟩, rfl⟩
    · exact (current_set _ _).trans (banks.ple front)
    · exact restored.trans banks.gdn
    · exact (working_set _ _).trans (banks.ple front)
    · dsimp only
      rw [slice_put (by rw [rows_each_length, List.length_map])]
      apply List.take_of_length_le
      rw [rows_each_length, List.length_map]
  · intro back
    exact ⟨⟨stands, base, speculative, opened, bankEpoch,
      ⟨restored.trans banks.gdn, fun layer listed first => absurd (ple_on_front listed first) back,
        banks.rows⟩, fun front => absurd front back, fun front => absurd front back, inputs⟩, rfl⟩

theorem evaluate_prefix_ends (agree : Agree kernels)
    (limit : options.contextCapacity ≤ kQ38ContextLimit)
    (stands : Stands kernels options zeros device.contents fed)
    (provisional : Provisional kernels options zeros device.contents fed rows)
    (speculative : device.contents.provisionalKind = .speculative)
    (same : epoch = device.contents.provisionalEpoch)
    (some_ : 0 < count) (inside : count ≤ rows.length) :
    Ends (evaluatePrefix kernels options plan epoch count)
      (fun _ after => Publishable kernels options zeros after.contents fed (rows.take count))
      (fun _ _ => True) device := by
  have banks := stands.banks
  have opened := provisional.opened
  have holds := provisional.holds
  have room := provisional.room
  have length : (rows.take count).length = count := by
    rw [List.length_take, Nat.min_eq_left inside]
  unfold evaluatePrefix
  rw [ends_bind, ends_look, ends_bind]
  have restored : Ends (onMemory (onGdn (StateBank.restore plan "GDN")))
      (fun _ after => after.contents = { device.contents with
        memory := { device.contents.memory with
          gdnState := device.contents.memory.gdnState.setWorking
            device.contents.memory.gdnState.current } })
      (fun _ _ => True) device := by
    unfold onMemory onGdn StateBank.restore
    rw [ends_on_contents, ends_on_contents]
    exact ends_guarded (fun _ => rfl) fun _ _ => trivial
  apply restored.weaken _ fun _ _ _ => trivial
  rintro _ ⟨stage, ticks⟩ rfl
  have recorded := provisional.toRecorded
  have rewound := @rehash_prefix_ends _ _ _ _ plan _ rows ⟨{ device.contents
    with memory := { device.contents.memory with
      gdnState := device.contents.memory.gdnState.setWorking
        device.contents.memory.gdnState.current } }, ticks⟩ count
          ⟨stands.frontier, ⟨banks.extent, banks.capacity, (current_set _ _).trans banks.gdn,
          banks.ple,
      banks.rows⟩, stands.hash⟩ ⟨recorded.tokens, recorded.hashes, recorded.reads, recorded.inputs⟩
        provisional.base ⟨opened.gdn, opened.qsa, opened.ple⟩ provisional.qsaEpoch speculative
        inside ((working_set _ _).trans (current_set _ _).symm)
  apply rewound.chain
  rintro _ after ⟨rewound, sameEpoch⟩
  rw [ends_bind, ends_look]
  have holds := rewound.holds
  rw [← List.append_nil fed] at holds
  have ran := @run_chunk_ends _ _ _ _ plan (rows.take count) after.contents.pleReadRows
    (.speculative) agree limit epoch after.contents.provisionalBase false _ after.ticks _ []
    rewound.stands.banks rewound.opened (rewound.epoch.trans (sameEpoch.trans same.symm))
    rewound.base holds (by rw [length]; exact some_) (by rw [length, List.length_nil]; omega)
    (fun front => by
      rw [List.append_nil, List.length_nil]
      exact rewound.reads front) (by exact rewound.inputs)
  rw [length, List.length_nil, List.nil_append] at ran
  unfold onMemory
  rw [ends_bind, id, rewound.kind]
  apply (ends_on_contents _ _ _).mpr
  apply ran.weaken _ fun _ _ _ => trivial
  rintro _ later ⟨evaluated, stood, -⟩
  apply ends_may_throw fun _ _ => trivial
  have lasting := rewound.stands.banks.walked evaluated.walked (Nat.le_of_eq rewound.base.symm)
  refine ⟨⟨rewound.stands.frontier, lasting, rewound.stands.hash⟩, rewound.base, stood,
    fun front fallback => ?_⟩
  have hashed := @accepted_hash _ options fed (rows.take count) count some_
    (Nat.le_of_eq length.symm) fallback
  dsimp only
  rw [rewound.hashes front, length, hashed, List.take_take, Nat.min_self]

theorem shorten_states_ends (agree : Agree kernels)
    (limit : options.contextCapacity ≤ kQ38ContextLimit)
    (stands : Stands kernels options zeros device.contents fed)
    (provisional : Provisional kernels options zeros device.contents fed rows)
    (speculative : device.contents.provisionalKind = .speculative)
    (same : epoch = device.contents.provisionalEpoch)
    (some_ : 0 < count) (inside : count ≤ rows.length) :
    Ends (shortenStates kernels options plan epoch count)
      (fun _ after => Publishable kernels options zeros after.contents fed (rows.take count))
      (fun _ _ => True) device := by
  unfold shortenStates
  rw [ends_bind, ends_look, ends_ite]
  constructor
  · intro ahead
    simp only [onlineLookahead, id, Bool.and_eq_true, decide_eq_true_eq] at ahead
    exact restore_prefix_ends stands provisional some_ ahead.1.1.1 ahead.2
  · exact fun _ =>
      evaluate_prefix_ends agree limit stands provisional speculative same some_ inside

/-- A bank that commits has its working states as the committed ones. -/
theorem publish_ends
    (publishable : Publishable kernels options zeros device.contents fed accepted) :
    Ends (publish (v := v) options plan epoch accepted.length)
      (fun _ after => Stands kernels options zeros after.contents (fed ++ accepted) ∧
        after.contents.provisionalEpoch = 0)
      (fun _ _ => True) device := by
  have banks := publishable.stands.banks
  have holds := publishable.holds
  have extent : device.contents.memory.qsaState.committed + accepted.length =
      (fed ++ accepted).length := by
    rw [banks.extent, List.length_append]
  unfold publish
  rw [ends_bind]
  unfold onMemory onGdn StateBank.commit
  rw [ends_on_contents, ends_on_contents]
  apply ends_checked _ fun _ => trivial
  rintro -
  unfold onQsa QsaBank.commit
  rw [ends_bind, ends_on_contents, ends_on_contents]
  apply ends_checked _ fun _ => trivial
  rintro -
  have hashed : Ends (Proc.whenever (options.stage = .stage0) (do
        onMemory (onPle (StateBank.commit "PLE" epoch))
        change fun stage => { stage with
          committedPleHash :=
            stage.candidatePleHashes.getD (accepted.length - 1) stage.committedPleHash }))
      (fun _ after => Lasting kernels options zeros after.contents.memory (fed ++ accepted) ∧
        (options.stage = .stage0 →
          after.contents.committedPleHash = hashBehind options (fed ++ accepted)) ∧
        after.contents.provisionalBase = fed.length)
      (fun _ _ => True)
      ⟨{ device.contents with memory := { device.contents.memory with
          gdnState := { device.contents.memory.gdnState.closed with
            committed := 1 - device.contents.memory.gdnState.committed }
          qsaState := { device.contents.memory.qsaState.closed with
            committed := device.contents.memory.qsaState.committed + accepted.length } } },
        device.ticks⟩ := by
    rw [ends_whenever]
    constructor
    · intro front
      obtain ⟨layer, listed, first⟩ := front_ple front
      unfold onMemory onPle StateBank.commit
      rw [ends_bind, ends_on_contents, ends_on_contents]
      apply ends_checked _ fun _ => trivial
      rintro -
      rw [ends_change]
      exact ⟨⟨extent, banks.capacity, (current_committed _).trans holds.gdn,
        fun _ => (current_committed _).trans (holds.ple layer listed first), holds.rows⟩,
        fun _ => publishable.hash front _, publishable.base⟩
    · intro back
      exact ⟨⟨extent, banks.capacity, (current_committed _).trans holds.gdn,
        fun front => absurd front back, holds.rows⟩, fun front => absurd front back,
        publishable.base⟩
  apply hashed.chain
  rintro _ after ⟨lasting, hash, base⟩
  -- the rest is the MTP layer's
  rw [ends_bind, ends_look]
  have drafted : Confined (aside (v := v)) (Proc.whenever (after.contents.mtpTransactionActive =
    true) (do
      onMemory (onMtpQsa (QsaBank.commit after.contents.mtpTransactionEpoch
        after.contents.mtpTransactionRows))
      change dropDraft)) :=
    confined_whenever (confined_bind (mtp_bank_confined _) fun _ =>
      confined_change fun _ => ⟨⟨rfl⟩, rfl⟩)
  apply ((drafted after).weaken (fun _ _ beside => beside) fun _ _ _ => trivial).chain
  intro _ later beside
  have kept : Confined (⟨MtpOnly, fun _ => ⟨rfl⟩, MtpOnly.trans⟩ : Frame (CudaStageBackend v))
      (Proc.whenever (options.mtp = true) (do
        mayThrow plan
        onMemory (onWorkspace fun workspace =>
          { workspace with mtpPendingHc := workspace.mtpCandidateHc })
        mayThrow plan
        change fun stage => { stage with
          mtpPendingValid := stage.mtpCandidatePendingValid })) :=
    confined_whenever (confined_bind confined_may_throw fun _ => confined_bind
      (fun _ => ⟨rfl⟩) fun _ => confined_bind confined_may_throw fun _ =>
        confined_change fun _ => ⟨rfl⟩)
  apply ((kept later).weaken (fun _ _ beside => beside) fun _ _ _ => trivial).chain
  intro _ last mtp
  have mtp := beside.toMtpOnly.trans mtp
  rw [ends_change]
  have base : last.contents.provisionalBase = fed.length := by
    rw [mtp.rest]
    exact base
  have lasting : Lasting kernels options zeros last.contents.memory (fed ++ accepted) := by
    rw [mtp.rest]
    exact ⟨lasting.extent, lasting.capacity, lasting.gdn, lasting.ple, lasting.rows⟩
  refine ⟨⟨?_, lasting, fun front => ?_⟩, rfl⟩
  · dsimp only
    rw [base, List.length_append]
  · change last.contents.committedPleHash = _
    rw [mtp.rest]
    exact hash front

/-- A commit of a whole transaction, or of a prefix of a speculation. -/
theorem commit_ends (agree : Agree kernels) (limit : options.contextCapacity ≤ kQ38ContextLimit)
    (stands : Stands kernels options zeros device.contents fed)
    (provisional : Provisional kernels options zeros device.contents fed rows)
    (whole : count = rows.length ∨ device.contents.provisionalKind = .speculative) :
    Ends (commit kernels options plan epoch count)
      (fun _ after => Stands kernels options zeros after.contents (fed ++ rows.take count) ∧
        after.contents.provisionalEpoch = 0)
      (fun _ _ => True) device := by
  unfold commit
  apply may_throw_then fun _ _ => trivial
  rw [ends_bind, ends_look, ends_bind, ends_ensure]
  refine ⟨fun checked => ?_, fun _ => trivial⟩
  obtain ⟨same, -, some_, most, -⟩ := checked
  have some_ : 0 < count := Nat.pos_of_ne_zero some_
  have inside : count ≤ rows.length := provisional.processed ▸ most
  have length : (rows.take count).length = count := by
    rw [List.length_take, Nat.min_eq_left inside]
  have shortened : Ends (Proc.whenever (count < device.contents.provisionalProcessed)
        (shortenStates kernels options plan epoch count))
      (fun _ after => Publishable kernels options zeros after.contents fed (rows.take count))
      (fun _ _ => True) ⟨device.contents, device.ticks + 1⟩ := by
    rw [ends_whenever, provisional.processed]
    constructor
    · intro short
      rcases whole with all | speculative
      · exact absurd all (Nat.ne_of_lt short)
      · exact @shorten_states_ends _ _ _ _ _ _ _ ⟨device.contents, device.ticks + 1⟩ _ _ agree
          limit stands provisional speculative same some_ inside
    · intro long
      have all : rows.take count = rows := List.take_of_length_le (Nat.not_lt.mp long)
      rw [all]
      exact provisional_publishable (by omega) stands provisional
  apply shortened.chain
  intro _ after publishable
  have prepared : Ends (Proc.whenever (options.mtp = true) (do
        let stage ← look id
        if stage.provisionalKind = .appendKnown then
          Proc.ensure (count = stage.provisionalExpected ∧ stage.mtpCandidatePendingValid = true)
            (.runtimeError "chunked append MTP state is incomplete")
        else prepareMtpCommit kernels plan epoch count))
      (fun _ later => Aside after.contents later.contents)
      (fun _ later => Aside after.contents later.contents) after :=
    @confined_whenever _ aside _ _ _ (confined_bind (confined_look id) fun _ =>
      confined_ite (confined_ensure _ _) (prepare_commit_confined _)) after
  apply (prepared.weaken (fun _ _ beside => beside) fun _ _ _ => trivial).chain
  intro _ later beside
  have published := @publish_ends _ _ _ _ plan _ later epoch _ (publishable.beside beside)
  rw [length] at published
  exact published

end Commit

/-! Drafting leaves everything else alone. -/
section Draft

theorem mtp_only_bank {α : Type} (call : DeviceCall (QsaBank v.Row v.Pooled) α) :
    Confined mtpOnly (onMemory (onMtpQsa call)) := fun device =>
  (mtp_bank_confined call device).weaken (fun _ _ beside => beside.toMtpOnly)
    fun _ _ beside => beside.toMtpOnly

theorem draft_step_confined (firstPosition index : Nat) :
    Confined mtpMemory (draftStep kernels plan firstPosition epoch index) := by
  have bank {α : Type} {call : MemoryCall v α} (confined : Confined mtpBank call) :
      Confined mtpMemory call := by
    intro device
    apply (confined device).weaken <;>
    · intro _ after kept
      dsimp only [mtpBank] at kept
      dsimp only [mtpMemory]
      rw [kept]
  refine confined_bind confined_may_throw fun _ => confined_bind (confined_look _) fun _ => ?_
  refine confined_bind (bank (run_mtp_step_confined _ _ _)) fun _ => ?_
  exact confined_bind (confined_change fun _ => rfl) fun _ => bank (mtp_call_confined _)

theorem draft_confined (pendingToken : Token) (position maxDraft retained : Nat) :
    Confined mtpOnly (runMtpDraft kernels options plan pendingToken position maxDraft retained) :=
      by
  have space (update : Workspace v → Workspace v) :
      Confined (mtpOnly (v := v)) (onMemory (onWorkspace update)) := fun _ => ⟨rfl⟩
  have steps (stage : CudaStageBackend v) (epoch : Nat) :
      Confined (mtpOnly (v := v)) (onMemory (forEach
        (draftStep kernels plan stage.memory.mtpQsaState.committed epoch)
        (List.range maxDraft))) := by
    apply confined_on_contents (for_each_confined (fun index => draft_step_confined _ index) _)
    intro stage memory kept
    dsimp only [mtpMemory] at kept
    exact ⟨by rw [kept]⟩
  refine confined_bind confined_may_throw fun _ => confined_bind (confined_ensure _ _) fun _ => ?_
  refine confined_bind (confined_ensure _ _) fun _ => confined_bind (confined_look id) fun _ => ?_
  refine confined_bind (confined_ensure _ _) fun _ => confined_bind confined_may_throw fun _ => ?_
  refine confined_bind (space _) fun _ => confined_bind (mtp_only_bank _) fun _ => ?_
  refine confined_bind (confined_catching ?_ fun _ => ?_) fun _ => ?_
  · refine confined_bind (steps _ _) fun _ => confined_bind confined_may_throw fun _ => ?_
    exact confined_bind (space _) fun _ => confined_may_throw
  · exact confined_bind (mtp_only_bank _) fun _ => confined_throwing _
  · refine confined_bind (confined_ite ?_ (mtp_only_bank _)) fun _ => confined_look _
    exact confined_change fun _ => ⟨rfl⟩

end Draft

end Q38.TransactionEnds
