import Q38Runtime.ProvisionalRows

/-! `execute` as a whole: what it leaves, and what it answers. A boundary has the last hidden
states of its rows; a prediction is made of that of the last row, as long as the results of a
chunk are read where they were written. -/
namespace Q38.ExecutedChunks
open Contracts Imperative PleHash QsaSelection SpeculativeRows StateBanks PooledRows
  LayerSweeps CudaBackend CudaRows CudaTiles CudaChunks CudaTransactions CudaHistory
  CommittedStates ProvisionalRows

variable {v : Values} {kernels : Kernels v} {options : CudaOptions} {zeros : Zeros v}
  {plan : Nat → Option Thrown} {fed rows : List (Fed v)} {input : CudaInput v}
  {device : Device (CudaStageBackend v)}

/-! Only evaluating rows writes the predictions. -/
section Predictions

def samePredictions : Frame (CudaStageBackend v) where
  kept before after := after.memory.workspace.predictions = before.memory.workspace.predictions
  refl _ := rfl
  trans first second := second.trans first

theorem banks_same {σ α : Type} {view : Memory v → σ} {store : σ → Memory v → Memory v}
    (call : DeviceCall σ α) (each : ∀ memory part, (store part memory).workspace =
      memory.workspace) :
    Confined samePredictions (onMemory (onContents view store call)) := by
  apply @confined_on_contents _ _ _ _ ⟨fun before after : Memory v =>
    after.workspace = before.workspace, fun _ => rfl, fun first second => second.trans first⟩ _ _ _
  · exact confined_on_contents (confined_anything call) fun memory part _ => each memory part
  · intro stage memory kept
    exact congrArg Workspace.predictions kept

theorem aside_same {α : Type} {call : Call v α} (confined : Confined aside call) :
    Confined samePredictions call := by
  intro device
  apply (confined device).weaken <;>
  · intro _ after beside
    change after.contents.memory.workspace.predictions = _
    rw [beside.workspace]

theorem workspace_same {update : Workspace v → Workspace v}
    (each : ∀ workspace, (update workspace).predictions = workspace.predictions) :
    Confined samePredictions (onMemory (onWorkspace update)) := by
  intro device
  unfold onMemory onWorkspace
  rw [ends_on_contents, ends_change]
  exact each _

theorem begin_same : Confined samePredictions (beginTransaction options plan input) := by
  refine confined_bind (confined_look id) fun _ => confined_bind (confined_ensure _ _) fun _ => ?_
  refine confined_bind (confined_change fun _ => rfl) fun _ => ?_
  refine confined_bind (confined_ensure _ _) fun _ => ?_
  refine confined_bind (confined_whenever (confined_change fun _ => rfl)) fun _ => ?_
  refine confined_bind (confined_change fun _ => rfl) fun _ => confined_bind ?_ fun _ => ?_
  · refine confined_bind (banks_same _ fun _ _ => rfl) fun _ => ?_
    refine confined_bind (banks_same _ fun _ _ => rfl) fun _ => ?_
    exact confined_whenever (banks_same _ fun _ _ => rfl)
  · exact confined_bind (confined_change fun _ => rfl) fun _ =>
      aside_same (seed_append_confined input.txn.kind)

theorem hash_same (tokens : List Token) (offset : Nat) :
    Confined samePredictions (startPleRead (v := v) options plan tokens offset) := by
  refine confined_bind (confined_look id) fun stage => confined_bind ?_ fun rows =>
    confined_bind confined_may_throw fun _ => confined_change fun _ => rfl
  intro device
  rw [ends_within]
  unfold Ends
  rcases hashChunk options.hash stage.committedPleHash tokens device.contents.candidatePleHashes
    with ⟨outcome, hashes⟩
  cases outcome <;> rfl

/-- Nothing is predicted before the rows of a chunk are evaluated. -/
theorem prepare_same : Confined samePredictions (prepareChunk options plan input) := by
  refine confined_bind confined_may_throw fun _ => confined_bind ?_ fun _ => confined_bind ?_
    fun _ => confined_bind ?_ fun _ => ?_
  · exact confined_bind (confined_ensure _ _) fun _ => confined_ensure _ _
  · exact confined_bind (confined_look id) fun _ => confined_ite begin_same (confined_ensure _ _)
  · refine confined_ite (hash_same _ _) (confined_bind (confined_ensure _ _) fun _ => ?_)
    exact confined_bind confined_may_throw fun _ => workspace_same fun _ => rfl
  · refine confined_bind (confined_change fun _ => rfl) fun _ => ?_
    exact confined_bind confined_may_throw fun _ => workspace_same fun _ => rfl

end Predictions

/-! How many rows of a speculation are right. -/
section Verified

theorem accepted_rows_spec {tokens : List Token} {predictions : Nat → Token}
    (left accepted : Nat) :
    accepted ≤ acceptedRows tokens predictions left accepted ∧
      acceptedRows tokens predictions left accepted ≤ accepted + left ∧
      (∀ row, accepted ≤ row → row < acceptedRows tokens predictions left accepted →
        tokens[row]? = some (predictions (row - 1))) ∧
      (acceptedRows tokens predictions left accepted < accepted + left →
        tokens[acceptedRows tokens predictions left accepted]? ≠
          some (predictions (acceptedRows tokens predictions left accepted - 1))) := by
  induction left generalizing accepted with
  | zero =>
      refine ⟨Nat.le_refl _, Nat.le_refl _, fun row from_ upTo => ?_, fun more => ?_⟩
      · exact absurd upTo (Nat.not_lt.mpr from_)
      · exact absurd more (Nat.lt_irrefl _)
  | succ left ih =>
      obtain ⟨least, most, agrees, differs⟩ := ih (accepted + 1)
      by_cases same : tokens[accepted]? = some (predictions (accepted - 1))
      · simp only [acceptedRows, same, if_true]
        refine ⟨by omega, by omega, fun row from_ upTo => ?_, fun more => differs (by omega)⟩
        rcases Nat.eq_or_lt_of_le from_ with rfl | later
        · exact same
        · exact agrees row later upTo
      · simp only [acceptedRows, same, if_false]
        refine ⟨Nat.le_refl _, Nat.le_add_right _ _, fun row from_ upTo => ?_, fun _ => same⟩
        exact absurd upTo (Nat.not_lt.mpr from_)

/-- The rows of a speculation that agree with the prediction before them, up to the first
that does not. -/
structure Verified (tokens predictions : List Token) (accepted : Nat) : Prop where
  some_ : 0 < accepted
  most : accepted ≤ predictions.length
  agrees : ∀ row, 0 < row → row < accepted → tokens[row]? = predictions[row - 1]?
  differs : accepted < predictions.length → tokens[accepted]? ≠ predictions[accepted - 1]?

theorem accepted_verified {tokens predictions : List Token} {host : Nat → Token}
    (some_ : 0 < predictions.length) (hosted : slice 0 predictions.length host = predictions) :
    Verified tokens predictions (acceptedRows tokens host (predictions.length - 1) 1) := by
  obtain ⟨least, most, agrees, differs⟩ := @accepted_rows_spec tokens host (predictions.length - 1)
    1
  have found (row : Nat) (inside : row < predictions.length) :
      predictions[row]? = some (host row) := by
    conv_lhs => rw [← hosted]
    simp [slice, inside]
  refine ⟨least, by omega, fun row from_ upTo => ?_, fun more => ?_⟩
  · rw [found (row - 1) (by omega)]
    exact agrees row from_ upTo
  · rw [found _ (by omega)]
    exact differs (by omega)

end Verified

section Execute

theorem prepare_chunk_ends (stands : Stands kernels options zeros device.contents fed)
    (found : device.contents.provisionalEpoch = 0 ∧ rows = [] ∨
      Provisional kernels options zeros device.contents fed rows) :
    Ends (prepareChunk options plan input)
      (fun _ after => Fits options input ∧
        Stored kernels options zeros input after.contents fed rows)
      (fun _ after => Stands kernels options zeros after.contents fed) device := by
  unfold prepareChunk
  apply may_throw_then
  · exact fun _ _ => stands
  apply ((@accept_input_ends _ _ _ ⟨device.contents, device.ticks + 1⟩).weaken
    (fun _ _ kept => kept) fun _ _ same => by rw [same]; exact stands).chain
  rintro _ after ⟨fits, rfl⟩
  apply (@enter_chunk_ends _ _ _ _ _ _ _ _ ⟨device.contents, device.ticks + 1⟩ fits stands
    found).chain
  rintro _ after ⟨stands, provisional, next⟩
  apply (receive_chunk_ends stands provisional next).chain
  intro _ received_ received
  apply (store_tokens_ends stands provisional next received).weaken
  · exact fun _ _ stored => ⟨fits, stored⟩
  · exact fun _ _ stands => stands

variable (kernels options zeros)

/-- What a chunk answers. -/
structure Answer (input : CudaInput v) (before : Workspace v) (fed rows : List (Fed v))
    (output : CudaOutput v) : Prop where
  boundary : options.stage = .stage0 → output.payload =
    hiddenOf kernels options zeros (fed ++ rows) (enteringRows kernels options input)
  evaluated : input.txn.kind ≠ .speculative ∨ options.stage = .stage0 ∨
      input.finalChunk = false →
    output.stateCommitCount = rows.length + input.tokenIds.length
  last : options.stage ≠ .stage0 → input.txn.kind ≠ .speculative →
    Tiled input.txn.kind input.tokenIds.length ∨ rows = [] →
    some output.nextToken = (hiddenOf kernels options zeros (fed ++ rows)
      (enteringRows kernels options input)).getLast?.map (predictedToken kernels)
  stale : options.stage ≠ .stage0 → input.txn.kind ≠ .speculative →
    ¬ Tiled input.txn.kind input.tokenIds.length → input.tokenIds.length ≤ rows.length →
    output.nextToken = before.predictions (input.tokenIds.length - 1)
  verified : options.stage ≠ .stage0 → input.txn.kind = .speculative → input.finalChunk = true →
    Verified ((rows ++ enteringRows kernels options input).map Prod.fst)
      ((hiddenOf kernels options zeros fed
        (rows ++ enteringRows kernels options input)).map (predictedToken kernels))
      output.stateCommitCount
  predicted : options.stage ≠ .stage0 → input.txn.kind = .speculative →
    some output.nextToken = ((hiddenOf kernels options zeros fed
      (rows ++ enteringRows kernels options input)).map
        (predictedToken kernels))[output.stateCommitCount - 1]?
  scored : options.stage ≠ .stage0 → input.needLogits = true →
    output.logits = (hiddenOf kernels options zeros (fed ++ rows)
      (enteringRows kernels options input)).getLast?.map kernels.head

variable {kernels options zeros}

/-- The MTP layer does not touch what was made of the rows. -/
theorem ran_beside {before : Workspace v} {stage after : CudaStageBackend v}
    (ran : Ran kernels options zeros input before stage fed rows) (beside : Aside stage after) :
    Ran kernels options zeros input before after fed rows where
  stands := ran.stands.beside beside.toMtpOnly
  recorded := ran.recorded.beside beside
  answered := ran.answered.beside beside
  hosted := hosted_beside ran.hosted beside
  banked := ran.banked.beside beside.toMtpOnly
  offset := ran.offset
  kind := by
    rw [beside.rest]
    exact ran.kind
  results := by
    have results := ran.results
    rw [beside.workspace]
    exact ⟨results.boundary, results.finals, results.last, results.early, results.scored⟩

variable {before : Workspace v}

theorem boundary_output_ends (front : options.stage = .stage0)
    (ran : Ran kernels options zeros input before device.contents fed rows)
    (processed : device.contents.provisionalProcessed = rows.length + input.tokenIds.length) :
    Ends (boundaryOutput kernels plan input)
      (fun output after => Stands kernels options zeros after.contents fed ∧
        Provisional kernels options zeros after.contents fed
          (rows ++ enteringRows kernels options input) ∧
        Answer kernels options zeros input before fed rows output)
      (fun _ after => Stands kernels options zeros after.contents fed) device := by
  unfold boundaryOutput
  apply may_throw_then
  · exact fun _ _ => ran.stands
  rw [ends_bind, ends_look, ends_pure]
  have length : (hiddenOf kernels options zeros (fed ++ rows)
      (enteringRows kernels options input)).length = input.tokenIds.length := by
    rw [hidden_length, entering_length]
  have found := ran.results.boundary front
  rw [length] at found
  refine ⟨ran.stands, ⟨ran.recorded, ran.answered, ran.banked, fun back => absurd front back, ?_⟩,
    fun _ => found, fun _ => processed, fun back => absurd front back,
    fun back => absurd front back, fun back => absurd front back, fun back => absurd front back,
    fun back => absurd front back⟩
  rw [List.length_append, entering_length]
  exact processed

/-- The predictions of a chunk, copied to the host. -/
theorem host_chunk (ran : Ran kernels options zeros input before device.contents fed rows)
    (back : options.stage ≠ .stage0) (speculative : input.txn.kind = .speculative) :
    slice 0 (rows ++ enteringRows kernels options input).length
        (put rows.length
          (slice rows.length input.tokenIds.length device.contents.memory.workspace.predictions)
          device.contents.memory.workspace.hostPredictions) =
      (hiddenOf kernels options zeros fed
        (rows ++ enteringRows kernels options input)).map (predictedToken kernels) := by
  have kind := ran.kind.trans speculative
  have all := ran.answered.predicted back kind
  have early := ran.hosted back kind
  have count : (slice rows.length input.tokenIds.length
      device.contents.memory.workspace.predictions).length = input.tokenIds.length := slice_length
  rw [List.length_append, entering_length, slice_append, Nat.zero_add] at all ⊢
  rw [slice_before (by rw [Nat.zero_add]), slice_put (Nat.le_of_eq count.symm),
    List.take_of_length_le (Nat.le_of_eq count), ← all, early]
  congr 1
  rw [hidden_append, List.map_append] at all
  refine (List.append_inj_left all ?_).symm
  rw [slice_length, List.length_map, hidden_length]

theorem prediction_output_ends (fits : Fits options input) (back : options.stage ≠ .stage0)
    (ran : Ran kernels options zeros input before device.contents fed rows)
    (processed : device.contents.provisionalProcessed = rows.length + input.tokenIds.length) :
    Ends (predictionOutput plan input)
      (fun output after => Stands kernels options zeros after.contents fed ∧
        Provisional kernels options zeros after.contents fed
          (rows ++ enteringRows kernels options input) ∧
        Answer kernels options zeros input before fed rows output)
      (fun _ after => Stands kernels options zeros after.contents fed) device := by
  have banks := ran.stands.banks
  have banked := ran.banked
  have holds := banked.holds
  unfold predictionOutput
  apply may_throw_then
  · exact fun _ _ => ran.stands
  unfold onMemory onWorkspace
  rw [ends_bind, ends_on_contents, ends_change]
  set place := if input.txn.kind = .speculative then input.chunkOffset else 0 with placed
  set host := put place (slice place input.tokenIds.length
    device.contents.memory.workspace.predictions)
    device.contents.memory.workspace.hostPredictions with hosted
  have stands : Stands kernels options zeros { device.contents with
      memory := { device.contents.memory with
        workspace := { device.contents.memory.workspace with hostPredictions := host } } } fed :=
    ⟨ran.stands.frontier, ⟨banks.extent, banks.capacity, banks.gdn, banks.ple, banks.rows⟩,
      ran.stands.hash⟩
  have length : (rows ++ enteringRows kernels options input).length =
      rows.length + input.tokenIds.length := by
    rw [List.length_append, entering_length]
  have copied (speculative : input.txn.kind = .speculative) :
      slice 0 (rows ++ enteringRows kernels options input).length host =
        (hiddenOf kernels options zeros fed
          (rows ++ enteringRows kernels options input)).map (predictedToken kernels) := by
    rw [hosted, placed, if_pos speculative, ran.offset]
    exact host_chunk ran back speculative
  have provisional : Provisional kernels options zeros { device.contents with
      memory := { device.contents.memory with
        workspace := { device.contents.memory.workspace with hostPredictions := host } } } fed
      (rows ++ enteringRows kernels options input) :=
    { tokens := ran.recorded.tokens
      hashes := ran.recorded.hashes
      reads := ran.recorded.reads
      inputs := ran.recorded.inputs
      hidden := ran.answered.hidden
      predicted := ran.answered.predicted
      epoch := banked.epoch
      base := banked.base
      active := banked.active
      room := banked.room
      opened := ⟨banked.opened.gdn, banked.opened.qsa, banked.opened.ple⟩
      qsaEpoch := banked.qsaEpoch
      evaluated := banked.evaluated
      holds := ⟨holds.gdn, holds.ple, holds.rows⟩
      checkpoint := banked.checkpoint
      hosted := fun _ speculative => copied (ran.kind.symm.trans speculative)
      processed := processed.trans length.symm }
  rw [ends_bind, ends_ensure]
  refine ⟨fun lane => ?_, fun _ => stands⟩
  apply may_throw_then
  · exact fun _ _ => stands
  rw [ends_bind, ends_look]
  have scored : options.stage ≠ .stage0 → input.needLogits = true →
      (if input.needLogits then some device.contents.memory.workspace.logits else none) =
        (hiddenOf kernels options zeros (fed ++ rows)
          (enteringRows kernels options input)).getLast?.map kernels.head := by
    intro _ wanted
    rw [if_pos wanted]
    exact ran.results.scored back
  have counted := fits.some_
  have predictions : ((hiddenOf kernels options zeros fed
      (rows ++ enteringRows kernels options input)).map (predictedToken kernels)).length =
      rows.length + input.tokenIds.length := by
    rw [List.length_map, hidden_length, length]
  have found (row : Nat) (inside : row < rows.length + input.tokenIds.length)
      (speculative : input.txn.kind = .speculative) :
      some (host row) = ((hiddenOf kernels options zeros fed
        (rows ++ enteringRows kernels options input)).map (predictedToken kernels))[row]? := by
    rw [← copied speculative, length]
    simp [slice, inside]
  rw [ends_ite]
  constructor
  · intro speculative
    rw [ends_ite]
    constructor
    · intro more
      refine ⟨stands, provisional, fun front => absurd front back, fun _ => processed,
        fun _ other => absurd speculative other, fun _ other => absurd speculative other,
        fun _ _ final => ?_, fun _ _ => ?_, scored⟩
      · rw [more] at final
        exact absurd final (by decide)
      · dsimp only [id]
        rw [processed]
        exact found _ (by omega) speculative
    · intro final
      have whole := @accepted_verified ((rows ++ enteringRows kernels options input).map
        Prod.fst) _ host (by rw [predictions]; omega) (by
          rw [predictions, ← length]
          exact copied speculative)
      have tokens := ran.recorded.tokens
      rw [predictions, ← processed, ← tokens] at whole
      refine ⟨stands, provisional, fun front => absurd front back, ?_,
        fun _ other => absurd speculative other, fun _ other => absurd speculative other,
        fun _ _ _ => ?_, fun _ _ => ?_, scored⟩
      · rintro (other | front | more)
        · exact absurd speculative other
        · exact absurd front back
        · exact absurd more final
      · rw [← tokens]
        exact whole
      · have most := whole.most
        have least := whole.some_
        rw [predictions] at most
        have inside : acceptedRows device.contents.provisionalTokens host
            (device.contents.provisionalProcessed - 1) 1 - 1 <
            rows.length + input.tokenIds.length := by omega
        exact found _ inside speculative
  · intro other
    have start : place = 0 := if_neg other
    have inside : input.tokenIds.length - 1 < input.tokenIds.length := by omega
    have copied_last : host (input.tokenIds.length - 1) =
        device.contents.memory.workspace.predictions (input.tokenIds.length - 1) := by
      rw [hosted, start, put_here (Nat.zero_le _) (by rw [slice_length]; omega)]
      simp [slice]
    have last := ran.results.last back
    rw [hidden_length, entering_length] at last
    refine ⟨stands, provisional, fun front => absurd front back, fun _ => processed,
      fun _ _ placed => ?_, fun _ _ single short => ?_, fun _ same => absurd same other,
      fun _ same => absurd same other, scored⟩
    · change some (host (input.tokenIds.length - 1)) = _
      rw [copied_last, ← last]
      congr 2
      unfold resultRow
      rcases placed with tiled | none
      · rw [decide_eq_true tiled, if_pos rfl]
      · rw [none, List.length_nil, Nat.zero_add, ite_self]
    · have early := ran.results.early (decide_eq_false single) (input.tokenIds.length - 1)
        (by omega)
      exact copied_last.trans early

/-- `execute`: the rows of the chunk join those of the transaction. -/
theorem execute_ends (agree : Agree kernels) (limit : options.contextCapacity ≤ kQ38ContextLimit)
    (stands : Stands kernels options zeros device.contents fed)
    (found : device.contents.provisionalEpoch = 0 ∧ rows = [] ∨
      Provisional kernels options zeros device.contents fed rows) :
    Ends (execute kernels options plan input)
      (fun output after => Stands kernels options zeros after.contents fed ∧
        Provisional kernels options zeros after.contents fed
          (rows ++ enteringRows kernels options input) ∧
        Answer kernels options zeros input device.contents.memory.workspace fed rows output)
      (fun _ after => Stands kernels options zeros after.contents fed) device := by
  unfold execute
  have prepared := (@prepare_chunk_ends _ _ _ _ plan _ _ input _ stands found).both
    (prepare_same device)
  apply (prepared.weaken (fun _ _ both => both) fun _ _ both => both.1).chain
  rintro _ ready ⟨⟨fits, stored⟩, same⟩
  rw [ends_bind, ends_look]
  apply (run_tokens_chunk agree limit fits stored).chain
  rintro _ after ⟨ran, processed⟩
  have appended : Ends (Proc.whenever (options.mtp = true ∧ input.txn.kind = .appendKnown)
      (advanceMtpAppend kernels plan input.txn.epoch input.chunkOffset input.tokenIds.length))
      (fun _ later => Aside after.contents later.contents)
      (fun _ later => Aside after.contents later.contents) after :=
    @confined_whenever _ aside _ _ _ (advance_append_confined _ _) after
  apply (appended.weaken (fun _ _ beside => beside) fun _ later beside =>
    ran.stands.beside beside.toMtpOnly).chain
  intro _ later beside
  have ran := ran_beside ran beside
  have processed : later.contents.provisionalProcessed = rows.length := by
    rw [beside.rest]
    exact processed
  rw [ends_bind, ends_change]
  have early (place : Nat) : ready.contents.memory.workspace.predictions place =
      device.contents.memory.workspace.predictions place := congrFun same place
  have counted : Ran kernels options zeros input device.contents.memory.workspace
      { later.contents with
        provisionalProcessed := later.contents.provisionalProcessed + input.tokenIds.length }
      fed rows := by
    have banked := ran.banked
    have results := ran.results
    exact ⟨⟨ran.stands.frontier, ran.stands.banks, ran.stands.hash⟩,
      ⟨ran.recorded.tokens, ran.recorded.hashes, ran.recorded.reads, ran.recorded.inputs⟩,
      ⟨ran.answered.hidden, ran.answered.predicted⟩, ran.hosted,
      ⟨banked.epoch, banked.base, banked.active, banked.room, banked.opened, banked.qsaEpoch,
        banked.evaluated, banked.holds, banked.checkpoint⟩, ran.offset, ran.kind,
      results.boundary, results.finals, results.last,
      fun single place inside => (results.early single place inside).trans (early place),
      results.scored⟩
  rw [ends_ite]
  constructor
  · exact fun front => boundary_output_ends front counted (congrArg (· + _) processed)
  · exact fun back => prediction_output_ends fits back counted (congrArg (· + _) processed)

end Execute

end Q38.ExecutedChunks
