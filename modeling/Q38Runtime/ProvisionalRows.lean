import Q38Runtime.CommittedStates

/-! The chunks of a transaction. Each adds its rows to those that are provisional; the states
of the working banks are then the ones behind all of them. -/
namespace Q38.ProvisionalRows
open Contracts Imperative PleHash QsaSelection SpeculativeRows StateBanks PooledRows
  LayerSweeps CudaBackend CudaRows CudaTiles CudaChunks CudaTransactions CudaHistory
  CommittedStates
open PleReadAhead (hashesAfter)

variable {v : Values} {kernels : Kernels v} {options : CudaOptions} {zeros : Zeros v}
  {plan : Nat → Option Thrown} {fed rows : List (Fed v)} {input : CudaInput v}
  {device : Device (CudaStageBackend v)}

section Inputs
variable (kernels options)

/-- The rows of a chunk: its tokens, with their embeddings or with their boundary rows. -/
def enteringRows (input : CudaInput v) : List (Fed v) :=
  input.tokenIds.zip
    (if options.stage = .stage0 then input.tokenIds.map kernels.embed
    else slice 0 input.tokenIds.length input.payload)

variable {kernels options}

theorem entering_tokens : (enteringRows kernels options input).map Prod.fst = input.tokenIds := by
  unfold enteringRows
  apply List.map_fst_zip
  split <;> simp

theorem entering_hypers : (enteringRows kernels options input).map Prod.snd =
    if options.stage = .stage0 then input.tokenIds.map kernels.embed
    else slice 0 input.tokenIds.length input.payload := by
  unfold enteringRows
  apply List.map_snd_zip
  split <;> simp

@[simp] theorem entering_length :
    (enteringRows kernels options input).length = input.tokenIds.length := by
  rw [← List.length_map Prod.fst, entering_tokens]

theorem front_inputs (front : options.stage = .stage0) (workspace : Workspace v) :
    inputRow kernels options workspace = fun index => kernels.embed (workspace.tokens index) := by
  funext index
  simp only [inputRow, front, if_true]

theorem back_inputs (back : options.stage ≠ .stage0) (workspace : Workspace v) :
    inputRow kernels options workspace = workspace.boundary := by
  funext index
  simp only [inputRow, back, if_false]

/-- A chunk is the next one of a transaction. -/
structure Next (input : CudaInput v) (stage : CudaStageBackend v) (rows : List (Fed v)) :
    Prop where
  offset : input.chunkOffset = rows.length
  epoch : stage.provisionalEpoch = input.txn.epoch
  base : stage.provisionalBase = input.txn.baseTarget
  kind : stage.provisionalKind = input.txn.kind

/-- What the checks of an input say. -/
structure Fits (options : CudaOptions) (input : CudaInput v) : Prop where
  some_ : 0 < input.tokenIds.length
  inside : input.chunkOffset + input.tokenIds.length ≤ input.txn.evaluatedCount
  room : input.txn.baseTarget + input.txn.evaluatedCount ≤ options.contextCapacity

theorem accept_input_ends :
    Ends (acceptInput options input) (fun _ after => Fits options input ∧ after = device)
      (fun _ after => after = device) device := by
  unfold acceptInput
  rw [ends_bind, ends_ensure]
  refine ⟨fun valid => (ends_ensure _ _).mpr ⟨fun fits => ⟨⟨?_, fits.1, fits.2.2⟩, rfl⟩,
    fun _ => rfl⟩, fun _ => rfl⟩
  exact List.length_pos_iff.mpr valid.2.2.2.1

/-- The transaction that a chunk comes to. -/
theorem enter_chunk_ends (fits : Fits options input)
    (stands : Stands kernels options zeros device.contents fed)
    (found : device.contents.provisionalEpoch = 0 ∧ rows = [] ∨
      Provisional kernels options zeros device.contents fed rows) :
    Ends (enterChunk options plan input)
      (fun _ after => Stands kernels options zeros after.contents fed ∧
        Provisional kernels options zeros after.contents fed rows ∧
        Next input after.contents rows)
      (fun _ after => Stands kernels options zeros after.contents fed) device := by
  unfold enterChunk
  rw [ends_bind, ends_look, ends_ite]
  rcases found with ⟨idle, rfl⟩ | provisional
  · refine ⟨fun _ => ?_, fun busy => absurd idle busy⟩
    apply (begin_transaction_ends stands (Nat.le_trans (Nat.le_add_right _ _) fits.room)).weaken
    · rintro _ after ⟨stands, provisional, first, epoch, base, kind⟩
      exact ⟨stands, provisional, first, epoch, base, kind⟩
    · exact fun _ _ stands => stands
  · refine ⟨fun idle => absurd idle provisional.epoch, fun _ => ?_⟩
    rw [ends_ensure]
    refine ⟨fun next => ⟨stands, provisional, ?_⟩, fun _ => stands⟩
    obtain ⟨epoch, base, -, kind, offset, -⟩ := next
    exact ⟨offset.trans provisional.processed, epoch.symm, base.symm, kind.symm⟩

end Inputs

/-! What a chunk brings along. -/
section Receive

/-- The tokens of a chunk are hashed behind the last candidate, and their rows handed over. -/
theorem start_ple_read_ends {tokens : List Token} {offset : Nat} {hash : PleHashState}
    (hashed : device.contents.candidatePleHashes.getLastD device.contents.committedPleHash =
      hash) :
    Ends (startPleRead options plan tokens offset)
      (fun _ after => after.contents = { device.contents with
        candidatePleHashes := device.contents.candidatePleHashes ++ hashesAfter hash tokens
        pleReadRows := put offset (rowsEach options.hash hash tokens)
          device.contents.pleReadRows })
      (fun _ after => ∃ hashes, after.contents =
        { device.contents with candidatePleHashes := hashes }) device := by
  unfold startPleRead
  rw [ends_bind, ends_look, ends_bind, ends_within]
  by_cases all : tokens.all (known options.hash) = true
  · unfold Ends
    simp only [id]
    rw [hash_chunk_known all, hashed]
    apply may_throw_then
    · exact fun _ _ => ⟨_, rfl⟩
    · rw [ends_change, rows_by_token]
  · have refused := @hash_chunk_unknown _ device.contents.committedPleHash
      device.contents.candidatePleHashes _ all
    unfold Ends
    simp only [id]
    rcases answer : hashChunk options.hash device.contents.committedPleHash tokens
      device.contents.candidatePleHashes with ⟨outcome, after⟩
    rw [answer] at refused
    cases refused
    exact ⟨_, rfl⟩

/-- What a chunk that was received leaves, before its tokens are stored. -/
structure Received (kernels : Kernels v) (options : CudaOptions)
    (before after : CudaStageBackend v) (fed rows new : List (Fed v)) (place : Nat) : Prop where
  rest : after = { before with
    memory := { before.memory with
      workspace := { before.memory.workspace with
        boundary := after.memory.workspace.boundary } }
    candidatePleHashes := after.candidatePleHashes
    pleReadRows := after.pleReadRows }
  hashes : options.stage = .stage0 → after.candidatePleHashes =
    hashesAfter (hashBehind options fed) ((rows ++ new).map Prod.fst)
  reads : options.stage = .stage0 → slice 0 (rows ++ new).length after.pleReadRows =
    rowsEach options.hash (hashBehind options fed) ((rows ++ new).map Prod.fst)
  inputs : options.stage ≠ .stage0 → inputRow kernels options after.memory.workspace =
    put place (new.map Prod.snd) (inputRow kernels options before.memory.workspace)

/-- The rest of a transaction does not notice what a chunk brings along. -/
theorem Received.stands {before after : CudaStageBackend v} {new : List (Fed v)} {place : Nat}
    (received : Received kernels options before after fed rows new place)
    (stands : Stands kernels options zeros before fed) :
    Stands kernels options zeros after fed := by
  have banks := stands.banks
  rw [received.rest]
  exact ⟨stands.frontier, ⟨banks.extent, banks.capacity, banks.gdn, banks.ple, banks.rows⟩,
    stands.hash⟩

theorem receive_chunk_ends (stands : Stands kernels options zeros device.contents fed)
    (provisional : Provisional kernels options zeros device.contents fed rows)
    (next : Next input device.contents rows) :
    Ends (receiveChunk options plan input)
      (fun _ after => Received kernels options device.contents
        after.contents fed rows (enteringRows kernels options input)
        (inputPlace input.txn.kind input.chunkOffset 0))
      (fun _ after => Stands kernels options zeros after.contents fed) device := by
  unfold receiveChunk
  rw [ends_ite]
  constructor
  · intro front
    have last : device.contents.candidatePleHashes.getLastD device.contents.committedPleHash =
        hashBehind options (fed ++ rows) := by
      rw [provisional.hashes front, stands.hash front, hashes_after_last, hash_behind_append]
    apply (start_ple_read_ends last).weaken
    · rintro _ after made
      rw [made]
      refine ⟨rfl, fun _ => ?_, fun _ => ?_, fun back => absurd front back⟩
      · rw [provisional.hashes front, List.map_append, hashes_after_append, entering_tokens,
          hash_behind_append]
      · rw [List.length_append, slice_append, Nat.zero_add, next.offset,
          slice_before (by rw [Nat.zero_add]), provisional.reads front,
          slice_put (by rw [rows_each_length, entering_length]), List.map_append,
          rows_each_append, entering_tokens, hash_behind_append]
        congr 1
        apply List.take_of_length_le
        rw [rows_each_length, entering_length]
    · rintro _ after ⟨hashes, made⟩
      rw [made]
      exact ⟨stands.frontier, stands.banks, stands.hash⟩
  · intro back
    unfold receiveBoundary
    rw [ends_bind, ends_ensure]
    refine ⟨fun _ => ?_, fun _ => stands⟩
    apply may_throw_then
    · exact fun _ _ => stands
    unfold onMemory onWorkspace
    rw [ends_on_contents, ends_change]
    refine ⟨rfl, fun front => absurd front back, fun front => absurd front back, fun _ => ?_⟩
    rw [entering_hypers, if_neg back, back_inputs back, back_inputs back]
    rfl

/-- A chunk whose rows are still to be evaluated. -/
structure Stored (kernels : Kernels v) (options : CudaOptions) (zeros : Zeros v)
    (input : CudaInput v) (stage : CudaStageBackend v) (fed rows : List (Fed v)) : Prop where
  stands : Stands kernels options zeros stage fed
  recorded : Recorded kernels options stage fed (rows ++ enteringRows kernels options input)
  answered : Answered kernels options zeros stage fed rows
  hosted : Hosted kernels options zeros stage fed rows
  banked : Banked kernels options zeros stage fed rows
  processed : stage.provisionalProcessed = rows.length
  next : Next input stage rows
  inputs : slice (inputPlace input.txn.kind input.chunkOffset 0) input.tokenIds.length
    (inputRow kernels options stage.memory.workspace) =
      (enteringRows kernels options input).map Prod.snd

/-- The tokens of a chunk stand where its rows are read. -/
theorem store_tokens_ends {before : CudaStageBackend v}
    (stands : Stands kernels options zeros before fed)
    (provisional : Provisional kernels options zeros before fed rows)
    (next : Next input before rows)
    (received : Received kernels options before device.contents fed
      rows (enteringRows kernels options input)
      (inputPlace input.txn.kind input.chunkOffset 0)) :
    Ends (storeTokens plan input)
      (fun _ after => Stored kernels options zeros input after.contents fed rows)
      (fun _ after => Stands kernels options zeros after.contents fed) device := by
  have stands := received.stands stands
  have banks := stands.banks
  unfold storeTokens onMemory onWorkspace
  rw [ends_bind, ends_change]
  apply may_throw_then
  · exact fun _ _ => ⟨stands.frontier, stands.banks, stands.hash⟩
  rw [ends_on_contents, ends_change]
  have input_rows : inputRow kernels options { device.contents.memory.workspace with
      tokens := put (if input.txn.kind = .speculative then input.chunkOffset else 0)
        input.tokenIds device.contents.memory.workspace.tokens } =
      put (inputPlace input.txn.kind input.chunkOffset 0)
        ((enteringRows kernels options input).map Prod.snd)
        (inputRow kernels options before.memory.workspace) := by
    by_cases front : options.stage = .stage0
    · have earlier : device.contents.memory.workspace.tokens = before.memory.workspace.tokens := by
        rw [received.rest]
      have mapped := @put_map _ input.tokenIds (inputPlace input.txn.kind input.chunkOffset 0)
        before.memory.workspace.tokens _ kernels.embed
      rw [entering_hypers, if_pos front, front_inputs front, front_inputs front, ← mapped,
        ← earlier]
      rfl
    · rw [← received.inputs front, back_inputs front, back_inputs front]
  have count : ((enteringRows kernels options input).map Prod.snd).length =
      input.tokenIds.length := by
    rw [List.length_map, entering_length]
  have here : slice (inputPlace input.txn.kind input.chunkOffset 0) input.tokenIds.length
      (put (inputPlace input.txn.kind input.chunkOffset 0)
        ((enteringRows kernels options input).map Prod.snd)
        (inputRow kernels options before.memory.workspace)) =
      (enteringRows kernels options input).map Prod.snd := by
    rw [slice_put (Nat.le_of_eq count.symm)]
    exact List.take_of_length_le (Nat.le_of_eq count)
  have banked := provisional.toBanked
  have holds := banked.holds
  refine ⟨⟨stands.frontier, ⟨banks.extent, banks.capacity, banks.gdn, banks.ple, banks.rows⟩,
    stands.hash⟩, ⟨?_, received.hashes, received.reads, ?_⟩, ?_, ?_, ?_, ?_, ?_, ?_⟩
  · have tokens := provisional.tokens
    rw [received.rest]
    rw [List.map_append, entering_tokens, ← tokens]
  · intro kind
    have speculative : input.txn.kind = .speculative := by
      rw [received.rest] at kind
      exact next.kind.symm.trans kind
    have place : inputPlace input.txn.kind input.chunkOffset 0 = rows.length := by
      rw [inputPlace, if_pos speculative, Nat.add_zero, next.offset]
    rw [place] at here input_rows
    have earlier := provisional.inputs (next.kind.trans speculative)
    rw [input_rows, List.length_append, entering_length, slice_append, Nat.zero_add, here,
      slice_before (by rw [Nat.zero_add]), earlier, List.map_append]
  · have answered := provisional.toAnswered
    rw [received.rest]
    exact ⟨answered.hidden, answered.predicted⟩
  · have hosted := provisional.hosted
    rw [received.rest]
    exact hosted
  · rw [received.rest]
    exact ⟨banked.epoch, banked.base, banked.active, banked.room,
      ⟨banked.opened.gdn, banked.opened.qsa, banked.opened.ple⟩, banked.qsaEpoch,
      banked.evaluated, ⟨holds.gdn, holds.ple, holds.rows⟩, banked.checkpoint⟩
  · have processed := provisional.processed
    rw [received.rest]
    exact processed
  · have next' := next
    rw [received.rest]
    exact ⟨next'.offset, next'.epoch, next'.base, next'.kind⟩
  · rw [input_rows]
    exact here

end Receive

/-! Evaluating what a chunk brought along. -/
section Evaluate
variable {new : List (Fed v)} {reads : Nat → List Row} {workspace : Workspace v} {kind : TxnKind}

theorem delivered_eq (first count : Nat) :
    delivered kernels reads first count = (slice first count reads).map kernels.fetch := by
  simp [delivered, slice]

theorem chunk_items_eq (chunkOffset count : Nat) :
    chunkItems kernels options reads workspace (inputPlace kind chunkOffset) chunkOffset count =
      ((slice chunkOffset count reads).map kernels.fetch).zip
        (slice (inputPlace kind chunkOffset 0) count (inputRow kernels options workspace)) := by
  have place (row : Nat) : inputPlace kind chunkOffset row =
      inputPlace kind chunkOffset 0 + row := by
    unfold inputPlace
    split
    · rw [Nat.add_zero]
    · rw [Nat.zero_add]
  rw [chunkItems, delivered_eq]
  congr 1
  unfold slice
  apply List.map_congr_left
  intro row _
  rw [place]

/-- What evaluating a chunk means for the states behind its rows, and for their results. -/
theorem chunk_states
    (handed : options.stage = .stage0 → slice rows.length new.length reads =
      rowsEach options.hash (hashBehind options (fed ++ rows)) (new.map Prod.fst))
    (inputs : slice (inputPlace kind rows.length 0) new.length
      (inputRow kernels options workspace) = new.map Prod.snd) :
    behind kernels options (statesBehind kernels options zeros (fed ++ rows))
        (chunkItems kernels options reads workspace (inputPlace kind rows.length) rows.length
          new.length) =
      statesBehind kernels options zeros (fed ++ (rows ++ new)) ∧
    outputs kernels options (statesBehind kernels options zeros (fed ++ rows))
        (chunkItems kernels options reads workspace (inputPlace kind rows.length) rows.length
          new.length) =
      hiddenOf kernels options zeros (fed ++ rows) new := by
  have goes := @states_append _ kernels options zeros (fed ++ rows) new
  rw [chunk_items_eq, inputs, ← List.append_assoc, goes, hiddenOf]
  by_cases front : options.stage = .stage0
  · rw [handed front]
    exact ⟨rfl, rfl⟩
  · -- stage 1 has no layer with embedding rows
    have same : (((slice rows.length new.length reads).map kernels.fetch).zip
        (new.map Prod.snd)).map Prod.snd =
        (itemsFrom kernels options (hashBehind options (fed ++ rows)) new).map Prod.snd := by
      rw [itemsFrom, List.map_snd_zip, List.map_snd_zip]
      · rw [List.length_map, List.length_map, rows_each_length, List.length_map]
      · rw [List.length_map, List.length_map, slice_length]
    exact sweep_carries (back_carries front) same

/-- The rows that were handed over for the last tokens of a transaction. -/
theorem recorded_handed {stage : CudaStageBackend v}
    (recorded : Recorded kernels options stage fed (rows ++ new))
    (front : options.stage = .stage0) :
    slice rows.length new.length stage.pleReadRows =
      rowsEach options.hash (hashBehind options (fed ++ rows)) (new.map Prod.fst) := by
  have reads := recorded.reads front
  rw [List.length_append, slice_append, Nat.zero_add, List.map_append, rows_each_append,
    ← hash_behind_append] at reads
  apply List.append_inj_right reads
  rw [slice_length, rows_each_length, List.length_map]

/-- The rows of a chunk are evaluated behind those before it. -/
theorem run_chunk_ends (agree : Agree kernels) (limit : options.contextCapacity ≤ kQ38ContextLimit)
    {epoch base : Nat} {writeResult : Bool} {memory : Memory v} {ticks : Nat}
    {committed working : List (Fed v)}
    (lasting : Lasting kernels options zeros memory committed)
    (opened : Opened options memory) (same : memory.qsaState.epoch = epoch)
    (behind_ : base = committed.length)
    (holds : Holds kernels (stageLayers options.stage) memory
      (statesBehind kernels options zeros (committed ++ working)))
    (some_ : 0 < new.length)
    (room : committed.length + (working.length + new.length) ≤ options.contextCapacity)
    (handed : options.stage = .stage0 → slice working.length new.length reads =
      rowsEach options.hash (hashBehind options (committed ++ working)) (new.map Prod.fst))
    (inputs : slice (inputPlace kind working.length 0) new.length
      (inputRow kernels options memory.workspace) = new.map Prod.snd) :
    Ends (CudaBackend.runTokens kernels plan reads options kind epoch base new.length
        working.length writeResult)
      (fun _ after => Evaluated kernels options base working.length (decide (Tiled kind new.length))
          writeResult memory (statesBehind kernels options zeros (committed ++ working))
          (chunkItems kernels options reads memory.workspace (inputPlace kind working.length)
            working.length new.length) new.length after.contents ∧
        Holds kernels (stageLayers options.stage) after.contents
          (statesBehind kernels options zeros (committed ++ (working ++ new))) ∧
        after.contents.qsaState.evaluated = working.length + new.length)
      (fun _ after => Spared base memory after.contents) ⟨memory, ticks⟩ := by
  obtain ⟨states, -⟩ := @chunk_states _ kernels options zeros committed working _ _ _ kind handed
    inputs
  have reached : Reaches options (statesBehind kernels options zeros (committed ++ working))
      (base + working.length) := by
    have all := @states_reach _ kernels options zeros (committed ++ working)
    rwa [List.length_append, ← behind_] at all
  have ran := @run_tokens_ends _ kernels options plan base working.length writeResult _ reads
    new.length agree kind _ ⟨memory, ticks⟩ holds reached (by omega) opened same some_ (by
      dsimp only
      rw [lasting.extent, lasting.capacity]
      exact room)
  apply ran.weaken
  · rintro _ after ⟨evaluated, extent⟩
    refine ⟨evaluated, ?_, extent⟩
    have stood := evaluated.holds
    rw [List.take_of_length_le (Nat.le_of_eq (chunk_items_length _)), states] at stood
    exact stood
  · exact fun _ _ ⟨_, spared⟩ => spared

end Evaluate

/-! A chunk as a whole. -/
section Execute

/-- What the kernels made of the rows of a chunk, in the workspace: where it stands depends on
how they were evaluated. -/
structure Results (kernels : Kernels v) (options : CudaOptions) (tiled : Bool) (chunkOffset : Nat)
    (before : Workspace v) (hidden : List v.Hyper) (workspace : Workspace v) : Prop where
  boundary : options.stage = .stage0 → slice 0 hidden.length workspace.boundary = hidden
  finals : options.mtp = true →
    slice (resultRow tiled chunkOffset 0) hidden.length workspace.finalHc = hidden
  last : options.stage ≠ .stage0 →
    some (workspace.predictions (resultRow tiled chunkOffset (hidden.length - 1))) =
      hidden.getLast?.map (predictedToken kernels)
  early : tiled = false → ∀ place < chunkOffset,
    workspace.predictions place = before.predictions place
  scored : options.stage ≠ .stage0 →
    some workspace.logits = hidden.getLast?.map kernels.head

theorem result_place (tiled : Bool) (chunkOffset row : Nat) :
    resultRow tiled chunkOffset 0 + row = resultRow tiled chunkOffset row := by
  unfold resultRow
  split
  · rw [Nat.zero_add]
  · rw [Nat.add_zero]

theorem evaluated_results {base chunkOffset : Nat} {tiled : Bool} {memory after : Memory v}
    {stores : Stores v} {items : List (Item v)} {hidden : List v.Hyper} {count : Nat}
    (some_ : 0 < count) (whole : items.length = count)
    (evaluated : Evaluated kernels options base chunkOffset tiled true memory stores items
      count after) (made : outputs kernels options stores items = hidden) :
    Results kernels options tiled chunkOffset memory.workspace hidden after.workspace := by
  subst whole
  have length : hidden.length = items.length := by rw [← made, outputs_length]
  subst made
  have last (tiled_ : Prop) : tiled_ → items.length - 1 + 1 = items.length := fun _ => by omega
  refine ⟨fun front => ?_, fun mtp => ?_, fun back => ?_, evaluated.predictedBefore,
    fun back => ?_⟩
  · apply slice_found rfl
    intro row inside
    rw [Nat.zero_add]
    exact evaluated.boundary front rfl row (length ▸ inside)
  · apply slice_found rfl
    intro row inside
    rw [result_place]
    exact evaluated.hidden mtp row (length ▸ inside)
  · rw [List.getLast?_eq_getElem?, length]
    exact evaluated.predicted back rfl (items.length - 1) (by omega) (last _)
  · rw [List.getLast?_eq_getElem?, length]
    exact evaluated.scored back rfl some_ fun _ => rfl

/-- The rows of a chunk are evaluated. -/
structure Ran (kernels : Kernels v) (options : CudaOptions) (zeros : Zeros v)
    (input : CudaInput v) (before : Workspace v) (stage : CudaStageBackend v)
    (fed rows : List (Fed v)) : Prop where
  stands : Stands kernels options zeros stage fed
  recorded : Recorded kernels options stage fed (rows ++ enteringRows kernels options input)
  answered : Answered kernels options zeros stage fed (rows ++ enteringRows kernels options input)
  hosted : Hosted kernels options zeros stage fed rows
  banked : Banked kernels options zeros stage fed (rows ++ enteringRows kernels options input)
  offset : input.chunkOffset = rows.length
  kind : stage.provisionalKind = input.txn.kind
  results : Results kernels options (decide (Tiled input.txn.kind input.tokenIds.length))
    rows.length before
    (hiddenOf kernels options zeros (fed ++ rows) (enteringRows kernels options input))
    stage.memory.workspace

/-- Rows that are evaluated one by one add their results to those before them. -/
theorem results_added {stage : CudaStageBackend v} {memory after : Memory v}
    {items : List (Item v)} {new : List (Fed v)} {writeResult : Bool}
    (answered : Answered kernels options zeros stage fed rows)
    (before : stage.memory.workspace = memory.workspace)
    (evaluated : Evaluated kernels options fed.length rows.length false writeResult memory
      (statesBehind kernels options zeros (fed ++ rows)) items new.length after)
    (made : outputs kernels options (statesBehind kernels options zeros (fed ++ rows)) items =
      hiddenOf kernels options zeros (fed ++ rows) new) :
    (options.mtp = true → stage.provisionalKind ≠ .appendKnown →
      slice 0 (rows ++ new).length after.workspace.finalHc =
        hiddenOf kernels options zeros fed (rows ++ new)) ∧
    (options.stage ≠ .stage0 → writeResult = true → stage.provisionalKind = .speculative →
      slice 0 (rows ++ new).length after.workspace.predictions =
        (hiddenOf kernels options zeros fed (rows ++ new)).map (predictedToken kernels)) := by
  constructor
  · intro mtp kind
    have early := answered.hidden mtp kind
    rw [before] at early
    rw [List.length_append, slice_append, Nat.zero_add, hidden_append]
    congr 1
    · rw [← early]
      apply slice_congr
      intro place inside
      rw [Nat.zero_add]
      exact evaluated.hiddenBefore rfl place inside
    · apply slice_found hidden_length
      intro row inside
      rw [← made]
      exact evaluated.hidden mtp row inside
  · intro back write kind
    have early := answered.predicted back kind
    rw [before] at early
    rw [List.length_append, slice_append, Nat.zero_add, hidden_append, List.map_append]
    congr 1
    · rw [← early]
      apply slice_congr
      intro place inside
      rw [Nat.zero_add]
      exact evaluated.predictedBefore rfl place inside
    · apply slice_found (by rw [List.length_map, hidden_length])
      intro row inside
      rw [List.getElem?_map, ← made]
      exact evaluated.predicted back write row inside fun tiled => absurd tiled (by decide)

theorem run_tokens_chunk (agree : Agree kernels)
    (limit : options.contextCapacity ≤ kQ38ContextLimit) (fits : Fits options input)
    (stored : Stored kernels options zeros input device.contents fed rows) :
    Ends (onMemory (CudaBackend.runTokens kernels plan device.contents.pleReadRows options
        input.txn.kind input.txn.epoch input.txn.baseTarget input.tokenIds.length
        input.chunkOffset true))
      (fun _ after => Ran kernels options zeros input device.contents.memory.workspace
          after.contents fed rows ∧ after.contents.provisionalProcessed = rows.length)
      (fun _ after => Stands kernels options zeros after.contents fed) device := by
  obtain ⟨stands, recorded, answered, hosted, banked, processed, next, inputs⟩ := stored
  have base : input.txn.baseTarget = fed.length := next.base.symm.trans banked.base
  have count : (enteringRows kernels options input).length = input.tokenIds.length :=
    entering_length
  have room := fits.room
  have inside := fits.inside
  have offset := next.offset
  rw [offset, ← count] at inputs
  have ran := @run_chunk_ends _ _ _ _ plan _ _ input.txn.kind agree limit input.txn.epoch _ true _
    device.ticks _ _ stands.banks banked.opened (banked.qsaEpoch.trans next.epoch) base
    banked.holds (by rw [count]; exact fits.some_) (by omega) (recorded_handed recorded) inputs
  rw [count, ← offset] at ran
  unfold onMemory
  apply (ends_on_contents _ _ _).mpr
  apply ran.weaken
  · rintro _ after ⟨evaluated, holds, extent⟩
    have lasting := stands.banks.walked evaluated.walked (Nat.le_of_eq base.symm)
    have walked := evaluated.walked
    refine And.intro
      { stands := ⟨stands.frontier, lasting, stands.hash⟩
        recorded := ⟨recorded.tokens, recorded.hashes, recorded.reads, fun kind => ?_⟩
        answered := ?_
        hosted := ?_
        banked :=
          { epoch := banked.epoch
            base := banked.base
            active := banked.active
            room := by
              rw [List.length_append, count]
              omega
            opened := banked.opened.walked walked
            qsaEpoch := by
              dsimp only
              rw [walked.qsa]
              exact banked.qsaEpoch
            evaluated := by
              dsimp only
              rw [extent, List.length_append, offset, count]
            holds := holds
            checkpoint := fun taken => ?_ }
        offset := offset
        kind := next.kind
        results := ?_ } processed
    · dsimp only
      rw [evaluated.input]
      exact recorded.inputs kind
    · -- an append makes no promise here; all others go row by row
      have made := (@chunk_states _ kernels options zeros _ _ _ _ _ input.txn.kind
        (recorded_handed recorded) inputs).2
      have alone (other : input.txn.kind ≠ .appendKnown) := by
        have tiled : decide (Tiled input.txn.kind input.tokenIds.length) = false :=
          decide_eq_false fun tiled => other tiled.1
        rw [tiled, base, offset, ← count] at evaluated
        exact results_added answered rfl evaluated made
      refine ⟨fun mtp other => ?_, fun back speculative => ?_⟩
      · exact (alone (next.kind ▸ other)).1 mtp other
      · have other : input.txn.kind ≠ .appendKnown := by
          rw [← next.kind, speculative]
          decide
        exact (alone other).2 back rfl speculative
    · have host := evaluated.beside.hostPredictions
      intro back speculative
      dsimp only
      rw [host]
      exact hosted back speculative
    · obtain ⟨early, gdn, ple⟩ := banked.checkpoint taken
      obtain ⟨value, made⟩ := walked.gdn
      obtain ⟨value', made'⟩ := walked.ple
      dsimp only
      rw [made, made', List.take_append_of_le_length early]
      exact ⟨by rw [List.length_append]; omega, gdn, ple⟩
    · have made := (@chunk_states _ kernels options zeros _ _ _ _ _ input.txn.kind
        (recorded_handed recorded) inputs).2
      rw [count, ← offset] at made
      have whole := @chunk_items_length _ kernels options input.chunkOffset
        device.contents.pleReadRows (inputPlace input.txn.kind input.chunkOffset)
        input.tokenIds.length device.contents.memory.workspace
      have results := evaluated_results fits.some_ whole evaluated made
      rw [offset] at results
      exact results
  · intro _ after spared
    exact ⟨stands.frontier, stands.banks.walked spared.toWalked (Nat.le_of_eq base.symm),
      stands.hash⟩

end Execute

end Q38.ProvisionalRows
