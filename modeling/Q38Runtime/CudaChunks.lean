import Q38Runtime.CudaTiles

/-! The rows of one chunk, in tiles or one by one. The states of the layers move on by the rows
of the chunk in order, and the results of the rows stand in the workspace. -/
namespace Q38.CudaChunks
open Contracts Imperative PleHash PleReadAhead QsaSelection StateBanks PooledRows StridedLoops
  LayerSweeps CudaBackend CudaRows CudaTiles

variable {v : Values} {kernels : Kernels v} {options : CudaOptions}
  {plan : Nat → Option Thrown}

section Loops
variable {σ ι : Type} {body : ι → DeviceCall σ Unit} {throws : Thrown → Device σ → Prop}

/-- The rule of a loop, with an invariant over the number of turns taken. -/
theorem for_each_ends (holds : Nat → Device σ → Prop) {items : List ι} {device : Device σ}
    (start : holds 0 device)
    (turn : ∀ index (inside : index < items.length) device, holds index device →
      Ends (body items[index]) (fun _ after => holds (index + 1) after) throws device) :
    Ends (forEach body items) (fun _ after => holds items.length after) throws device := by
  induction items generalizing holds device with
  | nil => exact start
  | cons item rest ih =>
      rw [forEach]
      apply (turn 0 (Nat.zero_lt_succ _) device start).chain
      intro _ after first
      apply ih (fun index => holds (index + 1)) first
      intro index inside
      exact turn (index + 1) (Nat.succ_lt_succ inside)

end Loops

/-! The turns of a loop over tiles. -/
section Turns
variable {size bound turn : Nat}

theorem turn_start (inside : turn < (strided 0 size bound).length) :
    (strided 0 size bound)[turn] = turn * size := by
  simp [strided, Nat.mul_comm]

theorem turn_inside (inside : turn < (strided 0 kPrefillTile bound).length) :
    turn * kPrefillTile < bound := by
  have member := List.getElem_mem inside
  rw [turn_start inside] at member
  exact ((mem_strided (by decide)).mp member).1

theorem turn_end (early : turn * size ≤ bound) :
    turn * size + min size (bound - turn * size) = min ((turn + 1) * size) bound := by
  rw [Nat.succ_mul]
  omega

theorem turns_all : min ((strided 0 kPrefillTile bound).length * kPrefillTile) bound = bound := by
  rw [strided, List.length_range']
  have ceiling := Nat.div_add_mod (bound - 0 + (kPrefillTile - 1)) kPrefillTile
  have rest := Nat.mod_lt (bound - 0 + (kPrefillTile - 1)) (show 0 < kPrefillTile by decide)
  rw [Nat.mul_comm] at ceiling
  omega

end Turns

section Results
variable (kernels) (options)

/-- What comes out of the last layer, row by row. -/
def outputs (stores : Stores v) (items : List (Item v)) : List v.Hyper :=
  (sweep (rowStep kernels (stageLayers options.stage)) stores items).2.map Prod.snd

/-- The states behind some rows. -/
def behind (stores : Stores v) (items : List (Item v)) : Stores v :=
  (sweep (rowStep kernels (stageLayers options.stage)) stores items).1

variable {kernels options} {stores : Stores v} {items more : List (Item v)}

theorem outputs_length : (outputs kernels options stores items).length = items.length := by
  rw [outputs, List.length_map, sweep_length]

theorem outputs_append : outputs kernels options stores (items ++ more) =
    outputs kernels options stores items ++
      outputs kernels options (behind kernels options stores items) more := by
  rw [outputs, sweep_append, List.map_append]
  rfl

theorem behind_append : behind kernels options stores (items ++ more) =
    behind kernels options (behind kernels options stores items) more := by
  rw [behind, sweep_append]
  rfl

/-- Where a row's results stand: a tile counts from the start of its chunk. -/
def resultRow (tiled : Bool) (chunkOffset row : Nat) : Nat :=
  if tiled then row else chunkOffset + row

end Results

section Tiles
variable {reads : Nat → List Row} {stores : Stores v} {base : Nat} {place : Place}
  {current : List v.Hyper} {rows : List v.PleRows} {device : Device (Memory v)}

/-- The banks that a stage has are open. -/
structure Opened (options : CudaOptions) (memory : Memory v) : Prop where
  gdn : memory.gdnState.active = true
  qsa : memory.qsaState.active = true
  ple : options.stage = .stage0 → memory.pleState.active = true

theorem ple_on_front {stage : Stage} {layer : LayerWeights} (listed : layer ∈ stageLayers stage)
    (first : layer.hasPle = true) : stage = .stage0 := by
  unfold stageLayers at listed
  split at listed
  · assumption
  · obtain ⟨member, ple, _⟩ := bound_locals _ _ _ layer listed
    rw [ple.mp first] at member
    exact absurd member (by decide)

theorem Opened.active {memory : Memory v} (opened : Opened options memory) {layer : LayerWeights}
    (listed : layer ∈ stageLayers options.stage) : Active layer memory :=
  ⟨opened.gdn, opened.qsa, fun first => opened.ple (ple_on_front listed first)⟩

theorem Opened.walked {memory after : Memory v} (opened : Opened options memory)
    (walked : Walked base memory after) : Opened options after where
  gdn := by
    obtain ⟨value, made⟩ := walked.gdn
    rw [made]
    exact opened.gdn
  qsa := by
    rw [walked.qsa]
    exact opened.qsa
  ple front := by
    obtain ⟨value, made⟩ := walked.ple
    rw [made]
    exact opened.ple front

/-- Rows behind each other in all attention layers of a stage. -/
def Reaches (options : CudaOptions) (stores : Stores v) (position : Nat) : Prop :=
  ∀ layer ∈ stageLayers options.stage, layer.qsa = true →
    (stores.rows layer.stateLocal).length = position

/-- A tile of rows through a whole stage. -/
theorem stage_tile_ends (agree : Agree kernels)
    (holds : Holds kernels (stageLayers options.stage) device.contents stores)
    (reaches : Reaches options stores place.position) (behind_ : base ≤ place.position)
    (some_ : current ≠ []) (limit : place.position + current.length ≤ kQ38ContextLimit)
    (opened : Opened options device.contents)
    (handed : rows = delivered kernels reads place.transactionOffset current.length) :
    Ends (runTileLayers kernels plan reads place (stageLayers options.stage) current)
      (fun result after => Kept base device.contents after.contents ∧
        Holds kernels (stageLayers options.stage) after.contents
          (behind kernels options stores (rows.zip current)) ∧
        result = outputs kernels options stores (rows.zip current))
      (fun _ after => ¬ Calm plan ∧ Kept base device.contents after.contents) device := by
  have same : rows.length = current.length := by rw [handed, delivered_length]
  have distinct := stage_layers_distinct options.stage
  have ended := @tile_layers_ends _ _ plan _ _ _ _ _ _ _ _ agree (own_rows distinct) _
    (fun _ listed => listed) distinct holds reaches behind_ some_ limit
    (fun _ listed => opened.active listed) handed
  rw [tiles_through distinct] at ended
  apply ended.weaken
  · rintro result after ⟨kept, stood, zipped, length⟩
    refine ⟨kept, stood, ?_⟩
    rw [outputs, ← zipped, List.map_snd_zip (by rw [length, same])]
  · exact fun _ _ threw => threw

end Tiles

/-! Every row that goes through a stage adds a row to each of its attention layers. -/
section Growth
variable {layer : LayerWeights} {stores : Stores v}

theorem layer_rows_own (attention : layer.qsa = true) (items : List (Item v)) :
    ((sweeps (layerSteps kernels layer) stores items).1.rows layer.stateLocal).length =
      (stores.rows layer.stateLocal).length + items.length := by
  have mixed (stores : Stores v) (items : List (Item v)) :
      ((sweep (mixTurn kernels layer) stores items).1.rows layer.stateLocal).length =
        (stores.rows layer.stateLocal).length + items.length := by
    simp only [mixTurn, attention, if_true, sweep_on_part, qsa_turns, rowsPart,
      Function.update_self]
    simp [newRows]
  unfold layerSteps
  split
  · simp only [sweeps, mixed, sweep_length]
    rw [sweep_on_part]
    rfl
  · exact mixed stores items

theorem stage_rows {layers : List LayerWeights} (distinct : layers.Pairwise Distinct)
    (items : List (Item v)) {place added : Nat}
    (same : ∀ layer ∈ layers, layer.qsa = true → layer.stateLocal = place → added = items.length)
    (other : (∀ layer ∈ layers, layer.qsa = true → layer.stateLocal ≠ place) → added = 0) :
    ((sweeps (layers.flatMap (layerSteps kernels)) stores items).1.rows place).length =
      (stores.rows place).length + added := by
  induction layers generalizing stores items added with
  | nil =>
      rw [other fun _ listed => absurd listed List.not_mem_nil]
      rfl
  | cons layer rest ih =>
      obtain ⟨apart, distinct⟩ := List.pairwise_cons.mp distinct
      have length := @sweeps_length _ _ (layerSteps kernels layer) stores items
      rw [List.flatMap_cons, sweeps_append]
      by_cases here : layer.qsa = true ∧ layer.stateLocal = place
      · -- no later layer writes these rows
        rw [same layer List.mem_cons_self here.1 here.2,
          @ih _ distinct _ 0 (fun later listed attention there => absurd
            (here.2.trans there.symm) ((apart later listed).1 (here.1.trans attention.symm)))
            fun _ => rfl]
        rw [← here.2, layer_rows_own here.1, Nat.add_zero]
      · rw [@ih _ distinct _ added (fun later listed attention there => by
            rw [length]
            exact same later (List.mem_cons_of_mem _ listed) attention there)
          (fun others => other fun later listed attention there => by
            rcases List.mem_cons.mp listed with rfl | listed
            · exact here ⟨attention, there⟩
            · exact others later listed attention there)]
        rw [layer_rows_apart fun attention there => here ⟨attention, there.symm⟩]

theorem Reaches.behind {position : Nat} (reaches : Reaches options stores position)
    (items : List (Item v)) :
    Reaches options (behind kernels options stores items) (position + items.length) := by
  intro layer listed attention
  have distinct := stage_layers_distinct options.stage
  unfold CudaChunks.behind
  rw [← tiles_through distinct, stage_rows distinct items (fun _ _ _ _ => rfl)
    fun none => absurd rfl (none layer listed attention), reaches layer listed attention]

end Growth

/-! The loops over the rows of a chunk. -/
section Chunks
variable (kernels options)

/-- What the rows of a chunk are made of: `dataIndex` says where the input of each stands. -/
def chunkItems (reads : Nat → List Row) (workspace : Workspace v) (dataIndex : Nat → Nat)
    (chunkOffset count : Nat) : List (Item v) :=
  (delivered kernels reads chunkOffset count).zip
    ((List.range count).map fun row => inputRow kernels options workspace (dataIndex row))

/-- The arrays of a workspace that evaluating rows does not write. -/
structure Beside (before after : Workspace v) : Prop where
  tokens : after.tokens = before.tokens
  hostPredictions : after.hostPredictions = before.hostPredictions
  pending : after.mtpPendingHc = before.mtpPendingHc
  candidate : after.mtpCandidateHc = before.mtpCandidateHc

/-- Some rows of a chunk are done: the states are those behind them, and their results are where
they belong. -/
structure Evaluated (base chunkOffset : Nat) (tiled writeResult : Bool) (before : Memory v)
    (stores : Stores v) (items : List (Item v)) (done : Nat) (after : Memory v) : Prop where
  walked : Walked base before after
  holds : Holds kernels (stageLayers options.stage) after
    (behind kernels options stores (items.take done))
  beside : Beside before.workspace after.workspace
  input : inputRow kernels options after.workspace = inputRow kernels options before.workspace
  boundary : options.stage = .stage0 → writeResult = true → ∀ row < done,
    some (after.workspace.boundary row) = (outputs kernels options stores items)[row]?
  hidden : options.mtp = true → ∀ row < done,
    some (after.workspace.finalHc (resultRow tiled chunkOffset row)) =
      (outputs kernels options stores items)[row]?
  hiddenBefore : tiled = false → ∀ place < chunkOffset,
    after.workspace.finalHc place = before.workspace.finalHc place
  predicted : options.stage ≠ .stage0 → writeResult = true → ∀ row < done,
    (tiled = true → row + 1 = items.length) →
    some (after.workspace.predictions (resultRow tiled chunkOffset row)) =
      (outputs kernels options stores items)[row]?.map fun last =>
        kernels.argmax (kernels.head last)
  predictedBefore : tiled = false → ∀ place < chunkOffset,
    after.workspace.predictions place = before.workspace.predictions place
  scored : options.stage ≠ .stage0 → writeResult = true → 0 < done →
    (tiled = true → done = items.length) →
    some after.workspace.logits =
      (outputs kernels options stores items)[done - 1]?.map kernels.head

/-- What every chunk that throws leaves behind: nothing that was committed is written. -/
structure Spared (base : Nat) (before after : Memory v) : Prop extends
    Walked base before after where
  pending : after.workspace.mtpPendingHc = before.workspace.mtpPendingHc

variable {kernels options} {base chunkOffset : Nat} {tiled writeResult : Bool}
  {before after : Memory v} {stores : Stores v} {items : List (Item v)} {done : Nat}

theorem kept_spared (kept : Kept base before after) : Spared base before after :=
  ⟨kept.toWalked, by rw [kept.workspace]⟩

theorem Spared.trans {between : Memory v} (first : Spared base before between)
    (second : Spared base between after) : Spared base before after :=
  ⟨first.toWalked.trans second.toWalked, second.pending.trans first.pending⟩

theorem Evaluated.spared (evaluated : Evaluated kernels options base chunkOffset tiled writeResult
    before stores items done after) : Spared base before after :=
  ⟨evaluated.walked, evaluated.beside.pending⟩

theorem Beside.trans {before between after : Workspace v} (first : Beside before between)
    (second : Beside between after) : Beside before after where
  tokens := second.tokens.trans first.tokens
  hostPredictions := second.hostPredictions.trans first.hostPredictions
  pending := second.pending.trans first.pending
  candidate := second.candidate.trans first.candidate

theorem kept_beside (kept : Kept base before after) :
    Beside before.workspace after.workspace := by
  rw [kept.workspace]
  exact ⟨rfl, rfl, rfl, rfl⟩

theorem evaluated_none
    (holds : Holds kernels (stageLayers options.stage) before stores) :
    Evaluated kernels options base chunkOffset tiled writeResult before stores items 0 before where
  walked := Walked.refl base before
  holds := holds
  beside := ⟨rfl, rfl, rfl, rfl⟩
  input := rfl
  boundary _ _ row early := absurd early (Nat.not_lt_zero row)
  hidden _ row early := absurd early (Nat.not_lt_zero row)
  hiddenBefore _ _ _ := rfl
  predicted _ _ row early := absurd early (Nat.not_lt_zero row)
  predictedBefore _ _ _ := rfl
  scored _ _ some_ := absurd some_ (Nat.lt_irrefl 0)

variable {reads : Nat → List Row} {dataIndex : Nat → Nat} {count : Nat}

theorem chunk_items_length (workspace : Workspace v) :
    (chunkItems kernels options reads workspace dataIndex chunkOffset count).length = count := by
  simp [chunkItems, delivered]

/-- Some rows of a chunk, by themselves. -/
theorem chunk_items_slice (workspace : Workspace v) {first tokens : Nat}
    (inside : first + tokens ≤ count) :
    ((chunkItems kernels options reads workspace dataIndex chunkOffset count).drop first).take
        tokens =
      (delivered kernels reads (chunkOffset + first) tokens).zip
        ((List.range tokens).map fun token =>
          inputRow kernels options workspace (dataIndex (first + token))) := by
  apply List.ext_getElem
  · simp [chunkItems, delivered]
    omega
  · intro row _ _
    simp [chunkItems, delivered, Nat.add_assoc]

theorem behind_next (items : List (Item v)) (done more : Nat) :
    behind kernels options stores (items.take (done + more)) =
      behind kernels options (behind kernels options stores (items.take done))
        ((items.drop done).take more) := by
  rw [List.take_add, behind_append]

theorem outputs_next (items : List (Item v)) {done more row : Nat} (from_ : done ≤ row)
    (upTo : row < done + more) (inside : done + more ≤ items.length) :
    (outputs kernels options stores items)[row]? =
      (outputs kernels options (behind kernels options stores (items.take done))
        ((items.drop done).take more))[row - done]? := by
  have split : items = items.take done ++ ((items.drop done).take more ++
      (items.drop done).drop more) := by rw [List.take_append_drop, List.take_append_drop]
  have early : (items.take done).length = done := by
    rw [List.length_take]
    omega
  have middle : ((items.drop done).take more).length = more := by
    rw [List.length_take, List.length_drop]
    omega
  conv_lhs => rw [split]
  rw [outputs_append, outputs_append, List.getElem?_append_right, List.getElem?_append_left,
    outputs_length, early]
  · rw [outputs_length, outputs_length, early, middle]
    omega
  · rw [outputs_length, early]
    exact from_

/-- The input of a row does not depend on what rows before it have left. -/
theorem input_kept {workspace workspace' : Workspace v}
    (tokens : workspace'.tokens = workspace.tokens)
    (boundary : options.stage ≠ .stage0 → workspace'.boundary = workspace.boundary) :
    inputRow kernels options workspace' = inputRow kernels options workspace := by
  funext index
  unfold inputRow
  split
  · rw [tokens]
  · next back => rw [boundary back]

/-- What the tile results are, beside the arrays they leave. -/
theorem tile_results_beside (count first tokens : Nat) (current : List v.Hyper)
    (workspace : Workspace v) : Beside workspace
      (tileResults kernels options count first tokens writeResult current workspace) :=
  ⟨rfl, rfl, rfl, rfl⟩

/-- The next rows of a chunk, done by one tile. -/
theorem Evaluated.tile {first tokens : Nat} {ready middle : Memory v}
    (evaluated : Evaluated kernels options base chunkOffset true writeResult before stores items
      first ready) (some_ : 0 < tokens) (inside : first + tokens ≤ items.length)
    (kept : Kept base ready middle)
    (stood : Holds kernels (stageLayers options.stage) middle
      (behind kernels options (behind kernels options stores (items.take first))
        ((items.drop first).take tokens))) {current : List v.Hyper}
    (made : current = outputs kernels options (behind kernels options stores (items.take first))
      ((items.drop first).take tokens)) :
    Evaluated kernels options base chunkOffset true writeResult before stores items
      (first + tokens) { middle with
        workspace := tileResults kernels options items.length first tokens writeResult current
          middle.workspace } := by
  have length : current.length = tokens := by
    rw [made, outputs_length, List.length_take, List.length_drop]
    omega
  have found (row : Nat) (from_ : first ≤ row) (upTo : row < first + tokens) :
      current[row - first]? = (outputs kernels options stores items)[row]? := by
    rw [outputs_next items from_ upTo inside, made]
  have final (whole : first + tokens = items.length) :
      current.getLast? = (outputs kernels options stores items)[items.length - 1]? := by
    rw [List.getLast?_eq_getElem?, length, ← found (items.length - 1) (by omega) (by omega)]
    congr 1
    omega
  have last_output : ∃ last,
      (outputs kernels options stores items)[items.length - 1]? = some last :=
    ⟨_, List.getElem?_eq_getElem (by rw [outputs_length]; omega)⟩
  obtain ⟨last, last_output⟩ := last_output
  have beside := evaluated.beside.trans (kept_beside kept)
  refine
    { walked := (evaluated.walked.trans kept.toWalked).trans (Walked.of_workspace _)
      holds := by
        rw [behind_next]
        exact stood.set_workspace _
      beside := beside.trans (tile_results_beside _ _ _ _ _)
      input := ?_
      boundary := ?_
      hidden := ?_
      hiddenBefore := fun rows => absurd rows (by decide)
      predicted := ?_
      predictedBefore := fun rows => absurd rows (by decide)
      scored := ?_ }
  · -- stage 1 does not write the boundary that it reads
    rw [← evaluated.input]
    apply input_kept
    · exact (kept_beside kept).tokens
    · intro back
      simp only [tileResults, back, false_and, if_false]
      rw [kept.workspace]
  · intro front write row early
    simp only [tileResults, front, write, and_self, if_true]
    rcases Nat.lt_or_ge row first with old | new
    · rw [put_before old, kept.workspace]
      exact evaluated.boundary front write row old
    · rw [put_found new (by omega), found row new early]
  · intro on row early
    simp only [tileResults, on, if_true, resultRow]
    rcases Nat.lt_or_ge row first with old | new
    · rw [put_before old, kept.workspace]
      have earlier := evaluated.hidden on row old
      simpa only [resultRow, if_true] using earlier
    · rw [put_found new (by omega), found row new early]
  · -- only the tile with the last row predicts
    intro back write row early ends
    have ends := ends rfl
    have whole : first + tokens = items.length := by omega
    have place : row = items.length - 1 := by omega
    subst place
    simp only [tileResults, back, write, whole, ne_eq, not_false_eq_true, and_self, if_true,
      resultRow, final whole, last_output, Option.map_some, Option.toList_some]
    rw [put_here (Nat.le_refl _) (by simp)]
    simp
  · intro back write _ whole
    have whole := whole rfl
    simp only [tileResults, back, write, whole, ne_eq, not_false_eq_true, and_self, if_true,
      final whole, last_output, Option.map_some, Option.getD_some]

theorem run_tile_ends (agree : Agree kernels) {first : Nat} {device : Device (Memory v)}
    (evaluated : Evaluated kernels options base chunkOffset true writeResult before stores
      (chunkItems kernels options reads before.workspace (fun row => row) chunkOffset count) first
      device.contents)
    (more : first < count) (reaches : Reaches options stores (base + chunkOffset))
    (limit : base + chunkOffset + count ≤ kQ38ContextLimit) (opened : Opened options before) :
    Ends (runTile kernels plan reads options count chunkOffset base writeResult first)
      (fun _ after => Evaluated kernels options base chunkOffset true writeResult before stores
        (chunkItems kernels options reads before.workspace (fun row => row) chunkOffset count)
        (first + min kPrefillTile (count - first)) after.contents)
      (fun _ after => ¬ Calm plan ∧ Spared base before after.contents) device := by
  generalize named : chunkItems kernels options reads before.workspace (fun row => row)
    chunkOffset count = items at *
  have whole : items.length = count := by
    rw [← named]
    exact chunk_items_length before.workspace
  set tokens := min kPrefillTile (count - first) with tokens_named
  have some_ : 0 < tokens := by
    have tile : 0 < kPrefillTile := by decide
    omega
  have inside : first + tokens ≤ count := by omega
  have spared := evaluated.spared
  unfold runTile
  apply may_throw_then
  · exact fun faulty _ => ⟨faulty, spared⟩
  rw [ends_bind, ends_look]
  have input : ((List.range tokens).map fun token =>
      inputRow kernels options device.contents.workspace (first + token)) =
      (List.range tokens).map fun token =>
        inputRow kernels options before.workspace (first + token) := by
    rw [evaluated.input]
  have slice_ := @chunk_items_slice _ kernels options chunkOffset reads (fun row => row) _
    before.workspace _ _ inside
  rw [named] at slice_
  have early : (items.take first).length = first := by
    rw [List.length_take]
    omega
  have reached := @Reaches.behind _ kernels _ _ _ reaches (items.take first)
  rw [early] at reached
  have ran := @stage_tile_ends _ _ _ plan reads _ base ⟨chunkOffset + first, first, base +
    chunkOffset + first⟩ ((List.range tokens).map fun token =>
      inputRow kernels options before.workspace (first + token))
        (delivered kernels reads (chunkOffset + first) tokens) ⟨device.contents, device.ticks + 1⟩
        agree evaluated.holds reached (by dsimp only; omega) (fun empty => by
      have length := congrArg List.length empty
      rw [List.length_map, List.length_range] at length
      simp only [List.length_nil] at length
      omega) (by simp only [List.length_map, List.length_range]; omega)
        (opened.walked evaluated.walked) (by rw [List.length_map, List.length_range])
  rw [← slice_] at ran
  rw [input]
  apply (ran.weaken (fun _ _ returned => returned) fun _ _ ⟨faulty, kept⟩ =>
    ⟨faulty, spared.trans (kept_spared kept)⟩).chain
  rintro current middle ⟨kept, stood, made⟩
  apply may_throw_then
  · exact fun faulty _ => ⟨faulty, spared.trans (kept_spared kept)⟩
  unfold onWorkspace
  rw [ends_bind, ends_change]
  have done := evaluated.tile some_ (by omega) kept stood made
  rw [whole] at done
  apply ends_may_throw
  · exact fun faulty _ => ⟨faulty, done.spared⟩
  · exact done

/-- The next row of a chunk, by itself. -/
theorem Evaluated.row {token : Nat} {ready middle : Memory v}
    (evaluated : Evaluated kernels options base chunkOffset false writeResult before stores items
      token ready) (inside : token + 1 ≤ items.length) (kept : Kept base ready middle)
    (stood : Holds kernels (stageLayers options.stage) middle
      (behind kernels options (behind kernels options stores (items.take token))
        ((items.drop token).take 1))) {current : v.Hyper}
    (made : [current] = outputs kernels options (behind kernels options stores (items.take token))
      ((items.drop token).take 1)) :
    Evaluated kernels options base chunkOffset false writeResult before stores items
      (token + 1) { middle with
        workspace := rowResults kernels options token (chunkOffset + token) writeResult current
          middle.workspace } := by
  have found : (outputs kernels options stores items)[token]? = some current := by
    rw [outputs_next items (Nat.le_refl token) (Nat.lt_succ_self token) inside, ← made,
      Nat.sub_self]
    rfl
  have beside := evaluated.beside.trans (kept_beside kept)
  refine
    { walked := (evaluated.walked.trans kept.toWalked).trans (Walked.of_workspace _)
      holds := by
        rw [behind_next]
        exact stood.set_workspace _
      beside := beside.trans ⟨rfl, rfl, rfl, rfl⟩
      input := ?_
      boundary := ?_
      hidden := ?_
      hiddenBefore := ?_
      predicted := ?_
      predictedBefore := ?_
      scored := ?_ }
  · rw [← evaluated.input]
    apply input_kept
    · exact (kept_beside kept).tokens
    · intro back
      simp only [rowResults, back, false_and, if_false]
      rw [kept.workspace]
  · intro front write row early
    simp only [rowResults, front, write, and_self, if_true]
    rcases Nat.lt_or_ge row token with old | new
    · rw [put_before old, kept.workspace]
      exact evaluated.boundary front write row old
    · rw [put_only new early, Nat.le_antisymm (Nat.le_of_lt_succ early) new, found]
  · intro on row early
    have earlier := evaluated.hidden on row
    simp only [rowResults, on, if_true, resultRow, Bool.false_eq_true, if_false] at earlier ⊢
    rcases Nat.lt_or_ge row token with old | new
    · rw [put_before (Nat.add_lt_add_left old _), kept.workspace]
      exact earlier old
    · rw [put_only (Nat.add_le_add_left new _) (by omega),
        Nat.le_antisymm (Nat.le_of_lt_succ early) new, found]
  · -- rows before the chunk are those of earlier chunks
    intro rows place early
    have earlier := evaluated.hiddenBefore rows place early
    simp only [rowResults]
    split
    · rw [put_before (Nat.lt_add_right _ early), kept.workspace]
      exact earlier
    · rw [kept.workspace]
      exact earlier
  · intro back write row early _
    have earlier := evaluated.predicted back write row
    simp only [rowResults, back, write, ne_eq, not_false_eq_true, and_self, if_true, resultRow,
      Bool.false_eq_true, if_false, false_implies, forall_const] at earlier ⊢
    rcases Nat.lt_or_ge row token with old | new
    · rw [put_before (Nat.add_lt_add_left old _), kept.workspace]
      exact earlier old
    · rw [put_only (Nat.add_le_add_left new _) (by omega),
        Nat.le_antisymm (Nat.le_of_lt_succ early) new, found]
      rfl
  · intro rows place early
    have earlier := evaluated.predictedBefore rows place early
    simp only [rowResults]
    split
    · rw [put_before (Nat.lt_add_right _ early), kept.workspace]
      exact earlier
    · rw [kept.workspace]
      exact earlier
  · intro back write _ _
    simp only [rowResults, back, write, ne_eq, not_false_eq_true, and_self, if_true,
      Nat.add_sub_cancel, found, Option.map_some]

theorem run_one_ends (agree : Agree kernels) {token : Nat} {device : Device (Memory v)}
    (evaluated : Evaluated kernels options base chunkOffset false writeResult before stores
      (chunkItems kernels options reads before.workspace dataIndex chunkOffset count) token
      device.contents)
    (more : token < count) (reaches : Reaches options stores (base + chunkOffset))
    (limit : base + chunkOffset + count ≤ kQ38ContextLimit) (opened : Opened options before) :
    Ends (runOne kernels plan reads options (dataIndex token) token (chunkOffset + token)
        (base + chunkOffset + token) writeResult)
      (fun _ after => Evaluated kernels options base chunkOffset false writeResult before stores
        (chunkItems kernels options reads before.workspace dataIndex chunkOffset count)
        (token + 1) after.contents)
      (fun _ after => ¬ Calm plan ∧ Spared base before after.contents) device := by
  generalize named : chunkItems kernels options reads before.workspace dataIndex
    chunkOffset count = items at *
  have whole : items.length = count := by
    rw [← named]
    exact chunk_items_length before.workspace
  have spared := evaluated.spared
  have early : (items.take token).length = token := by
    rw [List.length_take]
    omega
  have slice_ := @chunk_items_slice _ kernels options chunkOffset reads dataIndex _
    before.workspace token 1 more
  rw [named] at slice_
  have reached := @Reaches.behind _ kernels _ _ _ reaches (items.take token)
  rw [early] at reached
  have ran := @stage_tile_ends _ _ _ plan reads _ base ⟨chunkOffset + token, token, base +
    chunkOffset + token⟩ [inputRow kernels options before.workspace (dataIndex token)]
    (delivered kernels reads (chunkOffset + token) 1) ⟨device.contents, device.ticks + 1⟩ agree
    evaluated.holds reached (by dsimp only; omega) (List.cons_ne_nil _ _)
    (by rw [List.length_singleton]; dsimp only; omega) (opened.walked evaluated.walked) rfl
  have alone : (List.range 1).map (fun row =>
      inputRow kernels options before.workspace (dataIndex (token + row))) =
      [inputRow kernels options before.workspace (dataIndex token)] := rfl
  rw [alone] at slice_
  rw [← slice_] at ran
  unfold runOne
  apply may_throw_then
  · exact fun faulty _ => ⟨faulty, spared⟩
  rw [ends_bind, ends_look, evaluated.input]
  -- a row goes through the layers as a tile of one row does
  have single := (layers_of_one agree ⟨chunkOffset + token, token, base + chunkOffset + token⟩
    (stageLayers options.stage) (inputRow kernels options before.workspace (dataIndex token))
    (by dsimp only; omega)).mpr ran
  apply (single.weaken (fun _ _ returned => returned) fun _ _ ⟨faulty, kept⟩ =>
    ⟨faulty, spared.trans (kept_spared kept)⟩).chain
  rintro current middle ⟨kept, stood, made⟩
  apply may_throw_then
  · exact fun faulty _ => ⟨faulty, spared.trans (kept_spared kept)⟩
  exact evaluated.row (by omega) kept stood made

/-- Whether a chunk goes in tiles. -/
def Tiled (kind : TxnKind) (count : Nat) : Prop := kind = .appendKnown ∧ 1 < count

instance (kind : TxnKind) (count : Nat) : Decidable (Tiled kind count) :=
  inferInstanceAs (Decidable (_ ∧ _))

/-- Where the input of a row of a chunk stands. -/
def inputPlace (kind : TxnKind) (chunkOffset row : Nat) : Nat :=
  if kind = .speculative then chunkOffset + row else row

theorem evaluate_rows_ends (agree : Agree kernels) {kind : TxnKind} {device : Device (Memory v)}
    (holds : Holds kernels (stageLayers options.stage) device.contents stores)
    (reaches : Reaches options stores (base + chunkOffset))
    (limit : base + chunkOffset + count ≤ kQ38ContextLimit)
    (opened : Opened options device.contents) :
    Ends (evaluateRows kernels plan reads options kind base count chunkOffset writeResult)
      (fun _ after => Evaluated kernels options base chunkOffset (decide (Tiled kind count))
        writeResult device.contents stores
        (chunkItems kernels options reads device.contents.workspace (inputPlace kind chunkOffset)
          chunkOffset count) count after.contents)
      (fun _ after => ¬ Calm plan ∧ Spared base device.contents after.contents) device := by
  unfold evaluateRows
  by_cases tiled : Tiled kind count
  · -- the turns of the loop over the tiles
    have append := tiled.1
    have places : inputPlace kind chunkOffset = fun row => row := by
      funext row
      simp [inputPlace, append]
    have condition : kind = .appendKnown ∧ 1 < count := tiled
    rw [if_pos condition, decide_eq_true tiled, places]
    have turns := @for_each_ends _ _ (runTile kernels plan reads options count chunkOffset base
        writeResult) (fun _ after => ¬ Calm plan ∧ Spared base device.contents after.contents)
      (fun turn after => Evaluated kernels options base chunkOffset true writeResult
        device.contents stores (chunkItems kernels options reads device.contents.workspace
          (fun row => row) chunkOffset count) (min (turn * kPrefillTile) count) after.contents)
      (strided 0 kPrefillTile count) device (by
        rw [Nat.zero_mul, Nat.zero_min]
        exact evaluated_none holds)
      (by
        intro turn inside after evaluated
        have early := turn_inside inside
        rw [turn_start inside]
        rw [Nat.min_eq_left (Nat.le_of_lt early)] at evaluated
        have next := @run_tile_ends _ _ _ plan _ _ _ _ _ _ _ agree _ _ evaluated early reaches
          limit opened
        rw [turn_end (Nat.le_of_lt early)] at next
        exact next)
    rw [turns_all] at turns
    exact turns
  · have condition : ¬ (kind = .appendKnown ∧ 1 < count) := tiled
    rw [if_neg condition, decide_eq_false tiled]
    have turns := @for_each_ends _ _ (fun token => runOne kernels plan reads options
        (inputPlace kind chunkOffset token) token (chunkOffset + token)
        (base + chunkOffset + token) writeResult)
      (fun _ after => ¬ Calm plan ∧ Spared base device.contents after.contents)
      (fun token after => Evaluated kernels options base chunkOffset false writeResult
        device.contents stores (chunkItems kernels options reads device.contents.workspace
          (inputPlace kind chunkOffset) chunkOffset count) token after.contents)
      (List.range count) device (evaluated_none holds)
      (by
        intro token inside after evaluated
        rw [List.getElem_range]
        rw [List.length_range] at inside
        exact run_one_ends agree evaluated inside reaches limit opened)
    rw [List.length_range] at turns
    exact turns

theorem Evaluated.mark (evaluated : Evaluated kernels options base chunkOffset tiled writeResult
    before stores items done after) (extent : Nat) :
    Evaluated kernels options base chunkOffset tiled writeResult before stores items done
      { after with qsaState := { after.qsaState with evaluated := extent } } :=
  { evaluated with
    walked :=
      { evaluated.walked with
        qsa := by
          dsimp only
          rw [evaluated.walked.qsa] }
    holds := ⟨evaluated.holds.gdn, evaluated.holds.ple, evaluated.holds.rows⟩ }

/-- The rows of a chunk, with the extent that they make. -/
theorem run_tokens_ends (agree : Agree kernels) {kind : TxnKind} {epoch : Nat}
    {device : Device (Memory v)}
    (holds : Holds kernels (stageLayers options.stage) device.contents stores)
    (reaches : Reaches options stores (base + chunkOffset))
    (limit : base + chunkOffset + count ≤ kQ38ContextLimit)
    (opened : Opened options device.contents)
    (same : device.contents.qsaState.epoch = epoch) (some_ : 0 < count)
    (room : device.contents.qsaState.committed + (chunkOffset + count) ≤
      device.contents.qsaState.capacity) :
    Ends (CudaBackend.runTokens kernels plan reads options kind epoch base count chunkOffset
      writeResult)
      (fun _ after => Evaluated kernels options base chunkOffset (decide (Tiled kind count))
          writeResult device.contents stores
          (chunkItems kernels options reads device.contents.workspace
            (inputPlace kind chunkOffset) chunkOffset count) count after.contents ∧
        after.contents.qsaState.evaluated = chunkOffset + count)
      (fun _ after => ¬ Calm plan ∧ Spared base device.contents after.contents) device := by
  unfold CudaBackend.runTokens
  apply (evaluate_rows_ends agree holds reaches limit opened).chain
  intro _ after evaluated
  have bank := evaluated.walked.qsa
  have open_ := opened.qsa
  unfold onQsa QsaBank.markEvaluated
  simp only [ends_on_contents, ends_bind, ends_look, ends_ensure, ends_change, id]
  refine ⟨fun _ => ⟨evaluated.mark _, trivial⟩, fun refused => absurd ?_ refused⟩
  rw [bank]
  exact ⟨open_, same, by omega, room⟩

end Chunks

end Q38.CudaChunks
