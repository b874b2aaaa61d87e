import Q38Runtime.CudaChunks
import Q38Runtime.CudaTransactions

/-! The rows of a session, and the states that belong to them: each row goes through the layers
of a stage behind those before it, from the zero states on. However a session was cut into
transactions, chunks and tiles, these are the states to be found behind it. -/
namespace Q38.CudaHistory
open Contracts Imperative PleHash PleReadAhead QsaSelection StateBanks PooledRows LayerSweeps
  CudaBackend CudaRows CudaTiles CudaChunks CudaTransactions

/-- A row: its token, and what enters the first layer of the stage. -/
abbrev Fed (v : Values) := Token × v.Hyper

section Rows
variable {v : Values} (kernels : Kernels v) (options : CudaOptions)

/-- The embedding rows of each token. -/
def rowsEach (config : PleHashConfig) : PleHashState → List Token → List (List Row)
  | _, [] => []
  | hash, token :: rest => tokenRows config hash token :: rowsEach config (shift hash token) rest

def itemsFrom (hash : PleHashState) (fed : List (Fed v)) : List (Item v) :=
  ((rowsEach options.hash hash (fed.map Prod.fst)).map kernels.fetch).zip (fed.map Prod.snd)

def zeroStores (zeros : Zeros v) : Stores v where
  gdn := fun _ => zeros.gdn
  ple := zeros.ple
  rows := fun _ => []

def hashBehind (fed : List (Fed v)) : PleHashState :=
  advance (reset options.hash) (fed.map Prod.fst)

/-- The states behind the rows of a session. -/
def statesBehind (zeros : Zeros v) (fed : List (Fed v)) : Stores v :=
  behind kernels options (zeroStores zeros) (itemsFrom kernels options (reset options.hash) fed)

/-- The last hidden states of some rows behind those of a session. -/
def hiddenOf (zeros : Zeros v) (fed rows : List (Fed v)) : List v.Hyper :=
  outputs kernels options (statesBehind kernels options zeros fed)
    (itemsFrom kernels options (hashBehind options fed) rows)

variable {kernels options} {hash : PleHashState} {zeros : Zeros v} {fed rows : List (Fed v)}

theorem rows_each_length (tokens : List Token) :
    (rowsEach options.hash hash tokens).length = tokens.length := by
  induction tokens generalizing hash with
  | nil => rfl
  | cons token rest ih => exact congrArg Nat.succ ih

theorem rows_each_append (tokens more : List Token) :
    rowsEach options.hash hash (tokens ++ more) =
      rowsEach options.hash hash tokens ++ rowsEach options.hash (advance hash tokens) more := by
  induction tokens generalizing hash with
  | nil => rfl
  | cons token rest ih => exact congrArg (_ :: ·) ih

theorem items_length : (itemsFrom kernels options hash fed).length = fed.length := by
  simp [itemsFrom, rows_each_length]

theorem items_append : itemsFrom kernels options hash (fed ++ rows) =
    itemsFrom kernels options hash fed ++
      itemsFrom kernels options (advance hash (fed.map Prod.fst)) rows := by
  unfold itemsFrom
  rw [List.map_append, List.map_append, rows_each_append, List.map_append, List.zip_append]
  rw [List.length_map, rows_each_length, List.length_map, List.length_map]

theorem hash_behind_append : hashBehind options (fed ++ rows) =
    advance (hashBehind options fed) (rows.map Prod.fst) := by
  rw [hashBehind, List.map_append, advance_append]
  rfl

/-- Rows behind a session go on from its states. -/
theorem states_append : statesBehind kernels options zeros (fed ++ rows) =
    behind kernels options (statesBehind kernels options zeros fed)
      (itemsFrom kernels options (hashBehind options fed) rows) := by
  rw [statesBehind, items_append, behind_append]
  rfl

theorem hidden_append (more : List (Fed v)) :
    hiddenOf kernels options zeros fed (rows ++ more) =
      hiddenOf kernels options zeros fed rows ++
        hiddenOf kernels options zeros (fed ++ rows) more := by
  rw [hiddenOf, items_append, outputs_append, hiddenOf, hiddenOf, states_append,
    hash_behind_append]

@[simp] theorem hidden_length : (hiddenOf kernels options zeros fed rows).length = rows.length := by
  rw [hiddenOf, outputs_length, items_length]

theorem states_reach : Reaches options (statesBehind kernels options zeros fed) fed.length := by
  have start : Reaches options (zeroStores zeros) 0 := fun _ _ _ => rfl
  have reached := @Reaches.behind _ kernels _ _ _ start
    (itemsFrom kernels options (reset options.hash) fed)
  rwa [Nat.zero_add, items_length] at reached

end Rows

/-! The reader hands over the rows of the tokens that were hashed. -/
section Reads
variable {v : Values} {config : PleHashConfig}

theorem rows_by_token (hash : PleHashState) (tokens : List Token) :
    rowsByToken tokens.length (rowsFrom config hash tokens) = rowsEach config hash tokens := by
  induction tokens generalizing hash with
  | nil => rfl
  | cons token rest ih =>
      have width : (tokenRows config hash token).length = kQ38PleRowsPerToken :=
        token_rows_length config hash token
      rw [rowsEach, ← ih (shift hash token)]
      simp only [rowsByToken, List.length_cons, List.range_succ_eq_map, List.map_cons,
        List.map_map, rowsFrom, Nat.zero_mul, List.drop_zero]
      rw [← width, List.take_left]
      congr 1
      apply List.map_congr_left
      intro place _
      rw [Function.comp_apply, Nat.succ_mul, Nat.add_comm, ← List.drop_drop, List.drop_left]

end Reads

/-! Without a layer that wants them, the embedding rows of an item do not matter. -/
section Carried
variable {v : Values} {kernels : Kernels v} {options : CudaOptions}

/-- A layer that does not look at the embedding rows of an item. -/
structure Carries (layer : Layer (Stores v) (Item v)) : Prop where
  state : ∀ stores rows rows' hyper, (layer stores (rows, hyper)).1 =
    (layer stores (rows', hyper)).1
  hyper : ∀ stores rows rows' hyper,
    (layer stores (rows, hyper)).2.2 = (layer stores (rows', hyper)).2.2

theorem mix_carries (layer : LayerWeights) : Carries (mixTurn kernels layer) := by
  unfold mixTurn
  split <;> exact ⟨fun _ _ _ _ => rfl, fun _ _ _ _ => rfl⟩

theorem through_carries {layers : List (Layer (Stores v) (Item v))}
    (each : ∀ layer ∈ layers, Carries layer) : Carries (through layers) := by
  induction layers with
  | nil => exact ⟨fun _ _ _ _ => rfl, fun _ _ _ _ => rfl⟩
  | cons layer rest ih =>
      have here := each layer List.mem_cons_self
      have later := ih fun layer listed => each layer (List.mem_cons_of_mem _ listed)
      -- the rest sees the same state and the same hyper streams
      have same (stores : Stores v) (rows rows' : v.PleRows) (hyper : v.Hyper) :
          (layer stores (rows, hyper)).2 = ((layer stores (rows, hyper)).2.1,
            (layer stores (rows', hyper)).2.2) := by
        rw [here.hyper stores rows' rows hyper]
      refine ⟨fun stores rows rows' hyper => ?_, fun stores rows rows' hyper => ?_⟩
      · rw [through, through, same stores rows rows' hyper, here.state stores rows rows' hyper]
        exact later.state _ _ _ _
      · rw [through, through, same stores rows rows' hyper, here.state stores rows rows' hyper]
        exact later.hyper _ _ _ _

theorem back_carries (back : options.stage ≠ .stage0) :
    Carries (rowStep kernels (stageLayers options.stage)) := by
  apply through_carries
  intro step listed
  obtain ⟨layer, member, listed⟩ := List.mem_flatMap.mp listed
  unfold layerSteps at listed
  split at listed
  · next first => exact absurd (ple_on_front member first) back
  · rw [List.mem_singleton.mp listed]
    exact mix_carries layer

/-- On stage 1 only the hyper streams of the items count. -/
theorem sweep_carries {layer : Layer (Stores v) (Item v)} (carries : Carries layer)
    {stores : Stores v} {items items' : List (Item v)}
    (same : items.map Prod.snd = items'.map Prod.snd) :
    (sweep layer stores items).1 = (sweep layer stores items').1 ∧
      (sweep layer stores items).2.map Prod.snd = (sweep layer stores items').2.map Prod.snd := by
  induction items generalizing stores items' with
  | nil =>
      rw [List.map_eq_nil_iff.mp same.symm]
      exact ⟨rfl, rfl⟩
  | cons item rest ih =>
      obtain ⟨item', rest', rfl, head, tail⟩ := List.map_eq_cons_iff.mp same.symm
      obtain ⟨rows, hyper⟩ := item
      obtain ⟨rows', hyper'⟩ := item'
      obtain rfl : hyper' = hyper := head
      have state := carries.state stores rows rows' hyper'
      have goes := @ih (layer stores (rows, hyper')).1 rest' tail.symm
      have here := carries.hyper stores rows rows' hyper'
      simp only [sweep, List.map_cons]
      rw [here, ← state]
      exact ⟨goes.1, congrArg (_ :: ·) goes.2⟩

end Carried

/-! Attention rows are only added. -/
section Added
variable {v : Values} {kernels : Kernels v} {options : CudaOptions}

theorem rows_added {layers : List LayerWeights} (stores : Stores v) (items : List (Item v))
    (place : Nat) :
    stores.rows place <+: (sweeps (layers.flatMap (layerSteps kernels)) stores items).1.rows
      place := by
  have mixed (layer : LayerWeights) (stores : Stores v) (items : List (Item v)) :
      stores.rows place <+: (sweep (mixTurn kernels layer) stores items).1.rows place := by
    unfold mixTurn
    split
    · rw [sweep_on_part, qsa_turns]
      by_cases here : place = layer.stateLocal
      · subst here
        simp only [rowsPart, Function.update_self]
        exact List.prefix_append _ _
      · simp only [rowsPart, Function.update_of_ne here]
        exact List.prefix_rfl
    · rw [sweep_on_part]
      exact List.prefix_rfl
  induction layers generalizing stores items with
  | nil => exact List.prefix_rfl
  | cons layer rest ih =>
      rw [List.flatMap_cons, sweeps_append]
      refine List.IsPrefix.trans ?_ (ih _ _)
      unfold layerSteps
      split
      · simp only [sweeps]
        refine List.IsPrefix.trans ?_ (mixed layer _ _)
        rw [sweep_on_part]
        exact List.prefix_rfl
      · exact mixed layer stores items

theorem behind_rows (stores : Stores v) (items : List (Item v)) (place : Nat) :
    stores.rows place <+: (behind kernels options stores items).rows place := by
  unfold behind
  rw [← tiles_through (stage_layers_distinct options.stage)]
  exact rows_added stores items place

end Added

end Q38.CudaHistory
