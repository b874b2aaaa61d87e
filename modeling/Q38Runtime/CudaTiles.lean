import Q38Runtime.CudaRows

/-! Evaluating rows in device memory. The working banks and the stored rows go on standing for
the states of the layers, and nothing that is committed is written. -/
namespace Q38.CudaTiles
open Contracts Imperative PleHash PleReadAhead QsaSelection StateBanks PooledRows StridedLoops
  LayerSweeps CudaBackend CudaRows

variable {v : Values} {kernels : Kernels v} {plan : Nat → Option Thrown}

/-- The slab kernels do the rows of a slab in order. -/
structure Agree (kernels : Kernels v) : Prop where
  ple : ∀ layer rows hypers state, rows.length = hypers.length →
    kernels.plePrefill layer rows hypers state =
      ((sweep (fun state (item : v.PleRows × v.Hyper) =>
          ((kernels.ple layer item.1 item.2 state).1, item.1,
            (kernels.ple layer item.1 item.2 state).2)) state (rows.zip hypers)).1,
        (sweep (fun state (item : v.PleRows × v.Hyper) =>
          ((kernels.ple layer item.1 item.2 state).1, item.1,
            (kernels.ple layer item.1 item.2 state).2)) state (rows.zip hypers)).2.map Prod.snd)
  gdn : ∀ layer hypers state, kernels.gdnPrefill layer hypers state =
    sweep (fun state hyper => kernels.gdn layer hyper state) state hypers
  attend : ∀ layer first hypers rows pooled,
    kernels.attendPrefill layer first hypers rows pooled =
      hypers.mapIdx fun token hyper => kernels.attend layer (first + token) hyper
        (slice 0 (first + token + 1) rows)
        (slice 0 ((first + token + 1) / kQ38QsaBlockTokens) pooled)
  moe : ∀ layer hypers, kernels.moePrefill layer hypers = hypers.map (kernels.moe layer)
  fuse : ∀ hypers tokens, kernels.fusePrefill hypers tokens =
    List.zipWith kernels.fuse hypers tokens

/-- Slab kernels made of the kernels for one row. -/
def oneByOne (kernels : Kernels v) : Kernels v :=
  { kernels with
    plePrefill := fun layer rows hypers state =>
      let made := sweep (fun state (item : v.PleRows × v.Hyper) =>
        ((kernels.ple layer item.1 item.2 state).1, item.1,
          (kernels.ple layer item.1 item.2 state).2)) state (rows.zip hypers)
      (made.1, made.2.map Prod.snd)
    gdnPrefill := fun layer hypers state =>
      sweep (fun state hyper => kernels.gdn layer hyper state) state hypers
    attendPrefill := fun layer first hypers rows pooled =>
      hypers.mapIdx fun token hyper => kernels.attend layer (first + token) hyper
        (slice 0 (first + token + 1) rows)
        (slice 0 ((first + token + 1) / kQ38QsaBlockTokens) pooled)
    moePrefill := fun layer hypers => hypers.map (kernels.moe layer)
    fusePrefill := fun hypers tokens => List.zipWith kernels.fuse hypers tokens }

theorem one_by_one_agrees (kernels : Kernels v) : Agree (oneByOne kernels) :=
  ⟨fun _ _ _ _ _ => rfl, fun _ _ _ => rfl, fun _ _ _ _ _ => rfl, fun _ _ => rfl, fun _ _ => rfl⟩

/-- Working banks and stored rows stand for the states of some layers. -/
structure Holds (kernels : Kernels v) (layers : List LayerWeights) (memory : Memory v)
    (stores : Stores v) : Prop where
  gdn : memory.gdnState.working = stores.gdn
  ple : ∀ layer ∈ layers, layer.hasPle = true → memory.pleState.working = stores.ple
  rows : ∀ layer ∈ layers, layer.qsa = true →
    Keeps kQ38QsaBlockTokens (kernels.pool layer.global)
      (memory.qsaState.cells layer.stateLocal) (stores.rows layer.stateLocal)

/-- What evaluating rows from the position `base` on leaves as it was in the banks. -/
structure Walked (base : Nat) (before after : Memory v) : Prop where
  gdn : ∃ value, after.gdnState = before.gdnState.setWorking value
  ple : ∃ value, after.pleState = before.pleState.setWorking value
  qsa : after.qsaState = { before.qsaState with
    cells := after.qsaState.cells, evaluated := after.qsaState.evaluated }
  kept : ∀ place pool rows, rows.length ≤ base →
    Keeps kQ38QsaBlockTokens pool (before.qsaState.cells place) rows →
    Keeps kQ38QsaBlockTokens pool (after.qsaState.cells place) rows
  mtp : after.mtpQsaState = before.mtpQsaState

theorem block_tokens_positive : 0 < kQ38QsaBlockTokens := by decide

section Walked
variable {base : Nat} {before between after : Memory v}

theorem Walked.refl (base : Nat) (memory : Memory v) : Walked base memory memory :=
  ⟨⟨_, (set_working _).symm⟩, ⟨_, (set_working _).symm⟩, rfl, fun _ _ _ _ keeps => keeps, rfl⟩

theorem Walked.trans (first : Walked base before between) (second : Walked base between after) :
    Walked base before after where
  gdn := by
    obtain ⟨value, made⟩ := first.gdn
    obtain ⟨value', made'⟩ := second.gdn
    exact ⟨value', by rw [made', made, set_set]⟩
  ple := by
    obtain ⟨value, made⟩ := first.ple
    obtain ⟨value', made'⟩ := second.ple
    exact ⟨value', by rw [made', made, set_set]⟩
  qsa := by rw [second.qsa, first.qsa]
  kept place pool rows early keeps :=
    second.kept place pool rows early (first.kept place pool rows early keeps)
  mtp := second.mtp.trans first.mtp

theorem Walked.of_workspace (update : Workspace v) :
    Walked base before { before with workspace := update } :=
  ⟨⟨_, (set_working _).symm⟩, ⟨_, (set_working _).symm⟩, rfl, fun _ _ _ _ keeps => keeps, rfl⟩

theorem Walked.of_gdn (value : Nat → v.Gdn) :
    Walked base before { before with gdnState := before.gdnState.setWorking value } :=
  ⟨⟨value, rfl⟩, ⟨_, (set_working _).symm⟩, rfl, fun _ _ _ _ keeps => keeps, rfl⟩

theorem Walked.of_ple (value : v.Ple) :
    Walked base before { before with pleState := before.pleState.setWorking value } :=
  ⟨⟨_, (set_working _).symm⟩, ⟨value, rfl⟩, rfl, fun _ _ _ _ keeps => keeps, rfl⟩

theorem Walked.of_rows (layer : LayerWeights) {first : Nat} (behind : base ≤ first)
    (new : List v.Row) :
    Walked base before { before with
      qsaState := storeRows kernels layer first new before.qsaState } where
  gdn := ⟨_, (set_working _).symm⟩
  ple := ⟨_, (set_working _).symm⟩
  qsa := rfl
  kept place pool rows early keeps := by
    by_cases here : place = layer.stateLocal
    · subst here
      simp only [storeRows, Function.update_self]
      exact keeps.beside block_tokens_positive (Nat.le_trans early behind)
    · simp only [storeRows, Function.update_of_ne here]
      exact keeps
  mtp := rfl

end Walked

/-! What the sweeps of a layer come to. -/
section Closed
variable {layer : LayerWeights} {stores : Stores v} {rows : List v.PleRows}
  {current : List v.Hyper}

theorem gdn_sweep (agree : Agree kernels) (recurrent : layer.qsa = false)
    (same : rows.length = current.length) :
    sweep (mixTurn kernels layer) stores (rows.zip current) =
      let made := kernels.gdnPrefill layer.global current (stores.gdn layer.stateLocal)
      ((gdnPart layer.stateLocal).store made.1 stores,
        rows.zip (kernels.moePrefill layer.global made.2)) := by
  have split := @sweep_carried _ _ (fun state hyper => ((kernels.gdn layer.global hyper state).1,
      kernels.moe layer.global (kernels.gdn layer.global hyper state).2))
        (stores.gdn layer.stateLocal) _ (rows.zip current)
  rw [@sweep_map _ _ (fun state hyper => kernels.gdn layer.global hyper state) _,
    List.map_snd_zip (Nat.le_of_eq same.symm), List.map_fst_zip (Nat.le_of_eq same)] at split
  simp only [mixTurn, recurrent, Bool.false_eq_true, if_false]
  rw [sweep_on_part, agree.gdn, agree.moe]
  have state := congrArg (fun swept => (gdnPart layer.stateLocal).store swept.1 stores) split
  have items := congrArg Prod.snd split
  exact Prod.ext state items

/-- The rows that a slab adds to a layer. -/
def newRows (kernels : Kernels v) (layer : LayerWeights) (first : Nat) (current : List v.Hyper) :
    List v.Row :=
  current.mapIdx fun token hyper => kernels.row layer.global (first + token) hyper

/-- What each token of a slab makes of the rows up to its own. -/
def attended (kernels : Kernels v) (layer : LayerWeights) (first : Nat) (all : List v.Row)
    (current : List v.Hyper) : List v.Hyper :=
  current.mapIdx fun token hyper => kernels.attend layer.global (first + token) hyper
    (all.take (first + token + 1))
    (pooledBlocks kQ38QsaBlockTokens (kernels.pool layer.global) (all.take (first + token + 1)))

theorem new_rows_cons (layer : LayerWeights) (first : Nat) (hyper : v.Hyper)
    (rest : List v.Hyper) :
    newRows kernels layer first (hyper :: rest) =
      kernels.row layer.global first hyper :: newRows kernels layer (first + 1) rest := by
  simp only [newRows, List.mapIdx_cons, Nat.add_zero]
  congr 1
  apply List.ext_getElem
  · simp
  · intro token _ _
    simp [Nat.add_comm, Nat.add_left_comm]

theorem attended_cons (layer : LayerWeights) (first : Nat) (all : List v.Row) (hyper : v.Hyper)
    (rest : List v.Hyper) :
    attended kernels layer first all (hyper :: rest) =
      kernels.attend layer.global first hyper (all.take (first + 1))
          (pooledBlocks kQ38QsaBlockTokens (kernels.pool layer.global) (all.take (first + 1))) ::
        attended kernels layer (first + 1) all rest := by
  simp only [attended, List.mapIdx_cons, Nat.add_zero]
  congr 1
  apply List.ext_getElem
  · simp
  · intro token _ _
    simp [Nat.add_comm, Nat.add_left_comm]

/-- The rows of a slab join those of the layer, and every token attends up to its own. -/
theorem qsa_turns (rows : List v.Row) (items : List (Item v)) :
    sweep (qsaTurn kernels layer) rows items =
      (rows ++ newRows kernels layer rows.length (items.map Prod.snd),
        (items.map Prod.fst).zip
          ((attended kernels layer rows.length
            (rows ++ newRows kernels layer rows.length (items.map Prod.snd))
            (items.map Prod.snd)).map (kernels.moe layer.global))) := by
  induction items generalizing rows with
  | nil => simp [sweep, newRows, attended]
  | cons item rest ih =>
      have here : (rows ++ newRows kernels layer rows.length ((item :: rest).map Prod.snd)).take
          (rows.length + 1) = rows ++ [kernels.row layer.global rows.length item.2] := by
        rw [List.map_cons, new_rows_cons, List.take_length_add_append]
        rfl
      have later : rows ++ [kernels.row layer.global rows.length item.2] ++
          newRows kernels layer (rows.length + 1) (rest.map Prod.snd) =
          rows ++ newRows kernels layer rows.length ((item :: rest).map Prod.snd) := by
        rw [List.map_cons, new_rows_cons, List.append_assoc]
        rfl
      have ih := ih (rows ++ [kernels.row layer.global rows.length item.2])
      rw [List.length_append, List.length_singleton, later] at ih
      simp only [sweep, qsaTurn]
      rw [ih]
      simp only [List.map_cons] at here ⊢
      rw [attended_cons, here]
      rfl

theorem qsa_sweep (attention : layer.qsa = true) (same : rows.length = current.length) :
    sweep (mixTurn kernels layer) stores (rows.zip current) =
      let before := stores.rows layer.stateLocal
      let all := before ++ newRows kernels layer before.length current
      ((rowsPart layer.stateLocal).store all stores,
        rows.zip ((attended kernels layer before.length all current).map
          (kernels.moe layer.global))) := by
  have turns := @qsa_turns _ kernels layer (stores.rows layer.stateLocal) (rows.zip current)
  rw [List.map_snd_zip (Nat.le_of_eq same.symm), List.map_fst_zip (Nat.le_of_eq same)] at turns
  simp only [mixTurn, attention, if_true]
  rw [sweep_on_part]
  have state := congrArg (fun swept => (rowsPart layer.stateLocal).store swept.1 stores) turns
  have items := congrArg Prod.snd turns
  exact Prod.ext state items

theorem ple_sweep (agree : Agree kernels) (same : rows.length = current.length) :
    sweep (onPart plePart (pleTurn kernels layer)) stores (rows.zip current) =
      let made := kernels.plePrefill layer.global rows current stores.ple
      (plePart.store made.1 stores, rows.zip made.2) := by
  have outer (state : v.Ple) (items : List (Item v)) :
      (sweep (pleTurn kernels layer) state items).2.map Prod.fst = items.map Prod.fst := by
    induction items generalizing state with
    | nil => rfl
    | cons item rest ih => simp only [sweep, pleTurn, List.map_cons, ih]
  have kept := outer stores.ple (rows.zip current)
  rw [List.map_fst_zip (Nat.le_of_eq same)] at kept
  rw [sweep_on_part, agree.ple _ _ _ _ same]
  refine Prod.ext rfl ?_
  -- the items come out as their embedding rows and what the layer made of them
  change (sweep (pleTurn kernels layer) stores.ple (rows.zip current)).2 = rows.zip
    ((sweep (pleTurn kernels layer) stores.ple (rows.zip current)).2.map Prod.snd)
  have whole := List.zip_unzip (sweep (pleTurn kernels layer) stores.ple (rows.zip current)).2
  rw [List.unzip_eq_map, kept] at whole
  exact whole.symm

end Closed

/-! One layer of a tile. -/
section TileLayers
variable {layers : List LayerWeights} {layer : LayerWeights} {memory : Memory v}
  {stores : Stores v} {base : Nat}

/-- No two attention layers share their rows. -/
def OwnRows (layers : List LayerWeights) : Prop :=
  ∀ layer ∈ layers, ∀ other ∈ layers, layer.qsa = true → other.qsa = true →
    layer.stateLocal = other.stateLocal → layer = other

/-- Two attention layers with the same place are one layer. -/
def SameRows (layer other : LayerWeights) : Prop :=
  layer.qsa = true → other.qsa = true → layer.stateLocal = other.stateLocal → layer = other

instance : Std.Symm SameRows :=
  ⟨fun _ _ swap first second same => (swap second first same.symm).symm⟩

theorem own_rows (distinct : layers.Pairwise Distinct) : OwnRows layers := by
  intro layer listed other listed'
  have apart : layers.Pairwise SameRows :=
    distinct.imp fun both first second same => absurd same (both.1 (first.trans second.symm))
  exact apart.forall_of_forall (fun _ _ _ _ _ => rfl) listed listed'

theorem Holds.set_gdn (holds : Holds kernels layers memory stores) (place : Nat) (state : v.Gdn) :
    Holds kernels layers { memory with
        gdnState := memory.gdnState.setWorking
          (Function.update memory.gdnState.working place state) }
      ((gdnPart place).store state stores) where
  gdn := (working_set _ _).trans (congrArg (Function.update · place state) holds.gdn)
  ple := holds.ple
  rows := holds.rows

theorem Holds.set_ple (holds : Holds kernels layers memory stores) (state : v.Ple) :
    Holds kernels layers { memory with pleState := memory.pleState.setWorking state }
      (plePart.store state stores) where
  gdn := holds.gdn
  ple _ _ _ := working_set _ _
  rows := holds.rows

theorem Holds.set_workspace (holds : Holds kernels layers memory stores)
    (workspace : Workspace v) : Holds kernels layers { memory with workspace := workspace } stores
      :=
  ⟨holds.gdn, holds.ple, holds.rows⟩

theorem Holds.append_rows (holds : Holds kernels layers memory stores) (own : OwnRows layers)
    (listed : layer ∈ layers) (attention : layer.qsa = true) (new : List v.Row) :
    Holds kernels layers { memory with
        qsaState := storeRows kernels layer (stores.rows layer.stateLocal).length new
          memory.qsaState }
      ((rowsPart layer.stateLocal).store (stores.rows layer.stateLocal ++ new) stores) where
  gdn := holds.gdn
  ple := holds.ple
  rows other listed' attention' := by
    by_cases here : other.stateLocal = layer.stateLocal
    · cases own other listed' layer listed attention' attention here
      simp only [storeRows, rowsPart, Function.update_self]
      exact (holds.rows layer listed attention).append block_tokens_positive
    · simp only [storeRows, rowsPart, Function.update_of_ne here]
      exact holds.rows other listed' attention'

/-- What the banks and the workspace are behind the layers of a tile. -/
structure Kept (base : Nat) (before after : Memory v) : Prop extends Walked base before after where
  workspace : after.workspace = { before.workspace with pleRows := after.workspace.pleRows }

theorem Kept.refl (base : Nat) (memory : Memory v) : Kept base memory memory :=
  ⟨Walked.refl base memory, rfl⟩

theorem Kept.trans {before between after : Memory v} (first : Kept base before between)
    (second : Kept base between after) : Kept base before after :=
  ⟨first.toWalked.trans second.toWalked, by rw [second.workspace, first.workspace]⟩

/-- The banks that the layer reads are open. -/
structure Active (layer : LayerWeights) (memory : Memory v) : Prop where
  gdn : memory.gdnState.active = true
  qsa : memory.qsaState.active = true
  ple : layer.hasPle = true → memory.pleState.active = true

theorem Active.walked {after : Memory v} (active : Active layer memory)
    (walked : Walked base memory after) : Active layer after where
  gdn := by
    obtain ⟨value, made⟩ := walked.gdn
    rw [made]
    exact active.gdn
  qsa := by
    rw [walked.qsa]
    exact active.qsa
  ple first := by
    obtain ⟨value, made⟩ := walked.ple
    rw [made]
    exact active.ple first

/-- The rows of a layer may all be read behind the write of a slab. -/
theorem attended_stored (agree : Agree kernels) {cells : Cells v.Row v.Pooled}
    {rows : List v.Row} {first : Nat} {current : List v.Hyper}
    (keeps : Keeps kQ38QsaBlockTokens (kernels.pool layer.global) cells rows)
    (length : rows.length = first + current.length) :
    kernels.attendPrefill layer.global first current cells.rows cells.pooled =
      attended kernels layer first rows current := by
  rw [agree.attend]
  apply List.ext_getElem
  · simp [attended]
  · intro token inside _
    rw [List.length_mapIdx] at inside
    simp only [attended, List.getElem_mapIdx]
    rw [keeps.visible (by omega), keeps.visible_pooled block_tokens_positive (by omega)]

variable {place : Place} {current : List v.Hyper} {rows : List v.PleRows}
  {device : Device (Memory v)}

theorem mix_tile_ends (agree : Agree kernels) (own : OwnRows layers) (listed : layer ∈ layers)
    (holds : Holds kernels layers device.contents stores)
    (length : layer.qsa = true → (stores.rows layer.stateLocal).length = place.position)
    (behind : base ≤ place.position) (some_ : current ≠ [])
    (limit : place.position + current.length ≤ kQ38ContextLimit)
    (active : Active layer device.contents) (same : rows.length = current.length) :
    Ends (do
        let current ← runMixerPrefill kernels place layer current
        mayThrow plan
        pure (kernels.moePrefill layer.global current))
      (fun result after => Kept base device.contents after.contents ∧
        Holds kernels layers after.contents
          (sweep (mixTurn kernels layer) stores (rows.zip current)).1 ∧
        rows.zip result = (sweep (mixTurn kernels layer) stores (rows.zip current)).2 ∧
        result.length = current.length)
      (fun _ after => ¬ Calm plan ∧ Kept base device.contents after.contents) device := by
  cases kind : layer.qsa
  · -- a recurrent layer changes its own place of the working bank
    rw [gdn_sweep agree kind same]
    unfold runMixerPrefill runGdnPrefill
    simp only [kind, Bool.false_eq_true, if_false, ends_bind, ends_look, ends_ensure, ends_change,
      ends_pure, id]
    refine ⟨fun _ => ?_, fun closed => absurd active.gdn closed⟩
    have kept : Kept base device.contents { device.contents with
        gdnState := device.contents.gdnState.setWorking (Function.update
          device.contents.gdnState.working layer.stateLocal (kernels.gdnPrefill layer.global current
            (device.contents.gdnState.working layer.stateLocal)).1) } := ⟨Walked.of_gdn _, rfl⟩
    have stood := holds.set_gdn layer.stateLocal (kernels.gdnPrefill layer.global current
      (device.contents.gdnState.working layer.stateLocal)).1
    have made : device.contents.gdnState.working layer.stateLocal =
        stores.gdn layer.stateLocal := congrFun holds.gdn _
    apply ends_may_throw
    · exact fun faulty _ => ⟨faulty, kept⟩
    refine ⟨kept, ?_, by rw [made], ?_⟩
    · rw [← made]
      exact stood
    · rw [agree.moe, List.length_map, agree.gdn, sweep_length]
  · -- an attention layer stores its rows behind the ones it has
    have length := length kind
    rw [qsa_sweep kind same]
    unfold runMixerPrefill runQsaPrefill onQsa
    simp only [kind, if_true, ends_bind, ends_on_contents, ends_look, ends_ensure, ends_change,
      ends_pure, id]
    refine ⟨fun _ => ⟨fun _ => ?_, fun far => absurd ⟨some_, ?_, ?_⟩ far⟩,
      fun closed => absurd active.qsa closed⟩
    · have kept : Kept base device.contents { device.contents with
          qsaState := storeRows kernels layer place.position
            (newRows kernels layer place.position current) device.contents.qsaState } :=
        ⟨Walked.of_rows layer behind _, rfl⟩
      have stood := holds.append_rows own listed kind (newRows kernels layer place.position current)
      rw [length] at stood ⊢
      have found := @attended_stored _ _ layer agree _ _ place.position current
        (stood.rows layer listed kind) (by simp [rowsPart, newRows, length])
      simp only [rowsPart, Function.update_self] at found
      apply ends_may_throw
      · exact fun faulty _ => ⟨faulty, kept⟩
      refine ⟨kept, stood, ?_, ?_⟩
      · rw [agree.moe]
        exact congrArg (fun hypers => rows.zip (hypers.map (kernels.moe layer.global))) found
      · rw [agree.moe, List.length_map, agree.attend, List.length_mapIdx]
    · have positive := List.length_pos_iff.mpr some_
      omega
    · omega

variable {reads : Nat → List Row}

/-- The embedding rows that the reader hands over for a tile. -/
def delivered (kernels : Kernels v) (reads : Nat → List Row) (first count : Nat) :
    List v.PleRows :=
  (List.range count).map fun token => kernels.fetch (reads (first + token))

theorem delivered_length (first count : Nat) :
    (delivered kernels reads first count).length = count := by
  simp [delivered]

/-- The embedding rows of a tile come into the workspace, and from there into the layer. -/
theorem ple_tile_ends (listed : layer ∈ layers) (first : layer.hasPle = true)
    (holds : Holds kernels layers device.contents stores) (active : Active layer device.contents)
    (handed : rows = delivered kernels reads place.transactionOffset current.length) :
    Ends (do
        ensurePleReady kernels plan reads place.transactionOffset place.workspaceOffset
          current.length
        runPlePrefill kernels layer current place.workspaceOffset)
      (fun result after => Kept base device.contents after.contents ∧
        Holds kernels layers after.contents
          (plePart.store (kernels.plePrefill layer.global rows current stores.ple).1 stores) ∧
        result = (kernels.plePrefill layer.global rows current stores.ple).2)
      (fun _ after => ¬ Calm plan ∧ Kept base device.contents after.contents) device := by
  rw [ends_bind]
  unfold ensurePleReady
  apply may_throw_then
  · exact fun faulty _ => ⟨faulty, Kept.refl base _⟩
  unfold onWorkspace runPlePrefill
  simp only [ends_bind, ends_look, ends_ensure, ends_change, ends_pure, id]
  refine ⟨fun _ => ?_, fun closed => absurd (active.ple first) closed⟩
  have read : slice place.workspaceOffset current.length (put place.workspaceOffset
      (delivered kernels reads place.transactionOffset current.length)
      device.contents.workspace.pleRows) = rows := by
    rw [slice_put (Nat.le_of_eq (delivered_length _ _).symm), handed]
    exact List.take_of_length_le (Nat.le_of_eq (delivered_length _ _))
  simp only [delivered] at read
  rw [read, holds.ple layer listed first]
  exact ⟨⟨(Walked.of_workspace _).trans (Walked.of_ple _), rfl⟩,
    (holds.set_workspace _).set_ple _, rfl⟩

theorem tile_layer_ends (agree : Agree kernels) (own : OwnRows layers) (listed : layer ∈ layers)
    (holds : Holds kernels layers device.contents stores)
    (length : layer.qsa = true → (stores.rows layer.stateLocal).length = place.position)
    (behind : base ≤ place.position) (some_ : current ≠ [])
    (limit : place.position + current.length ≤ kQ38ContextLimit)
    (active : Active layer device.contents)
    (handed : rows = delivered kernels reads place.transactionOffset current.length) :
    Ends (runTileLayer kernels plan reads place layer current)
      (fun result after => Kept base device.contents after.contents ∧
        Holds kernels layers after.contents
          (sweeps (layerSteps kernels layer) stores (rows.zip current)).1 ∧
        rows.zip result = (sweeps (layerSteps kernels layer) stores (rows.zip current)).2 ∧
        result.length = current.length)
      (fun _ after => ¬ Calm plan ∧ Kept base device.contents after.contents) device := by
  have same : rows.length = current.length := by rw [handed, delivered_length]
  unfold runTileLayer enterPlePrefill layerSteps
  apply may_throw_then
  · exact fun faulty _ => ⟨faulty, Kept.refl base _⟩
  cases first : layer.hasPle
  · -- the layer has no embedding rows
    simp only [Bool.false_eq_true, if_false, ends_bind, ends_pure]
    exact (ends_bind _ _).mp
      (mix_tile_ends agree own listed holds length behind some_ limit active same)
  · simp only [if_true]
    refine Ends.chain (ple_tile_ends listed first holds active handed) ?_
    rintro result after ⟨kept, stood, made⟩
    have made_length : result.length = current.length := by
      rw [made, agree.ple _ _ _ _ same, List.length_map, sweep_length, List.length_zip, same,
        Nat.min_self]
    have nonempty : result ≠ [] := fun empty => some_ (by
      rw [empty] at made_length
      exact List.length_eq_zero_iff.mp made_length.symm)
    rw [sweeps, ple_sweep agree same]
    dsimp only
    rw [← made]
    apply (mix_tile_ends agree own listed stood length behind nonempty
      (by rw [made_length]; exact limit) (active.walked kept.toWalked)
      (same.trans made_length.symm)).weaken
    · rintro _ _ ⟨kept', stood', zipped, length'⟩
      exact ⟨kept.trans kept', stood', zipped, length'.trans made_length⟩
    · exact fun _ _ => And.imp_right kept.trans

/-- A layer leaves the rows of other layers alone. -/
theorem layer_rows_apart {place : Nat} (other : layer.qsa = true → place ≠ layer.stateLocal)
    (items : List (Item v)) :
    (sweeps (layerSteps kernels layer) stores items).1.rows place = stores.rows place := by
  have mixed (stores : Stores v) (items : List (Item v)) :
      (sweep (mixTurn kernels layer) stores items).1.rows place = stores.rows place := by
    unfold mixTurn
    cases kind : layer.qsa
    · simp only [Bool.false_eq_true, if_false, sweep_on_part]
      rfl
    · simp only [if_true, sweep_on_part]
      exact Function.update_of_ne (other kind) _ _
  unfold layerSteps
  split
  · simp only [sweeps, mixed, sweep_on_part]
    rfl
  · simp only [sweeps, mixed]

/-- A tile goes through the layers of a stage as their steps say. -/
theorem tile_layers_ends (agree : Agree kernels) (own : OwnRows layers)
    {rest : List LayerWeights} (listed : ∀ layer ∈ rest, layer ∈ layers)
    (distinct : rest.Pairwise Distinct) (holds : Holds kernels layers device.contents stores)
    (length : ∀ layer ∈ rest, layer.qsa = true →
      (stores.rows layer.stateLocal).length = place.position)
    (behind : base ≤ place.position) (some_ : current ≠ [])
    (limit : place.position + current.length ≤ kQ38ContextLimit)
    (active : ∀ layer ∈ rest, Active layer device.contents)
    (handed : rows = delivered kernels reads place.transactionOffset current.length) :
    Ends (runTileLayers kernels plan reads place rest current)
      (fun result after => Kept base device.contents after.contents ∧
        Holds kernels layers after.contents
          (sweeps (rest.flatMap (layerSteps kernels)) stores (rows.zip current)).1 ∧
        rows.zip result = (sweeps (rest.flatMap (layerSteps kernels)) stores (rows.zip current)).2 ∧
        result.length = current.length)
      (fun _ after => ¬ Calm plan ∧ Kept base device.contents after.contents) device := by
  induction rest generalizing stores current device with
  | nil => exact ⟨Kept.refl base _, holds, rfl, rfl⟩
  | cons layer rest ih =>
      obtain ⟨apart, distinct⟩ := List.pairwise_cons.mp distinct
      rw [runTileLayers, List.flatMap_cons, sweeps_append]
      apply (tile_layer_ends agree own (listed layer List.mem_cons_self) holds
        (length layer List.mem_cons_self) behind some_ limit (active layer List.mem_cons_self)
        handed).chain
      rintro result after ⟨kept, stood, zipped, same⟩
      rw [← zipped]
      have nonempty : result ≠ [] := fun empty => some_ (by
        rw [empty] at same
        exact List.length_eq_zero_iff.mp same.symm)
      have goes := @ih (sweeps (layerSteps kernels layer) stores (rows.zip current)).1 result after
        (fun other later => listed other (List.mem_cons_of_mem _ later)) distinct stood
        (by
          intro other later attention
          rw [layer_rows_apart]
          · exact length other (List.mem_cons_of_mem _ later) attention
          · exact fun kind same => (apart other later).1 (kind.trans attention.symm) same.symm)
        nonempty (by rw [same]; exact limit)
        (fun other later => (active other (List.mem_cons_of_mem _ later)).walked kept.toWalked)
        (by rw [same]; exact handed)
      apply goes.weaken
      · rintro _ _ ⟨kept', stood', zipped', same'⟩
        exact ⟨kept.trans kept', stood', zipped', same'.trans same⟩
      · exact fun _ _ => And.imp_right kept.trans

end TileLayers

/-! A single row is a tile of one row. -/
section OneRow
variable {reads : Nat → List Row} {device : Device (Memory v)}
  {returns : List v.Hyper → Device (Memory v) → Prop} {throws : Thrown → Device (Memory v) → Prop}

theorem layer_of_one (agree : Agree kernels) (place : Place) (layer : LayerWeights)
    (current : v.Hyper) (limit : place.position < kQ38ContextLimit) :
    Ends (runLayer kernels plan reads place layer current) (fun result => returns [result]) throws
        device ↔
      Ends (runTileLayer kernels plan reads place layer [current]) returns throws device := by
  have ple (rows : v.PleRows) (state : v.Ple) :
      kernels.plePrefill layer.global [rows] [current] state =
        ((kernels.ple layer.global rows current state).1,
          [(kernels.ple layer.global rows current state).2]) := agree.ple _ _ _ _ rfl
  have gdn (current : v.Hyper) (state : v.Gdn) :
      kernels.gdnPrefill layer.global [current] state =
        ((kernels.gdn layer.global current state).1,
          [(kernels.gdn layer.global current state).2]) := agree.gdn _ _ _
  have room : 1 ≤ kQ38ContextLimit - place.position := by omega
  unfold runLayer runTileLayer enterPle enterPlePrefill runMixer runMixerPrefill
  cases layer.hasPle <;> cases layer.qsa <;>
    simp [ends_bind, ends_pure, ends_look, ends_ensure, ends_change, ends_may_throw_iff,
      ends_on_contents, ensurePleReady, onWorkspace, onQsa, runPle, runPlePrefill, runGdn,
      runGdnPrefill, runQsa, runQsaPrefill, slice_one, ple, gdn, agree.attend, agree.moe, limit,
        room]
theorem layers_of_one (agree : Agree kernels) (place : Place) (layers : List LayerWeights)
    (current : v.Hyper) (limit : place.position < kQ38ContextLimit) :
    Ends (runLayers kernels plan reads place layers current) (fun result => returns [result])
        throws device ↔
      Ends (runTileLayers kernels plan reads place layers [current]) returns throws device := by
  induction layers generalizing current device with
  | nil => rfl
  | cons layer rest ih =>
      have later : (fun value => Ends (runLayers kernels plan reads place rest value)
          (fun result => returns [result]) throws) =
          fun value => Ends (runTileLayers kernels plan reads place rest [value]) returns throws :=
        funext fun value => funext fun device => propext (ih value)
      rw [runLayers, runTileLayers, ends_bind, ends_bind, later]
      exact @layer_of_one _ _ _ reads device
        (fun value => Ends (runTileLayers kernels plan reads place rest value) returns throws)
        throws agree place layer current limit

end OneRow

end Q38.CudaTiles
