import Q38Runtime.CudaBackend

/-! What the rows of a transaction do to the state of a stage. A row goes through all layers,
each with a state of its own; a prefill tile goes through them layer by layer. As long as a
slab kernel does the rows of its slab in order, both leave the same. -/
namespace Q38.CudaRows
open Contracts Imperative PleHash PleReadAhead QsaSelection StateBanks PooledRows StridedLoops
  LayerSweeps CudaBackend

section Stores
variable {v : Values}

/-- The states of the layers behind some rows: what the banks stand for. -/
structure Stores (v : Values) where
  gdn : Nat → v.Gdn
  ple : v.Ple
  rows : Nat → List v.Row

/-- What a row brings along: its embedding rows, for the layer that wants them, and its
hyper streams. -/
abbrev Item (v : Values) := v.PleRows × v.Hyper

def gdnPart (place : Nat) : Part (Stores v) v.Gdn where
  view stores := stores.gdn place
  store value stores := { stores with gdn := Function.update stores.gdn place value }
  view_store _ _ := Function.update_self _ _ _
  store_view stores := by simp
  store_store _ _ _ := by simp

def plePart : Part (Stores v) v.Ple where
  view stores := stores.ple
  store value stores := { stores with ple := value }
  view_store _ _ := rfl
  store_view _ := rfl
  store_store _ _ _ := rfl

def rowsPart (place : Nat) : Part (Stores v) (List v.Row) where
  view stores := stores.rows place
  store value stores := { stores with rows := Function.update stores.rows place value }
  view_store _ _ := Function.update_self _ _ _
  store_view stores := by simp
  store_store _ _ _ := by simp

theorem gdn_apart {place other : Nat} (differ : place ≠ other) :
    Apart (gdnPart (v := v) place) (gdnPart other) where
  here _ _ := Function.update_of_ne differ _ _
  there _ _ := Function.update_of_ne differ.symm _ _
  swap _ _ stores := by simp [gdnPart, Function.update_comm differ]

theorem rows_apart {place other : Nat} (differ : place ≠ other) :
    Apart (rowsPart (v := v) place) (rowsPart other) where
  here _ _ := Function.update_of_ne differ _ _
  there _ _ := Function.update_of_ne differ.symm _ _
  swap _ _ stores := by simp [rowsPart, Function.update_comm differ]

theorem gdn_rows_apart (place other : Nat) : Apart (gdnPart (v := v) place) (rowsPart other) :=
  ⟨fun _ _ => rfl, fun _ _ => rfl, fun _ _ _ => rfl⟩

theorem rows_gdn_apart (place other : Nat) : Apart (rowsPart (v := v) place) (gdnPart other) :=
  ⟨fun _ _ => rfl, fun _ _ => rfl, fun _ _ _ => rfl⟩

theorem ple_gdn_apart (place : Nat) : Apart (plePart (v := v)) (gdnPart place) :=
  ⟨fun _ _ => rfl, fun _ _ => rfl, fun _ _ _ => rfl⟩

theorem ple_rows_apart (place : Nat) : Apart (plePart (v := v)) (rowsPart place) :=
  ⟨fun _ _ => rfl, fun _ _ => rfl, fun _ _ _ => rfl⟩

end Stores

section Steps
variable {v : Values} (kernels : Kernels v)

def pleTurn (layer : LayerWeights) : Layer v.Ple (Item v) := fun state item =>
  let made := kernels.ple layer.global item.1 item.2 state
  (made.1, item.1, made.2)

def gdnTurn (layer : LayerWeights) : Layer v.Gdn (Item v) := fun state item =>
  let made := kernels.gdn layer.global item.2 state
  (made.1, item.1, kernels.moe layer.global made.2)

/-- The row joins the rows of the layer and attends to all of them. -/
def qsaTurn (layer : LayerWeights) : Layer (List v.Row) (Item v) := fun rows item =>
  let new := rows ++ [kernels.row layer.global rows.length item.2]
  (new, item.1, kernels.moe layer.global (kernels.attend layer.global rows.length item.2 new
    (pooledBlocks kQ38QsaBlockTokens (kernels.pool layer.global) new)))

def mixTurn (layer : LayerWeights) : Layer (Stores v) (Item v) :=
  if layer.qsa then onPart (rowsPart layer.stateLocal) (qsaTurn kernels layer)
  else onPart (gdnPart layer.stateLocal) (gdnTurn kernels layer)

def layerSteps (layer : LayerWeights) : List (Layer (Stores v) (Item v)) :=
  if layer.hasPle then [onPart plePart (pleTurn kernels layer), mixTurn kernels layer]
  else [mixTurn kernels layer]

/-- One row through the layers of a stage. -/
def rowStep (layers : List LayerWeights) : Layer (Stores v) (Item v) :=
  through (layers.flatMap (layerSteps kernels))

/-- No two layers of a stage share a state, and at most one has embedding rows. -/
def Distinct (layer other : LayerWeights) : Prop :=
  (layer.qsa = other.qsa → layer.stateLocal ≠ other.stateLocal) ∧
    ¬ (layer.hasPle = true ∧ other.hasPle = true)

variable {kernels}

theorem mix_commutes {layer other : LayerWeights} (distinct : Distinct layer other) :
    Commutes (mixTurn kernels layer) (mixTurn kernels other) := by
  have differ := distinct.1
  unfold mixTurn
  cases first : layer.qsa <;> cases second : other.qsa
  · exact on_part_commutes (gdn_apart (differ (first.trans second.symm))) _ _
  · exact on_part_commutes (gdn_rows_apart _ _) _ _
  · exact on_part_commutes (rows_gdn_apart _ _) _ _
  · exact on_part_commutes (rows_apart (differ (first.trans second.symm))) _ _

theorem ple_mix_commutes (layer other : LayerWeights) :
    Commutes (onPart plePart (pleTurn kernels layer)) (mixTurn kernels other) := by
  unfold mixTurn
  cases other.qsa
  · exact on_part_commutes (ple_gdn_apart _) _ _
  · exact on_part_commutes (ple_rows_apart _) _ _

theorem mix_ple_commutes (layer other : LayerWeights) :
    Commutes (mixTurn kernels layer) (onPart plePart (pleTurn kernels other)) := by
  have commutes := @ple_mix_commutes _ kernels other layer
  exact ⟨fun state x y => (commutes.state state y x).symm, fun state x y => commutes.other state y
    x,
    fun state x y => commutes.item state y x⟩

theorem layer_steps_commute {layer other : LayerWeights} (distinct : Distinct layer other) :
    ∀ step ∈ layerSteps kernels layer, ∀ step' ∈ layerSteps kernels other,
      Commutes step step' := by
  have mixed := @mix_commutes _ kernels _ _ distinct
  have alone := distinct.2
  unfold layerSteps
  cases first : layer.hasPle <;> cases second : other.hasPle
  · simp only [Bool.false_eq_true, if_false, List.mem_singleton, forall_eq]
    exact mixed
  · simp only [Bool.false_eq_true, if_false, if_true, List.mem_cons, List.not_mem_nil, or_false,
      forall_eq_or_imp, forall_eq]
    exact ⟨mix_ple_commutes layer other, mixed⟩
  · simp only [Bool.false_eq_true, if_false, if_true, List.mem_cons, List.not_mem_nil, or_false,
      forall_eq_or_imp, forall_eq]
    exact ⟨ple_mix_commutes layer other, mixed⟩
  · exact absurd ⟨first, second⟩ alone

theorem own_steps_commute (layer : LayerWeights) :
    (layerSteps kernels layer).Pairwise Commutes := by
  unfold layerSteps
  split
  · exact List.pairwise_pair.mpr (ple_mix_commutes layer layer)
  · exact List.pairwise_singleton _ _

/-- The steps of a stage may be taken layer by layer. -/
theorem stage_steps_commute {layers : List LayerWeights} (distinct : layers.Pairwise Distinct) :
    (layers.flatMap (layerSteps kernels)).Pairwise Commutes :=
  List.pairwise_flatMap.mpr
    ⟨fun layer _ => own_steps_commute layer, distinct.imp layer_steps_commute⟩

theorem tiles_through {layers : List LayerWeights} (distinct : layers.Pairwise Distinct)
    (stores : Stores v) (items : List (Item v)) :
    sweeps (layers.flatMap (layerSteps kernels)) stores items =
      sweep (rowStep kernels layers) stores items :=
  sweeps_through (stage_steps_commute distinct) items

end Steps

/-! The layers of the two stages. -/
section Layouts

/-- The counters of the constructor only grow. -/
theorem bound_locals (numbers : List Nat) (gdnLocal qsaLocal : Nat) :
    ∀ layer ∈ bindLayers numbers gdnLocal qsaLocal, layer.global ∈ numbers ∧
      (layer.hasPle = true ↔ layer.global = 1) ∧
      (if layer.qsa then qsaLocal else gdnLocal) ≤ layer.stateLocal := by
  induction numbers generalizing gdnLocal qsaLocal with
  | nil => exact fun _ listed => absurd listed List.not_mem_nil
  | cons number rest ih =>
      intro layer listed
      rw [bindLayers] at listed
      split at listed
      · next attention =>
          rcases List.mem_cons.mp listed with rfl | later
          · simp [bindLayer, attention]
          · obtain ⟨member, ple, bound⟩ := ih gdnLocal (qsaLocal + 1) layer later
            refine ⟨List.mem_cons_of_mem _ member, ple, Nat.le_trans ?_ bound⟩
            split
            · exact Nat.le_succ qsaLocal
            · exact Nat.le_refl gdnLocal
      · next recurrent =>
          rcases List.mem_cons.mp listed with rfl | later
          · simp [bindLayer, recurrent]
          · obtain ⟨member, ple, bound⟩ := ih (gdnLocal + 1) qsaLocal layer later
            refine ⟨List.mem_cons_of_mem _ member, ple, Nat.le_trans ?_ bound⟩
            split
            · exact Nat.le_refl qsaLocal
            · exact Nat.le_succ gdnLocal

theorem bound_apart {number place : Nat} {rest : List Nat} {layer : LayerWeights}
    (fresh : number ∉ rest) (member : layer.global ∈ rest)
    (ple : layer.hasPle = true ↔ layer.global = 1)
    (later : (bindLayer number place).qsa = layer.qsa → place < layer.stateLocal) :
    Distinct (bindLayer number place) layer := by
  refine ⟨fun same => Nat.ne_of_lt (later same), fun both => ?_⟩
  have first : number = 1 := by simpa [bindLayer] using both.1
  have global : layer.global = number := (ple.mp both.2).trans first.symm
  exact fresh (global ▸ member)

theorem bound_distinct {numbers : List Nat} (nodup : numbers.Nodup) (gdnLocal qsaLocal : Nat) :
    (bindLayers numbers gdnLocal qsaLocal).Pairwise Distinct := by
  induction numbers generalizing gdnLocal qsaLocal with
  | nil => exact List.Pairwise.nil
  | cons number rest ih =>
      obtain ⟨fresh, nodup⟩ := List.nodup_cons.mp nodup
      rw [bindLayers]
      split
      · next attention =>
          refine List.pairwise_cons.mpr ⟨fun layer listed => ?_, ih nodup _ _⟩
          obtain ⟨member, ple, bound⟩ := bound_locals rest gdnLocal (qsaLocal + 1) layer listed
          apply bound_apart fresh member ple
          intro same
          have qsa : layer.qsa = true := by simpa [bindLayer, attention] using same.symm
          rw [qsa, if_pos rfl] at bound
          exact bound
      · next recurrent =>
          refine List.pairwise_cons.mpr ⟨fun layer listed => ?_, ih nodup _ _⟩
          obtain ⟨member, ple, bound⟩ := bound_locals rest (gdnLocal + 1) qsaLocal layer listed
          apply bound_apart fresh member ple
          intro same
          have qsa : layer.qsa = false := by simpa [bindLayer, recurrent] using same.symm
          rw [qsa] at bound
          exact bound

theorem stage_layers_distinct (stage : Stage) : (stageLayers stage).Pairwise Distinct := by
  unfold stageLayers
  split
  · exact bound_distinct List.nodup_range 0 0
  · exact bound_distinct (List.nodup_range' 1 Nat.one_pos) 0 0

end Layouts

end Q38.CudaRows
