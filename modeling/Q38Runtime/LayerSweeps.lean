import Mathlib

/-! Layers that items pass one after the other. A layer keeps a state of its own and changes
the item. Items can be taken through all layers one by one, or all items through one layer
after another; where layers own different parts of the state, both ways end alike. -/
namespace LayerSweeps

/-- What a layer makes of the state and of one item. -/
abbrev Layer (σ ι : Type) := σ → ι → σ × ι

variable {σ ι α β : Type}

/-- One layer, the items in order. -/
def sweep (layer : Layer σ ι) : σ → List ι → σ × List ι
  | state, [] => (state, [])
  | state, item :: rest =>
      let here := layer state item
      let later := sweep layer here.1 rest
      (later.1, here.2 :: later.2)

/-- One item, the layers in order. -/
def through : List (Layer σ ι) → Layer σ ι
  | [], state, item => (state, item)
  | layer :: rest, state, item =>
      let here := layer state item
      through rest here.1 here.2

/-- The layers in order, each with all items. -/
def sweeps : List (Layer σ ι) → σ → List ι → σ × List ι
  | [], state, items => (state, items)
  | layer :: rest, state, items =>
      let here := sweep layer state items
      sweeps rest here.1 here.2

/-- It makes no difference which of the two is the first to take its item. -/
structure Commutes (first second : Layer σ ι) : Prop where
  state : ∀ state x y, (second (first state x).1 y).1 = (first (second state y).1 x).1
  item : ∀ state x y, (second (first state x).1 y).2 = (second state y).2
  other : ∀ state x y, (first (second state y).1 x).2 = (first state x).2

section Sweeps
variable {layer : Layer σ ι} {layers : List (Layer σ ι)} {state : σ}

theorem sweep_length (items : List ι) : (sweep layer state items).2.length = items.length := by
  induction items generalizing state with
  | nil => rfl
  | cons item rest ih => exact congrArg Nat.succ ih

theorem sweeps_length (items : List ι) :
    (sweeps layers state items).2.length = items.length := by
  induction layers generalizing state items with
  | nil => rfl
  | cons layer rest ih => exact (ih _).trans (sweep_length items)

theorem sweep_append (items more : List ι) :
    sweep layer state (items ++ more) =
      ((sweep layer (sweep layer state items).1 more).1,
        (sweep layer state items).2 ++ (sweep layer (sweep layer state items).1 more).2) := by
  induction items generalizing state with
  | nil => rfl
  | cons item rest ih => simp only [List.cons_append, sweep, ih]

/-- What is done to each item behind the layer may be done behind the sweep. -/
theorem sweep_map (after : ι → ι) (items : List ι) :
    sweep (fun state item => ((layer state item).1, after (layer state item).2)) state items =
      ((sweep layer state items).1, (sweep layer state items).2.map after) := by
  induction items generalizing state with
  | nil => rfl
  | cons item rest ih => simp only [sweep, ih, List.map_cons]

/-- What an item brings along without use comes out as it went in. -/
theorem sweep_carried {κ : Type} (items : List (κ × ι)) :
    sweep (fun state (item : κ × ι) => ((layer state item.2).1, item.1, (layer state item.2).2))
        state items =
      ((sweep layer state (items.map Prod.snd)).1,
        (items.map Prod.fst).zip (sweep layer state (items.map Prod.snd)).2) := by
  induction items generalizing state with
  | nil => rfl
  | cons item rest ih => simp only [sweep, ih, List.map_cons, List.zip_cons_cons]

theorem sweeps_append (more : List (Layer σ ι)) (items : List ι) :
    sweeps (layers ++ more) state items =
      sweeps more (sweeps layers state items).1 (sweeps layers state items).2 := by
  induction layers generalizing state items with
  | nil => rfl
  | cons layer rest ih => exact ih _

/-- A layer that commutes with each of some layers commutes with the way through them. -/
theorem commutes_through (each : ∀ other ∈ layers, Commutes layer other) :
    Commutes layer (through layers) := by
  induction layers with
  | nil => exact ⟨fun _ _ _ => rfl, fun _ _ _ => rfl, fun _ _ _ => rfl⟩
  | cons other rest ih =>
      have here := each other List.mem_cons_self
      have later := ih fun layer listed => each layer (List.mem_cons_of_mem _ listed)
      refine ⟨fun state x y => ?_, fun state x y => ?_, fun state x y => ?_⟩
      · simp only [through, here.item, here.state, later.state]
      · simp only [through, here.item, here.state, later.item]
      · simp only [through, later.other, here.other]

/-- An item may pass a layer before the items of another layer or behind them. -/
theorem sweep_past {first second : Layer σ ι} (commutes : Commutes first second)
    (items : List ι) (item : ι) :
    (second (sweep first state items).1 item).2 = (second state item).2 ∧
      (second (sweep first state items).1 item).1 =
        (sweep first (second state item).1 items).1 ∧
      (sweep first (second state item).1 items).2 = (sweep first state items).2 := by
  induction items generalizing state with
  | nil => exact ⟨rfl, rfl, rfl⟩
  | cons head rest ih =>
      obtain ⟨same, moved, kept⟩ := @ih (first state head).1
      rw [commutes.state] at moved kept
      refine ⟨same.trans (commutes.item state head item), moved, ?_⟩
      simp only [sweep, commutes.other, kept]

theorem sweep_pair {first second : Layer σ ι} (commutes : Commutes first second)
    (items : List ι) :
    sweep second (sweep first state items).1 (sweep first state items).2 =
      sweep (fun state item => second (first state item).1 (first state item).2) state items := by
  induction items generalizing state with
  | nil => rfl
  | cons item rest ih =>
      -- the head goes through the second layer before the rest enters the first
      obtain ⟨same, moved, kept⟩ :=
        @sweep_past _ _ (first state item).1 _ _ commutes rest (first state item).2
      simp only [sweep, same, moved]
      rw [← kept, ih]

/-- All items through one layer after another is each item through all layers. -/
theorem sweeps_through (apart : layers.Pairwise Commutes) (items : List ι) :
    sweeps layers state items = sweep (through layers) state items := by
  induction layers generalizing state items with
  | nil =>
      induction items with
      | nil => rfl
      | cons item rest ih =>
          change _ = ((sweep (through []) state rest).1, item :: (sweep (through []) state rest).2)
          rw [← ih]
          rfl
  | cons layer rest ih =>
      obtain ⟨each, apart⟩ := List.pairwise_cons.mp apart
      rw [sweeps, ih apart]
      exact sweep_pair (commutes_through each) items

end Sweeps

/-! Layers that own a part of the state. -/
section Parts

/-- A part that can be read and written. -/
structure Part (σ α : Type) where
  view : σ → α
  store : α → σ → σ
  view_store : ∀ value state, view (store value state) = value
  store_view : ∀ state, store (view state) state = state
  store_store : ∀ value other state, store value (store other state) = store value state

/-- Two parts of one state that have nothing in common. -/
structure Apart (part : Part σ α) (other : Part σ β) : Prop where
  here : ∀ value state, part.view (other.store value state) = part.view state
  there : ∀ value state, other.view (part.store value state) = other.view state
  swap : ∀ value value' state,
    other.store value' (part.store value state) = part.store value (other.store value' state)

/-- A layer whose own part is all it knows. -/
def onPart (part : Part σ α) (turn : Layer α ι) : Layer σ ι := fun state item =>
  let here := turn (part.view state) item
  (part.store here.1 state, here.2)

theorem on_part_commutes {part : Part σ α} {other : Part σ β} (apart : Apart part other)
    (turn : Layer α ι) (turn' : Layer β ι) : Commutes (onPart part turn) (onPart other turn') where
  state state x y := by simp only [onPart, apart.here, apart.there, apart.swap]
  item state x y := by simp only [onPart, apart.there]
  other state x y := by simp only [onPart, apart.here]

theorem sweep_on_part (part : Part σ α) (turn : Layer α ι) (state : σ) (items : List ι) :
    sweep (onPart part turn) state items =
      (part.store (sweep turn (part.view state) items).1 state,
        (sweep turn (part.view state) items).2) := by
  induction items generalizing state with
  | nil => exact Prod.ext (part.store_view state).symm rfl
  | cons item rest ih => simp only [sweep, onPart, ih, part.view_store, part.store_store]

end Parts

end LayerSweeps
