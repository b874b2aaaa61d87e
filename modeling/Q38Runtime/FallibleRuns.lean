import Mathlib.Data.List.Forall2

/-! Computations that end in a value or in an error, one after the other and over lists. -/
namespace Q38.FallibleRuns

universe u v w
variable {ε : Type u} {α β : Type v}

theorem bind_ok {first : Except ε α} {next : α → Except ε β} {value : β}
    (ran : (first >>= next) = .ok value) :
    ∃ middle, first = .ok middle ∧ next middle = .ok value := by
  cases first with
  | error thrown => cases ran
  | ok middle => exact ⟨middle, rfl, ran⟩

theorem map_ok {step : α → Except ε β} {items : List α} {results : List β}
    (ran : items.mapM step = .ok results) :
    List.Forall₂ (fun item result => step item = .ok result) items results := by
  induction items generalizing results with
  | nil =>
      cases ran
      exact .nil
  | cons item rest ih =>
      rw [List.mapM_cons] at ran
      obtain ⟨result, first, ran⟩ := bind_ok ran
      obtain ⟨others, later, ran⟩ := bind_ok ran
      cases ran
      exact .cons first (ih later)

theorem map_ok_mem {step : α → Except ε β} {items : List α} {results : List β} {result : β}
    (ran : items.mapM step = .ok results) (member : result ∈ results) :
    ∃ item ∈ items, step item = .ok result := by
  obtain ⟨index, bound, rfl⟩ := List.mem_iff_getElem.mp member
  have each := map_ok ran
  have bound' : index < items.length := each.length_eq ▸ bound
  exact ⟨items[index], List.getElem_mem bound', each.get bound' bound⟩

/-- A list of which every item has a result has the results in its order. -/
theorem map_each {step : α → Except ε β} {holds : α → β → Prop} {items : List α}
    (each : ∀ item ∈ items, ∃ result, step item = .ok result ∧ holds item result) :
    ∃ results, items.mapM step = .ok results ∧ ∀ (index : Nat) (item : α),
      items[index]? = some item → ∃ result, results[index]? = some result ∧ holds item result := by
  induction items with
  | nil => exact ⟨[], rfl, by simp⟩
  | cons item rest ih =>
      rw [List.forall_mem_cons] at each
      obtain ⟨result, first, own⟩ := each.1
      obtain ⟨results, ran, later⟩ := ih each.2
      refine ⟨result :: results, ?_, ?_⟩
      · rw [List.mapM_cons, first, ran]
        rfl
      · intro index other asked
        cases index with
        | zero =>
            cases asked
            exact ⟨result, rfl, own⟩
        | succ index => exact later index other asked

/-- A run that shows something ended in a value. -/
theorem viewed_ok {γ : Type w} {ran : Except ε α} {view : α → γ} {seen : γ}
    (shown : ran.toOption.map view = some seen) : ∃ value, ran = .ok value ∧ view value = seen := by
  cases ran with
  | error thrown => cases shown
  | ok value => exact ⟨value, rfl, Option.some.inj shown⟩

theorem bind_option (first : Except ε α) (next : α → Except ε β) :
    (first >>= next).toOption = first.toOption >>= fun value => (next value).toOption := by
  cases first <;> rfl

/-- Whether a list is gone through, and with what, without the errors. -/
theorem map_option (step : α → Except ε β) (items : List α) :
    (items.mapM step).toOption = items.mapM fun item => (step item).toOption := by
  induction items with
  | nil => rfl
  | cons item rest ih =>
      rw [List.mapM_cons, List.mapM_cons, bind_option]
      refine bind_congr fun result => ?_
      rw [bind_option, ih]
      rfl

theorem map_some_all {step : α → Option β} {items : List α} {results : List β}
    (ran : items.mapM step = some results) :
    List.Forall₂ (fun item result => step item = some result) items results := by
  induction items generalizing results with
  | nil =>
      cases ran
      exact .nil
  | cons item rest ih =>
      rw [List.mapM_cons] at ran
      obtain ⟨result, first, ran⟩ := Option.bind_eq_some_iff.mp ran
      obtain ⟨others, later, ran⟩ := Option.bind_eq_some_iff.mp ran
      cases ran
      exact .cons first (ih later)

theorem map_some {step : α → Option β} {items : List α}
    (each : ∀ item ∈ items, step item ≠ none) : items.mapM step ≠ none := by
  induction items with
  | nil => exact Option.some_ne_none _
  | cons item rest ih =>
      obtain ⟨result, first⟩ := Option.ne_none_iff_exists'.mp (each item List.mem_cons_self)
      obtain ⟨others, later⟩ := Option.ne_none_iff_exists'.mp
        (ih fun other member => each other (List.mem_cons_of_mem item member))
      rw [List.mapM_cons, first, later]
      exact Option.some_ne_none _

theorem map_some_each {step : α → Option β} {items : List α}
    (ran : items.mapM step ≠ none) : ∀ item ∈ items, step item ≠ none := by
  induction items with
  | nil =>
      intro item member
      cases member
  | cons item rest ih =>
      rw [List.mapM_cons] at ran
      have first : step item ≠ none := by
        intro missing
        rw [missing] at ran
        exact ran rfl
      obtain ⟨result, found⟩ := Option.ne_none_iff_exists'.mp first
      have later : rest.mapM step ≠ none := by
        intro missing
        rw [found, missing] at ran
        exact ran rfl
      intro other member
      rcases List.mem_cons.mp member with rfl | member
      · exact first
      · exact ih later other member

theorem for_ok {step : α → Except ε PUnit} {items : List α}
    (ran : items.forM step = .ok ⟨⟩) : ∀ item ∈ items, step item = .ok ⟨⟩ := by
  induction items with
  | nil =>
      intro item member
      cases member
  | cons item rest ih =>
      change (step item >>= fun _ => rest.forM step) = _ at ran
      obtain ⟨_, first, later⟩ := bind_ok ran
      intro other member
      rcases List.mem_cons.mp member with rfl | member
      · exact first
      · exact ih later other member

section Outcomes
variable {σ : Type v} {good : α → Prop} {bad : ε → Prop}

/-- How a computation ends: in a value with one property, or in an error with another. -/
def Yields (good : α → Prop) (bad : ε → Prop) : Except ε α → Prop
  | .ok value => good value
  | .error thrown => bad thrown

theorem Yields.bind {after : β → Prop} {first : Except ε α} {next : α → Except ε β}
    (begins : Yields good bad first)
    (continues : ∀ value, good value → Yields after bad (next value)) :
    Yields after bad (first >>= next) := by
  cases first with
  | error thrown => exact begins
  | ok value => exact continues value begins

theorem Yields.weaken {better : α → Prop} {worse : ε → Prop} {first : Except ε α}
    (ends : Yields good bad first) (values : ∀ value, good value → better value)
    (errors : ∀ thrown, bad thrown → worse thrown) : Yields better worse first := by
  cases first with
  | error thrown => exact errors thrown ends
  | ok value => exact values value ends

/-- A loop over a list: what holds of the items that are done. -/
theorem Yields.fold {step : σ → α → Except ε σ} {holds : List α → σ → Prop} {items : List α}
    {start : σ} (begins : holds [] start)
    (turn : ∀ before item later state, items = before ++ item :: later → holds before state →
      Yields (holds (before ++ [item])) bad (step state item)) :
    Yields (holds items) bad (items.foldlM step start) := by
  suffices from_ : ∀ before later state, items = before ++ later → holds before state →
      Yields (holds items) bad (later.foldlM step state) from from_ [] items start rfl begins
  intro before later
  -- the items still to come get fewer, the ones before them more
  induction later generalizing before with
  | nil =>
      intro state whole held
      rw [whole, List.append_nil]
      exact held
  | cons item rest ih =>
      intro state whole held
      rw [List.foldlM_cons]
      refine (turn before item rest state whole held).bind fun next kept => ?_
      exact ih _ next (by rw [whole, List.append_assoc, List.singleton_append]) kept

theorem Yields.each {step : α → Except ε PUnit} {items : List α}
    (turn : ∀ item ∈ items, Yields (fun _ => True) bad (step item)) :
    Yields (fun _ => True) bad (items.forM step) := by
  induction items with
  | nil => trivial
  | cons item rest ih =>
      change Yields _ bad (step item >>= fun _ => rest.forM step)
      refine (turn item List.mem_cons_self).bind fun _ _ => ?_
      exact ih fun other member => turn other (List.mem_cons_of_mem _ member)

end Outcomes

end Q38.FallibleRuns
