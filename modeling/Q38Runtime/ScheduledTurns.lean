import Q38Runtime.StridedLoops

/-!
Turns that come in any order. A scheduler picks an order for each phase; what a run of
the phase ends in is told by what each turn keeps, and by the one turn that makes it.
-/
namespace ScheduledTurns
open StridedLoops

/-- An order of the turns of every phase, with each turn once. -/
structure Scheduler where
  order : {ι : Type} → List Nat → List ι → List ι
  perm : ∀ {ι : Type} (phase : List Nat) (turns : List ι), (order phase turns).Perm turns

variable {ι σ : Type}

def Scheduler.run (scheduler : Scheduler) (phase : List Nat) (turns : List ι)
    (effect : σ → ι → σ) (state : σ) : σ :=
  (scheduler.order phase turns).foldl effect state

section Folds
variable {effect : σ → ι → σ} {turns : List ι} {state : σ}

theorem fold_keeps (kept : σ → Prop)
    (each : ∀ turn ∈ turns, ∀ state, kept state → kept (effect state turn))
    (start : kept state) : kept (turns.foldl effect state) := by
  induction turns generalizing state with
  | nil => exact start
  | cons turn rest ih =>
      rw [List.foldl_cons]
      exact ih (fun other listed => each other (List.mem_cons_of_mem turn listed))
        (each turn List.mem_cons_self state start)

/-- One turn makes it, whatever came before, and no other turn undoes it. -/
theorem fold_settles (made : σ → Prop) {maker : ι} (listed : maker ∈ turns)
    (makes : ∀ state, made (effect state maker))
    (each : ∀ turn ∈ turns, ∀ state, made state → made (effect state turn)) :
    made (turns.foldl effect state) := by
  obtain ⟨before, after, rfl⟩ := List.append_of_mem listed
  rw [List.foldl_append, List.foldl_cons]
  exact fold_keeps made (fun turn member => each turn (by simp [member])) (makes _)

/-- The one turn that makes it needs what the others keep. -/
theorem fold_once (ready made : σ → Prop) {maker : ι} (distinct : turns.Nodup)
    (listed : maker ∈ turns)
    (waits : ∀ turn ∈ turns, turn ≠ maker → ∀ state, ready state → ready (effect state turn))
    (makes : ∀ state, ready state → made (effect state maker))
    (stays : ∀ turn ∈ turns, turn ≠ maker → ∀ state, made state → made (effect state turn))
    (start : ready state) : made (turns.foldl effect state) := by
  obtain ⟨before, after, rfl⟩ := List.append_of_mem listed
  have once := List.nodup_middle.mp distinct
  rw [List.nodup_cons, List.mem_append, not_or] at once
  have first : ready (before.foldl effect state) :=
    fold_keeps ready (fun turn member => waits turn (by simp [member])
      fun same => once.1.1 (same ▸ member)) start
  rw [List.foldl_append, List.foldl_cons]
  exact fold_keeps made (fun turn member => stays turn (by simp [member])
    fun same => once.1.2 (same ▸ member)) (makes _ first)

end Folds

section Runs
variable {scheduler : Scheduler} {phase : List Nat} {effect : σ → ι → σ} {turns : List ι}
variable {state : σ}

theorem run_keeps (kept : σ → Prop)
    (each : ∀ turn ∈ turns, ∀ state, kept state → kept (effect state turn))
    (start : kept state) : kept (scheduler.run phase turns effect state) :=
  fold_keeps kept (fun turn member => each turn ((scheduler.perm phase turns).mem_iff.mp member))
    start

theorem run_settles (made : σ → Prop) {maker : ι} (listed : maker ∈ turns)
    (makes : ∀ state, made (effect state maker))
    (each : ∀ turn ∈ turns, ∀ state, made state → made (effect state turn)) :
    made (scheduler.run phase turns effect state) :=
  fold_settles made ((scheduler.perm phase turns).mem_iff.mpr listed) makes
    fun turn member => each turn ((scheduler.perm phase turns).mem_iff.mp member)

theorem run_once (ready made : σ → Prop) {maker : ι} (distinct : turns.Nodup)
    (listed : maker ∈ turns)
    (waits : ∀ turn ∈ turns, turn ≠ maker → ∀ state, ready state → ready (effect state turn))
    (makes : ∀ state, ready state → made (effect state maker))
    (stays : ∀ turn ∈ turns, turn ≠ maker → ∀ state, made state → made (effect state turn))
    (start : ready state) : made (scheduler.run phase turns effect state) := by
  have same := scheduler.perm phase turns
  exact fold_once ready made (same.nodup_iff.mpr distinct) (same.mem_iff.mpr listed)
    (fun turn member => waits turn (same.mem_iff.mp member)) makes
    (fun turn member => stays turn (same.mem_iff.mp member)) start

end Runs

section Workers
variable {workers bound : Nat}

/-- The turns of workers that start at their own number and step by the number of workers. -/
def workerTurns (workers bound : Nat) : List Nat :=
  (List.range workers).flatMap fun worker => strided worker workers bound

theorem mem_worker_turns (positive : 0 < workers) {turn : Nat} :
    turn ∈ workerTurns workers bound ↔ turn < bound :=
  (workers_perm positive).mem_iff.trans List.mem_range

theorem worker_turns_nodup (positive : 0 < workers) : (workerTurns workers bound).Nodup :=
  (workers_perm positive).nodup_iff.mpr List.nodup_range

end Workers

section Memories
variable {α : Type} {key : ι → Nat} {turns : List ι} {memory : Nat → α} {scheduler : Scheduler}
variable {phase : List Nat} {place : Nat}

/-- What a store leaves at another place. -/
theorem run_stores_beside {value : (Nat → α) → ι → α} (other : ∀ turn ∈ turns, key turn ≠ place) :
    scheduler.run phase turns (fun memory turn =>
      Function.update memory (key turn) (value memory turn)) memory place = memory place := by
  apply run_keeps fun later : Nat → α => later place = memory place
  · intro turn member state same
    rw [Function.update_of_ne (other turn member).symm, same]
  · rfl

/-- A place keeps its value under stores of that value. -/
theorem run_stores_keep {value : ι → α} {target : α}
    (agree : ∀ turn ∈ turns, key turn = place → value turn = target)
    (held : memory place = target) :
    scheduler.run phase turns (fun memory turn =>
      Function.update memory (key turn) (value turn)) memory place = target := by
  apply run_keeps fun later : Nat → α => later place = target
  · intro turn member state same
    by_cases here : key turn = place
    · rw [here, Function.update_self, agree turn member here]
    · rw [Function.update_of_ne (Ne.symm here), same]
  · exact held

/-- A place holds the value of its turn, as all turns of one place have one value. -/
theorem run_stores {value : ι → α} {maker : ι} (listed : maker ∈ turns)
    (agree : ∀ turn ∈ turns, key turn = key maker → value turn = value maker) :
    scheduler.run phase turns (fun memory turn =>
      Function.update memory (key turn) (value turn)) memory (key maker) = value maker := by
  apply run_settles (fun later : Nat → α => later (key maker) = value maker) listed
  · intro state
    exact Function.update_self _ _ _
  · intro turn member state same
    by_cases here : key turn = key maker
    · rw [here, Function.update_self, agree turn member here]
    · rw [Function.update_of_ne (Ne.symm here), same]

/-- A place that one turn changes, from what it held. -/
theorem run_changes {change : ι → α → α} {maker : ι} (distinct : turns.Nodup)
    (listed : maker ∈ turns) (apart : ∀ turn ∈ turns, key turn = key maker → turn = maker) :
    scheduler.run phase turns (fun memory turn =>
      Function.update memory (key turn) (change turn (memory (key turn)))) memory (key maker) =
      change maker (memory (key maker)) := by
  have beside (turn : ι) (member : turn ∈ turns) (other : turn ≠ maker) (state : Nat → α)
      (value : α) : Function.update state (key turn) value (key maker) = state (key maker) :=
    Function.update_of_ne (fun same => other (apart turn member same.symm)) _ _
  apply run_once (fun later : Nat → α => later (key maker) = memory (key maker))
    (fun later : Nat → α => later (key maker) = change maker (memory (key maker)))
    distinct listed
  · intro turn member other state same
    rw [beside turn member other, same]
  · intro state same
    rw [Function.update_self, same]
  · intro turn member other state same
    rw [beside turn member other, same]
  · rfl

/-- Workers that share a range store the value of each of its places there. -/
theorem run_copies {workers bound : Nat} (positive : 0 < workers) {value : Nat → α}
    (early : place < bound) :
    scheduler.run phase (workerTurns workers bound) (fun memory turn =>
      Function.update memory turn (value turn)) memory place = value place :=
  @run_stores Nat α id _ memory scheduler phase value place
    ((mem_worker_turns positive).mpr early) fun _ _ same => congrArg value same

end Memories

end ScheduledTurns
