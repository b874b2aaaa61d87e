import Q38Runtime.ScheduledTurns

/-! Turns that own parts of a state. A turn changes its own part only, and what it makes of it
depends on nothing else, so that a run of the turns, in whatever order, is what a specification
of the whole state says part by part, and turns that each go through many rounds do what the
rounds do one after the other. -/
namespace OwnedTurns
open ScheduledTurns

/-- When two states agree on a part; states that agree on every part are the same. -/
structure Parts (κ σ : Type) where
  same : κ → σ → σ → Prop
  equivalence : ∀ part, Equivalence (same part)
  separate : ∀ {left right}, (∀ part, same part left right) → left = right

variable {ι κ σ ω : Type} (parts : Parts κ σ) (own : ι → κ) {turns : List ι}

/-- A specification says of each part, from that part alone, what it becomes, and leaves the
parts alone that no turn owns. -/
structure Partwise (turns : List ι) (specified : σ → σ) : Prop where
  local_ : ∀ part, ∀ {left right}, parts.same part left right →
    parts.same part (specified left) (specified right)
  idle : ∀ part ∉ turns.map own, ∀ state, parts.same part (specified state) state

/-- A turn does to its own part what is specified, and nothing to the others. -/
structure Does (turns : List ι) (specified : σ → σ) (effect : σ → ι → σ) : Prop where
  here : ∀ turn ∈ turns, ∀ state,
    parts.same (own turn) (effect state turn) (specified state)
  beside : ∀ turn ∈ turns, ∀ part ≠ own turn, ∀ state, parts.same part (effect state turn) state

variable {parts own}

theorem Does.of_eq {specified : σ → σ} {effect effect' : σ → ι → σ}
    (does : Does parts own turns specified effect)
    (same : ∀ turn ∈ turns, ∀ state, effect' state turn = effect state turn) :
    Does parts own turns specified effect' where
  here turn listed state := by
    rw [same turn listed]
    exact does.here turn listed state
  beside turn listed part foreign state := by
    rw [same turn listed]
    exact does.beside turn listed part foreign state

section Runs
variable {specified : σ → σ} {effect : σ → ι → σ} {scheduler : Scheduler} {phase : List Nat}

/-- No turn owns the part. -/
theorem run_foreign (beside : ∀ turn ∈ turns, ∀ part ≠ own turn, ∀ state,
      parts.same part (effect state turn) state) {part : κ} (foreign : part ∉ turns.map own)
    (state : σ) : parts.same part (scheduler.run phase turns effect state) state := by
  have equivalence := parts.equivalence part
  apply run_keeps fun later => parts.same part later state
  · intro turn listed later kept
    have other : part ≠ own turn := fun same => foreign (same ▸ List.mem_map_of_mem listed)
    exact equivalence.trans (beside turn listed part other later) kept
  · exact equivalence.refl state

/-- One turn owns the part, and makes the target of it as long as the part is as it was. -/
theorem run_own (distinct : (turns.map own).Nodup)
    (beside : ∀ turn ∈ turns, ∀ part ≠ own turn, ∀ state,
      parts.same part (effect state turn) state) {turn : ι} (listed : turn ∈ turns)
    {state target : σ} (makes : ∀ later, parts.same (own turn) later state →
      parts.same (own turn) (effect later turn) target) :
    parts.same (own turn) (scheduler.run phase turns effect state) target := by
  have equivalence := parts.equivalence (own turn)
  have apart : ∀ other ∈ turns, other ≠ turn → own turn ≠ own other := by
    intro other member differs same
    exact differs (List.inj_on_of_nodup_map distinct member listed same.symm)
  apply run_once (fun later => parts.same (own turn) later state)
    (fun later => parts.same (own turn) later target) distinct.of_map listed
  · intro other member differs later kept
    exact equivalence.trans (beside other member _ (apart other member differs) later) kept
  · exact makes
  · intro other member differs later made
    exact equivalence.trans (beside other member _ (apart other member differs) later) made
  · exact equivalence.refl state

/-- Any order of the turns ends in what is specified. -/
theorem run_specified (distinct : (turns.map own).Nodup)
    (partwise : Partwise parts own turns specified) (does : Does parts own turns specified effect)
    (state : σ) : scheduler.run phase turns effect state = specified state := by
  apply parts.separate
  intro part
  have equivalence := parts.equivalence part
  by_cases owned : part ∈ turns.map own
  · obtain ⟨turn, listed, rfl⟩ := List.mem_map.mp owned
    apply run_own distinct does.beside listed
    exact fun later kept =>
      equivalence.trans (does.here turn listed later) (partwise.local_ _ kept)
  · exact equivalence.trans (run_foreign does.beside owned state)
      (equivalence.symm (partwise.idle part owned state))

end Runs

section Rounds
variable (rounds : List ω) {specified : ω → σ → σ} (effect : ω → σ → ι → σ)

theorem partwise_rounds (partwise : ∀ round ∈ rounds, Partwise parts own turns (specified round)) :
    Partwise parts own turns fun state =>
      rounds.foldl (fun state round => specified round state) state := by
  induction rounds with
  | nil => exact ⟨fun _ _ _ same => same, fun part _ state => (parts.equivalence part).refl state⟩
  | cons round rounds ih =>
      have first := partwise round List.mem_cons_self
      have later := ih fun other member => partwise other (List.mem_cons_of_mem round member)
      constructor
      case local_ =>
        intro part left right same
        exact later.local_ part (first.local_ part same)
      case idle =>
        intro part foreign state
        exact (parts.equivalence part).trans (later.idle part foreign _)
          (first.idle part foreign state)

/-- A turn that goes through all rounds. -/
theorem does_rounds (partwise : ∀ round ∈ rounds, Partwise parts own turns (specified round))
    (does : ∀ round ∈ rounds, Does parts own turns (specified round) (effect round)) :
    Does parts own turns
      (fun state => rounds.foldl (fun state round => specified round state) state)
      fun state turn => rounds.foldl (fun state round => effect round state turn) state := by
  induction rounds with
  | nil =>
      exact ⟨fun turn _ state => (parts.equivalence _).refl state,
        fun _ _ part _ state => (parts.equivalence part).refl state⟩
  | cons round rounds ih =>
      have first := does round List.mem_cons_self
      have within := fun other member => partwise other (List.mem_cons_of_mem round member)
      have later := ih within fun other member => does other (List.mem_cons_of_mem round member)
      constructor
      case here =>
        intro turn listed state
        exact (parts.equivalence _).trans (later.here turn listed _)
          ((partwise_rounds rounds within).local_ _ (first.here turn listed state))
      case beside =>
        intro turn listed part foreign state
        exact (parts.equivalence part).trans (later.beside turn listed part foreign _)
          (first.beside turn listed part foreign state)

/-- Turns that each go through all rounds, against rounds in which each turn comes once. -/
theorem run_rounds {scheduler : Scheduler} {phase : List Nat}
    (distinct : (turns.map own).Nodup)
    (partwise : ∀ round ∈ rounds, Partwise parts own turns (specified round))
    (does : ∀ round ∈ rounds, Does parts own turns (specified round) (effect round)) (state : σ) :
    scheduler.run phase turns
      (fun state turn => rounds.foldl (fun state round => effect round state turn) state) state =
      rounds.foldl (fun state round => specified round state) state :=
  run_specified distinct (partwise_rounds rounds partwise) (does_rounds rounds effect partwise does)
    state

end Rounds

section Interchange
variable {effect : σ → ι → σ} {scheduler : Scheduler} {phase : List Nat}

variable (parts own) in
/-- A turn looks at its own part only, and changes no other. -/
structure Owned (turns : List ι) (effect : σ → ι → σ) : Prop where
  here : ∀ turn ∈ turns, ∀ {left right}, parts.same (own turn) left right →
    parts.same (own turn) (effect left turn) (effect right turn)
  beside : ∀ turn ∈ turns, ∀ part ≠ own turn, ∀ state, parts.same part (effect state turn) state

theorem run_owned (distinct : (turns.map own).Nodup) (owned : Owned parts own turns effect)
    {turn : ι} (listed : turn ∈ turns) (state : σ) :
    parts.same (own turn) (scheduler.run phase turns effect state) (effect state turn) :=
  run_own distinct owned.beside listed fun _ kept => owned.here turn listed kept

theorem owned_rounds {effect : ω → σ → ι → σ} {rounds : List ω}
    (owned : ∀ round ∈ rounds, Owned parts own turns (effect round)) :
    Owned parts own turns fun state turn =>
      rounds.foldl (fun state round => effect round state turn) state := by
  induction rounds with
  | nil =>
      exact ⟨fun _ _ _ _ same => same, fun _ _ part _ state => (parts.equivalence part).refl state⟩
  | cons round rounds ih =>
      have first := owned round List.mem_cons_self
      have later := ih fun other member => owned other (List.mem_cons_of_mem round member)
      constructor
      case here =>
        intro turn listed left right same
        exact later.here turn listed (first.here turn listed same)
      case beside =>
        intro turn listed part foreign state
        exact (parts.equivalence part).trans (later.beside turn listed part foreign _)
          (first.beside turn listed part foreign state)

/-- Turns that each go through all rounds, or rounds that each run all turns. -/
theorem run_interchange {effect : ω → σ → ι → σ} {rounds : List ω} (schedulers : ω → Scheduler)
    (phases : ω → List Nat) (distinct : (turns.map own).Nodup)
    (owned : ∀ round ∈ rounds, Owned parts own turns (effect round)) (state : σ) :
    scheduler.run phase turns
      (fun state turn => rounds.foldl (fun state round => effect round state turn) state) state =
      rounds.foldl (fun state round =>
        (schedulers round).run (phases round) turns (effect round) state) state := by
  apply parts.separate
  intro part
  have equivalence := parts.equivalence part
  by_cases held : part ∈ turns.map own
  · obtain ⟨turn, listed, rfl⟩ := List.mem_map.mp held
    apply equivalence.trans (run_owned distinct (owned_rounds owned) listed state)
    apply List.foldl_rel (equivalence.refl state)
    intro round member left right same
    apply equivalence.trans ((owned round member).here turn listed same)
    exact equivalence.symm (run_owned distinct (owned round member) listed right)
  · apply equivalence.trans (run_foreign (owned_rounds owned).beside held state)
    apply List.foldlRecOn _ _ (equivalence.refl state)
    intro later same round member
    exact equivalence.trans same (equivalence.symm
      (run_foreign (owned round member).beside held later))

end Interchange

end OwnedTurns
