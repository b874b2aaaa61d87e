import Q38Runtime.RoutePlanOrder

/-!
What a finished plan means to those who read it: the packed assignments are a
stable permutation with its inverse, and the tasks share the packed indices, each
within one expert. The views lie one behind the other in the allocation.
-/
namespace Q38.RoutePlan
open Contracts ScatteredStores StridedLoops StableBuckets

/-- The packed indices of a task. -/
def Q38ExpertMmqTaskV1.rows (task : Q38ExpertMmqTaskV1) : List Nat :=
  (List.range task.validRows).map (task.packedBegin + ·)

def Plan.packed (plan : Plan) : List Nat :=
  (List.range plan.header.routes).map plan.packedAssignment.cells

def Plan.listed (plan : Plan) : List Q38ExpertMmqTaskV1 :=
  (List.range plan.header.taskCount).map plan.tasks.cells

/-- A plan as its readers take it. -/
structure Orderly (expertIds : Nat → Int) (tokens : Nat) (plan : Plan) : Prop where
  status : plan.header.status = .kOk
  routes : plan.header.routes = tokens * kQ38RouteTopK
  permutation : plan.packed.Perm (List.range (tokens * kQ38RouteTopK))
  stable : plan.packed.Pairwise fun earlier later =>
    expertIds earlier < expertIds later ∨ expertIds earlier = expertIds later ∧ earlier < later
  inverse : ∀ assignment < tokens * kQ38RouteTopK,
    plan.assignmentToPacked.cells assignment < tokens * kQ38RouteTopK ∧
      plan.packedAssignment.cells (plan.assignmentToPacked.cells assignment) = assignment
  back : ∀ index < tokens * kQ38RouteTopK,
    plan.assignmentToPacked.cells (plan.packedAssignment.cells index) = index
  cover : plan.listed.flatMap (·.rows) = List.range (tokens * kQ38RouteTopK)
  tasks : ∀ task ∈ plan.listed, 1 ≤ task.validRows ∧ task.validRows ≤ kQ38MmqM ∧
    ∀ row ∈ task.rows, expertIds (plan.packedAssignment.cells row) = task.expert
  bounded : plan.header.taskCount ≤ q38MoePrefillMaxTasksV1 tokens
  spare : ∀ task, plan.header.taskCount ≤ task → task < q38MoePrefillMaxTasksV1 tokens →
    plan.tasks.cells task = {}

section Readers
variable {expertIds : Nat → Int} {tokens planTokens : Nat} {plan : Plan}
variable (planned : Planned expertIds tokens planTokens plan)
include planned

theorem listed_tiles : plan.listed = (List.range kQ38RouteExperts).flatMap fun expert =>
    (List.range (tilesFor kQ38MmqM (expertSize expertIds tokens expert))).map
      (tileTask expertIds tokens expert) := by
  have runs := runs_cover (fun expert => tilesFor kQ38MmqM (expertSize expertIds tokens expert))
    kQ38RouteExperts
  rw [Plan.listed, planned.taskCount, taskStart, ← runs, List.map_flatMap]
  apply List.flatMap_congr
  intro expert listed
  rw [List.map_map]
  apply List.map_congr_left
  intro tile early
  exact planned.tiled expert (List.mem_range.mp listed) tile (List.mem_range.mp early)

theorem mem_listed {task : Q38ExpertMmqTaskV1} (listed : task ∈ plan.listed) :
    ∃ expert < kQ38RouteExperts, ∃ tile < tilesFor kQ38MmqM (expertSize expertIds tokens expert),
      task = tileTask expertIds tokens expert tile := by
  rw [listed_tiles planned, List.mem_flatMap] at listed
  obtain ⟨expert, inside, tiled⟩ := listed
  obtain ⟨tile, early, rfl⟩ := List.mem_map.mp tiled
  exact ⟨expert, List.mem_range.mp inside, tile, List.mem_range.mp early, rfl⟩

theorem packed_at {row : Nat} (inside : row < q38MoePrefillRoutesV1 tokens) :
    ∃ inside' : row < (expertMajor expertIds tokens).length,
      plan.packedAssignment.cells row = (expertMajor expertIds tokens)[row] := by
  have inside' : row < (expertMajor expertIds tokens).length := by
    rw [← planned.packed, List.length_map, List.length_range]
    exact inside
  refine ⟨inside', ?_⟩
  simp only [← planned.packed, List.getElem_map, List.getElem_range]

variable (valid : ∀ assignment < q38MoePrefillRoutesV1 tokens,
  validExpert (expertIds assignment) = true)
include valid

/-- The tasks share the packed indices in order. -/
theorem rows_cover : plan.listed.flatMap (·.rows) = List.range (q38MoePrefillRoutesV1 tokens) := by
  rw [listed_tiles planned, List.flatMap_assoc, ← experts_total valid, expertStart, ← runs_cover]
  apply List.flatMap_congr
  intro expert _
  rw [List.flatMap_map]
  exact tiles_cover (by decide) (expertSize expertIds tokens expert)
    (expertStart expertIds tokens expert)

theorem task_rows {task : Q38ExpertMmqTaskV1} (listed : task ∈ plan.listed) :
    1 ≤ task.validRows ∧ task.validRows ≤ kQ38MmqM ∧
      ∀ row ∈ task.rows, expertOf expertIds (plan.packedAssignment.cells row) = task.expert := by
  have known (assignment : Nat) (listed : assignment < q38MoePrefillRoutesV1 tokens) :=
    (expert_of_valid (valid assignment listed)).2
  have every := rows_cover planned valid
  have covered (row : Nat) (own : row ∈ task.rows) : row < q38MoePrefillRoutesV1 tokens := by
    rw [← List.mem_range, ← every]
    exact List.mem_flatMap.mpr ⟨task, listed, own⟩
  obtain ⟨expert, inside, tile, early, rfl⟩ := mem_listed planned listed
  have started : tile * kQ38MmqM < expertSize expertIds tokens expert := by
    rw [tilesFor, kQ38MmqM] at early
    rw [kQ38MmqM]
    omega
  refine ⟨?_, Nat.min_le_left _ _, ?_⟩
  · rw [tileTask]
    exact Nat.le_min.mpr ⟨by decide, Nat.sub_pos_of_lt started⟩
  · intro row own
    obtain ⟨inside', stands⟩ := packed_at planned (covered row own)
    obtain ⟨turn, few, rfl⟩ := List.mem_map.mp own
    rw [List.mem_range] at few
    have rest : turn < expertSize expertIds tokens expert - tile * kQ38MmqM :=
      few.trans_le (Nat.min_le_right _ _)
    have next : start (expertOf expertIds) (q38MoePrefillRoutesV1 tokens) (expert + 1) =
        expertStart expertIds tokens expert + expertSize expertIds tokens expert :=
      offset_succ _ _
    rw [stands]
    apply bucket_at known
    · change expertStart expertIds tokens expert ≤
        expertStart expertIds tokens expert + tile * kQ38MmqM + turn
      omega
    · apply Nat.lt_of_lt_of_eq _ next.symm
      change expertStart expertIds tokens expert + tile * kQ38MmqM + turn < _
      omega

theorem packed_perm : plan.packed.Perm (List.range (q38MoePrefillRoutesV1 tokens)) ∧
    plan.packed = expertMajor expertIds tokens := by
  have same : plan.packed = expertMajor expertIds tokens := by
    rw [Plan.packed, planned.headerRoutes, planned.packed]
  refine ⟨?_, same⟩
  rw [same]
  exact ordered_perm fun assignment listed => (expert_of_valid (valid assignment listed)).2

theorem packed_inverse {assignment : Nat} (listed : assignment < q38MoePrefillRoutesV1 tokens) :
    plan.assignmentToPacked.cells assignment < q38MoePrefillRoutesV1 tokens ∧
      plan.packedAssignment.cells (plan.assignmentToPacked.cells assignment) = assignment := by
  have known (assignment : Nat) (listed : assignment < q38MoePrefillRoutesV1 tokens) :=
    (expert_of_valid (valid assignment listed)).2
  rw [planned.inverse assignment listed]
  have placed := place_lt known listed
  obtain ⟨inside, stands⟩ := packed_at planned placed
  refine ⟨placed, ?_⟩
  have found := ordered_at_place listed (known assignment listed)
  rw [stands]
  exact (List.getElem?_eq_some_iff.mp found).2

theorem packed_back {index : Nat} (inside : index < q38MoePrefillRoutesV1 tokens) :
    plan.assignmentToPacked.cells (plan.packedAssignment.cells index) = index := by
  have known (assignment : Nat) (listed : assignment < q38MoePrefillRoutesV1 tokens) :=
    (expert_of_valid (valid assignment listed)).2
  obtain ⟨inside', stands⟩ := packed_at planned inside
  have listed := (mem_ordered.mp (List.getElem_mem inside')).1
  rw [stands, planned.inverse _ listed]
  exact place_ordered known inside'

end Readers

/-- An expert id is read back from its sixteen bits. -/
theorem expert_id {expertIds : Nat → Int} {assignment : Nat}
    (valid : validExpert (expertIds assignment) = true) :
    expertIds assignment = (expertOf expertIds assignment : Int) := by
  have read := (expert_of_valid valid).1
  rw [validExpert, Bool.and_eq_true, decide_eq_true_eq] at valid
  rw [read]
  exact (Int.toNat_of_nonneg valid.1).symm

theorem planned_orderly {expertIds : Nat → Int} {tokens planTokens : Nat} {plan : Plan}
    (planned : Planned expertIds tokens planTokens plan)
    (slab : tokens ≤ kQ38PrefillSlabMaxTokens)
    (valid : ∀ assignment < tokens * kQ38RouteTopK, validExpert (expertIds assignment) = true) :
    Orderly expertIds tokens plan := by
  have routes := routes_eq slab
  rw [← routes] at valid
  obtain ⟨permutation, same⟩ := packed_perm planned valid
  have known {assignment : Nat} (listed : assignment ∈ plan.packed) :=
    expert_id (valid assignment (List.mem_range.mp (permutation.mem_iff.mp listed)))
  constructor
  case status => exact planned.status
  case routes => exact planned.headerRoutes.trans routes
  case permutation =>
    rw [← routes]
    exact permutation
  case stable =>
    have sorted := @ordered_sorted (expertOf expertIds) (q38MoePrefillRoutesV1 tokens)
      kQ38RouteExperts
    rw [← expertMajor, ← same] at sorted
    apply sorted.imp_of_mem
    intro earlier later listed listed' order
    rw [known listed, known listed']
    exact_mod_cast order
  case inverse =>
    rw [← routes]
    exact fun assignment listed => packed_inverse planned valid listed
  case back =>
    rw [← routes]
    exact fun index inside => packed_back planned valid inside
  case cover =>
    rw [← routes]
    exact rows_cover planned valid
  case tasks =>
    intro task listed
    obtain ⟨started, few, own⟩ := task_rows planned valid listed
    refine ⟨started, few, fun row inside => ?_⟩
    have covered : row < plan.header.routes := by
      rw [planned.headerRoutes, ← List.mem_range, ← rows_cover planned valid]
      exact List.mem_flatMap.mpr ⟨task, listed, inside⟩
    have stands : plan.packedAssignment.cells row ∈ plan.packed :=
      List.mem_map.mpr ⟨row, List.mem_range.mpr covered, rfl⟩
    rw [known stands, own row inside]
  case bounded =>
    rw [planned.taskCount]
    exact tasks_bounded valid
  case spare =>
    rw [planned.taskCount]
    exact planned.spare

section Storage

/-- The views with their sizes, one behind the other. -/
def Q38RoutePlanStorageV1.regions (views : Q38RoutePlanStorageV1) (tokens : Nat) :
    List (Nat × Nat) :=
  [(views.header, headerBytes), (views.expertCounts, kQ38RouteExperts * 2),
    (views.expertOffsets, (kQ38RouteExperts + 1) * 4),
    (views.expertTaskOffsets, (kQ38RouteExperts + 1) * 4),
    (views.packedAssignment, q38MoePrefillRoutesV1 tokens * 4),
    (views.assignmentToPacked, q38MoePrefillRoutesV1 tokens * 4),
    (views.tasks, q38MoePrefillMaxTasksV1 tokens * taskBytes)]

/-- The views do not meet and end inside the allocation. -/
theorem storage_regions {allocation allocationBytes tokens : Nat}
    {views : Q38RoutePlanStorageV1}
    (made : cudaMoeRoutePlanStorageV1 allocation allocationBytes tokens = .ok views) :
    0 < tokens ∧ tokens ≤ kQ38PrefillSlabMaxTokens ∧
      (views.regions tokens).Pairwise (fun lower upper => lower.1 + lower.2 ≤ upper.1) ∧
      ∀ region ∈ views.regions tokens,
        allocation ≤ region.1 ∧ region.1 + region.2 ≤ allocation + allocationBytes := by
  unfold cudaMoeRoutePlanStorageV1 at made
  split at made
  case isTrue => cases made
  case isFalse shaped =>
    split at made
    case isTrue => cases made
    case isFalse large =>
      split at made
      case isTrue => cases made
      case isFalse aligned =>
        cases made
        push Not at shaped
        refine ⟨Nat.pos_of_ne_zero shaped.2.1, shaped.2.2, ?_, ?_⟩
        · simp only [Q38RoutePlanStorageV1.regions, List.pairwise_cons, List.mem_cons,
            List.not_mem_nil, or_false, forall_eq_or_imp, forall_eq, List.Pairwise.nil, and_true,
            false_imp_iff, implies_true]
          omega
        · simp only [Q38RoutePlanStorageV1.regions, List.mem_cons, List.not_mem_nil, or_false,
            forall_eq_or_imp, forall_eq, q38MoeRoutePlanBytesV1] at large ⊢
          omega

end Storage

end Q38.RoutePlan
