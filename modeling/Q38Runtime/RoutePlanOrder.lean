import Q38Runtime.RoutePlan

/-!
What the kernel leaves in a route plan. Every phase is a list of stores at
places of their own, so the order of the turns does not show: the assignments
stand expert by expert in their own order, and the tasks cover them tile by
tile.
-/
namespace Q38.RoutePlan
open Contracts ScatteredStores StridedLoops StableBuckets

section Phases
variable {expertIds : Nat → Int} {block : Block} {bucket : Nat → Nat} {routes : Nat}

def enteredStatus (expertIds : Nat → Int) (status : Q38RoutePlanStatusV1) (assignment : Nat) :
    Q38RoutePlanStatusV1 :=
  if validExpert (expertIds assignment) then status else raiseInvalid status

theorem enter_stores (assignments : List Nat) :
    assignments.foldl (enterAssignment expertIds) block =
      { plan := { block.plan with
          packedAssignment := storeEach id id assignments block.plan.packedAssignment
          assignmentToPacked := storeEach id id assignments block.plan.assignmentToPacked }
        routeExperts := storeEach id (fun assignment => routeExpert (expertIds assignment))
          assignments block.routeExperts
        planStatus := assignments.foldl (enteredStatus expertIds) block.planStatus } := by
  induction assignments generalizing block with
  | nil => rfl
  | cons assignment rest ih =>
      rw [List.foldl_cons, ih]
      rfl

theorem entered_valid {assignments : List Nat} {status : Q38RoutePlanStatusV1}
    (valid : ∀ assignment ∈ assignments, validExpert (expertIds assignment) = true) :
    assignments.foldl (enteredStatus expertIds) status = status := by
  induction assignments with
  | nil => rfl
  | cons assignment rest ih =>
      rw [List.foldl_cons, enteredStatus, if_pos (valid assignment List.mem_cons_self)]
      exact ih fun other listed => valid other (List.mem_cons_of_mem assignment listed)

theorem blank_stores (tasks : List Nat) (buffer : Buffer Q38ExpertMmqTaskV1) :
    tasks.foldl blankTask buffer = storeEach id (fun _ => {}) tasks buffer := rfl

/-- A thread ranks the assignments of its own expert. -/
theorem count_stores {routeExperts : Buffer Nat} {lane count : Nat} {buffer : Buffer Nat}
    (known : ∀ assignment < count, routeExperts.cells assignment = bucket assignment) :
    (List.range count).foldl (countAssignment routeExperts lane) (0, buffer) =
      (size bucket count lane, storeEach id (size bucket · lane)
        ((List.range count).filter (bucket · = lane)) buffer) := by
  induction count with
  | zero => rfl
  | succ count ih =>
      have before := ih fun assignment listed => known assignment (Nat.lt_succ_of_lt listed)
      rw [List.range_succ, List.foldl_append, before, List.filter_append, size_succ]
      simp only [List.foldl_cons, List.foldl_nil, countAssignment, known count (Nat.lt_succ_self _)]
      by_cases own : bucket count = lane
      · simp [own, storeEach, List.foldl_append]
      · simp [own, storeEach]

theorem count_experts_stores (lanes : List Nat)
    (known : ∀ assignment < routes, block.routeExperts.cells assignment = bucket assignment) :
    lanes.foldl (countExpert routes) block =
      { block with plan := { block.plan with
          expertCounts := storeEach id (fun lane => size bucket routes lane % 2 ^ 16) lanes
            block.plan.expertCounts
          assignmentToPacked := storeEach id (rank bucket)
            (lanes.flatMap fun lane => (List.range routes).filter (bucket · = lane))
            block.plan.assignmentToPacked } } := by
  induction lanes generalizing block with
  | nil => rfl
  | cons lane rest ih =>
      have own (buffer : Buffer Nat) :
          storeEach id (size bucket · lane) ((List.range routes).filter (bucket · = lane)) buffer =
            storeEach id (rank bucket) ((List.range routes).filter (bucket · = lane)) buffer := by
        apply store_each_congr
        intro assignment listed
        have here : bucket assignment = lane := by simpa using (List.mem_filter.mp listed).2
        exact ⟨rfl, by rw [rank, here]⟩
      have first : countExpert routes block lane = { block with plan := { block.plan with
          expertCounts := block.plan.expertCounts.store lane (size bucket routes lane % 2 ^ 16)
          assignmentToPacked := storeEach id (rank bucket)
            ((List.range routes).filter (bucket · = lane)) block.plan.assignmentToPacked } } := by
        rw [countExpert, count_stores known, own]
      rw [List.foldl_cons, first, ih, List.flatMap_cons, store_each_append]
      · rfl
      · exact known

/-- The first thread adds up whatever was counted. -/
theorem add_experts_stores (counts : Buffer Nat) (expertOffsets expertTaskOffsets : Buffer Nat)
    (experts : Nat) :
    (List.range experts).foldl (addExpert counts)
        { expertOffsets := expertOffsets, expertTaskOffsets := expertTaskOffsets } =
      { assignmentOffset := offset counts.cells experts
        taskOffset := offset (fun expert => tilesFor kQ38MmqM (counts.cells expert)) experts
        activeExperts := (List.range experts).countP fun expert => counts.cells expert ≠ 0
        expertOffsets := storeEach id (offset counts.cells) (List.range experts) expertOffsets
        expertTaskOffsets := storeEach id
          (offset fun expert => tilesFor kQ38MmqM (counts.cells expert)) (List.range experts)
          expertTaskOffsets } := by
  induction experts with
  | zero => rfl
  | succ experts ih =>
      rw [List.range_succ, List.foldl_append, ih, offset_succ, offset_succ, List.countP_append]
      simp only [List.foldl_cons, List.foldl_nil, addExpert, storeEach, List.foldl_append]
      congr 1
      simp [List.countP_singleton]

theorem add_experts_eq (maximumTasks : Nat) :
    addExperts routes maximumTasks block =
      { block with plan := { block.plan with
          expertOffsets := storeEach id (offset block.plan.expertCounts.cells)
            (List.range (kQ38RouteExperts + 1)) block.plan.expertOffsets
          expertTaskOffsets := storeEach id
            (offset fun expert => tilesFor kQ38MmqM (block.plan.expertCounts.cells expert))
            (List.range (kQ38RouteExperts + 1)) block.plan.expertTaskOffsets
          header := { block.plan.header with
            activeExperts := (List.range kQ38RouteExperts).countP
              fun expert => block.plan.expertCounts.cells expert ≠ 0
            taskCount := offset
              (fun expert => tilesFor kQ38MmqM (block.plan.expertCounts.cells expert))
              kQ38RouteExperts
            status := if (offset block.plan.expertCounts.cells kQ38RouteExperts ≠ routes ∨
                maximumTasks < offset
                  (fun expert => tilesFor kQ38MmqM (block.plan.expertCounts.cells expert))
                  kQ38RouteExperts) ∧ block.planStatus = .kOk
              then .kInvalidShape else block.planStatus } } } := by
  rw [addExperts, add_experts_stores]
  generalize kQ38RouteExperts = experts
  rw [store_range_succ, store_range_succ]

/-- A turn reads the rank of its own assignment before it stores over it. -/
theorem scatter_stores {assignments : List Nat} (distinct : assignments.Nodup)
    (known : ∀ assignment ∈ assignments,
      block.routeExperts.cells assignment = bucket assignment ∧
        bucket assignment ≠ kInvalidExpert ∧
        block.plan.expertOffsets.cells (bucket assignment) =
          start bucket routes (bucket assignment) ∧
        block.plan.assignmentToPacked.cells assignment = rank bucket assignment) :
    assignments.foldl scatterAssignment block =
      { block with plan := { block.plan with
          packedAssignment := storeEach (place bucket routes) id assignments
            block.plan.packedAssignment
          assignmentToPacked := storeEach id (place bucket routes) assignments
            block.plan.assignmentToPacked } } := by
  induction assignments generalizing block with
  | nil => rfl
  | cons assignment rest ih =>
      rw [List.nodup_cons] at distinct
      obtain ⟨expert, valid, begins, ranked⟩ := known assignment List.mem_cons_self
      have first : scatterAssignment block assignment = { block with plan := { block.plan with
          packedAssignment := block.plan.packedAssignment.store
            (place bucket routes assignment) assignment
          assignmentToPacked := block.plan.assignmentToPacked.store assignment
            (place bucket routes assignment) } } := by
        rw [scatterAssignment]
        dsimp only
        rw [expert, if_neg valid, begins, ranked]
        rfl
      rw [List.foldl_cons, first, ih distinct.2]
      · rfl
      · intro other listed
        obtain ⟨expert, valid, begins, ranked⟩ := known other (List.mem_cons_of_mem _ listed)
        refine ⟨expert, valid, begins, ?_⟩
        rw [← ranked]
        have apart : other ≠ assignment := fun same => distinct.1 (same ▸ listed)
        dsimp only [Buffer.store]
        split
        · exact Function.update_of_ne apart _ _
        · rfl

theorem tile_stores (plan : Plan) (lanes : List Nat) (tasks : Buffer Q38ExpertMmqTaskV1) :
    lanes.foldl (tileExpert plan) tasks =
      storeEach (fun task : Nat × Nat => plan.expertTaskOffsets.cells task.1 + task.2)
        (fun task => expertTask plan task.1 task.2)
        (lanes.flatMap fun lane =>
          (List.range (expertTasks (plan.expertCounts.cells lane))).map (lane, ·)) tasks := by
  rw [store_each_flat]
  congr 1
  funext tasks lane
  rw [store_each_map]
  rfl

end Phases

section Barriers
variable (expertIds : Nat → Int) (tokens planTokens : Nat)

/-- The expert of an assignment. -/
def expertOf (assignment : Nat) : Nat := routeExpert (expertIds assignment)

/-- How many assignments an expert has. -/
def expertSize (expert : Nat) : Nat :=
  size (expertOf expertIds) (q38MoePrefillRoutesV1 tokens) expert

/-- The assignments expert by expert. -/
def expertMajor : List Nat :=
  ordered (expertOf expertIds) (q38MoePrefillRoutesV1 tokens) kQ38RouteExperts

def expertStart (expert : Nat) : Nat := offset (expertSize expertIds tokens) expert

/-- Where the tasks of an expert begin. -/
def taskStart (expert : Nat) : Nat :=
  offset (fun lower => tilesFor kQ38MmqM (expertSize expertIds tokens lower)) expert

/-- The task of a tile of an expert. -/
def tileTask (expert tile : Nat) : Q38ExpertMmqTaskV1 where
  packedBegin := expertStart expertIds tokens expert + tile * kQ38MmqM
  expert := expert
  validRows := min kQ38MmqM (expertSize expertIds tokens expert - tile * kQ38MmqM)
  flags := 0

/-- A plan in storage for `planTokens` tokens. -/
structure Sized (plan : Plan) : Prop where
  expertCounts : Room kQ38RouteExperts plan.expertCounts
  expertOffsets : Room (kQ38RouteExperts + 1) plan.expertOffsets
  expertTaskOffsets : Room (kQ38RouteExperts + 1) plan.expertTaskOffsets
  packedAssignment : Room (q38MoePrefillRoutesV1 planTokens) plan.packedAssignment
  assignmentToPacked : Room (q38MoePrefillRoutesV1 planTokens) plan.assignmentToPacked
  tasks : Room (q38MoePrefillMaxTasksV1 planTokens) plan.tasks

/-- What holds from the first barrier on. -/
structure Entered (block : Block) : Prop where
  sized : Sized planTokens block.plan
  shared : Room kMaxRoutes block.routeExperts
  experts : ∀ assignment < q38MoePrefillRoutesV1 tokens,
    block.routeExperts.cells assignment = expertOf expertIds assignment
  status : block.planStatus = .kOk
  blank : ∀ task < q38MoePrefillMaxTasksV1 tokens, block.plan.tasks.cells task = {}
  magic : block.plan.header.magic = kQ38RoutePlanMagicV1
  version : block.plan.header.version = kQ38RoutePlanVersionV1
  headerTokens : block.plan.header.tokens = tokens
  headerRoutes : block.plan.header.routes = q38MoePrefillRoutesV1 tokens

/-- What holds from the second barrier to the third. -/
structure Counted (block : Block) : Prop extends Entered expertIds tokens planTokens block where
  counts : ∀ expert < kQ38RouteExperts,
    block.plan.expertCounts.cells expert = expertSize expertIds tokens expert
  ranks : ∀ assignment < q38MoePrefillRoutesV1 tokens,
    block.plan.assignmentToPacked.cells assignment = rank (expertOf expertIds) assignment

/-- What the first thread leaves. -/
structure Added (block : Block) : Prop extends Counted expertIds tokens planTokens block where
  offsets : ∀ expert ≤ kQ38RouteExperts,
    block.plan.expertOffsets.cells expert = expertStart expertIds tokens expert
  taskOffsets : ∀ expert ≤ kQ38RouteExperts,
    block.plan.expertTaskOffsets.cells expert = taskStart expertIds tokens expert
  planned : block.plan.header.status = .kOk
  taskCount : block.plan.header.taskCount = taskStart expertIds tokens kQ38RouteExperts

/-- A finished plan. -/
structure Planned (plan : Plan) : Prop where
  sized : Sized planTokens plan
  status : plan.header.status = .kOk
  headerTokens : plan.header.tokens = tokens
  headerRoutes : plan.header.routes = q38MoePrefillRoutesV1 tokens
  taskCount : plan.header.taskCount = taskStart expertIds tokens kQ38RouteExperts
  counts : ∀ expert < kQ38RouteExperts,
    plan.expertCounts.cells expert = expertSize expertIds tokens expert
  offsets : ∀ expert ≤ kQ38RouteExperts,
    plan.expertOffsets.cells expert = expertStart expertIds tokens expert
  packed : (List.range (q38MoePrefillRoutesV1 tokens)).map plan.packedAssignment.cells =
    expertMajor expertIds tokens
  inverse : ∀ assignment < q38MoePrefillRoutesV1 tokens, plan.assignmentToPacked.cells assignment =
    place (expertOf expertIds) (q38MoePrefillRoutesV1 tokens) assignment
  tiled : ∀ expert < kQ38RouteExperts,
    ∀ tile < tilesFor kQ38MmqM (expertSize expertIds tokens expert),
      plan.tasks.cells (taskStart expertIds tokens expert + tile) =
        tileTask expertIds tokens expert tile
  spare : ∀ task, taskStart expertIds tokens kQ38RouteExperts ≤ task →
    task < q38MoePrefillMaxTasksV1 tokens → plan.tasks.cells task = {}

end Barriers

section Bounds
variable {expertIds : Nat → Int} {tokens planTokens : Nat}

theorem routes_eq (slab : tokens ≤ kQ38PrefillSlabMaxTokens) :
    q38MoePrefillRoutesV1 tokens = tokens * kQ38RouteTopK := by
  apply Nat.mod_eq_of_lt
  simp only [kQ38PrefillSlabMaxTokens, kQ38RouteTopK] at slab ⊢
  omega

theorem max_tasks_eq (tokens : Nat) : q38MoePrefillMaxTasksV1 tokens =
    min (q38MoePrefillRoutesV1 tokens) kQ38RouteExperts +
      (q38MoePrefillRoutesV1 tokens - min (q38MoePrefillRoutesV1 tokens) kQ38RouteExperts) /
        kQ38MmqM := by
  simp only [q38MoePrefillMaxTasksV1]
  split
  case isTrue few => rw [Nat.min_eq_left few.le]
  case isFalse many => rw [Nat.min_eq_right (Nat.le_of_not_lt many)]

theorem routes_mono (slab : planTokens ≤ kQ38PrefillSlabMaxTokens) (fits : tokens ≤ planTokens) :
    q38MoePrefillRoutesV1 tokens ≤ q38MoePrefillRoutesV1 planTokens := by
  rw [routes_eq slab, routes_eq (fits.trans slab)]
  exact Nat.mul_le_mul_right _ fits

theorem routes_slab (slab : tokens ≤ kQ38PrefillSlabMaxTokens) :
    q38MoePrefillRoutesV1 tokens ≤ kMaxRoutes := by
  rw [routes_eq slab]
  exact Nat.mul_le_mul_right _ slab

theorem max_tasks_mono (slab : planTokens ≤ kQ38PrefillSlabMaxTokens)
    (fits : tokens ≤ planTokens) :
    q38MoePrefillMaxTasksV1 tokens ≤ q38MoePrefillMaxTasksV1 planTokens := by
  have routes := routes_mono slab fits
  rw [max_tasks_eq, max_tasks_eq]
  simp only [kQ38RouteExperts, kQ38MmqM]
  omega

theorem expert_of_valid {assignment : Nat} (valid : validExpert (expertIds assignment) = true) :
    expertOf expertIds assignment = (expertIds assignment).toNat ∧
      expertOf expertIds assignment < kQ38RouteExperts := by
  rw [expertOf, routeExpert, if_pos valid]
  rw [validExpert, Bool.and_eq_true, decide_eq_true_eq, decide_eq_true_eq] at valid
  simp only [kQ38RouteExperts, Nat.cast_ofNat] at valid ⊢
  have small : (expertIds assignment).toNat < 512 := by omega
  rw [Nat.mod_eq_of_lt (small.trans (by decide))]
  exact ⟨rfl, small⟩

theorem turns_perm (bound : Nat) : (turns bound).Perm (List.range bound) :=
  workers_perm (by decide)

theorem expert_size_le (expert : Nat) :
    expertSize expertIds tokens expert ≤ q38MoePrefillRoutesV1 tokens := by
  rw [expertSize, size]
  exact List.countP_le_length.trans_eq List.length_range

section Valid
variable (valid : ∀ assignment < q38MoePrefillRoutesV1 tokens,
  validExpert (expertIds assignment) = true)
include valid

theorem experts_total :
    expertStart expertIds tokens kQ38RouteExperts = q38MoePrefillRoutesV1 tokens :=
  start_total fun assignment listed => (expert_of_valid (valid assignment listed)).2

/-- Every task has a place of its own. -/
theorem tasks_bounded :
    taskStart expertIds tokens kQ38RouteExperts ≤ q38MoePrefillMaxTasksV1 tokens := by
  rw [max_tasks_eq]
  exact tiles_bounded (by decide) fun assignment listed =>
    (expert_of_valid (valid assignment listed)).2

end Valid

end Bounds

section Kernel
variable {expertIds : Nat → Int} {tokens planTokens maximumTasks : Nat}
variable (slab : planTokens ≤ kQ38PrefillSlabMaxTokens) (fits : tokens ≤ planTokens)
variable (valid : ∀ assignment < q38MoePrefillRoutesV1 tokens,
  validExpert (expertIds assignment) = true)
include slab fits valid

theorem enter_block {plan : Plan} (sized : Sized planTokens plan) (shared : Nat → Nat)
    (schedule : Schedule (q38MoePrefillRoutesV1 tokens) (q38MoePrefillMaxTasksV1 tokens)) :
    Entered expertIds tokens planTokens
      (enterBlock expertIds tokens schedule plan ⟨kMaxRoutes, shared, false⟩) := by
  have entered := schedule.entered.trans (turns_perm _)
  have blanked := schedule.blanked.trans (turns_perm _)
  have within := routes_mono slab fits
  have mapped := routes_slab (fits.trans slab)
  have room : Room kMaxRoutes (⟨kMaxRoutes, shared, false⟩ : Buffer Nat) := ⟨rfl, rfl⟩
  rw [enterBlock, blank_stores, enter_stores]
  constructor
  case sized =>
    exact { sized with
      packedAssignment := room_store_range sized.packedAssignment within entered
      assignmentToPacked := room_store_range sized.assignmentToPacked within entered
      tasks := room_store_range sized.tasks (max_tasks_mono slab fits) blanked }
  case shared => exact room_store_range room mapped entered
  case experts => exact fun assignment listed => store_range_at room mapped entered listed
  case status =>
    exact entered_valid fun assignment listed =>
      valid assignment (List.mem_range.mp (entered.mem_iff.mp listed))
  case blank =>
    exact fun task listed => store_range_at sized.tasks (max_tasks_mono slab fits) blanked listed
  all_goals rfl

theorem count_block {block : Block} (entered : Entered expertIds tokens planTokens block)
    {lanes : List Nat} (order : lanes.Perm (List.range kRoutePlanThreads)) :
    Counted expertIds tokens planTokens
      (lanes.foldl (countExpert (q38MoePrefillRoutesV1 tokens)) block) := by
  have within := routes_mono slab fits
  have known (assignment : Nat) (listed : assignment < q38MoePrefillRoutesV1 tokens) :=
    (expert_of_valid (valid assignment listed)).2
  have shared : (lanes.flatMap fun lane => (List.range (q38MoePrefillRoutesV1 tokens)).filter
      (expertOf expertIds · = lane)).Perm (List.range (q38MoePrefillRoutesV1 tokens)) :=
    (order.flatMap_right _).trans (ordered_perm known)
  rw [count_experts_stores lanes entered.experts]
  constructor
  case counts =>
    intro expert inside
    have small := (@expert_size_le expertIds tokens expert).trans (routes_slab (fits.trans slab))
    have stored : (storeEach id
        (fun lane => size (expertOf expertIds) (q38MoePrefillRoutesV1 tokens) lane % 2 ^ 16) lanes
        block.plan.expertCounts).cells expert = expertSize expertIds tokens expert % 2 ^ 16 :=
      store_range_at entered.sized.expertCounts le_rfl order inside
    exact stored.trans (Nat.mod_eq_of_lt (small.trans_lt (by decide)))
  case ranks =>
    exact fun assignment listed =>
      store_range_at entered.sized.assignmentToPacked within shared listed
  exact { entered with
    sized := { entered.sized with
      expertCounts := room_store_range entered.sized.expertCounts le_rfl order
      assignmentToPacked := room_store_range entered.sized.assignmentToPacked within shared } }

omit slab fits in
theorem add_block {block : Block} (counted : Counted expertIds tokens planTokens block) :
    Added expertIds tokens planTokens
      (addExperts (q38MoePrefillRoutesV1 tokens) (q38MoePrefillMaxTasksV1 tokens) block) := by
  have starts (expert : Nat) (inside : expert ≤ kQ38RouteExperts) :
      offset block.plan.expertCounts.cells expert = expertStart expertIds tokens expert :=
    offset_congr fun lower below => counted.counts lower (below.trans_le inside)
  have tasks (expert : Nat) (inside : expert ≤ kQ38RouteExperts) :
      offset (fun lower => tilesFor kQ38MmqM (block.plan.expertCounts.cells lower)) expert =
        taskStart expertIds tokens expert :=
    offset_congr fun lower below =>
      congrArg (tilesFor kQ38MmqM) (counted.counts lower (below.trans_le inside))
  have status : (if (offset block.plan.expertCounts.cells kQ38RouteExperts ≠
        q38MoePrefillRoutesV1 tokens ∨ q38MoePrefillMaxTasksV1 tokens <
          offset (fun lower => tilesFor kQ38MmqM (block.plan.expertCounts.cells lower))
            kQ38RouteExperts) ∧ block.planStatus = .kOk then
      Q38RoutePlanStatusV1.kInvalidShape else block.planStatus) = .kOk := by
    rw [starts _ le_rfl, tasks _ le_rfl, experts_total valid, if_neg, counted.status]
    rintro ⟨unequal | beyond, -⟩
    · exact unequal rfl
    · exact absurd (tasks_bounded valid) (Nat.not_le_of_lt beyond)
  rw [add_experts_eq]
  generalize inOrder : List.range (kQ38RouteExperts + 1) = order
  have perm : order.Perm (List.range (kQ38RouteExperts + 1)) := by rw [inOrder]
  constructor
  case offsets =>
    intro expert inside
    rw [← starts expert inside]
    exact store_range_at counted.sized.expertOffsets le_rfl perm (Nat.lt_succ_of_le inside)
  case taskOffsets =>
    intro expert inside
    rw [← tasks expert inside]
    exact store_range_at counted.sized.expertTaskOffsets le_rfl perm
      (Nat.lt_succ_of_le inside)
  case planned =>
    dsimp only
    exact status
  case taskCount =>
    dsimp only
    exact tasks _ le_rfl
  constructor
  case counts => exact counted.counts
  case ranks => exact counted.ranks
  exact ⟨⟨counted.sized.expertCounts, room_store_range counted.sized.expertOffsets le_rfl perm,
      room_store_range counted.sized.expertTaskOffsets le_rfl perm,
      counted.sized.packedAssignment, counted.sized.assignmentToPacked, counted.sized.tasks⟩,
    counted.shared, counted.experts, counted.status, counted.blank, counted.magic,
    counted.version, counted.headerTokens, counted.headerRoutes⟩

omit slab fits in
/-- The scatter stores every assignment at its place. -/
theorem scatter_packed {capacity : Nat} {order : List Nat} {buffer : Buffer Nat}
    (scattered : order.Perm (List.range (q38MoePrefillRoutesV1 tokens)))
    (within : q38MoePrefillRoutesV1 tokens ≤ capacity) (room : Room capacity buffer) :
    let packed := storeEach (place (expertOf expertIds) (q38MoePrefillRoutesV1 tokens)) id order
      buffer
    Room capacity packed ∧ (List.range (q38MoePrefillRoutesV1 tokens)).map packed.cells =
      expertMajor expertIds tokens := by
  have known (assignment : Nat) (listed : assignment < q38MoePrefillRoutesV1 tokens) :=
    (expert_of_valid (valid assignment listed)).2
  have listed {assignment : Nat} (found : assignment ∈ order) :
      assignment < q38MoePrefillRoutesV1 tokens :=
    List.mem_range.mp (scattered.mem_iff.mp found)
  have placed (assignment : Nat) (found : assignment ∈ order) :
      place (expertOf expertIds) (q38MoePrefillRoutesV1 tokens) assignment < capacity :=
    (place_lt known (listed found)).trans_le within
  have apart : (order.map (place (expertOf expertIds) (q38MoePrefillRoutesV1 tokens))).Nodup := by
    apply List.Nodup.map_on
    · intro left found right found' same
      exact place_injective known (listed found) (listed found') same
    · exact scattered.nodup_iff.mpr List.nodup_range
  refine ⟨room_store_each room placed, List.ext_getElem ?_ ?_⟩
  · rw [List.length_map, List.length_range, expertMajor, ordered_length known]
  · intro index _ inside
    rw [List.getElem_map, List.getElem_range]
    have here := place_ordered known inside
    have found : (expertMajor expertIds tokens)[index] ∈ order :=
      scattered.mem_iff.mpr ((ordered_perm known).mem_iff.mp (List.getElem_mem inside))
    have stored := store_each_at id room placed apart found
    exact (congrArg (storeEach _ id order buffer).cells here).symm.trans stored

omit slab fits valid in
/-- The places that the threads store tasks at are one run for each expert. -/
theorem task_places {plan : Plan} {lanes : List Nat}
    (counts : ∀ expert < kQ38RouteExperts,
      plan.expertCounts.cells expert = expertSize expertIds tokens expert)
    (offsets : ∀ expert ≤ kQ38RouteExperts,
      plan.expertTaskOffsets.cells expert = taskStart expertIds tokens expert)
    (order : lanes.Perm (List.range kRoutePlanThreads)) :
    ((lanes.flatMap fun lane =>
        (List.range (expertTasks (plan.expertCounts.cells lane))).map (lane, ·)).map
      fun task : Nat × Nat => plan.expertTaskOffsets.cells task.1 + task.2).Perm
      (List.range (taskStart expertIds tokens kQ38RouteExperts)) := by
  have runs := runs_cover (fun expert => tilesFor kQ38MmqM (expertSize expertIds tokens expert))
    kQ38RouteExperts
  rw [List.map_flatMap]
  apply (order.flatMap_right _).trans
  rw [taskStart, ← runs]
  apply List.Perm.of_eq
  apply List.flatMap_congr
  intro expert listed
  have inside : expert < kQ38RouteExperts := List.mem_range.mp listed
  rw [List.map_map, counts expert inside, ← taskStart, ← offsets expert inside.le]
  rfl

omit slab fits valid in
theorem tile_tasks {capacity : Nat} (plan : Plan) {tasks : Buffer Q38ExpertMmqTaskV1}
    {lanes : List Nat}
    (counts : ∀ expert < kQ38RouteExperts,
      plan.expertCounts.cells expert = expertSize expertIds tokens expert)
    (starts : ∀ expert ≤ kQ38RouteExperts,
      plan.expertOffsets.cells expert = expertStart expertIds tokens expert)
    (offsets : ∀ expert ≤ kQ38RouteExperts,
      plan.expertTaskOffsets.cells expert = taskStart expertIds tokens expert)
    (order : lanes.Perm (List.range kRoutePlanThreads)) (room : Room capacity tasks)
    (within : taskStart expertIds tokens kQ38RouteExperts ≤ capacity) :
    let tiled := lanes.foldl (tileExpert plan) tasks
    Room capacity tiled ∧
      (∀ expert < kQ38RouteExperts,
        ∀ tile < tilesFor kQ38MmqM (expertSize expertIds tokens expert),
          tiled.cells (taskStart expertIds tokens expert + tile) =
            tileTask expertIds tokens expert tile) ∧
      ∀ task, taskStart expertIds tokens kQ38RouteExperts ≤ task →
        tiled.cells task = tasks.cells task := by
  have places := task_places counts offsets order
  dsimp only
  rw [tile_stores]
  have keyed (turn : Nat × Nat) (listed : turn ∈ lanes.flatMap fun lane =>
      (List.range (expertTasks (plan.expertCounts.cells lane))).map (lane, ·)) :
      plan.expertTaskOffsets.cells turn.1 + turn.2 <
        taskStart expertIds tokens kQ38RouteExperts :=
    List.mem_range.mp (places.mem_iff.mp (List.mem_map.mpr ⟨turn, listed, rfl⟩))
  refine ⟨room_store_each room fun turn listed => (keyed turn listed).trans_le within, ?_, ?_⟩
  · intro expert inside tile early
    have listed : (expert, tile) ∈ lanes.flatMap fun lane =>
        (List.range (expertTasks (plan.expertCounts.cells lane))).map (lane, ·) := by
      rw [List.mem_flatMap]
      refine ⟨expert, order.mem_iff.mpr (List.mem_range.mpr inside), ?_⟩
      rw [List.mem_map]
      refine ⟨tile, List.mem_range.mpr ?_, rfl⟩
      rw [counts expert inside]
      exact early
    have stored := store_each_at (fun task => expertTask plan task.1 task.2) room
      (fun turn listed => (keyed turn listed).trans_le within)
      (places.nodup_iff.mpr List.nodup_range) listed
    have rows (remaining : Nat) :
        (if remaining < kQ38MmqM then remaining else kQ38MmqM) % 2 ^ 8 = min kQ38MmqM remaining := by
      rw [kQ38MmqM]
      split <;> omega
    rw [offsets expert inside.le] at stored
    refine stored.trans ?_
    rw [expertTask, counts expert inside, starts expert inside.le, rows,
      Nat.mod_eq_of_lt (inside.trans (by decide)), tileTask]
  · intro task beyond
    exact store_each_beside room (fun turn listed => (keyed turn listed).trans_le within)
      fun turn listed => ((keyed turn listed).trans_le beyond).ne

theorem scatter_block {block : Block} (added : Added expertIds tokens planTokens block)
    (schedule : Schedule (q38MoePrefillRoutesV1 tokens) (q38MoePrefillMaxTasksV1 tokens)) :
    Planned expertIds tokens planTokens (scatterBlock schedule block).plan ∧
      Room kMaxRoutes (scatterBlock schedule block).routeExperts := by
  have within := routes_mono slab fits
  have scattered := schedule.scattered.trans (turns_perm _)
  have bounded := (tasks_bounded valid).trans (max_tasks_mono slab fits)
  have ranked (assignment : Nat) (found : assignment ∈ schedule.scatter) :
      block.routeExperts.cells assignment = expertOf expertIds assignment ∧
        expertOf expertIds assignment ≠ kInvalidExpert ∧
        block.plan.expertOffsets.cells (expertOf expertIds assignment) =
          start (expertOf expertIds) (q38MoePrefillRoutesV1 tokens)
            (expertOf expertIds assignment) ∧
        block.plan.assignmentToPacked.cells assignment =
          rank (expertOf expertIds) assignment := by
    have listed := List.mem_range.mp (scattered.mem_iff.mp found)
    have inside := (expert_of_valid (valid assignment listed)).2
    exact ⟨added.experts assignment listed, (inside.trans (by decide)).ne,
      added.offsets _ inside.le, added.ranks assignment listed⟩
  obtain ⟨packedRoom, packed⟩ :=
    scatter_packed valid scattered within added.sized.packedAssignment
  rw [scatterBlock, scatter_stores (scattered.nodup_iff.mpr List.nodup_range) ranked]
  obtain ⟨taskRoom, tiled, spare⟩ := tile_tasks { block.plan with
    packedAssignment := storeEach (place (expertOf expertIds) (q38MoePrefillRoutesV1 tokens)) id
      schedule.scatter block.plan.packedAssignment
    assignmentToPacked := storeEach id (place (expertOf expertIds) (q38MoePrefillRoutesV1 tokens))
      schedule.scatter block.plan.assignmentToPacked } added.counts added.offsets
    added.taskOffsets schedule.tiled added.sized.tasks bounded
  refine ⟨?_, added.shared⟩
  exact {
    sized := ⟨added.sized.expertCounts, added.sized.expertOffsets, added.sized.expertTaskOffsets,
      packedRoom, room_store_range added.sized.assignmentToPacked within scattered, taskRoom⟩
    status := added.planned
    headerTokens := added.headerTokens
    headerRoutes := added.headerRoutes
    taskCount := added.taskCount
    counts := added.counts
    offsets := added.offsets
    packed := packed
    inverse := fun assignment listed =>
      store_range_at added.sized.assignmentToPacked within scattered listed
    tiled := tiled
    spare := fun task beyond listed => (spare task beyond).trans (added.blank task listed) }

/-- Whatever the order of the turns, the kernel leaves a finished plan. -/
theorem kernel_planned {plan : Plan} (sized : Sized planTokens plan) (shared : Nat → Nat)
    (schedule : Schedule (q38MoePrefillRoutesV1 tokens) (q38MoePrefillMaxTasksV1 tokens)) :
    Planned expertIds tokens planTokens
        (buildRoutePlanKernel expertIds tokens schedule plan shared).plan ∧
      Room kMaxRoutes (buildRoutePlanKernel expertIds tokens schedule plan shared).routeExperts := by
  have entered := enter_block slab fits valid sized shared schedule
  have counted := count_block slab fits valid entered schedule.counted
  obtain ⟨planned, room⟩ := scatter_block slab fits valid (add_block valid counted) schedule
  exact ⟨{ planned with sized := { planned.sized with } }, room⟩

end Kernel

end Q38.RoutePlan
