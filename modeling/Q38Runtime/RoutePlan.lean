import Q38Runtime.Contracts
import Q38Runtime.ScatteredStores
import Q38Runtime.StableBuckets

/-!
The route plan of the grouped experts, as one block of threads builds it. The
turns of the threads between two barriers come in any order; a turn reads and
stores only what no other turn of its phase stores. Counters and offsets stay
below 2^32 for every slab, so the words of the code are natural numbers here;
its narrowing casts are kept.
-/
namespace Q38.RoutePlan
open Contracts ScatteredStores StridedLoops

def kQ38RouteExperts : Nat := 512
def kQ38RouteTopK : Nat := 10
def kQ38MmqM : Nat := 16
def kQ38PrefillSlabMaxTokens : Nat := 512
def kRoutePlanThreads : Nat := kQ38RouteExperts
def kMaxRoutes : Nat := kQ38PrefillSlabMaxTokens * kQ38RouteTopK
def kInvalidExpert : Nat := 0xffff
def kQ38RoutePlanMagicV1 : Nat := 0x52383351
def kQ38RoutePlanVersionV1 : Nat := 1
def kFnvOffset : UInt64 := 1469598103934665603
def kFnvPrime : UInt64 := 1099511628211

inductive Q38RoutePlanStatusV1 where
  | kOk
  | kInvalidExpert
  | kInvalidShape
  deriving DecidableEq, Repr

structure Q38ExpertMmqTaskV1 where
  packedBegin : Nat := 0
  expert : Nat := 0
  validRows : Nat := 0
  flags : Nat := 0
  deriving DecidableEq, Repr

structure Q38RoutePlanHeaderV1 where
  magic : Nat
  version : Nat
  tokens : Nat
  routes : Nat
  activeExperts : Nat
  taskCount : Nat
  status : Q38RoutePlanStatusV1
  flags : Nat
  routeHash : UInt64
  planHash : UInt64
  reserved0 : UInt64
  reserved1 : UInt64
  deriving DecidableEq, Repr

def q38MoePrefillRoutesV1 (tokens : Nat) : Nat := tokens * kQ38RouteTopK % 2 ^ 32

def q38MoePrefillMaxTasksV1 (tokens : Nat) : Nat :=
  let routes := q38MoePrefillRoutesV1 tokens
  let initiallyActive := if routes < kQ38RouteExperts then routes else kQ38RouteExperts
  initiallyActive + (routes - initiallyActive) / kQ38MmqM

/-! The views of a plan in its allocation. -/
section Storage

def headerBytes : Nat := 64
def taskBytes : Nat := 8

def q38MoeRoutePlanBytesV1 (tokens : Nat) : Nat :=
  let routes := q38MoePrefillRoutesV1 tokens
  headerBytes + kQ38RouteExperts * 2 + 2 * (kQ38RouteExperts + 1) * 4 + 2 * routes * 4 +
    q38MoePrefillMaxTasksV1 tokens * taskBytes

/-- The addresses of the views. -/
structure Q38RoutePlanStorageV1 where
  header : Nat
  expertCounts : Nat
  expertOffsets : Nat
  expertTaskOffsets : Nat
  packedAssignment : Nat
  assignmentToPacked : Nat
  tasks : Nat
  deriving DecidableEq, Repr

def cudaMoeRoutePlanStorageV1 (allocation allocationBytes tokens : Nat) :
    Except Thrown Q38RoutePlanStorageV1 :=
  if allocation = 0 ∨ tokens = 0 ∨ kQ38PrefillSlabMaxTokens < tokens then
    .error (.invalidArgument "invalid prefill MoE route-plan allocation")
  else if allocationBytes < q38MoeRoutePlanBytesV1 tokens then
    .error (.invalidArgument "prefill MoE route-plan allocation is too small")
  else if allocation % 16 ≠ 0 then
    .error (.invalidArgument "prefill MoE route-plan allocation is unaligned")
  else
    let expertCounts := allocation + headerBytes
    let expertOffsets := expertCounts + kQ38RouteExperts * 2
    let expertTaskOffsets := expertOffsets + (kQ38RouteExperts + 1) * 4
    let packedAssignment := expertTaskOffsets + (kQ38RouteExperts + 1) * 4
    let assignmentToPacked := packedAssignment + q38MoePrefillRoutesV1 tokens * 4
    let tasks := assignmentToPacked + q38MoePrefillRoutesV1 tokens * 4
    .ok ⟨allocation, expertCounts, expertOffsets, expertTaskOffsets, packedAssignment,
      assignmentToPacked, tasks⟩

end Storage

/-- The plan behind the views. -/
structure Plan where
  header : Q38RoutePlanHeaderV1
  expertCounts : Buffer Nat
  expertOffsets : Buffer Nat
  expertTaskOffsets : Buffer Nat
  packedAssignment : Buffer Nat
  assignmentToPacked : Buffer Nat
  tasks : Buffer Q38ExpertMmqTaskV1

/-- The block with the memory its threads share. -/
structure Block where
  plan : Plan
  routeExperts : Buffer Nat
  planStatus : Q38RoutePlanStatusV1

/-- The turns of the threads in a loop that each starts at its own number. -/
def turns (bound : Nat) : List Nat :=
  (List.range kRoutePlanThreads).flatMap fun lane => strided lane kRoutePlanThreads bound

/-- The order in which the turns of each phase come. -/
structure Schedule (routes maximumTasks : Nat) where
  enter : List Nat
  blank : List Nat
  count : List Nat
  scatter : List Nat
  tile : List Nat
  entered : enter.Perm (turns routes)
  blanked : blank.Perm (turns maximumTasks)
  counted : count.Perm (List.range kRoutePlanThreads)
  scattered : scatter.Perm (turns routes)
  tiled : tile.Perm (List.range kRoutePlanThreads)

section Kernel

def openHeader (tokens routes : Nat) : Q38RoutePlanHeaderV1 where
  magic := kQ38RoutePlanMagicV1
  version := kQ38RoutePlanVersionV1
  tokens := tokens
  routes := routes
  activeExperts := 0
  taskCount := 0
  status := .kOk
  flags := 0
  routeHash := 0
  planHash := 0
  reserved0 := 0
  reserved1 := 0

def validExpert (expert : Int) : Bool := 0 ≤ expert && expert < kQ38RouteExperts

def routeExpert (expert : Int) : Nat :=
  if validExpert expert then expert.toNat % 2 ^ 16 else kInvalidExpert

/-- Only the first thread that finds an invalid expert sets the status. -/
def raiseInvalid (status : Q38RoutePlanStatusV1) : Q38RoutePlanStatusV1 :=
  if status = .kOk then .kInvalidExpert else status

def enterAssignment (expertIds : Nat → Int) (block : Block) (assignment : Nat) : Block :=
  { plan := { block.plan with
      packedAssignment := block.plan.packedAssignment.store assignment assignment
      assignmentToPacked := block.plan.assignmentToPacked.store assignment assignment }
    routeExperts := block.routeExperts.store assignment (routeExpert (expertIds assignment))
    planStatus := if validExpert (expertIds assignment) then block.planStatus
      else raiseInvalid block.planStatus }

def blankTask (tasks : Buffer Q38ExpertMmqTaskV1) (task : Nat) : Buffer Q38ExpertMmqTaskV1 :=
  tasks.store task {}

/-- A thread counts the assignments of its expert and ranks them. -/
def countAssignment (routeExperts : Buffer Nat) (lane : Nat) (counted : Nat × Buffer Nat)
    (assignment : Nat) : Nat × Buffer Nat :=
  if routeExperts.cells assignment ≠ lane then counted
  else (counted.1 + 1, counted.2.store assignment counted.1)

def countExpert (routes : Nat) (block : Block) (lane : Nat) : Block :=
  let counted := (List.range routes).foldl (countAssignment block.routeExperts lane)
    (0, block.plan.assignmentToPacked)
  { block with plan := { block.plan with
      expertCounts := block.plan.expertCounts.store lane (counted.1 % 2 ^ 16)
      assignmentToPacked := counted.2 } }

def expertTasks (expertCount : Nat) : Nat := (expertCount + kQ38MmqM - 1) / kQ38MmqM

/-- The locals of the first thread while it adds the counts up. -/
structure Offsets where
  assignmentOffset : Nat := 0
  taskOffset : Nat := 0
  activeExperts : Nat := 0
  expertOffsets : Buffer Nat
  expertTaskOffsets : Buffer Nat

def addExpert (expertCounts : Buffer Nat) (offsets : Offsets) (expert : Nat) : Offsets :=
  let expertCount := expertCounts.cells expert
  { assignmentOffset := offsets.assignmentOffset + expertCount
    taskOffset := offsets.taskOffset + expertTasks expertCount
    activeExperts := offsets.activeExperts + if expertCount ≠ 0 then 1 else 0
    expertOffsets := offsets.expertOffsets.store expert offsets.assignmentOffset
    expertTaskOffsets := offsets.expertTaskOffsets.store expert offsets.taskOffset }

def addExperts (routes maximumTasks : Nat) (block : Block) : Block :=
  let plan := block.plan
  let offsets := (List.range kQ38RouteExperts).foldl (addExpert plan.expertCounts)
    { expertOffsets := plan.expertOffsets, expertTaskOffsets := plan.expertTaskOffsets }
  { block with plan := { plan with
      expertOffsets := offsets.expertOffsets.store kQ38RouteExperts offsets.assignmentOffset
      expertTaskOffsets := offsets.expertTaskOffsets.store kQ38RouteExperts offsets.taskOffset
      header := { plan.header with
        activeExperts := offsets.activeExperts
        taskCount := offsets.taskOffset
        status := if (offsets.assignmentOffset ≠ routes ∨ maximumTasks < offsets.taskOffset) ∧
            block.planStatus = .kOk then .kInvalidShape else block.planStatus } } }

def scatterAssignment (block : Block) (assignment : Nat) : Block :=
  let expert := block.routeExperts.cells assignment
  if expert = kInvalidExpert then block
  else
    let packed := block.plan.expertOffsets.cells expert +
      block.plan.assignmentToPacked.cells assignment
    { block with plan := { block.plan with
        packedAssignment := block.plan.packedAssignment.store packed assignment
        assignmentToPacked := block.plan.assignmentToPacked.store assignment packed } }

/-- One task of an expert. -/
def expertTask (plan : Plan) (lane tile : Nat) : Q38ExpertMmqTaskV1 :=
  let consumed := tile * kQ38MmqM
  let remaining := plan.expertCounts.cells lane - consumed
  { packedBegin := plan.expertOffsets.cells lane + consumed
    expert := lane % 2 ^ 16
    validRows := (if remaining < kQ38MmqM then remaining else kQ38MmqM) % 2 ^ 8
    flags := 0 }

def tileExpert (plan : Plan) (tasks : Buffer Q38ExpertMmqTaskV1) (lane : Nat) :
    Buffer Q38ExpertMmqTaskV1 :=
  (List.range (expertTasks (plan.expertCounts.cells lane))).foldl
    (fun tasks tile =>
      tasks.store (plan.expertTaskOffsets.cells lane + tile) (expertTask plan lane tile)) tasks

def hashWord (hash : UInt64) (value : Nat) : UInt64 := (hash ^^^ UInt64.ofNat value) * kFnvPrime

def hashTask (hash : UInt64) (task : Q38ExpertMmqTaskV1) : UInt64 :=
  hashWord (hashWord hash (task.packedBegin ||| task.expert <<< 32))
    (task.validRows ||| task.flags <<< 8)

def hashPlan (routes : Nat) (block : Block) : Q38RoutePlanHeaderV1 :=
  let plan := block.plan
  let offsets := (List.range (kQ38RouteExperts + 1)).foldl (fun hash expert =>
    hashWord (hashWord hash (plan.expertOffsets.cells expert))
      (plan.expertTaskOffsets.cells expert)) kFnvOffset
  let packed := (List.range routes).foldl (fun hash index =>
    hashWord hash (plan.packedAssignment.cells index)) offsets
  { plan.header with
    routeHash := (List.range routes).foldl (fun hash assignment =>
      hashWord hash (block.routeExperts.cells assignment)) kFnvOffset
    planHash := (List.range plan.header.taskCount).foldl (fun hash task =>
      hashTask hash (plan.tasks.cells task)) packed }

variable (expertIds : Nat → Int) (tokens : Nat) {maximumTasks : Nat}

/-- The block at the first barrier. -/
def enterBlock {routes : Nat} (schedule : Schedule routes maximumTasks) (plan : Plan)
    (routeExperts : Buffer Nat) : Block :=
  schedule.enter.foldl (enterAssignment expertIds)
    { plan := { plan with
        header := openHeader tokens routes
        tasks := schedule.blank.foldl blankTask plan.tasks }
      routeExperts := routeExperts
      planStatus := .kOk }

/-- From the third barrier to the fourth. -/
def scatterBlock {routes : Nat} (schedule : Schedule routes maximumTasks) (block : Block) :
    Block :=
  let scattered := schedule.scatter.foldl scatterAssignment block
  { scattered with plan := { scattered.plan with
      tasks := schedule.tile.foldl (tileExpert scattered.plan) scattered.plan.tasks } }

def buildRoutePlanKernel {routes : Nat} (schedule : Schedule routes maximumTasks) (plan : Plan)
    (shared : Nat → Nat) : Block :=
  let entered := enterBlock expertIds tokens schedule plan ⟨kMaxRoutes, shared, false⟩
  let counted := schedule.count.foldl (countExpert routes) entered
  let added := addExperts routes maximumTasks counted
  let scattered := scatterBlock schedule added
  { scattered with plan := { scattered.plan with header := hashPlan routes scattered } }

/-- The launch; the pointers are taken to be set. -/
def cudaMoeBuildRoutePlanV1
    (schedule : Schedule (q38MoePrefillRoutesV1 tokens) (q38MoePrefillMaxTasksV1 tokens))
    (plan : Plan) (shared : Nat → Nat) : Except Thrown Block :=
  if tokens = 0 ∨ kQ38PrefillSlabMaxTokens < tokens then
    .error (.invalidArgument "invalid prefill MoE route-plan input")
  else .ok (buildRoutePlanKernel expertIds tokens schedule plan shared)

end Kernel

end Q38.RoutePlan
