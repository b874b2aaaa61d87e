import Q38Runtime.FallibleRuns
import Q38Runtime.TensorLedger

/-!
What a ledger counts, and which rows its stages get: every tensor that is not vision
goes to one stage, and the weights of a plan are those of the rows of its stages.
-/
namespace Q38.TensorPlans
open KeyedTotals DeviceArtifact TensorLedger FallibleRuns

variable {Value : Type} {python : Builtins Value}

theorem interpret_ok {α : Type} {answer : Option α} {value : α}
    (given : interpret answer = .ok value) : answer = some value := by
  cases answer with
  | none => cases given
  | some other =>
      cases given
      rfl

section Shards
variable {fileSize : List Char → Except String UInt64}

/-- What holds of each type of the table, so of each type that a tensor has. -/
structure Typed (kind : GgmlType) : Prop where
  some_ : kind.name ≠ []
  plainFields : '\t' ∉ kind.name
  plainLines : '\n' ∉ kind.name
  elements : 0 < kind.blockElements
  bytes : 0 < kind.blockBytes

theorem types_typed : ∀ entry ∈ ggmlTypes, Typed entry.2 := by
  have checked : ∀ entry ∈ ggmlTypes, entry.2.name ≠ [] ∧ '\t' ∉ entry.2.name ∧
      '\n' ∉ entry.2.name ∧ 0 < entry.2.blockElements ∧ 0 < entry.2.blockBytes := by decide
  intro entry member
  obtain ⟨some_, fields, lines, elements, bytes⟩ := checked entry member
  exact ⟨some_, fields, lines, elements, bytes⟩

theorem looked_up {typeId : UInt32} {kind : GgmlType}
    (found : ggmlTypes.lookup typeId = some kind) : Typed kind := by
  have member : (typeId, kind) ∈ ggmlTypes := by
    obtain ⟨before, after, split, _⟩ := List.lookup_eq_some_iff.mp found
    rw [split]
    exact List.mem_append_right before List.mem_cons_self
  exact types_typed (typeId, kind) member

/-- A tensor has no bytes exactly where a dimension is zero. -/
theorem no_bytes_iff {kind : GgmlType} (typed : Typed kind) (dims : List UInt64) :
    blockBytes dims kind = 0 ↔ 0 ∈ dims := by
  have product : elements dims = 0 ↔ 0 ∈ dims := by
    rw [elements, List.prod_eq_zero_iff, List.mem_map]
    constructor
    · rintro ⟨dim, member, zero⟩
      have same : dim = 0 := UInt64.toNat_inj.mp zero
      exact same ▸ member
    · intro member
      exact ⟨0, member, rfl⟩
  rw [← product, blockBytes, Nat.mul_eq_zero, or_iff_left typed.bytes.ne', Nat.div_eq_zero_iff]
  have some_ := typed.elements
  omega

/-- A tensor of a shard that was parsed. -/
structure Sound (shard : ShardInfo Value) (tensor : TensorInfo) : Prop where
  dims : tensor.dims ≠ []
  typed : tensor.typeName ≠ [] ∧ '\t' ∉ tensor.typeName ∧ '\n' ∉ tensor.typeName
  bytes : tensor.payloadBytes = 0 ↔ 0 ∈ tensor.dims
  named : tensor.shard = shard.path.name
  inside : shard.dataStart + tensor.offset.toNat + tensor.payloadBytes ≤ shard.fileBytes

theorem tensor_placed {path : ShardPath} {dataStart fileBytes : Nat} {raw : RawTensor}
    {tensor : TensorInfo} (checked : checkDimensions path raw = .ok ())
    (placed : placeTensor path dataStart fileBytes raw = .ok tensor) :
    tensor.dims ≠ [] ∧
      (tensor.typeName ≠ [] ∧ '\t' ∉ tensor.typeName ∧ '\n' ∉ tensor.typeName) ∧
      (tensor.payloadBytes = 0 ↔ 0 ∈ tensor.dims) ∧ tensor.shard = path.name ∧
      dataStart + tensor.offset.toNat + tensor.payloadBytes ≤ fileBytes := by
  have dims : raw.dims ≠ [] := by
    rintro none_
    simp [checkDimensions, none_, shardError, refuse] at checked
  unfold placeTensor at placed
  obtain ⟨payload, counted, placed⟩ := bind_ok placed
  dsimp only at placed
  split at placed
  · cases placed
  · next inside =>
      obtain ⟨kind, known, placed⟩ := bind_ok placed
      cases placed
      have found := interpret_ok known
      have typed := looked_up found
      rw [tensorBytes, found] at counted
      cases counted
      exact ⟨dims, ⟨typed.some_, typed.plainFields, typed.plainLines⟩,
        no_bytes_iff typed raw.dims, rfl, Nat.not_lt.mp inside⟩

theorem shard_parsed {path : ShardPath} {header : Header Value} {shard : ShardInfo Value}
    (parsed : parseShard python fileSize path header = .ok shard) :
    shard.path = path ∧
      (∃ size, fileSize path.resolved = .ok size ∧ shard.fileBytes = size.toNat) ∧
      ∀ tensor ∈ shard.tensors, Sound shard tensor := by
  unfold parseShard at parsed
  obtain ⟨size, stated, parsed⟩ := bind_ok parsed
  obtain ⟨_, _, parsed⟩ := bind_ok parsed
  obtain ⟨_, dimensions, parsed⟩ := bind_ok parsed
  obtain ⟨alignment, _, parsed⟩ := bind_ok parsed
  obtain ⟨dataStart, _, parsed⟩ := bind_ok parsed
  obtain ⟨tensors, placed, parsed⟩ := bind_ok parsed
  cases parsed
  refine ⟨rfl, ⟨size, ?_, rfl⟩, ?_⟩
  · cases known : fileSize path.resolved with
    | error message =>
        rw [known] at stated
        cases interpret_ok stated
    | ok other =>
        rw [known] at stated
        cases interpret_ok stated
        rfl
  · intro tensor member
    obtain ⟨raw, listed, placed⟩ := map_ok_mem placed member
    obtain ⟨dims, typed, bytes, shard, inside⟩ :=
      tensor_placed (for_ok dimensions raw listed) placed
    exact ⟨dims, typed, bytes, shard, inside⟩

end Shards

section Classes

/-- Only the class of layers comes with a layer, and always does. -/
theorem layer_class (name : List Char) :
    ((classifyTensor python name).1 = .layer ↔
      ((classifyTensor python name).2).isSome = true) := by
  simp only [classifyTensor]
  cases layerSearch python (python.lower name) with
  | some layer => split_ifs <;> simp
  | none => split_ifs <;> simp

theorem empty_unassigned : (classifyTensor python []).1 = .unassigned := by
  have none_ : layerSearch python [] = none := by
    simp [layerSearch, layerAt, startsWith, layerAfterDot]
  simp only [classifyTensor, python.lower_nil, none_]
  decide

end Classes

section Censuses

def bytesOf (tensors : List TensorRow) (chosen : TensorRow → Bool) : Nat :=
  ((tensors.filter chosen).map TensorRow.payloadBytes).sum

def owns (owner : OwnerClass) (row : TensorRow) : Bool := row.ownerClass = owner

def layerBefore (cut : Int) (row : TensorRow) : Bool :=
  row.layer.any fun layer : Nat => (layer : Int) < cut

def layerFrom (cut : Int) (row : TensorRow) : Bool :=
  row.layer.any fun layer : Nat => cut ≤ (layer : Int)

/-- The loop tallies rows by class, and those of layers by layer. -/
theorem census_tallied (tensors : List TensorInfo) :
    let census := tensors.foldl (countTensor python) {}
    let rows := tensors.map (tensorRow python)
    census.classRows = rows ∧
      census.bytesByClass = tally TensorRow.ownerClass TensorRow.payloadBytes rows ∧
      census.bytesByLayer = tally (fun row : TensorRow => row.layer.getD 0)
        TensorRow.payloadBytes (rows.filter fun row => row.layer.isSome) := by
  have from_ (start : Census) :
      let census := tensors.foldl (countTensor python) start
      let rows := tensors.map (tensorRow python)
      census.classRows = start.classRows ++ rows ∧
        census.bytesByClass = rows.foldl (fun totals row =>
          bump row.ownerClass row.payloadBytes totals) start.bytesByClass ∧
        census.bytesByLayer = (rows.filter fun row => row.layer.isSome).foldl (fun totals row =>
          bump (row.layer.getD 0) row.payloadBytes totals) start.bytesByLayer := by
    induction tensors generalizing start with
    | nil => simp
    | cons tensor rest ih =>
        obtain ⟨rows, classes, layers⟩ := ih (countTensor python start tensor)
        dsimp only
        rw [List.foldl_cons, List.map_cons, List.foldl_cons, rows, classes, layers]
        refine ⟨by simp [countTensor], rfl, ?_⟩
        cases found : (classifyTensor python tensor.name).2 with
        | none => simp [countTensor, tensorRow, found]
        | some layer => simp [countTensor, tensorRow, found]
  exact from_ {}

theorem class_bytes (tensors : List TensorInfo) (owner : OwnerClass) :
    count owner (tensors.foldl (countTensor python) {}).bytesByClass =
      bytesOf (tensors.map (tensorRow python)) (owns owner) := by
  rw [(census_tallied tensors).2.1, count_tally]
  rfl

theorem layer_bytes (tensors : List TensorInfo) (chosen : Nat → Bool) :
    totalWhere chosen (tensors.foldl (countTensor python) {}).bytesByLayer =
      bytesOf (tensors.map (tensorRow python)) fun row => row.layer.any chosen := by
  rw [(census_tallied tensors).2.2, total_where_tally, List.filter_filter]
  unfold bytesOf
  congr 2
  apply List.filter_congr
  intro row member
  cases row.layer with
  | none => simp
  | some layer => simp

end Censuses

section Ledgers

def visionBytes (ledger : Ledger Value) : Nat := count .vision ledger.byOwnerClass

/-- A ledger whose rows are those of the tensors of its shards, each under its own name. -/
structure Built (python : Builtins Value) (shards : List (ShardInfo Value))
    (ledger : Ledger Value) : Prop where
  rows : ledger.tensors = (shards.flatMap ShardInfo.tensors).map (tensorRow python)
  distinct : (ledger.tensors.map TensorRow.name).Nodup
  hex : isHex ledger.model.layoutSha256 64 = true
  total : ledger.model.tensorPayloadBytes = (ledger.tensors.map TensorRow.payloadBytes).sum
  vision : visionBytes ledger = bytesOf ledger.tensors (owns .vision)
  plans : ∀ plan ∈ ledger.candidatePlans,
    plan.stage0WeightBytes = bytesOf ledger.tensors (owns .stage0Global) +
      bytesOf ledger.tensors (layerBefore plan.cut) ∧
    plan.stage1WeightBytes = bytesOf ledger.tensors (owns .stage1Global) +
      bytesOf ledger.tensors (owns .mtp) +
      bytesOf ledger.tensors (layerFrom plan.cut)

theorem names_distinct {names : List (List Char)} (checked : refuseDuplicates names = .ok ()) :
    names.Nodup := by
  unfold refuseDuplicates at checked
  split at checked
  · next distinct => exact distinct
  · cases checked

theorem plan_weights {tensors : List TensorInfo} {layerCount contextLimit cut : Int}
    {qsaLayers : List Int} {plan : Plan}
    (planned : planAt (tensors.foldl (countTensor python) {}) layerCount contextLimit qsaLayers
      cut = .ok plan) :
    let rows := tensors.map (tensorRow python)
    plan.stage0WeightBytes = bytesOf rows (owns .stage0Global) +
      bytesOf rows (layerBefore plan.cut) ∧
    plan.stage1WeightBytes = bytesOf rows (owns .stage1Global) +
      bytesOf rows (owns .mtp) +
      bytesOf rows (layerFrom plan.cut) := by
  unfold planAt at planned
  split at planned
  · cases planned
  · cases planned
    dsimp only
    rw [class_bytes, class_bytes, class_bytes, layer_bytes, layer_bytes]
    exact ⟨rfl, rfl⟩

theorem ledger_built {shards : List (ShardInfo Value)} {cuts : List Int} {contextLimit : Int}
    {ledger : Ledger Value} (built : buildLedger python shards cuts contextLimit = .ok ledger) :
    Built python shards ledger := by
  unfold buildLedger at built
  obtain ⟨_, checked, built⟩ := bind_ok built
  obtain ⟨metadata, _, built⟩ := bind_ok built
  obtain ⟨layerCount, _, built⟩ := bind_ok built
  obtain ⟨qsaLayers, _, built⟩ := bind_ok built
  obtain ⟨plans, planned, built⟩ := bind_ok built
  obtain ⟨hashed, _, built⟩ := bind_ok built
  cases built
  obtain ⟨rows, classes, _⟩ :=
    @census_tallied Value python (shards.flatMap ShardInfo.tensors)
  refine ⟨rows, ?_, python.sha256_hex _, ?_, ?_, ?_⟩
  · have names := names_distinct checked
    simp only [rows, List.map_map]
    exact names
  · simp only [rows, List.map_map]
    rfl
  · have keys := keys_tally_nodup TensorRow.ownerClass TensorRow.payloadBytes
      ((shards.flatMap ShardInfo.tensors).map (tensorRow python))
    have sorted : (sortedBy (fun entry : OwnerClass × Nat => entry.1.text)
        ((shards.flatMap ShardInfo.tensors).foldl (countTensor python) {}).bytesByClass).Perm _ :=
      List.perm_insertionSort _ _
    have same := count_perm sorted.symm (classes ▸ keys) .vision
    simp only [visionBytes, rows]
    rw [← same, class_bytes]
  · intro plan member
    obtain ⟨cut, _, planned⟩ := map_ok_mem planned member
    simp only [rows]
    exact plan_weights planned

end Ledgers

section Stages
variable {shards : List (ShardInfo Value)} {cut : Int}

def inStage (cut : Int) (stage : Nat) (row : TensorRow) : Bool :=
  (stageOf cut row).toOption = some (some stage)

def seen (row : TensorRow) : Bool := row.ownerClass ≠ .vision

theorem index_row_keeps {tensor : TensorRow} {row : IndexRow}
    (made : indexRow shards tensor = .ok row) : row.toTensorRow = tensor := by
  unfold indexRow at made
  obtain ⟨shard, _, made⟩ := bind_ok made
  obtain ⟨last, _, made⟩ := bind_ok made
  cases made
  rfl

/-- Each step adds at most one row, to the stage of its tensor. -/
theorem row_placed {rows next : StageRows} {tensor : TensorRow}
    (placed : placeRow shards cut rows tensor = .ok next) :
    (stageOf cut tensor = .ok none ∧ next = rows) ∨
      ∃ stage row, stageOf cut tensor = .ok (some stage) ∧ indexRow shards tensor = .ok row ∧
        next = rows.add stage row := by
  unfold placeRow at placed
  obtain ⟨stage, staged, placed⟩ := bind_ok placed
  cases stage with
  | none =>
      cases placed
      exact .inl ⟨staged, rfl⟩
  | some stage =>
      obtain ⟨row, made, placed⟩ := bind_ok placed
      cases placed
      exact .inr ⟨stage, row, staged, made, rfl⟩

theorem stage_known {tensor : TensorRow} {stage : Nat}
    (staged : stageOf cut tensor = .ok (some stage)) : stage = 0 ∨ stage = 1 := by
  unfold stageOf at staged
  split at staged
  · cases staged
  · cases staged
  · cases staged
    exact .inl rfl
  · cases staged
    exact .inr rfl
  · cases staged
    exact .inr rfl
  · split at staged
    · cases staged
    · cases staged
      split
      · exact .inl rfl
      · exact .inr rfl

theorem in_stage_staged {tensor : TensorRow} {stage : Option Nat}
    (staged : stageOf cut tensor = .ok stage) (other : Nat) :
    inStage cut other tensor = decide (stage = some other) := by
  rw [inStage, staged]
  simp [Except.toOption]

/-- The rows of both stages, in the order of the tensors they are made of. -/
structure Placed (shards : List (ShardInfo Value)) (cut : Int) (tensors : List TensorRow)
    (first second : List IndexRow) : Prop where
  stage0 : List.Forall₂ (fun tensor row => indexRow shards tensor = .ok row)
    (tensors.filter (inStage cut 0)) first
  stage1 : List.Forall₂ (fun tensor row => indexRow shards tensor = .ok row)
    (tensors.filter (inStage cut 1)) second
  staged : ∀ tensor ∈ tensors, ∃ stage, stageOf cut tensor = .ok stage

theorem rows_placed {tensors : List TensorRow} {rows final : StageRows}
    (ran : tensors.foldlM (placeRow shards cut) rows = .ok final) :
    ∃ first second, final.stage0 = rows.stage0 ++ first ∧
      final.stage1 = rows.stage1 ++ second ∧ Placed shards cut tensors first second := by
  induction tensors generalizing rows with
  | nil =>
      cases ran
      exact ⟨[], [], by simp, by simp, .nil, .nil, by simp⟩
  | cons tensor rest ih =>
      rw [List.foldlM_cons] at ran
      obtain ⟨next, begun, ran⟩ := bind_ok ran
      obtain ⟨first, second, grown0, grown1, placed⟩ := ih ran
      obtain ⟨staged, rfl⟩ | ⟨stage, row, staged, made, rfl⟩ := row_placed begun
      · have zero : inStage cut 0 tensor = false := in_stage_staged staged 0
        have one : inStage cut 1 tensor = false := in_stage_staged staged 1
        refine ⟨first, second, grown0, grown1, ?_, ?_, ?_⟩
        · simpa only [List.filter_cons, zero, Bool.false_eq_true, if_false] using placed.stage0
        · simpa only [List.filter_cons, one, Bool.false_eq_true, if_false] using placed.stage1
        · exact List.forall_mem_cons.mpr ⟨⟨none, staged⟩, placed.staged⟩
      · rcases stage_known staged with rfl | rfl
        · have zero : inStage cut 0 tensor = true := in_stage_staged staged 0
          have one : inStage cut 1 tensor = false := in_stage_staged staged 1
          refine ⟨row :: first, second, ?_, grown1, ?_, ?_, ?_⟩
          · simpa [StageRows.add] using grown0
          · simpa only [List.filter_cons, zero, if_true] using .cons made placed.stage0
          · simpa only [List.filter_cons, one, Bool.false_eq_true, if_false] using placed.stage1
          · exact List.forall_mem_cons.mpr ⟨⟨some 0, staged⟩, placed.staged⟩
        · have zero : inStage cut 0 tensor = false := in_stage_staged staged 0
          have one : inStage cut 1 tensor = true := in_stage_staged staged 1
          refine ⟨first, row :: second, grown0, ?_, ?_, ?_, ?_⟩
          · simpa [StageRows.add] using grown1
          · simpa only [List.filter_cons, zero, Bool.false_eq_true, if_false] using placed.stage0
          · simpa only [List.filter_cons, one, if_true] using .cons made placed.stage1
          · exact List.forall_mem_cons.mpr ⟨⟨some 1, staged⟩, placed.staged⟩

/-- What classifying a name leaves: a layer with the class of layers only. -/
def Classified (row : TensorRow) : Prop := row.ownerClass = .layer ↔ row.layer.isSome = true

theorem stage0_owners {row : TensorRow} (classified : Classified row) :
    inStage cut 0 row = (owns .stage0Global row || layerBefore cut row) := by
  unfold Classified at classified
  cases class_ : row.ownerClass <;> cases layer : row.layer <;>
    simp_all [inStage, stageOf, owns, layerBefore, refuse, Except.toOption]

theorem stage1_owners {row : TensorRow} (classified : Classified row) :
    inStage cut 1 row =
      ((owns .stage1Global row || owns .mtp row) || layerFrom cut row) := by
  unfold Classified at classified
  cases class_ : row.ownerClass <;> cases layer : row.layer <;>
    simp_all [inStage, stageOf, owns, layerFrom, refuse, Except.toOption]

theorem staged_seen {row : TensorRow} (staged : ∃ stage, stageOf cut row = .ok stage) :
    seen row = (inStage cut 0 row || inStage cut 1 row) := by
  obtain ⟨stage, staged⟩ := staged
  cases stage with
  | none =>
      have vision : row.ownerClass = .vision := by
        unfold stageOf at staged
        split at staged
        · assumption
        · cases staged
        · cases staged
        · cases staged
        · cases staged
        · split at staged
          · cases staged
          · cases staged
      simp [seen, inStage, staged, vision, Except.toOption]
  | some stage =>
      have seen_ : row.ownerClass ≠ .vision := by
        intro vision
        simp [stageOf, vision] at staged
      rcases stage_known staged with rfl | rfl
      · simp [seen, inStage, staged, seen_, Except.toOption]
      · simp [seen, inStage, staged, seen_, Except.toOption]

theorem stages_apart (row : TensorRow) : (inStage cut 0 row && inStage cut 1 row) = false := by
  unfold inStage
  cases (stageOf cut row).toOption with
  | none => simp
  | some stage =>
      cases stage with
      | none => simp
      | some stage =>
          cases stage with
          | zero => simp
          | succ stage => simp

theorem placed_rows {tensors : List TensorRow} {rows : List IndexRow}
    (placed : List.Forall₂ (fun tensor row => indexRow shards tensor = .ok row) tensors rows) :
    rows.map IndexRow.toTensorRow = tensors := by
  induction placed with
  | nil => rfl
  | cons made _ ih => rw [List.map_cons, ih, index_row_keeps made]

section Weights
variable {tensors : List TensorRow} (classified : ∀ row ∈ tensors, Classified row)
include classified

theorem stage0_bytes :
    bytesOf tensors (owns .stage0Global) + bytesOf tensors (layerBefore cut) =
      bytesOf tensors (inStage cut 0) := by
  apply sum_apart
  · exact fun row member => stage0_owners (classified row member)
  · intro row member
    have layer := classified row member
    cases found : row.layer with
    | none => simp [layerBefore, found]
    | some number =>
        have class_ : row.ownerClass = .layer := layer.mpr (by simp [found])
        simp [owns, class_]

theorem stage1_bytes :
    bytesOf tensors (owns .stage1Global) + bytesOf tensors (owns .mtp) +
        bytesOf tensors (layerFrom cut) =
      bytesOf tensors (inStage cut 1) := by
  have globals : bytesOf tensors (owns .stage1Global) + bytesOf tensors (owns .mtp) =
      bytesOf tensors (fun row => owns .stage1Global row || owns .mtp row) := by
    apply sum_apart
    · exact fun row member => rfl
    · intro row member
      by_cases class_ : row.ownerClass = .mtp
      · simp [owns, class_]
      · simp [owns, class_]
  rw [globals]
  apply sum_apart
  · exact fun row member => stage1_owners (classified row member)
  · intro row member
    have layer := classified row member
    cases found : row.layer with
    | none => simp [layerFrom, found]
    | some number =>
        have class_ : row.ownerClass = .layer := layer.mpr (by simp [found])
        simp [owns, class_]

end Weights

theorem whole_bytes {tensors : List TensorRow}
    (staged : ∀ tensor ∈ tensors, ∃ stage, stageOf cut tensor = .ok stage) :
    bytesOf tensors (inStage cut 0) + bytesOf tensors (inStage cut 1) +
        bytesOf tensors (owns .vision) = (tensors.map TensorRow.payloadBytes).sum := by
  have stages : bytesOf tensors (inStage cut 0) + bytesOf tensors (inStage cut 1) =
      bytesOf tensors seen :=
    sum_apart (fun row member => staged_seen (staged row member))
      fun row member => stages_apart row
  have all : bytesOf tensors seen + bytesOf tensors (owns .vision) =
      bytesOf tensors fun row => true := by
    apply sum_apart
    · intro row member
      by_cases vision : row.ownerClass = .vision
      · simp [seen, owns, vision]
      · simp [seen, owns, vision]
    · intro row member
      by_cases vision : row.ownerClass = .vision
      · simp [seen, owns, vision]
      · simp [seen, owns, vision]
  rw [stages, all, bytesOf, List.filter_true]

/-- The rows of the two stages are the tensors that are seen, in another order. -/
theorem stages_perm {tensors : List TensorRow}
    (staged : ∀ tensor ∈ tensors, ∃ stage, stageOf cut tensor = .ok stage) :
    (tensors.filter (inStage cut 0) ++ tensors.filter (inStage cut 1)).Perm
      (tensors.filter seen) := by
  have second : tensors.filter (inStage cut 1) =
      (tensors.filter seen).filter fun row => !inStage cut 0 row := by
    rw [List.filter_filter]
    apply List.filter_congr
    intro row member
    have apart := @stages_apart cut row
    rw [staged_seen (staged row member)]
    cases zero : inStage cut 0 row with
    | true => simpa [zero] using apart
    | false => simp
  have first : tensors.filter (inStage cut 0) =
      (tensors.filter seen).filter (inStage cut 0) := by
    rw [List.filter_filter]
    apply List.filter_congr
    intro row member
    rw [staged_seen (staged row member)]
    cases inStage cut 0 row with
    | true => simp
    | false => simp
  rw [first, second]
  exact List.filter_append_perm _ _

end Stages

end Q38.TensorPlans
