import Q38Runtime.TensorIndexReading
import Q38Runtime.TensorPlans

/-!
The two index texts that a ledger writes at a cut, read by the runtime: which pairs are
accepted, and that an accepted pair holds what was written and adds up to the plan.
-/
namespace Q38.TensorIndexPairs
open Contracts KeyedTotals DeviceArtifact TensorLedger TensorIndex TextFields TensorIndexReading
open TensorPlans FallibleRuns

variable {Value : Type} {python : Builtins Value} {fileSize : List Char → Except String UInt64}
variable {shards : List (ShardInfo Value)} {ledger : Ledger Value} {cut : Int}

section Agreement

/-- Each tensor that is not vision has one row, in one stage, with its place in its shard. -/
structure Divided (ledger : Ledger Value) (shards : List (ShardInfo Value))
    (rows : StageRows) : Prop where
  owned : ((rows.stage0 ++ rows.stage1).map IndexRow.toTensorRow).Perm
    (ledger.tensors.filter seen)
  once : (names (rows.stage0 ++ rows.stage1)).Nodup
  sited : ∀ row ∈ rows.stage0 ++ rows.stage1, indexRow shards row.toTensorRow = .ok row

structure Fields where
  name : List Char
  type : List Char
  payloadBytes : Nat
  absoluteOffset : Nat
  shardPath : List Char
  dims : List UInt64

def written (row : IndexRow) : Fields :=
  ⟨row.name, row.type, row.payloadBytes, row.absoluteOffset, row.shardPath, row.dims⟩

def read (tensor : IndexedTensorV1) : Fields :=
  ⟨tensor.name, tensor.typeName, tensor.payloadBytes.toNat, tensor.absoluteOffset.toNat,
    tensor.shardPath, tensor.dims⟩

structure Agreed (ledger : Ledger Value) (cut : Int) (rows : StageRows)
    (index0 index1 : TensorIndexV1) : Prop where
  valid : validateTensorIndexPair index0 index1 = .ok ()
  stage0 : index0.tensors.map read = (sorted rows.stage0).map written
  stage1 : index1.tensors.map read = (sorted rows.stage1).map written
  plan : ∀ plan ∈ ledger.candidatePlans, plan.cut = cut →
    index0.payloadBytes.toNat = plan.stage0WeightBytes ∧
    index1.payloadBytes.toNat = plan.stage1WeightBytes
  total : index0.payloadBytes.toNat + index1.payloadBytes.toNat + visionBytes ledger =
    ledger.model.tensorPayloadBytes

/-- Both texts load, as a pair that holds what was written. -/
def PairAgrees (fileSize : List Char → Except String UInt64) (paths : String × String)
    (ledger : Ledger Value) (cut : Int) (rows : StageRows)
    (texts : List Char × List Char) : Prop :=
  ∃ index0 index1, loadTensorIndex fileSize true paths.1 (some texts.1) = .ok index0 ∧
    loadTensorIndex fileSize true paths.2 (some texts.2) = .ok index1 ∧
    Agreed ledger cut rows index0 index1

/-- Where the shards have the bytes of the tensors that are written. -/
def Extents (fileSize : List Char → Except String UInt64) (ledger : Ledger Value)
    (shards : List (ShardInfo Value)) : Prop :=
  ∀ tensor ∈ ledger.tensors, tensor.ownerClass ≠ .vision →
    ∀ row, indexRow shards tensor = .ok row → Lies fileSize row

/-- What the reader asks beyond what the writer checks. -/
structure Loadable (fileSize : List Char → Except String UInt64) (ledger : Ledger Value)
    (shards : List (ShardInfo Value)) (cut : Int) : Prop where
  narrow : cut < 2 ^ 32
  some0 : ∃ tensor ∈ ledger.tensors, inStage cut 0 tensor = true
  some1 : ∃ tensor ∈ ledger.tensors, inStage cut 1 tensor = true
  dims : ∀ tensor ∈ ledger.tensors, tensor.ownerClass ≠ .vision → 0 ∉ tensor.dims
  total0 : bytesOf ledger.tensors (inStage cut 0) < 2 ^ 64
  total1 : bytesOf ledger.tensors (inStage cut 1) < 2 ^ 64
  extents : Extents fileSize ledger shards

/-- No tab or newline where a field is written as it is. -/
structure PlainTexts (ledger : Ledger Value) (shards : List (ShardInfo Value)) : Prop where
  names : ∀ tensor ∈ ledger.tensors, tensor.ownerClass ≠ .vision → Plain tensor.name
  paths : ∀ shard ∈ shards, Plain shard.path.resolved

end Agreement

section Rows

theorem index_row_sited {tensor : TensorRow} {row : IndexRow}
    (made : indexRow shards tensor = .ok row) :
    ∃ shard ∈ shards, ∃ last ∈ shards, shard.path.name = tensor.shard ∧
      last.path.name = tensor.shard ∧
      row.absoluteOffset = shard.dataStart + tensor.offset.toNat ∧
      row.shardPath = last.path.resolved := by
  unfold indexRow at made
  obtain ⟨shard, found, made⟩ := bind_ok made
  obtain ⟨last, ended, made⟩ := bind_ok made
  cases made
  have first := interpret_ok found
  have final := interpret_ok ended
  rw [List.findRev?_eq_find?_reverse] at final
  exact ⟨shard, List.mem_of_find?_eq_some first, last,
    List.mem_reverse.mp (List.mem_of_find?_eq_some final),
    by simpa using List.find?_some first, by simpa using List.find?_some final, rfl, rfl⟩

/-- A row of the ledger and the tensor it is made of. -/
theorem row_sound (built : Built python shards ledger)
    (sound : ∀ shard ∈ shards, ∀ tensor ∈ shard.tensors, Sound shard tensor)
    {row : TensorRow} (member : row ∈ ledger.tensors) :
    ∃ shard ∈ shards, ∃ tensor, Sound shard tensor ∧ row = tensorRow python tensor := by
  rw [built.rows] at member
  obtain ⟨tensor, placed, rfl⟩ := List.mem_map.mp member
  obtain ⟨shard, listed, member⟩ := List.mem_flatMap.mp placed
  exact ⟨shard, listed, tensor, sound shard listed tensor member, rfl⟩

theorem rows_classified (built : Built python shards ledger) :
    ∀ row ∈ ledger.tensors, Classified row := by
  intro row member
  rw [built.rows] at member
  obtain ⟨tensor, _, rfl⟩ := List.mem_map.mp member
  exact layer_class tensor.name

theorem row_clean (built : Built python shards ledger)
    (sound : ∀ shard ∈ shards, ∀ tensor ∈ shard.tensors, Sound shard tensor)
    (plain : PlainTexts ledger shards) {stage : Nat} {tensor : TensorRow} {row : IndexRow}
    (member : tensor ∈ ledger.tensors) (staged : inStage cut stage tensor = true)
    (made : indexRow shards tensor = .ok row) : Clean row := by
  have answer : stageOf cut tensor = .ok (some stage) := by
    simp only [inStage, decide_eq_true_eq] at staged
    cases known : stageOf cut tensor with
    | error thrown => simp [known, Except.toOption] at staged
    | ok other => simpa [known, Except.toOption] using staged
  have shown : tensor.ownerClass ≠ .vision := by
    intro vision
    simp [stageOf, vision] at answer
  obtain ⟨own, _, info, info_, same⟩ := row_sound built sound member
  obtain ⟨_, _, last, listed, _, _, _, path⟩ := index_row_sited made
  have kept := index_row_keeps made
  have named : tensor.name ≠ [] := by
    intro none_
    have class_ : tensor.ownerClass = (classifyTensor python tensor.name).1 := by
      rw [same]
      rfl
    rw [none_, empty_unassigned] at class_
    simp [stageOf, class_, TensorLedger.refuse] at answer
  have typed : row.type = info.typeName := by
    rw [kept, same]
    rfl
  have dims : row.dims = info.dims := by
    rw [kept, same]
    rfl
  refine ⟨?_, ?_, ?_, ?_, ?_, ?_, ?_⟩
  · rw [kept]
    exact named
  · rw [typed]
    exact info_.typed.1
  · rw [path]
    intro none_
    have absolute := last.path.absolute
    rw [none_] at absolute
    cases absolute
  · rw [dims]
    exact info_.dims
  · rw [kept]
    exact plain.names tensor member shown
  · rw [typed]
    exact info_.typed.2
  · rw [path]
    exact plain.paths last listed

theorem accepted_iff {rows : List IndexRow}
    (bytes : ∀ row ∈ rows, row.payloadBytes = 0 ↔ 0 ∈ row.dims) :
    Accepted fileSize true rows ↔
      rows ≠ [] ∧ (∀ row ∈ rows, 0 ∉ row.dims ∧ Lies fileSize row) ∧
        weight rows < 2 ^ 64 := by
  constructor
  · intro accepted
    refine ⟨accepted.some_, fun row member => ?_, accepted.total⟩
    have admitted := accepted.admitted row member
    exact ⟨fun zero => admitted.weighty ((bytes row member).mpr zero), admitted.lies rfl⟩
  · rintro ⟨some_, each, total⟩
    refine ⟨some_, fun row member => ?_, total⟩
    obtain ⟨dims, lies⟩ := each row member
    obtain ⟨size, found, inside⟩ := lies
    have small := size.toNat_lt
    exact ⟨fun none_ => dims ((bytes row member).mp none_), by omega, by omega,
      fun _ => ⟨size, found, inside⟩⟩

theorem placed_each {tensors : List TensorRow} {rows : List IndexRow}
    {kept : IndexRow → Prop}
    (placed : List.Forall₂ (fun tensor row => indexRow shards tensor = .ok row) tensors rows) :
    (∀ row ∈ rows, kept row) ↔
      ∀ tensor ∈ tensors, ∀ row, indexRow shards tensor = .ok row → kept row := by
  induction placed with
  | nil => simp
  | cons made _ ih =>
      rw [List.forall_mem_cons, List.forall_mem_cons, ih]
      have one {row : IndexRow} (other : indexRow shards _ = .ok row) : row = _ :=
        Except.ok.inj (other.symm.trans made)
      constructor
      · rintro ⟨first, later⟩
        exact ⟨fun row other => one other ▸ first, later⟩
      · rintro ⟨first, later⟩
        exact ⟨first _ made, later⟩

theorem placed_member {tensors : List TensorRow} {rows : List IndexRow} {row : IndexRow}
    (placed : List.Forall₂ (fun tensor row => indexRow shards tensor = .ok row) tensors rows)
    (member : row ∈ rows) :
    ∃ tensor ∈ tensors, indexRow shards tensor = .ok row := by
  obtain ⟨index, bound, rfl⟩ := List.mem_iff_getElem.mp member
  have bound' : index < tensors.length := placed.length_eq ▸ bound
  exact ⟨tensors[index], List.getElem_mem bound', placed.get bound' bound⟩

theorem placed_makes {tensors : List TensorRow} {rows : List IndexRow} {tensor : TensorRow}
    (placed : List.Forall₂ (fun tensor row => indexRow shards tensor = .ok row) tensors rows)
    (member : tensor ∈ tensors) : ∃ row, indexRow shards tensor = .ok row := by
  obtain ⟨index, bound, rfl⟩ := List.mem_iff_getElem.mp member
  have bound' : index < rows.length := placed.length_eq ▸ bound
  exact ⟨rows[index], placed.get bound bound'⟩

theorem placed_weight {tensors : List TensorRow} {rows : List IndexRow}
    (placed : List.Forall₂ (fun tensor row => indexRow shards tensor = .ok row) tensors rows) :
    weight rows = (tensors.map TensorRow.payloadBytes).sum := by
  rw [← placed_rows placed, List.map_map]
  rfl

end Rows

section Pairs

/-- The writer accepted the ledger at the cut, and made these rows. -/
structure Rowed (ledger : Ledger Value) (shards : List (ShardInfo Value)) (cut : Int)
    (rows : StageRows) (texts : List Char × List Char) : Prop where
  positive : 0 < cut
  staged : stageRows ledger shards cut = .ok rows
  placed : Placed shards cut ledger.tensors rows.stage0 rows.stage1
  texts : texts = (indexText 0 cut ledger.model.layoutSha256 rows.stage0,
    indexText 1 cut ledger.model.layoutSha256 rows.stage1)

theorem indexes_rowed {texts : List Char × List Char}
    (written : writeTensorIndexes ledger shards cut = .ok texts) :
    ∃ rows, Rowed ledger shards cut rows texts := by
  unfold writeTensorIndexes at written
  obtain ⟨rows, staged, written⟩ := bind_ok written
  cases written
  have ran := staged
  unfold stageRows at ran
  split at ran
  · cases ran
  · next inside =>
      obtain ⟨first, second, zero, one, placed⟩ := rows_placed ran
      rw [not_or] at inside
      refine ⟨rows, Int.not_le.mp inside.1, staged, ?_, rfl⟩
      rw [show rows.stage0 = first from zero, show rows.stage1 = second from one]
      exact placed

variable {rows : StageRows} {texts : List Char × List Char}

theorem rows_divided (built : Built python shards ledger)
    (rowed : Rowed ledger shards cut rows texts) : Divided ledger shards rows := by
  have owned : ((rows.stage0 ++ rows.stage1).map IndexRow.toTensorRow).Perm
      (ledger.tensors.filter seen) := by
    rw [List.map_append, placed_rows rowed.placed.stage0, placed_rows rowed.placed.stage1]
    exact stages_perm rowed.placed.staged
  refine ⟨owned, ?_, ?_⟩
  · have listed := (owned.map TensorRow.name).nodup_iff.mpr
      (built.distinct.sublist (List.filter_sublist.map TensorRow.name))
    rw [List.map_map] at listed
    exact listed
  · intro row member
    have made : ∃ tensor, indexRow shards tensor = .ok row := by
      rcases List.mem_append.mp member with member | member
      · obtain ⟨tensor, _, made⟩ := placed_member rowed.placed.stage0 member
        exact ⟨tensor, made⟩
      · obtain ⟨tensor, _, made⟩ := placed_member rowed.placed.stage1 member
        exact ⟨tensor, made⟩
    obtain ⟨tensor, made⟩ := made
    rw [index_row_keeps made]
    exact made

theorem stage_clean (built : Built python shards ledger)
    (sound : ∀ shard ∈ shards, ∀ tensor ∈ shard.tensors, Sound shard tensor)
    (plain : PlainTexts ledger shards) {stage : Nat} {stageRows : List IndexRow}
    (placed : List.Forall₂ (fun tensor row => indexRow shards tensor = .ok row)
      (ledger.tensors.filter (inStage cut stage)) stageRows) :
    ∀ row ∈ stageRows, Clean row := by
  intro row member
  obtain ⟨tensor, listed, made⟩ := placed_member placed member
  obtain ⟨listed, staged⟩ := List.mem_filter.mp listed
  exact row_clean built sound plain listed staged made

theorem stage_bytes (built : Built python shards ledger)
    (sound : ∀ shard ∈ shards, ∀ tensor ∈ shard.tensors, Sound shard tensor)
    {chosen : TensorRow → Bool} {stageRows : List IndexRow}
    (placed : List.Forall₂ (fun tensor row => indexRow shards tensor = .ok row)
      (ledger.tensors.filter chosen) stageRows) :
    ∀ row ∈ stageRows, row.payloadBytes = 0 ↔ 0 ∈ row.dims := by
  intro row member
  obtain ⟨tensor, listed, made⟩ := placed_member placed member
  obtain ⟨_, _, info, info_, same⟩ := row_sound built sound (List.mem_filter.mp listed).1
  rw [index_row_keeps made, same]
  exact info_.bytes

/-- A stage is accepted where it has a tensor, and its tensors have bytes in their files. -/
theorem stage_accepted_iff (built : Built python shards ledger)
    (sound : ∀ shard ∈ shards, ∀ tensor ∈ shard.tensors, Sound shard tensor)
    {chosen : TensorRow → Bool} {stageRows : List IndexRow}
    (placed : List.Forall₂ (fun tensor row => indexRow shards tensor = .ok row)
      (ledger.tensors.filter chosen) stageRows) :
    Accepted fileSize true stageRows ↔
      (∃ tensor ∈ ledger.tensors, chosen tensor = true) ∧
      (∀ tensor ∈ ledger.tensors, chosen tensor = true → 0 ∉ tensor.dims ∧
        ∀ row, indexRow shards tensor = .ok row → Lies fileSize row) ∧
      bytesOf ledger.tensors chosen < 2 ^ 64 := by
  have some_ : stageRows ≠ [] ↔ ∃ tensor ∈ ledger.tensors, chosen tensor = true := by
    rw [← List.length_pos_iff, ← placed.length_eq, List.length_pos_iff, ne_eq,
      List.filter_eq_nil_iff]
    push Not
    rfl
  have each : (∀ row ∈ stageRows, 0 ∉ row.dims ∧ Lies fileSize row) ↔
      ∀ tensor ∈ ledger.tensors, chosen tensor = true → 0 ∉ tensor.dims ∧
        ∀ row, indexRow shards tensor = .ok row → Lies fileSize row := by
    rw [placed_each placed]
    constructor
    · intro all tensor member staged
      have listed := List.mem_filter.mpr ⟨member, staged⟩
      obtain ⟨row, made⟩ := placed_makes placed listed
      refine ⟨?_, fun row made => (all tensor listed row made).2⟩
      have dims := (all tensor listed row made).1
      rwa [index_row_keeps made] at dims
    · intro all tensor listed row made
      obtain ⟨member, staged⟩ := List.mem_filter.mp listed
      obtain ⟨dims, lies⟩ := all tensor member staged
      rw [index_row_keeps made]
      exact ⟨dims, lies row made⟩
  rw [accepted_iff (stage_bytes built sound placed), some_, each, placed_weight placed]
  rfl

theorem loadable_iff (built : Built python shards ledger)
    (sound : ∀ shard ∈ shards, ∀ tensor ∈ shard.tensors, Sound shard tensor)
    (rowed : Rowed ledger shards cut rows texts) :
    Loadable fileSize ledger shards cut ↔
      cut < 2 ^ 32 ∧ Accepted fileSize true rows.stage0 ∧ Accepted fileSize true rows.stage1 := by
  have staged {tensor : TensorRow} (member : tensor ∈ ledger.tensors) :
      tensor.ownerClass ≠ .vision ↔
        inStage cut 0 tensor = true ∨ inStage cut 1 tensor = true := by
    have whole := staged_seen (rowed.placed.staged tensor member)
    rw [← Bool.or_eq_true, ← whole, seen, decide_eq_true_eq]
  rw [stage_accepted_iff built sound rowed.placed.stage0,
    stage_accepted_iff built sound rowed.placed.stage1]
  constructor
  · intro loadable
    refine ⟨loadable.narrow, ⟨loadable.some0, ?_, loadable.total0⟩,
      loadable.some1, ?_, loadable.total1⟩
    · intro tensor member zero
      have shown := (staged member).mpr (.inl zero)
      exact ⟨loadable.dims tensor member shown, loadable.extents tensor member shown⟩
    · intro tensor member one
      have shown := (staged member).mpr (.inr one)
      exact ⟨loadable.dims tensor member shown, loadable.extents tensor member shown⟩
  · rintro ⟨narrow, ⟨some0, each0, total0⟩, some1, each1, total1⟩
    have each (tensor : TensorRow) (member : tensor ∈ ledger.tensors)
        (shown : tensor.ownerClass ≠ .vision) : 0 ∉ tensor.dims ∧
        ∀ row, indexRow shards tensor = .ok row → Lies fileSize row := by
      rcases (staged member).mp shown with zero | one
      · exact each0 tensor member zero
      · exact each1 tensor member one
    exact ⟨narrow, some0, some1, fun tensor member shown => (each tensor member shown).1,
      total0, total1, fun tensor member shown => (each tensor member shown).2⟩

/-- The names met grow by those of the second stage, none of which was met. -/
theorem owners_checked {tensors : List IndexedTensorV1} {met : List (List Char)}
    (distinct : (met ++ tensors.map IndexedTensorV1.name).Nodup) :
    ∃ final, tensors.foldlM checkOwner met = .ok final := by
  induction tensors generalizing met with
  | nil => exact ⟨met, rfl⟩
  | cons tensor rest ih =>
      have fresh : tensor.name ∉ met := fun member =>
        (List.nodup_append.mp distinct).2.2 tensor.name member tensor.name List.mem_cons_self rfl
      have moved : (met ++ (tensor :: rest).map IndexedTensorV1.name).Perm
          ((tensor.name :: met) ++ rest.map IndexedTensorV1.name) := List.perm_middle
      obtain ⟨final, ran⟩ := @ih (tensor.name :: met) (moved.nodup_iff.mp distinct)
      refine ⟨final, ?_⟩
      rw [List.foldlM_cons, checkOwner, if_neg fresh]
      exact ran

theorem loaded_names (stage : Nat) (cut : Int) (layout : List Char) (rows : List IndexRow) :
    ((loaded stage cut layout rows).tensors.map IndexedTensorV1.name).Perm (names rows) := by
  simp only [loaded, List.map_map]
  exact (sorted_perm rows).map fun row : IndexRow => row.name

theorem pair_valid (cut : Int) (layout : List Char) {first second : List IndexRow}
    (distinct : (names (first ++ second)).Nodup) :
    validateTensorIndexPair (loaded 0 cut layout first) (loaded 1 cut layout second) =
      .ok () := by
  have moved : ((loaded 0 cut layout first).tensors.map IndexedTensorV1.name ++
      (loaded 1 cut layout second).tensors.map IndexedTensorV1.name).Perm
      (names (first ++ second)) := by
    rw [names, List.map_append]
    exact (loaded_names 0 cut layout first).append (loaded_names 1 cut layout second)
  obtain ⟨final, ran⟩ := owners_checked (moved.nodup_iff.mpr distinct)
  have stages : ¬ ((loaded 0 cut layout first).stage ≠ 0 ∨
      (loaded 1 cut layout second).stage ≠ 1) := by
    rintro (zero | one)
    · exact zero rfl
    · exact one rfl
  have cuts : ¬ (loaded 0 cut layout first).cut ≠ (loaded 1 cut layout second).cut :=
    not_not.mpr rfl
  have layouts : ¬ (loaded 0 cut layout first).layoutSha256 ≠
      (loaded 1 cut layout second).layoutSha256 := not_not.mpr rfl
  rw [validateTensorIndexPair, if_neg stages, if_neg cuts, if_neg layouts, ran]
  rfl

theorem loaded_read {stage : Nat} {layout : List Char} {stageRows : List IndexRow}
    (accepted : Accepted fileSize true stageRows) :
    (loaded stage cut layout stageRows).tensors.map read = (sorted stageRows).map written := by
  simp only [loaded, List.map_map]
  apply List.map_congr_left
  intro row member
  have admitted := accepted.admitted row ((sorted_perm stageRows).mem_iff.mp member)
  have payload : (UInt64.ofNat row.payloadBytes).toNat = row.payloadBytes :=
    UInt64.toNat_ofNat_of_lt' admitted.payload
  have offset : (UInt64.ofNat row.absoluteOffset).toNat = row.absoluteOffset :=
    UInt64.toNat_ofNat_of_lt' admitted.offset
  simp [read, written, indexed, payload, offset]

theorem pair_agreed (built : Built python shards ledger)
    (rowed : Rowed ledger shards cut rows texts) (accepted0 : Accepted fileSize true rows.stage0)
    (accepted1 : Accepted fileSize true rows.stage1) :
    Agreed ledger cut rows (loaded 0 cut ledger.model.layoutSha256 rows.stage0)
      (loaded 1 cut ledger.model.layoutSha256 rows.stage1) := by
  have classified := rows_classified built
  have weight0 : (UInt64.ofNat (weight rows.stage0)).toNat =
      bytesOf ledger.tensors (inStage cut 0) := by
    rw [UInt64.toNat_ofNat_of_lt' accepted0.total, placed_weight rowed.placed.stage0]
    rfl
  have weight1 : (UInt64.ofNat (weight rows.stage1)).toNat =
      bytesOf ledger.tensors (inStage cut 1) := by
    rw [UInt64.toNat_ofNat_of_lt' accepted1.total, placed_weight rowed.placed.stage1]
    rfl
  refine ⟨pair_valid cut _ (rows_divided built rowed).once, loaded_read accepted0,
    loaded_read accepted1, ?_, ?_⟩
  · intro plan member same
    obtain ⟨first, second⟩ := built.plans plan member
    rw [same] at first second
    rw [first, second, stage0_bytes classified, stage1_bytes classified]
    exact ⟨weight0, weight1⟩
  · change (UInt64.ofNat (weight rows.stage0)).toNat +
      (UInt64.ofNat (weight rows.stage1)).toNat + _ = _
    rw [weight0, weight1, built.vision, built.total]
    exact whole_bytes rowed.placed.staged

theorem pair_agrees_iff (built : Built python shards ledger)
    (sound : ∀ shard ∈ shards, ∀ tensor ∈ shard.tensors, Sound shard tensor)
    (plain : PlainTexts ledger shards) (rowed : Rowed ledger shards cut rows texts)
    (paths : String × String) :
    PairAgrees fileSize paths ledger cut rows texts ↔ Loadable fileSize ledger shards cut := by
  have once := (rows_divided built rowed).once
  rw [names, List.map_append, List.nodup_append] at once
  have load0 {index : TensorIndexV1} := @load_index_iff fileSize true paths.1 0 (by decide) cut
    rowed.positive _ built.hex _ (stage_clean built sound plain rowed.placed.stage0) once.1 index
  have load1 {index : TensorIndexV1} := @load_index_iff fileSize true paths.2 1 (by decide) cut
    rowed.positive _ built.hex _ (stage_clean built sound plain rowed.placed.stage1) once.2.1
    index
  rw [loadable_iff built sound rowed]
  unfold PairAgrees
  rw [rowed.texts]
  constructor
  · rintro ⟨index0, index1, loaded0, loaded1, _⟩
    obtain ⟨narrow, accepted0, _⟩ := load0.mp loaded0
    obtain ⟨_, accepted1, _⟩ := load1.mp loaded1
    exact ⟨narrow, accepted0, accepted1⟩
  · rintro ⟨narrow, accepted0, accepted1⟩
    exact ⟨_, _, load0.mpr ⟨narrow, accepted0, rfl⟩, load1.mpr ⟨narrow, accepted1, rfl⟩,
      pair_agreed built rowed accepted0 accepted1⟩

/-- Shards of distinct names are found by name, so every row lies where it was parsed. -/
theorem extents_distinct (built : Built python shards ledger)
    (sound : ∀ shard ∈ shards, ∀ tensor ∈ shard.tensors, Sound shard tensor)
    (sized : ∀ shard ∈ shards, ∃ size, fileSize shard.path.resolved = .ok size ∧
      shard.fileBytes = size.toNat)
    (distinct : (shards.map fun shard => shard.path.name).Nodup) :
    Extents fileSize ledger shards := by
  intro tensor member shown row made
  obtain ⟨own, owned, info, info_, same⟩ := row_sound built sound member
  obtain ⟨shard, first, last, final, named, ended, offset, path⟩ := index_row_sited made
  have name : tensor.shard = own.path.name := by
    rw [same]
    exact info_.named
  have found : shard = own :=
    List.inj_on_of_nodup_map distinct first owned (named.trans name)
  have closed : last = own := List.inj_on_of_nodup_map distinct final owned (ended.trans name)
  obtain ⟨size, stated, bytes⟩ := sized own owned
  refine ⟨size, by rw [path, closed, stated], ?_⟩
  have inside := info_.inside
  have start : tensor.offset = info.offset := by
    rw [same]
    rfl
  have payload : row.payloadBytes = info.payloadBytes := by
    rw [index_row_keeps made, same]
    rfl
  rw [offset, payload, start, found, ← bytes]
  exact inside

end Pairs

section Runs

theorem indexes_agree {sources : List (ShardPath × Header Value)} {cuts : List Int}
    {contextLimit : Int} {texts : List Char × List Char} (paths : String × String)
    (parsed : (sources.mapM fun source => parseShard python fileSize source.1 source.2) =
      .ok shards)
    (built : buildLedger python shards cuts contextLimit = .ok ledger)
    (written : writeTensorIndexes ledger shards cut = .ok texts)
    (plain : PlainTexts ledger shards) :
    ∃ rows, stageRows ledger shards cut = .ok rows ∧
      texts = (indexText 0 cut ledger.model.layoutSha256 rows.stage0,
        indexText 1 cut ledger.model.layoutSha256 rows.stage1) ∧
      Divided ledger shards rows ∧
      (PairAgrees fileSize paths ledger cut rows texts ↔ Loadable fileSize ledger shards cut) ∧
      ((shards.map fun shard => shard.path.name).Nodup → Extents fileSize ledger shards) := by
  have each : ∀ shard ∈ shards,
      (∃ size, fileSize shard.path.resolved = .ok size ∧ shard.fileBytes = size.toNat) ∧
      ∀ tensor ∈ shard.tensors, Sound shard tensor := by
    intro shard member
    obtain ⟨source, _, parsed⟩ := map_ok_mem parsed member
    obtain ⟨path, sized, sound⟩ := shard_parsed parsed
    rw [path]
    exact ⟨sized, sound⟩
  have ledger_ := ledger_built built
  have sound := fun shard member => (each shard member).2
  obtain ⟨rows, rowed⟩ := indexes_rowed written
  exact ⟨rows, rowed.staged, rowed.texts, rows_divided ledger_ rowed,
    pair_agrees_iff ledger_ sound plain rowed paths,
    extents_distinct ledger_ sound fun shard member => (each shard member).1⟩

/-- The ledger tool, from the heads of the shards to the index texts at a cut. -/
def emitted (python : Builtins Value) (fileSize : List Char → Except String UInt64)
    (sources : List (ShardPath × Header Value)) (cuts : List Int) (contextLimit cut : Int) :
    Except LedgerError (List (ShardInfo Value) × Ledger Value × List Char × List Char) := do
  let shards ← sources.mapM fun source => parseShard python fileSize source.1 source.2
  let ledger ← buildLedger python shards cuts contextLimit
  let texts ← writeTensorIndexes ledger shards cut
  return (shards, ledger, texts)

theorem emitted_steps {sources : List (ShardPath × Header Value)} {cuts : List Int}
    {contextLimit : Int} {texts : List Char × List Char}
    (ran : emitted python fileSize sources cuts contextLimit cut = .ok (shards, ledger, texts)) :
    (sources.mapM fun source => parseShard python fileSize source.1 source.2) = .ok shards ∧
      buildLedger python shards cuts contextLimit = .ok ledger ∧
      writeTensorIndexes ledger shards cut = .ok texts := by
  unfold emitted at ran
  obtain ⟨shards, parsed, ran⟩ := bind_ok ran
  obtain ⟨ledger, built, ran⟩ := bind_ok ran
  obtain ⟨texts, written, ran⟩ := bind_ok ran
  cases ran
  exact ⟨parsed, built, written⟩

/-- Letters outside ASCII, lists and digests are not met here. -/
def ascii : Builtins Int where
  lower := List.map Char.toLower
  lower_nil := rfl
  decimal := fun letter => if letter.isDigit then some (letter.toNat - 48) else none
  int := some
  differs := fun left right => left ≠ right
  items := fun _ => none
  sha256 := fun _ => List.replicate 64 'a'
  sha256_hex := fun _ => by decide

def shardPath : ShardPath :=
  ⟨"m.gguf".toList, "m.gguf".toList, "/m.gguf".toList, rfl⟩

/-- Four tensors, the second with the given first dimension. -/
def shardHeader (dim : UInt64) : Header Int where
  version := 3
  metadataCount := 1
  metadata := [("qwen4exp.block_count".toList, 2)]
  tensors := [⟨"token_embd".toList, [4, 2], 30, 0⟩, ⟨"blk.0.ffn".toList, [dim, 2], 0, 32⟩,
    ⟨"blk.1.ffn".toList, [32], 8, 64⟩, ⟨"output".toList, [4, 2], 30, 128⟩]
  tell := 300

def emittedAt (dim : UInt64) :=
  emitted ascii (fun _ => .ok 480) [(shardPath, shardHeader dim)] [1] 128 1

def plainRow (row : TensorRow) : Bool := '\t' ∉ row.name ∧ '\n' ∉ row.name

theorem indexes_agree_small :
    ∃ shards ledger texts, emittedAt 2 = .ok (shards, ledger, texts) ∧
      ∃ rows, stageRows ledger shards 1 = .ok rows ∧
        texts = (indexText 0 1 ledger.model.layoutSha256 rows.stage0,
          indexText 1 1 ledger.model.layoutSha256 rows.stage1) ∧
        Divided ledger shards rows ∧
        (PairAgrees (fun _ => .ok 480) ("stage0.q38i", "stage1.q38i") ledger 1 rows texts ↔
          Loadable (fun _ => .ok 480) ledger shards 1) ∧
        ((shards.map fun shard => shard.path.name).Nodup →
          Extents (fun _ => .ok 480) ledger shards) := by
  have checked : (emittedAt 2).toOption.any (fun result =>
      result.2.1.tensors.all plainRow && result.1.all fun shard =>
        decide ('\t' ∉ shard.path.resolved ∧ '\n' ∉ shard.path.resolved)) = true := by
    decide +kernel
  cases ran : emittedAt 2 with
  | error thrown =>
      rw [ran] at checked
      cases checked
  | ok result =>
      obtain ⟨shards, ledger, texts⟩ := result
      rw [ran] at checked
      simp only [Except.toOption, Option.any_some, Bool.and_eq_true, List.all_eq_true, plainRow,
        decide_eq_true_eq] at checked
      obtain ⟨parsed, built, written⟩ := emitted_steps ran
      exact ⟨shards, ledger, texts, rfl, indexes_agree ("stage0.q38i", "stage1.q38i") parsed built
        written ⟨fun tensor member _ => checked.1 tensor member, checked.2⟩⟩

/-- The writer takes a tensor with a dimension of zero, and the reader does not. -/
theorem zero_dimension_refused :
    ∃ shards ledger texts, emittedAt 0 = .ok (shards, ledger, texts) ∧
      ∀ path index,
        loadTensorIndex (fun _ => .ok 480) true path (some texts.1) ≠ .ok index := by
  have checked : (emittedAt 0).toOption.any (fun result =>
      (loadTensorIndex (fun _ => .ok 480) true "" (some result.2.2.1)).toOption.isNone) =
        true := by
    decide +kernel
  cases ran : emittedAt 0 with
  | error thrown =>
      rw [ran] at checked
      cases checked
  | ok result =>
      obtain ⟨shards, ledger, texts⟩ := result
      rw [ran] at checked
      simp only [Except.toOption, Option.any_some] at checked
      refine ⟨shards, ledger, texts, rfl, fun path index loaded => ?_⟩
      have same : loadTensorIndex (fun _ => .ok 480) true path (some texts.1) =
          loadTensorIndex (fun _ => .ok 480) true "" (some texts.1) := rfl
      rw [← same, loaded] at checked
      cases checked

end Runs

end Q38.TensorIndexPairs
