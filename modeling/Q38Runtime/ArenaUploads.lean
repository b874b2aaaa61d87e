import Q38Runtime.ArenaPlacement

/-! What an initialisation of the weights ends in: an arena whose ranges were written, each
in full, or one of the errors that the source throws. -/
namespace Q38.WeightArena
open Contracts DeviceArtifact StridedLoops StagedUpload UploadedRanges FallibleRuns
open WeightPacking (Byte kTile kTileBytes)

variable {options : CudaDeviceWeightOptions} {site : UploadSite} {index : DeviceStageIndexV1}

/-- The errors of an initialisation and what leads to them. -/
inductive Refused (options : CudaDeviceWeightOptions) (site : UploadSite)
    (index : DeviceStageIndexV1) : Thrown → Prop where
  | overflow (what : String) : Refused options site index (.overflowError what)
  | options : invalidOptions options →
      Refused options site index (.invalidArgument "invalid CUDA device weight options")
  | staging {tensor : DeviceTensorV1} : options.stagingBytes < 128 → tensor ∈ index.tensors →
      resident options tensor = true → shouldTileMoeW4 site.moeLayout tensor = true →
      Refused options site index
        (.invalidArgument "CUDA staging buffer is too small for a MoE W4 tile")
  | call {call : CudaCall} {text : String} : site.status call = some text →
      Refused options site index (failure call text)

section Calls

theorem check_yields (call : CudaCall) :
    Yields (fun _ => True) (Refused options site index) (check site.status call) := by
  unfold check
  split
  · trivial
  · next text failed => exact .call failed

theorem prepare_staging_yields :
    Yields (fun _ => True) (Refused options site index) (prepareStaging options site) := by
  refine (check_yields _).bind fun _ _ => .each fun buffer _ => ?_
  refine (check_yields _).bind fun _ _ => (check_yields _).bind fun _ _ => check_yields _

theorem release_staging_yields :
    Yields (fun _ => True) (Refused options site index) (releaseStaging options site) := by
  have buffers : Yields (fun _ => True) (Refused options site index)
      ((List.range options.stagingBuffers.toNat).forM fun buffer => do
        check site.status (.eventDestroy buffer)
        check site.status (.freeHost buffer)) :=
    .each fun buffer _ => (check_yields _).bind fun _ _ => check_yields _
  exact (check_yields _).bind fun _ _ => buffers.bind fun _ _ => check_yields _

end Calls

section Tiles

theorem tile_bytes_length (host : Nat → Byte) (rows columns tileIndex : Nat) :
    (tileBytes host rows columns tileIndex).length = kTileBytes := by
  simp [tileBytes, kTileBytes, kTile]

theorem tiles_length (host : Nat → Byte) (rows columns : Nat) (tiles : List Nat) :
    (tiles.flatMap (tileBytes host rows columns)).length = tiles.length * kTileBytes := by
  induction tiles with
  | nil => rfl
  | cons tile rest ih =>
      rw [List.flatMap_cons, List.length_append, tile_bytes_length, ih, List.length_cons,
        Nat.succ_mul, Nat.add_comm]

theorem tiled_chunks_staged (host : Nat → Byte) (tensor : DeviceTensorV1) :
    ∀ chunk ∈ tiledChunks options host tensor, chunk.length ≤ options.stagingBytes.toNat := by
  intro chunk listed
  obtain ⟨first, -, rfl⟩ := List.mem_map.mp listed
  rw [tiles_length, List.length_map, List.length_range]
  calc
    _ ≤ options.stagingBytes.toNat / kTileBytes * kTileBytes :=
      Nat.mul_le_mul_right _ (Nat.min_le_left _ _)
    _ ≤ options.stagingBytes.toNat := Nat.div_mul_le_self _ _

theorem tiled_shape {tensor : DeviceTensorV1}
    (tiled : shouldTileMoeW4 site.moeLayout tensor = true) :
    tensor.format = .w4A16SymG128 ∧ ∃ matrices rows columns : UInt64,
      tensor.shape = [matrices, rows, columns] ∧ 16 ∣ rows.toNat ∧ 16 ∣ columns.toNat := by
  simp only [shouldTileMoeW4, Bool.and_eq_true, decide_eq_true_eq] at tiled
  obtain ⟨⟨⟨⟨⟨-, format⟩, three⟩, rows⟩, columns⟩, -⟩ := tiled
  obtain ⟨first, second, third, shape⟩ := List.length_eq_three.mp three
  have whole (dimension : UInt64) (rest : dimension % 16 = 0) : 16 ∣ dimension.toNat :=
    Nat.dvd_of_mod_eq_zero (congrArg UInt64.toNat rest)
  rw [shape] at rows columns
  exact ⟨format, first, second, third, shape, whole _ rows, whole _ columns⟩

/-- The tiles of an accepted tensor are all of its bytes. -/
theorem tiled_chunks_length (staged : ¬ options.stagingBytes < 128) (host : Nat → Byte)
    {tensor : DeviceTensorV1} (checked : validateTensorLayout tensor = .ok ())
    (tiled : shouldTileMoeW4 site.moeLayout tensor = true) :
    (tiledChunks options host tensor).flatten.length = tensor.dataBytes.toNat := by
  have wide : 0 < options.stagingBytes.toNat / kTileBytes := by
    rw [UInt64.not_lt, UInt64.le_iff_toNat_le] at staged
    exact Nat.div_pos staged (by decide)
  obtain ⟨format, matrices, rows, columns, shape, ⟨rowTiles, sixteen⟩, ⟨columnTiles, sixteen_⟩⟩ :=
    tiled_shape tiled
  have census := (layout_exact_iff checked).mpr (by simp only [CensusFits, format])
  simp only [ExactBytes, format, shape, elementCount, List.map_cons, List.map_nil,
    List.prod_cons, List.prod_nil, sixteen, sixteen_] at census
  unfold tiledChunks
  dsimp only
  rw [← List.flatMap_def, WeightPacking.chunked_rows wide, tiles_length, List.length_range]
  simp only [shape, List.getD_cons_zero, List.getD_cons_succ, sixteen, sixteen_, kTile, kTileBytes]
  have halves : 8 * tensor.dataBytes.toNat =
      8 * (matrices.toNat * (rowTiles * columnTiles) * 128) := by
    rw [census.1]
    ring
  rw [Nat.mul_div_cancel_left _ (by decide), Nat.mul_div_cancel_left _ (by decide)]
  exact (Nat.eq_of_mul_eq_mul_left (by decide) halves).symm

end Tiles

section Uploads

/-- The upload so far: the ranges that were written, and the tensors that are known. -/
structure Uploaded (options : CudaDeviceWeightOptions) (site : UploadSite) (ranges : List Range)
    (tensors : List TensorPlacement) (uploading : Uploading) : Prop where
  uploader : uploading.uploader = uploadEach options.stagingBuffers.toNat site.eager
    uploading.uploads (start site).uploader
  written : uploading.uploads.map Upload.range = ranges
  tensors : uploading.tensors = tensors
  staged : ∀ upload ∈ uploading.uploads, ∀ chunk ∈ upload.chunks,
    chunk.length ≤ options.stagingBytes.toNat

/-- All ranges of the tensors that are known were written, and no others. -/
def Emplaced (options : CudaDeviceWeightOptions) (site : UploadSite)
    (tensors : List TensorPlacement) : Uploading → Prop :=
  Uploaded options site (rangesOf tensors) tensors

variable {ranges : List Range} {tensors : List TensorPlacement} {uploading : Uploading}

theorem run_upload_yields (uploaded : Uploaded options site ranges tensors uploading)
    (tiled : Bool) (target : Nat) {length : Nat} {chunks : List (List Byte)}
    (long : chunks.flatten.length = length)
    (staged : ∀ chunk ∈ chunks, chunk.length ≤ options.stagingBytes.toNat) :
    Yields (Uploaded options site (ranges ++ [⟨target, length⟩]) tensors)
      (Refused options site index)
      (runUpload options site tiled { target := target, chunks := chunks } uploading) := by
  have turns : Yields (fun _ => True) (Refused options site index)
      ((List.range chunks.length).forM fun turn => do
        check site.status (.eventSynchronize (uploading.uploader.cursor + turn))
        check site.status (.memcpyAsync tiled (uploading.uploader.cursor + turn))
        check site.status (.eventRecord tiled (uploading.uploader.cursor + turn))) :=
    .each fun turn _ => (check_yields _).bind fun _ _ => (check_yields _).bind fun _ _ =>
      check_yields _
  refine turns.bind fun _ _ => ⟨?_, ?_, uploaded.tensors, ?_⟩
  · rw [upload_each_snoc, ← uploaded.uploader]
  · rw [List.map_append, uploaded.written, ← long]
    rfl
  · intro other listed
    rcases List.mem_append.mp listed with before | here
    · exact uploaded.staged other before
    · rw [List.mem_singleton.mp here]
      exact staged

theorem upload_extent_yields (uploaded : Uploaded options site ranges tensors uploading)
    (staging : options.stagingBytes ≠ 0) (host : Nat → Byte) (offset bytes : UInt64) :
    Yields (Uploaded options site (ranges ++ [⟨offset.toNat, bytes.toNat⟩]) tensors)
      (Refused options site index) (uploadExtent options site host offset bytes uploading) := by
  have positive : 0 < options.stagingBytes.toNat :=
    Nat.pos_of_ne_zero fun none_ => staging (UInt64.toNat_inj.mp none_)
  apply run_upload_yields uploaded
  · rw [pieces_flatten positive, List.length_map, List.length_range]
  · intro chunk listed
    obtain ⟨copied, -, rfl⟩ := List.mem_map.mp listed
    exact List.length_take_le _ _

theorem upload_data_yields (uploaded : Uploaded options site ranges tensors uploading)
    (staging : options.stagingBytes ≠ 0) (host : Nat → Byte) {placement : TensorPlacement}
    (layout : placement.layout = layoutOf site.moeLayout placement.tensor)
    (listed : placement.tensor ∈ index.tensors)
    (kept : resident options placement.tensor = true)
    (checked : validateTensorLayout placement.tensor = .ok ()) :
    Yields (Uploaded options site
        (ranges ++ [⟨placement.dataOffset.toNat, placement.tensor.dataBytes.toNat⟩]) tensors)
      (Refused options site index) (uploadData options site host placement uploading) := by
  unfold uploadData
  split
  · next tiles =>
      have tiled : shouldTileMoeW4 site.moeLayout placement.tensor = true := by
        by_contra plain
        rw [layout, layoutOf, if_neg plain] at tiles
        cases tiles
      unfold uploadTiledW4
      split
      · next short => exact .staging short listed kept tiled
      · next staged =>
          have long := tiled_chunks_length staged host checked tiled
          refine (run_upload_yields uploaded true _ long (tiled_chunks_staged host _)).bind
            fun next written => ?_
          rw [if_neg (not_not.mpr long)]
          exact written
  · exact upload_extent_yields uploaded staging host _ _

/-- A tensor of the index is found under its name, for no other one has it. -/
theorem find_listed (names : (index.tensors.map DeviceTensorV1.name).Nodup)
    {tensor : DeviceTensorV1} (listed : tensor ∈ index.tensors) :
    ∃ view, find index tensor.name = some view ∧ view.descriptor = tensor := by
  cases found : index.tensors.find? fun other => other.name = tensor.name with
  | none => exact absurd (List.find?_eq_none.mp found tensor listed) (by simp)
  | some other =>
      have same := List.find?_some found
      have member := List.mem_of_find?_eq_some found
      rw [decide_eq_true_eq] at same
      refine ⟨_, congrArg _ found, ?_⟩
      exact List.inj_on_of_nodup_map names member listed same

theorem upload_scales_yields (staging : options.stagingBytes ≠ 0) (host : Nat → Byte)
    {placement : TensorPlacement}
    (uploaded : Uploaded options site
      (ranges ++ [⟨placement.dataOffset.toNat, placement.tensor.dataBytes.toNat⟩]) tensors
      uploading) :
    Yields (Uploaded options site (ranges ++ placement.ranges) tensors)
      (Refused options site index) (uploadScales options site host placement uploading) := by
  unfold uploadScales TensorPlacement.ranges
  split
  · exact uploaded
  · have scaled : Yields _ (Refused options site index) _ := upload_extent_yields uploaded staging
      host placement.scaleOffset placement.tensor.scaleBytes
    rwa [List.append_assoc] at scaled

theorem emplace_yields {placement : TensorPlacement}
    (uploaded : Uploaded options site ranges tensors uploading)
    (fresh : placement.tensor.name ∉ tensors.map (·.tensor.name)) :
    Yields (Uploaded options site ranges (tensors ++ [placement])) (Refused options site index)
      (emplace placement uploading) := by
  unfold emplace
  rw [uploaded.tensors, if_neg fresh]
  exact ⟨uploaded.uploader, uploaded.written, rfl, uploaded.staged⟩

theorem upload_tensor_yields (staging : options.stagingBytes ≠ 0)
    (names : (index.tensors.map DeviceTensorV1.name).Nodup) {placement : TensorPlacement}
    (uploaded : Emplaced options site tensors uploading)
    (layout : placement.layout = layoutOf site.moeLayout placement.tensor)
    (listed : placement.tensor ∈ index.tensors)
    (kept : resident options placement.tensor = true)
    (checked : validateTensorLayout placement.tensor = .ok ())
    (fresh : placement.tensor.name ∉ tensors.map (·.tensor.name)) :
    Yields (Emplaced options site (tensors ++ [placement]))
      (Refused options site index) (uploadTensor options site index uploading placement) := by
  obtain ⟨view, found, -⟩ := find_listed names listed
  unfold Emplaced at *
  rw [rangesOf, List.flatMap_append, List.flatMap_singleton, ← rangesOf]
  unfold uploadTensor
  rw [found]
  have data (host : Nat → Byte) := upload_data_yields uploaded staging host layout listed kept checked
  refine (data _).bind fun middle written => ?_
  exact (upload_scales_yields staging _ written).bind fun last scaled => emplace_yields scaled fresh

end Uploads

section Initialisation

/-- What an initialisation leaves behind that succeeds. The copies of an upload write the
bytes of one range, and no copy is longer than a staging buffer. -/
structure Placed (options : CudaDeviceWeightOptions) (site : UploadSite)
    (index : DeviceStageIndexV1) (weights : DeviceWeights) : Prop where
  residents : weights.placements.map TensorPlacement.tensor =
    index.tensors.filter (resident options)
  apart : (rangesOf weights.placements).Pairwise Range.Apart
  inside : ∀ range ∈ rangesOf weights.placements,
    range.start + range.length ≤ weights.arenaBytes.toNat
  data : ∀ placement ∈ weights.placements,
    options.arenaAlignment.toNat ∣ placement.dataOffset.toNat
  scales : ∀ placement ∈ weights.placements, 256 ∣ placement.scaleOffset.toNat
  copied : List.Forall₂ (fun range (upload : Upload Byte) => ∀ place,
      (∃ copy ∈ upload.copies, copy.Holds place) ↔ Range.Holds range place)
    (rangesOf weights.placements) weights.uploads
  staged : ∀ upload ∈ weights.uploads, ∀ copy ∈ upload.copies,
    copy.length ≤ options.stagingBytes.toNat
  written : ∀ upload ∈ weights.uploads, ∀ (place : Nat) (inside : place < upload.range.length),
    weights.memory (upload.target + place) = upload.chunks.flatten[place]
  untouched : ∀ place, (∀ range ∈ rangesOf weights.placements, ¬ range.Holds place) →
    weights.memory place = site.device place

variable {arena : Arena}

theorem upload_tensors_yields (staging : options.stagingBytes ≠ 0)
    (names : (index.tensors.map DeviceTensorV1.name).Nodup)
    (layouts : ∀ tensor ∈ index.tensors, validateTensorLayout tensor = .ok ())
    (sound : arena.Sound options site.moeLayout index.tensors) :
    Yields (Emplaced options site arena.placements)
      (Refused options site index)
      (arena.placements.foldlM (uploadTensor options site index) (start site)) := by
  have distinct : (arena.placements.map (·.tensor.name)).Nodup := by
    have fewer : (index.tensors.filter (resident options)).Sublist index.tensors :=
      List.filter_sublist
    have kept := names.sublist (fewer.map DeviceTensorV1.name)
    rwa [← sound.residents, List.map_map] at kept
  have begins : Emplaced options site [] (start site) := ⟨rfl, rfl, rfl, by simp [start]⟩
  apply Yields.fold begins
  intro before placement later uploading whole uploaded
  have listed : placement ∈ arena.placements := by simp [whole]
  have mapped := List.mem_map_of_mem (f := TensorPlacement.tensor) listed
  rw [sound.residents, List.mem_filter] at mapped
  obtain ⟨member, kept⟩ := mapped
  rw [whole, List.map_append, List.map_cons, List.nodup_middle, List.nodup_cons] at distinct
  have fresh : placement.tensor.name ∉ before.map (·.tensor.name) :=
    fun known => distinct.1 (List.mem_append_left _ known)
  exact upload_tensor_yields staging names uploaded (sound.aligned _ listed).layout member kept
    (layouts _ member) fresh

theorem settled_start (site : UploadSite) : (start site).uploader.settled = site.device := rfl

/-- The ranges of a sound arena, once all of them were uploaded. -/
theorem uploaded_placed {uploading : Uploading} {statistics : CudaDeviceWeightStats}
    (sound : arena.Sound options site.moeLayout index.tensors)
    (uploaded : Emplaced options site arena.placements uploading) :
    Placed options site index
      { arenaBytes := arena.bytes
        placements := uploading.tensors
        uploads := uploading.uploads
        memory := (synchronize uploading.uploader).device
        statistics := statistics } := by
  unfold Emplaced at uploaded
  have stacked := sound.stacked
  rw [← uploaded.written] at stacked
  have settled := synchronize_device uploading.uploader
  constructor
  · rw [uploaded.tensors]
    exact sound.residents
  · rw [uploaded.tensors]
    exact sound.stacked.apart
  · rw [uploaded.tensors]
    exact fun range listed => (sound.stacked.bounds listed).2
  · rw [uploaded.tensors]
    exact fun placement listed => (sound.aligned placement listed).data
  · rw [uploaded.tensors]
    exact fun placement listed => (sound.aligned placement listed).scales
  · rw [uploaded.tensors, ← uploaded.written, List.forall₂_map_left_iff, List.forall₂_same]
    exact fun upload _ => copies_hold upload.chunks upload.target
  · intro upload listed copy copied
    obtain ⟨chunk, member, same⟩ := copies_chunk copied
    rw [same]
    exact uploaded.staged upload listed chunk member
  · intro upload listed place inside
    dsimp only
    rw [settled, uploaded.uploader]
    exact upload_each_inside stacked listed place inside
  · intro place outside
    dsimp only
    rw [settled, uploaded.uploader, upload_each_beside, settled_start]
    intro upload listed
    apply outside
    rw [uploaded.tensors, ← uploaded.written]
    exact List.mem_map_of_mem listed

end Initialisation

section Samples

def tiledFiles : IndexFiles where
  directory := "/artifact".toList
  verifySegmentExtents := true
  fileSize _ := some 1056

/-- An index of one expert matrix whose 1024 bytes make eight tiles. -/
def tiledIndex : List Char :=
  ["Q38_DEVICE_INDEX_V1", "stage=0", "cut=24", "source_repo=q",
    "source_commit=0000000000000000000000000000000000000000", "policy_sha256=" ++ hash,
    "artifact_sha256=" ++ hash, "segment\ts\t1056\t" ++ hash,
    "tensor\tffn_gate_up_exps.weight\tw\tBF16\tw4a16_sym_g128\t128\t0\t0\t1024\t" ++ hash ++
      "\t1024\t32\t" ++ hash ++ "\t1,16,128"].flatMap fun line => line.toList ++ ['\n']

def quietSite : UploadSite where
  moeLayout := none
  mapped _ offset := BitVec.ofNat 8 offset
  buffers _ _ := 0
  device _ := 0
  status _ := none
  eager _ := 0

/-- The error of an initialisation, if it has one. -/
def refusal (ran : Except Thrown DeviceWeights) : Option Thrown :=
  match ran with
  | .ok _ => none
  | .error thrown => some thrown

/-- Three hundred bytes of staging hold two tiles, sixty-four hold none. -/
theorem tiled_runs :
    ∃ index, loadDeviceStageIndex tiledFiles "index" (some tiledIndex) = .ok index ∧
      (refusal (initializeStore { stagingBytes := 300 } quietSite index),
        refusal (initializeStore { stagingBytes := 64 } quietSite index)) =
        (none, some (.invalidArgument "CUDA staging buffer is too small for a MoE W4 tile")) := by
  have seen : (loadDeviceStageIndex tiledFiles "index" (some tiledIndex)).toOption.map
      (fun index => (refusal (initializeStore { stagingBytes := 300 } quietSite index),
        refusal (initializeStore { stagingBytes := 64 } quietSite index))) =
      some (none, some (.invalidArgument
        "CUDA staging buffer is too small for a MoE W4 tile")) := by decide +kernel
  exact viewed_ok seen

end Samples

end Q38.WeightArena
