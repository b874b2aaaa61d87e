import Q38Runtime.DeviceIndexRecords
import Q38Runtime.UploadedRanges
import Q38Runtime.WeightAgreement

/-! The weights of a stage on their way into the arena of its device, with the words and
the errors of the source. Where they go is settled in 64-bit words before the first byte
moves. What a call of CUDA answers and how far its stream gets is an input. -/
namespace Q38.WeightArena
open Contracts DeviceArtifact StridedLoops StagedUpload UploadedRanges
open WeightPacking (Byte CudaWeightLayout kTile kTileBytes tileSource)

section Cuda

/-- The calls that can fail, by buffer or by turn of the ring of staging buffers. -/
inductive CudaCall where
  | setDevice
  | malloc (bytes : UInt64)
  | streamCreate
  | hostAlloc (buffer : Nat)
  | eventCreate (buffer : Nat)
  | eventRecordInitial (buffer : Nat)
  | eventSynchronize (turn : Nat)
  | memcpyAsync (tiled : Bool) (turn : Nat)
  | eventRecord (tiled : Bool) (turn : Nat)
  | streamSynchronize
  | eventDestroy (buffer : Nat)
  | freeHost (buffer : Nat)
  | streamDestroy
  deriving DecidableEq, Repr

def CudaCall.operation : CudaCall → String
  | .setDevice => "cudaSetDevice(weight upload)"
  | .malloc _ => "cudaMalloc(weight arena)"
  | .streamCreate => "cudaStreamCreate(weight upload)"
  | .hostAlloc _ => "cudaHostAlloc(weight staging)"
  | .eventCreate _ => "cudaEventCreate(weight staging)"
  | .eventRecordInitial _ => "cudaEventRecord(weight staging initial)"
  | .eventSynchronize _ => "cudaEventSynchronize(weight staging)"
  | .memcpyAsync false _ => "cudaMemcpyAsync(weight upload)"
  | .memcpyAsync true _ => "cudaMemcpyAsync(tiled MoE weight upload)"
  | .eventRecord false _ => "cudaEventRecord(weight staging)"
  | .eventRecord true _ => "cudaEventRecord(tiled MoE weight staging)"
  | .streamSynchronize => "cudaStreamSynchronize(weight upload)"
  | .eventDestroy _ => "cudaEventDestroy(weight staging)"
  | .freeHost _ => "cudaFreeHost(weight staging)"
  | .streamDestroy => "cudaStreamDestroy(weight upload)"

/-- The text of the error that a call answers with, if it fails. -/
abbrev CudaStatus := CudaCall → Option String

def failure (call : CudaCall) (text : String) : Thrown :=
  .runtimeError (call.operation ++ ": " ++ text)

def check (status : CudaStatus) (call : CudaCall) : Except Thrown Unit :=
  match status call with
  | none => .ok ()
  | some text => .error (failure call text)

end Cuda

structure CudaDeviceWeightOptions where
  device : Int32 := 0
  stagingBytes : UInt64 := 64 * 1024 * 1024
  stagingBuffers : UInt32 := 2
  arenaAlignment : UInt64 := 4096
  loadMtp : Bool := true
  deriving DecidableEq, Repr

structure CudaDeviceWeightStats where
  arenaBytes : UInt64 := 0
  uploadedBytes : UInt64 := 0
  uploadChunks : UInt64 := 0
  stagingPeakPinnedBytes : UInt64 := 0
  w4Bytes : UInt64 := 0
  w8Bytes : UInt64 := 0
  preservedBf16Bytes : UInt64 := 0
  preservedF32Bytes : UInt64 := 0
  preservedOtherBytes : UInt64 := 0
  segmentCount : UInt32 := 0
  tensorCount : UInt32 := 0
  hostOnlyTensorCount : UInt32 := 0
  hostOnlyBytes : UInt64 := 0
  excludedTensorCount : UInt32 := 0
  excludedBytes : UInt64 := 0
  deriving DecidableEq, Repr

/-- What an initialisation meets: the layout that the environment names, the bytes at an
offset of a mapped segment, the memory of the buffers and of the device, the answers of
CUDA, and how far the stream gets behind each copy. -/
structure UploadSite where
  moeLayout : Option String
  mapped : Nat → Nat → Byte
  buffers : Nat → Nat → Byte
  device : Nat → Byte
  status : CudaStatus
  eager : Nat → Nat

section Placement

def sizeOverflows : Thrown := .overflowError "CUDA weight arena size overflows"

def alignUp (value alignment : UInt64) : Except Thrown UInt64 :=
  if alignment = 0 ∨ alignment &&& (alignment - 1) ≠ 0 then
    .error (.invalidArgument "CUDA arena alignment must be a power of two")
  else
    let mask := alignment - 1
    if 18446744073709551615 - mask < value then .error sizeOverflows
    else .ok ((value + mask) &&& ~~~mask)

/-- The end of `bytes` that begin at an offset. -/
def reserve (offset bytes : UInt64) : Except Thrown UInt64 :=
  if 18446744073709551615 - offset < bytes then .error sizeOverflows else .ok (offset + bytes)

def tiledMoeLayoutEnabled (moeLayout : Option String) : Bool :=
  moeLayout ≠ some "row" && moeLayout ≠ some "row_major" && moeLayout ≠ some "0" &&
    moeLayout ≠ some "false"

def shouldTileMoeW4 (moeLayout : Option String) (tensor : DeviceTensorV1) : Bool :=
  tiledMoeLayoutEnabled moeLayout && tensor.format = .w4A16SymG128 &&
    tensor.shape.length = 3 && tensor.shape.getD 1 0 % 16 = 0 && tensor.shape.getD 2 0 % 16 = 0 &&
    "ffn_gate_up_exps.weight".toList.isSuffixOf tensor.name

structure TensorPlacement where
  tensor : DeviceTensorV1
  dataOffset : UInt64
  scaleOffset : UInt64 := 0
  layout : CudaWeightLayout := .rowMajor

structure Arena where
  bytes : UInt64 := 0
  placements : List TensorPlacement := []

variable (options : CudaDeviceWeightOptions) (moeLayout : Option String)

def excluded (tensor : DeviceTensorV1) : Bool :=
  !options.loadMtp && "mtp.".toList.isPrefixOf tensor.name

/-- Tables in FP8 stay on the host. -/
def resident (tensor : DeviceTensorV1) : Bool :=
  !excluded options tensor && tensor.format ≠ .fp8E4M3Fn

def layoutOf (tensor : DeviceTensorV1) : CudaWeightLayout :=
  if shouldTileMoeW4 moeLayout tensor then .moeW4Tile16x16 else .rowMajor

def placeTensor (arena : Arena) (tensor : DeviceTensorV1) : Except Thrown Arena :=
  if resident options tensor = false then .ok arena
  else do
    let dataOffset ← alignUp arena.bytes options.arenaAlignment
    let layout := layoutOf moeLayout tensor
    let dataEnd ← reserve dataOffset tensor.dataBytes
    if tensor.scaleBytes = 0 then
      let placement := { tensor := tensor, dataOffset := dataOffset, layout := layout }
      return { bytes := dataEnd, placements := arena.placements ++ [placement] }
    else
      let scaleOffset ← alignUp dataEnd 256
      let scaleEnd ← reserve scaleOffset tensor.scaleBytes
      let placement :=
        { tensor := tensor, dataOffset := dataOffset, scaleOffset := scaleOffset, layout := layout }
      return { bytes := scaleEnd, placements := arena.placements ++ [placement] }

def placeTensors (tensors : List DeviceTensorV1) : Except Thrown Arena := do
  let arena ← tensors.foldlM (placeTensor options moeLayout) {}
  let bytes ← alignUp arena.bytes options.arenaAlignment
  if bytes = 0 then .error (.overflowError "CUDA weight arena cannot be allocated")
  else return { arena with bytes }

/-- The statistics of one tensor, which are counted with words that wrap around. -/
def countTensor (statistics : CudaDeviceWeightStats) (tensor : DeviceTensorV1) :
    CudaDeviceWeightStats :=
  let payloadBytes := tensor.dataBytes + tensor.scaleBytes
  if excluded options tensor then
    { statistics with
      excludedTensorCount := statistics.excludedTensorCount + 1
      excludedBytes := statistics.excludedBytes + payloadBytes }
  else match tensor.format with
  | .fp8E4M3Fn =>
      { statistics with
        hostOnlyTensorCount := statistics.hostOnlyTensorCount + 1
        hostOnlyBytes := statistics.hostOnlyBytes + payloadBytes }
  | .w4A16SymG128 => { statistics with w4Bytes := statistics.w4Bytes + payloadBytes }
  | .w8A16SymG128 => { statistics with w8Bytes := statistics.w8Bytes + payloadBytes }
  | .preserve =>
      if tensor.sourceDtype = "BF16".toList then
        { statistics with preservedBf16Bytes := statistics.preservedBf16Bytes + payloadBytes }
      else if tensor.sourceDtype = "F32".toList then
        { statistics with preservedF32Bytes := statistics.preservedF32Bytes + payloadBytes }
      else
        { statistics with preservedOtherBytes := statistics.preservedOtherBytes + payloadBytes }

end Placement

section Uploading
variable (options : CudaDeviceWeightOptions) (site : UploadSite)

/-- The bytes of one tile: eight from each of its sixteen rows. -/
def tileBytes (host : Nat → Byte) (rows columns tileIndex : Nat) : List Byte :=
  (List.range kTile).flatMap fun row =>
    (List.range (kTile / 2)).map fun byte => host (tileSource rows columns tileIndex row byte)

/-- What the staging buffers are filled with, one after another. The census of the index
bounds every product here, so none of the words of the source wraps around. -/
def tiledChunks (host : Nat → Byte) (tensor : DeviceTensorV1) : List (List Byte) :=
  let matrices := (tensor.shape.getD 0 0).toNat
  let rows := (tensor.shape.getD 1 0).toNat
  let columns := (tensor.shape.getD 2 0).toNat
  let totalTiles := matrices * (rows / kTile * (columns / kTile))
  let bufferTiles := options.stagingBytes.toNat / kTileBytes
  (strided 0 bufferTiles totalTiles).map fun tileIndex =>
    ((List.range (min bufferTiles (totalTiles - tileIndex))).map (tileIndex + ·)).flatMap
      (tileBytes host rows columns)

structure Uploading where
  uploader : Uploader Byte
  uploads : List (Upload Byte) := []
  tensors : List TensorPlacement := []

/-- A turn of the ring for each chunk. -/
def runUpload (tiled : Bool) (upload : Upload Byte) (uploading : Uploading) :
    Except Thrown Uploading := do
  let cursor := uploading.uploader.cursor
  (List.range upload.chunks.length).forM fun turn => do
    check site.status (.eventSynchronize (cursor + turn))
    check site.status (.memcpyAsync tiled (cursor + turn))
    check site.status (.eventRecord tiled (cursor + turn))
  return { uploading with
    uploader := pushAll options.stagingBuffers.toNat site.eager upload.chunks upload.target
      uploading.uploader
    uploads := uploading.uploads ++ [upload] }

def uploadExtent (host : Nat → Byte) (offset bytes : UInt64) (uploading : Uploading) :
    Except Thrown Uploading :=
  runUpload options site false
    { target := offset.toNat
      chunks := pieces options.stagingBytes.toNat ((List.range bytes.toNat).map host) } uploading

def uploadTiledW4 (host : Nat → Byte) (offset : UInt64) (tensor : DeviceTensorV1)
    (uploading : Uploading) : Except Thrown Uploading :=
  if options.stagingBytes < 128 then
    .error (.invalidArgument "CUDA staging buffer is too small for a MoE W4 tile")
  else do
    let chunks := tiledChunks options host tensor
    let uploading ← runUpload options site true { target := offset.toNat, chunks } uploading
    if chunks.flatten.length ≠ tensor.dataBytes.toNat then
      .error (.logicError "tiled MoE W4 upload size differs")
    else return uploading

def uploadData (host : Nat → Byte) (placement : TensorPlacement) (uploading : Uploading) :
    Except Thrown Uploading :=
  if placement.layout = .moeW4Tile16x16 then
    uploadTiledW4 options site host placement.dataOffset placement.tensor uploading
  else uploadExtent options site host placement.dataOffset placement.tensor.dataBytes uploading

/-- The bytes behind a pointer into a mapped segment. -/
def hostBytes (view : DeviceTensorViewV1) (start : Nat) : Nat → Byte := fun index =>
  site.mapped view.descriptor.segment.toNat (start + index)

def uploadScales (host : Nat → Byte) (placement : TensorPlacement) (uploading : Uploading) :
    Except Thrown Uploading :=
  if placement.tensor.scaleBytes = 0 then .ok uploading
  else
    uploadExtent options site host placement.scaleOffset placement.tensor.scaleBytes uploading

def emplace (placement : TensorPlacement) (uploading : Uploading) : Except Thrown Uploading :=
  if placement.tensor.name ∈ uploading.tensors.map (·.tensor.name) then
    .error (.runtimeError "duplicate CUDA tensor name")
  else .ok { uploading with tensors := uploading.tensors ++ [placement] }

def uploadTensor (index : DeviceStageIndexV1) (uploading : Uploading)
    (placement : TensorPlacement) : Except Thrown Uploading :=
  match find index placement.tensor.name with
  | none =>
      .error (.runtimeError ("missing device tensor: " ++ String.ofList placement.tensor.name))
  | some view => do
      let uploading ← uploadData options site (hostBytes site view view.data) placement uploading
      let uploading ← uploadScales options site (hostBytes site view (view.scales.getD 0))
        placement uploading
      emplace placement uploading

def prepareStaging : Except Thrown Unit := do
  check site.status .streamCreate
  (List.range options.stagingBuffers.toNat).forM fun buffer => do
    check site.status (.hostAlloc buffer)
    check site.status (.eventCreate buffer)
    check site.status (.eventRecordInitial buffer)

def releaseStaging : Except Thrown Unit := do
  check site.status .streamSynchronize
  (List.range options.stagingBuffers.toNat).forM fun buffer => do
    check site.status (.eventDestroy buffer)
    check site.status (.freeHost buffer)
  check site.status .streamDestroy

/-- The arena of the device, where the tensors are in it, and the copies that filled it. -/
structure DeviceWeights where
  arenaBytes : UInt64
  placements : List TensorPlacement
  uploads : List (Upload Byte)
  memory : Nat → Byte
  statistics : CudaDeviceWeightStats

def statisticsOf (index : DeviceStageIndexV1) (arena : Arena) (uploads : List (Upload Byte)) :
    CudaDeviceWeightStats :=
  { index.tensors.foldl (countTensor options) {} with
    segmentCount := UInt32.ofNat index.segments.length
    tensorCount := UInt32.ofNat arena.placements.length
    arenaBytes := arena.bytes
    stagingPeakPinnedBytes := options.stagingBuffers.toUInt64 * options.stagingBytes
    uploadedBytes := UInt64.ofNat (uploads.map fun upload => upload.range.length).sum
    uploadChunks := UInt64.ofNat (uploads.map fun upload => upload.chunks.length).sum }

/-- The options that are refused before anything else. -/
def invalidOptions : Prop :=
  options.device < 0 ∨ options.stagingBytes = 0 ∨ options.stagingBuffers < 2 ∨
    8 < options.stagingBuffers

instance : Decidable (invalidOptions options) := inferInstanceAs (Decidable (_ ∨ _))

def start : Uploading where
  uploader := { buffers := site.buffers, device := site.device, pending := [], cursor := 0 }

def initializeStore (index : DeviceStageIndexV1) : Except Thrown DeviceWeights :=
  if invalidOptions options then
    .error (.invalidArgument "invalid CUDA device weight options")
  else do
    check site.status .setDevice
    let arena ← placeTensors options site.moeLayout index.tensors
    check site.status (.malloc arena.bytes)
    prepareStaging options site
    let uploading ← arena.placements.foldlM (uploadTensor options site index) (start site)
    releaseStaging options site
    return {
      arenaBytes := arena.bytes
      placements := uploading.tensors
      uploads := uploading.uploads
      memory := (synchronize uploading.uploader).device
      statistics := statisticsOf options index arena uploading.uploads }

end Uploading

end Q38.WeightArena
