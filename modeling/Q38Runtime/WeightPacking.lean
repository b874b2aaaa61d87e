import Q38Runtime.StagedUpload

/-!
Quantised weights on their way from the artifact compiler to the kernels: the
packer writes rows in chunks, the uploader copies the extents of a stage index
into one device arena, some of them reordered into tiles, and each kernel finds
the integer and the scale of an element by its own index arithmetic. What the
float arithmetic of the packer yields is an input; the readers return the
integer and the scale word that they go on to multiply.
-/
namespace Q38.WeightPacking

open StridedLoops StagedUpload

abbrev Byte := BitVec 8

/-- A bfloat16 word. -/
abbrev Scale := BitVec 16

inductive DeviceWeightFormat where
  | invalid
  | preserve
  | w4a16SymG128
  | w8a16SymG128
  | fp8E4M3Fn
  deriving DecidableEq

inductive CudaWeightLayout where
  | rowMajor
  | moeW4Tile16x16
  deriving DecidableEq

def kQuantGroupSize : Nat := 128
def kTile : Nat := 16
def kTileBytes : Nat := kTile * kTile / 2

section Packer

/-- The rounded quotients `rint(group / scale)` of a tensor and the bfloat16
words of its scales, by row and column and by row and group. -/
structure Rounded where
  value : Nat → Nat → Int
  scale : Nat → Nat → Scale

def quantMax (bits : Nat) : Int := if bits = 4 then 7 else 127

/-- The integer that is stored for an element. -/
def quantized (bits : Nat) (rounded : Rounded) (row column : Nat) : Int :=
  max (-quantMax bits) (min (rounded.value row column) (quantMax bits))

/-- Two neighbours of a row in one byte, the even column in the low nibble. -/
def packPair (low high : Int) : Byte :=
  (BitVec.ofInt 8 low &&& 0xf#8) ||| (BitVec.ofInt 8 high &&& 0xf#8) <<< 4

def packRow (bits columns : Nat) (rounded : Rounded) (row : Nat) : List Byte :=
  if bits = 4 then
    (List.range (columns / 2)).map fun pair =>
      packPair (quantized bits rounded row (2 * pair)) (quantized bits rounded row (2 * pair + 1))
  else
    (List.range columns).map fun column => BitVec.ofInt 8 (quantized bits rounded row column)

/-- A word in memory, low byte first. -/
def scaleBytes (word : Scale) : List Byte := [word.setWidth 8, (word >>> 8).setWidth 8]

def packScales (groups : Nat) (rounded : Rounded) (row : Nat) : List Byte :=
  (List.range groups).flatMap fun group => scaleBytes (rounded.scale row group)

def rowsPerChunk (workingFloatBytes columns : Nat) : Nat :=
  max 1 (workingFloatBytes / max (4 * columns) 1)

structure Packed where
  data : List Byte
  scales : List Byte
  deriving DecidableEq

/-- `none` where the packer raises an error. -/
def quantizeGroupwise (workingFloatBytes bits groupSize : Nat) (shape : List Nat)
    (rounded : Rounded) : Option Packed :=
  let columns := shape.getLastD 0
  if shape.length < 2 ∨ columns % groupSize ≠ 0 then none
  else
    let rows := shape.dropLast.prod
    let chunkRows := rowsPerChunk workingFloatBytes columns
    let chunk (first : Nat) := (List.range (min chunkRows (rows - first))).map (first + ·)
    let data := (strided 0 chunkRows rows).flatMap fun first =>
      (chunk first).flatMap (packRow bits columns rounded)
    let scales := (strided 0 chunkRows rows).flatMap fun first =>
      (chunk first).flatMap (packScales (columns / groupSize) rounded)
    if data.length ≠ rows * columns * bits / 8 ∨
        scales.length ≠ rows * (columns / groupSize) * 2 then none
    else some { data := data, scales := scales }

end Packer

section Uploader

/-- A tensor of the stage index with the extents that the artifact holds for it. -/
structure DeviceTensor where
  name : String
  format : DeviceWeightFormat
  shape : List Nat
  data : List Byte
  scales : List Byte

structure WeightOptions where
  stagingBytes : Nat
  stagingBuffers : Nat
  arenaAlignment : Nat
  loadMtp : Bool
  tiledMoeLayout : Bool

def shouldTileMoeW4 (options : WeightOptions) (tensor : DeviceTensor) : Bool :=
  options.tiledMoeLayout && tensor.format = .w4a16SymG128 && tensor.shape.length = 3 &&
    tensor.shape.getD 1 0 % 16 = 0 && tensor.shape.getD 2 0 % 16 = 0 &&
    tensor.name.endsWith "ffn_gate_up_exps.weight"

structure TensorPlacement where
  tensor : DeviceTensor
  layout : CudaWeightLayout
  dataOffset : Nat
  scaleOffset : Nat

/-- For an alignment that is a power of two. -/
def alignUp (value alignment : Nat) : Nat := (value + (alignment - 1)) / alignment * alignment

def resident (options : WeightOptions) (tensor : DeviceTensor) : Bool :=
  (options.loadMtp || !tensor.name.startsWith "mtp.") && tensor.format ≠ .fp8E4M3Fn

def placeTensor (options : WeightOptions) (arenaBytes : Nat) (tensor : DeviceTensor) :
    Nat × TensorPlacement :=
  let dataOffset := alignUp arenaBytes options.arenaAlignment
  let dataEnd := dataOffset + tensor.data.length
  let scaleOffset := if tensor.scales.length ≠ 0 then alignUp dataEnd 256 else 0
  (if tensor.scales.length ≠ 0 then scaleOffset + tensor.scales.length else dataEnd,
    { tensor := tensor
      layout := if shouldTileMoeW4 options tensor then .moeW4Tile16x16 else .rowMajor
      dataOffset := dataOffset
      scaleOffset := scaleOffset })

def placements (options : WeightOptions) : Nat → List DeviceTensor → List TensorPlacement
  | _, [] => []
  | arenaBytes, tensor :: tensors =>
      let placed := placeTensor options arenaBytes tensor
      placed.2 :: placements options placed.1 tensors

/-- The bytes of one tile: eight from each of its sixteen rows. -/
def tileBytes (host : List Byte) (rows columns tileIndex : Nat) : List Byte :=
  let columnTiles := columns / kTile
  let tilesPerMatrix := rows / kTile * columnTiles
  let within := tileIndex % tilesPerMatrix
  (List.range kTile).flatMap fun row =>
    (host.drop (tileIndex / tilesPerMatrix * (rows * columns / 2) +
      ((within / columnTiles * kTile + row) * (columns / 2) +
        within % columnTiles * (kTile / 2)))).take (kTile / 2)

/-- What the staging buffers are filled with, one after another. -/
def tiledChunks (options : WeightOptions) (tensor : DeviceTensor) : List (List Byte) :=
  let matrices := tensor.shape.getD 0 0
  let rows := tensor.shape.getD 1 0
  let columns := tensor.shape.getD 2 0
  let totalTiles := matrices * (rows / kTile * (columns / kTile))
  let bufferTiles := options.stagingBytes / kTileBytes
  (strided 0 bufferTiles totalTiles).map fun tileIndex =>
    ((List.range (min bufferTiles (totalTiles - tileIndex))).map (tileIndex + ·)).flatMap
      (tileBytes tensor.data rows columns)

/-- `none` where the upload is refused. -/
def uploadTiledW4 (options : WeightOptions) (eager : Nat → Nat) (tensor : DeviceTensor)
    (device : Nat) (uploader : Uploader Byte) : Option (Uploader Byte) :=
  let chunks := tiledChunks options tensor
  if options.stagingBytes < kTileBytes ∨ chunks.flatten.length ≠ tensor.data.length then none
  else some (pushAll options.stagingBuffers eager chunks device uploader)

def uploadExtent (options : WeightOptions) (eager : Nat → Nat) (host : List Byte) (device : Nat)
    (uploader : Uploader Byte) : Uploader Byte :=
  pushAll options.stagingBuffers eager (pieces options.stagingBytes host) device uploader

def uploadData (options : WeightOptions) (eager : Nat → Nat) (placement : TensorPlacement)
    (uploader : Uploader Byte) : Option (Uploader Byte) :=
  if placement.layout = .moeW4Tile16x16 then
    uploadTiledW4 options eager placement.tensor placement.dataOffset uploader
  else some (uploadExtent options eager placement.tensor.data placement.dataOffset uploader)

def uploadTensor (options : WeightOptions) (eager : Nat → Nat) (placement : TensorPlacement)
    (uploader : Uploader Byte) : Option (Uploader Byte) := do
  let data ← uploadData options eager placement uploader
  if placement.tensor.scales.length ≠ 0 then
    some (uploadExtent options eager placement.tensor.scales placement.scaleOffset data)
  else some data

def uploadTensors (options : WeightOptions) (eager : Nat → Nat) :
    List TensorPlacement → Uploader Byte → Option (Uploader Byte)
  | [], uploader => some uploader
  | placement :: rest, uploader => do
      uploadTensors options eager rest (← uploadTensor options eager placement uploader)

/-- The arena and where each tensor lies in it. `eager` says how far the stream
gets behind each copy; `uploader` holds what memory happened to hold before. -/
def initializeWeights (options : WeightOptions) (eager : Nat → Nat) (index : List DeviceTensor)
    (uploader : Uploader Byte) : Option ((Nat → Byte) × List TensorPlacement) :=
  if options.stagingBytes = 0 ∨ options.stagingBuffers < 2 ∨ options.stagingBuffers > 8 ∨
      options.arenaAlignment = 0 ∨
      options.arenaAlignment &&& (options.arenaAlignment - 1) ≠ 0 then none
  else
    let residents := index.filter (resident options)
    if residents.any (·.format = .invalid) then none
    else
      let placed := placements options 0 residents
      do
        let uploaded ← uploadTensors options eager placed uploader
        some ((synchronize uploaded).device, placed)

end Uploader

section Readers

/-- Device memory behind a pointer. -/
abbrev Pointer := Nat → Byte

def loadBf16 (source : Pointer) (index : Nat) : Scale := source (2 * index + 1) ++ source (2 * index)

/-- `if (quantized >= 8) quantized -= 16`. -/
def signedNibble (nibble : Nat) : Int := if nibble ≥ 8 then (nibble : Int) - 16 else nibble

def signExtendInt4 (value : BitVec 16) : Int :=
  (value.toNat : Int) - if value &&& 0x8#16 ≠ 0 then 16 else 0

/-- The byte of an element of a tiled matrix. -/
def tiledIndex (matrixElements columns expert row column : Nat) : Nat :=
  expert * (matrixElements / 2) +
    (row / kTile * (columns / kTile) + column / kTile) * kTileBytes +
    row % kTile * (kTile / 2) + column % kTile / 2

def quantWeight (format : DeviceWeightFormat) (data scales : Pointer)
    (matrixElements matrixScaleElements columns expert row column : Nat)
    (layout : CudaWeightLayout) : Int × Scale :=
  let local_ := row * columns + column
  let scale := loadBf16 scales
    (expert * matrixScaleElements + row * (columns / 128) + column / 128)
  if format = .w8a16SymG128 then ((data (expert * matrixElements + local_)).toInt, scale)
  else
    let nibbleIndex := if layout = .moeW4Tile16x16 then
        tiledIndex matrixElements columns expert row column
      else expert * (matrixElements / 2) + local_ / 2
    let packed := data nibbleIndex
    (signedNibble (if local_ % 2 = 1 then (packed >>> 4).toNat else (packed &&& 0x0f#8).toNat),
      scale)

/-- The four weights that a lane of the decode kernels multiplies in one group. -/
def quantizedRowDotWarp (weightBits : Nat) (tiled : Bool) (data scales : Pointer)
    (matrixElements matrixScaleElements columns expert row group lane : Nat) :
    (Int × Int × Int × Int) × Scale :=
  let groups := columns / kQuantGroupSize
  let scale := loadBf16 scales (expert * matrixScaleElements + row * groups + group)
  let column := group * kQuantGroupSize + lane * 4
  let local_ := row * columns + column
  if weightBits = 8 then
    let weights := expert * matrixElements + local_
    (((data weights).toInt, (data (weights + 1)).toInt, (data (weights + 2)).toInt,
      (data (weights + 3)).toInt), scale)
  else
    let packedOffset := if tiled then tiledIndex matrixElements columns expert row column
      else expert * (matrixElements / 2) + local_ / 2
    let packed : BitVec 16 := data (packedOffset + 1) ++ data packedOffset
    ((signExtendInt4 (packed &&& 0x0f#16), signExtendInt4 (packed >>> 4 &&& 0x0f#16),
      signExtendInt4 (packed >>> 8 &&& 0x0f#16), signExtendInt4 (packed >>> 12 &&& 0x0f#16)),
      scale)

def dequantWeight (weightBits : Nat) (data scales : Pointer)
    (matrixElements matrixScaleElements columns expert row column : Nat) : Int × Scale :=
  let local_ := row * columns + column
  let scale := loadBf16 scales
    (expert * matrixScaleElements + row * (columns / 128) + column / 128)
  if weightBits = 8 then ((data (expert * matrixElements + local_)).toInt, scale)
  else
    let packed := data (expert * (matrixElements / 2) + local_ / 2)
    (signedNibble (if local_ % 2 ≠ 0 then (packed >>> 4).toNat else (packed &&& 0x0f#8).toNat),
      scale)

def dequantWeightPairW4 (tiled : Bool) (data : Pointer)
    (matrixElements columns expert row firstColumn : Nat) : Int × Int :=
  let local_ := row * columns + firstColumn
  let packed := data (if tiled then tiledIndex matrixElements columns expert row firstColumn
    else expert * (matrixElements / 2) + local_ / 2)
  (signedNibble (packed &&& 0x0f#8).toNat, signedNibble (packed >>> 4).toNat)

/-- The scale registers of a lane in the grouped kernels, one for each of four
iterations: loaded where a column tile starts a group, by the lane that starts
the row, and kept until the next group. -/
def groupedRowScales (scales : Pointer) (matrixScaleElements columns expert firstRow lane : Nat) :
    Nat → Nat → Scale
  | 0, iteration =>
      loadBf16 scales (expert * matrixScaleElements +
        (firstRow + (lane / 8 * 8 + iteration * 32) / 8) * (columns / 128) + 0 / 128)
  | columnTile + 1, iteration =>
      if (columnTile + 1) * kTile % 128 ≠ 0 then
        groupedRowScales scales matrixScaleElements columns expert firstRow lane columnTile
          iteration
      else
        loadBf16 scales (expert * matrixScaleElements +
          (firstRow + (lane / 8 * 8 + iteration * 32) / 8) * (columns / 128) +
          (columnTile + 1) * kTile / 128)

/-- What a lane of a grouped kernel writes into its tile of B: the pair of
weights at a place of the tile and the scale it uses for them. -/
def groupedPair (tiled : Bool) (data scales : Pointer)
    (matrixElements matrixScaleElements columns expert firstRow columnTile lane iteration : Nat) :
    (Int × Int) × Scale :=
  let packedElement := lane + iteration * 32
  (dequantWeightPairW4 tiled data matrixElements columns expert
      (firstRow + packedElement / (kTile / 2))
      (columnTile * kTile + packedElement % (kTile / 2) * 2),
    groupedRowScales scales matrixScaleElements columns expert firstRow lane columnTile
      (packedElement / 32))

/-- `none` for a preserved matrix, whose elements are not quantised. -/
def matrixWeight (format : DeviceWeightFormat) (data scales : Pointer)
    (columns groupSize row column : Nat) : Option (Int × Scale) :=
  let element := row * columns + column
  if format = .preserve then none
  else
    let scale := loadBf16 scales (row * (columns / groupSize) + column / groupSize)
    if format = .w8a16SymG128 then some ((data element).toInt, scale)
    else
      let packed := data (element / 2)
      some (signedNibble (if element % 2 = 1 then (packed >>> 4).toNat
        else (packed &&& 0x0f#8).toNat), scale)

end Readers

end Q38.WeightPacking
