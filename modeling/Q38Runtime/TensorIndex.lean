import Q38Runtime.DeviceArtifact

/-!
The tensor index of a stage, as the runtime loads it, and the checks on the two indexes
of a pair. Sizes of shards do not change while an index is loaded.
-/
namespace Q38.TensorIndex
open Contracts PleLayout DeviceArtifact

structure IndexedTensorV1 where
  name : List Char
  typeName : List Char
  payloadBytes : UInt64
  absoluteOffset : UInt64
  shardPath : List Char
  dims : List UInt64
  deriving DecidableEq

structure TensorIndexV1 where
  stage : UInt32 := 0
  cut : UInt32 := 0
  layoutSha256 : List Char := []
  tensors : List IndexedTensorV1 := []
  payloadBytes : UInt64 := 0
  deriving DecidableEq

def parseU64 (field : String) (value : List Char) : Except Thrown UInt64 :=
  match stoull value with
  | none => refuse ("tensor index " ++ field ++ " is not an integer")
  | some (parsed, rest) =>
      if rest ≠ [] then refuse ("tensor index " ++ field ++ " has trailing bytes")
      else .ok (UInt64.ofNat parsed)

def isSha256 (value : List Char) : Bool := isHex value 64

/-- What the loop carries. The names met are those of the tensors of the index. -/
structure Loading where
  index : TensorIndexV1 := {}
  sawStage : Bool := false
  sawCut : Bool := false
  sawLayout : Bool := false
  lineNumber : Nat := 1

section Lines

def loadStage (loading : Loading) (value : List Char) : Except Thrown Loading :=
  if loading.sawStage then refuse "duplicate tensor index stage"
  else do
    let parsed ← parseU64 "stage" value
    if 1 < parsed then refuse "tensor index stage must be 0 or 1"
    return { loading with
      index := { loading.index with stage := parsed.toUInt32 }
      sawStage := true }

def loadCut (loading : Loading) (value : List Char) : Except Thrown Loading :=
  if loading.sawCut then refuse "duplicate tensor index cut"
  else do
    let parsed ← parseU64 "cut" value
    if parsed = 0 ∨ 4294967295 < parsed then refuse "tensor index cut is invalid"
    return { loading with
      index := { loading.index with cut := parsed.toUInt32 }
      sawCut := true }

def loadLayout (loading : Loading) (value : List Char) : Except Thrown Loading :=
  if loading.sawLayout then refuse "duplicate tensor index layout hash"
  else if isSha256 value = false then refuse "tensor index layout hash is invalid"
  else .ok { loading with
    index := { loading.index with layoutSha256 := value }
    sawLayout := true }

def parseTensor (fields : List (List Char)) : Except Thrown IndexedTensorV1 := do
  let payloadBytes ← parseU64 "payload_bytes" (fields.getD 3 [])
  let absoluteOffset ← parseU64 "absolute_offset" (fields.getD 4 [])
  let dims ← (split ',' (fields.getD 6 []) []).mapM (parseU64 "dimension")
  return {
    name := fields.getD 1 []
    typeName := fields.getD 2 []
    payloadBytes := payloadBytes
    absoluteOffset := absoluteOffset
    shardPath := fields.getD 5 []
    dims := dims }

variable (fileSize : List Char → Except String UInt64) (verifySourceExtents : Bool)

def checkExtent (tensor : IndexedTensorV1) : Except Thrown Unit :=
  if verifySourceExtents then
    match fileSize tensor.shardPath with
    | .error message =>
        refuse ("cannot stat tensor shard " ++ String.ofList tensor.shardPath ++ ": " ++ message)
    | .ok size =>
        if size < tensor.absoluteOffset ∨ size - tensor.absoluteOffset < tensor.payloadBytes then
          refuse ("tensor " ++ String.ofList tensor.name ++ " exceeds its source shard")
        else .ok ()
  else .ok ()

def addTensor (index : TensorIndexV1) (tensor : IndexedTensorV1) :
    Except Thrown TensorIndexV1 :=
  if tensor.name = [] ∨ tensor.typeName = [] ∨ tensor.payloadBytes = 0 ∨
      tensor.shardPath = [] ∨ tensor.dims = [] then
    refuse "tensor index contains an empty tensor field"
  else if tensor.name ∈ index.tensors.map IndexedTensorV1.name then
    refuse ("tensor index contains duplicate tensor " ++ String.ofList tensor.name)
  else if 18446744073709551615 - tensor.payloadBytes < index.payloadBytes then
    refuse "tensor index payload byte count overflows"
  else do
    checkExtent fileSize verifySourceExtents tensor
    return { index with
      payloadBytes := index.payloadBytes + tensor.payloadBytes
      tensors := index.tensors ++ [tensor] }

def loadRecord (loading : Loading) (fields : List (List Char)) : Except Thrown Loading :=
  if fields.length ≠ 7 ∨ fields.head? ≠ some "tensor".toList then
    refuse ("tensor index line " ++ toString loading.lineNumber ++ " has an invalid record")
  else do
    let tensor ← parseTensor fields
    let index ← addTensor fileSize verifySourceExtents loading.index tensor
    return { loading with index }

def loadLine (before : Loading) (line : List Char) : Except Thrown Loading :=
  let loading := { before with lineNumber := before.lineNumber + 1 }
  if line = [] ∨ line.head? = some '#' then .ok loading
  else if "stage=".toList.isPrefixOf line then loadStage loading (line.drop 6)
  else if "cut=".toList.isPrefixOf line then loadCut loading (line.drop 4)
  else if "layout_sha256=".toList.isPrefixOf line then loadLayout loading (line.drop 14)
  else loadRecord fileSize verifySourceExtents loading (split '\t' line [])

def checkComplete (loading : Loading) : Except Thrown TensorIndexV1 :=
  if loading.sawStage = false ∨ loading.sawCut = false ∨ loading.sawLayout = false then
    refuse "tensor index is missing required headers"
  else if loading.index.tensors = [] then refuse "tensor index is empty"
  else .ok loading.index

/-- `none` is a document that cannot be opened. -/
def loadTensorIndex (path : String) (document : Option (List Char)) :
    Except Thrown TensorIndexV1 :=
  match document with
  | none => refuse ("cannot open tensor index: " ++ path)
  | some text =>
      match split '\n' text [] with
      | [] => refuse "tensor index has an invalid magic/version"
      | magic :: lines =>
          if magic ≠ "Q38_TENSOR_INDEX_V1".toList then
            refuse "tensor index has an invalid magic/version"
          else do
            let loading ← lines.foldlM (loadLine fileSize verifySourceExtents) {}
            checkComplete loading

end Lines

/-- The set of names grows by the tensors of the second stage. -/
def checkOwner (names : List (List Char)) (tensor : IndexedTensorV1) :
    Except Thrown (List (List Char)) :=
  if tensor.name ∈ names then
    refuse ("tensor appears in both stages: " ++ String.ofList tensor.name)
  else .ok (tensor.name :: names)

def validateTensorIndexPair (stage0 stage1 : TensorIndexV1) : Except Thrown Unit :=
  if stage0.stage ≠ 0 ∨ stage1.stage ≠ 1 then
    refuse "tensor index pair has reversed stage ownership"
  else if stage0.cut ≠ stage1.cut then refuse "tensor index pair has different cuts"
  else if stage0.layoutSha256 ≠ stage1.layoutSha256 then
    refuse "tensor index pair has different layouts"
  else do
    let _ ← stage1.tensors.foldlM checkOwner (stage0.tensors.map IndexedTensorV1.name)
    return ()

end Q38.TensorIndex
