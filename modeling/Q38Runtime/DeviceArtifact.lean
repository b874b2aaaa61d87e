import Q38Runtime.PleLayout

/-! The device index of a stage: its text, its records and the checks on them. Fields
are 64-bit words; a product that is not guarded and a cast to 32 bits wrap around. -/
namespace Q38.DeviceArtifact
open Contracts PleLayout

inductive DeviceWeightFormatV1 where
  | preserve
  | w4A16SymG128
  | w8A16SymG128
  | fp8E4M3Fn
  deriving DecidableEq, Repr

structure DeviceSegmentV1 where
  relativePath : List Char
  bytes : UInt64
  sha256 : List Char
  deriving DecidableEq, Repr

structure DeviceTensorV1 where
  name : List Char
  sourceName : List Char
  sourceDtype : List Char
  format : DeviceWeightFormatV1
  groupSize : UInt32
  segment : UInt32
  dataOffset : UInt64
  dataBytes : UInt64
  dataSha256 : List Char
  scaleOffset : UInt64
  scaleBytes : UInt64
  scaleSha256 : List Char
  shape : List UInt64
  deriving DecidableEq, Repr

structure DeviceStageIndexV1 where
  stage : UInt32 := 0
  cut : UInt32 := 0
  sourceRepo : List Char := []
  sourceCommit : List Char := []
  policySha256 : List Char := []
  artifactSha256 : List Char := []
  indexDirectory : List Char
  segments : List DeviceSegmentV1 := []
  tensors : List DeviceTensorV1 := []
  mappedBytes : UInt64 := 0
  deriving DecidableEq, Repr

section Fields

def indexU64 (field : String) (value : List Char) : Except Thrown UInt64 :=
  match stoull value with
  | none => refuse ("device index " ++ field ++ " is not an integer")
  | some (parsed, rest) =>
      if rest ≠ [] then refuse ("device index " ++ field ++ " has trailing bytes")
      else .ok (UInt64.ofNat parsed)

def isHexDigit (digit : Char) : Bool :=
  digit.isDigit || ('a' ≤ digit && digit ≤ 'f') || ('A' ≤ digit && digit ≤ 'F')

def isHex (value : List Char) (length : Nat) : Bool :=
  value.length == length && value.all isHexDigit

def parseFormat (value : List Char) : Except Thrown DeviceWeightFormatV1 :=
  if value = "preserve".toList then .ok .preserve
  else if value = "w4a16_sym_g128".toList then .ok .w4A16SymG128
  else if value = "w8a16_sym_g128".toList then .ok .w8A16SymG128
  else if value = "fp8_e4m3fn".toList then .ok .fp8E4M3Fn
  else refuse ("device index has unknown format " ++ String.ofList value)

def multiplyChecked (result dimension : UInt64) : Except Thrown UInt64 :=
  if dimension = 0 ∨ (18446744073709551615 : UInt64) / dimension < result then
    refuse "device tensor shape overflows"
  else .ok (result * dimension)

def checkedElements (shape : List UInt64) : Except Thrown UInt64 :=
  if shape = [] then refuse "device tensor shape is empty"
  else shape.foldlM multiplyChecked 1

def sourceDtypeBytes (dtype : List Char) : Except Thrown UInt64 :=
  if dtype = "BF16".toList ∨ dtype = "F16".toList then .ok 2
  else if dtype = "F32".toList ∨ dtype = "I32".toList then .ok 4
  else if dtype = "I64".toList then .ok 8
  else if dtype = "U8".toList ∨ dtype = "I8".toList ∨ dtype = "F8_E4M3".toList then .ok 1
  else refuse ("device tensor has unknown source dtype " ++ String.ofList dtype)

end Fields

section Layout
variable (tensor : DeviceTensorV1)

def checkPreserved (elements : UInt64) : Except Thrown Unit :=
  if tensor.groupSize ≠ 0 ∨ tensor.scaleBytes ≠ 0 then
    refuse "preserved device tensor layout is invalid"
  else do
    let bytes ← sourceDtypeBytes tensor.sourceDtype
    if tensor.dataBytes ≠ elements * bytes then
      refuse "preserved device tensor layout is invalid"

def checkGroupwise (bits elements : UInt64) : Except Thrown Unit :=
  if tensor.groupSize ≠ 128 ∨ tensor.shape.getLastD 0 % 128 ≠ 0 ∨
      isHex tensor.scaleSha256 64 = false then
    refuse "groupwise device tensor layout is invalid"
  else if 18446744073709551615 / bits < elements ∨ tensor.dataBytes ≠ elements * bits / 8 ∨
      tensor.scaleBytes ≠ elements / 128 * 2 then
    refuse "groupwise device tensor byte census is invalid"
  else .ok ()

def checkFp8 (elements : UInt64) : Except Thrown Unit :=
  if tensor.groupSize ≠ 0 ∨ tensor.shape.length < 2 ∨ isHex tensor.scaleSha256 64 = false ∨
      tensor.dataBytes ≠ elements ∨
      tensor.scaleBytes ≠ elements / tensor.shape.getLastD 0 * 2 then
    refuse "FP8 device tensor layout is invalid"
  else .ok ()

def validateTensorLayout : Except Thrown Unit := do
  let elements ← checkedElements tensor.shape
  if isHex tensor.dataSha256 64 = false then refuse "device tensor data hash is invalid"
  if tensor.dataBytes = 0 then refuse "device tensor data extent is empty"
  match tensor.format with
  | .preserve => checkPreserved tensor elements
  | .w4A16SymG128 => checkGroupwise tensor 4 elements
  | .w8A16SymG128 => checkGroupwise tensor 8 elements
  | .fp8E4M3Fn => checkFp8 tensor elements

end Layout

section Records

/-- The directory of the index, and what stands at the paths of its segments. -/
structure IndexFiles where
  directory : List Char
  verifySegmentExtents : Bool
  fileSize : List Char → Option Nat

variable (files : IndexFiles)

def parseSegment (fields : List (List Char)) : Except Thrown DeviceSegmentV1 := do
  let bytes ← indexU64 "segment bytes" (fields.getD 2 [])
  return ⟨fields.getD 1 [], bytes, fields.getD 3 []⟩

def addSegment (index : DeviceStageIndexV1) (segment : DeviceSegmentV1) :
    Except Thrown DeviceStageIndexV1 :=
  if segment.relativePath = [] ∨ segment.bytes = 0 ∨ isHex segment.sha256 64 = false then
    refuse "invalid device segment fields"
  else if files.verifySegmentExtents ∧
      files.fileSize segment.relativePath ≠ some segment.bytes.toNat then
    refuse ("device segment extent differs: " ++
      String.ofList (files.directory ++ '/' :: segment.relativePath))
  else if 18446744073709551615 - segment.bytes < index.mappedBytes then
    refuse "device segment byte census overflows"
  else .ok { index with
    mappedBytes := index.mappedBytes + segment.bytes
    segments := index.segments ++ [segment] }

def parseTensor (fields : List (List Char)) : Except Thrown DeviceTensorV1 := do
  let format ← parseFormat (fields.getD 4 [])
  let groupSize ← indexU64 "group size" (fields.getD 5 [])
  let segment ← indexU64 "segment index" (fields.getD 6 [])
  let dataOffset ← indexU64 "data offset" (fields.getD 7 [])
  let dataBytes ← indexU64 "data bytes" (fields.getD 8 [])
  let scaleOffset ← indexU64 "scale offset" (fields.getD 10 [])
  let scaleBytes ← indexU64 "scale bytes" (fields.getD 11 [])
  let shape ← (split ',' (fields.getD 13 []) []).mapM (indexU64 "shape")
  return {
    name := fields.getD 1 []
    sourceName := fields.getD 2 []
    sourceDtype := fields.getD 3 []
    format := format
    groupSize := groupSize.toUInt32
    segment := segment.toUInt32
    dataOffset := dataOffset
    dataBytes := dataBytes
    dataSha256 := fields.getD 9 []
    scaleOffset := scaleOffset
    scaleBytes := scaleBytes
    scaleSha256 := if fields.getD 12 [] = ['-'] then [] else fields.getD 12 []
    shape := shape }

def addTensor (index : DeviceStageIndexV1) (tensor : DeviceTensorV1) :
    Except Thrown DeviceStageIndexV1 :=
  if tensor.name = [] ∨ tensor.sourceName = [] ∨
      tensor.name ∈ index.tensors.map DeviceTensorV1.name then
    refuse "invalid or duplicate device tensor identity"
  else match index.segments[tensor.segment.toNat]? with
    | none => refuse "invalid or duplicate device tensor identity"
    | some segment =>
        if segment.bytes < tensor.dataOffset ∨
            segment.bytes - tensor.dataOffset < tensor.dataBytes ∨
            segment.bytes < tensor.scaleOffset ∨
            segment.bytes - tensor.scaleOffset < tensor.scaleBytes then
          refuse "device tensor exceeds its segment"
        else do
          validateTensorLayout tensor
          return { index with tensors := index.tensors ++ [tensor] }

def setHeader (index : DeviceStageIndexV1) (key value : List Char) :
    Except Thrown DeviceStageIndexV1 :=
  if key = "stage".toList then do
    let parsed ← indexU64 "stage" value
    if 1 < parsed then refuse "device stage must be 0 or 1"
    return { index with stage := parsed.toUInt32 }
  else if key = "cut".toList then do
    let parsed ← indexU64 "cut" value
    if parsed = 0 ∨ 48 ≤ parsed then refuse "device cut must be in 1..47"
    return { index with cut := parsed.toUInt32 }
  else if key = "source_repo".toList then .ok { index with sourceRepo := value }
  else if key = "source_commit".toList then .ok { index with sourceCommit := value }
  else if key = "policy_sha256".toList then .ok { index with policySha256 := value }
  else if key = "artifact_sha256".toList then .ok { index with artifactSha256 := value }
  else refuse ("unknown device index header " ++ String.ofList key)

/-- The kinds of lines, in the order they are told apart. -/
inductive Line where
  | skipped
  | header (key value : List Char)
  | segment (fields : List (List Char))
  | tensor (fields : List (List Char))

def classify (line : List Char) : Line :=
  if line = [] ∨ line.head? = some '#' then .skipped
  else if '=' ∈ line ∧ '\t' ∉ line then
    .header (line.takeWhile (· ≠ '=')) (line.drop ((line.takeWhile (· ≠ '=')).length + 1))
  else if (split '\t' line []).head? = some "segment".toList then .segment (split '\t' line [])
  else .tensor (split '\t' line [])

/-- What the loop carries: the index, the headers met, and the line number. -/
structure Loading where
  index : DeviceStageIndexV1
  headers : List (List Char) := []
  lineNumber : Nat := 1

def loadLine (loading : Loading) (line : List Char) : Except Thrown Loading :=
  let lineNumber := loading.lineNumber + 1
  match classify line with
  | .skipped => .ok { loading with lineNumber }
  | .header key value =>
      if key ∈ loading.headers then
        refuse ("duplicate device index header " ++ String.ofList key)
      else do
        let index ← setHeader loading.index key value
        return { index, headers := key :: loading.headers, lineNumber }
  | .segment fields =>
      if fields.length ≠ 4 then
        refuse ("invalid device segment record at line " ++ toString lineNumber)
      else do
        let segment ← parseSegment fields
        let index ← addSegment files loading.index segment
        return { loading with index, lineNumber }
  | .tensor fields =>
      if fields.length ≠ 14 ∨ fields.head? ≠ some "tensor".toList then
        refuse ("invalid device tensor record at line " ++ toString lineNumber)
      else do
        let tensor ← parseTensor fields
        let index ← addTensor loading.index tensor
        return { loading with index, lineNumber }

def requiredHeaders : List (List Char) :=
  ["stage".toList, "cut".toList, "source_repo".toList, "source_commit".toList,
    "policy_sha256".toList, "artifact_sha256".toList]

/-- `headers` holds only known keys, each once, so its length tells whether all came. -/
def checkComplete (loading : Loading) : Except Thrown DeviceStageIndexV1 :=
  let index := loading.index
  if (∃ key ∈ requiredHeaders, key ∉ loading.headers) ∨ index.sourceRepo = [] ∨
      isHex index.sourceCommit 40 = false ∨ isHex index.policySha256 64 = false ∨
      isHex index.artifactSha256 64 = false ∨ index.segments = [] ∨ index.tensors = [] then
    refuse "device stage index is incomplete"
  else .ok index

/-- `none` is a document that cannot be opened. -/
def loadDeviceStageIndex (path : String) (document : Option (List Char)) :
    Except Thrown DeviceStageIndexV1 :=
  match document with
  | none => refuse ("cannot open device stage index: " ++ path)
  | some text =>
      match split '\n' text [] with
      | [] => refuse "device stage index has invalid magic/version"
      | magic :: lines =>
          if magic ≠ "Q38_DEVICE_INDEX_V1".toList then
            refuse "device stage index has invalid magic/version"
          else do
            let loading ← lines.foldlM (loadLine files)
              { index := { indexDirectory := files.directory } }
            checkComplete loading

end Records

/-- `DeviceWeightStore::find`: the record, and where its bytes lie in the mapping of
its segment. -/
structure DeviceTensorViewV1 where
  descriptor : DeviceTensorV1
  data : Nat
  scales : Option Nat

def find (index : DeviceStageIndexV1) (name : List Char) : Option DeviceTensorViewV1 :=
  (index.tensors.find? fun tensor => tensor.name = name).map fun tensor =>
    { descriptor := tensor
      data := tensor.dataOffset.toNat
      scales := if tensor.scaleBytes = 0 then none else some tensor.scaleOffset.toNat }

end Q38.DeviceArtifact
