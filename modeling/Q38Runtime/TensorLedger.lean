import Mathlib.Data.List.Sort
import Q38Runtime.DeviceArtifact
import Q38Runtime.FixedCodec
import Q38Runtime.KeyedTotals

/-!
The ledger of the tensors of split shards, the plans for cutting it in two stages, and
the index text of each stage. A shard starts at what the header reader returns. Text is
Unicode; `lower`, decimal digits outside ASCII, metadata values and SHA-256 are those of
the interpreter.
-/
namespace Q38.TensorLedger
open KeyedTotals DeviceArtifact

/-- What the interpreter brings. -/
structure Builtins (Value : Type) where
  lower : List Char → List Char
  lower_nil : lower [] = []
  decimal : Char → Option Nat
  int : Value → Option Int
  differs : Value → Value → Bool
  items : Value → Option (List Value)
  sha256 : List UInt8 → List Char
  sha256_hex : ∀ bytes, isHex (sha256 bytes) 64 = true

inductive LedgerError where
  | ggufError (message : String)
  | interpreterError
  deriving DecidableEq, Repr

def refuse {α : Type} (message : String) : Except LedgerError α := .error (.ggufError message)

def interpret {α : Type} : Option α → Except LedgerError α
  | some value => .ok value
  | none => .error .interpreterError

section Text

def startsWith (text start : List Char) : Bool := start.isPrefixOf text

def contains (text part : List Char) : Bool := text.tails.any fun tail => startsWith tail part

def decimalText (value : Nat) : List Char := Nat.toDigits 10 value

def intText (value : Int) : List Char :=
  if value < 0 then '-' :: decimalText value.natAbs else decimalText value.toNat

/-- `str.join`. -/
def joined (separator : List Char) (fields : List (List Char)) : List Char :=
  separator.intercalate fields

/-- `sorted` by a text, which compares code points. -/
def sortedBy {α : Type} (key : α → List Char) (items : List α) : List α :=
  items.insertionSort fun left right => key left ≤ key right

/-- `str` of a tuple. -/
def tupleText (dims : List UInt64) : List Char :=
  match dims with
  | [dim] => '(' :: decimalText dim.toNat ++ ",)".toList
  | _ => '(' :: joined ", ".toList (dims.map fun dim => decimalText dim.toNat) ++ [')']

end Text

section Shards

structure GgmlType where
  name : List Char
  blockElements : Nat
  blockBytes : Nat

def ggmlTypes : List (UInt32 × GgmlType) := [
  (0, ⟨"F32".toList, 1, 4⟩), (1, ⟨"F16".toList, 1, 2⟩), (2, ⟨"Q4_0".toList, 32, 18⟩),
  (3, ⟨"Q4_1".toList, 32, 20⟩), (6, ⟨"Q5_0".toList, 32, 22⟩), (7, ⟨"Q5_1".toList, 32, 24⟩),
  (8, ⟨"Q8_0".toList, 32, 34⟩), (9, ⟨"Q8_1".toList, 32, 40⟩), (10, ⟨"Q2_K".toList, 256, 84⟩),
  (11, ⟨"Q3_K".toList, 256, 110⟩), (12, ⟨"Q4_K".toList, 256, 144⟩),
  (13, ⟨"Q5_K".toList, 256, 176⟩), (14, ⟨"Q6_K".toList, 256, 210⟩),
  (15, ⟨"Q8_K".toList, 256, 292⟩), (24, ⟨"I8".toList, 1, 1⟩), (25, ⟨"I16".toList, 1, 2⟩),
  (26, ⟨"I32".toList, 1, 4⟩), (27, ⟨"I64".toList, 1, 8⟩), (28, ⟨"F64".toList, 1, 8⟩),
  (30, ⟨"BF16".toList, 1, 2⟩)]

structure RawTensor where
  name : List Char
  dims : List UInt64
  typeId : UInt32
  offset : UInt64

/-- A path as given, its last part, and what it resolves to. -/
structure ShardPath where
  text : List Char
  name : List Char
  resolved : List Char
  absolute : resolved.head? = some '/'

/-- What the reader took from the head of a shard, up to the byte `tell`. -/
structure Header (Value : Type) where
  version : UInt32
  metadataCount : UInt64
  metadata : List (List Char × Value)
  tensors : List RawTensor
  tell : Nat

structure TensorInfo where
  name : List Char
  dims : List UInt64
  typeId : UInt32
  typeName : List Char
  offset : UInt64
  payloadBytes : Nat
  shard : List Char
  dataStart : Nat

structure ShardInfo (Value : Type) where
  path : ShardPath
  version : UInt32
  metadata : List (List Char × Value)
  tensors : List TensorInfo
  dataStart : Nat
  fileBytes : Nat

def alignUp (value : Nat) (alignment : Int) : Except LedgerError Nat :=
  if alignment ≤ 0 ∨ alignment.toNat &&& (alignment.toNat - 1) ≠ 0 then
    refuse ("invalid GGUF alignment " ++ toString alignment)
  else
    let raised := value + alignment.toNat - 1
    .ok (raised - (raised &&& (alignment.toNat - 1)))

def elements (dims : List UInt64) : Nat := (dims.map UInt64.toNat).prod

def blockBytes (dims : List UInt64) (kind : GgmlType) : Nat :=
  (elements dims + kind.blockElements - 1) / kind.blockElements * kind.blockBytes

def tensorBytes (dims : List UInt64) (typeId : UInt32) : Except LedgerError Nat :=
  match ggmlTypes.lookup typeId with
  | none => refuse ("unsupported GGML tensor type " ++ toString typeId.toNat)
  | some kind => .ok (blockBytes dims kind)

def shardError {α : Type} (path : ShardPath) (message : String) : Except LedgerError α :=
  refuse (String.ofList path.text ++ ": " ++ message)

def checkDimensions (path : ShardPath) (raw : RawTensor) : Except LedgerError Unit :=
  if raw.dims.length = 0 ∨ 8 < raw.dims.length then
    shardError path ("tensor " ++ String.ofList raw.name ++ " has " ++
      toString raw.dims.length ++ " dimensions")
  else .ok ()

def placeTensor (path : ShardPath) (dataStart fileBytes : Nat) (raw : RawTensor) :
    Except LedgerError TensorInfo := do
  let payloadBytes ← tensorBytes raw.dims raw.typeId
  let finish := dataStart + raw.offset.toNat + payloadBytes
  if fileBytes < finish then
    shardError path ("tensor " ++ String.ofList raw.name ++ " ends at " ++ toString finish ++
      ", beyond " ++ toString fileBytes)
  else do
    let kind ← interpret (ggmlTypes.lookup raw.typeId)
    return {
      name := raw.name
      dims := raw.dims
      typeId := raw.typeId
      typeName := kind.name
      offset := raw.offset
      payloadBytes := payloadBytes
      shard := path.name
      dataStart := dataStart }

variable {Value : Type} (python : Builtins Value) (fileSize : List Char → Except String UInt64)

def checkHeader (path : ShardPath) (header : Header Value) : Except LedgerError Unit :=
  if header.version ≠ 3 then
    shardError path ("only GGUF v3 is supported, got " ++ toString header.version.toNat)
  else if 10000000 < header.tensors.length ∨ 10000000 < header.metadataCount.toNat then
    shardError path "unreasonable header counts"
  else .ok ()

/-- `int(metadata.get(key, default))`. -/
def intOf (metadata : List (List Char × Value)) (key : String) (absent : Int) :
    Except LedgerError Int :=
  match metadata.lookup key.toList with
  | none => .ok absent
  | some value => interpret (python.int value)

/-- The size is that of the file the path resolves to. -/
def parseShard (path : ShardPath) (header : Header Value) :
    Except LedgerError (ShardInfo Value) := do
  let fileBytes ← interpret (fileSize path.resolved).toOption
  checkHeader path header
  header.tensors.forM (checkDimensions path)
  let alignment ← intOf python header.metadata "general.alignment" 32
  let dataStart ← alignUp header.tell alignment
  let tensors ← header.tensors.mapM (placeTensor path dataStart fileBytes.toNat)
  return {
    path := path
    version := header.version
    metadata := header.metadata
    tensors := tensors
    dataStart := dataStart
    fileBytes := fileBytes.toNat }

end Shards

section Owners

inductive OwnerClass where
  | vision
  | mtp
  | layer
  | stage0Global
  | stage1Global
  | unassigned
  deriving DecidableEq, Repr

def OwnerClass.text : OwnerClass → List Char
  | .vision => "vision".toList
  | .mtp => "mtp".toList
  | .layer => "layer".toList
  | .stage0Global => "stage0_global".toList
  | .stage1Global => "stage1_global".toList
  | .unassigned => "unassigned".toList

variable {Value : Type} (python : Builtins Value)

/-- `LAYER_RE` after its anchor. A match may also end before a last newline. -/
def layerAt (text : List Char) : Option Nat :=
  let rest :=
    if startsWith text "blk.".toList then text.drop 4
    else if startsWith text "layers.".toList then text.drop 7
    else []
  let digits := rest.takeWhile fun letter => (python.decimal letter).isSome
  let after := rest.drop digits.length
  if digits ≠ [] ∧ (after = [] ∨ after = ['\n'] ∨ after.head? = some '.') then
    some (digits.foldl (fun number digit => 10 * number + (python.decimal digit).getD 0) 0)
  else none

def layerAfterDot : List Char → Option Nat
  | '.' :: rest => layerAt python rest
  | _ => none

/-- `LAYER_RE.search`, from the left. -/
def layerSearch (text : List Char) : Option Nat :=
  (layerAt python text).orElse fun _ => text.tails.findSome? (layerAfterDot python)

def classifyTensor (name : List Char) : OwnerClass × Option Nat :=
  let lower := python.lower name
  if startsWith lower "v.".toList || startsWith lower "vblk.".toList ||
      startsWith lower "vision.".toList || startsWith lower "visual.".toList ||
      contains lower ".vision.".toList then (.vision, none)
  else if startsWith lower "mtp.".toList || contains lower ".mtp.".toList ||
      contains lower "nextn".toList then (.mtp, none)
  else match layerSearch python lower with
  | some layer => (.layer, some layer)
  | none =>
      if startsWith lower "token_embd".toList || contains lower "input_hc".toList ||
          startsWith lower "hc_input".toList || startsWith lower "position".toList then
        (.stage0Global, none)
      else if startsWith lower "output".toList || contains lower "lm_head".toList ||
          contains lower "final_norm".toList then (.stage1Global, none)
      else (.unassigned, none)

end Owners

section Ledgers

structure TensorRow where
  name : List Char
  dims : List UInt64
  type : List Char
  payloadBytes : Nat
  ownerClass : OwnerClass
  layer : Option Nat
  shard : List Char
  offset : UInt64
  deriving DecidableEq

structure Plan where
  cut : Int
  stage0Layers : Int × Int
  stage1Layers : Int × Int
  stage0WeightBytes : Nat
  stage1WeightBytes : Nat
  stage0QsaLayers : Nat
  stage1QsaLayers : Nat
  stage0QsaStateBytes : Int
  stage1QsaStateBytes : Int
  stage0WeightPlusQsaBytes : Int
  stage1WeightPlusQsaBytes : Int
  weightImbalanceBytes : Nat

structure LedgerModel (Value : Type) where
  architecture : Option Value
  layerCount : Int
  contextLimit : Int
  qsaLayers : List Int
  shardCount : Nat
  tensorCount : Nat
  tensorPayloadBytes : Nat
  fileBytes : Nat
  layoutSha256 : List Char
  missingLayerDirectories : List Nat

structure Ledger (Value : Type) where
  schemaVersion : Nat
  model : LedgerModel Value
  byType : List (List Char × Nat × Nat)
  byOwnerClass : List (OwnerClass × Nat)
  unassignedBytes : Nat
  layers : List (Nat × Nat)
  candidatePlans : List Plan
  tensors : List TensorRow

/-- The counters of the loop over the tensors. -/
structure Census where
  bytesByType : List (List Char × Nat) := []
  tensorsByType : List (List Char × Nat) := []
  bytesByClass : List (OwnerClass × Nat) := []
  bytesByLayer : List (Nat × Nat) := []
  classRows : List TensorRow := []

variable {Value : Type} (python : Builtins Value)

def tensorRow (tensor : TensorInfo) : TensorRow where
  name := tensor.name
  dims := tensor.dims
  type := tensor.typeName
  payloadBytes := tensor.payloadBytes
  ownerClass := (classifyTensor python tensor.name).1
  layer := (classifyTensor python tensor.name).2
  shard := tensor.shard
  offset := tensor.offset

def countTensor (census : Census) (tensor : TensorInfo) : Census :=
  let (owner, layer) := classifyTensor python tensor.name
  { bytesByType := bump tensor.typeName tensor.payloadBytes census.bytesByType
    tensorsByType := bump tensor.typeName 1 census.tensorsByType
    bytesByClass := bump owner tensor.payloadBytes census.bytesByClass
    bytesByLayer := match layer with
      | none => census.bytesByLayer
      | some layer => bump layer tensor.payloadBytes census.bytesByLayer
    classRows := census.classRows ++ [tensorRow python tensor] }

def addMetadata (metadata : List (List Char × Value)) (entry : List Char × Value) :
    Except LedgerError (List (List Char × Value)) :=
  match metadata.lookup entry.1 with
  | none => .ok (metadata ++ [entry])
  | some kept =>
      if python.differs kept entry.2 ∧ startsWith entry.1 "split.".toList = false then
        refuse ("metadata " ++ String.ofList entry.1 ++ " differs between shards")
      else .ok metadata

def qsaLayersOf (metadata : List (List Char × Value)) (layerCount : Int) :
    Except LedgerError (List Int) :=
  match (metadata.lookup "qwen4exp.attention.full_layers".toList).bind python.items with
  | some layers => layers.mapM fun layer => interpret (python.int layer)
  | none => .ok (((List.range layerCount.toNat).filter fun layer =>
      3 ≤ layer ∧ (layer - 3) % 4 = 0).map Int.ofNat)

def planAt (census : Census) (layerCount contextLimit : Int) (qsaLayers : List Int) (cut : Int) :
    Except LedgerError Plan :=
  if cut ≤ 0 ∨ layerCount ≤ cut then
    refuse ("cut " ++ toString cut ++ " is outside 1.." ++ toString (layerCount - 1))
  else
    let stage0Weights := count .stage0Global census.bytesByClass +
      totalWhere (fun layer : Nat => (layer : Int) < cut) census.bytesByLayer
    let stage1Weights := count .stage1Global census.bytesByClass +
      count .mtp census.bytesByClass +
      totalWhere (fun layer : Nat => cut ≤ (layer : Int)) census.bytesByLayer
    let qsa0 := (qsaLayers.filter fun layer => layer < cut).length
    let qsa1 := qsaLayers.length - qsa0
    let qsa0State := qsa0 * contextLimit * (2048 + 64)
    let qsa1State := qsa1 * contextLimit * (2048 + 64)
    .ok {
      cut := cut
      stage0Layers := (0, cut - 1)
      stage1Layers := (cut, layerCount - 1)
      stage0WeightBytes := stage0Weights
      stage1WeightBytes := stage1Weights
      stage0QsaLayers := qsa0
      stage1QsaLayers := qsa1
      stage0QsaStateBytes := qsa0State
      stage1QsaStateBytes := qsa1State
      stage0WeightPlusQsaBytes := stage0Weights + qsa0State
      stage1WeightPlusQsaBytes := stage1Weights + qsa1State
      weightImbalanceBytes := ((stage0Weights : Int) - stage1Weights).natAbs }

/-- `struct.pack` raises on a number that is too wide. -/
def packExtent (tensor : TensorInfo) : Except LedgerError (List UInt8) :=
  if 2 ^ 64 ≤ tensor.payloadBytes then .error .interpreterError
  else .ok (FixedCodec.toBytes 4 tensor.typeId.toNat ++ FixedCodec.toBytes 8 tensor.payloadBytes)

def encode (text : List Char) : List UInt8 := text.flatMap String.utf8EncodeChar

def hashedTensor (tensor : TensorInfo) : Except LedgerError (List UInt8) := do
  let extent ← packExtent tensor
  return encode tensor.name ++ [0] ++ encode (tupleText tensor.dims) ++ extent

def refuseDuplicates (names : List (List Char)) : Except LedgerError Unit :=
  let duplicates := ((tally id (fun _ => 1) names).filter fun entry => 1 < entry.2).map Prod.fst
  if names.Nodup then .ok ()
  else refuse ("duplicate tensor names across shards: " ++
    String.ofList (joined ", ".toList (duplicates.take 8)))

def buildLedger (shards : List (ShardInfo Value)) (cuts : List Int) (contextLimit : Int) :
    Except LedgerError (Ledger Value) := do
  let tensors := shards.flatMap ShardInfo.tensors
  refuseDuplicates (tensors.map TensorInfo.name)
  let census := tensors.foldl (countTensor python) {}
  let metadata ← (shards.flatMap ShardInfo.metadata).foldlM (addMetadata python) []
  let layerCount ← intOf python metadata "qwen4exp.block_count" 48
  let qsaLayers ← qsaLayersOf python metadata layerCount
  let plans ← cuts.mapM (planAt census layerCount contextLimit qsaLayers)
  let hashed ← (sortedBy TensorInfo.name tensors).mapM hashedTensor
  return {
    schemaVersion := 1
    model := {
      architecture := metadata.lookup "general.architecture".toList
      layerCount := layerCount
      contextLimit := contextLimit
      qsaLayers := qsaLayers
      shardCount := shards.length
      tensorCount := tensors.length
      tensorPayloadBytes := (tensors.map TensorInfo.payloadBytes).sum
      fileBytes := (shards.map ShardInfo.fileBytes).sum
      layoutSha256 := python.sha256 hashed.flatten
      missingLayerDirectories := (List.range layerCount.toNat).filter fun layer =>
        layer ∉ census.bytesByLayer.map Prod.fst }
    byType := (sortedBy Prod.fst census.bytesByType).map fun entry =>
      (entry.1, count entry.1 census.tensorsByType, entry.2)
    byOwnerClass := sortedBy (fun entry => entry.1.text) census.bytesByClass
    unassignedBytes := count .unassigned census.bytesByClass
    layers := census.bytesByLayer.insertionSort fun left right => left.1 ≤ right.1
    candidatePlans := plans
    tensors := census.classRows }

end Ledgers

section Indexes

structure IndexRow extends TensorRow where
  absoluteOffset : Nat
  shardPath : List Char

structure StageRows where
  stage0 : List IndexRow := []
  stage1 : List IndexRow := []

variable {Value : Type}

/-- The first shard of the name has the data, and the last one the path. -/
def indexRow (shards : List (ShardInfo Value)) (tensor : TensorRow) :
    Except LedgerError IndexRow := do
  let shard ← interpret (shards.find? fun shard => shard.path.name = tensor.shard)
  let last ← interpret (shards.findRev? fun shard => shard.path.name = tensor.shard)
  return { tensor with
    absoluteOffset := shard.dataStart + tensor.offset.toNat
    shardPath := last.path.resolved }

/-- The stage of a tensor; `none` is a tensor that no stage has. -/
def stageOf (cut : Int) (tensor : TensorRow) : Except LedgerError (Option Nat) :=
  match tensor.ownerClass with
  | .vision => .ok none
  | .unassigned =>
      refuse ("cannot emit index with unassigned tensor " ++ String.ofList tensor.name)
  | .stage0Global => .ok (some 0)
  | .stage1Global => .ok (some 1)
  | .mtp => .ok (some 1)
  | .layer =>
      match tensor.layer with
      | none => .error .interpreterError
      | some layer => .ok (some (if (layer : Int) < cut then 0 else 1))

def StageRows.add (rows : StageRows) (stage : Nat) (row : IndexRow) : StageRows :=
  if stage = 0 then { rows with stage0 := rows.stage0 ++ [row] }
  else { rows with stage1 := rows.stage1 ++ [row] }

def placeRow (shards : List (ShardInfo Value)) (cut : Int) (rows : StageRows)
    (tensor : TensorRow) : Except LedgerError StageRows := do
  match ← stageOf cut tensor with
  | none => return rows
  | some stage =>
      let row ← indexRow shards tensor
      return rows.add stage row

def recordLine (row : IndexRow) : List Char :=
  joined ['\t'] ["tensor".toList, row.name, row.type, decimalText row.payloadBytes,
    decimalText row.absoluteOffset, row.shardPath,
    joined [','] (row.dims.map fun dim => decimalText dim.toNat)]

def indexLines (stage : Nat) (cut : Int) (layoutSha256 : List Char) (rows : List IndexRow) :
    List (List Char) :=
  ["Q38_TENSOR_INDEX_V1".toList, "stage=".toList ++ decimalText stage,
    "cut=".toList ++ intText cut, "layout_sha256=".toList ++ layoutSha256] ++
  (sortedBy (fun row : IndexRow => row.name) rows).map recordLine

def indexText (stage : Nat) (cut : Int) (layoutSha256 : List Char) (rows : List IndexRow) :
    List Char :=
  joined ['\n'] (indexLines stage cut layoutSha256 rows) ++ ['\n']

def stageRows (ledger : Ledger Value) (shards : List (ShardInfo Value)) (cut : Int) :
    Except LedgerError StageRows :=
  if cut ≤ 0 ∨ ledger.model.layerCount ≤ cut then
    refuse ("selected cut " ++ toString cut ++ " is outside 1.." ++
      toString (ledger.model.layerCount - 1))
  else ledger.tensors.foldlM (placeRow shards cut) {}

/-- The texts of `stage0.q38i` and `stage1.q38i`. -/
def writeTensorIndexes (ledger : Ledger Value) (shards : List (ShardInfo Value)) (cut : Int) :
    Except LedgerError (List Char × List Char) := do
  let rows ← stageRows ledger shards cut
  return (indexText 0 cut ledger.model.layoutSha256 rows.stage0,
    indexText 1 cut ledger.model.layoutSha256 rows.stage1)

end Indexes

end Q38.TensorLedger
