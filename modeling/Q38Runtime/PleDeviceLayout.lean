import Q38Runtime.FixedCodec
import Q38Runtime.TensorLedger

/-! The layout document of the embedding rows as a script makes it from the device index of
the first stage. Integers are unbounded, a negative index counts from the end, and text is
Unicode; the interpreter's `int` and digits and the files are inputs. -/
namespace Q38.PleDeviceLayout
open TensorLedger

inductive PythonError where
  | valueError (what : List Char)
  | keyError (key : String)
  | indexError
  | typeError
  | osError
  deriving DecidableEq, Repr

structure RegularFile where
  size : Nat
  byte : Nat → UInt8

/-- What the interpreter and its file system bring. A path is resolved against the
directory of the index. -/
structure Host where
  int : List Char → Option Int
  decimal : Char → Option Nat
  resolve : List Char → List Char
  file : List Char → Option RegularFile
  resolve_some : ∀ path, resolve path ≠ []
  file_small : ∀ path found, file path = some found → found.size < 2 ^ 63

structure Segment where
  path : List Char
  size : Int
  deriving DecidableEq, Repr

structure Tensor where
  name : List Char
  dtype : List Char
  format : List Char
  segment : Int
  offset : Int
  count : Int
  scaleOffset : Int
  scaleCount : Int
  shape : List Int
  deriving DecidableEq, Repr

/-- What the index holds; the tensors are in the order of the dictionary. -/
structure Tables where
  segments : List Segment := []
  tensors : List Tensor := []
  deriving DecidableEq, Repr

def valueError {α : Type} (what : String) : Except PythonError α :=
  .error (.valueError what.toList)

/-- `items[index]`. -/
def item {α : Type} (items : List α) (index : Int) : Except PythonError α :=
  let place := if index < 0 then index + items.length else index
  if place < 0 then .error .indexError
  else match items[place.toNat]? with
    | none => .error .indexError
    | some found => .ok found

section Index
variable (host : Host)

def isLineBreak (character : Char) : Bool :=
  character ∈ ['\n', '\r', '\x0b', '\x0c', '\x1c', '\x1d', '\x1e', '\x85', '\u2028', '\u2029']

/-- The lines of a text that is read with universal newlines. -/
def splitLines : List Char → List Char → List (List Char)
  | [], [] => []
  | [], line => [line.reverse]
  | '\r' :: '\n' :: rest, line => line.reverse :: splitLines rest []
  | next :: rest, line =>
      if isLineBreak next then line.reverse :: splitLines rest []
      else splitLines rest (next :: line)

def readInt (text : List Char) : Except PythonError Int :=
  match host.int text with
  | none => valueError "invalid literal for int()"
  | some value => .ok value

def parseSegment (fields : List (List Char)) : Except PythonError Segment := do
  let resolved := host.resolve (← item fields 1)
  let size ← readInt host (← item fields 2)
  if (host.file resolved).map (fun file => (file.size : Int)) ≠ some size then
    .error (.valueError ("device segment size differs: ".toList ++ resolved))
  else .ok ⟨resolved, size⟩

def parseTensor (fields : List (List Char)) : Except PythonError Tensor :=
  if fields.length ≠ 14 then valueError "invalid device tensor record"
  else do
    let segment ← readInt host (← item fields 6)
    let offset ← readInt host (← item fields 7)
    let count ← readInt host (← item fields 8)
    let scaleOffset ← readInt host (← item fields 10)
    let scaleCount ← readInt host (← item fields 11)
    let shape ← ((← item fields 13).splitOn ',').mapM (readInt host)
    return {
      name := ← item fields 1
      dtype := ← item fields 3
      format := ← item fields 4
      segment := segment
      offset := offset
      count := count
      scaleOffset := scaleOffset
      scaleCount := scaleCount
      shape := shape }

def parseLine (tables : Tables) (line : List Char) : Except PythonError Tables :=
  let fields := line.splitOn '\t'
  if fields.head? = some "segment".toList then do
    let segment ← parseSegment host fields
    return { tables with segments := tables.segments ++ [segment] }
  else if fields.head? = some "tensor".toList then do
    let tensor ← parseTensor host fields
    if tensor.name ∈ tables.tensors.map Tensor.name ∨ tables.segments.length ≤ tensor.segment then
      .error (.valueError ("invalid device tensor identity: ".toList ++ tensor.name))
    else return { tables with tensors := tables.tensors ++ [tensor] }
  else .ok tables

def parseIndex (text : List Char) : Except PythonError Tables :=
  match splitLines text [] with
  | [] => valueError "invalid device index magic"
  | magic :: lines =>
      if magic ≠ "Q38_DEVICE_INDEX_V1".toList then valueError "invalid device index magic"
      else lines.foldlM (parseLine host) {}

end Index

section Controls
variable (host : Host)

/-- `open`, `seek` and `read`. -/
def readExtent (path : List Char) (offset count : Int) : Except PythonError (List UInt8) :=
  match host.file path with
  | none => .error .osError
  | some file =>
      if offset < 0 ∨ 2 ^ 63 ≤ offset then .error .osError
      else if count < -1 ∨ 2 ^ 63 ≤ count then
        valueError "read length must be non-negative or -1"
      else
        let rest := file.size - offset.toNat
        let length := if count = -1 then rest else min count.toNat rest
        .ok ((List.range length).map fun place => file.byte (offset.toNat + place))

/-- `struct.unpack` of signed 64-bit words, least significant byte first. -/
def unpack (count : Nat) (data : List UInt8) : List Int :=
  (List.range count).map fun word =>
    (BitVec.ofNat 64 (FixedCodec.ofBytes ((data.drop (8 * word)).take 8))).toInt

def readI64 (segments : List Segment) (tensor : Tensor) (count : Nat) :
    Except PythonError (List Int) :=
  if tensor.dtype ≠ "I64".toList ∨ tensor.format ≠ "preserve".toList ∨
      tensor.shape ≠ [(count : Int)] then
    .error (.valueError ("invalid PLE control tensor ".toList ++ tensor.name))
  else do
    let segment ← item segments tensor.segment
    let data ← readExtent host segment.path tensor.offset tensor.count
    if data.length ≠ 8 * count then
      .error (.valueError ("short PLE control tensor ".toList ++ tensor.name))
    else return unpack count data

/-- `tensors[name]`. -/
def named (tensors : List Tensor) (name : String) : Except PythonError Tensor :=
  match tensors.find? fun tensor => tensor.name = name.toList with
  | none => .error (.keyError name)
  | some tensor => .ok tensor

def checkHeads : List (Int × Int) → Int → Except PythonError Int
  | [], expected => .ok expected
  | (size, offset) :: rest, expected =>
      if size ≤ 0 ∨ offset ≠ expected then valueError "PLE head ranges are not contiguous"
      else checkHeads rest (expected + size)

end Controls

section Parts
variable (host : Host)

/-- `^ple\.table\.part\.(\d{3})$`, on a name without line breaks. -/
def partNumber (name : List Char) : Option Nat :=
  if "ple.table.part.".toList.isPrefixOf name then
    match name.drop 15 with
    | [hundreds, tens, ones] => do
        return 100 * (← host.decimal hundreds) + 10 * (← host.decimal tens) + (← host.decimal ones)
    | _ => none
  else none

def rowsOf (tensor : Tensor) : Int := tensor.shape.getD 0 0

def tablePart (tensor : Tensor) : Except PythonError (Option (Nat × Tensor)) :=
  match partNumber host tensor.name with
  | none => .ok none
  | some number =>
      if tensor.format ≠ "fp8_e4m3fn".toList ∨ tensor.shape.length ≠ 2 ∨
          tensor.shape.getD 1 0 ≠ 160 ∨ tensor.count ≠ rowsOf tensor * 160 ∨
          tensor.scaleCount ≠ rowsOf tensor * 2 then
        .error (.valueError ("invalid PLE table tensor ".toList ++ tensor.name))
      else .ok (some (number, tensor))

/-- `str` of a list of numbers. -/
def listText (numbers : List Nat) : List Char :=
  '[' :: joined ", ".toList (numbers.map decimalText) ++ [']']

def incomplete (logical : List Nat) : PythonError :=
  let missing := (List.range ((logical.map Nat.succ).foldl max 0)).filter (· ∉ logical)
  .valueError ("PLE table parts are incomplete: found=".toList ++ decimalText logical.length ++
    ", first=".toList ++ listText (logical.take 4) ++
    ", last=".toList ++ listText (logical.drop (logical.length - 4)) ++
    ", missing=".toList ++ listText (missing.take 8))

/-- The table parts by their numbers; tensors themselves are not ordered. -/
def sortedParts (tensors : List Tensor) : Except PythonError (List Tensor) := do
  let found ← tensors.mapM (tablePart host)
  let parts := found.filterMap id
  if ¬ (parts.map Prod.fst).Nodup then .error .typeError
  else
    let sorted := parts.insertionSort fun left right => left.1 ≤ right.1
    let logical := sorted.map Prod.fst
    if sorted = [] ∨ logical ≠ List.range sorted.length then .error (incomplete logical)
    else return sorted.map Prod.snd

end Parts

section Layout

/-- What the document is written from. -/
structure Translation where
  segments : List Segment
  multipliers : List Int
  sizes : List Int
  offsets : List Int
  expected : Int
  parts : List Tensor
  deriving DecidableEq, Repr

def paddedRows (parts : List Tensor) : Int := (parts.map rowsOf).sum

def translate (host : Host) (tables : Tables) : Except PythonError Translation := do
  let segments := tables.segments
  let multipliers ← readI64 host segments
    (← named tables.tensors "blk.1.ple.layer_multipliers") 3
  let sizes ← readI64 host segments (← named tables.tensors "blk.1.ple.head_vocab_sizes") 16
  let offsets ← readI64 host segments (← named tables.tensors "blk.1.ple.head_offsets") 16
  let expected ← checkHeads (sizes.zip offsets) 0
  let parts ← sortedParts host tables.tensors
  if paddedRows parts < expected then
    valueError "PLE table has fewer rows than the usable vocabulary"
  else return ⟨segments, multipliers, sizes, offsets, expected, parts⟩

def usedSegments (parts : List Tensor) : List Int :=
  (parts.map Tensor.segment).dedup.insertionSort (· ≤ ·)

def fileIndex (parts : List Tensor) (segment : Int) : Nat := (usedSegments parts).idxOf segment

def payloadOf (parts : List Tensor) (segment : Int) : Int :=
  ((parts.filter fun tensor => tensor.segment = segment).map fun tensor =>
    tensor.count + tensor.scaleCount).sum

def assignment (key : String) (value : List Char) : List Char := key.toList ++ '=' :: value

def commas (values : List Int) : List Char := joined [','] (values.map intText)

def headerLines (translation : Translation) (unigramVocab eosToken : Int) : List (List Char) :=
  ["Q38_PLE_LAYOUT_V1".toList,
    assignment "dtype" "fp8_e4m3".toList,
    assignment "alignment" "1".toList,
    assignment "row_stride" "160".toList,
    assignment "row_dimension" "160".toList,
    assignment "usable_rows" (intText translation.expected),
    assignment "padded_rows" (intText (paddedRows translation.parts)),
    assignment "unigram_vocab" (intText unigramVocab),
    assignment "eos_token" (intText eosToken),
    assignment "multipliers" (commas translation.multipliers),
    assignment "head_vocab_sizes" (commas translation.sizes),
    assignment "head_offsets" (commas translation.offsets)]

def fileLine (translation : Translation) (segment : Int) : Except PythonError (List Char) := do
  let found ← item translation.segments segment
  return joined ['\t'] ["file".toList, decimalText (fileIndex translation.parts segment),
    found.path, intText found.size, intText (payloadOf translation.parts segment)]

def partLine (parts : List Tensor) (logical : Nat) (rowStart : Int) (tensor : Tensor) :
    List Char :=
  let file := decimalText (fileIndex parts tensor.segment)
  joined ['\t'] ["part".toList, decimalText logical, file, intText rowStart,
    intText (rowsOf tensor), intText tensor.offset, intText tensor.count, file,
    intText tensor.scaleOffset, intText tensor.scaleCount]

/-- The lines of the parts from some number on, with the row that the next one starts at. -/
def partLines (parts : List Tensor) : List Tensor → Nat → Int → List (List Char)
  | [], _, _ => []
  | tensor :: rest, logical, rowStart =>
      partLine parts logical rowStart tensor ::
        partLines parts rest (logical + 1) (rowStart + rowsOf tensor)

def layoutText (translation : Translation) (unigramVocab eosToken : Int) :
    Except PythonError (List Char) := do
  let files ← (usedSegments translation.parts).mapM (fileLine translation)
  return joined ['\n'] (headerLines translation unigramVocab eosToken ++ files ++
    partLines translation.parts translation.parts 0 0) ++ ['\n']

/-- The document of an index; `compile_layout` also counts what it has written. -/
def compileLayout (host : Host) (text : List Char) (unigramVocab eosToken : Int) :
    Except PythonError (List Char) := do
  let tables ← parseIndex host text
  let translation ← translate host tables
  layoutText translation unigramVocab eosToken

end Layout

end Q38.PleDeviceLayout
