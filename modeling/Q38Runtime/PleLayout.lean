import Q38Runtime.ConsecutiveRuns
import Q38Runtime.PleHash
import Q38Runtime.PleStore

/-!
The layout document of the embedding rows: its text, its fields and the checks on
them. Fields are 64-bit words and sums and products of them wrap around. Sorting
need not be stable, since equal indices or row starts are refused.
-/
namespace Q38.PleLayout
open Contracts PleHash PleStore ConsecutiveRuns

/-- A layout with the fields that the store does not read. -/
structure Layout extends PleLayoutV1 where
  storageDtype : DType := .invalid
  alignmentBytes : UInt32 := 0
  rowDimension : UInt32 := 0
  paddedRows : UInt64 := 0
  hash : PleHashConfig

section Text

/-- One decision of which texts a list holds, for every document that is parsed. -/
instance text_lawful : LawfulBEq (List Char) := inferInstance

/-- What `std::getline` returns until the end of its input. -/
def split (separator : Char) : List Char → List Char → List (List Char)
  | [], [] => []
  | [], field => [field.reverse]
  | next :: rest, field =>
      if next = separator then field.reverse :: split separator rest []
      else split separator rest (next :: field)

def isSpace (character : Char) : Bool := character.isWhitespace || character = '\x0b' ||
  character = '\x0c'

/-- `std::stoull`: the value and what is left of the text. -/
def stoull (value : List Char) : Option (Nat × List Char) :=
  let unspaced := value.dropWhile isSpace
  let negative := unspaced.head? = some '-'
  let unsigned := if negative ∨ unspaced.head? = some '+' then unspaced.tail else unspaced
  let digits := unsigned.takeWhile Char.isDigit
  let magnitude := digits.foldl (fun parsed digit => 10 * parsed + (digit.toNat - 48)) 0
  if digits = [] ∨ 2 ^ 64 ≤ magnitude then none
  else some (if negative then (2 ^ 64 - magnitude) % 2 ^ 64 else magnitude,
    unsigned.drop digits.length)

def refuse {α : Type} (what : String) : Except Thrown α := .error (.runtimeError what)

def parseU64 (field : String) (value : List Char) : Except Thrown UInt64 :=
  match stoull value with
  | none => refuse ("PLE layout " ++ field ++ " is not an integer")
  | some (parsed, rest) =>
      if rest ≠ [] then refuse ("PLE layout " ++ field ++ " has trailing bytes")
      else .ok (UInt64.ofNat parsed)

def parseU32 (field : String) (value : List Char) : Except Thrown UInt32 := do
  let parsed ← parseU64 field value
  if 2 ^ 32 ≤ parsed.toNat then refuse ("PLE layout " ++ field ++ " exceeds uint32")
  else .ok parsed.toUInt32

def parseArray (size : Nat) (field : String) (value : List Char) :
    Except Thrown (Fin size → BitVec 64) := do
  let fields := split ',' value []
  if fields.length ≠ size then refuse ("PLE layout " ++ field ++ " has wrong length")
  else
    let numbers ← fields.mapM (parseU64 field)
    return fun index => (numbers.getD index 0).toBitVec

def parseDtype (value : List Char) : Except Thrown DType :=
  if value = "bf16".toList then .ok .bfloat16
  else if value = "fp8_e4m3".toList then .ok .fp8E4M3
  else refuse "PLE layout has unsupported storage dtype"

end Text

section Records

def parseFile (fields : List (List Char)) : Except Thrown PleFileV1 := do
  let index ← parseU32 "file index" (fields.getD 1 [])
  let fileBytes ← parseU64 "file bytes" (fields.getD 3 [])
  let payloadBytes ← parseU64 "file payload" (fields.getD 4 [])
  return ⟨index, String.ofList (fields.getD 2 []), fileBytes, payloadBytes⟩

def parsePart (fields : List (List Char)) : Except Thrown PlePartV1 := do
  let logicalPart ← parseU32 "part index" (fields.getD 1 [])
  let fileIndex ← parseU32 "part file" (fields.getD 2 [])
  let globalRowStart ← parseU64 "part row start" (fields.getD 3 [])
  let rows ← parseU64 "part rows" (fields.getD 4 [])
  let fileOffset ← parseU64 "part file offset" (fields.getD 5 [])
  let payloadBytes ← parseU64 "part payload" (fields.getD 6 [])
  if fields.length = 10 then
    let scaleFileIndex ← parseU32 "part scale file" (fields.getD 7 [])
    let scaleFileOffset ← parseU64 "part scale offset" (fields.getD 8 [])
    let scaleBytes ← parseU64 "part scale bytes" (fields.getD 9 [])
    return ⟨logicalPart, fileIndex, globalRowStart, rows, fileOffset, payloadBytes,
      scaleFileIndex, scaleFileOffset, scaleBytes⟩
  else
    return { logicalPart, fileIndex, globalRowStart, rows, fileOffset, payloadBytes }

def setHeader (layout : Layout) (key value : List Char) : Except Thrown Layout := do
  let name := String.ofList key
  if key = "dtype".toList then
    return { layout with storageDtype := ← parseDtype value }
  else if key = "alignment".toList then
    return { layout with alignmentBytes := ← parseU32 name value }
  else if key = "row_stride".toList then
    return { layout with rowStrideBytes := ← parseU32 name value }
  else if key = "row_dimension".toList then
    return { layout with rowDimension := ← parseU32 name value }
  else if key = "usable_rows".toList then
    return { layout with usableRows := ← parseU64 name value }
  else if key = "padded_rows".toList then
    return { layout with paddedRows := ← parseU64 name value }
  else if key = "unigram_vocab".toList then
    return { layout with hash := { layout.hash with
      unigramVocabSize := (← parseU32 name value).toNat } }
  else if key = "eos_token".toList then
    return { layout with hash := { layout.hash with eosTokenId := (← parseU32 name value).toNat } }
  else if key = "multipliers".toList then
    return { layout with hash := { layout.hash with multipliers := ← parseArray 3 name value } }
  else if key = "head_vocab_sizes".toList then
    return { layout with hash := { layout.hash with
      headVocabSizes := ← parseArray 16 name value } }
  else if key = "head_offsets".toList then
    return { layout with hash := { layout.hash with headOffsets := ← parseArray 16 name value } }
  else refuse ("PLE layout has unknown key " ++ name)

/-- One line of the document; the keys are those met so far. -/
def parseLine (parsed : Layout × List (List Char)) (line : List Char) :
    Except Thrown (Layout × List (List Char)) := do
  let (layout, headers) := parsed
  if line = [] ∨ line.head? = some '#' then return parsed
  let fields := split '\t' line []
  if 1 < fields.length then
    if fields.head? = some "file".toList ∧ fields.length = 5 then
      return ({ layout with files := layout.files ++ [← parseFile fields] }, headers)
    else if fields.head? = some "part".toList ∧ (fields.length = 7 ∨ fields.length = 10) then
      return ({ layout with parts := layout.parts ++ [← parsePart fields] }, headers)
    else refuse "PLE layout has invalid tab record"
  else if '=' ∉ line then refuse "PLE layout line has no '='"
  else
    let key := line.takeWhile (· ≠ '=')
    if key ∈ headers then refuse ("PLE layout has duplicate key " ++ String.ofList key)
    else return (← setHeader layout key (line.drop (key.length + 1)), key :: headers)

end Records

section Checks
variable (layout : Layout)

def checkDimensions : Except Thrown Unit :=
  let elementBytes := dtypeBytes layout.storageDtype
  if elementBytes = 0 ∨ layout.alignmentBytes = 0 ∨ layout.rowStrideBytes = 0 ∨
      layout.rowDimension = 0 ∨ layout.usableRows = 0 ∨ layout.paddedRows < layout.usableRows then
    refuse "PLE layout has invalid dimensions"
  else if layout.rowDimension.toUInt64 * UInt64.ofNat elementBytes ≠
      layout.rowStrideBytes.toUInt64 then
    refuse "PLE row stride does not match dtype and dimension"
  else if layout.files = [] ∨ layout.parts = [] then
    refuse "PLE layout has no files or logical parts"
  else if layout.hash.unigramVocabSize = 0 ∨
      layout.hash.unigramVocabSize ≤ layout.hash.eosTokenId then
    refuse "PLE hash token configuration is invalid"
  else .ok ()

/-- The heads from some on, with the offset that the next one must have. -/
def checkHeads : List (Fin 16) → BitVec 64 → Except Thrown Unit
  | [], expectedOffset =>
      if expectedOffset ≠ layout.usableRows.toBitVec then
        refuse "PLE hash head rows do not equal usable rows"
      else .ok ()
  | head :: rest, expectedOffset =>
      if layout.hash.headVocabSizes head = 0 ∨ layout.hash.headOffsets head ≠ expectedOffset then
        refuse "PLE hash head ranges are not contiguous"
      else checkHeads rest (expectedOffset + layout.hash.headVocabSizes head)

def checkFiles (verifySourceFiles : Bool) (fileSize : String → Option Nat) :
    List PleFileV1 → Nat → Except Thrown Unit
  | [], _ => .ok ()
  | file :: rest, index =>
      if file.index.toNat ≠ index ∨ file.path = "" ∨ file.fileBytes = 0 ∨
          file.fileBytes < file.payloadBytes then
        refuse "PLE physical file table is invalid"
      else if verifySourceFiles ∧ fileSize file.path ≠ some file.fileBytes.toNat then
        refuse ("PLE physical file size mismatch: " ++ file.path)
      else checkFiles verifySourceFiles fileSize rest (index + 1)

def checkScales (part : PlePartV1) : Except Thrown Unit :=
  if layout.storageDtype = .fp8E4M3 then
    match layout.files[part.scaleFileIndex.toNat]? with
    | none => refuse "PLE row-scale table is invalid"
    | some scaleFile =>
        if part.scaleBytes ≠ part.rows * 2 then refuse "PLE row-scale table is invalid"
        else if scaleFile.fileBytes < part.scaleFileOffset ∨
            scaleFile.fileBytes - part.scaleFileOffset < part.scaleBytes then
          refuse "PLE row-scale extent exceeds its file"
        else .ok ()
  else if part.scaleBytes ≠ 0 then refuse "non-FP8 PLE part has row scales"
  else .ok ()

def checkPart (index : Nat) (nextRow : UInt64) (part : PlePartV1) : Except Thrown Unit :=
  match layout.files[part.fileIndex.toNat]? with
  | none => refuse "PLE logical part table is invalid"
  | some file =>
      if part.logicalPart.toNat ≠ index ∨ part.globalRowStart ≠ nextRow ∨ part.rows = 0 ∨
          part.payloadBytes ≠ part.rows * layout.rowStrideBytes.toUInt64 then
        refuse "PLE logical part table is invalid"
      else if file.fileBytes < part.fileOffset ∨
          file.fileBytes - part.fileOffset < part.payloadBytes then
        refuse "PLE logical part exceeds its physical file"
      else checkScales layout part

def checkParts : List PlePartV1 → Nat → UInt64 → Except Thrown Unit
  | [], _, nextRow =>
      if nextRow ≠ layout.paddedRows then refuse "PLE logical parts do not cover padded rows"
      else .ok ()
  | part :: rest, index, nextRow => do
      checkPart layout index nextRow part
      checkParts rest (index + 1) (nextRow + part.rows)

def sortFiles (files : List PleFileV1) : List PleFileV1 :=
  files.insertionSort fun first second => first.index ≤ second.index

def sortParts (parts : List PlePartV1) : List PlePartV1 :=
  parts.insertionSort fun first second => first.globalRowStart ≤ second.globalRowStart

/-- The checked layout has its tables sorted. -/
def validateLayout (verifySourceFiles : Bool) (fileSize : String → Option Nat) :
    Except Thrown Layout := do
  checkDimensions layout
  checkHeads layout (List.finRange 16) 0
  let filed := { layout with files := sortFiles layout.files }
  checkFiles verifySourceFiles fileSize filed.files 0
  let sorted := { filed with parts := sortParts filed.parts }
  checkParts sorted sorted.parts 0 0
  return sorted

end Checks

def emptyLayout : Layout where
  rowStrideBytes := 0
  usableRows := 0
  files := []
  parts := []
  hash := ⟨0, 0, fun _ => 0, fun _ => 0, fun _ => 0⟩

/-- `none` is a document that cannot be opened. -/
def loadPleLayout (path : String) (document : Option (List Char)) (verifySourceFiles : Bool)
    (fileSize : String → Option Nat) : Except Thrown Layout :=
  match document with
  | none => refuse ("cannot open PLE layout: " ++ path)
  | some text =>
      match split '\n' text [] with
      | [] => refuse "PLE layout has invalid magic/version"
      | magic :: lines =>
          if magic ≠ "Q38_PLE_LAYOUT_V1".toList then
            refuse "PLE layout has invalid magic/version"
          else do
            let (layout, headers) ← lines.foldlM parseLine (emptyLayout, [])
            if headers.length ≠ 11 then refuse "PLE layout is missing required headers"
            else validateLayout layout verifySourceFiles fileSize

end Q38.PleLayout
