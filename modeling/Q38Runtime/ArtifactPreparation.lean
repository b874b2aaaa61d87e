import Q38Runtime.FileFetching

/-! `stream_compile_shards` of `q38_prepare_artifact.py` with `compile_source_shard` of
`q38_artifact_compiler.py`. A run may be killed before each operation on the disk. The manifest
and the tensor index are given: the small files that a run fetches first are no shards. -/
namespace Q38.ArtifactPreparation
open Imperative

/-- A text of Python. -/
abbrev Name := List Char
abbrev Bytes := List UInt8

inductive Stage where
  | stage0
  | stage1
  deriving DecidableEq, Repr

/-- `int(stage[-1])`. -/
def Stage.number : Stage → Nat
  | .stage0 => 0
  | .stage1 => 1

inductive Failure where
  | killed
  | fetching (failure : FileFetching.Failure)
  | fileNotFound
  | runtimeError (what : String)
  | valueError (what : String)
  deriving DecidableEq, Repr

structure Tensor where
  name : Name
  dtype : Name := []
  shape : List Nat := []
  absoluteBegin : Nat := 0
  absoluteEnd : Nat := 0
  deriving DecidableEq, Repr

inductive Format where
  | w4a16
  | w8a16
  | fp8
  | preserve
  deriving DecidableEq, Repr

inductive Decision where
  | skip
  | kept (owner : Stage) (canonicalName : Name) (format : Format) (groupSize : Nat)
  deriving DecidableEq, Repr

structure Extents where
  dataOffset : Nat := 0
  dataBytes : Nat := 0
  dataSha256 : String := ""
  scaleOffset : Nat := 0
  scaleBytes : Nat := 0
  scaleSha256 : Option String := none
  deriving DecidableEq, Repr

/-- A tensor that goes to a stage. -/
structure Selected where
  tensor : Tensor
  canonicalName : Name
  format : Format
  groupSize : Nat
  deriving DecidableEq, Repr

structure Record where
  sourceName : Name
  name : Name
  sourceDtype : Name
  shape : List Nat
  format : Format
  groupSize : Nat
  extents : Extents
  deriving DecidableEq, Repr

structure Fragment where
  schema : String := "Q38_STAGE_FRAGMENT_V1"
  sourceRepo : String
  sourceCommit : String
  sourceShard : Name
  sourceSha256 : String
  policySha256 : String
  stage : Nat
  cut : Int
  segment : Name
  segmentBytes : Nat
  segmentSha256 : String
  tensors : List Record
  deriving DecidableEq, Repr

/-- What is the same for every run: `hashlib`, `read_safetensors_header`, `decide`,
`policy_identity`, and the blocks that `copy_extent`, `quantize_groupwise` or `quantize_fp8` write
behind a position with what they give in the end. -/
structure Tools where
  hashes : FileFetching.Hashes
  readSafetensorsHeader : Bytes → Except Failure (List Tensor)
  decide : Name → Int → Except Failure Decision
  policyIdentity : Int → String
  encode : Bytes → Selected → Nat → List Bytes × Except Failure Extents

def pinnedRepo : String := "Qwen/Qwen3.8-Flash-Next"
def pinnedCommit : String := "de4b8e4d43b917e7706784d8bb445c9af86a3540"
def embedTokens : Name := "model.language_model.embed_tokens.weight".toList

section Paths

/-- The files of a stage directory that are not partial. -/
structure Stored where
  segments : Stage × Name → Option Bytes := fun _ => none
  fragments : Stage × Name → Option Fragment := fun _ => none

/-- A partial file is found under the name that it will have; a partial fragment is empty until
its text is written. `pruned` lists the shards that were unlinked, each with the stage directories
at that moment. -/
structure Disk where
  source : Name → FileFetching.Disk := fun _ => {}
  stored : Stored := {}
  segmentParts : Stage × Name → Option Bytes := fun _ => none
  fragmentParts : Stage × Name → Option (Option Fragment) := fun _ => none
  pruned : List (Name × Stored) := []

def Disk.putSegmentPart (path : Stage × Name) (content : Option Bytes) (disk : Disk) : Disk :=
  { disk with segmentParts := Function.update disk.segmentParts path content }

def Disk.putFragmentPart (path : Stage × Name) (content : Option (Option Fragment))
    (disk : Disk) : Disk :=
  { disk with fragmentParts := Function.update disk.fragmentParts path content }

/-- `os.replace(segment_part, segment_path)`. -/
def Disk.replaceSegment (path : Stage × Name) (disk : Disk) : Disk :=
  { disk with
    stored.segments := Function.update disk.stored.segments path (disk.segmentParts path)
    segmentParts := Function.update disk.segmentParts path none }

def Disk.replaceFragment (path : Stage × Name) (disk : Disk) : Disk :=
  { disk with
    stored.fragments := Function.update disk.stored.fragments path (disk.fragmentParts path).join
    fragmentParts := Function.update disk.fragmentParts path none }

def removeSuffix (ending name : Name) : Name :=
  if ending <:+ name then name.take (name.length - ending.length) else name

def stem (shardName : Name) : Name := removeSuffix ".safetensors".toList shardName

def segmentName (shardName : Name) : Name := stem shardName ++ ".q38w".toList

def fragmentName (shardName : Name) : Name := stem shardName ++ ".q38.json".toList

/-- `Path(...).name`. -/
def pathName (path : Name) : Name := path.rtakeWhile (· ≠ '/')

end Paths

/-- The operations on the disk for a shard, in their order. -/
inductive Point where
  | unlinkSegment (stage : Stage)
  | unlinkFragment (stage : Stage)
  | openSegment (stage : Stage)
  | append (stage : Stage) (position : Nat)
  | openFragment (stage : Stage)
  | writeFragment (stage : Stage)
  | replaceSegment (stage : Stage)
  | replaceFragment (stage : Stage)
  | prune
  | prunePart
  | answer
  deriving DecidableEq, Repr

/-- What a run meets: its fetches, and where it is killed. -/
structure Run where
  fetch : Name → FileFetching.Attempt
  killed : Name → Point → Bool := fun _ _ => false

section Compiler
variable (tools : Tools) (run : Run)

def alive (shardName : Name) (point : Point) : Proc Failure Disk Unit :=
  Proc.ensure (run.killed shardName point = false) .killed

def operate (shardName : Name) (point : Point) (change : Disk → Disk) :
    Proc Failure Disk Unit := do
  alive run shardName point
  Proc.write change

def Disk.written (disk : Disk) (path : Stage × Name) : Bytes := (disk.segmentParts path).getD []

def writeBlocks (shardName : Name) (path : Stage × Name) : List Bytes → Proc Failure Disk Unit
  | [] => pure ()
  | block :: rest => do
      let written ← Proc.read fun disk => disk.written path
      operate run shardName (.append path.1 written.length)
        (Disk.putSegmentPart path (some (written ++ block)))
      writeBlocks shardName path rest

def recordOf (selected : Selected) (extents : Extents) : Record where
  sourceName := selected.tensor.name
  name := selected.canonicalName
  sourceDtype := selected.tensor.dtype
  shape := selected.tensor.shape
  format := selected.format
  groupSize := selected.groupSize
  extents := extents

def compileTensors (content : Bytes) (shardName : Name) (path : Stage × Name) :
    List Selected → Proc Failure Disk (List Record)
  | [] => pure []
  | selected :: rest => do
      let written ← Proc.read fun disk => disk.written path
      let encoded := tools.encode content selected written.length
      writeBlocks run shardName path encoded.1
      let extents ← Proc.settle encoded.2
      let records ← compileTensors content shardName path rest
      pure (recordOf selected extents :: records)

def fragmentOf (sourceSha256 sourceCommit : String) (shardName : Name) (stage : Stage) (cut : Int)
    (segment : Bytes) (records : List Record) : Fragment where
  sourceRepo := pinnedRepo
  sourceCommit := sourceCommit
  sourceShard := shardName
  sourceSha256 := sourceSha256
  policySha256 := tools.policyIdentity cut
  stage := stage.number
  cut := cut
  segment := segmentName shardName
  segmentBytes := segment.length
  segmentSha256 := tools.hashes.sha256 segment
  tensors := records

/-- `shardName` names the points of the run, `sourceName` the files. -/
def compileStage (content : Bytes) (sourceSha256 sourceCommit : String) (shardName : Name)
    (selected : List Selected) (stage : Stage) (cut : Int) : Proc Failure Disk Unit :=
  match selected with
  | [] => pure ()
  | selected => do
      let sourceName := pathName shardName
      let segmentPath := (stage, segmentName sourceName)
      let fragmentPath := (stage, fragmentName sourceName)
      operate run shardName (.unlinkSegment stage) (Disk.putSegmentPart segmentPath none)
      operate run shardName (.unlinkFragment stage) (Disk.putFragmentPart fragmentPath none)
      operate run shardName (.openSegment stage) (Disk.putSegmentPart segmentPath (some []))
      let records ← compileTensors tools run content shardName segmentPath selected
      let segment ← Proc.read fun disk => disk.written segmentPath
      let fragment :=
        fragmentOf tools sourceSha256 sourceCommit sourceName stage cut segment records
      operate run shardName (.openFragment stage) (Disk.putFragmentPart fragmentPath (some none))
      operate run shardName (.writeFragment stage)
        (Disk.putFragmentPart fragmentPath (some (some fragment)))
      operate run shardName (.replaceSegment stage) (Disk.replaceSegment segmentPath)
      operate run shardName (.replaceFragment stage) (Disk.replaceFragment fragmentPath)

def decideAll (cut : Int) : List Tensor → Except Failure (List (Tensor × Decision))
  | [] => .ok []
  | tensor :: rest => do
      let decision ← tools.decide tensor.name cut
      let decided ← decideAll cut rest
      .ok ((tensor, decision) :: decided)

/-- `by_stage`. The token embedding goes to its owner and to `stage1`. -/
def byStage (stage : Stage) (decided : List (Tensor × Decision)) : List Selected :=
  decided.flatMap fun entry =>
    match entry.2 with
    | .skip => []
    | .kept owner canonicalName format groupSize =>
        let selected : Selected := ⟨entry.1, canonicalName, format, groupSize⟩
        (if owner = stage then [selected] else []) ++
          if entry.1.name = embedTokens ∧ stage = .stage1 then [selected] else []

def compileSourceShard (shardName : Name) (sourceCommit : String) (cut : Int) :
    Proc Failure Disk Unit := do
  let file ← Proc.read fun disk => (disk.source shardName).destination
  match file with
  | none => Proc.throwing .fileNotFound
  | some content => do
      let sourceSha256 := tools.hashes.sha256 content
      let tensors ← Proc.settle (tools.readSafetensorsHeader content)
      let decided ← Proc.settle (decideAll tools cut tensors)
      compileStage tools run content sourceSha256 sourceCommit shardName
        (byStage .stage0 decided) .stage0 cut
      compileStage tools run content sourceSha256 sourceCommit shardName
        (byStage .stage1 decided) .stage1 cut

end Compiler

section Preparation
variable (tools : Tools)

structure ManifestRecord where
  path : Name
  size : Option Nat := none
  sha256 : Option String := none
  blobId : Option String := none
  deriving DecidableEq, Repr

/-- `index` is the `weight_map`: a shard for every tensor name. -/
structure Arguments where
  manifest : List ManifestRecord
  index : List (Name × Name)
  cut : Int
  force : Bool
  pruneSourceShards : Bool
  deriving DecidableEq, Repr

/-- With `require_sha`. -/
def manifestRecord (manifest : List ManifestRecord) (name : Name) :
    Except Failure (ManifestRecord × String) :=
  match manifest.find? (·.path = name) with
  | none => .error (.runtimeError ("file is absent from fetch manifest: " ++ String.ofList name))
  | some item =>
      match item.size, item.sha256 with
      | some (_ + 1), some digest =>
          if digest.length = 64 then .ok (item, digest)
          else .error (.runtimeError ("manifest record is not LFS-bound: " ++ String.ofList name))
      | _, _ =>
          .error (.runtimeError ("manifest record is not LFS-bound: " ++ String.ofList name))

def expectedFragmentStagesFromIndex (index : List (Name × Name)) (shardName : Name) (cut : Int) :
    Except Failure (List Stage) := do
  let owned := index.filter (·.2 = shardName)
  let decided ← decideAll tools cut (owned.map fun entry => { name := entry.1 })
  if owned = [] then
    .error (.valueError ("shard is absent from official tensor index: " ++ String.ofList shardName))
  else .ok (decided.flatMap fun entry =>
    match entry.2 with
    | .skip => []
    | .kept owner _ _ _ => owner :: if entry.1.name = embedTokens then [.stage1] else [])

def segmentMatches (stored : Stored) (stage : Stage) (fragment : Fragment) : Bool :=
  match stored.segments (stage, fragment.segment) with
  | none => false
  | some segment => segment.length = fragment.segmentBytes ∧
      tools.hashes.sha256 segment = fragment.segmentSha256

def fragmentComplete (stored : Stored) (shardName : Name) (sourceSha256 : String) (cut : Int)
    (stage : Stage) : Bool :=
  match stored.fragments (stage, fragmentName shardName) with
  | none => false
  | some fragment =>
      (fragment.segment ≠ [] ∧ pathName fragment.segment = fragment.segment ∧
        fragment.schema = "Q38_STAGE_FRAGMENT_V1" ∧ fragment.sourceRepo = pinnedRepo ∧
        fragment.sourceShard = shardName ∧ fragment.sourceCommit = pinnedCommit ∧
        fragment.sourceSha256 = sourceSha256 ∧
        fragment.policySha256 = tools.policyIdentity cut ∧
        fragment.stage = stage.number ∧ fragment.cut = cut) &&
        segmentMatches tools stored stage fragment

def fragmentSetComplete (stored : Stored) (shardName : Name) (expected : List Stage)
    (sourceSha256 : String) (cut : Int) : Bool :=
  expected.all (fragmentComplete tools stored shardName sourceSha256 cut)

variable (run : Run)

/-- A call of the fetcher on the files of a shard. -/
def fetching {α : Type} (shardName : Name)
    (body : Proc FileFetching.Failure FileFetching.Disk α) : Proc Failure Disk α := fun disk =>
  let (outcome, after) := body (disk.source shardName)
  (outcome.mapError .fetching, { disk with source := Function.update disk.source shardName after })

def ManifestRecord.item (record : ManifestRecord) : FileFetching.Item where
  rfilename := String.ofList record.path
  size := record.size
  sha256 := record.sha256
  blobId := record.blobId

def fetchManifestFile (manifest : List ManifestRecord) (name : Name) :
    Proc Failure Disk FileFetching.Status := do
  let record ← Proc.settle (manifestRecord manifest name)
  fetching name (FileFetching.fetchOne tools.hashes record.1.item (run.fetch name))

def prune (shardName : Name) : Proc Failure Disk Unit := do
  operate run shardName .prune fun disk =>
    { disk with
      source := Function.update disk.source shardName
        { disk.source shardName with destination := none }
      pruned := disk.pruned ++ [(shardName, disk.stored)] }
  operate run shardName .prunePart fun disk =>
    { disk with
      source := Function.update disk.source shardName { disk.source shardName with part := none } }

variable (arguments : Arguments)

def compileMissing (shardName : Name) : Proc Failure Disk Unit := do
  let _ ← fetchManifestFile tools run arguments.manifest shardName
  compileSourceShard tools run shardName pinnedCommit arguments.cut

def streamCompileShard (shardName : Name) : Proc Failure Disk Unit := do
  let record ← Proc.settle (manifestRecord arguments.manifest shardName)
  let expected ←
    Proc.settle (expectedFragmentStagesFromIndex tools arguments.index shardName arguments.cut)
  let complete := fun (stored : Stored) =>
    fragmentSetComplete tools stored shardName expected record.2 arguments.cut
  let found ← Proc.read Disk.stored
  Proc.whenever (¬ (arguments.force = false ∧ complete found = true))
    (compileMissing tools run arguments shardName)
  let stored ← Proc.read Disk.stored
  Proc.ensure (complete stored = true) (.runtimeError
    ("compiled shard failed durable fragment verification: " ++ String.ofList shardName))
  Proc.whenever (arguments.pruneSourceShards = true) (prune run shardName)
  alive run shardName .answer

def streamShards : List Name → Proc Failure Disk Unit
  | [] => pure ()
  | shardName :: rest => do
      streamCompileShard tools run arguments shardName
      streamShards rest

/-- `sorted(set(...))`. -/
def shardNames (index : List (Name × Name)) : List Name :=
  (index.map Prod.snd).dedup.insertionSort (· ≤ ·)

def streamCompileShards : Proc Failure Disk Nat := do
  Proc.ensure (arguments.index ≠ [])
    (.valueError "official tensor index has no weight_map shards")
  Proc.ensure (∀ entry ∈ arguments.index, entry.2 ≠ [])
    (.valueError "official tensor index has invalid shard names")
  streamShards tools run arguments (shardNames arguments.index)
  pure (shardNames arguments.index).length

end Preparation

end Q38.ArtifactPreparation
