import Q38Runtime.ArtifactPreparation
import Q38Runtime.PleDeviceLayout

/-! `finalize_stage` of `q38_artifact_finalize.py`, which checks the fragments of a stage against
their segments and writes the index of the stage. A set of names is a list. -/
namespace Q38.StageFinalizing
open ArtifactPreparation DeviceArtifact
open PleDeviceLayout (PythonError valueError assignment)
open TensorLedger (decimalText intText joined)

section Contract

def hyper : List String := ["norm.weight", "mix_down.weight", "mix_up.weight", "inject.weight"]

def moe : List String := ["ffn_gate_inp.weight", "ffn_gate_up_exps.weight", "ffn_down_exps.weight",
  "ffn_gate_shexp.weight", "ffn_up_shexp.weight", "ffn_down_shexp.weight",
  "ffn_shexp_gate_inp.weight"]

def gdn : List String := ["linear_attn.a_log", "linear_attn.dt_bias", "linear_attn.conv.weight",
  "linear_attn.qkv.weight", "linear_attn.z.weight", "linear_attn.in_b.weight",
  "linear_attn.in_a.weight", "linear_attn.norm.weight", "linear_attn.out.weight"]

def qsa : List String := ["attn_index_qk.weight", "attn_index_q_norm.weight",
  "attn_index_k_norm.weight", "attn_q.weight", "attn_q_norm.weight", "attn_k.weight",
  "attn_k_norm.weight", "attn_v.weight", "attn_output.weight"]

def pleTensors : List String := ["ple.key.weight", "ple.value.weight", "ple.key_norm.weight",
  "ple.query_norm.weight", "ple.conv_norm.weight", "ple.conv.weight", "ple.layer_multipliers",
  "ple.head_offsets", "ple.head_vocab_sizes"]

def stage1Globals : List String := ["output.weight", "hc_input.norm.weight",
  "hc_input.mix_down.weight", "hc_input.mix_up.weight", "mtp.fc_embedding.weight",
  "mtp.fc_hidden.weight", "mtp.fc_embedding_norm.weight", "mtp.fc_hidden_norm.weight",
  "mtp.hc_input.norm.weight", "mtp.hc_input.mix_down.weight", "mtp.hc_input.mix_up.weight"]

def suffixed (start : Name) (suffixes : List String) : List Name :=
  suffixes.map fun suffix => start ++ suffix.toList

/-- `f"ple.table.part.{part:03d}"`. -/
def tableName (part : Nat) : Name :=
  "ple.table.part.".toList ++
    [Nat.digitChar (part / 100), Nat.digitChar (part / 10 % 10), Nat.digitChar (part % 10)]

def layerNames (layer : Nat) : List Name :=
  let start := "blk.".toList ++ decimalText layer ++ ['.']
  suffixed (start ++ "hc_attn.".toList) hyper ++ suffixed (start ++ "hc_ffn.".toList) hyper ++
    suffixed start moe ++ suffixed start (if layer % 4 = 3 then qsa else gdn) ++
    if layer = 1 then suffixed start pleTensors ++ (List.range 128).map tableName else []

def mtpNames : List Name :=
  let start := "mtp.blk.0.".toList
  suffixed [] stage1Globals ++ suffixed (start ++ "hc_attn.".toList) hyper ++
    suffixed (start ++ "hc_ffn.".toList) hyper ++ suffixed start moe ++ suffixed start qsa

def stageTensorNames (stage : Nat) (cut : Int) : List Name :=
  let layers := (List.range 48).filter fun layer : Nat =>
    if stage = 0 then (layer : Int) < cut else cut ≤ layer
  "token_embd.weight".toList :: layers.flatMap layerNames ++ if stage = 1 then mtpNames else []

def validStage (stage : Nat) (cut : Int) : Bool := (stage = 0 ∨ stage = 1) ∧ 0 < cut ∧ cut < 48

def expectedStageTensorNames (stage : Nat) (cut : Int) : Except PythonError (List Name) :=
  if validStage stage cut then .ok (stageTensorNames stage cut)
  else valueError "invalid Q38 stage contract identity"

def listed (label : String) (names : List Name) : List Name :=
  if names = [] then [] else [label.toList ++ joined [','] (names.take 12)]

def validateStageTensorContract (names : List Name) (stage : Nat) (cut : Int) :
    Except PythonError Unit := do
  let expected ← expectedStageTensorNames stage cut
  let missing := (expected.dedup.filter (· ∉ names)).insertionSort (· ≤ ·)
  let unexpected := (names.dedup.filter (· ∉ expected)).insertionSort (· ≤ ·)
  if missing ≠ [] ∨ unexpected ≠ [] then
    .error (.valueError ("Q38 runtime tensor contract differs: ".toList ++
      joined [' '] (listed "missing=" missing ++ listed "unexpected=" unexpected)))
  else .ok ()

end Contract

section Fragments

/-- `hashlib` on bytes. -/
structure Hasher where
  sha256 : Bytes → List Char
  sha256_hex : ∀ bytes, isHex (sha256 bytes) 64 = true

/-- What `finalize_stage` finds under its root: the fragments in the order of their paths, and the
regular files that they name. -/
structure StageRoot where
  text : Name
  fragments : List (Name × Fragment)
  segment : Name → Option Bytes

structure Identity where
  sourceRepo : String
  sourceCommit : String
  policySha256 : String
  stage : Nat
  cut : Int
  deriving DecidableEq, Repr

def identityOf (fragment : Fragment) : Identity :=
  ⟨fragment.sourceRepo, fragment.sourceCommit, fragment.policySha256, fragment.stage, fragment.cut⟩

/-- The first field that differs. -/
def differingField (identity other : Identity) : Option String :=
  if other.sourceRepo ≠ identity.sourceRepo then some "source_repo"
  else if other.sourceCommit ≠ identity.sourceCommit then some "source_commit"
  else if other.policySha256 ≠ identity.policySha256 then some "policy_sha256"
  else if other.stage ≠ identity.stage then some "stage"
  else if other.cut ≠ identity.cut then some "cut"
  else none

def checkFragment (identity : Identity) (found : Name × Fragment) : Except PythonError Unit :=
  if found.2.schema ≠ "Q38_STAGE_FRAGMENT_V1" then
    .error (.valueError ("invalid fragment schema: ".toList ++ found.1))
  else match differingField identity (identityOf found.2) with
    | some field => .error (.valueError ("fragment ".toList ++ field.toList ++
        " differs: ".toList ++ found.1))
    | none => .ok ()

structure SegmentEntry where
  path : Name
  bytes : Nat
  sha256 : List Char
  deriving DecidableEq, Repr

/-- The lists of the loop over the fragments; a record comes with the number of its segment. -/
structure Finalizing where
  segments : List SegmentEntry := []
  records : List (Nat × Record) := []
  deriving DecidableEq, Repr

variable (hasher : Hasher)

def hashExtent (path : Name) (content : Bytes) (offset count : Nat) :
    Except PythonError (List Char) :=
  if content.length < offset + count then
    .error (.valueError ("short extent in ".toList ++ path))
  else .ok (hasher.sha256 ((content.drop offset).take count))

def checkHashes (path : Name) (content : Bytes) (record : Record) : Except PythonError Unit := do
  let extents := record.extents
  let dataSha ← hashExtent hasher path content extents.dataOffset extents.dataBytes
  if dataSha ≠ extents.dataSha256.toList then
    .error (.valueError ("tensor data hash differs: ".toList ++ record.name))
  else if extents.scaleBytes ≠ 0 then do
    let scaleSha ← hashExtent hasher path content extents.scaleOffset extents.scaleBytes
    if some scaleSha ≠ extents.scaleSha256.map String.toList then
      .error (.valueError ("tensor scale hash differs: ".toList ++ record.name))
    else .ok ()
  else .ok ()

def verifyTensor (verifyHashes : Bool) (path : Name) (content : Bytes) (record : Record) :
    Except PythonError Unit :=
  if verifyHashes then checkHashes hasher path content record else .ok ()

def finalizeTensor (verifyHashes : Bool) (path : Name) (content : Bytes) (segment : Nat)
    (finalizing : Finalizing) (record : Record) : Except PythonError Finalizing :=
  if record.name ∈ finalizing.records.map fun entry => entry.2.name then
    .error (.valueError ("duplicate canonical tensor ".toList ++ record.name))
  else if content.length < record.extents.dataOffset + record.extents.dataBytes ∨
      content.length < record.extents.scaleOffset + record.extents.scaleBytes then
    .error (.valueError ("tensor exceeds segment: ".toList ++ record.name))
  else do
    verifyTensor hasher verifyHashes path content record
    return { finalizing with records := finalizing.records ++ [(segment, record)] }

def finalizeFragment (root : StageRoot) (verifyHashes : Bool) (finalizing : Finalizing)
    (found : Name × Fragment) : Except PythonError Finalizing :=
  let fragment := found.2
  let path := root.text ++ "/segments/".toList ++ fragment.segment
  match root.segment fragment.segment with
  | none => .error (.valueError ("missing segment ".toList ++ path))
  | some content =>
      if content.length ≠ fragment.segmentBytes then
        .error (.valueError ("segment size differs: ".toList ++ path))
      else if hasher.sha256 content ≠ fragment.segmentSha256.toList then
        .error (.valueError ("segment hash differs: ".toList ++ path))
      else
        let entry : SegmentEntry := ⟨"segments/".toList ++ pathName fragment.segment,
          content.length, hasher.sha256 content⟩
        fragment.tensors.foldlM
          (finalizeTensor hasher verifyHashes path content finalizing.segments.length)
          { finalizing with segments := finalizing.segments ++ [entry] }

end Fragments

section Index

def formatText : Format → Name
  | .w4a16 => "w4a16_sym_g128".toList
  | .w8a16 => "w8a16_sym_g128".toList
  | .fp8 => "fp8_e4m3fn".toList
  | .preserve => "preserve".toList

/-- `tensor["scale_sha256"] or "-"`. -/
def scaleText (scaleSha256 : Option String) : Name :=
  match scaleSha256 with
  | none => ['-']
  | some digest => if digest = "" then ['-'] else digest.toList

def segmentLine (entry : SegmentEntry) : Name :=
  joined ['\t'] ["segment".toList, entry.path, decimalText entry.bytes, entry.sha256]

def tensorFields (segment : Nat) (record : Record) : List Name :=
  ["tensor".toList, record.name, record.sourceName, record.sourceDtype, formatText record.format,
    decimalText record.groupSize, decimalText segment, decimalText record.extents.dataOffset,
    decimalText record.extents.dataBytes, record.extents.dataSha256.toList,
    decimalText record.extents.scaleOffset, decimalText record.extents.scaleBytes,
    scaleText record.extents.scaleSha256, joined [','] (record.shape.map decimalText)]

def tensorLine (entry : Nat × Record) : Name := joined ['\t'] (tensorFields entry.1 entry.2)

def identityLines (identity : Identity) : List Name :=
  [assignment "stage" (decimalText identity.stage), assignment "cut" (intText identity.cut),
    assignment "source_repo" identity.sourceRepo.toList,
    assignment "source_commit" identity.sourceCommit.toList,
    assignment "policy_sha256" identity.policySha256.toList]

def sortedRecords (finalizing : Finalizing) : List (Nat × Record) :=
  TensorLedger.sortedBy (fun entry => entry.2.name) finalizing.records

def recordLines (finalizing : Finalizing) : List Name :=
  finalizing.segments.map segmentLine ++ (sortedRecords finalizing).map tensorLine

def encoded (text : Name) : Bytes := (String.ofList text).toUTF8.data.toList

def indexLines (hasher : Hasher) (identity : Identity) (finalizing : Finalizing) : List Name :=
  let body := identityLines identity ++ recordLines finalizing
  "Q38_DEVICE_INDEX_V1".toList :: identityLines identity ++
    assignment "artifact_sha256" (hasher.sha256 (encoded (joined ['\n'] body ++ ['\n']))) ::
    recordLines finalizing

/-- What `finalize_stage` writes to `index.q38d`. -/
def finalizeStage (hasher : Hasher) (root : StageRoot) (verifyHashes : Bool) :
    Except PythonError (List Char) :=
  match root.fragments with
  | [] => .error (.valueError ("no fragments under ".toList ++ root.text))
  | first :: rest => do
      let identity := identityOf first.2
      if ¬ validStage identity.stage identity.cut then valueError "invalid stage identity"
      else do
        (first :: rest).forM (checkFragment identity)
        let finalizing ← (first :: rest).foldlM (finalizeFragment hasher root verifyHashes) {}
        validateStageTensorContract (finalizing.records.map fun entry => entry.2.name)
          identity.stage identity.cut
        return joined ['\n'] (indexLines hasher identity finalizing) ++ ['\n']

end Index

end Q38.StageFinalizing
