import Q38Runtime.Identity
import Q38Runtime.RecordLog

/-! The append-only snapshot journal of `snapshot.cc`. The file is its list of
bytes; each record is a packed header and the token suffix that the previous
record lacks. A `Disk` says how far a write got before it failed. -/
namespace Q38.Snapshot
open Contracts Sampling Identity FixedCodec Imperative RecordLog

def kStateSnapshotMagic : UInt32 := fourcc 'Q' '3' '8' 'N'
def kSnapshotColdRebuild : UInt32 := 1
def kSnapshotHasLastSample : UInt32 := 2

structure StateSnapshotHeaderV1 where
  magic : UInt32 := kStateSnapshotMagic
  version : UInt16 := kContractVersion
  headerBytes : UInt16 := 176
  identityChecksum : UInt64 := 0
  sequence : UInt64 := 0
  timestampNs : UInt64 := 0
  frontiers : SessionFrontiersV1 UInt64 := ⟨0, 0, 0, 0, 0, 0⟩
  sampler : SamplerStateV1 := {}
  canonicalTokenCount : UInt64 := 0
  tokenStart : UInt64 := 0
  tokenCount : UInt64 := 0
  payloadBytes : UInt64 := 0
  canonicalChecksum : UInt64 := 0
  lastSample : Token := -1
  flags : UInt32 := kSnapshotColdRebuild
  recordChecksum : UInt64 := 0
  deriving DecidableEq, Repr

structure StateSnapshotV1 where
  header : StateSnapshotHeaderV1 := {}
  canonicalTokens : List Token := []
  deriving DecidableEq, Repr

def frontiersCodec : Codec (SessionFrontiersV1 UInt64) :=
  (Codec.u64.pair <| Codec.u64.pair <| Codec.u64.pair <| Codec.u64.pair <|
    Codec.u64.pair Codec.u64).record
  (fun frontiers => (frontiers.canonical, frontiers.target, frontiers.stage0, frontiers.stage1,
    frontiers.draft, frontiers.epoch))
  (fun (canonical, target, stage0, stage1, draft, epoch) =>
    ⟨canonical, target, stage0, stage1, draft, epoch⟩)
  (fun _ => rfl)

def samplerCodec : Codec SamplerStateV1 :=
  (Codec.u32.pair <| Codec.u16.pair <| Codec.u16.pair <| Codec.u64.pair <| Codec.u64.pair <|
    Codec.u64.pair Codec.u64).record
  (fun state => (state.magic, state.version, state.headerBytes, state.rngState,
    state.sampledTokens, state.canonicalTokens, state.penaltyChecksum))
  (fun (magic, version, headerBytes, rngState, sampledTokens, canonicalTokens,
      penaltyChecksum) =>
    ⟨magic, version, headerBytes, rngState, sampledTokens, canonicalTokens, penaltyChecksum⟩)
  (fun _ => rfl)

def headerCodec : Codec StateSnapshotHeaderV1 :=
  (Codec.u32.pair <| Codec.u16.pair <| Codec.u16.pair <| Codec.u64.pair <| Codec.u64.pair <|
    Codec.u64.pair <| frontiersCodec.pair <| samplerCodec.pair <| Codec.u64.pair <|
    Codec.u64.pair <| Codec.u64.pair <| Codec.u64.pair <| Codec.u64.pair <| Codec.i32.pair <|
    Codec.u32.pair Codec.u64).record
  (fun header => (header.magic, header.version, header.headerBytes, header.identityChecksum,
    header.sequence, header.timestampNs, header.frontiers, header.sampler,
    header.canonicalTokenCount, header.tokenStart, header.tokenCount, header.payloadBytes,
    header.canonicalChecksum, header.lastSample, header.flags, header.recordChecksum))
  (fun (magic, version, headerBytes, identityChecksum, sequence, timestampNs, frontiers,
      sampler, canonicalTokenCount, tokenStart, tokenCount, payloadBytes, canonicalChecksum,
      lastSample, flags, recordChecksum) =>
    ⟨magic, version, headerBytes, identityChecksum, sequence, timestampNs, frontiers, sampler,
      canonicalTokenCount, tokenStart, tokenCount, payloadBytes, canonicalChecksum, lastSample,
      flags, recordChecksum⟩)
  (fun _ => rfl)

theorem header_codec_size : headerCodec.size = 176 := rfl

def tokenBytes (tokens : List Token) : List UInt8 := Codec.i32.encodeAll tokens

theorem token_bytes_length (tokens : List Token) :
    (tokenBytes tokens).length = 4 * tokens.length := by
  rw [tokenBytes, Codec.encode_all_length, Nat.mul_comm]
  rfl

def recordChecksum (header : StateSnapshotHeaderV1) (suffix : List Token) : UInt64 :=
  hashBytes (hashBytes fnvOffset (headerCodec.encode { header with recordChecksum := 0 }))
    (tokenBytes suffix)

def canonicalTokenChecksum (tokens : List Token) : UInt64 :=
  hashBytes (hashBytes fnvOffset (tokenBytes tokens))
    (Codec.u64.encode (UInt64.ofNat tokens.length))

def validateStateSnapshot (snapshot : StateSnapshotV1) (identity : SessionIdentityV1) :
    Option String :=
  let header := snapshot.header
  if header.magic ≠ kStateSnapshotMagic ∨ header.version ≠ kContractVersion ∨
      header.headerBytes ≠ 176 then
    some "invalid snapshot header"
  else if header.identityChecksum ≠ identity.identityChecksum then
    some "snapshot identity differs"
  else if header.sequence = 0 ∨
      header.canonicalTokenCount.toNat ≠ snapshot.canonicalTokens.length ∨
      header.canonicalTokenCount > identity.contextLimit.toUInt64 then
    some "snapshot token extent is invalid"
  else if header.frontiers.canonical ≠ header.canonicalTokenCount ∨
      header.frontiers.target > header.frontiers.canonical ∨
      header.frontiers.canonical - header.frontiers.target > 1 then
    some "snapshot frontiers are not cold-rebuildable"
  else if validateFrontiers header.frontiers ≠ none then
    some "snapshot stage frontiers diverge"
  else if header.flags &&& kSnapshotColdRebuild = 0 ∨
      header.flags &&& ~~~(kSnapshotColdRebuild ||| kSnapshotHasLastSample) ≠ 0 then
    some "snapshot flags are invalid"
  else if header.canonicalChecksum ≠ canonicalTokenChecksum snapshot.canonicalTokens then
    some "snapshot canonical checksum differs"
  else if header.sampler.magic ≠ kSamplerStateMagic ∨
      header.sampler.canonicalTokens ≠ header.canonicalTokenCount then
    some "snapshot sampler state differs from canonical tokens"
  else if header.flags &&& kSnapshotHasLastSample ≠ 0 ∧ header.lastSample < 0 then
    some "snapshot last sample flag is inconsistent"
  else none

structure SnapshotJournal where
  identity : SessionIdentityV1
  file : List UInt8
  current : StateSnapshotV1

/-- What the loop of `load` carries from record to record. -/
structure Loaded where
  canonical : List Token := []
  lastSequence : UInt64 := 0
  validBytes : Nat := 0
  current : StateSnapshotV1 := {}

def headerCorrupt (identity : SessionIdentityV1) (state : Loaded)
    (header : StateSnapshotHeaderV1) : Bool :=
  header.magic != kStateSnapshotMagic || header.version != kContractVersion ||
    header.headerBytes != 176 || header.identityChecksum != identity.identityChecksum ||
    header.sequence ≤ state.lastSequence ||
    header.tokenStart.toNat > state.canonical.length ||
    header.tokenCount > identity.contextLimit.toUInt64 ||
    header.tokenStart + header.tokenCount != header.canonicalTokenCount ||
    header.payloadBytes != header.tokenCount * 4

/-- One record read in full: its header was accepted and its payload is here. -/
def acceptRecord (identity : SessionIdentityV1) (state : Loaded)
    (header : StateSnapshotHeaderV1) (suffix : List Token) : Except Thrown Loaded :=
  if header.recordChecksum ≠ recordChecksum header suffix then
    .error (.runtimeError "snapshot record checksum differs")
  else
    let canonical := state.canonical.take header.tokenStart.toNat ++ suffix
    let candidate : StateSnapshotV1 := ⟨header, canonical⟩
    match validateStateSnapshot candidate identity with
    | some error => .error (.runtimeError ("invalid snapshot journal state: " ++ error))
    | none => .ok {
        canonical := canonical
        lastSequence := header.sequence
        validBytes := state.validBytes + 176 + header.payloadBytes.toNat
        current := candidate }

/-- One turn of the loop of `load`; `none` leaves it at a header or payload that
was cut short. -/
def loadRecord (identity : SessionIdentityV1) (state : Loaded) (input : List UInt8) :
    Except Thrown (Option (Loaded × List UInt8)) :=
  if input.length < headerCodec.size then .ok none
  else
    let header := headerCodec.decode input
    if headerCorrupt identity state header then
      .error (.runtimeError "corrupt snapshot journal header")
    else
      let payload := input.drop headerCodec.size
      let count := header.tokenCount.toNat
      if payload.length < 4 * count then .ok none
      else
        match acceptRecord identity state header (Codec.i32.decodeMany count payload) with
        | .error thrown => .error thrown
        | .ok next => .ok (some (next, payload.drop (4 * count)))

theorem load_record_shrinks {identity : SessionIdentityV1} {state next : Loaded}
    {input rest : List UInt8} (taken : loadRecord identity state input = .ok (some (next, rest))) :
    rest.length < input.length := by
  have header : 0 < headerCodec.size := by rw [header_codec_size]; decide
  unfold loadRecord at taken
  split at taken
  · simp at taken
  · next enough =>
      simp only at taken
      split at taken
      · simp at taken
      · split at taken
        · simp at taken
        · split at taken
          · simp at taken
          · simp only [Except.ok.injEq, Option.some.injEq, Prod.mk.injEq] at taken
            rw [← taken.2, List.length_drop, List.length_drop]
            omega

/-- The loop of `load` over the bytes of the file. -/
def journalReader (identity : SessionIdentityV1) : Reader Thrown Loaded UInt8 where
  read := loadRecord identity
  shrinks := load_record_shrinks

/-- The constructor of the journal on the bytes now in the file; a missing file
is an empty one. -/
def openJournal (path : String) (identity : SessionIdentityV1) (file : List UInt8) :
    Except Thrown SnapshotJournal :=
  if path.isEmpty ∨ validateSessionIdentity identity ≠ none then
    .error (.invalidArgument "invalid snapshot journal identity/path")
  else
    match (journalReader identity).readAll {} file with
    | .error thrown => .error thrown
    | .ok loaded =>
      let current := if loaded.current.header.sequence ≠ 0 then
          { loaded.current with header := { loaded.current.header with tokenStart := 0 } }
        else loaded.current
      .ok ⟨identity, file.take loaded.validBytes, current⟩

/-- `torn written what`: only `written` bytes reached the file, then the write
or its sync threw. -/
inductive Disk where
  | complete
  | torn (written : Nat) (what : String)

/-- The number of leading tokens two histories share. -/
def commonPrefix : List Token → List Token → Nat
  | left :: leftRest, right :: rightRest =>
      if left = right then commonPrefix leftRest rightRest + 1 else 0
  | _, _ => 0

/-- The header and suffix `append` writes for a snapshot. -/
def recordOf (journal : SnapshotJournal) (now : UInt64) (snapshot : StateSnapshotV1) :
    StateSnapshotHeaderV1 × List Token :=
  let tokens := snapshot.canonicalTokens
  let common := commonPrefix journal.current.canonicalTokens tokens
  let suffix := tokens.drop common
  let tokenCount := UInt64.ofNat (tokens.length - common)
  let header := { snapshot.header with
    identityChecksum := journal.identity.identityChecksum
    sequence := journal.current.header.sequence + 1
    timestampNs := now
    canonicalTokenCount := UInt64.ofNat tokens.length
    canonicalChecksum := canonicalTokenChecksum tokens
    tokenStart := UInt64.ofNat common
    tokenCount := tokenCount
    payloadBytes := tokenCount * 4 }
  ({ header with recordChecksum := recordChecksum header suffix }, suffix)

def recordBytes (record : StateSnapshotHeaderV1 × List Token) : List UInt8 :=
  headerCodec.encode record.1 ++ tokenBytes record.2

/-- The in-memory latest snapshot spans the whole history again. -/
def fullExtent (header : StateSnapshotHeaderV1) (tokens : List Token) : StateSnapshotHeaderV1 :=
  { header with
    tokenStart := 0
    tokenCount := UInt64.ofNat tokens.length
    payloadBytes := UInt64.ofNat tokens.length * 4 }

def append (now : UInt64) (disk : Disk) (snapshot : StateSnapshotV1) :
    Proc Thrown SnapshotJournal Unit := fun journal =>
  let record := recordOf journal now snapshot
  match validateStateSnapshot ⟨record.1, snapshot.canonicalTokens⟩ journal.identity with
  | some error =>
      Proc.throwing (.invalidArgument ("cannot append invalid snapshot: " ++ error)) journal
  | none =>
    match disk with
    | .torn written what =>
        Proc.throwing (.systemError what)
          { journal with file := journal.file ++ (recordBytes record).take written }
    | .complete =>
        (.ok (), { journal with
          file := journal.file ++ recordBytes record
          current := ⟨fullExtent record.1 snapshot.canonicalTokens, snapshot.canonicalTokens⟩ })

/-- `latest()`. -/
def latest (journal : SnapshotJournal) : Except Thrown StateSnapshotV1 :=
  if journal.current.header.sequence = 0 then
    .error (.runtimeError "snapshot journal is empty")
  else .ok journal.current

end Q38.Snapshot
