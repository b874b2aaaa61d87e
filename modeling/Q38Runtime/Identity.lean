import Q38Runtime.FixedCodec
import Q38Runtime.Sampling

/-! Session identities of `identity.cc`: the 288-byte record, its FNV-1a
checksum and its validation. -/
namespace Q38.Identity
open Contracts Sampling FixedCodec

/-- `hash_bytes`: FNV-1a over a byte range, continuing from `value`. -/
def hashBytes (value : UInt64) (input : List UInt8) : UInt64 :=
  input.foldl (fun hash byte => (hash ^^^ byte.toUInt64) * 1099511628211) value

def fnvOffset : UInt64 := 1469598103934665603

abbrev Digest256V1 := Vector UInt8 32

def zeroDigest : Digest256V1 := Vector.replicate 32 0

def kSessionIdentityMagic : UInt32 := fourcc 'Q' '3' '8' 'I'
def kSessionIdentityDevelopment : UInt32 := 1

structure SessionIdentityV1 where
  magic : UInt32 := kSessionIdentityMagic
  version : UInt16 := kContractVersion
  headerBytes : UInt16 := 288
  sessionHash : UInt64 := 0
  modelCheckpoint : Digest256V1 := zeroDigest
  tokenizer : Digest256V1 := zeroDigest
  chatTemplate : Digest256V1 := zeroDigest
  runtime : Digest256V1 := zeroDigest
  kernels : Digest256V1 := zeroDigest
  pleLayout : Digest256V1 := zeroDigest
  stagePlan : Digest256V1 := zeroDigest
  samplingParser : Digest256V1 := zeroDigest
  contextLimit : UInt32 := 0
  flags : UInt32 := 0
  identityChecksum : UInt64 := 0
  deriving DecidableEq

def digestCodec : Codec Digest256V1 := Codec.bytes 32

/-- The packed record: the struct has no padding. -/
def identityCodec : Codec SessionIdentityV1 :=
  (Codec.u32.pair <| Codec.u16.pair <| Codec.u16.pair <| Codec.u64.pair <|
    digestCodec.pair <| digestCodec.pair <| digestCodec.pair <| digestCodec.pair <|
    digestCodec.pair <| digestCodec.pair <| digestCodec.pair <| digestCodec.pair <|
    Codec.u32.pair <| Codec.u32.pair Codec.u64).record
  (fun identity => (identity.magic, identity.version, identity.headerBytes,
    identity.sessionHash, identity.modelCheckpoint, identity.tokenizer, identity.chatTemplate,
    identity.runtime, identity.kernels, identity.pleLayout, identity.stagePlan,
    identity.samplingParser, identity.contextLimit, identity.flags, identity.identityChecksum))
  (fun (magic, version, headerBytes, sessionHash, modelCheckpoint, tokenizer, chatTemplate,
      runtime, kernels, pleLayout, stagePlan, samplingParser, contextLimit, flags,
      identityChecksum) =>
    ⟨magic, version, headerBytes, sessionHash, modelCheckpoint, tokenizer, chatTemplate,
      runtime, kernels, pleLayout, stagePlan, samplingParser, contextLimit, flags,
      identityChecksum⟩)
  (fun _ => rfl)

example : identityCodec.size = 288 := rfl

def sessionIdentityChecksum (identity : SessionIdentityV1) : UInt64 :=
  hashBytes fnvOffset (identityCodec.encode { identity with identityChecksum := 0 })

def hasZeroDigest (identity : SessionIdentityV1) : Bool :=
  [identity.modelCheckpoint, identity.tokenizer, identity.chatTemplate, identity.runtime,
    identity.kernels, identity.pleLayout, identity.stagePlan, identity.samplingParser].any
    (· == zeroDigest)

def validateSessionIdentity (identity : SessionIdentityV1) : Option String :=
  if identity.magic ≠ kSessionIdentityMagic ∨ identity.version ≠ kContractVersion ∨
      identity.headerBytes ≠ 288 then
    some "invalid session identity header"
  else if identity.sessionHash = 0 ∨ identity.contextLimit = 0 then
    some "session identity has zero session/context"
  else if identity.flags &&& ~~~kSessionIdentityDevelopment ≠ 0 then
    some "session identity flags are invalid"
  else if identity.identityChecksum ≠ sessionIdentityChecksum identity then
    some "session identity checksum differs"
  else if identity.flags &&& kSessionIdentityDevelopment = 0 ∧ hasZeroDigest identity then
    some "production session identity contains a zero digest"
  else none

def modeCode : SamplingModeV1 → UInt16
  | .greedy => 0
  | .topKTopP => 1
  | .unlisted value => value

/-- The 40 bytes of the sampling configuration, padding included. -/
def samplingConfigBytes (config : SamplingConfigV1) : List UInt8 :=
  Codec.u16.encode (modeCode config.mode) ++ Codec.u16.encode config.version ++
    Codec.u32.encodeAll [config.topK, config.topP, config.temperature,
      config.repetitionPenalty, config.frequencyPenalty, config.presencePenalty,
      config.padding] ++
    Codec.u64.encode config.seed

def stamped (identity : SessionIdentityV1) : SessionIdentityV1 :=
  { identity with identityChecksum := sessionIdentityChecksum identity }

def makeDevelopmentIdentity (sessionHash : UInt64) (contextLimit : UInt32)
    (sampling : SamplingConfigV1) : SessionIdentityV1 :=
  let samplingHash := hashBytes fnvOffset (samplingConfigBytes sampling)
  stamped {
    sessionHash := sessionHash
    contextLimit := contextLimit
    flags := kSessionIdentityDevelopment
    samplingParser := digestCodec.decode (Codec.u64.encode samplingHash) }

/-- The checksum does not read its own field, so a stamped record matches it. -/
theorem stamped_checksum (identity : SessionIdentityV1) :
    sessionIdentityChecksum (stamped identity) = (stamped identity).identityChecksum := by
  have cleared : { stamped identity with identityChecksum := 0 } =
      { identity with identityChecksum := 0 } := rfl
  unfold sessionIdentityChecksum
  rw [cleared]
  simp only [stamped, sessionIdentityChecksum]

theorem development_identity_valid (sessionHash : UInt64) (contextLimit : UInt32)
    (sampling : SamplingConfigV1) (session : sessionHash ≠ 0) (context : contextLimit ≠ 0) :
    validateSessionIdentity (makeDevelopmentIdentity sessionHash contextLimit sampling) = none := by
  unfold validateSessionIdentity makeDevelopmentIdentity
  rw [stamped_checksum]
  rw [if_neg (by simp [stamped]), if_neg (by simp [stamped, session, context]),
    if_neg (by simp [stamped]), if_neg (not_not_intro rfl),
    if_neg (by simp [stamped, kSessionIdentityDevelopment])]

end Q38.Identity
