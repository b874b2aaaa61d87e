import Q38Runtime.Imperative

/-! The records and checks of `contracts.h` and `contracts.cc`. Sixty-four and
thirty-two bit counters are naturals; every place where the source tests for
overflow tests for it here. Words that are only mixed or compared keep their
fixed-width type. -/
namespace Q38.Contracts

/-- A vocabulary token, `std::int32_t` in the source. -/
abbrev Token := Int32

def maxUInt64 : Nat := 2 ^ 64 - 1

/-- What a call of the runtime can throw, by the class a handler tells apart.
`ExecutionDeadlineExceeded` and `ExecutionCancelled` have fixed texts. -/
inductive Thrown where
  | executionDeadlineExceeded
  | executionCancelled
  | lengthError (what : String)
  | invalidArgument (what : String)
  | outOfRange (what : String)
  | logicError (what : String)
  | overflowError (what : String)
  | systemError (what : String)
  | runtimeError (what : String)
  | unknown
  deriving DecidableEq, Repr

/-- `static_cast<std::uint32_t>` of a 64-bit count. -/
def toUInt32 (count : Nat) : Nat := count % 2 ^ 32

def fourcc (a b c d : Char) : UInt32 :=
  UInt32.ofNat a.toNat ||| (UInt32.ofNat b.toNat <<< 8) |||
    (UInt32.ofNat c.toNat <<< 16) ||| (UInt32.ofNat d.toNat <<< 24)

def kContractVersion : UInt16 := 1
def kBoundaryMagic : UInt32 := fourcc 'Q' '3' '8' 'B'
def kTxnMagic : UInt32 := fourcc 'Q' '3' '8' 'T'

inductive DType where
  | invalid
  | bfloat16
  | float32
  | float16
  | int8
  | fp8E4M3
  deriving DecidableEq, Repr

inductive ProducerStatus where
  | empty
  | ready
  | failed
  deriving DecidableEq, Repr

/-- `unlisted` stands for the values of the underlying integer that name no
enumerator; the switches of the source have no case for them. -/
inductive TxnKind where
  | invalid
  | appendKnown
  | decode
  | speculative
  | unlisted (value : UInt16)
  deriving DecidableEq, Repr

inductive TxnStatus where
  | empty
  | prepared
  | decided
  | committed
  | rolledBack
  deriving DecidableEq, Repr

inductive Stage where
  | stage0
  | stage1
  | unlisted (value : UInt8)
  deriving DecidableEq, Repr

/-- The byte `static_cast<std::uint8_t>(stage)`. -/
def Stage.code : Stage → UInt8
  | .stage0 => 0
  | .stage1 => 1
  | .unlisted value => value

structure StageBoundaryFrameV1 where
  magic : UInt32 := kBoundaryMagic
  version : UInt16 := kContractVersion
  headerBytes : UInt16 := 64
  sessionHash : UInt64 := 0
  epoch : Nat := 0
  tokenStart : Nat := 0
  tokenCount : Nat := 0
  hiddenDtype : DType := .invalid
  producerStatus : ProducerStatus := .empty
  hiddenWidth : Nat := 0
  ringSlot : Nat := 0
  payloadBytes : Nat := 0
  payloadChecksum : UInt64 := 0
  deriving DecidableEq, Repr

/-- The coordinator counts with naturals, the journal and the wire store the
same record in 64-bit words. -/
structure SessionFrontiersV1 (Word : Type) where
  canonical : Word
  target : Word
  stage0 : Word
  stage1 : Word
  draft : Word
  epoch : Word
  deriving DecidableEq, Repr

structure SessionTxnV1 where
  magic : UInt32 := kTxnMagic
  version : UInt16 := kContractVersion
  headerBytes : UInt16 := 56
  sessionHash : UInt64 := 0
  epoch : Nat := 0
  baseTarget : Nat := 0
  evaluatedCount : Nat := 0
  kind : TxnKind := .invalid
  status : TxnStatus := .empty
  stateCommitCount : Nat := 0
  publishCount : Nat := 0
  baseCanonical : Nat := 0
  deriving DecidableEq, Repr

def dtypeBytes : DType → Nat
  | .bfloat16 | .float16 => 2
  | .float32 => 4
  | .int8 | .fp8E4M3 => 1
  | .invalid => 0

def mix64 (input : UInt64) : UInt64 :=
  let value := input ^^^ (input >>> 30)
  let value := value * 0xbf58476d1ce4e5b9
  let value := value ^^^ (value >>> 27)
  let value := value * 0x94d049bb133111eb
  value ^^^ (value >>> 31)

def checksumWords (checksum : UInt64) : Nat → List UInt16 → UInt64
  | _, [] => checksum
  | index, word :: rest =>
      let tagged := (word.toUInt64 <<< 48) ^^^ UInt64.ofNat index ^^^ 0x9e3779b97f4a7c15
      checksumWords (checksum ^^^ mix64 tagged) (index + 1) rest

def boundaryPayloadChecksum (words : List UInt16) : UInt64 :=
  checksumWords (mix64 (UInt64.ofNat words.length ^^^ 0x713338424f554e44)) 0 words

/-- `none` is acceptance, `some` carries the message of the refusal. -/
def validateBoundary (frame : StageBoundaryFrameV1) (maxTokens : Nat) : Option String :=
  if frame.magic ≠ kBoundaryMagic then some "bad boundary magic"
  else if frame.version ≠ kContractVersion then some "unsupported boundary version"
  else if frame.headerBytes ≠ 64 then some "boundary header size mismatch"
  else if frame.producerStatus ≠ .ready then some "boundary is not ready"
  else if frame.tokenCount = 0 ∨ frame.tokenCount > maxTokens then
    some "boundary token count is outside the lane limit"
  else if frame.hiddenWidth = 0 then some "zero boundary width"
  else if dtypeBytes frame.hiddenDtype = 0 then some "unsupported boundary dtype"
  else if frame.hiddenWidth > maxUInt64 / frame.tokenCount ∨
      frame.hiddenWidth * frame.tokenCount > maxUInt64 / dtypeBytes frame.hiddenDtype then
    some "boundary payload size overflows"
  else if frame.payloadBytes ≠
      frame.hiddenWidth * frame.tokenCount * dtypeBytes frame.hiddenDtype then
    some "boundary payload byte count mismatch"
  else none

section Frontiers
variable {Word : Type} [DecidableEq Word] [LT Word] [DecidableLT Word]

def validateFrontiers (frontiers : SessionFrontiersV1 Word) : Option String :=
  if frontiers.stage0 ≠ frontiers.target ∨ frontiers.stage1 ≠ frontiers.target then
    some "stage and target frontiers diverged"
  else if frontiers.target > frontiers.canonical then
    some "target frontier exceeds canonical frontier"
  else if frontiers.draft > frontiers.canonical then
    some "draft frontier exceeds canonical frontier"
  else none

theorem validate_frontiers_iff (frontiers : SessionFrontiersV1 Word) :
    validateFrontiers frontiers = none ↔
      frontiers.stage0 = frontiers.target ∧ frontiers.stage1 = frontiers.target ∧
        ¬ frontiers.target > frontiers.canonical ∧
        ¬ frontiers.draft > frontiers.canonical := by
  unfold validateFrontiers
  by_cases zero : frontiers.stage0 = frontiers.target <;>
    by_cases one : frontiers.stage1 = frontiers.target <;>
    by_cases target : frontiers.target > frontiers.canonical <;>
    by_cases draft : frontiers.draft > frontiers.canonical <;>
    simp [zero, one, target, draft]

end Frontiers

/-- The frontiers of a session that has seen nothing yet. -/
def SessionFrontiersV1.fresh : SessionFrontiersV1 Nat := ⟨0, 0, 0, 0, 0, 0⟩

/-- The record as the journal and the wire hold it. -/
def SessionFrontiersV1.toWords (frontiers : SessionFrontiersV1 Nat) :
    SessionFrontiersV1 UInt64 where
  canonical := UInt64.ofNat frontiers.canonical
  target := UInt64.ofNat frontiers.target
  stage0 := UInt64.ofNat frontiers.stage0
  stage1 := UInt64.ofNat frontiers.stage1
  draft := UInt64.ofNat frontiers.draft
  epoch := UInt64.ofNat frontiers.epoch

theorem of_nat_gt_iff {left right : Nat} (leftFits : left < 2 ^ 64) (rightFits : right < 2 ^ 64) :
    UInt64.ofNat left > UInt64.ofNat right ↔ left > right := by
  rw [gt_iff_lt, UInt64.lt_iff_toNat_lt, UInt64.toNat_ofNat_of_lt' leftFits,
    UInt64.toNat_ofNat_of_lt' rightFits]

/-- Storing frontiers in 64-bit words keeps them valid, since every field is
bounded by the canonical frontier. -/
theorem words_valid (frontiers : SessionFrontiersV1 Nat)
    (fits : frontiers.canonical < 2 ^ 64) (valid : validateFrontiers frontiers = none) :
    validateFrontiers frontiers.toWords = none := by
  obtain ⟨zero, one, target, draft⟩ := (validate_frontiers_iff frontiers).mp valid
  have targetFits : frontiers.target < 2 ^ 64 := by omega
  have draftFits : frontiers.draft < 2 ^ 64 := by omega
  refine (validate_frontiers_iff _).mpr ⟨?_, ?_, ?_, ?_⟩
  · simp [SessionFrontiersV1.toWords, zero]
  · simp [SessionFrontiersV1.toWords, one]
  · exact fun more => target ((of_nat_gt_iff targetFits fits).mp more)
  · exact fun more => draft ((of_nat_gt_iff draftFits fits).mp more)

end Q38.Contracts
