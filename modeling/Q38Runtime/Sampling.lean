import Q38Runtime.Contracts

/-! `TransactionalSampler` of `sampling.cc`. Floating-point fields are kept as
their IEEE-754 words; the choice among penalised candidates, which is floating
point throughout, is the parameter `select` of `prepare`. What it is given,
the logits with their penalty counts and the advanced generator, and what
becomes of its answer are modelled. -/
namespace Q38.Sampling
open Contracts Imperative

inductive SamplingModeV1 where
  | greedy
  | topKTopP
  | unlisted (value : UInt16)
  deriving DecidableEq, Repr

def floatOne : UInt32 := 0x3f800000

/-- `padding` is the word the compiler leaves before `seed`. -/
structure SamplingConfigV1 where
  mode : SamplingModeV1 := .greedy
  version : UInt16 := 1
  topK : UInt32 := 0
  topP : UInt32 := floatOne
  temperature : UInt32 := floatOne
  repetitionPenalty : UInt32 := floatOne
  frequencyPenalty : UInt32 := 0
  presencePenalty : UInt32 := 0
  padding : UInt32 := 0
  seed : UInt64 := 1
  deriving DecidableEq, Repr

def kSamplerStateMagic : UInt32 := fourcc 'Q' '3' '8' 'S'

structure SamplerStateV1 where
  magic : UInt32 := kSamplerStateMagic
  version : UInt16 := kContractVersion
  headerBytes : UInt16 := 40
  rngState : UInt64 := 1
  sampledTokens : UInt64 := 0
  canonicalTokens : UInt64 := 0
  penaltyChecksum : UInt64 := 0
  deriving DecidableEq, Repr

structure SamplerDecisionV1 where
  token : Token := -1
  rngBefore : UInt64 := 0
  rngAfter : UInt64 := 0
  deriving DecidableEq, Repr

structure TransactionalSampler where
  vocabulary : UInt32
  config : SamplingConfigV1
  state : SamplerStateV1
  counts : List UInt32
  deriving DecidableEq, Repr

def splitmix64 (state : UInt64) : UInt64 := mix64 state

def nextState (state : UInt64) : UInt64 := state + 0x9e3779b97f4a7c15

/-- `std::isfinite`: the exponent is not all ones. -/
def isFinite (word : UInt32) : Bool := (word >>> 23) &&& 0xff != 0xff

/-- `value > 0.0f` for a word that is not a NaN. -/
def isPositive (word : UInt32) : Bool := word >>> 31 == 0 && word != 0

/-- The token test shared by the executor and the sampler:
`token >= 0 && static_cast<std::uint32_t>(token) < vocabulary`. -/
def inVocabulary (vocabulary : UInt32) (token : Token) : Bool :=
  !(token < 0) && token.toUInt32 < vocabulary

def invalidParameters (vocabulary : UInt32) (config : SamplingConfigV1) : Bool :=
  !isFinite config.temperature || !isPositive config.temperature ||
    !isFinite config.topP || !isPositive config.topP || config.topP > floatOne ||
    config.topK > vocabulary ||
    !isFinite config.repetitionPenalty || !isPositive config.repetitionPenalty ||
    config.repetitionPenalty < floatOne ||
    !isFinite config.frequencyPenalty || !isFinite config.presencePenalty

def makeSampler (vocabulary : UInt32) (config : SamplingConfigV1) :
    Except Thrown TransactionalSampler :=
  if vocabulary = 0 ∨ config.version ≠ 1 then
    .error (.invalidArgument "invalid sampler dimensions/version")
  else if config.mode ≠ .greedy ∧ config.mode ≠ .topKTopP then
    .error (.invalidArgument "unsupported sampling mode")
  else if invalidParameters vocabulary config then
    .error (.invalidArgument "invalid sampling parameters")
  else .ok {
    vocabulary := vocabulary
    config := config
    state := { rngState := config.seed }
    counts := List.replicate vocabulary.toNat 0 }

def TransactionalSampler.sampled (sampler : TransactionalSampler) : Bool :=
  sampler.config.mode != .greedy

/-- The floating-point part of `prepare`: from each logit with its penalty
count, in vocabulary order, and the advanced generator, a token or a failure. -/
abbrev Selection := SamplingConfigV1 → List (UInt16 × UInt64) → UInt64 → Except Thrown Token

/-- The count a logit is penalised with: 32-bit sums widened afterwards. -/
def penaltyCounts (sampler : TransactionalSampler) (additional : List Token) : List UInt64 :=
  sampler.counts.zipIdx.map fun (count, token) =>
    (count + UInt32.ofNat (additional.count (Int32.ofNat token))).toUInt64

def TransactionalSampler.prepare (sampler : TransactionalSampler) (select : Selection)
    (logits : List UInt16) (additional : List Token) : Except Thrown SamplerDecisionV1 :=
  if !sampler.sampled then .error (.logicError "greedy sampler does not consume RNG")
  else if logits.length ≠ sampler.vocabulary.toNat then
    .error (.invalidArgument "sampler logits size differs from vocabulary")
  else if !additional.all (inVocabulary sampler.vocabulary) then
    .error (.invalidArgument "penalty token is outside vocabulary")
  else
    let after := nextState sampler.state.rngState
    match select sampler.config (logits.zip (penaltyCounts sampler additional)) after with
    | .error thrown => .error thrown
    | .ok token => .ok ⟨token, sampler.state.rngState, after⟩

abbrev SamplerCall := Proc Thrown TransactionalSampler Unit

def commit (decision : SamplerDecisionV1) : SamplerCall := fun sampler =>
  if !sampler.sampled ∨ !inVocabulary sampler.vocabulary decision.token ∨
      decision.rngBefore ≠ sampler.state.rngState ∨
      decision.rngAfter ≠ nextState decision.rngBefore then
    Proc.throwing (.logicError "sampler decision does not match committed state") sampler
  else
    (.ok (), { sampler with state := { sampler.state with
      rngState := decision.rngAfter
      sampledTokens := sampler.state.sampledTokens + 1 } })

/-- The sampler after the decision of a transaction was committed. -/
def decidedSampler (decision : Option SamplerDecisionV1) (sampler : TransactionalSampler) :
    TransactionalSampler :=
  match decision with
  | none => sampler
  | some decision => { sampler with state := { sampler.state with
      rngState := decision.rngAfter, sampledTokens := sampler.state.sampledTokens + 1 } }

/-- The state after one more canonical token. -/
def counted (token : Token) (sampler : TransactionalSampler) : TransactionalSampler :=
  let canonicalTokens := sampler.state.canonicalTokens + 1
  { sampler with
    counts := sampler.counts.modify token.toUInt32.toNat (· + 1)
    state := { sampler.state with
      canonicalTokens := canonicalTokens
      penaltyChecksum := sampler.state.penaltyChecksum ^^^
        splitmix64 (token.toUInt32.toUInt64 ^^^ (canonicalTokens * 0x9e3779b97f4a7c15)) } }

def commitToken (token : Token) : SamplerCall := fun sampler =>
  if !inVocabulary sampler.vocabulary token then
    Proc.throwing (.invalidArgument "committed penalty token is invalid") sampler
  else (.ok (), counted token sampler)

def commitTokens : List Token → SamplerCall
  | [] => pure ()
  | token :: rest => do
      commitToken token
      commitTokens rest

def reset (sampler : TransactionalSampler) : TransactionalSampler :=
  { sampler with
    state := { rngState := sampler.config.seed }
    counts := sampler.counts.map fun _ => 0 }

/-- A decision is made in the present state of a sampling sampler. -/
theorem prepare_decides {sampler : TransactionalSampler} {select : Selection}
    {logits : List UInt16} {additional : List Token} {decision : SamplerDecisionV1}
    (prepared : sampler.prepare select logits additional = .ok decision) :
    sampler.sampled = true ∧ decision.rngBefore = sampler.state.rngState ∧
      decision.rngAfter = nextState decision.rngBefore := by
  unfold TransactionalSampler.prepare at prepared
  by_cases greedy : (!sampler.sampled) = true
  · simp only [greedy, if_true] at prepared
    cases prepared
  by_cases size : logits.length = sampler.vocabulary.toNat
  swap
  · simp [greedy, size] at prepared
  by_cases listed : (!additional.all (inVocabulary sampler.vocabulary)) = true
  · simp only [greedy, size, listed, ne_eq, not_true_eq_false, if_false, if_true] at prepared
    cases prepared
  simp only [greedy, size, listed, ne_eq, not_true_eq_false, if_false] at prepared
  generalize select _ _ _ = chosen at prepared
  cases chosen with
  | error thrown => cases prepared
  | ok token =>
      cases prepared
      exact ⟨by simpa using greedy, rfl, rfl⟩

theorem commit_token_valid {token : Token} {sampler : TransactionalSampler}
    (valid : inVocabulary sampler.vocabulary token = true) :
    commitToken token sampler = (.ok (), counted token sampler) := by
  simp [commitToken, valid]

/-- Tokens that were checked against the vocabulary are all counted. -/
theorem commit_tokens_valid {tokens : List Token} {sampler : TransactionalSampler}
    (valid : ∀ token ∈ tokens, inVocabulary sampler.vocabulary token = true) :
    commitTokens tokens sampler = (.ok (), tokens.foldl (fun state token => counted token state) sampler) := by
  induction tokens generalizing sampler with
  | nil => rfl
  | cons token rest ih =>
      have head := commit_token_valid (valid token List.mem_cons_self)
      have tail : commitTokens rest (counted token sampler) = (.ok (), rest.foldl
          (fun state token => counted token state) (counted token sampler)) :=
        ih fun other member => valid other (List.mem_cons_of_mem token member)
      change Proc.bind (commitToken token) (fun _ => commitTokens rest) sampler = _
      simp only [Proc.bind, head, tail, List.foldl_cons]

theorem counted_canonical_tokens (tokens : List Token) (sampler : TransactionalSampler) :
    (tokens.foldl (fun state token => counted token state) sampler).state.canonicalTokens =
      sampler.state.canonicalTokens + UInt64.ofNat tokens.length := by
  induction tokens generalizing sampler with
  | nil => simp
  | cons token rest ih =>
      rw [List.foldl_cons, ih, List.length_cons, UInt64.ofNat_add]
      simp only [counted]
      rw [UInt64.add_assoc, UInt64.add_comm 1]
      rfl

theorem counted_fixed (tokens : List Token) (sampler : TransactionalSampler) :
    let after := tokens.foldl (fun state token => counted token state) sampler
    after.vocabulary = sampler.vocabulary ∧ after.config = sampler.config ∧
      after.state.magic = sampler.state.magic := by
  induction tokens generalizing sampler with
  | nil => exact ⟨rfl, rfl, rfl⟩
  | cons token rest ih => exact ih (counted token sampler)

end Q38.Sampling
