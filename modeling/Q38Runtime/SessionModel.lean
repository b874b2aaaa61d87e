import Q38Runtime.Executor

/-! What a session does, told without stages, epochs, threads or failures: the
operations as relations between a session before and a session after, over a
model of what the stages compute. Where the model is deterministic an operation
has at most one result, and a session that has one does not decline it. -/
namespace Q38.SessionModel
open Contracts Backend Sampling Executor

/-- What the stages compute: the chunk lengths stage 0 has a boundary for, the
token behind an evaluated history, the logits behind it, how many rows of a
speculation the target accepts, and what is drafted behind a pending token. -/
structure StageModel where
  fits : Nat → Prop
  predicts : List Token → Token → Prop
  logits : List Token → List UInt16 → Prop
  accepts : List Token → List Token → Nat → Prop
  drafts : Token → Nat → Nat → List Token → Prop

/-- The rows of a transaction as both stages evaluate them, chunk by chunk. -/
structure Round where
  history : List Token
  evalTokens : List Token
  chunkTokens : Nat
  retained : Bool

namespace Round
variable (round : Round)

/-- The evaluated history behind the first `count` rows. -/
def historyAt (count : Nat) : List Token := round.history ++ round.evalTokens.take count

/-- `offset` and `count` are those of one chunk. -/
def Span (offset count : Nat) : Prop :=
  offset < round.evalTokens.length ∧ offset % round.chunkTokens = 0 ∧
    count = min round.chunkTokens (round.evalTokens.length - offset)

end Round

namespace StageModel
variable (model : StageModel)

/-- Drafts the target predicts one after the other are all accepted. -/
def Exact : Prop :=
  ∀ {history rows count}, model.accepts history rows count → rows ≠ [] →
    (∀ index, 0 < index → index < rows.length →
      model.predicts (history ++ rows.take index) (rows.getD index 0)) → count = rows.length

structure Deterministic : Prop where
  predicts : ∀ {history left right},
    model.predicts history left → model.predicts history right → left = right
  logits : ∀ {history left right},
    model.logits history left → model.logits history right → left = right
  accepts : ∀ {history rows left right},
    model.accepts history rows left → model.accepts history rows right → left = right
  drafts : ∀ {pending position width left right},
    model.drafts pending position width left → model.drafts pending position width right →
      left = right
  exact : model.Exact

end StageModel

section Rounds
variable (model : StageModel) (options : ExecutorOptions) (round : Round)

/-- The drafts before row `count` were all accepted, and none is a stop. -/
def Reached (count : Nat) : Prop :=
  ∀ index, 0 < index → index < count →
    model.predicts (round.historyAt index) (round.evalTokens.getD index 0) ∧
      isStop options (round.evalTokens.getD index 0) = false

/-- The chunk passed the checks of the coordinator. -/
def Seen (offset count : Nat) : Prop :=
  model.fits count ∧ (model.Exact → ∃ token,
    model.predicts (round.historyAt (offset + count)) token ∧
      inVocabulary options.vocabSize token = true)

/-- The coordinator refuses the answer of a stage to some chunk. -/
def Refused : Prop :=
  ∃ offset count, round.Span offset count ∧ (¬ model.fits count ∨
    ((round.retained = true → Reached model options round (offset + count)) ∧ ∃ token,
      model.predicts (round.historyAt (offset + count)) token ∧
        inVocabulary options.vocabSize token = false))

/-- How a speculation ends: with its last row, or at a draft it does not keep. -/
inductive Ended (count : Nat) (next : Token) : Prop
  | complete (reached : Reached model options round round.evalTokens.length)
      (seen : ∀ offset count, round.Span offset count → Seen model options round offset count)
      (accepted : model.accepts round.history round.evalTokens count)
  | early (cut : count < round.evalTokens.length)
      (seen : ∀ offset width, round.Span offset width → offset < count →
        Seen model options round offset width)
      (dropped : next ≠ round.evalTokens.getD count 0 ∨
        isStop options (round.evalTokens.getD count 0) = true)

/-- `count` rows of a speculation stand, and `next` is the token behind them. -/
structure Verdict (count : Nat) (next : Token) : Prop where
  positive : 0 < count
  within : count ≤ round.evalTokens.length
  reached : Reached model options round count
  predicted : model.predicts (round.historyAt count) next
  ended : Ended model options round count next

end Rounds

/-- The arguments of `run_transaction`. -/
structure Attempt where
  kind : TxnKind
  evalTokens : List Token
  chunkTokens : Nat
  appendedCount : Nat := 0
  retainedDraft : Option RetainedDraftRequest := none

section Attempts
variable (model : StageModel) (options : ExecutorOptions) (select : Selection)
  (sampler : TransactionalSampler) (history : List Token) (attempt : Attempt)

/-- The answer of a draft the coordinator installs. -/
def installable (request : RetainedDraftRequest) (drafts : List Token) : Bool :=
  drafts.length == request.maxDraft && drafts.all (inVocabulary options.vocabSize)

/-- The rows that are evaluated: those of the caller, or the pending token and
what is drafted behind it. -/
def Candidate (rows : List Token) : Prop :=
  match attempt.retainedDraft with
  | none => rows = attempt.evalTokens
  | some request => ∃ drafts,
      model.drafts request.pendingToken request.position request.maxDraft drafts ∧
        installable options request drafts = true ∧ rows = attempt.evalTokens.take 1 ++ drafts

/-- The coordinator refuses what is drafted. -/
def Undraftable : Prop :=
  ∃ request drafts, attempt.retainedDraft = some request ∧
    model.drafts request.pendingToken request.position request.maxDraft drafts ∧
      installable options request drafts = false

def Attempt.round (rows : List Token) : Round :=
  ⟨history, rows, attempt.chunkTokens, attempt.retainedDraft.isSome⟩

/-- What stage 1 answers to the last chunk of a transaction that does not
speculate; the logits are its own when it was asked for them. -/
structure Answer (rows : List Token) (out : StageOutput) : Prop where
  predicted : model.predicts (history ++ rows) out.nextToken
  scored : sampler.sampled = true ∨ options.retainLastLogitsForDiagnostics = true →
    model.logits (history ++ rows) out.logitsBf16

/-- `count` of the rows are committed, `next` becomes the sample behind them. -/
inductive Settles (rows : List Token) :
    (count : Nat) → (next : Token) → Option SamplerDecisionV1 → Prop
  | plain {out next decision} (kind : attempt.kind ≠ .speculative)
      (seen : ∀ offset count, (attempt.round history rows).Span offset count →
        Seen model options (attempt.round history rows) offset count)
      (answer : Answer model options sampler history rows out)
      (resolved : resolveToken options select sampler attempt.kind rows out = .ok (next, decision)) :
      Settles rows rows.length next decision
  | speculative {count next} (kind : attempt.kind = .speculative)
      (greedy : sampler.sampled = false)
      (verdict : Verdict model options (attempt.round history rows) count next) :
      Settles rows count next none

structure Transacted (rows : List Token) (count : Nat) (next : Token)
    (decision : Option SamplerDecisionV1) : Prop where
  candidate : Candidate model options attempt rows
  settles : Settles model options select sampler history attempt rows count next decision

/-- No token can be made of an answer of stage 1. -/
def Unresolved (rows : List Token) : Prop :=
  ∃ out thrown, (attempt.kind ≠ .speculative → Answer model options sampler history rows out) ∧
    resolveToken options select sampler attempt.kind rows out = .error thrown

/-- The transaction has no result although no stage fails. -/
def Declined : Prop :=
  Undraftable model options attempt ∨ ∃ rows, Candidate model options attempt rows ∧
    (Refused model options (attempt.round history rows) ∨
      Unresolved model options select sampler history attempt rows)

end Attempts

section Deterministic
variable {model : StageModel} {options : ExecutorOptions} {select : Selection}
  {sampler : TransactionalSampler} {history : List Token} {attempt : Attempt} {round : Round}

theorem candidate_unique (deterministic : model.Deterministic) {left right : List Token}
    (first : Candidate model options attempt left)
    (second : Candidate model options attempt right) : left = right := by
  unfold Candidate at first second
  cases request : attempt.retainedDraft with
  | none =>
      rw [request] at first second
      exact first.trans second.symm
  | some request =>
      simp only [request] at first second
      obtain ⟨one, drafted, -, rfl⟩ := first
      obtain ⟨two, again, -, rfl⟩ := second
      rw [deterministic.drafts drafted again]

/-- The draft a speculation was cut at is not among those it reached. -/
theorem dropped_not_reached (deterministic : model.Deterministic) {count further : Nat}
    {next : Token} (positive : 0 < count) (predicted : model.predicts (round.historyAt count) next)
    (dropped : next ≠ round.evalTokens.getD count 0 ∨
      isStop options (round.evalTokens.getD count 0) = true)
    (reached : Reached model options round further) : further ≤ count := by
  by_contra beyond
  obtain ⟨same, open_⟩ := reached count positive (Nat.lt_of_not_le beyond)
  rcases dropped with other | stop
  · exact other (deterministic.predicts predicted same)
  · rw [open_] at stop
    contradiction

theorem verdict_count (deterministic : model.Deterministic) {left right : Nat}
    {first second : Token} (one : Verdict model options round left first)
    (two : Verdict model options round right second) : left = right := by
  have bounded {count other : Nat} {token another : Token}
      (here : Verdict model options round count token)
      (there : Verdict model options round other another) : count ≤ other := by
    cases there.ended with
    | early cut seen dropped =>
        exact dropped_not_reached deterministic there.positive there.predicted dropped here.reached
    | complete reached seen accepted =>
        cases here.ended with
        | early cut seen' dropped =>
            have := dropped_not_reached deterministic here.positive here.predicted dropped reached
            omega
        | complete reached' seen' accepted' =>
            exact (deterministic.accepts accepted' accepted).le
  exact Nat.le_antisymm (bounded one two) (bounded two one)

theorem verdict_unique (deterministic : model.Deterministic) {left right : Nat}
    {first second : Token} (one : Verdict model options round left first)
    (two : Verdict model options round right second) : left = right ∧ first = second := by
  have same := verdict_count deterministic one two
  subst same
  exact ⟨rfl, deterministic.predicts one.predicted two.predicted⟩

/-- Only the token and the logits of an answer are looked at. -/
theorem resolve_token_answer (kind : TxnKind) (rows : List Token) {left right : StageOutput}
    (token : left.nextToken = right.nextToken)
    (logits : sampler.sampled = true ∨ options.retainLastLogitsForDiagnostics = true →
      left.logitsBf16 = right.logitsBf16) :
    resolveToken options select sampler kind rows left =
      resolveToken options select sampler kind rows right := by
  by_cases asked : sampler.sampled = true ∨ options.retainLastLogitsForDiagnostics = true
  · simp only [resolveToken, sampleToken, token, logits asked]
  · simp only [not_or] at asked
    simp [resolveToken, sampleToken, token, asked.1, asked.2]

theorem answer_unique (deterministic : model.Deterministic) {rows : List Token}
    {left right : StageOutput} (one : Answer model options sampler history rows left)
    (two : Answer model options sampler history rows right) :
    resolveToken options select sampler attempt.kind rows left =
      resolveToken options select sampler attempt.kind rows right :=
  resolve_token_answer attempt.kind rows (deterministic.predicts one.predicted two.predicted)
    fun asked => deterministic.logits (one.scored asked) (two.scored asked)

theorem settles_unique (deterministic : model.Deterministic) {rows : List Token}
    {left right : Nat} {first second : Token} {decision other : Option SamplerDecisionV1}
    (one : Settles model options select sampler history attempt rows left first decision)
    (two : Settles model options select sampler history attempt rows right second other) :
    left = right ∧ first = second ∧ decision = other := by
  cases one with
  | plain kind seen answer resolved =>
      cases two with
      | plain kind' seen' answer' resolved' =>
          rw [answer_unique deterministic answer answer', resolved'] at resolved
          injection resolved with same
          injection same with token chosen
          exact ⟨rfl, token.symm, chosen.symm⟩
      | speculative speculates => exact (kind speculates).elim
  | speculative speculates greedy verdict =>
      cases two with
      | plain kind => exact (kind speculates).elim
      | speculative kind greedy' verdict' =>
          obtain ⟨count, token⟩ := verdict_unique deterministic verdict verdict'
          exact ⟨count, token, rfl⟩

theorem seen_not_refused (deterministic : model.Deterministic) {offset count : Nat}
    (seen : Seen model options round offset count) :
    ¬ (¬ model.fits count ∨ ∃ token,
      model.predicts (round.historyAt (offset + count)) token ∧
        inVocabulary options.vocabSize token = false) := by
  obtain ⟨fits, known⟩ := seen
  rintro (misfit | ⟨token, predicted, unlisted⟩)
  · exact misfit fits
  · obtain ⟨other, predicted', listed⟩ := known deterministic.exact
    rw [deterministic.predicts predicted predicted', listed] at unlisted
    contradiction

/-- A round whose chunks were all seen is not refused. -/
theorem all_seen_accepted (deterministic : model.Deterministic)
    (seen : ∀ offset count, round.Span offset count → Seen model options round offset count) :
    ¬ Refused model options round := by
  rintro ⟨offset, count, span, refused⟩
  exact seen_not_refused deterministic (seen offset count span) (refused.imp_right And.right)

theorem verdict_accepted (deterministic : model.Deterministic)
    (single : round.retained = true ∧ round.chunkTokens = 1) {count : Nat} {next : Token}
    (verdict : Verdict model options round count next) : ¬ Refused model options round := by
  cases verdict.ended with
  | complete reached seen accepted => exact all_seen_accepted deterministic seen
  | early cut seen dropped =>
      rintro ⟨offset, width, span, refused⟩
      obtain ⟨inside, aligned, size⟩ := span
      have one : width = 1 := by omega
      subst one
      have first : round.Span 0 1 :=
        ⟨by omega, Nat.zero_mod _, by omega⟩
      rcases refused with misfit | ⟨reached, unlisted⟩
      · exact misfit (seen 0 1 first verdict.positive).1
      · have within := dropped_not_reached deterministic verdict.positive verdict.predicted dropped
          (reached single.1)
        exact seen_not_refused deterministic (seen offset 1 ⟨inside, aligned, size⟩ (by omega))
          (Or.inr unlisted)

/-- A transaction with a result is not declined. -/
theorem transacted_not_declined (deterministic : model.Deterministic) {rows : List Token}
    {count : Nat} {next : Token} {decision : Option SamplerDecisionV1}
    (single : attempt.kind = .speculative →
      attempt.retainedDraft.isSome = true ∧ attempt.chunkTokens = 1)
    (done : Transacted model options select sampler history attempt rows count next decision) :
    ¬ Declined model options select sampler history attempt := by
  rintro (⟨request, drafts, asked, drafted, refused⟩ | ⟨others, candidate, refused⟩)
  · have candidate := done.candidate
    simp only [Candidate, asked] at candidate
    obtain ⟨other, drafted', installed, -⟩ := candidate
    rw [deterministic.drafts drafted' drafted, refused] at installed
    contradiction
  · have same := candidate_unique deterministic candidate done.candidate
    subst same
    cases done.settles with
    | plain kind seen answer resolved =>
        rcases refused with refused | ⟨out, thrown, answered, failed⟩
        · exact all_seen_accepted deterministic seen refused
        · rw [answer_unique deterministic (answered kind) answer, resolved] at failed
          contradiction
    | speculative kind greedy verdict =>
        rcases refused with refused | ⟨out, thrown, -, failed⟩
        · exact verdict_accepted deterministic (single kind) verdict refused
        · simp [resolveToken, sampleToken, greedy, kind] at failed

end Deterministic

/-- A session between two operations. -/
structure Session where
  tokens : List Token
  target : Nat
  sampler : TransactionalSampler
  lastSample : Token
  haveLastSample : Bool

namespace Session
variable (session : Session)

/-- What both stages have committed. -/
def history : List Token := session.tokens.take session.target

def pending : List Token := session.tokens.drop session.target

/-- The session with `fresh` published, `count` rows committed and a new sample. -/
def extended (fresh : List Token) (count : Nat) (decision : Option SamplerDecisionV1)
    (next : Token) (haveLastSample : Bool) : Session where
  tokens := session.tokens ++ fresh
  target := session.target + count
  sampler := fresh.foldl (fun sampler token => counted token sampler)
    (decidedSampler decision session.sampler)
  lastSample := next
  haveLastSample := haveLastSample

/-- The last sample becomes the pending token. -/
def seeded : Session :=
  { session with
    tokens := session.tokens ++ [session.lastSample]
    sampler := counted session.lastSample session.sampler }

def emptied : Session where
  tokens := []
  target := 0
  sampler := Sampling.reset session.sampler
  lastSample := -1
  haveLastSample := false

end Session

section Operations
variable (model : StageModel) (options : ExecutorOptions) (select : Selection) (session : Session)

/-- What an operation checks before it turns to the stages. -/
def Admits : Operation → Prop
  | .append tokenIds => tokenIds ≠ [] ∧ tokenIds.all (inVocabulary options.vocabSize) = true ∧
      session.tokens.length + tokenIds.length ≤ options.contextLimit.toNat
  | .seedDecode => session.haveLastSample = true ∧
      session.tokens.length < options.contextLimit.toNat ∧ session.tokens.length = session.target
  | .decodeOne => session.tokens.length = session.target + 1 ∧
      session.tokens.length < options.contextLimit.toNat
  | .speculativeStep maxDraft => maxDraft ≤ kMaximumMtpDraftWidth ∧
      session.tokens.length = session.target + 1 ∧
      session.tokens.length < options.contextLimit.toNat
  | .resetSession => True

/-- The width a speculation is left with: none for a sampling session, and never
more than the context has room for. -/
def draftWidth (maxDraft : Nat) : Nat :=
  if session.sampler.sampled = true then 0
  else min maxDraft (options.contextLimit.toNat - session.tokens.length - 1)

def decodeAttempt : Attempt where
  kind := .decode
  evalTokens := session.pending
  chunkTokens := 1

def speculativeAttempt (width : Nat) : Attempt where
  kind := .speculative
  evalTokens := session.pending ++ List.replicate width 0
  chunkTokens := 1
  retainedDraft := some ⟨session.tokens.getD session.target 0, session.target, width⟩

def appendAttempt (tokenIds : List Token) : Attempt where
  kind := .appendKnown
  evalTokens := session.pending ++ tokenIds
  chunkTokens := options.appendChunkTokens.toNat
  appendedCount := tokenIds.length

/-- The transaction an operation runs, if it runs one. -/
def attemptOf : Operation → Option Attempt
  | .append tokenIds => some (appendAttempt options session tokenIds)
  | .decodeOne => some (decodeAttempt session)
  | .speculativeStep maxDraft =>
      if draftWidth options session maxDraft = 0 then some (decodeAttempt session)
      else some (speculativeAttempt session (draftWidth options session maxDraft))
  | .seedDecode | .resetSession => none

/-- The tokens a transaction adds to the canonical ones. -/
def freshOf (rows : List Token) (count : Nat) (next : Token) : Operation → List Token
  | .append tokenIds => tokenIds
  | _ => (rows.drop 1).take (count - 1) ++ [next]

/-- What the caller is told of them. -/
def answerOf (fresh : List Token) : Operation → List Token
  | .append _ => []
  | _ => fresh

/-- Only an append makes a sample out of nothing. -/
def appends : Operation → Bool
  | .append _ => true
  | _ => false

/-- The session an operation leaves, and what it answers. -/
inductive Happens : Operation → List Token → Session → Prop
  | transacted {operation attempt rows count next decision}
      (admitted : Admits options session operation)
      (asked : attemptOf options session operation = some attempt)
      (done : Transacted model options select session.sampler session.history attempt rows count
        next decision) :
      Happens operation (answerOf (freshOf rows count next operation) operation)
        (session.extended (freshOf rows count next operation) count decision next
          (session.haveLastSample || appends operation))
  | seedDecode (admitted : Admits options session .seedDecode) :
      Happens .seedDecode [session.lastSample] session.seeded
  | resetSession : Happens .resetSession [] session.emptied

/-- The operation has no result although no stage fails. -/
def Declines (operation : Operation) : Prop :=
  ¬ Admits options session operation ∨ ∃ attempt,
    attemptOf options session operation = some attempt ∧
      Declined model options select session.sampler session.history attempt

variable {model options select session}

theorem attempt_single {operation : Operation} {attempt : Attempt}
    (asked : attemptOf options session operation = some attempt)
    (kind : attempt.kind = .speculative) :
    attempt.retainedDraft.isSome = true ∧ attempt.chunkTokens = 1 := by
  cases operation with
  | append tokenIds =>
      cases asked
      cases kind
  | decodeOne =>
      cases asked
      cases kind
  | speculativeStep maxDraft =>
      simp only [attemptOf] at asked
      split at asked
      · cases asked
        cases kind
      · cases asked
        exact ⟨rfl, rfl⟩
  | seedDecode => cases asked
  | resetSession => cases asked

/-- Over a deterministic model an operation has one result. -/
theorem happens_unique (deterministic : model.Deterministic) {operation : Operation}
    {left right : List Token} {first second : Session}
    (one : Happens model options select session operation left first)
    (two : Happens model options select session operation right second) :
    left = right ∧ first = second := by
  cases one with
  | transacted admitted asked done =>
      cases two with
      | transacted admitted' asked' done' =>
          rw [asked] at asked'
          cases asked'
          have rows := candidate_unique deterministic done.candidate done'.candidate
          subst rows
          obtain ⟨rfl, rfl, rfl⟩ := settles_unique deterministic done.settles done'.settles
          exact ⟨rfl, rfl⟩
      | seedDecode => cases asked
      | resetSession => cases asked
  | seedDecode =>
      cases two with
      | transacted _ asked => cases asked
      | seedDecode => exact ⟨rfl, rfl⟩
  | resetSession =>
      cases two with
      | transacted _ asked => cases asked
      | resetSession => exact ⟨rfl, rfl⟩

theorem happens_not_declines (deterministic : model.Deterministic) {operation : Operation}
    {answer : List Token} {after : Session}
    (happens : Happens model options select session operation answer after) :
    ¬ Declines model options select session operation := by
  cases happens with
  | transacted admitted asked done =>
      rintro (refused | ⟨attempt, asked', declined⟩)
      · exact refused admitted
      · rw [asked] at asked'
        cases asked'
        exact transacted_not_declined deterministic (attempt_single asked) done declined
  | seedDecode admitted =>
      rintro (refused | ⟨attempt, asked, -⟩)
      · exact refused admitted
      · cases asked
  | resetSession =>
      rintro (refused | ⟨attempt, asked, -⟩)
      · exact refused trivial
      · cases asked

end Operations

end Q38.SessionModel
