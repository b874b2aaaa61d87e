import Q38Runtime.SilentFailures

/-!
Speculation is an optimisation and nothing else: where the target is a function of the history,
a speculative step publishes what single decodes would have published one after the other, and
leaves the session they would have left. The drafts, and how many of them are accepted, only
decide how far one step gets.
-/
namespace Q38.SpeculativeDecoding
open Contracts Cancellation Backend Sampling Transaction Executor SessionModel StageContracts
  Pipeline Commitment TransactionRun SessionRefinement ExecutorRuns MockBackend FaultyStages
  MockContract ExecutorInvariant SilentFailures Imperative

section Model
variable {model other : StageModel} {options : ExecutorOptions} {select : Selection}
  {session : Session} {answer : List Token} {after : Session}

/-- The session behind single decodes that published `fresh`. -/
def decoded (session : Session) (fresh : List Token) : Session where
  tokens := session.tokens ++ fresh
  target := session.target + fresh.length
  sampler := fresh.foldl (fun sampler token => counted token sampler) session.sampler
  lastSample := fresh.getLastD session.lastSample
  haveLastSample := session.haveLastSample

/-- Single decodes, one after the other. -/
inductive Decodes (model : StageModel) (options : ExecutorOptions) (select : Selection) :
    Session → List Token → Session → Prop
  | none (session : Session) : Decodes model options select session [] session
  | one {session middle after : Session} {token : Token} {rest : List Token}
      (step : Happens model options select session .decodeOne [token] middle)
      (others : Decodes model options select middle rest after) :
      Decodes model options select session (token :: rest) after

/-- Every token is what the target predicts behind the ones before it. -/
def Predicted (model : StageModel) (tokens fresh : List Token) : Prop :=
  ∀ place (inside : place < fresh.length),
    model.predicts (tokens ++ fresh.take place) (fresh.get ⟨place, inside⟩)

/-- The logits stage 1 is asked for when they are kept for diagnostics. -/
def Logged (model : StageModel) (options : ExecutorOptions) : Prop :=
  options.retainLastLogitsForDiagnostics = true → ∀ history, ∃ words,
    model.logits history words ∧ words.length = options.vocabSize.toNat

variable (model other) in
/-- Models that differ in their drafts and in what they accept of them. -/
structure Predicts : Prop where
  fits : other.fits = model.fits
  predicts : other.predicts = model.predicts
  logits : other.logits = model.logits

theorem predicted_tail {tokens rest : List Token} {token : Token}
    (predicted : Predicted model tokens (token :: rest)) :
    Predicted model (tokens ++ [token]) rest := by
  intro place inside
  have next := predicted (place + 1) (Nat.succ_lt_succ inside)
  rw [List.take_succ_cons] at next
  rw [List.append_assoc, List.singleton_append]
  exact next

/-- The history behind the pending token is the whole of the tokens. -/
theorem history_pending (session : Session) : session.history ++ session.pending = session.tokens :=
  List.take_append_drop session.target session.tokens

theorem pending_one (one : session.tokens.length = session.target + 1) :
    session.pending.length = 1 := by
  rw [Session.pending, List.length_drop]
  omega

/-- What a greedy decode needs, and what it does. -/
theorem predicted_decodes (greedy : session.sampler.sampled = false)
    (one : session.tokens.length = session.target + 1)
    (room : session.tokens.length < options.contextLimit.toNat) (logged : Logged model options)
    (fits : model.fits 1) {token : Token} (predicted : model.predicts session.tokens token)
    (listed : inVocabulary options.vocabSize token = true) :
    Happens model options select session .decodeOne [token] (decoded session [token]) := by
  have single := pending_one one
  have whole := history_pending session
  obtain ⟨words, scored, size⟩ : ∃ words : List UInt16,
      (session.sampler.sampled = true ∨ options.retainLastLogitsForDiagnostics = true →
        model.logits session.tokens words) ∧
      (options.retainLastLogitsForDiagnostics = true →
        words.length = options.vocabSize.toNat) := by
    by_cases kept : options.retainLastLogitsForDiagnostics = true
    · obtain ⟨words, scored, size⟩ := logged kept session.tokens
      exact ⟨words, fun _ => scored, fun _ => size⟩
    · exact ⟨[], fun asked => (asked.elim (by simp [greedy]) kept).elim,
        fun asked => (kept asked).elim⟩
  have done : Transacted model options select session.sampler session.history
      (decodeAttempt session) session.pending 1 token none := by
    refine ⟨rfl, ?_⟩
    rw [← single]
    refine @Settles.plain _ _ _ _ _ _ _ { nextToken := token, logitsBf16 := words } _ _ nofun ?_
      ⟨?_, ?_⟩ ?_
    · rintro offset count ⟨inside, -, width⟩
      change offset < session.pending.length at inside
      change count = min 1 (session.pending.length - offset) at width
      have first : offset = 0 := by omega
      have narrow : count = 1 := by omega
      subst first narrow
      refine ⟨fits, fun _ => ⟨token, ?_, listed⟩⟩
      change model.predicts (session.history ++ session.pending.take 1) token
      rw [List.take_of_length_le single.le, whole]
      exact predicted
    · rw [whole]
      exact predicted
    · rw [whole]
      exact scored
    · have logits : ¬ (options.retainLastLogitsForDiagnostics = true ∧
          (decodeAttempt session).kind ≠ .speculative ∧
          words.length ≠ options.vocabSize.toNat) := fun wrong => wrong.2.2 (size wrong.1)
      simp only [resolveToken, sampleToken, greedy, Bool.false_eq_true, if_false]
      rw [if_neg logits]
  have admitted : Admits options session .decodeOne := ⟨one, room⟩
  have happens := Happens.transacted admitted rfl done
  have shape : session.extended (freshOf session.pending 1 token .decodeOne) 1 none token
      (session.haveLastSample || appends .decodeOne) = decoded session [token] := by
    simp [Session.extended, decoded, freshOf, appends, decidedSampler]
  rw [shape] at happens
  exact happens

/-- Predicted tokens are decoded one by one. -/
theorem all_decoded {fresh : List Token} (greedy : session.sampler.sampled = false)
    (one : session.tokens.length = session.target + 1)
    (room : session.tokens.length + fresh.length ≤ options.contextLimit.toNat)
    (logged : Logged model options) (fits : fresh ≠ [] → model.fits 1)
    (predicted : Predicted model session.tokens fresh)
    (listed : ∀ token ∈ fresh, inVocabulary options.vocabSize token = true) :
    Decodes model options select session fresh (decoded session fresh) := by
  induction fresh generalizing session with
  | nil =>
      have same : decoded session [] = session := by
        simp [decoded]
      rw [same]
      exact .none session
  | cons token rest ih =>
      rw [List.length_cons] at room
      have some_ : model.fits 1 := fits (List.cons_ne_nil _ _)
      have first : model.predicts session.tokens token := by
        simpa using predicted 0 (Nat.succ_pos _)
      have step : Happens model options select session .decodeOne [token]
          (decoded session [token]) :=
        predicted_decodes greedy one (by omega) logged some_ first (listed token List.mem_cons_self)
      have rest_ : Decodes model options select (decoded session [token]) rest
          (decoded (decoded session [token]) rest) := by
        apply ih
        · exact greedy
        · simp only [decoded, List.length_append, List.length_singleton]
          omega
        · simp only [decoded, List.length_append, List.length_singleton]
          omega
        · exact fun _ => some_
        · exact predicted_tail predicted
        · exact fun other member => listed other (List.mem_cons_of_mem _ member)
      have joined : decoded (decoded session [token]) rest = decoded session (token :: rest) := by
        simp only [decoded, List.append_assoc, List.singleton_append, List.length_cons,
          List.foldl_cons, List.foldl_nil, List.getLastD_cons,
          List.getLastD_nil, List.length_nil]
        congr 1
        omega
      rw [joined] at rest_
      exact .one step rest_

variable (model options session) in
/-- What a greedy speculation publishes. -/
structure Foretold (width : Nat) (answer : List Token) (after : Session) : Prop where
  one : session.tokens.length = session.target + 1
  some_ : answer ≠ []
  width : answer.length ≤ width + 1
  room : session.tokens.length + answer.length ≤ options.contextLimit.toNat
  fits : model.fits 1
  predicted : Predicted model session.tokens answer
  stops : ∀ token ∈ answer.dropLast, isStop options token = false
  after : after = decoded session answer

/-- The rows of a verdict, as the tokens they publish. -/
theorem verdict_foretold {width count : Nat} {next pending : Token} {drafts : List Token}
    (only : session.pending = [pending]) (one : session.tokens.length = session.target + 1)
    (drafted : drafts.length = width)
    (room : session.tokens.length + width < options.contextLimit.toNat)
    (verdict : Verdict model options
      ⟨session.history, pending :: drafts, 1, true⟩ count next) :
    Foretold model options session width (drafts.take (count - 1) ++ [next])
      (session.extended (drafts.take (count - 1) ++ [next]) count none next
        (session.haveLastSample || false)) := by
  obtain ⟨positive, within, reached, predicted, ended⟩ := verdict
  rw [List.length_cons] at within
  have kept : (drafts.take (count - 1)).length = count - 1 := by
    rw [List.length_take]
    omega
  have length : (drafts.take (count - 1) ++ [next]).length = count := by
    rw [List.length_append, kept, List.length_singleton]
    omega
  have whole : session.history ++ [pending] = session.tokens := by
    rw [← only]
    exact history_pending session
  have behind (rows : Nat) : (⟨session.history, pending :: drafts, 1, true⟩ : Round).historyAt
      (rows + 1) = session.tokens ++ drafts.take rows := by
    rw [Round.historyAt, List.take_succ_cons, ← whole, List.append_assoc, List.singleton_append]
  have first : (⟨session.history, pending :: drafts, 1, true⟩ : Round).Span 0 1 :=
    ⟨Nat.succ_pos _, Nat.zero_mod _, by simp⟩
  constructor
  · exact one
  · simp
  · omega
  · omega
  · cases ended with
    | complete reached seen accepted => exact (seen 0 1 first).1
    | early cut seen dropped => exact (seen 0 1 first positive).1
  · intro place inside
    rw [length] at inside
    by_cases last : place = count - 1
    · have cut : (drafts.take (count - 1) ++ [next]).take place = drafts.take (count - 1) := by
        rw [last, List.take_left' kept]
      have chosen : (drafts.take (count - 1) ++ [next]).get ⟨place, by omega⟩ = next := by
        simp [last, kept]
      rw [cut, chosen, ← behind, Nat.sub_add_cancel positive]
      exact predicted
    · have before : place < count - 1 := by omega
      have cut : (drafts.take (count - 1) ++ [next]).take place = drafts.take place := by
        rw [List.take_append_of_le_length (by omega), List.take_take, min_eq_left before.le]
      have chosen : (drafts.take (count - 1) ++ [next]).get ⟨place, by omega⟩ =
          (pending :: drafts).getD (place + 1) 0 := by
        have inside : place < drafts.length := by omega
        simp [before, inside]
      rw [cut, chosen, ← behind]
      exact (reached (place + 1) (Nat.succ_pos _) (by omega)).1
  · intro token member
    rw [List.dropLast_concat] at member
    obtain ⟨place, inside, rfl⟩ := List.getElem_of_mem member
    rw [kept] at inside
    have open_ := (reached (place + 1) (Nat.succ_pos _) (by omega)).2
    have drafted_ : (pending :: drafts).getD (place + 1) 0 = (drafts.take (count - 1))[place] := by
      have inside : place < drafts.length := by omega
      simp [inside]
    rw [← drafted_]
    exact open_
  · simp only [Session.extended, decoded, length, decidedSampler, Bool.or_false,
      List.getLastD_concat]

/-- Whatever is drafted, and however many drafts the target accepts. -/
theorem speculation_foretold (greedy : session.sampler.sampled = false) {width : Nat}
    (happens : Happens model options select session (.speculativeStep width) answer after) :
    Foretold model options session width answer after := by
  cases happens with
  | @transacted _ attempt rows count next decision admitted asked done =>
      obtain ⟨narrow, one, room⟩ := admitted
      have single := pending_one one
      obtain ⟨pending, only⟩ := List.length_eq_one_iff.mp single
      obtain ⟨candidate, settles⟩ := done
      simp only [attemptOf] at asked
      split at asked
      · -- no drafts: a decode under another name
        cases asked
        change rows = session.pending at candidate
        subst candidate
        cases settles with
        | @plain out _ _ kind seen answered resolved =>
            simp only [resolveToken, sampleToken, greedy, Bool.false_eq_true, if_false] at resolved
            split at resolved
            · cases resolved
            cases resolved
            have fresh : freshOf session.pending session.pending.length out.nextToken
                (.speculativeStep width) = [out.nextToken] := by
              change (session.pending.drop 1).take (session.pending.length - 1) ++ [_] = _
              rw [single, Nat.sub_self, List.take_zero, List.nil_append]
            have predicted := answered.predicted
            rw [history_pending] at predicted
            rw [fresh]
            constructor
            · exact one
            · exact List.cons_ne_nil _ _
            · simp [answerOf]
            · exact room
            · refine (seen 0 1 ⟨?_, Nat.zero_mod _, ?_⟩).1
              · change 0 < session.pending.length
                omega
              · change 1 = min 1 (session.pending.length - 0)
                omega
            · intro place inside
              have first : place = 0 := by
                simpa [answerOf] using inside
              subst first
              simpa [answerOf] using predicted
            · simp [answerOf]
            · simp [Session.extended, decoded, answerOf, appends, decidedSampler, single]
        | speculative kind => cases kind
      · next wide =>
          cases asked
          obtain ⟨drafts, -, installed, rfl⟩ := candidate
          simp only [installable, Bool.and_eq_true, beq_iff_eq] at installed
          have bounded : draftWidth options session width ≤ width ∧
              session.tokens.length + draftWidth options session width <
                options.contextLimit.toNat := by
            rw [draftWidth, if_neg (by simp [greedy])]
            omega
          have rows : (speculativeAttempt session
              (draftWidth options session width)).evalTokens.take 1 ++ drafts =
                pending :: drafts := by
            simp [speculativeAttempt, only]
          rw [rows] at settles ⊢
          cases settles with
          | plain kind => exact (kind rfl).elim
          | speculative kind greedy_ verdict =>
              have foretold := verdict_foretold only one installed.1 bounded.2 verdict
              have fresh : answerOf (freshOf (pending :: drafts) count next
                  (.speculativeStep width)) (.speculativeStep width) =
                    drafts.take (count - 1) ++ [next] := rfl
              rw [fresh]
              exact { foretold with width := foretold.width.trans (by omega) }

end Model

section Runs
variable {σ₀ σ₁ τ₀ τ₁ : Type} {model other : StageModel} {setup : Setup σ₀ σ₁}
  {smooth : Setup τ₀ τ₁} {contract : PairContract model setup} {calm : PairContract other smooth}

/-- Decodes the model allows are performed where nothing fails. -/
theorem decodes_performed (deterministic : other.Deterministic) (untroubled : Untroubled calm)
    (built : Built smooth.options) {session after : Session} {fresh : List Token}
    (decodes : Decodes other smooth.options smooth.select session fresh after)
    {mirror : World τ₀ τ₁} (same : sessionOf mirror.coordinator = session)
    (settled : Settled calm mirror) (healthy : mirror.coordinator.poisoned = false)
    (epochs : mirror.coordinator.engine.frontiers.epoch + fresh.length ≤ maxUInt64) :
    ∃ last, performAll smooth (fresh.map fun _ => (.decodeOne, none)) mirror =
        (fresh.map fun token => (.decodeOne, [token]), last) ∧
      sessionOf last.coordinator = after := by
  induction decodes generalizing mirror with
  | none session => exact ⟨mirror, rfl, same⟩
  | one step others ih =>
      rw [List.length_cons] at epochs
      subst same
      obtain ⟨next, performed, session, done⟩ := happening_performed deterministic untroubled built
        settled healthy step fun _ => by omega
      have epoch := returned_epoch done performed
      rw [if_neg nofun, if_neg nofun] at epoch
      obtain ⟨last, rest, ends_⟩ := ih session done.settled done.healthy (by omega)
      refine ⟨last, ?_, ends_⟩
      rw [List.map_cons, perform_all_returned performed, rest]
      rfl

/-- A speculative step at any point of any run publishes what single decodes publish from the
same session, with any drafts and any rule for accepting them. -/
theorem speculation_decodes {options : ExecutorOptions} {first second : Stage}
    {start world after : World σ₀ σ₁} {mirror : World τ₀ τ₁}
    {cancellation : Option CancellationToken} {width : Nat} {answer : List Token}
    (contract : PairContract model setup) (calm : PairContract other smooth)
    (alike : Alike setup smooth) (predicts : Predicts model other)
    (deterministic : other.Deterministic) (untroubled : Untroubled calm)
    (logged : Logged model setup.options)
    (made : makeExecutor options first second = .ok (setup.options, start.coordinator))
    (begins : Settled contract start) (reached : Reaches setup start world)
    (healthy : world.coordinator.poisoned = false)
    (greedy : world.coordinator.sampler.sampled = false)
    (run : perform setup (.speculativeStep width) cancellation world = (.ok answer, after))
    (same : sessionOf mirror.coordinator = sessionOf world.coordinator)
    (settled : Settled calm mirror) (sound : mirror.coordinator.poisoned = false)
    (epochs : mirror.coordinator.engine.frontiers.epoch + answer.length ≤ maxUInt64) :
    answer ≠ [] ∧ answer.length ≤ width + 1 ∧
      (∀ token ∈ answer.dropLast, isStop setup.options token = false) ∧
      ∃ last, performAll smooth (answer.map fun _ => (.decodeOne, none)) mirror =
          (answer.map fun token => (.decodeOne, [token]), last) ∧
        sessionOf last.coordinator = sessionOf after.coordinator := by
  have built := (make_executor_constructed made).built
  have standing := reaches_standing built begins reached
  have ended := perform_ends built (standing.resolve_left (by simp [healthy])) healthy
    (.speculativeStep width) cancellation
  rw [Ends, run] at ended
  have performed : Performed contract (.speculativeStep width) (given world cancellation) answer
    after := ended
  have foretold := speculation_foretold greedy performed.happens
  have listed : ∀ token ∈ answer, inVocabulary setup.options.vocabSize token = true := by
    intro token member
    apply performed.settled.consistent.tokens
    have tokens : after.coordinator.tokens = world.coordinator.tokens ++ answer :=
      congrArg Session.tokens foretold.after
    rw [tokens]
    exact List.mem_append_right _ member
  have logged_ : Logged other setup.options := by
    intro kept history
    rw [predicts.logits]
    exact logged kept history
  have predicted : Predicted other (sessionOf world.coordinator).tokens answer := by
    intro place inside
    rw [predicts.predicts]
    exact foretold.predicted place inside
  have decodes : Decodes other smooth.options smooth.select (sessionOf world.coordinator) answer
      (sessionOf after.coordinator) := by
    rw [alike.options, foretold.after]
    exact all_decoded greedy foretold.one foretold.room logged_
      (fun _ => predicts.fits ▸ foretold.fits) predicted listed
  exact ⟨foretold.some_, foretold.width, foretold.stops,
    decodes_performed deterministic untroubled (alike.options ▸ built) decodes same settled sound
      epochs⟩

abbrev greedyMocks : Setup (Faulty MockState) (Faulty MockState) :=
  calmMocks greedyCompleted (fun _ _ _ => .ok 0) ⟨.stage0, 1, 4⟩ ⟨.stage1, 1, 4⟩

/-- An executor over mocks with a pending token. -/
def pendingWorld : World (Faulty MockState) (Faulty MockState) :=
  (perform greedyMocks .seedDecode none
    (perform greedyMocks (.append [1]) none (freshWorld greedyStart)).2).2

theorem pending_reached : Reaches greedyMocks (freshWorld greedyStart) pendingWorld :=
  .perform (.perform .start _ _) _ _

theorem pending_speculates :
    (perform greedyMocks (.speculativeStep 3) none pendingWorld).1 = .ok [0, 3] ∧
      pendingWorld.coordinator.poisoned = false ∧
      pendingWorld.coordinator.sampler.sampled = false ∧
      pendingWorld.coordinator.engine.frontiers.epoch + ([0, 3] : List Token).length ≤
        maxUInt64 := by
  decide +kernel

def speculatedWorld : World (Faulty MockState) (Faulty MockState) :=
  (perform greedyMocks (.speculativeStep 3) none pendingWorld).2

theorem pending_speculated :
    perform greedyMocks (.speculativeStep 3) none pendingWorld = (.ok [0, 3], speculatedWorld) := by
  rw [speculatedWorld, ← pending_speculates.1, Prod.mk.eta]

/-- A speculation of up to three drafts publishes what two decodes publish. -/
theorem speculation_decodes_mocks : ∃ last,
    performAll greedyMocks [(.decodeOne, none), (.decodeOne, none)] pendingWorld =
        ([(.decodeOne, [0]), (.decodeOne, [3])], last) ∧
      sessionOf last.coordinator = sessionOf speculatedWorld.coordinator := by
  obtain ⟨-, healthy, greedy, epochs⟩ := pending_speculates
  have begins := @fresh_settled ⟨.stage0, 1, 4⟩ ⟨.stage1, 1, 4⟩ _ _ _ (fun _ _ _ => .ok 0)
    (fun _ => {}) (fun _ => none) (fun _ => none) made_greedy rfl rfl
  have built := (make_executor_constructed made_greedy).built
  have settled := (reaches_standing built begins pending_reached).resolve_left (by simp [healthy])
  have untroubled := @calm_untroubled ⟨.stage0, 1, 4⟩ ⟨.stage1, 1, 4⟩ greedyCompleted
    (fun _ _ _ => .ok 0) rfl rfl rfl
  have decodes := @speculation_decodes _ _ _ _ _ _ greedyMocks greedyMocks _ .stage0 .stage1
    (freshWorld greedyStart) pendingWorld speculatedWorld pendingWorld none 3 [0, 3] _ _ ⟨rfl, rfl⟩
    ⟨rfl, rfl, rfl⟩ (mock_deterministic _ _ _) untroubled (fun kept => by cases kept) made_greedy
    begins pending_reached healthy greedy pending_speculated rfl settled healthy epochs
  simpa only [List.map_cons, List.map_nil] using decodes.2.2.2

end Runs

end Q38.SpeculativeDecoding
