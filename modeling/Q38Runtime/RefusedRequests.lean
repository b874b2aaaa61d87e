import Q38Runtime.GenerationRuns
import Q38Runtime.SidecarRequests

/-! What a request leaves behind when it is refused for its own parameters. The checks
of the generation come after the session was synchronised with the history, and in a
chat the limits are resolved after the session was created or replaced. -/
namespace Q38.RefusedRequests
open Contracts Executor ExecutorRpc ControlPlane SidecarRequests GenerationRuns Imperative

/-- The codes of the checks of mode, width, limits, budget, prompt, tools and messages. -/
def parameterCodes : List String :=
  ["tokenizer_unavailable", "invalid_tools", "invalid_tool_choice", "invalid_messages",
    "invalid_reasoning", "invalid_tokens", "invalid_max_tokens", "invalid_generation_mode",
    "mtp_disabled", "context_length_exceeded", "empty_prompt"]

def ofParameters : Raised → Prop
  | .controlPlane error => error.code ∈ parameterCodes
  | .transport => False

def RefusesParameters : SidecarError → Prop
  | .control raised => ofParameters raised
  | .value | .template => True

section Control
variable {σ₀ σ₁ α : Type} {plane : Plane σ₀ σ₁} {world after : ControlWorld σ₀ σ₁}
  {record : SessionRecord}

/-- The session and the executor are where they were. -/
structure Untouched (world after : ControlWorld σ₀ σ₁) : Prop where
  session : after.session = world.session
  service : after.service = world.service

theorem untouched_refl (world : ControlWorld σ₀ σ₁) : Untouched world world := ⟨rfl, rfl⟩

theorem Untouched.trans {middle : ControlWorld σ₀ σ₁} (first : Untouched world middle)
    (second : Untouched middle after) : Untouched world after :=
  ⟨second.session.trans first.session, second.service.trans first.service⟩

/-- A call that never raises for a parameter, and returns with the session as it was. -/
def Quiet (call : ControlCall σ₀ σ₁ α) (world : ControlWorld σ₀ σ₁) : Prop :=
  Ends call (fun _ after => after.session = world.session)
    (fun raised _ => ¬ ofParameters raised) world

theorem call_quiet (opcode : ExecutorRpcOpcodeV1) (tokens : List Int)
    (argument0 argument1 timeoutMs : Nat) :
    Quiet (call plane opcode tokens argument0 argument1 timeoutMs) world := by
  unfold Quiet Ends call
  dsimp only
  split
  · exact id
  · split
    · exact id
    · exact id
    · exact rfl

theorem executor_code_not_parameter (status : ExecutorRpcStatusV1) :
    "executor_" ++ statusName status ∉ parameterCodes := by
  cases status <;> decide

theorem require_ok_quiet (response : ExecutorRpcResponseV1) (operation : String) :
    Quiet (requireOk response operation : ControlCall σ₀ σ₁ ExecutorRpcResponseV1) world := by
  unfold Quiet requireOk
  simp only [ends_bind, ends_ensure, ends_pure]
  exact ⟨fun _ => trivial, fun _ => executor_code_not_parameter _⟩

theorem verify_quiet (response : ExecutorRpcResponseV1) (expected : Nat) :
    Quiet (verifyExecutorFrontiers response expected : ControlCall σ₀ σ₁ Unit) world := by
  have divergence : "frontier_divergence" ∉ parameterCodes := by decide
  unfold Quiet verifyExecutorFrontiers
  simp only [ends_bind, ends_ensure]
  exact ⟨fun _ => ⟨fun _ => trivial, fun _ => divergence⟩, fun _ => divergence⟩

theorem Quiet.bind {β : Type} {first : ControlCall σ₀ σ₁ α} {next : α → ControlCall σ₀ σ₁ β}
    {returns : β → ControlWorld σ₀ σ₁ → Prop} (quiet : Quiet first world)
    (rest : ∀ value middle, middle.session = world.session →
      Ends (next value) returns (fun raised _ => ¬ ofParameters raised) middle) :
    Ends (first >>= next) returns (fun raised _ => ¬ ofParameters raised) world :=
  Ends.chain quiet rest

theorem reset_executor_quiet (timeoutMs : Nat) : Quiet (resetExecutor plane timeoutMs) world := by
  have divergence : "reset_divergence" ∉ parameterCodes := by decide
  unfold Quiet resetExecutor
  apply (call_quiet .reset [] 0 0 timeoutMs).bind
  intro response first same
  apply (require_ok_quiet response "reset").bind
  intro response second same'
  unfold verifyResetFrontiers
  rw [ends_ensure]
  exact ⟨fun _ => same'.trans same, fun _ => divergence⟩

theorem read_state_quiet : Quiet (readState plane) world := by
  unfold readState
  apply (call_quiet .state [] 0 0 0).bind
  intro response first same
  apply (require_ok_quiet response "state").weaken
  · exact fun _ _ same' => same'.trans same
  · exact fun _ _ quiet => quiet

/-- Only the budget refuses an append for a parameter, and then nothing was sent. -/
theorem append_locked_left (tokens : List Int) (timeoutMs : Nat) :
    Ends (appendLocked plane record tokens timeoutMs)
      (fun grown after => (tokens = [] → grown = record ∧ after = world) ∧
        (tokens ≠ [] → grown = extended record tokens ∧ after.session = some grown))
      (fun raised after => ofParameters raised → after = world ∧
        plane.contextLimit < record.canonicalTokens.length + tokens.length) world := by
  have unlisted : "invalid_token" ∉ parameterCodes := by decide
  unfold appendLocked validateTokens
  rw [ends_bind, ends_ensure]
  refine ⟨fun _ => ?_, fun _ refused => (unlisted refused).elim⟩
  rw [ends_ite]
  constructor
  · intro none_
    exact ⟨fun _ => ⟨rfl, rfl⟩, fun some_ => (some_ none_).elim⟩
  · intro some_
    unfold requireBudget
    rw [ends_bind, ends_ensure]
    refine ⟨fun _ => ?_, fun beyond _ => ⟨rfl, Nat.lt_of_not_le beyond⟩⟩
    have sent : Ends (do
          let response ← call plane .append tokens 0 0 timeoutMs
          let response ← requireOk response "append"
          verifyExecutorFrontiers response (record.canonicalTokens.length + tokens.length)
          storeRecord (extended record tokens)
          pure (extended record tokens))
        (fun grown after => grown = extended record tokens ∧ after.session = some grown)
        (fun raised _ => ¬ ofParameters raised) world := by
      apply (call_quiet .append tokens 0 0 timeoutMs).bind
      intro response first _
      apply (require_ok_quiet response "append").bind
      intro response second _
      apply (verify_quiet response _).bind
      intro _ third _
      exact ⟨rfl, rfl⟩
    apply sent.weaken
    · exact fun grown after facts => ⟨fun none_ => (some_ none_).elim, fun _ => facts⟩
    · exact fun raised after quiet refused => (quiet refused).elim

/-- The record holds the history already, and shows no rebuild that an append would
clear. -/
def Held (record : SessionRecord) (history : List Int) : Prop :=
  history = record.canonicalTokens ∧ (record.coldRebuild = true → record.canonicalTokens = [])

theorem matched_record_left (session : world.session = some record) (history : List Int)
    (timeoutMs : Nat) :
    Ends (matchedRecord plane record history timeoutMs)
      (fun kept after => after.session = some kept ∧ kept.sessionId = record.sessionId ∧
        (matching record history → kept = record ∧ after = world) ∧
        (¬ matching record history → kept.canonicalTokens = [] ∧
          kept.revision = record.revision + 1))
      (fun raised _ => ¬ ofParameters raised) world := by
  unfold matchedRecord
  rw [ends_ite]
  constructor
  · intro matches_
    exact ⟨session, rfl, fun _ => ⟨rfl, rfl⟩, fun other => (other matches_).elim⟩
  · intro other
    unfold resetRecordLocked
    apply (reset_executor_quiet timeoutMs).bind
    intro _ middle _
    exact ⟨rfl, rfl, fun matches_ => (other matches_).elim, fun _ => ⟨rfl, rfl⟩⟩

theorem matching_suffix {history : List Int} (matches_ : matching record history) :
    record.canonicalTokens ++ history.drop record.canonicalTokens.length = history := by
  have taken := matches_.2
  conv_rhs => rw [← List.take_append_drop record.canonicalTokens.length history, taken]

theorem matching_own (record : SessionRecord) : matching record record.canonicalTokens :=
  ⟨le_rfl, List.take_length⟩

theorem append_full_history_left (session : world.session = some record) (history : List Int)
    (timeoutMs : Nat) :
    Ends (appendFullHistoryLocked plane record history timeoutMs)
      (fun marked after => marked.canonicalTokens = history ∧
        marked.sessionId = record.sessionId ∧ after.session = some marked ∧
        (Held record history → Untouched world after) ∧
        (¬ Held record history → marked ≠ record))
      (fun raised after => ofParameters raised →
        after = world ∧ plane.contextLimit < history.length) world := by
  have unlisted : "invalid_token" ∉ parameterCodes := by decide
  unfold appendFullHistoryLocked validateTokens
  rw [ends_bind, ends_ensure]
  refine ⟨fun _ => ?_, fun _ refused => (unlisted refused).elim⟩
  rw [ends_bind, ends_ensure]
  refine ⟨fun short => ?_, fun long _ => ⟨rfl, Nat.lt_of_not_le long⟩⟩
  have kept := @matched_record_left _ _ plane _ _ session history timeoutMs
  apply (kept.weaken (fun _ _ facts => facts) fun _ _ quiet refused => (quiet refused).elim).chain
  rintro kept middle ⟨held, named, same, cleared⟩
  have joined : kept.canonicalTokens ++ history.drop kept.canonicalTokens.length = history := by
    by_cases matches_ : matching record history
    · rw [(same matches_).1]
      exact matching_suffix matches_
    · rw [(cleared matches_).1]
      rfl
  have fits : kept.canonicalTokens.length +
      (history.drop kept.canonicalTokens.length).length ≤ plane.contextLimit := by
    rw [← List.length_append, joined]
    exact short
  apply ((@append_locked_left _ _ plane _ kept
    (history.drop kept.canonicalTokens.length) timeoutMs).weaken (fun _ _ facts => facts)
    fun raised after left refused => absurd (left refused).2 (Nat.not_lt.mpr fits)).chain
  rintro appended last ⟨nothing, something⟩
  have carried : appended.canonicalTokens = history := by
    by_cases suffix : history.drop kept.canonicalTokens.length = []
    · rw [(nothing suffix).1, ← joined, suffix, List.append_nil]
    · rw [(something suffix).1]
      exact joined
  have kept_name : appended.sessionId = record.sessionId := by
    by_cases suffix : history.drop kept.canonicalTokens.length = []
    · rw [(nothing suffix).1, named]
    · rw [(something suffix).1]
      exact named
  unfold storeRecord
  rw [ends_bind, ends_write, ends_pure]
  refine ⟨carried, kept_name, rfl, ?_, ?_⟩
  · rintro ⟨rfl, shown⟩
    have matches_ := matching_own record
    obtain ⟨rfl, rfl⟩ := same matches_
    obtain ⟨rfl, rfl⟩ := nothing List.drop_length
    have cold : (appended.coldRebuild && appended.canonicalTokens.isEmpty) =
        appended.coldRebuild := by
      cases rebuilt : appended.coldRebuild with
      | false => rfl
      | true => simp [shown rebuilt]
    constructor
    · simp only [matches_, decide_true, Bool.not_true, Bool.false_or, cold, session]
    · rfl
  · intro changed unchanged
    apply changed
    have own : record.canonicalTokens = history := by
      rw [← unchanged]
      exact carried
    subst own
    refine ⟨rfl, fun rebuilt => ?_⟩
    have marked : (!matching record record.canonicalTokens ||
        (record.coldRebuild && record.canonicalTokens.isEmpty)) = record.coldRebuild :=
      congrArg SessionRecord.coldRebuild unchanged
    simpa [matching_own, rebuilt] using marked

theorem raised_of_code {status : Nat} {code message : String} (listed : code ∈ parameterCodes) :
    ofParameters (raising status code message) := listed

theorem ensure_refuses {condition : Prop} [Decidable condition] {status : Nat}
    {code message : String} (listed : code ∈ parameterCodes) {next : Unit → ControlCall σ₀ σ₁ α}
    (rest : condition → ∃ raised, ofParameters raised ∧ next () world = (.error raised, world)) :
    ∃ raised, ofParameters raised ∧
      (Proc.ensure condition (raising status code message) >>= next) world =
        (.error raised, world) := by
  by_cases holds : condition
  · obtain ⟨raised, ours, same⟩ := rest holds
    exact ⟨raised, ours, by rw [ensure_bind, if_pos holds, same]⟩
  · exact ⟨_, raised_of_code listed, by rw [ensure_bind, if_neg holds]⟩

/-- The generation's own checks refuse with the code of a parameter, before anything
is read or sent. -/
theorem generate_locked_refuses {maxNewTokens mtpWidth : Nat} {mode : Mode}
    (refused : ¬ Accepted plane record maxNewTokens mode mtpWidth) (timeoutMs demand : Nat) :
    ∃ raised, ofParameters raised ∧
      generateLocked plane record maxNewTokens mode mtpWidth timeoutMs demand world =
        (.error raised, world) := by
  unfold generateLocked requireBudget
  apply ensure_refuses (by decide)
  intro positive
  apply ensure_refuses (by decide)
  intro listed
  apply ensure_refuses (by decide)
  intro enabled
  apply ensure_refuses (by decide)
  intro narrow
  apply ensure_refuses (by decide)
  intro budget
  apply ensure_refuses (by decide)
  intro prompted
  exact absurd ⟨positive, listed, enabled, narrow, budget, prompted⟩ refused

theorem generate_turn_quiet (mode : Mode) (mtpWidth remaining timeoutMs : Nat) :
    Ends (generateTurn plane record mode mtpWidth remaining timeoutMs) (fun _ _ => True)
      (fun raised _ => ¬ ofParameters raised) world := by
  have oversized : "invalid_commit_event" ∉ parameterCodes := by decide
  have unlisted : "invalid_token" ∉ parameterCodes := by decide
  unfold generateTurn
  apply read_state_quiet.bind
  intro state first _
  apply (verify_quiet state _).bind
  intro _ second _
  apply (call_quiet _ [] _ _ timeoutMs).bind
  intro response third _
  apply (require_ok_quiet response "generate").bind
  intro response fourth _
  unfold validateTokens
  rw [ends_bind, ends_ensure]
  refine ⟨fun _ => ?_, fun _ => oversized⟩
  rw [ends_bind, ends_ensure]
  refine ⟨fun _ => ?_, fun _ => unlisted⟩
  apply (verify_quiet response _).bind
  exact fun _ _ _ => trivial

theorem generate_loop_quiet (mode : Mode) (mtpWidth timeoutMs maxNewTokens demand generated : Nat) :
    Ends (generateLoop plane mode mtpWidth timeoutMs maxNewTokens demand record generated)
      (fun _ _ => True) (fun raised _ => ¬ ofParameters raised) world := by
  induction demand generalizing world record generated with
  | zero => trivial
  | succ demand ih =>
      unfold generateLoop
      rw [ends_ite]
      constructor
      · intro _
        apply (generate_turn_quiet mode mtpWidth _ timeoutMs).chain
        rintro ⟨grown, values⟩ middle _
        dsimp only
        rw [ends_ite]
        refine ⟨fun _ => trivial, fun _ => ?_⟩
        apply (ih _).chain
        exact fun _ _ _ => trivial
      · exact fun _ => trivial

theorem generate_locked_quiet {maxNewTokens mtpWidth : Nat} {mode : Mode}
    (accepted : Accepted plane record maxNewTokens mode mtpWidth) (timeoutMs demand : Nat) :
    Ends (generateLocked plane record maxNewTokens mode mtpWidth timeoutMs demand)
      (fun _ _ => True) (fun raised _ => ¬ ofParameters raised) world := by
  have looped := @generate_loop_quiet _ _ plane world record mode mtpWidth timeoutMs maxNewTokens
    demand 0
  unfold Ends at looped ⊢
  rw [generate_locked_accepted accepted]
  exact looped

end Control

section Requests
variable {σ₀ σ₁ α β : Type} {sidecar : Sidecar σ₀ σ₁} {world middle after : ControlWorld σ₀ σ₁}
  {record : SessionRecord}

theorem bind_returns {ε σ : Type} {first : Proc ε σ α} {next : α → Proc ε σ β} {value : α}
    {state after : σ} (returned : first state = (.ok value, after)) :
    (first >>= next) state = next value after := by
  change Proc.bind first next state = _
  simp only [Proc.bind, returned]

/-- The request is refused for its parameters. -/
def Refused (call : SidecarCall σ₀ σ₁ α) (world : ControlWorld σ₀ σ₁) : Prop :=
  ∃ error after, call world = (.error error, after) ∧ RefusesParameters error

/-- It is refused, and something has changed. -/
def Spoiled (call : SidecarCall σ₀ σ₁ α) (start world : ControlWorld σ₀ σ₁) : Prop :=
  ∃ error after, call world = (.error error, after) ∧ RefusesParameters error ∧
    ¬ Untouched start after

theorem spoiled_congr {left right : SidecarCall σ₀ σ₁ α} {start : ControlWorld σ₀ σ₁}
    (same : left world = right middle) : Spoiled left start world ↔ Spoiled right start middle := by
  unfold Spoiled
  rw [same]

theorem spoiled_bind_throws {first : SidecarCall σ₀ σ₁ α} {next : α → SidecarCall σ₀ σ₁ β}
    {error : SidecarError} {start : ControlWorld σ₀ σ₁}
    (threw : first world = (.error error, after)) :
    Spoiled (first >>= next) start world ↔ RefusesParameters error ∧ ¬ Untouched start after := by
  unfold Spoiled
  rw [bind_throws threw]
  constructor
  · rintro ⟨_, _, ⟨⟩, facts⟩
    exact facts
  · exact fun facts => ⟨error, after, rfl, facts⟩

theorem spoiled_control {call : ControlCall σ₀ σ₁ α} {start : ControlWorld σ₀ σ₁} :
    Spoiled (onControl call) start world ↔ ∃ raised after, call world = (.error raised, after) ∧
      ofParameters raised ∧ ¬ Untouched start after := by
  unfold Spoiled onControl
  rcases call world with ⟨outcome, after⟩
  cases outcome with
  | ok value =>
      constructor
      · rintro ⟨_, _, ⟨⟩, _⟩
      · rintro ⟨_, _, ⟨⟩, _⟩
  | error raised =>
      constructor
      · rintro ⟨_, _, ⟨⟩, facts⟩
        exact ⟨raised, after, rfl, facts⟩
      · rintro ⟨_, _, ⟨⟩, facts⟩
        exact ⟨.control raised, after, rfl, facts⟩

/-- The checks of the generation pass for what is resident then. -/
def Suits (plane : Plane σ₀ σ₁) (resident : List Int) (maxNewTokens : Nat) (mode : Mode)
    (mtpWidth : Nat) : Prop :=
  Accepted plane { sessionId := "", contextLimit := 0, model := "", canonicalTokens := resident }
    maxNewTokens mode mtpWidth

theorem accepted_iff_suits {plane : Plane σ₀ σ₁} {maxNewTokens mtpWidth : Nat} {mode : Mode} :
    Accepted plane record maxNewTokens mode mtpWidth ↔
      Suits plane record.canonicalTokens maxNewTokens mode mtpWidth := by
  constructor
  · rintro ⟨positive, listed, enabled, narrow, budget, prompted⟩
    exact ⟨positive, listed, enabled, narrow, budget, prompted⟩
  · rintro ⟨positive, listed, enabled, narrow, budget, prompted⟩
    exact ⟨positive, listed, enabled, narrow, budget, prompted⟩

/-- What follows a change of the session: its refusal finds it. -/
theorem generate_spoils_iff {plane : Plane σ₀ σ₁} {start : ControlWorld σ₀ σ₁}
    (maxNewTokens : Nat) (mode : Mode) (mtpWidth timeoutMs demand : Nat) :
    (∃ raised after, generateLocked plane record maxNewTokens mode mtpWidth timeoutMs demand
        world = (.error raised, after) ∧ ofParameters raised ∧ ¬ Untouched start after) ↔
      ¬ Suits plane record.canonicalTokens maxNewTokens mode mtpWidth ∧
        ¬ Untouched start world := by
  rw [← accepted_iff_suits]
  constructor
  · rintro ⟨raised, after, threw, refused, touched⟩
    by_cases accepted : Accepted plane record maxNewTokens mode mtpWidth
    · have quiet := @generate_locked_quiet _ _ plane world record _ _ _ accepted timeoutMs demand
      unfold Ends at quiet
      rw [threw] at quiet
      exact (quiet refused).elim
    · obtain ⟨other, _, same⟩ := @generate_locked_refuses _ _ plane world record _ _ _ accepted
        timeoutMs demand
      rw [same] at threw
      cases threw
      exact ⟨accepted, touched⟩
  · rintro ⟨unsuited, touched⟩
    obtain ⟨raised, refused, same⟩ := @generate_locked_refuses _ _ plane world record _ _ _ unsuited
      timeoutMs demand
    exact ⟨raised, world, same, refused, touched⟩

theorem session_checked_found (session : world.session = some record) :
    sessionChecked record.sessionId world = (.ok record, world) := by
  unfold sessionChecked
  change Proc.bind _ _ world = _
  unfold Proc.bind Proc.read
  simp only [session]
  rw [ensure_bind, if_pos rfl]
  rfl

theorem session_checked_missing {sessionId : String}
    (missing : ∀ record, world.session = some record → record.sessionId ≠ sessionId) :
    ∃ raised, sessionChecked sessionId world = (.error raised, world) ∧ ¬ ofParameters raised := by
  have unlisted : "session_not_found" ∉ parameterCodes := by decide
  refine ⟨raising 404 "session_not_found" "session not found", ?_, unlisted⟩
  unfold sessionChecked
  change Proc.bind _ _ world = _
  unfold Proc.bind Proc.read
  cases session : world.session with
  | none =>
      simp only [session]
      rfl
  | some record =>
      simp only [session]
      rw [ensure_bind, if_neg (missing record session)]

/-- The history is accepted, and the executor takes the reset and the append it needs. -/
def Syncs (plane : Plane σ₀ σ₁) (record : SessionRecord) (history : List Int) (timeoutMs : Nat)
    (world : ControlWorld σ₀ σ₁) : Prop :=
  ∃ marked after, appendFullHistoryLocked plane record history timeoutMs world = (.ok marked, after)

theorem complete_full_history_found {plane : Plane σ₀ σ₁} (session : world.session = some record)
    (history : List Int) (maxNewTokens : Nat) (mode : Mode) (mtpWidth : Nat)
    (timeoutMs : Option Nat) (demand : Nat) :
    completeFullHistory plane record.sessionId history maxNewTokens mode mtpWidth timeoutMs
        (demand + 1) world =
      (appendFullHistoryLocked plane record history (effectiveTimeout plane timeoutMs) >>=
        fun appended => generateLocked plane appended maxNewTokens mode mtpWidth
          (effectiveTimeout plane timeoutMs) (demand + 1)) world := by
  unfold completeFullHistory
  rw [if_neg (Nat.succ_ne_zero demand)]
  exact bind_returns (session_checked_found session)

variable (sidecar) in
/-- The sync of a completion and the checks behind it, for what is resident now. -/
def Unsuited (record : SessionRecord) (history : List Int) (maxTokens : Nat)
    (generation : Generation) (width : Int) (world : ControlWorld σ₀ σ₁) : Prop :=
  Syncs sidecar.plane record history (effectiveTimeout sidecar.plane generation.timeoutMs) world ∧
    ¬ Suits sidecar.plane history maxTokens generation.mode width.toNat

theorem completion_spoiled_iff (session : world.session = some record) (history : List Int)
    (maxTokens : Nat) (generation : Generation) (width : Int) {start : ControlWorld σ₀ σ₁} :
    Spoiled (completion sidecar record.sessionId history maxTokens generation width) start world ↔
      (∃ raised after, appendFullHistoryLocked sidecar.plane record history
          (effectiveTimeout sidecar.plane generation.timeoutMs) world = (.error raised, after) ∧
        ofParameters raised ∧ ¬ Untouched start after) ∨
      ∃ marked after, appendFullHistoryLocked sidecar.plane record history
          (effectiveTimeout sidecar.plane generation.timeoutMs) world = (.ok marked, after) ∧
        ¬ Suits sidecar.plane marked.canonicalTokens maxTokens generation.mode width.toNat ∧
        ¬ Untouched start after := by
  unfold completion
  rw [spoiled_control, complete_full_history_found session]
  rcases synced : appendFullHistoryLocked sidecar.plane record history
    (effectiveTimeout sidecar.plane generation.timeoutMs) world with ⟨outcome, middle⟩
  cases outcome with
  | error raised =>
      rw [bind_throws synced]
      constructor
      · rintro ⟨_, _, ⟨⟩, facts⟩
        exact Or.inl ⟨raised, middle, rfl, facts⟩
      · rintro (⟨_, _, ⟨⟩, facts⟩ | ⟨_, _, ⟨⟩, _⟩)
        exact ⟨raised, middle, rfl, facts⟩
  | ok marked =>
      rw [bind_returns synced, generate_spoils_iff]
      constructor
      · exact fun facts => Or.inr ⟨marked, middle, rfl, facts⟩
      · rintro (⟨_, _, ⟨⟩, _⟩ | ⟨_, _, ⟨⟩, facts⟩)
        exact facts

/-- What the synchronisation left, if it returned. -/
theorem synced_left {plane : Plane σ₀ σ₁} (session : world.session = some record)
    {history : List Int} {timeoutMs : Nat} {marked : SessionRecord}
    (synced : appendFullHistoryLocked plane record history timeoutMs world = (.ok marked, after)) :
    marked.canonicalTokens = history ∧ marked.sessionId = record.sessionId ∧
      after.session = some marked ∧ (Untouched world after ↔ Held record history) := by
  have left := @append_full_history_left _ _ plane _ _ session history timeoutMs
  unfold Ends at left
  rw [synced] at left
  obtain ⟨tokens, named, held, same, changed⟩ := left
  refine ⟨tokens, named, held, ?_, same⟩
  intro untouched
  by_contra other
  have stayed := untouched.session
  rw [held, session] at stayed
  exact changed other (Option.some.inj stayed)

/-- A history that is asked for where the request began. -/
theorem history_spoiled_iff (session : world.session = some record) (history : List Int)
    (maxTokens : Nat) (generation : Generation) (width : Int) :
    Spoiled (completion sidecar record.sessionId history maxTokens generation width) world world ↔
      ¬ Held record history ∧ Unsuited sidecar record history maxTokens generation width world := by
  rw [completion_spoiled_iff session]
  constructor
  · rintro (⟨raised, after, threw, refused, touched⟩ | ⟨marked, after, synced, unsuited, touched⟩)
    · have left := @append_full_history_left _ _ sidecar.plane _ _ session history
        (effectiveTimeout sidecar.plane generation.timeoutMs)
      unfold Ends at left
      rw [threw] at left
      rw [(left refused).1] at touched
      exact (touched (untouched_refl world)).elim
    · obtain ⟨tokens, -, -, same⟩ := synced_left session synced
      exact ⟨fun held => touched (same.mpr held), ⟨marked, after, synced⟩, tokens ▸ unsuited⟩
  · rintro ⟨changed, ⟨marked, after, synced⟩, unsuited⟩
    obtain ⟨tokens, -, -, same⟩ := synced_left session synced
    exact Or.inr ⟨marked, after, synced, tokens ▸ unsuited, fun untouched =>
      changed (same.mp untouched)⟩

/-- A history that is asked for behind a change of the session. -/
theorem fresh_spoiled_iff (session : world.session = some record) {start : ControlWorld σ₀ σ₁}
    (fresh : ∀ other, start.session = some other → other.sessionId ≠ record.sessionId)
    {history : List Int} (short : history.length ≤ sidecar.plane.contextLimit) (maxTokens : Nat)
    (generation : Generation) (width : Int) :
    Spoiled (completion sidecar record.sessionId history maxTokens generation width) start world ↔
      Unsuited sidecar record history maxTokens generation width world := by
  rw [completion_spoiled_iff session]
  constructor
  · rintro (⟨raised, after, threw, refused, touched⟩ | ⟨marked, after, synced, unsuited, touched⟩)
    · have left := @append_full_history_left _ _ sidecar.plane _ _ session history
        (effectiveTimeout sidecar.plane generation.timeoutMs)
      unfold Ends at left
      rw [threw] at left
      exact absurd (left refused).2 (Nat.not_lt.mpr short)
    · obtain ⟨tokens, -, -, -⟩ := synced_left session synced
      exact ⟨⟨marked, after, synced⟩, tokens ▸ unsuited⟩
  · rintro ⟨⟨marked, after, synced⟩, unsuited⟩
    obtain ⟨tokens, named, held, -⟩ := synced_left session synced
    refine Or.inr ⟨marked, after, synced, tokens ▸ unsuited, fun untouched => ?_⟩
    have stayed := untouched.session.symm
    rw [held] at stayed
    exact fresh marked stayed named

theorem spoiled_parsed {next : α → SidecarCall σ₀ σ₁ β} {start : ControlWorld σ₀ σ₁}
    (error : SidecarError) (field : Option α) :
    Spoiled (parsed error field >>= next) start world ↔
      (field = none ∧ RefusesParameters error ∧ ¬ Untouched start world) ∨
        ∃ value, field = some value ∧ Spoiled (next value) start world := by
  cases field with
  | none =>
      have threw : (parsed error none : SidecarCall σ₀ σ₁ α) world = (.error error, world) := rfl
      rw [spoiled_bind_throws threw]
      simp
  | some value =>
      have returned : (parsed error (some value) : SidecarCall σ₀ σ₁ α) world =
        (.ok value, world) := rfl
      rw [spoiled_congr (bind_returns returned)]
      simp

theorem spoiled_checking {next : α → SidecarCall σ₀ σ₁ β} {start : ControlWorld σ₀ σ₁}
    (check : Except ControlPlaneError α) :
    Spoiled (checking check >>= next) start world ↔
      (∃ error, check = .error error ∧ error.code ∈ parameterCodes ∧ ¬ Untouched start world) ∨
        ∃ value, check = .ok value ∧ Spoiled (next value) start world := by
  cases check with
  | error error =>
      have threw : (checking (.error error) : SidecarCall σ₀ σ₁ α) world =
        (.error (.control (.controlPlane error)), world) := rfl
      rw [spoiled_bind_throws threw]
      simp [RefusesParameters, ofParameters]
  | ok value =>
      have returned : (checking (.ok value) : SidecarCall σ₀ σ₁ α) world = (.ok value, world) := rfl
      rw [spoiled_congr (bind_returns returned)]
      simp

theorem spoiled_missing {sessionId : String} {next : SessionRecord → ControlCall σ₀ σ₁ α}
    {start : ControlWorld σ₀ σ₁}
    (missing : ∀ record, world.session = some record → record.sessionId ≠ sessionId) :
    ¬ ∃ raised after, (sessionChecked sessionId >>= next) world = (.error raised, after) ∧
      ofParameters raised ∧ ¬ Untouched start after := by
  obtain ⟨raised, threw, quiet⟩ := session_checked_missing missing
  rw [bind_throws threw]
  rintro ⟨_, _, ⟨⟩, refused, -⟩
  exact quiet refused

/-- A completion of a session that is not there is not refused for a parameter. -/
theorem completion_missing {sessionId : String} {start : ControlWorld σ₀ σ₁}
    (missing : ∀ record, world.session = some record → record.sessionId ≠ sessionId)
    (history : List Int) (maxTokens : Nat) (generation : Generation) (width : Int) :
    ¬ Spoiled (completion sidecar sessionId history maxTokens generation width) start world := by
  unfold completion completeFullHistory
  rw [spoiled_control, if_neg (Nat.succ_ne_zero maxTokens)]
  exact spoiled_missing missing

variable (sidecar) in
/-- A completion that changes the session and is refused behind that. -/
def SpoilsHistory (sessionId : String) (history : List Int) (maxTokens : Nat)
    (generation : Generation) (width : Int) (world : ControlWorld σ₀ σ₁) : Prop :=
  ∃ record, world.session = some record ∧ record.sessionId = sessionId ∧
    ¬ Held record history ∧ Unsuited sidecar record history maxTokens generation width world

theorem completion_spoils_iff (sessionId : String) (history : List Int) (maxTokens : Nat)
    (generation : Generation) (width : Int) :
    Spoiled (completion sidecar sessionId history maxTokens generation width) world world ↔
      SpoilsHistory sidecar sessionId history maxTokens generation width world := by
  by_cases found : ∃ record, world.session = some record ∧ record.sessionId = sessionId
  · obtain ⟨record, session, rfl⟩ := found
    rw [history_spoiled_iff session]
    constructor
    · exact fun facts => ⟨record, session, rfl, facts⟩
    · rintro ⟨other, held, -, facts⟩
      rw [session] at held
      cases held
      exact facts
  · have missing : ∀ record, world.session = some record → record.sessionId ≠ sessionId :=
      fun record session named => found ⟨record, session, named⟩
    constructor
    · exact fun spoiled => (completion_missing missing history maxTokens generation width
        spoiled).elim
    · rintro ⟨record, session, named, -⟩
      exact (missing record session named).elim

variable (sidecar) in
/-- An append that is taken, before a generation that is refused. -/
def SpoilsAppend (sessionId : String) (tokens : List Int) (generation : Generation)
    (width : Int) (world : ControlWorld σ₀ σ₁) : Prop :=
  ∃ record maxTokens, world.session = some record ∧ record.sessionId = sessionId ∧
    outputTokens sidecar generation
      (record.contextLimit - record.canonicalTokens.length - tokens.length) = .ok maxTokens ∧
    tokens ≠ [] ∧
    (∃ grown after, appendLocked sidecar.plane record tokens
      (effectiveTimeout sidecar.plane generation.timeoutMs) world = (.ok grown, after)) ∧
    ¬ Suits sidecar.plane (record.canonicalTokens ++ tokens) maxTokens generation.mode width.toNat

/-- The request of `_token_execute` once its tokens and its width are read. -/
def appendAndGenerate (sidecar : Sidecar σ₀ σ₁) (sessionId : String) (tokens : List Int)
    (generation : Generation) (width : Int) : SidecarCall σ₀ σ₁ (List CommittedTokenEvent) := do
  let remaining ← remainingTokens sessionId
  let maxTokens ← checking (outputTokens sidecar generation (remaining - tokens.length))
  Proc.whenever (tokens ≠ []) do
    let _ ← onControl (appendTokens sidecar.plane sessionId tokens generation.timeoutMs)
    pure ()
  onControl (generate sidecar.plane sessionId maxTokens generation.mode width.toNat
    generation.timeoutMs (maxTokens + 1))

theorem generate_found {plane : Plane σ₀ σ₁} (session : world.session = some record)
    (maxNewTokens : Nat) (mode : Mode) (mtpWidth : Nat) (timeoutMs : Option Nat) (demand : Nat) :
    generate plane record.sessionId maxNewTokens mode mtpWidth timeoutMs (demand + 1) world =
      generateLocked plane record maxNewTokens mode mtpWidth (effectiveTimeout plane timeoutMs)
        (demand + 1) world := by
  unfold generate
  rw [if_neg (Nat.succ_ne_zero demand)]
  exact bind_returns (session_checked_found session)

theorem append_tokens_found {plane : Plane σ₀ σ₁} (session : world.session = some record)
    (tokens : List Int) (timeoutMs : Option Nat) :
    appendTokens plane record.sessionId tokens timeoutMs world =
      appendLocked plane record tokens (effectiveTimeout plane timeoutMs) world := by
  unfold appendTokens
  exact bind_returns (session_checked_found session)

theorem remaining_found (session : world.session = some record) :
    (remainingTokens record.sessionId : SidecarCall σ₀ σ₁ Int) world =
      (.ok (record.contextLimit - record.canonicalTokens.length), world) := by
  unfold remainingTokens
  have found : onControl (sessionChecked record.sessionId) world = (.ok record, world) := by
    unfold onControl
    rw [session_checked_found session]
  rw [bind_returns found]
  rfl

theorem extended_touches {tokens : List Int} (session : world.session = some record)
    (grown : after.session = some (extended record tokens)) : ¬ Untouched world after := by
  intro untouched
  have stayed := untouched.session
  rw [grown, session] at stayed
  have revision : record.revision + 1 = record.revision :=
    congrArg SessionRecord.revision (Option.some.inj stayed)
  omega

/-- An append, if there is anything to append, and the generation behind it. -/
theorem append_tail_spoiled_iff (session : world.session = some record) (tokens : List Int)
    (generation : Generation) (width : Int) (maxTokens : Nat) :
    Spoiled (do
        Proc.whenever (tokens ≠ []) do
          let _ ← onControl (appendTokens sidecar.plane record.sessionId tokens
            generation.timeoutMs)
          pure ()
        onControl (generate sidecar.plane record.sessionId maxTokens generation.mode width.toNat
          generation.timeoutMs (maxTokens + 1))) world world ↔
      tokens ≠ [] ∧
      (∃ grown after, appendLocked sidecar.plane record tokens
        (effectiveTimeout sidecar.plane generation.timeoutMs) world = (.ok grown, after)) ∧
      ¬ Suits sidecar.plane (record.canonicalTokens ++ tokens) maxTokens generation.mode
        width.toNat := by
  unfold Proc.whenever
  by_cases some_ : tokens ≠ []
  · rw [if_pos some_]
    have appended : onControl (appendTokens sidecar.plane record.sessionId tokens
          generation.timeoutMs) world =
        onControl (appendLocked sidecar.plane record tokens
          (effectiveTimeout sidecar.plane generation.timeoutMs)) world := by
      unfold onControl
      rw [append_tokens_found session]
    have left := @append_locked_left _ _ sidecar.plane world record tokens
      (effectiveTimeout sidecar.plane generation.timeoutMs)
    unfold Ends at left
    rcases run : appendLocked sidecar.plane record tokens
      (effectiveTimeout sidecar.plane generation.timeoutMs) world with ⟨outcome, middle⟩
    rw [run] at left
    cases outcome with
    | error raised =>
        have threw : onControl (appendTokens sidecar.plane record.sessionId tokens
            generation.timeoutMs) world = (.error (.control raised), middle) := by
          rw [appended]
          unfold onControl
          rw [run]
        rw [spoiled_bind_throws (bind_throws threw)]
        constructor
        · rintro ⟨refused, touched⟩
          rw [(left refused).1] at touched
          exact (touched (untouched_refl world)).elim
        · rintro ⟨-, ⟨_, _, ⟨⟩⟩, -⟩
    | ok grown =>
        obtain ⟨rfl, stored⟩ := left.2 some_
        have returned : (do
            let _ ← onControl (appendTokens sidecar.plane record.sessionId tokens
              generation.timeoutMs)
            pure () : SidecarCall σ₀ σ₁ Unit) world = (.ok (), middle) := by
          apply bind_returns
          rw [appended]
          unfold onControl
          rw [run]
        rw [spoiled_congr (bind_returns returned), spoiled_control]
        have named : record.sessionId = (extended record tokens).sessionId := rfl
        rw [named, generate_found stored, generate_spoils_iff]
        constructor
        · exact fun facts => ⟨some_, ⟨_, _, rfl⟩, facts.1⟩
        · exact fun facts => ⟨facts.2.2, extended_touches session stored⟩
  · rw [if_neg some_]
    have returned : (Proc.pure () : SidecarCall σ₀ σ₁ Unit) world = (.ok (), world) := rfl
    rw [spoiled_congr (bind_returns returned), spoiled_control, generate_found session,
      generate_spoils_iff]
    constructor
    · exact fun facts => (facts.2 (untouched_refl world)).elim
    · exact fun facts => (some_ facts.1).elim

theorem append_spoils_iff (sessionId : String) (tokens : List Int) (generation : Generation)
    (width : Int) :
    Spoiled (appendAndGenerate sidecar sessionId tokens generation width) world world ↔
      SpoilsAppend sidecar sessionId tokens generation width world := by
  by_cases found : ∃ record, world.session = some record ∧ record.sessionId = sessionId
  · obtain ⟨record, session, rfl⟩ := found
    unfold appendAndGenerate
    rw [spoiled_congr (bind_returns (remaining_found session)), spoiled_checking]
    constructor
    · rintro (⟨_, _, _, touched⟩ | ⟨maxTokens, resolved, spoiled⟩)
      · exact (touched (untouched_refl world)).elim
      · exact ⟨record, maxTokens, session, rfl, resolved,
          (append_tail_spoiled_iff session tokens generation width maxTokens).mp spoiled⟩
    · rintro ⟨other, maxTokens, held, -, resolved, facts⟩
      rw [session] at held
      cases held
      exact Or.inr ⟨maxTokens, resolved,
        (append_tail_spoiled_iff session tokens generation width maxTokens).mpr facts⟩
  · have missing : ∀ record, world.session = some record → record.sessionId ≠ sessionId :=
      fun record session named => found ⟨record, session, named⟩
    obtain ⟨raised, threw, quiet⟩ := session_checked_missing missing
    have refusedEarly : (remainingTokens sessionId : SidecarCall σ₀ σ₁ Int) world =
        (.error (.control raised), world) := by
      unfold remainingTokens
      apply bind_throws
      unfold onControl
      rw [threw]
    unfold appendAndGenerate
    rw [spoiled_bind_throws refusedEarly]
    constructor
    · exact fun facts => (quiet facts.1).elim
    · rintro ⟨record, maxTokens, session, named, -⟩
      exact (missing record session named).elim

theorem resolved_available {limits : List (String × Limit)} {defaultTokens maximum : Option Int}
    {available : Int} {maxTokens : Nat}
    (resolved : resolveOutputTokens limits defaultTokens maximum available = .ok maxTokens) :
    0 < available := by
  by_contra none_
  unfold resolveOutputTokens at resolved
  rw [if_pos (Int.not_lt.mp none_)] at resolved
  cases resolved

/-- A chat asks for a session that is not the resident one. -/
def Replaces (requested : Option String) (world : ControlWorld σ₀ σ₁) : Prop :=
  ∀ record, world.session = some record →
    ∃ name, requested = some name ∧ name ≠ "" ∧ name ≠ record.sessionId

theorem resident_kept {requested : Option String} (kept : ¬ Replaces requested world) :
    ∃ record, world.session = some record ∧
      residentSession sidecar requested world = (.ok record.sessionId, world) := by
  unfold Replaces at kept
  push Not at kept
  obtain ⟨record, session, same⟩ := kept
  refine ⟨record, session, ?_⟩
  unfold residentSession
  change Proc.bind _ _ world = _
  unfold Proc.bind Proc.read
  simp only [session]
  cases requested with
  | none => rfl
  | some name =>
      dsimp only
      rw [if_neg]
      · rfl
      · rintro ⟨some_, other⟩
        exact other (same name rfl some_)

theorem create_session_left {plane : Plane σ₀ σ₁} (sessionId : String) :
    Ends (createSession plane sessionId)
      (fun record after => after.session = some record ∧ record.sessionId = sessionId)
      (fun raised _ => ¬ ofParameters raised) world := by
  have occupied : "session_exists" ∉ parameterCodes := by decide
  have filled : "executor_not_empty" ∉ parameterCodes := by decide
  unfold createSession
  rw [ends_bind, ends_read, ends_bind, ends_ensure]
  refine ⟨fun _ => ?_, fun _ => occupied⟩
  apply read_state_quiet.bind
  intro response first _
  rw [ends_bind, ends_ensure]
  exact ⟨fun _ => ⟨rfl, rfl⟩, fun _ => filled⟩

theorem replace_session_left {plane : Plane σ₀ σ₁} (sessionId : String) :
    Ends (replaceSession plane sessionId)
      (fun record after => after.session = some record ∧ record.sessionId = sessionId)
      (fun raised _ => ¬ ofParameters raised) world := by
  unfold replaceSession
  apply (reset_executor_quiet plane.defaultTimeoutMs).bind
  exact fun _ _ _ => ⟨rfl, rfl⟩

/-- The session of a chat that asks for another one: new, with the name asked for. -/
theorem resident_new {requested : Option String} (new : Replaces requested world) :
    Ends (residentSession sidecar requested)
      (fun sessionId after => ∃ record, after.session = some record ∧
        record.sessionId = sessionId ∧
        ∀ other, world.session = some other → other.sessionId ≠ record.sessionId)
      (fun error _ => ¬ RefusesParameters error) world := by
  have lifted {call : ControlCall σ₀ σ₁ SessionRecord} {sessionId : String}
      (other : ∀ other, world.session = some other → other.sessionId ≠ sessionId)
      (left : Ends call
        (fun record after => after.session = some record ∧ record.sessionId = sessionId)
        (fun raised _ => ¬ ofParameters raised) world) :
      Ends (onControl call >>= fun record => (pure record.sessionId : SidecarCall σ₀ σ₁ String))
        (fun sessionId after => ∃ record, after.session = some record ∧
          record.sessionId = sessionId ∧
          ∀ other, world.session = some other → other.sessionId ≠ record.sessionId)
        (fun error _ => ¬ RefusesParameters error) world := by
    unfold Ends at left ⊢
    rcases run : call world with ⟨outcome, after⟩
    rw [run] at left
    cases outcome with
    | ok record =>
        have returned : onControl call world = (.ok record, after) := by
          unfold onControl
          rw [run]
        rw [bind_returns returned]
        obtain ⟨stored, rfl⟩ := left
        exact ⟨record, stored, rfl, other⟩
    | error raised =>
        have threw : onControl call world = (.error (.control raised), after) := by
          unfold onControl
          rw [run]
        rw [bind_throws threw]
        exact left
  unfold residentSession
  rw [ends_bind, ends_read]
  split
  · next session =>
      apply lifted _ (create_session_left _)
      intro other held
      rw [session] at held
      cases held
  · next record session =>
      obtain ⟨name, rfl, some_, other⟩ := new record session
      dsimp only
      rw [if_pos ⟨some_, other⟩]
      apply lifted _ (replace_session_left name)
      intro held same
      rw [session] at same
      cases same
      exact other.symm

variable (sidecar) in
/-- A chat once its session stands. -/
def chatTail (body : ChatBody) (encoded : Option (List Int)) (sessionId : String) :
    SidecarCall σ₀ σ₁ (List CommittedTokenEvent) := do
  let history ← parsed .template encoded
  let maxTokens ← checking (outputTokens sidecar body.generation
    (sidecar.plane.contextLimit - history.length))
  let width ← parsed .value body.generation.mtpWidth
  completion sidecar sessionId history maxTokens body.generation width

variable (sidecar) in
/-- A chat in the resident session that spoils it. -/
def SpoilsKept (body : ChatBody) (encoded : Option (List Int)) (world : ControlWorld σ₀ σ₁) :
    Prop :=
  ∃ record history maxTokens width, world.session = some record ∧ encoded = some history ∧
    outputTokens sidecar body.generation (sidecar.plane.contextLimit - history.length) =
      .ok maxTokens ∧ body.generation.mtpWidth = some width ∧
    SpoilsHistory sidecar record.sessionId history maxTokens body.generation width world

variable (sidecar) in
/-- What refuses a chat once its session was created or replaced: its messages, its
limits, its width, or the checks of the generation. -/
def RefusedLate (body : ChatBody) (encoded : Option (List Int)) (world : ControlWorld σ₀ σ₁) :
    Prop :=
  encoded = none ∨ ∃ history, encoded = some history ∧
    ((∃ error, outputTokens sidecar body.generation
        (sidecar.plane.contextLimit - history.length) = .error error) ∨
      ∃ maxTokens, outputTokens sidecar body.generation
        (sidecar.plane.contextLimit - history.length) = .ok maxTokens ∧
        (body.generation.mtpWidth = none ∨ ∃ width record,
          body.generation.mtpWidth = some width ∧ world.session = some record ∧
          Unsuited sidecar record history maxTokens body.generation width world))

variable (sidecar) in
/-- A chat in a new session that is refused behind its creation. -/
def SpoilsNew (body : ChatBody) (encoded : Option (List Int)) (world : ControlWorld σ₀ σ₁) :
    Prop :=
  ∃ sessionId after, residentSession sidecar body.sessionId world = (.ok sessionId, after) ∧
    RefusedLate sidecar body encoded after

theorem resolve_refuses {limits : List (String × Limit)} {defaultTokens maximum : Option Int}
    {available : Int} {error : ControlPlaneError}
    (refused : resolveOutputTokens limits defaultTokens maximum available = .error error) :
    error.code ∈ parameterCodes := by
  have invalid : "invalid_max_tokens" ∈ parameterCodes := by decide
  have exceeded : "context_length_exceeded" ∈ parameterCodes := by decide
  unfold resolveOutputTokens refuse at refused
  dsimp only at refused
  split at refused
  · cases refused
    exact exceeded
  · split at refused
    · cases refused
      exact invalid
    · split at refused
      · cases refused
        exact invalid
      · split at refused
        · cases refused
          exact exceeded
        · cases refused

theorem kept_spoiled_iff (body : ChatBody) (encoded : Option (List Int))
    (session : world.session = some record) :
    Spoiled (chatTail sidecar body encoded record.sessionId) world world ↔
      SpoilsKept sidecar body encoded world := by
  unfold chatTail
  simp only [spoiled_parsed, spoiled_checking, completion_spoils_iff]
  constructor
  · rintro (⟨_, _, touched⟩ | ⟨history, given_, ⟨_, _, _, touched⟩ | ⟨maxTokens, resolved,
      ⟨_, _, touched⟩ | ⟨width, parsed_, spoils⟩⟩⟩)
    · exact (touched (untouched_refl world)).elim
    · exact (touched (untouched_refl world)).elim
    · exact (touched (untouched_refl world)).elim
    · exact ⟨record, history, maxTokens, width, session, given_, resolved, parsed_, spoils⟩
  · rintro ⟨other, history, maxTokens, width, held, given_, resolved, parsed_, spoils⟩
    rw [session] at held
    cases held
    exact Or.inr ⟨history, given_, Or.inr ⟨maxTokens, resolved, Or.inr ⟨width, parsed_, spoils⟩⟩⟩

theorem new_spoiled_iff {start : ControlWorld σ₀ σ₁} (body : ChatBody)
    (encoded : Option (List Int)) (session : world.session = some record)
    (fresh : ∀ other, start.session = some other → other.sessionId ≠ record.sessionId) :
    Spoiled (chatTail sidecar body encoded record.sessionId) start world ↔
      RefusedLate sidecar body encoded world := by
  have touched : ¬ Untouched start world := by
    intro untouched
    have stayed := untouched.session.symm
    rw [session] at stayed
    exact fresh record stayed rfl
  have short {history : List Int} {maxTokens : Nat}
      (resolved : outputTokens sidecar body.generation
        (sidecar.plane.contextLimit - history.length) = .ok maxTokens) :
      history.length ≤ sidecar.plane.contextLimit := by
    have left := resolved_available resolved
    omega
  unfold chatTail
  simp only [spoiled_parsed, spoiled_checking]
  constructor
  · rintro (⟨nothing, -, -⟩ | ⟨history, given_, ⟨error, refused, -, -⟩ | ⟨maxTokens, resolved,
      ⟨nothing, -, -⟩ | ⟨width, parsed_, spoiled⟩⟩⟩)
    · exact Or.inl nothing
    · exact Or.inr ⟨history, given_, Or.inl ⟨error, refused⟩⟩
    · exact Or.inr ⟨history, given_, Or.inr ⟨maxTokens, resolved, Or.inl nothing⟩⟩
    · rw [fresh_spoiled_iff session fresh (short resolved)] at spoiled
      exact Or.inr ⟨history, given_, Or.inr ⟨maxTokens, resolved, Or.inr ⟨width, record, parsed_,
        session, spoiled⟩⟩⟩
  · rintro (nothing | ⟨history, given_, ⟨error, refused⟩ | ⟨maxTokens, resolved,
      nothing | ⟨width, other, parsed_, held, unsuited⟩⟩⟩)
    · exact Or.inl ⟨nothing, trivial, touched⟩
    · exact Or.inr ⟨history, given_, Or.inl ⟨error, refused, resolve_refuses refused, touched⟩⟩
    · exact Or.inr ⟨history, given_, Or.inr ⟨maxTokens, resolved, Or.inl ⟨nothing, trivial,
        touched⟩⟩⟩
    · rw [session] at held
      cases held
      rw [← fresh_spoiled_iff session fresh (short resolved)] at unsuited
      exact Or.inr ⟨history, given_, Or.inr ⟨maxTokens, resolved, Or.inr ⟨width, parsed_,
        unsuited⟩⟩⟩

theorem chat_spoils_iff (body : ChatBody) :
    Spoiled (chatCompletion sidecar body) world world ↔
      ∃ encoded, chatHistory sidecar body = .ok encoded ∧
        ((¬ Replaces body.sessionId world ∧ SpoilsKept sidecar body encoded world) ∨
          (Replaces body.sessionId world ∧ SpoilsNew sidecar body encoded world)) := by
  have tail (encoded : Option (List Int)) :
      Spoiled (residentSession sidecar body.sessionId >>= chatTail sidecar body encoded)
          world world ↔
        (¬ Replaces body.sessionId world ∧ SpoilsKept sidecar body encoded world) ∨
          (Replaces body.sessionId world ∧ SpoilsNew sidecar body encoded world) := by
    by_cases new : Replaces body.sessionId world
    · simp only [new, not_true_eq_false, false_and, false_or, true_and]
      have left := @resident_new _ _ sidecar _ _ new
      unfold Ends at left
      unfold SpoilsNew
      rcases run : residentSession sidecar body.sessionId world with ⟨outcome, after⟩
      rw [run] at left
      cases outcome with
      | error error =>
          rw [spoiled_bind_throws run]
          constructor
          · exact fun facts => (left facts.1).elim
          · rintro ⟨_, _, ⟨⟩, -⟩
      | ok sessionId =>
          obtain ⟨record, stored, rfl, fresh⟩ := left
          rw [spoiled_congr (bind_returns run), new_spoiled_iff body encoded stored fresh]
          constructor
          · exact fun late => ⟨record.sessionId, after, rfl, late⟩
          · rintro ⟨_, _, ⟨⟩, late⟩
            exact late
    · obtain ⟨record, session, run⟩ := @resident_kept _ _ sidecar _ _ new
      simp only [new, not_false_eq_true, true_and, false_and, or_false]
      rw [spoiled_congr (bind_returns run), kept_spoiled_iff body encoded session]
  unfold chatCompletion
  rw [spoiled_checking]
  constructor
  · rintro (⟨_, _, _, touched⟩ | ⟨encoded, checked, spoiled⟩)
    · exact (touched (untouched_refl world)).elim
    · exact ⟨encoded, checked, (tail encoded).mp spoiled⟩
  · rintro ⟨encoded, checked, spoils⟩
    exact Or.inr ⟨encoded, checked, (tail encoded).mpr spoils⟩

variable (sidecar) in
/-- The request changes the session and meets a check of its parameters behind that. -/
def Spoils (world : ControlWorld σ₀ σ₁) : Request → Prop
  | .completeFullHistory sessionId history maxNewTokens generation width =>
      SpoilsHistory sidecar sessionId history maxNewTokens generation width world
  | .execute sessionId body => ∃ width, body.generation.mtpWidth = some width ∧
      match body.fullTokenIds with
      | some full => ∃ history maxTokens, full = some history ∧
          outputTokens sidecar body.generation (sidecar.plane.contextLimit - history.length) =
            .ok maxTokens ∧
          SpoilsHistory sidecar sessionId history maxTokens body.generation width world
      | none => ∃ tokens, body.appendTokenIds = some tokens ∧
          SpoilsAppend sidecar sessionId tokens body.generation width world
  | .chat body => ∃ encoded, chatHistory sidecar body = .ok encoded ∧
      ((¬ Replaces body.sessionId world ∧ SpoilsKept sidecar body encoded world) ∨
        (Replaces body.sessionId world ∧ SpoilsNew sidecar body encoded world))

theorem execute_spoils_iff (sessionId : String) (body : TokenBody) :
    Spoiled (tokenExecute sidecar sessionId body) world world ↔
      Spoils sidecar world (.execute sessionId body) := by
  have stands (refused : ¬ Untouched world world) : False := refused (untouched_refl world)
  unfold tokenExecute
  rw [spoiled_parsed]
  cases full : body.fullTokenIds with
  | some full =>
      simp only [Spoils, full, spoiled_parsed, spoiled_checking, completion_spoils_iff]
      constructor
      · rintro (⟨_, _, touched⟩ | ⟨width, parsed_, ⟨_, _, touched⟩ | ⟨history, listed,
          ⟨_, _, _, touched⟩ | ⟨maxTokens, resolved, spoils⟩⟩⟩)
        · exact (stands touched).elim
        · exact (stands touched).elim
        · exact (stands touched).elim
        · exact ⟨width, parsed_, history, maxTokens, listed, resolved, spoils⟩
      · rintro ⟨width, parsed_, history, maxTokens, listed, resolved, spoils⟩
        exact Or.inr ⟨width, parsed_, Or.inr ⟨history, listed, Or.inr ⟨maxTokens, resolved,
          spoils⟩⟩⟩
  | none =>
      simp only [Spoils, full, spoiled_parsed]
      constructor
      · rintro (⟨_, _, touched⟩ | ⟨width, parsed_, ⟨_, _, touched⟩ | ⟨tokens, listed, spoiled⟩⟩)
        · exact (stands touched).elim
        · exact (stands touched).elim
        · exact ⟨width, parsed_, tokens, listed,
            (append_spoils_iff sessionId tokens body.generation width).mp spoiled⟩
      · rintro ⟨width, parsed_, tokens, listed, spoils⟩
        exact Or.inr ⟨width, parsed_, Or.inr ⟨tokens, listed,
          (append_spoils_iff sessionId tokens body.generation width).mpr spoils⟩⟩

variable (sidecar) in
/-- If the request is refused for its parameters, everything is where it was. -/
def Intact (request : Request) (world : ControlWorld σ₀ σ₁) : Prop :=
  ∀ error after, serve sidecar request world = (.error error, after) → RefusesParameters error →
    Untouched world after

end Requests

section Sample
open PenaltyHistory

def answeredPlane : Plane Unit Unit where
  service := { executor := sampleSetup, sessionHash := 1 }
  sessionHash := 1
  contextLimit := 16
  vocabulary := 4
  fates _ := .answered

def sampleSidecar : Sidecar Unit Unit where
  plane := answeredPlane
  loads _ := none
  freshId := "q38-0"
  encodeChat := none

/-- A resident session with two prompt tokens. -/
def residentWorld : ControlWorld Unit Unit :=
  (operate answeredPlane (.appendTokens "s" [1, 2] none)
    (operate answeredPlane (.createSession "s") sampleControl).2).2

/-- Another history, to be generated from in a mode that does not exist. -/
def unlistedMode : Request :=
  .execute "s" { fullTokenIds := some (some [3]), generation := { mode := .unlisted "beam" } }

theorem answered_begins : Begins answeredPlane sampleOptions sampleControl :=
  ⟨made_sample, ⟨none, rfl⟩, rfl, by decide⟩

/-- The outcome is a refusal with the code of a parameter. -/
def refusedCode : Except SidecarError (List CommittedTokenEvent) → Bool
  | .error (.control (.controlPlane error)) => parameterCodes.contains error.code
  | _ => false

theorem refused_code {outcome : Except SidecarError (List CommittedTokenEvent)}
    (coded : refusedCode outcome = true) :
    ∃ error, outcome = .error error ∧ RefusesParameters error := by
  cases outcome with
  | ok events => cases coded
  | error error =>
      refine ⟨error, rfl, ?_⟩
      cases error with
      | control raised =>
          cases raised with
          | controlPlane error => exact List.contains_iff_mem.mp coded
          | transport => cases coded
      | value => trivial
      | template => trivial

theorem not_intact {sidecar : Sidecar Unit Unit} {request : Request}
    {world : ControlWorld Unit Unit}
    (coded : refusedCode (serve sidecar request world).1 = true)
    (changed : (serve sidecar request world).2.session ≠ world.session) :
    ¬ Intact sidecar request world := by
  intro intact
  obtain ⟨error, threw, refused⟩ := refused_code coded
  exact changed (intact error _ (Prod.ext threw rfl) refused).session

end Sample

end Q38.RefusedRequests
