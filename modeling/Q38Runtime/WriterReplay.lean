import Q38Runtime.SpeculativeDecoding
import Q38Runtime.WriterOutcomes

/-!
Writers are executed at most once. A writer id that completed, however its writer ended, changes
nothing any more: sent again it is answered from the cache while the cache holds it, and refused
when its contents differ or the cache has moved on.
-/
namespace Q38.WriterReplay
open Contracts Cancellation Backend Executor ExecutorRpc MockBackend ExecutorInvariant
  SpeculativeDecoding Imperative

section Cache
variable {responses older newer : List CachedWriterResponse} {entry other : CachedWriterResponse}

/-- A cache in the order of its ids, as the eviction keeps it. -/
structure Ordered (responses : List CachedWriterResponse) (highest : UInt64) : Prop where
  increasing : responses.Pairwise fun older newer => older.requestId < newer.requestId
  below : ∀ entry ∈ responses, entry.requestId ≤ highest
  few : responses.length ≤ kMaximumCachedWriterResponses

theorem ordered_empty (highest : UInt64) : Ordered [] highest :=
  ⟨.nil, nofun, Nat.zero_le _⟩

theorem remember_sublist (entry : CachedWriterResponse) (responses : List CachedWriterResponse) :
    (remember entry responses).Sublist (responses ++ [entry]) := by
  unfold ExecutorRpc.remember
  dsimp only
  split
  · exact List.drop_sublist 1 _
  · exact List.Sublist.refl _

theorem ordered_remember {highest : UInt64} (ordered : Ordered responses highest)
    (later : highest < entry.requestId) : Ordered (remember entry responses) entry.requestId := by
  have kept := remember_sublist entry responses
  constructor
  · refine List.Pairwise.sublist kept (List.pairwise_append.mpr ⟨ordered.increasing, ?_, ?_⟩)
    · exact List.pairwise_singleton _ _
    · intro old member new single
      rw [List.mem_singleton.mp single]
      exact UInt64.lt_of_le_of_lt (ordered.below old member) later
  · intro old member
    rcases List.mem_append.mp (kept.subset member) with before | single
    · exact UInt64.le_of_lt (UInt64.lt_of_le_of_lt (ordered.below old before) later)
    · rw [List.mem_singleton.mp single]
      exact UInt64.le_refl _
  · have few := ordered.few
    unfold ExecutorRpc.remember
    dsimp only
    split
    · rw [List.length_drop, List.length_append, List.length_singleton]
      omega
    · next room => exact Nat.le_of_not_lt room

/-- The cache finds what it holds. -/
theorem ordered_finds {highest : UInt64} (ordered : Ordered responses highest)
    (member : entry ∈ responses) :
    responses.find? (·.requestId = entry.requestId) = some entry := by
  cases found : responses.find? (·.requestId = entry.requestId) with
  | none =>
      have absent := List.find?_eq_none.mp found entry member
      simp at absent
  | some other =>
      have listed := List.mem_of_find?_eq_some found
      have same : other.requestId = entry.requestId := by
        simpa using List.find?_some found
      have distinct : (responses.map CachedWriterResponse.requestId).Nodup :=
        List.pairwise_map.mpr (ordered.increasing.imp fun less => UInt64.ne_of_lt less)
      rw [List.inj_on_of_nodup_map distinct listed member same]

/-- A response with `count` newer ones behind it. -/
def Holds (entry : CachedWriterResponse) (count : Nat) (responses : List CachedWriterResponse) :
    Prop :=
  ∃ older newer, responses = older ++ entry :: newer ∧ newer.length = count

theorem remember_holds (entry : CachedWriterResponse) (responses : List CachedWriterResponse) :
    Holds entry 0 (remember entry responses) := by
  unfold ExecutorRpc.remember
  dsimp only
  split
  · cases responses with
    | nil =>
        next beyond => simp [kMaximumCachedWriterResponses] at beyond
    | cons first rest => exact ⟨rest, [], rfl, rfl⟩
  · exact ⟨responses, [], rfl, rfl⟩

/-- The oldest response is the one that goes. -/
theorem holds_remember {count : Nat} (holds : Holds entry count responses)
    (room : count + 1 < kMaximumCachedWriterResponses) :
    Holds entry (count + 1) (remember other responses) := by
  obtain ⟨older, newer, rfl, length⟩ := holds
  unfold ExecutorRpc.remember
  dsimp only
  have grown : (newer ++ [other]).length = count + 1 := by
    rw [List.length_append, length, List.length_singleton]
  split
  · next beyond =>
      cases older with
      | nil =>
          simp only [List.nil_append, List.cons_append, List.length_cons, grown] at beyond
          omega
      | cons oldest rest =>
          refine ⟨rest, newer ++ [other], ?_, grown⟩
          rw [List.cons_append, List.cons_append, List.drop_succ_cons, List.drop_zero,
            List.append_assoc, List.cons_append]
  · exact ⟨older, newer ++ [other], by rw [List.append_assoc, List.cons_append], grown⟩

end Cache

section Service
variable {σ₀ σ₁ : Type} (setup : ServiceSetup σ₀ σ₁)

/-- The request is a writer the service has not seen yet: it will be in the cache, whether the
executor is handed it or is isolated already. -/
def completes (service : Service σ₀ σ₁) (request : ExecutorRpcRequestV1) : Bool :=
  validateExecutorRpcRequest request setup.sessionHash == none &&
    isWriterOpcode request.header.opcode &&
    (service.writerResponses.find? (·.requestId = request.header.requestId)).isNone &&
    decide (service.highestWriterRequestId < request.header.requestId)

/-- A run: the responses and the last service. -/
def handleAll : List ExecutorRpcRequestV1 → Service σ₀ σ₁ →
    List ExecutorRpcResponseV1 × Service σ₀ σ₁
  | [], service => ([], service)
  | request :: rest, service =>
      let handled := handle setup request service
      let others := handleAll rest handled.2
      (handled.1 :: others.1, others.2)

/-- The writers that complete in a run, in their order. -/
def completions : List ExecutorRpcRequestV1 → Service σ₀ σ₁ → List ExecutorRpcRequestV1
  | [], _ => []
  | request :: rest, service =>
      (if completes setup service request then [request] else []) ++
        completions rest (handle setup request service).2

variable {setup} {service : Service σ₀ σ₁} {request again : ExecutorRpcRequestV1}

theorem completes_iff : completes setup service request = true ↔
    validateExecutorRpcRequest request setup.sessionHash = none ∧
      isWriterOpcode request.header.opcode = true ∧
      service.writerResponses.find? (·.requestId = request.header.requestId) = none ∧
      service.highestWriterRequestId < request.header.requestId := by
  simp [completes, Bool.and_eq_true, Option.isNone_iff_eq_none, and_assoc]

theorem writer_not_cancel (writer : isWriterOpcode request.header.opcode = true) :
    request.header.opcode ≠ .cancel := by
  intro cancel
  rw [cancel] at writer
  cases writer

theorem handle_writer_request (valid : validateExecutorRpcRequest request setup.sessionHash = none)
    (writer : isWriterOpcode request.header.opcode = true) :
    handle setup request service = handleWriter setup request service := by
  rw [handle, valid]
  dsimp only
  rw [if_neg (writer_not_cancel writer), if_pos writer]

/-- What a completed writer leaves in the cache. -/
theorem handle_completed (completed : completes setup service request = true) :
    (handle setup request service).2.highestWriterRequestId = request.header.requestId ∧
      (handle setup request service).2.writerResponses =
        remember ⟨request.header.requestId, requestFingerprint request,
            (handle setup request service).1⟩
          (if request.header.opcode = .reset then [] else service.writerResponses) := by
  obtain ⟨valid, writer, unseen, later⟩ := completes_iff.mp completed
  rw [handle_writer_request valid writer]
  by_cases accepts : Accepts service request
  · rw [handle_writer_accepted accepts]
    obtain ⟨cache, highest⟩ := @journal_writer_cache _ _ setup
      (writerResponse setup request (execution setup request service).1
        (execution setup request service).2.coordinator.poisoned)
      { service with
        highestWriterRequestId := request.header.requestId
        world := (execution setup request service).2 }
    refine ⟨highest, ?_⟩
    change ExecutorRpc.remember _
      (if _ then _ else (executed setup request service).2.writerResponses) = _
    rw [executed, cache]
    rfl
  · rcases @handle_writer_refused _ _ setup _ _ accepts with
      ⟨entry, member, same, -⟩ | ⟨response, answered, -⟩ | ⟨-, -, published⟩
    · have absent := List.find?_eq_none.mp unseen entry member
      simp [same] at absent
    · -- a writer that is neither accepted nor isolated was seen before
      exfalso
      have poisoned : service.publishedPoisoned = true := by
        by_contra healthy
        exact accepts ⟨unseen, later, eq_false_of_ne_true healthy⟩
      have highest : (handleWriter setup request service).2.highestWriterRequestId =
          request.header.requestId := by
        unfold handleWriter
        rw [unseen]
        simp only [UInt64.not_le.mpr later, if_false, poisoned, if_true]
        rfl
      rw [answered] at highest
      exact UInt64.ne_of_lt later highest
    · rw [published]
      exact ⟨rfl, rfl⟩

/-- Every other request leaves the service as it is. -/
theorem handle_repeated (repeated : completes setup service request = false) :
    (handle setup request service).2 = service := by
  by_cases valid : validateExecutorRpcRequest request setup.sessionHash = none
  · by_cases writer : isWriterOpcode request.header.opcode = true
    · rw [handle_writer_request valid writer]
      have seen : ¬ (service.writerResponses.find? (·.requestId = request.header.requestId) =
          none ∧ service.highestWriterRequestId < request.header.requestId) := by
        rintro ⟨unseen, later⟩
        rw [completes_iff.mpr ⟨valid, writer, unseen, later⟩] at repeated
        cases repeated
      unfold handleWriter
      split
      · split <;> rfl
      · next unseen =>
          have stale : request.header.requestId ≤ service.highestWriterRequestId :=
            UInt64.not_lt.mp fun later => seen ⟨unseen, later⟩
          rw [if_pos stale]
    · rw [handle, valid]
      dsimp only
      rw [if_neg writer]
      split <;> rfl
  · unfold handle
    split
    · rfl
    · next valid_ => exact (valid valid_).elim

theorem ordered_handle
    (ordered : Ordered service.writerResponses service.highestWriterRequestId) :
    Ordered (handle setup request service).2.writerResponses
      (handle setup request service).2.highestWriterRequestId := by
  cases completed : completes setup service request with
  | false =>
      rw [handle_repeated completed]
      exact ordered
  | true =>
      obtain ⟨highest, cache⟩ := handle_completed completed
      have later := (completes_iff.mp completed).2.2.2
      rw [highest, cache]
      have kept : Ordered (if request.header.opcode = .reset then [] else service.writerResponses)
          service.highestWriterRequestId := by
        split
        · exact ordered_empty _
        · exact ordered
      exact @ordered_remember _ ⟨_, _, _⟩ _ kept later

/-- The highest id never goes back. -/
theorem highest_handle : service.highestWriterRequestId ≤
    (handle setup request service).2.highestWriterRequestId := by
  cases completed : completes setup service request with
  | false =>
      rw [handle_repeated completed]
      exact UInt64.le_refl _
  | true =>
      rw [(handle_completed completed).1]
      exact UInt64.le_of_lt (completes_iff.mp completed).2.2.2

theorem handle_all_ordered (requests : List ExecutorRpcRequestV1)
    (ordered : Ordered service.writerResponses service.highestWriterRequestId) :
    Ordered (handleAll setup requests service).2.writerResponses
        (handleAll setup requests service).2.highestWriterRequestId ∧
      service.highestWriterRequestId ≤
        (handleAll setup requests service).2.highestWriterRequestId := by
  induction requests generalizing service with
  | nil => exact ⟨ordered, UInt64.le_refl _⟩
  | cons request rest ih =>
      obtain ⟨kept, later⟩ := ih (@ordered_handle _ _ setup _ request ordered)
      exact ⟨kept, UInt64.le_trans highest_handle later⟩

/-- The ids that complete only grow. -/
theorem completions_increase (requests : List ExecutorRpcRequestV1) :
    ((completions setup requests service).map (·.header.requestId)).Pairwise (· < ·) ∧
      ∀ request ∈ completions setup requests service,
        service.highestWriterRequestId < request.header.requestId := by
  induction requests generalizing service with
  | nil => exact ⟨.nil, nofun⟩
  | cons request rest ih =>
      obtain ⟨increasing, beyond⟩ := @ih (handle setup request service).2
      cases completed : completes setup service request with
      | false =>
          have same := handle_repeated completed
          rw [same] at increasing beyond
          simp only [completions, completed, same, Bool.false_eq_true, if_false, List.nil_append]
          exact ⟨increasing, beyond⟩
      | true =>
          have later := (completes_iff.mp completed).2.2.2
          rw [(handle_completed completed).1] at beyond
          simp only [completions, completed, if_true, List.singleton_append, List.map_cons]
          refine ⟨List.pairwise_cons.mpr ⟨?_, increasing⟩, ?_⟩
          · intro id listed
            obtain ⟨other, member, rfl⟩ := List.mem_map.mp listed
            exact beyond other member
          · intro other member
            rcases List.mem_cons.mp member with rfl | member
            · exact later
            · exact UInt64.lt_trans later (beyond other member)

/-- A response stays in the cache until a reset completes or the cache is full of newer ones. -/
theorem handle_all_holds {entry : CachedWriterResponse} {count : Nat}
    (requests : List ExecutorRpcRequestV1) (holds : Holds entry count service.writerResponses)
    (resets : ∀ other ∈ completions setup requests service, other.header.opcode ≠ .reset)
    (room : count + (completions setup requests service).length < kMaximumCachedWriterResponses) :
    ∃ later, Holds entry later (handleAll setup requests service).2.writerResponses := by
  induction requests generalizing service count with
  | nil => exact ⟨count, holds⟩
  | cons request rest ih =>
      rw [completions] at resets room
      cases completed : completes setup service request with
      | false =>
          rw [if_neg (by simp [completed]), List.nil_append] at resets room
          have same := handle_repeated completed
          refine @ih (handle setup request service).2 count ?_ resets room
          rw [same]
          exact holds
      | true =>
          rw [if_pos completed] at resets room
          rw [List.length_append, List.length_singleton] at room
          have other := resets request (List.mem_append_left _ (List.mem_singleton_self _))
          refine @ih (handle setup request service).2 (count + 1) ?_
            (fun later member => resets later (List.mem_append_right _ member)) (by omega)
          rw [(handle_completed completed).2, if_neg other]
          exact holds_remember holds (by omega)

/-- A writer completes once. From then on its id leaves the service as it is. Sent again it is
given its response, and with other contents it is refused, as long as no reset and fewer writers
than the cache holds completed since. -/
theorem writers_complete_once {world : World σ₀ σ₁} {journal : Option Snapshot.SnapshotJournal}
    (requests later : List ExecutorRpcRequestV1)
    (completed : completes setup (handleAll setup requests (makeService world journal)).2 request =
      true) (same : again.header.requestId = request.header.requestId) :
    let first := handle setup request (handleAll setup requests (makeService world journal)).2
    let last := (handleAll setup later first.2).2
    ((completions setup requests (makeService world journal)).map (·.header.requestId)).Pairwise
        (· < ·) ∧
      (handle setup again last).2 = last ∧
      ((∀ other ∈ completions setup later first.2, other.header.opcode ≠ .reset) →
        (completions setup later first.2).length < kMaximumCachedWriterResponses →
        handle setup request last = (first.1, last) ∧
          (validateExecutorRpcRequest again setup.sessionHash = none →
            isWriterOpcode again.header.opcode = true →
            requestFingerprint again ≠ requestFingerprint request →
            (handle setup again last).1.header.status = .badRequest)) := by
  intro first last
  have begins : Ordered (makeService world journal).writerResponses
      (makeService world journal).highestWriterRequestId := ordered_empty _
  obtain ⟨ordered, -⟩ := @handle_all_ordered _ _ setup _ requests begins
  obtain ⟨highest, cache⟩ := handle_completed completed
  obtain ⟨valid, writer, -⟩ := completes_iff.mp completed
  obtain ⟨ended, above⟩ := @handle_all_ordered _ _ setup _ later
    (@ordered_handle _ _ setup _ request ordered)
  rw [highest] at above
  have seen (other : ExecutorRpcRequestV1)
      (id : other.header.requestId = request.header.requestId) :
      (handle setup other last).2 = last := by
    apply handle_repeated
    by_contra fresh
    have beyond := (completes_iff.mp (eq_true_of_ne_false fresh)).2.2.2
    rw [id] at beyond
    exact UInt64.not_le.mpr beyond above
  refine ⟨(completions_increase requests).1, seen again same, ?_⟩
  intro resets room
  have begun : Holds ⟨request.header.requestId, requestFingerprint request, first.1⟩ 0
      first.2.writerResponses := by
    rw [cache]
    exact remember_holds _ _
  obtain ⟨count, older, newer, listed, -⟩ := handle_all_holds later begun resets (by omega)
  have found := @ordered_finds _ ⟨request.header.requestId, requestFingerprint request, first.1⟩ _
    ended (by rw [listed]; simp)
  have answered {other : ExecutorRpcRequestV1}
      (valid : validateExecutorRpcRequest other setup.sessionHash = none)
      (writer : isWriterOpcode other.header.opcode = true)
      (id : other.header.requestId = request.header.requestId) :
      handle setup other last =
        if requestFingerprint request = requestFingerprint other then (first.1, last)
        else (finalizeResponse (refused (responseBase other setup.sessionHash) .badRequest
          "request id was already used with different contents") last.publishedFrontiers,
            last) := by
    have held : last.writerResponses.find? (·.requestId = other.header.requestId) =
        some ⟨request.header.requestId, requestFingerprint request, first.1⟩ := by
      rw [id]
      exact found
    rw [handle_writer_request valid writer, handleWriter, held]
  constructor
  · rw [answered valid writer rfl, if_pos rfl]
  · intro valid writer differs
    rw [answered valid writer same, if_neg fun equal => differs equal.symm]
    rfl

/-- An append of one token, sent to an executor over mocks. -/
def appendRequest : ExecutorRpcRequestV1 where
  header := {
    requestId := 1, sessionHash := 1, opcode := .append, tokenCount := 1, payloadBytes := 4 }
  tokens := [1]

def greedyService : ServiceSetup (Faulty MockState) (Faulty MockState) where
  executor := greedyMocks
  sessionHash := 1

def greedyServed : Service (Faulty MockState) (Faulty MockState) :=
  (handleAll greedyService [] (makeService (freshWorld greedyStart) none)).2

theorem append_completes : completes greedyService greedyServed appendRequest = true := by
  decide

/-- Sent twice, it is executed once. -/
theorem writers_complete_once_append :
    let first := handle greedyService appendRequest greedyServed
    let last := (handleAll greedyService [] first.2).2
    handle greedyService appendRequest last = (first.1, last) := by
  have once := @writers_complete_once _ _ greedyService appendRequest appendRequest
    (freshWorld greedyStart) none [] [] append_completes rfl
  have empty : completions greedyService [] (handle greedyService appendRequest greedyServed).2 =
      [] := by rw [completions]
  have replayed := once.2.2
  rw [← greedyServed, empty] at replayed
  exact (replayed (fun _ member => (List.not_mem_nil member).elim) (Nat.zero_lt_succ _)).1

end Service

end Q38.WriterReplay
