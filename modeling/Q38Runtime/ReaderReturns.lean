import Q38Runtime.ReaderProtocol

/-!
Every call of the reader returns. Both threads have only so much to do for one
call, and one of them can always go on.
-/
namespace Q38.ReaderThreads
open Contracts Imperative PleHash PleReadAhead

variable {α : Type}

section Returning

/-- The event of a call that returns. -/
def Event.returns : Event α → Bool
  | .took _ | .cancelled => true
  | _ => false

/-- A thread that wakes without a reason. -/
def Event.spurious : Event α → Bool
  | .woke => true
  | _ => false

def workerRank : Worker → Bool → Nat
  | .waiting, asleep => if asleep then 0 else 1
  | .room rows first, asleep => 8 * (rows.length - first) + if asleep then 8 else 9
  | .reading rows first, _ => 8 * (rows.length - first) + 7
  | .publishing _, _ => 5
  | .notifying, _ => 3

def callRank : Option (Call α) → Bool → Nat
  | none, _ => 0
  | some (.awaitingTile _ _), asleep => if asleep then 10 else 11
  | some (.awaitingResult _), asleep => if asleep then 4 else 5
  | some .cancelling, asleep => if asleep then 4 else 5

def requestRank (reader : PleAsyncReader α) : Nat :=
  if reader.requestReady then 8 * (reader.rows.getD []).length + 9 else 0

/-- What is left to do in a call, by both threads. -/
def rank (system : System α) : Nat :=
  workerRank system.worker system.reader.ready +
    callRank system.call system.reader.finished + requestRank system.reader

theorem next_tile_rank (rows : List Row) (first : Nat) (asleep : Bool) :
    workerRank (nextTile rows first) asleep ≤ 8 * (rows.length - first) + 9 := by
  unfold nextTile
  split
  · cases asleep <;> simp [workerRank]
  · simp [workerRank]

theorem begin_rows_rank (rows : Option (List Row)) (asleep : Bool) :
    workerRank (beginRows rows) asleep ≤ 8 * (rows.getD []).length + 9 := by
  match rows with
  | none => simp [beginRows, workerRank]
  | some [] => simp [beginRows, workerRank]
  | some (row :: others) => exact next_tile_rank (row :: others) 0 asleep

/-- A tile is worth more than a turn of the loop and a notification. -/
theorem read_rank (rows : List Row) (first : Nat) (asleep : Bool) :
    workerRank (nextTile rows (first + kRowsPerTile)) asleep + 2 ≤
      workerRank (.reading rows first) asleep := by
  have positive := rows_per_tile_pos
  unfold nextTile
  split
  · cases asleep <;> simp only [workerRank, if_true, if_false, Bool.false_eq_true] <;> omega
  · simp [workerRank]

theorem call_rank_awake (call : Option (Call α)) (asleep : Bool) :
    callRank call false ≤ callRank call asleep + 1 := by
  match call with
  | none => simp [callRank]
  | some (.awaitingTile _ _) => cases asleep <;> simp [callRank]
  | some (.awaitingResult _) => cases asleep <;> simp [callRank]
  | some .cancelling => cases asleep <;> simp [callRank]

theorem worker_rank_awake (worker : Worker) (asleep : Bool) :
    workerRank worker false ≤ workerRank worker asleep + 1 := by
  cases worker <;> cases asleep <;> simp [workerRank]

variable {contents : Row → α} {system after : System α} {event : Event α}

theorem turn_rank (awake : system.reader.ready = false) :
    rank { system with
      worker := (turn contents system.worker system.reader).1
      reader := (turn contents system.worker system.reader).2 } < rank system := by
  unfold rank
  have waking := call_rank_awake system.call system.reader.finished
  cases at_ : system.worker with
  | waiting =>
      by_cases request : system.reader.requestReady
      · have begun := begin_rows_rank system.reader.rows false
        have idle : workerRank .waiting false = 1 := rfl
        simp only [turn, requestRank, request, awake, if_true, if_false, Bool.false_eq_true, idle]
        omega
      · simp [turn, request, workerRank, awake, requestRank]
  | room rows first =>
      by_cases free : system.reader.readyTiles.length < 2 ∨ system.reader.cancelRequested
      · by_cases cancelled : system.reader.cancelRequested
        · simp [turn, cancelled, workerRank, awake]
        · rw [turn, if_pos free, if_neg cancelled]
          simp [workerRank, awake]
      · rw [turn, if_neg free]
        simp [workerRank, awake, requestRank]
  | reading rows first =>
      have falls := read_rank rows first system.reader.ready
      have same : requestRank (turn contents (.reading rows first) system.reader).2 =
          requestRank system.reader := rfl
      rw [same]
      simp only [turn, notifyFinished]
      omega
  | publishing error =>
      have same : requestRank (turn contents (.publishing error) system.reader).2 =
          requestRank system.reader := rfl
      rw [same]
      simp only [turn, workerRank]
      omega
  | notifying =>
      have same : requestRank (turn contents .notifying system.reader).2 =
          requestRank system.reader := rfl
      rw [same]
      simp only [turn, notifyFinished, workerRank, awake, Bool.false_eq_true, if_false]
      omega

/-- Two critical sections of one call: the second has less left to do. -/
theorem resume_rank {call next : Call α} {reader left : PleAsyncReader α} {worker : Worker}
    (awake : reader.finished = false)
    (waits : resume call reader = (.inl next, left)) :
    workerRank worker left.ready + callRank (some next) left.finished + requestRank left <
      workerRank worker reader.ready + callRank (some call) reader.finished +
        requestRank reader := by
  have waking := worker_rank_awake worker reader.ready
  cases call with
  | awaitingTile firstRow rowCount =>
      simp only [resume, awaitTile] at waits
      split at waits
      · split at waits
        · simp [stoppedEarly] at waits
        · split at waits
          · unfold popTile at waits
            split at waits
            · simp at waits
            · split at waits
              · unfold awaitResult at waits
                split at waits
                · simp at waits
                · cases waits
                  simp only [notifyReady, callRank, awake, requestRank, if_true, if_false,
                    Bool.false_eq_true]
                  omega
              · simp at waits
          · simp [stoppedEarly] at waits
      · cases waits
        simp [callRank, awake, requestRank]
  | awaitingResult tile =>
      simp only [resume, awaitResult] at waits
      split at waits
      · simp at waits
      · cases waits
        simp [callRank, awake, requestRank]
  | cancelling =>
      simp only [resume, awaitStopped] at waits
      split at waits
      · simp at waits
      · cases waits
        simp [callRank, awake, requestRank]

theorem inside_step {call : Call α} (inside : system.call = some call)
    (step : Step contents system event after) (stays : event.returns = false) :
    (∃ next, after.call = some next) ∧
      (rank after < rank system ∨ event = .woke ∧ rank after ≤ rank system + 1) := by
  have waits {next : Call α} {left : PleAsyncReader α} {current : Call α}
      (current_ : system.call = some current) (awake : system.reader.finished = false)
      (ended : resume current system.reader = (.inl next, left)) :
      rank { system with reader := left, call := some next } < rank system := by
    unfold rank
    rw [current_]
    exact resume_rank awake ended
  cases step with
  | submit rows outside => simp [inside] at outside
  | take submission outside => simp [inside] at outside
  | cancel outside => simp [inside] at outside
  | resumeTake current submission current_ taking opened awake _ _ ends =>
      cases ended : resume current system.reader with
      | mk result left =>
          cases result with
          | inl next =>
              rw [ended] at ends
              cases ends
              exact ⟨⟨next, rfl⟩, .inl (waits current_ awake ended)⟩
          | inr outcome =>
              rw [ended] at ends
              cases ends
              cases stays
  | resumeCancel current_ awake _ _ ends =>
      cases ended : resume .cancelling system.reader with
      | mk result left =>
          cases result with
          | inl next =>
              rw [ended] at ends
              cases ends
              exact ⟨⟨next, rfl⟩, .inl (waits current_ awake ended)⟩
          | inr outcome =>
              rw [ended] at ends
              cases ends
              cases stays
  | turn awake => exact ⟨⟨call, inside⟩, .inl (turn_rank awake)⟩
  | failRead rows first thrown reads =>
      refine ⟨⟨call, inside⟩, .inl ?_⟩
      simp only [rank, reads, workerRank]
      omega
  | wakeWorker asleep =>
      refine ⟨⟨call, inside⟩, .inr ⟨rfl, ?_⟩⟩
      have waking := worker_rank_awake system.worker system.reader.ready
      have same : requestRank (notifyReady system.reader) = requestRank system.reader := rfl
      simp only [rank, same]
      simp only [notifyReady]
      omega
  | wakeCaller asleep =>
      refine ⟨⟨call, inside⟩, .inr ⟨rfl, ?_⟩⟩
      have waking := call_rank_awake system.call system.reader.finished
      have same : requestRank (notifyFinished system.reader) = requestRank system.reader := rfl
      simp only [rank, same]
      simp only [notifyFinished]
      omega

/-- A call that has not returned has made no more steps than it had left to do
and than threads that woke without a reason took once more. -/
theorem inside_run {call : Call α} {events : List (Event α)} (inside : system.call = some call)
    (run : Run contents system events after) (stays : ∀ event ∈ events, event.returns = false) :
    (∃ next, after.call = some next) ∧
      events.length + rank after ≤ rank system + 2 * events.countP Event.spurious := by
  induction run with
  | here => exact ⟨⟨call, inside⟩, by simp⟩
  | next middle after events event run step ih =>
      obtain ⟨⟨current, current_⟩, bounded⟩ :=
        ih fun event listed => stays event (List.mem_append_left _ listed)
      obtain ⟨onward, falls | ⟨rfl, rises⟩⟩ :=
        inside_step current_ step (stays event (by simp))
      · refine ⟨onward, ?_⟩
        rw [List.length_append, List.countP_append, List.length_singleton]
        omega
      · refine ⟨onward, ?_⟩
        have counted : [Event.woke].countP (@Event.spurious α) = 1 := rfl
        rw [List.length_append, List.countP_append, List.length_singleton, counted]
        omega

/-- Somebody who is not asleep can go on. -/
theorem inside_proceeds {call : Call α} {pledge : Option (Pledge α)}
    (linked : Linked contents system pledge) (inside : system.call = some call) :
    ∃ event after, Step contents system event after ∧ event ≠ .woke := by
  cases linked with
  | vacant vacant => simp [vacant.outside] at inside
  | serving pledge taken popped serving =>
      by_cases ready : system.reader.ready = false
      · exact ⟨_, _, .turn system ready, by simp⟩
      by_cases finished : system.reader.finished = false
      · by_cases cancelling : call = .cancelling
        · subst cancelling
          refine ⟨_, _, .resumeCancel system inside finished _ _ rfl, ?_⟩
          generalize resume _ system.reader = ended
          obtain ⟨next | outcome, left⟩ := ended <;> simp
        · refine ⟨_, _, .resumeTake system call _ inside cancelling serving.opened finished _ _ rfl,
            ?_⟩
          generalize resume _ system.reader = ended
          obtain ⟨next | outcome, left⟩ := ended <;> simp
      rw [Bool.not_eq_false] at ready finished
      -- both asleep: the worker has done what the caller waits for
      exfalso
      have waits := serving.waits
      rw [inside] at waits
      have dozing (unless_ : system.worker ≠ .notifying) : awaited call system.reader = false := by
        obtain ⟨current, same, unready⟩ :=
          (serving.rested.finished finished).resolve_left unless_
        rw [inside] at same
        cases same
        exact unready
      rcases serving.rested.ready ready with ⟨waiting, idle⟩ | ⟨rows, first, room, full, uncancelled⟩
      · have unready := dozing (by simp [waiting])
        have works := serving.works
        rw [waiting] at works
        have result : system.reader.resultReady = true := by
          generalize stored : pledge.failure = failure at works
          cases works with
          | asked _ _ rest flags => simp [flags.requestReady] at idle
          | published _ _ count rest flags => exact flags.resultReady
        cases call <;> simp [awaited, result] at unready
      · have unready := dozing (by simp [room])
        have works := serving.works
        rw [room] at works
        rw [uncancelled] at waits
        generalize stored : pledge.failure = failure at works
        cases works with
        | asked _ _ rest => simp [AtRest] at rest
        | published _ _ count rest => simp [AtRest] at rest
        | room _ count flags queued more =>
            cases waits with
            | tile =>
                cases count with
                | zero => simp [queued, tilesFrom] at full
                | succ fewer =>
                    simp [awaited, frontIs, queued, tiles_from_succ, tileAt] at unready
            | result last => omega

theorem submission_accepted {pledge : Option (Pledge α)} (linked : Linked contents system pledge)
    (closed : system.submission = none) {rows : List Row} (some_ : rows ≠ []) :
    (submit rows system.reader).1 = .ok () := by
  cases linked with
  | vacant vacant => rw [submit_vacant rows vacant.flags, if_neg some_]
  | serving pledge taken popped serving => simp [serving.opened] at closed

/-- The protocol of the reader, over every run of the two threads: the pledge is
upheld, a caller without a submission may submit, and no call blocks for ever. -/
theorem reader_protocol (contents : Row → α) {events : List (Event α)} {system : System α}
    (run : Run contents constructed events system) :
    (∃ pledge, Upheld contents events pledge ∧
      pledge.map Pledge.rows = system.submission.map Submission.rows) ∧
    (system.submission = none → ∀ rows ≠ [], (submit rows system.reader).1 = .ok ()) ∧
    ∀ call, system.call = some call →
      (∃ event after, Step contents system event after ∧ event ≠ .woke) ∧
      ∃ bound, ∀ more after, Run contents system more after →
        (∀ event ∈ more, event.returns = false) →
          more.length ≤ bound + 2 * more.countP Event.spurious := by
  obtain ⟨pledge, upheld, linked⟩ := run_linked run
  refine ⟨⟨pledge, upheld, ?_⟩, ?_, ?_⟩
  · cases linked with
    | vacant vacant => simp [vacant.closed]
    | serving pledge taken popped serving => simp [serving.opened]
  · intro closed rows some_
    exact submission_accepted linked closed some_
  · intro call inside
    refine ⟨inside_proceeds linked inside, rank system, fun more after onward stays => ?_⟩
    have bounded := (inside_run inside onward stays).2
    omega

/-- A caller that sleeps in its first take while the reader thread has yet to start. -/
theorem reader_protocol_sleeping :
    ∃ (events : List (Event Row)) (system : System Row),
      system.call = some (.awaitingTile 0 1) ∧ system.reader.finished = true ∧
      (∃ event after, Step id system event after ∧ event ≠ .woke) ∧
      ∃ pledge, Upheld id events pledge := by
  have run := Run.next _ _ _ _ _
    (Run.next _ _ _ _ _ (@Run.here Row id constructed) (.submit _ [7] rfl rfl))
    (.take _ ⟨[7], 0⟩ rfl rfl _ _ rfl)
  have kept := reader_protocol id run
  obtain ⟨pledge, upheld, -⟩ := kept.1
  exact ⟨_, _, rfl, rfl, (kept.2.2 _ rfl).1, pledge, upheld⟩

end Returning

end Q38.ReaderThreads
