import Q38Runtime.ReaderPledge

/-!
The two threads keep the pledge. A state in which nothing is submitted has
nothing left of earlier submissions; in every other state the queue, the thread
and the call that is running agree about how far the submission is.
-/
namespace Q38.ReaderThreads
open Contracts Imperative PleHash PleReadAhead

variable {α : Type} (contents : Row → α)

section Linking

/-- The rows before the first that is given out are the rows taken, or the last
tile as well while the caller waits for the result. -/
inductive Waits (rows : List Row) (taken : Nat) : Option (Call α) → Bool → Nat → Prop
  | outside : Waits rows taken none false taken
  | tile : Waits rows taken
      (some (.awaitingTile taken (min kRowsPerTile (rows.length - taken)))) false taken
  | result (last : rows.length ≤ taken + kRowsPerTile) :
      Waits rows taken (some (.awaitingResult (tileAt contents rows taken))) false
        (taken + kRowsPerTile)
  | cancelling : Waits rows taken (some .cancelling) true taken

/-- Nobody sleeps through what it waits for: the reader thread has nothing to
do, and the caller sleeps for good only while its predicate is false. -/
structure Rested (system : System α) : Prop where
  ready : system.reader.ready = true →
    system.worker = .waiting ∧ system.reader.requestReady = false ∨
      ∃ rows first, system.worker = .room rows first ∧ 2 ≤ system.reader.readyTiles.length ∧
        system.reader.cancelRequested = false
  finished : system.reader.finished = true →
    system.worker = .notifying ∨ ∃ call, system.call = some call ∧
      awaited call system.reader = false

/-- The reader has nothing left of an earlier submission. -/
structure Vacant (system : System α) : Prop where
  outside : system.call = none
  closed : system.submission = none
  rest : AtRest system.worker
  flags : Flags system.reader false false false
  empty : system.reader.readyTiles = []
  uncancelled : system.reader.cancelRequested = false
  rested : Rested system

/-- A submission is open, and the pledge is about its rows. -/
structure Serving (system : System α) (pledge : Pledge α) (taken popped : Nat) : Prop where
  opened : system.submission = some ⟨pledge.rows, taken⟩
  left : taken < pledge.rows.length
  total : system.reader.totalRows = pledge.rows.length
  delivered : pledge.delivered = (pledge.rows.take taken).map contents
  waits : Waits contents pledge.rows taken system.call system.reader.cancelRequested popped
  works : Works contents pledge.rows popped system.worker system.reader pledge.failure
  rested : Rested system

inductive Linked (system : System α) : Option (Pledge α) → Prop
  | vacant (vacant : Vacant system) : Linked system none
  | serving (pledge : Pledge α) (taken popped : Nat)
      (serving : Serving contents system pledge taken popped) : Linked system (some pledge)

theorem constructed_linked : Linked contents (constructed : System α) none :=
  .vacant ⟨rfl, rfl, .inl rfl, ⟨rfl, rfl, rfl⟩, rfl, rfl, ⟨by simp [constructed],
    by simp [constructed]⟩⟩

theorem submit_vacant (rows : List Row) {reader : PleAsyncReader α}
    (flags : Flags reader false false false) :
    submit rows reader =
      if rows = [] then (.error (.invalidArgument "PLE async row set is empty"), reader)
      else (.ok (), notifyReady
        { reader with
          rows := some rows
          error := none
          totalRows := rows.length
          cancelRequested := false
          requestReady := true }) := by
  by_cases empty : rows = []
  · rw [if_pos empty]
    simp [submit, empty, Proc.ensure, Proc.throwing, bind, Proc.bind]
  · rw [if_neg empty]
    simp [submit, empty, Proc.ensure, Proc.read, Proc.write, bind, Proc.bind, Proc.pure,
      flags.requestReady, flags.working, flags.resultReady]

variable {contents} {system after : System α} {event : Event α} {pledge : Pledge α}
  {taken popped : Nat}

theorem submit_serves (vacant : Vacant system) (rows : List Row) :
    ∃ next, Serves contents none (.submitted rows (submit rows system.reader).1) next ∧
      Linked contents
        { system with
          reader := (submit rows system.reader).2
          submission :=
            if (submit rows system.reader).1.isOk then some { rows := rows, taken := 0 }
            else none } next := by
  rw [submit_vacant rows vacant.flags]
  by_cases empty : rows = []
  · rw [if_pos empty, empty]
    exact ⟨none, .refused, .vacant ⟨vacant.outside, rfl, vacant.rest, vacant.flags, vacant.empty,
      vacant.uncancelled, vacant.rested.ready, vacant.rested.finished⟩⟩
  · rw [if_neg empty]
    refine ⟨some ⟨rows, [], none⟩, .accepted rows empty, .serving _ 0 0 ?_⟩
    constructor
    case opened => rfl
    case left => exact List.length_pos_of_ne_nil empty
    case total => rfl
    case delivered => rfl
    case waits =>
      rw [vacant.outside]
      exact .outside
    case works =>
      exact .asked _ _ vacant.rest ⟨rfl, vacant.flags.working, vacant.flags.resultReady⟩ rfl
        vacant.empty rfl
    case rested =>
      refine ⟨fun asleep => absurd asleep (by simp [notifyReady]), fun asleep => ?_⟩
      rcases vacant.rested.finished asleep with notifying | ⟨call, inside, -⟩
      · exact .inl notifying
      · simp [vacant.outside] at inside

theorem works_busy {reader : PleAsyncReader α} {rows : List Row} {worker : Worker}
    {failure : Option Thrown} (works : Works contents rows popped worker reader failure) :
    (reader.requestReady || reader.working || reader.resultReady) = true := by
  cases works with
  | asked _ _ rest flags => simp [flags.requestReady]
  | room _ count flags => simp [flags.working]
  | reading _ count flags => simp [flags.working]
  | publishing _ count _ flags => simp [flags.working]
  | published _ _ count rest flags => simp [flags.resultReady]

/-- A result is published: the thread is at rest and its failure is stored. -/
theorem works_published {reader : PleAsyncReader α} {rows : List Row} {worker : Worker}
    {failure : Option Thrown} (works : Works contents rows popped worker reader failure)
    (result : reader.resultReady = true) :
    AtRest worker ∧ reader.requestReady = false ∧ reader.working = false ∧
      failure = reader.error ∧ ∃ count, reader.readyTiles = tilesFrom contents rows popped count ∧
        popped + kRowsPerTile * count < rows.length + kRowsPerTile ∧
        (reader.error = none → reader.cancelRequested = true ∨
          rows.length ≤ popped + kRowsPerTile * count) ∧
        (reader.error ≠ none → popped + kRowsPerTile * count < rows.length) := by
  cases works with
  | asked _ _ rest flags => simp [flags.resultReady] at result
  | room _ count flags => simp [flags.resultReady] at result
  | reading _ count flags => simp [flags.resultReady] at result
  | publishing _ count _ flags => simp [flags.resultReady] at result
  | published _ _ count rest flags queued inside complete missing =>
      exact ⟨rest, flags.requestReady, flags.working, rfl, count, queued, inside, complete, missing⟩

/-- Everything about an open submission that a call of the caller keeps. -/
structure Held (contents : Row → α) (system : System α) (pledge : Pledge α)
    (taken popped : Nat) : Prop where
  opened : system.submission = some ⟨pledge.rows, taken⟩
  left : taken < pledge.rows.length
  total : system.reader.totalRows = pledge.rows.length
  delivered : pledge.delivered = (pledge.rows.take taken).map contents
  works : Works contents pledge.rows popped system.worker system.reader pledge.failure
  ready : system.reader.ready = true →
    system.worker = .waiting ∧ system.reader.requestReady = false ∨
      ∃ rows first, system.worker = .room rows first ∧ 2 ≤ system.reader.readyTiles.length ∧
        system.reader.cancelRequested = false

theorem Serving.held (serving : Serving contents system pledge taken popped) :
    Held contents system pledge taken popped :=
  ⟨serving.opened, serving.left, serving.total, serving.delivered, serving.works,
    serving.rested.ready⟩

theorem Held.serving (held : Held contents system pledge taken popped)
    (waits : Waits contents pledge.rows taken system.call system.reader.cancelRequested popped)
    (finished : system.reader.finished = true →
      system.worker = .notifying ∨ ∃ call, system.call = some call ∧
        awaited call system.reader = false) :
    Serving contents system pledge taken popped :=
  ⟨held.opened, held.left, held.total, held.delivered, waits, held.works, held.ready, finished⟩

/-- A call that goes to sleep. -/
theorem sleep_linked {call : Call α} (held : Held contents system pledge taken popped)
    (waits : Waits contents pledge.rows taken (some call) system.reader.cancelRequested popped)
    (unready : awaited call system.reader = false) :
    Linked contents
      { system with reader := { system.reader with finished := true }, call := some call }
      (some pledge) := by
  apply Linked.serving pledge taken popped
  have same : Works contents pledge.rows popped system.worker
      { system.reader with finished := true } pledge.failure :=
    held.works.of_same ⟨rfl, rfl, rfl, rfl, rfl, rfl⟩ id
  refine Held.serving ⟨held.opened, held.left, held.total, held.delivered, same, held.ready⟩ waits
    fun _ => .inr ⟨call, rfl, ?_⟩
  cases call <;> exact unready

/-- The reader after a result has been taken, and the queue is empty. -/
theorem vacant_after {reader : PleAsyncReader α} {worker : Worker} (rest : AtRest worker)
    (request : reader.requestReady = false) (working : reader.working = false)
    (result : reader.resultReady = false) (empty : reader.readyTiles = [])
    (uncancelled : reader.cancelRequested = false)
    (ready : reader.ready = true → worker = .waiting)
    (finished : reader.finished = true → worker = .notifying) :
    Vacant (α := α) { reader := reader, worker := worker, call := none, submission := none } :=
  ⟨rfl, rfl, rest, ⟨request, working, result⟩, empty, uncancelled,
    fun asleep => .inl ⟨ready asleep, request⟩, fun asleep => .inl (finished asleep)⟩

theorem at_rest_ready {reader : PleAsyncReader α} {worker : Worker} (rest : AtRest worker)
    (ready : worker = .waiting ∧ reader.requestReady = false ∨
      ∃ rows first, worker = .room rows first ∧ 2 ≤ reader.readyTiles.length ∧
        reader.cancelRequested = false) : worker = .waiting := by
  rcases ready with ⟨waiting, -⟩ | ⟨rows, first, room, -⟩
  · exact waiting
  · rcases rest with wrong | wrong <;> simp [room] at wrong

theorem tiles_from_length (rows : List Row) (first count : Nat) :
    (tilesFrom contents rows first count).length = count := by simp [tilesFrom]

theorem tile_at_length (rows : List Row) (first : Nat) :
    (tileAt contents rows first).contents.length =
      min kRowsPerTile (rows.length - first) := by simp [tileAt]

/-- What has been delivered and the next tile. -/
theorem delivered_tile (held : Held contents system pledge taken popped) :
    pledge.delivered ++ (tileAt contents pledge.rows taken).contents =
      (pledge.rows.take
        (taken + min kRowsPerTile (pledge.rows.length - taken))).map contents := by
  rw [held.delivered, List.take_add, List.map_append, tileAt]

theorem tile_nonempty (held : Held contents system pledge taken popped) :
    (tileAt contents pledge.rows taken).contents ≠ [] := by
  apply List.ne_nil_of_length_pos
  rw [tile_at_length]
  exact Nat.lt_min.mpr ⟨rows_per_tile_pos, Nat.sub_pos_of_lt held.left⟩

theorem await_result_serves (held : Held contents system pledge taken (taken + kRowsPerTile))
    (last : pledge.rows.length ≤ taken + kRowsPerTile)
    (uncancelled : system.reader.cancelRequested = false)
    (awake : system.reader.finished = true → system.worker = .notifying)
    (ends : takeEnds ⟨pledge.rows, taken⟩
      (awaitResult (tileAt contents pledge.rows taken) system.reader) system = (event, after)) :
    ∃ next, Serves contents (some pledge) event next ∧ Linked contents after next := by
  unfold awaitResult at ends
  split at ends
  case isFalse unready =>
    cases ends
    refine ⟨some pledge, .quiet _, sleep_linked held ?_ (by simpa using unready)⟩
    rw [uncancelled]
    exact .result last
  case isTrue result =>
    obtain ⟨rest, request, working, stored, count, queued, inside, -, missing⟩ :=
      works_published held.works result
    -- nothing lies behind the last tile, so nothing was missing either
    have none_left : count = 0 := by
      by_contra some_left
      have one := Nat.mul_le_mul_left kRowsPerTile (Nat.one_le_iff_ne_zero.mpr some_left)
      omega
    have sound : system.reader.error = none := by
      by_contra failed
      have short := missing failed
      omega
    have final : taken + min kRowsPerTile (pledge.rows.length - taken) = pledge.rows.length := by
      have left := held.left
      omega
    have over_ : (Submission.mk pledge.rows taken).advance = none := if_pos final
    simp only [takeEnds, sound, outcome, Except.isOk, Except.toBool, if_true, over_,
      Prod.mk.injEq] at ends
    obtain ⟨rfl, rfl⟩ := ends
    refine ⟨none, .completed pledge _ (tile_nonempty held) ?_ (stored.trans sound), .vacant ?_⟩
    · rw [delivered_tile held, final, List.take_length]
    · exact vacant_after rest request working rfl (by simp [queued, none_left, tilesFrom])
        uncancelled (fun asleep => at_rest_ready rest (held.ready asleep)) awake

theorem take_ends_reader (submission : Submission) (ended : Section α)
    (reader : PleAsyncReader α) (system : System α) :
    takeEnds submission ended { system with reader := reader } =
      takeEnds submission ended system := by
  obtain ⟨call | outcome, left⟩ := ended <;> rfl

/-- The caller has the front of the queue. -/
theorem pop_held {tile : PleTileResult α} {others : List (PleTileResult α)}
    (held : Held contents system pledge taken popped)
    (front : system.reader.readyTiles = tile :: others) :
    tile = tileAt contents pledge.rows popped ∧
      Held contents
        { system with reader := notifyReady { system.reader with readyTiles := others } } pledge
        taken (popped + kRowsPerTile) := by
  obtain ⟨same, works⟩ := pop_works held.works front
  exact ⟨same, held.opened, held.left, held.total, held.delivered,
    works.of_same ⟨rfl, rfl, rfl, rfl, rfl, rfl⟩ id, fun asleep => by simp [notifyReady] at asleep⟩

theorem pop_tile_serves (held : Held contents system pledge taken (taken + kRowsPerTile))
    (uncancelled : system.reader.cancelRequested = false)
    (awake : system.reader.finished = true → system.worker = .notifying)
    (ends : takeEnds ⟨pledge.rows, taken⟩
      (popTile taken (min kRowsPerTile (pledge.rows.length - taken))
        (tileAt contents pledge.rows taken) system.reader) system = (event, after)) :
    ∃ next, Serves contents (some pledge) event next ∧ Linked contents after next := by
  have left := held.left
  rw [popTile, if_neg (by simp [tileAt])] at ends
  split at ends
  case isTrue final =>
    rw [held.total] at final
    exact await_result_serves held (by omega) uncancelled awake ends
  case isFalse more =>
    rw [held.total] at more
    have whole : min kRowsPerTile (pledge.rows.length - taken) = kRowsPerTile := by omega
    have inside : taken + kRowsPerTile < pledge.rows.length := by omega
    have onward : (Submission.mk pledge.rows taken).advance =
        some ⟨pledge.rows, taken + kRowsPerTile⟩ := by
      simp only [Submission.advance, Submission.count, whole]
      rw [if_neg (by omega)]
    simp only [takeEnds, Except.isOk, Except.toBool, if_true, onward, Prod.mk.injEq] at ends
    obtain ⟨rfl, rfl⟩ := ends
    have served := delivered_tile held
    rw [whole] at served
    refine ⟨some { pledge with
        delivered := pledge.delivered ++ (tileAt contents pledge.rows taken).contents },
      .delivered pledge _ (tile_nonempty held) ?_ ?_,
      .serving _ (taken + kRowsPerTile) (taken + kRowsPerTile) ?_⟩
    · rw [served]
      exact (List.take_prefix _ _).map contents
    · rw [served]
      intro complete
      have lengths := congrArg List.length complete
      simp only [List.length_map, List.length_take] at lengths
      omega
    · refine Held.serving ⟨rfl, inside, held.total, served, held.works, held.ready⟩ ?_
        fun asleep => .inl (awake asleep)
      rw [uncancelled]
      exact .outside

theorem await_tile_serves (held : Held contents system pledge taken taken)
    (uncancelled : system.reader.cancelRequested = false)
    (awake : system.reader.finished = true → system.worker = .notifying)
    (ends : takeEnds ⟨pledge.rows, taken⟩
      (awaitTile taken (min kRowsPerTile (pledge.rows.length - taken)) system.reader) system =
        (event, after)) :
    ∃ next, Serves contents (some pledge) event next ∧ Linked contents after next := by
  unfold awaitTile at ends
  split at ends
  case isFalse unready =>
    cases ends
    refine ⟨some pledge, .quiet _, sleep_linked held ?_ (by simpa using unready)⟩
    rw [uncancelled]
    exact .tile
  case isTrue ready =>
    cases queue : system.reader.readyTiles with
    | cons tile others =>
        obtain ⟨same, popped⟩ := pop_held held queue
        have front : tile.firstRow = taken := by rw [same]; rfl
        simp only [queue, front, if_true] at ends
        rw [same, ← take_ends_reader _ _
          (notifyReady { system.reader with readyTiles := others })] at ends
        exact pop_tile_serves popped uncancelled awake ends
    | nil =>
        have result : system.reader.resultReady = true := by
          simpa [awaited, frontIs, queue] using ready
        obtain ⟨rest, request, working, stored, count, queued, -, complete, -⟩ :=
          works_published held.works result
        have none_left : count = 0 := by
          rw [← tiles_from_length pledge.rows taken count, ← queued, queue]
          rfl
        -- rows are left to take, so the thread stopped for a failure
        cases failed : system.reader.error with
        | none =>
            have left := held.left
            have finished := complete failed
            rw [uncancelled, none_left] at finished
            simp only [Bool.false_eq_true, false_or, Nat.mul_zero, Nat.add_zero] at finished
            omega
        | some thrown =>
            simp only [queue, stoppedEarly, failed, Option.getD_some, result, if_true, takeEnds,
              Except.isOk, Except.toBool, Bool.false_eq_true, if_false, Prod.mk.injEq] at ends
            obtain ⟨rfl, rfl⟩ := ends
            refine ⟨none, .reported pledge thrown (stored.trans failed), .vacant ?_⟩
            exact vacant_after rest request working rfl rfl uncancelled
              (fun asleep => at_rest_ready rest (held.ready asleep)) awake

theorem await_stopped_serves (held : Held contents system pledge taken taken)
    (cancelled : system.reader.cancelRequested = true)
    (awake : system.reader.finished = true → system.worker = .notifying)
    (ends : cancelEnds (awaitStopped system.reader) system = (event, after)) :
    ∃ next, Serves contents (some pledge) event next ∧ Linked contents after next := by
  unfold awaitStopped at ends
  split at ends
  case isFalse unready =>
    cases ends
    refine ⟨some pledge, .quiet _, sleep_linked held ?_ (by simpa using unready)⟩
    rw [cancelled]
    exact .cancelling
  case isTrue ready =>
    cases ends
    have result : system.reader.resultReady = true := by
      have busy := works_busy held.works
      simp only [awaited, Bool.or_eq_true, Bool.and_eq_true, Bool.not_eq_true'] at ready
      rcases ready with result | ⟨request, working⟩
      · exact result
      · simpa [request, working] using busy
    obtain ⟨rest, request, working, -⟩ := works_published held.works result
    refine ⟨none, .cancelled _, .vacant ?_⟩
    exact vacant_after rest request working rfl rfl rfl
      (fun asleep => at_rest_ready rest (held.ready asleep)) awake

/-- A critical section of the reader thread leaves nobody asleep for good. -/
theorem turn_rested (awake : system.reader.ready = false) (rested : Rested system)
    (calm : system.worker = .waiting → system.reader.requestReady = true →
      system.reader.resultReady = false) :
    Rested
      { system with
        worker := (turn contents system.worker system.reader).1
        reader := (turn contents system.worker system.reader).2 } := by
  have dozing (asleep : system.reader.finished = true) (unless_ : system.worker ≠ .notifying) :
      ∃ call, system.call = some call ∧ awaited call system.reader = false :=
    (rested.finished asleep).resolve_left unless_
  cases at_ : system.worker with
  | waiting =>
      simp only [turn]
      split
      · next request =>
          refine ⟨fun asleep => by simp [awake] at asleep, fun asleep => .inr ?_⟩
          obtain ⟨call, inside, unready⟩ := dozing asleep (by simp [at_])
          refine ⟨call, inside, ?_⟩
          cases call with
          | awaitingTile | awaitingResult => exact unready
          | cancelling => simpa [awaited] using calm at_ request
      · next idle =>
          refine ⟨fun _ => .inl ⟨rfl, by simpa using idle⟩, fun asleep => .inr ?_⟩
          obtain ⟨call, inside, unready⟩ := dozing asleep (by simp [at_])
          exact ⟨call, inside, by cases call <;> exact unready⟩
  | room rows first =>
      simp only [turn]
      split
      · refine ⟨fun asleep => by simp [awake] at asleep, fun asleep => .inr ?_⟩
        exact dozing asleep (by simp [at_])
      · next full =>
          simp only [not_or, Nat.not_lt, Bool.not_eq_true] at full
          refine ⟨fun _ => .inr ⟨rows, first, rfl, full.1, full.2⟩, fun asleep => .inr ?_⟩
          obtain ⟨call, inside, unready⟩ := dozing asleep (by simp [at_])
          exact ⟨call, inside, by cases call <;> exact unready⟩
  | reading rows first =>
      exact ⟨fun asleep => by simp [turn, notifyFinished, awake] at asleep,
        fun asleep => by simp [turn, notifyFinished] at asleep⟩
  | publishing error => exact ⟨fun asleep => by simp [turn, awake] at asleep, fun _ => .inl rfl⟩
  | notifying =>
      exact ⟨fun asleep => by simp [turn, notifyFinished, awake] at asleep,
        fun asleep => by simp [turn, notifyFinished] at asleep⟩

theorem turn_keeps (worker : Worker) (reader : PleAsyncReader α) :
    (turn contents worker reader).2.totalRows = reader.totalRows ∧
      (turn contents worker reader).2.cancelRequested = reader.cancelRequested := by
  cases worker with
  | waiting => simp only [turn]; split <;> exact ⟨rfl, rfl⟩
  | room => simp only [turn]; split <;> exact ⟨rfl, rfl⟩
  | reading | publishing | notifying => exact ⟨rfl, rfl⟩

theorem turn_vacant (vacant : Vacant system) (awake : system.reader.ready = false) :
    Vacant
      { system with
        worker := (turn contents system.worker system.reader).1
        reader := (turn contents system.worker system.reader).2 } := by
  have rested := @turn_rested α contents system awake vacant.rested fun _ _ => vacant.flags.resultReady
  obtain ⟨request, working, result⟩ := vacant.flags
  rcases vacant.rest with waiting | notifying
  · rw [waiting] at rested ⊢
    rw [turn, if_neg (by simp [request])] at rested ⊢
    exact ⟨vacant.outside, vacant.closed, .inl rfl, ⟨request, working, result⟩, vacant.empty,
      vacant.uncancelled, rested⟩
  · rw [notifying] at rested ⊢
    exact ⟨vacant.outside, vacant.closed, .inl rfl, ⟨request, working, result⟩, vacant.empty,
      vacant.uncancelled, rested⟩

theorem turn_serving (serving : Serving contents system pledge taken popped)
    (awake : system.reader.ready = false) :
    Serving contents
      { system with
        worker := (turn contents system.worker system.reader).1
        reader := (turn contents system.worker system.reader).2 } pledge taken popped := by
  obtain ⟨total, cancels⟩ := @turn_keeps α contents system.worker system.reader
  have some_ : pledge.rows ≠ [] := by
    intro none_
    have left := serving.left
    simp [none_] at left
  constructor
  case opened => exact serving.opened
  case left => exact serving.left
  case total => exact total.trans serving.total
  case delivered => exact serving.delivered
  case waits => simpa only [cancels] using serving.waits
  case works => exact turn_works some_ serving.works
  case rested =>
    apply turn_rested awake serving.rested
    intro _ request
    by_contra result
    rw [Bool.not_eq_false] at result
    obtain ⟨-, idle, -⟩ := works_published serving.works result
    rw [idle] at request
    cases request

theorem wake_rested {reader : PleAsyncReader α} (rested : Rested system)
    (wakes : reader = notifyReady system.reader ∨ reader = notifyFinished system.reader) :
    Rested { system with reader := reader } := by
  rcases wakes with rfl | rfl
  · refine ⟨fun asleep => by simp [notifyReady] at asleep, fun asleep => ?_⟩
    rcases rested.finished asleep with notifying | ⟨call, inside, unready⟩
    · exact .inl notifying
    · exact .inr ⟨call, inside, by cases call <;> exact unready⟩
  · exact ⟨rested.ready, fun asleep => by simp [notifyFinished] at asleep⟩

theorem wake_linked {reader : PleAsyncReader α} {pledge : Option (Pledge α)}
    (linked : Linked contents system pledge)
    (wakes : reader = notifyReady system.reader ∨ reader = notifyFinished system.reader) :
    Linked contents { system with reader := reader } pledge := by
  have same : reader.rows = system.reader.rows ∧ reader.error = system.reader.error ∧
      reader.requestReady = system.reader.requestReady ∧
      reader.working = system.reader.working ∧ reader.resultReady = system.reader.resultReady ∧
      reader.readyTiles = system.reader.readyTiles ∧
      reader.cancelRequested = system.reader.cancelRequested ∧
      reader.totalRows = system.reader.totalRows := by
    rcases wakes with rfl | rfl <;> exact ⟨rfl, rfl, rfl, rfl, rfl, rfl, rfl, rfl⟩
  obtain ⟨rows, error, request, working, result, tiles, cancels, total⟩ := same
  cases linked with
  | vacant vacant =>
      exact .vacant ⟨vacant.outside, vacant.closed, vacant.rest,
        ⟨request.trans vacant.flags.1, working.trans vacant.flags.2,
          result.trans vacant.flags.3⟩,
        tiles.trans vacant.empty, cancels.trans vacant.uncancelled,
        wake_rested vacant.rested wakes⟩
  | serving pledge taken popped serving =>
      refine .serving pledge taken popped ⟨serving.opened, serving.left, total.trans serving.total,
        serving.delivered, ?_, ?_, wake_rested serving.rested wakes⟩
      · simpa only [cancels] using serving.waits
      · exact serving.works.of_same ⟨rows, error, request, working, result, tiles⟩
          (fun cancelled => cancels.trans cancelled)

theorem Serving.outside (serving : Serving contents system pledge taken popped)
    (outside : system.call = none) :
    popped = taken ∧ system.reader.cancelRequested = false ∧
      (system.reader.finished = true → system.worker = .notifying) := by
  have waits := serving.waits
  rw [outside] at waits
  generalize system.reader.cancelRequested = cancelled at waits ⊢
  cases waits
  refine ⟨rfl, rfl, fun asleep => ?_⟩
  rcases serving.rested.finished asleep with notifying | ⟨call, inside, -⟩
  · exact notifying
  · simp [outside] at inside

theorem take_serves {submission : Submission} {pledge : Option (Pledge α)}
    (linked : Linked contents system pledge) (outside : system.call = none)
    (opened : system.submission = some submission)
    (ends : takeEnds submission (take submission.taken submission.count system.reader) system =
      (event, after)) :
    ∃ next, Serves contents pledge event next ∧ Linked contents after next := by
  cases linked with
  | vacant vacant => simp [vacant.closed] at opened
  | serving pledge taken popped serving =>
      rw [serving.opened] at opened
      cases opened
      obtain ⟨rfl, uncancelled, awake⟩ := serving.outside outside
      have left := serving.left
      have positive := rows_per_tile_pos
      rw [take, if_neg (by simp only [Submission.count, serving.total]; omega)] at ends
      exact await_tile_serves serving.held uncancelled awake ends

theorem cancel_serves {pledge : Option (Pledge α)} (linked : Linked contents system pledge)
    (outside : system.call = none)
    (ends : cancelEnds (cancel system.reader) system = (event, after)) :
    ∃ next, Serves contents pledge event next ∧ Linked contents after next := by
  cases linked with
  | vacant vacant =>
      obtain ⟨request, working, result⟩ := vacant.flags
      rw [cancel, if_pos (by simp [request, working, result])] at ends
      cases ends
      exact ⟨none, .cancelled none, .vacant ⟨rfl, rfl, vacant.rest, ⟨request, working, result⟩,
        vacant.empty, vacant.uncancelled, vacant.rested.ready, fun asleep =>
          .inl ((vacant.rested.finished asleep).resolve_right fun ⟨call, inside, _⟩ => by
            simp [vacant.outside] at inside)⟩⟩
  | serving pledge taken popped serving =>
      obtain ⟨rfl, uncancelled, -⟩ := serving.outside outside
      have busy := works_busy serving.works
      rw [cancel, if_neg (by
        intro idle
        simp only [Bool.and_eq_true, Bool.not_eq_true'] at idle
        simp [idle] at busy)] at ends
      have held : Held contents
          { system with
            reader := notifyFinished
              (notifyReady { system.reader with cancelRequested := true }) } pledge
          popped popped :=
        ⟨serving.opened, serving.left, serving.total, serving.delivered,
          serving.works.of_same ⟨rfl, rfl, rfl, rfl, rfl, rfl⟩ (fun _ => rfl),
          fun asleep => by simp [notifyFinished, notifyReady] at asleep⟩
      have moved : cancelEnds (awaitStopped
          (notifyFinished (notifyReady { system.reader with cancelRequested := true })))
          { system with
            reader := notifyFinished
              (notifyReady { system.reader with cancelRequested := true }) } = (event, after) := by
        rw [← ends]
        generalize awaitStopped _ = ended
        obtain ⟨call | outcome, left⟩ := ended <;> rfl
      exact await_stopped_serves held rfl (fun asleep => by simp [notifyFinished] at asleep) moved

theorem resume_take_serves {submission : Submission} {call : Call α} {pledge : Option (Pledge α)}
    (linked : Linked contents system pledge) (inside : system.call = some call)
    (taking : call ≠ .cancelling) (opened : system.submission = some submission)
    (awake : system.reader.finished = false)
    (ends : takeEnds submission (resume call system.reader) system = (event, after)) :
    ∃ next, Serves contents pledge event next ∧ Linked contents after next := by
  cases linked with
  | vacant vacant => simp [vacant.closed] at opened
  | serving pledge taken popped serving =>
      rw [serving.opened] at opened
      cases opened
      have held := serving.held
      have waits := serving.waits
      rw [inside] at waits
      have doze : system.reader.finished = true → system.worker = .notifying :=
        fun asleep => by simp [awake] at asleep
      generalize flag : system.reader.cancelRequested = cancelled at waits
      cases waits with
      | tile => exact await_tile_serves held flag doze ends
      | result last => exact await_result_serves held last flag doze ends
      | cancelling => exact absurd rfl taking

theorem resume_cancel_serves {pledge : Option (Pledge α)}
    (linked : Linked contents system pledge) (inside : system.call = some .cancelling)
    (awake : system.reader.finished = false)
    (ends : cancelEnds (resume .cancelling system.reader) system = (event, after)) :
    ∃ next, Serves contents pledge event next ∧ Linked contents after next := by
  cases linked with
  | vacant vacant => simp [vacant.outside] at inside
  | serving pledge taken popped serving =>
      have held := serving.held
      have waits := serving.waits
      rw [inside] at waits
      generalize flag : system.reader.cancelRequested = cancelled at waits
      cases waits
      exact await_stopped_serves held flag (fun asleep => by simp [awake] at asleep) ends

theorem step_linked {pledge : Option (Pledge α)} (linked : Linked contents system pledge)
    (step : Step contents system event after) :
    ∃ next, Serves contents pledge event next ∧ Linked contents after next := by
  cases step with
  | submit rows outside closed =>
      cases linked with
      | vacant vacant => exact submit_serves vacant rows
      | serving pledge taken popped serving => simp [serving.opened] at closed
  | take submission outside opened _ _ ends => exact take_serves linked outside opened ends
  | cancel outside _ _ ends => exact cancel_serves linked outside ends
  | resumeTake call submission inside taking opened awake _ _ ends =>
      exact resume_take_serves linked inside taking opened awake ends
  | resumeCancel inside awake _ _ ends => exact resume_cancel_serves linked inside awake ends
  | turn awake =>
      refine ⟨pledge, .quiet pledge, ?_⟩
      cases linked with
      | vacant vacant => exact .vacant (turn_vacant vacant awake)
      | serving pledge taken popped serving =>
          exact .serving pledge taken popped (turn_serving serving awake)
  | failRead rows first thrown reads =>
      cases linked with
      | vacant vacant =>
          have rest := vacant.rest
          rw [reads] at rest
          simp [AtRest] at rest
      | serving pledge taken popped serving =>
          have works := serving.works
          rw [reads] at works
          obtain ⟨fresh, works⟩ := fail_works thrown works
          refine ⟨_, .failed pledge thrown fresh, .serving _ taken popped ⟨serving.opened,
            serving.left, serving.total, serving.delivered, serving.waits, works, ?_, ?_⟩⟩
          · intro asleep
            rcases serving.rested.ready asleep with ⟨waiting, -⟩ | ⟨rows, first, room, -⟩
            · simp [reads] at waiting
            · simp [reads] at room
          · intro asleep
            rcases serving.rested.finished asleep with notifying | called
            · simp [reads] at notifying
            · exact .inr called
  | wakeWorker => exact ⟨pledge, .woke pledge, wake_linked linked (.inl rfl)⟩
  | wakeCaller => exact ⟨pledge, .woke pledge, wake_linked linked (.inr rfl)⟩

/-- What a whole run does is upheld by a pledge that the state is linked to. -/
theorem run_linked {events : List (Event α)} (run : Run contents constructed events system) :
    ∃ pledge, Upheld contents events pledge ∧ Linked contents system pledge := by
  induction run with
  | here => exact ⟨none, .start, constructed_linked contents⟩
  | next middle after events event run step ih =>
      obtain ⟨pledge, upheld, linked⟩ := ih
      obtain ⟨next, serves, linked'⟩ := step_linked linked step
      exact ⟨next, .next events event pledge next upheld serves, linked'⟩

end Linking

end Q38.ReaderThreads
