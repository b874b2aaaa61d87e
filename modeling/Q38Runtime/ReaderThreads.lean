import Q38Runtime.PleReadAhead

/-!
The reader thread of the read-ahead and the thread that calls it, one critical
section of the mutex after another. A thread that finds nothing to do sleeps on
its condition variable until it is notified, or wakes without a reason. What is
read outside of the mutex is pushed by the next critical section. The
destructor, and with it `stopping_`, is left out.
-/
namespace Q38.ReaderThreads
open Contracts Imperative PleHash PleReadAhead

variable {α : Type}

/-- A tile with the bytes and the scale of each of its rows. -/
structure PleTileResult (α : Type) where
  firstRow : Nat
  rows : Nat
  contents : List α
  deriving DecidableEq

/-- The members of the class. `ready` and `finished` say whether the reader
thread and the calling thread sleep on these condition variables. -/
structure PleAsyncReader (α : Type) where
  ready : Bool
  finished : Bool
  rows : Option (List Row)
  error : Option Thrown
  requestReady : Bool
  working : Bool
  resultReady : Bool
  cancelRequested : Bool
  readyTiles : List (PleTileResult α)
  totalRows : Nat
  deriving DecidableEq

def notifyReady (reader : PleAsyncReader α) : PleAsyncReader α := { reader with ready := false }

def notifyFinished (reader : PleAsyncReader α) : PleAsyncReader α :=
  { reader with finished := false }

/-- Where the calling thread is in a call that has not returned. -/
inductive Call (α : Type) where
  | awaitingTile (firstRow rowCount : Nat)
  | awaitingResult (tile : PleTileResult α)
  | cancelling
  deriving DecidableEq

/-- A critical section ends in a wait or with what the call returns. -/
abbrev Section (α : Type) := (Call α ⊕ Except Thrown (List α)) × PleAsyncReader α

section Caller

def submit (rows : List Row) : Proc Thrown (PleAsyncReader α) Unit := do
  Proc.ensure (rows ≠ []) (.invalidArgument "PLE async row set is empty")
  let busy ← Proc.read fun reader => reader.requestReady || reader.working || reader.resultReady
  Proc.ensure (busy = false) (.logicError "PLE async reader already has work")
  Proc.write fun reader =>
    notifyReady
      { reader with
        rows := some rows
        error := none
        totalRows := rows.length
        cancelRequested := false
        requestReady := true }

def frontIs (firstRow : Nat) (reader : PleAsyncReader α) : Bool :=
  reader.readyTiles.head?.any fun tile => tile.firstRow = firstRow

/-- The predicate of the wait that a call is in. -/
def awaited : Call α → PleAsyncReader α → Bool
  | .awaitingTile firstRow _, reader => frontIs firstRow reader || reader.resultReady
  | .awaitingResult _, reader => reader.resultReady
  | .cancelling, reader => reader.resultReady || (!reader.requestReady && !reader.working)

def sleep (call : Call α) (reader : PleAsyncReader α) : Section α :=
  (.inl call, { reader with finished := true })

def outcome (error : Option Thrown) (contents : List α) : Except Thrown (List α) :=
  match error with
  | some thrown => .error thrown
  | none => .ok contents

def awaitResult (tile : PleTileResult α) (reader : PleAsyncReader α) : Section α :=
  if awaited (.awaitingResult tile) reader then
    (.inr (outcome reader.error tile.contents),
      { reader with resultReady := false, error := none })
  else sleep (.awaitingResult tile) reader

def stoppedEarly (reader : PleAsyncReader α) : Section α :=
  (.inr (.error (reader.error.getD (.runtimeError "PLE async reader stopped early"))),
    if reader.resultReady then { reader with resultReady := false, error := none } else reader)

def popTile (firstRow rowCount : Nat) (tile : PleTileResult α) (reader : PleAsyncReader α) :
    Section α :=
  if tile.rows ≠ rowCount ∨ tile.contents.length ≠ rowCount then
    (.inr (.error (.logicError "PLE async tile extent differs")), reader)
  else if firstRow + rowCount = reader.totalRows then awaitResult tile reader
  else (.inr (.ok tile.contents), reader)

def awaitTile (firstRow rowCount : Nat) (reader : PleAsyncReader α) : Section α :=
  if awaited (.awaitingTile firstRow rowCount) reader then
    match reader.readyTiles with
    | [] => stoppedEarly reader
    | tile :: rest =>
        if tile.firstRow = firstRow then
          popTile firstRow rowCount tile (notifyReady { reader with readyTiles := rest })
        else stoppedEarly reader
  else sleep (.awaitingTile firstRow rowCount) reader

/-- The buffers of the caller have the sizes of the extent. -/
def take (firstRow rowCount : Nat) (reader : PleAsyncReader α) : Section α :=
  if rowCount = 0 ∨ reader.totalRows < firstRow ∨ reader.totalRows - firstRow < rowCount then
    (.inr (.error (.invalidArgument "PLE async take extent is invalid")), reader)
  else awaitTile firstRow rowCount reader

def awaitStopped (reader : PleAsyncReader α) : Section α :=
  if awaited .cancelling reader then
    (.inr (.ok []),
      { reader with
        resultReady := false
        error := none
        rows := none
        readyTiles := []
        totalRows := 0
        cancelRequested := false })
  else sleep .cancelling reader

def cancel (reader : PleAsyncReader α) : Section α :=
  if !reader.requestReady && !reader.working && !reader.resultReady then (.inr (.ok []), reader)
  else awaitStopped (notifyFinished (notifyReady { reader with cancelRequested := true }))

/-- A call that was notified has the mutex again and looks at its predicate. -/
def resume : Call α → PleAsyncReader α → Section α
  | .awaitingTile firstRow rowCount => awaitTile firstRow rowCount
  | .awaitingResult tile => awaitResult tile
  | .cancelling => awaitStopped

end Caller

section Worker

/-- Where the reader thread is in `run`: before one of its waits, reading a
tile, before its last critical section or before its last notification. -/
inductive Worker where
  | waiting
  | room (rows : List Row) (first : Nat)
  | reading (rows : List Row) (first : Nat)
  | publishing (error : Option Thrown)
  | notifying
  deriving DecidableEq

/-- The head of the loop over the tiles. -/
def nextTile (rows : List Row) (first : Nat) : Worker :=
  if first < rows.length then .room rows first else .publishing none

def beginRows : Option (List Row) → Worker
  | none | some [] => .publishing (some (.invalidArgument "PLE async row set vanished"))
  | some rows => nextTile rows 0

variable (contents : Row → α)

def tileAt (rows : List Row) (first : Nat) : PleTileResult α where
  firstRow := first
  rows := min kRowsPerTile (rows.length - first)
  contents := ((rows.drop first).take (min kRowsPerTile (rows.length - first))).map contents

/-- What the reader thread does next, where its read returns. -/
def turn : Worker → PleAsyncReader α → Worker × PleAsyncReader α
  | .waiting, reader =>
      if reader.requestReady then
        (beginRows reader.rows,
          { reader with rows := none, requestReady := false, working := true })
      else (.waiting, { reader with ready := true })
  | .room rows first, reader =>
      if reader.readyTiles.length < 2 ∨ reader.cancelRequested then
        (if reader.cancelRequested then .publishing none else .reading rows first, reader)
      else (.room rows first, { reader with ready := true })
  | .reading rows first, reader =>
      (nextTile rows (first + kRowsPerTile),
        notifyFinished
          { reader with readyTiles := reader.readyTiles ++ [tileAt contents rows first] })
  | .publishing error, reader =>
      (.notifying, { reader with working := false, resultReady := true, error := error })
  | .notifying, reader => (.waiting, notifyFinished reader)

end Worker

section Threads

/-- The row set that the caller has submitted, and how many rows it has taken. -/
structure Submission where
  rows : List Row
  taken : Nat
  deriving DecidableEq

def Submission.count (submission : Submission) : Nat :=
  min kRowsPerTile (submission.rows.length - submission.taken)

/-- What is left to take after a tile. -/
def Submission.advance (submission : Submission) : Option Submission :=
  if submission.taken + submission.count = submission.rows.length then none
  else some { submission with taken := submission.taken + submission.count }

structure System (α : Type) where
  reader : PleAsyncReader α
  worker : Worker
  call : Option (Call α)
  submission : Option Submission

inductive Event (α : Type) where
  | submitted (rows : List Row) (outcome : Except Thrown Unit)
  | took (outcome : Except Thrown (List α))
  | cancelled
  | failed (thrown : Thrown)
  | woke
  | quiet
  deriving DecidableEq

/-- A caller that is refused a tile has no submission left. -/
def takeEnds (submission : Submission) (ended : Section α) (system : System α) :
    Event α × System α :=
  match ended with
  | (.inl call, reader) => (.quiet, { system with reader := reader, call := some call })
  | (.inr outcome, reader) =>
      (.took outcome,
        { system with
          reader := reader
          call := none
          submission := if outcome.isOk then submission.advance else none })

def cancelEnds (ended : Section α) (system : System α) : Event α × System α :=
  match ended with
  | (.inl call, reader) => (.quiet, { system with reader := reader, call := some call })
  | (.inr _, reader) =>
      (.cancelled, { system with reader := reader, call := none, submission := none })

variable (contents : Row → α)

/-- The caller submits when it has nothing left to take, takes the next tile of
what it submitted, and cancels whenever no call is running. -/
inductive Step : System α → Event α → System α → Prop
  | submit (system : System α) (rows : List Row) (outside : system.call = none)
      (closed : system.submission = none) :
      Step system (.submitted rows (submit rows system.reader).1)
        { system with
          reader := (submit rows system.reader).2
          submission :=
            if (submit rows system.reader).1.isOk then some { rows := rows, taken := 0 }
            else none }
  | take (system : System α) (submission : Submission) (outside : system.call = none)
      (opened : system.submission = some submission) (event : Event α) (after : System α)
      (ends : takeEnds submission (take submission.taken submission.count system.reader) system =
        (event, after)) :
      Step system event after
  | cancel (system : System α) (outside : system.call = none) (event : Event α)
      (after : System α) (ends : cancelEnds (cancel system.reader) system = (event, after)) :
      Step system event after
  | resumeTake (system : System α) (call : Call α) (submission : Submission)
      (inside : system.call = some call) (taking : call ≠ .cancelling)
      (opened : system.submission = some submission) (awake : system.reader.finished = false)
      (event : Event α) (after : System α)
      (ends : takeEnds submission (resume call system.reader) system = (event, after)) :
      Step system event after
  | resumeCancel (system : System α) (inside : system.call = some .cancelling)
      (awake : system.reader.finished = false) (event : Event α) (after : System α)
      (ends : cancelEnds (resume .cancelling system.reader) system = (event, after)) :
      Step system event after
  | turn (system : System α) (awake : system.reader.ready = false) :
      Step system .quiet
        { system with
          worker := (turn contents system.worker system.reader).1
          reader := (turn contents system.worker system.reader).2 }
  | failRead (system : System α) (rows : List Row) (first : Nat) (thrown : Thrown)
      (reads : system.worker = .reading rows first) :
      Step system (.failed thrown) { system with worker := .publishing (some thrown) }
  | wakeWorker (system : System α) (asleep : system.reader.ready = true) :
      Step system .woke { system with reader := notifyReady system.reader }
  | wakeCaller (system : System α) (asleep : system.reader.finished = true) :
      Step system .woke { system with reader := notifyFinished system.reader }

/-- The steps that lead from one state of both threads to another. -/
inductive Run : System α → List (Event α) → System α → Prop
  | here (system : System α) : Run system [] system
  | next (system middle after : System α) (events : List (Event α)) (event : Event α)
      (run : Run system events middle) (step : Step contents middle event after) :
      Run system (events ++ [event]) after

/-- The reader as it is constructed. -/
def constructed : System α where
  reader :=
    { ready := false
      finished := false
      rows := none
      error := none
      requestReady := false
      working := false
      resultReady := false
      cancelRequested := false
      readyTiles := []
      totalRows := 0 }
  worker := .waiting
  call := none
  submission := none

end Threads

end Q38.ReaderThreads
