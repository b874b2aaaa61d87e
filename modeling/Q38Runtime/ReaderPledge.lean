import Q38Runtime.ReaderThreads

/-!
What the caller of the read-ahead may rely on, whatever the two threads do:
a pledge to deliver the rows of one submission in order, and to report a failed
read to the same submission; and how far the reader thread is with the rows.
-/
namespace Q38.ReaderThreads
open Contracts Imperative PleHash PleReadAhead

variable {α : Type} (contents : Row → α)

section Pledges

/-- What is owed to the caller: the rows it submitted, what it has been given
of them, and the failure that a take is to report. -/
structure Pledge (α : Type) where
  rows : List Row
  delivered : List α
  failure : Option Thrown

inductive Serves : Option (Pledge α) → Event α → Option (Pledge α) → Prop
  | refused : Serves none
      (.submitted [] (.error (.invalidArgument "PLE async row set is empty"))) none
  | accepted (rows : List Row) (some_ : rows ≠ []) :
      Serves none (.submitted rows (.ok ())) (some ⟨rows, [], none⟩)
  | delivered (pledge : Pledge α) (tile : List α) (piece : tile ≠ [])
      (more : pledge.delivered ++ tile <+: pledge.rows.map contents)
      (unfinished : pledge.delivered ++ tile ≠ pledge.rows.map contents) :
      Serves (some pledge) (.took (.ok tile))
        (some { pledge with delivered := pledge.delivered ++ tile })
  | completed (pledge : Pledge α) (tile : List α) (piece : tile ≠ [])
      (whole : pledge.delivered ++ tile = pledge.rows.map contents)
      (unfailed : pledge.failure = none) :
      Serves (some pledge) (.took (.ok tile)) none
  | failed (pledge : Pledge α) (thrown : Thrown) (fresh : pledge.failure = none) :
      Serves (some pledge) (.failed thrown) (some { pledge with failure := some thrown })
  | reported (pledge : Pledge α) (thrown : Thrown) (owed : pledge.failure = some thrown) :
      Serves (some pledge) (.took (.error thrown)) none
  | cancelled (pledge : Option (Pledge α)) : Serves pledge .cancelled none
  | woke (pledge : Option (Pledge α)) : Serves pledge .woke pledge
  | quiet (pledge : Option (Pledge α)) : Serves pledge .quiet pledge

inductive Upheld : List (Event α) → Option (Pledge α) → Prop
  | start : Upheld [] none
  | next (events : List (Event α)) (event : Event α) (before after : Option (Pledge α))
      (upheld : Upheld events before) (serves : Serves contents before event after) :
      Upheld (events ++ [event]) after

end Pledges

section Progress

/-- Tiles of a row set that lie one after another from a row on. -/
def tilesFrom (rows : List Row) (first count : Nat) : List (PleTileResult α) :=
  (List.range' first count kRowsPerTile).map (tileAt contents rows)

theorem tiles_from_succ (rows : List Row) (first count : Nat) :
    tilesFrom contents rows first (count + 1) =
      tileAt contents rows first :: tilesFrom contents rows (first + kRowsPerTile) count := rfl

theorem tiles_from_concat (rows : List Row) (first count : Nat) :
    tilesFrom contents rows first (count + 1) =
      tilesFrom contents rows first count ++
        [tileAt contents rows (first + kRowsPerTile * count)] := by
  simp [tilesFrom, List.range'_concat]

/-- Which flags of the reader are raised. -/
structure Flags (reader : PleAsyncReader α) (requestReady working resultReady : Bool) : Prop where
  requestReady : reader.requestReady = requestReady
  working : reader.working = working
  resultReady : reader.resultReady = resultReady

/-- The reader thread is outside of the work on a row set. -/
def AtRest (worker : Worker) : Prop := worker = .waiting ∨ worker = .notifying

/-- How far the thread is with a row set whose rows before `popped` the caller
has taken out of the queue, and the failure it has met. -/
inductive Works (rows : List Row) (popped : Nat) :
    Worker → PleAsyncReader α → Option Thrown → Prop
  | asked (worker : Worker) (reader : PleAsyncReader α) (rest : AtRest worker)
      (flags : Flags reader true false false) (given : reader.rows = some rows)
      (empty : reader.readyTiles = []) (untouched : popped = 0) :
      Works rows popped worker reader none
  | room (reader : PleAsyncReader α) (count : Nat) (flags : Flags reader false true false)
      (queued : reader.readyTiles = tilesFrom contents rows popped count)
      (more : popped + kRowsPerTile * count < rows.length) :
      Works rows popped (.room rows (popped + kRowsPerTile * count)) reader none
  | reading (reader : PleAsyncReader α) (count : Nat) (flags : Flags reader false true false)
      (queued : reader.readyTiles = tilesFrom contents rows popped count)
      (more : popped + kRowsPerTile * count < rows.length) :
      Works rows popped (.reading rows (popped + kRowsPerTile * count)) reader none
  | publishing (reader : PleAsyncReader α) (count : Nat) (error : Option Thrown)
      (flags : Flags reader false true false)
      (queued : reader.readyTiles = tilesFrom contents rows popped count)
      (inside : popped + kRowsPerTile * count < rows.length + kRowsPerTile)
      (complete : error = none → reader.cancelRequested = true ∨
        rows.length ≤ popped + kRowsPerTile * count)
      (missing : error ≠ none → popped + kRowsPerTile * count < rows.length) :
      Works rows popped (.publishing error) reader error
  | published (worker : Worker) (reader : PleAsyncReader α) (count : Nat)
      (rest : AtRest worker) (flags : Flags reader false false true)
      (queued : reader.readyTiles = tilesFrom contents rows popped count)
      (inside : popped + kRowsPerTile * count < rows.length + kRowsPerTile)
      (complete : reader.error = none → reader.cancelRequested = true ∨
        rows.length ≤ popped + kRowsPerTile * count)
      (missing : reader.error ≠ none → popped + kRowsPerTile * count < rows.length) :
      Works rows popped worker reader reader.error

variable {contents} {rows : List Row} {popped : Nat} {worker : Worker}
  {reader : PleAsyncReader α} {failure : Option Thrown}

theorem rows_per_tile_pos : 0 < kRowsPerTile := by decide

theorem next_tile_works (count : Nat) (flags : Flags reader false true false)
    (queued : reader.readyTiles = tilesFrom contents rows popped count)
    (inside : popped + kRowsPerTile * count < rows.length + kRowsPerTile) :
    Works contents rows popped (nextTile rows (popped + kRowsPerTile * count)) reader none := by
  unfold nextTile
  split
  · next more => exact .room reader count flags queued more
  · next enough =>
      exact .publishing reader count none flags queued inside
        (fun _ => .inr (Nat.le_of_not_lt enough))
        (fun thrown => absurd rfl thrown)

/-- A critical section of the reader thread. -/
theorem turn_works (some_ : rows ≠ [])
    (works : Works contents rows popped worker reader failure) :
    Works contents rows popped (turn contents worker reader).1
      (turn contents worker reader).2 failure := by
  cases works with
  | asked _ _ rest flags given empty untouched =>
      rcases rest with rfl | rfl
      · obtain ⟨row, others, rfl⟩ := List.exists_cons_of_ne_nil some_
        simp only [turn, flags.requestReady, given, beginRows, if_true]
        have begun := @next_tile_works α contents (row :: others) popped
          { reader with rows := none, requestReady := false, working := true } 0
          ⟨rfl, rfl, flags.resultReady⟩ empty
        rw [untouched] at begun ⊢
        simpa using begun (Nat.lt_add_left _ rows_per_tile_pos)
      · exact .asked _ _ (.inl rfl) ⟨flags.1, flags.2, flags.3⟩ given empty untouched
  | room _ count flags queued more =>
      simp only [turn]
      split
      · split
        · next stop =>
            exact .publishing reader count none flags queued (Nat.lt_add_right _ more)
              (fun _ => .inl stop)
              (fun thrown => absurd rfl thrown)
        · exact .reading reader count flags queued more
      · exact .room _ count ⟨flags.1, flags.2, flags.3⟩ queued more
  | reading _ count flags queued more =>
      simp only [turn, Nat.add_assoc, ← Nat.mul_succ]
      apply next_tile_works
      · exact ⟨flags.1, flags.2, flags.3⟩
      · simp [notifyFinished, queued, tiles_from_concat]
      · rw [Nat.mul_succ, ← Nat.add_assoc]
        exact Nat.add_lt_add_right more _
  | publishing _ count _ flags queued inside complete missing =>
      exact .published .notifying
        { reader with working := false, resultReady := true, error := failure } count (.inr rfl)
        ⟨flags.requestReady, rfl, rfl⟩ queued inside complete missing
  | published _ _ count rest flags queued inside complete missing =>
      rcases rest with rfl | rfl
      · rw [turn, if_neg (by simp [flags.requestReady])]
        exact .published .waiting { reader with ready := true } count (.inl rfl)
          ⟨flags.1, flags.2, flags.3⟩ queued inside complete missing
      · exact .published .waiting (notifyFinished reader) count (.inl rfl)
          ⟨flags.1, flags.2, flags.3⟩ queued inside complete missing

theorem fail_works {given : List Row} {first : Nat} (thrown : Thrown)
    (works : Works contents rows popped (.reading given first) reader failure) :
    failure = none ∧
      Works contents rows popped (.publishing (some thrown)) reader (some thrown) := by
  cases works with
  | asked _ _ rest => rcases rest with wrong | wrong <;> cases wrong
  | published _ _ count rest => rcases rest with wrong | wrong <;> cases wrong
  | reading _ count flags queued more =>
      exact ⟨rfl, .publishing reader count _ flags queued (Nat.lt_add_right _ more) (by simp)
        fun _ => more⟩

/-- The caller takes the front of the queue. -/
theorem pop_works {tile : PleTileResult α} {others : List (PleTileResult α)}
    (works : Works contents rows popped worker reader failure)
    (front : reader.readyTiles = tile :: others) :
    tile = tileAt contents rows popped ∧
      Works contents rows (popped + kRowsPerTile) worker { reader with readyTiles := others }
        failure := by
  have split (count : Nat) (queued : reader.readyTiles = tilesFrom contents rows popped count) :
      ∃ fewer, count = fewer + 1 ∧ tile = tileAt contents rows popped ∧
        others = tilesFrom contents rows (popped + kRowsPerTile) fewer ∧
        popped + kRowsPerTile * count = popped + kRowsPerTile + kRowsPerTile * fewer := by
    cases count with
    | zero => simp [tilesFrom, queued] at front
    | succ fewer =>
        rw [queued, tiles_from_succ, List.cons.injEq] at front
        exact ⟨fewer, rfl, front.1.symm, front.2.symm, by rw [Nat.mul_succ]; omega⟩
  cases works with
  | asked _ _ rest flags given empty => simp [empty] at front
  | room _ count flags queued more =>
      obtain ⟨fewer, rfl, same, queued', moved⟩ := split count queued
      rw [moved] at more ⊢
      exact ⟨same, .room _ fewer ⟨flags.1, flags.2, flags.3⟩ queued' more⟩
  | reading _ count flags queued more =>
      obtain ⟨fewer, rfl, same, queued', moved⟩ := split count queued
      rw [moved] at more ⊢
      exact ⟨same, .reading _ fewer ⟨flags.1, flags.2, flags.3⟩ queued' more⟩
  | publishing _ count _ flags queued inside complete missing =>
      obtain ⟨fewer, rfl, same, queued', moved⟩ := split count queued
      rw [moved] at inside complete missing
      exact ⟨same, .publishing _ fewer _ ⟨flags.1, flags.2, flags.3⟩ queued' inside complete missing⟩
  | published _ _ count rest flags queued inside complete missing =>
      obtain ⟨fewer, rfl, same, queued', moved⟩ := split count queued
      rw [moved] at inside complete missing
      exact ⟨same, .published worker { reader with readyTiles := others } fewer rest
        ⟨flags.1, flags.2, flags.3⟩ queued' inside complete missing⟩

/-- What a notification, a sleep or a request to cancel changes does not matter to the work. -/
theorem Works.of_same {other : PleAsyncReader α}
    (works : Works contents rows popped worker reader failure)
    (same : other.rows = reader.rows ∧ other.error = reader.error ∧
      other.requestReady = reader.requestReady ∧ other.working = reader.working ∧
      other.resultReady = reader.resultReady ∧ other.readyTiles = reader.readyTiles)
    (cancels : reader.cancelRequested = true → other.cancelRequested = true) :
    Works contents rows popped worker other failure := by
  obtain ⟨given', error', request', working', result', tiles'⟩ := same
  have raised {request working result : Bool} (flags : Flags reader request working result) :
      Flags other request working result :=
    ⟨request'.trans flags.1, working'.trans flags.2, result'.trans flags.3⟩
  cases works with
  | asked _ _ rest flags given empty untouched =>
      exact .asked worker other rest (raised flags) (given'.trans given) (tiles'.trans empty)
        untouched
  | room _ count flags queued more =>
      exact .room other count (raised flags) (tiles'.trans queued) more
  | reading _ count flags queued more =>
      exact .reading other count (raised flags) (tiles'.trans queued) more
  | publishing _ count _ flags queued inside complete missing =>
      exact .publishing other count failure (raised flags) (tiles'.trans queued) inside
        (fun none_ => (complete none_).imp_left cancels) missing
  | published _ _ count rest flags queued inside complete missing =>
      rw [← error'] at complete missing ⊢
      exact .published worker other count rest (raised flags) (tiles'.trans queued) inside
        (fun none_ => (complete none_).imp_left cancels) missing

end Progress

end Q38.ReaderThreads
