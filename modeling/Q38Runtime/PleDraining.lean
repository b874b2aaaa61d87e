import Q38Runtime.PleTiling

/-!
The read-ahead over whole runs of the coordinator's protocol. While a read is
active the reader holds exactly the tiles that the transaction has yet to take;
a finished transaction has taken them all, and an interrupted chunk drains them.
A rollback drains nothing: a transaction that is given up outside a chunk leaves
its read to the next one.
-/
namespace Q38.PleReadAhead
open Contracts Imperative PleHash StridedLoops

section Stream

def Idle (reader : PleAsyncReader) : Prop :=
  reader.request = none ∧ reader.working = none ∧ reader.readyTiles = [] ∧
    reader.resultReady = false

/-- The tiles that can still be taken from a reader with work. After a failed
read the last of them never become ready. -/
inductive Streams : PleAsyncReader → List Extent → Prop
  | asked (reader : PleAsyncReader) (rows : Nat) (request : reader.request = some rows)
      (working : reader.working = none) (ready : reader.readyTiles = [])
      (result : reader.resultReady = false) : Streams reader (tiles rows)
  | working (reader : PleAsyncReader) (rest : List Extent) (request : reader.request = none)
      (working : reader.working = some rest) (result : reader.resultReady = false) :
      Streams reader (reader.readyTiles ++ rest)
  | done (reader : PleAsyncReader) (request : reader.request = none)
      (working : reader.working = none) (result : reader.resultReady = true)
      (sound : reader.failed = false) : Streams reader reader.readyTiles
  | failed (reader : PleAsyncReader) (lost : List Extent) (request : reader.request = none)
      (working : reader.working = none) (result : reader.resultReady = true)
      (broken : reader.failed = true) (some : lost ≠ []) :
      Streams reader (reader.readyTiles ++ lost)

theorem streams_busy {reader : PleAsyncReader} {remaining : List Extent}
    (streams : Streams reader remaining) : busy reader = true := by
  cases streams with
  | asked rows request => simp [busy, request]
  | working rest request working => simp [busy, working]
  | done request working result => simp [busy, result]
  | failed lost request working result => simp [busy, result]

theorem reader_step_streams {reader after : PleAsyncReader} {remaining : List Extent}
    (step : ReaderStep reader after) (streams : Streams reader remaining) :
    Streams after remaining ∧ after.totalRows = reader.totalRows := by
  refine ⟨?_, by cases step <;> rfl⟩
  cases step with
  | start rows asked =>
      cases streams with
      | asked rows' request working ready result =>
          cases asked.symm.trans request
          have moved := Streams.working { reader with request := none, working := some (tiles rows) }
            (tiles rows) rfl rfl result
          simpa only [ready, List.nil_append] using moved
      | working rest request => cases asked.symm.trans request
      | done request => cases asked.symm.trans request
      | failed lost request => cases asked.symm.trans request
  | read tile rest next room =>
      cases streams with
      | asked rows request working => cases next.symm.trans working
      | working rest' request working result =>
          cases next.symm.trans working
          have moved := Streams.working { reader with
            working := some rest, readyTiles := reader.readyTiles ++ [tile] } rest request rfl result
          rwa [List.append_assoc] at moved
      | done request working => cases next.symm.trans working
      | failed lost request working => cases next.symm.trans working
  | fail tile rest next room =>
      cases streams with
      | asked rows request working => cases next.symm.trans working
      | working rest' request working result =>
          cases next.symm.trans working
          exact Streams.failed { reader with working := none, resultReady := true, failed := true }
            (tile :: rest) request rfl rfl rfl (List.cons_ne_nil _ _)
      | done request working => cases next.symm.trans working
      | failed lost request working => cases next.symm.trans working
  | finish finished =>
      cases streams with
      | asked rows request working => cases finished.symm.trans working
      | working rest' request working result =>
          cases finished.symm.trans working
          have moved := Streams.done
            { reader with working := none, resultReady := true, failed := false } request rfl rfl rfl
          rwa [List.append_nil]
      | done request working => cases finished.symm.trans working
      | failed lost request working => cases finished.symm.trans working

theorem reader_runs_streams {reader after : PleAsyncReader} {remaining : List Extent}
    (runs : ReaderRuns reader after) (streams : Streams reader remaining) :
    Streams after remaining ∧ after.totalRows = reader.totalRows := by
  induction runs with
  | refl => exact ⟨streams, rfl⟩
  | tail _ step ih =>
      obtain ⟨moved, total⟩ := reader_step_streams step ih.1
      exact ⟨moved, total.trans ih.2⟩

theorem streams_head {reader : PleAsyncReader} {tile wanted : Extent} {tiles rest : List Extent}
    (streams : Streams reader (wanted :: rest)) (front : reader.readyTiles = tile :: tiles) :
    tile = wanted := by
  generalize remains : wanted :: rest = remaining at streams
  cases streams with
  | asked rows request working ready => cases front.symm.trans ready
  | working rest' request working =>
      rw [front, List.cons_append] at remains
      exact (List.cons.inj remains).1.symm
  | done =>
      rw [front] at remains
      exact (List.cons.inj remains).1.symm
  | failed lost =>
      rw [front, List.cons_append] at remains
      exact (List.cons.inj remains).1.symm

theorem streams_pop {reader : PleAsyncReader} {tile wanted : Extent} {tiles rest : List Extent}
    (streams : Streams reader (wanted :: rest)) (front : reader.readyTiles = tile :: tiles) :
    Streams { reader with readyTiles := tiles } rest := by
  generalize remains : wanted :: rest = remaining at streams
  cases streams with
  | asked rows request working ready => cases front.symm.trans ready
  | working rest' request working result =>
      rw [front, List.cons_append] at remains
      rw [(List.cons.inj remains).2]
      exact Streams.working { reader with readyTiles := tiles } rest' request working result
  | done request working result sound =>
      rw [front] at remains
      rw [(List.cons.inj remains).2]
      exact Streams.done { reader with readyTiles := tiles } request working result sound
  | failed lost request working result broken others =>
      rw [front, List.cons_append] at remains
      rw [(List.cons.inj remains).2]
      exact Streams.failed { reader with readyTiles := tiles } lost request working result broken
        others

/-- When every tile has been taken and the thread is done, the read has not
failed and nothing is left of it. -/
theorem streams_ended {reader : PleAsyncReader} (streams : Streams reader [])
    (result : reader.resultReady = true) :
    reader.failed = false ∧ Idle { reader with resultReady := false, failed := false } := by
  generalize remains : [] = remaining at streams
  cases streams with
  | asked rows request working ready none => rw [none] at result; cases result
  | working rest request working none => rw [none] at result; cases result
  | done request working _ sound => exact ⟨sound, request, working, remains.symm, rfl⟩
  | failed lost request working _ broken others =>
      exact absurd (List.append_eq_nil_iff.mp remains.symm).2 others

/-- Nothing moves a reader without work. -/
theorem idle_stays {reader after : PleAsyncReader} (idle : Idle reader)
    (step : ReaderStep reader after) : False := by
  obtain ⟨request, working, -, -⟩ := idle
  cases step with
  | start rows asked => cases asked.symm.trans request
  | read tile rest next room => cases next.symm.trans working
  | fail tile rest next room => cases next.symm.trans working
  | finish finished => cases finished.symm.trans working

/-- Extents that lie one behind the other and end where the row set ends. -/
def Tiled (total : Nat) : Nat → List Extent → Prop
  | first, [] => first = total
  | first, extent :: rest =>
      extent.firstRow = first ∧ extent.rows ≠ 0 ∧ first + extent.rows ≤ total ∧
        Tiled total (first + extent.rows) rest

theorem tiled_last {total first : Nat} {rest : List Extent} (tiled : Tiled total first rest) :
    first = total ↔ rest = [] := by
  cases rest with
  | nil => exact ⟨fun _ => rfl, fun _ => tiled⟩
  | cons extent rest =>
      obtain ⟨-, some, inside, -⟩ := tiled
      constructor
      · intro ended
        omega
      · intro none
        cases none

/-- What a take of the next tile does: it is served, or the read has failed and
the reader is left without work. -/
theorem take_next {reader after : PleAsyncReader} {wanted : Extent} {rest : List Extent}
    {first : Nat} {outcome : Except Thrown Unit} (takes : Take wanted reader outcome after)
    (streams : Streams reader (wanted :: rest))
    (tiled : Tiled reader.totalRows first (wanted :: rest)) :
    (outcome = .ok () ∧ rest = [] ∧ Idle after) ∨
      (outcome = .ok () ∧ rest ≠ [] ∧ Streams after rest ∧ after.totalRows = reader.totalRows) ∨
      ((∃ thrown, outcome = .error thrown) ∧ Idle after) := by
  obtain ⟨start, some, inside, later⟩ := tiled
  have last := tiled_last later
  cases takes with
  | invalid outside =>
      rw [start] at outside
      rcases outside with none | beyond
      · exact absurd none some
      · exact absurd inside (Nat.not_le.mpr beyond)
  | stopped waited within runs result absent =>
      obtain ⟨moved, -⟩ := reader_runs_streams runs streams
      apply Or.inr
      apply Or.inr
      refine ⟨⟨_, rfl⟩, ?_⟩
      generalize remains : wanted :: rest = remaining at moved
      cases moved with
      | asked rows request working ready none => rw [none] at result; cases result
      | working rest' request working none => rw [none] at result; cases result
      | done request working _ sound =>
          rw [← remains] at absent
          exact absurd rfl (absent wanted rfl)
      | failed lost request working _ broken others =>
          cases ready : waited.readyTiles with
          | nil => exact ⟨request, working, rfl, rfl⟩
          | cons tile tiles =>
              rw [ready, List.cons_append] at remains
              cases remains
              rw [ready] at absent
              exact absurd rfl (absent wanted rfl)
  | differs waited tile others within runs front same differ =>
      obtain ⟨moved, -⟩ := reader_runs_streams runs streams
      have head := streams_head moved front
      cases head
      exact absurd rfl differ
  | between waited others within runs front more =>
      obtain ⟨moved, total⟩ := reader_runs_streams runs streams
      apply Or.inr
      apply Or.inl
      refine ⟨rfl, ?_, streams_pop moved front, total⟩
      intro none
      rw [total, start] at more
      exact more (last.mpr none)
  | last waited ended others within runs front final finishes result =>
      obtain ⟨moved, total⟩ := reader_runs_streams runs streams
      rw [total, start] at final
      have none := last.mp final
      have popped := streams_pop moved front
      rw [none] at popped
      obtain ⟨finished, -⟩ := reader_runs_streams finishes popped
      obtain ⟨sound, idle⟩ := streams_ended finished result
      rw [sound]
      exact Or.inl ⟨rfl, none, idle⟩

end Stream

section Slices

/-- No read is active and the reader has nothing left of an earlier one. -/
def Quiet (stage : Stage0) : Prop := stage.pleReadActive = false ∧ Idle stage.reader

/-- The read of `stage` has `remaining` to be taken. -/
structure Reading (stage : Stage0) (remaining : List Extent) : Prop where
  active : stage.pleReadActive = true
  streams : Streams stage.reader remaining
  total : stage.reader.totalRows = stage.pleReadRows.length
  tiled : ∃ first, Tiled stage.pleReadRows.length first remaining

def Pending (tokenBase : Nat) (stage : Stage0) (remaining : List Extent) : Prop :=
  remaining = [] ∧ Quiet stage ∨
    remaining ≠ [] ∧ Reading stage remaining ∧ stage.pleReadTokenBase = tokenBase

/-- A read is active or nothing is left of one. -/
def Sound (stage : Stage0) : Prop :=
  Quiet stage ∨ stage.pleReadActive = true ∧ ∃ remaining, Streams stage.reader remaining

theorem pending_sound {tokenBase : Nat} {stage : Stage0} {remaining : List Extent}
    (pending : Pending tokenBase stage remaining) : Sound stage := by
  rcases pending with ⟨-, quiet⟩ | ⟨-, reading, -⟩
  · exact Or.inl quiet
  · exact Or.inr ⟨reading.active, remaining, reading.streams⟩

theorem drain_quiet {stage : Stage0} (sound : Sound stage) : Quiet (drainPleRead stage) := by
  unfold drainPleRead
  rcases sound with quiet | ⟨active, remaining, streams⟩
  · rw [quiet.1]
    exact quiet
  · rw [if_pos active, PleAsyncReader.cancel, if_pos (streams_busy streams)]
    exact ⟨rfl, rfl, rfl, rfl, rfl⟩

/-- What a transaction has done so far, as far as a commit looks at it. -/
structure SameTransaction (before after : Stage0) : Prop where
  processed : after.provisionalProcessed = before.provisionalProcessed
  kind : after.provisionalKind = before.provisionalKind
  checkpoint : after.speculativeCheckpointCount = before.speculativeCheckpointCount

theorem SameTransaction.refl (stage : Stage0) : SameTransaction stage stage := ⟨rfl, rfl, rfl⟩

theorem SameTransaction.trans {first second third : Stage0} (early : SameTransaction first second)
    (late : SameTransaction second third) : SameTransaction first third :=
  ⟨late.processed.trans early.processed, late.kind.trans early.kind,
    late.checkpoint.trans early.checkpoint⟩

theorem ensure_same {slice : Slice} {stage after : Stage0} {outcome : Except Thrown Unit}
    (ensures : EnsurePleReady slice stage outcome after) : SameTransaction stage after := by
  cases ensures with
  | inactive off => exact SameTransaction.refl stage
  | unavailable on early => exact SameTransaction.refl stage
  | invalid on based outside => exact SameTransaction.refl stage
  | refused reader thrown on based inside takes => exact ⟨rfl, rfl, rfl⟩
  | served reader on based inside takes =>
      split
      · exact ⟨rfl, rfl, rfl⟩
      · exact ⟨rfl, rfl, rfl⟩

theorem run_slices_same {slices : List Slice} {stage after : Stage0}
    {outcome : Except Thrown Unit} (runs : RunSlices slices stage outcome after) :
    SameTransaction stage after := by
  induction runs with
  | done stage => exact SameTransaction.refl stage
  | thrown slices stage thrown => exact SameTransaction.refl stage
  | refused slice slices stage after thrown ensures => exact ensure_same ensures
  | next slice slices stage middle after outcome ensures _ ih =>
      exact (ensure_same ensures).trans ih

theorem ensure_next {slice : Slice} {stage after : Stage0} {outcome : Except Thrown Unit}
    {tokenBase : Nat} {rest : List Extent} (ensures : EnsurePleReady slice stage outcome after)
    (reading : Reading stage (extentOf tokenBase slice :: rest))
    (base : stage.pleReadTokenBase = tokenBase) :
    (outcome = .ok () → Pending tokenBase after rest) ∧ Sound after := by
  have here : Sound stage := Or.inr ⟨reading.active, _, reading.streams⟩
  obtain ⟨first, tiled⟩ := reading.tiled
  have ends := tiled_last tiled.2.2.2
  subst base
  cases ensures with
  | inactive off => rw [reading.active] at off; cases off
  | unavailable on early => exact ⟨(fun returned => by cases returned), here⟩
  | invalid on based outside => exact ⟨(fun returned => by cases returned), here⟩
  | refused reader thrown on based inside takes =>
      refine ⟨(fun returned => by cases returned), Or.inl ⟨rfl, ?_⟩⟩
      rcases take_next takes reading.streams (reading.total ▸ tiled) with
        ⟨impossible, -⟩ | ⟨impossible, -⟩ | ⟨-, idle⟩
      · cases impossible
      · cases impossible
      · exact idle
  | served reader on based inside takes =>
      suffices pending : Pending _ _ rest from ⟨fun _ => pending, pending_sound pending⟩
      have whole := ends
      rw [← tiled.1] at whole
      rcases take_next takes reading.streams (reading.total ▸ tiled) with
        ⟨-, none, idle⟩ | ⟨-, more, streams, total⟩ | ⟨⟨thrown, impossible⟩, -⟩
      · rw [if_pos (whole.mpr none)]
        exact Or.inl ⟨none, rfl, idle⟩
      · rw [if_neg fun ended => more (whole.mp ended)]
        exact Or.inr ⟨more, ⟨on, streams, total.trans reading.total, _, tiled.2.2.2⟩, rfl⟩
      · cases impossible

/-- A chunk takes its own tiles and leaves the later ones. -/
theorem run_slices_pending {slices : List Slice} {stage after : Stage0}
    {outcome : Except Thrown Unit} {tokenBase : Nat} {later : List Extent}
    (runs : RunSlices slices stage outcome after)
    (pending : Pending tokenBase stage (slices.map (extentOf tokenBase) ++ later)) :
    (outcome = .ok () → Pending tokenBase after later) ∧ Sound after := by
  induction runs with
  | done stage => exact ⟨fun _ => pending, pending_sound pending⟩
  | thrown slices stage thrown => exact ⟨(fun returned => by cases returned), pending_sound pending⟩
  | refused slice slices stage after thrown ensures =>
      rcases pending with ⟨none, -⟩ | ⟨-, reading, base⟩
      · cases none
      · exact ⟨(fun returned => by cases returned), (ensure_next ensures reading base).2⟩
  | next slice slices stage middle after outcome ensures _ ih =>
      rcases pending with ⟨none, -⟩ | ⟨-, reading, base⟩
      · cases none
      · exact ih ((ensure_next ensures reading base).1 rfl)

end Slices

section Starting
variable {options : Options}

theorem idle_not_busy {reader : PleAsyncReader} (idle : Idle reader) : busy reader = false := by
  obtain ⟨request, working, -, result⟩ := idle
  simp [busy, request, working, result]

theorem tiled_slices (offset tokens : Nat) :
    Tiled ((offset + tokens) * kQ38PleRowsPerToken) (offset * kQ38PleRowsPerToken)
      ((tileSlices offset tokens).map (extentOf 0)) := by
  induction tokens using Nat.strong_induction_on generalizing offset with
  | _ tokens ih =>
      rcases Nat.lt_or_ge kPrefillTile tokens with long | short
      · obtain ⟨rest, rfl⟩ := Nat.exists_eq_add_of_lt long
        have split := tile_slices_append offset 1 (rest + 1)
        rw [Nat.mul_one, one_tile (by decide) (Nat.le_refl _)] at split
        rw [Nat.add_assoc, split, List.cons_append, List.nil_append, List.map_cons]
        refine ⟨rfl, ?_, ?_, ?_⟩
        · unfold extentOf
          dsimp only
          decide
        · unfold extentOf
          dsimp only
          rw [← Nat.add_mul]
          exact Nat.mul_le_mul_right _ (by omega)
        · have later := ih (rest + 1) (by unfold kPrefillTile; omega) (offset + kPrefillTile)
          rw [Nat.add_assoc] at later
          unfold extentOf at *
          dsimp only
          rw [← Nat.add_mul]
          exact later
      · rcases Nat.eq_zero_or_pos tokens with rfl | positive
        · rfl
        · rw [one_tile positive short]
          refine ⟨rfl, ?_, ?_, ?_⟩
          · unfold extentOf kQ38PleRowsPerToken
            dsimp only
            omega
          · exact Nat.le_of_eq (Nat.add_mul _ _ _).symm
          · exact (Nat.add_mul _ _ _).symm

theorem ends_hash_known {state : PleHashState} {tokens : List Token} {stage : Stage0}
    {returns : List Row × PleHashState → Stage0 → Prop} {throws : Thrown → Stage0 → Prop}
    (all : tokens.all (known options.hash) = true)
    (hashed : returns (rowsFrom options.hash state tokens, advance state tokens) stage) :
    Ends (hashRows options state tokens) returns throws stage := by
  unfold Ends hashRows rows
  rw [if_pos all]
  exact hashed

theorem ends_hash_rows (state : PleHashState) (tokens : List Token) (stage : Stage0)
    {returns : List Row × PleHashState → Stage0 → Prop} {throws : Thrown → Stage0 → Prop}
    (hashed : returns (rowsFrom options.hash state tokens, advance state tokens) stage)
    (unknown : throws (.runtimeError "PLE hash token is outside vocabulary") stage) :
    Ends (hashRows options state tokens) returns throws stage := by
  by_cases all : tokens.all (known options.hash) = true
  · exact ends_hash_known all hashed
  · unfold Ends hashRows rows
    rw [if_neg all]
    exact unknown

theorem ends_submit {stage : Stage0} {hashed : List Row} (idle : Idle stage.reader)
    (nonempty : hashed ≠ []) {returns : Unit → Stage0 → Prop} {throws : Thrown → Stage0 → Prop}
    (submitted : returns () { stage with reader := { stage.reader with
      request := some hashed.length, failed := false, totalRows := hashed.length } }) :
    Ends (onReader (PleAsyncReader.submit hashed)) returns throws stage := by
  simp only [onReader, PleAsyncReader.submit, ends_within, ends_bind, ends_ensure, ends_read,
    ends_write]
  refine ⟨fun _ => ⟨fun _ => submitted, fun busy => ?_⟩, fun none => absurd nonempty none⟩
  exact absurd (idle_not_busy idle) busy

/-- The read that a stage has is not touched. -/
structure KeepsRead (before after : Stage0) : Prop where
  reader : after.reader = before.reader
  active : after.pleReadActive = before.pleReadActive
  rows : after.pleReadRows = before.pleReadRows
  base : after.pleReadTokenBase = before.pleReadTokenBase

theorem KeepsRead.sound {before after : Stage0} (keeps : KeepsRead before after)
    (sound : Sound before) : Sound after := by
  unfold Sound Quiet at *
  rwa [keeps.reader, keeps.active]

theorem KeepsRead.pending {before after : Stage0} {tokenBase : Nat} {remaining : List Extent}
    (keeps : KeepsRead before after) (pending : Pending tokenBase before remaining) :
    Pending tokenBase after remaining := by
  rcases pending with ⟨none, quiet⟩ | ⟨more, reading, base⟩
  · refine Or.inl ⟨none, ?_⟩
    unfold Quiet at *
    rwa [keeps.reader, keeps.active]
  · refine Or.inr ⟨more, ⟨?_, ?_, ?_, ?_⟩, keeps.base.trans base⟩
    · exact keeps.active.trans reading.active
    · rw [keeps.reader]
      exact reading.streams
    · rw [keeps.reader, keeps.rows]
      exact reading.total
    · rw [keeps.rows]
      exact reading.tiled

theorem rows_from_nonempty {state : PleHashState} {tokens : List Token} (nonempty : tokens ≠ []) :
    rowsFrom options.hash state tokens ≠ [] := by
  apply List.ne_nil_of_length_pos
  rw [rows_from_length]
  exact Nat.mul_pos (List.length_pos_of_ne_nil nonempty) (by decide)

/-- A stage whose reader has just been given the rows of a text. -/
theorem submitted_pending {stage ready : Stage0} {tokens : List Token} {state : PleHashState}
    {tokenBase : Nat} (quiet : Quiet stage) (nonempty : tokens ≠ [])
    (reader : ready.reader = { stage.reader with
      request := some (rowsFrom options.hash state tokens).length
      failed := false
      totalRows := (rowsFrom options.hash state tokens).length })
    (active : ready.pleReadActive = true)
    (rows : ready.pleReadRows = rowsFrom options.hash state tokens)
    (base : ready.pleReadTokenBase = tokenBase) :
    Pending tokenBase ready (tiles (tokens.length * kQ38PleRowsPerToken)) := by
  obtain ⟨request, working, noTiles, result⟩ := quiet.2
  have count : (rowsFrom options.hash state tokens).length =
      tokens.length * kQ38PleRowsPerToken := rows_from_length options.hash state tokens
  have tiled := tiled_slices 0 tokens.length
  rw [Nat.zero_add, Nat.zero_mul, ← tiles_slices] at tiled
  refine Or.inr ⟨?_, ⟨active, ?_, ?_, 0, ?_⟩, base⟩
  · intro none
    rw [none] at tiled
    have positive : 0 < tokens.length * kQ38PleRowsPerToken :=
      Nat.mul_pos (List.length_pos_of_ne_nil nonempty) (by decide)
    exact absurd tiled (Nat.ne_of_lt positive)
  · rw [reader, ← count]
    exact Streams.asked _ _ rfl working noTiles result
  · rw [reader, rows]
  · rw [rows, count]
    exact tiled

/-- A chunk that finds no read submits its own rows. -/
theorem start_ple_read_quiet {stage : Stage0} {tokens : List Token} (quiet : Quiet stage)
    (nonempty : tokens ≠ []) (tokenOffset : Nat) :
    Ends (startPleRead options tokens tokenOffset)
      (fun _ ready => SameTransaction stage ready ∧ Pending tokenOffset ready
        (tiles (tokens.length * kQ38PleRowsPerToken)))
      (fun _ after => Quiet after) stage := by
  rw [startPleRead, ends_bind, ends_read]
  dsimp only [id]
  rw [ends_bind]
  apply ends_hash_rows
  · rw [ends_bind, ends_write, ends_ite]
    refine ⟨fun active => absurd (quiet.1.symm.trans active) Bool.false_ne_true, fun _ => ?_⟩
    rw [ends_bind, ends_write, ends_bind]
    refine ends_submit ?_ ?_ ?_
    · exact quiet.2
    · exact rows_from_nonempty nonempty
    rw [ends_write]
    exact ⟨⟨rfl, rfl, rfl⟩, submitted_pending quiet nonempty rfl rfl rfl rfl⟩
  · exact quiet

/-- A chunk that finds a read leaves it alone. -/
theorem start_ple_read_active {stage : Stage0} {tokens : List Token}
    (active : stage.pleReadActive = true) (tokenOffset : Nat) :
    Ends (startPleRead options tokens tokenOffset)
      (fun _ ready => SameTransaction stage ready ∧ KeepsRead stage ready)
      (fun _ after => KeepsRead stage after) stage := by
  have same : KeepsRead stage stage := ⟨rfl, rfl, rfl, rfl⟩
  rw [startPleRead, ends_bind, ends_read]
  dsimp only [id]
  rw [ends_bind]
  apply ends_hash_rows
  · rw [ends_bind, ends_write, ends_ite]
    refine ⟨fun _ => ?_, fun inactive => absurd active inactive⟩
    simp only [ends_bind, ends_ensure]
    exact ⟨fun _ => ⟨fun _ => ⟨⟨rfl, rfl, rfl⟩, ⟨rfl, rfl, rfl, rfl⟩⟩,
      fun _ => ⟨rfl, rfl, rfl, rfl⟩⟩, fun _ => ⟨rfl, rfl, rfl, rfl⟩⟩
  · exact same

/-- An accepted chunk is the next one of its transaction. -/
structure Accepted (input : Input) (ready : Stage0) : Prop where
  processed : ready.provisionalProcessed = input.chunkOffset
  kind : ready.provisionalKind = input.txn.kind

/-- The checks before the read, and what they leave of the stage. -/
theorem ends_accept_input {input : Input} {stage : Stage0} {returns : Unit → Stage0 → Prop}
    {throws : Thrown → Stage0 → Prop}
    (threw : ∀ thrown, throws thrown stage)
    (reads : ∀ checked, input.tokens ≠ [] → KeepsRead stage checked → Accepted input checked →
      Ends (startPleRead options input.tokens input.chunkOffset)
        (fun _ ready => returns () { ready with
          provisionalTokens := ready.provisionalTokens ++ input.tokens }) throws checked) :
    Ends (acceptInput options input) returns throws stage := by
  simp only [acceptInput, ends_bind, ends_ensure, ends_read, ends_ite, ends_write, id]
  refine ⟨fun valid => ⟨fun _ => ⟨fun _ => ⟨fun fresh => ?_, fun _ => threw _⟩,
    fun _ => ⟨fun next => ?_, fun _ => threw _⟩⟩, fun _ => threw _⟩, fun _ => threw _⟩
  · exact reads _ valid.2.2.2.1 ⟨rfl, rfl, rfl, rfl⟩ ⟨fresh.2.1.symm, rfl⟩
  · exact reads _ valid.2.2.2.1 ⟨rfl, rfl, rfl, rfl⟩ ⟨next.2.2.2.2.1.symm, next.2.2.2.1.symm⟩

theorem accept_input_quiet {input : Input} {stage : Stage0} (quiet : Quiet stage) :
    Ends (acceptInput options input)
      (fun _ ready => Accepted input ready ∧ Pending input.chunkOffset ready
        (tiles (input.tokens.length * kQ38PleRowsPerToken)))
      (fun _ after => Quiet after) stage := by
  apply ends_accept_input
  · intro _
    exact quiet
  · intro checked nonempty keeps accepted
    have still : Quiet checked := by
      unfold Quiet at *
      rwa [keeps.reader, keeps.active]
    apply (start_ple_read_quiet still nonempty input.chunkOffset).weaken
    · intro _ ready started
      refine ⟨⟨?_, ?_⟩, @KeepsRead.pending ready _ _ _ ⟨rfl, rfl, rfl, rfl⟩ started.2⟩
      · exact started.1.processed.trans accepted.processed
      · exact started.1.kind.trans accepted.kind
    · intro _ _ after
      exact after

theorem accept_input_active {input : Input} {stage : Stage0}
    (active : stage.pleReadActive = true) :
    Ends (acceptInput options input)
      (fun _ ready => Accepted input ready ∧ KeepsRead stage ready)
      (fun _ after => KeepsRead stage after) stage := by
  apply ends_accept_input
  · intro _
    exact ⟨rfl, rfl, rfl, rfl⟩
  · intro checked _ keeps accepted
    have trans {after : Stage0} (later : KeepsRead checked after) : KeepsRead stage after :=
      ⟨later.reader.trans keeps.reader, later.active.trans keeps.active,
        later.rows.trans keeps.rows, later.base.trans keeps.base⟩
    apply (start_ple_read_active (keeps.active.trans active) input.chunkOffset).weaken
    · intro _ ready started
      refine ⟨⟨?_, ?_⟩, ?_⟩
      · exact started.1.processed.trans accepted.processed
      · exact started.1.kind.trans accepted.kind
      · have kept := trans started.2
        exact ⟨kept.reader, kept.active, kept.rows, kept.base⟩
    · intro _ _ after
      exact trans after

theorem start_ple_prefetch_quiet {stage : Stage0} (quiet : Quiet stage) (txn : SessionTxnV1)
    (tokens : List Token) :
    Ends (startPlePrefetch options txn tokens)
      (fun _ ready => Pending 0 ready (tiles (tokens.length * kQ38PleRowsPerToken)))
      (fun _ after => Quiet after) stage := by
  rw [startPlePrefetch, ends_bind, ends_read]
  dsimp only [id]
  rw [ends_bind, ends_ensure]
  refine ⟨fun valid => ?_, fun _ => quiet⟩
  have nonempty := valid.2.2.2.2.2.2.1
  rw [ends_bind]
  apply ends_hash_rows
  · rw [ends_bind, ends_write, ends_bind]
    refine ends_submit ?_ ?_ ?_
    · exact quiet.2
    · exact rows_from_nonempty nonempty
    rw [ends_write]
    exact submitted_pending quiet nonempty rfl rfl rfl rfl
  · exact quiet

theorem start_ple_prefetch_started {stage : Stage0} {txn : SessionTxnV1} {tokens : List Token}
    (quiet : Quiet stage)
    (valid : txn.kind = .appendKnown ∧ txn.status = .prepared ∧ txn.epoch ≠ 0 ∧
      stage.committedEpoch < txn.epoch ∧ txn.baseTarget = stage.committedFrontier ∧
      tokens.length = txn.evaluatedCount ∧ tokens ≠ [] ∧
      options.maxTransactionTokens < tokens.length ∧ stage.provisionalEpoch = 0 ∧
      stage.statesActive = false ∧ stage.pleReadActive = false)
    (all : tokens.all (known options.hash) = true) :
    startPlePrefetch options txn tokens stage =
      (.ok (), { stage with
        reader := { stage.reader with
          request := some (rowsFrom options.hash stage.committedPleHash tokens).length
          failed := false
          totalRows := (rowsFrom options.hash stage.committedPleHash tokens).length }
        pleReadActive := true
        pleReadRows := rowsFrom options.hash stage.committedPleHash tokens
        pleReadTokenBase := 0
        pleReadEpoch := txn.epoch }) := by
  have started : Ends (startPlePrefetch options txn tokens) (fun _ after => after = { stage with
        reader := { stage.reader with
          request := some (rowsFrom options.hash stage.committedPleHash tokens).length
          failed := false
          totalRows := (rowsFrom options.hash stage.committedPleHash tokens).length }
        pleReadActive := true
        pleReadRows := rowsFrom options.hash stage.committedPleHash tokens
        pleReadTokenBase := 0
        pleReadEpoch := txn.epoch }) (fun _ _ => False) stage := by
    rw [startPlePrefetch, ends_bind, ends_read]
    dsimp only [id]
    rw [ends_bind, ends_ensure]
    refine ⟨fun _ => ?_, fun invalid => invalid valid⟩
    rw [ends_bind]
    apply ends_hash_known all
    rw [ends_bind, ends_write, ends_bind]
    refine ends_submit ?_ ?_ ?_
    · exact quiet.2
    · exact rows_from_nonempty valid.2.2.2.2.2.2.1
    rw [ends_write]
  unfold Ends at started
  generalize startPlePrefetch options txn tokens stage = result at *
  obtain ⟨outcome, after⟩ := result
  cases outcome with
  | ok value => exact congrArg (Prod.mk (Except.ok ())) started
  | error thrown => exact started.elim

end Starting

section Chunks
variable {options : Options}

/-- A chunk that submitted its own rows takes exactly the tiles they make. -/
theorem own_tiles {kind : TxnKind} {offset count : Nat}
    (single : kind = .appendKnown ∨ count = 1) :
    (runTokens kind ⟨offset, count⟩).map (extentOf offset) =
      tiles (count * kQ38PleRowsPerToken) := by
  have moved : (tileSlices offset count).map (extentOf offset) =
      (tileSlices 0 count).map (extentOf 0) := by
    unfold tileSlices
    rw [List.map_map, List.map_map]
    apply List.map_congr_left
    intro first _
    simp [extentOf]
  rcases single with append | rfl
  · rw [append, run_tokens_append, moved, tiles_slices]
  · have slices : runTokens kind ⟨offset, 1⟩ = [⟨offset, 1⟩] := by
      unfold runTokens
      rw [if_neg fun many => absurd many.2 (Nat.lt_irrefl 1)]
      rfl
    rw [slices, tiles_slices, one_tile (by decide) (by decide)]
    simp [extentOf]

/-- What an executed chunk leaves behind. -/
structure Executed (input : Input) (after : Stage0) : Prop where
  processed : after.provisionalProcessed = input.chunkOffset + input.tokens.length
  kind : after.provisionalKind = input.txn.kind

theorem execute_quiet {input : Input} {stage after : Stage0} {outcome : Except Thrown Unit}
    (quiet : Quiet stage) (single : input.txn.kind = .appendKnown ∨ input.tokens.length = 1)
    (executes : Execute options input stage outcome after) :
    (outcome = .ok () → Quiet after ∧ Executed input after) ∧ Sound after := by
  have accepts := @accept_input_quiet options input stage quiet
  have own := @own_tiles _ input.chunkOffset _ single
  cases executes with
  | cancelled thrown => exact ⟨(fun returned => by cases returned), Or.inl quiet⟩
  | rejected after thrown rejects =>
      rw [Ends, rejects] at accepts
      exact ⟨(fun returned => by cases returned), Or.inl accepts⟩
  | caught ready after thrown accepted runs =>
      rw [Ends, accepted] at accepts
      have pending := accepts.2
      rw [← own, ← List.append_nil (List.map _ _)] at pending
      have sound := (run_slices_pending runs pending).2
      exact ⟨(fun returned => by cases returned), Or.inl (drain_quiet sound)⟩
  | returned ready after accepted runs =>
      rw [Ends, accepted] at accepts
      have pending := accepts.2
      rw [← own, ← List.append_nil (List.map _ _)] at pending
      have same := run_slices_same runs
      rcases (run_slices_pending runs pending).1 rfl with ⟨-, left⟩ | ⟨more, -⟩
      · refine ⟨fun _ => ⟨left, ?_, ?_⟩, Or.inl left⟩
        · exact congrArg (· + input.tokens.length) (same.processed.trans accepts.1.processed)
        · exact same.kind.trans accepts.1.kind
      · exact absurd rfl more

theorem execute_reading {input : Input} {stage after : Stage0} {outcome : Except Thrown Unit}
    {later : List Extent} (active : stage.pleReadActive = true)
    (pending : Pending 0 stage ((runTokens input.txn.kind
      ⟨input.chunkOffset, input.tokens.length⟩).map (extentOf 0) ++ later))
    (executes : Execute options input stage outcome after) :
    (outcome = .ok () → Pending 0 after later ∧ Executed input after) ∧ Sound after := by
  have accepts := @accept_input_active options input stage active
  cases executes with
  | cancelled thrown => exact ⟨(fun returned => by cases returned), pending_sound pending⟩
  | rejected after thrown rejects =>
      rw [Ends, rejects] at accepts
      exact ⟨(fun returned => by cases returned), accepts.sound (pending_sound pending)⟩
  | caught ready after thrown accepted runs =>
      rw [Ends, accepted] at accepts
      have sound := (run_slices_pending runs (accepts.2.pending pending)).2
      exact ⟨(fun returned => by cases returned), Or.inl (drain_quiet sound)⟩
  | returned ready after accepted runs =>
      rw [Ends, accepted] at accepts
      have same := run_slices_same runs
      have left := (run_slices_pending runs (accepts.2.pending pending)).1 rfl
      have kept : KeepsRead after { after with
          provisionalProcessed := after.provisionalProcessed + input.tokens.length } :=
        ⟨rfl, rfl, rfl, rfl⟩
      have left' := kept.pending left
      refine ⟨fun _ => ⟨left', ?_, ?_⟩, pending_sound left'⟩
      · exact congrArg (· + input.tokens.length) (same.processed.trans accepts.1.processed)
      · exact same.kind.trans accepts.1.kind

end Chunks

end Q38.PleReadAhead
