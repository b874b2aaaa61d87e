import Q38Runtime.PleDraining

/-!
The read-ahead between transactions. When no transaction is given up while its
read is active, every transaction ends with the reader idle and the next one
finds it so.
-/
namespace Q38.PleReadAhead
open Contracts Imperative PleHash StridedLoops

section Invariant
variable {options : Options}

/-- How the read stands while a transaction is open. -/
structure Progress (options : Options) (opened : Open) (stage : Stage0) : Prop where
  chunk : opened.chunkTokens =
    if opened.txn.kind = .appendKnown then options.maxTransactionTokens else 1
  needed : opened.readAhead = true → needsReadAhead opened = true
  inside : opened.offset ≤ opened.tokens.length
  sound : opened.failed = true → Sound stage
  next : opened.failed = false → 0 < opened.offset →
    stage.provisionalProcessed = opened.offset ∧ stage.provisionalKind = opened.txn.kind
  own : opened.failed = false → opened.readAhead = false → Quiet stage
  ahead : opened.failed = false → opened.readAhead = true → Pending 0 stage
    ((tileSlices opened.offset (opened.tokens.length - opened.offset)).map (extentOf 0))

def Inv (options : Options) (system : System) : Prop :=
  (system.active = none → Quiet system.stage) ∧
    ∀ opened ∈ system.active, Progress options opened system.stage

theorem progress_sound {opened : Open} {stage : Stage0}
    (progress : Progress options opened stage) : Sound stage := by
  cases failed : opened.failed with
  | true => exact progress.sound failed
  | false =>
      cases reads : opened.readAhead with
      | false => exact Or.inl (progress.own failed reads)
      | true => exact pending_sound (progress.ahead failed reads)

theorem sound_quiet {stage : Stage0} (sound : Sound stage) (inactive : stage.pleReadActive = false) :
    Quiet stage := by
  rcases sound with quiet | ⟨active, -⟩
  · exact quiet
  · rw [active] at inactive
    cases inactive

theorem failed_progress {opened : Open} {stage after : Stage0}
    (progress : Progress options opened stage) (sound : Sound after) :
    Progress options opened.fail after where
  chunk := progress.chunk
  needed := progress.needed
  inside := progress.inside
  sound := fun _ => sound
  next := fun impossible => by cases impossible
  own := fun impossible => by cases impossible
  ahead := fun impossible => by cases impossible

theorem inv_open {system : System} {opened : Open} (active : system.active = some opened)
    (progress : Progress options opened system.stage) : Inv options system := by
  constructor
  · intro closed
    cases active.symm.trans closed
  · intro other listed
    cases active.symm.trans listed
    exact progress

theorem reader_step_pending {stage : Stage0} {after : PleAsyncReader} {tokenBase : Nat}
    {remaining : List Extent} (step : ReaderStep stage.reader after)
    (pending : Pending tokenBase stage remaining) :
    Pending tokenBase { stage with reader := after } remaining := by
  rcases pending with ⟨-, quiet⟩ | ⟨more, reading, base⟩
  · exact (idle_stays quiet.2 step).elim
  · obtain ⟨streams, total⟩ := reader_step_streams step reading.streams
    exact Or.inr ⟨more, ⟨reading.active, streams, total.trans reading.total, reading.tiled⟩, base⟩

theorem reader_step_sound {stage : Stage0} {after : PleAsyncReader}
    (step : ReaderStep stage.reader after) (sound : Sound stage) :
    Sound { stage with reader := after } := by
  rcases sound with quiet | ⟨active, remaining, streams⟩
  · exact (idle_stays quiet.2 step).elim
  · exact Or.inr ⟨active, remaining, (reader_step_streams step streams).1⟩

end Invariant

section Chunks
variable {options : Options} {opened : Open} {stage : Stage0}

theorem chunk_count_inside (progress : Progress options opened stage) :
    opened.offset + chunkCount opened ≤ opened.tokens.length := by
  have inside := progress.inside
  unfold chunkCount
  omega

/-- A transaction without read-ahead takes its chunks one token at a time or all
at once. -/
theorem own_chunk {tokens : List Token} (chunk : opened.chunkTokens =
      if opened.txn.kind = .appendKnown then options.maxTransactionTokens else 1)
    (more : opened.offset < opened.tokens.length)
    (count : (chunkInput opened tokens).tokens.length = chunkCount opened) :
    (chunkInput opened tokens).txn.kind = .appendKnown ∨
      (chunkInput opened tokens).tokens.length = 1 := by
  by_cases append : opened.txn.kind = .appendKnown
  · exact Or.inl append
  · rw [if_neg append] at chunk
    apply Or.inr
    rw [count]
    unfold chunkCount
    omega

theorem tile_slices_nil {offset tokens : Nat} : tileSlices offset tokens = [] ↔ tokens = 0 := by
  constructor
  · intro none
    have tiled := tiled_slices offset tokens
    rw [none] at tiled
    have ended : offset * kQ38PleRowsPerToken = (offset + tokens) * kQ38PleRowsPerToken := tiled
    unfold kQ38PleRowsPerToken at ended
    omega
  · rintro rfl
    rfl

/-- With chunks of whole tiles, the tiles that are left begin with those of the
next chunk. -/
theorem ahead_chunk (whole : kPrefillTile ∣ opened.chunkTokens) :
    tileSlices opened.offset (opened.tokens.length - opened.offset) =
      tileSlices opened.offset (chunkCount opened) ++
        tileSlices (opened.offset + chunkCount opened)
          (opened.tokens.length - (opened.offset + chunkCount opened)) := by
  obtain ⟨turns, size⟩ := whole
  unfold chunkCount
  rcases Nat.le_total opened.chunkTokens (opened.tokens.length - opened.offset) with full | short
  · have split := tile_slices_append opened.offset turns
      (opened.tokens.length - opened.offset - opened.chunkTokens)
    rw [← size, Nat.add_sub_cancel' full] at split
    rw [Nat.min_eq_left full, split, Nat.sub_sub]
  · have none : opened.tokens.length -
        (opened.offset + (opened.tokens.length - opened.offset)) = 0 := by omega
    rw [Nat.min_eq_right short, none]
    exact (List.append_nil _).symm

end Chunks

section Runs
variable {options : Options}

/-- The step does not take the branch that leaves a read behind: a transaction
is not rolled back while its read is active, and a text that is read ahead is
executed in chunks of whole tiles. -/
def Meets (system : System) : Event → Prop
  | .rollback => system.stage.pleReadActive = false
  | .execute => ∀ opened ∈ system.active, opened.readAhead = true →
      kPrefillTile ∣ opened.chunkTokens
  | _ => True

theorem rollback_keeps (epoch : Nat) (stage : Stage0) :
    Ends (rollback epoch) (fun _ after => KeepsRead stage after)
      (fun _ after => KeepsRead stage after) stage := by
  have same : KeepsRead stage stage := ⟨rfl, rfl, rfl, rfl⟩
  simp only [rollback, ends_bind, ends_read, ends_ite, ends_ensure, ends_write, id]
  exact ⟨fun _ => ⟨fun _ => ⟨rfl, rfl, rfl, rfl⟩, fun _ => same⟩,
    fun _ => ⟨fun _ => ⟨rfl, rfl, rfl, rfl⟩, fun _ => same⟩⟩

theorem checkpoint_keeps (epoch prefixTokens : Nat) (stage : Stage0) :
    Ends (checkpointSpeculativePrefix epoch prefixTokens)
      (fun _ after => KeepsRead stage after ∧
        after.provisionalProcessed = stage.provisionalProcessed ∧
        after.provisionalKind = stage.provisionalKind)
      (fun _ after => KeepsRead stage after) stage := by
  simp only [checkpointSpeculativePrefix, ends_bind, ends_read, ends_ensure, ends_write, id]
  exact ⟨fun _ => ⟨⟨rfl, rfl, rfl, rfl⟩, trivial, trivial⟩, fun _ => ⟨rfl, rfl, rfl, rfl⟩⟩

theorem quiet_kept {before after : Stage0} (keeps : KeepsRead before after)
    (quiet : Quiet before) : Quiet after := by
  unfold Quiet at *
  rwa [keeps.reader, keeps.active]

theorem reset_quiet {stage after : Stage0} (quiet : Quiet stage)
    (returned : resetSession options stage = (.ok (), after)) : Quiet after := by
  have ended : Ends (resetSession options) (fun _ after => Quiet after) (fun _ _ => True)
      stage := by
    simp only [resetSession, ends_bind, ends_read, ends_ensure, ends_write, id]
    exact ⟨fun _ => drain_quiet (Or.inl quiet), fun _ => trivial⟩
  rw [Ends, returned] at ended
  exact ended

/-- A commit of the coordinator finds every tile taken and replays nothing. -/
theorem commit_quiet {opened : Open} {stage after : Stage0} {count : Nat}
    (progress : Progress options opened stage) (sound : opened.failed = false)
    (some : 0 < opened.offset)
    (decided : count = opened.offset ∧
        (opened.offset = opened.tokens.length ∨ opened.txn.kind = .speculative) ∨
      opened.txn.kind = .speculative ∧ opened.offset = count + 1 ∧
        stage.speculativeCheckpointCount = count)
    (returned : Commit options opened.txn.epoch count stage (.ok ()) after) : Quiet after := by
  obtain ⟨processed, kind⟩ := progress.next sound some
  have once : replays stage count = false := by
    rcases decided with ⟨rfl, -⟩ | ⟨speculative, ahead, checkpoint⟩
    · simp [replays, processed]
    · simp [replays, onlineLookahead, processed, kind, speculative, ahead, checkpoint]
  have quiet : Quiet stage := by
    cases reads : opened.readAhead with
    | false => exact progress.own sound reads
    | true =>
        have append := progress.needed reads
        have appended : opened.txn.kind = .appendKnown := by
          simp only [needsReadAhead, Bool.and_eq_true, decide_eq_true_eq] at append
          exact append.1
        have finished : opened.offset = opened.tokens.length := by
          rcases decided with ⟨-, finished | speculative⟩ | ⟨speculative, -⟩
          · exact finished
          · cases appended.symm.trans speculative
          · cases appended.symm.trans speculative
        have pending := progress.ahead sound reads
        rw [finished, Nat.sub_self] at pending
        rcases pending with ⟨-, quiet⟩ | ⟨more, -⟩
        · exact quiet
        · exact absurd rfl more
  generalize result : (Except.ok () : Except Thrown Unit) = outcome at returned
  cases returned with
  | refused differs => cases result
  | direct accepted _ => exact quiet_kept ⟨rfl, rfl, rfl, rfl⟩ quiet
  | unready after thrown accepted again => cases result
  | replayThrew ready after thrown accepted again => cases result
  | replayed ready after accepted again => cases once.symm.trans again

/-- A chunk that was executed, or was not. -/
theorem execute_progress {opened : Open} {tokens : List Token} {stage after : Stage0}
    {outcome : Except Thrown Unit} (progress : Progress options opened stage)
    (sound : opened.failed = false) (more : opened.offset < opened.tokens.length)
    (count : (chunkInput opened tokens).tokens.length = chunkCount opened)
    (whole : opened.readAhead = true → kPrefillTile ∣ opened.chunkTokens)
    (executes : Execute options (chunkInput opened tokens) stage outcome after) :
    (outcome = .ok () →
      Progress options { opened with offset := opened.offset + chunkCount opened } after) ∧
      Sound after := by
  rcases Bool.eq_false_or_eq_true opened.readAhead with reads | reads
  · have append := progress.needed reads
    have appended : opened.txn.kind = .appendKnown := by
      simp only [needsReadAhead, Bool.and_eq_true, decide_eq_true_eq] at append
      exact append.1
    have pending := progress.ahead sound reads
    rw [ahead_chunk (whole reads), List.map_append] at pending
    have slices : runTokens (chunkInput opened tokens).txn.kind
        ⟨(chunkInput opened tokens).chunkOffset, (chunkInput opened tokens).tokens.length⟩ =
        tileSlices opened.offset (chunkCount opened) := by
      rw [count]
      change runTokens opened.txn.kind ⟨opened.offset, chunkCount opened⟩ = _
      rw [appended, run_tokens_append]
    rw [← slices] at pending
    have active : stage.pleReadActive = true := by
      have left := progress.ahead sound reads
      rcases left with ⟨none, -⟩ | ⟨-, reading, -⟩
      · rw [List.map_eq_nil_iff, tile_slices_nil] at none
        omega
      · exact reading.active
    obtain ⟨returned, left⟩ := execute_reading active pending executes
    refine ⟨fun result => ?_, left⟩
    obtain ⟨remaining, executed⟩ := returned result
    constructor
    · exact progress.chunk
    · exact progress.needed
    · exact chunk_count_inside progress
    · intro _
      exact left
    · intro _ _
      refine ⟨?_, executed.kind⟩
      rw [executed.processed, count]
      rfl
    · intro _ impossible
      cases reads.symm.trans impossible
    · intro _ _
      exact remaining
  · obtain ⟨returned, left⟩ := execute_quiet (progress.own sound reads)
      (own_chunk progress.chunk more count) executes
    refine ⟨fun result => ?_, left⟩
    obtain ⟨quiet, executed⟩ := returned result
    constructor
    · exact progress.chunk
    · exact progress.needed
    · exact chunk_count_inside progress
    · intro _
      exact left
    · intro _ _
      refine ⟨?_, executed.kind⟩
      rw [executed.processed, count]
      rfl
    · intro _ _
      exact quiet
    · intro _ impossible
      cases reads.symm.trans impossible

theorem step_inv {system after : System} {event : Event} (step : Step options system event after)
    (inv : Inv options system) (meets : Meets system event) : Inv options after := by
  cases step with
  | reader moved step =>
      constructor
      · intro closed
        exact (idle_stays (inv.1 closed).2 step).elim
      · intro opened active
        have progress := inv.2 opened active
        exact {
          chunk := progress.chunk
          needed := progress.needed
          inside := progress.inside
          sound := fun failed => reader_step_sound step (progress.sound failed)
          next := progress.next
          own := fun sound reads => (idle_stays (progress.own sound reads).2 step).elim
          ahead := fun sound reads => reader_step_pending step (progress.ahead sound reads) }
  | prepare txn tokens closed count =>
      apply inv_open rfl
      exact {
        chunk := rfl
        needed := fun impossible => by cases impossible
        inside := Nat.zero_le _
        sound := fun _ => Or.inl (inv.1 closed)
        next := fun _ impossible => absurd impossible (Nat.lt_irrefl 0)
        own := fun _ _ => inv.1 closed
        ahead := fun _ impossible => by cases impossible }
  | prefetchCancelled opened active needed unread first sound =>
      have progress := inv.2 opened active
      exact inv_open rfl (failed_progress progress (progress_sound progress))
  | prefetchFailed opened thrown after active needed unread first sound threw =>
      have progress := inv.2 opened active
      have ended := @start_ple_prefetch_quiet options _ (progress.own sound unread) opened.txn
        opened.tokens
      rw [Ends, threw] at ended
      exact inv_open rfl (failed_progress progress (Or.inl ended))
  | prefetched opened after active needed unread first sound started =>
      have progress := inv.2 opened active
      have ended := @start_ple_prefetch_quiet options _ (progress.own sound unread) opened.txn
        opened.tokens
      rw [Ends, started] at ended
      apply inv_open rfl
      exact {
        chunk := progress.chunk
        needed := fun _ => needed
        inside := progress.inside
        sound := fun _ => pending_sound ended
        next := fun _ some => by
          rw [first] at some
          cases some
        own := fun _ impossible => by cases impossible
        ahead := fun _ _ => by
          rw [first, Nat.sub_zero, ← tiles_slices]
          exact ended }
  | executeFailed opened tokens thrown after active reads sound more count threw =>
      have progress := inv.2 opened active
      exact inv_open rfl (failed_progress progress
        (execute_progress progress sound more count (meets opened active) threw).2)
  | executed opened tokens after active reads sound more count returned =>
      have progress := inv.2 opened active
      exact inv_open rfl
        ((execute_progress progress sound more count (meets opened active) returned).1 rfl)
  | checkpointFailed opened thrown after active sound threw =>
      have progress := inv.2 opened active
      have ended := checkpoint_keeps opened.txn.epoch opened.offset system.stage
      rw [Ends, threw] at ended
      exact inv_open rfl (failed_progress progress (ended.sound (progress_sound progress)))
  | checkpointed opened after active sound returned =>
      have progress := inv.2 opened active
      have ended := checkpoint_keeps opened.txn.epoch opened.offset system.stage
      rw [Ends, returned] at ended
      obtain ⟨keeps, processed, kind⟩ := ended
      refine @inv_open options { stage := after, active := system.active } opened active ?_
      exact {
        chunk := progress.chunk
        needed := progress.needed
        inside := progress.inside
        sound := fun failed => keeps.sound (progress.sound failed)
        next := fun sound some => by
          rw [processed, kind]
          exact progress.next sound some
        own := fun sound reads => quiet_kept keeps (progress.own sound reads)
        ahead := fun sound reads => keeps.pending (progress.ahead sound reads) }
  | commit opened count after active sound decided some returned =>
      have quiet := commit_quiet (inv.2 opened active) sound some decided returned
      exact ⟨fun _ => quiet, fun other listed => by cases listed⟩
  | rollback opened after active returned =>
      have ended := rollback_keeps opened.txn.epoch system.stage
      rw [Ends, returned] at ended
      have quiet := sound_quiet (progress_sound (inv.2 opened active)) meets
      exact ⟨fun _ => quiet_kept ended quiet, fun other listed => by cases listed⟩
  | reset after closed returned =>
      exact ⟨fun _ => reset_quiet (inv.1 closed) returned, fun other listed => by cases listed⟩

/-- Runs of the protocol whose steps all meet the condition. -/
abbrev Reaches (options : Options) : System → System → Prop :=
  Relation.ReflTransGen fun before after =>
    ∃ event, Meets before event ∧ Step options before event after

theorem runs_inv {start system : System} (runs : Reaches options start system)
    (inv : Inv options start) : Inv options system := by
  induction runs with
  | refl => exact inv
  | tail _ step ih =>
      obtain ⟨event, meets, steps⟩ := step
      exact step_inv steps ih meets

/-- A stage whose session has just been opened or reset. -/
def Fresh (system : System) : Prop := system.active = none ∧ Quiet system.stage

theorem ended_inactive {system after : System} {event : Event}
    (step : Step options system event after)
    (ending : event = .commit ∨ event = .rollback ∨ event = .reset) : after.active = none := by
  cases step with
  | commit => rfl
  | rollback => rfl
  | reset => rfl
  | _ => simp at ending

end Runs

section Samples

def sampleHash : PleHashConfig where
  unigramVocabSize := 100
  eosTokenId := 2
  multipliers := fun head => BitVec.ofNat 64 (2 * head.val + 3)
  headVocabSizes := fun _ => 97
  headOffsets := fun head => BitVec.ofNat 64 (97 * head.val)

def sampleOptions : Options where
  hash := sampleHash
  maxTransactionTokens := 512
  contextCapacity := 4096

def freshReader : PleAsyncReader where
  request := none
  working := none
  readyTiles := []
  resultReady := false
  failed := false
  totalRows := 0

def freshStage : Stage0 where
  reader := freshReader
  committedPleHash := reset sampleHash
  candidatePleHashes := []
  pleReadActive := false
  pleReadRows := []
  pleReadTokenBase := 0
  pleReadEpoch := 0
  committedFrontier := 0
  committedEpoch := 0
  provisionalEpoch := 0
  provisionalBase := 0
  provisionalExpected := 0
  provisionalProcessed := 0
  provisionalKind := .invalid
  provisionalTokens := []
  speculativeCheckpointCount := 0
  statesActive := false

def freshSystem : System := { stage := freshStage, active := none }

theorem fresh_system : Fresh freshSystem := ⟨rfl, rfl, rfl, rfl, rfl, rfl⟩

/-- An append of one token more than a chunk. -/
def longText : List Token := List.replicate 513 7

def longAppend : SessionTxnV1 where
  epoch := 1
  evaluatedCount := 513
  kind := .appendKnown
  status := .prepared

def longOpened : Open where
  txn := longAppend
  tokens := longText
  chunkTokens := 512
  offset := 0
  readAhead := false
  failed := false

theorem prepares_long : Step sampleOptions freshSystem .prepare
    { stage := freshStage, active := some longOpened } :=
  Step.prepare freshSystem longAppend longText rfl (List.length_replicate).symm

def readingStage : Stage0 :=
  { freshStage with
    reader := { freshReader with
      request := some (rowsFrom sampleHash (reset sampleHash) longText).length
      totalRows := (rowsFrom sampleHash (reset sampleHash) longText).length }
    pleReadActive := true
    pleReadRows := rowsFrom sampleHash (reset sampleHash) longText
    pleReadEpoch := 1 }

theorem reads_long : startPlePrefetch sampleOptions longAppend longText freshStage =
    (.ok (), readingStage) := by
  have count : longText.length = 513 := List.length_replicate
  have nonempty : longText ≠ [] := List.ne_nil_of_length_pos (by rw [count]; decide)
  have allKnown : longText.all (known sampleHash) = true := by
    rw [longText, List.all_replicate]
    decide
  have valid : longAppend.kind = .appendKnown ∧ longAppend.status = .prepared ∧
      longAppend.epoch ≠ 0 ∧ freshStage.committedEpoch < longAppend.epoch ∧
      longAppend.baseTarget = freshStage.committedFrontier ∧
      longText.length = longAppend.evaluatedCount ∧ longText ≠ [] ∧
      sampleOptions.maxTransactionTokens < longText.length ∧ freshStage.provisionalEpoch = 0 ∧
      freshStage.statesActive = false ∧ freshStage.pleReadActive = false := by
    refine ⟨rfl, rfl, by decide, by decide, rfl, count, nonempty, ?_, rfl, rfl, rfl⟩
    rw [count]
    decide
  exact start_ple_prefetch_started fresh_system.2 valid allKnown

def nextDecode : Input where
  txn := { epoch := 2, evaluatedCount := 1, kind := .decode, status := .prepared }
  tokens := [7]
  chunkOffset := 0
  finalChunk := true

end Samples

end Q38.PleReadAhead
