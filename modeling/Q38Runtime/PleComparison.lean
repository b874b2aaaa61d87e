import Q38Runtime.PleHashCalls
import Q38Runtime.PleRuns

/-!
The comparison of the rows read ahead with those of a chunk. Whatever is given
up and left behind in a run, a read that is compared was made of the text of the
same transaction from the same committed hash, so its rows are the same.
-/
namespace Q38.PleReadAhead
open Contracts Imperative PleHash StridedLoops

def rowsDiffer : Thrown := .logicError "PLE read-ahead rows differ"

section Chunk
variable {options : Options} {stage after : Stage0} {tokens : List Token}

/-- The hash the next chunk starts from. -/
def Stage0.candidate (stage : Stage0) : PleHashState :=
  stage.candidatePleHashes.getLastD stage.committedPleHash

/-- The rows of a chunk are where the read ahead has them. -/
def Agrees (options : Options) (stage : Stage0) (tokens : List Token) (tokenOffset : Nat) : Prop :=
  let first := (tokenOffset - stage.pleReadTokenBase) * kQ38PleRowsPerToken
  let hashed := rowsFrom options.hash stage.candidate tokens
  first + hashed.length ≤ stage.pleReadRows.length ∧
    (stage.pleReadRows.drop first).take hashed.length = hashed

/-- Nothing of the transaction has moved, and no read has come up. -/
structure Steady (before after : Stage0) : Prop where
  provisional : after.provisionalEpoch = before.provisionalEpoch
  committed : after.committedEpoch = before.committedEpoch
  hash : after.committedPleHash = before.committedPleHash
  read : after.pleReadActive = true → before.pleReadActive = true ∧
    after.pleReadRows = before.pleReadRows ∧
    after.pleReadTokenBase = before.pleReadTokenBase ∧ after.pleReadEpoch = before.pleReadEpoch

theorem Steady.refl (stage : Stage0) : Steady stage stage :=
  ⟨rfl, rfl, rfl, fun active => ⟨active, rfl, rfl, rfl⟩⟩

theorem Steady.trans {first second third : Stage0} (early : Steady first second)
    (late : Steady second third) : Steady first third where
  provisional := late.provisional.trans early.provisional
  committed := late.committed.trans early.committed
  hash := late.hash.trans early.hash
  read := by
    intro active
    obtain ⟨active, rows, base, epoch⟩ := late.read active
    obtain ⟨active, rows', base', epoch'⟩ := early.read active
    exact ⟨active, rows.trans rows', base.trans base', epoch.trans epoch'⟩

theorem ensure_steady {slice : Slice} {outcome : Except Thrown Unit}
    (ensures : EnsurePleReady slice stage outcome after) :
    Steady stage after ∧ after.candidatePleHashes = stage.candidatePleHashes := by
  cases ensures with
  | inactive off => exact ⟨Steady.refl stage, rfl⟩
  | unavailable on early => exact ⟨Steady.refl stage, rfl⟩
  | invalid on based outside => exact ⟨Steady.refl stage, rfl⟩
  | refused reader thrown on based inside takes =>
      exact ⟨⟨rfl, rfl, rfl, fun active => absurd active Bool.false_ne_true⟩, rfl⟩
  | served reader on based inside takes =>
      split
      · exact ⟨⟨rfl, rfl, rfl, fun active => absurd active Bool.false_ne_true⟩, rfl⟩
      · exact ⟨⟨rfl, rfl, rfl, fun active => ⟨active, rfl, rfl, rfl⟩⟩, rfl⟩

theorem run_slices_steady {slices : List Slice} {outcome : Except Thrown Unit}
    (runs : RunSlices slices stage outcome after) :
    Steady stage after ∧ after.candidatePleHashes = stage.candidatePleHashes := by
  induction runs with
  | done stage => exact ⟨Steady.refl stage, rfl⟩
  | thrown slices stage thrown => exact ⟨Steady.refl stage, rfl⟩
  | refused slice slices stage after thrown ensures => exact ensure_steady ensures
  | next slice slices stage middle after outcome ensures _ ih =>
      obtain ⟨steady, same⟩ := ensure_steady ensures
      exact ⟨steady.trans ih.1, ih.2.trans same⟩

theorem ensure_unfinished {slice : Slice} {outcome : Except Thrown Unit}
    (ensures : EnsurePleReady slice stage outcome after) (returned : outcome = .ok ()) :
    after.pleReadActive = false ∨
      (after.pleReadRows = stage.pleReadRows ∧ after.pleReadTokenBase = stage.pleReadTokenBase ∧
        (extentOf stage.pleReadTokenBase slice).firstRow +
          (extentOf stage.pleReadTokenBase slice).rows ≠ stage.pleReadRows.length) := by
  cases ensures with
  | inactive off => exact Or.inl off
  | unavailable on early => cases returned
  | invalid on based outside => cases returned
  | refused reader thrown on based inside takes => cases returned
  | served reader on based inside takes =>
      split
      · exact Or.inl rfl
      next more => exact Or.inr ⟨rfl, rfl, more⟩

/-- Slices that come to the end of the row set finish the read. -/
theorem run_slices_finish {slices : List Slice} {outcome : Except Thrown Unit}
    (runs : RunSlices slices stage outcome after) (returned : outcome = .ok ()) {first : Nat}
    (nonempty : slices ≠ [])
    (tiled : Tiled stage.pleReadRows.length first
      (slices.map (extentOf stage.pleReadTokenBase))) : after.pleReadActive = false := by
  induction runs generalizing first with
  | done stage => exact absurd rfl nonempty
  | thrown slices stage thrown => cases returned
  | refused slice slices stage after thrown ensures => cases returned
  | next slice slices stage middle after outcome ensures rest ih =>
      obtain ⟨here, -, inside, tail⟩ := tiled
      rcases ensure_unfinished ensures rfl with off | ⟨rows, base, more⟩
      · by_contra active
        have still := (run_slices_steady rest).1.read (eq_true_of_ne_false active)
        rw [off] at still
        exact Bool.false_ne_true still.1
      · rw [here] at more
        apply ih returned
        · rintro rfl
          exact more tail
        · rw [rows, base]
          exact tail

/-- The stage behind `start_ple_read`. -/
structure ChunkHashed (options : Options) (tokens : List Token) (tokenOffset : Nat)
    (before after : Stage0) : Prop where
  provisional : after.provisionalEpoch = before.provisionalEpoch
  committed : after.committedEpoch = before.committedEpoch
  hash : after.committedPleHash = before.committedPleHash
  candidates : after.candidatePleHashes =
    before.candidatePleHashes ++ hashesAfter before.candidate tokens
  read : before.pleReadActive = true ∧ Steady before after ∨
    after.pleReadRows = rowsFrom options.hash before.candidate tokens ∧
      after.pleReadTokenBase = tokenOffset ∧ after.pleReadEpoch = before.provisionalEpoch

/-- What a chunk does to the hashes and the read before its rows are taken. -/
theorem start_ple_read_matches (tokenOffset : Nat) :
    Ends (startPleRead options tokens tokenOffset)
      (fun _ ready => ChunkHashed options tokens tokenOffset stage ready)
      (fun thrown after => Steady stage after ∧ (thrown = rowsDiffer →
        stage.pleReadActive = true ∧ stage.pleReadEpoch = stage.provisionalEpoch ∧
          stage.pleReadTokenBase ≤ tokenOffset ∧ tokens.all (known options.hash) = true ∧
          ¬ Agrees options stage tokens tokenOffset)) stage := by
  rw [startPleRead, ends_bind, ends_read]
  dsimp only [id]
  rw [ends_bind]
  by_cases all : tokens.all (known options.hash) = true
  swap
  · unfold Ends hashRows PleHash.rows
    rw [if_neg all]
    exact ⟨Steady.refl stage, fun same => absurd same (by decide)⟩
  apply ends_hash_known all
  rw [ends_bind, ends_write, ends_ite]
  constructor
  · intro active
    simp only [ends_bind, ends_ensure]
    refine ⟨fun owned => ⟨fun _ => ?_, fun differ => ?_⟩, fun _ => ?_⟩
    · exact ⟨rfl, rfl, rfl, rfl,
        Or.inl ⟨active, ⟨rfl, rfl, rfl, fun on => ⟨on, rfl, rfl, rfl⟩⟩⟩⟩
    · exact ⟨⟨rfl, rfl, rfl, fun on => ⟨on, rfl, rfl, rfl⟩⟩,
        fun _ => ⟨active, owned.1, owned.2, all, differ⟩⟩
    · exact ⟨⟨rfl, rfl, rfl, fun on => ⟨on, rfl, rfl, rfl⟩⟩, fun same => absurd same (by decide)⟩
  · intro inactive
    have off := eq_false_of_ne_true inactive
    rw [ends_bind, ends_write, ends_bind, onReader, ends_within]
    simp only [PleAsyncReader.submit, ends_bind, ends_ensure, ends_read, ends_write]
    have down {reader : PleAsyncReader} {thrown : Thrown} (other : thrown ≠ rowsDiffer) :
        Steady stage { stage with
            candidatePleHashes := stage.candidatePleHashes ++ hashesAfter stage.candidate tokens
            pleReadRows := rowsFrom options.hash stage.candidate tokens
            pleReadTokenBase := tokenOffset
            pleReadEpoch := stage.provisionalEpoch
            reader := reader } ∧
          (thrown = rowsDiffer → stage.pleReadActive = true ∧
            stage.pleReadEpoch = stage.provisionalEpoch ∧ stage.pleReadTokenBase ≤ tokenOffset ∧
            tokens.all (known options.hash) = true ∧ ¬ Agrees options stage tokens tokenOffset) :=
      ⟨⟨rfl, rfl, rfl, fun on => absurd on inactive⟩, fun same => absurd same other⟩
    refine ⟨fun _ => ⟨fun _ => ?_, fun _ => down (by decide)⟩, fun _ => down (by decide)⟩
    exact ⟨rfl, rfl, rfl, rfl, Or.inr ⟨rfl, rfl, rfl⟩⟩

/-- The stage whose read a chunk looks at. -/
def opening (input : Input) (stage : Stage0) : Stage0 :=
  if stage.provisionalEpoch = 0 then beginTransaction input stage else stage

/-- A first chunk opens the transaction and leaves the read alone. -/
theorem opening_same (input : Input) (stage : Stage0) :
    (opening input stage).committedEpoch = stage.committedEpoch ∧
      (opening input stage).committedPleHash = stage.committedPleHash ∧
      (opening input stage).pleReadActive = stage.pleReadActive ∧
      (opening input stage).pleReadEpoch = stage.pleReadEpoch ∧
      (opening input stage).pleReadTokenBase = stage.pleReadTokenBase ∧
      (opening input stage).pleReadRows = stage.pleReadRows := by
  unfold opening
  split <;> exact ⟨rfl, rfl, rfl, rfl, rfl, rfl⟩

/-- The checks that a chunk has passed when it turns to its rows. -/
structure Checked (input : Input) (stage : Stage0) : Prop where
  nonempty : input.tokens ≠ []
  epoch : (opening input stage).provisionalEpoch = input.txn.epoch
  later : stage.provisionalEpoch = 0 → stage.committedEpoch < input.txn.epoch

/-- The comparison of a chunk with the rows read ahead has failed. -/
structure Compared (options : Options) (input : Input) (stage : Stage0) : Prop where
  active : stage.pleReadActive = true
  epoch : stage.pleReadEpoch = input.txn.epoch
  base : stage.pleReadTokenBase ≤ input.chunkOffset
  all : input.tokens.all (known options.hash) = true
  differ : ¬ Agrees options stage input.tokens input.chunkOffset

/-- A chunk that was refused before its rows were taken. -/
inductive ChunkRefused (options : Options) (input : Input) (stage : Stage0) (thrown : Thrown)
    (after : Stage0) : Prop
  | checks (same : after = stage) (other : thrown ≠ rowsDiffer)
  | rows (checked : Checked input stage) (steady : Steady (opening input stage) after)
      (differs : thrown = rowsDiffer → Compared options input (opening input stage))

theorem accept_input_matches (input : Input) :
    Ends (acceptInput options input)
      (fun _ ready => Checked input stage ∧
        ChunkHashed options input.tokens input.chunkOffset (opening input stage) ready)
      (fun thrown after => ChunkRefused options input stage thrown after) stage := by
  have reads (checked : Checked input stage) :
      Ends (startPleRead options input.tokens input.chunkOffset)
        (fun _ ready => Checked input stage ∧ ChunkHashed options input.tokens input.chunkOffset
          (opening input stage)
          { ready with provisionalTokens := ready.provisionalTokens ++ input.tokens })
        (fun thrown after => ChunkRefused options input stage thrown after)
        (opening input stage) := by
    apply (start_ple_read_matches input.chunkOffset).weaken
    · rintro _ ready ⟨provisional, committed, hash, candidates, read⟩
      refine ⟨checked, provisional, committed, hash, candidates, ?_⟩
      exact read.imp_left fun ⟨active, steady⟩ =>
        ⟨active, steady.provisional, steady.committed, steady.hash, steady.read⟩
    · rintro thrown after ⟨steady, differs⟩
      apply ChunkRefused.rows checked steady
      intro same
      obtain ⟨active, epoch, base, all, differ⟩ := differs same
      exact ⟨active, epoch.trans checked.epoch, base, all, differ⟩
  simp only [acceptInput, ends_bind, ends_ensure, ends_read, ends_ite, ends_write, id]
  refine ⟨fun valid => ⟨fun _ => ⟨fun fresh => ⟨fun passed => ?_, fun _ => .checks rfl (by decide)⟩,
    fun opened => ⟨fun passed => ?_, fun _ => .checks rfl (by decide)⟩⟩,
    fun _ => .checks rfl (by decide)⟩, fun _ => .checks rfl (by decide)⟩
  · have same : opening input stage = beginTransaction input stage := if_pos fresh
    rw [← same]
    exact reads ⟨valid.2.2.2.1, by rw [same]; rfl, fun _ => passed.1⟩
  · have same : opening input stage = stage := if_neg opened
    have ended := reads ⟨valid.2.2.2.1, by rw [same]; exact passed.1.symm,
      fun fresh => absurd fresh opened⟩
    rw [same] at ended ⊢
    exact ended

/-- The stage behind `start_ple_prefetch`. -/
structure Prefetched (options : Options) (txn : SessionTxnV1) (tokens : List Token)
    (before after : Stage0) : Prop where
  append : txn.kind = .appendKnown
  provisional : after.provisionalEpoch = before.provisionalEpoch
  committed : after.committedEpoch = before.committedEpoch
  hash : after.committedPleHash = before.committedPleHash
  epoch : after.pleReadEpoch = txn.epoch
  base : after.pleReadTokenBase = 0
  rows : after.pleReadRows = rowsFrom options.hash before.committedPleHash tokens

theorem start_ple_prefetch_matches (txn : SessionTxnV1) :
    Ends (startPlePrefetch options txn tokens)
      (fun _ ready => Prefetched options txn tokens stage ready)
      (fun _ after => Steady stage after) stage := by
  rw [startPlePrefetch, ends_bind, ends_read]
  dsimp only [id]
  rw [ends_bind, ends_ensure]
  refine ⟨fun valid => ?_, fun _ => Steady.refl stage⟩
  obtain ⟨append, -, -, -, -, -, -, -, -, -, inactive⟩ := valid
  rw [ends_bind]
  apply ends_hash_rows
  · rw [ends_bind, ends_write, ends_bind, onReader, ends_within]
    simp only [PleAsyncReader.submit, ends_bind, ends_ensure, ends_read, ends_write]
    have down {reader : PleAsyncReader} : Steady stage { stage with
        pleReadRows := rowsFrom options.hash stage.committedPleHash tokens
        pleReadTokenBase := 0
        pleReadEpoch := txn.epoch
        reader := reader } :=
      ⟨rfl, rfl, rfl, fun on => absurd (inactive.symm.trans on) Bool.false_ne_true⟩
    refine ⟨fun _ => ⟨fun _ => ?_, fun _ => down⟩, fun _ => down⟩
    exact ⟨append, rfl, rfl, rfl, rfl, rfl, rfl⟩
  · exact Steady.refl stage

end Chunk

section Runs
variable {options : Options} {opened : Open} {stage after : Stage0}

/-- The epochs of a stage while a transaction of `epoch` is open. -/
structure Dated (epoch : Nat) (stage : Stage0) : Prop where
  provisional : stage.provisionalEpoch = 0 ∨
    stage.provisionalEpoch = epoch ∧ stage.committedEpoch < epoch
  read : stage.pleReadActive = true →
    stage.pleReadEpoch ≤ stage.committedEpoch ∨ stage.pleReadEpoch = epoch

/-- The hashes and the read of a transaction of which every chunk has returned. -/
structure Current (options : Options) (opened : Open) (stage : Stage0) : Prop where
  fresh : opened.offset = 0 → stage.provisionalEpoch = 0
  begun : 0 < opened.offset → stage.provisionalEpoch = opened.txn.epoch ∧
    stage.committedEpoch < opened.txn.epoch
  hashed : 0 < opened.offset → opened.txn.kind = .appendKnown →
    stage.candidate = advance stage.committedPleHash (opened.tokens.take opened.offset)
  ahead : stage.pleReadActive = true → stage.pleReadEpoch ≤ stage.committedEpoch ∨
    opened.txn.kind = .appendKnown ∧ stage.pleReadTokenBase = 0 ∧
      stage.pleReadRows = rowsFrom options.hash stage.committedPleHash opened.tokens

structure Matched (options : Options) (opened : Open) (stage : Stage0) : Prop where
  chunk : opened.chunkTokens =
    if opened.txn.kind = .appendKnown then options.maxTransactionTokens else 1
  dated : Dated opened.txn.epoch stage
  current : opened.failed = false → Current options opened stage

/-- Between transactions a read that was left behind is an old one. -/
def Ordered (options : Options) (system : System) : Prop :=
  (system.active = none → system.stage.provisionalEpoch = 0 ∧
    (system.stage.pleReadActive = true →
      system.stage.pleReadEpoch ≤ system.stage.committedEpoch)) ∧
    ∀ opened ∈ system.active, Matched options opened system.stage

theorem ordered_open {system : System} (active : system.active = some opened)
    (matched : Matched options opened system.stage) : Ordered options system := by
  constructor
  · intro closed
    cases active.symm.trans closed
  · intro other listed
    cases active.symm.trans listed
    exact matched

theorem failed_matched (matched : Matched options opened stage)
    (dated : Dated opened.txn.epoch after) : Matched options opened.fail after where
  chunk := matched.chunk
  dated := dated
  current := fun impossible => by cases impossible

theorem Dated.steady {epoch : Nat} (dated : Dated epoch stage) (steady : Steady stage after) :
    Dated epoch after := by
  constructor
  · rw [steady.provisional, steady.committed]
    exact dated.provisional
  · intro active
    obtain ⟨active, -, -, same⟩ := steady.read active
    rw [same, steady.committed]
    exact dated.read active

theorem Matched.later {tokens : List Token} (matched : Matched options opened stage)
    (checked : Checked (chunkInput opened tokens) stage) :
    stage.committedEpoch < opened.txn.epoch := by
  rcases matched.dated.provisional with fresh | ⟨-, later⟩
  · exact checked.later fresh
  · exact later

theorem append_piece {tokens : List Token} (append : opened.txn.kind = .appendKnown) :
    (chunkInput opened tokens).tokens =
      (opened.tokens.drop opened.offset).take (chunkCount opened) :=
  if_neg (by rw [append]; exact fun impossible => by cases impossible)

/-- A chunk of an append starts from the hash behind the chunks before it. -/
theorem Current.candidate (current : Current options opened stage)
    (later : stage.committedEpoch < opened.txn.epoch) (append : opened.txn.kind = .appendKnown)
    (tokens : List Token) : (opening (chunkInput opened tokens) stage).candidate =
      advance stage.committedPleHash (opened.tokens.take opened.offset) := by
  by_cases first : opened.offset = 0
  · rw [opening, if_pos (current.fresh first), first]
    rfl
  · have some := Nat.pos_of_ne_zero first
    rw [opening, if_neg (by rw [(current.begun some).1]; omega)]
    exact current.hashed some append

/-- The rows of every chunk are those that were read ahead for it. -/
theorem chunk_agrees {tokens : List Token} (matched : Matched options opened stage)
    (sound : opened.failed = false) (more : opened.offset < opened.tokens.length)
    (checked : Checked (chunkInput opened tokens) stage) :
    ¬ Compared options (chunkInput opened tokens) (opening (chunkInput opened tokens) stage) := by
  intro compared
  have current := matched.current sound
  obtain ⟨-, -, active, epoch, base, rows⟩ := opening_same (chunkInput opened tokens) stage
  have later := matched.later checked
  rcases current.ahead (active ▸ compared.active) with old | ⟨append, zero, whole⟩
  · have same : stage.pleReadEpoch = opened.txn.epoch := epoch ▸ compared.epoch
    omega
  · apply compared.differ
    have piece := @append_piece _ tokens append
    have candidate := current.candidate later append tokens
    have before : (opened.tokens.take opened.offset).length = opened.offset :=
      List.length_take_of_le more.le
    have slice := rows_from_slice options.hash stage.committedPleHash
      (opened.tokens.take opened.offset)
      ((opened.tokens.drop opened.offset).take (chunkCount opened))
      ((opened.tokens.drop opened.offset).drop (chunkCount opened))
    rw [List.take_append_drop, List.take_append_drop, before] at slice
    unfold Agrees
    rw [base, rows, zero, whole, candidate, piece, Nat.sub_zero]
    dsimp only
    rw [rows_from_length, rows_from_length]
    refine ⟨?_, slice⟩
    change opened.offset * kPleHeads + _ ≤ _
    rw [← Nat.add_mul, List.length_take, List.length_drop]
    exact Nat.mul_le_mul_right _ (by omega)

theorem execute_failed_dated {tokens : List Token} {thrown : Thrown}
    (matched : Matched options opened stage)
    (threw : Execute options (chunkInput opened tokens) stage (.error thrown) after) :
    Dated opened.txn.epoch after := by
  have accepts := @accept_input_matches options stage (chunkInput opened tokens)
  have begins (checked : Checked (chunkInput opened tokens) stage) :
      Dated opened.txn.epoch (opening (chunkInput opened tokens) stage) := by
    unfold opening
    split
    next fresh => exact ⟨Or.inr ⟨rfl, checked.later fresh⟩, matched.dated.read⟩
    · exact matched.dated
  generalize result : (Except.error thrown : Except Thrown Unit) = outcome at threw
  cases threw with
  | cancelled thrown => exact matched.dated
  | rejected after thrown rejects =>
      rw [Ends, rejects] at accepts
      cases accepts with
      | checks same other => exact same ▸ matched.dated
      | rows checked steady differs => exact (begins checked).steady steady
  | caught ready stopped thrown accepted runs =>
      rw [Ends, accepted] at accepts
      obtain ⟨checked, hashed⟩ := accepts
      have begun := begins checked
      have steady := (run_slices_steady runs).1
      have off : (drainPleRead stopped).pleReadActive = false ∧
          (drainPleRead stopped).provisionalEpoch = stopped.provisionalEpoch ∧
          (drainPleRead stopped).committedEpoch = stopped.committedEpoch := by
        unfold drainPleRead
        split
        · exact ⟨rfl, rfl, rfl⟩
        next inactive => exact ⟨eq_false_of_ne_true inactive, rfl, rfl⟩
      constructor
      · rw [off.2.1, off.2.2, steady.provisional, steady.committed, hashed.provisional,
          hashed.committed]
        exact begun.provisional
      · intro active
        exact absurd (off.1.symm.trans active) Bool.false_ne_true
  | returned ready after accepted runs => cases result

/-- A chunk that returned leaves the hash behind it, and the read of the whole
transaction or none. -/
theorem executed_current {tokens : List Token} (matched : Matched options opened stage)
    (sound : opened.failed = false) (more : opened.offset < opened.tokens.length)
    (count : (chunkInput opened tokens).tokens.length = chunkCount opened)
    (executes : Execute options (chunkInput opened tokens) stage (.ok ()) after) :
    Matched options { opened with offset := opened.offset + chunkCount opened } after := by
  have accepts := @accept_input_matches options stage (chunkInput opened tokens)
  have current := matched.current sound
  generalize result : (Except.ok () : Except Thrown Unit) = outcome at executes
  cases executes with
  | cancelled thrown => cases result
  | rejected after thrown rejects => cases result
  | caught ready stopped thrown accepted runs => cases result
  | returned ready ended accepted runs =>
      rw [Ends, accepted] at accepts
      obtain ⟨checked, hashed⟩ := accepts
      obtain ⟨steady, candidates⟩ := run_slices_steady runs
      obtain ⟨committed, hash, active, epoch, base, rows⟩ :=
        opening_same (chunkInput opened tokens) stage
      have later := matched.later checked
      have some : 0 < chunkCount opened := by
        rw [← count]
        exact List.length_pos_of_ne_nil checked.nonempty
      have provisional : ended.provisionalEpoch = opened.txn.epoch :=
        steady.provisional.trans (hashed.provisional.trans checked.epoch)
      have unmoved : ended.committedEpoch = stage.committedEpoch :=
        steady.committed.trans (hashed.committed.trans committed)
      have sameHash : ended.committedPleHash = stage.committedPleHash :=
        steady.hash.trans (hashed.hash.trans hash)
      -- a read the chunk started itself is finished by its last slice
      have kept (on : ended.pleReadActive = true) : stage.pleReadActive = true ∧
          ended.pleReadEpoch = stage.pleReadEpoch ∧
          ended.pleReadTokenBase = stage.pleReadTokenBase ∧
          ended.pleReadRows = stage.pleReadRows := by
        obtain ⟨readyOn, rows', base', epoch'⟩ := steady.read on
        rcases hashed.read with ⟨-, reading⟩ | ⟨own, offset, -⟩
        · obtain ⟨before, rows'', base'', epoch''⟩ := reading.read readyOn
          exact ⟨active ▸ before, epoch'.trans (epoch''.trans epoch),
            base'.trans (base''.trans base), rows'.trans (rows''.trans rows)⟩
        · have length : ready.pleReadRows.length =
              (chunkInput opened tokens).tokens.length * kQ38PleRowsPerToken := by
            rw [own]
            exact rows_from_length _ _ _
          have tiled := tiled_slices 0 (chunkInput opened tokens).tokens.length
          rw [Nat.zero_add, Nat.zero_mul, ← tiles_slices,
            ← @own_tiles _ ready.pleReadTokenBase _ (own_chunk matched.chunk more count),
            ← length] at tiled
          have nonempty : runTokens (chunkInput opened tokens).txn.kind
              ⟨ready.pleReadTokenBase, (chunkInput opened tokens).tokens.length⟩ ≠ [] := by
            intro none
            rw [none, length, count] at tiled
            have total : 0 = chunkCount opened * kQ38PleRowsPerToken := tiled
            have positive : 0 < chunkCount opened * kQ38PleRowsPerToken :=
              Nat.mul_pos some (by decide)
            exact absurd total (Nat.ne_of_lt positive)
          rw [← offset] at runs
          have off := run_slices_finish runs rfl nonempty tiled
          exact absurd (off.symm.trans on) Bool.false_ne_true
      refine ⟨matched.chunk, ⟨Or.inr ⟨provisional, unmoved ▸ later⟩, ?_⟩, fun _ => ⟨?_, ?_, ?_, ?_⟩⟩
      · intro on
        obtain ⟨before, same, -⟩ := kept on
        have dated := matched.dated.read before
        rw [← same, ← unmoved] at dated
        exact dated
      · intro none
        dsimp only at none
        omega
      · exact fun _ => ⟨provisional, unmoved ▸ later⟩
      · intro _ (append : opened.txn.kind = .appendKnown)
        have piece := @append_piece _ tokens append
        have begins := current.candidate later append tokens
        change (ended.candidatePleHashes).getLastD ended.committedPleHash = _
        rw [candidates, hashed.candidates, sameHash, ← hash]
        change ((opening (chunkInput opened tokens) stage).candidatePleHashes ++ hashesAfter
          ((opening (chunkInput opened tokens) stage).candidatePleHashes.getLastD
            (opening (chunkInput opened tokens) stage).committedPleHash) _).getLastD _ = _
        rw [last_hash]
        change advance (opening (chunkInput opened tokens) stage).candidate _ = _
        rw [begins, piece, ← advance_append, hash, ← List.take_add]
      · intro on
        obtain ⟨before, same, base', rows'⟩ := kept on
        have ahead := current.ahead before
        rw [← same, ← base', ← rows', ← unmoved, ← sameHash] at ahead
        exact ahead

theorem drain_inactive (stage : Stage0) : (drainPleRead stage).pleReadActive = false ∧
    (drainPleRead stage).provisionalEpoch = stage.provisionalEpoch ∧
    (drainPleRead stage).committedEpoch = stage.committedEpoch := by
  unfold drainPleRead
  split
  · exact ⟨rfl, rfl, rfl⟩
  next inactive => exact ⟨eq_false_of_ne_true inactive, rfl, rfl⟩

/-- A replay starts without a read, so there is nothing to compare with. -/
theorem restart_read_matches (count : Nat) :
    Ends (restartRead options count)
      (fun _ ready => ready.pleReadActive = true → ready.pleReadEpoch = stage.provisionalEpoch)
      (fun thrown _ => thrown ≠ rowsDiffer) stage := by
  obtain ⟨off, provisional, -⟩ := drain_inactive stage
  rw [restartRead, ends_bind, ends_write, ends_bind, ends_read]
  apply (start_ple_read_matches 0).weaken
  · intro _ ready hashed _
    rcases hashed.read with ⟨on, -⟩ | ⟨-, -, epoch⟩
    · exact absurd (off.symm.trans on) Bool.false_ne_true
    · exact epoch.trans provisional
  · rintro thrown after ⟨-, differs⟩ same
    exact absurd (off.symm.trans (differs same).1) Bool.false_ne_true

/-- A committed transaction leaves no read of a later one. -/
theorem commit_ordered {count : Nat} (matched : Matched options opened stage)
    (sound : opened.failed = false) (progress : 0 < opened.offset)
    (returned : Commit options opened.txn.epoch count stage (.ok ()) after) :
    after.provisionalEpoch = 0 ∧
      (after.pleReadActive = true → after.pleReadEpoch ≤ after.committedEpoch) := by
  obtain ⟨provisional, later⟩ := (matched.current sound).begun progress
  generalize result : (Except.ok () : Except Thrown Unit) = outcome at returned
  cases returned with
  | refused differs => cases result
  | direct accepted once =>
      refine ⟨rfl, fun on => ?_⟩
      change stage.pleReadEpoch ≤ opened.txn.epoch
      rcases matched.dated.read on with old | same
      · exact old.trans later.le
      · exact same.le
  | unready after thrown accepted again restarts => cases result
  | replayThrew ready after thrown accepted again restarts runs => cases result
  | replayed ready ended accepted again restarts runs =>
      refine ⟨rfl, fun on => ?_⟩
      change ended.pleReadEpoch ≤ opened.txn.epoch
      have restarted := @restart_read_matches options stage count
      rw [Ends, restarts] at restarted
      obtain ⟨readyOn, -, -, epoch⟩ := (run_slices_steady runs).1.read on
      rw [epoch, restarted readyOn, provisional]

/-- A checkpoint only keeps its count. -/
theorem checkpoint_steady (epoch prefixTokens : Nat) :
    Ends (checkpointSpeculativePrefix epoch prefixTokens)
      (fun _ after => after = { stage with speculativeCheckpointCount := prefixTokens })
      (fun _ after => after = stage) stage := by
  simp only [checkpointSpeculativePrefix, ends_bind, ends_read, ends_ensure, ends_write, id]
  exact ⟨fun _ => trivial, fun _ => trivial⟩

theorem rollback_ordered (matched : Matched options opened stage)
    (returned : rollback opened.txn.epoch stage = (.ok (), after)) :
    after.provisionalEpoch = 0 ∧
      (after.pleReadActive = true → after.pleReadEpoch ≤ after.committedEpoch) := by
  have upto (later : stage.committedEpoch < opened.txn.epoch)
      (on : stage.pleReadActive = true) : stage.pleReadEpoch ≤ opened.txn.epoch := by
    rcases matched.dated.read on with old | same
    · exact old.trans later.le
    · exact same.le
  have ended : Ends (rollback opened.txn.epoch)
      (fun _ after => after.provisionalEpoch = 0 ∧
        (after.pleReadActive = true → after.pleReadEpoch ≤ after.committedEpoch))
      (fun _ _ => True) stage := by
    simp only [rollback, ends_bind, ends_read, ends_ite, ends_ensure, ends_write, id]
    refine ⟨fun none => ⟨fun later => ⟨none, upto later⟩, fun _ => trivial⟩,
      fun some => ⟨fun same => ⟨rfl, upto ?_⟩, fun _ => trivial⟩⟩
    exact (matched.dated.provisional.resolve_left some).2
  rw [Ends, returned] at ended
  exact ended

theorem step_ordered {system next : System} {event : Event}
    (step : Step options system event next) (ordered : Ordered options system) :
    Ordered options next := by
  cases step with
  | reader moved step =>
      constructor
      · exact ordered.1
      · intro opened active
        have matched := ordered.2 opened active
        refine ⟨matched.chunk, ⟨matched.dated.provisional, matched.dated.read⟩, fun sound => ?_⟩
        have current := matched.current sound
        exact ⟨current.fresh, current.begun, current.hashed, current.ahead⟩
  | prepare txn tokens closed count =>
      apply ordered_open rfl
      obtain ⟨none, old⟩ := ordered.1 closed
      refine ⟨rfl, ⟨Or.inl none, fun on => Or.inl (old on)⟩, fun _ => ?_⟩
      exact ⟨fun _ => none, fun some => absurd some (Nat.lt_irrefl 0),
        fun some => absurd some (Nat.lt_irrefl 0), fun on => Or.inl (old on)⟩
  | prefetchCancelled opened active needed unread first sound =>
      have matched := ordered.2 opened active
      exact ordered_open rfl (failed_matched matched matched.dated)
  | prefetchFailed opened thrown after active needed unread first sound threw =>
      have matched := ordered.2 opened active
      have ended := @start_ple_prefetch_matches options system.stage opened.tokens opened.txn
      rw [Ends, threw] at ended
      exact ordered_open rfl (failed_matched matched (matched.dated.steady ended))
  | prefetched opened after active needed unread first sound started =>
      have matched := ordered.2 opened active
      have current := matched.current sound
      have ended := @start_ple_prefetch_matches options system.stage opened.tokens opened.txn
      rw [Ends, started] at ended
      obtain ⟨append, provisional, committed, hash, epoch, base, rows⟩ := ended
      apply ordered_open rfl
      have none : after.provisionalEpoch = 0 := provisional.trans (current.fresh first)
      have start : ¬ 0 < opened.offset := by omega
      refine ⟨matched.chunk, ⟨Or.inl none, fun _ => Or.inr epoch⟩, fun _ => ?_⟩
      refine ⟨fun _ => none, fun some => absurd some start, fun some => absurd some start, ?_⟩
      exact fun _ => Or.inr ⟨append, base, by rw [rows, hash]⟩
  | executeFailed opened tokens thrown after active reads sound more count threw =>
      have matched := ordered.2 opened active
      exact ordered_open rfl (failed_matched matched (execute_failed_dated matched threw))
  | executed opened tokens after active reads sound more count returned =>
      exact ordered_open rfl
        (executed_current (ordered.2 opened active) sound more count returned)
  | checkpointFailed opened thrown after active sound threw =>
      have matched := ordered.2 opened active
      have ended := @checkpoint_steady system.stage opened.txn.epoch opened.offset
      rw [Ends, threw] at ended
      exact ordered_open rfl (failed_matched matched (ended ▸ matched.dated))
  | checkpointed opened after active sound returned =>
      have matched := ordered.2 opened active
      have ended := @checkpoint_steady system.stage opened.txn.epoch opened.offset
      rw [Ends, returned] at ended
      refine @ordered_open options opened { stage := after, active := system.active } active ?_
      subst ended
      refine ⟨matched.chunk, ⟨matched.dated.provisional, matched.dated.read⟩, fun sound => ?_⟩
      have current := matched.current sound
      exact ⟨current.fresh, current.begun, current.hashed, current.ahead⟩
  | commit opened count after active sound decided some returned =>
      have closed := commit_ordered (ordered.2 opened active) sound some returned
      exact ⟨fun _ => closed, fun other listed => by cases listed⟩
  | rollback opened after active returned =>
      have closed := rollback_ordered (ordered.2 opened active) returned
      exact ⟨fun _ => closed, fun other listed => by cases listed⟩
  | reset after closed returned =>
      have ended : Ends (resetSession options)
          (fun _ after => after.provisionalEpoch = 0 ∧ after.pleReadActive = false)
          (fun _ _ => True) system.stage := by
        simp only [resetSession, ends_bind, ends_read, ends_ensure, ends_write, id]
        obtain ⟨off, provisional, -⟩ := drain_inactive system.stage
        exact ⟨fun valid => ⟨provisional.trans valid.1, off⟩, fun _ => trivial⟩
      rw [Ends, returned] at ended
      refine ⟨fun _ => ⟨ended.1, fun on => ?_⟩, fun other listed => by cases listed⟩
      exact absurd (ended.2.symm.trans on) Bool.false_ne_true

/-- The runs of the protocol, whatever is given up in them. -/
abbrev Happens (options : Options) : System → System → Prop :=
  Relation.ReflTransGen fun before after => ∃ event, Step options before event after

theorem happens_ordered {start system : System} (happens : Happens options start system)
    (ordered : Ordered options start) : Ordered options system := by
  induction happens with
  | refl => exact ordered
  | tail _ step ih =>
      obtain ⟨event, steps⟩ := step
      exact step_ordered steps ih

/-- A stage nothing has been asked of. -/
def Untouched (system : System) : Prop :=
  system.active = none ∧ system.stage.provisionalEpoch = 0 ∧ system.stage.pleReadActive = false

/-- Neither a chunk nor a replay finds other rows than were read ahead. -/
def NeverDiffers (options : Options) (system : System) : Prop :=
  (∀ opened ∈ system.active, opened.failed = false → opened.offset < opened.tokens.length →
    ∀ tokens, (acceptInput options (chunkInput opened tokens) system.stage).1 ≠
      .error rowsDiffer) ∧
    ∀ count, (restartRead options count system.stage).1 ≠ .error rowsDiffer

theorem happens_never_differs {start system : System} (untouched : Untouched start)
    (happens : Happens options start system) : NeverDiffers options system := by
  obtain ⟨closed, none, off⟩ := untouched
  have begins : Ordered options start := by
    refine ⟨fun _ => ⟨none, fun on => absurd (off.symm.trans on) Bool.false_ne_true⟩, ?_⟩
    intro opened listed
    cases closed.symm.trans listed
  have ordered := happens_ordered happens begins
  constructor
  · intro opened active sound more tokens differs
    have ended := @accept_input_matches options system.stage (chunkInput opened tokens)
    unfold Ends at ended
    rcases answer : acceptInput options (chunkInput opened tokens) system.stage with
      ⟨outcome, after⟩
    rw [answer] at ended differs
    dsimp only at differs
    subst differs
    cases ended with
    | checks same other => exact other rfl
    | rows checked steady compared =>
        exact chunk_agrees (ordered.2 opened active) sound more checked (compared rfl)
  · intro count differs
    have ended := @restart_read_matches options system.stage count
    unfold Ends at ended
    rcases answer : restartRead options count system.stage with ⟨outcome, after⟩
    rw [answer] at ended differs
    dsimp only at differs
    subst differs
    exact ended rfl

/-- A text is hashed to the same rows however it is cut: into batches, into the
chunks of a transaction, or read ahead as a whole. -/
theorem hash_is_chunk_homomorphism (options : Options) :
    (∀ state first second,
      (PleHashState.rows options.hash (first ++ second) state).1 =
          ((do
            let early ← PleHashState.rows options.hash first
            let late ← PleHashState.rows options.hash second
            pure (early ++ late)) state).1 ∧
        ((first ++ second).all (known options.hash) = true →
          (PleHashState.rows options.hash (first ++ second) state).2 =
            (PleHashState.rows options.hash second
              (PleHashState.rows options.hash first state).2).2)) ∧
      (∀ batches, batches.flatten.all (known options.hash) = true →
        (hashBatches options.hash batches (reset options.hash)).2 =
          lastTwo options.hash batches.flatten) ∧
      (∀ state tokens, (∃ token ∈ tokens, known options.hash token = false) →
        PleHashState.rows options.hash tokens state = (.error outsideVocabulary, state)) ∧
      (∀ committed chunks, (hashChunks options.hash committed chunks []).1 =
        (PleHashState.rows options.hash chunks.flatten committed).1) ∧
      ∀ start system, Untouched start → Happens options start system →
        NeverDiffers options system := by
  refine ⟨fun state first second => rows_append first second, ?_, ?_,
    fun committed chunks => hash_chunks_whole chunks,
    fun start system untouched happens => happens_never_differs untouched happens⟩
  · intro batches all
    rw [hash_batches_known all]
    exact advance_last_two [] batches.flatten
  · rintro state tokens ⟨token, listed, unknown⟩
    apply rows_unknown
    intro all
    rw [List.all_eq_true.mp all token listed] at unknown
    cases unknown

end Runs

def readingSystem : System where
  stage := readingStage
  active := some { longOpened with readAhead := true }

theorem prefetches_long :
    Step sampleOptions { stage := freshStage, active := some longOpened } .prefetch
      readingSystem := by
  have needed : needsReadAhead longOpened = true := by
    have count : longOpened.tokens.length = 513 := List.length_replicate
    unfold needsReadAhead
    rw [count]
    rfl
  exact Step.prefetched _ longOpened readingStage rfl needed rfl rfl rfl reads_long

/-- What was read ahead for a long append is found again. -/
theorem hash_is_chunk_homomorphism_long : NeverDiffers sampleOptions readingSystem := by
  have untouched : Untouched freshSystem := ⟨rfl, rfl, rfl⟩
  have happens : Happens sampleOptions freshSystem readingSystem :=
    (Relation.ReflTransGen.single ⟨_, prepares_long⟩).tail ⟨_, prefetches_long⟩
  exact (hash_is_chunk_homomorphism sampleOptions).2.2.2.2 freshSystem readingSystem untouched
    happens

end Q38.PleReadAhead
