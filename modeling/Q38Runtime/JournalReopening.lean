import Q38Runtime.JournalRecovery

/-! Reopening a journal: after a crash the records that survived count and the
others never happened; `latest()` survives up to the extent of its record. -/
namespace Q38.JournalReopening
open Contracts Identity Snapshot SnapshotValidity JournalRecovery RecordLog

/-- The journal of a file that does not exist yet. -/
def emptyJournal (identity : SessionIdentityV1) : SnapshotJournal := ⟨identity, [], {}⟩

section Opening
variable {path : String} {identity : SessionIdentityV1}

theorem open_empty (named : path.isEmpty = false) (valid : validateSessionIdentity identity = none) :
    openJournal path identity [] = .ok (emptyJournal identity) := by
  have read := Reader.read_all_stops (load_record_ended identity {})
  rw [openJournal, if_neg (by simp [named, valid]), read]
  rfl

theorem open_empty_inv {started : SnapshotJournal}
    (opened : openJournal path identity [] = .ok started) :
    path.isEmpty = false ∧ validateSessionIdentity identity = none ∧
      started = emptyJournal identity := by
  by_cases refused : path.isEmpty ∨ validateSessionIdentity identity ≠ none
  · rw [openJournal, if_pos refused] at opened
    simp at opened
  · simp only [not_or, ne_eq, not_not, Bool.not_eq_true] at refused
    rw [open_empty refused.1 refused.2] at opened
    exact ⟨refused.1, refused.2, (Except.ok.inj opened).symm⟩

theorem empty_matches (identity : SessionIdentityV1) : Matches {} (emptyJournal identity) where
  tokens := rfl
  sequence := rfl
  bytes := rfl
  current := ⟨rfl, rfl⟩

/-- The snapshot `load` leaves behind. -/
def restored (loaded : StateSnapshotV1) : StateSnapshotV1 :=
  if loaded.header.sequence ≠ 0 then
    { loaded with header := { loaded.header with tokenStart := 0 } }
  else loaded

theorem restored_same (loaded : StateSnapshotV1) : SameState (restored loaded) loaded := by
  unfold restored
  split <;> exact ⟨rfl, rfl⟩

variable {entries : List Entry} {written : SnapshotJournal}

/-- Opening the cut file reads a shorter run and forgets the rest of the file. -/
theorem open_cut (named : path.isEmpty = false) (valid : validateSessionIdentity identity = none)
    (run : appendAll entries (emptyJournal identity) = (.ok (), written)) (cut : Nat) :
    ∃ kept shorter reopened, kept <+: entries ∧
      appendAll kept (emptyJournal identity) = (.ok (), shorter) ∧
      Reader.whole cut (recordsOf entries (emptyJournal identity)) =
        recordsOf kept (emptyJournal identity) ∧
      openJournal path identity (written.file.take cut) = .ok reopened ∧
      reopened.current =
        restored (readStates kept {} (emptyJournal identity)).current ∧
      Alike reopened shorter := by
  obtain ⟨kept, shorter, isPrefix, short, records, read⟩ :=
    cut_file_reads (empty_matches identity) run cut
  obtain ⟨_, file, _, _⟩ := append_all_reads (empty_matches identity) run
  obtain ⟨owner, shortFile, _, same⟩ := append_all_reads (empty_matches identity) short
  replace file : written.file = (recordsOf entries (emptyJournal identity)).flatten := file
  replace shortFile : shorter.file = (recordsOf kept (emptyJournal identity)).flatten := shortFile
  rw [← file] at read
  replace read : (journalReader identity).readAll {} (written.file.take cut) =
      .ok (readStates kept {} (emptyJournal identity)) := read
  have opened : openJournal path identity (written.file.take cut) = .ok
      ⟨identity, (written.file.take cut).take
          (readStates kept {} (emptyJournal identity)).validBytes,
        restored (readStates kept {} (emptyJournal identity)).current⟩ := by
    rw [openJournal, if_neg (by simp [named, valid]), read]
    rfl
  refine ⟨kept, shorter, _, isPrefix, short, records, opened, rfl, owner.symm, ?_, ?_⟩
  · have fits : shorter.file.length ≤ cut := by
      rw [shortFile, ← records]
      exact Reader.whole_fits _ _
    have leading : shorter.file <+: written.file := by
      obtain ⟨lost, rfl⟩ := isPrefix
      obtain ⟨middle, first, second⟩ := append_all_take kept.length run
      rw [List.take_left, short] at first
      obtain rfl : shorter = middle := congrArg Prod.snd first
      rw [List.drop_left] at second
      obtain ⟨_, tail, _, _⟩ := append_all_reads same second
      exact ⟨_, tail.symm⟩
    rw [same.bytes, List.take_take, Nat.min_eq_left fits]
    exact (List.prefix_iff_eq_take.mp leading).symm
  · obtain ⟨tokens, headers⟩ := restored_same (readStates kept {} (emptyJournal identity)).current
    exact ⟨tokens.trans same.current.1, headers.trans same.current.2⟩

theorem Alike.holds {left right : SnapshotJournal} (alike : Alike left right)
    {entries : List Entry} (empty : entries = [] → left.current = {})
    (held : Holds right.current entries) : Holds left.current entries := by
  obtain ⟨tokens, headers⟩ := alike.state
  have field {α : Type} (view : StateSnapshotHeaderV1 → α)
      (ignores : ∀ header tokens, view (fullExtent header tokens) = view header) :
      view left.current.header = view right.current.header := by
    have := congrArg view headers
    rwa [ignores, ignores] at this
  refine ⟨(field (·.sequence.toNat) fun _ _ => rfl).trans held.sequence, empty, fun entry last => ?_⟩
  obtain ⟨lastTokens, frontiers, sampler, sample, flags, timestamp⟩ := held.last entry last
  exact ⟨tokens.trans lastTokens, (field (·.frontiers) fun _ _ => rfl).trans frontiers,
    (field (·.sampler) fun _ _ => rfl).trans sampler,
    (field (·.lastSample) fun _ _ => rfl).trans sample,
    (field (·.flags) fun _ _ => rfl).trans flags,
    (field (·.timestampNs) fun _ _ => rfl).trans timestamp⟩

theorem empty_holds (identity : SessionIdentityV1) : Holds (emptyJournal identity).current [] where
  sequence := rfl
  empty _ := rfl
  last _ impossible := by simp at impossible

/-- The history of the reopened journal is the shorter run's. -/
theorem reopened_holds {kept : List Entry} {shorter reopened : SnapshotJournal}
    (short : appendAll kept (emptyJournal identity) = (.ok (), shorter))
    (alike : Alike reopened shorter)
    (current : reopened.current =
      restored (readStates kept {} (emptyJournal identity)).current) :
    Holds reopened.current kept := by
  have held : Holds shorter.current kept := append_all_holds (empty_holds identity) short
  refine Alike.holds alike (fun none => ?_) held
  subst none
  rw [current]
  rfl

/-- A cut no shorter than the file loses nothing. -/
theorem cut_beyond {kept : List Entry}
    (run : appendAll entries (emptyJournal identity) = (.ok (), written))
    (isPrefix : kept <+: entries) {cut : Nat} (beyond : written.file.length ≤ cut)
    (records : Reader.whole cut (recordsOf entries (emptyJournal identity)) =
      recordsOf kept (emptyJournal identity)) : kept = entries := by
  obtain ⟨_, file, _, _⟩ := append_all_reads (empty_matches identity) run
  replace file : written.file = (recordsOf entries (emptyJournal identity)).flatten := file
  have all := Reader.whole_longest (List.prefix_refl (recordsOf entries (emptyJournal identity)))
    (show _ ≤ cut by rw [← file]; exact beyond)
  have lengths := all.length_le
  rw [records, records_of_length, records_of_length] at lengths
  exact isPrefix.eq_of_length_le lengths

/-- Crash recovery. Whatever the appends and wherever the file is cut, the
journal opens, shows the snapshot of the last record that survived whole, cuts
the file behind that record, and from then on is the journal of the shorter
run: later appends answer and write the same, and what they write is read back
again. -/
theorem journal_crash_recovery (started : SnapshotJournal)
    (opened : openJournal path identity [] = .ok started)
    (run : appendAll entries started = (.ok (), written)) (cut : Nat) :
    ∃ kept shorter reopened, kept <+: entries ∧ appendAll kept started = (.ok (), shorter) ∧
      shorter.file.length ≤ cut ∧
      (∀ longer other, longer <+: entries → appendAll longer started = (.ok (), other) →
        other.file.length ≤ cut → longer <+: kept) ∧
      openJournal path identity (written.file.take cut) = .ok reopened ∧
      reopened.file = shorter.file ∧ Holds reopened.current kept ∧
      ∀ later, (appendAll later reopened).1 = (appendAll later shorter).1 ∧
        (appendAll later reopened).2.file = (appendAll later shorter).2.file ∧
        ∀ final, appendAll later reopened = (.ok (), final) →
          ∃ again, openJournal path identity final.file = .ok again ∧
            again.file = final.file ∧ Holds again.current (kept ++ later) := by
  obtain ⟨named, valid, rfl⟩ := open_empty_inv opened
  obtain ⟨kept, shorter, reopened, isPrefix, short, records, opening, current, alike⟩ :=
    open_cut named valid run cut
  obtain ⟨_, shortFile, _, _⟩ := append_all_reads (empty_matches identity) short
  replace shortFile : shorter.file = (recordsOf kept (emptyJournal identity)).flatten := shortFile
  refine ⟨kept, shorter, reopened, isPrefix, short, ?fits, ?longest, opening, alike.file,
    reopened_holds short alike current, fun later => ?later⟩
  case fits =>
    rw [shortFile, ← records]
    exact Reader.whole_fits _ _
  case longest =>
    intro longer other longerPrefix longerRun fits
    obtain ⟨_, otherFile, _, _⟩ := append_all_reads (empty_matches identity) longerRun
    replace otherFile : other.file = (recordsOf longer (emptyJournal identity)).flatten := otherFile
    have among : recordsOf longer (emptyJournal identity) <+:
        recordsOf entries (emptyJournal identity) := by
      rw [List.prefix_iff_eq_take.mp longerPrefix, records_of_take]
      exact List.take_prefix _ _
    have inside := Reader.whole_longest among (show _ ≤ cut by rw [← otherFile]; exact fits)
    have lengths := inside.length_le
    rw [records, records_of_length, records_of_length] at lengths
    exact List.prefix_of_prefix_length_le longerPrefix isPrefix lengths
  case later =>
    obtain ⟨answers, after⟩ := alike.append_all later
    refine ⟨answers, after.file, fun final ended => ?_⟩
    rcases outcome : appendAll later shorter with ⟨answer, last⟩
    rw [ended, outcome] at answers after
    subst answers
    obtain ⟨keptAgain, shorterAgain, again, againPrefix, againRun, againRecords, againOpening,
      againCurrent, againAlike⟩ :=
      open_cut named valid (append_all_append short outcome) last.file.length
    obtain rfl := cut_beyond (append_all_append short outcome) againPrefix (le_refl _) againRecords
    obtain rfl : last = shorterAgain :=
      congrArg Prod.snd ((append_all_append short outcome).symm.trans againRun)
    rw [List.take_length, ← after.file] at againOpening
    exact ⟨again, againOpening, againAlike.file.trans after.file.symm,
      reopened_holds againRun againAlike againCurrent⟩

/-- How much of the history before it the last append repeats. -/
def lastShared (history : List Token) : List Entry → Nat
  | [] => 0
  | [entry] => commonPrefix history entry.snapshot.canonicalTokens
  | entry :: next :: rest => lastShared entry.snapshot.canonicalTokens (next :: rest)

/-- The header of the last record read spans what that record carries. -/
theorem read_states_extent {entry : Entry} {rest : List Entry} {state : Loaded}
    {journal after : SnapshotJournal}
    (run : appendAll (entry :: rest) journal = (.ok (), after)) :
    let loaded := (readStates (entry :: rest) state journal).current
    loaded.header.tokenStart.toNat =
        lastShared journal.current.canonicalTokens (entry :: rest) ∧
      loaded.header.tokenStart + loaded.header.tokenCount = loaded.header.canonicalTokenCount ∧
      loaded.header.payloadBytes = loaded.header.tokenCount * 4 ∧
      loaded.header.canonicalTokenCount = UInt64.ofNat loaded.canonicalTokens.length := by
  induction rest generalizing entry state journal with
  | nil =>
      obtain ⟨accepted, _⟩ := (append_all_cons entry [] journal after).mp run
      exact ⟨token_start_to_nat accepted, extent_closed entry journal, rfl, rfl⟩
  | cons next rest ih =>
      obtain ⟨_, later⟩ := (append_all_cons entry (next :: rest) journal after).mp run
      exact ih later

def Full (snapshot : StateSnapshotV1) : Prop :=
  fullExtent snapshot.header snapshot.canonicalTokens = snapshot.header

theorem append_all_full {journal after : SnapshotJournal} (full : Full journal.current)
    (run : appendAll entries journal = (.ok (), after)) : Full after.current := by
  induction entries generalizing journal with
  | nil =>
      obtain rfl : journal = after := congrArg Prod.snd run
      exact full
  | cons entry rest ih =>
      obtain ⟨_, later⟩ := (append_all_cons entry rest journal after).mp run
      exact ih (show Full (appended entry journal).current from rfl) later

/-- Equal field by field except `record_checksum`, and spanning one extent. -/
structure SameRecord (before after : StateSnapshotV1) : Prop where
  tokens : after.canonicalTokens = before.canonicalTokens
  header : { after.header with recordChecksum := 0 } = { before.header with recordChecksum := 0 }
  extent : after.header.tokenStart + after.header.tokenCount = after.header.canonicalTokenCount
  payload : after.header.payloadBytes = 4 * after.header.tokenCount

/-- `latest()` answers the same before the close and after the reopening. -/
def LatestPreserved (closed reopened : SnapshotJournal) : Prop :=
  match latest closed, latest reopened with
  | .ok before, .ok after => SameRecord before after
  | .error before, .error after => before = after
  | _, _ => False

theorem same_record_iff {loaded written : StateSnapshotV1} (same : SameState loaded written)
    (full : Full written) (nonempty : loaded.header.sequence ≠ 0)
    (extent : loaded.header.tokenStart + loaded.header.tokenCount =
      loaded.header.canonicalTokenCount)
    (payload : loaded.header.payloadBytes = loaded.header.tokenCount * 4)
    (count : loaded.header.canonicalTokenCount = UInt64.ofNat loaded.canonicalTokens.length) :
    SameRecord written (restored loaded) ↔ loaded.header.tokenStart = 0 := by
  obtain ⟨tokens, headers⟩ := same
  have written_header : written.header = fullExtent loaded.header loaded.canonicalTokens :=
    full.symm.trans headers.symm
  have reopened : restored loaded =
      { loaded with header := { loaded.header with tokenStart := 0 } } := by
    rw [restored, if_pos nonempty]
  constructor
  · intro preserved
    have counts := congrArg StateSnapshotHeaderV1.tokenCount preserved.header
    rw [reopened, written_header] at counts
    replace counts : loaded.header.tokenCount = UInt64.ofNat loaded.canonicalTokens.length := counts
    rw [← count] at counts
    rw [counts] at extent
    simpa using extent
  · intro zero
    have counts : loaded.header.tokenCount = UInt64.ofNat loaded.canonicalTokens.length := by
      rw [← count, ← extent, zero, UInt64.zero_add]
    rw [reopened]
    refine ⟨tokens, ?_, ?_, ?_⟩
    · rw [written_header]
      simp only [fullExtent, ← counts, ← payload]
    · rw [zero] at extent
      exact extent
    · exact payload.trans (UInt64.mul_comm _ _)

theorem latest_iff_shared {reopened : SnapshotJournal}
    (run : appendAll entries (emptyJournal identity) = (.ok (), written))
    (alike : Alike reopened written)
    (current : reopened.current =
      restored (readStates entries {} (emptyJournal identity)).current) :
    LatestPreserved written reopened ↔ lastShared [] entries = 0 := by
  obtain ⟨_, _, _, reads⟩ := append_all_reads (empty_matches identity) run
  have held : Holds written.current entries := append_all_holds (empty_holds identity) run
  have heldAgain := reopened_holds run alike current
  cases entries with
  | nil =>
      have closedEmpty := held.empty rfl
      have reopenedEmpty := heldAgain.empty rfl
      simp [LatestPreserved, latest, closedEmpty, reopenedEmpty, lastShared]
  | cons entry rest =>
      have numbered {snapshot : StateSnapshotV1} (held : Holds snapshot (entry :: rest)) :
          snapshot.header.sequence ≠ 0 := fun zero => by
        have := held.sequence
        rw [zero] at this
        simp at this
      obtain ⟨start, extent, payload, count⟩ := @read_states_extent _ _ {} _ _ run
      have full := append_all_full (show Full (emptyJournal identity).current from rfl) run
      have loaded := numbered held
      rw [← reads.current.sequence] at loaded
      have same := same_record_iff reads.current full loaded extent payload count
      rw [← current] at same
      replace start : _ = lastShared [] (entry :: rest) := start
      simp only [LatestPreserved, latest, if_neg (numbered held), if_neg (numbered heldAgain), same,
        ← start]
      exact UInt64.toNat_inj.symm

theorem open_written (named : path.isEmpty = false)
    (valid : validateSessionIdentity identity = none)
    (run : appendAll entries (emptyJournal identity) = (.ok (), written)) :
    ∃ reopened, openJournal path identity written.file = .ok reopened ∧ Alike reopened written ∧
      reopened.current = restored (readStates entries {} (emptyJournal identity)).current := by
  obtain ⟨kept, shorter, reopened, isPrefix, short, records, opening, current, alike⟩ :=
    open_cut named valid run written.file.length
  obtain rfl := cut_beyond run isPrefix (le_refl _) records
  obtain rfl : written = shorter := congrArg Prod.snd (run.symm.trans short)
  rw [List.take_length] at opening
  exact ⟨reopened, opening, alike, current⟩

/-- `latest()` survives closing and reopening exactly when the last appended
history shares no leading token with the one before it: `load` moves the start
of the last record to zero but leaves the record's count and payload. -/
theorem latest_preserved_iff (started : SnapshotJournal)
    (opened : openJournal path identity [] = .ok started)
    (run : appendAll entries started = (.ok (), written)) :
    ∃ reopened, openJournal path identity written.file = .ok reopened ∧
      (LatestPreserved written reopened ↔ lastShared [] entries = 0) := by
  obtain ⟨named, valid, rfl⟩ := open_empty_inv opened
  obtain ⟨reopened, opening, alike, current⟩ := open_written named valid run
  exact ⟨reopened, opening, latest_iff_shared run alike current⟩

end Opening

/-- A session that has evaluated all of `tokens`. -/
def settled (tokens : List Token) : StateSnapshotV1 where
  header := {
    frontiers := SessionFrontiersV1.toWords
      ⟨tokens.length, tokens.length, tokens.length, tokens.length, 0, 0⟩
    sampler := { canonicalTokens := UInt64.ofNat tokens.length } }
  canonicalTokens := tokens

/-- Any settled history within the context can be appended, until the sequence
numbers run out. -/
theorem settled_appendable {journal : SnapshotJournal} {tokens : List Token} (now : UInt64)
    (fits : tokens.length ≤ journal.identity.contextLimit.toNat)
    (unused : journal.current.header.sequence + 1 ≠ 0) :
    appendable ⟨now, settled tokens⟩ journal := by
  have limit := journal.identity.contextLimit.toNat_lt
  have count : (UInt64.ofNat tokens.length).toNat = tokens.length :=
    UInt64.toNat_ofNat_of_lt' (show _ < 2 ^ 64 by omega)
  refine (validate_state_snapshot_iff _ _).mpr ?_
  constructor
  case sequence => exact unused
  case count => exact count
  case bounded =>
    change ¬ UInt64.ofNat tokens.length > journal.identity.contextLimit.toUInt64
    rw [gt_iff_lt, UInt64.lt_iff_toNat_lt, count, UInt32.toNat_toUInt64]
    omega
  case ordered => exact UInt64.lt_irrefl (UInt64.ofNat tokens.length)
  case pending =>
    change ¬ UInt64.ofNat tokens.length - UInt64.ofNat tokens.length > 1
    simp
  case frontiers =>
    refine (validate_frontiers_iff _).mpr ⟨rfl, rfl, UInt64.lt_irrefl (UInt64.ofNat tokens.length), ?_⟩
    exact UInt64.not_lt.mpr (UInt64.zero_le)
  case rebuild => exact show kSnapshotColdRebuild &&& kSnapshotColdRebuild ≠ 0 by decide
  case flags =>
    exact show kSnapshotColdRebuild &&& ~~~(kSnapshotColdRebuild ||| kSnapshotHasLastSample) = 0
      by decide
  case last =>
    exact fun absurd => absurd.1
      (show kSnapshotColdRebuild &&& kSnapshotHasLastSample = 0 by decide)
  all_goals rfl

def sampleIdentity : SessionIdentityV1 := makeDevelopmentIdentity 1 64 {}

theorem sample_identity_valid : validateSessionIdentity sampleIdentity = none :=
  development_identity_valid 1 64 {} (by decide) (by decide)

theorem open_sample (path : String) (named : path.isEmpty = false) :
    openJournal path sampleIdentity [] = .ok (emptyJournal sampleIdentity) :=
  open_empty named sample_identity_valid

/-- Two appends, of the histories `[7]` and `[7, 9]`. -/
def sampleEntries : List Entry := [⟨5, settled [7]⟩, ⟨6, settled [7, 9]⟩]

theorem sample_run : ∃ written,
    appendAll sampleEntries (emptyJournal sampleIdentity) = (.ok (), written) :=
  ⟨_, (append_all_cons _ _ _ _).mpr ⟨settled_appendable 5 (by decide) (by decide),
    (append_all_cons _ _ _ _).mpr ⟨settled_appendable 6 (by decide) (by decide), rfl⟩⟩⟩

theorem journal_crash_recovery_sample : ∃ written kept reopened,
    appendAll sampleEntries (emptyJournal sampleIdentity) = (.ok (), written) ∧
      openJournal "journal" sampleIdentity (written.file.take 200) = .ok reopened ∧
      Holds reopened.current kept := by
  obtain ⟨written, run⟩ := sample_run
  obtain ⟨kept, _, reopened, _, _, _, _, opening, _, held, _⟩ :=
    journal_crash_recovery (emptyJournal sampleIdentity)
      (open_sample "journal" rfl) run 200
  exact ⟨written, kept, reopened, run, opening, held⟩

theorem latest_preserved_iff_sample : ∃ written reopened,
    appendAll sampleEntries (emptyJournal sampleIdentity) = (.ok (), written) ∧
      openJournal "journal" sampleIdentity written.file = .ok reopened ∧
      (LatestPreserved written reopened ↔ lastShared [] sampleEntries = 0) := by
  obtain ⟨written, run⟩ := sample_run
  obtain ⟨reopened, opening, preserved⟩ := latest_preserved_iff (emptyJournal sampleIdentity)
    (open_sample "journal" rfl) run
  exact ⟨written, reopened, run, opening, preserved⟩

/-- After the second append `latest()` spans both tokens; after the reopening
it starts at zero and counts one. -/
theorem latest_lost_on_reopening : ∃ written reopened,
    openJournal "journal" sampleIdentity [] = .ok (emptyJournal sampleIdentity) ∧
      appendAll sampleEntries (emptyJournal sampleIdentity) = (.ok (), written) ∧
      openJournal "journal" sampleIdentity written.file = .ok reopened ∧
      ¬ LatestPreserved written reopened := by
  obtain ⟨written, run⟩ := sample_run
  obtain ⟨reopened, opening, alike, current⟩ :=
    @open_written "journal" _ _ _ rfl sample_identity_valid run
  refine ⟨written, reopened, open_sample "journal" rfl, run, opening, ?_⟩
  rw [latest_iff_shared run alike current]
  decide

end Q38.JournalReopening
