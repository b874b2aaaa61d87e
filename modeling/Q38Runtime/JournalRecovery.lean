import Q38Runtime.SnapshotValidity

/-! Runs of `append` on one journal, and what reopening the file gives after
the process died with the file cut at an arbitrary byte. -/
namespace Q38.JournalRecovery
open Contracts Sampling Identity FixedCodec Imperative RecordLog Snapshot SnapshotValidity

/-- One call of `append` and the clock it reads. -/
structure Entry where
  now : UInt64
  snapshot : StateSnapshotV1

def appendEntry (entry : Entry) : Proc Thrown SnapshotJournal Unit :=
  append entry.now .complete entry.snapshot

def appendAll : List Entry → Proc Thrown SnapshotJournal Unit
  | [] => pure ()
  | entry :: rest => do
      appendEntry entry
      appendAll rest

/-- The journal after an append that succeeded. -/
def appended (entry : Entry) (journal : SnapshotJournal) : SnapshotJournal :=
  let record := recordOf journal entry.now entry.snapshot
  { journal with
    file := journal.file ++ recordBytes record
    current := ⟨fullExtent record.1 entry.snapshot.canonicalTokens, entry.snapshot.canonicalTokens⟩ }

def appendable (entry : Entry) (journal : SnapshotJournal) : Prop :=
  validateStateSnapshot
    ⟨(recordOf journal entry.now entry.snapshot).1, entry.snapshot.canonicalTokens⟩
    journal.identity = none

theorem append_entry_ok (entry : Entry) (journal after : SnapshotJournal) :
    appendEntry entry journal = (.ok (), after) ↔
      appendable entry journal ∧ after = appended entry journal := by
  unfold appendEntry append appendable
  simp only
  split
  · next refused => simp [Proc.throwing, refused]
  · next accepted =>
      simp only [Prod.mk.injEq, true_and, accepted]
      exact eq_comm

theorem append_all_cons (entry : Entry) (rest : List Entry) (journal after : SnapshotJournal) :
    appendAll (entry :: rest) journal = (.ok (), after) ↔
      appendable entry journal ∧ appendAll rest (appended entry journal) = (.ok (), after) := by
  change Proc.bind (appendEntry entry) (fun _ => appendAll rest) journal = _ ↔ _
  unfold Proc.bind
  rcases outcome : appendEntry entry journal with ⟨result, middle⟩
  cases result with
  | ok value =>
      obtain ⟨accepted, rfl⟩ := (append_entry_ok entry journal middle).mp outcome
      simp only [accepted, true_and]
  | error thrown =>
      have refused : ¬ appendable entry journal := fun accepted => by
        have := (append_entry_ok entry journal _).mpr ⟨accepted, rfl⟩
        simp [outcome] at this
      simp [refused]

theorem append_all_take {entries : List Entry} {journal after : SnapshotJournal} (count : Nat)
    (run : appendAll entries journal = (.ok (), after)) :
    ∃ middle, appendAll (entries.take count) journal = (.ok (), middle) ∧
      appendAll (entries.drop count) middle = (.ok (), after) := by
  induction entries generalizing journal count with
  | nil => exact ⟨journal, by simp [appendAll]; rfl, by simpa using run⟩
  | cons entry rest ih =>
      cases count with
      | zero => exact ⟨journal, rfl, run⟩
      | succ count =>
          obtain ⟨accepted, later⟩ := (append_all_cons entry rest journal after).mp run
          obtain ⟨middle, taken, dropped⟩ := ih count later
          exact ⟨middle, (append_all_cons entry _ journal middle).mpr ⟨accepted, taken⟩, dropped⟩

theorem append_all_append {first second : List Entry} {journal middle after : SnapshotJournal}
    (head : appendAll first journal = (.ok (), middle))
    (tail : appendAll second middle = (.ok (), after)) :
    appendAll (first ++ second) journal = (.ok (), after) := by
  induction first generalizing journal with
  | nil =>
      obtain rfl : journal = middle := congrArg Prod.snd head
      exact tail
  | cons entry rest ih =>
      obtain ⟨accepted, later⟩ := (append_all_cons entry rest journal middle).mp head
      exact (append_all_cons entry (rest ++ second) journal after).mpr ⟨accepted, ih later⟩

/-- The records a run of appends writes. -/
def recordsOf : List Entry → SnapshotJournal → List (List UInt8)
  | [], _ => []
  | entry :: rest, journal =>
      recordBytes (recordOf journal entry.now entry.snapshot) ::
        recordsOf rest (appended entry journal)

theorem records_of_take (entries : List Entry) (journal : SnapshotJournal) (count : Nat) :
    recordsOf (entries.take count) journal = (recordsOf entries journal).take count := by
  induction entries generalizing journal count with
  | nil => simp [recordsOf]
  | cons entry rest ih =>
      cases count with
      | zero => rfl
      | succ count => simp [recordsOf, ih]

theorem records_of_length (entries : List Entry) (journal : SnapshotJournal) :
    (recordsOf entries journal).length = entries.length := by
  induction entries generalizing journal with
  | nil => rfl
  | cons entry rest ih => simp [recordsOf, ih]

/-- Two snapshots that differ at most in how much of the history their record
carries. -/
def SameState (left right : StateSnapshotV1) : Prop :=
  left.canonicalTokens = right.canonicalTokens ∧
    fullExtent left.header left.canonicalTokens = fullExtent right.header right.canonicalTokens

theorem SameState.sequence {left right : StateSnapshotV1} (same : SameState left right) :
    left.header.sequence = right.header.sequence :=
  show (fullExtent left.header _).sequence = (fullExtent right.header _).sequence
    from congrArg StateSnapshotHeaderV1.sequence same.2

/-- The loader has read exactly what the journal has written. -/
structure Matches (state : Loaded) (journal : SnapshotJournal) : Prop where
  tokens : state.canonical = journal.current.canonicalTokens
  sequence : state.lastSequence = journal.current.header.sequence
  bytes : state.validBytes = journal.file.length
  current : SameState state.current journal.current

section Step
variable {state : Loaded} {journal : SnapshotJournal} {entry : Entry}

/-- The new history, as the number of tokens it shares with the old one. -/
def shared (entry : Entry) (journal : SnapshotJournal) : Nat :=
  commonPrefix journal.current.canonicalTokens entry.snapshot.canonicalTokens

theorem shared_le (entry : Entry) (journal : SnapshotJournal) :
    shared entry journal ≤ journal.current.canonicalTokens.length ∧
      shared entry journal ≤ entry.snapshot.canonicalTokens.length :=
  common_prefix_le _ _

/-- An accepted history fits the context, so its extents fit their words. -/
theorem appendable_fits (accepted : appendable entry journal) :
    entry.snapshot.canonicalTokens.length ≤ journal.identity.contextLimit.toNat := by
  have valid := (validate_state_snapshot_iff _ _).mp accepted
  have count := valid.count
  have bounded := valid.bounded
  rw [gt_iff_lt, UInt64.lt_iff_toNat_lt, count, UInt32.toNat_toUInt64] at bounded
  exact not_lt.mp bounded

theorem appendable_small (accepted : appendable entry journal) :
    entry.snapshot.canonicalTokens.length < 2 ^ 32 :=
  lt_of_le_of_lt (appendable_fits accepted) journal.identity.contextLimit.toNat_lt

theorem token_start_to_nat (accepted : appendable entry journal) :
    (recordOf journal entry.now entry.snapshot).1.tokenStart.toNat = shared entry journal := by
  have small := appendable_small accepted
  have inside := (shared_le entry journal).2
  exact UInt64.toNat_ofNat_of_lt' (show shared entry journal < 2 ^ 64 by omega)

theorem token_count_to_nat (accepted : appendable entry journal) :
    (recordOf journal entry.now entry.snapshot).1.tokenCount.toNat =
      (recordOf journal entry.now entry.snapshot).2.length := by
  have small := appendable_small accepted
  change (UInt64.ofNat (entry.snapshot.canonicalTokens.length - shared entry journal)).toNat =
    (entry.snapshot.canonicalTokens.drop (shared entry journal)).length
  rw [List.length_drop]
  exact UInt64.toNat_ofNat_of_lt' (show _ < 2 ^ 64 by omega)

theorem extent_closed (entry : Entry) (journal : SnapshotJournal) :
    let header := (recordOf journal entry.now entry.snapshot).1
    header.tokenStart + header.tokenCount = header.canonicalTokenCount := by
  have inside := (shared_le entry journal).2
  change UInt64.ofNat (shared entry journal) +
    UInt64.ofNat (entry.snapshot.canonicalTokens.length - shared entry journal) =
      UInt64.ofNat entry.snapshot.canonicalTokens.length
  rw [← UInt64.ofNat_add]
  congr 1
  omega

theorem record_header_sound (reads : Matches state journal) (accepted : appendable entry journal) :
    headerCorrupt journal.identity state (recordOf journal entry.now entry.snapshot).1 = false := by
  have valid := (validate_state_snapshot_iff _ _).mp accepted
  have fits := appendable_fits accepted
  have fresh : ¬ (recordOf journal entry.now entry.snapshot).1.sequence ≤ state.lastSequence := by
    have nonzero : journal.current.header.sequence + 1 ≠ 0 := valid.sequence
    rw [reads.sequence]
    change ¬ journal.current.header.sequence + 1 ≤ journal.current.header.sequence
    grind
  have start : ¬ (recordOf journal entry.now entry.snapshot).1.tokenStart.toNat >
      state.canonical.length := by
    rw [token_start_to_nat accepted, reads.tokens]
    have := (shared_le entry journal).1
    omega
  have count : ¬ (recordOf journal entry.now entry.snapshot).1.tokenCount >
      journal.identity.contextLimit.toUInt64 := by
    rw [gt_iff_lt, UInt64.lt_iff_toNat_lt, token_count_to_nat accepted, UInt32.toNat_toUInt64]
    have : (recordOf journal entry.now entry.snapshot).2.length ≤
        entry.snapshot.canonicalTokens.length := by simp [recordOf]
    omega
  have payload : (recordOf journal entry.now entry.snapshot).1.payloadBytes =
      (recordOf journal entry.now entry.snapshot).1.tokenCount * 4 := rfl
  have extent := extent_closed entry journal
  simp only at extent
  have magic := valid.magic
  have version := valid.version
  have headerBytes := valid.headerBytes
  have owner := valid.owner
  simp only at magic version headerBytes owner
  simp only [headerCorrupt, magic, version, headerBytes, owner, extent, payload, fresh, start,
    count, decide_false, bne_self_eq_false, Bool.or_self]

/-- The loader after the record of an accepted append. -/
def readState (entry : Entry) (state : Loaded) (journal : SnapshotJournal) : Loaded :=
  let record := recordOf journal entry.now entry.snapshot
  { canonical := entry.snapshot.canonicalTokens
    lastSequence := record.1.sequence
    validBytes := state.validBytes + 176 + record.1.payloadBytes.toNat
    current := ⟨record.1, entry.snapshot.canonicalTokens⟩ }

theorem record_accepted (reads : Matches state journal) (accepted : appendable entry journal) :
    acceptRecord journal.identity state (recordOf journal entry.now entry.snapshot).1
      (recordOf journal entry.now entry.snapshot).2 = .ok (readState entry state journal) := by
  have rebuilt : state.canonical.take
        (recordOf journal entry.now entry.snapshot).1.tokenStart.toNat ++
      (recordOf journal entry.now entry.snapshot).2 = entry.snapshot.canonicalTokens := by
    rw [token_start_to_nat accepted, reads.tokens]
    exact common_prefix_rebuilds _ _
  have checksum : (recordOf journal entry.now entry.snapshot).1.recordChecksum =
      recordChecksum (recordOf journal entry.now entry.snapshot).1
        (recordOf journal entry.now entry.snapshot).2 := rfl
  unfold appendable at accepted
  rw [acceptRecord, if_neg (not_not_intro checksum)]
  simp only [rebuilt, accepted, readState]

theorem payload_to_nat (accepted : appendable entry journal) :
    (recordOf journal entry.now entry.snapshot).1.payloadBytes.toNat =
      4 * (recordOf journal entry.now entry.snapshot).2.length := by
  have small := appendable_small accepted
  have inside : (recordOf journal entry.now entry.snapshot).2.length ≤
      entry.snapshot.canonicalTokens.length := by simp [recordOf]
  change ((recordOf journal entry.now entry.snapshot).1.tokenCount * 4).toNat = _
  rw [UInt64.toNat_mul, token_count_to_nat accepted]
  change _ * 4 % 2 ^ 64 = _
  omega

/-- `load` takes the record of every accepted append, and afterwards knows what
the journal knows. -/
theorem append_takes (reads : Matches state journal) (accepted : appendable entry journal) :
    (journalReader journal.identity).Takes state
        (recordBytes (recordOf journal entry.now entry.snapshot)) (readState entry state journal) ∧
      Matches (readState entry state journal) (appended entry journal) := by
  have readable : Readable journal.identity state
      (recordOf journal entry.now entry.snapshot).1
      (recordOf journal entry.now entry.snapshot).2 (readState entry state journal) := {
    sound := record_header_sound reads accepted
    counted := token_count_to_nat accepted
    accepted := record_accepted reads accepted }
  refine ⟨readable.takes, ?_⟩
  constructor
  case tokens => rfl
  case sequence => rfl
  case current => exact ⟨rfl, rfl⟩
  case bytes =>
    simp only [readState, appended, recordBytes, List.length_append, Codec.encode_length,
      token_bytes_length, reads.bytes, payload_to_nat accepted, header_codec_size]
    omega

end Step

/-- The loader after the records of a whole run. -/
def readStates : List Entry → Loaded → SnapshotJournal → Loaded
  | [], state, _ => state
  | entry :: rest, state, journal =>
      readStates rest (readState entry state journal) (appended entry journal)

/-- A whole run: the loader takes the records of every append in turn. -/
theorem append_all_reads {entries : List Entry} {journal after : SnapshotJournal} {state : Loaded}
    (reads : Matches state journal) (run : appendAll entries journal = (.ok (), after)) :
    after.identity = journal.identity ∧
      after.file = journal.file ++ (recordsOf entries journal).flatten ∧
      (journalReader journal.identity).Reads state (recordsOf entries journal)
        (readStates entries state journal) ∧
      Matches (readStates entries state journal) after := by
  induction entries generalizing journal state with
  | nil =>
      obtain rfl : journal = after := congrArg Prod.snd run
      exact ⟨rfl, by simp [recordsOf], .nil state, reads⟩
  | cons entry rest ih =>
      obtain ⟨accepted, later⟩ := (append_all_cons entry rest journal after).mp run
      obtain ⟨takes, next⟩ := append_takes reads accepted
      obtain ⟨owner, file, tail, same⟩ := ih next later
      refine ⟨owner, ?_, .cons takes tail, same⟩
      rw [file, recordsOf, List.flatten_cons, ← List.append_assoc]
      rfl

theorem load_record_ended (identity : SessionIdentityV1) (state : Loaded) :
    (journalReader identity).read state [] = .ok none := by
  change loadRecord identity state [] = .ok none
  rw [loadRecord, if_pos (by rw [header_codec_size]; decide)]

/-- A cut file holds the whole records of a shorter run. -/
theorem cut_file_reads {entries : List Entry} {journal after : SnapshotJournal} {state : Loaded}
    (reads : Matches state journal) (run : appendAll entries journal = (.ok (), after))
    (cut : Nat) :
    ∃ kept middle, kept <+: entries ∧ appendAll kept journal = (.ok (), middle) ∧
      Reader.whole cut (recordsOf entries journal) = recordsOf kept journal ∧
      (journalReader journal.identity).readAll state
        ((recordsOf entries journal).flatten.take cut) = .ok (readStates kept state journal) := by
  have ended := load_record_ended journal.identity
  obtain ⟨_, _, whole, _⟩ := append_all_reads reads run
  obtain ⟨recovered, prefixReads, answer⟩ := whole.recovers ended cut
  have isPrefix := Reader.whole_leads cut (recordsOf entries journal)
  obtain ⟨count, records⟩ : ∃ count, Reader.whole cut (recordsOf entries journal) =
      recordsOf (entries.take count) journal :=
    ⟨_, (List.prefix_iff_eq_take.mp isPrefix).trans (records_of_take entries journal _).symm⟩
  obtain ⟨middle, kept, _⟩ := append_all_take count run
  obtain ⟨_, _, otherReads, same⟩ := append_all_reads reads kept
  rw [records] at prefixReads
  have unique : recovered = readStates (entries.take count) state journal := by
    have left := prefixReads.read_all (ended _)
    have right := otherReads.read_all (ended _)
    exact Except.ok.inj (left.symm.trans right)
  exact ⟨entries.take count, middle, List.take_prefix _ _, kept, records, unique ▸ answer⟩

/-- Journals that will write the same records from now on. -/
structure Alike (left right : SnapshotJournal) : Prop where
  identity : left.identity = right.identity
  file : left.file = right.file
  state : SameState left.current right.current

theorem Alike.record_of {left right : SnapshotJournal} (alike : Alike left right) (entry : Entry) :
    recordOf left entry.now entry.snapshot = recordOf right entry.now entry.snapshot := by
  simp only [recordOf, alike.state.1, alike.state.sequence, alike.identity]

theorem Alike.append_all {left right : SnapshotJournal} (alike : Alike left right)
    (entries : List Entry) :
    (appendAll entries left).1 = (appendAll entries right).1 ∧
      Alike (appendAll entries left).2 (appendAll entries right).2 := by
  induction entries generalizing left right with
  | nil => exact ⟨rfl, alike⟩
  | cons entry rest ih =>
      have record := alike.record_of entry
      change (Proc.bind (appendEntry entry) (fun _ => appendAll rest) left).1 =
          (Proc.bind (appendEntry entry) (fun _ => appendAll rest) right).1 ∧
        Alike (Proc.bind (appendEntry entry) (fun _ => appendAll rest) left).2
          (Proc.bind (appendEntry entry) (fun _ => appendAll rest) right).2
      unfold Proc.bind appendEntry append
      simp only [record, alike.identity]
      cases validateStateSnapshot ⟨(recordOf right entry.now entry.snapshot).1,
          entry.snapshot.canonicalTokens⟩ right.identity with
      | some error => exact ⟨rfl, alike⟩
      | none => exact ih ⟨rfl, by simp only [alike.file], rfl, rfl⟩

/-- The snapshot is the one the last of `entries` appended, numbered by how many
there were. -/
structure Holds (snapshot : StateSnapshotV1) (entries : List Entry) : Prop where
  sequence : snapshot.header.sequence.toNat = entries.length
  empty : entries = [] → snapshot = {}
  last : ∀ entry, entries.getLast? = some entry →
    snapshot.canonicalTokens = entry.snapshot.canonicalTokens ∧
      snapshot.header.frontiers = entry.snapshot.header.frontiers ∧
      snapshot.header.sampler = entry.snapshot.header.sampler ∧
      snapshot.header.lastSample = entry.snapshot.header.lastSample ∧
      snapshot.header.flags = entry.snapshot.header.flags ∧
      snapshot.header.timestampNs = entry.now

theorem word_succ {word : UInt64} (nonzero : word + 1 ≠ 0) : (word + 1).toNat = word.toNat + 1 := by
  have bound := word.toNat_lt
  have wraps : (word + 1).toNat = (word.toNat + 1) % 2 ^ 64 := UInt64.toNat_add word 1
  have inside : (word + 1).toNat ≠ 0 := fun zero => nonzero (UInt64.toNat_inj.mp zero)
  omega

theorem append_all_holds {earlier entries : List Entry} {journal after : SnapshotJournal}
    (held : Holds journal.current earlier) (run : appendAll entries journal = (.ok (), after)) :
    Holds after.current (earlier ++ entries) := by
  induction entries generalizing journal earlier with
  | nil =>
      obtain rfl : journal = after := congrArg Prod.snd run
      simpa using held
  | cons entry rest ih =>
      obtain ⟨accepted, later⟩ := (append_all_cons entry rest journal after).mp run
      have nonzero := ((validate_state_snapshot_iff _ _).mp accepted).sequence
      have next : Holds (appended entry journal).current (earlier ++ [entry]) := by
        constructor
        case sequence =>
          change (journal.current.header.sequence + 1).toNat = _
          rw [word_succ nonzero, held.sequence]
          simp
        case empty => simp
        case last =>
          intro last same
          simp only [List.getLast?_append, List.getLast?_singleton, Option.some_or,
            Option.some.injEq] at same
          subst same
          exact ⟨rfl, rfl, rfl, rfl, rfl, rfl⟩
      simpa using ih next later

end Q38.JournalRecovery
