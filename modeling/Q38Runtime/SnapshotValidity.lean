import Q38Runtime.Snapshot

/-! What `validate_state_snapshot` accepts, and why `load` takes back every
record `append` writes. -/
namespace Q38.SnapshotValidity
open Contracts Sampling Identity FixedCodec Imperative RecordLog Snapshot

/-- The conditions of `validate_state_snapshot`, read off its refusals. -/
structure Accepted (snapshot : StateSnapshotV1) (identity : SessionIdentityV1) : Prop where
  magic : snapshot.header.magic = kStateSnapshotMagic
  version : snapshot.header.version = kContractVersion
  headerBytes : snapshot.header.headerBytes = 176
  owner : snapshot.header.identityChecksum = identity.identityChecksum
  sequence : snapshot.header.sequence ≠ 0
  count : snapshot.header.canonicalTokenCount.toNat = snapshot.canonicalTokens.length
  bounded : ¬ snapshot.header.canonicalTokenCount > identity.contextLimit.toUInt64
  canonical : snapshot.header.frontiers.canonical = snapshot.header.canonicalTokenCount
  ordered : ¬ snapshot.header.frontiers.target > snapshot.header.frontiers.canonical
  pending : ¬ snapshot.header.frontiers.canonical - snapshot.header.frontiers.target > 1
  frontiers : validateFrontiers snapshot.header.frontiers = none
  rebuild : snapshot.header.flags &&& kSnapshotColdRebuild ≠ 0
  flags : snapshot.header.flags &&& ~~~(kSnapshotColdRebuild ||| kSnapshotHasLastSample) = 0
  checksum : snapshot.header.canonicalChecksum = canonicalTokenChecksum snapshot.canonicalTokens
  sampler : snapshot.header.sampler.magic = kSamplerStateMagic
  counted : snapshot.header.sampler.canonicalTokens = snapshot.header.canonicalTokenCount
  last : ¬ (snapshot.header.flags &&& kSnapshotHasLastSample ≠ 0 ∧ snapshot.header.lastSample < 0)

/-- One rung of a ladder of refusals. -/
theorem passes_iff (refused : Prop) [Decidable refused] (error : String) (rest : Option String) :
    (if refused then some error else rest) = none ↔ ¬ refused ∧ rest = none := by
  by_cases name : refused <;> simp [name]

theorem validate_state_snapshot_iff (snapshot : StateSnapshotV1) (identity : SessionIdentityV1) :
    validateStateSnapshot snapshot identity = none ↔ Accepted snapshot identity := by
  unfold validateStateSnapshot
  simp only [passes_iff, not_or, not_not, ne_eq]
  constructor
  · rintro ⟨header, owner, extent, frontiers, valid, flags, checksum, sampler, last, -⟩
    exact {
      magic := header.1, version := header.2.1, headerBytes := header.2.2
      owner := owner
      sequence := extent.1, count := extent.2.1, bounded := extent.2.2
      canonical := frontiers.1, ordered := frontiers.2.1, pending := frontiers.2.2
      frontiers := valid
      rebuild := flags.1, flags := flags.2
      checksum := checksum
      sampler := sampler.1, counted := sampler.2
      last := last }
  · intro accepted
    exact ⟨⟨accepted.magic, accepted.version, accepted.headerBytes⟩, accepted.owner,
      ⟨accepted.sequence, accepted.count, accepted.bounded⟩,
      ⟨accepted.canonical, accepted.ordered, accepted.pending⟩, accepted.frontiers,
      ⟨accepted.rebuild, accepted.flags⟩, accepted.checksum,
      ⟨accepted.sampler, accepted.counted⟩, accepted.last, trivial⟩

theorem common_prefix_le (left right : List Token) :
    commonPrefix left right ≤ left.length ∧ commonPrefix left right ≤ right.length := by
  induction left generalizing right with
  | nil => simp [commonPrefix]
  | cons first left ih =>
      cases right with
      | nil => simp [commonPrefix]
      | cons second right =>
          rw [commonPrefix]
          split
          · have := ih right
            simp only [List.length_cons]
            omega
          · simp

/-- The shared tokens of the old history and the suffix make the new one. -/
theorem common_prefix_rebuilds (left right : List Token) :
    left.take (commonPrefix left right) ++ right.drop (commonPrefix left right) = right := by
  induction left generalizing right with
  | nil => simp [commonPrefix]
  | cons first left ih =>
      cases right with
      | nil => simp [commonPrefix]
      | cons second right =>
          rw [commonPrefix]
          split
          · next same =>
              subst same
              simp only [List.take_succ_cons, List.drop_succ_cons, List.cons_append, ih]
          · simp

section Records
variable {identity : SessionIdentityV1} {state : Loaded} {header : StateSnapshotHeaderV1}
  {suffix : List Token}

/-- A header `load` lets pass, with the payload it announces behind it. -/
structure Readable (identity : SessionIdentityV1) (state : Loaded)
    (header : StateSnapshotHeaderV1) (suffix : List Token) (next : Loaded) : Prop where
  sound : headerCorrupt identity state header = false
  counted : header.tokenCount.toNat = suffix.length
  accepted : acceptRecord identity state header suffix = .ok next

theorem Readable.whole {next : Loaded} (readable : Readable identity state header suffix next)
    (rest : List UInt8) :
    loadRecord identity state (recordBytes (header, suffix) ++ rest) = .ok (some (next, rest)) := by
  have split : recordBytes (header, suffix) ++ rest =
      headerCodec.encode header ++ (tokenBytes suffix ++ rest) := by
    simp [recordBytes]
  have enough : ¬ (headerCodec.encode header ++ (tokenBytes suffix ++ rest)).length <
      headerCodec.size := by
    rw [List.length_append, headerCodec.encode_length]
    omega
  have payload : (headerCodec.encode header ++ (tokenBytes suffix ++ rest)).drop headerCodec.size =
      tokenBytes suffix ++ rest := by
    rw [← headerCodec.encode_length header, List.drop_left]
  have consumed : (tokenBytes suffix ++ rest).drop (4 * suffix.length) = rest := by
    rw [← token_bytes_length, List.drop_left]
  rw [split, loadRecord, if_neg enough]
  simp only [headerCodec.decode_encode, readable.sound, payload, readable.counted, consumed]
  rw [if_neg (by simp), if_neg (by rw [List.length_append, token_bytes_length]; omega), tokenBytes,
    Codec.decode_encode_all, readable.accepted]

theorem Readable.torn {next : Loaded} (readable : Readable identity state header suffix next)
    {part : List UInt8} (cut : part <+: recordBytes (header, suffix))
    (shorter : part.length < (recordBytes (header, suffix)).length) :
    loadRecord identity state part = .ok none := by
  unfold loadRecord
  by_cases short : part.length < headerCodec.size
  · rw [if_pos short]
  · obtain ⟨lost, whole⟩ := cut
    have head : part.take headerCodec.size = headerCodec.encode header := by
      have := congrArg (List.take headerCodec.size) whole
      rw [List.take_append_of_le_length (by omega), recordBytes,
        List.take_left' (headerCodec.encode_length header)] at this
      exact this
    have decoded : headerCodec.decode part = header := by
      rw [← List.take_append_drop headerCodec.size part, head, headerCodec.decode_encode]
    rw [if_neg short]
    simp only [decoded, readable.sound, readable.counted]
    rw [if_neg (by simp), if_pos]
    simp only [recordBytes, List.length_append, Codec.encode_length, token_bytes_length] at shorter
    rw [List.length_drop]
    omega

theorem Readable.takes {next : Loaded} (readable : Readable identity state header suffix next) :
    (journalReader identity).Takes state (recordBytes (header, suffix)) next where
  whole := readable.whole
  torn _ := readable.torn

end Records

end Q38.SnapshotValidity
