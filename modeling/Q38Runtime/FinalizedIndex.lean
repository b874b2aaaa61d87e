import Q38Runtime.PleTranslation
import Q38Runtime.StageFinalizing

/-! An index that `finalize_stage` has written is read by the script as the segments and tensors
that were checked, so it is one whose extents are inside and whose table has 128 parts at most. -/
namespace Q38.FinalizedIndex
open ArtifactPreparation StageFinalizing PleTranslation FallibleRuns TextFields
open PleDeviceLayout (PythonError Host Tables valueError)
open TensorLedger (decimalText intText joined)

section Checked
variable {hasher : Hasher} {root : StageRoot}

/-- What holds of the lists while the fragments are gone through. -/
structure Checked (hasher : Hasher) (root : StageRoot) (finalizing : Finalizing) : Prop where
  entries : ∀ entry ∈ finalizing.segments, ∃ found ∈ root.fragments, ∃ content,
    root.segment found.2.segment = some content ∧
      entry = ⟨"segments/".toList ++ pathName found.2.segment, content.length,
        hasher.sha256 content⟩
  placed : ∀ item ∈ finalizing.records, ∃ entry, finalizing.segments[item.1]? = some entry ∧
    item.2.extents.dataOffset + item.2.extents.dataBytes ≤ entry.bytes ∧
    item.2.extents.scaleOffset + item.2.extents.scaleBytes ≤ entry.bytes
  apart : (finalizing.records.map fun item => item.2.name).Nodup
  listed : ∀ item ∈ finalizing.records, ∃ found ∈ root.fragments, item.2 ∈ found.2.tensors

/-- A record of the last segment. -/
theorem tensor_checked {verifyHashes : Bool} {path : Name} {content : Bytes}
    {finalizing after : Finalizing} {record : Record} {entry : SegmentEntry} {segment : Nat}
    (checked : Checked hasher root finalizing)
    (own : finalizing.segments[segment]? = some entry) (bytes : entry.bytes = content.length)
    (member : ∃ found ∈ root.fragments, record ∈ found.2.tensors)
    (ran : finalizeTensor hasher verifyHashes path content segment finalizing record =
      .ok after) :
    Checked hasher root after ∧ after.segments = finalizing.segments := by
  unfold finalizeTensor at ran
  split at ran
  · cases ran
  · next fresh =>
      split at ran
      · cases ran
      · next inside =>
          obtain ⟨_, _, ran⟩ := bind_ok ran
          cases ran
          rw [not_or, not_lt, not_lt] at inside
          refine ⟨⟨checked.entries, ?_, ?_, ?_⟩, rfl⟩
          · intro item listed
            rcases List.mem_append.mp listed with before | last
            · exact checked.placed item before
            · obtain rfl := List.mem_singleton.mp last
              exact ⟨entry, own, bytes ▸ inside.1, bytes ▸ inside.2⟩
          · rw [List.map_append, List.map_singleton]
            exact List.nodup_append_comm.mp (List.nodup_cons.mpr ⟨fresh, checked.apart⟩)
          · intro item listed
            rcases List.mem_append.mp listed with before | last
            · exact checked.listed item before
            · obtain rfl := List.mem_singleton.mp last
              exact member

theorem tensors_checked {verifyHashes : Bool} {path : Name} {content : Bytes}
    {records : List Record} {finalizing after : Finalizing} {entry : SegmentEntry} {segment : Nat}
    (checked : Checked hasher root finalizing)
    (own : finalizing.segments[segment]? = some entry) (bytes : entry.bytes = content.length)
    (members : ∀ record ∈ records, ∃ found ∈ root.fragments, record ∈ found.2.tensors)
    (ran : records.foldlM (finalizeTensor hasher verifyHashes path content segment) finalizing =
      .ok after) :
    Checked hasher root after := by
  induction records generalizing finalizing with
  | nil =>
      cases ran
      exact checked
  | cons record rest ih =>
      rw [List.forall_mem_cons] at members
      rw [List.foldlM_cons] at ran
      obtain ⟨middle, first, ran⟩ := bind_ok ran
      obtain ⟨checked_, same⟩ := tensor_checked checked own bytes members.1 first
      exact ih checked_ (same ▸ own) members.2 ran

theorem fragment_checked {verifyHashes : Bool} {finalizing after : Finalizing}
    {found : Name × Fragment} (member : found ∈ root.fragments)
    (checked : Checked hasher root finalizing)
    (ran : finalizeFragment hasher root verifyHashes finalizing found = .ok after) :
    Checked hasher root after := by
  unfold finalizeFragment at ran
  dsimp only at ran
  split at ran
  · cases ran
  · next content stored =>
      split at ran
      · cases ran
      · split at ran
        · cases ran
        · let entry : SegmentEntry := ⟨"segments/".toList ++ pathName found.2.segment,
            content.length, hasher.sha256 content⟩
          have begins : Checked hasher root
              { finalizing with segments := finalizing.segments ++ [entry] } := by
            refine ⟨?_, ?_, checked.apart, checked.listed⟩
            · intro other listed
              rcases List.mem_append.mp listed with before | last
              · exact checked.entries other before
              · exact ⟨found, member, content, stored, List.mem_singleton.mp last⟩
            · intro item listed
              obtain ⟨other, own, ends⟩ := checked.placed item listed
              refine ⟨other, ?_, ends⟩
              change (finalizing.segments ++ [entry])[item.1]? = _
              rw [List.getElem?_append_left (List.getElem?_eq_some_iff.mp own).1]
              exact own
          have own : (finalizing.segments ++ [entry])[finalizing.segments.length]? = some entry :=
            List.getElem?_concat_length
          exact tensors_checked begins own rfl (fun record listed => ⟨found, member, listed⟩) ran

theorem fragments_checked {verifyHashes : Bool} {fragments : List (Name × Fragment)}
    {finalizing after : Finalizing} (members : ∀ found ∈ fragments, found ∈ root.fragments)
    (checked : Checked hasher root finalizing)
    (ran : fragments.foldlM (finalizeFragment hasher root verifyHashes) finalizing = .ok after) :
    Checked hasher root after := by
  induction fragments generalizing finalizing with
  | nil =>
      cases ran
      exact checked
  | cons found rest ih =>
      rw [List.forall_mem_cons] at members
      rw [List.foldlM_cons] at ran
      obtain ⟨middle, first, ran⟩ := bind_ok ran
      exact ih members.2 (fragment_checked members.1 checked first) ran

/-- What a finalizer that has written an index has found. -/
structure Written (hasher : Hasher) (root : StageRoot) (identity : Identity)
    (finalizing : Finalizing) : Prop where
  identified : ∃ found ∈ root.fragments, identity = identityOf found.2
  checked : Checked hasher root finalizing
  named : ∀ item ∈ finalizing.records, item.2.name ∈ stageTensorNames identity.stage identity.cut

theorem finalize_written {verifyHashes : Bool} {text : List Char}
    (ran : finalizeStage hasher root verifyHashes = .ok text) :
    ∃ identity finalizing, Written hasher root identity finalizing ∧
      text = joined ['\n'] (indexLines hasher identity finalizing) ++ ['\n'] := by
  unfold finalizeStage at ran
  split at ran
  · cases ran
  · next first rest shape =>
      dsimp only at ran
      split at ran
      · cases ran
      · next valid =>
          obtain ⟨_, _, ran⟩ := bind_ok ran
          obtain ⟨finalizing, folded, ran⟩ := bind_ok ran
          obtain ⟨_, contract, ran⟩ := bind_ok ran
          cases ran
          have begins : Checked hasher root {} := ⟨by simp, by simp, by simp, by simp⟩
          have members : ∀ found ∈ first :: rest, found ∈ root.fragments := by
            rw [shape]
            exact fun _ member => member
          have checked := fragments_checked members begins folded
          refine ⟨identityOf first.2, finalizing, ⟨⟨first, members first
            List.mem_cons_self, rfl⟩, checked, ?_⟩, rfl⟩
          intro item member
          unfold validateStageTensorContract expectedStageTensorNames at contract
          rw [if_pos (not_not.mp valid)] at contract
          change (if _ then _ else _) = _ at contract
          split at contract
          · cases contract
          · next none =>
              rw [not_or, not_not, not_not] at none
              by_contra missing
              have extra : item.2.name ∈ ((finalizing.records.map fun entry =>
                  entry.2.name).dedup.filter fun name => name ∉ stageTensorNames
                    (identityOf first.2).stage (identityOf first.2).cut).insertionSort
                      (· ≤ ·) := by
                rw [List.mem_insertionSort, List.mem_filter, List.mem_dedup]
                exact ⟨List.mem_map_of_mem member, decide_eq_true missing⟩
              rw [none.2] at extra
              cases extra

end Checked

section Lines

/-- A text that a field of a line shows as it is. -/
def Shown (text : List Char) : Prop :=
  ∀ letter ∈ text, letter ≠ '\t' ∧ PleDeviceLayout.isLineBreak letter = false

instance (text : List Char) : Decidable (Shown text) :=
  List.decidableBAll _ text

theorem Shown.tab {text : List Char} (shown : Shown text) : '\t' ∉ text :=
  fun member => (shown '\t' member).1 rfl

theorem joined_each {holds : Char → Prop} {separator : List Char} {fields : List (List Char)}
    (between : ∀ letter ∈ separator, holds letter)
    (each : ∀ field ∈ fields, ∀ letter ∈ field, holds letter) :
    ∀ letter ∈ joined separator fields, holds letter := by
  induction fields with
  | nil => simp [joined]
  | cons field rest ih =>
      rw [List.forall_mem_cons] at each
      cases rest with
      | nil => simpa [joined] using each.1
      | cons next rest =>
          intro letter member
          rw [joined, List.intercalate_cons_cons, List.mem_append, List.mem_append] at member
          rcases member with (here | here) | here
          · exact each.1 letter here
          · exact between letter here
          · exact ih each.2 letter here

theorem assignment_shown {key : String} {value : List Char} (before : Shown key.toList)
    (shown : Shown value) : Shown (PleDeviceLayout.assignment key value) := by
  intro letter member
  rw [PleDeviceLayout.assignment, List.mem_append, List.mem_cons] at member
  rcases member with here | rfl | here
  · exact before letter here
  · decide
  · exact shown letter here

theorem unbroken_line {fields : List (List Char)} (each : ∀ field ∈ fields, Shown field) :
    ∀ letter ∈ joined ['\t'] fields, PleDeviceLayout.isLineBreak letter = false := by
  apply joined_each
  · intro letter member
    obtain rfl := List.mem_singleton.mp member
    decide
  · exact fun field member letter inside => (each field member letter inside).2

/-- Letters of a kind that has no tab and no line break. -/
theorem kind_shown {kind : Char → Bool} {text : List Char}
    (apart : ['\t', '\n', '\r', '\x0b', '\x0c', '\x1c', '\x1d', '\x1e', '\x85', '\u2028',
      '\u2029'].any kind = false) (each : ∀ letter ∈ text, kind letter = true) : Shown text := by
  intro letter member
  have differs (mark : Char) (other : kind mark = false) : letter ≠ mark := by
    rintro rfl
    rw [each letter member] at other
    cases other
  rw [List.any_cons, Bool.or_eq_false_iff, List.any_eq_false] at apart
  refine ⟨differs _ apart.1, ?_⟩
  unfold PleDeviceLayout.isLineBreak
  rw [decide_eq_false_iff_not]
  exact fun line => apart.2 letter line (each letter member)

/-- The letters from the dash to the small z. -/
def isName (letter : Char) : Bool := 44 < letter.toNat && letter.toNat < 123

theorem name_shown {name : List Char} (letters : name.all isName = true) : Shown name :=
  kind_shown (by decide) fun letter member => List.all_eq_true.mp letters letter member

theorem decimal_shown (value : Nat) : Shown (decimalText value) :=
  kind_shown (by decide) fun _ member => decimal_digit member

theorem hex_shown {text : List Char} (hex : DeviceArtifact.isHex text 64 = true) : Shown text := by
  unfold DeviceArtifact.isHex at hex
  rw [Bool.and_eq_true, List.all_eq_true] at hex
  exact kind_shown (by decide) hex.2

/-- A line without breaks ends at the next newline. -/
theorem line_split {line rest met : List Char}
    (plain : ∀ letter ∈ line, PleDeviceLayout.isLineBreak letter = false) :
    PleDeviceLayout.splitLines (line ++ '\n' :: rest) met =
      (met.reverse ++ line) :: PleDeviceLayout.splitLines rest [] := by
  induction line generalizing met with
  | nil =>
      rw [List.nil_append, List.append_nil, PleDeviceLayout.splitLines]
      · rfl
      · intro _ mark
        cases mark
  | cons next line ih =>
      rw [List.forall_mem_cons] at plain
      rw [List.cons_append, PleDeviceLayout.splitLines, plain.1, if_neg Bool.false_ne_true,
        ih plain.2, List.reverse_cons, List.append_assoc, List.singleton_append]
      rintro _ rfl
      have mark := plain.1
      cases mark

theorem lines_split {lines : List (List Char)}
    (plain : ∀ line ∈ lines, ∀ letter ∈ line, PleDeviceLayout.isLineBreak letter = false)
    (some_ : lines ≠ []) :
    PleDeviceLayout.splitLines (joined ['\n'] lines ++ ['\n']) [] = lines := by
  induction lines with
  | nil => exact absurd rfl some_
  | cons line rest ih =>
      rw [List.forall_mem_cons] at plain
      cases rest with
      | nil =>
          have alone : joined ['\n'] [line] = line := by simp [joined]
          rw [alone, line_split plain.1]
          rfl
      | cons next rest =>
          rw [joined_cons, List.append_assoc, List.cons_append, line_split plain.1,
            ih plain.2 (List.cons_ne_nil _ _)]
          rfl

end Lines

section Reading
variable {host : Host} {hasher : Hasher} {root : StageRoot} {finalizing : Finalizing}

/-- The interpreter reads numerals, and the segments of a root are files for it. -/
structure Hosts (host : Host) (root : StageRoot) : Prop where
  int : ∀ value : Nat, host.int (decimalText value) = some (value : Int)
  stored : ∀ name content, root.segment name = some content → ∃ file,
    host.file (host.resolve ("segments/".toList ++ pathName name)) = some file ∧
      file.size = content.length

/-- Texts of the fragments that lines show as they are; a tensor has dimensions. -/
structure Printable (root : StageRoot) : Prop where
  identities : ∀ found ∈ root.fragments, Shown found.2.sourceRepo.toList ∧
    Shown found.2.sourceCommit.toList ∧ Shown found.2.policySha256.toList
  segments : ∀ found ∈ root.fragments, Shown (pathName found.2.segment)
  records : ∀ found ∈ root.fragments, ∀ record ∈ found.2.tensors, Shown record.name ∧
    Shown record.sourceName ∧ Shown record.sourceDtype ∧
    Shown record.extents.dataSha256.toList ∧ Shown (scaleText record.extents.scaleSha256) ∧
    record.shape ≠ []

def segmentOf (host : Host) (entry : SegmentEntry) : PleDeviceLayout.Segment :=
  ⟨host.resolve entry.path, entry.bytes⟩

def tensorOf (item : Nat × Record) : PleDeviceLayout.Tensor where
  name := item.2.name
  dtype := item.2.sourceDtype
  format := formatText item.2.format
  segment := item.1
  offset := item.2.extents.dataOffset
  count := item.2.extents.dataBytes
  scaleOffset := item.2.extents.scaleOffset
  scaleCount := item.2.extents.scaleBytes
  shape := item.2.shape.map fun dimension => (dimension : Int)

/-- What is read of an index: its segments, and its tensors by their names. -/
def tablesOf (host : Host) (finalizing : Finalizing) : Tables where
  segments := finalizing.segments.map (segmentOf host)
  tensors := (sortedRecords finalizing).map tensorOf

theorem read_int (hosts : Hosts host root) (value : Nat) :
    PleDeviceLayout.readInt host (decimalText value) = .ok (value : Int) := by
  unfold PleDeviceLayout.readInt
  rw [hosts.int]

theorem read_shape (hosts : Hosts host root) {shape : List Nat} (some_ : shape ≠ []) :
    ((joined [','] (shape.map decimalText)).splitOn ',').mapM (PleDeviceLayout.readInt host) =
      .ok (shape.map fun dimension => (dimension : Int)) := by
  have commas : (joined [','] (shape.map decimalText)).splitOn ',' = shape.map decimalText := by
    apply List.splitOn_intercalate
    · intro field member
      obtain ⟨dimension, _, rfl⟩ := List.mem_map.mp member
      exact decimal_plain (by decide)
    · exact fun none => some_ (List.map_eq_nil_iff.mp none)
  rw [commas]
  clear commas some_
  induction shape with
  | nil => rfl
  | cons dimension rest ih =>
      rw [List.map_cons, List.mapM_cons, read_int hosts, ih]
      rfl

theorem tensor_read (hosts : Hosts host root) {segment : Nat} {record : Record}
    (some_ : record.shape ≠ []) :
    PleDeviceLayout.parseTensor host (tensorFields segment record) =
      .ok (tensorOf (segment, record)) := by
  have long : (tensorFields segment record).length = 14 := rfl
  unfold PleDeviceLayout.parseTensor
  rw [if_neg (not_not.mpr long)]
  change (PleDeviceLayout.readInt host (decimalText segment) >>= fun _ =>
    PleDeviceLayout.readInt host (decimalText record.extents.dataOffset) >>= fun _ =>
    PleDeviceLayout.readInt host (decimalText record.extents.dataBytes) >>= fun _ =>
    PleDeviceLayout.readInt host (decimalText record.extents.scaleOffset) >>= fun _ =>
    PleDeviceLayout.readInt host (decimalText record.extents.scaleBytes) >>= fun _ =>
    ((joined [','] (record.shape.map decimalText)).splitOn ',').mapM
      (PleDeviceLayout.readInt host) >>= _) = _
  rw [read_int hosts, read_int hosts, read_int hosts, read_int hosts, read_int hosts,
    read_shape hosts some_]
  rfl

theorem tensor_fields_shown {segment : Nat} {record : Record} (name : Shown record.name)
    (sourceName : Shown record.sourceName) (dtype : Shown record.sourceDtype)
    (data : Shown record.extents.dataSha256.toList)
    (scale : Shown (scaleText record.extents.scaleSha256)) :
    ∀ field ∈ tensorFields segment record, Shown field := by
  have kind : Shown "tensor".toList := name_shown (by simp [isName])
  have format : Shown (formatText record.format) := by
    cases record.format with
    | w4a16 => exact name_shown (by simp [isName] : "w4a16_sym_g128".toList.all isName = true)
    | w8a16 => exact name_shown (by simp [isName] : "w8a16_sym_g128".toList.all isName = true)
    | fp8 => exact name_shown (by simp [isName] : "fp8_e4m3fn".toList.all isName = true)
    | preserve => exact name_shown (by simp [isName] : "preserve".toList.all isName = true)
  have shape : Shown (joined [','] (record.shape.map decimalText)) := by
    apply joined_each (by decide : Shown [','])
    intro field member
    obtain ⟨dimension, _, rfl⟩ := List.mem_map.mp member
    exact decimal_shown dimension
  unfold tensorFields
  simp only [List.forall_mem_cons, List.not_mem_nil, false_implies, implies_true, and_true]
  exact ⟨kind, name, sourceName, dtype, format, decimal_shown _, decimal_shown _, decimal_shown _,
    decimal_shown _, data, decimal_shown _, decimal_shown _, scale, shape⟩

theorem fields_split {fields : List (List Char)} (each : ∀ field ∈ fields, Shown field)
    (some_ : fields ≠ []) : (joined ['\t'] fields).splitOn '\t' = fields :=
  List.splitOn_intercalate '\t' (fun field member => (each field member).tab) some_

theorem tensor_line_read (hosts : Hosts host root) {tables : Tables} {item : Nat × Record}
    (fields : ∀ field ∈ tensorFields item.1 item.2, Shown field) (some_ : item.2.shape ≠ [])
    (fresh : item.2.name ∉ tables.tensors.map PleDeviceLayout.Tensor.name)
    (inside : item.1 < tables.segments.length) :
    PleDeviceLayout.parseLine host tables (tensorLine item) =
      .ok { tables with tensors := tables.tensors ++ [tensorOf item] } := by
  unfold PleDeviceLayout.parseLine tensorLine
  rw [fields_split fields (List.cons_ne_nil _ _)]
  have kind : (tensorFields item.1 item.2).head? ≠ some "segment".toList := by
    change some "tensor".toList ≠ _
    simp
  dsimp only
  have own : (tensorFields item.1 item.2).head? = some "tensor".toList := rfl
  rw [if_neg kind, if_pos own, tensor_read hosts some_]
  refine if_neg (not_or.mpr ⟨fresh, ?_⟩)
  change ¬ (tables.segments.length : Int) ≤ (item.1 : Int)
  omega

theorem segment_line_read (hosts : Hosts host root) {tables : Tables} {entry : SegmentEntry}
    (fields : ∀ field ∈ [entry.path, entry.sha256], Shown field)
    (stored : ∃ file, host.file (host.resolve entry.path) = some file ∧ file.size = entry.bytes) :
    PleDeviceLayout.parseLine host tables (segmentLine entry) =
      .ok { tables with segments := tables.segments ++ [segmentOf host entry] } := by
  obtain ⟨file, found, size⟩ := stored
  have shown : ∀ field ∈ ["segment".toList, entry.path, decimalText entry.bytes, entry.sha256],
      Shown field := by
    simp only [List.forall_mem_cons, List.not_mem_nil, false_implies, implies_true, and_true]
      at fields ⊢
    exact ⟨name_shown (by simp [isName]), fields.1, decimal_shown _, fields.2⟩
  have read : PleDeviceLayout.parseSegment host ["segment".toList, entry.path,
      decimalText entry.bytes, entry.sha256] = .ok (segmentOf host entry) := by
    unfold PleDeviceLayout.parseSegment
    change (PleDeviceLayout.readInt host (decimalText entry.bytes) >>= _) = _
    rw [read_int hosts]
    refine if_neg (not_not.mpr ?_)
    rw [found, Option.map_some, size]
  unfold PleDeviceLayout.parseLine segmentLine
  rw [fields_split shown (List.cons_ne_nil _ _)]
  dsimp only
  have own : ["segment".toList, entry.path, decimalText entry.bytes, entry.sha256].head? =
      some "segment".toList := rfl
  rw [if_pos own, read]
  rfl

theorem identity_line_read {tables : Tables} {key : String} {value : List Char}
    (before : Shown key.toList) (shown : Shown value) :
    PleDeviceLayout.parseLine host tables (PleDeviceLayout.assignment key value) = .ok tables := by
  have tab : '\t' ∉ PleDeviceLayout.assignment key value := by
    unfold PleDeviceLayout.assignment
    rw [List.mem_append, List.mem_cons]
    rintro (here | here | here)
    · exact before.tab here
    · cases here
    · exact shown.tab here
  have marked : '=' ∈ PleDeviceLayout.assignment key value := by
    unfold PleDeviceLayout.assignment
    simp
  have other (kind : String) (plain : '=' ∉ kind.toList) :
      [PleDeviceLayout.assignment key value].head? ≠ some kind.toList := by
    intro same
    rw [Option.some.inj same] at marked
    exact plain marked
  unfold PleDeviceLayout.parseLine
  rw [List.splitOn_eq_singleton tab]
  dsimp only
  rw [if_neg (other _ (by decide)), if_neg (other _ (by decide))]

theorem segments_read (hosts : Hosts host root) {entries : List SegmentEntry}
    (fields : ∀ entry ∈ entries, ∀ field ∈ [entry.path, entry.sha256], Shown field)
    (stored : ∀ entry ∈ entries, ∃ file,
      host.file (host.resolve entry.path) = some file ∧ file.size = entry.bytes)
    (later : List (List Char)) (tables : Tables) :
    (entries.map segmentLine ++ later).foldlM (PleDeviceLayout.parseLine host) tables =
      later.foldlM (PleDeviceLayout.parseLine host)
        { tables with segments := tables.segments ++ entries.map (segmentOf host) } := by
  induction entries generalizing tables with
  | nil => simp
  | cons entry rest ih =>
      rw [List.forall_mem_cons] at fields stored
      rw [List.map_cons, List.cons_append, List.foldlM_cons,
        segment_line_read hosts fields.1 stored.1]
      change (rest.map segmentLine ++ later).foldlM (PleDeviceLayout.parseLine host) _ = _
      rw [ih fields.2 stored.2, List.append_assoc]
      rfl

theorem records_read (hosts : Hosts host root) {items : List (Nat × Record)} {tables : Tables}
    (fields : ∀ item ∈ items, ∀ field ∈ tensorFields item.1 item.2, Shown field)
    (some_ : ∀ item ∈ items, item.2.shape ≠ [])
    (inside : ∀ item ∈ items, item.1 < tables.segments.length)
    (apart : (tables.tensors.map PleDeviceLayout.Tensor.name ++
      items.map fun item => item.2.name).Nodup) :
    (items.map tensorLine).foldlM (PleDeviceLayout.parseLine host) tables =
      .ok { tables with tensors := tables.tensors ++ items.map tensorOf } := by
  induction items generalizing tables with
  | nil => simp [pure, Except.pure]
  | cons item rest ih =>
      rw [List.forall_mem_cons] at fields some_ inside
      have fresh : item.2.name ∉ tables.tensors.map PleDeviceLayout.Tensor.name := by
        intro member
        exact (List.nodup_append.mp apart).2.2 _ member _ List.mem_cons_self rfl
      rw [List.map_cons, List.foldlM_cons, tensor_line_read hosts fields.1 some_.1 fresh inside.1]
      change (rest.map tensorLine).foldlM (PleDeviceLayout.parseLine host)
        { tables with tensors := tables.tensors ++ [tensorOf item] } = _
      have apart_ : ((tables.tensors ++ [tensorOf item]).map PleDeviceLayout.Tensor.name ++
          rest.map fun item => item.2.name).Nodup := by
        rw [List.map_append, List.append_assoc]
        exact apart
      rw [@ih { tables with tensors := tables.tensors ++ [tensorOf item] } fields.2 some_.2
        inside.2 apart_, List.append_assoc]
      rfl

/-- A line of the head, which no record begins with. -/
def Headed (line : List Char) : Prop :=
  ∃ (key : String) (value : List Char), line = PleDeviceLayout.assignment key value ∧
    Shown key.toList ∧ Shown value

theorem heads_read {heads : List (List Char)} (headed : ∀ line ∈ heads, Headed line)
    (later : List (List Char)) (tables : Tables) :
    (heads ++ later).foldlM (PleDeviceLayout.parseLine host) tables =
      later.foldlM (PleDeviceLayout.parseLine host) tables := by
  induction heads with
  | nil => rfl
  | cons line rest ih =>
      rw [List.forall_mem_cons] at headed
      obtain ⟨key, value, rfl, before, shown⟩ := headed.1
      rw [List.cons_append, List.foldlM_cons, identity_line_read before shown]
      exact ih headed.2

theorem sorted_perm (finalizing : Finalizing) :
    (sortedRecords finalizing).Perm finalizing.records := List.perm_insertionSort _ _

theorem Checked.records_shown (checked : Checked hasher root finalizing)
    (printable : Printable root) : ∀ item ∈ sortedRecords finalizing,
      (∀ field ∈ tensorFields item.1 item.2, Shown field) ∧ item.2.shape ≠ [] := by
  intro item listed
  have own := (sorted_perm finalizing).mem_iff.mp listed
  obtain ⟨found, fragment, record⟩ := checked.listed item own
  obtain ⟨name, sourceName, dtype, data, scale, some_⟩ :=
    printable.records found fragment item.2 record
  exact ⟨tensor_fields_shown name sourceName dtype data scale, some_⟩

theorem Checked.entries_shown (checked : Checked hasher root finalizing)
    (printable : Printable root) : ∀ entry ∈ finalizing.segments,
      Shown entry.path ∧ Shown entry.sha256 := by
  intro entry listed
  obtain ⟨found, fragment, content, stored, rfl⟩ := checked.entries entry listed
  refine ⟨fun letter here => ?_, hex_shown (hasher.sha256_hex _)⟩
  rcases List.mem_append.mp here with before | name
  · exact name_shown (by simp [isName] : "segments/".toList.all isName = true) letter before
  · exact printable.segments found fragment letter name

theorem Checked.entries_stored (checked : Checked hasher root finalizing)
    (hosts : Hosts host root) : ∀ entry ∈ finalizing.segments, ∃ file,
      host.file (host.resolve entry.path) = some file ∧ file.size = entry.bytes := by
  intro entry listed
  obtain ⟨found, fragment, content, stored, rfl⟩ := checked.entries entry listed
  exact hosts.stored _ content stored

theorem int_shown (value : Int) : Shown (intText value) := by
  unfold TensorLedger.intText
  split
  · intro letter here
    rcases List.mem_cons.mp here with rfl | digit
    · decide
    · exact decimal_shown _ letter digit
  · exact decimal_shown _

theorem identity_headed {owner : Fragment} (repo : Shown owner.sourceRepo.toList)
    (commit : Shown owner.sourceCommit.toList) (policy : Shown owner.policySha256.toList)
    (text : List Char) : ∀ line ∈ identityLines (identityOf owner) ++
      [PleDeviceLayout.assignment "artifact_sha256" (hasher.sha256 (encoded text))],
      Headed line := by
  have digest : Shown (hasher.sha256 (encoded text)) := hex_shown (hasher.sha256_hex _)
  unfold identityLines
  simp only [List.cons_append, List.nil_append, List.forall_mem_cons, List.not_mem_nil,
    false_implies, implies_true, and_true]
  exact ⟨⟨_, _, rfl, name_shown (by simp [isName]), decimal_shown _⟩,
    ⟨_, _, rfl, name_shown (by simp [isName]), int_shown _⟩,
    ⟨_, _, rfl, name_shown (by simp [isName]), repo⟩,
    ⟨_, _, rfl, name_shown (by simp [isName]), commit⟩,
    ⟨_, _, rfl, name_shown (by simp [isName]), policy⟩,
    ⟨_, _, rfl, name_shown (by simp [isName]), digest⟩⟩

theorem record_lines_unbroken (checked : Checked hasher root finalizing)
    (printable : Printable root) : ∀ line ∈ recordLines finalizing, ∀ letter ∈ line,
      PleDeviceLayout.isLineBreak letter = false := by
  intro line listed
  rcases List.mem_append.mp listed with segment | tensor
  · obtain ⟨entry, own, rfl⟩ := List.mem_map.mp segment
    obtain ⟨path, digest⟩ := checked.entries_shown printable entry own
    apply unbroken_line
    simp only [List.forall_mem_cons, List.not_mem_nil, false_implies, implies_true, and_true]
    exact ⟨name_shown (by simp [isName]), path, decimal_shown _, digest⟩
  · obtain ⟨item, own, rfl⟩ := List.mem_map.mp tensor
    exact unbroken_line (checked.records_shown printable item own).1

theorem record_lines_read (hosts : Hosts host root) (printable : Printable root)
    (checked : Checked hasher root finalizing) :
    (recordLines finalizing).foldlM (PleDeviceLayout.parseLine host) {} =
      .ok (tablesOf host finalizing) := by
  have perm := sorted_perm finalizing
  have inside : ∀ item ∈ sortedRecords finalizing, item.1 < finalizing.segments.length := by
    intro item listed
    obtain ⟨entry, own, -⟩ := checked.placed item (perm.mem_iff.mp listed)
    exact (List.getElem?_eq_some_iff.mp own).1
  have apart : ((sortedRecords finalizing).map fun item => item.2.name).Nodup :=
    (perm.map _).nodup_iff.mpr checked.apart
  have shown := checked.records_shown printable
  have read := @records_read host root hosts (sortedRecords finalizing)
    { segments := finalizing.segments.map (segmentOf host) }
    (fun item own => (shown item own).1) (fun item own => (shown item own).2)
    (by simpa using inside) (by simpa using apart)
  have pair : ∀ entry ∈ finalizing.segments, ∀ field ∈ [entry.path, entry.sha256], Shown field := by
    intro entry own
    simpa using checked.entries_shown printable entry own
  rw [recordLines, segments_read hosts pair (checked.entries_stored hosts)]
  simpa [tablesOf] using read

/-- The script reads back what the finalizer has checked. -/
theorem index_read {identity : Identity} (hosts : Hosts host root) (printable : Printable root)
    (written : Written hasher root identity finalizing) :
    PleDeviceLayout.parseIndex host
      (joined ['\n'] (indexLines hasher identity finalizing) ++ ['\n']) =
        .ok (tablesOf host finalizing) := by
  obtain ⟨⟨owner, member, rfl⟩, checked, -⟩ := written
  obtain ⟨repo, commit, policy⟩ := printable.identities owner member
  have heads := @identity_headed hasher owner.2 repo commit policy (joined ['\n']
    (identityLines (identityOf owner.2) ++ recordLines finalizing) ++ ['\n'])
  have whole : indexLines hasher (identityOf owner.2) finalizing =
      "Q38_DEVICE_INDEX_V1".toList :: ((identityLines (identityOf owner.2) ++
        [PleDeviceLayout.assignment "artifact_sha256" (hasher.sha256 (encoded (joined ['\n']
          (identityLines (identityOf owner.2) ++ recordLines finalizing) ++ ['\n'])))]) ++
          recordLines finalizing) := by
    simp [indexLines]
  have plain : ∀ line ∈ indexLines hasher (identityOf owner.2) finalizing, ∀ letter ∈ line,
      PleDeviceLayout.isLineBreak letter = false := by
    rw [whole]
    intro line listed
    rcases List.mem_cons.mp listed with rfl | later
    · have magic : Shown "Q38_DEVICE_INDEX_V1".toList := name_shown (by simp [isName])
      exact fun letter here => (magic letter here).2
    rcases List.mem_append.mp later with head | record
    · obtain ⟨key, value, rfl, before, shown⟩ := heads line head
      exact fun letter here => (assignment_shown before shown letter here).2
    · exact record_lines_unbroken checked printable line record
  unfold PleDeviceLayout.parseIndex
  rw [lines_split plain (by rw [whole]; exact List.cons_ne_nil _ _), whole]
  dsimp only
  rw [if_neg (not_not.mpr rfl), heads_read heads]
  exact record_lines_read hosts printable checked

end Reading

section Contract

theorem suffixed_head {start name : Name} {suffixes : List String} (some_ : start ≠ [])
    (member : name ∈ suffixed start suffixes) : name.head? = start.head? := by
  obtain ⟨suffix, _, rfl⟩ := List.mem_map.mp member
  exact List.head?_append_of_ne_nil _ some_

/-- Only the names of parts begin as they do. -/
theorem layer_name {layer : Nat} {name : Name} (member : name ∈ layerNames layer) :
    name.head? = some 'b' ∨ name ∈ (List.range 128).map tableName := by
  have begins (rest : List Char) : ("blk.".toList ++ rest).head? = some 'b' := rfl
  unfold layerNames at member
  dsimp only at member
  rcases List.mem_append.mp member with before | last
  · left
    rcases List.mem_append.mp before with before | attention
    · rcases List.mem_append.mp before with before | experts
      · rcases List.mem_append.mp before with first | second
        · exact (suffixed_head (by simp) first).trans (by simp)
        · exact (suffixed_head (by simp) second).trans (by simp)
      · exact (suffixed_head (by simp) experts).trans (by simp)
    · exact (suffixed_head (by simp) attention).trans (by simp)
  · split at last
    · rcases List.mem_append.mp last with tensor | table
      · exact .inl ((suffixed_head (by simp) tensor).trans (by simp))
      · exact .inr table
    · cases last

theorem mtp_name {name : Name} (member : name ∈ mtpNames) : name.head? ≠ some 'p' := by
  have each : mtpNames.all fun name => name.head? ≠ some 'p' := by decide +kernel
  exact of_decide_eq_true (List.all_eq_true.mp each name member)

theorem stage_name {stage : Nat} {cut : Int} {name : Name}
    (member : name ∈ stageTensorNames stage cut) (first : name.head? = some 'p') :
    name ∈ (List.range 128).map tableName := by
  unfold stageTensorNames at member
  rcases List.mem_cons.mp member with rfl | member
  · cases first
  · rcases List.mem_append.mp member with layers | mtp
    · obtain ⟨layer, _, own⟩ := List.mem_flatMap.mp layers
      rcases layer_name own with other | table
      · rw [other] at first
        cases first
      · exact table
    · split at mtp
      · exact absurd first (mtp_name mtp)
      · cases mtp

theorem table_head {host : Host} {tensor : PleDeviceLayout.Tensor}
    (table : isTable host tensor = true) : tensor.name.head? = some 'p' := by
  unfold isTable PleDeviceLayout.partNumber at table
  split at table
  · next begins =>
      obtain ⟨rest, shape⟩ := List.isPrefixOf_iff_prefix.mp begins
      rw [← shape]
      rfl
  · cases table

end Contract

section Finalized
variable {host : Host} {hasher : Hasher} {root : StageRoot} {finalizing : Finalizing}

theorem tables_inside (checked : Checked hasher root finalizing) :
    ∀ tensor ∈ (tablesOf host finalizing).tensors,
      Inside (tablesOf host finalizing).segments tensor := by
  intro tensor member
  obtain ⟨item, listed, rfl⟩ := List.mem_map.mp member
  obtain ⟨entry, own, data, scales⟩ :=
    checked.placed item ((sorted_perm finalizing).mem_iff.mp listed)
  have segment : PleLayoutReading.segmentAt (tablesOf host finalizing).segments
      (tensorOf item).segment = segmentOf host entry := by
    change ((finalizing.segments.map (segmentOf host)).getD item.1 ⟨[], 0⟩) = _
    rw [List.getD_eq_getElem?_getD, List.getElem?_map, own]
    rfl
  have data_ : (item.2.extents.dataOffset : Int) + item.2.extents.dataBytes ≤ entry.bytes := by
    exact_mod_cast data
  have scales_ : (item.2.extents.scaleOffset : Int) + item.2.extents.scaleBytes ≤ entry.bytes := by
    exact_mod_cast scales
  refine ⟨Int.natCast_nonneg _, Int.natCast_nonneg _, Int.natCast_nonneg _, ?_,
    Int.natCast_nonneg _, Int.natCast_nonneg _, ?_⟩
  · rw [segment]
    exact data_
  · rw [segment]
    exact scales_

theorem tables_few {identity : Identity} (written : Written hasher root identity finalizing) :
    ((tablesOf host finalizing).tensors.filter (isTable host)).length ≤ 128 := by
  have apart : ((tablesOf host finalizing).tensors.map PleDeviceLayout.Tensor.name).Nodup := by
    change (((sortedRecords finalizing).map tensorOf).map PleDeviceLayout.Tensor.name).Nodup
    rw [List.map_map]
    exact (((sorted_perm finalizing).map _).nodup_iff).mpr written.checked.apart
  have names : (((tablesOf host finalizing).tensors.filter (isTable host)).map
      PleDeviceLayout.Tensor.name).Nodup :=
    apart.sublist (List.filter_sublist.map _)
  have within : ((tablesOf host finalizing).tensors.filter (isTable host)).map
      PleDeviceLayout.Tensor.name ⊆ (List.range 128).map tableName := by
    intro name member
    obtain ⟨tensor, kept, rfl⟩ := List.mem_map.mp member
    obtain ⟨listed, table⟩ := List.mem_filter.mp kept
    obtain ⟨item, own, rfl⟩ := List.mem_map.mp listed
    exact stage_name (written.named item ((sorted_perm finalizing).mem_iff.mp own))
      (table_head table)
  have fewer := (names.subperm within).length_le
  rw [List.length_map, List.length_map, List.length_range] at fewer
  exact fewer

/-- What the finalizer writes is read as a finalized index. -/
theorem index_finalized (hosts : Hosts host root) (printable : Printable root)
    {verifyHashes : Bool} {text : List Char}
    (ran : finalizeStage hasher root verifyHashes = .ok text) :
    ∃ identity finalizing, Written hasher root identity finalizing ∧
      PleDeviceLayout.parseIndex host text = .ok (tablesOf host finalizing) ∧
      Finalized host (tablesOf host finalizing) := by
  obtain ⟨identity, finalizing, written, rfl⟩ := finalize_written ran
  exact ⟨identity, finalizing, written, index_read hosts printable written,
    tables_inside written.checked, tables_few written⟩

/-- One fragment whose tensors are inside its segment and are those of its stage. -/
structure Complete (hasher : Hasher) (root : StageRoot) (path : Name) (fragment : Fragment)
    (content : Bytes) : Prop where
  fragments : root.fragments = [(path, fragment)]
  schema : fragment.schema = "Q38_STAGE_FRAGMENT_V1"
  stage : validStage fragment.stage fragment.cut = true
  stored : root.segment fragment.segment = some content
  sized : content.length = fragment.segmentBytes
  hashed : hasher.sha256 content = fragment.segmentSha256.toList
  inside : ∀ record ∈ fragment.tensors,
    record.extents.dataOffset + record.extents.dataBytes ≤ content.length ∧
    record.extents.scaleOffset + record.extents.scaleBytes ≤ content.length
  apart : (fragment.tensors.map Record.name).Nodup
  named : ∀ name, name ∈ fragment.tensors.map Record.name ↔
    name ∈ stageTensorNames fragment.stage fragment.cut

theorem tensors_finalized {path : Name} {content : Bytes} {records : List Record}
    {start : Finalizing} {segment : Nat}
    (inside : ∀ record ∈ records,
      record.extents.dataOffset + record.extents.dataBytes ≤ content.length ∧
      record.extents.scaleOffset + record.extents.scaleBytes ≤ content.length)
    (apart : ((start.records.map fun entry => entry.2.name) ++ records.map Record.name).Nodup) :
    records.foldlM (finalizeTensor hasher false path content segment) start =
      .ok { start with
        records := start.records ++ records.map fun record => (segment, record) } := by
  induction records generalizing start with
  | nil => simp [pure, Except.pure]
  | cons record rest ih =>
      rw [List.forall_mem_cons] at inside
      have fresh : record.name ∉ start.records.map fun entry => entry.2.name := by
        intro member
        exact (List.nodup_append.mp apart).2.2 _ member _ List.mem_cons_self rfl
      have first : finalizeTensor hasher false path content segment start record =
          .ok { start with records := start.records ++ [(segment, record)] } := by
        unfold finalizeTensor
        rw [if_neg fresh, if_neg (by omega)]
        rfl
      have apart_ : (((start.records ++ [(segment, record)]).map fun entry => entry.2.name) ++
          rest.map Record.name).Nodup := by
        rw [List.map_append, List.append_assoc]
        exact apart
      rw [List.foldlM_cons, first]
      change rest.foldlM _ { start with records := start.records ++ [(segment, record)] } = _
      rw [@ih { start with records := start.records ++ [(segment, record)] } inside.2 apart_,
        List.append_assoc]
      rfl

/-- What is collected of one fragment. -/
def collected (hasher : Hasher) (fragment : Fragment) (content : Bytes) : Finalizing where
  segments := [⟨"segments/".toList ++ pathName fragment.segment, content.length,
    hasher.sha256 content⟩]
  records := fragment.tensors.map fun record => (0, record)

/-- What is collected of a fragment was checked, whatever its names are. -/
theorem collected_checked {path : Name} {fragment : Fragment} {content : Bytes}
    (fragments : root.fragments = [(path, fragment)])
    (stored : root.segment fragment.segment = some content)
    (inside : ∀ record ∈ fragment.tensors,
      record.extents.dataOffset + record.extents.dataBytes ≤ content.length ∧
      record.extents.scaleOffset + record.extents.scaleBytes ≤ content.length)
    (apart : (fragment.tensors.map Record.name).Nodup) :
    Checked hasher root (collected hasher fragment content) := by
  have member : (path, fragment) ∈ root.fragments := by
    rw [fragments]
    exact List.mem_cons_self
  refine ⟨?_, ?_, ?_, ?_⟩
  · intro entry listed
    exact ⟨_, member, content, stored, List.mem_singleton.mp listed⟩
  · intro item listed
    obtain ⟨record, own, rfl⟩ := List.mem_map.mp listed
    exact ⟨_, rfl, inside record own⟩
  · rw [collected, List.map_map]
    exact apart
  · intro item listed
    obtain ⟨record, own, rfl⟩ := List.mem_map.mp listed
    exact ⟨_, member, own⟩

theorem fragment_finalized {path : Name} {fragment : Fragment} {content : Bytes}
    (complete : Complete hasher root path fragment content) :
    finalizeStage hasher root false = .ok (joined ['\n'] (indexLines hasher
      (identityOf fragment) (collected hasher fragment content)) ++ ['\n']) := by
  have ran : finalizeFragment hasher root false {} (path, fragment) =
      .ok (collected hasher fragment content) := by
    unfold finalizeFragment
    dsimp only
    rw [complete.stored]
    dsimp only
    rw [if_neg (not_not.mpr complete.sized), if_neg (not_not.mpr complete.hashed)]
    exact tensors_finalized complete.inside (by simpa using complete.apart)
  have names : ((collected hasher fragment content).records.map fun entry => entry.2.name) =
      fragment.tensors.map Record.name := by
    rw [collected, List.map_map]
    rfl
  have contract : validateStageTensorContract (fragment.tensors.map Record.name) fragment.stage
      fragment.cut = .ok () := by
    unfold validateStageTensorContract expectedStageTensorNames
    rw [if_pos complete.stage]
    have missing : (stageTensorNames fragment.stage fragment.cut).dedup.filter
        (fun name => decide (name ∉ fragment.tensors.map Record.name)) = [] := by
      rw [List.filter_eq_nil_iff]
      intro name member
      rw [List.mem_dedup] at member
      simpa using (complete.named name).mpr member
    have unexpected : (fragment.tensors.map Record.name).dedup.filter
        (fun name => decide (name ∉ stageTensorNames fragment.stage fragment.cut)) = [] := by
      rw [List.filter_eq_nil_iff]
      intro name member
      rw [List.mem_dedup] at member
      simpa using (complete.named name).mp member
    change (if ((stageTensorNames fragment.stage fragment.cut).dedup.filter _).insertionSort _ ≠ []
      ∨ ((fragment.tensors.map Record.name).dedup.filter _).insertionSort _ ≠ [] then _ else _) = _
    rw [missing, unexpected]
    rfl
  have fields : checkFragment (identityOf fragment) (path, fragment) = .ok () := by
    unfold checkFragment
    rw [if_neg (not_not.mpr complete.schema)]
    simp [differingField]
  unfold finalizeStage
  rw [complete.fragments]
  dsimp only
  have valid : ¬ ¬ validStage (identityOf fragment).stage (identityOf fragment).cut = true :=
    not_not.mpr complete.stage
  have checks : [(path, fragment)].forM (checkFragment (identityOf fragment)) = .ok ⟨⟩ := by
    change (checkFragment (identityOf fragment) (path, fragment) >>= fun _ => _) = _
    rw [fields]
    rfl
  have folded : [(path, fragment)].foldlM (finalizeFragment hasher root false) {} =
      .ok (collected hasher fragment content) := by
    rw [List.foldlM_cons, ran]
    rfl
  rw [if_neg valid, checks, folded]
  change (validateStageTensorContract ((collected hasher fragment content).records.map
    fun entry => entry.2.name) fragment.stage fragment.cut >>= _) = _
  rw [names, contract]
  rfl

end Finalized

end Q38.FinalizedIndex
