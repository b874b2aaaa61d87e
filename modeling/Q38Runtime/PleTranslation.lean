import Q38Runtime.PleLayoutReading
import Q38Runtime.PleRanges

/-! What the script has checked when it writes the layout document, and which of these
documents the runtime accepts. The finalizer has placed every tensor inside its segment. -/
namespace Q38.PleTranslation
open Contracts PleStore PleLayout PleDeviceLayout PleLayoutReading FallibleRuns ConsecutiveRuns

section Index
variable {host : Host}

/-- What the reader of an index has looked at. -/
structure Consistent (host : Host) (tables : Tables) : Prop where
  sized : ∀ segment ∈ tables.segments, segment.path ≠ [] ∧
    ∃ file, host.file segment.path = some file ∧ segment.size = file.size
  placed : ∀ tensor ∈ tables.tensors, tensor.segment < tables.segments.length
  named : (tables.tensors.map Tensor.name).Nodup

theorem segment_consistent {fields : List (List Char)} {segment : Segment}
    (read : parseSegment host fields = .ok segment) :
    segment.path ≠ [] ∧ ∃ file, host.file segment.path = some file ∧ segment.size = file.size := by
  unfold parseSegment at read
  obtain ⟨path, _, read⟩ := bind_ok read
  obtain ⟨text, _, read⟩ := bind_ok read
  obtain ⟨size, _, read⟩ := bind_ok read
  split at read
  · cases read
  · next same =>
      cases read
      obtain ⟨file, found, size_⟩ := Option.map_eq_some_iff.mp (not_not.mp same)
      exact ⟨host.resolve_some path, file, found, size_.symm⟩

theorem line_consistent {tables : Tables} (consistent : Consistent host tables)
    (line : List Char) :
    Yields (Consistent host) (fun _ => True) (PleDeviceLayout.parseLine host tables line) := by
  cases read : PleDeviceLayout.parseLine host tables line with
  | error thrown => trivial
  | ok after =>
      change Consistent host after
      unfold PleDeviceLayout.parseLine at read
      dsimp only at read
      split at read
      · obtain ⟨segment, found, read⟩ := bind_ok read
        cases read
        refine ⟨?_, ?_, consistent.named⟩
        · intro other member
          rcases List.mem_append.mp member with before | last
          · exact consistent.sized other before
          · obtain rfl := List.mem_singleton.mp last
            exact segment_consistent found
        · intro tensor member
          have before := consistent.placed tensor member
          rw [List.length_append, Nat.cast_add]
          exact before.trans_le (Int.le_add_of_nonneg_right (Int.natCast_nonneg _))
      · split at read
        · obtain ⟨tensor, found, read⟩ := bind_ok read
          split at read
          · cases read
          · next valid =>
              cases read
              rw [not_or, not_le] at valid
              refine ⟨consistent.sized, ?_, ?_⟩
              · intro other member
                rcases List.mem_append.mp member with before | last
                · exact consistent.placed other before
                · obtain rfl := List.mem_singleton.mp last
                  exact valid.2
              · rw [List.map_append, List.map_singleton]
                exact List.nodup_append_comm.mp
                  (List.nodup_cons.mpr ⟨valid.1, consistent.named⟩)
        · cases read
          exact consistent

theorem index_consistent {text : List Char} {tables : Tables}
    (read : parseIndex host text = .ok tables) : Consistent host tables := by
  unfold parseIndex at read
  split at read
  · cases read
  · next magic lines _ =>
      split at read
      · cases read
      · have begins : Consistent host {} := ⟨by simp, by simp, by simp⟩
        have run : Yields (Consistent host) (fun _ => True)
            (lines.foldlM (PleDeviceLayout.parseLine host) {}) := by
          apply Yields.fold begins
          exact fun _ line _ tables _ consistent => line_consistent consistent line
        rw [read] at run
        exact run

end Index

section Controls
variable {host : Host} {segments : List Segment}

theorem unpack_length (count : Nat) (data : List UInt8) : (unpack count data).length = count := by
  rw [unpack, List.length_map, List.length_range]

theorem unpack_bounds {count : Nat} {data : List UInt8} {value : Int}
    (member : value ∈ unpack count data) : -2 ^ 63 ≤ value ∧ value < 2 ^ 63 := by
  obtain ⟨word, _, rfl⟩ := List.mem_map.mp member
  exact ⟨BitVec.le_toInt _, BitVec.toInt_lt⟩

/-- A control tensor that was read. -/
structure Words (count : Nat) (values : List Int) : Prop where
  length : values.length = count
  bounds : ∀ value ∈ values, -2 ^ 63 ≤ value ∧ value < 2 ^ 63

theorem words_read {tensor : Tensor} {count : Nat} {values : List Int}
    (read : readI64 host segments tensor count = .ok values) : Words count values := by
  unfold readI64 at read
  split at read
  · cases read
  · obtain ⟨segment, _, read⟩ := bind_ok read
    obtain ⟨data, _, read⟩ := bind_ok read
    split at read
    · cases read
    · cases read
      exact ⟨unpack_length _ _, fun value => unpack_bounds⟩

theorem Words.small {count : Nat} {values : List Int} (words : Words count values) :
    ∀ value ∈ values, value.natAbs < 2 ^ 64 := by
  intro value member
  have bounds := words.bounds value member
  omega

/-- The heads follow each other from row 0 on. -/
theorem heads_total {pairs : List (Int × Int)} {expected total : Int}
    (checked : PleDeviceLayout.checkHeads pairs expected = .ok total) :
    total = expected + (pairs.map Prod.fst).sum ∧
      ∀ pair ∈ pairs, 0 < pair.1 ∧ expected ≤ pair.2 := by
  induction pairs generalizing expected with
  | nil =>
      cases checked
      simp
  | cons pair rest ih =>
      obtain ⟨size, offset⟩ := pair
      unfold PleDeviceLayout.checkHeads at checked
      split at checked
      · cases checked
      · next valid =>
          rw [not_or, not_le, not_not] at valid
          obtain ⟨whole, later⟩ := ih checked
          rw [List.forall_mem_cons]
          refine ⟨?_, ⟨valid.1, valid.2.ge⟩, fun pair member => ?_⟩
          · rw [whole, List.map_cons, List.sum_cons, add_assoc]
          · have bounds := later pair member
            have own := valid.1
            exact ⟨bounds.1, by omega⟩

end Controls

section Parts
variable {host : Host}

/-- A tensor with the rows of one part. -/
structure TablePart (host : Host) (number : Nat) (tensor : Tensor) : Prop where
  numbered : partNumber host tensor.name = some number
  shaped : tensor.shape = [rowsOf tensor, 160]
  counted : tensor.count = rowsOf tensor * 160
  scaled : tensor.scaleCount = rowsOf tensor * 2

def isTable (host : Host) (tensor : Tensor) : Bool := (partNumber host tensor.name).isSome

theorem table_part {tensor : Tensor} {found : Option (Nat × Tensor)}
    (read : tablePart host tensor = .ok found) :
    (found = none ∧ isTable host tensor = false) ∨
      ∃ number, found = some (number, tensor) ∧ TablePart host number tensor := by
  unfold tablePart at read
  split at read
  · next other =>
      cases read
      exact .inl ⟨rfl, by rw [isTable, other]; rfl⟩
  · next number numbered =>
      split at read
      · cases read
      · next valid =>
          cases read
          push Not at valid
          obtain ⟨-, two, columns, counted, scaled⟩ := valid
          obtain ⟨rows, width, shape⟩ := List.length_eq_two.mp two
          refine .inr ⟨number, rfl, numbered, ?_, counted, scaled⟩
          have width_ : width = 160 := by
            rw [shape] at columns
            exact columns
          rw [rowsOf, shape, width_]
          rfl

theorem parts_found {tensors : List Tensor} {found : List (Option (Nat × Tensor))}
    (read : tensors.mapM (tablePart host) = .ok found) :
    (found.filterMap id).map Prod.snd = tensors.filter (isTable host) ∧
      ∀ part ∈ found.filterMap id, TablePart host part.1 part.2 := by
  induction tensors generalizing found with
  | nil =>
      cases read
      simp
  | cons tensor rest ih =>
      rw [List.mapM_cons] at read
      obtain ⟨first, one, read⟩ := bind_ok read
      obtain ⟨others, more, read⟩ := bind_ok read
      cases read
      obtain ⟨names, each⟩ := ih more
      rcases table_part one with ⟨rfl, other⟩ | ⟨number, rfl, part⟩
      · rw [List.filterMap_cons_none rfl, List.filter_cons_of_neg (by rw [other]; decide)]
        exact ⟨names, each⟩
      · have table : isTable host tensor = true := by
          rw [isTable, part.numbered]
          rfl
        have kept : (some (number, tensor) :: others).filterMap id =
            (number, tensor) :: others.filterMap id := rfl
        rw [kept, List.filter_cons_of_pos table, List.map_cons, names, List.forall_mem_cons]
        exact ⟨rfl, part, each⟩

/-- The parts in the order of their numbers. -/
structure Parts (host : Host) (tensors parts : List Tensor) : Prop where
  some_ : parts ≠ []
  permuted : List.Perm parts (tensors.filter (isTable host))
  each : ∀ index tensor, parts[index]? = some tensor → TablePart host index tensor

theorem parts_sorted {tensors parts : List Tensor} (read : sortedParts host tensors = .ok parts) :
    Parts host tensors parts := by
  unfold sortedParts at read
  obtain ⟨found, mapped, read⟩ := bind_ok read
  obtain ⟨names, tables⟩ := parts_found mapped
  dsimp only at read
  split at read
  · cases read
  · split at read
    · cases read
    · next valid =>
        rw [not_or, not_not] at valid
        obtain ⟨some_, numbers⟩ := valid
        have perm := List.perm_insertionSort (fun left right : Nat × Tensor => left.1 ≤ right.1)
          (found.filterMap id)
        cases read
        refine ⟨?_, names ▸ perm.map Prod.snd, ?_⟩
        · exact fun none => some_ (List.map_eq_nil_iff.mp none)
        · intro index tensor asked
          rw [List.getElem?_map, Option.map_eq_some_iff] at asked
          obtain ⟨⟨number, other⟩, place, rfl⟩ := asked
          have number_ : number = index := by
            have at_ := congrArg (fun list : List Nat => list[index]?) numbers
            rw [List.getElem?_map, place, Option.map_some,
              List.getElem?_range (List.getElem?_eq_some_iff.mp place).1] at at_
            exact Option.some.inj at_
          have part := tables _ (perm.mem_iff.mp (List.mem_of_getElem? place))
          exact number_ ▸ part

/-- Tensors that pass the checks are found with the numbers of their names. -/
theorem parts_numbered {tensors : List Tensor}
    (passes : ∀ tensor ∈ tensors, ∃ found, tablePart host tensor = .ok found) :
    ∃ found, tensors.mapM (tablePart host) = .ok found ∧
      (found.filterMap id).map Prod.fst =
        tensors.filterMap fun tensor => partNumber host tensor.name := by
  induction tensors with
  | nil => exact ⟨[], rfl, rfl⟩
  | cons tensor rest ih =>
      rw [List.forall_mem_cons] at passes
      obtain ⟨first, one⟩ := passes.1
      obtain ⟨others, more, numbers⟩ := ih passes.2
      refine ⟨first :: others, ?_, ?_⟩
      · rw [List.mapM_cons, one, more]
        rfl
      · rcases table_part one with ⟨rfl, other⟩ | ⟨number, rfl, part⟩
        · rw [isTable, Option.isSome_eq_false_iff, Option.isNone_iff_eq_none] at other
          rw [List.filterMap_cons_none rfl, numbers, List.filterMap_cons, other]
        · have kept : (some (number, tensor) :: others).filterMap id =
              (number, tensor) :: others.filterMap id := rfl
          rw [kept, List.map_cons, numbers, List.filterMap_cons, part.numbered]

theorem parts_made {tensors : List Tensor} {count : Nat}
    (passes : ∀ tensor ∈ tensors, ∃ found, tablePart host tensor = .ok found)
    (numbers : (tensors.filterMap fun tensor => partNumber host tensor.name).Perm
      (List.range count)) (some_ : 0 < count) :
    ∃ parts, sortedParts host tensors = .ok parts := by
  obtain ⟨found, mapped, firsts⟩ := parts_numbered passes
  rw [← firsts] at numbers
  have sorting := List.perm_insertionSort (fun left right : Nat × Tensor => left.1 ≤ right.1)
    (found.filterMap id)
  have whole := (sorting.map Prod.fst).trans numbers
  have ordered : (((found.filterMap id).insertionSort fun left right => left.1 ≤ right.1).map
      Prod.fst).Pairwise (· ≤ ·) :=
    List.pairwise_map.mpr (List.pairwise_insertionSort _ _)
  have exact_ := whole.eq_of_pairwise (fun _ _ _ _ => Nat.le_antisymm) ordered
    (List.pairwise_lt_range.imp Nat.le_of_lt)
  have length : ((found.filterMap id).insertionSort fun left right => left.1 ≤ right.1).length =
      count := by
    rw [← List.length_map (f := Prod.fst), exact_, List.length_range]
  unfold sortedParts
  rw [mapped]
  refine ⟨((found.filterMap id).insertionSort fun left right => left.1 ≤ right.1).map Prod.snd, ?_⟩
  change (if _ then _ else if _ then _ else _) = _
  rw [if_neg (not_not.mpr (numbers.nodup_iff.mpr List.nodup_range)), if_neg]
  · rfl
  · rw [not_or, not_not]
    refine ⟨List.ne_nil_of_length_pos (by rw [length]; exact some_), ?_⟩
    rw [exact_, length]

end Parts

section Finalized

/-- The bytes and scales of a tensor are in its segment. -/
structure Inside (segments : List Segment) (tensor : Tensor) : Prop where
  segment : 0 ≤ tensor.segment
  offset : 0 ≤ tensor.offset
  count : 0 ≤ tensor.count
  ends : tensor.offset + tensor.count ≤ (segmentAt segments tensor.segment).size
  scaleOffset : 0 ≤ tensor.scaleOffset
  scaleCount : 0 ≤ tensor.scaleCount
  scalesEnd : tensor.scaleOffset + tensor.scaleCount ≤ (segmentAt segments tensor.segment).size

/-- What the finalizer checks of an index: every extent, and the names of a stage, of which 128
are table parts. -/
structure Finalized (host : Host) (tables : Tables) : Prop where
  inside : ∀ tensor ∈ tables.tensors, Inside tables.segments tensor
  few : (tables.tensors.filter (isTable host)).length ≤ 128

/-- A control tensor by its name, as signed words. -/
def Control (host : Host) (tables : Tables) (name : String) (count : Nat) (values : List Int) :
    Prop :=
  ∃ tensor, named tables.tensors name = .ok tensor ∧
    readI64 host tables.segments tensor count = .ok values

/-- Where a translation comes from. -/
structure Translates (host : Host) (tables : Tables) (translation : Translation) : Prop where
  segments : translation.segments = tables.segments
  multipliers : Control host tables "blk.1.ple.layer_multipliers" 3 translation.multipliers
  sizes : Control host tables "blk.1.ple.head_vocab_sizes" 16 translation.sizes
  offsets : Control host tables "blk.1.ple.head_offsets" 16 translation.offsets
  heads : PleDeviceLayout.checkHeads (translation.sizes.zip translation.offsets) 0 =
    .ok translation.expected
  parts : Parts host tables.tensors translation.parts
  padded : translation.expected ≤ paddedRows translation.parts

variable {host : Host} {tables : Tables} {translation : Translation}

theorem translate_ok (made : PleDeviceLayout.translate host tables = .ok translation) :
    Translates host tables translation := by
  unfold PleDeviceLayout.translate at made
  obtain ⟨first, multipliers, made⟩ := bind_ok made
  obtain ⟨_, multipliers_, made⟩ := bind_ok made
  obtain ⟨second, sizes, made⟩ := bind_ok made
  obtain ⟨_, sizes_, made⟩ := bind_ok made
  obtain ⟨third, offsets, made⟩ := bind_ok made
  obtain ⟨_, offsets_, made⟩ := bind_ok made
  obtain ⟨expected, heads, made⟩ := bind_ok made
  obtain ⟨parts, sorted, made⟩ := bind_ok made
  split at made
  · cases made
  · next padded =>
      cases made
      exact ⟨rfl, ⟨first, multipliers, multipliers_⟩, ⟨second, sizes, sizes_⟩,
        ⟨third, offsets, offsets_⟩, heads, parts_sorted sorted, not_lt.mp padded⟩

theorem translate_made {multipliers sizes offsets : List Int} {expected : Int}
    {parts : List Tensor}
    (multipliers_ : Control host tables "blk.1.ple.layer_multipliers" 3 multipliers)
    (sizes_ : Control host tables "blk.1.ple.head_vocab_sizes" 16 sizes)
    (offsets_ : Control host tables "blk.1.ple.head_offsets" 16 offsets)
    (heads : PleDeviceLayout.checkHeads (sizes.zip offsets) 0 = .ok expected)
    (sorted : sortedParts host tables.tensors = .ok parts)
    (padded : expected ≤ paddedRows parts) :
    PleDeviceLayout.translate host tables =
      .ok ⟨tables.segments, multipliers, sizes, offsets, expected, parts⟩ := by
  obtain ⟨first, found, read⟩ := multipliers_
  obtain ⟨second, found', read'⟩ := sizes_
  obtain ⟨third, found'', read''⟩ := offsets_
  unfold PleDeviceLayout.translate
  simp only [found, read, found', read', found'', read'', heads, sorted, bind, Except.bind]
  exact if_neg (not_lt.mpr padded)

theorem Control.words {name : String} {count : Nat} {values : List Int}
    (control : Control host tables name count values) : Words count values := by
  obtain ⟨tensor, _, read⟩ := control
  exact words_read read

/-- Segments that a line of the document can name. -/
def Plain (tables : Tables) : Prop :=
  ∀ segment ∈ tables.segments, '\t' ∉ segment.path ∧ '\n' ∉ segment.path

/-- An index with its translation, as they come from the script. -/
structure Scripted (host : Host) (tables : Tables) (translation : Translation) : Prop where
  consistent : Consistent host tables
  finalized : Finalized host tables
  plain : Plain tables
  translates : Translates host tables translation

end Finalized

section Scripted
variable {host : Host} {tables : Tables} {translation : Translation}
variable (scripted : Scripted host tables translation)
include scripted

theorem few_parts : translation.parts.length ≤ 128 := by
  rw [scripted.translates.parts.permuted.length_eq]
  exact scripted.finalized.few

theorem part_listed {tensor : Tensor} (member : tensor ∈ translation.parts) :
    tensor ∈ tables.tensors :=
  List.mem_of_mem_filter (scripted.translates.parts.permuted.mem_iff.mp member)

theorem part_inside {tensor : Tensor} (member : tensor ∈ translation.parts) :
    Inside translation.segments tensor := by
  rw [scripted.translates.segments]
  exact scripted.finalized.inside tensor (part_listed scripted member)

theorem part_table {tensor : Tensor} (member : tensor ∈ translation.parts) :
    ∃ number, TablePart host number tensor := by
  obtain ⟨index, place⟩ := List.mem_iff_getElem?.mp member
  exact ⟨index, scripted.translates.parts.each index tensor place⟩

/-- The segment of a part, which is a file of its size. -/
theorem part_segment {tensor : Tensor} (member : tensor ∈ translation.parts) :
    segmentAt translation.segments tensor.segment ∈ tables.segments := by
  have listed := part_listed scripted member
  have inside := scripted.finalized.inside tensor listed
  have bound := scripted.consistent.placed tensor listed
  have positive := inside.segment
  rw [scripted.translates.segments, segmentAt,
    List.getD_eq_getElem _ _ (by omega : tensor.segment.toNat < tables.segments.length)]
  exact List.getElem_mem _

theorem part_sized {tensor : Tensor} (member : tensor ∈ translation.parts) :
    0 ≤ (segmentAt translation.segments tensor.segment).size ∧
      (segmentAt translation.segments tensor.segment).size < 2 ^ 63 := by
  obtain ⟨_, file, found, size⟩ := scripted.consistent.sized _ (part_segment scripted member)
  have small := host.file_small _ _ found
  omega

theorem part_rows {tensor : Tensor} (member : tensor ∈ translation.parts) :
    0 ≤ rowsOf tensor ∧ rowsOf tensor ≤ 2 ^ 56 := by
  obtain ⟨number, part⟩ := part_table scripted member
  have inside := part_inside scripted member
  have sized := part_sized scripted member
  have counted := part.counted
  have count := inside.count
  have ends := inside.ends
  have offset := inside.offset
  omega

theorem padded_small : 0 ≤ paddedRows translation.parts ∧
    paddedRows translation.parts ≤ 2 ^ 63 := by
  constructor
  · apply List.sum_nonneg
    intro count member
    obtain ⟨tensor, listed, rfl⟩ := List.mem_map.mp member
    exact (part_rows scripted listed).1
  · have each : ∀ count ∈ translation.parts.map rowsOf, count ≤ 2 ^ 56 := by
      intro count member
      obtain ⟨tensor, listed, rfl⟩ := List.mem_map.mp member
      exact (part_rows scripted listed).2
    have total := List.sum_le_card_nsmul _ _ each
    have few := few_parts scripted
    rw [List.length_map, nsmul_eq_mul] at total
    rw [paddedRows]
    omega

omit scripted in
theorem used_part {parts : List Tensor} {segment : Int} (used : segment ∈ usedSegments parts) :
    ∃ tensor ∈ parts, tensor.segment = segment := by
  rw [usedSegments, List.mem_insertionSort, List.mem_dedup] at used
  exact List.mem_map.mp used

omit scripted in
theorem used_few (parts : List Tensor) : (usedSegments parts).length ≤ parts.length := by
  rw [usedSegments, List.length_insertionSort]
  exact (List.dedup_sublist _).length_le.trans_eq (List.length_map _)

theorem payload_positive (segment : Int) : 0 ≤ payloadOf translation.parts segment := by
  apply List.sum_nonneg
  intro bytes member
  obtain ⟨tensor, listed, rfl⟩ := List.mem_map.mp member
  have inside := part_inside scripted (List.mem_of_mem_filter listed)
  exact add_nonneg inside.count inside.scaleCount

theorem expected_total : translation.expected = translation.sizes.sum ∧
    (∀ size ∈ translation.sizes, 0 < size) ∧ ∀ offset ∈ translation.offsets, 0 ≤ offset := by
  have sizes := scripted.translates.sizes.words.length
  have offsets := scripted.translates.offsets.words.length
  obtain ⟨total, each⟩ := heads_total scripted.translates.heads
  have first : (translation.sizes.zip translation.offsets).map Prod.fst = translation.sizes :=
    List.map_fst_zip (by omega)
  have second : (translation.sizes.zip translation.offsets).map Prod.snd = translation.offsets :=
    List.map_snd_zip (by omega)
  rw [first, zero_add] at total
  refine ⟨total, fun size member => ?_, fun offset member => ?_⟩
  · rw [← first] at member
    obtain ⟨pair, listed, rfl⟩ := List.mem_map.mp member
    exact (each pair listed).1
  · rw [← second] at member
    obtain ⟨pair, listed, rfl⟩ := List.mem_map.mp member
    exact (each pair listed).2

theorem expected_positive : 0 < translation.expected := by
  obtain ⟨total, positive, -⟩ := expected_total scripted
  have some_ : translation.sizes ≠ [] := List.ne_nil_of_length_pos (by
    rw [scripted.translates.sizes.words.length]
    decide)
  rw [total]
  exact List.sum_pos _ positive some_

theorem segment_listed {segment : Int} (used : segment ∈ usedSegments translation.parts) :
    Listed translation segment := by
  obtain ⟨tensor, member, rfl⟩ := used_part used
  have listed := part_listed scripted member
  have place := List.idxOf_lt_length_of_mem used
  have few := few_parts scripted
  have names := used_few translation.parts
  have sized := part_sized scripted member
  have plain := scripted.plain _ (part_segment scripted member)
  refine ⟨(part_inside scripted member).segment, ?_, ?_, plain.1, plain.2, by omega,
    payload_positive scripted _⟩
  · rw [scripted.translates.segments]
    exact scripted.consistent.placed tensor listed
  · rw [fileIndex]
    omega

theorem readable {unigramVocab eosToken : Int} (positive : 0 ≤ eosToken)
    (below : eosToken < unigramVocab) (narrow : unigramVocab < 2 ^ 32) :
    Readable translation unigramVocab eosToken := by
  have padded := padded_small scripted
  have expected := expected_positive scripted
  have enough := scripted.translates.padded
  have multipliers := scripted.translates.multipliers.words
  have sizes := scripted.translates.sizes.words
  have offsets := scripted.translates.offsets.words
  refine ⟨⟨by omega, by omega, by omega, by omega, multipliers.length, sizes.length,
    offsets.length, ?_⟩, fun segment => segment_listed scripted, ?_,
    fun tensor member => (part_rows scripted member).1, few_parts scripted⟩
  · simp only [List.mem_append, or_imp, forall_and]
    exact ⟨⟨multipliers.small, sizes.small⟩, offsets.small⟩
  · intro tensor member
    have inside := part_inside scripted member
    have sized := part_sized scripted member
    have rows := part_rows scripted member
    obtain ⟨segment, offset, count, ends, scaleOffset, scaleCount, scalesEnd⟩ := inside
    exact ⟨by omega, by omega, by omega, by omega, by omega⟩

end Scripted

end Q38.PleTranslation
