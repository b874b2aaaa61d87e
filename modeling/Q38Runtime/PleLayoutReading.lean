import Q38Runtime.PleDeviceLayout
import Q38Runtime.TextFields

/-! The layout document of the script as the runtime reads it: each line sets the fields that
it was written from. Numbers with a sign are read modulo 2^64. -/
namespace Q38.PleLayoutReading
open Contracts PleStore PleLayout TextFields PleDeviceLayout
open TensorLedger (decimalText intText joined)

section Numbers

/-- A number as a word. -/
def wordOf (value : Int) : UInt64 := UInt64.ofNat (value % 2 ^ 64).toNat

theorem word_of_to_nat {value : Int} (positive : 0 ≤ value) (small : value < 2 ^ 64) :
    (wordOf value).toNat = value.toNat := by
  have same : value % 2 ^ 64 = value := Int.emod_eq_of_lt positive small
  rw [wordOf, same, UInt64.toNat_ofNat', Nat.mod_eq_of_lt]
  omega

theorem int_letters {value : Int} {letter : Char} (member : letter ∈ intText value) :
    letter = '-' ∨ letter.isDigit = true := by
  unfold intText at member
  split at member
  · exact (List.mem_cons.mp member).imp_right decimal_digit
  · exact .inr (decimal_digit member)

theorem int_plain {value : Int} {letter : Char} (mark : letter.isDigit = false)
    (other : letter ≠ '-') : letter ∉ intText value := by
  intro member
  rcases int_letters member with rfl | digit
  · exact other rfl
  · rw [digit] at mark
    cases mark

theorem int_some (value : Int) : intText value ≠ [] := by
  unfold intText
  split
  · exact List.cons_ne_nil _ _
  · exact decimal_some _

theorem int_text_nonnegative {value : Int} (positive : 0 ≤ value) :
    intText value = decimalText value.toNat := if_neg (Int.not_lt.mpr positive)

/-- A sign is read as a complement. -/
theorem stoull_int {value : Int} (small : value.natAbs < 2 ^ 64) :
    stoull (intText value) = some ((wordOf value).toNat, []) := by
  rcases lt_or_ge value 0 with negative | positive
  · have whole : (decimalText value.natAbs).takeWhile Char.isDigit = decimalText value.natAbs :=
      List.takeWhile_eq_self_iff.mpr fun letter member => decimal_digit member
    have worth := decimal_worth value.natAbs
    have complement : (2 ^ 64 - value.natAbs) % 2 ^ 64 = (wordOf value).toNat := by
      rw [wordOf, UInt64.toNat_ofNat']
      omega
    rw [intText, if_pos negative]
    have unspaced : ('-' :: decimalText value.natAbs).dropWhile isSpace =
        '-' :: decimalText value.natAbs := by
      rw [List.dropWhile_cons]
      rfl
    simp only [stoull, unspaced, List.head?_cons, true_or, if_true, List.tail_cons,
      whole, worth, decimal_some, false_or, List.drop_length, if_neg (Nat.not_le.mpr small),
      complement]
  · rw [int_text_nonnegative positive, stoull_decimal, if_pos (by omega),
      word_of_to_nat positive (by omega)]

theorem parse_int (field : String) {value : Int} (small : value.natAbs < 2 ^ 64) :
    PleLayout.parseU64 field (intText value) = .ok (wordOf value) := by
  unfold PleLayout.parseU64
  rw [stoull_int small]
  simp

theorem parse_positive (field : String) {value : Int} (positive : 0 ≤ value) :
    PleLayout.parseU64 field (intText value) =
      if value < 2 ^ 64 then .ok (wordOf value)
      else refuse ("PLE layout " ++ field ++ " is not an integer") := by
  by_cases small : value < 2 ^ 64
  · rw [if_pos small, parse_int field (by omega)]
  · rw [if_neg small, int_text_nonnegative positive]
    unfold PleLayout.parseU64
    rw [stoull_decimal, if_neg (by omega)]

theorem parse_narrow (field : String) {value : Int} (positive : 0 ≤ value)
    (small : value < 2 ^ 32) :
    parseU32 field (intText value) = .ok (UInt32.ofNat value.toNat) := by
  have fits : (wordOf value).toNat = value.toNat := word_of_to_nat positive (by omega)
  unfold parseU32
  rw [parse_int field (by omega)]
  change (if 2 ^ 32 ≤ (wordOf value).toNat then _ else _) = _
  rw [fits, if_neg (by omega)]
  refine congrArg Except.ok (UInt32.toNat_inj.mp ?_)
  rw [UInt64.toNat_toUInt32, fits, UInt32.toNat_ofNat']

theorem parse_index (field : String) {index : Nat} (small : index < 2 ^ 32) :
    parseU32 field (decimalText index) = .ok (UInt32.ofNat index) := by
  have read := parse_narrow field (Int.natCast_nonneg index) (by omega)
  rwa [int_text_nonnegative (Int.natCast_nonneg index), Int.toNat_natCast] at read

theorem commas_split {values : List Int} : split ',' (commas values) [] = values.map intText := by
  apply split_joined
  · intro field member
    obtain ⟨value, _, rfl⟩ := List.mem_map.mp member
    exact int_plain (by decide) (by decide)
  · intro field last
    obtain ⟨value, _, rfl⟩ := List.mem_map.mp (List.mem_of_mem_getLast? last)
    exact int_some value

theorem parse_commas (field : String) {size : Nat} {values : List Int} (long : values.length = size)
    (small : ∀ value ∈ values, value.natAbs < 2 ^ 64) :
    parseArray size field (commas values) =
      .ok fun index => ((values.map wordOf).getD index 0).toBitVec := by
  have numbers : (values.map intText).mapM (PleLayout.parseU64 field) =
      .ok (values.map wordOf) := by
    induction values generalizing size with
    | nil => rfl
    | cons value rest ih =>
        rw [List.map_cons, List.mapM_cons, parse_int field (small value List.mem_cons_self),
          ih rfl fun other member => small other (List.mem_cons_of_mem _ member)]
        rfl
  unfold parseArray
  dsimp only
  rw [commas_split, List.length_map, if_neg (not_not.mpr long), numbers]
  rfl

theorem commas_plain {values : List Int} {letter : Char} (mark : letter.isDigit = false)
    (minus : letter ≠ '-') (comma : letter ≠ ',') : letter ∉ commas values := by
  apply joined_plain comma
  intro field member
  obtain ⟨value, _, rfl⟩ := List.mem_map.mp member
  exact int_plain mark minus

end Numbers

section Headers
variable {layout next : Layout} {headers : List (List Char)} {value : List Char}

/-- Keys and values of a header that a line shows as they are. -/
structure Shown (key value : List Char) : Prop where
  some_ : key ≠ []
  comment : key.head? ≠ some '#'
  equals : '=' ∉ key
  keyTab : '\t' ∉ key
  valueTab : '\t' ∉ value

theorem header_line {key : String} (shown : Shown key.toList value)
    (fresh : key.toList ∉ headers) (set_ : setHeader layout key.toList value = .ok next) :
    PleLayout.parseLine (layout, headers) (assignment key value) =
      .ok (next, key.toList :: headers) := by
  have tab : '\t' ∉ assignment key value := by
    rw [assignment, List.mem_append, List.mem_cons]
    rintro (here | here | here)
    · exact shown.keyTab here
    · cases here
    · exact shown.valueTab here
  have line : assignment key value ≠ [] := by
    unfold assignment
    simp
  have alone : split '\t' (assignment key value) [] = [assignment key value] :=
    split_last tab [] line
  have comment : (assignment key value).head? ≠ some '#' := by
    rw [assignment, List.head?_append_of_ne_nil _ shown.some_]
    exact shown.comment
  have keyed : (assignment key value).takeWhile (· ≠ '=') = key.toList := by
    have before : ∀ letter ∈ key.toList, decide (letter ≠ '=') = true := by
      intro letter member
      rw [decide_eq_true_eq]
      rintro rfl
      exact shown.equals member
    rw [assignment, List.takeWhile_append_of_pos before]
    simp
  have valued : (assignment key value).drop (key.toList.length + 1) = value := by
    rw [assignment, List.drop_length_add_append]
    rfl
  have marked : '=' ∈ assignment key value := by
    rw [assignment]
    simp
  unfold PleLayout.parseLine
  simp only [line, comment, or_self, if_false, alone, List.length_singleton, Nat.lt_irrefl,
    marked, not_true_eq_false, keyed, fresh, valued, set_]
  rfl

/-- What the runtime asks of the numbers in the header. -/
structure Numbered (translation : Translation) (unigramVocab eosToken : Int) : Prop where
  expected : translation.expected.natAbs < 2 ^ 64
  padded : (paddedRows translation.parts).natAbs < 2 ^ 64
  vocab : 0 ≤ unigramVocab ∧ unigramVocab < 2 ^ 32
  eos : 0 ≤ eosToken ∧ eosToken < 2 ^ 32
  multipliers : translation.multipliers.length = 3
  sizes : translation.sizes.length = 16
  offsets : translation.offsets.length = 16
  small : ∀ value ∈ translation.multipliers ++ translation.sizes ++ translation.offsets,
    value.natAbs < 2 ^ 64

def controls {size : Nat} (values : List Int) : Fin size → BitVec 64 := fun index =>
  ((values.map wordOf).getD index 0).toBitVec

/-- The layout behind the header. -/
def headed (translation : Translation) (unigramVocab eosToken : Int) : Layout where
  rowStrideBytes := UInt32.ofNat 160
  usableRows := wordOf translation.expected
  files := []
  parts := []
  storageDtype := .fp8E4M3
  alignmentBytes := UInt32.ofNat 1
  rowDimension := UInt32.ofNat 160
  paddedRows := wordOf (paddedRows translation.parts)
  hash := {
    unigramVocabSize := (UInt32.ofNat unigramVocab.toNat).toNat
    eosTokenId := (UInt32.ofNat eosToken.toNat).toNat
    multipliers := controls translation.multipliers
    headVocabSizes := controls translation.sizes
    headOffsets := controls translation.offsets }

theorem fold_step {parsed after : Layout × List (List Char)} {line : List Char}
    {rest : List (List Char)} {result : Except Thrown (Layout × List (List Char))}
    (first : PleLayout.parseLine parsed line = .ok after)
    (later : rest.foldlM PleLayout.parseLine after = result) :
    (line :: rest).foldlM PleLayout.parseLine parsed = result := by
  rw [List.foldlM_cons, first]
  exact later

theorem headers_loaded {translation : Translation} {unigramVocab eosToken : Int}
    (numbered : Numbered translation unigramVocab eosToken) (rest : List (List Char)) :
    ∃ keys, keys.length = 11 ∧
      ((headerLines translation unigramVocab eosToken).tail ++ rest).foldlM PleLayout.parseLine
        (emptyLayout, []) =
      rest.foldlM PleLayout.parseLine (headed translation unigramVocab eosToken, keys) := by
  have dtype (layout : Layout) : setHeader layout "dtype".toList "fp8_e4m3".toList =
      .ok { layout with storageDtype := .fp8E4M3 } := rfl
  have alignment (layout : Layout) : setHeader layout "alignment".toList "1".toList =
      .ok { layout with alignmentBytes := UInt32.ofNat 1 } := by
    change parseU32 _ (decimalText 1) >>= _ = _
    rw [parse_index _ (by decide)]
    rfl
  have stride (layout : Layout) : setHeader layout "row_stride".toList "160".toList =
      .ok { layout with rowStrideBytes := UInt32.ofNat 160 } := by
    change parseU32 _ (decimalText 160) >>= _ = _
    rw [parse_index _ (by decide)]
    rfl
  have dimension (layout : Layout) : setHeader layout "row_dimension".toList "160".toList =
      .ok { layout with rowDimension := UInt32.ofNat 160 } := by
    change parseU32 _ (decimalText 160) >>= _ = _
    rw [parse_index _ (by decide)]
    rfl
  have usable (layout : Layout) :
      setHeader layout "usable_rows".toList (intText translation.expected) =
        .ok { layout with usableRows := wordOf translation.expected } := by
    change PleLayout.parseU64 _ _ >>= _ = _
    rw [parse_int _ numbered.expected]
    rfl
  have padded (layout : Layout) :
      setHeader layout "padded_rows".toList (intText (paddedRows translation.parts)) =
        .ok { layout with paddedRows := wordOf (paddedRows translation.parts) } := by
    change PleLayout.parseU64 _ _ >>= _ = _
    rw [parse_int _ numbered.padded]
    rfl
  have vocab (layout : Layout) : setHeader layout "unigram_vocab".toList (intText unigramVocab) =
      .ok { layout with hash := { layout.hash with
        unigramVocabSize := (UInt32.ofNat unigramVocab.toNat).toNat } } := by
    change parseU32 _ _ >>= _ = _
    rw [parse_narrow _ numbered.vocab.1 numbered.vocab.2]
    rfl
  have eos (layout : Layout) : setHeader layout "eos_token".toList (intText eosToken) =
      .ok { layout with hash := { layout.hash with
        eosTokenId := (UInt32.ofNat eosToken.toNat).toNat } } := by
    change parseU32 _ _ >>= _ = _
    rw [parse_narrow _ numbered.eos.1 numbered.eos.2]
    rfl
  have small := numbered.small
  simp only [List.mem_append, or_imp, forall_and] at small
  obtain ⟨⟨smallMultipliers, smallSizes⟩, smallOffsets⟩ := small
  have multipliers (layout : Layout) :
      setHeader layout "multipliers".toList (commas translation.multipliers) =
        .ok { layout with hash := { layout.hash with
          multipliers := controls translation.multipliers } } := by
    change parseArray 3 _ _ >>= _ = _
    rw [parse_commas _ numbered.multipliers smallMultipliers]
    rfl
  have sizes (layout : Layout) :
      setHeader layout "head_vocab_sizes".toList (commas translation.sizes) =
        .ok { layout with hash := { layout.hash with
          headVocabSizes := controls translation.sizes } } := by
    change parseArray 16 _ _ >>= _ = _
    rw [parse_commas _ numbered.sizes smallSizes]
    rfl
  have offsets (layout : Layout) :
      setHeader layout "head_offsets".toList (commas translation.offsets) =
        .ok { layout with hash := { layout.hash with
          headOffsets := controls translation.offsets } } := by
    change parseArray 16 _ _ >>= _ = _
    rw [parse_commas _ numbered.offsets smallOffsets]
    rfl
  have number (value : Int) : '\t' ∉ intText value := int_plain (by decide) (by decide)
  have list (values : List Int) : '\t' ∉ commas values :=
    commas_plain (by decide) (by decide) (by decide)
  have shown {key : String} {value : List Char} (plain : '\t' ∉ value)
      (closed : key.toList ≠ [] ∧ key.toList.head? ≠ some '#' ∧ '=' ∉ key.toList ∧
        '\t' ∉ key.toList) : Shown key.toList value :=
    ⟨closed.1, closed.2.1, closed.2.2.1, closed.2.2.2, plain⟩
  refine ⟨["head_offsets".toList, "head_vocab_sizes".toList, "multipliers".toList,
    "eos_token".toList, "unigram_vocab".toList, "padded_rows".toList, "usable_rows".toList,
    "row_dimension".toList, "row_stride".toList, "alignment".toList, "dtype".toList], rfl, ?_⟩
  refine fold_step (header_line (shown (by decide) (by decide)) (by decide) (dtype _)) ?_
  refine fold_step (header_line (shown (by decide) (by decide)) (by decide) (alignment _)) ?_
  refine fold_step (header_line (shown (by decide) (by decide)) (by decide) (stride _)) ?_
  refine fold_step (header_line (shown (by decide) (by decide)) (by decide) (dimension _)) ?_
  refine fold_step (header_line (shown (number _) (by decide)) (by decide) (usable _)) ?_
  refine fold_step (header_line (shown (number _) (by decide)) (by decide) (padded _)) ?_
  refine fold_step (header_line (shown (number _) (by decide)) (by decide) (vocab _)) ?_
  refine fold_step (header_line (shown (number _) (by decide)) (by decide) (eos _)) ?_
  refine fold_step (header_line (shown (list _) (by decide)) (by decide) (multipliers _)) ?_
  refine fold_step (header_line (shown (list _) (by decide)) (by decide) (sizes _)) ?_
  refine fold_step (header_line (shown (list _) (by decide)) (by decide) (offsets _)) ?_
  rfl

end Headers

section Records
variable {layout : Layout} {headers : List (List Char)} {kind : List Char}

theorem record_line {fields : List (List Char)} (some_ : kind ≠ [])
    (comment : kind.head? ≠ some '#') (more : fields ≠ [])
    (plain : ∀ field ∈ kind :: fields, '\t' ∉ field)
    (last : ∀ field ∈ fields.getLast?, field ≠ []) :
    joined ['\t'] (kind :: fields) ≠ [] ∧ (joined ['\t'] (kind :: fields)).head? ≠ some '#' ∧
      split '\t' (joined ['\t'] (kind :: fields)) [] = kind :: fields := by
  obtain ⟨next, rest, rfl⟩ := List.exists_cons_of_ne_nil more
  refine ⟨?_, ?_, split_joined plain fun field member => last field (by simpa using member)⟩
  · rw [joined_cons]
    simp
  · rw [joined_cons, List.head?_append_of_ne_nil _ some_]
    exact comment

/-- A file record with the numbers of the script. -/
def fileRecord (index : Nat) (path : List Char) (size payload : Int) : PleFileV1 :=
  ⟨UInt32.ofNat index, String.ofList path, wordOf size, wordOf payload⟩

theorem file_loaded {index : Nat} {path : List Char} {size payload : Int} (narrow : index < 2 ^ 32)
    (plain : '\t' ∉ path) (sized : size.natAbs < 2 ^ 64) (paid : 0 ≤ payload) :
    PleLayout.parseLine (layout, headers) (joined ['\t'] ["file".toList, decimalText index, path,
        intText size, intText payload]) =
      if payload < 2 ^ 64 then
        .ok ({ layout with files := layout.files ++ [fileRecord index path size payload] }, headers)
      else refuse "PLE layout file payload is not an integer" := by
  have fields : ∀ field ∈ ["file".toList, decimalText index, path, intText size, intText payload],
      '\t' ∉ field := by
    simp only [List.forall_mem_cons, List.not_mem_nil, false_implies, implies_true, and_true]
    exact ⟨by decide, decimal_plain (by decide), plain, int_plain (by decide) (by decide),
      int_plain (by decide) (by decide)⟩
  obtain ⟨some_, comment, parts⟩ := record_line (by decide) (by decide) (List.cons_ne_nil _ _)
    fields (by simp [int_some])
  unfold PleLayout.parseLine
  simp only [some_, comment, or_self, if_false, parts]
  change (parseFile _ >>= _) = _
  have read : parseFile ["file".toList, decimalText index, path, intText size, intText payload] =
      PleLayout.parseU64 "file payload" (intText payload) >>= fun payloadBytes =>
        .ok ⟨UInt32.ofNat index, String.ofList path, wordOf size, payloadBytes⟩ := by
    change (parseU32 _ (decimalText index) >>= fun _ => PleLayout.parseU64 _ (intText size) >>= _) =
      _
    rw [parse_index _ narrow, parse_int _ sized]
    rfl
  rw [read, parse_positive _ paid]
  split <;> rfl

/-- A part record with the numbers of the script. -/
def partRecord (logical file : Nat) (rowStart : Int) (tensor : Tensor) : PlePartV1 where
  logicalPart := UInt32.ofNat logical
  fileIndex := UInt32.ofNat file
  globalRowStart := wordOf rowStart
  rows := wordOf (rowsOf tensor)
  fileOffset := wordOf tensor.offset
  payloadBytes := wordOf tensor.count
  scaleFileIndex := UInt32.ofNat file
  scaleFileOffset := wordOf tensor.scaleOffset
  scaleBytes := wordOf tensor.scaleCount

/-- The numbers of a part are words. -/
structure Wordy (tensor : Tensor) : Prop where
  rows : (rowsOf tensor).natAbs < 2 ^ 64
  offset : tensor.offset.natAbs < 2 ^ 64
  count : tensor.count.natAbs < 2 ^ 64
  scaleOffset : tensor.scaleOffset.natAbs < 2 ^ 64
  scaleCount : tensor.scaleCount.natAbs < 2 ^ 64

theorem part_loaded {parts : List Tensor} {tensor : Tensor} {logical : Nat} {rowStart : Int}
    (narrow : logical < 2 ^ 32) (file : fileIndex parts tensor.segment < 2 ^ 32)
    (start : rowStart.natAbs < 2 ^ 64) (wordy : Wordy tensor) :
    PleLayout.parseLine (layout, headers) (partLine parts logical rowStart tensor) =
      .ok ({ layout with parts := layout.parts ++
        [partRecord logical (fileIndex parts tensor.segment) rowStart tensor] }, headers) := by
  have number (value : Int) : '\t' ∉ intText value := int_plain (by decide) (by decide)
  have index (value : Nat) : '\t' ∉ decimalText value := decimal_plain (by decide)
  have fields : ∀ field ∈ ["part".toList, decimalText logical,
      decimalText (fileIndex parts tensor.segment), intText rowStart, intText (rowsOf tensor),
      intText tensor.offset, intText tensor.count, decimalText (fileIndex parts tensor.segment),
      intText tensor.scaleOffset, intText tensor.scaleCount], '\t' ∉ field := by
    simp only [List.forall_mem_cons, List.not_mem_nil, false_implies, implies_true, and_true]
    exact ⟨by decide, index _, index _, number _, number _, number _, number _, index _, number _,
      number _⟩
  obtain ⟨some_, comment, split_⟩ := record_line (by decide) (by decide) (List.cons_ne_nil _ _)
    fields (by simp [int_some])
  unfold partLine PleLayout.parseLine
  simp only [some_, comment, or_self, if_false, split_]
  change (parsePart _ >>= _) = _
  have read : parsePart ["part".toList, decimalText logical,
      decimalText (fileIndex parts tensor.segment), intText rowStart, intText (rowsOf tensor),
      intText tensor.offset, intText tensor.count, decimalText (fileIndex parts tensor.segment),
      intText tensor.scaleOffset, intText tensor.scaleCount] =
        .ok (partRecord logical (fileIndex parts tensor.segment) rowStart tensor) := by
    change (parseU32 _ (decimalText logical) >>= fun _ => parseU32 _ (decimalText _) >>= fun _ =>
      PleLayout.parseU64 _ (intText rowStart) >>= fun _ =>
      PleLayout.parseU64 _ (intText (rowsOf tensor)) >>= fun _ =>
      PleLayout.parseU64 _ (intText tensor.offset) >>= fun _ =>
      PleLayout.parseU64 _ (intText tensor.count) >>= fun _ =>
      (parseU32 _ (decimalText _) >>= fun _ =>
      PleLayout.parseU64 _ (intText tensor.scaleOffset) >>= fun _ =>
      PleLayout.parseU64 _ (intText tensor.scaleCount) >>= _)) = _
    rw [parse_index _ narrow, parse_index _ file, parse_int _ start, parse_int _ wordy.rows,
      parse_int _ wordy.offset, parse_int _ wordy.count]
    change (parseU32 _ (decimalText _) >>= fun _ =>
      PleLayout.parseU64 _ (intText tensor.scaleOffset) >>= fun _ =>
      PleLayout.parseU64 _ (intText tensor.scaleCount) >>= _) = _
    rw [parse_index _ file, parse_int _ wordy.scaleOffset, parse_int _ wordy.scaleCount]
    rfl
  rw [read]
  rfl

end Records

section Document
variable {translation : Translation}

def segmentAt (segments : List Segment) (segment : Int) : Segment :=
  segments.getD segment.toNat ⟨[], 0⟩

theorem item_segment {segments : List Segment} {segment : Int} (positive : 0 ≤ segment)
    (inside : segment < segments.length) :
    item segments segment = .ok (segmentAt segments segment) := by
  have bound : segment.toNat < segments.length := by omega
  unfold item segmentAt
  rw [if_neg (Int.not_lt.mpr positive), if_neg (Int.not_lt.mpr positive),
    List.getElem?_eq_getElem bound, List.getD_eq_getElem _ _ bound]

def fileOf (translation : Translation) (segment : Int) : PleFileV1 :=
  fileRecord (fileIndex translation.parts segment) (segmentAt translation.segments segment).path
    (segmentAt translation.segments segment).size (payloadOf translation.parts segment)

/-- The records of the parts from some number on. -/
def partRecords (parts : List Tensor) : List Tensor → Nat → Int → List PlePartV1
  | [], _, _ => []
  | tensor :: rest, logical, rowStart =>
      partRecord logical (fileIndex parts tensor.segment) rowStart tensor ::
        partRecords parts rest (logical + 1) (rowStart + rowsOf tensor)

/-- A segment that a line shows as it is. -/
structure Listed (translation : Translation) (segment : Int) : Prop where
  positive : 0 ≤ segment
  inside : segment < translation.segments.length
  narrow : fileIndex translation.parts segment < 2 ^ 32
  tab : '\t' ∉ (segmentAt translation.segments segment).path
  line : '\n' ∉ (segmentAt translation.segments segment).path
  sized : (segmentAt translation.segments segment).size.natAbs < 2 ^ 64
  paid : 0 ≤ payloadOf translation.parts segment

def fileText (translation : Translation) (segment : Int) : List Char :=
  joined ['\t'] ["file".toList, decimalText (fileIndex translation.parts segment),
    (segmentAt translation.segments segment).path,
    intText (segmentAt translation.segments segment).size,
    intText (payloadOf translation.parts segment)]

theorem file_line {segment : Int} (listed : Listed translation segment) :
    fileLine translation segment = .ok (fileText translation segment) := by
  unfold fileLine
  rw [item_segment listed.positive listed.inside]
  rfl

/-- A payload that is no word is refused at its line. -/
theorem files_loaded {used : List Int} (listed : ∀ segment ∈ used, Listed translation segment) :
    ∃ lines, used.mapM (fileLine translation) = .ok lines ∧
      (∀ line ∈ lines, '\n' ∉ line) ∧
      ∀ (layout : Layout) (headers later : List (List Char)),
        (lines ++ later).foldlM PleLayout.parseLine (layout, headers) =
          if ∀ segment ∈ used, payloadOf translation.parts segment < 2 ^ 64 then
            later.foldlM PleLayout.parseLine
              ({ layout with files := layout.files ++ used.map (fileOf translation) }, headers)
          else refuse "PLE layout file payload is not an integer" := by
  induction used with
  | nil => exact ⟨[], rfl, by simp, by simp⟩
  | cons segment rest ih =>
      obtain ⟨lines, made, plain, loaded⟩ :=
        ih fun other member => listed other (List.mem_cons_of_mem _ member)
      have own := listed segment List.mem_cons_self
      refine ⟨fileText translation segment :: lines, ?_, ?_, ?_⟩
      · rw [List.mapM_cons, file_line own, made]
        rfl
      · rw [List.forall_mem_cons]
        refine ⟨joined_plain (by decide) ?_, plain⟩
        simp only [List.forall_mem_cons, List.not_mem_nil, false_implies, implies_true, and_true]
        exact ⟨by decide, decimal_plain (by decide), own.line, int_plain (by decide) (by decide),
          int_plain (by decide) (by decide)⟩
      · intro layout headers later
        rw [List.cons_append, List.foldlM_cons, fileText,
          file_loaded own.narrow own.tab own.sized own.paid]
        by_cases small : payloadOf translation.parts segment < 2 ^ 64
        · rw [if_pos small]
          change (lines ++ later).foldlM PleLayout.parseLine _ = _
          rw [loaded]
          simp only [List.forall_mem_cons, small, true_and, List.map_cons, List.append_assoc,
            List.singleton_append]
          rfl
        · rw [if_neg small, if_neg fun all => small (all segment List.mem_cons_self)]
          rfl

theorem parts_loaded {parts rest : List Tensor} {logical : Nat} {rowStart : Int}
    (wordy : ∀ tensor ∈ rest, Wordy tensor) (rows : ∀ tensor ∈ rest, 0 ≤ rowsOf tensor)
    (files : ∀ tensor ∈ rest, fileIndex parts tensor.segment < 2 ^ 32)
    (narrow : logical + rest.length ≤ 2 ^ 32) (positive : 0 ≤ rowStart)
    (last : rowStart + paddedRows rest < 2 ^ 64) (layout : Layout) (headers : List (List Char)) :
    (partLines parts rest logical rowStart).foldlM PleLayout.parseLine (layout, headers) =
      .ok ({ layout with parts := layout.parts ++ partRecords parts rest logical rowStart },
        headers) := by
  induction rest generalizing logical rowStart layout with
  | nil =>
      rw [partLines, partRecords, List.append_nil]
      rfl
  | cons tensor rest ih =>
      rw [List.forall_mem_cons] at wordy rows files
      rw [List.length_cons] at narrow
      rw [paddedRows, List.map_cons, List.sum_cons, ← paddedRows] at last
      have later : 0 ≤ paddedRows rest := List.sum_nonneg fun count member => by
        obtain ⟨other, listed, rfl⟩ := List.mem_map.mp member
        exact rows.2 other listed
      rw [partLines, List.foldlM_cons,
        part_loaded (by omega) files.1 (by have := rows.1; omega) wordy.1]
      change (partLines parts rest _ _).foldlM PleLayout.parseLine _ = _
      rw [ih wordy.2 rows.2 files.2 (by omega) (by have := rows.1; omega) (by omega), partRecords,
        List.append_assoc]
      rfl

theorem part_lines_plain {parts rest : List Tensor} {logical : Nat} {rowStart : Int} :
    ∀ line ∈ partLines parts rest logical rowStart, '\n' ∉ line := by
  induction rest generalizing logical rowStart with
  | nil => simp [partLines]
  | cons tensor rest ih =>
      have number (value : Int) : '\n' ∉ intText value := int_plain (by decide) (by decide)
      have index (value : Nat) : '\n' ∉ decimalText value := decimal_plain (by decide)
      rw [partLines, List.forall_mem_cons]
      refine ⟨joined_plain (by decide) ?_, ih⟩
      simp only [List.forall_mem_cons, List.not_mem_nil, false_implies, implies_true, and_true]
      exact ⟨by decide, index _, index _, number _, number _, number _, number _, index _,
        number _, number _⟩

theorem header_lines_plain {unigramVocab eosToken : Int} :
    ∀ line ∈ headerLines translation unigramVocab eosToken, '\n' ∉ line := by
  have number (value : Int) : '\n' ∉ intText value := int_plain (by decide) (by decide)
  have list (values : List Int) : '\n' ∉ commas values :=
    commas_plain (by decide) (by decide) (by decide)
  have plain {key : String} {value : List Char} (before : '\n' ∉ key.toList)
      (after : '\n' ∉ value) : '\n' ∉ assignment key value := by
    rw [assignment, List.mem_append, List.mem_cons]
    rintro (here | here | here)
    · exact before here
    · cases here
    · exact after here
  unfold headerLines
  simp only [List.forall_mem_cons, List.not_mem_nil, false_implies, implies_true, and_true]
  exact ⟨by decide, plain (by decide) (by decide), plain (by decide) (by decide),
    plain (by decide) (by decide), plain (by decide) (by decide), plain (by decide) (number _),
    plain (by decide) (number _), plain (by decide) (number _), plain (by decide) (number _),
    plain (by decide) (list _), plain (by decide) (list _), plain (by decide) (list _)⟩

/-- The layout that the document is read as, before it is checked. -/
def translated (translation : Translation) (unigramVocab eosToken : Int) : Layout :=
  { headed translation unigramVocab eosToken with
    files := (usedSegments translation.parts).map (fileOf translation)
    parts := partRecords translation.parts translation.parts 0 0 }

/-- What the numbers and paths of a translation must be for its lines to show them. -/
structure Readable (translation : Translation) (unigramVocab eosToken : Int) : Prop where
  numbered : Numbered translation unigramVocab eosToken
  listed : ∀ segment ∈ usedSegments translation.parts, Listed translation segment
  wordy : ∀ tensor ∈ translation.parts, Wordy tensor
  rows : ∀ tensor ∈ translation.parts, 0 ≤ rowsOf tensor
  few : translation.parts.length ≤ 128

theorem used_segment {parts : List Tensor} {tensor : Tensor} (member : tensor ∈ parts) :
    tensor.segment ∈ usedSegments parts := by
  rw [usedSegments, List.mem_insertionSort, List.mem_dedup]
  exact List.mem_map_of_mem member

theorem document_written {unigramVocab eosToken : Int}
    (readable : Readable translation unigramVocab eosToken) :
    ∃ document, layoutText translation unigramVocab eosToken = .ok document := by
  obtain ⟨lines, made, -⟩ := files_loaded readable.listed
  rw [layoutText, made]
  exact ⟨_, rfl⟩

theorem document_loaded {unigramVocab eosToken : Int} {document : List Char}
    (readable : Readable translation unigramVocab eosToken)
    (written : layoutText translation unigramVocab eosToken = .ok document) (path : String)
    (verifySourceFiles : Bool) (fileSize : String → Option Nat) :
    loadPleLayout path (some document) verifySourceFiles fileSize =
      if ∀ segment ∈ usedSegments translation.parts,
          payloadOf translation.parts segment < 2 ^ 64 then
        validateLayout (translated translation unigramVocab eosToken) verifySourceFiles fileSize
      else refuse "PLE layout file payload is not an integer" := by
  obtain ⟨lines, made, plain, files⟩ := files_loaded readable.listed
  obtain ⟨keys, count, headers⟩ := headers_loaded readable.numbered
    (lines ++ partLines translation.parts translation.parts 0 0)
  have padded := readable.numbered.padded
  have few := readable.few
  have parts := parts_loaded readable.wordy readable.rows
    (fun tensor member => (readable.listed _ (used_segment member)).narrow)
    (by omega : 0 + translation.parts.length ≤ 2 ^ 32) le_rfl (by omega)
  rw [layoutText, made] at written
  cases written
  have lined : split '\n' (joined ['\n'] (headerLines translation unigramVocab eosToken ++ lines ++
      partLines translation.parts translation.parts 0 0) ++ ['\n']) [] =
        headerLines translation unigramVocab eosToken ++
          (lines ++ partLines translation.parts translation.parts 0 0) := by
    rw [split_lines, List.append_assoc]
    · rw [List.append_assoc, List.forall_mem_append, List.forall_mem_append]
      exact ⟨header_lines_plain, plain, part_lines_plain⟩
    · simp [headerLines]
  rw [loadPleLayout]
  dsimp only
  rw [lined]
  change (if "Q38_PLE_LAYOUT_V1".toList ≠ "Q38_PLE_LAYOUT_V1".toList then _ else _) = _
  rw [if_neg (not_not.mpr rfl)]
  change (((headerLines translation unigramVocab eosToken).tail ++
    (lines ++ partLines translation.parts translation.parts 0 0)).foldlM PleLayout.parseLine
      (emptyLayout, []) >>= _) = _
  rw [headers, files]
  by_cases small : ∀ segment ∈ usedSegments translation.parts,
      payloadOf translation.parts segment < 2 ^ 64
  · rw [if_pos small, if_pos small, parts]
    change (if keys.length ≠ 11 then _ else _) = _
    rw [if_neg (not_not.mpr count)]
    rfl
  · rw [if_neg small, if_neg small]
    rfl

end Document

end Q38.PleLayoutReading
