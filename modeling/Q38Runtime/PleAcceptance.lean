import Q38Runtime.PleTranslation

/-! Which documents of the script the runtime accepts: those whose parts all have rows, in
segments that are not smaller than the parts in them together. -/
namespace Q38.PleAcceptance
open Contracts PleStore PleLayout PleDeviceLayout PleLayoutReading PleTranslation FallibleRuns
open ConsecutiveRuns

/-- What the runtime asks of the parts beyond what the script and the finalizer ask. -/
structure Loadable (segments : List Segment) (parts : List Tensor) : Prop where
  rows : ∀ tensor ∈ parts, 0 < rowsOf tensor
  room : ∀ tensor ∈ parts,
    payloadOf parts tensor.segment ≤ (segmentAt segments tensor.segment).size

section Words

theorem word_bits (value : Int) : (wordOf value).toBitVec = BitVec.ofInt 64 value := by
  apply BitVec.eq_of_toNat_eq
  rw [BitVec.toNat_ofInt, UInt64.toNat_toBitVec, wordOf, UInt64.toNat_ofNat']
  omega

theorem word_add (first second : Int) : wordOf first + wordOf second = wordOf (first + second) := by
  apply UInt64.toBitVec_inj.mp
  rw [UInt64.toBitVec_add, word_bits, word_bits, word_bits, BitVec.ofInt_add]

theorem word_mul (first second : Int) : wordOf first * wordOf second = wordOf (first * second) := by
  apply UInt64.toBitVec_inj.mp
  rw [UInt64.toBitVec_mul, word_bits, word_bits, word_bits, BitVec.ofInt_mul]

theorem word_le {first second : Int} (positive : 0 ≤ first) (more : 0 ≤ second)
    (small : first < 2 ^ 64) (small_ : second < 2 ^ 64) :
    wordOf first ≤ wordOf second ↔ first ≤ second := by
  rw [UInt64.le_iff_toNat_le, word_of_to_nat positive small, word_of_to_nat more small_]
  omega

end Words

section Order
variable {parts rest : List Tensor} {logical : Nat} {rowStart : Int}

/-- A record belongs to a tensor, behind the rows of the tensors before it. -/
theorem record_tensor {part : PlePartV1}
    (member : part ∈ partRecords parts rest logical rowStart) :
    ∃ index tensor, rest[index]? = some tensor ∧
      part = partRecord (logical + index) (fileIndex parts tensor.segment)
        (rowStart + paddedRows (rest.take index)) tensor := by
  induction rest generalizing logical rowStart with
  | nil => cases member
  | cons first rest ih =>
      rw [partRecords] at member
      rcases List.mem_cons.mp member with rfl | later
      · refine ⟨0, first, rfl, ?_⟩
        simp [paddedRows]
      · obtain ⟨index, tensor, place, rfl⟩ := ih later
        refine ⟨index + 1, tensor, place, ?_⟩
        have rows : rowStart + rowsOf first + paddedRows (rest.take index) =
            rowStart + paddedRows ((first :: rest).take (index + 1)) := by
          rw [paddedRows, paddedRows, List.take_succ_cons, List.map_cons, List.sum_cons, add_assoc]
        rw [rows, Nat.add_right_comm, Nat.add_assoc]

theorem rows_positive (rows : ∀ tensor ∈ rest, 0 ≤ rowsOf tensor) (count : Nat) :
    0 ≤ paddedRows (rest.take count) ∧ paddedRows (rest.take count) ≤ paddedRows rest := by
  have each (list : List Tensor) (listed : ∀ tensor ∈ list, 0 ≤ rowsOf tensor) :
      0 ≤ paddedRows list := by
    apply List.sum_nonneg
    intro value member
    obtain ⟨tensor, other, rfl⟩ := List.mem_map.mp member
    exact listed tensor other
  have whole : paddedRows rest = paddedRows (rest.take count) + paddedRows (rest.drop count) := by
    rw [paddedRows, paddedRows, paddedRows, ← List.sum_append, ← List.map_append,
      List.take_append_drop]
  have front := each (rest.take count) fun tensor member =>
    rows tensor (List.mem_of_mem_take member)
  have back := each (rest.drop count) fun tensor member => rows tensor (List.mem_of_mem_drop member)
  omega

/-- The records are in the order of their first rows. -/
theorem records_sorted (rows : ∀ tensor ∈ rest, 0 ≤ rowsOf tensor) (positive : 0 ≤ rowStart)
    (last : rowStart + paddedRows rest < 2 ^ 64) :
    (partRecords parts rest logical rowStart).Pairwise
      fun first second => first.globalRowStart ≤ second.globalRowStart := by
  induction rest generalizing logical rowStart with
  | nil => exact .nil
  | cons tensor rest ih =>
      rw [List.forall_mem_cons] at rows
      rw [paddedRows, List.map_cons, List.sum_cons, ← paddedRows] at last
      have own := rows.1
      refine .cons (fun other member => ?_) (ih rows.2 (by omega) (by omega))
      obtain ⟨index, tensor_, _, rfl⟩ := record_tensor member
      have before := rows_positive rows.2 index
      exact (word_le (by omega) (by omega) (by omega) (by omega)).mpr (by omega)

end Order

section Files
variable {translation : Translation}

theorem used_nodup (parts : List Tensor) : (usedSegments parts).Nodup := by
  rw [usedSegments]
  exact (List.perm_insertionSort _ _).nodup_iff.mpr (List.nodup_dedup _)

theorem file_index {parts : List Tensor} {index : Nat}
    (inside : index < (usedSegments parts).length) :
    fileIndex parts (usedSegments parts)[index] = index :=
  (used_nodup parts).idxOf_getElem index inside

theorem file_found (few : (usedSegments translation.parts).length < 2 ^ 32) {segment : Int}
    (used : segment ∈ usedSegments translation.parts) :
    ((usedSegments translation.parts).map (fileOf translation))[(UInt32.ofNat
      (fileIndex translation.parts segment)).toNat]? = some (fileOf translation segment) := by
  have place : fileIndex translation.parts segment < (usedSegments translation.parts).length :=
    List.idxOf_lt_length_of_mem used
  have word : (UInt32.ofNat (fileIndex translation.parts segment)).toNat =
      fileIndex translation.parts segment := by
    rw [UInt32.toNat_ofNat', Nat.mod_eq_of_lt (place.trans few)]
  have found : (usedSegments translation.parts)[fileIndex translation.parts segment] = segment :=
    List.getElem_idxOf place
  rw [word, List.getElem?_map, List.getElem?_eq_getElem place, found]
  rfl

/-- The records of the files are in the order of their indices. -/
theorem files_sorted (few : (usedSegments translation.parts).length < 2 ^ 32) :
    sortFiles ((usedSegments translation.parts).map (fileOf translation)) =
      (usedSegments translation.parts).map (fileOf translation) := by
  apply List.Pairwise.insertionSort_eq
  rw [List.pairwise_map, List.pairwise_iff_getElem]
  intro first second begins ends before
  change UInt32.ofNat (fileIndex _ _) ≤ UInt32.ofNat (fileIndex _ _)
  rw [file_index begins, file_index ends, UInt32.le_iff_toNat_le, UInt32.toNat_ofNat',
    UInt32.toNat_ofNat']
  omega

theorem files_checked {verifySourceFiles : Bool} {fileSize : String → Option Nat}
    {files : List PleFileV1} {index : Nat}
    (checked : checkFiles verifySourceFiles fileSize files index = .ok ()) :
    ∀ file ∈ files, file.payloadBytes ≤ file.fileBytes := by
  induction files generalizing index with
  | nil => simp
  | cons file rest ih =>
      rw [checkFiles] at checked
      split at checked
      case isTrue => cases checked
      case isFalse shaped =>
        split at checked
        case isTrue => cases checked
        case isFalse =>
          push Not at shaped
          rw [List.forall_mem_cons]
          exact ⟨UInt64.not_lt.mp shaped.2.2.2, ih checked⟩

/-- What a file of the document must be to be accepted. -/
structure Filed (fileSize : String → Option Nat) (file : PleFileV1) : Prop where
  path : file.path ≠ ""
  some_ : file.fileBytes ≠ 0
  room : file.payloadBytes ≤ file.fileBytes
  sized : fileSize file.path = some file.fileBytes.toNat

theorem files_accepted {verifySourceFiles : Bool} {fileSize : String → Option Nat}
    {files : List PleFileV1} {index : Nat} (filed : ∀ file ∈ files, Filed fileSize file)
    (indexed : ∀ place (inside : place < files.length),
      files[place].index.toNat = index + place) :
    checkFiles verifySourceFiles fileSize files index = .ok () := by
  induction files generalizing index with
  | nil => rfl
  | cons file rest ih =>
      rw [List.forall_mem_cons] at filed
      obtain ⟨path, some_, room, sized⟩ := filed.1
      have first : file.index.toNat = index := indexed 0 (Nat.succ_pos _)
      have shaped : ¬ (file.index.toNat ≠ index ∨ file.path = "" ∨ file.fileBytes = 0 ∨
          file.fileBytes < file.payloadBytes) := by
        push Not
        exact ⟨first, path, some_, UInt64.not_lt.mpr room⟩
      rw [checkFiles, if_neg shaped, if_neg fun wrong => wrong.2 sized]
      apply ih filed.2
      intro place inside
      have later := indexed (place + 1) (Nat.succ_lt_succ inside)
      rw [List.getElem_cons_succ] at later
      omega

end Files

section Accepted
variable {host : Host} {tables : Tables} {translation : Translation}
variable (scripted : Scripted host tables translation)

/-- The sizes of the files, as the runtime asks for them. -/
def fileSizes (host : Host) (path : String) : Option Nat :=
  (host.file path.toList).map RegularFile.size

include scripted

theorem used_narrow : (usedSegments translation.parts).length < 2 ^ 32 := by
  have few := few_parts scripted
  have used := used_few translation.parts
  omega

theorem segment_word {tensor : Tensor} (member : tensor ∈ translation.parts) :
    (fileOf translation tensor.segment).fileBytes.toNat =
      (segmentAt translation.segments tensor.segment).size.toNat := by
  have sized := part_sized scripted member
  exact word_of_to_nat sized.1 (by omega)

/-- An extent in its segment passes the checks of its record. -/
theorem extent_words {tensor : Tensor} (member : tensor ∈ translation.parts) {offset count : Int}
    (begins : 0 ≤ offset) (some_ : 0 ≤ count)
    (ends : offset + count ≤ (segmentAt translation.segments tensor.segment).size) :
    ¬ ((fileOf translation tensor.segment).fileBytes < wordOf offset ∨
      (fileOf translation tensor.segment).fileBytes - wordOf offset < wordOf count) := by
  have sized := part_sized scripted member
  have bytes := segment_word scripted member
  have offset_ := word_of_to_nat begins (by omega)
  have count_ := word_of_to_nat some_ (by omega)
  have inside : wordOf offset ≤ (fileOf translation tensor.segment).fileBytes := by
    rw [UInt64.le_iff_toNat_le]
    omega
  rw [not_or, UInt64.not_lt, UInt64.not_lt]
  refine ⟨inside, ?_⟩
  rw [UInt64.le_iff_toNat_le, UInt64.toNat_sub_of_le _ _ inside]
  omega

theorem part_accepted {unigramVocab eosToken rowStart : Int} {tensor : Tensor} {logical : Nat}
    (member : tensor ∈ translation.parts) (rows : 0 < rowsOf tensor) (narrow : logical < 2 ^ 32) :
    checkPart (translated translation unigramVocab eosToken) logical (wordOf rowStart)
      (partRecord logical (fileIndex translation.parts tensor.segment) rowStart tensor) =
        .ok () := by
  obtain ⟨number, part⟩ := part_table scripted member
  have inside := part_inside scripted member
  have bounds := part_rows scripted member
  have found : (translated translation unigramVocab eosToken).files[(partRecord logical
      (fileIndex translation.parts tensor.segment) rowStart tensor).fileIndex.toNat]? =
        some (fileOf translation tensor.segment) :=
    file_found (used_narrow scripted) (used_segment member)
  have scaled : (translated translation unigramVocab eosToken).files[(partRecord logical
      (fileIndex translation.parts tensor.segment) rowStart tensor).scaleFileIndex.toNat]? =
        some (fileOf translation tensor.segment) := found
  have number_ : (UInt32.ofNat logical).toNat = logical := by
    rw [UInt32.toNat_ofNat', Nat.mod_eq_of_lt narrow]
  have some_ : wordOf (rowsOf tensor) ≠ 0 := by
    intro none
    have value := word_of_to_nat bounds.1 (by omega)
    rw [none] at value
    change 0 = _ at value
    omega
  have bytes : wordOf tensor.count = wordOf (rowsOf tensor) * (UInt32.ofNat 160).toUInt64 := by
    rw [part.counted, ← word_mul]
    rfl
  have halves : wordOf tensor.scaleCount = wordOf (rowsOf tensor) * 2 := by
    rw [part.scaled, ← word_mul]
    rfl
  have data := extent_words scripted member inside.offset inside.count inside.ends
  have scales := extent_words scripted member inside.scaleOffset inside.scaleCount inside.scalesEnd
  unfold checkPart
  rw [found]
  dsimp only
  rw [if_neg]
  · refine (if_neg data).trans ?_
    unfold checkScales
    have dtype : (translated translation unigramVocab eosToken).storageDtype = .fp8E4M3 := rfl
    rw [if_pos dtype, scaled]
    exact (if_neg (not_not.mpr halves)).trans (if_neg scales)
  · push Not
    exact ⟨number_, rfl, some_, bytes⟩

theorem parts_accepted {unigramVocab eosToken rowStart : Int} {rest : List Tensor} {logical : Nat}
    (members : ∀ tensor ∈ rest, tensor ∈ translation.parts)
    (rows : ∀ tensor ∈ rest, 0 < rowsOf tensor) (narrow : logical + rest.length ≤ 128)
    (total : rowStart + paddedRows rest = paddedRows translation.parts) :
    checkParts (translated translation unigramVocab eosToken)
      (partRecords translation.parts rest logical rowStart) logical (wordOf rowStart) = .ok () := by
  induction rest generalizing logical rowStart with
  | nil =>
      have last : rowStart = paddedRows translation.parts := (add_zero rowStart).symm.trans total
      rw [partRecords, checkParts, last]
      exact if_neg (not_not.mpr rfl)
  | cons tensor rest ih =>
      rw [List.forall_mem_cons] at members rows
      rw [List.length_cons] at narrow
      rw [paddedRows, List.map_cons, List.sum_cons, ← paddedRows] at total
      rw [partRecords, checkParts, part_accepted scripted members.1 rows.1 (by omega)]
      change checkParts _ _ (logical + 1) (wordOf rowStart + wordOf (rowsOf tensor)) = _
      rw [word_add]
      exact ih members.2 rows.2 (by omega) (by omega)

omit scripted in
theorem control_bits {size : Nat} (values : List Int) (index : Fin size) :
    controls values index = BitVec.ofInt 64 (values.getD index 0) := by
  rw [controls, ← word_bits, List.getD_eq_getElem?_getD, List.getD_eq_getElem?_getD,
    List.getElem?_map]
  cases values[index.val]? <;> rfl

omit scripted in
theorem heads_agree {unigramVocab eosToken expected total : Int} {heads : List (Fin 16)}
    (small : ∀ head ∈ heads, translation.sizes.getD head 0 < 2 ^ 63)
    (checked : PleDeviceLayout.checkHeads (heads.map fun head : Fin 16 =>
      (translation.sizes.getD head 0, translation.offsets.getD head 0)) expected = .ok total)
    (whole : total = translation.expected) :
    PleLayout.checkHeads (translated translation unigramVocab eosToken) heads
      (BitVec.ofInt 64 expected) = .ok () := by
  induction heads generalizing expected with
  | nil =>
      cases checked
      rw [PleLayout.checkHeads, whole]
      exact if_neg (not_not.mpr (word_bits _).symm)
  | cons head rest ih =>
      rw [List.forall_mem_cons] at small
      rw [List.map_cons, PleDeviceLayout.checkHeads] at checked
      split at checked
      case isTrue => cases checked
      case isFalse valid =>
        rw [not_or, not_le, not_not] at valid
        obtain ⟨positive, begins⟩ := valid
        have size : (translated translation unigramVocab eosToken).hash.headVocabSizes head =
            BitVec.ofInt 64 (translation.sizes.getD head 0) := control_bits _ head
        have offset : (translated translation unigramVocab eosToken).hash.headOffsets head =
            BitVec.ofInt 64 (translation.offsets.getD head 0) := control_bits _ head
        have some_ : BitVec.ofInt 64 (translation.sizes.getD head 0) ≠ 0 := by
          intro none
          have value := congrArg BitVec.toNat none
          rw [BitVec.toNat_ofInt] at value
          change _ = 0 at value
          omega
        rw [PleLayout.checkHeads, size, offset, begins,
          if_neg (not_or.mpr ⟨some_, not_not.mpr rfl⟩), ← BitVec.ofInt_add]
        exact ih small.2 checked

theorem heads_accepted (unigramVocab eosToken : Int) :
    PleLayout.checkHeads (translated translation unigramVocab eosToken) (List.finRange 16) 0 =
      .ok () := by
  have sizes := scripted.translates.sizes.words
  have offsets := scripted.translates.offsets.words
  have pairs : translation.sizes.zip translation.offsets =
      (List.finRange 16).map fun head : Fin 16 =>
        (translation.sizes.getD head 0, translation.offsets.getD head 0) := by
    apply List.ext_getElem
    · rw [List.length_zip, sizes.length, offsets.length, List.length_map, List.length_finRange]
      rfl
    · intro place begins ends
      rw [List.length_map, List.length_finRange] at ends
      have first : place < translation.sizes.length := sizes.length ▸ ends
      have second : place < translation.offsets.length := offsets.length ▸ ends
      simp [List.getElem?_eq_getElem first, List.getElem?_eq_getElem second]
  have checked := scripted.translates.heads
  rw [pairs] at checked
  refine heads_agree (fun head _ => ?_) checked rfl
  have place : head.val < translation.sizes.length := head.isLt.trans_eq sizes.length.symm
  rw [List.getD_eq_getElem _ _ place]
  exact (sizes.bounds _ (List.getElem_mem place)).2

theorem dimensions_accepted {unigramVocab eosToken : Int} (positive : 0 ≤ eosToken)
    (below : eosToken < unigramVocab) (narrow : unigramVocab < 2 ^ 32) :
    checkDimensions (translated translation unigramVocab eosToken) = .ok () := by
  have padded := padded_small scripted
  have expected := expected_positive scripted
  have enough := scripted.translates.padded
  have some_ := scripted.translates.parts.some_
  obtain ⟨tensor, rest, shape⟩ := List.exists_cons_of_ne_nil some_
  have usable : wordOf translation.expected ≠ 0 := by
    intro none
    have value := word_of_to_nat expected.le (by omega)
    rw [none] at value
    change 0 = _ at value
    omega
  have covered : ¬ wordOf (paddedRows translation.parts) < wordOf translation.expected := by
    rw [UInt64.not_lt]
    exact (word_le expected.le padded.1 (by omega) (by omega)).mpr enough
  have files : (translated translation unigramVocab eosToken).files ≠ [] := by
    have used : tensor.segment ∈ usedSegments translation.parts :=
      used_segment (shape ▸ List.mem_cons_self)
    exact List.ne_nil_of_mem (List.mem_map_of_mem used)
  have parts : (translated translation unigramVocab eosToken).parts ≠ [] := by
    change partRecords translation.parts translation.parts 0 0 ≠ []
    rw [shape]
    exact List.cons_ne_nil _ _
  have vocab : (translated translation unigramVocab eosToken).hash.unigramVocabSize =
      unigramVocab.toNat := by
    change (UInt32.ofNat unigramVocab.toNat).toNat = _
    rw [UInt32.toNat_ofNat', Nat.mod_eq_of_lt (by omega)]
  have eos : (translated translation unigramVocab eosToken).hash.eosTokenId = eosToken.toNat := by
    change (UInt32.ofNat eosToken.toNat).toNat = _
    rw [UInt32.toNat_ofNat', Nat.mod_eq_of_lt (by omega)]
  have shaped : ¬ (dtypeBytes .fp8E4M3 = 0 ∨ UInt32.ofNat 1 = 0 ∨ UInt32.ofNat 160 = 0 ∨
      UInt32.ofNat 160 = 0 ∨ wordOf translation.expected = 0 ∨
      wordOf (paddedRows translation.parts) < wordOf translation.expected) := by
    simp only [not_or]
    exact ⟨by decide, by decide, by decide, by decide, usable, covered⟩
  unfold checkDimensions
  refine (if_neg shaped).trans ?_
  refine (if_neg (not_not.mpr (by decide : (UInt32.ofNat 160).toUInt64 *
    UInt64.ofNat (dtypeBytes .fp8E4M3) = (UInt32.ofNat 160).toUInt64))).trans ?_
  rw [if_neg (not_or.mpr ⟨files, parts⟩), if_neg]
  rw [vocab, eos]
  omega

omit scripted in
theorem validate_sorted {layout : Layout} {verifySourceFiles : Bool}
    {fileSize : String → Option Nat} (files : sortFiles layout.files = layout.files)
    (parts : sortParts layout.parts = layout.parts) :
    validateLayout layout verifySourceFiles fileSize =
      (do
        checkDimensions layout
        PleLayout.checkHeads layout (List.finRange 16) 0
        checkFiles verifySourceFiles fileSize layout.files 0
        checkParts layout layout.parts 0 0
        return layout) := by
  unfold validateLayout
  simp only [files, parts]

/-- Both tables of the layout are sorted already. -/
theorem translated_sorted (unigramVocab eosToken : Int) :
    sortFiles (translated translation unigramVocab eosToken).files =
      (translated translation unigramVocab eosToken).files ∧
    sortParts (translated translation unigramVocab eosToken).parts =
      (translated translation unigramVocab eosToken).parts := by
  have padded := padded_small scripted
  refine ⟨files_sorted (used_narrow scripted), ?_⟩
  apply List.Pairwise.insertionSort_eq
  exact records_sorted (fun tensor member => (part_rows scripted member).1) le_rfl (by omega)

theorem file_filed (loadable : Loadable translation.segments translation.parts) {tensor : Tensor}
    (member : tensor ∈ translation.parts) :
    Filed (fileSizes host) (fileOf translation tensor.segment) := by
  obtain ⟨path, file, found, size⟩ := scripted.consistent.sized _ (part_segment scripted member)
  obtain ⟨number, part⟩ := part_table scripted member
  have inside := part_inside scripted member
  have sized := part_sized scripted member
  have room := loadable.room tensor member
  have rows := loadable.rows tensor member
  have paid := payload_positive scripted tensor.segment
  have bytes := segment_word scripted member
  have large : 0 < (segmentAt translation.segments tensor.segment).size := by
    have counted := part.counted
    have ends := inside.ends
    have offset := inside.offset
    omega
  refine ⟨?_, ?_, ?_, ?_⟩
  · intro empty
    exact path (String.ofList_eq_empty_iff.mp empty)
  · intro none
    rw [none] at bytes
    change 0 = _ at bytes
    omega
  · exact (word_le paid sized.1 (by omega) (by omega)).mpr room
  · have named : (fileOf translation tensor.segment).path.toList =
        (segmentAt translation.segments tensor.segment).path := String.toList_ofList
    rw [fileSizes, named, found, bytes, size, Int.toNat_natCast]
    rfl

theorem translated_accepted {unigramVocab eosToken : Int} (positive : 0 ≤ eosToken)
    (below : eosToken < unigramVocab) (narrow : unigramVocab < 2 ^ 32)
    (loadable : Loadable translation.segments translation.parts) (verifySourceFiles : Bool) :
    validateLayout (translated translation unigramVocab eosToken) verifySourceFiles
      (fileSizes host) = .ok (translated translation unigramVocab eosToken) := by
  obtain ⟨files, parts⟩ := translated_sorted scripted unigramVocab eosToken
  have few := few_parts scripted
  have filed : checkFiles verifySourceFiles (fileSizes host)
      (translated translation unigramVocab eosToken).files 0 = .ok () := by
    apply files_accepted
    · intro file member
      obtain ⟨segment, used, rfl⟩ := List.mem_map.mp member
      obtain ⟨tensor, listed, rfl⟩ := used_part used
      exact file_filed scripted loadable listed
    · intro place inside
      have bound : place < (usedSegments translation.parts).length := by
        rwa [← List.length_map (fileOf translation)]
      have index : (translated translation unigramVocab eosToken).files[place].index =
          UInt32.ofNat place := by
        refine (congrArg PleFileV1.index (List.getElem_map (fileOf translation))).trans ?_
        exact congrArg UInt32.ofNat (file_index bound)
      have small := used_narrow scripted
      refine (congrArg UInt32.toNat index).trans ?_
      rw [UInt32.toNat_ofNat', Nat.mod_eq_of_lt (by omega), Nat.zero_add]
  have parted : checkParts (translated translation unigramVocab eosToken)
      (translated translation unigramVocab eosToken).parts 0 0 = .ok () :=
    parts_accepted scripted (fun _ member => member) loadable.rows (by omega) (zero_add _)
  rw [validate_sorted files parts, dimensions_accepted scripted positive below narrow,
    heads_accepted scripted]
  change (checkFiles _ _ _ 0 >>= _) = _
  rw [filed]
  change (checkParts _ _ 0 0 >>= _) = _
  rw [parted]
  rfl

omit scripted in
/-- A checked table has no item without a length. -/
theorem wrapping_positive {α : Type} {modulus first last : Nat} {start length : α → Nat}
    {items : List α} (wrapping : Wrapping modulus start length first items last) :
    ∀ item ∈ items, 0 < length item := by
  induction wrapping with
  | nil => simp
  | cons _ some_ _ ih =>
      rw [List.forall_mem_cons]
      exact ⟨some_, ih⟩

omit scripted in
theorem record_listed {parts rest : List Tensor} {logical : Nat} {rowStart : Int} {tensor : Tensor}
    (member : tensor ∈ rest) :
    ∃ number start, partRecord number (fileIndex parts tensor.segment) start tensor ∈
      partRecords parts rest logical rowStart := by
  induction rest generalizing logical rowStart with
  | nil => cases member
  | cons first rest ih =>
      rw [partRecords]
      rcases List.mem_cons.mp member with rfl | later
      · exact ⟨logical, rowStart, List.mem_cons_self⟩
      · obtain ⟨number, start, listed⟩ := ih later
        exact ⟨number, start, List.mem_cons_of_mem _ listed⟩

theorem validated_loadable {unigramVocab eosToken : Int} {verifySourceFiles : Bool}
    {fileSize : String → Option Nat} {layout : Layout}
    (words : ∀ segment ∈ usedSegments translation.parts,
      payloadOf translation.parts segment < 2 ^ 64)
    (checked : validateLayout (translated translation unigramVocab eosToken) verifySourceFiles
      fileSize = .ok layout) :
    Loadable translation.segments translation.parts := by
  obtain ⟨files, parts⟩ := translated_sorted scripted unigramVocab eosToken
  rw [validate_sorted files parts] at checked
  obtain ⟨_, _, checked⟩ := bind_ok checked
  obtain ⟨_, _, checked⟩ := bind_ok checked
  obtain ⟨_, filed, checked⟩ := bind_ok checked
  obtain ⟨_, parted, checked⟩ := bind_ok checked
  constructor
  · intro tensor member
    obtain ⟨number, start, listed⟩ := record_listed member
    have some_ := wrapping_positive (parts_wrapping parted).1 _ listed
    have rows := part_rows scripted member
    change 0 < (wordOf (rowsOf tensor)).toNat at some_
    rw [word_of_to_nat rows.1 (by omega)] at some_
    omega
  · intro tensor member
    have used := used_segment member
    have room := files_checked filed (fileOf translation tensor.segment) (List.mem_map_of_mem used)
    have sized := part_sized scripted member
    exact (word_le (payload_positive scripted _) sized.1 (words _ used) (by omega)).mp room

/-- The runtime accepts the document exactly when every part has rows and no segment is smaller
than the parts in it together; it is then read as the layout it was written from. -/
theorem document_accepted {unigramVocab eosToken : Int} (positive : 0 ≤ eosToken)
    (below : eosToken < unigramVocab) (narrow : unigramVocab < 2 ^ 32) {document : List Char}
    (written : layoutText translation unigramVocab eosToken = .ok document) (path : String)
    (verifySourceFiles : Bool) (layout : Layout) :
    loadPleLayout path (some document) verifySourceFiles (fileSizes host) = .ok layout ↔
      Loadable translation.segments translation.parts ∧
        layout = translated translation unigramVocab eosToken := by
  rw [document_loaded (readable scripted positive below narrow) written]
  constructor
  · intro loaded
    split at loaded
    · next words =>
        have loadable := validated_loadable scripted words loaded
        rw [translated_accepted scripted positive below narrow loadable] at loaded
        exact ⟨loadable, (Except.ok.inj loaded).symm⟩
    · cases loaded
  · rintro ⟨loadable, rfl⟩
    rw [if_pos, translated_accepted scripted positive below narrow loadable]
    intro segment used
    obtain ⟨tensor, member, rfl⟩ := used_part used
    have room := loadable.room tensor member
    have sized := part_sized scripted member
    omega

end Accepted

end Q38.PleAcceptance
