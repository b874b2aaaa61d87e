import Q38Runtime.PageTransparency
import Q38Runtime.PleAcceptance

/-! Where the runtime reads the rows and the scales of a layout that the script has written. The
scales of all parts are loaded when a store is made. -/
namespace Q38.PleRowAddresses
open Contracts Imperative IoUring PleStore PleLayout PleDeviceLayout PleLayoutReading
open PleTranslation PleAcceptance FixedCodec

section Scales
variable (setup : Setup)

/-- `scale_parts_` as the constructor fills it, one part after another. -/
def loadScales : List PlePartV1 → List (List UInt16) → StoreCall (List (List UInt16))
  | [], scaleParts => pure scaleParts
  | part :: rest, scaleParts => do
      let bytes ← preadAll setup "PLE row-scale read failed: " part.scaleFileIndex.toNat
        part.scaleBytes.toNat part.scaleFileOffset.toNat
      loadScales rest (scaleParts.set part.logicalPart.toNat
        (Codec.u16.decodeMany part.rows.toNat bytes))

def makeScales (layout : Layout) : StoreCall (List (List UInt16)) :=
  if layout.storageDtype = .fp8E4M3 then
    loadScales setup layout.parts (List.replicate layout.parts.length [])
  else pure []

def readRowScale (layout : PleLayoutV1) (scaleParts : List (List UInt16)) (globalRow : UInt64) :
    Except Fault UInt16 := do
  let part ← findPart layout globalRow
  let localRow := globalRow - part.globalRowStart
  return (scaleParts.getD part.logicalPart.toNat []).getD localRow.toNat 0

def readRowScalesInto (layout : Layout) (scaleParts : List (List UInt16))
    (globalRows : List UInt64) (outputScales : Nat) : Except Fault (List UInt16) :=
  if outputScales ≠ globalRows.length then .error (invalid "PLE scale output extent differs")
  else if layout.storageDtype ≠ .fp8E4M3 ∨ scaleParts.length ≠ layout.parts.length then
    .error (.thrown (.logicError "PLE row scales are unavailable"))
  else globalRows.mapM (readRowScale layout.toPleLayoutV1 scaleParts)

end Scales

section Addresses
variable {host : Host} {tables : Tables} {translation : Translation}

/-- The bytes of a regular file. -/
def content (file : RegularFile) : Bytes := (List.range file.size).map file.byte

/-- The files that the store opens for a layout, by their indices. -/
def opened (host : Host) (layout : PleLayoutV1) (index : Nat) : Bytes :=
  match layout.files.find? (·.index.toNat = index) with
  | none => []
  | some file => ((host.file file.path.toList).map content).getD []

/-- A row is the one behind `place` others of a tensor, whose segment is a file. -/
structure Owner (host : Host) (tables : Tables) (parts : List Tensor) (row : Nat) (tensor : Tensor)
    (place : Nat) (file : RegularFile) : Prop where
  owned : ∃ number, parts[number]? = some tensor ∧ paddedRows (parts.take number) + place = row
  inside : (place : Int) < rowsOf tensor
  stored : host.file (segmentAt tables.segments tensor.segment).path = some file

theorem records_total {parts rest : List Tensor} {logical : Nat} {rowStart : Int}
    (rows : ∀ tensor ∈ rest, 0 ≤ rowsOf tensor ∧ rowsOf tensor ≤ 2 ^ 56) :
    (((partRecords parts rest logical rowStart).map partRows).sum : Int) = paddedRows rest := by
  induction rest generalizing logical rowStart with
  | nil => rfl
  | cons tensor rest ih =>
      rw [List.forall_mem_cons] at rows
      have own : ((wordOf (rowsOf tensor)).toNat : Int) = rowsOf tensor := by
        rw [word_of_to_nat rows.1.1 (by omega), Int.toNat_of_nonneg rows.1.1]
      rw [partRecords, List.map_cons, List.sum_cons, Nat.cast_add, ih rows.2, paddedRows,
        paddedRows, List.map_cons, List.sum_cons]
      exact congrArg (· + _) own

variable (scripted : Scripted host tables translation)
include scripted

theorem heads_summed (unigramVocab eosToken : Int) : ((((List.finRange 16).map
    (headSize (translated translation unigramVocab eosToken))).sum : Nat) : Int) =
      translation.expected := by
  have sizes := scripted.translates.sizes.words
  obtain ⟨total, positive, -⟩ := expected_total scripted
  have values : ((List.finRange 16).map (headSize (translated translation unigramVocab
      eosToken))).map (fun size : Nat => (size : Int)) = translation.sizes := by
    apply List.ext_getElem
    · rw [List.length_map, List.length_map, List.length_finRange, sizes.length]
    · intro index _ inside
      have bounds := sizes.bounds _ (List.getElem_mem inside)
      have own := positive _ (List.getElem_mem inside)
      rw [List.getElem_map, List.getElem_map, List.getElem_finRange]
      change ((controls translation.sizes _).toNat : Int) = _
      rw [control_bits, BitVec.toNat_ofInt]
      change (((translation.sizes.getD index 0) % 2 ^ 64).toNat : Int) = _
      rw [List.getD_eq_getElem _ _ inside]
      omega
  rw [total, ← values, Nat.cast_list_sum]

theorem translated_fits (unigramVocab eosToken : Int) :
    Fits (translated translation unigramVocab eosToken) := by
  have padded := padded_small scripted
  have enough := scripted.translates.padded
  have heads := heads_summed scripted unigramVocab eosToken
  have rows : (((partRecords translation.parts translation.parts 0 0).map partRows).sum : Int) =
      paddedRows translation.parts := records_total fun tensor member => part_rows scripted member
  have small : ∀ part ∈ (translated translation unigramVocab eosToken).parts,
      partRows part ≤ 2 ^ 56 := by
    intro part member
    obtain ⟨index, tensor, place, rfl⟩ := record_tensor member
    have bounds := part_rows scripted (List.mem_of_getElem? place)
    change (wordOf (rowsOf tensor)).toNat ≤ 2 ^ 56
    rw [word_of_to_nat bounds.1 (by omega)]
    omega
  refine ⟨by omega, ?_, ?_, ?_⟩
  · change ((partRecords translation.parts translation.parts 0 0).map partRows).sum < 2 ^ 64
    omega
  · intro part member
    have bound := small part member
    have stride_ : stride (translated translation unigramVocab eosToken) = 160 := rfl
    rw [stride_]
    omega
  · intro _ part member
    have bound := small part member
    omega

/-- The part of a usable row, and the extent that is read for it. -/
structure Addressed (host : Host) (tables : Tables) (parts : List Tensor) (layout : PleLayoutV1)
    (row : UInt64) (tensor : Tensor) (place : Nat) (file : RegularFile) (part : PlePartV1) :
    Prop where
  owner : Owner host tables parts row.toNat tensor place file
  listed : part ∈ layout.parts
  found : findPart layout row = .ok part
  local_ : (row - part.globalRowStart).toNat = place
  extent : ∀ outputOffset, rowExtent layout row outputOffset = .ok ⟨part.fileIndex.toNat,
    tensor.offset.toNat + 160 * place, outputOffset, 160⟩
  opened : opened host layout part.fileIndex.toNat = content file
  within : tensor.offset.toNat + 160 * place + 160 ≤ file.size
  rows : place < part.rows.toNat
  scaleFile : part.scaleFileIndex = part.fileIndex
  scaleOffset : part.scaleFileOffset.toNat = tensor.scaleOffset.toNat
  scaleBytes : part.scaleBytes.toNat = 2 * part.rows.toNat

/-- A segment is opened under its index. -/
theorem segment_opened (unigramVocab eosToken : Int) {tensor : Tensor}
    (member : tensor ∈ translation.parts) : ∃ file : RegularFile,
      host.file (segmentAt tables.segments tensor.segment).path = some file ∧
      (segmentAt translation.segments tensor.segment).size = file.size ∧
      opened host (translated translation unigramVocab eosToken).toPleLayoutV1
        (UInt32.ofNat (fileIndex translation.parts tensor.segment)).toNat = content file := by
  obtain ⟨_, file, found, size⟩ := scripted.consistent.sized _ (part_segment scripted member)
  have used := used_segment member
  have place : fileIndex translation.parts tensor.segment <
      (usedSegments translation.parts).length := List.idxOf_lt_length_of_mem used
  have small := used_narrow scripted
  have word (index : Nat) (inside : index < (usedSegments translation.parts).length) :
      (UInt32.ofNat index).toNat = index := by
    rw [UInt32.toNat_ofNat', Nat.mod_eq_of_lt (by omega)]
  have first : ((usedSegments translation.parts).map (fileOf translation)).find?
      (fun file => file.index.toNat = (UInt32.ofNat (fileIndex translation.parts
        tensor.segment)).toNat) = some (fileOf translation tensor.segment) := by
    rw [List.find?_eq_some_iff_getElem]
    refine ⟨by simp [fileOf, fileRecord], fileIndex translation.parts tensor.segment, ?_, ?_, ?_⟩
    · rw [List.length_map]
      exact place
    · rw [List.getElem_map]
      exact congrArg (fileOf translation) (List.getElem_idxOf place)
    · intro other before
      have inside : other < (usedSegments translation.parts).length := before.trans place
      rw [List.getElem_map]
      change (!decide ((UInt32.ofNat (fileIndex translation.parts _)).toNat = _)) = true
      rw [file_index inside, word _ inside, word _ place, Bool.not_eq_true',
        decide_eq_false_iff_not]
      omega
  rw [scripted.translates.segments] at found
  refine ⟨file, found, size, ?_⟩
  have path : (fileOf translation tensor.segment).path.toList =
      (segmentAt tables.segments tensor.segment).path := by
    rw [← scripted.translates.segments]
    exact String.toList_ofList
  unfold opened
  change (match ((usedSegments translation.parts).map (fileOf translation)).find? _ with
    | none => _ | some file => _) = _
  rw [first]
  dsimp only
  rw [path, found]
  rfl

/-- Every usable row has an address in the segment of its tensor. -/
theorem row_addressed {unigramVocab eosToken : Int}
    (accepted : Accepted (translated translation unigramVocab eosToken)) {row : UInt64}
    (usable : row < (translated translation unigramVocab eosToken).usableRows) :
    ∃ tensor place file part,
      Addressed host tables translation.parts
        (translated translation unigramVocab eosToken).toPleLayoutV1 row tensor place file
        part := by
  have fits := translated_fits scripted unigramVocab eosToken
  obtain ⟨part, _, placed⟩ := row_placed accepted fits usable
  obtain ⟨number, tensor, owned, rfl⟩ := record_tensor placed.listed
  rw [Nat.zero_add, zero_add] at placed
  have member := List.mem_of_getElem? owned
  have inside := part_inside scripted member
  have sized := part_sized scripted member
  have rows := part_rows scripted member
  have padded := padded_small scripted
  have before := rows_positive (fun tensor member => (part_rows scripted member).1) number
  obtain ⟨file, stored, size, opened_⟩ := segment_opened scripted unigramVocab eosToken member
  have start : (wordOf (paddedRows (translation.parts.take number))).toNat =
      (paddedRows (translation.parts.take number)).toNat :=
    word_of_to_nat before.1 (by omega)
  have count : (wordOf (rowsOf tensor)).toNat = (rowsOf tensor).toNat :=
    word_of_to_nat rows.1 (by omega)
  have begins : (wordOf (paddedRows (translation.parts.take number))).toNat ≤ row.toNat :=
    placed.begins
  have ends : row.toNat < (wordOf (paddedRows (translation.parts.take number))).toNat +
      (wordOf (rowsOf tensor)).toNat := placed.ends
  have offset : (wordOf tensor.offset).toNat = tensor.offset.toNat :=
    word_of_to_nat inside.offset (by have := inside.count; have := inside.ends; omega)
  have table := scripted.translates.parts.each number tensor owned
  have counted := table.counted
  have scaled := table.scaled
  have offset_ := inside.offset
  have ends_ := inside.ends
  have scaleOffset := inside.scaleOffset
  have scalesEnd := inside.scalesEnd
  refine ⟨tensor, row.toNat - (paddedRows (translation.parts.take number)).toNat, file, _,
    ⟨⟨number, owned, by omega⟩, by omega, stored⟩, placed.listed, placed.found, ?_, ?_, opened_,
    by omega, ?_, rfl, ?_, ?_⟩
  · change (row - wordOf _).toNat = _
    rw [UInt64.toNat_sub_of_le _ _ (UInt64.le_iff_toNat_le.mpr begins), start]
  · intro outputOffset
    rw [placed.extent outputOffset]
    change Except.ok (PleReadExtentV1.mk _ ((wordOf tensor.offset).toNat +
      (row.toNat - (wordOf _).toNat) * 160) _ 160) = _
    rw [offset, start, Nat.mul_comm]
  · change _ < (wordOf (rowsOf tensor)).toNat
    omega
  · exact word_of_to_nat scaleOffset (by omega)
  · change (wordOf tensor.scaleCount).toNat = 2 * (wordOf (rowsOf tensor)).toNat
    rw [word_of_to_nat inside.scaleCount (by omega)]
    omega

end Addresses

section Rows
variable {host : Host} {tables : Tables} {parts : List Tensor} {setup : Setup}

theorem content_at {file : RegularFile} {place : Nat} (inside : place < (content file).length) :
    (content file)[place]? = some (file.byte place) := by
  rw [content, List.length_map, List.length_range] at inside
  rw [content, List.getElem?_map, List.getElem?_range inside]
  rfl

theorem row_extents_at {globalRows : List UInt64} {start : Nat} {extents : List PleReadExtentV1}
    (found : rowExtents setup.layout globalRows start = .ok extents) {index : Nat} {row : UInt64}
    (asked : globalRows[index]? = some row) :
    ∃ extent, extents[index]? = some extent ∧ rowExtent setup.layout row
      ((start + index) * setup.layout.rowStrideBytes.toNat) = .ok extent := by
  induction globalRows generalizing start extents index with
  | nil => cases asked
  | cons first rest ih =>
      rw [rowExtents] at found
      obtain ⟨extent, own, found⟩ := FallibleRuns.bind_ok found
      obtain ⟨later, more, found⟩ := FallibleRuns.bind_ok found
      cases found
      cases index with
      | zero =>
          cases asked
          exact ⟨extent, rfl, own⟩
      | succ index =>
          obtain ⟨other, place, extent_⟩ := ih more asked
          rw [Nat.add_right_comm] at extent_
          exact ⟨other, place, extent_⟩

/-- A call for addressed rows returns their bytes, whatever the page cache holds. -/
theorem rows_read (mounted : setup.provider.kernel.files = opened host setup.layout)
    (stride : setup.layout.rowStrideBytes = 160) {globalRows : List UInt64}
    (addressed : ∀ row ∈ globalRows, ∃ tensor place file part,
      Addressed host tables parts setup.layout row tensor place file part)
    {pageBytes exponent : Nat} (power : pageBytes = 2 ^ exponent) (large : 2 ^ 7 ≤ pageBytes)
    (small : pageBytes < 2 ^ 32) {store : Store} (clear : Clear store)
    (standing : Standing setup pageBytes store) (output : Bytes) :
    Ends (readRowsInto setup globalRows output output.length)
      (fun bytes _ => ∀ index row, globalRows[index]? = some row →
        ∃ tensor place file, Owner host tables parts row.toNat tensor place file ∧
          ∀ byte < 160, bytes[160 * index + byte]? =
            some (file.byte (tensor.offset.toNat + 160 * place + byte)))
      (fun _ _ => True) store := by
  unfold readRowsInto
  dsimp only
  rw [ends_bind, ends_ensure]
  refine ⟨fun _ => ?_, fun _ => trivial⟩
  rw [ends_bind, ends_ensure]
  refine ⟨fun _ => ?_, fun _ => trivial⟩
  rw [ends_bind, ends_settle]
  refine ⟨fun extents found => ?_, fun _ _ => trivial⟩
  have low : ∀ extent ∈ extents, extent.offset + extent.bytes ≤ 2 ^ 56 * pageBytes := by
    intro extent member
    obtain ⟨index, asked⟩ := List.mem_iff_getElem?.mp member
    obtain ⟨-, -, row, known, row_⟩ := (row_extents_shape found).2 index extent asked
    obtain ⟨tensor, place, file, part, address⟩ := addressed row known
    have within := address.within
    have size := host.file_small _ _ address.owner.stored
    rw [address.extent 0] at row_
    have offset := congrArg PleReadExtentV1.offset (Except.ok.inj row_)
    have bytes := congrArg PleReadExtentV1.bytes (Except.ok.inj row_)
    dsimp only at offset bytes
    omega
  apply (read_extents_ends power small clear standing rfl low (row_extents_aim found)).weaken _
    fun _ _ _ => trivial
  rintro bytes after ⟨-, -, answered, -⟩ index row asked
  obtain ⟨tensor, place, file, part, address⟩ := addressed row (List.mem_of_getElem? asked)
  refine ⟨tensor, place, file, address.owner, fun byte short => ?_⟩
  obtain ⟨extent, at_, own⟩ := row_extents_at found asked
  rw [address.extent, stride] at own
  cases own
  have member := List.mem_of_getElem? at_
  have right := answered.right _ member byte short
  have aim := row_extents_aim found _ member byte short
  have inside := answered.inFile _ member byte short
  dsimp only at right aim inside
  rw [mounted, address.opened] at aim inside
  have start : (0 + index) * (160 : UInt32).toNat + byte = 160 * index + byte := by
    change (0 + index) * 160 + byte = _
    omega
  rw [aim, content_at inside, start] at right
  exact right

end Rows

section Loading
variable {setup : Setup}

/-- The scales of a part are the words at its place in its file. -/
def Scaled (setup : Setup) (scaleParts : List (List UInt16)) (part : PlePartV1) : Prop :=
  ∃ bytes, scaleParts[part.logicalPart.toNat]? =
      some (Codec.u16.decodeMany part.rows.toNat bytes) ∧
    Mirrors bytes (setup.provider.kernel.files part.scaleFileIndex.toNat)
      part.scaleFileOffset.toNat part.scaleBytes.toNat

theorem load_scales_ends {done rest : List PlePartV1} {scaleParts : List (List UInt16)}
    {store : Store} (apart : ((done ++ rest).map fun part => part.logicalPart.toNat).Nodup)
    (inside : ∀ part ∈ rest, part.logicalPart.toNat < scaleParts.length)
    (scaled : ∀ part ∈ done, Scaled setup scaleParts part) :
    Ends (loadScales setup rest scaleParts)
      (fun after _ => after.length = scaleParts.length ∧
        ∀ part ∈ done ++ rest, Scaled setup after part)
      (fun _ _ => True) store := by
  induction rest generalizing done scaleParts store with
  | nil =>
      rw [List.append_nil]
      exact ⟨rfl, scaled⟩
  | cons part rest ih =>
      rw [List.forall_mem_cons] at inside
      rw [loadScales, ends_bind]
      apply (pread_all_ends _ _ _ _).weaken _ fun _ _ _ => trivial
      rintro bytes middle ⟨-, -, mirrors⟩
      have whole : done ++ part :: rest = (done ++ [part]) ++ rest := by simp
      rw [whole] at apart ⊢
      have length : (scaleParts.set part.logicalPart.toNat
          (Codec.u16.decodeMany part.rows.toNat bytes)).length = scaleParts.length :=
        List.length_set
      rw [← length]
      apply ih apart
      · rw [length]
        exact inside.2
      · intro other member
        rcases List.mem_append.mp member with before | last
        · obtain ⟨bytes_, found, mirrors_⟩ := scaled other before
          refine ⟨bytes_, ?_, mirrors_⟩
          have differs : part.logicalPart.toNat ≠ other.logicalPart.toNat := by
            rw [List.map_append, List.map_append] at apart
            have separate := (List.nodup_append.mp (List.nodup_append.mp apart).1).2.2
            exact (separate _ (List.mem_map_of_mem before) _ (by simp)).symm
          rw [List.getElem?_set_ne differs]
          exact found
        · obtain rfl := List.mem_singleton.mp last
          exact ⟨bytes, List.getElem?_set_self inside.1, mirrors⟩

theorem row_scale {host : Host} {tables : Tables} {parts : List Tensor} {row : UInt64}
    {tensor : Tensor} {place : Nat} {file : RegularFile} {part : PlePartV1}
    {scaleParts : List (List UInt16)}
    (mounted : setup.provider.kernel.files = opened host setup.layout)
    (address : Addressed host tables parts setup.layout row tensor place file part)
    (scaled : Scaled setup scaleParts part) :
    readRowScale setup.layout scaleParts row = .ok (Codec.u16.decode
      [file.byte (tensor.scaleOffset.toNat + 2 * place),
        file.byte (tensor.scaleOffset.toNat + 2 * place + 1)]) := by
  obtain ⟨bytes, found, mirrors⟩ := scaled
  rw [mounted, address.scaleFile, address.opened, address.scaleOffset, address.scaleBytes]
    at mirrors
  have rows := address.rows
  have byte (index : Nat) (inside : index < 2 * part.rows.toNat) :
      bytes[index]? = some (file.byte (tensor.scaleOffset.toNat + index)) := by
    obtain ⟨short, same⟩ := mirrors index inside
    rw [same, content_at short]
  have first := byte (2 * place) (by omega)
  have second := byte (2 * place + 1) (by omega)
  rw [← Nat.add_assoc] at second
  have pair : bytes.drop (2 * place) = file.byte (tensor.scaleOffset.toNat + 2 * place) ::
      file.byte (tensor.scaleOffset.toNat + 2 * place + 1) :: bytes.drop (2 * place + 2) := by
    obtain ⟨inside, here⟩ := List.getElem?_eq_some_iff.mp first
    obtain ⟨inside_, there⟩ := List.getElem?_eq_some_iff.mp second
    rw [List.drop_eq_getElem_cons inside, here, List.drop_eq_getElem_cons inside_, there]
  have decoded := Codec.decode_many_at Codec.u16 rows bytes
  have size : Codec.u16.size = 2 := rfl
  rw [size, pair] at decoded
  unfold readRowScale
  rw [address.found]
  change Except.ok ((scaleParts.getD part.logicalPart.toNat []).getD
    (row - part.globalRowStart).toNat 0) = _
  have own : scaleParts.getD part.logicalPart.toNat [] =
      Codec.u16.decodeMany part.rows.toNat bytes := by
    rw [List.getD_eq_getElem?_getD, found]
    rfl
  rw [address.local_, own, List.getD_eq_getElem?_getD, decoded]
  rfl

end Loading

section Preserved
variable {host : Host} {tables : Tables} {translation : Translation}

theorem logical_parts {parts rest : List Tensor} {logical : Nat} {rowStart : Int}
    (narrow : logical + rest.length ≤ 2 ^ 32) :
    (partRecords parts rest logical rowStart).map (fun part => part.logicalPart.toNat) =
      List.range' logical rest.length := by
  induction rest generalizing logical rowStart with
  | nil => rfl
  | cons tensor rest ih =>
      rw [List.length_cons] at narrow
      have own : (UInt32.ofNat logical).toNat = logical := by
        rw [UInt32.toNat_ofNat', Nat.mod_eq_of_lt (by omega)]
      rw [partRecords, List.map_cons, ih (by omega), List.length_cons, List.range'_succ]
      exact congrArg (· :: _) own

/-- The numbers of the control tensors are those of the hash, the sign of a multiplier aside. -/
structure Controlled (host : Host) (tables : Tables) (hash : PleHash.PleHashConfig) : Prop where
  multipliers : ∃ values, Control host tables "blk.1.ple.layer_multipliers" 3 values ∧
    ∀ index : Fin 3, hash.multipliers index = BitVec.ofInt 64 (values.getD index 0)
  sizes : ∃ values, Control host tables "blk.1.ple.head_vocab_sizes" 16 values ∧
    ∀ head : Fin 16, ((hash.headVocabSizes head).toNat : Int) = values.getD head 0
  offsets : ∃ values, Control host tables "blk.1.ple.head_offsets" 16 values ∧
    ∀ head : Fin 16, ((hash.headOffsets head).toNat : Int) = values.getD head 0

/-- What a store over the files of a layout reads for its usable rows. The page cache is a sound
one, or there is none. -/
structure Reads (host : Host) (tables : Tables) (parts : List Tensor) (layout : Layout)
    (setup : Setup) : Prop where
  rows : ∀ globalRows : List UInt64, (∀ row ∈ globalRows, row < layout.usableRows) →
    ∀ pageBytes exponent, pageBytes = 2 ^ exponent → 2 ^ 7 ≤ pageBytes → pageBytes < 2 ^ 32 →
      ∀ store, Clear store → Standing setup pageBytes store → ∀ output : Bytes,
        Ends (readRowsInto setup globalRows output output.length)
          (fun bytes _ => ∀ (index : Nat) (row : UInt64), globalRows[index]? = some row →
            ∃ tensor place file, Owner host tables parts row.toNat tensor place file ∧
              ∀ byte < 160, bytes[160 * index + byte]? =
                some (file.byte (tensor.offset.toNat + 160 * place + byte)))
          (fun _ _ => True) store
  scales : ∀ store, Ends (makeScales setup layout)
    (fun scaleParts _ => ∀ globalRows : List UInt64,
      (∀ row ∈ globalRows, row < layout.usableRows) → ∃ values,
        readRowScalesInto layout scaleParts globalRows globalRows.length = .ok values ∧
        ∀ (index : Nat) (row : UInt64), globalRows[index]? = some row →
          ∃ tensor place file, Owner host tables parts row.toNat tensor place file ∧
            values[index]? = some (Codec.u16.decode
              [file.byte (tensor.scaleOffset.toNat + 2 * place),
                file.byte (tensor.scaleOffset.toNat + 2 * place + 1)]))
    (fun _ _ => True) store

variable (scripted : Scripted host tables translation)
include scripted

theorem translated_controlled (unigramVocab eosToken : Int) :
    Controlled host tables (translated translation unigramVocab eosToken).hash := by
  have translates := scripted.translates
  obtain ⟨-, positive, begins⟩ := expected_total scripted
  have word (values : List Int) (words : Words 16 values) (least : ∀ value ∈ values, 0 ≤ value)
      (head : Fin 16) : (((controls values head : BitVec 64).toNat : Nat) : Int) =
        values.getD head 0 := by
    have inside : head.val < values.length := head.isLt.trans_eq words.length.symm
    have bounds := words.bounds _ (List.getElem_mem inside)
    have first := least _ (List.getElem_mem inside)
    rw [control_bits, BitVec.toNat_ofInt, List.getD_eq_getElem _ _ inside]
    omega
  exact ⟨⟨_, translates.multipliers, control_bits _⟩,
    ⟨_, translates.sizes, word _ translates.sizes.words fun size member =>
      (positive size member).le⟩,
    ⟨_, translates.offsets, word _ translates.offsets.words begins⟩⟩

theorem translated_reads {unigramVocab eosToken : Int}
    (accepted : Accepted (translated translation unigramVocab eosToken)) {setup : Setup}
    (same : setup.layout = (translated translation unigramVocab eosToken).toPleLayoutV1)
    (mounted : setup.provider.kernel.files = opened host setup.layout) :
    Reads host tables translation.parts (translated translation unigramVocab eosToken) setup := by
  have few := few_parts scripted
  have addressed {row : UInt64}
      (usable : row < (translated translation unigramVocab eosToken).usableRows) :
      ∃ tensor place file part,
        Addressed host tables translation.parts setup.layout row tensor place file part := by
    rw [same]
    exact row_addressed scripted accepted usable
  constructor
  · intro globalRows usable pageBytes exponent power large small store clear standing output
    have stride : setup.layout.rowStrideBytes = 160 := by rw [same]; rfl
    exact rows_read mounted stride (fun row member => addressed (usable row member)) power large
      small clear standing output
  · intro store
    have dtype : (translated translation unigramVocab eosToken).storageDtype = .fp8E4M3 := rfl
    have numbers : (translated translation unigramVocab eosToken).parts.map
        (fun part => part.logicalPart.toNat) = List.range' 0 translation.parts.length :=
      logical_parts (by omega)
    have count : (translated translation unigramVocab eosToken).parts.length =
        translation.parts.length := by
      have lengths := congrArg List.length numbers
      rwa [List.length_map, List.length_range'] at lengths
    have apart : (([] ++ (translated translation unigramVocab eosToken).parts).map
        fun part : PlePartV1 => part.logicalPart.toNat).Nodup := by
      rw [List.nil_append, numbers]
      exact List.nodup_range'
    have inside : ∀ part ∈ (translated translation unigramVocab eosToken).parts,
        part.logicalPart.toNat < (List.replicate (translated translation unigramVocab
          eosToken).parts.length ([] : List UInt16)).length := by
      intro part member
      have listed :=
        List.mem_map_of_mem (f := fun part : PlePartV1 => part.logicalPart.toNat) member
      rw [numbers, List.mem_range'_1] at listed
      rw [List.length_replicate, count]
      omega
    rw [makeScales, if_pos dtype]
    apply (load_scales_ends apart inside (by simp)).weaken _ fun _ _ thrown => thrown
    rintro scaleParts after ⟨length, scaled⟩ globalRows usable
    have each : ∀ row ∈ globalRows, ∃ value,
        readRowScale setup.layout scaleParts row = .ok value ∧
          ∃ tensor place file, Owner host tables translation.parts row.toNat tensor place file ∧
            value = Codec.u16.decode [file.byte (tensor.scaleOffset.toNat + 2 * place),
              file.byte (tensor.scaleOffset.toNat + 2 * place + 1)] := by
      intro row member
      obtain ⟨tensor, place, file, part, address⟩ := addressed (usable row member)
      have listed := address.listed
      rw [same] at listed
      exact ⟨_, row_scale mounted address (scaled part listed), tensor, place, file,
        address.owner, rfl⟩
    obtain ⟨values, ran, at_⟩ := FallibleRuns.map_each each
    refine ⟨values, ?_, ?_⟩
    · rw [List.length_replicate] at length
      rw [readRowScalesInto, if_neg (not_not.mpr rfl), if_neg, ← same]
      · exact ran
      · exact not_or.mpr ⟨not_not.mpr dtype, not_not.mpr length⟩
    · intro index row asked
      obtain ⟨value, place_, tensor, place, file, owner, rfl⟩ := at_ index row asked
      exact ⟨tensor, place, file, owner, place_⟩

end Preserved

end Q38.PleRowAddresses
