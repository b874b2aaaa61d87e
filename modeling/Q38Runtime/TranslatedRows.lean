import Q38Runtime.FinalizedIndex
import Q38Runtime.PleRowAddresses

/-! From the index of the first stage over the layout document to the bytes that the runtime reads
for a row. -/
namespace Q38.TranslatedRows
open Contracts PleStore PleLayout PleDeviceLayout PleLayoutReading PleTranslation PleAcceptance
open PleRowAddresses
open TensorLedger (decimalText joined)

/-- A finalized index whose translation is accepted keeps the addresses of its rows and scales. The
runtime accepts the translation exactly when every part of the table has rows and no segment is
smaller than the parts in it together. -/
theorem rows_translated {host : Host} {tables : Tables} {text document : List Char}
    {unigramVocab eosToken : Int} (read : parseIndex host text = .ok tables)
    (finalized : Finalized host tables) (plain : Plain tables) (positive : 0 ≤ eosToken)
    (below : eosToken < unigramVocab) (narrow : unigramVocab < 2 ^ 32)
    (compiled : compileLayout host text unigramVocab eosToken = .ok document) (path : String)
    (verifySourceFiles : Bool) :
    ∃ parts, Parts host tables.tensors parts ∧
      ((∃ layout, loadPleLayout path (some document) verifySourceFiles (fileSizes host) =
        .ok layout) ↔ Loadable tables.segments parts) ∧
      ∀ layout, loadPleLayout path (some document) verifySourceFiles (fileSizes host) =
          .ok layout →
        Controlled host tables layout.hash ∧
        (∀ row < layout.usableRows, ∃ tensor place file part,
          Addressed host tables parts layout.toPleLayoutV1 row tensor place file part) ∧
        ∀ setup : Setup, setup.layout = layout.toPleLayoutV1 →
          setup.provider.kernel.files = opened host setup.layout →
            Reads host tables parts layout setup := by
  unfold compileLayout at compiled
  obtain ⟨tables, again, compiled⟩ := FallibleRuns.bind_ok compiled
  obtain rfl := Except.ok.inj (read.symm.trans again)
  obtain ⟨translation, made, written⟩ := FallibleRuns.bind_ok compiled
  have translates := translate_ok made
  have scripted : Scripted host tables translation :=
    ⟨index_consistent read, finalized, plain, translates⟩
  have loaded (layout : Layout) :=
    document_accepted scripted positive below narrow written path verifySourceFiles layout
  refine ⟨translation.parts, translates.parts, ?_, fun layout accepted => ?_⟩
  · rw [← translates.segments]
    constructor
    · rintro ⟨layout, accepted⟩
      exact ((loaded layout).mp accepted).1
    · intro loadable
      exact ⟨_, (loaded _).mpr ⟨loadable, rfl⟩⟩
  · have checked := load_accepted accepted
    obtain ⟨-, rfl⟩ := (loaded layout).mp accepted
    exact ⟨translated_controlled scripted unigramVocab eosToken,
      fun row usable => row_addressed scripted checked usable,
      fun setup same mounted => translated_reads scripted checked same mounted⟩

section Samples
open ArtifactPreparation (Bytes Extents Name Record Fragment)
open StageFinalizing FinalizedIndex

/-- Three multipliers, and sixteen heads of one row each. -/
def sampleControls : Bytes :=
  ([3, 5, 7] ++ List.replicate 16 1 ++ List.range 16).flatMap (FixedCodec.toBytes 8)

/-- Behind the control tensors there is room for sixteen rows with their scales. -/
def sampleContent : Bytes := sampleControls ++ List.replicate 2592 0

theorem sample_length : sampleContent.length = 2872 := by
  have controls : sampleControls.length = 280 := by decide +kernel
  rw [sampleContent, List.length_append, controls, List.length_replicate]

def sampleHost : Host where
  int text := if text ≠ [] ∧ text.all Char.isDigit = true
    then some (text.foldl (fun parsed digit => 10 * parsed + (digit.toNat - 48)) 0 : Nat) else none
  decimal letter := if letter.isDigit then some (letter.toNat - 48) else none
  resolve path := "/stage0/".toList ++ path
  file path := if path = "/stage0/segments/a.q38w".toList
    then some ⟨2872, fun place => sampleControls.getD place 0⟩ else none
  resolve_some _ := by simp
  file_small path found stored := by
    split at stored
    · cases stored
      decide
    · cases stored

/-- The digests of the segment and, for any other text, of the index body. -/
def sampleHasher : Hasher where
  sha256 bytes := if bytes = sampleContent
    then "3ee4570b3b707a735a046d021ed86b0c896acadecb7f24ab2b6f968619b9dc41".toList
    else "d141b81e745c1de5cd49744721f1a80cb506123bd8a196e97e744437b038b415".toList
  sha256_hex bytes := by
    split <;> simp [DeviceArtifact.isHex, DeviceArtifact.isHexDigit]

def controlRecord (name : Name) (words offset : Nat) : Record :=
  ⟨name, name, "I64".toList, [words], .preserve, 0,
    { dataOffset := offset, dataBytes := 8 * words }⟩

/-- The record of a part, with its scales behind its rows. -/
def rowsRecord (part rows offset : Nat) : Record :=
  ⟨tableName part, tableName part, "BF16".toList, [rows, 160], .fp8, 0,
    { dataOffset := offset
      dataBytes := rows * 160
      scaleOffset := offset + rows * 160
      scaleBytes := rows * 2 }⟩

def sampleFragment (tensors : List Record) : Fragment where
  sourceRepo := ArtifactPreparation.pinnedRepo
  sourceCommit := ArtifactPreparation.pinnedCommit
  sourceShard := "a.safetensors".toList
  sourceSha256 := ""
  policySha256 := ""
  stage := 0
  cut := 2
  segment := "a.q38w".toList
  segmentBytes := 2872
  segmentSha256 := "3ee4570b3b707a735a046d021ed86b0c896acadecb7f24ab2b6f968619b9dc41"
  tensors := tensors

def sampleRoot (tensors : List Record) : StageRoot where
  text := "/stage0".toList
  fragments := [("/stage0/segments/a.q38.json".toList, sampleFragment tensors)]
  segment name := if name = "a.q38w".toList then some sampleContent else none

theorem segment_name : ArtifactPreparation.pathName "a.q38w".toList = "a.q38w".toList := by
  simp [ArtifactPreparation.pathName, List.rtakeWhile]

theorem sample_hosts (tensors : List Record) : Hosts sampleHost (sampleRoot tensors) := by
  constructor
  · intro value
    have digits : (decimalText value).all Char.isDigit = true :=
      List.all_eq_true.mpr fun _ member => TextFields.decimal_digit member
    have worth := TextFields.decimal_worth value
    change (if decimalText value ≠ [] ∧ (decimalText value).all Char.isDigit = true
      then some _ else none) = _
    rw [if_pos ⟨TextFields.decimal_some value, digits⟩, worth]
  · intro name content stored
    change (if name = "a.q38w".toList then some sampleContent else none) = _ at stored
    split at stored
    · next same =>
        cases stored
        rw [same]
        have path : sampleHost.resolve ("segments/".toList ++
            ArtifactPreparation.pathName "a.q38w".toList) = "/stage0/segments/a.q38w".toList := by
          change "/stage0/".toList ++ ("segments/".toList ++
            ArtifactPreparation.pathName "a.q38w".toList) = _
          rw [segment_name]
          simp
        refine ⟨⟨2872, fun place => sampleControls.getD place 0⟩, ?_, sample_length.symm⟩
        rw [path]
        dsimp only [sampleHost]
        rw [if_pos rfl]
    · cases stored

/-- Records whose texts are short and whose extents are in the segment. -/
structure Sampled (tensors : List Record) : Prop where
  texts : ∀ record ∈ tensors, record.sourceName = record.name ∧
    (record.sourceDtype = "I64".toList ∨ record.sourceDtype = "BF16".toList) ∧
    record.extents.dataSha256 = "" ∧ record.extents.scaleSha256 = none ∧ record.shape ≠ []
  inside : ∀ record ∈ tensors, record.extents.dataOffset + record.extents.dataBytes ≤ 2872 ∧
    record.extents.scaleOffset + record.extents.scaleBytes ≤ 2872
  apart : (tensors.map Record.name).Nodup
  named : ∀ record ∈ tensors, record.name ∈ stageTensorNames 0 2

theorem suffixed_letters {start name : Name} {suffixes : List String} (begins : start.all isName)
    (ends : suffixes.all fun suffix => suffix.toList.all isName)
    (member : name ∈ suffixed start suffixes) : name.all isName := by
  obtain ⟨suffix, listed, rfl⟩ := List.mem_map.mp member
  rw [List.all_append, begins, List.all_eq_true.mp ends suffix listed]
  rfl

theorem digit_letter {digit : Nat} (below : digit < 10) : isName (Nat.digitChar digit) := by
  have each : ∀ digit < 10, isName (Nat.digitChar digit) := by decide
  exact each digit below

theorem table_letters {part : Nat} (small : part < 128) : (tableName part).all isName := by
  have hundreds := digit_letter (by omega : part / 100 < 10)
  have tens := digit_letter (Nat.mod_lt (part / 10) (by decide : 0 < 10))
  have ones := digit_letter (Nat.mod_lt part (by decide : 0 < 10))
  have begins : "ple.table.part.".toList.all isName := by simp [isName]
  unfold tableName
  rw [List.all_append, Bool.and_eq_true]
  refine ⟨begins, ?_⟩
  rw [List.all_cons, List.all_cons, List.all_cons, hundreds, tens, ones]
  rfl

theorem layer_letters {layer : Nat} {name : Name} (digits : (decimalText layer).all isName)
    (member : name ∈ layerNames layer) : name.all isName := by
  have start : ("blk.".toList ++ decimalText layer ++ ['.']).all isName := by
    simp [isName, digits]
  have attn : ("blk.".toList ++ decimalText layer ++ ['.'] ++ "hc_attn.".toList).all isName := by
    simp [isName, digits]
  have ffn : ("blk.".toList ++ decimalText layer ++ ['.'] ++ "hc_ffn.".toList).all isName := by
    simp [isName, digits]
  unfold layerNames at member
  simp only [List.mem_append] at member
  rcases member with (((first | second) | experts) | attention) | last
  · exact suffixed_letters attn (by simp [hyper, isName]) first
  · exact suffixed_letters ffn (by simp [hyper, isName]) second
  · exact suffixed_letters start (by simp [moe, isName]) experts
  · split at attention
    · exact suffixed_letters start (by simp [qsa, isName]) attention
    · exact suffixed_letters start (by simp [gdn, isName]) attention
  · split at last
    · rcases List.mem_append.mp last with tensor | table
      · exact suffixed_letters start (by simp [pleTensors, isName]) tensor
      · obtain ⟨part, small, rfl⟩ := List.mem_map.mp table
        exact table_letters (List.mem_range.mp small)
    · cases last

theorem names_shown {name : Name} (member : name ∈ stageTensorNames 0 2) : Shown name := by
  apply name_shown
  rcases List.mem_cons.mp member with rfl | member
  · simp [isName]
  · rcases List.mem_append.mp member with layers | mtp
    · obtain ⟨layer, chosen, own⟩ := List.mem_flatMap.mp layers
      have first : layer < 2 := by
        have below := (List.mem_filter.mp chosen).2
        simp only [if_true, decide_eq_true_eq] at below
        omega
      have digits : ∀ layer < 2, (decimalText layer).all isName := by decide
      exact layer_letters (digits layer first) own
    · cases mtp

theorem Sampled.shown {tensors : List Record} (sampled : Sampled tensors) :
    ∀ record ∈ tensors, Shown record.name ∧ Shown record.sourceName ∧ Shown record.sourceDtype ∧
      Shown record.extents.dataSha256.toList ∧ Shown (scaleText record.extents.scaleSha256) ∧
      record.shape ≠ [] := by
  intro record member
  obtain ⟨source, dtype, data, scale, some_⟩ := sampled.texts record member
  have name := names_shown (sampled.named record member)
  rw [source, data, scale]
  refine ⟨name, name, ?_, name_shown (by simp), by decide, some_⟩
  rcases dtype with words | floats
  · rw [words]
    exact name_shown (by simp [isName])
  · rw [floats]
    exact name_shown (by simp [isName])

def sampleFinalizing (tensors : List Record) : Finalizing :=
  collected sampleHasher (sampleFragment tensors) sampleContent

def sampleIndex (tensors : List Record) : List Char :=
  joined ['\n'] (indexLines sampleHasher (identityOf (sampleFragment tensors))
    (sampleFinalizing tensors)) ++ ['\n']

theorem sample_read {tensors : List Record} (sampled : Sampled tensors) :
    parseIndex sampleHost (sampleIndex tensors) =
      .ok (tablesOf sampleHost (sampleFinalizing tensors)) ∧
    Finalized sampleHost (tablesOf sampleHost (sampleFinalizing tensors)) ∧
    Plain (tablesOf sampleHost (sampleFinalizing tensors)) := by
  have printable : Printable (sampleRoot tensors) := by
    refine ⟨?_, ?_, ?_⟩ <;> intro found member <;> obtain rfl := List.mem_singleton.mp member
    · exact ⟨name_shown (by simp [ArtifactPreparation.pinnedRepo, isName] :
          ArtifactPreparation.pinnedRepo.toList.all isName = true),
        name_shown (by simp [ArtifactPreparation.pinnedCommit, isName] :
          ArtifactPreparation.pinnedCommit.toList.all isName = true),
        name_shown (by simp : "".toList.all isName = true)⟩
    · change Shown (ArtifactPreparation.pathName "a.q38w".toList)
      rw [segment_name]
      exact name_shown (by simp [isName])
    · exact sampled.shown
  have stored : (sampleRoot tensors).segment (sampleFragment tensors).segment =
      some sampleContent := rfl
  have inside : ∀ record ∈ (sampleFragment tensors).tensors,
      record.extents.dataOffset + record.extents.dataBytes ≤ sampleContent.length ∧
      record.extents.scaleOffset + record.extents.scaleBytes ≤ sampleContent.length := by
    rw [sample_length]
    exact sampled.inside
  have checked : Checked sampleHasher (sampleRoot tensors) (sampleFinalizing tensors) :=
    collected_checked rfl stored inside sampled.apart
  have written : Written sampleHasher (sampleRoot tensors) (identityOf (sampleFragment tensors))
      (sampleFinalizing tensors) := by
    refine ⟨⟨_, List.mem_cons_self, rfl⟩, checked, fun item member => ?_⟩
    obtain ⟨record, own, rfl⟩ := List.mem_map.mp member
    exact sampled.named record own
  refine ⟨index_read (sample_hosts tensors) printable written,
    ⟨tables_inside checked, tables_few written⟩, ?_⟩
  intro segment member
  obtain rfl := List.mem_singleton.mp member
  change '\t' ∉ "/stage0/".toList ++ ("segments/".toList ++
    ArtifactPreparation.pathName "a.q38w".toList) ∧ '\n' ∉ "/stage0/".toList ++
      ("segments/".toList ++ ArtifactPreparation.pathName "a.q38w".toList)
  rw [segment_name]
  simp

theorem table_numbered {part : Nat} (small : part < 128) :
    partNumber sampleHost (tableName part) = some part := by
  have digits : ∀ digit < 10, sampleHost.decimal (Nat.digitChar digit) = some digit := by
    decide
  have prefixed : "ple.table.part.".toList.isPrefixOf (tableName part) = true :=
    List.isPrefixOf_iff_prefix.mpr (List.prefix_append _ _)
  have behind : (tableName part).drop 15 = [Nat.digitChar (part / 100),
      Nat.digitChar (part / 10 % 10), Nat.digitChar (part % 10)] :=
    List.drop_left' (by simp)
  unfold partNumber
  rw [if_pos prefixed, behind]
  dsimp only
  rw [digits _ (by omega), digits _ (by omega), digits _ (by omega)]
  change some (100 * (part / 100) + 10 * (part / 10 % 10) + part % 10) = some part
  congr 1
  omega

theorem table_heads (part : Nat) : (tableName part).head? = some 'p' := by
  have begins : "ple.table.part.".toList.head? = some 'p' := by simp
  unfold tableName
  rw [List.head?_append, begins]
  rfl

theorem named_listed {tensors : List Tensor} {tensor : Tensor} {name : String}
    (listed : tensor ∈ tensors) (apart : (tensors.map Tensor.name).Nodup)
    (same : tensor.name = name.toList) : named tensors name = .ok tensor := by
  unfold named
  cases found : tensors.find? fun tensor => tensor.name = name.toList with
  | none =>
      have differs := List.find?_eq_none.mp found tensor listed
      rw [same] at differs
      exact absurd (decide_eq_true rfl) differs
  | some other =>
      have named_ : other.name = name.toList := by simpa using List.find?_some found
      rw [List.inj_on_of_nodup_map apart (List.mem_of_find?_eq_some found) listed
        (named_.trans same.symm)]

theorem sample_perm (tensors : List Record) :
    (tablesOf sampleHost (sampleFinalizing tensors)).tensors.Perm
      (tensors.map fun record => tensorOf (0, record)) := by
  have perm := (sorted_perm (sampleFinalizing tensors)).map tensorOf
  have records : (sampleFinalizing tensors).records = tensors.map fun record => (0, record) := rfl
  rw [records, List.map_map] at perm
  exact perm

theorem sample_segments (tensors : List Record) :
    (tablesOf sampleHost (sampleFinalizing tensors)).segments =
      [⟨"/stage0/segments/a.q38w".toList, 2872⟩] := by
  change [(⟨"/stage0/".toList ++ ("segments/".toList ++
    ArtifactPreparation.pathName "a.q38w".toList), ((sampleContent.length : Nat) : Int)⟩ :
      PleDeviceLayout.Segment)] = _
  rw [segment_name, sample_length]
  simp

theorem table_tensor {part : Nat} (small : part < 128) (rows offset : Nat) :
    tablePart sampleHost (tensorOf (0, rowsRecord part rows offset)) =
      .ok (some (part, tensorOf (0, rowsRecord part rows offset))) := by
  have numbered : partNumber sampleHost (tensorOf (0, rowsRecord part rows offset)).name =
      some part := table_numbered small
  unfold tablePart
  rw [numbered]
  have format : (tensorOf (0, rowsRecord part rows offset)).format = "fp8_e4m3fn".toList := rfl
  have shape : (tensorOf (0, rowsRecord part rows offset)).shape = [(rows : Int), 160] := rfl
  have count : (tensorOf (0, rowsRecord part rows offset)).count = (rows * 160 : Nat) := rfl
  have scales : (tensorOf (0, rowsRecord part rows offset)).scaleCount = (rows * 2 : Nat) := rfl
  apply if_neg
  rw [format, rowsOf, shape, count, scales]
  simp

/-- The control tensors of the samples. -/
def controlRecords : List Record :=
  [controlRecord "blk.1.ple.layer_multipliers".toList 3 0,
    controlRecord "blk.1.ple.head_vocab_sizes".toList 16 24,
    controlRecord "blk.1.ple.head_offsets".toList 16 152]

/-- The control tensors, as they are read from the segment. -/
theorem sample_controls :
    readI64 sampleHost [⟨"/stage0/segments/a.q38w".toList, 2872⟩] (tensorOf (0,
      controlRecord "blk.1.ple.layer_multipliers".toList 3 0)) 3 = .ok [3, 5, 7] ∧
    readI64 sampleHost [⟨"/stage0/segments/a.q38w".toList, 2872⟩] (tensorOf (0,
      controlRecord "blk.1.ple.head_vocab_sizes".toList 16 24)) 16 =
        .ok (List.replicate 16 1) ∧
    readI64 sampleHost [⟨"/stage0/segments/a.q38w".toList, 2872⟩] (tensorOf (0,
      controlRecord "blk.1.ple.head_offsets".toList 16 152)) 16 =
        .ok ((List.range 16).map fun head : Nat => (head : Int)) ∧
    checkHeads ((List.replicate 16 1).zip ((List.range 16).map fun head : Nat => (head : Int))) 0 =
      .ok 16 := by
  decide +kernel

/-- The names that are no parts come first. -/
def otherNames : List Name := (stageTensorNames 0 2).take 58

/-- Names as numbers, which are compared faster. -/
def nameCode (name : Name) : Nat :=
  name.foldl (fun code letter => 2 ^ 21 * code + letter.toNat) 0

/-- What is seen of the names in their order. -/
theorem stage_names_seen : (stageTensorNames 0 2).drop 58 = (List.range 128).map tableName ∧
    (otherNames.map nameCode).Nodup ∧ (otherNames.all fun name => name.head? ≠ some 'p') = true ∧
    (controlRecords.all fun record => record.name ∈ otherNames) = true := by
  decide +kernel

theorem stage_names : stageTensorNames 0 2 = otherNames ++ (List.range 128).map tableName := by
  rw [← stage_names_seen.1, otherNames, List.take_append_drop]

theorem control_listed {record : Record} (member : record ∈ controlRecords) :
    record.name ∈ otherNames :=
  of_decide_eq_true (List.all_eq_true.mp stage_names_seen.2.2.2 record member)

theorem table_listed {part : Nat} (small : part < 128) : tableName part ∈ stageTensorNames 0 2 := by
  rw [stage_names]
  exact List.mem_append_right _ (List.mem_map_of_mem (List.mem_range.mpr small))

theorem other_heads {name : Name} (member : name ∈ otherNames) : name.head? ≠ some 'p' :=
  of_decide_eq_true (List.all_eq_true.mp stage_names_seen.2.2.1 name member)

theorem other_number {name : Name} (member : name ∈ otherNames) :
    partNumber sampleHost name = none := by
  unfold partNumber
  apply if_neg
  intro prefixed
  obtain ⟨rest, shape⟩ := List.isPrefixOf_iff_prefix.mp prefixed
  apply other_heads member
  rw [← shape]
  simp

/-- The first parts of the table, with their rows and where they begin. -/
def rowsTables (count : Nat) (rows offset : Nat → Nat) : List Record :=
  (List.range count).map fun part => rowsRecord part (rows part) (offset part)

/-- No record of these is a part. -/
def Numberless (records : List Record) : Prop :=
  ∀ record ∈ records, partNumber sampleHost record.name = none

section Tables
variable {others : List Record} {count : Nat} {rows offset : Nat → Nat}

theorem behind_numbers (numberless : Numberless others) (few : count ≤ 128) :
    ((others ++ rowsTables count rows offset).filterMap fun record =>
      partNumber sampleHost record.name) = List.range count := by
  have none_ : (others.filterMap fun record => partNumber sampleHost record.name) = [] :=
    List.filterMap_eq_nil_iff.mpr numberless
  rw [List.filterMap_append, none_, List.nil_append, rowsTables, List.filterMap_map]
  conv_rhs => rw [← List.filterMap_some (l := List.range count)]
  apply List.filterMap_congr
  intro part member
  exact table_numbered ((List.mem_range.mp member).trans_le few)

theorem behind_parts (numberless : Numberless others) (few : count ≤ 128) :
    ((others ++ rowsTables count rows offset).map fun record => tensorOf (0, record)).filter
      (isTable sampleHost) =
        (List.range count).map fun part =>
          tensorOf (0, rowsRecord part (rows part) (offset part)) := by
  have front :
      (others.map fun record => tensorOf (0, record)).filter (isTable sampleHost) = [] := by
    apply List.filter_eq_nil_iff.mpr
    intro tensor member
    obtain ⟨record, own, rfl⟩ := List.mem_map.mp member
    change ¬ (partNumber sampleHost record.name).isSome = true
    rw [numberless record own]
    exact Bool.false_ne_true
  rw [List.map_append, List.filter_append, front, List.nil_append, rowsTables, List.map_map]
  apply List.filter_eq_self.mpr
  intro tensor member
  obtain ⟨part, own, rfl⟩ := List.mem_map.mp member
  change (partNumber sampleHost (tableName part)).isSome = true
  rw [table_numbered ((List.mem_range.mp own).trans_le few)]
  rfl

theorem behind_passes (numberless : Numberless others) (few : count ≤ 128) :
    ∀ record ∈ others ++ rowsTables count rows offset, ∃ found,
      tablePart sampleHost (tensorOf (0, record)) = .ok found := by
  intro record member
  rcases List.mem_append.mp member with other | table
  · have numbered : partNumber sampleHost (tensorOf (0, record)).name = none :=
      numberless record other
    refine ⟨none, ?_⟩
    unfold tablePart
    rw [numbered]
  · obtain ⟨part, own, rfl⟩ := List.mem_map.mp table
    exact ⟨_, table_tensor ((List.mem_range.mp own).trans_le few) _ _⟩

theorem sample_translated (sampled : Sampled (others ++ rowsTables count rows offset))
    (numberless : Numberless others) (controls : ∀ record ∈ controlRecords, record ∈ others)
    (few : count ≤ 128) (some_ : 0 < count) (enough : 16 ≤ ((List.range count).map rows).sum) :
    ∃ translation,
      PleDeviceLayout.translate sampleHost (tablesOf sampleHost
        (sampleFinalizing (others ++ rowsTables count rows offset))) = .ok translation ∧
      translation.parts.Perm ((List.range count).map fun part =>
        tensorOf (0, rowsRecord part (rows part) (offset part))) := by
  have perm := sample_perm (others ++ rowsTables count rows offset)
  have names : ((tablesOf sampleHost (sampleFinalizing
      (others ++ rowsTables count rows offset))).tensors.map Tensor.name).Nodup := by
    apply (perm.map Tensor.name).nodup_iff.mpr
    rw [List.map_map]
    exact sampled.apart
  have control {name : String} {words offset_ : Nat}
      (listed : controlRecord name.toList words offset_ ∈ controlRecords) :=
    @named_listed _ (tensorOf (0, controlRecord name.toList words offset_)) name
      (perm.mem_iff.mpr (List.mem_map_of_mem (List.mem_append_left _ (controls _ listed))))
      names rfl
  have every : ∀ tensor ∈ (tablesOf sampleHost (sampleFinalizing
      (others ++ rowsTables count rows offset))).tensors, ∃ found,
        tablePart sampleHost tensor = .ok found := by
    intro tensor member
    obtain ⟨record, own, rfl⟩ := List.mem_map.mp (perm.mem_iff.mp member)
    exact behind_passes numberless few record own
  have numbers := perm.filterMap fun tensor => partNumber sampleHost tensor.name
  rw [List.filterMap_map] at numbers
  obtain ⟨parts, sorted⟩ := parts_made every
    (numbers.trans (List.Perm.of_eq (behind_numbers numberless few))) some_
  have same := (parts_sorted sorted).permuted.trans (perm.filter _)
  rw [behind_parts numberless few] at same
  have padded : 16 ≤ paddedRows parts := by
    unfold paddedRows
    rw [(same.map rowsOf).sum_eq, List.map_map]
    change (16 : Int) ≤ ((List.range count).map fun part => ((rows part : Nat) : Int)).sum
    have whole := Nat.cast_list_sum (R := Int) ((List.range count).map rows)
    rw [List.map_map] at whole
    exact (Int.ofNat_le.mpr enough).trans_eq whole
  obtain ⟨read, read', read'', heads⟩ := sample_controls
  rw [← sample_segments (others ++ rowsTables count rows offset)] at read read' read''
  have made := translate_made
    ⟨_, control (by simp [controlRecords]), read⟩ ⟨_, control (by simp [controlRecords]), read'⟩
    ⟨_, control (by simp [controlRecords]), read''⟩ heads sorted padded
  exact ⟨_, made, same⟩

/-- The script writes a document from the index of a sample. -/
theorem sample_compiled (sampled : Sampled (others ++ rowsTables count rows offset))
    (numberless : Numberless others) (controls : ∀ record ∈ controlRecords, record ∈ others)
    (few : count ≤ 128) (some_ : 0 < count) (enough : 16 ≤ ((List.range count).map rows).sum) :
    ∃ translation document,
      Scripted sampleHost (tablesOf sampleHost
        (sampleFinalizing (others ++ rowsTables count rows offset))) translation ∧
      layoutText translation 248320 248044 = .ok document ∧
      compileLayout sampleHost (sampleIndex (others ++ rowsTables count rows offset))
          248320 248044 =
        .ok document ∧
      translation.parts.Perm ((List.range count).map fun part =>
        tensorOf (0, rowsRecord part (rows part) (offset part))) := by
  obtain ⟨translation, made, same⟩ :=
    sample_translated sampled numberless controls few some_ enough
  obtain ⟨read, finalized, plain⟩ := sample_read sampled
  have scripted : Scripted sampleHost (tablesOf sampleHost
      (sampleFinalizing (others ++ rowsTables count rows offset))) translation :=
    ⟨index_consistent read, finalized, plain, translate_ok made⟩
  obtain ⟨document, written⟩ := document_written
    (readable scripted (by decide : (0 : Int) ≤ 248044) (by decide : (248044 : Int) < 248320)
      (by decide))
  refine ⟨translation, document, scripted, written, ?_, same⟩
  unfold compileLayout
  rw [read]
  change (PleDeviceLayout.translate sampleHost _ >>= _) = _
  rw [made]
  exact written

end Tables

/-- Two parts of eight rows. -/
def twoParts : List Record :=
  controlRecords ++ rowsTables 2 (fun _ => 8) fun part => 280 + 1296 * part

theorem two_parts_sampled : Sampled twoParts := by
  have tables : rowsTables 2 (fun _ => 8) (fun part => 280 + 1296 * part) =
      [rowsRecord 0 8 280, rowsRecord 1 8 1576] := rfl
  rw [twoParts, tables]
  refine ⟨?_, ?_, by decide +kernel, ?_⟩
  · simp only [controlRecords, List.cons_append, List.nil_append, List.forall_mem_cons,
      List.not_mem_nil, false_implies, implies_true, and_true]
    exact ⟨⟨rfl, .inl rfl, rfl, rfl, List.cons_ne_nil _ _⟩,
      ⟨rfl, .inl rfl, rfl, rfl, List.cons_ne_nil _ _⟩,
      ⟨rfl, .inl rfl, rfl, rfl, List.cons_ne_nil _ _⟩,
      ⟨rfl, .inr rfl, rfl, rfl, List.cons_ne_nil _ _⟩,
      ⟨rfl, .inr rfl, rfl, rfl, List.cons_ne_nil _ _⟩⟩
  · simp [controlRecords, controlRecord, rowsRecord]
  · intro record member
    rcases List.mem_append.mp member with control | table
    · rw [stage_names]
      exact List.mem_append_left _ (control_listed control)
    · rcases List.mem_cons.mp table with rfl | table
      · exact table_listed (by decide : 0 < 128)
      · obtain rfl := List.mem_singleton.mp table
        exact table_listed (by decide : 1 < 128)

theorem two_parts_numberless : Numberless controlRecords :=
  fun _ member => other_number (control_listed member)

theorem two_parts_compiled : ∃ document,
    compileLayout sampleHost (sampleIndex twoParts) 248320 248044 = .ok document := by
  obtain ⟨_, document, _, _, compiled, _⟩ := sample_compiled two_parts_sampled
    two_parts_numberless (fun _ member => member) (by decide) (by decide) (by decide)
  exact ⟨document, compiled⟩

theorem payload_perm {parts others : List Tensor} (same : parts.Perm others) (segment : Int) :
    payloadOf parts segment = payloadOf others segment :=
  ((same.filter _).map _).sum_eq

theorem two_parts_loadable {parts : List Tensor} (sorted : Parts sampleHost
    (tablesOf sampleHost (sampleFinalizing twoParts)).tensors parts) :
    Loadable (tablesOf sampleHost (sampleFinalizing twoParts)).segments parts := by
  have same := sorted.permuted.trans ((sample_perm twoParts).filter _)
  rw [twoParts, behind_parts two_parts_numberless (by decide : 2 ≤ 128)] at same
  have each {tensor : Tensor} (member : tensor ∈ parts) :
      rowsOf tensor = 8 ∧ tensor.segment = 0 := by
    obtain ⟨part, _, rfl⟩ := List.mem_map.mp (same.mem_iff.mp member)
    exact ⟨rfl, rfl⟩
  refine ⟨fun tensor member => ?_, fun tensor member => ?_⟩
  · rw [(each member).1]
    decide
  · rw [(each member).2, payload_perm same]
    change (2592 : Int) ≤ ((sampleContent.length : Nat) : Int)
    rw [sample_length]
    decide

theorem rows_translated_two_parts : ∃ document layout parts,
    compileLayout sampleHost (sampleIndex twoParts) 248320 248044 = .ok document ∧
    loadPleLayout "layout" (some document) true (fileSizes sampleHost) = .ok layout ∧
    Controlled sampleHost (tablesOf sampleHost (sampleFinalizing twoParts)) layout.hash ∧
    ∀ row < layout.usableRows, ∃ tensor place file part, Addressed sampleHost
      (tablesOf sampleHost (sampleFinalizing twoParts)) parts layout.toPleLayoutV1 row tensor place
      file part := by
  obtain ⟨document, compiled⟩ := two_parts_compiled
  obtain ⟨read, finalized, plain⟩ := sample_read two_parts_sampled
  obtain ⟨parts, sorted, loads, holds⟩ := rows_translated read finalized plain (by decide)
    (by decide) (by decide) compiled "layout" true
  obtain ⟨layout, loaded⟩ := loads.mpr (two_parts_loadable sorted)
  obtain ⟨controlled, addressed, _⟩ := holds layout loaded
  exact ⟨document, layout, parts, compiled, loaded, controlled, addressed⟩

/-- What the names that are no parts stand for. -/
def otherRecord (name : Name) : Record :=
  if name = "blk.1.ple.layer_multipliers".toList then controlRecord name 3 0
  else if name = "blk.1.ple.head_vocab_sizes".toList then controlRecord name 16 24
  else if name = "blk.1.ple.head_offsets".toList then controlRecord name 16 152
  else ⟨name, name, "BF16".toList, [0], .preserve, 0, {}⟩

/-- One part has sixteen rows, and the others have none. -/
def rowlessParts : List Record :=
  otherNames.map otherRecord ++ rowsTables 128 (fun part => if part = 0 then 16 else 0)
    fun part => if part = 0 then 280 else 2872

theorem other_name (name : Name) : (otherRecord name).name = name := by
  unfold otherRecord
  split_ifs <;> rfl

theorem rowless_names : rowlessParts.map Record.name = stageTensorNames 0 2 := by
  have others : (otherNames.map otherRecord).map Record.name = otherNames := by
    rw [List.map_map]
    conv_rhs => rw [← List.map_id otherNames]
    exact List.map_congr_left fun name _ => other_name name
  rw [stage_names, rowlessParts, List.map_append, others, rowsTables, List.map_map]
  rfl

theorem rowless_apart : (rowlessParts.map Record.name).Nodup := by
  have others : otherNames.Nodup := stage_names_seen.2.1.of_map
  rw [rowless_names, stage_names]
  refine List.nodup_append.mpr ⟨others, ?_, ?_⟩
  · apply List.Nodup.map_on _ List.nodup_range
    intro part small other below same
    have number := table_numbered (List.mem_range.mp small)
    rw [same, table_numbered (List.mem_range.mp below)] at number
    exact (Option.some.inj number).symm
  · rintro name other _ table rfl
    obtain ⟨part, _, rfl⟩ := List.mem_map.mp table
    exact other_heads other (table_heads part)

theorem rowless_sampled : Sampled rowlessParts := by
  refine ⟨?_, ?_, rowless_apart, ?_⟩
  · intro record member
    rcases List.mem_append.mp member with other | table
    · obtain ⟨name, _, rfl⟩ := List.mem_map.mp other
      unfold otherRecord
      split_ifs <;> simp [controlRecord]
    · obtain ⟨part, _, rfl⟩ := List.mem_map.mp table
      simp [rowsRecord]
  · intro record member
    rcases List.mem_append.mp member with other | table
    · obtain ⟨name, _, rfl⟩ := List.mem_map.mp other
      unfold otherRecord
      split_ifs <;> simp [controlRecord]
    · obtain ⟨part, _, rfl⟩ := List.mem_map.mp table
      by_cases first : part = 0 <;> simp [rowsRecord, first]
  · intro record member
    rw [← rowless_names]
    exact List.mem_map_of_mem member

theorem rowless_numberless : Numberless (otherNames.map otherRecord) := by
  intro record member
  obtain ⟨name, own, rfl⟩ := List.mem_map.mp member
  rw [other_name]
  exact other_number own

theorem other_controls :
    otherRecord "blk.1.ple.layer_multipliers".toList =
      controlRecord "blk.1.ple.layer_multipliers".toList 3 0 ∧
    otherRecord "blk.1.ple.head_vocab_sizes".toList =
      controlRecord "blk.1.ple.head_vocab_sizes".toList 16 24 ∧
    otherRecord "blk.1.ple.head_offsets".toList =
      controlRecord "blk.1.ple.head_offsets".toList 16 152 := by
  unfold otherRecord
  refine ⟨if_pos rfl, ?_, ?_⟩
  · rw [if_neg (by simp), if_pos rfl]
  · rw [if_neg (by simp), if_neg (by simp), if_pos rfl]

theorem rowless_controls : ∀ record ∈ controlRecords, record ∈ otherNames.map otherRecord := by
  intro record member
  refine List.mem_map.mpr ⟨record.name, control_listed member, ?_⟩
  obtain ⟨multipliers, sizes, offsets⟩ := other_controls
  simp only [controlRecords, List.mem_cons, List.not_mem_nil, or_false] at member
  rcases member with rfl | rfl | rfl
  · exact multipliers
  · exact sizes
  · exact offsets

theorem enough_rows :
    16 ≤ ((List.range 128).map fun part => if part = 0 then 16 else 0).sum :=
  List.le_sum_of_mem (List.mem_map.mpr ⟨0, List.mem_range.mpr (by decide), rfl⟩)

theorem sample_hashed : sampleHasher.sha256 sampleContent =
    "3ee4570b3b707a735a046d021ed86b0c896acadecb7f24ab2b6f968619b9dc41".toList := by
  dsimp only [sampleHasher]
  rw [if_pos rfl]

theorem rowless_finalized : finalizeStage sampleHasher (sampleRoot rowlessParts) false =
    .ok (sampleIndex rowlessParts) := by
  apply fragment_finalized
  refine ⟨rfl, rfl, by decide, rfl, sample_length, sample_hashed, ?_, rowless_sampled.apart,
    fun name => ?_⟩
  · rw [sample_length]
    exact rowless_sampled.inside
  · change name ∈ rowlessParts.map Record.name ↔ _
    rw [rowless_names]
    rfl

/-- The finalizer writes an index of a stage whose parts but one have no rows, and the script
writes a layout document from it. The runtime refuses that document. -/
theorem rowless_parts_refused : ∃ document,
    finalizeStage sampleHasher (sampleRoot rowlessParts) false =
      .ok (sampleIndex rowlessParts) ∧
    Plain (tablesOf sampleHost (sampleFinalizing rowlessParts)) ∧
    parseIndex sampleHost (sampleIndex rowlessParts) =
      .ok (tablesOf sampleHost (sampleFinalizing rowlessParts)) ∧
    compileLayout sampleHost (sampleIndex rowlessParts) 248320 248044 = .ok document ∧
    ∀ path verifySourceFiles layout, loadPleLayout path (some document) verifySourceFiles
      (fileSizes sampleHost) ≠ .ok layout := by
  obtain ⟨read, finalized, plain⟩ := sample_read rowless_sampled
  obtain ⟨translation, document, scripted, written, compiled, same⟩ := sample_compiled
    rowless_sampled rowless_numberless rowless_controls (by decide) (by decide) enough_rows
  refine ⟨document, rowless_finalized, plain, read, compiled, ?_⟩
  · intro path verifySourceFiles layout loaded
    have loadable := ((document_accepted scripted (by decide) (by decide) (by decide) written path
      verifySourceFiles layout).mp loaded).1
    have member : tensorOf (0, rowsRecord 1 0 2872) ∈ translation.parts :=
      same.mem_iff.mpr (List.mem_map.mpr ⟨1, by decide, rfl⟩)
    have some_ := loadable.rows _ member
    have none_ : rowsOf (tensorOf (0, rowsRecord 1 0 2872)) = 0 := rfl
    omega

end Samples

end Q38.TranslatedRows
