import Q38Runtime.FallibleRuns
import Q38Runtime.PleLayout

/-!
What an accepted layout promises. The checks compare sums and products that wrap
around; where none of them does, the rows of every token are in range, the heads do
not meet, and every usable row has bytes of its own inside its part.
-/
namespace Q38.PleLayout
open Contracts PleHash PleStore ConsecutiveRuns FallibleRuns

section Statements
variable (layout : Layout)

def headStart (head : Fin 16) : Nat := (layout.hash.headOffsets head).toNat
def headSize (head : Fin 16) : Nat := (layout.hash.headVocabSizes head).toNat
def partStart (part : PlePartV1) : Nat := part.globalRowStart.toNat
def partRows (part : PlePartV1) : Nat := part.rows.toNat
def stride : Nat := layout.rowStrideBytes.toNat

/-- The head that an entry of the hashed rows belongs to. -/
def headOf (index : Nat) : Fin 16 := ⟨index % 16, Nat.mod_lt _ (by decide)⟩

/-- No sum or product of the checks, of the hash's ranges or of a row's place wraps
around. -/
structure NoWrap : Prop where
  rowBytes : layout.rowDimension.toNat * dtypeBytes layout.storageDtype < 2 ^ 64
  heads : ∀ head, headStart layout head + headSize layout head < 2 ^ 64
  ranges : ∀ head value, value % headSize layout head + headStart layout head < 2 ^ 64
  parts : ∀ part ∈ layout.parts, partStart part + partRows part < 2 ^ 64
  payloads : ∀ part ∈ layout.parts, partRows part * stride layout < 2 ^ 64
  scales : layout.storageDtype = .fp8E4M3 → ∀ part ∈ layout.parts, partRows part * 2 < 2 ^ 64
  places : ∀ row < layout.usableRows, ∀ part, findPart layout.toPleLayoutV1 row = .ok part →
    partStart part ≤ row.toNat ∧ (row.toNat - partStart part) * stride layout < 2 ^ 64 ∧
      part.fileOffset.toNat + (row.toNat - partStart part) * stride layout < 2 ^ 64

/-- A row has an extent inside its part's bytes in the file. -/
structure Placed (row : UInt64) (part : PlePartV1) (file : PleFileV1) : Prop where
  listed : part ∈ layout.parts
  filed : layout.files[part.fileIndex.toNat]? = some file
  found : findPart layout.toPleLayoutV1 row = .ok part
  begins : partStart part ≤ row.toNat
  ends : row.toNat < partStart part + partRows part
  extent : ∀ outputOffset, rowExtent layout.toPleLayoutV1 row outputOffset =
    .ok ⟨part.fileIndex.toNat,
      part.fileOffset.toNat + (row.toNat - partStart part) * stride layout, outputOffset,
      stride layout⟩
  inside : part.fileOffset.toNat + (row.toNat - partStart part) * stride layout + stride layout ≤
    part.fileOffset.toNat + part.payloadBytes.toNat
  within : part.fileOffset.toNat + part.payloadBytes.toNat ≤ file.fileBytes.toNat

/-- Hash rows in range, heads apart, usable rows placed apart from each other. -/
structure Sound : Prop where
  hashed : ∀ state tokens hashed after, PleHash.rows layout.hash state tokens = some (hashed, after) →
    ∀ index (inside : index < hashed.length),
      headStart layout (headOf index) ≤ hashed[index].toNat ∧
        hashed[index].toNat <
          headStart layout (headOf index) + headSize layout (headOf index)
  apart : ∀ lower upper : Fin 16, lower < upper →
    headStart layout lower + headSize layout lower ≤ headStart layout upper
  usable : ∀ head, headStart layout head + headSize layout head ≤ layout.usableRows.toNat
  placed : ∀ row < layout.usableRows, ∃ part file, Placed layout row part file
  disjoint : ∀ row < layout.usableRows, ∀ other < layout.usableRows, row ≠ other →
    ∀ part, findPart layout.toPleLayoutV1 row = .ok part →
      findPart layout.toPleLayoutV1 other = .ok part →
      ∀ first second, rowExtent layout.toPleLayoutV1 row 0 = .ok first →
        rowExtent layout.toPleLayoutV1 other 0 = .ok second →
        first.offset + first.bytes ≤ second.offset ∨ second.offset + second.bytes ≤ first.offset
  noWrap : NoWrap layout

/-- The sums and products that the checks compare are below 2^64. -/
structure Fits : Prop where
  heads : ((List.finRange 16).map (headSize layout)).sum < 2 ^ 64
  rows : (layout.parts.map partRows).sum < 2 ^ 64
  payloads : ∀ part ∈ layout.parts, partRows part * stride layout < 2 ^ 64
  scales : layout.storageDtype = .fp8E4M3 → ∀ part ∈ layout.parts, partRows part * 2 < 2 ^ 64

/-- What the checks establish. -/
structure Accepted : Prop where
  heads : Wrapping (2 ^ 64) (headStart layout) (headSize layout) 0 (List.finRange 16)
    layout.usableRows.toNat
  parts : Wrapping (2 ^ 64) partStart partRows 0 layout.parts layout.paddedRows.toNat
  padded : layout.usableRows ≤ layout.paddedRows
  strided : 0 < stride layout
  filed : ∀ part ∈ layout.parts, ∃ file, layout.files[part.fileIndex.toNat]? = some file ∧
    part.payloadBytes = part.rows * layout.rowStrideBytes.toUInt64 ∧
    part.fileOffset.toNat + part.payloadBytes.toNat ≤ file.fileBytes.toNat

end Statements

section Checked
variable {layout : Layout}

theorem heads_wrapping {heads : List (Fin 16)} {expected : BitVec 64}
    (checked : checkHeads layout heads expected = .ok ()) :
    Wrapping (2 ^ 64) (headStart layout) (headSize layout) expected.toNat heads
      layout.usableRows.toNat := by
  induction heads generalizing expected with
  | nil =>
      rw [checkHeads] at checked
      split at checked
      case isTrue => cases checked
      case isFalse same =>
        rw [not_not.mp same]
        exact .nil
  | cons head rest ih =>
      rw [checkHeads] at checked
      split at checked
      case isTrue => cases checked
      case isFalse shaped =>
        rw [not_or, not_not] at shaped
        refine .cons (congrArg BitVec.toNat shaped.2) ?_ ?_
        · exact Nat.pos_of_ne_zero fun none => shaped.1 (BitVec.eq_of_toNat_eq none)
        · have next := ih checked
          rwa [BitVec.toNat_add] at next

theorem part_checked {index : Nat} {next : UInt64} {part : PlePartV1}
    (checked : checkPart layout index next part = .ok ()) :
    part.globalRowStart = next ∧ 0 < partRows part ∧
      ∃ file, layout.files[part.fileIndex.toNat]? = some file ∧
        part.payloadBytes = part.rows * layout.rowStrideBytes.toUInt64 ∧
        part.fileOffset.toNat + part.payloadBytes.toNat ≤ file.fileBytes.toNat := by
  rw [checkPart] at checked
  split at checked
  case h_1 => cases checked
  case h_2 file filed =>
    split at checked
    case isTrue => cases checked
    case isFalse shaped =>
      split at checked
      case isTrue => cases checked
      case isFalse large =>
        push Not at shaped large
        obtain ⟨-, begins, some_, payload⟩ := shaped
        refine ⟨begins, ?_, file, filed, payload, ?_⟩
        · exact Nat.pos_of_ne_zero fun none => some_ (UInt64.toNat_inj.mp none)
        · have inside := UInt64.not_lt.mp large.1
          have before := UInt64.le_iff_toNat_le.mp inside
          have after := UInt64.le_iff_toNat_le.mp (UInt64.not_lt.mp large.2)
          rw [UInt64.toNat_sub_of_le _ _ inside] at after
          omega

theorem parts_wrapping {parts : List PlePartV1} {index : Nat} {next : UInt64}
    (checked : checkParts layout parts index next = .ok ()) :
    Wrapping (2 ^ 64) partStart partRows next.toNat parts layout.paddedRows.toNat ∧
      ∀ part ∈ parts, ∃ file, layout.files[part.fileIndex.toNat]? = some file ∧
        part.payloadBytes = part.rows * layout.rowStrideBytes.toUInt64 ∧
        part.fileOffset.toNat + part.payloadBytes.toNat ≤ file.fileBytes.toNat := by
  induction parts generalizing index next with
  | nil =>
      rw [checkParts] at checked
      split at checked
      case isTrue => cases checked
      case isFalse same =>
        rw [not_not.mp same]
        exact ⟨.nil, fun _ listed => by cases listed⟩
  | cons part rest ih =>
      rw [checkParts] at checked
      cases own : checkPart layout index next part with
      | error thrown =>
          rw [own] at checked
          cases checked
      | ok _ =>
          rw [own] at checked
          obtain ⟨begins, some_, file⟩ := part_checked own
          obtain ⟨later, files⟩ := ih checked
          rw [UInt64.toNat_add] at later
          refine ⟨.cons (congrArg UInt64.toNat begins) some_ later, fun other listed => ?_⟩
          rcases List.mem_cons.mp listed with rfl | after
          · exact file
          · exact files other after

theorem dimensions_checked (checked : checkDimensions layout = .ok ()) :
    0 < stride layout ∧ layout.usableRows ≤ layout.paddedRows := by
  rw [checkDimensions] at checked
  split at checked
  case isTrue => cases checked
  case isFalse shaped =>
    push Not at shaped
    obtain ⟨-, -, strided, -, -, padded⟩ := shaped
    exact ⟨Nat.pos_of_ne_zero fun none => strided (UInt32.toNat_inj.mp none), UInt64.not_lt.mp padded⟩

theorem validate_accepted {verifySourceFiles : Bool} {fileSize : String → Option Nat}
    {after : Layout} (checked : validateLayout layout verifySourceFiles fileSize = .ok after) :
    Accepted after := by
  obtain ⟨_, dimensions, checked⟩ := bind_ok checked
  obtain ⟨_, heads, checked⟩ := bind_ok checked
  obtain ⟨_, _, checked⟩ := bind_ok checked
  obtain ⟨_, parts, checked⟩ := bind_ok checked
  cases checked
  obtain ⟨strided, padded⟩ := dimensions_checked dimensions
  obtain ⟨wrapping, filed⟩ := parts_wrapping parts
  exact ⟨heads_wrapping heads, wrapping, padded, strided, filed⟩

theorem load_accepted {path : String} {document : Option (List Char)} {verifySourceFiles : Bool}
    {fileSize : String → Option Nat}
    (loaded : loadPleLayout path document verifySourceFiles fileSize = .ok layout) :
    Accepted layout := by
  cases document with
  | none => cases loaded
  | some text =>
      rw [loadPleLayout] at loaded
      cases lines : split '\n' text [] with
      | nil =>
          rw [lines] at loaded
          cases loaded
      | cons magic lines' =>
          rw [lines] at loaded
          dsimp only at loaded
          split at loaded
          case isTrue => cases loaded
          case isFalse =>
            obtain ⟨⟨parsed, headers⟩, _, loaded⟩ := bind_ok loaded
            dsimp only at loaded
            split at loaded
            case isTrue => cases loaded
            case isFalse => exact validate_accepted loaded

end Checked

section Hashed
variable {layout : Layout}

/-- Every hashed row is a remainder above the offset of its head. -/
theorem hashed_row (config : PleHashConfig) (state : PleHashState) (tokens : List Token)
    {index : Nat} (inside : index < (rowsFrom config state tokens).length) :
    ∃ value : BitVec 64, (rowsFrom config state tokens)[index] =
      value % config.headVocabSizes (headOf index) + config.headOffsets (headOf index) := by
  induction tokens generalizing state index with
  | nil => cases inside
  | cons token rest ih =>
      simp only [rowsFrom]
      by_cases first : index < (tokenRows config state token).length
      · rw [List.getElem_append_left first]
        have head : headOf index = ⟨index, by simpa [kPleHeads] using first⟩ := by
          rw [token_rows_length, kPleHeads] at first
          exact Fin.ext (Nat.mod_eq_of_lt first)
        rw [head]
        simp only [tokenRows, List.getElem_ofFn]
        exact ⟨_, rfl⟩
      · rw [List.getElem_append_right (Nat.le_of_not_lt first)]
        simp only [token_rows_length, kPleHeads] at first ⊢
        have head : headOf index = headOf (index - 16) :=
          Fin.ext (by simp only [headOf]; omega)
        rw [head]
        exact ih _ _

theorem ranged (bounded : ∀ head, headStart layout head + headSize layout head ≤
    layout.usableRows.toNat) (some_ : ∀ head, 0 < headSize layout head) (head : Fin 16)
    (value : BitVec 64) :
    (value % layout.hash.headVocabSizes head + layout.hash.headOffsets head).toNat =
      value.toNat % headSize layout head + headStart layout head ∧
    value.toNat % headSize layout head < headSize layout head := by
  have below := Nat.mod_lt value.toNat (some_ head)
  have bound := bounded head
  have word := layout.usableRows.toNat_lt
  refine ⟨?_, below⟩
  rw [BitVec.toNat_add, BitVec.toNat_umod]
  apply Nat.mod_eq_of_lt
  change value.toNat % headSize layout head + headStart layout head < 2 ^ 64
  omega

end Hashed

section Sound
variable {layout : Layout} (accepted : Accepted layout) (fits : Fits layout)
include accepted fits

theorem heads_exact : Runs (headStart layout) (headSize layout) 0 (List.finRange 16)
    layout.usableRows.toNat :=
  wrapping_exact accepted.heads (by simpa using fits.heads)

theorem parts_exact : Runs partStart partRows 0 layout.parts layout.paddedRows.toNat :=
  wrapping_exact accepted.parts (by simpa using fits.rows)

theorem row_placed {row : UInt64} (usable : row < layout.usableRows) :
    ∃ part file, Placed layout row part file := by
  have runs := parts_exact accepted fits
  have inside := UInt64.lt_iff_toNat_lt.mp usable
  have padded := UInt64.le_iff_toNat_le.mp accepted.padded
  obtain ⟨part, listed, last, begins, ends⟩ :=
    runs_find runs (Nat.zero_le row.toNat) (inside.trans_le padded)
  obtain ⟨file, filed, payload, within⟩ := accepted.filed part listed
  have bounds := runs_bounds runs listed
  have word := layout.paddedRows.toNat_lt
  have room := file.fileBytes.toNat_lt
  have whole : part.payloadBytes.toNat = partRows part * stride layout := by
    rw [payload, UInt64.toNat_mul, Nat.mod_eq_of_lt]
    · rfl
    · exact fits.payloads part listed
  have sum : (part.globalRowStart + part.rows).toNat = partStart part + partRows part := by
    rw [UInt64.toNat_add]
    exact Nat.mod_eq_of_lt (bounds.2.1.trans_lt word)
  have found : findPart layout.toPleLayoutV1 row = .ok part := by
    have same : (fun part : PlePartV1 => decide (part.globalRowStart ≤ row)) =
        fun part => decide (partStart part ≤ row.toNat) := by
      funext part
      exact decide_eq_decide.mpr UInt64.le_iff_toNat_le
    rw [findPart, if_neg (UInt64.not_le.mpr usable), same, last]
    dsimp only
    rw [if_neg]
    rw [ge_iff_le, UInt64.le_iff_toNat_le, sum]
    omega
  have less : part.globalRowStart ≤ row := UInt64.le_iff_toNat_le.mpr begins
  have places : (row.toNat - partStart part) * stride layout + stride layout ≤
      part.payloadBytes.toNat := by
    rw [whole, ← Nat.succ_mul]
    exact Nat.mul_le_mul_right _ (by omega)
  have strided := accepted.strided
  have product : ((row - part.globalRowStart) * layout.rowStrideBytes.toUInt64).toNat =
      (row.toNat - partStart part) * stride layout := by
    rw [UInt64.toNat_mul, UInt64.toNat_sub_of_le _ _ less]
    exact Nat.mod_eq_of_lt (by
      change (row.toNat - partStart part) * stride layout < 2 ^ 64
      omega)
  have offset : (part.fileOffset +
      (row - part.globalRowStart) * layout.rowStrideBytes.toUInt64).toNat =
        part.fileOffset.toNat + (row.toNat - partStart part) * stride layout := by
    rw [UInt64.toNat_add, product]
    exact Nat.mod_eq_of_lt (by omega)
  refine ⟨part, file, listed, filed, found, begins, ends, fun outputOffset => ?_, by omega, within⟩
  rw [rowExtent, found]
  change Except.ok (PleReadExtentV1.mk _ _ _ _) = _
  rw [offset]
  rfl

theorem load_sound : Sound layout := by
  have heads := heads_exact accepted fits
  have parts := parts_exact accepted fits
  have head (head : Fin 16) := runs_bounds heads (List.mem_finRange head)
  have word := layout.usableRows.toNat_lt
  have padded := layout.paddedRows.toNat_lt
  constructor
  case hashed =>
    intro state tokens hashed after answer index inside
    rw [PleHash.rows] at answer
    split at answer
    case isFalse => cases answer
    case isTrue =>
      cases answer
      obtain ⟨value, stands⟩ := hashed_row layout.hash state tokens inside
      obtain ⟨exact, below⟩ := ranged (fun head' => (head head').2.1)
        (fun head' => (head head').2.2) (headOf index) value
      rw [stands, exact]
      omega
  case apart =>
    intro lower upper earlier
    have apart := List.pairwise_iff_getElem.mp (runs_apart heads) lower upper
      (by simp) (by simp) earlier
    simpa using apart
  case usable => exact fun head' => (head head').2.1
  case placed => exact fun row usable => row_placed accepted fits usable
  case disjoint =>
    intro row usable other usable' differ part found found' first second extent extent'
    obtain ⟨part', _, placed⟩ := row_placed accepted fits usable
    obtain ⟨part'', _, placed'⟩ := row_placed accepted fits usable'
    cases found.symm.trans placed.found
    cases found'.symm.trans placed'.found
    cases extent.symm.trans (placed.extent 0)
    cases extent'.symm.trans (placed'.extent 0)
    have begins := placed.begins
    have begins' := placed'.begins
    dsimp only
    rcases Nat.lt_or_gt_of_ne fun same => differ (UInt64.toNat_inj.mp same) with less | more
    · left
      have rows : (row.toNat - partStart part).succ ≤ other.toNat - partStart part := by omega
      have scaled := Nat.mul_le_mul_right (stride layout) rows
      rw [Nat.succ_mul] at scaled
      omega
    · right
      have rows : (other.toNat - partStart part).succ ≤ row.toNat - partStart part := by omega
      have scaled := Nat.mul_le_mul_right (stride layout) rows
      rw [Nat.succ_mul] at scaled
      omega
  case noWrap =>
    constructor
    case heads => exact fun head' => (head head').2.1.trans_lt word
    case ranges =>
      intro head' value
      have below := Nat.mod_lt value (head head').2.2
      have bound := (head head').2.1
      omega
    case parts => exact fun part listed => (runs_bounds parts listed).2.1.trans_lt padded
    case payloads => exact fits.payloads
    case scales => exact fits.scales
    case rowBytes =>
      have narrow := layout.rowDimension.toNat_lt
      have few : dtypeBytes layout.storageDtype ≤ 4 := by
        cases layout.storageDtype <;> decide
      have product := Nat.mul_le_mul narrow.le few
      omega
    case places =>
      intro row usable part found
      obtain ⟨part', file, placed⟩ := row_placed accepted fits usable
      cases found.symm.trans placed.found
      have inside := placed.inside
      have within := placed.within
      have room := file.fileBytes.toNat_lt
      exact ⟨placed.begins, by omega, by omega⟩

end Sound

section Claim
variable {layout : Layout}

/-- Where nothing wraps around, the exact sums are small. -/
theorem no_wrap_fits (accepted : Accepted layout) (noWrap : NoWrap layout) : Fits layout := by
  have heads := runs_total (wrapping_each accepted.heads fun head _ => noWrap.heads head)
  have parts := runs_total (wrapping_each accepted.parts noWrap.parts)
  rw [Nat.zero_add] at heads parts
  constructor
  case heads =>
    rw [heads]
    exact layout.usableRows.toNat_lt
  case rows =>
    rw [parts]
    exact layout.paddedRows.toNat_lt
  case payloads => exact noWrap.payloads
  case scales => exact noWrap.scales

/-- An accepted layout keeps its promise exactly where its sums and products fit. -/
theorem accepted_layout_sound_iff_fits {path : String} {document : Option (List Char)}
    {verifySourceFiles : Bool} {fileSize : String → Option Nat}
    (loaded : loadPleLayout path document verifySourceFiles fileSize = .ok layout) :
    Sound layout ↔ Fits layout :=
  ⟨fun sound => no_wrap_fits (load_accepted loaded) sound.noWrap,
    fun fits => load_sound (load_accepted loaded) fits⟩

end Claim

section Samples

def documentOf (lines : List String) : List Char :=
  lines.flatMap fun line => line.toList ++ ['\n']

/-- A document of one part, with its rows and payload as they are written. -/
def onePart (rows payload : String) : List Char :=
  documentOf ["Q38_PLE_LAYOUT_V1", "dtype=bf16", "alignment=1", "row_stride=2", "row_dimension=1",
    "usable_rows=16", "padded_rows=" ++ rows, "unigram_vocab=2", "eos_token=0",
    "multipliers=1,1,1", "head_vocab_sizes=1,1,1,1,1,1,1,1,1,1,1,1,1,1,1,1",
    "head_offsets=0,1,2,3,4,5,6,7,8,9,10,11,12,13,14,15", "file\t0\trows\t32\t32",
    "part\t0\t0\t0\t" ++ rows ++ "\t0\t" ++ payload]

/-- What the runs below look at. -/
def glance (layout : Layout) : UInt64 × UInt32 × List PlePartV1 :=
  (layout.usableRows, layout.rowStrideBytes, layout.parts)

/-- Twice 2^63 rows wrap around to a payload of nothing. -/
theorem part_payload_wraps :
    ∃ layout, loadPleLayout "layout" (some (onePart "9223372036854775808" "0")) true
      (fun _ => some 32) = .ok layout ∧ ¬ Sound layout := by
  have seen : (loadPleLayout "layout" (some (onePart "9223372036854775808" "0")) true
      fun _ => some 32).toOption.map glance =
        some (16, 2, [⟨0, 0, 0, 9223372036854775808, 0, 0, 0, 0, 0⟩]) := by decide +kernel
  obtain ⟨layout, loaded, fields⟩ := FallibleRuns.viewed_ok seen
  refine ⟨layout, loaded, fun sound => ?_⟩
  simp only [glance, Prod.mk.injEq] at fields
  obtain ⟨usable, strided, parts⟩ := fields
  obtain ⟨part, file, placed⟩ := sound.placed 0 (by rw [usable]; decide)
  have listed := placed.listed
  rw [parts, List.mem_singleton] at listed
  have inside := placed.inside
  rw [listed, stride, strided] at inside
  exact absurd inside (by decide)

theorem accepted_layout_sound_iff_fits_small :
    ∃ layout, loadPleLayout "layout" (some (onePart "16" "32")) true (fun _ => some 32) =
      .ok layout ∧ layout.usableRows = 16 ∧ (Sound layout ↔ Fits layout) := by
  have seen : (loadPleLayout "layout" (some (onePart "16" "32")) true
      fun _ => some 32).toOption.map glance = some (16, 2, [⟨0, 0, 0, 16, 0, 32, 0, 0, 0⟩]) := by
    decide +kernel
  obtain ⟨layout, loaded, fields⟩ := FallibleRuns.viewed_ok seen
  exact ⟨layout, loaded, congrArg Prod.fst fields, accepted_layout_sound_iff_fits loaded⟩

end Samples

end Q38.PleLayout
