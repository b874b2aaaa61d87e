import Q38Runtime.DeviceArtifact
import Q38Runtime.FallibleRuns

/-! What an accepted device index promises of its records. The extents always lie in
their segments. The byte counts are exact and the fields are the numbers of the text
where no number is negative, no cast drops bits and no census product wraps around. -/
namespace Q38.DeviceArtifact
open Contracts PleLayout FallibleRuns

section Numbers

/-- The magnitude of a numeral without its sign. -/
def magnitude (digits : List Char) : Nat :=
  digits.foldl (fun parsed digit => 10 * parsed + (digit.toNat - 48)) 0

/-- Whether a numeral has a minus sign, and what follows its sign. -/
def signed (value : List Char) : Bool × List Char :=
  let unspaced := value.dropWhile isSpace
  let negative := unspaced.head? = some '-'
  (negative, if negative ∨ unspaced.head? = some '+' then unspaced.tail else unspaced)

/-- The integer that is written, if a numeral is all there is. -/
def written (value : List Char) : Option Int :=
  let unsigned := (signed value).2
  let digits := unsigned.takeWhile Char.isDigit
  if digits = [] ∨ unsigned.drop digits.length ≠ [] then none
  else some (if (signed value).1 then -(magnitude digits : Int) else magnitude digits)

/-- The loaded word is the number that is written. -/
def Kept (value : List Char) (loaded : Nat) : Prop := written value = some (loaded : Int)

/-- The number that is written has no sign to lose. -/
def Unsigned (value : List Char) : Prop := ∀ number, written value = some number → 0 ≤ number

theorem stoull_signed (value : List Char) :
    stoull value =
      let digits := (signed value).2.takeWhile Char.isDigit
      if digits = [] ∨ 2 ^ 64 ≤ magnitude digits then none
      else some (if (signed value).1 then (2 ^ 64 - magnitude digits) % 2 ^ 64
        else magnitude digits, (signed value).2.drop digits.length) := by
  simp only [stoull, signed, magnitude, decide_eq_true_eq]

theorem stoull_written {value rest : List Char} {parsed : Nat}
    (read : stoull value = some (parsed, rest)) (complete : rest = []) :
    ∃ number : Int, written value = some number ∧ number < 2 ^ 64 ∧ parsed < 2 ^ 64 ∧
      ((parsed : Int) = number ↔ 0 ≤ number) := by
  rw [stoull_signed] at read
  unfold written
  generalize signed value = numeral at read ⊢
  dsimp only at read ⊢
  generalize magnitude (numeral.2.takeWhile Char.isDigit) = total at read ⊢
  split at read
  · cases read
  · next digits =>
      rw [not_or, Nat.not_le] at digits
      obtain ⟨value_, rest_⟩ := Prod.ext_iff.mp (Option.some.inj read)
      rw [if_neg (not_or.mpr ⟨digits.1, not_not.mpr (rest_.trans complete)⟩)]
      refine ⟨_, rfl, ?_⟩
      dsimp only at value_
      rw [← value_]
      split
      · omega
      · omega

theorem index_u64_written {field : String} {value : List Char} {loaded : UInt64}
    (read : indexU64 field value = .ok loaded) :
    ∃ number : Int, written value = some number ∧ number < 2 ^ 64 ∧
      ((loaded.toNat : Int) = number ↔ 0 ≤ number) := by
  unfold indexU64 at read
  split at read
  · cases read
  · next parsed rest answer =>
      split at read
      · cases read
      · next complete =>
          cases read
          obtain ⟨number, same, small, fits, exact_⟩ :=
            stoull_written answer (not_not.mp complete)
          refine ⟨number, same, small, ?_⟩
          rw [UInt64.toNat_ofNat', Nat.mod_eq_of_lt fits]
          exact exact_

theorem kept_iff_unsigned {field : String} {value : List Char} {loaded : UInt64}
    (read : indexU64 field value = .ok loaded) :
    Kept value loaded.toNat ↔ Unsigned value := by
  obtain ⟨number, same, -, exact_⟩ := index_u64_written read
  simp only [Kept, Unsigned, same, Option.some.injEq]
  constructor
  · rintro kept _ rfl
    exact exact_.mp kept.symm
  · exact fun unsigned => (exact_.mpr (unsigned number rfl)).symm

/-- The number that is written fits in 32 bits. -/
def Narrow (value : List Char) : Prop :=
  ∀ number, written value = some number → 0 ≤ number ∧ number < 2 ^ 32

theorem kept_iff_narrow {field : String} {value : List Char} {loaded : UInt64}
    (read : indexU64 field value = .ok loaded) :
    Kept value loaded.toUInt32.toNat ↔ Narrow value := by
  obtain ⟨number, same, -, exact_⟩ := index_u64_written read
  have narrowed : loaded.toUInt32.toNat = loaded.toNat % 2 ^ 32 := UInt64.toNat_toUInt32 loaded
  simp only [Kept, Narrow, same, Option.some.injEq, narrowed]
  constructor
  · rintro kept _ rfl
    omega
  · intro narrow
    obtain ⟨positive, small⟩ := narrow number rfl
    have whole := exact_.mpr positive
    omega

end Numbers

section Census

def elementCount (shape : List UInt64) : Nat := (shape.map UInt64.toNat).prod

theorem checked_product {shape : List UInt64} {start elements : UInt64}
    (checked : shape.foldlM multiplyChecked start = .ok elements) :
    elements.toNat = start.toNat * elementCount shape ∧ ∀ dimension ∈ shape, dimension ≠ 0 := by
  induction shape generalizing start with
  | nil =>
      cases checked
      simp [elementCount]
  | cons dimension rest ih =>
      rw [List.foldlM_cons] at checked
      unfold multiplyChecked at checked
      split at checked
      · cases checked
      · next bounded =>
          rw [not_or, UInt64.not_lt, UInt64.le_iff_toNat_le, UInt64.toNat_div] at bounded
          obtain ⟨some_, small⟩ := bounded
          have positive : 0 < dimension.toNat :=
            Nat.pos_of_ne_zero fun none_ => some_ (UInt64.toNat_inj.mp none_)
          have fits : start.toNat * dimension.toNat < 2 ^ 64 := by
            have := (Nat.le_div_iff_mul_le positive).mp small
            have : (18446744073709551615 : UInt64).toNat = 2 ^ 64 - 1 := by decide
            omega
          obtain ⟨product, others⟩ := ih checked
          rw [UInt64.toNat_mul, Nat.mod_eq_of_lt fits] at product
          refine ⟨?_, ?_⟩
          · rw [product, elementCount, elementCount, List.map_cons, List.prod_cons, Nat.mul_assoc]
          · intro other member
            rcases List.mem_cons.mp member with rfl | member
            · exact some_
            · exact others other member

theorem checked_elements {shape : List UInt64} {elements : UInt64}
    (checked : checkedElements shape = .ok elements) :
    elements.toNat = elementCount shape ∧ shape ≠ [] ∧ ∀ dimension ∈ shape, dimension ≠ 0 := by
  unfold checkedElements at checked
  split at checked
  · cases checked
  · next some_ =>
      obtain ⟨product, others⟩ := checked_product checked
      have one : (1 : UInt64).toNat = 1 := rfl
      rw [one, Nat.one_mul] at product
      exact ⟨product, some_, others⟩

/-- The byte counts that format, dtype, shape and group size imply, as exact equations:
4 or 8 bits an element, two bytes of scale a group or a row. -/
def ExactBytes (tensor : DeviceTensorV1) : Prop :=
  let elements := elementCount tensor.shape
  let data := tensor.dataBytes.toNat
  let scale := tensor.scaleBytes.toNat
  match tensor.format with
  | .preserve => scale = 0 ∧
      ∃ bytes, sourceDtypeBytes tensor.sourceDtype = .ok bytes ∧ data = elements * bytes.toNat
  | .w4A16SymG128 => 8 * data = elements * 4 ∧ tensor.groupSize.toNat * scale = elements * 2
  | .w8A16SymG128 => 8 * data = elements * 8 ∧ tensor.groupSize.toNat * scale = elements * 2
  | .fp8E4M3Fn => data = elements ∧ (tensor.shape.getLastD 0).toNat * scale = elements * 2

/-- The product of the census that is not guarded stays below 2^64. -/
def CensusFits (format : DeviceWeightFormatV1) (dtype : List Char) (shape : List Nat) : Prop :=
  match format with
  | .preserve => ∀ bytes, sourceDtypeBytes dtype = .ok bytes → shape.prod * bytes.toNat < 2 ^ 64
  | .w4A16SymG128 | .w8A16SymG128 => True
  | .fp8E4M3Fn => shape.dropLast.prod * 2 < 2 ^ 64

theorem mul_exact_iff {left right product : UInt64} (same : product = left * right) :
    product.toNat = left.toNat * right.toNat ↔ left.toNat * right.toNat < 2 ^ 64 := by
  rw [same, UInt64.toNat_mul]
  constructor
  · intro exact_
    rw [← exact_]
    exact Nat.mod_lt _ (by decide)
  · exact fun fits => Nat.mod_eq_of_lt fits

theorem preserved_exact_iff {tensor : DeviceTensorV1} {elements : UInt64}
    (format : tensor.format = .preserve) (counted : elements.toNat = elementCount tensor.shape)
    (checked : checkPreserved tensor elements = .ok ()) :
    ExactBytes tensor ↔
      CensusFits tensor.format tensor.sourceDtype (tensor.shape.map UInt64.toNat) := by
  unfold checkPreserved at checked
  split at checked
  · cases checked
  · next plain =>
      rw [not_or, not_not, not_not] at plain
      cases bytes : sourceDtypeBytes tensor.sourceDtype with
      | error thrown =>
          rw [bytes] at checked
          cases checked
      | ok bytes_ =>
          rw [bytes] at checked
          have same : tensor.dataBytes = elements * bytes_ := by
            by_contra other
            simp only [bind, Except.bind, ne_eq, other, not_false_eq_true, if_true] at checked
            cases checked
          simp only [ExactBytes, CensusFits, format, bytes, Except.ok.injEq, forall_eq',
            exists_eq_left']
          rw [← elementCount, ← counted, mul_exact_iff same, plain.2]
          simp

theorem element_count_last {shape : List UInt64} (some_ : shape ≠ []) :
    elementCount shape = elementCount shape.dropLast * (shape.getLastD 0).toNat := by
  have split : shape.dropLast ++ [shape.getLastD 0] = shape := by
    rw [List.getLastD_eq_getLast?, List.getLast?_eq_some_getLast some_]
    exact List.dropLast_append_getLast some_
  conv_lhs => rw [← split]
  simp [elementCount]

theorem groupwise_exact {tensor : DeviceTensorV1} {bits elements : UInt64}
    (counted : elements.toNat = elementCount tensor.shape) (some_ : tensor.shape ≠ [])
    (width : bits.toNat = 4 ∨ bits.toNat = 8)
    (checked : checkGroupwise tensor bits elements = .ok ()) :
    8 * tensor.dataBytes.toNat = elementCount tensor.shape * bits.toNat ∧
      tensor.groupSize.toNat * tensor.scaleBytes.toNat = elementCount tensor.shape * 2 := by
  unfold checkGroupwise at checked
  split at checked
  · cases checked
  · next grouped =>
      split at checked
      · cases checked
      · next census =>
          rw [not_or, not_or, not_not, not_not] at grouped
          rw [not_or, not_or, not_not, not_not] at census
          obtain ⟨group, aligned, -⟩ := grouped
          obtain ⟨small, data, scale⟩ := census
          have whole : elementCount tensor.shape % 128 = 0 := by
            have last : (tensor.shape.getLastD 0).toNat % 128 = 0 := by
              have := congrArg UInt64.toNat aligned
              rwa [UInt64.toNat_mod] at this
            rw [element_count_last some_, Nat.mul_mod, last]
            simp
          have bounded : elements.toNat * bits.toNat < 2 ^ 64 := by
            rw [UInt64.not_lt, UInt64.le_iff_toNat_le, UInt64.toNat_div] at small
            have greatest : (18446744073709551615 : UInt64).toNat = 2 ^ 64 - 1 := by decide
            have := (Nat.le_div_iff_mul_le (by omega)).mp small
            omega
          have halves : elements.toNat / 128 * 2 < 2 ^ 64 := by
            have := elements.toNat_lt
            omega
          have eight : (8 : UInt64).toNat = 8 := rfl
          have two : (2 : UInt64).toNat = 2 := rfl
          have hundred : (128 : UInt64).toNat = 128 := rfl
          have group_ : (128 : UInt32).toNat = 128 := rfl
          rw [data, scale, group, UInt64.toNat_div, UInt64.toNat_mul, UInt64.toNat_mul,
            UInt64.toNat_div, eight, two, hundred, group_, Nat.mod_eq_of_lt bounded,
            Nat.mod_eq_of_lt halves, counted]
          constructor
          · rcases width with width | width <;> rw [width] <;> omega
          · omega

theorem fp8_exact_iff {tensor : DeviceTensorV1} {elements : UInt64}
    (format : tensor.format = .fp8E4M3Fn) (counted : elements.toNat = elementCount tensor.shape)
    (some_ : tensor.shape ≠ []) (positive : ∀ dimension ∈ tensor.shape, dimension ≠ 0)
    (checked : checkFp8 tensor elements = .ok ()) :
    ExactBytes tensor ↔
      CensusFits tensor.format tensor.sourceDtype (tensor.shape.map UInt64.toNat) := by
  unfold checkFp8 at checked
  split at checked
  · cases checked
  · next rows =>
      simp only [not_or, not_not] at rows
      obtain ⟨-, -, -, data, scale⟩ := rows
      have last_member : tensor.shape.getLastD 0 ∈ tensor.shape := by
        rw [List.getLastD_eq_getLast?, List.getLast?_eq_some_getLast some_]
        exact List.getLast_mem some_
      have last : 0 < (tensor.shape.getLastD 0).toNat :=
        Nat.pos_of_ne_zero fun none_ => positive _ last_member (UInt64.toNat_inj.mp none_)
      have product := element_count_last some_
      have divided : (elements / tensor.shape.getLastD 0).toNat =
          elementCount tensor.shape.dropLast := by
        rw [UInt64.toNat_div, counted, product, Nat.mul_div_cancel _ last]
      have two : (2 : UInt64).toNat = 2 := rfl
      have fits := mul_exact_iff scale
      rw [divided, two] at fits
      have dropped : (tensor.shape.map UInt64.toNat).dropLast.prod =
          elementCount tensor.shape.dropLast := by
        rw [elementCount, List.map_dropLast]
      simp only [ExactBytes, CensusFits, format, dropped]
      rw [← fits, data, counted, product]
      simp only [true_and]
      rw [Nat.mul_right_comm, Nat.mul_comm _ tensor.scaleBytes.toNat]
      exact Nat.mul_left_inj (Nat.pos_iff_ne_zero.mp last)

/-- Only the guarded products are exact in every accepted layout. -/
theorem layout_exact_iff {tensor : DeviceTensorV1}
    (checked : validateTensorLayout tensor = .ok ()) :
    ExactBytes tensor ↔
      CensusFits tensor.format tensor.sourceDtype (tensor.shape.map UInt64.toNat) := by
  unfold validateTensorLayout at checked
  cases counting : checkedElements tensor.shape with
  | error thrown =>
      rw [counting] at checked
      cases checked
  | ok elements =>
      obtain ⟨counted, some_, positive⟩ := checked_elements counting
      rw [counting] at checked
      simp only [bind, Except.bind] at checked
      split at checked
      · cases checked
      · split at checked
        · cases checked
        · cases format : tensor.format with
          | preserve =>
              rw [format] at checked
              rw [← format]
              exact preserved_exact_iff format counted checked
          | w4A16SymG128 =>
              rw [format] at checked
              have exact_ := groupwise_exact counted some_ (Or.inl rfl) checked
              simpa [ExactBytes, CensusFits, format] using exact_
          | w8A16SymG128 =>
              rw [format] at checked
              have exact_ := groupwise_exact counted some_ (Or.inr rfl) checked
              simpa [ExactBytes, CensusFits, format] using exact_
          | fp8E4M3Fn =>
              rw [format] at checked
              rw [← format]
              exact fp8_exact_iff format counted some_ positive checked

end Census

section Loading
variable {files : IndexFiles} {segments : List DeviceSegmentV1}

def recordLines (document : List Char) : List (List Char) := (split '\n' document []).drop 1

def segmentFields (lines : List (List Char)) : List (List (List Char)) :=
  lines.filterMap fun line =>
    match classify line with
    | .segment fields => some fields
    | _ => none

def tensorFields (lines : List (List Char)) : List (List (List Char)) :=
  lines.filterMap fun line =>
    match classify line with
    | .tensor fields => some fields
    | _ => none

/-- The extents of a tensor lie in the segment it names. -/
def Inside (segments : List DeviceSegmentV1) (tensor : DeviceTensorV1) : Prop :=
  ∃ segment, segments[tensor.segment.toNat]? = some segment ∧
    tensor.dataOffset.toNat + tensor.dataBytes.toNat ≤ segment.bytes.toNat ∧
    tensor.scaleOffset.toNat + tensor.scaleBytes.toNat ≤ segment.bytes.toNat

theorem Inside.more {tensor : DeviceTensorV1} (inside : Inside segments tensor)
    (later : List DeviceSegmentV1) : Inside (segments ++ later) tensor := by
  obtain ⟨segment, found, fits⟩ := inside
  exact ⟨segment, by rw [List.getElem?_append_left (List.getElem?_eq_some_iff.mp found).1, found],
    fits⟩

/-- What the loader establishes of a line and the record it made. -/
structure Loaded (segments : List DeviceSegmentV1) (fields : List (List Char))
    (tensor : DeviceTensorV1) : Prop where
  parsed : parseTensor fields = .ok tensor
  inside : Inside segments tensor
  layout : validateTensorLayout tensor = .ok ()

theorem Loaded.more {fields : List (List Char)} {tensor : DeviceTensorV1}
    (loaded : Loaded segments fields tensor) (later : List DeviceSegmentV1) :
    Loaded (segments ++ later) fields tensor :=
  ⟨loaded.parsed, loaded.inside.more later, loaded.layout⟩

theorem extent_inside {bytes offset count : UInt64}
    (fits : ¬ (bytes < offset ∨ bytes - offset < count)) :
    offset.toNat + count.toNat ≤ bytes.toNat := by
  rw [not_or, UInt64.not_lt, UInt64.not_lt] at fits
  obtain ⟨begins, ends⟩ := fits
  rw [UInt64.le_iff_toNat_le] at begins ends
  rw [UInt64.toNat_sub_of_le _ _ begins] at ends
  omega

theorem add_tensor_checked {index next : DeviceStageIndexV1} {tensor : DeviceTensorV1}
    (added : addTensor index tensor = .ok next) :
    Inside index.segments tensor ∧ validateTensorLayout tensor = .ok () ∧
      next.segments = index.segments ∧ next.tensors = index.tensors ++ [tensor] := by
  unfold addTensor at added
  split at added
  · cases added
  · split at added
    · cases added
    · next segment found =>
        split at added
        · cases added
        · next fits =>
            cases checked : validateTensorLayout tensor with
            | error thrown =>
                rw [checked] at added
                cases added
            | ok done =>
                rw [checked] at added
                cases added
                refine ⟨⟨segment, found, extent_inside ?_, extent_inside ?_⟩, rfl, rfl, rfl⟩
                · exact fun beyond => fits (beyond.imp_right Or.inl)
                · exact fun beyond => fits (Or.inr (Or.inr beyond))

theorem add_segment_listed {index next : DeviceStageIndexV1} {segment : DeviceSegmentV1}
    (added : addSegment files index segment = .ok next) :
    next.segments = index.segments ++ [segment] ∧ next.tensors = index.tensors := by
  unfold addSegment at added
  split at added
  · cases added
  · split at added
    · cases added
    · split at added
      · cases added
      · cases added
        exact ⟨rfl, rfl⟩

theorem set_header_keeps {index next : DeviceStageIndexV1} {key value : List Char}
    (set_ : setHeader index key value = .ok next) :
    next.segments = index.segments ∧ next.tensors = index.tensors := by
  unfold setHeader at set_
  simp only [bind, Except.bind, pure, Except.pure] at set_
  repeat' split at set_
  all_goals first
    | cases set_; exact ⟨rfl, rfl⟩
    | cases set_

/-- What one line adds. -/
theorem load_line_adds {loading next : Loading} {line : List Char}
    (loaded : loadLine files loading line = .ok next) :
    ∃ newSegments newTensors,
      next.index.segments = loading.index.segments ++ newSegments ∧
      next.index.tensors = loading.index.tensors ++ newTensors ∧
      List.Forall₂ (fun fields segment => parseSegment fields = .ok segment)
        (segmentFields [line]) newSegments ∧
      List.Forall₂ (Loaded loading.index.segments) (tensorFields [line]) newTensors := by
  unfold loadLine at loaded
  dsimp only at loaded
  cases kind : classify line with
  | skipped =>
      rw [kind] at loaded
      cases loaded
      refine ⟨[], [], by simp, by simp, ?_, ?_⟩ <;> simp [segmentFields, tensorFields, kind]
  | header key value =>
      rw [kind] at loaded
      dsimp only at loaded
      split at loaded
      · cases loaded
      · cases set_ : setHeader loading.index key value with
        | error thrown =>
            rw [set_] at loaded
            cases loaded
        | ok index =>
            rw [set_] at loaded
            cases loaded
            obtain ⟨segments, tensors⟩ := set_header_keeps set_
            refine ⟨[], [], by simp [segments], by simp [tensors], ?_, ?_⟩ <;>
              simp [segmentFields, tensorFields, kind]
  | segment fields =>
      rw [kind] at loaded
      dsimp only at loaded
      split at loaded
      · cases loaded
      · cases parsed : parseSegment fields with
        | error thrown =>
            rw [parsed] at loaded
            cases loaded
        | ok segment =>
            rw [parsed] at loaded
            cases added : addSegment files loading.index segment with
            | error thrown =>
                simp only [bind, Except.bind, added] at loaded
                cases loaded
            | ok index =>
                simp only [bind, Except.bind, added] at loaded
                cases loaded
                obtain ⟨segments, tensors⟩ := add_segment_listed added
                refine ⟨[segment], [], segments, by simp [tensors], ?_, ?_⟩
                · simpa [segmentFields, kind] using parsed
                · simp [tensorFields, kind]
  | tensor fields =>
      rw [kind] at loaded
      dsimp only at loaded
      split at loaded
      · cases loaded
      · cases parsed : parseTensor fields with
        | error thrown =>
            rw [parsed] at loaded
            cases loaded
        | ok tensor =>
            rw [parsed] at loaded
            cases added : addTensor loading.index tensor with
            | error thrown =>
                simp only [bind, Except.bind, added] at loaded
                cases loaded
            | ok index =>
                simp only [bind, Except.bind, added] at loaded
                cases loaded
                obtain ⟨inside, layout, segments, tensors⟩ := add_tensor_checked added
                refine ⟨[], [tensor], by simp [segments], tensors, ?_, ?_⟩
                · simp [segmentFields, kind]
                · simpa [tensorFields, kind] using Loaded.mk parsed inside layout

theorem load_lines_add {lines : List (List Char)} {loading final : Loading}
    (loaded : lines.foldlM (loadLine files) loading = .ok final) :
    ∃ newSegments newTensors,
      final.index.segments = loading.index.segments ++ newSegments ∧
      final.index.tensors = loading.index.tensors ++ newTensors ∧
      List.Forall₂ (fun fields segment => parseSegment fields = .ok segment)
        (segmentFields lines) newSegments ∧
      List.Forall₂ (Loaded final.index.segments) (tensorFields lines) newTensors := by
  induction lines generalizing loading with
  | nil =>
      cases loaded
      exact ⟨[], [], by simp, by simp, .nil, .nil⟩
  | cons line rest ih =>
      rw [List.foldlM_cons] at loaded
      cases step : loadLine files loading line with
      | error thrown =>
          rw [step] at loaded
          cases loaded
      | ok next =>
          rw [step] at loaded
          obtain ⟨hereSegments, hereTensors, segments, tensors, ours, theirs⟩ := load_line_adds step
          obtain ⟨laterSegments, laterTensors, segments', tensors', ours', theirs'⟩ := ih loaded
          refine ⟨hereSegments ++ laterSegments, hereTensors ++ laterTensors, ?_, ?_, ?_, ?_⟩
          · rw [segments', segments, List.append_assoc]
          · rw [tensors', tensors, List.append_assoc]
          · have split : segmentFields (line :: rest) =
                segmentFields [line] ++ segmentFields rest := by
              simp [segmentFields, List.filterMap_cons]
              split <;> rfl
            rw [split]
            exact List.rel_append ours ours'
          · have split : tensorFields (line :: rest) =
                tensorFields [line] ++ tensorFields rest := by
              simp [tensorFields, List.filterMap_cons]
              split <;> rfl
            rw [split]
            refine List.rel_append (theirs.imp fun fields tensor here => ?_) theirs'
            rw [segments', segments, List.append_assoc]
            exact here.more _

theorem add_tensor_fresh {index next : DeviceStageIndexV1} {tensor : DeviceTensorV1}
    (added : addTensor index tensor = .ok next) :
    tensor.name ∉ index.tensors.map DeviceTensorV1.name := by
  unfold addTensor at added
  split at added
  · cases added
  · next identity => exact fun known => identity (.inr (.inr known))

/-- A line leaves the tensors alone, or it adds one. -/
theorem load_line_tensors {loading next : Loading} {line : List Char}
    (loaded : loadLine files loading line = .ok next) :
    next.index.tensors = loading.index.tensors ∨
      ∃ tensor, addTensor loading.index tensor = .ok next.index := by
  unfold loadLine at loaded
  dsimp only at loaded
  split at loaded
  · cases loaded
    exact .inl rfl
  · split at loaded
    · cases loaded
    · obtain ⟨index, set_, loaded⟩ := bind_ok loaded
      cases loaded
      exact .inl (set_header_keeps set_).2
  · split at loaded
    · cases loaded
    · obtain ⟨segment, _, loaded⟩ := bind_ok loaded
      obtain ⟨index, added, loaded⟩ := bind_ok loaded
      cases loaded
      exact .inl (add_segment_listed added).2
  · split at loaded
    · cases loaded
    · obtain ⟨tensor, _, loaded⟩ := bind_ok loaded
      obtain ⟨index, added, loaded⟩ := bind_ok loaded
      cases loaded
      exact .inr ⟨tensor, added⟩

theorem load_lines_names {lines : List (List Char)} {loading final : Loading}
    (distinct : (loading.index.tensors.map DeviceTensorV1.name).Nodup)
    (loaded : lines.foldlM (loadLine files) loading = .ok final) :
    (final.index.tensors.map DeviceTensorV1.name).Nodup := by
  induction lines generalizing loading with
  | nil =>
      cases loaded
      exact distinct
  | cons line rest ih =>
      rw [List.foldlM_cons] at loaded
      obtain ⟨next, step, loaded⟩ := bind_ok loaded
      apply ih _ loaded
      rcases load_line_tensors step with same | ⟨tensor, added⟩
      · rw [same]
        exact distinct
      · rw [(add_tensor_checked added).2.2.2, List.map_append]
        apply distinct.append (List.nodup_singleton _)
        intro name known here
        rw [List.mem_singleton.mp here] at known
        exact add_tensor_fresh added known

end Loading

section Records
variable {segments : List DeviceSegmentV1} {fields : List (List Char)}

def shapeFields (fields : List (List Char)) : List (List Char) := split ',' (fields.getD 13 []) []

/-- Every numeric field of the record is the number of the text. -/
structure NumbersKept (fields : List (List Char)) (tensor : DeviceTensorV1) : Prop where
  groupSize : Kept (fields.getD 5 []) tensor.groupSize.toNat
  segment : Kept (fields.getD 6 []) tensor.segment.toNat
  dataOffset : Kept (fields.getD 7 []) tensor.dataOffset.toNat
  dataBytes : Kept (fields.getD 8 []) tensor.dataBytes.toNat
  scaleOffset : Kept (fields.getD 10 []) tensor.scaleOffset.toNat
  scaleBytes : Kept (fields.getD 11 []) tensor.scaleBytes.toNat
  shape : List.Forall₂ (fun field dimension => Kept field dimension.toNat) (shapeFields fields)
    (tensor.shape : List UInt64)

structure SoundTensor (segments : List DeviceSegmentV1) (fields : List (List Char))
    (tensor : DeviceTensorV1) : Prop where
  inside : Inside segments tensor
  bytes : ExactBytes tensor
  numbers : NumbersKept fields tensor

/-- The dimensions as they are written. -/
def writtenShape (fields : List (List Char)) : List Nat :=
  (shapeFields fields).map fun field => ((written field).getD 0).toNat

/-- No number of the record has a minus sign, the two narrow ones fit in 32 bits, and the
unguarded product of the census stays below 2^64. -/
structure FieldsFit (fields : List (List Char)) : Prop where
  groupSize : Narrow (fields.getD 5 [])
  segment : Narrow (fields.getD 6 [])
  dataOffset : Unsigned (fields.getD 7 [])
  dataBytes : Unsigned (fields.getD 8 [])
  scaleOffset : Unsigned (fields.getD 10 [])
  scaleBytes : Unsigned (fields.getD 11 [])
  shape : ∀ field ∈ shapeFields fields, Unsigned field
  census : ∀ format, parseFormat (fields.getD 4 []) = .ok format →
    CensusFits format (fields.getD 3 []) (writtenShape fields)

/-- The words behind a record, before the casts. -/
structure Parsed (fields : List (List Char)) (tensor : DeviceTensorV1) : Prop where
  format : parseFormat (fields.getD 4 []) = .ok tensor.format
  dtype : tensor.sourceDtype = fields.getD 3 []
  groupSize : ∃ word, indexU64 "group size" (fields.getD 5 []) = .ok word ∧
    tensor.groupSize = word.toUInt32
  segment : ∃ word, indexU64 "segment index" (fields.getD 6 []) = .ok word ∧
    tensor.segment = word.toUInt32
  dataOffset : indexU64 "data offset" (fields.getD 7 []) = .ok tensor.dataOffset
  dataBytes : indexU64 "data bytes" (fields.getD 8 []) = .ok tensor.dataBytes
  scaleOffset : indexU64 "scale offset" (fields.getD 10 []) = .ok tensor.scaleOffset
  scaleBytes : indexU64 "scale bytes" (fields.getD 11 []) = .ok tensor.scaleBytes
  shape : (shapeFields fields).mapM (indexU64 "shape") = .ok tensor.shape

theorem tensor_parsed {tensor : DeviceTensorV1} (read : parseTensor fields = .ok tensor) :
    Parsed fields tensor := by
  unfold parseTensor at read
  obtain ⟨format, formatted, read⟩ := bind_ok read
  obtain ⟨groupSize, grouped, read⟩ := bind_ok read
  obtain ⟨segment, named, read⟩ := bind_ok read
  obtain ⟨dataOffset, begins, read⟩ := bind_ok read
  obtain ⟨dataBytes, counted, read⟩ := bind_ok read
  obtain ⟨scaleOffset, scaled, read⟩ := bind_ok read
  obtain ⟨scaleBytes, weighed, read⟩ := bind_ok read
  obtain ⟨shape, shaped, read⟩ := bind_ok read
  cases read
  exact ⟨formatted, rfl, ⟨groupSize, grouped, rfl⟩, ⟨segment, named, rfl⟩, begins, counted, scaled,
    weighed, shaped⟩

theorem shape_kept_iff {texts : List (List Char)} {words : List UInt64}
    (read : List.Forall₂ (fun text word => indexU64 "shape" text = .ok word) texts words) :
    List.Forall₂ (fun text word => Kept text (UInt64.toNat word)) texts words ↔
      ∀ text ∈ texts, Unsigned text := by
  induction read with
  | nil => simp
  | cons first later ih =>
      rw [List.forall₂_cons, List.forall_mem_cons, ih, kept_iff_unsigned first]

theorem kept_shape {texts : List (List Char)} {words : List UInt64}
    (kept : List.Forall₂ (fun text word => Kept text (UInt64.toNat word)) texts words) :
    (texts.map fun text => ((written text).getD 0).toNat) = words.map UInt64.toNat := by
  induction kept with
  | nil => rfl
  | cons first later ih =>
      rw [List.map_cons, List.map_cons, ih, first]
      simp

theorem numbers_kept_iff {tensor : DeviceTensorV1} (parsed : Parsed fields tensor) :
    NumbersKept fields tensor ↔
      Narrow (fields.getD 5 []) ∧ Narrow (fields.getD 6 []) ∧ Unsigned (fields.getD 7 []) ∧
      Unsigned (fields.getD 8 []) ∧ Unsigned (fields.getD 10 []) ∧ Unsigned (fields.getD 11 []) ∧
      ∀ field ∈ shapeFields fields, Unsigned field := by
  obtain ⟨group, grouped, groupSize⟩ := parsed.groupSize
  obtain ⟨named, naming, segment⟩ := parsed.segment
  rw [← kept_iff_narrow grouped, ← kept_iff_narrow naming, ← kept_iff_unsigned parsed.dataOffset,
    ← kept_iff_unsigned parsed.dataBytes, ← kept_iff_unsigned parsed.scaleOffset,
    ← kept_iff_unsigned parsed.scaleBytes, ← shape_kept_iff (map_ok parsed.shape),
    ← groupSize, ← segment]
  constructor
  · rintro ⟨first, second, third, fourth, fifth, sixth, shape⟩
    exact ⟨first, second, third, fourth, fifth, sixth, shape⟩
  · rintro ⟨first, second, third, fourth, fifth, sixth, shape⟩
    exact ⟨first, second, third, fourth, fifth, sixth, shape⟩

/-- A loaded record is sound exactly where its fields fit. -/
theorem sound_tensor_iff {tensor : DeviceTensorV1} (loaded : Loaded segments fields tensor) :
    SoundTensor segments fields tensor ↔ FieldsFit fields := by
  have parsed := tensor_parsed loaded.parsed
  have numbers := numbers_kept_iff parsed
  have bytes := layout_exact_iff loaded.layout
  have census (kept : NumbersKept fields tensor) :
      CensusFits tensor.format tensor.sourceDtype (tensor.shape.map UInt64.toNat) ↔
        ∀ format, parseFormat (fields.getD 4 []) = .ok format →
          CensusFits format (fields.getD 3 []) (writtenShape fields) := by
    have shape : writtenShape fields = tensor.shape.map UInt64.toNat := kept_shape kept.shape
    simp only [parsed.format, Except.ok.injEq, forall_eq', shape, parsed.dtype]
  constructor
  · rintro ⟨-, exact_, kept⟩
    obtain ⟨group, named, begins, counted, scaled, weighed, shape⟩ := numbers.mp kept
    exact ⟨group, named, begins, counted, scaled, weighed, shape,
      (census kept).mp (bytes.mp exact_)⟩
  · rintro ⟨group, named, begins, counted, scaled, weighed, shape, fits⟩
    have kept := numbers.mpr ⟨group, named, begins, counted, scaled, weighed, shape⟩
    exact ⟨loaded.inside, bytes.mpr ((census kept).mpr fits), kept⟩

end Records

section Index
variable {files : IndexFiles} {path : String} {document : List Char} {index : DeviceStageIndexV1}

/-- Every record of the index is what its line says. -/
structure SoundIndex (document : List Char) (index : DeviceStageIndexV1) : Prop where
  segments : List.Forall₂ (fun fields segment => Kept (fields.getD 2 [])
    (DeviceSegmentV1.bytes segment).toNat) (segmentFields (recordLines document)) index.segments
  tensors : List.Forall₂ (SoundTensor index.segments) (tensorFields (recordLines document))
    index.tensors

structure DocumentFits (document : List Char) : Prop where
  segments : ∀ fields ∈ segmentFields (recordLines document), Unsigned (fields.getD 2 [])
  tensors : ∀ fields ∈ tensorFields (recordLines document), FieldsFit fields

/-- The run behind an accepted index. -/
theorem index_run (loaded : loadDeviceStageIndex files path (some document) = .ok index) :
    ∃ loading : Loading, (recordLines document).foldlM (loadLine files)
      { index := { indexDirectory := files.directory } } = .ok loading ∧
        loading.index = index := by
  unfold loadDeviceStageIndex at loaded
  dsimp only at loaded
  split at loaded
  · cases loaded
  · next magic lines text =>
      split at loaded
      · cases loaded
      · obtain ⟨loading, run, complete⟩ := bind_ok loaded
        have lines_ : recordLines document = lines := by
          rw [recordLines, text]
          rfl
        refine ⟨loading, by rw [lines_, run], ?_⟩
        unfold checkComplete at complete
        dsimp only at complete
        split at complete
        · cases complete
        · exact Except.ok.inj complete

theorem index_loaded (loaded : loadDeviceStageIndex files path (some document) = .ok index) :
    List.Forall₂ (fun fields segment => parseSegment fields = .ok segment)
        (segmentFields (recordLines document)) index.segments ∧
      List.Forall₂ (Loaded index.segments) (tensorFields (recordLines document))
        index.tensors := by
  obtain ⟨loading, run, same⟩ := index_run loaded
  obtain ⟨segments, tensors, listed, held, ours, theirs⟩ := load_lines_add run
  rw [← same]
  rw [List.nil_append] at listed held
  rw [← listed] at ours
  rw [← held] at theirs
  exact ⟨ours, theirs⟩

/-- No two tensors of an accepted index have one name. -/
theorem index_names (loaded : loadDeviceStageIndex files path (some document) = .ok index) :
    (index.tensors.map DeviceTensorV1.name).Nodup := by
  obtain ⟨loading, run, rfl⟩ := index_run loaded
  refine load_lines_names ?_ run
  exact List.nodup_nil

theorem segment_kept_iff {fields : List (List Char)} {segment : DeviceSegmentV1}
    (read : parseSegment fields = .ok segment) :
    Kept (fields.getD 2 []) segment.bytes.toNat ↔ Unsigned (fields.getD 2 []) := by
  unfold parseSegment at read
  obtain ⟨bytes, parsed, read⟩ := bind_ok read
  cases read
  exact kept_iff_unsigned parsed

theorem forall_each_iff {α β : Type} {made kept : α → β → Prop} {fits : α → Prop}
    {texts : List α} {records : List β} (each : List.Forall₂ made texts records)
    (same : ∀ text record, made text record → (kept text record ↔ fits text)) :
    List.Forall₂ kept texts records ↔ ∀ text ∈ texts, fits text := by
  induction each with
  | nil => simp
  | cons first later ih =>
      rw [List.forall₂_cons, List.forall_mem_cons, ih, same _ _ first]

theorem tensor_loaded (loaded : loadDeviceStageIndex files path (some document) = .ok index)
    {tensor : DeviceTensorV1} (member : tensor ∈ index.tensors) :
    ∃ fields, Loaded index.segments fields tensor := by
  obtain ⟨-, tensors⟩ := index_loaded loaded
  obtain ⟨position, inside, rfl⟩ := List.mem_iff_getElem.mp member
  have long := tensors.length_eq
  exact ⟨_, tensors.get (by omega) inside⟩

theorem tensors_inside (loaded : loadDeviceStageIndex files path (some document) = .ok index)
    {tensor : DeviceTensorV1} (member : tensor ∈ index.tensors) :
    Inside index.segments tensor := by
  obtain ⟨_, made⟩ := tensor_loaded loaded member
  exact made.inside

/-- An accepted index is sound exactly where the numbers of its text fit; the extents
are in their segments in any case. -/
theorem accepted_index_sound_iff
    (loaded : loadDeviceStageIndex files path (some document) = .ok index) :
    (SoundIndex document index ↔ DocumentFits document) ∧
      ∀ tensor ∈ index.tensors, Inside index.segments tensor := by
  obtain ⟨segments, tensors⟩ := index_loaded loaded
  constructor
  · have first := forall_each_iff segments fun fields segment => segment_kept_iff
    have second := forall_each_iff tensors fun fields tensor => sound_tensor_iff
    constructor
    · rintro ⟨kept, sound⟩
      exact ⟨first.mp kept, second.mp sound⟩
    · rintro ⟨kept, sound⟩
      exact ⟨first.mpr kept, second.mpr sound⟩
  · exact fun tensor member => tensors_inside loaded member

/-- The bytes that a lookup hands out lie in the mapping of their segment. -/
theorem found_inside (loaded : loadDeviceStageIndex files path (some document) = .ok index)
    {name : List Char} {view : DeviceTensorViewV1} (found : find index name = some view) :
    ∃ segment, index.segments[view.descriptor.segment.toNat]? = some segment ∧
      view.data + view.descriptor.dataBytes.toNat ≤ segment.bytes.toNat ∧
      ∀ scales, view.scales = some scales →
        scales + view.descriptor.scaleBytes.toNat ≤ segment.bytes.toNat := by
  obtain ⟨tensor, listed, rfl⟩ := Option.map_eq_some_iff.mp found
  have member := List.mem_of_find?_eq_some listed
  obtain ⟨segment, named, data, scale⟩ := tensors_inside loaded member
  refine ⟨segment, named, data, ?_⟩
  intro scales given_
  dsimp only at given_
  split at given_
  · cases given_
  · cases given_
    exact scale

end Index

section Samples

def hash : String := "0000000000000000000000000000000000000000000000000000000000000000"

def sampleFiles : IndexFiles where
  directory := "/artifact".toList
  verifySegmentExtents := true
  fileSize _ := some 32

/-- An index of one preserved tensor of eight bytes, with its group size and its shape
as they are written. -/
def oneTensor (groupSize shape : String) : List Char :=
  ["Q38_DEVICE_INDEX_V1", "stage=0", "cut=24", "source_repo=q",
    "source_commit=0000000000000000000000000000000000000000", "policy_sha256=" ++ hash,
    "artifact_sha256=" ++ hash, "segment\ts\t32\t" ++ hash,
    "tensor\tw\tw\tBF16\tpreserve\t" ++ groupSize ++ "\t0\t0\t8\t" ++ hash ++ "\t0\t0\t-\t" ++
      shape].flatMap fun line => line.toList ++ ['\n']

/-- What the runs below look at. -/
def glance (index : DeviceStageIndexV1) :
    List (DeviceWeightFormatV1 × List Char × UInt64 × List UInt64) :=
  index.tensors.map fun tensor =>
    (tensor.format, tensor.sourceDtype, tensor.dataBytes, tensor.shape)

theorem accepted_index_sound_iff_small :
    ∃ index, loadDeviceStageIndex sampleFiles "index" (some (oneTensor "0" "4")) = .ok index ∧
      (SoundIndex (oneTensor "0" "4") index ↔ DocumentFits (oneTensor "0" "4")) := by
  have seen : (loadDeviceStageIndex sampleFiles "index"
      (some (oneTensor "0" "4"))).toOption.map glance =
        some [(.preserve, "BF16".toList, 8, [4])] := by decide +kernel
  obtain ⟨index, loaded, -⟩ := viewed_ok seen
  exact ⟨index, loaded, (accepted_index_sound_iff loaded).1⟩

/-- 2^63 + 4 elements of two bytes wrap around to eight bytes. -/
theorem census_wraps :
    ∃ index, loadDeviceStageIndex sampleFiles "index"
        (some (oneTensor "4294967296" "9223372036854775812")) = .ok index ∧
      glance index = [(.preserve, "BF16".toList, 8, [9223372036854775812])] ∧
      ¬ SoundIndex (oneTensor "4294967296" "9223372036854775812") index := by
  have seen : (loadDeviceStageIndex sampleFiles "index"
      (some (oneTensor "4294967296" "9223372036854775812"))).toOption.map glance =
        some [(.preserve, "BF16".toList, 8, [9223372036854775812])] := by decide +kernel
  obtain ⟨index, loaded, fields⟩ := viewed_ok seen
  refine ⟨index, loaded, fields, fun sound => ?_⟩
  obtain ⟨tensor, listed, looks⟩ := List.map_eq_singleton_iff.mp fields
  have tensors := sound.tensors
  rw [listed] at tensors
  obtain ⟨text, nothing, made, -, -⟩ := List.forall₂_cons_right_iff.mp tensors
  have bytes := made.bytes
  simp only [Prod.mk.injEq] at looks
  obtain ⟨format, dtype, data, shape⟩ := looks
  simp only [ExactBytes, format, dtype, data, shape] at bytes
  obtain ⟨-, width, two, product⟩ := bytes
  have known : sourceDtypeBytes "BF16".toList = .ok 2 := by decide
  rw [known] at two
  cases two
  exact absurd product (by decide)

end Samples

end Q38.DeviceArtifact
