import Q38Runtime.TextFields

/-!
What the runtime makes of the index text of a stage: it accepts the text where every row
has bytes that lie in their file, and holds then what the rows say, in order of names.
-/
namespace Q38.TensorIndexReading
open Contracts PleLayout KeyedTotals TensorLedger TensorIndex TextFields FallibleRuns

section Rows

/-- Text that separates no fields and no lines. -/
def Plain (text : List Char) : Prop := '\t' ∉ text ∧ '\n' ∉ text

structure Clean (row : IndexRow) : Prop where
  name : row.name ≠ []
  type : row.type ≠ []
  path : row.shardPath ≠ []
  dims : row.dims ≠ []
  plainName : Plain row.name
  plainType : Plain row.type
  plainPath : Plain row.shardPath

def indexed (row : IndexRow) : IndexedTensorV1 where
  name := row.name
  typeName := row.type
  payloadBytes := UInt64.ofNat row.payloadBytes
  absoluteOffset := UInt64.ofNat row.absoluteOffset
  shardPath := row.shardPath
  dims := row.dims

def recordFields (row : IndexRow) : List (List Char) :=
  ["tensor".toList, row.name, row.type, decimalText row.payloadBytes,
    decimalText row.absoluteOffset, row.shardPath,
    joined [','] (row.dims.map fun dim => decimalText dim.toNat)]

theorem dims_plain {row : IndexRow} {letter : Char} (mark : letter.isDigit = false)
    (apart : letter ≠ ',') :
    letter ∉ joined [','] (row.dims.map fun dim => decimalText dim.toNat) := by
  apply joined_plain apart
  intro field member
  obtain ⟨dim, _, rfl⟩ := List.mem_map.mp member
  exact decimal_plain mark

theorem dims_some {row : IndexRow} (clean : Clean row) :
    joined [','] (row.dims.map fun dim => decimalText dim.toNat) ≠ [] := by
  obtain ⟨dim, rest, shape⟩ := List.exists_cons_of_ne_nil clean.dims
  rw [shape]
  cases rest with
  | nil => simpa [joined] using decimal_some dim.toNat
  | cons next rest => simp [joined_cons]

theorem record_split {row : IndexRow} (clean : Clean row) :
    split '\t' (recordLine row) [] = recordFields row := by
  apply split_joined
  · intro field member
    simp only [List.mem_cons, List.not_mem_nil, or_false] at member
    rcases member with rfl | rfl | rfl | rfl | rfl | rfl | rfl
    · decide
    · exact clean.plainName.1
    · exact clean.plainType.1
    · exact decimal_plain (by decide)
    · exact decimal_plain (by decide)
    · exact clean.plainPath.1
    · exact dims_plain (by decide) (by decide)
  · intro field last
    simp only [List.getLast?_cons_cons, List.getLast?_singleton, Option.mem_some_iff] at last
    subst last
    exact dims_some clean

theorem record_plain {row : IndexRow} (clean : Clean row) : '\n' ∉ recordLine row := by
  apply joined_plain (by decide)
  intro field member
  simp only [List.mem_cons, List.not_mem_nil, or_false] at member
  rcases member with rfl | rfl | rfl | rfl | rfl | rfl | rfl
  · decide
  · exact clean.plainName.2
  · exact clean.plainType.2
  · exact decimal_plain (by decide)
  · exact decimal_plain (by decide)
  · exact clean.plainPath.2
  · exact dims_plain (by decide) (by decide)

theorem dims_split {row : IndexRow} :
    split ',' (joined [','] (row.dims.map fun dim => decimalText dim.toNat)) [] =
      row.dims.map fun dim => decimalText dim.toNat := by
  apply split_joined
  · intro field member
    obtain ⟨dim, _, rfl⟩ := List.mem_map.mp member
    exact decimal_plain (by decide)
  · intro field last
    obtain ⟨dim, _, rfl⟩ := List.mem_map.mp (List.mem_of_mem_getLast? last)
    exact decimal_some dim.toNat

theorem parse_record_iff {row : IndexRow} {tensor : IndexedTensorV1} :
    parseTensor (recordFields row) = .ok tensor ↔
      row.payloadBytes < 2 ^ 64 ∧ row.absoluteOffset < 2 ^ 64 ∧ tensor = indexed row := by
  have bytes := @parse_decimal_iff "payload_bytes" row.payloadBytes
  have offset := @parse_decimal_iff "absolute_offset" row.absoluteOffset
  simp only [parseTensor, recordFields, List.getD_cons_zero, List.getD_cons_succ, dims_split,
    parse_words]
  constructor
  · intro read
    obtain ⟨payload, payloadRead, read⟩ := bind_ok read
    obtain ⟨absolute, absoluteRead, read⟩ := bind_ok read
    obtain ⟨small, rfl⟩ := bytes.mp payloadRead
    obtain ⟨near, rfl⟩ := offset.mp absoluteRead
    cases read
    exact ⟨small, near, rfl⟩
  · rintro ⟨small, near, rfl⟩
    rw [bytes.mpr ⟨small, rfl⟩, offset.mpr ⟨near, rfl⟩]
    rfl

end Rows

section Loading
variable (fileSize : List Char → Except String UInt64) (verify : Bool)

/-- The bytes of a row lie in the file at its path. -/
def Lies (row : IndexRow) : Prop :=
  ∃ size, fileSize row.shardPath = .ok size ∧
    row.absoluteOffset + row.payloadBytes ≤ size.toNat

/-- The reader takes no row without bytes, or with a number that is no 64-bit word. -/
structure Admitted (row : IndexRow) : Prop where
  weighty : row.payloadBytes ≠ 0
  payload : row.payloadBytes < 2 ^ 64
  offset : row.absoluteOffset < 2 ^ 64
  lies : verify = true → Lies fileSize row

def names (rows : List IndexRow) : List (List Char) := rows.map fun row => row.name

def weight (rows : List IndexRow) : Nat := (rows.map fun row => row.payloadBytes).sum

theorem extent_iff {row : IndexRow} (payload : row.payloadBytes < 2 ^ 64)
    (offset : row.absoluteOffset < 2 ^ 64) :
    checkExtent fileSize verify (indexed row) = .ok () ↔
      (verify = true → Lies fileSize row) := by
  unfold checkExtent Lies
  cases verify with
  | false => simp
  | true =>
      simp only [if_true, true_implies]
      have path : (indexed row).shardPath = row.shardPath := rfl
      rw [path]
      cases found : fileSize row.shardPath with
      | error message => simp [PleLayout.refuse]
      | ok size =>
          have starts : (UInt64.ofNat row.absoluteOffset).toNat = row.absoluteOffset :=
            UInt64.toNat_ofNat_of_lt' offset
          have lasts : (UInt64.ofNat row.payloadBytes).toNat = row.payloadBytes :=
            UInt64.toNat_ofNat_of_lt' payload
          by_cases inside : row.absoluteOffset + row.payloadBytes ≤ size.toNat
          · have start : ¬ size < UInt64.ofNat row.absoluteOffset := by
              rw [UInt64.lt_iff_toNat_lt, starts]
              omega
            have rest : ¬ size - UInt64.ofNat row.absoluteOffset <
                UInt64.ofNat row.payloadBytes := by
              rw [UInt64.lt_iff_toNat_lt, UInt64.toNat_sub_of_le _ _ (UInt64.not_lt.mp start),
                starts, lasts]
              omega
            simp [indexed, start, rest, inside]
          · have outside : size < UInt64.ofNat row.absoluteOffset ∨
                size - UInt64.ofNat row.absoluteOffset < UInt64.ofNat row.payloadBytes := by
              by_cases start : size < UInt64.ofNat row.absoluteOffset
              · exact .inl start
              · right
                have before := UInt64.not_lt.mp start
                rw [UInt64.lt_iff_toNat_lt, UInt64.toNat_sub_of_le _ _ before, starts, lasts]
                rw [UInt64.le_iff_toNat_le, starts] at before
                omega
            simp [indexed, outside, inside, PleLayout.refuse]

variable {fileSize verify}

theorem add_row_iff {index next : TensorIndexV1} {row : IndexRow} (clean : Clean row)
    (payload : row.payloadBytes < 2 ^ 64) (offset : row.absoluteOffset < 2 ^ 64)
    (fresh : row.name ∉ index.tensors.map IndexedTensorV1.name) :
    TensorIndex.addTensor fileSize verify index (indexed row) = .ok next ↔
      Admitted fileSize verify row ∧
      index.payloadBytes.toNat + row.payloadBytes < 2 ^ 64 ∧
      next = { index with
        payloadBytes := index.payloadBytes + UInt64.ofNat row.payloadBytes
        tensors := index.tensors ++ [indexed row] } := by
  have lasts : (UInt64.ofNat row.payloadBytes).toNat = row.payloadBytes :=
    UInt64.toNat_ofNat_of_lt' payload
  have empty : UInt64.ofNat row.payloadBytes = 0 ↔ row.payloadBytes = 0 := by
    rw [← UInt64.toNat_inj, lasts]
    rfl
  have room : ¬ 18446744073709551615 - UInt64.ofNat row.payloadBytes < index.payloadBytes ↔
      index.payloadBytes.toNat + row.payloadBytes < 2 ^ 64 := by
    have small := (UInt64.ofNat row.payloadBytes).toNat_lt
    have below : UInt64.ofNat row.payloadBytes ≤ 18446744073709551615 := by
      rw [UInt64.le_iff_toNat_le]
      exact Nat.le_of_lt_succ small
    rw [UInt64.lt_iff_toNat_lt, UInt64.toNat_sub_of_le _ _ below, lasts]
    change ¬ 18446744073709551615 - row.payloadBytes < index.payloadBytes.toNat ↔ _
    omega
  simp only [TensorIndex.addTensor]
  by_cases weighty : row.payloadBytes = 0
  · rw [if_pos (.inr (.inr (.inl (empty.mpr weighty))))]
    constructor
    · intro added
      cases added
    · rintro ⟨admitted, _⟩
      exact absurd weighty admitted.weighty
  · have fields : ¬ ((indexed row).name = [] ∨ (indexed row).typeName = [] ∨
        (indexed row).payloadBytes = 0 ∨ (indexed row).shardPath = [] ∨
        (indexed row).dims = []) := by
      rintro (name | type | bytes | path | dims)
      · exact clean.name name
      · exact clean.type type
      · exact weighty (empty.mp bytes)
      · exact clean.path path
      · exact clean.dims dims
    have unmet : (indexed row).name ∉ index.tensors.map IndexedTensorV1.name := fresh
    rw [if_neg fields, if_neg unmet]
    by_cases space : index.payloadBytes.toNat + row.payloadBytes < 2 ^ 64
    · have fits : ¬ 18446744073709551615 - (indexed row).payloadBytes < index.payloadBytes :=
        room.mpr space
      rw [if_neg fits]
      constructor
      · intro added
        obtain ⟨_, extent, added⟩ := bind_ok added
        cases added
        have lies := (extent_iff fileSize verify payload offset).mp extent
        exact ⟨⟨weighty, payload, offset, lies⟩, space, rfl⟩
      · rintro ⟨admitted, _, rfl⟩
        rw [(extent_iff fileSize verify payload offset).mpr admitted.lies]
        rfl
    · have full : 18446744073709551615 - (indexed row).payloadBytes < index.payloadBytes :=
        not_not.mp (mt room.mp space)
      rw [if_pos full]
      constructor
      · intro added
        cases added
      · rintro ⟨_, fits, _⟩
        exact absurd fits space

theorem record_shape (row : IndexRow) :
    ∃ rest, recordLine row = 't' :: rest := by
  unfold recordLine
  rw [joined_cons]
  exact ⟨_, rfl⟩

theorem load_record_line {loading : Loading} {row : IndexRow} (clean : Clean row) :
    loadLine fileSize verify loading (recordLine row) =
      loadRecord fileSize verify { loading with lineNumber := loading.lineNumber + 1 }
        (recordFields row) := by
  obtain ⟨rest, shape⟩ := record_shape row
  have fields := record_split clean
  rw [shape] at fields ⊢
  have other (start : List Char) (some_ : start.head? ≠ none) (apart : start.head? ≠ some 't') :
      start.isPrefixOf ('t' :: rest) = false := by
    cases start with
    | nil => exact absurd rfl some_
    | cons first later =>
        have differs : (first == 't') = false := by
          simpa using apart
        rw [List.isPrefixOf_cons_cons, differs, Bool.false_and]
  simp only [loadLine, other "stage=".toList (by decide) (by decide),
    other "cut=".toList (by decide) (by decide),
    other "layout_sha256=".toList (by decide) (by decide), fields, Bool.false_eq_true, if_false]
  rw [if_neg]
  simp

def addRow (loading : Loading) (row : IndexRow) : Loading :=
  { loading with
    index := { loading.index with
      payloadBytes := loading.index.payloadBytes + UInt64.ofNat row.payloadBytes
      tensors := loading.index.tensors ++ [indexed row] }
    lineNumber := loading.lineNumber + 1 }

theorem load_row_iff {loading next : Loading} {row : IndexRow} (clean : Clean row)
    (fresh : row.name ∉ loading.index.tensors.map IndexedTensorV1.name) :
    loadLine fileSize verify loading (recordLine row) = .ok next ↔
      Admitted fileSize verify row ∧
      loading.index.payloadBytes.toNat + row.payloadBytes < 2 ^ 64 ∧
      next = addRow loading row := by
  rw [load_record_line clean, loadRecord, if_neg (by simp [recordFields])]
  constructor
  · intro loaded
    obtain ⟨tensor, parsed, loaded⟩ := bind_ok loaded
    obtain ⟨index, added, loaded⟩ := bind_ok loaded
    cases loaded
    obtain ⟨payload, offset, rfl⟩ := parse_record_iff.mp parsed
    obtain ⟨admitted, space, rfl⟩ := (add_row_iff clean payload offset fresh).mp added
    exact ⟨admitted, space, rfl⟩
  · rintro ⟨admitted, space, rfl⟩
    rw [parse_record_iff.mpr ⟨admitted.payload, admitted.offset, rfl⟩]
    have added := (add_row_iff clean admitted.payload admitted.offset fresh).mpr
      ⟨admitted, space, rfl⟩
    change (addTensor fileSize verify loading.index (indexed row) >>= _) = _
    rw [added]
    rfl

/-- Induction over the rows; the total so far is below `2 ^ 64` by what was accepted. -/
theorem load_rows_iff {rows : List IndexRow} {loading final : Loading}
    (clean : ∀ row ∈ rows, Clean row)
    (distinct : (loading.index.tensors.map IndexedTensorV1.name ++ names rows).Nodup) :
    (rows.map recordLine).foldlM (loadLine fileSize verify) loading = .ok final ↔
      (∀ row ∈ rows, Admitted fileSize verify row) ∧
      loading.index.payloadBytes.toNat + weight rows < 2 ^ 64 ∧
      final = rows.foldl addRow loading := by
  induction rows generalizing loading with
  | nil =>
      have small := loading.index.payloadBytes.toNat_lt
      constructor
      · intro loaded
        cases loaded
        exact ⟨by simp, small, rfl⟩
      · rintro ⟨_, _, rfl⟩
        rfl
  | cons row rest ih =>
      have first : Clean row := clean row List.mem_cons_self
      have others : ∀ other ∈ rest, Clean other := fun other member =>
        clean other (List.mem_cons_of_mem row member)
      have fresh : row.name ∉ loading.index.tensors.map IndexedTensorV1.name := fun met =>
        (List.nodup_append.mp distinct).2.2 row.name met row.name List.mem_cons_self rfl
      have later : ((addRow loading row).index.tensors.map IndexedTensorV1.name ++
          names rest).Nodup := by
        simpa [addRow, indexed, names] using distinct
      have total (space : loading.index.payloadBytes.toNat + row.payloadBytes < 2 ^ 64)
          (small : row.payloadBytes < 2 ^ 64) :
          (addRow loading row).index.payloadBytes.toNat =
            loading.index.payloadBytes.toNat + row.payloadBytes := by
        change (loading.index.payloadBytes + UInt64.ofNat row.payloadBytes).toNat = _
        rw [UInt64.toNat_add, UInt64.toNat_ofNat_of_lt' small, Nat.mod_eq_of_lt space]
      have sum : weight (row :: rest) = row.payloadBytes + weight rest := List.sum_cons
      rw [List.map_cons, List.foldlM_cons, List.foldl_cons, List.forall_mem_cons, sum]
      constructor
      · intro loaded
        obtain ⟨next, begun, loaded⟩ := bind_ok loaded
        obtain ⟨admitted, space, rfl⟩ := (load_row_iff first fresh).mp begun
        obtain ⟨rest_, fits, rfl⟩ := (ih others later).mp loaded
        rw [total space admitted.payload] at fits
        exact ⟨⟨admitted, rest_⟩, by omega, rfl⟩
      · rintro ⟨⟨admitted, rest_⟩, fits, rfl⟩
        have space : loading.index.payloadBytes.toNat + row.payloadBytes < 2 ^ 64 := by omega
        rw [(load_row_iff first fresh).mpr ⟨admitted, space, rfl⟩]
        refine (ih others later).mpr ⟨rest_, ?_, rfl⟩
        rw [total space admitted.payload]
        omega

theorem add_rows (rows : List IndexRow) (loading : Loading) :
    rows.foldl addRow loading = { loading with
      index := { loading.index with
        payloadBytes := loading.index.payloadBytes + UInt64.ofNat (weight rows)
        tensors := loading.index.tensors ++ rows.map indexed }
      lineNumber := loading.lineNumber + rows.length } := by
  induction rows generalizing loading with
  | nil => simp [weight]
  | cons row rest ih =>
      rw [List.foldl_cons, ih]
      simp [addRow, weight, UInt64.add_assoc, Nat.add_comm, Nat.add_left_comm]

def headed (stage : Nat) (cut : Int) (layout : List Char) : Loading where
  index := {
    stage := UInt32.ofNat stage
    cut := UInt32.ofNat cut.toNat
    layoutSha256 := layout }
  sawStage := true
  sawCut := true
  sawLayout := true
  lineNumber := 4

theorem int_text_positive {value : Int} (positive : 0 < value) :
    intText value = decimalText value.toNat := if_neg (by omega)

theorem stage_line (loading : Loading) (value : List Char) :
    loadLine fileSize verify loading ("stage=".toList ++ value) =
      loadStage { loading with lineNumber := loading.lineNumber + 1 } value := rfl

theorem cut_line (loading : Loading) (value : List Char) :
    loadLine fileSize verify loading ("cut=".toList ++ value) =
      loadCut { loading with lineNumber := loading.lineNumber + 1 } value := rfl

theorem layout_line (loading : Loading) (value : List Char) :
    loadLine fileSize verify loading ("layout_sha256=".toList ++ value) =
      loadLayout { loading with lineNumber := loading.lineNumber + 1 } value := rfl

theorem load_stage_decimal {stage : Nat} (known : stage < 2) {loading : Loading}
    (unseen : loading.sawStage = false) :
    loadStage loading (decimalText stage) =
      .ok { loading with
        index := { loading.index with stage := UInt32.ofNat stage }
        sawStage := true } := by
  have read := (@parse_decimal_iff "stage" stage _).mpr
    ⟨Nat.lt_trans known (by decide : 2 < 2 ^ 64), rfl⟩
  have small : ¬ (1 : UInt64) < UInt64.ofNat stage := by
    rw [UInt64.lt_iff_toNat_lt, UInt64.toNat_ofNat_of_lt' (Nat.lt_trans known (by decide))]
    change ¬ 1 < stage
    omega
  simp only [loadStage, unseen, Bool.false_eq_true, if_false, read]
  change (if (1 : UInt64) < UInt64.ofNat stage then _ else _) = _
  rw [if_neg small, UInt64.toUInt32_ofNat']
  rfl

theorem load_cut_iff {cut : Int} (positive : 0 < cut) {loading next : Loading}
    (unseen : loading.sawCut = false) :
    loadCut loading (intText cut) = .ok next ↔
      cut < 2 ^ 32 ∧
      next = { loading with
        index := { loading.index with cut := UInt32.ofNat cut.toNat }
        sawCut := true } := by
  rw [int_text_positive positive]
  simp only [loadCut, unseen, Bool.false_eq_true, if_false]
  constructor
  · intro loaded
    obtain ⟨parsed, read, loaded⟩ := bind_ok loaded
    obtain ⟨small, rfl⟩ := parse_decimal_iff.mp read
    split at loaded
    · cases loaded
    · next valid =>
        rw [not_or, UInt64.not_lt, UInt64.le_iff_toNat_le, UInt64.toNat_ofNat_of_lt' small]
          at valid
        cases loaded
        refine ⟨?_, by simp⟩
        have bound : cut.toNat ≤ 4294967295 := valid.2
        omega
  · rintro ⟨narrow, rfl⟩
    have small : cut.toNat < 2 ^ 64 := by omega
    rw [parse_decimal_iff.mpr ⟨small, rfl⟩]
    have valid : ¬ (UInt64.ofNat cut.toNat = 0 ∨
        (4294967295 : UInt64) < UInt64.ofNat cut.toNat) := by
      rw [← UInt64.toNat_inj, UInt64.lt_iff_toNat_lt, UInt64.toNat_ofNat_of_lt' small]
      change ¬ (cut.toNat = 0 ∨ 4294967295 < cut.toNat)
      omega
    change (if UInt64.ofNat cut.toNat = 0 ∨ (4294967295 : UInt64) < UInt64.ofNat cut.toNat
      then _ else _) = _
    rw [if_neg valid, UInt64.toUInt32_ofNat']
    rfl

theorem load_layout_hex {layout : List Char} (hex : DeviceArtifact.isHex layout 64 = true)
    {loading : Loading} (unseen : loading.sawLayout = false) :
    loadLayout loading layout =
      .ok { loading with
        index := { loading.index with layoutSha256 := layout }
        sawLayout := true } := by
  simp [loadLayout, unseen, isSha256, hex]

theorem load_headers_iff {stage : Nat} (known : stage < 2) {cut : Int} (positive : 0 < cut)
    {layout : List Char} (hex : DeviceArtifact.isHex layout 64 = true) {next : Loading} :
    ["stage=".toList ++ decimalText stage, "cut=".toList ++ intText cut,
        "layout_sha256=".toList ++ layout].foldlM (loadLine fileSize verify) {} = .ok next ↔
      cut < 2 ^ 32 ∧ next = headed stage cut layout := by
  simp only [List.foldlM_cons, List.foldlM_nil, stage_line, cut_line, layout_line]
  rw [load_stage_decimal known rfl]
  constructor
  · intro loaded
    obtain ⟨_, begun, loaded⟩ := bind_ok loaded
    cases begun
    obtain ⟨_, counted, loaded⟩ := bind_ok loaded
    obtain ⟨narrow, rfl⟩ := (load_cut_iff positive rfl).mp counted
    rw [load_layout_hex hex rfl] at loaded
    cases loaded
    exact ⟨narrow, rfl⟩
  · rintro ⟨narrow, rfl⟩
    change loadCut _ _ >>= _ = _
    rw [(load_cut_iff positive rfl).mpr ⟨narrow, rfl⟩]
    change loadLayout _ _ >>= _ = _
    rw [load_layout_hex hex rfl]
    rfl

def sorted (rows : List IndexRow) : List IndexRow := sortedBy (fun row : IndexRow => row.name) rows

theorem sorted_perm (rows : List IndexRow) : (sorted rows).Perm rows :=
  List.perm_insertionSort _ rows

theorem weight_sorted (rows : List IndexRow) : weight (sorted rows) = weight rows :=
  ((sorted_perm rows).map fun row : IndexRow => row.payloadBytes).sum_eq

theorem hex_plain {layout : List Char} (hex : DeviceArtifact.isHex layout 64 = true) :
    '\n' ∉ layout := by
  intro member
  rw [DeviceArtifact.isHex, Bool.and_eq_true, List.all_eq_true] at hex
  exact absurd (hex.2 '\n' member) (by decide)

theorem lines_plain {stage : Nat} {cut : Int} (positive : 0 < cut) {layout : List Char}
    (hex : DeviceArtifact.isHex layout 64 = true) {rows : List IndexRow}
    (clean : ∀ row ∈ rows, Clean row) :
    ∀ line ∈ indexLines stage cut layout rows, '\n' ∉ line := by
  have after (start : List Char) {value : List Char} (first : '\n' ∉ start)
      (later : '\n' ∉ value) : '\n' ∉ start ++ value := by
    rw [List.mem_append, not_or]
    exact ⟨first, later⟩
  have plain (value : Nat) : '\n' ∉ decimalText value := decimal_plain (by decide)
  intro line member
  simp only [indexLines, List.mem_append, List.mem_cons, List.not_mem_nil, or_false] at member
  rcases member with (rfl | rfl | rfl | rfl) | record
  · decide
  · exact after _ (by decide) (plain stage)
  · rw [int_text_positive positive]
    exact after _ (by decide) (plain cut.toNat)
  · exact after _ (by decide) (hex_plain hex)
  · obtain ⟨row, member, rfl⟩ := List.mem_map.mp record
    exact record_plain (clean row ((sorted_perm rows).mem_iff.mp member))

def loaded (stage : Nat) (cut : Int) (layout : List Char) (rows : List IndexRow) :
    TensorIndexV1 where
  stage := UInt32.ofNat stage
  cut := UInt32.ofNat cut.toNat
  layoutSha256 := layout
  tensors := (sorted rows).map indexed
  payloadBytes := UInt64.ofNat (weight rows)

/-- The rows that a reader takes from the text of a stage. -/
structure Accepted (fileSize : List Char → Except String UInt64) (verify : Bool)
    (rows : List IndexRow) : Prop where
  some_ : rows ≠ []
  admitted : ∀ row ∈ rows, Admitted fileSize verify row
  total : weight rows < 2 ^ 64

theorem complete_rows (stage : Nat) (cut : Int) (layout : List Char) (rows : List IndexRow) :
    checkComplete ((sorted rows).foldl addRow (headed stage cut layout)) =
      if rows = [] then PleLayout.refuse "tensor index is empty"
      else .ok (loaded stage cut layout rows) := by
  have empty : sorted rows = [] ↔ rows = [] := by
    constructor
    · intro none_
      exact List.nil_perm.mp (none_ ▸ sorted_perm rows)
    · rintro rfl
      rfl
  simp [add_rows, checkComplete, headed, loaded, weight_sorted, empty]

theorem load_text {path : String} {stage : Nat} {cut : Int} (positive : 0 < cut)
    {layout : List Char} (hex : DeviceArtifact.isHex layout 64 = true) {rows : List IndexRow}
    (clean : ∀ row ∈ rows, Clean row) :
    loadTensorIndex fileSize verify path (some (indexText stage cut layout rows)) = (do
      let before ← ["stage=".toList ++ decimalText stage, "cut=".toList ++ intText cut,
        "layout_sha256=".toList ++ layout].foldlM (loadLine fileSize verify) {}
      let after ← ((sorted rows).map recordLine).foldlM (loadLine fileSize verify) before
      checkComplete after) := by
  have text : split '\n' (indexText stage cut layout rows) [] =
      indexLines stage cut layout rows :=
    split_lines (lines_plain positive hex clean) (by simp [indexLines])
  have lines : indexLines stage cut layout rows = "Q38_TENSOR_INDEX_V1".toList ::
      (["stage=".toList ++ decimalText stage, "cut=".toList ++ intText cut,
        "layout_sha256=".toList ++ layout] ++ (sorted rows).map recordLine) := rfl
  simp only [loadTensorIndex, text, lines]
  rw [if_neg (not_not.mpr rfl), List.foldlM_append, bind_assoc]

theorem load_index_iff {path : String} {stage : Nat} (known : stage < 2) {cut : Int}
    (positive : 0 < cut) {layout : List Char} (hex : DeviceArtifact.isHex layout 64 = true)
    {rows : List IndexRow} (clean : ∀ row ∈ rows, Clean row) (distinct : (names rows).Nodup)
    {index : TensorIndexV1} :
    loadTensorIndex fileSize verify path (some (indexText stage cut layout rows)) = .ok index ↔
      cut < 2 ^ 32 ∧ Accepted fileSize verify rows ∧ index = loaded stage cut layout rows := by
  have cleanSorted : ∀ row ∈ sorted rows, Clean row := fun row member =>
    clean row ((sorted_perm rows).mem_iff.mp member)
  have distinctSorted : (names (sorted rows)).Nodup :=
    ((sorted_perm rows).map fun row : IndexRow => row.name).nodup_iff.mpr distinct
  have records {final : Loading} := @load_rows_iff fileSize verify (sorted rows)
    (headed stage cut layout) final cleanSorted distinctSorted
  have start : (headed stage cut layout).index.payloadBytes.toNat = 0 := rfl
  rw [start, Nat.zero_add, weight_sorted] at records
  rw [load_text positive hex clean]
  constructor
  · intro read
    obtain ⟨_, begun, read⟩ := bind_ok read
    obtain ⟨_, recorded, checked⟩ := bind_ok read
    obtain ⟨narrow, rfl⟩ := (load_headers_iff known positive hex).mp begun
    obtain ⟨admitted, total, rfl⟩ := records.mp recorded
    rw [complete_rows] at checked
    split at checked
    · cases checked
    · next some_ =>
        cases checked
        exact ⟨narrow, ⟨some_, fun row member =>
          admitted row ((sorted_perm rows).mem_iff.mpr member), total⟩, rfl⟩
  · rintro ⟨narrow, accepted, rfl⟩
    have begun := (@load_headers_iff fileSize verify stage known cut positive layout hex _).mpr
      ⟨narrow, rfl⟩
    have recorded := records.mpr ⟨fun row member =>
      accepted.admitted row ((sorted_perm rows).mem_iff.mp member), accepted.total, rfl⟩
    rw [begun]
    change (((sorted rows).map recordLine).foldlM (loadLine fileSize verify) _ >>= _) = _
    rw [recorded]
    change checkComplete _ = _
    rw [complete_rows, if_neg accepted.some_]

end Loading

end Q38.TensorIndexReading
