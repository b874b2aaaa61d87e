import Q38Runtime.WeightPacking

/-!
Every reader of the device bytes finds what the packer stored. The packed bytes
are one table of rows; the arena holds each extent as a whole, a tiled one with
its bytes reordered; and both index calculations lead to the byte of the row
table that holds the element.
-/
namespace Q38.WeightPacking

open StridedLoops StagedUpload

section Packed

theorem chunked_rows {α : Type} {chunkRows : Nat} (positive : 0 < chunkRows) (rows : Nat)
    (entry : Nat → List α) :
    ((strided 0 chunkRows rows).flatMap fun first =>
      ((List.range (min chunkRows (rows - first))).map (first + ·)).flatMap entry) =
      (List.range rows).flatMap entry := by
  rw [← strided_cover positive rows, List.flatMap_assoc]

theorem rows_per_chunk_positive (workingFloatBytes columns : Nat) :
    0 < rowsPerChunk workingFloatBytes columns :=
  Nat.lt_of_lt_of_le Nat.zero_lt_one (Nat.le_max_left _ _)

/-- The packed extents are the rows one after another, however they were chunked. -/
theorem quantize_groupwise_rows {workingFloatBytes bits groupSize : Nat} {shape : List Nat}
    {rounded : Rounded} {packed : Packed}
    (stored : quantizeGroupwise workingFloatBytes bits groupSize shape rounded = some packed) :
    shape.getLastD 0 % groupSize = 0 ∧
      packed.data = (List.range shape.dropLast.prod).flatMap
        (packRow bits (shape.getLastD 0) rounded) ∧
      packed.scales = (List.range shape.dropLast.prod).flatMap
        (packScales (shape.getLastD 0 / groupSize) rounded) := by
  rw [quantizeGroupwise] at stored
  dsimp only at stored
  split at stored
  · cases stored
  · next accepted =>
      split at stored
      · cases stored
      · rw [not_or, not_not] at accepted
        cases stored
        have positive := rows_per_chunk_positive workingFloatBytes (shape.getLastD 0)
        exact ⟨accepted.2, chunked_rows positive _ _, chunked_rows positive _ _⟩

theorem quantized_bounds (bits : Nat) (rounded : Rounded) (row column : Nat) :
    -quantMax bits ≤ quantized bits rounded row column ∧
      quantized bits rounded row column ≤ quantMax bits := by
  have order : -quantMax bits ≤ quantMax bits := by
    unfold quantMax
    split <;> decide
  exact ⟨le_max_left _ _, max_le order (min_le_right _ _)⟩

theorem pair_nibbles {low high : Int} (lows : -7 ≤ low ∧ low ≤ 7) (highs : -7 ≤ high ∧ high ≤ 7) :
    signedNibble (packPair low high &&& 0xf#8).toNat = low ∧
      signedNibble (packPair low high >>> 4).toNat = high := by
  have all : ∀ first < 16, ∀ second < 16,
      signedNibble (packPair ((first : Nat) - 8) ((second : Nat) - 8) &&& 0xf#8).toNat =
          (first : Int) - 8 ∧
        signedNibble (packPair ((first : Nat) - 8) ((second : Nat) - 8) >>> 4).toNat =
          (second : Int) - 8 := by decide
  have here := all (low + 8).toNat (by omega) (high + 8).toNat (by omega)
  rw [Int.toNat_of_nonneg (by omega), Int.toNat_of_nonneg (by omega)] at here
  simpa using here

theorem byte_value {value : Int} (bounds : -127 ≤ value ∧ value ≤ 127) :
    (BitVec.ofInt 8 value).toInt = value := by
  rw [BitVec.toInt_ofInt]
  apply Int.bmod_eq_of_le <;> omega

theorem scale_word (word : Scale) :
    ((word >>> 8).setWidth 8 ++ word.setWidth 8 : BitVec 16) = word := by
  ext index inside
  simp only [BitVec.getElem_append, BitVec.getElem_setWidth, BitVec.getLsbD_ushiftRight]
  split
  · simp
    rfl
  · next upper =>
      have place : 8 + (index - 8) = index := by omega
      simp only [place]
      rfl

end Packed

section Arena

theorem align_up_le {alignment : Nat} (positive : 0 < alignment) (value : Nat) :
    value ≤ alignUp value alignment := by
  have split := Nat.div_add_mod (value + (alignment - 1)) alignment
  have rest := Nat.mod_lt (value + (alignment - 1)) positive
  rw [Nat.mul_comm] at split
  unfold alignUp
  omega

/-- The bytes that an upload leaves at the data offset of a placement. -/
def deviceBytes (options : WeightOptions) (placement : TensorPlacement) : List Byte :=
  if placement.layout = .moeW4Tile16x16 then (tiledChunks options placement.tensor).flatten
  else placement.tensor.data

/-- The extents of a placement are in the arena. -/
structure Resides (options : WeightOptions) (device : Nat → Byte) (placement : TensorPlacement) :
    Prop where
  data : ∀ index (inside : index < (deviceBytes options placement).length),
    device (placement.dataOffset + index) = (deviceBytes options placement)[index]
  scales : ∀ index (inside : index < placement.tensor.scales.length),
    device (placement.scaleOffset + index) = placement.tensor.scales[index]
  staged : placement.layout = .moeW4Tile16x16 → kTileBytes ≤ options.stagingBytes
  whole : (deviceBytes options placement).length = placement.tensor.data.length

theorem upload_data_settled {options : WeightOptions} {eager : Nat → Nat}
    {placement : TensorPlacement} {uploader after : Uploader Byte}
    (staging : 0 < options.stagingBytes)
    (uploaded : uploadData options eager placement uploader = some after) :
    (deviceBytes options placement).length = placement.tensor.data.length ∧
      (placement.layout = .moeW4Tile16x16 → kTileBytes ≤ options.stagingBytes) ∧
      after.settled =
        place uploader.settled placement.dataOffset (deviceBytes options placement) := by
  unfold uploadData at uploaded
  unfold deviceBytes
  split at uploaded
  · next tiled =>
      rw [if_pos tiled]
      unfold uploadTiledW4 at uploaded
      dsimp only at uploaded
      split at uploaded
      · cases uploaded
      · next accepted =>
          cases uploaded
          rw [not_or, not_not] at accepted
          exact ⟨accepted.2, fun _ => Nat.le_of_not_lt accepted.1, push_all_settled _ _ _ _ _⟩
  · next plain =>
      rw [if_neg plain]
      cases uploaded
      refine ⟨rfl, fun tiled => absurd tiled plain, ?_⟩
      rw [uploadExtent, push_all_settled, pieces_flatten staging]

/-- One tensor: its extents settle at its offsets, the rest is left alone. -/
theorem upload_tensor_settled {options : WeightOptions} {eager : Nat → Nat}
    {placement : TensorPlacement} {uploader after : Uploader Byte}
    (staging : 0 < options.stagingBytes)
    (uploaded : uploadTensor options eager placement uploader = some after) :
    (deviceBytes options placement).length = placement.tensor.data.length ∧
      (placement.layout = .moeW4Tile16x16 → kTileBytes ≤ options.stagingBytes) ∧
      after.settled = if placement.tensor.scales.length ≠ 0 then
          place (place uploader.settled placement.dataOffset (deviceBytes options placement))
            placement.scaleOffset placement.tensor.scales
        else place uploader.settled placement.dataOffset (deviceBytes options placement) := by
  obtain ⟨first, found, rest⟩ := Option.bind_eq_some_iff.mp uploaded
  obtain ⟨length, staged, settled⟩ := upload_data_settled staging found
  refine ⟨length, staged, ?_⟩
  split at rest
  · next scaled =>
      cases rest
      rw [if_pos scaled, uploadExtent, push_all_settled, pieces_flatten staging, settled]
  · next plain =>
      cases rest
      rw [if_neg plain, settled]

/-- A whole index: every placement resides, whatever the stream did when. -/
theorem upload_tensors_settled {options : WeightOptions} {eager : Nat → Nat}
    (staging : 0 < options.stagingBytes) (alignment : 0 < options.arenaAlignment)
    {tensors : List DeviceTensor} {arenaBytes : Nat} {uploader after : Uploader Byte}
    (uploaded : uploadTensors options eager (placements options arenaBytes tensors) uploader =
      some after) :
    (∀ placement ∈ placements options arenaBytes tensors,
      Resides options after.settled placement) ∧
    ∀ address < arenaBytes, after.settled address = uploader.settled address := by
  induction tensors generalizing arenaBytes uploader with
  | nil =>
      rw [placements, uploadTensors] at uploaded
      cases uploaded
      exact ⟨by simp [placements], fun _ _ => rfl⟩
  | cons tensor tensors ih =>
      rw [placements, uploadTensors] at uploaded
      obtain ⟨middle, first, rest⟩ := Option.bind_eq_some_iff.mp uploaded
      obtain ⟨length, staged, settled⟩ := upload_tensor_settled staging first
      obtain ⟨later, kept⟩ := ih rest
      have start := align_up_le alignment arenaBytes
      have aligned := align_up_le (show 0 < 256 by decide)
        (alignUp arenaBytes options.arenaAlignment + tensor.data.length)
      simp only [placeTensor] at length settled kept ⊢
      constructor
      · intro placement listed
        rw [placements, List.mem_cons] at listed
        rcases listed with rfl | listed
        · constructor
          · intro index inside
            dsimp only [placeTensor] at inside ⊢
            rw [length] at inside
            by_cases scaled : tensor.scales.length ≠ 0
            · simp only [if_pos scaled] at kept settled ⊢
              rw [kept _ (by omega), settled, place_outside _ _ _ (by omega)]
              exact place_inside _ _ _ _
            · simp only [if_neg scaled] at kept settled ⊢
              rw [kept _ (by omega), settled]
              exact place_inside _ _ _ _
          · intro index inside
            dsimp only [placeTensor] at inside ⊢
            have scaled : tensor.scales.length ≠ 0 := by omega
            simp only [if_pos scaled] at kept settled ⊢
            rw [kept _ (by omega), settled]
            exact place_inside _ _ _ _
          · exact staged
          · exact length
        · exact later placement listed
      · intro address below
        by_cases scaled : tensor.scales.length ≠ 0
        · simp only [if_pos scaled] at kept settled
          rw [kept _ (by omega), settled, place_outside _ _ _ (by omega),
            place_outside _ _ _ (by omega)]
        · simp only [if_neg scaled] at kept settled
          rw [kept _ (by omega), settled, place_outside _ _ _ (by omega)]

theorem placements_mem {options : WeightOptions} {arenaBytes : Nat} {tensors : List DeviceTensor}
    {tensor : DeviceTensor} (listed : tensor ∈ tensors) :
    ∃ placement ∈ placements options arenaBytes tensors, placement.tensor = tensor ∧
      placement.layout =
        if shouldTileMoeW4 options tensor then .moeW4Tile16x16 else .rowMajor := by
  induction tensors generalizing arenaBytes with
  | nil => cases listed
  | cons head tensors ih =>
      rw [placements]
      rcases List.mem_cons.mp listed with rfl | later
      · exact ⟨_, List.mem_cons_self, rfl, rfl⟩
      · obtain ⟨placement, found, facts⟩ := @ih (placeTensor options arenaBytes head).1 later
        exact ⟨placement, List.mem_cons_of_mem _ found, facts⟩

theorem initialize_resides {options : WeightOptions} {eager : Nat → Nat}
    {index : List DeviceTensor} {uploader : Uploader Byte} {device : Nat → Byte}
    {placed : List TensorPlacement}
    (ready : initializeWeights options eager index uploader = some (device, placed))
    {tensor : DeviceTensor} (listed : tensor ∈ index) (kept : resident options tensor = true) :
    ∃ placement ∈ placed, placement.tensor = tensor ∧
      (placement.layout =
        if shouldTileMoeW4 options tensor then .moeW4Tile16x16 else .rowMajor) ∧
      Resides options device placement := by
  rw [initializeWeights] at ready
  split at ready
  · cases ready
  · next accepted =>
      dsimp only at ready
      split at ready
      · cases ready
      · obtain ⟨uploaded, done, result⟩ := Option.bind_eq_some_iff.mp ready
        cases result
        have staging : 0 < options.stagingBytes := by omega
        have alignment : 0 < options.arenaAlignment := by omega
        obtain ⟨resides, -⟩ := upload_tensors_settled staging alignment done
        obtain ⟨placement, found, same, layout⟩ :=
          @placements_mem options 0 _ _ (List.mem_filter.mpr ⟨listed, kept⟩)
        refine ⟨placement, found, same, layout, ?_⟩
        rw [synchronize_device]
        exact resides placement found

end Arena

section RowTable

/-- A byte of an extent, wherever it was put. -/
def byteAt (bytes : List Byte) (index : Nat) : Byte := bytes.getD index 0

theorem table_byte {rows width row column : Nat} (entry : Nat → Nat → Byte) (inside : row < rows)
    (within : column < width) :
    byteAt ((List.range rows).flatMap fun row => (List.range width).map (entry row))
      (row * width + column) = entry row column := by
  have below : row * width + column < rows * width := by
    have next : (row + 1) * width ≤ rows * width := Nat.mul_le_mul_right _ inside
    rw [Nat.succ_mul] at next
    omega
  have positive : 0 < width := Nat.zero_lt_of_lt within
  rw [table_list, byteAt, List.getD_eq_getElem?_getD, List.getElem?_map,
    List.getElem?_range below, Option.map_some, Option.getD_some, Nat.mul_comm row,
    Nat.mul_add_div positive, Nat.div_eq_of_lt within, Nat.add_zero, Nat.mul_add_mod,
    Nat.mod_eq_of_lt within]

theorem packed_pair (columns rows : Nat) (rounded : Rounded) {row pair : Nat}
    (inside : row < rows) (within : pair < columns / 2) :
    byteAt ((List.range rows).flatMap (packRow 4 columns rounded)) (row * (columns / 2) + pair) =
      packPair (quantized 4 rounded row (2 * pair)) (quantized 4 rounded row (2 * pair + 1)) :=
  table_byte (fun row pair => packPair (quantized 4 rounded row (2 * pair))
    (quantized 4 rounded row (2 * pair + 1))) inside within

theorem packed_byte (columns rows : Nat) (rounded : Rounded) {row column : Nat}
    (inside : row < rows) (within : column < columns) :
    byteAt ((List.range rows).flatMap (packRow 8 columns rounded)) (row * columns + column) =
      BitVec.ofInt 8 (quantized 8 rounded row column) :=
  table_byte (fun row column => BitVec.ofInt 8 (quantized 8 rounded row column)) inside within

theorem packed_scale (groups rows : Nat) (rounded : Rounded) {row group : Nat}
    (inside : row < rows) (within : group < groups) :
    byteAt ((List.range rows).flatMap (packScales groups rounded))
          (2 * (row * groups + group) + 1) ++
        byteAt ((List.range rows).flatMap (packScales groups rounded))
          (2 * (row * groups + group)) = rounded.scale row group := by
  have shape : ((List.range rows).flatMap (packScales groups rounded)) =
      (List.range rows).flatMap fun row => (List.range (groups * 2)).map fun place =>
        if place % 2 = 0 then (rounded.scale row (place / 2)).setWidth 8
        else (rounded.scale row (place / 2) >>> 8).setWidth 8 := by
    apply List.flatMap_congr
    intro row _
    rw [packScales]
    have words (group : Nat) : scaleBytes (rounded.scale row group) =
        (List.range 2).map fun place =>
          if place = 0 then (rounded.scale row group).setWidth 8
          else (rounded.scale row group >>> 8).setWidth 8 := rfl
    simp only [words]
    rw [table_list groups 2]
  have low : 2 * (row * groups + group) = row * (groups * 2) + 2 * group := by ring
  have high : 2 * (row * groups + group) + 1 = row * (groups * 2) + (2 * group + 1) := by ring
  rw [shape, high, low, table_byte _ inside (by omega), table_byte _ inside (by omega)]
  have odd : (2 * group + 1) % 2 = 1 := by omega
  have even : 2 * group % 2 = 0 := by omega
  have half : (2 * group + 1) / 2 = group := by omega
  have half' : 2 * group / 2 = group := by omega
  rw [odd, even, half, half']
  exact scale_word _

end RowTable

section Tiles

theorem slice_bytes {host : List Byte} {start count : Nat} (inside : start + count ≤ host.length) :
    (host.drop start).take count =
      (List.range count).map fun index => byteAt host (start + index) := by
  apply List.ext_getElem
  · rw [List.length_take, List.length_drop, List.length_map, List.length_range]
    omega
  · intro index below _
    rw [List.length_take, List.length_drop] at below
    have here : start + index < host.length := by omega
    simp [byteAt, List.getElem?_eq_getElem here]

/-- Where the tiled copy takes a byte of a tile from. -/
def tileSource (rows columns tileIndex row column : Nat) : Nat :=
  let columnTiles := columns / kTile
  let tilesPerMatrix := rows / kTile * columnTiles
  let within := tileIndex % tilesPerMatrix
  tileIndex / tilesPerMatrix * (rows * columns / 2) +
    ((within / columnTiles * kTile + row) * (columns / 2) +
      within % columnTiles * (kTile / 2)) + column

/-- The tile that holds a place of a matrix, and the place inside it. -/
theorem tile_source_eq {rowTiles columnTiles expert rowTile columnTile row byte : Nat}
    (rowInside : rowTile < rowTiles) (columnInside : columnTile < columnTiles) :
    tileSource (16 * rowTiles) (16 * columnTiles)
        (expert * (rowTiles * columnTiles) + (rowTile * columnTiles + columnTile)) row byte =
      expert * (16 * rowTiles * (16 * columnTiles) / 2) +
        ((rowTile * 16 + row) * (8 * columnTiles) + (columnTile * 8 + byte)) := by
  have within : rowTile * columnTiles + columnTile < rowTiles * columnTiles := by
    have next : (rowTile + 1) * columnTiles ≤ rowTiles * columnTiles :=
      Nat.mul_le_mul_right _ rowInside
    rw [Nat.succ_mul] at next
    omega
  have positive : 0 < rowTiles * columnTiles := Nat.zero_lt_of_lt within
  have wide : 0 < columnTiles := Nat.zero_lt_of_lt columnInside
  have rows : 16 * rowTiles / kTile = rowTiles := Nat.mul_div_cancel_left _ (by decide)
  have columns : 16 * columnTiles / kTile = columnTiles := Nat.mul_div_cancel_left _ (by decide)
  have half : 16 * columnTiles / 2 = 8 * columnTiles := by omega
  unfold tileSource
  simp only [rows, columns, half]
  rw [Nat.mul_comm expert (rowTiles * columnTiles), Nat.mul_add_div positive, Nat.mul_add_mod,
    Nat.div_eq_of_lt within, Nat.mod_eq_of_lt within, Nat.mul_comm rowTile columnTiles,
    Nat.mul_add_div wide, Nat.mul_add_mod, Nat.div_eq_of_lt columnInside,
    Nat.mod_eq_of_lt columnInside]
  simp only [kTile]
  ring_nf

theorem tile_bytes_eq {host : List Byte} {rows columns tileIndex : Nat}
    (inside : ∀ row < 16, tileSource rows columns tileIndex row 8 ≤ host.length) :
    tileBytes host rows columns tileIndex =
      (List.range 128).map fun place =>
        byteAt host (tileSource rows columns tileIndex (place / 8) (place % 8)) := by
  have bytes := table_list 16 8 fun row column =>
    byteAt host (tileSource rows columns tileIndex row column)
  apply Eq.trans _ bytes
  unfold tileBytes
  apply List.flatMap_congr
  intro row listed
  rw [List.mem_range] at listed
  exact slice_bytes (inside row listed)

/-- The tiles come one after another, however the staging buffers cut them. -/
theorem tiled_chunks_flatten {options : WeightOptions} (staged : kTileBytes ≤ options.stagingBytes)
    (tensor : DeviceTensor) :
    (tiledChunks options tensor).flatten =
      (List.range (tensor.shape.getD 0 0 *
        (tensor.shape.getD 1 0 / kTile * (tensor.shape.getD 2 0 / kTile)))).flatMap
        (tileBytes tensor.data (tensor.shape.getD 1 0) (tensor.shape.getD 2 0)) := by
  have positive : 0 < options.stagingBytes / kTileBytes := Nat.div_pos staged (by decide)
  unfold tiledChunks
  dsimp only
  rw [← List.flatMap_def]
  exact chunked_rows positive _ _

theorem half_matrix (rowTiles columnTiles : Nat) :
    16 * rowTiles * (16 * columnTiles) / 2 = 16 * rowTiles * (8 * columnTiles) := by
  have twice : 16 * rowTiles * (16 * columnTiles) =
      16 * rowTiles * (8 * columnTiles) * 2 := by ring
  rw [twice, Nat.mul_div_cancel _ (by decide)]

theorem row_ends {row rows width ending : Nat} (inside : row < rows) (within : ending ≤ width) :
    row * width + ending ≤ rows * width := by
  have next : (row + 1) * width ≤ rows * width := Nat.mul_le_mul_right _ inside
  rw [Nat.succ_mul] at next
  omega

/-- The index of the readers, by the tile and the place in it. -/
theorem tiled_index_eq (rowTiles columnTiles expert row column : Nat) :
    tiledIndex (16 * rowTiles * (16 * columnTiles)) (16 * columnTiles) expert row column =
      (expert * (rowTiles * columnTiles) + (row / 16 * columnTiles + column / 16)) * 128 +
        (row % 16 * 8 + column % 16 / 2) := by
  have columnTileCount : 16 * columnTiles / kTile = columnTiles :=
    Nat.mul_div_cancel_left _ (by decide)
  unfold tiledIndex
  rw [columnTileCount, half_matrix]
  simp only [kTile, kTileBytes]
  ring

theorem tile_inside {matrices rowTiles columnTiles expert row column : Nat}
    (expertInside : expert < matrices) (rowInside : row < 16 * rowTiles)
    (columnInside : column < 16 * columnTiles) :
    expert * (rowTiles * columnTiles) + (row / 16 * columnTiles + column / 16) <
      matrices * (rowTiles * columnTiles) := by
  have rowTileInside : row / 16 < rowTiles := by omega
  have within := @row_ends _ _ columnTiles (column / 16 + 1) rowTileInside (by omega)
  exact row_ends expertInside within

/-- The byte of a tiled matrix at the index that the readers compute. -/
theorem tiled_byte {options : WeightOptions} {tensor : DeviceTensor}
    {matrices rowTiles columnTiles expert row column : Nat}
    (staged : kTileBytes ≤ options.stagingBytes)
    (shape : tensor.shape = [matrices, 16 * rowTiles, 16 * columnTiles])
    (length : tensor.data.length = matrices * (16 * rowTiles) * (8 * columnTiles))
    (expertInside : expert < matrices) (rowInside : row < 16 * rowTiles)
    (columnInside : column < 16 * columnTiles) :
    byteAt (tiledChunks options tensor).flatten
        (tiledIndex (16 * rowTiles * (16 * columnTiles)) (16 * columnTiles) expert row column) =
      byteAt tensor.data
        ((expert * (16 * rowTiles) + row) * (8 * columnTiles) + column / 2) := by
  rw [tiled_chunks_flatten staged, shape]
  simp only [List.getD_cons_zero, List.getD_cons_succ]
  have rowTileCount : 16 * rowTiles / kTile = rowTiles := Nat.mul_div_cancel_left _ (by decide)
  have columnTileCount : 16 * columnTiles / kTile = columnTiles :=
    Nat.mul_div_cancel_left _ (by decide)
  rw [rowTileCount, columnTileCount]
  -- Every tile of every matrix lies within the extent.
  have tiles : (List.range (matrices * (rowTiles * columnTiles))).flatMap
        (tileBytes tensor.data (16 * rowTiles) (16 * columnTiles)) =
      (List.range (matrices * (rowTiles * columnTiles))).flatMap fun tileIndex =>
        (List.range 128).map fun place => byteAt tensor.data
          (tileSource (16 * rowTiles) (16 * columnTiles) tileIndex (place / 8) (place % 8)) := by
    apply List.flatMap_congr
    intro tileIndex listed
    rw [List.mem_range] at listed
    apply tile_bytes_eq
    intro tileRow below
    have some : 0 < rowTiles * columnTiles := by
      apply Nat.pos_of_ne_zero
      intro none
      rw [none, Nat.mul_zero] at listed
      cases listed
    have wide : 0 < columnTiles := Nat.pos_of_mul_pos_left some
    have whichMatrix : tileIndex / (rowTiles * columnTiles) < matrices := by
      rw [Nat.div_lt_iff_lt_mul some]
      exact listed
    have whichRow : tileIndex % (rowTiles * columnTiles) / columnTiles < rowTiles := by
      rw [Nat.div_lt_iff_lt_mul wide]
      exact Nat.mod_lt _ some
    have whichColumn := Nat.mod_lt (tileIndex % (rowTiles * columnTiles)) wide
    have place : tileIndex = tileIndex / (rowTiles * columnTiles) * (rowTiles * columnTiles) +
        (tileIndex % (rowTiles * columnTiles) / columnTiles * columnTiles +
          tileIndex % (rowTiles * columnTiles) % columnTiles) := by
      rw [Nat.div_add_mod', Nat.div_add_mod']
    rw [place, tile_source_eq whichRow whichColumn, length]
    generalize tileIndex / (rowTiles * columnTiles) = matrix at *
    generalize tileIndex % (rowTiles * columnTiles) / columnTiles = rowTile at *
    generalize tileIndex % (rowTiles * columnTiles) % columnTiles = columnTile at *
    have rowEnd : rowTile * 16 + tileRow < 16 * rowTiles := by omega
    have expertRow : matrix * (16 * rowTiles) + (rowTile * 16 + tileRow) <
        matrices * (16 * rowTiles) := by
      have next : (matrix + 1) * (16 * rowTiles) ≤ matrices * (16 * rowTiles) :=
        Nat.mul_le_mul_right _ whichMatrix
      rw [Nat.succ_mul] at next
      omega
    have here := @row_ends _ _ (8 * columnTiles) (columnTile * 8 + 8) expertRow (by omega)
    rw [half_matrix, ← Nat.add_assoc, ← Nat.mul_assoc, ← Nat.add_mul]
    exact here
  have rowTileInside : row / 16 < rowTiles := by omega
  have columnTileInside : column / 16 < columnTiles := by omega
  have tileInside := tile_inside expertInside rowInside columnInside
  rw [tiles, tiled_index_eq, table_byte _ tileInside (by omega)]
  have tileRow : (row % 16 * 8 + column % 16 / 2) / 8 = row % 16 := by omega
  have tileColumn : (row % 16 * 8 + column % 16 / 2) % 8 = column % 16 / 2 := by omega
  rw [tileRow, tileColumn, tile_source_eq rowTileInside columnTileInside]
  congr 1
  have wholeRow : row / 16 * 16 + row % 16 = row := Nat.div_add_mod' row 16
  have wholeColumn : column / 16 * 8 + column % 16 / 2 = column / 2 := by omega
  rw [half_matrix, wholeRow, wholeColumn, ← Nat.add_assoc, ← Nat.mul_assoc, ← Nat.add_mul]

end Tiles

section Elements

/-- What the packer stored for an element of the flat matrix of all rows. -/
def storedWeight (bits : Nat) (rounded : Rounded) (row column : Nat) : Int × Scale :=
  (quantized bits rounded row column, rounded.scale row (column / kQuantGroupSize))

def weightFormat (bits : Nat) : DeviceWeightFormat :=
  if bits = 4 then .w4a16SymG128 else .w8a16SymG128

/-- Where a reader of pairs looks for an element. -/
def pairIndex (tiled : Bool) (rows columns expert row column : Nat) : Nat :=
  if tiled then tiledIndex (rows * columns) columns expert row column
  else expert * (rows * columns / 2) + (row * columns + column) / 2

/-- The bytes and scale words of a tensor are where its readers look for them. -/
structure Readable (bits : Nat) (tiled : Bool) (data scales : Pointer) (rounded : Rounded)
    (matrices rows columns : Nat) : Prop where
  aligned : columns % 128 = 0
  bytes : bits = 8 → ∀ expert < matrices, ∀ row < rows, ∀ column < columns,
    data (expert * (rows * columns) + (row * columns + column)) =
      BitVec.ofInt 8 (quantized 8 rounded (expert * rows + row) column)
  pairs : bits = 4 → ∀ expert < matrices, ∀ row < rows, ∀ column < columns,
    data (pairIndex tiled rows columns expert row column) =
      packPair (quantized 4 rounded (expert * rows + row) (2 * (column / 2)))
        (quantized 4 rounded (expert * rows + row) (2 * (column / 2) + 1))
  words : ∀ expert < matrices, ∀ row < rows, ∀ group < columns / 128,
    loadBf16 scales (expert * (rows * (columns / 128)) + row * (columns / 128) + group) =
      rounded.scale (expert * rows + row) group

theorem nibble_value (rounded : Rounded) (row column : Nat) {packed : Byte}
    (stored : packed = packPair (quantized 4 rounded row (2 * (column / 2)))
      (quantized 4 rounded row (2 * (column / 2) + 1))) :
    signedNibble (if column % 2 = 1 then (packed >>> 4).toNat else (packed &&& 0x0f#8).toNat) =
      quantized 4 rounded row column := by
  subst stored
  obtain ⟨low, high⟩ := pair_nibbles (quantized_bounds 4 rounded row (2 * (column / 2)))
    (quantized_bounds 4 rounded row (2 * (column / 2) + 1))
  split
  · next odd =>
      have place : 2 * (column / 2) + 1 = column := by omega
      rw [high, place]
  · next even =>
      have place : 2 * (column / 2) = column := by omega
      rw [low, place]

theorem element_parity {row columns column : Nat} (aligned : columns % 128 = 0) :
    (row * columns + column) % 2 = column % 2 := by
  have even : 2 ∣ row * columns := Dvd.dvd.mul_left (by omega) row
  omega

theorem append_word (high low : Byte) :
    (high ++ low : BitVec 16).toNat = high.toNat * 256 + low.toNat := by
  rw [BitVec.toNat_append, ← Nat.shiftLeft_add_eq_or_of_lt low.isLt, Nat.shiftLeft_eq]

theorem low_nibble {width : Nat} (word : BitVec width) (wide : 4 ≤ width) :
    (word &&& BitVec.ofNat width 15).toNat = word.toNat % 16 := by
  rw [BitVec.toNat_and, BitVec.toNat_ofNat]
  have : 15 < 2 ^ width := by
    calc 15 < 2^4 := by decide
      _ ≤ 2^width := Nat.pow_le_pow_right (by decide) wide
  rw [Nat.mod_eq_of_lt this]
  exact Nat.and_two_pow_sub_one_eq_mod word.toNat 4

theorem sign_extend_nibble {value : BitVec 16} (small : value.toNat < 16) :
    signExtendInt4 value = signedNibble value.toNat := by
  have all : ∀ nibble < 16, signExtendInt4 (BitVec.ofNat 16 nibble) = signedNibble nibble := by
    decide
  have here := all value.toNat small
  rwa [BitVec.ofNat_toNat, BitVec.setWidth_eq] at here

theorem nibble_at (word : BitVec 16) (shift : Nat) :
    signExtendInt4 (word >>> shift &&& 0x0f#16) = signedNibble (word.toNat / 2 ^ shift % 16) := by
  have nibble : (word >>> shift &&& 0x0f#16).toNat = word.toNat / 2 ^ shift % 16 := by
    rw [low_nibble _ (by decide), BitVec.toNat_ushiftRight, Nat.shiftRight_eq_div_pow]
  rw [sign_extend_nibble, nibble]
  rw [nibble]
  exact Nat.mod_lt _ (by decide)

/-- The four nibbles of a word are those of its two bytes. -/
theorem word_nibbles {word : BitVec 16} {high low : Byte} (bytes : word = high ++ low) :
    signExtendInt4 (word &&& 0x0f#16) = signedNibble (low &&& 0x0f#8).toNat ∧
      signExtendInt4 (word >>> 4 &&& 0x0f#16) = signedNibble (low >>> 4).toNat ∧
      signExtendInt4 (word >>> 8 &&& 0x0f#16) = signedNibble (high &&& 0x0f#8).toNat ∧
      signExtendInt4 (word >>> 12 &&& 0x0f#16) = signedNibble (high >>> 4).toNat := by
  have value : word.toNat = high.toNat * 256 + low.toNat := by
    rw [bytes]
    exact append_word high low
  have first : word &&& 0x0f#16 = word >>> 0 &&& 0x0f#16 := by rw [BitVec.ushiftRight_zero]
  have lowBound := low.isLt
  have highBound := high.isLt
  rw [first]
  simp only [nibble_at, value, low_nibble _ (show 4 ≤ 8 by decide),
    BitVec.toNat_ushiftRight, Nat.shiftRight_eq_div_pow]
  refine ⟨?_, ?_, ?_, ?_⟩ <;> congr 1 <;> omega
variable {bits : Nat} {tiled : Bool} {data scales : Pointer} {rounded : Rounded}
  {matrices rows columns expert row column : Nat}

theorem quant_weight_stored (width : bits = 4 ∨ bits = 8)
    (readable : Readable bits tiled data scales rounded matrices rows columns)
    (expertInside : expert < matrices) (rowInside : row < rows) (columnInside : column < columns) :
    quantWeight (weightFormat bits) data scales (rows * columns) (rows * (columns / 128)) columns
        expert row column (if tiled then .moeW4Tile16x16 else .rowMajor) =
      storedWeight bits rounded (expert * rows + row) column := by
  have group : column / 128 < columns / 128 := by
    have aligned := readable.aligned
    omega
  unfold quantWeight storedWeight
  dsimp only [kQuantGroupSize]
  rw [readable.words expert expertInside row rowInside _ group]
  rcases width with rfl | rfl
  · have byte := readable.pairs rfl expert expertInside row rowInside column columnInside
    rw [element_parity readable.aligned]
    have layout : (if (if tiled then CudaWeightLayout.moeW4Tile16x16 else .rowMajor) =
        .moeW4Tile16x16 then tiledIndex (rows * columns) columns expert row column
        else expert * (rows * columns / 2) + (row * columns + column) / 2) =
        pairIndex tiled rows columns expert row column := by
      cases tiled <;> rfl
    rw [layout]
    have integer := nibble_value rounded (expert * rows + row) column byte
    exact congrArg (·, _) integer
  · have byte := readable.bytes rfl expert expertInside row rowInside column columnInside
    have integer := byte_value (quantized_bounds 8 rounded (expert * rows + row) column)
    rw [← byte] at integer
    exact congrArg (·, _) integer

theorem dequant_weight_stored (width : bits = 8 ∨ bits = 4 ∧ tiled = false)
    (readable : Readable bits tiled data scales rounded matrices rows columns)
    (expertInside : expert < matrices) (rowInside : row < rows) (columnInside : column < columns) :
    dequantWeight bits data scales (rows * columns) (rows * (columns / 128)) columns expert row
        column = storedWeight bits rounded (expert * rows + row) column := by
  have group : column / 128 < columns / 128 := by
    have aligned := readable.aligned
    omega
  unfold dequantWeight storedWeight
  dsimp only [kQuantGroupSize]
  rw [readable.words expert expertInside row rowInside _ group]
  rcases width with rfl | ⟨rfl, rfl⟩
  · have byte := readable.bytes rfl expert expertInside row rowInside column columnInside
    have integer := byte_value (quantized_bounds 8 rounded (expert * rows + row) column)
    rw [← byte] at integer
    exact congrArg (·, _) integer
  · have byte := readable.pairs rfl expert expertInside row rowInside column columnInside
    rw [element_parity readable.aligned]
    have integer := nibble_value rounded (expert * rows + row) column byte
    have parity : column % 2 ≠ 0 ↔ column % 2 = 1 := by omega
    simp only [parity]
    exact congrArg (·, _) integer

theorem pair_index_next (fourth : column % 4 = 0) :
    pairIndex tiled rows columns expert row (column + 2) =
      pairIndex tiled rows columns expert row column + 1 := by
  unfold pairIndex
  split
  · unfold tiledIndex
    have tile : (column + 2) / kTile = column / kTile := by
      unfold kTile
      omega
    have place : (column + 2) % kTile / 2 = column % kTile / 2 + 1 := by
      unfold kTile
      omega
    rw [tile, place]
    rfl
  · omega

theorem quantized_row_dot_warp_stored {group lane : Nat} (width : bits = 4 ∨ bits = 8)
    (readable : Readable bits tiled data scales rounded matrices rows columns)
    (expertInside : expert < matrices) (rowInside : row < rows)
    (groupInside : group < columns / 128) (laneInside : lane < 32) :
    let weights := quantizedRowDotWarp bits tiled data scales (rows * columns)
      (rows * (columns / 128)) columns expert row group lane
    let stored := fun place =>
      storedWeight bits rounded (expert * rows + row) (group * 128 + lane * 4 + place)
    (weights.1.1, weights.2) = stored 0 ∧ (weights.1.2.1, weights.2) = stored 1 ∧
      (weights.1.2.2.1, weights.2) = stored 2 ∧ (weights.1.2.2.2, weights.2) = stored 3 := by
  have aligned := readable.aligned
  have places (place : Nat) (small : place < 4) :
      group * 128 + lane * 4 + place < columns ∧
        (group * 128 + lane * 4 + place) / 128 = group := by omega
  have scale := readable.words expert expertInside row rowInside group groupInside
  unfold quantizedRowDotWarp storedWeight
  dsimp only [kQuantGroupSize]
  rw [scale, (places 0 (by decide)).2, (places 1 (by decide)).2, (places 2 (by decide)).2,
    (places 3 (by decide)).2]
  rcases width with rfl | rfl
  · have pair (place : Nat) (small : place < 4) :=
      readable.pairs rfl expert expertInside row rowInside _ (places place small).1
    have fourth : (group * 128 + lane * 4) % 4 = 0 := by omega
    have low := pair 0 (by decide)
    have high := pair 2 (by decide)
    rw [pair_index_next fourth] at high
    have lowPlace : 2 * ((group * 128 + lane * 4 + 0) / 2) = group * 128 + lane * 4 := by omega
    have highPlace : 2 * ((group * 128 + lane * 4 + 2) / 2) = group * 128 + lane * 4 + 2 := by
      omega
    rw [lowPlace] at low
    rw [highPlace] at high
    obtain ⟨first, second⟩ := pair_nibbles
      (quantized_bounds 4 rounded (expert * rows + row) (group * 128 + lane * 4))
      (quantized_bounds 4 rounded (expert * rows + row) (group * 128 + lane * 4 + 1))
    obtain ⟨third, last⟩ := pair_nibbles
      (quantized_bounds 4 rounded (expert * rows + row) (group * 128 + lane * 4 + 2))
      (quantized_bounds 4 rounded (expert * rows + row) (group * 128 + lane * 4 + 3))
    rw [← low] at first second
    rw [← high] at third last
    obtain ⟨one, two, three, four⟩ := @word_nibbles
      (data (pairIndex tiled rows columns expert row (group * 128 + lane * 4) + 1) ++
        data (pairIndex tiled rows columns expert row (group * 128 + lane * 4))) _ _ rfl
    exact ⟨congrArg (·, _) (one.trans first), congrArg (·, _) (two.trans second),
      congrArg (·, _) (three.trans third), congrArg (·, _) (four.trans last)⟩
  · have byte (place : Nat) (small : place < 4) :
        (data (expert * (rows * columns) + (row * columns + (group * 128 + lane * 4)) +
          place)).toInt = quantized 8 rounded (expert * rows + row)
            (group * 128 + lane * 4 + place) := by
      have here := readable.bytes rfl expert expertInside row rowInside _ (places place small).1
      rw [Nat.add_assoc, Nat.add_assoc (row * columns), here]
      exact byte_value (quantized_bounds 8 _ _ _)
    rw [← byte 0 (by decide), ← byte 1 (by decide), ← byte 2 (by decide), ← byte 3 (by decide)]
    exact ⟨rfl, rfl, rfl, rfl⟩

/-- The scale register of an iteration holds the scale of the group that the
column tile lies in. -/
theorem grouped_row_scales_eq (scales : Pointer) (scaleElements columns expert firstRow lane
    columnTile iteration : Nat) :
    groupedRowScales scales scaleElements columns expert firstRow lane columnTile iteration =
      loadBf16 scales (expert * scaleElements +
        (firstRow + (lane / 8 + iteration * 4)) * (columns / 128) + columnTile * kTile / 128) := by
  have register : (lane / 8 * 8 + iteration * 32) / 8 = lane / 8 + iteration * 4 := by omega
  induction columnTile with
  | zero => rw [groupedRowScales, register, Nat.zero_mul]
  | succ columnTile ih =>
      rw [groupedRowScales, register]
      split
      · next inside =>
          have group : (columnTile + 1) * kTile / 128 = columnTile * kTile / 128 := by
            unfold kTile at *
            omega
          rw [ih, group]
      · rfl

theorem grouped_pair_stored {firstRow columnTile lane iteration : Nat} (four : bits = 4)
    (readable : Readable bits tiled data scales rounded matrices rows columns)
    (expertInside : expert < matrices)
    (rowInside : firstRow + (lane + iteration * 32) / 8 < rows)
    (tileInside : columnTile < columns / 16) (laneInside : lane < 32) :
    let pair := groupedPair tiled data scales (rows * columns) (rows * (columns / 128)) columns
      expert firstRow columnTile lane iteration
    let stored := storedWeight bits rounded (expert * rows + (firstRow + (lane + iteration * 32) / 8))
    (pair.1.1, pair.2) = stored (columnTile * 16 + (lane + iteration * 32) % 8 * 2) ∧
      (pair.1.2, pair.2) = stored (columnTile * 16 + (lane + iteration * 32) % 8 * 2 + 1) := by
  subst four
  have aligned := readable.aligned
  have columnInside : columnTile * 16 + (lane + iteration * 32) % 8 * 2 < columns := by omega
  have group : columnTile * 16 / 128 < columns / 128 := by omega
  have scale := readable.words expert expertInside _ rowInside _ group
  have byte := readable.pairs rfl expert expertInside _ rowInside _ columnInside
  have lane' : lane / 8 + iteration * 4 = (lane + iteration * 32) / 8 := by omega
  have iteration' : (lane + iteration * 32) / 32 = iteration := by omega
  have firstPlace : 2 * ((columnTile * 16 + (lane + iteration * 32) % 8 * 2) / 2) =
      columnTile * 16 + (lane + iteration * 32) % 8 * 2 := by omega
  have firstGroup : (columnTile * 16 + (lane + iteration * 32) % 8 * 2) / 128 =
      columnTile * 16 / 128 := by omega
  have secondGroup : (columnTile * 16 + (lane + iteration * 32) % 8 * 2 + 1) / 128 =
      columnTile * 16 / 128 := by omega
  rw [firstPlace] at byte
  obtain ⟨low, high⟩ := pair_nibbles
    (quantized_bounds 4 rounded (expert * rows + (firstRow + (lane + iteration * 32) / 8))
      (columnTile * 16 + (lane + iteration * 32) % 8 * 2))
    (quantized_bounds 4 rounded (expert * rows + (firstRow + (lane + iteration * 32) / 8))
      (columnTile * 16 + (lane + iteration * 32) % 8 * 2 + 1))
  rw [← byte] at low high
  unfold groupedPair storedWeight
  dsimp only [kQuantGroupSize]
  rw [grouped_row_scales_eq, iteration', lane', firstGroup, secondGroup]
  dsimp only [kTile]
  rw [scale]
  exact ⟨congrArg (·, _) low, congrArg (·, _) high⟩

theorem matrix_weight_stored (width : bits = 4 ∨ bits = 8)
    (readable : Readable bits false data scales rounded 1 rows columns)
    (rowInside : row < rows) (columnInside : column < columns) :
    matrixWeight (weightFormat bits) data scales columns kQuantGroupSize row column =
      some (storedWeight bits rounded row column) := by
  have group : column / 128 < columns / 128 := by
    have aligned := readable.aligned
    omega
  have scale := readable.words 0 Nat.zero_lt_one row rowInside _ group
  rw [Nat.zero_mul, Nat.zero_mul, Nat.zero_add, Nat.zero_add] at scale
  unfold matrixWeight storedWeight
  dsimp only [kQuantGroupSize]
  rw [scale]
  rcases width with rfl | rfl
  · have byte := readable.pairs rfl 0 Nat.zero_lt_one row rowInside column columnInside
    have integer := nibble_value rounded (0 * rows + row) column byte
    rw [element_parity readable.aligned]
    simp only [pairIndex, Nat.zero_mul, Nat.zero_add] at integer
    exact congrArg (fun value => some (value, _)) integer
  · have byte := readable.bytes rfl 0 Nat.zero_lt_one row rowInside column columnInside
    have integer := byte_value (quantized_bounds 8 rounded (0 * rows + row) column)
    rw [← byte] at integer
    simp only [Nat.zero_mul, Nat.zero_add] at integer
    exact congrArg (fun value => some (value, _)) integer

end Elements

section Agreement

theorem table_length {α : Type} (rows width : Nat) (entry : Nat → Nat → α) :
    ((List.range rows).flatMap fun row => (List.range width).map (entry row)).length =
      rows * width := by
  rw [table_list, List.length_map, List.length_range]

theorem packed_length_pairs (columns rows : Nat) (rounded : Rounded) :
    ((List.range rows).flatMap (packRow 4 columns rounded)).length = rows * (columns / 2) :=
  table_length rows (columns / 2) _

theorem packed_length_bytes (columns rows : Nat) (rounded : Rounded) :
    ((List.range rows).flatMap (packRow 8 columns rounded)).length = rows * columns :=
  table_length rows columns _

theorem packed_length_scales (groups rows : Nat) (rounded : Rounded) :
    ((List.range rows).flatMap (packScales groups rounded)).length = rows * (groups * 2) := by
  rw [List.length_flatMap]
  have each (row : Nat) : (packScales groups rounded row).length = groups * 2 := by
    simp [packScales, List.length_flatMap, scaleBytes]
  simp [each]

theorem device_byte {device : Nat → Byte} {offset : Nat} {bytes : List Byte}
    (there : ∀ index (inside : index < bytes.length), device (offset + index) = bytes[index])
    {index : Nat} (inside : index < bytes.length) :
    device (offset + index) = byteAt bytes index := by
  rw [there index inside, byteAt, List.getD_eq_getElem?_getD, List.getElem?_eq_getElem inside,
    Option.getD_some]

theorem flat_place {matrices rows width expert row place : Nat} (expertInside : expert < matrices)
    (rowInside : row < rows) (placeInside : place < width) :
    expert * (rows * width) + (row * width + place) = (expert * rows + row) * width + place ∧
      expert * rows + row < matrices * rows ∧
      (expert * rows + row) * width + place < matrices * rows * width := by
  have flatRow : expert * rows + row < matrices * rows := by
    have next := @row_ends expert matrices rows (row + 1) expertInside rowInside
    omega
  refine ⟨?_, flatRow, ?_⟩
  · ring
  · have next := @row_ends _ _ width (place + 1) flatRow placeInside
    omega

/-- A resident tensor is where its readers look, in either layout. -/
theorem resides_readable {workingFloatBytes bits matrices rows columns : Nat} {tiled : Bool}
    {rounded : Rounded} {options : WeightOptions} {device : Nat → Byte}
    {placement : TensorPlacement} (width : bits = 4 ∨ bits = 8)
    (stored : quantizeGroupwise workingFloatBytes bits kQuantGroupSize placement.tensor.shape
      rounded = some { data := placement.tensor.data, scales := placement.tensor.scales })
    (flat : placement.tensor.shape.dropLast.prod = matrices * rows)
    (last : placement.tensor.shape.getLastD 0 = columns)
    (layout : placement.layout = if tiled then .moeW4Tile16x16 else .rowMajor)
    (tiles : tiled = true → bits = 4 ∧ placement.tensor.shape = [matrices, rows, columns] ∧
      rows % 16 = 0 ∧ columns % 16 = 0)
    (resides : Resides options device placement) :
    Readable bits tiled (fun index => device (placement.dataOffset + index))
      (fun index => device (placement.scaleOffset + index)) rounded matrices rows columns := by
  obtain ⟨aligned, data, scales⟩ := quantize_groupwise_rows stored
  rw [last, flat] at data scales
  rw [last] at aligned
  dsimp only [kQuantGroupSize] at data scales aligned
  have even : columns / 2 * 2 = columns := by omega
  constructor
  · exact aligned
  · intro eight expert expertInside row rowInside column columnInside
    subst eight
    have plain : tiled = false := by
      cases tiled
      · rfl
      · exact absurd (tiles rfl).1 (by decide)
    rw [plain] at layout
    have bytes : deviceBytes options placement = placement.tensor.data := by
      rw [deviceBytes, layout]
      rfl
    obtain ⟨place, flatRow, inside⟩ := flat_place expertInside rowInside columnInside
    have there := resides.data
    rw [bytes, data] at there
    rw [place, device_byte there]
    · exact packed_byte columns _ rounded flatRow columnInside
    · rw [packed_length_bytes]
      exact inside
  · intro four expert expertInside row rowInside column columnInside
    subst four
    have pairInside : column / 2 < columns / 2 := by omega
    obtain ⟨place, flatRow, inside⟩ := flat_place expertInside rowInside pairInside
    have rowMajor := packed_pair columns (matrices * rows) rounded flatRow pairInside
    have there := resides.data
    cases tiled with
    | false =>
        have bytes : deviceBytes options placement = placement.tensor.data := by
          rw [deviceBytes, layout]
          rfl
        have index : pairIndex false rows columns expert row column =
            (expert * rows + row) * (columns / 2) + column / 2 := by
          have matrix : rows * columns / 2 = rows * (columns / 2) := by
            have twice : rows * columns = rows * (columns / 2) * 2 := by
              rw [Nat.mul_assoc, even]
            rw [twice, Nat.mul_div_cancel _ (by decide)]
          have pair : (row * columns + column) / 2 = row * (columns / 2) + column / 2 := by
            have twice : row * columns = row * (columns / 2) * 2 := by
              rw [Nat.mul_assoc, even]
            omega
          rw [← place, ← matrix, ← pair]
          rfl
        rw [bytes, data] at there
        rw [index, device_byte there, rowMajor]
        rw [packed_length_pairs]
        exact inside
    | true =>
        obtain ⟨-, shape, wholeRows, wholeColumns⟩ := tiles rfl
        have staged := resides.staged layout
        have length : placement.tensor.data.length = matrices * rows * (columns / 2) := by
          rw [data, packed_length_pairs]
        obtain ⟨rowTiles, rfl⟩ := Nat.dvd_of_mod_eq_zero wholeRows
        obtain ⟨columnTiles, rfl⟩ := Nat.dvd_of_mod_eq_zero wholeColumns
        have half : 16 * columnTiles / 2 = 8 * columnTiles := by omega
        rw [half] at length rowMajor
        have bytes : deviceBytes options placement =
            (tiledChunks options placement.tensor).flatten := by
          rw [deviceBytes, layout]
          rfl
        have whole := resides.whole
        rw [bytes] at there whole
        have found := @tiled_byte options placement.tensor _ _ _ expert row column staged shape
          length expertInside rowInside columnInside
        rw [pairIndex, if_pos rfl, device_byte there, found, data, rowMajor]
        have tile := tile_inside expertInside rowInside columnInside
        have total : matrices * (16 * rowTiles) * (8 * columnTiles) =
            matrices * (rowTiles * columnTiles) * 128 := by ring
        rw [whole, length, total, tiled_index_eq]
        omega
  · intro expert expertInside row rowInside group groupInside
    obtain ⟨place, flatRow, inside⟩ := flat_place expertInside rowInside groupInside
    have there := resides.scales
    rw [scales] at there
    have low : 2 * ((expert * rows + row) * (columns / 128) + group) <
        ((List.range (matrices * rows)).flatMap (packScales (columns / 128) rounded)).length := by
      rw [packed_length_scales, ← Nat.mul_assoc]
      omega
    have high : 2 * ((expert * rows + row) * (columns / 128) + group) + 1 <
        ((List.range (matrices * rows)).flatMap (packScales (columns / 128) rounded)).length := by
      rw [packed_length_scales, ← Nat.mul_assoc]
      omega
    unfold loadBf16
    dsimp only
    rw [Nat.add_assoc, place, device_byte there high, device_byte there low]
    exact packed_scale (columns / 128) _ rounded flatRow groupInside

/-- What the readers of an expert tensor are to find: the integer and the scale
that the packer stored, at every place that they visit. -/
structure ExpertsAgree (bits : Nat) (rounded : Rounded) (device : Nat → Byte)
    (placement : TensorPlacement) (matrices rows columns : Nat) : Prop where
  quantWeight : ∀ expert < matrices, ∀ row < rows, ∀ column < columns,
    quantWeight placement.tensor.format (fun index => device (placement.dataOffset + index))
        (fun index => device (placement.scaleOffset + index)) (rows * columns)
        (rows * (columns / 128)) columns expert row column placement.layout =
      storedWeight bits rounded (expert * rows + row) column
  quantizedRowDotWarp : ∀ expert < matrices, ∀ row < rows, ∀ group < columns / 128, ∀ lane < 32,
    let weights := quantizedRowDotWarp bits (placement.layout = .moeW4Tile16x16)
      (fun index => device (placement.dataOffset + index))
      (fun index => device (placement.scaleOffset + index)) (rows * columns)
      (rows * (columns / 128)) columns expert row group lane
    let stored := fun place =>
      storedWeight bits rounded (expert * rows + row) (group * 128 + lane * 4 + place)
    (weights.1.1, weights.2) = stored 0 ∧ (weights.1.2.1, weights.2) = stored 1 ∧
      (weights.1.2.2.1, weights.2) = stored 2 ∧ (weights.1.2.2.2, weights.2) = stored 3
  dequantWeight : bits = 8 ∨ placement.layout = .rowMajor →
    ∀ expert < matrices, ∀ row < rows, ∀ column < columns,
      dequantWeight bits (fun index => device (placement.dataOffset + index))
          (fun index => device (placement.scaleOffset + index)) (rows * columns)
          (rows * (columns / 128)) columns expert row column =
        storedWeight bits rounded (expert * rows + row) column
  groupedPair : bits = 4 → ∀ expert < matrices, ∀ firstRow lane iteration,
    firstRow + (lane + iteration * 32) / 8 < rows → lane < 32 → ∀ columnTile < columns / 16,
      let pair := groupedPair (placement.layout = .moeW4Tile16x16)
        (fun index => device (placement.dataOffset + index))
        (fun index => device (placement.scaleOffset + index)) (rows * columns)
        (rows * (columns / 128)) columns expert firstRow columnTile lane iteration
      let stored := storedWeight bits rounded
        (expert * rows + (firstRow + (lane + iteration * 32) / 8))
      (pair.1.1, pair.2) = stored (columnTile * 16 + (lane + iteration * 32) % 8 * 2) ∧
        (pair.1.2, pair.2) = stored (columnTile * 16 + (lane + iteration * 32) % 8 * 2 + 1)

/-- The same for a tensor with one matrix. -/
def MatrixAgrees (bits : Nat) (rounded : Rounded) (device : Nat → Byte)
    (placement : TensorPlacement) (rows columns : Nat) : Prop :=
  ∀ row < rows, ∀ column < columns,
    matrixWeight placement.tensor.format (fun index => device (placement.dataOffset + index))
        (fun index => device (placement.scaleOffset + index)) columns kQuantGroupSize row column =
      some (storedWeight bits rounded row column)

theorem should_tile_shape {options : WeightOptions} {tensor : DeviceTensor}
    (tiled : shouldTileMoeW4 options tensor = true) :
    tensor.format = .w4a16SymG128 ∧ tensor.shape.length = 3 ∧
      tensor.shape.getD 1 0 % 16 = 0 ∧ tensor.shape.getD 2 0 % 16 = 0 := by
  simp only [shouldTileMoeW4, Bool.and_eq_true, decide_eq_true_eq] at tiled
  exact ⟨tiled.1.1.1.1.2, tiled.1.1.1.2, tiled.1.1.2, tiled.1.2⟩

theorem weight_format_four {bits : Nat} (width : bits = 4 ∨ bits = 8)
    (format : weightFormat bits = .w4a16SymG128) : bits = 4 := by
  rcases width with four | rfl
  · exact four
  · cases format

/-- Every reader finds what was packed, for every chunking of the packer, every
ring of staging buffers, every timing of the stream and either layout. -/
theorem weights_agree {workingFloatBytes bits : Nat} {rounded : Rounded}
    {options : WeightOptions} {eager : Nat → Nat} {index : List DeviceTensor}
    {uploader : Uploader Byte} {device : Nat → Byte} {placed : List TensorPlacement}
    {tensor : DeviceTensor} (width : bits = 4 ∨ bits = 8)
    (stored : quantizeGroupwise workingFloatBytes bits kQuantGroupSize tensor.shape rounded =
      some { data := tensor.data, scales := tensor.scales })
    (format : tensor.format = weightFormat bits) (listed : tensor ∈ index)
    (kept : resident options tensor = true)
    (ready : initializeWeights options eager index uploader = some (device, placed)) :
    ∃ placement ∈ placed, placement.tensor = tensor ∧
      (∀ matrices rows columns, tensor.shape = [matrices, rows, columns] →
        ExpertsAgree bits rounded device placement matrices rows columns) ∧
      ∀ rows columns, tensor.shape = [rows, columns] →
        MatrixAgrees bits rounded device placement rows columns := by
  obtain ⟨placement, found, rfl, layout, resides⟩ := initialize_resides ready listed kept
  refine ⟨placement, found, rfl, ?_, ?_⟩
  · intro matrices rows columns shape
    have readable := @resides_readable _ _ matrices rows columns
      (shouldTileMoeW4 options placement.tensor) _ _ _ _ width stored
      (by rw [shape]; simp) (by rw [shape]; simp) layout (by
        intro tiled
        obtain ⟨four, -, wholeRows, wholeColumns⟩ := should_tile_shape tiled
        rw [shape] at wholeRows wholeColumns
        rw [format] at four
        exact ⟨weight_format_four width four, shape, wholeRows, wholeColumns⟩) resides
    have tiles : decide (placement.layout = .moeW4Tile16x16) =
        shouldTileMoeW4 options placement.tensor := by
      rw [layout]
      cases shouldTileMoeW4 options placement.tensor <;> rfl
    constructor
    · intro expert expertInside row rowInside column columnInside
      rw [layout, format]
      exact quant_weight_stored width readable expertInside rowInside columnInside
    · intro expert expertInside row rowInside group groupInside lane laneInside
      rw [tiles]
      exact quantized_row_dot_warp_stored width readable expertInside rowInside groupInside
        laneInside
    · intro narrow expert expertInside row rowInside column columnInside
      have plain : bits = 8 ∨ bits = 4 ∧ shouldTileMoeW4 options placement.tensor = false := by
        rcases narrow with eight | rowMajor
        · exact Or.inl eight
        · rcases width with four | eight
          · rw [← tiles, rowMajor]
            exact Or.inr ⟨four, rfl⟩
          · exact Or.inl eight
      exact dequant_weight_stored plain readable expertInside rowInside columnInside
    · intro four expert expertInside firstRow lane iteration rowInside laneInside columnTile
        tileInside
      rw [tiles]
      exact grouped_pair_stored four readable expertInside rowInside tileInside laneInside
  · intro rows columns shape row rowInside column columnInside
    have plain : shouldTileMoeW4 options placement.tensor = false := by
      rw [← Bool.not_eq_true]
      intro tiled
      obtain ⟨-, three, -⟩ := should_tile_shape tiled
      rw [shape] at three
      cases three
    rw [plain] at layout
    have readable := @resides_readable _ _ 1 rows columns false _ _ _ _ width stored
      (by rw [shape]; simp) (by rw [shape]; simp) layout (fun tiled => by cases tiled) resides
    rw [format]
    exact matrix_weight_stored width readable rowInside columnInside

def sampleRounded : Rounded where
  value := fun row column => (row * 3 + column : Nat) - 9
  scale := fun row _ => BitVec.ofNat 16 (0x3c00 + row)

def sampleTensor : DeviceTensor where
  name := "blk.0.ffn_gate_up_exps.weight"
  format := .w4a16SymG128
  shape := [1, 16, 128]
  data := (List.range 16).flatMap (packRow 4 128 sampleRounded)
  scales := (List.range 16).flatMap (packScales 1 sampleRounded)

def sampleOptions : WeightOptions where
  stagingBytes := 300
  stagingBuffers := 2
  arenaAlignment := 256
  loadMtp := true
  tiledMoeLayout := true

def emptyUploader : Uploader Byte where
  buffers := fun _ _ => 0
  device := fun _ => 0
  pending := []
  cursor := 0

/-- A tiled tensor whose tiles do not fill the staging buffers evenly. -/
theorem weights_agree_sample :
    ∃ device placed,
      initializeWeights sampleOptions (fun _ => 0) [sampleTensor] emptyUploader =
          some (device, placed) ∧
        ∃ placement ∈ placed, placement.tensor = sampleTensor ∧
          ExpertsAgree 4 sampleRounded device placement 1 16 128 := by
  have uploads : (initializeWeights sampleOptions (fun _ => 0) [sampleTensor]
      emptyUploader).isSome = true := by decide +kernel
  obtain ⟨⟨device, placed⟩, ready⟩ := Option.isSome_iff_exists.mp uploads
  obtain ⟨placement, found, same, experts, -⟩ :=
    @weights_agree 1024 4 sampleRounded sampleOptions (fun _ => 0) [sampleTensor] emptyUploader
      device placed sampleTensor (Or.inl rfl) (by decide +kernel) rfl List.mem_cons_self rfl ready
  exact ⟨device, placed, ready, placement, found, same, experts 1 16 128 rfl⟩

end Agreement

end Q38.WeightPacking
