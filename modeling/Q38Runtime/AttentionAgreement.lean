import Q38Runtime.AttentionKernels

/-!
All paths of the sparse attention evaluate one expression: the scores of the selected
positions in their order, their softmax, and the sum of the weighted values.
-/
namespace Q38.AttentionAgreement
open StridedLoops ScheduledTurns QsaSelection AttentionKernels

variable {Half Float : Type} {arithmetic : Arithmetic Half Float}

section Places

theorem row_parts {width column : Nat} (row : Nat) (inside : column < width) :
    (row * width + column) / width = row ∧ (row * width + column) % width = column := by
  have positive : 0 < width := Nat.zero_lt_of_lt inside
  constructor
  · rw [Nat.mul_comm, Nat.mul_add_div positive, Nat.div_eq_of_lt inside, Nat.add_zero]
  · rw [Nat.mul_add_mod', Nat.mod_eq_of_lt inside]

theorem row_early {width row rows column : Nat} (listed : row < rows) (inside : column < width) :
    row * width + column < rows * width :=
  calc row * width + column < row * width + width := Nat.add_lt_add_left inside _
    _ = (row + 1) * width := (Nat.succ_mul row width).symm
    _ ≤ rows * width := Nat.mul_le_mul_right width listed

theorem row_inj {width row row' column column' : Nat} (inside : column < width)
    (inside' : column' < width) (same : row * width + column = row' * width + column') :
    row = row' ∧ column = column' := by
  obtain ⟨quotient, rest⟩ := row_parts row inside
  obtain ⟨quotient', rest'⟩ := row_parts row' inside'
  rw [same] at quotient rest
  exact ⟨quotient.symm.trans quotient', rest.symm.trans rest'⟩

theorem row_of_head_inj {token token' head head' : Nat} (inside : head < kQ38QsaHeads)
    (inside' : head' < kQ38QsaHeads) (same : rowOfHead token head = rowOfHead token' head') :
    token = token' ∧ head = head' := row_inj inside inside' same

theorem count_small (position : Nat) : selectedCountAt position ≤ kQ38QsaMaximumSelected := by
  have tail : (position + 1) % kQ38QsaBlockTokens < 4 := Nat.mod_lt _ (by decide)
  have blocks : min (completeBlocksAt position) kQ38QsaBlockBudget ≤ 512 := Nat.min_le_right _ _
  simp only [selectedCountAt, kQ38QsaMaximumSelected, kQ38QsaBlockTokens] at *
  omega

/-- Two cells of scores at one place are one cell. -/
theorem score_place_inj {token token' head head' index index' firstPosition : Nat}
    (inside : head < kQ38QsaHeads) (inside' : head' < kQ38QsaHeads)
    (early : index < selectedCountAt (firstPosition + token))
    (early' : index' < selectedCountAt (firstPosition + token'))
    (same : scoreBase token head + index = scoreBase token' head' + index') :
    token = token' ∧ head = head' ∧ index = index' := by
  have small := count_small (firstPosition + token)
  have small' := count_small (firstPosition + token')
  obtain ⟨rows, columns⟩ :=
    row_inj (Nat.lt_of_lt_of_le early small) (Nat.lt_of_lt_of_le early' small') same
  obtain ⟨tokens, heads⟩ := row_of_head_inj inside inside' rows
  exact ⟨tokens, heads, columns⟩

theorem element_place_inj {token token' head head' element element' : Nat}
    (inside : head < kQ38QsaHeads) (inside' : head' < kQ38QsaHeads)
    (low : element < kQ38QsaHeadWidth) (low' : element' < kQ38QsaHeadWidth)
    (same : elementBase token head + element = elementBase token' head' + element') :
    token = token' ∧ head = head' ∧ element = element' := by
  obtain ⟨rows, columns⟩ := row_inj low low' same
  obtain ⟨tokens, heads⟩ := row_of_head_inj inside inside' rows
  exact ⟨tokens, heads, columns⟩

theorem head_of_lt {kvHead queryLocal : Nat} (group : kvHead < kQ38QsaKvHeads)
    (inside : queryLocal < kQsaQueriesPerKv) : headOf kvHead queryLocal < kQ38QsaHeads := by
  simp only [headOf, kQ38QsaKvHeads, kQsaQueriesPerKv, kQ38QsaHeads] at *
  omega

theorem kv_head_of (kvHead : Nat) {queryLocal : Nat} (inside : queryLocal < kQsaQueriesPerKv) :
    kvHeadOf (headOf kvHead queryLocal) = kvHead := by
  simp only [kvHeadOf, headOf, kQsaQueriesPerKv, kQ38QsaKvHeads, kQ38QsaHeads] at *
  omega

/-- The group of a head and its place in the group. -/
theorem head_grouped {head : Nat} (inside : head < kQ38QsaHeads) :
    ∃ kvHead < kQ38QsaKvHeads, ∃ queryLocal < kQsaQueriesPerKv,
      head = headOf kvHead queryLocal := by
  refine ⟨head / kQsaQueriesPerKv, ?_, head % kQsaQueriesPerKv, Nat.mod_lt _ (by decide), ?_⟩
  · simp only [kQ38QsaHeads, kQ38QsaKvHeads, kQsaQueriesPerKv] at *
    omega
  · rw [headOf, Nat.div_add_mod']

theorem head_of_inj {kvHead kvHead' queryLocal queryLocal' : Nat}
    (inside : queryLocal < kQsaQueriesPerKv) (inside' : queryLocal' < kQsaQueriesPerKv)
    (same : headOf kvHead queryLocal = headOf kvHead' queryLocal') :
    kvHead = kvHead' ∧ queryLocal = queryLocal' := row_inj inside inside' same

end Places

section Rows

theorem strided_early {first step bound index : Nat} (member : index ∈ strided first step bound) :
    index < bound := by
  rcases Nat.eq_zero_or_pos step with rfl | positive
  · simp [strided] at member
  · exact ((mem_strided positive).mp member).1

theorem maximum_congr {row row' : Nat → Float} {count : Nat}
    (same : ∀ index < count, row index = row' index) :
    rowMaximum arithmetic row count = rowMaximum arithmetic row' count := by
  unfold rowMaximum
  congr 1
  funext thread
  apply List.foldl_ext
  intro maximum index member
  rw [same index (strided_early member)]

theorem denominator_congr {row row' : Nat → Float} {count : Nat} (maximum : Float)
    (same : ∀ index < count, row index = row' index) :
    rowDenominator arithmetic row maximum count =
      rowDenominator arithmetic row' maximum count := by
  unfold rowDenominator
  congr 1
  funext thread
  apply List.foldl_ext
  intro sum index member
  rw [same index (strided_early member)]

theorem weighted_congr {weights weights' values : Nat → Float} {count : Nat}
    (same : ∀ index < count, weights index = weights' index) :
    weighted arithmetic weights values count = weighted arithmetic weights' values count := by
  unfold weighted
  apply List.foldl_ext
  intro value index member
  rw [same index (List.mem_range.mp member)]

/-- A row after the softmax. -/
def softmax (arithmetic : Arithmetic Half Float) (row : Nat → Float) (count index : Nat) : Float :=
  normalized arithmetic (row index) (rowMaximum arithmetic row count)
    (rowDenominator arithmetic row (rowMaximum arithmetic row count) count)

theorem softmax_congr {row row' : Nat → Float} {count index : Nat}
    (same : ∀ index < count, row index = row' index) (early : index < count) :
    softmax arithmetic row count index = softmax arithmetic row' count index := by
  unfold softmax
  rw [same index early, maximum_congr same, denominator_congr _ same]

variable {scheduler : Scheduler} {phase : List Nat} {base count : Nat} {scores : Nat → Float}

theorem normalize_row_at {index : Nat} (early : index < count) :
    normalizeRow arithmetic scheduler phase base count scores (base + index) =
      softmax arithmetic (fun index => scores (base + index)) count index := by
  have turns := @mem_worker_turns kThreads count (by decide)
  exact @run_changes Nat Float (base + ·) _ scores scheduler phase
    (fun _ score => normalized arithmetic score _ _) index (worker_turns_nodup (by decide))
    (turns.mpr early) fun turn _ same => Nat.add_left_cancel same

theorem normalize_row_beside {place : Nat} (other : ∀ index < count, base + index ≠ place) :
    normalizeRow arithmetic scheduler phase base count scores place = scores place := by
  have turns {turn : Nat} := @mem_worker_turns kThreads count (by decide) turn
  exact run_stores_beside fun turn member => other turn (turns.mp member)

end Rows

section Scores
variable {device : Device Half Float} {inputs : Inputs Half} {firstPosition tokens count : Nat}
variable {scores : Nat → Float}

theorem mem_tile_turns {tile index : Nat} (member : index ∈ tileTurns tile count) :
    index < count := by
  obtain ⟨warp, _, member⟩ := List.mem_flatMap.mp member
  exact strided_early member

theorem tile_of {index : Nat} (early : index < count) :
    ∃ tile < kAttentionTiles, index ∈ tileTurns tile count := by
  have shared := @grid_perm kAttentionTiles kWarpsPerBlock count (by decide)
  obtain ⟨tile, inside, member⟩ :=
    List.mem_flatMap.mp (shared.mem_iff.mpr (List.mem_range.mpr early))
  exact ⟨tile, List.mem_range.mp inside, member⟩

theorem decode_scores {head index : Nat} (inside : head < kQ38QsaHeads) (early : index < count) :
    qsaAttentionScoresKernel arithmetic device inputs count scores (head * count + index) =
      score arithmetic inputs (head * kQ38QsaHeadWidth) (kvHeadOf head)
        (inputs.selected index) := by
  obtain ⟨tile, small, member⟩ := tile_of early
  unfold qsaAttentionScoresKernel
  apply run_settles (fun later : Nat → Float => later (head * count + index) = _)
    (List.mem_product.mpr ⟨List.mem_range.mpr inside, List.mem_range.mpr small⟩)
  · intro state
    apply run_stores member
    intro turn _ same
    rw [Nat.add_left_cancel same]
  · rintro ⟨head', tile'⟩ block state held
    apply run_stores_keep _ held
    intro turn listed same
    obtain ⟨heads, columns⟩ := row_inj (mem_tile_turns listed) early same
    rw [heads, columns]

/-- The score of a cell of the prefill. -/
def cellScore (arithmetic : Arithmetic Half Float) (inputs : Inputs Half)
    (token head index : Nat) : Float :=
  score arithmetic inputs (elementBase token head) (kvHeadOf head)
    (tokenSelected inputs.selected token index)

theorem prefill_scores {token head index : Nat} (known : token < tokens)
    (inside : head < kQ38QsaHeads) (early : index < selectedCountAt (firstPosition + token)) :
    qsaAttentionScoresPrefillKernel arithmetic device inputs firstPosition tokens scores
        (scoreBase token head + index) = cellScore arithmetic inputs token head index := by
  have turns (bound turn : Nat) := @mem_worker_turns kWarpsPerBlock bound (by decide) turn
  unfold qsaAttentionScoresPrefillKernel
  apply run_settles (fun later : Nat → Float => later (scoreBase token head + index) = _)
    (List.mem_product.mpr ⟨List.mem_range.mpr inside, List.mem_range.mpr known⟩)
  · intro state
    apply (run_stores ((turns _ _).mpr early) ?_).trans rfl
    intro turn _ same
    rw [Nat.add_left_cancel same]
  · rintro ⟨head', token'⟩ block state held
    obtain ⟨inside', _⟩ := List.mem_product.mp block
    apply run_stores_keep _ held
    intro turn listed same
    obtain ⟨tokens, heads, columns⟩ := score_place_inj (List.mem_range.mp inside') inside
      ((turns _ _).mp listed) early same
    rw [tokens, heads, columns]
    rfl

section Staging
variable {phase : List Nat} {token kvHead : Nat}

theorem staged_query {queries : Nat → Half} {queryLocal element : Nat}
    (inside : queryLocal < kQsaQueriesPerKv) (low : element < kQ38QsaHeadWidth) :
    stageQueries device inputs phase token kvHead queries
        (queryLocal * kQ38QsaHeadWidth + element) =
      inputs.query (elementBase token (headOf kvHead queryLocal) + element) := by
  obtain ⟨quotient, rest⟩ := row_parts queryLocal low
  unfold stageQueries
  rw [run_copies (by decide) (row_early inside low), quotient, rest]

theorem staged_key {keys : Nat → Half} {tileBase tileCount tileIndex element : Nat}
    (inside : tileIndex < tileCount) (low : element < kQ38QsaHeadWidth) :
    stageKeys device inputs phase token kvHead tileBase tileCount keys
        (tileIndex * kQ38QsaHeadWidth + element) =
      inputs.keys (cacheIndex (tokenSelected inputs.selected token (tileBase + tileIndex)) kvHead
        element) := by
  obtain ⟨quotient, rest⟩ := row_parts tileIndex low
  unfold stageKeys
  rw [run_copies (by decide) (row_early inside low), quotient, rest]

theorem dot_congr {query query' key key' : Nat → Float}
    (queries : ∀ element < kQ38QsaHeadWidth, query element = query' element)
    (keys : ∀ element < kQ38QsaHeadWidth, key element = key' element) :
    scaledDot arithmetic query key = scaledDot arithmetic query' key' := by
  unfold scaledDot
  have lanes : (fun lane => (strided lane 32 kQ38QsaHeadWidth).foldl (fun dot element =>
        arithmetic.add dot (arithmetic.mul (query element) (key element))) arithmetic.zero) =
      fun lane => (strided lane 32 kQ38QsaHeadWidth).foldl (fun dot element =>
        arithmetic.add dot (arithmetic.mul (query' element) (key' element)))
        arithmetic.zero := by
    funext lane
    apply List.foldl_ext
    intro dot element member
    rw [queries element (strided_early member), keys element (strided_early member)]
  rw [lanes]

/-- The queries of a group, in shared memory. -/
def Staged (inputs : Inputs Half) (token kvHead : Nat) (queries : Nat → Half) : Prop :=
  ∀ queryLocal < kQsaQueriesPerKv, ∀ element < kQ38QsaHeadWidth,
    queries (queryLocal * kQ38QsaHeadWidth + element) =
      inputs.query (elementBase token (headOf kvHead queryLocal) + element)

/-- A dot product of shared memory is the score of its cell. -/
theorem tile_score {queries keys : Nat → Half} {tileBase tileCount tileIndex queryLocal : Nat}
    (staged : Staged inputs token kvHead queries) (inside : tileIndex < tileCount)
    (grouped : queryLocal < kQsaQueriesPerKv) :
    scaledDot arithmetic
        (fun element => arithmetic.load (queries (queryLocal * kQ38QsaHeadWidth + element)))
        (fun element => arithmetic.load (stageKeys device inputs phase token kvHead tileBase
          tileCount keys (tileIndex * kQ38QsaHeadWidth + element))) =
      cellScore arithmetic inputs token (headOf kvHead queryLocal) (tileBase + tileIndex) := by
  unfold cellScore score
  rw [kv_head_of kvHead grouped]
  apply dot_congr
  · intro element low
    rw [staged queryLocal grouped element low]
  · intro element low
    rw [staged_key inside low]
    rfl

variable {queries : Nat → Half} {tiles : KeyTiles Half Float} {tileBase : Nat}

/-- Every store of a tile is the score of its cell. -/
theorem tile_keeps {token' head index : Nat} (group : kvHead < kQ38QsaKvHeads)
    (staged : Staged inputs token kvHead queries) (inside : head < kQ38QsaHeads)
    (early : index < selectedCountAt (firstPosition + token'))
    (held : tiles.scores (scoreBase token' head + index) =
      cellScore arithmetic inputs token' head index) :
    (scoreTile arithmetic device inputs phase token kvHead
        (selectedCountAt (firstPosition + token)) queries tiles tileBase).scores
        (scoreBase token' head + index) = cellScore arithmetic inputs token' head index := by
  have turns (bound turn : Nat) := @mem_worker_turns kWarpsPerBlock bound (by decide) turn
  apply run_stores_keep _ held
  rintro ⟨tileIndex, queryLocal⟩ listed same
  obtain ⟨listed, grouped⟩ := List.mem_product.mp listed
  have low := (turns _ _).mp listed
  have local_ := List.mem_range.mp grouped
  have here : tileBase + tileIndex < selectedCountAt (firstPosition + token) := by omega
  rw [Nat.add_assoc] at same
  obtain ⟨rfl, rfl, rfl⟩ :=
    score_place_inj (head_of_lt group local_) inside here early same
  exact tile_score staged low local_

theorem tile_settles {tileIndex queryLocal : Nat}
    (staged : Staged inputs token kvHead queries) (grouped : queryLocal < kQsaQueriesPerKv)
    (group : kvHead < kQ38QsaKvHeads) (low : tileIndex < kQsaGroupedKeyTile)
    (early : tileBase + tileIndex < selectedCountAt (firstPosition + token)) :
    (scoreTile arithmetic device inputs phase token kvHead
        (selectedCountAt (firstPosition + token)) queries tiles tileBase).scores
        (scoreBase token (headOf kvHead queryLocal) + (tileBase + tileIndex)) =
      cellScore arithmetic inputs token (headOf kvHead queryLocal) (tileBase + tileIndex) := by
  have turns (bound turn : Nat) := @mem_worker_turns kWarpsPerBlock bound (by decide) turn
  have inside : tileIndex < min kQsaGroupedKeyTile
      (selectedCountAt (firstPosition + token) - tileBase) := by omega
  apply run_settles (fun later : Nat → Float => later _ = _)
    (List.mem_product.mpr ⟨(turns _ _).mpr inside, List.mem_range.mpr grouped⟩)
  · intro state
    rw [← Nat.add_assoc]
    exact (Function.update_self _ _ _).trans (tile_score staged inside grouped)
  · rintro ⟨tileIndex', queryLocal'⟩ listed state held
    obtain ⟨listed, grouped'⟩ := List.mem_product.mp listed
    have low' := (turns _ _).mp listed
    have local_ := List.mem_range.mp grouped'
    dsimp only
    by_cases same : scoreBase token (headOf kvHead queryLocal) + (tileBase + tileIndex) =
        scoreBase token (headOf kvHead queryLocal') + tileBase + tileIndex'
    · have here : tileBase + tileIndex' < selectedCountAt (firstPosition + token) := by omega
      have cells := same
      rw [Nat.add_assoc] at cells
      obtain ⟨_, heads, columns⟩ := score_place_inj (head_of_lt group grouped)
        (head_of_lt group local_) early here cells
      rw [same, Function.update_self, heads, columns]
      exact tile_score staged low' local_
    · rw [Function.update_of_ne same, held]

end Staging

theorem queries_staged {phase : List Nat} {token kvHead : Nat} {queries : Nat → Half} :
    Staged inputs token kvHead (stageQueries device inputs phase token kvHead queries) :=
  fun _ grouped _ low => staged_query grouped low

theorem group_keeps {phase : List Nat} {token kvHead token' head index : Nat}
    (group : kvHead < kQ38QsaKvHeads) (inside : head < kQ38QsaHeads)
    (early : index < selectedCountAt (firstPosition + token'))
    (held : scores (scoreBase token' head + index) =
      cellScore arithmetic inputs token' head index) :
    scoreGroup arithmetic device inputs firstPosition phase token kvHead scores
        (scoreBase token' head + index) = cellScore arithmetic inputs token' head index := by
  apply fold_keeps (fun tiles : KeyTiles Half Float => tiles.scores _ = _) _ held
  intro tileBase _ tiles held
  exact tile_keeps group queries_staged inside early held

/-- The tile of an index is one of the loop. -/
theorem group_scores {phase : List Nat} {token kvHead queryLocal index : Nat}
    (group : kvHead < kQ38QsaKvHeads) (grouped : queryLocal < kQsaQueriesPerKv)
    (early : index < selectedCountAt (firstPosition + token)) :
    scoreGroup arithmetic device inputs firstPosition phase token kvHead scores
        (scoreBase token (headOf kvHead queryLocal) + index) =
      cellScore arithmetic inputs token (headOf kvHead queryLocal) index := by
  have positive : 0 < kQsaGroupedKeyTile := by decide
  have parts : kQsaGroupedKeyTile * (index / kQsaGroupedKeyTile) + index % kQsaGroupedKeyTile =
      index := Nat.div_add_mod index kQsaGroupedKeyTile
  have listed : kQsaGroupedKeyTile * (index / kQsaGroupedKeyTile) ∈
      strided 0 kQsaGroupedKeyTile (selectedCountAt (firstPosition + token)) :=
    (mem_strided positive).mpr ⟨by omega, index / kQsaGroupedKeyTile, (Nat.zero_add _).symm⟩
  apply fold_settles (fun tiles : KeyTiles Half Float => tiles.scores _ = _) listed
  · intro tiles
    have settled := @tile_settles _ _ arithmetic device inputs firstPosition (phase ++ [1]) token
      kvHead (stageQueries device inputs (phase ++ [0]) token kvHead (device.stale phase).queries)
      tiles (kQsaGroupedKeyTile * (index / kQsaGroupedKeyTile)) (index % kQsaGroupedKeyTile)
      queryLocal queries_staged grouped group (Nat.mod_lt _ positive) (by omega)
    rw [parts] at settled
    exact settled
  · intro tileBase _ tiles held
    exact tile_keeps group queries_staged (head_of_lt group grouped) early held

theorem grouped_scores {token head index : Nat} (known : token < tokens)
    (inside : head < kQ38QsaHeads) (early : index < selectedCountAt (firstPosition + token)) :
    qsaAttentionScoresGroupedPrefillKernel arithmetic device inputs firstPosition tokens scores
        (scoreBase token head + index) = cellScore arithmetic inputs token head index := by
  obtain ⟨kvHead, group, queryLocal, grouped, rfl⟩ := head_grouped inside
  apply run_settles (fun later : Nat → Float => later _ = _)
    (List.mem_product.mpr ⟨List.mem_range.mpr group, List.mem_range.mpr known⟩)
  · intro state
    exact group_scores group grouped early
  · rintro ⟨kvHead', token'⟩ block state held
    obtain ⟨group', _⟩ := List.mem_product.mp block
    exact group_keeps (List.mem_range.mp group') inside early held

end Scores

section Softmaxes
variable {ι : Type} {turns : List ι} {base count : ι → Nat} {scores : Nat → Float}

/-- Rows that share no place are normalized each from what it held. -/
theorem rows_normalized {scheduler : Scheduler} {phase : ι → List Nat} (distinct : turns.Nodup)
    (apart : ∀ turn ∈ turns, ∀ other ∈ turns, ∀ index < count turn, ∀ index' < count other,
      base turn + index = base other + index' → turn = other)
    {turn : ι} (listed : turn ∈ turns) {index : Nat} (early : index < count turn) :
    turns.foldl (fun scores turn =>
        normalizeRow arithmetic scheduler (phase turn) (base turn) (count turn) scores) scores
        (base turn + index) =
      softmax arithmetic (fun index => scores (base turn + index)) (count turn) index := by
  have beside {other : ι} (member : other ∈ turns) (different : other ≠ turn)
      (state : Nat → Float) {index : Nat} (early : index < count turn) :
      normalizeRow arithmetic scheduler (phase other) (base other) (count other) state
        (base turn + index) = state (base turn + index) :=
    normalize_row_beside fun index' early' same =>
      different (apart other member turn listed index' early' index early same)
  refine fold_once
    (fun later : Nat → Float => ∀ index < count turn,
      later (base turn + index) = scores (base turn + index))
    (fun later : Nat → Float => ∀ index < count turn,
      later (base turn + index) =
        softmax arithmetic (fun index => scores (base turn + index)) (count turn) index)
    distinct listed ?_ ?_ ?_ (fun _ _ => rfl) index early
  · intro other member different state held index early
    rw [beside member different state early, held index early]
  · intro state held index early
    rw [normalize_row_at early]
    exact softmax_congr held early
  · intro other member different state held index early
    rw [beside member different state early, held index early]

/-- The blocks of a launch by head and token. -/
theorem prefill_rows_apart {tokens firstPosition : Nat} :
    ∀ turn ∈ List.range kQ38QsaHeads ×ˢ List.range tokens,
    ∀ other ∈ List.range kQ38QsaHeads ×ˢ List.range tokens,
    ∀ index < selectedCountAt (firstPosition + turn.2),
    ∀ index' < selectedCountAt (firstPosition + other.2),
      scoreBase turn.2 turn.1 + index = scoreBase other.2 other.1 + index' → turn = other := by
  rintro ⟨head, token⟩ block ⟨head', token'⟩ block' index early index' early' same
  have inside := List.mem_range.mp (List.mem_product.mp block).1
  have inside' := List.mem_range.mp (List.mem_product.mp block').1
  obtain ⟨tokens, heads, _⟩ := score_place_inj inside inside' early early' same
  exact Prod.ext heads tokens

theorem blocks_nodup (first second : Nat) : (List.range first ×ˢ List.range second).Nodup :=
  List.nodup_range.product List.nodup_range

variable {device : Device Half Float} {firstPosition tokens selectedCount : Nat}

theorem decode_softmax {head index : Nat} (inside : head < kQ38QsaHeads)
    (early : index < selectedCount) :
    qsaAttentionSoftmaxKernel arithmetic device selectedCount scores
        (head * selectedCount + index) =
      softmax arithmetic (fun index => scores (head * selectedCount + index)) selectedCount
        index := by
  have same := device.scheduler.perm [] (List.range kQ38QsaHeads)
  apply @rows_normalized Half Float arithmetic Nat _ (fun head => head * selectedCount)
    (fun _ => selectedCount) scores device.scheduler (fun head => [head])
    (same.nodup_iff.mpr List.nodup_range)
  · intro turn _ other _ index early index' early' place
    exact (row_inj early early' place).1
  · exact same.mem_iff.mpr (List.mem_range.mpr inside)
  · exact early

theorem prefill_softmax {token head index : Nat} (known : token < tokens)
    (inside : head < kQ38QsaHeads) (early : index < selectedCountAt (firstPosition + token)) :
    qsaAttentionSoftmaxPrefillKernel arithmetic device firstPosition tokens scores
        (scoreBase token head + index) =
      softmax arithmetic (fun index => scores (scoreBase token head + index))
        (selectedCountAt (firstPosition + token)) index := by
  have same := device.scheduler.perm [] (List.range kQ38QsaHeads ×ˢ List.range tokens)
  apply @rows_normalized Half Float arithmetic (Nat × Nat) _
    (fun block => scoreBase block.2 block.1)
    (fun block => selectedCountAt (firstPosition + block.2)) scores device.scheduler
    (fun block => [block.1, block.2]) (same.nodup_iff.mpr (blocks_nodup _ _))
    (fun turn member other member' => prefill_rows_apart turn (same.mem_iff.mp member) other
      (same.mem_iff.mp member')) (head, token)
  · exact same.mem_iff.mpr
      (List.mem_product.mpr ⟨List.mem_range.mpr inside, List.mem_range.mpr known⟩)
  · exact early

end Softmaxes

section Outputs
variable {device : Device Half Float} {inputs : Inputs Half} {firstPosition tokens : Nat}

/-- The one expression: the selected positions in their order, each once, with one KV head. -/
def attended (arithmetic : Arithmetic Half Float) (inputs : Inputs Half)
    (queryBase kvHead count element : Nat) (selected : Nat → Word) : Half :=
  let row := fun index => score arithmetic inputs queryBase kvHead (selected index)
  arithmetic.store (weighted arithmetic (softmax arithmetic row count)
    (fun index => loaded arithmetic inputs.values (selected index) kvHead element) count)

/-- What a prefill leaves for a token, a head and an element. -/
def cellOutput (arithmetic : Arithmetic Half Float) (inputs : Inputs Half)
    (firstPosition token head element : Nat) : Half :=
  attended arithmetic inputs (elementBase token head) (kvHeadOf head)
    (selectedCountAt (firstPosition + token)) element (tokenSelected inputs.selected token)

/-- The scores of a token and a head. -/
def Scored (arithmetic : Arithmetic Half Float) (inputs : Inputs Half)
    (firstPosition token head : Nat) (scores : Nat → Float) : Prop :=
  ∀ index < selectedCountAt (firstPosition + token),
    scores (scoreBase token head + index) = cellScore arithmetic inputs token head index

/-- Weights that are the softmax of the scores give the output of the cell. -/
theorem weights_output {weights : Nat → Float} {token head element : Nat}
    (same : ∀ index < selectedCountAt (firstPosition + token), weights index =
      softmax arithmetic (cellScore arithmetic inputs token head)
        (selectedCountAt (firstPosition + token)) index) :
    arithmetic.store (weighted arithmetic weights
        (fun index => loaded arithmetic inputs.values (tokenSelected inputs.selected token index)
          (kvHeadOf head) element) (selectedCountAt (firstPosition + token))) =
      cellOutput arithmetic inputs firstPosition token head element := by
  rw [weighted_congr same]
  rfl

theorem decode_output {count head element : Nat} {scores : Nat → Float} {output : Nat → Half}
    (inside : head < kQ38QsaHeads) (low : element < kQ38QsaHeadWidth)
    (weights : ∀ index < count, scores (head * count + index) =
      softmax arithmetic (fun index => score arithmetic inputs (head * kQ38QsaHeadWidth)
        (kvHeadOf head) (inputs.selected index)) count index) :
    qsaAttentionOutputKernel arithmetic device inputs count scores output
        (head * kQ38QsaHeadWidth + element) =
      attended arithmetic inputs (head * kQ38QsaHeadWidth) (kvHeadOf head) count element
        inputs.selected := by
  have tile : element / 64 < kAttentionTiles := by
    simp only [kQ38QsaHeadWidth, kAttentionTiles] at *
    omega
  have parts : element / 64 * 64 + element % 64 = element := Nat.div_add_mod' element 64
  have value : arithmetic.store (weighted arithmetic
      (fun index => scores (head * count + index))
      (fun index => loaded arithmetic inputs.values (inputs.selected index) (kvHeadOf head)
        element) count) =
      attended arithmetic inputs (head * kQ38QsaHeadWidth) (kvHeadOf head) count element
        inputs.selected := by
    rw [weighted_congr weights]
    rfl
  have thread_keeps {head' tile' thread : Nat} {state : Nat → Half}
      (held : state (head * kQ38QsaHeadWidth + element) = attended arithmetic inputs
        (head * kQ38QsaHeadWidth) (kvHeadOf head) count element inputs.selected)
      (narrow : tile' * 64 + thread < kQ38QsaHeadWidth) :
      Function.update state (head' * kQ38QsaHeadWidth + (tile' * 64 + thread))
        (arithmetic.store (weighted arithmetic (fun index => scores (head' * count + index))
          (fun index => loaded arithmetic inputs.values (inputs.selected index) (kvHeadOf head')
            (tile' * 64 + thread)) count)) (head * kQ38QsaHeadWidth + element) =
        attended arithmetic inputs (head * kQ38QsaHeadWidth) (kvHeadOf head) count element
          inputs.selected := by
    by_cases same : head * kQ38QsaHeadWidth + element =
        head' * kQ38QsaHeadWidth + (tile' * 64 + thread)
    · obtain ⟨heads, elements⟩ := row_inj low narrow same
      rw [same, Function.update_self, ← heads, ← elements]
      exact value
    · rw [Function.update_of_ne same, held]
  apply run_settles (fun later : Nat → Half => later _ = _)
    (List.mem_product.mpr ⟨List.mem_range.mpr inside, List.mem_range.mpr tile⟩)
  · intro state
    apply run_settles (fun later : Nat → Half => later _ = _)
      (List.mem_range.mpr (Nat.mod_lt element (by decide : 0 < 64)))
    · intro state
      rw [parts, if_neg (Nat.not_le.mpr low), Function.update_self]
      exact value
    · intro thread _ state held
      by_cases wide : kQ38QsaHeadWidth ≤ element / 64 * 64 + thread
      · rw [if_pos wide, held]
      · rw [if_neg wide]
        exact thread_keeps held (Nat.not_le.mp wide)
  · rintro ⟨head', tile'⟩ block state held
    apply run_keeps (fun later : Nat → Half => later _ = _) _ held
    intro thread _ state held
    by_cases wide : kQ38QsaHeadWidth ≤ tile' * 64 + thread
    · rw [if_pos wide, held]
    · rw [if_neg wide]
      exact thread_keeps held (Nat.not_le.mp wide)

/-- The place of a token, a head and an element, and a block that has another. -/
theorem prefill_output {results : Results Half Float} {token head element : Nat}
    (known : token < tokens) (inside : head < kQ38QsaHeads) (low : element < kQ38QsaHeadWidth)
    (scored : Scored arithmetic inputs firstPosition token head results.scores) :
    (qsaAttentionOutputPrefillKernel arithmetic device inputs firstPosition tokens
        results).output (elementBase token head + element) =
      cellOutput arithmetic inputs firstPosition token head element := by
  apply run_once
    (fun results : Results Half Float =>
      Scored arithmetic inputs firstPosition token head results.scores)
    (fun results : Results Half Float => results.output (elementBase token head + element) = _)
    (blocks_nodup _ _)
    (List.mem_product.mpr ⟨List.mem_range.mpr inside, List.mem_range.mpr known⟩)
  · rintro ⟨head', token'⟩ block other state held index early
    refine (normalize_row_beside fun index' early' same => other ?_).trans (held index early)
    exact prefill_rows_apart (head', token') block (head, token) (List.mem_product.mpr
      ⟨List.mem_range.mpr inside, List.mem_range.mpr known⟩) index' early' index early same
  · intro state held
    apply (run_stores (List.mem_range.mpr low) ?_).trans
    · apply weights_output
      intro index early
      rw [normalize_row_at early]
      exact softmax_congr held early
    · intro turn _ same
      rw [Nat.add_left_cancel same]
  · rintro ⟨head', token'⟩ block other state held
    refine (run_stores_beside fun element' listed same => other ?_).trans held
    obtain ⟨inside', _⟩ := List.mem_product.mp block
    obtain ⟨tokens, heads, _⟩ := element_place_inj (List.mem_range.mp inside') inside
      (List.mem_range.mp listed) low same
    exact Prod.ext heads tokens
  · exact scored

section Groups
variable {phase : List Nat} {token kvHead selectedCount : Nat}

theorem store_group_at {accumulators : Nat → Nat → Float} {output : Nat → Half}
    {queryLocal element : Nat} (group : kvHead < kQ38QsaKvHeads)
    (grouped : queryLocal < kQsaQueriesPerKv) (low : element < kQ38QsaHeadWidth) :
    storeGroup arithmetic device phase token kvHead accumulators output
        (elementBase token (headOf kvHead queryLocal) + element) =
      arithmetic.store (accumulators element queryLocal) := by
  apply @run_stores (Nat × Nat) Half
    (fun turn => elementBase token (headOf kvHead turn.2) + turn.1) _ output device.scheduler
    phase (fun turn => arithmetic.store (accumulators turn.1 turn.2)) (element, queryLocal)
    (List.mem_product.mpr ⟨List.mem_range.mpr low, List.mem_range.mpr grouped⟩)
  rintro ⟨element', queryLocal'⟩ listed same
  obtain ⟨low', grouped'⟩ := List.mem_product.mp listed
  have local_ := List.mem_range.mp grouped'
  obtain ⟨_, heads, rfl⟩ := element_place_inj (head_of_lt group local_)
    (head_of_lt group grouped) (List.mem_range.mp low') low same
  rw [(head_of_inj local_ grouped heads).2]

/-- A group stores nothing at the place of another group. -/
theorem store_group_beside {accumulators : Nat → Nat → Float} {output : Nat → Half}
    {token' kvHead' queryLocal element : Nat} (group : kvHead < kQ38QsaKvHeads)
    (group' : kvHead' < kQ38QsaKvHeads) (grouped : queryLocal < kQsaQueriesPerKv)
    (low : element < kQ38QsaHeadWidth) (other : (kvHead, token) ≠ (kvHead', token')) :
    storeGroup arithmetic device phase token kvHead accumulators output
        (elementBase token' (headOf kvHead' queryLocal) + element) =
      output (elementBase token' (headOf kvHead' queryLocal) + element) := by
  apply run_stores_beside
  rintro ⟨element', queryLocal'⟩ listed same
  obtain ⟨low', grouped'⟩ := List.mem_product.mp listed
  have local_ := List.mem_range.mp grouped'
  obtain ⟨tokens, heads, _⟩ := element_place_inj (head_of_lt group local_)
    (head_of_lt group' grouped) (List.mem_range.mp low') low same
  exact other (Prod.ext (head_of_inj local_ grouped heads).1 tokens)

/-- Accumulators of several heads go on each by itself. -/
theorem fold_pointwise {ι κ α : Type} (step : α → ι → κ → α) (turns : List ι)
    (start : κ → α) (key : κ) :
    turns.foldl (fun accumulators turn key => step (accumulators key) turn key) start key =
      turns.foldl (fun accumulator turn => step accumulator turn key) (start key) := by
  induction turns generalizing start with
  | nil => rfl
  | cons turn rest ih => rw [List.foldl_cons, List.foldl_cons, ih]

theorem staged_position {positions : Nat → Word} {tileBase tileCount tileIndex : Nat}
    (inside : tileIndex < tileCount) (narrow : tileCount ≤ kQsaGroupedValueTile) :
    stagePositions device inputs phase token tileBase tileCount positions tileIndex =
      tokenSelected inputs.selected token (tileBase + tileIndex) := by
  have listed : tileIndex ∈ (List.range kThreads).filter fun thread => thread < tileCount := by
    simp only [List.mem_filter, List.mem_range, decide_eq_true_eq]
    simp only [kThreads, kQsaGroupedValueTile] at *
    omega
  exact @run_stores Nat Word id _ positions device.scheduler phase
    (fun thread => tokenSelected inputs.selected token (tileBase + thread)) tileIndex listed
    fun _ _ same => congrArg (fun thread => tokenSelected inputs.selected token
      (tileBase + thread)) same

theorem staged_score {global shared : Nat → Float} {tileBase tileCount tileIndex queryLocal : Nat}
    (inside : tileIndex < tileCount) (narrow : tileCount ≤ kQsaGroupedValueTile)
    (grouped : queryLocal < kQsaQueriesPerKv) :
    stageScores device phase token kvHead tileBase tileCount global shared
        (queryLocal * kQsaGroupedValueTile + tileIndex) =
      global (scoreBase token (headOf kvHead queryLocal) + tileBase + tileIndex) := by
  have low := Nat.lt_of_lt_of_le inside narrow
  obtain ⟨quotient, rest⟩ := row_parts queryLocal low
  have listed := (@mem_worker_turns kThreads (kQsaQueriesPerKv * kQsaGroupedValueTile)
    (by decide) _).mpr (row_early grouped low)
  apply run_settles (fun later : Nat → Float => later _ = _) listed
  · intro state
    dsimp only
    rw [quotient, rest, if_neg (Nat.not_le.mpr inside), Function.update_self]
  · intro flat _ state held
    by_cases far : tileCount ≤ flat % kQsaGroupedValueTile
    · rw [if_pos far, held]
    · rw [if_neg far]
      by_cases same : queryLocal * kQsaGroupedValueTile + tileIndex = flat
      · rw [← same, Function.update_self, quotient, rest]
      · rw [Function.update_of_ne same, held]

/-- What one index adds to the sum of a head. -/
def valueStep (arithmetic : Arithmetic Half Float) (inputs : Inputs Half)
    (token kvHead element : Nat) (weight : Nat → Float) (sum : Float) (index : Nat) : Float :=
  arithmetic.add sum (arithmetic.mul (weight index)
    (loaded arithmetic inputs.values (tokenSelected inputs.selected token index) kvHead element))

theorem value_tile_sum {global : Nat → Float} {tiles : ValueTiles Float}
    {tileBase queryLocal element : Nat} (grouped : queryLocal < kQsaQueriesPerKv) :
    (valueTile arithmetic device inputs phase token kvHead selectedCount global tiles
        tileBase).accumulators element queryLocal =
      ((List.range (min kQsaGroupedValueTile (selectedCount - tileBase))).map
        (tileBase + ·)).foldl (valueStep arithmetic inputs token kvHead element fun index =>
          global (scoreBase token (headOf kvHead queryLocal) + index))
        (tiles.accumulators element queryLocal) := by
  have narrow := Nat.min_le_left kQsaGroupedValueTile (selectedCount - tileBase)
  have position {tileIndex : Nat} (inside : tileIndex < _) := @staged_position Half Float device
    inputs (phase ++ [tileBase, 0]) token tiles.positions tileBase _ tileIndex inside narrow
  have score {tileIndex : Nat} (inside : tileIndex < _) := @staged_score Half Float device
    (phase ++ [tileBase, 1]) token kvHead global tiles.scores tileBase _ tileIndex queryLocal
    inside narrow grouped
  unfold valueTile
  dsimp only
  generalize stagePositions device inputs _ _ _ _ _ = positions at position ⊢
  generalize stageScores device _ _ _ _ _ _ _ = scores at score ⊢
  rw [fold_pointwise fun sum tileIndex queryLocal => arithmetic.add sum (arithmetic.mul
    (scores (queryLocal * kQsaGroupedValueTile + tileIndex))
    (loaded arithmetic inputs.values (positions tileIndex) kvHead element)), List.foldl_map]
  apply List.foldl_ext
  intro sum tileIndex member
  have inside := List.mem_range.mp member
  rw [position inside, score inside, Nat.add_assoc]
  rfl

/-- Over the tiles, the sum of a head runs through the indices in their order. -/
theorem value_tiles_sum {global : Nat → Float} (bases : List Nat) {tiles : ValueTiles Float}
    {queryLocal element : Nat} (grouped : queryLocal < kQsaQueriesPerKv) :
    (bases.foldl (valueTile arithmetic device inputs phase token kvHead selectedCount global)
        tiles).accumulators element queryLocal =
      (bases.flatMap fun tileBase =>
        (List.range (min kQsaGroupedValueTile (selectedCount - tileBase))).map
          (tileBase + ·)).foldl (valueStep arithmetic inputs token kvHead element fun index =>
          global (scoreBase token (headOf kvHead queryLocal) + index))
        (tiles.accumulators element queryLocal) := by
  induction bases generalizing tiles with
  | nil => rfl
  | cons tileBase rest ih =>
      rw [List.foldl_cons, ih, value_tile_sum grouped, List.flatMap_cons, List.foldl_append]

theorem accumulate_sum {weight : Nat → Nat → Float} {queryLocal element : Nat} :
    accumulate arithmetic inputs token kvHead selectedCount weight element queryLocal =
      (List.range selectedCount).foldl
        (valueStep arithmetic inputs token kvHead element (weight queryLocal))
        arithmetic.zero :=
  fold_pointwise (fun sum index queryLocal => arithmetic.add sum (arithmetic.mul
    (weight queryLocal index) (loaded arithmetic inputs.values
      (tokenSelected inputs.selected token index) kvHead element))) _ _ queryLocal

/-- A sum over weights that are the softmax of the scores gives the output of the cell. -/
theorem sum_output {weight : Nat → Float} {queryLocal element : Nat}
    (grouped : queryLocal < kQsaQueriesPerKv)
    (same : ∀ index < selectedCountAt (firstPosition + token), weight index =
      softmax arithmetic (cellScore arithmetic inputs token (headOf kvHead queryLocal))
        (selectedCountAt (firstPosition + token)) index) :
    arithmetic.store ((List.range (selectedCountAt (firstPosition + token))).foldl
        (valueStep arithmetic inputs token kvHead element weight) arithmetic.zero) =
      cellOutput arithmetic inputs firstPosition token (headOf kvHead queryLocal) element := by
  have output := @weights_output _ _ arithmetic inputs firstPosition weight token
    (headOf kvHead queryLocal) element same
  rw [kv_head_of kvHead grouped] at output
  exact output

end Groups

theorem value_grouped_output {scores : Nat → Float} {output : Nat → Half}
    {token head element : Nat} (known : token < tokens) (inside : head < kQ38QsaHeads)
    (low : element < kQ38QsaHeadWidth)
    (weights : ∀ index < selectedCountAt (firstPosition + token),
      scores (scoreBase token head + index) =
        softmax arithmetic (cellScore arithmetic inputs token head)
          (selectedCountAt (firstPosition + token)) index) :
    qsaAttentionValueGroupedPrefillKernel arithmetic device inputs firstPosition tokens scores
        output (elementBase token head + element) =
      cellOutput arithmetic inputs firstPosition token head element := by
  obtain ⟨kvHead, group, queryLocal, grouped, rfl⟩ := head_grouped inside
  apply run_once (fun _ => True) (fun later : Nat → Half => later _ = _) (blocks_nodup _ _)
    (List.mem_product.mpr ⟨List.mem_range.mpr group, List.mem_range.mpr known⟩)
  · exact fun _ _ _ _ _ => trivial
  · intro state _
    apply (store_group_at group grouped low).trans
    rw [value_tiles_sum _ grouped, strided_cover (by decide)]
    exact sum_output grouped weights
  · rintro ⟨kvHead', token'⟩ block other state held
    obtain ⟨group', _⟩ := List.mem_product.mp block
    exact (store_group_beside (List.mem_range.mp group') group grouped low other).trans held
  · trivial

/-- The rows of a group are normalized one after the other. -/
theorem group_normalized {phase : Nat → List Nat} {scores : Nat → Float} {token kvHead : Nat}
    {queryLocal index : Nat} (group : kvHead < kQ38QsaKvHeads)
    (grouped : queryLocal < kQsaQueriesPerKv)
    (early : index < selectedCountAt (firstPosition + token)) :
    (List.range kQsaQueriesPerKv).foldl (fun scores queryLocal =>
        normalizeRow arithmetic device.scheduler (phase queryLocal)
          (scoreBase token (headOf kvHead queryLocal)) (selectedCountAt (firstPosition + token))
          scores) scores (scoreBase token (headOf kvHead queryLocal) + index) =
      softmax arithmetic (fun index => scores (scoreBase token (headOf kvHead queryLocal) + index))
        (selectedCountAt (firstPosition + token)) index := by
  apply @rows_normalized Half Float arithmetic Nat _
    (fun queryLocal => scoreBase token (headOf kvHead queryLocal))
    (fun _ => selectedCountAt (firstPosition + token)) scores device.scheduler phase
    List.nodup_range _ queryLocal (List.mem_range.mpr grouped) index early
  intro turn member other member' index early index' early' same
  have inside := List.mem_range.mp member
  have inside' := List.mem_range.mp member'
  obtain ⟨_, heads, _⟩ := score_place_inj (head_of_lt group inside) (head_of_lt group inside')
    early early' same
  exact (head_of_inj inside inside' heads).2

theorem group_normalized_beside {phase : Nat → List Nat} {scores : Nat → Float}
    {token token' kvHead kvHead' queryLocal index : Nat} (group : kvHead < kQ38QsaKvHeads)
    (group' : kvHead' < kQ38QsaKvHeads) (grouped : queryLocal < kQsaQueriesPerKv)
    (early : index < selectedCountAt (firstPosition + token'))
    (other : (kvHead, token) ≠ (kvHead', token')) :
    (List.range kQsaQueriesPerKv).foldl (fun scores queryLocal =>
        normalizeRow arithmetic device.scheduler (phase queryLocal)
          (scoreBase token (headOf kvHead queryLocal)) (selectedCountAt (firstPosition + token))
          scores) scores (scoreBase token' (headOf kvHead' queryLocal) + index) =
      scores (scoreBase token' (headOf kvHead' queryLocal) + index) := by
  apply fold_keeps (fun later : Nat → Float => later _ = _) _ rfl
  intro queryLocal' member state held
  refine (normalize_row_beside fun index' early' same => other ?_).trans held
  have inside := List.mem_range.mp member
  obtain ⟨tokens, heads, _⟩ := score_place_inj (head_of_lt group inside)
    (head_of_lt group' grouped) early' early same
  exact Prod.ext (head_of_inj inside grouped heads).1 tokens

theorem softmax_value_output {results : Results Half Float} {token head element : Nat}
    (known : token < tokens) (inside : head < kQ38QsaHeads) (low : element < kQ38QsaHeadWidth)
    (scored : Scored arithmetic inputs firstPosition token head results.scores) :
    (qsaAttentionSoftmaxValueGroupedPrefillKernel arithmetic device inputs firstPosition tokens
        results).output (elementBase token head + element) =
      cellOutput arithmetic inputs firstPosition token head element := by
  obtain ⟨kvHead, group, queryLocal, grouped, rfl⟩ := head_grouped inside
  apply run_once
    (fun results : Results Half Float =>
      Scored arithmetic inputs firstPosition token (headOf kvHead queryLocal) results.scores)
    (fun results : Results Half Float => results.output _ = _) (blocks_nodup _ _)
    (List.mem_product.mpr ⟨List.mem_range.mpr group, List.mem_range.mpr known⟩)
  · rintro ⟨kvHead', token'⟩ block other state held index early
    obtain ⟨group', _⟩ := List.mem_product.mp block
    have beside := @group_normalized_beside _ _ arithmetic device firstPosition
      (fun queryLocal => [kvHead', token', 0, queryLocal]) state.scores token' token kvHead'
      kvHead queryLocal index (List.mem_range.mp group') group grouped early other
    exact beside.trans (held index early)
  · intro state held
    apply (store_group_at group grouped low).trans
    rw [accumulate_sum]
    apply sum_output grouped
    intro index early
    rw [group_normalized group grouped early]
    exact softmax_congr held early
  · rintro ⟨kvHead', token'⟩ block other state held
    obtain ⟨group', _⟩ := List.mem_product.mp block
    exact (store_group_beside (List.mem_range.mp group') group grouped low other).trans held
  · exact scored

/-- The maximum and the denominator of a head, once all heads are reduced. -/
theorem reduced_group {scores : Nat → Float} {token kvHead selectedCount queryLocal : Nat}
    {shared : Shared Half Float} (grouped : queryLocal < kQsaQueriesPerKv) :
    let row := fun index => scores (scoreBase token (headOf kvHead queryLocal) + index)
    let reduced := reduceGroup arithmetic token kvHead selectedCount scores shared
    reduced.maxima queryLocal = rowMaximum arithmetic row selectedCount ∧
      reduced.denominators queryLocal = rowDenominator arithmetic row
        (rowMaximum arithmetic row selectedCount) selectedCount := by
  apply fold_settles (fun shared : Shared Half Float =>
    shared.maxima queryLocal = _ ∧ shared.denominators queryLocal = _)
    (List.mem_range.mpr grouped)
  · intro state
    exact ⟨Function.update_self _ _ _, Function.update_self _ _ _⟩
  · rintro queryLocal' _ state ⟨maximum, denominator⟩
    by_cases same : queryLocal = queryLocal'
    · subst same
      exact ⟨Function.update_self _ _ _, Function.update_self _ _ _⟩
    · exact ⟨(Function.update_of_ne same _ _).trans maximum,
        (Function.update_of_ne same _ _).trans denominator⟩

theorem fused_output {results : Results Half Float} {token head element : Nat}
    (known : token < tokens) (inside : head < kQ38QsaHeads) (low : element < kQ38QsaHeadWidth) :
    (qsaAttentionFusedGroupedPrefillKernel arithmetic device inputs firstPosition tokens
        results).output (elementBase token head + element) =
      cellOutput arithmetic inputs firstPosition token head element := by
  obtain ⟨kvHead, group, queryLocal, grouped, rfl⟩ := head_grouped inside
  apply run_once (fun _ => True) (fun results : Results Half Float => results.output _ = _)
    (blocks_nodup _ _)
    (List.mem_product.mpr ⟨List.mem_range.mpr group, List.mem_range.mpr known⟩)
  · exact fun _ _ _ _ _ => trivial
  · intro state _
    apply (store_group_at group grouped low).trans
    rw [accumulate_sum]
    apply sum_output grouped
    intro index early
    obtain ⟨maximum, denominator⟩ := reduced_group grouped
    rw [maximum, denominator]
    exact softmax_congr (fun index early => group_scores group grouped early) early
  · rintro ⟨kvHead', token'⟩ block other state held
    obtain ⟨group', _⟩ := List.mem_product.mp block
    exact (store_group_beside (List.mem_range.mp group') group grouped low other).trans held
  · trivial

end Outputs

section Paths
variable {devices : Nat → Device Half Float} {inputs : Inputs Half} {firstPosition tokens : Nat}
variable {results : Results Half Float} {token head element : Nat}

/-- What a decode at the position of one token is given: its queries and its positions. -/
def tokenInputs (inputs : Inputs Half) (token : Nat) : Inputs Half :=
  { inputs with
    query := fun place => inputs.query (elementBase token 0 + place)
    selected := tokenSelected inputs.selected token }

theorem token_score (arithmetic : Arithmetic Half Float) (inputs : Inputs Half)
    (token head index : Nat) :
    score arithmetic (tokenInputs inputs token) (head * kQ38QsaHeadWidth) (kvHeadOf head)
        ((tokenInputs inputs token).selected index) =
      cellScore arithmetic inputs token head index := by
  have place (element : Nat) : elementBase token 0 + (head * kQ38QsaHeadWidth + element) =
      elementBase token head + element := by
    simp only [elementBase, rowOfHead, kQ38QsaHeadWidth]
    ring
  unfold cellScore score
  simp only [tokenInputs, place]

theorem decode_path (known : head < kQ38QsaHeads) (low : element < kQ38QsaHeadWidth) :
    (cudaQsaAttentionDecodeBf16 arithmetic devices (tokenInputs inputs token)
        (selectedCountAt (firstPosition + token)) results).output
        (head * kQ38QsaHeadWidth + element) =
      cellOutput arithmetic inputs firstPosition token head element := by
  apply (decode_output known low fun index early => ?_).trans
  · unfold attended
    simp only [token_score]
    rfl
  · rw [decode_softmax known early]
    exact softmax_congr (fun index early => decode_scores known early) early

theorem prefill_path (known : token < tokens) (inside : head < kQ38QsaHeads)
    (low : element < kQ38QsaHeadWidth) :
    (cudaQsaApplyPrefillBf16 arithmetic devices inputs firstPosition tokens results).output
        (elementBase token head + element) =
      cellOutput arithmetic inputs firstPosition token head element :=
  prefill_output known inside low fun _ early => prefill_scores known inside early

theorem grouped_path (known : token < tokens) (inside : head < kQ38QsaHeads)
    (low : element < kQ38QsaHeadWidth) :
    (cudaQsaApplyGroupedPrefillBf16 arithmetic devices inputs firstPosition tokens
        results).output (elementBase token head + element) =
      cellOutput arithmetic inputs firstPosition token head element := by
  apply value_grouped_output known inside low
  intro index early
  rw [prefill_softmax known inside early]
  exact softmax_congr (fun index early => grouped_scores known inside early) early

theorem grouped_fused_path (persistent : Bool) (known : token < tokens)
    (inside : head < kQ38QsaHeads) (low : element < kQ38QsaHeadWidth) :
    (cudaQsaApplyGroupedFusedPrefillBf16 arithmetic devices inputs firstPosition tokens persistent
        results).output (elementBase token head + element) =
      cellOutput arithmetic inputs firstPosition token head element := by
  cases persistent with
  | true => exact fused_output known inside low
  | false =>
      exact softmax_value_output known inside low fun _ early => grouped_scores known inside early

/-- Whatever order the turns come in, and whatever stood in shared and global memory. -/
theorem attention_paths_agree (arithmetic : Arithmetic Half Float)
    (devices : Nat → Device Half Float) (inputs : Inputs Half) (firstPosition tokens : Nat)
    (results : Results Half Float) (token : Fin tokens) (head : Fin kQ38QsaHeads)
    (element : Fin kQ38QsaHeadWidth) :
    let place := elementBase token head + element
    let expression := cellOutput arithmetic inputs firstPosition token head element
    (cudaQsaApplyPrefillBf16 arithmetic devices inputs firstPosition tokens results).output
        place = expression ∧
      (cudaQsaApplyGroupedPrefillBf16 arithmetic devices inputs firstPosition tokens
        results).output place = expression ∧
      (∀ persistent, (cudaQsaApplyGroupedFusedPrefillBf16 arithmetic devices inputs firstPosition
        tokens persistent results).output place = expression) ∧
      (cudaQsaAttentionDecodeBf16 arithmetic devices (tokenInputs inputs token)
        (selectedCountAt (firstPosition + token)) results).output
        (head * kQ38QsaHeadWidth + element) = expression :=
  ⟨prefill_path token.isLt head.isLt element.isLt, grouped_path token.isLt head.isLt element.isLt,
    fun persistent => grouped_fused_path persistent token.isLt head.isLt element.isLt,
    decode_path head.isLt element.isLt⟩

end Paths

end Q38.AttentionAgreement
