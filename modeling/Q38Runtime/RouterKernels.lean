import Q38Runtime.BitonicNetwork

/-!
The network of the router kernel for 512 experts in `q38_kernels.cu`, for one
token. A loaded float is a value of a linear order: no logit is a NaN, and the
two zeros are one value.
-/
namespace Q38.RouterKernels
open HalvingLoops BitonicNetwork

variable {Value : Type} [LinearOrder Value]

section Network

def kExperts : Nat := 512

/-- The shared arrays of a block. -/
structure Shared (Value : Type) where
  values : Nat → Value
  ids : Nat → Nat

/-- The first loop: every expert's logit at its own place. -/
def loadLogits (logits : Nat → Value) : Shared Value := { values := logits, ids := id }

def better (shared : Shared Value) (place other : Nat) : Prop :=
  shared.values other < shared.values place ∨
    shared.values place = shared.values other ∧ shared.ids place < shared.ids other

instance (shared : Shared Value) (place other : Nat) : Decidable (better shared place other) :=
  inferInstanceAs (Decidable (_ ∨ _))

def exchange (width stride : Nat) (shared : Shared Value) (left : Nat) : Shared Value :=
  let right := left ^^^ stride
  if right ≤ left then shared
  else if (left &&& width = 0 ∧ better shared left right) ∨
      (left &&& width ≠ 0 ∧ better shared right left) then
    { values := swap left right shared.values, ids := swap left right shared.ids }
  else shared

/-- The loops of the network. `orders` is the order in which the threads of the
block come to the places between two barriers. -/
def sortExperts (orders : Nat → Nat → List Nat) (shared : Shared Value) : Shared Value :=
  (doublings 2 kExperts).foldl (fun shared width =>
    (halvings (width / 2)).foldl (fun shared stride =>
      (orders width stride).foldl (exchange width stride) shared) shared) shared

/-- The expert of a rank, read from the end. -/
def rankedId (shared : Shared Value) (rank : Nat) : Nat := shared.ids (kExperts - 1 - rank)

def sortedIds (orders : Nat → Nat → List Nat) (logits : Nat → Value) (topK : Nat) : List Nat :=
  (List.range topK).map (rankedId (sortExperts orders (loadLogits logits)))

end Network

section Keys

/-- A place of the shared arrays as one key: the logit, and on ties the lower id. -/
def keys (shared : Shared Value) (place : Nat) : Value ×ₗ Natᵒᵈ :=
  toLex (shared.values place, OrderDual.toDual (shared.ids place))

theorem keys_lt {shared : Shared Value} {place other : Nat} :
    keys shared place < keys shared other ↔ better shared other place := by
  rw [keys, keys, Prod.Lex.toLex_lt_toLex, better]
  simp only [OrderDual.toDual_lt_toDual, eq_comm]

theorem keys_exchange (width stride left : Nat) (shared : Shared Value) :
    keys (exchange width stride shared left) =
      compareExchange width stride (keys shared) left := by
  unfold exchange compareExchange
  by_cases upper : left ^^^ stride ≤ left
  · simp only [upper, if_true]
  · simp only [upper, if_false, keys_lt]
    split
    · funext place
      simp only [keys, swap]
      split_ifs <;> rfl
    · rfl

theorem keys_sort (orders : Nat → Nat → List Nat) (shared : Shared Value) :
    keys (sortExperts orders shared) = network orders kExperts (keys shared) := by
  have stages (width stride : Nat) (order : List Nat) (shared : Shared Value) :
      keys (order.foldl (exchange width stride) shared) =
        stage width stride order (keys shared) := by
    unfold stage
    induction order generalizing shared with
    | nil => rfl
    | cons left rest ih => rw [List.foldl_cons, List.foldl_cons, ih, keys_exchange]
  have merges (width : Nat) (strides : List Nat) (shared : Shared Value) :
      keys (strides.foldl (fun shared stride =>
          (orders width stride).foldl (exchange width stride) shared) shared) =
        merge orders width strides (keys shared) := by
    unfold merge
    induction strides generalizing shared with
    | nil => rfl
    | cons stride rest ih => rw [List.foldl_cons, List.foldl_cons, ih, stages]
  unfold sortExperts network
  induction doublings 2 kExperts generalizing shared with
  | nil => rfl
  | cons width rest ih => rw [List.foldl_cons, List.foldl_cons, ih, merges]

end Keys

section Selection

variable {orders : Nat → Nat → List Nat}

theorem experts_pow : kExperts = 2 ^ 9 := rfl

theorem sorted_perm (complete : Complete orders kExperts) (logits : Nat → Value) :
    ((List.range kExperts).map fun place =>
      ((sortExperts orders (loadLogits logits)).values place,
        (sortExperts orders (loadLogits logits)).ids place)).Perm
      ((List.range kExperts).map fun expert => (logits expert, expert)) := by
  have permuted := @network_perm _ _ orders 9 complete (keys (loadLogits logits))
  rw [← experts_pow, ← keys_sort] at permuted
  have unpacked := permuted.map fun key => ((ofLex key).1, OrderDual.ofDual (ofLex key).2)
  rwa [List.map_map, List.map_map] at unpacked

theorem sorted_ids (complete : Complete orders kExperts) (logits : Nat → Value) :
    ((List.range kExperts).map (sortExperts orders (loadLogits logits)).ids).Perm
      (List.range kExperts) := by
  have permuted := (sorted_perm complete logits).map Prod.snd
  rwa [List.map_map, List.map_map, show Prod.snd ∘ (fun expert => (logits expert, expert)) = id from
    rfl, List.map_id] at permuted

theorem sorted_value (complete : Complete orders kExperts) (logits : Nat → Value) {place : Nat}
    (inside : place < kExperts) :
    (sortExperts orders (loadLogits logits)).values place =
      logits ((sortExperts orders (loadLogits logits)).ids place) := by
  have listed := (sorted_perm complete logits).mem_iff.mp
    (List.mem_map_of_mem (List.mem_range.mpr inside))
  obtain ⟨expert, -, same⟩ := List.mem_map.mp listed
  rw [Prod.mk.injEq] at same
  rw [← same.1, ← same.2]

theorem sorted_ids_injective (complete : Complete orders kExperts) (logits : Nat → Value)
    {place other : Nat} (inside : place < kExperts) (inside' : other < kExperts)
    (same : (sortExperts orders (loadLogits logits)).ids place =
      (sortExperts orders (loadLogits logits)).ids other) : place = other := by
  have once := (sorted_ids complete logits).nodup_iff.mpr List.nodup_range
  exact List.inj_on_of_nodup_map once (List.mem_range.mpr inside) (List.mem_range.mpr inside') same

theorem sorted_ascending (complete : Complete orders kExperts) (logits : Nat → Value)
    {low high : Nat} (less : low < high) (inside : high < kExperts) :
    better (sortExperts orders (loadLogits logits)) high low := by
  have ordered := @network_sorted _ _ orders 9 complete (keys (loadLogits logits)) _ _ less inside
  rw [← experts_pow, ← keys_sort] at ordered
  rw [← keys_lt]
  apply lt_of_le_of_ne ordered
  intro same
  have equal : low = high := sorted_ids_injective complete logits (less.trans inside) inside
    (congrArg (fun key => OrderDual.ofDual (ofLex key).2) same)
  omega

/-- An expert is chosen before another. -/
def Outranks (logits : Nat → Value) (expert other : Nat) : Prop :=
  logits other < logits expert ∨ logits expert = logits other ∧ expert < other

/-- The experts in the order of their ranks. -/
theorem ranked_pairwise (complete : Complete orders kExperts) (logits : Nat → Value) :
    (sortedIds orders logits kExperts).Pairwise (Outranks logits) := by
  rw [sortedIds, List.pairwise_map]
  apply List.Pairwise.imp_of_mem ?_ List.pairwise_lt_range
  intro rank later here there less
  rw [List.mem_range] at here there
  have ordered := sorted_ascending complete logits
    (show kExperts - 1 - later < kExperts - 1 - rank by omega) (by omega)
  rwa [better, sorted_value complete logits (by omega),
    sorted_value complete logits (by omega)] at ordered

theorem ranked_perm (complete : Complete orders kExperts) (logits : Nat → Value) :
    (sortedIds orders logits kExperts).Perm (List.range kExperts) := by
  have backwards : sortedIds orders logits kExperts =
      ((List.range kExperts).map (sortExperts orders (loadLogits logits)).ids).reverse := by
    apply List.ext_getElem
    · simp [sortedIds]
    · intro rank _ _
      simp [sortedIds, rankedId]
  rw [backwards]
  exact (List.reverse_perm _).trans (sorted_ids complete logits)

theorem sorted_ids_take {topK : Nat} (few : topK ≤ kExperts) (logits : Nat → Value) :
    sortedIds orders logits topK = (sortedIds orders logits kExperts).take topK := by
  rw [sortedIds, sortedIds, ← List.map_take, List.take_range, Nat.min_eq_left few]

/-- The network leaves a sorted permutation of the pairs, whatever the order of
the threads, and the ranks read from its end are the best experts. -/
theorem network_selects (orders : Nat → Nat → List Nat)
    (complete : ∀ width stride, (orders width stride).Perm (List.range kExperts))
    (logits : Nat → Value) :
    ((List.range kExperts).map fun place =>
      ((sortExperts orders (loadLogits logits)).values place,
        (sortExperts orders (loadLogits logits)).ids place)).Perm
      ((List.range kExperts).map fun expert => (logits expert, expert)) ∧
    (∀ low high, low < high → high < kExperts →
      better (sortExperts orders (loadLogits logits)) high low) ∧
    ∀ topK ≤ kExperts,
      (sortedIds orders logits topK).Nodup ∧
      (sortedIds orders logits topK).Pairwise (Outranks logits) ∧
      ∀ chosen ∈ sortedIds orders logits topK, chosen < kExperts ∧
        ∀ other < kExperts, other ∉ sortedIds orders logits topK →
          Outranks logits chosen other := by
  have ranked := ranked_pairwise complete logits
  have permuted := ranked_perm complete logits
  refine ⟨sorted_perm complete logits, fun low high => sorted_ascending complete logits, ?_⟩
  intro topK few
  rw [sorted_ids_take few]
  have split := List.take_append_drop topK (sortedIds orders logits kExperts)
  refine ⟨((permuted.nodup_iff.mpr List.nodup_range).sublist (List.take_sublist _ _)),
    ranked.sublist (List.take_sublist _ _), ?_⟩
  intro chosen listed
  refine ⟨List.mem_range.mp (permuted.mem_iff.mp (List.mem_of_mem_take listed)), ?_⟩
  intro other inside absent
  have all := permuted.mem_iff.mpr (List.mem_range.mpr inside)
  rw [← split, List.mem_append] at all
  rw [← split, List.pairwise_append] at ranked
  exact ranked.2.2 chosen listed other (all.resolve_left absent)

theorem network_selects_flat :
    (sortedIds (fun _ _ => List.range kExperts) (fun _ => (0 : Int)) 10).Nodup :=
  ((network_selects (fun _ _ => List.range kExperts) (fun _ _ => List.Perm.refl _)
    (fun _ => (0 : Int))).2.2 10 (by decide)).1

end Selection

end Q38.RouterKernels
