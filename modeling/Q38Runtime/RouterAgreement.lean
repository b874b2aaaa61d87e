import Q38Runtime.RouterKernels

/-!
The reference router kernel beside the one for 512 experts. The reference keeps a
list by the rounded exponentials, the other orders by the logits and takes the
exponentials of the chosen only. Sums and quotients are left open; the
exponential of a difference is any function that is monotone in the logit.
-/
namespace Q38.RouterKernels
open HalvingLoops BitonicNetwork

variable {Value : Type} [LinearOrder Value]

/-- What the kernels do with floats beyond comparing them. `lowest` is the
constant that stands for no value, and `expDiff maximum logit` is `expf` of the
difference. -/
structure Floats (Value : Type) [LinearOrder Value] where
  lowest : Value
  zero : Value
  add : Value → Value → Value
  div : Value → Value → Value
  expDiff : Value → Value → Value
  monotone : ∀ maximum, Monotone (expDiff maximum)
  positive : ∀ maximum logit, lowest < expDiff maximum logit

section Reference

/-- A place of the two arrays of selected experts. -/
structure Selected (Value : Type) where
  value : Value
  id : Int

def write {α : Type} (array : Nat → α) (place : Nat) (value : α) : Nat → α :=
  fun other => if other = place then value else array other

def unselected (floats : Floats Value) : Nat → Selected Value :=
  fun _ => { value := floats.lowest, id := -1 }

/-- The first rank that a numerator beats, or `topK`. -/
def insertPosition (topK : Nat) (selected : Nat → Selected Value) (numerator : Value) : Nat :=
  ((List.range topK).find? fun rank => (selected rank).value < numerator).getD topK

/-- The loop that moves the ranks behind a position down by one, from the last on. -/
def shiftRanks (topK position : Nat) (selected : Nat → Selected Value) :
    Nat → Selected Value :=
  (List.range' (position + 1) (topK - 1 - position)).reverse.foldl
    (fun selected rank => write selected rank (selected (rank - 1))) selected

def insertExpert (topK : Nat) (numerator : Value) (selected : Nat → Selected Value)
    (expert : Nat) : Nat → Selected Value :=
  let position := insertPosition topK selected numerator
  if position = topK then selected
  else write (shiftRanks topK position selected) position { value := numerator, id := expert }

def maximum (floats : Floats Value) (logits : Nat → Value) (experts : Nat) : Value :=
  (List.range experts).foldl (fun best expert => max best (logits expert)) floats.lowest

/-- The arrays after the loop over the experts. -/
def selectExperts (floats : Floats Value) (logits : Nat → Value) (experts topK : Nat) :
    Nat → Selected Value :=
  (List.range experts).foldl
    (fun selected expert =>
      insertExpert topK (floats.expDiff (maximum floats logits experts) (logits expert)) selected
        expert)
    (unselected floats)

def sumRanks (floats : Floats Value) (numerators : Nat → Value) (topK : Nat) : Value :=
  (List.range topK).foldl (fun sum rank => floats.add sum (numerators rank)) floats.zero

/-- `topk_router_bf16_kernel` with normalised weights. -/
def topkRouter (floats : Floats Value) (logits : Nat → Value) (experts topK : Nat) :
    List Int × List Value :=
  let selected := selectExperts floats logits experts topK
  let denominator := sumRanks floats (fun rank => (selected rank).value) topK
  ((List.range topK).map fun rank => (selected rank).id,
    (List.range topK).map fun rank => floats.div (selected rank).value denominator)

/-- `topk_router_512_decode_kernel`. -/
def topkRouter512 (floats : Floats Value) (orders : Nat → Nat → List Nat) (logits : Nat → Value)
    (topK : Nat) : List Int × List Value :=
  let sorted := sortExperts orders (loadLogits logits)
  let numerator := fun rank =>
    floats.expDiff (sorted.values (kExperts - 1)) (sorted.values (kExperts - 1 - rank))
  let denominator := sumRanks floats numerator topK
  ((List.range topK).map fun rank => (rankedId sorted rank : Int),
    (List.range topK).map fun rank => floats.div (numerator rank) denominator)

end Reference

section Insertion

variable {topK position : Nat} {selected : Nat → Selected Value}

/-- The experts seen so far in the order of their numerators, first come first. -/
def insertRanked (numerators : Nat → Value) (ranked : List Nat) (expert : Nat) : List Nat :=
  ranked.takeWhile (numerators expert ≤ numerators ·) ++
    expert :: ranked.dropWhile (numerators expert ≤ numerators ·)

/-- The arrays hold the first ranks of a list. -/
def Holds (floats : Floats Value) (numerators : Nat → Value) (topK : Nat) (ranked : List Nat)
    (selected : Nat → Selected Value) : Prop :=
  ∀ rank < topK, selected rank =
    match ranked[rank]? with
    | some expert => { value := numerators expert, id := expert }
    | none => { value := floats.lowest, id := -1 }

omit [LinearOrder Value] in
theorem shift_loop_at (first count rank : Nat) (positive : 0 < first)
    (selected : Nat → Selected Value) :
    (List.range' first count).reverse.foldl
      (fun selected rank => write selected rank (selected (rank - 1))) selected rank =
      if first ≤ rank ∧ rank < first + count then selected (rank - 1) else selected rank := by
  induction count generalizing selected with
  | zero =>
      rw [if_neg (by omega)]
      rfl
  | succ count ih =>
      rw [List.range'_concat, List.reverse_append, List.foldl_append, Nat.one_mul]
      simp only [List.reverse_singleton, List.foldl_cons, List.foldl_nil]
      rw [ih]
      by_cases last : rank = first + count
      · rw [if_neg (by omega), if_pos (by omega), write, if_pos last, last]
      · by_cases moved : first ≤ rank ∧ rank < first + count
        · rw [if_pos moved, if_pos (by omega), write, if_neg (by omega)]
        · rw [if_neg moved, if_neg (by omega), write, if_neg last]

omit [LinearOrder Value] in
theorem shift_ranks_at (rank : Nat) (inside : rank < topK) :
    shiftRanks topK position selected rank =
      if position < rank then selected (rank - 1) else selected rank := by
  rw [shiftRanks, shift_loop_at _ _ _ (Nat.succ_pos _)]
  by_cases behind : position < rank
  · rw [if_pos behind, if_pos (by omega)]
  · rw [if_neg behind, if_neg (by omega)]

theorem insert_get {α : Type} (front back : List α) (item : α) (rank : Nat) :
    (front ++ item :: back)[rank]? =
      if rank < front.length then (front ++ back)[rank]?
      else if rank = front.length then some item
      else (front ++ back)[rank - 1]? := by
  by_cases before : rank < front.length
  · rw [if_pos before, List.getElem?_append_left before, List.getElem?_append_left before]
  · rw [if_neg before, List.getElem?_append_right (Nat.not_lt.mp before)]
    by_cases here : rank = front.length
    · rw [if_pos here, here, Nat.sub_self, List.getElem?_cons_zero]
    · rw [if_neg here, List.getElem?_append_right (by omega),
        show rank - front.length = rank - 1 - front.length + 1 by omega, List.getElem?_cons_succ]

/-- Where a new expert comes in. -/
theorem insert_ranked_split (numerators : Nat → Value) (ranked : List Nat) (expert : Nat) :
    ∃ front back, ranked = front ++ back ∧
      insertRanked numerators ranked expert = front ++ expert :: back ∧
      (∀ other ∈ front, numerators expert ≤ numerators other) ∧
      ∀ other ∈ back.head?, numerators other < numerators expert := by
  refine ⟨_, _, (@List.takeWhile_append_dropWhile _
    (fun other => decide (numerators expert ≤ numerators other)) ranked).symm, rfl, ?_, ?_⟩
  · intro other listed
    simpa using List.mem_takeWhile_imp listed
  · intro other first
    have stops := List.head?_dropWhile_not
      (fun other => decide (numerators expert ≤ numerators other)) ranked
    rw [Option.mem_def.mp first] at stops
    simpa using stops

theorem insert_position {floats : Floats Value} {numerators : Nat → Value}
    {front back : List Nat} (holds : Holds floats numerators topK (front ++ back) selected)
    (expert : Nat) (positive : floats.lowest < numerators expert)
    (stays : ∀ other ∈ front, numerators expert ≤ numerators other)
    (stops : ∀ other ∈ back.head?, numerators other < numerators expert) :
    insertPosition topK selected (numerators expert) = min topK front.length := by
  have kept (rank : Nat) (inside : rank < topK) (before : rank < front.length) :
      ¬ (selected rank).value < numerators expert := by
    rw [holds rank inside, List.getElem?_append_left before, List.getElem?_eq_getElem before]
    exact not_lt.mpr (stays _ (List.getElem_mem before))
  unfold insertPosition
  by_cases fits : front.length < topK
  · have beaten : (selected front.length).value < numerators expert := by
      rw [holds _ fits, List.getElem?_append_right (Nat.le_refl _), Nat.sub_self]
      cases back with
      | nil => exact positive
      | cons other rest => exact stops other rfl
    have found : (List.range topK).find? (fun rank => (selected rank).value < numerators expert) =
        some front.length := by
      rw [List.find?_range_eq_some]
      refine ⟨by simpa using beaten, List.mem_range.mpr fits, fun rank before => ?_⟩
      simpa using kept rank (before.trans fits) before
    rw [found, Option.getD_some, Nat.min_eq_right fits.le]
  · have absent : (List.range topK).find? (fun rank => (selected rank).value < numerators expert) =
        none := by
      rw [List.find?_range_eq_none]
      intro rank inside
      simpa using kept rank inside (by omega)
    rw [absent, Option.getD_none, Nat.min_eq_left (by omega)]

/-- An expert more in the loop is an expert more in the list. -/
theorem insert_holds {floats : Floats Value} {numerators : Nat → Value} {ranked : List Nat}
    (holds : Holds floats numerators topK ranked selected) (expert : Nat)
    (positive : floats.lowest < numerators expert) :
    Holds floats numerators topK (insertRanked numerators ranked expert)
      (insertExpert topK (numerators expert) selected expert) := by
  obtain ⟨front, back, rfl, inserted, stays, stops⟩ := insert_ranked_split numerators ranked expert
  have at_ := insert_position holds expert positive stays stops
  intro rank inside
  rw [inserted, insert_get, insertExpert, at_]
  by_cases full : topK ≤ front.length
  · simp only [Nat.min_eq_left full, if_true]
    rw [if_pos (by omega)]
    exact holds rank inside
  · have room := Nat.lt_of_not_le full
    simp only [Nat.min_eq_right room.le, room.ne, if_false]
    rw [write, shift_ranks_at rank inside]
    rcases Nat.lt_trichotomy rank front.length with before | rfl | behind
    · rw [if_neg before.ne, if_neg (by omega), if_pos before]
      exact holds rank inside
    · simp
    · rw [if_neg behind.ne', if_pos behind, if_neg (by omega), if_neg behind.ne']
      exact holds (rank - 1) (by omega)

/-- All experts in the order of their numerators. -/
def rankedExperts (numerators : Nat → Value) (experts : Nat) : List Nat :=
  (List.range experts).foldl (insertRanked numerators) []

theorem ranked_experts_succ (numerators : Nat → Value) (experts : Nat) :
    rankedExperts numerators (experts + 1) =
      insertRanked numerators (rankedExperts numerators experts) experts := by
  rw [rankedExperts, List.range_succ, List.foldl_append]
  rfl

theorem insert_ranked_perm (numerators : Nat → Value) (ranked : List Nat) (expert : Nat) :
    (insertRanked numerators ranked expert).Perm (ranked ++ [expert]) := by
  obtain ⟨front, back, rfl, inserted, -⟩ := insert_ranked_split numerators ranked expert
  rw [inserted, List.append_assoc]
  exact (List.perm_append_left_iff front).mpr (List.perm_append_singleton expert back).symm

theorem ranked_experts_perm (numerators : Nat → Value) (experts : Nat) :
    (rankedExperts numerators experts).Perm (List.range experts) := by
  induction experts with
  | zero => exact List.Perm.refl _
  | succ experts ih =>
      rw [ranked_experts_succ, List.range_succ]
      exact (insert_ranked_perm _ _ _).trans (ih.append_right _)

/-- The list is ordered by the numerators, and by the experts where they are equal. -/
theorem ranked_experts_pairwise (numerators : Nat → Value) (experts : Nat) :
    (rankedExperts numerators experts).Pairwise (Outranks numerators) := by
  induction experts with
  | zero => exact List.Pairwise.nil
  | succ experts ih =>
      have earlier : ∀ other ∈ rankedExperts numerators experts, other < experts := fun other listed =>
        List.mem_range.mp ((ranked_experts_perm numerators experts).mem_iff.mp listed)
      rw [ranked_experts_succ]
      obtain ⟨front, back, split, inserted, stays, stops⟩ :=
        insert_ranked_split numerators (rankedExperts numerators experts) experts
      rw [split] at ih earlier
      rw [inserted]
      rw [List.pairwise_append] at ih ⊢
      refine ⟨ih.1, List.pairwise_cons.mpr ⟨?_, ih.2.1⟩, ?_⟩
      · intro other listed
        -- what comes after the first of the rest is no better than it
        cases back with
        | nil => cases listed
        | cons first rest =>
            have beaten := stops first rfl
            rcases List.mem_cons.mp listed with rfl | later
            · exact .inl beaten
            · rcases (List.pairwise_cons.mp ih.2.1).1 other later with less | ⟨same, -⟩
              · exact .inl (less.trans beaten)
              · exact .inl (same ▸ beaten)
      · intro other listed next later
        rcases List.mem_cons.mp later with rfl | later
        · rcases lt_or_eq_of_le (stays other listed) with less | same
          · exact .inl less
          · exact .inr ⟨same.symm, earlier other (List.mem_append_left _ listed)⟩
        · exact ih.2.2 other listed next later

theorem ranked_experts_holds (floats : Floats Value) (numerators : Nat → Value)
    (positive : ∀ expert, floats.lowest < numerators expert) (experts topK : Nat) :
    Holds floats numerators topK (rankedExperts numerators experts)
      ((List.range experts).foldl
        (fun selected expert => insertExpert topK (numerators expert) selected expert)
        (unselected floats)) := by
  induction experts with
  | zero =>
      intro rank _
      rfl
  | succ experts ih =>
      rw [ranked_experts_succ, List.range_succ, List.foldl_append]
      exact insert_holds ih experts (positive experts)

end Insertion

section Agreement

/-- The numerator of an expert's probability. -/
def numerator (floats : Floats Value) (logits : Nat → Value) (expert : Nat) : Value :=
  floats.expDiff (maximum floats logits kExperts) (logits expert)

theorem select_holds (floats : Floats Value) (logits : Nat → Value) (topK : Nat) :
    Holds floats (numerator floats logits) topK (rankedExperts (numerator floats logits) kExperts)
      (selectExperts floats logits kExperts topK) :=
  ranked_experts_holds floats _ (fun _ => floats.positive _ _) kExperts topK

theorem reference_ranks (floats : Floats Value) (logits : Nat → Value) {topK : Nat}
    (few : topK ≤ kExperts) :
    (List.range topK).map (selectExperts floats logits kExperts topK) =
      ((rankedExperts (numerator floats logits) kExperts).take topK).map fun expert =>
        { value := numerator floats logits expert, id := expert } := by
  have long : (rankedExperts (numerator floats logits) kExperts).length = kExperts := by
    rw [(ranked_experts_perm _ _).length_eq, List.length_range]
  apply List.ext_getElem
  · simp [long, few]
  · intro rank here there
    have inside : rank < topK := by simpa using here
    rw [List.getElem_map, List.getElem_map, List.getElem_range, List.getElem_take,
      select_holds floats logits topK rank inside,
      List.getElem?_eq_getElem (inside.trans_le (few.trans long.ge))]

theorem maximum_top {orders : Nat → Nat → List Nat} (complete : Complete orders kExperts)
    (floats : Floats Value) (logits : Nat → Value)
    (finite : ∀ expert < kExperts, floats.lowest ≤ logits expert) :
    (sortExperts orders (loadLogits logits)).values (kExperts - 1) =
      maximum floats logits kExperts := by
  have folded (count : Nat) :
      (∀ expert < count, logits expert ≤ maximum floats logits count) ∧
        (maximum floats logits count = floats.lowest ∨
          ∃ expert < count, maximum floats logits count = logits expert) := by
    induction count with
    | zero => exact ⟨fun expert none_ => absurd none_ (Nat.not_lt_zero _), .inl rfl⟩
    | succ count ih =>
        have last : maximum floats logits (count + 1) =
            max (maximum floats logits count) (logits count) := by
          rw [maximum, List.range_succ, List.foldl_append]
          rfl
        rw [last]
        constructor
        · intro expert inside
          rcases Nat.lt_succ_iff_lt_or_eq.mp inside with before | rfl
          · exact (ih.1 expert before).trans (le_max_left _ _)
          · exact le_max_right _ _
        · rcases le_total (maximum floats logits count) (logits count) with less | more
          · exact .inr ⟨count, Nat.lt_succ_self _, max_eq_right less⟩
          · rw [max_eq_left more]
            exact ih.2.imp_right fun ⟨expert, inside, same⟩ => ⟨expert, inside.trans
              (Nat.lt_succ_self _), same⟩
  obtain ⟨above, reached⟩ := folded kExperts
  have top : kExperts - 1 < kExperts := by decide
  have listed : (sortExperts orders (loadLogits logits)).ids (kExperts - 1) < kExperts :=
    List.mem_range.mp ((sorted_ids complete logits).mem_iff.mp
      (List.mem_map_of_mem (List.mem_range.mpr top)))
  have best : ∀ expert < kExperts,
      logits expert ≤ (sortExperts orders (loadLogits logits)).values (kExperts - 1) := by
    intro expert inside
    obtain ⟨place, within, same⟩ := List.mem_map.mp
      ((sorted_ids complete logits).mem_iff.mpr (List.mem_range.mpr inside))
    rw [List.mem_range] at within
    rw [← same, ← sorted_value complete logits within]
    rcases Nat.lt_or_ge place (kExperts - 1) with before | last
    · rcases sorted_ascending complete logits before top with less | ⟨equal, -⟩
      · exact less.le
      · exact equal.ge
    · rw [show place = kExperts - 1 by omega]
  apply le_antisymm
  · rw [sorted_value complete logits top]
    exact above _ listed
  · rcases reached with none_ | ⟨expert, inside, same⟩
    · rw [none_, sorted_value complete logits top]
      exact finite _ listed
    · rw [same]
      exact best expert inside

theorem outranks_asymm {scores : Nat → Value} {expert other : Nat}
    (better : Outranks scores expert other) : ¬ Outranks scores other expert := by
  rintro (less | ⟨same, less⟩)
  · rcases better with more | ⟨same, -⟩
    · exact lt_asymm less more
    · exact absurd same less.ne
  · rcases better with more | ⟨-, more⟩
    · exact absurd same more.ne
    · omega

theorem outranks_descending {logits scores : Nat → Value} {ranked : List Nat}
    (monotone : ∀ expert other, logits expert ≤ logits other → scores expert ≤ scores other)
    (ordered : ranked.Pairwise (Outranks logits)) :
    (ranked.map scores).Pairwise (· ≥ ·) := by
  rw [List.pairwise_map]
  apply ordered.imp
  rintro expert other (less | ⟨same, -⟩)
  · exact monotone _ _ less.le
  · exact monotone _ _ same.ge

/-- Both orders are orders of the numerators. -/
theorem same_scores {logits scores : Nat → Value} {first second : List Nat}
    (monotone : ∀ expert other, logits expert ≤ logits other → scores expert ≤ scores other)
    (ordered : first.Pairwise (Outranks logits)) (ordered' : second.Pairwise (Outranks scores))
    (permuted : first.Perm second) : first.map scores = second.map scores := by
  refine @List.Perm.eq_of_pairwise' _ (· ≥ ·) _ _ _ ?_ ?_ (permuted.map scores)
  · exact outranks_descending monotone ordered
  · exact outranks_descending (fun _ _ => id) ordered'

/-- An expert with fewer than `topK` experts before it. -/
def Leading (logits : Nat → Value) (topK expert : Nat) : Prop :=
  (List.range kExperts).countP (fun other => logits expert < logits other ∨
    logits other = logits expert ∧ other < expert) < topK

instance (logits : Nat → Value) (topK expert : Nat) : Decidable (Leading logits topK expert) :=
  inferInstanceAs (Decidable (_ < _))

theorem leading_iff {logits : Nat → Value} {ranked : List Nat}
    (ordered : ranked.Pairwise (Outranks logits)) (permuted : ranked.Perm (List.range kExperts))
    {expert : Nat} (inside : expert < kExperts) (topK : Nat) :
    Leading logits topK expert ↔ expert ∈ ranked.take topK := by
  have listed := permuted.mem_iff.mpr (List.mem_range.mpr inside)
  obtain ⟨before, behind, rfl⟩ := List.append_of_mem listed
  rw [List.pairwise_append, List.pairwise_cons] at ordered
  obtain ⟨-, ⟨after, -⟩, ahead⟩ := ordered
  have leads (other : Nat) : (logits expert < logits other ∨
      logits other = logits expert ∧ other < expert) ↔ Outranks logits other expert := Iff.rfl
  have counted : (List.range kExperts).countP (fun other => logits expert < logits other ∨
      logits other = logits expert ∧ other < expert) = before.length := by
    rw [← permuted.countP_eq, List.countP_append, List.countP_cons_of_neg, List.countP_eq_length.mpr,
      List.countP_eq_zero.mpr, Nat.add_zero]
    · intro other later
      rw [decide_eq_true_eq, leads]
      exact outranks_asymm (after other later)
    · intro other earlier
      rw [decide_eq_true_eq, leads]
      exact ahead other earlier expert List.mem_cons_self
    · rw [decide_eq_true_eq, leads]
      exact fun self => outranks_asymm self self
  rw [Leading, counted]
  constructor
  · intro few
    rw [List.take_append, List.mem_append]
    refine .inr ?_
    obtain ⟨more, count⟩ := Nat.exists_eq_succ_of_ne_zero (Nat.sub_ne_zero_of_lt few)
    rw [count, List.take_succ_cons]
    exact List.mem_cons_self
  · intro chosen
    by_contra many
    rw [List.take_append_of_le_length (Nat.not_lt.mp many)] at chosen
    have self := ahead expert (List.mem_of_mem_take chosen) expert List.mem_cons_self
    exact outranks_asymm self self

theorem separated_outranks {logits scores : Nat → Value} {expert other : Nat}
    (monotone : ∀ expert other, logits expert ≤ logits other → scores expert ≤ scores other)
    (separated : other < expert → logits other < logits expert → scores other < scores expert)
    (better : Outranks logits expert other) : Outranks scores expert other := by
  rcases better with less | ⟨same, lower⟩
  · rcases lt_or_eq_of_le (monotone _ _ less.le) with less' | same
    · exact .inl less'
    · refine .inr ⟨same.symm, ?_⟩
      by_contra higher
      have apart : other ≠ expert := by
        rintro rfl
        exact lt_irrefl _ less
      have worse := separated (by omega) less
      exact absurd same worse.ne
  · exact .inr ⟨le_antisymm (monotone _ _ same.le) (monotone _ _ same.ge), lower⟩

/-- The two orders have the same first ranks when the scores separate these. -/
theorem take_eq_iff {logits scores : Nat → Value} {first second : List Nat}
    (monotone : ∀ expert other, logits expert ≤ logits other → scores expert ≤ scores other)
    (ordered : first.Pairwise (Outranks logits)) (ordered' : second.Pairwise (Outranks scores))
    (permuted : first.Perm second) (topK : Nat) :
    first.take topK = second.take topK ↔
      ∀ expert ∈ first.take topK, ∀ other ∈ first, other < expert →
        logits other < logits expert → scores other < scores expert := by
  have split := List.take_append_drop topK first
  have split' := List.take_append_drop topK second
  constructor
  · intro same expert chosen other listed lower worse
    rcases lt_or_eq_of_le (monotone _ _ worse.le) with less | equal
    · exact less
    -- the other is before the expert in the second order, so also in the first
    exfalso
    have better : Outranks scores other expert := .inr ⟨equal, lower⟩
    obtain ⟨before, behind, chosen'⟩ := List.append_of_mem chosen
    rw [← split', ← same, chosen'] at ordered'
    rw [← split, chosen'] at ordered
    have listed' := permuted.mem_iff.mp listed
    rw [← split', ← same, chosen', List.append_assoc, List.mem_append] at listed'
    rw [List.append_assoc, List.pairwise_append] at ordered ordered'
    rcases listed' with earlier | later
    · have ahead := ordered.2.2 other earlier expert (by simp)
      rcases ahead with more | ⟨level, -⟩
      · exact lt_asymm more worse
      · exact worse.ne level
    · rw [List.cons_append, List.mem_cons] at later
      rcases later with rfl | later
      · exact lt_irrefl _ lower
      · have after := (List.pairwise_cons.mp ordered'.2.1).1 other later
        exact outranks_asymm better after
  · intro separated
    have once : first.Nodup := ordered.imp (fun {expert other} better same => by
      subst same
      exact outranks_asymm better better)
    rw [← split, List.pairwise_append] at ordered
    obtain ⟨chosen, -, ahead⟩ := ordered
    have members (expert : Nat) (listed : expert ∈ first.take topK) : expert ∈ first :=
      List.mem_of_mem_take listed
    -- the rest keeps the order it has in the second list
    have regrouped : second = first.take topK ++ second.filter (· ∉ first.take topK) := by
      refine @List.Perm.eq_of_pairwise _ (Outranks scores) _ _ ?_ ?_ ?_ ?_
      · intro expert other _ _ better worse
        exact absurd worse (outranks_asymm better)
      · exact ordered'
      · refine List.pairwise_append.mpr ⟨?_, ordered'.sublist List.filter_sublist, ?_⟩
        · apply chosen.imp_of_mem
          intro expert other here there better
          exact separated_outranks monotone (separated expert here other (members other there))
            better
        · intro expert here other there
          rw [List.mem_filter, decide_eq_true_eq] at there
          have listed := permuted.mem_iff.mpr there.1
          have later : other ∈ first.drop topK := by
            rw [← split, List.mem_append] at listed
            exact listed.resolve_left there.2
          exact separated_outranks monotone (separated expert here other listed)
            (ahead expert here other later)
      · refine permuted.symm.trans ?_
        rw [List.perm_ext_iff_of_nodup once]
        · intro expert
          rw [List.mem_append, List.mem_filter, decide_eq_true_eq, ← permuted.mem_iff]
          constructor
          · intro listed
            by_cases here : expert ∈ first.take topK
            · exact .inl here
            · exact .inr ⟨listed, here⟩
          · rintro (here | ⟨listed, -⟩)
            · exact members expert here
            · exact listed
        · refine List.nodup_append.mpr ⟨once.sublist (List.take_sublist _ _),
            (permuted.nodup_iff.mp once).sublist List.filter_sublist, ?_⟩
          intro expert here other there same
          rw [List.mem_filter, decide_eq_true_eq] at there
          exact there.2 (same ▸ here)
    have lengths := congrArg List.length regrouped
    rw [List.length_append, ← permuted.length_eq] at lengths
    rw [regrouped, List.take_append, List.take_take, Nat.min_self]
    rcases Nat.le_total topK first.length with few | many
    · rw [List.length_take, Nat.min_eq_left few, Nat.sub_self, List.take_zero, List.append_nil]
    · have none_ : second.filter (· ∉ first.take topK) = [] := by
        apply List.eq_nil_of_length_eq_zero
        rw [List.length_take] at lengths
        omega
      rw [none_, List.take_nil, List.append_nil]

theorem reference_ids (floats : Floats Value) (logits : Nat → Value) {topK : Nat}
    (few : topK ≤ kExperts) :
    (topkRouter floats logits kExperts topK).1 =
      ((rankedExperts (numerator floats logits) kExperts).take topK).map Nat.cast := by
  have ranks := congrArg (List.map Selected.id) (reference_ranks floats logits few)
  rwa [List.map_map, List.map_map] at ranks

theorem fast_ids (floats : Floats Value) (orders : Nat → Nat → List Nat) (logits : Nat → Value)
    {topK : Nat} (few : topK ≤ kExperts) :
    (topkRouter512 floats orders logits topK).1 =
      ((sortedIds orders logits kExperts).take topK).map Nat.cast := by
  rw [← sorted_ids_take few, sortedIds, List.map_map]
  rfl

variable {orders : Nat → Nat → List Nat} {floats : Floats Value} {logits : Nat → Value}

theorem numerator_monotone (expert other : Nat) (less : logits expert ≤ logits other) :
    numerator floats logits expert ≤ numerator floats logits other :=
  floats.monotone _ less

theorem orders_perm (complete : Complete orders kExperts) :
    (sortedIds orders logits kExperts).Perm
      (rankedExperts (numerator floats logits) kExperts) :=
  (ranked_perm complete logits).trans (ranked_experts_perm _ _).symm

/-- The two kernels see the same numerator at every rank. -/
theorem rank_numerators (complete : Complete orders kExperts)
    (finite : ∀ expert < kExperts, floats.lowest ≤ logits expert) {topK rank : Nat}
    (few : topK ≤ kExperts) (inside : rank < topK) :
    floats.expDiff ((sortExperts orders (loadLogits logits)).values (kExperts - 1))
        ((sortExperts orders (loadLogits logits)).values (kExperts - 1 - rank)) =
      (selectExperts floats logits kExperts topK rank).value := by
  have same := same_scores numerator_monotone (ranked_pairwise complete logits)
    (ranked_experts_pairwise (numerator floats logits) kExperts) (orders_perm complete)
  have within := inside.trans_le few
  have listed : rank < (rankedExperts (numerator floats logits) kExperts).length := by
    rwa [(ranked_experts_perm _ _).length_eq, List.length_range]
  have at_ := congrArg (fun scores => scores[rank]?) same
  simp only [sortedIds, List.getElem?_map, List.getElem?_range within, Option.map_some,
    List.getElem?_eq_getElem listed, Option.some.injEq] at at_
  rw [select_holds floats logits topK rank inside, List.getElem?_eq_getElem listed,
    maximum_top complete floats logits finite, sorted_value complete logits (by omega)]
  exact at_

theorem router_weights (complete : Complete orders kExperts)
    (finite : ∀ expert < kExperts, floats.lowest ≤ logits expert) {topK : Nat}
    (few : topK ≤ kExperts) :
    (topkRouter512 floats orders logits topK).2 = (topkRouter floats logits kExperts topK).2 := by
  have ranks (rank : Nat) (listed : rank ∈ List.range topK) :=
    @rank_numerators _ _ orders floats logits complete finite topK rank few
      (List.mem_range.mp listed)
  have sums : sumRanks floats (fun rank =>
      floats.expDiff ((sortExperts orders (loadLogits logits)).values (kExperts - 1))
        ((sortExperts orders (loadLogits logits)).values (kExperts - 1 - rank))) topK =
      sumRanks floats (fun rank => (selectExperts floats logits kExperts topK rank).value) topK := by
    apply List.foldl_ext
    intro sum rank listed
    exact congrArg (floats.add sum) (ranks rank listed)
  simp only [topkRouter512, topkRouter, sums]
  apply List.map_congr_left
  intro rank listed
  rw [ranks rank listed]

theorem router_ids (complete : Complete orders kExperts) {topK : Nat} (few : topK ≤ kExperts) :
    (topkRouter512 floats orders logits topK).1 = (topkRouter floats logits kExperts topK).1 ↔
      ∀ expert < kExperts, Leading logits topK expert → ∀ other < expert,
        logits other < logits expert →
          numerator floats logits other < numerator floats logits expert := by
  have ordered := ranked_pairwise complete logits
  have permuted := ranked_perm complete logits
  have chosen := take_eq_iff numerator_monotone ordered
    (ranked_experts_pairwise (numerator floats logits) kExperts) (orders_perm complete) topK
  rw [fast_ids floats orders logits few, reference_ids floats logits few,
    List.map_inj_right (fun _ _ same => Int.ofNat_inj.mp same), chosen]
  constructor
  · intro separated expert inside leads other lower
    have listed := (leading_iff ordered permuted inside topK).mp leads
    exact separated expert listed other
      (permuted.mem_iff.mpr (List.mem_range.mpr (lower.trans inside))) lower
  · intro separated expert listed other _ lower
    have inside := List.mem_range.mp (permuted.mem_iff.mp (List.mem_of_mem_take listed))
    exact separated expert inside ((leading_iff ordered permuted inside topK).mpr listed) other lower

/-- The two router kernels give the same weights, and the same experts when no
chosen expert ties, after rounding, with a lower expert that has a smaller logit. -/
theorem routers_agree_iff (floats : Floats Value) (orders : Nat → Nat → List Nat)
    (complete : ∀ width stride, (orders width stride).Perm (List.range kExperts))
    (logits : Nat → Value) (finite : ∀ expert < kExperts, floats.lowest ≤ logits expert)
    (topK : Nat) (few : topK ≤ kExperts) :
    (topkRouter512 floats orders logits topK).2 = (topkRouter floats logits kExperts topK).2 ∧
      (topkRouter512 floats orders logits topK = topkRouter floats logits kExperts topK ↔
        ∀ expert < kExperts, Leading logits topK expert → ∀ other < expert,
          logits other < logits expert →
            numerator floats logits other < numerator floats logits expert) := by
  have weights := router_weights complete finite few
  refine ⟨weights, ?_⟩
  rw [← router_ids complete few, Prod.ext_iff]
  exact and_iff_left weights

end Agreement

section Underflow

/-- Floats whose exponential is 0 below a bound. -/
def underflowing : Floats Int where
  lowest := -1000
  zero := 0
  add := (· + ·)
  div := (· / ·)
  expDiff maximum logit := if logit - maximum < -104 then 0 else max (logit - maximum + 105) 1
  monotone maximum low high less := by
    simp only
    split <;> split <;> omega
  positive maximum logit := by
    split
    · decide
    · exact lt_of_lt_of_le (by decide) (le_max_right _ _)

/-- Expert 1 has the second logit, and its exponential is 0 as that of expert 0. -/
def farLogits (expert : Nat) : Int :=
  if expert = 511 then 0 else if expert = 1 then -200 else -300

theorem far_maximum : maximum underflowing farLogits kExperts = 0 := by decide +kernel

theorem routers_agree_alone :
    topkRouter512 underflowing (fun _ _ => List.range kExperts) farLogits 1 =
      topkRouter underflowing farLogits kExperts 1 := by
  refine (routers_agree_iff underflowing (fun _ _ => List.range kExperts)
    (fun _ _ => List.Perm.refl _) farLogits ?_ 1 (by decide)).2.mpr ?_
  · intro expert _
    simp only [underflowing, farLogits]
    split_ifs <;> decide
  · intro expert inside leads other lower worse
    have top : expert = 511 := by
      by_contra apart
      rw [Leading, Nat.lt_one_iff, List.countP_eq_zero] at leads
      apply leads 511 (List.mem_range.mpr (by decide))
      rw [decide_eq_true_eq, show farLogits 511 = 0 from rfl, farLogits, if_neg apart]
      refine .inl ?_
      split_ifs <;> decide
    rw [numerator, numerator, far_maximum, top]
    have low : farLogits other ≤ -200 := by
      simp only [farLogits, show other ≠ 511 by omega, if_false]
      split_ifs <;> decide
    rw [show farLogits 511 = 0 from rfl]
    simp only [underflowing]
    rw [if_pos (by omega), if_neg (by decide)]
    decide

theorem routers_differ :
    topkRouter512 underflowing (fun _ _ => List.range kExperts) farLogits 2 ≠
      topkRouter underflowing farLogits kExperts 2 := by
  intro same
  have separated := (router_ids (fun _ _ => List.Perm.refl _) (by decide)).mp
    (congrArg Prod.fst same) 1 (by decide) (by decide +kernel) 0 (by decide) (by decide)
  rw [numerator, numerator, far_maximum] at separated
  exact absurd separated (by decide)

end Underflow

end Q38.RouterKernels
