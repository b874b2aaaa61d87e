import Q38Runtime.Contracts
import Q38Runtime.HalvingLoops
import Q38Runtime.StridedLoops

/-!
The boundary checksum on the GPU of `cuda_transport.cu`, beside the one of
`contracts.cc`. Every thread combines the words of its stride, every block its
threads by a tree, and the blocks combine in any order. The mixer is a bijection,
so the checksum sees every single word.
-/
namespace Q38.BoundaryChecksum
open Contracts HalvingLoops StridedLoops

section Kernel

def taggedWord (index : Nat) (word : UInt16) : UInt64 :=
  (word.toUInt64 <<< 48) ^^^ UInt64.ofNat index ^^^ 0x9e3779b97f4a7c15

def countSeed (words : List UInt16) : UInt64 :=
  mix64 (UInt64.ofNat words.length ^^^ 0x713338424f554e44)

/-- The loop of one thread; thread 0 of the grid starts with the count. -/
def threadChecksum (words : List UInt16) (gridDim blockDim block thread : Nat) : UInt64 :=
  (strided (block * blockDim + thread) (gridDim * blockDim) words.length).foldl
    (fun checksum index => checksum ^^^ mix64 (taggedWord index (words.getD index 0)))
    (if block * blockDim + thread = 0 then countSeed words else 0)

/-- The shared array of a block after its tree reduction, at place 0. -/
def blockChecksum (words : List UInt16) (gridDim blockDim block : Nat) : UInt64 :=
  reduceTree (· ^^^ ·) (threadChecksum words gridDim blockDim block) (halvings (blockDim / 2)) 0

/-- The `atomicXor` of every block, in the order in which they come. -/
def gridChecksum (words : List UInt16) (gridDim blockDim : Nat) (order : List Nat) : UInt64 :=
  order.foldl (fun checksum block => checksum ^^^ blockChecksum words gridDim blockDim block) 0

def kThreads : Nat := 256

/-- The blocks of the launch, whose sum is one of 64 bits. -/
def launchBlocks (wordCount : Nat) : Nat :=
  max 1 (min 256 ((wordCount + kThreads - 1) % 2 ^ 64 / kThreads))

def launchBoundaryChecksum (words : List UInt16) (order : List Nat) : UInt64 :=
  gridChecksum words (launchBlocks words.length) kThreads order

end Kernel

section Totals

def total (values : List UInt64) : UInt64 := values.foldl (· ^^^ ·) 0

theorem foldl_total (values : List UInt64) (start : UInt64) :
    values.foldl (· ^^^ ·) start = start ^^^ total values := by
  have carried : values.foldl (· ^^^ ·) (start ^^^ 0) = start ^^^ values.foldl (· ^^^ ·) 0 :=
    List.foldl_assoc
  rwa [UInt64.xor_zero] at carried

theorem total_append (first second : List UInt64) :
    total (first ++ second) = total first ^^^ total second := by
  rw [total, List.foldl_append, foldl_total]
  rfl

theorem total_cons (value : UInt64) (values : List UInt64) :
    total (value :: values) = value ^^^ total values := by
  rw [total, List.foldl_cons, foldl_total, UInt64.zero_xor]

theorem total_perm {first second : List UInt64} (permuted : first.Perm second) :
    total first = total second :=
  permuted.foldl_op_eq

theorem total_flatMap {α : Type} (list : List α) (part : α → List UInt64) :
    total (list.flatMap part) = total (list.map fun item => total (part item)) := by
  induction list with
  | nil => rfl
  | cons item rest ih => rw [List.flatMap_cons, total_append, List.map_cons, total_cons, ih]

end Totals

section Agreement

/-- What one word adds to the checksum. -/
def term (words : List UInt16) (index : Nat) : UInt64 :=
  mix64 (taggedWord index (words.getD index 0))

theorem checksum_words_eq (words : List UInt16) (checksum : UInt64) (first : Nat) :
    checksumWords checksum first words =
      checksum ^^^ total ((List.range words.length).map fun index =>
        mix64 (taggedWord (first + index) (words.getD index 0))) := by
  induction words generalizing checksum first with
  | nil =>
      rw [checksumWords]
      exact UInt64.xor_zero.symm
  | cons word rest ih =>
      rw [checksumWords, ih, List.length_cons, List.range_succ_eq_map, List.map_cons, total_cons,
        List.map_map, UInt64.xor_assoc]
      simp only [taggedWord, Nat.add_zero, List.getD_cons_zero, Function.comp_def,
        List.getD_cons_succ, Nat.succ_eq_add_one, Nat.add_right_comm, Nat.add_assoc]

theorem boundary_checksum_eq (words : List UInt16) :
    boundaryPayloadChecksum words =
      countSeed words ^^^ total ((List.range words.length).map (term words)) := by
  rw [boundaryPayloadChecksum, checksum_words_eq]
  simp only [Nat.zero_add]
  rfl

theorem thread_checksum_eq (words : List UInt16) (gridDim blockDim block thread : Nat) :
    threadChecksum words gridDim blockDim block thread =
      total ((if block * blockDim + thread = 0 then [countSeed words] else []) ++
        (strided (block * blockDim + thread) (gridDim * blockDim) words.length).map
          (term words)) := by
  have start : (if block * blockDim + thread = 0 then countSeed words else 0) =
      total (if block * blockDim + thread = 0 then [countSeed words] else []) := by
    split <;> simp [total]
  rw [total_append, ← start, ← foldl_total, List.foldl_map]
  rfl

theorem block_checksum_eq (words : List UInt16) (gridDim exponent block : Nat) :
    blockChecksum words gridDim (2 ^ exponent) block =
      total ((List.range (2 ^ exponent)).map
        (threadChecksum words gridDim (2 ^ exponent) block)) :=
  reduce_tree_eq exponent _

/-- Every grid of blocks of a power of two, in every order of the blocks. -/
theorem grid_checksum_eq (words : List UInt16) {gridDim : Nat} (positive : 0 < gridDim)
    (exponent : Nat) {order : List Nat} (all : order.Perm (List.range gridDim)) :
    gridChecksum words gridDim (2 ^ exponent) order = boundaryPayloadChecksum words := by
  have threads : 0 < gridDim * 2 ^ exponent := Nat.mul_pos positive (Nat.two_pow_pos _)
  have seeds : ((List.range gridDim).flatMap fun block => (List.range (2 ^ exponent)).flatMap
      fun thread => if block * 2 ^ exponent + thread = 0 then [countSeed words] else []) =
      [countSeed words] := by
    have flat := congrArg (List.flatMap fun thread => if thread = 0 then [countSeed words] else [])
      (groups_range gridDim (2 ^ exponent))
    simp only [List.flatMap_assoc, List.flatMap_map] at flat
    obtain ⟨others, count⟩ := Nat.exists_eq_succ_of_ne_zero threads.ne'
    rw [flat, count, List.range_succ_eq_map, List.flatMap_cons, if_pos rfl, List.flatMap_map]
    simp
  have shared := (@grid_perm _ _ words.length threads).map (term words)
  simp only [List.map_flatMap] at shared
  -- the seeds and the terms of the threads, apart from each other
  have apart := (List.Perm.flatMap_left (List.range gridDim) fun block _ =>
    List.flatMap_append_perm (List.range (2 ^ exponent))
      (fun thread => if block * 2 ^ exponent + thread = 0 then [countSeed words] else [])
      (fun thread => (strided (block * 2 ^ exponent + thread) (gridDim * 2 ^ exponent)
        words.length).map (term words))).symm
  have both := (apart.trans (List.flatMap_append_perm _ _ _).symm).trans
    ((List.Perm.of_eq seeds).append shared)
  have order' : gridChecksum words gridDim (2 ^ exponent) order =
      total ((List.range gridDim).map (blockChecksum words gridDim (2 ^ exponent))) := by
    rw [← total_perm (all.map _), total, List.foldl_map]
    rfl
  rw [order', boundary_checksum_eq, ← total_cons, ← List.singleton_append, ← total_perm both,
    total_flatMap]
  congr 1
  apply List.map_congr_left
  intro block _
  rw [block_checksum_eq, total_flatMap]
  congr 1
  apply List.map_congr_left
  intro thread _
  exact thread_checksum_eq words gridDim (2 ^ exponent) block thread

theorem launch_positive (wordCount : Nat) : 0 < launchBlocks wordCount :=
  lt_of_lt_of_le Nat.one_pos (le_max_left _ _)

theorem launch_eq (words : List UInt16) {order : List Nat}
    (all : order.Perm (List.range (launchBlocks words.length))) :
    launchBoundaryChecksum words order = boundaryPayloadChecksum words :=
  grid_checksum_eq words (launch_positive _) 8 all

end Agreement

section Sensitivity

theorem shift_xor_injective {shift : UInt64} (positive : 0 < shift.toNat % 64) :
    Function.Injective fun value : UInt64 => value ^^^ (value >>> shift) := by
  intro first second same
  simp only at same
  have apart : first ^^^ second = (first ^^^ second) >>> shift := by
    rw [UInt64.shiftRight_xor]
    calc first ^^^ second = (first ^^^ (first >>> shift)) ^^^ (first >>> shift) ^^^ second := by
          rw [UInt64.xor_assoc first, UInt64.xor_self, UInt64.xor_zero]
      _ = (second ^^^ (second >>> shift)) ^^^ (first >>> shift) ^^^ second := by rw [same]
      _ = _ := by
          rw [UInt64.xor_comm _ second, ← UInt64.xor_assoc, ← UInt64.xor_assoc, UInt64.xor_self,
            UInt64.zero_xor, UInt64.xor_comm]
  have sizes := congrArg UInt64.toNat apart
  rw [UInt64.toNat_shiftRight, Nat.shiftRight_eq_div_pow] at sizes
  have zero : (first ^^^ second).toNat = 0 := by
    by_contra some_
    have step : 1 < 2 ^ (shift.toNat % 64) := Nat.one_lt_two_pow positive.ne'
    have less := Nat.div_lt_self (Nat.pos_of_ne_zero some_) step
    omega
  exact UInt64.xor_eq_zero_iff.mp (UInt64.toNat_inj.mp zero)

theorem mul_injective {factor inverse : UInt64} (unit : factor * inverse = 1) :
    Function.Injective fun value : UInt64 => value * factor := by
  intro first second same
  have both := congrArg (· * inverse) same
  simpa only [UInt64.mul_assoc, unit, UInt64.mul_one] using both

theorem mix64_injective : Function.Injective mix64 := by
  have last := @shift_xor_injective 31 (by decide)
  have second := mul_injective (show (0x94d049bb133111eb : UInt64) * 0x319642b2d24d8ec3 = 1 by decide)
  have middle := @shift_xor_injective 27 (by decide)
  have first := mul_injective (show (0xbf58476d1ce4e5b9 : UInt64) * 0x96de1b173f119089 = 1 by decide)
  have start := @shift_xor_injective 30 (by decide)
  exact last.comp (second.comp (middle.comp (first.comp start)))

theorem tagged_word_injective (index : Nat) : Function.Injective (taggedWord index) := by
  intro first second same
  rw [taggedWord, taggedWord, UInt64.xor_left_inj, UInt64.xor_left_inj] at same
  have sizes := congrArg UInt64.toNat same
  have small (word : UInt16) : word.toUInt64.toNat <<< 48 < 2 ^ 64 := by
    have bounded := word.toNat_lt
    rw [UInt16.toNat_toUInt64, Nat.shiftLeft_eq]
    omega
  have shift : (48 : UInt64).toNat % 64 = 48 := by decide
  rw [UInt64.toNat_shiftLeft, UInt64.toNat_shiftLeft, shift, Nat.mod_eq_of_lt (small first),
    Nat.mod_eq_of_lt (small second), Nat.shiftLeft_eq, Nat.shiftLeft_eq] at sizes
  have equal := Nat.mul_right_cancel (Nat.two_pow_pos 48) sizes
  rw [UInt16.toNat_toUInt64, UInt16.toNat_toUInt64] at equal
  exact UInt16.toNat_inj.mp equal

theorem term_set (words : List UInt16) (index : Nat) (word : UInt16) {other : Nat}
    (apart : other ≠ index) : term (words.set index word) other = term words other := by
  rw [term, term, List.getD_eq_getElem?_getD, List.getElem?_set_ne apart.symm,
    ← List.getD_eq_getElem?_getD]

/-- Two arrays that differ in one word have two checksums. -/
theorem single_word_seen (words : List UInt16) {index : Nat} (inside : index < words.length)
    {word : UInt16} (changed : word ≠ words.getD index 0) :
    boundaryPayloadChecksum (words.set index word) ≠ boundaryPayloadChecksum words := by
  have places : (List.range words.length).Perm (index :: (List.range words.length).erase index) :=
    List.perm_cons_erase (List.mem_range.mpr inside)
  have others : ((List.range words.length).erase index).map (term (words.set index word)) =
      ((List.range words.length).erase index).map (term words) := by
    apply List.map_congr_left
    intro other listed
    apply term_set
    rintro rfl
    exact List.nodup_range.not_mem_erase listed
  intro same
  rw [boundary_checksum_eq, boundary_checksum_eq, countSeed, List.length_set, ← countSeed,
    UInt64.xor_right_inj, total_perm (places.map _), total_perm (places.map (term words)),
    List.map_cons, List.map_cons, total_cons, total_cons, others, UInt64.xor_left_inj, term, term]
    at same
  have equal := tagged_word_injective index (mix64_injective same)
  rw [List.getD_eq_getElem?_getD, List.getElem?_set_self inside, Option.getD_some] at equal
  exact changed equal

/-- The launch computes the checksum of the CPU in every order of its blocks, and
the checksum sees a change of any one word. -/
theorem boundary_checksum_agrees (words : List UInt16) :
    (∀ order : List Nat, order.Perm (List.range (launchBlocks words.length)) →
      launchBoundaryChecksum words order = boundaryPayloadChecksum words) ∧
    ∀ index < words.length, ∀ word ≠ words.getD index 0,
      boundaryPayloadChecksum (words.set index word) ≠ boundaryPayloadChecksum words :=
  ⟨fun _ all => launch_eq words all,
    fun _ inside _ changed => single_word_seen words inside changed⟩

theorem boundary_checksum_agrees_two :
    launchBoundaryChecksum [7, 9] [0] = boundaryPayloadChecksum [7, 9] ∧
      boundaryPayloadChecksum [7, 8] ≠ boundaryPayloadChecksum [7, 9] :=
  ⟨(boundary_checksum_agrees [7, 9]).1 [0] (by decide),
    (boundary_checksum_agrees [7, 9]).2 1 (by decide) 8 (by decide)⟩

end Sensitivity

end Q38.BoundaryChecksum
