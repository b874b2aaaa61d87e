import Q38Runtime.RingBatches

/-! `PleStore::Cache` of `ple.cc`: an LRU list of keys, a map of entries, and the
pages they own. A page in memory belongs to one entry or is free. -/
namespace Q38.PageCache
open Contracts Imperative IoUring

/-- `node` is the place in the LRU list, `page` the page in memory. -/
structure Entry where
  key : Nat
  page : Nat
  node : Nat
  deriving DecidableEq, Repr

structure Node where
  id : Nat
  key : Nat
  deriving DecidableEq, Repr

/-- The most recently used node comes first, and so does the last free page. -/
structure Cache where
  pageBytes : Nat
  maxPages : Nat
  entries : List Entry := []
  lru : List Node := []
  memory : Nat → Bytes := fun _ => []
  freePages : List Nat := []
  allocatedPages : Nat := 0
  nextNode : Nat := 0

def kChunkBytes : Nat := 64 <<< 20

def Cache.find (cache : Cache) (key : Nat) : Option Entry :=
  cache.entries.find? (·.key = key)

/-- A hit: the entry's node moves to the front. -/
def Cache.touch (cache : Cache) (entry : Entry) : Cache :=
  { cache with
    lru := ⟨cache.nextNode, entry.key⟩ :: cache.lru.filter (·.id ≠ entry.node)
    entries := cache.entries.map fun other =>
      if other.key = entry.key then { other with node := cache.nextNode } else other
    nextNode := cache.nextNode + 1 }

def allocateChunk (cache : Cache) : Cache :=
  if cache.freePages = [] ∧ cache.allocatedPages < cache.maxPages then
    let targetPages := max 1 (kChunkBytes / cache.pageBytes)
    let chunkPages := min targetPages (cache.maxPages - cache.allocatedPages)
    { cache with
      freePages := (List.range' cache.allocatedPages chunkPages).reverse
      allocatedPages := cache.allocatedPages + chunkPages }
  else cache

def acquirePage : Proc Fault Cache Nat := fun cache =>
  let cache := allocateChunk cache
  match cache.freePages with
  | page :: rest => (.ok page, { cache with freePages := rest })
  | [] =>
      match cache.lru.getLast? with
      | none => (.error (.thrown (.logicError "PLE page cache has no reusable page")), cache)
      | some victim =>
          match cache.find victim.key with
          | none => (.error (.thrown (.logicError "PLE page cache LRU is inconsistent")), cache)
          | some found => (.ok found.page, { cache with
              lru := cache.lru.dropLast
              entries := cache.entries.eraseP (·.key = victim.key) })

/-- A page that was read becomes resident; `emplace` leaves an entry of its key alone. -/
def insertPage (key : Nat) (bytes : Bytes) : Proc Fault Cache Unit := do
  let page ← acquirePage
  Proc.write fun cache => { cache with
    memory := Function.update cache.memory page bytes
    lru := ⟨cache.nextNode, key⟩ :: cache.lru
    entries := if (cache.find key).isSome then cache.entries
      else ⟨key, page, cache.nextNode⟩ :: cache.entries
    nextNode := cache.nextNode + 1 }

def insertPages : List (Nat × Bytes) → Proc Fault Cache Unit
  | [] => pure ()
  | load :: rest => do
      insertPage load.1 load.2
      insertPages rest

/-- Every resident page holds what belongs to its key, in memory of its own. -/
structure Sound (holds : Nat → Bytes → Prop) (cache : Cache) : Prop where
  apart : (cache.entries.map (·.page) ++ cache.freePages).Nodup
  allocated : ∀ page ∈ cache.entries.map (·.page) ++ cache.freePages, page < cache.allocatedPages
  resident : ∀ entry ∈ cache.entries, holds entry.key (cache.memory entry.page)

section Soundness
variable {holds : Nat → Bytes → Prop} {cache : Cache}

theorem Sound.found (sound : Sound holds cache) {key : Nat} {entry : Entry}
    (found : cache.find key = some entry) : holds key (cache.memory entry.page) := by
  have same : entry.key = key := by simpa using List.find?_some found
  rw [← same]
  exact sound.resident entry (List.mem_of_find?_eq_some found)

theorem sound_touch (sound : Sound holds cache) (entry : Entry) :
    Sound holds (cache.touch entry) := by
  have pages : (cache.touch entry).entries.map (·.page) = cache.entries.map (·.page) := by
    rw [Cache.touch, List.map_map]
    apply List.map_congr_left
    intro other _
    dsimp only [Function.comp_apply]
    split <;> rfl
  constructor
  · rw [pages]
    exact sound.apart
  · rw [pages]
    exact sound.allocated
  · intro touched member
    obtain ⟨other, before, rfl⟩ := List.mem_map.mp member
    have held := sound.resident other before
    split <;> exact held

theorem sound_allocate (sound : Sound holds cache) : Sound holds (allocateChunk cache) := by
  unfold allocateChunk
  split
  · next grows =>
      have distinct := sound.apart
      have allocated := sound.allocated
      rw [grows.1, List.append_nil] at distinct allocated
      constructor
      · dsimp only
        rw [List.nodup_append]
        refine ⟨distinct, List.nodup_reverse.mpr List.nodup_range', ?_⟩
        intro page owned fresh member
        have below := allocated page owned
        rw [List.mem_reverse, List.mem_range'_1] at member
        omega
      · intro page member
        rcases List.mem_append.mp member with owned | fresh
        · exact (allocated page owned).trans_le (Nat.le_add_right _ _)
        · rw [List.mem_reverse, List.mem_range'_1] at fresh
          exact fresh.2
      · exact sound.resident
  · exact sound

theorem find_erases {key : Nat} {entry : Entry} (found : cache.find key = some entry) :
    ∃ before after, cache.entries = before ++ entry :: after ∧
      cache.entries.eraseP (·.key = key) = before ++ after := by
  obtain ⟨hit, before, after, parted, missed⟩ := List.find?_eq_some_iff_append.mp found
  have head : (entry :: after).eraseP (·.key = key) = after := List.eraseP_cons_of_pos hit
  refine ⟨before, after, parted, ?_⟩
  rw [parted, List.eraseP_append_right, head]
  intro other member
  simpa using missed other member

/-- The page acquired is nobody else's. -/
theorem acquire_page_ends (sound : Sound holds cache) :
    Ends acquirePage
      (fun page after => Sound holds after ∧ page < after.allocatedPages ∧
        page ∉ after.entries.map (·.page) ++ after.freePages)
      (fun _ after => Sound holds after) cache := by
  have sound := sound_allocate sound
  unfold Ends acquirePage
  dsimp only
  generalize allocateChunk cache = cache at sound
  cases free : cache.freePages with
  | cons page rest =>
      have distinct := sound.apart
      have allocated := sound.allocated
      rw [free] at distinct allocated
      have parted := List.nodup_cons.mp (List.perm_middle.nodup_iff.mp distinct)
      exact ⟨⟨parted.2, fun other member => allocated other (by grind), sound.resident⟩,
        allocated page (by simp), parted.1⟩
  | nil =>
      dsimp only
      cases cache.lru.getLast? with
      | none => exact sound
      | some victim =>
          dsimp only
          cases found : cache.find victim.key with
          | none => exact sound
          | some entry =>
              obtain ⟨before, after, parted, erased⟩ := find_erases found
              have distinct := sound.apart
              have allocated := sound.allocated
              rw [free, List.append_nil, parted, List.map_append, List.map_cons] at distinct allocated
              have apart := List.nodup_cons.mp (List.perm_middle.nodup_iff.mp distinct)
              have pages : (cache.entries.eraseP (·.key = victim.key)).map (·.page) ++ [] =
                  before.map (·.page) ++ after.map (·.page) := by
                rw [erased, List.append_nil, List.map_append]
              refine ⟨⟨?_, ?_, ?_⟩, ?_, ?_⟩
              · exact (congrArg List.Nodup pages).mpr apart.2
              · intro page member
                have kept := (congrArg (page ∈ ·) pages).mp member
                exact allocated page (by grind)
              · intro other member
                exact sound.resident other (List.mem_of_mem_eraseP member)
              · exact allocated entry.page (by simp)
              · exact (congrArg (entry.page ∉ ·) pages).mpr apart.1

theorem insert_page_ends (sound : Sound holds cache) {key : Nat} {bytes : Bytes}
    (right : holds key bytes) :
    Ends (insertPage key bytes) (fun _ after => Sound holds after)
      (fun _ after => Sound holds after) cache := by
  apply (acquire_page_ends sound).chain
  rintro page after ⟨sound, allocated, fresh⟩
  rw [ends_write]
  have kept : ∀ entry ∈ after.entries,
      holds entry.key (Function.update after.memory page bytes entry.page) := by
    intro entry member
    have other : entry.page ≠ page := by
      rintro rfl
      exact fresh (List.mem_append_left _ (List.mem_map_of_mem member))
    rw [Function.update_of_ne other]
    exact sound.resident entry member
  by_cases known : (after.find key).isSome
  · rw [if_pos known]
    exact ⟨sound.apart, sound.allocated, kept⟩
  · rw [if_neg known]
    constructor
    · exact List.nodup_cons.mpr ⟨fresh, sound.apart⟩
    · intro other member
      rcases List.mem_cons.mp member with rfl | before
      · exact allocated
      · exact sound.allocated other before
    · intro entry member
      rcases List.mem_cons.mp member with rfl | before
      · change holds key (Function.update after.memory page bytes page)
        rw [Function.update_self]
        exact right
      · exact kept entry before

theorem insert_pages_ends (loads : List (Nat × Bytes)) (sound : Sound holds cache)
    (right : ∀ load ∈ loads, holds load.1 load.2) :
    Ends (insertPages loads) (fun _ after => Sound holds after)
      (fun _ after => Sound holds after) cache := by
  induction loads generalizing cache with
  | nil => exact sound
  | cons load rest ih =>
      apply (insert_page_ends sound (right load List.mem_cons_self)).chain
      intro _ after sound
      exact ih sound fun other member => right other (List.mem_cons_of_mem _ member)

/-- Pages come and go; their size stays. -/
theorem insert_pages_page (loads : List (Nat × Bytes)) (cache : Cache) :
    Ends (insertPages loads) (fun _ after => after.pageBytes = cache.pageBytes)
      (fun _ after => after.pageBytes = cache.pageBytes) cache := by
  have allocated (cache : Cache) : (allocateChunk cache).pageBytes = cache.pageBytes := by
    unfold allocateChunk
    split <;> rfl
  have acquired (cache : Cache) :
      Ends acquirePage (fun _ after => after.pageBytes = cache.pageBytes)
        (fun _ after => after.pageBytes = cache.pageBytes) cache := by
    unfold Ends acquirePage
    dsimp only
    rw [← allocated cache]
    generalize allocateChunk cache = cache
    cases cache.freePages with
    | cons page rest => rfl
    | nil =>
        dsimp only
        cases cache.lru.getLast? with
        | none => rfl
        | some victim =>
            dsimp only
            cases cache.find victim.key <;> rfl
  induction loads generalizing cache with
  | nil => rfl
  | cons load rest ih =>
      rw [insertPages, insertPage, ends_bind, ends_bind]
      apply (acquired cache).weaken _ fun _ _ same => same
      intro page after same
      rw [ends_write, ← same]
      exact ih _

end Soundness

end Q38.PageCache
