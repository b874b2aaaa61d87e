import Q38Runtime.PageTransparency

/-!
The LRU list, the map of entries and the pages of the cache. They stay in step through
every batch of reads, also through one that fails and one with more misses than the
cache has pages, so that there is always a page to hand out.
-/
namespace Q38.PageCache
open Contracts Imperative IoUring

/-- `held` are the pages that were handed out and that no entry owns yet. -/
structure Linked (held : List Nat) (cache : Cache) : Prop where
  mapped : (cache.entries.map (·.key)).Nodup
  alike : (cache.lru.map (·.key)).Perm (cache.entries.map (·.key))
  pointed : ∀ entry ∈ cache.entries, ⟨entry.node, entry.key⟩ ∈ cache.lru
  numbered : (cache.lru.map (·.id)).Nodup
  dated : ∀ node ∈ cache.lru, node.id < cache.nextNode
  owned : (held ++ (cache.entries.map (·.page) ++ cache.freePages)).Nodup
  inside : ∀ page ∈ held ++ (cache.entries.map (·.page) ++ cache.freePages),
    page < cache.allocatedPages
  counted : held.length + (cache.entries.length + cache.freePages.length) = cache.allocatedPages
  bounded : cache.allocatedPages ≤ cache.maxPages

variable {cache : Cache} {held : List Nat}

theorem find_listed {key : Nat} {entry : Entry} (found : cache.find key = some entry) :
    entry ∈ cache.entries ∧ entry.key = key :=
  ⟨List.mem_of_find?_eq_some found, by simpa using List.find?_some found⟩

theorem find_missing {key : Nat} (absent : key ∉ cache.entries.map (·.key)) :
    cache.find key = none := by
  rw [Cache.find, List.find?_eq_none]
  intro entry member
  simpa using fun same => absent (List.mem_map.mpr ⟨entry, member, same⟩)

theorem find_known {key : Nat} (known : key ∈ cache.entries.map (·.key)) :
    ∃ entry, cache.find key = some entry := by
  obtain ⟨entry, member, rfl⟩ := List.mem_map.mp known
  cases found : cache.find entry.key with
  | some other => exact ⟨other, rfl⟩
  | none =>
      have missed := List.find?_eq_none.mp found entry member
      simp at missed

section Touch

theorem touch_keys (entry : Entry) :
    (cache.touch entry).entries.map (·.key) = cache.entries.map (·.key) := by
  rw [Cache.touch, List.map_map]
  apply List.map_congr_left
  intro other _
  dsimp only [Function.comp_apply]
  split <;> rfl

theorem touch_pages (entry : Entry) :
    (cache.touch entry).entries.map (·.page) = cache.entries.map (·.page) := by
  rw [Cache.touch, List.map_map]
  apply List.map_congr_left
  intro other _
  dsimp only [Function.comp_apply]
  split <;> rfl

/-- The iterator of an entry singles out the node of its key. -/
theorem Linked.node_key (linked : Linked held cache) {entry : Entry}
    (member : entry ∈ cache.entries) {node : Node} (listed : node ∈ cache.lru) : node.id = entry.node ↔ node.key = entry.key := by
  have own := linked.pointed entry member
  have keyed : (cache.lru.map (·.key)).Nodup := linked.alike.nodup_iff.mpr linked.mapped
  constructor
  · intro same
    rw [List.inj_on_of_nodup_map linked.numbered listed own same]
  · intro same
    rw [List.inj_on_of_nodup_map keyed listed own same]

theorem Linked.relisted (linked : Linked held cache) {entry : Entry}
    (member : entry ∈ cache.entries) :
    (entry.key :: (cache.lru.filter (·.id ≠ entry.node)).map (·.key)).Perm
      (cache.lru.map (·.key)) := by
  have own := linked.pointed entry member
  have keyed : (cache.lru.map (·.key)).Nodup := linked.alike.nodup_iff.mpr linked.mapped
  have others : cache.lru.filter (·.id ≠ entry.node) = cache.lru.filter (·.key ≠ entry.key) := by
    apply List.filter_congr
    intro node listed
    simp [linked.node_key member listed]
  have erased : (cache.lru.filter (·.key ≠ entry.key)).map (·.key) =
      (cache.lru.map (·.key)).erase entry.key := by
    rw [keyed.erase_eq_filter, List.filter_map]
    apply congrArg (List.map _)
    apply List.filter_congr
    intro node _
    simp [bne, beq_eq_decide]
  rw [others, erased]
  exact (List.perm_cons_erase (List.mem_map_of_mem (f := (·.key)) own)).symm

theorem linked_touch (linked : Linked held cache) {entry : Entry} (member : entry ∈ cache.entries) :
    Linked held (cache.touch entry) := by
  have later (node : Node) (listed : node ∈ cache.lru.filter (·.id ≠ entry.node)) :
      node ∈ cache.lru := List.mem_of_mem_filter listed
  constructor
  case mapped =>
    rw [touch_keys]
    exact linked.mapped
  case alike =>
    rw [touch_keys]
    exact (linked.relisted member).trans linked.alike
  case pointed =>
    intro touched among
    obtain ⟨other, before, rfl⟩ := List.mem_map.mp among
    by_cases same : other.key = entry.key
    · rw [if_pos same]
      exact List.mem_cons.mpr (.inl (by rw [same]))
    · rw [if_neg same]
      have own := linked.pointed other before
      apply List.mem_cons_of_mem
      rw [List.mem_filter]
      exact ⟨own, by simpa using fun at_ => same ((linked.node_key member own).mp at_)⟩
  case numbered =>
    apply List.nodup_cons.mpr
    constructor
    · intro known
      obtain ⟨node, listed, same⟩ := List.mem_map.mp known
      exact absurd same (linked.dated node (later node listed)).ne
    · exact linked.numbered.sublist ((List.filter_sublist).map _)
  case dated =>
    intro node listed
    rcases List.mem_cons.mp listed with rfl | listed
    · exact Nat.lt_succ_self _
    · exact Nat.lt_succ_of_lt (linked.dated node (later node listed))
  case owned =>
    rw [touch_pages]
    exact linked.owned
  case inside =>
    rw [touch_pages]
    exact linked.inside
  case counted =>
    have counted := linked.counted
    simpa [Cache.touch] using counted
  case bounded => exact linked.bounded

end Touch

section Acquire

theorem allocate_fields (cache : Cache) :
    (allocateChunk cache).lru = cache.lru ∧
    (allocateChunk cache).entries = cache.entries ∧
    (allocateChunk cache).nextNode = cache.nextNode ∧
    (allocateChunk cache).maxPages = cache.maxPages := by
  unfold allocateChunk
  split <;> exact ⟨rfl, rfl, rfl, rfl⟩

/-- A new chunk has at least one page and no more than the cache may still have. -/
theorem linked_allocate (linked : Linked held cache) : Linked held (allocateChunk cache) := by
  obtain ⟨lru, entries, nextNode, maxPages⟩ := allocate_fields cache
  have owned := linked.owned
  have inside := linked.inside
  have counted := linked.counted
  constructor
  case mapped => exact entries ▸ linked.mapped
  case alike => exact lru ▸ entries ▸ linked.alike
  case pointed => exact lru ▸ entries ▸ linked.pointed
  case numbered => exact lru ▸ linked.numbered
  case dated => exact lru ▸ nextNode ▸ linked.dated
  case owned =>
    unfold allocateChunk
    split
    case isFalse => exact owned
    case isTrue grows =>
      rw [grows.1, List.append_nil] at owned inside
      dsimp only
      rw [← List.append_assoc, List.nodup_append]
      refine ⟨owned, List.nodup_reverse.mpr List.nodup_range', ?_⟩
      intro page before fresh member
      have below := inside page before
      rw [List.mem_reverse, List.mem_range'_1] at member
      omega
  case inside =>
    unfold allocateChunk
    split
    case isFalse => exact inside
    case isTrue grows =>
      rw [grows.1, List.append_nil] at inside
      dsimp only
      intro page member
      rw [← List.append_assoc] at member
      rcases List.mem_append.mp member with before | fresh
      · exact (inside page before).trans_le (Nat.le_add_right _ _)
      · rw [List.mem_reverse, List.mem_range'_1] at fresh
        exact fresh.2
  case counted =>
    unfold allocateChunk
    split
    case isFalse => exact counted
    case isTrue grows =>
      rw [grows.1] at counted
      simp only [List.length_reverse, List.length_range', List.length_nil] at counted ⊢
      omega
  case bounded =>
    have bounded := linked.bounded
    unfold allocateChunk
    split
    case isFalse => exact bounded
    case isTrue grows =>
      dsimp only
      omega

/-- The page of the entry that goes is handed out. -/
theorem evict_linked (linked : Linked [] cache) (none_ : cache.freePages = []) {victim : Node}
    (last : cache.lru = cache.lru.dropLast ++ [victim]) {entry : Entry}
    (same : entry.key = victim.key) {before after : List Entry}
    (parted : cache.entries = before ++ entry :: after)
    (erased : cache.entries.eraseP (·.key = victim.key) = before ++ after) :
    Linked [entry.page] { cache with
      lru := cache.lru.dropLast
      entries := cache.entries.eraseP (·.key = victim.key)
      freePages := [] } := by
  have moved : cache.entries.Perm (entry :: (before ++ after)) := parted ▸ List.perm_middle
  have mapped := (moved.map Entry.key).nodup_iff.mp linked.mapped
  have alike := linked.alike.trans (moved.map Entry.key)
  have numbered := linked.numbered
  rw [last, List.map_append] at alike numbered
  have pages : (cache.entries.map Entry.page).Perm
      ([entry.page] ++ ((before ++ after).map Entry.page ++ [])) := by
    rw [List.append_nil]
    exact moved.map Entry.page
  have owned := linked.owned
  have inside := linked.inside
  have counted := linked.counted
  rw [none_, List.append_nil, List.nil_append] at owned inside
  rw [none_] at counted
  rw [erased]
  constructor
  case mapped => exact (List.nodup_cons.mp mapped).2
  case alike =>
    have front := (@List.perm_append_comm _ [victim.key] _).trans alike
    rw [List.map_cons, same] at front
    exact front.cons_inv
  case pointed =>
    intro other member
    have own := linked.pointed other (moved.mem_iff.mpr (List.mem_cons_of_mem _ member))
    rw [last] at own
    rcases List.mem_append.mp own with kept | gone
    · exact kept
    · have key : other.key = entry.key := by
        rw [same]
        exact congrArg Node.key (List.mem_singleton.mp gone)
      have among : entry.key ∈ (before ++ after).map Entry.key :=
        List.mem_map.mpr ⟨other, member, key⟩
      exact absurd among (List.nodup_cons.mp mapped).1
  case numbered => exact (List.nodup_append.mp numbered).1
  case dated =>
    intro node listed
    exact linked.dated node (List.mem_of_mem_dropLast listed)
  case owned =>
    exact pages.nodup_iff.mp owned
  case inside =>
    intro page member
    exact inside page (pages.mem_iff.mpr member)
  case counted =>
    have length := moved.length_eq
    simp only [List.length_cons, List.length_nil] at counted length ⊢
    omega
  case bounded => exact linked.bounded

/-- Where no page is free, the cache has all its pages, and an entry owns one of them. -/
theorem acquire_page_linked (linked : Linked [] cache) (some_ : 1 ≤ cache.maxPages) :
    Ends acquirePage
      (fun page after => Linked [page] after ∧ after.maxPages = cache.maxPages ∧
        ∀ entry ∈ after.entries, ∃ before ∈ cache.entries, before.key = entry.key)
      (fun _ _ => False) cache := by
  obtain ⟨-, entries, -, maxPages⟩ := allocate_fields cache
  have linked_ := linked_allocate linked
  have full : (allocateChunk cache).freePages = [] →
      (allocateChunk cache).allocatedPages = (allocateChunk cache).maxPages := by
    unfold allocateChunk
    split
    case isTrue grows =>
      intro none_
      simp only [List.reverse_eq_nil_iff, List.range'_eq_nil_iff] at none_
      omega
    case isFalse kept =>
      intro none_
      exact Nat.le_antisymm linked.bounded (Nat.le_of_not_lt fun room => kept ⟨none_, room⟩)
  rw [← maxPages, ← entries]
  rw [← maxPages] at some_
  unfold Ends acquirePage
  dsimp only
  generalize allocateChunk cache = cache at linked_ full some_ ⊢
  have mapped := linked_.mapped
  have alike := linked_.alike
  have owned := linked_.owned
  have inside := linked_.inside
  have counted := linked_.counted
  cases free : cache.freePages with
  | cons page rest =>
      rw [free, List.nil_append] at owned inside
      have moved : (cache.entries.map (·.page) ++ page :: rest).Perm
          ([page] ++ (cache.entries.map (·.page) ++ rest)) := List.perm_middle
      refine ⟨⟨mapped, alike, linked_.pointed, linked_.numbered, linked_.dated,
        moved.nodup_iff.mp owned, fun other member => inside other (moved.mem_iff.mpr member), ?_,
        linked_.bounded⟩, rfl, fun entry member => ⟨entry, member, rfl⟩⟩
      rw [free] at counted
      simp only [List.length_cons, List.length_nil] at counted ⊢
      omega
  | nil =>
      dsimp only
      rw [free] at counted
      have resident : cache.entries ≠ [] := by
        intro none_
        have whole := full free
        rw [none_] at counted
        simp only [List.length_nil] at counted
        omega
      cases last : cache.lru.getLast? with
      | none =>
          rw [List.getLast?_eq_none_iff.mp last] at alike
          exact resident (List.map_eq_nil_iff.mp alike.symm.eq_nil)
      | some victim =>
          dsimp only
          have split : cache.lru = cache.lru.dropLast ++ [victim] :=
            (List.dropLast_append_getLast? victim last).symm
          have known : victim.key ∈ cache.entries.map (·.key) :=
            alike.mem_iff.mp (List.mem_map_of_mem (List.mem_of_getLast? last))
          obtain ⟨entry, found⟩ := find_known known
          rw [found]
          dsimp only
          obtain ⟨before, after, parted, erased⟩ := find_erases found
          refine ⟨evict_linked linked_ free split (find_listed found).2 parted erased, rfl, ?_⟩
          exact fun other member => ⟨other, List.mem_of_mem_eraseP member, rfl⟩

end Acquire

section Insert

/-- A page in hand becomes the page of a key that has none. -/
theorem linked_insert {page : Nat} (linked : Linked [page] cache) {key : Nat} (bytes : Bytes)
    (absent : key ∉ cache.entries.map (·.key)) :
    Linked [] { cache with
      memory := Function.update cache.memory page bytes
      lru := ⟨cache.nextNode, key⟩ :: cache.lru
      entries := ⟨key, page, cache.nextNode⟩ :: cache.entries
      nextNode := cache.nextNode + 1 } := by
  constructor
  case mapped => exact List.nodup_cons.mpr ⟨absent, linked.mapped⟩
  case alike => exact linked.alike.cons key
  case pointed =>
    intro entry member
    rcases List.mem_cons.mp member with rfl | member
    · exact List.mem_cons_self
    · exact List.mem_cons_of_mem _ (linked.pointed entry member)
  case numbered =>
    apply List.nodup_cons.mpr
    constructor
    · intro known
      obtain ⟨node, listed, same⟩ := List.mem_map.mp known
      exact absurd same (linked.dated node listed).ne
    · exact linked.numbered
  case dated =>
    intro node listed
    rcases List.mem_cons.mp listed with rfl | listed
    · exact Nat.lt_succ_self _
    · exact Nat.lt_succ_of_lt (linked.dated node listed)
  case owned => exact linked.owned
  case inside => exact linked.inside
  case counted =>
    have counted := linked.counted
    simp only [List.length_cons, List.length_nil] at counted ⊢
    omega
  case bounded => exact linked.bounded

theorem insert_page_linked (linked : Linked [] cache) (some_ : 1 ≤ cache.maxPages) {key : Nat}
    (bytes : Bytes) (absent : key ∉ cache.entries.map (·.key)) :
    Ends (insertPage key bytes)
      (fun _ after => Linked [] after ∧ after.maxPages = cache.maxPages ∧
        ∀ other ∈ after.entries.map (·.key), other = key ∨ other ∈ cache.entries.map (·.key))
      (fun _ _ => False) cache := by
  apply (acquire_page_linked linked some_).chain
  rintro page after ⟨linked, maxPages, before⟩
  have listed : ∀ other ∈ after.entries.map (·.key), other ∈ cache.entries.map (·.key) := by
    intro other known
    obtain ⟨entry, member, rfl⟩ := List.mem_map.mp known
    obtain ⟨earlier, among, same⟩ := before entry member
    exact List.mem_map.mpr ⟨earlier, among, same⟩
  have absent := fun known => absent (listed key known)
  rw [ends_write, find_missing absent]
  refine ⟨linked_insert linked bytes absent, maxPages, ?_⟩
  intro other member
  exact (List.mem_cons.mp member).imp_right (listed other)

/-- A batch may bring more pages than the cache has: a page that was inserted a moment
ago is then the one that goes. -/
theorem insert_pages_linked (loads : List (Nat × Bytes)) (linked : Linked [] cache)
    (some_ : 1 ≤ cache.maxPages) (apart : (loads.map Prod.fst).Nodup)
    (absent : ∀ load ∈ loads, load.1 ∉ cache.entries.map (·.key)) :
    Ends (insertPages loads)
      (fun _ after => Linked [] after ∧ after.maxPages = cache.maxPages)
      (fun _ _ => False) cache := by
  induction loads generalizing cache with
  | nil => exact ⟨linked, rfl⟩
  | cons load rest ih =>
      have head := absent load List.mem_cons_self
      apply (insert_page_linked linked some_ load.2 head).chain
      rintro _ after ⟨linked, maxPages, keys⟩
      have parted := List.nodup_cons.mp apart
      rw [← maxPages] at some_ ⊢
      apply ih linked some_ parted.2
      intro other member known
      rcases keys other.1 known with same | before
      · exact parted.1 (same ▸ List.mem_map_of_mem member)
      · exact absent other (List.mem_cons_of_mem _ member) before

end Insert

/-- What the containers of the cache say about each other. -/
structure Consistent (cache : Cache) : Prop where
  distinct : (cache.lru.map (·.key)).Nodup ∧ (cache.entries.map (·.key)).Nodup
  alike : ∀ key, key ∈ cache.lru.map (·.key) ↔ key ∈ cache.entries.map (·.key)
  pointed : ∀ entry ∈ cache.entries, ∀ node,
    node ∈ cache.lru ∧ node.id = entry.node ↔ node = ⟨entry.node, entry.key⟩
  resident : cache.entries.length ≤ cache.maxPages
  own : (cache.entries.map (·.page)).Nodup
  free : cache.freePages.Nodup ∧ ∀ page ∈ cache.freePages, page ∉ cache.entries.map (·.page)
  counted : cache.freePages.length + cache.entries.length = cache.allocatedPages

theorem Linked.consistent (linked : Linked [] cache) : Consistent cache := by
  have owned := List.nodup_append.mp linked.owned
  have counted := linked.counted
  have bounded := linked.bounded
  simp only [List.length_nil] at counted
  constructor
  case distinct => exact ⟨linked.alike.nodup_iff.mpr linked.mapped, linked.mapped⟩
  case alike => exact fun key => linked.alike.mem_iff
  case pointed =>
    intro entry member node
    have own := linked.pointed entry member
    constructor
    · rintro ⟨listed, same⟩
      exact List.inj_on_of_nodup_map linked.numbered listed own same
    · rintro rfl
      exact ⟨own, rfl⟩
  case resident => omega
  case own => exact (List.nodup_append.mp owned.2.1).1
  case free =>
    have parted := List.nodup_append.mp owned.2.1
    exact ⟨parted.2.1, fun page free own => parted.2.2 page own page free rfl⟩
  case counted => omega

end Q38.PageCache

namespace Q38.PleStore
open Contracts Imperative IoUring PageCache

section Planning
variable {setup : Setup} {pieces : List Piece} {plan : Plan}

/-- Every load is of a key of its own, and of none that the cache has. -/
structure PlanLinked (maxPages : Nat) (plan : Plan) : Prop where
  linked : Linked [] plan.cache
  pages : plan.cache.maxPages = maxPages
  apart : (plan.loads.map (·.key)).Nodup
  absent : ∀ load ∈ plan.loads, load.key ∉ plan.cache.entries.map (·.key)

/-- No `std::logic_error`. -/
def Told (fault : Fault) : Prop := ∀ what, fault ≠ .thrown (.logicError what)

theorem told_runtime (what : String) : Told (runtime what) := by
  rintro _ ⟨⟩

theorem told_invalid (what : String) : Told (invalid what) := by
  rintro _ ⟨⟩

theorem file_size_told {layout : PleLayoutV1} {fileIndex : Nat} {fault : Fault}
    (failed : fileSize layout fileIndex = .error fault) : Told fault := by
  unfold fileSize at failed
  split at failed
  · cases failed
    exact told_runtime _
  · cases failed

theorem plan_load_planned {maxPages : Nat} (piece : Piece) {key : Nat}
    (planned : PlanLinked maxPages plan) (missing : plan.cache.find key = none) :
    Ends (planLoad setup piece key) (fun _ after => PlanLinked maxPages after)
      (fun fault after => Told fault ∧ PlanLinked maxPages after) plan := by
  unfold planLoad
  rw [ends_bind, ends_read]
  dsimp only [id]
  split
  · rw [ends_write]
    exact ⟨planned.linked, planned.pages, planned.apart, planned.absent⟩
  · next fresh =>
      rw [ends_bind, ends_settle]
      constructor
      · intro size _
        rw [ends_write]
        have apart : key ∉ plan.loads.map (·.key) := by
          intro known
          obtain ⟨load, member, same⟩ := List.mem_map.mp known
          have missed := List.findIdx?_eq_none_iff.mp fresh load member
          simp [same] at missed
        refine ⟨planned.linked, planned.pages, ?_, ?_⟩
        · rw [List.map_append]
          exact (List.perm_append_comm.nodup_iff).mp (List.nodup_cons.mpr ⟨apart, planned.apart⟩)
        · intro load member
          rcases List.mem_append.mp member with before | added
          · exact planned.absent load before
          · rw [List.mem_singleton.mp added]
            intro known
            obtain ⟨entry, found⟩ := find_known known
            rw [found] at missing
            cases missing
      · exact fun fault failed => ⟨file_size_told failed, planned⟩

theorem plan_piece_planned {maxPages : Nat} (piece : Piece) (planned : PlanLinked maxPages plan) :
    Ends (planPiece setup piece) (fun _ after => PlanLinked maxPages after)
      (fun fault after => Told fault ∧ PlanLinked maxPages after) plan := by
  unfold planPiece
  rw [ends_bind, ends_ensure]
  constructor
  · intro _
    rw [ends_bind, ends_read]
    dsimp only [id]
    split
    · next entry found =>
        rw [ends_write]
        have member := (find_listed found).1
        refine ⟨linked_touch planned.linked member, planned.pages, planned.apart, ?_⟩
        intro load listed
        rw [touch_keys]
        exact planned.absent load listed
    · next missing => exact plan_load_planned piece planned missing
  · exact fun _ => ⟨told_runtime _, planned⟩

theorem plan_pieces_planned {maxPages : Nat} (pieces : List Piece)
    (planned : PlanLinked maxPages plan) :
    Ends (planPieces setup pieces) (fun _ after => PlanLinked maxPages after)
      (fun fault after => Told fault ∧ PlanLinked maxPages after) plan := by
  induction pieces generalizing plan with
  | nil => exact planned
  | cons piece rest ih =>
      apply (plan_piece_planned piece planned).chain
      exact fun _ _ planned => ih planned

end Planning

section Batches
variable {setup : Setup}

/-- A call that never throws a `std::logic_error`, whatever state it meets. -/
def Tame {σ α : Type} (call : Proc Fault σ α) : Prop :=
  ∀ state, Ends call (fun _ _ => True) (fun fault _ => Told fault) state

theorem tame_pure {σ α : Type} (value : α) : Tame (pure value : Proc Fault σ α) := by
  intro state
  trivial

theorem tame_bind {σ α β : Type} {first : Proc Fault σ α} {next : α → Proc Fault σ β}
    (head : Tame first) (tail : ∀ value, Tame (next value)) : Tame (first >>= next) := by
  intro state
  apply (head state).chain
  exact fun value after _ => tail value after

theorem tame_ensure {σ : Type} {condition : Prop} [Decidable condition] {fault : Fault}
    (told : Told fault) : Tame (Proc.ensure condition fault : Proc Fault σ Unit) := by
  intro state
  rw [ends_ensure]
  exact ⟨fun _ => trivial, fun _ => told⟩

theorem tame_read {σ α : Type} (view : σ → α) : Tame (Proc.read view : Proc Fault σ α) := by
  intro state
  trivial

theorem tame_write {σ : Type} (change : σ → σ) : Tame (Proc.write change : Proc Fault σ Unit) := by
  intro state
  trivial

section Ring
variable {kernel : Kernel} {sqEntries pageBytes : Nat} {requests : List ReadRequest}

theorem enter_tame (toSubmit : Nat) : Tame (enter kernel toSubmit) := by
  intro ring
  unfold Ends enter
  dsimp only
  split
  · exact told_runtime _
  · trivial

theorem fill_tame (buffers : List Nat) (batch : Batch) :
    Tame (fill sqEntries pageBytes requests buffers batch) := by
  induction buffers generalizing batch with
  | nil => exact tame_pure _
  | cons buffer rest ih =>
      apply tame_bind (tame_read _)
      intro queued
      cases requests[batch.nextRequest]? with
      | none => exact tame_pure _
      | some request =>
          dsimp only
          split
          · exact tame_bind (tame_write _) fun _ => ih _
          · exact tame_pure _

theorem submit_all_tame (fuel left : Nat) : Tame (submitAll kernel fuel left) := by
  induction fuel generalizing left with
  | zero => exact tame_pure _
  | succ fuel ih =>
      unfold submitAll
      split
      · exact tame_pure _
      · apply tame_bind (enter_tame left)
        exact fun count => tame_bind (tame_ensure (told_runtime _)) fun _ => ih _

theorem wait_completion_tame : Tame (waitCompletion kernel) := by
  intro ring
  unfold Ends waitCompletion
  split
  · trivial
  · dsimp only
    split
    · exact told_runtime _
    · split
      · rintro _ ⟨⟩
      · trivial

theorem take_completion_told {buffers : Nat → Bytes} {completion : Cqe} {batch : Batch}
    {fault : Fault}
    (failed : takeCompletion kernel pageBytes requests buffers completion batch = .error fault) :
    Told fault := by
  unfold takeCompletion at failed
  dsimp only at failed
  repeat' split at failed
  all_goals cases failed
  all_goals exact told_runtime _

theorem take_completions_tame (batch : Batch) :
    Tame (takeCompletions kernel pageBytes requests batch) := by
  intro ring
  unfold Ends takeCompletions
  generalize ring.completions = completions
  split
  · next fault failed =>
      induction completions generalizing batch with
      | nil => cases failed
      | cons completion rest ih =>
          rw [List.foldlM_cons] at failed
          cases taken : takeCompletion kernel pageBytes requests ring.buffers completion batch with
          | error thrown =>
              rw [taken] at failed
              cases failed
              exact take_completion_told taken
          | ok next =>
              rw [taken] at failed
              exact ih next failed
  · trivial

theorem turn_windows_tame (fuel : Nat) (batch : Batch) :
    Tame (turnWindows kernel sqEntries pageBytes requests fuel batch) := by
  induction fuel generalizing batch with
  | zero =>
      rintro state _ ⟨⟩
  | succ fuel ih =>
      unfold turnWindows
      split
      · refine tame_bind ?_ ih
        apply tame_bind (fill_tame _ _)
        intro filled
        apply tame_bind (submit_all_tame _ _)
        intro _
        apply tame_bind (tame_ensure (told_runtime _))
        intro _
        apply tame_bind wait_completion_tame
        exact fun _ => take_completions_tame _
      · exact tame_pure _

theorem batch_tame (provider : Provider) (requests : List ReadRequest) :
    Tame (provider.batch requests) := by
  apply tame_bind (tame_ensure (by rintro _ ⟨⟩))
  intro _
  apply tame_bind (turn_windows_tame _ _)
  exact fun _ => tame_pure _

end Ring

/-- Reads from the files leave the cache to the planning before and the insertion after. -/
def Reads {α : Type} (call : StoreCall α) : Prop := ∀ store : Store,
  Ends call (fun _ after => after.cache = store.cache)
    (fun fault after => Told fault ∧ after.cache = store.cache) store

theorem reads_pure {α : Type} (value : α) : Reads (pure value : StoreCall α) :=
  fun _ => rfl

theorem reads_bind {α β : Type} {first : StoreCall α} {next : α → StoreCall β}
    (head : Reads first) (tail : ∀ value, Reads (next value)) : Reads (first >>= next) := by
  intro store
  apply (head store).chain
  intro value after same
  apply (tail value after).weaken
  · exact fun _ _ kept => kept.trans same
  · exact fun _ _ kept => ⟨kept.1, kept.2.trans same⟩

theorem reads_read {α : Type} (view : Store → α) : Reads (Proc.read view) :=
  fun _ => rfl

theorem reads_write {change : Store → Store} (kept : ∀ store, (change store).cache = store.cache) :
    Reads (Proc.write change) := kept

theorem reads_ensure {condition : Prop} [Decidable condition] {fault : Fault} (told : Told fault) :
    Reads (Proc.ensure condition fault : StoreCall Unit) := by
  intro store
  rw [ends_ensure]
  exact ⟨fun _ => rfl, fun _ => ⟨told, rfl⟩⟩

theorem pread_reads (failure : String) (fileIndex size offset : Nat) :
    Reads (pread setup failure fileIndex size offset) := by
  apply reads_bind (reads_read _)
  intro turn
  refine reads_bind (reads_write ?_) fun _ => ?_
  · exact fun _ => rfl
  apply reads_bind (reads_ensure (told_runtime _))
  exact fun _ => reads_pure _

theorem pread_loop_reads (failure : String) (fileIndex size offset fuel : Nat) (done : Bytes) :
    Reads (preadLoop setup failure fileIndex size offset fuel done) := by
  induction fuel generalizing done with
  | zero => exact reads_pure _
  | succ fuel ih =>
      unfold preadLoop
      split
      · exact reads_bind (pread_reads _ _ _ _) fun _ => ih _
      · exact reads_pure _

theorem pread_all_reads (failure : String) (fileIndex size offset : Nat) :
    Reads (preadAll setup failure fileIndex size offset) :=
  reads_bind (reads_ensure (told_runtime _)) fun _ => pread_loop_reads _ _ _ _ _ _

theorem read_buffered_reads (pageBytes : Nat) (loads : List PageLoad) :
    Reads (readBuffered setup pageBytes loads) := by
  induction loads with
  | nil => exact reads_pure _
  | cons load rest ih =>
      apply reads_bind (pread_all_reads _ _ _ _)
      exact fun _ => reads_bind ih fun _ => reads_pure _

theorem read_pages_reads (pageBytes : Nat) (loads : List PageLoad) :
    Reads (readPages setup pageBytes loads) := by
  apply reads_bind (reads_read _)
  intro provider
  cases provider with
  | none => exact read_buffered_reads pageBytes loads
  | some ring =>
      apply reads_bind (reads_ensure (told_runtime _))
      intro _
      refine reads_bind ?_ fun _ => reads_pure _
      intro store
      rw [ends_within]
      apply (batch_tame setup.provider (directRequests loads) ring).weaken
      · exact fun _ _ _ => rfl
      · exact fun _ _ told => ⟨told, rfl⟩

theorem check_extents_told {layout : PleLayoutV1} {outputBytes : Nat}
    {extents : List PleReadExtentV1} {fault : Fault}
    (failed : checkExtents layout outputBytes extents = .error fault) : Told fault := by
  induction extents with
  | nil => cases failed
  | cons extent rest ih =>
      have single (thrown : Fault)
          (refused : checkExtent layout outputBytes extent = .error thrown) : Told thrown := by
        unfold checkExtent at refused
        dsimp only at refused
        split at refused
        · cases refused
          exact told_invalid _
        · cases sized : fileSize layout extent.fileIndex with
          | error thrown =>
              rw [sized] at refused
              cases refused
              exact file_size_told sized
          | ok size =>
              rw [sized] at refused
              change (if _ then _ else _) = _ at refused
              split at refused
              · cases refused
                exact told_invalid _
              · cases refused
      unfold checkExtents at failed
      cases checked : checkExtent layout outputBytes extent with
      | error thrown =>
          rw [checked] at failed
          cases failed
          exact single _ checked
      | ok _ =>
          rw [checked] at failed
          exact ih failed

/-- The containers of a store's cache, between two batches. -/
def Kept (maxPages : Nat) (store : Store) : Prop :=
  ∃ cache, store.cache = some cache ∧ Linked [] cache ∧ cache.maxPages = maxPages

theorem zip_fst_sublist {α β : Type} (keys : List α) (pages : List β) :
    ((keys.zip pages).map Prod.fst).Sublist keys := by
  induction keys generalizing pages with
  | nil => exact List.nil_sublist _
  | cons key rest ih =>
      cases pages with
      | nil => exact List.nil_sublist _
      | cons page others => exact (ih others).cons_cons key

theorem finish_plan_kept {maxPages : Nat} (some_ : 1 ≤ maxPages) {plan : Plan}
    (planned : PlanLinked maxPages plan) {store : Store} (cached : store.cache = some plan.cache) :
    Ends (finishPlan setup plan) (fun _ after => Kept maxPages after)
      (fun fault after => Told fault ∧ Kept maxPages after) store := by
  have before : ∀ after : Store, after.cache = store.cache → Kept maxPages after := by
    intro after same
    exact ⟨plan.cache, same.trans cached, planned.linked, planned.pages⟩
  unfold finishPlan
  split
  · exact before store rfl
  · rw [ends_bind, ends_ensure]
    constructor
    · intro _
      rw [ends_bind]
      apply (read_pages_reads plan.cache.pageBytes plan.loads store).weaken
      · intro pages after same
        rw [ends_bind, ends_within]
        have inserted := insert_pages_linked ((plan.loads.map (·.key)).zip pages) planned.linked
          (planned.pages ▸ some_) (planned.apart.sublist (zip_fst_sublist _ _)) (by
            intro load member known
            obtain ⟨source, listed, key⟩ := List.mem_map.mp (List.of_mem_zip member).1
            exact planned.absent source listed (key ▸ known))
        apply inserted.weaken
        · rintro _ cache ⟨linked, same⟩
          exact ⟨cache, rfl, linked, same.trans planned.pages⟩
        · exact fun _ _ never => never.elim
      · exact fun fault after failed => ⟨failed.1, before after failed.2⟩
    · exact fun _ => ⟨by rintro _ ⟨⟩, before store rfl⟩

theorem read_extents_kept {maxPages : Nat} (some_ : 1 ≤ maxPages) {store : Store}
    (kept : Kept maxPages store) (extents : List PleReadExtentV1) (output : Bytes)
    (outputBytes : Nat) :
    Ends (readExtents setup extents output outputBytes) (fun _ after => Kept maxPages after)
      (fun fault after => Told fault ∧ Kept maxPages after) store := by
  obtain ⟨cache, cached, linked, pages⟩ := kept
  have kept : Kept maxPages store := ⟨cache, cached, linked, pages⟩
  unfold readExtents
  rw [ends_bind, ends_settle]
  refine ⟨fun _ _ => ?_, fun fault failed => ⟨check_extents_told failed, kept⟩⟩
  rw [ends_bind, ends_ensure]
  refine ⟨fun _ => ?_, fun _ => ⟨told_invalid _, kept⟩⟩
  rw [ends_bind, ends_read, cached]
  dsimp only [readCached]
  rw [ends_bind, ends_within, ends_bind]
  have planned : PlanLinked maxPages { cache := cache, output := output } :=
    ⟨linked, pages, List.nodup_nil, by simp⟩
  apply (plan_pieces_planned (extents.flatMap (PleStore.pieces cache.pageBytes)) planned).weaken
  · intro _ plan planned
    exact finish_plan_kept some_ planned rfl
  · exact fun fault plan failed => ⟨failed.1, plan.cache, rfl, failed.2.linked, failed.2.pages⟩

/-- A store behind batches of reads, of which some may have failed. -/
inductive Batched (setup : Setup) (start : Store) : Store → Prop
  | start : Batched setup start start
  | read {store : Store} (reached : Batched setup start store) (extents : List PleReadExtentV1)
      (output : Bytes) (outputBytes : Nat) :
      Batched setup start (readExtents setup extents output outputBytes store).2

theorem ends_left {σ α : Type} {call : Proc Fault σ α} {kept : σ → Prop} {told : Fault → Prop}
    {state : σ} (ended : Ends call (fun _ after => kept after)
      (fun fault after => told fault ∧ kept after) state) : kept (call state).2 := by
  unfold Ends at ended
  generalize call state = outcome at ended ⊢
  obtain ⟨answer, after⟩ := outcome
  cases answer with
  | ok value => exact ended
  | error thrown => exact ended.2

theorem batched_kept {start : Store} {maxPages : Nat} (some_ : 1 ≤ maxPages)
    (kept : Kept maxPages start) {store : Store} (reached : Batched setup start store) :
    Kept maxPages store := by
  induction reached with
  | start => exact kept
  | read reached extents output outputBytes ih =>
      exact ends_left (read_extents_kept some_ ih extents output outputBytes)

theorem empty_linked (pageBytes maxPages : Nat) :
    Linked [] { pageBytes := pageBytes, maxPages := maxPages } := by
  constructor <;> simp

/-- In every run of batches on a cache of at least one page, the containers are
consistent between the batches, and no batch finds them otherwise. -/
theorem cache_structure {start store : Store} {pageBytes maxPages : Nat}
    (opened : start.cache = some { pageBytes := pageBytes, maxPages := maxPages })
    (some_ : 1 ≤ maxPages) (reached : Batched setup start store) :
    (∃ cache, store.cache = some cache ∧ Consistent cache ∧ cache.maxPages = maxPages) ∧
      ∀ extents output outputBytes what,
        (readExtents setup extents output outputBytes store).1 ≠
          .error (.thrown (.logicError what)) := by
  have kept := batched_kept some_ ⟨_, opened, empty_linked pageBytes maxPages, rfl⟩ reached
  constructor
  · obtain ⟨cache, cached, linked, pages⟩ := kept
    exact ⟨cache, cached, linked.consistent, pages⟩
  · intro extents output outputBytes what threw
    exact ((read_extents_kept some_ kept extents output outputBytes).threw threw).1 what rfl

/-- One batch of two pages on a cache that has one. -/
theorem cache_structure_two_pages :
    ∃ cache, (readExtents quietSetup [⟨0, 0, 0, 1⟩, ⟨1, 0, 1, 1⟩] [0, 0] 2 sampleStore).2.cache =
      some cache ∧ Consistent cache ∧ cache.maxPages = 1 :=
  (cache_structure rfl (by decide) (.read .start _ _ _)).1

end Batches

end Q38.PleStore
