import Q38Runtime.IoUring

/-! A batch that starts on rings with nothing left in them. Every buffer out of the
free list belongs to one read of the batch, in one place of the rings, so a
completion can only speak of the request it was made for. -/
namespace Q38.IoUring
open Imperative

/-- The first `count` bytes of `page` are those of `file` from `offset` on. -/
def Mirrors (page file : Bytes) (offset count : Nat) : Prop :=
  ∀ index < count, offset + index < file.length ∧ page[index]? = file[offset + index]?

theorem Mirrors.fewer {page file : Bytes} {offset count fewer : Nat}
    (mirrors : Mirrors page file offset count) (le : fewer ≤ count) :
    Mirrors page file offset fewer := fun index inside => mirrors index (inside.trans_le le)

theorem Mirrors.covered {page file : Bytes} {offset count : Nat}
    (mirrors : Mirrors page file offset count) {index : Nat} (inside : index < count) :
    index < page.length := by
  obtain ⟨short, same⟩ := mirrors index inside
  rw [List.getElem?_eq_getElem short] at same
  exact (List.getElem?_eq_some_iff.mp same).1

theorem mirrors_taken (file rest : Bytes) (offset count : Nat) :
    Mirrors ((file.drop offset).take count ++ rest) file offset
      ((file.drop offset).take count).length := by
  intro index inside
  rw [List.getElem?_append_left inside]
  rw [List.length_take, List.length_drop] at inside
  rw [List.getElem?_take_of_lt (by omega), List.getElem?_drop]
  exact ⟨by omega, rfl⟩

theorem Mirrors.copied {page file : Bytes} {offset count : Nat}
    (mirrors : Mirrors page file offset count) (rest : Bytes) :
    Mirrors (page.take count ++ rest) file offset count := by
  intro index inside
  have covered := mirrors.covered inside
  rw [List.getElem?_append_left (by rw [List.length_take]; omega), List.getElem?_take_of_lt inside]
  exact mirrors index inside

/-- The buffers that lie in the rings. -/
def held (ring : Ring) : List Nat :=
  ring.queued.map (·.buffer) ++ ring.flying.map (·.buffer) ++ ring.completions.map (·.userData)

/-- The rings hold nothing. -/
structure Idle (ring : Ring) : Prop where
  queued : ring.queued = []
  flying : ring.flying = []
  completions : ring.completions = []

/-- A failed completion lies in the completion ring. No batch takes it out again. -/
def Jammed (ring : Ring) : Prop := ∃ completion ∈ ring.completions, completion.res < 0

/-- A batch: its requests, and where the rings stood when it began. -/
structure Reading where
  kernel : Kernel
  requests : List ReadRequest
  pageBytes : Nat
  queueDepth : Nat
  base : Nat
  past : Nat

section Owning
variable (reading : Reading)

/-- What the kernel has completed of the batch. -/
def recent (ring : Ring) : List (Nat × Int) := ring.history.drop reading.past

/-- The read of a request has returned all the request expects. -/
def Returned (ring : Ring) (index : Nat) : Prop :=
  ∃ request res, reading.requests[index]? = some request ∧
    (reading.base + index, res) ∈ recent reading ring ∧ (request.expectedBytes : Int) ≤ res

/-- A read of the batch has not returned all its request expects. -/
def Missing (ring : Ring) : Prop :=
  ∃ index < reading.requests.length, ¬ Returned reading ring index

/-- The request that is active in a buffer. -/
def Active (batch : Batch) (buffer index : Nat) (request : ReadRequest) : Prop :=
  batch.active buffer = some index ∧ reading.requests[index]? = some request

/-- The read in a buffer is the one of the request that is active there. -/
def Asks (batch : Batch) (entry : Sqe) : Prop :=
  ∃ index request, Active reading batch entry.buffer index request ∧ entry.fd = request.fd ∧
    entry.off = request.offset ∧ entry.len = reading.pageBytes ∧
    entry.position = reading.base + index

/-- A completion is that of the request active in its buffer, and where it did not
fail, the buffer holds its bytes. -/
def Tells (batch : Batch) (ring : Ring) (completion : Cqe) : Prop :=
  ∃ index request, Active reading batch completion.userData index request ∧
    (reading.base + index, completion.res) ∈ recent reading ring ∧
    (completion.res < 0 ∨
      completion.res.toNat ≤ reading.pageBytes ∧
        Mirrors (ring.buffers completion.userData) (reading.kernel.files request.fd)
          request.offset completion.res.toNat)

/-- The page of a request holds what it asked for. -/
def Served (pages : List Bytes) (index : Nat) : Prop :=
  ∃ request page, reading.requests[index]? = some request ∧ pages[index]? = some page ∧
    Mirrors page (reading.kernel.files request.fd) request.offset request.expectedBytes

structure Owns (batch : Batch) (ring : Ring) : Prop where
  distinct : (held ring ++ batch.freeBuffers).Nodup
  spread : (held ring).length + batch.freeBuffers.length = reading.queueDepth
  tracked : ∀ buffer index, batch.active buffer = some index → buffer ∈ held ring
  single : ∀ one other index, batch.active one = some index → batch.active other = some index →
    one = other
  below : ∀ buffer index, batch.active buffer = some index → index < batch.nextRequest
  asked : ∀ entry ∈ ring.queued ++ ring.flying, Asks reading batch entry
  open_ : ∀ entry ∈ ring.queued ++ ring.flying, ∀ res,
    (entry.position, res) ∉ recent reading ring
  told : ∀ completion ∈ ring.completions, Tells reading batch ring completion
  once : ∀ position one other, (position, one) ∈ recent reading ring →
    (position, other) ∈ recent reading ring → one = other
  served : ∀ index < batch.nextRequest, (∃ buffer, batch.active buffer = some index) ∨
    Served reading batch.pages index ∧ Returned reading ring index
  known : ∀ record ∈ recent reading ring, record.1 < reading.base + batch.nextRequest
  counted : batch.completed + (held ring).length = batch.nextRequest
  bounded : batch.nextRequest ≤ reading.requests.length
  numbered : ring.tail = reading.base + batch.nextRequest
  since : reading.past ≤ ring.history.length
  paged : batch.pages.length = reading.requests.length

variable {reading} {batch : Batch} {ring : Ring}

theorem Active.inside {buffer index : Nat} {request : ReadRequest}
    (active : Active reading batch buffer index request) : index < reading.requests.length :=
  (List.getElem?_eq_some_iff.mp active.2).1

/-- While a read is in the submission ring or in flight, its request lacks it. -/
theorem Owns.missing (owns : Owns reading batch ring) {entry : Sqe}
    (member : entry ∈ ring.queued ++ ring.flying) : Missing reading ring := by
  obtain ⟨index, request, active, -, -, -, position⟩ := owns.asked entry member
  refine ⟨index, active.inside, ?_⟩
  rintro ⟨request', res, asked, recorded, enough⟩
  exact owns.open_ entry member res (position ▸ recorded)

/-- Moving a read within the rings keeps what is owned. -/
theorem Owns.moved (owns : Owns reading batch ring) {after : Ring}
    (same : (held after).Perm (held ring)) (tail : after.tail = ring.tail)
    (history : after.history = ring.history) (buffers : after.buffers = ring.buffers)
    (completions : after.completions = ring.completions)
    (entries : ∀ entry ∈ after.queued ++ after.flying, entry ∈ ring.queued ++ ring.flying) :
    Owns reading batch after := by
  have recently : recent reading after = recent reading ring := by rw [recent, recent, history]
  constructor
  case distinct => exact (same.append_right _).nodup_iff.mpr owns.distinct
  case spread => rw [same.length_eq, owns.spread]
  case tracked => exact fun buffer index active => same.mem_iff.mpr (owns.tracked _ _ active)
  case single => exact owns.single
  case below => exact owns.below
  case asked => exact fun entry member => owns.asked entry (entries entry member)
  case open_ => exact fun entry member => recently ▸ owns.open_ entry (entries entry member)
  case told =>
    intro completion member
    rw [completions] at member
    have told := owns.told completion member
    rwa [Tells, ← recently, ← buffers] at told
  case once => exact recently ▸ owns.once
  case served =>
    intro index inside
    have served := owns.served index inside
    rwa [Returned, ← recently] at served
  case known => exact recently ▸ owns.known
  case counted => rw [same.length_eq, owns.counted]
  case bounded => exact owns.bounded
  case numbered => rw [tail, owns.numbered]
  case since => exact history ▸ owns.since
  case paged => exact owns.paged

theorem Owns.later (owns : Owns reading batch ring) (turns : Nat) :
    Owns reading batch { ring with turns := turns } :=
  owns.moved (.refl _) rfl rfl rfl rfl fun _ member => member

theorem held_erase {place : Nat} {entry : Sqe} (completion : Cqe)
    (found : ring.flying[place]? = some entry) (own : completion.userData = entry.buffer) :
    (held { ring with
      flying := ring.flying.eraseIdx place
      completions := ring.completions ++ [completion] }).Perm (held ring) := by
  obtain ⟨inside, rfl⟩ := List.getElem?_eq_some_iff.mp found
  have erased := (List.getElem_cons_eraseIdx_perm inside).map (·.buffer)
  rw [List.map_cons] at erased
  apply List.perm_iff_count.mpr
  intro buffer
  have counts := List.perm_iff_count.mp erased buffer
  simp only [held, List.map_append, List.map_cons, List.map_nil, List.count_append,
    List.count_cons, List.count_nil, own] at counts ⊢
  omega

/-- The buffers of two reads in the rings differ. -/
theorem Owns.apart (owns : Owns reading batch ring) {entry : Sqe} {completion : Cqe}
    (flying : entry ∈ ring.flying) (posted : completion ∈ ring.completions) :
    completion.userData ≠ entry.buffer := by
  have distinct := (List.nodup_append.mp owns.distinct).1
  rw [held, List.nodup_append] at distinct
  intro same
  exact distinct.2.2 entry.buffer (List.mem_append_right _ (List.mem_map_of_mem flying))
    completion.userData (List.mem_map_of_mem posted) same.symm

/-- Two reads with one position are one read. -/
theorem Owns.position_place (owns : Owns reading batch ring) {place : Nat} {entry other : Sqe}
    (found : ring.flying[place]? = some entry)
    (member : other ∈ ring.queued ++ ring.flying.eraseIdx place) :
    other.position ≠ entry.position := by
  intro same
  have entryMember : entry ∈ ring.queued ++ ring.flying :=
    List.mem_append_right _ (List.mem_of_getElem? found)
  have otherMember : other ∈ ring.queued ++ ring.flying := by
    rcases List.mem_append.mp member with queued | flying
    · exact List.mem_append_left _ queued
    · exact List.mem_append_right _ (List.mem_of_mem_eraseIdx flying)
  obtain ⟨index, _, active, _, _, _, position⟩ := owns.asked entry entryMember
  obtain ⟨index', _, active', _, _, _, position'⟩ := owns.asked other otherMember
  obtain rfl : index' = index := by omega
  have buffers := owns.single _ _ _ active'.1 active.1
  have distinct := (held_erase ⟨entry.buffer, 0⟩ found rfl).nodup_iff.mpr
    (List.nodup_append.mp owns.distinct).1
  rw [held, List.nodup_append, ← List.map_append] at distinct
  exact distinct.2.2 other.buffer (List.mem_map_of_mem member) entry.buffer
    (List.mem_map_of_mem (List.mem_append_right _ List.mem_cons_self)) buffers

theorem owns_complete (owns : Owns reading batch ring) (which : Nat × Int) :
    Owns reading batch (complete reading.kernel.files ring which) := by
  unfold complete
  cases found : ring.flying[which.1]? with
  | none => exact owns
  | some entry =>
      dsimp only
      have flying : entry ∈ ring.flying := List.mem_of_getElem? found
      have asked := List.mem_append_right ring.queued flying
      obtain ⟨index, request, active, fd, off, len, position⟩ := owns.asked entry asked
      generalize bytesEq : ((reading.kernel.files entry.fd).drop entry.off).take
        (min which.2.toNat entry.len) = bytes
      generalize resEq : (if which.2 < 0 then which.2 else (bytes.length : Int)) = res
      have recently : ∀ rest : Ring, rest.history = ring.history ++ [(entry.position, res)] →
          recent reading rest = recent reading ring ++ [(entry.position, res)] := by
        intro rest history
        rw [recent, history, List.drop_append_of_le_length owns.since]
        rfl
      have same := held_erase ⟨entry.buffer, res⟩ found rfl
      constructor
      case distinct => exact (same.append_right _).nodup_iff.mpr owns.distinct
      case spread => exact same.length_eq ▸ owns.spread
      case tracked => exact fun buffer index active => same.mem_iff.mpr (owns.tracked _ _ active)
      case single => exact owns.single
      case below => exact owns.below
      case asked =>
        intro other member
        apply owns.asked
        simp only [List.mem_append] at member ⊢
        exact member.imp_right List.mem_of_mem_eraseIdx
      case open_ =>
        intro other member value
        rw [recently _ rfl, List.mem_append, List.mem_singleton]
        rintro (before | now)
        · have was : other ∈ ring.queued ++ ring.flying := by
            simp only [List.mem_append] at member ⊢
            exact member.imp_right List.mem_of_mem_eraseIdx
          exact owns.open_ other was value before
        · exact owns.position_place found member (congrArg Prod.fst now)
      case told =>
        intro completion member
        rcases List.mem_append.mp member with before | now
        · obtain ⟨index, request, active, recorded, bytes⟩ := owns.told completion before
          refine ⟨index, request, active, ?_, ?_⟩
          · rw [recently _ rfl]
            exact List.mem_append_left _ recorded
          · dsimp only
            rwa [Function.update_of_ne (owns.apart flying before)]
        · obtain rfl := List.mem_singleton.mp now
          refine ⟨index, request, active, ?_, ?_⟩
          · rw [recently _ rfl, position]
            exact List.mem_append_right _ (List.mem_singleton.mpr rfl)
          · by_cases failed : which.2 < 0
            · left
              rw [← resEq, if_pos failed]
              exact failed
            · right
              have went : res = bytes.length := by rw [← resEq, if_neg failed]
              dsimp only
              rw [Function.update_self, went, Int.toNat_natCast]
              constructor
              · rw [← bytesEq, List.length_take]
                omega
              · rw [← bytesEq, fd, off]
                exact mirrors_taken _ _ _ _
      case once =>
        intro place one other
        rw [recently _ rfl]
        simp only [List.mem_append, List.mem_singleton, Prod.mk.injEq]
        rintro (before | ⟨here, now⟩) (before' | ⟨here', now'⟩)
        · exact owns.once place one other before before'
        · exact absurd (here' ▸ before) (owns.open_ entry asked one)
        · exact absurd (here ▸ before') (owns.open_ entry asked other)
        · rw [now, now']
      case served =>
        intro other inside
        rcases owns.served other inside with kept | ⟨served, request, value, asked, recorded, enough⟩
        · exact Or.inl kept
        · refine Or.inr ⟨served, request, value, asked, ?_, enough⟩
          rw [recently _ rfl]
          exact List.mem_append_left _ recorded
      case known =>
        intro record
        rw [recently _ rfl, List.mem_append, List.mem_singleton]
        rintro (before | rfl)
        · exact owns.known record before
        · have := owns.below _ _ active.1
          dsimp only
          omega
      case counted => exact same.length_eq ▸ owns.counted
      case bounded => exact owns.bounded
      case numbered => exact owns.numbered
      case since => exact owns.since.trans (by simp)
      case paged => exact owns.paged

theorem owns_complete_all (owns : Owns reading batch ring) (which : List (Nat × Int)) :
    Owns reading batch (completeAll reading.kernel.files which ring) := by
  induction which generalizing ring with
  | nil => exact owns
  | cons first rest ih => exact ih (owns_complete owns first)

/-- The kernel leaves the submission ring alone and takes no completion back. -/
theorem complete_all_keeps {files : Nat → Bytes} (which : List (Nat × Int)) (ring : Ring) :
    (completeAll files which ring).queued = ring.queued ∧
      ring.completions ⊆ (completeAll files which ring).completions := by
  induction which generalizing ring with
  | nil => exact ⟨rfl, List.Subset.refl _⟩
  | cons first rest ih =>
      rw [completeAll, List.foldl_cons]
      obtain ⟨queued, completions⟩ := ih (complete files ring first)
      refine ⟨queued.trans ?_, fun _ member => completions ?_⟩
      · unfold complete
        split <;> rfl
      · unfold complete
        split
        · exact member
        · exact List.mem_append_left _ member

/-- Entering the kernel takes reads off the submission ring, in order. -/
theorem enter_ends (owns : Owns reading batch ring) {toSubmit : Nat}
    (waiting : ring.queued ≠ []) :
    Ends (enter reading.kernel toSubmit)
      (fun count after => Owns reading batch after ∧ count ≤ toSubmit ∧
        after.queued.length + count = ring.queued.length)
      (fun _ after => Missing reading after) ring := by
  unfold Ends enter
  dsimp only
  cases (reading.kernel.turn ring.turns).answer with
  | failed what =>
      obtain ⟨entry, member⟩ := List.exists_mem_of_ne_nil _ waiting
      exact (owns.later _).missing (List.mem_append_left _ member)
  | took count =>
      refine ⟨?_, (Nat.min_le_right _ _).trans (Nat.min_le_left _ _), ?_⟩
      · apply owns_complete_all
        refine owns.moved ?_ rfl rfl rfl rfl ?_
        · apply List.perm_iff_count.mpr
          intro buffer
          have parts := congrArg (List.count buffer ∘ List.map (·.buffer))
            (List.take_append_drop (min count (min toSubmit ring.queued.length)) ring.queued)
          simp only [held, Function.comp_apply, List.map_append, List.count_append] at parts ⊢
          omega
        · intro entry member
          simp only [List.mem_append] at member ⊢
          rcases member with left_ | flying | taken
          · exact Or.inl (List.mem_of_mem_drop left_)
          · exact Or.inr flying
          · exact Or.inl (List.mem_of_mem_take taken)
      · rw [(complete_all_keeps _ _).1]
        change (ring.queued.drop _).length + _ = _
        rw [List.length_drop]
        omega

theorem submit_all_ends (fuel left_ : Nat) (owns : Owns reading batch ring)
    (all : ring.queued.length = left_) (enough : left_ ≤ fuel) :
    Ends (submitAll reading.kernel fuel left_)
      (fun _ after => Owns reading batch after ∧ after.queued = [])
      (fun _ after => Missing reading after) ring := by
  induction fuel generalizing left_ ring with
  | zero =>
      refine ⟨owns, List.eq_nil_of_length_eq_zero ?_⟩
      omega
  | succ fuel ih =>
      rw [submitAll, ends_ite]
      constructor
      · intro none
        exact ⟨owns, List.eq_nil_of_length_eq_zero (all.trans none)⟩
      · intro some_
        have waiting : ring.queued ≠ [] := List.ne_nil_of_length_pos (by omega)
        apply (enter_ends owns waiting).chain
        rintro count after ⟨owns, within, taken⟩
        rw [ends_bind, ends_ensure]
        constructor
        · intro progress
          exact ih _ owns (by omega) (by omega)
        · intro stuck
          have still : after.queued ≠ [] := List.ne_nil_of_length_pos (by omega)
          obtain ⟨entry, member⟩ := List.exists_mem_of_ne_nil _ still
          exact owns.missing (List.mem_append_left _ member)

/-- A wait ends, if it is not refused, with something in the completion ring. -/
theorem wait_completion_ends (owns : Owns reading batch ring) (submitted : ring.queued = [])
    (some_ : held ring ≠ []) :
    Ends (waitCompletion reading.kernel)
      (fun _ after => Owns reading batch after ∧ after.queued = [] ∧ after.completions ≠ [])
      (fun _ after => Missing reading after) ring := by
  unfold Ends waitCompletion
  dsimp only
  by_cases posted : ring.completions ≠ []
  · rw [if_pos posted]
    exact ⟨owns, submitted, posted⟩
  · rw [if_neg posted]
    have flying : ring.flying ≠ [] := by
      rintro none
      apply some_
      rw [held, submitted, none, not_ne_iff.mp posted]
      rfl
    obtain ⟨entry, member⟩ := List.exists_mem_of_ne_nil _ flying
    cases (reading.kernel.turn ring.turns).answer with
    | failed what => exact (owns.later _).missing (List.mem_append_right _ member)
    | took count =>
        dsimp only
        rw [if_neg flying]
        refine ⟨owns_complete_all (owns.later _) _, (complete_all_keeps _ _).1.trans submitted, ?_⟩
        rw [completeAll, List.foldl_cons]
        have place : (reading.kernel.turn ring.turns).awaited.1 % ring.flying.length <
            ring.flying.length := Nat.mod_lt _ (List.length_pos_of_ne_nil flying)
        have first : (complete reading.kernel.files { ring with turns := ring.turns + 1 }
            ((reading.kernel.turn ring.turns).awaited.1 % ring.flying.length,
              (reading.kernel.turn ring.turns).awaited.2)).completions ≠ [] := by
          unfold complete
          rw [List.getElem?_eq_getElem place]
          exact List.append_ne_nil_of_right_ne_nil _ (List.cons_ne_nil _ _)
        obtain ⟨completion, posted⟩ := List.exists_mem_of_ne_nil _ first
        exact List.ne_nil_of_mem ((complete_all_keeps _ _).2 posted)

/-- A request takes a free buffer into the submission ring. -/
theorem owns_queued {buffer : Nat} {rest : List Nat} {request : ReadRequest}
    (owns : Owns reading { batch with freeBuffers := buffer :: rest } ring)
    (asked : reading.requests[batch.nextRequest]? = some request) :
    Owns reading { batch with
        active := Function.update batch.active buffer (some batch.nextRequest)
        nextRequest := batch.nextRequest + 1
        freeBuffers := rest }
      { ring with
        tail := ring.tail + 1
        queued := ring.queued ++
          [⟨request.fd, request.offset, reading.pageBytes, buffer, ring.tail⟩] } := by
  have numbered : ring.tail = reading.base + batch.nextRequest := owns.numbered
  have fresh : buffer ∉ held ring := fun inside =>
    (List.nodup_append.mp owns.distinct).2.2 buffer inside buffer List.mem_cons_self rfl
  have idle {index : Nat} : batch.active buffer ≠ some index := fun active =>
    fresh (owns.tracked _ _ active)
  have still {place index : Nat} (active : batch.active place = some index) :
      Function.update batch.active buffer (some batch.nextRequest) place = some index := by
    rw [Function.update_of_ne]
    · exact active
    · rintro rfl
      exact idle active
  have was {place index : Nat}
      (active : Function.update batch.active buffer (some batch.nextRequest) place = some index) :
      place = buffer ∧ index = batch.nextRequest ∨ batch.active place = some index := by
    by_cases same : place = buffer
    · subst same
      rw [Function.update_self] at active
      exact Or.inl ⟨rfl, (Option.some.inj active).symm⟩
    · rw [Function.update_of_ne same] at active
      exact Or.inr active
  have grown : (held { ring with
      tail := ring.tail + 1
      queued := ring.queued ++ [⟨request.fd, request.offset, reading.pageBytes, buffer, ring.tail⟩]
      }).Perm (buffer :: held ring) := by
    simp only [held, List.map_append, List.map_cons, List.map_nil, List.append_assoc,
      List.singleton_append]
    exact List.perm_middle
  constructor
  case distinct =>
    exact ((grown.append_right rest).trans List.perm_middle.symm).nodup_iff.mpr owns.distinct
  case spread =>
    have spread := owns.spread
    rw [grown.length_eq, List.length_cons]
    rw [List.length_cons] at spread
    dsimp only
    omega
  case tracked =>
    intro place index active
    apply grown.mem_iff.mpr
    rcases was active with ⟨rfl, -⟩ | before
    · exact List.mem_cons_self
    · exact List.mem_cons_of_mem _ (owns.tracked place index before)
  case single =>
    intro one other index active active'
    rcases was active with ⟨rfl, rfl⟩ | before <;> rcases was active' with ⟨rfl, same⟩ | before'
    · rfl
    · exact absurd (owns.below _ _ before') (Nat.lt_irrefl _)
    · exact absurd (same ▸ owns.below _ _ before) (Nat.lt_irrefl _)
    · exact owns.single one other index before before'
  case below =>
    intro place index active
    rcases was active with ⟨-, rfl⟩ | before
    · exact Nat.lt_succ_self _
    · exact (owns.below place index before).trans (Nat.lt_succ_self _)
  case asked =>
    intro entry member
    have before (known : entry ∈ ring.queued ++ ring.flying) :
        Asks reading { batch with
          active := Function.update batch.active buffer (some batch.nextRequest)
          nextRequest := batch.nextRequest + 1
          freeBuffers := rest } entry := by
      obtain ⟨index, request, ⟨active, asked⟩, rest⟩ := owns.asked entry known
      exact ⟨index, request, ⟨still active, asked⟩, rest⟩
    simp only [List.mem_append, List.mem_singleton] at member
    rcases member with (queued | rfl) | flying
    · exact before (List.mem_append_left _ queued)
    · exact ⟨batch.nextRequest, request, ⟨Function.update_self .., asked⟩, rfl, rfl, rfl, numbered⟩
    · exact before (List.mem_append_right _ flying)
  case open_ =>
    intro entry member value recorded
    simp only [List.mem_append, List.mem_singleton] at member
    rcases member with (queued | rfl) | flying
    · exact owns.open_ entry (List.mem_append_left _ queued) value recorded
    · have known : ring.tail < reading.base + batch.nextRequest := owns.known _ recorded
      omega
    · exact owns.open_ entry (List.mem_append_right _ flying) value recorded
  case told =>
    intro completion member
    obtain ⟨index, request, ⟨active, asked⟩, rest⟩ := owns.told completion member
    exact ⟨index, request, ⟨still active, asked⟩, rest⟩
  case once => exact owns.once
  case served =>
    intro index inside
    rcases Nat.lt_succ_iff_lt_or_eq.mp inside with before | rfl
    · rcases owns.served index before with ⟨place, active⟩ | served
      · exact Or.inl ⟨place, still active⟩
      · exact Or.inr served
    · exact Or.inl ⟨buffer, Function.update_self ..⟩
  case known => exact fun record member => (owns.known record member).trans (by simp)
  case counted =>
    have counted := owns.counted
    rw [grown.length_eq, List.length_cons]
    dsimp only at counted ⊢
    omega
  case bounded => exact (List.getElem?_eq_some_iff.mp asked).1
  case numbered =>
    dsimp only
    omega
  case since => exact owns.since
  case paged => exact owns.paged

/-- What `fill` leaves as it was, and what it brings about. -/
structure Filled (batch filled : Batch) (ring after : Ring) : Prop where
  completed : filled.completed = batch.completed
  inFlight : filled.inFlight = batch.inFlight
  more : batch.nextRequest ≤ filled.nextRequest
  queued : after.queued.length + batch.nextRequest = ring.queued.length + filled.nextRequest

theorem fill_ends (sqEntries : Nat) (free : List Nat)
    (owns : Owns reading { batch with freeBuffers := free } ring) :
    Ends (fill sqEntries reading.pageBytes reading.requests free batch)
      (fun filled after => Owns reading filled after ∧ Filled batch filled ring after ∧
        (free ≠ [] → batch.nextRequest < reading.requests.length →
          ring.queued.length < sqEntries → batch.nextRequest < filled.nextRequest))
      (fun _ _ => False) ring := by
  have stays : Filled batch { batch with freeBuffers := free } ring ring :=
    ⟨rfl, rfl, le_rfl, rfl⟩
  induction free generalizing batch ring with
  | nil => exact ⟨owns, stays, fun some_ => absurd rfl some_⟩
  | cons buffer rest ih =>
      rw [fill, ends_bind, ends_read]
      cases asked : reading.requests[batch.nextRequest]? with
      | none =>
          refine ⟨owns, stays, fun _ inside => ?_⟩
          exact absurd (List.getElem?_eq_none_iff.mp asked) (Nat.not_le_of_lt inside)
      | some request =>
          dsimp only
          rw [ends_ite]
          constructor
          · intro room
            rw [ends_bind, ends_write]
            apply (ih (owns_queued owns asked) ⟨rfl, rfl, le_rfl, rfl⟩).weaken
            · rintro filled after ⟨owns, ⟨completed, inFlight, more, queued⟩, -⟩
              simp only [List.length_append, List.length_singleton] at queued
              dsimp only at completed inFlight more queued
              exact ⟨owns, ⟨completed, inFlight, by omega, by omega⟩, fun _ _ _ => more⟩
            · exact fun _ _ impossible => impossible
          · intro full
            exact ⟨owns, stays, fun _ _ room => absurd room full⟩

/-- A completion that belongs to its request is taken, unless it failed or was short. -/
theorem take_completion_told {completion : Cqe} (told : Tells reading batch ring completion) :
    (∃ index request, Active reading batch completion.userData index request ∧
      (reading.base + index, completion.res) ∈ recent reading ring ∧
      (request.expectedBytes : Int) ≤ completion.res ∧
      Mirrors (ring.buffers completion.userData) (reading.kernel.files request.fd) request.offset
        completion.res.toNat ∧
      takeCompletion reading.kernel reading.pageBytes reading.requests ring.buffers completion
        batch = .ok { batch with
          active := Function.update batch.active completion.userData none
          freeBuffers := completion.userData :: batch.freeBuffers
          completed := batch.completed + 1
          inFlight := batch.inFlight - 1
          physicalBytes := batch.physicalBytes + completion.res.toNat
          pages := batch.pages.modify index fun page =>
            (ring.buffers completion.userData).take completion.res.toNat ++
              page.drop completion.res.toNat }) ∨
    (∃ index request, Active reading batch completion.userData index request ∧
      (reading.base + index, completion.res) ∈ recent reading ring ∧
      completion.res < request.expectedBytes ∧
      ∃ fault, takeCompletion reading.kernel reading.pageBytes reading.requests ring.buffers
        completion batch = .error fault) := by
  obtain ⟨index, request, active, recorded, outcome⟩ := told
  unfold takeCompletion
  rw [active.1]
  dsimp only
  rw [active.2]
  dsimp only
  rcases outcome with failed | ⟨within, mirrors⟩
  · rw [if_pos failed]
    exact Or.inr ⟨index, request, active, recorded, by omega, _, rfl⟩
  · by_cases failed : completion.res < 0
    · rw [if_pos failed]
      exact Or.inr ⟨index, request, active, recorded, by omega, _, rfl⟩
    · rw [if_neg failed]
      by_cases short : completion.res.toNat < request.expectedBytes ∨
          completion.res.toNat > reading.pageBytes
      · rw [if_pos short]
        exact Or.inr ⟨index, request, active, recorded, by omega, _, rfl⟩
      · rw [if_neg short]
        exact Or.inl ⟨index, request, active, recorded, by omega, mirrors, rfl⟩

/-- Copying the bytes of a read into its page serves its request, and no other page. -/
theorem served_copied {pages : List Bytes} {buffer : Bytes} {index count : Nat}
    {request : ReadRequest} (paged : pages.length = reading.requests.length)
    (asked : reading.requests[index]? = some request)
    (mirrors : Mirrors buffer (reading.kernel.files request.fd) request.offset count)
    (enough : request.expectedBytes ≤ count) {other : Nat}
    (before : other = index ∨ Served reading pages other) :
    Served reading (pages.modify index fun page => buffer.take count ++ page.drop count)
      other := by
  by_cases hit : index = other
  · subst hit
    have inside : index < pages.length := paged ▸ (List.getElem?_eq_some_iff.mp asked).1
    refine ⟨request, buffer.take count ++ pages[index].drop count, asked, ?_, ?_⟩
    · rw [List.getElem?_modify_eq, List.getElem?_eq_getElem inside]
      rfl
    · exact (mirrors.copied _).fewer enough
  · obtain ⟨request', page, asked', stored, same⟩ := before.resolve_left (Ne.symm hit)
    exact ⟨request', page, asked', (List.getElem?_modify_ne _ _ hit).trans stored, same⟩

/-- Taking a completion ends its request and frees its buffer. -/
theorem owns_taken {completion : Cqe} {rest : List Cqe} {index : Nat} {request : ReadRequest}
    (owns : Owns reading batch { ring with completions := completion :: rest })
    (active : Active reading batch completion.userData index request)
    (recorded : (reading.base + index, completion.res) ∈ recent reading ring)
    (enough : (request.expectedBytes : Int) ≤ completion.res)
    (mirrors : Mirrors (ring.buffers completion.userData) (reading.kernel.files request.fd)
      request.offset completion.res.toNat) :
    Owns reading { batch with
        active := Function.update batch.active completion.userData none
        freeBuffers := completion.userData :: batch.freeBuffers
        completed := batch.completed + 1
        inFlight := batch.inFlight - 1
        physicalBytes := batch.physicalBytes + completion.res.toNat
        pages := batch.pages.modify index fun page =>
          (ring.buffers completion.userData).take completion.res.toNat ++
            page.drop completion.res.toNat }
      { ring with completions := rest } := by
  have fits : request.expectedBytes ≤ completion.res.toNat := by omega
  have frees : (held { ring with completions := completion :: rest }).Perm
      (completion.userData :: held { ring with completions := rest }) := by
    simp only [held, List.map_cons]
    exact List.perm_middle
  have distinct : (held { ring with completions := rest } ++
      completion.userData :: batch.freeBuffers).Nodup :=
    (List.perm_middle.trans (frees.append_right _).symm).nodup_iff.mpr owns.distinct
  have freed : completion.userData ∉ held { ring with completions := rest } := fun inside =>
    (List.nodup_append.mp distinct).2.2 _ inside _ List.mem_cons_self rfl
  have still {place other : Nat} (kept : batch.active place = some other)
      (inside : place ∈ held { ring with completions := rest }) :
      Function.update batch.active completion.userData none place = some other :=
    (Function.update_of_ne (ne_of_mem_of_not_mem inside freed) _ _).trans kept
  have was {place other : Nat}
      (kept : Function.update batch.active completion.userData none place = some other) :
      place ≠ completion.userData ∧ batch.active place = some other := by
    by_cases same : place = completion.userData
    · rw [same, Function.update_self] at kept
      cases kept
    · exact ⟨same, (Function.update_of_ne same _ _).symm.trans kept⟩
  constructor
  case distinct => exact distinct
  case spread =>
    have spread := owns.spread
    rw [frees.length_eq, List.length_cons] at spread
    dsimp only
    rw [List.length_cons]
    omega
  case tracked =>
    intro place other kept
    obtain ⟨elsewhere, before⟩ := was kept
    exact (List.mem_cons.mp (frees.mem_iff.mp (owns.tracked place other before))).resolve_left
      elsewhere
  case single =>
    exact fun one two other kept kept' => owns.single one two other (was kept).2 (was kept').2
  case below => exact fun place other kept => owns.below place other (was kept).2
  case asked =>
    intro entry member
    obtain ⟨other, request', ⟨kept, asked⟩, same⟩ := owns.asked entry member
    have inside : entry.buffer ∈ held { ring with completions := rest } := by
      rw [held, ← List.map_append]
      exact List.mem_append_left _ (List.mem_map_of_mem member)
    exact ⟨other, request', ⟨still kept inside, asked⟩, same⟩
  case open_ => exact owns.open_
  case told =>
    intro later member
    obtain ⟨other, request', ⟨kept, asked⟩, same⟩ := owns.told later (List.mem_cons_of_mem _ member)
    have inside : later.userData ∈ held { ring with completions := rest } :=
      List.mem_append_right _ (List.mem_map_of_mem member)
    exact ⟨other, request', ⟨still kept inside, asked⟩, same⟩
  case once => exact owns.once
  case served =>
    intro other inside
    by_cases same : other = index
    · subst same
      exact Or.inr ⟨served_copied owns.paged active.2 mirrors fits (Or.inl rfl),
        request, completion.res, active.2, recorded, enough⟩
    · rcases owns.served other inside with ⟨place, kept⟩ | ⟨served, returned⟩
      · refine Or.inl ⟨place, still kept ?_⟩
        refine (List.mem_cons.mp (frees.mem_iff.mp (owns.tracked place other kept))).resolve_left ?_
        rintro rfl
        exact same (Option.some.inj (kept.symm.trans active.1))
      · exact Or.inr ⟨served_copied owns.paged active.2 mirrors fits (Or.inr served), returned⟩
  case known => exact owns.known
  case counted =>
    have counted := owns.counted
    rw [frees.length_eq, List.length_cons] at counted
    dsimp only
    omega
  case bounded => exact owns.bounded
  case numbered => exact owns.numbered
  case since => exact owns.since
  case paged => exact (List.length_modify ..).trans owns.paged

theorem take_completions_ends (owns : Owns reading batch ring)
    (flown : batch.inFlight + batch.completed = batch.nextRequest) :
    Ends (takeCompletions reading.kernel reading.pageBytes reading.requests batch)
      (fun taken after => Owns reading taken after ∧
        taken.inFlight + taken.completed = taken.nextRequest ∧
        taken.completed = batch.completed + ring.completions.length ∧
        after.queued = ring.queued ∧ after.completions = [])
      (fun _ after => Missing reading after) ring := by
  have folded : ∀ (completions : List Cqe) (batch : Batch),
      Owns reading batch { ring with completions := completions } →
      batch.inFlight + batch.completed = batch.nextRequest →
      (∃ taken, completions.foldlM (fun batch completion =>
          takeCompletion reading.kernel reading.pageBytes reading.requests ring.buffers completion
            batch) batch = .ok taken ∧
        Owns reading taken { ring with completions := [] } ∧
        taken.inFlight + taken.completed = taken.nextRequest ∧
        taken.completed = batch.completed + completions.length) ∨
      (∃ fault, completions.foldlM (fun batch completion =>
          takeCompletion reading.kernel reading.pageBytes reading.requests ring.buffers completion
            batch) batch = .error fault ∧ Missing reading ring) := by
    intro completions
    induction completions with
    | nil => exact fun batch owns flown => Or.inl ⟨batch, rfl, owns, flown, rfl⟩
    | cons completion rest ih =>
        intro batch owns flown
        rw [List.foldlM_cons]
        rcases take_completion_told (owns.told completion List.mem_cons_self) with
          ⟨index, request, active, recorded, enough, mirrors, taken⟩ |
          ⟨index, request, active, recorded, short, fault, refused_⟩
        · change takeCompletion _ _ _ ring.buffers _ _ = _ at taken
          rw [taken]
          have next := owns_taken owns active recorded enough mirrors
          have counted := owns.counted
          simp only [held, List.length_append, List.length_map, List.length_cons] at counted
          rcases ih _ next (by dsimp only; omega) with ⟨last, goes, owns, flown, count⟩ | stops
          · refine Or.inl ⟨last, goes, owns, flown, ?_⟩
            rw [count, List.length_cons]
            dsimp only
            omega
          · exact Or.inr stops
        · change takeCompletion _ _ _ ring.buffers _ _ = _ at refused_
          rw [refused_]
          refine Or.inr ⟨fault, rfl, index, active.inside, ?_⟩
          rintro ⟨request', res, asked, recorded', enough⟩
          obtain rfl := Option.some.inj (active.2.symm.trans asked)
          obtain rfl := owns.once _ _ _ recorded recorded'
          omega
  unfold Ends takeCompletions
  rcases folded ring.completions batch owns flown with
    ⟨taken, goes, owns, flown, count⟩ | ⟨fault, stops, missing⟩
  · rw [goes]
    exact ⟨owns, flown, count, rfl, rfl⟩
  · rw [stops]
    exact missing

theorem Owns.underway (owns : Owns reading batch ring) (inFlight : Nat) :
    Owns reading { batch with inFlight := inFlight } ring :=
  ⟨owns.distinct, owns.spread, owns.tracked, owns.single, owns.below, owns.asked, owns.open_,
    owns.told, owns.once, owns.served, owns.known, owns.counted, owns.bounded, owns.numbered,
    owns.since, owns.paged⟩

/-- Between two turns nothing waits in the rings but what is in flight. -/
structure Between (reading : Reading) (batch : Batch) (ring : Ring) : Prop where
  owns : Owns reading batch ring
  flown : batch.inFlight + batch.completed = batch.nextRequest
  queued : ring.queued = []
  completions : ring.completions = []

/-- Each turn completes a request. -/
theorem turn_window_ends {sqEntries : Nat} (room : 0 < sqEntries)
    (buffered : 0 < reading.queueDepth) (between : Between reading batch ring)
    (unfinished : batch.completed < reading.requests.length) :
    Ends (turnWindow reading.kernel sqEntries reading.pageBytes reading.requests batch)
      (fun turned after => Between reading turned after ∧ batch.completed < turned.completed)
      (fun _ after => Missing reading after) ring := by
  have owns := between.owns
  have queued := congrArg List.length between.queued
  have counted := owns.counted
  have spread := owns.spread
  have flown := between.flown
  unfold turnWindow
  rw [ends_bind]
  apply (fill_ends sqEntries batch.freeBuffers owns).weaken _ fun _ _ never => never.elim
  rintro filled after ⟨owns, ⟨completed, inFlight, more, queuedMore⟩, pushes⟩
  rw [List.length_nil] at queued
  have countedMore := owns.counted
  have busy : 0 < (held after).length := by
    by_cases none : held ring = []
    · rw [none, List.length_nil] at counted spread
      have free : batch.freeBuffers ≠ [] := List.ne_nil_of_length_pos (by omega)
      have pushed := pushes free (by omega) (by omega)
      omega
    · have := List.length_pos_of_ne_nil none
      omega
  apply (submit_all_ends _ _ owns (by omega) le_rfl).chain
  rintro _ later ⟨owns, submitted⟩
  have countedLater := owns.counted
  rw [ends_bind, ends_ensure]
  constructor
  · intro _
    apply (wait_completion_ends (owns.underway _) submitted
      (List.ne_nil_of_length_pos (by omega))).chain
    rintro _ last ⟨owns, submitted, posted⟩
    have some_ := List.length_pos_of_ne_nil posted
    apply (take_completions_ends owns (by dsimp only; omega)).weaken _ fun _ _ missing => missing
    rintro taken final ⟨owns, flown, count, queued, none⟩
    refine ⟨⟨owns, flown, queued.trans submitted, none⟩, ?_⟩
    dsimp only at count
    omega
  · intro stuck
    exact absurd (by dsimp only; omega) stuck

theorem turn_windows_ends {sqEntries : Nat} (room : 0 < sqEntries)
    (buffered : 0 < reading.queueDepth) (fuel : Nat) (between : Between reading batch ring)
    (enough : reading.requests.length < fuel + batch.completed) :
    Ends (turnWindows reading.kernel sqEntries reading.pageBytes reading.requests fuel batch)
      (fun turned after => Between reading turned after ∧
        reading.requests.length ≤ turned.completed)
      (fun _ after => Missing reading after) ring := by
  induction fuel generalizing batch ring with
  | zero =>
      have counted := between.owns.counted
      have bounded := between.owns.bounded
      omega
  | succ fuel ih =>
      rw [turnWindows, ends_ite]
      constructor
      · intro unfinished
        apply (turn_window_ends room buffered between unfinished).chain
        rintro turned after ⟨between, progress⟩
        exact ih between (by omega)
      · intro done
        exact ⟨between, Nat.le_of_not_lt done⟩

end Owning

section Batch
variable {kernel : Kernel} {requests : List ReadRequest} {ring : Ring}

/-- A batch that begins on these rings. -/
def begun (kernel : Kernel) (requests : List ReadRequest) (pageBytes queueDepth : Nat)
    (ring : Ring) : Reading :=
  ⟨kernel, requests, pageBytes, queueDepth, ring.tail, ring.history.length⟩

theorem idle_begins (idle : Idle ring) (pageBytes queueDepth : Nat) :
    Between (begun kernel requests pageBytes queueDepth ring) {
      freeBuffers := List.range queueDepth
      pages := List.replicate requests.length (List.replicate pageBytes 0) } ring := by
  have empty : held ring = [] := by
    rw [held, idle.queued, idle.flying, idle.completions]
    rfl
  have unseen : recent (begun kernel requests pageBytes queueDepth ring) ring = [] :=
    List.drop_length
  refine ⟨?_, rfl, idle.queued, idle.completions⟩
  constructor
  case distinct =>
    rw [empty]
    exact List.nodup_range
  case spread =>
    rw [empty]
    exact (Nat.zero_add _).trans List.length_range
  case tracked => exact fun _ _ active => absurd active.symm (Option.some_ne_none _)
  case single => exact fun _ _ _ active => absurd active.symm (Option.some_ne_none _)
  case below => exact fun _ _ active => absurd active.symm (Option.some_ne_none _)
  case asked =>
    rw [idle.queued, idle.flying]
    exact fun _ none => absurd none List.not_mem_nil
  case open_ =>
    rw [idle.queued, idle.flying]
    exact fun _ none => absurd none List.not_mem_nil
  case told =>
    rw [idle.completions]
    exact fun _ none => absurd none List.not_mem_nil
  case once =>
    rw [unseen]
    exact fun _ _ _ none => absurd none List.not_mem_nil
  case served => exact fun _ none => absurd none (Nat.not_lt_zero _)
  case known =>
    rw [unseen]
    exact fun _ none => absurd none List.not_mem_nil
  case counted =>
    rw [empty]
    rfl
  case bounded => exact Nat.zero_le _
  case numbered => rfl
  case since => exact le_rfl
  case paged => exact List.length_replicate

/-- On idle rings a batch returns once each of its reads has, with their bytes, and
leaves the rings idle; it throws only while one of them has not. -/
theorem read_ends {sqEntries pageBytes queueDepth : Nat} (room : 0 < sqEntries)
    (buffered : 0 < queueDepth) (some_ : requests ≠ []) (idle : Idle ring) :
    Ends (read kernel sqEntries pageBytes requests queueDepth)
      (fun answer after => Idle after ∧ answer.1.length = requests.length ∧
        ∀ index < requests.length,
          Served (begun kernel requests pageBytes queueDepth ring) answer.1 index ∧
          Returned (begun kernel requests pageBytes queueDepth ring) after index)
      (fun _ after => Missing (begun kernel requests pageBytes queueDepth ring) after) ring := by
  unfold read
  rw [ends_bind, ends_ensure]
  refine ⟨fun _ => ?_, fun empty => absurd some_ empty⟩
  apply (@turn_windows_ends (begun kernel requests pageBytes queueDepth ring) _ ring sqEntries room buffered
    (requests.length + 1) (idle_begins idle pageBytes queueDepth) (Nat.lt_succ_self _)).chain
  rintro turned after ⟨⟨owns, -, -, -⟩, done⟩
  have counted := owns.counted
  have bounded := owns.bounded
  have empty : held after = [] := List.eq_nil_of_length_eq_zero (by omega)
  refine ⟨?_, owns.paged, ?_⟩
  · simp only [held, List.append_eq_nil_iff, List.map_eq_nil_iff] at empty
    exact ⟨empty.1.1, empty.1.2, empty.2⟩
  · intro index inside
    have all : index < turned.nextRequest := inside.trans_le (done.trans (by omega))
    rcases owns.served index all with ⟨place, active⟩ | served
    · have inside := owns.tracked place index active
      rw [empty] at inside
      exact absurd inside List.not_mem_nil
    · exact served

end Batch

section Jamming
variable {kernel : Kernel} {ring : Ring} {requests : List ReadRequest}

theorem Jammed.later (jammed : Jammed ring) {after : Ring}
    (kept : ring.completions ⊆ after.completions) : Jammed after := by
  obtain ⟨completion, member, failed⟩ := jammed
  exact ⟨completion, kept member, failed⟩

theorem jammed_fill {sqEntries pageBytes : Nat} (jammed : Jammed ring) (free : List Nat)
    (batch : Batch) :
    Ends (fill sqEntries pageBytes requests free batch) (fun _ after => Jammed after)
      (fun _ after => Jammed after) ring := by
  induction free generalizing batch ring with
  | nil => exact jammed
  | cons buffer rest ih =>
      rw [fill, ends_bind, ends_read]
      cases requests[batch.nextRequest]? with
      | none => exact jammed
      | some request =>
          dsimp only
          rw [ends_ite]
          constructor
          · intro room
            rw [ends_bind, ends_write]
            apply ih
            exact jammed.later (List.Subset.refl _)
          · intro _
            exact jammed

theorem jammed_submit (jammed : Jammed ring) (fuel left_ : Nat) :
    Ends (submitAll kernel fuel left_) (fun _ after => Jammed after) (fun _ after => Jammed after)
      ring := by
  induction fuel generalizing left_ ring with
  | zero => exact jammed
  | succ fuel ih =>
      have entered : Ends (enter kernel left_) (fun _ after => Jammed after)
          (fun _ after => Jammed after) ring := by
        unfold Ends enter
        dsimp only
        cases (kernel.turn ring.turns).answer with
        | failed what => exact jammed
        | took count =>
            apply jammed.later
            intro completion member
            exact (complete_all_keeps _ _).2 member
      rw [submitAll, ends_ite]
      refine ⟨fun _ => jammed, fun _ => ?_⟩
      apply entered.chain
      intro count after jammed
      rw [ends_bind, ends_ensure]
      exact ⟨fun _ => ih jammed _, fun _ => jammed⟩

theorem jammed_wait (jammed : Jammed ring) :
    Ends (waitCompletion kernel) (fun _ after => Jammed after) (fun _ after => Jammed after)
      ring := by
  unfold Ends waitCompletion
  obtain ⟨completion, member, failed⟩ := jammed
  rw [if_pos (List.ne_nil_of_mem member)]
  exact ⟨completion, member, failed⟩

theorem failed_not_taken {pageBytes : Nat} {buffers : Nat → Bytes} {completion : Cqe}
    {batch taken : Batch} (failed : completion.res < 0) :
    takeCompletion kernel pageBytes requests buffers completion batch ≠ .ok taken := by
  intro takes
  unfold takeCompletion at takes
  cases active : batch.active completion.userData with
  | none =>
      rw [active] at takes
      cases takes
  | some index =>
      rw [active] at takes
      dsimp only at takes
      cases asked : requests[index]? with
      | none =>
          rw [asked] at takes
          cases takes
      | some request =>
          rw [asked] at takes
          dsimp only at takes
          rw [if_pos failed] at takes
          cases takes

theorem jammed_take {pageBytes : Nat} (jammed : Jammed ring) (batch : Batch) :
    Ends (takeCompletions kernel pageBytes requests batch) (fun _ _ => False)
      (fun _ after => Jammed after) ring := by
  have stops : ∀ (completions : List Cqe) (batch taken : Batch),
      completions.foldlM (fun batch completion =>
        takeCompletion kernel pageBytes requests ring.buffers completion batch) batch = .ok taken →
      ∀ completion ∈ completions, ¬ completion.res < 0 := by
    intro completions
    induction completions with
    | nil => exact fun _ _ _ _ none => absurd none List.not_mem_nil
    | cons first rest ih =>
        intro batch taken takes completion member
        rw [List.foldlM_cons] at takes
        cases head : takeCompletion kernel pageBytes requests ring.buffers first batch with
        | error fault =>
            rw [head] at takes
            cases takes
        | ok next =>
            rw [head] at takes
            rcases List.mem_cons.mp member with rfl | later
            · exact fun failed => failed_not_taken failed head
            · exact ih next taken takes completion later
  unfold Ends takeCompletions
  split
  · exact jammed
  · next taken takes =>
      obtain ⟨completion, member, failed⟩ := jammed
      exact stops _ _ _ takes completion member failed

/-- On jammed rings no batch returns. -/
theorem read_jammed {sqEntries pageBytes queueDepth : Nat} (jammed : Jammed ring) :
    Ends (read kernel sqEntries pageBytes requests queueDepth) (fun _ _ => False)
      (fun _ after => Jammed after) ring := by
  have turned (batch : Batch) : Ends (turnWindow kernel sqEntries pageBytes requests batch)
      (fun _ _ => False) (fun _ after => Jammed after) ring := by
    apply (jammed_fill jammed _ _).chain
    intro filled after jammed
    apply (jammed_submit jammed _ _).chain
    intro _ after jammed
    rw [ends_bind, ends_ensure]
    refine ⟨fun _ => ?_, fun _ => jammed⟩
    apply (jammed_wait jammed).chain
    intro _ after jammed
    exact jammed_take jammed _
  unfold read
  rw [ends_bind, ends_ensure]
  refine ⟨fun some_ => ?_, fun _ => jammed⟩
  rw [turnWindows, if_pos (List.length_pos_of_ne_nil some_), ends_bind, ends_bind]
  exact (turned _).weaken (fun _ _ impossible => impossible.elim) fun _ _ jammed => jammed

end Jamming

end Q38.IoUring
