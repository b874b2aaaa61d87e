import Q38Runtime.PleStore

/-! What the page cache hands out is what the files hold. An extent is cut into pieces
of pages; a resident page holds the bytes its key names, so a piece copied from it,
now or after the batch of reads, is a piece of its file. -/
namespace Q38.PleStore
open Contracts Imperative IoUring PageCache

section Pieces
variable {pageBytes : Nat}

theorem page_start_eq {exponent absolute : Nat} (power : pageBytes = 2 ^ exponent)
    (small : pageBytes < 2 ^ 32) (inside : absolute < 2 ^ 64) :
    pageStart pageBytes absolute = absolute / pageBytes * pageBytes := by
  have fits : pageBytes - 1 < 2 ^ 64 := by omega
  unfold pageStart
  rw [UInt64.toNat_and, UInt64.toNat_not, UInt64.toNat_ofNat_of_lt' inside,
    UInt64.toNat_ofNat_of_lt' fits]
  apply Nat.eq_of_testBit_eq
  intro bit
  have mask : (UInt64.size - 1 - (pageBytes - 1)).testBit bit =
      (decide (bit < 64) && !decide (bit < exponent)) := by
    have form : UInt64.size - 1 - (pageBytes - 1) = 2 ^ 64 - (pageBytes - 1 + 1) := by
      change 18446744073709551616 - 1 - (pageBytes - 1) = 18446744073709551616 - (pageBytes - 1 + 1)
      omega
    rw [form, Nat.testBit_two_pow_sub_succ fits, power, Nat.testBit_two_pow_sub_one]
  rw [Nat.testBit_and, mask, power, ← Nat.shiftRight_eq_div_pow, ← Nat.shiftLeft_eq,
    Nat.testBit_shiftLeft, Nat.testBit_shiftRight]
  by_cases low : bit < exponent
  · simp [low, Nat.not_le_of_lt low]
  · have high : exponent ≤ bit := Nat.le_of_not_lt low
    by_cases wide : bit < 64
    · simp [wide, low, high]
    · have none : absolute.testBit bit = false :=
        Nat.testBit_lt_two_pow (inside.trans_le (Nat.pow_le_pow_right (by omega) (by omega)))
      simp [wide, high, none]

/-- Where a piece lies in its extent, and how it lies in its page. -/
structure Cut (pageBytes : Nat) (extent : PleReadExtentV1) (piece : Piece) : Prop where
  fileIndex : piece.fileIndex = extent.fileIndex
  aligned : piece.pageOffset = piece.pageOffset / pageBytes * pageBytes
  within : piece.inPage + piece.take ≤ pageBytes
  positive : 0 < piece.take
  place : ∃ copied, copied + piece.take ≤ extent.bytes ∧
    piece.outputOffset = extent.outputOffset + copied ∧
    piece.pageOffset + piece.inPage = extent.offset + copied

theorem pieces_cut {exponent : Nat} {extent : PleReadExtentV1} (power : pageBytes = 2 ^ exponent)
    (small : pageBytes < 2 ^ 32) (inside : extent.offset + extent.bytes < 2 ^ 64) (fuel copied : Nat)
    {piece : Piece} (member : piece ∈ piecesFrom pageBytes extent fuel copied) :
    Cut pageBytes extent piece := by
  have positive : 0 < pageBytes := power ▸ Nat.two_pow_pos exponent
  induction fuel generalizing copied with
  | zero => cases member
  | succ fuel ih =>
      rw [piecesFrom] at member
      split at member
      · next more =>
          dsimp only at member
          rw [page_start_eq power small (by omega)] at member
          rcases List.mem_cons.mp member with rfl | later
          · have below : (extent.offset + copied) / pageBytes * pageBytes ≤ extent.offset + copied :=
              Nat.div_mul_le_self _ _
            have above := Nat.lt_div_mul_add (a := extent.offset + copied) positive
            constructor
            · rfl
            · rw [Nat.mul_div_cancel _ positive]
            · dsimp only
              omega
            · dsimp only
              omega
            · exact ⟨copied, by dsimp only; omega, rfl, by dsimp only; omega⟩
          · exact ih _ later
      · cases member

/-- The pieces of an extent cover it. -/
theorem pieces_cover {exponent : Nat} {extent : PleReadExtentV1} (power : pageBytes = 2 ^ exponent)
    (small : pageBytes < 2 ^ 32) (inside : extent.offset + extent.bytes < 2 ^ 64)
    (fuel copied : Nat) (enough : extent.bytes ≤ fuel + copied) {index : Nat} (from_ : copied ≤ index)
    (until_ : index < extent.bytes) :
    ∃ piece ∈ piecesFrom pageBytes extent fuel copied,
      piece.outputOffset ≤ extent.outputOffset + index ∧
        extent.outputOffset + index < piece.outputOffset + piece.take := by
  have positive : 0 < pageBytes := power ▸ Nat.two_pow_pos exponent
  induction fuel generalizing copied with
  | zero => omega
  | succ fuel ih =>
      have more : copied < extent.bytes := by omega
      rw [piecesFrom, if_pos more]
      dsimp only
      rw [page_start_eq power small (by omega)]
      have below : (extent.offset + copied) / pageBytes * pageBytes ≤ extent.offset + copied :=
        Nat.div_mul_le_self _ _
      have above := Nat.lt_div_mul_add (a := extent.offset + copied) positive
      generalize takeEq : min (extent.bytes - copied)
        (pageBytes - (extent.offset + copied - (extent.offset + copied) / pageBytes * pageBytes)) =
        take
      by_cases here : index < copied + take
      · exact ⟨_, List.mem_cons_self, by dsimp only; omega, by dsimp only; omega⟩
      · obtain ⟨piece, member, covers⟩ := ih (copied + take) (by omega) (by omega)
        exact ⟨piece, List.mem_cons_of_mem _ member, covers⟩

theorem key_parts {piece : Piece} (low : piece.pageOffset / pageBytes < 2 ^ 56) :
    pageKey pageBytes piece / 2 ^ 56 = piece.fileIndex ∧
      pageKey pageBytes piece % 2 ^ 56 = piece.pageOffset / pageBytes := by
  rw [pageKey, ← Nat.shiftLeft_add_eq_or_of_lt low, Nat.shiftLeft_eq]
  constructor
  · rw [Nat.mul_comm, Nat.mul_add_div (by decide), Nat.div_eq_of_lt low, Nat.add_zero]
  · rw [Nat.mul_comm, Nat.mul_add_mod, Nat.mod_eq_of_lt low]

end Pieces

section Outputs

theorem overwrite_length {output bytes : Bytes} {offset : Nat}
    (inside : offset + bytes.length ≤ output.length) :
    (overwrite output offset bytes).length = output.length := by
  simp only [overwrite, List.length_append, List.length_take, List.length_drop]
  omega

theorem overwrite_inside {output bytes : Bytes} {offset index : Nat}
    (inside : offset + bytes.length ≤ output.length) (hit : index < bytes.length) :
    (overwrite output offset bytes)[offset + index]? = bytes[index]? := by
  have front : (output.take offset).length = offset := by
    rw [List.length_take]
    omega
  rw [overwrite, List.append_assoc, List.getElem?_append_right (by omega), front,
    Nat.add_sub_cancel_left, List.getElem?_append_left hit]

theorem overwrite_outside {output bytes : Bytes} {offset place : Nat}
    (inside : offset + bytes.length ≤ output.length)
    (miss : place < offset ∨ offset + bytes.length ≤ place) :
    (overwrite output offset bytes)[place]? = output[place]? := by
  have front : (output.take offset).length = offset := by
    rw [List.length_take]
    omega
  rcases miss with before | behind
  · rw [overwrite, List.append_assoc, List.getElem?_append_left (by omega),
      List.getElem?_take_of_lt before]
  · rw [overwrite, List.getElem?_append_right (by rw [List.length_append]; omega),
      List.getElem?_drop, List.length_append, front]
    congr 1
    omega

variable {target : Nat → Option UInt8}

/-- A write of the right bytes leaves right what was right, and makes right what it covers. -/
theorem overwrite_right {output bytes : Bytes} {offset : Nat}
    (inside : offset + bytes.length ≤ output.length)
    (right : ∀ index < bytes.length, bytes[index]? = target (offset + index)) {place : Nat}
    (before : offset ≤ place ∧ place < offset + bytes.length ∨ output[place]? = target place) :
    (overwrite output offset bytes)[place]? = target place := by
  by_cases hit : offset ≤ place ∧ place < offset + bytes.length
  · obtain ⟨index, rfl⟩ := Nat.exists_eq_add_of_le hit.1
    have short : index < bytes.length := by omega
    rw [overwrite_inside inside short, right index short]
  · rw [overwrite_outside inside (by omega)]
    exact before.resolve_left hit

end Outputs

section Plan
variable (setup : Setup) (pageBytes : Nat) (target : Nat → Option UInt8)

/-- A page holds the bytes of its file that its key names. -/
def HoldsPage (key : Nat) (page : Bytes) : Prop :=
  ∀ size, fileSize setup.layout (key / 2 ^ 56) = .ok size →
    Mirrors page (setup.provider.kernel.files (key / 2 ^ 56)) (key % 2 ^ 56 * pageBytes)
      (min (size - key % 2 ^ 56 * pageBytes) pageBytes)

/-- A piece that lies in its file, in a page of its key space, with the output it is for. -/
structure Aimed (outputBytes : Nat) (piece : Piece) : Prop where
  low : piece.pageOffset / pageBytes < 2 ^ 56
  aligned : piece.pageOffset = piece.pageOffset / pageBytes * pageBytes
  within : piece.inPage + piece.take ≤ pageBytes
  inside : ∃ size, fileSize setup.layout piece.fileIndex = .ok size ∧
    piece.pageOffset + piece.inPage + piece.take ≤ size
  room : piece.outputOffset + piece.take ≤ outputBytes
  target : ∀ index < piece.take, target (piece.outputOffset + index) =
    (setup.provider.kernel.files piece.fileIndex)[piece.pageOffset + piece.inPage + index]?

/-- The output holds the piece, and the file goes as far. -/
def Served (output : Bytes) (piece : Piece) : Prop :=
  ∀ index < piece.take, output[piece.outputOffset + index]? = target (piece.outputOffset + index) ∧
    piece.pageOffset + piece.inPage + index <
      (setup.provider.kernel.files piece.fileIndex).length

/-- A load asks for the page its key names. -/
structure Loads (load : PageLoad) : Prop where
  fileIndex : load.key / 2 ^ 56 = load.fileIndex
  pageOffset : load.key % 2 ^ 56 * pageBytes = load.pageOffset
  physical : ∃ size, fileSize setup.layout load.fileIndex = .ok size ∧
    load.physicalBytes = min (size - load.pageOffset) pageBytes

/-- A copy is put off for this piece. -/
def Defers (loads : List PageLoad) (copy : PendingCopy) (piece : Piece) : Prop :=
  copy.outputOffset = piece.outputOffset ∧ copy.bytes = piece.take ∧ copy.inPage = piece.inPage ∧
    ∃ load, loads[copy.load]? = some load ∧ load.fileIndex = piece.fileIndex ∧
      load.pageOffset = piece.pageOffset

/-- The first pass has come past `done`. -/
structure Planned (outputBytes : Nat) (done : List Piece) (plan : Plan) : Prop where
  sound : Sound (HoldsPage setup pageBytes) plan.cache
  page : plan.cache.pageBytes = pageBytes
  length : plan.output.length = outputBytes
  loads : ∀ load ∈ plan.loads, Loads setup pageBytes load
  pending : ∀ copy ∈ plan.pending, ∃ piece, Aimed setup pageBytes target outputBytes piece ∧
    Defers plan.loads copy piece
  served : ∀ piece ∈ done, Served setup target plan.output piece ∨
    ∃ copy ∈ plan.pending, Defers plan.loads copy piece

variable {setup pageBytes target} {outputBytes : Nat} {piece : Piece}

/-- The bytes of a piece, from a page that holds them. -/
theorem piece_right {page : Bytes} (aimed : Aimed setup pageBytes target outputBytes piece)
    {count : Nat} (mirrors : Mirrors page (setup.provider.kernel.files piece.fileIndex)
      piece.pageOffset count) (enough : piece.inPage + piece.take ≤ count) :
    ((page.drop piece.inPage).take piece.take).length = piece.take ∧
      (∀ index < piece.take, ((page.drop piece.inPage).take piece.take)[index]? =
        target (piece.outputOffset + index)) ∧
      ∀ index < piece.take, piece.pageOffset + piece.inPage + index <
        (setup.provider.kernel.files piece.fileIndex).length := by
  have bytes (index : Nat) (inside : index < piece.take) := mirrors (piece.inPage + index) (by omega)
  refine ⟨?_, ?_, ?_⟩
  · rw [List.length_take, List.length_drop]
    by_cases none : piece.take = 0
    · omega
    · have last := mirrors.covered (show piece.inPage + piece.take - 1 < count by omega)
      omega
  · intro index inside
    rw [List.getElem?_take_of_lt inside, List.getElem?_drop, (bytes index inside).2,
      aimed.target index inside, Nat.add_assoc]
  · intro index inside
    have := (bytes index inside).1
    omega

/-- Copying a piece from a page that holds it serves the piece, and keeps what was served. -/
theorem copied_served {page output : Bytes}
    (aimed : Aimed setup pageBytes target outputBytes piece) {count : Nat}
    (mirrors : Mirrors page (setup.provider.kernel.files piece.fileIndex) piece.pageOffset count)
    (enough : piece.inPage + piece.take ≤ count) (length : output.length = outputBytes) :
    let copied := overwrite output piece.outputOffset ((page.drop piece.inPage).take piece.take)
    copied.length = outputBytes ∧ Served setup target copied piece ∧
      ∀ other, Served setup target output other → Served setup target copied other := by
  obtain ⟨size, right, inFile⟩ := piece_right aimed mirrors enough
  have room := aimed.room
  have inside : piece.outputOffset + ((page.drop piece.inPage).take piece.take).length ≤
      output.length := by
    rw [size, length]
    exact room
  have rightBytes : ∀ index < ((page.drop piece.inPage).take piece.take).length,
      ((page.drop piece.inPage).take piece.take)[index]? = target (piece.outputOffset + index) := by
    rw [size]
    exact right
  refine ⟨(overwrite_length inside).trans length, ?_, ?_⟩
  · intro index short
    refine ⟨overwrite_right inside rightBytes (Or.inl ?_), inFile index short⟩
    rw [size]
    omega
  · intro other served index short
    obtain ⟨was, inFile⟩ := served index short
    exact ⟨overwrite_right inside rightBytes (Or.inr was), inFile⟩

theorem Aimed.holds (aimed : Aimed setup pageBytes target outputBytes piece) {page : Bytes}
    (holds : HoldsPage setup pageBytes (pageKey pageBytes piece) page) :
    ∃ count, Mirrors page (setup.provider.kernel.files piece.fileIndex) piece.pageOffset count ∧
      piece.inPage + piece.take ≤ count := by
  obtain ⟨file, number⟩ := key_parts aimed.low
  obtain ⟨size, known, inside⟩ := aimed.inside
  have mirrors := holds size (by rw [file, known])
  rw [file, number, ← aimed.aligned] at mirrors
  have within := aimed.within
  exact ⟨_, mirrors, by omega⟩

/-- What a pass that throws leaves of the cache. -/
structure Resident (setup : Setup) (pageBytes : Nat) (cache : Cache) : Prop where
  sound : Sound (HoldsPage setup pageBytes) cache
  page : cache.pageBytes = pageBytes

theorem defers_grow {loads : List PageLoad} {copy : PendingCopy} (defers : Defers loads copy piece)
    (more : List PageLoad) : Defers (loads ++ more) copy piece := by
  obtain ⟨place, bytes, inPage, load, found, rest⟩ := defers
  have short := (List.getElem?_eq_some_iff.mp found).1
  exact ⟨place, bytes, inPage, load, (List.getElem?_append_left short).trans found, rest⟩

/-- A piece that is put off, for a load that is there or is made for it. -/
theorem planned_pending {done : List Piece} {plan : Plan} (load : Nat) (more : List PageLoad)
    (planned : Planned setup pageBytes target outputBytes done plan)
    (aimed : Aimed setup pageBytes target outputBytes piece)
    (loads : ∀ load ∈ more, Loads setup pageBytes load)
    (defers : Defers (plan.loads ++ more) ⟨load, piece.inPage, piece.outputOffset, piece.take⟩
      piece) :
    Planned setup pageBytes target outputBytes (done ++ [piece]) { plan with
      loads := plan.loads ++ more
      pending := plan.pending ++ [⟨load, piece.inPage, piece.outputOffset, piece.take⟩] } := by
  constructor
  · exact planned.sound
  · exact planned.page
  · exact planned.length
  · intro load member
    rcases List.mem_append.mp member with before | new
    · exact planned.loads load before
    · exact loads load new
  · intro copy member
    rcases List.mem_append.mp member with before | new
    · obtain ⟨other, aimed, defers⟩ := planned.pending copy before
      exact ⟨other, aimed, defers_grow defers more⟩
    · obtain rfl := List.mem_singleton.mp new
      exact ⟨piece, aimed, defers⟩
  · intro other member
    rcases List.mem_append.mp member with before | new
    · rcases planned.served other before with served | ⟨copy, pending, defers⟩
      · exact Or.inl served
      · exact Or.inr ⟨copy, List.mem_append_left _ pending, defers_grow defers more⟩
    · obtain rfl := List.mem_singleton.mp new
      exact Or.inr ⟨_, List.mem_append_right _ List.mem_cons_self, defers⟩

theorem plan_load_ends {done : List Piece} {plan : Plan}
    (planned : Planned setup pageBytes target outputBytes done plan)
    (aimed : Aimed setup pageBytes target outputBytes piece) :
    Ends (planLoad setup piece (pageKey pageBytes piece))
      (fun _ after => Planned setup pageBytes target outputBytes (done ++ [piece]) after)
      (fun _ after => Resident setup pageBytes after.cache) plan := by
  obtain ⟨size, known, inside⟩ := aimed.inside
  obtain ⟨file, number⟩ := key_parts aimed.low
  unfold planLoad
  rw [ends_bind, ends_read]
  dsimp only [id]
  cases queued : plan.loads.findIdx? (·.key = pageKey pageBytes piece) with
  | some index =>
      rw [ends_write]
      obtain ⟨short, same, -⟩ := List.findIdx?_eq_some_iff_getElem.mp queued
      have loads := planned.loads _ (List.getElem_mem short)
      rw [decide_eq_true_eq] at same
      have kept := planned_pending index [] planned aimed
        (fun _ none => absurd none List.not_mem_nil)
        ⟨rfl, rfl, rfl, plan.loads[index], by
          rw [List.append_nil, List.getElem?_eq_getElem short], by
          rw [← loads.fileIndex, same, file], by
          rw [← loads.pageOffset, same, number, ← aimed.aligned]⟩
      rwa [List.append_nil] at kept
  | none =>
      rw [ends_bind, ends_settle]
      refine ⟨fun value sized => ?_, fun fault failed => ?_⟩
      · obtain rfl := Except.ok.inj (known.symm.trans sized)
        rw [ends_write, planned.page]
        apply planned_pending _ _ planned aimed
        · intro load member
          obtain rfl := List.mem_singleton.mp member
          exact ⟨file, by rw [number, ← aimed.aligned], size, known, rfl⟩
        · exact ⟨rfl, rfl, rfl, _, List.getElem?_concat_length, rfl, rfl⟩
      · rw [known] at failed
        cases failed

theorem plan_piece_ends {done : List Piece} {plan : Plan}
    (planned : Planned setup pageBytes target outputBytes done plan)
    (aimed : Aimed setup pageBytes target outputBytes piece) :
    Ends (planPiece setup piece)
      (fun _ after => Planned setup pageBytes target outputBytes (done ++ [piece]) after)
      (fun _ after => Resident setup pageBytes after.cache) plan := by
  unfold planPiece
  rw [ends_bind, ends_ensure]
  refine ⟨fun _ => ?_, fun _ => ⟨planned.sound, planned.page⟩⟩
  rw [ends_bind, ends_read]
  dsimp only [id]
  rw [planned.page]
  cases found : plan.cache.find (pageKey pageBytes piece) with
  | none => exact plan_load_ends planned aimed
  | some entry =>
      rw [ends_write]
      obtain ⟨count, mirrors, enough⟩ := aimed.holds (planned.sound.found found)
      obtain ⟨length, now, kept⟩ := copied_served aimed mirrors enough planned.length
      refine ⟨sound_touch planned.sound entry, planned.page, length, planned.loads,
        planned.pending, ?_⟩
      intro other member
      rcases List.mem_append.mp member with before | new
      · exact (planned.served other before).imp_left (kept other)
      · obtain rfl := List.mem_singleton.mp new
        exact Or.inl now

theorem plan_pieces_ends (pieces : List Piece) {done : List Piece} {plan : Plan}
    (planned : Planned setup pageBytes target outputBytes done plan)
    (aimed : ∀ piece ∈ pieces, Aimed setup pageBytes target outputBytes piece) :
    Ends (planPieces setup pieces)
      (fun _ after => Planned setup pageBytes target outputBytes (done ++ pieces) after)
      (fun _ after => Resident setup pageBytes after.cache) plan := by
  induction pieces generalizing done plan with
  | nil =>
      rw [List.append_nil]
      exact planned
  | cons piece rest ih =>
      apply (plan_piece_ends planned (aimed piece List.mem_cons_self)).chain
      intro _ after planned
      have later := ih planned fun other member => aimed other (List.mem_cons_of_mem _ member)
      rwa [List.append_assoc] at later

end Plan

section Pages
variable {setup : Setup} {store : Store}

/-- Reading changes neither the cache nor the provider's rings. -/
structure Untouched (store after : Store) : Prop where
  cache : after.cache = store.cache
  ring : after.ring = store.ring

theorem Untouched.trans {store middle after : Store} (first : Untouched store middle)
    (second : Untouched middle after) : Untouched store after :=
  ⟨second.cache.trans first.cache, second.ring.trans first.ring⟩

theorem mirrors_append {front back file : Bytes} {offset : Nat}
    (first : Mirrors front file offset front.length)
    (second : Mirrors back file (offset + front.length) back.length) :
    Mirrors (front ++ back) file offset (front ++ back).length := by
  intro index inside
  rw [List.length_append] at inside
  by_cases short : index < front.length
  · rw [List.getElem?_append_left short]
    exact first index short
  · rw [List.getElem?_append_right (Nat.le_of_not_lt short)]
    have later := second (index - front.length) (by omega)
    have place : offset + front.length + (index - front.length) = offset + index := by omega
    rwa [place] at later

theorem pread_loop_ends (failure : String) {fileIndex size offset : Nat} (fuel : Nat) (done : Bytes)
    (mirrors : Mirrors done (setup.provider.kernel.files fileIndex) offset done.length)
    (within : done.length ≤ size) (enough : size ≤ done.length + fuel) :
    Ends (preadLoop setup failure fileIndex size offset fuel done)
      (fun bytes after => Untouched store after ∧ bytes.length = size ∧
        Mirrors bytes (setup.provider.kernel.files fileIndex) offset size)
      (fun _ after => Untouched store after) store := by
  induction fuel generalizing done store with
  | zero =>
      have all : done.length = size := by omega
      exact ⟨⟨rfl, rfl⟩, all, all ▸ mirrors⟩
  | succ fuel ih =>
      rw [preadLoop, ends_ite]
      constructor
      · intro short
        unfold pread
        rw [ends_bind, ends_bind, ends_read, ends_bind, ends_write]
        dsimp only
        rw [ends_bind, ends_ensure]
        refine ⟨fun progress => ?_, fun _ => ⟨rfl, rfl⟩⟩
        rw [ends_pure]
        have taken := mirrors_taken (setup.provider.kernel.files fileIndex) []
          (offset + done.length) (min (setup.pread store.preads).count.toNat (size - done.length))
        have some_ := List.length_pos_of_ne_nil progress.2
        have bounded := List.length_take_le
          (min (setup.pread store.preads).count.toNat (size - done.length))
          ((setup.provider.kernel.files fileIndex).drop (offset + done.length))
        rw [List.append_nil] at taken
        apply (ih _ (mirrors_append mirrors taken) (by rw [List.length_append]; omega)
          (by rw [List.length_append]; omega)).weaken
        · rintro bytes after ⟨same, rest⟩
          exact ⟨⟨same.cache, same.ring⟩, rest⟩
        · exact fun _ after same => ⟨same.cache, same.ring⟩
      · intro full
        have all : done.length = size := by omega
        exact ⟨⟨rfl, rfl⟩, all, all ▸ mirrors⟩

theorem pread_all_ends (failure : String) (fileIndex size offset : Nat) :
    Ends (preadAll setup failure fileIndex size offset)
      (fun bytes after => Untouched store after ∧ bytes.length = size ∧
        Mirrors bytes (setup.provider.kernel.files fileIndex) offset size)
      (fun _ after => Untouched store after) store := by
  unfold preadAll
  rw [ends_bind, ends_ensure]
  refine ⟨fun _ => ?_, fun _ => ⟨rfl, rfl⟩⟩
  exact pread_loop_ends failure size [] (fun _ none => absurd none (Nat.not_lt_zero _))
    (Nat.zero_le _) (Nat.le_add_left _ _)

/-- A page for every load, with the bytes it asks for. -/
structure Paged (setup : Setup) (loads : List PageLoad) (pages : List Bytes) : Prop where
  length : pages.length = loads.length
  holds : ∀ (index : Nat) (load : PageLoad) (page : Bytes), loads[index]? = some load → pages[index]? = some page →
    Mirrors page (setup.provider.kernel.files load.fileIndex) load.pageOffset load.physicalBytes

theorem read_buffered_ends (pageBytes : Nat) (loads : List PageLoad) :
    Ends (readBuffered setup pageBytes loads)
      (fun pages after => Untouched store after ∧ Paged setup loads pages)
      (fun _ after => Untouched store after) store := by
  induction loads generalizing store with
  | nil =>
      exact ⟨⟨rfl, rfl⟩, rfl, fun _ _ _ none => absurd none.symm (Option.some_ne_none _)⟩
  | cons load rest ih =>
      rw [readBuffered, ends_bind]
      apply (pread_all_ends _ _ _ _).weaken _ fun _ _ same => same
      rintro bytes middle ⟨same, length, mirrors⟩
      rw [ends_bind]
      apply ih.weaken
      · rintro pages after ⟨later, paged⟩
        refine ⟨same.trans later, congrArg (· + 1) paged.length, ?_⟩
        intro index other page asked read
        cases index with
        | zero =>
            obtain rfl := Option.some.inj asked
            obtain rfl := Option.some.inj read
            have copied := mirrors.copied (List.replicate (pageBytes - bytes.length) 0)
            rw [List.take_of_length_le length.le] at copied
            exact copied
        | succ index => exact paged.holds index other page asked read
      · exact fun _ after later => same.trans later

/-- The rings hold nothing, or a failed completion that no batch gets past. -/
def Clear (store : Store) : Prop := ∀ ring, store.ring = some ring → Idle ring ∨ Jammed ring

theorem read_pages_ends (clear : Clear store) (pageBytes : Nat) {loads : List PageLoad}
    (some_ : loads ≠ []) :
    Ends (readPages setup pageBytes loads)
      (fun pages after => after.cache = store.cache ∧ Paged setup loads pages)
      (fun _ after => after.cache = store.cache) store := by
  unfold readPages
  rw [ends_bind, ends_read]
  cases provider : store.ring with
  | none =>
      apply (read_buffered_ends pageBytes loads).weaken
      · exact fun pages after ended => ⟨ended.1.cache, ended.2⟩
      · exact fun _ after ended => ended.cache
  | some ring =>
      dsimp only
      rw [ends_bind, ends_ensure]
      refine ⟨fun _ => ?_, fun _ => rfl⟩
      rw [ends_bind, ends_within]
      have asked : directRequests loads ≠ [] := by
        rw [directRequests, ne_eq, List.map_eq_nil_iff]
        exact some_
      have kept : Ends (setup.provider.batch (directRequests loads))
          (fun answer _ => Paged setup loads answer.1) (fun _ _ => True) ring := by
        rcases clear ring provider with idle | jammed
        · apply (Provider.batch_ends asked idle).weaken _ fun _ _ _ => trivial
          rintro answer after ⟨-, length, all⟩
          rw [directRequests, List.length_map] at length all
          refine ⟨length, ?_⟩
          intro index load page known read
          have inside := (List.getElem?_eq_some_iff.mp known).1
          obtain ⟨⟨request, page', asked, found, mirrors⟩, -⟩ := all index inside
          change (directRequests loads)[index]? = some request at asked
          rw [directRequests, List.getElem?_map, known] at asked
          obtain rfl := Option.some.inj asked
          obtain rfl := Option.some.inj (read.symm.trans found)
          exact mirrors
        · exact (read_jammed jammed).weaken (fun _ _ impossible => impossible.elim)
            fun _ _ _ => trivial
      exact kept.weaken (fun answer _ paged => ⟨rfl, paged⟩) fun _ _ _ => rfl

end Pages

section Extents
variable {setup : Setup} {pageBytes outputBytes : Nat} {target : Nat → Option UInt8}

theorem defers_unique {loads : List PageLoad} {copy : PendingCopy} {piece other : Piece}
    (defers : Defers loads copy piece) (also : Defers loads copy other) : piece = other := by
  obtain ⟨place, bytes, inPage, load, found, file, offset⟩ := defers
  obtain ⟨place', bytes', inPage', load', found', file', offset'⟩ := also
  obtain rfl := Option.some.inj (found.symm.trans found')
  cases piece
  cases other
  simp only [Piece.mk.injEq]
  exact ⟨file.symm.trans file', offset.symm.trans offset', inPage.symm.trans inPage',
    bytes.symm.trans bytes', place.symm.trans place'⟩

theorem copy_pending_served {loads : List PageLoad} {pages : List Bytes}
    (paged : Paged setup loads pages) (loaded : ∀ load ∈ loads, Loads setup pageBytes load)
    (pending : List PendingCopy) {output : Bytes} (length : output.length = outputBytes)
    (aimed : ∀ copy ∈ pending, ∃ piece, Aimed setup pageBytes target outputBytes piece ∧
      Defers loads copy piece) :
    (copyPending pages pending output).length = outputBytes ∧
      (∀ piece, Served setup target output piece →
        Served setup target (copyPending pages pending output) piece) ∧
      ∀ copy ∈ pending, ∀ piece, Defers loads copy piece →
        Served setup target (copyPending pages pending output) piece := by
  induction pending generalizing output with
  | nil => exact ⟨length, fun _ served => served, fun _ none => absurd none List.not_mem_nil⟩
  | cons copy rest ih =>
      obtain ⟨piece, pieceAimed, defers⟩ := aimed copy List.mem_cons_self
      obtain ⟨place, bytes, inPage, load, found, file, offset⟩ := id defers
      have short := (List.getElem?_eq_some_iff.mp found).1
      obtain ⟨size, known, physical⟩ := (loaded load (List.mem_of_getElem? found)).physical
      obtain ⟨size', known', inside⟩ := pieceAimed.inside
      have sizes : size = size' := Except.ok.inj (known.symm.trans (file ▸ known'))
      have within := pieceAimed.within
      have read : pages[copy.load]? = some (pages.getD copy.load []) := by
        rw [List.getD_eq_getElem?_getD, List.getElem?_eq_getElem (paged.length ▸ short)]
        rfl
      have mirrors := paged.holds _ _ _ found read
      rw [file, offset] at mirrors
      obtain ⟨grown, now, kept⟩ := copied_served pieceAimed mirrors
        (by rw [physical, sizes, offset]; omega) length
      have step : copyPending pages (copy :: rest) output = copyPending pages rest
          (overwrite output piece.outputOffset
            (((pages.getD copy.load []).drop piece.inPage).take piece.take)) := by
        rw [copyPending, List.foldl_cons, place, bytes, inPage]
        rfl
      rw [step]
      obtain ⟨final, keeps, serves⟩ := ih grown
        fun other member => aimed other (List.mem_cons_of_mem _ member)
      refine ⟨final, fun other served => keeps other (kept other served), ?_⟩
      intro other member piece' defers'
      rcases List.mem_cons.mp member with rfl | later
      · obtain rfl := defers_unique defers defers'
        exact keeps piece now
      · exact serves other later piece' defers'

theorem zip_holds {loads : List PageLoad} {pages : List Bytes} (paged : Paged setup loads pages)
    (loaded : ∀ load ∈ loads, Loads setup pageBytes load) :
    ∀ pair ∈ (loads.map (·.key)).zip pages, HoldsPage setup pageBytes pair.1 pair.2 := by
  rintro ⟨key, page⟩ member
  obtain ⟨index, read⟩ := List.mem_iff_getElem?.mp member
  rw [List.getElem?_zip_eq_some, List.getElem?_map, Option.map_eq_some_iff] at read
  obtain ⟨⟨load, found, rfl⟩, read⟩ := read
  obtain ⟨file, offset, size, known, physical⟩ := loaded load (List.mem_of_getElem? found)
  intro size' known'
  rw [file] at known' ⊢
  rw [offset]
  obtain rfl := Except.ok.inj (known.symm.trans known')
  rw [← physical]
  exact paged.holds _ _ _ found read

/-- The cache of the store, if there is one, holds the bytes of the files. -/
def Standing (setup : Setup) (pageBytes : Nat) (store : Store) : Prop :=
  ∀ cache, store.cache = some cache → Resident setup pageBytes cache

theorem finish_plan_ends {store : Store} {pieces : List Piece} {plan : Plan}
    (clear : Clear store) (planned : Planned setup pageBytes target outputBytes pieces plan)
    (stored : store.cache = some plan.cache) :
    Ends (finishPlan setup plan)
      (fun output after => Standing setup pageBytes after ∧ output.length = outputBytes ∧
        ∀ piece ∈ pieces, Served setup target output piece)
      (fun _ after => Standing setup pageBytes after) store := by
  have standing {after : Store} (same : after.cache = store.cache) :
      Standing setup pageBytes after := by
    intro cache found
    obtain rfl := Option.some.inj (stored.symm.trans (same.symm.trans found))
    exact ⟨planned.sound, planned.page⟩
  unfold finishPlan
  rw [ends_ite]
  constructor
  · intro none
    refine ⟨standing rfl, planned.length, ?_⟩
    intro piece member
    rcases planned.served piece member with served | ⟨copy, -, -, -, -, load, found, -⟩
    · exact served
    · rw [none] at found
      cases found
  · intro some_
    rw [ends_bind, ends_ensure]
    refine ⟨fun _ => ?_, fun _ => standing rfl⟩
    rw [ends_bind]
    apply (read_pages_ends clear _ some_).weaken
    · rintro pages middle ⟨same, paged⟩
      rw [ends_bind, ends_within]
      have kept : Ends (insertPages ((plan.loads.map (·.key)).zip pages))
          (fun _ cache => Resident setup pageBytes cache)
          (fun _ cache => Resident setup pageBytes cache) plan.cache := by
        have pages := insert_pages_page ((plan.loads.map (·.key)).zip pages) plan.cache
        apply ((insert_pages_ends _ planned.sound (zip_holds paged planned.loads)).both pages).weaken
        · exact fun _ cache ended => ⟨ended.1, ended.2.trans planned.page⟩
        · exact fun _ cache ended => ⟨ended.1, ended.2.trans planned.page⟩
      apply kept.weaken
      · intro _ cache resident
        obtain ⟨length, keeps, serves⟩ := copy_pending_served paged planned.loads plan.pending
          planned.length planned.pending
        refine ⟨?_, length, ?_⟩
        · rintro _ ⟨⟩
          exact resident
        · intro piece member
          rcases planned.served piece member with served | ⟨copy, pending, defers⟩
          · exact keeps piece served
          · exact serves copy pending piece defers
      · rintro _ cache resident _ ⟨⟩
        exact resident
    · exact fun _ after same => standing same

/-- An extent that was checked, in the key space, with the output it is for. -/
structure Fitting (setup : Setup) (pageBytes outputBytes : Nat) (target : Nat → Option UInt8)
    (extent : PleReadExtentV1) : Prop where
  room : extent.outputOffset + extent.bytes ≤ outputBytes
  inside : ∃ size, fileSize setup.layout extent.fileIndex = .ok size ∧
    extent.offset + extent.bytes ≤ size ∧ size < 2 ^ 64
  low : extent.offset + extent.bytes ≤ 2 ^ 56 * pageBytes
  target : ∀ index < extent.bytes, target (extent.outputOffset + index) =
    (setup.provider.kernel.files extent.fileIndex)[extent.offset + index]?

/-- The output holds every extent, and the files go as far. -/
structure Answered (setup : Setup) (target : Nat → Option UInt8) (extents : List PleReadExtentV1)
    (output : Bytes) : Prop where
  right : ∀ extent ∈ extents, ∀ index < extent.bytes,
    output[extent.outputOffset + index]? = target (extent.outputOffset + index)
  inFile : ∀ extent ∈ extents, ∀ index < extent.bytes,
    extent.offset + index < (setup.provider.kernel.files extent.fileIndex).length

theorem Cut.aimed {extent : PleReadExtentV1} {piece : Piece} (cut : Cut pageBytes extent piece)
    (fitting : Fitting setup pageBytes outputBytes target extent) :
    Aimed setup pageBytes target outputBytes piece := by
  obtain ⟨copied, within, place, offset⟩ := cut.place
  obtain ⟨size, known, inside, -⟩ := fitting.inside
  have positive := cut.positive
  have room := fitting.room
  have low := fitting.low
  constructor
  · apply Nat.div_lt_of_lt_mul
    rw [Nat.mul_comm]
    omega
  · exact cut.aligned
  · exact cut.within
  · exact ⟨size, by rw [cut.fileIndex, known], by omega⟩
  · omega
  · intro index short
    have aims := fitting.target (copied + index) (by omega)
    rw [cut.fileIndex, place, offset, Nat.add_assoc, Nat.add_assoc]
    exact aims

theorem read_cached_ends {store : Store} {exponent : Nat} (power : pageBytes = 2 ^ exponent)
    (small : pageBytes < 2 ^ 32) (clear : Clear store) {cache : Cache}
    (resident : Resident setup pageBytes cache) {extents : List PleReadExtentV1} {output : Bytes}
    (length : output.length = outputBytes)
    (fitting : ∀ extent ∈ extents, Fitting setup pageBytes outputBytes target extent) :
    Ends (readCached setup cache extents output)
      (fun output after => Standing setup pageBytes after ∧ output.length = outputBytes ∧
        Answered setup target extents output)
      (fun _ after => Standing setup pageBytes after) store := by
  have inside (extent : PleReadExtentV1) (member : extent ∈ extents) :
      extent.offset + extent.bytes < 2 ^ 64 := by
    obtain ⟨size, -, within, wide⟩ := (fitting extent member).inside
    omega
  have aimed : ∀ piece ∈ extents.flatMap (pieces cache.pageBytes),
      Aimed setup pageBytes target outputBytes piece := by
    intro piece member
    obtain ⟨extent, known, cut⟩ := List.mem_flatMap.mp member
    rw [resident.page] at cut
    exact (pieces_cut power small (inside extent known) _ _ cut).aimed (fitting extent known)
  have begins : Planned setup pageBytes target outputBytes []
      { cache := cache, output := output } :=
    ⟨resident.sound, resident.page, length, fun _ none => absurd none List.not_mem_nil,
      fun _ none => absurd none List.not_mem_nil, fun _ none => absurd none List.not_mem_nil⟩
  unfold readCached
  rw [ends_bind, ends_within, ends_bind]
  apply (plan_pieces_ends _ begins aimed).weaken
  · intro _ plan planned
    rw [ends_read]
    have clear : Clear { store with cache := some plan.cache } := clear
    apply (finish_plan_ends clear planned rfl).weaken _ fun _ _ standing => standing
    rintro output after ⟨standing, length, served⟩
    refine ⟨standing, length, ?_⟩
    have covered (extent : PleReadExtentV1) (member : extent ∈ extents) (index : Nat)
        (short : index < extent.bytes) :
        ∃ piece ∈ extents.flatMap (pieces cache.pageBytes), ∃ place < piece.take,
          piece.outputOffset + place = extent.outputOffset + index ∧
          piece.pageOffset + piece.inPage + place = extent.offset + index ∧
          piece.fileIndex = extent.fileIndex := by
      obtain ⟨piece, known, from_, until_⟩ := pieces_cover power small (inside extent member)
        extent.bytes 0 (Nat.le_refl _) (Nat.zero_le _) short
      obtain ⟨copied, within, place, offset⟩ :=
        (pieces_cut power small (inside extent member) _ _ known).place
      refine ⟨piece, List.mem_flatMap.mpr ⟨extent, member, resident.page ▸ known⟩,
        extent.outputOffset + index - piece.outputOffset, by omega, by omega, by omega, ?_⟩
      exact (pieces_cut power small (inside extent member) _ _ known).fileIndex
    constructor
    · intro extent member index short
      obtain ⟨piece, known, place, inside, output, -, -⟩ := covered extent member index short
      rw [← output]
      exact (served piece known place inside).1
    · intro extent member index short
      obtain ⟨piece, known, place, inside, -, offset, file⟩ := covered extent member index short
      rw [← offset, ← file]
      exact (served piece known place inside).2
  · rintro _ plan resident _ ⟨⟩
    exact resident

/-- One extent after another, whatever `pread` does. -/
theorem read_uncached_ends (store : Store) (extents : List PleReadExtentV1)
    {done : List PleReadExtentV1} {output : Bytes} (length : output.length = outputBytes)
    (fitting : ∀ extent ∈ extents, Fitting setup pageBytes outputBytes target extent)
    (answered : Answered setup target done output) :
    Ends (readUncached setup extents output)
      (fun output after => Untouched store after ∧ output.length = outputBytes ∧
        Answered setup target (done ++ extents) output)
      (fun _ after => Untouched store after) store := by
  induction extents generalizing done output store with
  | nil =>
      rw [List.append_nil]
      exact ⟨⟨rfl, rfl⟩, length, answered⟩
  | cons extent rest ih =>
      have fits := fitting extent List.mem_cons_self
      have room := fits.room
      rw [readUncached, ends_bind]
      apply (pread_all_ends _ _ _ _).weaken _ fun _ _ same => same
      rintro bytes middle ⟨same, size, mirrors⟩
      have inside : extent.outputOffset + bytes.length ≤ output.length := by omega
      have right : ∀ index < bytes.length,
          bytes[index]? = target (extent.outputOffset + index) := by
        intro index short
        rw [size] at short
        rw [(mirrors index short).2, fits.target index short]
      have next : Answered setup target (done ++ [extent])
          (overwrite output extent.outputOffset bytes) := by
        constructor
        · intro other member index short
          apply overwrite_right inside right
          rcases List.mem_append.mp member with before | now
          · exact Or.inr (answered.right other before index short)
          · obtain rfl := List.mem_singleton.mp now
            exact Or.inl (by omega)
        · intro other member index short
          rcases List.mem_append.mp member with before | now
          · exact answered.inFile other before index short
          · obtain rfl := List.mem_singleton.mp now
            exact (mirrors index short).1
      have later := ih middle ((overwrite_length inside).trans length)
        (fun other member => fitting other (List.mem_cons_of_mem _ member)) next
      rw [List.append_assoc] at later
      exact later.weaken (fun _ _ ended => ⟨same.trans ended.1, ended.2⟩)
        fun _ _ ended => same.trans ended

theorem file_size_open {layout : PleLayoutV1} {fileIndex size : Nat}
    (known : fileSize layout fileIndex = .ok size) : isOpen layout fileIndex ∧ size < 2 ^ 64 := by
  unfold fileSize at known
  cases found : layout.files.find? (·.index.toNat = fileIndex) with
  | none =>
      rw [found] at known
      cases known
  | some file =>
      rw [found] at known
      cases known
      have same : file.index.toNat = fileIndex := by simpa using List.find?_some found
      exact ⟨⟨file, List.mem_of_find?_eq_some found, same⟩, file.fileBytes.toNat_lt⟩

theorem check_extents_ok {layout : PleLayoutV1} {extents : List PleReadExtentV1}
    (checked : checkExtents layout outputBytes extents = .ok ()) :
    ∀ extent ∈ extents, 0 < extent.bytes ∧ extent.outputOffset + extent.bytes ≤ outputBytes ∧
      ∃ size, fileSize layout extent.fileIndex = .ok size ∧
        extent.offset + extent.bytes ≤ size := by
  induction extents with
  | nil => exact fun _ none => absurd none List.not_mem_nil
  | cons extent rest ih =>
      rw [checkExtents] at checked
      cases first : checkExtent layout outputBytes extent with
      | error fault =>
          rw [first] at checked
          cases checked
      | ok _ =>
          rw [first] at checked
          intro other member
          rcases List.mem_cons.mp member with rfl | later
          · unfold checkExtent at first
            dsimp only at first
            split at first
            · cases first
            · next room =>
                cases known : fileSize layout other.fileIndex with
                | error fault =>
                    rw [known] at first
                    cases first
                | ok size =>
                    rw [known] at first
                    change (if _ then _ else _) = _ at first
                    split at first
                    · cases first
                    · next inside => exact ⟨by omega, by omega, size, rfl, by omega⟩
          · exact ih checked other later

/-- The store without a cache, over a `pread` that returns what it is asked for. -/
def uncached (setup : Setup) : Setup := { setup with pread := fun _ => ⟨2 ^ 64, ""⟩ }

theorem pread_loop_goes (failure : String) {fileIndex size offset : Nat} (fuel : Nat) {done : Bytes}
    {store : Store}
    (inFile : offset + size ≤ (setup.provider.kernel.files fileIndex).length) :
    Ends (preadLoop (uncached setup) failure fileIndex size offset fuel done)
      (fun _ _ => True) (fun _ _ => False) store := by
  induction fuel generalizing done store with
  | zero => trivial
  | succ fuel ih =>
      rw [preadLoop, ends_ite]
      refine ⟨fun short => ?_, fun _ => trivial⟩
      unfold pread
      rw [ends_bind, ends_bind, ends_read, ends_bind, ends_write]
      dsimp only
      rw [ends_bind, ends_ensure]
      constructor
      · intro _
        rw [ends_pure]
        exact ih
      · intro stuck
        apply stuck
        refine ⟨(by decide : (0 : Int) < 2 ^ 64), List.ne_nil_of_length_pos ?_⟩
        have count : (uncached setup).pread store.preads = ⟨2 ^ 64, ""⟩ := rfl
        have files : (uncached setup).provider = setup.provider := rfl
        rw [count, files, List.length_take, List.length_drop]
        have wide : (2 ^ 64 : Int).toNat = 2 ^ 64 := rfl
        dsimp only
        rw [wide]
        omega

theorem read_uncached_goes (store : Store) (extents : List PleReadExtentV1) (output : Bytes)
    (fitting : ∀ extent ∈ extents, Fitting setup pageBytes outputBytes target extent)
    (inFile : ∀ extent ∈ extents, extent.offset + extent.bytes ≤
      (setup.provider.kernel.files extent.fileIndex).length) :
    Ends (readUncached (uncached setup) extents output) (fun _ _ => True) (fun _ _ => False)
      store := by
  induction extents generalizing output store with
  | nil => trivial
  | cons extent rest ih =>
      obtain ⟨size, known, -, -⟩ := (fitting extent List.mem_cons_self).inside
      rw [readUncached, ends_bind]
      have goes : Ends (preadAll (uncached setup) "PLE read failed: " extent.fileIndex extent.bytes
          extent.offset) (fun _ _ => True) (fun _ _ => False) store := by
        unfold preadAll
        rw [ends_bind, ends_ensure]
        refine ⟨fun _ => ?_, fun closed => closed (file_size_open known).1⟩
        exact pread_loop_goes _ _ (inFile extent List.mem_cons_self)
      apply goes.weaken _ fun _ _ never => never
      intro bytes middle _
      exact ih middle _ (fun other member => fitting other (List.mem_cons_of_mem _ member))
        fun other member => inFile other (List.mem_cons_of_mem _ member)

theorem empty_answered (output : Bytes) : Answered setup target [] output :=
  ⟨fun _ none => absurd none List.not_mem_nil, fun _ none => absurd none List.not_mem_nil⟩

theorem Fitting.uncached {extent : PleReadExtentV1}
    (fitting : Fitting setup pageBytes outputBytes target extent) :
    Fitting (uncached setup) pageBytes outputBytes target extent :=
  ⟨fitting.room, fitting.inside, fitting.low, fitting.target⟩

/-- What was answered from the cache is answered without it. -/
theorem uncached_answers {extents : List PleReadExtentV1} {output : Bytes}
    (checked : checkExtents setup.layout outputBytes extents = .ok ())
    (sized : ¬ (extents = [] ∧ outputBytes ≠ 0)) (length : output.length = outputBytes)
    (fitting : ∀ extent ∈ extents, Fitting setup pageBytes outputBytes target extent)
    (inFile : ∀ extent ∈ extents, ∀ index < extent.bytes,
      extent.offset + index < (setup.provider.kernel.files extent.fileIndex).length) :
    ∃ again, (readExtents (uncached setup) extents output outputBytes {}).1 = .ok again ∧
      again.length = outputBytes ∧ Answered setup target extents again := by
  have reaches : ∀ extent ∈ extents, extent.offset + extent.bytes ≤
      (setup.provider.kernel.files extent.fileIndex).length := by
    intro extent member
    have positive := (check_extents_ok checked extent member).1
    have last := inFile extent member (extent.bytes - 1) (by omega)
    omega
  have ended : Ends (readExtents (uncached setup) extents output outputBytes)
      (fun again _ => again.length = outputBytes ∧ Answered setup target extents again)
      (fun _ _ => False) {} := by
    unfold readExtents
    rw [ends_bind, ends_settle]
    refine ⟨fun _ _ => ?_, fun fault failed => ?_⟩
    · rw [ends_bind, ends_ensure]
      refine ⟨fun _ => ?_, fun none => none sized⟩
      rw [ends_bind, ends_read]
      have goes := read_uncached_goes {} extents output fitting reaches
      have answers := read_uncached_ends {} extents length
        (fun extent member => (fitting extent member).uncached) (empty_answered output)
      apply (answers.both goes).weaken
      · rintro again after ⟨⟨-, length, answered⟩, -⟩
        exact ⟨length, answered.right, answered.inFile⟩
      · exact fun _ _ never => never.2
    · have same : checkExtents (uncached setup).layout outputBytes extents = .ok () := checked
      rw [same] at failed
      cases failed
  cases outcome : (readExtents (uncached setup) extents output outputBytes {}).1 with
  | ok again => exact ⟨again, rfl, ended.returned outcome⟩
  | error fault => exact (ended.threw outcome).elim

theorem read_extents_ends {store : Store} {exponent : Nat} (power : pageBytes = 2 ^ exponent)
    (small : pageBytes < 2 ^ 32) (clear : Clear store) (standing : Standing setup pageBytes store)
    {extents : List PleReadExtentV1} {output : Bytes} (length : output.length = outputBytes)
    (low : ∀ extent ∈ extents, extent.offset + extent.bytes ≤ 2 ^ 56 * pageBytes)
    (aims : ∀ extent ∈ extents, ∀ index < extent.bytes, target (extent.outputOffset + index) =
      (setup.provider.kernel.files extent.fileIndex)[extent.offset + index]?) :
    Ends (readExtents setup extents output outputBytes)
      (fun bytes after => Standing setup pageBytes after ∧ bytes.length = outputBytes ∧
        Answered setup target extents bytes ∧
        ∃ again, (readExtents (uncached setup) extents output outputBytes {}).1 = .ok again ∧
          again.length = outputBytes ∧ Answered setup target extents again)
      (fun _ after => Standing setup pageBytes after) store := by
  unfold readExtents
  rw [ends_bind, ends_settle]
  refine ⟨fun _ checked => ?_, fun _ _ => standing⟩
  rw [ends_bind, ends_ensure]
  refine ⟨fun sized => ?_, fun _ => standing⟩
  rw [ends_bind, ends_read]
  have fitting (extent : PleReadExtentV1) (member : extent ∈ extents) :
      Fitting setup pageBytes outputBytes target extent := by
    obtain ⟨-, room, size, known, inside⟩ := check_extents_ok checked extent member
    exact ⟨room, ⟨size, known, inside, (file_size_open known).2⟩, low extent member,
      aims extent member⟩
  have again (bytes : Bytes) (answered : Answered setup target extents bytes) :=
    uncached_answers checked sized length fitting answered.inFile
  cases cached : store.cache with
  | none =>
      apply (read_uncached_ends store extents length fitting (empty_answered output)).weaken
      · rintro bytes after ⟨same, length, answered⟩
        refine ⟨?_, length, answered, again bytes answered⟩
        intro cache found
        rw [same.cache, cached] at found
        cases found
      · intro _ after same cache found
        rw [same.cache, cached] at found
        cases found
  | some cache =>
      apply (read_cached_ends power small clear (standing cache cached) length fitting).weaken
      · rintro bytes after ⟨standing, length, answered⟩
        exact ⟨standing, length, answered, again bytes answered⟩
      · exact fun _ _ standing => standing

end Extents

section Rows
variable {setup : Setup} {pageBytes : Nat}

theorem row_extent_bytes {layout : PleLayoutV1} {globalRow : UInt64} {outputOffset : Nat}
    {extent : PleReadExtentV1} (found : rowExtent layout globalRow outputOffset = .ok extent) :
    extent.outputOffset = outputOffset ∧ extent.bytes = layout.rowStrideBytes.toNat ∧
      rowExtent layout globalRow 0 = .ok { extent with outputOffset := 0 } := by
  unfold rowExtent at found ⊢
  cases part : findPart layout globalRow with
  | error fault =>
      rw [part] at found
      cases found
  | ok part =>
      rw [part] at found
      cases found
      exact ⟨rfl, rfl, rfl⟩

/-- The extents of a batch fill its output one row after another. -/
theorem row_extents_shape {globalRows : List UInt64} {start : Nat} {extents : List PleReadExtentV1}
    (found : rowExtents setup.layout globalRows start = .ok extents) :
    extents.length = globalRows.length ∧ ∀ (index : Nat) (extent : PleReadExtentV1),
      extents[index]? = some extent →
        extent.outputOffset = (start + index) * setup.layout.rowStrideBytes.toNat ∧
        extent.bytes = setup.layout.rowStrideBytes.toNat ∧
        ∃ globalRow ∈ globalRows,
          rowExtent setup.layout globalRow 0 = .ok { extent with outputOffset := 0 } := by
  induction globalRows generalizing start extents with
  | nil =>
      cases found
      exact ⟨rfl, fun _ _ none => absurd none.symm (Option.some_ne_none _)⟩
  | cons globalRow rest ih =>
      rw [rowExtents] at found
      cases first : rowExtent setup.layout globalRow
          (start * setup.layout.rowStrideBytes.toNat) with
      | error fault =>
          rw [first] at found
          cases found
      | ok head =>
          rw [first] at found
          cases later : rowExtents setup.layout rest (start + 1) with
          | error fault =>
              simp only [later, bind, Except.bind] at found
              cases found
          | ok tail =>
              simp only [later, bind, Except.bind, pure, Except.pure, Except.ok.injEq] at found
              obtain rfl := found
              obtain ⟨length, shape⟩ := ih later
              refine ⟨congrArg (· + 1) length, ?_⟩
              intro index extent asked
              cases index with
              | zero =>
                  obtain rfl := Option.some.inj asked
                  obtain ⟨place, bytes, row⟩ := row_extent_bytes first
                  exact ⟨place, bytes, globalRow, List.mem_cons_self, row⟩
              | succ index =>
                  obtain ⟨place, bytes, row, member, found⟩ := shape index extent asked
                  refine ⟨?_, bytes, row, List.mem_cons_of_mem _ member, found⟩
                  rw [place]
                  congr 1
                  omega

/-- The byte of the files that belongs at a place of the output. -/
def rowTarget (setup : Setup) (extents : List PleReadExtentV1) (place : Nat) : Option UInt8 :=
  extents[place / setup.layout.rowStrideBytes.toNat]?.bind fun extent =>
    (setup.provider.kernel.files extent.fileIndex)[extent.offset +
      place % setup.layout.rowStrideBytes.toNat]?

/-- An extent of a batch is what its places of the output are for. -/
theorem row_extents_aim {globalRows : List UInt64} {extents : List PleReadExtentV1}
    (found : rowExtents setup.layout globalRows 0 = .ok extents) :
    ∀ extent ∈ extents, ∀ index < extent.bytes,
      rowTarget setup extents (extent.outputOffset + index) =
        (setup.provider.kernel.files extent.fileIndex)[extent.offset + index]? := by
  obtain ⟨-, shape⟩ := row_extents_shape found
  intro extent member index short
  obtain ⟨place, asked⟩ := List.mem_iff_getElem?.mp member
  obtain ⟨offset, bytes, -⟩ := shape place extent asked
  rw [bytes] at short
  have row : (extent.outputOffset + index) / setup.layout.rowStrideBytes.toNat = place := by
    rw [offset, Nat.zero_add, Nat.mul_comm, Nat.mul_add_div (by omega), Nat.div_eq_of_lt short,
      Nat.add_zero]
  have within : (extent.outputOffset + index) % setup.layout.rowStrideBytes.toNat = index := by
    rw [offset, Nat.zero_add, Nat.mul_comm, Nat.mul_add_mod, Nat.mod_eq_of_lt short]
  rw [rowTarget, row, within, asked]
  rfl

/-- The pages of a row are numbered within the key space. -/
def RowFits (setup : Setup) (pageBytes : Nat) (globalRow : UInt64) : Prop :=
  ∀ extent, rowExtent setup.layout globalRow 0 = .ok extent →
    extent.offset + extent.bytes ≤ 2 ^ 56 * pageBytes

/-- A batch of rows, one after another in the output. -/
theorem rows_transparent {store : Store} {exponent : Nat} (power : pageBytes = 2 ^ exponent)
    (small : pageBytes < 2 ^ 32) (clear : Clear store) (standing : Standing setup pageBytes store)
    {globalRows : List UInt64} {extents : List PleReadExtentV1}
    (fits : ∀ globalRow ∈ globalRows, RowFits setup pageBytes globalRow)
    (found : rowExtents setup.layout globalRows 0 = .ok extents) (output : Bytes)
    (length : output.length = globalRows.length * setup.layout.rowStrideBytes.toNat) :
    Ends (readExtents setup extents output
        (globalRows.length * setup.layout.rowStrideBytes.toNat))
      (fun bytes after => Standing setup pageBytes after ∧
        (readExtents (uncached setup) extents output
          (globalRows.length * setup.layout.rowStrideBytes.toNat) {}).1 = .ok bytes)
      (fun _ after => Standing setup pageBytes after) store := by
  obtain ⟨count, shape⟩ := row_extents_shape found
  have low : ∀ extent ∈ extents, extent.offset + extent.bytes ≤ 2 ^ 56 * pageBytes := by
    intro extent member
    obtain ⟨index, asked⟩ := List.mem_iff_getElem?.mp member
    obtain ⟨-, -, row, known, row_⟩ := shape index extent asked
    have within := fits row known _ row_
    exact within
  have aims := row_extents_aim found
  apply (read_extents_ends power small clear standing length low aims).weaken _
    fun _ _ standing => standing
  rintro bytes after ⟨standing, size, answered, again, goes, size', answered'⟩
  refine ⟨standing, ?_⟩
  rw [goes]
  congr 1
  apply List.ext_getElem?
  intro place
  by_cases inside : place < globalRows.length * setup.layout.rowStrideBytes.toNat
  · have stride : 0 < setup.layout.rowStrideBytes.toNat := by
      rw [Nat.pos_iff_ne_zero]
      intro zero
      rw [zero, Nat.mul_zero] at inside
      cases inside
    have row : place / setup.layout.rowStrideBytes.toNat < extents.length := by
      rw [count]
      exact (Nat.div_lt_iff_lt_mul stride).mpr inside
    obtain ⟨offset, length, -⟩ := shape _ _ (List.getElem?_eq_getElem row)
    have short : place % setup.layout.rowStrideBytes.toNat <
        extents[place / setup.layout.rowStrideBytes.toNat].bytes :=
      (Nat.mod_lt _ stride).trans_eq length.symm
    have right := answered.right _ (List.getElem_mem row) _ short
    have right' := answered'.right _ (List.getElem_mem row) _ short
    have whole : extents[place / setup.layout.rowStrideBytes.toNat].outputOffset +
        place % setup.layout.rowStrideBytes.toNat = place := by
      rw [offset, Nat.zero_add]
      exact Nat.div_add_mod' _ _
    rw [whole] at right right'
    rw [right, right']
  · rw [List.getElem?_eq_none (by omega), List.getElem?_eq_none (by omega)]

/-- The rows a call asks for. -/
def Call.rows : Call → List UInt64
  | .readRow globalRow => [globalRow]
  | .readRows globalRows => globalRows
  | .readRowsInto globalRows _ => globalRows

/-- What a call is answered without a cache. -/
def uncachedAnswer (setup : Setup) (call : Call) : Except Fault Bytes :=
  (serve (uncached setup) call {}).1

theorem read_rows_into_eq (setup : Setup) {globalRows : List UInt64} {extents : List PleReadExtentV1}
    (counted : globalRows.length ≤ maxSize / setup.layout.rowStrideBytes.toNat)
    (found : rowExtents setup.layout globalRows 0 = .ok extents) (output : Bytes) (store : Store) :
    readRowsInto setup globalRows output
        (globalRows.length * setup.layout.rowStrideBytes.toNat) store =
      readExtents setup extents output
        (globalRows.length * setup.layout.rowStrideBytes.toNat) store := by
  unfold readRowsInto
  rw [found, Proc.ensure, if_pos counted, Proc.ensure, if_pos rfl]
  rfl

theorem rows_into_transparent {store : Store} {exponent : Nat} (power : pageBytes = 2 ^ exponent)
    (small : pageBytes < 2 ^ 32) (clear : Clear store) (standing : Standing setup pageBytes store)
    {globalRows : List UInt64} (fits : ∀ globalRow ∈ globalRows, RowFits setup pageBytes globalRow)
    {output : Bytes} {outputBytes : Nat} (length : output.length = outputBytes) :
    Ends (readRowsInto setup globalRows output outputBytes)
      (fun bytes after => Standing setup pageBytes after ∧
        (readRowsInto (uncached setup) globalRows output outputBytes {}).1 = .ok bytes)
      (fun _ after => Standing setup pageBytes after) store := by
  have ended : Ends (readRowsInto setup globalRows output outputBytes)
      (fun bytes after => Standing setup pageBytes after ∧
        globalRows.length ≤ maxSize / setup.layout.rowStrideBytes.toNat ∧
        outputBytes = globalRows.length * setup.layout.rowStrideBytes.toNat ∧
        ∃ extents, rowExtents setup.layout globalRows 0 = .ok extents ∧
          (readExtents (uncached setup) extents output outputBytes {}).1 = .ok bytes)
      (fun _ after => Standing setup pageBytes after) store := by
    unfold readRowsInto
    dsimp only
    rw [ends_bind, ends_ensure]
    refine ⟨fun counted => ?_, fun _ => standing⟩
    rw [ends_bind, ends_ensure]
    refine ⟨fun sized => ?_, fun _ => standing⟩
    rw [ends_bind, ends_settle]
    refine ⟨fun extents found => ?_, fun _ _ => standing⟩
    subst sized
    apply (rows_transparent power small clear standing fits found output length).weaken _
      fun _ _ standing => standing
    rintro bytes after ⟨standing, again⟩
    exact ⟨standing, counted, rfl, extents, found, again⟩
  apply ended.weaken _ fun _ _ standing => standing
  rintro bytes after ⟨standing, counted, sized, extents, found, again⟩
  subst sized
  refine ⟨standing, ?_⟩
  rw [← again]
  exact congrArg Prod.fst (read_rows_into_eq (uncached setup) counted found output {})

theorem serve_transparent {store : Store} {exponent : Nat} (power : pageBytes = 2 ^ exponent)
    (small : pageBytes < 2 ^ 32) (clear : Clear store) (standing : Standing setup pageBytes store)
    (call : Call) (fits : ∀ globalRow ∈ call.rows, RowFits setup pageBytes globalRow) :
    Ends (serve setup call)
      (fun bytes after => Standing setup pageBytes after ∧ uncachedAnswer setup call = .ok bytes)
      (fun _ after => Standing setup pageBytes after) store := by
  cases call with
  | readRow globalRow =>
      have ended : Ends (readRow setup globalRow)
          (fun bytes after => Standing setup pageBytes after ∧
            ∃ extent, rowExtent setup.layout globalRow 0 = .ok extent ∧
              (readExtents (uncached setup) [extent]
                (List.replicate setup.layout.rowStrideBytes.toNat 0)
                setup.layout.rowStrideBytes.toNat {}).1 = .ok bytes)
          (fun _ after => Standing setup pageBytes after) store := by
        unfold readRow
        rw [ends_bind, ends_settle]
        refine ⟨fun extent found => ?_, fun _ _ => standing⟩
        have single : rowExtents setup.layout [globalRow] 0 = .ok [extent] := by
          rw [rowExtents, Nat.zero_mul, found]
          rfl
        have fits : ∀ row ∈ [globalRow], RowFits setup pageBytes row := fits
        have rows := rows_transparent power small clear standing fits single
          (List.replicate setup.layout.rowStrideBytes.toNat 0)
          (by rw [List.length_replicate, List.length_singleton, Nat.one_mul])
        rw [List.length_singleton, Nat.one_mul] at rows
        exact rows.weaken (fun _ _ ended => ⟨ended.1, extent, found, ended.2⟩)
          fun _ _ standing => standing
      apply ended.weaken _ fun _ _ standing => standing
      rintro bytes after ⟨standing, extent, found, again⟩
      refine ⟨standing, ?_⟩
      rw [← again, uncachedAnswer, serve, readRow]
      have layout : (uncached setup).layout = setup.layout := rfl
      rw [layout, found]
      rfl
  | readRows globalRows =>
      have ended : Ends (readRows setup globalRows)
          (fun bytes after => Standing setup pageBytes after ∧
            globalRows.length ≤ maxSize / setup.layout.rowStrideBytes.toNat ∧
            (readRowsInto (uncached setup) globalRows
              (List.replicate (globalRows.length * setup.layout.rowStrideBytes.toNat) 0)
              (globalRows.length * setup.layout.rowStrideBytes.toNat) {}).1 = .ok bytes)
          (fun _ after => Standing setup pageBytes after) store := by
        unfold readRows
        dsimp only
        rw [ends_bind, ends_ensure]
        refine ⟨fun counted => ?_, fun _ => standing⟩
        exact (rows_into_transparent power small clear standing fits List.length_replicate).weaken
          (fun _ _ ended => ⟨ended.1, counted, ended.2⟩) fun _ _ standing => standing
      apply ended.weaken _ fun _ _ standing => standing
      rintro bytes after ⟨standing, counted, again⟩
      refine ⟨standing, ?_⟩
      rw [← again, uncachedAnswer, serve, readRows]
      have layout : (uncached setup).layout = setup.layout := rfl
      rw [layout, Proc.ensure, if_pos counted]
      rfl
  | readRowsInto globalRows output =>
      exact rows_into_transparent power small clear standing fits rfl

end Rows

section Runs
variable {setup : Setup} {options : PleStoreOptionsV1} {directError : Option String}

theorem empty_sound (holds : Nat → Bytes → Prop) (pageBytes maxPages : Nat) :
    Sound holds { pageBytes := pageBytes, maxPages := maxPages } :=
  ⟨List.nodup_nil, fun _ none => absurd none List.not_mem_nil,
    fun _ none => absurd none List.not_mem_nil⟩

theorem page_power {pageBytes : UInt32} (positive : pageBytes ≠ 0)
    (mask : pageBytes &&& (pageBytes - 1) = 0) : ∃ exponent, pageBytes.toNat = 2 ^ exponent := by
  have nonzero : pageBytes.toNat ≠ 0 := fun zero => positive (UInt32.toNat_inj.mp zero)
  have one : (1 : UInt32) ≤ pageBytes := by
    rw [UInt32.le_iff_toNat_le]
    exact Nat.one_le_iff_ne_zero.mpr nonzero
  have bits := congrArg UInt32.toNat mask
  rw [UInt32.toNat_and, UInt32.toNat_sub_of_le _ _ one] at bits
  exact (Nat.and_sub_one_eq_zero_iff_isPowerOfTwo nonzero).mp bits

/-- The size of a page is a power of two, nothing is resident, and the rings are idle. -/
theorem make_store_begins (setup : Setup) {start : Store}
    (made : makeStore options directError = .ok start) (cached : options.cacheBytes ≠ 0) :
    (∃ exponent, options.cachePageBytes.toNat = 2 ^ exponent) ∧
      Standing setup options.cachePageBytes.toNat start ∧ Clear start := by
  have empty (ring : Option Ring) : Standing setup options.cachePageBytes.toNat {
      cache := some {
        pageBytes := options.cachePageBytes.toNat
        maxPages := options.cacheBytes.toNat / options.cachePageBytes.toNat }
      ring := ring } := by
    rintro cache ⟨⟩
    exact ⟨empty_sound _ _ _, rfl⟩
  unfold makeStore at made
  split at made
  · cases made
  · split at made
    · cases made
    · next _ valid =>
        have fits := not_and.mp valid cached
        rw [not_or, not_or] at fits
        refine ⟨page_power fits.1 (not_not.mp fits.2.1), ?_⟩
        dsimp only at made
        split at made
        · cases made
        · split at made
          · cases made
            exact ⟨empty none, fun _ none => absurd none.symm (Option.some_ne_none _)⟩
          · split at made
            · cases made
              refine ⟨empty _, ?_⟩
              rintro ring ⟨⟩
              exact Or.inl ⟨rfl, rfl, rfl⟩
            · split at made
              · cases made
              · cases made
                exact ⟨empty none, fun _ none => absurd none.symm (Option.some_ne_none _)⟩

/-- The stores reached by calls whose rows fit the key space, on rings that are clear. -/
inductive Serves (setup : Setup) (pageBytes : Nat) (start : Store) : Store → Prop
  | start : Serves setup pageBytes start start
  | call {store : Store} (reached : Serves setup pageBytes start store) (call : Call)
      (fits : ∀ globalRow ∈ call.rows, RowFits setup pageBytes globalRow) (clear : Clear store) :
      Serves setup pageBytes start (serve setup call store).2

theorem serves_standing {start store : Store} (made : makeStore options directError = .ok start)
    (cached : options.cacheBytes ≠ 0)
    (reached : Serves setup options.cachePageBytes.toNat start store) :
    Standing setup options.cachePageBytes.toNat store := by
  obtain ⟨⟨exponent, power⟩, begins, -⟩ := make_store_begins setup made cached
  induction reached with
  | start => exact begins
  | @call store reached call fits clear ih =>
      have ended := serve_transparent power options.cachePageBytes.toNat_lt clear ih call fits
      cases outcome : (serve setup call store).1 with
      | ok bytes => exact (ended.returned outcome).1
      | error fault => exact ended.threw outcome

/-- In every run of calls whose pages are numbered within the key space and which find
no read of an earlier call in the rings, every resident page holds what its key
names, and a call that returns is answered as without a cache. -/
theorem page_cache_transparent {start store : Store}
    (made : makeStore options directError = .ok start) (cached : options.cacheBytes ≠ 0)
    (reached : Serves setup options.cachePageBytes.toNat start store) :
    (∀ cache, store.cache = some cache → ∀ entry ∈ cache.entries,
      HoldsPage setup options.cachePageBytes.toNat entry.key (cache.memory entry.page)) ∧
    ∀ call, (∀ globalRow ∈ call.rows, RowFits setup options.cachePageBytes.toNat globalRow) →
      Clear store → ∀ bytes, (serve setup call store).1 = .ok bytes →
        uncachedAnswer setup call = .ok bytes := by
  obtain ⟨⟨exponent, power⟩, -, -⟩ := make_store_begins setup made cached
  have standing := serves_standing made cached reached
  constructor
  · exact fun cache found => (standing cache found).sound.resident
  · intro call fits clear bytes returned
    exact ((serve_transparent power options.cachePageBytes.toNat_lt clear standing call
      fits).returned returned).2

section Sample
open Provider

/-- Two files of one row of one byte each. -/
def sampleLayout : PleLayoutV1 where
  rowStrideBytes := 1
  usableRows := 2
  files := [{ index := 0, fileBytes := 1 }, { index := 1, fileBytes := 1 }]
  parts := [{ logicalPart := 0, fileIndex := 0, globalRowStart := 0, rows := 1, fileOffset := 0 },
    { logicalPart := 1, fileIndex := 1, globalRowStart := 1, rows := 1, fileOffset := 0 }]

def sampleOptions : PleStoreOptionsV1 := { cacheBytes := 4096, queueDepth := 2 }

def sampleStore : Store where
  cache := some { pageBytes := 4096, maxPages := 1 }
  ring := some { buffers := fun _ => List.replicate 4096 0 }

def quietSetup : Setup := { layout := sampleLayout, provider := quietProvider }

def refusedSetup : Setup := { layout := sampleLayout, provider := sampleProvider }

theorem page_cache_transparent_rows :
    uncachedAnswer quietSetup (.readRows [1, 0, 1]) = .ok [2, 1, 2] := by
  have made : makeStore sampleOptions none = .ok sampleStore := rfl
  apply (page_cache_transparent made (by decide) .start).2
  · intro globalRow member extent found
    have rows : globalRow = 1 ∨ globalRow = 0 ∨ globalRow = 1 := by
      simpa [Call.rows] using member
    rcases rows with rfl | rfl | rfl <;> cases found <;> decide
  · rintro ring ⟨⟩
    exact Or.inl ⟨rfl, rfl, rfl⟩
  · decide +kernel

def refusedStore : Store := (serve refusedSetup (.readRow 0) sampleStore).2

/-- Behind a submission that was refused, row 1 is answered with the byte of row 0,
which stays in the cache under the key of row 1's page. -/
theorem stale_page_cached :
    makeStore sampleOptions none = .ok sampleStore ∧
      (serve refusedSetup (.readRow 0) sampleStore).1 =
        .error (runtime "io_uring_enter failed: EAGAIN") ∧
      (serve refusedSetup (.readRow 1) refusedStore).1 = .ok [1] ∧
      uncachedAnswer refusedSetup (.readRow 1) = .ok [2] ∧
      (serve refusedSetup (.readRow 1) (serve refusedSetup (.readRow 1) refusedStore).2).1 =
        .ok [1] := by
  refine ⟨rfl, ?_, ?_, ?_, ?_⟩ <;> decide +kernel

end Sample

end Runs

end Q38.PleStore
