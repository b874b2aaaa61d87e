import Q38Runtime.StagedUpload

/-! Ranges of a memory, one above the other, and uploads into them. An upload is cut into chunks
that are copied one behind the other; whatever the chunks, it writes its range and nothing else. -/
namespace UploadedRanges
open StagedUpload

structure Range where
  start : Nat
  length : Nat
  deriving DecidableEq, Repr

def Range.Holds (range : Range) (place : Nat) : Prop :=
  range.start ≤ place ∧ place < range.start + range.length

def Range.Apart (left right : Range) : Prop :=
  left.start + left.length ≤ right.start ∨ right.start + right.length ≤ left.start

/-- Ranges that rise from a lower to an upper bound, with gaps or without. -/
inductive Stacked : Nat → List Range → Nat → Prop where
  | nil {low high : Nat} : low ≤ high → Stacked low [] high
  | cons {low high : Nat} {range : Range} {rest : List Range} : low ≤ range.start →
      Stacked (range.start + range.length) rest high → Stacked low (range :: rest) high

section Stacks
variable {low middle high : Nat} {ranges above : List Range}

theorem Stacked.le (stacked : Stacked low ranges high) : low ≤ high := by
  induction stacked with
  | nil ordered => exact ordered
  | cons begins _ ih => exact Nat.le_trans begins (Nat.le_trans (Nat.le_add_right _ _) ih)

theorem Stacked.lower {lower : Nat} (below : lower ≤ low) (stacked : Stacked low ranges high) :
    Stacked lower ranges high := by
  cases stacked with
  | nil ordered => exact .nil (Nat.le_trans below ordered)
  | cons begins rest => exact .cons (Nat.le_trans below begins) rest

theorem Stacked.append (stacked : Stacked low ranges middle) (upper : Stacked middle above high) :
    Stacked low (ranges ++ above) high := by
  induction stacked with
  | nil ordered => exact upper.lower ordered
  | cons begins _ ih => exact .cons begins (ih upper)

theorem Stacked.bounds (stacked : Stacked low ranges high) {range : Range}
    (listed : range ∈ ranges) : low ≤ range.start ∧ range.start + range.length ≤ high := by
  induction stacked with
  | nil => cases listed
  | cons begins rest ih =>
      rcases List.mem_cons.mp listed with rfl | later
      · exact ⟨begins, rest.le⟩
      · have bounds := ih later
        omega

theorem Stacked.apart (stacked : Stacked low ranges high) : ranges.Pairwise Range.Apart := by
  induction stacked with
  | nil => exact .nil
  | cons _ rest ih => exact .cons (fun other later => .inl (rest.bounds later).1) ih

/-- A place below all ranges is in none of them. -/
theorem Stacked.beside (stacked : Stacked low ranges high) {place : Nat} (below : place < low) :
    ∀ range ∈ ranges, ¬ range.Holds place := by
  intro range listed held
  have bounds := stacked.bounds listed
  exact absurd (Nat.lt_of_le_of_lt (Nat.le_trans bounds.1 held.1) below) (Nat.lt_irrefl _)

end Stacks

variable {β : Type}

structure Upload (β : Type) where
  target : Nat
  chunks : List (List β)

def Upload.range (upload : Upload β) : Range := ⟨upload.target, upload.chunks.flatten.length⟩

/-- Where chunks go that are copied one behind the other. -/
def copiesAt : Nat → List (List β) → List Range
  | _, [] => []
  | target, chunk :: rest => ⟨target, chunk.length⟩ :: copiesAt (target + chunk.length) rest

def Upload.copies (upload : Upload β) : List Range := copiesAt upload.target upload.chunks

/-- The uploads in their order, each through the ring of staging buffers. -/
def uploadEach (ring : Nat) (eager : Nat → Nat) (uploads : List (Upload β))
    (uploader : Uploader β) : Uploader β :=
  uploads.foldl (fun uploader upload => pushAll ring eager upload.chunks upload.target uploader)
    uploader

section Uploads
variable {ring : Nat} {eager : Nat → Nat} {uploads : List (Upload β)} {uploader : Uploader β}

theorem copies_stacked (chunks : List (List β)) (target : Nat) :
    Stacked target (copiesAt target chunks) (target + chunks.flatten.length) := by
  induction chunks generalizing target with
  | nil => exact .nil (Nat.le_refl _)
  | cons chunk rest ih =>
      rw [List.flatten_cons, List.length_append, ← Nat.add_assoc]
      exact .cons (Nat.le_refl _) (ih _)

/-- Every copy carries a chunk. -/
theorem copies_chunk {chunks : List (List β)} {target : Nat} {copy : Range}
    (listed : copy ∈ copiesAt target chunks) : ∃ chunk ∈ chunks, copy.length = chunk.length := by
  induction chunks generalizing target with
  | nil => cases listed
  | cons chunk rest ih =>
      rcases List.mem_cons.mp listed with rfl | later
      · exact ⟨chunk, List.mem_cons_self, rfl⟩
      · obtain ⟨other, member, same⟩ := ih later
        exact ⟨other, List.mem_cons_of_mem _ member, same⟩

/-- The copies of an upload touch its range, all of it. -/
theorem copies_hold (chunks : List (List β)) (target place : Nat) :
    (∃ copy ∈ copiesAt target chunks, copy.Holds place) ↔
      (⟨target, chunks.flatten.length⟩ : Range).Holds place := by
  constructor
  · rintro ⟨copy, listed, held⟩
    have bounds := (copies_stacked chunks target).bounds listed
    exact ⟨Nat.le_trans bounds.1 held.1, Nat.lt_of_lt_of_le held.2 bounds.2⟩
  · intro held
    induction chunks generalizing target with
    | nil => exact absurd held.2 (Nat.not_lt.mpr held.1)
    | cons chunk rest ih =>
        obtain ⟨begins, ends⟩ := held
        dsimp only at begins ends
        rw [List.flatten_cons, List.length_append, ← Nat.add_assoc] at ends
        by_cases first : place < target + chunk.length
        · exact ⟨_, List.mem_cons_self, begins, first⟩
        · obtain ⟨copy, listed, here⟩ := ih _ ⟨Nat.le_of_not_lt first, ends⟩
          exact ⟨copy, List.mem_cons_of_mem _ listed, here⟩

theorem upload_each_snoc (upload : Upload β) :
    uploadEach ring eager (uploads ++ [upload]) uploader =
      pushAll ring eager upload.chunks upload.target (uploadEach ring eager uploads uploader) := by
  rw [uploadEach, List.foldl_append]
  rfl

/-- A place in no range keeps what it held. -/
theorem upload_each_beside {place : Nat}
    (outside : ∀ upload ∈ uploads, ¬ upload.range.Holds place) :
    (uploadEach ring eager uploads uploader).settled place = uploader.settled place := by
  induction uploads generalizing uploader with
  | nil => rfl
  | cons upload rest ih =>
      have later := fun other listed => outside other (List.mem_cons_of_mem upload listed)
      have here := outside upload List.mem_cons_self
      rw [uploadEach, List.foldl_cons, ← uploadEach, ih later, push_all_settled]
      apply place_outside
      by_contra inside
      rw [not_or, Nat.not_lt, Nat.not_le] at inside
      exact here inside

/-- A range that no other upload touches holds what was uploaded. -/
theorem upload_each_inside {low high : Nat} (stacked : Stacked low (uploads.map Upload.range) high)
    {upload : Upload β} (listed : upload ∈ uploads) (index : Nat)
    (inside : index < upload.chunks.flatten.length) :
    (uploadEach ring eager uploads uploader).settled (upload.target + index) =
      upload.chunks.flatten[index] := by
  induction uploads generalizing low uploader with
  | nil => cases listed
  | cons first rest ih =>
      rw [List.map_cons] at stacked
      cases stacked with
      | cons _ above =>
          rw [uploadEach, List.foldl_cons, ← uploadEach]
          rcases List.mem_cons.mp listed with rfl | later
          · rw [upload_each_beside, push_all_settled]
            · exact place_inside _ _ _ inside
            · intro other member
              have beyond : upload.target + index < upload.range.start + upload.range.length :=
                Nat.add_lt_add_left inside _
              exact above.beside beyond _ (List.mem_map_of_mem member)
          · exact ih above later

end Uploads

end UploadedRanges
