import Mathlib.Data.List.DropRight
import Mathlib.Data.List.Infix

/-!
Search for a marker in a text: the first place from a cursor on, and the last place of all.
A marker whose first letter it has only once cannot overlap itself, so that it is found where
it was put.
-/
namespace Q38.MarkerSearch

universe u
variable {Letter : Type u} [DecidableEq Letter]

section Searching

def scan (marker : List Letter) : List Letter → Nat → Option Nat
  | [], place => if marker = [] then some place else none
  | letter :: rest, place =>
      if marker <+: letter :: rest then some place else scan marker rest (place + 1)

/-- `text.find(marker, cursor)`; `none` is -1. -/
def find (text marker : List Letter) (cursor : Nat) : Option Nat :=
  scan marker (text.drop cursor) cursor

/-- `text.rfind(marker)`. -/
def rfind (marker : List Letter) : List Letter → Option Nat
  | [] => if marker = [] then some 0 else none
  | letter :: rest =>
      match rfind marker rest with
      | some place => some (place + 1)
      | none => if marker <+: letter :: rest then some 0 else none

/-- `text[first:last]`. -/
def slice (text : List Letter) (first last : Nat) : List Letter := (text.take last).drop first

end Searching

section Markers
variable {marker first second text before after front : List Letter}

/-- The first letter of a marker is none of the later ones. -/
def Headed : List Letter → Prop
  | [] => False
  | letter :: rest => letter ∉ rest

instance : ∀ marker : List Letter, Decidable (Headed marker)
  | [] => .isFalse id
  | letter :: rest => inferInstanceAs (Decidable (letter ∉ rest))

omit [DecidableEq Letter] in
theorem Headed.some_ (headed : Headed marker) : marker ≠ [] := by
  rintro rfl
  exact headed

omit [DecidableEq Letter] in
/-- A marker is inside of one of two texts if no end of it begins the second one. -/
theorem inside_append (edge : ∀ letter ∈ second.head?, letter ∉ marker.tail)
    (inside : marker <:+: first ++ second) : marker <:+: first ∨ marker <:+: second := by
  rcases List.infix_append_iff.mp inside with here | here | ⟨left, right, rfl, ending, start⟩
  · exact .inl here
  · exact .inr here
  · cases right with
    | nil => exact .inl (by simpa using ending.isInfix)
    | cons letter right =>
        cases left with
        | nil => exact .inr (by simpa using start.isInfix)
        | cons other left =>
            obtain ⟨rest, rfl⟩ := start
            exact absurd (by simp) (edge letter (by simp))

omit [DecidableEq Letter] in
theorem infix_flatMap {α : Type u} {item : α} {items : List α} (member : item ∈ items)
    (text : α → List Letter) : text item <:+: items.flatMap text := by
  obtain ⟨before, after, rfl⟩ := List.append_of_mem member
  exact ⟨before.flatMap text, after.flatMap text, by simp⟩

omit [DecidableEq Letter] in
/-- A text that begins with a marker and has an end of it nowhere begins with all of it. -/
theorem prefix_append (edge : ∀ letter ∈ second.head?, letter ∉ marker.tail) (some_ : first ≠ [])
    (start : marker <+: first ++ second) : marker <+: first := by
  obtain ⟨rest, same⟩ := start
  rcases List.append_eq_append_iff.mp same with ⟨tail, here, _⟩ | ⟨tail, here, there⟩
  · exact ⟨tail, here.symm⟩
  · cases tail with
    | nil => exact ⟨[], by simpa using here⟩
    | cons letter tail =>
        obtain ⟨other, first_, rfl⟩ := List.exists_cons_of_ne_nil some_
        exact absurd (by simp [here]) (edge letter (by simp [there]))

omit [DecidableEq Letter] in
/-- The same at the end of a text. -/
theorem suffix_append (edge : ∀ letter ∈ first.getLast?, letter ∉ marker.dropLast)
    (some_ : second ≠ []) (ending : marker <:+ first ++ second) : marker <:+ second := by
  rw [← List.reverse_prefix] at ending ⊢
  rw [List.reverse_append] at ending
  refine prefix_append (fun letter member => ?_) (by simpa using some_) ending
  rw [List.head?_reverse] at member
  have absent := edge letter member
  simpa [List.tail_reverse] using absent

omit [DecidableEq Letter] in
theorem Headed.edge (headed : Headed marker) (after : List Letter) :
    ∀ letter ∈ (marker ++ after).head?, letter ∉ marker.tail := by
  obtain ⟨letter, rest, rfl⟩ := List.exists_cons_of_ne_nil headed.some_
  rintro other ⟨⟩
  exact headed

theorem scan_placed (headed : Headed marker) (free : ¬ marker <:+: before) (place : Nat) :
    scan marker (before ++ (marker ++ after)) place = some (place + before.length) := by
  induction before generalizing place with
  | nil =>
      obtain ⟨letter, rest, rfl⟩ := List.exists_cons_of_ne_nil headed.some_
      have start : letter :: rest <+: letter :: (rest ++ after) := List.prefix_append _ after
      simp [scan, start]
  | cons letter before ih =>
      have later : ¬ marker <:+: before :=
        fun inside => free (inside.trans (List.suffix_cons _ _).isInfix)
      have other : ¬ marker <+: letter :: (before ++ (marker ++ after)) := by
        intro start
        exact free (prefix_append (headed.edge after) (List.cons_ne_nil _ before) start).isInfix
      rw [List.cons_append, scan, if_neg other, ih later, List.length_cons]
      congr 1
      omega

theorem scan_missing (headed : Headed marker) (free : ¬ marker <:+: text) (place : Nat) :
    scan marker text place = none := by
  induction text generalizing place with
  | nil => exact if_neg headed.some_
  | cons letter rest ih =>
      rw [scan, if_neg fun start => free start.isInfix]
      exact ih (fun inside => free (inside.trans (List.suffix_cons _ _).isInfix)) (place + 1)

theorem scan_found (headed : Headed marker) {place found : Nat}
    (scanned : scan marker text place = some found) :
    ∃ before after, text = before ++ (marker ++ after) ∧ found = place + before.length ∧
      ¬ marker <:+: before := by
  induction text generalizing place with
  | nil =>
      rw [scan, if_neg headed.some_] at scanned
      cases scanned
  | cons letter rest ih =>
      rw [scan] at scanned
      by_cases start : marker <+: letter :: rest
      · rw [if_pos start] at scanned
        cases scanned
        obtain ⟨after, same⟩ := start
        exact ⟨[], after, same.symm, by simp, fun inside => headed.some_ (List.infix_nil.mp inside)⟩
      · rw [if_neg start] at scanned
        obtain ⟨before, after, rfl, rfl, free⟩ := ih scanned
        refine ⟨letter :: before, after, rfl, ?_, ?_⟩
        · rw [List.length_cons]
          omega
        · intro inside
          rcases List.infix_cons_iff.mp inside with here | later
          · exact start (here.trans (List.prefix_append _ _))
          · exact free later

theorem scan_none {place : Nat} (scanned : scan marker text place = none) :
    ¬ marker <:+: text := by
  induction text generalizing place with
  | nil =>
      rw [scan] at scanned
      intro inside
      rw [if_pos (List.infix_nil.mp inside)] at scanned
      cases scanned
  | cons letter rest ih =>
      rw [scan] at scanned
      split at scanned
      · cases scanned
      · rename_i start
        intro inside
        rcases List.infix_cons_iff.mp inside with here | later
        · exact start here
        · exact ih scanned later

theorem scan_from {place found : Nat} (scanned : scan marker text place = some found) :
    place ≤ found := by
  induction text generalizing place with
  | nil =>
      rw [scan] at scanned
      split at scanned
      · cases scanned
        exact Nat.le_refl _
      · cases scanned
  | cons letter rest ih =>
      rw [scan] at scanned
      split at scanned
      · cases scanned
        exact Nat.le_refl _
      · exact Nat.le_of_succ_le (ih scanned)

theorem find_from {cursor found : Nat} (sought : find text marker cursor = some found) :
    cursor ≤ found := scan_from sought

theorem find_placed (headed : Headed marker) (free : ¬ marker <:+: before) :
    find (front ++ (before ++ (marker ++ after))) marker front.length =
      some (front.length + before.length) := by
  rw [find, List.drop_left, scan_placed headed free]

theorem find_missing (headed : Headed marker) (free : ¬ marker <:+: text) :
    find (front ++ text) marker front.length = none := by
  rw [find, List.drop_left, scan_missing headed free]

theorem find_found (headed : Headed marker) {found : Nat}
    (sought : find (front ++ text) marker front.length = some found) :
    ∃ before after, text = before ++ (marker ++ after) ∧ found = front.length + before.length ∧
      ¬ marker <:+: before := by
  rw [find, List.drop_left] at sought
  exact scan_found headed sought

theorem find_none (sought : find (front ++ text) marker front.length = none) :
    ¬ marker <:+: text := by
  rw [find, List.drop_left] at sought
  exact scan_none sought

omit [DecidableEq Letter] in
@[simp] theorem slice_middle (front middle back : List Letter) :
    slice (front ++ (middle ++ back)) front.length (front.length + middle.length) = middle := by
  rw [slice, ← List.append_assoc, ← List.length_append, List.take_left, List.drop_left]

theorem rfind_short (some_ : marker ≠ []) (short : text.length < marker.length) :
    rfind marker text = none := by
  induction text with
  | nil => exact if_neg some_
  | cons letter rest ih =>
      have other : ¬ marker <+: letter :: rest := fun start => by
        have long := start.length_le
        omega
      rw [rfind, ih (by rw [List.length_cons] at short; omega)]
      exact if_neg other

/-- At the end of a text there is no later place. -/
theorem rfind_last (some_ : marker ≠ []) :
    rfind marker (front ++ marker) = some front.length := by
  induction front with
  | nil =>
      obtain ⟨letter, rest, rfl⟩ := List.exists_cons_of_ne_nil some_
      rw [List.nil_append, rfind, rfind_short some_ (by simp)]
      exact if_pos List.prefix_rfl
  | cons letter front ih => rw [List.cons_append, rfind, ih, List.length_cons]

theorem rfind_found (some_ : marker ≠ []) {found : Nat} (sought : rfind marker text = some found) :
    ∃ before after, text = before ++ (marker ++ after) ∧ found = before.length := by
  induction text generalizing found with
  | nil =>
      rw [rfind, if_neg some_] at sought
      cases sought
  | cons letter rest ih =>
      rw [rfind] at sought
      split at sought
      · rename_i place later
        cases sought
        obtain ⟨before, after, rfl, rfl⟩ := ih later
        exact ⟨letter :: before, after, rfl, rfl⟩
      · split at sought
        · rename_i start
          cases sought
          obtain ⟨after, same⟩ := start
          exact ⟨[], after, same.symm, rfl⟩
        · cases sought

end Markers

section Clearing
variable {marker first second : List Letter}

/-- No end of the text agrees with the marker as far as both go, so that no occurrence of the
marker starts in it. -/
def Clears (marker text : List Letter) : Prop :=
  ∀ tail ∈ text.tails, tail ≠ [] → ¬ tail <+: marker ∧ ¬ marker <+: tail

instance (marker text : List Letter) : Decidable (Clears marker text) :=
  inferInstanceAs (Decidable (∀ tail ∈ text.tails, _))

omit [DecidableEq Letter] in
theorem clears_tail {letter : Letter} (clears : Clears marker (letter :: first)) :
    Clears marker first := by
  intro tail member
  apply clears tail
  rw [List.mem_tails] at member ⊢
  exact member.trans (List.suffix_cons _ _)

omit [DecidableEq Letter] in
theorem clears_absent {letter : Letter} (head : letter ∈ marker.head?) (absent : letter ∉ first) :
    Clears marker first := by
  intro tail member some_
  obtain ⟨other, rest, rfl⟩ := List.exists_cons_of_ne_nil some_
  have inside : other ∈ first := ((List.mem_tails _ _).mp member).subset List.mem_cons_self
  obtain ⟨first_, tail_, rfl⟩ : ∃ first_ tail_, marker = first_ :: tail_ := by
    cases marker with
    | nil => simp at head
    | cons first_ tail_ => exact ⟨first_, tail_, rfl⟩
  have same : first_ = letter := by simpa using head
  subst same
  constructor
  · intro start
    exact absent ((List.cons_prefix_cons.mp start).1 ▸ inside)
  · intro start
    exact absent ((List.cons_prefix_cons.mp start).1 ▸ inside)

omit [DecidableEq Letter] in
theorem clears_prefix (clears : Clears marker first) (some_ : first ≠ []) :
    ¬ marker <+: first ++ second := by
  intro start
  have here := clears first ((List.mem_tails _ _).mpr List.suffix_rfl) some_
  rcases List.prefix_or_prefix_of_prefix start (List.prefix_append first second) with less | more
  · exact here.2 less
  · exact here.1 more

omit [DecidableEq Letter] in
/-- A text that clears can stand before another without making an occurrence. -/
theorem clears_free (clears : Clears marker first) (free : ¬ marker <:+: second) :
    ¬ marker <:+: first ++ second := by
  induction first with
  | nil => exact free
  | cons letter first ih =>
      intro inside
      rcases List.infix_cons_iff.mp inside with here | later
      · exact clears_prefix clears (List.cons_ne_nil _ _) here
      · exact ih (clears_tail clears) later

omit [DecidableEq Letter] in
/-- An occurrence of the marker comes behind a text that clears. -/
theorem clears_before {before after : List Letter} (clears : Clears marker first)
    (same : first ++ second = before ++ (marker ++ after)) :
    ∃ middle, before = first ++ middle ∧ second = middle ++ (marker ++ after) := by
  rcases List.append_eq_append_iff.mp same with ⟨middle, here, there⟩ | ⟨tail, here, there⟩
  · exact ⟨middle, here, there⟩
  · cases tail with
    | nil => exact ⟨[], by simpa using here.symm, by simpa using there.symm⟩
    | cons letter tail =>
        have ending : letter :: tail <:+ first := ⟨before, here.symm⟩
        have apart := clears _ ((List.mem_tails _ _).mpr ending) (List.cons_ne_nil _ _)
        have start : letter :: tail <+: marker ++ after := ⟨second, there.symm⟩
        rcases List.prefix_or_prefix_of_prefix start (List.prefix_append marker after) with
          less | more
        · exact absurd less apart.1
        · exact absurd more apart.2

end Clearing

section Stripping
variable (space : Letter → Bool)

def strip (text : List Letter) : List Letter := (text.dropWhile space).rdropWhile space

variable {space} {text left body right : List Letter}

omit [DecidableEq Letter] in
theorem strip_parts (space : Letter → Bool) (text : List Letter) :
    ∃ left right, text = left ++ (strip space text ++ right) ∧
      (∀ letter ∈ left, space letter) ∧ ∀ letter ∈ right, space letter := by
  refine ⟨text.takeWhile space, (text.dropWhile space).rtakeWhile space, ?_, ?_, ?_⟩
  · rw [strip, List.rdropWhile_append_rtakeWhile, List.takeWhile_append_dropWhile]
  · exact fun _ member => List.mem_takeWhile_imp member
  · exact fun _ member => List.mem_rtakeWhile_imp member

omit [DecidableEq Letter] in
theorem dropWhile_padded (spaces : ∀ letter ∈ left, space letter)
    (first : ∀ letter ∈ body.head?, ¬ space letter) : (left ++ body).dropWhile space = body := by
  rw [List.dropWhile_append_of_pos spaces]
  cases body with
  | nil => rfl
  | cons letter body => exact List.dropWhile_cons_of_neg (first letter rfl)

omit [DecidableEq Letter] in
theorem rdropWhile_padded (spaces : ∀ letter ∈ right, space letter)
    (last : ∀ letter ∈ body.getLast?, ¬ space letter) :
    (body ++ right).rdropWhile space = body := by
  rw [List.rdropWhile, List.reverse_append, dropWhile_padded (by simpa using spaces)]
  · exact List.reverse_reverse body
  · simpa using last

omit [DecidableEq Letter] in
theorem strip_padded (spaces : ∀ letter ∈ left, space letter)
    (spaces_ : ∀ letter ∈ right, space letter) (first : ∀ letter ∈ body.head?, ¬ space letter)
    (last : ∀ letter ∈ body.getLast?, ¬ space letter) :
    strip space (left ++ (body ++ right)) = body := by
  cases body with
  | nil =>
      have all : ∀ letter ∈ left ++ right, space letter := by
        intro letter member
        rcases List.mem_append.mp member with here | here
        · exact spaces letter here
        · exact spaces_ letter here
      rw [List.nil_append, strip, List.dropWhile_eq_nil_iff.mpr all]
      rfl
  | cons letter body =>
      rw [strip, dropWhile_padded spaces (by simpa using first), rdropWhile_padded spaces_ last]

omit [DecidableEq Letter] in
theorem strip_empty (spaces : ∀ letter ∈ text, space letter) : strip space text = [] := by
  rw [strip, List.dropWhile_eq_nil_iff.mpr spaces]
  rfl

omit [DecidableEq Letter] in
theorem strip_nil (empty : strip space text = []) : ∀ letter ∈ text, space letter := by
  obtain ⟨left, right, same, spaces, spaces_⟩ := strip_parts space text
  rw [empty, List.nil_append] at same
  intro letter member
  rw [same] at member
  rcases List.mem_append.mp member with here | here
  · exact spaces letter here
  · exact spaces_ letter here

omit [DecidableEq Letter] in
theorem strip_some {letter : Letter} (member : letter ∈ text) (visible : ¬ space letter) :
    strip space text ≠ [] := fun empty => visible (strip_nil empty letter member)

omit [DecidableEq Letter] in
theorem dropWhile_spaces (spaces : ∀ letter ∈ left, space letter) :
    (left ++ body).dropWhile space = body.dropWhile space :=
  List.dropWhile_append_of_pos spaces

omit [DecidableEq Letter] in
theorem rdropWhile_spaces (spaces : ∀ letter ∈ right, space letter) :
    (body ++ right).rdropWhile space = body.rdropWhile space := by
  rw [List.rdropWhile, List.reverse_append, dropWhile_spaces (by simpa using spaces)]
  rfl

omit [DecidableEq Letter] in
/-- Space at the ends makes no difference. -/
theorem strip_spaces (spaces : ∀ letter ∈ left, space letter)
    (spaces_ : ∀ letter ∈ right, space letter) :
    strip space (left ++ (body ++ right)) = strip space body := by
  rw [strip, strip, dropWhile_spaces spaces, List.dropWhile_append]
  split
  · rename_i empty
    rw [List.isEmpty_iff] at empty
    rw [empty, List.dropWhile_eq_nil_iff.mpr spaces_]
  · exact rdropWhile_spaces spaces_

omit [DecidableEq Letter] in
theorem dropWhile_head {letter : Letter} (start : letter ∈ (text.dropWhile space).head?) :
    ¬ space letter := by
  have not_ := List.head?_dropWhile_not space text
  rw [Option.mem_def.mp start] at not_
  simpa using not_

omit [DecidableEq Letter] in
theorem rdropWhile_end {letter : Letter} (end_ : letter ∈ (text.rdropWhile space).getLast?) :
    ¬ space letter := by
  rw [List.rdropWhile, List.getLast?_reverse] at end_
  exact dropWhile_head end_

omit [DecidableEq Letter] in
theorem strip_head {letter : Letter} (start : letter ∈ (strip space text).head?) :
    ¬ space letter := by
  obtain ⟨rest, same⟩ := @List.rdropWhile_prefix _ space (text.dropWhile space)
  apply @dropWhile_head _ space text
  rw [strip, Option.mem_def] at start
  rw [← same, List.head?_append, start]
  rfl

omit [DecidableEq Letter] in
theorem strip_strip (space : Letter → Bool) (text : List Letter) :
    strip space (strip space text) = strip space text := by
  obtain ⟨left, right, same, spaces, spaces_⟩ := strip_parts space text
  have whole := @strip_spaces _ space left (strip space text) right spaces spaces_
  rw [← same] at whole
  exact whole.symm

end Stripping

end Q38.MarkerSearch
