import Q38Runtime.TextFields

/-!
The streams that `q38_identity.py` hashes. The content of one file and the name of the next
one stand side by side with nothing between them, so that a stream tells of its files only
where there is one file and no name can be read out of its content.
-/
namespace Q38.InputHashes
open TensorLedger TextFields

section Inputs

/-- The name of a file or of a directory inside another. -/
abbrev Component :=
  {text : List Char // text ≠ [] ∧ '/' ∉ text ∧ '\x00' ∉ text ∧
    text ≠ ['.'] ∧ text ≠ ['.', '.']}

@[ext] structure File where
  path : List (List Char)
  content : List UInt8
  deriving DecidableEq

/-- What `rglob` finds that is a file. A file is no directory of another one. -/
structure Tree where
  items : List (List Component × List UInt8)
  below : ∀ item ∈ items, item.1 ≠ []
  apart : items.Pairwise fun left right => ¬ left.1 <+: right.1 ∧ ¬ right.1 <+: left.1

/-- `absent` is also what is neither a file nor a directory. -/
inductive Found
  | absent
  | file (name : Component) (content : List UInt8)
  | directory (name : {text : List Char // '\x00' ∉ text}) (tree : Tree)

structure Input where
  path : String
  found : Found

def Input.name (input : Input) : List Char :=
  match input.found with
  | .absent => []
  | .file name _ => name
  | .directory name _ => name

inductive IdentityError
  | fileNotFound (path : String)
  | valueError (text : String)
  deriving DecidableEq

end Inputs

section Hashing

def ignoredParts : List (List Char) :=
  [".git", "build", "__pycache__", ".pytest_cache", ".venv"].map String.toList

def ignoredEnds : List (List Char) := [".pyc", ".q38i"].map String.toList

/-- The files that a directory's hash leaves out. -/
def Ignored (path : List (List Char)) : Prop :=
  (∃ part ∈ path, part ∈ ignoredParts) ∨
    ∃ ending ∈ ignoredEnds, ending <:+ (path.getLast?.getD [])

instance (path : List (List Char)) : Decidable (Ignored path) :=
  inferInstanceAs (Decidable (_ ∨ _))

/-- The parts of a path as texts. -/
def plainPath (path : List Component) : List (List Char) := path.map Subtype.val

/-- The files of a directory in the order of their paths, which compare part by part. -/
def Tree.files (tree : Tree) : List File :=
  ((tree.items.map fun item => ⟨plainPath item.1, item.2⟩).filter
    fun file : File => ¬ Ignored file.path).insertionSort fun left right => left.path ≤ right.path

/-- The files of an input that count. -/
def Input.files (input : Input) : List File :=
  match input.found with
  | .absent => []
  | .file name content => [⟨[name.val], content⟩]
  | .directory _ tree => tree.files

/-- The relative name of a file, the NUL behind it and its content. -/
def File.record (file : File) : List UInt8 :=
  encode (joined ['/'] file.path) ++ [0] ++ file.content

/-- The bytes that `hash_path` hashes. -/
def hashPathStream (input : Input) : Except IdentityError (List UInt8) :=
  match input.found with
  | .absent => .error (.fileNotFound input.path)
  | .file name content => .ok (File.record ⟨[name.val], content⟩)
  | .directory _ tree =>
      if tree.files = [] then
        .error (.valueError ("identity input directory is empty: " ++ input.path))
      else .ok (tree.files.flatMap File.record)

variable (sha256 : List UInt8 → Vector UInt8 32)

def hashPath (input : Input) : Except IdentityError (Vector UInt8 32) := do
  let stream ← hashPathStream input
  return sha256 stream

/-- One entry of a group: its name, the NUL behind it and the hash of its path. -/
def entryStream (name : List Char) (input : Input) : Except IdentityError (List UInt8) := do
  let digest ← hashPath sha256 input
  return encode name ++ [0] ++ digest.toList

/-- The bytes that `hash_group` hashes. -/
def hashGroupStream (paths : List Input) : Except IdentityError (List UInt8) := do
  let entries ← paths.mapM fun path => entryStream sha256 path.name path
  return entries.flatten

def runtimeInputs : List String := ["Makefile", "include", "src", "cuda", "tools"]

/-- What is below the root of the runtime under a name. -/
structure Root where
  entry : String → Input
  named : ∀ relative name content,
    (entry relative).found = .file name content → name.val = relative.toList

/-- The bytes that `hash_runtime` hashes. -/
def hashRuntimeStream (root : Root) : Except IdentityError (List UInt8) := do
  let entries ← runtimeInputs.mapM fun relative =>
    match (root.entry relative).found with
    | .absent => .error (.fileNotFound (root.entry relative).path)
    | _ => entryStream sha256 relative.toList (root.entry relative)
  return entries.flatten

end Hashing

section Reading

theorem encode_injective : Function.Injective encode := by
  intro first second same
  have bytes : first.utf8Encode = second.utf8Encode := congrArg List.toByteArray same
  apply String.ofList_injective
  apply String.toByteArray_inj.mp
  rw [String.toByteArray_ofList, String.toByteArray_ofList, bytes]

theorem encode_nul {letter : Char} (nul : 0 ∈ String.utf8EncodeChar letter) :
    letter = '\x00' := by
  apply Char.ext
  apply UInt32.toNat_inj.mp
  change letter.toNat = 0
  unfold String.utf8EncodeChar at nul
  dsimp only at nul
  rw [show letter.val.toNat = letter.toNat from rfl] at nul
  split at nul
  · simp only [List.mem_singleton] at nul
    have read := congrArg UInt8.toNat nul
    simp at read
    omega
  · exfalso
    split at nul
    · simp [← UInt8.toNat_inj] at nul
      omega
    · split at nul
      · simp [← UInt8.toNat_inj] at nul
        omega
      · simp [← UInt8.toNat_inj] at nul
        omega

theorem encode_plain {text : List Char} (plain : '\x00' ∉ text) : 0 ∉ encode text := by
  intro nul
  obtain ⟨letter, member, nul⟩ := List.mem_flatMap.mp nul
  exact plain (encode_nul nul ▸ member)

/-- What stands before the first NUL, and what behind it. -/
theorem nul_read {first second before after : List UInt8} (plain : 0 ∉ first)
    (plain_ : 0 ∉ second) (same : first ++ 0 :: before = second ++ 0 :: after) :
    first = second ∧ before = after := by
  induction first generalizing second with
  | nil =>
      cases second with
      | nil => exact ⟨rfl, List.tail_eq_of_cons_eq same⟩
      | cons byte rest =>
          have here : (0 : UInt8) = byte := List.head_eq_of_cons_eq same
          exact absurd (here ▸ List.mem_cons_self) plain_
  | cons byte rest ih =>
      cases second with
      | nil =>
          have here : byte = 0 := List.head_eq_of_cons_eq same
          exact absurd (here ▸ List.mem_cons_self) plain
      | cons other others =>
          have here : byte = other := List.head_eq_of_cons_eq same
          rw [List.mem_cons, not_or] at plain plain_
          obtain ⟨read, tail⟩ := ih plain.2 plain_.2 (List.tail_eq_of_cons_eq same)
          exact ⟨here ▸ read ▸ rfl, tail⟩

end Reading

section Files
variable {input : Input} {stream : List UInt8} {path first second : List (List Char)}

/-- A path that a directory can have. -/
def Plain (path : List (List Char)) : Prop :=
  ∃ components : List Component, components ≠ [] ∧ plainPath components = path

theorem plain_part {path : List (List Char)} (plain : Plain path) {part : List Char}
    (member : part ∈ path) : part ≠ [] ∧ '/' ∉ part ∧ '\x00' ∉ part := by
  obtain ⟨components, _, rfl⟩ := plain
  obtain ⟨component, _, rfl⟩ := List.mem_map.mp member
  exact ⟨component.property.1, component.property.2.1, component.property.2.2.1⟩

theorem plain_encoded (plain : Plain path) : 0 ∉ encode (joined ['/'] path) :=
  encode_plain (joined_plain (by decide) fun _ member => (plain_part plain member).2.2)

theorem joined_read (plain : Plain first) (plain_ : Plain second)
    (same : joined ['/'] first = joined ['/'] second) : first = second := by
  have parts {path : List (List Char)} (plain : Plain path) :
      PleLayout.split '/' (joined ['/'] path) [] = path :=
    split_joined (fun _ member => (plain_part plain member).2.1)
      (fun _ last => (plain_part plain (List.mem_of_getLast? last)).1)
  rw [← parts plain, same, parts plain_]

theorem record_read {before after : File} {tail tail_ : List UInt8} (plain : Plain before.path)
    (plain_ : Plain after.path) (same : before.record ++ tail = after.record ++ tail_) :
    before.path = after.path ∧ before.content ++ tail = after.content ++ tail_ := by
  simp only [File.record, List.append_assoc, List.cons_append] at same
  obtain ⟨names, contents⟩ := nul_read (plain_encoded plain) (plain_encoded plain_) same
  exact ⟨joined_read plain plain_ (encode_injective names), contents⟩

theorem tree_files_mem {tree : Tree} {file : File} (member : file ∈ tree.files) :
    ¬ Ignored file.path ∧ ∃ item ∈ tree.items, ⟨plainPath item.1, item.2⟩ = file := by
  rw [Tree.files, List.mem_insertionSort, List.mem_filter, List.mem_map] at member
  exact ⟨of_decide_eq_true member.2, member.1⟩

theorem files_plain {file : File} (member : file ∈ input.files) : Plain file.path := by
  unfold Input.files at member
  split at member
  · cases member
  · rename_i name content _
    rw [List.mem_singleton.mp member]
    exact ⟨[name], List.cons_ne_nil _ _, rfl⟩
  · rename_i tree _
    obtain ⟨_, item, inside, rfl⟩ := tree_files_mem member
    exact ⟨item.1, tree.below item inside, rfl⟩

theorem plain_path_below {before after : List Component} :
    plainPath before <+: plainPath after ↔ before <+: after :=
  List.prefix_map_iff_of_injective Subtype.val_injective

/-- The files of a directory come in the order of their paths, and none is below another. -/
theorem tree_files_apart (tree : Tree) :
    tree.files.Pairwise fun left right => left.path < right.path ∧ ¬ left.path <+: right.path := by
  let order : File → File → Prop := fun left right => left.path ≤ right.path
  let apart : File → File → Prop := fun left right =>
    ¬ left.path <+: right.path ∧ ¬ right.path <+: left.path
  let kept := (tree.items.map fun item => (⟨plainPath item.1, item.2⟩ : File)).filter
    fun file => ¬ Ignored file.path
  have total : Std.Total order := ⟨fun left right => le_total left.path right.path⟩
  have trans : IsTrans File order := ⟨fun _ _ _ before after => le_trans before after⟩
  have sorted : tree.files.Pairwise order := List.pairwise_insertionSort order kept
  have keptApart : kept.Pairwise apart := by
    apply List.Pairwise.filter
    rw [List.pairwise_map]
    exact tree.apart.imp fun both =>
      ⟨fun before => both.1 (plain_path_below.mp before),
        fun after => both.2 (plain_path_below.mp after)⟩
  have filesApart : tree.files.Pairwise apart :=
    (List.Perm.pairwise_iff (fun both => ⟨both.2, both.1⟩)
      (List.perm_insertionSort order kept)).mpr keptApart
  exact (sorted.and filesApart).imp fun both =>
    ⟨lt_of_le_of_ne both.1 fun same => both.2.1 (same ▸ List.prefix_rfl), both.2.1⟩

theorem stream_of_files (some_ : input.files ≠ []) :
    hashPathStream input = .ok (input.files.flatMap File.record) := by
  unfold Input.files at some_ ⊢
  unfold hashPathStream
  split
  · simp_all
  · simp
  · simp_all

theorem stream_files (hashed : hashPathStream input = .ok stream) :
    input.files ≠ [] ∧ stream = input.files.flatMap File.record := by
  have some_ : input.files ≠ [] := by
    intro empty
    unfold Input.files at empty
    unfold hashPathStream at hashed
    split at hashed
    · cases hashed
    · simp_all
    · simp_all
  rw [stream_of_files some_] at hashed
  exact ⟨some_, (Except.ok.inj hashed).symm⟩

end Files

section Paths
variable {input : Input}

/-- Inputs whose files are others are hashed from other streams. -/
def Commits (input : Input) : Prop :=
  ∀ other : Input, input.files ≠ other.files → hashPathStream input ≠ hashPathStream other

/-- A path that a directory can have behind the first one. -/
structure Follows (first next : List (List Char)) : Prop where
  plain : Plain next
  kept : ¬ Ignored next
  later : first < next
  apart : ¬ first <+: next

/-- The content of a file can be read as a shorter content and a file behind it. -/
def Readable (file : File) : Prop :=
  ¬ Ignored file.path ∧ ∃ before next after,
    file.content = before ++ File.record ⟨next, after⟩ ∧ Follows file.path next

/-- There is one file, and its content cannot be read as that of more. -/
def Alone (input : Input) : Prop := ∃ file, input.files = [file] ∧ ¬ Readable file

/-- A directory of some files, where a path has the parts of `components`. -/
def Tree.ofOne (components : List Component) (content : List UInt8) (some_ : components ≠ []) :
    Tree where
  items := [(components, content)]
  below := by simpa using some_
  apart := List.pairwise_singleton _ _

def Tree.ofTwo (first second : List Component × List UInt8) (some_ : first.1 ≠ [])
    (later : second.1 ≠ []) (apart : ¬ first.1 <+: second.1 ∧ ¬ second.1 <+: first.1) : Tree where
  items := [first, second]
  below := by
    intro item member
    rcases List.mem_pair.mp member with rfl | rfl
    · exact some_
    · exact later
  apart := List.pairwise_pair.mpr apart

theorem one_file {components : List Component} {content : List UInt8} (some_ : components ≠ [])
    (kept : ¬ Ignored (plainPath components)) :
    (Tree.ofOne components content some_).files = [⟨plainPath components, content⟩] := by
  simp [Tree.files, Tree.ofOne, kept]

theorem two_files {first second : List Component × List UInt8} (some_ : first.1 ≠ [])
    (later : second.1 ≠ []) (apart : ¬ first.1 <+: second.1 ∧ ¬ second.1 <+: first.1)
    (kept : ¬ Ignored (plainPath first.1)) (kept_ : ¬ Ignored (plainPath second.1))
    (sorted : plainPath first.1 < plainPath second.1) :
    (Tree.ofTwo first second some_ later apart).files =
      [⟨plainPath first.1, first.2⟩, ⟨plainPath second.1, second.2⟩] := by
  simp [Tree.files, Tree.ofTwo, kept, kept_, sorted.le]

/-- More than one file is found in a directory only. -/
theorem many_files {first second : File} {rest : List File}
    (files : input.files = first :: second :: rest) :
    ∃ tree : Tree, tree.files = first :: second :: rest := by
  unfold Input.files at files
  split at files
  · cases files
  · cases files
  · exact ⟨_, files⟩

/-- Where the content of one file can be read as more files, another directory of the same
name has the same stream. -/
theorem mistaken (accepted : input.files ≠ []) (open_ : ¬ Alone input) :
    ∃ tree : Tree, tree.files ≠ input.files ∧ tree.files ≠ [] ∧
      tree.files.flatMap File.record = input.files.flatMap File.record := by
  obtain ⟨first, rest, files⟩ := List.exists_cons_of_ne_nil accepted
  have member : first ∈ input.files := by simp [files]
  obtain ⟨components, some_, path⟩ := files_plain member
  cases rest with
  | nil =>
      have readable : Readable first := by
        by_contra closed
        exact open_ ⟨first, files, closed⟩
      obtain ⟨kept, before, next, after, content, follows⟩ := readable
      obtain ⟨components_, later, rfl⟩ := follows.plain
      have sorted : plainPath components < plainPath components_ := path ▸ follows.later
      have apart : ¬ components <+: components_ ∧ ¬ components_ <+: components := by
        constructor
        · exact fun before => follows.apart (path ▸ plain_path_below.mpr before)
        · intro before
          exact (plain_path_below.mpr before).le sorted
      have two := @two_files (components, before) (components_, after) some_ later apart
        (path ▸ kept) follows.kept sorted
      refine ⟨Tree.ofTwo (components, before) (components_, after) some_ later apart, ?_, ?_, ?_⟩
      · rw [two, files]
        simp
      · rw [two]
        simp
      · rw [two, files]
        simp [File.record, content, path]
  | cons second rest =>
      have kept : ¬ Ignored first.path := by
        obtain ⟨tree, same⟩ := many_files files
        have member : first ∈ tree.files := by simp [same]
        exact (tree_files_mem member).1
      let content := first.content ++ (second :: rest).flatMap File.record
      have one := @one_file components content some_ (path ▸ kept)
      refine ⟨Tree.ofOne components content some_, ?_, ?_, ?_⟩
      · rw [one, files]
        simp
      · rw [one]
        simp
      · rw [one, files]
        simp [File.record, content, path]

theorem name_plain (input : Input) : '\x00' ∉ input.name := by
  unfold Input.name
  split
  · exact List.not_mem_nil
  · rename_i name _ _
    exact name.property.2.2.1
  · rename_i name _ _
    exact name.property

/-- The input with a directory of its name in its place. -/
def Input.replaced (input : Input) (tree : Tree) : Input :=
  ⟨input.path, .directory ⟨input.name, name_plain input⟩ tree⟩

/-- Where no file can be read out of the content, the stream tells of the one file. -/
theorem alone_commits (alone : Alone input) : Commits input := by
  obtain ⟨file, files, closed⟩ := alone
  intro other differ same
  apply differ
  have some_ : input.files ≠ [] := by simp [files]
  rw [stream_of_files some_] at same
  obtain ⟨some_', streams⟩ := stream_files same.symm
  obtain ⟨first, rest, files_⟩ := List.exists_cons_of_ne_nil some_'
  have member : file ∈ input.files := by simp [files]
  have member_ : first ∈ other.files := by simp [files_]
  have plain : Plain file.path := files_plain member
  have plain_ : Plain first.path := files_plain member_
  have read : file.path = first.path ∧ file.content ++ [] =
      first.content ++ rest.flatMap File.record := by
    apply record_read plain plain_
    simpa [files, files_] using streams
  obtain ⟨path, content⟩ := read
  rw [List.append_nil] at content
  cases rest with
  | nil =>
      have same_ : file = first := File.ext path (by simpa using content)
      rw [files, files_, same_]
  | cons second rest =>
      obtain ⟨tree, shape⟩ := many_files files_
      have apart := tree_files_apart tree
      rw [shape, List.pairwise_cons] at apart
      obtain ⟨later, notBelow⟩ := apart.1 second List.mem_cons_self
      have inside : first ∈ tree.files := by simp [shape]
      have inside_ : second ∈ tree.files := by simp [shape]
      have kept := tree_files_mem inside
      have kept_ := tree_files_mem inside_
      have second_ : second ∈ other.files := by simp [files_]
      have plainSecond : Plain second.path := files_plain second_
      exfalso
      apply closed
      refine ⟨path ▸ kept.1, first.content, second.path,
        second.content ++ rest.flatMap File.record, ?_, ?_⟩
      · rw [content]
        simp [File.record]
      · exact ⟨plainSecond, kept_.1, path ▸ later, path ▸ notBelow⟩

theorem commits_iff (accepted : input.files ≠ []) : Commits input ↔ Alone input := by
  constructor
  · intro commits
    by_contra open_
    obtain ⟨tree, differ, some_, same⟩ := mistaken accepted open_
    apply commits (input.replaced tree) (Ne.symm differ)
    rw [stream_of_files accepted, @stream_of_files (input.replaced tree) some_]
    exact congrArg Except.ok same.symm
  · exact alone_commits

end Paths

section Groups
variable {sha256 : List UInt8 → Vector UInt8 32} {pairs others : List (List Char × Input)}

/-- Two of the inputs are hashed from different streams to one digest. -/
def Collision (sha256 : List UInt8 → Vector UInt8 32) (inputs : List Input) : Prop :=
  ∃ left ∈ inputs, ∃ right ∈ inputs,
    hashPathStream left ≠ hashPathStream right ∧ hashPath sha256 left = hashPath sha256 right

/-- Groups and runtimes alike are entries with a name and an input. -/
def pairsStream (sha256 : List UInt8 → Vector UInt8 32) (pairs : List (List Char × Input)) :
    Except IdentityError (List UInt8) := do
  let entries ← pairs.mapM fun pair => entryStream sha256 pair.1 pair.2
  return entries.flatten

def digestOf (sha256 : List UInt8 → Vector UInt8 32) (input : Input) : Vector UInt8 32 :=
  sha256 (input.files.flatMap File.record)

def entryBytes (sha256 : List UInt8 → Vector UInt8 32) (pair : List Char × Input) : List UInt8 :=
  encode pair.1 ++ 0 :: (digestOf sha256 pair.2).toList

theorem hash_path_files {input : Input} (some_ : input.files ≠ []) :
    hashPath sha256 input = .ok (digestOf sha256 input) := by
  rw [hashPath, stream_of_files some_]
  rfl

theorem entry_files {name : List Char} {input : Input} (some_ : input.files ≠ []) :
    entryStream sha256 name input = .ok (entryBytes sha256 (name, input)) := by
  rw [entryStream, hash_path_files some_]
  simp [entryBytes, bind, Except.bind, pure, Except.pure]

theorem entry_accepted {name : List Char} {input : Input} {bytes : List UInt8}
    (hashed : entryStream sha256 name input = .ok bytes) : input.files ≠ [] := by
  obtain ⟨digest, hashed, _⟩ := FallibleRuns.bind_ok hashed
  obtain ⟨stream, hashed, _⟩ := FallibleRuns.bind_ok hashed
  exact (stream_files hashed).1

theorem pairs_files (some_ : ∀ pair ∈ pairs, pair.2.files ≠ []) :
    pairsStream sha256 pairs = .ok (pairs.flatMap (entryBytes sha256)) := by
  have entries : (pairs.mapM fun pair => entryStream sha256 pair.1 pair.2) =
      .ok (pairs.map (entryBytes sha256)) := by
    induction pairs with
    | nil => rfl
    | cons pair rest ih =>
        rw [List.mapM_cons, entry_files (some_ pair List.mem_cons_self),
          ih fun other member => some_ other (List.mem_cons_of_mem pair member)]
        rfl
  rw [pairsStream, entries, List.flatMap_def]
  rfl

theorem pairs_accepted {stream : List UInt8} (hashed : pairsStream sha256 pairs = .ok stream) :
    ∀ pair ∈ pairs, pair.2.files ≠ [] := by
  intro pair member
  obtain ⟨entries, hashed, _⟩ := FallibleRuns.bind_ok hashed
  obtain ⟨index, bound, rfl⟩ := List.mem_iff_getElem.mp member
  have each := FallibleRuns.map_ok hashed
  exact entry_accepted (each.get bound (each.length_eq ▸ bound))

/-- A name ends at its NUL and a digest has 32 bytes, so entries are read one by one. -/
theorem pairs_read (plain : ∀ pair ∈ pairs, '\x00' ∉ pair.1)
    (plain_ : ∀ pair ∈ others, '\x00' ∉ pair.1)
    (same : pairs.flatMap (entryBytes sha256) = others.flatMap (entryBytes sha256)) :
    List.Forall₂ (fun left right => left.1 = right.1 ∧
      digestOf sha256 left.2 = digestOf sha256 right.2) pairs others := by
  induction pairs generalizing others with
  | nil =>
      cases others with
      | nil => exact .nil
      | cons other rest => simp [entryBytes] at same
  | cons pair rest ih =>
      cases others with
      | nil => simp [entryBytes] at same
      | cons other rest_ =>
          simp only [List.flatMap_cons, entryBytes, List.append_assoc, List.cons_append] at same
          obtain ⟨names, tails⟩ := nul_read (encode_plain (plain pair List.mem_cons_self))
            (encode_plain (plain_ other List.mem_cons_self)) same
          obtain ⟨digests, tails⟩ := List.append_inj tails (by simp)
          refine .cons ⟨encode_injective names, Vector.toList_inj.mp digests⟩ ?_
          exact ih (fun next member => plain next (List.mem_cons_of_mem pair member))
            (fun next member => plain_ next (List.mem_cons_of_mem other member)) tails

/-- Different files below equal names are told apart, if two streams have not one digest. -/
theorem pairs_alone (alone : ∀ pair ∈ pairs, Alone pair.2)
    (plain : ∀ pair ∈ pairs, '\x00' ∉ pair.1) (plain_ : ∀ pair ∈ others, '\x00' ∉ pair.1)
    (same : pairsStream sha256 pairs = pairsStream sha256 others)
    (apart : ¬ Collision sha256 (pairs.map Prod.snd ++ others.map Prod.snd)) :
    List.Forall₂ (fun left right => left.1 = right.1 ∧ left.2.files = right.2.files)
      pairs others := by
  have some_ : ∀ pair ∈ pairs, pair.2.files ≠ [] := by
    intro pair member
    obtain ⟨file, files, _⟩ := alone pair member
    simp [files]
  rw [pairs_files some_] at same
  have some_' : ∀ pair ∈ others, pair.2.files ≠ [] := pairs_accepted same.symm
  rw [pairs_files some_'] at same
  have read := pairs_read plain plain_ (Except.ok.inj same)
  rw [List.forall₂_iff_get] at read ⊢
  refine ⟨read.1, fun index bound bound_ => ?_⟩
  obtain ⟨names, digests⟩ := read.2 index bound bound_
  have member : pairs.get ⟨index, bound⟩ ∈ pairs := List.get_mem _ _
  have member_ : others.get ⟨index, bound_⟩ ∈ others := List.get_mem _ _
  refine ⟨names, ?_⟩
  by_contra differ
  apply apart
  refine ⟨_, List.mem_append_left _ (List.mem_map_of_mem member), _,
    List.mem_append_right _ (List.mem_map_of_mem member_),
    alone_commits (alone _ member) _ differ, ?_⟩
  rw [hash_path_files (some_ _ member), hash_path_files (some_' _ member_), digests]

/-- Inputs with the same streams as others bring no new collision. -/
theorem collision_same {inputs others : List Input} (apart : ¬ Collision sha256 inputs)
    (same : ∀ other ∈ others, ∃ input ∈ inputs, hashPathStream other = hashPathStream input) :
    ¬ Collision sha256 (inputs ++ others) := by
  have found : ∀ input ∈ inputs ++ others, ∃ known ∈ inputs,
      hashPathStream input = hashPathStream known := by
    intro input member
    rcases List.mem_append.mp member with member | member
    · exact ⟨input, member, rfl⟩
    · exact same input member
  rintro ⟨left, member, right, member_, differ, digests⟩
  obtain ⟨known, inside, stream⟩ := found left member
  obtain ⟨known_, inside_, stream_⟩ := found right member_
  apply apart
  refine ⟨known, inside, known_, inside_, stream ▸ stream_ ▸ differ, ?_⟩
  simpa [hashPath, stream, stream_] using digests

end Groups

section Commitments
variable {sha256 : List UInt8 → Vector UInt8 32}

/-- Groups of other names or files are hashed from other streams, or two streams have one
digest. -/
def CommitsGroup (sha256 : List UInt8 → Vector UInt8 32) (paths : List Input) : Prop :=
  ∀ others : List Input,
    (paths.map fun path => (path.name, path.files)) ≠
      (others.map fun path => (path.name, path.files)) →
    hashGroupStream sha256 paths ≠ hashGroupStream sha256 others ∨
      Collision sha256 (paths ++ others)

def Root.inputs (root : Root) : List Input := runtimeInputs.map root.entry

/-- Runtimes of other files are hashed from other streams, or two streams have one digest. -/
def CommitsRuntime (sha256 : List UInt8 → Vector UInt8 32) (root : Root) : Prop :=
  ∀ other : Root, root.inputs.map Input.files ≠ other.inputs.map Input.files →
    hashRuntimeStream sha256 root ≠ hashRuntimeStream sha256 other ∨
      Collision sha256 (root.inputs ++ other.inputs)

def groupPairs (paths : List Input) : List (List Char × Input) :=
  paths.map fun path => (path.name, path)

def Root.pairs (root : Root) : List (List Char × Input) :=
  runtimeInputs.map fun relative => (relative.toList, root.entry relative)

theorem group_pairs (paths : List Input) :
    hashGroupStream sha256 paths = pairsStream sha256 (groupPairs paths) := by
  rw [hashGroupStream, pairsStream, groupPairs, List.mapM_map]
  rfl

theorem runtime_pairs (root : Root) :
    hashRuntimeStream sha256 root = pairsStream sha256 root.pairs := by
  have step : ∀ relative, (match (root.entry relative).found with
      | .absent => .error (.fileNotFound (root.entry relative).path)
      | _ => entryStream sha256 relative.toList (root.entry relative)) =
        entryStream sha256 relative.toList (root.entry relative) := by
    intro relative
    split
    · rename_i absent
      simp [entryStream, hashPath, hashPathStream, absent, bind, Except.bind]
    · rfl
  rw [hashRuntimeStream, pairsStream, Root.pairs, List.mapM_map]
  simp only [step]
  rfl

theorem group_inputs (paths : List Input) : (groupPairs paths).map Prod.snd = paths := by
  rw [groupPairs, List.map_map]
  exact List.map_id paths

theorem group_names {paths : List Input} : ∀ pair ∈ groupPairs paths, '\x00' ∉ pair.1 := by
  intro pair member
  obtain ⟨path, _, rfl⟩ := List.mem_map.mp member
  exact name_plain path

theorem runtime_inputs (root : Root) : root.pairs.map Prod.snd = root.inputs := by
  simp [Root.pairs, Root.inputs]

theorem runtime_names {root : Root} : ∀ pair ∈ root.pairs, '\x00' ∉ pair.1 := by
  have plain : ∀ relative ∈ runtimeInputs, '\x00' ∉ relative.toList := by decide
  intro pair inside
  obtain ⟨relative, member, rfl⟩ := List.mem_map.mp inside
  exact plain relative member

/-- The stream of an input that has another one's stream. -/
theorem replaced_stream {input : Input} {tree : Tree} (accepted : input.files ≠ [])
    (some_ : tree.files ≠ [])
    (same : tree.files.flatMap File.record = input.files.flatMap File.record) :
    hashPathStream (input.replaced tree) = hashPathStream input := by
  rw [stream_of_files accepted, @stream_of_files (input.replaced tree) some_]
  exact congrArg Except.ok same

theorem group_commits_iff {paths : List Input} {stream : List UInt8}
    (accepted : hashGroupStream sha256 paths = .ok stream) (apart : ¬ Collision sha256 paths) :
    CommitsGroup sha256 paths ↔ ∀ path ∈ paths, Alone path := by
  have some_ : ∀ path ∈ paths, path.files ≠ [] := by
    intro path member
    rw [group_pairs] at accepted
    exact pairs_accepted accepted (path.name, path) (List.mem_map_of_mem member)
  constructor
  · intro commits path member
    by_contra open_
    obtain ⟨tree, differ, filled, same⟩ := mistaken (some_ path member) open_
    have streams := replaced_stream (some_ path member) filled same
    obtain ⟨left, right, rfl⟩ := List.append_of_mem member
    have changed : ¬ path.files = (path.replaced tree).files := Ne.symm differ
    rcases commits (left ++ path.replaced tree :: right) (by simp [changed]) with
      differ_ | collision
    · apply differ_
      simp only [hashGroupStream, List.mapM_append, List.mapM_cons, entryStream, hashPath, streams]
      rfl
    · refine collision_same apart (fun other member => ?_) collision
      rcases List.mem_append.mp member with member | member
      · exact ⟨other, by simp [member], rfl⟩
      · rcases List.mem_cons.mp member with rfl | member
        · exact ⟨path, by simp, streams⟩
        · exact ⟨other, by simp [member], rfl⟩
  · intro alone others differ
    by_contra both
    rw [not_or, not_not, group_pairs, group_pairs] at both
    obtain ⟨same, apart_⟩ := both
    have read := pairs_alone (by simpa [groupPairs] using alone) group_names group_names same
      (by rwa [group_inputs, group_inputs])
    apply differ
    rw [groupPairs, groupPairs, List.forall₂_map_left_iff, List.forall₂_map_right_iff] at read
    rw [← List.forall₂_eq_eq_eq, List.forall₂_map_left_iff, List.forall₂_map_right_iff]
    exact read.imp fun _ _ both => Prod.ext both.1 both.2

/-- The root with another directory under one name. -/
def Root.replaced (root : Root) (relative : String) (tree : Tree) : Root where
  entry := Function.update root.entry relative ((root.entry relative).replaced tree)
  named := by
    intro other name content found
    by_cases here : other = relative
    · subst here
      rw [Function.update_self] at found
      cases found
    · rw [Function.update_of_ne here] at found
      exact root.named other name content found

theorem runtime_commits_iff {root : Root} {stream : List UInt8}
    (accepted : hashRuntimeStream sha256 root = .ok stream)
    (apart : ¬ Collision sha256 root.inputs) :
    CommitsRuntime sha256 root ↔ ∀ relative ∈ runtimeInputs, Alone (root.entry relative) := by
  have some_ : ∀ relative ∈ runtimeInputs, (root.entry relative).files ≠ [] := by
    intro relative member
    rw [runtime_pairs] at accepted
    exact pairs_accepted accepted (relative.toList, root.entry relative)
      (List.mem_map_of_mem member)
  constructor
  · intro commits relative member
    by_contra open_
    obtain ⟨tree, differ, filled, same⟩ := mistaken (some_ relative member) open_
    have streams := replaced_stream (some_ relative member) filled same
    have each : ∀ other, hashPathStream ((root.replaced relative tree).entry other) =
        hashPathStream (root.entry other) := by
      intro other
      by_cases here : other = relative
      · subst here
        simpa [Root.replaced] using streams
      · simp [Root.replaced, here]
    have changed : root.inputs.map Input.files ≠
        (root.replaced relative tree).inputs.map Input.files := by
      intro all
      rw [Root.inputs, Root.inputs, List.map_map, List.map_map] at all
      have here := List.map_inj_left.mp all relative member
      simp only [Function.comp_apply, Root.replaced, Function.update_self] at here
      exact differ here.symm
    rcases commits (root.replaced relative tree) changed with differ_ | collision
    · apply differ_
      rw [runtime_pairs, runtime_pairs, pairsStream, pairsStream, Root.pairs, Root.pairs,
        List.mapM_map, List.mapM_map]
      simp only [Function.comp_def, entryStream, hashPath, each]
    · refine collision_same apart (fun other inside => ?_) collision
      obtain ⟨name, member, rfl⟩ := List.mem_map.mp inside
      exact ⟨root.entry name, List.mem_map_of_mem member, each name⟩
  · intro alone other differ
    by_contra both
    rw [not_or, not_not, runtime_pairs, runtime_pairs] at both
    obtain ⟨same, apart_⟩ := both
    have read := pairs_alone (by simpa [Root.pairs] using alone) runtime_names runtime_names same
      (by rwa [runtime_inputs, runtime_inputs])
    apply differ
    rw [Root.pairs, Root.pairs, List.forall₂_map_left_iff, List.forall₂_map_right_iff] at read
    rw [Root.inputs, Root.inputs, List.map_map, List.map_map, ← List.forall₂_eq_eq_eq,
      List.forall₂_map_left_iff, List.forall₂_map_right_iff]
    exact read.imp fun _ _ both => both.2

/-- A hash commits to its inputs where there is one file and none can be read out of it; a
group or a runtime commits where each of its inputs does. -/
theorem identity_hashes_commit_iff (sha256 : List UInt8 → Vector UInt8 32) (input : Input)
    (paths : List Input) (root : Root) (stream : List UInt8) :
    (hashPathStream input = .ok stream → (Commits input ↔ Alone input)) ∧
    (hashGroupStream sha256 paths = .ok stream → ¬ Collision sha256 paths →
      (CommitsGroup sha256 paths ↔ ∀ path ∈ paths, Alone path)) ∧
    (hashRuntimeStream sha256 root = .ok stream → ¬ Collision sha256 root.inputs →
      (CommitsRuntime sha256 root ↔ ∀ relative ∈ runtimeInputs, Alone (root.entry relative))) := by
  refine ⟨fun hashed => ?_, group_commits_iff, runtime_commits_iff⟩
  exact commits_iff (stream_files hashed).1

end Commitments

section Runs

def letterA : Component := ⟨['a'], by decide⟩

def letterB : Component := ⟨['b'], by decide⟩

/-- Two empty files `a` and `b`. -/
def twoEmpty : Input :=
  ⟨"inputs", .directory ⟨"inputs".toList, by decide⟩
    (Tree.ofTwo ([letterA], []) ([letterB], []) (by decide) (by decide) (by decide))⟩

/-- One file `a`, which has the name `b` and a NUL in it. -/
def oneFile : Input :=
  ⟨"inputs", .directory ⟨"inputs".toList, by decide⟩ (Tree.ofOne [letterA] [98, 0] (by decide))⟩

theorem contents_run_together :
    twoEmpty.files ≠ oneFile.files ∧ hashPathStream twoEmpty = .ok [97, 0, 98, 0] ∧
      hashPathStream oneFile = .ok [97, 0, 98, 0] := by decide

/-- An empty file `a`. -/
def emptyFile : Input := ⟨"/root/a", .file letterA []⟩

/-- A runtime of empty files. -/
def emptyRuntime : Root where
  entry relative :=
    if relative = "Makefile" then ⟨"/root/Makefile", .file ⟨"Makefile".toList, by decide⟩ []⟩
    else ⟨"/root/" ++ relative, .directory ⟨[], by decide⟩ (Tree.ofOne [letterA] [] (by decide))⟩
  named := by
    intro relative name content found
    split at found
    · rename_i here
      cases found
      rw [here]
    · cases found

/-- SHA-256 of `a` and of `Makefile` with a NUL behind them. -/
def emptyDigests (stream : List UInt8) : Vector UInt8 32 :=
  if stream = [97, 0] then
  #v[255, 233, 170, 234, 162, 162, 213, 4, 129, 116, 223, 11, 128, 89, 158, 240, 25, 126, 192, 36,
    196, 176, 81, 188, 152, 96, 207, 245, 142, 247, 249, 243]
  else
  #v[122, 99, 120, 225, 238, 31, 144, 152, 185, 251, 82, 25, 230, 187, 42, 225, 125, 243, 50, 48,
    23, 30, 229, 194, 165, 111, 12, 196, 51, 93, 93, 253]

theorem identity_hashes_commit_iff_empty :
    (Commits emptyFile ↔ Alone emptyFile) ∧
    (CommitsGroup emptyDigests [emptyFile] ↔ ∀ path ∈ [emptyFile], Alone path) ∧
    (CommitsRuntime emptyDigests emptyRuntime ↔
      ∀ relative ∈ runtimeInputs, Alone (emptyRuntime.entry relative)) := by
  have each := identity_hashes_commit_iff emptyDigests emptyFile [emptyFile] emptyRuntime
  refine ⟨(each [97, 0]).1 (by decide), (each _).2.1 rfl ?_, (each _).2.2 rfl ?_⟩
  · rintro ⟨left, member, right, member_, differ, _⟩
    rw [List.mem_singleton.mp member, List.mem_singleton.mp member_] at differ
    exact differ rfl
  · have streams : ∀ input ∈ emptyRuntime.inputs, hashPathStream input = .ok [97, 0] ∨
        hashPathStream input = .ok (File.record ⟨["Makefile".toList], []⟩) := by decide
    have apart : emptyDigests [97, 0] ≠
        emptyDigests (File.record ⟨["Makefile".toList], []⟩) := by decide
    rintro ⟨left, member, right, member_, differ, digests⟩
    rcases streams left member with first | first <;>
      rcases streams right member_ with second | second <;>
      simp_all [hashPath, bind, Except.bind, pure, Except.pure]

end Runs

end Q38.InputHashes
