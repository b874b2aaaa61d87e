import Q38Runtime.ArtifactPreparation
import Q38Runtime.FallibleRuns

/-! What a run of the preparation leaves in the stage directories, wherever it is killed: files
of the shards it was given and no others, and fragments of the compiler only. A fragment that
counts as complete is then that of the content with the digest of the manifest, beside its own
segment. -/
namespace Q38.ArtifactPreparation
open Imperative FallibleRuns

section Compiled
variable (tools : Tools)

/-- The segment and the records of the tensors of a stage, behind what is written already. -/
def encodeAll (content : Bytes) : List Selected → Bytes → Except Failure (Bytes × List Record)
  | [], written => .ok (written, [])
  | selected :: rest, written => do
      let encoded := tools.encode content selected written.length
      let extents ← encoded.2
      let all ← encodeAll content rest (written ++ encoded.1.flatten)
      .ok (all.1, recordOf selected extents :: all.2)

/-- What the compiler makes of a source for a stage, nothing where no tensor goes there. -/
def compiled (content : Bytes) (sourceName : Name) (sourceCommit : String) (stage : Stage)
    (cut : Int) : Except Failure (Option (Bytes × Fragment)) := do
  let tensors ← tools.readSafetensorsHeader content
  let decided ← decideAll tools cut tensors
  match byStage stage decided with
  | [] => .ok none
  | selected => do
      let all ← encodeAll tools content selected []
      .ok (some (all.1, fragmentOf tools (tools.hashes.sha256 content) sourceCommit sourceName stage
        cut all.1 all.2))

/-- Every fragment is one that the compiler made of some source. -/
def Genuine (stored : Stored) : Prop :=
  ∀ stage name fragment, stored.fragments (stage, name) = some fragment →
    ∃ content sourceName sourceCommit cut segment, name = fragmentName sourceName ∧
      pathName sourceName = sourceName ∧
      compiled tools content sourceName sourceCommit stage cut = .ok (some (segment, fragment))

/-- The fragment and the segment of the content with a digest, both in their places. -/
def Complete (stored : Stored) (shardName : Name) (sourceSha256 : String) (cut : Int)
    (stage : Stage) : Prop :=
  pathName shardName = shardName ∧ ∃ content segment fragment,
    tools.hashes.sha256 content = sourceSha256 ∧
    compiled tools content shardName pinnedCommit stage cut = .ok (some (segment, fragment)) ∧
    stored.fragments (stage, fragmentName shardName) = some fragment ∧
    stored.segments (stage, segmentName shardName) = some segment

/-- A segment or a fragment, by its path. -/
inductive StoredFile where
  | segment (path : Stage × Name)
  | fragment (path : Stage × Name)

def Alike (left right : Stored) : StoredFile → Prop
  | .segment path => left.segments path = right.segments path
  | .fragment path => left.fragments path = right.fragments path

/-- The files of a shard in a stage directory. -/
def filesOf (sourceName : Name) (stage : Stage) : Set StoredFile :=
  {.segment (stage, segmentName sourceName), .fragment (stage, fragmentName sourceName)}

end Compiled

section Alikeness
variable {first second third : Stored} {file : StoredFile}

theorem Alike.refl (stored : Stored) : Alike stored stored file := by
  cases file <;> rfl

theorem Alike.symm (same : Alike first second file) : Alike second first file := by
  cases file <;> exact Eq.symm same

theorem Alike.trans (left : Alike first second file) (right : Alike second third file) :
    Alike first third file := by
  cases file <;> exact Eq.trans left right

theorem alike_all (same : ∀ file, Alike first second file) : first = second := by
  obtain ⟨segments, fragments⟩ := first
  obtain rfl : segments = second.segments := funext fun path => same (.segment path)
  obtain rfl : fragments = second.fragments := funext fun path => same (.fragment path)
  rfl

end Alikeness

section Checked
variable {tools : Tools} {stored : Stored} {shardName : Name} {sha : String} {cut : Int}
  {stage : Stage}

theorem compiled_some {content : Bytes} {sourceName : Name} {sourceCommit : String}
    {segment : Bytes} {fragment : Fragment}
    (made : compiled tools content sourceName sourceCommit stage cut =
      .ok (some (segment, fragment))) :
    ∃ records, fragment = fragmentOf tools (tools.hashes.sha256 content) sourceCommit sourceName
      stage cut segment records := by
  unfold compiled at made
  obtain ⟨tensors, -, made⟩ := bind_ok made
  obtain ⟨decided, -, made⟩ := bind_ok made
  split at made
  · cases made
  · obtain ⟨all, -, made⟩ := bind_ok made
    cases made
    exact ⟨all.2, rfl⟩

/-- A complete fragment lies beside the segment of its own compilation. -/
theorem fragment_complete_genuine (collisionFree : Function.Injective tools.hashes.sha256)
    (genuine : Genuine tools stored)
    (complete : fragmentComplete tools stored shardName sha cut stage = true) :
    Complete tools stored shardName sha cut stage := by
  unfold fragmentComplete at complete
  split at complete
  · cases complete
  · next fragment held =>
      rw [Bool.and_eq_true, decide_eq_true_iff] at complete
      obtain ⟨⟨-, -, -, -, shard, commit, digest, -, -, sameCut⟩, matches_⟩ := complete
      obtain ⟨content, sourceName, sourceCommit, cut', segment, -, plain, made⟩ :=
        genuine stage _ fragment held
      obtain ⟨records, rfl⟩ := compiled_some made
      obtain rfl : sourceName = shardName := shard
      obtain rfl : sourceCommit = pinnedCommit := commit
      obtain rfl : cut' = cut := sameCut
      unfold segmentMatches at matches_
      split at matches_
      · cases matches_
      · next beside placed =>
          rw [decide_eq_true_iff] at matches_
          obtain rfl : beside = segment := collisionFree matches_.2
          exact ⟨plain, content, beside, _, digest, made, held, placed⟩

theorem fragment_set_genuine (collisionFree : Function.Injective tools.hashes.sha256)
    (genuine : Genuine tools stored) {expected : List Stage}
    (complete : fragmentSetComplete tools stored shardName expected sha cut = true) :
    ∀ stage ∈ expected, Complete tools stored shardName sha cut stage := by
  intro stage listed
  exact fragment_complete_genuine collisionFree genuine (List.all_eq_true.mp complete stage listed)

/-- Two stage directories that are complete for a digest hold the same files there. -/
theorem complete_alike (collisionFree : Function.Injective tools.hashes.sha256)
    {other : Stored} (left : Complete tools stored shardName sha cut stage)
    (right : Complete tools other shardName sha cut stage) {file : StoredFile}
    (listed : file ∈ filesOf shardName stage) : Alike stored other file := by
  obtain ⟨-, content, segment, fragment, digest, made, fragments, segments⟩ := left
  obtain ⟨-, content', segment', fragment', digest', made', fragments', segments'⟩ := right
  obtain rfl : content = content' := collisionFree (digest.trans digest'.symm)
  cases made.symm.trans made'
  rcases listed with rfl | rfl
  · exact segments.trans segments'.symm
  · exact fragments.trans fragments'.symm

end Checked

section Moves
variable {tools : Tools}

/-- Nothing but some files was changed, and what is new is genuine. -/
structure Moved (tools : Tools) (files : Set StoredFile) (before after : Stored) : Prop where
  outside : ∀ file ∉ files, Alike before after file
  genuine : Genuine tools before → Genuine tools after

variable {files : Set StoredFile} {first second third : Stored}

theorem Moved.refl (stored : Stored) : Moved tools files stored stored :=
  ⟨fun _ _ => Alike.refl stored, id⟩

theorem Moved.trans (left : Moved tools files first second)
    (right : Moved tools files second third) : Moved tools files first third :=
  ⟨fun file foreign => (left.outside file foreign).trans (right.outside file foreign),
    right.genuine ∘ left.genuine⟩

theorem Moved.mono {wider : Set StoredFile} (included : files ⊆ wider)
    (moved : Moved tools files first second) : Moved tools wider first second :=
  ⟨fun file foreign => moved.outside file fun listed => foreign (included listed), moved.genuine⟩

theorem moved_segment (stored : Stored) (sourceName : Name) (stage : Stage)
    (segment : Option Bytes) : Moved tools (filesOf sourceName stage) stored
      { stored with segments :=
          Function.update stored.segments (stage, segmentName sourceName) segment } := by
  constructor
  case outside =>
    rintro (path | path) foreign
    · have other : path ≠ (stage, segmentName sourceName) :=
        fun same => foreign (.inl (congrArg StoredFile.segment same))
      exact (Function.update_of_ne other _ _).symm
    · rfl
  case genuine => exact fun genuine => genuine

theorem moved_fragment (stored : Stored) {content : Bytes} {sourceName : Name} {stage : Stage}
    {sourceCommit : String} {cut : Int} {segment : Bytes} {fragment : Fragment}
    (plain : pathName sourceName = sourceName)
    (made : compiled tools content sourceName sourceCommit stage cut =
      .ok (some (segment, fragment))) :
    Moved tools (filesOf sourceName stage) stored
      { stored with fragments :=
          Function.update stored.fragments (stage, fragmentName sourceName) (some fragment) } := by
  constructor
  case outside =>
    rintro (path | path) foreign
    · rfl
    · have other : path ≠ (stage, fragmentName sourceName) :=
        fun same => foreign (.inr (congrArg StoredFile.fragment same))
      exact (Function.update_of_ne other _ _).symm
  case genuine =>
    intro genuine stage' name fragment' held
    dsimp only at held
    by_cases here : (stage', name) = (stage, fragmentName sourceName)
    · cases here
      rw [Function.update_self] at held
      cases held
      exact ⟨content, sourceName, sourceCommit, cut, segment, rfl, plain, made⟩
    · rw [Function.update_of_ne here] at held
      exact genuine stage' name fragment' held

end Moves

section Compiling
variable {tools : Tools} {run : Run} {shardName : Name}

theorem operate_ends {returns : Unit → Disk → Prop} {throws : Failure → Disk → Prop}
    {point : Point} {change : Disk → Disk} {disk : Disk} :
    Ends (operate run shardName point change) returns throws disk ↔
      (run.killed shardName point = false → returns () (change disk)) ∧
        (¬ run.killed shardName point = false → throws .killed disk) := by
  unfold operate alive
  rw [ends_bind, ends_ensure]
  exact and_congr_left fun _ => forall_congr' fun _ => ends_write _

/-- Partial files only. -/
structure Aside (before after : Disk) : Prop where
  stored : after.stored = before.stored
  pruned : after.pruned = before.pruned

theorem write_blocks_ends {path : Stage × Name} {written : Bytes} (blocks : List Bytes)
    {before disk : Disk} (aside : Aside before disk)
    (part : disk.segmentParts path = some written) :
    Ends (writeBlocks run shardName path blocks)
      (fun _ after => Aside before after ∧
        after.segmentParts path = some (written ++ blocks.flatten))
      (fun _ after => Aside before after) disk := by
  induction blocks generalizing disk written with
  | nil =>
      refine ⟨aside, ?_⟩
      rw [List.flatten_nil, List.append_nil]
      exact part
  | cons block rest ih =>
      unfold writeBlocks
      rw [ends_bind, ends_read, ends_bind, operate_ends]
      refine ⟨fun _ => ?_, fun _ => aside⟩
      rw [List.flatten_cons, ← List.append_assoc]
      apply ih
      · exact ⟨aside.stored, aside.pruned⟩
      · simp only [Disk.putSegmentPart, Function.update_self, Disk.written, part, Option.getD_some]

theorem compile_tensors_ends {content : Bytes} {path : Stage × Name} {written : Bytes}
    (selected : List Selected) {before disk : Disk} (aside : Aside before disk)
    (part : disk.segmentParts path = some written) :
    Ends (compileTensors tools run content shardName path selected)
      (fun records after => Aside before after ∧ ∃ segment,
        after.segmentParts path = some segment ∧
        encodeAll tools content selected written = .ok (segment, records))
      (fun _ after => Aside before after) disk := by
  induction selected generalizing disk written with
  | nil => exact ⟨aside, written, part, rfl⟩
  | cons first rest ih =>
      have length : disk.written path = written := by rw [Disk.written, part, Option.getD_some]
      unfold compileTensors
      rw [ends_bind, ends_read, length]
      apply (write_blocks_ends _ aside part).chain
      rintro ⟨⟩ later ⟨aside', part'⟩
      rw [ends_bind, ends_settle]
      constructor
      · intro extents outcome
        apply (ih aside' part').chain
        rintro records after ⟨aside'', segment, part'', encoded⟩
        refine ⟨aside'', segment, part'', ?_⟩
        rw [encodeAll, outcome]
        dsimp only [bind, Except.bind]
        rw [encoded]
      · exact fun _ _ => aside'

/-- The last operations of a stage, from a written segment on. -/
theorem publish_ends {content : Bytes} {stage : Stage} {cut : Int} {sourceCommit : String}
    {segment : Bytes} {fragment : Fragment} {before disk : Disk} (aside : Aside before disk)
    (part : disk.segmentParts (stage, segmentName (pathName shardName)) = some segment)
    (made : compiled tools content (pathName shardName) sourceCommit stage cut =
      .ok (some (segment, fragment))) :
    let path := (stage, segmentName (pathName shardName))
    let fragmentPath := (stage, fragmentName (pathName shardName))
    let left := fun (after : Disk) =>
      Moved tools (filesOf (pathName shardName) stage) before.stored after.stored ∧
        after.pruned = before.pruned
    Ends (do
      operate run shardName (.openFragment stage) (Disk.putFragmentPart fragmentPath (some none))
      operate run shardName (.writeFragment stage)
        (Disk.putFragmentPart fragmentPath (some (some fragment)))
      operate run shardName (.replaceSegment stage) (Disk.replaceSegment path)
      operate run shardName (.replaceFragment stage) (Disk.replaceFragment fragmentPath))
      (fun _ => left) (fun _ => left) disk := by
  intro path fragmentPath left
  have unmoved : Moved tools (filesOf (pathName shardName) stage) before.stored disk.stored := by
    rw [aside.stored]
    exact Moved.refl _
  have half := unmoved.trans (moved_segment disk.stored (pathName shardName) stage (some segment))
  rw [← part] at half
  have whole := half.trans (moved_fragment _ (List.rtakeWhile_idempotent _ _) made)
  rw [ends_bind, operate_ends]
  refine ⟨fun _ => ?_, fun _ => ⟨unmoved, aside.pruned⟩⟩
  rw [ends_bind, operate_ends]
  refine ⟨fun _ => ?_, fun _ => ⟨unmoved, aside.pruned⟩⟩
  rw [ends_bind, operate_ends]
  refine ⟨fun _ => ?_, fun _ => ⟨unmoved, aside.pruned⟩⟩
  rw [operate_ends]
  -- killed here, the new segment lies beside the fragment that was there before
  refine ⟨fun _ => ?_, fun _ => ⟨half, aside.pruned⟩⟩
  refine ⟨?_, aside.pruned⟩
  simpa only [Disk.replaceFragment, Disk.replaceSegment, Disk.putFragmentPart,
    Function.update_self, Option.join_some] using whole

theorem compile_stage_ends {content : Bytes} {tensors : List Tensor}
    {decided : List (Tensor × Decision)} {stage : Stage} {cut : Int} {sourceCommit : String}
    (header : tools.readSafetensorsHeader content = .ok tensors)
    (decision : decideAll tools cut tensors = .ok decided) (before : Disk) :
    let files := {file | byStage stage decided ≠ [] ∧ file ∈ filesOf (pathName shardName) stage}
    let left := fun (after : Disk) =>
      Moved tools files before.stored after.stored ∧ after.pruned = before.pruned
    Ends (compileStage tools run content (tools.hashes.sha256 content) sourceCommit shardName
      (byStage stage decided) stage cut) (fun _ => left) (fun _ => left) before := by
  intro files left
  unfold compileStage
  split
  · exact ⟨Moved.refl _, rfl⟩
  · next selected some_ =>
      have included : filesOf (pathName shardName) stage ⊆ files :=
        fun file listed => ⟨some_, listed⟩
      have still {after : Disk} (aside : Aside before after) : left after := by
        refine ⟨?_, aside.pruned⟩
        rw [aside.stored]
        exact Moved.refl _
      rw [ends_bind, operate_ends]
      refine ⟨fun _ => ?_, fun _ => still ⟨rfl, rfl⟩⟩
      rw [ends_bind, operate_ends]
      refine ⟨fun _ => ?_, fun _ => still ⟨rfl, rfl⟩⟩
      rw [ends_bind, operate_ends]
      refine ⟨fun _ => ?_, fun _ => still ⟨rfl, rfl⟩⟩
      have opened : Aside before (Disk.putSegmentPart (stage, segmentName (pathName shardName))
          (some []) (Disk.putFragmentPart (stage, fragmentName (pathName shardName)) none
            (Disk.putSegmentPart (stage, segmentName (pathName shardName)) none before))) :=
        ⟨rfl, rfl⟩
      refine ((compile_tensors_ends (byStage stage decided) opened
        (Function.update_self _ _ _)).weaken (fun _ _ kept => kept) fun _ _ => still).chain ?_
      rintro records later ⟨aside, segment, part, encoded⟩
      have written : later.written (stage, segmentName (pathName shardName)) = segment := by
        rw [Disk.written, part, Option.getD_some]
      have made : compiled tools content (pathName shardName) sourceCommit stage cut =
          .ok (some (segment, fragmentOf tools (tools.hashes.sha256 content) sourceCommit
            (pathName shardName) stage cut segment records)) := by
        unfold compiled
        rw [header]
        dsimp only [bind, Except.bind]
        rw [decision]
        dsimp only
        split
        · contradiction
        · rw [encoded]
      rw [ends_bind, ends_read, written]
      have widen (after : Disk)
          (moved : Moved tools (filesOf (pathName shardName) stage) before.stored after.stored ∧
            after.pruned = before.pruned) : left after := ⟨moved.1.mono included, moved.2⟩
      exact (publish_ends aside part made).weaken (fun _ => widen) fun _ => widen

end Compiling

end Q38.ArtifactPreparation
