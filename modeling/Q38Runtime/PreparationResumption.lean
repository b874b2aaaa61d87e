import Q38Runtime.PreparationRuns

/-! Preparation after crashes. Runs with the same arguments may be killed anywhere and started
again: a source shard goes only after its fragments verify, a fragment counts only beside its own
segment, and the run that returns leaves what a run without crashes leaves, as long as the tensor
index owns up to every stage that a shard's header has tensors for. -/
namespace Q38.ArtifactPreparation
open Imperative

section Specification
variable (tools : Tools) (arguments : Arguments)

/-- The header has a tensor for the stage. -/
def Goes (content : Bytes) (cut : Int) (stage : Stage) : Prop :=
  ∃ tensors decided, tools.readSafetensorsHeader content = .ok tensors ∧
    decideAll tools cut tensors = .ok decided ∧ byStage stage decided ≠ []

/-- The files that a source with the digest of the manifest has its tensors in. -/
def shardFiles (shardName : Name) : Set StoredFile :=
  {file | ∃ record digest content stage,
    manifestRecord arguments.manifest shardName = .ok (record, digest) ∧
    tools.hashes.sha256 content = digest ∧ Goes tools content arguments.cut stage ∧
    file ∈ filesOf (pathName shardName) stage}

def allFiles (names : List Name) : Set StoredFile :=
  {file | ∃ shardName ∈ names, file ∈ shardFiles tools arguments shardName}

/-- Every fragment that the index lets expect of a shard is complete for the digest of the
manifest. -/
def Verifies (shard : Name × Stored) : Prop :=
  ∃ record digest expected, manifestRecord arguments.manifest shard.1 = .ok (record, digest) ∧
    expectedFragmentStagesFromIndex tools arguments.index shard.1 arguments.cut = .ok expected ∧
    ∀ stage ∈ expected, Complete tools shard.2 shard.1 digest arguments.cut stage

/-- For every stage that a shard's header has a tensor for, the index has a tensor of the shard. -/
def Covers : Prop :=
  ∀ shardName record digest expected,
    manifestRecord arguments.manifest shardName = .ok (record, digest) →
    expectedFragmentStagesFromIndex tools arguments.index shardName arguments.cut = .ok expected →
    ∀ content, tools.hashes.sha256 content = digest →
    ∀ stage, Goes tools content arguments.cut stage → stage ∈ expected

/-- What a run leaves: files of the shards only, and shards pruned after they verified. -/
structure Went (files : Set StoredFile) (before after : Disk) : Prop where
  moved : Moved tools files before.stored after.stored
  pruned : ∀ shard ∈ after.pruned, shard ∈ before.pruned ∨ Verifies tools arguments shard

/-- Shard after shard, each verified when it is done. -/
def Passed : List Name → Stored → Stored → Prop
  | [], first, last => last = first
  | shardName :: rest, first, last => ∃ middle,
      Moved tools (shardFiles tools arguments shardName) first middle ∧
      Verifies tools arguments (shardName, middle) ∧ Passed rest middle last

end Specification

section Shards
variable {tools : Tools} {arguments : Arguments} {run : Run} {shardName : Name}
  {files : Set StoredFile}

theorem Went.of_aside {before after : Disk} (aside : Aside before after) :
    Went tools arguments files before after := by
  constructor
  case moved =>
    rw [aside.stored]
    exact Moved.refl _
  case pruned =>
    rw [aside.pruned]
    exact fun _ listed => .inl listed

theorem Went.trans {first second third : Disk} (left : Went tools arguments files first second)
    (right : Went tools arguments files second third) : Went tools arguments files first third := by
  refine ⟨left.moved.trans right.moved, ?_⟩
  intro shard listed
  rcases right.pruned shard listed with earlier | verified
  · exact left.pruned shard earlier
  · exact .inr verified

theorem Went.mono {wider : Set StoredFile} (included : files ⊆ wider) {before after : Disk}
    (went : Went tools arguments files before after) : Went tools arguments wider before after :=
  ⟨went.moved.mono included, went.pruned⟩

theorem record_digest {manifest : List ManifestRecord} {record : ManifestRecord} {digest : String}
    (found : manifestRecord manifest shardName = .ok (record, digest)) :
    record.item.expectedSha = some digest := by
  unfold manifestRecord at found
  split at found
  · cases found
  · next item listed =>
      split at found
      · next size digest' sized given =>
          split at found
          · next length =>
              cases found
              have some_ : digest ≠ "" := by
                rintro rfl
                cases length
              simp only [FileFetching.Item.expectedSha, ManifestRecord.item, given,
                Option.filter_some, some_, ne_eq, not_false_eq_true, decide_true, if_true]
          · cases found
      · cases found

theorem fetching_ends {α : Type} {body : Proc FileFetching.Failure FileFetching.Disk α}
    {returns : α → FileFetching.Disk → Prop} {before : Disk}
    (ended : Ends body returns (fun _ _ => True) (before.source shardName)) :
    Ends (fetching shardName body)
      (fun value after => Aside before after ∧ returns value (after.source shardName))
      (fun _ after => Aside before after) before := by
  unfold Ends at ended ⊢
  unfold fetching
  rcases ran : body (before.source shardName) with ⟨outcome, after⟩
  rw [ran] at ended
  cases outcome with
  | ok value =>
      refine ⟨⟨rfl, rfl⟩, ?_⟩
      dsimp only
      rw [Function.update_self]
      exact ended
  | error failure => exact ⟨rfl, rfl⟩

theorem fetch_ends {manifest : List ManifestRecord} {record : ManifestRecord} {digest : String}
    (found : manifestRecord manifest shardName = .ok (record, digest)) (before : Disk) :
    Ends (fetchManifestFile tools run manifest shardName)
      (fun _ after => Aside before after ∧ ∃ content,
        (after.source shardName).destination = some content ∧
        tools.hashes.sha256 content = digest)
      (fun _ after => Aside before after) before := by
  unfold fetchManifestFile
  rw [ends_bind, ends_settle, found]
  refine ⟨?_, fun _ failed => by cases failed⟩
  rintro _ ⟨⟩
  apply (fetching_ends (FileFetching.fetch_one_published _)).weaken
  · rintro status after ⟨aside, content, held, verified⟩
    refine ⟨aside, content, held, ?_⟩
    unfold FileFetching.Verified at verified
    rw [record_digest found] at verified
    exact verified
  · exact fun _ _ aside => aside

theorem compile_source_shard_ends {sourceCommit : String} {cut : Int} {content : Bytes}
    {before : Disk} (held : (before.source shardName).destination = some content) :
    let files := {file | ∃ stage, Goes tools content cut stage ∧
      file ∈ filesOf (pathName shardName) stage}
    let left := fun (after : Disk) =>
      Moved tools files before.stored after.stored ∧ after.pruned = before.pruned
    Ends (compileSourceShard tools run shardName sourceCommit cut) (fun _ => left) (fun _ => left)
      before := by
  intro files left
  have unmoved : left before := ⟨Moved.refl _, rfl⟩
  unfold compileSourceShard
  rw [ends_bind, ends_read, held]
  dsimp only
  rw [ends_bind, ends_settle]
  refine ⟨fun tensors header => ?_, fun _ _ => unmoved⟩
  rw [ends_bind, ends_settle]
  refine ⟨fun decided decision => ?_, fun _ _ => unmoved⟩
  have included (stage : Stage) :
      {file | byStage stage decided ≠ [] ∧ file ∈ filesOf (pathName shardName) stage} ⊆ files :=
    fun file listed => ⟨stage, ⟨tensors, decided, header, decision, listed.1⟩, listed.2⟩
  have widen (stage : Stage) {disk : Disk} (reached : left disk) (after : Disk)
      (moved : Moved tools
        {file | byStage stage decided ≠ [] ∧ file ∈ filesOf (pathName shardName) stage}
        disk.stored after.stored ∧ after.pruned = disk.pruned) : left after :=
    ⟨reached.1.trans (moved.1.mono (included stage)), moved.2.trans reached.2⟩
  apply ((compile_stage_ends header decision before).weaken
    (fun _ => widen .stage0 unmoved) fun _ => widen .stage0 unmoved).chain
  rintro ⟨⟩ middle reached
  exact (compile_stage_ends header decision middle).weaken
    (fun _ => widen .stage1 reached) fun _ => widen .stage1 reached

theorem compile_missing_ends {record : ManifestRecord} {digest : String}
    (found : manifestRecord arguments.manifest shardName = .ok (record, digest)) (before : Disk) :
    let left := Went tools arguments (shardFiles tools arguments shardName) before
    Ends (compileMissing tools run arguments shardName) (fun _ => left) (fun _ => left) before := by
  intro left
  unfold compileMissing
  apply ((fetch_ends found before).weaken (fun _ _ kept => kept)
    fun _ _ aside => Went.of_aside aside).chain
  rintro status middle ⟨aside, content, held, digest_⟩
  have included : {file | ∃ stage, Goes tools content arguments.cut stage ∧
      file ∈ filesOf (pathName shardName) stage} ⊆ shardFiles tools arguments shardName :=
    fun file ⟨stage, goes, listed⟩ => ⟨record, digest, content, stage, found, digest_, goes, listed⟩
  have widen (after : Disk) (moved : Moved tools {file | ∃ stage,
      Goes tools content arguments.cut stage ∧ file ∈ filesOf (pathName shardName) stage}
      middle.stored after.stored ∧ after.pruned = middle.pruned) : left after := by
    apply (Went.of_aside aside).trans
    refine ⟨moved.1.mono included, ?_⟩
    rw [moved.2]
    exact fun _ listed => .inl listed
  exact (compile_source_shard_ends held).weaken (fun _ => widen) fun _ => widen

theorem prune_ends {before : Disk}
    (verified : Verifies tools arguments (shardName, before.stored)) :
    let left := fun (after : Disk) => Went tools arguments files before after ∧
      after.stored = before.stored
    Ends (prune run shardName) (fun _ => left) (fun _ => left) before := by
  intro left
  have unlinked : ∀ shard ∈ before.pruned ++ [(shardName, before.stored)],
      shard ∈ before.pruned ∨ Verifies tools arguments shard := by
    intro shard listed
    rcases List.mem_append.mp listed with earlier | now
    · exact .inl earlier
    · obtain rfl := List.mem_singleton.mp now
      exact .inr verified
  unfold prune
  rw [ends_bind, operate_ends]
  refine ⟨fun _ => ?_, fun _ => ⟨Went.of_aside ⟨rfl, rfl⟩, rfl⟩⟩
  rw [operate_ends]
  exact ⟨fun _ => ⟨⟨Moved.refl _, unlinked⟩, rfl⟩, fun _ => ⟨⟨Moved.refl _, unlinked⟩, rfl⟩⟩

theorem stream_shard_ends (collisionFree : Function.Injective tools.hashes.sha256) {before : Disk}
    (genuine : Genuine tools before.stored) :
    let left := Went tools arguments (shardFiles tools arguments shardName) before
    Ends (streamCompileShard tools run arguments shardName)
      (fun _ after => left after ∧ Verifies tools arguments (shardName, after.stored))
      (fun _ => left) before := by
  intro left
  have unmoved : left before := Went.of_aside ⟨rfl, rfl⟩
  unfold streamCompileShard
  rw [ends_bind, ends_settle]
  refine ⟨?_, fun _ _ => unmoved⟩
  rintro ⟨record, digest⟩ found
  rw [ends_bind, ends_settle]
  refine ⟨fun expected owned => ?_, fun _ _ => unmoved⟩
  dsimp only
  rw [ends_bind, ends_read, ends_bind]
  -- reused or compiled, the shard is checked again
  have compiled_ : Ends (Proc.whenever
      (¬ (arguments.force = false ∧ fragmentSetComplete tools before.stored shardName expected
        digest arguments.cut = true)) (compileMissing tools run arguments shardName))
      (fun _ => left) (fun _ => left) before := by
    rw [ends_whenever]
    exact ⟨fun _ => compile_missing_ends found before, fun _ => unmoved⟩
  refine compiled_.weaken ?_ fun _ _ went => went
  rintro ⟨⟩ middle went
  rw [ends_bind, ends_read, ends_bind, ends_ensure]
  refine ⟨fun complete => ?_, fun _ => went⟩
  have verified : Verifies tools arguments (shardName, middle.stored) :=
    ⟨record, digest, expected, found, owned,
      fragment_set_genuine collisionFree (went.moved.genuine genuine) complete⟩
  rw [ends_bind, ends_whenever]
  have answered {after : Disk} (later : left after ∧ after.stored = middle.stored) :
      Ends (alive run shardName .answer)
        (fun _ after => left after ∧ Verifies tools arguments (shardName, after.stored))
        (fun _ => left) after := by
    unfold alive
    rw [ends_ensure, later.2]
    exact ⟨fun _ => ⟨later.1, verified⟩, fun _ => later.1⟩
  constructor
  · intro _
    apply (prune_ends verified).weaken
    · exact fun _ after later => answered ⟨went.trans later.1, later.2⟩
    · exact fun _ after later => went.trans later.1
  · exact fun _ => answered ⟨went, rfl⟩

theorem stream_shards_ends (collisionFree : Function.Injective tools.hashes.sha256)
    (names : List Name) {before : Disk} (genuine : Genuine tools before.stored) :
    let left := Went tools arguments (allFiles tools arguments names) before
    Ends (streamShards tools run arguments names)
      (fun _ after => left after ∧ Passed tools arguments names before.stored after.stored)
      (fun _ => left) before := by
  induction names generalizing before with
  | nil => exact ⟨Went.of_aside ⟨rfl, rfl⟩, rfl⟩
  | cons shardName rest ih =>
      intro left
      have here : shardFiles tools arguments shardName ⊆
          allFiles tools arguments (shardName :: rest) :=
        fun file listed => ⟨shardName, List.mem_cons_self, listed⟩
      have later : allFiles tools arguments rest ⊆ allFiles tools arguments (shardName :: rest) :=
        fun file ⟨other, member, listed⟩ => ⟨other, List.mem_cons_of_mem _ member, listed⟩
      unfold streamShards
      apply ((stream_shard_ends collisionFree genuine).weaken (fun _ _ kept => kept)
        fun _ _ went => went.mono here).chain
      rintro ⟨⟩ middle ⟨went, verified⟩
      apply (ih (went.moved.genuine genuine)).weaken
      · rintro ⟨⟩ after ⟨rested, passed⟩
        exact ⟨(went.mono here).trans (rested.mono later), middle.stored, went.moved, verified,
          passed⟩
      · exact fun _ after rested => (went.mono here).trans (rested.mono later)

theorem stream_ends (collisionFree : Function.Injective tools.hashes.sha256) {before : Disk}
    (genuine : Genuine tools before.stored) :
    let names := shardNames arguments.index
    let left := Went tools arguments (allFiles tools arguments names) before
    Ends (streamCompileShards tools run arguments)
      (fun _ after => left after ∧ Passed tools arguments names before.stored after.stored)
      (fun _ => left) before := by
  intro names left
  have unmoved : left before := Went.of_aside ⟨rfl, rfl⟩
  unfold streamCompileShards
  rw [ends_bind, ends_ensure]
  refine ⟨fun _ => ?_, fun _ => unmoved⟩
  rw [ends_bind, ends_ensure]
  refine ⟨fun _ => ?_, fun _ => unmoved⟩
  exact (stream_shards_ends collisionFree names genuine).chain fun _ _ ended => ended

end Shards

section Agreement
variable {tools : Tools} {arguments : Arguments}

/-- The files of a shard are all expected of it. -/
theorem shard_files_expected (covers : Covers tools arguments) {shardName : Name}
    {record : ManifestRecord} {digest : String} {expected : List Stage} {file : StoredFile}
    (found : manifestRecord arguments.manifest shardName = .ok (record, digest))
    (owned : expectedFragmentStagesFromIndex tools arguments.index shardName arguments.cut =
      .ok expected) (listed : file ∈ shardFiles tools arguments shardName) :
    ∃ stage ∈ expected, file ∈ filesOf (pathName shardName) stage := by
  obtain ⟨record', digest', content, stage, found', same, goes, named⟩ := listed
  cases found.symm.trans found'
  exact ⟨stage, covers shardName record digest expected found owned content same stage goes, named⟩

/-- A shard that verifies in both makes its files alike, and no others different. -/
theorem shard_agrees (collisionFree : Function.Injective tools.hashes.sha256)
    (covers : Covers tools arguments) {shardName : Name} {first first' middle middle' : Stored}
    (moved : Moved tools (shardFiles tools arguments shardName) first middle)
    (moved' : Moved tools (shardFiles tools arguments shardName) first' middle')
    (verified : Verifies tools arguments (shardName, middle))
    (verified' : Verifies tools arguments (shardName, middle')) {file : StoredFile}
    (same : Alike first first' file ∨ file ∈ shardFiles tools arguments shardName) :
    Alike middle middle' file := by
  obtain ⟨record, digest, expected, found, owned, complete⟩ := verified
  obtain ⟨record', digest', expected', found', owned', complete'⟩ := verified'
  cases found.symm.trans found'
  cases owned.symm.trans owned'
  by_cases listed : file ∈ shardFiles tools arguments shardName
  · obtain ⟨stage, member, named⟩ := shard_files_expected covers found owned listed
    have left := complete stage member
    rw [left.1] at named
    exact complete_alike collisionFree left (complete' stage member) named
  · have before := same.resolve_right listed
    exact (moved.outside file listed).symm.trans (before.trans (moved'.outside file listed))

theorem passed_agree (collisionFree : Function.Injective tools.hashes.sha256)
    (covers : Covers tools arguments) {names : List Name} {first first' last last' : Stored}
    (passed : Passed tools arguments names first last)
    (passed' : Passed tools arguments names first' last') {file : StoredFile}
    (same : Alike first first' file ∨ file ∈ allFiles tools arguments names) :
    Alike last last' file := by
  induction names generalizing first first' with
  | nil =>
      obtain rfl : last = first := passed
      obtain rfl : last' = first' := passed'
      exact same.resolve_right fun ⟨_, member, _⟩ => by cases member
  | cons shardName rest ih =>
      obtain ⟨middle, moved, verified, passed⟩ := passed
      obtain ⟨middle', moved', verified', passed'⟩ := passed'
      apply ih passed passed'
      have agrees := @shard_agrees tools arguments collisionFree covers shardName first first'
        middle middle' moved moved' verified verified' file
      rcases same with before | ⟨other, member, listed⟩
      · exact .inl (agrees (.inl before))
      · rcases List.mem_cons.mp member with rfl | later
        · exact .inl (agrees (.inr listed))
        · exact .inr ⟨other, later, listed⟩

end Agreement

section Restarts
variable (tools : Tools) (arguments : Arguments)

/-- What a run leaves, whether it returned or was killed. -/
def afterRun (disk : Disk) (run : Run) : Disk := (streamCompileShards tools run arguments disk).2

def Returns (run : Run) (disk : Disk) : Prop :=
  ∃ count, (streamCompileShards tools run arguments disk).1 = .ok count

/-- Runs with any arguments, over the stage directories that the first of them found empty. -/
def afterEarlier (earlier : List (Arguments × Run)) (source : Name → FileFetching.Disk) : Disk :=
  earlier.foldl (fun disk entry => afterRun tools entry.1 disk entry.2) { source := source }

/-- However often it was killed, preparation that returns leaves the fragments and the segments
that a run from the start leaves. -/
def Resumes (start : Disk) : Prop :=
  ∀ (restarts : List Run) (last whole : Run),
    let disk := restarts.foldl (afterRun tools arguments) start
    Returns tools arguments last disk → Returns tools arguments whole start →
    (afterRun tools arguments disk last).stored = (afterRun tools arguments start whole).stored

variable {tools arguments}

theorem after_run_went (collisionFree : Function.Injective tools.hashes.sha256) {disk : Disk}
    (genuine : Genuine tools disk.stored) (run : Run) :
    Went tools arguments (allFiles tools arguments (shardNames arguments.index)) disk
      (afterRun tools arguments disk run) := by
  cases ran : (streamCompileShards tools run arguments disk).1 with
  | ok count => exact ((stream_ends collisionFree genuine).returned ran).1
  | error failure => exact (stream_ends collisionFree genuine).threw ran

theorem restarts_went (collisionFree : Function.Injective tools.hashes.sha256)
    (restarts : List Run) {disk : Disk} (genuine : Genuine tools disk.stored) :
    Went tools arguments (allFiles tools arguments (shardNames arguments.index)) disk
      (restarts.foldl (afterRun tools arguments) disk) := by
  induction restarts generalizing disk with
  | nil => exact Went.of_aside ⟨rfl, rfl⟩
  | cons run rest ih =>
      have went := @after_run_went tools arguments collisionFree disk genuine run
      exact went.trans (ih (went.moved.genuine genuine))

theorem earlier_genuine (collisionFree : Function.Injective tools.hashes.sha256)
    (earlier : List (Arguments × Run)) (source : Name → FileFetching.Disk) :
    Genuine tools (afterEarlier tools earlier source).stored := by
  unfold afterEarlier
  apply List.foldlRecOn earlier _ (motive := fun disk : Disk => Genuine tools disk.stored)
  · intro stage name fragment held
    cases held
  · intro disk genuine entry _
    exact (after_run_went collisionFree genuine entry.2).moved.genuine genuine

theorem resumes (collisionFree : Function.Injective tools.hashes.sha256)
    (covers : Covers tools arguments) {start : Disk} (genuine : Genuine tools start.stored) :
    Resumes tools arguments start := by
  rintro restarts last whole disk ⟨count, returned⟩ ⟨count', returned'⟩
  have went := @restarts_went tools arguments collisionFree restarts start genuine
  have finished := (stream_ends collisionFree (went.moved.genuine genuine)).returned returned
  have straight := (stream_ends collisionFree genuine).returned returned'
  apply alike_all
  intro file
  apply passed_agree collisionFree covers finished.2 straight.2
  by_cases listed : file ∈ allFiles tools arguments (shardNames arguments.index)
  · exact .inr listed
  · exact .inl (went.moved.outside file listed).symm

end Restarts

/-- After runs with any arguments, and runs with these that were killed anywhere: what was pruned
had verified, preparation resumes if the index covers the headers, and what counts as complete
is the compilation of the content with the digest, fragment and segment. -/
theorem preparation_resumes {tools : Tools}
    (collisionFree : Function.Injective tools.hashes.sha256) (arguments : Arguments)
    (earlier : List (Arguments × Run)) (source : Name → FileFetching.Disk)
    (restarts : List Run) :
    let start := afterEarlier tools earlier source
    let disk := restarts.foldl (afterRun tools arguments) start
    (∀ shard ∈ disk.pruned, shard ∈ start.pruned ∨ Verifies tools arguments shard) ∧
    (Covers tools arguments → Resumes tools arguments start) ∧
    ∀ shardName expected digest cut,
      fragmentSetComplete tools disk.stored shardName expected digest cut = true →
      ∀ stage ∈ expected, Complete tools disk.stored shardName digest cut stage := by
  intro start disk
  have genuine := earlier_genuine collisionFree earlier source
  have went := @restarts_went tools arguments collisionFree restarts start genuine
  refine ⟨went.pruned, fun covers => resumes collisionFree covers genuine, ?_⟩
  intro shardName expected digest cut complete
  exact fragment_set_genuine collisionFree (went.moved.genuine genuine) complete

section Sample

def firstGate : Name := "model.language_model.layers.0.mlp.gate.weight".toList

def lastGate : Name := "model.language_model.layers.47.mlp.gate.weight".toList

/-- A shard with the two tensors, each of one BF16 zero: eight bytes with the length of the JSON
header, the header and the data. -/
def sampleShard : Bytes :=
  [198, 0, 0, 0, 0, 0, 0, 0, 123, 34, 109, 111, 100, 101, 108, 46, 108, 97, 110, 103, 117, 97,
    103, 101, 95, 109, 111, 100, 101, 108, 46, 108, 97, 121, 101, 114, 115, 46, 48, 46, 109, 108,
    112, 46, 103, 97, 116, 101, 46, 119, 101, 105, 103, 104, 116, 34, 58, 123, 34, 100, 116, 121,
    112, 101, 34, 58, 34, 66, 70, 49, 54, 34, 44, 34, 115, 104, 97, 112, 101, 34, 58, 91, 49, 93,
    44, 34, 100, 97, 116, 97, 95, 111, 102, 102, 115, 101, 116, 115, 34, 58, 91, 48, 44, 50, 93,
    125, 44, 34, 109, 111, 100, 101, 108, 46, 108, 97, 110, 103, 117, 97, 103, 101, 95, 109, 111,
    100, 101, 108, 46, 108, 97, 121, 101, 114, 115, 46, 52, 55, 46, 109, 108, 112, 46, 103, 97,
    116, 101, 46, 119, 101, 105, 103, 104, 116, 34, 58, 123, 34, 100, 116, 121, 112, 101, 34, 58,
    34, 66, 70, 49, 54, 34, 44, 34, 115, 104, 97, 112, 101, 34, 58, 91, 49, 93, 44, 34, 100, 97,
    116, 97, 95, 111, 102, 102, 115, 101, 116, 115, 34, 58, 91, 50, 44, 52, 93, 125, 125, 0, 0, 0,
    0]

def shardDigest : String := "9d6e86c497b12bce79aed5d6b50e8a91f94e1b9dc766f7d371b073b8ea710eac"

def gateDigest : String := "96a296d224f285c67bee93c30f8a309157f0daa35dc5b87e410b78630a09cfc7"

def policyDigest : String := "b670f647c3b628f9e671f9ad46bf794093e0149c0d4f1ea64c18d22453a35723"

/-- The SHA-256 of what the sample hashes, and no two texts alike. -/
def sampleHash (bytes : Bytes) : String :=
  if bytes = sampleShard then shardDigest
  else if bytes = [0, 0] then gateDigest
  else String.ofList ('#' :: bytes.map fun byte => Char.ofNat byte.toNat)

/-- What was hashed. -/
def hashedBytes (digest : String) : Bytes :=
  if digest = shardDigest then sampleShard
  else if digest = gateDigest then [0, 0]
  else digest.toList.tail.map fun letter => UInt8.ofNat letter.toNat

theorem marked_differs {digest : String} (marked : digest.toList.head? ≠ some '#')
    (letters : List Char) : String.ofList ('#' :: letters) ≠ digest := by
  rintro rfl
  rw [String.toList_ofList] at marked
  exact marked rfl

theorem byte_letter (byte : UInt8) : UInt8.ofNat (Char.ofNat byte.toNat).toNat = byte := by
  have valid : byte.toNat.isValidChar := .inl (Nat.lt_trans byte.toNat_lt (by decide))
  rw [Char.toNat_ofNat, if_pos valid, UInt8.ofNat_toNat]

theorem hashed_sample (bytes : Bytes) : hashedBytes (sampleHash bytes) = bytes := by
  unfold sampleHash
  by_cases shard : bytes = sampleShard
  · rw [if_pos shard, hashedBytes, if_pos rfl, shard]
  rw [if_neg shard]
  by_cases gate : bytes = [0, 0]
  · rw [if_pos gate, hashedBytes, if_neg (by decide +kernel), if_pos rfl, gate]
  rw [if_neg gate]
  rw [hashedBytes, if_neg (marked_differs (by decide +kernel) _),
    if_neg (marked_differs (by decide +kernel) _), String.toList_ofList, List.tail_cons,
    List.map_map]
  exact List.map_id'' byte_letter bytes

theorem sample_hash_injective : Function.Injective sampleHash :=
  Function.LeftInverse.injective hashed_sample

def gateTensor (name : Name) (place : Nat) : Tensor :=
  ⟨name, "BF16".toList, [1], 206 + place, 208 + place⟩

def sampleTools : Tools where
  hashes := ⟨sampleHash, fun _ => ""⟩
  readSafetensorsHeader content :=
    if content = sampleShard then .ok [gateTensor firstGate 0, gateTensor lastGate 2]
    else .error (.valueError "short safetensors header")
  decide name _ :=
    if name = firstGate then
      .ok (.kept .stage0 "blk.0.ffn_gate_inp.weight".toList .preserve 0)
    else if name = lastGate then
      .ok (.kept .stage1 "blk.47.ffn_gate_inp.weight".toList .preserve 0)
    else .error (.valueError "unmapped official Qwen3.8 tensor")
  policyIdentity _ := policyDigest
  encode content selected position :=
    let padding := (4096 - position % 4096) % 4096
    let bytes := (content.drop selected.tensor.absoluteBegin).take
      (selected.tensor.absoluteEnd - selected.tensor.absoluteBegin)
    ([List.replicate padding 0, bytes],
      .ok ⟨position + padding, bytes.length, sampleHash bytes, 0, 0, none⟩)

def sampleName : Name := "model.safetensors".toList

def sampleArguments (index : List (Name × Name)) : Arguments where
  manifest := [⟨sampleName, some 210, some (sampleHash sampleShard), none⟩]
  index := index
  cut := 25
  force := false
  pruneSourceShards := true

def wholeRun : Run where
  fetch _ := FileFetching.faithful sampleShard

/-- Killed between the two stages. -/
def halfRun : Run :=
  { wholeRun with killed := fun _ point => point = .unlinkSegment .stage1 }

def listedIndex : List (Name × Name) := [(firstGate, sampleName), (lastGate, sampleName)]

theorem sample_covers : Covers sampleTools (sampleArguments listedIndex) := by
  intro shardName record digest expected found owned content _ stage _
  have named : shardName = sampleName := by
    by_contra other
    have missing : ([⟨sampleName, some 210, some (sampleHash sampleShard), none⟩] :
        List ManifestRecord).find? (·.path = shardName) = none := by
      rw [List.find?_singleton]
      exact if_neg fun same => other (of_decide_eq_true same).symm
    rw [sampleArguments, manifestRecord, missing] at found
    cases found
  subst named
  have both : expectedFragmentStagesFromIndex sampleTools listedIndex sampleName 25 =
      .ok [.stage0, .stage1] := by rfl
  cases both.symm.trans owned
  cases stage <;> simp

theorem preparation_resumes_sample :
    (afterRun sampleTools (sampleArguments listedIndex)
      (afterRun sampleTools (sampleArguments listedIndex) {} halfRun) wholeRun).stored =
    (afterRun sampleTools (sampleArguments listedIndex) {} wholeRun).stored :=
  (preparation_resumes sample_hash_injective (sampleArguments listedIndex) [] (fun _ => {})
    []).2.1 sample_covers [halfRun] wholeRun wholeRun ⟨1, by decide +kernel⟩ ⟨1, by decide +kernel⟩

/-- An index that leaves out the tensor of the second stage: the run that follows a crash takes
the shard for complete, and prunes it without the other fragment. -/
theorem index_short_of_header : Function.Injective sampleTools.hashes.sha256 ∧
    ¬ Resumes sampleTools (sampleArguments [(firstGate, sampleName)])
      (afterEarlier sampleTools [] fun _ => {}) := by
  refine ⟨sample_hash_injective, fun resumed => ?_⟩
  have same := resumed [halfRun] wholeRun wholeRun ⟨1, by decide +kernel⟩ ⟨1, by decide +kernel⟩
  have fragment := congrArg (fun stored : Stored =>
    (stored.fragments (.stage1, fragmentName sampleName)).isSome) same
  exact absurd fragment (by decide +kernel)

end Sample

end Q38.ArtifactPreparation
