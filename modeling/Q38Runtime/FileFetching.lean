import Q38Runtime.Imperative

/-!
`fetch_one` of `q38_hf_fetch.py`: one file of the manifest, its destination and its
partial file. An attempt may be killed before each operation on the disk, and `wget`
may leave anything behind. A digest is the hexadecimal text that `hashlib` gives.
-/
namespace Q38.FileFetching
open Imperative

inductive Failure where
  | killed
  | calledProcessError
  | fileNotFound
  | runtimeError (what : String)
  deriving DecidableEq, Repr

structure Item where
  rfilename : String
  size : Option Nat := none
  sha256 : Option String := none
  blobId : Option String := none
  deriving DecidableEq, Repr

def Item.expectedSize (item : Item) : Nat := item.size.getD 0

/-- An empty text counts as no digest. -/
def Item.expectedSha (item : Item) : Option String := item.sha256.filter (· ≠ "")

/-- `hashlib`. -/
structure Hashes where
  sha256 : List UInt8 → String
  sha1 : List UInt8 → String

def Hashes.gitBlobSha1 (hashes : Hashes) (bytes : List UInt8) : String :=
  hashes.sha1 (("blob " ++ toString bytes.length ++ "\x00").toUTF8.toList ++ bytes)

/-- The destination and the file beside it whose name ends in `.part`. -/
structure Disk where
  destination : Option (List UInt8) := none
  part : Option (List UInt8) := none
  deriving DecidableEq, Repr

inductive Status where
  | present
  | downloaded
  deriving DecidableEq, Repr

/-- The operations on the disk in their order, and the return. -/
inductive Point where
  | move
  | fetch
  | publish
  | answer
  deriving DecidableEq, Repr

/-- What an attempt meets: where it is killed, and what `wget` makes of the partial file
and ends with. -/
structure Attempt where
  killed : Point → Bool := fun _ => false
  wget : Option (List UInt8) → Option (List UInt8) × Option Failure

section Fetch
variable (hashes : Hashes) (item : Item)

/-- The content has the digest of the manifest: the SHA-256, or else the blob id. -/
def Verified (bytes : List UInt8) : Prop :=
  match item.expectedSha with
  | some sha => hashes.sha256 bytes = sha
  | none =>
      match item.blobId with
      | some blob => hashes.gitBlobSha1 bytes = blob
      | none => False

instance (bytes : List UInt8) : Decidable (Verified hashes item bytes) := by
  unfold Verified
  split
  · infer_instance
  · split <;> infer_instance

def sizeDiffers (size : Nat) : Failure := .runtimeError
  (item.rfilename ++ ": size " ++ toString size ++ ", expected " ++ toString item.expectedSize)

def digestDiffers (bytes : List UInt8) : Failure :=
  match item.expectedSha with
  | some sha => .runtimeError
      (item.rfilename ++ ": sha256 " ++ hashes.sha256 bytes ++ ", expected " ++ sha)
  | none =>
      match item.blobId with
      | some blob => .runtimeError
          (item.rfilename ++ ": git blob " ++ hashes.gitBlobSha1 bytes ++ ", expected " ++ blob)
      | none => .runtimeError (item.rfilename ++ ": upstream manifest has no content digest")

variable (attempt : Attempt)

def alive (point : Point) : Proc Failure Disk Unit :=
  Proc.ensure (attempt.killed point = false) .killed

/-- From `wget --continue` on. -/
def download : Proc Failure Disk Status := do
  alive attempt .fetch
  let disk ← Proc.read id
  let answer := attempt.wget disk.part
  Proc.write fun disk => { disk with part := answer.1 }
  match answer with
  | (_, some failure) => Proc.throwing failure
  | (none, none) => Proc.throwing .fileNotFound
  | (some bytes, none) => do
      Proc.ensure (item.expectedSize = 0 ∨ bytes.length = item.expectedSize)
        (sizeDiffers item bytes.length)
      Proc.ensure (Verified hashes item bytes) (digestDiffers hashes item bytes)
      alive attempt .publish
      Proc.write fun _ => { destination := some bytes, part := none }
      alive attempt .answer
      pure .downloaded

/-- A destination of the right size and the wrong content becomes the partial file. -/
def fetchOne : Proc Failure Disk Status := do
  let disk ← Proc.read id
  match disk.destination with
  | none => download hashes item attempt
  | some bytes =>
      if bytes.length = item.expectedSize then
        if Verified hashes item bytes then pure .present
        else do
          alive attempt .move
          Proc.write fun disk => { destination := none, part := disk.destination }
          download hashes item attempt
      else download hashes item attempt

/-- What a sequence of attempts leaves on the disk. -/
def attempts (before : List Attempt) (disk : Disk) : Disk :=
  before.foldl (fun disk attempt => (fetchOne hashes item attempt disk).2) disk

end Fetch

section Safety
variable {hashes : Hashes} {item : Item} {attempt : Attempt}

/-- The destination holds a content with the digest of the manifest. -/
def Published (hashes : Hashes) (item : Item) (disk : Disk) : Prop :=
  ∃ bytes, disk.destination = some bytes ∧ Verified hashes item bytes

theorem download_published (disk : Disk) :
    Ends (download hashes item attempt) (fun _ after => Published hashes item after)
      (fun _ _ => True) disk := by
  unfold download alive
  rw [ends_bind, ends_ensure]
  refine ⟨fun _ => ?_, fun _ => trivial⟩
  rw [ends_bind, ends_read]
  dsimp only [id]
  rw [ends_bind, ends_write]
  split
  · trivial
  · trivial
  · next bytes _ =>
      simp only [ends_bind, ends_ensure, ends_write, ends_pure]
      refine ⟨fun _ => ⟨fun verified => ⟨fun _ => ⟨fun _ => ?_, fun _ => trivial⟩,
        fun _ => trivial⟩, fun _ => trivial⟩, fun _ => trivial⟩
      exact ⟨bytes, rfl, verified⟩

theorem fetch_one_published (disk : Disk) :
    Ends (fetchOne hashes item attempt) (fun _ after => Published hashes item after)
      (fun _ _ => True) disk := by
  unfold fetchOne
  rw [ends_bind, ends_read]
  dsimp only [id]
  split
  · exact download_published disk
  · next bytes held =>
      rw [ends_ite]
      refine ⟨fun _ => ?_, fun _ => download_published disk⟩
      rw [ends_ite]
      constructor
      · exact fun verified => ⟨bytes, held, verified⟩
      · intro _
        unfold alive
        rw [ends_bind, ends_ensure]
        refine ⟨fun _ => ?_, fun _ => trivial⟩
        rw [ends_bind, ends_write]
        exact download_published _

end Safety

section Recovery
variable {hashes : Hashes} {item : Item} {content : List UInt8}

/-- `wget --continue` that is not disturbed: it appends what the server has behind the
length of the partial file. -/
def resumed (content : List UInt8) (part : Option (List UInt8)) : List UInt8 :=
  part.getD [] ++ content.drop (part.getD []).length

def faithful (content : List UInt8) : Attempt where
  wget part := (some (resumed content part), none)

/-- The server has the file of the manifest. Where the manifest does not give its size,
no other content has its digest. -/
structure Served (hashes : Hashes) (item : Item) (content : List UInt8) : Prop where
  verified : Verified hashes item content
  sized : item.expectedSize = 0 ∨ item.expectedSize = content.length
  distinct : item.expectedSize = 0 → ∀ bytes, Verified hashes item bytes → bytes = content

/-- After finitely many undisturbed calls, one returns with the file in its place. -/
def Recovers (hashes : Hashes) (item : Item) (content : List UInt8) (disk : Disk) : Prop :=
  ∃ count status, let before := attempts hashes item (List.replicate count (faithful content)) disk
    (fetchOne hashes item (faithful content) before).1 = .ok status ∧
      (fetchOne hashes item (faithful content) before).2.destination = some content

/-- What the next call goes on from, the destination if it has the size of the manifest. -/
def opening (item : Item) (disk : Disk) : Option (List UInt8) :=
  match disk.destination with
  | none => disk.part
  | some bytes => if bytes.length = item.expectedSize then some bytes else disk.part

theorem opening_sized {disk : Disk} {held : List UInt8} (at_ : disk.destination = some held)
    (sized : held.length = item.expectedSize) : opening item disk = some held := by
  rw [opening, at_]
  exact if_pos sized

theorem opening_part {disk : Disk}
    (other : ∀ held, disk.destination = some held → held.length ≠ item.expectedSize) :
    opening item disk = disk.part := by
  unfold opening
  split
  · rfl
  · next held at_ => exact if_neg (other held at_)

theorem resumed_prefix {part : Option (List UInt8)} (leads : part.getD [] <+: content) :
    resumed content part = content := by
  obtain ⟨rest, rfl⟩ := leads
  rw [resumed, List.drop_left]

theorem alive_ends {returns : Unit → Disk → Prop} {throws : Failure → Disk → Prop}
    {disk : Disk} (point : Point) :
    Ends (alive (faithful content) point) returns throws disk ↔ returns () disk := by
  rw [alive, ends_ensure]
  constructor
  · exact fun ended => ended.1 rfl
  · exact fun returned => ⟨fun _ => returned, fun killed => absurd rfl killed⟩

/-- A download that nothing disturbs is decided by the size and the digest. -/
theorem download_ends {returns : Status → Disk → Prop} {throws : Failure → Disk → Prop}
    {disk : Disk}
    (published : (item.expectedSize = 0 ∨
        (resumed content disk.part).length = item.expectedSize) →
      Verified hashes item (resumed content disk.part) →
      returns .downloaded { destination := some (resumed content disk.part), part := none })
    (refused : ∀ failure, ((item.expectedSize = 0 ∨
        (resumed content disk.part).length = item.expectedSize) →
      ¬ Verified hashes item (resumed content disk.part)) →
      throws failure { disk with part := some (resumed content disk.part) }) :
    Ends (download hashes item (faithful content)) returns throws disk := by
  unfold download
  rw [ends_bind, alive_ends, ends_bind, ends_read, ends_bind, ends_write]
  dsimp only [id, faithful]
  rw [ends_bind, ends_ensure]
  refine ⟨fun sized => ?_, fun other => refused _ fun sized => absurd sized other⟩
  rw [ends_bind, ends_ensure]
  refine ⟨fun verified => ?_, fun other => refused _ fun _ => other⟩
  rw [ends_bind]
  apply (alive_ends .publish).mpr
  rw [ends_bind, ends_write, ends_bind]
  apply (alive_ends .answer).mpr
  exact published sized verified

theorem download_goes (served : Served hashes item content) {disk : Disk}
    (leads : disk.part.getD [] <+: content) :
    Ends (download hashes item (faithful content))
      (fun _ after => after.destination = some content) (fun _ _ => False) disk := by
  have whole := resumed_prefix leads
  apply download_ends
  · intro _ _
    exact congrArg some whole
  · intro _ refused
    rw [whole] at refused
    exact refused (served.sized.imp_right Eq.symm) served.verified

/-- A destination of the right size that begins the file is the file. -/
theorem sized_destination (served : Served hashes item content) {bytes : List UInt8}
    (sized : bytes.length = item.expectedSize) (verified : Verified hashes item bytes)
    (leads : bytes <+: content) : bytes = content := by
  rcases served.sized with unknown | known
  · exact served.distinct unknown bytes verified
  · exact leads.eq_of_length (sized.trans known)

theorem fetch_one_goes (served : Served hashes item content) {disk : Disk}
    (leads : ∀ bytes, opening item disk = some bytes → bytes <+: content) :
    Ends (fetchOne hashes item (faithful content))
      (fun _ after => after.destination = some content) (fun _ _ => False) disk := by
  unfold fetchOne
  rw [ends_bind, ends_read]
  dsimp only [id]
  have later (same : opening item disk = disk.part) : disk.part.getD [] <+: content := by
    cases held : disk.part with
    | none => exact List.nil_prefix
    | some bytes => exact leads bytes (same.trans held)
  split
  · next none_ => exact download_goes served (later (opening_part (by simp [none_])))
  · next bytes held =>
      rw [ends_ite]
      constructor
      · intro sized
        have first := leads bytes (opening_sized held sized)
        rw [ends_ite]
        constructor
        · intro verified
          rw [sized_destination served sized verified first] at held
          exact held
        · intro _
          rw [ends_bind, alive_ends, ends_bind, ends_write]
          apply download_goes served
          rw [held]
          exact first
      · intro other
        apply download_goes served (later (opening_part _))
        rw [held]
        rintro _ ⟨⟩
        exact other

/-- The next call goes on from bytes that do not begin the file. -/
def Spoiled (item : Item) (content : List UInt8) (disk : Disk) : Prop :=
  ∃ bytes, opening item disk = some bytes ∧ ¬ bytes <+: content

/-- Nothing takes a byte away from the partial file. -/
theorem resumed_spoiled {bytes : List UInt8} (astray : ¬ bytes <+: content) :
    ¬ resumed content (some bytes) <+: content :=
  fun leads => astray ((List.prefix_append bytes _).trans leads)

theorem download_spoiled (served : Served hashes item content) {disk : Disk} {bytes : List UInt8}
    (part : disk.part = some bytes) (astray : ¬ bytes <+: content)
    (other : ∀ held, disk.destination = some held → held.length ≠ item.expectedSize) :
    Ends (download hashes item (faithful content))
      (fun _ after => Spoiled item content after ∧ after.destination ≠ some content)
      (fun _ after => Spoiled item content after) disk := by
  have longer := resumed_spoiled astray
  have differs : resumed content (some bytes) ≠ content := by
    intro same
    rw [same] at longer
    exact longer (List.prefix_refl content)
  have stays : Spoiled item content { disk with part := some (resumed content (some bytes)) } :=
    ⟨_, opening_part other, longer⟩
  apply download_ends
  · rw [part]
    intro sized verified
    refine ⟨⟨_, ?_, longer⟩, fun same => differs (Option.some.inj same)⟩
    rcases sized with unknown | sized
    · exact absurd (served.distinct unknown _ verified) differs
    · exact opening_sized rfl sized
  · rw [part]
    exact fun _ _ => stays

theorem fetch_one_spoiled (served : Served hashes item content) {disk : Disk}
    (spoiled : Spoiled item content disk) :
    Ends (fetchOne hashes item (faithful content))
      (fun _ after => Spoiled item content after ∧ after.destination ≠ some content)
      (fun _ after => Spoiled item content after) disk := by
  obtain ⟨bytes, goes, astray⟩ := spoiled
  unfold fetchOne
  rw [ends_bind, ends_read]
  dsimp only [id]
  split
  · next none_ =>
      have other : ∀ held, disk.destination = some held → held.length ≠ item.expectedSize := by
        simp [none_]
      exact download_spoiled served ((opening_part other).symm.trans goes) astray other
  · next held at_ =>
      rw [ends_ite]
      constructor
      · intro sized
        obtain rfl : held = bytes := Option.some.inj ((opening_sized at_ sized).symm.trans goes)
        rw [ends_ite]
        constructor
        · intro _
          refine ⟨⟨held, goes, astray⟩, ?_⟩
          rw [at_]
          rintro ⟨⟩
          exact astray (List.prefix_refl _)
        · intro _
          rw [ends_bind, alive_ends, ends_bind, ends_write, at_]
          exact download_spoiled served rfl astray (by simp)
      · intro differs
        have other : ∀ found, disk.destination = some found → found.length ≠ item.expectedSize := by
          rw [at_]
          rintro _ ⟨⟩
          exact differs
        exact download_spoiled served ((opening_part other).symm.trans goes) astray other

theorem attempts_spoiled (served : Served hashes item content) (count : Nat) {disk : Disk}
    (spoiled : Spoiled item content disk) :
    Spoiled item content
      (attempts hashes item (List.replicate count (faithful content)) disk) := by
  induction count generalizing disk with
  | zero => exact spoiled
  | succ count ih =>
      have ended := fetch_one_spoiled served spoiled
      apply ih
      dsimp only
      unfold Ends at ended
      generalize fetchOne hashes item (faithful content) disk = outcome at ended ⊢
      obtain ⟨answer, after⟩ := outcome
      cases answer with
      | ok status => exact ended.1
      | error failure => exact ended

/-- After any attempts, a call reports the file only with its digest. Repeated calls
that nothing disturbs end with the file if and only if the bytes that the first of them
goes on from begin the file. -/
theorem fetch_recovers_iff (hashes : Hashes) (item : Item) :
    (∀ (earlier : List Attempt) (attempt : Attempt) (disk : Disk) (status : Status),
      (fetchOne hashes item attempt (attempts hashes item earlier disk)).1 = .ok status →
      Published hashes item (fetchOne hashes item attempt (attempts hashes item earlier disk)).2) ∧
    ∀ (content : List UInt8), Served hashes item content → ∀ disk : Disk,
      (Recovers hashes item content disk ↔
        ∀ bytes, opening item disk = some bytes → bytes <+: content) := by
  constructor
  · intro earlier attempt disk status returned
    exact (fetch_one_published _).returned returned
  · intro content served disk
    constructor
    · rintro ⟨count, status, returned, placed⟩ bytes goes
      by_contra astray
      have spoiled := attempts_spoiled served count ⟨bytes, goes, astray⟩
      exact ((fetch_one_spoiled served spoiled).returned returned).2 placed
    · intro leads
      have ended := fetch_one_goes served leads
      cases outcome : (fetchOne hashes item (faithful content) disk).1 with
      | ok status => exact ⟨0, status, outcome, ended.returned outcome⟩
      | error failure => exact (ended.threw outcome).elim

/-- A file of two bytes, and the digests of it and of another one. -/
def sampleHashes : Hashes where
  sha256 bytes :=
    if bytes = [1, 2] then "a12871fee210fb8619291eaea194581cbd2531e4b23759d225f6806923f63222"
    else "31609426297325bdb28c86ab3ceeed4a3c438966733fd61b8aea00ee8b23b7bc"
  sha1 _ := ""

def sampleItem : Item where
  rfilename := "vocab.json"
  size := some 2
  sha256 := some "a12871fee210fb8619291eaea194581cbd2531e4b23759d225f6806923f63222"

theorem sample_served : Served sampleHashes sampleItem [1, 2] :=
  ⟨by decide, by decide, fun unknown => absurd unknown (by decide)⟩

theorem fetch_recovers_half : Recovers sampleHashes sampleItem [1, 2] { part := some [1] } :=
  ((fetch_recovers_iff sampleHashes sampleItem).2 [1, 2] sample_served _).mpr (by
    rintro _ ⟨⟩
    decide)

/-- A destination of the right size with other bytes is made the partial file, which
nothing appends to and nothing removes. -/
theorem corrupt_destination_stays :
    Served sampleHashes sampleItem [1, 2] ∧
      ¬ Recovers sampleHashes sampleItem [1, 2] { destination := some [9, 9] } := by
  refine ⟨sample_served, ?_⟩
  rintro ⟨count, status, returned, placed⟩
  have spoiled : Spoiled sampleItem [1, 2] { destination := some [9, 9] } :=
    ⟨[9, 9], by decide, by decide⟩
  have later := attempts_spoiled sample_served count spoiled
  exact ((fetch_one_spoiled sample_served later).returned returned).2 placed

end Recovery

end Q38.FileFetching
