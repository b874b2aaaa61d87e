import Q38Runtime.BatchIsolation
import Q38Runtime.PageCache

/-! `PleStore` of `ple.cc`: rows of a layout are read as extents of its files,
through the page cache where there is one, whose misses are read by `pread` or as
one batch of the io_uring provider. The statistics are not kept. An output that is
no null pointer is the list of its bytes; what a call that throws has written to it
is not kept either. -/
namespace Q38.PleStore
open Contracts Imperative IoUring PageCache

structure PleFileV1 where
  index : UInt32
  path : String := ""
  fileBytes : UInt64
  payloadBytes : UInt64 := 0
  deriving DecidableEq, Repr

structure PlePartV1 where
  logicalPart : UInt32
  fileIndex : UInt32
  globalRowStart : UInt64
  rows : UInt64
  fileOffset : UInt64
  payloadBytes : UInt64 := 0
  scaleFileIndex : UInt32 := 0
  scaleFileOffset : UInt64 := 0
  scaleBytes : UInt64 := 0
  deriving DecidableEq, Repr

structure PleLayoutV1 where
  rowStrideBytes : UInt32
  usableRows : UInt64
  files : List PleFileV1
  parts : List PlePartV1
  deriving DecidableEq, Repr

inductive PleIoModeV1 where
  | auto
  | buffered
  | ioUringDirect
  deriving DecidableEq, Repr

structure PleStoreOptionsV1 where
  cacheBytes : UInt64 := 0
  cachePageBytes : UInt32 := 4096
  ioMode : PleIoModeV1 := .auto
  queueDepth : UInt32 := 64
  deriving DecidableEq, Repr

structure PleReadExtentV1 where
  fileIndex : Nat
  offset : Nat
  outputOffset : Nat
  bytes : Nat
  deriving DecidableEq, Repr

/-- What `pread` returns once it is not interrupted any more, and the text of `errno`. -/
structure PreadAnswer where
  count : Int
  errno : String := ""
  deriving DecidableEq, Repr

/-- The members that are fixed, and what the store meets; the files are the provider's. -/
structure Setup where
  layout : PleLayoutV1
  provider : Provider
  pread : Nat → PreadAnswer := fun _ => ⟨2 ^ 64, ""⟩

/-- `ring` is the io_uring provider, where there is one. -/
structure Store where
  cache : Option Cache := none
  ring : Option Ring := none
  preads : Nat := 0

abbrev StoreCall := Proc Fault Store

def invalid (what : String) : Fault := .thrown (.invalidArgument what)

def maxSize : Nat := 2 ^ 64 - 1

/-- The constructor; `directError` tells what keeps the provider from being set up,
if anything does. -/
def makeStore (options : PleStoreOptionsV1) (directError : Option String) :
    Except Fault Store := do
  if options.queueDepth = 0 ∨ options.queueDepth > 4096 then
    .error (invalid "PLE I/O queue depth is invalid")
  else if options.cacheBytes ≠ 0 ∧ (options.cachePageBytes = 0 ∨
      options.cachePageBytes &&& (options.cachePageBytes - 1) ≠ 0 ∨
      options.cacheBytes < options.cachePageBytes.toUInt64) then
    .error (invalid "PLE cache page/capacity is invalid")
  else
    let pageBytes := options.cachePageBytes.toNat
    let cache : Option Cache := if options.cacheBytes = 0 then none
      else some { pageBytes := pageBytes, maxPages := options.cacheBytes.toNat / pageBytes }
    let directCandidate := options.ioMode ≠ .buffered ∧ options.cacheBytes ≠ 0 ∧ pageBytes = 4096
    if options.ioMode = .ioUringDirect ∧ ¬ directCandidate then
      .error (invalid "direct PLE I/O requires a nonzero 4 KiB page cache")
    else if ¬ directCandidate then .ok { cache := cache }
    else match directError with
      | none => .ok {
          cache := cache
          ring := some { buffers := fun _ => List.replicate pageBytes 0 } }
      | some what =>
          if options.ioMode = .ioUringDirect then .error (runtime what)
          else .ok { cache := cache }

section Lookup
variable (layout : PleLayoutV1)

def findPart (globalRow : UInt64) : Except Fault PlePartV1 :=
  if globalRow ≥ layout.usableRows then
    .error (runtime "PLE row is outside usable vocabulary")
  else match (layout.parts.takeWhile (·.globalRowStart ≤ globalRow)).getLast? with
    | none => .error (runtime "PLE row has no logical part")
    | some part =>
        if globalRow ≥ part.globalRowStart + part.rows then
          .error (runtime "PLE row falls in a logical part gap")
        else .ok part

def fileSize (fileIndex : Nat) : Except Fault Nat :=
  match layout.files.find? (·.index.toNat = fileIndex) with
  | none => .error (runtime "PLE physical file metadata is missing")
  | some file => .ok file.fileBytes.toNat

def isOpen (fileIndex : Nat) : Prop := ∃ file ∈ layout.files, file.index.toNat = fileIndex

instance (fileIndex : Nat) : Decidable (isOpen layout fileIndex) :=
  inferInstanceAs (Decidable (∃ file ∈ layout.files, _))

/-- The extent of a row; its offset is 64-bit arithmetic. -/
def rowExtent (globalRow : UInt64) (outputOffset : Nat) : Except Fault PleReadExtentV1 := do
  let part ← findPart layout globalRow
  let localRow := globalRow - part.globalRowStart
  let offset := part.fileOffset + localRow * layout.rowStrideBytes.toUInt64
  pure ⟨part.fileIndex.toNat, offset.toNat, outputOffset, layout.rowStrideBytes.toNat⟩

def rowExtents : List UInt64 → Nat → Except Fault (List PleReadExtentV1)
  | [], _ => pure []
  | globalRow :: rest, index => do
      let extent ← rowExtent layout globalRow (index * layout.rowStrideBytes.toNat)
      let extents ← rowExtents rest (index + 1)
      pure (extent :: extents)

def checkExtent (outputBytes : Nat) (extent : PleReadExtentV1) : Except Fault Unit := do
  let fault := invalid "PLE read extent is invalid"
  if extent.bytes = 0 ∨ extent.outputOffset > outputBytes ∨
      extent.bytes > outputBytes - extent.outputOffset then .error fault
  else
    let size ← fileSize layout extent.fileIndex
    if extent.offset > size ∨ extent.bytes > size - extent.offset then .error fault else pure ()

def checkExtents (outputBytes : Nat) : List PleReadExtentV1 → Except Fault Unit
  | [] => pure ()
  | extent :: rest => do
      checkExtent layout outputBytes extent
      checkExtents outputBytes rest

end Lookup

/-- `std::copy_n` into an output. -/
def overwrite (output : Bytes) (offset : Nat) (bytes : Bytes) : Bytes :=
  output.take offset ++ bytes ++ output.drop (offset + bytes.length)

/-- What an extent needs of one page. -/
structure Piece where
  fileIndex : Nat
  pageOffset : Nat
  inPage : Nat
  take : Nat
  outputOffset : Nat
  deriving DecidableEq, Repr

/-- `absolute & ~(page_bytes - 1)`. -/
def pageStart (pageBytes absolute : Nat) : Nat :=
  (UInt64.ofNat absolute &&& ~~~ UInt64.ofNat (pageBytes - 1)).toNat

/-- The pieces of an extent from `copied` on; there are at most as many as bytes. -/
def piecesFrom (pageBytes : Nat) (extent : PleReadExtentV1) : Nat → Nat → List Piece
  | 0, _ => []
  | fuel + 1, copied =>
      if copied < extent.bytes then
        let absolute := extent.offset + copied
        let pageOffset := pageStart pageBytes absolute
        let inPage := absolute - pageOffset
        let take := min (extent.bytes - copied) (pageBytes - inPage)
        ⟨extent.fileIndex, pageOffset, inPage, take, extent.outputOffset + copied⟩ ::
          piecesFrom pageBytes extent fuel (copied + take)
      else []

def pieces (pageBytes : Nat) (extent : PleReadExtentV1) : List Piece :=
  piecesFrom pageBytes extent extent.bytes 0

def pageKey (pageBytes : Nat) (piece : Piece) : Nat :=
  piece.fileIndex <<< 56 ||| piece.pageOffset / pageBytes

structure PageLoad where
  key : Nat
  fileIndex : Nat
  pageOffset : Nat
  physicalBytes : Nat
  deriving DecidableEq, Repr

structure PendingCopy where
  load : Nat
  inPage : Nat
  outputOffset : Nat
  bytes : Nat
  deriving DecidableEq, Repr

/-- The locals of the first pass; the loads are also the map from their keys. -/
structure Plan where
  cache : Cache
  output : Bytes
  loads : List PageLoad := []
  pending : List PendingCopy := []

section Read
variable (setup : Setup)

def planLoad (piece : Piece) (key : Nat) : Proc Fault Plan Unit := do
  let plan ← Proc.read id
  let copy (load : Nat) : PendingCopy := ⟨load, piece.inPage, piece.outputOffset, piece.take⟩
  match plan.loads.findIdx? (·.key = key) with
  | some index => Proc.write fun plan => { plan with pending := plan.pending ++ [copy index] }
  | none => do
      let size ← Proc.settle (fileSize setup.layout piece.fileIndex)
      let physicalBytes := min (size - piece.pageOffset) plan.cache.pageBytes
      Proc.write fun plan => { plan with
        loads := plan.loads ++ [⟨key, piece.fileIndex, piece.pageOffset, physicalBytes⟩]
        pending := plan.pending ++ [copy plan.loads.length] }

/-- A piece is copied from its page, or put off until the page is read. -/
def planPiece (piece : Piece) : Proc Fault Plan Unit := do
  Proc.ensure (piece.fileIndex < 256) (runtime "PLE cache file index exceeds V1 key space")
  let plan ← Proc.read id
  let key := pageKey plan.cache.pageBytes piece
  match plan.cache.find key with
  | some entry =>
      let page := plan.cache.memory entry.page
      Proc.write fun plan => { plan with
        cache := plan.cache.touch entry
        output := overwrite plan.output piece.outputOffset
          ((page.drop piece.inPage).take piece.take) }
  | none => planLoad setup piece key

def planPieces : List Piece → Proc Fault Plan Unit
  | [] => pure ()
  | piece :: rest => do
      planPiece setup piece
      planPieces rest

/-- `pread`, which fails where it returns nothing. -/
def pread (failure : String) (fileIndex size offset : Nat) : StoreCall Bytes := do
  let turn ← Proc.read (·.preads)
  Proc.write fun store => { store with preads := store.preads + 1 }
  let answer := setup.pread turn
  let bytes := ((setup.provider.kernel.files fileIndex).drop offset).take (min answer.count.toNat size)
  Proc.ensure (0 < answer.count ∧ bytes ≠ []) (runtime (failure ++ answer.errno))
  pure bytes

/-- Read until `done` has `size` bytes; each `pread` brings one. -/
def preadLoop (failure : String) (fileIndex size offset : Nat) : Nat → Bytes → StoreCall Bytes
  | 0, done => pure done
  | fuel + 1, done =>
      if done.length < size then do
        let more ← pread setup failure fileIndex (size - done.length) (offset + done.length)
        preadLoop failure fileIndex size offset fuel (done ++ more)
      else pure done

def preadAll (failure : String) (fileIndex size offset : Nat) : StoreCall Bytes := do
  Proc.ensure (isOpen setup.layout fileIndex) (runtime "PLE file is not open")
  preadLoop setup failure fileIndex size offset size []

/-- Without a cache the extents are read one after another. -/
def readUncached : List PleReadExtentV1 → Bytes → StoreCall Bytes
  | [], output => pure output
  | extent :: rest, output => do
      let bytes ← preadAll setup "PLE read failed: " extent.fileIndex extent.bytes extent.offset
      readUncached rest (overwrite output extent.outputOffset bytes)

def readBuffered (pageBytes : Nat) : List PageLoad → StoreCall (List Bytes)
  | [] => pure []
  | load :: rest => do
      let bytes ← preadAll setup "PLE page read failed: " load.fileIndex load.physicalBytes
        load.pageOffset
      let pages ← readBuffered pageBytes rest
      pure ((bytes ++ List.replicate (pageBytes - bytes.length) 0) :: pages)

def directRequests (loads : List PageLoad) : List ReadRequest :=
  loads.map fun load => ⟨load.fileIndex, load.pageOffset, load.physicalBytes⟩

/-- The pages of the loads, in their order. -/
def readPages (pageBytes : Nat) (loads : List PageLoad) : StoreCall (List Bytes) := do
  let provider ← Proc.read (·.ring)
  match provider with
  | none => readBuffered setup pageBytes loads
  | some ring => do
      Proc.ensure (∀ load ∈ loads, isOpen setup.layout load.fileIndex)
        (runtime "PLE direct file descriptor is unavailable")
      let answer ← Proc.within (fun _ => ring) (fun ring store => { store with ring := some ring })
        (setup.provider.batch (directRequests loads))
      pure answer.1

def copyPending (pages : List Bytes) (pending : List PendingCopy) (output : Bytes) : Bytes :=
  pending.foldl (fun output copy => overwrite output copy.outputOffset
    (((pages.getD copy.load []).drop copy.inPage).take copy.bytes)) output

/-- The second pass: read what is missing, copy what was put off, and keep the pages. -/
def finishPlan (plan : Plan) : StoreCall Bytes :=
  if plan.loads = [] then pure plan.output
  else do
    Proc.ensure (plan.loads.length ≤ maxSize / plan.cache.pageBytes)
      (.thrown (.overflowError "PLE page-read batch size overflows"))
    let pages ← readPages setup plan.cache.pageBytes plan.loads
    Proc.within (fun _ => plan.cache) (fun cache store => { store with cache := some cache })
      (insertPages ((plan.loads.map (·.key)).zip pages))
    pure (copyPending pages plan.pending plan.output)

def readCached (cache : Cache) (extents : List PleReadExtentV1) (output : Bytes) :
    StoreCall Bytes := do
  let plan ← Proc.within (fun _ => { cache := cache, output := output })
    (fun (plan : Plan) store => { store with cache := some plan.cache }) do
      planPieces setup (extents.flatMap (pieces cache.pageBytes))
      Proc.read id
  finishPlan setup plan

def readExtents (extents : List PleReadExtentV1) (output : Bytes) (outputBytes : Nat) :
    StoreCall Bytes := do
  Proc.settle (checkExtents setup.layout outputBytes extents)
  Proc.ensure (¬ (extents = [] ∧ outputBytes ≠ 0)) (invalid "PLE read output is invalid")
  let cache ← Proc.read (·.cache)
  match cache with
  | none => readUncached setup extents output
  | some cache => readCached setup cache extents output

def readRow (globalRow : UInt64) : StoreCall Bytes := do
  let extent ← Proc.settle (rowExtent setup.layout globalRow 0)
  let size := setup.layout.rowStrideBytes.toNat
  readExtents setup [extent] (List.replicate size 0) size

def rowOverflow : Fault := .thrown (.overflowError "PLE row batch byte size overflows")

def readRowsInto (globalRows : List UInt64) (output : Bytes) (outputBytes : Nat) :
    StoreCall Bytes := do
  let stride := setup.layout.rowStrideBytes.toNat
  Proc.ensure (globalRows.length ≤ maxSize / stride) rowOverflow
  Proc.ensure (outputBytes = globalRows.length * stride)
    (invalid "PLE output extent differs from row batch")
  let extents ← Proc.settle (rowExtents setup.layout globalRows 0)
  readExtents setup extents output outputBytes

def readRows (globalRows : List UInt64) : StoreCall Bytes := do
  let stride := setup.layout.rowStrideBytes.toNat
  Proc.ensure (globalRows.length ≤ maxSize / stride) rowOverflow
  readRowsInto setup globalRows (List.replicate (globalRows.length * stride) 0)
    (globalRows.length * stride)

/-- The calls of a client. An output has the bytes its caller says it has. -/
inductive Call where
  | readRow (globalRow : UInt64)
  | readRows (globalRows : List UInt64)
  | readRowsInto (globalRows : List UInt64) (output : Bytes)
  deriving DecidableEq, Repr

def serve : Call → StoreCall Bytes
  | .readRow globalRow => readRow setup globalRow
  | .readRows globalRows => readRows setup globalRows
  | .readRowsInto globalRows output => readRowsInto setup globalRows output output.length

end Read

end Q38.PleStore
