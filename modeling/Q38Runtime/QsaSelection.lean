import Q38Runtime.RadixSelection

/-!
The block selector of the sparse attention. Scores are the 32-bit patterns that
the index kernels leave behind; the kernels run thread by thread on the words
behind a device pointer, in lockstep between two barriers. The radix state
shares its words with the list of selected positions that the last kernel
writes.
-/
namespace Q38.QsaSelection

open RadixSelection StridedLoops

abbrev Word := BitVec 32
abbrev Memory := Nat → Word

def kQ38QsaBlockTokens : Nat := 4
def kQ38QsaBlockBudget : Nat := 512
def kQ38QsaMaximumSelected : Nat := 2051
def kQ38ContextLimit : Nat := 262144
def kQsaRadixPrefixSlot : Nat := 256
def kQsaRadixMaskSlot : Nat := 257
def kQsaRadixRankSlot : Nat := 258

/-- Threads of a CTA in every selector kernel; one for each histogram bucket. -/
def kThreads : Nat := 256

/-- The blocks that the threads of one CTA visit in a grid-stride loop. -/
def ctaShare (ctas cta completeBlocks : Nat) : List Nat :=
  (List.range kThreads).flatMap fun thread =>
    strided (cta * kThreads + thread) (ctas * kThreads) completeBlocks

def radix8Init (scratch : Memory) : Memory := fun slot =>
  if slot < kThreads then 0
  else if slot = kQsaRadixPrefixSlot then 0
  else if slot = kQsaRadixMaskSlot then 0
  else if slot = kQsaRadixRankSlot then BitVec.ofNat 32 kQ38QsaBlockBudget
  else scratch slot

def digitOf (bits : Word) (shift : Nat) : Nat := (bits >>> shift &&& 0xff#32).toNat

/-- The shared histogram of one CTA. -/
def localHistogram (scores : Memory) (mask leading : Word) (shift : Nat) (blocks : List Nat) :
    Memory :=
  blocks.foldl (fun histogram block =>
    if scores block &&& mask = leading then
      Function.update histogram (digitOf (scores block) shift)
        (histogram (digitOf (scores block) shift) + 1)
    else histogram) fun _ => 0

def radix8Histogram (scores : Memory) (completeBlocks ctas shift : Nat) (scratch : Memory) :
    Memory :=
  (List.range ctas).foldl (fun scratch cta =>
    let histogram := localHistogram scores (scratch kQsaRadixMaskSlot)
      (scratch kQsaRadixPrefixSlot) shift (ctaShare ctas cta completeBlocks)
    fun slot => if slot < kThreads ∧ histogram slot ≠ 0 then scratch slot + histogram slot
      else scratch slot) scratch

/-- Thread 0 walks the buckets down from the highest. -/
def chooseBucket (histogram : Memory) (shift : Nat) : Nat → Word → Word → Word × Word
  | 0, leading, rank => (leading, rank)
  | bucket + 1, leading, rank =>
      if rank ≤ histogram bucket then (leading ||| BitVec.ofNat 32 bucket <<< shift, rank)
      else chooseBucket histogram shift bucket leading (rank - histogram bucket)

def radix8Choose (shift : Nat) (scratch : Memory) : Memory :=
  let chosen := chooseBucket scratch shift kThreads (scratch kQsaRadixPrefixSlot)
    (scratch kQsaRadixRankSlot)
  fun slot =>
    if slot < kThreads then 0
    else if slot = kQsaRadixPrefixSlot then chosen.1
    else if slot = kQsaRadixMaskSlot then scratch kQsaRadixMaskSlot ||| 0xff#32 <<< shift
    else if slot = kQsaRadixRankSlot then chosen.2
    else scratch slot

def ballot (take : Nat → Bool) (warp : Nat) : Word :=
  (BitVec.iunfoldr (fun lane _ => ((), take (warp * 32 + lane))) ()).2

def warpCount (take : Nat → Bool) (warp : Nat) : Nat := (ballot take warp).cpop.toNat

def lowerLanes (lane : Nat) : Word := if lane = 0 then 0 else 0xffffffff#32 >>> (32 - lane)

/-- How many threads of the CTA before this one take their block. -/
def takeOffset (take : Nat → Bool) (thread : Nat) : Nat :=
  ((List.range (thread / 32)).map (warpCount take)).sum +
    (ballot take (thread / 32) &&& lowerLanes (thread % 32)).cpop.toNat

structure Gathered where
  written : Nat
  selected : Memory

def writeBlock (slot block : Nat) (selected : Memory) : Memory :=
  (List.range kQ38QsaBlockTokens).foldl (fun selected row =>
    Function.update selected (slot * kQ38QsaBlockTokens + row)
      (BitVec.ofNat 32 (block * kQ38QsaBlockTokens + row))) selected

/-- The threads of a chunk write the blocks they take, each to its own slot. -/
def writeChunk (mine : Nat → Bool) (selectedBlocks base written threads : Nat)
    (selected : Memory) : Memory :=
  (List.range threads).foldl (fun selected thread =>
    if mine thread ∧ written + takeOffset mine thread < selectedBlocks then
      writeBlock (written + takeOffset mine thread) (base + thread) selected
    else selected) selected

/-- One turn of the gather loop: the CTA looks at the 256 blocks from `base` on. -/
def gatherChunk (take : Nat → Bool) (selectedBlocks base : Nat) (state : Gathered) : Gathered :=
  let mine (thread : Nat) := take (base + thread)
  { selected := writeChunk mine selectedBlocks base state.written kThreads state.selected
    written := min selectedBlocks
      (state.written + ((List.range (kThreads / 32)).map (warpCount mine)).sum) }

def gatherPass (take : Nat → Bool) (selectedBlocks : Nat) : List Nat → Gathered → Gathered
  | [], state => state
  | base :: bases, state =>
      let next := gatherChunk take selectedBlocks base state
      if next.written = selectedBlocks then next
      else gatherPass take selectedBlocks bases next

/-- Both passes of the gather, then the positions of the incomplete last block. -/
def gather (take : Nat → Nat → Bool) (selectedBlocks completeBlocks position : Nat)
    (selected : Memory) : Memory :=
  let bases := strided 0 kThreads completeBlocks
  let first := gatherPass (take 0) selectedBlocks bases { written := 0, selected := selected }
  let second := if first.written = selectedBlocks then first
    else gatherPass (take 1) selectedBlocks bases first
  (List.range ((position + 1) % kQ38QsaBlockTokens)).foldl (fun selected index =>
    Function.update selected (selectedBlocks * kQ38QsaBlockTokens + index)
      (BitVec.ofNat 32 (completeBlocks * kQ38QsaBlockTokens + index))) second.selected

def radix8GatherDecode (scores : Memory) (completeBlocks position : Nat) (selected : Memory) :
    Memory :=
  let threshold := selected kQsaRadixPrefixSlot
  gather (fun pass block => block < completeBlocks ∧
      if pass = 0 then threshold < scores block else scores block = threshold)
    kQ38QsaBlockBudget completeBlocks position selected

def selectAllDecode (visible ctas : Nat) (selected : Memory) : Memory :=
  (List.range ctas).foldl (fun selected cta =>
    (ctaShare ctas cta visible).foldl (fun selected index =>
      Function.update selected index (BitVec.ofNat 32 index)) selected) selected

/-- The list and its length; `none` where the call is refused. -/
def cudaQsaSelectDecode (scores : Memory) (position : Nat) (selected : Memory) :
    Option (Memory × Nat) :=
  if position ≥ kQ38ContextLimit then none
  else
    let visible := position + 1
    let completeBlocks := visible / kQ38QsaBlockTokens
    let selectedBlocks := min completeBlocks kQ38QsaBlockBudget
    let tail := visible % kQ38QsaBlockTokens
    let selectedCount := selectedBlocks * kQ38QsaBlockTokens + tail
    if completeBlocks ≤ kQ38QsaBlockBudget then
      some (selectAllDecode selectedCount ((selectedCount + 255) / 256) selected, selectedCount)
    else
      let ctas := min ((completeBlocks + 255) / 256) 64
      let radix := [24, 16, 8, 0].foldl (fun scratch shift =>
        radix8Choose shift (radix8Histogram scores completeBlocks ctas shift scratch))
        (radix8Init selected)
      some (radix8GatherDecode scores completeBlocks position radix, selectedCount)

/-- The words behind the row of a token. -/
def rowOf (token : Nat) (memory : Memory) : Memory := fun index =>
  memory (token * kQ38QsaMaximumSelected + index)

/-- A kernel that addresses memory from the row of its token on. -/
def atRow (token : Nat) (kernel : Memory → Memory) (memory : Memory) : Memory := fun address =>
  if address < token * kQ38QsaMaximumSelected then memory address
  else kernel (rowOf token memory) (address - token * kQ38QsaMaximumSelected)

def launch (tokens : Nat) (kernel : Nat → Memory → Memory) (memory : Memory) : Memory :=
  (List.range tokens).foldl (fun memory token => atRow token (kernel token) memory) memory

def completeBlocksAt (position : Nat) : Nat := (position + 1) / kQ38QsaBlockTokens

def radix8InitPrefill (firstPosition token : Nat) (selected : Memory) : Memory :=
  if completeBlocksAt (firstPosition + token) ≤ kQ38QsaBlockBudget then selected
  else radix8Init selected

def tokenScores (scores : Memory) (scoreStride token : Nat) : Memory := fun block =>
  scores (token * scoreStride + block)

def radix8HistogramPrefill (scores : Memory) (scoreStride firstPosition ctas shift token : Nat)
    (selected : Memory) : Memory :=
  if completeBlocksAt (firstPosition + token) ≤ kQ38QsaBlockBudget then selected
  else radix8Histogram (tokenScores scores scoreStride token)
    (completeBlocksAt (firstPosition + token)) ctas shift selected

def radix8ChoosePrefill (firstPosition shift token : Nat) (selected : Memory) : Memory :=
  if completeBlocksAt (firstPosition + token) ≤ kQ38QsaBlockBudget then selected
  else radix8Choose shift selected

def radix8GatherPrefill (scores : Memory) (scoreStride firstPosition token : Nat)
    (selected : Memory) : Memory :=
  let position := firstPosition + token
  let completeBlocks := completeBlocksAt position
  let selectedBlocks := min completeBlocks kQ38QsaBlockBudget
  let threshold := if completeBlocks > selectedBlocks then selected kQsaRadixPrefixSlot else 0
  gather (fun pass block => block < completeBlocks ∧ (completeBlocks ≤ selectedBlocks ∨
      if pass = 0 then threshold < tokenScores scores scoreStride token block
      else tokenScores scores scoreStride token block = threshold))
    selectedBlocks completeBlocks position selected

def cudaQsaSelectPrefill (scores : Memory) (scoreStride firstPosition tokens : Nat)
    (selected : Memory) : Option Memory :=
  if tokens = 0 ∨ firstPosition ≥ kQ38ContextLimit ∨ tokens > kQ38ContextLimit - firstPosition ∨
      scoreStride < (firstPosition + tokens + kQ38QsaBlockTokens - 1) / kQ38QsaBlockTokens then
    none
  else
    let maximumCompleteBlocks := (firstPosition + tokens) / kQ38QsaBlockTokens
    let ctas := min ((maximumCompleteBlocks + 255) / 256) 8
    let radix := if maximumCompleteBlocks > kQ38QsaBlockBudget then
        [24, 16, 8, 0].foldl (fun memory shift =>
          launch tokens (radix8ChoosePrefill firstPosition shift)
            (launch tokens
              (radix8HistogramPrefill scores scoreStride firstPosition ctas shift) memory))
          (launch tokens (radix8InitPrefill firstPosition) selected)
      else selected
    some (launch tokens (radix8GatherPrefill scores scoreStride firstPosition) radix)

/-- The list length that the attention kernels compute for themselves. -/
def attentionCount (position : Nat) : Nat :=
  min (completeBlocksAt position) kQ38QsaBlockBudget * kQ38QsaBlockTokens +
    (position + 1) % kQ38QsaBlockTokens

def indices (selected : Memory) (count : Nat) : List Nat :=
  (List.range count).map fun index => (selected index).toNat

/-- The positions of some blocks, in the order of the blocks. -/
def blockPositions (blocks : List Nat) : List Nat :=
  blocks.flatMap fun block => (List.range kQ38QsaBlockTokens).map (block * kQ38QsaBlockTokens + ·)

/-- The visible positions behind the last complete block. -/
def tailPositions (position : Nat) : List Nat :=
  (List.range ((position + 1) % kQ38QsaBlockTokens)).map
    (completeBlocksAt position * kQ38QsaBlockTokens + ·)

end Q38.QsaSelection
