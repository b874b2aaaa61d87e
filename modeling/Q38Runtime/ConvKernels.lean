import Q38Runtime.OwnedTurns
import Q38Runtime.GdnKernels

/-! The two short convolutions of `q38_gdn.cu` and `q38_ple.cu`, for one token and for a prefill
slab. A thread keeps the last inputs of one channel; the threads of a slab go through all tokens
each, and nothing makes them wait for one another. -/
namespace Q38.ConvKernels
open ScheduledTurns OwnedTurns GdnKernels

def kQ38GdnConvWidth : Nat := 4
def kQ38PleConvState : Nat := 9
def kQ38HyperWidth : Nat := 10240

/-- The last inputs of every channel, and what is written for every channel of every token. -/
structure ConvMemory (Half : Type) where
  state : Nat → Half
  output : Nat → Half

/-- The threads of the blocks of 256 that cover a width. -/
def launched (width : Nat) : List Nat := List.range ((width + 255) / 256 * 256)

variable {Half R : Type} [CommRing R] (functions : Functions Half R)

/-- A channel takes the input of a token, and writes at the place of the token. -/
def convToken (take : (Nat → Half) → (Nat → Half) × Half) (place : Nat)
    (memory : ConvMemory Half) : ConvMemory Half where
  state := (take memory.state).1
  output := Function.update memory.output place (take memory.state).2

def silu (convolved : R) : R := functions.div convolved (1 + functions.exp (-convolved))

section Gdn
variable (weight : Nat → Half)

/-- One turn of the loop that shifts the inputs of a channel. -/
def shiftCell (base : Nat) (loop : (Nat → Half) × R) (index : Nat) : (Nat → Half) × R :=
  let shifted := functions.load (loop.1 (base + index + 1))
  (Function.update loop.1 (base + index) (functions.store shifted),
    loop.2 + shifted * functions.load (weight (base + index)))

/-- The kept inputs after the newest one, and what the channel's activation is then. -/
def gdnConvolve (channel : Nat) (newest : Half) (state : Nat → Half) : (Nat → Half) × Half :=
  let base := channel * kQ38GdnConvWidth
  let last := base + kQ38GdnConvWidth - 1
  let shifted := (List.range (kQ38GdnConvWidth - 1)).foldl
    (shiftCell functions weight base) (state, 0)
  let newest := functions.load newest
  let convolved := shifted.2 + newest * functions.load (weight last)
  (Function.update shifted.1 last (functions.store newest),
    functions.store (silu functions convolved))

variable (scheduler : Scheduler) (projected : Nat → Half)

/-- `output` is where the output pointer points. -/
def gdnConvDecodeKernel (output : Nat) (memory : ConvMemory Half) : ConvMemory Half :=
  scheduler.run [] (launched kQ38GdnQkvWidth) (fun memory channel =>
    if kQ38GdnQkvWidth ≤ channel then memory
    else convToken (gdnConvolve functions weight channel (projected channel)) (output + channel)
      memory) memory

def gdnConvPrefillKernel (tokens : Nat) (memory : ConvMemory Half) : ConvMemory Half :=
  scheduler.run [] (launched kQ38GdnQkvWidth) (fun memory channel =>
    if kQ38GdnQkvWidth ≤ channel then memory
    else (List.range tokens).foldl (fun memory token =>
      let offset := token * kQ38GdnQkvWidth + channel
      convToken (gdnConvolve functions weight channel (projected offset)) offset memory) memory)
      memory

end Gdn

section Ple
variable (weight : Nat → Half)

def moveCell (base : Nat) (state : Nat → Half) (index : Nat) : Nat → Half :=
  Function.update state (base + index) (functions.store (functions.load (state (base + index + 1))))

/-- The kept inputs after the newest one, and what is written for the channel then. -/
def pleConvolve (channel : Nat) (normalized gated : Half) (state : Nat → Half) :
    (Nat → Half) × Half :=
  let stateBase := channel * kQ38PleConvState
  let weightBase := channel * 4
  let newest := functions.load normalized
  let convolved :=
    functions.load (state stateBase) * functions.load (weight weightBase) +
      functions.load (state (stateBase + 3)) * functions.load (weight (weightBase + 1)) +
      functions.load (state (stateBase + 6)) * functions.load (weight (weightBase + 2)) +
      newest * functions.load (weight (weightBase + 3))
  let moved := (List.range (kQ38PleConvState - 1)).foldl (moveCell functions stateBase) state
  (Function.update moved (stateBase + kQ38PleConvState - 1) (functions.store newest),
    functions.store (functions.load gated + silu functions convolved))

variable (scheduler : Scheduler) (gated normalized : Nat → Half)

def pleConvDecodeKernel (output : Nat) (memory : ConvMemory Half) : ConvMemory Half :=
  scheduler.run [] (launched kQ38HyperWidth) (fun memory channel =>
    if kQ38HyperWidth ≤ channel then memory
    else convToken (pleConvolve functions weight channel (normalized channel) (gated channel))
      (output + channel) memory) memory

def pleConvPrefillKernel (tokens : Nat) (memory : ConvMemory Half) : ConvMemory Half :=
  scheduler.run [] (launched kQ38HyperWidth) (fun memory channel =>
    if kQ38HyperWidth ≤ channel then memory
    else (List.range tokens).foldl (fun memory token =>
      let offset := token * kQ38HyperWidth + channel
      convToken (pleConvolve functions weight channel (normalized offset) (gated offset)) offset
        memory) memory) memory

end Ple

section Channels
variable {cells width : Nat} {places : Set Nat} {left right : Nat → Half}

theorem update_agree (same : Set.EqOn left right places) (place : Nat) {value value' : Half}
    (stored : value = value') :
    Set.EqOn (Function.update left place value) (Function.update right place value') places := by
  subst stored
  intro other listed
  by_cases here : other = place
  · rw [here, Function.update_self, Function.update_self]
  · rw [Function.update_of_ne here, Function.update_of_ne here, same listed]

theorem update_beside {memory : Nat → Half} {place : Nat} (value : Half)
    (foreign : place ∉ places) : Set.EqOn (Function.update memory place value) memory places := by
  intro other listed
  have apart : other ≠ place := fun here => foreign (here ▸ listed)
  exact Function.update_of_ne apart _ _

/-- The inputs that a channel keeps. -/
def kept (cells channel : Nat) : Set Nat := {place | place / cells = channel}

/-- What is written for a channel. -/
def written (width channel : Nat) : Set Nat := {place | place % width = channel}

def channelParts (cells width : Nat) : Parts Nat (ConvMemory Half) where
  same channel left right := Set.EqOn left.state right.state (kept cells channel) ∧
    Set.EqOn left.output right.output (written width channel)
  equivalence channel := by
    constructor
    case refl => exact fun memory => ⟨Set.eqOn_refl _ _, Set.eqOn_refl _ _⟩
    case symm => exact fun same => ⟨same.1.symm, same.2.symm⟩
    case trans => exact fun first second => ⟨first.1.trans second.1, first.2.trans second.2⟩
  separate := by
    intro left right same
    obtain ⟨state, output⟩ := left
    have states : state = right.state := funext fun place => (same (place / cells)).1 rfl
    have outputs : output = right.output := funext fun place => (same (place % width)).2 rfl
    subst states outputs
    rfl

theorem kept_cell {channel index : Nat} (inside : index < cells) :
    channel * cells + index ∈ kept cells channel := by
  change (channel * cells + index) / cells = channel
  rw [Nat.mul_comm, Nat.mul_add_div (by omega), Nat.div_eq_of_lt inside, Nat.add_zero]

theorem kept_apart {channel other place : Nat} (differs : other ≠ channel)
    (mine : place ∈ kept cells channel) : place ∉ kept cells other :=
  fun same => differs (same.symm.trans mine)

theorem written_token {channel : Nat} (inside : channel < width) (token : Nat) :
    token * width + channel ∈ written width channel := by
  change (token * width + channel) % width = channel
  rw [Nat.mul_comm, Nat.mul_add_mod, Nat.mod_eq_of_lt inside]

/-- What a channel does for a token looks at what the channel keeps, and changes what the channel
keeps and what is written for it. -/
structure OwnChannel (cells width channel : Nat)
    (step : ConvMemory Half → ConvMemory Half) : Prop where
  here : ∀ {left right : ConvMemory Half}, (channelParts cells width).same channel left right →
    (channelParts cells width).same channel (step left) (step right)
  beside : ∀ other ≠ channel, ∀ memory : ConvMemory Half,
    (channelParts cells width).same other (step memory) memory

/-- Threads that take a token each channel for themselves, or one token after the other. -/
theorem channels_interchange {step : Nat → Nat → ConvMemory Half → ConvMemory Half}
    (own : ∀ token, ∀ channel < width, OwnChannel cells width channel (step token channel))
    (scheduler : Scheduler) (schedulers : Nat → Scheduler) (tokens : Nat)
    (memory : ConvMemory Half) :
    scheduler.run [] (launched width) (fun memory channel =>
        if width ≤ channel then memory
        else (List.range tokens).foldl (fun memory token => step token channel memory) memory)
        memory =
      (List.range tokens).foldl (fun memory token =>
        (schedulers token).run [] (launched width) (fun memory channel =>
          if width ≤ channel then memory else step token channel memory) memory) memory := by
  have owned (token : Nat) (_ : token ∈ List.range tokens) :
      Owned (channelParts cells width) id (launched width) (fun memory channel =>
        if width ≤ channel then memory else step token channel memory) := by
    constructor
    case here =>
      intro channel _ left right same
      by_cases outside : width ≤ channel
      · simpa only [if_pos outside] using same
      · simp only [if_neg outside]
        exact (own token channel (Nat.lt_of_not_le outside)).here same
    case beside =>
      intro channel _ other differs memory
      by_cases outside : width ≤ channel
      · simpa only [if_pos outside] using ((channelParts cells width).equivalence other).refl memory
      · simp only [if_neg outside]
        exact (own token channel (Nat.lt_of_not_le outside)).beside other differs memory
  have distinct : ((launched width).map id).Nodup := by
    rw [List.map_id]
    exact List.nodup_range
  rw [← run_interchange schedulers (fun _ => []) distinct owned]
  congr 1
  funext memory channel
  -- a thread behind the last channel returns before the loop over the tokens
  by_cases outside : width ≤ channel
  · simp only [if_pos outside, List.foldl_fixed]
  · simp only [if_neg outside]

end Channels

section Tokens
variable {cells width channel : Nat}

theorem update_kept_apart {other : Nat} (differs : other ≠ channel) {index : Nat}
    (inside : index < cells) {before memory : Nat → Half} (value : Half)
    (same : Set.EqOn before memory (kept cells other)) :
    Set.EqOn (Function.update before (channel * cells + index) value) memory (kept cells other) :=
  (update_beside value (kept_apart differs (kept_cell inside))).trans same

theorem own_channel {take : (Nat → Half) → (Nat → Half) × Half} (inside : channel < width)
    (token : Nat) (agree : ∀ {left right : Nat → Half}, Set.EqOn left right (kept cells channel) →
      Set.EqOn (take left).1 (take right).1 (kept cells channel) ∧ (take left).2 = (take right).2)
    (apart : ∀ other ≠ channel, ∀ state, Set.EqOn (take state).1 state (kept cells other)) :
    OwnChannel cells width channel (convToken take (token * width + channel)) := by
  constructor
  case here =>
    intro left right same
    exact ⟨(agree same.1).1, update_agree same.2 _ (agree same.1).2⟩
  case beside =>
    intro other differs memory
    have foreign : token * width + channel ∉ written width other :=
      fun mine => differs (mine.symm.trans (written_token inside token))
    exact ⟨apart other differs memory.state, update_beside _ foreign⟩

variable (weight : Nat → Half)

theorem shifts_agree {left right : Nat → Half}
    (same : Set.EqOn left right (kept kQ38GdnConvWidth channel)) :
    let shift := fun state => (List.range (kQ38GdnConvWidth - 1)).foldl
      (shiftCell functions weight (channel * kQ38GdnConvWidth)) (state, (0 : R))
    Set.EqOn (shift left).1 (shift right).1 (kept kQ38GdnConvWidth channel) ∧
      (shift left).2 = (shift right).2 := by
  apply @List.foldl_rel _ _ _ _ _ _ _ _ fun left right : (Nat → Half) × R =>
    Set.EqOn left.1 right.1 (kept kQ38GdnConvWidth channel) ∧ left.2 = right.2
  · exact ⟨same, rfl⟩
  · intro index listed left right agree
    have inside : index + 1 < kQ38GdnConvWidth := by
      have early := List.mem_range.mp listed
      exact Nat.add_lt_of_lt_sub early
    have loaded := agree.1 (kept_cell inside)
    rw [← Nat.add_assoc] at loaded
    constructor
    · exact update_agree agree.1 _ (by rw [loaded])
    · simp only [shiftCell, loaded, agree.2]

theorem shifts_apart {other : Nat} (differs : other ≠ channel) (state : Nat → Half) :
    Set.EqOn ((List.range (kQ38GdnConvWidth - 1)).foldl
      (shiftCell functions weight (channel * kQ38GdnConvWidth)) (state, (0 : R))).1 state
      (kept kQ38GdnConvWidth other) := by
  apply fold_keeps fun loop : (Nat → Half) × R =>
    Set.EqOn loop.1 state (kept kQ38GdnConvWidth other)
  · intro index listed loop same
    have inside : index < kQ38GdnConvWidth :=
      Nat.lt_of_lt_of_le (List.mem_range.mp listed) (Nat.sub_le _ _)
    exact update_kept_apart differs inside _ same
  · exact Set.eqOn_refl _ _

theorem gdn_conv_token (inside : channel < kQ38GdnQkvWidth) (newest : Half) (token : Nat) :
    OwnChannel kQ38GdnConvWidth kQ38GdnQkvWidth channel
      (convToken (gdnConvolve functions weight channel newest)
        (token * kQ38GdnQkvWidth + channel)) := by
  have last : 3 < kQ38GdnConvWidth := by decide
  apply own_channel inside token
  · intro left right same
    have shifted := shifts_agree functions weight same
    exact ⟨update_agree shifted.1 _ rfl, by simp only [gdnConvolve, shifted.2]⟩
  · intro other differs before
    exact update_kept_apart differs last _ (shifts_apart functions weight differs before)

omit [CommRing R] in
theorem moves_agree {left right : Nat → Half}
    (same : Set.EqOn left right (kept kQ38PleConvState channel)) :
    let moved := fun state => (List.range (kQ38PleConvState - 1)).foldl
      (moveCell functions (channel * kQ38PleConvState)) state
    Set.EqOn (moved left) (moved right) (kept kQ38PleConvState channel) := by
  apply @List.foldl_rel _ _ _ _ _ _ _ _ fun left right : Nat → Half =>
    Set.EqOn left right (kept kQ38PleConvState channel)
  · exact same
  · intro index listed left right agree
    have inside : index + 1 < kQ38PleConvState := Nat.add_lt_of_lt_sub (List.mem_range.mp listed)
    have loaded := agree (kept_cell inside)
    rw [← Nat.add_assoc] at loaded
    exact update_agree agree _ (by rw [loaded])

omit [CommRing R] in
theorem moves_apart {other : Nat} (differs : other ≠ channel) (state : Nat → Half) :
    Set.EqOn ((List.range (kQ38PleConvState - 1)).foldl
      (moveCell functions (channel * kQ38PleConvState)) state) state
      (kept kQ38PleConvState other) := by
  apply fold_keeps fun later => Set.EqOn later state (kept kQ38PleConvState other)
  · intro index listed later same
    have inside : index < kQ38PleConvState :=
      Nat.lt_of_lt_of_le (List.mem_range.mp listed) (Nat.sub_le _ _)
    exact update_kept_apart differs inside _ same
  · exact Set.eqOn_refl _ _

theorem ple_conv_token (inside : channel < kQ38HyperWidth) (normalized gated : Half)
    (token : Nat) : OwnChannel kQ38PleConvState kQ38HyperWidth channel
      (convToken (pleConvolve functions weight channel normalized gated)
        (token * kQ38HyperWidth + channel)) := by
  have last : 8 < kQ38PleConvState := by decide
  apply own_channel inside token
  · intro left right same
    have oldest : left (channel * kQ38PleConvState) = right (channel * kQ38PleConvState) :=
      same (@kept_cell kQ38PleConvState channel 0 (by decide))
    have third := same (@kept_cell kQ38PleConvState channel 3 (by decide))
    have sixth := same (@kept_cell kQ38PleConvState channel 6 (by decide))
    exact ⟨update_agree (moves_agree functions same) _ rfl,
      by simp only [pleConvolve, oldest, third, sixth]⟩
  · intro other differs before
    exact update_kept_apart differs last _ (moves_apart functions differs before)

end Tokens

section Prefill
variable (weight : Nat → Half) (scheduler : Scheduler) (schedulers : Nat → Scheduler)
variable (tokens : Nat) (memory : ConvMemory Half)

theorem gdn_conv_prefill (projected : Nat → Half) :
    gdnConvPrefillKernel functions weight scheduler projected tokens memory =
      (List.range tokens).foldl (fun memory token =>
        gdnConvDecodeKernel functions weight (schedulers token)
          (fun channel => projected (token * kQ38GdnQkvWidth + channel))
          (token * kQ38GdnQkvWidth) memory) memory :=
  channels_interchange (fun token _ inside => gdn_conv_token functions weight inside _ token)
    scheduler schedulers tokens memory

theorem ple_conv_prefill (gated normalized : Nat → Half) :
    pleConvPrefillKernel functions weight scheduler gated normalized tokens memory =
      (List.range tokens).foldl (fun memory token =>
        pleConvDecodeKernel functions weight (schedulers token)
          (fun channel => gated (token * kQ38HyperWidth + channel))
          (fun channel => normalized (token * kQ38HyperWidth + channel))
          (token * kQ38HyperWidth) memory) memory :=
  channels_interchange (fun token _ inside => ple_conv_token functions weight inside _ _ token)
    scheduler schedulers tokens memory

end Prefill

end Q38.ConvKernels
