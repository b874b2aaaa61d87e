import Q38Runtime.ConvKernels
import Q38Runtime.GdnRegisters

/-! A prefill slab against repeated decode: the two convolutions and the three variants of the
recurrence leave the state and the outputs of one decode launch a token, each launch with its
pointers moved on. -/
namespace Q38.RecurrentPrefill
open ScheduledTurns GdnKernels ConvKernels

variable {Half R : Type} [CommRing R] (functions : Functions Half R)

section Decoding
variable (weight : Nat → Half)

def gdnConvDecoded (schedulers : Nat → Scheduler) (projected : Nat → Half) (tokens : Nat)
    (memory : ConvMemory Half) : ConvMemory Half :=
  (List.range tokens).foldl (fun memory token =>
    gdnConvDecodeKernel functions weight (schedulers token)
      (fun channel => projected (token * kQ38GdnQkvWidth + channel)) (token * kQ38GdnQkvWidth)
      memory) memory

def pleConvDecoded (schedulers : Nat → Scheduler) (gated normalized : Nat → Half) (tokens : Nat)
    (memory : ConvMemory Half) : ConvMemory Half :=
  (List.range tokens).foldl (fun memory token =>
    pleConvDecodeKernel functions weight (schedulers token)
      (fun channel => gated (token * kQ38HyperWidth + channel))
      (fun channel => normalized (token * kQ38HyperWidth + channel)) (token * kQ38HyperWidth)
      memory) memory

def recurrentDecoded (devices : Nat → Device R) (inputs : Inputs Half) (tokens : Nat)
    (memory : Memory Half R) : Memory Half R :=
  (List.range tokens).foldl (fun memory token =>
    gdnRecurrentDecodeKernel functions (devices token) (inputs.at token)
      (token * kQ38GdnValueWidth) memory) memory

end Decoding

section Recurrent
variable (devices : Nat → Device R) (device : Device R) (inputs : Inputs Half) (tokens : Nat)
variable (memory : Memory Half R)

theorem recurrent_decoded : recurrentDecoded functions devices inputs tokens memory =
    (List.range tokens).foldl (fun memory token => tokenStep functions inputs token memory)
      memory := by
  unfold recurrentDecoded
  congr 1
  funext memory token
  exact decode_step functions (devices token) inputs token memory

theorem serial_decoded : gdnRecurrentPrefillKernel functions device inputs tokens memory =
    recurrentDecoded functions devices inputs tokens memory := by
  rw [serial_prefill, recurrent_decoded]

theorem partitioned_decoded :
    gdnRecurrentPrefillPartitionedKernel functions device inputs tokens memory =
      recurrentDecoded functions devices inputs tokens memory := by
  rw [partitioned_prefill, recurrent_decoded]

/-- The parameters are prepared by a launch of their own, over anything. -/
theorem precomputed_decoded (preparing : Device R) (found : Prepared R) :
    gdnRecurrentPrefillPrecomputedKernel functions device inputs
        (gdnPreparePrefillParametersKernel functions preparing inputs tokens found) tokens memory =
      recurrentDecoded functions devices inputs tokens memory := by
  rw [precomputed_prefill, recurrent_decoded]
  intro token early valueHead listed
  exact prepared_ready preparing inputs early listed found

end Recurrent

/-- Every slab, from every state and with the turns of every launch in any order. -/
theorem prefill_decodes (tokens : Nat) :
    (∀ (weight projected : Nat → Half) (scheduler : Scheduler) (schedulers : Nat → Scheduler)
      (memory : ConvMemory Half),
      gdnConvPrefillKernel functions weight scheduler projected tokens memory =
        gdnConvDecoded functions weight schedulers projected tokens memory) ∧
    (∀ (weight gated normalized : Nat → Half) (scheduler : Scheduler)
      (schedulers : Nat → Scheduler) (memory : ConvMemory Half),
      pleConvPrefillKernel functions weight scheduler gated normalized tokens memory =
        pleConvDecoded functions weight schedulers gated normalized tokens memory) ∧
    ∀ (inputs : Inputs Half) (device : Device R) (devices : Nat → Device R)
      (memory : Memory Half R),
      gdnRecurrentPrefillKernel functions device inputs tokens memory =
        recurrentDecoded functions devices inputs tokens memory ∧
      gdnRecurrentPrefillPartitionedKernel functions device inputs tokens memory =
        recurrentDecoded functions devices inputs tokens memory ∧
      ∀ (preparing : Device R) (found : Prepared R),
        gdnRecurrentPrefillPrecomputedKernel functions device inputs
            (gdnPreparePrefillParametersKernel functions preparing inputs tokens found) tokens
            memory =
          recurrentDecoded functions devices inputs tokens memory := by
  refine ⟨?_, ?_, ?_⟩
  · intro weight projected scheduler schedulers memory
    exact gdn_conv_prefill functions weight scheduler schedulers tokens memory projected
  · intro weight gated normalized scheduler schedulers memory
    exact ple_conv_prefill functions weight scheduler schedulers tokens memory gated normalized
  · intro inputs device devices memory
    refine ⟨?_, ?_, ?_⟩
    · exact serial_decoded functions devices device inputs tokens memory
    · exact partitioned_decoded functions devices device inputs tokens memory
    · exact precomputed_decoded functions devices device inputs tokens memory

end Q38.RecurrentPrefill
