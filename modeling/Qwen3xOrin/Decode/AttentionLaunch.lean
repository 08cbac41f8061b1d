import Qwen3xOrin.Request.WholeCoreBuild

/-! The full-attention launchers of decode and the host checks each makes before it enqueues. A
buffer is its address; a launch is what its checks say. -/

namespace Qwen3xOrin.Decode

open Io Request

def fusedGqaMaximumSequenceLength : ℕ := 64
def decodeGqaSplitKvMaximumSequenceLength : ℕ := 4096
def minimumSequence : ℕ := 512
def maximumSequence : ℕ := 44095
def fusedWorkspaceBytes : ℕ := 24 * maximumSequence * 4
def attentionScale : ℚ := 1 / 16
def qkRopeTileMaximumTokens : ℕ := 16
def fullQueryElements : ℕ := 6144

section Views

-- The request a runner is bound to: its arena and the plan the arena was made for.
structure RequestArena where
  arena : ℕ
  plan : RequestMemoryPlan
  promptWideWorkspace : RequestRegion := {}

def RequestArena.at (state : RequestArena) (region : RequestRegion) : ℕ :=
  state.arena + region.arenaOffset

structure Views where
  projection : Fin 4 → ℕ
  keyCache : Fin requestFullLayerCount → ℕ
  valueCache : Fin requestFullLayerCount → ℕ
  fp32Scratch : ℕ
  fp32ScratchElements : ℕ

def RequestArena.views (state : RequestArena) : Views where
  projection := fun index => state.at (state.plan.projectionBf16 index)
  keyCache := fun slot => state.at (state.plan.keyCache slot)
  valueCache := fun slot => state.at (state.plan.valueCache slot)
  fp32Scratch := state.at state.plan.fp32Scratch
  fp32ScratchElements := state.plan.fp32Scratch.elementCapacity

-- The address of a bf16 element.
def element (base index : ℕ) : ℕ := base + 2 * index

end Views

section Guards

structure Span where
  start : ℕ
  bytes : ℕ

def Span.overlaps (a b : Span) : Bool :=
  decide (a.start < wrap (b.start + b.bytes)) && decide (b.start < wrap (a.start + a.bytes))

def validSpansFrom (earlier : List Span) : List Span → Bool
  | [] => true
  | a :: spans =>
    decide (a.start ≠ 0) && decide (a.start ≤ uint64Max - a.bytes) &&
      earlier.all (fun b => !a.overlaps b) && validSpansFrom (earlier ++ [a]) spans

def validSpans (spans : List Span) : Bool := validSpansFrom [] spans

def alignedSpans (spans : List Span) : Bool := spans.all fun a => decide (a.start % 16 = 0)

def multiplyOverflows (left right : ℕ) : Bool := right ≠ 0 ∧ uint64Max / right < left

def product3Overflows (first second third : ℕ) : Bool :=
  multiplyOverflows first second || multiplyOverflows (wrap (first * second)) third

def launchSoftmax (input rows columns output : ℕ) : Bool :=
  !multiplyOverflows rows columns &&
    (decide (rows = 0 ∨ columns = 0) || decide (input ≠ 0 ∧ output ≠ 0))

def launchSigmoidGate (value gate elementCount output : ℕ) : Bool :=
  decide (elementCount = 0) || decide (value ≠ 0 ∧ gate ≠ 0 ∧ output ≠ 0)

def launchGqaSigmoidGate (query key value sequence : ℕ) (scale : ℚ)
    (scratch scratchElements gate output : ℕ) : Bool :=
  sequence ≠ 0 ∧ sequence ≤ fusedGqaMaximumSequenceLength ∧ 0 ≤ scale ∧
    24 * sequence ≤ scratchElements ∧ query ≠ 0 ∧ key ≠ 0 ∧ value ≠ 0 ∧ scratch ≠ 0 ∧ gate ≠ 0 ∧
    output ≠ 0

def splitCountForSequence (sequence : ℕ) : ℕ := if sequence ≤ 512 then 4 else 8

def splitKvWorkspaceElements (sequence : ℕ) : ℕ :=
  if sequence ≤ fusedGqaMaximumSequenceLength ∨ decodeGqaSplitKvMaximumSequenceLength < sequence
  then 0 else 24 * splitCountForSequence sequence * 258

def launchGqaSplitKv (query key value sequence : ℕ) (scale : ℚ)
    (workspace workspaceElements gate output : ℕ) : Bool :=
  splitKvWorkspaceElements sequence ≠ 0 ∧ splitKvWorkspaceElements sequence ≤ workspaceElements ∧
    0 ≤ scale ∧ query ≠ 0 ∧ key ≠ 0 ∧ value ≠ 0 ∧ workspace ≠ 0 ∧ gate ≠ 0 ∧ output ≠ 0

def validAttentionDimensions (queryHeads kvHeads sequence dimension : ℕ) : Bool :=
  queryHeads ≠ 0 ∧ kvHeads ≠ 0 ∧ sequence ≠ 0 ∧ dimension ≠ 0 ∧ queryHeads % kvHeads = 0

def launchGqaReference (query key value queryHeads kvHeads sequence dimension : ℕ) (scale : ℚ)
    (scratch scratchElements output : ℕ) : Bool :=
  validAttentionDimensions queryHeads kvHeads sequence dimension ∧ 0 ≤ scale ∧
    multiplyOverflows queryHeads dimension = false ∧
    product3Overflows sequence kvHeads dimension = false ∧
    multiplyOverflows queryHeads sequence = false ∧ queryHeads * sequence ≤ scratchElements ∧
    query ≠ 0 ∧ key ≠ 0 ∧ value ≠ 0 ∧ scratch ≠ 0 ∧ output ≠ 0

def fusedSpans (query key value sequence workspace output : ℕ) : List Span :=
  [⟨query, 24 * 256 * 2⟩, ⟨key, sequence * 4 * 256 * 2⟩, ⟨value, sequence * 4 * 256 * 2⟩,
    ⟨workspace, fusedWorkspaceBytes⟩, ⟨output, 24 * 256 * 2⟩]

def launchFusedDecode (query key value sequence workspace workspaceBytes output : ℕ) : Bool :=
  minimumSequence ≤ sequence ∧ sequence ≤ maximumSequence ∧ fusedWorkspaceBytes ≤ workspaceBytes ∧
    alignedSpans (fusedSpans query key value sequence workspace output) ∧
    validSpans (fusedSpans query key value sequence workspace output) ∧
    launchSoftmax workspace 24 sequence workspace

end Guards

section Step

def fusedGqaSigmoidGatePrefixTokenCount (firstPosition tokenCount : ℕ) : ℕ :=
  if tokenCount = 0 ∨ fusedGqaMaximumSequenceLength ≤ firstPosition then 0
  else min tokenCount (fusedGqaMaximumSequenceLength - firstPosition)

def useFusedGqaSigmoidGateTile (firstPosition tokenCount : ℕ) : Bool :=
  tokenCount ≠ 0 ∧ fusedGqaSigmoidGatePrefixTokenCount firstPosition tokenCount = tokenCount

-- The compiled policy is an empty interval.
def useDecodeGqaSplitKv (sequence : ℕ) : Bool := 1 ≤ sequence ∧ sequence ≤ 0

def useQkRopeTile (firstPosition tokenCount : ℕ) : Bool :=
  tokenCount ≠ 0 ∧ tokenCount ≤ qkRopeTileMaximumTokens ∧
    firstPosition ≤ uint64Max - tokenCount ∧ firstPosition + tokenCount ≤ uint64Max / (32 * 4)

def stepAttention (views : Views) (slot : Fin requestFullLayerCount) (position : ℕ) : Bool :=
  let sequence := position + 1
  let gates := element (views.projection (3 : Fin (3 + 1))) fullQueryElements
  let query :=
    if useQkRopeTile position 1 then views.projection (3 : Fin (3 + 1))
    else views.projection (0 : Fin (3 + 1))
  let key := views.keyCache slot
  let value := views.valueCache slot
  let output := views.projection (1 : Fin (3 + 1))
  if useFusedGqaSigmoidGateTile position 1 then
    launchGqaSigmoidGate query key value sequence attentionScale views.fp32Scratch
      views.fp32ScratchElements gates output
  else if useDecodeGqaSplitKv sequence then
    launchGqaSplitKv query key value sequence attentionScale views.fp32Scratch
      views.fp32ScratchElements gates output
  else if minimumSequence ≤ sequence ∧ sequence ≤ maximumSequence then
    launchFusedDecode query key value sequence views.fp32Scratch
        (wrap (views.fp32ScratchElements * 4)) output &&
      launchSigmoidGate output gates fullQueryElements output
  else
    launchGqaReference query key value 24 4 sequence 256 attentionScale views.fp32Scratch
        views.fp32ScratchElements output &&
      launchSigmoidGate output gates fullQueryElements output

end Step

end Qwen3xOrin.Decode
