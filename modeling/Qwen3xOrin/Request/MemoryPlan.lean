import Qwen3xOrin.Request.Region

/-! The memory plan of a request: its persistent state, its workspace and its RoPE tables in one
arena, and the views a request state gives into them. -/

namespace Qwen3xOrin.Request

open Io Library
open Prefill (LayerType)

inductive RequestMemoryProfile
  | legacyC512
  | layerMajorC8192
  | layerMajorP40WholeCore
  deriving DecidableEq, Repr

inductive RequestAccessError
  | layerOutOfRange
  | layerTypeMismatch
  | slotOutOfRange
  | positionOutOfRange
  | capacityExceeded
  | invalidBufferIndex
  | emptyState
  | memoryProfileMismatch
  | sequenceLengthMismatch
  | sequenceLengthRegression
  | invalidResetPlan
  deriving DecidableEq, Repr

structure RequestMemoryOptions where
  batchSize : ℕ := 1
  prefillChunkSize : ℕ := 1
  maxSequenceLength : ℕ := 128
  maxArenaBytes : ℕ := 2 * 1024 * 1024 * 1024
  deriving DecidableEq, Repr

structure RequestMemoryPlan where
  batchSize : ℕ := 1
  prefillChunkSize : ℕ := 1
  maxSequenceLength : ℕ := 0
  arenaBytes : ℕ := 0
  persistentOffset : ℕ := 0
  persistentBytes : ℕ := 0
  workspaceOffset : ℕ := 0
  workspaceBytes : ℕ := 0
  ropeOffset : ℕ := 0
  ropeBytes : ℕ := 0
  convState : RequestRegion := {}
  gdnState : RequestRegion := {}
  keyCache : Fin requestFullLayerCount → RequestRegion := fun _ => {}
  valueCache : Fin requestFullLayerCount → RequestRegion := fun _ => {}
  hiddenBf16 : Fin requestHiddenBufferCount → RequestRegion := fun _ => {}
  projectionBf16 : Fin requestProjectionBufferCount → RequestRegion := fun _ => {}
  linearABf16 : RequestRegion := {}
  linearBBf16 : RequestRegion := {}
  fp32Scratch : RequestRegion := {}
  gqaProbabilityScratch : RequestRegion := {}
  ropeCosFp32 : RequestRegion := {}
  ropeSinFp32 : RequestRegion := {}
  layers : Fin requestLayerCount → RequestLayerSlot := fun _ => {}
  profile : RequestMemoryProfile := .legacyC512

def mapRequestLayer (layerIndex : ℕ) (requiredType : LayerType) :
    Except RequestAccessError RequestLayerSlot :=
  if requestLayerCount ≤ layerIndex then .error .layerOutOfRange
  else if requiredType ≠ .linearAttention ∧ requiredType ≠ .fullAttention then
    .error .layerTypeMismatch
  else
    let slot : RequestLayerSlot :=
      if (layerIndex + 1) % 4 = 0 then
        { type := .fullAttention, slot := layerIndex / 4 }
      else { type := .linearAttention, slot := layerIndex - layerIndex / 4 }
    if slot.type ≠ requiredType then .error .layerTypeMismatch
    else if (slot.type = .linearAttention ∧ requestLinearLayerCount ≤ slot.slot) ∨
        (slot.type = .fullAttention ∧ requestFullLayerCount ≤ slot.slot) then
      .error .slotOutOfRange
    else .ok slot

section Build

structure RequestDimensions where
  convElements : ℕ
  gdnElements : ℕ
  kvElements : ℕ
  probabilityElements : ℕ
  ropeElements : ℕ
  hiddenElements : ℕ
  projectionElements : ℕ
  linearScalarElements : ℕ

def requestDimensions (options : RequestMemoryOptions) : Option RequestDimensions := do
  let convElements ← checkedMultiply requestLinearLayerCount convChannels
  let convElements ← checkedMultiply convElements convHistory
  let gdnElements ← checkedMultiply requestLinearLayerCount gdnValueHeads
  let gdnElements ← checkedMultiply gdnElements requestGdnHeadDimension
  let gdnElements ← checkedMultiply gdnElements requestGdnHeadDimension
  let kvElements ← checkedMultiply options.maxSequenceLength kvHeadCount
  let kvElements ← checkedMultiply kvElements headDimension
  let probabilityElements ← checkedMultiply options.maxSequenceLength queryHeadCount
  let ropeElements ← checkedMultiply options.maxSequenceLength ropePairs
  let hidden ← checkedMultiply hiddenElements options.prefillChunkSize
  let projection ← checkedMultiply projectionElements options.prefillChunkSize
  let linearScalar ← checkedMultiply linearScalarElements options.prefillChunkSize
  pure
    { convElements := convElements
      gdnElements := gdnElements
      kvElements := kvElements
      probabilityElements := probabilityElements
      ropeElements := ropeElements
      hiddenElements := hidden
      projectionElements := projection
      linearScalarElements := linearScalar }

def orFail {α : Type} (code : RequestErrorCode) (message context : String) :
    Option α → Except RequestDiagnostic α
  | none => .error { code := code, message := message, context := context }
  | some a => .ok a

def scheduledType (layer : ℕ) : LayerType :=
  if (layer + 1) % 4 = 0 then .fullAttention else .linearAttention

def requestLayers : Except RequestDiagnostic (List RequestLayerSlot) :=
  (List.range requestLayerCount).mapM fun layer =>
    match mapRequestLayer layer (scheduledType layer) with
    | .ok slot => .ok slot
    | .error _ =>
      .error
        { code := .invalidLayerSchedule
          message := "fixed layer schedule could not be mapped"
          context := toString layer }

open PlanBuilder in
def buildPersistent (dimensions : RequestDimensions) (plan : RequestMemoryPlan) :
    Except RequestDiagnostic (RequestMemoryPlan × ℕ) := do
  let (state, cursor) ← orFail .arithmeticOverflow "persistent state layout overflows uint64"
    "persistent" do
      let (convState, cursor) ← add dimensions.convElements bf16Bytes 0
      let (gdnState, cursor) ← add dimensions.gdnElements bf16Bytes cursor
      pure ((convState, gdnState), cursor)
  let (caches, cursor) ← orFail .arithmeticOverflow "KV cache layout overflows uint64" "kv_cache"
    (addCaches dimensions.kvElements bf16Bytes requestFullLayerCount cursor)
  let cursor ← orFail .arithmeticOverflow "persistent state alignment overflows uint64"
    "persistent" (align cursor)
  pure
    ({ plan with
        persistentOffset := 0
        persistentBytes := cursor - 0
        convState := state.1
        gdnState := state.2
        keyCache := fun slot => (caches.getD slot ({}, {})).1
        valueCache := fun slot => (caches.getD slot ({}, {})).2 }, cursor)

open PlanBuilder in
def buildWorkspace (dimensions : RequestDimensions) (plan : RequestMemoryPlan) (start : ℕ) :
    Except RequestDiagnostic (RequestMemoryPlan × ℕ) := do
  let (hidden, cursor) ← orFail .arithmeticOverflow "hidden workspace layout overflows uint64"
    "hidden_bf16" (addEach dimensions.hiddenElements bf16Bytes requestHiddenBufferCount start)
  let (projection, cursor) ← orFail .arithmeticOverflow
    "projection workspace layout overflows uint64" "projection_bf16"
    (addEach dimensions.projectionElements bf16Bytes requestProjectionBufferCount cursor)
  let (linear, cursor) ← orFail .arithmeticOverflow
    "linear scalar workspace layout overflows uint64" "linear_a_b" do
      let (linearA, cursor) ← add dimensions.linearScalarElements bf16Bytes cursor
      let (linearB, cursor) ← add dimensions.linearScalarElements bf16Bytes cursor
      pure ((linearA, linearB), cursor)
  let fp32Capacity := max fp32MinimumElements dimensions.probabilityElements
  let (fp32Scratch, cursor) ← orFail .arithmeticOverflow "FP32 scratch layout overflows uint64"
    "fp32_scratch" (add fp32Capacity fp32Bytes cursor)
  let cursor ← orFail .arithmeticOverflow "workspace alignment overflows uint64" "workspace"
    (align cursor)
  pure
    ({ plan with
        workspaceOffset := start
        workspaceBytes := cursor - start
        hiddenBf16 := fun index => hidden.getD index {}
        projectionBf16 := fun index => projection.getD index {}
        linearABf16 := linear.1
        linearBBf16 := linear.2
        fp32Scratch := fp32Scratch
        gqaProbabilityScratch := { fp32Scratch with
          byteSize := wrap (dimensions.probabilityElements * fp32Bytes)
          elementCapacity := dimensions.probabilityElements } }, cursor)

open PlanBuilder in
def buildRope (dimensions : RequestDimensions) (plan : RequestMemoryPlan) (start : ℕ) :
    Except RequestDiagnostic RequestMemoryPlan := do
  let (rope, cursor) ← orFail .arithmeticOverflow "RoPE cache layout overflows uint64" "rope" do
    let (cos, cursor) ← add dimensions.ropeElements fp32Bytes start
    let (sin, cursor) ← add dimensions.ropeElements fp32Bytes cursor
    let cursor ← align cursor
    pure ((cos, sin), cursor)
  pure
    { plan with
      ropeOffset := start
      ropeBytes := cursor - start
      arenaBytes := cursor
      ropeCosFp32 := rope.1
      ropeSinFp32 := rope.2 }

def buildRequestMemoryPlan (options : RequestMemoryOptions) :
    Except RequestDiagnostic RequestMemoryPlan :=
  if options.batchSize ≠ 1 ∨ options.maxSequenceLength = 0 ∨ options.prefillChunkSize = 0 ∨
      maximumRequestPrefillChunkSize < options.prefillChunkSize ∨ options.maxArenaBytes = 0 ∨
      maximumConfigurableArenaBytes < options.maxArenaBytes then
    .error
      { code := .invalidOption
        message := "request memory options violate batch, prefill chunk, sequence, or arena limits"
        context := "options" }
  else do
    let dimensions ← orFail .arithmeticOverflow
      "request dimensions overflow uint64 during plan construction" "max_sequence_length"
      (requestDimensions options)
    if absoluteRequestMaxSequenceLength < options.maxSequenceLength then
      .error
        { code := .invalidOption
          message := "max_sequence_length exceeds the Qwen3.6-27B absolute limit"
          context := "max_sequence_length"
          expected := toString absoluteRequestMaxSequenceLength
          actual := toString options.maxSequenceLength }
    else do
      let plan : RequestMemoryPlan :=
        { batchSize := options.batchSize
          prefillChunkSize := options.prefillChunkSize
          maxSequenceLength := options.maxSequenceLength }
      let (plan, cursor) ← buildPersistent dimensions plan
      let (plan, cursor) ← buildWorkspace dimensions plan cursor
      let plan ← buildRope dimensions plan cursor
      let layers ← requestLayers
      let fullSlots := layers.countP (·.type = .fullAttention)
      let linearSlots := layers.length - fullSlots
      let plan := { plan with layers := fun layer => layers.getD layer {} }
      if linearSlots ≠ requestLinearLayerCount ∨ fullSlots ≠ requestFullLayerCount ∨
          plan.convState.byteSize ≠ requestConvStateBytes ∨
          plan.gdnState.byteSize ≠ requestGdnStateBytes then
        .error
          { code := .invalidLayerSchedule
            message := "fixed layer schedule or persistent ABI totals are inconsistent"
            context := "schedule" }
      else if options.maxArenaBytes < plan.arenaBytes then
        .error
          { code := .arenaLimitExceeded
            message := "request arena exceeds configured max_arena_bytes"
            context := "max_arena_bytes"
            expected := toString options.maxArenaBytes
            actual := toString plan.arenaBytes }
      else .ok plan

end Build

section Views

def subregion (aggregate : RequestRegion) (relativeOffset elements elementSize : ℕ) :
    RequestRegion where
  arenaOffset := wrap (aggregate.arenaOffset + relativeOffset)
  byteSize := wrap (elements * elementSize)
  elementCapacity := elements
  elementSizeBytes := elementSize

variable (plan : RequestMemoryPlan)

-- The views of a state that holds an arena, by the region they cover.
def convState (layerIndex : ℕ) : Except RequestAccessError RequestRegion := do
  let mapped ← mapRequestLayer layerIndex .linearAttention
  let elementsPerLayer := convChannels * convHistory
  pure (subregion plan.convState (wrap (wrap (mapped.slot * elementsPerLayer) * bf16Bytes))
    elementsPerLayer bf16Bytes)

def gdnState (layerIndex : ℕ) : Except RequestAccessError RequestRegion := do
  let mapped ← mapRequestLayer layerIndex .linearAttention
  let elementsPerLayer := gdnValueHeads * requestGdnHeadDimension * requestGdnHeadDimension
  pure (subregion plan.gdnState (wrap (wrap (mapped.slot * elementsPerLayer) * bf16Bytes))
    elementsPerLayer bf16Bytes)

def cacheOf (caches : Fin requestFullLayerCount → RequestRegion) (layerIndex : ℕ) :
    Except RequestAccessError RequestRegion := do
  let mapped ← mapRequestLayer layerIndex .fullAttention
  if h : mapped.slot < requestFullLayerCount then pure (caches ⟨mapped.slot, h⟩)
  else .error .slotOutOfRange

def keyCache (layerIndex : ℕ) : Except RequestAccessError RequestRegion :=
  cacheOf plan.keyCache layerIndex

def valueCache (layerIndex : ℕ) : Except RequestAccessError RequestRegion :=
  cacheOf plan.valueCache layerIndex

def cachePosition (cache : RequestRegion) (position : ℕ) :
    Except RequestAccessError RequestRegion :=
  if plan.maxSequenceLength ≤ position then .error .positionOutOfRange
  else
    let elementsPerPosition := kvHeadCount * headDimension
    .ok
      { arenaOffset :=
          wrap (cache.arenaOffset + wrap (wrap (position * elementsPerPosition) * bf16Bytes))
        byteSize := wrap (elementsPerPosition * bf16Bytes)
        elementCapacity := elementsPerPosition
        elementSizeBytes := bf16Bytes }

def keyPosition (layerIndex position : ℕ) : Except RequestAccessError RequestRegion := do
  let cache ← keyCache plan layerIndex
  cachePosition plan cache position

def valuePosition (layerIndex position : ℕ) : Except RequestAccessError RequestRegion := do
  let cache ← valueCache plan layerIndex
  cachePosition plan cache position

def ropeRow (table : RequestRegion) (position : ℕ) : Except RequestAccessError RequestRegion :=
  if plan.maxSequenceLength ≤ position then .error .positionOutOfRange
  else .ok (subregion table (wrap (wrap (position * ropePairs) * fp32Bytes)) ropePairs fp32Bytes)

def ropeCos (position : ℕ) : Except RequestAccessError RequestRegion :=
  ropeRow plan plan.ropeCosFp32 position

def ropeSin (position : ℕ) : Except RequestAccessError RequestRegion :=
  ropeRow plan plan.ropeSinFp32 position

end Views

end Qwen3xOrin.Request
