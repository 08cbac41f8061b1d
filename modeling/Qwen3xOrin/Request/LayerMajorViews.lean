import Qwen3xOrin.Generation.Types
import Qwen3xOrin.Request.LayerMajorPlan
import Qwen3xOrin.Request.Reset

/-! What a runner checks of the memory plan it is bound to: the regions a step uses, and the
identity of the shared part of a layer-major plan. -/

namespace Qwen3xOrin.Request

open Io Library
open Prefill (layerTypeForIndex)
open Generation (referenceVocabularySize ReferenceRunnerError)

section Regions

variable (region : RequestRegion)

def regionEnd : Option ℕ := checkedAdd region.arenaOffset region.byteSize

def validExactRegion (elements elementBytes arenaBytes : ℕ) : Bool :=
  match checkedMultiply elements elementBytes, regionEnd region with
  | some expectedBytes, some last =>
    decide (elementBytes ≠ 0 ∧ region.elementCapacity = elements ∧
      region.elementSizeBytes = elementBytes ∧ region.byteSize = expectedBytes ∧
      region.arenaOffset % requestArenaAlignment = 0 ∧ last ≤ arenaBytes)
  | _, _ => false

def contiguous (second : RequestRegion) : Bool :=
  decide (regionEnd region = some second.arenaOffset)

def alignedNext (second : RequestRegion) : Bool :=
  decide ((regionEnd region).bind checkedAlign = some second.arenaOffset)

def regionAtLeast (elementBytes elements : ℕ) : Bool :=
  decide (region.elementSizeBytes = elementBytes ∧ elements ≤ region.elementCapacity ∧
    elements * elementBytes ≤ region.byteSize)

end Regions

section Workspace

variable (plan : RequestMemoryPlan)

def fullKvElements : ℕ := 1024

def workspaceRegionsValid : Bool :=
  let chunk := plan.prefillChunkSize
  let sequence := plan.maxSequenceLength
  ((List.finRange requestHiddenBufferCount).all fun index =>
      regionAtLeast (plan.hiddenBf16 index) bf16Bytes (chunk * hiddenElements)) &&
    ((List.finRange requestProjectionBufferCount).all fun index =>
      regionAtLeast (plan.projectionBf16 index) bf16Bytes (chunk * projectionElements)) &&
    regionAtLeast plan.linearABf16 bf16Bytes (chunk * linearScalarElements) &&
    regionAtLeast plan.linearBBf16 bf16Bytes (chunk * linearScalarElements) &&
    regionAtLeast plan.fp32Scratch fp32Bytes referenceVocabularySize &&
    decide (plan.gqaProbabilityScratch.arenaOffset = plan.fp32Scratch.arenaOffset) &&
    regionAtLeast plan.gqaProbabilityScratch fp32Bytes (queryHeadCount * sequence) &&
    regionAtLeast plan.ropeCosFp32 fp32Bytes (ropePairs * sequence) &&
    regionAtLeast plan.ropeSinFp32 fp32Bytes (ropePairs * sequence) &&
    regionAtLeast plan.convState bf16Bytes (requestLinearLayerCount * convChannels * convHistory) &&
    regionAtLeast plan.gdnState bf16Bytes
      (requestLinearLayerCount *
        (gdnValueHeads * requestGdnHeadDimension * requestGdnHeadDimension)) &&
    (List.finRange requestFullLayerCount).all fun slot =>
      regionAtLeast (plan.keyCache slot) bf16Bytes (sequence * fullKvElements) &&
        regionAtLeast (plan.valueCache slot) bf16Bytes (sequence * fullKvElements)

-- The layers take the linear and the full slots in order.
def validateLayerSchedule : Bool :=
  (List.finRange requestLayerCount).all fun layer =>
    decide ((plan.layers layer).type = layerTypeForIndex layer ∧
      (plan.layers layer).slot =
        if layerTypeForIndex layer = .fullAttention then (layer : ℕ) / 4
        else (layer : ℕ) - layer / 4)

def validateReferenceWorkspacePlan : Option ReferenceRunnerError :=
  if plan.batchSize ≠ 1 ∨ plan.prefillChunkSize = 0 ∨
      maximumRequestPrefillChunkSize < plan.prefillChunkSize ∨ plan.maxSequenceLength = 0 ∨
      absoluteRequestMaxSequenceLength < plan.maxSequenceLength then
    some .invalidRequestState
  else if workspaceRegionsValid plan = false then some .invalidRequestState
  else if validateLayerSchedule plan = false then some .invalidLayerSchedule
  else none

end Workspace

section Identity

variable (common : RequestMemoryPlan)

-- Each cache follows the region before it; the last one is handed on.
def validateCaches (kvElements : ℕ) : Option RequestRegion :=
  (List.finRange requestFullLayerCount).foldlM (fun previous slot => do
    guard (validExactRegion (common.keyCache slot) kvElements bf16Bytes common.arenaBytes ∧
      validExactRegion (common.valueCache slot) kvElements bf16Bytes common.arenaBytes ∧
      contiguous previous (common.keyCache slot) ∧
      contiguous (common.keyCache slot) (common.valueCache slot))
    pure (common.valueCache slot)) common.gdnState

def persistentIdentity : Option Unit := do
  guard (validExactRegion common.convState (requestConvStateBytes / bf16Bytes) bf16Bytes
      common.arenaBytes ∧
    validExactRegion common.gdnState (requestGdnStateBytes / bf16Bytes) bf16Bytes
      common.arenaBytes ∧
    common.convState.arenaOffset = common.persistentOffset ∧
    contiguous common.convState common.gdnState)
  let kvElements ← checkedMultiply common.maxSequenceLength fullKvElements
  let last ← validateCaches common kvElements
  let persistentEnd ← regionEnd last
  -- The persistent area starts at zero here, so that the sum does not wrap.
  guard (persistentEnd = common.persistentOffset + common.persistentBytes)

def wholeCoreRopeIdentity (elements : ℕ) : Option Unit := do
  let sineOffset ← checkedAdd common.ropeCosFp32.arenaOffset common.ropeCosFp32.byteSize
  let halfBytes ← checkedMultiply elements fp32Bytes
  let ropeBytes ← checkedMultiply halfBytes 2
  guard (common.ropeSinFp32.elementCapacity = elements ∧
    common.ropeSinFp32.elementSizeBytes = fp32Bytes ∧
    common.ropeSinFp32.byteSize = common.ropeCosFp32.byteSize ∧
    common.ropeSinFp32.arenaOffset = sineOffset ∧ common.ropeBytes = ropeBytes)
  let sineEnd ← regionEnd common.ropeSinFp32
  guard (sineEnd = common.arenaBytes)

def overlayRopeIdentity (elements : ℕ) : Option Unit := do
  guard (validExactRegion common.ropeSinFp32 elements fp32Bytes common.arenaBytes ∧
    alignedNext common.ropeCosFp32 common.ropeSinFp32)
  let sineEnd ← regionEnd common.ropeSinFp32
  let aligned ← checkedAlign sineEnd
  guard (aligned = common.arenaBytes)

def ropeIdentity (wholeCoreP40 : Bool) : Option Unit := do
  let elements ← checkedMultiply common.maxSequenceLength ropePairs
  guard (validExactRegion common.ropeCosFp32 elements fp32Bytes common.arenaBytes ∧
    common.ropeCosFp32.arenaOffset = common.ropeOffset)
  if wholeCoreP40 then wholeCoreRopeIdentity common elements
  else overlayRopeIdentity common elements

def expectedProfile : LayerMajorRequestLayout → RequestMemoryProfile
  | .p40WholeCorePromptWide => .layerMajorP40WholeCore
  | .c8192FamilyOverlay => .layerMajorC8192

def validateCommonIdentity (plan : LayerMajorRequestMemoryPlan) : Bool :=
  let common := plan.common
  decide (common.profile = expectedProfile plan.layout ∧ common.batchSize = 1 ∧
    common.prefillChunkSize = maximumRequestPrefillChunkSize ∧ common.maxSequenceLength ≠ 0 ∧
    common.maxSequenceLength ≤ absoluteRequestMaxSequenceLength ∧ common.arenaBytes ≠ 0 ∧
    common.persistentOffset = 0 ∧ common.workspaceOffset = common.persistentBytes ∧
    common.ropeOffset = wrap (common.workspaceOffset + common.workspaceBytes) ∧
    common.arenaBytes = wrap (common.ropeOffset + common.ropeBytes)) &&
  (decide (plan.layout ≠ .c8192FamilyOverlay) ||
    (validateReferenceWorkspacePlan common).isNone) &&
  (persistentIdentity common).isSome &&
  (ropeIdentity common (decide (plan.layout = .p40WholeCorePromptWide))).isSome

end Identity

section Limits

variable {common : RequestMemoryPlan}

lemma validExactRegion_end {region : RequestRegion} {elements elementBytes arenaBytes : ℕ}
    (h : validExactRegion region elements elementBytes arenaBytes = true)
    (hpos : 0 < elements) :
    ∃ last, regionEnd region = some last ∧ 0 < last ∧ last ≤ arenaBytes ∧ last ≤ uint64Max := by
  unfold validExactRegion at h
  split at h
  case h_1 expectedBytes last hbytes hlast =>
    rw [decide_eq_true_eq] at h
    obtain ⟨hsize, -, -, hbyte, -, hle⟩ := h
    have hexpected := (checkedMultiply_eq_some.mp hbytes).1
    have hbyte' : 0 < region.byteSize := by
      rw [hbyte, hexpected]
      exact Nat.mul_pos hpos (Nat.pos_of_ne_zero hsize)
    refine ⟨last, hlast, ?_⟩
    unfold regionEnd checkedAdd at hlast
    split_ifs at hlast with hfits
    obtain rfl := Option.some.inj hlast
    omega
  case h_2 => cases h

lemma validateCaches_last {kvElements : ℕ} {last : RequestRegion}
    (h : validateCaches common kvElements = some last) :
    validExactRegion last kvElements bf16Bytes common.arenaBytes = true := by
  obtain ⟨previous, slot, hstep⟩ := foldlM_some_last h (by decide)
  obtain ⟨_, hguard, hlast⟩ := Option.bind_eq_some_iff.mp hstep
  obtain rfl := Option.some.inj hlast
  exact (guard_some.mp hguard).2.1

-- A plan a runner accepted has a persistent area that a reset can clear.
lemma validateCommonIdentity_limit {plan : LayerMajorRequestMemoryPlan}
    (h : validateCommonIdentity plan = true) :
    plan.common.profile ≠ .legacyC512 ∧ persistentLimit plan.common ≠ none := by
  simp only [validateCommonIdentity, Bool.and_eq_true, decide_eq_true_eq] at h
  obtain ⟨⟨⟨⟨hprofile, -, -, hseq, -, -, hoffset, -⟩, -⟩, hpersistent⟩, -⟩ := h
  refine ⟨?_, ?_⟩
  · rw [hprofile]
    cases plan.layout <;> decide
  · obtain ⟨⟨⟩, hpersistent⟩ := Option.isSome_iff_exists.mp hpersistent
    unfold persistentIdentity at hpersistent
    obtain ⟨_, -, hpersistent⟩ := Option.bind_eq_some_iff.mp hpersistent
    obtain ⟨kvElements, hkv, hpersistent⟩ := Option.bind_eq_some_iff.mp hpersistent
    obtain ⟨last, hcaches, hpersistent⟩ := Option.bind_eq_some_iff.mp hpersistent
    obtain ⟨persistentEnd, hend, hguard⟩ := Option.bind_eq_some_iff.mp hpersistent
    have hbytes := guard_some.mp hguard
    have hkvPos : 0 < kvElements := by
      rw [(checkedMultiply_eq_some.mp hkv).1]
      exact Nat.mul_pos (Nat.pos_of_ne_zero hseq) (by decide)
    obtain ⟨reached, hreached, hpos, hle, hmax⟩ :=
      validExactRegion_end (validateCaches_last hcaches) hkvPos
    rw [hend] at hreached
    obtain rfl := Option.some.inj hreached
    rw [hoffset, Nat.zero_add] at hbytes
    subst hbytes
    unfold persistentLimit
    rw [hoffset, guard_bind ⟨hseq, hpos.ne'⟩,
      (checkedAdd_eq_some (Nat.zero_le _)).mpr ⟨rfl, by omega⟩, some_bind,
      guard_bind (by omega)]
    exact Option.some_ne_none _

end Limits

end Qwen3xOrin.Request
