import Qwen3xOrin.Request.PlanShape
import Qwen3xOrin.Request.WorkspaceValidity

/-! The workspace plan in closed form for the strategy the request planner uses, and that it passes
its own check at every sequence capacity. -/

namespace Qwen3xOrin.Request

open Io Library
open Prefill (BuildConfig operatorPanelTokens legacyPublicTileTokens maximumSequenceTokens)

section Requirements

variable {elements size bytes : ℕ} {lifetime : PrefillMemoryLifetime}
  {aliasCondition : PrefillMemoryAliasCondition}

def typedShape (elements size : ℕ) (lifetime : PrefillMemoryLifetime)
    (aliasCondition : PrefillMemoryAliasCondition) : PrefillMemoryRequirement where
  lifetime := lifetime
  aliasCondition := aliasCondition
  requiredBytes := alignUp (elements * size)
  elementCapacity := elements
  elementSizeBytes := size

lemma le_alignUp (value : ℕ) : value ≤ alignUp value := by
  rw [alignUp_eq]
  omega

lemma makeTyped_ok (hbytes : 0 < elements * size) (hfits : elements * size + 255 ≤ uint64Max) :
    makeTypedRequirement elements size lifetime aliasCondition =
      some (typedShape elements size lifetime aliasCondition) := by
  have hpos : elements ≠ 0 ∧ size ≠ 0 := by
    rw [← Nat.mul_ne_zero_iff]
    omega
  have halign : checkedAlign (elements * size) = some (alignUp (elements * size)) :=
    if_neg (by simp only [requestArenaAlignment]; omega)
  rw [makeTypedRequirement, checkedMultiply_ok (by omega)]
  simp [halign, hpos, guard, typedShape]

lemma makeRaw_ok (hbytes : 0 < bytes) (hfits : bytes + 255 ≤ uint64Max) :
    makeRawRequirement bytes lifetime aliasCondition =
      some (typedShape bytes 1 lifetime aliasCondition) :=
  makeTyped_ok (by omega) (by omega)

lemma typedShape_valid (hbytes : 0 < elements * size)
    (hfits : elements * size + 255 ≤ uint64Max) :
    validRequirement (typedShape elements size lifetime aliasCondition) lifetime = true := by
  have hpos : elements ≠ 0 ∧ size ≠ 0 := by
    rw [← Nat.mul_ne_zero_iff]
    omega
  have hle := le_alignUp (elements * size)
  have hdvd := alignUp_dvd (elements * size)
  rw [validRequirement, decide_eq_true_eq]
  refine ⟨rfl, rfl, ?_, ?_, hpos.1, hpos.2, ?_, rfl, rfl⟩
  · exact (Nat.lt_of_lt_of_le hbytes hle).ne'
  · exact Nat.mod_eq_zero_of_dvd hdvd
  · change (checkedMultiply elements size).any _ = true
    rw [checkedMultiply_ok (by omega), Option.any_some, decide_eq_true_eq]
    exact hle

lemma typedShape_raw (hbytes : 0 < bytes) (hdvd : 256 ∣ bytes) (hfits : bytes + 255 ≤ uint64Max) :
    validRawRequirementExact (typedShape bytes 1 lifetime aliasCondition) lifetime aliasCondition
      bytes = true := by
  rw [validRawRequirementExact, decide_eq_true_eq]
  refine ⟨typedShape_valid (by omega) (by omega), rfl, ?_, rfl, rfl⟩
  rw [typedShape, Nat.mul_one, alignUp_of_dvd hdvd]

lemma checkedAdd_ok {left right : ℕ} (h : left + right ≤ uint64Max) :
    checkedAdd left right = some (left + right) :=
  (checkedAdd_eq_some (by omega)).mpr ⟨rfl, h⟩

lemma checkedSum_ok {values : List ℕ} (h : values.sum ≤ uint64Max) :
    checkedSum values = some values.sum := by
  have hgeneral (start : ℕ) (hfits : start + values.sum ≤ uint64Max) :
      values.foldlM checkedAdd start = some (start + values.sum) := by
    induction values generalizing start with
    | nil => rfl
    | cons value values ih =>
      rw [List.sum_cons] at h hfits ⊢
      rw [List.foldlM_cons, checkedAdd_ok (by omega)]
      exact (ih (by omega) (start + value) (by omega)).trans (by rw [Nat.add_assoc])
  rw [checkedSum, hgeneral 0 (by omega), Nat.zero_add]

lemma checkedSum_three {a b c : ℕ} (h : a + b + c ≤ uint64Max) :
    checkedSum [a, b, c] = some (a + b + c) := by
  rw [checkedSum_ok (by simpa [Nat.add_assoc] using h)]
  simp [Nat.add_assoc]

end Requirements

section Shapes

variable (seq : ℕ)

def familyPhaseArenaBytes : ℕ := 855638016

def layerMajorTotal : ℕ :=
  persistentTotal seq + 10240 * seq + familyPhaseArenaBytes + workspaceTotal 512 seq + 10240 +
    ropeTotal seq

def tacticBytes : PrefillTacticByteRequirements where
  gdnProjectionPhase := 353894400
  gdnRecurrentPhase := 446365696
  gdnNativeWorkspace := 75694080
  attentionPreprocessPhase := 402653184
  mlpGateUpDownPhase := familyPhaseArenaBytes
  projectionReductionAndLocks := 1048832

lemma checkedTacticBytes_ok (cfg : BuildConfig) :
    checkedTacticByteRequirements cfg layerMajorModel seq .c64NativeInPlaceConv .c16Composite
      .separateGateUpAndSilu = some tacticBytes := by
  have hpanel : operatorPanelTokens = 8192 := rfl
  have htile : legacyPublicTileTokens = 512 := rfl
  have hwide : isLayerWideP40MlpTactic .separateGateUpAndSilu = false := rfl
  have hvalid : validGdnTactic .c64NativeInPlaceConv ∧ validLegacyGdnTactic .c16Composite ∧
      validMlpTactic .separateGateUpAndSilu ∧
      enabledMlpTactic cfg .separateGateUpAndSilu := by
    simp [validGdnTactic, validLegacyGdnTactic, validMlpTactic, enabledMlpTactic, hwide]
  unfold checkedTacticByteRequirements checkedBf16Bytes
  simp [hvalid, hwide, guard, hpanel, htile, bf16Bytes, checkedMultiply, checkedAdd, checkedAlign,
    alignUp, uint64Max, requestArenaAlignment, gdnC64NativeWorkspaceBytes,
    maximumProjectionReductionBytes, maximumProjectionLockBytes, sm87NvFp4MarlinReductionBytes,
    sm87Fp8MarlinReductionBytes, sm87NvFp4MarlinLockBytes, sm87Fp8MarlinLockBytes, tacticBytes,
    familyPhaseArenaBytes]

def elementShape : ElementCounts where
  conv := 1474560
  gdn := 37748736
  key := 16 * seq * 1024
  value := 16 * seq * 1024
  rope := seq * 32
  promptHidden := seq * 5120

variable {seq}

lemma elementCounts_ok (hseq : seq ≤ 262144) :
    elementCounts layerMajorModel seq = some (elementShape seq) := by
  have hmax := uint64Max_eq
  unfold elementCounts
  simp only [layerMajorModel_linearLayers, layerMajorModel_qkvWidth,
    layerMajorModel_linearConvKernelDim, layerMajorModel_stateElements,
    layerMajorModel_fullLayers, layerMajorModel_kvDim, layerMajorModel_rotaryDim,
    layerMajorModel_hiddenSize]
  simp (disch := omega) only [checkedMultiply_ok, Option.bind_eq_bind, Option.bind_some,
    Option.pure_def]
  rfl

end Shapes

section Stages

variable (seq : ℕ)

def persistentShape : PrefillPersistentStateMemoryPlan where
  convolutionState := typedShape 1474560 2 .requestThroughDecode .disjoint
  gdnRecurrentState := typedShape 37748736 2 .requestThroughDecode .disjoint
  fullAttentionKeyCache := typedShape (16 * seq * 1024) 2 .requestThroughDecode .disjoint
  fullAttentionValueCache := typedShape (16 * seq * 1024) 2 .requestThroughDecode .disjoint
  totalRequiredBytes := persistentTotal seq

def positionShape : PrefillPositionMemoryPlan where
  ropeCosFp32 := typedShape (seq * 32) 4 .requestThroughDecode .disjoint
  ropeSinFp32 := typedShape (seq * 32) 4 .requestThroughDecode .disjoint
  totalRequiredBytes := ropeTotal seq

def minimumHiddenShape : PrefillPromptWideHiddenVariant where
  strategy := .singlePromptWideConditional
  aggregateBf16 := typedShape (seq * 5120) 2 .requestPrefill
    .panelwiseInputConsumedBeforeOutputOverwrite
  bufferCount := 1
  hiddenWidth := 5120
  sequenceCapacityTokens := seq
  requiresPanelwiseInPlaceContract := true

def conservativeHiddenShape : PrefillPromptWideHiddenVariant where
  strategy := .doublePromptWideConservative
  aggregateBf16 := typedShape (seq * 5120 * 2) 2 .requestPrefill .disjoint
  bufferCount := 2
  hiddenWidth := 5120
  sequenceCapacityTokens := seq
  requiresPanelwiseInPlaceContract := false

def legacyShape : LegacyScratch where
  hidden := typedShape (3 * 512 * 5120) 2 .operatorPanel .disjoint
  projection := typedShape (4 * 512 * 17408) 2 .operatorPanel .disjoint
  linearScalar := typedShape (2 * 512 * 48) 2 .operatorPanel .disjoint
  fp32 := typedShape (scratchElements seq) 4 .operatorPanel .disjoint

def variantShape (strategy : PrefillOperatorScratchStrategy)
    (aliasCondition : PrefillMemoryAliasCondition) (bytes : ℕ) (requires : VariantContracts)
    (topology : ScratchVariantTopology) : PrefillOperatorScratchVariant where
  strategy := strategy
  aggregate := typedShape bytes 1 .operatorPanel aliasCondition
  totalRequiredBytes := bytes
  requires := requires
  backings := variantBackingRequirements topology .c16Composite tacticBytes

def familyDisjointBytes : ℕ := 1704656896

def variantShapes : ScratchVariants where
  familyOverlay := variantShape .c8192FamilyOverlayConditional .sequentialFamilyLiveSetOverlay
    familyPhaseArenaBytes overlayContracts .c8192FamilyOverlayOnly
  familyDisjoint := variantShape .disjointAllFamiliesAndLegacyC512 .disjoint familyDisjointBytes
    disjointFamilyContracts .c8192DisjointFamiliesOnly
  legacy := variantShape .unselected .disjoint (workspaceTotal 512 seq) legacyContracts
    .legacyC512Only
  routeOverlay := variantShape .overlayLegacyC512MutuallyExclusive .mutuallyExclusiveRouteOverlay
    (max familyPhaseArenaBytes (workspaceTotal 512 seq)) routeOverlayContracts
    .mutuallyExclusiveRouteOverlay
  familyOverlayLegacyDisjoint := variantShape .c8192FamilyOverlayWithDisjointLegacyC512
    .sequentialFamilyLiveSetOverlay (familyPhaseArenaBytes + workspaceTotal 512 seq)
    overlayLegacyContracts .c8192FamilyOverlayWithDisjointLegacyC512
  allDisjoint := variantShape .disjointAllFamiliesAndLegacyC512 .disjoint
    (familyDisjointBytes + workspaceTotal 512 seq) allDisjointContracts
    .disjointAllFamiliesAndLegacyC512

variable {seq}

lemma workspaceTotal_512_dvd (seq : ℕ) : 256 ∣ workspaceTotal 512 seq := by
  simp only [workspaceTotal, alignUp_eq]
  omega

lemma workspaceTotal_512_le (hseq : seq ≤ 262144) :
    0 < workspaceTotal 512 seq ∧ workspaceTotal 512 seq ≤ 2 ^ 30 := by
  have hscratch := scratchElements_le hseq
  simp only [workspaceTotal, alignUp_eq]
  omega

lemma persistentStatePlan_ok (hpos : 0 < seq) (hseq : seq ≤ 262144) :
    persistentStatePlan (elementShape seq) = some (persistentShape seq) := by
  have hmax := uint64Max_eq
  have htotal : [alignUp (1474560 * 2), alignUp (37748736 * 2), alignUp (16 * seq * 1024 * 2),
      alignUp (16 * seq * 1024 * 2)].sum = persistentTotal seq := by
    simp only [List.sum_cons, List.sum_nil, alignUp_eq, persistentTotal, statefulBytes,
      requestConvStateBytes, requestGdnStateBytes]
    omega
  have hfits : persistentTotal seq ≤ 2 ^ 40 := by
    simp only [persistentTotal, statefulBytes, requestConvStateBytes, requestGdnStateBytes]
    omega
  unfold persistentStatePlan
  simp only [elementShape, bf16Bytes]
  simp (disch := omega) only [makeTyped_ok, Option.bind_eq_bind, Option.bind_some]
  simp only [typedShape]
  rw [checkedSum_ok (by omega), htotal]
  rfl

lemma positionStatePlan_ok (hpos : 0 < seq) (hseq : seq ≤ 262144) :
    positionStatePlan (elementShape seq) = some (positionShape seq) := by
  have hmax := uint64Max_eq
  have htotal : [alignUp (seq * 32 * 4), alignUp (seq * 32 * 4)].sum = ropeTotal seq := by
    simp only [List.sum_cons, List.sum_nil, alignUp_eq, ropeTotal]
    omega
  have hfits : ropeTotal seq ≤ 2 ^ 40 := by
    simp only [ropeTotal, alignUp_eq]
    omega
  unfold positionStatePlan
  simp only [elementShape, fp32Bytes]
  simp (disch := omega) only [makeTyped_ok, Option.bind_eq_bind, Option.bind_some]
  simp only [typedShape]
  rw [checkedSum_ok (by omega), htotal]
  rfl

lemma finalHidden_ok :
    finalHiddenRequirement layerMajorModel =
      some (typedShape 5120 2 .requestPrefill .disjoint) := by
  have hmax := uint64Max_eq
  exact makeTyped_ok (by decide) (by rw [layerMajorModel_hiddenSize, bf16Bytes]; omega)

lemma minimumHidden_ok (hpos : 0 < seq) (hseq : seq ≤ 262144) :
    minimumHidden layerMajorModel seq (seq * 5120) = some (minimumHiddenShape seq) := by
  have hmax := uint64Max_eq
  unfold minimumHidden
  rw [bf16Bytes, makeTyped_ok (by omega) (by omega)]
  rfl

lemma conservativeHidden_ok (hpos : 0 < seq) (hseq : seq ≤ 262144) :
    conservativeHidden layerMajorModel seq (seq * 5120) = some (conservativeHiddenShape seq) := by
  have hmax := uint64Max_eq
  unfold conservativeHidden
  rw [checkedMultiply_ok (by omega)]
  simp only [Option.bind_eq_bind, Option.bind_some]
  rw [bf16Bytes, makeTyped_ok (by omega) (by omega)]
  rfl

lemma legacyScratch_ok (hseq : seq ≤ 262144) :
    legacyScratch layerMajorModel seq = some (legacyShape seq) := by
  have hmax := uint64Max_eq
  have hscratch := scratchElements_le hseq
  have hscratch' := scratchElements_pos seq
  have hcapacity : max fp32MinimumElements (seq * 24) = scratchElements seq := by
    rw [scratchElements, Nat.mul_comm]
  have htile : legacyPublicTileTokens = 512 := rfl
  unfold legacyScratch
  simp only [legacyC512HiddenScratchBufferCount, legacyC512ProjectionScratchBufferCount,
    legacyC512LinearScalarScratchBufferCount, htile, layerMajorModel_hiddenSize,
    layerMajorModel_intermediateSize, layerMajorModel_linearNumValueHeads,
    layerMajorModel_numAttentionHeads, bf16Bytes, fp32Bytes]
  simp (disch := omega) only [checkedMultiply_ok, Option.bind_eq_bind, Option.bind_some]
  rw [hcapacity]
  simp (disch := omega) only [makeTyped_ok, Option.bind_some]
  rfl

lemma makeVariant_ok {strategy : PrefillOperatorScratchStrategy}
    {aliasCondition : PrefillMemoryAliasCondition} {bytes : ℕ} {requires : VariantContracts}
    {topology : ScratchVariantTopology} (hbytes : 0 < bytes) (hdvd : 256 ∣ bytes)
    (hfits : bytes ≤ 2 ^ 40) :
    makeVariant strategy aliasCondition bytes requires
      (variantBackingRequirements topology .c16Composite tacticBytes) =
      some (variantShape strategy aliasCondition bytes requires topology) := by
  have hmax := uint64Max_eq
  have htotal : (typedShape bytes 1 .operatorPanel aliasCondition).requiredBytes = bytes := by
    rw [typedShape, Nat.mul_one, alignUp_of_dvd hdvd]
  unfold makeVariant
  rw [makeRaw_ok hbytes (by omega)]
  simp only [Option.bind_eq_bind, Option.bind_some, htotal, Option.pure_def]
  rfl

lemma scratchVariants_ok (hseq : seq ≤ 262144) :
    scratchVariants .c16Composite tacticBytes familyPhaseArenaBytes familyDisjointBytes
      (workspaceTotal 512 seq) = some (variantShapes seq) := by
  have hmax := uint64Max_eq
  have hdvd := workspaceTotal_512_dvd seq
  obtain ⟨hpos, hle⟩ := workspaceTotal_512_le hseq
  have hfamily : familyPhaseArenaBytes = 855638016 := rfl
  have hdisjoint : familyDisjointBytes = 1704656896 := rfl
  have hmaximum : 256 ∣ max familyPhaseArenaBytes (workspaceTotal 512 seq) := by
    rcases Nat.le_total familyPhaseArenaBytes (workspaceTotal 512 seq) with h | h
    · rwa [max_eq_right h]
    · rw [max_eq_left h, hfamily]
      omega
  have htotal (strategy aliasCondition bytes requires topology) :
      (variantShape strategy aliasCondition bytes requires topology).totalRequiredBytes = bytes :=
    rfl
  unfold scratchVariants
  simp (disch := first | assumption | omega) only [makeVariant_ok, checkedAdd_ok, htotal,
    Option.bind_eq_bind, Option.bind_some]
  rfl

end Stages

section Plan

variable (seq limit : ℕ)

def workspaceOptions : LayerMajorPrefillWorkspaceOptions where
  sequenceCapacityTokens := seq
  requestArenaLimitBytes := limit
  hiddenStrategy := .singlePromptWideConditional
  scratchStrategy := .c8192FamilyOverlayWithDisjointLegacyC512
  gdnTactic := .c64NativeInPlaceConv
  legacyGdnTactic := .c16Composite
  mlpTactic := .separateGateUpAndSilu

def rawShape (bytes : ℕ) : PrefillMemoryRequirement :=
  typedShape bytes 1 .operatorPanel .disjoint

def operatorScratchShape : PrefillOperatorScratchMemoryPlan where
  c8192PanelCapacityTokens := operatorPanelTokens
  legacyC512PanelCapacityTokens := legacyPublicTileTokens
  mlpCapacityTokens := operatorPanelTokens
  gdnTactic := .c64NativeInPlaceConv
  legacyGdnTactic := .c16Composite
  mlpTactic := .separateGateUpAndSilu
  gdnProjectionPhase := rawShape 353894400
  promptTokenIdsU32 := typedShape 8192 4 .operatorPanel
    .promptTokenIdsConsumedBeforeOperatorScratchReuse
  gdnRecurrentPhase := rawShape 446365696
  gdnC64NativeWorkspace := rawShape 75694080
  fullAttentionPreprocessPhase := rawShape 402653184
  mlpGateUpDownPhase := rawShape familyPhaseArenaBytes
  sharedProjectionReductionAndLocks := rawShape 1048832
  gdnLiveSet := ⟨.gdnProjectionAndRecurrentCore, .gdnInProjQkvzAndInProjBa,
    .gdnRecurrentUpdateNormAndOutputProjection, rawShape 446365696⟩
  attentionLiveSet := ⟨.fullAttentionProjectionAndCore, .fullAttentionQkvGateProjection,
    .fullAttentionCoreGateAndOutputProjection, rawShape 402653184⟩
  mlpLiveSet := ⟨.mlpGateUpAndDown, .mlpMergedGateUpProjection, .mlpSiluGateAndDownProjection,
    rawShape familyPhaseArenaBytes⟩
  c8192FamilyOverlayConditional := (variantShapes seq).familyOverlay
  c8192DisjointFamilies := (variantShapes seq).familyDisjoint
  legacyC512HiddenBf16 := (legacyShape seq).hidden
  legacyC512ProjectionBf16 := (legacyShape seq).projection
  legacyC512LinearScalarBf16 := (legacyShape seq).linearScalar
  legacyC512Fp32Scratch := (legacyShape seq).fp32
  legacyC512Only := (variantShapes seq).legacy
  mutuallyExclusiveOverlay := (variantShapes seq).routeOverlay
  c8192FamilyOverlayWithDisjointLegacyC512 := (variantShapes seq).familyOverlayLegacyDisjoint
  disjointConservative := (variantShapes seq).allDisjoint
  selected := (variantShapes seq).familyOverlayLegacyDisjoint
  gateUp := ⟨.gateUp, operatorPanelTokens, 17408, 5120, 2, false⟩
  down := ⟨.down, operatorPanelTokens, 5120, 17408, 1, false⟩

variable {seq limit}

lemma legacyBytes_sum (seq : ℕ) :
    [(legacyShape seq).hidden.requiredBytes, (legacyShape seq).projection.requiredBytes,
      (legacyShape seq).linearScalar.requiredBytes, (legacyShape seq).fp32.requiredBytes].sum =
      workspaceTotal 512 seq := by
  simp only [legacyShape, typedShape, List.sum_cons, List.sum_nil, workspaceTotal, alignUp_eq]
  omega

lemma operatorScratchPlan_ok (cfg : BuildConfig) (hseq : seq ≤ 262144) :
    operatorScratchPlan cfg layerMajorModel seq (workspaceOptions seq limit) =
      some (operatorScratchShape seq) := by
  have hmax := uint64Max_eq
  obtain ⟨-, hle⟩ := workspaceTotal_512_le hseq
  have hids : promptTokenIdsRequirement = some (typedShape 8192 4 .operatorPanel
      .promptTokenIdsConsumedBeforeOperatorScratchReuse) :=
    makeTyped_ok (by decide) (by rw [hmax]; decide)
  have hfamilies : familyBytes tacticBytes = [446365696, 402653184, 855638016] := by decide
  have hdisjoint : checkedSum [446365696, 402653184, 855638016] = some familyDisjointBytes := by
    rw [checkedSum_ok (by rw [hmax]; decide)]
    rfl
  have hoverlay : [446365696, 402653184, 855638016].foldl max 0 = familyPhaseArenaBytes := by
    decide
  have hraw (bytes : ℕ) (hpos : 0 < bytes) (hle : bytes ≤ 2 ^ 40) :
      makeRawRequirement bytes .operatorPanel .disjoint = some (rawShape bytes) :=
    makeRaw_ok hpos (by omega)
  have hprojection : makeRawRequirement tacticBytes.gdnProjectionPhase .operatorPanel .disjoint =
      some (rawShape 353894400) := hraw _ (by decide) (by decide)
  have hrecurrent : makeRawRequirement tacticBytes.gdnRecurrentPhase .operatorPanel .disjoint =
      some (rawShape 446365696) := hraw _ (by decide) (by decide)
  have hnative : makeRawRequirement tacticBytes.gdnNativeWorkspace .operatorPanel .disjoint =
      some (rawShape 75694080) := hraw _ (by decide) (by decide)
  have hattention : makeRawRequirement tacticBytes.attentionPreprocessPhase .operatorPanel
      .disjoint = some (rawShape 402653184) := hraw _ (by decide) (by decide)
  have hmlp : makeRawRequirement tacticBytes.mlpGateUpDownPhase .operatorPanel .disjoint =
      some (rawShape familyPhaseArenaBytes) := hraw _ (by decide) (by decide)
  have hreduction : makeRawRequirement tacticBytes.projectionReductionAndLocks .operatorPanel
      .disjoint = some (rawShape 1048832) := hraw _ (by decide) (by decide)
  have hgdn : max tacticBytes.gdnProjectionPhase tacticBytes.gdnRecurrentPhase =
      tacticBytes.gdnRecurrentPhase := by decide
  have hlegacy := checkedSum_ok (show
    [(legacyShape seq).hidden.requiredBytes, (legacyShape seq).projection.requiredBytes,
      (legacyShape seq).linearScalar.requiredBytes, (legacyShape seq).fp32.requiredBytes].sum ≤
      uint64Max by rw [legacyBytes_sum]; omega)
  rw [legacyBytes_sum] at hlegacy
  have hbytes : checkedTacticByteRequirements cfg layerMajorModel seq
      (workspaceOptions seq limit).gdnTactic (workspaceOptions seq limit).legacyGdnTactic
      (workspaceOptions seq limit).mlpTactic = some tacticBytes := checkedTacticBytes_ok seq cfg
  have hconv : tokenParallelConvOutput (workspaceOptions seq limit) tacticBytes = some none := rfl
  have hlegacyNative : legacyNativeWorkspace (workspaceOptions seq limit) tacticBytes
      (workspaceTotal 512 seq) = some (none, workspaceTotal 512 seq) := rfl
  have hvariants : scratchVariants (workspaceOptions seq limit).legacyGdnTactic tacticBytes
      familyPhaseArenaBytes familyDisjointBytes (workspaceTotal 512 seq) =
      some (variantShapes seq) := scratchVariants_ok hseq
  unfold operatorScratchPlan
  rw [hbytes]
  dsimp only [bind, Option.bind_some]
  rw [hids, hgdn, hprojection, hrecurrent, hnative, hattention, hmlp, hreduction, hfamilies,
    hdisjoint, hoverlay, legacyScratch_ok hseq, hconv]
  dsimp only [Option.bind_some]
  rw [hlegacy]
  dsimp only [Option.bind_some]
  rw [hlegacyNative]
  dsimp only [Option.bind_some]
  rw [hvariants]
  rfl

variable (seq limit)

def commonTotal : ℕ := persistentTotal seq + ropeTotal seq + 10240

def totalsShape : ProfileTotals where
  minimum := commonTotal seq + 10240 * seq + familyPhaseArenaBytes
  selected := commonTotal seq + 10240 * seq + (familyPhaseArenaBytes + workspaceTotal 512 seq)
  conservative :=
    commonTotal seq + 20480 * seq + (familyDisjointBytes + workspaceTotal 512 seq)

def unprofiledShape : LayerMajorPrefillWorkspacePlan where
  sequenceCapacityTokens := seq
  requestArenaLimitBytes := limit
  persistentState := persistentShape seq
  positionState := positionShape seq
  finalHiddenHandoffBf16 := typedShape 5120 2 .requestPrefill .disjoint
  promptWideHidden := ⟨minimumHiddenShape seq, conservativeHiddenShape seq, minimumHiddenShape seq⟩
  operatorScratch := operatorScratchShape seq

def workspaceShape : LayerMajorPrefillWorkspacePlan :=
  withProfiles (workspaceOptions seq limit) (totalsShape seq) (unprofiledShape seq limit)

variable {seq limit}

lemma totalsShape_selected (seq : ℕ) : (totalsShape seq).selected = layerMajorTotal seq := by
  simp only [totalsShape, commonTotal, layerMajorTotal]
  ring

lemma commonTotal_le (hseq : seq ≤ 262144) : commonTotal seq ≤ 2 ^ 39 := by
  simp only [commonTotal, persistentTotal, statefulBytes, requestConvStateBytes,
    requestGdnStateBytes, ropeTotal, alignUp_eq]
  omega

lemma profileTotals_ok {plan : LayerMajorPrefillWorkspacePlan} (hseq : seq ≤ 262144)
    (hpersistent : plan.persistentState = persistentShape seq)
    (hposition : plan.positionState = positionShape seq)
    (hfinal : plan.finalHiddenHandoffBf16 = typedShape 5120 2 .requestPrefill .disjoint)
    (hhidden : plan.promptWideHidden =
      ⟨minimumHiddenShape seq, conservativeHiddenShape seq, minimumHiddenShape seq⟩)
    (hscratch : plan.operatorScratch = operatorScratchShape seq) :
    profileTotals plan familyPhaseArenaBytes (familyDisjointBytes + workspaceTotal 512 seq) =
      some (totalsShape seq) := by
  have hmax := uint64Max_eq
  have hcommon := commonTotal_le hseq
  obtain ⟨-, hworkspace⟩ := workspaceTotal_512_le hseq
  have hfamily : familyPhaseArenaBytes = 855638016 := rfl
  have hdisjoint : familyDisjointBytes = 1704656896 := rfl
  have hfinalBytes : alignUp (5120 * 2) = 10240 := by decide
  have hminimum : alignUp (seq * 5120 * 2) = 10240 * seq := by
    rw [alignUp_eq]
    omega
  have hconservative : alignUp (seq * 5120 * 2 * 2) = 20480 * seq := by
    rw [alignUp_eq]
    omega
  have hcommonSum : persistentTotal seq + ropeTotal seq + 10240 = commonTotal seq := rfl
  unfold profileTotals
  rw [hpersistent, hposition, hfinal, hhidden, hscratch]
  simp only [persistentShape, positionShape, minimumHiddenShape, conservativeHiddenShape,
    operatorScratchShape, variantShapes, variantShape, typedShape, hfinalBytes, hminimum,
    hconservative]
  rw [checkedSum_three (by omega), hcommonSum]
  simp only [Option.bind_eq_bind, Option.bind_some]
  rw [checkedSum_three (by omega), checkedSum_three (by omega), checkedSum_three (by omega)]
  rfl

lemma assemble_ok (cfg : BuildConfig) (hpos : 0 < seq) (hseq : seq ≤ 262144) :
    assembleWorkspacePlan cfg layerMajorModel (elementShape seq) (workspaceOptions seq limit) =
      some (workspaceShape seq limit) := by
  have hhidden : promptWideHiddenPlan layerMajorModel seq (seq * 5120)
      .singlePromptWideConditional =
      some ⟨minimumHiddenShape seq, conservativeHiddenShape seq, minimumHiddenShape seq⟩ := by
    unfold promptWideHiddenPlan
    rw [minimumHidden_ok hpos hseq, conservativeHidden_ok hpos hseq]
    rfl
  have htotals := @profileTotals_ok seq (unprofiledShape seq limit) hseq rfl rfl rfl rfl rfl
  unfold assembleWorkspacePlan
  rw [persistentStatePlan_ok hpos hseq, positionStatePlan_ok hpos hseq, finalHidden_ok]
  dsimp only [bind, Option.bind_some]
  change ((promptWideHiddenPlan layerMajorModel seq (seq * 5120)
    .singlePromptWideConditional).bind fun _ => _) = _
  rw [hhidden]
  dsimp only [Option.bind_some]
  change ((operatorScratchPlan cfg layerMajorModel seq (workspaceOptions seq limit)).bind
    fun _ => _) = _
  rw [operatorScratchPlan_ok cfg hseq]
  dsimp only [Option.bind_some]
  change ((profileTotals (unprofiledShape seq limit) familyPhaseArenaBytes
    (familyDisjointBytes + workspaceTotal 512 seq)).bind fun _ => _) = _
  rw [htotals]
  rfl

end Plan

section Valid

variable {seq limit : ℕ} (cfg : BuildConfig) (hpos : 0 < seq) (hseq : seq ≤ 262144)

lemma layerMajorModel_contract : validLayerMajorModelContract layerMajorModel = true := by
  decide +kernel

include hpos hseq

lemma workspaceShape_persistent : validPersistentState (workspaceShape seq limit) = true := by
  have hmax := uint64Max_eq
  have hfits : persistentTotal seq ≤ 2 ^ 40 := by
    simp only [persistentTotal, statefulBytes, requestConvStateBytes, requestGdnStateBytes]
    omega
  have hsum : [alignUp (1474560 * 2), alignUp (37748736 * 2), alignUp (16 * seq * 1024 * 2),
      alignUp (16 * seq * 1024 * 2)].sum = persistentTotal seq := by
    simp only [List.sum_cons, List.sum_nil, alignUp_eq, persistentTotal, statefulBytes,
      requestConvStateBytes, requestGdnStateBytes]
    omega
  rw [validPersistentState, decide_eq_true_eq]
  refine ⟨typedShape_valid (by omega) (by omega), typedShape_valid (by omega) (by omega),
    typedShape_valid (by omega) (by omega), typedShape_valid (by omega) (by omega), ?_⟩
  exact (checkedSum_ok (hsum.le.trans (by omega))).trans (congrArg some hsum)

lemma workspaceShape_position : validPositionState (workspaceShape seq limit) = true := by
  have hmax := uint64Max_eq
  have hfits : ropeTotal seq ≤ 2 ^ 40 := by
    simp only [ropeTotal, alignUp_eq]
    omega
  have hsum : [alignUp (seq * 32 * 4), alignUp (seq * 32 * 4)].sum = ropeTotal seq := by
    simp only [List.sum_cons, List.sum_nil, alignUp_eq, ropeTotal]
    omega
  rw [validPositionState, decide_eq_true_eq]
  refine ⟨typedShape_valid (by omega) (by omega), typedShape_valid (by omega) (by omega), ?_⟩
  exact (checkedSum_ok (hsum.le.trans (by omega))).trans (congrArg some hsum)

lemma workspaceShape_hidden : validHidden layerMajorModel (workspaceShape seq limit) = true := by
  have hmax := uint64Max_eq
  have helements : checkedMultiply (workspaceShape seq limit).sequenceCapacityTokens
      layerMajorModel.hiddenSize = some (seq * 5120) :=
    checkedMultiply_ok (by rw [layerMajorModel_hiddenSize]; change seq * 5120 ≤ _; omega)
  have hminimum : minimumHidden layerMajorModel (workspaceShape seq limit).sequenceCapacityTokens
      (seq * 5120) = some (minimumHiddenShape seq) := minimumHidden_ok hpos hseq
  have hconservative : conservativeHidden layerMajorModel
      (workspaceShape seq limit).sequenceCapacityTokens (seq * 5120) =
      some (conservativeHiddenShape seq) := conservativeHidden_ok hpos hseq
  have hplan : (workspaceShape seq limit).promptWideHidden =
      ⟨minimumHiddenShape seq, conservativeHiddenShape seq, minimumHiddenShape seq⟩ := rfl
  have hstrategy : (workspaceShape seq limit).selected.hiddenStrategy =
      .singlePromptWideConditional := rfl
  rw [validHidden, helements]
  dsimp only [bind, Option.bind_some]
  rw [hminimum, hconservative]
  dsimp only [Option.bind_some]
  rw [hplan, hstrategy, if_pos rfl]
  simp [guard]

omit hpos hseq

lemma rawShape_exact {bytes : ℕ} (hbytes : 0 < bytes) (hdvd : 256 ∣ bytes)
    (hfits : bytes ≤ 2 ^ 40) :
    validRawRequirementExact (rawShape bytes) .operatorPanel .disjoint bytes = true := by
  have hmax := uint64Max_eq
  exact typedShape_raw hbytes hdvd (by omega)

lemma workspaceShape_scratchShape : validScratchShape cfg (workspaceShape seq limit) = true := by
  have hids : promptTokenIdsRequirement = some (typedShape 8192 4 .operatorPanel
      .promptTokenIdsConsumedBeforeOperatorScratchReuse) :=
    makeTyped_ok (by decide) (by rw [uint64Max_eq]; decide)
  rw [validScratchShape, decide_eq_true_eq]
  exact ⟨rfl, rfl, rfl, rfl, rfl, rfl, rfl, rfl, hids⟩

lemma workspaceShape_tacticBytes :
    validTacticBytes (workspaceShape seq limit) tacticBytes = true := by
  rw [validTacticBytes, decide_eq_true_eq]
  exact ⟨rawShape_exact (by decide) (by decide) (by decide),
    rawShape_exact (by decide) (by decide) (by decide),
    rawShape_exact (by decide) (by decide) (by decide),
    rawShape_exact (by decide) (by decide) (by decide),
    rawShape_exact (by decide) (by decide) (by decide),
    rawShape_exact (by decide) (by decide) (by decide), rfl, rfl⟩

lemma workspaceShape_liveSets : validLiveSets (workspaceShape seq limit) = true := by
  have hmax := uint64Max_eq
  have hfamily : familyPhaseArenaBytes = 855638016 := rfl
  have hbytes (bytes : ℕ) (hpos : 0 < bytes) (hfits : bytes ≤ 2 ^ 40) :
      validRequirement (rawShape bytes) .operatorPanel = true :=
    typedShape_valid (by omega) (by omega)
  have hgdn : (rawShape 446365696).requiredBytes =
      max (rawShape 353894400).requiredBytes (rawShape 446365696).requiredBytes := by decide
  rw [validLiveSets, decide_eq_true_eq]
  refine ⟨?_, ?_, ?_⟩
  · rw [validLiveSet, decide_eq_true_eq]
    exact ⟨hbytes 446365696 (by decide) (by decide), rfl, rfl, rfl, hgdn⟩
  · rw [validLiveSet, decide_eq_true_eq]
    exact ⟨hbytes 402653184 (by decide) (by decide), rfl, rfl, rfl, rfl⟩
  · rw [validLiveSet, decide_eq_true_eq]
    exact ⟨hbytes familyPhaseArenaBytes (by decide) (by decide), rfl, rfl, rfl, rfl⟩

def expectedShape (seq : ℕ) : ExpectedScratch where
  familyOverlay := familyPhaseArenaBytes
  familyDisjoint := familyDisjointBytes
  legacy := workspaceTotal 512 seq
  familyOverlayLegacy := familyPhaseArenaBytes + workspaceTotal 512 seq
  allDisjoint := familyDisjointBytes + workspaceTotal 512 seq

lemma variantShape_exact {strategy : PrefillOperatorScratchStrategy}
    {aliasCondition : PrefillMemoryAliasCondition} {bytes : ℕ} {requires : VariantContracts}
    {topology : ScratchVariantTopology} (hdvd : 256 ∣ bytes) (hle : 78446592 ≤ bytes)
    (hfits : bytes ≤ 2 ^ 40) :
    validScratchVariantExact (variantShape strategy aliasCondition bytes requires topology)
      strategy aliasCondition bytes requires
      (variantBackingRequirements topology .c16Composite tacticBytes) = true := by
  have hmax := uint64Max_eq
  have hfit (contract : PrefillWorkspaceBackingContract)
      (hcontract : contract.bytesPerInstance * contract.minimumInstanceCount ≤ 78446592) :
      backingFits contract bytes = true := by
    rw [backingFits, checkedMultiply_ok (by omega), Option.any_some, decide_eq_true_eq]
    omega
  rw [validScratchVariantExact, decide_eq_true_eq]
  refine ⟨?_, ?_, ?_, rfl, typedShape_raw (by omega) hdvd (by omega), rfl, rfl,
    rfl⟩
  · cases topology <;> exact hfit _ (by decide)
  · cases topology <;> exact hfit _ (by decide)
  · cases topology <;> exact hfit _ (by decide)

include hseq

lemma expectedScratch_ok :
    expectedScratch layerMajorModel (workspaceShape seq limit) = some (expectedShape seq) := by
  have hmax := uint64Max_eq
  obtain ⟨-, hle⟩ := workspaceTotal_512_le hseq
  have hfamily : familyPhaseArenaBytes = 855638016 := rfl
  have hdisjoint : familyDisjointBytes = 1704656896 := rfl
  have hfamilies : [(rawShape 446365696).requiredBytes, (rawShape 402653184).requiredBytes,
      (rawShape familyPhaseArenaBytes).requiredBytes] =
      [446365696, 402653184, familyPhaseArenaBytes] := by decide
  have hscratch : legacyScratch layerMajorModel
      (workspaceShape seq limit).sequenceCapacityTokens = some (legacyShape seq) :=
    legacyScratch_ok hseq
  have hlegacy := checkedSum_ok (show
    [(legacyShape seq).hidden.requiredBytes, (legacyShape seq).projection.requiredBytes,
      (legacyShape seq).linearScalar.requiredBytes, (legacyShape seq).fp32.requiredBytes].sum ≤
      uint64Max by rw [legacyBytes_sum]; omega)
  rw [legacyBytes_sum] at hlegacy
  have hplan : (workspaceShape seq limit).operatorScratch = operatorScratchShape seq := rfl
  unfold expectedScratch
  rw [hscratch, hplan]
  dsimp only [bind, Option.bind_some, operatorScratchShape]
  rw [hfamilies, checkedSum_three (by omega), hlegacy]
  have hoverlay : [446365696, 402653184, familyPhaseArenaBytes].foldl max 0 =
      familyPhaseArenaBytes := by decide
  have hfamilySum : 446365696 + 402653184 + familyPhaseArenaBytes = familyDisjointBytes := by
    decide
  dsimp only [Option.bind_some]
  rw [hoverlay, hfamilySum, checkedAdd_ok (by omega), checkedAdd_ok (by omega), guard, if_pos rfl]
  rfl

lemma workspaceShape_variants :
    validVariants (workspaceShape seq limit) tacticBytes (expectedShape seq) = true := by
  have hdvd := workspaceTotal_512_dvd seq
  obtain ⟨-, hle⟩ := workspaceTotal_512_le hseq
  have hfamily : familyPhaseArenaBytes = 855638016 := rfl
  have hdisjoint : familyDisjointBytes = 1704656896 := rfl
  have hlarge : 78446592 ≤ workspaceTotal 512 seq := by
    simp only [workspaceTotal, alignUp_eq]
    omega
  have hmaximum : 256 ∣ max familyPhaseArenaBytes (workspaceTotal 512 seq) := by
    rcases Nat.le_total familyPhaseArenaBytes (workspaceTotal 512 seq) with h | h
    · rwa [max_eq_right h]
    · rw [max_eq_left h, hfamily]
      omega
  rw [validVariants, decide_eq_true_eq]
  exact ⟨variantShape_exact (by omega) (by omega) (by omega),
    variantShape_exact (by omega) (by omega) (by omega),
    variantShape_exact hdvd hlarge (by omega),
    variantShape_exact hmaximum (by omega) (by omega),
    variantShape_exact (by omega) (by omega) (by omega),
    variantShape_exact (by omega) (by omega) (by omega)⟩

lemma workspaceShape_scratch :
    validScratch cfg layerMajorModel (workspaceShape seq limit) = true := by
  have hbytes : checkedTacticByteRequirements cfg layerMajorModel
      (workspaceShape seq limit).sequenceCapacityTokens
      (workspaceShape seq limit).operatorScratch.gdnTactic
      (workspaceShape seq limit).operatorScratch.legacyGdnTactic
      (workspaceShape seq limit).operatorScratch.mlpTactic = some tacticBytes :=
    checkedTacticBytes_ok seq cfg
  have htotals : profileTotals (workspaceShape seq limit) (expectedShape seq).familyOverlay
      (expectedShape seq).allDisjoint = some (totalsShape seq) :=
    profileTotals_ok hseq rfl rfl rfl rfl rfl
  have hselected : selectVariant (planVariants (workspaceShape seq limit))
      (workspaceShape seq limit).selected.scratchStrategy =
      some (workspaceShape seq limit).operatorScratch.selected := rfl
  have hprofiles : totalsShape seq = ⟨(workspaceShape seq limit).minimumConditional.requiredBytes,
      (workspaceShape seq limit).selected.requiredBytes,
      (workspaceShape seq limit).conservative.requiredBytes⟩ := rfl
  have hcontract : (workspaceShape seq limit).selected.requiresUnboundAliasOrRouteContract =
      selectedRequiresContract (workspaceShape seq limit) := rfl
  unfold validScratch
  dsimp only
  rw [hbytes, some_bind, guard_bind (@workspaceShape_tacticBytes seq limit),
    guard_bind (@workspaceShape_liveSets seq limit), expectedScratch_ok hseq, some_bind,
    guard_bind (@workspaceShape_variants seq limit hseq), guard_bind hselected, htotals, some_bind,
    guard_bind hprofiles, guard, if_pos hcontract]
  rfl

omit hseq in
lemma workspaceShape_profiles : validProfiles (workspaceShape seq limit) = true := by
  have hfamily : familyPhaseArenaBytes = 855638016 := rfl
  have hdisjoint : familyDisjointBytes = 1704656896 := rfl
  have hle : (totalsShape seq).minimum ≤ (totalsShape seq).selected := by
    simp only [totalsShape]
    omega
  have hle' : (totalsShape seq).selected ≤ (totalsShape seq).conservative := by
    simp only [totalsShape]
    omega
  have hlimit : (workspaceShape seq limit).requestArenaLimitBytes = limit := rfl
  have hminimum : (workspaceShape seq limit).minimumConditional =
      ⟨.singlePromptWideConditional, .c8192FamilyOverlayConditional, (totalsShape seq).minimum,
        capacity (totalsShape seq).minimum limit, true⟩ := rfl
  have hselected : (workspaceShape seq limit).selected =
      ⟨.singlePromptWideConditional, .c8192FamilyOverlayWithDisjointLegacyC512,
        (totalsShape seq).selected, capacity (totalsShape seq).selected limit, true⟩ := rfl
  have hconservative : (workspaceShape seq limit).conservative =
      ⟨.doublePromptWideConservative, .disjointAllFamiliesAndLegacyC512,
        (totalsShape seq).conservative, capacity (totalsShape seq).conservative limit, true⟩ := rfl
  rw [validProfiles, hminimum, hselected, hconservative]
  simp [validProfile, hlimit, hle, hle', validHiddenStrategy, validScratchStrategy]

omit hseq in
lemma workspaceShape_assets : validAssets (workspaceShape seq limit) = true := by
  have hmodel : (workspaceShape seq limit).residentModel =
      { owner := .engineResidentModel, lifetime := .engine } := rfl
  have hsidecars : (workspaceShape seq limit).derivedSidecars =
      { owner := .deploymentPlanSidecar, lifetime := .engine } := rfl
  have hbytes : (workspaceShape seq limit).wholeProcessRequiredBytes = none := rfl
  have hcapacity : (workspaceShape seq limit).wholeProcessCapacity = .indeterminate := rfl
  have hreservation : (workspaceShape seq limit).requestArenaReservationBound = false := rfl
  have hbindings : (workspaceShape seq limit).operatorBindingsComplete = false := rfl
  simp [validAssets, unboundAsset, LayerMajorPrefillWorkspacePlan.executable, hmodel, hsidecars,
    hbytes, hcapacity, hreservation, hbindings]

include hpos

lemma workspaceShape_valid (hlimit : 0 < limit) :
    validPlan cfg (workspaceShape seq limit) = true := by
  rw [validPlan, decide_eq_true_eq]
  refine ⟨?_, workspaceShape_profiles, workspaceShape_assets, ?_⟩
  · rw [validHeader, decide_eq_true_eq]
    exact ⟨hpos.ne', rfl, hlimit.ne', rfl⟩
  · rw [findKnownModel_layerMajor, Option.any_some, decide_eq_true_eq]
    exact ⟨layerMajorModel_contract, workspaceShape_persistent hpos hseq,
      workspaceShape_position hpos hseq, finalHidden_ok, workspaceShape_hidden hpos hseq,
      workspaceShape_scratchShape cfg, workspaceShape_scratch cfg hseq⟩

lemma buildWorkspacePlan_ok (hlimit : 0 < limit) :
    buildUnboundLayerMajorPrefillWorkspacePlan cfg (workspaceOptions seq limit) =
      .ok (workspaceShape seq limit) := by
  have hoptions : validWorkspaceOptions cfg (workspaceOptions seq limit) = true := by
    have hwide : isLayerWideP40MlpTactic .separateGateUpAndSilu = false := rfl
    simp [validWorkspaceOptions, workspaceOptions, validHiddenStrategy, validScratchStrategy,
      validGdnTactic, validLegacyGdnTactic, validMlpTactic, enabledMlpTactic, hwide, hpos.ne',
      hlimit.ne']
  have hcapacity : ¬(maximumSequenceTokens < (workspaceOptions seq limit).sequenceCapacityTokens ∨
      2 ^ 32 - 1 < (workspaceOptions seq limit).sequenceCapacityTokens) := by
    simp only [maximumSequenceTokens, workspaceOptions]
    omega
  have helements : elementCounts layerMajorModel
      (workspaceOptions seq limit).sequenceCapacityTokens = some (elementShape seq) :=
    elementCounts_ok hseq
  rw [buildUnboundLayerMajorPrefillWorkspacePlan, if_neg (by simp [hoptions]),
    findKnownModel_layerMajor]
  dsimp only
  rw [if_neg (by simp [layerMajorModel_contract]), helements]
  dsimp only
  rw [if_neg hcapacity, assemble_ok cfg hpos hseq]
  dsimp only
  rw [if_pos (workspaceShape_valid cfg hpos hseq hlimit)]

end Valid

end Qwen3xOrin.Request
