import Qwen3xOrin.Library.Guard
import Qwen3xOrin.Prefill.PlanValidity

namespace Qwen3xOrin.Prefill

open Library

def buildPanels (tactic : LayerMajorPrefillMlpScheduleTactic) :
    ℕ → ℕ → ℕ → ℕ → List PrefillOperatorPanel × ℕ × ℕ
  | 0, _, nextPosition, remaining => ([], nextPosition, remaining)
  | n + 1, i, nextPosition, remaining =>
    let tokenCount := panelTokenCountFor tactic remaining
    let endPosition := nextPosition + tokenCount
    let (panels, last, left) :=
      buildPanels tactic n (i + 1) endPosition (remaining - tokenCount)
    (⟨i, nextPosition, tokenCount, endPosition⟩ :: panels, last, left)

def buildLayers (panelCount : ℕ) : List PrefillLayerExecution :=
  (List.range layerCount).map fun i =>
    ⟨i, layerTypeForIndex i, progressDomainForType (layerTypeForIndex i), panelCount⟩

def buildMlpSchedule (cfg : BuildConfig) (options : PrefillExecutionPlanOptions)
    (panelCount : ℕ) : PrefillMlpSchedulePlan :=
  let wholeCore := decide (options.mlpScheduleTactic = .promptWideP40WholeCore)
  let vllmMarlinParity := decide (options.mlpScheduleTactic = .promptWideP40VllmMarlinParity)
  let fixedP40Geometry := options.mlpScheduleTactic.fixedP40Geometry
  let launches := wholeCoreMlpLaunchCount cfg options.promptTokenCount
  if options.mlpScheduleTactic = .perOperatorPanel then
    { tactic := options.mlpScheduleTactic
      operatorPanelPhaseCountPerLayer := panelCount
      mlpPhaseSubmissionCountPerLayer := panelCount
      maximumMPerMlpSubmission := operatorPanelTokens }
  else
    { tactic := options.mlpScheduleTactic
      operatorPanelPhaseCountPerLayer := panelCount
      mlpPhaseSubmissionCountPerLayer := 1
      maximumMPerMlpSubmission := layerWideMlpP40Tokens cfg
      requiredGateUpProjectionLaunchesPerLayer := if vllmMarlinParity then 40 else 1
      maximumStandaloneSiluLaunchesPerLayer :=
        if vllmMarlinParity then 1 else if fixedP40Geometry then 0 else 1
      requiredDownProjectionLaunchesPerLayer :=
        if wholeCore then launches - 1 else if vllmMarlinParity then 40 else 1
      minimumTotalKernelLaunchesPerLayer :=
        if wholeCore then launches else if vllmMarlinParity then 40 + 40 + 1 + 1 else 2
      maximumTotalKernelLaunchesPerLayer :=
        if wholeCore then launches
        else if vllmMarlinParity then 40 + 40 + 1 + 1
        else if fixedP40Geometry then 2 else 3
      waitsForAllOperatorPanels := true
      postAttentionNormIsPromptWide := true
      exactFullMBindingRequired := true
      internalMSegmentationForbidden :=
        !vllmMarlinParity && !(wholeCore && decide (options.promptTokenCount % 64 ≠ 0)) }

def buildWholeCoreSchedule (cfg : BuildConfig) (promptTokenCount panelCount : ℕ) :
    PrefillWholeCoreSchedulePlan :=
  { enabled := true
    fillPanelPhaseCountPerLayer := panelCount
    promptCorePhaseCountPerLayer := 1
    drainPanelPhaseCountPerLayer := panelCount
    persistentMlpPhaseCountPerLayer := 1
    panelTokenCount := promptWideP40PanelTokens
    promptCoreTokenCount := promptTokenCount
    requestCapacityTokens := promptWideP40RequestCapacityTokens cfg
    routePassCount := 1
    fp8SingleLaunchPerProjectionRequired := true
    bf16AbPromptWideRequired := true
    gdnPromptWideRequired := true
    flashinferWholePromptRequired := true }

def buildProjectionResetSchedule (cfg : BuildConfig) (panelCount : ℕ) :
    PrefillP40ProjectionResetSchedulePlan :=
  { enabled := true
    inputPreparationPanelCountPerLayer := panelCount
    promptCorePhaseCountPerLayer := 1
    persistentMlpPhaseCountPerLayer := 1
    panelTokenCount := promptWideP40PanelTokens
    projectionMTokens := promptWideP40Tokens cfg
    requestCapacityTokens := promptWideP40RequestCapacityTokens cfg
    routePassCount := 1
    fp8GroupedInputLaunchesPerLayer := 1
    fp8OutputLaunchesPerLayer := 1
    fp8PhysicalLaunchesPerRequest := 128
    fp8TensorRoleHitsPerRequest := 208
    nvfp4GateUpLaunchesPerLayer := 1
    nvfp4DownLaunchesPerLayer := 1
    nvfp4PhysicalLaunchesPerRequest := 128
    fp8GroupedFullPromptInputRequired := true
    fp8FullPromptOutputRequired := true
    nvfp4FullPromptRequired := true
    internalMSegmentationForbidden := true
    productionAccuracyRequired := true
    approximateNumericsForbidden := true
    mtpForbidden := true
    cublasltForbidden := true }

def buildPackedProjectionSchedule (cfg : BuildConfig) (panelCount : ℕ) :
    PrefillP40PackedProjectionSchedulePlan :=
  { enabled := true
    inputPreparationPanelCountPerLayer := panelCount
    promptCorePhaseCountPerLayer := 1
    packedMlpPhaseCountPerLayer := 1
    panelTokenCount := promptWideP40PanelTokens
    projectionMTokens := promptWideP40Tokens cfg
    requestCapacityTokens := promptWideP40RequestCapacityTokens cfg
    routePassCount := 1
    fp8PhysicalLaunchesPerRequest := 128
    fp8TensorRoleHitsPerRequest := 208
    nvfp4PhysicalLaunchesPerRequest := 128
    authenticatedArtifactCount := 256
    authenticatedSourceCount := 400
    streamKSliceCount := 1
    packedOperandsRetainedToRegisterDecode := true
    roleSpecificTacticsRequired := true
    requestTimeRepackForbidden := true
    requestTimeTacticSelectionForbidden := true
    internalMSegmentationForbidden := true
    productionAccuracyRequired := true
    approximateNumericsForbidden := true
    mtpForbidden := true
    cublasltForbidden := true }

def buildPackedNvfp4V2Schedule (cfg : BuildConfig) (panelCount : ℕ) :
    PrefillP40PackedNvfp4V2SchedulePlan :=
  { enabled := true
    inputPreparationPanelCountPerLayer := panelCount
    promptCorePhaseCountPerLayer := 1
    packedMlpPhaseCountPerLayer := 1
    panelTokenCount := promptWideP40PanelTokens
    projectionMTokens := promptWideP40Tokens cfg
    requestCapacityTokens := promptWideP40RequestCapacityTokens cfg
    routePassCount := 1
    fp8PhysicalLaunchesPerRequest := 1040
    fp8TensorRoleHitsPerRequest := 1040
    nvfp4PhysicalLaunchesPerRequest := 128
    authenticatedArtifactCount := 128
    authenticatedSourceCount := 192
    streamKSliceCount := 1
    packedOperandsRetainedToRegisterDecode := true
    roleSpecificTacticsRequired := true
    shapeSpecificGateUpRequired := true
    shapeSpecificDownRequired := true
    requestTimeRepackForbidden := true
    requestTimeTacticSelectionForbidden := true
    internalMSegmentationForbidden := true
    productionAccuracyRequired := true
    approximateNumericsForbidden := true
    mtpForbidden := true
    cublasltForbidden := true }

def buildVllmMarlinParitySchedule (cfg : BuildConfig) (panelCount : ℕ) :
    PrefillP40VllmMarlinParitySchedulePlan :=
  { enabled := true
    inputPreparationPanelCountPerLayer := panelCount
    promptCorePhaseCountPerLayer := 1
    segmentedMlpPhaseCountPerLayer := 1
    panelTokenCount := promptWideP40PanelTokens
    projectionMTokens := promptWideP40Tokens cfg
    requestCapacityTokens := promptWideP40RequestCapacityTokens cfg
    routePassCount := 1
    fp8PhysicalLaunchesPerRequest := 1040
    fp8TensorRoleHitsPerRequest := 1040
    gateUpSegmentsPerLayer := 40
    downSegmentsPerLayer := 40
    nvfp4PhysicalLaunchesPerRequest := 5120
    gateUpLogicalRoleHitsPerRequest := 64
    downLogicalRoleHitsPerRequest := 64
    standaloneSiluLaunchesPerLayer := 1
    standaloneResidualLaunchesPerLayer := 1
    lockClearOperationsPerRequest := 1
    fullM1024SegmentsPerProjection := 39
    tailM64SegmentsPerProjection := 1
    gateUpTailOutputTiles := 136
    gateUpTailSplitOutputTiles := 8
    downTailOutputTiles := 20
    downTailSplitOutputTiles := 12
    fullSegmentMTokens := 1024
    tailSegmentMTokens := 64
    gateUpInputFeatures := 5120
    mergedGateUpOutputFeatures := 34816
    gateOutputFeatures := 17408
    upOutputFeatures := 17408
    downInputFeatures := 17408
    downOutputFeatures := 5120
    authenticatedArtifactCount := 128
    authenticatedSourceCount := 192
    independentCanonicalMarlinSidecarsRequired := true
    canonicalTokenMajorGateThenUpRowsRequired := true
    independentActivatedBufferRequired := true
    bf16ProjectionPublicationRequired := true
    internalMSegmentationRequired := true
    m64TailIsFinalSegmentRequired := true
    m1024SegmentsFullKRequired := true
    m64TailSplitKRequired := true
    m64TailLocksRequired := true
    m64TailZeroInitializedLocksRequired := true
    m64TailFp32ReductionWorkspaceRequired := true
    m64TailInKernelGlobalReductionRequired := true
    requestTimeRepackForbidden := true
    requestTimeTacticSelectionForbidden := true
    productionAccuracyRequired := true
    approximateNumericsForbidden := true
    mtpForbidden := true
    cublasltForbidden := true }

def planFor (cfg : BuildConfig) (options : PrefillExecutionPlanOptions) (finalPosition : ℕ) :
    PrefillExecutionPlan :=
  let tactic := options.mlpScheduleTactic
  let panelCount := panelCountFor tactic options.promptTokenCount
  { firstPosition := options.firstPosition
    promptTokenCount := options.promptTokenCount
    finalPosition := finalPosition
    panels := (buildPanels tactic panelCount 0 options.firstPosition options.promptTokenCount).1
    panelCount := panelCount
    layers := buildLayers panelCount
    mlpSchedule := buildMlpSchedule cfg options panelCount
    wholeCoreSchedule :=
      if tactic = .promptWideP40WholeCore then
        buildWholeCoreSchedule cfg options.promptTokenCount panelCount else {}
    projectionResetSchedule :=
      if tactic = .promptWideP40ProjectionReset then
        buildProjectionResetSchedule cfg panelCount else {}
    packedProjectionSchedule :=
      if tactic = .promptWideP40PackedProjection then
        buildPackedProjectionSchedule cfg panelCount else {}
    packedNvfp4V2Schedule :=
      if tactic = .promptWideP40PackedNvfp4V2 then
        buildPackedNvfp4V2Schedule cfg panelCount else {}
    vllmMarlinParitySchedule :=
      if tactic = .promptWideP40VllmMarlinParity then
        buildVllmMarlinParitySchedule cfg panelCount else {}
    finalCommit := ⟨options.firstPosition, finalPosition, 1⟩
    operatorBindingsComplete := false }

def rejectedTacticPrompt (cfg : BuildConfig) (options : PrefillExecutionPlanOptions) : Bool :=
  let wholeCore := decide (options.mlpScheduleTactic = .promptWideP40WholeCore)
  decide (options.mlpScheduleTactic ≠ .perOperatorPanel) &&
    (decide (options.firstPosition ≠ 0) ||
      (if wholeCore then !wholeCorePromptTokensAdmitted cfg options.promptTokenCount
        else decide (options.promptTokenCount ≠ layerWideMlpP40Tokens cfg)) ||
      (!wholeCore && decide (options.promptTokenCount % layerWideMlpAlignmentTokens ≠ 0)))

def buildUnboundLayerMajorPrefillExecutionPlan (cfg : BuildConfig)
    (options : PrefillExecutionPlanOptions) :
    Except PrefillExecutionPlanError PrefillExecutionPlan :=
  let tactic := options.mlpScheduleTactic
  if options.promptTokenCount = 0 ∨ options.maxSequenceLength = 0 ∨
      maximumSequenceTokens < options.maxSequenceLength ∨
      supportedMlpScheduleTactic cfg tactic = false then .error .invalidArgument
  else if rejectedTacticPrompt cfg options then .error .invalidArgument
  else if tactic.fixedP40Geometry ∧
      options.maxSequenceLength ≠ promptWideP40RequestCapacityTokens cfg then
    .error .invalidArgument
  else match checkedAdd options.firstPosition options.promptTokenCount with
    | none => .error .arithmeticOverflow
    | some finalPosition =>
      if options.maxSequenceLength < finalPosition ∨ maximumSequenceTokens < finalPosition then
        .error .capacityExceeded
      else
        let panelCount := panelCountFor tactic options.promptTokenCount
        if panelCount = 0 ∨ maximumPanelCount < panelCount then .error .invalidTopology
        else
          let plan := planFor cfg options finalPosition
          let built :=
            buildPanels tactic panelCount 0 options.firstPosition options.promptTokenCount
          if built.2.2 ≠ 0 ∨ built.2.1 ≠ finalPosition ∨ validPlanTopology cfg plan = false then
            .error .invalidTopology
          else .ok plan

lemma build_ok {cfg : BuildConfig} {options : PrefillExecutionPlanOptions}
    {plan : PrefillExecutionPlan}
    (h : buildUnboundLayerMajorPrefillExecutionPlan cfg options = .ok plan) :
    ∃ finalPosition, checkedAdd options.firstPosition options.promptTokenCount =
        some finalPosition ∧ finalPosition ≤ options.maxSequenceLength ∧
      plan = planFor cfg options finalPosition ∧ validPlanTopology cfg plan = true := by
  simp only [buildUnboundLayerMajorPrefillExecutionPlan, guard_ok] at h
  obtain ⟨_, _, _, h⟩ := h
  cases hadd : checkedAdd options.firstPosition options.promptTokenCount with
  | none => simp only [hadd, reduceCtorEq] at h
  | some finalPosition =>
    simp only [hadd, guard_ok] at h
    obtain ⟨hcapacity, _, hvalid, h⟩ := h
    obtain rfl := Except.ok.inj h
    push Not at hcapacity hvalid
    exact ⟨finalPosition, rfl, hcapacity.1, rfl, by simpa using hvalid.2.2⟩

lemma build_valid {cfg : BuildConfig} {options : PrefillExecutionPlanOptions}
    {plan : PrefillExecutionPlan}
    (h : buildUnboundLayerMajorPrefillExecutionPlan cfg options = .ok plan) :
    validPlanTopology cfg plan = true := by
  obtain ⟨_, _, _, _, hv⟩ := build_ok h
  exact hv

end Qwen3xOrin.Prefill
