import Qwen3xOrin.Prefill.PlanTypes

/-! Validation of a plan. Every schedule record is compared field by field in the source;
each comparison lists all fields of its record, so it is equality of records here. -/

namespace Qwen3xOrin.Prefill

def supportedMlpScheduleTactic (cfg : BuildConfig) : LayerMajorPrefillMlpScheduleTactic → Bool
  | .perOperatorPanel => true
  | .layerWideP40ExactFullM => cfg.layerWideP40Mlp
  | .promptWideP40WholeCore => cfg.promptWideP40WholeCore
  | .promptWideP40ProjectionReset => cfg.promptWideP40ProjectionReset
  | .promptWideP40PackedProjection => cfg.promptWideP40PackedProjection
  | .promptWideP40PackedNvfp4V2 => cfg.promptWideP40PackedNvfp4V2
  | .promptWideP40VllmMarlinParity => cfg.promptWideP40VllmMarlinParity

def validWholeCoreSchedule (cfg : BuildConfig) (plan : PrefillExecutionPlan) : Bool :=
  if plan.tactic ≠ .promptWideP40WholeCore then decide (plan.wholeCoreSchedule = {})
  else
    decide (plan.firstPosition = 0) && wholeCorePromptTokensAdmitted cfg plan.promptTokenCount &&
    decide (plan.finalPosition = plan.promptTokenCount) &&
    decide (plan.panelCount = (plan.promptTokenCount + 7999) / 8000) &&
    decide (plan.wholeCoreSchedule =
      { enabled := true
        fillPanelPhaseCountPerLayer := plan.panelCount
        promptCorePhaseCountPerLayer := 1
        drainPanelPhaseCountPerLayer := plan.panelCount
        persistentMlpPhaseCountPerLayer := 1
        panelTokenCount := promptWideP40PanelTokens
        promptCoreTokenCount := plan.promptTokenCount
        requestCapacityTokens := promptWideP40RequestCapacityTokens cfg
        routePassCount := 1
        fp8SingleLaunchPerProjectionRequired := true
        bf16AbPromptWideRequired := true
        gdnPromptWideRequired := true
        flashinferWholePromptRequired := true })

def exactP40Prompt (cfg : BuildConfig) (plan : PrefillExecutionPlan) : Bool :=
  decide (plan.firstPosition = 0 ∧ plan.promptTokenCount = promptWideP40Tokens cfg ∧
    plan.finalPosition = promptWideP40Tokens cfg ∧ plan.panelCount = promptWideP40PanelCount)

def validProjectionResetSchedule (cfg : BuildConfig) (plan : PrefillExecutionPlan) : Bool :=
  if plan.tactic ≠ .promptWideP40ProjectionReset then decide (plan.projectionResetSchedule = {})
  else
    exactP40Prompt cfg plan &&
    decide (plan.projectionResetSchedule =
      { enabled := true
        inputPreparationPanelCountPerLayer := plan.panelCount
        promptCorePhaseCountPerLayer := 1
        persistentMlpPhaseCountPerLayer := 1
        panelTokenCount := promptWideP40PanelTokens
        projectionMTokens := promptWideP40Tokens cfg
        requestCapacityTokens := promptWideP40RequestCapacityTokens cfg
        routePassCount := 1
        fp8GroupedInputLaunchesPerLayer := 1
        fp8OutputLaunchesPerLayer := 1
        fp8PhysicalLaunchesPerRequest := 128
        fp8TensorRoleHitsPerRequest := 208
        nvfp4GateUpLaunchesPerLayer := 1
        nvfp4DownLaunchesPerLayer := 1
        nvfp4PhysicalLaunchesPerRequest := 128
        fp8GroupedFullPromptInputRequired := true
        fp8FullPromptOutputRequired := true
        nvfp4FullPromptRequired := true
        internalMSegmentationForbidden := true
        productionAccuracyRequired := true
        approximateNumericsForbidden := true
        mtpForbidden := true
        cublasltForbidden := true })

def validPackedProjectionSchedule (cfg : BuildConfig) (plan : PrefillExecutionPlan) : Bool :=
  if plan.tactic ≠ .promptWideP40PackedProjection then decide (plan.packedProjectionSchedule = {})
  else
    exactP40Prompt cfg plan &&
    decide (plan.packedProjectionSchedule =
      { enabled := true
        inputPreparationPanelCountPerLayer := plan.panelCount
        promptCorePhaseCountPerLayer := 1
        packedMlpPhaseCountPerLayer := 1
        panelTokenCount := promptWideP40PanelTokens
        projectionMTokens := promptWideP40Tokens cfg
        requestCapacityTokens := promptWideP40RequestCapacityTokens cfg
        routePassCount := 1
        fp8PhysicalLaunchesPerRequest := 128
        fp8TensorRoleHitsPerRequest := 208
        nvfp4PhysicalLaunchesPerRequest := 128
        authenticatedArtifactCount := 256
        authenticatedSourceCount := 400
        streamKSliceCount := 1
        packedOperandsRetainedToRegisterDecode := true
        roleSpecificTacticsRequired := true
        requestTimeRepackForbidden := true
        requestTimeTacticSelectionForbidden := true
        internalMSegmentationForbidden := true
        productionAccuracyRequired := true
        approximateNumericsForbidden := true
        mtpForbidden := true
        cublasltForbidden := true })

def validPackedNvfp4V2Schedule (cfg : BuildConfig) (plan : PrefillExecutionPlan) : Bool :=
  if plan.tactic ≠ .promptWideP40PackedNvfp4V2 then decide (plan.packedNvfp4V2Schedule = {})
  else
    exactP40Prompt cfg plan &&
    decide (plan.packedNvfp4V2Schedule =
      { enabled := true
        inputPreparationPanelCountPerLayer := plan.panelCount
        promptCorePhaseCountPerLayer := 1
        packedMlpPhaseCountPerLayer := 1
        panelTokenCount := promptWideP40PanelTokens
        projectionMTokens := promptWideP40Tokens cfg
        requestCapacityTokens := promptWideP40RequestCapacityTokens cfg
        routePassCount := 1
        fp8PhysicalLaunchesPerRequest := 1040
        fp8TensorRoleHitsPerRequest := 1040
        nvfp4PhysicalLaunchesPerRequest := 128
        authenticatedArtifactCount := 128
        authenticatedSourceCount := 192
        streamKSliceCount := 1
        packedOperandsRetainedToRegisterDecode := true
        roleSpecificTacticsRequired := true
        shapeSpecificGateUpRequired := true
        shapeSpecificDownRequired := true
        requestTimeRepackForbidden := true
        requestTimeTacticSelectionForbidden := true
        internalMSegmentationForbidden := true
        productionAccuracyRequired := true
        approximateNumericsForbidden := true
        mtpForbidden := true
        cublasltForbidden := true })

def validVllmMarlinParitySchedule (cfg : BuildConfig) (plan : PrefillExecutionPlan) : Bool :=
  if plan.tactic ≠ .promptWideP40VllmMarlinParity then decide (plan.vllmMarlinParitySchedule = {})
  else
    exactP40Prompt cfg plan &&
    decide (plan.vllmMarlinParitySchedule =
      { enabled := true
        inputPreparationPanelCountPerLayer := plan.panelCount
        promptCorePhaseCountPerLayer := 1
        segmentedMlpPhaseCountPerLayer := 1
        panelTokenCount := promptWideP40PanelTokens
        projectionMTokens := promptWideP40Tokens cfg
        requestCapacityTokens := promptWideP40RequestCapacityTokens cfg
        routePassCount := 1
        fp8PhysicalLaunchesPerRequest := 1040
        fp8TensorRoleHitsPerRequest := 1040
        gateUpSegmentsPerLayer := 40
        downSegmentsPerLayer := 40
        nvfp4PhysicalLaunchesPerRequest := 5120
        gateUpLogicalRoleHitsPerRequest := 64
        downLogicalRoleHitsPerRequest := 64
        standaloneSiluLaunchesPerLayer := 1
        standaloneResidualLaunchesPerLayer := 1
        lockClearOperationsPerRequest := 1
        fullM1024SegmentsPerProjection := 39
        tailM64SegmentsPerProjection := 1
        gateUpTailOutputTiles := 136
        gateUpTailSplitOutputTiles := 8
        downTailOutputTiles := 20
        downTailSplitOutputTiles := 12
        fullSegmentMTokens := 1024
        tailSegmentMTokens := 64
        gateUpInputFeatures := 5120
        mergedGateUpOutputFeatures := 34816
        gateOutputFeatures := 17408
        upOutputFeatures := 17408
        downInputFeatures := 17408
        downOutputFeatures := 5120
        authenticatedArtifactCount := 128
        authenticatedSourceCount := 192
        independentCanonicalMarlinSidecarsRequired := true
        canonicalTokenMajorGateThenUpRowsRequired := true
        independentActivatedBufferRequired := true
        bf16ProjectionPublicationRequired := true
        internalMSegmentationRequired := true
        m64TailIsFinalSegmentRequired := true
        m1024SegmentsFullKRequired := true
        m64TailSplitKRequired := true
        m64TailLocksRequired := true
        m64TailZeroInitializedLocksRequired := true
        m64TailFp32ReductionWorkspaceRequired := true
        m64TailInKernelGlobalReductionRequired := true
        requestTimeRepackForbidden := true
        requestTimeTacticSelectionForbidden := true
        productionAccuracyRequired := true
        approximateNumericsForbidden := true
        mtpForbidden := true
        cublasltForbidden := true })

def validMlpSchedule (cfg : BuildConfig) (plan : PrefillExecutionPlan) : Bool :=
  let schedule := plan.mlpSchedule
  let wholeCore := decide (schedule.tactic = .promptWideP40WholeCore)
  let fusedFullPrompt := wholeCore || decide (schedule.tactic = .promptWideP40ProjectionReset) ||
    decide (schedule.tactic = .promptWideP40PackedProjection) ||
    decide (schedule.tactic = .promptWideP40PackedNvfp4V2)
  if !supportedMlpScheduleTactic cfg schedule.tactic ||
      decide (schedule.operatorPanelPhaseCountPerLayer ≠ plan.panelCount) ||
      !schedule.postAttentionResidualCompletedPanelwise then false
  else if schedule.tactic = .perOperatorPanel then
    decide (schedule =
      { tactic := .perOperatorPanel
        operatorPanelPhaseCountPerLayer := schedule.operatorPanelPhaseCountPerLayer
        mlpPhaseSubmissionCountPerLayer := plan.panelCount
        maximumMPerMlpSubmission := operatorPanelTokens
        postAttentionResidualCompletedPanelwise :=
          schedule.postAttentionResidualCompletedPanelwise })
  else if schedule.tactic = .promptWideP40VllmMarlinParity then
    decide (plan.firstPosition = 0 ∧ plan.promptTokenCount = layerWideMlpP40Tokens cfg ∧
      plan.finalPosition = layerWideMlpP40Tokens cfg ∧
      plan.promptTokenCount % layerWideMlpAlignmentTokens = 0 ∧
      schedule.mlpPhaseSubmissionCountPerLayer = 1 ∧
      schedule.maximumMPerMlpSubmission = layerWideMlpP40Tokens cfg ∧
      schedule.requiredGateUpProjectionLaunchesPerLayer = 40 ∧
      schedule.maximumStandaloneSiluLaunchesPerLayer = 1 ∧
      schedule.requiredDownProjectionLaunchesPerLayer = 40 ∧
      schedule.minimumTotalKernelLaunchesPerLayer = 40 + 40 + 1 + 1 ∧
      schedule.maximumTotalKernelLaunchesPerLayer =
        schedule.minimumTotalKernelLaunchesPerLayer) &&
    schedule.waitsForAllOperatorPanels && schedule.postAttentionNormIsPromptWide &&
    schedule.exactFullMBindingRequired && !schedule.internalMSegmentationForbidden
  else
    (decide (schedule.tactic = .layerWideP40ExactFullM) || fusedFullPrompt) &&
    decide (plan.firstPosition = 0) &&
    (if wholeCore then wholeCorePromptTokensAdmitted cfg plan.promptTokenCount
      else decide (plan.promptTokenCount = layerWideMlpP40Tokens cfg)) &&
    decide (plan.finalPosition = plan.promptTokenCount) &&
    (wholeCore || decide (plan.promptTokenCount % layerWideMlpAlignmentTokens = 0)) &&
    decide (schedule.mlpPhaseSubmissionCountPerLayer = 1 ∧
      schedule.maximumMPerMlpSubmission = layerWideMlpP40Tokens cfg ∧
      schedule.requiredGateUpProjectionLaunchesPerLayer = 1 ∧
      schedule.maximumStandaloneSiluLaunchesPerLayer = (if fusedFullPrompt then 0 else 1) ∧
      schedule.requiredDownProjectionLaunchesPerLayer =
        (if wholeCore then wholeCoreMlpLaunchCount cfg plan.promptTokenCount - 1 else 1) ∧
      schedule.minimumTotalKernelLaunchesPerLayer =
        (if wholeCore then wholeCoreMlpLaunchCount cfg plan.promptTokenCount else 2) ∧
      schedule.maximumTotalKernelLaunchesPerLayer =
        (if wholeCore then wholeCoreMlpLaunchCount cfg plan.promptTokenCount
          else if fusedFullPrompt then 2 else 3)) &&
    schedule.waitsForAllOperatorPanels && schedule.postAttentionNormIsPromptWide &&
    schedule.exactFullMBindingRequired &&
    (schedule.internalMSegmentationForbidden ==
      !(wholeCore && decide (plan.promptTokenCount % 64 ≠ 0)))

def panelTokenCountFor (tactic : LayerMajorPrefillMlpScheduleTactic) (remaining : ℕ) : ℕ :=
  if tactic.fixedP40Geometry then (if remaining < 8000 then remaining else 8000)
  else nextLayerMajorPrefillOperatorPanelTokenCount remaining

def panelCountFor (tactic : LayerMajorPrefillMlpScheduleTactic) (promptTokenCount : ℕ) : ℕ :=
  if tactic.fixedP40Geometry then (promptTokenCount + 7999) / 8000
  else (promptTokenCount + operatorPanelTokens - 1) / operatorPanelTokens

def validPanels (plan : PrefillExecutionPlan) : ℕ → ℕ → ℕ → ℕ → Bool
  | 0, _, nextPosition, remaining => decide (remaining = 0 ∧ nextPosition = plan.finalPosition)
  | n + 1, i, nextPosition, remaining =>
    let panel := plan.panel i
    decide (panel.ordinal = i ∧ panel.firstPosition = nextPosition ∧
      panel.tokenCount = panelTokenCountFor plan.tactic remaining ∧
      panel.firstPosition < panel.endPosition ∧
      panel.endPosition - panel.firstPosition = panel.tokenCount) &&
    validPanels plan n (i + 1) panel.endPosition (remaining - panel.tokenCount)

def validLayer (plan : PrefillExecutionPlan) (i : ℕ) : Bool :=
  decide (plan.layer i =
    { layerIndex := i
      layerType := layerTypeForIndex i
      progressDomain := progressDomainForType (layerTypeForIndex i)
      panelCount := plan.panelCount })

def validPlanTopology (cfg : BuildConfig) (plan : PrefillExecutionPlan) : Bool :=
  decide (plan.legacyPublicTileLimit = legacyPublicTileTokens ∧
    plan.operatorPanelCapacity = operatorPanelTokens ∧ plan.promptTokenCount ≠ 0 ∧
    plan.panelCount ≠ 0 ∧ plan.panelCount ≤ maximumPanelCount ∧
    plan.promptTokenCount ≤ maximumSequenceTokens ∧ plan.firstPosition < plan.finalPosition ∧
    plan.finalPosition ≤ maximumSequenceTokens ∧
    plan.finalPosition - plan.firstPosition = plan.promptTokenCount ∧
    plan.finalCommit.expectedInitialSequenceLength = plan.firstPosition ∧
    plan.finalCommit.committedSequenceLength = plan.finalPosition ∧
    plan.finalCommit.commitCount = 1) &&
  !plan.operatorBindingsComplete && validMlpSchedule cfg plan &&
  validWholeCoreSchedule cfg plan && validProjectionResetSchedule cfg plan &&
  validPackedProjectionSchedule cfg plan && validPackedNvfp4V2Schedule cfg plan &&
  validVllmMarlinParitySchedule cfg plan &&
  decide (plan.panelCount = panelCountFor plan.tactic plan.promptTokenCount) &&
  validPanels plan plan.panelCount 0 plan.firstPosition plan.promptTokenCount &&
  (List.range layerCount).all (validLayer plan) &&
  decide ((List.range layerCount).countP (fun i => layerTypeForIndex i = .linearAttention) =
    linearLayerCount ∧
    (List.range layerCount).countP (fun i => layerTypeForIndex i = .fullAttention) =
    fullLayerCount)

end Qwen3xOrin.Prefill
