import Qwen3xOrin.Prefill.Geometry

namespace Qwen3xOrin.Prefill

inductive LayerType
  | invalid
  | linearAttention
  | fullAttention
  deriving DecidableEq, Repr

inductive PrefillProgressDomain
  | gdnState
  | kvCache
  deriving DecidableEq, Repr

inductive LayerMajorPrefillMlpScheduleTactic
  | perOperatorPanel
  | layerWideP40ExactFullM
  | promptWideP40WholeCore
  | promptWideP40ProjectionReset
  | promptWideP40PackedProjection
  | promptWideP40PackedNvfp4V2
  | promptWideP40VllmMarlinParity
  deriving DecidableEq, Repr

inductive PrefillExecutionPlanError
  | none
  | invalidArgument
  | arithmeticOverflow
  | capacityExceeded
  | invalidTopology
  deriving DecidableEq, Repr

structure PrefillExecutionPlanOptions where
  firstPosition : ℕ := 0
  promptTokenCount : ℕ := 0
  maxSequenceLength : ℕ := maximumSequenceTokens
  mlpScheduleTactic : LayerMajorPrefillMlpScheduleTactic := .perOperatorPanel
  deriving DecidableEq, Repr

structure PrefillOperatorPanel where
  ordinal : ℕ := 0
  firstPosition : ℕ := 0
  tokenCount : ℕ := 0
  endPosition : ℕ := 0
  deriving DecidableEq, Repr

structure PrefillLayerExecution where
  layerIndex : ℕ := 0
  layerType : LayerType := .invalid
  progressDomain : PrefillProgressDomain := .gdnState
  panelCount : ℕ := 0
  deriving DecidableEq, Repr

structure PrefillFinalCommitPlan where
  expectedInitialSequenceLength : ℕ := 0
  committedSequenceLength : ℕ := 0
  commitCount : ℕ := 0
  deriving DecidableEq, Repr

structure PrefillMlpSchedulePlan where
  tactic : LayerMajorPrefillMlpScheduleTactic := .perOperatorPanel
  operatorPanelPhaseCountPerLayer : ℕ := 0
  mlpPhaseSubmissionCountPerLayer : ℕ := 0
  maximumMPerMlpSubmission : ℕ := 0
  requiredGateUpProjectionLaunchesPerLayer : ℕ := 0
  maximumStandaloneSiluLaunchesPerLayer : ℕ := 0
  requiredDownProjectionLaunchesPerLayer : ℕ := 0
  minimumTotalKernelLaunchesPerLayer : ℕ := 0
  maximumTotalKernelLaunchesPerLayer : ℕ := 0
  waitsForAllOperatorPanels : Bool := false
  postAttentionResidualCompletedPanelwise : Bool := true
  postAttentionNormIsPromptWide : Bool := false
  exactFullMBindingRequired : Bool := false
  internalMSegmentationForbidden : Bool := false
  deriving DecidableEq, Repr

structure PrefillWholeCoreSchedulePlan where
  enabled : Bool := false
  fillPanelPhaseCountPerLayer : ℕ := 0
  promptCorePhaseCountPerLayer : ℕ := 0
  drainPanelPhaseCountPerLayer : ℕ := 0
  persistentMlpPhaseCountPerLayer : ℕ := 0
  panelTokenCount : ℕ := 0
  promptCoreTokenCount : ℕ := 0
  requestCapacityTokens : ℕ := 0
  routePassCount : ℕ := 0
  fp8SingleLaunchPerProjectionRequired : Bool := false
  bf16AbPromptWideRequired : Bool := false
  gdnPromptWideRequired : Bool := false
  flashinferWholePromptRequired : Bool := false
  deriving DecidableEq, Repr

structure PrefillP40ProjectionResetSchedulePlan where
  enabled : Bool := false
  inputPreparationPanelCountPerLayer : ℕ := 0
  promptCorePhaseCountPerLayer : ℕ := 0
  persistentMlpPhaseCountPerLayer : ℕ := 0
  panelTokenCount : ℕ := 0
  projectionMTokens : ℕ := 0
  requestCapacityTokens : ℕ := 0
  routePassCount : ℕ := 0
  fp8GroupedInputLaunchesPerLayer : ℕ := 0
  fp8OutputLaunchesPerLayer : ℕ := 0
  fp8PhysicalLaunchesPerRequest : ℕ := 0
  fp8TensorRoleHitsPerRequest : ℕ := 0
  nvfp4GateUpLaunchesPerLayer : ℕ := 0
  nvfp4DownLaunchesPerLayer : ℕ := 0
  nvfp4PhysicalLaunchesPerRequest : ℕ := 0
  fp8GroupedFullPromptInputRequired : Bool := false
  fp8FullPromptOutputRequired : Bool := false
  nvfp4FullPromptRequired : Bool := false
  internalMSegmentationForbidden : Bool := false
  productionAccuracyRequired : Bool := false
  approximateNumericsForbidden : Bool := false
  mtpForbidden : Bool := false
  cublasltForbidden : Bool := false
  deriving DecidableEq, Repr

structure PrefillP40PackedProjectionSchedulePlan where
  enabled : Bool := false
  inputPreparationPanelCountPerLayer : ℕ := 0
  promptCorePhaseCountPerLayer : ℕ := 0
  packedMlpPhaseCountPerLayer : ℕ := 0
  panelTokenCount : ℕ := 0
  projectionMTokens : ℕ := 0
  requestCapacityTokens : ℕ := 0
  routePassCount : ℕ := 0
  fp8PhysicalLaunchesPerRequest : ℕ := 0
  fp8TensorRoleHitsPerRequest : ℕ := 0
  nvfp4PhysicalLaunchesPerRequest : ℕ := 0
  authenticatedArtifactCount : ℕ := 0
  authenticatedSourceCount : ℕ := 0
  streamKSliceCount : ℕ := 0
  packedOperandsRetainedToRegisterDecode : Bool := false
  roleSpecificTacticsRequired : Bool := false
  requestTimeRepackForbidden : Bool := false
  requestTimeTacticSelectionForbidden : Bool := false
  internalMSegmentationForbidden : Bool := false
  productionAccuracyRequired : Bool := false
  approximateNumericsForbidden : Bool := false
  mtpForbidden : Bool := false
  cublasltForbidden : Bool := false
  deriving DecidableEq, Repr

structure PrefillP40PackedNvfp4V2SchedulePlan where
  enabled : Bool := false
  inputPreparationPanelCountPerLayer : ℕ := 0
  promptCorePhaseCountPerLayer : ℕ := 0
  packedMlpPhaseCountPerLayer : ℕ := 0
  panelTokenCount : ℕ := 0
  projectionMTokens : ℕ := 0
  requestCapacityTokens : ℕ := 0
  routePassCount : ℕ := 0
  fp8PhysicalLaunchesPerRequest : ℕ := 0
  fp8TensorRoleHitsPerRequest : ℕ := 0
  nvfp4PhysicalLaunchesPerRequest : ℕ := 0
  authenticatedArtifactCount : ℕ := 0
  authenticatedSourceCount : ℕ := 0
  streamKSliceCount : ℕ := 0
  packedOperandsRetainedToRegisterDecode : Bool := false
  roleSpecificTacticsRequired : Bool := false
  shapeSpecificGateUpRequired : Bool := false
  shapeSpecificDownRequired : Bool := false
  requestTimeRepackForbidden : Bool := false
  requestTimeTacticSelectionForbidden : Bool := false
  internalMSegmentationForbidden : Bool := false
  productionAccuracyRequired : Bool := false
  approximateNumericsForbidden : Bool := false
  mtpForbidden : Bool := false
  cublasltForbidden : Bool := false
  deriving DecidableEq, Repr

structure PrefillP40VllmMarlinParitySchedulePlan where
  enabled : Bool := false
  inputPreparationPanelCountPerLayer : ℕ := 0
  promptCorePhaseCountPerLayer : ℕ := 0
  segmentedMlpPhaseCountPerLayer : ℕ := 0
  panelTokenCount : ℕ := 0
  projectionMTokens : ℕ := 0
  requestCapacityTokens : ℕ := 0
  routePassCount : ℕ := 0
  fp8PhysicalLaunchesPerRequest : ℕ := 0
  fp8TensorRoleHitsPerRequest : ℕ := 0
  gateUpSegmentsPerLayer : ℕ := 0
  downSegmentsPerLayer : ℕ := 0
  nvfp4PhysicalLaunchesPerRequest : ℕ := 0
  gateUpLogicalRoleHitsPerRequest : ℕ := 0
  downLogicalRoleHitsPerRequest : ℕ := 0
  standaloneSiluLaunchesPerLayer : ℕ := 0
  standaloneResidualLaunchesPerLayer : ℕ := 0
  lockClearOperationsPerRequest : ℕ := 0
  fullM1024SegmentsPerProjection : ℕ := 0
  tailM64SegmentsPerProjection : ℕ := 0
  gateUpTailOutputTiles : ℕ := 0
  gateUpTailSplitOutputTiles : ℕ := 0
  downTailOutputTiles : ℕ := 0
  downTailSplitOutputTiles : ℕ := 0
  fullSegmentMTokens : ℕ := 0
  tailSegmentMTokens : ℕ := 0
  gateUpInputFeatures : ℕ := 0
  mergedGateUpOutputFeatures : ℕ := 0
  gateOutputFeatures : ℕ := 0
  upOutputFeatures : ℕ := 0
  downInputFeatures : ℕ := 0
  downOutputFeatures : ℕ := 0
  authenticatedArtifactCount : ℕ := 0
  authenticatedSourceCount : ℕ := 0
  independentCanonicalMarlinSidecarsRequired : Bool := false
  canonicalTokenMajorGateThenUpRowsRequired : Bool := false
  independentActivatedBufferRequired : Bool := false
  bf16ProjectionPublicationRequired : Bool := false
  internalMSegmentationRequired : Bool := false
  m64TailIsFinalSegmentRequired : Bool := false
  m1024SegmentsFullKRequired : Bool := false
  m64TailSplitKRequired : Bool := false
  m64TailLocksRequired : Bool := false
  m64TailZeroInitializedLocksRequired : Bool := false
  m64TailFp32ReductionWorkspaceRequired : Bool := false
  m64TailInKernelGlobalReductionRequired : Bool := false
  requestTimeRepackForbidden : Bool := false
  requestTimeTacticSelectionForbidden : Bool := false
  productionAccuracyRequired : Bool := false
  approximateNumericsForbidden : Bool := false
  mtpForbidden : Bool := false
  cublasltForbidden : Bool := false
  deriving DecidableEq

structure PrefillP40VllmMarlinParityLayerCompletionReceipt where
  layerIndex : ℕ := 0
  requestLockClearOperations : ℕ := 0
  gateUpFullM1024Launches : ℕ := 0
  gateUpSplitM64Launches : ℕ := 0
  standaloneSiluLaunches : ℕ := 0
  downFullM1024Launches : ℕ := 0
  downSplitM64Launches : ℕ := 0
  standaloneResidualLaunches : ℕ := 0
  retainedPromptCoreComplete : Bool := false
  canonicalGateThenUpBf16Published : Bool := false
  activatedBf16Published : Bool := false
  downBf16Published : Bool := false
  stableLockOwnerBound : Bool := false
  lockOwnerAliasExclusionProved : Bool := false
  orderedLockProtocolCompleted : Bool := false
  requestStreamCompletionObserved : Bool := false
  deriving DecidableEq, Repr

structure PrefillExecutionPlan where
  legacyPublicTileLimit : ℕ := legacyPublicTileTokens
  operatorPanelCapacity : ℕ := operatorPanelTokens
  firstPosition : ℕ := 0
  promptTokenCount : ℕ := 0
  finalPosition : ℕ := 0
  -- The fixed array of 32 panels; entries past the end are the default one.
  panels : List PrefillOperatorPanel := []
  panelCount : ℕ := 0
  layers : List PrefillLayerExecution := []
  mlpSchedule : PrefillMlpSchedulePlan := {}
  wholeCoreSchedule : PrefillWholeCoreSchedulePlan := {}
  projectionResetSchedule : PrefillP40ProjectionResetSchedulePlan := {}
  packedProjectionSchedule : PrefillP40PackedProjectionSchedulePlan := {}
  packedNvfp4V2Schedule : PrefillP40PackedNvfp4V2SchedulePlan := {}
  vllmMarlinParitySchedule : PrefillP40VllmMarlinParitySchedulePlan := {}
  finalCommit : PrefillFinalCommitPlan := {}
  operatorBindingsComplete : Bool := false
  deriving DecidableEq

def PrefillExecutionPlan.panel (plan : PrefillExecutionPlan) (i : ℕ) : PrefillOperatorPanel :=
  plan.panels.getD i {}

def PrefillExecutionPlan.layer (plan : PrefillExecutionPlan) (i : ℕ) : PrefillLayerExecution :=
  plan.layers.getD i {}

def PrefillExecutionPlan.tactic (plan : PrefillExecutionPlan) :
    LayerMajorPrefillMlpScheduleTactic :=
  plan.mlpSchedule.tactic

def PrefillExecutionPlan.executable (plan : PrefillExecutionPlan) : Bool :=
  plan.operatorBindingsComplete

def LayerMajorPrefillMlpScheduleTactic.fixedP40Geometry :
    LayerMajorPrefillMlpScheduleTactic → Bool
  | .perOperatorPanel | .layerWideP40ExactFullM => false
  | _ => true

def layerTypeForIndex (layerIndex : ℕ) : LayerType :=
  if (layerIndex + 1) % 4 = 0 then .fullAttention else .linearAttention

def progressDomainForType : LayerType → PrefillProgressDomain
  | .fullAttention => .kvCache
  | _ => .gdnState

end Qwen3xOrin.Prefill
