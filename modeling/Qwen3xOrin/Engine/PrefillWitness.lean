import Qwen3xOrin.Generation.Run

/-! What the engine checks of the result the whole-request executor reports. -/

namespace Qwen3xOrin.Engine

open Prefill Generation

-- The receipts are the fields of the packed words, one for each decoder layer.
structure ReferenceWholeRequestPrefillResult (F : Type) where
  firstPosition : ℕ := 0
  finalPosition : ℕ := 0
  promptTokenCount : ℕ := 0
  logicalPanelCount : ℕ := 0
  boundedSubmissionWindow : Bool := false
  submissionWindowRetirements : ℕ := 0
  operatorPanelExecutorHits : ℕ := 0
  mlpScheduleTactic : LayerMajorPrefillMlpScheduleTactic := .perOperatorPanel
  layerWideP40MlpLayerHits : ℕ := 0
  persistentP40Nvfp4GateUpHits : ℕ := 0
  persistentP40Nvfp4DownResidualHits : ℕ := 0
  persistentP40Nvfp4PhysicalLaunches : ℕ := 0
  persistentP40Fp8ProjectionHits : ℕ := 0
  persistentP40Fp8ProjectionBulkHits : ℕ := 0
  persistentP40Fp8ProjectionOraclePartialHits : ℕ := 0
  persistentP40Fp8ProjectionPhysicalLaunches : ℕ := 0
  promptWideP40WholeCoreLayerHits : ℕ := 0
  promptWideP40FillPanelHits : ℕ := 0
  promptWideP40PromptCoreHits : ℕ := 0
  promptWideP40DrainPanelHits : ℕ := 0
  promptWideP40Fp8ProjectionHits : ℕ := 0
  promptWideP40Fp8ProjectionPhysicalLaunches : ℕ := 0
  promptWideP40Bf16AbHits : ℕ := 0
  promptWideP40GdnHits : ℕ := 0
  nativeFlashinferExactWholePromptHits : ℕ := 0
  packedNvfp4V2GateUpHits : ℕ := 0
  packedNvfp4V2DownHits : ℕ := 0
  packedNvfp4V2PhysicalLaunches : ℕ := 0
  vllmMarlinParityGateUpHits : ℕ := 0
  vllmMarlinParityDownHits : ℕ := 0
  vllmMarlinParityPhysicalLaunches : ℕ := 0
  vllmMarlinParityStandaloneSiluLaunches : ℕ := 0
  vllmMarlinParityStandaloneResidualLaunches : ℕ := 0
  vllmMarlinParityLockClearOperations : ℕ := 0
  vllmMarlinParityLayerCompletionReceipts :
    List PrefillP40VllmMarlinParityLayerCompletionReceipt := []
  vllmMarlinParityLayerCompletionReceiptCount : ℕ := 0
  progress : PrefillExecutionProgress := {}
  timing : Option F := none

variable {F : Type} (cfg : BuildConfig) (plan : PrefillExecutionPlan)
  (executed : ReferenceWholeRequestPrefillResult F)

def expectedSubmissionsPerLayer : ℕ :=
  match plan.tactic with
  | .promptWideP40ProjectionReset =>
    2 * plan.panelCount + plan.projectionResetSchedule.promptCorePhaseCountPerLayer +
      plan.projectionResetSchedule.persistentMlpPhaseCountPerLayer
  | .promptWideP40PackedProjection =>
    2 * plan.panelCount + plan.packedProjectionSchedule.promptCorePhaseCountPerLayer +
      plan.packedProjectionSchedule.packedMlpPhaseCountPerLayer
  | .promptWideP40PackedNvfp4V2 =>
    2 * plan.panelCount + plan.packedNvfp4V2Schedule.promptCorePhaseCountPerLayer +
      plan.packedNvfp4V2Schedule.packedMlpPhaseCountPerLayer
  | .promptWideP40VllmMarlinParity =>
    2 * plan.panelCount + plan.vllmMarlinParitySchedule.promptCorePhaseCountPerLayer +
      plan.vllmMarlinParitySchedule.segmentedMlpPhaseCountPerLayer
  | .promptWideP40WholeCore =>
    plan.wholeCoreSchedule.fillPanelPhaseCountPerLayer +
      plan.wholeCoreSchedule.promptCorePhaseCountPerLayer +
      plan.wholeCoreSchedule.drainPanelPhaseCountPerLayer +
      plan.wholeCoreSchedule.persistentMlpPhaseCountPerLayer
  | .perOperatorPanel | .layerWideP40ExactFullM =>
    plan.panelCount +
      (if plan.mlpSchedule.waitsForAllOperatorPanels then
        plan.mlpSchedule.mlpPhaseSubmissionCountPerLayer else 0)

def runnerContract (tokenCount : ℕ) (probed : Bool) : Bool :=
  decide (executed.firstPosition = plan.firstPosition ∧
    executed.finalPosition = plan.finalPosition ∧ executed.promptTokenCount = tokenCount ∧
    executed.logicalPanelCount = plan.panelCount ∧ executed.mlpScheduleTactic = plan.tactic ∧
    executed.boundedSubmissionWindow = probed ∧
    executed.submissionWindowRetirements =
      if executed.boundedSubmissionWindow then
        plan.layers.length * expectedSubmissionsPerLayer plan else 0)

def p40Fp8ProjectionsPerPanel : ℕ := 3 * linearLayerCount + 4 * fullLayerCount

def expectedPromptWideFp8Hits : ℕ :=
  match plan.tactic with
  | .promptWideP40ProjectionReset => plan.projectionResetSchedule.fp8TensorRoleHitsPerRequest
  | .promptWideP40PackedProjection => plan.packedProjectionSchedule.fp8TensorRoleHitsPerRequest
  | .promptWideP40PackedNvfp4V2 => plan.packedNvfp4V2Schedule.fp8TensorRoleHitsPerRequest
  | .promptWideP40VllmMarlinParity => plan.vllmMarlinParitySchedule.fp8TensorRoleHitsPerRequest
  | _ => p40Fp8ProjectionsPerPanel * plan.panelCount

def expectedPromptWideFp8PhysicalLaunches : ℕ :=
  match plan.tactic with
  | .promptWideP40ProjectionReset => plan.projectionResetSchedule.fp8PhysicalLaunchesPerRequest
  | .promptWideP40PackedProjection => plan.packedProjectionSchedule.fp8PhysicalLaunchesPerRequest
  | .promptWideP40PackedNvfp4V2 => plan.packedNvfp4V2Schedule.fp8PhysicalLaunchesPerRequest
  | .promptWideP40VllmMarlinParity => plan.vllmMarlinParitySchedule.fp8PhysicalLaunchesPerRequest
  | _ => expectedPromptWideFp8Hits plan

def bulkPanelCount : ℕ :=
  (List.range plan.panelCount).countP fun i =>
    decide ((plan.panel i).tokenCount = operatorPanelTokens)

def wholeCoreWitnessZero : Bool :=
  decide (executed.promptWideP40WholeCoreLayerHits = 0 ∧
    executed.promptWideP40FillPanelHits = 0 ∧ executed.promptWideP40PromptCoreHits = 0 ∧
    executed.promptWideP40DrainPanelHits = 0 ∧ executed.promptWideP40Fp8ProjectionHits = 0 ∧
    executed.promptWideP40Fp8ProjectionPhysicalLaunches = 0 ∧
    executed.promptWideP40Bf16AbHits = 0 ∧ executed.promptWideP40GdnHits = 0 ∧
    executed.nativeFlashinferExactWholePromptHits = 0)

def persistentP40WitnessZero : Bool :=
  decide (executed.layerWideP40MlpLayerHits = 0 ∧ executed.persistentP40Nvfp4GateUpHits = 0 ∧
    executed.persistentP40Nvfp4DownResidualHits = 0 ∧
    executed.persistentP40Nvfp4PhysicalLaunches = 0 ∧
    executed.persistentP40Fp8ProjectionHits = 0 ∧
    executed.persistentP40Fp8ProjectionBulkHits = 0 ∧
    executed.persistentP40Fp8ProjectionOraclePartialHits = 0 ∧
    executed.persistentP40Fp8ProjectionPhysicalLaunches = 0)

def packedNvfp4V2WitnessValid : Bool :=
  let layers := if plan.tactic = .promptWideP40PackedNvfp4V2 then layerCount else 0
  decide (executed.packedNvfp4V2GateUpHits = layers ∧ executed.packedNvfp4V2DownHits = layers ∧
    executed.packedNvfp4V2PhysicalLaunches = 2 * layers)

def parityReceiptValid (layer : ℕ) : Bool :=
  let receipt := executed.vllmMarlinParityLayerCompletionReceipts.getD layer {}
  decide (receipt.layerIndex = layer ∧
    receipt.requestLockClearOperations = (if layer = 0 then 1 else 0) ∧
    receipt.gateUpFullM1024Launches = 39 ∧ receipt.gateUpSplitM64Launches = 1 ∧
    receipt.standaloneSiluLaunches = 1 ∧ receipt.downFullM1024Launches = 39 ∧
    receipt.downSplitM64Launches = 1 ∧ receipt.standaloneResidualLaunches = 1) &&
    receipt.retainedPromptCoreComplete && receipt.canonicalGateThenUpBf16Published &&
    receipt.activatedBf16Published && receipt.downBf16Published &&
    receipt.stableLockOwnerBound && receipt.lockOwnerAliasExclusionProved &&
    receipt.orderedLockProtocolCompleted && receipt.requestStreamCompletionObserved

def parityReceiptsValid : Bool :=
  decide (executed.vllmMarlinParityLayerCompletionReceiptCount = layerCount) &&
    (List.range layerCount).all (parityReceiptValid executed)

def parityWitnessValid : Bool :=
  if plan.tactic = .promptWideP40VllmMarlinParity then
    let schedule := plan.vllmMarlinParitySchedule
    decide (executed.vllmMarlinParityGateUpHits = schedule.gateUpLogicalRoleHitsPerRequest ∧
      executed.vllmMarlinParityDownHits = schedule.downLogicalRoleHitsPerRequest ∧
      executed.vllmMarlinParityPhysicalLaunches = schedule.nvfp4PhysicalLaunchesPerRequest ∧
      executed.vllmMarlinParityStandaloneSiluLaunches =
        layerCount * schedule.standaloneSiluLaunchesPerLayer ∧
      executed.vllmMarlinParityStandaloneResidualLaunches =
        layerCount * schedule.standaloneResidualLaunchesPerLayer ∧
      executed.vllmMarlinParityLockClearOperations = schedule.lockClearOperationsPerRequest) &&
      parityReceiptsValid executed
  else
    decide (executed.vllmMarlinParityGateUpHits = 0 ∧ executed.vllmMarlinParityDownHits = 0 ∧
      executed.vllmMarlinParityPhysicalLaunches = 0 ∧
      executed.vllmMarlinParityStandaloneSiluLaunches = 0 ∧
      executed.vllmMarlinParityStandaloneResidualLaunches = 0 ∧
      executed.vllmMarlinParityLockClearOperations = 0 ∧
      executed.vllmMarlinParityLayerCompletionReceiptCount = 0)

def promptWideWitness (tokenCount : ℕ) : Bool :=
  let parity := decide (plan.tactic = .promptWideP40VllmMarlinParity)
  let nvfp4Layers := if parity then 0 else layerCount
  decide (executed.operatorPanelExecutorHits = 0 ∧
    executed.layerWideP40MlpLayerHits = layerCount ∧
    executed.persistentP40Nvfp4GateUpHits = nvfp4Layers ∧
    executed.persistentP40Nvfp4DownResidualHits = nvfp4Layers ∧
    executed.persistentP40Nvfp4PhysicalLaunches =
      wholeCoreMlpLaunchCount cfg tokenCount * nvfp4Layers ∧
    executed.persistentP40Fp8ProjectionHits = 0 ∧
    executed.persistentP40Fp8ProjectionBulkHits = 0 ∧
    executed.persistentP40Fp8ProjectionOraclePartialHits = 0 ∧
    executed.persistentP40Fp8ProjectionPhysicalLaunches = 0) &&
  decide (executed.promptWideP40WholeCoreLayerHits = layerCount ∧
    executed.promptWideP40FillPanelHits = layerCount * plan.panelCount ∧
    executed.promptWideP40PromptCoreHits = layerCount ∧
    executed.promptWideP40DrainPanelHits = layerCount * plan.panelCount ∧
    executed.promptWideP40Fp8ProjectionHits = expectedPromptWideFp8Hits plan ∧
    executed.promptWideP40Fp8ProjectionPhysicalLaunches =
      expectedPromptWideFp8PhysicalLaunches plan ∧
    executed.promptWideP40Bf16AbHits = linearLayerCount ∧
    executed.promptWideP40GdnHits = linearLayerCount ∧
    executed.nativeFlashinferExactWholePromptHits = fullLayerCount)

def layerWideWitness : Bool :=
  decide (executed.layerWideP40MlpLayerHits = layerCount ∧
    executed.persistentP40Nvfp4GateUpHits = layerCount ∧
    executed.persistentP40Nvfp4DownResidualHits = layerCount ∧
    executed.persistentP40Nvfp4PhysicalLaunches = 2 * layerCount ∧
    executed.persistentP40Fp8ProjectionHits = p40Fp8ProjectionsPerPanel * plan.panelCount ∧
    executed.persistentP40Fp8ProjectionBulkHits =
      p40Fp8ProjectionsPerPanel * bulkPanelCount plan ∧
    executed.persistentP40Fp8ProjectionOraclePartialHits =
      p40Fp8ProjectionsPerPanel * (plan.panelCount - bulkPanelCount plan))

def validP40Witness (tokenCount : ℕ) : Bool :=
  (match plan.tactic with
    | .perOperatorPanel => persistentP40WitnessZero executed && wholeCoreWitnessZero executed
    | .layerWideP40ExactFullM => wholeCoreWitnessZero executed && layerWideWitness plan executed
    | _ => promptWideWitness cfg plan executed tokenCount) &&
  packedNvfp4V2WitnessValid plan executed && parityWitnessValid plan executed

end Qwen3xOrin.Engine
