import Qwen3xOrin.Engine.PrefillWitness
import Qwen3xOrin.Runner.Steps

/-! The whole-request prefill of a runner: one call executes the plan and stages its result, a
second one reads the logits, a third one commits. -/

namespace Qwen3xOrin.Runner

open Library Request Prefill
open Engine (ReferenceWholeRequestPrefillResult)
open Generation hiding maximumRequestPrefillChunkSize Outcome

variable {F : Type} (cfg : BuildConfig)

inductive LayerMajorPrefillProjectionTactic
  | exactSegmentedC512
  | segmentedMarlinOperatorPanel
  | nativeQuantizedLargeMOperatorPanel
  | nativeNvfp4TrueLargeMOperatorPanel
  | nativeNvfp4G2D2LargeMOperatorPanel
  | nativeNvfp4PersistentP40LayerWideMlp
  | nativePromptWideP40WholeCore
  | nativePromptWideP40ProjectionReset
  | nativePromptWideP40PackedProjection
  | nativePromptWideP40PackedNvfp4V2
  | nativePromptWideP40VllmMarlinParity
  deriving DecidableEq, Repr

inductive LayerMajorPrefillFullAttentionTactic
  | exactSegmentedC512
  | nativeGroupQ64Panel
  | nativeGroupQ128V4Panel
  | nativeFlashInferExactPanel
  | nativeFlashInferExactWholePrompt
  deriving DecidableEq, Repr

inductive LayerMajorLayerExecutor
  | compatibilitySegments
  | operatorPanel
  deriving DecidableEq, Repr

structure WholeRequestTactics where
  executor : LayerMajorLayerExecutor
  projection : LayerMajorPrefillProjectionTactic
  fullAttention : LayerMajorPrefillFullAttentionTactic
  deriving DecidableEq, Repr

structure ReferenceWholeRequestPrefillOptions where
  measureTiming : Bool := false
  cancellationProbe : Bool := false
  cancellationContext : Bool := false
  deriving DecidableEq, Repr

-- `layers` is the first failure of the layer loop: a host check, an enqueue, an event of the
-- submission window or a probe that asked to stop. Each of them is the same exit.
structure WholeRequestAnswers (F : Type) where
  cancelled : Bool := false
  layers : Option ReferenceRunnerStatus := none
  written : ArenaBytes
  finalNorm : ℤ := 0
  synchronize : ℤ := 0
  cancelledAfterLayers : Bool := false
  parityWitnessValid : Bool := true
  receipts : ℕ → Receipt
  panelPasses : ℕ → PrefillRouteEvidence
  requestPass : PrefillRouteEvidence
  counters : ReferenceWholeRequestPrefillResult F
  elapsed : F
  drainMain : ℤ := 0
  drainAuxiliary : ℤ := 0

section Contract

variable (plan : PrefillExecutionPlan) (profile : RequestMemoryProfile) (maxSequenceLength : ℕ)
  (tactics : WholeRequestTactics)

-- The prompt-wide schedule that a projection tactic stands for.
def promptWideSchedule :
    LayerMajorPrefillProjectionTactic → Option LayerMajorPrefillMlpScheduleTactic
  | .nativePromptWideP40WholeCore => some .promptWideP40WholeCore
  | .nativePromptWideP40ProjectionReset => some .promptWideP40ProjectionReset
  | .nativePromptWideP40PackedProjection => some .promptWideP40PackedProjection
  | .nativePromptWideP40PackedNvfp4V2 => some .promptWideP40PackedNvfp4V2
  | .nativePromptWideP40VllmMarlinParity => some .promptWideP40VllmMarlinParity
  | _ => none

def isPromptWide (tactic : LayerMajorPrefillMlpScheduleTactic) : Bool :=
  match tactic with
  | .perOperatorPanel | .layerWideP40ExactFullM => false
  | _ => true

def anyPromptWideP40WholeCoreIdentity : Bool :=
  decide (profile = .layerMajorP40WholeCore) ||
    (promptWideSchedule tactics.projection).isSome ||
    decide (tactics.fullAttention = .nativeFlashInferExactWholePrompt) || isPromptWide plan.tactic

def promptWidePanel (index : ℕ) : PrefillOperatorPanel :=
  let first := index * promptWideP40PanelTokens
  let count := min 8000 (plan.promptTokenCount - first)
  ⟨index, first, count, first + count⟩

-- The fields of the schedule are the ones its validity asks for.
def validPromptWideP40WholeCoreRunnerContract : Bool :=
  match promptWideSchedule tactics.projection with
  | none => false
  | some schedule =>
    supportedMlpScheduleTactic cfg schedule && decide (profile = .layerMajorP40WholeCore) &&
    decide (tactics.executor = .operatorPanel) &&
    decide (tactics.fullAttention = .nativeFlashInferExactWholePrompt) &&
    decide (maxSequenceLength = promptWideP40RequestCapacityTokens cfg) &&
    validPlanTopology cfg plan && decide (plan.firstPosition = 0) &&
    (if schedule = .promptWideP40WholeCore then
      wholeCorePromptTokensAdmitted cfg plan.promptTokenCount
    else decide (plan.promptTokenCount = promptWideP40Tokens cfg)) &&
    decide (plan.finalPosition = plan.promptTokenCount) &&
    decide (plan.panelCount = (plan.promptTokenCount + 7999) / 8000) &&
    decide (plan.tactic = schedule) &&
    (List.range plan.panelCount).all fun index =>
      decide (plan.panel index = promptWidePanel plan index)

def memoryProfileRefused (views : Option LayerMajorRequestViews) : Bool :=
  let promptWide :=
    validPromptWideP40WholeCoreRunnerContract cfg plan profile maxSequenceLength tactics
  views.isNone ||
    decide (anyPromptWideP40WholeCoreIdentity plan profile tactics ≠ promptWide) ||
    (!promptWide && decide (profile ≠ .layerMajorC8192)) ||
    decide (tactics.executor = .compatibilitySegments ∧
      (tactics.projection ≠ .exactSegmentedC512 ∨
        tactics.fullAttention ≠ .exactSegmentedC512))

def topologyRefused (currentPosition tokenCount : ℕ) : Bool :=
  !validPlanTopology cfg plan ||
    decide (plan.firstPosition ≠ currentPosition ∨ plan.promptTokenCount ≠ tokenCount ∨
      maxSequenceLength < plan.finalPosition ∨
      plan.finalCommit.expectedInitialSequenceLength ≠ currentPosition ∨
      plan.finalCommit.committedSequenceLength ≠ plan.finalPosition)

def layerWideP40Mlp : Bool := plan.tactic = .layerWideP40ExactFullM

def mlpScheduleRefused : Bool :=
  decide (layerWideP40Mlp plan ≠
    decide (tactics.projection = .nativeNvfp4PersistentP40LayerWideMlp)) ||
  (layerWideP40Mlp plan &&
    decide (tactics.executor ≠ .operatorPanel ∨ plan.firstPosition ≠ 0 ∨
      plan.promptTokenCount ≠ layerWideMlpP40Tokens cfg ∨ plan.panelCount ≠ 5 ∨
      maxSequenceLength ≠ promptWideP40RequestCapacityTokens cfg))

def isNvfp4TrueLargeMPrefillPanelTokens (tokenCount : ℕ) : Bool :=
  decide (tokenCount = operatorPanelTokens ∨ tokenCount = 7712)

def trueLargeMRefused : Bool :=
  decide (tactics.projection = .nativeNvfp4TrueLargeMOperatorPanel ∨
    tactics.projection = .nativeNvfp4G2D2LargeMOperatorPanel ∨
    tactics.projection = .nativeNvfp4PersistentP40LayerWideMlp) &&
  (List.range plan.panelCount).any fun index =>
    !isNvfp4TrueLargeMPrefillPanelTokens (plan.panel index).tokenCount

def canLaunchFlashInferExactPanel (firstPosition tokenCount : ℕ) : Bool :=
  decide (2 ≤ tokenCount ∧ tokenCount ≤ 8192 ∧ firstPosition ≤ 262144 - tokenCount)

def flashInferRefused : Bool :=
  decide (tactics.fullAttention = .nativeFlashInferExactPanel) &&
  (List.range plan.panelCount).any fun index =>
    decide ((plan.panel index).tokenCount < prefillPhysicalSegmentM32Tokens) ||
      !canLaunchFlashInferExactPanel (plan.panel index).firstPosition (plan.panel index).tokenCount

def typedViewsRefused (views : Option LayerMajorRequestViews) : Bool :=
  match views with
  | none => true
  | some views =>
    views.promptResidual.isNone || !views.promptResidualShapeValid ||
      decide (views.promptResidualRows < plan.finalPosition) ||
      views.finalHidden.isNone || !views.finalHiddenShapeValid

end Contract

section Execute

-- A failed drain replaces any status but one of CUDA's own.
def drainStatus (drain : ℤ) (operation : String) (status : ReferenceRunnerStatus) :
    ReferenceRunnerStatus :=
  if drain ≠ 0 ∧ status.error ≠ .cudaFailure then
    { status with error := .cudaFailure, operation := some operation, cudaError := drain }
  else status

def drained (answers : WholeRequestAnswers F) (runner : ReferenceRunner)
    (status : ReferenceRunnerStatus) : ReferenceRunnerStatus :=
  let status :=
    drainStatus answers.drainMain "whole_request_prefill_failure_drain_main" status
  if runner.setup.auxiliaryStream then
    drainStatus answers.drainAuxiliary "whole_request_prefill_failure_drain_auxiliary" status
  else status

def failWholeRequestPrefillIf (answers : WholeRequestAnswers F) (status : ReferenceRunnerStatus)
    (c : ReferenceRunner → Prop) [DecidablePred c] : RunnerM Unit :=
  ExceptT.mk fun runner =>
    if c runner then (.error (drained answers runner status), runner.failed) else (.ok (), runner)

def failWholeRequestPrefillOn {α : Type} (answers : WholeRequestAnswers F) :
    Except ReferenceRunnerStatus α → RunnerM α
  | .error status =>
    ExceptT.mk fun runner => (.error (drained answers runner status), runner.failed)
  | .ok a => pure a

def errorOf : Option ReferenceRunnerStatus → Except ReferenceRunnerStatus Unit
  | some status => .error status
  | none => .ok ()

-- The projection tactic and the schedule of the plan agree once the checks have passed.
def progressCalls (plan : PrefillExecutionPlan) (receipts : ℕ → Receipt) (layer : ℕ) :
    List ProgressCall :=
  match plan.tactic with
  | .promptWideP40VllmMarlinParity => [.vllmMarlinParity layer (receipts layer)]
  | _ => layerCalls plan layer

def progressOperation : ProgressCall → String
  | .vllmMarlinParity _ _ => "whole_request_prefill_vllm_marlin_parity_progress"
  | .packedNvfp4V2 _ => "whole_request_prefill_packed_nvfp4_v2_progress"
  | .packedProjection _ => "whole_request_prefill_packed_projection_progress"
  | .projectionReset _ => "whole_request_prefill_projection_reset_progress"
  | .fill _ _ => "whole_request_prefill_whole_core_fill_progress"
  | .promptCore _ => "whole_request_prefill_whole_core_prompt_core_progress"
  | .drain _ _ => "whole_request_prefill_whole_core_drain_progress"
  | .persistentMlp _ => "whole_request_prefill_whole_core_mlp_progress"
  | .layerWideMlp _ => "whole_request_prefill_layer_wide_mlp_progress"
  | _ => "whole_request_prefill_progress"

def advanceProgress (plan : PrefillExecutionPlan) :
    List ProgressCall → PrefillExecutionProgress →
      Except ReferenceRunnerStatus PrefillExecutionProgress
  | [], progress => .ok progress
  | call :: calls, progress =>
    match call.apply cfg plan progress with
    | (error, progress) =>
      if error ≠ .none then .error (runnerStatus .invalidStepOptions (progressOperation call))
      else advanceProgress plan calls progress

def completeProgress (plan : PrefillExecutionPlan) (receipts : ℕ → Receipt) :
    Except ReferenceRunnerStatus PrefillExecutionProgress := do
  let progress ← advanceProgress cfg plan
    ((List.range layerCount).flatMap (progressCalls plan receipts))
    (makePrefillExecutionProgress plan)
  match markPrefillFinalHiddenReady cfg plan progress with
  | (error, progress) =>
    if error ≠ .none ∨ prefillFinalCommitReady cfg plan progress = false then
      .error (runnerStatus .invalidStepOptions "whole_request_prefill_final_progress")
    else .ok progress

def mergeRoute : PrefillRouteEvidence → List PrefillRouteEvidence → Option PrefillRouteEvidence
  | evidence, [] => some evidence
  | evidence, layerPass :: layerPasses =>
    match commitPrefillRouteLayerPass evidence layerPass with
    | (true, evidence) => mergeRoute evidence layerPasses
    | (false, _) => none

def routePasses (plan : PrefillExecutionPlan) (answers : WholeRequestAnswers F) :
    List PrefillRouteEvidence :=
  if layerWideP40Mlp plan || isPromptWide plan.tactic then [answers.requestPass]
  else (List.range plan.panelCount).map answers.panelPasses

def routeOpen (evidence : PrefillRouteEvidence) : Bool :=
  decide (evidence.error = .none) && !evidence.complete && evidence.requestActive

def stagedRoute (evidence : PrefillRouteEvidence) (layerPasses : List PrefillRouteEvidence) :
    Except ReferenceRunnerStatus PrefillRouteEvidence :=
  match mergeRoute evidence layerPasses with
  | none => .error (runnerStatus .routeEvidenceFailure "whole_request_prefill_route_merge")
  | some staged =>
    if routeOpen staged then .ok staged
    else .error (runnerStatus .routeEvidenceFailure "whole_request_prefill_route_forbidden")

def wholeRequestStage (plan : PrefillExecutionPlan) (inputTokenIds : List ℕ)
    (finalHidden : Option ℕ) (progress : PrefillExecutionProgress)
    (route : PrefillRouteEvidence) : WholeRequestPrefillStage where
  phase := .awaitingLogits
  expectedInitialSequenceLength := plan.firstPosition
  committedSequenceLength := plan.finalPosition
  finalPosition := plan.finalPosition - 1
  finalInputTokenId := inputTokenIds.getLastD 0
  promptTokenCount := inputTokenIds.length
  logicalPanelCount := plan.panelCount
  mlpPhaseCountPerLayer := plan.mlpSchedule.mlpPhaseSubmissionCountPerLayer
  finalNormalizedHidden := finalHidden
  completedUncommittedProgress := progress
  routeEvidenceAfterCommit := route

variable (inputTokenIds : List ℕ) (plan : PrefillExecutionPlan) (tactics : WholeRequestTactics)
  (options : ReferenceWholeRequestPrefillOptions) (answers : WholeRequestAnswers F)

def wholeRequestEntry : RunnerM Unit := do
  failWholeRequestPrefillIf answers
    (runnerStatus .invalidStepOptions "whole_request_prefill_stage_active")
    (·.wholeRequestPrefillActive)
  update ReferenceRunner.dropRetained
  refuseIf (runnerStatus .poisoned "whole_request_prefill") (·.poisoned)
  update ReferenceRunner.markUncertain
  failWholeRequestPrefillIf answers
    (runnerStatus .invalidRequestState "whole_request_prefill_memory_profile")
    (fun runner => memoryProfileRefused cfg plan runner.memoryProfile runner.maxSequenceLength
      tactics runner.setup.layerMajorRequestViews)
  failWholeRequestPrefillIf answers
    (runnerStatus .invalidStepOptions "whole_request_prefill_cancellation_options")
    (fun runner => (!options.cancellationProbe ∧ options.cancellationContext) ∨
      (options.cancellationProbe ∧ !runner.setup.submissionEvents))
  failWholeRequestPrefillIf answers
    (runnerStatus .tokenOutOfRange "whole_request_prefill_tokens")
    (fun _ => inputTokenIds.length = 0 ∨ maximumSequenceTokens < inputTokenIds.length)
  failWholeRequestPrefillIf answers
    (runnerStatus .tokenOutOfRange "whole_request_prefill_token")
    (fun _ => ∃ token ∈ inputTokenIds, referenceVocabularySize ≤ token)
  failWholeRequestPrefillIf answers
    (runnerStatus .invalidStepOptions "whole_request_prefill_topology")
    (fun runner => topologyRefused cfg plan runner.maxSequenceLength runner.currentPosition
      inputTokenIds.length)
  failWholeRequestPrefillIf answers
    (runnerStatus .invalidStepOptions "whole_request_prefill_mlp_schedule")
    (fun runner => mlpScheduleRefused cfg plan runner.maxSequenceLength tactics)
  failWholeRequestPrefillIf answers
    (runnerStatus .invalidStepOptions "whole_request_prefill_nvfp4_true_large_m_panel_geometry")
    (fun _ => trueLargeMRefused plan tactics)
  failWholeRequestPrefillIf answers
    (runnerStatus .invalidStepOptions "whole_request_prefill_flashinfer_panel_geometry")
    (fun _ => flashInferRefused plan tactics)
  failWholeRequestPrefillIf answers
    (runnerStatus .routeEvidenceFailure "whole_request_prefill_route_state")
    (fun runner => !routeOpen runner.prefillRouteEvidence)
  failWholeRequestPrefillIf answers
    (runnerStatus .invalidRequestState "whole_request_prefill_typed_views")
    (fun runner => typedViewsRefused plan runner.setup.layerMajorRequestViews)
  failWholeRequestPrefillIf answers (runnerStatus .cancelled "whole_request_prefill_cancelled")
    (fun _ => options.cancellationProbe ∧ answers.cancelled)

-- The layers run, are drained and probed; nothing of the runner but the arena changes.
def executeLayers : RunnerM Unit := do
  update fun runner => { runner with stage := { phase := .executing } }
  writeRows plan.firstPosition inputTokenIds.length answers.written
  failWholeRequestPrefillOn answers (errorOf answers.layers)
  failWholeRequestPrefillOn answers (errorOf
    (checkedStatus answers.finalNorm false .cudaFailure "whole_request_prefill_final_norm"))
  failWholeRequestPrefillOn answers (errorOf
    (checkedStatus answers.synchronize false .cudaFailure "whole_request_prefill_synchronize"))
  failWholeRequestPrefillIf answers
    { runnerStatus .cancelled "whole_request_prefill_cancelled" with
      layer := some (layerCount - 1)
      retiredPrefillQuanta := answers.counters.submissionWindowRetirements }
    (fun _ => options.cancellationProbe ∧ answers.cancelledAfterLayers)
  failWholeRequestPrefillIf answers
    (runnerStatus .routeEvidenceFailure "whole_request_prefill_vllm_marlin_parity_witness")
    (fun _ => tactics.projection = .nativePromptWideP40VllmMarlinParity ∧
      !answers.parityWitnessValid)

def prefillWholeRequestLayerMajorCore : RunnerM (ReferenceWholeRequestPrefillResult F) := do
  wholeRequestEntry cfg inputTokenIds plan tactics options answers
  executeLayers inputTokenIds plan tactics options answers
  let progress ← failWholeRequestPrefillOn answers (completeProgress cfg plan answers.receipts)
  let evidence ← examine ReferenceRunner.prefillRouteEvidence
  let route ← failWholeRequestPrefillOn answers
    (stagedRoute evidence (routePasses plan answers))
  update fun runner =>
    { runner with
      stage := wholeRequestStage plan inputTokenIds
        (runner.setup.layerMajorRequestViews.bind (·.finalHidden)) progress route }
  pure
    { answers.counters with
      firstPosition := plan.firstPosition
      finalPosition := plan.finalPosition
      promptTokenCount := inputTokenIds.length
      logicalPanelCount := plan.panelCount
      boundedSubmissionWindow := options.cancellationProbe
      mlpScheduleTactic := plan.tactic
      progress := progress
      timing := timingOf options.measureTiming answers.elapsed }

end Execute

section Finish

def stageProgressComplete (stage : WholeRequestPrefillStage) : Bool :=
  let progress := stage.completedUncommittedProgress
  decide (progress.nextLayer = layerCount ∧ progress.nextPanel = 0 ∧
    progress.finalHiddenReady = true ∧ progress.prefillStateCommitted = false) &&
  (List.range layerCount).all fun layer =>
    decide (progress.completedPanels layer = stage.logicalPanelCount ∧
      progress.completedMlpPhases layer = stage.mlpPhaseCountPerLayer) &&
    if layerTypeForIndex layer = .fullAttention then
      decide (progress.kvVisibleEnd layer = stage.committedSequenceLength ∧
        progress.gdnAdvancedEnd layer = stage.expectedInitialSequenceLength)
    else
      decide (progress.gdnAdvancedEnd layer = stage.committedSequenceLength ∧
        progress.kvVisibleEnd layer = stage.expectedInitialSequenceLength)

def expectedFinalHidden (runner : ReferenceRunner) : Option ℕ :=
  runner.setup.layerMajorRequestViews.bind (·.finalHidden)

def finalHiddenRefused (stage : WholeRequestPrefillStage) (runner : ReferenceRunner) : Bool :=
  stage.finalNormalizedHidden.isNone ||
    decide (stage.finalNormalizedHidden ≠ expectedFinalHidden runner)

def finishWholeRequestCompatibilityCore (inputTokenId : ℕ) (options : ReferenceStepOptions)
    (answers : StepAnswers F) : RunnerM (ReferenceStepResult F) := do
  failStepIf (runnerStatus .invalidStepOptions "whole_request_prefill_finalizer_stage")
    (·.stage.phase ≠ .awaitingLogits)
  let stage ← examine ReferenceRunner.stage
  update fun runner => { runner with stage := { runner.stage with phase := .executing } }
  failStepIf (runnerStatus .poisoned "finish_whole_request_from_uncommitted_final_hidden")
    (·.poisoned)
  failStepIf (runnerStatus .invalidStepOptions "whole_request_prefill_logits_options")
    (fun _ => options.computeLogits = false ∨ options.captureTrace)
  failStepIf (runnerStatus .invalidStepOptions "whole_request_prefill_final_hidden_contract")
    (fun runner => stage.expectedInitialSequenceLength ≠ runner.currentPosition ∨
      stage.committedSequenceLength = 0 ∨
      stage.finalPosition + 1 ≠ stage.committedSequenceLength ∨
      stage.finalInputTokenId ≠ inputTokenId ∨ finalHiddenRefused stage runner ∨
      !stageProgressComplete stage)
  writeScratch answers.written
  failStepOn answers.enqueue
  failStepOn (checkedStatus answers.synchronize false .cudaFailure
    "whole_request_prefill_logits_synchronize")
  let setup ← examine ReferenceRunner.setup
  let result ← failStepOnError (readLogits "whole_request_prefill_" setup options answers.logits
    { position := stage.finalPosition, inputTokenId := inputTokenId })
  update fun runner => { runner with stage := { stage with phase := .awaitingCommit } }
  pure { result with timing := timingOf options.measureTiming answers.elapsed }

end Finish

section Commit

def wholeRequestCommitMemoryProfile (tactic : LayerMajorPrefillMlpScheduleTactic) :
    RequestMemoryProfile :=
  if isPromptWide tactic then .layerMajorP40WholeCore else .layerMajorC8192

def sameEntries (left right : ℕ → ℕ) : Bool :=
  (List.range layerCount).all fun layer => decide (left layer = right layer)

def samePrefillExecutionProgress (left right : PrefillExecutionProgress) : Bool :=
  sameEntries left.kvVisibleEnd right.kvVisibleEnd &&
    sameEntries left.gdnAdvancedEnd right.gdnAdvancedEnd &&
    sameEntries left.completedPanels right.completedPanels &&
    sameEntries left.completedMlpPhases right.completedMlpPhases &&
    sameEntries left.completedFillPanels right.completedFillPanels &&
    sameEntries left.completedPromptCorePhases right.completedPromptCorePhases &&
    sameEntries left.completedDrainPanels right.completedDrainPanels &&
    decide (left.nextLayer = right.nextLayer ∧ left.nextPanel = right.nextPanel ∧
      left.finalHiddenReady = right.finalHiddenReady ∧
      left.prefillStateCommitted = right.prefillStateCommitted)

variable (plan : PrefillExecutionPlan) (progress : PrefillExecutionProgress)

def commitContractRefused (stage : WholeRequestPrefillStage) (runner : ReferenceRunner) : Bool :=
  decide (runner.memoryProfile ≠ wholeRequestCommitMemoryProfile plan.tactic) ||
    !validPlanTopology cfg plan ||
    decide (plan.firstPosition ≠ stage.expectedInitialSequenceLength ∨
      plan.finalPosition ≠ stage.committedSequenceLength ∨
      plan.promptTokenCount ≠ stage.promptTokenCount ∨
      plan.panelCount ≠ stage.logicalPanelCount ∨
      plan.mlpSchedule.mlpPhaseSubmissionCountPerLayer ≠ stage.mlpPhaseCountPerLayer ∨
      plan.finalPosition = 0 ∨ plan.finalPosition - 1 ≠ stage.finalPosition ∨
      runner.currentPosition ≠ stage.expectedInitialSequenceLength) ||
    finalHiddenRefused stage runner ||
    !samePrefillExecutionProgress progress stage.completedUncommittedProgress ||
    !prefillFinalCommitReady cfg plan progress

def commitRouteRefused (stage : WholeRequestPrefillStage) (runner : ReferenceRunner) : Bool :=
  let expected := prefillRouteLayerPassCount stage.logicalPanelCount plan.tactic
  !routeOpen runner.prefillRouteEvidence || !routeOpen stage.routeEvidenceAfterCommit ||
    decide (uint64Max - expected < runner.prefillRouteEvidence.completedLayerPasses) ||
    decide (stage.routeEvidenceAfterCommit.completedLayerPasses ≠
      runner.prefillRouteEvidence.completedLayerPasses + expected)

def publishStage (stage : WholeRequestPrefillStage) : RunnerM Unit :=
  ExceptT.mk fun runner =>
    match runner.state.publishSequenceLength stage.expectedInitialSequenceLength
        stage.committedSequenceLength with
    | (status, state) =>
      if status ≠ {} then
        (.error (runnerStatus .stateCommitFailure "whole_request_prefill_commit_publish"
          status.cudaError), runner.failed)
      else
        (.ok (), { runner with
          state := state
          prefillRouteEvidence := stage.routeEvidenceAfterCommit
          stage := {} })

def commitWholeRequestLayerMajorCompatibilityCore : RunnerM Unit := do
  failStepIf (runnerStatus .invalidStepOptions "whole_request_prefill_commit_stage")
    (·.stage.phase ≠ .awaitingCommit)
  let stage ← examine ReferenceRunner.stage
  failStepIf (runnerStatus .poisoned "whole_request_prefill_commit") (·.poisoned)
  failStepIf (runnerStatus .invalidStepOptions "whole_request_prefill_commit_contract")
    (fun runner => commitContractRefused cfg plan progress stage runner)
  failStepIf (runnerStatus .routeEvidenceFailure "whole_request_prefill_commit_route")
    (fun runner => commitRouteRefused plan stage runner)
  failStepIf (runnerStatus .routeEvidenceFailure "whole_request_prefill_commit_forbidden_route")
    (fun _ => ∃ role : RoleIndex, (stage.routeEvidenceAfterCommit.operators role).forbiddenHits ≠ 0)
  failStepIf
    (runnerStatus .routeEvidenceFailure "whole_request_prefill_commit_forbidden_boundary")
    (fun _ => ∃ boundary : BoundaryIndex,
      stage.routeEvidenceAfterCommit.forbiddenBoundaryHits boundary ≠ 0)
  failStepIf (runnerStatus .invalidStepOptions "whole_request_prefill_commit_progress")
    (fun _ => (publishPrefillStateCommitted cfg plan progress).1 ≠ .none ∨
      (publishPrefillStateCommitted cfg plan progress).2.prefillStateCommitted = false)
  publishStage stage

end Commit

end Qwen3xOrin.Runner
