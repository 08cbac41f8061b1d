import Qwen3xOrin.Engine.WholeRequest
import Qwen3xOrin.Runner.RouteEvidence
import Qwen3xOrin.Server.Streaming

/-! The engine's request entry: option checks, one run of the generation controller under the
transaction guard, and the publication of its result. -/

namespace Qwen3xOrin.Engine

open Prefill Generation

inductive ReferenceEngineError
  | none
  | invalidArgument
  | capacityExceeded
  | arithmeticOverflow
  | tokenizerFailure
  | runnerStepFailure
  | runnerResetFailure
  | missingLogits
  | missingTiming
  | decodeFailure
  | traceFailure
  | allocationFailure
  | missingPrediction
  | prefillPlanUnavailable
  | cancelled
  deriving DecidableEq, Repr

structure ReferenceEngineDiagnostic where
  code : ReferenceEngineError
  stage : String
  message : String := ""
  runner : Option ReferenceRunnerStatus := none
  retiredPrefillQuanta : ℕ := 0
  deriving DecidableEq, Repr

structure ReferenceGenerateOptions where
  maxNewTokens : ℕ := 16
  captureTrace : Bool := false
  stopTokenId : ℕ := qwen36ImEndTokenId
  prefillChunkSize : ℕ := 512
  logitsMode : ReferenceLogitsMode := .fullStatistics
  prefillExecutionMode : ReferencePrefillExecutionMode := .legacyC512Tiled
  deriving DecidableEq, Repr

structure ReferenceGeneration (F : Type) where
  promptTokenIds : List ℕ
  generatedText : Text.Bytes
  control : GenerationControl F
  prefillRouteEvidence : Runner.PrefillRouteEvidence

inductive GenerateOutcome (F : Type)
  | generation (value : ReferenceGeneration F)
  | failed (diagnostic : ReferenceEngineDiagnostic)
  | propagated

-- The handlers of the request entry, in their order; the last kind has none.
inductive EngineException
  | allocation
  | length
  | standard
  | foreign
  deriving DecidableEq, Repr

structure ReferenceEngine (τ ρ F : Type) where
  executor : PrefillExecutor τ ρ F
  prefillStep : StepFunction τ F
  prefixTile : PrefillTileFunction τ F
  finishPrefillFromRetainedTile : StepFunction τ F
  decodeStep : StepFunction τ F
  committedToken : Option (CommittedTokenFunction τ F) := none
  service : Option (DecodeService τ F) := none
  beginOrdinaryRequest : τ → ReferenceRunnerStatus × τ
  finalizePrefillRouteEvidence : ℕ → τ → Runner.PrefillRouteEvidence × τ
  commitOrdinaryRequestBoundary : τ → ReferenceRunnerStatus × τ
  demoteDecodeGraphCache : τ → τ := id
  observerDecodeError : τ → Option Text.TokenizerError := fun _ => none
  escapedException : τ → EngineException := fun _ => .foreign
  setupException : τ → Option EngineException := fun _ => none
  reportException : τ → Option EngineException := fun _ => none
  publicationException : τ → Option EngineException := fun _ => none
  tokenizer : Text.TokenizerData
  traceEnabled : Bool := false
  layerMajorMemoryProfile : Bool := false
  prefillPlanBound : Bool := false
  prefillChunkCapacity : ℕ := 512
  maxSequenceLength : ℕ := 0
  prefillMlpScheduleTactic : LayerMajorPrefillMlpScheduleTactic := .perOperatorPanel

variable {τ ρ F α : Type}

def onDevice (context : EngineStepContext τ ρ) (answer : α × τ) : α × EngineStepContext τ ρ :=
  (answer.1, { context with device := answer.2 })

def stepOnDevice (step : StepFunction τ F) : StepFunction (EngineStepContext τ ρ) F :=
  fun token options context => onDevice context (step token options context.device)

def tileOnDevice (tile : PrefillTileFunction τ F) :
    PrefillTileFunction (EngineStepContext τ ρ) F :=
  fun tokens options context => onDevice context (tile tokens options context.device)

def observeOnDevice (observe : CommittedTokenFunction τ F) :
    CommittedTokenFunction (EngineStepContext τ ρ) F :=
  fun token index elapsed context => onDevice context (observe token index elapsed context.device)

-- A computation of the controller over the state behind the adapters.
def runOnDevice (m : ControlM τ α) : ControlM (EngineStepContext τ ρ) α :=
  ExceptT.mk fun world =>
    let (result, after) := m.run ⟨world.context.device, world.calls⟩
    (result, ⟨{ world.context with device := after.context }, after.calls⟩)

def runnerDiagnostic (code : ReferenceEngineError) (stage : String)
    (status : ReferenceRunnerStatus) : ReferenceEngineDiagnostic :=
  { code := code
    stage := stage
    runner := some status
    retiredPrefillQuanta := status.retiredPrefillQuanta }

def controlErrorCode (error : GenerationControlError) (status : ReferenceRunnerStatus) :
    ReferenceEngineError :=
  match error with
  | .none => .none
  | .invalidArgument => .invalidArgument
  | .capacityExceeded => .capacityExceeded
  | .arithmeticOverflow => .arithmeticOverflow
  | .runnerFailure =>
    if status.error = .traceUnavailable then .traceFailure
    else if status.error = .allocationFailure then .allocationFailure
    else if status.error = .cancelled then .cancelled
    else .runnerStepFailure
  | .unexpectedStep => .runnerStepFailure
  | .missingLogits => .missingLogits
  | .missingTiming => .missingTiming
  | .allocationFailure => .allocationFailure
  | .missingPrediction => .missingPrediction

def controlDiagnostic (error : GenerationControlError) (status : ReferenceRunnerStatus) :
    ReferenceEngineDiagnostic :=
  if error = .runnerFailure then
    runnerDiagnostic (controlErrorCode error status) "generation_control" status
  else { code := controlErrorCode error status, stage := "generation_control" }

section Entry

variable (cfg : BuildConfig) (engine : ReferenceEngine τ ρ F) (promptTokenIds : List ℕ)
  (options : ReferenceGenerateOptions)

def wholeRequestLayerMajor : Bool :=
  decide (options.prefillExecutionMode = .wholeRequestLayerMajor)

-- Over the state behind the adapters; the engine's own options are these, lifted. The production
-- policy for the final prompt token selects all prompt tokens in whole-request mode alone.
def controlOptions : GenerationControlOptions τ F :=
  { maxNewTokens := options.maxNewTokens
    stopTokenId := options.stopTokenId
    maxSequenceLength := engine.maxSequenceLength
    prefillChunkSize := options.prefillChunkSize
    captureTrace := options.captureTrace
    logitsMode := options.logitsMode
    prefillAllPromptTokens := wholeRequestLayerMajor options
    prefillWholeRequestLayerMajor := wholeRequestLayerMajor options
    prefillMlpScheduleTactic :=
      if wholeRequestLayerMajor options then engine.prefillMlpScheduleTactic
      else .perOperatorPanel
    committedToken := engine.committedToken }

def engineControlOptions : GenerationControlOptions (EngineStepContext τ ρ) F :=
  let options := controlOptions engine options
  { maxNewTokens := options.maxNewTokens
    stopTokenId := options.stopTokenId
    maxSequenceLength := options.maxSequenceLength
    prefillChunkSize := options.prefillChunkSize
    captureTrace := options.captureTrace
    logitsMode := options.logitsMode
    prefillAllPromptTokens := options.prefillAllPromptTokens
    prefillWholeRequestLayerMajor := options.prefillWholeRequestLayerMajor
    prefillMlpScheduleTactic := options.prefillMlpScheduleTactic
    committedToken := options.committedToken.map observeOnDevice }

def enginePrefillPlan : PrefillPlan (EngineStepContext τ ρ) F :=
  let whole := wholeRequestLayerMajor options
  { prefixStep := some (stepOnDevice engine.prefillStep)
    finishPrefill := some (stepOnDevice engine.prefillStep)
    prefixTile := some (tileOnDevice engine.prefixTile)
    finishPrefillFromTile := some (stepOnDevice engine.finishPrefillFromRetainedTile)
    wholeRequest :=
      if whole then some (prefillWholeRequestLayerMajor cfg engine.executor) else none
    finishWholeRequestFromUncommittedRetained :=
      if whole then some (finishWholeRequestFromUncommittedRetained engine.executor) else none
    commitWholeRequest := if whole then some (timedCommit engine.executor) else none }

def engineDecodePlan : DecodePlan (EngineStepContext τ ρ) F :=
  { decodeStep := some (stepOnDevice engine.decodeStep) }

def engineService : Option (DecodeService (EngineStepContext τ ρ) F) :=
  engine.service.map fun service =>
    { start := fun promptTokenIds => runOnDevice (service.start promptTokenIds)
      decode := fun _ control => runOnDevice (service.decode (controlOptions engine options) control) }

def refusal (code : ReferenceEngineError) (stage message : String) :
    Except ReferenceEngineDiagnostic Unit :=
  .error { code := code, stage := stage, message := message }

def serviceOptionsRefused : Bool :=
  engine.service.isSome &&
    (decide (44095 < promptTokenIds.length ∨ 4096 < options.maxNewTokens) ||
      options.captureTrace || decide (options.logitsMode ≠ .predictedTokenOnly) ||
      !wholeRequestLayerMajor options)

def generationOptionsRefused : Bool :=
  decide (promptTokenIds = [] ∨ options.maxNewTokens = 0 ∨ options.prefillChunkSize = 0 ∨
    maximumRequestPrefillChunkSize < options.prefillChunkSize ∨
    referenceVocabularySize ≤ options.stopTokenId)

def wholeRequestOptionsRefused : Bool :=
  wholeRequestLayerMajor options &&
    (options.captureTrace ||
      decide (options.prefillChunkSize ≠ maximumRequestPrefillChunkSize) ||
      !engine.layerMajorMemoryProfile)

def checkCapacity : Except ReferenceEngineDiagnostic Unit :=
  match checkedRequiredSteps promptTokenIds.length options.maxNewTokens with
  | none =>
    refusal .arithmeticOverflow "request_capacity"
      "prompt plus requested output overflows the sequence length"
  | some requiredSteps =>
    if engine.maxSequenceLength < requiredSteps then
      refusal .capacityExceeded "request_capacity"
        "prompt tokens plus requested output exceed the configured sequence capacity"
    else .ok ()

def checkGenerateOptions : Except ReferenceEngineDiagnostic Unit :=
  if serviceOptionsRefused engine promptTokenIds options then
    refusal .invalidArgument "mtp_admission"
      "MTP admission requires P+O-1<=44095, O<=4096, whole-core and prediction-only"
  else if generationOptionsRefused promptTokenIds options then
    refusal .invalidArgument "generation_options"
      ("prompt tokens must be non-empty, max_new_tokens must be positive, " ++
        "prefill_chunk_size must be in [1,512], and stop_token_id must be in " ++
        "the pinned vocabulary; observer context requires an observer")
  else if promptTokenIds.any (fun token => decide (referenceVocabularySize ≤ token)) then
    refusal .invalidArgument "prompt_token_ids"
      "prompt contains an id outside the pinned vocabulary"
  else if options.captureTrace && !engine.traceEnabled then
    refusal .invalidArgument "generation_options"
      "capture_trace requires an engine created with enable_trace=true"
  else if wholeRequestOptionsRefused engine options then
    refusal .invalidArgument "whole_request_prefill_options"
      ("whole-request Prefill requires the isolated layer-major arena, " ++
        "the fixed C512 compatibility workspace, and trace disabled")
  else if !wholeRequestLayerMajor options && engine.executor.cancellationProbe.isSome then
    refusal .invalidArgument "prefill_cancellation_probe"
      ("the bounded Prefill cancellation probe is available only for the " ++
        "whole-request layer-major route")
  else if wholeRequestLayerMajor options && !engine.prefillPlanBound then
    refusal .prefillPlanUnavailable "prefill_plan_unavailable"
      ("whole-request Prefill was not provisioned and sealed when this " ++
        "engine was created")
  else if !options.captureTrace &&
      decide (engine.prefillChunkCapacity < options.prefillChunkSize) then
    refusal .invalidArgument "generation_options"
      "requested prefill chunk exceeds the engine workspace capacity"
  else checkCapacity engine promptTokenIds options

def routeEvidenceAccepted (evidence : Runner.PrefillRouteEvidence) : Bool :=
  evidence.complete && evidence.valid && !evidence.requestActive &&
    decide (evidence.error = .none ∧
      evidence.completedLayerPasses = evidence.expectedLayerPasses)

def closeRequest (generation : ReferenceGeneration F) (device : τ) :
    Except EngineException (GenerateOutcome F) × τ :=
  if routeEvidenceAccepted generation.prefillRouteEvidence = false then
    (.ok (.failed
      { code := .runnerStepFailure
        stage := "prefill_route_evidence"
        message := "runner did not publish a complete valid Prefill route witness" }), device)
  else if generation.control.stopReason = .cancelled then (.ok (.generation generation), device)
  else
    let (status, device) := engine.commitOrdinaryRequestBoundary device
    if status.ok = false then
      (.ok (.failed (runnerDiagnostic .runnerStepFailure "request_reuse_boundary" status)), device)
    else (.ok (.generation generation), device)

def publish (control : GenerationControl F) (device : τ) :
    Except EngineException (GenerateOutcome F) × τ :=
  match engine.observerDecodeError device with
  | some error =>
    (.ok (.failed
      { code := .decodeFailure, stage := "token_observer_decode", message := error.message }),
      device)
  | none =>
    match engine.publicationException device with
    | some exception => (.error exception, device)
    | none =>
      let textTokenCount := Server.generatedTextTokenCount control.generatedTokenIds
        control.stopReason options.stopTokenId
      match Text.decode engine.tokenizer (control.generatedTokenIds.take textTokenCount) {} with
      | .error error =>
        (.ok (.failed
          { code := .decodeFailure, stage := "generated_decode", message := error.message }),
          device)
      | .ok text =>
        let (evidence, device) :=
          engine.finalizePrefillRouteEvidence control.prefillRouteLayerPassCount device
        closeRequest engine
          { promptTokenIds := promptTokenIds
            generatedText := text
            control := control
            prefillRouteEvidence := evidence } device

-- How the body leaves the guard's scope.
structure GuardedExit (τ ρ F : Type) where
  outcome : Except EngineException (GenerateOutcome F)
  rollbackAttempted : Bool
  context : EngineStepContext τ ρ

-- A diagnostic is built from host strings, which may throw.
def report (diagnostic : ReferenceEngineDiagnostic) (device : τ) :
    Except EngineException (GenerateOutcome F) :=
  match engine.reportException device with
  | some exception => .error exception
  | none => .ok (.failed diagnostic)

def afterStop (stop : Stop) (context : EngineStepContext τ ρ) : GuardedExit τ ρ F :=
  let (status, context) := rollback engine.executor context
  match stop with
  | .escaped =>
    if status.ok = false then
      ⟨report engine (runnerDiagnostic .runnerResetFailure "whole_request_exception_rollback"
        status) context.device, true, context⟩
    else ⟨.error (engine.escapedException context.device), true, context⟩
  | .failed error controlStatus =>
    if status.ok = false then
      ⟨report engine
        { runnerDiagnostic .runnerResetFailure "whole_request_failure_rollback" status with
          retiredPrefillQuanta := controlStatus.retiredPrefillQuanta } context.device, true,
        context⟩
    else
      ⟨report engine (controlDiagnostic error controlStatus) context.device, true,
        { context with device := engine.demoteDecodeGraphCache context.device }⟩

def afterControl (control : GenerationControl F) (context : EngineStepContext τ ρ) :
    GuardedExit τ ρ F :=
  if context.wholeRequestTransactionArmed then
    let (status, context) := rollback engine.executor context
    if status.ok = false then
      ⟨report engine (runnerDiagnostic .runnerResetFailure "whole_request_uncommitted_rollback"
        status) context.device, true, context⟩
    else
      ⟨report engine
        { code := .runnerStepFailure
          stage := "whole_request_uncommitted"
          message := "generation control returned success without consuming the " ++
            "whole-request Prefill transaction" } context.device, true, context⟩
  else
    let (outcome, device) := publish engine promptTokenIds options control context.device
    ⟨outcome, false, { context with device := device }⟩

variable [FloatingPoint F]

def runControl : ControlM (EngineStepContext τ ρ) (GenerationControl F) :=
  runGenerationControl cfg promptTokenIds (engineControlOptions engine options)
    (enginePrefillPlan cfg engine options) (engineDecodePlan engine)
    (engineService engine options)

def guardedBody (context : EngineStepContext τ ρ) : GuardedExit τ ρ F :=
  match engine.setupException context.device with
  | some exception => ⟨.error exception, false, context⟩
  | none =>
    match (runControl cfg engine promptTokenIds options).run ⟨context, []⟩ with
    | (.error stop, world) => afterStop engine stop world.context
    | (.ok control, world) => afterControl engine promptTokenIds options control world.context

def handleException : Except EngineException (GenerateOutcome F) → GenerateOutcome F
  | .ok outcome => outcome
  | .error .allocation =>
    .failed
      { code := .allocationFailure
        stage := "generate"
        message := "host allocation failed during generation" }
  | .error .length => .failed { code := .allocationFailure, stage := "generate" }
  | .error .standard => .failed { code := .tokenizerFailure, stage := "generate" }
  | .error .foreign => .propagated

def generateTokenized (device : τ) : GenerateOutcome F × EngineStepContext τ ρ :=
  match checkGenerateOptions engine promptTokenIds options with
  | .error diagnostic => (.failed diagnostic, { device := device })
  | .ok _ =>
    let (status, device) := engine.beginOrdinaryRequest device
    if status.ok = false then
      (.failed (runnerDiagnostic .runnerResetFailure "runner_reset" status),
        { device := device })
    else
      let exit := guardedBody cfg engine promptTokenIds options
        { device := device, captureTrace := options.captureTrace }
      (handleException exit.outcome,
        releaseGuard engine.executor exit.rollbackAttempted exit.context)

end Entry

end Qwen3xOrin.Engine
