import Qwen3xOrin.Engine.PrefillWitness

/-! The engine's adapters of a whole-request prefill and the guard that rolls it back. The state
behind them, of an arbitrary type `τ`, is the runner's together with the caller's probe and
observer; `ρ` is the receipt the executor hands out. -/

namespace Qwen3xOrin.Engine

open Prefill Generation

-- What happened to the transaction, in order.
inductive TransactionEvent
  | armed
  | execute (succeeded : Bool)
  | finish (succeeded : Bool)
  | commit (succeeded : Bool)
  | reset (succeeded : Bool)
  deriving DecidableEq, Repr

structure EngineStepContext (τ ρ : Type) where
  device : τ
  captureTrace : Bool := false
  boundPrefillReceipt : Option ρ := none
  prefillSubmissionWindowRetirements : ℕ := 0
  wholeRequestTransactionArmed : Bool := false
  events : List TransactionEvent := []

structure PrefillExecutor (τ ρ F : Type) where
  execute : List ℕ → PrefillExecutionPlan → Bool → τ →
    (Except Thrown (Outcome (ReferenceWholeRequestPrefillResult F)) × Option ρ) × τ
  finish : ρ → ℕ → ReferenceStepOptions → τ →
    (Except Thrown (Outcome (ReferenceStepResult F)) × ρ) × τ
  commit : ρ → PrefillExecutionPlan → PrefillExecutionProgress → τ →
    (ReferenceRunnerStatus × ρ) × τ
  reset : τ → ReferenceRunnerStatus × τ
  cancellationProbe : Option (τ → Bool × τ) := none
  -- How the host's allocations for the transcript end.
  transcriptException : τ → Option Thrown := fun _ => none
  -- The interval the controller's clock measures around a commit.
  commitMilliseconds : τ → F

variable {τ ρ F α : Type}

def wholeRequestAdapterStatus (error : ReferenceRunnerError) (operation : String)
    (retiredPrefillQuanta : ℕ := 0) : ReferenceRunnerStatus :=
  { error := error
    operation := some operation
    retiredPrefillQuanta := retiredPrefillQuanta }

def refuse (status : ReferenceRunnerStatus) : Except Thrown (Outcome α) := .ok { status := status }

def succeeded : Except Thrown (Outcome α) → Bool
  | .ok outcome => outcome.toOption.isSome
  | .error _ => false

def transcriptPanel (plan : PrefillExecutionPlan) (tokens : List ℕ) (panelIndex promptOffset : ℕ) :
    PrefillPromptPanelResult F :=
  let panel := plan.panel panelIndex
  { logicalPanelOrdinal := panelIndex
    promptTokenOffset := promptOffset
    firstPosition := panel.firstPosition
    endPosition := panel.endPosition
    steps := (List.range panel.tokenCount).map fun token =>
      { position := panel.firstPosition + token
        inputTokenId := tokens.getD (promptOffset + token) 0 } }

def transcriptPanels (plan : PrefillExecutionPlan) (tokens : List ℕ) :
    List (PrefillPromptPanelResult F) × ℕ :=
  (List.range plan.panelCount).foldl (fun (panels, promptOffset) panelIndex =>
    (panels ++ [transcriptPanel plan tokens panelIndex promptOffset],
      promptOffset + (plan.panel panelIndex).tokenCount)) ([], 0)

def wholeRequestPrecondition (cfg : BuildConfig) (tokens : List ℕ) (plan : PrefillExecutionPlan)
    (options : PrefillPromptOptions) (context : EngineStepContext τ ρ) : Bool :=
  !context.captureTrace && decide (tokens ≠ [] ∧ tokens.length = plan.promptTokenCount) &&
    options.retainLastHiddenForLogits && !context.wholeRequestTransactionArmed &&
    context.boundPrefillReceipt.isNone && validPlanTopology cfg plan

section Adapters

variable (cfg : BuildConfig) (executor : PrefillExecutor τ ρ F)

def checkExecuted (plan : PrefillExecutionPlan) (tokenCount : ℕ)
    (panels : List (PrefillPromptPanelResult F))
    (executed : ReferenceWholeRequestPrefillResult F) (context : EngineStepContext τ ρ) :
    Except Thrown (Outcome (PrefillPromptResult F)) × EngineStepContext τ ρ :=
  if runnerContract plan executed tokenCount executor.cancellationProbe.isSome = false then
    (refuse (wholeRequestAdapterStatus .invalidStepOptions
      "engine_whole_request_runner_contract"), context)
  else if validP40Witness cfg plan executed tokenCount = false then
    (refuse (wholeRequestAdapterStatus .invalidStepOptions
      "engine_whole_request_p40_witness"), context)
  else
    let transcript : PrefillPromptResult F :=
      { panels := panels
        logicalPanelCount := plan.panelCount
        promptTokenCount := tokenCount
        progress := executed.progress
        timing := executed.timing }
    (.ok { value := some transcript },
      { context with
        prefillSubmissionWindowRetirements := executed.submissionWindowRetirements })

-- Past the transcript only this part touches the device; it arms the transaction first.
def executeWholeRequest (plan : PrefillExecutionPlan) (tokens : List ℕ) (measureTiming : Bool)
    (panels : List (PrefillPromptPanelResult F)) (context : EngineStepContext τ ρ) :
    Except Thrown (Outcome (PrefillPromptResult F)) × EngineStepContext τ ρ :=
  let ((result, receipt), device) := executor.execute tokens plan measureTiming context.device
  let context :=
    { context with
      device := device
      boundPrefillReceipt := receipt
      wholeRequestTransactionArmed := true
      events := context.events ++ [.armed, .execute (succeeded result)] }
  match result with
  | .error thrown => (.error thrown, context)
  | .ok outcome =>
    match outcome.toOption with
    | none => (refuse outcome.status, context)
    | some executed => checkExecuted cfg executor plan tokens.length panels executed context

def prefillWholeRequestLayerMajor : PrefillPromptFunction (EngineStepContext τ ρ) F :=
  fun tokens plan options context =>
    if wholeRequestPrecondition cfg tokens plan options context = false then
      (refuse (wholeRequestAdapterStatus .invalidStepOptions
        "engine_whole_request_precondition"), context)
    else
      match executor.transcriptException context.device with
      | some .allocation =>
        (refuse (wholeRequestAdapterStatus .allocationFailure
          "engine_whole_request_transcript_allocation"), context)
      | some .other =>
        (refuse (wholeRequestAdapterStatus .poisoned
          "engine_whole_request_transcript_exception"), context)
      | none =>
        let (panels, promptOffset) := transcriptPanels plan tokens
        if promptOffset ≠ tokens.length then
          (refuse (wholeRequestAdapterStatus .invalidStepOptions
            "engine_whole_request_transcript_geometry"), context)
        else executeWholeRequest cfg executor plan tokens options.measureTiming panels context

def pollCancellation (context : EngineStepContext τ ρ) : Bool × EngineStepContext τ ρ :=
  match executor.cancellationProbe with
  | none => (false, context)
  | some probe =>
    let (cancelled, device) := probe context.device
    (cancelled, { context with device := device })

-- The receipt of an armed transaction.
def liveReceipt (context : EngineStepContext τ ρ) : Option ρ :=
  if context.wholeRequestTransactionArmed && !context.captureTrace then
    context.boundPrefillReceipt else none

def finishWholeRequestFromUncommittedRetained : StepFunction (EngineStepContext τ ρ) F :=
  fun inputTokenId options context =>
    match liveReceipt context with
    | none =>
      (refuse (wholeRequestAdapterStatus .invalidStepOptions
        "engine_whole_request_finalizer_precondition"), context)
    | some receipt =>
      let (cancelled, context) := pollCancellation executor context
      if cancelled then
        (refuse (wholeRequestAdapterStatus .cancelled "engine_whole_request_finalizer_cancelled"
          context.prefillSubmissionWindowRetirements), context)
      else
        let ((result, receipt), device) :=
          executor.finish receipt inputTokenId options context.device
        (result,
          { context with
            device := device
            boundPrefillReceipt := some receipt
            events := context.events ++ [.finish (succeeded result)] })

def commitWholeRequestLayerMajor (plan : PrefillExecutionPlan)
    (completedProgress : PrefillExecutionProgress) (context : EngineStepContext τ ρ) :
    ReferenceRunnerStatus × EngineStepContext τ ρ :=
  match liveReceipt context with
  | none =>
    (wholeRequestAdapterStatus .invalidStepOptions "engine_whole_request_commit_precondition",
      context)
  | some receipt =>
    let (cancelled, context) := pollCancellation executor context
    if cancelled then
      (wholeRequestAdapterStatus .cancelled "engine_whole_request_commit_cancelled"
        context.prefillSubmissionWindowRetirements, context)
    else
      let ((status, receipt), device) :=
        executor.commit receipt plan completedProgress context.device
      (status,
        { context with
          device := device
          boundPrefillReceipt := some receipt
          wholeRequestTransactionArmed := !status.ok
          events := context.events ++ [.commit status.ok] })

def timedCommit : PrefillCommitFunction (EngineStepContext τ ρ) F :=
  fun plan progress context =>
    let (status, after) := commitWholeRequestLayerMajor executor plan progress context
    ((status, executor.commitMilliseconds context.device), after)

def rollback (context : EngineStepContext τ ρ) : ReferenceRunnerStatus × EngineStepContext τ ρ :=
  if context.wholeRequestTransactionArmed = false then ({}, context)
  else
    let (status, device) := executor.reset context.device
    (status,
      { context with
        device := device
        wholeRequestTransactionArmed := !status.ok
        boundPrefillReceipt := if status.ok then none else context.boundPrefillReceipt
        events := context.events ++ [.reset status.ok] })

-- The guard's destructor.
def releaseGuard (rollbackAttempted : Bool) (context : EngineStepContext τ ρ) :
    EngineStepContext τ ρ :=
  if !rollbackAttempted && context.wholeRequestTransactionArmed then (rollback executor context).2
  else context

end Adapters

end Qwen3xOrin.Engine
