import Qwen3xOrin.Generation.Types

/-! The generation controller: admission, the four prefill modes and the decode loop. -/

namespace Qwen3xOrin.Generation

open Prefill

variable {σ F α : Type}

def fail (error : GenerationControlError) (status : ReferenceRunnerStatus := {}) :
    Except Stop α :=
  .error (.failed error status)

def lift (x : Except Stop α) : ControlM σ α := ExceptT.mk (pure x)

def invoke (call : Call) (callback : Callback σ α) (onOther : Stop) : ControlM σ α :=
  ExceptT.mk fun world =>
    let (result, context) := callback world.context
    let world := { context := context, calls := world.calls ++ [call] }
    match result with
    | .ok a => (.ok a, world)
    | .error .allocation => (.error (.failed .allocationFailure), world)
    | .error .other => (.error onOther, world)

def nextPrefixTileTokenCount (remainingTokens requestedChunkSize : ℕ) : ℕ :=
  if remainingTokens = 0 ∨ requestedChunkSize = 0 then 0
  else nextPrefillPhysicalSegmentTokenCount
    (if remainingTokens < requestedChunkSize then remainingTokens else requestedChunkSize)

def nextSingleArbitraryPrefixTileTokenCount (remainingTokens requestedChunkSize : ℕ) : ℕ :=
  if remainingTokens = 0 ∨ requestedChunkSize = 0 then 0
  else if remainingTokens < requestedChunkSize then remainingTokens else requestedChunkSize

-- The counting loop of the source; every pass takes at least one token.
def prefixExecutions (chunk : ℕ) : ℕ → ℕ → ℕ
  | 0, _ => 0
  | n + 1, remaining =>
    if remaining = 0 then 0
    else prefixExecutions chunk n (remaining - nextPrefixTileTokenCount remaining chunk) + 1

def prefixExecutionCount (prefixTokenCount effectivePrefillChunkSize : ℕ) : ℕ :=
  if effectivePrefillChunkSize = 0 then 0
  else if effectivePrefillChunkSize = 1 then prefixTokenCount
  else prefixExecutions effectivePrefillChunkSize prefixTokenCount prefixTokenCount

def singleArbitraryPrefixExecutionCount (prefixTokenCount effectivePrefillChunkSize : ℕ) : ℕ :=
  if effectivePrefillChunkSize = 0 then 0
  else prefixTokenCount / effectivePrefillChunkSize +
    (if prefixTokenCount % effectivePrefillChunkSize ≠ 0 then 1 else 0)

def prefillRouteLayerPassCount (logicalPanelCount : ℕ)
    (tactic : LayerMajorPrefillMlpScheduleTactic) : ℕ :=
  if tactic ≠ .perOperatorPanel then 1 else logicalPanelCount

def checkedRequiredSteps (promptTokens maxNewTokens : ℕ) : Option ℕ :=
  checkedAdd promptTokens (maxNewTokens - 1)

def checkPrediction (mode : ReferenceLogitsMode) (step : ReferenceStepResult F) :
    Except Stop ℕ :=
  match mode with
  | .fullStatistics =>
    if step.prediction.isSome then fail .unexpectedStep
    else match step.logits with
      | none => fail .missingLogits
      | some logits => .ok logits.predictedTokenId
  | .predictedTokenOnly =>
    if step.logits.isSome then fail .unexpectedStep
    else match step.prediction with
      | none => fail .missingPrediction
      | some prediction => .ok prediction

def stepPrediction (computeLogits : Bool) (mode : ReferenceLogitsMode)
    (step : ReferenceStepResult F) : Except Stop ℕ :=
  if computeLogits then checkPrediction mode step else .ok 0

variable [FloatingPoint F]

open FloatingPoint

def validElapsed (elapsed : F) : Bool := isFinite elapsed && !isNegative elapsed

def accumulate (total elapsed : F) : Except Stop F :=
  if isFinite (add total elapsed) then .ok (add total elapsed) else fail .unexpectedStep

def checkStep (mode : ReferenceLogitsMode) (expectedPosition inputToken : ℕ)
    (computeLogits : Bool) (outcome : Outcome (ReferenceStepResult F)) :
    Except Stop (ReferenceStepResult F × F × ℕ) :=
  match outcome.toOption with
  | none => fail .runnerFailure outcome.status
  | some step =>
    if step.position ≠ expectedPosition ∨ step.inputTokenId ≠ inputToken ∨
        (computeLogits = false ∧ (step.logits.isSome ∨ step.prediction.isSome)) then
      fail .unexpectedStep
    else match step.timing with
      | none => fail .missingTiming
      | some elapsed => do
        let predicted ← stepPrediction computeLogits mode step
        if validElapsed elapsed = false then fail .unexpectedStep
        else if computeLogits ∧ referenceVocabularySize ≤ predicted then fail .unexpectedStep
        else .ok (step, elapsed, predicted)

def execute (options : GenerationControlOptions σ F) (control : GenerationControl F)
    (call : ℕ → ℕ → Call) (phaseStep : StepFunction σ F) (inputToken : ℕ)
    (computeLogits : Bool) (onOther : Stop := .escaped) :
    ControlM σ (GenerationControl F × F × ℕ) := do
  let stepOptions : ReferenceStepOptions :=
    { computeLogits := computeLogits
      captureTrace := options.captureTrace
      measureTiming := true
      logitsMode := options.logitsMode }
  let outcome ← invoke (call control.steps.length inputToken)
    (phaseStep inputToken stepOptions) onOther
  let (step, elapsed, predicted) ←
    lift (checkStep options.logitsMode control.steps.length inputToken computeLogits outcome)
  pure ({ control with steps := control.steps ++ [step] }, elapsed, predicted)

def pushPrefixExecution (control : GenerationControl F) (elapsed accumulated : F) :
    GenerationControl F :=
  { control with
    timing :=
      { control.timing with
        prefixExecutionMilliseconds :=
          control.timing.prefixExecutionMilliseconds ++ [elapsed]
        promptPrefillMilliseconds := accumulated } }

def prefixSteps (options : GenerationControlOptions σ F) (prefixStep : StepFunction σ F) :
    List ℕ → GenerationControl F → ControlM σ (GenerationControl F)
  | [], control => pure control
  | token :: tokens, control => do
    let (control, elapsed, _) ← execute options control .prefixStep prefixStep token false
    let accumulated ← lift (accumulate control.timing.promptPrefillMilliseconds elapsed)
    prefixSteps options prefixStep tokens (pushPrefixExecution control elapsed accumulated)

def placeholder (step : ReferenceStepResult F) (position token : ℕ) : Bool :=
  decide (step.position = position ∧ step.inputTokenId = token ∧ step.logits.isNone ∧
    step.prediction.isNone)

def checkTile (expectedFirstPosition : ℕ) (tokens : List ℕ)
    (outcome : Outcome (ReferencePrefillTileResult F)) :
    Except Stop (List (ReferenceStepResult F) × F) :=
  match outcome.toOption with
  | none => fail .runnerFailure outcome.status
  | some tile =>
    match tile.timing with
    | none => fail .missingTiming
    | some elapsed =>
      if tile.steps.length ≠ tokens.length then fail .unexpectedStep
      else if validElapsed elapsed = false then fail .unexpectedStep
      else if (List.range tokens.length).all (fun i =>
          let step := tile.steps.getD i {}
          placeholder step (expectedFirstPosition + i) (tokens.getD i 0) &&
            step.timing.all validElapsed) then
        .ok (tile.steps, elapsed)
      else fail .unexpectedStep

def tileTokenCount (options : GenerationControlOptions σ F) (remaining chunk : ℕ) : ℕ :=
  if options.prefillSingleArbitraryTile then
    nextSingleArbitraryPrefixTileTokenCount remaining chunk
  else nextPrefixTileTokenCount remaining chunk

-- The tile loop; the first argument bounds its passes by the tokens left.
def prefixTiles (options : GenerationControlOptions σ F) (prefixTile : PrefillTileFunction σ F)
    (chunk : ℕ) : ℕ → List ℕ → GenerationControl F → ControlM σ (GenerationControl F)
  | 0, _, control => pure control
  | n + 1, tokens, control =>
    if tokens = [] then pure control
    else do
      let count := tileTokenCount options tokens.length chunk
      let tile := tokens.take count
      let retain := options.prefillAllPromptTokens && decide (count = tokens.length)
      let outcome ← invoke (.prefixTile control.steps.length tile retain)
        (prefixTile tile { measureTiming := true, retainLastHiddenForLogits := retain }) .escaped
      let (steps, elapsed) ← lift (checkTile control.steps.length tile outcome)
      let accumulated ← lift (accumulate control.timing.promptPrefillMilliseconds elapsed)
      prefixTiles options prefixTile chunk n (tokens.drop count)
        (pushPrefixExecution { control with steps := control.steps ++ steps } elapsed accumulated)

def checkPanels (plan : PrefillExecutionPlan) (prompt : List ℕ) :
    List (PrefillPromptPanelResult F) → ℕ → ℕ → Except Stop ℕ
  | [], _, expectedPromptOffset => .ok expectedPromptOffset
  | panel :: panels, i, expectedPromptOffset =>
    let expectedPanel := plan.panel i
    if panel.logicalPanelOrdinal ≠ i ∨ panel.promptTokenOffset ≠ expectedPromptOffset ∨
        panel.firstPosition ≠ expectedPanel.firstPosition ∨
        panel.endPosition ≠ expectedPanel.endPosition ∨
        panel.steps.length ≠ expectedPanel.tokenCount then fail .unexpectedStep
    else if (List.range panel.steps.length).all (fun k =>
        let step := panel.steps.getD k {}
        placeholder step (expectedPanel.firstPosition + k)
          (prompt.getD (expectedPromptOffset + k) 0) && step.timing.isNone) then
      checkPanels plan prompt panels (i + 1) (expectedPromptOffset + expectedPanel.tokenCount)
    else fail .unexpectedStep

def checkWholeRequest (cfg : BuildConfig) (plan : PrefillExecutionPlan) (prompt : List ℕ)
    (outcome : Outcome (PrefillPromptResult F)) :
    Except Stop (PrefillPromptResult F × F) :=
  match outcome.toOption with
  | none => fail .runnerFailure outcome.status
  | some result =>
    if result.logicalPanelCount ≠ plan.panelCount ∨ result.panels.length ≠ plan.panelCount ∨
        result.promptTokenCount ≠ prompt.length ∨
        completeUncommittedWholeRequestPrefillProgress cfg plan result.progress = false then
      fail .unexpectedStep
    else match result.timing with
      | none => fail .missingTiming
      | some elapsed =>
        if validElapsed elapsed = false then fail .unexpectedStep
        else do
          let offset ← checkPanels plan prompt result.panels 0 0
          if offset ≠ prompt.length then fail .unexpectedStep
          else .ok (result, elapsed)

def exceptionStatus (operation : String) : ReferenceRunnerStatus :=
  { error := .poisoned, operation := some operation }

def wholeRequestPrefill (cfg : BuildConfig) (plan : PrefillExecutionPlan) (prompt : List ℕ)
    (wholeRequest : PrefillPromptFunction σ F) (control : GenerationControl F) :
    ControlM σ (GenerationControl F × PrefillExecutionProgress) := do
  let outcome ← invoke (.wholeRequest plan prompt)
    (wholeRequest prompt plan { measureTiming := true, retainLastHiddenForLogits := true })
    (.failed .runnerFailure (exceptionStatus "whole_request_callback_exception"))
  let (result, elapsed) ← lift (checkWholeRequest cfg plan prompt outcome)
  let control := { control with steps := control.steps ++ result.panels.flatMap (·.steps) }
  pure (pushPrefixExecution control elapsed elapsed, result.progress)

-- With every prompt token admitted, the final prompt step is a placeholder to replace.
def popPlaceholder (options : GenerationControlOptions σ F) (control : GenerationControl F) :
    Except Stop (GenerationControl F) :=
  if options.prefillAllPromptTokens then
    if control.steps = [] then fail .unexpectedStep
    else .ok { control with steps := control.steps.dropLast }
  else .ok control

def finishPrefillStep (options : GenerationControlOptions σ F) (prompt : List ℕ)
    (finishPrefill : StepFunction σ F) (onOther : Stop) (control : GenerationControl F) :
    ControlM σ (GenerationControl F × ℕ) := do
  let control ← lift (popPlaceholder options control)
  let (control, elapsed, predicted) ←
    execute options control .finishPrefill finishPrefill (prompt.getLastD 0) true onOther
  let promptPrefill ← lift (accumulate control.timing.promptPrefillMilliseconds elapsed)
  pure ({ control with
    timing :=
      { control.timing with
        finishPrefillMilliseconds := elapsed
        promptPrefillMilliseconds := promptPrefill } }, predicted)

def commitWholeRequestPrefill (cfg : BuildConfig) (plan : PrefillExecutionPlan)
    (progress : PrefillExecutionProgress) (commitWholeRequest : PrefillCommitFunction σ F)
    (control : GenerationControl F) : ControlM σ (GenerationControl F) := do
  if progress.prefillStateCommitted then lift (fail .unexpectedStep)
  else
    let (status, elapsed) ← invoke (.commitWholeRequest plan progress)
      (fun context =>
        let (answer, context) := commitWholeRequest plan progress context
        (.ok answer, context)) .escaped
    if status.ok = false then lift (fail .runnerFailure status)
    else
      let (error, published) := publishPrefillStateCommitted cfg plan progress
      if error ≠ .none ∨ published.prefillStateCommitted = false then
        lift (fail .unexpectedStep)
      else
        pure { control with
          timing :=
            { control.timing with
              commitPrefillMilliseconds := elapsed
              promptPrefillMilliseconds :=
                add control.timing.promptPrefillMilliseconds elapsed } }

def commitToken (options : GenerationControlOptions σ F) (control : GenerationControl F)
    (token : ℕ) (elapsed : F) : ControlM σ (GenerationControl F × Bool) := do
  let index := control.generatedTokenIds.length
  let control := { control with generatedTokenIds := control.generatedTokenIds ++ [token] }
  match options.committedToken with
  | none => pure (control, true)
  | some committedToken =>
    let goOn ← invoke (.committedToken token index)
      (fun context =>
        let (answer, context) := committedToken token index elapsed context
        (.ok answer, context)) .escaped
    pure (control, goOn)

-- The decode loop; the first argument is the number of tokens still allowed.
def decodeLoop (options : GenerationControlOptions σ F) (decodeStep : StepFunction σ F) :
    ℕ → GenerationControl F → ControlM σ (GenerationControl F)
  | 0, control => pure control
  | n + 1, control => do
    let (control, elapsed, predicted) ← execute options control .decodeStep decodeStep
      (control.generatedTokenIds.getLastD 0) true
    let decodeAfterFirst ←
      lift (accumulate control.timing.decodeAfterFirstMilliseconds elapsed)
    let totalGeneration ← lift (accumulate control.timing.totalGenerationMilliseconds elapsed)
    let control := { control with
      timing :=
        { control.timing with
          subsequentTokenMilliseconds :=
            control.timing.subsequentTokenMilliseconds ++ [elapsed]
          decodeAfterFirstMilliseconds := decodeAfterFirst
          totalGenerationMilliseconds := totalGeneration } }
    let (control, goOn) ← commitToken options control predicted elapsed
    if predicted = options.stopTokenId then pure { control with stopReason := .imEnd }
    else if goOn = false then pure { control with stopReason := .cancelled }
    else decodeLoop options decodeStep n control

end Qwen3xOrin.Generation
