import Qwen3xOrin.Generation.Control

namespace Qwen3xOrin.Generation

open Prefill FloatingPoint

variable {σ F : Type} [FloatingPoint F]

-- The decode service of a build that has one; it replaces the decode loop.
structure DecodeService (σ F : Type) where
  start : List ℕ → ControlM σ F
  decode : GenerationControlOptions σ F → GenerationControl F → ControlM σ (GenerationControl F)

def invalidWholeRequestPrefill (options : GenerationControlOptions σ F)
    (prefillPlan : PrefillPlan σ F) : Bool :=
  options.prefillWholeRequestLayerMajor &&
    (!options.prefillAllPromptTokens || options.captureTrace ||
      options.prefillSingleArbitraryTile || prefillPlan.wholeRequest.isNone ||
      prefillPlan.finishWholeRequestFromUncommittedRetained.isNone ||
      prefillPlan.commitWholeRequest.isNone)

def invalidMlpSchedule (options : GenerationControlOptions σ F) : Bool :=
  !options.prefillWholeRequestLayerMajor &&
    decide (options.prefillMlpScheduleTactic ≠ .perOperatorPanel)

def invalidLegacyAllPromptAdmission (options : GenerationControlOptions σ F)
    (prefillPlan : PrefillPlan σ F) : Bool :=
  options.prefillAllPromptTokens && !options.prefillWholeRequestLayerMajor &&
    (options.captureTrace || decide (options.prefillChunkSize ≤ 1) ||
      prefillPlan.finishPrefillFromTile.isNone)

def invalidArguments (promptTokenIds : List ℕ) (options : GenerationControlOptions σ F)
    (prefillPlan : PrefillPlan σ F) (decodePlan : DecodePlan σ F) : Bool :=
  decide (promptTokenIds = [] ∨ options.maxNewTokens = 0 ∨ options.maxSequenceLength = 0) ||
    prefillPlan.prefixStep.isNone || prefillPlan.finishPrefill.isNone ||
    decodePlan.decodeStep.isNone ||
    decide (options.prefillChunkSize = 0 ∨
      maximumRequestPrefillChunkSize < options.prefillChunkSize ∨
      referenceVocabularySize ≤ options.stopTokenId) ||
    (options.prefillSingleArbitraryTile && !options.prefillAllPromptTokens) ||
    invalidWholeRequestPrefill options prefillPlan || invalidMlpSchedule options ||
    invalidLegacyAllPromptAdmission options prefillPlan

def planFailure : PrefillExecutionPlanError → GenerationControlError
  | .invalidArgument => .invalidArgument
  | .arithmeticOverflow => .arithmeticOverflow
  | .capacityExceeded => .capacityExceeded
  | .invalidTopology | .none => .unexpectedStep

def wholeRequestTopology (cfg : BuildConfig) (promptTokenIds : List ℕ)
    (options : GenerationControlOptions σ F) : Except Stop PrefillExecutionPlan :=
  match buildUnboundLayerMajorPrefillExecutionPlan cfg
      { firstPosition := 0
        promptTokenCount := promptTokenIds.length
        maxSequenceLength := options.maxSequenceLength
        mlpScheduleTactic := options.prefillMlpScheduleTactic } with
  | .error error => fail (planFailure error)
  | .ok plan => if plan.executable then fail .unexpectedStep else .ok plan

def initialTiming : ReferenceGenerationTiming F where
  prefixExecutionMilliseconds := []
  finishPrefillMilliseconds := zero
  promptPrefillMilliseconds := zero
  timeToFirstTokenMilliseconds := zero
  subsequentTokenMilliseconds := []
  decodeAfterFirstMilliseconds := zero
  totalGenerationMilliseconds := zero
  commitPrefillMilliseconds := zero

def initialControl (mode : ReferencePrefillExecutionMode) (panels passes : ℕ) :
    GenerationControl F where
  generatedTokenIds := []
  steps := []
  stopReason := .maxNewTokens
  timing := initialTiming
  prefillExecutionMode := mode
  prefillLogicalPanelCount := panels
  prefillRouteLayerPassCount := passes

def prefixTokens (promptTokenIds : List ℕ) (options : GenerationControlOptions σ F) : List ℕ :=
  if options.prefillAllPromptTokens then promptTokenIds else promptTokenIds.dropLast

def effectivePrefillChunkSize (options : GenerationControlOptions σ F) : ℕ :=
  if options.captureTrace then 1 else options.prefillChunkSize

def legacyExecutionCount (promptTokenIds : List ℕ) (options : GenerationControlOptions σ F) :
    ℕ :=
  if options.prefillSingleArbitraryTile then
    singleArbitraryPrefixExecutionCount (prefixTokens promptTokenIds options).length
      (effectivePrefillChunkSize options)
  else
    prefixExecutionCount (prefixTokens promptTokenIds options).length
      (effectivePrefillChunkSize options)

-- Null callbacks that admission has already excluded fall under the same error.
def required {α : Type} (callback : Option α) : ControlM σ α :=
  match callback with
  | none => lift (fail .invalidArgument)
  | some callback => pure callback

def legacyPrefix (promptTokenIds : List ℕ) (options : GenerationControlOptions σ F)
    (prefillPlan : PrefillPlan σ F) (control : GenerationControl F) :
    ControlM σ (GenerationControl F) :=
  let tokens := prefixTokens promptTokenIds options
  let chunk := effectivePrefillChunkSize options
  if 1 < chunk then
    match prefillPlan.prefixTile with
    | none => if tokens ≠ [] then lift (fail .invalidArgument) else pure control
    | some prefixTile => prefixTiles options prefixTile chunk tokens.length tokens control
  else do
    let prefixStep ← required prefillPlan.prefixStep
    prefixSteps options prefixStep tokens control

def legacyPrefill (promptTokenIds : List ℕ) (options : GenerationControlOptions σ F)
    (prefillPlan : PrefillPlan σ F) : ControlM σ (GenerationControl F × ℕ) := do
  let panels := legacyExecutionCount promptTokenIds options +
    (if options.prefillAllPromptTokens then 0 else 1)
  let control ← legacyPrefix promptTokenIds options prefillPlan
    (initialControl .legacyC512Tiled panels panels)
  let finishPrefill ← required (if options.prefillAllPromptTokens then
    prefillPlan.finishPrefillFromTile else prefillPlan.finishPrefill)
  finishPrefillStep options promptTokenIds finishPrefill .escaped control

def wholePrefill (cfg : BuildConfig) (plan : PrefillExecutionPlan) (promptTokenIds : List ℕ)
    (options : GenerationControlOptions σ F) (prefillPlan : PrefillPlan σ F) :
    ControlM σ (GenerationControl F × ℕ) := do
  let wholeRequest ← required prefillPlan.wholeRequest
  let finish ← required prefillPlan.finishWholeRequestFromUncommittedRetained
  let commit ← required prefillPlan.commitWholeRequest
  let (control, progress) ← wholeRequestPrefill cfg plan promptTokenIds wholeRequest
    (initialControl .wholeRequestLayerMajor plan.panelCount
      (prefillRouteLayerPassCount plan.panelCount options.prefillMlpScheduleTactic))
  let (control, predicted) ← finishPrefillStep options promptTokenIds finish
    (.failed .runnerFailure (exceptionStatus "whole_request_finalizer_exception")) control
  let control ← commitWholeRequestPrefill cfg plan progress commit control
  pure (control, predicted)

def prefill (cfg : BuildConfig) (topology : Option PrefillExecutionPlan)
    (promptTokenIds : List ℕ) (options : GenerationControlOptions σ F)
    (prefillPlan : PrefillPlan σ F) : ControlM σ (GenerationControl F × ℕ) :=
  match topology with
  | none => legacyPrefill promptTokenIds options prefillPlan
  | some plan => wholePrefill cfg plan promptTokenIds options prefillPlan

def startService (promptTokenIds : List ℕ) (service : Option (DecodeService σ F))
    (control : GenerationControl F) : ControlM σ (GenerationControl F) :=
  match service with
  | none => pure control
  | some service => do
    let ms ← service.start promptTokenIds
    pure { control with
      timing :=
        { control.timing with
          prefixExecutionMilliseconds :=
            control.timing.prefixExecutionMilliseconds.dropLast ++
              [add (control.timing.prefixExecutionMilliseconds.getLastD zero) ms]
          promptPrefillMilliseconds := add control.timing.promptPrefillMilliseconds ms } }

def decode (options : GenerationControlOptions σ F) (decodePlan : DecodePlan σ F)
    (service : Option (DecodeService σ F)) (control : GenerationControl F) :
    ControlM σ (GenerationControl F) :=
  match service with
  | some service => service.decode options control
  | none => do
    let decodeStep ← required decodePlan.decodeStep
    decodeLoop options decodeStep (options.maxNewTokens - control.generatedTokenIds.length) control

def generate (options : GenerationControlOptions σ F) (decodePlan : DecodePlan σ F)
    (service : Option (DecodeService σ F)) (control : GenerationControl F) (predicted : ℕ) :
    ControlM σ (GenerationControl F) := do
  let first := control.timing.promptPrefillMilliseconds
  let control := { control with
    timing :=
      { control.timing with
        timeToFirstTokenMilliseconds := first
        totalGenerationMilliseconds := first } }
  let (control, goOn) ← commitToken options control predicted first
  if predicted = options.stopTokenId then pure { control with stopReason := .imEnd }
  else if goOn = false then pure { control with stopReason := .cancelled }
  else decode options decodePlan service control

def admitWholeRequest (cfg : BuildConfig) (promptTokenIds : List ℕ)
    (options : GenerationControlOptions σ F) : Except Stop (Option PrefillExecutionPlan) :=
  if options.prefillWholeRequestLayerMajor then
    (wholeRequestTopology cfg promptTokenIds options).map some
  else .ok none

def admission (cfg : BuildConfig) (promptTokenIds : List ℕ) (options : GenerationControlOptions σ F)
    (prefillPlan : PrefillPlan σ F) (decodePlan : DecodePlan σ F) :
    Except Stop (Option PrefillExecutionPlan) :=
  if invalidArguments promptTokenIds options prefillPlan decodePlan then fail .invalidArgument
  else if promptTokenIds.any (fun token => decide (referenceVocabularySize ≤ token)) then
    fail .invalidArgument
  else match checkedRequiredSteps promptTokenIds.length options.maxNewTokens with
    | none => fail .arithmeticOverflow
    | some requiredSteps =>
      if options.maxSequenceLength < requiredSteps then fail .capacityExceeded
      else admitWholeRequest cfg promptTokenIds options

def runGenerationControl (cfg : BuildConfig) (promptTokenIds : List ℕ)
    (options : GenerationControlOptions σ F) (prefillPlan : PrefillPlan σ F)
    (decodePlan : DecodePlan σ F) (service : Option (DecodeService σ F) := none) :
    ControlM σ (GenerationControl F) := do
  let topology ← lift (admission cfg promptTokenIds options prefillPlan decodePlan)
  let (control, predicted) ← prefill cfg topology promptTokenIds options prefillPlan
  let control ← startService promptTokenIds service control
  generate options decodePlan service control predicted

end Qwen3xOrin.Generation
