import Qwen3xOrin.Prefill.Commit
import Qwen3xOrin.Mtp.Round

/-! Data of the generation controller. The callbacks of a request share one context of an
arbitrary type `σ`; a null callback is `none`. -/

namespace Qwen3xOrin.Generation

open Prefill

class FloatingPoint (F : Type) where
  zero : F
  add : F → F → F
  isFinite : F → Bool
  isNegative : F → Bool

def referenceVocabularySize : ℕ := 248320
def maximumRequestPrefillChunkSize : ℕ := 512
def qwen36ImEndTokenId : ℕ := 248046

inductive ReferenceRunnerError
  | none
  | invalidDependency
  | invalidModelWeights
  | invalidRequestState
  | invalidLayerSchedule
  | cudaFailure
  | allocationFailure
  | invalidRunner
  | poisoned
  | tokenOutOfRange
  | capacityExceeded
  | traceUnavailable
  | nonFiniteLogits
  | stateCommitFailure
  | invalidStepOptions
  | routeEvidenceFailure
  | cancelled
  deriving DecidableEq, Repr

structure ReferenceRunnerStatus where
  error : ReferenceRunnerError := .none
  cudaError : ℤ := 0
  layer : Option ℕ := none
  operation : Option String := none
  retiredPrefillQuanta : ℕ := 0
  deriving DecidableEq, Repr

def ReferenceRunnerStatus.ok (status : ReferenceRunnerStatus) : Bool :=
  decide (status.error = .none ∧ status.cudaError = 0)

inductive ReferenceLogitsMode
  | fullStatistics
  | predictedTokenOnly
  deriving DecidableEq, Repr

inductive ReferenceStopReason
  | imEnd
  | maxNewTokens
  | cancelled
  deriving DecidableEq, Repr

inductive ReferencePrefillExecutionMode
  | legacyC512Tiled
  | wholeRequestLayerMajor
  deriving DecidableEq, Repr

inductive GenerationControlError
  | none
  | invalidArgument
  | capacityExceeded
  | arithmeticOverflow
  | runnerFailure
  | unexpectedStep
  | missingLogits
  | missingTiming
  | allocationFailure
  | missingPrediction
  deriving DecidableEq, Repr

structure ReferenceStepOptions where
  computeLogits : Bool := true
  captureTrace : Bool := false
  measureTiming : Bool := false
  logitsMode : ReferenceLogitsMode := .fullStatistics
  deriving DecidableEq, Repr

structure ReferencePrefillTileOptions where
  measureTiming : Bool := false
  retainLastHiddenForLogits : Bool := false
  deriving DecidableEq, Repr

structure PrefillPromptOptions where
  measureTiming : Bool := false
  retainLastHiddenForLogits : Bool := false
  deriving DecidableEq, Repr

structure ReferenceStepLogits (F : Type) where
  predictedTokenId : ℕ
  chosenLogit : F
  maxLogProbability : F
  logsumexp : F
  deriving DecidableEq, Repr

structure ReferenceStepResult (F : Type) where
  position : ℕ := 0
  inputTokenId : ℕ := 0
  logits : Option (ReferenceStepLogits F) := none
  timing : Option F := none
  prediction : Option ℕ := none
  deriving DecidableEq, Repr

structure ReferencePrefillTileResult (F : Type) where
  steps : List (ReferenceStepResult F) := []
  timing : Option F := none
  deriving DecidableEq, Repr

structure PrefillPromptPanelResult (F : Type) where
  logicalPanelOrdinal : ℕ := 0
  promptTokenOffset : ℕ := 0
  firstPosition : ℕ := 0
  endPosition : ℕ := 0
  steps : List (ReferenceStepResult F) := []
  deriving DecidableEq, Repr

structure PrefillPromptResult (F : Type) where
  panels : List (PrefillPromptPanelResult F) := []
  logicalPanelCount : ℕ := 0
  promptTokenCount : ℕ := 0
  progress : PrefillExecutionProgress := {}
  timing : Option F := none

structure Outcome (α : Type) where
  value : Option α := none
  status : ReferenceRunnerStatus := {}

def Outcome.toOption {α : Type} (outcome : Outcome α) : Option α :=
  if outcome.status.ok then outcome.value else none

inductive Thrown
  | allocation
  | other
  deriving DecidableEq, Repr

abbrev Callback (σ α : Type) := σ → Except Thrown α × σ

abbrev StepFunction (σ F : Type) :=
  ℕ → ReferenceStepOptions → Callback σ (Outcome (ReferenceStepResult F))

abbrev PrefillTileFunction (σ F : Type) :=
  List ℕ → ReferencePrefillTileOptions → Callback σ (Outcome (ReferencePrefillTileResult F))

abbrev PrefillPromptFunction (σ F : Type) :=
  List ℕ → PrefillExecutionPlan → PrefillPromptOptions →
    Callback σ (Outcome (PrefillPromptResult F))

-- The second component is the interval the controller's own clock measures around the call.
abbrev PrefillCommitFunction (σ F : Type) :=
  PrefillExecutionPlan → PrefillExecutionProgress → σ → (ReferenceRunnerStatus × F) × σ

abbrev CommittedTokenFunction (σ F : Type) := ℕ → ℕ → F → σ → Bool × σ

structure PrefillPlan (σ F : Type) where
  prefixStep : Option (StepFunction σ F) := none
  finishPrefill : Option (StepFunction σ F) := none
  prefixTile : Option (PrefillTileFunction σ F) := none
  finishPrefillFromTile : Option (StepFunction σ F) := none
  wholeRequest : Option (PrefillPromptFunction σ F) := none
  finishWholeRequestFromUncommittedRetained : Option (StepFunction σ F) := none
  commitWholeRequest : Option (PrefillCommitFunction σ F) := none

structure DecodePlan (σ F : Type) where
  decodeStep : Option (StepFunction σ F) := none

structure GenerationControlOptions (σ F : Type) where
  maxNewTokens : ℕ := 0
  stopTokenId : ℕ := qwen36ImEndTokenId
  maxSequenceLength : ℕ := 0
  prefillChunkSize : ℕ := 512
  captureTrace : Bool := false
  logitsMode : ReferenceLogitsMode := .fullStatistics
  prefillAllPromptTokens : Bool := false
  prefillSingleArbitraryTile : Bool := false
  prefillWholeRequestLayerMajor : Bool := false
  prefillMlpScheduleTactic : LayerMajorPrefillMlpScheduleTactic := .perOperatorPanel
  committedToken : Option (CommittedTokenFunction σ F) := none

structure ReferenceGenerationTiming (F : Type) where
  prefixExecutionMilliseconds : List F
  finishPrefillMilliseconds : F
  promptPrefillMilliseconds : F
  timeToFirstTokenMilliseconds : F
  subsequentTokenMilliseconds : List F
  decodeAfterFirstMilliseconds : F
  totalGenerationMilliseconds : F
  commitPrefillMilliseconds : F

structure GenerationControl (F : Type) where
  generatedTokenIds : List ℕ
  steps : List (ReferenceStepResult F)
  stopReason : ReferenceStopReason
  timing : ReferenceGenerationTiming F
  prefillExecutionMode : ReferencePrefillExecutionMode
  prefillLogicalPanelCount : ℕ
  prefillRouteLayerPassCount : ℕ

inductive Call
  | prefixStep (position token : ℕ)
  | prefixTile (position : ℕ) (tokens : List ℕ) (retain : Bool)
  | wholeRequest (plan : PrefillExecutionPlan) (tokens : List ℕ)
  | finishPrefill (position token : ℕ)
  | commitWholeRequest (plan : PrefillExecutionPlan) (progress : PrefillExecutionProgress)
  | decodeStep (position token : ℕ)
  | committedToken (token index : ℕ)
  | round (options : Mtp.RoundOptions)

structure World (σ : Type) where
  context : σ
  calls : List Call := []

inductive Stop
  | failed (error : GenerationControlError) (status : ReferenceRunnerStatus := {})
  | escaped
  deriving DecidableEq

abbrev ControlM (σ : Type) := ExceptT Stop (StateM (World σ))

end Qwen3xOrin.Generation
