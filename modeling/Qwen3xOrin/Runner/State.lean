import Qwen3xOrin.Request.Reset
import Qwen3xOrin.Runner.DecodeGraphs
import Qwen3xOrin.Runner.RouteEvidence

/-! The state of a runner over its request state, and the operations that open and close a request.
A CUDA call answers with a status, zero for success; the kernels of a call leave any bytes in the
part of the arena they write. -/

namespace Qwen3xOrin.Request

namespace RequestState

variable (state : RequestState)

def statusOf (error : RequestAccessError) : RequestOperationStatus := { error := some error }

def setSequenceLength (length : ℕ) : RequestOperationStatus × RequestState :=
  if state.arena.isNone then (statusOf .emptyState, state)
  else if state.plan.maxSequenceLength < length then (statusOf .capacityExceeded, state)
  else ({}, { state with sequenceLength := length })

def commitToken : RequestOperationStatus × RequestState :=
  if state.arena.isNone then (statusOf .emptyState, state)
  else if state.plan.maxSequenceLength ≤ state.sequenceLength then
    (statusOf .capacityExceeded, state)
  else ({}, { state with sequenceLength := state.sequenceLength + 1 })

def publishSequenceLength (expectedCurrent desired : ℕ) : RequestOperationStatus × RequestState :=
  if state.arena.isNone then (statusOf .emptyState, state)
  else if expectedCurrent ≠ state.sequenceLength then (statusOf .sequenceLengthMismatch, state)
  else if state.plan.maxSequenceLength < desired then (statusOf .capacityExceeded, state)
  else if desired < expectedCurrent then (statusOf .sequenceLengthRegression, state)
  else ({}, { state with sequenceLength := desired })

def remainingCapacity : ℕ := state.plan.maxSequenceLength - state.sequenceLength

def rowCovers (row : Except RequestAccessError RequestRegion) (address : ℕ) : Bool :=
  match row with
  | .ok region => decide (Covers region.arenaOffset region.byteSize address)
  | .error _ => false

-- What the kernels of `count` tokens from `first` on write: the workspace and the RoPE tables, the
-- recurrent state and the cache rows of these positions.
def writable (plan : RequestMemoryPlan) (first count address : ℕ) : Bool :=
  !decide (Covers plan.persistentOffset plan.persistentBytes address) ||
  decide (Covers plan.convState.arenaOffset plan.convState.byteSize address) ||
  decide (Covers plan.gdnState.arenaOffset plan.gdnState.byteSize address) ||
  (List.range requestLayerCount).any fun layer => (List.range count).any fun offset =>
    rowCovers (keyPosition plan layer (first + offset)) address ||
      rowCovers (valuePosition plan layer (first + offset)) address

def overwrite (written : ℕ → Bool) (bytes : ArenaBytes) : RequestState :=
  { state with
    arena := state.arena.map fun arena address =>
      if written address then bytes address else arena address }

end RequestState

end Qwen3xOrin.Request

namespace Qwen3xOrin.Runner

open Library Request
open Prefill (PrefillExecutionProgress)
open Generation (ReferenceRunnerStatus ReferenceRunnerError)

inductive RequestReuseBoundary
  | knownClean
  | committed
  | uncertain
  deriving DecidableEq, Repr

structure RequestResetDecision where
  mode : RequestStateResetMode := .conservativeFull
  committedPositions : ℕ := 0
  deriving DecidableEq, Repr

def selectRequestReset (boundary : RequestReuseBoundary)
    (committedPositions currentPosition maxSequenceLength : ℕ)
    (memoryProfile : RequestMemoryProfile) (poisoned wholeRequestActive : Bool) :
    RequestResetDecision :=
  if memoryProfile ≠ .legacyC512 ∨ poisoned ∨ wholeRequestActive ∨ maxSequenceLength = 0 ∨
      maxSequenceLength < currentPosition then {}
  else if boundary = .knownClean ∧ committedPositions = 0 ∧ currentPosition = 0 then
    ⟨.alreadyClean, 0⟩
  else if boundary = .committed ∧ committedPositions ≠ 0 ∧
      committedPositions = currentPosition then
    ⟨.committedDirtyPrefix, committedPositions⟩
  else {}

inductive WholeRequestPrefillStagePhase
  | idle
  | executing
  | awaitingLogits
  | awaitingCommit
  deriving DecidableEq, Repr

-- `finalNormalizedHidden` is the device address of the hidden row, absent where it is null.
structure WholeRequestPrefillStage where
  phase : WholeRequestPrefillStagePhase := .idle
  expectedInitialSequenceLength : ℕ := 0
  committedSequenceLength : ℕ := 0
  finalPosition : ℕ := 0
  finalInputTokenId : ℕ := 0
  promptTokenCount : ℕ := 0
  logicalPanelCount : ℕ := 0
  mlpPhaseCountPerLayer : ℕ := 0
  finalNormalizedHidden : Option ℕ := none
  completedUncommittedProgress : PrefillExecutionProgress := {}
  routeEvidenceAfterCommit : PrefillRouteEvidence := {}

structure RetainedPrefillHidden where
  valid : Bool := false
  position : ℕ := 0
  inputToken : ℕ := 0
  row : ℕ := 0
  deriving DecidableEq, Repr

structure LayerMajorRequestViews where
  promptResidual : Option ℕ := some 0
  promptResidualRows : ℕ
  promptResidualShapeValid : Bool := true
  finalHidden : Option ℕ := some 0
  finalHiddenShapeValid : Bool := true
  deriving DecidableEq, Repr

-- What the factory fixes for the life of a runner.
structure RunnerSetup where
  sm87WeightOnly : Bool := true
  lmHeadBf16 : Bool := false
  auxiliaryStream : Bool := true
  traceReserved : Bool := false
  submissionEvents : Bool := true
  fp32ScratchElements : ℕ := 262144
  layerMajorRequestViews : Option LayerMajorRequestViews := none
  deriving DecidableEq, Repr

structure ReferenceRunner where
  setup : RunnerSetup := {}
  state : RequestState
  decodeGraphP1Slots : ℕ → Option DecodeGraphP1Slot := fun _ => none
  store : GraphStore := {}
  poisoned : Bool := false
  requestReuseBoundary : RequestReuseBoundary := .knownClean
  committedRequestPositions : ℕ := 0
  retained : RetainedPrefillHidden := {}
  stage : WholeRequestPrefillStage := {}
  prefillRouteEvidence : PrefillRouteEvidence := {}

abbrev RunnerM := ExceptT ReferenceRunnerStatus (StateM ReferenceRunner)

namespace ReferenceRunner

variable (runner : ReferenceRunner)

def currentPosition : ℕ := runner.state.sequenceLength

def maxSequenceLength : ℕ := runner.state.plan.maxSequenceLength

def memoryProfile : RequestMemoryProfile := runner.state.plan.profile

def wholeRequestPrefillActive : Bool := runner.stage.phase ≠ .idle

-- What every failure helper leaves behind once the streams are drained.
def failed : ReferenceRunner :=
  { runner with
    poisoned := true
    requestReuseBoundary := .uncertain
    committedRequestPositions := 0
    retained := { runner.retained with valid := false }
    stage := {} }

def poison : ReferenceRunner := { runner with poisoned := true }

def markUncertain : ReferenceRunner :=
  { runner with requestReuseBoundary := .uncertain, committedRequestPositions := 0 }

def dropRetained : ReferenceRunner :=
  { runner with retained := { runner.retained with valid := false } }

end ReferenceRunner

def failStep {α : Type} (status : ReferenceRunnerStatus) : RunnerM α :=
  ExceptT.mk fun runner => (.error status, runner.failed)

def failPrefillTile {α : Type} : ReferenceRunnerStatus → RunnerM α := failStep

def failWholeRequestStatus {α : Type} : ReferenceRunnerStatus → RunnerM α := failStep

-- A check whose refusal fails the whole step.
def failStepIf (status : ReferenceRunnerStatus) (c : ReferenceRunner → Prop) [DecidablePred c] :
    RunnerM Unit := stopIf status c ReferenceRunner.failed

-- A check that is refused without any change.
def refuseIf (status : ReferenceRunnerStatus) (c : ReferenceRunner → Prop) [DecidablePred c] :
    RunnerM Unit := stopIf status c id

structure ResetAnswers where
  auxiliarySynchronize : ℤ := 0
  memset : Memset → ℤ := fun _ => 0
  synchronize : ℤ := 0

section Request

variable (answers : ResetAnswers) (runner : ReferenceRunner)

-- The auxiliary stream is drained first where there is one.
def auxiliaryFailure : Prop := runner.setup.auxiliaryStream = true ∧ answers.auxiliarySynchronize ≠ 0

instance : Decidable (auxiliaryFailure answers runner) := inferInstanceAs (Decidable (_ ∧ _))

def opened (boundary : RequestReuseBoundary) : ReferenceRunner :=
  { runner with
    poisoned := false
    requestReuseBoundary := boundary
    committedRequestPositions := 0
    retained := {}
    stage := {}
    prefillRouteEvidence := resetPrefillRouteRequest runner.prefillRouteEvidence }

end Request

def reset (answers : ResetAnswers) : RunnerM Unit :=
  ExceptT.mk fun runner =>
    if auxiliaryFailure answers runner then
      (.error (runnerStatus .cudaFailure "reset_auxiliary_synchronize"
        answers.auxiliarySynchronize), runner.poison)
    else
      match resetForRequestAsync answers.memset .conservativeFull 0 runner.state {} with
      | (status, state, _) =>
        let runner := { runner with state := state }
        if status ≠ {} then
          (.error (runnerStatus .cudaFailure "request_state_reset" status.cudaError), runner.poison)
        else if answers.synchronize ≠ 0 then
          (.error (runnerStatus .cudaFailure "reset_synchronize" answers.synchronize),
            runner.poison)
        else (.ok (), opened runner .knownClean)

def requestDecision (runner : ReferenceRunner) : RequestResetDecision :=
  selectRequestReset runner.requestReuseBoundary runner.committedRequestPositions
    runner.currentPosition runner.maxSequenceLength runner.memoryProfile runner.poisoned
    runner.wholeRequestPrefillActive

def beginOrdinaryRequest (answers : ResetAnswers) : RunnerM RequestStateResetReceipt :=
  ExceptT.mk fun found =>
    let decision := requestDecision found
    let runner := found.markUncertain
    if auxiliaryFailure answers runner then
      (.error (runnerStatus .cudaFailure "request_reset_auxiliary_synchronize"
        answers.auxiliarySynchronize), runner.poison)
    else
      match resetForRequestAsync answers.memset decision.mode decision.committedPositions
          runner.state {} with
      | (status, state, receipt) =>
        let runner := { runner with state := state }
        if status ≠ {} then
          (.error (runnerStatus
            (if status.error = none then .cudaFailure else .invalidRequestState)
            "request_state_ordinary_reset" status.cudaError), runner.poison)
        else if decision.mode ≠ .alreadyClean ∧ answers.synchronize ≠ 0 then
          (.error (runnerStatus .cudaFailure "request_reset_synchronize" answers.synchronize),
            runner.poison)
        else (.ok receipt, opened runner runner.requestReuseBoundary)

def commitOrdinaryRequestBoundary : RunnerM Unit :=
  ExceptT.mk fun runner =>
    if runner.poisoned ∨ runner.wholeRequestPrefillActive ∨ runner.currentPosition = 0 ∨
        runner.maxSequenceLength < runner.currentPosition ∨
        runner.requestReuseBoundary ≠ .uncertain then
      (.error (runnerStatus .invalidRequestState "commit_ordinary_request_boundary"),
        runner.markUncertain)
    else if runner.memoryProfile ≠ .legacyC512 then
      (.ok (), { runner with committedRequestPositions := 0 })
    else
      (.ok (), { runner with
        committedRequestPositions := runner.currentPosition
        requestReuseBoundary := .committed })

-- Every role of a scalar step counts as an exact fallback.
def scalarRecords : List RoleIndex := List.finRange prefillOperatorRoleCount

def scalarLayerPass : PrefillRouteEvidence → List RoleIndex → Option PrefillRouteEvidence
  | evidence, [] => some evidence
  | evidence, index :: rest =>
    match recordPrefillOperatorRoute evidence (roleAt index) .exactFallback
        (expectedPrefillLogicalOperatorsPerTile index) with
    | (true, evidence) => scalarLayerPass evidence rest
    | (false, _) => none

def recordScalarPrefillRouteFallback : RunnerM Unit := do
  failStepIf (runnerStatus .invalidStepOptions "whole_request_prefill_scalar_route_active")
    (·.wholeRequestPrefillActive)
  ExceptT.mk fun runner =>
    match scalarLayerPass {} scalarRecords with
    | none => (.error (runnerStatus .routeEvidenceFailure "prefill_scalar_route_record"), runner)
    | some tile =>
      let (committed, evidence) := commitPrefillRouteLayerPass runner.prefillRouteEvidence tile
      let runner := { runner with prefillRouteEvidence := evidence }
      if committed then (.ok (), runner)
      else (.error (runnerStatus .routeEvidenceFailure "prefill_scalar_route_commit"), runner)

-- The evidence handed out; an active stage is aborted and its request reported as invalid.
def finalizePrefillRouteEvidence (expectedLayerPasses : ℕ) (runner : ReferenceRunner) :
    PrefillRouteEvidence × ReferenceRunner :=
  if runner.wholeRequestPrefillActive then
    ({ runner.prefillRouteEvidence with
        error := .incompleteTile
        requestActive := false
        complete := true
        valid := false
        expectedLayerPasses := expectedLayerPasses },
      runner.failed)
  else
    let evidence := finalizePrefillRouteRequest runner.prefillRouteEvidence expectedLayerPasses
    (evidence, { runner with prefillRouteEvidence := evidence })

end Qwen3xOrin.Runner
