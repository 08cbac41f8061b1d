import Qwen3xOrin.Runner.WholeRequestPrefill

/-! The operations of a runner and its runs: any sequence of calls, each with any answers of CUDA. -/

namespace Qwen3xOrin.Runner

open Library Request Prefill
open Generation hiding maximumRequestPrefillChunkSize Outcome

-- What the calls of a draft transaction may leave behind. They run on the whole-core profile only;
-- the reuse boundary is uncertain from the first of them on.
structure MtpEffect where
  arena : ArenaBytes
  sequenceLength : ℕ
  poisoned : Bool

inductive RunnerOperation (F : Type)
  | reset (answers : ResetAnswers)
  | beginOrdinaryRequest (answers : ResetAnswers)
  | commitOrdinaryRequestBoundary
  | recordScalarPrefillRouteFallback
  | finalizePrefillRouteEvidence (expectedLayerPasses : ℕ)
  | step (answers : StepAnswers F) (inputTokenId : ℕ) (options : ReferenceStepOptions)
  | prepareFixedPositionDecodeGraphP1 (answers : CaptureAnswers) (inputTokenId : ℕ)
  | prepareFixedPositionDecodeGraphCache (answers : CacheAnswers)
      (firstPosition lastPosition inputTokenId : ℕ)
  | clearFixedPositionDecodeGraphCache (answers : ClearAnswers)
  | replayFixedPositionDecodeGraphP1 (answers : ReplayStepAnswers F) (inputTokenId : ℕ)
      (measureTiming : Bool)
  | prefillPrefixTile (answers : TileAnswers F) (inputTokenIds : List ℕ)
      (options : ReferencePrefillTileOptions) (terminalPrefixElision : Bool)
  | finishPrefillFromRetainedTile (answers : StepAnswers F) (inputTokenId : ℕ)
      (options : ReferenceStepOptions)
  | prefillWholeRequest (answers : WholeRequestAnswers F) (inputTokenIds : List ℕ)
      (plan : PrefillExecutionPlan) (tactics : WholeRequestTactics)
      (options : ReferenceWholeRequestPrefillOptions)
  | finishWholeRequest (answers : StepAnswers F) (inputTokenId : ℕ)
      (options : ReferenceStepOptions)
  | commitWholeRequest (plan : PrefillExecutionPlan) (progress : PrefillExecutionProgress)
  | mtpTransaction (effect : MtpEffect)

def mtpTransaction (effect : MtpEffect) (runner : ReferenceRunner) : ReferenceRunner :=
  if runner.memoryProfile ≠ .layerMajorP40WholeCore ∨
      runner.maxSequenceLength < effect.sequenceLength then runner
  else
    { runner with
      state :=
        { runner.state with
          arena := runner.state.arena.map fun _ => effect.arena
          sequenceLength := effect.sequenceLength }
      poisoned := runner.poisoned || effect.poisoned
      requestReuseBoundary := .uncertain
      committedRequestPositions := 0
      retained := { runner.retained with valid := false } }

variable {F : Type} (cfg : BuildConfig)

-- Whether the call succeeded, and the runner it leaves.
def verdict {α : Type} (m : RunnerM α) (runner : ReferenceRunner) :
    Option ReferenceRunnerStatus × ReferenceRunner :=
  match outcome m runner with
  | (.ok _, runner) => (none, runner)
  | (.error status, runner) => (some status, runner)

def RunnerOperation.perform :
    RunnerOperation F → ReferenceRunner → Option ReferenceRunnerStatus × ReferenceRunner
  | .reset answers => verdict (Runner.reset answers)
  | .beginOrdinaryRequest answers => verdict (Runner.beginOrdinaryRequest answers)
  | .commitOrdinaryRequestBoundary => verdict Runner.commitOrdinaryRequestBoundary
  | .recordScalarPrefillRouteFallback => verdict Runner.recordScalarPrefillRouteFallback
  | .finalizePrefillRouteEvidence expected => fun runner =>
    (none, (Runner.finalizePrefillRouteEvidence expected runner).2)
  | .step answers token options => verdict (Runner.step token options answers)
  | .prepareFixedPositionDecodeGraphP1 answers token =>
    verdict (Runner.prepareFixedPositionDecodeGraphP1 token answers)
  | .prepareFixedPositionDecodeGraphCache answers first last token =>
    verdict (Runner.prepareFixedPositionDecodeGraphCache token answers first last)
  | .clearFixedPositionDecodeGraphCache answers =>
    verdict (Runner.clearFixedPositionDecodeGraphCache answers)
  | .replayFixedPositionDecodeGraphP1 answers token measureTiming =>
    verdict (Runner.replayFixedPositionDecodeGraphP1 token answers measureTiming)
  | .prefillPrefixTile answers tokens options elision =>
    verdict (prefillPrefixTileImpl tokens options answers elision)
  | .finishPrefillFromRetainedTile answers token options =>
    verdict (Runner.finishPrefillFromRetainedTile token options answers)
  | .prefillWholeRequest answers tokens plan tactics options =>
    verdict (prefillWholeRequestLayerMajorCore cfg tokens plan tactics options answers)
  | .finishWholeRequest answers token options =>
    verdict (finishWholeRequestCompatibilityCore token options answers)
  | .commitWholeRequest plan progress =>
    verdict (commitWholeRequestLayerMajorCompatibilityCore cfg plan progress)
  | .mtpTransaction effect => fun runner => (none, Runner.mtpTransaction effect runner)

def RunnerOperation.apply (operation : RunnerOperation F) (runner : ReferenceRunner) :
    ReferenceRunner := (operation.perform cfg runner).2

def runOperations (operations : List (RunnerOperation F)) (runner : ReferenceRunner) :
    ReferenceRunner := operations.foldl (fun runner operation => operation.apply cfg runner) runner

-- The runner's end: a last reset where one is due, then every slot is destroyed.
def release (answers : ResetAnswers) (runner : ReferenceRunner) : ReferenceRunner :=
  let runner :=
    if runner.wholeRequestPrefillActive ∨ runner.poisoned then
      (verdict (Runner.reset answers) runner).2
    else runner
  { runner.destroyDecodeGraphP1 with
    stage := {}
    poisoned := false
    requestReuseBoundary := .knownClean
    committedRequestPositions := 0
    retained := {}
    prefillRouteEvidence := {} }

-- A runner as the factory hands it out, over a request state that was just created.
structure Created (runner : ReferenceRunner) : Prop where
  slots : runner.decodeGraphP1Slots = fun _ => none
  store : runner.store = {}
  poisoned : runner.poisoned = false
  boundary : runner.requestReuseBoundary = .knownClean
  committed : runner.committedRequestPositions = 0
  retained : runner.retained = {}
  idle : runner.stage.phase = .idle
  start : runner.state.sequenceLength = 0
  zeroed : ∃ arena, runner.state.arena = some arena ∧
    ∀ address, Persistent runner.state.plan address → arena address = 0

end Qwen3xOrin.Runner
