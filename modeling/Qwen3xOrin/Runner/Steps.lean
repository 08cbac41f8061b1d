import Qwen3xOrin.Runner.State

/-! The token steps of a runner: ordinary steps, prefill tiles, the finish of a retained tile, and
the captures and replays of its decode graphs. -/

namespace Qwen3xOrin.Runner

open Library Request
open Generation hiding maximumRequestPrefillChunkSize

variable {F : Type}

inductive DecodeGraphP1Action
  | disabled
  | captureOnly
  | replay
  deriving DecidableEq, Repr

structure LogitsAnswers (F : Type) where
  greedyNonfinite : Bool := false
  greedyIndex : ℕ := 0
  analysisOk : Bool := true
  analysis : ReferenceStepLogits F

-- `enqueue` is the first launch or host check that fails; what was issued before it has run.
structure StepAnswers (F : Type) where
  enqueue : Option ReferenceRunnerStatus := none
  written : ArenaBytes
  synchronize : ℤ := 0
  logits : LogitsAnswers F
  elapsed : F

structure TileAnswers (F : Type) where
  step : StepAnswers F
  layerPass : PrefillRouteEvidence

structure ReplayStepAnswers (F : Type) where
  replay : ReplayAnswers
  step : StepAnswers F

structure CacheAnswers where
  captures : ℕ → CaptureAnswers := fun _ => {}
  -- The first status of the destroy calls that is not a success.
  cleanup : ℤ := 0

structure ClearAnswers where
  mainSynchronize : ℤ := 0
  auxiliarySynchronize : ℤ := 0
  destroy : ℤ := 0
  deriving DecidableEq

structure ReferenceDecodeGraphCachePrepareResult where
  graphs : List ReferenceDecodeGraphP1Stats := []
  preparedMask : BitVec 64 := 0
  deriving DecidableEq

section Common

def failStepOn : Option ReferenceRunnerStatus → RunnerM Unit
  | some status => failStep status
  | none => pure ()

def usesSm87Bf16Logits (setup : RunnerSetup) : Bool := setup.sm87WeightOnly && !setup.lmHeadBf16

def readLogits (stem : String) (setup : RunnerSetup) (options : ReferenceStepOptions)
    (answers : LogitsAnswers F) (result : ReferenceStepResult F) :
    Except ReferenceRunnerStatus (ReferenceStepResult F) :=
  let predictionOnly := options.logitsMode = .predictedTokenOnly
  if options.computeLogits = false then .ok result
  else if predictionOnly ∧ usesSm87Bf16Logits setup then
    if answers.greedyNonfinite then
      .error (runnerStatus .nonFiniteLogits (stem ++ "bf16_greedy_argmax"))
    else if referenceVocabularySize ≤ answers.greedyIndex then
      .error (runnerStatus .cudaFailure (stem ++ "bf16_greedy_argmax_result"))
    else .ok { result with prediction := some answers.greedyIndex }
  else if answers.analysisOk = false then
    .error (runnerStatus .nonFiniteLogits (stem ++ "bf16_logits_analysis"))
  else if predictionOnly then
    .ok { result with prediction := some answers.analysis.predictedTokenId }
  else .ok { result with logits := some answers.analysis }

def failStepOnError {α : Type} : Except ReferenceRunnerStatus α → RunnerM α
  | .error status => failStep status
  | .ok a => pure a

def writeRows (first count : ℕ) (bytes : ArenaBytes) : RunnerM Unit :=
  update fun runner =>
    { runner with
      state := runner.state.overwrite (RequestState.writable runner.state.plan first count) bytes }

-- The logits of a hidden row only use the workspace.
def writeScratch (bytes : ArenaBytes) : RunnerM Unit :=
  update fun runner =>
    { runner with
      state := runner.state.overwrite (fun address => !decide (Covers
        runner.state.plan.persistentOffset runner.state.plan.persistentBytes address)) bytes }

def commitToken : RunnerM Unit :=
  ExceptT.mk fun runner =>
    match runner.state.commitToken with
    | (status, state) =>
      if status ≠ {} then
        (.error (runnerStatus .stateCommitFailure "commit_token" status.cudaError), runner.failed)
      else (.ok (), { runner with state := state })

def timingOf (measureTiming : Bool) (elapsed : F) : Option F :=
  if measureTiming then some elapsed else none

end Common

section Entry

variable (inputTokenId : ℕ) (options : ReferenceStepOptions)

def decodeGraphOptions (measureTiming : Bool) : ReferenceStepOptions :=
  { measureTiming := measureTiming, logitsMode := .predictedTokenOnly }

def decodeGraphContract (setup : RunnerSetup) : Bool :=
  options.computeLogits && !options.captureTrace &&
    decide (options.logitsMode = .predictedTokenOnly) && usesSm87Bf16Logits setup

-- The checks of a step before anything is launched.
def stepEntry (action : DecodeGraphP1Action) : RunnerM Unit := do
  failStepIf (runnerStatus .invalidStepOptions "whole_request_prefill_step_impl_active")
    (·.wholeRequestPrefillActive)
  update ReferenceRunner.dropRetained
  refuseIf (runnerStatus .poisoned "step") (·.poisoned)
  if action ≠ .captureOnly then update ReferenceRunner.markUncertain
  failStepIf (runnerStatus .tokenOutOfRange "input_token")
    (fun _ => referenceVocabularySize ≤ inputTokenId)
  failStepIf (runnerStatus .capacityExceeded "request_capacity")
    (·.state.remainingCapacity = 0)
  failStepIf (runnerStatus .traceUnavailable "trace_not_reserved")
    (fun runner => options.captureTrace ∧ !runner.setup.traceReserved)
  failStepIf (runnerStatus .invalidStepOptions "decode_graph_p1_contract")
    (fun runner => action ≠ .disabled ∧ !decodeGraphContract options runner.setup)

-- The end of a step that was not a capture: the logits are read and the token is committed.
def completeStep (answers : StepAnswers F) (position : ℕ) : RunnerM (ReferenceStepResult F) := do
  failStepOn (checkedStatus answers.synchronize false .cudaFailure "step_synchronize")
  let setup ← examine ReferenceRunner.setup
  let result ← failStepOnError (readLogits "" setup options answers.logits
    { position := position, inputTokenId := inputTokenId })
  commitToken
  pure { result with timing := timingOf options.measureTiming answers.elapsed }

def step (answers : StepAnswers F) : RunnerM (ReferenceStepResult F) := do
  failStepIf (runnerStatus .invalidStepOptions "whole_request_prefill_step_active")
    (·.wholeRequestPrefillActive)
  stepEntry inputTokenId options .disabled
  let position ← examine ReferenceRunner.currentPosition
  writeRows position 1 answers.written
  failStepOn answers.enqueue
  completeStep inputTokenId options answers position

end Entry

section Graphs

variable (inputTokenId : ℕ)

def publishAll (staged : List (ℕ × DecodeGraphP1Slot)) (slots : ℕ → Option DecodeGraphP1Slot) :
    ℕ → Option DecodeGraphP1Slot :=
  staged.foldl (fun slots entry => Function.update slots entry.1 (some entry.2)) slots

namespace ReferenceRunner

variable (runner : ReferenceRunner) (position : ℕ)

def preparedSlot : Option DecodeGraphP1Slot :=
  if position < referenceDecodeGraphP2MaximumSlots then
    (runner.decodeGraphP1Slots position).filter fun slot => slot.stats.position = position
  else none

def hasFixedPositionDecodeGraphP1 : Bool := (runner.preparedSlot position).isSome

def fixedPositionDecodeGraphP1Stats : Option ReferenceDecodeGraphP1Stats :=
  (runner.preparedSlot position).map (·.stats)

def publishedSlots : List DecodeGraphP1Slot :=
  (List.range referenceDecodeGraphP2MaximumSlots).filterMap runner.decodeGraphP1Slots

def destroyDecodeGraphP1 : ReferenceRunner :=
  { runner with
    decodeGraphP1Slots := fun _ => none
    store := destroySlots runner.publishedSlots runner.store }

-- The old slot of the position is destroyed as the new one takes its place.
def replaceSlot (slot : DecodeGraphP1Slot) : ReferenceRunner :=
  { runner with
    decodeGraphP1Slots := Function.update runner.decodeGraphP1Slots position (some slot)
    store := destroySlots (runner.decodeGraphP1Slots position).toList runner.store }

def destroyStaged (staged : List DecodeGraphP1Slot) : ReferenceRunner :=
  { runner with store := destroySlots staged runner.store }

def publishStaged (staged : List (ℕ × DecodeGraphP1Slot)) : ReferenceRunner :=
  { runner with decodeGraphP1Slots := publishAll staged runner.decodeGraphP1Slots }

def setPosition : RequestOperationStatus × ReferenceRunner :=
  ((runner.state.setSequenceLength position).1,
    { runner with state := (runner.state.setSequenceLength position).2 })

end ReferenceRunner

-- A failure of a graph call fails the step.
def onStore {α : Type} (m : GraphM α) : RunnerM α :=
  ExceptT.mk fun runner =>
    match outcome m runner.store with
    | (.ok a, store) => (.ok a, { runner with store := store })
    | (.error status, store) => (.error status, { runner with store := store }.failed)

def captureStep (answers : CaptureAnswers) (staged : Bool) (sharedExecutableOwner : Option ℕ) :
    RunnerM DecodeGraphP1Slot := do
  stepEntry inputTokenId (decodeGraphOptions false) .captureOnly
  failStepOn (checkedStatus answers.device false .cudaFailure "decode_graph_p1_device")
  failStepIf (runnerStatus .invalidStepOptions "decode_graph_p1_requires_sm87")
    (fun _ => answers.capability ≠ (8, 7))
  let position ← examine ReferenceRunner.currentPosition
  failStepIf (runnerStatus .invalidStepOptions "decode_graph_p1_position_not_cacheable")
    (fun _ => referenceDecodeGraphP2MaximumSlots ≤ position)
  failStepOn (checkedStatus answers.beginCapture false .cudaFailure
    "decode_graph_p1_begin_capture")
  onStore (captureSlot answers position inputTokenId staged sharedExecutableOwner)

def prepareFixedPositionDecodeGraphP1 (answers : CaptureAnswers) :
    RunnerM (Option ReferenceDecodeGraphP1Stats) := do
  failStepIf (runnerStatus .invalidStepOptions "whole_request_prefill_graph_prepare_active")
    (·.wholeRequestPrefillActive)
  let position ← examine ReferenceRunner.currentPosition
  let slot ← captureStep inputTokenId answers false none
  update fun runner => runner.replaceSlot position slot
  examine fun runner => runner.fixedPositionDecodeGraphP1Stats position

inductive StagingFailure
  | position (status : RequestOperationStatus)
  | capture (status : ReferenceRunnerStatus)

-- The first slot of the range owns the executable that the others share.
def stageSlots (captures : ℕ → CaptureAnswers) :
    List ℕ → List DecodeGraphP1Slot → ReferenceRunner →
      Option StagingFailure × List DecodeGraphP1Slot × ReferenceRunner
  | [], staged, runner => (none, staged, runner)
  | position :: positions, staged, runner =>
    match runner.setPosition position with
    | (status, runner) =>
      if status ≠ {} then (some (.position status), staged, runner)
      else
        match outcome (captureStep inputTokenId (captures position) true
            (staged.head?.map (·.exec))) runner with
        | (.error status, runner) => (some (.capture status), staged, runner)
        | (.ok slot, runner) => stageSlots captures positions (staged ++ [slot]) runner

def rollbackStatus (restore : RequestOperationStatus) (cleanup : ℤ)
    (otherwise : ReferenceRunnerStatus) : ReferenceRunnerStatus :=
  if restore ≠ {} then
    runnerStatus .stateCommitFailure "decode_graph_cache_restore_position" restore.cudaError
  else if cleanup ≠ 0 then runnerStatus .cudaFailure "decode_graph_cache_rollback_destroy" cleanup
  else otherwise

-- A capture that failed has poisoned the runner already.
def rollbackStaging (cleanup : ℤ) (entryPosition : ℕ) (failure : StagingFailure)
    (staged : List DecodeGraphP1Slot) (runner : ReferenceRunner) :
    ReferenceRunnerStatus × ReferenceRunner :=
  let (restore, runner) := runner.setPosition entryPosition
  let runner := runner.destroyStaged staged
  match failure with
  | .position status =>
    (rollbackStatus restore cleanup (runnerStatus .stateCommitFailure
      "decode_graph_cache_set_position" status.cudaError), runner.poison)
  | .capture status =>
    (rollbackStatus restore cleanup status,
      if restore ≠ {} ∨ cleanup ≠ 0 then runner.poison else runner)

def preparedMask (positions : List ℕ) : BitVec 64 :=
  positions.foldl (fun mask position => mask ||| 1#64 <<< position) 0

def finishStaging (cleanup : ℤ) (entryPosition : ℕ) (positions : List ℕ)
    (staged : List DecodeGraphP1Slot) (runner : ReferenceRunner) :
    Except ReferenceRunnerStatus ReferenceDecodeGraphCachePrepareResult × ReferenceRunner :=
  let (restore, runner) := runner.setPosition entryPosition
  if restore ≠ {} then
    (.error
      (if cleanup = 0 then
        runnerStatus .stateCommitFailure "decode_graph_cache_restore_position" restore.cudaError
      else runnerStatus .cudaFailure "decode_graph_cache_rollback_destroy" cleanup),
      (runner.destroyStaged staged).poison)
  else
    (.ok { graphs := staged.map (·.stats), preparedMask := preparedMask positions },
      runner.publishStaged (positions.zip staged))

def cacheRange (firstPosition lastPosition : ℕ) : List ℕ :=
  List.range' firstPosition (lastPosition + 1 - firstPosition)

def prepareFixedPositionDecodeGraphCache (answers : CacheAnswers)
    (firstPosition lastPosition : ℕ) : RunnerM ReferenceDecodeGraphCachePrepareResult := do
  failStepIf (runnerStatus .invalidStepOptions "whole_request_prefill_graph_cache_prepare_active")
    (·.wholeRequestPrefillActive)
  refuseIf (runnerStatus .poisoned "decode_graph_cache_prepare") (·.poisoned)
  refuseIf (runnerStatus .invalidStepOptions "decode_graph_cache_range")
    (fun _ => lastPosition < firstPosition ∨ referenceDecodeGraphP2MaximumSlots ≤ lastPosition)
  refuseIf (runnerStatus .capacityExceeded "decode_graph_cache_capacity")
    (·.maxSequenceLength ≤ lastPosition)
  refuseIf (runnerStatus .tokenOutOfRange "decode_graph_cache_input_token")
    (fun _ => referenceVocabularySize ≤ inputTokenId)
  refuseIf (runnerStatus .invalidStepOptions "decode_graph_cache_contract")
    (fun runner => !usesSm87Bf16Logits runner.setup)
  refuseIf (runnerStatus .invalidStepOptions "decode_graph_cache_range_not_empty")
    (fun runner => ∃ position ∈ cacheRange firstPosition lastPosition,
      runner.hasFixedPositionDecodeGraphP1 position)
  ExceptT.mk fun runner =>
    match stageSlots inputTokenId answers.captures (cacheRange firstPosition lastPosition) []
        runner with
    | (some failure, staged, reached) =>
      let (status, runner) :=
        rollbackStaging answers.cleanup runner.currentPosition failure staged reached
      (.error status, runner)
    | (none, staged, reached) =>
      finishStaging answers.cleanup runner.currentPosition
        (cacheRange firstPosition lastPosition) staged reached

def clearFixedPositionDecodeGraphCache (answers : ClearAnswers) : RunnerM Unit := do
  failStepIf (runnerStatus .invalidStepOptions "whole_request_prefill_graph_cache_clear_active")
    (·.wholeRequestPrefillActive)
  stopIf (runnerStatus .cudaFailure "decode_graph_cache_clear_main_synchronize"
    answers.mainSynchronize) (fun _ => answers.mainSynchronize ≠ 0) ReferenceRunner.poison
  stopIf (runnerStatus .cudaFailure "decode_graph_cache_clear_auxiliary_synchronize"
    answers.auxiliarySynchronize)
    (fun runner => runner.setup.auxiliaryStream = true ∧ answers.auxiliarySynchronize ≠ 0)
    ReferenceRunner.poison
  update ReferenceRunner.destroyDecodeGraphP1
  stopIf (runnerStatus .cudaFailure "decode_graph_cache_clear_destroy" answers.destroy)
    (fun _ => answers.destroy ≠ 0) ReferenceRunner.poison

-- The kernels of the launched executable write where its own plan says.
def runLaunched (bytes : ArenaBytes) : RunnerM Unit :=
  update fun runner =>
    match runner.store.launched.getLast? with
    | some content =>
      { runner with
        state := runner.state.overwrite
          (RequestState.writable runner.state.plan content.position 1) bytes }
    | none => runner

def requireSlot (position : ℕ) : RunnerM DecodeGraphP1Slot :=
  ExceptT.mk fun runner =>
    match runner.preparedSlot position with
    | some slot => (.ok slot, runner)
    | none =>
      (.error (runnerStatus .invalidStepOptions "decode_graph_p1_not_prepared"), runner.failed)

def replayFixedPositionDecodeGraphP1 (answers : ReplayStepAnswers F) (measureTiming : Bool) :
    RunnerM (ReferenceStepResult F) := do
  failStepIf (runnerStatus .invalidStepOptions "whole_request_prefill_graph_replay_active")
    (·.wholeRequestPrefillActive)
  stepEntry inputTokenId (decodeGraphOptions measureTiming) .replay
  let position ← examine ReferenceRunner.currentPosition
  let slot ← requireSlot position
  onStore (replaySlot answers.replay slot inputTokenId)
  runLaunched answers.step.written
  completeStep inputTokenId (decodeGraphOptions measureTiming) answers.step position

end Graphs

section Tiles

variable (inputTokenIds : List ℕ) (options : ReferencePrefillTileOptions)

def retain (position inputToken row : ℕ) : RunnerM Unit :=
  update fun runner => { runner with retained := ⟨true, position, inputToken, row⟩ }

-- The scope checks of a tile of all layers over the runner's own workspace.
def selectPrefillTileExecution (terminalPrefixElision : Bool) : RunnerM Unit := do
  failStepIf (runnerStatus .invalidRequestState "prefill_tile_workspace_capacity")
    (fun runner => runner.state.plan.prefillChunkSize = 0 ∨
      maximumRequestPrefillChunkSize < runner.state.plan.prefillChunkSize)
  failStepIf (runnerStatus .invalidStepOptions "prefill_terminal_prefix_observable_scope")
    (fun _ => terminalPrefixElision ∧ options.retainLastHiddenForLogits)
  failStepIf (runnerStatus .capacityExceeded "prefill_tile_capacity")
    (fun runner => runner.maxSequenceLength < runner.currentPosition ∨
      runner.maxSequenceLength - runner.currentPosition < inputTokenIds.length ∨
      runner.state.plan.prefillChunkSize < inputTokenIds.length)

def tileEntry (terminalPrefixElision : Bool) : RunnerM Unit := do
  failStepIf (runnerStatus .invalidStepOptions "whole_request_prefill_legacy_tile_active")
    (·.wholeRequestPrefillActive)
  update ReferenceRunner.dropRetained
  refuseIf (runnerStatus .poisoned "prefill_prefix_tile") (·.poisoned)
  update ReferenceRunner.markUncertain
  failStepIf (runnerStatus .tokenOutOfRange "prefill_tile_tokens")
    (fun _ => inputTokenIds.length = 0 ∨ maximumRequestPrefillChunkSize < inputTokenIds.length)
  failStepIf (runnerStatus .tokenOutOfRange "prefill_tile_token")
    (fun _ => ∃ token ∈ inputTokenIds, referenceVocabularySize ≤ token)
  failStepIf (runnerStatus .invalidStepOptions "prefill_terminal_prefix_runner_scope")
    (fun runner => terminalPrefixElision ∧
      (!runner.setup.sm87WeightOnly ∨ runner.memoryProfile ≠ .legacyC512))
  selectPrefillTileExecution inputTokenIds options terminalPrefixElision

-- A tile of one token is an ordinary step whose route is recorded as a fallback.
def scalarTile (answers : StepAnswers F) (token : ℕ) : RunnerM (ReferencePrefillTileResult F) := do
  let result ← step token { computeLogits := false, measureTiming := options.measureTiming } answers
  ExceptT.mk fun runner =>
    match outcome recordScalarPrefillRouteFallback runner with
    | (.error status, runner) => (.error status, runner.failed)
    | (.ok _, runner) => (.ok (), runner)
  if options.retainLastHiddenForLogits then retain result.position result.inputTokenId 0
  pure { steps := [result], timing := result.timing }

def commitTile (committedLength : ℕ) : RunnerM Unit :=
  ExceptT.mk fun runner =>
    match runner.setPosition committedLength with
    | (status, runner) =>
      if status ≠ {} then
        (.error (runnerStatus .stateCommitFailure "prefill_tile_commit" status.cudaError),
          runner.failed)
      else (.ok (), runner)

def commitTileRoute (terminalPrefixElision : Bool) (layerPass : PrefillRouteEvidence) :
    RunnerM Unit :=
  ExceptT.mk fun runner =>
    let (committed, evidence) :=
      if terminalPrefixElision then
        commitTerminalPrefixElidedLayerPass runner.prefillRouteEvidence layerPass
      else commitPrefillRouteLayerPass runner.prefillRouteEvidence layerPass
    let runner := { runner with prefillRouteEvidence := evidence }
    if committed then (.ok (), runner)
    else
      (.error (runnerStatus .routeEvidenceFailure "prefill_tile_route_commit"), runner.failed)

def tileSteps (firstPosition : ℕ) : List (ReferenceStepResult F) :=
  inputTokenIds.mapIdx fun index token =>
    { position := firstPosition + index, inputTokenId := token }

def wholeTile (answers : TileAnswers F) (terminalPrefixElision : Bool) :
    RunnerM (ReferencePrefillTileResult F) := do
  let firstPosition ← examine ReferenceRunner.currentPosition
  let count := inputTokenIds.length
  writeRows firstPosition count answers.step.written
  failStepOn answers.step.enqueue
  failStepOn (checkedStatus answers.step.synchronize false .cudaFailure
    "prefill_tile_synchronize")
  commitTile (firstPosition + count)
  commitTileRoute terminalPrefixElision answers.layerPass
  if options.retainLastHiddenForLogits then
    retain (firstPosition + count - 1) (inputTokenIds.getLastD 0) (count - 1)
  pure
    { steps := tileSteps inputTokenIds firstPosition
      timing := timingOf options.measureTiming answers.step.elapsed }

def prefillPrefixTileImpl (answers : TileAnswers F) (terminalPrefixElision : Bool) :
    RunnerM (ReferencePrefillTileResult F) := do
  tileEntry inputTokenIds options terminalPrefixElision
  match inputTokenIds with
  | [token] => scalarTile options answers.step token
  | _ => wholeTile inputTokenIds options answers terminalPrefixElision

end Tiles

section Retained

variable (inputTokenId : ℕ) (options : ReferenceStepOptions)

def finishPrefillFromRetainedTile (answers : StepAnswers F) :
    RunnerM (ReferenceStepResult F) := do
  failStepIf (runnerStatus .invalidStepOptions "whole_request_prefill_legacy_finalizer_active")
    (·.wholeRequestPrefillActive)
  let retained ← examine ReferenceRunner.retained
  update ReferenceRunner.dropRetained
  refuseIf (runnerStatus .poisoned "finish_prefill_from_retained_tile") (·.poisoned)
  failStepIf (runnerStatus .invalidStepOptions "retained_prefill_logits_options")
    (fun _ => options.computeLogits = false ∨ options.captureTrace)
  failStepIf (runnerStatus .invalidStepOptions "retained_prefill_hidden_contract")
    (fun runner => retained.valid = false ∨ runner.currentPosition = 0 ∨
      retained.position + 1 ≠ runner.currentPosition ∨ retained.inputToken ≠ inputTokenId ∨
      maximumRequestPrefillChunkSize ≤ retained.row)
  writeScratch answers.written
  failStepOn answers.enqueue
  failStepOn (checkedStatus answers.synchronize false .cudaFailure
    "retained_prefill_logits_synchronize")
  let setup ← examine ReferenceRunner.setup
  let result ← failStepOnError (readLogits "retained_prefill_" setup options answers.logits
    { position := retained.position, inputTokenId := inputTokenId })
  pure { result with timing := timingOf options.measureTiming answers.elapsed }

end Retained

end Qwen3xOrin.Runner
