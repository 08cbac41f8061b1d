import Qwen3xOrin.Runner.GraphCache

/-! Calls that find a whole-request stage active abort it; calls that find none leave none. -/

namespace Qwen3xOrin.Runner

open Library Request Prefill
open Generation hiding maximumRequestPrefillChunkSize Outcome

section Active

variable {F : Type} {cfg : BuildConfig} {α β : Type} {runner : ReferenceRunner}

structure Aborted (runner reached : ReferenceRunner) : Prop where
  idle : reached.stage.phase = .idle
  poisoned : reached.poisoned = true
  length : reached.currentPosition = runner.currentPosition
  route : reached.prefillRouteEvidence = runner.prefillRouteEvidence

lemma aborted_failed : Aborted runner runner.failed := ⟨rfl, rfl, rfl, rfl⟩

-- The call failed at once.
def FailsAtOnce (m : RunnerM α) (runner : ReferenceRunner) : Prop :=
  ∃ status, outcome m runner = (.error status, runner.failed)

lemma FailsAtOnce.bind {m : RunnerM α} (h : FailsAtOnce m runner) (f : α → RunnerM β) :
    FailsAtOnce (m >>= f) runner := by
  obtain ⟨status, h⟩ := h
  exact ⟨status, by rw [outcome_bind, h]⟩

lemma active_fails (hactive : runner.wholeRequestPrefillActive) (status : ReferenceRunnerStatus) :
    FailsAtOnce (failStepIf status (·.wholeRequestPrefillActive)) runner := by
  refine ⟨status, ?_⟩
  rw [failStepIf, outcome_stopIf, if_pos hactive]

lemma FailsAtOnce.verdict {m : RunnerM α} (h : FailsAtOnce m runner) :
    (verdict m runner).1 ≠ none ∧ (verdict m runner).2 = runner.failed := by
  obtain ⟨status, h⟩ := h
  unfold Runner.verdict
  rw [h]
  exact ⟨Option.some_ne_none _, rfl⟩

-- The step, tile, graph and route operations.
def RunnerOperation.interrupts : RunnerOperation F → Bool
  | .recordScalarPrefillRouteFallback | .finalizePrefillRouteEvidence .. | .step ..
  | .prepareFixedPositionDecodeGraphP1 .. | .prepareFixedPositionDecodeGraphCache ..
  | .clearFixedPositionDecodeGraphCache .. | .replayFixedPositionDecodeGraphP1 ..
  | .prefillPrefixTile .. | .finishPrefillFromRetainedTile .. => true
  | _ => false

lemma interrupts_active (operation : RunnerOperation F) (h : operation.interrupts = true)
    (hactive : runner.wholeRequestPrefillActive) :
    operation.apply cfg runner = runner.failed := by
  cases operation with
  | recordScalarPrefillRouteFallback => exact ((active_fails hactive _).bind _).verdict.2
  | finalizePrefillRouteEvidence expected =>
    unfold RunnerOperation.apply RunnerOperation.perform finalizePrefillRouteEvidence
    dsimp only
    rw [if_pos hactive]
  | step answers token options => exact ((active_fails hactive _).bind _).verdict.2
  | prepareFixedPositionDecodeGraphP1 answers token =>
    exact ((active_fails hactive _).bind _).verdict.2
  | prepareFixedPositionDecodeGraphCache answers first last token =>
    exact ((active_fails hactive _).bind _).verdict.2
  | clearFixedPositionDecodeGraphCache answers =>
    exact ((active_fails hactive _).bind _).verdict.2
  | replayFixedPositionDecodeGraphP1 answers token measureTiming =>
    exact ((active_fails hactive _).bind _).verdict.2
  | prefillPrefixTile answers tokens options elision =>
    exact (((active_fails hactive _).bind _).bind _).verdict.2
  | finishPrefillFromRetainedTile answers token options =>
    exact ((active_fails hactive _).bind _).verdict.2
  | _ => cases h

end Active

section Idle

variable {F : Type} {cfg : BuildConfig} {α : Type} {runner : ReferenceRunner}

def Idle (runner : ReferenceRunner) : Prop := runner.stage.phase = .idle

lemma idle_of_not_active (h : ¬runner.wholeRequestPrefillActive) : Idle runner := by
  unfold ReferenceRunner.wholeRequestPrefillActive at h
  rw [decide_eq_true_eq, not_not] at h
  exact h

-- A call that leaves no stage where it found none.
def StaysIdle (m : RunnerM α) : Prop := Triple Idle m (fun _ => Idle) Idle

lemma stopIf_idle {status : ReferenceRunnerStatus} {c : ReferenceRunner → Prop} [DecidablePred c]
    {f : ReferenceRunner → ReferenceRunner} (hf : ∀ r, Idle r → Idle (f r)) :
    StaysIdle (stopIf status c f : RunnerM Unit) :=
  (Triple.stopIf fun r h _ => hf r h).conseq (fun _ h => h) (fun _ _ h => h.1) fun _ h => h

lemma failStepIf_idle (status : ReferenceRunnerStatus) (c : ReferenceRunner → Prop)
    [DecidablePred c] : StaysIdle (failStepIf status c) := stopIf_idle fun _ _ => rfl

lemma refuseIf_idle (status : ReferenceRunnerStatus) (c : ReferenceRunner → Prop)
    [DecidablePred c] : StaysIdle (refuseIf status c) := stopIf_idle fun _ h => h

lemma poisonIf_idle (status : ReferenceRunnerStatus) (c : ReferenceRunner → Prop)
    [DecidablePred c] : StaysIdle (stopIf status c ReferenceRunner.poison : RunnerM Unit) :=
  stopIf_idle fun _ h => h

lemma update_idle {f : ReferenceRunner → ReferenceRunner} (h : ∀ r, (f r).stage = r.stage) :
    StaysIdle (update f : RunnerM Unit) := Triple.update fun r hr => by
  unfold Idle
  rw [h r]
  exact hr

lemma failStepOn_idle (failure : Option ReferenceRunnerStatus) : StaysIdle (failStepOn failure) := by
  cases failure with
  | none => exact Triple.ret fun _ h => h
  | some status => exact fun _ _ => rfl

lemma failStepOnError_idle (result : Except ReferenceRunnerStatus α) :
    StaysIdle (failStepOnError result) := by
  cases result with
  | ok a => exact Triple.ret fun _ h => h
  | error status => exact fun _ _ => rfl

lemma onStore_idle (m : GraphM α) : StaysIdle (onStore m) := by
  intro runner h
  unfold onStore
  rw [outcome_mk]
  generalize outcome m runner.store = result
  obtain ⟨r, store⟩ := result
  cases r with
  | ok a => exact h
  | error e => exact rfl

lemma commitToken_idle : StaysIdle commitToken := by
  intro runner h
  unfold commitToken
  rw [outcome_mk]
  dsimp only
  split_ifs
  · exact rfl
  · exact h

lemma stepEntry_idle (token : ℕ) (options : ReferenceStepOptions) (action : DecodeGraphP1Action) :
    StaysIdle (stepEntry token options action) := by
  have hchecks : StaysIdle (do
      failStepIf (runnerStatus .tokenOutOfRange "input_token")
        (fun _ => referenceVocabularySize ≤ token)
      failStepIf (runnerStatus .capacityExceeded "request_capacity")
        (·.state.remainingCapacity = 0)
      failStepIf (runnerStatus .traceUnavailable "trace_not_reserved")
        (fun runner => options.captureTrace ∧ !runner.setup.traceReserved)
      failStepIf (runnerStatus .invalidStepOptions "decode_graph_p1_contract")
        (fun runner => action ≠ .disabled ∧ !decodeGraphContract options runner.setup)) := by
    refine Triple.bind (failStepIf_idle _ _) fun _ => ?_
    refine Triple.bind (failStepIf_idle _ _) fun _ => ?_
    exact Triple.bind (failStepIf_idle _ _) fun _ => failStepIf_idle _ _
  unfold stepEntry
  refine Triple.bind (failStepIf_idle _ _) fun _ => ?_
  refine Triple.bind (update_idle fun _ => rfl) fun _ => ?_
  refine Triple.bind (refuseIf_idle _ _) fun _ => ?_
  split_ifs
  · exact Triple.bind (update_idle fun _ => rfl) fun _ => hchecks
  · exact hchecks

lemma completeStep_idle (token : ℕ) (options : ReferenceStepOptions) (answers : StepAnswers F)
    (position : ℕ) : StaysIdle (completeStep token options answers position) := by
  unfold completeStep
  refine Triple.bind (failStepOn_idle _) fun _ => ?_
  refine Triple.bind Triple.unread fun _ => ?_
  refine Triple.bind (failStepOnError_idle _) fun _ => ?_
  exact Triple.bind commitToken_idle fun _ => Triple.ret fun _ h => h

lemma step_idle (token : ℕ) (options : ReferenceStepOptions) (answers : StepAnswers F) :
    StaysIdle (step token options answers) := by
  unfold step
  refine Triple.bind (failStepIf_idle _ _) fun _ => ?_
  refine Triple.bind (stepEntry_idle _ _ _) fun _ => ?_
  refine Triple.bind Triple.unread fun _ => ?_
  refine Triple.bind (update_idle fun _ => rfl) fun _ => ?_
  exact Triple.bind (failStepOn_idle _) fun _ => completeStep_idle _ _ _ _

lemma captureStep_idle (token : ℕ) (answers : CaptureAnswers) (staged : Bool)
    (owner : Option ℕ) : StaysIdle (captureStep token answers staged owner) := by
  unfold captureStep
  refine Triple.bind (stepEntry_idle _ _ _) fun _ => ?_
  refine Triple.bind (failStepOn_idle _) fun _ => ?_
  refine Triple.bind (failStepIf_idle _ _) fun _ => ?_
  refine Triple.bind Triple.unread fun _ => ?_
  refine Triple.bind (failStepIf_idle _ _) fun _ => ?_
  exact Triple.bind (failStepOn_idle _) fun _ => onStore_idle _

lemma prepareP1_idle (token : ℕ) (answers : CaptureAnswers) :
    StaysIdle (prepareFixedPositionDecodeGraphP1 token answers) := by
  unfold prepareFixedPositionDecodeGraphP1
  refine Triple.bind (failStepIf_idle _ _) fun _ => ?_
  refine Triple.bind Triple.unread fun _ => ?_
  refine Triple.bind (captureStep_idle _ _ _ _) fun _ => ?_
  exact Triple.bind (update_idle fun _ => rfl) fun _ => Triple.unread

lemma stageSlots_idle (token : ℕ) (captures : ℕ → CaptureAnswers) (positions : List ℕ)
    (staged : List DecodeGraphP1Slot) (h : Idle runner) :
    Idle (stageSlots token captures positions staged runner).2.2 := by
  induction positions generalizing staged runner with
  | nil => exact h
  | cons position positions ih =>
    unfold stageSlots
    dsimp only
    split_ifs
    · exact h
    · have hcapture := captureStep_idle token (captures position) true
        (staged.head?.map (·.exec)) (runner.setPosition position).2 h
      revert hcapture
      generalize outcome (captureStep token (captures position) true
        (staged.head?.map (·.exec))) (runner.setPosition position).2 = result
      obtain ⟨r, reached⟩ := result
      cases r with
      | ok slot => exact fun hreached => ih (staged ++ [slot]) hreached
      | error e => exact id

lemma prepareCache_idle (token : ℕ) (answers : CacheAnswers) (first last : ℕ) :
    StaysIdle (prepareFixedPositionDecodeGraphCache token answers first last) := by
  unfold prepareFixedPositionDecodeGraphCache
  refine Triple.bind (failStepIf_idle _ _) fun _ => ?_
  refine Triple.bind (refuseIf_idle _ _) fun _ => ?_
  refine Triple.bind (refuseIf_idle _ _) fun _ => ?_
  refine Triple.bind (refuseIf_idle _ _) fun _ => ?_
  refine Triple.bind (refuseIf_idle _ _) fun _ => ?_
  refine Triple.bind (refuseIf_idle _ _) fun _ => ?_
  refine Triple.bind (refuseIf_idle _ _) fun _ => ?_
  intro runner h
  rw [outcome_mk]
  have hstaged := stageSlots_idle token answers.captures (cacheRange first last) [] h
  revert hstaged
  generalize stageSlots token answers.captures (cacheRange first last) [] runner = result
  obtain ⟨failure, staged, reached⟩ := result
  intro hstaged
  cases failure with
  | some failure =>
    unfold rollbackStaging
    cases failure with
    | position status => exact hstaged
    | capture status =>
      dsimp only
      split_ifs
      · exact hstaged
      · exact hstaged
  | none =>
    unfold finishStaging
    dsimp only
    split_ifs
    · exact hstaged
    · exact hstaged
    · exact hstaged

lemma clear_idle (answers : ClearAnswers) :
    StaysIdle (clearFixedPositionDecodeGraphCache answers) := by
  unfold clearFixedPositionDecodeGraphCache
  refine Triple.bind (failStepIf_idle _ _) fun _ => ?_
  refine Triple.bind (poisonIf_idle _ _) fun _ => ?_
  refine Triple.bind (poisonIf_idle _ _) fun _ => ?_
  exact Triple.bind (update_idle fun _ => rfl) fun _ => poisonIf_idle _ _

lemma requireSlot_idle (position : ℕ) : StaysIdle (requireSlot position) := by
  intro runner h
  unfold requireSlot
  rw [outcome_mk]
  cases runner.preparedSlot position with
  | none => exact rfl
  | some slot => exact h

lemma replay_idle (token : ℕ) (answers : ReplayStepAnswers F) (measureTiming : Bool) :
    StaysIdle (replayFixedPositionDecodeGraphP1 token answers measureTiming) := by
  have hlaunched : StaysIdle (runLaunched answers.step.written) := by
    refine update_idle fun runner => ?_
    split <;> rfl
  unfold replayFixedPositionDecodeGraphP1
  refine Triple.bind (failStepIf_idle _ _) fun _ => ?_
  refine Triple.bind (stepEntry_idle _ _ _) fun _ => ?_
  refine Triple.bind Triple.unread fun _ => ?_
  refine Triple.bind (requireSlot_idle _) fun _ => ?_
  refine Triple.bind (onStore_idle _) fun _ => ?_
  exact Triple.bind hlaunched fun _ => completeStep_idle _ _ _ _

lemma recordScalar_idle : StaysIdle recordScalarPrefillRouteFallback := by
  unfold recordScalarPrefillRouteFallback
  refine Triple.bind (failStepIf_idle _ _) fun _ => ?_
  intro runner h
  rw [outcome_mk]
  cases scalarLayerPass {} scalarRecords with
  | none => exact h
  | some tile =>
    dsimp only
    split_ifs
    · exact h
    · exact h

lemma tileEntry_idle (tokens : List ℕ) (options : ReferencePrefillTileOptions) (elision : Bool) :
    StaysIdle (tileEntry tokens options elision) := by
  unfold tileEntry selectPrefillTileExecution
  refine Triple.bind (failStepIf_idle _ _) fun _ => ?_
  refine Triple.bind (update_idle fun _ => rfl) fun _ => ?_
  refine Triple.bind (refuseIf_idle _ _) fun _ => ?_
  refine Triple.bind (update_idle fun _ => rfl) fun _ => ?_
  refine Triple.bind (failStepIf_idle _ _) fun _ => ?_
  refine Triple.bind (failStepIf_idle _ _) fun _ => ?_
  refine Triple.bind (failStepIf_idle _ _) fun _ => ?_
  refine Triple.bind (failStepIf_idle _ _) fun _ => ?_
  exact Triple.bind (failStepIf_idle _ _) fun _ => failStepIf_idle _ _

lemma scalarTile_idle (options : ReferencePrefillTileOptions) (answers : StepAnswers F)
    (token : ℕ) : StaysIdle (scalarTile options answers token) := by
  unfold scalarTile
  refine Triple.bind (step_idle _ _ _) fun _ => ?_
  refine Triple.bind ?_ fun _ => (?_ : Triple Idle _ _ _)
  · intro runner h
    rw [outcome_mk]
    have hh := recordScalar_idle runner h
    revert hh
    generalize outcome recordScalarPrefillRouteFallback runner = result
    obtain ⟨r, reached⟩ := result
    cases r with
    | ok a => exact id
    | error e => exact fun _ => rfl
  · split_ifs
    · exact Triple.bind (update_idle fun _ => rfl) fun _ => Triple.ret fun _ h => h
    · exact Triple.ret fun _ h => h

lemma wholeTile_idle (tokens : List ℕ) (options : ReferencePrefillTileOptions)
    (answers : TileAnswers F) (elision : Bool) :
    StaysIdle (wholeTile tokens options answers elision) := by
  have hcommit (length : ℕ) : StaysIdle (commitTile length) := by
    intro runner h
    unfold commitTile
    rw [outcome_mk]
    dsimp only
    split_ifs
    · exact rfl
    · exact h
  have hroute : StaysIdle (commitTileRoute elision answers.layerPass) := by
    intro runner h
    unfold commitTileRoute
    rw [outcome_mk]
    dsimp only
    split_ifs
    · exact h
    · exact rfl
    · exact h
    · exact rfl
  unfold wholeTile
  refine Triple.bind Triple.unread fun _ => ?_
  refine Triple.bind (update_idle fun _ => rfl) fun _ => ?_
  refine Triple.bind (failStepOn_idle _) fun _ => ?_
  refine Triple.bind (failStepOn_idle _) fun _ => ?_
  refine Triple.bind (hcommit _) fun _ => ?_
  refine Triple.bind hroute fun _ => ?_
  split_ifs
  · exact Triple.bind (update_idle fun _ => rfl) fun _ => Triple.ret fun _ h => h
  · exact Triple.ret fun _ h => h

lemma tile_idle (tokens : List ℕ) (options : ReferencePrefillTileOptions)
    (answers : TileAnswers F) (elision : Bool) :
    StaysIdle (prefillPrefixTileImpl tokens options answers elision) := by
  unfold prefillPrefixTileImpl
  refine Triple.bind (tileEntry_idle _ _ _) fun _ => ?_
  split
  · exact scalarTile_idle _ _ _
  · exact wholeTile_idle _ _ _ _

lemma finishRetained_idle (token : ℕ) (options : ReferenceStepOptions) (answers : StepAnswers F) :
    StaysIdle (finishPrefillFromRetainedTile token options answers) := by
  unfold finishPrefillFromRetainedTile
  refine Triple.bind (failStepIf_idle _ _) fun _ => ?_
  refine Triple.bind Triple.unread fun _ => ?_
  refine Triple.bind (update_idle fun _ => rfl) fun _ => ?_
  refine Triple.bind (refuseIf_idle _ _) fun _ => ?_
  refine Triple.bind (failStepIf_idle _ _) fun _ => ?_
  refine Triple.bind (failStepIf_idle _ _) fun _ => ?_
  refine Triple.bind (update_idle fun _ => rfl) fun _ => ?_
  refine Triple.bind (failStepOn_idle _) fun _ => ?_
  refine Triple.bind (failStepOn_idle _) fun _ => ?_
  refine Triple.bind Triple.unread fun _ => ?_
  exact Triple.bind (failStepOnError_idle _) fun _ => Triple.ret fun _ h => h

-- After such a call there is no stage, whether it aborted one or found none.
lemma interrupts_idle (operation : RunnerOperation F) (h : operation.interrupts = true) :
    Idle (operation.apply cfg runner) := by
  by_cases hactive : runner.wholeRequestPrefillActive
  · rw [interrupts_active operation h hactive]
    exact rfl
  · have hidle : Idle runner := idle_of_not_active hactive
    cases operation with
    | recordScalarPrefillRouteFallback => exact verdict_final (recordScalar_idle.final hidle)
    | finalizePrefillRouteEvidence expected =>
      unfold RunnerOperation.apply RunnerOperation.perform finalizePrefillRouteEvidence
      dsimp only
      rw [if_neg hactive]
      exact hidle
    | step answers token options => exact verdict_final ((step_idle _ _ _).final hidle)
    | prepareFixedPositionDecodeGraphP1 answers token =>
      exact verdict_final ((prepareP1_idle _ _).final hidle)
    | prepareFixedPositionDecodeGraphCache answers first last token =>
      exact verdict_final ((prepareCache_idle _ _ _ _).final hidle)
    | clearFixedPositionDecodeGraphCache answers =>
      exact verdict_final ((clear_idle _).final hidle)
    | replayFixedPositionDecodeGraphP1 answers token measureTiming =>
      exact verdict_final ((replay_idle _ _ _).final hidle)
    | prefillPrefixTile answers tokens options elision =>
      exact verdict_final ((tile_idle _ _ _ _).final hidle)
    | finishPrefillFromRetainedTile answers token options =>
      exact verdict_final ((finishRetained_idle _ _ _).final hidle)
    | _ => cases h

end Idle

end Qwen3xOrin.Runner
