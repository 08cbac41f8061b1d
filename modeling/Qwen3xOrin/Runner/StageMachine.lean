import Qwen3xOrin.Request.LayerMajorShape
import Qwen3xOrin.Runner.RouteAccounting
import Qwen3xOrin.Runner.StageAborts

/-! The whole-request stage of a runner: its three calls, and where every stage that is committed
came from. -/

namespace Qwen3xOrin.Runner

open Library Request Prefill
open Generation hiding maximumRequestPrefillChunkSize Outcome

section Calls

variable {F : Type} {cfg : BuildConfig} {α : Type} {runner : ReferenceRunner}

def publicView (runner : ReferenceRunner) : ℕ × PrefillRouteEvidence :=
  (runner.currentPosition, runner.prefillRouteEvidence)

lemma aborted_of_view {reached : ReferenceRunner} (h : publicView reached = publicView runner) :
    Aborted runner reached.failed :=
  ⟨rfl, rfl, congrArg Prod.fst h, congrArg Prod.snd h⟩

section Checks

variable {p : ReferenceRunner → Prop} (hp : ∀ r, p r → publicView r = publicView runner)

include hp

lemma failStepIf_aborts (status : ReferenceRunnerStatus) (c : ReferenceRunner → Prop)
    [DecidablePred c] :
    Triple p (failStepIf status c) (fun _ r => p r ∧ ¬c r) (Aborted runner) :=
  Triple.stopIf fun r h _ => aborted_of_view (hp r h)

lemma failStepOn_aborts (failure : Option ReferenceRunnerStatus) :
    Triple p (failStepOn failure) (fun _ => p) (Aborted runner) := by
  cases failure with
  | none => exact Triple.ret fun _ h => h
  | some status => exact fun r h => aborted_of_view (hp r h)

lemma failStepOnError_aborts (result : Except ReferenceRunnerStatus α) :
    Triple p (failStepOnError result) (fun _ => p) (Aborted runner) := by
  cases result with
  | ok a => exact Triple.ret fun _ h => h
  | error status => exact fun r h => aborted_of_view (hp r h)

lemma failPrefillIf_aborts (answers : WholeRequestAnswers F) (status : ReferenceRunnerStatus)
    (c : ReferenceRunner → Prop) [DecidablePred c] :
    Triple p (failWholeRequestPrefillIf answers status c) (fun _ r => p r ∧ ¬c r)
      (Aborted runner) := by
  intro r h
  unfold failWholeRequestPrefillIf
  rw [outcome_mk]
  by_cases hc : c r
  · rw [if_pos hc]
    exact aborted_of_view (hp r h)
  · rw [if_neg hc]
    exact ⟨h, hc⟩

lemma failPrefillIf_kept (answers : WholeRequestAnswers F) (status : ReferenceRunnerStatus)
    (c : ReferenceRunner → Prop) [DecidablePred c] :
    Triple p (failWholeRequestPrefillIf answers status c) (fun _ => p) (Aborted runner) :=
  (failPrefillIf_aborts hp answers status c).conseq (fun _ h => h) (fun _ _ h => h.1)
    fun _ h => h

lemma failPrefillOn_aborts (answers : WholeRequestAnswers F)
    (result : Except ReferenceRunnerStatus α) :
    Triple p (failWholeRequestPrefillOn answers result) (fun a r => p r ∧ result = .ok a)
      (Aborted runner) := by
  cases result with
  | ok a => exact Triple.ret fun _ h => ⟨h, rfl⟩
  | error status => exact fun r h => aborted_of_view (hp r h)

end Checks

-- The runner a whole-request call works on: nothing public has changed, and it was not poisoned.
structure Untouched (runner reached : ReferenceRunner) : Prop where
  view : publicView reached = publicView runner
  fresh : runner.poisoned = false

lemma wholeRequestEntry_untouched (tokens : List ℕ) (plan : PrefillExecutionPlan)
    (tactics : WholeRequestTactics) (options : ReferenceWholeRequestPrefillOptions)
    (answers : WholeRequestAnswers F) :
    Triple (Exactly runner) (wholeRequestEntry cfg tokens plan tactics options answers)
      (fun _ => Untouched runner) (Aborted runner) := by
  have hexact : ∀ r, Exactly runner r → publicView r = publicView runner :=
    fun _ h => congrArg publicView h
  have hkept : ∀ r, Untouched runner r → publicView r = publicView runner := fun _ h => h.view
  have hdrop : Triple (fun r => Exactly runner r ∧ ¬r.wholeRequestPrefillActive)
      (update ReferenceRunner.dropRetained : RunnerM Unit)
      (fun _ r => publicView r = publicView runner ∧ r.poisoned = runner.poisoned ∧ Idle r)
      (Aborted runner) := by
    refine Triple.update fun r h => ?_
    obtain ⟨rfl, hidle⟩ := h
    exact ⟨rfl, rfl, idle_of_not_active hidle⟩
  have hpoisoned : Triple (fun r => publicView r = publicView runner ∧
        r.poisoned = runner.poisoned ∧ Idle r)
      (refuseIf (runnerStatus .poisoned "whole_request_prefill") (·.poisoned))
      (fun _ => Untouched runner) (Aborted runner) := by
    refine (Triple.stopIf fun r h hc => ?_).conseq (fun _ h => h) (fun _ r h => ?_) fun _ h => h
    · exact ⟨h.2.2, hc, congrArg Prod.fst h.1, congrArg Prod.snd h.1⟩
    · exact ⟨h.1.1, h.1.2.1 ▸ Bool.eq_false_iff.mpr h.2⟩
  have hmark : Triple (Untouched runner) (update ReferenceRunner.markUncertain : RunnerM Unit)
      (fun _ => Untouched runner) (Aborted runner) := Triple.update fun _ h => ⟨h.view, h.fresh⟩
  unfold wholeRequestEntry
  refine Triple.bind (failPrefillIf_aborts hexact _ _ _) fun _ => ?_
  refine Triple.bind hdrop fun _ => ?_
  refine Triple.bind hpoisoned fun _ => ?_
  refine Triple.bind hmark fun _ => ?_
  refine Triple.bind (failPrefillIf_kept hkept _ _ _) fun _ => ?_
  refine Triple.bind (failPrefillIf_kept hkept _ _ _) fun _ => ?_
  refine Triple.bind (failPrefillIf_kept hkept _ _ _) fun _ => ?_
  refine Triple.bind (failPrefillIf_kept hkept _ _ _) fun _ => ?_
  refine Triple.bind (failPrefillIf_kept hkept _ _ _) fun _ => ?_
  refine Triple.bind (failPrefillIf_kept hkept _ _ _) fun _ => ?_
  refine Triple.bind (failPrefillIf_kept hkept _ _ _) fun _ => ?_
  refine Triple.bind (failPrefillIf_kept hkept _ _ _) fun _ => ?_
  refine Triple.bind (failPrefillIf_kept hkept _ _ _) fun _ => ?_
  exact Triple.bind (failPrefillIf_kept hkept _ _ _) fun _ => failPrefillIf_kept hkept _ _ _

lemma executeLayers_untouched (tokens : List ℕ) (plan : PrefillExecutionPlan)
    (tactics : WholeRequestTactics) (options : ReferenceWholeRequestPrefillOptions)
    (answers : WholeRequestAnswers F) :
    Triple (Untouched runner) (executeLayers tokens plan tactics options answers)
      (fun _ => Untouched runner) (Aborted runner) := by
  have hkept : ∀ r, Untouched runner r → publicView r = publicView runner := fun _ h => h.view
  have hstart : Triple (Untouched runner) (update fun r : ReferenceRunner =>
      { r with stage := { phase := .executing } } : RunnerM Unit) (fun _ => Untouched runner)
      (Aborted runner) := Triple.update fun _ h => ⟨h.view, h.fresh⟩
  have hwrite : Triple (Untouched runner)
      (writeRows plan.firstPosition tokens.length answers.written) (fun _ => Untouched runner)
      (Aborted runner) := Triple.update fun _ h => ⟨h.view, h.fresh⟩
  have hchecked (result : Except ReferenceRunnerStatus Unit) : Triple (Untouched runner)
      (failWholeRequestPrefillOn answers result) (fun _ => Untouched runner) (Aborted runner) :=
    (failPrefillOn_aborts hkept answers result).conseq (fun _ h => h) (fun _ _ h => h.1)
      fun _ h => h
  unfold executeLayers
  refine Triple.bind hstart fun _ => ?_
  refine Triple.bind hwrite fun _ => ?_
  refine Triple.bind (hchecked _) fun _ => ?_
  refine Triple.bind (hchecked _) fun _ => ?_
  refine Triple.bind (hchecked _) fun _ => ?_
  exact Triple.bind (failPrefillIf_kept hkept _ _ _) fun _ => failPrefillIf_kept hkept _ _ _

-- What a successful execution stages.
structure Staged (cfg : BuildConfig) (tokens : List ℕ) (plan : PrefillExecutionPlan)
    (answers : WholeRequestAnswers F) (route : PrefillRouteEvidence)
    (stage : WholeRequestPrefillStage) : Prop where
  progress : completeProgress cfg plan answers.receipts = .ok stage.completedUncommittedProgress
  merged : mergeRoute route (routePasses plan answers) = some stage.routeEvidenceAfterCommit
  length : stage.committedSequenceLength = plan.finalPosition
  token : stage.finalInputTokenId = tokens.getLastD 0

structure Executed (cfg : BuildConfig) (tokens : List ℕ) (plan : PrefillExecutionPlan)
    (answers : WholeRequestAnswers F) (runner reached : ReferenceRunner) : Prop extends
    Untouched runner reached where
  phase : reached.stage.phase = .awaitingLogits
  staged : Staged cfg tokens plan answers runner.prefillRouteEvidence reached.stage

lemma stagedRoute_ok {evidence staged : PrefillRouteEvidence}
    {layerPasses : List PrefillRouteEvidence} (h : stagedRoute evidence layerPasses = .ok staged) :
    mergeRoute evidence layerPasses = some staged := by
  unfold stagedRoute at h
  cases hmerged : mergeRoute evidence layerPasses with
  | none =>
    rw [hmerged] at h
    cases h
  | some merged =>
    rw [hmerged] at h
    dsimp only at h
    split_ifs at h
    exact congrArg some (Except.ok.inj h)

lemma prefillWholeRequest_executed (tokens : List ℕ) (plan : PrefillExecutionPlan)
    (tactics : WholeRequestTactics) (options : ReferenceWholeRequestPrefillOptions)
    (answers : WholeRequestAnswers F) :
    Triple (Exactly runner)
      (prefillWholeRequestLayerMajorCore cfg tokens plan tactics options answers)
      (fun _ => Executed cfg tokens plan answers runner) (Aborted runner) := by
  have hkept : ∀ r, Untouched runner r → publicView r = publicView runner := fun _ h => h.view
  have hevidence : Triple (Untouched runner)
      (examine ReferenceRunner.prefillRouteEvidence : RunnerM PrefillRouteEvidence)
      (fun evidence r => Untouched runner r ∧ evidence = runner.prefillRouteEvidence)
      (Aborted runner) := Triple.examine fun _ h => ⟨h, congrArg Prod.snd h.view⟩
  unfold prefillWholeRequestLayerMajorCore
  refine Triple.bind (wholeRequestEntry_untouched _ _ _ _ _) fun _ => ?_
  refine Triple.bind (executeLayers_untouched _ _ _ _ _) fun _ => ?_
  refine Triple.bind (failPrefillOn_aborts hkept _ _) fun progress =>
    Triple.assume fun hprogress => ?_
  refine Triple.bind hevidence fun evidence => Triple.assume fun heq => ?_
  subst heq
  refine Triple.bind (failPrefillOn_aborts hkept _ _) fun route => Triple.assume fun hroute => ?_
  have hstage : Triple (Untouched runner) (update fun r : ReferenceRunner =>
      { r with
        stage := wholeRequestStage plan tokens
          (r.setup.layerMajorRequestViews.bind (·.finalHidden)) progress route } : RunnerM Unit)
      (fun _ => Executed cfg tokens plan answers runner) (Aborted runner) :=
    Triple.update fun r h => ⟨⟨h.view, h.fresh⟩, rfl, hprogress, stagedRoute_ok hroute, rfl, rfl⟩
  exact Triple.bind hstage fun _ => Triple.ret fun _ h => h

structure Finished (token : ℕ) (runner reached : ReferenceRunner) : Prop extends
    Untouched runner reached where
  awaited : runner.stage.phase = .awaitingLogits
  token : runner.stage.finalInputTokenId = token
  stage : reached.stage = { runner.stage with phase := .awaitingCommit }

lemma finishWholeRequest_finished (token : ℕ) (options : ReferenceStepOptions)
    (answers : StepAnswers F) :
    Triple (Exactly runner) (finishWholeRequestCompatibilityCore token options answers)
      (fun _ => Finished token runner) (Aborted runner) := by
  have hexact : ∀ r, Exactly runner r → publicView r = publicView runner :=
    fun _ h => congrArg publicView h
  have hkept : ∀ r, Untouched runner r → publicView r = publicView runner := fun _ h => h.view
  have hstage : Triple (fun r => Exactly runner r ∧ ¬r.stage.phase ≠ .awaitingLogits)
      (examine ReferenceRunner.stage : RunnerM WholeRequestPrefillStage)
      (fun stage r => Exactly runner r ∧ stage = runner.stage ∧
        runner.stage.phase = .awaitingLogits) (Aborted runner) := by
    refine Triple.examine fun r h => ?_
    obtain ⟨rfl, hphase⟩ := h
    exact ⟨rfl, rfl, not_not.mp hphase⟩
  have hexecuting : Triple (Exactly runner) (update fun r : ReferenceRunner =>
      { r with stage := { r.stage with phase := .executing } } : RunnerM Unit)
      (fun _ r => publicView r = publicView runner ∧ r.poisoned = runner.poisoned)
      (Aborted runner) := by
    refine Triple.update fun r h => ?_
    obtain rfl := h
    exact ⟨rfl, rfl⟩
  have hpoisoned : Triple (fun r => publicView r = publicView runner ∧
        r.poisoned = runner.poisoned)
      (failStepIf (runnerStatus .poisoned "finish_whole_request_from_uncommitted_final_hidden")
        (·.poisoned)) (fun _ => Untouched runner) (Aborted runner) :=
    (failStepIf_aborts (fun _ h => h.1) _ _).conseq (fun _ h => h)
      (fun _ _ h => ⟨h.1.1, h.1.2 ▸ Bool.eq_false_iff.mpr h.2⟩) fun _ h => h
  have hchecked (status : ReferenceRunnerStatus) (c : ReferenceRunner → Prop) [DecidablePred c] :
      Triple (Untouched runner) (failStepIf status c) (fun _ => Untouched runner)
        (Aborted runner) :=
    (failStepIf_aborts hkept status c).conseq (fun _ h => h) (fun _ _ h => h.1) fun _ h => h
  have hscratch : Triple (Untouched runner) (writeScratch answers.written)
      (fun _ => Untouched runner) (Aborted runner) := Triple.update fun _ h => ⟨h.view, h.fresh⟩
  unfold finishWholeRequestCompatibilityCore
  refine Triple.bind (failStepIf_aborts hexact _ _) fun _ => ?_
  refine Triple.bind hstage fun stage => Triple.assume fun ⟨heq, hphase⟩ => ?_
  subst heq
  refine Triple.bind hexecuting fun _ => ?_
  refine Triple.bind hpoisoned fun _ => ?_
  refine Triple.bind (hchecked _ _) fun _ => ?_
  have hcontract : Triple (Untouched runner)
      (failStepIf (runnerStatus .invalidStepOptions "whole_request_prefill_final_hidden_contract")
        (fun r => runner.stage.expectedInitialSequenceLength ≠ r.currentPosition ∨
          runner.stage.committedSequenceLength = 0 ∨
          runner.stage.finalPosition + 1 ≠ runner.stage.committedSequenceLength ∨
          runner.stage.finalInputTokenId ≠ token ∨ finalHiddenRefused runner.stage r ∨
          !stageProgressComplete runner.stage))
      (fun _ r => Untouched runner r ∧ runner.stage.finalInputTokenId = token)
      (Aborted runner) := by
    refine (failStepIf_aborts hkept _ _).conseq (fun _ h => h) (fun _ r h => ⟨h.1, ?_⟩)
      fun _ h => h
    by_contra hne
    exact h.2 (Or.inr (Or.inr (Or.inr (Or.inl hne))))
  refine Triple.bind hcontract fun _ => Triple.assume fun htoken => ?_
  refine Triple.bind hscratch fun _ => ?_
  refine Triple.bind (failStepOn_aborts hkept _) fun _ => ?_
  refine Triple.bind (failStepOn_aborts hkept _) fun _ => ?_
  refine Triple.bind Triple.unread fun setup => ?_
  refine Triple.bind (failStepOnError_aborts hkept _) fun result => ?_
  have hdone : Triple (Untouched runner) (update fun r : ReferenceRunner =>
      { r with stage := { runner.stage with phase := .awaitingCommit } } : RunnerM Unit)
      (fun _ => Finished token runner) (Aborted runner) :=
    Triple.update fun _ h => ⟨⟨h.view, h.fresh⟩, hphase, htoken, rfl⟩
  exact Triple.bind hdone fun _ => Triple.ret fun _ h => h

structure CommittedFrom (cfg : BuildConfig) (plan : PrefillExecutionPlan)
    (progress : PrefillExecutionProgress) (runner reached : ReferenceRunner) : Prop where
  fresh : runner.poisoned = false
  awaited : runner.stage.phase = .awaitingCommit
  contract : ¬commitContractRefused cfg plan progress runner.stage runner
  length : reached.currentPosition = runner.stage.committedSequenceLength
  route : reached.prefillRouteEvidence = runner.stage.routeEvidenceAfterCommit
  idle : Idle reached
  poisoned : reached.poisoned = false

lemma publishStage_committed (stage : WholeRequestPrefillStage) :
    match outcome (publishStage stage) runner with
    | (.ok _, reached) => reached.currentPosition = stage.committedSequenceLength ∧
        reached.prefillRouteEvidence = stage.routeEvidenceAfterCommit ∧ Idle reached ∧
        reached.poisoned = runner.poisoned
    | (.error _, reached) => Aborted runner reached := by
  unfold publishStage RequestState.publishSequenceLength
  rw [outcome_mk]
  split_ifs
  · exact aborted_failed
  · exact aborted_failed
  · exact aborted_failed
  · exact aborted_failed
  · exact ⟨rfl, rfl, rfl, rfl⟩

lemma commitWholeRequest_committed (plan : PrefillExecutionPlan)
    (progress : PrefillExecutionProgress) :
    Triple (Exactly runner) (commitWholeRequestLayerMajorCompatibilityCore cfg plan progress)
      (fun _ => CommittedFrom cfg plan progress runner) (Aborted runner) := by
  have hcheck (status : ReferenceRunnerStatus) (c : ReferenceRunner → Prop) [DecidablePred c] :
      Triple (Exactly runner) (failStepIf status c)
        (fun _ r => Exactly runner r ∧ ¬c runner) (Aborted runner) := by
    refine (Triple.stopIf fun r h _ => ?_).conseq (fun _ h => h) (fun _ r h => ?_) fun _ h => h
    · obtain rfl := h
      exact aborted_failed
    · obtain ⟨rfl, hc⟩ := h
      exact ⟨rfl, hc⟩
  have hstage : Triple (Exactly runner)
      (examine ReferenceRunner.stage : RunnerM WholeRequestPrefillStage)
      (fun stage r => Exactly runner r ∧ stage = runner.stage) (Aborted runner) :=
    Triple.examine fun r h => ⟨h, congrArg ReferenceRunner.stage h⟩
  unfold commitWholeRequestLayerMajorCompatibilityCore
  refine Triple.bind (hcheck _ _) fun _ => Triple.assume fun hphase => ?_
  refine Triple.bind hstage fun stage => Triple.assume fun heq => ?_
  subst heq
  refine Triple.bind (hcheck _ _) fun _ => Triple.assume fun hpoisoned => ?_
  refine Triple.bind (hcheck _ _) fun _ => Triple.assume fun hcontract => ?_
  refine Triple.bind (hcheck _ _) fun _ => Triple.assume fun hroute => ?_
  refine Triple.bind (hcheck _ _) fun _ => Triple.assume fun _ => ?_
  refine Triple.bind (hcheck _ _) fun _ => Triple.assume fun _ => ?_
  refine Triple.bind (hcheck _ _) fun _ => Triple.assume fun _ => ?_
  intro r h
  obtain rfl := h
  have hfresh : r.poisoned = false := Bool.eq_false_iff.mpr hpoisoned
  have hpublished := @publishStage_committed r r.stage
  revert hpublished
  generalize outcome (publishStage r.stage) r = result
  obtain ⟨outcome, reached⟩ := result
  cases outcome with
  | ok a =>
    rintro ⟨hlength, hevidence, hidle, hsame⟩
    exact ⟨hfresh, not_not.mp hphase, hcontract, hlength, hevidence, hidle, hsame.trans hfresh⟩
  | error e => exact id

end Calls

section Operations

variable {F : Type} {cfg : BuildConfig} {α : Type} {runner : ReferenceRunner}

lemma verdict_spec {m : RunnerM α} {post stopped : ReferenceRunner → Prop}
    (h : Triple (Exactly runner) m (fun _ => post) stopped) :
    ((verdict m runner).1 = none → post (verdict m runner).2) ∧
      ((verdict m runner).1 ≠ none → stopped (verdict m runner).2) := by
  have hh := h runner rfl
  unfold verdict
  revert hh
  generalize outcome m runner = result
  obtain ⟨r, reached⟩ := result
  cases r with
  | ok a => exact fun hh => ⟨fun _ => hh, fun hne => absurd rfl hne⟩
  | error e => exact fun hh => ⟨fun hnone => (by cases hnone), fun _ => hh⟩

-- The calls that only stage something.
def RunnerOperation.stages : RunnerOperation F → Bool
  | .prefillWholeRequest .. | .finishWholeRequest .. => true
  | _ => false

-- The calls that open a request anew.
def RunnerOperation.reopens : RunnerOperation F → Bool
  | .reset .. | .beginOrdinaryRequest .. => true
  | _ => false

-- The calls that have nothing to do with a stage.
def RunnerOperation.bystands : RunnerOperation F → Bool
  | .commitOrdinaryRequestBoundary | .mtpTransaction .. => true
  | _ => false

lemma bystands_same (operation : RunnerOperation F) (h : operation.bystands = true) :
    (operation.apply cfg runner).stage = runner.stage ∧
      (operation.apply cfg runner).prefillRouteEvidence = runner.prefillRouteEvidence ∧
      ((operation.apply cfg runner).poisoned = false → runner.poisoned = false) := by
  cases operation with
  | commitOrdinaryRequestBoundary =>
    unfold RunnerOperation.apply RunnerOperation.perform
    rw [verdict_state]
    unfold commitOrdinaryRequestBoundary
    rw [outcome_mk]
    split_ifs
    · exact ⟨rfl, rfl, id⟩
    · exact ⟨rfl, rfl, id⟩
    · exact ⟨rfl, rfl, id⟩
  | mtpTransaction effect =>
    unfold RunnerOperation.apply RunnerOperation.perform mtpTransaction
    dsimp only
    split_ifs
    · exact ⟨rfl, rfl, id⟩
    · exact ⟨rfl, rfl, fun hpoisoned => (Bool.or_eq_false_iff.mp hpoisoned).1⟩
  | _ => cases h

structure Reopened (runner reached : ReferenceRunner) : Prop where
  idle : Idle reached
  poisoned : reached.poisoned = false
  length : reached.currentPosition = 0
  route : reached.prefillRouteEvidence = resetPrefillRouteRequest runner.prefillRouteEvidence

lemma resetAsync_length {cuda : Memset → ℤ} {mode : RequestStateResetMode} {committed : ℕ}
    {state : RequestState} {receipt : RequestStateResetReceipt}
    (h : (resetForRequestAsync cuda mode committed state receipt).1 = {}) :
    (resetForRequestAsync cuda mode committed state receipt).2.1.sequenceLength = 0 := by
  revert h
  unfold resetForRequestAsync
  cases state.arena with
  | none => exact fun h => by cases h
  | some arena =>
    dsimp only
    split_ifs with hchecked hstatus
    · exact fun h => by cases h
    · exact fun h => absurd (congrArg RequestOperationStatus.cudaError h) hstatus
    · exact fun _ => rfl

lemma reset_reopens (answers : ResetAnswers) :
    Triple (Exactly runner) (reset answers) (fun _ => Reopened runner)
      (fun reached => reached.poisoned = true) := by
  intro r h
  obtain rfl := h
  unfold reset
  rw [outcome_mk]
  by_cases haux : auxiliaryFailure answers r
  · rw [if_pos haux]
    exact rfl
  · rw [if_neg haux]
    have hlength := @resetAsync_length answers.memset .conservativeFull 0 r.state {}
    revert hlength
    generalize resetForRequestAsync answers.memset .conservativeFull 0 r.state {} = result
    obtain ⟨status, state, receipt⟩ := result
    intro hlength
    dsimp only
    split_ifs with hstatus
    · exact rfl
    · exact rfl
    · exact ⟨rfl, rfl, hlength (not_not.mp hstatus), rfl⟩

lemma begin_reopens (answers : ResetAnswers) :
    Triple (Exactly runner) (beginOrdinaryRequest answers) (fun _ => Reopened runner)
      (fun reached => reached.poisoned = true) := by
  intro r h
  obtain rfl := h
  unfold beginOrdinaryRequest
  rw [outcome_mk]
  dsimp only
  by_cases haux : auxiliaryFailure answers r.markUncertain
  · rw [if_pos haux]
    exact rfl
  · rw [if_neg haux]
    have hlength := @resetAsync_length answers.memset (requestDecision r).mode
      (requestDecision r).committedPositions r.markUncertain.state {}
    revert hlength
    generalize resetForRequestAsync answers.memset (requestDecision r).mode
      (requestDecision r).committedPositions r.markUncertain.state {} = result
    obtain ⟨status, state, receipt⟩ := result
    intro hlength
    dsimp only
    split_ifs with hstatus
    · exact rfl
    · exact rfl
    · exact rfl
    · exact ⟨rfl, rfl, hlength (not_not.mp hstatus), rfl⟩

lemma reopens_spec (operation : RunnerOperation F) (h : operation.reopens = true) :
    ((operation.perform cfg runner).1 = none → Reopened runner (operation.apply cfg runner)) ∧
      ((operation.perform cfg runner).1 ≠ none →
        (operation.apply cfg runner).poisoned = true) := by
  cases operation with
  | reset answers => exact verdict_spec (reset_reopens answers)
  | beginOrdinaryRequest answers => exact verdict_spec (begin_reopens answers)
  | _ => cases h

end Operations

section Route

lemma commitPrefillRoute_passes {request layerPass merged : PrefillRouteEvidence}
    (h : commitPrefillRouteLayerPass request layerPass = (true, merged)) :
    merged.completedLayerPasses = request.completedLayerPasses + 1 := by
  unfold commitPrefillRouteLayerPass commitLayerPass at h
  split_ifs at h
  · cases h
  · cases h
  · cases hmerge : mergeLayerPass request layerPass with
    | none =>
      rw [hmerge] at h
      cases h
    | some pass =>
      rw [hmerge] at h
      have hpasses := (mergeLayerPass_some hmerge).passes
      have heq := congrArg Prod.snd h
      dsimp only at heq
      rw [← heq]
      split_ifs
      · exact hpasses
      · exact hpasses

lemma mergeRoute_passes {layerPasses : List PrefillRouteEvidence}
    {evidence merged : PrefillRouteEvidence} (h : mergeRoute evidence layerPasses = some merged) :
    merged.completedLayerPasses = evidence.completedLayerPasses + layerPasses.length := by
  induction layerPasses generalizing evidence with
  | nil =>
    obtain rfl := Option.some.inj h
    rfl
  | cons layerPass layerPasses ih =>
    unfold mergeRoute at h
    cases hcommit : commitPrefillRouteLayerPass evidence layerPass with
    | mk accepted committed =>
      rw [hcommit] at h
      cases accepted with
      | false => cases h
      | true =>
        rw [ih h, commitPrefillRoute_passes hcommit, List.length_cons]
        omega

lemma routePasses_length {F : Type} (plan : PrefillExecutionPlan)
    (answers : WholeRequestAnswers F) :
    (routePasses plan answers).length = prefillRouteLayerPassCount plan.panelCount plan.tactic := by
  unfold routePasses prefillRouteLayerPassCount layerWideP40Mlp isPromptWide
  cases plan.tactic <;> simp

end Route

section Provenance

variable {F : Type} {cfg : BuildConfig} {start : ReferenceRunner}

structure StagedRequest (F : Type) where
  earlier : List (RunnerOperation F)
  answers : WholeRequestAnswers F
  tokens : List ℕ
  plan : PrefillExecutionPlan
  tactics : WholeRequestTactics
  options : ReferenceWholeRequestPrefillOptions
  between : List (RunnerOperation F)

namespace StagedRequest

variable (request : StagedRequest F)

def execute : RunnerOperation F :=
  .prefillWholeRequest request.answers request.tokens request.plan request.tactics request.options

def operations : List (RunnerOperation F) :=
  request.earlier ++ request.execute :: request.between

end StagedRequest

structure FinishedRequest (F : Type) extends StagedRequest F where
  stepAnswers : StepAnswers F
  token : ℕ
  stepOptions : ReferenceStepOptions
  rest : List (RunnerOperation F)

namespace FinishedRequest

variable (request : FinishedRequest F)

def finish : RunnerOperation F :=
  .finishWholeRequest request.stepAnswers request.token request.stepOptions

def operations : List (RunnerOperation F) :=
  request.toStagedRequest.operations ++ request.finish :: request.rest

end FinishedRequest

-- One successful execution, and nothing since that could have changed its stage.
structure StagedBy (cfg : BuildConfig) (start : ReferenceRunner) (request : StagedRequest F)
    (runner : ReferenceRunner) : Prop where
  executed : (request.execute.perform cfg (runOperations cfg request.earlier start)).1 = none
  quiet : ∀ operation ∈ request.between, operation.bystands = true
  staged : Staged cfg request.tokens request.plan request.answers runner.prefillRouteEvidence
    runner.stage

-- Then one successful finish, for the last token of that execution.
structure FinishedBy (cfg : BuildConfig) (start : ReferenceRunner) (request : FinishedRequest F)
    (runner : ReferenceRunner) : Prop where
  executed : (request.execute.perform cfg (runOperations cfg request.earlier start)).1 = none
  finished : (request.finish.perform cfg
    (runOperations cfg request.toStagedRequest.operations start)).1 = none
  quiet : ∀ operation ∈ request.between ++ request.rest, operation.bystands = true
  token : request.token = request.tokens.getLastD 0
  staged : Staged cfg request.tokens request.plan request.answers runner.prefillRouteEvidence
    runner.stage

inductive Traced (cfg : BuildConfig) (start : ReferenceRunner)
    (operations : List (RunnerOperation F)) (runner : ReferenceRunner) : Prop
  | idle (h : Idle runner)
  | staged (request : StagedRequest F) (hrun : request.operations = operations)
      (hphase : runner.stage.phase = .awaitingLogits) (h : StagedBy cfg start request runner)
  | finished (request : FinishedRequest F) (hrun : request.operations = operations)
      (hphase : runner.stage.phase = .awaitingCommit) (h : FinishedBy cfg start request runner)

lemma runOperations_snoc (operations : List (RunnerOperation F)) (operation : RunnerOperation F) :
    runOperations cfg (operations ++ [operation]) start =
      operation.apply cfg (runOperations cfg operations start) := by
  unfold runOperations
  rw [List.foldl_append]
  rfl

lemma Staged.of_same {tokens : List ℕ} {plan : PrefillExecutionPlan}
    {answers : WholeRequestAnswers F} {route route' : PrefillRouteEvidence}
    {stage stage' : WholeRequestPrefillStage} (h : Staged cfg tokens plan answers route stage)
    (hroute : route' = route) (hstage : stage' = stage) :
    Staged cfg tokens plan answers route' stage' := by
  subst hroute hstage
  exact h

lemma quiet_snoc {operations : List (RunnerOperation F)} {operation : RunnerOperation F}
    (h : ∀ other ∈ operations, other.bystands = true) (hlast : operation.bystands = true) :
    ∀ other ∈ operations ++ [operation], other.bystands = true := by
  intro other hother
  obtain hother | hother := List.mem_append.mp hother
  · exact h other hother
  · rw [List.mem_singleton.mp hother]
    exact hlast

lemma Traced.bystand {operations : List (RunnerOperation F)} {runner : ReferenceRunner}
    (h : Traced cfg start operations runner) (operation : RunnerOperation F)
    (hbystands : operation.bystands = true) :
    Traced cfg start (operations ++ [operation]) (operation.apply cfg runner) := by
  obtain ⟨hstage, hroute, -⟩ := @bystands_same F cfg runner operation hbystands
  cases h with
  | idle h =>
    refine .idle ?_
    unfold Idle
    rw [hstage]
    exact h
  | staged request hrun hphase h =>
    refine .staged { request with between := request.between ++ [operation] } ?_ ?_
      ⟨h.executed, quiet_snoc h.quiet hbystands, h.staged.of_same hroute hstage⟩
    · rw [← hrun]
      simp [StagedRequest.operations, StagedRequest.execute]
    · rw [hstage]
      exact hphase
  | finished request hrun hphase h =>
    refine .finished { request with rest := request.rest ++ [operation] } ?_ ?_
      ⟨h.executed, h.finished, ?_, h.token, h.staged.of_same hroute hstage⟩
    · rw [← hrun]
      simp [FinishedRequest.operations, FinishedRequest.finish]
    · rw [hstage]
      exact hphase
    · rw [← List.append_assoc]
      exact quiet_snoc h.quiet hbystands

-- Every stage of an unpoisoned runner came from the calls that make one.
lemma traced_run (hstart : Created start) (operations : List (RunnerOperation F))
    (hfresh : (runOperations cfg operations start).poisoned = false) :
    Traced cfg start operations (runOperations cfg operations start) := by
  induction operations using List.reverseRecOn with
  | nil => exact .idle hstart.idle
  | append_singleton operations operation ih =>
    rw [runOperations_snoc] at hfresh ⊢
    generalize hrunner : runOperations cfg operations start = runner at hfresh ih ⊢
    have habsurd {p : Prop} (haborted : Aborted runner (operation.apply cfg runner)) : p := by
      rw [haborted.poisoned] at hfresh
      cases hfresh
    cases hkind : operation.interrupts with
    | true => exact .idle (interrupts_idle operation hkind)
    | false =>
    cases hopen : operation.reopens with
    | true =>
      obtain ⟨hdone, hfailed⟩ := @reopens_spec F cfg runner operation hopen
      by_cases hverdict : (operation.perform cfg runner).1 = none
      · exact .idle (hdone hverdict).idle
      · rw [hfailed hverdict] at hfresh
        cases hfresh
    | false =>
    cases hquiet : operation.bystands with
    | true =>
      have hbefore := (@bystands_same F cfg runner operation hquiet).2.2 hfresh
      exact (ih hbefore).bystand operation hquiet
    | false =>
    cases operation with
    | prefillWholeRequest answers tokens plan tactics options =>
      obtain ⟨hdone, hfailed⟩ := verdict_spec (@prefillWholeRequest_executed F cfg runner tokens
        plan tactics options answers)
      by_cases hverdict : (verdict (prefillWholeRequestLayerMajorCore cfg tokens plan tactics
          options answers) runner).1 = none
      · have hexecuted := hdone hverdict
        refine .staged ⟨operations, answers, tokens, plan, tactics, options, []⟩ rfl
          hexecuted.phase ⟨?_, by simp, hexecuted.staged.of_same ?_ rfl⟩
        · rw [hrunner]
          exact hverdict
        · exact congrArg Prod.snd hexecuted.view
      · exact habsurd (hfailed hverdict)
    | finishWholeRequest answers token options =>
      obtain ⟨hdone, hfailed⟩ := verdict_spec (@finishWholeRequest_finished F runner token
        options answers)
      by_cases hverdict : (verdict (finishWholeRequestCompatibilityCore token options answers)
          runner).1 = none
      · have hfinished := hdone hverdict
        obtain hidle | ⟨request, hrun, -, hstaged⟩ | ⟨request, -, hphase, -⟩ := ih hfinished.fresh
        · have hphase := hfinished.awaited
          rw [hidle] at hphase
          cases hphase
        · refine .finished ⟨request, answers, token, options, []⟩ ?_ ?_
            ⟨hstaged.executed, ?_, ?_, ?_, ?_⟩
          · exact congrArg (· ++ [_]) hrun
          · exact congrArg WholeRequestPrefillStage.phase hfinished.stage
          · rw [hrun, hrunner]
            exact hverdict
          · rw [List.append_nil]
            exact hstaged.quiet
          · exact hfinished.token.symm.trans hstaged.staged.token
          · have hroute : (verdict (finishWholeRequestCompatibilityCore token options answers)
                runner).2.prefillRouteEvidence = runner.prefillRouteEvidence :=
              congrArg Prod.snd hfinished.view
            have hsame : Staged cfg request.tokens request.plan request.answers
                runner.prefillRouteEvidence { runner.stage with phase := .awaitingCommit } :=
              ⟨hstaged.staged.progress, hstaged.staged.merged, hstaged.staged.length,
                hstaged.staged.token⟩
            exact hsame.of_same hroute hfinished.stage
        · have hawaited := hfinished.awaited
          rw [hphase] at hawaited
          cases hawaited
      · exact habsurd (hfailed hverdict)
    | commitWholeRequest plan progress =>
      obtain ⟨hdone, hfailed⟩ := verdict_spec (@commitWholeRequest_committed cfg runner plan
        progress)
      by_cases hverdict : (verdict (commitWholeRequestLayerMajorCompatibilityCore cfg plan
          progress) runner).1 = none
      · exact .idle (hdone hverdict).idle
      · exact habsurd (hfailed hverdict)
    | reset answers => cases hopen
    | beginOrdinaryRequest answers => cases hopen
    | commitOrdinaryRequestBoundary => cases hquiet
    | mtpTransaction effect => cases hquiet
    | _ => cases hkind

end Provenance

section Machine

variable {F : Type}

-- What a commit publishes of the request that was executed and finished.
structure Published (cfg : BuildConfig) (progress : PrefillExecutionProgress)
    (request : FinishedRequest F) (runner reached : ReferenceRunner) : Prop where
  idle : Idle reached
  poisoned : reached.poisoned = false
  length : reached.currentPosition = request.plan.finalPosition
  route : mergeRoute runner.prefillRouteEvidence (routePasses request.plan request.answers) =
    some reached.prefillRouteEvidence
  passes : reached.prefillRouteEvidence.completedLayerPasses =
    runner.prefillRouteEvidence.completedLayerPasses +
      prefillRouteLayerPassCount request.plan.panelCount request.plan.tactic
  progress : ∃ staged, completeProgress cfg request.plan request.answers.receipts = .ok staged ∧
    samePrefillExecutionProgress progress staged = true

structure StageMachine (cfg : BuildConfig) (start : ReferenceRunner)
    (operations : List (RunnerOperation F)) (runner : ReferenceRunner) : Prop where
  interrupted : ∀ operation : RunnerOperation F, operation.interrupts = true →
    runner.wholeRequestPrefillActive = true → Aborted runner (operation.apply cfg runner)
  silent : ∀ operation : RunnerOperation F, operation.stages = true →
    publicView (operation.apply cfg runner) = publicView runner
  unstaged : ∀ operation : RunnerOperation F, operation.stages = true →
    (operation.perform cfg runner).1 ≠ none → Aborted runner (operation.apply cfg runner)
  uncommitted : ∀ plan progress,
    ((RunnerOperation.commitWholeRequest plan progress : RunnerOperation F).perform cfg
      runner).1 ≠ none →
    Aborted runner ((RunnerOperation.commitWholeRequest plan progress : RunnerOperation F).apply
      cfg runner)
  committed : ∀ plan progress,
    ((RunnerOperation.commitWholeRequest plan progress : RunnerOperation F).perform cfg
      runner).1 = none →
    ∃ request : FinishedRequest F, request.operations = operations ∧
      FinishedBy cfg start request runner ∧
      Published cfg progress request runner
        ((RunnerOperation.commitWholeRequest plan progress : RunnerOperation F).apply cfg runner)
  reopened : ∀ operation : RunnerOperation F, operation.reopens = true →
    ((operation.perform cfg runner).1 = none → Reopened runner (operation.apply cfg runner)) ∧
      ((operation.perform cfg runner).1 ≠ none → (operation.apply cfg runner).poisoned = true)

lemma stages_spec {cfg : BuildConfig} {runner : ReferenceRunner} (operation : RunnerOperation F)
    (h : operation.stages = true) :
    ((operation.perform cfg runner).1 = none →
      publicView (operation.apply cfg runner) = publicView runner) ∧
      ((operation.perform cfg runner).1 ≠ none →
        Aborted runner (operation.apply cfg runner)) := by
  cases operation with
  | prefillWholeRequest answers tokens plan tactics options =>
    obtain ⟨hdone, hfailed⟩ := verdict_spec (@prefillWholeRequest_executed F cfg runner tokens plan
      tactics options answers)
    exact ⟨fun hverdict => (hdone hverdict).view, hfailed⟩
  | finishWholeRequest answers token options =>
    obtain ⟨hdone, hfailed⟩ := verdict_spec (@finishWholeRequest_finished F runner token options
      answers)
    exact ⟨fun hverdict => (hdone hverdict).view, hfailed⟩
  | _ => cases h

lemma commit_contract {cfg : BuildConfig} {plan : PrefillExecutionPlan}
    {progress : PrefillExecutionProgress} {stage : WholeRequestPrefillStage}
    {runner : ReferenceRunner} (h : ¬commitContractRefused cfg plan progress stage runner) :
    samePrefillExecutionProgress progress stage.completedUncommittedProgress = true := by
  unfold commitContractRefused at h
  simp only [Bool.or_eq_true, not_or, Bool.not_eq_true', Bool.not_eq_false] at h
  exact h.1.2

lemma FinishedBy.published {cfg : BuildConfig} {start runner reached : ReferenceRunner}
    {request : FinishedRequest F} {plan : PrefillExecutionPlan}
    {progress : PrefillExecutionProgress} (h : FinishedBy cfg start request runner)
    (hcommit : CommittedFrom cfg plan progress runner reached) :
    Published cfg progress request runner reached where
  idle := hcommit.idle
  poisoned := hcommit.poisoned
  length := hcommit.length.trans h.staged.length
  route := by
    rw [hcommit.route]
    exact h.staged.merged
  passes := by
    rw [hcommit.route, mergeRoute_passes h.staged.merged, routePasses_length]
  progress := ⟨_, h.staged.progress, commit_contract hcommit.contract⟩

theorem whole_request_stage_machine (cfg : BuildConfig) (start : ReferenceRunner)
    (hstart : Created start) (operations : List (RunnerOperation F)) :
    StageMachine cfg start operations (runOperations cfg operations start) := by
  refine ⟨?_, ?_, ?_, ?_, ?_, fun operation hopen => reopens_spec operation hopen⟩
  · intro operation hkind hactive
    rw [interrupts_active operation hkind hactive]
    exact aborted_failed
  · intro operation hstages
    obtain ⟨hdone, hfailed⟩ := @stages_spec F cfg (runOperations cfg operations start) operation
      hstages
    by_cases hverdict : (operation.perform cfg (runOperations cfg operations start)).1 = none
    · exact hdone hverdict
    · have haborted := hfailed hverdict
      exact Prod.ext haborted.length haborted.route
  · exact fun operation hstages => (stages_spec operation hstages).2
  · exact fun plan progress => (verdict_spec (commitWholeRequest_committed plan progress)).2
  · intro plan progress hverdict
    have hcommit := (verdict_spec (commitWholeRequest_committed plan progress)).1 hverdict
    obtain hidle | ⟨request, -, hphase, -⟩ | ⟨request, hrun, -, hfinished⟩ :=
      traced_run hstart operations hcommit.fresh
    · have hawaited := hcommit.awaited
      rw [hidle] at hawaited
      cases hawaited
    · have hawaited := hcommit.awaited
      rw [hphase] at hawaited
      cases hawaited
    · exact ⟨request, hrun, hfinished, hfinished.published hcommit⟩

section Example

def layerMajorRunner : ReferenceRunner where
  setup := { layerMajorRequestViews := some { promptResidualRows := 4096 } }
  state := ⟨layerMajorCommon 4096, some fun _ => 0, 0⟩

lemma layerMajorRunner_created : Created layerMajorRunner :=
  ⟨rfl, rfl, rfl, rfl, rfl, rfl, rfl, rfl, ⟨_, rfl, fun _ _ => rfl⟩⟩

def oneTokenPlan : PrefillExecutionPlan :=
  planFor {} { promptTokenCount := 1, maxSequenceLength := 4096 } 1

def oneTokenAnswers : WholeRequestAnswers ℕ where
  written := fun _ => 0
  receipts := fun _ => {}
  panelPasses := fun _ => (scalarLayerPass {} scalarRecords).getD {}
  requestPass := {}
  counters := {}
  elapsed := 0

def executedRequest : List (RunnerOperation ℕ) :=
  [.reset {}, .prefillWholeRequest oneTokenAnswers [7] oneTokenPlan
    ⟨.compatibilitySegments, .exactSegmentedC512, .exactSegmentedC512⟩ {}]

def finishedRequest : List (RunnerOperation ℕ) :=
  executedRequest ++ [.finishWholeRequest
    { written := fun _ => 0, logits := { analysis := ⟨5, 0, 0, 0⟩ }, elapsed := 0 } 7 {}]

def finishedRunner : ReferenceRunner := runOperations {} finishedRequest layerMajorRunner

def commitRequest : RunnerOperation ℕ :=
  .commitWholeRequest oneTokenPlan finishedRunner.stage.completedUncommittedProgress

-- One evaluation of the request, read by the two statements below.
lemma oneTokenRequest_checked :
    ((runOperations {} executedRequest layerMajorRunner).wholeRequestPrefillActive = true ∧
      ((RunnerOperation.reset {} : RunnerOperation ℕ).apply {}
        (runOperations {} executedRequest layerMajorRunner)).poisoned = false) ∧
    (commitRequest.perform {} finishedRunner).1 = none ∧
      (commitRequest.apply {} finishedRunner).currentPosition = 1 := by
  decide +kernel

end Example

-- A reset is issued while a stage is active, and the runner is not poisoned by it.
theorem reset_recovers_from_stage :
    Created layerMajorRunner ∧
      (runOperations {} executedRequest layerMajorRunner).wholeRequestPrefillActive = true ∧
      ((RunnerOperation.reset {} : RunnerOperation ℕ).apply {}
        (runOperations {} executedRequest layerMajorRunner)).poisoned = false :=
  ⟨layerMajorRunner_created, oneTokenRequest_checked.1⟩

theorem whole_request_stage_machine_one_token :
    (commitRequest.perform {} finishedRunner).1 = none ∧
      (commitRequest.apply {} finishedRunner).currentPosition = 1 ∧
      StageMachine {} layerMajorRunner finishedRequest finishedRunner :=
  ⟨oneTokenRequest_checked.2.1, oneTokenRequest_checked.2.2,
    whole_request_stage_machine {} layerMajorRunner layerMajorRunner_created finishedRequest⟩

end Machine

end Qwen3xOrin.Runner
