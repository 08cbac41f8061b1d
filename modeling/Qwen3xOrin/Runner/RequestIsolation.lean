import Qwen3xOrin.Request.LayerMajorViews
import Qwen3xOrin.Runner.GraphIsolation

/-! Request isolation over whole runs of a runner: every reset that is selected clears all that
earlier requests left. -/

namespace Qwen3xOrin.Runner

open Library Request Prefill
open Generation hiding maximumRequestPrefillChunkSize Outcome

section WholeRequest

variable {F : Type} {cfg : BuildConfig} {memory : RequestMemoryPlan} {α : Type}

section Checks

variable {p : ReferenceRunner → Prop} (hp : ∀ runner, p runner → Based memory runner)

include hp

lemma failPrefillIf_isolated (answers : WholeRequestAnswers F) (status : ReferenceRunnerStatus)
    (c : ReferenceRunner → Prop) [DecidablePred c] :
    Triple p (failWholeRequestPrefillIf answers status c) (fun _ runner => p runner ∧ ¬c runner)
      (Isolated memory) := by
  intro runner h
  unfold failWholeRequestPrefillIf
  rw [outcome_mk]
  by_cases hc : c runner
  · rw [if_pos hc]
    exact (hp runner h).failed
  · rw [if_neg hc]
    exact ⟨h, hc⟩

lemma failPrefillIf_passed (answers : WholeRequestAnswers F) (status : ReferenceRunnerStatus)
    (c : ReferenceRunner → Prop) [DecidablePred c] :
    Triple p (failWholeRequestPrefillIf answers status c) (fun _ => p) (Isolated memory) :=
  (failPrefillIf_isolated hp answers status c).conseq (fun _ h => h) (fun _ _ h => h.1)
    fun _ h => h

lemma failPrefillOn_isolated (answers : WholeRequestAnswers F)
    (result : Except ReferenceRunnerStatus α) :
    Triple p (failWholeRequestPrefillOn answers result) (fun _ => p) (Isolated memory) := by
  cases result with
  | ok a => exact Triple.ret fun _ h => h
  | error status => exact fun runner h => (hp runner h).failed

end Checks

-- The ordinary profile has no whole-request prefill.
lemma memoryProfileRefused_legacy (plan : PrefillExecutionPlan) (maxSequenceLength : ℕ)
    (tactics : WholeRequestTactics) (views : Option LayerMajorRequestViews) :
    memoryProfileRefused cfg plan .legacyC512 maxSequenceLength tactics views = true := by
  have hcontract : validPromptWideP40WholeCoreRunnerContract cfg plan .legacyC512
      maxSequenceLength tactics = false := by
    unfold validPromptWideP40WholeCoreRunnerContract
    split
    · rfl
    · simp
  unfold memoryProfileRefused
  simp [hcontract]

lemma memoryProfile_isolated (plan : PrefillExecutionPlan) (tactics : WholeRequestTactics)
    (answers : WholeRequestAnswers F) :
    Triple (fun runner => Working memory runner.currentPosition runner.currentPosition runner)
      (failWholeRequestPrefillIf answers
        (runnerStatus .invalidRequestState "whole_request_prefill_memory_profile")
        (fun runner => memoryProfileRefused cfg plan runner.memoryProfile runner.maxSequenceLength
          tactics runner.setup.layerMajorRequestViews))
      (fun _ runner => Based memory runner ∧ memory.profile ≠ .legacyC512) (Isolated memory) := by
  refine (failPrefillIf_isolated (fun _ h => h.toBased) _ _ _).conseq (fun _ h => h)
    (fun _ runner h => ⟨h.1.toBased, fun hlegacy => h.2 ?_⟩) fun _ h => h
  have hprofile : runner.memoryProfile = .legacyC512 := by
    rw [ReferenceRunner.memoryProfile, h.1.fixed, hlegacy]
  rw [hprofile]
  exact memoryProfileRefused_legacy _ _ _ _

lemma wholeRequestEntry_isolated (tokens : List ℕ) (plan : PrefillExecutionPlan)
    (tactics : WholeRequestTactics) (options : ReferenceWholeRequestPrefillOptions)
    (answers : WholeRequestAnswers F) :
    Triple (Isolated memory) (wholeRequestEntry cfg tokens plan tactics options answers)
      (fun _ runner => Based memory runner ∧ memory.profile ≠ .legacyC512) (Isolated memory) := by
  have hbased : ∀ runner, Based memory runner ∧ memory.profile ≠ .legacyC512 →
      Based memory runner := fun _ h => h.1
  unfold wholeRequestEntry
  refine Triple.bind (failPrefillIf_passed (fun _ h => h.toBased) _ _ _) fun _ => ?_
  refine Triple.bind dropRetained_isolated fun _ => ?_
  refine Triple.bind (Triple.stopIf fun runner h _ => h) fun _ => ?_
  refine Triple.bind markUncertain_working fun _ => ?_
  refine Triple.bind (memoryProfile_isolated _ _ _) fun _ => ?_
  refine Triple.bind (failPrefillIf_passed hbased _ _ _) fun _ => ?_
  refine Triple.bind (failPrefillIf_passed hbased _ _ _) fun _ => ?_
  refine Triple.bind (failPrefillIf_passed hbased _ _ _) fun _ => ?_
  refine Triple.bind (failPrefillIf_passed hbased _ _ _) fun _ => ?_
  refine Triple.bind (failPrefillIf_passed hbased _ _ _) fun _ => ?_
  refine Triple.bind (failPrefillIf_passed hbased _ _ _) fun _ => ?_
  refine Triple.bind (failPrefillIf_passed hbased _ _ _) fun _ => ?_
  refine Triple.bind (failPrefillIf_passed hbased _ _ _) fun _ => ?_
  exact Triple.bind (failPrefillIf_passed hbased _ _ _) fun _ => failPrefillIf_passed hbased _ _ _

lemma restage_based (stage : ReferenceRunner → WholeRequestPrefillStage) :
    Triple (Based memory)
      (update fun runner => { runner with stage := stage runner } : RunnerM Unit)
      (fun _ => Based memory) (Isolated memory) :=
  Triple.update fun _ h => ⟨h.fixed, h.arena, h.bounded⟩

lemma executeLayers_based (tokens : List ℕ) (plan : PrefillExecutionPlan)
    (tactics : WholeRequestTactics) (options : ReferenceWholeRequestPrefillOptions)
    (answers : WholeRequestAnswers F) :
    Triple (Based memory) (executeLayers tokens plan tactics options answers)
      (fun _ => Based memory) (Isolated memory) := by
  have hwrite : Triple (Based memory) (writeRows plan.firstPosition tokens.length answers.written)
      (fun _ => Based memory) (Isolated memory) := Triple.update fun _ h => h.overwrite
  unfold executeLayers
  refine Triple.bind (restage_based fun _ => { phase := .executing }) fun _ => ?_
  refine Triple.bind hwrite fun _ => ?_
  refine Triple.bind (failPrefillOn_isolated (fun _ h => h) _ _) fun _ => ?_
  refine Triple.bind (failPrefillOn_isolated (fun _ h => h) _ _) fun _ => ?_
  refine Triple.bind (failPrefillOn_isolated (fun _ h => h) _ _) fun _ => ?_
  refine Triple.bind (failPrefillIf_passed (fun _ h => h) _ _ _) fun _ => ?_
  exact failPrefillIf_passed (fun _ h => h) _ _ _

lemma prefillWholeRequest_isolated (tokens : List ℕ) (plan : PrefillExecutionPlan)
    (tactics : WholeRequestTactics) (options : ReferenceWholeRequestPrefillOptions)
    (answers : WholeRequestAnswers F) :
    Triple (Isolated memory)
      (prefillWholeRequestLayerMajorCore cfg tokens plan tactics options answers)
      (fun _ => Isolated memory) (Isolated memory) := by
  unfold prefillWholeRequestLayerMajorCore
  refine Triple.bind (wholeRequestEntry_isolated _ _ _ _ _) fun _ => Triple.assume fun hprofile => ?_
  refine Triple.bind (executeLayers_based _ _ _ _ _) fun _ => ?_
  refine Triple.bind (failPrefillOn_isolated (fun _ h => h) _ _) fun progress => ?_
  refine Triple.bind Triple.unread fun evidence => ?_
  refine Triple.bind (failPrefillOn_isolated (fun _ h => h) _ _) fun route => ?_
  refine Triple.bind (restage_based fun runner => wholeRequestStage plan tokens
    (runner.setup.layerMajorRequestViews.bind (·.finalHidden)) progress route) fun _ => ?_
  exact Triple.ret fun _ h => h.isolated hprofile

lemma restage_isolated (stage : ReferenceRunner → WholeRequestPrefillStage) :
    Triple (Isolated memory)
      (update fun runner => { runner with stage := stage runner } : RunnerM Unit)
      (fun _ => Isolated memory) (Isolated memory) :=
  Triple.update fun _ h => h.of_view rfl

lemma finishWholeRequest_isolated (token : ℕ) (options : ReferenceStepOptions)
    (answers : StepAnswers F) :
    Triple (Isolated memory) (finishWholeRequestCompatibilityCore token options answers)
      (fun _ => Isolated memory) (Isolated memory) := by
  have hscratch : Triple (Isolated memory) (writeScratch answers.written)
      (fun _ => Isolated memory) (Isolated memory) := Triple.update fun _ h => h.scratch
  unfold finishWholeRequestCompatibilityCore
  refine Triple.bind (failStepIf_isolated (fun _ h => h.toBased) _ _) fun _ => ?_
  refine Triple.bind Triple.unread fun stage => ?_
  refine Triple.bind (restage_isolated fun runner => { runner.stage with phase := .executing })
    fun _ => ?_
  refine Triple.bind (failStepIf_isolated (fun _ h => h.toBased) _ _) fun _ => ?_
  refine Triple.bind (failStepIf_isolated (fun _ h => h.toBased) _ _) fun _ => ?_
  refine Triple.bind (failStepIf_isolated (fun _ h => h.toBased) _ _) fun _ => ?_
  refine Triple.bind hscratch fun _ => ?_
  refine Triple.bind (failStepOn_isolated (fun _ h => h.toBased) _) fun _ => ?_
  refine Triple.bind (failStepOn_isolated (fun _ h => h.toBased) _) fun _ => ?_
  refine Triple.bind Triple.unread fun setup => ?_
  refine Triple.bind (failStepOnError_isolated (fun _ h => h.toBased) _) fun result => ?_
  refine Triple.bind (restage_isolated fun _ => { stage with phase := .awaitingCommit }) fun _ => ?_
  exact Triple.ret fun _ h => h

lemma publishStage_isolated (stage : WholeRequestPrefillStage) :
    Triple (Isolated memory) (publishStage stage) (fun _ => Isolated memory)
      (Isolated memory) := by
  intro runner h
  unfold publishStage RequestState.publishSequenceLength
  rw [outcome_mk, if_neg h.present]
  split_ifs with hcurrent hbound hlate
  · exact h.toBased.failed
  · exact h.toBased.failed
  · exact h.toBased.failed
  · refine ⟨⟨h.fixed, h.arena, ?_⟩, ?_, ?_⟩
    · rw [← h.fixed]
      exact not_lt.mp hbound
    · intro hlegacy hpoisoned
      have hle : runner.state.sequenceLength ≤ stage.committedSequenceLength := by
        rw [← not_not.mp hcurrent]
        exact not_lt.mp hlate
      exact (h.dirty hlegacy hpoisoned).mono hle
    · exact h.clean

lemma commitWholeRequest_isolated (plan : PrefillExecutionPlan)
    (progress : PrefillExecutionProgress) :
    Triple (Isolated memory) (commitWholeRequestLayerMajorCompatibilityCore cfg plan progress)
      (fun _ => Isolated memory) (Isolated memory) := by
  unfold commitWholeRequestLayerMajorCompatibilityCore
  refine Triple.bind (failStepIf_isolated (fun _ h => h.toBased) _ _) fun _ => ?_
  refine Triple.bind Triple.unread fun stage => ?_
  refine Triple.bind (failStepIf_isolated (fun _ h => h.toBased) _ _) fun _ => ?_
  refine Triple.bind (failStepIf_isolated (fun _ h => h.toBased) _ _) fun _ => ?_
  refine Triple.bind (failStepIf_isolated (fun _ h => h.toBased) _ _) fun _ => ?_
  refine Triple.bind (failStepIf_isolated (fun _ h => h.toBased) _ _) fun _ => ?_
  refine Triple.bind (failStepIf_isolated (fun _ h => h.toBased) _ _) fun _ => ?_
  refine Triple.bind (failStepIf_isolated (fun _ h => h.toBased) _ _) fun _ => ?_
  exact publishStage_isolated stage

end WholeRequest

section Plan

variable {plan : RequestMemoryPlan}

-- The plans a runner is made over: one of the ordinary builder, or the shared part of a
-- layer-major plan that the factory accepted.
inductive RunnerPlan : RequestMemoryPlan → Prop
  | ordinary {options : RequestMemoryOptions} {plan : RequestMemoryPlan}
      (h : buildRequestMemoryPlan options = .ok plan) : RunnerPlan plan
  | layerMajor {plan : LayerMajorRequestMemoryPlan} (h : validateCommonIdentity plan = true) :
      RunnerPlan plan.common

structure Resettable (plan : RequestMemoryPlan) : Prop where
  limit : persistentLimit plan ≠ none
  legacy : plan.profile = .legacyC512 →
    ∃ chunk seq, chunk ≤ 512 ∧ seq ≤ 262144 ∧ plan = requestPlan chunk seq

lemma RunnerPlan.resettable (h : RunnerPlan plan) : Resettable plan := by
  cases h with
  | ordinary h =>
    rename_i options
    have hadmitted : Admitted options := by
      by_contra hnot
      obtain ⟨diagnostic, hfailed, -⟩ := buildRequestMemoryPlan_of_not_admitted hnot
      rw [hfailed] at h
      cases h
    rw [buildRequestMemoryPlan_of_admitted hadmitted] at h
    obtain ⟨-, ⟨⟩⟩ := guard_ok.mp h
    refine ⟨?_, fun _ => ⟨_, _, hadmitted.chunk_le, hadmitted.seq_le, rfl⟩⟩
    rw [persistentLimit_ok hadmitted.seq_pos hadmitted.seq_le]
    exact Option.some_ne_none _
  | layerMajor h =>
    obtain ⟨hprofile, hlimit⟩ := validateCommonIdentity_limit h
    exact ⟨hlimit, fun hlegacy => absurd hlegacy hprofile⟩

end Plan

section Reset

variable {plan : RequestMemoryPlan} {runner : ReferenceRunner}

lemma issueMemsets_done {cuda : Memset → ℤ} {ranges : List Memset} {arena : ArenaBytes}
    (h : (issueMemsets cuda ranges arena).1 = 0) :
    (issueMemsets cuda ranges arena).2 = ranges.foldl Memset.clear arena := by
  induction ranges generalizing arena with
  | nil => rfl
  | cons range ranges ih =>
    unfold issueMemsets at h ⊢
    by_cases hrange : cuda range ≠ 0
    · rw [if_pos hrange] at h
      exact absurd h hrange
    · rw [if_neg hrange] at h ⊢
      exact ih h

lemma resetPlan_full_valid (h : persistentLimit plan ≠ none) :
    (buildRequestStateResetPlan plan .conservativeFull 0).valid = true := by
  obtain ⟨persistentEnd, hlimit⟩ := Option.ne_none_iff_exists'.mp h
  unfold buildRequestStateResetPlan
  rw [hlimit]
  rfl

-- A reset that fits the runner: its plan is valid, and it clears all that may be dirty.
structure Suitable (runner : ReferenceRunner) (decision : RequestResetDecision) : Prop where
  valid : (buildRequestStateResetPlan runner.state.plan decision.mode
    decision.committedPositions).valid = true
  length : decision.mode = .conservativeFull ∨
    runner.state.sequenceLength = decision.committedPositions
  clears : ∀ arena, runner.state.arena = some arena →
    ∀ address, Persistent runner.state.plan address →
      (resetMemsets runner.state.plan decision.mode decision.committedPositions).foldl
        Memset.clear arena address = 0

lemma suitable_full (h : persistentLimit runner.state.plan ≠ none) : Suitable runner {} where
  valid := resetPlan_full_valid h
  length := Or.inl rfl
  clears _ _ _ hp := foldl_clear_persistent.trans (if_pos hp)

lemma requestDecision_cases (runner : ReferenceRunner) :
    requestDecision runner = {} ∨
      (requestDecision runner = ⟨.alreadyClean, 0⟩ ∧
        runner.state.plan.profile = .legacyC512 ∧ runner.poisoned = false ∧
        runner.requestReuseBoundary = .knownClean ∧ runner.state.sequenceLength = 0 ∧
        0 < runner.state.plan.maxSequenceLength) ∨
      (requestDecision runner = ⟨.committedDirtyPrefix, runner.state.sequenceLength⟩ ∧
        runner.state.plan.profile = .legacyC512 ∧ runner.poisoned = false ∧
        0 < runner.state.sequenceLength ∧
        runner.state.sequenceLength ≤ runner.state.plan.maxSequenceLength) := by
  unfold requestDecision selectRequestReset
  split_ifs with hrefused hclean hcommitted
  · exact Or.inl rfl
  · simp only [not_or, not_not, Bool.not_eq_true] at hrefused
    obtain ⟨hprofile, hpoisoned, -, hmax, -⟩ := hrefused
    exact Or.inr (Or.inl ⟨rfl, hprofile, hpoisoned, hclean.1, hclean.2.2,
      Nat.pos_of_ne_zero hmax⟩)
  · simp only [not_or, not_not, Bool.not_eq_true, not_lt] at hrefused
    obtain ⟨hprofile, hpoisoned, -, -, hle⟩ := hrefused
    obtain ⟨-, hpos, heq⟩ := hcommitted
    refine Or.inr (Or.inr ⟨?_, hprofile, hpoisoned, ?_, hle⟩)
    · rw [heq]
      rfl
    · change 0 < runner.currentPosition
      rw [← heq]
      exact Nat.pos_of_ne_zero hpos
  · exact Or.inl rfl

lemma Isolated.suitable (h : Isolated plan runner) (hplan : Resettable plan) :
    Suitable runner (requestDecision runner) := by
  have hfixed := h.fixed
  obtain heq | ⟨heq, hprofile, hpoisoned, hboundary, hlength, hpos⟩ |
    ⟨heq, hprofile, hpoisoned, hpos, hle⟩ := requestDecision_cases runner
  · rw [heq]
    exact suitable_full (by rw [hfixed]; exact hplan.limit)
  · rw [heq]
    rw [hfixed] at hprofile hpos
    obtain ⟨chunk, seq, -, hseq, hshape⟩ := hplan.legacy hprofile
    refine ⟨?_, Or.inr hlength, ?_⟩
    · subst hshape
      rw [hfixed]
      exact congrArg RequestStateResetPlan.valid (@resetPlan_clean chunk seq hpos hseq)
    · obtain ⟨cleared, hcleared, hzero⟩ := h.clean hprofile hpoisoned hboundary
      intro arena harena address hp
      rw [hcleared] at harena
      obtain rfl := Option.some.inj harena
      exact hzero address hp
  · rw [heq]
    rw [hfixed] at hprofile hle
    obtain ⟨chunk, seq, hchunk, hseq, hshape⟩ := hplan.legacy hprofile
    obtain ⟨dirty, hdirtied, hdirty⟩ := h.dirty hprofile hpoisoned
    subst hshape
    have hreset := @dirtyPrefixReset chunk seq runner.state.sequenceLength hchunk hseq hpos hle
    rw [hfixed] at hdirty
    refine ⟨?_, Or.inr rfl, ?_⟩
    · rw [hfixed]
      exact hreset.valid
    · intro arena harena address hp
      rw [hdirtied] at harena
      obtain rfl := Option.some.inj harena
      rw [hfixed] at hp ⊢
      exact (hreset.clean dirty hdirty).1 address hp

structure ResetDone (plan : RequestMemoryPlan) (runner : ReferenceRunner)
    (result : RequestOperationStatus × RequestState × RequestStateResetReceipt) : Prop where
  error : result.1.error = none
  based : Based plan { runner with state := result.2.1 }
  cleared : result.1 = {} → Zeroed result.2.1 ∧ result.2.1.sequenceLength = 0

lemma Suitable.reset {decision : RequestResetDecision} (h : Suitable runner decision)
    (hbased : Based plan runner) (cuda : Memset → ℤ) (receipt : RequestStateResetReceipt) :
    ResetDone plan runner (resetForRequestAsync cuda decision.mode decision.committedPositions
      runner.state receipt) := by
  obtain ⟨arena, harena⟩ := Option.isSome_iff_exists.mp hbased.arena
  have hchecked : ¬((buildRequestStateResetPlan runner.state.plan decision.mode
      decision.committedPositions).valid = false ∨
      ((decision.mode = .alreadyClean ∨ decision.mode = .committedDirtyPrefix) ∧
        runner.state.sequenceLength ≠ decision.committedPositions)) := by
    rw [h.valid]
    rintro (hvalid | ⟨hmode, hne⟩)
    · cases hvalid
    · obtain hfull | hlength := h.length
      · simp [hfull] at hmode
      · exact hne hlength
  unfold resetForRequestAsync
  rw [harena]
  dsimp only
  rw [if_neg hchecked]
  by_cases hstatus : (issueMemsets cuda (resetMemsets runner.state.plan decision.mode
      decision.committedPositions) arena).1 = 0
  · rw [if_neg (not_not.mpr hstatus)]
    refine ⟨rfl, ⟨hbased.fixed, rfl, Nat.zero_le _⟩, fun _ => ⟨⟨_, rfl, ?_⟩, rfl⟩⟩
    rw [issueMemsets_done hstatus]
    exact h.clears arena harena
  · rw [if_pos hstatus]
    refine ⟨rfl, ⟨hbased.fixed, rfl, hbased.bounded⟩, fun hdone => ?_⟩
    exact absurd (congrArg RequestOperationStatus.cudaError hdone) hstatus

lemma Zeroed.opened (h : Zeroed runner.state) (hbased : Based plan runner)
    (boundary : RequestReuseBoundary) : Isolated plan (opened runner boundary) where
  fixed := hbased.fixed
  arena := hbased.arena
  bounded := hbased.bounded
  dirty _ _ := h.dirtyBelow
  clean _ _ _ := h

lemma reset_isolated (hplan : Resettable plan) (answers : ResetAnswers) :
    Triple (Isolated plan) (reset answers)
      (fun _ runner => Isolated plan runner ∧ Zeroed runner.state ∧ runner.currentPosition = 0)
      (Isolated plan) := by
  intro runner h
  have hlimit : persistentLimit runner.state.plan ≠ none := by
    rw [h.fixed]
    exact hplan.limit
  have hdone := (suitable_full hlimit).reset h.toBased answers.memset {}
  unfold reset
  rw [outcome_mk]
  by_cases haux : auxiliaryFailure answers runner
  · rw [if_pos haux]
    exact h.toBased.poison
  · rw [if_neg haux]
    revert hdone
    change ResetDone plan runner (resetForRequestAsync answers.memset .conservativeFull 0
      runner.state {}) → _
    generalize resetForRequestAsync answers.memset .conservativeFull 0 runner.state {} = result
    obtain ⟨status, state, receipt⟩ := result
    intro hdone
    dsimp only
    split_ifs with hstatus hsynchronize
    · exact hdone.based.poison
    · exact hdone.based.poison
    · obtain ⟨hzero, hlength⟩ := hdone.cleared (not_not.mp hstatus)
      exact ⟨Zeroed.opened hzero hdone.based _, hzero, hlength⟩

lemma begin_isolated (hplan : Resettable plan) (answers : ResetAnswers) :
    Triple (Isolated plan) (beginOrdinaryRequest answers)
      (fun _ runner => Isolated plan runner ∧ Zeroed runner.state ∧ runner.currentPosition = 0)
      (Isolated plan) := by
  intro runner h
  have hdone := (h.suitable hplan).reset h.toBased answers.memset {}
  have hmarked : Based plan runner.markUncertain := ⟨h.fixed, h.arena, h.bounded⟩
  unfold beginOrdinaryRequest
  rw [outcome_mk]
  dsimp only
  by_cases haux : auxiliaryFailure answers runner.markUncertain
  · rw [if_pos haux]
    exact hmarked.poison
  · rw [if_neg haux]
    revert hdone
    change ResetDone plan runner (resetForRequestAsync answers.memset (requestDecision runner).mode
      (requestDecision runner).committedPositions runner.markUncertain.state {}) → _
    generalize resetForRequestAsync answers.memset (requestDecision runner).mode
      (requestDecision runner).committedPositions runner.markUncertain.state {} = result
    obtain ⟨status, state, receipt⟩ := result
    intro hdone
    have hbased : Based plan { runner.markUncertain with state := state } :=
      ⟨hdone.based.fixed, hdone.based.arena, hdone.based.bounded⟩
    dsimp only
    split_ifs with hstatus herror hsynchronize
    · exact hbased.poison
    · exact hbased.poison
    · exact hbased.poison
    · obtain ⟨hzero, hlength⟩ := hdone.cleared (not_not.mp hstatus)
      exact ⟨Zeroed.opened hzero hbased _, hzero, hlength⟩

lemma commitBoundary_isolated :
    Triple (Isolated plan) commitOrdinaryRequestBoundary (fun _ => Isolated plan)
      (Isolated plan) := by
  intro runner h
  unfold commitOrdinaryRequestBoundary
  rw [outcome_mk]
  split_ifs
  · exact ⟨⟨h.fixed, h.arena, h.bounded⟩, h.dirty, fun _ _ hclean => by cases hclean⟩
  · exact h.of_view rfl
  · exact ⟨⟨h.fixed, h.arena, h.bounded⟩, h.dirty, fun _ _ hclean => by cases hclean⟩

end Reset

section Poisoned

variable {F : Type} {cfg : BuildConfig} {runner : ReferenceRunner} {α β : Type}

structure Halted (runner reached : ReferenceRunner) : Prop where
  poisoned : reached.poisoned = true
  same : lastingView reached = lastingView runner

def NeverDone (m : RunnerM α) (runner : ReferenceRunner) : Prop :=
  Triple (Halted runner) m (fun _ _ => False) (Halted runner)

lemma failStepIf_halted (status : ReferenceRunnerStatus) (c : ReferenceRunner → Prop)
    [DecidablePred c] :
    Triple (Halted runner) (failStepIf status c) (fun _ => Halted runner) (Halted runner) :=
  (Triple.stopIf fun _ h _ => ⟨rfl, h.same⟩).conseq (fun _ h => h) (fun _ _ h => h.1)
    fun _ h => h

lemma dropRetained_halted :
    Triple (Halted runner) (update ReferenceRunner.dropRetained : RunnerM Unit)
      (fun _ => Halted runner) (Halted runner) := Triple.update fun _ h => ⟨h.poisoned, h.same⟩

-- The check of every call that executes something.
lemma refuseIf_poisoned (status : ReferenceRunnerStatus) :
    NeverDone (refuseIf status (·.poisoned)) runner :=
  (Triple.stopIf fun _ h _ => h).conseq (fun _ h => h) (fun _ _ h => h.2 h.1.poisoned)
    fun _ h => h

lemma failStepIf_poisoned (status : ReferenceRunnerStatus) :
    NeverDone (failStepIf status (·.poisoned)) runner :=
  (Triple.stopIf fun _ h _ => ⟨rfl, h.same⟩).conseq (fun _ h => h)
    (fun _ _ h => h.2 h.1.poisoned) fun _ h => h

lemma NeverDone.bind {m : RunnerM α} (h : NeverDone m runner) (f : α → RunnerM β) :
    NeverDone (m >>= f) runner := Triple.bind h fun _ _ hfalse => hfalse.elim

lemma stepEntry_neverDone (token : ℕ) (options : ReferenceStepOptions)
    (action : DecodeGraphP1Action) : NeverDone (stepEntry token options action) runner := by
  unfold stepEntry
  refine Triple.bind (failStepIf_halted _ _) fun _ => ?_
  exact Triple.bind dropRetained_halted fun _ => (refuseIf_poisoned _).bind _

lemma step_neverDone (token : ℕ) (options : ReferenceStepOptions) (answers : StepAnswers F) :
    NeverDone (step token options answers) runner :=
  Triple.bind (failStepIf_halted _ _) fun _ => (stepEntry_neverDone _ _ _).bind _

lemma prepareP1_neverDone (token : ℕ) (answers : CaptureAnswers) :
    NeverDone (prepareFixedPositionDecodeGraphP1 token answers) runner := by
  unfold prepareFixedPositionDecodeGraphP1 captureStep
  refine Triple.bind (failStepIf_halted _ _) fun _ => ?_
  refine Triple.bind Triple.unread fun _ => ?_
  exact ((stepEntry_neverDone _ _ _).bind _).bind _

lemma prepareCache_neverDone (token : ℕ) (answers : CacheAnswers) (first last : ℕ) :
    NeverDone (prepareFixedPositionDecodeGraphCache token answers first last) runner :=
  Triple.bind (failStepIf_halted _ _) fun _ => (refuseIf_poisoned _).bind _

lemma replay_neverDone (token : ℕ) (answers : ReplayStepAnswers F) (measureTiming : Bool) :
    NeverDone (replayFixedPositionDecodeGraphP1 token answers measureTiming) runner :=
  Triple.bind (failStepIf_halted _ _) fun _ => (stepEntry_neverDone _ _ _).bind _

lemma tile_neverDone (tokens : List ℕ) (options : ReferencePrefillTileOptions)
    (answers : TileAnswers F) (elision : Bool) :
    NeverDone (prefillPrefixTileImpl tokens options answers elision) runner := by
  have hentry : NeverDone (tileEntry tokens options elision) runner := by
    unfold tileEntry
    refine Triple.bind (failStepIf_halted _ _) fun _ => ?_
    exact Triple.bind dropRetained_halted fun _ => (refuseIf_poisoned _).bind _
  exact hentry.bind _

lemma finishRetained_neverDone (token : ℕ) (options : ReferenceStepOptions)
    (answers : StepAnswers F) :
    NeverDone (finishPrefillFromRetainedTile token options answers) runner := by
  unfold finishPrefillFromRetainedTile
  refine Triple.bind (failStepIf_halted _ _) fun _ => ?_
  refine Triple.bind Triple.unread fun _ => ?_
  exact Triple.bind dropRetained_halted fun _ => (refuseIf_poisoned _).bind _

lemma prefillWholeRequest_neverDone (tokens : List ℕ) (plan : PrefillExecutionPlan)
    (tactics : WholeRequestTactics) (options : ReferenceWholeRequestPrefillOptions)
    (answers : WholeRequestAnswers F) :
    NeverDone (prefillWholeRequestLayerMajorCore cfg tokens plan tactics options answers)
      runner := by
  have hactive : Triple (Halted runner) (failWholeRequestPrefillIf answers
      (runnerStatus .invalidStepOptions "whole_request_prefill_stage_active")
      (·.wholeRequestPrefillActive)) (fun _ => Halted runner) (Halted runner) := by
    intro reached h
    unfold failWholeRequestPrefillIf
    rw [outcome_mk]
    split_ifs
    · exact ⟨rfl, h.same⟩
    · exact h
  have hentry : NeverDone (wholeRequestEntry cfg tokens plan tactics options answers) runner := by
    unfold wholeRequestEntry
    refine Triple.bind hactive fun _ => ?_
    exact Triple.bind dropRetained_halted fun _ => (refuseIf_poisoned _).bind _
  exact hentry.bind _

lemma finishWholeRequest_neverDone (token : ℕ) (options : ReferenceStepOptions)
    (answers : StepAnswers F) :
    NeverDone (finishWholeRequestCompatibilityCore token options answers) runner := by
  have hexecuting : Triple (Halted runner) (update fun runner : ReferenceRunner =>
      { runner with stage := { runner.stage with phase := .executing } } : RunnerM Unit)
      (fun _ => Halted runner) (Halted runner) := Triple.update fun _ h => ⟨h.poisoned, h.same⟩
  unfold finishWholeRequestCompatibilityCore
  refine Triple.bind (failStepIf_halted _ _) fun _ => ?_
  refine Triple.bind Triple.unread fun _ => ?_
  exact Triple.bind hexecuting fun _ => (failStepIf_poisoned _).bind _

lemma commitWholeRequest_neverDone (plan : PrefillExecutionPlan)
    (progress : PrefillExecutionProgress) :
    NeverDone (commitWholeRequestLayerMajorCompatibilityCore cfg plan progress) runner := by
  unfold commitWholeRequestLayerMajorCompatibilityCore
  refine Triple.bind (failStepIf_halted _ _) fun _ => ?_
  exact Triple.bind Triple.unread fun _ => (failStepIf_poisoned _).bind _

-- The calls that run kernels, capture or launch graphs, or publish what was run.
def RunnerOperation.executes : RunnerOperation F → Bool
  | .step .. | .prepareFixedPositionDecodeGraphP1 .. | .prepareFixedPositionDecodeGraphCache ..
  | .replayFixedPositionDecodeGraphP1 .. | .prefillPrefixTile ..
  | .finishPrefillFromRetainedTile .. | .prefillWholeRequest .. | .finishWholeRequest ..
  | .commitWholeRequest .. => true
  | _ => false

lemma NeverDone.verdict {m : RunnerM α} (h : NeverDone m runner) (hpoisoned : runner.poisoned) :
    (verdict m runner).1 ≠ none ∧ Halted runner (verdict m runner).2 := by
  have hh := h runner ⟨hpoisoned, rfl⟩
  unfold Runner.verdict
  revert hh
  generalize outcome m runner = result
  obtain ⟨r, reached⟩ := result
  cases r with
  | ok a => exact False.elim
  | error e => exact fun hh => ⟨Option.some_ne_none _, hh⟩

lemma poisoned_executes (operation : RunnerOperation F) (hexecutes : operation.executes = true)
    (hpoisoned : runner.poisoned) :
    (operation.perform cfg runner).1 ≠ none ∧ Halted runner (operation.apply cfg runner) := by
  cases operation with
  | step answers token options => exact (step_neverDone _ _ _).verdict hpoisoned
  | prepareFixedPositionDecodeGraphP1 answers token =>
    exact (prepareP1_neverDone _ _).verdict hpoisoned
  | prepareFixedPositionDecodeGraphCache answers first last token =>
    exact (prepareCache_neverDone _ _ _ _).verdict hpoisoned
  | replayFixedPositionDecodeGraphP1 answers token measureTiming =>
    exact (replay_neverDone _ _ _).verdict hpoisoned
  | prefillPrefixTile answers tokens options elision =>
    exact (tile_neverDone _ _ _ _).verdict hpoisoned
  | finishPrefillFromRetainedTile answers token options =>
    exact (finishRetained_neverDone _ _ _).verdict hpoisoned
  | prefillWholeRequest answers tokens plan tactics options =>
    exact (prefillWholeRequest_neverDone _ _ _ _ _).verdict hpoisoned
  | finishWholeRequest answers token options =>
    exact (finishWholeRequest_neverDone _ _ _).verdict hpoisoned
  | commitWholeRequest plan progress =>
    exact (commitWholeRequest_neverDone _ _).verdict hpoisoned
  | _ => cases hexecutes

end Poisoned

section Runs

variable {F : Type} {cfg : BuildConfig} {plan : RequestMemoryPlan} {runner : ReferenceRunner}

lemma Isolated.verdict {α : Type} {m : RunnerM α} (h : Isolated plan runner)
    (hm : Triple (Isolated plan) m (fun _ => Isolated plan) (Isolated plan)) :
    Isolated plan (verdict m runner).2 := verdict_final (hm.final h)

lemma Isolated.apply (h : Isolated plan runner) (hsound : CacheSound runner)
    (hplan : Resettable plan) (operation : RunnerOperation F) :
    Isolated plan (operation.apply cfg runner) := by
  cases operation with
  | reset answers =>
    exact h.verdict ((reset_isolated hplan answers).conseq (fun _ hh => hh) (fun _ _ hh => hh.1)
      fun _ hh => hh)
  | beginOrdinaryRequest answers =>
    exact h.verdict ((begin_isolated hplan answers).conseq (fun _ hh => hh) (fun _ _ hh => hh.1)
      fun _ hh => hh)
  | commitOrdinaryRequestBoundary => exact h.verdict commitBoundary_isolated
  | recordScalarPrefillRouteFallback => exact h.verdict recordScalar_isolated
  | finalizePrefillRouteEvidence expected =>
    unfold RunnerOperation.apply RunnerOperation.perform finalizePrefillRouteEvidence
    dsimp only
    split_ifs
    · exact h.toBased.failed
    · exact h.of_view rfl
  | step answers token options => exact h.verdict (step_isolated _ _ _)
  | prepareFixedPositionDecodeGraphP1 answers token =>
    exact verdict_final ((prepareP1_isolated token answers h).final rfl)
  | prepareFixedPositionDecodeGraphCache answers first last token =>
    exact h.verdict (prepareCache_isolated _ _ _ _)
  | clearFixedPositionDecodeGraphCache answers => exact h.verdict (clear_isolated _)
  | replayFixedPositionDecodeGraphP1 answers token measureTiming =>
    exact verdict_final ((replay_isolated token answers measureTiming hsound).final ⟨h, rfl⟩)
  | prefillPrefixTile answers tokens options elision => exact h.verdict (tile_isolated _ _ _ _)
  | finishPrefillFromRetainedTile answers token options =>
    exact h.verdict (finishRetained_isolated _ _ _)
  | prefillWholeRequest answers tokens plan tactics options =>
    exact h.verdict (prefillWholeRequest_isolated _ _ _ _ _)
  | finishWholeRequest answers token options =>
    exact h.verdict (finishWholeRequest_isolated _ _ _)
  | commitWholeRequest plan progress => exact h.verdict (commitWholeRequest_isolated _ _)
  | mtpTransaction effect =>
    unfold RunnerOperation.apply RunnerOperation.perform mtpTransaction
    dsimp only
    split_ifs with hrefused
    · exact h
    · rw [not_or, not_not, not_lt] at hrefused
      have hprofile : plan.profile ≠ .legacyC512 := by
        rw [← h.fixed]
        intro hlegacy
        rw [ReferenceRunner.memoryProfile, hlegacy] at hrefused
        cases hrefused.1
      refine Based.isolated ⟨h.fixed, ?_, ?_⟩ hprofile
      · rw [Option.isSome_map]
        exact h.arena
      · rw [← h.fixed]
        exact hrefused.2

lemma isolated_run (hplan : Resettable plan) (operations : List (RunnerOperation F))
    (h : Isolated plan runner) (hsound : CacheSound runner) :
    Isolated plan (runOperations cfg operations runner) := by
  induction operations generalizing runner with
  | nil => exact h
  | cons operation operations ih =>
    exact ih (h.apply hsound hplan operation) (hsound.apply operation)

lemma isolated_created (h : Created runner) : Isolated runner.state.plan runner where
  fixed := rfl
  arena := by
    obtain ⟨arena, harena, -⟩ := h.zeroed
    rw [harena]
    rfl
  bounded := by
    rw [h.start]
    exact Nat.zero_le _
  dirty _ _ := Zeroed.dirtyBelow h.zeroed
  clean _ _ _ := h.zeroed

-- What holds of a runner between two calls.
structure IsolatesRequests (F : Type) (cfg : BuildConfig) (runner : ReferenceRunner) : Prop where
  alreadyClean : (requestDecision runner).mode = .alreadyClean → Zeroed runner.state
  dirtyPrefix : (requestDecision runner).mode = .committedDirtyPrefix →
    (requestDecision runner).committedPositions = runner.currentPosition ∧
      DirtyBelow runner.currentPosition runner.state
  accepted : ∀ cuda receipt, (resetForRequestAsync cuda (requestDecision runner).mode
    (requestDecision runner).committedPositions runner.state receipt).1.error = none
  fullAccepted : ∀ cuda receipt,
    (resetForRequestAsync cuda .conservativeFull 0 runner.state receipt).1.error = none
  begun : ∀ answers receipt final,
    outcome (beginOrdinaryRequest answers) runner = (.ok receipt, final) →
      Zeroed final.state ∧ final.currentPosition = 0
  reset : ∀ answers final, outcome (reset answers) runner = (.ok (), final) →
    Zeroed final.state ∧ final.currentPosition = 0
  poisoned : ∀ operation : RunnerOperation F, operation.executes = true →
    runner.poisoned = true →
      (operation.perform cfg runner).1 ≠ none ∧ Halted runner (operation.apply cfg runner)

lemma Isolated.isolatesRequests (h : Isolated plan runner) (hplan : Resettable plan) :
    IsolatesRequests F cfg runner where
  alreadyClean hmode := by
    obtain heq | ⟨-, hprofile, hpoisoned, hboundary, -⟩ | ⟨heq, -⟩ := requestDecision_cases runner
    · rw [heq] at hmode
      cases hmode
    · rw [h.fixed] at hprofile
      exact h.clean hprofile hpoisoned hboundary
    · rw [heq] at hmode
      cases hmode
  dirtyPrefix hmode := by
    obtain heq | ⟨heq, -⟩ | ⟨heq, hprofile, hpoisoned, -⟩ := requestDecision_cases runner
    · rw [heq] at hmode
      cases hmode
    · rw [heq] at hmode
      cases hmode
    · rw [h.fixed] at hprofile
      exact ⟨by rw [heq]; rfl, h.dirty hprofile hpoisoned⟩
  accepted cuda receipt := ((h.suitable hplan).reset h.toBased cuda receipt).error
  fullAccepted cuda receipt := by
    have hlimit : persistentLimit runner.state.plan ≠ none := by
      rw [h.fixed]
      exact hplan.limit
    exact ((suitable_full hlimit).reset h.toBased cuda receipt).error
  begun answers receipt final hfinal := by
    have hspec := begin_isolated hplan answers runner h
    rw [hfinal] at hspec
    exact hspec.2
  reset answers final hfinal := by
    have hspec := reset_isolated hplan answers runner h
    rw [hfinal] at hspec
    exact hspec.2
  poisoned operation hexecutes hpoisoned := poisoned_executes operation hexecutes hpoisoned

theorem request_isolation (cfg : BuildConfig) (start : ReferenceRunner) (hstart : Created start)
    (hplan : RunnerPlan start.state.plan) (operations : List (RunnerOperation F)) :
    IsolatesRequests F cfg (runOperations cfg operations start) :=
  (isolated_run hplan.resettable operations (isolated_created hstart)
    (cacheSound_created hstart)).isolatesRequests hplan.resettable

def oneTokenRequest : List (RunnerOperation ℕ) :=
  [.step ⟨none, fun _ => 1, 0, ⟨false, 0, true, ⟨0, 0, 0, 0⟩⟩, 0⟩ 7 { computeLogits := false },
    .commitOrdinaryRequestBoundary]

lemma freshRunner_plan : RunnerPlan freshRunner.state.plan := by
  have hadmitted : Admitted { prefillChunkSize := 512, maxSequenceLength := 4096 } :=
    ⟨by decide, by decide, by decide, by decide, by decide, by decide, by decide⟩
  have hplan := buildRequestMemoryPlan_of_admitted hadmitted
  rw [if_neg (by decide)] at hplan
  exact .ordinary hplan

theorem request_isolation_one_token :
    requestDecision (runOperations {} oneTokenRequest freshRunner) = ⟨.committedDirtyPrefix, 1⟩ ∧
      IsolatesRequests ℕ {} (runOperations {} oneTokenRequest freshRunner) :=
  ⟨by decide, request_isolation {} freshRunner freshRunner_created freshRunner_plan
    oneTokenRequest⟩

end Runs

end Qwen3xOrin.Runner
