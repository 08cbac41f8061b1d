import Qwen3xOrin.Runner.SubmissionRun

/-! The submission window in a call of the whole-request prefill: the schedule its plan asks for,
and the number of retirements the engine expects. -/

namespace Qwen3xOrin.Runner

open Library Request Prefill
open Engine (ReferenceWholeRequestPrefillResult expectedSubmissionsPerLayer runnerContract)
open Generation hiding maximumRequestPrefillChunkSize Outcome

section Plan

variable {cfg : BuildConfig} {plan : PrefillExecutionPlan}

lemma submissions_length (promptWide : Bool) :
    (submissions cfg plan promptWide).length =
      layerCount * (layerPhases cfg plan promptWide).length := by
  simp [submissions, List.length_flatMap]

lemma validMlpSchedule_waits (h : validMlpSchedule cfg plan = true) :
    plan.mlpSchedule.waitsForAllOperatorPanels = decide (plan.tactic ≠ .perOperatorPanel) := by
  unfold validMlpSchedule at h
  dsimp only at h
  unfold PrefillExecutionPlan.tactic
  split at h
  · cases h
  split at h
  · rename_i ht
    rw [of_decide_eq_true h]
    simp
  split at h
  · rename_i ht _
    simp only [Bool.and_eq_true] at h
    rw [h.1.1.1.2]
    simp [ht]
  · rename_i ht _
    simp only [Bool.and_eq_true] at h
    rw [h.1.1.1.2]
    simp [ht]

-- The schedule that goes with the tactic of a valid plan has one core and one feed-forward phase.
lemma layerPhases_length (h : validPlanTopology cfg plan = true) :
    (layerPhases cfg plan (isPromptWide plan.tactic)).length =
      expectedSubmissionsPerLayer plan := by
  have htopology := topology_of_valid h
  simp only [validPlanTopology, Bool.and_eq_true] at h
  obtain ⟨⟨⟨⟨⟨⟨⟨⟨⟨⟨-, hmlp⟩, hwhole⟩, hreset⟩, hpacked⟩, hv2⟩, hparity⟩, -⟩, -⟩, -⟩, -⟩ := h
  have hwaits := validMlpSchedule_waits hmlp
  have hphases := htopology.mlpPhases
  unfold layerPhases expectedSubmissionsPerLayer layerWideP40Mlp
  cases htactic : plan.tactic with
  | perOperatorPanel => simp [isPromptWide, hwaits, htactic]
  | layerWideP40ExactFullM => simp [isPromptWide, hwaits, htactic, hphases]
  | promptWideP40WholeCore =>
    simp only [validWholeCoreSchedule, htactic, ne_eq, not_true_eq_false, if_false,
      Bool.and_eq_true, decide_eq_true_eq] at hwhole
    simp [isPromptWide, hwhole.2]
    omega
  | promptWideP40ProjectionReset =>
    simp only [validProjectionResetSchedule, htactic, ne_eq, not_true_eq_false, if_false,
      Bool.and_eq_true, decide_eq_true_eq] at hreset
    simp [isPromptWide, hreset.2]
    omega
  | promptWideP40PackedProjection =>
    simp only [validPackedProjectionSchedule, htactic, ne_eq, not_true_eq_false, if_false,
      Bool.and_eq_true, decide_eq_true_eq] at hpacked
    simp [isPromptWide, hpacked.2]
    omega
  | promptWideP40PackedNvfp4V2 =>
    simp only [validPackedNvfp4V2Schedule, htactic, ne_eq, not_true_eq_false, if_false,
      Bool.and_eq_true, decide_eq_true_eq] at hv2
    simp [isPromptWide, hv2.2]
    omega
  | promptWideP40VllmMarlinParity =>
    simp only [validVllmMarlinParitySchedule, htactic, ne_eq, not_true_eq_false, if_false,
      Bool.and_eq_true, decide_eq_true_eq] at hparity
    simp [isPromptWide, hparity.2]
    omega

lemma validMlpSchedule_tokens (h : validMlpSchedule cfg plan = true)
    (hwide : isPromptWide plan.tactic = true) :
    plan.promptTokenCount ≤ wholeCoreCompiledPromptStorageTokens cfg := by
  have hadmitted (tokens : ℕ) (htokens : wholeCorePromptTokensAdmitted cfg tokens = true) :
      tokens ≤ wholeCoreCompiledPromptStorageTokens cfg := by
    unfold wholeCoreCompiledPromptStorageTokens wholeCoreCompiledSequenceCapacity
    unfold wholeCorePromptTokensAdmitted wholeCoreCompiledSequenceCapacity at htokens
    cases hservice : cfg.wholeCoreService with
    | true =>
      rw [hservice] at htokens
      simp only [if_true, Bool.and_eq_true, decide_eq_true_eq] at htokens ⊢
      omega
    | false =>
      rw [hservice] at htokens
      simpa using (of_decide_eq_true htokens).le
  unfold validMlpSchedule at h
  dsimp only at h
  unfold PrefillExecutionPlan.tactic at hwide
  split at h
  · cases h
  split at h
  · rename_i ht
    rw [ht] at hwide
    cases hwide
  split at h
  · simp only [Bool.and_eq_true, decide_eq_true_eq] at h
    exact h.1.1.1.1.2.1.le
  · simp only [Bool.and_eq_true, decide_eq_true_eq] at h
    have htokens := h.1.1.1.1.1.1.1.2
    split at htokens
    · exact hadmitted _ htokens
    · exact (of_decide_eq_true htokens).le

lemma panelCount_le_capacity (h : validPlanTopology cfg plan = true)
    (hwide : isPromptWide plan.tactic = true) :
    plan.panelCount ≤ wholeCoreCompiledPanelCapacity cfg := by
  simp only [validPlanTopology, Bool.and_eq_true, decide_eq_true_eq] at h
  obtain ⟨⟨⟨⟨⟨⟨⟨⟨⟨⟨-, hmlp⟩, -⟩, -⟩, -⟩, -⟩, -⟩, hcount⟩, -⟩, -⟩, -⟩ := h
  have hfixed : plan.tactic.fixedP40Geometry = true := by
    cases htactic : plan.tactic with
    | perOperatorPanel => rw [htactic] at hwide; cases hwide
    | layerWideP40ExactFullM => rw [htactic] at hwide; cases hwide
    | _ => rfl
  rw [hcount, panelCountFor, if_pos hfixed, wholeCoreCompiledPanelCapacity]
  exact Nat.div_le_div_right (Nat.add_le_add_right (validMlpSchedule_tokens hmlp hwide) _)

-- Layer by layer, and within a layer phase by phase.
def Precedes (a b : ℕ × ℕ) : Prop := a.1 < b.1 ∨ a.1 = b.1 ∧ a.2 < b.2

lemma layerPhases_increasing (h : validPlanTopology cfg plan = true) :
    (layerPhases cfg plan (isPromptWide plan.tactic)).Pairwise (· < ·) := by
  unfold layerPhases
  cases hwide : isPromptWide plan.tactic with
  | true =>
    have hle := panelCount_le_capacity h hwide
    rw [if_pos rfl]
    simp only [List.pairwise_append, List.pairwise_singleton, List.pairwise_map, List.mem_append,
      List.mem_singleton, List.mem_map, List.mem_range, promptWideP40WholeCorePromptCorePhase,
      promptWideP40WholeCoreDrainPhaseBegin, promptWideP40WholeCorePersistentMlpPhase]
    refine ⟨⟨⟨List.pairwise_lt_range, trivial, ?_⟩, ?_, ?_⟩, trivial, ?_⟩
    · intro a ha b hb
      omega
    · exact List.pairwise_lt_range.imp fun h => Nat.add_lt_add_left h _
    · rintro a ha b ⟨c, hc, rfl⟩
      omega
    · rintro a ha b rfl
      obtain (ha | ha) | ⟨c, hc, rfl⟩ := ha
      all_goals omega
  | false =>
    rw [if_neg Bool.false_ne_true]
    split_ifs with hlayerWide
    · simp only [List.pairwise_append, List.pairwise_singleton, List.mem_singleton, List.mem_range]
      refine ⟨List.pairwise_lt_range, trivial, ?_⟩
      rintro a ha b rfl
      exact ha
    · rw [List.append_nil]
      exact List.pairwise_lt_range

lemma submissions_ordered (h : validPlanTopology cfg plan = true) :
    (submissions cfg plan (isPromptWide plan.tactic)).Pairwise Precedes := by
  refine List.pairwise_flatMap.mpr ⟨fun layer _ => ?_, ?_⟩
  · exact List.pairwise_map.mpr ((layerPhases_increasing h).imp fun hlt => .inr ⟨rfl, hlt⟩)
  · refine List.pairwise_lt_range.imp fun {l l'} hlt a ha b hb => ?_
    obtain ⟨p, -, rfl⟩ := List.mem_map.mp ha
    obtain ⟨q, -, rfl⟩ := List.mem_map.mp hb
    exact .inl hlt

end Plan

section Entry

variable {F : Type} {cfg : BuildConfig} {inputTokenIds : List ℕ} {plan : PrefillExecutionPlan}
  {tactics : WholeRequestTactics} {options : ReferenceWholeRequestPrefillOptions}
  {answers : WholeRequestAnswers F} {device : SubmissionAnswers} {runner : ReferenceRunner}

lemma failPrefillIf_passes {p : ReferenceRunner → Prop} (status : ReferenceRunnerStatus)
    (c : ReferenceRunner → Prop) [DecidablePred c] :
    Triple p (failWholeRequestPrefillIf answers status c) (fun _ r => p r ∧ ¬ c r)
      (fun _ => True) := by
  intro r h
  unfold failWholeRequestPrefillIf
  rw [outcome_mk]
  by_cases hc : c r
  · rw [if_pos hc]
    trivial
  · rw [if_neg hc]
    exact ⟨h, hc⟩

-- What the entry leaves as it was, and the two of its checks the schedule rests on.
structure Admits (cfg : BuildConfig) (inputTokenIds : List ℕ) (plan : PrefillExecutionPlan)
    (tactics : WholeRequestTactics) (runner reached : ReferenceRunner) : Prop where
  setup : reached.setup = runner.setup
  profile : memoryProfileRefused cfg plan reached.memoryProfile reached.maxSequenceLength tactics
    reached.setup.layerMajorRequestViews = false
  topology : topologyRefused cfg plan reached.maxSequenceLength reached.currentPosition
    inputTokenIds.length = false

lemma wholeRequestEntry_admits :
    Triple (Exactly runner) (wholeRequestEntry cfg inputTokenIds plan tactics options answers)
      (fun _ => Admits cfg inputTokenIds plan tactics runner) (fun _ => True) := by
  have hdrop : Triple (fun r => Exactly runner r ∧ ¬ r.wholeRequestPrefillActive)
      (update ReferenceRunner.dropRetained : RunnerM Unit) (fun _ r => r.setup = runner.setup)
      (fun _ => True) := by
    refine Triple.update fun r h => ?_
    obtain ⟨rfl, -⟩ := h
    rfl
  have hpoisoned : Triple (fun r => r.setup = runner.setup)
      (refuseIf (runnerStatus .poisoned "whole_request_prefill") (·.poisoned))
      (fun _ r => r.setup = runner.setup) (fun _ => True) :=
    (Triple.stopIf fun _ _ _ => trivial).conseq (fun _ h => h) (fun _ _ h => h.1) fun _ h => h
  have hmark : Triple (fun r => r.setup = runner.setup)
      (update ReferenceRunner.markUncertain : RunnerM Unit) (fun _ r => r.setup = runner.setup)
      (fun _ => True) := Triple.update fun _ h => h
  unfold wholeRequestEntry
  refine Triple.bind (failPrefillIf_passes _ _) fun _ => ?_
  refine Triple.bind hdrop fun _ => ?_
  refine Triple.bind hpoisoned fun _ => ?_
  refine Triple.bind hmark fun _ => ?_
  refine Triple.bind (failPrefillIf_passes _ _) fun _ => ?_
  refine Triple.bind (failPrefillIf_passes _ _) fun _ => ?_
  refine Triple.bind (failPrefillIf_passes _ _) fun _ => ?_
  refine Triple.bind (failPrefillIf_passes _ _) fun _ => ?_
  refine Triple.bind (failPrefillIf_passes _ _) fun _ => ?_
  refine Triple.bind (failPrefillIf_passes _ _) fun _ => ?_
  refine Triple.bind (failPrefillIf_passes _ _) fun _ => ?_
  refine Triple.bind (failPrefillIf_passes _ _) fun _ => ?_
  refine Triple.bind (failPrefillIf_passes _ _) fun _ => ?_
  refine Triple.bind (failPrefillIf_passes _ _) fun _ => ?_
  refine (failPrefillIf_passes _ _).conseq (fun _ h => h) (fun _ r h => ?_) fun _ h => h
  obtain ⟨⟨⟨⟨⟨⟨⟨⟨⟨⟨⟨hsetup, hprofile⟩, -⟩, -⟩, -⟩, htopology⟩, -⟩, -⟩, -⟩, -⟩, -⟩, -⟩ := h
  exact ⟨hsetup, Bool.eq_false_iff.mpr hprofile, Bool.eq_false_iff.mpr htopology⟩

lemma Admits.valid {reached : ReferenceRunner}
    (h : Admits cfg inputTokenIds plan tactics runner reached) :
    validPlanTopology cfg plan = true := by
  have htopology := h.topology
  rw [topologyRefused, Bool.or_eq_false_iff, Bool.not_eq_false'] at htopology
  exact htopology.1

lemma isPromptWide_of_schedule {projection : LayerMajorPrefillProjectionTactic}
    {schedule : LayerMajorPrefillMlpScheduleTactic}
    (h : promptWideSchedule projection = some schedule) : isPromptWide schedule = true := by
  cases projection <;> cases h <;> rfl

-- The branch of the layer loop is the one the tactic of the plan asks for.
lemma Admits.promptWide {reached : ReferenceRunner}
    (h : Admits cfg inputTokenIds plan tactics runner reached) :
    validPromptWideP40WholeCoreRunnerContract cfg plan reached.memoryProfile
      reached.maxSequenceLength tactics = isPromptWide plan.tactic := by
  have hprofile := h.profile
  simp only [memoryProfileRefused, Bool.or_eq_false_iff, decide_eq_false_iff_not, not_not]
    at hprofile
  have hsame := hprofile.1.1.2
  rw [Bool.eq_iff_iff]
  constructor
  · intro hcontract
    unfold validPromptWideP40WholeCoreRunnerContract at hcontract
    cases hschedule : promptWideSchedule tactics.projection with
    | none =>
      rw [hschedule] at hcontract
      cases hcontract
    | some schedule =>
      rw [hschedule] at hcontract
      simp only [Bool.and_eq_true, decide_eq_true_eq] at hcontract
      rw [hcontract.1.2]
      exact isPromptWide_of_schedule hschedule
  · intro hwide
    rw [← hsame, anyPromptWideP40WholeCoreIdentity, hwide, Bool.or_true]

end Entry

section Call

variable {F : Type} {cfg : BuildConfig} {inputTokenIds : List ℕ} {plan : PrefillExecutionPlan}
  {tactics : WholeRequestTactics} {options : ReferenceWholeRequestPrefillOptions}
  {answers : WholeRequestAnswers F} {device : SubmissionAnswers} {runner : ReferenceRunner}

-- The streams are drained before a failed call returns.
def DrainFails (answers : WholeRequestAnswers F) (runner : ReferenceRunner) : Prop :=
  answers.drainMain ≠ 0 ∨ runner.setup.auxiliaryStream = true ∧ answers.drainAuxiliary ≠ 0

instance : Decidable (DrainFails answers runner) :=
  inferInstanceAs (Decidable (_ ∨ _ ∧ _))

lemma drainStatus_retired (drain : ℤ) (operation : String) (status : ReferenceRunnerStatus) :
    (drainStatus drain operation status).retiredPrefillQuanta = status.retiredPrefillQuanta := by
  unfold drainStatus
  split_ifs <;> rfl

lemma drainStatus_error (drain : ℤ) (operation : String) (status : ReferenceRunnerStatus) :
    (drainStatus drain operation status).error =
      if drain ≠ 0 then .cudaFailure else status.error := by
  unfold drainStatus
  by_cases hdrain : drain ≠ 0
  · rw [if_pos hdrain]
    split_ifs with hother
    · rfl
    · exact not_not.mp fun h => hother ⟨hdrain, h⟩
  · rw [if_neg hdrain, if_neg fun h => hdrain h.1]

lemma drained_retired (status : ReferenceRunnerStatus) :
    (drained answers runner status).retiredPrefillQuanta = status.retiredPrefillQuanta := by
  simp only [drained]
  split_ifs
  · rw [drainStatus_retired, drainStatus_retired]
  · rw [drainStatus_retired]

lemma drained_error (status : ReferenceRunnerStatus) :
    (drained answers runner status).error =
      if DrainFails answers runner then .cudaFailure else status.error := by
  simp only [drained, DrainFails]
  by_cases hmain : answers.drainMain ≠ 0 <;>
    by_cases hauxiliary : runner.setup.auxiliaryStream = true <;>
    simp [drainStatus_error, hmain, hauxiliary]

lemma update_passes (q : Prop) (f : ReferenceRunner → ReferenceRunner) :
    Triple (fun _ => q) (update f : RunnerM Unit) (fun _ _ => q) (fun _ => True) :=
  Triple.update fun _ h => h

lemma failPrefillOn_passes {α : Type} (q : Prop) (result : Except ReferenceRunnerStatus α) :
    Triple (fun _ => q) (failWholeRequestPrefillOn answers result) (fun _ _ => q)
      (fun _ => True) := by
  cases result with
  | ok _ => exact Triple.ret fun _ h => h
  | error status => exact fun _ _ => trivial

lemma executeLayers_succeeds :
    Triple (fun _ => True) (executeLayers inputTokenIds plan tactics options answers)
      (fun _ _ => answers.layers = none) (fun _ => True) := by
  have hlayers : Triple (fun _ => True) (failWholeRequestPrefillOn answers (errorOf answers.layers))
      (fun _ _ => answers.layers = none) (fun _ => True) := by
    cases answers.layers with
    | none => exact Triple.ret fun _ _ => rfl
    | some status => exact fun _ _ => trivial
  have hif (status : ReferenceRunnerStatus) (c : ReferenceRunner → Prop) [DecidablePred c] :
      Triple (fun _ => answers.layers = none) (failWholeRequestPrefillIf answers status c)
        (fun _ _ => answers.layers = none) (fun _ => True) :=
    (failPrefillIf_passes status c).conseq (fun _ h => h) (fun _ _ h => h.1) fun _ h => h
  unfold executeLayers
  refine Triple.bind (update_passes True _) fun _ => ?_
  refine Triple.bind (update_passes True _) fun _ => ?_
  refine Triple.bind hlayers fun _ => ?_
  refine Triple.bind (failPrefillOn_passes _ _) fun _ => ?_
  refine Triple.bind (failPrefillOn_passes _ _) fun _ => ?_
  exact Triple.bind (hif _ _) fun _ => hif _ _

-- What a call that succeeds reports.
structure Reports (inputTokenIds : List ℕ) (plan : PrefillExecutionPlan)
    (options : ReferenceWholeRequestPrefillOptions) (answers : WholeRequestAnswers F)
    (executed : ReferenceWholeRequestPrefillResult F) : Prop where
  layers : answers.layers = none
  retirements : executed.submissionWindowRetirements =
    answers.counters.submissionWindowRetirements
  first : executed.firstPosition = plan.firstPosition
  final : executed.finalPosition = plan.finalPosition
  tokens : executed.promptTokenCount = inputTokenIds.length
  panels : executed.logicalPanelCount = plan.panelCount
  tactic : executed.mlpScheduleTactic = plan.tactic
  bounded : executed.boundedSubmissionWindow = options.cancellationProbe

lemma prefillWholeRequest_reports :
    Triple (Exactly runner)
      (prefillWholeRequestLayerMajorCore cfg inputTokenIds plan tactics options answers)
      (fun executed _ => Reports inputTokenIds plan options answers executed) (fun _ => True) := by
  unfold prefillWholeRequestLayerMajorCore
  refine Triple.bind wholeRequestEntry_admits fun _ => ?_
  refine Triple.bind (executeLayers_succeeds.conseq (fun _ _ => trivial) (fun _ _ h => h)
    fun _ h => h) fun _ => ?_
  refine Triple.bind (failPrefillOn_passes _ _) fun progress => ?_
  refine Triple.bind Triple.unread fun evidence => ?_
  refine Triple.bind (failPrefillOn_passes _ _) fun route => ?_
  refine Triple.bind (update_passes _ _) fun _ => ?_
  exact Triple.ret fun _ h => ⟨h, rfl, rfl, rfl, rfl, rfl, rfl, rfl⟩

-- A failure of the layer loop is the status of the call, once the streams are drained.
lemma prefillWholeRequest_fails {reached : ReferenceRunner} {status : ReferenceRunnerStatus}
    (hentry : outcome (wholeRequestEntry cfg inputTokenIds plan tactics options answers) runner =
      (.ok (), reached)) (hlayers : answers.layers = some status) :
    (outcome (prefillWholeRequestLayerMajorCore cfg inputTokenIds plan tactics options answers)
      runner).1 = .error (drained answers reached status) := by
  have hexecute : ∃ left,
      outcome (executeLayers inputTokenIds plan tactics options answers) reached =
        (.error (drained answers reached status), left) := by
    unfold executeLayers
    rw [hlayers]
    exact ⟨_, rfl⟩
  obtain ⟨left, hleft⟩ := hexecute
  rw [prefillWholeRequestLayerMajorCore, outcome_bind, hentry]
  dsimp only
  rw [outcome_bind, hleft]

lemma prefillWholeRequest_refused {reached : ReferenceRunner} {status : ReferenceRunnerStatus}
    (hentry : outcome (wholeRequestEntry cfg inputTokenIds plan tactics options answers) runner =
      (.error status, reached)) :
    (outcome (prefillWholeRequestLayerMajorCore cfg inputTokenIds plan tactics options answers)
      runner).1 = .error status := by
  rw [prefillWholeRequestLayerMajorCore, outcome_bind, hentry]

lemma submissionFailure_none {run : Except ReferenceRunnerStatus Unit}
    (h : submissionFailure run = none) : run = .ok () := by
  cases run with
  | ok _ => rfl
  | error status => cases h

lemma submitted_of_entry {reached : ReferenceRunner}
    (hentry : outcome (wholeRequestEntry cfg inputTokenIds plan tactics options answers) runner =
      (.ok (), reached)) :
    validPlanTopology cfg plan = true ∧ reached.setup = runner.setup ∧
      submitted cfg inputTokenIds plan tactics options answers device runner =
        outcome (submitLayers cfg plan (isPromptWide plan.tactic) options.cancellationProbe device)
          {} := by
  have hadmits := ((@wholeRequestEntry_admits F cfg inputTokenIds plan tactics options answers
    runner).elim rfl).1 () (by rw [hentry])
  rw [hentry] at hadmits
  refine ⟨hadmits.valid, hadmits.setup, ?_⟩
  rw [submitted, hentry]
  dsimp only
  rw [hadmits.promptWide]

lemma prefillWholeRequestSubmitted_cancelled {reached : ReferenceRunner}
    {status : ReferenceRunnerStatus}
    (hentry : outcome (wholeRequestEntry cfg inputTokenIds plan tactics options answers) runner =
      (.ok (), reached)) (hsetup : reached.setup = runner.setup)
    (hrun : (submitted cfg inputTokenIds plan tactics options answers device runner).1 =
      .error status) :
    ∃ final, (prefillWholeRequestSubmitted cfg inputTokenIds plan tactics options answers device
        runner).1 = .error final ∧
      final.retiredPrefillQuanta = status.retiredPrefillQuanta ∧
      final.error = if DrainFails answers runner then .cudaFailure else status.error := by
  have hfails := @prefillWholeRequest_fails F cfg inputTokenIds plan tactics options
    (submissionAnswers cfg inputTokenIds plan tactics options answers device runner) runner reached
    status hentry (by rw [submissionAnswers, hrun]; rfl)
  refine ⟨_, hfails, drained_retired status, (drained_error status).trans ?_⟩
  simp only [DrainFails, hsetup]
  rfl

end Call

theorem bounded_submission_window {F : Type} (cfg : BuildConfig) (inputTokenIds : List ℕ)
    (plan : PrefillExecutionPlan) (hlayers : plan.layers.length = layerCount)
    (tactics : WholeRequestTactics) (options : ReferenceWholeRequestPrefillOptions)
    (answers : WholeRequestAnswers F) (device : SubmissionAnswers) (runner : ReferenceRunner) :
    let window := (submitted cfg inputTokenIds plan tactics options answers device runner).2
    let result := (prefillWholeRequestSubmitted cfg inputTokenIds plan tactics options answers
      device runner).1
    BoundedWindow wholeRequestSubmissionWindowSlots window.log ∧
      recorded window.log <+: submissions cfg plan (isPromptWide plan.tactic) ∧
      (recorded window.log).Pairwise Precedes ∧
      window.retirements = (retired window.log).length ∧
      (∀ n, Cancels device n → n ≤ window.retirements → window.retirements = n ∧
        ∃ status, result = .error status ∧ status.retiredPrefillQuanta = n ∧
          status.error = if DrainFails answers runner then .cudaFailure else .cancelled) ∧
      ∀ executed, result = .ok executed →
        executed.submissionWindowRetirements = (if options.cancellationProbe then
          plan.layers.length * expectedSubmissionsPerLayer plan else 0) ∧
        runnerContract plan executed inputTokenIds.length options.cancellationProbe = true := by
  intro window result
  rcases hentry : outcome (wholeRequestEntry cfg inputTokenIds plan tactics options answers)
    runner with ⟨passed, reached⟩
  cases passed with
  | error status =>
    have hempty : window = {} := by simp only [window, submitted, hentry]
    rw [hempty]
    refine ⟨tracked_empty.windowed.bounded, List.nil_prefix, List.Pairwise.nil, rfl,
      fun n hcancels hle => absurd hle (Nat.not_le.mpr hcancels.1), fun executed hok => ?_⟩
    have hrefused : result = .error status := by
      simp only [result]
      exact prefillWholeRequest_refused hentry
    rw [hrefused] at hok
    cases hok
  | ok _ =>
    obtain ⟨hvalid, hsetup, hrun⟩ := @submitted_of_entry F cfg inputTokenIds plan tactics options
      answers device runner reached hentry
    have hsubmits : Submits cfg plan (isPromptWide plan.tactic) options.cancellationProbe device
        (submitted cfg inputTokenIds plan tactics options answers device runner) := by
      rw [hrun]
      exact submits_run _
    obtain ⟨pending, htracked⟩ := hsubmits.tracked
    refine ⟨htracked.windowed.bounded, hsubmits.sent,
      (submissions_ordered hvalid).sublist hsubmits.sent.sublist, htracked.retirements,
      fun n hcancels hle => ?_, fun executed hok => ?_⟩
    · obtain ⟨hn, status, hfailed, hcancelled, hretired⟩ := hsubmits.cancelled n hcancels hle
      obtain ⟨final, hfinal, hquanta, herror⟩ :=
        prefillWholeRequestSubmitted_cancelled hentry hsetup hfailed
      exact ⟨hn, final, hfinal, hquanta.trans hretired, hcancelled ▸ herror⟩
    · have hreports := ((@prefillWholeRequest_reports F cfg inputTokenIds plan tactics options
        (submissionAnswers cfg inputTokenIds plan tactics options answers device runner)
        runner).elim rfl).1 executed hok
      have hcount : executed.submissionWindowRetirements = (if options.cancellationProbe then
          plan.layers.length * expectedSubmissionsPerLayer plan else 0) := by
        rw [hreports.retirements, hlayers, ← layerPhases_length hvalid, ← submissions_length]
        exact hsubmits.complete (submissionFailure_none hreports.layers)
      refine ⟨hcount, ?_⟩
      rw [runnerContract, decide_eq_true_eq, hreports.bounded]
      exact ⟨hreports.first, hreports.final, hreports.tokens, hreports.panels, hreports.tactic,
        rfl, hcount⟩

section Sample

def startedRunner : ReferenceRunner :=
  runOperations {} ([.reset {}] : List (RunnerOperation ℕ)) layerMajorRunner

def segmentTactics : WholeRequestTactics :=
  ⟨.compatibilitySegments, .exactSegmentedC512, .exactSegmentedC512⟩

def probedOptions : ReferenceWholeRequestPrefillOptions := { cancellationProbe := true }

def firstProbe : SubmissionAnswers := { probe := fun n => n == 1 }

def drainFailure : WholeRequestAnswers ℕ := { oneTokenAnswers with drainMain := 1 }

end Sample

theorem one_token_submission_window :
    (submitted {} [7] oneTokenPlan segmentTactics probedOptions oneTokenAnswers {}
        startedRunner).2.retirements = 64 ∧
      BoundedWindow wholeRequestSubmissionWindowSlots
        (submitted {} [7] oneTokenPlan segmentTactics probedOptions oneTokenAnswers {}
          startedRunner).2.log :=
  ⟨by decide +kernel, (bounded_submission_window {} [7] oneTokenPlan (by decide) segmentTactics
    probedOptions oneTokenAnswers {} startedRunner).1⟩

-- The probe cancels at the first retirement and the drain of the main stream fails.
theorem cancelled_call_reports_drain :
    Cancels firstProbe 1 ∧
      (submitted {} [7] oneTokenPlan segmentTactics probedOptions drainFailure firstProbe
        startedRunner).2.retirements = 1 ∧
      submissionFailure (prefillWholeRequestSubmitted {} [7] oneTokenPlan segmentTactics
        probedOptions drainFailure firstProbe startedRunner).1 =
        some
          { error := .cudaFailure
            cudaError := 1
            layer := some 0
            operation := some "whole_request_prefill_failure_drain_main"
            retiredPrefillQuanta := 1 } := by
  refine ⟨⟨Nat.one_pos, rfl, fun m hm hlt => ?_⟩, by decide, by decide⟩
  omega

end Qwen3xOrin.Runner
