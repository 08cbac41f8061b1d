import Qwen3xOrin.Prefill.Runs

/-! Completion and commit of a prefill: the planner's own check and the controller's. -/

namespace Qwen3xOrin.Prefill

open Library

def completeUncommittedWholeRequestPrefillProgress (cfg : BuildConfig)
    (topology : PrefillExecutionPlan) (progress : PrefillExecutionProgress) : Bool :=
  if progress.nextLayer ≠ layerCount ∨ progress.nextPanel ≠ 0 ∨ !progress.finalHiddenReady ∨
      progress.prefillStateCommitted ∨ !prefillFinalCommitReady cfg topology progress then false
  else
    (List.range layerCount).all fun l =>
      decide (progress.completedPanels l = topology.panelCount ∧
        progress.completedMlpPhases l =
          topology.mlpSchedule.mlpPhaseSubmissionCountPerLayer) &&
      match (topology.layer l).progressDomain with
      | .kvCache => decide (progress.kvVisibleEnd l = topology.finalPosition ∧
          progress.gdnAdvancedEnd l = topology.firstPosition)
      | .gdnState => decide (progress.gdnAdvancedEnd l = topology.finalPosition ∧
          progress.kvVisibleEnd l = topology.firstPosition)

def Committable (cfg : BuildConfig) (plan : PrefillExecutionPlan)
    (p : PrefillExecutionProgress) : Prop :=
  (markPrefillFinalHiddenReady cfg plan p).1 = .none ∧
    prefillFinalCommitReady cfg plan (markPrefillFinalHiddenReady cfg plan p).2 = true

def PanelEnd (plan : PrefillExecutionPlan) (position : ℕ) : Prop :=
  position = plan.firstPosition ∨ ∃ i < plan.panelCount, position = (plan.panel i).endPosition

section

variable {cfg : BuildConfig} {plan : PrefillExecutionPlan} {p : PrefillExecutionProgress}

lemma layerExecutionComplete_iff {j : ℕ} : layerExecutionComplete plan p j = true ↔
    (layerView plan p j).panels = plan.panelCount ∧
    (layerView plan p j).mlp = plan.mlpSchedule.mlpPhaseSubmissionCountPerLayer ∧
    (layerView plan p j).own = plan.finalPosition ∧
    (layerView plan p j).other = plan.firstPosition ∧
    (if plan.tactic = .promptWideP40WholeCore then
      (layerView plan p j).fill = plan.panelCount ∧ (layerView plan p j).core = 1 ∧
        (layerView plan p j).drain = plan.panelCount
    else
      (layerView plan p j).fill = 0 ∧ (layerView plan p j).core = 0 ∧
        (layerView plan p j).drain = 0) := by
  cases hd : (plan.layer j).progressDomain <;>
    simp only [layerExecutionComplete, layerView, progressEnd, otherEnd, hd, Bool.and_eq_true,
      decide_eq_true_eq] <;>
    split_ifs <;> simp only [decide_eq_true_eq] <;> tauto

lemma phase_complete_iff (htop : Topology plan) {j k : ℕ} (hk : k ≤ layerSteps plan)
    (hview : layerView plan p j = phase plan k) :
    layerExecutionComplete plan p j = true ↔ k = layerSteps plan := by
  have hn := htop.panelCount_pos
  have hlast : panelBoundary plan plan.panelCount = plan.finalPosition := by
    obtain ⟨n, hn'⟩ : ∃ n, plan.panelCount = n + 1 := ⟨plan.panelCount - 1, by omega⟩
    have hl := htop.lastPanel
    rw [hn', Nat.add_sub_cancel] at hl
    rw [hn', panelBoundary, hl]
  rw [layerExecutionComplete_iff, hview, htop.mlpPhases]
  cases htac : plan.tactic <;> simp only [phase, layerSteps, htac] at hk ⊢ <;> grind

lemma phase_other (plan : PrefillExecutionPlan) (k : ℕ) :
    (phase plan k).other = plan.firstPosition := by
  unfold phase
  split
  case h_4 => split_ifs <;> rfl
  all_goals rfl

lemma panelEnd_boundary {k : ℕ} (hk : k ≤ plan.panelCount) :
    PanelEnd plan (panelBoundary plan k) := by
  cases k with
  | zero => exact .inl rfl
  | succ k => exact .inr ⟨k, hk, rfl⟩

lemma panelEnd_final (htop : Topology plan) : PanelEnd plan plan.finalPosition :=
  .inr ⟨plan.panelCount - 1, Nat.sub_lt htop.panelCount_pos Nat.one_pos, htop.lastPanel.symm⟩

lemma phase_own (htop : Topology plan) {k : ℕ} (hk : k ≤ layerSteps plan) :
    PanelEnd plan (phase plan k).own := by
  have hfinal := panelEnd_final htop
  have hfirst : PanelEnd plan plan.firstPosition := .inl rfl
  cases htac : plan.tactic <;> simp only [phase, layerSteps, htac] at hk ⊢
  case perOperatorPanel => exact panelEnd_boundary hk
  case layerWideP40ExactFullM => exact panelEnd_boundary (min_le_right _ _)
  all_goals split_ifs <;> assumption

lemma AtStep.layerComplete_iff {t : ℕ} (h : AtStep plan t p) (htop : Topology plan) (j : ℕ) :
    layerExecutionComplete plan p j = true ↔ j < p.nextLayer := by
  rw [phase_complete_iff htop (min_le_right _ _) (h.view j), h.nextLayer,
    Nat.lt_iff_add_one_le, Nat.le_div_iff_mul_le (layerSteps_pos htop), Nat.succ_mul]
  have := layerSteps_pos htop
  omega

lemma AtStep.executionComplete {t : ℕ} (h : AtStep plan t p) (htop : Topology plan)
    (hv : validPlanTopology cfg plan = true) (ht : t = layerCount * layerSteps plan) :
    executionComplete cfg plan p = true := by
  have hnl : p.nextLayer = layerCount := by
    rw [h.nextLayer, ht, Nat.mul_div_cancel _ (layerSteps_pos htop)]
  have hnp : p.nextPanel = 0 := by rw [h.nextPanel, ht, Nat.mul_mod_left, cursor_zero]
  simp only [Prefill.executionComplete, hv, hnl, hnp, Bool.and_eq_true, decide_eq_true_eq,
    List.all_eq_true, List.mem_range, true_and, and_true]
  intro j hj
  rw [h.layerComplete_iff htop, hnl]
  exact hj

lemma AtStep.ends {t : ℕ} (h : AtStep plan t p) (htop : Topology plan) {j : ℕ}
    (hj : j < layerCount) :
    ((plan.layer j).layerType = .fullAttention → p.gdnAdvancedEnd j = plan.firstPosition) ∧
    ((plan.layer j).layerType = .linearAttention → p.kvVisibleEnd j = plan.firstPosition) ∧
    PanelEnd plan (p.kvVisibleEnd j) ∧ PanelEnd plan (p.gdnAdvancedEnd j) := by
  have hother : otherEnd plan p j = plan.firstPosition := by
    change (layerView plan p j).other = _
    rw [h.view, phase_other]
  have hown : PanelEnd plan (progressEnd plan p j) := by
    change PanelEnd plan (layerView plan p j).own
    rw [h.view]
    exact phase_own htop (min_le_right _ _)
  have hfirst : PanelEnd plan plan.firstPosition := .inl rfl
  have hdom := htop.domain j hj
  cases htype : (plan.layer j).layerType <;>
    simp_all [otherEnd, progressEnd, progressDomainForType]

lemma accept_open {call : ProgressCall} (h : (call.apply cfg plan p).1 = .none) :
    p.prefillStateCommitted = false := by
  cases call with
  | markFinalHiddenReady => exact (mark_accepts.mp h).2
  | publishStateCommitted => exact (publish_accepts.mp h).1
  | _ => exact (advance_open rfl h).2

lemma commit_call {t : ℕ} (h : AtStep plan t p) (htop : Topology plan) {call : ProgressCall}
    (hc : p.prefillStateCommitted = false)
    (hc' : (call.apply cfg plan p).2.prefillStateCommitted = true) :
    call = .publishStateCommitted ∧ (call.apply cfg plan p).1 = .none := by
  have ha : (call.apply cfg plan p).1 = .none := by
    by_contra hn
    rw [apply_error call hn, hc] at hc'
    cases hc'
  refine ⟨?_, ha⟩
  cases hq : call.silent with
  | false =>
    have hS := layerSteps_pos htop
    have hk := Nat.mod_lt t hS
    rw [← Nat.div_add_mod' t (layerSteps plan)] at h
    have hcall := accepted_due htop (h.atLayer hk) hq ha
    rw [move htop (h.atLayer hk) hk hcall ha] at hc'
    exact absurd hc' (by simp [writeLayer, hc])
  | true =>
    cases call with
    | markFinalHiddenReady =>
      rw [ProgressCall.apply, mark_effect ha] at hc'
      exact absurd hc' (by simp [hc])
    | publishStateCommitted => rfl
    | _ => cases hq

end

theorem prefill_progress_run {cfg : BuildConfig} {options : PrefillExecutionPlanOptions}
    {plan : PrefillExecutionPlan}
    (hplan : buildUnboundLayerMajorPrefillExecutionPlan cfg options = .ok plan)
    (calls : List ProgressCall) :
    let p := runCalls cfg plan (makePrefillExecutionProgress plan) calls
    (∀ call : ProgressCall, (call.apply cfg plan p).1 ≠ .none → (call.apply cfg plan p).2 = p) ∧
    (acceptedCalls cfg plan (makePrefillExecutionProgress plan) calls).filter
      (fun call => !call.silent) <+: schedule plan ∧
    (∀ j < layerCount, layerExecutionComplete plan p j = true ↔ j < p.nextLayer) ∧
    (∀ j < layerCount,
      ((plan.layer j).layerType = .fullAttention → p.gdnAdvancedEnd j = plan.firstPosition) ∧
      ((plan.layer j).layerType = .linearAttention → p.kvVisibleEnd j = plan.firstPosition) ∧
      PanelEnd plan (p.kvVisibleEnd j) ∧ PanelEnd plan (p.gdnAdvancedEnd j)) ∧
    (∀ call : ProgressCall, p.prefillStateCommitted = false →
      (call.apply cfg plan p).2.prefillStateCommitted = true →
      call = .publishStateCommitted ∧ p.finalHiddenReady = true ∧
      ∀ j < layerCount, p.completedPanels j = plan.panelCount ∧
        p.completedMlpPhases j = plan.mlpSchedule.mlpPhaseSubmissionCountPerLayer) ∧
    (p.prefillStateCommitted = true →
      ∀ call : ProgressCall, (call.apply cfg plan p).1 ≠ .none) := by
  have hv := build_valid hplan
  have htop := topology_of_valid hv
  obtain ⟨t, ht, hat, hacc⟩ := (scheduled htop hv).accepted_eq (atStep_init plan)
    (Nat.zero_le _) calls
  simp only [Nat.zero_add] at ht hat
  rw [← runCalls_eq] at hat
  intro p
  refine ⟨fun call => apply_error call, ?_, fun j _ => hat.layerComplete_iff htop j,
    fun j hj => hat.ends htop hj, ?_, ?_⟩
  · rw [acceptedCalls_eq, hacc]
    exact List.take_prefix _ _
  · intro call hc hc'
    obtain ⟨rfl, ha⟩ := commit_call hat htop hc hc'
    obtain ⟨-, hr, hx⟩ := publish_accepts.mp ha
    refine ⟨rfl, hr, fun j hj => ?_⟩
    simp only [executionComplete, Bool.and_eq_true, List.all_eq_true, List.mem_range] at hx
    have hj' := layerExecutionComplete_iff.1 (hx.2 j hj)
    exact ⟨hj'.1, hj'.2.1⟩
  · intro hc call ha
    rw [accept_open ha] at hc
    cases hc

def sampleOptions : PrefillExecutionPlanOptions :=
  { promptTokenCount := 20000, maxSequenceLength := 20016 }

theorem prefill_progress_run_sample :
    ∃ plan, buildUnboundLayerMajorPrefillExecutionPlan {} sampleOptions = .ok plan ∧
      (acceptedCalls {} plan (makePrefillExecutionProgress plan)
        [.panel 0 1, .panel 0 0, .fill 0 1, .panel 0 1]).filter (fun call => !call.silent) <+:
        schedule plan :=
  have hplan : buildUnboundLayerMajorPrefillExecutionPlan {} sampleOptions =
    .ok (planFor {} sampleOptions 20000) := by rfl
  ⟨_, hplan, (prefill_progress_run hplan _).2.1⟩

lemma controllerCheck_iff {cfg : BuildConfig} {plan : PrefillExecutionPlan}
    {p : PrefillExecutionProgress} :
    completeUncommittedWholeRequestPrefillProgress cfg plan p = true ↔
      prefillFinalCommitReady cfg plan p = true := by
  rw [completeUncommittedWholeRequestPrefillProgress]
  constructor
  · intro h
    split at h
    · cases h
    · rename_i hc
      by_contra hn
      exact hc (by simp [hn])
  · intro h
    have hx := h
    simp only [prefillFinalCommitReady, Bool.and_eq_true, Bool.not_eq_eq_eq_not, Bool.not_true,
      executionComplete, decide_eq_true_eq, List.all_eq_true, List.mem_range] at hx
    obtain ⟨⟨hc, hr⟩, ⟨-, hnl, hnp⟩, hlayers⟩ := hx
    rw [if_neg (by simp [h, hc, hr, hnl, hnp])]
    simp only [List.all_eq_true, List.mem_range]
    intro l hl
    have hcomplete := hlayers l hl
    simp only [layerExecutionComplete, Bool.and_eq_true] at hcomplete ⊢
    exact ⟨hcomplete.1.1, hcomplete.2⟩

lemma committable_iff {cfg : BuildConfig} {plan : PrefillExecutionPlan}
    {p : PrefillExecutionProgress} : Committable cfg plan p ↔
      executionComplete cfg plan p = true ∧ p.prefillStateCommitted = false := by
  constructor
  · exact fun h => mark_accepts.mp h.1
  · intro h
    have hm := mark_accepts.mpr h
    refine ⟨hm, ?_⟩
    rw [mark_effect hm]
    simp only [prefillFinalCommitReady, h.2]
    exact h.1

theorem prefill_order_unique {cfg : BuildConfig} {options : PrefillExecutionPlanOptions}
    {plan : PrefillExecutionPlan}
    (hplan : buildUnboundLayerMajorPrefillExecutionPlan cfg options = .ok plan) :
    (∃! calls : List ProgressCall, (∀ call ∈ calls, call.silent = false) ∧
      ∃ p, follows (ProgressCall.accept cfg plan) (makePrefillExecutionProgress plan) calls =
        some p ∧ Committable cfg plan p) ∧
    (∃ p, follows (ProgressCall.accept cfg plan) (makePrefillExecutionProgress plan)
        (schedule plan) = some p ∧
      (markPrefillFinalHiddenReady cfg plan p).1 = .none ∧
      completeUncommittedWholeRequestPrefillProgress cfg plan
        (markPrefillFinalHiddenReady cfg plan p).2 = true) ∧
    (∀ calls : List ProgressCall,
      let p := runCalls cfg plan (makePrefillExecutionProgress plan) calls
      completeUncommittedWholeRequestPrefillProgress cfg plan p = true ↔
        (publishPrefillStateCommitted cfg plan p).1 = .none) := by
  have hv := build_valid hplan
  have htop := topology_of_valid hv
  have hsched := scheduled htop hv
  obtain ⟨q, hq, hat, hlive⟩ := hsched.follows_schedule (atStep_init plan) rfl (Nat.zero_le _)
  rw [List.drop_zero] at hq
  rw [length_schedule] at hat
  have hcommit := committable_iff.2 ⟨hat.executionComplete htop hv rfl, hlive⟩
  refine ⟨⟨schedule plan, ⟨schedule_silent plan, q, hq, hcommit⟩, ?_⟩, ?_, ?_⟩
  · rintro calls ⟨hsilent, p, hf, hp⟩
    obtain ⟨n, hn, rfl, hp'⟩ := hsched.follows_prefix (atStep_init plan) (Nat.zero_le _)
      hsilent hf
    have hlen := hp'.complete (committable_iff.1 hp).1
    rw [List.drop_zero]
    exact List.take_of_length_le (by rw [length_schedule]; omega)
  · exact ⟨q, hq, hcommit.1, controllerCheck_iff.2 hcommit.2⟩
  · intro calls p
    rw [controllerCheck_iff, publish_accepts]
    simp only [prefillFinalCommitReady, Bool.and_eq_true, Bool.not_eq_eq_eq_not, Bool.not_true]
    tauto

def wholeCoreBuild : BuildConfig := { promptWideP40WholeCore := true }

def wholeCoreOptions : PrefillExecutionPlanOptions :=
  { promptTokenCount := 40000, maxSequenceLength := 40016,
    mlpScheduleTactic := .promptWideP40WholeCore }

theorem prefill_order_unique_sample :
    ∃ plan, buildUnboundLayerMajorPrefillExecutionPlan wholeCoreBuild wholeCoreOptions =
        .ok plan ∧
      ∃! calls : List ProgressCall, (∀ call ∈ calls, call.silent = false) ∧
        ∃ p, follows (ProgressCall.accept wholeCoreBuild plan)
          (makePrefillExecutionProgress plan) calls = some p ∧
          Committable wholeCoreBuild plan p :=
  have hplan : buildUnboundLayerMajorPrefillExecutionPlan wholeCoreBuild wholeCoreOptions =
    .ok (planFor wholeCoreBuild wholeCoreOptions 40000) := by rfl
  ⟨_, hplan, (prefill_order_unique hplan).1⟩

end Qwen3xOrin.Prefill
