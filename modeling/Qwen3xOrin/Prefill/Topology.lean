import Qwen3xOrin.Prefill.PlanValidity

/-! What the later proofs use of a validated plan: its panels tile the prompt in order and
every layer has the progress domain of its type. -/

namespace Qwen3xOrin.Prefill

structure Topology (plan : PrefillExecutionPlan) : Prop where
  panelCount_pos : 0 < plan.panelCount
  firstPanel : (plan.panel 0).firstPosition = plan.firstPosition
  nextPanel : ∀ i, i + 1 < plan.panelCount →
    (plan.panel (i + 1)).firstPosition = (plan.panel i).endPosition
  lastPanel : (plan.panel (plan.panelCount - 1)).endPosition = plan.finalPosition
  panelAdvances : ∀ i < plan.panelCount,
    (plan.panel i).firstPosition < (plan.panel i).endPosition
  panelSpan : ∀ i < plan.panelCount,
    (plan.panel i).firstPosition + (plan.panel i).tokenCount = (plan.panel i).endPosition
  advances : plan.firstPosition < plan.finalPosition
  span : plan.finalPosition = plan.firstPosition + plan.promptTokenCount
  domain : ∀ l < layerCount,
    (plan.layer l).progressDomain = progressDomainForType (plan.layer l).layerType
  mlpPhases : plan.mlpSchedule.mlpPhaseSubmissionCountPerLayer =
    if plan.tactic = .perOperatorPanel then plan.panelCount else 1
  parity : plan.tactic = .promptWideP40VllmMarlinParity →
    plan.vllmMarlinParitySchedule.enabled = true
  unbound : plan.executable = false

lemma validPanels_succ {plan : PrefillExecutionPlan} {n i next remaining : ℕ}
    (h : validPanels plan (n + 1) i next remaining = true) :
    ((plan.panel i).ordinal = i ∧ (plan.panel i).firstPosition = next ∧
      (plan.panel i).tokenCount = panelTokenCountFor plan.tactic remaining ∧
      (plan.panel i).firstPosition < (plan.panel i).endPosition ∧
      (plan.panel i).endPosition - (plan.panel i).firstPosition = (plan.panel i).tokenCount) ∧
    validPanels plan n (i + 1) (plan.panel i).endPosition
      (remaining - (plan.panel i).tokenCount) = true := by
  obtain ⟨hpanel, hrest⟩ := Bool.and_eq_true_iff.mp h
  exact ⟨of_decide_eq_true hpanel, hrest⟩

lemma validPanels_first {plan : PrefillExecutionPlan} {n i next remaining : ℕ}
    (h : validPanels plan (n + 1) i next remaining = true) :
    (plan.panel i).firstPosition = next :=
  (validPanels_succ h).1.2.1

lemma validPanels_chain {plan : PrefillExecutionPlan} (n i next remaining : ℕ)
    (h : validPanels plan n i next remaining = true) (k : ℕ) (hk : k + 1 < n) :
    (plan.panel (i + k + 1)).firstPosition = (plan.panel (i + k)).endPosition := by
  induction n generalizing i next remaining k with
  | zero => omega
  | succ n ih =>
    have hrest := (validPanels_succ h).2
    cases k with
    | zero =>
      obtain ⟨m, rfl⟩ : ∃ m, n = m + 1 := ⟨n - 1, by omega⟩
      exact validPanels_first hrest
    | succ k =>
      have hh := ih (i + 1) _ _ hrest k (by omega)
      have he : i + 1 + k = i + (k + 1) := by omega
      simpa only [he] using hh

lemma validPanels_last {plan : PrefillExecutionPlan} (n i next remaining : ℕ)
    (h : validPanels plan (n + 1) i next remaining = true) :
    (plan.panel (i + n)).endPosition = plan.finalPosition := by
  induction n generalizing i next remaining with
  | zero => exact (of_decide_eq_true (validPanels_succ h).2).2
  | succ n ih =>
    have hh := ih (i + 1) _ _ (validPanels_succ h).2
    have he : i + 1 + n = i + (n + 1) := by omega
    simpa only [he] using hh

lemma validPanels_panel {plan : PrefillExecutionPlan} (n i next remaining : ℕ)
    (h : validPanels plan n i next remaining = true) (k : ℕ) (hk : k < n) :
    (plan.panel (i + k)).firstPosition < (plan.panel (i + k)).endPosition ∧
      (plan.panel (i + k)).firstPosition + (plan.panel (i + k)).tokenCount =
        (plan.panel (i + k)).endPosition := by
  induction n generalizing i next remaining k with
  | zero => omega
  | succ n ih =>
    obtain ⟨⟨_, _, _, ha, hs⟩, hrest⟩ := validPanels_succ h
    cases k with
    | zero =>
      simp only [Nat.add_zero]
      omega
    | succ k =>
      have hh := ih (i + 1) _ _ hrest k (by omega)
      have he : i + 1 + k = i + (k + 1) := by omega
      simpa only [he] using hh

lemma validMlpSchedule_phases {cfg : BuildConfig} {plan : PrefillExecutionPlan}
    (h : validMlpSchedule cfg plan = true) :
    plan.mlpSchedule.mlpPhaseSubmissionCountPerLayer =
      if plan.tactic = .perOperatorPanel then plan.panelCount else 1 := by
  unfold validMlpSchedule at h
  dsimp only at h
  unfold PrefillExecutionPlan.tactic
  split at h
  · exact nomatch h
  split at h
  · rename_i ht
    rw [if_pos ht, of_decide_eq_true h]
  split at h
  · rename_i ht _
    simp only [Bool.and_eq_true, decide_eq_true_eq] at h
    rw [if_neg ht]
    exact h.1.1.1.1.2.2.2.2.1
  · rename_i ht _
    simp only [Bool.and_eq_true, decide_eq_true_eq] at h
    rw [if_neg ht]
    exact h.1.1.1.1.2.1

lemma validVllmMarlinParitySchedule_enabled {cfg : BuildConfig} {plan : PrefillExecutionPlan}
    (h : validVllmMarlinParitySchedule cfg plan = true)
    (ht : plan.tactic = .promptWideP40VllmMarlinParity) :
    plan.vllmMarlinParitySchedule.enabled = true := by
  simp only [validVllmMarlinParitySchedule, ht, ne_eq, not_true_eq_false, if_false,
    Bool.and_eq_true, decide_eq_true_eq] at h
  rw [h.2]

lemma topology_of_valid {cfg : BuildConfig} {plan : PrefillExecutionPlan}
    (h : validPlanTopology cfg plan = true) : Topology plan := by
  simp only [validPlanTopology, Bool.and_eq_true, decide_eq_true_eq, Bool.not_eq_true',
    List.all_eq_true, List.mem_range] at h
  obtain ⟨⟨⟨⟨⟨⟨⟨⟨⟨⟨⟨hbase, hbound⟩, hmlp⟩, _⟩, _⟩, _⟩, _⟩, hparity⟩, _⟩, hpanels⟩, hlayers⟩, _⟩ := h
  obtain ⟨_, _, _, hcount, _, _, hlt, _, hspan, _, _, _⟩ := hbase
  have hpos : 0 < plan.panelCount := Nat.pos_of_ne_zero hcount
  obtain ⟨n, hn⟩ : ∃ n, plan.panelCount = n + 1 := ⟨plan.panelCount - 1, by omega⟩
  have hpanel : ∀ i < plan.panelCount, _ := fun i hi =>
    validPanels_panel _ 0 _ _ hpanels i hi
  simp only [Nat.zero_add] at hpanel
  refine
    { panelCount_pos := hpos
      firstPanel := validPanels_first (hn ▸ hpanels)
      nextPanel := fun i hi => by simpa using validPanels_chain _ 0 _ _ hpanels i hi
      lastPanel := by
        have hl := validPanels_last n 0 _ _ (hn ▸ hpanels)
        rwa [Nat.zero_add, show n = plan.panelCount - 1 by omega] at hl
      panelAdvances := fun i hi => (hpanel i hi).1
      panelSpan := fun i hi => (hpanel i hi).2
      advances := hlt
      span := by omega
      domain := fun l hl => by
        have hh := of_decide_eq_true (hlayers l hl)
        rw [hh]
      mlpPhases := validMlpSchedule_phases hmlp
      parity := validVllmMarlinParitySchedule_enabled hparity
      unbound := hbound }

lemma Topology.panelEnd_le_final {plan : PrefillExecutionPlan} (h : Topology plan) {i : ℕ}
    (hi : i < plan.panelCount) : (plan.panel i).endPosition ≤ plan.finalPosition := by
  obtain ⟨d, hd⟩ : ∃ d, i + d + 1 = plan.panelCount := ⟨plan.panelCount - i - 1, by omega⟩
  induction d generalizing i with
  | zero =>
    have hl := h.lastPanel
    rw [show plan.panelCount - 1 = i by omega] at hl
    exact hl.le
  | succ d ih =>
    have hnext := h.nextPanel i (by omega)
    have hadv := h.panelAdvances (i + 1) (by omega)
    have hrest := ih (i := i + 1) (by omega) (by omega)
    omega

end Qwen3xOrin.Prefill
