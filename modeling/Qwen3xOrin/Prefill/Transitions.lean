import Qwen3xOrin.Prefill.Progress

/-! What each accepted transition does, seen layer by layer: when it is accepted, and the
one layer it rewrites. -/

namespace Qwen3xOrin.Prefill

structure LayerView where
  own : ℕ
  other : ℕ
  panels : ℕ := 0
  mlp : ℕ := 0
  fill : ℕ := 0
  core : ℕ := 0
  drain : ℕ := 0

def otherEnd (plan : PrefillExecutionPlan) (p : PrefillExecutionProgress) (layer : ℕ) : ℕ :=
  match (plan.layer layer).progressDomain with
  | .kvCache => p.gdnAdvancedEnd layer
  | .gdnState => p.kvVisibleEnd layer

def layerView (plan : PrefillExecutionPlan) (p : PrefillExecutionProgress) (layer : ℕ) :
    LayerView where
  own := progressEnd plan p layer
  other := otherEnd plan p layer
  panels := p.completedPanels layer
  mlp := p.completedMlpPhases layer
  fill := p.completedFillPanels layer
  core := p.completedPromptCorePhases layer
  drain := p.completedDrainPanels layer

def writeLayer (plan : PrefillExecutionPlan) (p : PrefillExecutionProgress) (layer : ℕ)
    (view : LayerView) (nextLayer nextPanel : ℕ) : PrefillExecutionProgress :=
  { p with
    kvVisibleEnd := Function.update p.kvVisibleEnd layer
      (match (plan.layer layer).progressDomain with
        | .kvCache => view.own
        | .gdnState => view.other)
    gdnAdvancedEnd := Function.update p.gdnAdvancedEnd layer
      (match (plan.layer layer).progressDomain with
        | .kvCache => view.other
        | .gdnState => view.own)
    completedPanels := Function.update p.completedPanels layer view.panels
    completedMlpPhases := Function.update p.completedMlpPhases layer view.mlp
    completedFillPanels := Function.update p.completedFillPanels layer view.fill
    completedPromptCorePhases := Function.update p.completedPromptCorePhases layer view.core
    completedDrainPanels := Function.update p.completedDrainPanels layer view.drain
    nextLayer := nextLayer
    nextPanel := nextPanel }

lemma layerView_writeLayer (plan : PrefillExecutionPlan) (p : PrefillExecutionProgress)
    (l : ℕ) (view : LayerView) (nl np j : ℕ) :
    layerView plan (writeLayer plan p l view nl np) j =
      if j = l then view else layerView plan p j := by
  split_ifs with hj
  · subst hj
    cases hd : (plan.layer j).progressDomain <;>
      simp [layerView, writeLayer, progressEnd, otherEnd, hd]
  · cases hd : (plan.layer j).progressDomain <;>
      simp [layerView, writeLayer, progressEnd, otherEnd, hd, hj]

lemma reject_fst {c : Prop} [Decidable c] {e : PrefillExecutionProgressError}
    {p : PrefillExecutionProgress} {x : Outcome} (he : e ≠ .none) :
    (if c then (e, p) else x).1 = .none ↔ ¬ c ∧ x.1 = .none := by
  split_ifs with h
  · simp [h, he]
  · simp [h]

section

variable {cfg : BuildConfig} {plan : PrefillExecutionPlan} {p : PrefillExecutionProgress}
  {l i : ℕ}

lemma panel_accepts :
    (advancePrefillProgressAfterCompletion cfg plan p l i).1 = .none ↔
      validPlanTopology cfg plan = true ∧ plan.tactic.fixedP40Geometry = false ∧
      l < layerCount ∧ i < plan.panelCount ∧ p.prefillStateCommitted = false ∧
      p.nextLayer = l ∧ p.nextPanel = i ∧ (layerView plan p p.nextLayer).panels = i ∧
      (layerView plan p p.nextLayer).own = (plan.panel i).firstPosition := by
  simp only [advancePrefillProgressAfterCompletion, reject_fst, ne_eq, reduceCtorEq,
    not_false_eq_true, layerView]
  rcases eq_or_ne p.nextLayer l with rfl | hl
  · split_ifs <;> simp [not_or] <;> tauto
  · simp [hl, hl.symm]

lemma panel_effect (h : (advancePrefillProgressAfterCompletion cfg plan p l i).1 = .none) :
    (advancePrefillProgressAfterCompletion cfg plan p l i).2 = writeLayer plan p l
      { layerView plan p l with
        own := (plan.panel i).endPosition
        panels := i + 1
        mlp := (layerView plan p l).mlp + if plan.tactic = .perOperatorPanel then 1 else 0 }
      (if plan.tactic = .perOperatorPanel ∧ i + 1 = plan.panelCount then l + 1 else l)
      (if i + 1 = plan.panelCount then 0 else i + 1) := by
  obtain ⟨hv, ht, hl, hi, hc, rfl, rfl, hp, he⟩ := panel_accepts.1 h
  simp only [layerView] at hp he
  rw [advancePrefillProgressAfterCompletion]
  simp only [hv, ht, Nat.not_le.mpr hl, Nat.not_le.mpr hi, hc, hp, he]
  cases hd : (plan.layer p.nextLayer).progressDomain <;>
    by_cases hper : plan.tactic = .perOperatorPanel <;>
    by_cases hlast : p.nextPanel + 1 = plan.panelCount <;>
    simp [writeLayer, layerView, setProgressEnd, otherEnd, increment, hc, hp, hd, hper,
      hlast]

lemma layerWideMlp_accepts :
    (advanceLayerWideP40MlpProgressAfterCompletion cfg plan p l).1 = .none ↔
      validPlanTopology cfg plan = true ∧ plan.tactic = .layerWideP40ExactFullM ∧
      l < layerCount ∧ p.prefillStateCommitted = false ∧ p.nextLayer = l ∧ p.nextPanel = 0 ∧
      (layerView plan p p.nextLayer).panels = plan.panelCount ∧ (layerView plan p p.nextLayer).mlp = 0 := by
  simp only [advanceLayerWideP40MlpProgressAfterCompletion, reject_fst, ne_eq, reduceCtorEq,
    not_false_eq_true, layerView]
  rcases eq_or_ne p.nextLayer l with rfl | hl
  · simp [not_or]
    tauto
  · simp [hl]

lemma layerWideMlp_effect
    (h : (advanceLayerWideP40MlpProgressAfterCompletion cfg plan p l).1 = .none) :
    (advanceLayerWideP40MlpProgressAfterCompletion cfg plan p l).2 =
      writeLayer plan p l { layerView plan p l with mlp := 1 } (l + 1) 0 := by
  obtain ⟨hv, ht, hl, hc, rfl, hn, hp, hm⟩ := layerWideMlp_accepts.1 h
  simp only [layerView] at hp hm
  rw [advanceLayerWideP40MlpProgressAfterCompletion]
  simp only [hv, ht, Nat.not_le.mpr hl, hc, hn, hp, hm]
  cases hd : (plan.layer p.nextLayer).progressDomain <;>
    simp [writeLayer, layerView, progressEnd, otherEnd, hd, hc]

lemma fill_accepts :
    (advancePromptWideP40FillProgressAfterCompletion cfg plan p l i).1 = .none ↔
      validPlanTopology cfg plan = true ∧ plan.tactic = .promptWideP40WholeCore ∧
      l < layerCount ∧ i < plan.panelCount ∧ p.prefillStateCommitted = false ∧
      p.nextLayer = l ∧ p.nextPanel = i ∧ (layerView plan p p.nextLayer).fill = i ∧
      (layerView plan p p.nextLayer).core = 0 ∧ (layerView plan p p.nextLayer).drain = 0 ∧
      (layerView plan p p.nextLayer).panels = 0 ∧ (layerView plan p p.nextLayer).mlp = 0 := by
  simp only [advancePromptWideP40FillProgressAfterCompletion, reject_fst, ne_eq, reduceCtorEq,
    not_false_eq_true, layerView]
  rcases eq_or_ne p.nextLayer l with rfl | hl
  · simp [not_or]
    tauto
  · simp [hl]

lemma fill_effect (h : (advancePromptWideP40FillProgressAfterCompletion cfg plan p l i).1 = .none) :
    (advancePromptWideP40FillProgressAfterCompletion cfg plan p l i).2 =
      writeLayer plan p l { layerView plan p l with fill := i + 1 } l
        (if i + 1 = plan.panelCount then 0 else i + 1) := by
  obtain ⟨hv, ht, hl, hi, hc, rfl, rfl, hf, hcore, hd, hp, hm⟩ := fill_accepts.1 h
  simp only [layerView] at hf hcore hd hp hm
  rw [advancePromptWideP40FillProgressAfterCompletion]
  simp only [hv, ht, Nat.not_le.mpr hl, Nat.not_le.mpr hi, hc, hf, hcore, hd, hp, hm]
  cases hd : (plan.layer p.nextLayer).progressDomain <;>
    by_cases hlast : p.nextPanel + 1 = plan.panelCount <;>
    simp [writeLayer, layerView, progressEnd, otherEnd, wrapPanel, increment, hd, hc, hf, hlast]

lemma promptCore_accepts :
    (advancePromptWideP40PromptCoreProgressAfterCompletion cfg plan p l).1 = .none ↔
      validPlanTopology cfg plan = true ∧ plan.tactic = .promptWideP40WholeCore ∧
      l < layerCount ∧ p.prefillStateCommitted = false ∧ p.nextLayer = l ∧ p.nextPanel = 0 ∧
      (layerView plan p p.nextLayer).fill = plan.panelCount ∧ (layerView plan p p.nextLayer).core = 0 ∧
      (layerView plan p p.nextLayer).drain = 0 ∧ (layerView plan p p.nextLayer).panels = 0 ∧
      (layerView plan p p.nextLayer).mlp = 0 ∧ (layerView plan p p.nextLayer).own = plan.firstPosition := by
  simp only [advancePromptWideP40PromptCoreProgressAfterCompletion, reject_fst, ne_eq,
    reduceCtorEq, not_false_eq_true, layerView]
  rcases eq_or_ne p.nextLayer l with rfl | hl
  · simp [not_or]
    tauto
  · simp [hl]

lemma promptCore_effect
    (h : (advancePromptWideP40PromptCoreProgressAfterCompletion cfg plan p l).1 = .none) :
    (advancePromptWideP40PromptCoreProgressAfterCompletion cfg plan p l).2 =
      writeLayer plan p l { layerView plan p l with own := plan.finalPosition, core := 1 } l 0 := by
  obtain ⟨hv, ht, hl, hc, rfl, hn, hf, hcore, hd, hp, hm, he⟩ := promptCore_accepts.1 h
  simp only [layerView] at hf hcore hd hp hm he
  rw [advancePromptWideP40PromptCoreProgressAfterCompletion]
  simp only [hv, ht, Nat.not_le.mpr hl, hc, hn, hf, hcore, hd, hp, hm, he]
  cases hd : (plan.layer p.nextLayer).progressDomain <;>
    simp [writeLayer, layerView, setProgressEnd, otherEnd, hd, hc, hn]

lemma drain_accepts :
    (advancePromptWideP40DrainProgressAfterCompletion cfg plan p l i).1 = .none ↔
      validPlanTopology cfg plan = true ∧ plan.tactic = .promptWideP40WholeCore ∧
      l < layerCount ∧ i < plan.panelCount ∧ p.prefillStateCommitted = false ∧
      p.nextLayer = l ∧ p.nextPanel = i ∧ (layerView plan p p.nextLayer).fill = plan.panelCount ∧
      (layerView plan p p.nextLayer).core = 1 ∧ (layerView plan p p.nextLayer).drain = i ∧
      (layerView plan p p.nextLayer).panels = i ∧ (layerView plan p p.nextLayer).mlp = 0 := by
  simp only [advancePromptWideP40DrainProgressAfterCompletion, reject_fst, ne_eq, reduceCtorEq,
    not_false_eq_true, layerView]
  rcases eq_or_ne p.nextLayer l with rfl | hl
  · simp [not_or]
    tauto
  · simp [hl]

lemma drain_effect
    (h : (advancePromptWideP40DrainProgressAfterCompletion cfg plan p l i).1 = .none) :
    (advancePromptWideP40DrainProgressAfterCompletion cfg plan p l i).2 =
      writeLayer plan p l { layerView plan p l with drain := i + 1, panels := i + 1 } l
        (if i + 1 = plan.panelCount then 0 else i + 1) := by
  obtain ⟨hv, ht, hl, hi, hc, rfl, rfl, hf, hcore, hd, hp, hm⟩ := drain_accepts.1 h
  simp only [layerView] at hf hcore hd hp hm
  rw [advancePromptWideP40DrainProgressAfterCompletion]
  simp only [hv, ht, Nat.not_le.mpr hl, Nat.not_le.mpr hi, hc, hf, hcore, hd, hp, hm]
  cases hdom : (plan.layer p.nextLayer).progressDomain <;>
    by_cases hlast : p.nextPanel + 1 = plan.panelCount <;>
    simp [writeLayer, layerView, progressEnd, otherEnd, wrapPanel, increment, hdom, hc, hd,
      hp, hlast]

lemma persistentMlp_accepts :
    (advancePromptWideP40PersistentMlpProgressAfterCompletion cfg plan p l).1 = .none ↔
      validPlanTopology cfg plan = true ∧ plan.tactic = .promptWideP40WholeCore ∧
      l < layerCount ∧ p.prefillStateCommitted = false ∧ p.nextLayer = l ∧ p.nextPanel = 0 ∧
      (layerView plan p p.nextLayer).fill = plan.panelCount ∧ (layerView plan p p.nextLayer).core = 1 ∧
      (layerView plan p p.nextLayer).drain = plan.panelCount ∧
      (layerView plan p p.nextLayer).panels = plan.panelCount ∧ (layerView plan p p.nextLayer).mlp = 0 := by
  simp only [advancePromptWideP40PersistentMlpProgressAfterCompletion, reject_fst, ne_eq,
    reduceCtorEq, not_false_eq_true, layerView]
  rcases eq_or_ne p.nextLayer l with rfl | hl
  · simp [not_or]
    tauto
  · simp [hl]

lemma persistentMlp_effect
    (h : (advancePromptWideP40PersistentMlpProgressAfterCompletion cfg plan p l).1 = .none) :
    (advancePromptWideP40PersistentMlpProgressAfterCompletion cfg plan p l).2 =
      writeLayer plan p l { layerView plan p l with mlp := 1 } (l + 1) 0 := by
  obtain ⟨hv, ht, hl, hc, rfl, hn, hf, hcore, hd, hp, hm⟩ := persistentMlp_accepts.1 h
  simp only [layerView] at hf hcore hd hp hm
  rw [advancePromptWideP40PersistentMlpProgressAfterCompletion]
  simp only [hv, ht, Nat.not_le.mpr hl, hc, hn, hf, hcore, hd, hp, hm]
  cases hdom : (plan.layer p.nextLayer).progressDomain <;>
    simp [writeLayer, layerView, progressEnd, otherEnd, hdom, hc]

lemma completeLayer_eq (h : p.nextLayer = l) (hn : p.nextPanel = 0) :
    completeLayer plan p l = writeLayer plan p l
      { layerView plan p l with own := plan.finalPosition, panels := plan.panelCount, mlp := 1 }
      (l + 1) 0 := by
  cases hd : (plan.layer l).progressDomain <;>
    simp [completeLayer, writeLayer, layerView, setProgressEnd, otherEnd, hd, h, hn]

lemma atomic_accepts {tactic : LayerMajorPrefillMlpScheduleTactic} :
    (advanceAtomicLayer tactic cfg plan p l).1 = .none ↔
      validPlanTopology cfg plan = true ∧ plan.tactic = tactic ∧ l < layerCount ∧
      p.prefillStateCommitted = false ∧ p.nextLayer = l ∧ p.nextPanel = 0 ∧
      untouchedLayer p p.nextLayer ∧ (layerView plan p p.nextLayer).own = plan.firstPosition := by
  simp only [advanceAtomicLayer, reject_fst, ne_eq, reduceCtorEq, not_false_eq_true, layerView]
  rcases eq_or_ne p.nextLayer l with rfl | hl
  · simp [not_or]
    tauto
  · simp [hl]

lemma atomic_effect {tactic : LayerMajorPrefillMlpScheduleTactic}
    (h : (advanceAtomicLayer tactic cfg plan p l).1 = .none) :
    (advanceAtomicLayer tactic cfg plan p l).2 = completeLayer plan p l := by
  obtain ⟨hv, ht, hl, hc, rfl, hn, hu, he⟩ := atomic_accepts.1 h
  simp only [layerView] at he
  simp [advanceAtomicLayer, hv, ht, Nat.not_le.mpr hl, hc, hn, hu, he]

lemma parity_accepts {receipt : Receipt} :
    (advancePromptWideP40VllmMarlinParityLayerProgressAfterCompletion cfg plan p l receipt).1 =
        .none ↔
      validPlanTopology cfg plan = true ∧ plan.tactic = .promptWideP40VllmMarlinParity ∧
      l < layerCount ∧ p.prefillStateCommitted = false ∧ p.nextLayer = l ∧ p.nextPanel = 0 ∧
      untouchedLayer p p.nextLayer ∧ (layerView plan p p.nextLayer).own = plan.firstPosition ∧
      plan.vllmMarlinParitySchedule.enabled = true ∧ receipt = expectedReceipt plan l := by
  simp only [advancePromptWideP40VllmMarlinParityLayerProgressAfterCompletion, reject_fst, ne_eq,
    reduceCtorEq, not_false_eq_true, layerView]
  rcases eq_or_ne p.nextLayer l with rfl | hl
  · simp [not_or, validVllmMarlinParityLayerCompletionReceipt]
    tauto
  · simp [hl]

lemma parity_effect {receipt : Receipt}
    (h : (advancePromptWideP40VllmMarlinParityLayerProgressAfterCompletion cfg plan p l
      receipt).1 = .none) :
    (advancePromptWideP40VllmMarlinParityLayerProgressAfterCompletion cfg plan p l receipt).2 =
      completeLayer plan p l := by
  obtain ⟨hv, ht, hl, hc, rfl, hn, hu, he, hen, hr⟩ := parity_accepts.1 h
  simp only [layerView] at he
  simp [advancePromptWideP40VllmMarlinParityLayerProgressAfterCompletion, hv, ht,
    Nat.not_le.mpr hl, hc, hn, hu, he, validVllmMarlinParityLayerCompletionReceipt, hen, hr]

end

end Qwen3xOrin.Prefill
