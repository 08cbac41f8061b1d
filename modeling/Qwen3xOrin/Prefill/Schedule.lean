import Qwen3xOrin.Library.ScheduledRun
import Qwen3xOrin.Prefill.Topology
import Qwen3xOrin.Prefill.Transitions

/-! The schedule of a plan: the calls that complete its layers one after another, and the
progress record after each of them. -/

namespace Qwen3xOrin.Prefill

open Library

def layerCalls (plan : PrefillExecutionPlan) (l : ℕ) : List ProgressCall :=
  match plan.tactic with
  | .perOperatorPanel => (List.range plan.panelCount).map (.panel l)
  | .layerWideP40ExactFullM => (List.range plan.panelCount).map (.panel l) ++ [.layerWideMlp l]
  | .promptWideP40WholeCore =>
    (List.range plan.panelCount).map (.fill l) ++ [.promptCore l] ++
      (List.range plan.panelCount).map (.drain l) ++ [.persistentMlp l]
  | .promptWideP40ProjectionReset => [.projectionReset l]
  | .promptWideP40PackedProjection => [.packedProjection l]
  | .promptWideP40PackedNvfp4V2 => [.packedNvfp4V2 l]
  | .promptWideP40VllmMarlinParity => [.vllmMarlinParity l (expectedReceipt plan l)]

def schedule (plan : PrefillExecutionPlan) : List ProgressCall :=
  (List.range layerCount).flatMap (layerCalls plan)

def layerSteps (plan : PrefillExecutionPlan) : ℕ :=
  match plan.tactic with
  | .perOperatorPanel => plan.panelCount
  | .layerWideP40ExactFullM => plan.panelCount + 1
  | .promptWideP40WholeCore => 2 * plan.panelCount + 2
  | _ => 1

def callAt (plan : PrefillExecutionPlan) (l k : ℕ) : ProgressCall :=
  match plan.tactic with
  | .perOperatorPanel => .panel l k
  | .layerWideP40ExactFullM => if k < plan.panelCount then .panel l k else .layerWideMlp l
  | .promptWideP40WholeCore =>
    if k < plan.panelCount then .fill l k
    else if k = plan.panelCount then .promptCore l
    else if k - (plan.panelCount + 1) < plan.panelCount then .drain l (k - (plan.panelCount + 1))
    else .persistentMlp l
  | .promptWideP40ProjectionReset => .projectionReset l
  | .promptWideP40PackedProjection => .packedProjection l
  | .promptWideP40PackedNvfp4V2 => .packedNvfp4V2 l
  | .promptWideP40VllmMarlinParity => .vllmMarlinParity l (expectedReceipt plan l)

def panelBoundary (plan : PrefillExecutionPlan) : ℕ → ℕ
  | 0 => plan.firstPosition
  | k + 1 => (plan.panel k).endPosition

def phase (plan : PrefillExecutionPlan) (k : ℕ) : LayerView :=
  let n := plan.panelCount
  match plan.tactic with
  | .perOperatorPanel => ⟨panelBoundary plan k, plan.firstPosition, k, k, 0, 0, 0⟩
  | .layerWideP40ExactFullM =>
    ⟨panelBoundary plan (min k n), plan.firstPosition, min k n, k - n, 0, 0, 0⟩
  | .promptWideP40WholeCore =>
    ⟨if k ≤ n then plan.firstPosition else plan.finalPosition, plan.firstPosition,
      min (k - (n + 1)) n, k - (2 * n + 1), min k n, if k ≤ n then 0 else 1,
      min (k - (n + 1)) n⟩
  | _ =>
    if k = 0 then ⟨plan.firstPosition, plan.firstPosition, 0, 0, 0, 0, 0⟩
    else ⟨plan.finalPosition, plan.firstPosition, n, 1, 0, 0, 0⟩

def cursor (plan : PrefillExecutionPlan) (k : ℕ) : ℕ :=
  let n := plan.panelCount
  match plan.tactic with
  | .perOperatorPanel | .layerWideP40ExactFullM => if k < n then k else 0
  | .promptWideP40WholeCore =>
    if k < n then k else if k - (n + 1) < n then k - (n + 1) else 0
  | _ => 0

lemma length_layerCalls (plan : PrefillExecutionPlan) (l : ℕ) :
    (layerCalls plan l).length = layerSteps plan := by
  cases h : plan.tactic <;> simp [layerCalls, layerSteps, h]
  omega

lemma layerCalls_getElem? (plan : PrefillExecutionPlan) (l : ℕ) {k : ℕ}
    (hk : k < layerSteps plan) : (layerCalls plan l)[k]? = some (callAt plan l k) := by
  cases h : plan.tactic <;> simp only [layerSteps, h] at hk <;>
    simp only [layerCalls, callAt, h]
  case perOperatorPanel => simp [List.getElem?_range hk]
  case layerWideP40ExactFullM =>
    split_ifs with hp
    · rw [List.getElem?_append_left (by simpa using hp)]
      simp [List.getElem?_range hp]
    · obtain rfl : k = plan.panelCount := by omega
      simp
  case promptWideP40WholeCore =>
    simp only [List.append_assoc]
    split_ifs with hf hc hd
    · rw [List.getElem?_append_left (by simpa using hf)]
      simp [List.getElem?_range hf]
    · subst hc
      simp
    · obtain ⟨d, rfl⟩ := Nat.exists_eq_add_of_le (show plan.panelCount + 1 ≤ k by omega)
      have hlt : d < plan.panelCount := by omega
      rw [List.getElem?_append_right (by simp only [List.length_map, List.length_range]; omega),
        List.length_map, List.length_range,
        show plan.panelCount + 1 + d - plan.panelCount = d + 1 by omega, List.singleton_append,
        List.getElem?_cons_succ, List.getElem?_append_left (by simpa using hlt)]
      simp [List.getElem?_range hlt]
    · obtain rfl : k = 2 * plan.panelCount + 1 := by omega
      rw [List.getElem?_append_right (by simp only [List.length_map, List.length_range]; omega),
        List.length_map, List.length_range,
        show 2 * plan.panelCount + 1 - plan.panelCount = plan.panelCount + 1 by omega,
        List.singleton_append, List.getElem?_cons_succ]
      simp
  all_goals
    obtain rfl : k = 0 := by omega
    rfl

lemma schedule_getElem? (plan : PrefillExecutionPlan) {l k : ℕ} (hl : l < layerCount)
    (hk : k < layerSteps plan) :
    (schedule plan)[l * layerSteps plan + k]? = some (callAt plan l k) := by
  rw [schedule, getElem?_flatMap_range (length_layerCalls plan) hl hk]
  exact layerCalls_getElem? plan l hk

lemma length_schedule (plan : PrefillExecutionPlan) :
    (schedule plan).length = layerCount * layerSteps plan := by
  simp [schedule, List.length_flatMap, length_layerCalls]

lemma layerSteps_pos {plan : PrefillExecutionPlan} (h : Topology plan) : 0 < layerSteps plan := by
  have hn := h.panelCount_pos
  cases ht : plan.tactic <;> simp only [layerSteps, ht] <;> omega

structure AtLayer (plan : PrefillExecutionPlan) (l k : ℕ) (p : PrefillExecutionProgress) :
    Prop where
  view : layerView plan p l = phase plan k
  nextLayer : p.nextLayer = l
  nextPanel : p.nextPanel = cursor plan k

section

variable {cfg : BuildConfig} {plan : PrefillExecutionPlan} {p : PrefillExecutionProgress}
  {l k : ℕ}

lemma own_phase (h : Topology plan) (hper : plan.tactic.fixedP40Geometry = false)
    (hk : k < plan.panelCount) : (phase plan k).own = (plan.panel k).firstPosition := by
  have hb : panelBoundary plan k = (plan.panel k).firstPosition := by
    cases k with
    | zero => exact h.firstPanel.symm
    | succ k => exact (h.nextPanel k hk).symm
  cases ht : plan.tactic <;>
    simp_all [phase, LayerMajorPrefillMlpScheduleTactic.fixedP40Geometry, Nat.min_eq_left hk.le]

def ProgressCall.silent : ProgressCall → Bool
  | .markFinalHiddenReady | .publishStateCommitted => true
  | _ => false

lemma untouchedLayer_iff (plan : PrefillExecutionPlan) : untouchedLayer p l ↔
    (layerView plan p l).panels = 0 ∧ (layerView plan p l).mlp = 0 ∧
    (layerView plan p l).fill = 0 ∧ (layerView plan p l).core = 0 ∧
    (layerView plan p l).drain = 0 := Iff.rfl

lemma due_accepted (h : Topology plan) (hv : validPlanTopology cfg plan = true)
    (hat : AtLayer plan l k p) (hl : l < layerCount) (hk : k < layerSteps plan)
    (hc : p.prefillStateCommitted = false) :
    ((callAt plan l k).apply cfg plan p).1 = .none := by
  have hown := own_phase (k := k) h
  obtain ⟨hview, rfl, hnp⟩ := hat
  have hn := h.panelCount_pos
  cases htac : plan.tactic <;> simp only [callAt, layerSteps, htac] at hk ⊢
  case perOperatorPanel =>
    have hfix : plan.tactic.fixedP40Geometry = false := by rw [htac]; rfl
    refine panel_accepts.mpr ⟨hv, hfix, hl, hk, hc, rfl, ?_, ?_, ?_⟩
    · simp only [hnp, cursor, htac, if_pos hk]
    · simp only [hview, phase, htac]
    · rw [hview, hown hfix hk]
  case layerWideP40ExactFullM =>
    have hfix : plan.tactic.fixedP40Geometry = false := by rw [htac]; rfl
    split_ifs with hp
    · refine panel_accepts.mpr ⟨hv, hfix, hl, hp, hc, rfl, ?_, ?_, ?_⟩
      · simp only [hnp, cursor, htac, if_pos hp]
      · simp only [hview, phase, htac, Nat.min_eq_left hp.le]
      · rw [hview, hown hfix hp]
    · obtain rfl : k = plan.panelCount := by omega
      refine layerWideMlp_accepts.mpr ⟨hv, htac, hl, hc, rfl, ?_, ?_, ?_⟩
      · simp [hnp, cursor, htac]
      · simp [hview, phase, htac]
      · simp [hview, phase, htac]
  case promptWideP40WholeCore =>
    split_ifs with hf hcore hd
    · refine fill_accepts.mpr ⟨hv, htac, hl, hf, hc, rfl, ?_, ?_⟩
      · simp only [hnp, cursor, htac, if_pos hf]
      · rw [hview]
        simp only [phase, htac, Nat.min_eq_left hf.le, if_pos hf.le, true_and]
        omega
    · subst hcore
      refine promptCore_accepts.mpr ⟨hv, htac, hl, hc, rfl, ?_, ?_⟩
      · simp [hnp, cursor, htac]
      · rw [hview]
        simp only [phase, htac, le_refl, if_true, min_self, true_and, and_true]
        omega
    · refine drain_accepts.mpr ⟨hv, htac, hl, hd, hc, rfl, ?_, ?_⟩
      · simp only [hnp, cursor, htac, if_neg hf, if_pos hd]
      · rw [hview]
        simp only [phase, htac, if_neg (show ¬ k ≤ plan.panelCount by omega), true_and]
        omega
    · refine persistentMlp_accepts.mpr ⟨hv, htac, hl, hc, rfl, ?_, ?_⟩
      · simp only [hnp, cursor, htac, if_neg hf, if_neg hd]
      · rw [hview]
        simp only [phase, htac, if_neg (show ¬ k ≤ plan.panelCount by omega), true_and]
        omega
  all_goals
    obtain rfl : k = 0 := by omega
    have hzero : p.nextPanel = 0 := by simp [hnp, cursor, htac]
    have hfresh : layerView plan p p.nextLayer = ⟨plan.firstPosition, plan.firstPosition,
        0, 0, 0, 0, 0⟩ := by
      simp [hview, phase, htac]
    have huntouched : untouchedLayer p p.nextLayer := by
      rw [untouchedLayer_iff plan, hfresh]
      exact ⟨rfl, rfl, rfl, rfl, rfl⟩
  case promptWideP40VllmMarlinParity =>
    exact parity_accepts.mpr ⟨hv, htac, hl, hc, rfl, hzero, huntouched, by rw [hfresh],
      h.parity htac, rfl⟩
  all_goals exact atomic_accepts.mpr ⟨hv, htac, hl, hc, rfl, hzero, huntouched, by rw [hfresh]⟩

lemma accepted_due (h : Topology plan) (hat : AtLayer plan l k p) {call : ProgressCall}
    (hq : call.silent = false) (ha : (call.apply cfg plan p).1 = .none) :
    call = callAt plan l k := by
  obtain ⟨hview, rfl, hnp⟩ := hat
  have hn := h.panelCount_pos
  cases call with
  | panel l i =>
    obtain ⟨-, hfix, -, hi, -, rfl, rfl, hp, -⟩ := panel_accepts.mp ha
    rw [hview] at hp
    cases htac : plan.tactic <;> rw [htac] at hfix
    case perOperatorPanel =>
      simp only [phase, callAt, htac] at hp ⊢
      rw [hp]
    case layerWideP40ExactFullM =>
      simp only [phase, callAt, htac] at hp ⊢
      rw [if_pos (by omega), ← hp, Nat.min_eq_left (by omega)]
    all_goals cases hfix
  | layerWideMlp l =>
    obtain ⟨-, htac, -, -, rfl, -, hp, -⟩ := layerWideMlp_accepts.mp ha
    simp only [hview, phase, callAt, htac] at hp ⊢
    rw [if_neg (by omega)]
  | fill l i =>
    obtain ⟨-, htac, -, hi, -, rfl, rfl, hf, -⟩ := fill_accepts.mp ha
    simp only [hview, phase, callAt, htac] at hf ⊢
    rw [if_pos (by omega), ← hf, Nat.min_eq_left (by omega)]
  | promptCore l =>
    obtain ⟨-, htac, -, -, rfl, -, hf, hcore, -⟩ := promptCore_accepts.mp ha
    simp only [hview, phase, callAt, htac] at hf hcore ⊢
    have hle : k ≤ plan.panelCount := by
      by_contra hn
      simp [if_neg hn] at hcore
    rw [if_neg (by omega), if_pos (by omega)]
  | drain l i =>
    obtain ⟨-, htac, -, hi, -, rfl, rfl, -, hcore, hd, -⟩ := drain_accepts.mp ha
    simp only [hview, phase, callAt, htac] at hcore hd ⊢
    have hlt : ¬ k ≤ plan.panelCount := by
      intro hn
      simp [if_pos hn] at hcore
    rw [if_neg (by omega), if_neg (by omega), if_pos (by omega), ← hd, Nat.min_eq_left (by omega)]
  | persistentMlp l =>
    obtain ⟨-, htac, -, -, rfl, -, -, hcore, hd, -⟩ := persistentMlp_accepts.mp ha
    simp only [hview, phase, callAt, htac] at hcore hd ⊢
    have hlt : ¬ k ≤ plan.panelCount := by
      intro hn
      simp [if_pos hn] at hcore
    rw [if_neg (by omega), if_neg (by omega), if_neg (by omega)]
  | projectionReset l | packedProjection l | packedNvfp4V2 l =>
    obtain ⟨-, htac, -, -, rfl, -⟩ := atomic_accepts.mp ha
    simp only [callAt, htac]
  | vllmMarlinParity l receipt =>
    obtain ⟨-, htac, -, -, rfl, -, -, -, -, rfl⟩ := parity_accepts.mp ha
    simp only [callAt, htac]
  | markFinalHiddenReady | publishStateCommitted => cases hq

lemma move (h : Topology plan) (hat : AtLayer plan l k p) (hk : k < layerSteps plan)
    {call : ProgressCall} (hcall : call = callAt plan l k)
    (haccept : (call.apply cfg plan p).1 = .none) :
    (call.apply cfg plan p).2 = writeLayer plan p l (phase plan (k + 1))
      (if k + 1 = layerSteps plan then l + 1 else l)
      (if k + 1 = layerSteps plan then 0 else cursor plan (k + 1)) := by
  have hlast := h.lastPanel
  have hn := h.panelCount_pos
  obtain ⟨hview, hnl, hnp⟩ := hat
  cases htac : plan.tactic <;> simp only [callAt, layerSteps, htac] at hcall hk ⊢
  case perOperatorPanel =>
    subst hcall
    rw [ProgressCall.apply, panel_effect haccept, hview]
    simp only [phase, cursor, panelBoundary, htac]
    grind
  case layerWideP40ExactFullM =>
    split_ifs at hcall with hp <;> subst hcall
    · rw [ProgressCall.apply, panel_effect haccept, hview]
      simp only [phase, cursor, panelBoundary, htac]
      grind [panelBoundary]
    · obtain rfl : k = plan.panelCount := by omega
      rw [ProgressCall.apply, layerWideMlp_effect haccept, hview]
      simp [phase, htac]
  case promptWideP40WholeCore =>
    split_ifs at hcall with hf hc hd <;> subst hcall
    · rw [ProgressCall.apply, fill_effect haccept, hview]
      simp only [phase, cursor, htac]
      grind
    · rw [ProgressCall.apply, promptCore_effect haccept, hview]
      simp only [phase, cursor, htac]
      grind
    · rw [ProgressCall.apply, drain_effect haccept, hview]
      simp only [phase, cursor, htac]
      grind
    · rw [ProgressCall.apply, persistentMlp_effect haccept, hview]
      simp only [phase, cursor, htac]
      grind
  all_goals
    obtain rfl : k = 0 := by omega
    have hzero : p.nextPanel = 0 := by simpa [cursor, htac] using hnp
    subst hcall
  case promptWideP40VllmMarlinParity =>
    rw [ProgressCall.apply, parity_effect haccept, completeLayer_eq hnl hzero, hview]
    simp [phase, htac]
  all_goals
    rw [ProgressCall.apply]
    erw [atomic_effect haccept]
    rw [completeLayer_eq hnl hzero, hview]
    simp [phase, htac]

end

end Qwen3xOrin.Prefill
