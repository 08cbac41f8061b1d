import Qwen3xOrin.Prefill.PlanBuilder
import Qwen3xOrin.Prefill.Schedule

/-! Runs of arbitrary calls on the progress record. After any run the record is the one the
schedule has at some step. -/

namespace Qwen3xOrin.Prefill

open Library

structure AtStep (plan : PrefillExecutionPlan) (t : ℕ) (p : PrefillExecutionProgress) :
    Prop where
  bound : t ≤ layerCount * layerSteps plan
  view : ∀ j, layerView plan p j =
    phase plan (min (t - j * layerSteps plan) (layerSteps plan))
  nextLayer : p.nextLayer = t / layerSteps plan
  nextPanel : p.nextPanel = cursor plan (t % layerSteps plan)
  ready : p.finalHiddenReady = true → t = layerCount * layerSteps plan
  committed : p.prefillStateCommitted = true → p.finalHiddenReady = true

def ProgressCall.accept (cfg : BuildConfig) (plan : PrefillExecutionPlan)
    (p : PrefillExecutionProgress) (call : ProgressCall) : Option PrefillExecutionProgress :=
  let (error, p') := call.apply cfg plan p
  if error = .none then some p' else none

def runCalls (cfg : BuildConfig) (plan : PrefillExecutionPlan) (p : PrefillExecutionProgress) :
    List ProgressCall → PrefillExecutionProgress
  | [] => p
  | call :: calls => runCalls cfg plan (call.apply cfg plan p).2 calls

def acceptedCalls (cfg : BuildConfig) (plan : PrefillExecutionPlan)
    (p : PrefillExecutionProgress) : List ProgressCall → List ProgressCall
  | [] => []
  | call :: calls =>
    let (error, p') := call.apply cfg plan p
    if error = .none then call :: acceptedCalls cfg plan p' calls
    else acceptedCalls cfg plan p' calls

section

variable {cfg : BuildConfig} {plan : PrefillExecutionPlan} {p p' : PrefillExecutionProgress}

lemma keeps_reject {c : Prop} [Decidable c] {e : PrefillExecutionProgressError} {x : Outcome}
    (hx : x.1 ≠ .none → x.2 = p) :
    (if c then (e, p) else x).1 ≠ .none → (if c then (e, p) else x).2 = p := by
  split_ifs
  · exact fun _ => rfl
  · exact hx

lemma apply_error (call : ProgressCall) (h : (call.apply cfg plan p).1 ≠ .none) :
    (call.apply cfg plan p).2 = p := by
  revert h
  cases call with
  | panel l i =>
    refine keeps_reject (keeps_reject (keeps_reject (keeps_reject (keeps_reject
      (keeps_reject fun h => absurd ?_ h)))))
    dsimp only
    split_ifs <;> rfl
  | layerWideMlp l => exact keeps_reject (keeps_reject (keeps_reject fun h => absurd rfl h))
  | fill l i =>
    exact keeps_reject (keeps_reject (keeps_reject (keeps_reject fun h => absurd rfl h)))
  | promptCore l =>
    exact keeps_reject (keeps_reject (keeps_reject (keeps_reject fun h => absurd rfl h)))
  | drain l i =>
    exact keeps_reject (keeps_reject (keeps_reject (keeps_reject fun h => absurd rfl h)))
  | persistentMlp l => exact keeps_reject (keeps_reject (keeps_reject fun h => absurd rfl h))
  | projectionReset l | packedProjection l | packedNvfp4V2 l =>
    exact keeps_reject (keeps_reject (keeps_reject (keeps_reject fun h => absurd rfl h)))
  | vllmMarlinParity l receipt =>
    exact keeps_reject (keeps_reject (keeps_reject (keeps_reject (keeps_reject
      fun h => absurd rfl h))))
  | markFinalHiddenReady => exact keeps_reject (keeps_reject fun h => absurd rfl h)
  | publishStateCommitted => exact keeps_reject (keeps_reject fun h => absurd rfl h)

lemma accept_eq_some {call : ProgressCall} : call.accept cfg plan p = some p' ↔
    (call.apply cfg plan p).1 = .none ∧ p' = (call.apply cfg plan p).2 := by
  simp only [ProgressCall.accept]
  split_ifs with h
  · simp [h, eq_comm]
  · simp [h]

lemma accept_eq_none {call : ProgressCall} (h : call.accept cfg plan p = none) :
    (call.apply cfg plan p).1 ≠ .none := by
  intro hn
  simp [ProgressCall.accept, hn] at h

lemma runCalls_eq (calls : List ProgressCall) :
    runCalls cfg plan p calls = run (ProgressCall.accept cfg plan) p calls := by
  induction calls generalizing p with
  | nil => rfl
  | cons call calls ih =>
    rw [runCalls, run, ih]
    cases h : call.accept cfg plan p with
    | none => rw [apply_error call (accept_eq_none h), Option.getD_none]
    | some p' => rw [(accept_eq_some.1 h).2, Option.getD_some]

lemma acceptedCalls_eq (calls : List ProgressCall) :
    acceptedCalls cfg plan p calls = accepted (ProgressCall.accept cfg plan) p calls := by
  induction calls generalizing p with
  | nil => rfl
  | cons call calls ih =>
    simp only [acceptedCalls, accepted]
    cases h : call.accept cfg plan p with
    | none =>
      have hn := accept_eq_none h
      simp only [hn, if_false, apply_error call hn]
      exact ih
    | some p' =>
      obtain ⟨hn, rfl⟩ := accept_eq_some.1 h
      simp only [hn, if_true]
      rw [ih]

lemma cursor_zero (plan : PrefillExecutionPlan) : cursor plan 0 = 0 := by
  cases ht : plan.tactic <;> simp [cursor, ht]

lemma atStep_init (plan : PrefillExecutionPlan) : AtStep plan 0 (makePrefillExecutionProgress plan) where
  bound := Nat.zero_le _
  view j := by
    have hb : panelBoundary plan 0 = plan.firstPosition := rfl
    cases hd : (plan.layer j).progressDomain <;> cases ht : plan.tactic <;>
      simp [layerView, makePrefillExecutionProgress, progressEnd, otherEnd, phase, hd, ht, hb]
  nextLayer := by simp [makePrefillExecutionProgress]
  nextPanel := by rw [Nat.zero_mod, cursor_zero]; rfl
  ready h := by cases h
  committed h := by cases h

lemma AtStep.atLayer {l k : ℕ} (h : AtStep plan (l * layerSteps plan + k) p)
    (hk : k < layerSteps plan) : AtLayer plan l k p where
  view := by
    rw [h.view, Nat.add_sub_cancel_left, Nat.min_eq_left hk.le]
  nextLayer := by
    rw [h.nextLayer, Nat.add_comm, Nat.add_mul_div_right _ _ (by omega), Nat.div_eq_of_lt hk,
      Nat.zero_add]
  nextPanel := by
    rw [h.nextPanel, Nat.add_comm, Nat.add_mul_mod_self_right, Nat.mod_eq_of_lt hk]

lemma AtStep.succ {l k : ℕ} (h : AtStep plan (l * layerSteps plan + k) p)
    (hl : l < layerCount) (hk : k < layerSteps plan) :
    AtStep plan (l * layerSteps plan + k + 1) (writeLayer plan p l (phase plan (k + 1))
      (if k + 1 = layerSteps plan then l + 1 else l)
      (if k + 1 = layerSteps plan then 0 else cursor plan (k + 1))) := by
  have hrow : (l + 1) * layerSteps plan ≤ layerCount * layerSteps plan :=
    Nat.mul_le_mul_right _ hl
  rw [Nat.succ_mul] at hrow
  have hready : p.finalHiddenReady = false := by
    rw [Bool.eq_false_iff]
    intro hr
    have := h.ready hr
    omega
  refine ⟨by omega, fun j => ?_, ?_, ?_, ?_, h.committed⟩
  · rw [layerView_writeLayer]
    split_ifs with hj
    · subst hj
      rw [Nat.add_assoc, Nat.add_sub_cancel_left, Nat.min_eq_left hk]
    · rw [h.view]
      congr 1
      rcases Nat.lt_or_gt_of_ne hj with hlt | hgt
      · have := Nat.mul_le_mul_right (layerSteps plan) (Nat.succ_le_of_lt hlt)
        rw [Nat.succ_mul] at this
        omega
      · have := Nat.mul_le_mul_right (layerSteps plan) (Nat.succ_le_of_lt hgt)
        rw [Nat.succ_mul] at this
        omega
  · change (if k + 1 = layerSteps plan then l + 1 else l) = _
    split_ifs with hlast
    · rw [Nat.add_assoc, hlast, ← Nat.succ_mul, Nat.mul_div_cancel _ (by omega)]
    · rw [Nat.add_assoc, Nat.add_comm (l * _), Nat.add_mul_div_right _ _ (by omega),
        Nat.div_eq_of_lt (by omega), Nat.zero_add]
  · change (if k + 1 = layerSteps plan then 0 else cursor plan (k + 1)) = _
    split_ifs with hlast
    · rw [Nat.add_assoc, hlast, ← Nat.succ_mul, Nat.mul_mod_left, cursor_zero]
    · rw [Nat.add_assoc, Nat.add_comm (l * _), Nat.add_mul_mod_self_right,
        Nat.mod_eq_of_lt (by omega)]
  · intro hr
    simp [writeLayer, hready] at hr

lemma advance_open {call : ProgressCall} (hq : call.silent = false)
    (h : (call.apply cfg plan p).1 = .none) :
    p.nextLayer < layerCount ∧ p.prefillStateCommitted = false := by
  cases call with
  | panel l i =>
    obtain ⟨-, -, hl, -, hc, rfl, -⟩ := panel_accepts.mp h
    exact ⟨hl, hc⟩
  | layerWideMlp l =>
    obtain ⟨-, -, hl, hc, rfl, -⟩ := layerWideMlp_accepts.mp h
    exact ⟨hl, hc⟩
  | fill l i =>
    obtain ⟨-, -, hl, -, hc, rfl, -⟩ := fill_accepts.mp h
    exact ⟨hl, hc⟩
  | promptCore l =>
    obtain ⟨-, -, hl, hc, rfl, -⟩ := promptCore_accepts.mp h
    exact ⟨hl, hc⟩
  | drain l i =>
    obtain ⟨-, -, hl, -, hc, rfl, -⟩ := drain_accepts.mp h
    exact ⟨hl, hc⟩
  | persistentMlp l =>
    obtain ⟨-, -, hl, hc, rfl, -⟩ := persistentMlp_accepts.mp h
    exact ⟨hl, hc⟩
  | projectionReset l | packedProjection l | packedNvfp4V2 l =>
    obtain ⟨-, -, hl, hc, rfl, -⟩ := atomic_accepts.mp h
    exact ⟨hl, hc⟩
  | vllmMarlinParity l receipt =>
    obtain ⟨-, -, hl, hc, rfl, -⟩ := parity_accepts.mp h
    exact ⟨hl, hc⟩
  | markFinalHiddenReady | publishStateCommitted => cases hq

lemma mark_accepts : (markPrefillFinalHiddenReady cfg plan p).1 = .none ↔
    executionComplete cfg plan p = true ∧ p.prefillStateCommitted = false := by
  simp only [markPrefillFinalHiddenReady, reject_fst, ne_eq, reduceCtorEq, not_false_eq_true,
    Bool.not_eq_false, Bool.not_eq_true, and_true]

lemma mark_effect (h : (markPrefillFinalHiddenReady cfg plan p).1 = .none) :
    (markPrefillFinalHiddenReady cfg plan p).2 = { p with finalHiddenReady := true } := by
  obtain ⟨hx, hc⟩ := mark_accepts.1 h
  simp [markPrefillFinalHiddenReady, hx, hc]

lemma publish_accepts : (publishPrefillStateCommitted cfg plan p).1 = .none ↔
    p.prefillStateCommitted = false ∧ p.finalHiddenReady = true ∧
      executionComplete cfg plan p = true := by
  simp only [publishPrefillStateCommitted, reject_fst, ne_eq, reduceCtorEq, not_false_eq_true]
  cases hc : p.prefillStateCommitted <;> simp [prefillFinalCommitReady, hc]

lemma publish_effect (h : (publishPrefillStateCommitted cfg plan p).1 = .none) :
    (publishPrefillStateCommitted cfg plan p).2 = { p with prefillStateCommitted := true } := by
  obtain ⟨hc, hr, hx⟩ := publish_accepts.1 h
  simp [publishPrefillStateCommitted, prefillFinalCommitReady, hx, hc, hr]

lemma callAt_silent (plan : PrefillExecutionPlan) (l k : ℕ) :
    (callAt plan l k).silent = false := by
  unfold callAt
  split
  case h_2 => split_ifs <;> rfl
  case h_3 => split_ifs <;> rfl
  all_goals rfl

lemma schedule_silent (plan : PrefillExecutionPlan) :
    ∀ call ∈ schedule plan, call.silent = false := by
  intro call hcall
  obtain ⟨l, -, hcall⟩ := List.mem_flatMap.mp hcall
  obtain ⟨k, hk⟩ := List.mem_iff_getElem?.mp hcall
  have hlt : k < layerSteps plan :=
    length_layerCalls plan l ▸ (List.getElem?_eq_some_iff.mp hk).1
  rw [layerCalls_getElem? plan l hlt] at hk
  exact Option.some_inj.mp hk ▸ callAt_silent plan l k

lemma AtStep.complete {t : ℕ} (h : AtStep plan t p)
    (hx : executionComplete cfg plan p = true) : t = layerCount * layerSteps plan := by
  simp only [executionComplete, Bool.and_eq_true, decide_eq_true_eq] at hx
  have hb := h.bound
  have hd : t / layerSteps plan = layerCount := h.nextLayer ▸ hx.1.2.1
  exact le_antisymm hb (hd ▸ Nat.div_mul_le_self t (layerSteps plan))

lemma scheduled (htop : Topology plan) (hv : validPlanTopology cfg plan = true) :
    Scheduled (ProgressCall.accept cfg plan) ProgressCall.silent (AtStep plan)
      (fun p => p.prefillStateCommitted = false) (schedule plan) where
  quiet {t p call p'} hat hq hs := by
    obtain ⟨ha, rfl⟩ := accept_eq_some.1 hs
    cases call with
    | markFinalHiddenReady =>
      obtain ⟨hx, hc⟩ := mark_accepts.1 ha
      rw [ProgressCall.apply, mark_effect ha]
      exact { hat with ready := fun _ => hat.complete hx, committed := fun _ => rfl }
    | publishStateCommitted =>
      obtain ⟨hc, hr, hx⟩ := publish_accepts.1 ha
      rw [ProgressCall.apply, publish_effect ha]
      exact { hat with committed := fun _ => hr }
    | _ => cases hq
  moves {t p call p'} hat hq hs := by
    obtain ⟨ha, rfl⟩ := accept_eq_some.1 hs
    obtain ⟨hl, hc⟩ := advance_open hq ha
    have hS := layerSteps_pos htop
    have hk := Nat.mod_lt t hS
    rw [hat.nextLayer] at hl
    rw [← Nat.div_add_mod' t (layerSteps plan)] at hat ⊢
    have hcall := accepted_due htop (hat.atLayer hk) hq ha
    refine ⟨by rw [schedule_getElem? plan hl hk, hcall], ?_⟩
    rw [move htop (hat.atLayer hk) hk hcall ha]
    exact hat.succ hl hk
  due {t p call} hat hc hget := by
    have hS := layerSteps_pos htop
    have hk := Nat.mod_lt t hS
    have ht : t < layerCount * layerSteps plan := by
      rw [← length_schedule]
      exact (List.getElem?_eq_some_iff.mp hget).1
    have hl : t / layerSteps plan < layerCount := Nat.div_lt_of_lt_mul (by rwa [Nat.mul_comm])
    rw [← Nat.div_add_mod' t (layerSteps plan)] at hat hget
    rw [schedule_getElem? plan hl hk, Option.some_inj] at hget
    subst hget
    have ha := due_accepted htop hv (hat.atLayer hk) hl hk hc
    refine ⟨callAt_silent plan _ _, _, accept_eq_some.2 ⟨ha, rfl⟩, ?_⟩
    rw [move htop (hat.atLayer hk) hk rfl ha]
    exact hc

end

end Qwen3xOrin.Prefill
