import Qwen3xOrin.Generation.Tiling

/-! Two generations that agree up to timing stay in agreement through the final prefill step and
the whole decode loop. -/

namespace Qwen3xOrin.Generation

open Prefill Library FloatingPoint

variable {σ F : Type}

def SameContext (s t : World σ) : Prop := s.context = t.context

def TimingBlind (options : GenerationControlOptions σ F) : Prop :=
  ∀ committedToken ∈ options.committedToken, ∀ token index elapsed elapsed' context,
    committedToken token index elapsed context = committedToken token index elapsed' context

structure SameGeneration (a b : GenerationControl F) : Prop where
  generated : a.generatedTokenIds = b.generatedTokenIds
  stopReason : a.stopReason = b.stopReason
  steps : a.steps.map untimed = b.steps.map untimed

variable [FloatingPoint F]

structure Alike (strict : Prop) (a b : GenerationControl F) : Prop extends
    SameGeneration a b where
  steady : strict → FiniteTotals a ∧ FiniteTotals b

section

variable {Reported : F → Prop} {strict : Prop} {options : GenerationControlOptions σ F}
  {a b : GenerationControl F}

omit [FloatingPoint F] in
lemma SameGeneration.length (h : SameGeneration a b) : a.steps.length = b.steps.length := by
  simpa using congrArg List.length h.steps

omit [FloatingPoint F] in
lemma invoke_coupled {α : Type} {call call' : Call} {callback callback' : Callback σ α}
    {onOther : Stop} (hsame : ∀ context, callback context = callback' context) :
    Coupled strict SameContext (invoke call callback onOther) (invoke call' callback' onOther)
      (fun x y s t => SameContext s t ∧ x = y ∧ ∃ context, callback context = (.ok x, s.context)) := by
  rintro s t hst
  simp only [outcome, invoke, ExceptT.run, ExceptT.mk, StateT.run]
  rw [← hsame, ← show s.context = t.context from hst]
  rcases hcall : callback s.context with ⟨(_ | _) | x, context⟩
  · trivial
  · trivial
  · exact ⟨rfl, rfl, s.context, hcall⟩

lemma execute_coupled {call call' : ℕ → ℕ → Call} {phaseStep : StepFunction σ F} {token : ℕ}
    {computeLogits : Bool} {onOther : Stop} (hlen : a.steps.length = b.steps.length)
    (htimed : strict → Timed Reported phaseStep) :
    Coupled strict SameContext (execute options a call phaseStep token computeLogits onOther)
      (execute options b call' phaseStep token computeLogits onOther)
      (fun r r' s t => SameContext s t ∧ ∃ step, r.1 = { a with steps := a.steps ++ [step] } ∧
        r'.1 = { b with steps := b.steps ++ [step] } ∧ r.2 = r'.2 ∧ (strict → Reported r.2.1)) := by
  refine Coupled.bind (invoke_coupled fun _ => rfl) fun x y => ?_
  rintro s t ⟨hst, rfl, context, hcall⟩
  rw [hlen]
  have hcheck : Coupled strict SameContext
      (lift (checkStep options.logitsMode b.steps.length token computeLogits x) : ControlM σ _)
      (lift (checkStep options.logitsMode b.steps.length token computeLogits x))
      (fun r r' s t => SameContext s t ∧ r = r' ∧
        checkStep options.logitsMode b.steps.length token computeLogits x = .ok r) :=
    Coupled.ofExcept (fun r r' hr hr' s t hst => ⟨hst, Except.ok.inj (hr.symm.trans hr'), hr⟩)
      fun _ => rfl
  refine Coupled.bind hcheck ?_ s t hst
  rintro ⟨step, elapsed, predicted⟩ r'
  refine Coupled.ret ?_
  rintro s' t' ⟨hst', rfl, hr⟩
  obtain ⟨hstep, -, -, htiming, -⟩ := checkStep_ok hr
  refine ⟨hst', step, rfl, rfl, rfl, fun hs => ?_⟩
  obtain ⟨time, htime, hreported⟩ := htimed hs (phaseOptions options computeLogits) rfl context token
    step s.context (by simp [stepResult, phaseOptions, hcall, hstep])
  rw [htiming, Option.some_inj] at htime
  rw [htime]
  exact hreported

lemma accumulate_coupled (hclock : strict → SteadyClock Reported) {pre : World σ → World σ → Prop}
    {x y elapsed : F}
    (hsteady : strict → isFinite x = true ∧ isFinite y = true ∧ Reported elapsed) :
    Coupled strict pre (lift (accumulate x elapsed)) (lift (accumulate y elapsed))
      (fun u v s t => pre s t ∧ u = add x elapsed ∧ v = add y elapsed) := by
  refine Coupled.ofExcept (fun u v hu hv s t hst => ⟨hst, accumulate_ok hu, accumulate_ok hv⟩) ?_
  intro hs
  obtain ⟨hx, hy, helapsed⟩ := hsteady hs
  rw [(hclock hs).accumulate hx helapsed, (hclock hs).accumulate hy helapsed]
  rfl

omit [FloatingPoint F] in
lemma commitToken_coupled (hblind : TimingBlind options)
    (hgenerated : a.generatedTokenIds = b.generatedTokenIds) {token : ℕ} {elapsed elapsed' : F} :
    Coupled strict SameContext (commitToken options a token elapsed)
      (commitToken options b token elapsed')
      (fun r r' s t => SameContext s t ∧
        r.1 = { a with generatedTokenIds := a.generatedTokenIds ++ [token] } ∧
        r'.1 = { b with generatedTokenIds := b.generatedTokenIds ++ [token] } ∧ r.2 = r'.2) := by
  unfold commitToken
  cases hobserver : options.committedToken with
  | none => exact Coupled.ret fun s t hst => ⟨hst, rfl, rfl, rfl⟩
  | some committedToken =>
    refine Coupled.bind (invoke_coupled fun context => ?_) fun x y => ?_
    · rw [hblind committedToken hobserver token _ elapsed elapsed', hgenerated]
    · refine Coupled.ret ?_
      rintro s t ⟨hst, rfl, -⟩
      exact ⟨hst, rfl, rfl, rfl⟩

lemma decodeLoop_coupled (hclock : strict → SteadyClock Reported) (hblind : TimingBlind options)
    {decodeStep : StepFunction σ F} (htimed : strict → Timed Reported decodeStep) (n : ℕ)
    (h : Alike strict a b) :
    Coupled strict SameContext (decodeLoop options decodeStep n a)
      (decodeLoop options decodeStep n b) (fun a' b' _ _ => SameGeneration a' b') := by
  induction n generalizing a b with
  | zero => exact Coupled.ret fun _ _ _ => h.toSameGeneration
  | succ n ih =>
    rw [decodeLoop, decodeLoop, h.generated]
    refine Coupled.bind (execute_coupled h.length htimed) ?_
    rintro ⟨stepped, elapsed, predicted⟩ ⟨stepped', elapsed', predicted'⟩
    refine Coupled.assume ?_
    rintro ⟨step, rfl, rfl, heq, hreported⟩
    obtain ⟨rfl, rfl⟩ := Prod.mk.inj heq
    refine Coupled.bind (accumulate_coupled hclock fun hs => ⟨(h.steady hs).1.decodeAfterFirst,
      (h.steady hs).2.decodeAfterFirst, hreported hs⟩) fun after after' => ?_
    refine Coupled.assume ?_
    rintro ⟨rfl, rfl⟩
    refine Coupled.bind (accumulate_coupled hclock fun hs => ⟨(h.steady hs).1.totalGeneration,
      (h.steady hs).2.totalGeneration, hreported hs⟩) fun total total' => ?_
    refine Coupled.assume ?_
    rintro ⟨rfl, rfl⟩
    refine Coupled.bind (commitToken_coupled hblind (by exact h.generated)) ?_
    rintro ⟨committed, goOn⟩ ⟨committed', goOn'⟩
    refine Coupled.assume ?_
    rintro ⟨rfl, rfl, hgoOn⟩
    obtain rfl : goOn = goOn' := hgoOn
    have hgenerated : a.generatedTokenIds ++ [predicted] = b.generatedTokenIds ++ [predicted] := by
      rw [h.generated]
    have hsteps : (a.steps ++ [step]).map untimed = (b.steps ++ [step]).map untimed := by
      rw [List.map_append, h.steps, List.map_append]
    dsimp only
    split_ifs with hstop hcancel
    · exact Coupled.ret fun _ _ _ => ⟨hgenerated, rfl, hsteps⟩
    · exact Coupled.ret fun _ _ _ => ⟨hgenerated, rfl, hsteps⟩
    · refine ih ⟨⟨hgenerated, h.stopReason, hsteps⟩, fun hs => ?_⟩
      obtain ⟨hleft, hright⟩ := h.steady hs
      exact ⟨⟨hleft.promptPrefill, (hclock hs).add _ _ hleft.decodeAfterFirst (hreported hs),
          (hclock hs).add _ _ hleft.totalGeneration (hreported hs)⟩,
        ⟨hright.promptPrefill, (hclock hs).add _ _ hright.decodeAfterFirst (hreported hs),
          (hclock hs).add _ _ hright.totalGeneration (hreported hs)⟩⟩

lemma generate_coupled (hclock : strict → SteadyClock Reported) (hblind : TimingBlind options)
    {decodePlan : DecodePlan σ F}
    (htimed : strict → ∀ decodeStep ∈ decodePlan.decodeStep, Timed Reported decodeStep)
    {predicted : ℕ} (h : Alike strict a b) :
    Coupled strict SameContext (generate options decodePlan none a predicted)
      (generate options decodePlan none b predicted) (fun a' b' _ _ => SameGeneration a' b') := by
  refine Coupled.bind (commitToken_coupled hblind (by exact h.generated)) ?_
  rintro ⟨committed, goOn⟩ ⟨committed', goOn'⟩
  refine Coupled.assume ?_
  rintro ⟨rfl, rfl, hgoOn⟩
  obtain rfl : goOn = goOn' := hgoOn
  have hgenerated : a.generatedTokenIds ++ [predicted] = b.generatedTokenIds ++ [predicted] := by
    rw [h.generated]
  dsimp only
  split_ifs with hstop hcancel
  · exact Coupled.ret fun _ _ _ => ⟨hgenerated, rfl, h.steps⟩
  · exact Coupled.ret fun _ _ _ => ⟨hgenerated, rfl, h.steps⟩
  · simp only [decode, hgenerated]
    cases hstep : decodePlan.decodeStep with
    | none => exact fun _ _ _ => trivial
    | some decodeStep =>
      refine decodeLoop_coupled hclock hblind (fun hs => htimed hs decodeStep hstep) _
        ⟨⟨rfl, h.stopReason, h.steps⟩, fun hs => ?_⟩
      obtain ⟨hleft, hright⟩ := h.steady hs
      exact ⟨⟨hleft.promptPrefill, hleft.decodeAfterFirst, hleft.promptPrefill⟩,
        ⟨hright.promptPrefill, hright.decodeAfterFirst, hright.promptPrefill⟩⟩

lemma finishPrefillStep_coupled (hclock : strict → SteadyClock Reported) {promptTokenIds : List ℕ}
    {finishPrefill : StepFunction σ F} (htimed : strict → Timed Reported finishPrefill)
    {onOther : Stop} (h : Alike strict a b) :
    Coupled strict SameContext (finishPrefillStep options promptTokenIds finishPrefill onOther a)
      (finishPrefillStep options promptTokenIds finishPrefill onOther b)
      (fun r r' s t => SameContext s t ∧ Alike strict r.1 r'.1 ∧ r.2 = r'.2) := by
  have hpop : Coupled strict SameContext (lift (popPlaceholder options a) : ControlM σ _)
      (lift (popPlaceholder options b))
      (fun a' b' s t => SameContext s t ∧ Alike strict a' b') := by
    have hempty : a.steps = [] ↔ b.steps = [] := by
      rw [← List.length_eq_zero_iff, h.length, List.length_eq_zero_iff]
    simp only [popPlaceholder, fail, hempty]
    split_ifs
    · exact Coupled.ofExcept (fun _ _ ha => by cases ha) fun _ => rfl
    · refine Coupled.ret fun s t hst => ⟨hst, ⟨h.generated, h.stopReason, ?_⟩, fun hs => ?_⟩
      · rw [List.map_dropLast, List.map_dropLast, h.steps]
      · obtain ⟨hleft, hright⟩ := h.steady hs
        exact ⟨{ hleft with }, { hright with }⟩
    · exact Coupled.ret fun s t hst => ⟨hst, h⟩
  refine Coupled.bind hpop fun a' b' => Coupled.assume fun h' => ?_
  refine Coupled.bind (execute_coupled h'.length htimed) ?_
  rintro ⟨stepped, elapsed, predicted⟩ ⟨stepped', elapsed', predicted'⟩
  refine Coupled.assume ?_
  rintro ⟨step, rfl, rfl, heq, hreported⟩
  obtain ⟨rfl, rfl⟩ := Prod.mk.inj heq
  refine Coupled.bind (accumulate_coupled hclock fun hs => ⟨(h'.steady hs).1.promptPrefill,
    (h'.steady hs).2.promptPrefill, hreported hs⟩) fun total total' => ?_
  refine Coupled.assume ?_
  rintro ⟨rfl, rfl⟩
  refine Coupled.ret fun s t hst => ⟨hst, ⟨⟨h'.generated, h'.stopReason, ?_⟩, fun hs => ?_⟩, rfl⟩
  · simp only [List.map_append, h'.steps]
  · obtain ⟨hleft, hright⟩ := h'.steady hs
    exact ⟨⟨(hclock hs).add _ _ hleft.promptPrefill (hreported hs), hleft.decodeAfterFirst, hleft.totalGeneration⟩,
      ⟨(hclock hs).add _ _ hright.promptPrefill (hreported hs), hright.decodeAfterFirst, hright.totalGeneration⟩⟩

end

end Qwen3xOrin.Generation
