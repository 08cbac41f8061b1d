import Qwen3xOrin.Generation.PrefixPhase

/-! The four prefill modes end with the same transcript of the prompt. -/

namespace Qwen3xOrin.Generation

open Prefill Library

variable {σ F : Type}

structure Prefilled (prompt : List ℕ) (mode : ReferenceLogitsMode)
    (control : GenerationControl F) (predicted : ℕ) : Prop where
  transcript : Transcript prompt control.steps
  prediction : ∃ front step, control.steps = front ++ [step] ∧
    predictedToken mode step = some predicted
  vocabulary : predicted < referenceVocabularySize
  generated : control.generatedTokenIds = []
  stopReason : control.stopReason = .maxNewTokens

lemma fail_spec {α : Type} {calls : List Call} {bound : ℕ} {error : GenerationControlError}
    {status : ReferenceRunnerStatus} {post : α → World σ → Prop} (hcalls : Within bound calls) :
    Triple (Logged calls) (lift (fail error status) : ControlM σ α) post (StoppedWithin bound) :=
  (lift_spec hcalls (show ∀ a, _ → False from fun a ha => by cases ha)).conseq (fun _ h => h)
    (fun _ _ h => h.2.elim) fun _ h => h

lemma required_spec {α : Type} {callback : Option α} {calls : List Call} {bound : ℕ}
    (hcalls : Within bound calls) :
    Triple (Logged calls) (required callback : ControlM σ α)
      (fun a world => Logged calls world ∧ callback = some a) (StoppedWithin bound) := by
  cases callback with
  | none => exact fail_spec hcalls
  | some a => exact Triple.ret fun world hworld => ⟨hworld, rfl⟩

lemma popPlaceholder_ok {options : GenerationControlOptions σ F} {front : List ℕ} {last : ℕ}
    {control popped : GenerationControl F}
    (hcontrol : Transcript (prefixTokens (front ++ [last]) options) control.steps)
    (h : popPlaceholder options control = .ok popped) :
    ∃ steps, popped = { control with steps := steps } ∧ Transcript front steps := by
  rw [popPlaceholder] at h
  rw [prefixTokens] at hcontrol
  split_ifs at h hcontrol with hall hnil
  · cases h
  · obtain rfl := Except.ok.inj h
    exact ⟨_, rfl, hcontrol.pop⟩
  · obtain rfl := Except.ok.inj h
    rw [List.dropLast_concat] at hcontrol
    exact ⟨_, rfl, hcontrol⟩

variable [FloatingPoint F]

lemma finishPrefillStep_spec {options : GenerationControlOptions σ F} {prompt : List ℕ}
    (finishPrefill : StepFunction σ F) (onOther : Stop) {calls : List Call} {bound : ℕ}
    {control : GenerationControl F} (hprompt : prompt ≠ []) (hbound : prompt.length ≤ bound)
    (hcalls : Within bound calls)
    (hcontrol : Transcript (prefixTokens prompt options) control.steps)
    (hgenerated : control.generatedTokenIds = []) (hstop : control.stopReason = .maxNewTokens) :
    Triple (Logged calls) (finishPrefillStep options prompt finishPrefill onOther control)
      (fun r world =>
        Logged (calls ++ [.finishPrefill (prompt.length - 1) (prompt.getLastD 0)]) world ∧
        Prefilled prompt options.logitsMode r.1 r.2)
      (StoppedWithin bound) := by
  obtain ⟨front, last, rfl⟩ := (List.eq_nil_or_concat' prompt).resolve_left hprompt
  simp only [List.length_append, List.length_singleton] at hbound ⊢
  simp only [finishPrefillStep, Nat.add_sub_cancel, List.getLastD_concat]
  refine Triple.bind (lift_spec hcalls fun popped => popPlaceholder_ok hcontrol) fun popped => ?_
  refine Triple.assume ?_
  rintro ⟨steps, rfl, hsteps⟩
  rw [← hsteps.length]
  have hend : (Call.finishPrefill steps.length last).endPosition ≤ bound := by
    simp only [Call.endPosition, hsteps.length]
    omega
  have hcalls' := hcalls.append (Within.single hend)
  refine Triple.bind (execute_spec finishPrefill onOther hcalls hend) ?_
  rintro ⟨next, elapsed, predicted⟩
  refine Triple.assume ?_
  rintro ⟨step, rfl, hpos, htoken, hpredicted⟩
  refine Triple.bind (lift_spec hcalls' fun _ _ => trivial) fun promptPrefill => ?_
  refine Triple.assume fun _ => Triple.ret fun world hworld => ⟨hworld, ?_⟩
  exact
    { transcript := hsteps.push hpos htoken
      prediction := ⟨steps, step, rfl, (hpredicted rfl).1⟩
      vocabulary := (hpredicted rfl).2
      generated := hgenerated
      stopReason := hstop }

lemma legacyPrefix_spec {options : GenerationControlOptions σ F} {prompt : List ℕ}
    (prefillPlan : PrefillPlan σ F) {bound : ℕ} {control : GenerationControl F}
    (hchunk : 0 < effectivePrefillChunkSize options)
    (hbound : (prefixTokens prompt options).length ≤ bound) (hcontrol : control.steps = []) :
    Triple (Logged []) (legacyPrefix prompt options prefillPlan control)
      (fun after world => PrefixRun [] world.calls [] (prefixTokens prompt options)
        (legacyExecutionCount prompt options) control after)
      (StoppedWithin bound) := by
  have hnil : Within bound [] := by simp [Within]
  have hstart : Transcript [] control.steps := hcontrol ▸ Transcript.nil
  have hlen : ([] : List ℕ).length + (prefixTokens prompt options).length ≤ bound := by
    simpa using hbound
  rw [legacyPrefix]
  by_cases hone : 1 < effectivePrefillChunkSize options
  · rw [if_pos hone]
    have hcount : tileExecutions options (effectivePrefillChunkSize options)
        (prefixTokens prompt options).length (prefixTokens prompt options).length =
        legacyExecutionCount prompt options := by
      rw [legacyExecutionCount]
      split_ifs with hsingle
      · exact tileExecutions_eq_single hsingle hchunk _ _ le_rfl
      · rw [tileExecutions_eq_prefixExecutions _ (by simpa using hsingle), prefixExecutionCount,
          if_neg hchunk.ne', if_neg hone.ne']
    rw [← hcount]
    cases prefillPlan.prefixTile with
    | none =>
      dsimp only
      split_ifs with htokens
      · exact fail_spec hnil
      · rw [not_ne_iff] at htokens
        simp only [htokens]
        refine Triple.ret fun world hworld => ?_
        rw [show world.calls = [] from hworld]
        exact .refl hstart
    | some prefixTile => exact prefixTiles_spec prefixTile hchunk _ le_rfl hnil hstart hlen
  · rw [if_neg hone]
    have hchunk1 : effectivePrefillChunkSize options = 1 := by omega
    have hcount : (prefixTokens prompt options).length = legacyExecutionCount prompt options := by
      simp [legacyExecutionCount, hchunk1, prefixExecutionCount,
        singleArbitraryPrefixExecutionCount, Nat.mod_one]
    rw [← hcount]
    refine Triple.bind (required_spec hnil) fun prefixStep => ?_
    exact Triple.assume fun _ => prefixSteps_spec prefixStep _ hnil hstart hlen

omit [FloatingPoint F] in
lemma checkPanels_ok {plan : PrefillExecutionPlan} (htop : Topology plan) {prompt : List ℕ}
    (hfinal : plan.finalPosition ≤ prompt.length) (panels : List (PrefillPromptPanelResult F))
    {i offset last : ℕ} {steps : List (ReferenceStepResult F)}
    (hi : i + panels.length = plan.panelCount)
    (hoffset : i < plan.panelCount → (plan.panel i).firstPosition = offset)
    (hsteps : Transcript (prompt.take offset) steps) (hle : offset ≤ prompt.length)
    (h : checkPanels plan prompt panels i offset = .ok last) :
    last ≤ prompt.length ∧ Transcript (prompt.take last) (steps ++ panels.flatMap (·.steps)) := by
  induction panels generalizing i offset steps with
  | nil =>
    obtain rfl := Except.ok.inj h
    exact ⟨hle, by simpa using hsteps⟩
  | cons panel panels ih =>
    simp only [checkPanels, fail, guard_ok] at h
    obtain ⟨hbad, h⟩ := h
    push Not at hbad
    split_ifs at h with hall
    simp only [List.all_eq_true, List.mem_range, Bool.and_eq_true, placeholder_iff] at hall
    simp only [List.length_cons] at hi
    have hlt : i < plan.panelCount := by omega
    have hfirst := hoffset hlt
    have hspan := htop.panelSpan i hlt
    have hend := htop.panelEnd_le_final hlt
    have hnext : i + 1 < plan.panelCount →
        (plan.panel (i + 1)).firstPosition = offset + (plan.panel i).tokenCount := fun hlt' => by
      rw [htop.nextPanel i hlt', ← hspan, hfirst]
    have htake : prompt.take (offset + (plan.panel i).tokenCount) =
        prompt.take offset ++ (prompt.drop offset).take (plan.panel i).tokenCount :=
      List.take_add ..
    have hmore : ((prompt.drop offset).take (plan.panel i).tokenCount).length =
        (plan.panel i).tokenCount := by
      simp only [List.length_take, List.length_drop]
      omega
    have hpushed : Transcript (prompt.take (offset + (plan.panel i).tokenCount))
        (steps ++ panel.steps) := by
      rw [htake]
      refine hsteps.append (by rw [hmore, hbad.2.2.2.2]) fun k hk => ?_
      rw [hmore] at hk
      obtain ⟨⟨hpos, htoken, -⟩, -⟩ := hall k (by rw [hbad.2.2.2.2]; exact hk)
      refine ⟨by rw [hpos, hfirst, List.length_take, Nat.min_eq_left hle], ?_⟩
      rw [htoken]
      simp [List.getD_eq_getElem?_getD, hk]
    have hrest := ih (by omega) hnext hpushed (by omega) h
    simpa only [List.flatMap_cons, ← List.append_assoc] using hrest

lemma checkWholeRequest_ok {cfg : BuildConfig} {plan : PrefillExecutionPlan} {prompt : List ℕ}
    {outcome : Outcome (PrefillPromptResult F)} {result : PrefillPromptResult F} {elapsed : F}
    (h : checkWholeRequest cfg plan prompt outcome = .ok (result, elapsed)) :
    completeUncommittedWholeRequestPrefillProgress cfg plan result.progress = true ∧
      result.panels.length = plan.panelCount ∧
      checkPanels plan prompt result.panels 0 0 = .ok prompt.length := by
  unfold checkWholeRequest at h
  cases ho : outcome.toOption with
  | none => simp [ho, fail] at h
  | some found =>
    simp only [ho, fail, guard_ok] at h
    obtain ⟨hbad, h⟩ := h
    push Not at hbad
    cases ht : found.timing with
    | none => simp [ht] at h
    | some time =>
      simp only [ht, guard_ok, bind_ok, Except.ok.injEq, Prod.mk.injEq] at h
      obtain ⟨-, offset, hpanels, hoffset, rfl, rfl⟩ := h
      rw [not_ne_iff] at hoffset
      exact ⟨by simpa using hbad.2.2.2, hbad.2.1, hoffset ▸ hpanels⟩

lemma wholeRequestPrefill_spec {cfg : BuildConfig} {plan : PrefillExecutionPlan}
    (htop : Topology plan) {prompt : List ℕ} (hfirst : plan.firstPosition = 0)
    (hfinal : plan.finalPosition = prompt.length) {bound : ℕ} (hbound : prompt.length ≤ bound)
    (wholeRequest : PrefillPromptFunction σ F) {control : GenerationControl F}
    (hcontrol : control.steps = []) :
    Triple (Logged []) (wholeRequestPrefill cfg plan prompt wholeRequest control)
      (fun r world => Logged [.wholeRequest plan prompt] world ∧
        Transcript prompt r.1.steps ∧ r.1.generatedTokenIds = control.generatedTokenIds ∧
        r.1.stopReason = control.stopReason ∧
        completeUncommittedWholeRequestPrefillProgress cfg plan r.2 = true)
      (StoppedWithin bound) := by
  have hnil : Within bound [] := by simp [Within]
  have hend : (Call.wholeRequest plan prompt).endPosition ≤ bound := by
    simpa only [Call.endPosition, hfinal] using hbound
  refine Triple.bind (invoke_spec _ _ hnil hend) fun outcome => ?_
  refine Triple.bind (lift_spec (hnil.append (Within.single hend))
    fun r hr => checkWholeRequest_ok (by exact hr)) ?_
  rintro ⟨result, elapsed⟩
  refine Triple.assume ?_
  rintro ⟨hprogress, hcount, hpanels⟩
  refine Triple.ret fun world hworld => ⟨hworld, ?_, rfl, rfl, hprogress⟩
  have hsteps := (checkPanels_ok htop hfinal.le result.panels (by simpa using hcount)
    (fun _ => htop.firstPanel.trans hfirst) (by simpa using Transcript.nil) (Nat.zero_le _)
    hpanels).2
  simpa only [pushPrefixExecution, hcontrol, List.nil_append, List.take_length] using hsteps

lemma commitWholeRequestPrefill_spec {cfg : BuildConfig} {plan : PrefillExecutionPlan}
    {progress : PrefillExecutionProgress} (commit : PrefillCommitFunction σ F)
    {control : GenerationControl F} {calls : List Call} {bound : ℕ} (hcalls : Within bound calls)
    (hbound : plan.finalPosition ≤ bound) :
    Triple (Logged calls) (commitWholeRequestPrefill cfg plan progress commit control)
      (fun after world => Logged (calls ++ [.commitWholeRequest plan progress]) world ∧
        ∃ timing, after = { control with timing := timing })
      (StoppedWithin bound) := by
  have hend : (Call.commitWholeRequest plan progress).endPosition ≤ bound := hbound
  have hcalls' := hcalls.append (Within.single hend)
  unfold commitWholeRequestPrefill
  split_ifs with hc
  · exact fail_spec hcalls
  · refine Triple.bind (invoke_spec _ _ hcalls hend) ?_
    rintro ⟨status, elapsed⟩
    dsimp only
    split_ifs with hok hpublish
    · exact fail_spec hcalls'
    · exact fail_spec hcalls'
    · exact Triple.ret fun world hworld => ⟨hworld, _, rfl⟩

end Qwen3xOrin.Generation
