import Qwen3xOrin.Prefill.ArithmeticSpans
import Qwen3xOrin.Prefill.PlanBuilder

/-! Every prompt is partitioned: the panels of a built plan are the canonical cut of the prompt,
and a plan whose options and capacity are admitted always has a valid topology. -/

namespace Qwen3xOrin.Prefill

open Library

-- The panels of the given sizes, laid end to end.
def panelsFrom : ℕ → ℕ → List ℕ → List PrefillOperatorPanel
  | _, _, [] => []
  | i, position, count :: counts =>
    ⟨i, position, count, position + count⟩ :: panelsFrom (i + 1) (position + count) counts

-- The canonical panel sizes of a prompt under a tactic.
structure PanelPieces (tactic : LayerMajorPrefillMlpScheduleTactic) (n : ℕ) (counts : List ℕ) :
    Prop where
  taken : cut (panelTokenCountFor tactic) (panelCountFor tactic n) n = some counts
  count : counts.length = panelCountFor tactic n
  positive : ∀ p ∈ counts, 0 < p
  total : counts.sum = n
  shape : if tactic.fixedP40Geometry then counts = cappedPieces promptWideP40PanelTokens n
    else BalancedPieces operatorPanelTokens n counts

lemma panelTokenCountFor_le (tactic : LayerMajorPrefillMlpScheduleTactic) (n : ℕ) :
    panelTokenCountFor tactic n ≤ n := by
  unfold panelTokenCountFor
  split_ifs with hfixed hlt
  · exact le_rfl
  · omega
  · exact balanced_le _ n

lemma panelPieces_exists (tactic : LayerMajorPrefillMlpScheduleTactic) (n : ℕ) :
    ∃ counts, PanelPieces tactic n counts := by
  by_cases hfixed : tactic.fixedP40Geometry = true
  · have hnext : panelTokenCountFor tactic = capped promptWideP40PanelTokens := by
      funext r
      rw [panelTokenCountFor, if_pos hfixed]
      rfl
    have hcount : panelCountFor tactic n =
        (n + promptWideP40PanelTokens - 1) / promptWideP40PanelTokens := by
      rw [panelCountFor, if_pos hfixed]
      rfl
    refine ⟨cappedPieces promptWideP40PanelTokens n, ?_, ?_, cappedPieces_pos _ _,
      cappedPieces_sum _ _, by rw [if_pos hfixed]⟩
    · rw [hnext, hcount]
      exact cut_capped (by decide) le_rfl
    · rw [hcount, cappedPieces_length (by decide)]
  · have hnext : panelTokenCountFor tactic = balanced operatorPanelTokens := by
      funext r
      rw [panelTokenCountFor, if_neg hfixed]
      rfl
    have hcount : panelCountFor tactic n = (n + operatorPanelTokens - 1) / operatorPanelTokens := by
      rw [panelCountFor, if_neg hfixed]
    obtain ⟨counts, hcut, hpieces⟩ :=
      cut_balanced (show 0 < operatorPanelTokens by decide) (n := n) le_rfl
    refine ⟨counts, ?_, ?_, hpieces.positive, hpieces.total, by rwa [if_neg hfixed]⟩
    · rw [hnext, hcount]
      exact hcut
    · rw [hcount, hpieces.count]

lemma buildPanels_eq {tactic : LayerMajorPrefillMlpScheduleTactic} {n remaining : ℕ}
    {counts : List ℕ} (h : cut (panelTokenCountFor tactic) n remaining = some counts)
    (hn : counts.length = n) (i position : ℕ) :
    buildPanels tactic n i position remaining =
      (panelsFrom i position counts, position + remaining, 0) := by
  induction n generalizing i position remaining counts with
  | zero =>
    simp only [cut, Option.ite_none_right_eq_some, Option.some.injEq] at h
    obtain ⟨rfl, rfl⟩ := h
    rfl
  | succ n ih =>
    have hr : remaining ≠ 0 := by
      rintro rfl
      rw [cut_zero, Option.some.injEq] at h
      rw [← h] at hn
      cases hn
    rw [cut_succ _ _ hr, Option.map_eq_some_iff] at h
    obtain ⟨rest, hrest, rfl⟩ := h
    have hle := panelTokenCountFor_le tactic remaining
    simp only [buildPanels, ih hrest (Nat.succ.inj hn)]
    rw [panelsFrom, show position + panelTokenCountFor tactic remaining +
      (remaining - panelTokenCountFor tactic remaining) = position + remaining by omega]

lemma validPanels_of_panelsFrom {plan : PrefillExecutionPlan} {n remaining : ℕ}
    {counts : List ℕ} (h : cut (panelTokenCountFor plan.tactic) n remaining = some counts)
    (hn : counts.length = n) (hpos : ∀ p ∈ counts, 0 < p) {i position : ℕ}
    (hpanels : plan.panels.drop i = panelsFrom i position counts)
    (hfinal : plan.finalPosition = position + remaining) :
    validPanels plan n i position remaining = true := by
  induction n generalizing i position remaining counts with
  | zero =>
    simp only [cut, Option.ite_none_right_eq_some, Option.some.injEq] at h
    simp [validPanels, hfinal, h.1]
  | succ n ih =>
    have hr : remaining ≠ 0 := by
      rintro rfl
      rw [cut_zero, Option.some.injEq] at h
      rw [← h] at hn
      cases hn
    rw [cut_succ _ _ hr, Option.map_eq_some_iff] at h
    obtain ⟨rest, hrest, rfl⟩ := h
    set count := panelTokenCountFor plan.tactic remaining with hcount
    have hle : count ≤ remaining := panelTokenCountFor_le _ _
    have hcountPos : 0 < count := hpos count List.mem_cons_self
    rw [panelsFrom] at hpanels
    have hpanel : plan.panel i = ⟨i, position, count, position + count⟩ := by
      have hget : plan.panels[i]? = some ⟨i, position, count, position + count⟩ := by
        rw [← List.head?_drop, hpanels]
        rfl
      rw [PrefillExecutionPlan.panel, List.getD_eq_getElem?_getD, hget]
      rfl
    have htail : plan.panels.drop (i + 1) = panelsFrom (i + 1) (position + count) rest := by
      rw [← List.tail_drop, hpanels]
      rfl
    have hstep := ih hrest (Nat.succ.inj hn)
      (fun p hp => hpos p (List.mem_cons_of_mem _ hp)) htail (by omega)
    rw [validPanels, hpanel, hstep, Bool.and_true, decide_eq_true_eq]
    exact ⟨rfl, rfl, hcount, by simp only; omega, by simp only; omega⟩

-- What the option and capacity checks of the builder let through.
structure Admitted (cfg : BuildConfig) (options : PrefillExecutionPlanOptions)
    (finalPosition : ℕ) : Prop where
  nonempty : options.promptTokenCount ≠ 0
  supported : supportedMlpScheduleTactic cfg options.mlpScheduleTactic = true
  prompt : rejectedTacticPrompt cfg options = false
  capacity : options.mlpScheduleTactic.fixedP40Geometry = true →
    options.maxSequenceLength = promptWideP40RequestCapacityTokens cfg
  final : finalPosition = options.firstPosition + options.promptTokenCount
  fits : finalPosition ≤ options.maxSequenceLength
  bounded : finalPosition ≤ maximumSequenceTokens

namespace Admitted

variable {cfg : BuildConfig} {options : PrefillExecutionPlanOptions} {finalPosition : ℕ}

lemma first_eq (h : Admitted cfg options finalPosition)
    (ht : options.mlpScheduleTactic ≠ .perOperatorPanel) : options.firstPosition = 0 := by
  have hp := h.prompt
  simp only [rejectedTacticPrompt, Bool.and_eq_false_iff, Bool.or_eq_false_iff,
    decide_eq_false_iff_not, not_not] at hp
  exact (hp.resolve_left ht).1.1

lemma final_eq (h : Admitted cfg options finalPosition)
    (ht : options.mlpScheduleTactic ≠ .perOperatorPanel) :
    finalPosition = options.promptTokenCount := by
  rw [h.final, h.first_eq ht, Nat.zero_add]

lemma wholeCore (h : Admitted cfg options finalPosition)
    (ht : options.mlpScheduleTactic = .promptWideP40WholeCore) :
    wholeCorePromptTokensAdmitted cfg options.promptTokenCount = true := by
  have hp := h.prompt
  simp [rejectedTacticPrompt, ht] at hp
  exact hp.2

lemma p40 (h : Admitted cfg options finalPosition)
    (ht : options.mlpScheduleTactic ≠ .perOperatorPanel)
    (hw : options.mlpScheduleTactic ≠ .promptWideP40WholeCore) :
    options.promptTokenCount = layerWideMlpP40Tokens cfg ∧
      options.promptTokenCount % layerWideMlpAlignmentTokens = 0 := by
  have hp := h.prompt
  simp [rejectedTacticPrompt, hw] at hp
  exact ⟨(hp ht).1.2, (hp ht).2⟩

-- In the service build the storage of the prompt exceeds the capacity of the request.
lemma p40_tokens (h : Admitted cfg options finalPosition)
    (ht : options.mlpScheduleTactic.fixedP40Geometry = true)
    (hw : options.mlpScheduleTactic ≠ .promptWideP40WholeCore) :
    options.promptTokenCount = 40000 ∧ promptWideP40Tokens cfg = 40000 := by
  have hne : options.mlpScheduleTactic ≠ .perOperatorPanel := by
    intro he
    rw [he] at ht
    cases ht
  have htokens := (h.p40 hne hw).1
  have hfits := h.fits
  rw [h.final_eq hne, h.capacity ht, htokens] at hfits
  rw [htokens]
  cases hs : cfg.wholeCoreService
  · simp [layerWideMlpP40Tokens, promptWideP40Tokens, wholeCoreCompiledPromptStorageTokens,
      wholeCoreCompiledSequenceCapacity, hs]
  · simp [layerWideMlpP40Tokens, promptWideP40Tokens, wholeCoreCompiledPromptStorageTokens,
      wholeCoreCompiledSequenceCapacity, promptWideP40RequestCapacityTokens, hs] at hfits

lemma exactP40Prompt (h : Admitted cfg options finalPosition)
    (ht : options.mlpScheduleTactic.fixedP40Geometry = true)
    (hne : options.mlpScheduleTactic ≠ .perOperatorPanel)
    (hw : options.mlpScheduleTactic ≠ .promptWideP40WholeCore) :
    exactP40Prompt cfg (planFor cfg options finalPosition) = true := by
  obtain ⟨htokens, hp40⟩ := h.p40_tokens ht hw
  rw [Prefill.exactP40Prompt, decide_eq_true_eq, hp40]
  refine ⟨h.first_eq hne, htokens, ?_, ?_⟩
  · exact (h.final_eq hne).trans htokens
  · change panelCountFor _ options.promptTokenCount = _
    rw [panelCountFor, if_pos ht, htokens]
    rfl

lemma validMlpSchedule (h : Admitted cfg options finalPosition) :
    validMlpSchedule cfg (planFor cfg options finalPosition) = true := by
  have hs := h.supported
  by_cases hpanel : options.mlpScheduleTactic = .perOperatorPanel
  · simp [Prefill.validMlpSchedule, planFor, buildMlpSchedule, hpanel, supportedMlpScheduleTactic]
  have hfirst := h.first_eq hpanel
  have hfinal := h.final_eq hpanel
  by_cases hwhole : options.mlpScheduleTactic = .promptWideP40WholeCore
  · have hw := h.wholeCore hwhole
    rw [hwhole] at hs
    simp [Prefill.validMlpSchedule, planFor, buildMlpSchedule, hwhole, hs, hw, hfirst, hfinal,
      LayerMajorPrefillMlpScheduleTactic.fixedP40Geometry]
  · obtain ⟨htokens, halign⟩ := h.p40 hpanel hwhole
    rw [htokens] at halign hfinal
    cases ht : options.mlpScheduleTactic <;> rw [ht] at hs <;> first
      | exact absurd ht hpanel
      | exact absurd ht hwhole
      | simp [Prefill.validMlpSchedule, planFor, buildMlpSchedule, ht, hs, htokens, hfirst, hfinal,
          halign, LayerMajorPrefillMlpScheduleTactic.fixedP40Geometry]

lemma validLayers (finalPosition : ℕ) :
    ∀ i < layerCount, validLayer (planFor cfg options finalPosition) i = true := by
  intro i hi
  have hlayer : (planFor cfg options finalPosition).layer i =
      ⟨i, layerTypeForIndex i, progressDomainForType (layerTypeForIndex i),
        panelCountFor options.mlpScheduleTactic options.promptTokenCount⟩ := by
    simp [PrefillExecutionPlan.layer, planFor, buildLayers, List.getD_eq_getElem?_getD, hi]
  rw [validLayer, hlayer]
  exact decide_eq_true rfl

lemma planFor_tactic : (planFor cfg options finalPosition).tactic = options.mlpScheduleTactic := by
  simp only [PrefillExecutionPlan.tactic, planFor, buildMlpSchedule]
  split_ifs <;> rfl

lemma validSchedules (h : Admitted cfg options finalPosition) :
    validWholeCoreSchedule cfg (planFor cfg options finalPosition) = true ∧
      validProjectionResetSchedule cfg (planFor cfg options finalPosition) = true ∧
      validPackedProjectionSchedule cfg (planFor cfg options finalPosition) = true ∧
      validPackedNvfp4V2Schedule cfg (planFor cfg options finalPosition) = true ∧
      validVllmMarlinParitySchedule cfg (planFor cfg options finalPosition) = true := by
  have htactic : (planFor cfg options finalPosition).tactic = _ := planFor_tactic
  refine ⟨?_, ?_, ?_, ?_, ?_⟩
  · rw [validWholeCoreSchedule, htactic]
    split_ifs with ht
    · exact decide_eq_true (if_neg ht)
    · rw [not_not] at ht
      have hw := h.wholeCore ht
      have hfirst := h.first_eq (by rw [ht]; decide)
      have hfinal := h.final_eq (by rw [ht]; decide)
      simp [planFor, buildWholeCoreSchedule, ht, hw, hfirst, hfinal, panelCountFor,
        LayerMajorPrefillMlpScheduleTactic.fixedP40Geometry]
  · rw [validProjectionResetSchedule, htactic]
    split_ifs with ht
    · exact decide_eq_true (if_neg ht)
    · rw [not_not] at ht
      rw [h.exactP40Prompt (by rw [ht]; rfl) (by rw [ht]; decide) (by rw [ht]; decide)]
      exact decide_eq_true (if_pos ht)
  · rw [validPackedProjectionSchedule, htactic]
    split_ifs with ht
    · exact decide_eq_true (if_neg ht)
    · rw [not_not] at ht
      rw [h.exactP40Prompt (by rw [ht]; rfl) (by rw [ht]; decide) (by rw [ht]; decide)]
      exact decide_eq_true (if_pos ht)
  · rw [validPackedNvfp4V2Schedule, htactic]
    split_ifs with ht
    · exact decide_eq_true (if_neg ht)
    · rw [not_not] at ht
      rw [h.exactP40Prompt (by rw [ht]; rfl) (by rw [ht]; decide) (by rw [ht]; decide)]
      exact decide_eq_true (if_pos ht)
  · rw [validVllmMarlinParitySchedule, htactic]
    split_ifs with ht
    · exact decide_eq_true (if_neg ht)
    · rw [not_not] at ht
      rw [h.exactP40Prompt (by rw [ht]; rfl) (by rw [ht]; decide) (by rw [ht]; decide)]
      exact decide_eq_true (if_pos ht)

lemma panelCount_le (h : Admitted cfg options finalPosition) :
    panelCountFor options.mlpScheduleTactic options.promptTokenCount ≤ maximumPanelCount := by
  have hle : options.promptTokenCount ≤ maximumSequenceTokens := by
    have hfinal := h.final
    have hbound := h.bounded
    omega
  unfold panelCountFor
  split_ifs with hfixed
  · have hfits := h.fits
    have hfinal := h.final
    have hcap : promptWideP40RequestCapacityTokens cfg ≤ 44095 := by
      unfold promptWideP40RequestCapacityTokens wholeCoreCompiledSequenceCapacity
      split_ifs <;> omega
    rw [h.capacity hfixed] at hfits
    exact (Nat.div_le_div_right (by omega : _ ≤ 44095 + 7999)).trans (by decide)
  · exact Nat.div_le_div_right (by omega)

lemma panelCount_ne_zero (h : Admitted cfg options finalPosition) :
    panelCountFor options.mlpScheduleTactic options.promptTokenCount ≠ 0 := by
  obtain ⟨counts, hpieces⟩ := panelPieces_exists options.mlpScheduleTactic options.promptTokenCount
  rw [← hpieces.count]
  intro hz
  have htotal := hpieces.total
  rw [List.length_eq_zero_iff.mp hz] at htotal
  exact h.nonempty htotal.symm

lemma validPlanTopology (h : Admitted cfg options finalPosition) :
    validPlanTopology cfg (planFor cfg options finalPosition) = true := by
  obtain ⟨counts, hpieces⟩ := panelPieces_exists options.mlpScheduleTactic options.promptTokenCount
  have htactic : (planFor cfg options finalPosition).tactic = _ := planFor_tactic
  obtain ⟨hwhole, hreset, hpacked, hv2, hparity⟩ := h.validSchedules
  have hfinal := h.final
  have hbound := h.bounded
  have hnonempty := h.nonempty
  have hpanels : validPanels (planFor cfg options finalPosition)
      (panelCountFor options.mlpScheduleTactic options.promptTokenCount) 0 options.firstPosition
      options.promptTokenCount = true := by
    refine validPanels_of_panelsFrom (htactic ▸ hpieces.taken) hpieces.count hpieces.positive ?_
      hfinal
    rw [List.drop_zero]
    exact congrArg Prod.fst (buildPanels_eq hpieces.taken hpieces.count 0 options.firstPosition)
  simp only [Prefill.validPlanTopology, Bool.and_eq_true, decide_eq_true_eq, Bool.not_eq_true',
    List.all_eq_true, List.mem_range]
  refine ⟨⟨⟨⟨⟨⟨⟨⟨⟨⟨⟨⟨rfl, rfl, h.nonempty, h.panelCount_ne_zero, h.panelCount_le, ?_, ?_, hbound,
    ?_, rfl, rfl, rfl⟩, rfl⟩, h.validMlpSchedule⟩, hwhole⟩, hreset⟩, hpacked⟩, hv2⟩, hparity⟩, ?_⟩,
    hpanels⟩, validLayers finalPosition⟩, ?_⟩
  · change options.promptTokenCount ≤ _
    omega
  · change options.firstPosition < finalPosition
    omega
  · change finalPosition - options.firstPosition = options.promptTokenCount
    omega
  · rw [htactic]
    rfl
  · decide

end Admitted

lemma build_cases {cfg : BuildConfig} {options : PrefillExecutionPlanOptions}
    {result : Except PrefillExecutionPlanError PrefillExecutionPlan}
    (h : buildUnboundLayerMajorPrefillExecutionPlan cfg options = result) :
    result = .error .invalidArgument ∨ result = .error .arithmeticOverflow ∨
      result = .error .capacityExceeded ∨
      ∃ finalPosition, Admitted cfg options finalPosition ∧
        result = .ok (planFor cfg options finalPosition) := by
  simp only [buildUnboundLayerMajorPrefillExecutionPlan] at h
  by_cases hargs : options.promptTokenCount = 0 ∨ options.maxSequenceLength = 0 ∨
      maximumSequenceTokens < options.maxSequenceLength ∨
      supportedMlpScheduleTactic cfg options.mlpScheduleTactic = false
  · rw [if_pos hargs] at h
    exact .inl h.symm
  rw [if_neg hargs] at h
  by_cases hprompt : rejectedTacticPrompt cfg options = true
  · rw [if_pos hprompt] at h
    exact .inl h.symm
  rw [if_neg hprompt] at h
  by_cases hcapacity : options.mlpScheduleTactic.fixedP40Geometry = true ∧
      options.maxSequenceLength ≠ promptWideP40RequestCapacityTokens cfg
  · rw [if_pos hcapacity] at h
    exact .inl h.symm
  rw [if_neg hcapacity] at h
  push Not at hargs hcapacity
  cases hadd : checkedAdd options.firstPosition options.promptTokenCount with
  | none =>
    rw [hadd] at h
    exact .inr (.inl h.symm)
  | some finalPosition =>
    simp only [hadd] at h
    by_cases hfits : options.maxSequenceLength < finalPosition ∨
        maximumSequenceTokens < finalPosition
    · rw [if_pos hfits] at h
      exact .inr (.inr (.inl h.symm))
    rw [if_neg hfits] at h
    push Not at hfits
    have hsum : finalPosition = options.firstPosition + options.promptTokenCount := by
      simp only [checkedAdd, Option.ite_none_left_eq_some, Option.some.injEq] at hadd
      exact hadd.2.symm
    have hadmitted : Admitted cfg options finalPosition :=
      { nonempty := hargs.1
        supported := by simpa using hargs.2.2.2
        prompt := by simpa using hprompt
        capacity := hcapacity
        final := hsum
        fits := hfits.1
        bounded := hfits.2 }
    obtain ⟨counts, hpieces⟩ :=
      panelPieces_exists options.mlpScheduleTactic options.promptTokenCount
    have hbuilt := buildPanels_eq hpieces.taken hpieces.count 0 options.firstPosition
    rw [if_neg (not_or.mpr ⟨hadmitted.panelCount_ne_zero, hadmitted.panelCount_le.not_gt⟩),
      if_neg (by rw [hbuilt, hadmitted.validPlanTopology]; simp [hsum])] at h
    exact .inr (.inr (.inr ⟨finalPosition, hadmitted, h.symm⟩))

structure Partitioned (next : ℕ → ℕ) (cap n : ℕ) (counts : List ℕ) : Prop where
  taken : ∀ fuel, (n + cap - 1) / cap ≤ fuel → cut next fuel n = some counts
  pieces : BalancedPieces cap n counts

lemma partitioned_balanced {cap : ℕ} (hc : 0 < cap) (n : ℕ) :
    ∃ counts, Partitioned (balanced cap) cap n counts := by
  obtain ⟨counts, hcut, hpieces⟩ := cut_balanced hc (n := n) le_rfl
  exact ⟨counts, fun _ hf => cut_mono hcut hf, hpieces⟩

-- The panels of a plan: `8000` tokens each with the remainder last, or the balanced cut.
def PanelsPartition (plan : PrefillExecutionPlan) (n : ℕ) : Prop :=
  ∃ counts, plan.panels = panelsFrom 0 plan.firstPosition counts ∧
    plan.panelCount = counts.length ∧
    if plan.tactic.fixedP40Geometry then
      counts = cappedPieces promptWideP40PanelTokens n ∧
        counts.length = (n + promptWideP40PanelTokens - 1) / promptWideP40PanelTokens
    else Partitioned nextLayerMajorPrefillOperatorPanelTokenCount operatorPanelTokens n counts

lemma planFor_panels (cfg : BuildConfig) (options : PrefillExecutionPlanOptions)
    (finalPosition : ℕ) :
    PanelsPartition (planFor cfg options finalPosition) options.promptTokenCount := by
  obtain ⟨counts, hpieces⟩ := panelPieces_exists options.mlpScheduleTactic options.promptTokenCount
  refine ⟨counts, ?_, hpieces.count.symm, ?_⟩
  · exact congrArg Prod.fst (buildPanels_eq hpieces.taken hpieces.count 0 options.firstPosition)
  have hshape := hpieces.shape
  rw [Admitted.planFor_tactic]
  split_ifs at hshape ⊢ with hfixed
  · refine ⟨hshape, ?_⟩
    rw [hshape]
    exact cappedPieces_length (by decide) _
  · obtain ⟨counts', hpart⟩ := partitioned_balanced
      (show 0 < operatorPanelTokens by decide) options.promptTokenCount
    have hnext : panelTokenCountFor options.mlpScheduleTactic = balanced operatorPanelTokens := by
      funext r
      rw [panelTokenCountFor, if_neg hfixed]
      rfl
    have hsame : counts = counts' := by
      have htaken := hpieces.taken
      rw [hnext, hpart.taken _ (by rw [← hshape.count, hpieces.count])] at htaken
      exact (Option.some.inj htaken).symm
    exact hsame ▸ hpart

theorem prefill_schedules_partition (cfg : BuildConfig) :
    (∀ n, ∃ counts, Partitioned nextLayerMajorPrefillOperatorPanelTokenCount operatorPanelTokens n
      counts) ∧
    (∀ n, ∃ counts, Partitioned nextLayerMajorPrefillPhysicalSegmentTokenCount
      prefillPhysicalSegmentMaximumTokens n counts) ∧
    (∀ options plan, buildUnboundLayerMajorPrefillExecutionPlan cfg options = .ok plan →
      plan.firstPosition = options.firstPosition ∧
        plan.tactic = options.mlpScheduleTactic ∧
        PanelsPartition plan options.promptTokenCount) ∧
    (∀ options, buildUnboundLayerMajorPrefillExecutionPlan cfg options ≠
      .error .invalidTopology) ∧
    (∀ n, n ≠ 0 → n ≤ operatorPanelTokens → ∃ counts,
      Partitioned nextLayerMajorPrefillPhysicalSegmentTokenCount
        prefillPhysicalSegmentMaximumTokens n counts ∧
      counts.length ≤ maximumArithmeticSpanCount ∧
      (makeLayerMajorPrefillArithmeticSpanLedger n).tokenCount = n ∧
      (makeLayerMajorPrefillArithmeticSpanLedger n).spanCount = counts.length ∧
      (makeLayerMajorPrefillArithmeticSpanLedger n).active = spansFrom 0 counts ∧
      isValidLayerMajorPrefillArithmeticSpanLedger
        (makeLayerMajorPrefillArithmeticSpanLedger n) = true) ∧
    ∀ ledger, isValidLayerMajorPrefillArithmeticSpanLedger ledger = true →
      ∃ counts, Partitioned nextLayerMajorPrefillPhysicalSegmentTokenCount
          prefillPhysicalSegmentMaximumTokens ledger.tokenCount counts ∧
        ledger.spanCount = counts.length ∧ ledger.active = spansFrom 0 counts ∧
        ledger.spanCount = (makeLayerMajorPrefillArithmeticSpanLedger ledger.tokenCount).spanCount ∧
        ledger.active = (makeLayerMajorPrefillArithmeticSpanLedger ledger.tokenCount).active := by
  have hledger : ∀ n, n ≠ 0 → n ≤ operatorPanelTokens → ∃ counts,
      Partitioned nextLayerMajorPrefillPhysicalSegmentTokenCount
        prefillPhysicalSegmentMaximumTokens n counts ∧
      counts.length ≤ maximumArithmeticSpanCount ∧
      (makeLayerMajorPrefillArithmeticSpanLedger n).tokenCount = n ∧
      (makeLayerMajorPrefillArithmeticSpanLedger n).spanCount = counts.length ∧
      (makeLayerMajorPrefillArithmeticSpanLedger n).active = spansFrom 0 counts := by
    intro n hpos hn
    obtain ⟨counts, hcut, hpieces⟩ := segments_cut hn
    have hpart : Partitioned nextLayerMajorPrefillPhysicalSegmentTokenCount
        prefillPhysicalSegmentMaximumTokens n counts :=
      ⟨fun fuel hf => cut_mono (cut_exact hcut) (hpieces.count ▸ hf), hpieces⟩
    exact ⟨counts, hpart, cut_length_le hcut, makeLedger_spec hpos hn hcut⟩
  refine ⟨partitioned_balanced (by decide), partitioned_balanced (by decide), ?_, ?_, ?_, ?_⟩
  · intro options plan h
    obtain ⟨finalPosition, -, -, rfl, -⟩ := build_ok h
    exact ⟨rfl, Admitted.planFor_tactic, planFor_panels cfg options finalPosition⟩
  · intro options h
    obtain he | he | he | ⟨_, _, he⟩ := build_cases h <;> cases he
  · intro n hpos hn
    obtain ⟨counts, hpart, hlen, htokens, hcount, hactive⟩ := hledger n hpos hn
    refine ⟨counts, hpart, hlen, htokens, hcount, hactive, (isValidLedger_iff _).mpr ?_⟩
    rw [htokens]
    exact ⟨hpos, hn, rfl, rfl⟩
  · intro ledger hvalid
    obtain ⟨hpos, hn, hcount, hactive⟩ := (isValidLedger_iff ledger).mp hvalid
    obtain ⟨counts, hpart, -, -, hmade, hspans⟩ := hledger _ hpos hn
    exact ⟨counts, hpart, hcount.trans hmade, hactive.trans hspans, hcount, hactive⟩

theorem balanced_prompt_partition :
    ∃ plan, buildUnboundLayerMajorPrefillExecutionPlan {} { promptTokenCount := 10000 } =
        .ok plan ∧ PanelsPartition plan 10000 := by
  have hbuilt : buildUnboundLayerMajorPrefillExecutionPlan {} { promptTokenCount := 10000 } =
      .ok (planFor {} { promptTokenCount := 10000 } 10000) := by rfl
  exact ⟨_, hbuilt, ((prefill_schedules_partition {}).2.2.1 _ _ hbuilt).2.2⟩

end Qwen3xOrin.Prefill
