import Qwen3xOrin.Generation.PrefillPhase

/-! Admission, and what either prefill mode leaves behind once it has been admitted. -/

namespace Qwen3xOrin.Generation

open Prefill Library

variable {σ F : Type}

structure Admitted (promptTokenIds : List ℕ) (options : GenerationControlOptions σ F) : Prop where
  prompt : promptTokenIds ≠ []
  maxNewTokens : 0 < options.maxNewTokens
  chunk : 0 < options.prefillChunkSize
  stopToken : options.stopTokenId < referenceVocabularySize
  capacity : promptTokenIds.length + options.maxNewTokens - 1 ≤ options.maxSequenceLength
  allPrompt : options.prefillWholeRequestLayerMajor = true → options.prefillAllPromptTokens = true

structure WholeRequestPlan (promptTokenIds : List ℕ) (plan : PrefillExecutionPlan) : Prop where
  topology : Topology plan
  firstPosition : plan.firstPosition = 0
  finalPosition : plan.finalPosition = promptTokenIds.length

def AdmittedPlan (promptTokenIds : List ℕ) (options : GenerationControlOptions σ F) : Option PrefillExecutionPlan → Prop
  | none => options.prefillWholeRequestLayerMajor = false
  | some plan => options.prefillWholeRequestLayerMajor = true ∧
      WholeRequestPlan promptTokenIds plan

def PrefillCalls (cfg : BuildConfig) (promptTokenIds : List ℕ)
    (options : GenerationControlOptions σ F) (calls : List Call) :
    Option PrefillExecutionPlan → Prop
  | none => ∃ executions, calls = executions ++
        [.finishPrefill (promptTokenIds.length - 1) (promptTokenIds.getLastD 0)] ∧
      executions.length = legacyExecutionCount promptTokenIds options ∧
      executions.flatMap Call.prefixTokens = prefixTokens promptTokenIds options ∧
      ∀ call ∈ executions, call.isPrefixExecution = true
  | some plan => ∃ progress, calls = [.wholeRequest plan promptTokenIds,
        .finishPrefill (promptTokenIds.length - 1) (promptTokenIds.getLastD 0),
        .commitWholeRequest plan progress] ∧
      completeUncommittedWholeRequestPrefillProgress cfg plan progress = true

lemma wholeRequestTopology_ok {cfg : BuildConfig} {promptTokenIds : List ℕ}
    {options : GenerationControlOptions σ F} {plan : PrefillExecutionPlan}
    (h : wholeRequestTopology cfg promptTokenIds options = .ok plan) :
    WholeRequestPlan promptTokenIds plan := by
  unfold wholeRequestTopology at h
  split at h
  · cases h
  · rename_i built hbuilt
    split_ifs at h
    · cases h
    · obtain rfl := Except.ok.inj h
      obtain ⟨final, hadd, -, rfl, hvalid⟩ := build_ok hbuilt
      have htop := topology_of_valid hvalid
      refine ⟨htop, rfl, ?_⟩
      have hspan := htop.span
      simpa [planFor] using hspan

lemma admission_ok {cfg : BuildConfig} {promptTokenIds : List ℕ}
    {options : GenerationControlOptions σ F} {prefillPlan : PrefillPlan σ F}
    {decodePlan : DecodePlan σ F} {topology : Option PrefillExecutionPlan}
    (h : admission cfg promptTokenIds options prefillPlan decodePlan = .ok topology) :
    Admitted promptTokenIds options ∧ AdmittedPlan promptTokenIds options topology := by
  simp only [admission, fail, guard_ok] at h
  obtain ⟨hargs, -, h⟩ := h
  cases hsteps : checkedRequiredSteps promptTokenIds.length options.maxNewTokens with
  | none => simp [hsteps] at h
  | some requiredSteps =>
    simp only [hsteps, guard_ok] at h
    obtain ⟨hcapacity, h⟩ := h
    have hrequired : requiredSteps = promptTokenIds.length + (options.maxNewTokens - 1) := by
      simp only [checkedRequiredSteps, checkedAdd] at hsteps
      split_ifs at hsteps
      exact (Option.some_inj.mp hsteps).symm
    simp only [invalidArguments, Bool.or_eq_true, not_or, decide_eq_true_eq] at hargs
    obtain ⟨⟨⟨⟨⟨⟨⟨⟨hbase, -⟩, -⟩, -⟩, hchunk⟩, -⟩, hwhole⟩, -⟩, -⟩ := hargs
    refine ⟨⟨hbase.1, Nat.pos_of_ne_zero hbase.2.1, Nat.pos_of_ne_zero hchunk.1, by omega,
      by omega, ?_⟩, ?_⟩
    · intro hw
      by_contra hall
      exact hwhole (by simp [invalidWholeRequestPrefill, hw, hall])
    · rw [admitWholeRequest] at h
      split_ifs at h with hw
      · cases hplan : wholeRequestTopology cfg promptTokenIds options with
        | error stop =>
          rw [hplan] at h
          cases h
        | ok plan =>
          rw [hplan] at h
          obtain rfl := Except.ok.inj h
          exact ⟨hw, wholeRequestTopology_ok hplan⟩
      · obtain rfl := Except.ok.inj h
        exact Bool.eq_false_iff.mpr hw

lemma Admitted.effectiveChunk_pos {promptTokenIds : List ℕ}
    {options : GenerationControlOptions σ F} (h : Admitted promptTokenIds options) :
    0 < effectivePrefillChunkSize options := by
  unfold effectivePrefillChunkSize
  split_ifs
  · exact Nat.one_pos
  · exact h.chunk

lemma with_calls {α : Type} {pre : World σ → Prop} {m : ControlM σ α}
    {post : α → World σ → Prop} {stopped : World σ → Prop}
    (h : ∀ world, pre world → Triple (Logged world.calls) m post stopped) :
    Triple pre m post stopped :=
  fun world hworld => h world hworld world rfl

variable [FloatingPoint F]

lemma legacyPrefill_spec {cfg : BuildConfig} {promptTokenIds : List ℕ}
    {options : GenerationControlOptions σ F} (prefillPlan : PrefillPlan σ F) {bound : ℕ}
    (hadmitted : Admitted promptTokenIds options) (hbound : promptTokenIds.length ≤ bound) :
    Triple (Logged []) (legacyPrefill promptTokenIds options prefillPlan)
      (fun r world => Within bound world.calls ∧
        PrefillCalls cfg promptTokenIds options world.calls none ∧
        Prefilled promptTokenIds options.logitsMode r.1 r.2)
      (StoppedWithin bound) := by
  have hlen : (prefixTokens promptTokenIds options).length ≤ bound := by
    unfold prefixTokens
    split_ifs
    · exact hbound
    · rw [List.length_dropLast]
      omega
  refine Triple.bind (legacyPrefix_spec prefillPlan hadmitted.effectiveChunk_pos hlen rfl) fun control => ?_
  refine with_calls fun before hrun => ?_
  have hwithin := hrun.within (by simp [Within]) (by simpa using hlen)
  obtain ⟨executions, hcalls, hcount, htokens, hexecuted⟩ := hrun.recorded
  rw [hcalls, List.nil_append] at hwithin ⊢
  refine Triple.bind (required_spec hwithin) fun finishPrefill => ?_
  refine Triple.assume fun _ => ?_
  refine (finishPrefillStep_spec finishPrefill .escaped hadmitted.prompt hbound hwithin
    hrun.transcript hrun.generated hrun.stopReason).conseq (fun _ h => h) ?_ fun _ h => h
  rintro ⟨control, predicted⟩ world ⟨hworld, hprefilled⟩
  rw [show world.calls = _ from hworld]
  refine ⟨hwithin.append (Within.single ?_),
    ⟨executions, rfl, hcount, htokens, fun call hc => (hexecuted call hc).1⟩, hprefilled⟩
  have hpos := List.length_pos_iff.mpr hadmitted.prompt
  simp only [Call.endPosition]
  omega

lemma wholePrefill_spec {cfg : BuildConfig} {plan : PrefillExecutionPlan}
    {promptTokenIds : List ℕ} {options : GenerationControlOptions σ F}
    (prefillPlan : PrefillPlan σ F) {bound : ℕ} (hadmitted : Admitted promptTokenIds options)
    (hbound : promptTokenIds.length ≤ bound) (hall : options.prefillAllPromptTokens = true)
    (hplan : WholeRequestPlan promptTokenIds plan) :
    Triple (Logged []) (wholePrefill cfg plan promptTokenIds options prefillPlan)
      (fun r world => Within bound world.calls ∧
        PrefillCalls cfg promptTokenIds options world.calls (some plan) ∧
        Prefilled promptTokenIds options.logitsMode r.1 r.2)
      (StoppedWithin bound) := by
  have hnil : Within bound [] := by simp [Within]
  have hpos := List.length_pos_iff.mpr hadmitted.prompt
  have hfinal : plan.finalPosition ≤ bound := hplan.finalPosition ▸ hbound
  have hwhole : Within bound [.wholeRequest plan promptTokenIds] := Within.single hfinal
  have hfinish : Within bound [.wholeRequest plan promptTokenIds,
      .finishPrefill (promptTokenIds.length - 1) (promptTokenIds.getLastD 0)] :=
    hwhole.append (Within.single (by simp only [Call.endPosition]; omega))
  refine Triple.bind (required_spec hnil) fun wholeRequest => Triple.assume fun _ => ?_
  refine Triple.bind (required_spec hnil) fun finish => Triple.assume fun _ => ?_
  refine Triple.bind (required_spec hnil) fun commit => Triple.assume fun _ => ?_
  refine Triple.bind (wholeRequestPrefill_spec hplan.topology hplan.firstPosition
    hplan.finalPosition hbound wholeRequest rfl) ?_
  rintro ⟨control, progress⟩
  refine Triple.assume ?_
  rintro ⟨hsteps, hgenerated, hstop, hprogress⟩
  have hexecuted : Transcript (prefixTokens promptTokenIds options) control.steps := by
    rwa [prefixTokens, if_pos hall]
  refine Triple.bind (finishPrefillStep_spec finish _ hadmitted.prompt hbound hwhole hexecuted
    hgenerated hstop) ?_
  rintro ⟨finished, predicted⟩
  refine Triple.assume fun hprefilled => ?_
  refine Triple.bind (commitWholeRequestPrefill_spec commit hfinish hfinal) fun committed => ?_
  refine Triple.assume ?_
  rintro ⟨timing, rfl⟩
  refine Triple.ret fun world hworld => ?_
  rw [show world.calls = _ from hworld]
  refine ⟨hfinish.append (Within.single hfinal), ⟨progress, rfl, hprogress⟩, ?_⟩
  exact { hprefilled with }

end Qwen3xOrin.Generation
