import Qwen3xOrin.Generation.Alike

/-! The prefill chunk size is invisible in the generation. -/

namespace Qwen3xOrin.Generation

open Prefill Library FloatingPoint

variable {σ F : Type}

def withChunkSize (options : GenerationControlOptions σ F) (chunk : ℕ) :
    GenerationControlOptions σ F :=
  { options with prefillChunkSize := chunk }

def TiledRunner (options : GenerationControlOptions σ F) (prefillPlan : PrefillPlan σ F) : Prop :=
  ∃ prefixStep prefixTile retained, prefillPlan.prefixStep = some prefixStep ∧
    prefillPlan.prefixTile = some prefixTile ∧ TileFolds options prefixStep prefixTile retained

structure TimedRunner (Reported : F → Prop) (prefillPlan : PrefillPlan σ F)
    (decodePlan : DecodePlan σ F) : Prop where
  prefixStep : ∀ f ∈ prefillPlan.prefixStep, Timed Reported f
  prefixTile : ∀ f ∈ prefillPlan.prefixTile, TimedTile Reported f
  finishPrefill : ∀ f ∈ prefillPlan.finishPrefill, Timed Reported f
  finishPrefillFromTile : ∀ f ∈ prefillPlan.finishPrefillFromTile, Timed Reported f
  decodeStep : ∀ f ∈ decodePlan.decodeStep, Timed Reported f

def Call.fed : Call → List ℕ
  | .prefixStep _ token | .finishPrefill _ token | .decodeStep _ token => [token]
  | .prefixTile _ tokens _ | .wholeRequest _ tokens => tokens
  | .commitWholeRequest _ _ | .committedToken _ _ | .round _ => []

def expectedPrefixExecutions (promptTokenIds : List ℕ) (options : GenerationControlOptions σ F) :
    ℕ :=
  if options.prefillWholeRequestLayerMajor then 1 else legacyExecutionCount promptTokenIds options

def prefixExecutionsPerformed (calls : List Call) : ℕ :=
  (calls.filter Call.isPrefixExecution).length

section

variable {cfg : BuildConfig} {promptTokenIds : List ℕ} {options : GenerationControlOptions σ F}
  {prefillPlan : PrefillPlan σ F} {decodePlan : DecodePlan σ F} {chunk : ℕ}
  {topology : Option PrefillExecutionPlan}

lemma admission_topology (h : admission cfg promptTokenIds options prefillPlan decodePlan = .ok topology) :
    admitWholeRequest cfg promptTokenIds options = .ok topology := by
  simp only [admission, fail, guard_ok] at h
  obtain ⟨-, -, h⟩ := h
  cases hsteps : checkedRequiredSteps promptTokenIds.length options.maxNewTokens with
  | none => simp [hsteps] at h
  | some requiredSteps =>
    simp only [hsteps, guard_ok] at h
    exact h.2

lemma admission_scalar (h : admission cfg promptTokenIds options prefillPlan decodePlan = .ok topology)
    (hlegacy : options.prefillWholeRequestLayerMajor = false)
    (hscalar : effectivePrefillChunkSize options ≤ 1) : options.prefillAllPromptTokens = false := by
  simp only [admission, fail, guard_ok] at h
  obtain ⟨hargs, -⟩ := h
  simp only [invalidArguments, Bool.or_eq_true, not_or] at hargs
  have hadmission := hargs.2
  by_contra hall
  rw [Bool.not_eq_false] at hall
  apply hadmission
  unfold effectivePrefillChunkSize at hscalar
  simp only [invalidLegacyAllPromptAdmission, hall, hlegacy]
  split_ifs at hscalar with htrace
  · simp [htrace]
  · simp [hscalar]

lemma decodeCalls_fed (observed : Bool) (promptLength : ℕ) (generated : List ℕ) :
    (decodeCalls observed promptLength generated).flatMap Call.fed = generated.dropLast := by
  induction generated using List.reverseRecOn with
  | nil => rfl
  | append_singleton generated token ih =>
    rw [decodeCalls_append, List.flatMap_append, List.flatMap_append, ih, List.dropLast_concat]
    have hquiet : (observerCalls observed token generated.length).flatMap Call.fed = [] := by
      cases observed <;> rfl
    rw [hquiet, List.append_nil]
    rcases List.eq_nil_or_concat' generated with rfl | ⟨front, last, rfl⟩
    · rfl
    · simp [Call.fed]

lemma decodeCalls_performed (observed : Bool) (promptLength : ℕ) (generated : List ℕ) :
    (decodeCalls observed promptLength generated).filter Call.isPrefixExecution = [] := by
  rw [List.filter_eq_nil_iff]
  intro call hcall
  obtain ⟨j, -, hcall⟩ := List.mem_flatMap.mp hcall
  rcases List.mem_append.mp hcall with hstep | hobserver
  · split_ifs at hstep with hj
    · cases hstep
    · rw [List.mem_singleton.mp hstep]
      simp [Call.isPrefixExecution]
  · cases observed
    · cases hobserver
    · rw [List.mem_singleton.mp hobserver]
      simp [Call.isPrefixExecution]

lemma fed_of_prefixExecution {executions : List Call}
    (h : ∀ call ∈ executions, call.isPrefixExecution = true) :
    executions.flatMap Call.fed = executions.flatMap Call.prefixTokens := by
  refine List.flatMap_congr fun call hcall => ?_
  have hp := h call hcall
  cases call <;> first | rfl | cases hp

lemma PrefillCalls.fed {calls : List Call} (hadmitted : Admitted promptTokenIds options)
    (hplan : AdmittedPlan promptTokenIds options topology)
    (h : PrefillCalls cfg promptTokenIds options calls topology) :
    calls.flatMap Call.fed = prefixTokens promptTokenIds options ++ [promptTokenIds.getLastD 0] := by
  cases topology with
  | none =>
    obtain ⟨executions, rfl, -, htokens, hexecuted⟩ := h
    rw [List.flatMap_append, fed_of_prefixExecution hexecuted, htokens]
    rfl
  | some plan =>
    obtain ⟨progress, rfl, -⟩ := h
    rw [prefixTokens, if_pos (hadmitted.allPrompt hplan.1)]
    simp [Call.fed]

lemma PrefillCalls.performed {calls : List Call}
    (hplan : AdmittedPlan promptTokenIds options topology)
    (h : PrefillCalls cfg promptTokenIds options calls topology) :
    (calls.filter Call.isPrefixExecution).length =
      expectedPrefixExecutions promptTokenIds options := by
  cases topology with
  | none =>
    obtain ⟨executions, rfl, hcount, -, hexecuted⟩ := h
    rw [List.filter_append, List.filter_eq_self.mpr hexecuted, expectedPrefixExecutions,
      if_neg (by simp [show options.prefillWholeRequestLayerMajor = false from hplan]), ← hcount]
    simp [Call.isPrefixExecution]
  | some plan =>
    obtain ⟨progress, rfl, -⟩ := h
    rw [expectedPrefixExecutions, if_pos hplan.1]
    rfl

end

variable [FloatingPoint F]

section

variable {cfg : BuildConfig} {promptTokenIds : List ℕ} {options : GenerationControlOptions σ F}
  {prefillPlan : PrefillPlan σ F} {decodePlan : DecodePlan σ F} {chunk first second : ℕ}
  {Reported : F → Prop} {strict : Prop}

lemma legacyPrefix_fold {prefixStep : StepFunction σ F} {prefixTile : PrefillTileFunction σ F}
    {retained : σ → σ} (hstep : prefillPlan.prefixStep = some prefixStep)
    (htile : prefillPlan.prefixTile = some prefixTile)
    (hfolds : TileFolds options prefixStep prefixTile retained)
    (hclock : strict → SteadyClock Reported)
    (htimed : strict → TimedRunner Reported prefillPlan decodePlan)
    (hprompt : promptTokenIds ≠ [])
    (hscalar : effectivePrefillChunkSize (withChunkSize options chunk) ≤ 1 →
      options.prefillAllPromptTokens = false)
    {control : GenerationControl F} (hcontrol : control.steps = [])
    (hsteady : strict → FiniteTotals control) {context : σ} :
    Triple (At context)
      (legacyPrefix promptTokenIds (withChunkSize options chunk) prefillPlan control)
      (fun after world => ∃ steps context',
        acceptedFold prefixStep (phaseOptions options false) 0 context
          (prefixTokens promptTokenIds options) = some (steps, context') ∧
        world.context = (if options.prefillAllPromptTokens = true then retained context'
          else context') ∧ FoldedPrefix strict control steps after)
      (fun _ => strict → acceptedFold prefixStep (phaseOptions options false) 0 context
          (prefixTokens promptTokenIds options) = none) := by
  have hzero : control.steps.length = 0 := by rw [hcontrol, List.length_nil]
  unfold legacyPrefix
  dsimp only
  by_cases htiles : 1 < effectivePrefillChunkSize (withChunkSize options chunk)
  · rw [if_pos htiles, htile]
    have hrun := @prefixTiles_fold _ _ _ _ strict (withChunkSize options chunk) control _ _ _ hfolds
      hclock (fun hs => (htimed hs).prefixTile _ htile) _ (Nat.lt_of_succ_lt htiles) _
      _ (le_refl (prefixTokens promptTokenIds (withChunkSize options chunk)).length) context hsteady
    rw [hzero] at hrun
    refine hrun.conseq (fun _ h => h) ?_ fun _ h => h
    rintro after world ⟨steps, context', hfold, hcontext, hafter⟩
    refine ⟨steps, context', hfold, hcontext.trans ?_, hafter⟩
    have hall : options.prefillAllPromptTokens = true →
        prefixTokens promptTokenIds (withChunkSize options chunk) ≠ [] := by
      intro hall
      rwa [prefixTokens, if_pos (by exact hall)]
    by_cases hmode : options.prefillAllPromptTokens = true
    · rw [if_pos ⟨hmode, hall hmode⟩, if_pos hmode]
    · rw [if_neg (fun h => hmode h.1), if_neg hmode]
  · rw [if_neg htiles, hstep]
    have hrun := @prefixSteps_fold _ _ _ _ strict (withChunkSize options chunk) control _ hclock
      (fun hs => (htimed hs).prefixStep _ hstep)
      (prefixTokens promptTokenIds (withChunkSize options chunk)) context hsteady
    rw [hzero] at hrun
    refine hrun.conseq (fun _ h => h) ?_ fun _ h => h
    rintro after world ⟨steps, hfold, hafter⟩
    refine ⟨steps, world.context, hfold, ?_, hafter⟩
    rw [if_neg (by simp [hscalar (by omega)])]

lemma legacyPrefix_coupled (hrunner : TiledRunner options prefillPlan)
    (hclock : strict → SteadyClock Reported)
    (htimed : strict → TimedRunner Reported prefillPlan decodePlan)
    (hprompt : promptTokenIds ≠ [])
    (hfirst : effectivePrefillChunkSize (withChunkSize options first) ≤ 1 →
      options.prefillAllPromptTokens = false)
    (hsecond : effectivePrefillChunkSize (withChunkSize options second) ≤ 1 →
      options.prefillAllPromptTokens = false) (panels panels' : ℕ) :
    Coupled strict SameContext
      (legacyPrefix promptTokenIds (withChunkSize options first) prefillPlan
        (initialControl .legacyC512Tiled panels panels))
      (legacyPrefix promptTokenIds (withChunkSize options second) prefillPlan
        (initialControl .legacyC512Tiled panels' panels'))
      (fun a b s t => SameContext s t ∧ Alike strict a b) := by
  obtain ⟨prefixStep, prefixTile, retained, hstep, htile, hfolds⟩ := hrunner
  intro s t hst
  have hfold := fun chunk hscalar panels => @legacyPrefix_fold _ _ _ promptTokenIds options
    prefillPlan decodePlan chunk Reported strict _ _ _ hstep htile hfolds hclock htimed hprompt
    hscalar (initialControl .legacyC512Tiled panels panels) rfl
    (fun hs => ⟨(hclock hs).zero, (hclock hs).zero, (hclock hs).zero⟩) s.context
  refine Coupled.ofTriples (hfold first hfirst panels) (hfold second hsecond panels') ?_ ?_ ?_
    s t ⟨rfl, hst.symm⟩
  · rintro a b s' t' ⟨steps, context, hfold, hcontext, ha⟩ ⟨steps', context', hfold', hcontext', hb⟩
    rw [hfold] at hfold'
    obtain ⟨rfl, rfl⟩ := Prod.mk.inj (Option.some_inj.mp hfold')
    refine ⟨hcontext.trans hcontext'.symm, ⟨?_, ?_, ?_⟩, fun hs => ⟨ha.steady hs, hb.steady hs⟩⟩
    · exact ha.generated.trans hb.generated.symm
    · exact ha.stopReason.trans hb.stopReason.symm
    · exact ha.steps.trans hb.steps.symm
  · rintro hs a s' ⟨steps, context, hfold, -⟩ hstop
    rw [hstop hs] at hfold
    cases hfold
  · rintro hs b t' ⟨steps, context, hfold, -⟩ hstop
    rw [hstop hs] at hfold
    cases hfold

lemma legacyPrefill_coupled (hrunner : TiledRunner options prefillPlan)
    (hclock : strict → SteadyClock Reported)
    (htimed : strict → TimedRunner Reported prefillPlan decodePlan)
    (hprompt : promptTokenIds ≠ [])
    (hfirst : effectivePrefillChunkSize (withChunkSize options first) ≤ 1 →
      options.prefillAllPromptTokens = false)
    (hsecond : effectivePrefillChunkSize (withChunkSize options second) ≤ 1 →
      options.prefillAllPromptTokens = false) :
    Coupled strict SameContext
      (legacyPrefill promptTokenIds (withChunkSize options first) prefillPlan)
      (legacyPrefill promptTokenIds (withChunkSize options second) prefillPlan)
      (fun r r' s t => SameContext s t ∧ Alike strict r.1 r'.1 ∧ r.2 = r'.2) := by
  refine Coupled.bind (legacyPrefix_coupled hrunner hclock htimed hprompt hfirst hsecond _ _)
    fun a b => Coupled.assume fun hab => ?_
  have hfinish : strict → ∀ f ∈ (if options.prefillAllPromptTokens then
      prefillPlan.finishPrefillFromTile else prefillPlan.finishPrefill), Timed Reported f := by
    intro hs f hf
    split_ifs at hf
    · exact (htimed hs).finishPrefillFromTile f hf
    · exact (htimed hs).finishPrefill f hf
  change Coupled strict SameContext
    (required (if options.prefillAllPromptTokens then _ else _) >>= _)
    (required (if options.prefillAllPromptTokens then _ else _) >>= _) _
  cases hcallback : (if options.prefillAllPromptTokens then
      prefillPlan.finishPrefillFromTile else prefillPlan.finishPrefill) with
  | none => exact fun _ _ _ => trivial
  | some finishPrefill =>
    exact finishPrefillStep_coupled hclock (fun hs => hfinish hs finishPrefill hcallback) hab

lemma decodeLoop_withChunkSize (decodeStep : StepFunction σ F) (n : ℕ)
    (control : GenerationControl F) :
    decodeLoop (withChunkSize options chunk) decodeStep n control =
      decodeLoop options decodeStep n control := by
  induction n generalizing control with
  | zero => rfl
  | succ n ih =>
    simp only [decodeLoop, ih]
    rfl

lemma generate_withChunkSize (control : GenerationControl F) (predicted : ℕ) :
    generate (withChunkSize options chunk) decodePlan none control predicted =
      generate options decodePlan none control predicted := by
  simp only [generate, decode, decodeLoop_withChunkSize]
  rfl

lemma runGenerationControl_coupled (hrunner : TiledRunner options prefillPlan)
    (hblind : TimingBlind options) (hclock : strict → SteadyClock Reported)
    (htimed : strict → TimedRunner Reported prefillPlan decodePlan)
    {topology topology' : Option PrefillExecutionPlan}
    (hfirst : admission cfg promptTokenIds (withChunkSize options first) prefillPlan decodePlan =
      .ok topology)
    (hsecond : admission cfg promptTokenIds (withChunkSize options second) prefillPlan decodePlan =
      .ok topology') :
    Coupled strict Eq
      (runGenerationControl cfg promptTokenIds (withChunkSize options first) prefillPlan decodePlan)
      (runGenerationControl cfg promptTokenIds (withChunkSize options second) prefillPlan decodePlan)
      (fun a b _ _ => SameGeneration a b) := by
  have hsame : admitWholeRequest cfg promptTokenIds (withChunkSize options first) =
      admitWholeRequest cfg promptTokenIds (withChunkSize options second) := rfl
  rw [admission_topology hfirst, admission_topology hsecond] at hsame
  obtain rfl := Except.ok.inj hsame
  obtain ⟨hadmitted, hplan⟩ := admission_ok hfirst
  have hlift : (lift (.ok topology) : ControlM σ _) = pure topology := rfl
  simp only [runGenerationControl, hfirst, hsecond, startService, hlift, pure_bind]
  cases topology with
  | none =>
    have hlegacy : options.prefillWholeRequestLayerMajor = false := hplan
    have hscalar := admission_scalar hfirst hlegacy
    have hscalar' := admission_scalar hsecond hlegacy
    have hprefill := legacyPrefill_coupled hrunner hclock htimed hadmitted.prompt hscalar hscalar'
    refine Coupled.bind (hprefill.conseq (fun s t hst => ?_) fun _ _ _ _ h => h) ?_
    · exact congrArg World.context hst
    rintro ⟨a, predicted⟩ ⟨b, predicted'⟩
    refine Coupled.assume ?_
    rintro ⟨hab, hpredicted⟩
    obtain rfl : predicted = predicted' := hpredicted
    dsimp only
    rw [generate_withChunkSize, generate_withChunkSize]
    exact generate_coupled hclock hblind (fun hs => (htimed hs).decodeStep) hab
  | some plan =>
    rintro s t rfl
    simp only [generate_withChunkSize]
    exact Agree.refl (fun a _ => ⟨rfl, rfl, rfl⟩) _

lemma completed_calls {topology : Option PrefillExecutionPlan} {context : σ}
    {control : GenerationControl F}
    (hadmission : admission cfg promptTokenIds options prefillPlan decodePlan = .ok topology)
    (h : (outcome (runGenerationControl cfg promptTokenIds options prefillPlan decodePlan)
      { context := context }).1 = .ok control) :
    let calls := (outcome (runGenerationControl cfg promptTokenIds options prefillPlan decodePlan)
      { context := context }).2.calls
    calls.flatMap Call.fed = prefixTokens promptTokenIds options ++
        [promptTokenIds.getLastD 0] ++ control.generatedTokenIds.dropLast ∧
      prefixExecutionsPerformed calls = expectedPrefixExecutions promptTokenIds options := by
  intro calls
  obtain ⟨-, topology, before, hplan, hbefore, hfinished⟩ :=
    ((runGenerationControl_spec cfg promptTokenIds options prefillPlan decodePlan).elim
      (show Logged [] { context := context } from rfl)).1 control h
  have hrecorded : calls = before ++ decodeCalls _ _ _ := hfinished.recorded
  rw [hrecorded]
  constructor
  · rw [List.flatMap_append, hbefore.fed (admission_ok hadmission).1 hplan, decodeCalls_fed]
  · rw [prefixExecutionsPerformed, List.filter_append, decodeCalls_performed, List.append_nil,
      hbefore.performed hplan]

end

def runWithChunkSize (cfg : BuildConfig) (promptTokenIds : List ℕ)
    (options : GenerationControlOptions σ F) (prefillPlan : PrefillPlan σ F)
    (decodePlan : DecodePlan σ F) (context : σ) (chunk : ℕ) :
    Except Stop (GenerationControl F) × World σ :=
  outcome (runGenerationControl cfg promptTokenIds (withChunkSize options chunk) prefillPlan
    decodePlan) { context := context }

theorem prefill_tiling_invisible (cfg : BuildConfig) (promptTokenIds : List ℕ)
    (options : GenerationControlOptions σ F) (prefillPlan : PrefillPlan σ F)
    (decodePlan : DecodePlan σ F) (context : σ) (first second : ℕ)
    (hrunner : TiledRunner options prefillPlan) (hblind : TimingBlind options)
    (hfirst : (admission cfg promptTokenIds (withChunkSize options first) prefillPlan
      decodePlan).isOk = true)
    (hsecond : (admission cfg promptTokenIds (withChunkSize options second) prefillPlan
      decodePlan).isOk = true)
    (run : ℕ → Except Stop (GenerationControl F) × World σ)
    (hrun : run = runWithChunkSize cfg promptTokenIds options prefillPlan decodePlan context) :
    (∀ a b, (run first).1 = .ok a → (run second).1 = .ok b → SameGeneration a b ∧
      (run first).2.calls.flatMap Call.fed = (run second).2.calls.flatMap Call.fed ∧
      prefixExecutionsPerformed (run first).2.calls =
        expectedPrefixExecutions promptTokenIds (withChunkSize options first) ∧
      prefixExecutionsPerformed (run second).2.calls =
        expectedPrefixExecutions promptTokenIds (withChunkSize options second)) ∧
    ∀ Reported : F → Prop, SteadyClock Reported → TimedRunner Reported prefillPlan decodePlan →
      (run first).1.isOk = (run second).1.isOk := by
  subst hrun
  obtain ⟨topology, hfirst⟩ := exists_ok hfirst
  obtain ⟨topology', hsecond⟩ := exists_ok hsecond
  refine ⟨fun a b ha hb => ?_, fun Reported hclock htimed => ?_⟩
  · have hsame := (@runGenerationControl_coupled σ F _ cfg promptTokenIds options prefillPlan
      decodePlan first second (fun _ => False) False hrunner hblind False.elim False.elim _ _
      hfirst hsecond { context := context } _ rfl).elim ha hb
    obtain ⟨hfed, hcount⟩ := completed_calls hfirst ha
    obtain ⟨hfed', hcount'⟩ := completed_calls hsecond hb
    refine ⟨hsame, ?_, hcount, hcount'⟩
    rw [runWithChunkSize, runWithChunkSize, hfed, hfed', hsame.generated]
    rfl
  · exact (@runGenerationControl_coupled σ F _ cfg promptTokenIds options prefillPlan decodePlan
      first second Reported True hrunner hblind (fun _ => hclock) (fun _ => htimed) _ _ hfirst hsecond
      { context := context } _ rfl).isOk_eq trivial

def foldedTile (options : GenerationControlOptions σ F) (prefixStep : StepFunction σ F)
    (elapsed : F) : PrefillTileFunction σ F := fun tokens _ context =>
  match foldPrefix prefixStep (phaseOptions options false) context tokens with
  | some (steps, context') => (.ok { value := some { steps := steps, timing := some elapsed } }, context')
  | none => (.ok { status := { error := .cudaFailure } }, context)

omit [FloatingPoint F] in
lemma foldedTile_folds (options : GenerationControlOptions σ F) (prefixStep : StepFunction σ F)
    (elapsed : F) : TileFolds options prefixStep (foldedTile options prefixStep elapsed) id := by
  intro tokens _ retain context
  unfold tileResult foldedTile
  cases foldPrefix prefixStep (phaseOptions options false) context tokens with
  | none => rfl
  | some r => cases retain <;> rfl

-- A runner whose state is its position and that predicts the successor of its input.
def successorStep : StepFunction ℕ ℕ := fun token options position =>
  let step : ReferenceStepResult ℕ :=
    { position := position
      inputTokenId := token
      timing := some 1
      prediction := if options.computeLogits then some (token + 1) else none }
  (.ok { value := some step }, position + 1)

def successorOptions : GenerationControlOptions ℕ ℕ where
  maxNewTokens := 3
  maxSequenceLength := 8
  logitsMode := .predictedTokenOnly

def successorPrefill : PrefillPlan ℕ ℕ where
  prefixStep := some successorStep
  finishPrefill := some successorStep
  prefixTile := some (foldedTile successorOptions successorStep 1)

def successorDecode : DecodePlan ℕ ℕ where
  decodeStep := some successorStep

instance : FloatingPoint ℕ where
  zero := 0
  add := (· + ·)
  isFinite _ := true
  isNegative _ := false

def successorRun : ℕ → Except Stop (GenerationControl ℕ) × World ℕ :=
  runWithChunkSize {} [1, 2, 3, 4] successorOptions successorPrefill successorDecode 0

theorem prefill_tiling_invisible_sample :
    ∃ a b, (successorRun 1).1 = .ok a ∧ (successorRun 32).1 = .ok b ∧ SameGeneration a b ∧
      (successorRun 1).2.calls.flatMap Call.fed = (successorRun 32).2.calls.flatMap Call.fed ∧
      prefixExecutionsPerformed (successorRun 1).2.calls = 3 ∧
      prefixExecutionsPerformed (successorRun 32).2.calls = 1 := by
  have hrunner : TiledRunner successorOptions successorPrefill :=
    ⟨_, _, _, rfl, rfl, foldedTile_folds successorOptions successorStep 1⟩
  have hblind : TimingBlind successorOptions := by simp [TimingBlind, successorOptions]
  obtain ⟨a, ha⟩ := exists_ok (show (successorRun 1).1.isOk = true by decide +kernel)
  obtain ⟨b, hb⟩ := exists_ok (show (successorRun 32).1.isOk = true by decide +kernel)
  obtain ⟨hsame, hfed, hfirst, hsecond⟩ := (prefill_tiling_invisible {} [1, 2, 3, 4]
    successorOptions successorPrefill successorDecode 0 1 32 hrunner hblind (by decide +kernel)
    (by decide +kernel) successorRun rfl).1 a b ha hb
  exact ⟨a, b, ha, hb, hsame, hfed, hfirst.trans (by decide +kernel),
    hsecond.trans (by decide +kernel)⟩

end Qwen3xOrin.Generation
