import Qwen3xOrin.Generation.PrefixFold

/-! Both prefix loops accept exactly the left fold of the prefix step, provided the runner's
tile is that fold. Only a timing the controller rejects can tell them apart. -/

namespace Qwen3xOrin.Generation

open Prefill Library FloatingPoint

variable {σ F : Type}

def phaseOptions (options : GenerationControlOptions σ F) (computeLogits : Bool) :
    ReferenceStepOptions where
  computeLogits := computeLogits
  captureTrace := options.captureTrace
  measureTiming := true
  logitsMode := options.logitsMode

def tileOptions (retain : Bool) : ReferencePrefillTileOptions where
  measureTiming := true
  retainLastHiddenForLogits := retain

def tileResult (f : PrefillTileFunction σ F) (options : ReferencePrefillTileOptions) (context : σ)
    (tokens : List ℕ) : Option (ReferencePrefillTileResult F × σ) :=
  match f tokens options context with
  | (.ok outcome, context') => outcome.toOption.map fun tile => (tile, context')
  | (.error _, _) => none

def TileFolds (options : GenerationControlOptions σ F) (prefixStep : StepFunction σ F)
    (prefixTile : PrefillTileFunction σ F) (retained : σ → σ) : Prop :=
  ∀ tokens, tokens ≠ [] → ∀ retain context,
    (tileResult prefixTile (tileOptions retain) context tokens).map
        (fun r => (r.1.steps.map untimed, r.2)) =
      (foldPrefix prefixStep (phaseOptions options false) context tokens).map
        (fun r => (r.1.map untimed, if retain then retained r.2 else r.2))

def Timed (Reported : F → Prop) (f : StepFunction σ F) : Prop :=
  ∀ options : ReferenceStepOptions, options.measureTiming = true →
    ∀ context token step context', stepResult f options context token = some (step, context') →
      ∃ elapsed, step.timing = some elapsed ∧ Reported elapsed

def TimedTile (Reported : F → Prop) (f : PrefillTileFunction σ F) : Prop :=
  ∀ options : ReferencePrefillTileOptions, options.measureTiming = true →
    ∀ context tokens tile context', tileResult f options context tokens = some (tile, context') →
      (∃ elapsed, tile.timing = some elapsed ∧ Reported elapsed) ∧
      ∀ step ∈ tile.steps, ∀ elapsed, step.timing = some elapsed → Reported elapsed

def At (context : σ) (world : World σ) : Prop := world.context = context

lemma with_context {α : Type} {pre : World σ → Prop} {m : ControlM σ α}
    {post : α → World σ → Prop} {stopped : World σ → Prop}
    (h : ∀ world, pre world → Triple (At world.context) m post stopped) :
    Triple pre m post stopped :=
  fun world hworld => h world hworld world rfl

lemma invoke_at {α : Type} {call : Call} {callback : Callback σ α} {onOther : Stop}
    {context : σ} {q : Prop} (hstop : ∀ thrown, (callback context).1 = .error thrown → q) :
    Triple (At context) (invoke call callback onOther)
      (fun a world => callback context = (.ok a, world.context)) (fun _ => q) := by
  rintro world rfl
  simp only [outcome, invoke, ExceptT.run, ExceptT.mk, StateT.run]
  revert hstop
  rcases callback world.context with ⟨(_ | _) | a, context'⟩
  · exact fun hstop => hstop _ rfl
  · exact fun hstop => hstop _ rfl
  · exact fun _ => rfl

lemma lift_at {α : Type} {x : Except Stop α} {pre : World σ → Prop} {q : Prop}
    (hstop : ∀ stop, x = .error stop → q) :
    Triple pre (lift x : ControlM σ α) (fun a world => pre world ∧ x = .ok a) (fun _ => q) := by
  intro world hworld
  cases x with
  | ok a => exact ⟨hworld, rfl⟩
  | error stop => exact hstop stop rfl

variable [FloatingPoint F]

structure SteadyClock (Reported : F → Prop) : Prop where
  valid : ∀ elapsed, Reported elapsed → validElapsed elapsed = true
  zero : isFinite (zero : F) = true
  add : ∀ total elapsed, isFinite total = true → Reported elapsed →
    isFinite (add total elapsed) = true

lemma accumulate_ok {total elapsed sum : F} (h : accumulate total elapsed = .ok sum) :
    sum = add total elapsed := by
  unfold accumulate at h
  split_ifs at h
  · exact (Except.ok.inj h).symm
  · cases h

lemma SteadyClock.accumulate {Reported : F → Prop} (hclock : SteadyClock Reported)
    {total elapsed : F} (h : isFinite total = true) (helapsed : Reported elapsed) :
    accumulate total elapsed = .ok (FloatingPoint.add total elapsed) := by
  rw [Generation.accumulate, if_pos (hclock.add total elapsed h helapsed)]

lemma checkStep_placeholder {mode : ReferenceLogitsMode} {position token : ℕ}
    {outcome : Outcome (ReferenceStepResult F)} {step : ReferenceStepResult F} {elapsed : F}
    {predicted : ℕ}
    (h : checkStep mode position token false outcome = .ok (step, elapsed, predicted)) :
    outcome.toOption = some step ∧ placeholder step position token = true ∧
      step.timing = some elapsed := by
  obtain ⟨hstep, hpos, htoken, htiming, -, -, hblank⟩ := checkStep_ok h
  obtain ⟨hlogits, hprediction⟩ := hblank rfl
  refine ⟨hstep, ?_, htiming⟩
  simp [placeholder, hpos, htoken, hlogits, hprediction]

lemma checkStep_accepts {mode : ReferenceLogitsMode} {position token : ℕ}
    {outcome : Outcome (ReferenceStepResult F)} {step : ReferenceStepResult F} {elapsed : F}
    (hstep : outcome.toOption = some step) (hplaced : placeholder step position token = true)
    (htiming : step.timing = some elapsed) (hvalid : validElapsed elapsed = true) :
    checkStep mode position token false outcome = .ok (step, elapsed, 0) := by
  simp only [placeholder, decide_eq_true_eq, Option.isNone_iff_eq_none] at hplaced
  obtain ⟨hpos, htoken, hlogits, hprediction⟩ := hplaced
  simp [checkStep, hstep, hpos, htoken, hlogits, hprediction, htiming, hvalid, stepPrediction]
  rfl

structure FiniteTotals (control : GenerationControl F) : Prop where
  promptPrefill : isFinite control.timing.promptPrefillMilliseconds = true
  decodeAfterFirst : isFinite control.timing.decodeAfterFirstMilliseconds = true
  totalGeneration : isFinite control.timing.totalGenerationMilliseconds = true

structure FoldedPrefix (strict : Prop) (before : GenerationControl F)
    (steps : List (ReferenceStepResult F)) (after : GenerationControl F) : Prop where
  steps : after.steps.map untimed = (before.steps ++ steps).map untimed
  generated : after.generatedTokenIds = before.generatedTokenIds
  stopReason : after.stopReason = before.stopReason
  steady : strict → FiniteTotals after

section

variable {Reported : F → Prop} {strict : Prop} {options : GenerationControlOptions σ F}
  {before mid after control : GenerationControl F} {steps more : List (ReferenceStepResult F)}

lemma FoldedPrefix.trans (h : FoldedPrefix strict before steps mid)
    (h' : FoldedPrefix strict mid more after) :
    FoldedPrefix strict before (steps ++ more) after where
  steps := by
    rw [h'.steps, List.map_append, h.steps]
    simp
  generated := h'.generated.trans h.generated
  stopReason := h'.stopReason.trans h.stopReason
  steady := h'.steady

lemma FoldedPrefix.once {added : List (ReferenceStepResult F)} {elapsed : F}
    (hsteps : added.map untimed = steps.map untimed)
    (hclock : strict → SteadyClock Reported)
    (hsteady : strict → FiniteTotals control) (helapsed : strict → Reported elapsed) :
    FoldedPrefix strict control steps
      (pushPrefixExecution { control with steps := control.steps ++ added } elapsed
        (add control.timing.promptPrefillMilliseconds elapsed)) where
  steps := by simp [pushPrefixExecution, hsteps]
  generated := rfl
  stopReason := rfl
  steady hs := ⟨(hclock hs).add _ _ (hsteady hs).promptPrefill (helapsed hs),
    (hsteady hs).decodeAfterFirst, (hsteady hs).totalGeneration⟩

lemma FoldedPrefix.length (h : FoldedPrefix strict before steps after) :
    after.steps.length = before.steps.length + steps.length := by
  simpa using congrArg List.length h.steps

lemma executePrefix_spec {prefixStep : StepFunction σ F} {call : ℕ → ℕ → Call} {token : ℕ}
    {onOther : Stop} {context : σ}
    (hclock : strict → SteadyClock Reported) (htimed : strict → Timed Reported prefixStep) :
    Triple (At context) (execute options control call prefixStep token false onOther)
      (fun r world => ∃ step,
        stepResult prefixStep (phaseOptions options false) context token =
          some (step, world.context) ∧
        placeholder step control.steps.length token = true ∧
        r.1 = { control with steps := control.steps ++ [step] } ∧ (strict → Reported r.2.1))
      (fun _ => strict → ∀ step context',
        stepResult prefixStep (phaseOptions options false) context token = some (step, context') →
        placeholder step control.steps.length token = false) := by
  have hthrown : ∀ thrown, (prefixStep token (phaseOptions options false) context).1 =
      .error thrown → stepResult prefixStep (phaseOptions options false) context token = none := by
    intro thrown h
    rw [stepResult]
    rcases hcall : prefixStep token (phaseOptions options false) context with ⟨r, context'⟩
    rw [hcall] at h
    obtain rfl : r = .error thrown := h
    rfl
  refine Triple.bind (invoke_at fun thrown h _ step context' hstep => ?_) fun outcome => ?_
  · rw [hthrown thrown h] at hstep
    cases hstep
  refine with_context fun world hworld => ?_
  have hresult : stepResult prefixStep (phaseOptions options false) context token =
      outcome.toOption.map fun step => (step, world.context) := by
    rw [stepResult]
    simp only [phaseOptions, hworld]
  rw [hresult]
  refine Triple.bind (lift_at fun stop h hs step context' hstep => ?_) ?_
  · obtain ⟨step, hstep', heq⟩ := Option.map_eq_some_iff.mp hstep
    obtain ⟨rfl, rfl⟩ := Prod.mk.inj heq
    obtain ⟨elapsed, htiming, helapsed⟩ :=
      htimed hs _ rfl context token step world.context (hresult.trans hstep)
    by_contra hplaced
    rw [Bool.not_eq_false] at hplaced
    rw [checkStep_accepts hstep' hplaced htiming ((hclock hs).valid elapsed helapsed)] at h
    cases h
  · rintro ⟨step, elapsed, predicted⟩
    refine Triple.assume fun h => ?_
    obtain ⟨hstep, hplaced, htiming⟩ := checkStep_placeholder h
    refine Triple.ret fun final hfinal => ⟨step, ?_, hplaced, rfl, fun hs => ?_⟩
    · rw [hstep, show final.context = world.context from hfinal]
      rfl
    · obtain ⟨time, htime, hreported⟩ := htimed hs _ rfl context token step world.context
        (by rw [hresult, hstep]; rfl)
      rw [htiming, Option.some_inj] at htime
      rw [htime]
      exact hreported

lemma prefixSteps_fold {prefixStep : StepFunction σ F} (hclock : strict → SteadyClock Reported)
    (htimed : strict → Timed Reported prefixStep) (tokens : List ℕ) {context : σ}
    (hsteady : strict → FiniteTotals control) :
    Triple (At context) (prefixSteps options prefixStep tokens control)
      (fun after world => ∃ steps,
        acceptedFold prefixStep (phaseOptions options false) control.steps.length context tokens =
          some (steps, world.context) ∧ FoldedPrefix strict control steps after)
      (fun _ => strict →
        acceptedFold prefixStep (phaseOptions options false) control.steps.length context tokens =
          none) := by
  induction tokens generalizing control context with
  | nil =>
    refine Triple.ret fun world hworld => ⟨[], ?_, ⟨by simp, rfl, rfl, hsteady⟩⟩
    rw [acceptedFold_nil, show world.context = context from hworld]
  | cons token tokens ih =>
    rw [acceptedFold_cons]
    refine Triple.bind ((executePrefix_spec hclock htimed).conseq (fun _ h => h) (fun _ _ h => h) ?_) ?_
    · intro _ hstop hs
      cases hresult : stepResult prefixStep (phaseOptions options false) context token with
      | none => rfl
      | some r =>
        have hplaced := hstop hs r.1 r.2 hresult
        simp [hplaced]
    rintro ⟨next, elapsed, predicted⟩
    refine with_context ?_
    rintro world ⟨step, hresult, hplaced, rfl, hreported⟩
    rw [hresult]
    simp only [Option.bind_some, hplaced, if_true]
    refine Triple.bind (lift_at fun stop h hs => ?_) fun accumulated => ?_
    · rw [(hclock hs).accumulate (hsteady hs).promptPrefill (hreported hs)] at h
      cases h
    refine Triple.assume fun haccumulated => ?_
    rw [accumulate_ok haccumulated]
    have honce := FoldedPrefix.once (show [step].map untimed = [step].map untimed from rfl)
      hclock hsteady hreported
    have hlen : (pushPrefixExecution { control with steps := control.steps ++ [step] } elapsed
        (add control.timing.promptPrefillMilliseconds elapsed)).steps.length =
          control.steps.length + 1 := by
      simp [pushPrefixExecution]
    have hrest := @ih _ world.context honce.steady
    rw [hlen] at hrest
    refine hrest.conseq (fun _ h => h) ?_ ?_
    · rintro after final ⟨steps, hfold, hafter⟩
      exact ⟨step :: steps, by rw [hfold]; rfl, honce.trans hafter⟩
    · intro _ hstop hs
      rw [hstop hs]
      rfl

lemma checkTile_accepts {position : ℕ} {tokens : List ℕ}
    {outcome : Outcome (ReferencePrefillTileResult F)} {tile : ReferencePrefillTileResult F}
    {elapsed : F} (htile : outcome.toOption = some tile) (htiming : tile.timing = some elapsed)
    (hlen : tile.steps.length = tokens.length) (hvalid : validElapsed elapsed = true)
    (hplaced : placed position tokens tile.steps = true)
    (hsteps : ∀ step ∈ tile.steps, ∀ d, step.timing = some d → validElapsed d = true) :
    checkTile position tokens outcome = .ok (tile.steps, elapsed) := by
  have hall : (List.range tokens.length).all (fun i =>
      placeholder (tile.steps.getD i {}) (position + i) (tokens.getD i 0) &&
        (tile.steps.getD i {}).timing.all validElapsed) = true := by
    rw [List.all_eq_true]
    intro i hi
    have hlt := List.mem_range.mp hi
    rw [Bool.and_eq_true]
    refine ⟨(placed_iff hlen position).mp hplaced i hlt, ?_⟩
    have hget : tile.steps.getD i {} = tile.steps[i] := by
      simp [List.getD_eq_getElem?_getD, List.getElem?_eq_getElem (hlen ▸ hlt)]
    rw [hget]
    cases htime : tile.steps[i].timing with
    | none => rfl
    | some d => exact hsteps _ (List.getElem_mem _) d htime
  simp only [checkTile, htile, htiming, hlen, ne_eq, not_true, if_false, hvalid, hall, if_true]
  rfl

omit [FloatingPoint F] in
lemma TileFolds.accepted {prefixStep : StepFunction σ F} {prefixTile : PrefillTileFunction σ F}
    {retained : σ → σ} (hfolds : TileFolds options prefixStep prefixTile retained)
    {tokens : List ℕ} (htokens : tokens ≠ []) {position : ℕ} {retain : Bool} {context final : σ}
    {tile : ReferencePrefillTileResult F}
    (htile : tileResult prefixTile (tileOptions retain) context tokens = some (tile, final))
    (hplaced : placed position tokens tile.steps = true) :
    ∃ steps context',
      acceptedFold prefixStep (phaseOptions options false) position context tokens =
        some (steps, context') ∧ final = (if retain then retained context' else context') ∧
      tile.steps.map untimed = steps.map untimed := by
  have heq := hfolds tokens htokens retain context
  rw [htile, Option.map_some, eq_comm, Option.map_eq_some_iff] at heq
  obtain ⟨⟨steps, context'⟩, hfold, heq⟩ := heq
  obtain ⟨hsteps, hfinal⟩ := Prod.mk.inj heq
  refine ⟨steps, context', ?_, hfinal.symm, hsteps.symm⟩
  rw [acceptedFold, hfold, Option.filter_some, if_pos]
  rwa [← placed_untimed, hsteps, placed_untimed]

omit [FloatingPoint F] in
lemma TileFolds.tile {prefixStep : StepFunction σ F} {prefixTile : PrefillTileFunction σ F}
    {retained : σ → σ} (hfolds : TileFolds options prefixStep prefixTile retained)
    {tokens : List ℕ} (htokens : tokens ≠ []) {position : ℕ} {context context' : σ}
    (retain : Bool)
    (haccepted : acceptedFold prefixStep (phaseOptions options false) position context tokens =
      some (steps, context')) :
    ∃ tile final, tileResult prefixTile (tileOptions retain) context tokens = some (tile, final) ∧
      tile.steps.length = tokens.length ∧ placed position tokens tile.steps = true := by
  have hlen := acceptedFold_length haccepted
  rw [acceptedFold, Option.filter_eq_some_iff] at haccepted
  obtain ⟨hfold, hplaced⟩ := haccepted
  have heq := hfolds tokens htokens retain context
  rw [hfold, Option.map_some, Option.map_eq_some_iff] at heq
  obtain ⟨⟨tile, final⟩, htile, heq⟩ := heq
  obtain ⟨hsteps, -⟩ := Prod.mk.inj heq
  refine ⟨tile, final, htile, ?_, ?_⟩
  · simpa [hlen] using congrArg List.length hsteps
  · rwa [← placed_untimed, hsteps, placed_untimed]

lemma prefixTile_fold {prefixStep : StepFunction σ F} {prefixTile : PrefillTileFunction σ F}
    {retained : σ → σ} (hfolds : TileFolds options prefixStep prefixTile retained)
    (hclock : strict → SteadyClock Reported) (htimed : strict → TimedTile Reported prefixTile)
    {tokens : List ℕ} (htokens : tokens ≠ []) {position : ℕ} {call : Call} {retain : Bool}
    {context : σ} :
    Triple (At context) (do
        let outcome ← invoke call (prefixTile tokens (tileOptions retain)) .escaped
        lift (checkTile position tokens outcome))
      (fun r world => ∃ steps context',
        acceptedFold prefixStep (phaseOptions options false) position context tokens =
          some (steps, context') ∧ world.context = (if retain then retained context' else context') ∧
        r.1.map untimed = steps.map untimed ∧ (strict → Reported r.2))
      (fun _ => strict →
        acceptedFold prefixStep (phaseOptions options false) position context tokens = none) := by
  have hthrown : ∀ thrown, (prefixTile tokens (tileOptions retain) context).1 = .error thrown →
      tileResult prefixTile (tileOptions retain) context tokens = none := by
    intro thrown h
    rw [tileResult]
    rcases hcall : prefixTile tokens (tileOptions retain) context with ⟨r, context'⟩
    rw [hcall] at h
    obtain rfl : r = .error thrown := h
    rfl
  refine Triple.bind (invoke_at fun thrown h hs => ?_) fun outcome => ?_
  · by_contra hsome
    obtain ⟨⟨steps, context'⟩, haccepted⟩ := Option.ne_none_iff_exists'.mp hsome
    obtain ⟨tile, final, htile, -⟩ := hfolds.tile htokens retain haccepted
    rw [hthrown thrown h] at htile
    cases htile
  refine with_context fun world hworld => ?_
  have hresult : tileResult prefixTile (tileOptions retain) context tokens =
      outcome.toOption.map fun tile => (tile, world.context) := by
    rw [tileResult, hworld]
  refine (lift_at fun stop h hs => ?_).conseq (fun _ h => h) ?_ fun _ h => h
  · by_contra hsome
    obtain ⟨⟨steps, context'⟩, haccepted⟩ := Option.ne_none_iff_exists'.mp hsome
    obtain ⟨tile, final, htile, hlen, hplaced⟩ := hfolds.tile htokens retain haccepted
    obtain ⟨⟨elapsed, htiming, helapsed⟩, hsteps⟩ := htimed hs _ rfl context tokens tile final htile
    rw [hresult] at htile
    obtain ⟨found, hfound, heq⟩ := Option.map_eq_some_iff.mp htile
    obtain ⟨rfl, rfl⟩ := Prod.mk.inj heq
    rw [checkTile_accepts hfound htiming hlen ((hclock hs).valid elapsed helapsed) hplaced
      fun step hstep d hd => (hclock hs).valid d (hsteps step hstep d hd)] at h
    cases h
  · rintro ⟨added, elapsed⟩ final ⟨hfinal, h⟩
    obtain ⟨tile, htile, rfl, htiming, hlen, -, hall⟩ := checkTile_ok h
    rw [htile, Option.map_some, ← show final.context = world.context from hfinal] at hresult
    have hplaced := (placed_iff hlen position).mpr fun i hi => (hall i hi).1
    obtain ⟨steps, context', haccepted, hcontext, hsteps⟩ :=
      hfolds.accepted htokens hresult hplaced
    refine ⟨steps, context', haccepted, hcontext, hsteps, fun hs => ?_⟩
    obtain ⟨⟨time, htime, hreported⟩, -⟩ := htimed hs _ rfl context tokens tile _ hresult
    rw [htiming, Option.some_inj] at htime
    rw [htime]
    exact hreported

lemma prefixTiles_fold {prefixStep : StepFunction σ F} {prefixTile : PrefillTileFunction σ F}
    {retained : σ → σ} (hfolds : TileFolds options prefixStep prefixTile retained)
    (hclock : strict → SteadyClock Reported) (htimed : strict → TimedTile Reported prefixTile)
    {chunk : ℕ} (hchunk : 0 < chunk) (n : ℕ) {tokens : List ℕ} (hn : tokens.length ≤ n)
    {context : σ} (hsteady : strict → FiniteTotals control) :
    Triple (At context) (prefixTiles options prefixTile chunk n tokens control)
      (fun after world => ∃ steps context',
        acceptedFold prefixStep (phaseOptions options false) control.steps.length context tokens =
          some (steps, context') ∧
        world.context = (if options.prefillAllPromptTokens = true ∧ tokens ≠ [] then
          retained context' else context') ∧ FoldedPrefix strict control steps after)
      (fun _ => strict →
        acceptedFold prefixStep (phaseOptions options false) control.steps.length context tokens =
          none) := by
  induction n generalizing tokens control context with
  | zero =>
    obtain rfl : tokens = [] := List.length_eq_zero_iff.mp (by omega)
    refine Triple.ret fun world hworld => ⟨[], context, rfl, ?_, ⟨by simp, rfl, rfl, hsteady⟩⟩
    rwa [if_neg (by simp)]
  | succ n ih =>
    rw [prefixTiles]
    by_cases htokens : tokens = []
    · subst htokens
      rw [if_pos rfl]
      refine Triple.ret fun world hworld => ⟨[], context, rfl, ?_, ⟨by simp, rfl, rfl, hsteady⟩⟩
      rwa [if_neg (by simp)]
    have hpos := List.length_pos_iff.mpr htokens
    obtain ⟨hcount, hle⟩ := tileTokenCount_bounds options hpos hchunk
    rw [if_neg htokens]
    dsimp only
    generalize tileTokenCount options tokens.length chunk = count at hcount hle ⊢
    have htile : tokens.take count ≠ [] := by
      simp [List.take_eq_nil_iff, htokens, Nat.pos_iff_ne_zero.mp hcount]
    have hsplit := @acceptedFold_append _ _ prefixStep (phaseOptions options false)
      control.steps.length context (tokens.take count) (tokens.drop count)
    rw [List.take_append_drop] at hsplit
    rw [hsplit, ← bind_assoc]
    refine Triple.bind ((prefixTile_fold hfolds hclock htimed htile).conseq (fun _ h => h)
      (fun _ _ h => h) fun _ hstop hs => by rw [hstop hs]; rfl) ?_
    rintro ⟨added, elapsed⟩
    refine with_context ?_
    rintro world ⟨steps, context', haccepted, hcontext, hadded, hreported⟩
    simp only [haccepted, Option.bind_some]
    refine Triple.bind (lift_at fun stop h hs => ?_) fun accumulated => ?_
    · rw [(hclock hs).accumulate (hsteady hs).promptPrefill (hreported hs)] at h
      cases h
    refine Triple.assume fun haccumulated => ?_
    rw [accumulate_ok haccumulated]
    have honce := FoldedPrefix.once hadded hclock hsteady hreported
    have hlen := honce.length
    rw [acceptedFold_length haccepted] at hlen
    have hdrop : (tokens.drop count).length ≤ n := by
      rw [List.length_drop]
      omega
    have hrest := @ih _ _ hdrop world.context honce.steady
    rw [hlen] at hrest
    by_cases hlast : count = tokens.length
    · -- The last tile: nothing is left, and the retained row is the caller's.
      have hnil : tokens.drop count = [] := by rw [hlast, List.drop_length]
      rw [hnil] at hrest ⊢
      refine hrest.conseq (fun _ h => h) ?_ ?_
      · rintro after final ⟨more, last, hfold, hfinal, hafter⟩
        obtain ⟨rfl, rfl⟩ := Prod.mk.inj (Option.some_inj.mp hfold)
        refine ⟨steps, context', by simp [acceptedFold_nil], ?_, by simpa using honce.trans hafter⟩
        rw [if_neg (by simp)] at hfinal
        rw [hfinal, hcontext]
        simp [hlast, htokens]
      · intro _ hstop hs
        cases hstop hs
    · have hmore : tokens.drop count ≠ [] := by
        rw [Ne, List.drop_eq_nil_iff]
        omega
      have hkept : world.context = context' := by simpa [hlast] using hcontext
      rw [hkept] at hrest
      refine hrest.conseq (fun _ h => by rwa [hkept] at h) ?_ ?_
      · rintro after final ⟨more, last, hfold, hfinal, hafter⟩
        refine ⟨steps ++ more, last, by rw [hfold]; rfl, ?_, honce.trans hafter⟩
        rw [hfinal]
        simp [htokens, hmore]
      · intro _ hstop hs
        rw [hstop hs]
        rfl

end

end Qwen3xOrin.Generation
