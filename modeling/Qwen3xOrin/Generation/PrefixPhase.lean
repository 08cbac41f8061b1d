import Qwen3xOrin.Generation.Run
import Qwen3xOrin.Library.Guard
import Qwen3xOrin.Library.Triple

/-! What one controller operation adds to the transcript and to the record of calls. -/

namespace Qwen3xOrin.Generation

open Prefill Library

variable {σ F : Type}

def Call.endPosition : Call → ℕ
  | .prefixStep position _ | .finishPrefill position _ | .decodeStep position _ => position + 1
  | .prefixTile position tokens _ => position + tokens.length
  | .wholeRequest plan _ | .commitWholeRequest plan _ => plan.finalPosition
  | .committedToken _ _ | .round _ => 0

def Call.prefixTokens : Call → List ℕ
  | .prefixStep _ token => [token]
  | .prefixTile _ tokens _ | .wholeRequest _ tokens => tokens
  | _ => []

def Call.isPrefixExecution : Call → Bool
  | .prefixStep _ _ | .prefixTile _ _ _ | .wholeRequest _ _ => true
  | _ => false

def Call.committed : Call → Option (ℕ × ℕ)
  | .committedToken token index => some (token, index)
  | _ => none

def Call.isCommit : Call → Bool
  | .commitWholeRequest _ _ => true
  | _ => false

def Within (bound : ℕ) (calls : List Call) : Prop := ∀ call ∈ calls, call.endPosition ≤ bound

def Logged (calls : List Call) (world : World σ) : Prop := world.calls = calls

def StoppedWithin (bound : ℕ) (world : World σ) : Prop := Within bound world.calls

structure Transcript (inputs : List ℕ) (steps : List (ReferenceStepResult F)) : Prop where
  positions : steps.map (·.position) = List.range inputs.length
  inputTokens : steps.map (·.inputTokenId) = inputs

def predictedToken (mode : ReferenceLogitsMode) (step : ReferenceStepResult F) : Option ℕ :=
  match mode with
  | .fullStatistics => step.logits.map (·.predictedTokenId)
  | .predictedTokenOnly => step.prediction

lemma Within.append {bound : ℕ} {calls more : List Call} (h : Within bound calls)
    (hmore : Within bound more) : Within bound (calls ++ more) := by
  intro call hcall
  rcases List.mem_append.mp hcall with hc | hc
  · exact h call hc
  · exact hmore call hc

lemma Within.single {bound : ℕ} {call : Call} (h : call.endPosition ≤ bound) :
    Within bound [call] := by
  simpa [Within] using h

namespace Transcript

variable {inputs more : List ℕ} {steps : List (ReferenceStepResult F)}

lemma length (h : Transcript inputs steps) : steps.length = inputs.length := by
  simpa using congrArg List.length h.inputTokens

lemma nil : Transcript [] ([] : List (ReferenceStepResult F)) := ⟨rfl, rfl⟩

lemma append (h : Transcript inputs steps) {added : List (ReferenceStepResult F)}
    (hlen : added.length = more.length)
    (hstep : ∀ i < more.length, (added.getD i {}).position = inputs.length + i ∧
      (added.getD i {}).inputTokenId = more.getD i 0) :
    Transcript (inputs ++ more) (steps ++ added) := by
  have hget : ∀ i (hi : i < added.length), added.getD i {} = added[i] := fun i hi => by
    simp [List.getD_eq_getElem?_getD, List.getElem?_eq_getElem hi]
  constructor
  · rw [List.map_append, h.positions, List.length_append, List.range_add]
    congr 1
    apply List.ext_getElem (by simpa using hlen)
    intro i hi hi'
    simp only [List.length_map] at hi
    simp only [List.getElem_map, List.getElem_range]
    rw [← hget i hi]
    exact (hstep i (hlen ▸ hi)).1
  · rw [List.map_append, h.inputTokens]
    congr 1
    apply List.ext_getElem (by simpa using hlen)
    intro i hi hi'
    simp only [List.length_map] at hi
    rw [List.getElem_map, ← hget i hi, (hstep i hi').2]
    simp [List.getD_eq_getElem?_getD, List.getElem?_eq_getElem hi']

lemma push (h : Transcript inputs steps) {step : ReferenceStepResult F} {token : ℕ}
    (hpos : step.position = steps.length) (htoken : step.inputTokenId = token) :
    Transcript (inputs ++ [token]) (steps ++ [step]) := by
  refine h.append rfl fun i hi => ?_
  obtain rfl : i = 0 := by simpa using hi
  exact ⟨by simpa [h.length] using hpos, by simpa using htoken⟩

lemma pop {token : ℕ} (h : Transcript (inputs ++ [token]) steps) :
    Transcript inputs steps.dropLast := by
  constructor
  · rw [List.map_dropLast, h.positions]
    simp [List.range_succ]
  · rw [List.map_dropLast, h.inputTokens]
    simp

end Transcript

end Qwen3xOrin.Generation

/-! The prefix loops: whatever the callbacks answer, an accepted prefix extends the transcript
by exactly the prompt tokens it was given, in as many executions as were counted up front. -/

namespace Qwen3xOrin.Generation

open Prefill Library

variable {σ F : Type}

lemma invoke_spec {α : Type} {calls : List Call} {bound : ℕ} {call : Call}
    (callback : Callback σ α) (onOther : Stop) (hcalls : Within bound calls)
    (hcall : call.endPosition ≤ bound) :
    Triple (Logged calls) (invoke call callback onOther)
      (fun _ => Logged (calls ++ [call])) (StoppedWithin bound) := by
  intro world hworld
  have hwithin := hcalls.append (Within.single hcall)
  rw [← show world.calls = calls from hworld] at hwithin ⊢
  simp only [outcome, invoke, ExceptT.run, ExceptT.mk, StateT.run]
  rcases callback world.context with ⟨r, context⟩
  rcases r with (_ | _) | a
  · exact hwithin
  · exact hwithin
  · exact rfl

lemma lift_spec {α : Type} {x : Except Stop α} {calls : List Call} {bound : ℕ}
    {post : α → Prop} (hcalls : Within bound calls) (hpost : ∀ a, x = .ok a → post a) :
    Triple (Logged calls) (lift x : ControlM σ α)
      (fun a world => Logged calls world ∧ post a) (StoppedWithin bound) := by
  refine Triple.ofExcept (fun a ha world hworld => ⟨hworld, hpost a ha⟩) ?_
  intro world hworld
  rw [StoppedWithin, show world.calls = calls from hworld]
  exact hcalls

lemma checkPrediction_ok {mode : ReferenceLogitsMode} {step : ReferenceStepResult F}
    {predicted : ℕ} (h : checkPrediction mode step = .ok predicted) :
    predictedToken mode step = some predicted := by
  cases mode with
  | fullStatistics =>
    simp only [checkPrediction, fail, guard_ok] at h
    cases hl : step.logits with
    | none => simp [hl] at h
    | some logits =>
      simp only [hl, Except.ok.injEq] at h
      simp [predictedToken, hl, h.2]
  | predictedTokenOnly =>
    simp only [checkPrediction, fail, guard_ok] at h
    cases hp : step.prediction with
    | none => simp [hp] at h
    | some prediction =>
      simp only [hp, Except.ok.injEq] at h
      simp [predictedToken, hp, h.2]

variable [FloatingPoint F]

lemma checkStep_ok {mode : ReferenceLogitsMode} {position token predicted : ℕ}
    {computeLogits : Bool} {outcome : Outcome (ReferenceStepResult F)}
    {step : ReferenceStepResult F} {elapsed : F}
    (h : checkStep mode position token computeLogits outcome = .ok (step, elapsed, predicted)) :
    outcome.toOption = some step ∧ step.position = position ∧ step.inputTokenId = token ∧
      step.timing = some elapsed ∧ validElapsed elapsed = true ∧
      (computeLogits = true → predictedToken mode step = some predicted ∧
        predicted < referenceVocabularySize) ∧
      (computeLogits = false → step.logits = none ∧ step.prediction = none) := by
  unfold checkStep at h
  cases ho : outcome.toOption with
  | none => simp [ho, fail] at h
  | some result =>
    simp only [ho, fail, guard_ok] at h
    obtain ⟨hbad, h⟩ := h
    push Not at hbad
    cases ht : result.timing with
    | none => simp [ht] at h
    | some time =>
      simp only [ht, bind_ok, guard_ok, Except.ok.injEq, Prod.mk.injEq] at h
      obtain ⟨p, hp, hvalid, hvocab, rfl, rfl, rfl⟩ := h
      refine ⟨rfl, hbad.1, hbad.2.1, ht, by simpa using hvalid, fun hc => ?_, fun hc => ?_⟩
      · rw [stepPrediction, if_pos hc] at hp
        exact ⟨checkPrediction_ok hp, by simpa [hc] using hvocab⟩
      · simpa using hbad.2.2 hc

lemma execute_spec {options : GenerationControlOptions σ F} {control : GenerationControl F}
    {calls : List Call} {bound token : ℕ} {call : ℕ → ℕ → Call} {computeLogits : Bool}
    (phaseStep : StepFunction σ F) (onOther : Stop) (hcalls : Within bound calls)
    (hcall : (call control.steps.length token).endPosition ≤ bound) :
    Triple (Logged calls)
      (execute options control call phaseStep token computeLogits onOther)
      (fun r world => Logged (calls ++ [call control.steps.length token]) world ∧
        ∃ step, r.1 = { control with steps := control.steps ++ [step] } ∧
          step.position = control.steps.length ∧ step.inputTokenId = token ∧
          (computeLogits = true → predictedToken options.logitsMode step = some r.2.2 ∧
            r.2.2 < referenceVocabularySize))
      (StoppedWithin bound) := by
  have hcalls' := hcalls.append (Within.single hcall)
  refine Triple.bind (invoke_spec _ _ hcalls hcall) fun outcome => ?_
  refine Triple.bind (lift_spec hcalls' fun r hr => checkStep_ok (by exact hr)) fun r => ?_
  refine Triple.ret ?_
  rintro world ⟨hworld, hstep⟩
  exact ⟨hworld, r.1, rfl, hstep.2.1, hstep.2.2.1, hstep.2.2.2.2.2.1⟩

structure PrefixRun (calls calls' : List Call) (inputs tokens : List ℕ) (count : ℕ)
    (before after : GenerationControl F) : Prop where
  recorded : ∃ added, calls' = calls ++ added ∧ added.length = count ∧
    added.flatMap Call.prefixTokens = tokens ∧ ∀ call ∈ added, call.isPrefixExecution = true ∧
      call.endPosition ≤ inputs.length + tokens.length
  transcript : Transcript (inputs ++ tokens) after.steps
  generated : after.generatedTokenIds = before.generatedTokenIds
  stopReason : after.stopReason = before.stopReason
  executions : after.timing.prefixExecutionMilliseconds.length =
    before.timing.prefixExecutionMilliseconds.length + count

namespace PrefixRun

variable {calls calls' calls'' : List Call} {inputs tokens more : List ℕ} {count count' : ℕ}
  {before mid after : GenerationControl F}

omit [FloatingPoint F] in
lemma refl (h : Transcript inputs before.steps) : PrefixRun calls calls inputs [] 0 before before where
  recorded := ⟨[], by simp⟩
  transcript := by simpa using h
  generated := rfl
  stopReason := rfl
  executions := rfl

omit [FloatingPoint F] in
lemma trans (h : PrefixRun calls calls' inputs tokens count before mid)
    (h' : PrefixRun calls' calls'' (inputs ++ tokens) more count' mid after) :
    PrefixRun calls calls'' inputs (tokens ++ more) (count + count') before after where
  recorded := by
    obtain ⟨added, rfl, hcount, htokens, hadded⟩ := h.recorded
    obtain ⟨added', rfl, hcount', htokens', hadded'⟩ := h'.recorded
    refine ⟨added ++ added', by simp, by simp [hcount, hcount'], by simp [htokens, htokens'], ?_⟩
    intro call hcall
    simp only [List.length_append] at hadded' ⊢
    rcases List.mem_append.mp hcall with hc | hc
    · exact ⟨(hadded call hc).1, (hadded call hc).2.trans (by omega)⟩
    · exact ⟨(hadded' call hc).1, (hadded' call hc).2.trans (by omega)⟩
  transcript := by simpa using h'.transcript
  generated := h'.generated.trans h.generated
  stopReason := h'.stopReason.trans h.stopReason
  executions := by rw [h'.executions, h.executions, Nat.add_assoc]

omit [FloatingPoint F] in
lemma within (h : PrefixRun calls calls' inputs tokens count before after) {bound : ℕ}
    (hcalls : Within bound calls) (hbound : inputs.length + tokens.length ≤ bound) :
    Within bound calls' := by
  obtain ⟨added, rfl, -, -, hadded⟩ := h.recorded
  exact hcalls.append fun call hc => (hadded call hc).2.trans hbound

omit [FloatingPoint F] in
lemma once {call : Call} {steps : List (ReferenceStepResult F)} {elapsed accumulated : F}
    (hexecuted : call.isPrefixExecution = true) (htokens : call.prefixTokens = tokens)
    (hend : call.endPosition ≤ inputs.length + tokens.length)
    (htranscript : Transcript (inputs ++ tokens) (before.steps ++ steps)) :
    PrefixRun calls (calls ++ [call]) inputs tokens 1 before
      (pushPrefixExecution { before with steps := before.steps ++ steps } elapsed accumulated) where
  recorded := ⟨[call], rfl, rfl, by simpa using htokens, by simp [hexecuted, hend]⟩
  transcript := htranscript
  generated := rfl
  stopReason := rfl
  executions := by simp [pushPrefixExecution]

end PrefixRun

lemma prefixSteps_spec {options : GenerationControlOptions σ F} (prefixStep : StepFunction σ F)
    {bound : ℕ} (tokens : List ℕ) {inputs : List ℕ} {calls : List Call}
    {control : GenerationControl F} (hcalls : Within bound calls)
    (hcontrol : Transcript inputs control.steps) (hbound : inputs.length + tokens.length ≤ bound) :
    Triple (Logged calls) (prefixSteps options prefixStep tokens control)
      (fun after world => PrefixRun calls world.calls inputs tokens tokens.length control after)
      (StoppedWithin bound) := by
  induction tokens generalizing inputs calls control with
  | nil =>
    refine Triple.ret fun world hworld => ?_
    rw [show world.calls = calls from hworld]
    exact .refl hcontrol
  | cons token tokens ih =>
    simp only [List.length_cons] at hbound
    have hlen := hcontrol.length
    have hend : (Call.prefixStep control.steps.length token).endPosition ≤ bound := by
      simp only [Call.endPosition]
      omega
    have hcalls' := hcalls.append (Within.single hend)
    refine Triple.bind (execute_spec prefixStep .escaped hcalls hend) ?_
    rintro ⟨next, elapsed, predicted⟩
    refine Triple.assume ?_
    rintro ⟨step, rfl, hpos, htoken, -⟩
    refine Triple.bind (lift_spec hcalls' fun _ _ => trivial) fun accumulated => ?_
    refine Triple.assume fun _ => ?_
    have hstep := hcontrol.push hpos htoken
    have honce : PrefixRun calls (calls ++ [.prefixStep control.steps.length token]) inputs
        [token] 1 control (pushPrefixExecution
          { control with steps := control.steps ++ [step] } elapsed accumulated) :=
      .once rfl rfl (by simp only [Call.endPosition, List.length_singleton]; omega) hstep
    refine (ih hcalls' hstep (by simp only [List.length_append, List.length_singleton]; omega)).conseq
      (fun _ h => h) (fun after world hrest => ?_) fun _ h => h
    have hh := honce.trans hrest
    rwa [Nat.add_comm 1] at hh

lemma nextPrefixTileTokenCount_bounds {remaining chunk : ℕ} (hr : 0 < remaining)
    (hc : 0 < chunk) : 0 < nextPrefixTileTokenCount remaining chunk ∧
      nextPrefixTileTokenCount remaining chunk ≤ remaining := by
  rw [nextPrefixTileTokenCount, if_neg (by omega)]
  have hpos : 0 < if remaining < chunk then remaining else chunk := by split_ifs <;> omega
  have hle := nextPrefillPhysicalSegmentTokenCount_le (if remaining < chunk then remaining else chunk)
  refine ⟨nextPrefillPhysicalSegmentTokenCount_pos hpos, hle.trans ?_⟩
  split_ifs <;> omega

omit [FloatingPoint F] in
lemma tileTokenCount_bounds (options : GenerationControlOptions σ F) {remaining chunk : ℕ}
    (hr : 0 < remaining) (hc : 0 < chunk) : 0 < tileTokenCount options remaining chunk ∧
      tileTokenCount options remaining chunk ≤ remaining := by
  unfold tileTokenCount
  split_ifs
  · rw [nextSingleArbitraryPrefixTileTokenCount, if_neg (by omega)]
    split_ifs <;> omega
  · exact nextPrefixTileTokenCount_bounds hr hc

def tileExecutions (options : GenerationControlOptions σ F) (chunk : ℕ) : ℕ → ℕ → ℕ
  | 0, _ => 0
  | n + 1, remaining =>
    if remaining = 0 then 0
    else tileExecutions options chunk n (remaining - tileTokenCount options remaining chunk) + 1

omit [FloatingPoint F] in
lemma tileExecutions_succ (options : GenerationControlOptions σ F) (chunk n remaining : ℕ) :
    tileExecutions options chunk (n + 1) remaining =
      if remaining = 0 then 0
      else tileExecutions options chunk n (remaining - tileTokenCount options remaining chunk) + 1 :=
  rfl

omit [FloatingPoint F] in
lemma tileExecutions_eq_prefixExecutions {options : GenerationControlOptions σ F} (chunk : ℕ)
    (hsingle : options.prefillSingleArbitraryTile = false) (n remaining : ℕ) :
    tileExecutions options chunk n remaining = prefixExecutions chunk n remaining := by
  induction n generalizing remaining with
  | zero => rfl
  | succ n ih => simp [tileExecutions, prefixExecutions, ih, tileTokenCount, hsingle]

omit [FloatingPoint F] in
lemma tileExecutions_eq_single {options : GenerationControlOptions σ F} {chunk : ℕ}
    (hsingle : options.prefillSingleArbitraryTile = true) (hc : 0 < chunk) (n remaining : ℕ)
    (hn : remaining ≤ n) : tileExecutions options chunk n remaining =
      singleArbitraryPrefixExecutionCount remaining chunk := by
  induction n generalizing remaining with
  | zero =>
    obtain rfl : remaining = 0 := by omega
    simp [tileExecutions, singleArbitraryPrefixExecutionCount]
  | succ n ih =>
    rw [tileExecutions_succ]
    split_ifs with hr
    · subst hr
      simp [singleArbitraryPrefixExecutionCount]
    · have hcount : tileTokenCount options remaining chunk =
          if remaining < chunk then remaining else chunk := by
        rw [tileTokenCount, if_pos hsingle, nextSingleArbitraryPrefixTileTokenCount,
          if_neg (by omega)]
      have hb := tileTokenCount_bounds options (Nat.pos_of_ne_zero hr) hc
      rw [ih _ (by omega), hcount]
      simp only [singleArbitraryPrefixExecutionCount, if_neg hc.ne']
      rcases Nat.lt_or_ge remaining chunk with hlt | hge
      · simp [hlt, Nat.div_eq_of_lt hlt, Nat.mod_eq_of_lt hlt, hr]
      · obtain ⟨rest, rfl⟩ := Nat.exists_eq_add_of_le hge
        rw [if_neg (Nat.not_lt.mpr hge), Nat.add_sub_cancel_left, Nat.add_div_left _ hc,
          Nat.add_mod_left]
        omega

lemma checkTile_ok {position : ℕ} {tokens : List ℕ}
    {outcome : Outcome (ReferencePrefillTileResult F)} {steps : List (ReferenceStepResult F)}
    {elapsed : F} (h : checkTile position tokens outcome = .ok (steps, elapsed)) :
    ∃ tile, outcome.toOption = some tile ∧ tile.steps = steps ∧ tile.timing = some elapsed ∧
      steps.length = tokens.length ∧ validElapsed elapsed = true ∧
      ∀ i < tokens.length, placeholder (steps.getD i {}) (position + i) (tokens.getD i 0) = true ∧
        (steps.getD i {}).timing.all validElapsed = true := by
  unfold checkTile at h
  cases ho : outcome.toOption with
  | none => simp [ho, fail] at h
  | some tile =>
    simp only [ho] at h
    cases ht : tile.timing with
    | none => simp [ht, fail] at h
    | some time =>
      simp only [ht, fail, guard_ok] at h
      obtain ⟨hlen, hvalid, h⟩ := h
      split_ifs at h with hall
      simp only [Except.ok.injEq, Prod.mk.injEq] at h
      obtain ⟨rfl, rfl⟩ := h
      refine ⟨tile, rfl, rfl, ht, by simpa using hlen, by simpa using hvalid, ?_⟩
      simpa only [List.all_eq_true, List.mem_range, Bool.and_eq_true] using hall

omit [FloatingPoint F] in
lemma placeholder_iff {step : ReferenceStepResult F} {position token : ℕ} :
    placeholder step position token = true ↔ step.position = position ∧
      step.inputTokenId = token ∧ step.logits = none ∧ step.prediction = none := by
  simp [placeholder]

lemma prefixTiles_spec {options : GenerationControlOptions σ F}
    (prefixTile : PrefillTileFunction σ F) {chunk bound : ℕ} (hchunk : 0 < chunk) (n : ℕ)
    {tokens inputs : List ℕ} {calls : List Call} {control : GenerationControl F}
    (hn : tokens.length ≤ n) (hcalls : Within bound calls)
    (hcontrol : Transcript inputs control.steps) (hbound : inputs.length + tokens.length ≤ bound) :
    Triple (Logged calls) (prefixTiles options prefixTile chunk n tokens control)
      (fun after world => PrefixRun calls world.calls inputs tokens
        (tileExecutions options chunk n tokens.length) control after)
      (StoppedWithin bound) := by
  induction n generalizing tokens inputs calls control with
  | zero =>
    obtain rfl : tokens = [] := List.length_eq_zero_iff.mp (by omega)
    refine Triple.ret fun world hworld => ?_
    rw [show world.calls = calls from hworld]
    exact .refl hcontrol
  | succ n ih =>
    rw [prefixTiles]
    split_ifs with hempty
    · subst hempty
      refine Triple.ret fun world hworld => ?_
      rw [show world.calls = calls from hworld]
      exact .refl hcontrol
    · dsimp only
      have hlen := hcontrol.length
      have hpos : 0 < tokens.length := List.length_pos_iff.mpr hempty
      obtain ⟨hcpos, hcle⟩ := tileTokenCount_bounds options hpos hchunk
      generalize hcount : tileTokenCount options tokens.length chunk = count at hcpos hcle
      generalize (options.prefillAllPromptTokens && decide (count = tokens.length)) = retain
      have htile : (tokens.take count).length = count := by simp [hcle]
      have hend : (Call.prefixTile control.steps.length (tokens.take count) retain).endPosition ≤
          bound := by
        simp only [Call.endPosition, htile]
        omega
      have hcalls' := hcalls.append (Within.single hend)
      refine Triple.bind (invoke_spec _ _ hcalls hend) fun outcome => ?_
      refine Triple.bind (lift_spec hcalls' fun r hr => checkTile_ok (by exact hr)) ?_
      rintro ⟨steps, elapsed⟩
      refine Triple.assume ?_
      rintro ⟨tile, -, -, -, hsteps, -, hplaced⟩
      refine Triple.bind (lift_spec hcalls' fun _ _ => trivial) fun accumulated => ?_
      refine Triple.assume fun _ => ?_
      have hstep : Transcript (inputs ++ tokens.take count) (control.steps ++ steps) := by
        refine hcontrol.append hsteps fun i hi => ?_
        have hp := placeholder_iff.1 (hplaced i hi).1
        exact ⟨by rw [hp.1, hlen], hp.2.1⟩
      have honce : PrefixRun calls (calls ++ [.prefixTile control.steps.length
          (tokens.take count) retain]) inputs (tokens.take count) 1 control
          (pushPrefixExecution { control with steps := control.steps ++ steps } elapsed
            accumulated) :=
        .once rfl rfl (by simp only [Call.endPosition]; omega) hstep
      refine (ih (by simp only [List.length_drop]; omega) hcalls' hstep (by
        simp only [List.length_append, List.length_drop, htile]; omega)).conseq
        (fun _ h => h) (fun after world hrest => ?_) fun _ h => h
      have hh := honce.trans hrest
      rw [List.take_append_drop, Nat.add_comm 1, List.length_drop] at hh
      rw [tileExecutions_succ, if_neg hpos.ne', hcount]
      exact hh

end Qwen3xOrin.Generation
