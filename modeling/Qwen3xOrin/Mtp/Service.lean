import Qwen3xOrin.Generation.ChunkSize
import Qwen3xOrin.Generation.Run
import Qwen3xOrin.Library.Speculation

/-! The generation service of a speculative build. The runner's context splits into the target
state `τ` that the backend drives and whatever else the callbacks own, `κ`. -/

namespace Qwen3xOrin.Mtp

open Generation

variable {τ κ F : Type}

structure Service (τ κ F : Type) where
  backend : RoundBackend τ
  length : ℕ
  maxSequenceLength : ℕ
  currentPosition : τ → ℕ
  cancel : Option (τ × κ → Bool) := none
  initializeDraft : List ℕ → τ → Bool × τ
  initializationMilliseconds : τ → F
  tokenMilliseconds : τ → F
  decodeMilliseconds : τ → F

structure Observer (κ F : Type) where
  context : κ
  calls : List Call
  control : GenerationControl F

def failure (cancelled : Bool) : ReferenceRunnerStatus where
  error := if cancelled then .cancelled else .poisoned
  operation := some (if cancelled then "mtp_cancelled" else "mtp_transaction_failure")

namespace Service

variable (service : Service τ κ F) (options : GenerationControlOptions (τ × κ) F)

def cancelled (context : τ × κ) : Bool := service.cancel.any fun probe => probe context

-- The hook that replaces nothing but runs before the first token is committed.
def start (promptTokenIds : List ℕ) : ControlM (τ × κ) F :=
  ExceptT.mk fun world =>
    let (ok, target) := service.initializeDraft promptTokenIds world.context.1
    let world := { world with context := (target, world.context.2) }
    if ok then (.ok (service.initializationMilliseconds target), world)
    else (.error (.failed .runnerFailure (failure (service.cancelled world.context))), world)

variable [FloatingPoint F]

open FloatingPoint

def emitted (control : GenerationControl F) (position token : ℕ) (ms : F) : GenerationControl F :=
  { control with
    steps := control.steps ++ [{
      position := position
      inputTokenId := control.generatedTokenIds.getLastD 0
      prediction := some token
      timing := some ms }]
    generatedTokenIds := control.generatedTokenIds ++ [token]
    timing :=
      { control.timing with
        subsequentTokenMilliseconds := control.timing.subsequentTokenMilliseconds ++ [ms]
        decodeAfterFirstMilliseconds := add control.timing.decodeAfterFirstMilliseconds ms
        totalGenerationMilliseconds := add control.timing.totalGenerationMilliseconds ms } }

def emit : TokenObserver τ (Observer κ F) := fun token (target, observer) =>
  let ms := service.tokenMilliseconds target
  let index := observer.control.generatedTokenIds.length
  let control := emitted observer.control (service.currentPosition target - 1) token ms
  match options.committedToken with
  | none => (true, (target, { observer with control := control }))
  | some committedToken =>
    let (goOn, (target, context)) := committedToken token index ms (target, observer.context)
    (goOn, (target,
      { context := context
        calls := observer.calls ++ [.committedToken token index]
        control := control }))

def roundOptions (target : τ) (control : GenerationControl F) : RoundOptions :=
  let remaining := options.maxNewTokens - control.generatedTokenIds.length
  { draftLength := outputTailBudget service.length remaining
    seedToken := control.generatedTokenIds.getLastD 0
    remainingOutput := remaining
    availableTargetRows := service.maxSequenceLength - service.currentPosition target
    vocabularySize := referenceVocabularySize
    stopToken := options.stopTokenId
    confidenceLookahead := true
    eosFrontier := true }

def stopWith (observer : Observer κ F) (reason : ReferenceStopReason) : Observer κ F :=
  { observer with control := { observer.control with stopReason := reason } }

-- The round loop; the first argument bounds the rounds, of which each emits a token.
def rounds : ℕ → τ × Observer κ F → Except Stop Unit × (τ × Observer κ F)
  | 0, s => (.ok (), s)
  | n + 1, (target, observer) =>
    if observer.control.generatedTokenIds.length < options.maxNewTokens then
      if service.cancelled (target, observer.context) then
        (.ok (), (target, stopWith observer .cancelled))
      else
        let round := service.roundOptions options target observer.control
        let (result, (target, observer)) := runRound round service.backend
          (some (service.emit options)) true
          (target, { observer with calls := observer.calls ++ [.round round] })
        if result.ok = false then
          (.error (.failed .runnerFailure (failure false)), (target, observer))
        else if result.status = .stop then (.ok (), (target, stopWith observer .imEnd))
        else if result.status = .cancelled then (.ok (), (target, stopWith observer .cancelled))
        else rounds n (target, observer)
    else (.ok (), (target, observer))

def decode (control : GenerationControl F) : ControlM (τ × κ) (GenerationControl F) :=
  ExceptT.mk fun world =>
    let (r, (target, observer)) := service.rounds options options.maxNewTokens
      (world.context.1, { context := world.context.2, calls := world.calls, control := control })
    let world := { context := (target, observer.context), calls := observer.calls }
    match r with
    | .error stop => (.error stop, world)
    | .ok () =>
      let ms := service.decodeMilliseconds target
      (.ok { observer.control with
        timing :=
          { observer.control.timing with
            decodeAfterFirstMilliseconds := ms
            totalGenerationMilliseconds :=
              add observer.control.timing.promptPrefillMilliseconds ms } }, world)

def decodeService : DecodeService (τ × κ) F where
  start := service.start
  decode := fun options => service.decode options

end Service

end Qwen3xOrin.Mtp

/-! What a client sees of a generation, and the ordinary decode loop as greedy generation. The
client's callback reads the token, its index and its own state. -/

namespace Qwen3xOrin.Mtp

open Prefill Library Generation FloatingPoint

variable {τ κ F : Type}

def stepView (step : ReferenceStepResult F) : ℕ × ℕ × Option ℕ :=
  (step.position, step.inputTokenId,
    step.prediction.or (step.logits.map (·.predictedTokenId)))

abbrev Client (κ : Type) := ℕ → ℕ → κ → Bool × κ

def Client.callback (client : Client κ) : CommittedTokenFunction (τ × κ) F :=
  fun token index _ (target, context) =>
    ((client token index context).1, (target, (client token index context).2))

structure Emission (κ : Type) where
  generated : List ℕ
  steps : List (ℕ × ℕ × Option ℕ)
  committed : List (ℕ × ℕ)
  context : κ

def publish (client : Option (Client κ)) (token : ℕ) (e : Emission κ) : Bool × Emission κ :=
  match client with
  | none => (true, { e with generated := e.generated ++ [token] })
  | some client =>
    ((client token e.generated.length e.context).1,
      { e with
        generated := e.generated ++ [token]
        committed := e.committed ++ [(token, e.generated.length)]
        context := (client token e.generated.length e.context).2 })

def decision (stopToken token : ℕ) (goOn : Bool) : Option ReferenceStopReason :=
  if token = stopToken then some .imEnd else if goOn = false then some .cancelled else none

def Emission.stepped (e : Emission κ) (promptLength token : ℕ) : Emission κ :=
  { e with
    steps := e.steps ++
      [(promptLength + e.generated.length - 1, e.generated.getLastD 0, some token)] }

def consume (client : Option (Client κ)) (promptLength stopToken token : ℕ) (e : Emission κ) :
    Option ReferenceStopReason × Emission κ :=
  let r := publish client token (e.stepped promptLength token)
  (decision stopToken token r.1, r.2)

structure Shows (e : Emission κ) (control : GenerationControl F) (calls : List Call)
    (context : κ) : Prop where
  generated : control.generatedTokenIds = e.generated
  steps : control.steps.map stepView = e.steps
  committed : calls.filterMap Call.committed = e.committed
  context : context = e.context
  rounds : ∀ round, .round round ∈ calls → round.valid = true

section

variable {client : Option (Client κ)} {e : Emission κ} {token stopToken promptLength : ℕ}

lemma publish_generated : (publish client token e).2.generated = e.generated ++ [token] := by
  cases client <;> rfl

lemma publish_steps : (publish client token e).2.steps = e.steps := by
  cases client <;> rfl

lemma consume_generated :
    (consume client promptLength stopToken token e).2.generated = e.generated ++ [token] :=
  publish_generated

lemma decision_none {goOn : Bool} (h : decision stopToken token goOn = none) :
    token ≠ stopToken := by
  rintro rfl
  simp [decision] at h

lemma commitToken_shows {options : GenerationControlOptions (τ × κ) F}
    (hclient : options.committedToken = client.map Client.callback)
    {control : GenerationControl F} {elapsed : F} {target : τ} {context : κ} {calls : List Call}
    (h : Shows e control calls context) {q : Prop} :
    Triple (Exactly { context := (target, context), calls := calls })
      (commitToken options control token elapsed)
      (fun r world => r.2 = (publish client token e).1 ∧
        r.1 = { control with generatedTokenIds := control.generatedTokenIds ++ [token] } ∧
        world.context.1 = target ∧
        Shows (publish client token e).2 r.1 world.calls world.context.2)
      (fun _ => q) := by
  rintro world rfl
  unfold commitToken
  rw [hclient]
  cases client with
  | none =>
    exact ⟨rfl, rfl, rfl, by simp [publish, h.generated], h.steps, h.committed, h.context, h.rounds⟩
  | some client =>
    have hindex := h.generated
    have hcontext := h.context
    refine ⟨?_, rfl, rfl, ?_, h.steps, ?_, ?_, ?_⟩
    · simp [publish, hindex, hcontext]
    · simp [publish, hindex]
    · simp [publish, Call.committed, List.filterMap_append, h.committed, hindex]
    · simp [publish, hindex, hcontext]
    · simpa using h.rounds

end

lemma checkPrediction_view {mode : ReferenceLogitsMode} {step : ReferenceStepResult F}
    {predicted : ℕ} (h : checkPrediction mode step = .ok predicted) :
    stepView step = (step.position, step.inputTokenId, some predicted) := by
  cases mode with
  | fullStatistics =>
    simp only [checkPrediction, fail, guard_ok] at h
    obtain ⟨hprediction, h⟩ := h
    cases hlogits : step.logits with
    | none => simp [hlogits] at h
    | some logits =>
      simp only [hlogits, Except.ok.injEq] at h
      have hnone : step.prediction = none := by simpa using hprediction
      simp [stepView, hnone, hlogits, h]
  | predictedTokenOnly =>
    simp only [checkPrediction, fail, guard_ok] at h
    obtain ⟨-, h⟩ := h
    cases hprediction : step.prediction with
    | none => simp [hprediction] at h
    | some prediction =>
      simp only [hprediction, Except.ok.injEq] at h
      simp [stepView, hprediction, h]

lemma stepResult_some {σ : Type} {f : StepFunction σ F} {stepOptions : ReferenceStepOptions}
    {context context' : σ} {token : ℕ} {step : ReferenceStepResult F}
    (h : stepResult f stepOptions context token = some (step, context')) :
    ∃ answer, f token stepOptions context = (.ok answer, context') ∧
      answer.toOption = some step := by
  rw [stepResult] at h
  rcases hcall : f token stepOptions context with ⟨_ | answer, found⟩
  · simp [hcall] at h
  · simp only [hcall] at h
    obtain ⟨step', hstep, heq⟩ := Option.map_eq_some_iff.mp h
    obtain ⟨rfl, rfl⟩ := Prod.mk.inj heq
    exact ⟨answer, rfl, hstep⟩

lemma outcome_invoke {σ α : Type} {call : Call} {callback : Callback σ α} {onOther : Stop}
    {context context' : σ} {calls : List Call} {a : α} (h : callback context = (.ok a, context')) :
    outcome (invoke call callback onOther) { context := context, calls := calls } =
      (.ok a, { context := context', calls := calls ++ [call] }) := by
  simp only [outcome, invoke, ExceptT.run, ExceptT.mk, StateT.run, h]

structure DeterministicTarget (options : GenerationControlOptions (τ × κ) F)
    (decodeStep : StepFunction (τ × κ) F) (next : List ℕ → ℕ) (Consumed : List ℕ → τ → Prop) :
    Prop where
  vocabulary : ∀ history, next history < referenceVocabularySize
  step : ∀ history token target context, Consumed history target →
    history.length < options.maxSequenceLength →
    ∃ step target', stepResult decodeStep (phaseOptions options true) (target, context) token =
        some (step, (target', context)) ∧
      step.position = history.length ∧ step.inputTokenId = token ∧
      checkPrediction options.logitsMode step = .ok (next (history ++ [token])) ∧
      Consumed (history ++ [token]) target'

variable [FloatingPoint F]

section

variable {options : GenerationControlOptions (τ × κ) F} {decodeStep : StepFunction (τ × κ) F}
  {next : List ℕ → ℕ} {Consumed : List ℕ → τ → Prop} {Reported : F → Prop} {strict : Prop}

lemma checkStep_predicts {mode : ReferenceLogitsMode} {position token predicted : ℕ}
    {outcome : Outcome (ReferenceStepResult F)} {step : ReferenceStepResult F} {elapsed : F}
    (hstep : outcome.toOption = some step) (hposition : step.position = position)
    (htoken : step.inputTokenId = token) (htiming : step.timing = some elapsed)
    (hpredicted : checkPrediction mode step = .ok predicted)
    (hvalid : validElapsed elapsed = true) (hvocabulary : predicted < referenceVocabularySize) :
    checkStep mode position token true outcome = .ok (step, elapsed, predicted) := by
  simp only [checkStep, hstep, hposition, htoken, htiming, stepPrediction, hpredicted, hvalid]
  simp [bind, Except.bind, Nat.not_le.mpr hvocabulary]

lemma execute_target (htarget : DeterministicTarget options decodeStep next Consumed)
    (hclock : strict → SteadyClock Reported) (htimed : strict → Timed Reported decodeStep)
    {control : GenerationControl F} {history : List ℕ} {token : ℕ} {target : τ} {context : κ}
    {calls : List Call} (hconsumed : Consumed history target)
    (hcapacity : history.length < options.maxSequenceLength)
    (hlength : control.steps.length = history.length) :
    Triple (Exactly { context := (target, context), calls := calls })
      (execute options control .decodeStep decodeStep token true)
      (fun r world => ∃ step target', r.1 = { control with steps := control.steps ++ [step] } ∧
        stepView step = (history.length, token, some (next (history ++ [token]))) ∧
        r.2.2 = next (history ++ [token]) ∧ (strict → Reported r.2.1) ∧
        Consumed (history ++ [token]) target' ∧
        Exactly { context := (target', context), calls := calls ++ [.decodeStep history.length token] }
          world)
      (fun _ => ¬ strict) := by
  obtain ⟨step, target', hresult, hposition, htoken, hpredicted, hconsumed'⟩ :=
    htarget.step history token target context hconsumed hcapacity
  obtain ⟨answer, hcall, hanswer⟩ := stepResult_some hresult
  refine Triple.bind (Triple.step (outcome_invoke hcall)) fun found => ?_
  refine Triple.assume ?_
  rintro rfl
  rw [hlength]
  refine Triple.bind (lift_at fun stop hstop hs => ?_) ?_
  · obtain ⟨elapsed, htiming, helapsed⟩ := htimed hs _ rfl _ _ _ _ hresult
    rw [checkStep_predicts hanswer hposition htoken htiming hpredicted
      ((hclock hs).valid elapsed helapsed) (htarget.vocabulary _)] at hstop
    cases hstop
  rintro ⟨found, elapsed, predicted⟩
  refine Triple.assume fun hcheck => Triple.ret fun world hworld => ?_
  obtain ⟨hfound, -, -, htiming, -, hprediction, -⟩ := checkStep_ok hcheck
  obtain rfl : step = found := Option.some_inj.mp (hanswer.symm.trans hfound)
  have heq : predicted = next (history ++ [token]) :=
    Option.some_inj.mp ((hprediction rfl).1.symm.trans (checkPrediction_ok hpredicted))
  refine ⟨step, target', rfl, ?_, heq, fun hs => ?_, hconsumed', hworld⟩
  · rw [checkPrediction_view hpredicted, hposition, htoken]
  · obtain ⟨time, htime, hreported⟩ := htimed hs _ rfl _ _ _ _ hresult
    rw [htiming, Option.some_inj] at htime
    rw [htime]
    exact hreported

lemma decodeLoop_greedy {client : Option (Client κ)}
    (htarget : DeterministicTarget options decodeStep next Consumed)
    (hclient : options.committedToken = client.map Client.callback)
    (hclock : strict → SteadyClock Reported) (htimed : strict → Timed Reported decodeStep)
    {prompt : List ℕ} (n : ℕ) {control : GenerationControl F} {e : Emission κ} {target : τ}
    {context : κ} {calls : List Call} (hshows : Shows e control calls context)
    (hgenerated : e.generated ≠ []) (hconsumed : Consumed (prompt ++ e.generated.dropLast) target)
    (hlength : control.steps.length = (prompt ++ e.generated.dropLast).length)
    (hcapacity : prompt.length + e.generated.length + n ≤ options.maxSequenceLength + 1)
    (hfinite : strict → FiniteTotals control) :
    Triple (Exactly { context := (target, context), calls := calls })
      (decodeLoop options decodeStep n control)
      (fun after world =>
        Shows (greedy next (consume client prompt.length options.stopTokenId) n
          (prompt ++ e.generated) e).2 after world.calls world.context.2 ∧
        after.stopReason = (greedy next (consume client prompt.length options.stopTokenId) n
          (prompt ++ e.generated) e).1.getD control.stopReason)
      (fun _ => ¬ strict) := by
  induction n generalizing control e target context calls with
  | zero =>
    refine Triple.ret ?_
    rintro world rfl
    exact ⟨hshows, rfl⟩
  | succ n ih =>
    have hpos := List.length_pos_iff.mpr hgenerated
    obtain ⟨front, last, hlast⟩ := (List.eq_nil_or_concat' e.generated).resolve_left hgenerated
    have hhistory : prompt ++ e.generated.dropLast ++ [e.generated.getLastD 0] =
        prompt ++ e.generated := by
      simp [hlast]
    have hconsumedLength : (prompt ++ e.generated.dropLast).length =
        prompt.length + e.generated.length - 1 := by
      rw [List.length_append, List.length_dropLast]
      omega
    rw [decodeLoop, hshows.generated]
    refine Triple.bind (execute_target htarget hclock htimed hconsumed (by omega) hlength) ?_
    rintro ⟨stepped, elapsed, predicted⟩ world
      ⟨step, target', rfl, hview, hpredicted, hreported, hconsumed', hworld⟩
    rw [hhistory] at hview hpredicted hconsumed'
    obtain rfl : predicted = next (prompt ++ e.generated) := hpredicted
    refine Triple.bind (lift_at fun stop hstop hs => ?_) (fun decodeAfterFirst => ?_) _ hworld
    · rw [(hclock hs).accumulate (hfinite hs).decodeAfterFirst (hreported hs)] at hstop
      cases hstop
    refine Triple.assume fun hafter => ?_
    rw [accumulate_ok hafter]
    refine Triple.bind (lift_at fun stop hstop hs => ?_) fun totalGeneration => ?_
    · rw [(hclock hs).accumulate (hfinite hs).totalGeneration (hreported hs)] at hstop
      cases hstop
    refine Triple.assume fun htotal => ?_
    rw [accumulate_ok htotal]
    have hstepped : Shows (e.stepped prompt.length (next (prompt ++ e.generated)))
        { control with steps := control.steps ++ [step] }
        (calls ++ [.decodeStep (prompt ++ e.generated.dropLast).length (e.generated.getLastD 0)])
        context :=
      ⟨hshows.generated, by simp [Emission.stepped, hshows.steps, hview, hconsumedLength],
        by simp [Emission.stepped, hshows.committed, Call.committed], hshows.context,
        by simpa using hshows.rounds⟩
    refine Triple.bind (commitToken_shows (e := e.stepped prompt.length _) hclient
      (by exact { hstepped with })) ?_
    rintro ⟨committed, goOn⟩ world ⟨hgoOn, hcommitted, htarget', hshows'⟩
    obtain rfl : goOn = _ := hgoOn
    obtain rfl : committed = _ := hcommitted
    obtain rfl : world.context.1 = target' := htarget'
    have hnext : (publish client (next (prompt ++ e.generated))
        (e.stepped prompt.length (next (prompt ++ e.generated)))).2.generated =
        e.generated ++ [next (prompt ++ e.generated)] := publish_generated
    rw [greedy]
    simp only [consume, decision]
    by_cases hstop : next (prompt ++ e.generated) = options.stopTokenId
    · simp only [hstop, if_true]
      rw [hstop] at hshows'
      exact ⟨{ hshows' with }, rfl⟩
    · simp only [if_neg hstop]
      cases hgoOn : (publish client (next (prompt ++ e.generated))
        (e.stepped prompt.length (next (prompt ++ e.generated)))).1 with
      | false => exact ⟨{ hshows' with }, rfl⟩
      | true =>
        simp only [Bool.true_eq_false, if_false]
        rw [List.append_assoc, ← hnext]
        refine ih { hshows' with } ?_ ?_ ?_ ?_ (fun hs => ?_) world rfl
        · simp [hnext]
        · rw [hnext, List.dropLast_concat]
          exact hconsumed'
        · simp only [hnext, List.dropLast_concat, List.length_append, List.length_singleton]
          omega
        · simp only [hnext, List.length_append, List.length_singleton]
          omega
        · exact ⟨(hfinite hs).promptPrefill,
            (hclock hs).add _ _ (hfinite hs).decodeAfterFirst (hreported hs),
            (hclock hs).add _ _ (hfinite hs).totalGeneration (hreported hs)⟩

end

end Qwen3xOrin.Mtp
