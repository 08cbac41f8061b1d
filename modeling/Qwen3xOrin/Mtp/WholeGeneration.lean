import Qwen3xOrin.Mtp.Speculative

/-! A whole generation with the speculative service next to the same generation without it. -/

namespace Qwen3xOrin.Mtp

open Prefill Library Generation FloatingPoint

variable {τ κ F : Type}

def shownGeneration (next : List ℕ → ℕ) (client : Option (Client κ)) (prompt : List ℕ)
    (stopToken maxNewTokens predicted : ℕ) (e : Emission κ) :
    Option ReferenceStopReason × Emission κ :=
  let r := publish client predicted e
  match decision stopToken predicted r.1 with
  | some reason => (some reason, r.2)
  | none => greedy next (consume client prompt.length stopToken) (maxNewTokens - 1)
      (prompt ++ r.2.generated) r.2

structure ShownIn (shown : Option ReferenceStopReason × Emission κ) (control : GenerationControl F)
    (world : World (τ × κ)) : Prop extends
    Shows shown.2 control world.calls world.context.2 where
  stopReason : control.stopReason = shown.1.getD .maxNewTokens

structure FirstToken (prompt : List ℕ) (stopToken : ℕ) (e : Emission κ)
    (control : GenerationControl F) (calls : List Call) (context : κ) : Prop extends
    Shows e control calls context where
  single : ∃ token, e.generated = [token] ∧ token < referenceVocabularySize ∧ token ≠ stopToken
  length : control.steps.length = prompt.length
  stopReason : control.stopReason = .maxNewTokens

variable [FloatingPoint F]

section

variable {options : GenerationControlOptions (τ × κ) F} {decodePlan : DecodePlan (τ × κ) F}
  {client : Option (Client κ)} {next : List ℕ → ℕ} {prompt : List ℕ} {strict : Prop}

def DecodesGreedily (options : GenerationControlOptions (τ × κ) F) (client : Option (Client κ))
    (next : List ℕ → ℕ) (prompt : List ℕ) (Start : τ → GenerationControl F → Prop)
    (decoder : GenerationControl F → ControlM (τ × κ) (GenerationControl F))
    (stopped : Prop) : Prop :=
  ∀ control e target context calls, FirstToken prompt options.stopTokenId e control calls context →
    Start target control →
    Triple (Exactly { context := (target, context), calls := calls }) (decoder control)
      (ShownIn (greedy next (consume client prompt.length options.stopTokenId)
        (options.maxNewTokens - 1) (prompt ++ e.generated) e))
      (fun _ => stopped)

lemma generate_shown (hclient : options.committedToken = client.map Client.callback)
    {service : Option (DecodeService (τ × κ) F)} {Start : τ → GenerationControl F → Prop}
    {stopped : Prop} (hdecode : DecodesGreedily options client next prompt Start
      (decode options decodePlan service) stopped)
    {control : GenerationControl F} {predicted : ℕ} {target : τ} {context : κ} {calls : List Call}
    (hprefilled : Prefilled prompt options.logitsMode control predicted)
    (hquiet : calls.filterMap Call.committed = [])
    (hrounds : ∀ round, .round round ∉ calls)
    (hstart : ∀ generated,
      Start target { control with
        generatedTokenIds := generated
        timing := { control.timing with
          timeToFirstTokenMilliseconds := control.timing.promptPrefillMilliseconds
          totalGenerationMilliseconds := control.timing.promptPrefillMilliseconds } }) :
    Triple (Exactly { context := (target, context), calls := calls })
      (generate options decodePlan service control predicted)
      (ShownIn (shownGeneration next client prompt options.stopTokenId options.maxNewTokens
        predicted ⟨[], control.steps.map stepView, [], context⟩))
      (fun _ => stopped) := by
  have hshows : Shows ⟨[], control.steps.map stepView, [], context⟩ control calls context :=
    ⟨hprefilled.generated, rfl, hquiet, rfl, fun round hround => absurd hround (hrounds round)⟩
  refine Triple.bind (commitToken_shows hclient (e := ⟨[], control.steps.map stepView, [], context⟩)
    (by exact { hshows with })) ?_
  rintro ⟨committed, goOn⟩ world ⟨hgoOn, hcommitted, htarget, hshows'⟩
  obtain rfl : goOn = _ := hgoOn
  obtain rfl : committed = _ := hcommitted
  obtain rfl : world.context.1 = target := htarget
  simp only [shownGeneration, decision]
  by_cases hstop : predicted = options.stopTokenId
  · simp only [if_pos hstop]
    exact ⟨{ hshows' with }, rfl⟩
  · simp only [if_neg hstop]
    cases hcontinue : (publish client predicted ⟨[], control.steps.map stepView, [], context⟩).1 with
    | false => exact ⟨{ hshows' with }, rfl⟩
    | true =>
      simp only [Bool.true_eq_false, if_false]
      refine hdecode _ _ _ _ _ ⟨hshows', ⟨predicted, ?_, hprefilled.vocabulary, hstop⟩, ?_,
        hprefilled.stopReason⟩ (hstart _) world rfl
      · rw [publish_generated, List.nil_append]
      · exact hprefilled.transcript.length

lemma ordinary_decodes {decodeStep : StepFunction (τ × κ) F} {Consumed : List ℕ → τ → Prop}
    {Reported : F → Prop} (hstep : decodePlan.decodeStep = some decodeStep)
    (htarget : DeterministicTarget options decodeStep next Consumed)
    (hclient : options.committedToken = client.map Client.callback)
    (hclock : strict → SteadyClock Reported) (htimed : strict → Timed Reported decodeStep)
    (hcapacity : prompt.length + options.maxNewTokens ≤ options.maxSequenceLength + 1)
    (hmax : 0 < options.maxNewTokens) :
    DecodesGreedily options client next prompt
      (fun target control => Consumed prompt target ∧ (strict → FiniteTotals control))
      (decode options decodePlan none) (¬ strict) := by
  rintro control e target context calls hfirst ⟨hconsumed, hfinite⟩
  obtain ⟨token, htoken, -, -⟩ := hfirst.single
  have hleft : options.maxNewTokens - control.generatedTokenIds.length =
      options.maxNewTokens - 1 := by
    rw [hfirst.generated, htoken, List.length_singleton]
  simp only [decode, hstep, hleft]
  refine (decodeLoop_greedy htarget hclient hclock htimed _ hfirst.toShows (by simp [htoken]) ?_ ?_ ?_
    hfinite).conseq (fun _ h => h) (fun after world h => ⟨h.1, ?_⟩) fun _ h => h
  · simpa [htoken] using hconsumed
  · simpa [htoken] using hfirst.length
  · rw [htoken, List.length_singleton]
    omega
  · rw [h.2, hfirst.stopReason]

lemma service_decodes {service : Service τ κ F} (lossless : Lossless service next)
    (hvocabulary : ∀ history, next history < referenceVocabularySize)
    (hclient : options.committedToken = client.map Client.callback)
    (hlength : service.length = 2 ∨ service.length = 3)
    (hcancel : ∀ probe ∈ service.cancel, ∀ context, probe context = false)
    (hstop : options.stopTokenId < referenceVocabularySize)
    (hcapacity : prompt.length + options.maxNewTokens ≤ service.maxSequenceLength + 1) :
    DecodesGreedily options client next prompt (fun target _ => lossless.Idle prompt target)
      (decode options decodePlan (some service.decodeService)) False := by
  rintro control e target context calls hfirst hidle
  obtain ⟨token, htoken, hvocab, hnotStop⟩ := hfirst.single
  have hready : Ready lossless prompt options.stopTokenId e target
      ⟨context, calls, control⟩ :=
    { nonempty := by simp [htoken]
      vocabulary := by simpa [htoken] using hvocab
      notStopped := by simpa [htoken] using hnotStop
      idle := by simpa [htoken] using hidle
      observed := ⟨hfirst.toShows, hfirst.stopReason⟩ }
  obtain ⟨target', observer', hrounds, hshown⟩ := rounds_greedy hvocabulary hclient hlength hcancel
    hstop hcapacity options.maxNewTokens (Nat.sub_le _ _) hready
  rw [htoken, List.length_singleton] at hshown
  rintro world rfl
  simp only [outcome, decode, Service.decodeService, Service.decode, ExceptT.run, ExceptT.mk,
    StateT.run, hrounds]
  rw [← htoken] at hshown
  exact ⟨⟨hshown.generated, hshown.steps, hshown.committed, hshown.context, hshown.rounds⟩,
    hshown.stopReason⟩

omit [FloatingPoint F] in
lemma prefillCalls_noRound {cfg : BuildConfig} {calls : List Call}
    {topology : Option PrefillExecutionPlan}
    (h : PrefillCalls cfg prompt options calls topology) (round : RoundOptions) :
    .round round ∉ calls := by
  intro hround
  cases topology with
  | none =>
    obtain ⟨executions, rfl, -, -, hexecuted⟩ := h
    rcases List.mem_append.mp hround with hmem | hmem
    · cases hexecuted _ hmem
    · cases List.mem_singleton.mp hmem
  | some plan =>
    obtain ⟨progress, rfl, -⟩ := h
    simp at hround

lemma service_generates {service : Service τ κ F} (lossless : Lossless service next)
    (hclient : options.committedToken = client.map Client.callback)
    (hdecode : DecodesGreedily options client next prompt (fun target _ => lossless.Idle prompt target)
      (decode options decodePlan (some service.decodeService)) False)
    {control : GenerationControl F} {predicted : ℕ} {target : τ} {context : κ} {calls : List Call}
    (hinitialized : (service.initializeDraft prompt target).1 = true ∧
      lossless.Idle prompt (service.initializeDraft prompt target).2)
    (hprefilled : Prefilled prompt options.logitsMode control predicted)
    (hquiet : calls.filterMap Call.committed = []) (hrounds : ∀ round, .round round ∉ calls) :
    Triple (Exactly { context := (target, context), calls := calls })
      (startService prompt (some service.decodeService) control >>= fun control =>
        generate options decodePlan (some service.decodeService) control predicted)
      (ShownIn (shownGeneration next client prompt options.stopTokenId options.maxNewTokens
        predicted ⟨[], control.steps.map stepView, [], context⟩))
      (fun _ => False) := by
  have hstarted : outcome (service.start prompt) { context := (target, context), calls := calls } =
      (.ok (service.initializationMilliseconds (service.initializeDraft prompt target).2),
        { context := ((service.initializeDraft prompt target).2, context), calls := calls }) := by
    simp only [outcome, Service.start, ExceptT.run, ExceptT.mk, StateT.run, hinitialized.1, if_true]
  simp only [startService, bind_assoc, pure_bind]
  refine Triple.bind (Triple.step hstarted) fun ms => Triple.assume fun _ => ?_
  exact generate_shown hclient hdecode { hprefilled with } hquiet hrounds fun _ => hinitialized.2

end

structure SameShown (a b : GenerationControl F) (calls calls' : List Call) : Prop where
  generated : a.generatedTokenIds = b.generatedTokenIds
  steps : a.steps.map stepView = b.steps.map stepView
  stopReason : a.stopReason = b.stopReason
  committed : calls.filterMap Call.committed = calls'.filterMap Call.committed

omit [FloatingPoint F] in
lemma ShownIn.same {shown : Option ReferenceStopReason × Emission κ} {a b : GenerationControl F}
    {world world' : World (τ × κ)} (h : ShownIn shown a world) (h' : ShownIn shown b world') :
    SameShown a b world.calls world'.calls where
  generated := h.generated.trans h'.generated.symm
  steps := h.steps.trans h'.steps.symm
  stopReason := h.stopReason.trans h'.stopReason.symm
  committed := h.committed.trans h'.committed.symm

def generationRun (cfg : BuildConfig) (promptTokenIds : List ℕ)
    (options : GenerationControlOptions (τ × κ) F) (prefillPlan : PrefillPlan (τ × κ) F)
    (decodePlan : DecodePlan (τ × κ) F) (context : τ × κ)
    (service : Option (DecodeService (τ × κ) F)) :
    Except Stop (GenerationControl F) × World (τ × κ) :=
  outcome (runGenerationControl cfg promptTokenIds options prefillPlan decodePlan service)
    { context := context }

lemma generationRun_cases (cfg : BuildConfig) (promptTokenIds : List ℕ)
    (options : GenerationControlOptions (τ × κ) F) (prefillPlan : PrefillPlan (τ × κ) F)
    (decodePlan : DecodePlan (τ × κ) F) (context : τ × κ) :
    (∃ stop world, ∀ service, generationRun cfg promptTokenIds options prefillPlan decodePlan
      context service = (.error stop, world)) ∨
    ∃ topology control predicted world,
      admission cfg promptTokenIds options prefillPlan decodePlan = .ok topology ∧
      outcome (prefill cfg topology promptTokenIds options prefillPlan) { context := context } =
        (.ok (control, predicted), world) ∧
      ∀ service, generationRun cfg promptTokenIds options prefillPlan decodePlan context service =
        outcome (startService promptTokenIds service control >>= fun control =>
          generate options decodePlan service control predicted) world := by
  cases hadmission : admission cfg promptTokenIds options prefillPlan decodePlan with
  | error stop =>
    refine .inl ⟨stop, { context := context }, fun service => ?_⟩
    rw [generationRun, runGenerationControl, outcome_bind, hadmission]
    rfl
  | ok topology =>
    rcases hprefill : outcome (prefill cfg topology promptTokenIds options prefillPlan)
      { context := context } with ⟨stop | ⟨control, predicted⟩, world⟩
    · refine .inl ⟨stop, world, fun service => ?_⟩
      rw [generationRun, runGenerationControl, outcome_bind, hadmission]
      simp only [lift, outcome_lift]
      rw [outcome_bind, hprefill]
    · refine .inr ⟨topology, control, predicted, world, rfl, hprefill, fun service => ?_⟩
      rw [generationRun, runGenerationControl, outcome_bind, hadmission]
      simp only [lift, outcome_lift]
      rw [outcome_bind, hprefill]

theorem speculative_decoding_lossless (cfg : BuildConfig) (promptTokenIds : List ℕ)
    (options : GenerationControlOptions (τ × κ) F) (prefillPlan : PrefillPlan (τ × κ) F)
    (decodePlan : DecodePlan (τ × κ) F) (service : Service τ κ F) (context : τ × κ)
    (next : List ℕ → ℕ) (client : Option (Client κ)) (Consumed : List ℕ → τ → Prop)
    (decodeStep : StepFunction (τ × κ) F) (hstep : decodePlan.decodeStep = some decodeStep)
    (htarget : DeterministicTarget options decodeStep next Consumed)
    (lossless : Lossless service next)
    (hready : ∀ target, Consumed promptTokenIds target →
      (service.initializeDraft promptTokenIds target).1 = true ∧
        lossless.Idle promptTokenIds (service.initializeDraft promptTokenIds target).2)
    (hlength : service.length = 2 ∨ service.length = 3)
    (hsequence : service.maxSequenceLength = options.maxSequenceLength)
    (hcancel : ∀ probe ∈ service.cancel, ∀ context, probe context = false)
    (hclient : options.committedToken = client.map Client.callback)
    (hprefill : ∀ topology, Triple (At context)
      (prefill cfg topology promptTokenIds options prefillPlan)
      (fun _ world => Consumed promptTokenIds world.context.1) (fun _ => True))
    (run : Option (DecodeService (τ × κ) F) → Except Stop (GenerationControl F) × World (τ × κ))
    (hrun : run = generationRun cfg promptTokenIds options prefillPlan decodePlan context) :
    (∀ a, (run none).1 = .ok a → ∃ b, (run (some service.decodeService)).1 = .ok b ∧
      SameShown a b (run none).2.calls (run (some service.decodeService)).2.calls) ∧
    (∀ b, (run (some service.decodeService)).1 = .ok b →
      ∀ round, .round round ∈ (run (some service.decodeService)).2.calls → round.valid = true) ∧
    ∀ Reported : F → Prop, SteadyClock Reported → Timed Reported decodeStep →
      (∀ topology, Triple (At context) (prefill cfg topology promptTokenIds options prefillPlan)
        (fun r _ => FiniteTotals r.1) (fun _ => True)) →
      (run none).1.isOk = (run (some service.decodeService)).1.isOk := by
  subst hrun
  rcases generationRun_cases cfg promptTokenIds options prefillPlan decodePlan context with
    ⟨stop, world, hfailed⟩ | ⟨topology, control, predicted, world, hadmission, hrun, htail⟩
  · simp [hfailed]
  obtain ⟨hadmitted, hplan⟩ := admission_ok hadmission
  have hcapacity := hadmitted.capacity
  have hmax := hadmitted.maxNewTokens
  have hspec := ((prefill_spec prefillPlan hadmitted hplan (le_refl promptTokenIds.length)).elim
    (show Logged [] { context := context } from rfl)).1 (control, predicted) (by rw [hrun])
  rw [hrun] at hspec
  obtain ⟨-, hcalls, hprefilled⟩ := hspec
  have hconsumed := ((hprefill topology).elim
    (show At context { context := context } from rfl)).1 (control, predicted) (by rw [hrun])
  rw [hrun] at hconsumed
  have hspeculative := (service_generates lossless hclient
    (@service_decodes τ κ F _ options decodePlan client next promptTokenIds service lossless
      htarget.vocabulary hclient hlength hcancel hadmitted.stopToken (by omega))
    (hready _ hconsumed) hprefilled hcalls.quiet (prefillCalls_noRound hcalls)).elim
    (show Exactly _ world from rfl)
  have hordinary : ∀ (Reported : F → Prop) (strict : Prop), (strict → SteadyClock Reported) →
      (strict → Timed Reported decodeStep) → (strict → FiniteTotals control) →
      Triple (Exactly world) (generate options decodePlan none control predicted)
        (ShownIn (shownGeneration next client promptTokenIds options.stopTokenId
          options.maxNewTokens predicted ⟨[], control.steps.map stepView, [], world.context.2⟩))
        (fun _ => ¬ strict) := by
    intro Reported strict hclock htimed hfinite
    refine generate_shown hclient (ordinary_decodes hstep htarget hclient hclock htimed (by omega)
      hmax) hprefilled hcalls.quiet (prefillCalls_noRound hcalls) fun _ => ⟨hconsumed, fun hs => ?_⟩
    exact ⟨(hfinite hs).promptPrefill, (hfinite hs).decodeAfterFirst, (hfinite hs).promptPrefill⟩
  rw [← htail] at hspeculative
  have hnone := htail none
  rw [startService, pure_bind] at hnone
  have hreturns : ∃ b, (generationRun cfg promptTokenIds options prefillPlan decodePlan context
      (some service.decodeService)).1 = .ok b := by
    cases hresult : (generationRun cfg promptTokenIds options prefillPlan decodePlan context
        (some service.decodeService)).1 with
    | ok b => exact ⟨b, rfl⟩
    | error stop => exact (hspeculative.2 stop hresult).elim
  obtain ⟨b, hb⟩ := hreturns
  refine ⟨fun a ha => ⟨b, hb, ?_⟩, fun b' hb' => (hspeculative.1 b' hb').rounds, ?_⟩
  · rw [hnone] at ha ⊢
    have hshown := (hordinary (fun _ => False) False False.elim False.elim False.elim).elim
      (show Exactly world world from rfl)
    exact (hshown.1 a ha).same (hspeculative.1 b hb)
  · intro Reported hclock htimed hfinite
    have hfinite' := ((hfinite topology).elim
      (show At context { context := context } from rfl)).1 (control, predicted) (by rw [hrun])
    have hshown := (hordinary Reported True (fun _ => hclock) (fun _ => htimed)
      fun _ => hfinite').elim (show Exactly world world from rfl)
    rw [hb, hnone]
    cases hresult : (outcome (generate options decodePlan none control predicted) world).1 with
    | ok a => rfl
    | error stop => exact (hshown.2 stop hresult trivial).elim

-- A target that keeps its whole history, with a drafter that always guesses token zero.
structure HistoryTarget where
  consumed : List ℕ
  inputs : List ℕ := []
  committed : ℕ := 0

def zeroDraftBackend (next : List ℕ → ℕ) : RoundBackend HistoryTarget where
  begin _ target := (true, { target with inputs := [], committed := 0 })
  propose _ count target := ((true, List.replicate count 0), target)
  proposeEosBounded _ maximum _ target :=
    ({ ok := true, draft := List.replicate maximum 0, count := maximum }, target)
  verify seed draft count target :=
    ((true, (List.range (count + 1)).map fun i => next (target.consumed ++ seed :: draft.take i)),
      { target with inputs := seed :: draft.take count })
  commitPrefix rows _ target := (true, { target with committed := rows })
  finish target := (true, { consumed := target.consumed ++ target.inputs.take target.committed })
  abort target := (true, target)

def historyService (next : List ℕ → ℕ) (maxSequenceLength : ℕ) : Service HistoryTarget Unit ℕ where
  backend := zeroDraftBackend next
  length := 3
  maxSequenceLength := maxSequenceLength
  currentPosition target := target.consumed.length + target.committed
  initializeDraft _ target := (true, { consumed := target.consumed })
  initializationMilliseconds _ := 0
  tokenMilliseconds _ := 0
  decodeMilliseconds _ := 0

def historyLossless (next : List ℕ → ℕ) (maxSequenceLength : ℕ) :
    Lossless (historyService next maxSequenceLength) next where
  Idle history target := target.consumed = history ∧ target.committed = 0
  Opened history _ target := target.consumed = history ∧ target.committed = 0
  Staged history inputs committed target :=
    target.consumed = history ∧ target.inputs = inputs ∧ target.committed = committed
  idle_position h := by simp [historyService, h.1, h.2]
  staged_position h := by simp [historyService, h.1, h.2.2]
  begin_ok h _ _ _ := ⟨rfl, h.1, rfl⟩
  propose_ok stop _ _ hpos h := by
    refine ⟨rfl, ?_, by simp [historyService, zeroDraftBackend], ?_, h⟩
    · simp [historyService, zeroDraftBackend, badProposal, Nat.pos_iff_ne_zero.mp hpos]
    · simp only [historyService, zeroDraftBackend, inVocabulary, List.all_eq_true, List.mem_range]
      intro i hi
      simp [hi, referenceVocabularySize]
  verify_ok _ _ _ h := by
    refine ⟨rfl, fun i hi => ?_, h.1, rfl, h.2⟩
    simp [historyService, zeroDraftBackend, h.1, Nat.lt_succ_iff.mpr hi]
  commit_ok h _ _ := ⟨rfl, h.1, h.2.1, rfl⟩
  finish_ok h _ := ⟨rfl, by simp [historyService, zeroDraftBackend, h.1, h.2.1, h.2.2], rfl⟩

def historyStep (next : List ℕ → ℕ) : StepFunction (HistoryTarget × Unit) ℕ :=
  fun token options (target, client) =>
    let step : ReferenceStepResult ℕ :=
      { position := target.consumed.length
        inputTokenId := token
        timing := some 1
        prediction := if options.computeLogits then some (next (target.consumed ++ [token]))
          else none }
    (.ok { value := some step }, ({ target with consumed := target.consumed ++ [token] }, client))

def sampleNext (history : List ℕ) : ℕ := if history.length % 3 = 0 then 5 else 0

def sampleOptions : GenerationControlOptions (HistoryTarget × Unit) ℕ where
  maxNewTokens := 7
  maxSequenceLength := 8
  prefillChunkSize := 1
  logitsMode := .predictedTokenOnly

def samplePrefill : PrefillPlan (HistoryTarget × Unit) ℕ where
  prefixStep := some (historyStep sampleNext)
  finishPrefill := some (historyStep sampleNext)

def sampleDecode : DecodePlan (HistoryTarget × Unit) ℕ where
  decodeStep := some (historyStep sampleNext)

def sampleRun : Option (DecodeService (HistoryTarget × Unit) ℕ) →
    Except Stop (GenerationControl ℕ) × World (HistoryTarget × Unit) :=
  generationRun {} [1, 2] sampleOptions samplePrefill sampleDecode ({ consumed := [] }, ())

lemma sampleNext_lt (history : List ℕ) : sampleNext history < referenceVocabularySize := by
  unfold sampleNext referenceVocabularySize
  split_ifs <;> omega

lemma sampleTarget : DeterministicTarget sampleOptions (historyStep sampleNext) sampleNext
    (fun history target => target.consumed = history ∧ target.committed = 0) where
  vocabulary := sampleNext_lt
  step := by
    rintro history token target context ⟨rfl, hcommitted⟩ -
    exact ⟨_, _, rfl, rfl, rfl, rfl, rfl, hcommitted⟩

lemma samplePrefill_consumes (topology : Option PrefillExecutionPlan) :
    Triple (At ({ consumed := [] }, ())) (prefill {} topology [1, 2] sampleOptions samplePrefill)
      (fun _ world => world.context.1.consumed = [1, 2] ∧ world.context.1.committed = 0)
      (fun _ => True) := by
  rintro ⟨context, calls⟩ rfl
  cases topology with
  | none => exact ⟨rfl, rfl⟩
  | some plan => exact trivial

theorem speculative_decoding_lossless_sample :
    ∃ a b, (sampleRun none).1 = .ok a ∧
      (sampleRun (some (historyService sampleNext 8).decodeService)).1 = .ok b ∧
      SameShown a b (sampleRun none).2.calls
        (sampleRun (some (historyService sampleNext 8).decodeService)).2.calls := by
  obtain ⟨a, ha⟩ := exists_ok (show (sampleRun none).1.isOk = true by decide +kernel)
  obtain ⟨b, hb, hsame⟩ := (speculative_decoding_lossless {} [1, 2] sampleOptions samplePrefill
    sampleDecode (historyService sampleNext 8) ({ consumed := [] }, ()) sampleNext none _ _ rfl
    sampleTarget (historyLossless sampleNext 8) (fun _ h => ⟨rfl, h.1, rfl⟩) (.inr rfl) rfl
    (by simp [historyService]) rfl samplePrefill_consumes sampleRun rfl).1 a ha
  exact ⟨a, b, ha, hb, hsame⟩

end Qwen3xOrin.Mtp
