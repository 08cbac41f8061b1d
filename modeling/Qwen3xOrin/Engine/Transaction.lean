import Qwen3xOrin.Engine.Generate
import Qwen3xOrin.Generation.Frame

/-! A request leaves its whole-request transaction closed: never armed, committed, or handed to
the runner's reset. -/

namespace Qwen3xOrin.Engine

open Prefill Generation

variable {τ ρ F α : Type}

inductive Settlement
  | neverArmed
  | committed
  | rolledBack
  deriving DecidableEq, Repr

-- One reset, after everything else, on the context that the guard found.
structure RolledBack (found context : EngineStepContext τ ρ) (ok : Bool) : Prop where
  armed : found.wholeRequestTransactionArmed = true
  once : ∀ b, .reset b ∉ found.events
  last : context.events = found.events ++ [.reset ok]
  cleared : (context.wholeRequestTransactionArmed = false ∧ context.boundPrefillReceipt = none) ↔
    ok = true
  kept : ok = false → context.wholeRequestTransactionArmed = true ∧
    context.boundPrefillReceipt = found.boundPrefillReceipt

def Settled (context : EngineStepContext τ ρ) : Settlement → Prop
  | .neverArmed => .armed ∉ context.events
  | .committed => .commit true ∈ context.events
  | .rolledBack => ∃ found ok, RolledBack found context ok

def isCommit : TransactionEvent → Bool
  | .commit _ => true
  | _ => false

structure CommitOrdered (events : List TransactionEvent) : Prop where
  once : events.countP isCommit ≤ 1
  after : ∀ before ok later, events = before ++ .commit ok :: later →
    .execute true ∈ before ∧ .finish true ∈ before

structure TransactionClosed (outcome : GenerateOutcome F) (context : EngineStepContext τ ρ) :
    Prop where
  disarmed : ∀ generation, outcome = .generation generation →
    context.wholeRequestTransactionArmed = false
  commits : CommitOrdered context.events
  settled : (∀ generation, outcome ≠ .generation generation) → ∃! s, Settled context s

-- The logs of a transaction that is still armed.
inductive OpenLog : List TransactionEvent → Prop
  | executed (b : Bool) : OpenLog [.armed, .execute b]
  | finished (b : Bool) : OpenLog [.armed, .execute true, .finish b]
  | uncommitted : OpenLog [.armed, .execute true, .finish true, .commit false]

def committedLog : List TransactionEvent :=
  [.armed, .execute true, .finish true, .commit true]

structure Idle (context : EngineStepContext τ ρ) : Prop where
  disarmed : context.wholeRequestTransactionArmed = false
  receipt : context.boundPrefillReceipt = none
  events : context.events = []

structure Open (context : EngineStepContext τ ρ) : Prop where
  armed : context.wholeRequestTransactionArmed = true
  log : OpenLog context.events

structure ArmedAt (log : List TransactionEvent) (context : EngineStepContext τ ρ) : Prop where
  armed : context.wholeRequestTransactionArmed = true
  events : context.events = log

structure Committed (context : EngineStepContext τ ρ) : Prop where
  disarmed : context.wholeRequestTransactionArmed = false
  events : context.events = committedLog

def Stopped (context : EngineStepContext τ ρ) : Prop :=
  Idle context ∨ Open context ∨ Committed context

lemma ArmedAt.stopped {log : List TransactionEvent} {context : EngineStepContext τ ρ}
    (h : ArmedAt log context) (hlog : OpenLog log) : Stopped context :=
  .inr (.inl ⟨h.armed, h.events ▸ hlog⟩)

section Steps

variable (cfg : BuildConfig) (executor : PrefillExecutor τ ρ F)

lemma toOption_refused (status : ReferenceRunnerStatus) :
    ({ status := status } : Outcome α).toOption = none := by
  simp [Outcome.toOption]

lemma pollCancellation_frame (context : EngineStepContext τ ρ) :
    ∃ device, (pollCancellation executor context).2 = { context with device := device } := by
  unfold pollCancellation
  split
  · exact ⟨context.device, rfl⟩
  · exact ⟨_, rfl⟩

lemma ArmedAt.either {log : List TransactionEvent} {context : EngineStepContext τ ρ}
    (h : ArmedAt log context) (hlog : OpenLog log) (c : Bool) :
    if c then ArmedAt log context else Stopped context := by
  cases c with
  | true => exact h
  | false => exact h.stopped hlog

lemma checkExecuted_armedAt (plan : PrefillExecutionPlan) (tokenCount : ℕ)
    (panels : List (PrefillPromptPanelResult F)) (executed : ReferenceWholeRequestPrefillResult F)
    {context : EngineStepContext τ ρ} {log : List TransactionEvent} (h : ArmedAt log context) :
    ∃ outcome after, checkExecuted cfg executor plan tokenCount panels executed context =
        (.ok outcome, after) ∧ ArmedAt log after := by
  unfold checkExecuted
  split_ifs
  · exact ⟨_, _, rfl, h⟩
  · exact ⟨_, _, rfl, h⟩
  · exact ⟨_, _, rfl, h.armed, h.events⟩

lemma executeWholeRequest_attempt (plan : PrefillExecutionPlan) (tokens : List ℕ)
    (measureTiming : Bool) (panels : List (PrefillPromptPanelResult F)) :
    Attempt Idle (ArmedAt [.armed, .execute true]) Stopped
      (executeWholeRequest cfg executor plan tokens measureTiming panels) := by
  intro context hidle
  unfold executeWholeRequest
  rcases executor.execute tokens plan measureTiming context.device with ⟨⟨result, receipt⟩, device⟩
  rcases result with thrown | outcome
  · exact .inr (.inl ⟨rfl, by simpa [hidle.events, succeeded] using OpenLog.executed false⟩)
  · rcases houtcome : outcome.toOption with _ | executed
    · simp only [houtcome, refuse, toOption_refused]
      exact .inr (.inl ⟨rfl, by
        simpa [hidle.events, succeeded, houtcome] using OpenLog.executed false⟩)
    · have harmed : ArmedAt [.armed, .execute true]
          { context with
            device := device
            boundPrefillReceipt := receipt
            wholeRequestTransactionArmed := true
            events := context.events ++ [.armed, .execute (succeeded (.ok outcome))] } :=
        ⟨rfl, by simp [hidle.events, succeeded, houtcome]⟩
      obtain ⟨answer, after, hcheck, hafter⟩ := checkExecuted_armedAt cfg executor plan
        tokens.length panels executed harmed
      simp only [houtcome, hcheck]
      exact hafter.either (OpenLog.executed true) _

lemma prefillWholeRequestLayerMajor_attempt (plan : PrefillExecutionPlan) (tokens : List ℕ)
    (options : PrefillPromptOptions) :
    Attempt Idle (ArmedAt [.armed, .execute true]) Stopped
      (prefillWholeRequestLayerMajor cfg executor tokens plan options) := by
  intro context hidle
  have hrefused (status : ReferenceRunnerStatus) :
      if ({ status := status } : Outcome (PrefillPromptResult F)).toOption.isSome then
        ArmedAt [.armed, .execute true] context else Stopped context := by
    rw [toOption_refused]
    exact .inl hidle
  unfold prefillWholeRequestLayerMajor
  split_ifs
  · exact hrefused _
  · rcases executor.transcriptException context.device with _ | _ | _
    · by_cases hoffset : (transcriptPanels (F := F) plan tokens).2 ≠ tokens.length
      · simp only [if_pos hoffset]
        exact hrefused _
      · simp only [if_neg hoffset]
        exact executeWholeRequest_attempt cfg executor plan tokens _ _ context hidle
    · exact hrefused _
    · exact hrefused _

lemma finishWholeRequest_attempt (token : ℕ) (options : ReferenceStepOptions) :
    Attempt (ArmedAt [.armed, .execute true]) (ArmedAt [.armed, .execute true, .finish true])
      Stopped (finishWholeRequestFromUncommittedRetained executor token options) := by
  intro context harmed
  have hstopped : Stopped context := harmed.stopped (OpenLog.executed true)
  unfold finishWholeRequestFromUncommittedRetained
  rcases liveReceipt context with _ | receipt
  · simp only [refuse, toOption_refused]
    exact hstopped
  · obtain ⟨device, hpoll⟩ := pollCancellation_frame executor context
    rcases hpolled : pollCancellation executor context with ⟨cancelled, polled⟩
    obtain rfl : polled = { context with device := device } := by rw [← hpoll, hpolled]
    cases cancelled with
    | true =>
      simp only [refuse]
      exact ArmedAt.stopped ⟨harmed.armed, harmed.events⟩ (OpenLog.executed true)
    | false =>
      rcases hfinish : executor.finish receipt token options device with
        ⟨⟨result, receipt'⟩, device'⟩
      simp only [hfinish, Bool.false_eq_true, if_false]
      rcases result with thrown | outcome
      · refine .inr (.inl ⟨harmed.armed, ?_⟩)
        simpa [harmed.events, succeeded] using OpenLog.finished false
      · rcases houtcome : outcome.toOption with _ | step
        · simp only [houtcome, Option.isSome_none, Bool.false_eq_true, if_false]
          refine .inr (.inl ⟨harmed.armed, ?_⟩)
          simpa [harmed.events, succeeded, houtcome] using OpenLog.finished false
        · simp only [houtcome, Option.isSome_some, if_true]
          exact ⟨harmed.armed, by simp [harmed.events, succeeded, houtcome]⟩

lemma timedCommit_attempt (plan : PrefillExecutionPlan) (progress : PrefillExecutionProgress)
    (context : EngineStepContext τ ρ)
    (harmed : ArmedAt [.armed, .execute true, .finish true] context) :
    if (timedCommit executor plan progress context).1.1.ok then
      Committed (timedCommit executor plan progress context).2
    else Stopped (timedCommit executor plan progress context).2 := by
  have hstopped : Stopped context := harmed.stopped (OpenLog.finished true)
  unfold timedCommit commitWholeRequestLayerMajor
  rcases liveReceipt context with _ | receipt
  · exact hstopped
  · obtain ⟨device, hpoll⟩ := pollCancellation_frame executor context
    rcases hpolled : pollCancellation executor context with ⟨cancelled, polled⟩
    obtain rfl : polled = { context with device := device } := by rw [← hpoll, hpolled]
    cases cancelled with
    | true => exact ArmedAt.stopped ⟨harmed.armed, harmed.events⟩ (OpenLog.finished true)
    | false =>
      rcases hcommit : executor.commit receipt plan progress device with
        ⟨⟨status, receipt'⟩, device'⟩
      simp only [hcommit, Bool.false_eq_true, if_false]
      cases hok : status.ok with
      | true => exact ⟨by simp, by simp [harmed.events, committedLog]⟩
      | false =>
        refine .inr (.inl ⟨by simp, ?_⟩)
        simpa [harmed.events] using OpenLog.uncommitted

end Steps

section Control

-- An invariant that does not mention the state behind the adapters.
def DeviceBlind (inv : EngineStepContext τ ρ → Prop) : Prop :=
  ∀ context device, inv context → inv { context with device := device }

lemma idle_deviceBlind : DeviceBlind (Idle : EngineStepContext τ ρ → Prop) :=
  fun _ _ h => ⟨h.disarmed, h.receipt, h.events⟩

lemma committed_deviceBlind : DeviceBlind (Committed : EngineStepContext τ ρ → Prop) :=
  fun _ _ h => ⟨h.disarmed, h.events⟩

variable {inv : EngineStepContext τ ρ → Prop}

lemma runOnDevice_preserves (hinv : DeviceBlind inv) (m : ControlM τ α) :
    Preserves inv (runOnDevice m) := by
  intro world hs
  simp only [Library.outcome, runOnDevice, ExceptT.run, ExceptT.mk, StateT.run]
  rcases m ⟨world.context.device, world.calls⟩ with ⟨result | result, after⟩
  · exact hinv _ _ hs
  · exact hinv _ _ hs

variable (cfg : BuildConfig) (engine : ReferenceEngine τ ρ F) (promptTokenIds : List ℕ)
  (options : ReferenceGenerateOptions)

lemma stepOnDevice_keeps (hinv : DeviceBlind inv) (step : StepFunction τ F) :
    Keeps inv (stepOnDevice step) :=
  fun _ _ _ hs => hinv _ _ hs

lemma enginePrefillPlan_keeps (hinv : DeviceBlind inv) :
    KeepsLegacy inv (enginePrefillPlan cfg engine options) where
  prefixStep := by
    rintro _ ⟨⟩
    exact stepOnDevice_keeps hinv _
  finishPrefill := by
    rintro _ ⟨⟩
    exact stepOnDevice_keeps hinv _
  prefixTile := by
    rintro _ ⟨⟩ _ _ _ hs
    exact hinv _ _ hs
  finishPrefillFromTile := by
    rintro _ ⟨⟩
    exact stepOnDevice_keeps hinv _

lemma engineDecode_keeps (hinv : DeviceBlind inv) :
    KeepsDecode inv (engineControlOptions engine options) (engineDecodePlan engine)
      (engineService engine options) where
  decodeStep := by
    rintro _ ⟨⟩
    exact stepOnDevice_keeps hinv _
  token := by
    intro observe hobserve token index elapsed s hs
    obtain ⟨observe', -, rfl⟩ := Option.mem_map.mp hobserve
    exact hinv _ _ hs
  start := by
    intro service hservice prompt
    obtain ⟨service', -, rfl⟩ := Option.mem_map.mp hservice
    exact runOnDevice_preserves hinv _
  decode := by
    intro service hservice control
    obtain ⟨service', -, rfl⟩ := Option.mem_map.mp hservice
    exact runOnDevice_preserves hinv _

variable [FloatingPoint F]

lemma wholePrefill_spec (plan : PrefillExecutionPlan) :
    Spec Idle (wholePrefill cfg plan promptTokenIds (engineControlOptions engine options)
      (enginePrefillPlan cfg engine options)) (fun _ => Committed) Stopped := by
  have hidle (context : EngineStepContext τ ρ) (h : Idle context) : Stopped context := .inl h
  refine Spec.required_bind (fun wholeRequest hwhole => ?_) hidle
  refine Spec.required_bind (fun finish hfinish => ?_) hidle
  refine Spec.required_bind (fun commit hcommit => ?_) hidle
  obtain ⟨-, ⟨⟩⟩ := Option.ite_none_right_eq_some.mp hwhole
  obtain ⟨-, ⟨⟩⟩ := Option.ite_none_right_eq_some.mp hfinish
  obtain ⟨-, ⟨⟩⟩ := Option.ite_none_right_eq_some.mp hcommit
  refine Spec.bind (wholeRequestPrefill_attempt
    (prefillWholeRequestLayerMajor_attempt cfg engine.executor plan promptTokenIds)
    fun _ h => h.stopped (OpenLog.executed true)) ?_
  rintro ⟨control, progress⟩
  refine Spec.bind (finishPrefillStep_attempt (finishWholeRequest_attempt engine.executor)
    (fun _ h => h.stopped (OpenLog.executed true))
    fun _ h => h.stopped (OpenLog.finished true)) ?_
  rintro ⟨control, predicted⟩
  refine Spec.bind (commitWholeRequestPrefill_attempt
    (timedCommit_attempt engine.executor plan progress)
    (fun _ h => h.stopped (OpenLog.finished true)) fun _ h => .inr (.inr h)) fun control => ?_
  exact Spec.ret fun _ h => h

lemma runControl_spec :
    Spec Idle (runControl cfg engine promptTokenIds options)
      (fun _ context => Idle context ∨ Committed context) Stopped := by
  refine Spec.bind (Spec.lift fun _ h => .inl h) fun topology => ?_
  rcases topology with _ | plan
  · have hinv : DeviceBlind (Idle : EngineStepContext τ ρ → Prop) := idle_deviceBlind
    refine Spec.conseq (Preserves.bind
      (legacyPrefill_preserves (enginePrefillPlan_keeps cfg engine options hinv)) ?_)
      (fun _ h => h) (fun _ _ h => .inl h) fun _ h => .inl h
    rintro ⟨control, predicted⟩
    have hkeeps := engineDecode_keeps engine options hinv
    exact Preserves.bind (startService_preserves hkeeps) fun control => generate_preserves hkeeps
  · refine Spec.bind (wholePrefill_spec cfg engine promptTokenIds options plan) ?_
    rintro ⟨control, predicted⟩
    have hinv : DeviceBlind (Committed : EngineStepContext τ ρ → Prop) := committed_deviceBlind
    have hkeeps := engineDecode_keeps engine options hinv
    exact Spec.conseq (Preserves.bind (startService_preserves hkeeps) fun control =>
      generate_preserves hkeeps) (fun _ h => h) (fun _ _ h => .inr h) fun _ h => .inr (.inr h)

end Control

section Closing

lemma commitOrdered_of_absent {events : List TransactionEvent}
    (h : ∀ event ∈ events, isCommit event = false) : CommitOrdered events where
  once := by
    have hnone : events.countP isCommit = 0 := by simpa [List.countP_eq_zero] using h
    omega
  after before ok later hevents := by
    have hmem : TransactionEvent.commit ok ∈ events := by simp [hevents]
    cases h _ hmem

lemma commitOrdered_append {rest : List TransactionEvent} (h : rest.countP isCommit ≤ 1) :
    CommitOrdered ([.armed, .execute true, .finish true] ++ rest) where
  once := by simpa [isCommit] using h
  after before ok later hevents := by
    obtain ⟨middle, hbefore, -⟩ | ⟨middle, hfront, hlater⟩ :=
      List.append_eq_append_iff.mp hevents
    · simp [hbefore]
    · rcases middle with _ | ⟨event, middle⟩
      · rw [List.append_nil] at hfront
        simp [← hfront]
      · obtain ⟨rfl, -⟩ := List.cons.inj hlater
        have hmem : TransactionEvent.commit ok ∈ [.armed, .execute true, .finish true] := by
          rw [hfront]
          simp
        simp at hmem

lemma OpenLog.commitOrdered {log : List TransactionEvent} (h : OpenLog log) (ok : Bool) :
    CommitOrdered (log ++ [.reset ok]) := by
  cases h with
  | executed b => exact commitOrdered_of_absent (by simp [isCommit])
  | finished b => exact commitOrdered_of_absent (by simp [isCommit])
  | uncommitted => exact @commitOrdered_append [.commit false, .reset ok] le_rfl

lemma OpenLog.armed_mem {log : List TransactionEvent} (h : OpenLog log) :
    .armed ∈ log ∧ .commit true ∉ log ∧ ∀ b, .reset b ∉ log := by
  cases h <;> simp

structure RolledBackOpen (found context : EngineStepContext τ ρ) (ok : Bool) : Prop extends
    RolledBack found context ok where
  log : OpenLog found.events

def Closed (context : EngineStepContext τ ρ) : Prop :=
  Idle context ∨ Committed context ∨ ∃ found ok, RolledBackOpen found context ok

variable {context : EngineStepContext τ ρ}

lemma Closed.commitOrdered (h : Closed context) : CommitOrdered context.events := by
  obtain h | h | ⟨found, ok, h⟩ := h
  · rw [h.events]
    exact commitOrdered_of_absent fun _ hevent => (List.not_mem_nil hevent).elim
  · rw [h.events]
    exact @commitOrdered_append [.commit true] le_rfl
  · rw [h.last]
    exact h.log.commitOrdered ok

lemma Closed.settled (h : Closed context) : ∃! s, Settled context s := by
  obtain h | h | ⟨found, ok, h⟩ := h
  · refine ⟨.neverArmed, by simp [Settled, h.events], fun s hs => ?_⟩
    cases s with
    | neverArmed => rfl
    | committed => simp [Settled, h.events] at hs
    | rolledBack =>
      obtain ⟨found, ok, hs⟩ := hs
      have hlast := hs.last
      simp [h.events] at hlast
  · refine ⟨.committed, by simp [Settled, h.events, committedLog], fun s hs => ?_⟩
    cases s with
    | neverArmed => simp [Settled, h.events, committedLog] at hs
    | committed => rfl
    | rolledBack =>
      obtain ⟨found, ok, hs⟩ := hs
      have hlast := congrArg List.getLast? hs.last
      simp [h.events, committedLog] at hlast
  · obtain ⟨harmed, hcommit, -⟩ := h.log.armed_mem
    refine ⟨.rolledBack, ⟨found, ok, h.toRolledBack⟩, fun s hs => ?_⟩
    cases s with
    | neverArmed => simp [Settled, h.last, harmed] at hs
    | committed => simp [Settled, h.last, hcommit] at hs
    | rolledBack => rfl

lemma closed_deviceBlind : DeviceBlind (Closed : EngineStepContext τ ρ → Prop) := by
  rintro context device (h | h | ⟨found, ok, h⟩)
  · exact .inl (idle_deviceBlind _ _ h)
  · exact .inr (.inl (committed_deviceBlind _ _ h))
  · exact .inr (.inr ⟨found, ok, ⟨h.armed, h.once, h.last, h.cleared, h.kept⟩, h.log⟩)

lemma rollback_closed (executor : PrefillExecutor τ ρ F) (h : Stopped context) :
    Closed (rollback executor context).2 := by
  unfold rollback
  obtain h | h | h := h
  · rw [if_pos h.disarmed]
    exact .inl h
  · rw [if_neg (by simp [h.armed])]
    obtain ⟨harmed, hcommit, hreset⟩ := h.log.armed_mem
    rcases executor.reset context.device with ⟨status, device⟩
    refine .inr (.inr ⟨context, status.ok, ⟨h.armed, hreset, rfl, ?_, fun hok => ?_⟩, h.log⟩)
    · cases hok : status.ok <;> simp [hok]
    · simp [hok]
  · rw [if_pos h.disarmed]
    exact .inr (.inl h)

end Closing

section Exit

variable (cfg : BuildConfig) (engine : ReferenceEngine τ ρ F) (promptTokenIds : List ℕ)
  (options : ReferenceGenerateOptions)

-- The guard has nothing left to do where the body leaves its scope.
structure ClosedExit (exit : GuardedExit τ ρ F) : Prop where
  closed : Closed exit.context
  attempted : exit.context.wholeRequestTransactionArmed = true → exit.rollbackAttempted = true ∧
    ∀ generation, handleException exit.outcome ≠ .generation generation

lemma handleException_report (diagnostic : ReferenceEngineDiagnostic) (device : τ)
    (generation : ReferenceGeneration F) :
    handleException (report engine diagnostic device) ≠ .generation generation := by
  unfold report
  rcases engine.reportException device with _ | _ | _ | _ | _ <;> simp [handleException]

lemma handleException_error (exception : EngineException) (generation : ReferenceGeneration F) :
    handleException (.error exception) ≠ .generation generation := by
  cases exception <;> simp [handleException]

lemma afterStop_closed (stop : Stop) {context : EngineStepContext τ ρ} (h : Stopped context) :
    ClosedExit (afterStop engine stop context) := by
  have hclosed := rollback_closed engine.executor h
  unfold afterStop
  rcases hrollback : rollback engine.executor context with ⟨status, after⟩
  rw [hrollback] at hclosed
  rcases stop with ⟨error, controlStatus⟩ | _
  · dsimp only
    split_ifs
    · exact ⟨hclosed, fun _ => ⟨rfl, handleException_report engine _ _⟩⟩
    · exact ⟨closed_deviceBlind _ _ hclosed, fun _ => ⟨rfl, handleException_report engine _ _⟩⟩
  · dsimp only
    split_ifs
    · exact ⟨hclosed, fun _ => ⟨rfl, handleException_report engine _ _⟩⟩
    · exact ⟨hclosed, fun _ => ⟨rfl, handleException_error _⟩⟩

lemma afterControl_closed (control : GenerationControl F) {context : EngineStepContext τ ρ}
    (h : Idle context ∨ Committed context) :
    ClosedExit (afterControl engine promptTokenIds options control context) := by
  have hdisarmed : context.wholeRequestTransactionArmed = false := by
    obtain h | h := h
    · exact h.disarmed
    · exact h.disarmed
  have hclosed : Closed context := by
    obtain h | h := h
    · exact .inl h
    · exact .inr (.inl h)
  unfold afterControl
  rw [if_neg (by simp [hdisarmed])]
  exact ⟨closed_deviceBlind _ _ hclosed, fun harmed => by simp [hdisarmed] at harmed⟩

lemma releaseGuard_closed {exit : GuardedExit τ ρ F} (h : ClosedExit exit) :
    releaseGuard engine.executor exit.rollbackAttempted exit.context = exit.context := by
  unfold releaseGuard
  rw [if_neg]
  cases harmed : exit.context.wholeRequestTransactionArmed with
  | false => simp
  | true => simp [(h.attempted harmed).1]

variable [FloatingPoint F]

lemma guardedBody_closed {context : EngineStepContext τ ρ} (h : Idle context) :
    ClosedExit (guardedBody cfg engine promptTokenIds options context) := by
  unfold guardedBody
  rcases engine.setupException context.device with _ | exception
  · have hrun := runControl_spec cfg engine promptTokenIds options ⟨context, []⟩ h
    simp only [Library.outcome, StateT.run] at hrun
    dsimp only
    rcases hcontrol : (runControl cfg engine promptTokenIds options).run ⟨context, []⟩ with
      ⟨stop | control, world⟩
    · rw [hcontrol] at hrun
      exact afterStop_closed engine stop hrun
    · rw [hcontrol] at hrun
      exact afterControl_closed engine promptTokenIds options control hrun
  · exact ⟨.inl h, fun harmed => by rw [h.disarmed] at harmed; cases harmed⟩

end Exit

theorem whole_request_transaction_closed [FloatingPoint F] (cfg : BuildConfig)
    (engine : ReferenceEngine τ ρ F) (promptTokenIds : List ℕ)
    (options : ReferenceGenerateOptions) (device : τ) :
    TransactionClosed (generateTokenized cfg engine promptTokenIds options device).1
      (generateTokenized cfg engine promptTokenIds options device).2 := by
  have hrefused (diagnostic : ReferenceEngineDiagnostic) (context : EngineStepContext τ ρ)
      (h : Idle context) : TransactionClosed (.failed diagnostic : GenerateOutcome F) context :=
    ⟨fun _ _ => h.disarmed, Closed.commitOrdered (.inl h), fun _ => Closed.settled (.inl h)⟩
  unfold generateTokenized
  rcases checkGenerateOptions engine promptTokenIds options with diagnostic | _
  · exact hrefused _ _ ⟨rfl, rfl, rfl⟩
  · rcases engine.beginOrdinaryRequest device with ⟨status, device⟩
    dsimp only
    split_ifs
    · exact hrefused _ _ ⟨rfl, rfl, rfl⟩
    · have hexit := guardedBody_closed cfg engine promptTokenIds options
        (⟨rfl, rfl, rfl⟩ : Idle { device := device, captureTrace := options.captureTrace })
      rw [releaseGuard_closed engine hexit]
      refine ⟨fun generation hgeneration => ?_, hexit.closed.commitOrdered,
        fun _ => hexit.closed.settled⟩
      by_contra harmed
      exact (hexit.attempted (by simpa using harmed)).2 generation hgeneration

end Qwen3xOrin.Engine
