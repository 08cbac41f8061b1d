import Qwen3xOrin.Library.Window
import Qwen3xOrin.Runner.StageMachine

/-! The layer loop of the whole-request prefill and the window of events it submits through. Each
phase of a layer makes room, enqueues its work and records an event; the oldest event is waited
for when the window is full, and all of them at the end. -/

namespace Qwen3xOrin.Runner

open Library Request Prefill
open Engine (ReferenceWholeRequestPrefillResult expectedSubmissionsPerLayer runnerContract)
open Generation hiding maximumRequestPrefillChunkSize Outcome

def wholeRequestSubmissionWindowSlots : ℕ := 2

section Phases

variable (cfg : BuildConfig)

def wholeCoreCompiledPanelCapacity : ℕ := (wholeCoreCompiledPromptStorageTokens cfg + 7999) / 8000
def promptWideP40WholeCoreFillPhases : ℕ := wholeCoreCompiledPanelCapacity cfg
def promptWideP40WholeCorePromptCorePhase : ℕ := wholeCoreCompiledPanelCapacity cfg
def promptWideP40WholeCoreDrainPhaseBegin : ℕ := wholeCoreCompiledPanelCapacity cfg + 1
def promptWideP40WholeCorePersistentMlpPhase : ℕ := 2 * wholeCoreCompiledPanelCapacity cfg + 1

def cancellationOperation (plan : PrefillExecutionPlan) (promptWide : Bool) (retiredPhase : ℕ) :
    String :=
  if promptWide then
    if retiredPhase < promptWideP40WholeCoreFillPhases cfg then
      "whole_request_prefill_whole_core_fill_cancelled"
    else if retiredPhase = promptWideP40WholeCorePromptCorePhase cfg then
      "whole_request_prefill_whole_core_prompt_core_cancelled"
    else if retiredPhase < promptWideP40WholeCorePersistentMlpPhase cfg then
      "whole_request_prefill_whole_core_drain_cancelled"
    else "whole_request_prefill_whole_core_mlp_cancelled"
  else if retiredPhase = plan.panelCount then "whole_request_prefill_mlp_phase_cancelled"
  else "whole_request_prefill_panel_phase_cancelled"

end Phases

-- `log` is the submissions recorded and retired so far, in order.
structure SubmissionWindow where
  inFlight : ℕ := 0
  oldestSlot : ℕ := 0
  nextSlot : ℕ := 0
  retirements : ℕ := 0
  layers : ℕ → ℕ := fun _ => 0
  phases : ℕ → ℕ := fun _ => 0
  log : List (WindowEvent (ℕ × ℕ)) := []

-- The answers of the device and of the caller: the copies before the loop, the enqueues and host
-- checks of a phase, the event calls, and the probe at each retirement.
structure SubmissionAnswers where
  prepare : Option ReferenceRunnerStatus := none
  enqueue : ℕ → ℕ → Option ReferenceRunnerStatus := fun _ _ => none
  record : ℕ → ℕ → ℤ := fun _ _ => 0
  synchronize : ℕ → ℤ := fun _ => 0
  probe : ℕ → Bool := fun _ => false

abbrev SubmissionM := ExceptT ReferenceRunnerStatus (StateM SubmissionWindow)

def SubmissionWindow.retireOldest (window : SubmissionWindow) : SubmissionWindow :=
  { window with
    oldestSlot := (window.oldestSlot + 1) % wholeRequestSubmissionWindowSlots
    inFlight := window.inFlight - 1
    retirements := window.retirements + 1
    log := window.log ++
      [.retire window.oldestSlot
        (window.layers window.oldestSlot, window.phases window.oldestSlot)] }

def SubmissionWindow.recordNext (window : SubmissionWindow) (layer phase : ℕ) : SubmissionWindow :=
  let slot := window.nextSlot
  { window with
    layers := Function.update window.layers slot layer
    phases := Function.update window.phases slot phase
    oldestSlot := if window.inFlight = 0 then slot else window.oldestSlot
    nextSlot := (slot + 1) % wholeRequestSubmissionWindowSlots
    inFlight := window.inFlight + 1
    log := window.log ++ [.record slot (layer, phase)] }

section Loop

variable (cfg : BuildConfig) (plan : PrefillExecutionPlan) (promptWide bounded : Bool)
  (device : SubmissionAnswers)

def cancelledStatus (retiredLayer retiredPhase retirements : ℕ) : ReferenceRunnerStatus :=
  { runnerStatus .cancelled (cancellationOperation cfg plan promptWide retiredPhase) with
    layer := some retiredLayer
    retiredPrefillQuanta := retirements }

def retireOldestSubmission : SubmissionM Unit :=
  ExceptT.mk fun window =>
    if bounded = false ∨ window.inFlight = 0 then (.ok (), window)
    else if device.synchronize window.retirements ≠ 0 then
      (.error (runnerStatus .cudaFailure "whole_request_prefill_submission_wait"
        (device.synchronize window.retirements)), window)
    else if device.probe window.retireOldest.retirements then
      (.error (cancelledStatus cfg plan promptWide (window.layers window.oldestSlot)
        (window.phases window.oldestSlot) window.retireOldest.retirements), window.retireOldest)
    else (.ok (), window.retireOldest)

def recordSubmission (layer phase : ℕ) : SubmissionM Unit :=
  ExceptT.mk fun window =>
    if bounded = false then (.ok (), window)
    else if device.record layer phase ≠ 0 then
      (.error { runnerStatus .cudaFailure "whole_request_prefill_submission_record"
        (device.record layer phase) with layer := some layer }, window)
    else (.ok (), window.recordNext layer phase)

def makeSubmissionRoom : SubmissionM Unit := do
  let inFlight ← examine SubmissionWindow.inFlight
  if bounded ∧ inFlight = wholeRequestSubmissionWindowSlots then
    retireOldestSubmission cfg plan promptWide bounded device

-- The enqueues of a phase stand between the room and the event.
def submitPhase (layer phase : ℕ) : SubmissionM Unit := do
  makeSubmissionRoom cfg plan promptWide bounded device
  ExceptT.mk (pure (errorOf (device.enqueue layer phase)))
  recordSubmission bounded device layer phase

def submitWholeCoreLayer (layer : ℕ) : SubmissionM Unit := do
  (List.range plan.panelCount).forM fun panelIndex =>
    submitPhase cfg plan promptWide bounded device layer panelIndex
  submitPhase cfg plan promptWide bounded device layer (promptWideP40WholeCorePromptCorePhase cfg)
  (List.range plan.panelCount).forM fun panelIndex =>
    submitPhase cfg plan promptWide bounded device layer
      (promptWideP40WholeCoreDrainPhaseBegin cfg + panelIndex)
  submitPhase cfg plan promptWide bounded device layer
    (promptWideP40WholeCorePersistentMlpPhase cfg)

def submitPanelLayer (layer : ℕ) : SubmissionM Unit := do
  (List.range plan.panelCount).forM fun panelIndex =>
    submitPhase cfg plan promptWide bounded device layer panelIndex
  if layerWideP40Mlp plan then
    submitPhase cfg plan promptWide bounded device layer plan.panelCount

def submitLayer (layer : ℕ) : SubmissionM Unit :=
  if promptWide then submitWholeCoreLayer cfg plan promptWide bounded device layer
  else submitPanelLayer cfg plan promptWide bounded device layer

-- Each turn retires one submission, so the ones in flight bound the turns.
def drainSubmissions : ℕ → SubmissionM Unit
  | 0 => pure ()
  | n + 1 => do
    let inFlight ← examine SubmissionWindow.inFlight
    if inFlight ≠ 0 then
      retireOldestSubmission cfg plan promptWide bounded device
      drainSubmissions n

def submitLayers : SubmissionM Unit := do
  ExceptT.mk (pure (errorOf device.prepare))
  (List.range layerCount).forM (submitLayer cfg plan promptWide bounded device)
  let inFlight ← examine SubmissionWindow.inFlight
  drainSubmissions cfg plan promptWide bounded device inFlight

end Loop

section Call

variable {F : Type} (cfg : BuildConfig) (inputTokenIds : List ℕ) (plan : PrefillExecutionPlan)
  (tactics : WholeRequestTactics) (options : ReferenceWholeRequestPrefillOptions)
  (answers : WholeRequestAnswers F) (device : SubmissionAnswers)

-- How the layer loop of the call ends; it is not reached when the entry refuses.
def submitted (runner : ReferenceRunner) :
    Except ReferenceRunnerStatus Unit × SubmissionWindow :=
  match outcome (wholeRequestEntry cfg inputTokenIds plan tactics options answers) runner with
  | (.ok _, runner) =>
    outcome (submitLayers cfg plan
      (validPromptWideP40WholeCoreRunnerContract cfg plan runner.memoryProfile
        runner.maxSequenceLength tactics) options.cancellationProbe device) {}
  | (.error _, _) => (.ok (), {})

def submissionFailure {α : Type} :
    Except ReferenceRunnerStatus α → Option ReferenceRunnerStatus
  | .ok _ => none
  | .error status => some status

def submissionAnswers (runner : ReferenceRunner) : WholeRequestAnswers F :=
  let run := submitted cfg inputTokenIds plan tactics options answers device runner
  { answers with
    layers := submissionFailure run.1
    counters := { answers.counters with submissionWindowRetirements := run.2.retirements } }

def prefillWholeRequestSubmitted (runner : ReferenceRunner) :
    Except ReferenceRunnerStatus (ReferenceWholeRequestPrefillResult F) × ReferenceRunner :=
  outcome (prefillWholeRequestLayerMajorCore cfg inputTokenIds plan tactics options
    (submissionAnswers cfg inputTokenIds plan tactics options answers device runner)) runner

end Call

section Tracked

-- The window against its log: `pending` is what is in flight.
structure Tracked (window : SubmissionWindow) (pending : List (ℕ × ℕ)) : Prop where
  windowed : Windowed wholeRequestSubmissionWindowSlots window.log pending
  inFlight : window.inFlight = pending.length
  next : window.nextSlot = (recorded window.log).length % wholeRequestSubmissionWindowSlots
  oldest : window.oldestSlot = (retired window.log).length % wholeRequestSubmissionWindowSlots
  retirements : window.retirements = (retired window.log).length
  kept : ∀ i a, pending[i]? = some a →
    (window.layers (((retired window.log).length + i) % wholeRequestSubmissionWindowSlots),
      window.phases (((retired window.log).length + i) % wholeRequestSubmissionWindowSlots)) = a

variable {window : SubmissionWindow} {pending : List (ℕ × ℕ)}

lemma tracked_empty : Tracked {} [] where
  windowed := .nil
  inFlight := rfl
  next := rfl
  oldest := rfl
  retirements := rfl
  kept _ _ h := nomatch h

lemma Tracked.recorded_length (h : Tracked window pending) :
    (recorded window.log).length = (retired window.log).length + pending.length := by
  rw [h.windowed.recorded_eq, List.length_append]

lemma Tracked.record (h : Tracked window pending)
    (hroom : pending.length < wholeRequestSubmissionWindowSlots) (layer phase : ℕ) :
    Tracked (window.recordNext layer phase) (pending ++ [(layer, phase)]) := by
  have hcount := h.recorded_length
  have hlog : (window.recordNext layer phase).log = window.log ++
      [.record ((recorded window.log).length % wholeRequestSubmissionWindowSlots)
        (layer, phase)] := by
    rw [← h.next]
    rfl
  have hretired : retired (window.recordNext layer phase).log = retired window.log := by
    rw [hlog, retired_append, retired_record, retired_nil, List.append_nil]
  refine ⟨hlog ▸ .record _ h.windowed hroom, ?_, ?_, ?_, ?_, ?_⟩
  · rw [List.length_append, List.length_singleton, ← h.inFlight]
    rfl
  · rw [hlog, recorded_append, List.length_append, recorded_record, recorded_nil,
      List.length_singleton]
    simp only [SubmissionWindow.recordNext, h.next, Nat.mod_add_mod]
  · rw [hretired]
    simp only [SubmissionWindow.recordNext]
    by_cases hempty : window.inFlight = 0
    · have hnone : pending.length = 0 := h.inFlight ▸ hempty
      rw [if_pos hempty, h.next, hcount, hnone, Nat.add_zero]
    · rw [if_neg hempty, h.oldest]
  · rw [hretired]
    exact h.retirements
  · intro i a ha
    rw [hretired]
    simp only [SubmissionWindow.recordNext, h.next, hcount]
    obtain hi | hi := Nat.lt_or_ge i pending.length
    · rw [List.getElem?_append_left hi] at ha
      -- The slot that is taken is not one of those in flight.
      have hne : ((retired window.log).length + i) % wholeRequestSubmissionWindowSlots ≠
          ((retired window.log).length + pending.length) % wholeRequestSubmissionWindowSlots := by
        unfold wholeRequestSubmissionWindowSlots at hroom ⊢
        omega
      rw [Function.update_of_ne hne, Function.update_of_ne hne]
      exact h.kept i a ha
    · rw [List.getElem?_append_right hi] at ha
      obtain ⟨hlast, rfl⟩ := List.getElem?_eq_some_iff.mp ha
      rw [List.length_singleton] at hlast
      obtain rfl : i = pending.length := by omega
      rw [Function.update_self, Function.update_self]
      simp

lemma Tracked.retire {a : ℕ × ℕ} (h : Tracked window (a :: pending)) :
    Tracked window.retireOldest pending := by
  have hkept := h.kept 0 a rfl
  rw [Nat.add_zero, ← h.oldest] at hkept
  have hlog : window.retireOldest.log = window.log ++
      [.retire ((retired window.log).length % wholeRequestSubmissionWindowSlots) a] := by
    rw [← h.oldest, ← hkept]
    rfl
  have hretired : retired window.retireOldest.log = retired window.log ++ [a] := by
    rw [hlog, retired_append, retired_retire, retired_nil]
  refine ⟨hlog ▸ h.windowed.retire, ?_, ?_, ?_, ?_, ?_⟩
  · have hin := h.inFlight
    rw [List.length_cons] at hin
    simp only [SubmissionWindow.retireOldest, hin, Nat.add_sub_cancel]
  · rw [hlog, recorded_append, recorded_retire, recorded_nil, List.append_nil]
    exact h.next
  · rw [hretired, List.length_append, List.length_singleton]
    simp only [SubmissionWindow.retireOldest, h.oldest, Nat.mod_add_mod]
  · rw [hretired, List.length_append, List.length_singleton, ← h.retirements]
    rfl
  · intro i b hb
    rw [hretired, List.length_append, List.length_singleton, Nat.add_assoc, Nat.add_comm 1 i]
    exact h.kept (i + 1) b hb

end Tracked

end Qwen3xOrin.Runner
