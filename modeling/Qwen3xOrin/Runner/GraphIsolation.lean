import Qwen3xOrin.Runner.Isolation

/-! Captures and replays of decode graphs keep the requests of a runner apart: a capture moves the
position and moves it back, a replay writes the rows of its own position. -/

namespace Qwen3xOrin.Runner

open Library Request Prefill
open Generation hiding maximumRequestPrefillChunkSize Outcome

section Captures

variable {F : Type} {plan : RequestMemoryPlan} {runner reached : ReferenceRunner} {α : Type}
  {v : (RequestState × Bool) × RequestReuseBoundary}

-- A capture that stopped has poisoned the runner, or found it so.
def Refused (v : (RequestState × Bool) × RequestReuseBoundary) (runner : ReferenceRunner) : Prop :=
  runner.poisoned = true ∧ runner.state = v.1.1

lemma Based.refused (h : Based plan runner) (hreached : Refused (isolationView runner) reached) :
    Isolated plan reached := by
  obtain ⟨hpoisoned, hstate⟩ := hreached
  refine ⟨⟨?_, ?_, ?_⟩, ?_, ?_⟩
  · rw [hstate]
    exact h.fixed
  · rw [hstate]
    exact h.arena
  · rw [hstate]
    exact h.bounded
  · intro _ hnot
    rw [hpoisoned] at hnot
    cases hnot
  · intro _ hnot
    rw [hpoisoned] at hnot
    cases hnot

lemma failed_refused (h : isolationView runner = v) : Refused v runner.failed :=
  ⟨rfl, congrArg (fun v => v.1.1) h⟩

lemma failStepIf_refused (status : ReferenceRunnerStatus) (c : ReferenceRunner → Prop)
    [DecidablePred c] :
    Triple (fun runner => isolationView runner = v) (failStepIf status c)
      (fun _ runner => isolationView runner = v) (Refused v) :=
  (Triple.stopIf fun _ h _ => failed_refused h).conseq (fun _ h => h) (fun _ _ h => h.1)
    fun _ h => h

lemma failStepOn_refused (failure : Option ReferenceRunnerStatus) :
    Triple (fun runner => isolationView runner = v) (failStepOn failure)
      (fun _ runner => isolationView runner = v) (Refused v) := by
  cases failure with
  | none => exact Triple.ret fun _ h => h
  | some status => exact fun _ h => failed_refused h

lemma onStore_refused (m : GraphM α) :
    Triple (fun runner => isolationView runner = v) (onStore m)
      (fun _ runner => isolationView runner = v) (Refused v) := by
  intro runner h
  unfold onStore
  rw [outcome_mk]
  generalize outcome m runner.store = result
  obtain ⟨r, store⟩ := result
  cases r with
  | ok a => exact h
  | error e => exact failed_refused h

lemma stepEntry_refused (token : ℕ) (options : ReferenceStepOptions) :
    Triple (fun runner => isolationView runner = v) (stepEntry token options .captureOnly)
      (fun _ runner => isolationView runner = v) (Refused v) := by
  have hdrop : Triple (fun runner => isolationView runner = v)
      (update ReferenceRunner.dropRetained : RunnerM Unit)
      (fun _ runner => isolationView runner = v) (Refused v) := Triple.update fun _ h => h
  have hpoisoned : Triple (fun runner => isolationView runner = v)
      (refuseIf (runnerStatus .poisoned "step") (·.poisoned))
      (fun _ runner => isolationView runner = v) (Refused v) :=
    (Triple.stopIf fun _ h hc => ⟨hc, congrArg (fun v => v.1.1) h⟩).conseq (fun _ h => h)
      (fun _ _ h => h.1) fun _ h => h
  unfold stepEntry
  refine Triple.bind (failStepIf_refused _ _) fun _ => ?_
  refine Triple.bind hdrop fun _ => ?_
  refine Triple.bind hpoisoned fun _ => ?_
  rw [if_neg (not_not.mpr rfl)]
  refine Triple.bind (failStepIf_refused _ _) fun _ => ?_
  refine Triple.bind (failStepIf_refused _ _) fun _ => ?_
  exact Triple.bind (failStepIf_refused _ _) fun _ => failStepIf_refused _ _

lemma captureStep_refused (token : ℕ) (answers : CaptureAnswers) (staged : Bool)
    (owner : Option ℕ) :
    Triple (fun runner => isolationView runner = v) (captureStep token answers staged owner)
      (fun _ runner => isolationView runner = v) (Refused v) := by
  unfold captureStep
  refine Triple.bind (stepEntry_refused _ _) fun _ => ?_
  refine Triple.bind (failStepOn_refused _) fun _ => ?_
  refine Triple.bind (failStepIf_refused _ _) fun _ => ?_
  refine Triple.bind Triple.unread fun position => ?_
  refine Triple.bind (failStepIf_refused _ _) fun _ => ?_
  exact Triple.bind (failStepOn_refused _) fun _ => onStore_refused _

lemma prepareP1_isolated (token : ℕ) (answers : CaptureAnswers) (h : Isolated plan runner) :
    Triple (fun reached => isolationView reached = isolationView runner)
      (prepareFixedPositionDecodeGraphP1 token answers) (fun _ => Isolated plan)
      (Isolated plan) := by
  have hspec : Triple (fun reached => isolationView reached = isolationView runner)
      (prepareFixedPositionDecodeGraphP1 token answers)
      (fun _ reached => isolationView reached = isolationView runner)
      (Refused (isolationView runner)) := by
    unfold prepareFixedPositionDecodeGraphP1
    refine Triple.bind (failStepIf_refused _ _) fun _ => ?_
    refine Triple.bind Triple.unread fun position => ?_
    refine Triple.bind (captureStep_refused _ _ _ _) fun slot => ?_
    refine Triple.bind (Triple.update fun reached hreached => ?_) fun _ => Triple.unread
    exact hreached
  exact hspec.conseq (fun _ hh => hh) (fun _ _ hh => h.of_view hh) fun _ hh => h.toBased.refused hh

-- Only the position differs.
structure Moved (runner reached : ReferenceRunner) : Prop where
  plan : reached.state.plan = runner.state.plan
  arena : reached.state.arena = runner.state.arena
  bounded : runner.state.sequenceLength ≤ runner.state.plan.maxSequenceLength →
    reached.state.sequenceLength ≤ runner.state.plan.maxSequenceLength

lemma Moved.trans {middle : ReferenceRunner} (h : Moved runner middle) (h' : Moved middle reached) :
    Moved runner reached where
  plan := h'.plan.trans h.plan
  arena := h'.arena.trans h.arena
  bounded hbound := by
    have hlast := h'.bounded
    rw [h.plan] at hlast
    exact hlast (h.bounded hbound)

lemma moved_of_state (h : reached.state = runner.state) : Moved runner reached where
  plan := by rw [h]
  arena := by rw [h]
  bounded hbound := by
    rw [h]
    exact hbound

lemma setPosition_moved (position : ℕ) : Moved runner (runner.setPosition position).2 := by
  unfold ReferenceRunner.setPosition RequestState.setSequenceLength
  split_ifs with harena hbound
  · exact moved_of_state rfl
  · exact moved_of_state rfl
  · exact ⟨rfl, rfl, fun _ => not_lt.mp hbound⟩

lemma Moved.based (h : Moved runner reached) (hbased : Based plan runner) : Based plan reached where
  fixed := h.plan.trans hbased.fixed
  arena := by
    rw [h.arena]
    exact hbased.arena
  bounded := by
    have hbound := h.bounded
    rw [hbased.fixed] at hbound
    exact hbound hbased.bounded

def marks (runner : ReferenceRunner) : Bool × RequestReuseBoundary :=
  (runner.poisoned, runner.requestReuseBoundary)

lemma stageSlots_marks (token : ℕ) (captures : ℕ → CaptureAnswers) (positions : List ℕ)
    (staged : List DecodeGraphP1Slot) (reached : ReferenceRunner) :
    Moved reached (stageSlots token captures positions staged reached).2.2 ∧
      ((stageSlots token captures positions staged reached).1 = none →
        marks (stageSlots token captures positions staged reached).2.2 = marks reached) ∧
      ∀ status, (stageSlots token captures positions staged reached).1 =
          some (.capture status) →
        (stageSlots token captures positions staged reached).2.2.poisoned = true := by
  induction positions generalizing staged reached with
  | nil => exact ⟨moved_of_state rfl, fun _ => rfl, fun _ hnone => by cases hnone⟩
  | cons position positions ih =>
    have hmoved := @setPosition_moved reached position
    have hmarks : marks (reached.setPosition position).2 = marks reached := rfl
    unfold stageSlots
    dsimp only
    by_cases hstatus : (reached.setPosition position).1 = {}
    · rw [if_neg (not_not.mpr hstatus)]
      have hcapture := captureStep_refused token (captures position) true
        (staged.head?.map (·.exec)) (reached.setPosition position).2 rfl
      revert hcapture
      generalize outcome (captureStep token (captures position) true
        (staged.head?.map (·.exec))) (reached.setPosition position).2 = result
      obtain ⟨r, captured⟩ := result
      cases r with
      | ok slot =>
        intro hview
        have hstate : captured.state = (reached.setPosition position).2.state :=
          congrArg (fun v => v.1.1) hview
        obtain ⟨hrest, hnone, hpoisoned⟩ := ih (staged ++ [slot]) captured
        refine ⟨(hmoved.trans (moved_of_state hstate)).trans hrest, fun hn => ?_, hpoisoned⟩
        rw [hnone hn, ← hmarks]
        exact congrArg (fun v => (v.1.2, v.2)) hview
      | error e =>
        rintro ⟨hpoisoned, hstate⟩
        exact ⟨hmoved.trans (moved_of_state hstate), fun hnone => (by cases hnone),
          fun _ _ => hpoisoned⟩
    · rw [if_pos hstatus]
      exact ⟨hmoved, fun hnone => (by cases hnone), fun _ hnone => by cases hnone⟩

lemma rollbackStaging_isolated (hbased : Based plan reached) (cleanup : ℤ) (entryPosition : ℕ)
    (failure : StagingFailure) (staged : List DecodeGraphP1Slot)
    (hpoisoned : ∀ status, failure = .capture status → reached.poisoned = true) :
    Isolated plan (rollbackStaging cleanup entryPosition failure staged reached).2 := by
  have hmoved := (setPosition_moved entryPosition).based hbased
  unfold rollbackStaging
  cases failure with
  | position status => exact hmoved.poison.of_view rfl
  | capture status =>
    dsimp only
    split_ifs
    · exact hmoved.poison.of_view rfl
    · have hstill : (reached.setPosition entryPosition).2.poisoned = true := hpoisoned status rfl
      exact hmoved.refused ⟨hstill, rfl⟩

lemma finishStaging_isolated (h : Isolated plan runner) (hmoved : Moved runner reached)
    (hmarks : marks reached = marks runner) (cleanup : ℤ) (positions : List ℕ)
    (staged : List DecodeGraphP1Slot) :
    Isolated plan (finishStaging cleanup runner.currentPosition positions staged reached).2 := by
  have hback := hmoved.trans (@setPosition_moved reached runner.currentPosition)
  unfold finishStaging
  dsimp only
  by_cases hstatus : (reached.setPosition runner.currentPosition).1 = {}
  · rw [if_neg (not_not.mpr hstatus)]
    refine h.of_view ?_
    have hlength : (reached.setPosition runner.currentPosition).2.state.sequenceLength =
        runner.state.sequenceLength := setSequenceLength_ok hstatus
    have hstate : (reached.setPosition runner.currentPosition).2.state = runner.state := by
      calc (reached.setPosition runner.currentPosition).2.state
          = ⟨runner.state.plan, runner.state.arena, runner.state.sequenceLength⟩ := by
            rw [← hback.plan, ← hback.arena, ← hlength]
        _ = runner.state := rfl
    have hpoisoned : reached.poisoned = runner.poisoned := congrArg Prod.fst hmarks
    have hboundary : reached.requestReuseBoundary = runner.requestReuseBoundary :=
      congrArg Prod.snd hmarks
    change (((reached.setPosition runner.currentPosition).2.state, reached.poisoned),
      reached.requestReuseBoundary) = isolationView runner
    rw [hstate, hpoisoned, hboundary]
    rfl
  · rw [if_pos hstatus]
    exact (hback.based h.toBased).poison.of_view rfl

lemma refuseIf_isolated (status : ReferenceRunnerStatus) (c : ReferenceRunner → Prop)
    [DecidablePred c] :
    Triple (Isolated plan) (refuseIf status c) (fun _ => Isolated plan) (Isolated plan) :=
  (Triple.stopIf fun _ h _ => h).conseq (fun _ h => h) (fun _ _ h => h.1) fun _ h => h

lemma poisonIf_isolated (status : ReferenceRunnerStatus) (c : ReferenceRunner → Prop)
    [DecidablePred c] :
    Triple (Isolated plan) (stopIf status c ReferenceRunner.poison : RunnerM Unit)
      (fun _ => Isolated plan) (Isolated plan) :=
  (Triple.stopIf fun _ h _ => h.toBased.poison).conseq (fun _ h => h) (fun _ _ h => h.1)
    fun _ h => h

lemma prepareCache_isolated (token : ℕ) (answers : CacheAnswers) (first last : ℕ) :
    Triple (Isolated plan) (prepareFixedPositionDecodeGraphCache token answers first last)
      (fun _ => Isolated plan) (Isolated plan) := by
  unfold prepareFixedPositionDecodeGraphCache
  refine Triple.bind (failStepIf_isolated (fun _ h => h.toBased) _ _) fun _ => ?_
  refine Triple.bind (refuseIf_isolated _ _) fun _ => ?_
  refine Triple.bind (refuseIf_isolated _ _) fun _ => ?_
  refine Triple.bind (refuseIf_isolated _ _) fun _ => ?_
  refine Triple.bind (refuseIf_isolated _ _) fun _ => ?_
  refine Triple.bind (refuseIf_isolated _ _) fun _ => ?_
  refine Triple.bind (refuseIf_isolated _ _) fun _ => ?_
  intro runner h
  rw [outcome_mk]
  obtain ⟨hmoved, hmarks, hpoisoned⟩ := stageSlots_marks token answers.captures
    (cacheRange first last) [] runner
  revert hmoved hmarks hpoisoned
  generalize stageSlots token answers.captures (cacheRange first last) [] runner = result
  obtain ⟨failure, staged, reached⟩ := result
  intro hmoved hmarks hpoisoned
  cases failure with
  | some failure =>
    exact rollbackStaging_isolated (hmoved.based h.toBased) _ _ failure staged fun status hfailure =>
      hpoisoned status (congrArg some hfailure)
  | none =>
    have hfinish := finishStaging_isolated h hmoved (hmarks rfl) answers.cleanup
      (cacheRange first last) staged
    revert hfinish
    dsimp only
    generalize finishStaging answers.cleanup runner.currentPosition (cacheRange first last) staged
      reached = result
    obtain ⟨r, final⟩ := result
    cases r with
    | ok a => exact id
    | error e => exact id

lemma clear_isolated (answers : ClearAnswers) :
    Triple (Isolated plan) (clearFixedPositionDecodeGraphCache answers) (fun _ => Isolated plan)
      (Isolated plan) := by
  have hdestroy : Triple (Isolated plan)
      (update ReferenceRunner.destroyDecodeGraphP1 : RunnerM Unit) (fun _ => Isolated plan)
      (Isolated plan) := Triple.update fun _ h => h.of_view rfl
  unfold clearFixedPositionDecodeGraphCache
  refine Triple.bind (failStepIf_isolated (fun _ h => h.toBased) _ _) fun _ => ?_
  refine Triple.bind (poisonIf_isolated _ _) fun _ => ?_
  refine Triple.bind (poisonIf_isolated _ _) fun _ => ?_
  exact Triple.bind hdestroy fun _ => poisonIf_isolated _ _

end Captures

section Replay

variable {F : Type} {plan : RequestMemoryPlan} {runner : ReferenceRunner} {position limit : ℕ}

lemma Working.of_view {reached : ReferenceRunner} (h : Working plan position limit runner)
    (hview : isolationView reached = isolationView runner) : Working plan position limit reached := by
  have hstate : reached.state = runner.state := congrArg (fun v => v.1.1) hview
  have hboundary : reached.requestReuseBoundary = runner.requestReuseBoundary :=
    congrArg Prod.snd hview
  refine ⟨⟨?_, ?_, ?_⟩, ?_, ?_, ?_⟩
  · rw [hstate]
    exact h.fixed
  · rw [hstate]
    exact h.arena
  · rw [hstate]
    exact h.bounded
  · rw [hstate]
    exact h.start
  · rw [hboundary]
    exact h.uncertain
  · rw [hstate]
    exact h.dirty

lemma requireSlot_working (hsound : CacheSound runner) :
    Triple (fun reached => Working plan position position reached ∧
        graphView reached = graphView runner) (requireSlot position)
      (fun slot reached => (Resting (published runner.decodeGraphP1Slots) runner.store.launched
          reached.store ∧ Working plan position position reached) ∧
        slot ∈ published runner.decodeGraphP1Slots ∧ slot.stats.position = position)
      (Isolated plan) := by
  rintro reached ⟨hworking, hview⟩
  have hslots : reached.decodeGraphP1Slots = runner.decodeGraphP1Slots := congrArg Prod.fst hview
  have hstore : reached.store = runner.store := congrArg Prod.snd hview
  unfold requireSlot
  rw [outcome_mk]
  cases hfound : reached.preparedSlot position with
  | none => exact hworking.toBased.failed
  | some slot =>
    obtain ⟨hbound, hslot, hplace⟩ := preparedSlot_some hfound
    rw [hslots] at hslot
    exact ⟨⟨hstore ▸ hsound.resting, hworking⟩, mem_published.mpr ⟨_, hbound, hslot⟩, hplace⟩

lemma onStore_working {m : GraphM Unit} {pre post stopped : GraphStore → Prop}
    (h : Triple pre m (fun _ => post) stopped) :
    Triple (fun reached => pre reached.store ∧ Working plan position limit reached) (onStore m)
      (fun _ reached => post reached.store ∧ Working plan position limit reached)
      (Isolated plan) := by
  rintro reached ⟨hpre, hworking⟩
  unfold onStore
  rw [outcome_mk]
  have hh := h reached.store hpre
  revert hh
  generalize outcome m reached.store = result
  obtain ⟨r, store⟩ := result
  cases r with
  | ok a => exact fun hh => ⟨hh, hworking.of_view rfl⟩
  | error e => exact fun _ => hworking.toBased.failed.of_view rfl

-- The launched graph is the one of the position, so that its rows are the ones of the step.
lemma replay_isolated (token : ℕ) (answers : ReplayStepAnswers F) (measureTiming : Bool)
    (hsound : CacheSound runner) :
    Triple (fun reached => Isolated plan reached ∧ graphView reached = graphView runner)
      (replayFixedPositionDecodeGraphP1 token answers measureTiming) (fun _ => Isolated plan)
      (Isolated plan) := by
  have hactive : Keeps graphView (failStepIf (runnerStatus .invalidStepOptions
      "whole_request_prefill_graph_replay_active") (·.wholeRequestPrefillActive)) :=
    Keeps.stopIf fun _ => rfl
  have hposition : Triple (fun reached =>
        Working plan reached.currentPosition reached.currentPosition reached ∧
          graphView reached = graphView runner)
      (examine ReferenceRunner.currentPosition : RunnerM ℕ)
      (fun position reached => Working plan position position reached ∧
        graphView reached = graphView runner) (Isolated plan) := Triple.examine fun _ h => h
  unfold replayFixedPositionDecodeGraphP1
  refine Triple.bind (hactive.carry (failStepIf_isolated (fun _ h => h.toBased) _ _)) fun _ => ?_
  refine Triple.bind ((stepEntry_keepsGraphs _ _ _).carry (stepEntry_isolated _ _ (by decide)))
    fun _ => ?_
  refine Triple.bind hposition fun position => ?_
  refine Triple.bind (requireSlot_working hsound) fun slot => Triple.assume fun ⟨hmem, hplace⟩ => ?_
  refine Triple.bind (onStore_working (replaySlot_spec answers.replay token hmem)) fun _ => ?_
  have hlaunched : Triple (fun reached => Resting (published runner.decodeGraphP1Slots)
        (runner.store.launched ++ [replayedContent slot token]) reached.store ∧
          Working plan position position reached) (runLaunched answers.step.written)
      (fun _ => Working plan position (position + 1)) (Isolated plan) := by
    refine Triple.update fun reached h => ?_
    rw [h.1.log, List.getLast?_append_of_ne_nil _ (List.cons_ne_nil _ _), List.getLast?_singleton]
    have hcontent : (replayedContent slot token).position = position := hplace
    dsimp only
    rw [hcontent]
    exact h.2.write
  exact Triple.bind hlaunched fun _ => completeStep_isolated _ _ _

end Replay

end Qwen3xOrin.Runner
