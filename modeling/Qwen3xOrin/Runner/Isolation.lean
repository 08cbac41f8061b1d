import Qwen3xOrin.Runner.GraphCache

/-! What a request leaves in the persistent area is known to the reuse boundary, or the runner is
poisoned: the invariant, and the steps and tiles that keep it. -/

namespace Qwen3xOrin.Runner

open Library Request Prefill
open Generation hiding maximumRequestPrefillChunkSize Outcome

section Bytes

variable {plan : RequestMemoryPlan} {state : RequestState} {limit limit' : ℕ}

def Zeroed (state : RequestState) : Prop :=
  ∃ arena, state.arena = some arena ∧
    ∀ address, Persistent state.plan address → arena address = 0

def DirtyBelow (limit : ℕ) (state : RequestState) : Prop :=
  ∃ arena, state.arena = some arena ∧
    ∀ address, Persistent state.plan address → arena address ≠ 0 → Dirty state.plan limit address

lemma dirty_mono (h : limit ≤ limit') {address : ℕ} (hdirty : Dirty plan limit address) :
    Dirty plan limit' address := by
  obtain hconv | hgdn | ⟨layer, position, row, hposition, hrow⟩ := hdirty
  · exact Or.inl hconv
  · exact Or.inr (Or.inl hgdn)
  · exact Or.inr (Or.inr ⟨layer, position, row, hposition.trans_le h, hrow⟩)

lemma DirtyBelow.mono (hdirty : DirtyBelow limit state) (h : limit ≤ limit') :
    DirtyBelow limit' state := by
  obtain ⟨arena, harena, hdirty⟩ := hdirty
  exact ⟨arena, harena, fun address hp hne => dirty_mono h (hdirty address hp hne)⟩

lemma Zeroed.dirtyBelow (h : Zeroed state) : DirtyBelow limit state := by
  obtain ⟨arena, harena, hzero⟩ := h
  exact ⟨arena, harena, fun address hp hne => absurd (hzero address hp) hne⟩

lemma rowCovers_iff {row : Except RequestAccessError RequestRegion} {address : ℕ} :
    RequestState.rowCovers row address = true ↔
      ∃ region, row = .ok region ∧ Covers region.arenaOffset region.byteSize address := by
  cases row with
  | ok region => simp [RequestState.rowCovers]
  | error e => simp [RequestState.rowCovers]

-- The kernels of the tokens from `first` on touch nothing persistent above them.
lemma writable_dirty {first count address : ℕ}
    (h : RequestState.writable plan first count address = true)
    (hp : Persistent plan address) : Dirty plan (first + count) address := by
  simp only [RequestState.writable, Bool.or_eq_true, Bool.not_eq_true', decide_eq_false_iff_not,
    decide_eq_true_eq, List.any_eq_true, List.mem_range] at h
  obtain ((hout | hconv) | hgdn) | ⟨layer, -, offset, hoffset, hrow⟩ := h
  · exact absurd hp hout
  · exact Or.inl hconv
  · exact Or.inr (Or.inl hgdn)
  · refine Or.inr (Or.inr ⟨layer, first + offset, ?_⟩)
    obtain hkey | hvalue := hrow
    · obtain ⟨region, hregion, hcovers⟩ := rowCovers_iff.1 hkey
      exact ⟨region, by omega, Or.inl hregion, hcovers⟩
    · obtain ⟨region, hregion, hcovers⟩ := rowCovers_iff.1 hvalue
      exact ⟨region, by omega, Or.inr hregion, hcovers⟩

lemma DirtyBelow.overwrite {first count : ℕ} {bytes : ArenaBytes}
    (h : DirtyBelow first state) :
    DirtyBelow (first + count)
      (state.overwrite (RequestState.writable state.plan first count) bytes) := by
  obtain ⟨arena, harena, hdirty⟩ := h
  refine ⟨_, congrArg (Option.map _) harena, fun address hp hne => ?_⟩
  by_cases hwritten : RequestState.writable state.plan first count address = true
  · exact writable_dirty hwritten hp
  · refine dirty_mono (Nat.le_add_right _ _) (hdirty address hp ?_)
    exact fun hzero => hne ((if_neg hwritten).trans hzero)

end Bytes

section Invariant

variable {plan : RequestMemoryPlan} {runner : ReferenceRunner} {position limit : ℕ}

structure Based (plan : RequestMemoryPlan) (runner : ReferenceRunner) : Prop where
  fixed : runner.state.plan = plan
  arena : runner.state.arena.isSome
  bounded : runner.state.sequenceLength ≤ plan.maxSequenceLength

-- Between two calls: what an unpoisoned runner holds over the ordinary profile. The other profiles
-- are cleared whole.
structure Isolated (plan : RequestMemoryPlan) (runner : ReferenceRunner) : Prop extends
    Based plan runner where
  dirty : plan.profile = .legacyC512 → runner.poisoned = false →
    DirtyBelow runner.state.sequenceLength runner.state
  clean : plan.profile = .legacyC512 → runner.poisoned = false →
    runner.requestReuseBoundary = .knownClean → Zeroed runner.state

-- Inside a call that has given up the boundary: the position has not moved yet, and the rows below
-- `limit` may have been written.
structure Working (plan : RequestMemoryPlan) (position limit : ℕ) (runner : ReferenceRunner) :
    Prop extends Based plan runner where
  start : runner.state.sequenceLength = position
  uncertain : runner.requestReuseBoundary = .uncertain
  dirty : plan.profile = .legacyC512 → DirtyBelow limit runner.state

lemma Based.present (h : Based plan runner) : ¬runner.state.arena.isNone := by
  obtain ⟨arena, harena⟩ := Option.isSome_iff_exists.mp h.arena
  rw [harena]
  exact Bool.false_ne_true

lemma Based.failed (h : Based plan runner) : Isolated plan runner.failed where
  fixed := h.fixed
  arena := h.arena
  bounded := h.bounded
  dirty _ hpoisoned := by cases hpoisoned
  clean _ hpoisoned := by cases hpoisoned

lemma Based.poison (h : Based plan runner) : Isolated plan runner.poison where
  fixed := h.fixed
  arena := h.arena
  bounded := h.bounded
  dirty _ hpoisoned := by cases hpoisoned
  clean _ hpoisoned := by cases hpoisoned

lemma Based.isolated (h : Based plan runner) (hprofile : plan.profile ≠ .legacyC512) :
    Isolated plan runner :=
  ⟨h, fun hlegacy => absurd hlegacy hprofile, fun hlegacy => absurd hlegacy hprofile⟩

-- The part of a runner that its isolation depends on.
def isolationView (runner : ReferenceRunner) : (RequestState × Bool) × RequestReuseBoundary :=
  ((runner.state, runner.poisoned), runner.requestReuseBoundary)

lemma Isolated.of_view {reached : ReferenceRunner} (h : Isolated plan runner)
    (hview : isolationView reached = isolationView runner) : Isolated plan reached := by
  have hstate : reached.state = runner.state := congrArg (fun v => v.1.1) hview
  have hpoisoned : reached.poisoned = runner.poisoned := congrArg (fun v => v.1.2) hview
  have hboundary : reached.requestReuseBoundary = runner.requestReuseBoundary :=
    congrArg Prod.snd hview
  refine ⟨⟨?_, ?_, ?_⟩, ?_, ?_⟩
  · rw [hstate]
    exact h.fixed
  · rw [hstate]
    exact h.arena
  · rw [hstate]
    exact h.bounded
  · rw [hstate, hpoisoned]
    exact h.dirty
  · rw [hstate, hpoisoned, hboundary]
    exact h.clean

lemma Isolated.working (h : Isolated plan runner) (hpoisoned : ¬runner.poisoned) :
    Working plan runner.currentPosition runner.currentPosition runner.markUncertain where
  fixed := h.fixed
  arena := h.arena
  bounded := h.bounded
  start := rfl
  uncertain := rfl
  dirty hlegacy := h.dirty hlegacy (Bool.eq_false_iff.mpr hpoisoned)

lemma Working.isolated (h : Working plan position position runner) : Isolated plan runner where
  fixed := h.fixed
  arena := h.arena
  bounded := h.bounded
  dirty hlegacy _ := by
    rw [h.start]
    exact h.dirty hlegacy
  clean _ _ hclean := by
    rw [h.uncertain] at hclean
    cases hclean

-- Once the written rows are committed the call is over.
lemma Working.commit {reached : ReferenceRunner} (h : Working plan position limit runner)
    (hplan : reached.state.plan = runner.state.plan)
    (harena : reached.state.arena = runner.state.arena)
    (hlength : reached.state.sequenceLength = limit) (hlimit : limit ≤ plan.maxSequenceLength)
    (hboundary : reached.requestReuseBoundary = runner.requestReuseBoundary) :
    Isolated plan reached where
  fixed := hplan.trans h.fixed
  arena := harena ▸ h.arena
  bounded := hlength ▸ hlimit
  dirty hlegacy _ := by
    obtain ⟨arena, hsome, hdirty⟩ := h.dirty hlegacy
    refine ⟨arena, harena.trans hsome, ?_⟩
    rw [hplan, hlength]
    exact hdirty
  clean _ _ hclean := by
    rw [hboundary, h.uncertain] at hclean
    cases hclean

lemma Based.overwrite {written : ℕ → Bool} {bytes : ArenaBytes} (h : Based plan runner) :
    Based plan { runner with state := runner.state.overwrite written bytes } where
  fixed := h.fixed
  arena := by
    rw [RequestState.overwrite, Option.isSome_map]
    exact h.arena
  bounded := h.bounded

lemma Working.write {count : ℕ} {bytes : ArenaBytes} (h : Working plan position position runner) :
    Working plan position (position + count)
      { runner with
        state := runner.state.overwrite (RequestState.writable runner.state.plan position count)
          bytes } where
  toBased := h.toBased.overwrite
  start := h.start
  uncertain := h.uncertain
  dirty hlegacy := (h.dirty hlegacy).overwrite

lemma scratch_misses {address : ℕ} (hp : Persistent plan address) :
    ¬(!decide (Covers plan.persistentOffset plan.persistentBytes address)) = true := by
  rw [Bool.not_eq_true', decide_eq_false_iff_not, not_not]
  exact hp

-- A call that only uses the workspace leaves the persistent area as it was.
lemma Isolated.scratch {bytes : ArenaBytes} (h : Isolated plan runner) :
    Isolated plan
      { runner with
        state := runner.state.overwrite (fun address => !decide (Covers
          runner.state.plan.persistentOffset runner.state.plan.persistentBytes address)) bytes }
    where
  toBased := h.toBased.overwrite
  dirty hlegacy hpoisoned := by
    obtain ⟨arena, harena, hdirty⟩ := h.dirty hlegacy hpoisoned
    refine ⟨_, congrArg (Option.map _) harena, fun address hp hne => hdirty address hp ?_⟩
    exact fun hzero => hne ((if_neg (scratch_misses hp)).trans hzero)
  clean hlegacy hpoisoned hclean := by
    obtain ⟨arena, harena, hzero⟩ := h.clean hlegacy hpoisoned hclean
    refine ⟨_, congrArg (Option.map _) harena, fun address hp => ?_⟩
    exact (if_neg (scratch_misses hp)).trans (hzero address hp)

end Invariant

section Steps

variable {F : Type} {plan : RequestMemoryPlan} {position limit : ℕ} {α : Type}

section Checks

variable {p : ReferenceRunner → Prop} (hp : ∀ runner, p runner → Based plan runner)

include hp

lemma failStepIf_isolated (status : ReferenceRunnerStatus) (c : ReferenceRunner → Prop)
    [DecidablePred c] : Triple p (failStepIf status c) (fun _ => p) (Isolated plan) :=
  (Triple.stopIf fun runner h _ => (hp runner h).failed).conseq (fun _ h => h)
    (fun _ _ h => h.1) fun _ h => h

lemma failStepOn_isolated (failure : Option ReferenceRunnerStatus) :
    Triple p (failStepOn failure) (fun _ => p) (Isolated plan) := by
  cases failure with
  | none => exact Triple.ret fun _ h => h
  | some status => exact fun runner h => (hp runner h).failed

lemma failStepOnError_isolated (result : Except ReferenceRunnerStatus α) :
    Triple p (failStepOnError result) (fun _ => p) (Isolated plan) := by
  cases result with
  | ok a => exact Triple.ret fun _ h => h
  | error status => exact fun runner h => (hp runner h).failed

end Checks

lemma dropRetained_isolated :
    Triple (Isolated plan) (update ReferenceRunner.dropRetained : RunnerM Unit)
      (fun _ => Isolated plan) (Isolated plan) := Triple.update fun _ h => h.of_view rfl

lemma markUncertain_working :
    Triple (fun runner => Isolated plan runner ∧ ¬runner.poisoned)
      (update ReferenceRunner.markUncertain : RunnerM Unit)
      (fun _ runner => Working plan runner.currentPosition runner.currentPosition runner)
      (Isolated plan) := Triple.update fun _ h => h.1.working h.2

lemma position_working :
    Triple (fun runner => Working plan runner.currentPosition runner.currentPosition runner)
      (examine ReferenceRunner.currentPosition : RunnerM ℕ)
      (fun position => Working plan position position) (Isolated plan) :=
  Triple.examine fun _ h => h

lemma writeRows_working {count : ℕ} {bytes : ArenaBytes} :
    Triple (Working plan position position) (writeRows position count bytes)
      (fun _ => Working plan position (position + count)) (Isolated plan) :=
  Triple.update fun _ h => h.write

lemma commitToken_isolated :
    Triple (Working plan position (position + 1)) commitToken (fun _ => Isolated plan)
      (Isolated plan) := by
  intro runner h
  unfold commitToken RequestState.commitToken
  rw [outcome_mk]
  rw [if_neg h.present]
  by_cases hfull : runner.state.plan.maxSequenceLength ≤ runner.state.sequenceLength
  · rw [if_pos hfull]
    dsimp only
    rw [if_pos (by decide)]
    exact h.toBased.failed
  · rw [if_neg hfull]
    dsimp only
    rw [if_neg (by decide)]
    have hroom := not_le.mp hfull
    rw [h.fixed, h.start] at hroom
    exact h.commit rfl rfl (congrArg (· + 1) h.start) hroom rfl

lemma completeStep_isolated (token : ℕ) (options : ReferenceStepOptions) (answers : StepAnswers F) :
    Triple (Working plan position (position + 1)) (completeStep token options answers position)
      (fun _ => Isolated plan) (Isolated plan) := by
  unfold completeStep
  refine Triple.bind (failStepOn_isolated (fun _ h => h.toBased) _) fun _ => ?_
  refine Triple.bind Triple.unread fun setup => ?_
  refine Triple.bind (failStepOnError_isolated (fun _ h => h.toBased) _) fun result => ?_
  exact Triple.bind commitToken_isolated fun _ => Triple.ret fun _ h => h

lemma stepChecks_isolated {p : ReferenceRunner → Prop}
    (hp : ∀ runner, p runner → Based plan runner) (token : ℕ) (options : ReferenceStepOptions)
    (action : DecodeGraphP1Action) :
    Triple p (do
      failStepIf (runnerStatus .tokenOutOfRange "input_token")
        (fun _ => referenceVocabularySize ≤ token)
      failStepIf (runnerStatus .capacityExceeded "request_capacity")
        (·.state.remainingCapacity = 0)
      failStepIf (runnerStatus .traceUnavailable "trace_not_reserved")
        (fun runner => options.captureTrace ∧ !runner.setup.traceReserved)
      failStepIf (runnerStatus .invalidStepOptions "decode_graph_p1_contract")
        (fun runner => action ≠ .disabled ∧ !decodeGraphContract options runner.setup))
      (fun _ => p) (Isolated plan) := by
  refine Triple.bind (failStepIf_isolated hp _ _) fun _ => ?_
  refine Triple.bind (failStepIf_isolated hp _ _) fun _ => ?_
  exact Triple.bind (failStepIf_isolated hp _ _) fun _ => failStepIf_isolated hp _ _

lemma stepEntry_isolated (token : ℕ) (options : ReferenceStepOptions)
    {action : DecodeGraphP1Action} (haction : action ≠ .captureOnly) :
    Triple (Isolated plan) (stepEntry token options action)
      (fun _ runner => Working plan runner.currentPosition runner.currentPosition runner)
      (Isolated plan) := by
  unfold stepEntry
  refine Triple.bind (failStepIf_isolated (fun _ h => h.toBased) _ _) fun _ => ?_
  refine Triple.bind dropRetained_isolated fun _ => ?_
  refine Triple.bind (Triple.stopIf fun runner h _ => h) fun _ => ?_
  rw [if_pos haction]
  refine Triple.bind markUncertain_working fun _ => ?_
  exact stepChecks_isolated (fun _ h => h.toBased) _ _ _

lemma step_isolated (token : ℕ) (options : ReferenceStepOptions) (answers : StepAnswers F) :
    Triple (Isolated plan) (step token options answers) (fun _ => Isolated plan)
      (Isolated plan) := by
  unfold step
  refine Triple.bind (failStepIf_isolated (fun _ h => h.toBased) _ _) fun _ => ?_
  refine Triple.bind (stepEntry_isolated _ _ (by decide)) fun _ => ?_
  refine Triple.bind position_working fun position => ?_
  refine Triple.bind writeRows_working fun _ => ?_
  refine Triple.bind (failStepOn_isolated (fun _ h => h.toBased) _) fun _ => ?_
  exact completeStep_isolated _ _ _

lemma commitTile_isolated {count : ℕ} :
    Triple (Working plan position (position + count)) (commitTile (position + count))
      (fun _ => Isolated plan) (Isolated plan) := by
  intro runner h
  unfold commitTile ReferenceRunner.setPosition RequestState.setSequenceLength
  rw [outcome_mk, if_neg h.present]
  by_cases hfull : runner.state.plan.maxSequenceLength < position + count
  · rw [if_pos hfull]
    dsimp only
    rw [if_pos (by decide)]
    exact h.toBased.failed
  · rw [if_neg hfull]
    dsimp only
    rw [if_neg (by decide)]
    have hroom := not_lt.mp hfull
    rw [h.fixed] at hroom
    exact h.commit rfl rfl rfl hroom rfl

lemma commitTileRoute_isolated (elision : Bool) (layerPass : PrefillRouteEvidence) :
    Triple (Isolated plan) (commitTileRoute elision layerPass) (fun _ => Isolated plan)
      (Isolated plan) := by
  intro runner h
  unfold commitTileRoute
  rw [outcome_mk]
  have hfailed := h.toBased.failed
  dsimp only
  split_ifs
  · exact h.of_view rfl
  · exact hfailed.of_view rfl
  · exact h.of_view rfl
  · exact hfailed.of_view rfl

lemma retain_isolated (place token row : ℕ) :
    Triple (Isolated plan) (retain place token row) (fun _ => Isolated plan) (Isolated plan) :=
  Triple.update fun _ h => h.of_view rfl

lemma wholeTile_isolated (tokens : List ℕ) (options : ReferencePrefillTileOptions)
    (answers : TileAnswers F) (elision : Bool) :
    Triple (fun runner => Working plan runner.currentPosition runner.currentPosition runner)
      (wholeTile tokens options answers elision) (fun _ => Isolated plan) (Isolated plan) := by
  unfold wholeTile
  refine Triple.bind position_working fun position => ?_
  refine Triple.bind writeRows_working fun _ => ?_
  refine Triple.bind (failStepOn_isolated (fun _ h => h.toBased) _) fun _ => ?_
  refine Triple.bind (failStepOn_isolated (fun _ h => h.toBased) _) fun _ => ?_
  refine Triple.bind commitTile_isolated fun _ => ?_
  refine Triple.bind (commitTileRoute_isolated _ _) fun _ => ?_
  split_ifs
  · exact Triple.bind (retain_isolated _ _ _) fun _ => Triple.ret fun _ h => h
  · exact Triple.ret fun _ h => h

lemma recordScalar_isolated :
    Triple (Isolated plan) recordScalarPrefillRouteFallback (fun _ => Isolated plan)
      (Isolated plan) := by
  unfold recordScalarPrefillRouteFallback
  refine Triple.bind (failStepIf_isolated (fun _ h => h.toBased) _ _) fun _ => ?_
  intro runner h
  rw [outcome_mk]
  cases scalarLayerPass {} scalarRecords with
  | none => exact h
  | some tile =>
    dsimp only
    split_ifs
    · exact h.of_view rfl
    · exact h.of_view rfl

lemma scalarTile_isolated (options : ReferencePrefillTileOptions) (answers : StepAnswers F)
    (token : ℕ) :
    Triple (Isolated plan) (scalarTile options answers token) (fun _ => Isolated plan)
      (Isolated plan) := by
  unfold scalarTile
  refine Triple.bind (step_isolated _ _ _) fun result => ?_
  refine Triple.bind ?_ fun _ => (?_ : Triple (Isolated plan) _ _ _)
  · intro runner h
    rw [outcome_mk]
    have hh := @recordScalar_isolated plan runner h
    revert hh
    generalize outcome recordScalarPrefillRouteFallback runner = result
    obtain ⟨r, reached⟩ := result
    cases r with
    | ok a => exact id
    | error e => exact fun hh => hh.toBased.failed
  · split_ifs
    · exact Triple.bind (retain_isolated _ _ _) fun _ => Triple.ret fun _ h => h
    · exact Triple.ret fun _ h => h

lemma tileEntry_isolated (tokens : List ℕ) (options : ReferencePrefillTileOptions)
    (elision : Bool) :
    Triple (Isolated plan) (tileEntry tokens options elision)
      (fun _ runner => Working plan runner.currentPosition runner.currentPosition runner)
      (Isolated plan) := by
  unfold tileEntry selectPrefillTileExecution
  refine Triple.bind (failStepIf_isolated (fun _ h => h.toBased) _ _) fun _ => ?_
  refine Triple.bind dropRetained_isolated fun _ => ?_
  refine Triple.bind (Triple.stopIf fun runner h _ => h) fun _ => ?_
  refine Triple.bind markUncertain_working fun _ => ?_
  refine Triple.bind (failStepIf_isolated (fun _ h => h.toBased) _ _) fun _ => ?_
  refine Triple.bind (failStepIf_isolated (fun _ h => h.toBased) _ _) fun _ => ?_
  refine Triple.bind (failStepIf_isolated (fun _ h => h.toBased) _ _) fun _ => ?_
  refine Triple.bind (failStepIf_isolated (fun _ h => h.toBased) _ _) fun _ => ?_
  refine Triple.bind (failStepIf_isolated (fun _ h => h.toBased) _ _) fun _ => ?_
  exact failStepIf_isolated (fun _ h => h.toBased) _ _

lemma tile_isolated (tokens : List ℕ) (options : ReferencePrefillTileOptions)
    (answers : TileAnswers F) (elision : Bool) :
    Triple (Isolated plan) (prefillPrefixTileImpl tokens options answers elision)
      (fun _ => Isolated plan) (Isolated plan) := by
  unfold prefillPrefixTileImpl
  refine Triple.bind (tileEntry_isolated _ _ _) fun _ => ?_
  split
  · exact (scalarTile_isolated _ _ _).conseq (fun _ h => h.isolated) (fun _ _ h => h)
      fun _ h => h
  · exact wholeTile_isolated _ _ _ _

lemma finishRetained_isolated (token : ℕ) (options : ReferenceStepOptions)
    (answers : StepAnswers F) :
    Triple (Isolated plan) (finishPrefillFromRetainedTile token options answers)
      (fun _ => Isolated plan) (Isolated plan) := by
  have hscratch : Triple (Isolated plan) (writeScratch answers.written) (fun _ => Isolated plan)
      (Isolated plan) := Triple.update fun _ h => h.scratch
  have hpoisoned : Triple (Isolated plan)
      (refuseIf (runnerStatus .poisoned "finish_prefill_from_retained_tile") (·.poisoned))
      (fun _ => Isolated plan) (Isolated plan) :=
    (Triple.stopIf fun runner h _ => h).conseq (fun _ h => h) (fun _ _ h => h.1) fun _ h => h
  unfold finishPrefillFromRetainedTile
  refine Triple.bind (failStepIf_isolated (fun _ h => h.toBased) _ _) fun _ => ?_
  refine Triple.bind Triple.unread fun retained => ?_
  refine Triple.bind dropRetained_isolated fun _ => ?_
  refine Triple.bind hpoisoned fun _ => ?_
  refine Triple.bind (failStepIf_isolated (fun _ h => h.toBased) _ _) fun _ => ?_
  refine Triple.bind (failStepIf_isolated (fun _ h => h.toBased) _ _) fun _ => ?_
  refine Triple.bind hscratch fun _ => ?_
  refine Triple.bind (failStepOn_isolated (fun _ h => h.toBased) _) fun _ => ?_
  refine Triple.bind (failStepOn_isolated (fun _ h => h.toBased) _) fun _ => ?_
  refine Triple.bind Triple.unread fun setup => ?_
  refine Triple.bind (failStepOnError_isolated (fun _ h => h.toBased) _) fun result => ?_
  exact Triple.ret fun _ h => h

end Steps

end Qwen3xOrin.Runner
