import Qwen3xOrin.Runner.GraphCapture
import Qwen3xOrin.Runner.Operations

/-! The decode graphs of a runner over whole runs: the published slots hold every graph, owner and
executable there is, whatever the calls and the answers of CUDA were. -/

namespace Qwen3xOrin.Runner

open Library Request Prefill
open Generation hiding maximumRequestPrefillChunkSize Outcome

section Published

variable {slots : ℕ → Option DecodeGraphP1Slot} {p : ℕ} {slot : DecodeGraphP1Slot}

def published (slots : ℕ → Option DecodeGraphP1Slot) : Multiset DecodeGraphP1Slot :=
  ↑((List.range referenceDecodeGraphP2MaximumSlots).filterMap slots)

lemma mem_published :
    slot ∈ published slots ↔ ∃ p < referenceDecodeGraphP2MaximumSlots, slots p = some slot := by
  simp [published]

lemma published_none : published (fun _ => none) = 0 := by
  simp [published]

lemma filterMap_update {l : List ℕ} (hnodup : l.Nodup) (hp : p ∈ l) :
    (↑(slots p).toList : Multiset DecodeGraphP1Slot) +
        ↑(l.filterMap (Function.update slots p (some slot))) =
      slot ::ₘ (↑(l.filterMap slots) : Multiset DecodeGraphP1Slot) := by
  have hperm := List.perm_cons_erase hp
  have hrest : (l.erase p).filterMap (Function.update slots p (some slot)) =
      (l.erase p).filterMap slots := by
    refine List.filterMap_congr fun q hq => ?_
    have hne : q ≠ p := fun heq => (List.Nodup.not_mem_erase hnodup) (heq ▸ hq)
    rw [Function.update_of_ne hne]
  rw [Multiset.coe_eq_coe.mpr (hperm.filterMap _), Multiset.coe_eq_coe.mpr (hperm.filterMap _)]
  rw [List.filterMap_cons, Function.update_self, hrest, List.filterMap_cons]
  cases slots p with
  | none => simp
  | some old =>
    rw [Option.toList_some, Multiset.coe_singleton, Multiset.singleton_add, ← Multiset.cons_coe]
    exact Multiset.cons_swap _ _ _

lemma published_update (hp : p < referenceDecodeGraphP2MaximumSlots) :
    ↑(slots p).toList + published (Function.update slots p (some slot)) =
      slot ::ₘ published slots :=
  filterMap_update List.nodup_range (List.mem_range.mpr hp)

-- Slots that go to free positions join the published ones.
lemma published_all {staged : List (ℕ × DecodeGraphP1Slot)}
    (hfree : ∀ entry ∈ staged, slots entry.1 = none)
    (hbound : ∀ entry ∈ staged, entry.1 < referenceDecodeGraphP2MaximumSlots)
    (hnodup : (staged.map Prod.fst).Nodup) :
    published (publishAll staged slots) = ↑(staged.map Prod.snd) + published slots := by
  unfold publishAll
  induction staged generalizing slots with
  | nil => simp
  | cons first rest ih =>
    rw [List.map_cons, List.nodup_cons] at hnodup
    have hne : ∀ other ∈ rest, other.1 ≠ first.1 := fun other hother heq =>
      hnodup.1 (List.mem_map.mpr ⟨other, hother, heq⟩)
    have hstep := @published_update slots first.1 first.2 (hbound first List.mem_cons_self)
    rw [hfree first List.mem_cons_self] at hstep
    simp only [Option.toList_none, Multiset.coe_nil, zero_add] at hstep
    rw [List.foldl_cons, ih _ (fun other hother => hbound other (List.mem_cons_of_mem _ hother))
      hnodup.2, hstep, List.map_cons, ← Multiset.cons_coe, Multiset.cons_add, Multiset.add_cons]
    intro other hother
    rw [Function.update_of_ne (hne other hother)]
    exact hfree other (List.mem_cons_of_mem _ hother)

lemma publishAll_of_not_mem {staged : List (ℕ × DecodeGraphP1Slot)}
    (h : p ∉ staged.map Prod.fst) : publishAll staged slots p = slots p := by
  unfold publishAll
  induction staged generalizing slots with
  | nil => rfl
  | cons first rest ih =>
    rw [List.map_cons, List.mem_cons, not_or] at h
    rw [List.foldl_cons, ih h.2, Function.update_of_ne h.1]

lemma publishAll_of_mem {staged : List (ℕ × DecodeGraphP1Slot)}
    (h : (p, slot) ∈ staged) (hnodup : (staged.map Prod.fst).Nodup) :
    publishAll staged slots p = some slot := by
  induction staged generalizing slots with
  | nil => cases h
  | cons first rest ih =>
    rw [List.map_cons, List.nodup_cons] at hnodup
    obtain rfl | hrest := List.mem_cons.mp h
    · exact (publishAll_of_not_mem hnodup.1).trans (Function.update_self ..)
    · exact ih hrest hnodup.2

end Published

section Frame

variable {F : Type} {cfg : BuildConfig} {α : Type}

abbrev GraphView := (ℕ → Option DecodeGraphP1Slot) × GraphStore

def graphView (runner : ReferenceRunner) : GraphView := (runner.decodeGraphP1Slots, runner.store)

-- What a failure leaves as it was.
def lastingView (runner : ReferenceRunner) : (RunnerSetup × RequestState) × GraphView :=
  ((runner.setup, runner.state), graphView runner)

lemma lastingView_failed (runner : ReferenceRunner) :
    lastingView runner.failed = lastingView runner := rfl

lemma failStepOn_keeps {β : Type} {view : ReferenceRunner → β}
    (hview : ∀ runner, view runner.failed = view runner)
    (failure : Option ReferenceRunnerStatus) : Keeps view (failStepOn failure) := by
  cases failure with
  | none => exact Keeps.ret
  | some status => exact hview

lemma failStepOnError_keeps (result : Except ReferenceRunnerStatus α) :
    Keeps graphView (failStepOnError result) := by
  cases result with
  | ok a => exact Keeps.ret
  | error status => exact fun _ => rfl

lemma commitToken_keeps : Keeps graphView commitToken := by
  intro runner
  unfold commitToken
  rw [outcome_mk]
  dsimp only
  split_ifs <;> rfl

lemma stepEntry_keeps (token : ℕ) (options : ReferenceStepOptions) (action : DecodeGraphP1Action) :
    Keeps lastingView (stepEntry token options action) := by
  unfold stepEntry
  refine Keeps.bind (Keeps.stopIf fun _ => rfl) fun _ => ?_
  refine Keeps.bind (Keeps.update fun _ => rfl) fun _ => ?_
  refine Keeps.bind (Keeps.stopIf fun _ => rfl) fun _ => ?_
  have hchecks : Keeps lastingView (do
      failStepIf (runnerStatus .tokenOutOfRange "input_token")
        (fun _ => referenceVocabularySize ≤ token)
      failStepIf (runnerStatus .capacityExceeded "request_capacity")
        (·.state.remainingCapacity = 0)
      failStepIf (runnerStatus .traceUnavailable "trace_not_reserved")
        (fun runner => options.captureTrace ∧ !runner.setup.traceReserved)
      failStepIf (runnerStatus .invalidStepOptions "decode_graph_p1_contract")
        (fun runner => action ≠ .disabled ∧ !decodeGraphContract options runner.setup)) := by
    refine Keeps.bind (Keeps.stopIf fun _ => rfl) fun _ => ?_
    refine Keeps.bind (Keeps.stopIf fun _ => rfl) fun _ => ?_
    exact Keeps.bind (Keeps.stopIf fun _ => rfl) fun _ => Keeps.stopIf fun _ => rfl
  split_ifs
  · exact Keeps.bind (Keeps.update fun _ => rfl) fun _ => hchecks
  · exact hchecks

lemma stepEntry_keepsGraphs (token : ℕ) (options : ReferenceStepOptions)
    (action : DecodeGraphP1Action) : Keeps graphView (stepEntry token options action) :=
  (stepEntry_keeps token options action).map Prod.snd

lemma completeStep_keeps (token : ℕ) (options : ReferenceStepOptions) (answers : StepAnswers F)
    (position : ℕ) : Keeps graphView (completeStep token options answers position) := by
  unfold completeStep
  refine Keeps.bind (failStepOn_keeps (fun _ => rfl) _) fun _ => ?_
  refine Keeps.bind Keeps.examine fun _ => ?_
  refine Keeps.bind (failStepOnError_keeps _) fun _ => ?_
  exact Keeps.bind commitToken_keeps fun _ => Keeps.ret

lemma step_keeps (token : ℕ) (options : ReferenceStepOptions) (answers : StepAnswers F) :
    Keeps graphView (step token options answers) := by
  unfold step
  refine Keeps.bind (Keeps.stopIf fun _ => rfl) fun _ => ?_
  refine Keeps.bind (stepEntry_keepsGraphs _ _ _) fun _ => ?_
  refine Keeps.bind Keeps.examine fun _ => ?_
  refine Keeps.bind (Keeps.update fun _ => rfl) fun _ => ?_
  exact Keeps.bind (failStepOn_keeps (fun _ => rfl) _) fun _ => completeStep_keeps _ _ _ _

lemma recordScalar_keeps : Keeps graphView recordScalarPrefillRouteFallback := by
  unfold recordScalarPrefillRouteFallback
  refine Keeps.bind (Keeps.stopIf fun _ => rfl) fun _ => ?_
  intro runner
  rw [outcome_mk]
  cases scalarLayerPass {} scalarRecords with
  | none => rfl
  | some tile =>
    dsimp only
    split_ifs <;> rfl

lemma scalarTile_keeps (options : ReferencePrefillTileOptions) (answers : StepAnswers F)
    (token : ℕ) : Keeps graphView (scalarTile options answers token) := by
  unfold scalarTile
  refine Keeps.bind (step_keeps _ _ _) fun result => ?_
  refine Keeps.bind ?_ fun _ => ?_
  · intro runner
    rw [outcome_mk]
    have hrecord := recordScalar_keeps runner
    revert hrecord
    rcases outcome recordScalarPrefillRouteFallback runner with ⟨_ | _, reached⟩ <;> exact id
  · split_ifs
    · exact Keeps.bind (Keeps.update fun _ => rfl) fun _ => Keeps.ret
    · exact Keeps.ret

lemma wholeTile_keeps (tokens : List ℕ) (options : ReferencePrefillTileOptions)
    (answers : TileAnswers F) (elision : Bool) :
    Keeps graphView (wholeTile tokens options answers elision) := by
  unfold wholeTile
  refine Keeps.bind Keeps.examine fun _ => ?_
  refine Keeps.bind (Keeps.update fun _ => rfl) fun _ => ?_
  refine Keeps.bind (failStepOn_keeps (fun _ => rfl) _) fun _ => ?_
  refine Keeps.bind (failStepOn_keeps (fun _ => rfl) _) fun _ => ?_
  refine Keeps.bind ?_ fun _ => Keeps.bind ?_ fun _ => ?_
  · intro runner
    unfold commitTile
    rw [outcome_mk]
    dsimp only
    split_ifs <;> rfl
  · intro runner
    unfold commitTileRoute
    rw [outcome_mk]
    dsimp only
    split_ifs <;> rfl
  · split_ifs
    · exact Keeps.bind (Keeps.update fun _ => rfl) fun _ => Keeps.ret
    · exact Keeps.ret

lemma tileEntry_keeps (tokens : List ℕ) (options : ReferencePrefillTileOptions) (elision : Bool) :
    Keeps graphView (tileEntry tokens options elision) := by
  unfold tileEntry selectPrefillTileExecution
  refine Keeps.bind (Keeps.stopIf fun _ => rfl) fun _ => ?_
  refine Keeps.bind (Keeps.update fun _ => rfl) fun _ => ?_
  refine Keeps.bind (Keeps.stopIf fun _ => rfl) fun _ => ?_
  refine Keeps.bind (Keeps.update fun _ => rfl) fun _ => ?_
  refine Keeps.bind (Keeps.stopIf fun _ => rfl) fun _ => ?_
  refine Keeps.bind (Keeps.stopIf fun _ => rfl) fun _ => ?_
  refine Keeps.bind (Keeps.stopIf fun _ => rfl) fun _ => ?_
  refine Keeps.bind (Keeps.stopIf fun _ => rfl) fun _ => ?_
  exact Keeps.bind (Keeps.stopIf fun _ => rfl) fun _ => Keeps.stopIf fun _ => rfl

lemma tile_keeps (tokens : List ℕ) (options : ReferencePrefillTileOptions)
    (answers : TileAnswers F) (elision : Bool) :
    Keeps graphView (prefillPrefixTileImpl tokens options answers elision) := by
  unfold prefillPrefixTileImpl
  refine Keeps.bind (tileEntry_keeps _ _ _) fun _ => ?_
  split
  · exact scalarTile_keeps _ _ _
  · exact wholeTile_keeps _ _ _ _

lemma finishRetained_keeps (token : ℕ) (options : ReferenceStepOptions) (answers : StepAnswers F) :
    Keeps graphView (finishPrefillFromRetainedTile token options answers) := by
  unfold finishPrefillFromRetainedTile
  refine Keeps.bind (Keeps.stopIf fun _ => rfl) fun _ => ?_
  refine Keeps.bind Keeps.examine fun _ => ?_
  refine Keeps.bind (Keeps.update fun _ => rfl) fun _ => ?_
  refine Keeps.bind (Keeps.stopIf fun _ => rfl) fun _ => ?_
  refine Keeps.bind (Keeps.stopIf fun _ => rfl) fun _ => ?_
  refine Keeps.bind (Keeps.stopIf fun _ => rfl) fun _ => ?_
  refine Keeps.bind (Keeps.update fun _ => rfl) fun _ => ?_
  refine Keeps.bind (failStepOn_keeps (fun _ => rfl) _) fun _ => ?_
  refine Keeps.bind (failStepOn_keeps (fun _ => rfl) _) fun _ => ?_
  refine Keeps.bind Keeps.examine fun _ => ?_
  exact Keeps.bind (failStepOnError_keeps _) fun _ => Keeps.ret

lemma failPrefillIf_keeps {answers : WholeRequestAnswers F} {status : ReferenceRunnerStatus}
    {c : ReferenceRunner → Prop} [DecidablePred c] :
    Keeps graphView (failWholeRequestPrefillIf answers status c) := by
  intro runner
  unfold failWholeRequestPrefillIf
  rw [outcome_mk]
  split_ifs <;> rfl

lemma failPrefillOn_keeps {answers : WholeRequestAnswers F}
    {result : Except ReferenceRunnerStatus α} :
    Keeps graphView (failWholeRequestPrefillOn answers result) := by
  cases result with
  | ok a => exact Keeps.ret
  | error status => exact fun _ => rfl

lemma wholeRequestEntry_keeps (tokens : List ℕ) (plan : PrefillExecutionPlan)
    (tactics : WholeRequestTactics) (options : ReferenceWholeRequestPrefillOptions)
    (answers : WholeRequestAnswers F) :
    Keeps graphView (wholeRequestEntry cfg tokens plan tactics options answers) := by
  unfold wholeRequestEntry
  refine Keeps.bind failPrefillIf_keeps fun _ => ?_
  refine Keeps.bind (Keeps.update fun _ => rfl) fun _ => ?_
  refine Keeps.bind (Keeps.stopIf fun _ => rfl) fun _ => ?_
  refine Keeps.bind (Keeps.update fun _ => rfl) fun _ => ?_
  refine Keeps.bind failPrefillIf_keeps fun _ => ?_
  refine Keeps.bind failPrefillIf_keeps fun _ => ?_
  refine Keeps.bind failPrefillIf_keeps fun _ => ?_
  refine Keeps.bind failPrefillIf_keeps fun _ => ?_
  refine Keeps.bind failPrefillIf_keeps fun _ => ?_
  refine Keeps.bind failPrefillIf_keeps fun _ => ?_
  refine Keeps.bind failPrefillIf_keeps fun _ => ?_
  refine Keeps.bind failPrefillIf_keeps fun _ => ?_
  refine Keeps.bind failPrefillIf_keeps fun _ => ?_
  exact Keeps.bind failPrefillIf_keeps fun _ => failPrefillIf_keeps

lemma prefillWholeRequest_keeps (tokens : List ℕ) (plan : PrefillExecutionPlan)
    (tactics : WholeRequestTactics) (options : ReferenceWholeRequestPrefillOptions)
    (answers : WholeRequestAnswers F) :
    Keeps graphView (prefillWholeRequestLayerMajorCore cfg tokens plan tactics options answers) := by
  unfold prefillWholeRequestLayerMajorCore
  refine Keeps.bind (wholeRequestEntry_keeps _ _ _ _ _) fun _ => ?_
  refine Keeps.bind ?_ fun _ => ?_
  · unfold executeLayers
    refine Keeps.bind (Keeps.update fun _ => rfl) fun _ => ?_
    refine Keeps.bind (Keeps.update fun _ => rfl) fun _ => ?_
    refine Keeps.bind failPrefillOn_keeps fun _ => ?_
    refine Keeps.bind failPrefillOn_keeps fun _ => ?_
    refine Keeps.bind failPrefillOn_keeps fun _ => ?_
    exact Keeps.bind failPrefillIf_keeps fun _ => failPrefillIf_keeps
  · refine Keeps.bind failPrefillOn_keeps fun _ => ?_
    refine Keeps.bind Keeps.examine fun _ => ?_
    refine Keeps.bind failPrefillOn_keeps fun _ => ?_
    exact Keeps.bind (Keeps.update fun _ => rfl) fun _ => Keeps.ret

lemma finishWholeRequest_keeps (token : ℕ) (options : ReferenceStepOptions)
    (answers : StepAnswers F) :
    Keeps graphView (finishWholeRequestCompatibilityCore token options answers) := by
  unfold finishWholeRequestCompatibilityCore
  refine Keeps.bind (Keeps.stopIf fun _ => rfl) fun _ => ?_
  refine Keeps.bind Keeps.examine fun _ => ?_
  refine Keeps.bind (Keeps.update fun _ => rfl) fun _ => ?_
  refine Keeps.bind (Keeps.stopIf fun _ => rfl) fun _ => ?_
  refine Keeps.bind (Keeps.stopIf fun _ => rfl) fun _ => ?_
  refine Keeps.bind (Keeps.stopIf fun _ => rfl) fun _ => ?_
  refine Keeps.bind (Keeps.update fun _ => rfl) fun _ => ?_
  refine Keeps.bind (failStepOn_keeps (fun _ => rfl) _) fun _ => ?_
  refine Keeps.bind (failStepOn_keeps (fun _ => rfl) _) fun _ => ?_
  refine Keeps.bind Keeps.examine fun _ => ?_
  refine Keeps.bind (failStepOnError_keeps _) fun _ => ?_
  exact Keeps.bind (Keeps.update fun _ => rfl) fun _ => Keeps.ret

lemma commitWholeRequest_keeps (plan : PrefillExecutionPlan)
    (progress : PrefillExecutionProgress) :
    Keeps graphView (commitWholeRequestLayerMajorCompatibilityCore cfg plan progress) := by
  unfold commitWholeRequestLayerMajorCompatibilityCore
  refine Keeps.bind (Keeps.stopIf fun _ => rfl) fun _ => ?_
  refine Keeps.bind Keeps.examine fun stage => ?_
  refine Keeps.bind (Keeps.stopIf fun _ => rfl) fun _ => ?_
  refine Keeps.bind (Keeps.stopIf fun _ => rfl) fun _ => ?_
  refine Keeps.bind (Keeps.stopIf fun _ => rfl) fun _ => ?_
  refine Keeps.bind (Keeps.stopIf fun _ => rfl) fun _ => ?_
  refine Keeps.bind (Keeps.stopIf fun _ => rfl) fun _ => ?_
  refine Keeps.bind (Keeps.stopIf fun _ => rfl) fun _ => ?_
  intro runner
  unfold publishStage
  rw [outcome_mk]
  dsimp only
  split_ifs <;> rfl

lemma reset_keeps (answers : ResetAnswers) : Keeps graphView (reset answers) := by
  intro runner
  unfold reset
  rw [outcome_mk]
  rcases resetForRequestAsync answers.memset .conservativeFull 0 runner.state {} with
    ⟨status, state, receipt⟩
  dsimp only
  split_ifs <;> rfl

lemma begin_keeps (answers : ResetAnswers) : Keeps graphView (beginOrdinaryRequest answers) := by
  intro runner
  unfold beginOrdinaryRequest
  rw [outcome_mk]
  dsimp only
  split_ifs <;> rfl

lemma commitBoundary_keeps : Keeps graphView commitOrdinaryRequestBoundary := by
  intro runner
  unfold commitOrdinaryRequestBoundary
  rw [outcome_mk]
  split_ifs <;> rfl

end Frame

section Capture

variable {F : Type} {held : Multiset DecodeGraphP1Slot} {log : List GraphContent}
  {owner : Option ℕ} {staged : Bool} {α : Type}

-- What the graph calls of a step leave as it was.
def requestView (runner : ReferenceRunner) :
    (RunnerSetup × RequestState) × (ℕ → Option DecodeGraphP1Slot) :=
  ((runner.setup, runner.state), runner.decodeGraphP1Slots)

lemma onStore_spec {m : GraphM α} {pre : GraphStore → Prop} {post : α → GraphStore → Prop}
    {stopped : GraphStore → Prop} (h : Triple pre m post stopped)
    {v : (RunnerSetup × RequestState) × (ℕ → Option DecodeGraphP1Slot)} :
    Triple (fun runner => pre runner.store ∧ requestView runner = v) (onStore m)
      (fun a runner => post a runner.store ∧ requestView runner = v)
      (fun runner => stopped runner.store ∧ requestView runner = v) := by
  rintro runner ⟨hpre, hview⟩
  unfold onStore
  rw [outcome_mk]
  have hh := h runner.store hpre
  revert hh
  rcases outcome m runner.store with ⟨r, store⟩
  cases r with
  | ok a => exact fun hh => ⟨hh, hview⟩
  | error e => exact fun hh => ⟨hh, hview⟩

-- A step that leaves the lasting part alone keeps what holds of it.
lemma lasting_triple {m : RunnerM α} (hm : Keeps lastingView m)
    {p : (RunnerSetup × RequestState) × GraphView → Prop} :
    Triple (fun runner => p (lastingView runner)) m (fun _ runner => p (lastingView runner))
      (fun runner => p (lastingView runner)) := by
  intro runner h
  have hk := hm runner
  revert hk
  rcases outcome m runner with ⟨r, reached⟩
  cases r with
  | ok a => exact fun hk => (congrArg p hk).mpr h
  | error e => exact fun hk => (congrArg p hk).mpr h

lemma captureStep_spec (token : ℕ) (answers : CaptureAnswers)
    (howner : owner.isSome → staged = true)
    {v : (RunnerSetup × RequestState) × (ℕ → Option DecodeGraphP1Slot)} :
    Triple (fun runner => (Resting held log runner.store ∧ OwnerShared owner runner.store) ∧
        requestView runner = v) (captureStep token answers staged owner)
      (fun slot runner => (CapturedSlot held log owner v.1.2.sequenceLength staged slot
          runner.store ∧ v.1.2.sequenceLength < referenceDecodeGraphP2MaximumSlots) ∧
        requestView runner = v)
      (fun runner => Resting held log runner.store ∧ requestView runner = v) := by
  have hcheck {m : RunnerM Unit} (hm : Keeps lastingView m) :
      Triple (fun runner => (Resting held log runner.store ∧ OwnerShared owner runner.store) ∧
          requestView runner = v) m
        (fun _ runner => (Resting held log runner.store ∧ OwnerShared owner runner.store) ∧
          requestView runner = v)
        (fun runner => Resting held log runner.store ∧ requestView runner = v) :=
    (@lasting_triple Unit m hm fun view =>
      (Resting held log view.2.2 ∧ OwnerShared owner view.2.2) ∧ (view.1, view.2.1) = v).conseq
        (fun _ h => h) (fun _ _ h => h) fun _ h => ⟨h.1.1, h.2⟩
  unfold captureStep
  refine Triple.bind (hcheck (stepEntry_keeps _ _ _)) fun _ => ?_
  refine Triple.bind (hcheck (failStepOn_keeps lastingView_failed _)) fun _ => ?_
  refine Triple.bind (hcheck (Keeps.stopIf lastingView_failed)) fun _ => ?_
  have hposition : Triple (fun runner => (Resting held log runner.store ∧
        OwnerShared owner runner.store) ∧ requestView runner = v)
      (examine ReferenceRunner.currentPosition : RunnerM ℕ)
      (fun position runner => ((Resting held log runner.store ∧
        OwnerShared owner runner.store) ∧ requestView runner = v) ∧
          position = v.1.2.sequenceLength)
      (fun runner => Resting held log runner.store ∧ requestView runner = v) :=
    Triple.examine fun runner h => ⟨h, by rw [← h.2]; rfl⟩
  refine Triple.bind hposition fun position => Triple.assume fun heq => ?_
  subst heq
  refine Triple.bind (Triple.stopIf fun runner h _ => ⟨h.1.1, h.2⟩) fun _ => ?_
  refine Triple.assume fun hbound => ?_
  refine Triple.bind (hcheck (failStepOn_keeps lastingView_failed _)) fun _ => ?_
  exact (onStore_spec (captureSlot_spec answers token howner)).conseq (fun _ h => h)
    (fun _ _ h => ⟨⟨h.1, not_le.mp hbound⟩, h.2⟩) fun _ h => h

end Capture

section Operations

variable {F : Type} {slots : ℕ → Option DecodeGraphP1Slot} {log : List GraphContent}

def Placed (slots : ℕ → Option DecodeGraphP1Slot) : Prop :=
  ∀ p slot, slots p = some slot →
    slot.stats.position = p ∧ p < referenceDecodeGraphP2MaximumSlots

-- Every graph, owner and executable there is belongs to a published slot.
structure CacheSound (runner : ReferenceRunner) : Prop where
  held : Held (published runner.decodeGraphP1Slots) none none runner.store
  placed : Placed runner.decodeGraphP1Slots

lemma CacheSound.resting {runner : ReferenceRunner} (h : CacheSound runner) :
    Resting (published runner.decodeGraphP1Slots) runner.store.launched runner.store :=
  ⟨h.held, rfl⟩

lemma Placed.update (h : Placed slots) {slot : DecodeGraphP1Slot} {p : ℕ}
    (hposition : slot.stats.position = p) (hbound : p < referenceDecodeGraphP2MaximumSlots) :
    Placed (Function.update slots p (some slot)) := by
  intro q other hother
  by_cases heq : q = p
  · rw [heq, Function.update_self] at hother
    obtain rfl := Option.some.inj hother
    exact heq ▸ ⟨hposition, hbound⟩
  · rw [Function.update_of_ne heq] at hother
    exact h q other hother

lemma Resting.replace {slot : DecodeGraphP1Slot} {p : ℕ} {store : GraphStore}
    (h : Resting (slot ::ₘ published slots) log store)
    (hbound : p < referenceDecodeGraphP2MaximumSlots) :
    Resting (published (Function.update slots p (some slot))) log
      (destroySlots (slots p).toList store) := by
  refine ⟨Held.destroySlots ?_, ?_⟩
  · rw [published_update hbound]
    exact h.held
  · rw [← h.log]
    exact destroySlots_launched _ _

lemma prepareP1_spec (token : ℕ) (answers : CaptureAnswers) {runner : ReferenceRunner}
    (h : CacheSound runner) :
    CacheSound (outcome (prepareFixedPositionDecodeGraphP1 token answers) runner).2 := by
  have hspec : Triple (Exactly runner) (prepareFixedPositionDecodeGraphP1 token answers)
      (fun _ => CacheSound) CacheSound := by
    unfold prepareFixedPositionDecodeGraphP1
    refine Triple.bind (Triple.stopIf fun reached hreached _ => ?_) fun _ => ?_
    · rw [hreached]
      exact ⟨h.held, h.placed⟩
    have hposition : Triple (fun reached => Exactly runner reached ∧
          ¬reached.wholeRequestPrefillActive) (examine ReferenceRunner.currentPosition : RunnerM ℕ)
        (fun position reached => ((Resting (published runner.decodeGraphP1Slots)
            runner.store.launched reached.store ∧ OwnerShared none reached.store) ∧
          requestView reached = requestView runner) ∧
            position = runner.state.sequenceLength) CacheSound := by
      refine Triple.examine fun reached hreached => ?_
      rw [hreached.1]
      exact ⟨⟨⟨h.resting, fun o ho => by cases ho⟩, rfl⟩, rfl⟩
    refine Triple.bind hposition fun position => Triple.assume fun heq => ?_
    subst heq
    have hcapture := @captureStep_spec (published runner.decodeGraphP1Slots)
      runner.store.launched none false token answers (by simp) (requestView runner)
    refine Triple.bind (hcapture.conseq (fun _ hh => hh) (fun _ _ hh => hh) fun reached hh => ?_)
      fun slot => ?_
    · have hslots : reached.decodeGraphP1Slots = runner.decodeGraphP1Slots :=
        congrArg Prod.snd hh.2
      exact ⟨hslots ▸ hh.1.held, hslots ▸ h.placed⟩
    · refine Triple.bind (Triple.update fun reached hh => ?_) fun _ => Triple.examine fun _ hh => hh
      obtain ⟨⟨hslot, hbound⟩, hview⟩ := hh
      have hslots : reached.decodeGraphP1Slots = runner.decodeGraphP1Slots :=
        congrArg Prod.snd hview
      refine ⟨?_, ?_⟩
      · simp only [ReferenceRunner.replaceSlot, hslots]
        exact (hslot.resting.replace hbound).held
      · simp only [ReferenceRunner.replaceSlot, hslots]
        exact h.placed.update hslot.position hbound
  exact hspec.final rfl

end Operations

section Staging

variable {F : Type} {runner reached : ReferenceRunner} {staged : List DecodeGraphP1Slot}

-- The captures of a range so far: their slots are held beside the published ones, and of the
-- request only the position moved.
structure Staging (runner : ReferenceRunner) (staged : List DecodeGraphP1Slot)
    (reached : ReferenceRunner) : Prop where
  resting : Resting (↑staged + published runner.decodeGraphP1Slots) runner.store.launched
    reached.store
  slots : reached.decodeGraphP1Slots = runner.decodeGraphP1Slots
  setup : reached.setup = runner.setup
  state : { reached.state with sequenceLength := runner.state.sequenceLength } = runner.state
  bounds : ∀ slot ∈ staged, slot.stats.position < referenceDecodeGraphP2MaximumSlots

lemma setSequenceLength_state (state : RequestState) (position length : ℕ) :
    { (state.setSequenceLength position).2 with sequenceLength := length } =
      { state with sequenceLength := length } := by
  unfold RequestState.setSequenceLength
  split_ifs <;> rfl

lemma setSequenceLength_ok {state : RequestState} {position : ℕ}
    (h : (state.setSequenceLength position).1 = {}) :
    (state.setSequenceLength position).2.sequenceLength = position := by
  revert h
  unfold RequestState.setSequenceLength
  split_ifs with harena hbound
  · intro h
    cases h
  · intro h
    cases h
  · exact fun _ => rfl

lemma Staging.setPosition (h : Staging runner staged reached) (position : ℕ) :
    Staging runner staged (reached.setPosition position).2 where
  resting := h.resting
  slots := h.slots
  setup := h.setup
  state := (setSequenceLength_state _ _ _).trans h.state
  bounds := h.bounds

lemma staging_start (h : CacheSound runner) : Staging runner [] runner where
  resting := by simpa using h.resting
  slots := rfl
  setup := rfl
  state := rfl
  bounds := by simp

lemma coe_append_singleton (staged : List DecodeGraphP1Slot) (slot : DecodeGraphP1Slot)
    (held : Multiset DecodeGraphP1Slot) :
    (↑(staged ++ [slot]) : Multiset DecodeGraphP1Slot) + held = slot ::ₘ (↑staged + held) := by
  rw [← Multiset.coe_add, Multiset.coe_singleton, add_assoc, Multiset.singleton_add,
    Multiset.add_cons]

-- One more capture of the range.
lemma Staging.capture (h : Staging runner staged reached) (token : ℕ) (answers : CaptureAnswers)
    (howner : OwnerShared (staged.head?.map (·.exec)) reached.store) :
    match outcome (captureStep token answers true (staged.head?.map (·.exec))) reached with
    | (.ok slot, reached') => Staging runner (staged ++ [slot]) reached' ∧
        slot.stats.position = reached.state.sequenceLength ∧
        OwnerShared ((staged ++ [slot]).head?.map (·.exec)) reached'.store
    | (.error _, reached') => Staging runner staged reached' := by
  have hcapture := @captureStep_spec (↑staged + published runner.decodeGraphP1Slots)
    runner.store.launched (staged.head?.map (·.exec)) true token answers (fun _ => rfl)
    (requestView reached) reached ⟨⟨h.resting, howner⟩, rfl⟩
  revert hcapture
  generalize outcome (captureStep token answers true (staged.head?.map (·.exec))) reached = result
  obtain ⟨r, reached'⟩ := result
  cases r with
  | ok slot =>
    rintro ⟨⟨hslot, hbound⟩, hview⟩
    have hslots : reached'.decodeGraphP1Slots = reached.decodeGraphP1Slots :=
      congrArg Prod.snd hview
    have hsetup : reached'.setup = reached.setup := congrArg (fun v => v.1.1) hview
    have hstate : reached'.state = reached.state := congrArg (fun v => v.1.2) hview
    refine ⟨⟨?_, hslots.trans h.slots, hsetup.trans h.setup, ?_, ?_⟩, hslot.position, ?_⟩
    · rw [coe_append_singleton]
      exact hslot.resting
    · rw [hstate]
      exact h.state
    · intro other hother
      obtain hother | hother := List.mem_append.mp hother
      · exact h.bounds other hother
      · rw [List.mem_singleton.mp hother, hslot.position]
        exact hbound
    · cases staged with
      | nil => exact hslot.shared rfl
      | cons first rest =>
        have hsame : slot.exec = first.exec := hslot.owner first.exec rfl
        have hshared := hslot.shared rfl
        rw [hsame] at hshared
        exact hshared
  | error e =>
    rintro ⟨hresting, hview⟩
    have hslots : reached'.decodeGraphP1Slots = reached.decodeGraphP1Slots :=
      congrArg Prod.snd hview
    have hsetup : reached'.setup = reached.setup := congrArg (fun v => v.1.1) hview
    have hstate : reached'.state = reached.state := congrArg (fun v => v.1.2) hview
    exact ⟨hresting, hslots.trans h.slots, hsetup.trans h.setup, hstate ▸ h.state, h.bounds⟩

lemma stageSlots_spec (token : ℕ) (captures : ℕ → CaptureAnswers) (positions : List ℕ)
    (h : Staging runner staged reached)
    (howner : OwnerShared (staged.head?.map (·.exec)) reached.store) :
    Staging runner (stageSlots token captures positions staged reached).2.1
        (stageSlots token captures positions staged reached).2.2 ∧
      ((stageSlots token captures positions staged reached).1 = none →
        (stageSlots token captures positions staged reached).2.1.map (·.stats.position) =
          staged.map (·.stats.position) ++ positions) := by
  induction positions generalizing staged reached with
  | nil => exact ⟨h, fun _ => by simp [stageSlots]⟩
  | cons position positions ih =>
    have hmoved := h.setPosition position
    unfold stageSlots
    dsimp only
    by_cases hstatus : (reached.setPosition position).1 = {}
    · rw [if_neg (not_not.mpr hstatus)]
      have hlength : (reached.setPosition position).2.state.sequenceLength = position :=
        setSequenceLength_ok hstatus
      have hcapture := hmoved.capture token (captures position) howner
      revert hcapture
      generalize outcome (captureStep token (captures position) true
        (staged.head?.map (·.exec))) (reached.setPosition position).2 = result
      obtain ⟨r, reached'⟩ := result
      cases r with
      | ok slot =>
        rintro ⟨hstaged, hposition, howner'⟩
        obtain ⟨hfinal, hpositions⟩ := ih hstaged howner'
        refine ⟨hfinal, fun hnone => ?_⟩
        rw [hpositions hnone, List.map_append, List.map_singleton, hposition, hlength,
          List.append_assoc]
        rfl
      | error e => exact fun hstaged => ⟨hstaged, fun hnone => by cases hnone⟩
    · rw [if_pos hstatus]
      exact ⟨hmoved, fun hnone => by cases hnone⟩

lemma Staging.destroyed (h : Staging runner staged reached) :
    Resting (published runner.decodeGraphP1Slots) runner.store.launched
      (destroySlots staged reached.store) :=
  ⟨Held.destroySlots h.resting.held, (destroySlots_launched _ _).trans h.resting.log⟩

lemma CacheSound.of_view (h : CacheSound runner) (hresting : Resting
      (published runner.decodeGraphP1Slots) runner.store.launched reached.store)
    (hslots : reached.decodeGraphP1Slots = runner.decodeGraphP1Slots) : CacheSound reached :=
  ⟨hslots ▸ hresting.held, hslots ▸ h.placed⟩

lemma rollbackStaging_spec (h : CacheSound runner) (hstaging : Staging runner staged reached)
    (cleanup : ℤ) (entryPosition : ℕ) (failure : StagingFailure) :
    CacheSound (rollbackStaging cleanup entryPosition failure staged reached).2 ∧
      (rollbackStaging cleanup entryPosition failure staged reached).2.decodeGraphP1Slots =
        runner.decodeGraphP1Slots := by
  have hmoved := hstaging.setPosition entryPosition
  unfold rollbackStaging
  cases failure with
  | position status => exact ⟨h.of_view hmoved.destroyed hmoved.slots, hmoved.slots⟩
  | capture status =>
    dsimp only
    split_ifs
    · exact ⟨h.of_view hmoved.destroyed hmoved.slots, hmoved.slots⟩
    · exact ⟨h.of_view hmoved.destroyed hmoved.slots, hmoved.slots⟩

lemma getLsbD_preparedMask {positions : List ℕ} {p : ℕ} (hp : p < 64) :
    (preparedMask positions).getLsbD p = decide (p ∈ positions) := by
  have hfold (mask : BitVec 64) :
      (positions.foldl (fun mask position => mask ||| 1#64 <<< position) mask).getLsbD p =
        (mask.getLsbD p || decide (p ∈ positions)) := by
    induction positions generalizing mask with
    | nil => simp
    | cons position positions ih =>
      rw [List.foldl_cons, ih, BitVec.getLsbD_or, Bool.or_assoc]
      congr 1
      rw [BitVec.getLsbD_shiftLeft, BitVec.getLsbD_one]
      by_cases heq : p = position
      · subst heq
        simp [hp]
      · have hmem : (p ∈ position :: positions) ↔ p ∈ positions := by simp [heq]
        simp only [hmem]
        by_cases hlt : p < position
        · simp [hlt]
        · have hne : p - position ≠ 0 := by omega
          simp [hne]
  unfold preparedMask
  rw [hfold]
  simp

-- What a successful preparation of a range leaves.
structure RangePublished (first last : ℕ) (runner reached : ReferenceRunner)
    (prepared : ReferenceDecodeGraphCachePrepareResult) : Prop where
  before : ∀ p, first ≤ p → p ≤ last → runner.decodeGraphP1Slots p = none
  inside : ∀ p, first ≤ p → p ≤ last → (reached.decodeGraphP1Slots p).isSome
  outside : ∀ p, p < first ∨ last < p →
    reached.decodeGraphP1Slots p = runner.decodeGraphP1Slots p
  position : reached.currentPosition = runner.currentPosition
  mask : ∀ p < 64, prepared.preparedMask.getLsbD p = true ↔ first ≤ p ∧ p ≤ last
  stats : prepared.graphs.map (·.position) = cacheRange first last

lemma mem_cacheRange {first last p : ℕ} : p ∈ cacheRange first last ↔ first ≤ p ∧ p ≤ last := by
  unfold cacheRange
  rw [List.mem_range'_1]
  omega

lemma zip_fst_mem {positions : List ℕ} {p : ℕ} (hlength : positions.length = staged.length)
    (hp : p ∈ positions) : ∃ slot, (p, slot) ∈ positions.zip staged := by
  have hmem : p ∈ (positions.zip staged).map Prod.fst := by
    rw [List.map_fst_zip hlength.le]
    exact hp
  obtain ⟨⟨q, slot⟩, hentry, rfl⟩ := List.mem_map.mp hmem
  exact ⟨slot, hentry⟩

lemma zip_position {positions : List ℕ} (hpositions : staged.map (·.stats.position) = positions)
    {p : ℕ} {slot : DecodeGraphP1Slot} (h : (p, slot) ∈ positions.zip staged) :
    slot ∈ staged ∧ slot.stats.position = p := by
  subst hpositions
  induction staged with
  | nil => simp at h
  | cons first rest ih =>
    rw [List.map_cons, List.zip_cons_cons] at h
    obtain heq | hrest := List.mem_cons.mp h
    · obtain ⟨rfl, rfl⟩ := Prod.mk.inj heq
      exact ⟨List.mem_cons_self, rfl⟩
    · exact ⟨List.mem_cons_of_mem _ (ih hrest).1, (ih hrest).2⟩

-- The staged slots take the free positions of their range.
lemma finishStaging_spec (h : CacheSound runner) (hstaging : Staging runner staged reached)
    {first last : ℕ} (hpositions : staged.map (·.stats.position) = cacheRange first last)
    (hfree : ∀ p, first ≤ p → p ≤ last → runner.decodeGraphP1Slots p = none)
    (cleanup : ℤ) :
    match finishStaging cleanup runner.currentPosition (cacheRange first last) staged reached with
    | (.ok prepared, final) => CacheSound final ∧ RangePublished first last runner final prepared
    | (.error _, final) => CacheSound final ∧
        final.decodeGraphP1Slots = runner.decodeGraphP1Slots := by
  have hmoved := hstaging.setPosition runner.currentPosition
  have hlength : (cacheRange first last).length = staged.length := by
    rw [← hpositions, List.length_map]
  unfold finishStaging
  dsimp only
  by_cases hstatus : (reached.setPosition runner.currentPosition).1 = {}
  · rw [if_neg (not_not.mpr hstatus)]
    have hfst : ((cacheRange first last).zip staged).map Prod.fst = cacheRange first last :=
      List.map_fst_zip hlength.le
    have hsnd : ((cacheRange first last).zip staged).map Prod.snd = staged :=
      List.map_snd_zip hlength.ge
    have hnodup : (((cacheRange first last).zip staged).map Prod.fst).Nodup := by
      rw [hfst]
      exact List.nodup_range'
    have hentry : ∀ entry ∈ (cacheRange first last).zip staged,
        (first ≤ entry.1 ∧ entry.1 ≤ last) ∧ entry.2.stats.position = entry.1 ∧
          entry.1 < referenceDecodeGraphP2MaximumSlots := by
      rintro ⟨p, slot⟩ hmem
      obtain ⟨hslot, hposition⟩ := zip_position hpositions hmem
      exact ⟨mem_cacheRange.1 (List.of_mem_zip hmem).1, hposition,
        hposition ▸ hstaging.bounds slot hslot⟩
    refine ⟨⟨?_, ?_⟩, hfree, ?_, ?_, ?_, ?_, ?_⟩
    · simp only [ReferenceRunner.publishStaged, hmoved.slots]
      rw [published_all (fun entry hmem => hfree _ (hentry entry hmem).1.1 (hentry entry hmem).1.2)
        (fun entry hmem => (hentry entry hmem).2.2) hnodup, hsnd]
      exact hmoved.resting.held
    · simp only [ReferenceRunner.publishStaged, hmoved.slots]
      intro p slot hslot
      by_cases hp : p ∈ ((cacheRange first last).zip staged).map Prod.fst
      · obtain ⟨⟨q, other⟩, hmem, rfl⟩ := List.mem_map.mp hp
        rw [publishAll_of_mem hmem hnodup] at hslot
        obtain rfl := Option.some.inj hslot
        exact (hentry _ hmem).2
      · rw [publishAll_of_not_mem hp] at hslot
        exact h.placed p slot hslot
    · intro p hfirst hlast
      obtain ⟨slot, hmem⟩ := zip_fst_mem hlength (mem_cacheRange.2 ⟨hfirst, hlast⟩)
      simp only [ReferenceRunner.publishStaged, hmoved.slots]
      rw [publishAll_of_mem hmem hnodup]
      rfl
    · intro p hp
      simp only [ReferenceRunner.publishStaged, hmoved.slots]
      refine publishAll_of_not_mem fun hmem => ?_
      rw [hfst, mem_cacheRange] at hmem
      omega
    · exact setSequenceLength_ok hstatus
    · intro p hp
      rw [getLsbD_preparedMask hp, decide_eq_true_iff, mem_cacheRange]
    · rw [List.map_map]
      exact hpositions
  · rw [if_pos hstatus]
    exact ⟨h.of_view hmoved.destroyed hmoved.slots, hmoved.slots⟩

lemma prepareCache_spec (token : ℕ) (answers : CacheAnswers) (first last : ℕ)
    (h : CacheSound runner) :
    Triple (Exactly runner) (prepareFixedPositionDecodeGraphCache token answers first last)
      (fun prepared final => CacheSound final ∧ RangePublished first last runner final prepared)
      (fun final => CacheSound final ∧ final.decodeGraphP1Slots = runner.decodeGraphP1Slots) := by
  unfold prepareFixedPositionDecodeGraphCache
  have hrefuse {status : ReferenceRunnerStatus} {c : ReferenceRunner → Prop} [DecidablePred c]
      {f : ReferenceRunner → ReferenceRunner} (hf : ∀ r, graphView (f r) = graphView r) :
      Triple (Exactly runner) (stopIf status c f : RunnerM Unit)
        (fun _ reached => Exactly runner reached ∧ ¬ c runner)
        (fun final => CacheSound final ∧
          final.decodeGraphP1Slots = runner.decodeGraphP1Slots) := by
    refine (Triple.stopIf fun reached hreached _ => ?_).conseq (fun _ hh => hh)
      (fun _ reached hh => ⟨hh.1, hh.1 ▸ hh.2⟩) fun _ hh => hh
    rw [hreached]
    have hstore : (f runner).store = runner.store := congrArg Prod.snd (hf runner)
    have hslots : (f runner).decodeGraphP1Slots = runner.decodeGraphP1Slots :=
      congrArg Prod.fst (hf runner)
    exact ⟨h.of_view (hstore ▸ h.resting) hslots, hslots⟩
  refine Triple.bind (hrefuse fun _ => rfl) fun _ => Triple.assume fun _ => ?_
  refine Triple.bind (hrefuse fun _ => rfl) fun _ => Triple.assume fun _ => ?_
  refine Triple.bind (hrefuse fun _ => rfl) fun _ => Triple.assume fun hrange => ?_
  refine Triple.bind (hrefuse fun _ => rfl) fun _ => Triple.assume fun _ => ?_
  refine Triple.bind (hrefuse fun _ => rfl) fun _ => Triple.assume fun _ => ?_
  refine Triple.bind (hrefuse fun _ => rfl) fun _ => Triple.assume fun _ => ?_
  refine Triple.bind (hrefuse fun _ => rfl) fun _ => Triple.assume fun hempty => ?_
  have hfree : ∀ p, first ≤ p → p ≤ last → runner.decodeGraphP1Slots p = none := by
    intro p hfirst hlast
    by_contra hslot
    obtain ⟨slot, hslot⟩ := Option.ne_none_iff_exists'.mp hslot
    refine hempty ⟨p, mem_cacheRange.2 ⟨hfirst, hlast⟩, ?_⟩
    obtain ⟨hposition, hbound⟩ := h.placed p slot hslot
    unfold ReferenceRunner.hasFixedPositionDecodeGraphP1 ReferenceRunner.preparedSlot
    rw [if_pos hbound, hslot]
    simp [hposition]
  rintro reached rfl
  rw [outcome_mk]
  obtain ⟨hstaging, hpositions⟩ := stageSlots_spec token answers.captures
    (cacheRange first last) (staging_start h) (fun o ho => by cases ho)
  revert hstaging hpositions
  generalize stageSlots token answers.captures (cacheRange first last) [] reached = result
  obtain ⟨failure, staged, reached'⟩ := result
  intro hstaging hpositions
  cases failure with
  | some failure => exact rollbackStaging_spec h hstaging _ _ failure
  | none =>
    have hfinish := finishStaging_spec h hstaging (hpositions rfl) hfree answers.cleanup
    revert hfinish
    dsimp only
    generalize finishStaging answers.cleanup reached.currentPosition (cacheRange first last)
      staged reached' = result
    obtain ⟨r, final⟩ := result
    cases r with
    | ok prepared => exact id
    | error e => exact id

end Staging

section Runs

variable {F : Type} {cfg : BuildConfig} {runner reached : ReferenceRunner}

lemma CacheSound.of_graphView (h : CacheSound runner)
    (hview : graphView reached = graphView runner) : CacheSound reached := by
  have hslots : reached.decodeGraphP1Slots = runner.decodeGraphP1Slots := congrArg Prod.fst hview
  have hstore : reached.store = runner.store := congrArg Prod.snd hview
  exact h.of_view (hstore ▸ h.resting) hslots

lemma CacheSound.destroyAll (h : CacheSound runner) :
    Held 0 none none runner.destroyDecodeGraphP1.store :=
  Held.destroySlots (by rw [add_zero]; exact h.held)

lemma CacheSound.cleared (h : CacheSound runner) : CacheSound runner.destroyDecodeGraphP1 where
  held := by
    rw [show runner.destroyDecodeGraphP1.decodeGraphP1Slots = fun _ => none from rfl,
      published_none]
    exact h.destroyAll
  placed p slot hslot := by cases hslot

lemma clear_spec (answers : ClearAnswers) :
    Triple CacheSound (clearFixedPositionDecodeGraphCache answers) (fun _ => CacheSound)
      CacheSound := by
  have hstop {status : ReferenceRunnerStatus} {c : ReferenceRunner → Prop} [DecidablePred c]
      {f : ReferenceRunner → ReferenceRunner} (hf : ∀ r, graphView (f r) = graphView r) :
      Triple CacheSound (stopIf status c f : RunnerM Unit) (fun _ => CacheSound) CacheSound :=
    (Triple.stopIf fun _ h _ => h.of_graphView (hf _)).conseq (fun _ h => h) (fun _ _ h => h.1)
      fun _ h => h
  unfold clearFixedPositionDecodeGraphCache
  refine Triple.bind (hstop fun _ => rfl) fun _ => ?_
  refine Triple.bind (hstop fun _ => rfl) fun _ => ?_
  refine Triple.bind (hstop fun _ => rfl) fun _ => ?_
  exact Triple.bind (Triple.update fun _ h => h.cleared) fun _ => hstop fun _ => rfl

-- A replay launches the graph of the slot at its position, at the row of its token.
structure Replayed (token : ℕ) (runner final : ReferenceRunner) : Prop where
  slots : final.decodeGraphP1Slots = runner.decodeGraphP1Slots
  launched : ∃ slot, runner.decodeGraphP1Slots runner.currentPosition = some slot ∧
    final.store.launched = runner.store.launched ++
      [⟨slot.graph, runner.currentPosition, token * referenceHiddenSize⟩]

lemma preparedSlot_some {p : ℕ} {slot : DecodeGraphP1Slot}
    (h : runner.preparedSlot p = some slot) :
    p < referenceDecodeGraphP2MaximumSlots ∧ runner.decodeGraphP1Slots p = some slot ∧
      slot.stats.position = p := by
  unfold ReferenceRunner.preparedSlot at h
  split_ifs at h with hbound
  obtain ⟨hslot, hposition⟩ := Option.filter_eq_some_iff.mp h
  exact ⟨hbound, hslot, by simpa using hposition⟩

lemma runLaunched_keeps (bytes : ArenaBytes) : Keeps graphView (runLaunched bytes) := by
  refine Keeps.update fun runner => ?_
  split <;> rfl

lemma replay_spec (token : ℕ) (answers : ReplayStepAnswers F) (measureTiming : Bool)
    (h : CacheSound runner) :
    Triple (Exactly runner) (replayFixedPositionDecodeGraphP1 token answers measureTiming)
      (fun _ final => CacheSound final ∧ Replayed token runner final)
      (fun final => CacheSound final ∧ final.decodeGraphP1Slots = runner.decodeGraphP1Slots) := by
  have hsame (reached : ReferenceRunner) (hview : lastingView reached = lastingView runner) :
      CacheSound reached ∧ reached.decodeGraphP1Slots = runner.decodeGraphP1Slots :=
    ⟨h.of_graphView (congrArg Prod.snd hview), congrArg (fun v => v.2.1) hview⟩
  have hkeep {m : RunnerM Unit} (hm : Keeps lastingView m) :
      Triple (fun reached => lastingView reached = lastingView runner) m
        (fun _ reached => lastingView reached = lastingView runner)
        (fun final => CacheSound final ∧
          final.decodeGraphP1Slots = runner.decodeGraphP1Slots) :=
    (@lasting_triple Unit m hm fun view => view = lastingView runner).conseq (fun _ hh => hh)
      (fun _ _ hh => hh) fun reached hh => hsame reached hh
  unfold replayFixedPositionDecodeGraphP1
  refine Triple.conseq ?_ (fun reached hreached => congrArg lastingView hreached)
    (fun _ _ hh => hh) fun _ hh => hh
  refine Triple.bind (hkeep (Keeps.stopIf lastingView_failed)) fun _ => ?_
  refine Triple.bind (hkeep (stepEntry_keeps _ _ _)) fun _ => ?_
  have hposition : Triple (fun reached => lastingView reached = lastingView runner)
      (examine ReferenceRunner.currentPosition : RunnerM ℕ)
      (fun position reached => lastingView reached = lastingView runner ∧
        position = runner.currentPosition)
      (fun final => CacheSound final ∧
        final.decodeGraphP1Slots = runner.decodeGraphP1Slots) :=
    Triple.examine fun reached hh => ⟨hh, congrArg (fun v => v.1.2.sequenceLength) hh⟩
  refine Triple.bind hposition fun position => Triple.assume fun heq => ?_
  subst heq
  have hslot : Triple (fun reached => lastingView reached = lastingView runner)
      (requireSlot runner.currentPosition)
      (fun slot reached => (Resting (published runner.decodeGraphP1Slots) runner.store.launched
          reached.store ∧ requestView reached = requestView runner) ∧
        runner.decodeGraphP1Slots runner.currentPosition = some slot ∧
          slot.stats.position = runner.currentPosition ∧
          runner.currentPosition < referenceDecodeGraphP2MaximumSlots)
      (fun final => CacheSound final ∧
        final.decodeGraphP1Slots = runner.decodeGraphP1Slots) := by
    intro reached hview
    have hslots : reached.decodeGraphP1Slots = runner.decodeGraphP1Slots := (hsame _ hview).2
    have hstore : reached.store = runner.store := congrArg (fun v => v.2.2) hview
    have hprepared : reached.preparedSlot = runner.preparedSlot := by
      funext p
      unfold ReferenceRunner.preparedSlot
      rw [hslots]
    unfold requireSlot
    rw [outcome_mk, hprepared]
    cases hfound : runner.preparedSlot runner.currentPosition with
    | none => exact hsame reached.failed hview
    | some slot =>
      obtain ⟨hbound, hfound, hplace⟩ := preparedSlot_some hfound
      refine ⟨⟨hstore ▸ h.resting, ?_⟩, hfound, hplace, hbound⟩
      rw [requestView, hslots]
      exact congrArg (fun v => (v.1, runner.decodeGraphP1Slots)) hview
  refine Triple.bind hslot fun slot => Triple.assume fun ⟨hfound, hplace, hbound⟩ => ?_
  have hmem : slot ∈ published runner.decodeGraphP1Slots :=
    mem_published.2 ⟨_, hbound, hfound⟩
  have hreplay := @onStore_spec Unit (replaySlot answers.replay slot token) _ _ _
    (@replaySlot_spec _ runner.store.launched slot answers.replay token hmem)
    (requestView runner)
  refine Triple.bind (hreplay.conseq (fun _ hh => hh) (fun _ _ hh => hh) fun reached hh => ?_)
    fun _ => ?_
  · have hslots : reached.decodeGraphP1Slots = runner.decodeGraphP1Slots :=
      congrArg Prod.snd hh.2
    exact ⟨h.of_view hh.1 hslots, hslots⟩
  · have hrest : Keeps graphView (do
        runLaunched answers.step.written
        completeStep token (decodeGraphOptions measureTiming) answers.step
          runner.currentPosition) :=
      Keeps.bind (runLaunched_keeps _) fun _ => completeStep_keeps _ _ _ _
    intro before hbefore
    have hbeforeSlots : before.decodeGraphP1Slots = runner.decodeGraphP1Slots :=
      congrArg Prod.snd hbefore.2
    have hafter := hrest before
    revert hafter
    generalize outcome (do
      runLaunched answers.step.written
      completeStep token (decodeGraphOptions measureTiming) answers.step
        runner.currentPosition) before = result
    obtain ⟨r, final⟩ := result
    intro hafter
    have hfinalSlots : final.decodeGraphP1Slots = runner.decodeGraphP1Slots :=
      (congrArg Prod.fst hafter).trans hbeforeSlots
    have hfinalStore : final.store = before.store := congrArg Prod.snd hafter
    have hsound : CacheSound final :=
      ⟨by rw [hfinalSlots, hfinalStore]; exact hbefore.1.held, hfinalSlots ▸ h.placed⟩
    cases r with
    | ok result =>
      refine ⟨hsound, hfinalSlots, slot, hfound, ?_⟩
      rw [hfinalStore, hbefore.1.log, replayedContent, hplace]
    | error e => exact ⟨hsound, hfinalSlots⟩

lemma verdict_state {α : Type} (m : RunnerM α) (runner : ReferenceRunner) :
    (verdict m runner).2 = (outcome m runner).2 := by
  unfold verdict
  rcases outcome m runner with ⟨_ | _, reached⟩ <;> rfl

lemma verdict_final {α : Type} {m : RunnerM α} {q : ReferenceRunner → Prop}
    (h : q (outcome m runner).2) : q (verdict m runner).2 := by
  rw [verdict_state]
  exact h

lemma CacheSound.keep {α : Type} {m : RunnerM α} (h : CacheSound runner)
    (hm : Keeps graphView m) : CacheSound (verdict m runner).2 :=
  verdict_final (h.of_graphView (hm runner))

lemma CacheSound.apply (h : CacheSound runner) (operation : RunnerOperation F) :
    CacheSound (operation.apply cfg runner) := by
  cases operation with
  | reset answers => exact h.keep (reset_keeps answers)
  | beginOrdinaryRequest answers => exact h.keep (begin_keeps answers)
  | commitOrdinaryRequestBoundary => exact h.keep commitBoundary_keeps
  | recordScalarPrefillRouteFallback => exact h.keep recordScalar_keeps
  | finalizePrefillRouteEvidence expected =>
    refine h.of_graphView ?_
    unfold RunnerOperation.apply RunnerOperation.perform finalizePrefillRouteEvidence
    dsimp only
    split_ifs <;> rfl
  | step answers token options => exact h.keep (step_keeps token options answers)
  | prepareFixedPositionDecodeGraphP1 answers token =>
    exact verdict_final (prepareP1_spec token answers h)
  | prepareFixedPositionDecodeGraphCache answers first last token =>
    have hspec : Triple (Exactly runner)
        (prepareFixedPositionDecodeGraphCache token answers first last) (fun _ => CacheSound)
        CacheSound :=
      (prepareCache_spec token answers first last h).conseq (fun _ hh => hh) (fun _ _ hh => hh.1)
        fun _ hh => hh.1
    exact verdict_final (hspec.final rfl)
  | clearFixedPositionDecodeGraphCache answers =>
    exact verdict_final ((clear_spec answers).final h)
  | replayFixedPositionDecodeGraphP1 answers token measureTiming =>
    have hspec : Triple (Exactly runner)
        (replayFixedPositionDecodeGraphP1 token answers measureTiming) (fun _ => CacheSound)
        CacheSound :=
      (replay_spec token answers measureTiming h).conseq (fun _ hh => hh) (fun _ _ hh => hh.1)
        fun _ hh => hh.1
    exact verdict_final (hspec.final rfl)
  | prefillPrefixTile answers tokens options elision =>
    exact h.keep (tile_keeps tokens options answers elision)
  | finishPrefillFromRetainedTile answers token options =>
    exact h.keep (finishRetained_keeps token options answers)
  | prefillWholeRequest answers tokens plan tactics options =>
    exact h.keep (prefillWholeRequest_keeps tokens plan tactics options answers)
  | finishWholeRequest answers token options =>
    exact h.keep (finishWholeRequest_keeps token options answers)
  | commitWholeRequest plan progress => exact h.keep (commitWholeRequest_keeps plan progress)
  | mtpTransaction effect =>
    refine h.of_graphView ?_
    unfold RunnerOperation.apply RunnerOperation.perform mtpTransaction
    dsimp only
    split_ifs <;> rfl

lemma cacheSound_created (h : Created runner) : CacheSound runner where
  held := by
    rw [h.slots, published_none, h.store]
    exact held_empty
  placed p slot hslot := by
    rw [h.slots] at hslot
    cases hslot

lemma cacheSound_run (operations : List (RunnerOperation F)) (h : CacheSound runner) :
    CacheSound (runOperations cfg operations runner) := by
  induction operations generalizing runner with
  | nil => exact h
  | cons operation operations ih => exact ih (h.apply operation)

end Runs

section Accounting

variable {F : Type} {runner : ReferenceRunner}

-- A table whose objects are each live or released exactly once, with no use after the release.
structure Accounted {α : Type} (table : Handles α) (live : ℕ → Prop) : Prop where
  live : ∀ handle, (table.live handle).isSome ↔ live handle
  once : ∀ handle < table.fresh, table.released handle = if (table.live handle).isSome then 0 else 1
  never : ∀ handle, table.fresh ≤ handle → table.released handle = 0
  faultless : table.fault = false

structure GraphsAccounted (runner : ReferenceRunner) : Prop where
  references : ∀ owner record, runner.store.owners.live owner = some record →
    record.references = runner.publishedSlots.countP (·.exec = owner)
  owners : Accounted runner.store.owners fun owner =>
    ∃ slot ∈ runner.publishedSlots, slot.exec = owner
  graphs : Accounted runner.store.graphs fun graph =>
    ∃ slot ∈ runner.publishedSlots, slot.graph = graph
  executables : Accounted runner.store.executables fun executable =>
    ∃ owner record, runner.store.owners.live owner = some record ∧
      record.executable = executable

lemma accounted_of_sound {α : Type} {table : Handles α} {live : ℕ → Prop} (h : table.Sound)
    (hlive : ∀ handle, (table.live handle).isSome ↔ live handle) : Accounted table live :=
  ⟨hlive, h.once, h.unborn, h.faultless⟩

lemma CacheSound.accounted (h : CacheSound runner) : GraphsAccounted runner where
  references owner record hrecord := by
    rw [h.held.owners.references owner record hrecord]
    exact Multiset.coe_countP _ _
  owners := accounted_of_sound h.held.owners.sound h.held.owners.live_iff
  graphs := accounted_of_sound h.held.graphs.sound fun graph => by
    simpa [published, ReferenceRunner.publishedSlots] using h.held.graphs.live_iff graph
  executables := accounted_of_sound h.held.executables.sound fun executable => by
    simpa using h.held.executables.live_iff executable

-- After the runner's end every object that was ever created has been released once.
structure AllReleased {α : Type} (table : Handles α) : Prop where
  gone : ∀ handle, table.live handle = none
  once : ∀ handle < table.fresh, table.released handle = 1
  faultless : table.fault = false

lemma allReleased_of_sound {α : Type} {table : Handles α} (h : table.Sound)
    (hgone : ∀ handle, table.live handle = none) : AllReleased table where
  gone := hgone
  once handle hhandle := by
    rw [h.once handle hhandle, hgone handle]
    rfl
  faultless := h.faultless

lemma release_spec (h : CacheSound runner) (answers : ResetAnswers) :
    AllReleased (release answers runner).store.graphs ∧
      AllReleased (release answers runner).store.executables ∧
      AllReleased (release answers runner).store.owners := by
  have hend : Held 0 none none (release answers runner).store := by
    unfold release
    dsimp only
    split_ifs
    · exact (h.keep (reset_keeps answers)).destroyAll
    · exact h.destroyAll
  have howners : ∀ owner, (release answers runner).store.owners.live owner = none := by
    intro owner
    rw [← Option.not_isSome_iff_eq_none, hend.owners.live_iff]
    simp
  refine ⟨allReleased_of_sound hend.graphs.sound fun graph => ?_,
    allReleased_of_sound hend.executables.sound fun executable => ?_,
    allReleased_of_sound hend.owners.sound howners⟩
  · rw [← Option.not_isSome_iff_eq_none, hend.graphs.live_iff]
    simp
  · rw [← Option.not_isSome_iff_eq_none, hend.executables.live_iff]
    simp [howners]

theorem decode_graph_cache_exact (cfg : BuildConfig) (start : ReferenceRunner)
    (hstart : Created start) (operations : List (RunnerOperation F)) :
    GraphsAccounted (runOperations cfg operations start) ∧
    (∀ token answers first last prepared final,
      outcome (prepareFixedPositionDecodeGraphCache token answers first last)
          (runOperations cfg operations start) = (.ok prepared, final) →
        GraphsAccounted final ∧
          RangePublished first last (runOperations cfg operations start) final prepared) ∧
    (∀ token answers first last status final,
      outcome (prepareFixedPositionDecodeGraphCache token answers first last)
          (runOperations cfg operations start) = (.error status, final) →
        GraphsAccounted final ∧
          final.decodeGraphP1Slots =
            (runOperations cfg operations start).decodeGraphP1Slots) ∧
    (∀ token (answers : ReplayStepAnswers F) measureTiming result final,
      outcome (replayFixedPositionDecodeGraphP1 token answers measureTiming)
          (runOperations cfg operations start) = (.ok result, final) →
        Replayed token (runOperations cfg operations start) final) ∧
    ∀ answers,
      AllReleased (release answers (runOperations cfg operations start)).store.graphs ∧
        AllReleased (release answers (runOperations cfg operations start)).store.executables ∧
        AllReleased (release answers (runOperations cfg operations start)).store.owners := by
  have hsound : CacheSound (runOperations cfg operations start) :=
    cacheSound_run operations (cacheSound_created hstart)
  refine ⟨hsound.accounted, ?_, ?_, ?_, release_spec hsound⟩
  · intro token answers first last prepared final hresult
    have hspec := prepareCache_spec token answers first last hsound _ rfl
    rw [hresult] at hspec
    exact ⟨hspec.1.accounted, hspec.2⟩
  · intro token answers first last status final hresult
    have hspec := prepareCache_spec token answers first last hsound _ rfl
    rw [hresult] at hspec
    exact ⟨hspec.1.accounted, hspec.2⟩
  · intro token answers measureTiming result final hresult
    have hspec := replay_spec token answers measureTiming hsound _ rfl
    rw [hresult] at hspec
    exact hspec.2

def freshRunner : ReferenceRunner where
  state := ⟨requestPlan 512 4096, some fun _ => 0, 0⟩

lemma freshRunner_created : Created freshRunner :=
  ⟨rfl, rfl, rfl, rfl, rfl, rfl, rfl, rfl, ⟨_, rfl, fun _ _ => rfl⟩⟩

def cachedRange : List (RunnerOperation ℕ) :=
  [.prepareFixedPositionDecodeGraphCache {} 3 5 7, .reset {}]

theorem decode_graph_cache_exact_range :
    (runOperations {} cachedRange freshRunner).publishedSlots.length = 3 ∧
      GraphsAccounted (runOperations {} cachedRange freshRunner) :=
  ⟨by decide, (decode_graph_cache_exact {} freshRunner freshRunner_created cachedRange).1⟩

end Accounting

end Qwen3xOrin.Runner
