import Qwen3xOrin.Prefill.PlanValidity

/-! Request progress and its transitions. Each transition returns the error code together
with the progress record it leaves behind. -/

namespace Qwen3xOrin.Prefill

inductive PrefillExecutionProgressError
  | none
  | invalidPlan
  | layerOutOfRange
  | panelOutOfRange
  | outOfOrder
  | executionIncomplete
  | commitNotReady
  | alreadyCommitted
  | invalidCompletionReceipt
  deriving DecidableEq, Repr

structure PrefillExecutionProgress where
  kvVisibleEnd : ℕ → ℕ := fun _ => 0
  gdnAdvancedEnd : ℕ → ℕ := fun _ => 0
  completedPanels : ℕ → ℕ := fun _ => 0
  completedMlpPhases : ℕ → ℕ := fun _ => 0
  completedFillPanels : ℕ → ℕ := fun _ => 0
  completedPromptCorePhases : ℕ → ℕ := fun _ => 0
  completedDrainPanels : ℕ → ℕ := fun _ => 0
  nextLayer : ℕ := 0
  nextPanel : ℕ := 0
  finalHiddenReady : Bool := false
  prefillStateCommitted : Bool := false

abbrev Outcome := PrefillExecutionProgressError × PrefillExecutionProgress

def makePrefillExecutionProgress (plan : PrefillExecutionPlan) : PrefillExecutionProgress :=
  { kvVisibleEnd := fun _ => plan.firstPosition, gdnAdvancedEnd := fun _ => plan.firstPosition }

def progressEnd (plan : PrefillExecutionPlan) (p : PrefillExecutionProgress) (layer : ℕ) : ℕ :=
  match (plan.layer layer).progressDomain with
  | .kvCache => p.kvVisibleEnd layer
  | .gdnState => p.gdnAdvancedEnd layer

def setProgressEnd (plan : PrefillExecutionPlan) (p : PrefillExecutionProgress)
    (layer position : ℕ) : PrefillExecutionProgress :=
  match (plan.layer layer).progressDomain with
  | .kvCache => { p with kvVisibleEnd := Function.update p.kvVisibleEnd layer position }
  | .gdnState => { p with gdnAdvancedEnd := Function.update p.gdnAdvancedEnd layer position }

def increment (counters : ℕ → ℕ) (layer : ℕ) : ℕ → ℕ :=
  Function.update counters layer (counters layer + 1)

def wrapPanel (plan : PrefillExecutionPlan) (p : PrefillExecutionProgress) :
    PrefillExecutionProgress :=
  if p.nextPanel = plan.panelCount then { p with nextPanel := 0 } else p

def advancePrefillProgressAfterCompletion (cfg : BuildConfig) (plan : PrefillExecutionPlan)
    (p : PrefillExecutionProgress) (layer panel : ℕ) : Outcome :=
  if validPlanTopology cfg plan = false then (.invalidPlan, p)
  else if plan.tactic.fixedP40Geometry then (.outOfOrder, p)
  else if layerCount ≤ layer then (.layerOutOfRange, p)
  else if plan.panelCount ≤ panel then (.panelOutOfRange, p)
  else if p.prefillStateCommitted ∨ layer ≠ p.nextLayer ∨ panel ≠ p.nextPanel ∨
      p.completedPanels layer ≠ panel then (.outOfOrder, p)
  else if progressEnd plan p layer ≠ (plan.panel panel).firstPosition then (.outOfOrder, p)
  else
    let p := setProgressEnd plan p layer (plan.panel panel).endPosition
    let p := { p with completedPanels := increment p.completedPanels layer }
    let p :=
      if plan.tactic = .perOperatorPanel then
        { p with completedMlpPhases := increment p.completedMlpPhases layer }
      else p
    let p := { p with nextPanel := p.nextPanel + 1 }
    if p.nextPanel = plan.panelCount then
      let p := { p with nextPanel := 0 }
      if plan.tactic = .perOperatorPanel then (.none, { p with nextLayer := p.nextLayer + 1 })
      else (.none, p)
    else (.none, p)

def advanceLayerWideP40MlpProgressAfterCompletion (cfg : BuildConfig)
    (plan : PrefillExecutionPlan) (p : PrefillExecutionProgress) (layer : ℕ) : Outcome :=
  if validPlanTopology cfg plan = false then (.invalidPlan, p)
  else if layerCount ≤ layer then (.layerOutOfRange, p)
  else if plan.tactic ≠ .layerWideP40ExactFullM ∨ p.prefillStateCommitted ∨
      p.nextLayer ≠ layer ∨ p.nextPanel ≠ 0 ∨ p.completedPanels layer ≠ plan.panelCount ∨
      p.completedMlpPhases layer ≠ 0 then (.outOfOrder, p)
  else
    (.none, { p with
      completedMlpPhases := Function.update p.completedMlpPhases layer 1
      nextLayer := p.nextLayer + 1 })

def advancePromptWideP40FillProgressAfterCompletion (cfg : BuildConfig)
    (plan : PrefillExecutionPlan) (p : PrefillExecutionProgress) (layer panel : ℕ) : Outcome :=
  if validPlanTopology cfg plan = false then (.invalidPlan, p)
  else if layerCount ≤ layer then (.layerOutOfRange, p)
  else if plan.panelCount ≤ panel then (.panelOutOfRange, p)
  else if plan.tactic ≠ .promptWideP40WholeCore ∨ p.prefillStateCommitted ∨
      p.nextLayer ≠ layer ∨ p.nextPanel ≠ panel ∨ p.completedFillPanels layer ≠ panel ∨
      p.completedPromptCorePhases layer ≠ 0 ∨ p.completedDrainPanels layer ≠ 0 ∨
      p.completedPanels layer ≠ 0 ∨ p.completedMlpPhases layer ≠ 0 then (.outOfOrder, p)
  else
    (.none, wrapPanel plan { p with
      completedFillPanels := increment p.completedFillPanels layer
      nextPanel := p.nextPanel + 1 })

def advancePromptWideP40PromptCoreProgressAfterCompletion (cfg : BuildConfig)
    (plan : PrefillExecutionPlan) (p : PrefillExecutionProgress) (layer : ℕ) : Outcome :=
  if validPlanTopology cfg plan = false then (.invalidPlan, p)
  else if layerCount ≤ layer then (.layerOutOfRange, p)
  else if plan.tactic ≠ .promptWideP40WholeCore ∨ p.prefillStateCommitted ∨
      p.nextLayer ≠ layer ∨ p.nextPanel ≠ 0 ∨ p.completedFillPanels layer ≠ plan.panelCount ∨
      p.completedPromptCorePhases layer ≠ 0 ∨ p.completedDrainPanels layer ≠ 0 ∨
      p.completedPanels layer ≠ 0 ∨ p.completedMlpPhases layer ≠ 0 then (.outOfOrder, p)
  else if progressEnd plan p layer ≠ plan.firstPosition then (.outOfOrder, p)
  else
    let p := setProgressEnd plan p layer plan.finalPosition
    (.none, { p with
      completedPromptCorePhases := Function.update p.completedPromptCorePhases layer 1 })

def advancePromptWideP40DrainProgressAfterCompletion (cfg : BuildConfig)
    (plan : PrefillExecutionPlan) (p : PrefillExecutionProgress) (layer panel : ℕ) : Outcome :=
  if validPlanTopology cfg plan = false then (.invalidPlan, p)
  else if layerCount ≤ layer then (.layerOutOfRange, p)
  else if plan.panelCount ≤ panel then (.panelOutOfRange, p)
  else if plan.tactic ≠ .promptWideP40WholeCore ∨ p.prefillStateCommitted ∨
      p.nextLayer ≠ layer ∨ p.nextPanel ≠ panel ∨
      p.completedFillPanels layer ≠ plan.panelCount ∨
      p.completedPromptCorePhases layer ≠ 1 ∨ p.completedDrainPanels layer ≠ panel ∨
      p.completedPanels layer ≠ panel ∨ p.completedMlpPhases layer ≠ 0 then (.outOfOrder, p)
  else
    (.none, wrapPanel plan { p with
      completedDrainPanels := increment p.completedDrainPanels layer
      completedPanels := increment p.completedPanels layer
      nextPanel := p.nextPanel + 1 })

def advancePromptWideP40PersistentMlpProgressAfterCompletion (cfg : BuildConfig)
    (plan : PrefillExecutionPlan) (p : PrefillExecutionProgress) (layer : ℕ) : Outcome :=
  if validPlanTopology cfg plan = false then (.invalidPlan, p)
  else if layerCount ≤ layer then (.layerOutOfRange, p)
  else if plan.tactic ≠ .promptWideP40WholeCore ∨ p.prefillStateCommitted ∨
      p.nextLayer ≠ layer ∨ p.nextPanel ≠ 0 ∨ p.completedFillPanels layer ≠ plan.panelCount ∨
      p.completedPromptCorePhases layer ≠ 1 ∨ p.completedDrainPanels layer ≠ plan.panelCount ∨
      p.completedPanels layer ≠ plan.panelCount ∨ p.completedMlpPhases layer ≠ 0 then
    (.outOfOrder, p)
  else
    (.none, { p with
      completedMlpPhases := Function.update p.completedMlpPhases layer 1
      nextLayer := p.nextLayer + 1 })

def untouchedLayer (p : PrefillExecutionProgress) (layer : ℕ) : Prop :=
  p.completedPanels layer = 0 ∧ p.completedMlpPhases layer = 0 ∧
    p.completedFillPanels layer = 0 ∧ p.completedPromptCorePhases layer = 0 ∧
    p.completedDrainPanels layer = 0

instance (p : PrefillExecutionProgress) (layer : ℕ) : Decidable (untouchedLayer p layer) :=
  inferInstanceAs (Decidable (_ ∧ _))

def completeLayer (plan : PrefillExecutionPlan) (p : PrefillExecutionProgress) (layer : ℕ) :
    PrefillExecutionProgress :=
  let p := setProgressEnd plan p layer plan.finalPosition
  { p with
    completedPanels := Function.update p.completedPanels layer plan.panelCount
    completedMlpPhases := Function.update p.completedMlpPhases layer 1
    nextLayer := p.nextLayer + 1 }

def advanceAtomicLayer (tactic : LayerMajorPrefillMlpScheduleTactic) (cfg : BuildConfig)
    (plan : PrefillExecutionPlan) (p : PrefillExecutionProgress) (layer : ℕ) : Outcome :=
  if validPlanTopology cfg plan = false then (.invalidPlan, p)
  else if layerCount ≤ layer then (.layerOutOfRange, p)
  else if plan.tactic ≠ tactic ∨ p.prefillStateCommitted ∨ p.nextLayer ≠ layer ∨
      p.nextPanel ≠ 0 ∨ ¬ untouchedLayer p layer then (.outOfOrder, p)
  else if progressEnd plan p layer ≠ plan.firstPosition then (.outOfOrder, p)
  else (.none, completeLayer plan p layer)

def advancePromptWideP40ProjectionResetLayerProgressAfterCompletion :=
  advanceAtomicLayer .promptWideP40ProjectionReset

def advancePromptWideP40PackedProjectionLayerProgressAfterCompletion :=
  advanceAtomicLayer .promptWideP40PackedProjection

def advancePromptWideP40PackedNvfp4V2LayerProgressAfterCompletion :=
  advanceAtomicLayer .promptWideP40PackedNvfp4V2

abbrev Receipt := PrefillP40VllmMarlinParityLayerCompletionReceipt

def expectedReceipt (plan : PrefillExecutionPlan) (layer : ℕ) : Receipt :=
  let schedule := plan.vllmMarlinParitySchedule
  { layerIndex := layer
    requestLockClearOperations := if layer = 0 then schedule.lockClearOperationsPerRequest else 0
    gateUpFullM1024Launches := schedule.fullM1024SegmentsPerProjection
    gateUpSplitM64Launches := schedule.tailM64SegmentsPerProjection
    standaloneSiluLaunches := schedule.standaloneSiluLaunchesPerLayer
    downFullM1024Launches := schedule.fullM1024SegmentsPerProjection
    downSplitM64Launches := schedule.tailM64SegmentsPerProjection
    standaloneResidualLaunches := schedule.standaloneResidualLaunchesPerLayer
    retainedPromptCoreComplete := true
    canonicalGateThenUpBf16Published := true
    activatedBf16Published := true
    downBf16Published := true
    stableLockOwnerBound := true
    lockOwnerAliasExclusionProved := true
    orderedLockProtocolCompleted := true
    requestStreamCompletionObserved := true }

def validVllmMarlinParityLayerCompletionReceipt (plan : PrefillExecutionPlan) (layer : ℕ)
    (receipt : Receipt) : Bool :=
  plan.vllmMarlinParitySchedule.enabled && decide (receipt = expectedReceipt plan layer)

def advancePromptWideP40VllmMarlinParityLayerProgressAfterCompletion (cfg : BuildConfig)
    (plan : PrefillExecutionPlan) (p : PrefillExecutionProgress) (layer : ℕ)
    (receipt : Receipt) : Outcome :=
  if validPlanTopology cfg plan = false then (.invalidPlan, p)
  else if layerCount ≤ layer then (.layerOutOfRange, p)
  else if plan.tactic ≠ .promptWideP40VllmMarlinParity ∨ p.prefillStateCommitted ∨
      p.nextLayer ≠ layer ∨ p.nextPanel ≠ 0 ∨ ¬ untouchedLayer p layer then (.outOfOrder, p)
  else if validVllmMarlinParityLayerCompletionReceipt plan layer receipt = false then
    (.invalidCompletionReceipt, p)
  else if progressEnd plan p layer ≠ plan.firstPosition then (.outOfOrder, p)
  else (.none, completeLayer plan p layer)

def layerExecutionComplete (plan : PrefillExecutionPlan) (p : PrefillExecutionProgress)
    (layer : ℕ) : Bool :=
  decide (p.completedPanels layer = plan.panelCount ∧
    p.completedMlpPhases layer = plan.mlpSchedule.mlpPhaseSubmissionCountPerLayer) &&
  (if plan.tactic = .promptWideP40WholeCore then
    decide (p.completedFillPanels layer = plan.panelCount ∧
      p.completedPromptCorePhases layer = 1 ∧ p.completedDrainPanels layer = plan.panelCount)
  else
    decide (p.completedFillPanels layer = 0 ∧ p.completedPromptCorePhases layer = 0 ∧
      p.completedDrainPanels layer = 0)) &&
  (match (plan.layer layer).progressDomain with
  | .kvCache => decide (p.kvVisibleEnd layer = plan.finalPosition ∧
      p.gdnAdvancedEnd layer = plan.firstPosition)
  | .gdnState => decide (p.gdnAdvancedEnd layer = plan.finalPosition ∧
      p.kvVisibleEnd layer = plan.firstPosition))

def executionComplete (cfg : BuildConfig) (plan : PrefillExecutionPlan)
    (p : PrefillExecutionProgress) : Bool :=
  validPlanTopology cfg plan && decide (p.nextLayer = layerCount ∧ p.nextPanel = 0) &&
    (List.range layerCount).all (layerExecutionComplete plan p)

def markPrefillFinalHiddenReady (cfg : BuildConfig) (plan : PrefillExecutionPlan)
    (p : PrefillExecutionProgress) : Outcome :=
  if executionComplete cfg plan p = false then (.executionIncomplete, p)
  else if p.prefillStateCommitted then (.alreadyCommitted, p)
  else (.none, { p with finalHiddenReady := true })

def prefillFinalCommitReady (cfg : BuildConfig) (plan : PrefillExecutionPlan)
    (p : PrefillExecutionProgress) : Bool :=
  !p.prefillStateCommitted && p.finalHiddenReady && executionComplete cfg plan p

def publishPrefillStateCommitted (cfg : BuildConfig) (plan : PrefillExecutionPlan)
    (p : PrefillExecutionProgress) : Outcome :=
  if p.prefillStateCommitted then (.alreadyCommitted, p)
  else if prefillFinalCommitReady cfg plan p = false then (.commitNotReady, p)
  else (.none, { p with prefillStateCommitted := true })

inductive ProgressCall
  | panel (layer panel : ℕ)
  | layerWideMlp (layer : ℕ)
  | fill (layer panel : ℕ)
  | promptCore (layer : ℕ)
  | drain (layer panel : ℕ)
  | persistentMlp (layer : ℕ)
  | projectionReset (layer : ℕ)
  | packedProjection (layer : ℕ)
  | packedNvfp4V2 (layer : ℕ)
  | vllmMarlinParity (layer : ℕ) (receipt : Receipt)
  | markFinalHiddenReady
  | publishStateCommitted
  deriving DecidableEq, Repr

def ProgressCall.apply (cfg : BuildConfig) (plan : PrefillExecutionPlan)
    (p : PrefillExecutionProgress) : ProgressCall → Outcome
  | .panel l i => advancePrefillProgressAfterCompletion cfg plan p l i
  | .layerWideMlp l => advanceLayerWideP40MlpProgressAfterCompletion cfg plan p l
  | .fill l i => advancePromptWideP40FillProgressAfterCompletion cfg plan p l i
  | .promptCore l => advancePromptWideP40PromptCoreProgressAfterCompletion cfg plan p l
  | .drain l i => advancePromptWideP40DrainProgressAfterCompletion cfg plan p l i
  | .persistentMlp l => advancePromptWideP40PersistentMlpProgressAfterCompletion cfg plan p l
  | .projectionReset l =>
    advancePromptWideP40ProjectionResetLayerProgressAfterCompletion cfg plan p l
  | .packedProjection l =>
    advancePromptWideP40PackedProjectionLayerProgressAfterCompletion cfg plan p l
  | .packedNvfp4V2 l =>
    advancePromptWideP40PackedNvfp4V2LayerProgressAfterCompletion cfg plan p l
  | .vllmMarlinParity l receipt =>
    advancePromptWideP40VllmMarlinParityLayerProgressAfterCompletion cfg plan p l receipt
  | .markFinalHiddenReady => markPrefillFinalHiddenReady cfg plan p
  | .publishStateCommitted => publishPrefillStateCommitted cfg plan p

end Qwen3xOrin.Prefill
