import Qwen3xOrin.Library.Guard
import Qwen3xOrin.Request.WorkspaceTypes

/-! The layer-major workspace planner: byte requirements of every strategy from the model's
dimensions and the sequence capacity. -/

namespace Qwen3xOrin.Request

open Io
open Prefill (BuildConfig operatorPanelTokens legacyPublicTileTokens layerWideMlpP40Tokens
  promptWideP40RequestCapacityTokens maximumSequenceTokens layerCount linearLayerCount
  fullLayerCount)

def u32Bytes : ℕ := 4
def legacyC512HiddenScratchBufferCount : ℕ := 3
def legacyC512ProjectionScratchBufferCount : ℕ := 4
def legacyC512LinearScalarScratchBufferCount : ℕ := 2
def scratchFamilyCount : ℕ := 3
def gdnC64NativeWorkspaceBytes : ℕ := 75694080
def sm87NvFp4MarlinReductionBytes : ℕ := 16 * 64 * 256 * 4
def sm87Fp8MarlinReductionBytes : ℕ := 16 * 64 * 256 * 4
def sm87NvFp4MarlinLockBytes : ℕ := 16 * 4
def sm87Fp8MarlinLockBytes : ℕ := 16 * 4
def maximumProjectionReductionBytes : ℕ :=
  max sm87NvFp4MarlinReductionBytes sm87Fp8MarlinReductionBytes
def maximumProjectionLockBytes : ℕ := max sm87NvFp4MarlinLockBytes sm87Fp8MarlinLockBytes

section Requirements

def checkedSum (values : List ℕ) : Option ℕ := values.foldlM checkedAdd 0

def makeTypedRequirement (elements elementSize : ℕ) (lifetime : PrefillMemoryLifetime)
    (aliasCondition : PrefillMemoryAliasCondition) : Option PrefillMemoryRequirement := do
  guard (elements ≠ 0 ∧ elementSize ≠ 0)
  let payloadBytes ← checkedMultiply elements elementSize
  let alignedBytes ← checkedAlign payloadBytes
  pure
    { owner := .requestStateArena
      lifetime := lifetime
      aliasCondition := aliasCondition
      requiredBytes := alignedBytes
      elementCapacity := elements
      elementSizeBytes := elementSize
      allocationBound := false
      aliasContractBound := false }

def makeRawRequirement (bytes : ℕ) (lifetime : PrefillMemoryLifetime)
    (aliasCondition : PrefillMemoryAliasCondition) : Option PrefillMemoryRequirement :=
  makeTypedRequirement bytes 1 lifetime aliasCondition

def capacity (required limit : ℕ) : PrefillMemoryCapacityVerdict :=
  if required ≤ limit then .fitsDeclaredLimit else .exceedsDeclaredLimit

end Requirements

section Tactics

def validHiddenStrategy (strategy : PrefillHiddenStrategy) : Bool :=
  strategy = .singlePromptWideConditional ∨ strategy = .doublePromptWideConservative

def validScratchStrategy (strategy : PrefillOperatorScratchStrategy) : Bool :=
  strategy = .c8192FamilyOverlayConditional ∨ strategy = .overlayLegacyC512MutuallyExclusive ∨
    strategy = .c8192FamilyOverlayWithDisjointLegacyC512 ∨
    strategy = .disjointAllFamiliesAndLegacyC512

def validGdnTactic (tactic : PrefillGdnPhysicalTactic) : Bool :=
  tactic = .c64NativeInPlaceConv ∨ tactic = .c64NativeTokenParallelConv

def validLegacyGdnTactic (tactic : PrefillLegacyGdnPhysicalTactic) : Bool :=
  tactic = .c16Composite ∨ tactic = .c64Native

def validMlpTactic (tactic : PrefillMlpPhysicalTactic) : Bool := tactic ≠ .unselected

def isLayerWideP40MlpTactic (tactic : PrefillMlpPhysicalTactic) : Bool :=
  tactic = .layerWideP40AlignedMarlin ∨ tactic = .layerWideP40PersistentFusedGateUp ∨
    tactic = .layerWideP40MarlinParityMergedGateUp

def enabledMlpTactic (cfg : BuildConfig) (tactic : PrefillMlpPhysicalTactic) : Bool :=
  if tactic = .layerWideP40MarlinParityMergedGateUp then
    cfg.layerWideP40Mlp && cfg.promptWideP40VllmMarlinParity
  else !isLayerWideP40MlpTactic tactic || cfg.layerWideP40Mlp

def validLayerMajorModelContract (config : ModelConfig) : Bool :=
  validate config = .none ∧ config.isMoe = false ∧ config.numHiddenLayers = layerCount ∧
    config.numLinearAttentionLayers = linearLayerCount ∧
    config.numFullAttentionLayers = fullLayerCount ∧ config.hiddenSize = 5120 ∧
    config.intermediateSize = 17408 ∧ 2 ≤ config.linearConvKernelDim ∧ config.rotaryDim ≠ 0 ∧
    config.rotaryDim % 2 = 0

structure PrefillTacticByteRequirements where
  gdnProjectionPhase : ℕ := 0
  gdnRecurrentPhase : ℕ := 0
  gdnNativeWorkspace : ℕ := 0
  gdnTokenParallelConvOutput : ℕ := 0
  attentionPreprocessPhase : ℕ := 0
  mlpGateUpDownPhase : ℕ := 0
  projectionReductionAndLocks : ℕ := 0
  legacyGdnNativeWorkspace : ℕ := 0

def checkedBf16Bytes (rows width : ℕ) : Option ℕ := do
  let elements ← checkedMultiply rows width
  checkedMultiply elements bf16Bytes

def checkedTacticByteRequirements (cfg : BuildConfig) (config : ModelConfig)
    (sequenceCapacityTokens : ℕ) (gdnTactic : PrefillGdnPhysicalTactic)
    (legacyGdnTactic : PrefillLegacyGdnPhysicalTactic) (mlpTactic : PrefillMlpPhysicalTactic) :
    Option PrefillTacticByteRequirements := do
  guard (validGdnTactic gdnTactic ∧ validLegacyGdnTactic legacyGdnTactic ∧
    validMlpTactic mlpTactic ∧ enabledMlpTactic cfg mlpTactic)
  let layerWideP40 := isLayerWideP40MlpTactic mlpTactic
  guard (¬(layerWideP40 ∧ sequenceCapacityTokens ≠ promptWideP40RequestCapacityTokens cfg))
  let panel := operatorPanelTokens
  let mlpRows := if layerWideP40 then layerWideMlpP40Tokens cfg else panel
  let qkvWidth := config.linearQkvProjectionDim
  let valueWidth := config.linearValueDim
  let gdnQkvzWidth := qkvWidth + valueWidth
  let gdnBaWidth := 2 * config.linearNumValueHeads
  let attentionLiveWidth := config.qProjectionDim + 2 * config.qDim
  let mlpLiveWidth := if mlpTactic = .layerWideP40PersistentFusedGateUp then
    config.hiddenSize + config.intermediateSize else 3 * config.intermediateSize
  let gdnProjectionPhase ← checkedBf16Bytes panel (config.hiddenSize + gdnQkvzWidth + gdnBaWidth)
  let recurrentBaseBytes ← checkedBf16Bytes panel (gdnQkvzWidth + gdnBaWidth + valueWidth)
  let gdnRecurrentPhase ← checkedAdd recurrentBaseBytes gdnC64NativeWorkspaceBytes
  let tokenParallelBytes ← checkedBf16Bytes legacyPublicTileTokens qkvWidth
  let attentionPreprocessPhase ← checkedBf16Bytes panel attentionLiveWidth
  let mlpGateUpDownPhase ← checkedBf16Bytes mlpRows mlpLiveWidth
  let gdnRecurrentPhase ← if gdnTactic = .c64NativeTokenParallelConv then
    checkedAdd gdnRecurrentPhase tokenParallelBytes else some gdnRecurrentPhase
  let projectionPayload ← checkedAdd maximumProjectionReductionBytes maximumProjectionLockBytes
  let projectionReductionAndLocks ← checkedAlign projectionPayload
  let mlpGateUpDownPhase ← if mlpTactic = .fusedGateUpEpilogue then do
      let panelHiddenBytes ← checkedBf16Bytes panel config.hiddenSize
      let live ← checkedAdd mlpGateUpDownPhase panelHiddenBytes
      checkedAdd live projectionReductionAndLocks
    else some mlpGateUpDownPhase
  pure
    { gdnProjectionPhase := gdnProjectionPhase
      gdnRecurrentPhase := gdnRecurrentPhase
      gdnNativeWorkspace := gdnC64NativeWorkspaceBytes
      gdnTokenParallelConvOutput :=
        if gdnTactic = .c64NativeTokenParallelConv then tokenParallelBytes else 0
      attentionPreprocessPhase := attentionPreprocessPhase
      mlpGateUpDownPhase := mlpGateUpDownPhase
      projectionReductionAndLocks := projectionReductionAndLocks
      legacyGdnNativeWorkspace :=
        if legacyGdnTactic = .c64Native then gdnC64NativeWorkspaceBytes else 0 }

end Tactics

section Backings

inductive ScratchVariantTopology
  | c8192FamilyOverlayOnly
  | c8192DisjointFamiliesOnly
  | legacyC512Only
  | mutuallyExclusiveRouteOverlay
  | c8192FamilyOverlayWithDisjointLegacyC512
  | disjointAllFamiliesAndLegacyC512
  deriving DecidableEq, Repr

def backingContract (identity : PrefillWorkspaceBackingIdentity)
    (phaseOwnership : PrefillWorkspacePhaseOwnership)
    (bytesPerInstance minimumInstanceCount : ℕ) : PrefillWorkspaceBackingContract where
  identity := identity
  phaseOwnership := phaseOwnership
  bytesPerInstance := bytesPerInstance
  minimumInstanceCount := minimumInstanceCount
  capacityIncludedInVariantTotal := decide (minimumInstanceCount ≠ 0)
  subrangeBindingRequired := decide (minimumInstanceCount ≠ 0)

def projectionBacking (bytes : PrefillTacticByteRequirements) :
    ScratchVariantTopology → PrefillWorkspaceBackingContract
  | .c8192FamilyOverlayOnly | .mutuallyExclusiveRouteOverlay
  | .c8192FamilyOverlayWithDisjointLegacyC512 =>
    backingContract .c8192SequentialFamilyPhaseArena .c8192ProjectionFamilies
      bytes.projectionReductionAndLocks 1
  | .c8192DisjointFamiliesOnly | .disjointAllFamiliesAndLegacyC512 =>
    backingContract .c8192DisjointFamilyPhaseArenas .c8192ProjectionFamilies
      bytes.projectionReductionAndLocks scratchFamilyCount
  | .legacyC512Only => {}

def gdnNativeBacking (nativeLegacy : Bool) (bytes : PrefillTacticByteRequirements) :
    ScratchVariantTopology → PrefillWorkspaceBackingContract
  | .c8192FamilyOverlayOnly | .c8192DisjointFamiliesOnly =>
    backingContract .c8192GdnNativeArena .c8192GdnRecurrentPhase bytes.gdnNativeWorkspace 1
  | .legacyC512Only =>
    if nativeLegacy then
      backingContract .legacyC512GdnNativeArena .legacyC512GdnRoute
        bytes.legacyGdnNativeWorkspace 1
    else {}
  | .mutuallyExclusiveRouteOverlay =>
    if nativeLegacy then
      backingContract .mutuallyExclusiveC8192LegacyGdnNativeArena
        .mutuallyExclusiveC8192LegacyGdnRoutes bytes.gdnNativeWorkspace 1
    else backingContract .c8192GdnNativeArena .c8192GdnRecurrentPhase bytes.gdnNativeWorkspace 1
  | .c8192FamilyOverlayWithDisjointLegacyC512 | .disjointAllFamiliesAndLegacyC512 =>
    if nativeLegacy then
      backingContract .disjointC8192LegacyGdnNativeArenas .disjointC8192LegacyGdnRoutes
        bytes.gdnNativeWorkspace 2
    else backingContract .c8192GdnNativeArena .c8192GdnRecurrentPhase bytes.gdnNativeWorkspace 1

def variantBackingRequirements (topology : ScratchVariantTopology)
    (legacyGdnTactic : PrefillLegacyGdnPhysicalTactic) (bytes : PrefillTacticByteRequirements) :
    VariantBackingRequirements where
  promptTokenIds := backingContract .operatorArenaPromptTokenPrefix
    .promptTokenIdsBeforeOperatorFamilies (operatorPanelTokens * u32Bytes) 1
  projection := projectionBacking bytes topology
  gdnNative := gdnNativeBacking (decide (legacyGdnTactic = .c64Native)) bytes topology

end Backings

section Build

structure ElementCounts where
  conv : ℕ
  gdn : ℕ
  key : ℕ
  value : ℕ
  rope : ℕ
  promptHidden : ℕ

def elementCounts (config : ModelConfig) (sequence : ℕ) : Option ElementCounts := do
  let conv ← checkedMultiply config.numLinearAttentionLayers config.linearQkvProjectionDim
  let conv ← checkedMultiply conv (config.linearConvKernelDim - 1)
  let gdn ← checkedMultiply config.numLinearAttentionLayers config.linearStateElementsPerLayer
  let key ← checkedMultiply config.numFullAttentionLayers sequence
  let key ← checkedMultiply key config.kvDim
  let value ← checkedMultiply config.numFullAttentionLayers sequence
  let value ← checkedMultiply value config.kvDim
  let rope ← checkedMultiply sequence (config.rotaryDim / 2)
  let promptHidden ← checkedMultiply sequence config.hiddenSize
  pure ⟨conv, gdn, key, value, rope, promptHidden⟩

def persistentStatePlan (elements : ElementCounts) :
    Option PrefillPersistentStateMemoryPlan := do
  let conv ← makeTypedRequirement elements.conv bf16Bytes .requestThroughDecode .disjoint
  let gdn ← makeTypedRequirement elements.gdn bf16Bytes .requestThroughDecode .disjoint
  let key ← makeTypedRequirement elements.key bf16Bytes .requestThroughDecode .disjoint
  let value ← makeTypedRequirement elements.value bf16Bytes .requestThroughDecode .disjoint
  let total ← checkedSum
    [conv.requiredBytes, gdn.requiredBytes, key.requiredBytes, value.requiredBytes]
  pure ⟨conv, gdn, key, value, total⟩

def positionStatePlan (elements : ElementCounts) : Option PrefillPositionMemoryPlan := do
  let cos ← makeTypedRequirement elements.rope fp32Bytes .requestThroughDecode .disjoint
  let sin ← makeTypedRequirement elements.rope fp32Bytes .requestThroughDecode .disjoint
  let total ← checkedSum [cos.requiredBytes, sin.requiredBytes]
  pure ⟨cos, sin, total⟩

def finalHiddenRequirement (config : ModelConfig) : Option PrefillMemoryRequirement :=
  makeTypedRequirement config.hiddenSize bf16Bytes .requestPrefill .disjoint

def minimumHidden (config : ModelConfig) (sequence elements : ℕ) :
    Option PrefillPromptWideHiddenVariant := do
  let aggregate ← makeTypedRequirement elements bf16Bytes .requestPrefill
    .panelwiseInputConsumedBeforeOutputOverwrite
  pure
    { strategy := .singlePromptWideConditional
      aggregateBf16 := aggregate
      bufferCount := 1
      hiddenWidth := config.hiddenSize
      sequenceCapacityTokens := sequence
      requiresPanelwiseInPlaceContract := true }

def conservativeHidden (config : ModelConfig) (sequence elements : ℕ) :
    Option PrefillPromptWideHiddenVariant := do
  let elements ← checkedMultiply elements 2
  let aggregate ← makeTypedRequirement elements bf16Bytes .requestPrefill .disjoint
  pure
    { strategy := .doublePromptWideConservative
      aggregateBf16 := aggregate
      bufferCount := 2
      hiddenWidth := config.hiddenSize
      sequenceCapacityTokens := sequence
      requiresPanelwiseInPlaceContract := false }

def promptWideHiddenPlan (config : ModelConfig) (sequence elements : ℕ)
    (strategy : PrefillHiddenStrategy) : Option PrefillPromptWideHiddenMemoryPlan := do
  let minimum ← minimumHidden config sequence elements
  let conservative ← conservativeHidden config sequence elements
  pure ⟨minimum, conservative,
    if strategy = .singlePromptWideConditional then minimum else conservative⟩

def promptTokenIdsRequirement : Option PrefillMemoryRequirement :=
  makeTypedRequirement operatorPanelTokens u32Bytes .operatorPanel
    .promptTokenIdsConsumedBeforeOperatorScratchReuse

structure LegacyScratch where
  hidden : PrefillMemoryRequirement
  projection : PrefillMemoryRequirement
  linearScalar : PrefillMemoryRequirement
  fp32 : PrefillMemoryRequirement
  deriving DecidableEq

def legacyScratch (config : ModelConfig) (sequence : ℕ) : Option LegacyScratch := do
  let hiddenElements ← checkedMultiply legacyC512HiddenScratchBufferCount legacyPublicTileTokens
  let hiddenElements ← checkedMultiply hiddenElements config.hiddenSize
  let projectionElements ← checkedMultiply legacyC512ProjectionScratchBufferCount
    legacyPublicTileTokens
  let projectionElements ← checkedMultiply projectionElements config.intermediateSize
  let linearElements ← checkedMultiply legacyC512LinearScalarScratchBufferCount
    legacyPublicTileTokens
  let linearElements ← checkedMultiply linearElements config.linearNumValueHeads
  let probabilityElements ← checkedMultiply sequence config.numAttentionHeads
  let hidden ← makeTypedRequirement hiddenElements bf16Bytes .operatorPanel .disjoint
  let projection ← makeTypedRequirement projectionElements bf16Bytes .operatorPanel .disjoint
  let linearScalar ← makeTypedRequirement linearElements bf16Bytes .operatorPanel .disjoint
  let fp32 ← makeTypedRequirement (max fp32MinimumElements probabilityElements) fp32Bytes
    .operatorPanel .disjoint
  pure ⟨hidden, projection, linearScalar, fp32⟩

def makeVariant (strategy : PrefillOperatorScratchStrategy)
    (aliasCondition : PrefillMemoryAliasCondition) (bytes : ℕ) (requires : VariantContracts)
    (backings : VariantBackingRequirements) : Option PrefillOperatorScratchVariant := do
  let aggregate ← makeRawRequirement bytes .operatorPanel aliasCondition
  pure ⟨strategy, aggregate, aggregate.requiredBytes, requires, backings⟩

-- Every strategy's variant is computed; the options only choose which one is selected.
structure ScratchVariants where
  familyOverlay : PrefillOperatorScratchVariant
  familyDisjoint : PrefillOperatorScratchVariant
  legacy : PrefillOperatorScratchVariant
  routeOverlay : PrefillOperatorScratchVariant
  familyOverlayLegacyDisjoint : PrefillOperatorScratchVariant
  allDisjoint : PrefillOperatorScratchVariant

def overlayContracts : VariantContracts where
  legacyRouteExclusion := true
  familyCompletionEvents := true
  intraFamilyPhaseContract := true
  promptTokenIdsConsumedEvent := true

def disjointFamilyContracts : VariantContracts where
  legacyRouteExclusion := true
  intraFamilyPhaseContract := true
  promptTokenIdsConsumedEvent := true

def legacyContracts : VariantContracts where
  promptTokenIdsConsumedEvent := true

def routeOverlayContracts : VariantContracts where
  familyCompletionEvents := true
  routeMutualExclusionEvent := true
  intraFamilyPhaseContract := true
  promptTokenIdsConsumedEvent := true

def overlayLegacyContracts : VariantContracts where
  familyCompletionEvents := true
  intraFamilyPhaseContract := true
  promptTokenIdsConsumedEvent := true

def allDisjointContracts : VariantContracts where
  intraFamilyPhaseContract := true
  promptTokenIdsConsumedEvent := true

def scratchVariants (legacyGdnTactic : PrefillLegacyGdnPhysicalTactic)
    (bytes : PrefillTacticByteRequirements) (familyOverlayBytes familyDisjointBytes legacyBytes : ℕ) :
    Option ScratchVariants := do
  let backings (topology : ScratchVariantTopology) :=
    variantBackingRequirements topology legacyGdnTactic bytes
  let familyOverlay ← makeVariant .c8192FamilyOverlayConditional .sequentialFamilyLiveSetOverlay
    familyOverlayBytes overlayContracts (backings .c8192FamilyOverlayOnly)
  let familyDisjoint ← makeVariant .disjointAllFamiliesAndLegacyC512 .disjoint
    familyDisjointBytes disjointFamilyContracts (backings .c8192DisjointFamiliesOnly)
  let legacy ← makeVariant .unselected .disjoint legacyBytes legacyContracts
    (backings .legacyC512Only)
  let routeOverlay ← makeVariant .overlayLegacyC512MutuallyExclusive
    .mutuallyExclusiveRouteOverlay
    (max familyOverlay.totalRequiredBytes legacy.totalRequiredBytes) routeOverlayContracts
    (backings .mutuallyExclusiveRouteOverlay)
  let familyOverlayLegacyBytes ← checkedAdd familyOverlay.totalRequiredBytes
    legacy.totalRequiredBytes
  let allDisjointBytes ← checkedAdd familyDisjoint.totalRequiredBytes legacy.totalRequiredBytes
  let familyOverlayLegacyDisjoint ← makeVariant .c8192FamilyOverlayWithDisjointLegacyC512
    .sequentialFamilyLiveSetOverlay familyOverlayLegacyBytes overlayLegacyContracts
    (backings .c8192FamilyOverlayWithDisjointLegacyC512)
  let allDisjoint ← makeVariant .disjointAllFamiliesAndLegacyC512 .disjoint allDisjointBytes
    allDisjointContracts (backings .disjointAllFamiliesAndLegacyC512)
  pure ⟨familyOverlay, familyDisjoint, legacy, routeOverlay, familyOverlayLegacyDisjoint,
    allDisjoint⟩

def selectVariant (variants : ScratchVariants) :
    PrefillOperatorScratchStrategy → Option PrefillOperatorScratchVariant
  | .c8192FamilyOverlayConditional => some variants.familyOverlay
  | .overlayLegacyC512MutuallyExclusive => some variants.routeOverlay
  | .c8192FamilyOverlayWithDisjointLegacyC512 => some variants.familyOverlayLegacyDisjoint
  | .disjointAllFamiliesAndLegacyC512 => some variants.allDisjoint
  | .p40WholeCorePromptWideWithDisjointLegacyC512 => none
  | .unselected => none

def legacyNativeWorkspace (options : LayerMajorPrefillWorkspaceOptions)
    (bytes : PrefillTacticByteRequirements) (legacyBytes : ℕ) :
    Option (Option PrefillMemoryRequirement × ℕ) :=
  if options.legacyGdnTactic = .c64Native then do
    let native ← makeRawRequirement bytes.legacyGdnNativeWorkspace .operatorPanel .disjoint
    let legacyBytes ← checkedAdd legacyBytes native.requiredBytes
    pure (some native, legacyBytes)
  else some (none, legacyBytes)

def tokenParallelConvOutput (options : LayerMajorPrefillWorkspaceOptions)
    (bytes : PrefillTacticByteRequirements) : Option (Option PrefillMemoryRequirement) :=
  if options.gdnTactic = .c64NativeTokenParallelConv then do
    let output ← makeRawRequirement bytes.gdnTokenParallelConvOutput .operatorPanel .disjoint
    pure (some output)
  else some none

def projectionRequirement (role : PrefillProjectionRole) (maximumM n k count : ℕ) :
    PrefillProjectionShapeRequirement := ⟨role, maximumM, n, k, count, false⟩

def mlpCapacityTokens (cfg : BuildConfig) (tactic : PrefillMlpPhysicalTactic) : ℕ :=
  if isLayerWideP40MlpTactic tactic then layerWideMlpP40Tokens cfg else operatorPanelTokens

def familyBytes (bytes : PrefillTacticByteRequirements) : List ℕ :=
  [max bytes.gdnProjectionPhase bytes.gdnRecurrentPhase, bytes.attentionPreprocessPhase,
    bytes.mlpGateUpDownPhase]

def operatorScratchPlan (cfg : BuildConfig) (config : ModelConfig) (sequence : ℕ)
    (options : LayerMajorPrefillWorkspaceOptions) : Option PrefillOperatorScratchMemoryPlan := do
  let raw (bytes : ℕ) := makeRawRequirement bytes .operatorPanel .disjoint
  let bytes ← checkedTacticByteRequirements cfg config sequence options.gdnTactic
    options.legacyGdnTactic options.mlpTactic
  let promptTokenIds ← promptTokenIdsRequirement
  let gdnProjection ← raw bytes.gdnProjectionPhase
  let gdnRecurrent ← raw bytes.gdnRecurrentPhase
  let gdnNative ← raw bytes.gdnNativeWorkspace
  let attentionPreprocess ← raw bytes.attentionPreprocessPhase
  let mlpGateUpDown ← raw bytes.mlpGateUpDownPhase
  let projectionReduction ← raw bytes.projectionReductionAndLocks
  let convOutput ← tokenParallelConvOutput options bytes
  let gdnFamily ← raw (max bytes.gdnProjectionPhase bytes.gdnRecurrentPhase)
  let attentionFamily ← raw bytes.attentionPreprocessPhase
  let mlpFamily ← raw bytes.mlpGateUpDownPhase
  let familyDisjointBytes ← checkedSum (familyBytes bytes)
  let familyOverlayBytes := (familyBytes bytes).foldl max 0
  let legacy ← legacyScratch config sequence
  let legacyBytes ← checkedSum [legacy.hidden.requiredBytes, legacy.projection.requiredBytes,
    legacy.linearScalar.requiredBytes, legacy.fp32.requiredBytes]
  let (legacyNative, legacyBytes) ← legacyNativeWorkspace options bytes legacyBytes
  let variants ← scratchVariants options.legacyGdnTactic bytes familyOverlayBytes
    familyDisjointBytes legacyBytes
  let selected ← selectVariant variants options.scratchStrategy
  let mlpCapacity := mlpCapacityTokens cfg options.mlpTactic
  pure
    { c8192PanelCapacityTokens := operatorPanelTokens
      legacyC512PanelCapacityTokens := legacyPublicTileTokens
      mlpCapacityTokens := mlpCapacity
      gdnTactic := options.gdnTactic
      legacyGdnTactic := options.legacyGdnTactic
      mlpTactic := options.mlpTactic
      gdnProjectionPhase := gdnProjection
      promptTokenIdsU32 := promptTokenIds
      gdnRecurrentPhase := gdnRecurrent
      gdnC64NativeWorkspace := gdnNative
      gdnTokenParallelC512ConvOutput := convOutput
      fullAttentionPreprocessPhase := attentionPreprocess
      mlpGateUpDownPhase := mlpGateUpDown
      sharedProjectionReductionAndLocks := projectionReduction
      gdnLiveSet := ⟨.gdnProjectionAndRecurrentCore, .gdnInProjQkvzAndInProjBa,
        .gdnRecurrentUpdateNormAndOutputProjection, gdnFamily⟩
      attentionLiveSet := ⟨.fullAttentionProjectionAndCore, .fullAttentionQkvGateProjection,
        .fullAttentionCoreGateAndOutputProjection, attentionFamily⟩
      mlpLiveSet := ⟨.mlpGateUpAndDown, .mlpMergedGateUpProjection,
        .mlpSiluGateAndDownProjection, mlpFamily⟩
      c8192FamilyOverlayConditional := variants.familyOverlay
      c8192DisjointFamilies := variants.familyDisjoint
      legacyC512HiddenBf16 := legacy.hidden
      legacyC512ProjectionBf16 := legacy.projection
      legacyC512LinearScalarBf16 := legacy.linearScalar
      legacyC512Fp32Scratch := legacy.fp32
      legacyC512GdnNativeWorkspace := legacyNative
      legacyC512Only := variants.legacy
      mutuallyExclusiveOverlay := variants.routeOverlay
      c8192FamilyOverlayWithDisjointLegacyC512 := variants.familyOverlayLegacyDisjoint
      disjointConservative := variants.allDisjoint
      selected := selected
      gateUp := projectionRequirement .gateUp mlpCapacity config.intermediateSize
        config.hiddenSize 2
      down := projectionRequirement .down mlpCapacity config.hiddenSize config.intermediateSize 1 }

structure ProfileTotals where
  minimum : ℕ
  selected : ℕ
  conservative : ℕ
  deriving DecidableEq

def profileTotals (plan : LayerMajorPrefillWorkspacePlan)
    (minimumScratch conservativeScratch : ℕ) : Option ProfileTotals := do
  let common ← checkedSum [plan.persistentState.totalRequiredBytes,
    plan.positionState.totalRequiredBytes, plan.finalHiddenHandoffBf16.requiredBytes]
  let minimum ← checkedSum [common,
    plan.promptWideHidden.minimumConditional.aggregateBf16.requiredBytes, minimumScratch]
  let selected ← checkedSum [common,
    plan.promptWideHidden.selected.aggregateBf16.requiredBytes,
    plan.operatorScratch.selected.totalRequiredBytes]
  let conservative ← checkedSum [common,
    plan.promptWideHidden.conservative.aggregateBf16.requiredBytes, conservativeScratch]
  pure ⟨minimum, selected, conservative⟩

def selectedRequiresContract (plan : LayerMajorPrefillWorkspacePlan) : Bool :=
  let requires := plan.operatorScratch.selected.requires
  plan.promptWideHidden.selected.requiresPanelwiseInPlaceContract ||
    requires.legacyRouteExclusion || requires.familyCompletionEvents ||
    requires.routeMutualExclusionEvent || requires.intraFamilyPhaseContract ||
    requires.promptTokenIdsConsumedEvent

def withProfiles (options : LayerMajorPrefillWorkspaceOptions) (totals : ProfileTotals)
    (plan : LayerMajorPrefillWorkspacePlan) : LayerMajorPrefillWorkspacePlan :=
  { plan with
    minimumConditional :=
      { hiddenStrategy := .singlePromptWideConditional
        scratchStrategy := .c8192FamilyOverlayConditional
        requiredBytes := totals.minimum
        capacity := capacity totals.minimum options.requestArenaLimitBytes
        requiresUnboundAliasOrRouteContract := true }
    selected :=
      { hiddenStrategy := options.hiddenStrategy
        scratchStrategy := options.scratchStrategy
        requiredBytes := totals.selected
        capacity := capacity totals.selected options.requestArenaLimitBytes
        requiresUnboundAliasOrRouteContract := selectedRequiresContract plan }
    conservative :=
      { hiddenStrategy := .doublePromptWideConservative
        scratchStrategy := .disjointAllFamiliesAndLegacyC512
        requiredBytes := totals.conservative
        capacity := capacity totals.conservative options.requestArenaLimitBytes
        requiresUnboundAliasOrRouteContract := true }
    residentModel := { owner := .engineResidentModel, lifetime := .engine }
    derivedSidecars := { owner := .deploymentPlanSidecar, lifetime := .engine }
    wholeProcessCapacity := .indeterminate }

def assembleWorkspacePlan (cfg : BuildConfig) (config : ModelConfig) (elements : ElementCounts)
    (options : LayerMajorPrefillWorkspaceOptions) : Option LayerMajorPrefillWorkspacePlan := do
  let sequence := options.sequenceCapacityTokens
  let persistent ← persistentStatePlan elements
  let position ← positionStatePlan elements
  let finalHidden ← finalHiddenRequirement config
  let hidden ← promptWideHiddenPlan config sequence elements.promptHidden options.hiddenStrategy
  let scratch ← operatorScratchPlan cfg config sequence options
  let plan : LayerMajorPrefillWorkspacePlan :=
    { sequenceCapacityTokens := sequence
      requestArenaLimitBytes := options.requestArenaLimitBytes
      persistentState := persistent
      positionState := position
      finalHiddenHandoffBf16 := finalHidden
      promptWideHidden := hidden
      operatorScratch := scratch }
  let totals ← profileTotals plan scratch.c8192FamilyOverlayConditional.totalRequiredBytes
    scratch.disjointConservative.totalRequiredBytes
  pure (withProfiles options totals plan)

end Build

end Qwen3xOrin.Request
