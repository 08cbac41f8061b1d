import Qwen3xOrin.Request.WorkspacePlanner

/-! The planner's own check of the plan it has built, which recomputes every requirement, and the
planner with that check at its end. -/

namespace Qwen3xOrin.Request

open Io
open Prefill (BuildConfig operatorPanelTokens legacyPublicTileTokens layerWideMlpP40Tokens
  promptWideP40RequestCapacityTokens maximumSequenceTokens)

section Requirements

def validRequirement (requirement : PrefillMemoryRequirement)
    (expectedLifetime : PrefillMemoryLifetime) : Bool :=
  requirement.owner = .requestStateArena ∧ requirement.lifetime = expectedLifetime ∧
    requirement.requiredBytes ≠ 0 ∧ requirement.requiredBytes % requestArenaAlignment = 0 ∧
    requirement.elementCapacity ≠ 0 ∧ requirement.elementSizeBytes ≠ 0 ∧
    (checkedMultiply requirement.elementCapacity requirement.elementSizeBytes).any
      (· ≤ requirement.requiredBytes) ∧
    requirement.allocationBound = false ∧ requirement.aliasContractBound = false

def validRawRequirementExact (requirement : PrefillMemoryRequirement)
    (lifetime : PrefillMemoryLifetime) (aliasCondition : PrefillMemoryAliasCondition)
    (exactBytes : ℕ) : Bool :=
  validRequirement requirement lifetime ∧ requirement.aliasCondition = aliasCondition ∧
    requirement.requiredBytes = exactBytes ∧ requirement.elementCapacity = exactBytes ∧
    requirement.elementSizeBytes = 1

def backingFits (contract : PrefillWorkspaceBackingContract) (exactBytes : ℕ) : Bool :=
  (checkedMultiply contract.bytesPerInstance contract.minimumInstanceCount).any (· ≤ exactBytes)

def validScratchVariantExact (variant : PrefillOperatorScratchVariant)
    (strategy : PrefillOperatorScratchStrategy) (aliasCondition : PrefillMemoryAliasCondition)
    (exactBytes : ℕ) (requires : VariantContracts)
    (expectedBackings : VariantBackingRequirements) : Bool :=
  backingFits expectedBackings.promptTokenIds exactBytes ∧
    backingFits expectedBackings.projection exactBytes ∧
    backingFits expectedBackings.gdnNative exactBytes ∧ variant.strategy = strategy ∧
    validRawRequirementExact variant.aggregate .operatorPanel aliasCondition exactBytes ∧
    variant.totalRequiredBytes = exactBytes ∧ variant.requires = requires ∧
    variant.backings = expectedBackings

end Requirements

section Plan

variable (cfg : BuildConfig) (config : ModelConfig) (plan : LayerMajorPrefillWorkspacePlan)

def validHeader : Bool :=
  plan.sequenceCapacityTokens ≠ 0 ∧ plan.operatorPanelCapacityTokens = operatorPanelTokens ∧
    plan.requestArenaLimitBytes ≠ 0 ∧ plan.requestArenaOwner = .requestStateArena

def validProfile (profile : PrefillArenaCapacityProfile) : Bool :=
  profile.capacity = capacity profile.requiredBytes plan.requestArenaLimitBytes ∧
    profile.requiresUnboundAliasOrRouteContract

def validProfiles : Bool :=
  plan.minimumConditional.hiddenStrategy = .singlePromptWideConditional ∧
    plan.minimumConditional.scratchStrategy = .c8192FamilyOverlayConditional ∧
    validHiddenStrategy plan.selected.hiddenStrategy ∧
    validScratchStrategy plan.selected.scratchStrategy ∧
    plan.conservative.hiddenStrategy = .doublePromptWideConservative ∧
    plan.conservative.scratchStrategy = .disjointAllFamiliesAndLegacyC512 ∧
    plan.minimumConditional.requiredBytes ≤ plan.selected.requiredBytes ∧
    plan.selected.requiredBytes ≤ plan.conservative.requiredBytes ∧
    validProfile plan plan.minimumConditional ∧ validProfile plan plan.selected ∧
    validProfile plan plan.conservative

def unboundAsset (asset : PrefillEngineAssetMemoryRequirement) (owner : PrefillMemoryOwner) : Bool :=
  asset.owner = owner ∧ asset.requiredBytes = none ∧ asset.authenticated = false ∧
    asset.residencyBound = false

def validAssets : Bool :=
  unboundAsset plan.residentModel .engineResidentModel ∧
    unboundAsset plan.derivedSidecars .deploymentPlanSidecar ∧
    plan.wholeProcessRequiredBytes = none ∧ plan.wholeProcessCapacity = .indeterminate ∧
    plan.requestArenaReservationBound = false ∧ plan.operatorBindingsComplete = false ∧
    plan.executable = false

def validPersistentState : Bool :=
  let persistent := plan.persistentState
  validRequirement persistent.convolutionState .requestThroughDecode ∧
    validRequirement persistent.gdnRecurrentState .requestThroughDecode ∧
    validRequirement persistent.fullAttentionKeyCache .requestThroughDecode ∧
    validRequirement persistent.fullAttentionValueCache .requestThroughDecode ∧
    checkedSum [persistent.convolutionState.requiredBytes,
      persistent.gdnRecurrentState.requiredBytes,
      persistent.fullAttentionKeyCache.requiredBytes,
      persistent.fullAttentionValueCache.requiredBytes] = some persistent.totalRequiredBytes

def validPositionState : Bool :=
  let position := plan.positionState
  validRequirement position.ropeCosFp32 .requestThroughDecode ∧
    validRequirement position.ropeSinFp32 .requestThroughDecode ∧
    checkedSum [position.ropeCosFp32.requiredBytes, position.ropeSinFp32.requiredBytes] =
      some position.totalRequiredBytes

def validHidden : Bool :=
  Option.isSome do
    let elements ← checkedMultiply plan.sequenceCapacityTokens config.hiddenSize
    let minimum ← minimumHidden config plan.sequenceCapacityTokens elements
    let conservative ← conservativeHidden config plan.sequenceCapacityTokens elements
    guard (plan.promptWideHidden.minimumConditional = minimum)
    guard (plan.promptWideHidden.conservative = conservative)
    guard (plan.promptWideHidden.selected =
      if plan.selected.hiddenStrategy = .singlePromptWideConditional then minimum
      else conservative)

def validScratchShape : Bool :=
  let scratch := plan.operatorScratch
  let mlpCapacity := mlpCapacityTokens cfg scratch.mlpTactic
  scratch.c8192PanelCapacityTokens = operatorPanelTokens ∧
    scratch.legacyC512PanelCapacityTokens = legacyPublicTileTokens ∧
    scratch.mlpCapacityTokens = mlpCapacity ∧ validGdnTactic scratch.gdnTactic ∧
    validLegacyGdnTactic scratch.legacyGdnTactic ∧ validMlpTactic scratch.mlpTactic ∧
    scratch.gateUp = ⟨.gateUp, mlpCapacity, 17408, 5120, 2, false⟩ ∧
    scratch.down = ⟨.down, mlpCapacity, 5120, 17408, 1, false⟩ ∧
    promptTokenIdsRequirement = some scratch.promptTokenIdsU32

def validOptionalRaw (bytes : ℕ) (requirement : Option PrefillMemoryRequirement) : Bool :=
  (decide (bytes ≠ 0) = requirement.isSome) ∧
    requirement.all (validRawRequirementExact · .operatorPanel .disjoint bytes)

def validTacticBytes (bytes : PrefillTacticByteRequirements) : Bool :=
  let scratch := plan.operatorScratch
  let raw (requirement : PrefillMemoryRequirement) (bytes : ℕ) :=
    validRawRequirementExact requirement .operatorPanel .disjoint bytes
  raw scratch.gdnProjectionPhase bytes.gdnProjectionPhase ∧
    raw scratch.gdnRecurrentPhase bytes.gdnRecurrentPhase ∧
    raw scratch.gdnC64NativeWorkspace bytes.gdnNativeWorkspace ∧
    raw scratch.fullAttentionPreprocessPhase bytes.attentionPreprocessPhase ∧
    raw scratch.mlpGateUpDownPhase bytes.mlpGateUpDownPhase ∧
    raw scratch.sharedProjectionReductionAndLocks bytes.projectionReductionAndLocks ∧
    validOptionalRaw bytes.gdnTokenParallelConvOutput scratch.gdnTokenParallelC512ConvOutput ∧
    validOptionalRaw bytes.legacyGdnNativeWorkspace scratch.legacyC512GdnNativeWorkspace

def validLiveSet (liveSet : PrefillOperatorFamilyLiveSet) (family : PrefillScratchFamily)
    (producer : PrefillScratchProducer) (lastConsumer : PrefillScratchLastConsumer)
    (bytes : ℕ) : Bool :=
  validRequirement liveSet.aggregate .operatorPanel ∧ liveSet.family = family ∧
    liveSet.producer = producer ∧ liveSet.lastConsumer = lastConsumer ∧
    liveSet.aggregate.requiredBytes = bytes

def validLiveSets : Bool :=
  let scratch := plan.operatorScratch
  validLiveSet scratch.gdnLiveSet .gdnProjectionAndRecurrentCore .gdnInProjQkvzAndInProjBa
      .gdnRecurrentUpdateNormAndOutputProjection
      (max scratch.gdnProjectionPhase.requiredBytes scratch.gdnRecurrentPhase.requiredBytes) ∧
    validLiveSet scratch.attentionLiveSet .fullAttentionProjectionAndCore
      .fullAttentionQkvGateProjection .fullAttentionCoreGateAndOutputProjection
      scratch.fullAttentionPreprocessPhase.requiredBytes ∧
    validLiveSet scratch.mlpLiveSet .mlpGateUpAndDown .mlpMergedGateUpProjection
      .mlpSiluGateAndDownProjection scratch.mlpGateUpDownPhase.requiredBytes

structure ExpectedScratch where
  familyOverlay : ℕ
  familyDisjoint : ℕ
  legacy : ℕ
  familyOverlayLegacy : ℕ
  allDisjoint : ℕ

def expectedScratch : Option ExpectedScratch := do
  let scratch := plan.operatorScratch
  let families := [scratch.gdnLiveSet.aggregate.requiredBytes,
    scratch.attentionLiveSet.aggregate.requiredBytes, scratch.mlpLiveSet.aggregate.requiredBytes]
  let expected ← legacyScratch config plan.sequenceCapacityTokens
  guard (expected = ⟨scratch.legacyC512HiddenBf16, scratch.legacyC512ProjectionBf16,
    scratch.legacyC512LinearScalarBf16, scratch.legacyC512Fp32Scratch⟩)
  let familyDisjoint ← checkedSum families
  let legacy ← checkedSum [scratch.legacyC512HiddenBf16.requiredBytes,
    scratch.legacyC512ProjectionBf16.requiredBytes,
    scratch.legacyC512LinearScalarBf16.requiredBytes,
    scratch.legacyC512Fp32Scratch.requiredBytes]
  let legacy ← match scratch.legacyC512GdnNativeWorkspace with
    | some native => checkedAdd legacy native.requiredBytes
    | none => some legacy
  let familyOverlay := families.foldl max 0
  let familyOverlayLegacy ← checkedAdd familyOverlay legacy
  let allDisjoint ← checkedAdd familyDisjoint legacy
  pure ⟨familyOverlay, familyDisjoint, legacy, familyOverlayLegacy, allDisjoint⟩

def validVariants (bytes : PrefillTacticByteRequirements) (expected : ExpectedScratch) : Bool :=
  let scratch := plan.operatorScratch
  let backings (topology : ScratchVariantTopology) :=
    variantBackingRequirements topology scratch.legacyGdnTactic bytes
  validScratchVariantExact scratch.c8192FamilyOverlayConditional .c8192FamilyOverlayConditional
      .sequentialFamilyLiveSetOverlay expected.familyOverlay overlayContracts
      (backings .c8192FamilyOverlayOnly) ∧
    validScratchVariantExact scratch.c8192DisjointFamilies .disjointAllFamiliesAndLegacyC512
      .disjoint expected.familyDisjoint disjointFamilyContracts
      (backings .c8192DisjointFamiliesOnly) ∧
    validScratchVariantExact scratch.legacyC512Only .unselected .disjoint expected.legacy
      legacyContracts (backings .legacyC512Only) ∧
    validScratchVariantExact scratch.mutuallyExclusiveOverlay
      .overlayLegacyC512MutuallyExclusive .mutuallyExclusiveRouteOverlay
      (max expected.familyOverlay expected.legacy) routeOverlayContracts
      (backings .mutuallyExclusiveRouteOverlay) ∧
    validScratchVariantExact scratch.c8192FamilyOverlayWithDisjointLegacyC512
      .c8192FamilyOverlayWithDisjointLegacyC512 .sequentialFamilyLiveSetOverlay
      expected.familyOverlayLegacy overlayLegacyContracts
      (backings .c8192FamilyOverlayWithDisjointLegacyC512) ∧
    validScratchVariantExact scratch.disjointConservative .disjointAllFamiliesAndLegacyC512
      .disjoint expected.allDisjoint allDisjointContracts
      (backings .disjointAllFamiliesAndLegacyC512)

def planVariants : ScratchVariants where
  familyOverlay := plan.operatorScratch.c8192FamilyOverlayConditional
  familyDisjoint := plan.operatorScratch.c8192DisjointFamilies
  legacy := plan.operatorScratch.legacyC512Only
  routeOverlay := plan.operatorScratch.mutuallyExclusiveOverlay
  familyOverlayLegacyDisjoint := plan.operatorScratch.c8192FamilyOverlayWithDisjointLegacyC512
  allDisjoint := plan.operatorScratch.disjointConservative

def validScratch : Bool :=
  Option.isSome do
    let scratch := plan.operatorScratch
    let bytes ← checkedTacticByteRequirements cfg config plan.sequenceCapacityTokens
      scratch.gdnTactic scratch.legacyGdnTactic scratch.mlpTactic
    guard (validTacticBytes plan bytes)
    guard (validLiveSets plan)
    let expected ← expectedScratch config plan
    guard (validVariants plan bytes expected)
    guard (selectVariant (planVariants plan) plan.selected.scratchStrategy = some scratch.selected)
    let totals ← profileTotals plan expected.familyOverlay expected.allDisjoint
    guard (totals = ⟨plan.minimumConditional.requiredBytes, plan.selected.requiredBytes,
      plan.conservative.requiredBytes⟩)
    guard (plan.selected.requiresUnboundAliasOrRouteContract = selectedRequiresContract plan)

def validPlan : Bool :=
  validHeader plan ∧ validProfiles plan ∧ validAssets plan ∧
    (findKnownModel .qwen36Dense27B).any fun config =>
      validLayerMajorModelContract config ∧ validPersistentState plan ∧
        validPositionState plan ∧
        finalHiddenRequirement config = some plan.finalHiddenHandoffBf16 ∧
        validHidden config plan ∧ validScratchShape cfg plan ∧ validScratch cfg config plan

end Plan

def validWorkspaceOptions (cfg : BuildConfig) (options : LayerMajorPrefillWorkspaceOptions) : Bool :=
  options.sequenceCapacityTokens ≠ 0 ∧ options.requestArenaLimitBytes ≠ 0 ∧
    validHiddenStrategy options.hiddenStrategy ∧ validScratchStrategy options.scratchStrategy ∧
    validGdnTactic options.gdnTactic ∧ validLegacyGdnTactic options.legacyGdnTactic ∧
    validMlpTactic options.mlpTactic ∧ enabledMlpTactic cfg options.mlpTactic ∧
    ¬(isLayerWideP40MlpTactic options.mlpTactic ∧
      options.sequenceCapacityTokens ≠ promptWideP40RequestCapacityTokens cfg)

def buildUnboundLayerMajorPrefillWorkspacePlan (cfg : BuildConfig)
    (options : LayerMajorPrefillWorkspaceOptions) :
    Except PrefillWorkspacePlanError LayerMajorPrefillWorkspacePlan :=
  if ¬validWorkspaceOptions cfg options then .error .invalidArgument
  else
    match findKnownModel .qwen36Dense27B with
    | none => .error .modelContractMismatch
    | some config =>
      if ¬validLayerMajorModelContract config then .error .modelContractMismatch
      else
        match elementCounts config options.sequenceCapacityTokens with
        | none => .error .arithmeticOverflow
        | some elements =>
          if maximumSequenceTokens < options.sequenceCapacityTokens ∨
              2 ^ 32 - 1 < options.sequenceCapacityTokens then .error .capacityExceeded
          else
            match assembleWorkspacePlan cfg config elements options with
            | none => .error .arithmeticOverflow
            | some plan => if validPlan cfg plan then .ok plan else .error .invalidLayout

end Qwen3xOrin.Request
