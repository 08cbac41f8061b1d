import Qwen3xOrin.Prefill.Geometry
import Qwen3xOrin.Request.ModelConfig
import Qwen3xOrin.Request.Region

/-! What the layer-major workspace planner records: byte requirements with their owners, lifetimes
and alias conditions, for several strategies side by side. -/

namespace Qwen3xOrin.Request

open Prefill (operatorPanelTokens)

inductive PrefillMemoryOwner
  | requestStateArena
  | engineResidentModel
  | deploymentPlanSidecar
  deriving DecidableEq, Repr

inductive PrefillMemoryLifetime
  | requestThroughDecode
  | requestPrefill
  | operatorPanel
  | engine
  deriving DecidableEq, Repr

inductive PrefillMemoryAliasCondition
  | disjoint
  | panelwiseInputConsumedBeforeOutputOverwrite
  | sequentialFamilyLiveSetOverlay
  | mutuallyExclusiveRouteOverlay
  | promptTokenIdsConsumedBeforeOperatorScratchReuse
  deriving DecidableEq, Repr

inductive PrefillMemoryCapacityVerdict
  | fitsDeclaredLimit
  | exceedsDeclaredLimit
  | indeterminate
  deriving DecidableEq, Repr

inductive PrefillHiddenStrategy
  | unselected
  | singlePromptWideConditional
  | doublePromptWideConservative
  deriving DecidableEq, Repr

inductive PrefillOperatorScratchStrategy
  | unselected
  | c8192FamilyOverlayConditional
  | overlayLegacyC512MutuallyExclusive
  | c8192FamilyOverlayWithDisjointLegacyC512
  | disjointAllFamiliesAndLegacyC512
  | p40WholeCorePromptWideWithDisjointLegacyC512
  deriving DecidableEq, Repr

inductive PrefillGdnPhysicalTactic
  | unselected
  | c64NativeInPlaceConv
  | c64NativeTokenParallelConv
  | p40PromptWideChunkGraph
  deriving DecidableEq, Repr

inductive PrefillLegacyGdnPhysicalTactic
  | unselected
  | c16Composite
  | c64Native
  deriving DecidableEq, Repr

inductive PrefillMlpPhysicalTactic
  | unselected
  | separateGateUpAndSilu
  | fusedGateUpEpilogue
  | layerWideP40AlignedMarlin
  | layerWideP40PersistentFusedGateUp
  | layerWideP40MarlinParityMergedGateUp
  deriving DecidableEq, Repr

inductive PrefillWorkspacePlanError
  | none
  | invalidArgument
  | arithmeticOverflow
  | capacityExceeded
  | modelContractMismatch
  | invalidLayout
  deriving DecidableEq, Repr

structure PrefillMemoryRequirement where
  owner : PrefillMemoryOwner := .requestStateArena
  lifetime : PrefillMemoryLifetime := .requestPrefill
  aliasCondition : PrefillMemoryAliasCondition := .disjoint
  requiredBytes : ℕ := 0
  elementCapacity : ℕ := 0
  elementSizeBytes : ℕ := 0
  allocationBound : Bool := false
  aliasContractBound : Bool := false
  deriving DecidableEq

structure PrefillPersistentStateMemoryPlan where
  convolutionState : PrefillMemoryRequirement := {}
  gdnRecurrentState : PrefillMemoryRequirement := {}
  fullAttentionKeyCache : PrefillMemoryRequirement := {}
  fullAttentionValueCache : PrefillMemoryRequirement := {}
  totalRequiredBytes : ℕ := 0

structure PrefillPositionMemoryPlan where
  ropeCosFp32 : PrefillMemoryRequirement := {}
  ropeSinFp32 : PrefillMemoryRequirement := {}
  totalRequiredBytes : ℕ := 0

structure PrefillPromptWideHiddenVariant where
  strategy : PrefillHiddenStrategy := .unselected
  aggregateBf16 : PrefillMemoryRequirement := {}
  bufferCount : ℕ := 0
  hiddenWidth : ℕ := 0
  sequenceCapacityTokens : ℕ := 0
  requiresPanelwiseInPlaceContract : Bool := false
  deriving DecidableEq

structure PrefillPromptWideHiddenMemoryPlan where
  minimumConditional : PrefillPromptWideHiddenVariant := {}
  conservative : PrefillPromptWideHiddenVariant := {}
  selected : PrefillPromptWideHiddenVariant := {}

inductive PrefillProjectionRole
  | gateUp
  | down
  deriving DecidableEq, Repr

structure PrefillProjectionShapeRequirement where
  role : PrefillProjectionRole := .gateUp
  maximumM : ℕ := 0
  n : ℕ := 0
  k : ℕ := 0
  logicalMatrixCount : ℕ := 0
  tacticBound : Bool := false
  deriving DecidableEq

inductive PrefillScratchFamily
  | gdnProjectionAndRecurrentCore
  | fullAttentionProjectionAndCore
  | mlpGateUpAndDown
  deriving DecidableEq, Repr

inductive PrefillScratchProducer
  | gdnInProjQkvzAndInProjBa
  | fullAttentionQkvGateProjection
  | mlpMergedGateUpProjection
  deriving DecidableEq, Repr

inductive PrefillScratchLastConsumer
  | gdnRecurrentUpdateNormAndOutputProjection
  | fullAttentionCoreGateAndOutputProjection
  | mlpSiluGateAndDownProjection
  deriving DecidableEq, Repr

structure PrefillOperatorFamilyLiveSet where
  family : PrefillScratchFamily := .gdnProjectionAndRecurrentCore
  producer : PrefillScratchProducer := .gdnInProjQkvzAndInProjBa
  lastConsumer : PrefillScratchLastConsumer := .gdnRecurrentUpdateNormAndOutputProjection
  aggregate : PrefillMemoryRequirement := {}

inductive PrefillWorkspaceBackingIdentity
  | none
  | c8192SequentialFamilyPhaseArena
  | c8192DisjointFamilyPhaseArenas
  | operatorArenaPromptTokenPrefix
  | c8192GdnNativeArena
  | legacyC512GdnNativeArena
  | mutuallyExclusiveC8192LegacyGdnNativeArena
  | disjointC8192LegacyGdnNativeArenas
  deriving DecidableEq, Repr

inductive PrefillWorkspacePhaseOwnership
  | none
  | c8192ProjectionFamilies
  | promptTokenIdsBeforeOperatorFamilies
  | c8192GdnRecurrentPhase
  | legacyC512GdnRoute
  | mutuallyExclusiveC8192LegacyGdnRoutes
  | disjointC8192LegacyGdnRoutes
  deriving DecidableEq, Repr

structure PrefillWorkspaceBackingContract where
  identity : PrefillWorkspaceBackingIdentity := .none
  phaseOwnership : PrefillWorkspacePhaseOwnership := .none
  bytesPerInstance : ℕ := 0
  minimumInstanceCount : ℕ := 0
  capacityIncludedInVariantTotal : Bool := false
  subrangeBindingRequired : Bool := false
  deriving DecidableEq

-- The contracts a scratch variant asks for before its aliases are legal.
structure VariantContracts where
  legacyRouteExclusion : Bool := false
  familyCompletionEvents : Bool := false
  routeMutualExclusionEvent : Bool := false
  intraFamilyPhaseContract : Bool := false
  promptTokenIdsConsumedEvent : Bool := false
  deriving DecidableEq

structure VariantBackingRequirements where
  promptTokenIds : PrefillWorkspaceBackingContract := {}
  projection : PrefillWorkspaceBackingContract := {}
  gdnNative : PrefillWorkspaceBackingContract := {}
  deriving DecidableEq

structure PrefillOperatorScratchVariant where
  strategy : PrefillOperatorScratchStrategy := .unselected
  aggregate : PrefillMemoryRequirement := {}
  totalRequiredBytes : ℕ := 0
  requires : VariantContracts := {}
  backings : VariantBackingRequirements := {}
  deriving DecidableEq

structure PrefillOperatorScratchMemoryPlan where
  c8192PanelCapacityTokens : ℕ := 0
  legacyC512PanelCapacityTokens : ℕ := 0
  mlpCapacityTokens : ℕ := 0
  gdnTactic : PrefillGdnPhysicalTactic := .unselected
  legacyGdnTactic : PrefillLegacyGdnPhysicalTactic := .unselected
  mlpTactic : PrefillMlpPhysicalTactic := .unselected
  gdnProjectionPhase : PrefillMemoryRequirement := {}
  promptTokenIdsU32 : PrefillMemoryRequirement := {}
  gdnRecurrentPhase : PrefillMemoryRequirement := {}
  gdnC64NativeWorkspace : PrefillMemoryRequirement := {}
  gdnTokenParallelC512ConvOutput : Option PrefillMemoryRequirement := none
  fullAttentionPreprocessPhase : PrefillMemoryRequirement := {}
  mlpGateUpDownPhase : PrefillMemoryRequirement := {}
  sharedProjectionReductionAndLocks : PrefillMemoryRequirement := {}
  gdnLiveSet : PrefillOperatorFamilyLiveSet := {}
  attentionLiveSet : PrefillOperatorFamilyLiveSet := {}
  mlpLiveSet : PrefillOperatorFamilyLiveSet := {}
  c8192FamilyOverlayConditional : PrefillOperatorScratchVariant := {}
  c8192DisjointFamilies : PrefillOperatorScratchVariant := {}
  legacyC512HiddenBf16 : PrefillMemoryRequirement := {}
  legacyC512ProjectionBf16 : PrefillMemoryRequirement := {}
  legacyC512LinearScalarBf16 : PrefillMemoryRequirement := {}
  legacyC512Fp32Scratch : PrefillMemoryRequirement := {}
  legacyC512GdnNativeWorkspace : Option PrefillMemoryRequirement := none
  legacyC512Only : PrefillOperatorScratchVariant := {}
  mutuallyExclusiveOverlay : PrefillOperatorScratchVariant := {}
  c8192FamilyOverlayWithDisjointLegacyC512 : PrefillOperatorScratchVariant := {}
  disjointConservative : PrefillOperatorScratchVariant := {}
  selected : PrefillOperatorScratchVariant := {}
  gateUp : PrefillProjectionShapeRequirement := {}
  down : PrefillProjectionShapeRequirement := {}

structure PrefillArenaCapacityProfile where
  hiddenStrategy : PrefillHiddenStrategy := .unselected
  scratchStrategy : PrefillOperatorScratchStrategy := .unselected
  requiredBytes : ℕ := 0
  capacity : PrefillMemoryCapacityVerdict := .indeterminate
  requiresUnboundAliasOrRouteContract : Bool := false
  deriving DecidableEq

structure PrefillEngineAssetMemoryRequirement where
  owner : PrefillMemoryOwner := .engineResidentModel
  lifetime : PrefillMemoryLifetime := .engine
  requiredBytes : Option ℕ := none
  authenticated : Bool := false
  residencyBound : Bool := false
  deriving DecidableEq

structure LayerMajorPrefillWorkspaceOptions where
  sequenceCapacityTokens : ℕ := 0
  requestArenaLimitBytes : ℕ := maximumRequestArenaBytes
  hiddenStrategy : PrefillHiddenStrategy := .unselected
  scratchStrategy : PrefillOperatorScratchStrategy := .unselected
  gdnTactic : PrefillGdnPhysicalTactic := .unselected
  legacyGdnTactic : PrefillLegacyGdnPhysicalTactic := .unselected
  mlpTactic : PrefillMlpPhysicalTactic := .unselected

structure LayerMajorPrefillWorkspacePlan where
  sequenceCapacityTokens : ℕ := 0
  operatorPanelCapacityTokens : ℕ := operatorPanelTokens
  requestArenaLimitBytes : ℕ := 0
  persistentState : PrefillPersistentStateMemoryPlan := {}
  positionState : PrefillPositionMemoryPlan := {}
  finalHiddenHandoffBf16 : PrefillMemoryRequirement := {}
  promptWideHidden : PrefillPromptWideHiddenMemoryPlan := {}
  operatorScratch : PrefillOperatorScratchMemoryPlan := {}
  requestArenaOwner : PrefillMemoryOwner := .requestStateArena
  minimumConditional : PrefillArenaCapacityProfile := {}
  selected : PrefillArenaCapacityProfile := {}
  conservative : PrefillArenaCapacityProfile := {}
  residentModel : PrefillEngineAssetMemoryRequirement := {}
  derivedSidecars : PrefillEngineAssetMemoryRequirement := {}
  wholeProcessRequiredBytes : Option ℕ := none
  wholeProcessCapacity : PrefillMemoryCapacityVerdict := .indeterminate
  requestArenaReservationBound : Bool := false
  operatorBindingsComplete : Bool := false

def LayerMajorPrefillWorkspacePlan.executable (plan : LayerMajorPrefillWorkspacePlan) : Bool :=
  plan.requestArenaReservationBound && plan.operatorBindingsComplete &&
    !plan.selected.requiresUnboundAliasOrRouteContract &&
    plan.wholeProcessRequiredBytes.isSome &&
    decide (plan.wholeProcessCapacity = .fitsDeclaredLimit)

end Qwen3xOrin.Request
