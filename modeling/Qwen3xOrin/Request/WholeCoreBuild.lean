import Qwen3xOrin.Request.LayerMajorBuild

/-! The whole-core layout of a layer-major request: its workspace ledger and its memory plan. -/

namespace Qwen3xOrin.Request

open Io Library
open Prefill (BuildConfig wholeCoreCompiledSequenceCapacity wholeCoreCompiledPromptStorageTokens
  fullLayerCount)

section Geometry

variable (cfg : BuildConfig)

def wholeCorePanelTokens : ℕ := 8000

def wholeCorePanelCount : ℕ := (wholeCoreCompiledPromptStorageTokens cfg + 7999) / 8000

def wholeCoreConvOffset : ℕ := 20480 * wholeCoreCompiledPromptStorageTokens cfg
def wholeCoreZOffset : ℕ := 2 * wholeCoreConvOffset cfg
def wholeCoreAOffset : ℕ := wholeCoreZOffset cfg + 12288 * wholeCoreCompiledPromptStorageTokens cfg
def wholeCoreBOffset : ℕ := wholeCoreAOffset cfg + 96 * wholeCoreCompiledPromptStorageTokens cfg
def wholeCoreGdnOffset : ℕ := wholeCoreBOffset cfg + 96 * wholeCoreCompiledPromptStorageTokens cfg
def wholeCoreGdnBytes : ℕ := 70016 * wholeCoreCompiledPromptStorageTokens cfg
def wholeCoreOutputOffset : ℕ := wholeCoreGdnOffset cfg + wholeCoreGdnBytes cfg
def wholeCoreFamilyBytes : ℕ :=
  wholeCoreOutputOffset cfg + 12288 * wholeCoreCompiledPromptStorageTokens cfg
def wholeCoreProcessedQOffset : ℕ := 24576 * wholeCoreCompiledPromptStorageTokens cfg
def wholeCoreGateOffset : ℕ := 36864 * wholeCoreCompiledPromptStorageTokens cfg
def wholeCoreAttentionBranchOffset : ℕ := 12288 * wholeCoreCompiledPromptStorageTokens cfg
def wholeCorePersistentBytes : ℕ := 78446592 + 65536 * wholeCoreCompiledSequenceCapacity cfg
def wholeCoreResidualBytes : ℕ := 10240 * wholeCoreCompiledSequenceCapacity cfg
def wholeCoreLegacyBytes : ℕ :=
  87130112 + (96 * wholeCoreCompiledSequenceCapacity cfg + 255) / 256 * 256
def wholeCoreRopeBytes : ℕ := 256 * wholeCoreCompiledSequenceCapacity cfg
def wholeCoreArenaBytes : ℕ :=
  wholeCorePersistentBytes cfg + wholeCoreResidualBytes cfg + wholeCoreFamilyBytes cfg +
    wholeCoreLegacyBytes cfg + 10240 + wholeCoreRopeBytes cfg

def marlinParityMergedGateUpFeatures : ℕ := 34816
def marlinParityActivatedOffset : ℕ := 69632 * wholeCoreCompiledPromptStorageTokens cfg
def marlinParityActivatedBytes : ℕ := 34816 * wholeCoreCompiledPromptStorageTokens cfg
def marlinParityTemporaryOffset : ℕ :=
  marlinParityActivatedOffset cfg + marlinParityActivatedBytes cfg
def marlinParityNormalizedOffset : ℕ := wholeCoreOutputOffset cfg
def marlinParityNormalizedBytes : ℕ := 10240 * wholeCoreCompiledPromptStorageTokens cfg

end Geometry

section Workspace

structure WholeCoreFamilyRegion where
  memory : PrefillMemoryRequirement := {}
  familyRelativeOffset : ℕ := 0

structure WholeCoreWorkspaceOptions where
  promptTokenCount : ℕ
  requestSequenceCapacityTokens : ℕ
  logicalPanelCapacityTokens : ℕ
  requestArenaLimitBytes : ℕ

structure WholeCoreWorkspacePlan where
  promptTokenCount : ℕ := 0
  requestSequenceCapacityTokens : ℕ := 0
  logicalPanelCapacityTokens : ℕ := 0
  logicalPanelCount : ℕ := 0
  persistentAndKv : PrefillMemoryRequirement := {}
  promptResidualBf16 : PrefillMemoryRequirement := {}
  wholeCoreFamilyArena : PrefillMemoryRequirement := {}
  linearRawQkvBf16 : WholeCoreFamilyRegion := {}
  linearConvQkvBf16 : WholeCoreFamilyRegion := {}
  linearZBf16 : WholeCoreFamilyRegion := {}
  linearABf16 : WholeCoreFamilyRegion := {}
  linearBBf16 : WholeCoreFamilyRegion := {}
  linearPromptWideWorkspace : WholeCoreFamilyRegion := {}
  linearOutputBf16 : WholeCoreFamilyRegion := {}
  promptTokenIdsU32 : WholeCoreFamilyRegion := {}
  legacyC512Workspace : PrefillMemoryRequirement := {}
  finalHiddenHandoffBf16 : PrefillMemoryRequirement := {}
  ropeCosSinFp32 : PrefillMemoryRequirement := {}
  requiredBytes : ℕ := 0
  requestArenaLimitBytes : ℕ := 0
  capacity : PrefillMemoryCapacityVerdict := .indeterminate
  requestArenaReservationBound : Bool := false
  lifetimeAliasContractsBound : Bool := false
  operatorBindingsComplete : Bool := false

def WholeCoreWorkspacePlan.executable (plan : WholeCoreWorkspacePlan) : Bool :=
  plan.requestArenaReservationBound && plan.lifetimeAliasContractsBound &&
    plan.operatorBindingsComplete && decide (plan.capacity = .fitsDeclaredLimit)

def appendFamily (elements elementSize cursor : ℕ) : Option (WholeCoreFamilyRegion × ℕ) := do
  let memory ← makeTypedRequirement elements elementSize .requestPrefill .disjoint
  let stop ← checkedAdd cursor memory.requiredBytes
  pure (⟨memory, cursor⟩, stop)

def wholeCorePersistent (capacity : ℕ) : Option PrefillMemoryRequirement := do
  let elements ← checkedMultiply capacity kvHeadCount
  let elements ← checkedMultiply elements headDimension
  let bytes ← checkedMultiply elements bf16Bytes
  let bytes ← checkedMultiply bytes (2 * fullLayerCount)
  let state ← checkedAdd requestConvStateBytes requestGdnStateBytes
  let total ← checkedAdd state bytes
  makeRawRequirement total .requestThroughDecode .disjoint

def wholeCoreFamily (cfg : BuildConfig) (tokens : ℕ) (plan : WholeCoreWorkspacePlan) :
    Option WholeCoreWorkspacePlan := do
  let raw ← checkedMultiply tokens convChannels
  let z ← checkedMultiply tokens 6144
  let scalars ← checkedMultiply tokens linearScalarElements
  let output ← checkedMultiply tokens 6144
  let (rawQkv, cursor) ← appendFamily raw bf16Bytes 0
  let (convQkv, cursor) ← appendFamily raw bf16Bytes cursor
  let (linearZ, cursor) ← appendFamily z bf16Bytes cursor
  let (linearA, cursor) ← appendFamily scalars bf16Bytes cursor
  let (linearB, cursor) ← appendFamily scalars bf16Bytes cursor
  let (workspace, cursor) ← appendFamily (wholeCoreGdnBytes cfg) 1 cursor
  let (linearOutput, cursor) ← appendFamily output bf16Bytes cursor
  let family ← makeRawRequirement cursor .requestPrefill .sequentialFamilyLiveSetOverlay
  let tokenIds ← checkedMultiply tokens 1
  let tokenMemory ← makeTypedRequirement tokenIds u32Bytes .requestPrefill
    .promptTokenIdsConsumedBeforeOperatorScratchReuse
  pure { plan with
    wholeCoreFamilyArena := family
    linearRawQkvBf16 := rawQkv
    linearConvQkvBf16 := convQkv
    linearZBf16 := linearZ
    linearABf16 := linearA
    linearBBf16 := linearB
    linearPromptWideWorkspace := workspace
    linearOutputBf16 := linearOutput
    promptTokenIdsU32 := ⟨tokenMemory, workspace.familyRelativeOffset⟩ }

def wholeCoreLegacy (config : ModelConfig) (capacity : ℕ) : Option PrefillMemoryRequirement := do
  let hidden ← checkedMultiply (3 * maximumRequestPrefillChunkSize) config.hiddenSize
  let projection ← checkedMultiply (4 * maximumRequestPrefillChunkSize) config.intermediateSize
  let scalars ← checkedMultiply (2 * maximumRequestPrefillChunkSize) linearScalarElements
  let probability ← checkedMultiply capacity queryHeadCount
  let bytes ← checkedSum [wrap (hidden * bf16Bytes), wrap (projection * bf16Bytes),
    wrap (scalars * bf16Bytes), wrap (probability * fp32Bytes)]
  makeRawRequirement bytes .requestPrefill .disjoint

def assembleWholeCoreWorkspace (cfg : BuildConfig) (config : ModelConfig) (limit : ℕ) :
    Option WholeCoreWorkspacePlan := do
  let tokens := wholeCoreCompiledPromptStorageTokens cfg
  let capacityTokens := wholeCoreCompiledSequenceCapacity cfg
  let persistent ← wholeCorePersistent capacityTokens
  let residualElements ← checkedMultiply capacityTokens config.hiddenSize
  let residual ← makeTypedRequirement residualElements bf16Bytes .requestPrefill .disjoint
  let plan ← wholeCoreFamily cfg tokens
    { promptTokenCount := tokens
      requestSequenceCapacityTokens := capacityTokens
      logicalPanelCapacityTokens := wholeCorePanelTokens
      logicalPanelCount := wholeCorePanelCount cfg
      requestArenaLimitBytes := limit
      persistentAndKv := persistent
      promptResidualBf16 := residual }
  let legacy ← wholeCoreLegacy config capacityTokens
  let finalHidden ← makeTypedRequirement config.hiddenSize bf16Bytes .requestPrefill .disjoint
  let ropeElements ← checkedMultiply capacityTokens 64
  let rope ← makeTypedRequirement ropeElements fp32Bytes .requestThroughDecode .disjoint
  let required ← checkedSum [persistent.requiredBytes, residual.requiredBytes,
    plan.wholeCoreFamilyArena.requiredBytes, legacy.requiredBytes, finalHidden.requiredBytes,
    rope.requiredBytes]
  pure { plan with
    legacyC512Workspace := legacy
    finalHiddenHandoffBf16 := finalHidden
    ropeCosSinFp32 := rope
    requiredBytes := required }

-- The ledger the plan has to reproduce, byte for byte.
def wholeCoreLedger (cfg : BuildConfig) (plan : WholeCoreWorkspacePlan) : Option Unit := do
  let tokenIdsEnd ← checkedAdd plan.promptTokenIdsU32.familyRelativeOffset
    plan.promptTokenIdsU32.memory.requiredBytes
  let workspaceEnd ← checkedAdd plan.linearPromptWideWorkspace.familyRelativeOffset
    plan.linearPromptWideWorkspace.memory.requiredBytes
  guard (tokenIdsEnd ≤ workspaceEnd ∧ plan.promptTokenIdsU32.familyRelativeOffset ≠ 0 ∧
    plan.linearRawQkvBf16.familyRelativeOffset = 0 ∧
    plan.linearConvQkvBf16.familyRelativeOffset = wholeCoreConvOffset cfg ∧
    plan.linearZBf16.familyRelativeOffset = wholeCoreZOffset cfg ∧
    plan.linearABf16.familyRelativeOffset = wholeCoreAOffset cfg ∧
    plan.linearBBf16.familyRelativeOffset = wholeCoreBOffset cfg ∧
    plan.linearPromptWideWorkspace.familyRelativeOffset = wholeCoreGdnOffset cfg ∧
    plan.linearOutputBf16.familyRelativeOffset = wholeCoreOutputOffset cfg ∧
    plan.wholeCoreFamilyArena.requiredBytes = wholeCoreFamilyBytes cfg ∧
    plan.persistentAndKv.requiredBytes = wholeCorePersistentBytes cfg ∧
    plan.promptResidualBf16.requiredBytes = wholeCoreResidualBytes cfg ∧
    plan.legacyC512Workspace.requiredBytes = wholeCoreLegacyBytes cfg ∧
    plan.finalHiddenHandoffBf16.requiredBytes = 10240 ∧
    plan.ropeCosSinFp32.requiredBytes = wholeCoreRopeBytes cfg ∧
    plan.requiredBytes = wholeCoreArenaBytes cfg ∧ plan.executable = false)

def buildUnboundWholeCoreWorkspacePlan (cfg : BuildConfig) (options : WholeCoreWorkspaceOptions) :
    Except PrefillWorkspacePlanError WholeCoreWorkspacePlan :=
  if options.promptTokenCount ≠ wholeCoreCompiledPromptStorageTokens cfg ∨
      options.requestSequenceCapacityTokens ≠ wholeCoreCompiledSequenceCapacity cfg ∨
      options.logicalPanelCapacityTokens ≠ wholeCorePanelTokens ∨
      options.requestArenaLimitBytes = 0 ∨
      maximumRequestArenaBytes < options.requestArenaLimitBytes then
    .error .invalidArgument
  else
    match findKnownModel .qwen36Dense27B with
    | none => .error .modelContractMismatch
    | some config =>
      if ¬validLayerMajorModelContract config ∨ config.hiddenSize ≠ 5120 ∨
          config.intermediateSize ≠ 17408 ∨
          (options.promptTokenCount + options.logicalPanelCapacityTokens - 1) /
            options.logicalPanelCapacityTokens ≠ wholeCorePanelCount cfg then
        .error .modelContractMismatch
      else
        match assembleWholeCoreWorkspace cfg config options.requestArenaLimitBytes with
        | none => .error .arithmeticOverflow
        | some plan =>
          match wholeCoreLedger cfg plan with
          | none => .error .invalidLayout
          | some _ =>
            .ok { plan with capacity := capacity plan.requiredBytes plan.requestArenaLimitBytes }

end Workspace

section Regions

variable (cfg : BuildConfig) (family : RequestRegion)

def wholeCoreMatrix (relativeOffset columns : ℕ) : Option RequestMatrixRegion :=
  familyMatrix family relativeOffset (wholeCoreCompiledPromptStorageTokens cfg) columns

def buildWholeCoreLinear (workspaceBytes : ℕ) :
    Option (RequestMatrixRegion × LayerMajorP40WholeCoreLinearPhaseRegions) := do
  let tokenIds ← makeMatrixSubregionChecked family (wholeCoreGdnOffset cfg)
    (wholeCoreCompiledPromptStorageTokens cfg) 1 1 u32Bytes
  let rawQkv ← wholeCoreMatrix cfg family 0 10240
  let convQkv ← wholeCoreMatrix cfg family (wholeCoreConvOffset cfg) 10240
  let z ← wholeCoreMatrix cfg family (wholeCoreZOffset cfg) 6144
  let a ← wholeCoreMatrix cfg family (wholeCoreAOffset cfg) 48
  let b ← wholeCoreMatrix cfg family (wholeCoreBOffset cfg) 48
  let workspace ← makeByteSubregionChecked family (wholeCoreGdnOffset cfg) workspaceBytes
  let output ← wholeCoreMatrix cfg family (wholeCoreOutputOffset cfg) 6144
  let normalizedInput ← wholeCoreMatrix cfg family (wholeCoreOutputOffset cfg) 5120
  let branchOutput ← wholeCoreMatrix cfg family 0 5120
  pure (tokenIds, ⟨rawQkv, convQkv, z, a, b, workspace, output, normalizedInput, branchOutput⟩)

def buildWholeCoreFullAttention : Option LayerMajorP40WholeCoreFullAttentionPhaseRegions := do
  let rawQGate ← wholeCoreMatrix cfg family 0 12288
  let processedQ ← wholeCoreMatrix cfg family (wholeCoreProcessedQOffset cfg) 6144
  let packedGate ← wholeCoreMatrix cfg family (wholeCoreGateOffset cfg) 6144
  let normalizedInput ← wholeCoreMatrix cfg family (wholeCoreOutputOffset cfg) 5120
  let coreOutput ← wholeCoreMatrix cfg family 0 6144
  let branchOutput ← wholeCoreMatrix cfg family (wholeCoreAttentionBranchOffset cfg) 5120
  pure ⟨rawQGate, processedQ, packedGate, normalizedInput, coreOutput, branchOutput⟩

def wholeCoreMlpOffsets (marlinParity : Bool) : MlpOffsets :=
  if marlinParity then
    { activated := marlinParityActivatedOffset cfg
      normalized := marlinParityNormalizedOffset cfg
      branch := marlinParityNormalizedOffset cfg
      gateUpTemporary := marlinParityTemporaryOffset cfg
      downTemporary := marlinParityTemporaryOffset cfg }
  else
    { normalized := wholeCoreOutputOffset cfg
      gateUpTemporary := wholeCoreGdnOffset cfg
      branch := wholeCoreOutputOffset cfg }

def buildMarlinParityMlpRegions (rows : ℕ) (offsets : MlpOffsets) :
    Option LayerMajorMlpPhaseRegions := do
  let merged ← familyMatrix family 0 rows marlinParityMergedGateUpFeatures
  let activated ← familyMatrix family offsets.activated rows 17408
  let normalizedInput ← familyMatrix family offsets.normalized rows 5120
  let branchOutput ← familyMatrix family offsets.branch rows 5120
  let gateUpTemporary ← makeByteSubregionChecked family offsets.gateUpTemporary
    projectionTemporaryBytes
  let downTemporary ← makeByteSubregionChecked family offsets.downTemporary
    projectionTemporaryBytes
  pure ⟨merged, {}, {}, activated, normalizedInput, gateUpTemporary, branchOutput, downTemporary⟩

structure WholeCorePhaseLayout where
  residual : RequestMatrixRegion
  family : RequestRegion
  tokenIds : RequestMatrixRegion
  linear : LayerMajorP40WholeCoreLinearPhaseRegions
  fullAttention : LayerMajorP40WholeCoreFullAttentionPhaseRegions
  mlp : LayerMajorMlpPhaseRegions
  cursor : ℕ

open PlanBuilder in
def buildWholeCorePhases (marlinParity : Bool) (sequence familyBytes workspaceBytes start : ℕ) :
    Except RequestDiagnostic WholeCorePhaseLayout := do
  let (owners, cursor) ← orFail .arithmeticOverflow
    "layer-major prompt residual or family arena overflows uint64" "layer_major_workspace" do
      let (residual, cursor) ← addMatrix sequence hiddenElements hiddenElements bf16Bytes start
      let (family, cursor) ← add familyBytes 1 cursor
      pure ((residual, family), cursor)
  let family := owners.2
  let (tokenIds, linear) ← orFail .invalidLayerSchedule
    "fixed linear whole-core phase views exceed the P40 family arena"
    "p40_whole_core_linear_phase_layout" (buildWholeCoreLinear cfg family workspaceBytes)
  let fullAttention ← orFail .invalidLayerSchedule
    "fixed full-Attention whole-core views exceed the P40 family arena"
    "p40_whole_core_full_attention_phase_layout" (buildWholeCoreFullAttention cfg family)
  let rows := wholeCoreCompiledPromptStorageTokens cfg
  let offsets := wholeCoreMlpOffsets cfg marlinParity
  let mlp ← orFail .invalidLayerSchedule "fixed MLP phase views exceed the C8192 family arena"
    "mlp_phase_layout" (if marlinParity then buildMarlinParityMlpRegions family rows offsets
      else buildMlpRegions family rows offsets)
  pure ⟨owners.1, family, tokenIds, linear, fullAttention, mlp, cursor⟩

-- The two RoPE tables are the halves of one aligned allocation.
open PlanBuilder in
def buildWholeCoreTail (legacyShape : RequestMemoryPlan) (start : ℕ) :
    Except RequestDiagnostic TailLayout := do
  let (finalHidden, ropeOffset) ← orFail .arithmeticOverflow
    "final hidden handoff layout overflows uint64" "final_hidden" do
      let (finalHidden, cursor) ← addMatrix 1 hiddenElements hiddenElements bf16Bytes start
      let cursor ← align cursor
      pure (finalHidden, cursor)
  let elements := legacyShape.ropeCosFp32.elementCapacity
  let (rope, cursor) ← orFail .arithmeticOverflow "layer-major RoPE layout overflows uint64"
    "rope" do
      let combinedElements ← checkedMultiply elements 2
      let halfBytes ← checkedMultiply elements fp32Bytes
      let (combined, cursor) ← add combinedElements fp32Bytes ropeOffset
      let sinOffset ← checkedAdd combined.arenaOffset halfBytes
      let cursor ← align cursor
      pure (({ combined with byteSize := halfBytes, elementCapacity := elements },
        (⟨sinOffset, halfBytes, elements, fp32Bytes⟩ : RequestRegion)), cursor)
  pure ⟨finalHidden, ropeOffset, rope.1, rope.2, cursor⟩

end Regions

section Build

def selectWholeCoreWorkspace (cfg : BuildConfig) (options : LayerMajorRequestMemoryOptions) :
    Except RequestDiagnostic WholeCoreWorkspacePlan :=
  match buildUnboundWholeCoreWorkspacePlan cfg
      { promptTokenCount := wholeCoreCompiledPromptStorageTokens cfg
        requestSequenceCapacityTokens := options.maxSequenceLength
        logicalPanelCapacityTokens := wholeCorePanelTokens
        requestArenaLimitBytes := options.maxArenaBytes } with
  | .error error =>
    .error
      { code := .invalidOption
        message := "exact P40 whole-core workspace strategy was rejected by its planner"
        context := "prefill_workspace_plan"
        expected := "valid exact-P40000/P40001 whole-core strategy"
        actual := toString error.number }
  | .ok workspace =>
    if options.maxArenaBytes < workspace.requiredBytes then
      .error
        { code := .arenaLimitExceeded
          message := "layer-major request arena exceeds configured max_arena_bytes"
          context := "max_arena_bytes"
          expected := toString options.maxArenaBytes
          actual := toString workspace.requiredBytes }
    else .ok workspace

def checkWholeCoreMlp (cfg : BuildConfig) (marlinParity : Bool) : Except RequestDiagnostic Unit := do
  let (span, normalized) ← orFail .arithmeticOverflow
    "layer-major MLP layout arithmetic overflows uint64" "mlp_phase_layout"
    (mlpSpans (wholeCoreCompiledPromptStorageTokens cfg))
  if marlinParity ∧ (span ≠ marlinParityActivatedBytes cfg ∨
      normalized ≠ marlinParityNormalizedBytes cfg) then
    .error
      { code := .invalidLayerSchedule
        message := "P40 Marlin-parity MLP shape disagrees with its fixed ledger"
        context := "mlp_phase_layout" }
  else .ok ()

-- The scratch of this layout has no minimum: it is sized from the request capacity alone.
def wholeCoreLegacyShape (legacyShape : RequestMemoryPlan) (capacityTokens : ℕ) :
    RequestMemoryPlan :=
  let elements := wrap (capacityTokens * queryHeadCount)
  { legacyShape with
    fp32Scratch := { legacyShape.fp32Scratch with elementCapacity := elements }
    gqaProbabilityScratch :=
      { legacyShape.gqaProbabilityScratch with elementCapacity := elements } }

def wholeCoreScratchBytes (workspace : WholeCoreWorkspacePlan) : Except RequestDiagnostic ℕ :=
  orFail .arithmeticOverflow "P40 whole-core scratch total overflows uint64"
    "selected_operator_scratch"
    (checkedAdd workspace.wholeCoreFamilyArena.requiredBytes
      workspace.legacyC512Workspace.requiredBytes)

def buildWholeCorePlan (cfg : BuildConfig) (options : LayerMajorRequestMemoryOptions) :
    Except RequestDiagnostic LayerMajorRequestMemoryPlan := do
  let workspace ← selectWholeCoreWorkspace cfg options
  let legacyShape ← buildRequestMemoryPlan
    { batchSize := 1
      prefillChunkSize := maximumRequestPrefillChunkSize
      maxSequenceLength := options.maxSequenceLength
      maxArenaBytes := maximumRequestArenaBytes }
  let marlinParity := decide (options.mlpLayout = .layerWideP40MarlinParityMergedGateUp)
  checkWholeCoreMlp cfg marlinParity
  let familyBytes := workspace.wholeCoreFamilyArena.requiredBytes
  let persistent ← buildLayerMajorPersistent legacyShape
  let phases ← buildWholeCorePhases cfg marlinParity options.maxSequenceLength familyBytes
    workspace.linearPromptWideWorkspace.memory.requiredBytes persistent.cursor
  let legacy ← buildLegacyRegions
    (wholeCoreLegacyShape legacyShape workspace.requestSequenceCapacityTokens) phases.cursor
  let selectedScratchBytes := legacy.cursor - phases.family.arenaOffset
  let expectedScratchBytes ← wholeCoreScratchBytes workspace
  if phases.cursor ≠ wrap (phases.family.arenaOffset + familyBytes) ∨
      selectedScratchBytes ≠ expectedScratchBytes then
    .error (scratchDisagreement expectedScratchBytes selectedScratchBytes)
  else do
    let tail ← buildWholeCoreTail legacyShape legacy.cursor
    let common : RequestMemoryPlan :=
      { batchSize := 1
        prefillChunkSize := maximumRequestPrefillChunkSize
        maxSequenceLength := options.maxSequenceLength
        arenaBytes := tail.cursor
        persistentOffset := 0
        persistentBytes := persistent.cursor
        workspaceOffset := persistent.cursor
        workspaceBytes := tail.ropeOffset - persistent.cursor
        ropeOffset := tail.ropeOffset
        ropeBytes := tail.cursor - tail.ropeOffset
        convState := persistent.convState
        gdnState := persistent.gdnState
        keyCache := fun slot => (persistent.caches.getD slot ({}, {})).1
        valueCache := fun slot => (persistent.caches.getD slot ({}, {})).2
        hiddenBf16 := fun index => (legacy.regions.hiddenBf16 index).storage
        projectionBf16 := fun index => (legacy.regions.projectionBf16 index).storage
        linearABf16 := legacy.regions.linearABf16.storage
        linearBBf16 := legacy.regions.linearBBf16.storage
        fp32Scratch := legacy.regions.fp32Scratch
        gqaProbabilityScratch := legacy.regions.gqaProbabilityScratch
        ropeCosFp32 := tail.ropeCos
        ropeSinFp32 := tail.ropeSin
        layers := legacyShape.layers
        profile := .layerMajorP40WholeCore }
    let workspaceOptions := layerMajorWorkspaceOptions options
    let plan : LayerMajorRequestMemoryPlan :=
      { common := common
        layout := options.layout
        operatorPanelCapacityTokens := wholeCorePanelTokens
        mlpCapacityTokens := wholeCoreCompiledPromptStorageTokens cfg
        mlpLayout := options.mlpLayout
        promptResidualBf16 := phases.residual
        mlp := phases.mlp
        legacyC512 := legacy.regions
        p40WholeCore :=
          { promptTokenCount := wholeCoreCompiledPromptStorageTokens cfg
            requestCapacityTokens := wholeCoreCompiledSequenceCapacity cfg
            logicalPanelCapacityTokens := wholeCorePanelTokens
            logicalPanelCount := wholeCorePanelCount cfg
            familyPhaseArena := phases.family
            promptTokenIdsU32 := phases.tokenIds
            linear := phases.linear
            fullAttention := phases.fullAttention }
        finalHiddenBf16 := tail.finalHidden
        hiddenStrategy := workspaceOptions.hiddenStrategy
        scratchStrategy := .p40WholeCorePromptWideWithDisjointLegacyC512
        gdnTactic := .p40PromptWideChunkGraph
        legacyGdnTactic := workspaceOptions.legacyGdnTactic
        mlpTactic := workspaceOptions.mlpTactic }
    if common.persistentBytes ≠ workspace.persistentAndKv.requiredBytes ∨
        plan.promptResidualBf16.storage.byteSize ≠ workspace.promptResidualBf16.requiredBytes ∨
        plan.finalHiddenBf16.storage.byteSize ≠ workspace.finalHiddenHandoffBf16.requiredBytes ∨
        common.ropeBytes ≠ workspace.ropeCosSinFp32.requiredBytes ∨
        common.arenaBytes ≠ workspace.requiredBytes ∨
        options.maxArenaBytes < common.arenaBytes ∨ workspace.executable then
      .error (totalDisagreement workspace.requiredBytes common.arenaBytes)
    else .ok plan

end Build

end Qwen3xOrin.Request
