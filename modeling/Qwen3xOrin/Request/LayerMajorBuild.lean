import Qwen3xOrin.Request.LayerMajorPlan

/-! The builder of the layer-major memory plan. The whole-core layout of the P40 builds is left to
the caller: it shares no arithmetic with the family overlay. -/

namespace Qwen3xOrin.Request

open Io Library
open Prefill (BuildConfig promptWideP40RequestCapacityTokens)

def projectionTemporaryBytes : ℕ := 1048832
def gdnZOffset : ℕ := 167772160
def gdnAOffset : ℕ := 268435456
def gdnBOffset : ℕ := 269221888
def gdnCoreOffset : ℕ := 270008320
def gdnNativeWorkspaceOffset : ℕ := 370671616
def gdnProjectionTemporaryOffset : ℕ := 353894400
def outputProjectionTemporaryOffset : ℕ := 83886080
def attentionProcessedQOffset : ℕ := 201326592
def attentionPackedGateOffset : ℕ := 301989888
def attentionProjectionTemporaryOffset : ℕ := 285212672
def attentionBranchOutputOffset : ℕ := 100663296
def attentionOutputTemporaryOffset : ℕ := 184549376

section Phases

variable (family : RequestRegion)

def familyMatrix (relativeOffset rows columns : ℕ) : Option RequestMatrixRegion :=
  makeMatrixSubregionChecked family relativeOffset rows columns columns bf16Bytes

def buildPanelTokenIds : Option RequestMatrixRegion :=
  makeMatrixSubregionChecked family 0 layerMajorRequestOperatorPanelCapacity 1 1 4

def buildGdnRegions : Option LayerMajorGdnPhaseRegions := do
  let panel := layerMajorRequestOperatorPanelCapacity
  let qkv ← familyMatrix family 0 panel 10240
  let z ← familyMatrix family gdnZOffset panel 6144
  let a ← familyMatrix family gdnAOffset panel 48
  let b ← familyMatrix family gdnBOffset panel 48
  let recurrentCore ← familyMatrix family gdnCoreOffset panel 6144
  let native ← makeByteSubregionChecked family gdnNativeWorkspaceOffset gdnC64NativeWorkspaceBytes
  let normalizedInput ← familyMatrix family gdnCoreOffset panel 5120
  let inputTemporary ← makeByteSubregionChecked family gdnProjectionTemporaryOffset
    projectionTemporaryBytes
  let branchOutput ← familyMatrix family 0 panel 5120
  let outputTemporary ← makeByteSubregionChecked family outputProjectionTemporaryOffset
    projectionTemporaryBytes
  pure ⟨qkv, z, a, b, recurrentCore, native, normalizedInput, inputTemporary, branchOutput,
    outputTemporary⟩

def buildAttentionRegions : Option LayerMajorAttentionPhaseRegions := do
  let panel := layerMajorRequestOperatorPanelCapacity
  let rawQGate ← familyMatrix family 0 panel 12288
  let processedQ ← familyMatrix family attentionProcessedQOffset panel 6144
  let packedGate ← familyMatrix family attentionPackedGateOffset panel 6144
  let normalizedInput ← familyMatrix family attentionProcessedQOffset panel 5120
  let inputTemporary ← makeByteSubregionChecked family attentionProjectionTemporaryOffset
    projectionTemporaryBytes
  let coreOutput ← familyMatrix family 0 panel 6144
  let branchOutput ← familyMatrix family attentionBranchOutputOffset panel 5120
  let outputTemporary ← makeByteSubregionChecked family attentionOutputTemporaryOffset
    projectionTemporaryBytes
  pure ⟨rawQGate, processedQ, packedGate, normalizedInput, inputTemporary, coreOutput,
    branchOutput, outputTemporary⟩

structure MlpOffsets where
  up : ℕ := 0
  activated : ℕ := 0
  normalized : ℕ := 0
  gateUpTemporary : ℕ := 0
  branch : ℕ := 0
  downTemporary : ℕ := 0

def mlpSpans (rows : ℕ) : Option (ℕ × ℕ) := do
  let span ← checkedMultiply rows projectionElements
  let span ← checkedMultiply span bf16Bytes
  let normalized ← checkedMultiply rows hiddenElements
  let normalized ← checkedMultiply normalized bf16Bytes
  pure (span, normalized)

def panelLocalOffsets (span normalized : ℕ) : Option MlpOffsets := do
  let up ← checkedAdd 0 span
  let activated ← checkedAdd up span
  let gateUpTemporary ← checkedAdd activated normalized
  pure
    { up := up
      activated := activated
      normalized := activated
      gateUpTemporary := gateUpTemporary
      branch := up }

def layerWideOffsets (span : ℕ) : MlpOffsets where
  normalized := span
  branch := span

def buildMlpRegions (rows : ℕ) (offsets : MlpOffsets) : Option LayerMajorMlpPhaseRegions := do
  let gate ← familyMatrix family 0 rows 17408
  let up ← familyMatrix family offsets.up rows 17408
  let activated ← familyMatrix family offsets.activated rows 17408
  let normalizedInput ← familyMatrix family offsets.normalized rows 5120
  let gateUpTemporary ← makeByteSubregionChecked family offsets.gateUpTemporary
    projectionTemporaryBytes
  let branchOutput ← familyMatrix family offsets.branch rows 5120
  let downTemporary ← makeByteSubregionChecked family offsets.downTemporary
    projectionTemporaryBytes
  pure ⟨{}, gate, up, activated, normalizedInput, gateUpTemporary, branchOutput, downTemporary⟩

end Phases

section Legacy

open PlanBuilder

structure LegacyLayout where
  regions : LayerMajorLegacyC512Regions
  cursor : ℕ

def buildLegacyRegions (legacyShape : RequestMemoryPlan) (start : ℕ) :
    Except RequestDiagnostic LegacyLayout := do
  let (hidden, cursor) ← orFail .arithmeticOverflow "legacy hidden sublayout overflows uint64"
    "legacy_c512" (addMatrices maximumRequestPrefillChunkSize hiddenElements bf16Bytes
      requestHiddenBufferCount start)
  let (projection, cursor) ← orFail .arithmeticOverflow
    "legacy projection sublayout overflows uint64" "legacy_c512"
    (addMatrices maximumRequestPrefillChunkSize projectionElements bf16Bytes
      requestProjectionBufferCount cursor)
  let (linear, cursor) ← orFail .arithmeticOverflow
    "legacy linear scalar sublayout overflows uint64" "legacy_c512" do
      let (a, cursor) ← addMatrix maximumRequestPrefillChunkSize linearScalarElements
        linearScalarElements bf16Bytes cursor
      let (b, cursor) ← addMatrix maximumRequestPrefillChunkSize linearScalarElements
        linearScalarElements bf16Bytes cursor
      pure ((a, b), cursor)
  let (fp32Scratch, cursor) ← orFail .arithmeticOverflow "legacy FP32 sublayout overflows uint64"
    "legacy_c512" (add legacyShape.fp32Scratch.elementCapacity fp32Bytes cursor)
  let cursor ← orFail .arithmeticOverflow "legacy C512 sublayout alignment overflows uint64"
    "legacy_c512" (align cursor)
  let probability := legacyShape.gqaProbabilityScratch.elementCapacity
  pure
    { regions :=
        { hiddenBf16 := fun index => hidden.getD index {}
          projectionBf16 := fun index => projection.getD index {}
          linearABf16 := linear.1
          linearBBf16 := linear.2
          fp32Scratch := fp32Scratch
          gqaProbabilityScratch := { fp32Scratch with
            byteSize := wrap (probability * fp32Bytes)
            elementCapacity := probability } }
      cursor := cursor }

end Legacy

section Build

def invalidLayerMajorOptions (cfg : BuildConfig) (options : LayerMajorRequestMemoryOptions) : Bool :=
  let wholeCoreP40 := options.layout = .p40WholeCorePromptWide
  let marlinParity := options.mlpLayout = .layerWideP40MarlinParityMergedGateUp
  let layerWideP40Mlp := options.mlpLayout = .layerWideP40PersistentTwoSpan ∨ marlinParity
  options.batchSize ≠ 1 ∨ options.maxSequenceLength = 0 ∨
    absoluteRequestMaxSequenceLength < options.maxSequenceLength ∨ options.maxArenaBytes = 0 ∨
    maximumConfigurableArenaBytes < options.maxArenaBytes ∨ (marlinParity ∧ ¬wholeCoreP40) ∨
    (marlinParity ∧ ¬cfg.promptWideP40VllmMarlinParity) ∨
    (layerWideP40Mlp ∧ (¬cfg.layerWideP40Mlp ∨
      options.maxSequenceLength ≠ promptWideP40RequestCapacityTokens cfg)) ∨
    (wholeCoreP40 ∧ (¬cfg.promptWideP40WholeCore ∨ ¬layerWideP40Mlp))

def layerMajorMlpTactic : LayerMajorRequestMlpLayout → PrefillMlpPhysicalTactic
  | .panelLocalThreeSpan => .separateGateUpAndSilu
  | .layerWideP40PersistentTwoSpan => .layerWideP40PersistentFusedGateUp
  | .layerWideP40MarlinParityMergedGateUp => .layerWideP40MarlinParityMergedGateUp

def layerMajorWorkspaceOptions (options : LayerMajorRequestMemoryOptions) :
    LayerMajorPrefillWorkspaceOptions where
  sequenceCapacityTokens := options.maxSequenceLength
  requestArenaLimitBytes := options.maxArenaBytes
  hiddenStrategy := .singlePromptWideConditional
  scratchStrategy := .c8192FamilyOverlayWithDisjointLegacyC512
  gdnTactic := .c64NativeInPlaceConv
  legacyGdnTactic := .c16Composite
  mlpTactic := layerMajorMlpTactic options.mlpLayout

def PrefillWorkspacePlanError.number : PrefillWorkspacePlanError → ℕ
  | .none => 0
  | .invalidArgument => 1
  | .arithmeticOverflow => 2
  | .capacityExceeded => 3
  | .modelContractMismatch => 4
  | .invalidLayout => 5

def selectWorkspace (cfg : BuildConfig) (options : LayerMajorRequestMemoryOptions) :
    Except RequestDiagnostic LayerMajorPrefillWorkspacePlan :=
  match buildUnboundLayerMajorPrefillWorkspacePlan cfg (layerMajorWorkspaceOptions options) with
  | .error error =>
    .error
      { code := .invalidOption
        message := "fixed layer-major workspace strategy was rejected by its planner"
        context := "prefill_workspace_plan"
        expected := "valid fixed strategy"
        actual := toString error.number }
  | .ok workspace =>
    if options.maxArenaBytes < workspace.selected.requiredBytes then
      .error
        { code := .arenaLimitExceeded
          message := "layer-major request arena exceeds configured max_arena_bytes"
          context := "max_arena_bytes"
          expected := toString options.maxArenaBytes
          actual := toString workspace.selected.requiredBytes }
    else .ok workspace

def layerMajorMlpOffsets (mlpLayout : LayerMajorRequestMlpLayout) (rows : ℕ) :
    Except RequestDiagnostic MlpOffsets := do
  let (span, normalized) ← orFail .arithmeticOverflow
    "layer-major MLP layout arithmetic overflows uint64" "mlp_phase_layout" (mlpSpans rows)
  match mlpLayout with
  | .panelLocalThreeSpan =>
    orFail .arithmeticOverflow "panel-local MLP layout arithmetic overflows uint64"
      "mlp_phase_layout" (panelLocalOffsets span normalized)
  | _ => .ok (layerWideOffsets span)

structure PersistentLayout where
  convState : RequestRegion
  gdnState : RequestRegion
  caches : List (RequestRegion × RequestRegion)
  cursor : ℕ

open PlanBuilder in
def buildLayerMajorPersistent (legacyShape : RequestMemoryPlan) :
    Except RequestDiagnostic PersistentLayout := do
  let (state, cursor) ← orFail .arithmeticOverflow
    "layer-major persistent state layout overflows uint64" "persistent" do
      let (convState, cursor) ← add legacyShape.convState.elementCapacity
        legacyShape.convState.elementSizeBytes 0
      let (gdnState, cursor) ← add legacyShape.gdnState.elementCapacity
        legacyShape.gdnState.elementSizeBytes cursor
      pure ((convState, gdnState), cursor)
  let (caches, cursor) ← orFail .arithmeticOverflow "layer-major KV cache layout overflows uint64"
    "kv_cache" (addCachesOf ((List.finRange requestFullLayerCount).map fun slot =>
      (legacyShape.keyCache slot, legacyShape.valueCache slot)) cursor)
  let cursor ← orFail .arithmeticOverflow "layer-major persistent alignment overflows uint64"
    "persistent" (align cursor)
  pure ⟨state.1, state.2, caches, cursor⟩

structure PhaseLayout where
  residual : RequestMatrixRegion
  family : RequestRegion
  panelTokenIds : RequestMatrixRegion
  gdn : LayerMajorGdnPhaseRegions
  attention : LayerMajorAttentionPhaseRegions
  mlp : LayerMajorMlpPhaseRegions
  cursor : ℕ

open PlanBuilder in
def buildPhases (sequence familyBytes mlpRows : ℕ) (offsets : MlpOffsets) (start : ℕ) :
    Except RequestDiagnostic PhaseLayout := do
  let (owners, cursor) ← orFail .arithmeticOverflow
    "layer-major prompt residual or family arena overflows uint64" "layer_major_workspace" do
      let (residual, cursor) ← addMatrix sequence hiddenElements hiddenElements bf16Bytes start
      let (family, cursor) ← add familyBytes 1 cursor
      pure ((residual, family), cursor)
  let family := owners.2
  let (panelTokenIds, gdn) ← orFail .invalidLayerSchedule
    "fixed GDN phase views exceed the C8192 family arena" "gdn_phase_layout" do
      let panelTokenIds ← buildPanelTokenIds family
      let gdn ← buildGdnRegions family
      pure (panelTokenIds, gdn)
  let attention ← orFail .invalidLayerSchedule
    "fixed Attention phase views exceed the C8192 family arena" "attention_phase_layout"
    (buildAttentionRegions family)
  let mlp ← orFail .invalidLayerSchedule "fixed MLP phase views exceed the C8192 family arena"
    "mlp_phase_layout" (buildMlpRegions family mlpRows offsets)
  pure ⟨owners.1, family, panelTokenIds, gdn, attention, mlp, cursor⟩

structure TailLayout where
  finalHidden : RequestMatrixRegion
  ropeOffset : ℕ
  ropeCos : RequestRegion
  ropeSin : RequestRegion
  cursor : ℕ

open PlanBuilder in
def buildTail (legacyShape : RequestMemoryPlan) (start : ℕ) :
    Except RequestDiagnostic TailLayout := do
  let (finalHidden, ropeOffset) ← orFail .arithmeticOverflow
    "final hidden handoff layout overflows uint64" "final_hidden" do
      let (finalHidden, cursor) ← addMatrix 1 hiddenElements hiddenElements bf16Bytes start
      let cursor ← align cursor
      pure (finalHidden, cursor)
  let (rope, cursor) ← orFail .arithmeticOverflow "layer-major RoPE layout overflows uint64"
    "rope" do
      let (cos, cursor) ← add legacyShape.ropeCosFp32.elementCapacity fp32Bytes ropeOffset
      let (sin, cursor) ← add legacyShape.ropeSinFp32.elementCapacity fp32Bytes cursor
      let cursor ← align cursor
      pure ((cos, sin), cursor)
  pure ⟨finalHidden, ropeOffset, rope.1, rope.2, cursor⟩

def scratchDisagreement (expected actual : ℕ) : RequestDiagnostic where
  code := .invalidLayerSchedule
  message := "RequestState scratch layout disagrees with workspace planner"
  context := "selected_operator_scratch"
  expected := toString expected
  actual := toString actual

def totalDisagreement (expected actual : ℕ) : RequestDiagnostic where
  code := .invalidLayerSchedule
  message := "RequestState total or fixed profile disagrees with workspace planner"
  context := "layer_major_total"
  expected := toString expected
  actual := toString actual

def buildFamilyOverlayPlan (cfg : BuildConfig) (options : LayerMajorRequestMemoryOptions) :
    Except RequestDiagnostic LayerMajorRequestMemoryPlan := do
  let workspace ← selectWorkspace cfg options
  let legacyShape ← buildRequestMemoryPlan
    { batchSize := 1
      prefillChunkSize := maximumRequestPrefillChunkSize
      maxSequenceLength := options.maxSequenceLength
      maxArenaBytes := maximumRequestArenaBytes }
  let scratch := workspace.operatorScratch
  let mlpRows := scratch.mlpCapacityTokens
  let familyBytes := scratch.c8192FamilyOverlayConditional.totalRequiredBytes
  let offsets ← layerMajorMlpOffsets options.mlpLayout mlpRows
  let persistent ← buildLayerMajorPersistent legacyShape
  let phases ← buildPhases options.maxSequenceLength familyBytes mlpRows offsets persistent.cursor
  let legacy ← buildLegacyRegions legacyShape phases.cursor
  let selectedScratchBytes := legacy.cursor - phases.family.arenaOffset
  if phases.cursor ≠ wrap (phases.family.arenaOffset + familyBytes) ∨
      selectedScratchBytes ≠ scratch.selected.totalRequiredBytes then
    .error (scratchDisagreement scratch.selected.totalRequiredBytes selectedScratchBytes)
  else do
    let tail ← buildTail legacyShape legacy.cursor
    let common : RequestMemoryPlan :=
      { batchSize := 1
        prefillChunkSize := maximumRequestPrefillChunkSize
        maxSequenceLength := options.maxSequenceLength
        arenaBytes := tail.cursor
        persistentOffset := 0
        persistentBytes := persistent.cursor
        workspaceOffset := persistent.cursor
        workspaceBytes := tail.ropeOffset - persistent.cursor
        ropeOffset := tail.ropeOffset
        ropeBytes := tail.cursor - tail.ropeOffset
        convState := persistent.convState
        gdnState := persistent.gdnState
        keyCache := fun slot => (persistent.caches.getD slot ({}, {})).1
        valueCache := fun slot => (persistent.caches.getD slot ({}, {})).2
        hiddenBf16 := fun index => (legacy.regions.hiddenBf16 index).storage
        projectionBf16 := fun index => (legacy.regions.projectionBf16 index).storage
        linearABf16 := legacy.regions.linearABf16.storage
        linearBBf16 := legacy.regions.linearBBf16.storage
        fp32Scratch := legacy.regions.fp32Scratch
        gqaProbabilityScratch := legacy.regions.gqaProbabilityScratch
        ropeCosFp32 := tail.ropeCos
        ropeSinFp32 := tail.ropeSin
        layers := legacyShape.layers
        profile := .layerMajorC8192 }
    let workspaceOptions := layerMajorWorkspaceOptions options
    let plan : LayerMajorRequestMemoryPlan :=
      { common := common
        layout := options.layout
        operatorPanelCapacityTokens := layerMajorRequestOperatorPanelCapacity
        mlpCapacityTokens := mlpRows
        mlpLayout := options.mlpLayout
        promptResidualBf16 := phases.residual
        c8192FamilyPhaseArena := phases.family
        panelTokenIdsU32 := phases.panelTokenIds
        gdn := phases.gdn
        attention := phases.attention
        mlp := phases.mlp
        legacyC512 := legacy.regions
        finalHiddenBf16 := tail.finalHidden
        hiddenStrategy := workspaceOptions.hiddenStrategy
        scratchStrategy := workspaceOptions.scratchStrategy
        gdnTactic := workspaceOptions.gdnTactic
        legacyGdnTactic := workspaceOptions.legacyGdnTactic
        mlpTactic := workspaceOptions.mlpTactic }
    if common.persistentBytes ≠ workspace.persistentState.totalRequiredBytes ∨
        plan.promptResidualBf16.storage.byteSize ≠
          workspace.promptWideHidden.selected.aggregateBf16.requiredBytes ∨
        plan.finalHiddenBf16.storage.byteSize ≠
          workspace.finalHiddenHandoffBf16.requiredBytes ∨
        common.ropeBytes ≠ workspace.positionState.totalRequiredBytes ∨
        common.arenaBytes ≠ workspace.selected.requiredBytes ∨
        options.maxArenaBytes < common.arenaBytes ∨ workspace.executable then
      .error (totalDisagreement workspace.selected.requiredBytes common.arenaBytes)
    else .ok plan

def buildLayerMajorRequestMemoryPlan (cfg : BuildConfig)
    (wholeCore : LayerMajorRequestMemoryOptions →
      Except RequestDiagnostic LayerMajorRequestMemoryPlan)
    (options : LayerMajorRequestMemoryOptions) :
    Except RequestDiagnostic LayerMajorRequestMemoryPlan :=
  if invalidLayerMajorOptions cfg options then
    .error
      { code := .invalidOption
        message :=
          "layer-major request options violate batch, explicit sequence, or arena limits"
        context := "options" }
  else
    match options.layout with
    | .p40WholeCorePromptWide => wholeCore options
    | .c8192FamilyOverlay => buildFamilyOverlayPlan cfg options

end Build

end Qwen3xOrin.Request
