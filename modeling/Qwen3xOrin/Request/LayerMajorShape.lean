import Qwen3xOrin.Request.ArenaLayout
import Qwen3xOrin.Request.LayerMajorBuild
import Qwen3xOrin.Request.WorkspaceExact

/-! The layer-major plan in closed form, and that the builder lays it out at every sequence
length. -/

namespace Qwen3xOrin.Request

open Io Library PlanBuilder
open Prefill (BuildConfig)

section Shapes

def matrixShape (offset rows columns : ℕ) : RequestMatrixRegion :=
  ⟨⟨offset, rows * columns * 2, rows * columns, 2⟩, rows, columns, columns⟩

def bytesShape (offset bytes : ℕ) : RequestRegion := ⟨offset, bytes, bytes, 1⟩

def familyOffset (seq : ℕ) : ℕ := persistentTotal seq + 10240 * seq

def legacyOffset (seq : ℕ) : ℕ := familyOffset seq + familyPhaseArenaBytes

def finalHiddenOffset (seq : ℕ) : ℕ := legacyOffset seq + workspaceTotal 512 seq

def layerMajorRopeOffset (seq : ℕ) : ℕ := finalHiddenOffset seq + 10240

section Phases

variable (family : ℕ)

def panelTokenIdsShape : RequestMatrixRegion := ⟨⟨family + 0, 32768, 8192, 4⟩, 8192, 1, 1⟩

def gdnPhaseShape : LayerMajorGdnPhaseRegions where
  qkvBf16 := matrixShape (family + 0) 8192 10240
  zBf16 := matrixShape (family + gdnZOffset) 8192 6144
  aBf16 := matrixShape (family + gdnAOffset) 8192 48
  bBf16 := matrixShape (family + gdnBOffset) 8192 48
  recurrentCoreBf16 := matrixShape (family + gdnCoreOffset) 8192 6144
  nativeC64Workspace := bytesShape (family + gdnNativeWorkspaceOffset) gdnC64NativeWorkspaceBytes
  normalizedInputBf16 := matrixShape (family + gdnCoreOffset) 8192 5120
  inputProjectionTemporary :=
    bytesShape (family + gdnProjectionTemporaryOffset) projectionTemporaryBytes
  branchOutputBf16 := matrixShape (family + 0) 8192 5120
  outputProjectionTemporary :=
    bytesShape (family + outputProjectionTemporaryOffset) projectionTemporaryBytes

def attentionPhaseShape : LayerMajorAttentionPhaseRegions where
  rawQGateBf16 := matrixShape (family + 0) 8192 12288
  processedQBf16 := matrixShape (family + attentionProcessedQOffset) 8192 6144
  packedGateBf16 := matrixShape (family + attentionPackedGateOffset) 8192 6144
  normalizedInputBf16 := matrixShape (family + attentionProcessedQOffset) 8192 5120
  inputProjectionTemporary :=
    bytesShape (family + attentionProjectionTemporaryOffset) projectionTemporaryBytes
  coreOutputBf16 := matrixShape (family + 0) 8192 6144
  branchOutputBf16 := matrixShape (family + attentionBranchOutputOffset) 8192 5120
  outputProjectionTemporary :=
    bytesShape (family + attentionOutputTemporaryOffset) projectionTemporaryBytes

def mlpSpanBytes : ℕ := 285212672

def mlpNormalizedBytes : ℕ := 83886080

def mlpPhaseShape : LayerMajorMlpPhaseRegions where
  gateBf16 := matrixShape (family + 0) 8192 17408
  upBf16 := matrixShape (family + mlpSpanBytes) 8192 17408
  activatedBf16 := matrixShape (family + 2 * mlpSpanBytes) 8192 17408
  normalizedInputBf16 := matrixShape (family + 2 * mlpSpanBytes) 8192 5120
  gateUpProjectionTemporary :=
    bytesShape (family + (2 * mlpSpanBytes + mlpNormalizedBytes)) projectionTemporaryBytes
  branchOutputBf16 := matrixShape (family + mlpSpanBytes) 8192 5120
  downProjectionTemporary := bytesShape (family + 0) projectionTemporaryBytes

end Phases

variable (seq : ℕ)

def legacyRegionsShape : LayerMajorLegacyC512Regions where
  hiddenBf16 := fun index => ⟨hiddenShape 512 (legacyOffset seq) index, 512, 5120, 5120⟩
  projectionBf16 := fun index =>
    ⟨projectionShape 512 (legacyOffset seq) index, 512, 17408, 17408⟩
  linearABf16 := ⟨linearAShape 512 (legacyOffset seq), 512, 48, 48⟩
  linearBBf16 := ⟨linearBShape 512 (legacyOffset seq), 512, 48, 48⟩
  fp32Scratch := scratchShape 512 seq (legacyOffset seq)
  gqaProbabilityScratch := probabilityShape 512 seq (legacyOffset seq)

def layerMajorCommon : RequestMemoryPlan where
  batchSize := 1
  prefillChunkSize := maximumRequestPrefillChunkSize
  maxSequenceLength := seq
  arenaBytes := layerMajorTotal seq
  persistentOffset := 0
  persistentBytes := persistentTotal seq
  workspaceOffset := persistentTotal seq
  workspaceBytes := layerMajorRopeOffset seq - persistentTotal seq
  ropeOffset := layerMajorRopeOffset seq
  ropeBytes := ropeTotal seq
  convState := convShape
  gdnState := gdnShape
  keyCache := fun slot => keyShape seq slot
  valueCache := fun slot => valueShape seq slot
  hiddenBf16 := fun index => hiddenShape 512 (legacyOffset seq) index
  projectionBf16 := fun index => projectionShape 512 (legacyOffset seq) index
  linearABf16 := linearAShape 512 (legacyOffset seq)
  linearBBf16 := linearBShape 512 (legacyOffset seq)
  fp32Scratch := scratchShape 512 seq (legacyOffset seq)
  gqaProbabilityScratch := probabilityShape 512 seq (legacyOffset seq)
  ropeCosFp32 := cosShape seq (layerMajorRopeOffset seq)
  ropeSinFp32 := sinShape seq (layerMajorRopeOffset seq)
  layers := fun layer => layerShape layer
  profile := .layerMajorC8192

def layerMajorPlan : LayerMajorRequestMemoryPlan where
  common := layerMajorCommon seq
  layout := .c8192FamilyOverlay
  operatorPanelCapacityTokens := 8192
  mlpCapacityTokens := 8192
  mlpLayout := .panelLocalThreeSpan
  promptResidualBf16 := matrixShape (persistentTotal seq) seq 5120
  c8192FamilyPhaseArena := bytesShape (familyOffset seq) familyPhaseArenaBytes
  panelTokenIdsU32 := panelTokenIdsShape (familyOffset seq)
  gdn := gdnPhaseShape (familyOffset seq)
  attention := attentionPhaseShape (familyOffset seq)
  mlp := mlpPhaseShape (familyOffset seq)
  legacyC512 := legacyRegionsShape seq
  finalHiddenBf16 := matrixShape (finalHiddenOffset seq) 1 5120
  hiddenStrategy := .singlePromptWideConditional
  scratchStrategy := .c8192FamilyOverlayWithDisjointLegacyC512
  gdnTactic := .c64NativeInPlaceConv
  legacyGdnTactic := .c16Composite
  mlpTactic := .separateGateUpAndSilu

end Shapes

section Operations

variable {rows columns size cursor offset bytes elements : ℕ} {family : RequestRegion}

lemma addMatrix_at (hrows : 0 < rows) (hcolumns : 0 < columns) (hsize : 0 < size)
    (hoffset : alignUp cursor = offset) (hbytes : rows * columns * size = bytes)
    (hfits : cursor + bytes + 255 ≤ uint64Max) :
    addMatrix rows columns columns size cursor = some
      (⟨⟨offset, bytes, rows * columns, size⟩, rows, columns, columns⟩, offset + bytes) := by
  have helements : 0 < rows * columns := Nat.mul_pos hrows hcolumns
  have hle : rows * columns ≤ bytes := hbytes ▸ Nat.le_mul_of_pos_right _ hsize
  rw [addMatrix, guard_bind ⟨hrows.ne', hcolumns.ne', le_rfl⟩, checkedMultiply_ok (by omega),
    some_bind, add_at hoffset hbytes (by omega) hfits]
  rfl

lemma addMatrices_eq (hrows : 0 < rows) (hcolumns : 0 < columns)
    (hfits : rows * columns ≤ uint64Max) (count : ℕ) :
    addMatrices rows columns size count cursor =
      (addEach (rows * columns) size count cursor).map fun result =>
        (result.1.map fun storage => ⟨storage, rows, columns, columns⟩, result.2) := by
  induction count generalizing cursor with
  | zero => rfl
  | succ count ih =>
    rw [addMatrices, addEach, addMatrix, guard_bind ⟨hrows.ne', hcolumns.ne', le_rfl⟩,
      checkedMultiply_ok hfits, some_bind]
    cases hadd : add (rows * columns) size cursor with
    | none => rfl
    | some placed =>
      simp only [Option.bind_eq_bind, Option.bind_some, Option.pure_def, ih]
      cases addEach (rows * columns) size count placed.2 with
      | none => rfl
      | some rest => rfl

lemma makeByteSubregion_ok (hbytes : 0 < bytes) (hinside : offset + bytes ≤ family.byteSize)
    (hfamily : family.arenaOffset + family.byteSize ≤ uint64Max) :
    makeByteSubregionChecked family offset bytes =
      some (bytesShape (family.arenaOffset + offset) bytes) := by
  rw [makeByteSubregionChecked, makeSubregionChecked, guard_bind ⟨hbytes.ne', hbytes.ne', by decide⟩,
    checkedMultiply_ok (by omega), some_bind, guard_bind (Nat.mul_one bytes),
    checkedAdd_ok (by omega), some_bind, guard_bind hinside, checkedAdd_ok (by omega)]
  rfl

lemma makeMatrixSubregion_ok (hrows : 0 < rows) (hcolumns : 0 < columns) (hsize : 0 < size)
    (hinside : offset + rows * columns * size ≤ family.byteSize)
    (hfamily : family.arenaOffset + family.byteSize ≤ uint64Max) :
    makeMatrixSubregionChecked family offset rows columns columns size =
      some ⟨⟨family.arenaOffset + offset, rows * columns * size, rows * columns, size⟩, rows,
        columns, columns⟩ := by
  have helements : 0 < rows * columns := Nat.mul_pos hrows hcolumns
  have hle : rows * columns ≤ rows * columns * size := Nat.le_mul_of_pos_right _ hsize
  rw [makeMatrixSubregionChecked, guard_bind ⟨hrows.ne', hcolumns.ne', le_rfl⟩,
    checkedMultiply_ok (by omega), some_bind, checkedMultiply_ok (by omega), some_bind,
    makeSubregionChecked, guard_bind ⟨by omega, helements.ne', hsize.ne'⟩,
    checkedMultiply_ok (by omega), some_bind, guard_bind rfl, checkedAdd_ok (by omega),
    some_bind, guard_bind hinside, checkedAdd_ok (by omega)]
  rfl

lemma familyMatrix_ok (hrows : 0 < rows) (hcolumns : 0 < columns)
    (hinside : offset + rows * columns * 2 ≤ family.byteSize)
    (hfamily : family.arenaOffset + family.byteSize ≤ uint64Max) :
    familyMatrix family offset rows columns =
      some (matrixShape (family.arenaOffset + offset) rows columns) :=
  makeMatrixSubregion_ok hrows hcolumns (by decide) hinside hfamily

end Operations

section Phases

variable {family : RequestRegion} (hsize : family.byteSize = familyPhaseArenaBytes)
  (hfits : family.arenaOffset + family.byteSize ≤ uint64Max)

include hsize hfits

lemma familyView {offset rows columns : ℕ} (hrows : 0 < rows) (hcolumns : 0 < columns)
    (hinside : offset + rows * columns * 2 ≤ familyPhaseArenaBytes) :
    familyMatrix family offset rows columns =
      some (matrixShape (family.arenaOffset + offset) rows columns) :=
  familyMatrix_ok hrows hcolumns (hsize ▸ hinside) hfits

lemma familyBytesView {offset bytes : ℕ} (hbytes : 0 < bytes)
    (hinside : offset + bytes ≤ familyPhaseArenaBytes) :
    makeByteSubregionChecked family offset bytes =
      some (bytesShape (family.arenaOffset + offset) bytes) :=
  makeByteSubregion_ok hbytes (hsize ▸ hinside) hfits

lemma buildPanelTokenIds_ok :
    buildPanelTokenIds family = some (panelTokenIdsShape family.arenaOffset) := by
  refine makeMatrixSubregion_ok (by decide) (by decide) (by decide) ?_ hfits
  rw [hsize]
  decide

lemma buildGdnRegions_ok : buildGdnRegions family = some (gdnPhaseShape family.arenaOffset) := by
  have hpanel : layerMajorRequestOperatorPanelCapacity = 8192 := rfl
  rw [buildGdnRegions, hpanel]
  rw [familyView hsize hfits (by decide) (by decide) (by decide), some_bind,
    familyView hsize hfits (by decide) (by decide) (by decide), some_bind,
    familyView hsize hfits (by decide) (by decide) (by decide), some_bind,
    familyView hsize hfits (by decide) (by decide) (by decide), some_bind,
    familyView hsize hfits (by decide) (by decide) (by decide), some_bind,
    familyBytesView hsize hfits (by decide) (by decide), some_bind,
    familyView hsize hfits (by decide) (by decide) (by decide), some_bind,
    familyBytesView hsize hfits (by decide) (by decide), some_bind,
    familyView hsize hfits (by decide) (by decide) (by decide), some_bind,
    familyBytesView hsize hfits (by decide) (by decide), some_bind]
  rfl

lemma buildAttentionRegions_ok :
    buildAttentionRegions family = some (attentionPhaseShape family.arenaOffset) := by
  have hpanel : layerMajorRequestOperatorPanelCapacity = 8192 := rfl
  rw [buildAttentionRegions, hpanel]
  rw [familyView hsize hfits (by decide) (by decide) (by decide), some_bind,
    familyView hsize hfits (by decide) (by decide) (by decide), some_bind,
    familyView hsize hfits (by decide) (by decide) (by decide), some_bind,
    familyView hsize hfits (by decide) (by decide) (by decide), some_bind,
    familyBytesView hsize hfits (by decide) (by decide), some_bind,
    familyView hsize hfits (by decide) (by decide) (by decide), some_bind,
    familyView hsize hfits (by decide) (by decide) (by decide), some_bind,
    familyBytesView hsize hfits (by decide) (by decide), some_bind]
  rfl

def mlpOffsetsShape : MlpOffsets where
  up := mlpSpanBytes
  activated := 2 * mlpSpanBytes
  normalized := 2 * mlpSpanBytes
  gateUpTemporary := 2 * mlpSpanBytes + mlpNormalizedBytes
  branch := mlpSpanBytes

lemma buildMlpRegions_ok :
    buildMlpRegions family 8192 mlpOffsetsShape = some (mlpPhaseShape family.arenaOffset) := by
  rw [buildMlpRegions, familyView hsize hfits (by decide) (by decide) (by decide), some_bind,
    familyView hsize hfits (by decide) (by decide) (by decide), some_bind,
    familyView hsize hfits (by decide) (by decide) (by decide), some_bind,
    familyView hsize hfits (by decide) (by decide) (by decide), some_bind,
    familyBytesView hsize hfits (by decide) (by decide), some_bind,
    familyView hsize hfits (by decide) (by decide) (by decide), some_bind,
    familyBytesView hsize hfits (by decide) (by decide), some_bind]
  rfl

end Phases

section Stages

variable {seq : ℕ}

lemma mlpOffsets_ok :
    layerMajorMlpOffsets .panelLocalThreeSpan 8192 = .ok mlpOffsetsShape := by
  have hspans : mlpSpans 8192 = some (mlpSpanBytes, mlpNormalizedBytes) := by decide +kernel
  have hoffsets : panelLocalOffsets mlpSpanBytes mlpNormalizedBytes = some mlpOffsetsShape := by
    rw [panelLocalOffsets, checkedAdd_ok (by rw [uint64Max_eq]; decide), some_bind,
      checkedAdd_ok (by rw [uint64Max_eq]; decide), some_bind,
      checkedAdd_ok (by rw [uint64Max_eq]; decide), some_bind]
    rfl
  rw [layerMajorMlpOffsets, hspans, orFail_some, ok_bind]
  exact congrArg (orFail _ _ _) hoffsets

lemma addCachesOf_eq (l : List (RequestRegion × RequestRegion)) {elements size cursor : ℕ}
    (h : ∀ slot ∈ l, (slot.1.elementCapacity = elements ∧ slot.1.elementSizeBytes = size) ∧
      slot.2.elementCapacity = elements ∧ slot.2.elementSizeBytes = size) :
    addCachesOf l cursor = addCaches elements size l.length cursor := by
  induction l generalizing cursor with
  | nil => rfl
  | cons slot l ih =>
    obtain ⟨⟨hkey, hkey'⟩, hvalue, hvalue'⟩ := h slot List.mem_cons_self
    rw [addCachesOf, List.length_cons, addCaches, hkey, hkey', hvalue, hvalue']
    simp only [ih fun slot hslot => h slot (List.mem_cons_of_mem _ hslot)]

lemma buildLayerMajorPersistent_ok (hpos : 0 < seq) (hseq : seq ≤ 262144) :
    buildLayerMajorPersistent (requestPlan 512 seq) = .ok
      ⟨convShape, gdnShape,
        (List.range requestFullLayerCount).map fun slot => (keyShape seq slot, valueShape seq slot),
        persistentTotal seq⟩ := by
  have hconv : add (requestPlan 512 seq).convState.elementCapacity
      (requestPlan 512 seq).convState.elementSizeBytes 0 =
      some (convShape, requestConvStateBytes) := addConv_shape
  have hgdn : add (requestPlan 512 seq).gdnState.elementCapacity
      (requestPlan 512 seq).gdnState.elementSizeBytes requestConvStateBytes =
      some (gdnShape, statefulBytes) := addGdn_shape
  have hcaches : addCachesOf ((List.finRange requestFullLayerCount).map fun slot =>
      ((requestPlan 512 seq).keyCache slot, (requestPlan 512 seq).valueCache slot))
      statefulBytes = some
      ((List.range requestFullLayerCount).map fun slot => (keyShape seq slot, valueShape seq slot),
        persistentTotal seq) := by
    rw [@addCachesOf_eq _ (1024 * seq) 2]
    · rw [List.length_map, List.length_finRange]
      exact addCaches_shape hpos hseq
    · intro slot hslot
      obtain ⟨index, -, rfl⟩ := List.mem_map.mp hslot
      exact ⟨⟨rfl, rfl⟩, rfl, rfl⟩
  rw [buildLayerMajorPersistent, hconv, some_bind]
  dsimp only
  rw [hgdn, some_bind]
  dsimp only [pure]
  rw [orFail_some, ok_bind]
  dsimp only
  rw [hcaches, orFail_some, ok_bind]
  dsimp only
  rw [align_persistentTotal hseq, orFail_some, ok_bind]
  rfl

lemma familyOffset_facts (hseq : seq ≤ 262144) :
    256 ∣ familyOffset seq ∧ familyOffset seq ≤ 2 ^ 39 := by
  simp only [familyOffset, persistentTotal, statefulBytes, requestConvStateBytes,
    requestGdnStateBytes]
  omega

lemma buildPhases_ok (hpos : 0 < seq) (hseq : seq ≤ 262144) :
    buildPhases seq familyPhaseArenaBytes 8192 mlpOffsetsShape (persistentTotal seq) = .ok
      { residual := matrixShape (persistentTotal seq) seq 5120
        family := bytesShape (familyOffset seq) familyPhaseArenaBytes
        panelTokenIds := panelTokenIdsShape (familyOffset seq)
        gdn := gdnPhaseShape (familyOffset seq)
        attention := attentionPhaseShape (familyOffset seq)
        mlp := mlpPhaseShape (familyOffset seq)
        cursor := legacyOffset seq } := by
  have hmax := uint64Max_eq
  have hpersistent := persistentTotal_dvd seq
  have hbytes : familyPhaseArenaBytes = 855638016 := rfl
  obtain ⟨hfamily, hfits⟩ := familyOffset_facts hseq
  have hresidual : addMatrix seq hiddenElements hiddenElements bf16Bytes (persistentTotal seq) =
      some (matrixShape (persistentTotal seq) seq 5120, familyOffset seq) := by
    have hle : persistentTotal seq ≤ familyOffset seq := Nat.le_add_right _ _
    have hsize : seq * 5120 * 2 = 10240 * seq := by ring
    have hplaced := @addMatrix_at seq 5120 2 _ _ _ hpos (by omega) (by omega)
      (alignUp_of_dvd hpersistent) hsize (by omega)
    rw [← hsize] at hplaced
    rw [familyOffset, ← hsize]
    exact hplaced
  have hfamilyRegion : add familyPhaseArenaBytes 1 (familyOffset seq) =
      some (bytesShape (familyOffset seq) familyPhaseArenaBytes, legacyOffset seq) :=
    add_at (alignUp_of_dvd hfamily) (Nat.mul_one _) (by omega) (by omega)
  have hsize : (bytesShape (familyOffset seq) familyPhaseArenaBytes).byteSize =
      familyPhaseArenaBytes := rfl
  have hinside : (bytesShape (familyOffset seq) familyPhaseArenaBytes).arenaOffset +
      (bytesShape (familyOffset seq) familyPhaseArenaBytes).byteSize ≤ uint64Max := by
    change familyOffset seq + familyPhaseArenaBytes ≤ uint64Max
    omega
  rw [buildPhases, hresidual, some_bind]
  dsimp only
  rw [hfamilyRegion, some_bind]
  dsimp only [pure]
  rw [orFail_some, ok_bind]
  dsimp only
  rw [buildPanelTokenIds_ok hsize hinside, some_bind, buildGdnRegions_ok hsize hinside, some_bind,
    orFail_some, ok_bind]
  dsimp only
  rw [buildAttentionRegions_ok hsize hinside, orFail_some, ok_bind,
    buildMlpRegions_ok hsize hinside, orFail_some, ok_bind]
  rfl

lemma legacyOffset_facts (hseq : seq ≤ 262144) :
    256 ∣ legacyOffset seq ∧ legacyOffset seq ≤ 2 ^ 39 := by
  simp only [legacyOffset, familyOffset, familyPhaseArenaBytes, persistentTotal, statefulBytes,
    requestConvStateBytes, requestGdnStateBytes]
  omega

lemma addMatrices_512 {columns size count start stop : ℕ} {shape : ℕ → RequestRegion}
    (hcolumns : 0 < columns) (hfits : columns * 512 ≤ uint64Max)
    (h : addEach (columns * 512) size count start = some ((List.range count).map shape, stop)) :
    addMatrices 512 columns size count start = some
      ((List.range count).map fun index => ⟨shape index, 512, columns, columns⟩, stop) := by
  rw [Nat.mul_comm columns 512] at h hfits
  rw [addMatrices_eq (by decide) hcolumns hfits, h, Option.map_some, List.map_map]
  rfl

lemma addMatrix_512 {columns size start stop : ℕ} {region : RequestRegion} (hcolumns : 0 < columns)
    (hfits : columns * 512 ≤ uint64Max) (h : add (columns * 512) size start = some (region, stop)) :
    addMatrix 512 columns columns size start = some (⟨region, 512, columns, columns⟩, stop) := by
  rw [Nat.mul_comm columns 512] at h hfits
  rw [addMatrix, guard_bind ⟨by decide, hcolumns.ne', le_rfl⟩, checkedMultiply_ok hfits, some_bind,
    h]
  rfl

lemma buildLegacyRegions_ok (hseq : seq ≤ 262144) :
    buildLegacyRegions (requestPlan 512 seq) (legacyOffset seq) =
      .ok ⟨legacyRegionsShape seq, finalHiddenOffset seq⟩ := by
  have hmax := uint64Max_eq
  obtain ⟨hdvd, hle⟩ := legacyOffset_facts hseq
  have hchunk : 0 < 512 := by decide
  have hfits : legacyOffset seq ≤ 2 ^ 40 := by omega
  have hhidden : addMatrices maximumRequestPrefillChunkSize hiddenElements bf16Bytes
      requestHiddenBufferCount (legacyOffset seq) = some
      ((List.range requestHiddenBufferCount).map fun index =>
        (⟨hiddenShape 512 (legacyOffset seq) index, 512, 5120, 5120⟩ : RequestMatrixRegion),
        legacyOffset seq + 3 * (10240 * 512)) :=
    addMatrices_512 (by decide) (by rw [hmax]; decide)
      (addHidden_shape hdvd hfits hchunk (by decide))
  have hprojection : addMatrices maximumRequestPrefillChunkSize projectionElements bf16Bytes
      requestProjectionBufferCount (legacyOffset seq + 3 * (10240 * 512)) = some
      ((List.range requestProjectionBufferCount).map fun index =>
        (⟨projectionShape 512 (legacyOffset seq) index, 512, 17408, 17408⟩ : RequestMatrixRegion),
        legacyOffset seq + 3 * (10240 * 512) + 4 * (34816 * 512)) :=
    addMatrices_512 (by decide) (by rw [hmax]; decide)
      (addProjection_shape hdvd hfits hchunk (by decide))
  have hlinearA : addMatrix maximumRequestPrefillChunkSize linearScalarElements
      linearScalarElements bf16Bytes (legacyOffset seq + 3 * (10240 * 512) + 4 * (34816 * 512)) =
      some (⟨linearAShape 512 (legacyOffset seq), 512, 48, 48⟩,
        legacyOffset seq + 3 * (10240 * 512) + 4 * (34816 * 512) + 96 * 512) :=
    addMatrix_512 (by decide) (by rw [hmax]; decide)
      (addLinearA_shape hdvd hfits hchunk (by decide))
  have hlinearB : addMatrix maximumRequestPrefillChunkSize linearScalarElements
      linearScalarElements bf16Bytes
      (legacyOffset seq + 3 * (10240 * 512) + 4 * (34816 * 512) + 96 * 512) =
      some (⟨linearBShape 512 (legacyOffset seq), 512, 48, 48⟩,
        legacyOffset seq + 3 * (10240 * 512) + 4 * (34816 * 512) + alignUp (96 * 512) +
          96 * 512) :=
    addMatrix_512 (by decide) (by rw [hmax]; decide)
      (addLinearB_shape hdvd hfits hchunk (by decide))
  have hscratch : add (requestPlan 512 seq).fp32Scratch.elementCapacity fp32Bytes _ = _ :=
    addScratch_shape hdvd hfits hchunk (by decide) hseq
  have halign := align_workspaceTotal hdvd hfits hchunk (by decide) hseq
  have hprobability :
      wrap ((requestPlan 512 seq).gqaProbabilityScratch.elementCapacity * fp32Bytes) =
        96 * seq := by
    have hcapacity : (requestPlan 512 seq).gqaProbabilityScratch.elementCapacity * fp32Bytes =
        24 * seq * 4 := rfl
    rw [hcapacity, wrap_eq (by omega)]
    ring
  generalize legacyOffset seq + 3 * (10240 * 512) + 4 * (34816 * 512) + 2 * alignUp (96 * 512) +
    4 * scratchElements seq = afterScratch at hscratch halign
  generalize legacyOffset seq + 3 * (10240 * 512) + 4 * (34816 * 512) + alignUp (96 * 512) +
    96 * 512 = afterLinear at hlinearB hscratch
  generalize legacyOffset seq + 3 * (10240 * 512) + 4 * (34816 * 512) + 96 * 512 = afterLinearA
    at hlinearA hlinearB
  generalize legacyOffset seq + 3 * (10240 * 512) + 4 * (34816 * 512) = afterProjection
    at hprojection hlinearA
  generalize legacyOffset seq + 3 * (10240 * 512) = afterHidden at hhidden hprojection
  rw [buildLegacyRegions, hhidden, orFail_some, ok_bind]
  dsimp only
  rw [hprojection, orFail_some, ok_bind]
  dsimp only
  rw [hlinearA, some_bind]
  dsimp only
  rw [hlinearB, some_bind]
  dsimp only [pure]
  rw [orFail_some, ok_bind]
  dsimp only
  rw [hscratch, orFail_some, ok_bind]
  dsimp only
  rw [halign, orFail_some, ok_bind, hprobability,
    funext fun index : Fin requestHiddenBufferCount => getD_range_map index.isLt,
    funext fun index : Fin requestProjectionBufferCount => getD_range_map index.isLt]
  rfl

lemma finalHiddenOffset_facts (hseq : seq ≤ 262144) :
    256 ∣ finalHiddenOffset seq ∧ finalHiddenOffset seq ≤ 2 ^ 39 := by
  have hscratch := scratchElements_le hseq
  simp only [finalHiddenOffset, legacyOffset, familyOffset, familyPhaseArenaBytes, persistentTotal,
    statefulBytes, requestConvStateBytes, requestGdnStateBytes, workspaceTotal, alignUp_eq]
  omega

lemma buildTail_ok (hpos : 0 < seq) (hseq : seq ≤ 262144) :
    buildTail (requestPlan 512 seq) (finalHiddenOffset seq) = .ok
      { finalHidden := matrixShape (finalHiddenOffset seq) 1 5120
        ropeOffset := layerMajorRopeOffset seq
        ropeCos := cosShape seq (layerMajorRopeOffset seq)
        ropeSin := sinShape seq (layerMajorRopeOffset seq)
        cursor := layerMajorRopeOffset seq + ropeTotal seq } := by
  have hmax := uint64Max_eq
  obtain ⟨hdvd, hle⟩ := finalHiddenOffset_facts hseq
  have hrope : 256 ∣ layerMajorRopeOffset seq := Dvd.dvd.add hdvd (by decide)
  have hfits : layerMajorRopeOffset seq ≤ 2 ^ 40 := by
    rw [layerMajorRopeOffset]
    omega
  have hhidden : addMatrix 1 hiddenElements hiddenElements bf16Bytes (finalHiddenOffset seq) =
      some (matrixShape (finalHiddenOffset seq) 1 5120, layerMajorRopeOffset seq) :=
    addMatrix_at (by decide) (by decide) (by decide) (alignUp_of_dvd hdvd) (by decide) (by omega)
  have halign : align (layerMajorRopeOffset seq) = some (layerMajorRopeOffset seq) := by
    rw [align_ok (by omega), alignUp_of_dvd hrope]
  have hcos : add (requestPlan 512 seq).ropeCosFp32.elementCapacity fp32Bytes _ = _ :=
    addCos_shape hrope hfits hpos hseq
  have hsin : add (requestPlan 512 seq).ropeSinFp32.elementCapacity fp32Bytes _ = _ :=
    addSin_shape hrope hfits hpos hseq
  rw [buildTail, hhidden, some_bind]
  dsimp only
  rw [halign, some_bind]
  dsimp only [pure]
  rw [orFail_some, ok_bind]
  dsimp only
  rw [hcos, some_bind]
  dsimp only
  rw [hsin, some_bind]
  dsimp only
  rw [align_ropeTotal hrope hfits hseq, some_bind, orFail_some, ok_bind]
  rfl

end Stages

end Qwen3xOrin.Request
