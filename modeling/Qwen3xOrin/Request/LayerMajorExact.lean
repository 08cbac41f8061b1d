import Qwen3xOrin.Request.LayerMajorShape

/-! The two layer-major memory computations agree: the cursor that lays the arena out and the
planner that sums it up. -/

namespace Qwen3xOrin.Request

open Io Library Library.Arena PlanBuilder
open Prefill (BuildConfig)

section Builder

variable {seq limit : ℕ}

def layerMajorOptions (seq limit : ℕ) : LayerMajorRequestMemoryOptions where
  maxSequenceLength := seq
  maxArenaBytes := limit

def layerMajorExceeded (seq limit : ℕ) : RequestDiagnostic where
  code := .arenaLimitExceeded
  message := "layer-major request arena exceeds configured max_arena_bytes"
  context := "max_arena_bytes"
  expected := toString limit
  actual := toString (layerMajorTotal seq)

lemma selectWorkspace_ok (cfg : BuildConfig) (hpos : 0 < seq) (hseq : seq ≤ 262144)
    (hlimit : 0 < limit) :
    selectWorkspace cfg (layerMajorOptions seq limit) =
      if limit < layerMajorTotal seq then .error (layerMajorExceeded seq limit)
      else .ok (workspaceShape seq limit) := by
  have hbuild : buildUnboundLayerMajorPrefillWorkspacePlan cfg
      (layerMajorWorkspaceOptions (layerMajorOptions seq limit)) =
      .ok (workspaceShape seq limit) := buildWorkspacePlan_ok cfg hpos hseq hlimit
  have hbytes : (workspaceShape seq limit).selected.requiredBytes = layerMajorTotal seq :=
    totalsShape_selected seq
  rw [selectWorkspace, hbuild]
  dsimp only
  rw [hbytes]
  rfl

-- The legacy shape of the longest sequence fills the default arena to the byte.
lemma legacy_fits (hseq : seq ≤ 262144) :
    requestArenaTotal 512 seq ≤ maximumRequestArenaBytes := by
  have hscratch := scratchElements_le hseq
  simp only [requestArenaTotal, persistentTotal, statefulBytes, requestConvStateBytes,
    requestGdnStateBytes, workspaceTotal, ropeTotal, alignUp_eq, maximumRequestArenaBytes]
  omega

lemma legacyPlan_ok (hpos : 0 < seq) (hseq : seq ≤ 262144) :
    buildRequestMemoryPlan
      { batchSize := 1
        prefillChunkSize := maximumRequestPrefillChunkSize
        maxSequenceLength := seq
        maxArenaBytes := maximumRequestArenaBytes } = .ok (requestPlan 512 seq) := by
  have hchunk : 0 < maximumRequestPrefillChunkSize := by decide
  have hlimit : 0 < maximumRequestArenaBytes := by decide
  have hlimit' : maximumRequestArenaBytes ≤ maximumConfigurableArenaBytes := by decide
  exact (buildRequestMemoryPlan_of_admitted ⟨rfl, hpos, hseq, hchunk, le_rfl, hlimit, hlimit'⟩).trans
    (if_neg (Nat.not_lt.mpr (legacy_fits hseq)))

lemma layerMajor_scratch (hseq : seq ≤ 262144) :
    ¬(legacyOffset seq ≠ wrap ((bytesShape (familyOffset seq) familyPhaseArenaBytes).arenaOffset +
        familyPhaseArenaBytes) ∨
      finalHiddenOffset seq - (bytesShape (familyOffset seq) familyPhaseArenaBytes).arenaOffset ≠
        familyPhaseArenaBytes + workspaceTotal 512 seq) := by
  have hmax := uint64Max_eq
  obtain ⟨-, hle⟩ := legacyOffset_facts hseq
  have hoffset : (bytesShape (familyOffset seq) familyPhaseArenaBytes).arenaOffset =
      familyOffset seq := rfl
  have hlegacy : familyOffset seq + familyPhaseArenaBytes = legacyOffset seq := rfl
  rw [hoffset, hlegacy, wrap_eq (by omega), finalHiddenOffset, ← hlegacy]
  omega

lemma layerMajor_cursor : layerMajorRopeOffset seq + ropeTotal seq = layerMajorTotal seq := rfl

lemma layerMajor_total (hfits : layerMajorTotal seq ≤ limit) :
    ¬(persistentTotal seq ≠ (workspaceShape seq limit).persistentState.totalRequiredBytes ∨
      (matrixShape (persistentTotal seq) seq 5120).storage.byteSize ≠
        (workspaceShape seq limit).promptWideHidden.selected.aggregateBf16.requiredBytes ∨
      (matrixShape (finalHiddenOffset seq) 1 5120).storage.byteSize ≠
        (workspaceShape seq limit).finalHiddenHandoffBf16.requiredBytes ∨
      layerMajorRopeOffset seq + ropeTotal seq - layerMajorRopeOffset seq ≠
        (workspaceShape seq limit).positionState.totalRequiredBytes ∨
      layerMajorRopeOffset seq + ropeTotal seq ≠
        (workspaceShape seq limit).selected.requiredBytes ∨
      (layerMajorOptions seq limit).maxArenaBytes < layerMajorRopeOffset seq + ropeTotal seq ∨
      (workspaceShape seq limit).executable = true) := by
  have hpersistent : (workspaceShape seq limit).persistentState.totalRequiredBytes =
      persistentTotal seq := rfl
  have hresidual : alignUp (seq * 5120 * 2) = seq * 5120 * 2 := by
    rw [alignUp_eq]
    omega
  have hfinal : 1 * 5120 * 2 = alignUp (5120 * 2) := by decide
  have hposition : (workspaceShape seq limit).positionState.totalRequiredBytes =
      ropeTotal seq := rfl
  have hselected : (workspaceShape seq limit).selected.requiredBytes = layerMajorTotal seq :=
    totalsShape_selected seq
  rw [hpersistent, hposition, hselected, layerMajor_cursor]
  refine not_or.mpr ⟨fun h => h rfl, not_or.mpr ⟨fun h => h hresidual.symm,
    not_or.mpr ⟨fun h => h hfinal, not_or.mpr ⟨fun h => h ?_, not_or.mpr
      ⟨fun h => h rfl, not_or.mpr ⟨Nat.not_lt.mpr hfits, Bool.false_ne_true⟩⟩⟩⟩⟩⟩
  rw [← layerMajor_cursor, Nat.add_sub_cancel_left]

lemma buildFamilyOverlay_ok (cfg : BuildConfig) (hpos : 0 < seq) (hseq : seq ≤ 262144)
    (hlimit : 0 < limit) :
    buildFamilyOverlayPlan cfg (layerMajorOptions seq limit) =
      if limit < layerMajorTotal seq then .error (layerMajorExceeded seq limit)
      else .ok (layerMajorPlan seq) := by
  have hmax := uint64Max_eq
  have hlegacy : buildRequestMemoryPlan
      { batchSize := 1
        prefillChunkSize := maximumRequestPrefillChunkSize
        maxSequenceLength := (layerMajorOptions seq limit).maxSequenceLength
        maxArenaBytes := maximumRequestArenaBytes } = .ok (requestPlan 512 seq) :=
    legacyPlan_ok hpos hseq
  rw [buildFamilyOverlayPlan, selectWorkspace_ok cfg hpos hseq hlimit]
  by_cases hexceeded : limit < layerMajorTotal seq
  · rw [if_pos hexceeded, if_pos hexceeded]
    rfl
  rw [if_neg hexceeded, if_neg hexceeded, ok_bind, hlegacy, ok_bind]
  have hscratch : (workspaceShape seq limit).operatorScratch = operatorScratchShape seq := rfl
  have hrows : (operatorScratchShape seq).mlpCapacityTokens = 8192 := rfl
  have hfamily : (operatorScratchShape seq).c8192FamilyOverlayConditional.totalRequiredBytes =
      familyPhaseArenaBytes := rfl
  have hselected : (operatorScratchShape seq).selected.totalRequiredBytes =
      familyPhaseArenaBytes + workspaceTotal 512 seq := rfl
  have hoptions : (layerMajorOptions seq limit).maxSequenceLength = seq := rfl
  have hmlp : (layerMajorOptions seq limit).mlpLayout = .panelLocalThreeSpan := rfl
  dsimp only
  rw [hscratch, hrows, hfamily, hselected, hoptions, hmlp, mlpOffsets_ok, ok_bind,
    buildLayerMajorPersistent_ok hpos hseq, ok_bind]
  dsimp only
  rw [buildPhases_ok hpos hseq, ok_bind]
  dsimp only
  rw [buildLegacyRegions_ok hseq, ok_bind]
  dsimp only
  rw [if_neg (layerMajor_scratch hseq), buildTail_ok hpos hseq, ok_bind]
  dsimp only
  rw [if_neg (layerMajor_total (Nat.le_of_not_lt hexceeded)), Nat.add_sub_cancel_left,
    layerMajor_cursor,
    funext fun slot : Fin requestFullLayerCount => congrArg Prod.fst (getD_range_map slot.isLt),
    funext fun slot : Fin requestFullLayerCount => congrArg Prod.snd (getD_range_map slot.isLt)]
  rfl

end Builder

section Layout

variable (plan : LayerMajorRequestMemoryPlan)

def legacyOwners : List RequestRegion :=
  (List.finRange requestHiddenBufferCount).map (fun index =>
      (plan.legacyC512.hiddenBf16 index).storage) ++
    (List.finRange requestProjectionBufferCount).map (fun index =>
      (plan.legacyC512.projectionBf16 index).storage) ++
    [plan.legacyC512.linearABf16.storage, plan.legacyC512.linearBBf16.storage,
      plan.legacyC512.fp32Scratch]

def layerMajorOwners : List RequestRegion :=
  persistentRegions plan.common ++
    [plan.promptResidualBf16.storage, plan.c8192FamilyPhaseArena] ++
    legacyOwners plan ++ [plan.finalHiddenBf16.storage] ++ ropeRegions plan.common

-- The views of the operator phases; a merged gate-up view exists in the P40 layouts only.
def phaseViews : List RequestRegion :=
  [plan.panelTokenIdsU32.storage, plan.gdn.qkvBf16.storage, plan.gdn.zBf16.storage,
    plan.gdn.aBf16.storage, plan.gdn.bBf16.storage, plan.gdn.recurrentCoreBf16.storage,
    plan.gdn.nativeC64Workspace, plan.gdn.normalizedInputBf16.storage,
    plan.gdn.inputProjectionTemporary, plan.gdn.branchOutputBf16.storage,
    plan.gdn.outputProjectionTemporary, plan.attention.rawQGateBf16.storage,
    plan.attention.processedQBf16.storage, plan.attention.packedGateBf16.storage,
    plan.attention.normalizedInputBf16.storage, plan.attention.inputProjectionTemporary,
    plan.attention.coreOutputBf16.storage, plan.attention.branchOutputBf16.storage,
    plan.attention.outputProjectionTemporary, plan.mlp.gateBf16.storage, plan.mlp.upBf16.storage,
    plan.mlp.activatedBf16.storage, plan.mlp.normalizedInputBf16.storage,
    plan.mlp.gateUpProjectionTemporary, plan.mlp.branchOutputBf16.storage,
    plan.mlp.downProjectionTemporary]

structure LayerMajorLaid : Prop where
  owners : ∀ region ∈ layerMajorOwners plan, Within 0 plan.common.arenaBytes region
  apart : (layerMajorOwners plan).Pairwise Apart
  views : ∀ region ∈ phaseViews plan, 0 < region.byteSize ∧
    plan.c8192FamilyPhaseArena.arenaOffset ≤ region.arenaOffset ∧
    region.arenaOffset + region.byteSize ≤
      plan.c8192FamilyPhaseArena.arenaOffset + plan.c8192FamilyPhaseArena.byteSize
  probability : plan.legacyC512.gqaProbabilityScratch.arenaOffset =
      plan.legacyC512.fp32Scratch.arenaOffset ∧
    plan.legacyC512.gqaProbabilityScratch.byteSize ≤ plan.legacyC512.fp32Scratch.byteSize

-- The persistent section of two plans is one layout.
structure SamePersistent (left right : RequestMemoryPlan) : Prop where
  offset : left.persistentOffset = right.persistentOffset
  bytes : left.persistentBytes = right.persistentBytes
  regions : persistentRegions left = persistentRegions right

variable {seq : ℕ}

lemma layerMajorOwners_placed (hpos : 0 < seq) :
    Placed RequestRegion.arenaOffset RequestRegion.byteSize 256 0
      (layerMajorOwners (layerMajorPlan seq)) (layerMajorTotal seq) := by
  have hpersistent : Placed RequestRegion.arenaOffset RequestRegion.byteSize 256 0
      (persistentRegions (layerMajorPlan seq).common) (persistentTotal seq) :=
    @persistent_placed 512 seq hpos
  have hdvd := persistentTotal_dvd seq
  have hfamily : 256 ∣ familyOffset seq := by
    rw [familyOffset]
    omega
  have hlegacyDvd : 256 ∣ legacyOffset seq := Dvd.dvd.add hfamily (by decide)
  have hfinalDvd : 256 ∣ finalHiddenOffset seq :=
    Dvd.dvd.add hlegacyDvd (workspaceTotal_dvd 512 seq)
  have hropeDvd : 256 ∣ layerMajorRopeOffset seq := Dvd.dvd.add hfinalDvd (by decide)
  have hphases : Placed RequestRegion.arenaOffset RequestRegion.byteSize 256 (persistentTotal seq)
      [(layerMajorPlan seq).promptResidualBf16.storage, (layerMajorPlan seq).c8192FamilyPhaseArena]
      (legacyOffset seq) := by
    have hbytes : seq * 5120 * 2 = 10240 * seq := by ring
    refine ⟨le_rfl, hdvd, ?_, ?_, hfamily, ?_, le_rfl⟩
    · change 0 < seq * 5120 * 2
      omega
    · change persistentTotal seq + seq * 5120 * 2 ≤ persistentTotal seq + 10240 * seq
      omega
    · change 0 < familyPhaseArenaBytes
      decide
  have hlegacy : Placed RequestRegion.arenaOffset RequestRegion.byteSize 256 (legacyOffset seq)
      (legacyOwners (layerMajorPlan seq)) (finalHiddenOffset seq) :=
    @workspace_placed 512 seq (by decide) _ hlegacyDvd
  have hfinal : Placed RequestRegion.arenaOffset RequestRegion.byteSize 256
      (finalHiddenOffset seq) [(layerMajorPlan seq).finalHiddenBf16.storage]
      (layerMajorRopeOffset seq) := ⟨le_rfl, hfinalDvd, Nat.zero_lt_succ _, le_rfl⟩
  have hrope := @rope_placed seq hpos _ hropeDvd
  exact (((hpersistent.append hphases).append hlegacy).append hfinal).append hrope

def InFamily (family : ℕ) (region : RequestRegion) : Prop :=
  0 < region.byteSize ∧ family ≤ region.arenaOffset ∧
    region.arenaOffset + region.byteSize ≤ family + familyPhaseArenaBytes

lemma inFamily_of_span {family offset bytes elements size : ℕ} (hpos : 0 < bytes)
    (hinside : offset + bytes ≤ familyPhaseArenaBytes) :
    InFamily family ⟨family + offset, bytes, elements, size⟩ := by
  simp only [InFamily]
  omega

lemma phaseViews_inside :
    ∀ region ∈ phaseViews (layerMajorPlan seq), InFamily (familyOffset seq) region := by
  simp only [phaseViews, List.forall_mem_cons, List.not_mem_nil, false_implies, implies_true,
    and_true]
  refine ⟨?_, ?_, ?_, ?_, ?_, ?_, ?_, ?_, ?_, ?_, ?_, ?_, ?_, ?_, ?_, ?_, ?_, ?_, ?_, ?_, ?_, ?_,
    ?_, ?_, ?_, ?_⟩ <;>
    refine inFamily_of_span ?_ ?_ <;> decide

lemma layerMajorPlan_laid (hpos : 0 < seq) : LayerMajorLaid (layerMajorPlan seq) where
  owners := by
    intro region hregion
    obtain ⟨haligned, hsize, hstart, hstop⟩ := (layerMajorOwners_placed hpos).mem hregion
    exact ⟨haligned, hsize, hstart, hstop.trans (Nat.le_add_left _ _)⟩
  apart := (layerMajorOwners_placed hpos).pairwise
  views := phaseViews_inside
  probability := by
    refine ⟨rfl, ?_⟩
    change 96 * seq ≤ 4 * scratchElements seq
    rw [scratchElements]
    omega

end Layout

section Agreement

-- What the two computations say of one sequence length and arena limit.
structure LayerMajorAgreement (cfg : BuildConfig) (workspace : LayerMajorPrefillWorkspacePlan)
    (built : Except RequestDiagnostic LayerMajorRequestMemoryPlan) (seq limit : ℕ) : Prop where
  valid : validPlan cfg workspace = true
  refused : limit < workspace.selected.requiredBytes →
    ∃ diagnostic, built = .error diagnostic ∧ diagnostic.code = .arenaLimitExceeded
  laid : workspace.selected.requiredBytes ≤ limit → ∃ plan, built = .ok plan ∧
    plan.common.arenaBytes = workspace.selected.requiredBytes ∧ LayerMajorLaid plan ∧
    ∀ options ordinary, options.maxSequenceLength = seq →
      buildRequestMemoryPlan options = .ok ordinary → SamePersistent plan.common ordinary

lemma samePersistent_built {options : RequestMemoryOptions} {ordinary : RequestMemoryPlan}
    (h : buildRequestMemoryPlan options = .ok ordinary) :
    SamePersistent (layerMajorPlan options.maxSequenceLength).common ordinary := by
  by_cases hadmitted : Admitted options
  · rw [buildRequestMemoryPlan_of_admitted hadmitted] at h
    split_ifs at h
    obtain rfl := Except.ok.inj h
    exact ⟨rfl, rfl, rfl⟩
  · obtain ⟨diagnostic, herror, -⟩ := buildRequestMemoryPlan_of_not_admitted hadmitted
    rw [herror] at h
    cases h

lemma admitted_bounds {cfg : BuildConfig} {options : LayerMajorRequestMemoryOptions}
    (h : ¬invalidLayerMajorOptions cfg options = true) :
    options.batchSize = 1 ∧ 0 < options.maxSequenceLength ∧
      options.maxSequenceLength ≤ 262144 ∧ 0 < options.maxArenaBytes := by
  simp only [invalidLayerMajorOptions, decide_eq_true_eq, not_or] at h
  obtain ⟨hbatch, hseq, hseq', hlimit, -⟩ := h
  exact ⟨not_not.mp hbatch, Nat.pos_of_ne_zero hseq, Nat.le_of_not_lt hseq',
    Nat.pos_of_ne_zero hlimit⟩

theorem layer_major_memory_agreement (cfg : BuildConfig)
    (wholeCore : LayerMajorRequestMemoryOptions →
      Except RequestDiagnostic LayerMajorRequestMemoryPlan)
    (options : LayerMajorRequestMemoryOptions)
    (hadmitted : invalidLayerMajorOptions cfg options = false)
    (hlayout : options.layout = .c8192FamilyOverlay)
    (hmlp : options.mlpLayout = .panelLocalThreeSpan) :
    ∃ workspace, buildUnboundLayerMajorPrefillWorkspacePlan cfg
        (layerMajorWorkspaceOptions options) = .ok workspace ∧
      LayerMajorAgreement cfg workspace (buildLayerMajorRequestMemoryPlan cfg wholeCore options)
        options.maxSequenceLength options.maxArenaBytes := by
  have hinvalid : ¬invalidLayerMajorOptions cfg options = true := Bool.eq_false_iff.mp hadmitted
  obtain ⟨batch, seq, limit, mlp, layout⟩ := options
  obtain rfl : layout = .c8192FamilyOverlay := hlayout
  obtain rfl : mlp = .panelLocalThreeSpan := hmlp
  obtain ⟨rfl, hpos, hseq, hlimit⟩ := admitted_bounds hinvalid
  have hbuilt : buildLayerMajorRequestMemoryPlan cfg wholeCore (layerMajorOptions seq limit) =
      if limit < layerMajorTotal seq then .error (layerMajorExceeded seq limit)
      else .ok (layerMajorPlan seq) := by
    rw [buildLayerMajorRequestMemoryPlan]
    exact (if_neg hinvalid).trans (buildFamilyOverlay_ok cfg hpos hseq hlimit)
  have hbytes : (workspaceShape seq limit).selected.requiredBytes = layerMajorTotal seq :=
    totalsShape_selected seq
  refine ⟨workspaceShape seq limit, buildWorkspacePlan_ok cfg hpos hseq hlimit,
    workspaceShape_valid cfg hpos hseq hlimit, fun hexceeded => ?_, fun hfits => ?_⟩
  · rw [hbytes] at hexceeded
    exact ⟨layerMajorExceeded seq limit, hbuilt.trans (if_pos hexceeded), rfl⟩
  · rw [hbytes] at hfits
    refine ⟨layerMajorPlan seq, hbuilt.trans (if_neg (Nat.not_lt.mpr hfits)), hbytes.symm,
      layerMajorPlan_laid hpos, fun options ordinary hoptions hordinary => ?_⟩
    have hsame := samePersistent_built hordinary
    rw [hoptions] at hsame
    exact hsame

theorem layer_major_memory_agreement_4096 :
    ∃ workspace, buildUnboundLayerMajorPrefillWorkspacePlan {}
        (layerMajorWorkspaceOptions { maxSequenceLength := 4096 }) = .ok workspace ∧
      LayerMajorAgreement {} workspace
        (buildLayerMajorRequestMemoryPlan {} (fun _ => .ok {}) { maxSequenceLength := 4096 })
        4096 maximumRequestArenaBytes :=
  layer_major_memory_agreement {} (fun _ => .ok {}) { maxSequenceLength := 4096 } (by decide) rfl
    rfl

end Agreement

end Qwen3xOrin.Request
