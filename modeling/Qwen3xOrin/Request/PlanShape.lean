import Qwen3xOrin.Request.MemoryPlan

/-! The memory plan in closed form: where every region lies as a function of the chunk size and the
sequence length. -/

namespace Qwen3xOrin.Request

open Io Library PlanBuilder
open Prefill (LayerType)

def statefulBytes : ℕ := requestConvStateBytes + requestGdnStateBytes

def persistentTotal (seq : ℕ) : ℕ := statefulBytes + 65536 * seq

def scratchElements (seq : ℕ) : ℕ := max fp32MinimumElements (24 * seq)

def workspaceTotal (chunk seq : ℕ) : ℕ :=
  3 * (10240 * chunk) + 4 * (34816 * chunk) + 2 * alignUp (96 * chunk) +
    alignUp (4 * scratchElements seq)

def ropeTotal (seq : ℕ) : ℕ := 2 * alignUp (128 * seq)

def requestArenaTotal (chunk seq : ℕ) : ℕ :=
  persistentTotal seq + workspaceTotal chunk seq + ropeTotal seq

section Shape

variable (chunk seq : ℕ)

def convShape : RequestRegion := ⟨0, requestConvStateBytes, 1474560, 2⟩

def gdnShape : RequestRegion := ⟨requestConvStateBytes, requestGdnStateBytes, 37748736, 2⟩

def keyShape (slot : ℕ) : RequestRegion :=
  ⟨statefulBytes + slot * (4096 * seq), 2048 * seq, 1024 * seq, 2⟩

def valueShape (slot : ℕ) : RequestRegion :=
  ⟨statefulBytes + slot * (4096 * seq) + 2048 * seq, 2048 * seq, 1024 * seq, 2⟩

def hiddenShape (start index : ℕ) : RequestRegion :=
  ⟨start + index * (10240 * chunk), 10240 * chunk, 5120 * chunk, 2⟩

def projectionShape (start index : ℕ) : RequestRegion :=
  ⟨start + 3 * (10240 * chunk) + index * (34816 * chunk), 34816 * chunk, 17408 * chunk, 2⟩

def linearAShape (start : ℕ) : RequestRegion :=
  ⟨start + 3 * (10240 * chunk) + 4 * (34816 * chunk), 96 * chunk, 48 * chunk, 2⟩

def linearBShape (start : ℕ) : RequestRegion :=
  ⟨start + 3 * (10240 * chunk) + 4 * (34816 * chunk) + alignUp (96 * chunk), 96 * chunk,
    48 * chunk, 2⟩

def scratchShape (start : ℕ) : RequestRegion :=
  ⟨start + 3 * (10240 * chunk) + 4 * (34816 * chunk) + 2 * alignUp (96 * chunk),
    4 * scratchElements seq, scratchElements seq, 4⟩

def probabilityShape (start : ℕ) : RequestRegion :=
  { scratchShape chunk seq start with byteSize := 96 * seq, elementCapacity := 24 * seq }

def cosShape (start : ℕ) : RequestRegion := ⟨start, 128 * seq, 32 * seq, 4⟩

def sinShape (start : ℕ) : RequestRegion := ⟨start + alignUp (128 * seq), 128 * seq, 32 * seq, 4⟩

def layerShape (layer : ℕ) : RequestLayerSlot :=
  if (layer + 1) % 4 = 0 then { type := .fullAttention, slot := layer / 4 }
  else { type := .linearAttention, slot := layer - layer / 4 }

def requestPlan : RequestMemoryPlan :=
  let workspace := persistentTotal seq
  let rope := workspace + workspaceTotal chunk seq
  { batchSize := 1
    prefillChunkSize := chunk
    maxSequenceLength := seq
    arenaBytes := requestArenaTotal chunk seq
    persistentOffset := 0
    persistentBytes := persistentTotal seq
    workspaceOffset := workspace
    workspaceBytes := workspaceTotal chunk seq
    ropeOffset := rope
    ropeBytes := ropeTotal seq
    convState := convShape
    gdnState := gdnShape
    keyCache := fun slot => keyShape seq slot
    valueCache := fun slot => valueShape seq slot
    hiddenBf16 := fun index => hiddenShape chunk workspace index
    projectionBf16 := fun index => projectionShape chunk workspace index
    linearABf16 := linearAShape chunk workspace
    linearBBf16 := linearBShape chunk workspace
    fp32Scratch := scratchShape chunk seq workspace
    gqaProbabilityScratch := probabilityShape chunk seq workspace
    ropeCosFp32 := cosShape seq rope
    ropeSinFp32 := sinShape seq rope
    layers := fun layer => layerShape layer }

def requestShape : RequestDimensions where
  convElements := 1474560
  gdnElements := 37748736
  kvElements := 1024 * seq
  probabilityElements := 24 * seq
  ropeElements := 32 * seq
  hiddenElements := 5120 * chunk
  projectionElements := 17408 * chunk
  linearScalarElements := 48 * chunk

end Shape

lemma checkedMultiply_ok {left right : ℕ} (h : left * right ≤ uint64Max) :
    checkedMultiply left right = some (left * right) :=
  checkedMultiply_eq_some.mpr ⟨rfl, h⟩

lemma orFail_some {α : Type} {code : RequestErrorCode} {message context : String} (a : α) :
    orFail code message context (some a) = .ok a := rfl

lemma getD_range_map {α : Type} {f : ℕ → α} {count index : ℕ} {default : α}
    (h : index < count) : ((List.range count).map f).getD index default = f index := by
  simp [List.getD_eq_getElem?_getD, h]

lemma requestLayers_eq :
    requestLayers = .ok ((List.range requestLayerCount).map layerShape) := by
  decide

lemma uint64Max_eq : uint64Max = 18446744073709551615 := by norm_num [uint64Max]

section Build

variable {chunk seq : ℕ}

lemma requestDimensions_ok {options : RequestMemoryOptions}
    (hchunk : options.prefillChunkSize ≤ 512) (hseq : options.maxSequenceLength ≤ 262144) :
    requestDimensions options =
      some (requestShape options.prefillChunkSize options.maxSequenceLength) := by
  have hmax := uint64Max_eq
  unfold requestDimensions
  simp only [requestLinearLayerCount, convChannels, convHistory, gdnValueHeads,
    requestGdnHeadDimension, kvHeadCount, headDimension, queryHeadCount, ropePairs, hiddenElements,
    projectionElements, linearScalarElements]
  simp (disch := omega) only [checkedMultiply_ok, Option.bind_eq_bind, Option.bind_some,
    Option.pure_def]
  unfold requestShape
  congr 2
  · omega
  · omega
  · omega

lemma addConv_shape : add 1474560 2 0 = some (convShape, requestConvStateBytes) := by
  have hmax := uint64Max_eq
  exact add_aligned (by omega) (by omega) (by omega)

lemma addGdn_shape : add 37748736 2 requestConvStateBytes = some (gdnShape, statefulBytes) := by
  have hmax := uint64Max_eq
  exact add_aligned (by decide) (by omega) (by rw [requestConvStateBytes]; omega)

lemma align_persistentTotal (hseq : seq ≤ 262144) :
    align (persistentTotal seq) = some (persistentTotal seq) := by
  have hmax := uint64Max_eq
  simp only [persistentTotal, statefulBytes, requestConvStateBytes, requestGdnStateBytes]
  rw [align_ok (by omega), alignUp_of_dvd (by omega)]

lemma addCaches_shape (hpos : 0 < seq) (hseq : seq ≤ 262144) :
    addCaches (1024 * seq) 2 16 statefulBytes = some
      ((List.range 16).map fun slot => (keyShape seq slot, valueShape seq slot),
        persistentTotal seq) := by
  have hmax := uint64Max_eq
  simp only [statefulBytes, requestConvStateBytes, requestGdnStateBytes, persistentTotal]
  rw [addCaches_ok (by omega) (by omega) (by omega) (by omega)]
  congr 2
  · refine List.map_congr_left fun slot _ => ?_
    simp only [keyShape, valueShape, statefulBytes, requestConvStateBytes, requestGdnStateBytes,
      Prod.mk.injEq, RequestRegion.mk.injEq, and_true]
    refine ⟨⟨?_, ?_⟩, ?_, ?_⟩ <;> ring
  · ring

lemma buildPersistent_ok (hpos : 0 < seq) (hseq : seq ≤ 262144) (plan : RequestMemoryPlan) :
    buildPersistent (requestShape chunk seq) plan = .ok
      ({ plan with
          persistentOffset := 0
          persistentBytes := persistentTotal seq
          convState := convShape
          gdnState := gdnShape
          keyCache := fun slot => keyShape seq slot
          valueCache := fun slot => valueShape seq slot }, persistentTotal seq) := by
  unfold buildPersistent
  simp only [requestShape, bf16Bytes, requestFullLayerCount, addConv_shape, addGdn_shape,
    Option.bind_eq_bind, Option.bind_some, Option.pure_def, orFail_some, ok_bind,
    addCaches_shape hpos hseq, align_persistentTotal hseq, getD_range_map (Fin.isLt _),
    Nat.sub_zero]
  rfl

lemma scratchElements_le (hseq : seq ≤ 262144) : scratchElements seq ≤ 6291456 := by
  simp only [scratchElements, fp32MinimumElements]
  omega

lemma scratchElements_pos (seq : ℕ) : 262144 ≤ scratchElements seq := le_max_left _ _

section Workspace

variable {start : ℕ} (hstart : 256 ∣ start) (hfits : start ≤ 2 ^ 40) (hpos : 0 < chunk)
  (hchunk : chunk ≤ 512)

include hstart hfits hpos hchunk

lemma addHidden_shape :
    addEach (5120 * chunk) 2 3 start = some
      ((List.range 3).map (hiddenShape chunk start), start + 3 * (10240 * chunk)) := by
  have hmax := uint64Max_eq
  rw [addEach_ok hstart (by omega) (by omega) (by omega)]
  congr 2
  · refine List.map_congr_left fun index _ => ?_
    simp only [hiddenShape, RequestRegion.mk.injEq, and_true]
    refine ⟨?_, ?_⟩ <;> ring
  · ring

lemma addProjection_shape :
    addEach (17408 * chunk) 2 4 (start + 3 * (10240 * chunk)) = some
      ((List.range 4).map (projectionShape chunk start),
        start + 3 * (10240 * chunk) + 4 * (34816 * chunk)) := by
  have hmax := uint64Max_eq
  rw [addEach_ok (by omega) (by omega) (by omega) (by omega)]
  congr 2
  · refine List.map_congr_left fun index _ => ?_
    simp only [projectionShape, RequestRegion.mk.injEq, and_true]
    refine ⟨?_, ?_⟩ <;> ring
  · ring

lemma addLinearA_shape :
    add (48 * chunk) 2 (start + 3 * (10240 * chunk) + 4 * (34816 * chunk)) = some
      (linearAShape chunk start,
        start + 3 * (10240 * chunk) + 4 * (34816 * chunk) + 96 * chunk) := by
  have hmax := uint64Max_eq
  exact add_at (alignUp_of_dvd (by omega)) (by ring) (by omega) (by omega)

lemma addLinearB_shape :
    add (48 * chunk) 2 (start + 3 * (10240 * chunk) + 4 * (34816 * chunk) + 96 * chunk) = some
      (linearBShape chunk start, start + 3 * (10240 * chunk) + 4 * (34816 * chunk) +
        alignUp (96 * chunk) + 96 * chunk) := by
  have hmax := uint64Max_eq
  exact add_at (alignUp_add (by omega) _) (by ring) (by omega) (by omega)

variable (hseq : seq ≤ 262144)

include hseq

lemma addScratch_shape :
    add (scratchElements seq) 4 (start + 3 * (10240 * chunk) + 4 * (34816 * chunk) +
        alignUp (96 * chunk) + 96 * chunk) = some
      (scratchShape chunk seq start, start + 3 * (10240 * chunk) + 4 * (34816 * chunk) +
        2 * alignUp (96 * chunk) + 4 * scratchElements seq) := by
  have hmax := uint64Max_eq
  have hscratch := scratchElements_le hseq
  have hscratch' := scratchElements_pos seq
  have hround := alignUp_eq (96 * chunk)
  refine add_at ?_ (Nat.mul_comm _ _) (by omega) (by omega)
  rw [alignUp_add (by omega)]
  ring

lemma align_workspaceTotal :
    align (start + 3 * (10240 * chunk) + 4 * (34816 * chunk) + 2 * alignUp (96 * chunk) +
      4 * scratchElements seq) = some (start + workspaceTotal chunk seq) := by
  have hmax := uint64Max_eq
  have hscratch := scratchElements_le hseq
  have hround := alignUp_eq (96 * chunk)
  rw [align_ok (by omega), alignUp_add (by omega), workspaceTotal]
  congr 1
  ring

lemma buildWorkspace_ok (plan : RequestMemoryPlan) :
    buildWorkspace (requestShape chunk seq) plan start = .ok
      ({ plan with
          workspaceOffset := start
          workspaceBytes := workspaceTotal chunk seq
          hiddenBf16 := fun index => hiddenShape chunk start index
          projectionBf16 := fun index => projectionShape chunk start index
          linearABf16 := linearAShape chunk start
          linearBBf16 := linearBShape chunk start
          fp32Scratch := scratchShape chunk seq start
          gqaProbabilityScratch := probabilityShape chunk seq start },
        start + workspaceTotal chunk seq) := by
  have hmax := uint64Max_eq
  have hprobability : wrap (24 * seq * 4) = 96 * seq := by
    rw [wrap_eq (by omega)]
    ring
  have hcapacity : max fp32MinimumElements (24 * seq) = scratchElements seq := rfl
  unfold buildWorkspace
  simp only [requestShape, bf16Bytes, fp32Bytes, requestHiddenBufferCount,
    requestProjectionBufferCount, addHidden_shape hstart hfits hpos hchunk,
    addProjection_shape hstart hfits hpos hchunk, addLinearA_shape hstart hfits hpos hchunk,
    addLinearB_shape hstart hfits hpos hchunk, hcapacity,
    addScratch_shape hstart hfits hpos hchunk hseq,
    align_workspaceTotal hstart hfits hpos hchunk hseq, Option.bind_eq_bind, Option.bind_some, Option.pure_def, orFail_some, ok_bind,
    getD_range_map (Fin.isLt _), hprobability, Nat.add_sub_cancel_left]
  rfl

end Workspace

section Rope

variable {start : ℕ} (hstart : 256 ∣ start) (hfits : start ≤ 2 ^ 40)

include hstart hfits

lemma addCos_shape (hpos : 0 < seq) (hseq : seq ≤ 262144) :
    add (32 * seq) 4 start = some (cosShape seq start, start + 128 * seq) := by
  have hmax := uint64Max_eq
  exact add_at (alignUp_of_dvd hstart) (by ring) (by omega) (by omega)

lemma addSin_shape (hpos : 0 < seq) (hseq : seq ≤ 262144) :
    add (32 * seq) 4 (start + 128 * seq) = some
      (sinShape seq start, start + alignUp (128 * seq) + 128 * seq) := by
  have hmax := uint64Max_eq
  exact add_at (alignUp_add hstart _) (by ring) (by omega) (by omega)

lemma align_ropeTotal (hseq : seq ≤ 262144) :
    align (start + alignUp (128 * seq) + 128 * seq) = some (start + ropeTotal seq) := by
  have hmax := uint64Max_eq
  have hround := alignUp_eq (128 * seq)
  rw [align_ok (by omega), alignUp_add (Dvd.dvd.add hstart (alignUp_dvd _)), ropeTotal]
  congr 1
  ring

lemma buildRope_ok (hpos : 0 < seq) (hseq : seq ≤ 262144) (plan : RequestMemoryPlan) :
    buildRope (requestShape chunk seq) plan start = .ok
      { plan with
        ropeOffset := start
        ropeBytes := ropeTotal seq
        arenaBytes := start + ropeTotal seq
        ropeCosFp32 := cosShape seq start
        ropeSinFp32 := sinShape seq start } := by
  unfold buildRope
  simp only [requestShape, fp32Bytes, addCos_shape hstart hfits hpos hseq,
    addSin_shape hstart hfits hpos hseq, align_ropeTotal hstart hfits hseq, Option.bind_eq_bind,
    Option.bind_some, Option.pure_def, orFail_some, ok_bind, Nat.add_sub_cancel_left]
  rfl

end Rope

end Build

structure Admitted (options : RequestMemoryOptions) : Prop where
  batch : options.batchSize = 1
  seq_pos : 0 < options.maxSequenceLength
  seq_le : options.maxSequenceLength ≤ absoluteRequestMaxSequenceLength
  chunk_pos : 0 < options.prefillChunkSize
  chunk_le : options.prefillChunkSize ≤ maximumRequestPrefillChunkSize
  limit_pos : 0 < options.maxArenaBytes
  limit_le : options.maxArenaBytes ≤ maximumConfigurableArenaBytes

def exceeded (options : RequestMemoryOptions) : RequestDiagnostic where
  code := .arenaLimitExceeded
  message := "request arena exceeds configured max_arena_bytes"
  context := "max_arena_bytes"
  expected := toString options.maxArenaBytes
  actual := toString (requestArenaTotal options.prefillChunkSize options.maxSequenceLength)

lemma buildRequestMemoryPlan_of_admitted {options : RequestMemoryOptions}
    (h : Admitted options) :
    buildRequestMemoryPlan options =
      if options.maxArenaBytes <
          requestArenaTotal options.prefillChunkSize options.maxSequenceLength then
        .error (exceeded options)
      else .ok (requestPlan options.prefillChunkSize options.maxSequenceLength) := by
  obtain ⟨hbatch, hseq, hseq', hchunk, hchunk', hlimit, hlimit'⟩ := h
  have hchecks : ¬(options.batchSize ≠ 1 ∨ options.maxSequenceLength = 0 ∨
      options.prefillChunkSize = 0 ∨
      maximumRequestPrefillChunkSize < options.prefillChunkSize ∨ options.maxArenaBytes = 0 ∨
      maximumConfigurableArenaBytes < options.maxArenaBytes) := by
    omega
  simp only [absoluteRequestMaxSequenceLength] at hseq'
  simp only [maximumRequestPrefillChunkSize] at hchunk'
  have hpersistent : persistentTotal options.maxSequenceLength ≤ 2 ^ 39 := by
    simp only [persistentTotal, statefulBytes, requestConvStateBytes, requestGdnStateBytes]
    omega
  have hworkspace : 256 ∣ persistentTotal options.maxSequenceLength := by
    simp only [persistentTotal, statefulBytes, requestConvStateBytes, requestGdnStateBytes]
    omega
  have hrope : 256 ∣ persistentTotal options.maxSequenceLength +
      workspaceTotal options.prefillChunkSize options.maxSequenceLength := by
    simp only [workspaceTotal, alignUp_eq]
    omega
  have hfits : persistentTotal options.maxSequenceLength +
      workspaceTotal options.prefillChunkSize options.maxSequenceLength ≤ 2 ^ 40 := by
    have hscratch := scratchElements_le hseq'
    simp only [workspaceTotal, alignUp_eq]
    omega
  unfold buildRequestMemoryPlan
  rw [if_neg hchecks, requestDimensions_ok hchunk' hseq', orFail_some, ok_bind,
    if_neg (by simp only [absoluteRequestMaxSequenceLength]; omega)]
  dsimp only
  rw [buildPersistent_ok hseq hseq', ok_bind]
  dsimp only
  rw [buildWorkspace_ok hworkspace (by omega) hchunk hchunk' hseq', ok_bind]
  dsimp only
  rw [buildRope_ok hrope hfits hseq hseq', ok_bind, requestLayers_eq, ok_bind]
  dsimp only
  rw [if_neg (by decide)]
  simp only [hbatch, getD_range_map (Fin.isLt _)]
  rfl

lemma buildRequestMemoryPlan_of_not_admitted {options : RequestMemoryOptions}
    (h : ¬Admitted options) :
    ∃ diagnostic, buildRequestMemoryPlan options = .error diagnostic ∧
      diagnostic.code ≠ .arenaLimitExceeded := by
  unfold buildRequestMemoryPlan
  split_ifs with hchecks hseq
  · exact ⟨_, rfl, by decide⟩
  · cases requestDimensions options with
    | none => exact ⟨_, rfl, by decide⟩
    | some dimensions => exact ⟨_, rfl, by simp⟩
  · exact absurd
      ⟨by omega, by omega, by omega, by omega, by omega, by omega, by omega⟩ h

end Qwen3xOrin.Request
