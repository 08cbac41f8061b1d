import Qwen3xOrin.Library.Arena
import Qwen3xOrin.Request.PlanShape

/-! The layout of a planned request arena: its regions and the views into them never overlap. -/

namespace Qwen3xOrin.Request

open Io Library Library.Arena
open Prefill (LayerType)

section Regions

variable (plan : RequestMemoryPlan)

def persistentRegions : List RequestRegion :=
  [plan.convState, plan.gdnState] ++
    (List.finRange requestFullLayerCount).flatMap fun slot =>
      [plan.keyCache slot, plan.valueCache slot]

def workspaceRegions : List RequestRegion :=
  (List.finRange requestHiddenBufferCount).map plan.hiddenBf16 ++
    (List.finRange requestProjectionBufferCount).map plan.projectionBf16 ++
    [plan.linearABf16, plan.linearBBf16, plan.fp32Scratch]

def ropeRegions : List RequestRegion := [plan.ropeCosFp32, plan.ropeSinFp32]

def Apart (a b : RequestRegion) : Prop := Disjoint (·.arenaOffset) (·.byteSize) a b

def Within (start bytes : ℕ) (region : RequestRegion) : Prop :=
  requestArenaAlignment ∣ region.arenaOffset ∧ 0 < region.byteSize ∧
    start ≤ region.arenaOffset ∧ region.arenaOffset + region.byteSize ≤ start + bytes

def Exact (region : RequestRegion) : Prop :=
  region.byteSize = region.elementCapacity * region.elementSizeBytes

structure ArenaLaid : Prop where
  persistent : ∀ region ∈ persistentRegions plan,
    Within plan.persistentOffset plan.persistentBytes region
  workspace : ∀ region ∈ workspaceRegions plan,
    Within plan.workspaceOffset plan.workspaceBytes region
  rope : ∀ region ∈ ropeRegions plan, Within plan.ropeOffset plan.ropeBytes region
  apart : (persistentRegions plan ++ workspaceRegions plan ++ ropeRegions plan).Pairwise Apart
  sections : plan.persistentOffset = 0 ∧
    plan.workspaceOffset = plan.persistentOffset + plan.persistentBytes ∧
    plan.ropeOffset = plan.workspaceOffset + plan.workspaceBytes ∧
    plan.arenaBytes = plan.ropeOffset + plan.ropeBytes
  fits : plan.arenaBytes ≤ uint64Max
  exact : ∀ region ∈ plan.gqaProbabilityScratch ::
    (persistentRegions plan ++ workspaceRegions plan ++ ropeRegions plan), Exact region
  probability : plan.gqaProbabilityScratch.arenaOffset = plan.fp32Scratch.arenaOffset ∧
    plan.gqaProbabilityScratch.byteSize ≤ plan.fp32Scratch.byteSize ∧
    plan.gqaProbabilityScratch.elementSizeBytes = plan.fp32Scratch.elementSizeBytes

end Regions

section Views

inductive ViewKey
  | conv (layer : ℕ)
  | gdn (layer : ℕ)
  | key (layer position : ℕ)
  | value (layer position : ℕ)
  | cos (position : ℕ)
  | sin (position : ℕ)
  deriving DecidableEq

variable (plan : RequestMemoryPlan)

def view : ViewKey → Except RequestAccessError RequestRegion
  | .conv layer => convState plan layer
  | .gdn layer => gdnState plan layer
  | .key layer position => keyPosition plan layer position
  | .value layer position => valuePosition plan layer position
  | .cos position => ropeCos plan position
  | .sin position => ropeSin plan position

-- The region a view belongs to, by the accessor that returns it.
def viewOwner : ViewKey → Except RequestAccessError RequestRegion
  | .conv _ => .ok plan.convState
  | .gdn _ => .ok plan.gdnState
  | .key layer _ => keyCache plan layer
  | .value layer _ => valueCache plan layer
  | .cos _ => .ok plan.ropeCosFp32
  | .sin _ => .ok plan.ropeSinFp32

-- How many views of the same size lie before it in its region.
def viewOrdinal : ViewKey → ℕ
  | .conv layer => layer - layer / 4
  | .gdn layer => layer - layer / 4
  | .key _ position => position
  | .value _ position => position
  | .cos position => position
  | .sin position => position

def ViewKey.Admitted : ViewKey → Prop
  | .conv layer => layer < requestLayerCount ∧ scheduledType layer = .linearAttention
  | .gdn layer => layer < requestLayerCount ∧ scheduledType layer = .linearAttention
  | .key layer position => layer < requestLayerCount ∧ scheduledType layer = .fullAttention ∧
    position < plan.maxSequenceLength
  | .value layer position => layer < requestLayerCount ∧ scheduledType layer = .fullAttention ∧
    position < plan.maxSequenceLength
  | .cos position => position < plan.maxSequenceLength
  | .sin position => position < plan.maxSequenceLength

structure ViewsLaid : Prop where
  defined : ∀ key, (∃ region, view plan key = .ok region) ↔ key.Admitted plan
  exact : ∀ key region, view plan key = .ok region → 0 < region.byteSize ∧ Exact region
  inside : ∀ key region, view plan key = .ok region → ∃ owner,
    viewOwner plan key = .ok owner ∧ owner ∈ persistentRegions plan ++ ropeRegions plan ∧
      region.arenaOffset = owner.arenaOffset + viewOrdinal key * region.byteSize ∧
      region.arenaOffset + region.byteSize ≤ owner.arenaOffset + owner.byteSize
  apart : ∀ key key' region region', key ≠ key' → view plan key = .ok region →
    view plan key' = .ok region' → Apart region region'

end Views

section Laid

variable {chunk seq : ℕ}

lemma persistent_placed (hseq : 0 < seq) :
    Placed RequestRegion.arenaOffset RequestRegion.byteSize 256 0
      (persistentRegions (requestPlan chunk seq)) (persistentTotal seq) := by
  have hstate : Placed RequestRegion.arenaOffset RequestRegion.byteSize 256 0
      [convShape, gdnShape] statefulBytes := by
    refine ⟨Nat.le_refl _, ⟨0, rfl⟩, by decide, Nat.le_refl _, by decide, by decide, ?_⟩
    exact Nat.le_refl _
  have hrow (slot : ℕ) : Placed RequestRegion.arenaOffset RequestRegion.byteSize 256
      (statefulBytes + slot * (4096 * seq)) [keyShape seq slot, valueShape seq slot]
      (statefulBytes + (slot + 1) * (4096 * seq)) := by
    have haligned : 256 ∣ slot * (4096 * seq) := ⟨slot * (16 * seq), by ring⟩
    have hstateful : 256 ∣ statefulBytes := by decide
    have hnext : (slot + 1) * (4096 * seq) = slot * (4096 * seq) + 4096 * seq := by ring
    rw [hnext]
    simp only [Placed, keyShape, valueShape]
    omega
  have hcaches := Placed.rows hrow requestFullLayerCount
  have hlist : ((List.finRange requestFullLayerCount).flatMap
      fun slot : Fin requestFullLayerCount => [keyShape seq slot, valueShape seq slot]) =
      (List.range requestFullLayerCount).flatMap fun slot =>
        [keyShape seq slot, valueShape seq slot] := by
    rw [← List.map_coe_finRange_eq_range, List.flatMap_map]
  have htotal : statefulBytes + requestFullLayerCount * (4096 * seq) = persistentTotal seq := by
    simp only [persistentTotal, requestFullLayerCount]
    ring
  rw [← hlist, htotal] at hcaches
  exact hstate.append hcaches

lemma workspace_placed (hchunk : 0 < chunk) {start : ℕ} (hstart : 256 ∣ start) :
    Placed RequestRegion.arenaOffset RequestRegion.byteSize 256 start
      ([hiddenShape chunk start 0, hiddenShape chunk start 1, hiddenShape chunk start 2,
        projectionShape chunk start 0, projectionShape chunk start 1,
        projectionShape chunk start 2, projectionShape chunk start 3, linearAShape chunk start,
        linearBShape chunk start, scratchShape chunk seq start])
      (start + workspaceTotal chunk seq) := by
  have hscratch := scratchElements_pos seq
  have hlinear := alignUp_eq (96 * chunk)
  have hfp32 := alignUp_eq (4 * scratchElements seq)
  simp only [Placed, hiddenShape, projectionShape, linearAShape, linearBShape, scratchShape,
    workspaceTotal]
  omega

lemma rope_placed (hseq : 0 < seq) {start : ℕ} (hstart : 256 ∣ start) :
    Placed RequestRegion.arenaOffset RequestRegion.byteSize 256 start
      [cosShape seq start, sinShape seq start] (start + ropeTotal seq) := by
  have htable := alignUp_eq (128 * seq)
  simp only [Placed, cosShape, sinShape, ropeTotal]
  omega

lemma persistentTotal_dvd (seq : ℕ) : 256 ∣ persistentTotal seq := by
  simp only [persistentTotal, statefulBytes, requestConvStateBytes, requestGdnStateBytes]
  omega

lemma workspaceTotal_dvd (chunk seq : ℕ) : 256 ∣ workspaceTotal chunk seq := by
  simp only [workspaceTotal, alignUp_eq]
  omega

lemma exact_persistent : ∀ region ∈ persistentRegions (requestPlan chunk seq), Exact region := by
  intro region hregion
  simp only [persistentRegions, requestPlan, List.cons_append, List.nil_append, List.mem_cons,
    List.mem_flatMap, List.not_mem_nil, or_false] at hregion
  obtain rfl | rfl | ⟨slot, -, rfl | rfl⟩ := hregion
  · rfl
  · rfl
  · simp only [Exact, keyShape]
    ring
  · simp only [Exact, valueShape]
    ring

lemma exact_workspace : ∀ region ∈ workspaceRegions (requestPlan chunk seq), Exact region := by
  intro region hregion
  simp only [workspaceRegions, requestPlan, List.mem_append, List.mem_map, List.mem_cons,
    List.not_mem_nil, or_false] at hregion
  obtain (⟨index, -, rfl⟩ | ⟨index, -, rfl⟩) | rfl | rfl | rfl := hregion <;>
    simp only [Exact, hiddenShape, projectionShape, linearAShape, linearBShape, scratchShape] <;>
    ring

lemma requestPlan_laid (hchunk : 0 < chunk) (hchunk' : chunk ≤ 512) (hseq : 0 < seq)
    (hseq' : seq ≤ 262144) : ArenaLaid (requestPlan chunk seq) := by
  have hrope : 256 ∣ persistentTotal seq + workspaceTotal chunk seq :=
    Dvd.dvd.add (persistentTotal_dvd seq) (workspaceTotal_dvd chunk seq)
  have hpersistent := @persistent_placed chunk seq hseq
  have hworkspace := @workspace_placed chunk seq hchunk _ (persistentTotal_dvd seq)
  have htables := @rope_placed seq hseq _ hrope
  have hall := (hpersistent.append hworkspace).append htables
  exact
    { persistent := fun region hregion => by
        obtain ⟨haligned, hsize, hstart, hstop⟩ := hpersistent.mem hregion
        exact ⟨haligned, hsize, hstart, hstop.trans (Nat.le_add_left _ _)⟩
      workspace := fun region hregion => hworkspace.mem hregion
      rope := fun region hregion => htables.mem hregion
      apart := hall.pairwise
      sections := ⟨rfl, (Nat.zero_add _).symm, rfl, rfl⟩
      fits := by
        have hmax := uint64Max_eq
        have hscratch := scratchElements_le hseq'
        simp only [requestPlan, requestArenaTotal, persistentTotal, statefulBytes,
          requestConvStateBytes, requestGdnStateBytes, workspaceTotal, ropeTotal, alignUp_eq]
        omega
      exact := by
        intro region hregion
        simp only [List.mem_cons, List.mem_append] at hregion
        obtain rfl | (hregion | hregion) | hregion := hregion
        · simp only [Exact, requestPlan, probabilityShape, scratchShape]
          ring
        · exact exact_persistent region hregion
        · exact exact_workspace region hregion
        · simp only [ropeRegions, requestPlan, List.mem_cons, List.not_mem_nil, or_false] at hregion
          obtain rfl | rfl := hregion <;> simp only [Exact, cosShape, sinShape] <;> ring
      probability := by
        refine ⟨rfl, ?_, rfl⟩
        simp only [requestPlan, probabilityShape, scratchShape, scratchElements]
        omega }

end Laid

section ViewShape

lemma mapRequestLayer_ok {layer : ℕ} {type : LayerType} {slot : RequestLayerSlot} :
    mapRequestLayer layer type = .ok slot ↔
      layer < requestLayerCount ∧ scheduledType layer = type ∧ slot = layerShape layer := by
  by_cases hlayer : requestLayerCount ≤ layer
  · rw [mapRequestLayer, if_pos hlayer]
    simp [Nat.not_lt.mpr hlayer]
  have hlt : layer < 64 := Nat.lt_of_not_le hlayer
  rw [mapRequestLayer, if_neg hlayer]
  by_cases hfull : (layer + 1) % 4 = 0
  · have hslot : ¬16 ≤ layer / 4 := by omega
    simp only [scheduledType, layerShape, hfull, if_true, requestLinearLayerCount,
      requestFullLayerCount, Nat.lt_of_not_le hlayer, true_and]
    cases type <;> simp [hslot, eq_comm]
  · have hslot : ¬48 ≤ layer - layer / 4 := by omega
    simp only [scheduledType, layerShape, hfull, if_false, requestLinearLayerCount,
      requestFullLayerCount, Nat.lt_of_not_le hlayer, true_and]
    cases type <;> simp [hslot, eq_comm]

variable (chunk seq : ℕ)

def ropeStart : ℕ := persistentTotal seq + workspaceTotal chunk seq

def viewShape : ViewKey → RequestRegion
  | .conv layer => ⟨(layer - layer / 4) * 61440, 61440, 30720, 2⟩
  | .gdn layer => ⟨requestConvStateBytes + (layer - layer / 4) * 1572864, 1572864, 786432, 2⟩
  | .key layer position =>
    ⟨statefulBytes + layer / 4 * (4096 * seq) + position * 2048, 2048, 1024, 2⟩
  | .value layer position =>
    ⟨statefulBytes + layer / 4 * (4096 * seq) + 2048 * seq + position * 2048, 2048, 1024, 2⟩
  | .cos position => ⟨ropeStart chunk seq + position * 128, 128, 32, 4⟩
  | .sin position => ⟨ropeStart chunk seq + alignUp (128 * seq) + position * 128, 128, 32, 4⟩

variable {chunk seq}

lemma layerShape_linear {layer : ℕ} (h : scheduledType layer = .linearAttention) :
    layerShape layer = { type := .linearAttention, slot := layer - layer / 4 } := by
  simp only [scheduledType, ite_eq_right_iff, reduceCtorEq, imp_false] at h
  exact if_neg h

lemma layerShape_full {layer : ℕ} (h : scheduledType layer = .fullAttention) :
    layerShape layer = { type := .fullAttention, slot := layer / 4 } := by
  simp only [scheduledType, ite_eq_left_iff, reduceCtorEq, imp_false, Decidable.not_not] at h
  exact if_pos h

lemma linearView_ok {layer : ℕ} {region : RequestRegion} {f : RequestLayerSlot → RequestRegion} :
    (mapRequestLayer layer .linearAttention >>= fun mapped => pure (f mapped)) = .ok region ↔
      (layer < requestLayerCount ∧ scheduledType layer = .linearAttention) ∧
        region = f { type := .linearAttention, slot := layer - layer / 4 } := by
  rw [bind_ok]
  constructor
  · rintro ⟨slot, hslot, hregion⟩
    obtain ⟨hlayer, htype, rfl⟩ := mapRequestLayer_ok.1 hslot
    rw [layerShape_linear htype] at hregion
    exact ⟨⟨hlayer, htype⟩, (Except.ok.inj hregion).symm⟩
  · rintro ⟨⟨hlayer, htype⟩, rfl⟩
    exact ⟨layerShape layer, mapRequestLayer_ok.2 ⟨hlayer, htype, rfl⟩,
      by rw [layerShape_linear htype]; rfl⟩

lemma cacheOf_ok {caches : ℕ → RequestRegion} {layer : ℕ} {region : RequestRegion} :
    cacheOf (fun slot => caches slot) layer = .ok region ↔
      (layer < requestLayerCount ∧ scheduledType layer = .fullAttention) ∧
        region = caches (layer / 4) := by
  rw [cacheOf, bind_ok]
  constructor
  · rintro ⟨slot, hslot, hregion⟩
    obtain ⟨hlayer, htype, rfl⟩ := mapRequestLayer_ok.1 hslot
    rw [layerShape_full htype] at hregion
    split_ifs at hregion
    · exact ⟨⟨hlayer, htype⟩, (Except.ok.inj hregion).symm⟩
  · rintro ⟨⟨hlayer, htype⟩, rfl⟩
    refine ⟨layerShape layer, mapRequestLayer_ok.2 ⟨hlayer, htype, rfl⟩, ?_⟩
    have hslot : layer / 4 < requestFullLayerCount := by
      simp only [requestLayerCount] at hlayer
      simp only [requestFullLayerCount]
      omega
    rw [layerShape_full htype, dif_pos hslot]
    rfl

lemma wrap_small {value : ℕ} (h : value ≤ 2 ^ 40) : wrap value = value := by
  have hmax := uint64Max_eq
  exact wrap_eq (by omega)

lemma slot_lt {layer : ℕ} (h : layer < requestLayerCount) : layer - layer / 4 < 49 := by
  simp only [requestLayerCount] at h
  omega

lemma cacheStart_le {layer : ℕ} (h : layer < requestLayerCount) (hseq : seq ≤ 262144) :
    statefulBytes + layer / 4 * (4096 * seq) + 4096 * seq ≤ 2 ^ 39 := by
  simp only [requestLayerCount] at h
  have hslot : layer / 4 * (4096 * seq) ≤ 15 * (4096 * seq) :=
    Nat.mul_le_mul_right _ (by omega)
  simp only [statefulBytes, requestConvStateBytes, requestGdnStateBytes]
  omega

lemma ropeStart_le (hchunk : chunk ≤ 512) (hseq : seq ≤ 262144) :
    ropeStart chunk seq + ropeTotal seq ≤ 2 ^ 39 := by
  have hscratch := scratchElements_le hseq
  simp only [ropeStart, persistentTotal, statefulBytes, requestConvStateBytes,
    requestGdnStateBytes, workspaceTotal, ropeTotal, alignUp_eq]
  omega

lemma subregion_eq {owner : RequestRegion} {index elements size : ℕ}
    (hindex : index * elements ≤ 2 ^ 39) (hoffset : index * elements * size ≤ 2 ^ 39)
    (hbytes : elements * size ≤ 2 ^ 39) (howner : owner.arenaOffset ≤ 2 ^ 39) :
    subregion owner (wrap (wrap (index * elements) * size)) elements size =
      ⟨owner.arenaOffset + index * (elements * size), elements * size, elements, size⟩ := by
  rw [subregion, wrap_small (show index * elements ≤ 2 ^ 40 by omega),
    wrap_small (show index * elements * size ≤ 2 ^ 40 by omega),
    wrap_small (show owner.arenaOffset + index * elements * size ≤ 2 ^ 40 by omega),
    wrap_small (show elements * size ≤ 2 ^ 40 by omega), Nat.mul_assoc]

lemma cachePosition_ok {cache region : RequestRegion} {position : ℕ} (hseq : seq ≤ 262144)
    (hcache : cache.arenaOffset ≤ 2 ^ 39) :
    cachePosition (requestPlan chunk seq) cache position = .ok region ↔
      position < seq ∧ region = ⟨cache.arenaOffset + position * 2048, 2048, 1024, 2⟩ := by
  have hlength : (requestPlan chunk seq).maxSequenceLength = seq := rfl
  rw [cachePosition, hlength]
  by_cases hposition : seq ≤ position
  · simp [hposition]
  · have hrow := @subregion_eq cache position 1024 2 (by omega) (by omega) (by omega) hcache
    rw [if_neg hposition]
    change Except.ok (subregion cache (wrap (wrap (position * 1024) * 2)) 1024 2) = _ ↔ _
    rw [hrow, Except.ok.injEq, eq_comm]
    simp [Nat.lt_of_not_le hposition]

lemma ropeRow_ok {table region : RequestRegion} {position : ℕ} (hseq : seq ≤ 262144)
    (htable : table.arenaOffset ≤ 2 ^ 39) :
    ropeRow (requestPlan chunk seq) table position = .ok region ↔
      position < seq ∧ region = ⟨table.arenaOffset + position * 128, 128, 32, 4⟩ := by
  have hlength : (requestPlan chunk seq).maxSequenceLength = seq := rfl
  rw [ropeRow, hlength]
  by_cases hposition : seq ≤ position
  · simp [hposition]
  · have hrow := @subregion_eq table position 32 4 (by omega) (by omega) (by omega) htable
    rw [if_neg hposition]
    change Except.ok (subregion table (wrap (wrap (position * 32) * 4)) 32 4) = _ ↔ _
    rw [hrow, Except.ok.injEq, eq_comm]
    simp [Nat.lt_of_not_le hposition]

lemma cacheView_ok {caches : ℕ → RequestRegion} {layer position : ℕ} {region : RequestRegion}
    (hseq : seq ≤ 262144)
    (hcaches : layer < requestLayerCount → (caches (layer / 4)).arenaOffset ≤ 2 ^ 39) :
    (cacheOf (fun slot => caches slot) layer >>= fun cache =>
        cachePosition (requestPlan chunk seq) cache position) = .ok region ↔
      (layer < requestLayerCount ∧ scheduledType layer = .fullAttention ∧ position < seq) ∧
        region = ⟨(caches (layer / 4)).arenaOffset + position * 2048, 2048, 1024, 2⟩ := by
  rw [bind_ok]
  constructor
  · rintro ⟨cache, hcache, hregion⟩
    obtain ⟨⟨hlayer, htype⟩, rfl⟩ := cacheOf_ok.1 hcache
    obtain ⟨hposition, rfl⟩ := (cachePosition_ok hseq (hcaches hlayer)).mp hregion
    exact ⟨⟨hlayer, htype, hposition⟩, rfl⟩
  · rintro ⟨⟨hlayer, htype, hposition⟩, rfl⟩
    exact ⟨_, cacheOf_ok.2 ⟨⟨hlayer, htype⟩, rfl⟩,
      (cachePosition_ok hseq (hcaches hlayer)).mpr ⟨hposition, rfl⟩⟩

lemma view_ok (hchunk : chunk ≤ 512) (hseq : seq ≤ 262144) {key : ViewKey}
    {region : RequestRegion} :
    view (requestPlan chunk seq) key = .ok region ↔
      key.Admitted (requestPlan chunk seq) ∧ region = viewShape chunk seq key := by
  have hrope := ropeStart_le hchunk hseq
  cases key with
  | conv layer =>
    refine linearView_ok.trans (and_congr_right fun h => ?_)
    have hslot := slot_lt h.1
    have hview := @subregion_eq convShape (layer - layer / 4) 30720 2 (by omega) (by omega)
      (by omega) (by decide)
    change region = subregion convShape (wrap (wrap ((layer - layer / 4) * 30720) * 2)) 30720 2 ↔ _
    rw [hview, convShape, Nat.zero_add]
    rfl
  | gdn layer =>
    refine linearView_ok.trans (and_congr_right fun h => ?_)
    have hslot := slot_lt h.1
    have hview := @subregion_eq gdnShape (layer - layer / 4) 786432 2 (by omega) (by omega)
      (by omega) (by decide)
    change region =
      subregion gdnShape (wrap (wrap ((layer - layer / 4) * 786432) * 2)) 786432 2 ↔ _
    rw [hview]
    rfl
  | key layer position =>
    refine @cacheView_ok chunk seq (keyShape seq) layer position region hseq fun hlayer => ?_
    have hstart := cacheStart_le hlayer hseq
    simp only [keyShape]
    omega
  | value layer position =>
    refine @cacheView_ok chunk seq (valueShape seq) layer position region hseq fun hlayer => ?_
    have hstart := cacheStart_le hlayer hseq
    simp only [valueShape]
    omega
  | cos position => exact ropeRow_ok hseq ((Nat.le_add_right _ _).trans hrope)
  | sin position =>
    refine ropeRow_ok hseq (le_trans ?_ hrope)
    rw [ropeTotal]
    change ropeStart chunk seq + alignUp (128 * seq) ≤ _
    omega

end ViewShape

section Apart

variable (chunk seq : ℕ)

-- The key and value caches of all slots are one table of positions.
def viewRank : ViewKey → ℕ
  | .conv _ => 0
  | .gdn _ => 1
  | .key _ _ => 2
  | .value _ _ => 2
  | .cos _ => 3
  | .sin _ => 4

def viewTable : ViewKey → Table
  | .conv _ => ⟨0, 61440, 48⟩
  | .gdn _ => ⟨requestConvStateBytes, 1572864, 48⟩
  | .key _ _ => ⟨statefulBytes, 2048, 32 * seq⟩
  | .value _ _ => ⟨statefulBytes, 2048, 32 * seq⟩
  | .cos _ => ⟨ropeStart chunk seq, 128, seq⟩
  | .sin _ => ⟨ropeStart chunk seq + alignUp (128 * seq), 128, seq⟩

def viewIndex : ViewKey → ℕ
  | .conv layer => layer - layer / 4
  | .gdn layer => layer - layer / 4
  | .key layer position => 2 * (layer / 4) * seq + position
  | .value layer position => (2 * (layer / 4) + 1) * seq + position
  | .cos position => position
  | .sin position => position

variable {chunk seq} {key key' : ViewKey}

lemma scheduledType_linear {layer : ℕ} :
    scheduledType layer = .linearAttention ↔ (layer + 1) % 4 ≠ 0 := by
  simp [scheduledType]

lemma scheduledType_full {layer : ℕ} :
    scheduledType layer = .fullAttention ↔ (layer + 1) % 4 = 0 := by
  simp [scheduledType]

lemma column_lt {column position : ℕ} (hcolumn : column < 32) (hposition : position < seq) :
    column * seq + position < 32 * seq := by
  have hle : (column + 1) * seq ≤ 32 * seq := Nat.mul_le_mul_right _ hcolumn
  rw [Nat.succ_mul] at hle
  omega

lemma view_cell (h : key.Admitted (requestPlan chunk seq)) :
    (viewTable chunk seq key).IsCell (viewIndex seq key) (viewShape chunk seq key).arenaOffset
      (viewShape chunk seq key).byteSize := by
  cases key with
  | conv layer =>
    obtain ⟨hlayer, htype⟩ := h
    rw [scheduledType_linear] at htype
    simp only [requestLayerCount] at hlayer
    refine ⟨?_, (Nat.zero_add _).symm, rfl⟩
    simp only [viewIndex, viewTable]
    omega
  | gdn layer =>
    obtain ⟨hlayer, htype⟩ := h
    rw [scheduledType_linear] at htype
    simp only [requestLayerCount] at hlayer
    refine ⟨?_, rfl, rfl⟩
    simp only [viewIndex, viewTable]
    omega
  | key layer position =>
    obtain ⟨hlayer, htype, hposition⟩ := h
    simp only [requestLayerCount] at hlayer
    refine ⟨column_lt (by omega) hposition, ?_, rfl⟩
    simp only [viewIndex, viewTable, viewShape]
    ring
  | value layer position =>
    obtain ⟨hlayer, htype, hposition⟩ := h
    simp only [requestLayerCount] at hlayer
    refine ⟨column_lt (by omega) hposition, ?_, rfl⟩
    simp only [viewIndex, viewTable, viewShape]
    ring
  | cos position => exact ⟨h, rfl, rfl⟩
  | sin position => exact ⟨h, rfl, rfl⟩

lemma viewTable_limit_le (h : viewRank key < viewRank key') :
    (viewTable chunk seq key).limit ≤ (viewTable chunk seq key').base := by
  have hstate : statefulBytes = 78446592 := rfl
  have hrope : ropeStart chunk seq =
      statefulBytes + 65536 * seq + workspaceTotal chunk seq := rfl
  have htable := alignUp_eq (128 * seq)
  cases key <;> cases key' <;>
    simp only [viewRank, viewTable, Table.limit, requestConvStateBytes] at h ⊢ <;> omega

lemma viewTable_eq (h : viewRank key = viewRank key') :
    viewTable chunk seq key = viewTable chunk seq key' := by
  cases key <;> cases key' <;> first | rfl | simp [viewRank] at h

lemma column_inj {column column' position position' : ℕ} (hposition : position < seq)
    (hposition' : position' < seq)
    (h : column * seq + position = column' * seq + position') :
    column = column' ∧ position = position' := by
  have hmod := congrArg (· % seq) h
  simp only [Nat.mul_add_mod_of_lt hposition, Nat.mul_add_mod_of_lt hposition'] at hmod
  subst hmod
  exact ⟨Nat.eq_of_mul_eq_mul_right (by omega) (Nat.add_right_cancel h), rfl⟩

lemma viewIndex_inj (h : key.Admitted (requestPlan chunk seq))
    (h' : key'.Admitted (requestPlan chunk seq)) (hrank : viewRank key = viewRank key')
    (hindex : viewIndex seq key = viewIndex seq key') : key = key' := by
  cases key <;> cases key' <;> simp only [viewRank] at hrank <;> try omega
  case conv.conv layer layer' =>
    obtain ⟨-, htype⟩ := h
    obtain ⟨-, htype'⟩ := h'
    rw [scheduledType_linear] at htype htype'
    simp only [viewIndex] at hindex
    exact congrArg _ (by omega)
  case gdn.gdn layer layer' =>
    obtain ⟨-, htype⟩ := h
    obtain ⟨-, htype'⟩ := h'
    rw [scheduledType_linear] at htype htype'
    simp only [viewIndex] at hindex
    exact congrArg _ (by omega)
  case key.key layer position layer' position' =>
    obtain ⟨-, htype, hposition⟩ := h
    obtain ⟨-, htype', hposition'⟩ := h'
    rw [scheduledType_full] at htype htype'
    obtain ⟨hcolumn, rfl⟩ := column_inj hposition hposition' hindex
    exact congrArg (ViewKey.key · position) (by omega)
  case key.value layer position layer' position' =>
    obtain ⟨hcolumn, -⟩ := column_inj h.2.2 h'.2.2 hindex
    omega
  case value.key layer position layer' position' =>
    obtain ⟨hcolumn, -⟩ := column_inj h.2.2 h'.2.2 hindex
    omega
  case value.value layer position layer' position' =>
    obtain ⟨-, htype, hposition⟩ := h
    obtain ⟨-, htype', hposition'⟩ := h'
    rw [scheduledType_full] at htype htype'
    obtain ⟨hcolumn, rfl⟩ := column_inj hposition hposition' hindex
    exact congrArg (ViewKey.value · position) (by omega)
  case cos.cos => exact congrArg _ hindex
  case sin.sin => exact congrArg _ hindex

lemma viewShape_apart (h : key.Admitted (requestPlan chunk seq))
    (h' : key'.Admitted (requestPlan chunk seq)) (hne : key ≠ key') :
    Apart (viewShape chunk seq key) (viewShape chunk seq key') := by
  have hcell := view_cell h
  have hcell' := view_cell h'
  obtain hrank | hrank | hrank := lt_trichotomy (viewRank key) (viewRank key')
  · exact Or.inl (hcell.before hcell' (viewTable_limit_le hrank))
  · rw [viewTable_eq hrank] at hcell
    exact hcell.apart hcell' fun hindex => hne (viewIndex_inj h h' hrank hindex)
  · exact Or.inr (hcell'.before hcell (viewTable_limit_le hrank))

lemma cache_mem {layer : ℕ} (hlayer : layer < requestLayerCount) :
    keyShape seq (layer / 4) ∈ persistentRegions (requestPlan chunk seq) ∧
      valueShape seq (layer / 4) ∈ persistentRegions (requestPlan chunk seq) := by
  have hslot : layer / 4 < requestFullLayerCount := by
    simp only [requestLayerCount] at hlayer
    simp only [requestFullLayerCount]
    omega
  refine ⟨List.mem_append_right _ (List.mem_flatMap.mpr ⟨⟨layer / 4, hslot⟩, ?_, ?_⟩),
    List.mem_append_right _ (List.mem_flatMap.mpr ⟨⟨layer / 4, hslot⟩, ?_, ?_⟩)⟩
  · exact List.mem_finRange _
  · exact List.mem_cons_self
  · exact List.mem_finRange _
  · exact List.mem_cons_of_mem _ List.mem_cons_self

lemma exact_of {offset bytes elements size : ℕ} (hpos : 0 < bytes)
    (hbytes : bytes = elements * size) :
    0 < (⟨offset, bytes, elements, size⟩ : RequestRegion).byteSize ∧
      Exact ⟨offset, bytes, elements, size⟩ := ⟨hpos, hbytes⟩

lemma viewShape_exact (key : ViewKey) :
    0 < (viewShape chunk seq key).byteSize ∧ Exact (viewShape chunk seq key) := by
  cases key <;> exact exact_of (by decide) (by decide)

lemma viewShape_inside (h : key.Admitted (requestPlan chunk seq)) :
    ∃ owner, viewOwner (requestPlan chunk seq) key = .ok owner ∧
      owner ∈ persistentRegions (requestPlan chunk seq) ++ ropeRegions (requestPlan chunk seq) ∧
      (viewShape chunk seq key).arenaOffset =
        owner.arenaOffset + viewOrdinal key * (viewShape chunk seq key).byteSize ∧
      (viewShape chunk seq key).arenaOffset + (viewShape chunk seq key).byteSize ≤
        owner.arenaOffset + owner.byteSize := by
  cases key with
  | conv layer =>
    obtain ⟨hlayer, htype⟩ := h
    rw [scheduledType_linear] at htype
    simp only [requestLayerCount] at hlayer
    refine ⟨convShape, rfl, List.mem_append_left _ List.mem_cons_self, ?_, ?_⟩ <;>
      simp only [viewShape, viewOrdinal, convShape, requestConvStateBytes] <;> omega
  | gdn layer =>
    obtain ⟨hlayer, htype⟩ := h
    rw [scheduledType_linear] at htype
    simp only [requestLayerCount] at hlayer
    refine ⟨gdnShape, rfl,
      List.mem_append_left _ (List.mem_cons_of_mem _ List.mem_cons_self), ?_, ?_⟩
    · simp only [viewShape, viewOrdinal, gdnShape]
    · simp only [viewShape, gdnShape, requestGdnStateBytes]
      omega
  | key layer position =>
    obtain ⟨hlayer, htype, hposition⟩ := h
    change position < seq at hposition
    refine ⟨keyShape seq (layer / 4), (@cacheOf_ok (keyShape seq) _ _).mpr ⟨⟨hlayer, htype⟩, rfl⟩,
      List.mem_append_left _ (cache_mem hlayer).1, ?_, ?_⟩
    · simp only [viewShape, viewOrdinal, keyShape]
    · simp only [viewShape, keyShape]
      omega
  | value layer position =>
    obtain ⟨hlayer, htype, hposition⟩ := h
    change position < seq at hposition
    refine ⟨valueShape seq (layer / 4),
      (@cacheOf_ok (valueShape seq) _ _).mpr ⟨⟨hlayer, htype⟩, rfl⟩,
      List.mem_append_left _ (cache_mem hlayer).2, ?_, ?_⟩
    · simp only [viewShape, viewOrdinal, valueShape]
    · simp only [viewShape, valueShape]
      omega
  | cos position =>
    change position < seq at h
    refine ⟨cosShape seq (ropeStart chunk seq), rfl,
      List.mem_append_right _ List.mem_cons_self, ?_, ?_⟩
    · simp only [viewShape, viewOrdinal, cosShape]
    · simp only [viewShape, cosShape]
      omega
  | sin position =>
    change position < seq at h
    refine ⟨sinShape seq (ropeStart chunk seq), rfl,
      List.mem_append_right _ (List.mem_cons_of_mem _ List.mem_cons_self), ?_, ?_⟩
    · simp only [viewShape, viewOrdinal, sinShape]
    · simp only [viewShape, sinShape]
      omega

lemma requestPlan_views (hchunk : chunk ≤ 512) (hseq : seq ≤ 262144) :
    ViewsLaid (requestPlan chunk seq) where
  defined key := by simp only [view_ok hchunk hseq, exists_and_left, exists_eq, and_true]
  exact key region h := by
    obtain ⟨-, rfl⟩ := (view_ok hchunk hseq).mp h
    exact viewShape_exact key
  inside key region h := by
    obtain ⟨hkey, rfl⟩ := (view_ok hchunk hseq).mp h
    exact viewShape_inside hkey
  apart key key' region region' hne h h' := by
    obtain ⟨hkey, rfl⟩ := (view_ok hchunk hseq).mp h
    obtain ⟨hkey', rfl⟩ := (view_ok hchunk hseq).mp h'
    exact viewShape_apart hkey hkey' hne

end Apart

theorem request_arena_laid (options : RequestMemoryOptions) :
    (∀ plan, buildRequestMemoryPlan options = .ok plan →
      ArenaLaid plan ∧ ViewsLaid plan ∧
        plan = requestPlan options.prefillChunkSize options.maxSequenceLength) ∧
    ((∃ plan, buildRequestMemoryPlan options = .ok plan) ↔
      Admitted options ∧
        requestArenaTotal options.prefillChunkSize options.maxSequenceLength ≤
          options.maxArenaBytes) ∧
    ((∃ diagnostic, buildRequestMemoryPlan options = .error diagnostic ∧
        diagnostic.code = .arenaLimitExceeded) ↔
      Admitted options ∧ options.maxArenaBytes <
        requestArenaTotal options.prefillChunkSize options.maxSequenceLength) := by
  by_cases h : Admitted options
  · rw [buildRequestMemoryPlan_of_admitted h]
    by_cases hlimit : options.maxArenaBytes <
        requestArenaTotal options.prefillChunkSize options.maxSequenceLength
    · rw [if_pos hlimit]
      refine ⟨by simp, by simp [Nat.not_le.mpr hlimit], ?_⟩
      exact ⟨fun _ => ⟨h, hlimit⟩, fun _ => ⟨_, rfl, rfl⟩⟩
    · rw [if_neg hlimit]
      refine ⟨?_, by simp [h, Nat.not_lt.mp hlimit], by simp [hlimit]⟩
      rintro plan ⟨⟩
      exact ⟨requestPlan_laid h.chunk_pos h.chunk_le h.seq_pos h.seq_le,
        requestPlan_views h.chunk_le h.seq_le, rfl⟩
  · obtain ⟨diagnostic, hfailed, hcode⟩ := buildRequestMemoryPlan_of_not_admitted h
    rw [hfailed]
    simp [h, hcode]

theorem request_arena_laid_default :
    ∃ plan, buildRequestMemoryPlan {} = .ok plan ∧ ArenaLaid plan ∧ ViewsLaid plan := by
  have hbuilt : Admitted {} ∧ requestArenaTotal 1 128 ≤ ({} : RequestMemoryOptions).maxArenaBytes :=
    ⟨⟨by decide, by decide, by decide, by decide, by decide, by decide, by decide⟩, by decide⟩
  obtain ⟨plan, hplan⟩ := (request_arena_laid {}).2.1.mpr hbuilt
  obtain ⟨harena, hviews, -⟩ := (request_arena_laid {}).1 plan hplan
  exact ⟨plan, hplan, harena, hviews⟩

end Qwen3xOrin.Request
