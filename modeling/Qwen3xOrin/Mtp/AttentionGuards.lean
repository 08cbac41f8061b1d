import Qwen3xOrin.Mtp.VerifyAttention
import Qwen3xOrin.Request.DecodeLayout

/-! When the attention launchers let every position of a request through. -/

namespace Qwen3xOrin.Mtp

open Io Library Request Decode
open Prefill (BuildConfig wholeCoreCompiledSequenceCapacity)

section Spans

def Span.Apart (a b : Span) : Prop := a.start + a.bytes ≤ b.start ∨ b.start + b.bytes ≤ a.start

def Span.Bounded (a : Span) : Prop := a.start ≠ 0 ∧ a.start + a.bytes ≤ uint64Max

lemma overlaps_eq_false {a b : Span} (ha : Span.Bounded a) (hb : Span.Bounded b)
    (h : Span.Apart b a) : a.overlaps b = false := by
  unfold Span.overlaps
  rw [wrap_eq ha.2, wrap_eq hb.2, Bool.and_eq_false_iff, decide_eq_false_iff_not,
    decide_eq_false_iff_not]
  obtain h | h := h
  · exact Or.inl (Nat.not_lt.mpr h)
  · exact Or.inr (Nat.not_lt.mpr h)

lemma validSpansFrom_of_apart {earlier spans : List Span}
    (hbounded : ∀ a ∈ earlier ++ spans, Span.Bounded a)
    (hapart : (earlier ++ spans).Pairwise Span.Apart) : validSpansFrom earlier spans = true := by
  induction spans generalizing earlier with
  | nil => rfl
  | cons a spans ih =>
    have ha := hbounded a (by simp)
    have hstart : a.start ≤ uint64Max - a.bytes := by
      have := ha.2
      omega
    have hearlier : (earlier.all fun b => !a.overlaps b) = true := by
      refine List.all_eq_true.mpr fun b hb => ?_
      rw [overlaps_eq_false ha (hbounded b (by simp [hb]))]
      · rfl
      · exact (List.pairwise_append.mp hapart).2.2 b hb a (by simp)
    have hrest := @ih (earlier ++ [a]) (by simpa using hbounded) (by simpa using hapart)
    unfold validSpansFrom
    simp only [hearlier, hrest, Bool.and_true, Bool.and_eq_true, decide_eq_true_eq]
    exact ⟨ha.1, hstart⟩

end Spans

section Buffers

structure Allocated (state : RequestArena) : Prop where
  nonnull : state.arena ≠ 0
  aligned : 256 ∣ state.arena
  fits : state.arena + state.plan.arenaBytes ≤ uint64Max

variable {state : RequestArena}

-- A span of a buffer that a kernel is given, at an offset a vector load can take.
structure Inside (state : RequestArena) (region : RequestRegion) (a : Span) : Prop where
  aligned : a.start % 16 = 0
  from_le : state.at region ≤ a.start
  le_stop : a.start + a.bytes ≤ state.at region + region.byteSize

lemma inside_offset {region : RequestRegion} (ha : Allocated state) (hregion : 256 ∣ region.arenaOffset)
    {offset bytes : ℕ} (hoffset : 16 ∣ offset) (hbytes : offset + bytes ≤ region.byteSize) :
    Inside state region ⟨state.at region + offset, bytes⟩ := by
  have harena := ha.aligned
  refine ⟨?_, Nat.le_add_right _ _, ?_⟩
  · simp only [RequestArena.at]
    omega
  · simp only
    omega

lemma Inside.bounded {region : RequestRegion} {a : Span} (h : Inside state region a)
    (ha : Allocated state) (hregion : region.arenaOffset + region.byteSize ≤ state.plan.arenaBytes) :
    Span.Bounded a := by
  have hnonnull := ha.nonnull
  have hfits := ha.fits
  obtain ⟨-, hfrom, hstop⟩ := h
  simp only [RequestArena.at] at hfrom hstop
  exact ⟨by omega, by omega⟩

lemma Inside.apart {region region' : RequestRegion} {a b : Span} (h : Inside state region a)
    (h' : Inside state region' b) (hapart : Request.Apart region region') : Span.Apart a b := by
  obtain ⟨-, hfrom, hstop⟩ := h
  obtain ⟨-, hfrom', hstop'⟩ := h'
  simp only [RequestArena.at] at hfrom hstop hfrom' hstop'
  simp only [Request.Apart, Arena.Disjoint] at hapart
  unfold Span.Apart
  omega

lemma spans_of_inside (ha : Allocated state) {pairs : List (RequestRegion × Span)}
    (hinside : ∀ pair ∈ pairs, Inside state pair.1 pair.2)
    (hwithin : ∀ pair ∈ pairs,
      pair.1.arenaOffset + pair.1.byteSize ≤ state.plan.arenaBytes)
    (hapart : (pairs.map Prod.fst).Pairwise Request.Apart) :
    alignedSpans (pairs.map Prod.snd) = true ∧ validSpans (pairs.map Prod.snd) = true := by
  refine ⟨List.all_eq_true.mpr fun a hspan => ?_, validSpansFrom_of_apart (fun a hspan => ?_) ?_⟩
  · obtain ⟨pair, hpair, rfl⟩ := List.mem_map.mp hspan
    exact decide_eq_true (hinside pair hpair).aligned
  · obtain ⟨pair, hpair, rfl⟩ := List.mem_map.mp hspan
    exact (hinside pair hpair).bounded ha (hwithin pair hpair)
  · rw [List.nil_append, List.pairwise_map]
    rw [List.pairwise_map] at hapart
    exact hapart.imp_of_mem fun hpair hpair' h => (hinside _ hpair).apart (hinside _ hpair') h

end Buffers

section Laid

variable {state : RequestArena} (ha : Allocated state) (hlaid : DecodeLaid state.plan)
  (slot : Fin requestFullLayerCount)

include hlaid in
lemma cache_apart : Request.Apart (state.plan.keyCache slot) (state.plan.valueCache slot) := by
  have hcaches := (List.pairwise_append.mp hlaid.apart).1
  have hslot := (List.pairwise_flatMap.mp hcaches).1 slot (List.mem_finRange slot)
  exact (List.pairwise_cons.mp hslot).1 _ (by simp)

lemma key_mem : state.plan.keyCache slot ∈ cacheRegions state.plan :=
  List.mem_flatMap.mpr ⟨slot, List.mem_finRange slot, by simp⟩

lemma value_mem : state.plan.valueCache slot ∈ cacheRegions state.plan :=
  List.mem_flatMap.mpr ⟨slot, List.mem_finRange slot, by simp⟩

lemma projection_mem (index : Fin requestProjectionBufferCount) :
    state.plan.projectionBf16 index ∈ scratchRegions state.plan :=
  List.mem_append_left _ (List.mem_map_of_mem (List.mem_finRange index))

lemma scratch_mem : state.plan.fp32Scratch ∈ scratchRegions state.plan :=
  List.mem_append_right _ (List.mem_singleton.mpr rfl)

include hlaid in
lemma cache_scratch_apart {cache region : RequestRegion} (hcache : cache ∈ cacheRegions state.plan)
    (hregion : region ∈ scratchRegions state.plan) : Request.Apart cache region :=
  (List.pairwise_append.mp hlaid.apart).2.2 cache hcache region hregion

lemma apart_symm {region region' : RequestRegion} (h : Request.Apart region region') :
    Request.Apart region' region := Or.symm h

include hlaid in
lemma projections_apart {index index' : Fin requestProjectionBufferCount} (h : index ≠ index') :
    Request.Apart (state.plan.projectionBf16 index) (state.plan.projectionBf16 index') := by
  have hscratch := (List.pairwise_append.mp hlaid.apart).2.1
  have hprojections := (List.pairwise_append.mp hscratch).1
  rw [List.pairwise_map, List.pairwise_iff_getElem] at hprojections
  have hlt : ∀ {i j : Fin requestProjectionBufferCount}, i < j →
      Request.Apart (state.plan.projectionBf16 i) (state.plan.projectionBf16 j) := by
    intro i j hij
    simpa using hprojections i j (by simp) (by simp) hij
  obtain h | h := lt_or_gt_of_ne h
  · exact hlt h
  · exact apart_symm (hlt h)

include hlaid in
lemma projection_scratch_apart (index : Fin requestProjectionBufferCount) :
    Request.Apart (state.plan.projectionBf16 index) state.plan.fp32Scratch := by
  have hscratch := (List.pairwise_append.mp hlaid.apart).2.1
  exact (List.pairwise_append.mp hscratch).2.2 _ (List.mem_map_of_mem (List.mem_finRange index)) _
    (List.mem_singleton.mpr rfl)

-- The buffers of one launch: a query, the two caches, and what it writes.
include hlaid in
lemma launch_apart {index : Fin requestProjectionBufferCount} {outputs : List RequestRegion}
    (houtputs : ∀ region ∈ outputs, region ∈ scratchRegions state.plan)
    (hindex : ∀ region ∈ outputs, Request.Apart (state.plan.projectionBf16 index) region)
    (hapart : outputs.Pairwise Request.Apart) :
    (state.plan.projectionBf16 index :: state.plan.keyCache slot :: state.plan.valueCache slot ::
      outputs).Pairwise Request.Apart := by
  have hkey := @key_mem state slot
  have hvalue := @value_mem state slot
  refine List.pairwise_cons.mpr ⟨fun region hregion => ?_, List.pairwise_cons.mpr
    ⟨fun region hregion => ?_, List.pairwise_cons.mpr ⟨fun region hregion => ?_, hapart⟩⟩⟩
  · simp only [List.mem_cons] at hregion
    obtain rfl | rfl | hregion := hregion
    · exact apart_symm (cache_scratch_apart hlaid hkey (projection_mem index))
    · exact apart_symm (cache_scratch_apart hlaid hvalue (projection_mem index))
    · exact hindex region hregion
  · obtain rfl | hregion := List.mem_cons.mp hregion
    · exact cache_apart hlaid slot
    · exact cache_scratch_apart hlaid hkey (houtputs region hregion)
  · exact cache_scratch_apart hlaid hvalue (houtputs region hregion)

include hlaid in
lemma within_caches {region : RequestRegion} (h : region ∈ cacheRegions state.plan) :
    256 ∣ region.arenaOffset ∧ region.arenaOffset + region.byteSize ≤ state.plan.arenaBytes :=
  hlaid.within region (List.mem_append_left _ h)

include hlaid in
lemma within_scratches {region : RequestRegion} (h : region ∈ scratchRegions state.plan) :
    256 ∣ region.arenaOffset ∧ region.arenaOffset + region.byteSize ≤ state.plan.arenaBytes :=
  hlaid.within region (List.mem_append_right _ h)

include ha hlaid in
lemma cache_inside {region : RequestRegion} (h : region ∈ cacheRegions state.plan) {sequence : ℕ}
    (hsequence : sequence ≤ state.plan.maxSequenceLength) {bytes : ℕ}
    (hbytes : bytes = 2048 * sequence) : Inside state region ⟨state.at region, bytes⟩ := by
  have hsize := hlaid.caches region h
  have hinside := inside_offset ha (within_caches hlaid h).1 (Nat.dvd_zero 16)
    (show 0 + bytes ≤ region.byteSize by
      have := Nat.mul_le_mul_left 2048 hsequence
      omega)
  exact hinside

include ha hlaid in
lemma projection_inside (index : Fin requestProjectionBufferCount) {offset bytes start : ℕ}
    (hstart : start = state.at (state.plan.projectionBf16 index) + offset) (hoffset : 16 ∣ offset)
    (hbytes : offset + bytes ≤ 34816 * state.plan.prefillChunkSize) :
    Inside state (state.plan.projectionBf16 index) ⟨start, bytes⟩ := by
  rw [hstart]
  refine inside_offset ha (within_scratches hlaid (projection_mem index)).1 hoffset ?_
  rw [hlaid.projections]
  exact hbytes

include ha in
lemma at_ne_zero (region : RequestRegion) : state.at region ≠ 0 := by
  have hnonnull := ha.nonnull
  simp only [RequestArena.at]
  omega

end Laid

section Launches

variable {state : RequestArena} (ha : Allocated state) (hlaid : DecodeLaid state.plan)
  (slot : Fin requestFullLayerCount)

def projectionIndex (index : Fin 4) : Fin requestProjectionBufferCount := index

lemma multiplyOverflows_false {left right : ℕ} (h : left * right ≤ uint64Max) :
    multiplyOverflows left right = false := by
  unfold multiplyOverflows
  rw [decide_eq_false_iff_not]
  rintro ⟨hne, hlt⟩
  exact Nat.not_le.mpr hlt ((Nat.le_div_iff_mul_le (Nat.pos_of_ne_zero hne)).mpr h)

include ha hlaid in
lemma launch_spans {index : Fin requestProjectionBufferCount} {query : Span}
    {sequence cacheBytes : ℕ} {outputs : List (RequestRegion × Span)}
    (hsequence : sequence ≤ state.plan.maxSequenceLength) (hcache : cacheBytes = 2048 * sequence)
    (hquery : Inside state (state.plan.projectionBf16 index) query)
    (houtputs : ∀ pair ∈ outputs, pair.1 ∈ scratchRegions state.plan ∧
      Inside state pair.1 pair.2 ∧ Request.Apart (state.plan.projectionBf16 index) pair.1)
    (hapart : (outputs.map Prod.fst).Pairwise Request.Apart) :
    alignedSpans (query :: ⟨state.views.keyCache slot, cacheBytes⟩ ::
        ⟨state.views.valueCache slot, cacheBytes⟩ :: outputs.map Prod.snd) = true ∧
      validSpans (query :: ⟨state.views.keyCache slot, cacheBytes⟩ ::
        ⟨state.views.valueCache slot, cacheBytes⟩ :: outputs.map Prod.snd) = true := by
  have hkey := cache_inside ha hlaid (key_mem slot) hsequence hcache
  have hvalue := cache_inside ha hlaid (value_mem slot) hsequence hcache
  have hregions : ∀ region ∈ outputs.map Prod.fst, region ∈ scratchRegions state.plan ∧
      Request.Apart (state.plan.projectionBf16 index) region := by
    intro region hregion
    obtain ⟨pair, hpair, rfl⟩ := List.mem_map.mp hregion
    exact ⟨(houtputs pair hpair).1, (houtputs pair hpair).2.2⟩
  refine @spans_of_inside state ha
    ((state.plan.projectionBf16 index, query) ::
      (state.plan.keyCache slot, ⟨state.at (state.plan.keyCache slot), cacheBytes⟩) ::
      (state.plan.valueCache slot, ⟨state.at (state.plan.valueCache slot), cacheBytes⟩) ::
      outputs) ?_ ?_ ?_
  · simp only [List.mem_cons]
    rintro pair (rfl | rfl | rfl | hpair)
    · exact hquery
    · exact hkey
    · exact hvalue
    · exact (houtputs pair hpair).2.1
  · simp only [List.mem_cons]
    rintro pair (rfl | rfl | rfl | hpair)
    · exact (within_scratches hlaid (projection_mem _)).2
    · exact (within_caches hlaid (key_mem slot)).2
    · exact (within_caches hlaid (value_mem slot)).2
    · exact (within_scratches hlaid (houtputs pair hpair).1).2
  · exact launch_apart hlaid slot (fun region hregion => (hregions region hregion).1)
      (fun region hregion => (hregions region hregion).2) hapart

include ha hlaid in
lemma launchFusedDecode_iff {index : Fin requestProjectionBufferCount}
    (hindex : index ≠ projectionIndex 1) {query output sequence : ℕ}
    (hsequence : sequence ≤ state.plan.maxSequenceLength)
    (hquery : Inside state (state.plan.projectionBf16 index) ⟨query, 24 * 256 * 2⟩)
    (houtput : Inside state (state.plan.projectionBf16 (projectionIndex 1))
      ⟨output, 24 * 256 * 2⟩) :
    launchFusedDecode query (state.views.keyCache slot) (state.views.valueCache slot) sequence
        state.views.fp32Scratch (wrap (state.views.fp32ScratchElements * 4)) output = true ↔
      512 ≤ sequence ∧ sequence ≤ 44095 ∧ 44095 ≤ state.plan.maxSequenceLength := by
  have hge := hlaid.scratch_ge
  have hle := hlaid.scratch_le
  have hseq := hlaid.seq_le
  have hmax := uint64Max_eq
  simp only [fp32MinimumElements, absoluteRequestMaxSequenceLength] at hle hseq
  have helements : state.views.fp32ScratchElements = state.plan.fp32Scratch.elementCapacity := rfl
  have hbytes : wrap (state.views.fp32ScratchElements * 4) =
      state.plan.fp32Scratch.elementCapacity * 4 := wrap_eq (by rw [helements]; omega)
  have hworkspace : fusedWorkspaceBytes ≤ state.plan.fp32Scratch.elementCapacity * 4 ↔
      44095 ≤ state.plan.maxSequenceLength := by
    simp only [fusedWorkspaceBytes, maximumSequence]
    omega
  unfold launchFusedDecode
  rw [decide_eq_true_eq, hbytes, hworkspace]
  simp only [minimumSequence, maximumSequence]
  refine ⟨fun h => ⟨h.1, h.2.1, h.2.2.1⟩, fun h => ⟨h.1, h.2.1, h.2.2, ?_⟩⟩
  have hscratch : Inside state state.plan.fp32Scratch
      ⟨state.at state.plan.fp32Scratch, fusedWorkspaceBytes⟩ :=
    inside_offset ha (within_scratches hlaid scratch_mem).1 (Nat.dvd_zero 16) (by
      rw [hlaid.scratch]
      have := hworkspace.mpr h.2.2
      omega)
  have hspans := @launch_spans state ha hlaid slot index ⟨query, 24 * 256 * 2⟩ sequence
    (sequence * 4 * 256 * 2)
    [(state.plan.fp32Scratch, ⟨state.at state.plan.fp32Scratch, fusedWorkspaceBytes⟩),
      (state.plan.projectionBf16 (projectionIndex 1), ⟨output, 24 * 256 * 2⟩)]
    hsequence (by ring) hquery
    (by
      simp only [List.mem_cons, List.not_mem_nil, or_false]
      rintro pair (rfl | rfl)
      · exact ⟨scratch_mem, hscratch, projection_scratch_apart hlaid index⟩
      · exact ⟨projection_mem _, houtput, projections_apart hlaid hindex⟩)
    (List.pairwise_pair.mpr (apart_symm (projection_scratch_apart hlaid _)))
  refine ⟨hspans.1, hspans.2, ?_⟩
  have hnonnull : state.views.fp32Scratch ≠ 0 := at_ne_zero ha _
  have hoverflow : multiplyOverflows 24 sequence = false := multiplyOverflows_false (by omega)
  unfold launchSoftmax
  simp [hoverflow, hnonnull]

include ha hlaid in
lemma launchGqaReference_ok {query output sequence : ℕ} (hquery : query ≠ 0) (houtput : output ≠ 0)
    (hpos : 0 < sequence) (hsequence : sequence ≤ state.plan.maxSequenceLength) :
    launchGqaReference query (state.views.keyCache slot) (state.views.valueCache slot) 24 4 sequence
      256 attentionScale state.views.fp32Scratch state.views.fp32ScratchElements output = true := by
  have hge := hlaid.scratch_ge
  have hseq := hlaid.seq_le
  have hmax := uint64Max_eq
  simp only [absoluteRequestMaxSequenceLength] at hseq
  have hproduct : product3Overflows sequence 4 256 = false := by
    unfold product3Overflows
    rw [wrap_eq (by omega), multiplyOverflows_false (by omega), multiplyOverflows_false (by omega)]
    rfl
  have helements : 24 * sequence ≤ state.views.fp32ScratchElements :=
    le_trans (Nat.mul_le_mul_left 24 hsequence) hge
  unfold launchGqaReference
  rw [decide_eq_true_eq]
  refine ⟨?_, by norm_num [attentionScale], multiplyOverflows_false (by omega), hproduct,
    multiplyOverflows_false (by omega), helements, hquery, at_ne_zero ha _, at_ne_zero ha _,
    at_ne_zero ha _, houtput⟩
  unfold validAttentionDimensions
  rw [decide_eq_true_eq]
  omega

include ha hlaid in
lemma launchGqaSigmoidGate_ok {query gate output sequence : ℕ} (hquery : query ≠ 0)
    (hgate : gate ≠ 0) (houtput : output ≠ 0) (hpos : 0 < sequence) (hshort : sequence ≤ 64)
    (hsequence : sequence ≤ state.plan.maxSequenceLength) :
    launchGqaSigmoidGate query (state.views.keyCache slot) (state.views.valueCache slot) sequence
      attentionScale state.views.fp32Scratch state.views.fp32ScratchElements gate output = true := by
  have helements : 24 * sequence ≤ state.views.fp32ScratchElements :=
    le_trans (Nat.mul_le_mul_left 24 hsequence) hlaid.scratch_ge
  unfold launchGqaSigmoidGate
  rw [decide_eq_true_eq]
  exact ⟨hpos.ne', hshort, by norm_num [attentionScale], helements, hquery, at_ne_zero ha _,
    at_ne_zero ha _, at_ne_zero ha _, hgate, houtput⟩

lemma launchSigmoidGate_ok {value gate count : ℕ} (hvalue : value ≠ 0) (hgate : gate ≠ 0) :
    launchSigmoidGate value gate count value = true := by
  unfold launchSigmoidGate
  simp [hvalue, hgate]

include ha in
lemma element_ne_zero (region : RequestRegion) (index : ℕ) : element (state.at region) index ≠ 0 := by
  have hne := at_ne_zero ha region
  unfold element
  omega

end Launches

section Routes

variable {state : RequestArena} (ha : Allocated state) (hlaid : DecodeLaid state.plan)
  (slot : Fin requestFullLayerCount)

lemma useFusedGqaSigmoidGateTile_iff {position : ℕ} :
    useFusedGqaSigmoidGateTile position 1 = true ↔ position < 64 := by
  unfold useFusedGqaSigmoidGateTile fusedGqaSigmoidGatePrefixTokenCount
  rw [decide_eq_true_eq]
  by_cases h : position < 64
  · rw [if_neg (by simp only [fusedGqaMaximumSequenceLength]; omega)]
    simp only [fusedGqaMaximumSequenceLength]
    omega
  · rw [if_pos (by simp only [fusedGqaMaximumSequenceLength]; omega)]
    omega

lemma useDecodeGqaSplitKv_false (sequence : ℕ) : useDecodeGqaSplitKv sequence = false := by
  unfold useDecodeGqaSplitKv
  rw [decide_eq_false_iff_not]
  omega

include ha hlaid in
lemma rowQuery_inside {row : ℕ} (hrow : 24576 * row + 24576 ≤ 34816 * state.plan.prefillChunkSize) :
    Inside state (state.plan.projectionBf16 (projectionIndex 3))
      ⟨rowQuery state row, 24 * 256 * 2⟩ :=
  @projection_inside state ha hlaid (projectionIndex 3) (24576 * row) _ _
    (by simp only [rowQuery, element, RequestArena.views, projectionIndex]; ring)
    (by omega) (by omega)

include ha hlaid in
lemma rowOutput_inside {row : ℕ} (hrow : 12288 * row + 12288 ≤ 34816 * state.plan.prefillChunkSize) :
    Inside state (state.plan.projectionBf16 (projectionIndex 1))
      ⟨rowOutput state row, 24 * 256 * 2⟩ :=
  @projection_inside state ha hlaid (projectionIndex 1) (12288 * row) _ _
    (by simp only [rowOutput, element, RequestArena.views, projectionIndex]; ring)
    (by omega) (by omega)

include ha hlaid in
lemma stepAttention_iff {position : ℕ} (hposition : position < state.plan.maxSequenceLength) :
    stepAttention state.views slot position = true ↔
      (512 ≤ position + 1 → position + 1 ≤ 44095 → 44095 ≤ state.plan.maxSequenceLength) := by
  have hchunk := hlaid.chunk_pos
  have hseq := hlaid.seq_le
  have hmax := uint64Max_eq
  simp only [absoluteRequestMaxSequenceLength] at hseq
  have htile : useQkRopeTile position 1 = true := by
    unfold useQkRopeTile
    rw [decide_eq_true_eq]
    simp only [qkRopeTileMaximumTokens]
    omega
  have hgates : element (state.views.projection 3) fullQueryElements ≠ 0 := element_ne_zero ha _ _
  have hquery : state.views.projection 3 ≠ 0 := at_ne_zero ha _
  have houtput : state.views.projection 1 ≠ 0 := at_ne_zero ha _
  have hfused := @launchFusedDecode_iff state ha hlaid slot (projectionIndex 3) (by decide)
    (state.views.projection 3) (state.views.projection 1) (position + 1) hposition
    (by
      have hinside := @rowQuery_inside state ha hlaid 0 (by omega)
      simpa only [rowQuery, element, Nat.zero_mul, Nat.mul_zero, Nat.add_zero] using hinside)
    (by
      have hinside := @rowOutput_inside state ha hlaid 0 (by omega)
      simpa only [rowOutput, element, Nat.zero_mul, Nat.mul_zero, Nat.add_zero] using hinside)
  unfold stepAttention
  simp only [htile, if_true, useDecodeGqaSplitKv_false, Bool.false_eq_true, if_false,
    useFusedGqaSigmoidGateTile_iff, minimumSequence, maximumSequence]
  split_ifs with hshort hlong
  · rw [launchGqaSigmoidGate_ok ha hlaid slot hquery hgates houtput (Nat.succ_pos _) hshort
      hposition]
    exact ⟨fun _ hge => by omega, fun _ => rfl⟩
  · rw [launchSigmoidGate_ok houtput hgates, Bool.and_true, hfused]
    exact ⟨fun h _ _ => h.2.2, fun h => ⟨hlong.1, hlong.2, h hlong.1 hlong.2⟩⟩
  · rw [launchGqaReference_ok ha hlaid slot hquery houtput (Nat.succ_pos _) hposition,
      launchSigmoidGate_ok houtput hgates]
    exact ⟨fun _ hge hle => absurd ⟨hge, hle⟩ hlong, fun _ => rfl⟩

include ha in
lemma gateRow_ok (row : ℕ) : gateRow state row = true := by
  have hquery : rowQuery state row ≠ 0 := element_ne_zero ha _ _
  refine launchSigmoidGate_ok (element_ne_zero ha _ _) ?_
  unfold rowGate element
  omega

include ha hlaid in
lemma scalarRow_iff {position row : ℕ} (hposition : position < state.plan.maxSequenceLength)
    (hrow : row < 4) (hchunk : 4 ≤ state.plan.prefillChunkSize) :
    scalarRow state slot position row = true ↔
      (512 ≤ position + 1 → position + 1 ≤ 44095 ∧ 44095 ≤ state.plan.maxSequenceLength) := by
  have hquery : rowQuery state row ≠ 0 := element_ne_zero ha _ _
  have houtput : rowOutput state row ≠ 0 := element_ne_zero ha _ _
  have hgate : rowGate state row ≠ 0 := by
    unfold rowGate element
    omega
  have hfused := @launchFusedDecode_iff state ha hlaid slot (projectionIndex 3) (by decide)
    (rowQuery state row) (rowOutput state row) (position + 1) hposition
    (rowQuery_inside ha hlaid (by omega)) (rowOutput_inside ha hlaid (by omega))
  unfold scalarRow
  dsimp only
  by_cases hshort : position < 64
  · rw [if_pos hshort, launchGqaSigmoidGate_ok ha hlaid slot hquery hgate houtput (Nat.succ_pos _)
      hshort hposition]
    exact ⟨fun _ hge => by omega, fun _ => rfl⟩
  rw [if_neg hshort]
  by_cases hlong : minimumSequence ≤ position + 1
  · rw [if_pos hlong, gateRow_ok ha, Bool.and_true, hfused]
    exact ⟨fun h _ => h.2, fun h => ⟨hlong, h hlong⟩⟩
  · rw [if_neg hlong, launchGqaReference_ok ha hlaid slot hquery houtput (Nat.succ_pos _) hposition,
      gateRow_ok ha]
    exact ⟨fun _ hge => absurd hge hlong, fun _ => rfl⟩

include ha hlaid in
lemma launchVerifyAttention_iff {entry rows : ℕ} (hrows : 2 ≤ rows ∧ rows ≤ 4)
    (hentry : entry + rows ≤ state.plan.maxSequenceLength)
    (hchunk : 4 ≤ state.plan.prefillChunkSize) (hbatch : batchAttention state entry rows = true) :
    launchVerifyAttention (state.views.projection 3) (state.views.keyCache slot)
        (state.views.valueCache slot) (entry + 1) rows (state.views.projection 2)
        (availableBytes state) (state.views.projection 1) = true ↔ entry + rows ≤ 44095 := by
  unfold batchAttention at hbatch
  obtain ⟨-, hlong, hbytes⟩ := of_decide_eq_true hbatch
  have hlast : entry + 1 + rows - 1 = entry + rows := by omega
  have havailable : availableBytes state = 34816 * state.plan.prefillChunkSize := by
    simp only [availableBytes]
    ring
  have hquery : Inside state (state.plan.projectionBf16 (projectionIndex 3))
      ⟨state.views.projection 3, rows * 12288 * 2⟩ :=
    @projection_inside state ha hlaid (projectionIndex 3) 0 _ _ rfl (Nat.dvd_zero 16) (by omega)
  have hworkspace : Inside state (state.plan.projectionBf16 (projectionIndex 2))
      ⟨state.views.projection 2, rows * 24 * probabilityStride (entry + rows) * 4⟩ :=
    @projection_inside state ha hlaid (projectionIndex 2) 0 _ _ rfl (Nat.dvd_zero 16) (by omega)
  have houtput : Inside state (state.plan.projectionBf16 (projectionIndex 1))
      ⟨state.views.projection 1, rows * 6144 * 2⟩ :=
    @projection_inside state ha hlaid (projectionIndex 1) 0 _ _ rfl (Nat.dvd_zero 16) (by omega)
  have hspans := @launch_spans state ha hlaid slot (projectionIndex 3) _ (entry + rows)
    ((entry + rows) * 1024 * 2)
    [(state.plan.projectionBf16 (projectionIndex 2),
        ⟨state.views.projection 2, rows * 24 * probabilityStride (entry + rows) * 4⟩),
      (state.plan.projectionBf16 (projectionIndex 1),
        ⟨state.views.projection 1, rows * 6144 * 2⟩)]
    hentry (by ring) hquery
    (by
      simp only [List.mem_cons, List.not_mem_nil, or_false]
      rintro pair (rfl | rfl)
      · exact ⟨projection_mem _, hworkspace, projections_apart hlaid (by decide)⟩
      · exact ⟨projection_mem _, houtput, projections_apart hlaid (by decide)⟩)
    (List.pairwise_pair.mpr (projections_apart hlaid (by decide)))
  unfold launchVerifyAttention
  rw [decide_eq_true_eq, hlast]
  simp only [minimumSequence, maximumSequence]
  refine ⟨fun h => by omega, fun h => ⟨hrows.1, hrows.2, hlong, by omega, hbytes, ?_⟩⟩
  exact hspans

include ha hlaid in
lemma launchShortAttention_ok {entry rows : ℕ} (hrows : 2 ≤ rows ∧ rows ≤ 4)
    (hentry : entry + rows ≤ state.plan.maxSequenceLength)
    (hchunk : 4 ≤ state.plan.prefillChunkSize) (hshort : shortAttention entry rows = true) :
    launchShortAttention (state.views.projection 3) (state.views.keyCache slot)
        (state.views.valueCache slot) (entry + 1) rows (state.views.projection 1) = true := by
  unfold shortAttention at hshort
  obtain ⟨-, hfirst, hstop⟩ := of_decide_eq_true hshort
  have hlast : entry + 1 + rows - 1 = entry + rows := by omega
  have hquery : Inside state (state.plan.projectionBf16 (projectionIndex 3))
      ⟨state.views.projection 3, rows * 12288 * 2⟩ :=
    @projection_inside state ha hlaid (projectionIndex 3) 0 _ _ rfl (Nat.dvd_zero 16) (by omega)
  have houtput : Inside state (state.plan.projectionBf16 (projectionIndex 1))
      ⟨state.views.projection 1, rows * 6144 * 2⟩ :=
    @projection_inside state ha hlaid (projectionIndex 1) 0 _ _ rfl (Nat.dvd_zero 16) (by omega)
  have hspans := @launch_spans state ha hlaid slot (projectionIndex 3) _ (entry + rows)
    ((entry + rows) * 1024 * 2)
    [(state.plan.projectionBf16 (projectionIndex 1),
        ⟨state.views.projection 1, rows * 6144 * 2⟩)]
    hentry (by ring) hquery
    (by
      simp only [List.mem_cons, List.not_mem_nil, or_false]
      rintro pair rfl
      exact ⟨projection_mem _, houtput, projections_apart hlaid (by decide)⟩)
    (List.pairwise_singleton _ _)
  unfold launchShortAttention
  rw [decide_eq_true_eq, hlast]
  exact ⟨hrows.1, hrows.2, hfirst, by omega, hspans⟩

include ha hlaid in
lemma enqueueAttention_ok {entry rows : ℕ} (hrows : 2 ≤ rows ∧ rows ≤ 4)
    (hentry : entry + rows ≤ state.plan.maxSequenceLength)
    (hchunk : 4 ≤ state.plan.prefillChunkSize)
    (hseq : state.plan.maxSequenceLength < 512 ∨ state.plan.maxSequenceLength = 44095) :
    enqueueAttention state slot entry rows = true := by
  unfold enqueueAttention
  simp only [Bool.and_eq_true, Bool.or_eq_true, Bool.not_eq_true', List.all_eq_true, List.mem_range]
  refine ⟨⟨?_, ?_⟩, fun row hrow => ?_⟩
  · cases hbatch : batchAttention state entry rows with
    | false => exact Or.inl rfl
    | true =>
      exact Or.inr ((launchVerifyAttention_iff ha hlaid slot hrows hentry hchunk hbatch).mpr
        (by omega))
  · cases hshort : shortAttention entry rows with
    | false => exact Or.inl rfl
    | true => exact Or.inr (launchShortAttention_ok ha hlaid slot hrows hentry hchunk hshort)
  · split_ifs
    · rfl
    · exact gateRow_ok ha row
    · exact (scalarRow_iff ha hlaid slot (by omega) (by omega) hchunk).mpr fun hlong => by omega

include ha hlaid in
lemma enqueueAttention_refused (hchunk : 4 ≤ state.plan.prefillChunkSize)
    (hseq : 44095 < state.plan.maxSequenceLength) :
    enqueueAttention state slot 44094 2 = false := by
  rw [← Bool.not_eq_true]
  intro h
  unfold enqueueAttention at h
  simp only [Bool.and_eq_true, Bool.or_eq_true, Bool.not_eq_true', List.all_eq_true,
    List.mem_range] at h
  obtain ⟨⟨hbatch, -⟩, hrows⟩ := h
  have hshort : shortAttention 44094 2 = false := by decide
  cases hcase : batchAttention state 44094 2 with
  | true =>
    obtain hfalse | hguards := hbatch
    · rw [hcase] at hfalse
      cases hfalse
    · have hle := (launchVerifyAttention_iff ha hlaid slot ⟨le_rfl, by omega⟩ (by omega) hchunk
        hcase).mp hguards
      omega
  | false =>
    have hrow := hrows 1 (by omega)
    rw [hshort, hcase, if_neg Bool.false_ne_true, if_neg Bool.false_ne_true] at hrow
    have hle := (scalarRow_iff ha hlaid slot (by omega) (by omega) hchunk).mp hrow (by omega)
    omega

end Routes

section Planned

-- A request state as its two creators make it, from a plan and the arena allocated for it.
inductive Planned (cfg : BuildConfig) : RequestArena → Prop
  | legacy {options : RequestMemoryOptions} {plan : RequestMemoryPlan} (arena : ℕ)
    (h : buildRequestMemoryPlan options = .ok plan) : Planned cfg ⟨arena, plan, {}⟩
  | layerMajor {options : LayerMajorRequestMemoryOptions} {plan : LayerMajorRequestMemoryPlan}
    (arena : ℕ) (h : buildLayerMajorRequestMemoryPlan cfg (buildWholeCorePlan cfg) options =
      .ok plan) :
    Planned cfg ⟨arena, plan.common, plan.p40WholeCore.linear.promptWideWorkspace⟩

variable {cfg : BuildConfig} {state : RequestArena}

lemma Planned.laid (h : Planned cfg state) : DecodeLaid state.plan := by
  cases h with
  | legacy arena h =>
    obtain ⟨hadmitted, rfl⟩ := buildRequestMemoryPlan_ok h
    exact requestPlan_decodeLaid hadmitted.chunk_pos hadmitted.chunk_le hadmitted.seq_pos
      hadmitted.seq_le
  | @layerMajor options plan arena h =>
    unfold buildLayerMajorRequestMemoryPlan at h
    split_ifs at h
    split at h
    · exact (buildWholeCorePlan_decodeLaid h).1
    · exact (buildFamilyOverlayPlan_decodeLaid h).1

lemma Planned.profile (h : Planned cfg state) :
    (∃ chunk seq, state.plan = requestPlan chunk seq) ∨ state.plan.profile = .layerMajorC8192 ∨
      state.plan.profile = .layerMajorP40WholeCore ∧ state.plan.maxSequenceLength ≤ 44095 := by
  cases h with
  | legacy arena h =>
    obtain ⟨-, rfl⟩ := buildRequestMemoryPlan_ok h
    exact Or.inl ⟨_, _, rfl⟩
  | @layerMajor options plan arena h =>
    unfold buildLayerMajorRequestMemoryPlan at h
    split_ifs at h
    split at h
    · obtain ⟨-, hprofile, hseq⟩ := buildWholeCorePlan_decodeLaid h
      refine Or.inr (Or.inr ⟨hprofile, ?_⟩)
      rw [hseq, wholeCoreCompiledSequenceCapacity]
      split_ifs <;> omega
    · exact Or.inr (Or.inl (buildFamilyOverlayPlan_decodeLaid h).2)

end Planned

section Transaction

variable {owner : TransactionOwner} {state : RequestArena} {transaction : TargetTransaction}

lemma newTransaction_facts (h : newTransaction owner state true = some transaction) :
    4 ≤ state.plan.prefillChunkSize ∧
      (state.plan.profile = .legacyC512 ∨ state.plan.profile = .layerMajorP40WholeCore) ∧
      (transaction.fullGraphs = true → captureAll owner state = true) := by
  unfold newTransaction at h
  split_ifs at h with howner hchunk _ _ _ _ _ _ hgraphs
  all_goals
    have hprofile : state.plan.profile = .legacyC512 ∨
        state.plan.profile = .layerMajorP40WholeCore := by
      rw [Bool.not_eq_false] at howner
      obtain ⟨-, -, -, hprofile | ⟨hprofile, -⟩⟩ := of_decide_eq_true howner
      · exact Or.inl hprofile
      · exact Or.inr (of_decide_eq_true hprofile)
    refine ⟨by simpa using hchunk, hprofile, fun hfull => ?_⟩
  · obtain ⟨graphs, hprepared, rfl⟩ := Option.map_eq_some_iff.mp h
    unfold prepareFullGraphs at hprepared
    split_ifs at hprepared with _ hcaptured
    · obtain rfl := Option.some.inj hprepared
      cases hfull
    · exact hcaptured.2.2
  · obtain rfl := Option.some.inj h
    cases hfull

lemma captureAttention_of_all (h : captureAll owner state = true) {rows : ℕ}
    (hrows : 2 ≤ rows ∧ rows ≤ 4) (short : Bool) (slot : Fin requestFullLayerCount) :
    captureAttention state slot owner.graphInputs short rows = true := by
  unfold captureAll at h
  have hmember : rows ∈ [2, 3, 4] := by
    simp only [List.mem_cons, List.not_mem_nil, or_false]
    omega
  have hshort := List.all_eq_true.mp (List.all_eq_true.mp h rows hmember) short
    (by cases short <;> decide)
  exact List.all_eq_true.mp hshort slot (List.mem_finRange slot)

def willingOwner : TransactionOwner where
  ownsState := true
  weightOnlyBackend := true
  quantisedHead := true
  layerMajorViews := true
  projectionDevice := true
  snapshotsAllocated := true
  startupInputs := true
  gdnGraphs := true
  graphInputs := 256
  graphStorage := true
  otherLaunches := true

lemma newTransaction_legacy {chunk seq : ℕ} (hplan : state.plan = requestPlan chunk seq)
    (hchunk : 4 ≤ chunk) : newTransaction willingOwner state true = some ⟨true, false⟩ := by
  have hprofile : state.plan.profile = .legacyC512 := by rw [hplan]; rfl
  have hsize : state.plan.prefillChunkSize = chunk := by rw [hplan]; rfl
  have hwhole : wholeCore state = false := by
    unfold wholeCore
    rw [hprofile]
    rfl
  have howner : ownerSupported willingOwner state = true := by
    unfold ownerSupported
    rw [decide_eq_true_eq]
    exact ⟨rfl, rfl, rfl, Or.inl hprofile⟩
  have hlayout : recurrentLayout state = true := by
    unfold recurrentLayout
    rw [decide_eq_true_eq, hplan]
    norm_num [requestPlan, convShape, gdnShape, requestConvStateBytes, requestGdnStateBytes,
      recurrentBytes]
  unfold newTransaction
  rw [howner, hlayout, hwhole, hsize]
  simp [hchunk, willingOwner]

end Transaction

section Exact

def NeverRefuses (state : RequestArena) : Prop :=
  (∀ slot position, position < state.plan.maxSequenceLength →
    stepAttention state.views slot position = true) ∧
  ∀ owner transaction, newTransaction owner state true = some transaction →
    ∀ slot entry rows, 2 ≤ rows ∧ rows ≤ 4 → entry + rows ≤ state.plan.maxSequenceLength →
      verifyAttention owner state transaction slot entry rows = true

variable {state : RequestArena}

lemma verifyAttention_ok (ha : Allocated state) (hlaid : DecodeLaid state.plan)
    {owner : TransactionOwner} {transaction : TargetTransaction}
    (h : newTransaction owner state true = some transaction)
    (hseq : state.plan.maxSequenceLength < 512 ∨ state.plan.maxSequenceLength = 44095)
    (slot : Fin requestFullLayerCount) {entry rows : ℕ} (hrows : 2 ≤ rows ∧ rows ≤ 4)
    (hentry : entry + rows ≤ state.plan.maxSequenceLength) :
    verifyAttention owner state transaction slot entry rows = true := by
  obtain ⟨hchunk, -, hcaptured⟩ := newTransaction_facts h
  unfold verifyAttention
  dsimp only
  split_ifs with hgraph
  · rw [decide_eq_true_eq]
    refine ⟨captureAttention_of_all (hcaptured hgraph.1) hrows _ slot, ?_⟩
    by_cases hshort : 65 ≤ entry + 1 ∧ entry + rows ≤ 511
    · rw [decide_eq_true hshort]
      simp only [graphMaximumFirst, if_true]
      omega
    · rw [decide_eq_false hshort]
      simp only [graphMaximumFirst, Bool.false_eq_true, if_false]
      omega
  · exact enqueueAttention_ok ha hlaid slot hrows hentry hchunk hseq

end Exact

theorem decode_attention_admitted (cfg : BuildConfig) (state : RequestArena)
    (hplanned : Planned cfg state) (ha : Allocated state) :
    NeverRefuses state ↔
      state.plan.maxSequenceLength < 512 ∨ state.plan.maxSequenceLength = 44095 ∨
        44095 < state.plan.maxSequenceLength ∧
          ¬(state.plan.profile = .legacyC512 ∧ 4 ≤ state.plan.prefillChunkSize) := by
  have hlaid := hplanned.laid
  let slot : Fin requestFullLayerCount := ⟨0, by decide⟩
  constructor
  · rintro ⟨hstep, hverify⟩
    by_contra hcondition
    rw [not_or, not_or, not_and, not_not] at hcondition
    obtain ⟨hlong, hne, hlegacy⟩ := hcondition
    by_cases hlarge : 44095 < state.plan.maxSequenceLength
    · -- Past the fused capacity a multi-row round has no fallback.
      obtain ⟨hprofile, hchunk⟩ := hlegacy hlarge
      obtain ⟨chunk, seq, hplan⟩ | hother | ⟨hother, -⟩ := hplanned.profile
      · have haccepted := newTransaction_legacy hplan (by rw [hplan] at hchunk; exact hchunk)
        have hround := hverify _ _ haccepted slot 44094 2 ⟨le_rfl, by omega⟩ (by omega)
        have hrefused := enqueueAttention_refused ha hlaid slot hchunk hlarge
        unfold verifyAttention at hround
        simp only [Bool.false_eq_true, false_and, if_false] at hround
        rw [hrefused] at hround
        cases hround
      · rw [hprofile] at hother
        cases hother
      · rw [hprofile] at hother
        cases hother
    · have hfused := (stepAttention_iff ha hlaid slot (by omega)).mp (hstep slot 511 (by omega))
        (by omega) (by omega)
      omega
  · intro hcondition
    refine ⟨fun slot position hposition => ?_, fun owner transaction h slot entry rows hrows hentry
      => ?_⟩
    · exact (stepAttention_iff ha hlaid slot hposition).mpr fun _ _ => by omega
    · obtain hseq | hseq | ⟨hlarge, hlegacy⟩ := hcondition
      · exact verifyAttention_ok ha hlaid h (Or.inl hseq) slot hrows hentry
      · exact verifyAttention_ok ha hlaid h (Or.inr hseq) slot hrows hentry
      · obtain ⟨hchunk, hprofile, -⟩ := newTransaction_facts h
        obtain hprofile | hprofile := hprofile
        · exact absurd ⟨hprofile, hchunk⟩ hlegacy
        · obtain ⟨chunk, seq, hplan⟩ | hother | ⟨-, hle⟩ := hplanned.profile
          · rw [hplan] at hprofile
            cases hprofile
          · rw [hprofile] at hother
            cases hother
          · omega

section Sample

lemma requestPlan_planned {chunk seq : ℕ} (hchunk : 0 < chunk ∧ chunk ≤ 512)
    (hseq : 0 < seq ∧ seq ≤ 262144) :
    buildRequestMemoryPlan
      { prefillChunkSize := chunk
        maxSequenceLength := seq
        maxArenaBytes := maximumConfigurableArenaBytes } = .ok (requestPlan chunk seq) := by
  have hfits : requestArenaTotal chunk seq ≤ maximumConfigurableArenaBytes := by
    have hscratch := scratchElements_le hseq.2
    simp only [requestArenaTotal, persistentTotal, statefulBytes, requestConvStateBytes,
      requestGdnStateBytes, workspaceTotal, ropeTotal, alignUp_eq, maximumConfigurableArenaBytes]
    omega
  have hlimit : 0 < maximumConfigurableArenaBytes := by decide
  exact (buildRequestMemoryPlan_of_admitted ⟨rfl, hseq.1, hseq.2, hchunk.1, hchunk.2, hlimit,
    le_rfl⟩).trans (if_neg (Nat.not_lt.mpr hfits))

def sampleArena (chunk seq : ℕ) : RequestArena := ⟨2 ^ 40, requestPlan chunk seq, {}⟩

lemma sampleArena_planned (cfg : BuildConfig) {chunk seq : ℕ} (hchunk : 0 < chunk ∧ chunk ≤ 512)
    (hseq : 0 < seq ∧ seq ≤ 262144) : Planned cfg (sampleArena chunk seq) :=
  Planned.legacy _ (requestPlan_planned hchunk hseq)

lemma sampleArena_allocated {chunk seq : ℕ} (hchunk : chunk ≤ 512) (hseq : seq ≤ 262144) :
    Allocated (sampleArena chunk seq) where
  nonnull := by norm_num [sampleArena]
  aligned := ⟨2 ^ 32, by norm_num [sampleArena]⟩
  fits := by
    have hscratch := scratchElements_le hseq
    have hmax := uint64Max_eq
    simp only [sampleArena, requestPlan, requestArenaTotal, persistentTotal, statefulBytes,
      requestConvStateBytes, requestGdnStateBytes, workspaceTotal, ropeTotal, alignUp_eq]
    omega

end Sample

theorem served_capacity_admitted : NeverRefuses (sampleArena 512 44095) :=
  (decode_attention_admitted {} _ (sampleArena_planned {} (by decide) (by decide))
    (sampleArena_allocated (by decide) (by decide))).mpr (Or.inr (Or.inl rfl))

-- A chunk of 512 and 4096 positions: the fused route is taken at 512 with too small a scratch.
theorem fused_decode_refuses :
    Planned {} (sampleArena 512 4096) ∧ Allocated (sampleArena 512 4096) ∧
      511 < (sampleArena 512 4096).plan.maxSequenceLength ∧
      stepAttention (sampleArena 512 4096).views ⟨0, by decide⟩ 511 = false ∧
      ¬NeverRefuses (sampleArena 512 4096) := by
  have hplanned := sampleArena_planned {} (show 0 < 512 ∧ 512 ≤ 512 by decide)
    (show 0 < 4096 ∧ 4096 ≤ 262144 by decide)
  have hallocated := sampleArena_allocated (show 512 ≤ 512 by decide)
    (show 4096 ≤ 262144 by decide)
  have hlong : 511 < (sampleArena 512 4096).plan.maxSequenceLength := by decide
  have hstep : stepAttention (sampleArena 512 4096).views ⟨0, by decide⟩ 511 = false := by
    rw [← Bool.not_eq_true, stepAttention_iff hallocated hplanned.laid _ hlong]
    decide
  refine ⟨hplanned, hallocated, hlong, hstep, fun h => ?_⟩
  have hadmitted := h.1 ⟨0, by decide⟩ 511 hlong
  rw [hstep] at hadmitted
  cases hadmitted

end Qwen3xOrin.Mtp
