import Qwen3xOrin.Request.ArenaLayout
import Qwen3xOrin.Request.WholeCoreBuild

/-! The buffers decode attention works on, in every plan a planner can make: aligned, apart, and
sized from the sequence length and the chunk. -/

namespace Qwen3xOrin.Request

open Io Library Library.Arena PlanBuilder
open Prefill (BuildConfig wholeCoreCompiledSequenceCapacity promptWideP40RequestCapacityTokens)

def cacheRegions (plan : RequestMemoryPlan) : List RequestRegion :=
  (List.finRange requestFullLayerCount).flatMap fun slot =>
    [plan.keyCache slot, plan.valueCache slot]

def scratchRegions (plan : RequestMemoryPlan) : List RequestRegion :=
  (List.finRange requestProjectionBufferCount).map plan.projectionBf16 ++ [plan.fp32Scratch]

structure DecodeLaid (plan : RequestMemoryPlan) : Prop where
  seq_pos : 0 < plan.maxSequenceLength
  seq_le : plan.maxSequenceLength ≤ absoluteRequestMaxSequenceLength
  chunk_pos : 0 < plan.prefillChunkSize
  chunk_le : plan.prefillChunkSize ≤ maximumRequestPrefillChunkSize
  apart : (cacheRegions plan ++ scratchRegions plan).Pairwise Apart
  within : ∀ region ∈ cacheRegions plan ++ scratchRegions plan,
    256 ∣ region.arenaOffset ∧ region.arenaOffset + region.byteSize ≤ plan.arenaBytes
  caches : ∀ region ∈ cacheRegions plan, region.byteSize = 2048 * plan.maxSequenceLength
  projections : ∀ index, (plan.projectionBf16 index).byteSize = 34816 * plan.prefillChunkSize
  scratch : plan.fp32Scratch.byteSize = 4 * plan.fp32Scratch.elementCapacity
  scratch_ge : 24 * plan.maxSequenceLength ≤ plan.fp32Scratch.elementCapacity
  scratch_le : plan.fp32Scratch.elementCapacity ≤
    max fp32MinimumElements (24 * plan.maxSequenceLength)

section Legacy

variable {chunk seq : ℕ}

lemma cacheRegions_sublist (plan : RequestMemoryPlan) :
    List.Sublist (cacheRegions plan) (persistentRegions plan) :=
  List.sublist_append_right _ _

lemma scratchRegions_sublist (plan : RequestMemoryPlan) :
    List.Sublist (scratchRegions plan) (workspaceRegions plan) := by
  unfold scratchRegions workspaceRegions
  refine List.Sublist.append (List.sublist_append_right _ _) ?_
  exact List.sublist_append_right [plan.linearABf16, plan.linearBBf16] [plan.fp32Scratch]

lemma requestPlan_decodeLaid (hchunk : 0 < chunk) (hchunk' : chunk ≤ 512) (hseq : 0 < seq)
    (hseq' : seq ≤ 262144) : DecodeLaid (requestPlan chunk seq) := by
  have hlaid := requestPlan_laid hchunk hchunk' hseq hseq'
  have hsub : List.Sublist (cacheRegions (requestPlan chunk seq) ++
      scratchRegions (requestPlan chunk seq))
      (persistentRegions (requestPlan chunk seq) ++ workspaceRegions (requestPlan chunk seq)) :=
    (cacheRegions_sublist _).append (scratchRegions_sublist _)
  obtain ⟨hstart, hworkspace, hrope, htotal⟩ := hlaid.sections
  exact
    { seq_pos := hseq
      seq_le := hseq'
      chunk_pos := hchunk
      chunk_le := hchunk'
      apart := (hlaid.apart.sublist (List.sublist_append_left _ _)).sublist hsub
      within := by
        intro region hregion
        obtain hregion | hregion := List.mem_append.mp (hsub.subset hregion)
        · obtain ⟨haligned, -, -, hstop⟩ := hlaid.persistent region hregion
          exact ⟨haligned, by omega⟩
        · obtain ⟨haligned, -, -, hstop⟩ := hlaid.workspace region hregion
          exact ⟨haligned, by omega⟩
      caches := by
        intro region hregion
        obtain ⟨slot, -, hregion⟩ := List.mem_flatMap.mp hregion
        simp only [List.mem_cons, List.not_mem_nil, or_false] at hregion
        obtain rfl | rfl := hregion <;> rfl
      projections := fun index => rfl
      scratch := rfl
      scratch_ge := le_max_right _ _
      scratch_le := le_rfl }

end Legacy

section Builder

variable {elements size cursor stop rows columns count : ℕ}

lemma add_spec {region : RequestRegion} (h : add elements size cursor = some (region, stop)) :
    cursor ≤ region.arenaOffset ∧ 256 ∣ region.arenaOffset ∧ 0 < region.byteSize ∧
      region.byteSize = elements * size ∧ region.elementCapacity = elements ∧
      stop = region.arenaOffset + region.byteSize := by
  unfold add at h
  simp only [Option.bind_eq_bind, Option.bind_eq_some_iff, Option.pure_def, Option.some.injEq,
    Prod.mk.injEq] at h
  obtain ⟨_, -, bytes, hbytes, _, hpos, aligned, haligned, sum, hsum, rfl, rfl⟩ := h
  obtain ⟨rfl, -⟩ := checkedMultiply_eq_some.mp hbytes
  unfold checkedAlign at haligned
  split_ifs at haligned
  obtain rfl := Option.some.inj haligned
  unfold checkedAdd at hsum
  split_ifs at hsum
  obtain rfl := Option.some.inj hsum
  have hle : cursor ≤ alignUp cursor := by
    rw [alignUp_eq]
    omega
  exact ⟨hle, alignUp_dvd cursor, Nat.pos_of_ne_zero (guard_some.mp hpos), rfl, rfl, rfl⟩

lemma align_spec (h : align cursor = some stop) : cursor ≤ stop := by
  unfold align checkedAlign at h
  split_ifs at h
  obtain rfl := Option.some.inj h
  rw [alignUp_eq]
  omega

lemma addMatrix_spec {stride : ℕ} {matrix : RequestMatrixRegion}
    (h : addMatrix rows columns stride size cursor = some (matrix, stop)) :
    cursor ≤ matrix.storage.arenaOffset ∧ 256 ∣ matrix.storage.arenaOffset ∧
      0 < matrix.storage.byteSize ∧ matrix.storage.byteSize = rows * stride * size ∧
      stop = matrix.storage.arenaOffset + matrix.storage.byteSize := by
  unfold addMatrix at h
  simp only [Option.bind_eq_bind, Option.bind_eq_some_iff, Option.pure_def, Option.some.injEq,
    Prod.mk.injEq] at h
  obtain ⟨_, -, elements, helements, ⟨storage, sum⟩, hadd, rfl, rfl⟩ := h
  obtain ⟨rfl, -⟩ := checkedMultiply_eq_some.mp helements
  obtain ⟨hstart, haligned, hpos, hbytes, -, hstop⟩ := add_spec hadd
  exact ⟨hstart, haligned, hpos, hbytes, hstop⟩

lemma addMatrices_spec {matrices : List RequestMatrixRegion}
    (h : addMatrices rows columns size count cursor = some (matrices, stop)) :
    matrices.length = count ∧
      Placed RequestRegion.arenaOffset RequestRegion.byteSize 256 cursor
        (matrices.map RequestMatrixRegion.storage) stop ∧
      ∀ matrix ∈ matrices, matrix.storage.byteSize = rows * columns * size := by
  induction count generalizing cursor matrices with
  | zero =>
    obtain ⟨rfl, rfl⟩ := Prod.mk.inj (Option.some.inj h)
    exact ⟨rfl, le_rfl, fun matrix hmatrix => nomatch hmatrix⟩
  | succ count ih =>
    unfold addMatrices at h
    simp only [Option.bind_eq_bind, Option.bind_eq_some_iff, Option.pure_def, Option.some.injEq,
      Prod.mk.injEq] at h
    obtain ⟨⟨matrix, middle⟩, hmatrix, ⟨rest, last⟩, hrest, rfl, rfl⟩ := h
    obtain ⟨hstart, haligned, hpos, hbytes, hmiddle⟩ := addMatrix_spec hmatrix
    obtain ⟨hlength, hplaced, hsizes⟩ := ih hrest
    subst hmiddle
    refine ⟨congrArg Nat.succ hlength, ⟨hstart, haligned, hpos, hplaced⟩, fun other hother => ?_⟩
    obtain rfl | hother := List.mem_cons.mp hother
    · exact hbytes
    · exact hsizes other hother

def cachePair (pair : RequestRegion × RequestRegion) : List RequestRegion := [pair.1, pair.2]

lemma addCachesOf_spec {slots caches : List (RequestRegion × RequestRegion)} {bytes : ℕ}
    (h : addCachesOf slots cursor = some (caches, stop))
    (hslots : ∀ pair ∈ slots, ∀ region ∈ cachePair pair,
      region.elementCapacity * region.elementSizeBytes = bytes) :
    caches.length = slots.length ∧
      Placed RequestRegion.arenaOffset RequestRegion.byteSize 256 cursor
        (caches.flatMap cachePair) stop ∧
      ∀ region ∈ caches.flatMap cachePair, region.byteSize = bytes := by
  induction slots generalizing cursor caches with
  | nil =>
    obtain ⟨rfl, rfl⟩ := Prod.mk.inj (Option.some.inj h)
    exact ⟨rfl, le_rfl, fun region hregion => nomatch hregion⟩
  | cons pair slots ih =>
    obtain ⟨first, second⟩ := pair
    unfold addCachesOf at h
    simp only [Option.bind_eq_bind, Option.bind_eq_some_iff, Option.pure_def, Option.some.injEq,
      Prod.mk.injEq] at h
    obtain ⟨⟨key, middle⟩, hkey, ⟨value, middle'⟩, hvalue, ⟨rest, last⟩, hrest, rfl, rfl⟩ := h
    obtain ⟨hstart, haligned, hpos, hbytes, -, hmiddle⟩ := add_spec hkey
    obtain ⟨hstart', haligned', hpos', hbytes', -, hmiddle'⟩ := add_spec hvalue
    obtain ⟨hlength, hplaced, hsizes⟩ := ih hrest
      fun pair hpair => hslots pair (List.mem_cons_of_mem _ hpair)
    subst hmiddle hmiddle'
    have hpair := hslots (first, second) List.mem_cons_self
    refine ⟨congrArg Nat.succ hlength,
      ⟨hstart, haligned, hpos, hstart', haligned', hpos', hplaced⟩, fun region hregion => ?_⟩
    rw [List.flatMap_cons] at hregion
    obtain hregion | hregion := List.mem_append.mp hregion
    · simp only [cachePair, List.mem_cons, List.not_mem_nil, or_false] at hregion
      obtain rfl | rfl := hregion
      · exact hbytes.trans (hpair first (by simp [cachePair]))
      · exact hbytes'.trans (hpair second (by simp [cachePair]))
    · exact hsizes region hregion

end Builder

section LayerMajor

variable {seq cursor : ℕ}

lemma orFail_ok {α : Type} {code : RequestErrorCode} {message context : String} {x : Option α}
    {a : α} (h : orFail code message context x = .ok a) : x = some a := by
  cases x with
  | none => cases h
  | some b => rw [Except.ok.inj h]

lemma map_getD_finRange {α : Type} {default : α} {l : List α} {n : ℕ} (h : l.length = n) :
    (List.finRange n).map (fun i : Fin n => l.getD i default) = l := by
  refine List.ext_getElem (by simp [h]) fun i hi hi' => ?_
  simp [List.getD_eq_getElem?_getD, hi']

lemma buildLayerMajorPersistent_spec {layout : PersistentLayout}
    (h : buildLayerMajorPersistent (requestPlan 512 seq) = .ok layout) :
    layout.caches.length = requestFullLayerCount ∧
      Placed RequestRegion.arenaOffset RequestRegion.byteSize 256 0
        (layout.caches.flatMap cachePair) layout.cursor ∧
      ∀ region ∈ layout.caches.flatMap cachePair, region.byteSize = 2048 * seq := by
  unfold buildLayerMajorPersistent at h
  obtain ⟨⟨⟨conv, gdn⟩, first⟩, -, h⟩ := bind_ok.mp h
  obtain ⟨⟨caches, second⟩, hcaches, h⟩ := bind_ok.mp h
  obtain ⟨last, hlast, h⟩ := bind_ok.mp h
  obtain rfl := Except.ok.inj h
  have hslots : ∀ pair ∈ (List.finRange requestFullLayerCount).map fun slot =>
      ((requestPlan 512 seq).keyCache slot, (requestPlan 512 seq).valueCache slot),
      ∀ region ∈ cachePair pair,
        region.elementCapacity * region.elementSizeBytes = 2048 * seq := by
    intro pair hpair region hregion
    obtain ⟨slot, -, rfl⟩ := List.mem_map.mp hpair
    simp only [cachePair, List.mem_cons, List.not_mem_nil, or_false] at hregion
    obtain rfl | rfl := hregion
    · simp only [requestPlan, keyShape]
      ring
    · simp only [requestPlan, valueShape]
      ring
  obtain ⟨hlength, hplaced, hsizes⟩ := addCachesOf_spec (orFail_ok hcaches) hslots
  have hstop : second ≤ last := align_spec (orFail_ok hlast)
  exact ⟨by simpa using hlength, hplaced.mono (Nat.zero_le _) hstop, hsizes⟩

lemma buildLegacyRegions_spec {shape : RequestMemoryPlan} {layout : LegacyLayout}
    (h : buildLegacyRegions shape cursor = .ok layout) :
    Placed RequestRegion.arenaOffset RequestRegion.byteSize 256 cursor
        ((List.finRange requestProjectionBufferCount).map
          (fun index => (layout.regions.projectionBf16 index).storage) ++
          [layout.regions.fp32Scratch]) layout.cursor ∧
      (∀ index, (layout.regions.projectionBf16 index).storage.byteSize = 34816 * 512) ∧
      layout.regions.fp32Scratch.byteSize = 4 * shape.fp32Scratch.elementCapacity ∧
      layout.regions.fp32Scratch.elementCapacity = shape.fp32Scratch.elementCapacity := by
  unfold buildLegacyRegions at h
  obtain ⟨⟨hidden, first⟩, hhidden, h⟩ := bind_ok.mp h
  obtain ⟨⟨projection, second⟩, hprojection, h⟩ := bind_ok.mp h
  obtain ⟨⟨linear, third⟩, hlinear, h⟩ := bind_ok.mp h
  obtain ⟨⟨scratch, fourth⟩, hscratch, h⟩ := bind_ok.mp h
  obtain ⟨last, hlast, h⟩ := bind_ok.mp h
  obtain rfl := Except.ok.inj h
  have hstart : cursor ≤ first := (addMatrices_spec (orFail_ok hhidden)).2.1.le
  obtain ⟨hlength, hplaced, hsizes⟩ := addMatrices_spec (orFail_ok hprojection)
  have hmiddle : second ≤ third := by
    have hpair := orFail_ok hlinear
    simp only [Option.bind_eq_bind, Option.bind_eq_some_iff, Option.pure_def, Option.some.injEq,
      Prod.mk.injEq] at hpair
    obtain ⟨⟨a, middle⟩, ha, ⟨b, stop⟩, hb, -, rfl⟩ := hpair
    obtain ⟨hle, -, -, -, hmiddle⟩ := addMatrix_spec ha
    obtain ⟨hle', -, -, -, hstop⟩ := addMatrix_spec hb
    omega
  obtain ⟨hfrom, haligned, hpos, hbytes, helements, hto⟩ := add_spec (orFail_ok hscratch)
  have hstop : fourth ≤ last := align_spec (orFail_ok hlast)
  have hlist : (List.finRange requestProjectionBufferCount).map
      (fun index : Fin requestProjectionBufferCount => (projection.getD index {}).storage) =
      projection.map RequestMatrixRegion.storage := by
    have hall := congrArg (List.map RequestMatrixRegion.storage)
      (@map_getD_finRange _ {} _ _ hlength)
    rw [List.map_map] at hall
    exact hall
  refine ⟨?_, fun index => ?_, ?_, helements⟩
  · dsimp only
    rw [hlist]
    refine (hplaced.mono hstart le_rfl).append ⟨by omega, haligned, hpos, ?_⟩
    exact hto.symm.le.trans hstop
  · have hindex : (index : ℕ) < projection.length := by
      rw [hlength]
      exact index.isLt
    have hmember : projection.getD index {} ∈ projection := by
      simp [List.getD_eq_getElem?_getD, hindex]
    exact hsizes _ hmember
  · exact hbytes.trans (Nat.mul_comm _ _)

lemma buildRequestMemoryPlan_ok {options : RequestMemoryOptions} {plan : RequestMemoryPlan}
    (h : buildRequestMemoryPlan options = .ok plan) :
    Admitted options ∧ plan = requestPlan options.prefillChunkSize options.maxSequenceLength := by
  by_cases hadmitted : Admitted options
  · rw [buildRequestMemoryPlan_of_admitted hadmitted] at h
    split_ifs at h
    exact ⟨hadmitted, (Except.ok.inj h).symm⟩
  · obtain ⟨diagnostic, herror, -⟩ := buildRequestMemoryPlan_of_not_admitted hadmitted
    rw [herror] at h
    cases h

-- What the two layer-major builders make of their layouts, as far as decode reads it.
structure DecodeView (plan : RequestMemoryPlan) (seq : ℕ) (persistent : PersistentLayout)
    (legacy : LegacyLayout) : Prop where
  chunk : plan.prefillChunkSize = 512
  seq : plan.maxSequenceLength = seq
  key : ∀ slot, plan.keyCache slot = (persistent.caches.getD slot ({}, {})).1
  value : ∀ slot, plan.valueCache slot = (persistent.caches.getD slot ({}, {})).2
  projection : ∀ index, plan.projectionBf16 index = (legacy.regions.projectionBf16 index).storage
  scratch : plan.fp32Scratch = legacy.regions.fp32Scratch

lemma DecodeView.laid {plan shape : RequestMemoryPlan} {persistent : PersistentLayout}
    {legacy : LegacyLayout} (h : DecodeView plan seq persistent legacy) (hseq : 0 < seq)
    (hseq' : seq ≤ absoluteRequestMaxSequenceLength)
    (hpersistent : buildLayerMajorPersistent (requestPlan 512 seq) = .ok persistent)
    (hstart : persistent.cursor ≤ cursor) (hlegacy : buildLegacyRegions shape cursor = .ok legacy)
    (hstop : legacy.cursor ≤ plan.arenaBytes)
    (hge : 24 * seq ≤ shape.fp32Scratch.elementCapacity)
    (hle : shape.fp32Scratch.elementCapacity ≤ max fp32MinimumElements (24 * seq)) :
    DecodeLaid plan := by
  obtain ⟨hlength, hcaches, hcacheBytes⟩ := buildLayerMajorPersistent_spec hpersistent
  obtain ⟨hscratches, hprojections, hbytes, helements⟩ := buildLegacyRegions_spec hlegacy
  have hcacheRegions : cacheRegions plan = persistent.caches.flatMap cachePair := by
    have hall := congrArg (List.flatMap cachePair) (@map_getD_finRange _ ({}, {}) _ _ hlength)
    rw [List.flatMap_map] at hall
    rw [← hall]
    refine List.flatMap_congr fun slot _ => ?_
    rw [h.key, h.value]
    rfl
  have hscratchRegions : scratchRegions plan =
      (List.finRange requestProjectionBufferCount).map
        (fun index => (legacy.regions.projectionBf16 index).storage) ++
        [legacy.regions.fp32Scratch] := by
    unfold scratchRegions
    rw [h.scratch]
    congr 1
    exact List.map_congr_left fun index _ => h.projection index
  have hall : Placed RequestRegion.arenaOffset RequestRegion.byteSize 256 0
      (cacheRegions plan ++ scratchRegions plan) plan.arenaBytes := by
    rw [hcacheRegions, hscratchRegions]
    exact (hcaches.mono le_rfl hstart).append (hscratches.mono le_rfl hstop)
  exact
    { seq_pos := by rw [h.seq]; exact hseq
      seq_le := by rw [h.seq]; exact hseq'
      chunk_pos := by rw [h.chunk]; decide
      chunk_le := by rw [h.chunk]; decide
      apart := hall.pairwise
      within := fun region hregion =>
        ⟨(hall.mem hregion).1, (hall.mem hregion).2.2.2⟩
      caches := by
        rw [hcacheRegions, h.seq]
        exact hcacheBytes
      projections := by
        intro index
        rw [h.projection, h.chunk]
        exact hprojections index
      scratch := by
        rw [h.scratch, hbytes, helements]
      scratch_ge := by
        rw [h.scratch, h.seq, helements]
        exact hge
      scratch_le := by
        rw [h.scratch, h.seq, helements]
        exact hle }

lemma owners_cursor {rows bytes stop : ℕ} {owners : RequestMatrixRegion × RequestRegion}
    (h : (do
      let (residual, cursor) ← addMatrix rows hiddenElements hiddenElements bf16Bytes cursor
      let (family, cursor) ← add bytes 1 cursor
      pure ((residual, family), cursor)) = some (owners, stop)) : cursor ≤ stop := by
  simp only [Option.bind_eq_bind, Option.bind_eq_some_iff, Option.pure_def, Option.some.injEq,
    Prod.mk.injEq] at h
  obtain ⟨⟨residual, middle⟩, hresidual, ⟨family, last⟩, hfamily, -, rfl⟩ := h
  obtain ⟨hle, -, -, -, hmiddle⟩ := addMatrix_spec hresidual
  obtain ⟨hle', -, -, -, -, hlast⟩ := add_spec hfamily
  omega

lemma buildPhases_cursor {familyBytes mlpRows : ℕ} {offsets : MlpOffsets} {layout : PhaseLayout}
    (h : buildPhases seq familyBytes mlpRows offsets cursor = .ok layout) :
    cursor ≤ layout.cursor := by
  unfold buildPhases at h
  obtain ⟨⟨owners, stop⟩, howners, h⟩ := bind_ok.mp h
  obtain ⟨_, -, h⟩ := bind_ok.mp h
  obtain ⟨_, -, h⟩ := bind_ok.mp h
  obtain ⟨_, -, h⟩ := bind_ok.mp h
  obtain rfl := Except.ok.inj h
  exact owners_cursor (orFail_ok howners)

lemma buildWholeCorePhases_cursor {cfg : BuildConfig} {parity : Bool}
    {familyBytes workspaceBytes : ℕ} {layout : WholeCorePhaseLayout}
    (h : buildWholeCorePhases cfg parity seq familyBytes workspaceBytes cursor = .ok layout) :
    cursor ≤ layout.cursor := by
  unfold buildWholeCorePhases at h
  obtain ⟨⟨owners, stop⟩, howners, h⟩ := bind_ok.mp h
  obtain ⟨_, -, h⟩ := bind_ok.mp h
  obtain ⟨_, -, h⟩ := bind_ok.mp h
  obtain ⟨_, -, h⟩ := bind_ok.mp h
  obtain rfl := Except.ok.inj h
  exact owners_cursor (orFail_ok howners)

lemma finalHidden_cursor {stop : ℕ} {matrix : RequestMatrixRegion}
    (h : (do
      let (finalHidden, cursor) ← addMatrix 1 hiddenElements hiddenElements bf16Bytes cursor
      let cursor ← align cursor
      pure (finalHidden, cursor)) = some (matrix, stop)) : cursor ≤ stop := by
  simp only [Option.bind_eq_bind, Option.bind_eq_some_iff, Option.pure_def, Option.some.injEq,
    Prod.mk.injEq] at h
  obtain ⟨⟨residual, middle⟩, hresidual, last, hlast, -, rfl⟩ := h
  obtain ⟨hle, -, -, -, hmiddle⟩ := addMatrix_spec hresidual
  have hstop := align_spec hlast
  omega

lemma buildTail_cursor {shape : RequestMemoryPlan} {layout : TailLayout}
    (h : buildTail shape cursor = .ok layout) : cursor ≤ layout.cursor := by
  unfold buildTail at h
  obtain ⟨⟨finalHidden, ropeOffset⟩, hfinal, h⟩ := bind_ok.mp h
  obtain ⟨⟨rope, stop⟩, hrope, h⟩ := bind_ok.mp h
  obtain rfl := Except.ok.inj h
  have hstart := finalHidden_cursor (orFail_ok hfinal)
  have hpair := orFail_ok hrope
  simp only [Option.bind_eq_bind, Option.bind_eq_some_iff, Option.pure_def, Option.some.injEq,
    Prod.mk.injEq] at hpair
  obtain ⟨⟨cos, middle⟩, hcos, ⟨sin, middle'⟩, hsin, last, hlast, -, rfl⟩ := hpair
  obtain ⟨hle, -, -, -, -, hmiddle⟩ := add_spec hcos
  obtain ⟨hle', -, -, -, -, hmiddle'⟩ := add_spec hsin
  have hstop := align_spec hlast
  dsimp only
  omega

lemma buildWholeCoreTail_cursor {shape : RequestMemoryPlan} {layout : TailLayout}
    (h : buildWholeCoreTail shape cursor = .ok layout) : cursor ≤ layout.cursor := by
  unfold buildWholeCoreTail at h
  obtain ⟨⟨finalHidden, ropeOffset⟩, hfinal, h⟩ := bind_ok.mp h
  obtain ⟨⟨rope, stop⟩, hrope, h⟩ := bind_ok.mp h
  obtain rfl := Except.ok.inj h
  have hstart := finalHidden_cursor (orFail_ok hfinal)
  have hpair := orFail_ok hrope
  simp only [Option.bind_eq_bind, Option.bind_eq_some_iff, Option.pure_def, Option.some.injEq,
    Prod.mk.injEq] at hpair
  obtain ⟨_, -, _, -, ⟨combined, middle⟩, hcombined, _, -, last, hlast, -, rfl⟩ := hpair
  obtain ⟨hle, -, -, -, -, hmiddle⟩ := add_spec hcombined
  have hstop := align_spec hlast
  dsimp only
  omega

variable {cfg : BuildConfig} {options : LayerMajorRequestMemoryOptions}
  {plan : LayerMajorRequestMemoryPlan}

lemma buildFamilyOverlayPlan_decodeLaid (h : buildFamilyOverlayPlan cfg options = .ok plan) :
    DecodeLaid plan.common ∧ plan.common.profile = .layerMajorC8192 := by
  unfold buildFamilyOverlayPlan at h
  obtain ⟨workspace, -, h⟩ := bind_ok.mp h
  obtain ⟨shape, hshape, h⟩ := bind_ok.mp h
  obtain ⟨hadmitted, rfl⟩ := buildRequestMemoryPlan_ok hshape
  obtain ⟨offsets, -, h⟩ := bind_ok.mp h
  obtain ⟨persistent, hpersistent, h⟩ := bind_ok.mp h
  obtain ⟨phases, hphases, h⟩ := bind_ok.mp h
  obtain ⟨legacy, hlegacy, h⟩ := bind_ok.mp h
  dsimp only at h
  split_ifs at h
  obtain ⟨tail, htail, h⟩ := bind_ok.mp h
  split_ifs at h
  obtain rfl := Except.ok.inj h
  have hview : ∀ common : RequestMemoryPlan, DecodeView common options.maxSequenceLength persistent
      legacy → common.arenaBytes = tail.cursor → DecodeLaid common := by
    intro common hcommon hbytes
    refine hcommon.laid hadmitted.seq_pos hadmitted.seq_le hpersistent (buildPhases_cursor hphases)
      hlegacy ?_ (le_max_right _ _) le_rfl
    rw [hbytes]
    exact buildTail_cursor htail
  exact ⟨hview _ ⟨rfl, rfl, fun _ => rfl, fun _ => rfl, fun _ => rfl, rfl⟩ rfl, rfl⟩

lemma wholeCoreFamily_capacity {tokens : ℕ} {workspace family : WholeCoreWorkspacePlan}
    (h : wholeCoreFamily cfg tokens workspace = some family) :
    family.requestSequenceCapacityTokens = workspace.requestSequenceCapacityTokens := by
  unfold wholeCoreFamily at h
  iterate 14 obtain ⟨_, -, h⟩ := Option.bind_eq_some_iff.mp h
  obtain rfl := Option.some.inj h
  rfl

lemma assembleWholeCoreWorkspace_capacity {config : ModelConfig} {limit : ℕ}
    {workspace : WholeCoreWorkspacePlan}
    (h : assembleWholeCoreWorkspace cfg config limit = some workspace) :
    workspace.requestSequenceCapacityTokens = wholeCoreCompiledSequenceCapacity cfg := by
  unfold assembleWholeCoreWorkspace at h
  iterate 3 obtain ⟨_, -, h⟩ := Option.bind_eq_some_iff.mp h
  obtain ⟨family, hfamily, h⟩ := Option.bind_eq_some_iff.mp h
  iterate 5 obtain ⟨_, -, h⟩ := Option.bind_eq_some_iff.mp h
  obtain rfl := Option.some.inj h
  exact wholeCoreFamily_capacity hfamily

lemma selectWholeCoreWorkspace_capacity {workspace : WholeCoreWorkspacePlan}
    (h : selectWholeCoreWorkspace cfg options = .ok workspace) :
    options.maxSequenceLength = wholeCoreCompiledSequenceCapacity cfg ∧
      workspace.requestSequenceCapacityTokens = options.maxSequenceLength := by
  unfold selectWholeCoreWorkspace at h
  split at h
  · cases h
  rename_i found hfound
  split_ifs at h
  obtain rfl := Except.ok.inj h
  unfold buildUnboundWholeCoreWorkspacePlan at hfound
  split_ifs at hfound with hoptions
  have hcapacity : options.maxSequenceLength = wholeCoreCompiledSequenceCapacity cfg := by
    by_contra hne
    exact hoptions (Or.inr (Or.inl hne))
  refine ⟨hcapacity, ?_⟩
  split at hfound
  · cases hfound
  split_ifs at hfound
  split at hfound
  · cases hfound
  rename_i assembled hassembled
  split at hfound
  · cases hfound
  obtain rfl := Except.ok.inj hfound
  exact (assembleWholeCoreWorkspace_capacity hassembled).trans hcapacity.symm

lemma buildWholeCorePlan_decodeLaid (h : buildWholeCorePlan cfg options = .ok plan) :
    DecodeLaid plan.common ∧ plan.common.profile = .layerMajorP40WholeCore ∧
      plan.common.maxSequenceLength = wholeCoreCompiledSequenceCapacity cfg := by
  unfold buildWholeCorePlan at h
  obtain ⟨workspace, hworkspace, h⟩ := bind_ok.mp h
  obtain ⟨shape, hshape, h⟩ := bind_ok.mp h
  obtain ⟨hadmitted, rfl⟩ := buildRequestMemoryPlan_ok hshape
  obtain ⟨_, -, h⟩ := bind_ok.mp h
  obtain ⟨persistent, hpersistent, h⟩ := bind_ok.mp h
  obtain ⟨phases, hphases, h⟩ := bind_ok.mp h
  obtain ⟨legacy, hlegacy, h⟩ := bind_ok.mp h
  obtain ⟨_, -, h⟩ := bind_ok.mp h
  split_ifs at h
  obtain ⟨tail, htail, h⟩ := bind_ok.mp h
  dsimp only at h
  split_ifs at h
  obtain rfl := Except.ok.inj h
  obtain ⟨hcapacity, htokens⟩ := selectWholeCoreWorkspace_capacity hworkspace
  have helements : (wholeCoreLegacyShape (requestPlan 512 options.maxSequenceLength)
      workspace.requestSequenceCapacityTokens).fp32Scratch.elementCapacity =
      24 * options.maxSequenceLength := by
    have hseq := hadmitted.seq_le
    have hmax := uint64Max_eq
    simp only [absoluteRequestMaxSequenceLength] at hseq
    rw [htokens]
    simp only [wholeCoreLegacyShape, queryHeadCount]
    rw [wrap_eq (by omega), Nat.mul_comm]
  have hview : ∀ common : RequestMemoryPlan, DecodeView common options.maxSequenceLength persistent
      legacy → common.arenaBytes = tail.cursor → DecodeLaid common := by
    intro common hcommon hbytes
    refine hcommon.laid hadmitted.seq_pos hadmitted.seq_le hpersistent
      (buildWholeCorePhases_cursor hphases) hlegacy ?_ helements.symm.le
      (helements.le.trans (le_max_right _ _))
    rw [hbytes]
    exact buildWholeCoreTail_cursor htail
  exact ⟨hview _ ⟨rfl, rfl, fun _ => rfl, fun _ => rfl, fun _ => rfl, rfl⟩ rfl, rfl, hcapacity⟩

end LayerMajor

end Qwen3xOrin.Request
