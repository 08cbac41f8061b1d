import Qwen3xOrin.Fp8.Supermatrix
import Qwen3xOrin.Library.LastWrite
import Qwen3xOrin.Library.Loops

/-! The pack is a permutation of the bytes: each destination is written once, each from a source of
its own. -/

namespace Qwen3xOrin.Fp8

open Library

section Indices

def packWord (tile thread k16 nPanel : ℕ) : ℕ :=
  tile * sidecarWordsPerStage + (k16 * n8PanelsPerWarp + nPanel) * threads + thread

def packRow (kstageCount tile thread nPanel : ℕ) : ℕ :=
  tile / kstageCount * outputColumnsPerBlock + thread / warpSize * 32 + nPanel * 8 +
    thread % warpSize / 4

def packColumn (kstageCount tile thread k16 : ℕ) : ℕ :=
  tile % kstageCount * columnsPerStage + k16 * 16 + 2 * (thread % warpSize % 4)

-- Byte `j` of a word and the column it comes from.
def packByte (j : ℕ) : ℕ := j % 2 * 8 + j / 2

def packSource (columns tile thread k16 nPanel j : ℕ) : ℕ :=
  packRow (columns / columnsPerStage) tile thread nPanel * columns +
    (packColumn (columns / columnsPerStage) tile thread k16 + packByte j)

structure PackAdmitted (rows columns : ℕ) : Prop where
  aligned : outputColumnsPerBlock ∣ rows
  fits : rows < 2 ^ 32
  known : columns = 5120 ∨ columns = 6144

variable {rows columns tile thread : ℕ}

lemma packThread_eq (h : PackAdmitted rows columns)
    (htile : tile < rows / outputColumnsPerBlock * (columns / columnsPerStage))
    (hthread : thread < threads) :
    packThread columns (columns / columnsPerStage) tile thread =
      (List.range 4).flatMap fun k16 => (List.range 4).flatMap fun nPanel =>
        (List.range 4).map fun j =>
          (4 * packWord tile thread k16 nPanel + j, packSource columns tile thread k16 nPanel j) := by
  rw [packThread]
  refine List.flatMap_congr fun k16 hk16 => List.flatMap_congr fun nPanel hnPanel => ?_
  have hk : k16 < 4 := List.mem_range.mp hk16
  have hn : nPanel < 4 := List.mem_range.mp hnPanel
  have hrows := h.aligned
  have hfit := h.fits
  have hrow : u32 (tile / (columns / columnsPerStage) * outputColumnsPerBlock +
      thread / warpSize * 32 + nPanel * 8 + thread % warpSize / 4) =
      packRow (columns / columnsPerStage) tile thread nPanel := by
    refine Nat.mod_eq_of_lt ?_
    have htileRow : tile / (columns / columnsPerStage) < rows / outputColumnsPerBlock :=
      Nat.div_lt_of_lt_mul (by rwa [Nat.mul_comm] at htile)
    unfold outputColumnsPerBlock warpSize threads at *
    omega
  have hcolumn : u32 (tile % (columns / columnsPerStage) * columnsPerStage + k16 * 16 +
      2 * (thread % warpSize % 4)) = packColumn (columns / columnsPerStage) tile thread k16 := by
    refine Nat.mod_eq_of_lt ?_
    unfold columnsPerStage warpSize
    obtain rfl | rfl := h.known <;> omega
  dsimp only
  rw [hrow, hcolumn]
  simp [packWord, packSource, packByte, List.range_succ, Nat.add_assoc]

end Indices

section Bytes

variable {rows columns : ℕ} {order : List ℕ}

structure PackIndex where
  tile : ℕ
  thread : ℕ
  k16 : ℕ
  nPanel : ℕ
  j : ℕ

def PackIndex.write (columns : ℕ) (i : PackIndex) : ℕ × ℕ :=
  (4 * packWord i.tile i.thread i.k16 i.nPanel + i.j,
    packSource columns i.tile i.thread i.k16 i.nPanel i.j)

structure PackIndex.Valid (tiles : ℕ) (i : PackIndex) : Prop where
  tile : i.tile < tiles
  thread : i.thread < threads
  k16 : i.k16 < 4
  nPanel : i.nPanel < 4
  j : i.j < 4

def packList (order : List ℕ) (f : PackIndex → ℕ) : List ℕ :=
  order.flatMap fun tile => (List.range threads).flatMap fun thread =>
    (List.range 4).flatMap fun k16 => (List.range 4).flatMap fun nPanel =>
      (List.range 4).map fun j => f ⟨tile, thread, k16, nPanel, j⟩

lemma packKernel_map (h : PackAdmitted rows columns)
    (horder : order.Perm (List.range (rows / outputColumnsPerBlock * (columns / columnsPerStage))))
    (g : ℕ × ℕ → ℕ) :
    (packKernel columns order).map g = packList order fun i => g (i.write columns) := by
  rw [packKernel, packList, List.map_flatMap]
  refine List.flatMap_congr fun tile htile => ?_
  rw [List.map_flatMap]
  refine List.flatMap_congr fun thread hthread => ?_
  rw [packThread_eq h (List.mem_range.mp (horder.mem_iff.mp htile)) (List.mem_range.mp hthread)]
  simp only [List.map_flatMap, List.map_map]
  rfl

lemma mem_packList {f : PackIndex → ℕ} {tiles x : ℕ} (horder : order.Perm (List.range tiles)) :
    x ∈ packList order f ↔ ∃ i : PackIndex, i.Valid tiles ∧ f i = x := by
  simp only [packList, List.mem_flatMap, List.mem_map, List.mem_range, horder.mem_iff]
  constructor
  · rintro ⟨tile, htile, thread, hthread, k16, hk16, nPanel, hnPanel, j, hj, rfl⟩
    exact ⟨⟨tile, thread, k16, nPanel, j⟩, ⟨htile, hthread, hk16, hnPanel, hj⟩, rfl⟩
  · rintro ⟨⟨tile, thread, k16, nPanel, j⟩, hi, rfl⟩
    exact ⟨tile, hi.tile, thread, hi.thread, k16, hi.k16, nPanel, hi.nPanel, j, hi.j, rfl⟩

lemma write_mem_packKernel (h : PackAdmitted rows columns)
    (horder : order.Perm (List.range (rows / outputColumnsPerBlock * (columns / columnsPerStage))))
    {i : PackIndex} (hi : i.Valid (rows / outputColumnsPerBlock * (columns / columnsPerStage))) :
    i.write columns ∈ packKernel columns order := by
  refine List.mem_flatMap.mpr ⟨i.tile, horder.mem_iff.mpr (List.mem_range.mpr hi.tile),
    List.mem_flatMap.mpr ⟨i.thread, List.mem_range.mpr hi.thread, ?_⟩⟩
  rw [packThread_eq h hi.tile hi.thread]
  simp only [List.mem_flatMap, List.mem_map, List.mem_range]
  exact ⟨i.k16, hi.k16, i.nPanel, hi.nPanel, i.j, hi.j, rfl⟩

-- A byte from which the loop variables can be read back is visited once.
lemma packList_nodup {f : PackIndex → ℕ} {decode : ℕ → PackIndex} {tiles : ℕ}
    (horder : order.Perm (List.range tiles))
    (h : ∀ i : PackIndex, i.Valid tiles → decode (f i) = i) : (packList order f).Nodup := by
  have hdecode (tile : ℕ) (htile : tile ∈ order) (thread : ℕ) (hthread : thread ∈ List.range threads)
      (k16 : ℕ) (hk16 : k16 ∈ List.range 4) (nPanel : ℕ) (hnPanel : nPanel ∈ List.range 4) (j : ℕ)
      (hj : j ∈ List.range 4) :
      decode (f ⟨tile, thread, k16, nPanel, j⟩) = ⟨tile, thread, k16, nPanel, j⟩ :=
    h _ ⟨List.mem_range.mp (horder.mem_iff.mp htile), List.mem_range.mp hthread,
      List.mem_range.mp hk16, List.mem_range.mp hnPanel, List.mem_range.mp hj⟩
  refine @nodup_flatMap_of_key _ _ _ _ (fun x => (decode x).tile)
    (horder.nodup_iff.mpr List.nodup_range) (fun tile htile =>
      @nodup_flatMap_of_key _ _ _ _ (fun x => (decode x).thread) List.nodup_range
        (fun thread hthread => @nodup_flatMap_of_key _ _ _ _ (fun x => (decode x).k16)
          List.nodup_range (fun k16 hk16 => @nodup_flatMap_of_key _ _ _ _
            (fun x => (decode x).nPanel) List.nodup_range (fun nPanel hnPanel => ?_)
              fun nPanel hnPanel x hx => ?_) fun k16 hk16 x hx => ?_)
        fun thread hthread x hx => ?_) fun tile htile x hx => ?_
  · refine List.nodup_range.map_on fun j hj j' hj' heq => ?_
    have hsame := congrArg decode heq
    rw [hdecode tile htile thread hthread k16 hk16 nPanel hnPanel j hj,
      hdecode tile htile thread hthread k16 hk16 nPanel hnPanel j' hj'] at hsame
    exact congrArg PackIndex.j hsame
  · obtain ⟨j, hj, rfl⟩ := List.mem_map.mp hx
    rw [hdecode tile htile thread hthread k16 hk16 nPanel hnPanel j hj]
  · obtain ⟨nPanel, hnPanel, hx⟩ := List.mem_flatMap.mp hx
    obtain ⟨j, hj, rfl⟩ := List.mem_map.mp hx
    rw [hdecode tile htile thread hthread k16 hk16 nPanel hnPanel j hj]
  · obtain ⟨k16, hk16, hx⟩ := List.mem_flatMap.mp hx
    obtain ⟨nPanel, hnPanel, hx⟩ := List.mem_flatMap.mp hx
    obtain ⟨j, hj, rfl⟩ := List.mem_map.mp hx
    rw [hdecode tile htile thread hthread k16 hk16 nPanel hnPanel j hj]
  · obtain ⟨thread, hthread, hx⟩ := List.mem_flatMap.mp hx
    obtain ⟨k16, hk16, hx⟩ := List.mem_flatMap.mp hx
    obtain ⟨nPanel, hnPanel, hx⟩ := List.mem_flatMap.mp hx
    obtain ⟨j, hj, rfl⟩ := List.mem_map.mp hx
    rw [hdecode tile htile thread hthread k16 hk16 nPanel hnPanel j hj]

def destinationIndex (d : ℕ) : PackIndex :=
  ⟨d / 4 / 4096, d / 4 % 256, d / 4 % 4096 / 1024, d / 4 % 1024 / 256, d % 4⟩

def sourceIndex (columns s : ℕ) : PackIndex :=
  let row := s / columns
  let column := s % columns
  ⟨row / 256 * (columns / 64) + column / 64,
    row % 256 / 32 * 32 + (row % 8 * 4 + column % 8 / 2), column % 64 / 16, row % 32 / 8,
    column % 2 * 2 + column % 16 / 8⟩

lemma destinationIndex_write {tiles : ℕ} {i : PackIndex} (hi : i.Valid tiles) :
    destinationIndex (i.write columns).1 = i := by
  obtain ⟨tile, thread, k16, nPanel, j⟩ := i
  obtain ⟨htile, hthread, hk16, hnPanel, hj⟩ := hi
  simp only [PackIndex.write, packWord, destinationIndex, PackIndex.mk.injEq,
    sidecarWordsPerStage, k16Groups, n8PanelsPerWarp, threads] at *
  omega

lemma write_destinationIndex {tiles d : ℕ} (hd : d < tiles * 16384) :
    (destinationIndex d).Valid tiles ∧ ((destinationIndex d).write columns).1 = d := by
  refine ⟨⟨?_, ?_, ?_, ?_, ?_⟩, ?_⟩
  all_goals
    simp only [PackIndex.write, packWord, destinationIndex, sidecarWordsPerStage, k16Groups,
      n8PanelsPerWarp, threads]
    omega

lemma packColumn_lt (hcolumns : columns = 5120 ∨ columns = 6144) (tile thread : ℕ) {k16 j : ℕ}
    (hk16 : k16 < 4) (hj : j < 4) :
    packColumn (columns / columnsPerStage) tile thread k16 + packByte j < columns := by
  unfold packColumn packByte columnsPerStage warpSize
  obtain rfl | rfl := hcolumns <;> omega

lemma write_source (hcolumns : columns = 5120 ∨ columns = 6144) {tiles : ℕ} {i : PackIndex}
    (hi : i.Valid tiles) :
    (i.write columns).2 / columns =
        packRow (columns / columnsPerStage) i.tile i.thread i.nPanel ∧
      (i.write columns).2 % columns =
        packColumn (columns / columnsPerStage) i.tile i.thread i.k16 + packByte i.j := by
  have hlt := packColumn_lt hcolumns i.tile i.thread hi.k16 hi.j
  dsimp only [PackIndex.write, packSource]
  rw [Nat.mul_comm (packRow _ _ _ _) columns, Nat.mul_add_div (by omega), Nat.div_eq_of_lt hlt,
    Nat.add_zero, Nat.mul_add_mod, Nat.mod_eq_of_lt hlt]
  exact ⟨rfl, rfl⟩

lemma row_parts (nblock : ℕ) {warp nPanel laneGroup : ℕ} (hwarp : warp < 8) (hnPanel : nPanel < 4)
    (hgroup : laneGroup < 8) :
    (nblock * 256 + warp * 32 + nPanel * 8 + laneGroup) / 256 = nblock ∧
      (nblock * 256 + warp * 32 + nPanel * 8 + laneGroup) % 256 / 32 = warp ∧
      (nblock * 256 + warp * 32 + nPanel * 8 + laneGroup) % 32 / 8 = nPanel ∧
      (nblock * 256 + warp * 32 + nPanel * 8 + laneGroup) % 8 = laneGroup := by
  have hpanel : (nblock * 256 + warp * 32 + nPanel * 8 + laneGroup) % 32 =
      nPanel * 8 + laneGroup := by
    omega
  rw [hpanel]
  refine ⟨?_, ?_, ?_, ?_⟩ <;> omega

lemma column_parts (kstage : ℕ) {k16 laneInGroup low high : ℕ} (hk16 : k16 < 4)
    (hlane : laneInGroup < 4) (hlow : low < 2) (hhigh : high < 2) :
    (kstage * 64 + k16 * 16 + 2 * laneInGroup + (low * 8 + high)) / 64 = kstage ∧
      (kstage * 64 + k16 * 16 + 2 * laneInGroup + (low * 8 + high)) % 64 / 16 = k16 ∧
      (kstage * 64 + k16 * 16 + 2 * laneInGroup + (low * 8 + high)) % 8 / 2 = laneInGroup ∧
      (kstage * 64 + k16 * 16 + 2 * laneInGroup + (low * 8 + high)) % 16 / 8 = low ∧
      (kstage * 64 + k16 * 16 + 2 * laneInGroup + (low * 8 + high)) % 2 = high := by
  have h8 : (kstage * 64 + k16 * 16 + 2 * laneInGroup + (low * 8 + high)) % 8 =
      2 * laneInGroup + high := by
    omega
  have h16 : (kstage * 64 + k16 * 16 + 2 * laneInGroup + (low * 8 + high)) % 16 =
      low * 8 + (2 * laneInGroup + high) := by
    omega
  have h64 : (kstage * 64 + k16 * 16 + 2 * laneInGroup + (low * 8 + high)) % 64 =
      k16 * 16 + (low * 8 + (2 * laneInGroup + high)) := by
    omega
  rw [h8, h16, h64]
  refine ⟨?_, ?_, ?_, ?_, ?_⟩ <;> omega

lemma thread_parts {warp laneGroup laneInGroup : ℕ} (hgroup : laneGroup < 8)
    (hlane : laneInGroup < 4) :
    (warp * 32 + (laneGroup * 4 + laneInGroup)) / 32 = warp ∧
      (warp * 32 + (laneGroup * 4 + laneInGroup)) % 32 / 4 = laneGroup ∧
      (warp * 32 + (laneGroup * 4 + laneInGroup)) % 32 % 4 = laneInGroup := by
  have h32 : (warp * 32 + (laneGroup * 4 + laneInGroup)) % 32 = laneGroup * 4 + laneInGroup := by
    omega
  rw [h32]
  refine ⟨?_, ?_, ?_⟩ <;> omega

lemma sourceIndex_write (hcolumns : columns = 5120 ∨ columns = 6144) {tiles : ℕ} {i : PackIndex}
    (hi : i.Valid tiles) : sourceIndex columns (i.write columns).2 = i := by
  obtain ⟨hrow, hcolumn⟩ := write_source hcolumns hi
  rw [sourceIndex, hrow, hcolumn]
  obtain ⟨tile, thread, k16, nPanel, j⟩ := i
  obtain ⟨htile, hthread, hk16, hnPanel, hj⟩ := hi
  simp only [packRow, packColumn, packByte, PackIndex.mk.injEq, columnsPerStage,
    outputColumnsPerBlock, warpSize, threads] at *
  have hthreadSplit : thread / 32 * 32 + (thread % 32 / 4 * 4 + thread % 32 % 4) = thread := by
    omega
  obtain ⟨hnblock, hwarp, hpanel, hgroup⟩ :=
    @row_parts (tile / (columns / 64)) (thread / 32) nPanel (thread % 32 / 4) (by omega) hnPanel
      (by omega)
  obtain ⟨hkstage, hk, hlane, hlow, hhigh⟩ :=
    @column_parts (tile % (columns / 64)) k16 (thread % 32 % 4) (j % 2) (j / 2) hk16 (by omega)
      (by omega) (by omega)
  rw [hnblock, hwarp, hpanel, hgroup, hkstage, hk, hlane, hlow, hhigh]
  exact ⟨Nat.div_add_mod' tile (columns / 64), hthreadSplit, rfl, rfl, Nat.div_add_mod' j 2⟩

lemma write_sourceIndex (hcolumns : columns = 5120 ∨ columns = 6144) {nblocks s : ℕ}
    (hs : s < nblocks * 256 * columns) :
    (sourceIndex columns s).Valid (nblocks * (columns / 64)) ∧
      ((sourceIndex columns s).write columns).2 = s := by
  have hrow : s / columns < nblocks * 256 := Nat.div_lt_of_lt_mul (by rwa [Nat.mul_comm])
  have hcolumn : s % columns < columns := Nat.mod_lt _ (by omega)
  have hstages : s % columns / 64 < columns / 64 := by
    obtain rfl | rfl := hcolumns <;> omega
  refine ⟨⟨?_, ?_, ?_, ?_, ?_⟩, ?_⟩
  · have hblock : s / columns / 256 + 1 ≤ nblocks := by omega
    have hle := Nat.mul_le_mul_right (columns / 64) hblock
    rw [Nat.succ_mul] at hle
    dsimp only [sourceIndex]
    omega
  · dsimp only [sourceIndex, threads]
    omega
  · dsimp only [sourceIndex]
    omega
  · dsimp only [sourceIndex]
    omega
  · dsimp only [sourceIndex]
    omega
  · refine Eq.trans ?_ (Nat.div_add_mod' s columns)
    dsimp only [PackIndex.write, packSource, packRow, packColumn, packByte, sourceIndex,
      columnsPerStage, outputColumnsPerBlock, warpSize]
    obtain ⟨hwarp, hgroup, hlane⟩ := @thread_parts (s / columns % 256 / 32) (s / columns % 8)
      (s % columns % 8 / 2) (by omega) (by omega)
    have htile : (s / columns / 256 * (columns / 64) + s % columns / 64) / (columns / 64) =
        s / columns / 256 := by
      rw [Nat.mul_comm, Nat.mul_add_div (by omega), Nat.div_eq_of_lt hstages, Nat.add_zero]
    have hkstage : (s / columns / 256 * (columns / 64) + s % columns / 64) % (columns / 64) =
        s % columns / 64 := by
      rw [Nat.mul_comm, Nat.mul_add_mod, Nat.mod_eq_of_lt hstages]
    have hlow : (s % columns % 2 * 2 + s % columns % 16 / 8) % 2 = s % columns % 16 / 8 := by omega
    have hhigh : (s % columns % 2 * 2 + s % columns % 16 / 8) / 2 = s % columns % 2 := by omega
    rw [hwarp, hgroup, hlane, htile, hkstage, hlow, hhigh]
    congr 1
    · congr 1
      omega
    · omega

-- Every byte of the sidecar is written once, each from a byte of its own.
lemma packKernel_perm (h : PackAdmitted rows columns)
    (horder : order.Perm
      (List.range (rows / outputColumnsPerBlock * (columns / columnsPerStage)))) :
    ((packKernel columns order).map Prod.fst).Perm (List.range (rows * columns)) ∧
      ((packKernel columns order).map Prod.snd).Perm (List.range (rows * columns)) := by
  obtain ⟨nblocks, rfl⟩ := h.aligned
  have hblocks : outputColumnsPerBlock * nblocks / outputColumnsPerBlock = nblocks :=
    Nat.mul_div_cancel_left nblocks (by decide)
  have hbytes : outputColumnsPerBlock * nblocks * columns =
      nblocks * (columns / columnsPerStage) * 16384 := by
    unfold outputColumnsPerBlock columnsPerStage
    obtain rfl | rfl := h.known <;> omega
  refine ⟨perm_range ?_ fun d => ?_, perm_range ?_ fun s => ?_⟩
  · rw [packKernel_map h horder]
    exact packList_nodup horder fun i hi => destinationIndex_write hi
  · rw [packKernel_map h horder, mem_packList horder, hbytes, hblocks]
    constructor
    · rintro ⟨⟨tile, thread, k16, nPanel, j⟩, ⟨htile, hthread, hk16, hnPanel, hj⟩, rfl⟩
      simp only [PackIndex.write, packWord, sidecarWordsPerStage, k16Groups, n8PanelsPerWarp,
        threads] at *
      omega
    · exact fun hd => ⟨destinationIndex d, write_destinationIndex hd⟩
  · rw [packKernel_map h horder]
    exact packList_nodup horder fun i hi => sourceIndex_write h.known hi
  · rw [packKernel_map h horder, mem_packList horder, hblocks]
    constructor
    · rintro ⟨⟨tile, thread, k16, nPanel, j⟩, ⟨htile, hthread, hk16, hnPanel, hj⟩, rfl⟩
      dsimp only at htile hthread hk16 hnPanel hj
      have hlt := packColumn_lt h.known tile thread hk16 hj
      have hrow : packRow (columns / columnsPerStage) tile thread nPanel <
          outputColumnsPerBlock * nblocks := by
        have htileRow : tile / (columns / columnsPerStage) < nblocks :=
          Nat.div_lt_of_lt_mul (by rwa [Nat.mul_comm])
        unfold packRow outputColumnsPerBlock warpSize threads at *
        omega
      have hle := Nat.mul_le_mul_right columns (Nat.succ_le_of_lt hrow)
      rw [Nat.succ_mul] at hle
      dsimp only [PackIndex.write, packSource]
      omega
    · intro hs
      rw [Nat.mul_comm outputColumnsPerBlock] at hs
      exact ⟨sourceIndex columns s, write_sourceIndex h.known hs⟩

end Bytes

end Qwen3xOrin.Fp8
