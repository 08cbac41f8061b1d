import Qwen3xOrin.Fp8.Tiles

/-! What the product writes: every output once, the fold of the matrix products over the slices of
its own token and row. -/

namespace Qwen3xOrin.Fp8.Gemm

open Library
open Gdn (mem_gridStride gridStride_nodup)

variable {F : Type} {g : Gemm F} {task : Task F} {canonical : ℕ → UInt8} {thread : ℕ}

section Outputs

def Write.place (w : Write) : ℕ × ℕ := (w.index, w.position)

-- The output of a token of the tile and a column of the block.
def taskOutput (g : Gemm F) (task : Task F) (canonical : ℕ → UInt8) (token column : ℕ) : UInt16 :=
  g.encodeBf16Rne (g.mul (g.accumulated task canonical (column / 32) (token / 16) (column % 32 / 8)
    (g.kstageCount * 4) (token % 16) (column % 8)) task.part.weightScale)

def taskWrite (g : Gemm F) (task : Task F) (canonical : ℕ → UInt8) (token column : ℕ) : Write :=
  ⟨task.index, (task.tokenTile * 64 + token) * task.part.rows + (task.localNblock * 256 + column),
    g.taskOutput task canonical token column⟩

def threadOf (token column : ℕ) : ℕ := column / 32 * 32 + (token % 8 * 4 + column % 8 / 2)

def tokenOf (thread mPanel i : ℕ) : ℕ := mPanel * 16 + (thread % 32 / 4 + 8 * (i / 2))

def columnOf (thread nPanel i : ℕ) : ℕ :=
  thread / 32 * 32 + (nPanel * 8 + (thread % 32 % 4 * 2 + i % 2))

lemma tokenOf_parts {mPanel i : ℕ} (hi : i < 4) :
    tokenOf thread mPanel i / 16 = mPanel ∧ tokenOf thread mPanel i % 8 = thread % 32 / 4 ∧
      tokenOf thread mPanel i % 16 = thread % 32 / 4 + 8 * (i / 2) := by
  unfold tokenOf
  omega

lemma columnOf_parts {nPanel i : ℕ} (hnPanel : nPanel < 4) :
    columnOf thread nPanel i / 32 = thread / 32 ∧ columnOf thread nPanel i % 32 / 8 = nPanel ∧
      columnOf thread nPanel i % 8 = thread % 32 % 4 * 2 + i % 2 := by
  have hmod : columnOf thread nPanel i % 32 = nPanel * 8 + (thread % 32 % 4 * 2 + i % 2) := by
    unfold columnOf
    omega
  rw [hmod]
  unfold columnOf
  omega

-- The tokens and the columns that a thread owns.
def threadOutputs (thread : ℕ) : List (ℕ × ℕ) :=
  (List.range 4).flatMap fun mPanel => (List.range 4).flatMap fun nPanel =>
    (List.range 4).map fun i => (tokenOf thread mPanel i, columnOf thread nPanel i)

lemma mem_threadOutputs (hthread : thread < 256) {p : ℕ × ℕ} :
    p ∈ threadOutputs thread ↔ p.1 < 64 ∧ p.2 < 256 ∧ threadOf p.1 p.2 = thread := by
  simp only [threadOutputs, List.mem_flatMap, List.mem_map, List.mem_range]
  constructor
  · rintro ⟨mPanel, hmPanel, nPanel, hnPanel, i, hi, rfl⟩
    obtain ⟨-, htoken, -⟩ := @tokenOf_parts thread mPanel i hi
    obtain ⟨hwarp, -, hcolumn⟩ := @columnOf_parts thread nPanel i hnPanel
    refine ⟨?_, ?_, ?_⟩
    · unfold tokenOf
      omega
    · unfold columnOf
      omega
    · rw [threadOf, hwarp, htoken, hcolumn]
      omega
  · obtain ⟨token, column⟩ := p
    rintro ⟨htoken, hcolumn, rfl⟩
    dsimp only at htoken hcolumn ⊢
    refine ⟨token / 16, by omega, column % 32 / 8, by omega, token % 16 / 8 * 2 + column % 2,
      by omega, Prod.ext ?_ ?_⟩
    · have hlane : threadOf token column % 32 = token % 8 * 4 + column % 8 / 2 := by
        unfold threadOf
        omega
      dsimp only
      rw [tokenOf, hlane]
      omega
    · have hlane : threadOf token column % 32 = token % 8 * 4 + column % 8 / 2 := by
        unfold threadOf
        omega
      have hwarp : threadOf token column / 32 = column / 32 := by
        unfold threadOf
        omega
      dsimp only
      rw [columnOf, hlane, hwarp]
      omega

lemma threadOutputs_nodup (thread : ℕ) : (threadOutputs thread).Nodup := by
  refine @nodup_flatMap_of_key _ _ _ _ (fun p => p.1 / 16) List.nodup_range
    (fun mPanel _ => @nodup_flatMap_of_key _ _ _ _ (fun p => p.2 % 32 / 8) List.nodup_range
      (fun nPanel hnPanel => ?_) fun nPanel hnPanel p hp => ?_) fun mPanel _ p hp => ?_
  · refine List.nodup_range.map_on fun i hi j hj hij => ?_
    rw [List.mem_range] at hi hj
    obtain ⟨htoken, hcolumn⟩ := Prod.mk.inj hij
    unfold tokenOf at htoken
    unfold columnOf at hcolumn
    omega
  · obtain ⟨i, -, rfl⟩ := List.mem_map.mp hp
    exact (columnOf_parts (List.mem_range.mp hnPanel)).2.1
  · obtain ⟨nPanel, -, hp⟩ := List.mem_flatMap.mp hp
    obtain ⟨i, hi, rfl⟩ := List.mem_map.mp hp
    exact (tokenOf_parts (List.mem_range.mp hi)).1

lemma outputs_eq {c : ℕ → Accumulators F}
    (hc : ∀ warp < 8, g.Accumulated task canonical warp (g.kstageCount * 4) (c warp))
    (hthread : thread < 256) :
    g.outputs task c thread =
      (threadOutputs thread).map fun p => g.taskWrite task canonical p.1 p.2 := by
  have hwarp : thread / 32 < 8 := by omega
  have hlane : thread % 32 < 32 := Nat.mod_lt _ (by decide)
  rw [outputs, threadOutputs]
  simp only [List.map_flatMap, List.map_map]
  refine List.flatMap_congr fun mPanel hmPanel => List.flatMap_congr fun nPanel hnPanel => ?_
  have hm : mPanel < 4 := List.mem_range.mp hmPanel
  have hn : nPanel < 4 := List.mem_range.mp hnPanel
  have hvalue (i : ℕ) (hi : i < 4) :
      g.encodeBf16Rne (g.mul (c (thread / 32) mPanel nPanel (thread % 32) i) task.part.weightScale) =
        g.taskOutput task canonical (tokenOf thread mPanel i) (columnOf thread nPanel i) := by
    obtain ⟨htoken, -, hrow⟩ := @tokenOf_parts thread mPanel i hi
    obtain ⟨hcolumn, hpanel, hn8⟩ := @columnOf_parts thread nPanel i hn
    rw [taskOutput, htoken, hrow, hcolumn, hpanel, hn8,
      hc _ hwarp mPanel hm nPanel hn _ hlane i hi]
  have hwrite (i : ℕ) (hi : i < 4) : (⟨task.index,
      task.tokenTile * residentTokenCount * task.part.rows +
        (mPanel * 16 + thread % 32 / 4 + 8 * (i / 2)) * task.part.rows +
        task.localNblock * outputColumnsPerBlock +
        (thread / 32 * 32 + nPanel * 8 + 2 * (thread % 32 % 4)) + i % 2,
      g.encodeBf16Rne (g.mul (c (thread / 32) mPanel nPanel (thread % 32) i)
        task.part.weightScale)⟩ : Write) =
      g.taskWrite task canonical (tokenOf thread mPanel i) (columnOf thread nPanel i) := by
    have htoken : task.tokenTile * residentTokenCount + (mPanel * 16 + thread % 32 / 4 +
        8 * (i / 2)) = task.tokenTile * 64 + tokenOf thread mPanel i := by
      rw [tokenOf, Nat.add_assoc (mPanel * 16)]
      rfl
    have hcolumn : task.localNblock * outputColumnsPerBlock +
        (thread / 32 * 32 + nPanel * 8 + 2 * (thread % 32 % 4)) + i % 2 =
        task.localNblock * 256 + columnOf thread nPanel i := by
      unfold columnOf outputColumnsPerBlock
      omega
    rw [hvalue i hi, taskWrite, ← Nat.add_mul, htoken, Nat.add_assoc _ (task.localNblock * _),
      Nat.add_assoc _ (task.localNblock * _ + _), hcolumn]
  have h0 := hwrite 0 (by decide)
  have h1 := hwrite 1 (by decide)
  have h2 := hwrite 2 (by decide)
  have h3 := hwrite 3 (by decide)
  rw [show List.range 4 = [0, 1, 2, 3] from rfl, List.map_cons, List.map_cons, List.map_cons,
    List.map_cons, List.map_nil]
  dsimp only [Function.comp]
  rw [← h0, ← h1, ← h2, ← h3]
  rfl

def TaskWrites (g : Gemm F) (task : Task F) (canonical : ℕ → UInt8) (writes : List Write) : Prop :=
  (writes.map Write.place).Nodup ∧
    ∀ w, w ∈ writes ↔ ∃ token < 64, ∃ column < 256, w = g.taskWrite task canonical token column

lemma taskWrite_place {rows token column : ℕ} (hrows : task.part.rows = rows)
    (hblock : task.localNblock < rows / 256) (hcolumn : column < 256) :
    (g.taskWrite task canonical token column).position / rows = task.tokenTile * 64 + token ∧
      (g.taskWrite task canonical token column).position % rows =
        task.localNblock * 256 + column := by
  have hlt : task.localNblock * 256 + column < rows := by omega
  rw [taskWrite, hrows, Nat.mul_comm _ rows, Nat.mul_add_div (by omega), Nat.mul_add_mod,
    Nat.div_eq_of_lt hlt, Nat.mod_eq_of_lt hlt, Nat.add_zero]
  exact ⟨rfl, rfl⟩

lemma task_writes (h : g.Threads) (hblock : task.localNblock < task.part.nblocks)
    {c : ℕ → Accumulators F}
    (hc : ∀ warp < 8, g.Accumulated task canonical warp (g.kstageCount * 4) (c warp)) :
    g.TaskWrites task canonical (g.order.flatMap (g.outputs task c)) := by
  have hwrites : g.order.flatMap (g.outputs task c) =
      (g.order.flatMap threadOutputs).map fun p => g.taskWrite task canonical p.1 p.2 := by
    rw [List.map_flatMap]
    exact List.flatMap_congr fun thread hthread => outputs_eq hc (h.mem_order.mp hthread)
  have hpair (p : ℕ × ℕ) : p ∈ g.order.flatMap threadOutputs ↔ p.1 < 64 ∧ p.2 < 256 := by
    rw [List.mem_flatMap]
    constructor
    · rintro ⟨thread, hthread, hp⟩
      obtain ⟨htoken, hcolumn, -⟩ := (mem_threadOutputs (h.mem_order.mp hthread)).mp hp
      exact ⟨htoken, hcolumn⟩
    · rintro ⟨htoken, hcolumn⟩
      have hthread : threadOf p.1 p.2 < 256 := by
        unfold threadOf
        omega
      exact ⟨_, h.mem_order.mpr hthread,
        (mem_threadOutputs hthread).mpr ⟨htoken, hcolumn, rfl⟩⟩
  have hpairs : (g.order.flatMap threadOutputs).Nodup :=
    @nodup_flatMap_of_key _ _ _ _ (fun p => threadOf p.1 p.2) h.order_nodup
      (fun thread _ => threadOutputs_nodup thread) fun thread hthread p hp =>
        ((mem_threadOutputs (h.mem_order.mp hthread)).mp hp).2.2
  rw [hwrites]
  refine ⟨?_, fun w => ?_⟩
  · rw [List.map_map]
    refine hpairs.map_on fun p hp q hq heq => ?_
    obtain ⟨hpt, hpc⟩ := (hpair p).mp hp
    obtain ⟨hqt, hqc⟩ := (hpair q).mp hq
    have hposition : (g.taskWrite task canonical p.1 p.2).position =
        (g.taskWrite task canonical q.1 q.2).position := congrArg Prod.snd heq
    obtain ⟨hdiv, hmod⟩ := @taskWrite_place F g task canonical _ p.1 p.2 rfl hblock hpc
    obtain ⟨hdiv', hmod'⟩ := @taskWrite_place F g task canonical _ q.1 q.2 rfl hblock hqc
    rw [hposition] at hdiv hmod
    exact Prod.ext (by omega) (by omega)
  · rw [List.mem_map]
    constructor
    · rintro ⟨p, hp, rfl⟩
      obtain ⟨htoken, hcolumn⟩ := (hpair p).mp hp
      exact ⟨p.1, htoken, p.2, hcolumn, rfl⟩
    · rintro ⟨token, htoken, column, hcolumn, rfl⟩
      exact ⟨(token, column), (hpair _).mpr ⟨htoken, hcolumn⟩, rfl⟩

end Outputs

section Tasks

-- The blocks of columns before a partition.
def firstNblock (g : Gemm F) (index : ℕ) : ℕ :=
  ((g.partitions.take index).map Partition.nblocks).sum

structure Served (g : Gemm F) (canonicals : ℕ → ℕ → UInt8) : Prop where
  columns : g.columns = 5120 ∨ g.columns = 6144
  nonempty : 0 < g.partitions.length
  few : g.partitions.length ≤ 3
  aligned : ∀ index < g.partitions.length, 256 ∣ (g.partition index).rows
  carries : ∀ index < g.partitions.length,
    Carries (g.partition index) g.columns (canonicals index)

variable {canonicals : ℕ → ℕ → UInt8} {index localNblock : ℕ}

lemma Served.partitions_eq (h : g.Served canonicals) : (∃ a, g.partitions = [a]) ∨
    (∃ a b, g.partitions = [a, b]) ∨ ∃ a b c, g.partitions = [a, b, c] := by
  have hnonempty := h.nonempty
  have hfew := h.few
  match hpartitions : g.partitions with
  | [] => simp [hpartitions] at hnonempty
  | [a] => exact .inl ⟨a, rfl⟩
  | [a, b] => exact .inr (.inl ⟨a, b, rfl⟩)
  | [a, b, c] => exact .inr (.inr ⟨a, b, c, rfl⟩)
  | a :: b :: c :: d :: l =>
    rw [hpartitions] at hfew
    simp only [List.length_cons] at hfew
    omega

lemma selectTask_block (h : g.Served canonicals) (hindex : index < g.partitions.length)
    (hblock : localNblock < (g.partition index).nblocks) (tokenTile : ℕ) :
    g.firstNblock index + localNblock < g.totalNblocks ∧
      g.selectTask tokenTile (g.firstNblock index + localNblock) =
        ⟨index, g.partition index, localNblock, tokenTile⟩ := by
  obtain ⟨a, hp⟩ | ⟨a, b, hp⟩ | ⟨a, b, c, hp⟩ := h.partitions_eq
  · obtain rfl : index = 0 := by
      rw [hp] at hindex
      exact Nat.lt_one_iff.mp hindex
    simp [partition, firstNblock, totalNblocks, selectTask, hp] at hblock ⊢
    exact hblock
  · obtain rfl | rfl : index = 0 ∨ index = 1 := by
      rw [hp] at hindex
      simp at hindex
      omega
    · simp [partition, firstNblock, totalNblocks, selectTask, hp] at hblock ⊢
      omega
    · simp [partition, firstNblock, totalNblocks, selectTask, hp] at hblock ⊢
      omega
  · obtain rfl | rfl | rfl : index = 0 ∨ index = 1 ∨ index = 2 := by
      rw [hp] at hindex
      simp at hindex
      omega
    · simp [partition, firstNblock, totalNblocks, selectTask, hp] at hblock ⊢
      omega
    · simp [partition, firstNblock, totalNblocks, selectTask, hp] at hblock ⊢
      omega
    · simp [partition, firstNblock, totalNblocks, selectTask, hp] at hblock ⊢
      refine ⟨by omega, ?_⟩
      rw [if_pos (by omega), if_pos (by omega),
        show a.nblocks + b.nblocks + localNblock - a.nblocks - b.nblocks = localNblock by omega]

lemma block_of_global (h : g.Served canonicals) {globalNblock : ℕ}
    (hglobal : globalNblock < g.totalNblocks) : ∃ index < g.partitions.length,
      ∃ localNblock < (g.partition index).nblocks,
        globalNblock = g.firstNblock index + localNblock := by
  obtain ⟨a, hp⟩ | ⟨a, b, hp⟩ | ⟨a, b, c, hp⟩ := h.partitions_eq
  · simp [totalNblocks, hp] at hglobal
    exact ⟨0, by simp [hp], globalNblock, by simpa [partition, hp] using hglobal,
      by simp [firstNblock]⟩
  · simp [totalNblocks, hp] at hglobal
    by_cases ha : globalNblock < a.nblocks
    · exact ⟨0, by simp [hp], globalNblock, by simpa [partition, hp] using ha, by simp [firstNblock]⟩
    · refine ⟨1, by simp [hp], globalNblock - a.nblocks, ?_, ?_⟩
      · simp [partition, hp]
        omega
      · simp [firstNblock, hp]
        omega
  · simp [totalNblocks, hp] at hglobal
    by_cases ha : globalNblock < a.nblocks
    · exact ⟨0, by simp [hp], globalNblock, by simpa [partition, hp] using ha, by simp [firstNblock]⟩
    · by_cases hb : globalNblock - a.nblocks < b.nblocks
      · refine ⟨1, by simp [hp], globalNblock - a.nblocks, by simpa [partition, hp] using hb, ?_⟩
        simp [firstNblock, hp]
        omega
      · refine ⟨2, by simp [hp], globalNblock - a.nblocks - b.nblocks, ?_, ?_⟩
        · simp [partition, hp]
          omega
        · simp [firstNblock, hp]
          omega

end Tasks

section Run

variable {canonicals : ℕ → ℕ → UInt8}

def BlockWrites (g : Gemm F) (canonicals : ℕ → ℕ → UInt8) (block : ℕ) (writes : List Write) :
    Prop :=
  (writes.map Write.place).Nodup ∧ ∀ w, w ∈ writes ↔ ∃ index < g.partitions.length,
    ∃ localNblock < (g.partition index).nblocks,
      (g.firstNblock index + localNblock) % 2 = block / 8 ∧ ∃ token < 64, ∃ column < 256,
        w = g.taskWrite ⟨index, g.partition index, localNblock, block % 8⟩ (canonicals index)
          token column

lemma Served.stages (h : g.Served canonicals) : 3 ≤ g.kstageCount := by
  unfold kstageCount columnsPerStage
  obtain hc | hc := h.columns <;> rw [hc] <;> decide

-- The block of columns of a partition, among those of all partitions.
def globalOf (g : Gemm F) (place : ℕ × ℕ) : ℕ :=
  g.firstNblock place.1 + place.2 % (g.partition place.1).rows / 256

lemma globalOf_taskWrite {index localNblock token column tokenTile : ℕ}
    {canonical : ℕ → UInt8} (hblock : localNblock < (g.partition index).nblocks)
    (hcolumn : column < 256) :
    g.globalOf (g.taskWrite ⟨index, g.partition index, localNblock, tokenTile⟩ canonical
      token column).place = g.firstNblock index + localNblock := by
  have hmod := (@taskWrite_place F g ⟨index, g.partition index, localNblock, tokenTile⟩ canonical
    (g.partition index).rows token column rfl hblock hcolumn).2
  refine congrArg (g.firstNblock index + ·) ((congrArg (· / 256) hmod).trans ?_)
  dsimp only
  omega

lemma runBlock_writes (h : g.Threads) (hg : g.Served canonicals) {block : ℕ} (hblock : block < 16) :
    ∃ writes, g.runBlock block = some writes ∧ g.BlockWrites canonicals block writes := by
  have hgrid (globalNblock : ℕ) :
      globalNblock ∈ Gdn.gridStride (block / tokenTiles) 2 g.totalNblocks ↔
        globalNblock < g.totalNblocks ∧ globalNblock % 2 = block / 8 :=
    mem_gridStride (show block / 8 < 2 by omega)
  have hnodup : (Gdn.gridStride (block / tokenTiles) 2 g.totalNblocks).Nodup :=
    gridStride_nodup (by decide)
  have hstart : g.Idle 0 SharedMemory.empty.barrier := by
    refine ⟨⟨fun _ _ => rfl, fun _ _ => rfl, fun _ _ => rfl⟩, fun a _ c hc => ?_, rfl⟩
    cases hc
  obtain ⟨own, s', hrun, hown, -⟩ := @foldlM_append_some (SharedMemory Uint4) ℕ Write _
    (fun globalNblock s => g.runTask (g.selectTask (block % tokenTiles) globalNblock) s)
    (fun s => ∃ base, g.Idle base s)
    (fun globalNblock writes => g.TaskWrites (g.selectTask (block % 8) globalNblock)
      (canonicals (g.selectTask (block % 8) globalNblock).index) writes)
    _ _ hnodup ⟨0, hstart⟩ (fun globalNblock hmem s hs => by
      obtain ⟨base, hidle⟩ := hs
      obtain ⟨index, hindex, localNblock, hlocal, rfl⟩ :=
        block_of_global hg ((hgrid globalNblock).mp hmem).1
      have hselect := (selectTask_block hg hindex hlocal (block % 8)).2
      have htiles : block % tokenTiles = block % 8 := rfl
      obtain ⟨c, s', hrun, hc, hidle'⟩ := @runTask_outputs F g
        ⟨index, g.partition index, localNblock, block % 8⟩ base s (canonicals index) h
        ⟨hg.carries index hindex, hlocal⟩ hg.stages hidle
      refine ⟨g.order.flatMap (g.outputs ⟨index, g.partition index, localNblock, block % 8⟩ c), s',
        ?_, ?_, base + g.kstageCount, hidle'⟩
      · rw [htiles, hselect]
        exact hrun
      · rw [hselect]
        exact task_writes h hlocal hc) []
  have hmem (w : Write) : w ∈ (Gdn.gridStride (block / tokenTiles) 2 g.totalNblocks).flatMap own ↔
      ∃ index < g.partitions.length, ∃ localNblock < (g.partition index).nblocks,
        (g.firstNblock index + localNblock) % 2 = block / 8 ∧ ∃ token < 64, ∃ column < 256,
          w = g.taskWrite ⟨index, g.partition index, localNblock, block % 8⟩ (canonicals index)
            token column := by
    rw [List.mem_flatMap]
    constructor
    · rintro ⟨globalNblock, hglobal, hw⟩
      obtain ⟨hlt, hphase⟩ := (hgrid globalNblock).mp hglobal
      obtain ⟨index, hindex, localNblock, hlocal, rfl⟩ := block_of_global hg hlt
      have hwrites := hown _ hglobal
      rw [(selectTask_block hg hindex hlocal (block % 8)).2] at hwrites
      obtain ⟨token, htoken, column, hcolumn, heq⟩ := (hwrites.2 w).mp hw
      exact ⟨index, hindex, localNblock, hlocal, hphase, token, htoken, column, hcolumn, heq⟩
    · rintro ⟨index, hindex, localNblock, hlocal, hphase, token, htoken, column, hcolumn, heq⟩
      obtain ⟨hlt, hselect⟩ := selectTask_block hg hindex hlocal (block % 8)
      have hglobal := (hgrid _).mpr ⟨hlt, hphase⟩
      have hwrites := hown _ hglobal
      rw [hselect] at hwrites
      exact ⟨_, hglobal, (hwrites.2 w).mpr ⟨token, htoken, column, hcolumn, heq⟩⟩
  refine ⟨(Gdn.gridStride (block / tokenTiles) 2 g.totalNblocks).flatMap own, ?_, ?_, hmem⟩
  · rw [runBlock]
    exact (congrArg (· >>= _) hrun).trans rfl
  · rw [List.map_flatMap]
    refine @nodup_flatMap_of_key _ _ _ _ g.globalOf hnodup (fun globalNblock hglobal =>
      (hown globalNblock hglobal).1) fun globalNblock hglobal place hplace => ?_
    obtain ⟨w, hw, rfl⟩ := List.mem_map.mp hplace
    obtain ⟨index, hindex, localNblock, hlocal, rfl⟩ :=
      block_of_global hg ((hgrid globalNblock).mp hglobal).1
    have hwrites := hown _ hglobal
    rw [(selectTask_block hg hindex hlocal (block % 8)).2] at hwrites
    obtain ⟨token, -, column, hcolumn, rfl⟩ := (hwrites.2 w).mp hw
    exact globalOf_taskWrite hlocal hcolumn

-- The accumulator of a panel of tokens and a panel of rows: the fold of the product over slices.
def accumulator (g : Gemm F) (canonical : ℕ → UInt8) (tokenPanel rowPanel : ℕ) : ℕ → ℕ → ℕ → F
  | 0 => fun _ _ => g.zero
  | slice + 1 => product g.mma
      (fun token k => g.activations ((tokenPanel * 16 + token) * g.columns + (slice * 16 + k)))
      (fun k row => decodeE4m3fnToBf16Bits
        (canonical ((rowPanel * 8 + row) * g.columns + (slice * 16 + k))))
      (g.accumulator canonical tokenPanel rowPanel slice)

def output (g : Gemm F) (canonical : ℕ → UInt8) (index token row : ℕ) : UInt16 :=
  g.encodeBf16Rne (g.mul (g.accumulator canonical (token / 16) (row / 8) (g.columns / 16)
    (token % 16) (row % 8)) (g.partition index).weightScale)

lemma accumulated_eq (task : Task F) (canonical : ℕ → UInt8) (warp mPanel nPanel slices : ℕ) :
    g.accumulated task canonical warp mPanel nPanel slices =
      g.accumulator canonical (task.tokenTile * 4 + mPanel)
        (task.localNblock * 32 + (warp * 4 + nPanel)) slices := by
  induction slices with
  | zero => rfl
  | succ slice ih =>
    have hactivations : g.activationSlice task mPanel slice = fun token k =>
        g.activations (((task.tokenTile * 4 + mPanel) * 16 + token) * g.columns +
          (slice * 16 + k)) := by
      funext token k
      rw [activationSlice, show task.tokenTile * 64 + (mPanel * 16 + token) =
        (task.tokenTile * 4 + mPanel) * 16 + token by omega]
    have hweights : g.weightSlice task canonical warp nPanel slice = fun k row =>
        decodeE4m3fnToBf16Bits (canonical (((task.localNblock * 32 + (warp * 4 + nPanel)) * 8 +
          row) * g.columns + (slice * 16 + k))) := by
      funext k row
      rw [weightSlice, show task.localNblock * 256 + (warp * 32 + (nPanel * 8 + row)) =
        (task.localNblock * 32 + (warp * 4 + nPanel)) * 8 + row by omega]
    rw [Gemm.accumulated, accumulator, ih, hactivations, hweights]

lemma Served.slices (h : g.Served canonicals) : g.kstageCount * 4 = g.columns / 16 := by
  unfold kstageCount columnsPerStage
  obtain hc | hc := h.columns <;> rw [hc]

lemma taskWrite_eq (h : g.Served canonicals) {index localNblock tokenTile token column : ℕ}
    (canonical : ℕ → UInt8) :
    g.taskWrite ⟨index, g.partition index, localNblock, tokenTile⟩ canonical token column =
      ⟨index, (tokenTile * 64 + token) * (g.partition index).rows + (localNblock * 256 + column),
        g.output canonical index (tokenTile * 64 + token) (localNblock * 256 + column)⟩ := by
  have hpanel : (tokenTile * 64 + token) / 16 = tokenTile * 4 + token / 16 := by omega
  have hrows : (localNblock * 256 + column) / 8 =
      localNblock * 32 + (column / 32 * 4 + column % 32 / 8) := by omega
  have htokenLane : (tokenTile * 64 + token) % 16 = token % 16 := by omega
  have hrowLane : (localNblock * 256 + column) % 8 = column % 8 := by omega
  rw [taskWrite, taskOutput, accumulated_eq, h.slices, output, hpanel, hrows, htokenLane, hrowLane]

lemma run_writes (h : g.Threads) (hg : g.Served canonicals) : ∃ writes, g.run = some writes ∧
    (writes.map Write.place).Nodup ∧ ∀ w, w ∈ writes ↔ ∃ index < g.partitions.length,
      ∃ token < 512, ∃ row < (g.partition index).rows,
        w = ⟨index, token * (g.partition index).rows + row,
          g.output (canonicals index) index token row⟩ := by
  have hblocks (block : ℕ) : block ∈ g.blockOrder ↔ block < 16 := by
    rw [h.blockOrder.mem_iff, List.mem_range, persistentBlocks]
  choose! own hrun hown using fun block (hblock : block < 16) => runBlock_writes h hg hblock
  refine ⟨g.blockOrder.flatMap own, ?_, ?_, fun w => ?_⟩
  · exact (foldlM_append_each (fun block hblock => hrun block ((hblocks block).mp hblock)) []).trans
      (congrArg some (List.nil_append _))
  · rw [List.map_flatMap]
    refine @nodup_flatMap_of_key _ _ _ _
      (fun place => place.2 / (g.partition place.1).rows / 64 + 8 * (g.globalOf place % 2))
      (h.blockOrder.nodup_iff.mpr List.nodup_range)
      (fun block hblock => (hown block ((hblocks block).mp hblock)).1) fun block hblock place hp => ?_
    obtain ⟨w, hw, rfl⟩ := List.mem_map.mp hp
    rw [hblocks] at hblock
    obtain ⟨index, hindex, localNblock, hlocal, hphase, token, htoken, column, hcolumn, rfl⟩ :=
      ((hown block hblock).2 w).mp hw
    have hdiv := (@taskWrite_place F g ⟨index, g.partition index, localNblock, block % 8⟩
      (canonicals index) (g.partition index).rows token column rfl hlocal hcolumn).1
    have htile : (g.taskWrite ⟨index, g.partition index, localNblock, block % 8⟩
        (canonicals index) token column).place.2 / (g.partition index).rows / 64 = block % 8 := by
      refine (congrArg (· / 64) hdiv).trans ?_
      dsimp only
      omega
    rw [globalOf_taskWrite hlocal hcolumn, hphase]
    refine (congrArg (· + 8 * (block / 8)) htile).trans ?_
    omega
  · rw [List.mem_flatMap]
    constructor
    · rintro ⟨block, hblock, hw⟩
      rw [hblocks] at hblock
      obtain ⟨index, hindex, localNblock, hlocal, -, token, htoken, column, hcolumn, rfl⟩ :=
        ((hown block hblock).2 w).mp hw
      have hlocal' : localNblock < (g.partition index).rows / 256 := hlocal
      exact ⟨index, hindex, block % 8 * 64 + token, by omega, localNblock * 256 + column, by omega,
        taskWrite_eq hg _⟩
    · rintro ⟨index, hindex, token, htoken, row, hrow, rfl⟩
      have haligned := hg.aligned index hindex
      have hlocal : row / 256 < (g.partition index).nblocks := by
        unfold Partition.nblocks outputColumnsPerBlock
        omega
      have hblock : token / 64 + 8 * ((g.firstNblock index + row / 256) % 2) < 16 := by omega
      refine ⟨token / 64 + 8 * ((g.firstNblock index + row / 256) % 2), (hblocks _).mpr hblock,
        ((hown _ hblock).2 _).mpr ⟨index, hindex, row / 256, hlocal, by omega, token % 64,
          Nat.mod_lt _ (by decide), row % 256, Nat.mod_lt _ (by decide), ?_⟩⟩
      have htile : (token / 64 + 8 * ((g.firstNblock index + row / 256) % 2)) % 8 * 64 +
          token % 64 = token := by omega
      have hrow : row / 256 * 256 + row % 256 = row := Nat.div_add_mod' row 256
      rw [taskWrite_eq hg, htile, hrow]

end Run

section Claim

-- A sidecar that an accepted launch of the pack kernel has filled.
def Packed (part : Partition F) (columns : ℕ) (canonical : ℕ → UInt8) : Prop :=
  ∃ canonicalAddress order before,
    order.Perm (List.range (part.rows / outputColumnsPerBlock * (columns / columnsPerStage))) ∧
      launchSm87Fp8PrefillSupermatrixPack canonicalAddress part.sidecarAddress part.rows columns
        order canonical before = some part.sidecar

lemma packInvalid_admitted {canonicalAddress sidecarAddress rows columns : ℕ}
    (h : ¬ packInvalid canonicalAddress sidecarAddress rows columns = true) :
    PackAdmitted rows columns := by
  simp only [packInvalid, Bool.or_eq_true, decide_eq_true_eq, not_or, not_and] at h
  obtain ⟨⟨⟨⟨⟨hshape, -⟩, -⟩, hfits⟩, -⟩, -⟩ := h
  exact ⟨Nat.dvd_of_mod_eq_zero (by tauto), by omega, by tauto⟩

-- Each byte of the sidecar is the canonical byte that the pack kernel took it from.
lemma packed_carries {part : Partition F} {columns : ℕ} (h : Packed part columns canonical) :
    Carries part columns canonical := by
  obtain ⟨canonicalAddress, order, before, horder, hlaunch⟩ := h
  rw [launchSm87Fp8PrefillSupermatrixPack] at hlaunch
  split_ifs at hlaunch with hinvalid
  have hadmitted := packInvalid_admitted hinvalid
  have hsidecar := (Option.some.inj hlaunch).symm
  have hnodup : ((packKernel columns order).map Prod.fst).Nodup :=
    (packKernel_perm hadmitted horder).1.nodup_iff.mpr List.nodup_range
  have hlaw : WriteLaw (fun (sidecar : ℕ → UInt8) (w : ℕ × ℕ) =>
      Function.update sidecar w.1 (canonical w.2)) (fun sidecar i => sidecar i)
      (fun w i => w.1 = i) fun w _ => canonical w.2 :=
    ⟨fun h => by rw [← h, Function.update_self], fun h => Function.update_of_ne (Ne.symm h) _ _⟩
  intro i hi
  have hmem := write_mem_packKernel hadmitted horder hi
  rw [hsidecar]
  refine hlaw.agreed ⟨_, hmem, rfl⟩ (fun w hw hsame => ?_) before
  rw [List.inj_on_of_nodup_map hnodup hw hmem hsame]

lemma launch_served {canonicals : ℕ → ℕ → UInt8} {activationsAddress count : ℕ}
    (hvalid : ¬ g.invalid activationsAddress count = true)
    (hpacked : ∀ index < g.partitions.length,
      Packed (g.partition index) g.columns (canonicals index)) :
    g.Served canonicals ∧ count = 512 := by
  simp only [invalid, Bool.or_eq_true, decide_eq_true_eq, Bool.not_eq_true', not_or, not_not,
    List.any_eq_true, List.mem_range, not_exists, not_and, Bool.not_eq_false] at hvalid
  obtain ⟨⟨⟨⟨hnonempty, hfew, hcount⟩, htopology⟩, -⟩, hparts⟩ := hvalid
  have hcolumns : g.columns = 5120 ∨ g.columns = 6144 := by
    simp only [hasSupportedTopology, decide_eq_true_eq] at htopology
    tauto
  refine ⟨⟨hcolumns, Nat.pos_of_ne_zero hnonempty, not_lt.mp hfew, fun index hindex => ?_,
    fun index hindex => packed_carries (hpacked index hindex)⟩, hcount⟩
  have hpart := hparts index hindex
  simp only [partitionInvalid, Bool.or_eq_true, decide_eq_true_eq, not_or] at hpart
  obtain ⟨⟨⟨⟨⟨⟨⟨⟨⟨-, hrows⟩, -⟩, -⟩, -⟩, -⟩, -⟩, -⟩, -⟩, -⟩ := hpart
  exact Nat.dvd_of_mod_eq_zero (not_not.mp hrows.2)

-- The pack is a permutation of the bytes, and the product writes each output once, as the fold of
-- the matrix products over the canonical bytes; no access to the ring races.
theorem supermatrix_exact :
    (∀ {rows columns : ℕ} {order : List ℕ}, 256 ∣ rows → rows < 2 ^ 32 →
      columns = 5120 ∨ columns = 6144 → order.Perm (List.range (rows / 256 * (columns / 64))) →
        ((packKernel columns order).map Prod.fst).Perm (List.range (rows * columns)) ∧
        ((packKernel columns order).map Prod.snd).Perm (List.range (rows * columns))) ∧
    ∀ {F : Type} (g : Gemm F) (canonicals : ℕ → ℕ → UInt8) {activationsAddress count : ℕ}
      {result : Option (List Write)}, g.Threads →
      g.launchSm87Fp8PrefillSupermatrixGemmBf16 activationsAddress count = some result →
      (∀ index < g.partitions.length, Packed (g.partition index) g.columns (canonicals index)) →
        ∃ writes, result = some writes ∧ (writes.map Write.place).Nodup ∧
          ∀ w, w ∈ writes ↔ ∃ index < g.partitions.length, ∃ token < count,
            ∃ row < (g.partition index).rows, w = ⟨index, token * (g.partition index).rows + row,
              g.output (canonicals index) index token row⟩ := by
  refine ⟨fun haligned hfits hcolumns horder => packKernel_perm ⟨haligned, hfits, hcolumns⟩ horder,
    fun g canonicals activationsAddress count result hthreads hlaunch hpacked => ?_⟩
  rw [launchSm87Fp8PrefillSupermatrixGemmBf16] at hlaunch
  split_ifs at hlaunch with hinvalid
  obtain ⟨hserved, rfl⟩ := launch_served hinvalid hpacked
  obtain rfl := Option.some.inj hlaunch
  exact run_writes hthreads hserved

def outSidecar : ℕ → UInt8 :=
  packed (packKernel 6144 (List.range (5120 / 256 * (6144 / 64)))) (UInt8.ofNat ·) fun _ => 0

-- The out projection, with its matrix packed over zeroes.
def outGemm : Gemm ℕ where
  columns := 6144
  partitions := [⟨2 ^ 30, 2 ^ 31, outSidecar, 3, 5120⟩]
  activations := fun i => UInt16.ofNat i
  mma := fun _ b c r n => c r n + (b 0 n).toNat
  zero := 0
  mul := (· * ·)
  floatAsUint := UInt32.ofNat
  finiteNonnegative := fun _ => true
  order := List.range threads
  warpOrder := List.range 8
  blockOrder := List.range persistentBlocks

lemma outGemm_packed : Packed (outGemm.partition 0) 6144 (UInt8.ofNat ·) := by
  refine ⟨2 ^ 32, List.range (5120 / 256 * (6144 / 64)), fun _ => 0, List.Perm.refl _, ?_⟩
  have hpart : outGemm.partition 0 = ⟨2 ^ 30, 2 ^ 31, outSidecar, 3, 5120⟩ := rfl
  have hvalid : ¬ packInvalid (2 ^ 32) (2 ^ 30) 5120 6144 = true := by decide
  rw [hpart, launchSm87Fp8PrefillSupermatrixPack, if_neg hvalid]
  dsimp only
  rw [outSidecar]

lemma outGemm_threads : outGemm.Threads := by
  refine ⟨?_, ?_, ?_⟩
  all_goals
    dsimp only [outGemm]
    exact List.Perm.refl _

theorem out_projection_exact :
    ((packKernel 5120 (List.range (256 / 256 * (5120 / 64)))).map Prod.snd).Perm
      (List.range (256 * 5120)) ∧
    ∃ writes, outGemm.run = some writes ∧ (writes.map Write.place).Nodup ∧
      ∀ w, w ∈ writes ↔ ∃ index < 1, ∃ token < 512, ∃ row < (outGemm.partition index).rows,
        w = ⟨index, token * (outGemm.partition index).rows + row,
          outGemm.output (UInt8.ofNat ·) index token row⟩ := by
  refine ⟨(supermatrix_exact.1 (by decide) (by decide) (.inl rfl) (List.Perm.refl _)).2, ?_⟩
  have hvalid : outGemm.launchSm87Fp8PrefillSupermatrixGemmBf16 (2 ^ 20) 512 =
      some outGemm.run := by
    rw [launchSm87Fp8PrefillSupermatrixGemmBf16, if_neg]
    decide
  exact supermatrix_exact.2 outGemm (fun _ => (UInt8.ofNat ·))
    outGemm_threads hvalid fun index hindex => by
      obtain rfl : index = 0 := Nat.lt_one_iff.mp hindex
      exact outGemm_packed

end Claim

end Qwen3xOrin.Fp8.Gemm
