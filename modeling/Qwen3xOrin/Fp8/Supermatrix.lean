import Qwen3xOrin.Gdn.CausalConv
import Qwen3xOrin.Library.AsyncCopies
import Qwen3xOrin.Library.Fragments

/-! The prefill product of FP8 weights: the kernel that packs the weights into the order in which the
lanes of a warp consume them, and the kernel that feeds them through a ring of four slots. -/

namespace Qwen3xOrin.Fp8

open Library
open Gdn (gridStride)

def warpSize : ℕ := 32
def threads : ℕ := 256
def tokenCount : ℕ := 512
def residentTokenCount : ℕ := 64
def tokenTiles : ℕ := tokenCount / residentTokenCount
def outputColumnsPerBlock : ℕ := 256
def columnsPerStage : ℕ := 64
def k16Groups : ℕ := 4
def n8PanelsPerWarp : ℕ := 4
def pipelineStages : ℕ := 4
def persistentBlocks : ℕ := 16
def sidecarWordsPerStage : ℕ := k16Groups * n8PanelsPerWarp * threads
def sidecarVectorsPerStage : ℕ := sidecarWordsPerStage * 4 / 16
def activationVectorsPerStage : ℕ := residentTokenCount * columnsPerStage * 2 / 16

-- `unsigned int` arithmetic.
def u32 (x : ℕ) : ℕ := x % 2 ^ 32

section Pack

-- The destination and the source of each byte that a thread packs.
def packThread (columns kstageCount tile thread : ℕ) : List (ℕ × ℕ) :=
  let nblock := tile / kstageCount
  let kstage := tile % kstageCount
  let warp := thread / warpSize
  let lane := thread % warpSize
  let laneGroup := lane / 4
  let laneInGroup := lane % 4
  (List.range k16Groups).flatMap fun k16 => (List.range n8PanelsPerWarp).flatMap fun nPanel =>
    let row := u32 (nblock * outputColumnsPerBlock + warp * 32 + nPanel * 8 + laneGroup)
    let column := u32 (kstage * columnsPerStage + k16 * 16 + 2 * laneInGroup)
    let source := row * columns + column
    let word := tile * sidecarWordsPerStage + (k16 * n8PanelsPerWarp + nPanel) * threads + thread
    [(4 * word, source), (4 * word + 1, source + 8), (4 * word + 2, source + 1),
      (4 * word + 3, source + 9)]

-- The tiles run in any order.
def packKernel (columns : ℕ) (order : List ℕ) : List (ℕ × ℕ) :=
  order.flatMap fun tile =>
    (List.range threads).flatMap (packThread columns (columns / columnsPerStage) tile)

def packed (writes : List (ℕ × ℕ)) (canonical sidecar : ℕ → UInt8) : ℕ → UInt8 :=
  writes.foldl (fun sidecar w => Function.update sidecar w.1 (canonical w.2)) sidecar

def pointerIsAligned (pointer alignment : ℕ) : Bool :=
  decide (pointer ≠ 0 ∧ alignment ≠ 0 ∧ pointer % alignment = 0)

def byteRangeOverflows (pointer bytes : ℕ) : Bool :=
  decide (pointer = 0 ∨ 2 ^ 64 - 1 - pointer < bytes)

def byteRangesOverlap (first firstBytes second secondBytes : ℕ) : Bool :=
  if byteRangeOverflows first firstBytes || byteRangeOverflows second secondBytes then true
  else decide (first < second + secondBytes ∧ second < first + firstBytes)

def packInvalid (canonicalWeights sidecarWeights rows columns : ℕ) : Bool :=
  let nblocks := rows / outputColumnsPerBlock
  let kstageCount := columns / columnsPerStage
  decide (canonicalWeights = 0 ∨ sidecarWeights = 0 ∨ rows = 0 ∨
    rows % outputColumnsPerBlock ≠ 0 ∨ (columns ≠ 5120 ∧ columns ≠ 6144)) ||
  !pointerIsAligned canonicalWeights 16 || !pointerIsAligned sidecarWeights 16 ||
  decide (2 ^ 32 - 1 < rows ∨ (2 ^ 64 - 1) / columns < rows) ||
  byteRangesOverlap canonicalWeights (rows * columns) sidecarWeights (rows * columns) ||
  decide ((2 ^ 32 - 1) / outputColumnsPerBlock < nblocks ∨ (2 ^ 32 - 1) / kstageCount < nblocks)

-- `none` is `cudaErrorInvalidValue`.
def launchSm87Fp8PrefillSupermatrixPack (canonicalWeights sidecarWeights rows columns : ℕ)
    (order : List ℕ) (canonical sidecar : ℕ → UInt8) : Option (ℕ → UInt8) :=
  if packInvalid canonicalWeights sidecarWeights rows columns then none
  else some (packed (packKernel columns order) canonical sidecar)

end Pack

section Decode

def decodeE4m3fnToBf16Bits (code : UInt8) : UInt16 :=
  let sign : UInt16 := (code &&& 0x80).toUInt16 <<< 8
  let magnitude : UInt16 := (code &&& 0x7f).toUInt16
  if magnitude = 0x7f then sign ||| 0x7fc0
  else
    let exponent : UInt16 := magnitude >>> 3
    let mantissa : UInt16 := magnitude &&& 7
    if exponent = 0 then
      if mantissa = 0 then sign
      else
        let leading : UInt16 := if 4 ≤ mantissa then 2 else if 2 ≤ mantissa then 1 else 0
        sign ||| ((118 + leading) <<< 7) ||| ((mantissa - (1 <<< leading)) <<< (7 - leading))
    else sign ||| ((120 + exponent) <<< 7) ||| (mantissa <<< 4)

-- The table that the threads of a block seed, one entry each.
def decodedWeights : ℕ → UInt16 :=
  (List.range threads).foldl
    (fun table thread => Function.update table thread (decodeE4m3fnToBf16Bits (UInt8.ofNat thread)))
    fun _ => 0

-- The bytes of a word arrive as `[v0, v2, v1, v3]`; the registers are `[v0, v1]` and `[v2, v3]`.
def decodeFp8x4ToBf16x4 (word : ℕ → UInt8) (register half : ℕ) : UInt16 :=
  let value0 := decodedWeights (word 0).toNat
  let value2 := decodedWeights (word 1).toNat
  let value1 := decodedWeights (word 2).toNat
  let value3 := decodedWeights (word 3).toNat
  match register, half with
  | 0, 0 => value0
  | 0, _ => value1
  | _, 0 => value2
  | _, _ => value3

end Decode

section Vectors

-- Sixteen bytes, the unit of the asynchronous copies.
abbrev Uint4 := ℕ → UInt8

def elementVector (elements : ℕ → UInt16) (offset : ℕ) : Uint4 := fun byte =>
  let element := elements (offset + byte / 2)
  UInt8.ofNat (if byte % 2 = 0 then element.toNat % 256 else element.toNat / 256)

def vectorElement (vector : Uint4) (i : ℕ) : UInt16 :=
  UInt16.ofNat ((vector (2 * i)).toNat + 256 * (vector (2 * i + 1)).toNat)

def byteVector (bytes : ℕ → UInt8) (offset : ℕ) : Uint4 := fun byte => bytes (offset + byte)

def activationSlot (slot : ℕ) : ℕ := slot * activationVectorsPerStage

def weightSlot (slot : ℕ) : ℕ :=
  pipelineStages * activationVectorsPerStage + slot * sidecarVectorsPerStage

end Vectors

structure Partition (F : Type) where
  sidecarAddress : ℕ
  outputAddress : ℕ
  sidecar : ℕ → UInt8
  weightScale : F
  rows : ℕ

-- The launch of the product. `order` is the one in which the threads of a block run between two
-- barriers.
structure Gemm (F : Type) where
  columns : ℕ
  partitions : List (Partition F)
  activations : ℕ → UInt16
  mma : Mma F
  zero : F
  mul : F → F → F
  floatAsUint : F → UInt32
  finiteNonnegative : F → Bool
  order : List ℕ
  warpOrder : List ℕ
  blockOrder : List ℕ

def Partition.nblocks {F : Type} (part : Partition F) : ℕ := part.rows / outputColumnsPerBlock

namespace Gemm

variable {F : Type} (g : Gemm F)

def kstageCount : ℕ := g.columns / columnsPerStage

-- One token tile and one block of output columns of a partition.
structure Task (F : Type) where
  index : ℕ
  part : Partition F
  localNblock : ℕ
  tokenTile : ℕ

def issuePipelineStage (task : Task F) (stage slot thread : ℕ) (shared : SharedMemory Uint4) :
    Option (SharedMemory Uint4) := do
  let shared ← (List.range 2).foldlM (fun shared pass =>
    let i := thread + pass * threads
    let token := i / 8
    let chunk := i % 8
    shared.issue thread (activationSlot slot + (token * 8 + (chunk ^^^ (token &&& 7))))
      (elementVector g.activations ((task.tokenTile * residentTokenCount + token) * g.columns +
        stage * columnsPerStage + chunk * 8))) shared
  let shared ← (List.range 4).foldlM (fun shared pass =>
    let i := thread + pass * threads
    shared.issue thread (weightSlot slot + i) (byteVector task.part.sidecar
      (((task.localNblock * g.kstageCount + stage) * sidecarVectorsPerStage + i) * 16))) shared
  pure (shared.commit thread)

def issueBlock (task : Task F) (stage : ℕ) (shared : SharedMemory Uint4) :
    Option (SharedMemory Uint4) :=
  g.order.foldlM
    (fun shared thread => g.issuePipelineStage task stage (stage % pipelineStages) thread shared)
    shared

structure RegisterStage where
  activations : ℕ → ℕ → ℕ → ℕ → UInt16
  packedWeights : ℕ → ℕ → ℕ → UInt8

-- Lane `8 * i + r` gives the address of row `r` of matrix `i`; each lane gets two elements of one
-- row of each matrix.
def loadM16k16ActivationFragment (slot mPanel k16 warp : ℕ) (shared : SharedMemory Uint4) :
    Option ((ℕ → ℕ → ℕ → UInt16) × SharedMemory Uint4) := do
  let address := fun lane =>
    let quadrant := lane / 8
    let row := lane % 8 + (quadrant &&& 1) * 8
    let logicalChunk := k16 * 2 + (quadrant >>> 1)
    activationSlot slot + ((mPanel * 16 + row) * 8 + (logicalChunk ^^^ (row &&& 7)))
  let (vector, shared) ← shared.load (warpLanes warp) fun thread => address (thread % 32)
  pure (fun lane register half =>
    vectorElement (vector (warp * 32 + (register * 8 + lane / 4))) (lane % 4 * 2 + half), shared)

def loadSharedU32 (slot k16 nPanel warp : ℕ) (shared : SharedMemory Uint4) :
    Option ((ℕ → ℕ → UInt8) × SharedMemory Uint4) := do
  let word := fun thread => (k16 * n8PanelsPerWarp + nPanel) * threads + thread
  let (vector, shared) ← shared.load (warpLanes warp) fun thread => weightSlot slot + word thread / 4
  pure (fun lane byte =>
    vector (warp * 32 + lane) (word (warp * 32 + lane) % 4 * 4 + byte), shared)

def loadSupermatrixRegisterStage (slot k16 warp : ℕ) (shared : SharedMemory Uint4) :
    Option (RegisterStage × SharedMemory Uint4) := do
  let (activations, shared) ← (List.range 4).foldlM
    (fun (s : (ℕ → ℕ → ℕ → ℕ → UInt16) × SharedMemory Uint4) mPanel => do
      let (fragment, shared) ← loadM16k16ActivationFragment slot mPanel k16 warp s.2
      pure (Function.update s.1 mPanel fragment, shared)) (fun _ _ _ _ => 0, shared)
  let (packedWeights, shared) ← (List.range 4).foldlM
    (fun (s : (ℕ → ℕ → ℕ → UInt8) × SharedMemory Uint4) nPanel => do
      let (word, shared) ← loadSharedU32 slot k16 nPanel warp s.2
      pure (Function.update s.1 nPanel word, shared)) (fun _ _ _ => 0, shared)
  pure (⟨activations, packedWeights⟩, shared)

-- The accumulators of a warp: the panel of tokens, the panel of rows, the lane and the register.
abbrev Accumulators (F : Type) := ℕ → ℕ → ℕ → ℕ → F

structure WarpState (F : Type) where
  shared : SharedMemory Uint4
  stages : ℕ → RegisterStage
  accumulators : Accumulators F

def k16Step (slot warp : ℕ) (w : WarpState F) (k16 : ℕ) : Option (WarpState F) := do
  let current := k16 &&& 1
  let next := current ^^^ 1
  let (stages, shared) ←
    if k16 + 1 < k16Groups then do
      let (stage, shared) ← loadSupermatrixRegisterStage slot (k16 + 1) warp w.shared
      pure (Function.update w.stages next stage, shared)
    else pure (w.stages, w.shared)
  let stage := stages current
  pure
    { shared := shared
      stages := stages
      accumulators := fun mPanel nPanel => mmaSync g.mma (stage.activations mPanel)
        (fun lane => decodeFp8x4ToBf16x4 (stage.packedWeights nPanel lane))
        (w.accumulators mPanel nPanel) }

structure Registers (F : Type) where
  shared : SharedMemory Uint4
  accumulators : ℕ → Accumulators F

def warpStage (slot : ℕ) (r : Registers F) (warp : ℕ) : Option (Registers F) := do
  let (stage, shared) ← loadSupermatrixRegisterStage slot 0 warp r.shared
  let w ← (List.range k16Groups).foldlM (g.k16Step slot warp)
    ⟨shared, fun _ => stage, r.accumulators warp⟩
  pure ⟨w.shared, Function.update r.accumulators warp w.accumulators⟩

def stageStep (task : Task F) (r : Registers F) (stage : ℕ) : Option (Registers F) := do
  let pending :=
    if stage + 2 < g.kstageCount then 2 else if stage + 1 < g.kstageCount then 1 else 0
  let shared := (r.shared.waitAll g.order pending).barrier
  let shared ←
    if stage + 3 < g.kstageCount then g.issueBlock task (stage + 3) shared else pure shared
  g.warpOrder.foldlM (g.warpStage (stage % pipelineStages)) ⟨shared, r.accumulators⟩

def encodeBf16Rne (value : F) : UInt16 :=
  let bits : UInt32 := g.floatAsUint value
  if 0x7f800000 < (bits &&& 0x7fffffff) then ((bits >>> 16) ||| 0x40).toUInt16
  else
    let odd : UInt32 := (bits >>> 16) &&& 1
    ((bits + (0x7fff + odd)) >>> 16).toUInt16

-- The partition, the position and the value of an output.
structure Write where
  index : ℕ
  position : ℕ
  value : UInt16

def outputs (task : Task F) (accumulators : ℕ → Accumulators F) (thread : ℕ) : List Write :=
  let warp := thread / warpSize
  let lane := thread % warpSize
  let laneGroup := lane / 4
  let laneInGroup := lane % 4
  let tileOutput := task.tokenTile * residentTokenCount * task.part.rows
  let firstOutputColumn := task.localNblock * outputColumnsPerBlock
  (List.range 4).flatMap fun mPanel => (List.range 4).flatMap fun nPanel =>
    let accumulator := accumulators warp mPanel nPanel lane
    let token0 := mPanel * 16 + laneGroup
    let token1 := token0 + 8
    let localColumn := warp * 32 + nPanel * 8 + 2 * laneInGroup
    let scaled := fun i => g.encodeBf16Rne (g.mul (accumulator i) task.part.weightScale)
    let first := tileOutput + token0 * task.part.rows + firstOutputColumn + localColumn
    let second := tileOutput + token1 * task.part.rows + firstOutputColumn + localColumn
    [⟨task.index, first, scaled 0⟩, ⟨task.index, first + 1, scaled 1⟩,
      ⟨task.index, second, scaled 2⟩, ⟨task.index, second + 1, scaled 3⟩]

def partition (i : ℕ) : Partition F := g.partitions.getD i ⟨0, 0, fun _ => 0, g.zero, 0⟩

def totalNblocks : ℕ := (g.partitions.map Partition.nblocks).sum

def selectTask (tokenTile globalNblock : ℕ) : Task F :=
  let nblocks0 := (g.partition 0).nblocks
  let nblocks1 := (g.partition 1).nblocks
  if 2 ≤ g.partitions.length ∧ nblocks0 ≤ globalNblock then
    if g.partitions.length = 3 ∧ nblocks1 ≤ globalNblock - nblocks0 then
      ⟨2, g.partition 2, globalNblock - nblocks0 - nblocks1, tokenTile⟩
    else ⟨1, g.partition 1, globalNblock - nblocks0, tokenTile⟩
  else ⟨0, g.partition 0, globalNblock, tokenTile⟩

def runTask (task : Task F) (shared : SharedMemory Uint4) :
    Option (List Write × SharedMemory Uint4) := do
  let shared ← g.issueBlock task 0 shared
  let shared ← g.issueBlock task 1 shared
  let shared ← g.issueBlock task 2 shared
  let r ← (List.range g.kstageCount).foldlM (g.stageStep task)
    ⟨shared, fun _ _ _ _ _ => g.zero⟩
  let shared := (r.shared.waitAll g.order 0).barrier
  pure (g.order.flatMap (g.outputs task r.accumulators), shared.barrier)

-- The writes of a block, or `none` where an access races.
def runBlock (block : ℕ) : Option (List Write) := do
  let (writes, _) ← (gridStride (block / tokenTiles) 2 g.totalNblocks).foldlM
    (fun (s : List Write × SharedMemory Uint4) globalNblock => do
      let (own, shared) ← g.runTask (g.selectTask (block % tokenTiles) globalNblock) s.2
      pure (s.1 ++ own, shared)) ([], SharedMemory.empty.barrier)
  pure writes

def run : Option (List Write) :=
  g.blockOrder.foldlM (fun writes block => do
    let own ← g.runBlock block
    pure (writes ++ own)) []

section Launch

def hasSupportedTopology : Bool :=
  let rows := g.partitions.map Partition.rows
  decide ((g.columns = 5120 ∧ rows = [10240, 6144]) ∨
    (g.columns = 5120 ∧ rows = [12288, 1024, 1024]) ∨ (g.columns = 6144 ∧ rows = [5120]))

def sidecarRange (part : Partition F) : ℕ × ℕ := (part.sidecarAddress, part.rows * g.columns)

def outputRange (count : ℕ) (part : Partition F) : ℕ × ℕ :=
  (part.outputAddress, count * part.rows * 2)

def rangesOverlap (p q : ℕ × ℕ) : Bool := byteRangesOverlap p.1 p.2 q.1 q.2

def partitionInvalid (activationsAddress count : ℕ) (prior : List (Partition F))
    (part : Partition F) : Bool :=
  let activationRange := (activationsAddress, count * g.columns * 2)
  decide (part.sidecarAddress = 0 ∨ part.outputAddress = 0) ||
    !g.finiteNonnegative part.weightScale ||
    decide (part.rows = 0 ∨ part.rows % outputColumnsPerBlock ≠ 0) ||
    !pointerIsAligned part.sidecarAddress 16 || !pointerIsAligned part.outputAddress 4 ||
    decide ((2 ^ 64 - 1) / g.columns < part.rows ∨ (2 ^ 64 - 1) / (count * 2) < part.rows) ||
    rangesOverlap (g.sidecarRange part) activationRange ||
    rangesOverlap (g.sidecarRange part) (outputRange count part) ||
    rangesOverlap activationRange (outputRange count part) ||
    prior.any (fun other =>
      rangesOverlap (g.sidecarRange part) (g.sidecarRange other) ||
        rangesOverlap (g.sidecarRange part) (outputRange count other) ||
        rangesOverlap (outputRange count part) (g.sidecarRange other) ||
        rangesOverlap (outputRange count part) (outputRange count other)) ||
    decide (2 ^ 32 - 1 - (prior.map Partition.nblocks).sum < part.nblocks)

def invalid (activationsAddress count : ℕ) : Bool :=
  decide (g.partitions.length = 0 ∨ 3 < g.partitions.length ∨ count ≠ tokenCount) ||
    !g.hasSupportedTopology || !pointerIsAligned activationsAddress 16 ||
    (List.range g.partitions.length).any fun i =>
      g.partitionInvalid activationsAddress count (g.partitions.take i) (g.partition i)

-- `none` is `cudaErrorInvalidValue`.
def launchSm87Fp8PrefillSupermatrixGemmBf16 (activationsAddress count : ℕ) :
    Option (Option (List Write)) :=
  if g.invalid activationsAddress count then none else some g.run

end Launch

end Gemm

end Qwen3xOrin.Fp8
