import Qwen3xOrin.Gdn.CausalConv
import Qwen3xOrin.Library.AsyncCopies
import Qwen3xOrin.Library.Fragments

/-! The projection of the draft layer. Weight rows are the rows of the matrix product, and a ring of
two slots in shared memory feeds it 128 columns at a time. -/

namespace Qwen3xOrin.Mtp

open Library
open Gdn (gridStride)

def draftPrefillBatch : ℕ := 32

-- `unsigned` arithmetic.
def u32 (x : ℕ) : ℕ := x % 2 ^ 32

def swizzled (row col : ℕ) : ℕ := row * 128 + (col ^^^ ((row &&& 7) * 8))

-- The launch of `draft_weight_major<capacity>` and what it is given. `order` is the one in which
-- the threads of a block run between two barriers.
structure DraftLaunch (F : Type) where
  capacity : ℕ
  count : ℕ
  n : ℕ
  k : ℕ
  weights : ℕ → UInt16
  input : ℕ → UInt16
  mma : Mma F
  zero : F
  floatAsUint : F → UInt32
  order : List ℕ
  warpOrder : List ℕ
  blockOrder : List ℕ

namespace DraftLaunch

variable {F : Type} (p : DraftLaunch F)

def blockDim : ℕ := p.capacity * 16

def weightSlot (slot : ℕ) : ℕ := slot * (64 * 128)

def inputSlot (slot : ℕ) : ℕ := 2 * (64 * 128) + slot * (p.capacity * 128)

-- Sixteen bytes, of which those past `validBytes` are zero.
def copy16 (source : ℕ → UInt16) (thread destination offset validBytes : ℕ)
    (shared : SharedMemory UInt16) : Option (SharedMemory UInt16) :=
  (List.range 8).foldlM (fun shared e => shared.issue thread (destination + e)
    (if 2 * e < validBytes then source (offset + e) else 0)) shared

def stageWeights (block tile slot thread : ℕ) (shared : SharedMemory UInt16) :
    Option (SharedMemory UInt16) :=
  (gridStride thread p.blockDim (64 * 16)).foldlM (fun shared i =>
    copy16 p.weights thread (weightSlot slot + swizzled (i / 16) (i % 16 * 8))
      (u32 ((block * 64 + i / 16) * p.k) + u32 (tile * 128) + i % 16 * 8) 16 shared) shared

def stageInput (tile slot thread : ℕ) (shared : SharedMemory UInt16) :
    Option (SharedMemory UInt16) :=
  (gridStride thread p.blockDim (p.capacity * 16)).foldlM (fun shared i =>
    copy16 p.input thread (p.inputSlot slot + swizzled (i / 16) (i % 16 * 8))
      (if i / 16 < p.count then u32 (i / 16 * p.k) + u32 (tile * 128) + i % 16 * 8 else 0)
      (if i / 16 < p.count then 16 else 0) shared) shared

def stageDraft (block tile slot thread : ℕ) (shared : SharedMemory UInt16) :
    Option (SharedMemory UInt16) := do
  let shared ← p.stageWeights block tile slot thread shared
  let shared ← p.stageInput tile slot thread shared
  pure (shared.commit thread)

def stageBlock (block tile slot : ℕ) (shared : SharedMemory UInt16) :
    Option (SharedMemory UInt16) :=
  p.order.foldlM (fun shared thread => p.stageDraft block tile slot thread shared) shared

-- A word of two elements for each lane of a warp.
def loadWord (warp : ℕ) (address : ℕ → ℕ) (shared : SharedMemory UInt16) :
    Option ((ℕ → ℕ → UInt16) × SharedMemory UInt16) := do
  let (low, shared) ← shared.load (warpLanes warp) fun thread => address (thread % 32)
  let (high, shared) ← shared.load (warpLanes warp) fun thread => address (thread % 32) + 1
  pure (fun lane half => if half = 0 then low (warp * 32 + lane) else high (warp * 32 + lane),
    shared)

def draftStep (slot warp : ℕ) (c : ℕ → ℕ → F) (shared : SharedMemory UInt16) (step : ℕ) :
    Option ((ℕ → ℕ → F) × SharedMemory UInt16) := do
  let wr := fun lane => warp % 4 * 16 + lane / 4
  let xr := fun lane => warp / 4 * 8 + lane / 4
  let q := fun lane => step * 16 + lane % 4 * 2
  let w := weightSlot slot
  let x := p.inputSlot slot
  let (a0, shared) ← loadWord warp (fun lane => w + swizzled (wr lane) (q lane)) shared
  let (a1, shared) ← loadWord warp (fun lane => w + swizzled (wr lane + 8) (q lane)) shared
  let (a2, shared) ← loadWord warp (fun lane => w + swizzled (wr lane) (q lane + 8)) shared
  let (a3, shared) ← loadWord warp (fun lane => w + swizzled (wr lane + 8) (q lane + 8)) shared
  let (b0, shared) ← loadWord warp (fun lane => x + swizzled (xr lane) (q lane)) shared
  let (b1, shared) ← loadWord warp (fun lane => x + swizzled (xr lane) (q lane + 8)) shared
  pure (mmaSync p.mma (fourRegisters a0 a1 a2 a3) (twoRegisters b0 b1) c, shared)

structure Registers (F : Type) where
  shared : SharedMemory UInt16
  c : ℕ → ℕ → ℕ → F

def draftWarp (slot : ℕ) (r : Registers F) (warp : ℕ) : Option (Registers F) := do
  let (c, shared) ← (List.range 8).foldlM
    (fun (s : (ℕ → ℕ → F) × SharedMemory UInt16) step => p.draftStep slot warp s.1 s.2 step)
    (r.c warp, r.shared)
  pure ⟨shared, Function.update r.c warp c⟩

def draftTile (block : ℕ) (r : Registers F) (tile : ℕ) : Option (Registers F) := do
  let slot := tile &&& 1
  let r ← p.warpOrder.foldlM (p.draftWarp slot) r
  let shared := r.shared.barrier
  let shared ←
    if tile + 2 < p.k / 128 then do
      let shared ← p.stageBlock block (tile + 2) slot shared
      pure (shared.waitAll p.order 1)
    else pure (shared.waitAll p.order 0)
  pure ⟨shared.barrier, r.c⟩

def rounded (result : F) : UInt16 :=
  let bits : UInt32 := p.floatAsUint result
  if 0x7f800000 < (bits &&& 0x7fffffff) then ((bits >>> 16) ||| 0x40).toUInt16
  else
    let odd : UInt32 := (bits >>> 16) &&& 1
    ((bits + 0x7fff + odd) >>> 16).toUInt16

def results (block : ℕ) (c : ℕ → ℕ → ℕ → F) (thread : ℕ) : List (ℕ × UInt16) :=
  (List.range 4).filterMap fun i =>
    let token := thread / 32 / 4 * 8 + thread % 32 % 4 * 2 + (i &&& 1)
    let row := block * 64 + (thread / 32 % 4 * 16 + thread % 32 / 4) + if 2 ≤ i then 8 else 0
    if token < p.count then
      some (u32 (token * p.n + row), p.rounded (c (thread / 32) (thread % 32) i))
    else none

-- The writes of a block, or `none` where an access races.
def draftWeightMajor (block : ℕ) : Option (List (ℕ × UInt16)) := do
  let shared ← p.stageBlock block 0 0 SharedMemory.empty
  let shared ← p.stageBlock block 1 1 shared
  let shared := (shared.waitAll p.order 1).barrier
  let r ← (List.range (p.k / 128)).foldlM (p.draftTile block) ⟨shared, fun _ _ _ => p.zero⟩
  pure (p.order.flatMap (p.results block r.c))

def run : Option (List (ℕ × UInt16)) :=
  p.blockOrder.foldlM (fun writes block => do
    let own ← p.draftWeightMajor block
    pure (writes ++ own)) []

section Launch

def shape : Bool :=
  decide ((p.n = 5120 ∧ (p.k = 10240 ∨ p.k = 6144 ∨ p.k = 17408)) ∨
    ((p.n = 1024 ∨ p.n = 12288 ∨ p.n = 17408) ∧ p.k = 5120))

def overlap (a na b nb : ℕ) : Bool :=
  decide (2 ^ 64 - 1 - na < a ∨ 2 ^ 64 - 1 - nb < b ∨ (a < b + nb ∧ b < a + na))

-- The addresses of the three tensors are checked, and the byte ranges of what the launch touches.
def invalid (weights input output : ℕ) : Bool :=
  let nw := 2 * p.n * p.k
  let ni := 2 * p.count * p.k
  let no := 2 * p.count * p.n
  decide (weights = 0 ∨ input = 0 ∨ output = 0 ∨ p.count = 0 ∨ draftPrefillBatch < p.count) ||
    !p.shape || decide ((weights ||| input ||| output) &&& 15 ≠ 0) ||
    overlap weights nw input ni || overlap weights nw output no || overlap input ni output no

def withCapacity (capacity : ℕ) : DraftLaunch F := { p with capacity := capacity }

-- `none` is `cudaErrorInvalidValue`.
def launchMtpPrefillProjection (weights input output : ℕ) :
    Option (Option (List (ℕ × UInt16))) :=
  if p.invalid weights input output then none
  else if p.count ≤ 8 then some (p.withCapacity 8).run
  else if p.count ≤ 16 then some (p.withCapacity 16).run
  else some (p.withCapacity 32).run

end Launch

end DraftLaunch

end Qwen3xOrin.Mtp
