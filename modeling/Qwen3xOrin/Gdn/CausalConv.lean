import Mathlib.Tactic

/-! The causal convolution in front of the gated delta net: the kernel that updates one token, and
the kernels that take a tile, a whole span, or a span cut into tiles of eight tokens. Floating-point
operations are parameters. -/

namespace Qwen3xOrin.Gdn

def gdnQkvChannels : ℕ := 10240
def gdnConvHistoryWidth : ℕ := 3
def gdnConvKernelWidth : ℕ := 4
def gdnMaximumTileTokenCount : ℕ := 16
def gdnHeadDimension : ℕ := 128
def maximumTokenCount : ℕ := 512
def threads : ℕ := 256
def blocks : ℕ := gdnQkvChannels / threads
def tokenTile : ℕ := 8
def qkHeadDimension : ℕ := 128
def qkHeadCount : ℕ := 16
def chunkSize : ℕ := 64

structure FloatOps (𝔽 : Type) where
  decodeBf16 : UInt16 → 𝔽
  encodeBf16 : 𝔽 → UInt16
  zero : 𝔽
  one : 𝔽
  headDimension : 𝔽
  fmaf : 𝔽 → 𝔽 → 𝔽 → 𝔽
  add : 𝔽 → 𝔽 → 𝔽
  mul : 𝔽 → 𝔽 → 𝔽
  div : 𝔽 → 𝔽 → 𝔽
  neg : 𝔽 → 𝔽
  expf : 𝔽 → 𝔽
  rsqrtf : 𝔽 → 𝔽
  finitePositive : 𝔽 → Bool

inductive Access
  | read (pointer index : ℕ)
  | write (pointer index : ℕ)
  deriving DecidableEq, Repr

-- `shared` is the memory of the block that runs; `log` is the accesses to global memory.
structure Device where
  memory : ℕ → UInt16
  shared : ℕ → UInt16 := fun _ => 0
  log : List Access := []

abbrev KernelM := StateM Device

def load (pointer index : ℕ) : KernelM UInt16 := fun device =>
  (device.memory (pointer + index),
    { device with log := device.log ++ [.read pointer index] })

def store (pointer index : ℕ) (value : UInt16) : KernelM Unit := fun device =>
  ((), { device with
    memory := Function.update device.memory (pointer + index) value
    log := device.log ++ [.write pointer index] })

def storeShared (index : ℕ) (value : UInt16) : KernelM Unit := fun device =>
  ((), { device with shared := Function.update device.shared index value })

structure ConvBuffers where
  raw : ℕ
  weight : ℕ
  history : ℕ
  output : ℕ
  compactQ : ℕ := 0
  compactK : ℕ := 0
  deriving DecidableEq, Repr

structure Weights (𝔽 : Type) where
  weight0 : 𝔽
  weight1 : 𝔽
  weight2 : 𝔽
  weight3 : 𝔽

structure History where
  history0 : UInt16
  history1 : UInt16
  history2 : UInt16

def History.push (history : History) (current : UInt16) : History :=
  ⟨history.history1, history.history2, current⟩

section Kernels

variable {𝔽 : Type} (ops : FloatOps 𝔽) (b : ConvBuffers)

def FloatOps.convolve (w : Weights 𝔽) (history : History) (current : UInt16) : UInt16 :=
  let convolution := ops.zero
  let convolution := ops.fmaf (ops.decodeBf16 history.history0) w.weight0 convolution
  let convolution := ops.fmaf (ops.decodeBf16 history.history1) w.weight1 convolution
  let convolution := ops.fmaf (ops.decodeBf16 history.history2) w.weight2 convolution
  let convolution := ops.fmaf (ops.decodeBf16 current) w.weight3 convolution
  ops.encodeBf16 (ops.div convolution (ops.add ops.one (ops.expf (ops.neg convolution))))

def loadWeights (channel : ℕ) : KernelM (Weights 𝔽) := do
  let weight0 ← load b.weight (channel * gdnConvKernelWidth)
  let weight1 ← load b.weight (channel * gdnConvKernelWidth + 1)
  let weight2 ← load b.weight (channel * gdnConvKernelWidth + 2)
  let weight3 ← load b.weight (channel * gdnConvKernelWidth + 3)
  pure ⟨ops.decodeBf16 weight0, ops.decodeBf16 weight1, ops.decodeBf16 weight2,
    ops.decodeBf16 weight3⟩

def loadHistory (channel : ℕ) : KernelM History := do
  let history0 ← load b.history (channel * gdnConvHistoryWidth)
  let history1 ← load b.history (channel * gdnConvHistoryWidth + 1)
  let history2 ← load b.history (channel * gdnConvHistoryWidth + 2)
  pure ⟨history0, history1, history2⟩

def storeHistory (channel : ℕ) (history : History) : KernelM Unit := do
  store b.history (channel * gdnConvHistoryWidth) history.history0
  store b.history (channel * gdnConvHistoryWidth + 1) history.history1
  store b.history (channel * gdnConvHistoryWidth + 2) history.history2

-- One token of one channel, with the weights taken from registers or from memory.
def convToken (channel : ℕ) (weights : KernelM (Weights 𝔽)) (history : History) (token : ℕ) :
    KernelM (UInt16 × History) := do
  let current ← load b.raw (token * gdnQkvChannels + channel)
  let w ← weights
  let bits := ops.convolve w history current
  store b.output (token * gdnQkvChannels + channel) bits
  pure (bits, history.push current)

def causalConv1dSiluUpdateChannel (channel : ℕ) : KernelM Unit := do
  let current ← load b.raw channel
  let history ← loadHistory b channel
  let w ← loadWeights ops b channel
  store b.output channel (ops.convolve w history current)
  let history1 ← load b.history (channel * gdnConvHistoryWidth + 1)
  store b.history (channel * gdnConvHistoryWidth) history1
  let history2 ← load b.history (channel * gdnConvHistoryWidth + 2)
  store b.history (channel * gdnConvHistoryWidth + 1) history2
  store b.history (channel * gdnConvHistoryWidth + 2) current

def causalConv1dSiluUpdateTileChannel (tokenCount channel : ℕ) : KernelM Unit := do
  let history ← loadHistory b channel
  let history ← (List.range tokenCount).foldlM (fun history token => do
    let result ← convToken ops b channel (loadWeights ops b channel) history token
    pure result.2) history
  storeHistory b channel history

def causalConv1dSiluUpdateWholeSpanChannel (tokenCount channel : ℕ) : KernelM Unit := do
  let w ← loadWeights ops b channel
  let history ← loadHistory b channel
  let history ← (List.range tokenCount).foldlM (fun history token => do
    let result ← convToken ops b channel (pure w) history token
    pure result.2) history
  storeHistory b channel history

-- The loop `for (channel = start; channel < limit; channel += stride)`.
def gridStride (start stride limit : ℕ) : List ℕ :=
  ((List.range limit).map fun turn => start + turn * stride).filter (· < limit)

lemma mem_gridStride {start stride limit i : ℕ} (hstart : start < stride) :
    i ∈ gridStride start stride limit ↔ i < limit ∧ i % stride = start := by
  rw [gridStride, List.mem_filter, List.mem_map, decide_eq_true_eq, and_comm]
  refine and_congr_right fun hi => ⟨?_, fun hmod => ?_⟩
  · rintro ⟨turn, -, rfl⟩
    rw [Nat.add_mul_mod_self_right, Nat.mod_eq_of_lt hstart]
  · refine ⟨i / stride, List.mem_range.mpr ((Nat.div_le_self _ _).trans_lt hi), ?_⟩
    rw [← hmod, Nat.mul_comm, Nat.mod_add_div]

lemma gridStride_nodup {start stride limit : ℕ} (hstride : 0 < stride) :
    (gridStride start stride limit).Nodup := by
  refine (List.nodup_range.map fun x y hxy => ?_).filter _
  exact Nat.eq_of_mul_eq_mul_right hstride (Nat.add_left_cancel hxy)

def stridedThread (body : ℕ → KernelM Unit) (block thread : ℕ) : KernelM Unit :=
  (gridStride (block * threads + thread) (threads * blocks) gdnQkvChannels).forM body

def causalConv1dSiluUpdateKernel (block : ℕ) : KernelM Unit :=
  (List.range threads).forM (stridedThread (causalConv1dSiluUpdateChannel ops b) block)

def causalConv1dSiluUpdateTileKernel (tokenCount block : ℕ) : KernelM Unit :=
  (List.range threads).forM
    (stridedThread (causalConv1dSiluUpdateTileChannel ops b tokenCount) block)

def causalConv1dSiluUpdateWholeSpanKernel (tokenCount block : ℕ) : KernelM Unit :=
  (List.range threads).forM fun thread =>
    causalConv1dSiluUpdateWholeSpanChannel ops b tokenCount (block * threads + thread)

-- The first tile retains the incoming history and publishes the final one.
def publishHistory (tokenCount channel : ℕ) (history : History) : KernelM Unit := do
  let offset := channel * gdnConvHistoryWidth
  if gdnConvHistoryWidth ≤ tokenCount then
    let raw0 ← load b.raw ((tokenCount - 3) * gdnQkvChannels + channel)
    store b.history offset raw0
    let raw1 ← load b.raw ((tokenCount - 2) * gdnQkvChannels + channel)
    store b.history (offset + 1) raw1
    let raw2 ← load b.raw ((tokenCount - 1) * gdnQkvChannels + channel)
    store b.history (offset + 2) raw2
  else if tokenCount = 2 then
    store b.history offset history.history2
    let raw0 ← load b.raw channel
    store b.history (offset + 1) raw0
    let raw1 ← load b.raw (gdnQkvChannels + channel)
    store b.history (offset + 2) raw1
  else
    store b.history offset history.history1
    store b.history (offset + 1) history.history2
    let raw0 ← load b.raw channel
    store b.history (offset + 2) raw0

def tileHistory (tokenCount channel tokenBase : ℕ) : KernelM History := do
  if tokenBase = 0 then
    let history ← loadHistory b channel
    publishHistory b tokenCount channel history
    pure history
  else if tokenBase < tokenCount then
    let priorBase := (tokenBase - 3) * gdnQkvChannels + channel
    let history0 ← load b.raw priorBase
    let history1 ← load b.raw (priorBase + gdnQkvChannels)
    let history2 ← load b.raw (priorBase + 2 * gdnQkvChannels)
    pure ⟨history0, history1, history2⟩
  else pure ⟨0, 0, 0⟩

-- A token of a tile; `share` stages its result for the block.
def tokenTileStep (tokenCount : ℕ) (share : Bool) (channel thread tokenBase : ℕ) (w : Weights 𝔽)
    (history : History) (localToken : ℕ) : KernelM History := do
  if tokenBase + localToken < tokenCount then
    let result ← convToken ops b channel (pure w) history (tokenBase + localToken)
    if share then storeShared (localToken * threads + thread) result.1
    pure result.2
  else pure history

def tokenTileThread (tokenCount : ℕ) (share : Bool) (channelBlock tile thread : ℕ) :
    KernelM Unit := do
  let channel := channelBlock * threads + thread
  let tokenBase := tile * tokenTile
  let w ← loadWeights ops b channel
  let history ← tileHistory b tokenCount channel tokenBase
  let _ ← (List.range tokenTile).foldlM
    (tokenTileStep ops b tokenCount share channel thread tokenBase w) history

def causalConv1dSiluUpdateTokenParallelKernel (tokenCount channelBlock tile : ℕ) :
    KernelM Unit :=
  (List.range threads).forM (tokenTileThread ops b tokenCount false channelBlock tile)

end Kernels

section CompactQk

variable {𝔽 : Type} (ops : FloatOps 𝔽) (b : ConvBuffers)

-- A lane past the end of the warp reads its own value.
def shflDown (values : ℕ → 𝔽) (offset lane : ℕ) : 𝔽 :=
  if lane + offset < 32 then values (lane + offset) else values lane

def warpSum (values : ℕ → 𝔽) : ℕ → 𝔽 :=
  [16, 8, 4, 2, 1].foldl (fun sum offset lane => ops.add (sum lane) (shflDown sum offset lane))
    values

def compactDestination (token qkHead : ℕ) : ℕ :=
  ((token / chunkSize * qkHeadCount + qkHead) * chunkSize + token % chunkSize) * qkHeadDimension

-- One warp owns one token of the tile and both heads of the block.
def compactQkWarp (tokenCount : ℕ) (l2Epsilon : 𝔽) (channelBlock tile warp : ℕ) :
    KernelM Unit :=
  (List.range 2).forM fun headInBlock => do
    let device ← get
    let token := tile * tokenTile + warp
    let value := fun lane item =>
      if token < tokenCount then
        ops.decodeBf16
          (device.shared (warp * threads + headInBlock * qkHeadDimension + (lane + item * 32)))
      else ops.zero
    let squareSum := warpSum ops fun lane =>
      ops.add
        (ops.add (ops.mul (value lane 0) (value lane 0)) (ops.mul (value lane 2) (value lane 2)))
        (ops.add (ops.mul (value lane 1) (value lane 1)) (ops.mul (value lane 3) (value lane 3)))
    let scale := ops.rsqrtf (ops.add (squareSum 0) l2Epsilon)
    let scale := if channelBlock < 8 then ops.mul scale (ops.rsqrtf ops.headDimension) else scale
    let qkHead := channelBlock % 8 * 2 + headInBlock
    (List.range 32).forM fun lane =>
      (List.range 4).forM fun item =>
        store (if channelBlock < 8 then b.compactQ else b.compactK)
          (compactDestination token qkHead + (lane + item * 32))
          (ops.encodeBf16 (ops.mul (value lane item) scale))

-- `stale` is what the shared memory holds when the block starts.
def causalConv1dSiluUpdateTokenParallelCompactQkKernel (tokenCount : ℕ) (l2Epsilon : 𝔽)
    (stale : ℕ → UInt16) (channelBlock tile : ℕ) : KernelM Unit := do
  modify fun device => { device with shared := stale }
  (List.range threads).forM
    (tokenTileThread ops b tokenCount (decide (channelBlock < 16)) channelBlock tile)
  if channelBlock < 16 then
    (List.range 8).forM (compactQkWarp ops b tokenCount l2Epsilon channelBlock tile)

end CompactQk

section Scalar

variable {𝔽 : Type} (ops : FloatOps 𝔽)

-- The reduction in shared memory of the kernel that updates one token.
def scalarSquareSum (values : ℕ → 𝔽) : 𝔽 :=
  [64, 32, 16, 8, 4, 2, 1].foldl (fun (sums : ℕ → 𝔽) stride dimension =>
    if dimension < stride then ops.add (sums dimension) (sums (dimension + stride))
    else sums dimension) (fun dimension => ops.mul (values dimension) (values dimension)) 0

def normalizedQ (l2Epsilon : 𝔽) (values : ℕ → 𝔽) (dimension : ℕ) : 𝔽 :=
  ops.mul (values dimension)
    (ops.mul (ops.rsqrtf (ops.add (scalarSquareSum ops values) l2Epsilon))
      (ops.rsqrtf ops.headDimension))

def normalizedK (l2Epsilon : 𝔽) (values : ℕ → 𝔽) (dimension : ℕ) : 𝔽 :=
  ops.mul (values dimension) (ops.rsqrtf (ops.add (scalarSquareSum ops values) l2Epsilon))

end Scalar

section Launch

variable {𝔽 : Type} (ops : FloatOps 𝔽) (b : ConvBuffers)

def invalidAlias : Bool :=
  decide (b.raw = b.weight ∨ b.raw = b.history ∨ b.weight = b.history ∨ b.weight = b.output ∨
    b.history = b.output)

def nullBuffer : Bool := decide (b.raw = 0 ∨ b.weight = 0 ∨ b.history = 0 ∨ b.output = 0)

-- The blocks of a launch in the order in which they run.
def runBlocks (order : List (ℕ × ℕ)) (kernel : ℕ → ℕ → KernelM Unit) (device : Device) : Device :=
  order.foldl (fun device block => (kernel block.1 block.2 device).2) device

def grid (width height : ℕ) : List (ℕ × ℕ) := (List.range width).product (List.range height)

-- `none` is `cudaErrorInvalidValue`. The dimensions a caller passes are checked against the fixed
-- ones.
def launchCausalConv1dSiluUpdate (validDimensions : Bool) (order : List (ℕ × ℕ))
    (device : Device) : Option Device :=
  if !validDimensions || nullBuffer b || invalidAlias b then none
  else some (runBlocks order (fun block _ => causalConv1dSiluUpdateKernel ops b block) device)

def launchCausalConv1dSiluUpdateTile (tokenCount : ℕ) (validDimensions : Bool)
    (order : List (ℕ × ℕ)) (device : Device) : Option Device :=
  if tokenCount = 1 then launchCausalConv1dSiluUpdate ops b validDimensions order device
  else if decide (tokenCount = 0 ∨ gdnMaximumTileTokenCount < tokenCount) || !validDimensions ||
      nullBuffer b || invalidAlias b then none
  else some (runBlocks order
    (fun block _ => causalConv1dSiluUpdateTileKernel ops b tokenCount block) device)

def launchCausalConv1dSiluUpdateWholeSpan (tokenCount : ℕ) (order : List (ℕ × ℕ))
    (device : Device) : Option Device :=
  if decide (tokenCount = 0 ∨ maximumTokenCount < tokenCount) || nullBuffer b ||
      invalidAlias b then none
  else some (runBlocks order
    (fun block _ => causalConv1dSiluUpdateWholeSpanKernel ops b tokenCount block) device)

def launchCausalConv1dSiluUpdateTokenParallel (tokenCount : ℕ) (order : List (ℕ × ℕ))
    (device : Device) : Option Device :=
  if decide (tokenCount = 0 ∨ maximumTokenCount < tokenCount) || nullBuffer b ||
      decide (b.raw = b.output) || invalidAlias b then none
  else some (runBlocks order
    (causalConv1dSiluUpdateTokenParallelKernel ops b tokenCount) device)

def tokenTiles (tokenCount : ℕ) : ℕ := (tokenCount + tokenTile - 1) / tokenTile

def paddedTokenCount (tokenCount : ℕ) : ℕ := (tokenCount + chunkSize - 1) / chunkSize * chunkSize

def invalidCompactQkArguments (tokenCount maximum : ℕ) (l2Epsilon : 𝔽) : Bool :=
  decide (tokenCount = 0 ∨ maximum < tokenCount) || nullBuffer b ||
    decide (b.compactQ = 0 ∨ b.compactK = 0) || !ops.finitePositive l2Epsilon ||
    decide (b.raw = b.output ∨ b.compactQ = b.compactK ∨
      b.compactQ = b.raw ∨ b.compactQ = b.weight ∨ b.compactQ = b.history ∨
      b.compactQ = b.output ∨ b.compactK = b.raw ∨ b.compactK = b.weight ∨
      b.compactK = b.history ∨ b.compactK = b.output) ||
    invalidAlias b

def launchCompactQkImpl (tokenCount maximum : ℕ) (l2Epsilon : 𝔽)
    (stale : ℕ × ℕ → ℕ → UInt16) (order : List (ℕ × ℕ)) (device : Device) : Option Device :=
  if invalidCompactQkArguments ops b tokenCount maximum l2Epsilon then none
  else some (runBlocks order (fun channelBlock tile =>
    causalConv1dSiluUpdateTokenParallelCompactQkKernel ops b tokenCount l2Epsilon
      (stale (channelBlock, tile)) channelBlock tile) device)

end Launch

end Qwen3xOrin.Gdn
