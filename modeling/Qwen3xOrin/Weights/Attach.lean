import Qwen3xOrin.Weights.Binding

/-! The calls that attach sidecars to the bound weights. A call answers whether it was accepted
and leaves the weights as they are after it. -/

namespace Qwen3xOrin.Weights

abbrev Attached := Bool × ModelWeights

def ModelWeights.updateFp8
    (update : Fin denseLayerCount → AttentionSlot → Fp8LinearWeight → Fp8LinearWeight)
    (weights : ModelWeights) : ModelWeights :=
  weights.mapLayers fun layer => DecoderLayerWeights.mapFp8 (update layer)

def ModelWeights.updateNvFp4
    (update : Fin denseLayerCount → MlpSlot → NvFp4LinearWeight → NvFp4LinearWeight)
    (weights : ModelWeights) : ModelWeights :=
  weights.mapLayers fun layer => DecoderLayerWeights.mapNvFp4 (update layer)

def ModelWeights.layerWhere (weights : ModelWeights) (index : ℕ)
    (test : DecoderLayerWeights → Bool) : Bool :=
  if h : index < denseLayerCount then test (weights.layers ⟨index, h⟩) else false

def ModelWeights.everyLayer (weights : ModelWeights) (test : DecoderLayerWeights → Bool) : Bool :=
  (List.finRange denseLayerCount).all fun layer => test (weights.layers layer)

def arenaFits (arena bytes alignment : ℕ) : Bool :=
  arena % alignment = 0 ∧ bytes ≤ pointerMaximum ∧ arena ≤ pointerMaximum - bytes

section OutputProjection

def fp8M1OutputProjectionRows : ℕ := 5120
def fp8M1OutputProjectionColumns : ℕ := 6144

def fp8M1OutputProjectionBytesPerLayer : ℕ :=
  fp8M1OutputProjectionRows * fp8M1OutputProjectionColumns

def fp8M1OutputProjectionBytes : ℕ := denseLayerCount * fp8M1OutputProjectionBytesPerLayer

def isOutput (slot : AttentionSlot) : Bool := slot = .out ∨ slot = .o

def setM1 (view : ℕ) (slot : AttentionSlot) (weight : Fp8LinearWeight) : Fp8LinearWeight :=
  if isOutput slot then { weight with m1Aosoa4PreswizzledWeight := view } else weight

def attachFp8M1OutputProjectionSidecars (arena bytes : ℕ) (weights : ModelWeights) : Attached :=
  if arena = 0 ∨ bytes ≠ fp8M1OutputProjectionBytes ∨ arenaFits arena bytes 16 = false then
    (false, weights)
  else if weights.everyLayer (fun layer => fp8Where
      (Fp8LinearWeight.hasShape fp8M1OutputProjectionRows fp8M1OutputProjectionColumns)
      layer.attention.output) = false then
    (false, weights)
  else
    (true, weights.updateFp8 fun layer =>
      setM1 (arena + layer * fp8M1OutputProjectionBytesPerLayer))

end OutputProjection

section Ranged

structure SidecarDescriptor where
  layerIndex : ℕ := 0
  sidecar : ℕ := 0
  bytes : ℕ := 0
  outputSize : ℕ := 0
  inputSize : ℕ := 0
  deriving DecidableEq, Repr

structure Scale6Descriptor extends SidecarDescriptor where
  scaleBase : ℕ := 0
  deriving DecidableEq, Repr

structure SidecarFamily where
  alignment : ℕ
  bytes : ℕ
  rows : ℕ
  columns : ℕ
  deriving DecidableEq, Repr

structure RangeTable where
  seenLayers : ℕ → Bool := fun _ => false
  ranges : List (ℕ × ℕ) := []

variable {δ : Type}

-- The arena holds the sidecars of all the descriptors and nothing else.
def compactArena (family : SidecarFamily) (arena arenaBytes descriptorCount : ℕ) : Bool :=
  arena ≠ 0 ∧ descriptorCount ≤ pointerMaximum / family.bytes ∧
    arenaBytes = descriptorCount * family.bytes ∧ arenaFits arena arenaBytes family.alignment

def checkSidecar (family : SidecarFamily) (accepts : δ → Bool) (base : δ → SidecarDescriptor)
    (arena arenaEnd : ℕ) (table : RangeTable) (item : δ) : Option RangeTable :=
  let descriptor := base item
  if denseLayerCount ≤ descriptor.layerIndex ∨ table.seenLayers descriptor.layerIndex ∨
      descriptor.sidecar = 0 ∨ descriptor.bytes ≠ family.bytes ∨
      descriptor.outputSize ≠ family.rows ∨ descriptor.inputSize ≠ family.columns ∨
      accepts item = false then
    none
  else if descriptor.sidecar % family.alignment ≠ 0 ∨ descriptor.sidecar < arena ∨
      arenaEnd ≤ descriptor.sidecar ∨ pointerMaximum < descriptor.bytes ∨
      pointerMaximum - descriptor.bytes < descriptor.sidecar then
    none
  else
    let sidecarEnd := descriptor.sidecar + descriptor.bytes
    if arenaEnd < sidecarEnd then none
    else if table.ranges.any fun range => descriptor.sidecar < range.2 ∧ range.1 < sidecarEnd then
      none
    else
      some
        ⟨Function.update table.seenLayers descriptor.layerIndex true,
          table.ranges ++ [(descriptor.sidecar, sidecarEnd)]⟩

def checkSidecars (family : SidecarFamily) (accepts : δ → Bool) (base : δ → SidecarDescriptor)
    (arena arenaBytes : ℕ) (items : List δ) : Option RangeTable :=
  items.foldlM (checkSidecar family accepts base arena (arena + arenaBytes)) {}

-- A call of one family: an empty set detaches, any other replaces what was attached before.
def attachRanged (family : SidecarFamily) (countFits : ℕ → Bool) (accepts : δ → Bool)
    (base : δ → SidecarDescriptor) (clear : ModelWeights → ModelWeights)
    (publish : ModelWeights → δ → ModelWeights) (arena arenaBytes : ℕ)
    (descriptors : Option (ℕ → δ)) (descriptorCount : ℕ) (weights : ModelWeights) : Attached :=
  if descriptorCount = 0 then
    if arena ≠ 0 ∨ arenaBytes ≠ 0 ∨ descriptors.isSome then (false, weights)
    else (true, clear weights)
  else
    match descriptors with
    | none => (false, weights)
    | some descriptors =>
      let items := (List.range descriptorCount).map descriptors
      if countFits descriptorCount = false ∨
          compactArena family arena arenaBytes descriptorCount = false then
        (false, weights)
      else
        match checkSidecars family accepts base arena arenaBytes items with
        | none => (false, weights)
        | some _ => (true, items.foldl publish (clear weights))

section RegisterFeed

def fp8PrefillQkvRegisterFeed : SidecarFamily where
  alignment := 16
  bytes := 52428800
  rows := 10240
  columns := 5120

def setRegisterFeed (view : ℕ) (slot : AttentionSlot) (weight : Fp8LinearWeight) :
    Fp8LinearWeight :=
  if slot = .qkv then { weight with prefillQkvRegisterFeedSidecar := view } else weight

def isLinear : AttentionWeights → Bool
  | .linear _ => true
  | .full _ => false

def qkvFits (attention : AttentionWeights) : Bool :=
  (attention.binding .qkv).any (fp8Where (Fp8LinearWeight.hasShape
    fp8PrefillQkvRegisterFeed.rows fp8PrefillQkvRegisterFeed.columns))

-- The hybrid schedule as the weights have it.
def qkvSchedule (weights : ModelWeights) : Bool :=
  weights.everyLayer (fun layer => !isLinear layer.attention || qkvFits layer.attention) ∧
    (List.finRange denseLayerCount).countP (fun layer =>
      isLinear (weights.layers layer).attention) = linearAttentionLayerCount

def clearRegisterFeed (weights : ModelWeights) : ModelWeights :=
  weights.updateFp8 fun _ => setRegisterFeed 0

def publishRegisterFeed (weights : ModelWeights) (descriptor : SidecarDescriptor) :
    ModelWeights :=
  weights.modifyLayer descriptor.layerIndex
    (DecoderLayerWeights.mapFp8 (setRegisterFeed descriptor.sidecar))

def attachFp8PrefillQkvRegisterFeedSidecars (arena arenaBytes : ℕ)
    (descriptors : Option (ℕ → SidecarDescriptor)) (descriptorCount : ℕ)
    (weights : ModelWeights) : Attached :=
  attachRanged fp8PrefillQkvRegisterFeed
    (fun count => count = linearAttentionLayerCount ∧ qkvSchedule weights)
    (fun descriptor => weights.layerWhere descriptor.layerIndex fun layer =>
      isLinear layer.attention)
    id clearRegisterFeed publishRegisterFeed arena arenaBytes descriptors descriptorCount weights

end RegisterFeed

section Scale6

def nvFp4DownScale6 : SidecarFamily where
  alignment := 32
  bytes := 4177920
  rows := 5120
  columns := 17408

def maximumScaleBase : ℕ := 192

def setScale6 (view : ℕ) (base : ℕ) (slot : MlpSlot) (weight : NvFp4LinearWeight) :
    NvFp4LinearWeight :=
  if slot = .down then { weight with downScale6Sidecar := view, downScale6Base := base }
  else weight

def setConsumerOrder (view : ℕ) (slot : MlpSlot) (weight : NvFp4LinearWeight) :
    NvFp4LinearWeight :=
  if slot = .down then { weight with downConsumerOrderWeight := view } else weight

def downWhere (weights : ModelWeights) (index : ℕ) (test : NvFp4LinearWeight → Bool) : Bool :=
  weights.layerWhere index fun layer => nvFp4Where (fun weight =>
    weight.hasShape nvFp4DownScale6.rows nvFp4DownScale6.columns && test weight)
    layer.mlp.downProj

def clearScale6 (weights : ModelWeights) : ModelWeights :=
  weights.updateNvFp4 fun _ slot weight => setConsumerOrder 0 slot (setScale6 0 0 slot weight)

def publishScale6 (weights : ModelWeights) (descriptor : Scale6Descriptor) : ModelWeights :=
  weights.modifyLayer descriptor.layerIndex
    (DecoderLayerWeights.mapNvFp4 (setScale6 descriptor.sidecar descriptor.scaleBase))

def attachNvFp4DownScale6Sidecars (arena arenaBytes : ℕ)
    (descriptors : Option (ℕ → Scale6Descriptor)) (descriptorCount : ℕ)
    (weights : ModelWeights) : Attached :=
  attachRanged nvFp4DownScale6 (fun count => count ≤ denseLayerCount)
    (fun descriptor => descriptor.scaleBase ≤ maximumScaleBase ∧
      downWhere weights descriptor.layerIndex fun _ => true)
    Scale6Descriptor.toSidecarDescriptor clearScale6 publishScale6 arena arenaBytes descriptors
    descriptorCount weights

def nvFp4DownConsumerOrder : SidecarFamily where
  alignment := 16
  bytes := 5120 * 17408 / 2
  rows := 5120
  columns := 17408

def clearConsumerOrder (weights : ModelWeights) : ModelWeights :=
  weights.updateNvFp4 fun _ => setConsumerOrder 0

def publishConsumerOrder (weights : ModelWeights) (descriptor : SidecarDescriptor) :
    ModelWeights :=
  weights.modifyLayer descriptor.layerIndex
    (DecoderLayerWeights.mapNvFp4 (setConsumerOrder descriptor.sidecar))

-- A projection takes the consumer order only when it has its scales in the packed form.
def attachNvFp4DownConsumerOrderSidecars (arena arenaBytes : ℕ)
    (descriptors : Option (ℕ → SidecarDescriptor)) (descriptorCount : ℕ)
    (weights : ModelWeights) : Attached :=
  attachRanged nvFp4DownConsumerOrder (fun count => count ≤ denseLayerCount)
    (fun descriptor => downWhere weights descriptor.layerIndex fun weight =>
      weight.downScale6Sidecar ≠ 0)
    id clearConsumerOrder publishConsumerOrder arena arenaBytes descriptors descriptorCount
    weights

end Scale6

end Ranged

section Inventory

def slotShape : AttentionSlot → ℕ × ℕ
  | .qkv => (10240, 5120)
  | .z => (6144, 5120)
  | .out => (5120, 6144)
  | .q => (12288, 5120)
  | .k => (1024, 5120)
  | .v => (1024, 5120)
  | .o => (5120, 6144)

def fp8PrefillSupermatrixProjectionCount : ℕ := 208

def fp8PrefillSupermatrixSidecarBytes : ℕ :=
  linearAttentionLayerCount * (10240 * 5120 + 6144 * 5120 + 5120 * 6144) +
    fullAttentionLayerCount * (12288 * 5120 + 2 * (1024 * 5120) + 5120 * 6144)

def fp8MarlinScaleElements : ℕ :=
  linearAttentionLayerCount * (10240 + 6144 + 5120) +
    fullAttentionLayerCount * (12288 + 2 * 1024 + 5120)

def fp8MarlinScaleBytes : ℕ := fp8MarlinScaleElements * 2

-- A pointer to a projection, with what it points to.
structure ProjectionTarget where
  layer : Fin denseLayerCount
  slot : AttentionSlot
  weight : Fp8LinearWeight
  deriving DecidableEq, Repr

structure Fp8Inventory where
  projections : List ProjectionTarget := []
  weightBytes : ℕ := 0
  scaleElements : ℕ := 0
  deriving DecidableEq, Repr

def projectionSlots (weights : ModelWeights) : List (Fin denseLayerCount × AttentionSlot) :=
  (List.finRange denseLayerCount).flatMap fun layer =>
    (weights.layers layer).attention.slots.map fun slot => (layer, slot)

def appendProjection (fits : Fp8Inventory → ℕ → ℕ → Bool) (weights : ModelWeights)
    (inventory : Fp8Inventory) (target : Fin denseLayerCount × AttentionSlot) :
    Option Fp8Inventory := do
  let binding ← (weights.layers target.1).attention.binding target.2
  let weight ← binding.asFp8
  let rows := (slotShape target.2).1
  let columns := (slotShape target.2).2
  if fp8PrefillSupermatrixProjectionCount ≤ inventory.projections.length ∨
      hasValidFp8Payload weight = false ∨ weight.hasShape rows columns = false ∨
      pointerMaximum / columns < rows ∨ fits inventory rows columns = false then
    none
  else
    some
      ⟨inventory.projections ++ [⟨target.1, target.2, weight⟩],
        inventory.weightBytes + rows * columns, inventory.scaleElements + rows⟩

def fp8Projections (fits : Fp8Inventory → ℕ → ℕ → Bool) (weights : ModelWeights) :
    Option Fp8Inventory :=
  (projectionSlots weights).foldlM (appendProjection fits weights) {}

def ModelWeights.modifyProjection (target : ProjectionTarget)
    (f : Fp8LinearWeight → Fp8LinearWeight) (weights : ModelWeights) : ModelWeights :=
  weights.modifyLayer target.layer (DecoderLayerWeights.mapFp8 fun slot =>
    if slot = target.slot then f else id)

section Supermatrix

def setSupermatrix (view : ℕ) (weight : Fp8LinearWeight) : Fp8LinearWeight :=
  { weight with prefillSupermatrixSidecar := view }

def publishSupermatrix (state : ℕ × ModelWeights) (target : ProjectionTarget) :
    ℕ × ModelWeights :=
  (state.1 + target.weight.outputSize * target.weight.inputSize,
    state.2.modifyProjection target (setSupermatrix state.1))

def attachFp8PrefillSupermatrixSidecars (arena arenaBytes : ℕ) (weights : ModelWeights) :
    Attached :=
  if arena = 0 ∧ arenaBytes = 0 then (true, weights.updateFp8 fun _ _ => setSupermatrix 0)
  else if arena = 0 ∨ arenaBytes ≠ fp8PrefillSupermatrixSidecarBytes ∨
      arenaFits arena arenaBytes 16 = false then
    (false, weights)
  else
    match fp8Projections (fun inventory rows columns =>
        rows * columns ≤ arenaBytes - inventory.weightBytes) weights with
    | none => (false, weights)
    | some inventory =>
      if inventory.projections.length ≠ fp8PrefillSupermatrixProjectionCount ∨
          inventory.weightBytes ≠ arenaBytes then
        (false, weights)
      else
        let published := inventory.projections.foldl publishSupermatrix (arena, weights)
        (decide (published.1 = arena + arenaBytes), published.2)

end Supermatrix

section Marlin

def setFp8Marlin (view scales : ℕ) (weight : Fp8LinearWeight) : Fp8LinearWeight :=
  { weight with prefillMarlinWeight := view, prefillMarlinScales := scales }

structure MarlinOffsets where
  weight : ℕ := 0
  scale : ℕ := 0
  deriving DecidableEq, Repr

-- Scales are two bytes wide.
def publishFp8Marlin (weightArena scaleArena : ℕ) (state : MarlinOffsets × ModelWeights)
    (target : ProjectionTarget) : MarlinOffsets × ModelWeights :=
  (⟨state.1.weight + target.weight.outputSize * target.weight.inputSize,
      state.1.scale + target.weight.outputSize⟩,
    state.2.modifyProjection target
      (setFp8Marlin (weightArena + state.1.weight) (scaleArena + 2 * state.1.scale)))

def clearFp8Marlin (weights : ModelWeights) : ModelWeights :=
  weights.updateFp8 fun _ _ => setFp8Marlin 0 0

def attachFp8MarlinPrefillSidecars (weightArena weightArenaBytes scaleArena scaleArenaElements : ℕ)
    (weights : ModelWeights) : Attached :=
  if weightArena = 0 ∧ weightArenaBytes = 0 ∧ scaleArena = 0 ∧ scaleArenaElements = 0 then
    (true, clearFp8Marlin weights)
  else if weightArena = 0 ∨ scaleArena = 0 ∨
      weightArenaBytes ≠ fp8PrefillSupermatrixSidecarBytes ∨
      scaleArenaElements ≠ fp8MarlinScaleElements ∨
      arenaFits weightArena weightArenaBytes 16 = false ∨
      arenaFits scaleArena fp8MarlinScaleBytes 16 = false ∨
      (weightArena < scaleArena + fp8MarlinScaleBytes ∧
        scaleArena < weightArena + weightArenaBytes) then
    (false, weights)
  else
    match fp8Projections (fun inventory rows columns =>
        rows * columns ≤ weightArenaBytes - inventory.weightBytes ∧
          rows ≤ scaleArenaElements - inventory.scaleElements) weights with
    | none => (false, weights)
    | some inventory =>
      if inventory.projections.length ≠ fp8PrefillSupermatrixProjectionCount ∨
          inventory.weightBytes ≠ weightArenaBytes ∨
          inventory.scaleElements ≠ scaleArenaElements then
        (false, weights)
      else
        let published := inventory.projections.foldl (publishFp8Marlin weightArena scaleArena)
          ({}, clearFp8Marlin weights)
        (decide (published.1.weight = weightArenaBytes ∧
          published.1.scale = scaleArenaElements), published.2)

end Marlin

end Inventory

end Qwen3xOrin.Weights
