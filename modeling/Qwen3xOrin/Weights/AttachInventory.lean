import Qwen3xOrin.Weights.Attach

/-! The calls that attach a complete inventory of artifacts, one for each layer and role. -/

namespace Qwen3xOrin.Weights

def mlpRows : ℕ := 17408
def mlpHidden : ℕ := 5120

def mlpShape : MlpSlot → ℕ × ℕ
  | .gate => (mlpRows, mlpHidden)
  | .up => (mlpRows, mlpHidden)
  | .down => (mlpHidden, mlpRows)

def mlpWhere (layer : DecoderLayerWeights) (test : MlpSlot → NvFp4LinearWeight → Bool) : Bool :=
  mlpSlots.all fun slot => nvFp4Where (test slot) (layer.mlp.binding slot)

def mlpHasShape (slot : MlpSlot) (weight : NvFp4LinearWeight) : Bool :=
  weight.hasShape (mlpShape slot).1 (mlpShape slot).2

section CoupledFeed

def gateUpCoupledFeedBytesPerProjection : ℕ := mlpRows * (mlpHidden / 2 + mlpHidden / 16)

def gateUpCoupledFeedBytesPerLayer : ℕ := 2 * gateUpCoupledFeedBytesPerProjection

def gateUpCoupledFeedBytes : ℕ := denseLayerCount * gateUpCoupledFeedBytesPerLayer

def setCoupledFeed (gate up : ℕ) (slot : MlpSlot) (weight : NvFp4LinearWeight) :
    NvFp4LinearWeight :=
  match slot with
  | .gate => { weight with decodeGateUpCoupledFeedSidecar := gate }
  | .up => { weight with decodeGateUpCoupledFeedSidecar := up }
  | .down => weight

def attachNvFp4GateUpCoupledFeedSidecars (arena arenaBytes : ℕ) (weights : ModelWeights) :
    Attached :=
  if arena = 0 ∨ arenaBytes = 0 then
    if arena ≠ 0 ∨ arenaBytes ≠ 0 then (false, weights)
    else (true, weights.updateNvFp4 fun _ => setCoupledFeed 0 0)
  else if arenaBytes ≠ gateUpCoupledFeedBytes ∨ arenaFits arena arenaBytes 16 = false then
    (false, weights)
  else if weights.everyLayer (fun layer => [MlpSlot.gate, .up].all fun slot =>
      nvFp4Where (mlpHasShape slot) (layer.mlp.binding slot)) = false then
    (false, weights)
  else
    (true, weights.updateNvFp4 fun layer =>
      let view := arena + layer * gateUpCoupledFeedBytesPerLayer
      setCoupledFeed view (view + gateUpCoupledFeedBytesPerProjection))

end CoupledFeed

section Marlin

structure MarlinDescriptor where
  layerIndex : ℕ := 0
  gateUpLayout : MarlinGateUpLayout := .unbound
  gateUpWeight : ℕ := 0
  gateUpScales : ℕ := 0
  gateUpGlobalScale : ℕ := 0
  downWeight : ℕ := 0
  downScales : ℕ := 0
  downGlobalScale : ℕ := 0
  deriving DecidableEq, Repr

def setMarlin (layout : MarlinGateUpLayout) (view scales globalScale : ℕ)
    (weight : NvFp4LinearWeight) : NvFp4LinearWeight :=
  { weight with
    prefillMarlinGateUpLayout := layout
    prefillMarlinWeight := view
    prefillMarlinScales := scales
    prefillMarlinGlobalScale := globalScale }

def clearMarlin (weights : ModelWeights) : ModelWeights :=
  weights.updateNvFp4 fun _ _ => setMarlin .unbound 0 0 0

-- The layout of Down is left as the detached one.
def marlinViews (descriptor : MarlinDescriptor) (slot : MlpSlot) (weight : NvFp4LinearWeight) :
    NvFp4LinearWeight :=
  match slot with
  | .gate | .up =>
    setMarlin descriptor.gateUpLayout descriptor.gateUpWeight descriptor.gateUpScales
      descriptor.gateUpGlobalScale weight
  | .down =>
    setMarlin weight.prefillMarlinGateUpLayout descriptor.downWeight descriptor.downScales
      descriptor.downGlobalScale weight

def publishMarlin (weights : ModelWeights) (descriptor : MarlinDescriptor) : ModelWeights :=
  weights.modifyLayer descriptor.layerIndex
    (DecoderLayerWeights.mapNvFp4 (marlinViews descriptor))

-- The layout without Gate and Up sidecars exists only in the builds of the whole-core service.
def marlinDescriptorFits (wholeCoreService : Bool) (descriptor : MarlinDescriptor) : Bool :=
  let sourceOnly := wholeCoreService && descriptor.gateUpLayout = .canonicalSourceOnly
  (if sourceOnly then
      descriptor.gateUpWeight = 0 ∧ descriptor.gateUpScales = 0 ∧ descriptor.gateUpGlobalScale = 0
    else
      descriptor.gateUpWeight ≠ 0 ∧ descriptor.gateUpScales ≠ 0 ∧
        descriptor.gateUpGlobalScale ≠ 0) ∧
    (descriptor.gateUpLayout = .canonicalGateThenUp ∨
      descriptor.gateUpLayout = .interleavedGateUp ∨ sourceOnly) ∧
    descriptor.downWeight ≠ 0 ∧ descriptor.downScales ≠ 0 ∧ descriptor.downGlobalScale ≠ 0 ∧
    descriptor.gateUpWeight % 16 = 0 ∧ descriptor.gateUpScales % 16 = 0 ∧
    descriptor.gateUpGlobalScale % 4 = 0 ∧ descriptor.downWeight % 16 = 0 ∧
    descriptor.downScales % 16 = 0 ∧ descriptor.downGlobalScale % 4 = 0

def checkMarlin (wholeCoreService : Bool) (weights : ModelWeights) (seen : ℕ → Bool)
    (descriptor : MarlinDescriptor) : Option (ℕ → Bool) :=
  if denseLayerCount ≤ descriptor.layerIndex ∨ seen descriptor.layerIndex ∨
      marlinDescriptorFits wholeCoreService descriptor = false ∨
      weights.layerWhere descriptor.layerIndex (fun layer => mlpWhere layer fun slot weight =>
        mlpHasShape slot weight &&
          emptyNvFp4MarlinP40ParityView weight.prefillP40VllmMarlinParity) = false then
    none
  else some (Function.update seen descriptor.layerIndex true)

def attachNvFp4MarlinPrefillSidecars (wholeCoreService : Bool)
    (descriptors : Option (ℕ → MarlinDescriptor)) (descriptorCount : ℕ)
    (weights : ModelWeights) : Attached :=
  if descriptorCount = 0 then
    if descriptors.isSome then (false, weights) else (true, clearMarlin weights)
  else
    match descriptors with
    | none => (false, weights)
    | some descriptors =>
      if descriptorCount ≠ denseLayerCount then (false, weights)
      else
        let items := (List.range descriptorCount).map descriptors
        match items.foldlM (checkMarlin wholeCoreService weights) (fun _ => false) with
        | none => (false, weights)
        | some seen =>
          if (List.range denseLayerCount).any (fun layer => !seen layer) then (false, weights)
          else (true, items.foldl publishMarlin (clearMarlin weights))

end Marlin

section Packed

structure P40PackedDescriptor where
  layerIndex : ℕ := 0
  view : P40PackedView := {}
  deriving DecidableEq, Repr

structure P40PackedPlan where
  tactic : P40PackedTactic
  sourceCount : ℕ
  payloadBytes : ℕ
  deriving DecidableEq, Repr

-- The bytes of the cells of one source.
def p40PackedPartitionBytes (outputFeatures inputFeatures tileN tileK warps weightBits
    scaleGroupSize : ℕ) : ℕ :=
  let columnsPerWarp := tileN / warps
  let fragmentWeightBytes := columnsPerWarp * 16 * weightBits / 8
  let fragmentScaleBytes := if scaleGroupSize = 0 then 0 else columnsPerWarp
  let cellBytes := tileK / 16 * warps * (fragmentWeightBytes + fragmentScaleBytes)
  outputFeatures / tileN * (inputFeatures / tileK) * cellBytes

def p40PackedProjectionPlan : P40PackedRole → Option P40PackedPlan
  | .nvfp4GateUp =>
    some ⟨.nvfp4GateUpM64N256K64Gm4, 2, 2 * p40PackedPartitionBytes 17408 5120 128 64 4 4 16⟩
  | .nvfp4Down =>
    some ⟨.nvfp4DownM64N128K64AMajor, 1, p40PackedPartitionBytes 5120 17408 128 64 4 4 16⟩
  | .fp8LinearQkvZ =>
    some ⟨.fp8WideM64N128K64Gm4, 2, p40PackedPartitionBytes 10240 5120 128 64 4 8 0 +
      p40PackedPartitionBytes 6144 5120 128 64 4 8 0⟩
  | .fp8FullQkv =>
    some ⟨.fp8FullQkvMixedPersistent, 3, p40PackedPartitionBytes 12288 5120 128 64 4 8 0 +
      p40PackedPartitionBytes 1024 5120 64 128 4 8 0 +
      p40PackedPartitionBytes 1024 5120 64 128 4 8 0⟩
  | .fp8AttentionOutput =>
    some ⟨.fp8OutputM64N128K64Gm3, 1, p40PackedPartitionBytes 5120 6144 128 64 4 8 0⟩
  | .count | .invalid => none

example : [P40PackedRole.nvfp4GateUp, .nvfp4Down, .fp8LinearQkvZ, .fp8FullQkv,
    .fp8AttentionOutput].filterMap (fun role =>
      (p40PackedProjectionPlan role).map P40PackedPlan.payloadBytes) =
    [100270080, 50135040, 83886080, 73400320, 31457280] := by decide

def p40PackedPayloadAlignment : ℕ := 256

def p40PackedIsFullLayer (layerIndex : ℕ) : Bool :=
  layerIndex < denseLayerCount ∧ (layerIndex + 1) % 4 = 0

def packedRoleSlot : P40PackedRole → Option ℕ
  | .nvfp4GateUp => some 0
  | .nvfp4Down => some 1
  | .fp8LinearQkvZ => some 2
  | .fp8FullQkv => some 2
  | .fp8AttentionOutput => some 3
  | .count | .invalid => none

def packedNvFp4RoleSlot : P40PackedRole → Option ℕ
  | .nvfp4GateUp => some 0
  | .nvfp4Down => some 1
  | _ => none

-- A grouped input artifact is the one of the layer's kind of attention.
def packedInputFits (descriptor : P40PackedDescriptor) (slot : ℕ) : Bool :=
  slot ≠ 2 ∨ descriptor.view.role =
    if p40PackedIsFullLayer descriptor.layerIndex then .fp8FullQkv else .fp8LinearQkvZ

def scalarScalesFit (view : P40PackedView) : Bool :=
  view.scalarScales.toList.zipIdx.all fun scale =>
    if scale.2 < view.sourceCount then isFinite scale.1 && !belowZero scale.1
    else equalsZero scale.1

def packedViewFits (view : P40PackedView) (plan : P40PackedPlan) : Bool :=
  view.payload ≠ 0 ∧ view.payloadBytes = plan.payloadBytes ∧ view.artifactIdentity ≠ 0 ∧
    view.tactic = plan.tactic ∧ view.sourceCount = plan.sourceCount ∧
    view.payload % p40PackedPayloadAlignment = 0 ∧
    view.payloadBytes ≤ pointerMaximum - view.payload ∧ scalarScalesFit view

structure ViewTable (ν : Type) where
  seen : ℕ → ℕ → Bool := fun _ _ => false
  views : ℕ → ℕ → ν
  ranges : List (ℕ × ℕ) := []
  identities : List ℕ := []

def overlaps (first second : ℕ × ℕ) : Bool := first.1 < second.2 ∧ second.1 < first.2

def setAt {ν : Type} (table : ℕ → ℕ → ν) (layer slot : ℕ) (value : ν) : ℕ → ℕ → ν :=
  Function.update table layer (Function.update (table layer) slot value)

def checkPacked (roleSlot : P40PackedRole → Option ℕ) (table : ViewTable P40PackedView)
    (descriptor : P40PackedDescriptor) : Option (ViewTable P40PackedView) := do
  let view := descriptor.view
  let slot ← roleSlot view.role
  let plan ← p40PackedProjectionPlan view.role
  if denseLayerCount ≤ descriptor.layerIndex ∨ table.seen descriptor.layerIndex slot ∨
      packedInputFits descriptor slot = false ∨ packedViewFits view plan = false then
    none
  else
    let range := (view.payload, view.payload + view.payloadBytes)
    if view.artifactIdentity ∈ table.identities ∨ table.ranges.any (overlaps · range) then none
    else
      some
        { seen := setAt table.seen descriptor.layerIndex slot true
          views := setAt table.views descriptor.layerIndex slot view
          ranges := table.ranges ++ [range]
          identities := table.identities ++ [view.artifactIdentity] }

def allSeen {ν : Type} (table : ViewTable ν) (slots : ℕ) : Bool :=
  (List.range denseLayerCount).all fun layer => (List.range slots).all (table.seen layer)

def setPackedNvFp4 (gateUp down : P40PackedView) (slot : MlpSlot) (weight : NvFp4LinearWeight) :
    NvFp4LinearWeight :=
  match slot with
  | .gate | .up => { weight with prefillP40PackedArtifact := gateUp }
  | .down => { weight with prefillP40PackedArtifact := down }

def setPackedFp8 (input output : P40PackedView) (slot : AttentionSlot)
    (weight : Fp8LinearWeight) : Fp8LinearWeight :=
  if isOutput slot then { weight with prefillP40PackedArtifact := output }
  else { weight with prefillP40PackedArtifact := input }

def attentionWhere (layer : DecoderLayerWeights) (test : LinearWeight → Bool) : Bool :=
  layer.attention.slots.all fun slot => (layer.attention.binding slot).any test

def clearPackedNvFp4 (weights : ModelWeights) : ModelWeights :=
  weights.updateNvFp4 fun _ => setPackedNvFp4 {} {}

def clearPacked (weights : ModelWeights) : ModelWeights :=
  (clearPackedNvFp4 weights).updateFp8 fun _ => setPackedFp8 {} {}

def publishPackedNvFp4 (views : ℕ → ℕ → P40PackedView) (weights : ModelWeights) : ModelWeights :=
  weights.updateNvFp4 fun layer => setPackedNvFp4 (views layer 0) (views layer 1)

def publishPacked (views : ℕ → ℕ → P40PackedView) (weights : ModelWeights) : ModelWeights :=
  (publishPackedNvFp4 views weights).updateFp8 fun layer =>
    setPackedFp8 (views layer 2) (views layer 3)

def packedLayerFits (layer : DecoderLayerWeights) : Bool :=
  mlpWhere layer (fun _ weight => weight.prefillMarlinWeight = 0 ∧
      emptyNvFp4MarlinP40ParityView weight.prefillP40VllmMarlinParity) ∧
    attentionWhere layer (fp8Where fun weight =>
      weight.prefillSupermatrixSidecar = 0 ∧ weight.prefillMarlinWeight = 0)

def p40PackedArtifactCount : ℕ := 256

def attachP40PackedProjectionSidecars (descriptors : Option (ℕ → P40PackedDescriptor))
    (descriptorCount : ℕ) (weights : ModelWeights) : Attached :=
  match descriptors with
  | none => if descriptorCount = 0 then (true, clearPacked weights) else (false, weights)
  | some descriptors =>
    if descriptorCount ≠ p40PackedArtifactCount then (false, weights)
    else
      match ((List.range descriptorCount).map descriptors).foldlM (checkPacked packedRoleSlot)
          { views := fun _ _ => {} } with
      | none => (false, weights)
      | some table =>
        if allSeen table 4 = false ∨ weights.everyLayer packedLayerFits = false then
          (false, weights)
        else (true, publishPacked table.views (clearPacked weights))

def marlinUnbound (slot : MlpSlot) (weight : NvFp4LinearWeight) : Bool :=
  (slot = .down ∨ weight.prefillMarlinGateUpLayout = .unbound) ∧
    weight.prefillMarlinWeight = 0 ∧ weight.prefillMarlinScales = 0 ∧
    weight.prefillMarlinGlobalScale = 0

def fp8PackedViewsEmpty (binding : LinearWeight) : Bool :=
  binding.asFp8.any fun weight => emptyP40PackedArtifactView weight.prefillP40PackedArtifact

def packedNvFp4LayerFits (layer : DecoderLayerWeights) : Bool :=
  mlpWhere layer (fun slot weight => mlpHasShape slot weight && marlinUnbound slot weight &&
      emptyNvFp4MarlinP40ParityView weight.prefillP40VllmMarlinParity) ∧
    attentionWhere layer fp8PackedViewsEmpty

def p40PackedNvFp4ArtifactCount : ℕ := 2 * denseLayerCount

def attachP40PackedNvFp4Sidecars (descriptors : Option (ℕ → P40PackedDescriptor))
    (descriptorCount : ℕ) (weights : ModelWeights) : Attached :=
  match descriptors with
  | none => if descriptorCount = 0 then (true, clearPackedNvFp4 weights) else (false, weights)
  | some descriptors =>
    if descriptorCount ≠ p40PackedNvFp4ArtifactCount then (false, weights)
    else
      match ((List.range descriptorCount).map descriptors).foldlM
          (checkPacked packedNvFp4RoleSlot) { views := fun _ _ => {} } with
      | none => (false, weights)
      | some table =>
        if allSeen table 2 = false ∨ weights.everyLayer packedNvFp4LayerFits = false then
          (false, weights)
        else (true, publishPackedNvFp4 table.views (clearPackedNvFp4 weights))

end Packed

section Parity

structure ParityDescriptor where
  layerIndex : ℕ := 0
  view : ParityView := {}
  deriving DecidableEq, Repr

def parityArtifactCount : ℕ := 128
def paritySourceCount : ℕ := 192
def parityGateUpOutput : ℕ := 34816

def makeRange (pointer : ℕ) (bytes alignment : ℕ) : Option (ℕ × ℕ) :=
  if pointer = 0 ∨ bytes = 0 ∨ pointerMaximum < bytes ∨ alignment = 0 ∨ pointer % alignment ≠ 0 ∨
      pointerMaximum - bytes < pointer then
    none
  else some (pointer, pointer + bytes)

-- Ranges are added one by one, each clear of all before it.
def appendRange (against ranges : List (ℕ × ℕ)) (range : ℕ × ℕ) : Option (List (ℕ × ℕ)) :=
  if against.any (overlaps range) ∨ ranges.any (overlaps range) then none
  else some (ranges ++ [range])

def appendSourceRange (ranges : List (ℕ × ℕ)) (payload : ℕ × ℕ × ℕ) :
    Option (List (ℕ × ℕ)) :=
  if paritySourceCount * 3 ≤ ranges.length then none
  else do
    let range ← makeRange payload.1 payload.2.1 payload.2.2
    appendRange [] ranges range

def appendSourceRanges (ranges : List (ℕ × ℕ)) (weight : NvFp4LinearWeight) :
    Option (List (ℕ × ℕ)) :=
  let elements := weight.outputSize * weight.inputSize % 2 ^ 64
  [(weight.packedWeight, elements / 2, 16), (weight.blockScale, elements / 16, 16),
    (weight.weightScale2Device, 4, 4)].foldlM appendSourceRange ranges

def parityTargetFits (slot : MlpSlot) (weight : NvFp4LinearWeight) : Bool :=
  mlpHasShape slot weight && weight.prefillMarlinGateUpLayout = .unbound &&
    marlinUnbound slot weight && emptyP40PackedArtifactView weight.prefillP40PackedArtifact

def mlpWeight (layer : DecoderLayerWeights) (slot : MlpSlot) : Option NvFp4LinearWeight :=
  (layer.mlp.binding slot).asNvFp4

def parityLayer (weights : ModelWeights) (ranges : List (ℕ × ℕ)) (layer : Fin denseLayerCount) :
    Option (List (ℕ × ℕ)) := do
  let layer := weights.layers layer
  let gate ← mlpWeight layer .gate
  let up ← mlpWeight layer .up
  let down ← mlpWeight layer .down
  if mlpWhere layer parityTargetFits = false ∨ gate.weightScale2 ≠ up.weightScale2 then none
  else do
    let ranges ← appendSourceRanges ranges gate
    let ranges ← appendSourceRanges ranges up
    appendSourceRanges ranges down

structure ParityTable extends ViewTable ParityView where
  tensorIdentities : List ℕ := []

def parityRoleFits (manifest : ParityArtifactManifest) : Bool :=
  match manifest.role with
  | .gateUp =>
    manifest.layout = .canonicalGateThenUp ∧ manifest.outputFeatures = parityGateUpOutput ∧
      manifest.inputFeatures = mlpHidden ∧
      manifest.weightBytes = parityGateUpOutput * mlpHidden / 2 ∧
      manifest.scaleBytes = parityGateUpOutput * mlpHidden / 16 ∧ manifest.sourceCount = 2
  | .down =>
    manifest.layout = .canonicalDown ∧ manifest.outputFeatures = mlpHidden ∧
      manifest.inputFeatures = mlpRows ∧ manifest.weightBytes = mlpHidden * mlpRows / 2 ∧
      manifest.scaleBytes = mlpHidden * mlpRows / 16 ∧ manifest.sourceCount = 1 ∧
      sourceManifestEmpty manifest.secondSource
  | .invalid => false

def parityManifestFits (manifest : ParityArtifactManifest) : Bool :=
  manifest.version = parityManifestVersion ∧ manifest.artifactIdentity ≠ 0 ∧
    digestPresent manifest.transformationDigest ∧ parityRoleFits manifest

def parityRoleSlot : ParityRole → Option ℕ
  | .gateUp => some 0
  | .down => some 1
  | .invalid => none

def paritySources (layer : DecoderLayerWeights) (manifest : ParityArtifactManifest) :
    List (ParitySourceManifest × ParitySourceRole × Option NvFp4LinearWeight) :=
  if manifest.role = .gateUp then
    [(manifest.firstSource, .gate, mlpWeight layer .gate),
      (manifest.secondSource, .up, mlpWeight layer .up)]
  else [(manifest.firstSource, .down, mlpWeight layer .down)]

def checkParitySource (identities : List ℕ)
    (entry : ParitySourceManifest × ParitySourceRole × Option NvFp4LinearWeight) :
    Option (List ℕ) := do
  let (source, role, expected) := entry
  let expected ← expected
  if source.role ≠ role ∨ source.tensorIdentity = 0 ∨ digestPresent source.weightDigest = false ∨
      digestPresent source.scaleDigest = false ∨ source.globalScaleBits ≠ expected.weightScale2 ∨
      source.tensorIdentity ∈ identities then
    none
  else some (identities ++ [source.tensorIdentity])

def checkParity (weights : ModelWeights) (sourceRanges : List (ℕ × ℕ)) (table : ParityTable)
    (descriptor : ParityDescriptor) : Option ParityTable := do
  let view := descriptor.view
  let manifest := view.manifest
  let slot ← parityRoleSlot manifest.role
  if h : descriptor.layerIndex < denseLayerCount then
    if manifest.layerIndex ≠ descriptor.layerIndex ∨ table.seen descriptor.layerIndex slot ∨
        parityManifestFits manifest = false ∨ manifest.artifactIdentity ∈ table.identities then
      none
    else do
      let weightRange ← makeRange view.weight manifest.weightBytes 16
      let scaleRange ← makeRange view.scales manifest.scaleBytes 16
      let globalRange ← makeRange view.globalScale 4 4
      let ranges ← [weightRange, scaleRange, globalRange].foldlM
        (appendRange sourceRanges) table.ranges
      let tensorIdentities ← (paritySources (weights.layers ⟨descriptor.layerIndex, h⟩)
        manifest).foldlM checkParitySource table.tensorIdentities
      some
        { seen := setAt table.seen descriptor.layerIndex slot true
          views := setAt table.views descriptor.layerIndex slot view
          ranges := ranges
          identities := table.identities ++ [manifest.artifactIdentity]
          tensorIdentities := tensorIdentities }
  else none

def setParity (gateUp down : ParityView) (slot : MlpSlot) (weight : NvFp4LinearWeight) :
    NvFp4LinearWeight :=
  match slot with
  | .gate | .up => { weight with prefillP40VllmMarlinParity := gateUp }
  | .down => { weight with prefillP40VllmMarlinParity := down }

def clearParity (weights : ModelWeights) : ModelWeights :=
  weights.updateNvFp4 fun _ => setParity {} {}

def attachNvFp4MarlinP40ParitySidecars (descriptors : Option (ℕ → ParityDescriptor))
    (descriptorCount : ℕ) (weights : ModelWeights) : Attached :=
  match descriptors with
  | none => if descriptorCount = 0 then (true, clearParity weights) else (false, weights)
  | some descriptors =>
    if descriptorCount ≠ parityArtifactCount then (false, weights)
    else
      match (List.finRange denseLayerCount).foldlM (parityLayer weights) [] with
      | none => (false, weights)
      | some sourceRanges =>
        if sourceRanges.length ≠ paritySourceCount * 3 then (false, weights)
        else
          match ((List.range descriptorCount).map descriptors).foldlM
              (checkParity weights sourceRanges) { views := fun _ _ => {} } with
          | none => (false, weights)
          | some table =>
            if table.identities.length ≠ parityArtifactCount ∨
                table.tensorIdentities.length ≠ paritySourceCount ∨
                table.ranges.length ≠ parityArtifactCount * 3 ∨
                allSeen table.toViewTable 2 = false then
              (false, weights)
            else
              (true, (clearParity weights).updateNvFp4 fun layer =>
                setParity (table.views layer 0) (table.views layer 1))

end Parity

end Qwen3xOrin.Weights
