import Mathlib.Tactic

/-! The bound weights of the model: the projections of every decoder layer with the views that
the sidecars add to them. -/

namespace Qwen3xOrin.Weights

-- Addresses are numbers; the null pointer is 0.
def pointerMaximum : ℕ := 2 ^ 64 - 1

def denseLayerCount : ℕ := 64
def linearAttentionLayerCount : ℕ := 48
def fullAttentionLayerCount : ℕ := 16

section Floats

-- A float is given by its bits.
def isFinite (bits : UInt32) : Bool := bits &&& 0x7f800000 ≠ 0x7f800000

def isNaN (bits : UInt32) : Bool :=
  bits &&& 0x7f800000 = 0x7f800000 ∧ bits &&& 0x007fffff ≠ 0

def equalsZero (bits : UInt32) : Bool := bits &&& 0x7fffffff = 0

def belowZero (bits : UInt32) : Bool :=
  bits &&& 0x80000000 ≠ 0 ∧ equalsZero bits = false ∧ isNaN bits = false

def atLeastZero (bits : UInt32) : Bool := isNaN bits = false ∧ belowZero bits = false

end Floats

section Packed

inductive P40PackedRole
  | nvfp4GateUp
  | nvfp4Down
  | fp8LinearQkvZ
  | fp8FullQkv
  | fp8AttentionOutput
  | count
  | invalid
  deriving DecidableEq, Repr

inductive P40PackedTactic
  | nvfp4GateUpM64N256K64Gm4
  | nvfp4DownM64N128K64AMajor
  | fp8WideM64N128K64Gm4
  | fp8FullQkvMixedPersistent
  | fp8SmallKvM64N64K128Gm4
  | fp8OutputM64N128K64Gm3
  | invalid
  deriving DecidableEq, Repr

def p40PackedMaximumSources : ℕ := 3

structure P40PackedView where
  payload : ℕ := 0
  payloadBytes : ℕ := 0
  artifactIdentity : ℕ := 0
  role : P40PackedRole := .invalid
  tactic : P40PackedTactic := .invalid
  sourceCount : ℕ := 0
  scalarScales : Vector UInt32 p40PackedMaximumSources := Vector.replicate _ 0
  deriving DecidableEq, Repr

def emptyP40PackedArtifactView (view : P40PackedView) : Bool :=
  view.payload = 0 ∧ view.payloadBytes = 0 ∧ view.artifactIdentity = 0 ∧ view.role = .invalid ∧
    view.tactic = .invalid ∧ view.sourceCount = 0 ∧ view.scalarScales.toList.all equalsZero

end Packed

section Parity

def parityManifestVersion : ℕ := 1

abbrev ParityDigest := Vector UInt8 32

inductive ParityRole
  | invalid
  | gateUp
  | down
  deriving DecidableEq, Repr

inductive ParityLayout
  | invalid
  | canonicalGateThenUp
  | canonicalDown
  deriving DecidableEq, Repr

inductive ParitySourceRole
  | invalid
  | gate
  | up
  | down
  deriving DecidableEq, Repr

structure ParitySourceManifest where
  role : ParitySourceRole := .invalid
  tensorIdentity : ℕ := 0
  weightDigest : ParityDigest := Vector.replicate _ 0
  scaleDigest : ParityDigest := Vector.replicate _ 0
  globalScaleBits : UInt32 := 0
  deriving DecidableEq, Repr

structure ParityArtifactManifest where
  version : ℕ := parityManifestVersion
  layerIndex : ℕ := 0
  role : ParityRole := .invalid
  layout : ParityLayout := .invalid
  outputFeatures : ℕ := 0
  inputFeatures : ℕ := 0
  weightBytes : ℕ := 0
  scaleBytes : ℕ := 0
  artifactIdentity : ℕ := 0
  transformationDigest : ParityDigest := Vector.replicate _ 0
  sourceCount : ℕ := 0
  firstSource : ParitySourceManifest := {}
  secondSource : ParitySourceManifest := {}
  deriving DecidableEq, Repr

structure ParityView where
  weight : ℕ := 0
  scales : ℕ := 0
  globalScale : ℕ := 0
  manifest : ParityArtifactManifest := {}
  deriving DecidableEq, Repr

def digestPresent (digest : ParityDigest) : Bool := digest.toList.any (· ≠ 0)

def sourceManifestEmpty (source : ParitySourceManifest) : Bool :=
  source.role = .invalid ∧ source.tensorIdentity = 0 ∧ digestPresent source.weightDigest = false ∧
    digestPresent source.scaleDigest = false ∧ source.globalScaleBits = 0

def emptyNvFp4MarlinP40ParityView (view : ParityView) : Bool :=
  view.weight = 0 ∧ view.scales = 0 ∧ view.globalScale = 0 ∧
    view.manifest.version = parityManifestVersion ∧ view.manifest.layerIndex = 0 ∧
    view.manifest.role = .invalid ∧ view.manifest.layout = .invalid ∧
    view.manifest.outputFeatures = 0 ∧ view.manifest.inputFeatures = 0 ∧
    view.manifest.weightBytes = 0 ∧ view.manifest.scaleBytes = 0 ∧
    view.manifest.artifactIdentity = 0 ∧
    digestPresent view.manifest.transformationDigest = false ∧ view.manifest.sourceCount = 0 ∧
    sourceManifestEmpty view.manifest.firstSource ∧ sourceManifestEmpty view.manifest.secondSource

end Parity

section Weights

inductive MarlinGateUpLayout
  | unbound
  | canonicalGateThenUp
  | interleavedGateUp
  | canonicalSourceOnly
  deriving DecidableEq, Repr

structure Bf16LinearWeight where
  weight : ℕ := 0
  outputSize : ℕ := 0
  inputSize : ℕ := 0
  deriving DecidableEq, Repr

structure Fp8LinearWeight where
  weight : ℕ := 0
  weightScaleDevice : ℕ := 0
  inputScaleDevice : ℕ := 0
  weightScale : UInt32 := 0
  inputScale : UInt32 := 0
  outputSize : ℕ := 0
  inputSize : ℕ := 0
  m1Aosoa4PreswizzledWeight : ℕ := 0
  prefillQkvRegisterFeedSidecar : ℕ := 0
  prefillSupermatrixSidecar : ℕ := 0
  prefillMarlinWeight : ℕ := 0
  prefillMarlinScales : ℕ := 0
  prefillP40PackedArtifact : P40PackedView := {}
  deriving DecidableEq, Repr

structure NvFp4LinearWeight where
  packedWeight : ℕ := 0
  blockScale : ℕ := 0
  weightScale2Device : ℕ := 0
  inputScaleDevice : ℕ := 0
  weightScale2 : UInt32 := 0
  inputScale : UInt32 := 0
  outputSize : ℕ := 0
  inputSize : ℕ := 0
  downScale6Sidecar : ℕ := 0
  downScale6Base : ℕ := 0
  downConsumerOrderWeight : ℕ := 0
  decodeGateUpCoupledFeedSidecar : ℕ := 0
  prefillMarlinGateUpLayout : MarlinGateUpLayout := .unbound
  prefillMarlinWeight : ℕ := 0
  prefillMarlinScales : ℕ := 0
  prefillMarlinGlobalScale : ℕ := 0
  prefillP40PackedArtifact : P40PackedView := {}
  prefillP40VllmMarlinParity : ParityView := {}
  deriving DecidableEq, Repr

inductive LinearWeight
  | bf16 (weight : Bf16LinearWeight)
  | fp8 (weight : Fp8LinearWeight)
  | nvfp4 (weight : NvFp4LinearWeight)
  deriving DecidableEq, Repr

def LinearWeight.asFp8 : LinearWeight → Option Fp8LinearWeight
  | fp8 weight => some weight
  | _ => none

def LinearWeight.asNvFp4 : LinearWeight → Option NvFp4LinearWeight
  | nvfp4 weight => some weight
  | _ => none

-- What a pointer to one alternative of the variant writes.
def LinearWeight.mapFp8 (f : Fp8LinearWeight → Fp8LinearWeight) : LinearWeight → LinearWeight
  | fp8 weight => fp8 (f weight)
  | weight => weight

def LinearWeight.mapNvFp4 (f : NvFp4LinearWeight → NvFp4LinearWeight) :
    LinearWeight → LinearWeight
  | nvfp4 weight => nvfp4 (f weight)
  | weight => weight

structure DenseMlpWeights where
  gateProj : LinearWeight
  upProj : LinearWeight
  downProj : LinearWeight
  deriving DecidableEq, Repr

structure LinearAttentionWeights where
  inProjQkv : LinearWeight
  inProjZ : LinearWeight
  inProjA : LinearWeight
  inProjB : LinearWeight
  outProj : LinearWeight
  deriving DecidableEq, Repr

structure FullAttentionWeights where
  qProj : LinearWeight
  kProj : LinearWeight
  vProj : LinearWeight
  oProj : LinearWeight
  deriving DecidableEq, Repr

inductive AttentionWeights
  | linear (weights : LinearAttentionWeights)
  | full (weights : FullAttentionWeights)
  deriving DecidableEq, Repr

structure DecoderLayerWeights where
  mlp : DenseMlpWeights
  attention : AttentionWeights
  deriving DecidableEq, Repr

structure ModelWeights where
  lmHead : LinearWeight
  layers : Fin denseLayerCount → DecoderLayerWeights
  deriving DecidableEq

end Weights

section Payloads

def hasValidFp8Payload (weight : Fp8LinearWeight) : Bool :=
  weight.weight ≠ 0 ∧ weight.weightScaleDevice ≠ 0 ∧ weight.inputScaleDevice ≠ 0 ∧
    isFinite weight.weightScale ∧ atLeastZero weight.weightScale ∧
    isFinite weight.inputScale ∧ atLeastZero weight.inputScale

def hasValidNvFp4Payload (weight : NvFp4LinearWeight) : Bool :=
  weight.packedWeight ≠ 0 ∧ weight.blockScale ≠ 0 ∧ weight.weightScale2Device ≠ 0 ∧
    weight.inputScaleDevice ≠ 0 ∧ isFinite weight.weightScale2 ∧
    atLeastZero weight.weightScale2 ∧ isFinite weight.inputScale ∧ atLeastZero weight.inputScale

-- A binding of one kind with a valid payload that passes a further test.
def fp8Where (test : Fp8LinearWeight → Bool) (weight : LinearWeight) : Bool :=
  weight.asFp8.any fun weight => hasValidFp8Payload weight && test weight

def nvFp4Where (test : NvFp4LinearWeight → Bool) (weight : LinearWeight) : Bool :=
  weight.asNvFp4.any fun weight => hasValidNvFp4Payload weight && test weight

def Fp8LinearWeight.hasShape (outputSize inputSize : ℕ) (weight : Fp8LinearWeight) : Bool :=
  weight.outputSize = outputSize ∧ weight.inputSize = inputSize

def NvFp4LinearWeight.hasShape (outputSize inputSize : ℕ) (weight : NvFp4LinearWeight) : Bool :=
  weight.outputSize = outputSize ∧ weight.inputSize = inputSize

end Payloads

section Projections

inductive AttentionSlot
  | qkv
  | z
  | out
  | q
  | k
  | v
  | o
  deriving DecidableEq, Repr

-- The grouped projections of a layer, in the order of its kind of attention.
def AttentionWeights.slots : AttentionWeights → List AttentionSlot
  | linear _ => [.qkv, .z, .out]
  | full _ => [.q, .k, .v, .o]

def AttentionWeights.binding : AttentionWeights → AttentionSlot → Option LinearWeight
  | linear weights, .qkv => some weights.inProjQkv
  | linear weights, .z => some weights.inProjZ
  | linear weights, .out => some weights.outProj
  | full weights, .q => some weights.qProj
  | full weights, .k => some weights.kProj
  | full weights, .v => some weights.vProj
  | full weights, .o => some weights.oProj
  | _, _ => none

def AttentionWeights.mapSlots (f : AttentionSlot → LinearWeight → LinearWeight) :
    AttentionWeights → AttentionWeights
  | linear weights =>
    linear
      { weights with
        inProjQkv := f .qkv weights.inProjQkv
        inProjZ := f .z weights.inProjZ
        outProj := f .out weights.outProj }
  | full weights =>
    full ⟨f .q weights.qProj, f .k weights.kProj, f .v weights.vProj, f .o weights.oProj⟩

def AttentionWeights.output : AttentionWeights → LinearWeight
  | linear weights => weights.outProj
  | full weights => weights.oProj

inductive MlpSlot
  | gate
  | up
  | down
  deriving DecidableEq, Repr

def DenseMlpWeights.binding (weights : DenseMlpWeights) : MlpSlot → LinearWeight
  | .gate => weights.gateProj
  | .up => weights.upProj
  | .down => weights.downProj

def DenseMlpWeights.mapSlots (f : MlpSlot → LinearWeight → LinearWeight)
    (weights : DenseMlpWeights) : DenseMlpWeights :=
  ⟨f .gate weights.gateProj, f .up weights.upProj, f .down weights.downProj⟩

def mlpSlots : List MlpSlot := [.gate, .up, .down]

def DecoderLayerWeights.mapFp8 (f : AttentionSlot → Fp8LinearWeight → Fp8LinearWeight)
    (layer : DecoderLayerWeights) : DecoderLayerWeights :=
  { layer with attention := layer.attention.mapSlots fun slot => LinearWeight.mapFp8 (f slot) }

def DecoderLayerWeights.mapNvFp4 (f : MlpSlot → NvFp4LinearWeight → NvFp4LinearWeight)
    (layer : DecoderLayerWeights) : DecoderLayerWeights :=
  { layer with mlp := layer.mlp.mapSlots fun slot => LinearWeight.mapNvFp4 (f slot) }

def ModelWeights.mapLayers (f : Fin denseLayerCount → DecoderLayerWeights → DecoderLayerWeights)
    (weights : ModelWeights) : ModelWeights :=
  { weights with layers := fun layer => f layer (weights.layers layer) }

-- Writes through pointers into one layer.
def ModelWeights.modifyLayer (index : ℕ) (f : DecoderLayerWeights → DecoderLayerWeights)
    (weights : ModelWeights) : ModelWeights :=
  weights.mapLayers fun layer weights => if layer.val = index then f weights else weights

end Projections

end Qwen3xOrin.Weights
