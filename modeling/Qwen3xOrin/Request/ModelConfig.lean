import Qwen3xOrin.Io.Tensor
import Mathlib.Data.Rat.Defs
import Mathlib.Algebra.Order.Ring.Unbundled.Rat

/-! The catalogue of known models and its validation, as far as the memory planners read it. -/

namespace Qwen3xOrin.Request

open Io

inductive ModelSeries
  | qwen35
  | qwen36
  deriving DecidableEq, Repr

inductive ModelTopology
  | dense
  | mixtureOfExperts
  deriving DecidableEq, Repr

inductive KnownModel
  | qwen35Dense27B
  | qwen35Moe35B
  | qwen36Dense27B
  | qwen36Moe35B
  deriving DecidableEq, Repr

def saturatingMultiply (left right : ℕ) : ℕ :=
  if left ≠ 0 ∧ uint64Max / left < right then uint64Max else left * right

def saturatingAdd (left right : ℕ) : ℕ :=
  if uint64Max - left < right then uint64Max else left + right

structure VisionConfig where
  present : Bool := false
  depth : ℕ := 0
  hiddenSize : ℕ := 0
  intermediateSize : ℕ := 0
  numHeads : ℕ := 0
  outHiddenSize : ℕ := 0
  numPositionEmbeddings : ℕ := 0
  patchSize : ℕ := 0
  spatialMergeSize : ℕ := 0
  temporalPatchSize : ℕ := 0
  deriving DecidableEq

-- The two floating constants are kept as rationals, which are all finite.
structure ModelConfig where
  knownModel : KnownModel := .qwen35Dense27B
  series : ModelSeries := .qwen35
  topology : ModelTopology := .dense
  name : String := ""
  hfRepo : String := ""
  hfArchitecture : String := ""
  hfModelType : String := ""
  hfTextModelType : String := ""
  vocabSize : ℕ := 0
  hiddenSize : ℕ := 0
  intermediateSize : ℕ := 0
  numHiddenLayers : ℕ := 0
  maxPositionEmbeddings : ℕ := 0
  rmsNormEps : ℚ := 0
  numAttentionHeads : ℕ := 0
  numKeyValueHeads : ℕ := 0
  headDim : ℕ := 0
  fullAttentionInterval : ℕ := 0
  partialRotaryNumerator : ℕ := 0
  partialRotaryDenominator : ℕ := 0
  ropeTheta : ℚ := 0
  attentionOutputGate : Bool := false
  linearNumKeyHeads : ℕ := 0
  linearKeyHeadDim : ℕ := 0
  linearNumValueHeads : ℕ := 0
  linearValueHeadDim : ℕ := 0
  linearConvKernelDim : ℕ := 0
  numExperts : ℕ := 0
  numExpertsPerToken : ℕ := 0
  moeIntermediateSize : ℕ := 0
  sharedExpertIntermediateSize : ℕ := 0
  mtpNumHiddenLayers : ℕ := 0
  mtpUsesDedicatedEmbeddings : Bool := false
  vision : VisionConfig := {}

namespace ModelConfig

variable (config : ModelConfig)

def isMoe : Bool := config.topology = .mixtureOfExperts

def numFullAttentionLayers : ℕ :=
  if config.fullAttentionInterval = 0 then 0
  else config.numHiddenLayers / config.fullAttentionInterval

def numLinearAttentionLayers : ℕ := config.numHiddenLayers - config.numFullAttentionLayers

def qDim : ℕ := saturatingMultiply config.numAttentionHeads config.headDim

def qProjectionDim : ℕ := saturatingMultiply config.qDim (if config.attentionOutputGate then 2 else 1)

def kvDim : ℕ := saturatingMultiply config.numKeyValueHeads config.headDim

def rotaryDim : ℕ :=
  if config.partialRotaryDenominator = 0 then 0
  else saturatingMultiply config.headDim config.partialRotaryNumerator /
    config.partialRotaryDenominator

def linearQkDim : ℕ := saturatingMultiply config.linearNumKeyHeads config.linearKeyHeadDim

def linearValueDim : ℕ := saturatingMultiply config.linearNumValueHeads config.linearValueHeadDim

def linearValueDimPerKeyHead : ℕ :=
  if config.linearNumKeyHeads = 0 then 0
  else saturatingMultiply (config.linearNumValueHeads / config.linearNumKeyHeads)
    config.linearValueHeadDim

def linearQkvProjectionDim : ℕ :=
  saturatingAdd (saturatingMultiply 2 config.linearQkDim) config.linearValueDim

def linearStateElementsPerLayer : ℕ :=
  saturatingMultiply config.linearQkDim config.linearValueDimPerKeyHead

def derivedDimensionsOverflow : Bool :=
  (config.attentionOutputGate ∧ uint64Max / 2 < config.qDim) ∨
  (uint64Max - config.linearValueDim) / 2 < config.linearQkDim ∨
  (config.linearValueDimPerKeyHead ≠ 0 ∧
    uint64Max / config.linearValueDimPerKeyHead < config.linearQkDim) ∨
  (config.numFullAttentionLayers ≠ 0 ∧
    uint64Max / 2 / config.numFullAttentionLayers < config.kvDim)

end ModelConfig

def makeVisionConfig (outHiddenSize : ℕ) : VisionConfig where
  present := true
  depth := 27
  hiddenSize := 1152
  intermediateSize := 4304
  numHeads := 16
  outHiddenSize := outHiddenSize
  numPositionEmbeddings := 2304
  patchSize := 16
  spatialMergeSize := 2
  temporalPatchSize := 2

def makeDense27B (knownModel : KnownModel) (series : ModelSeries) (name hfRepo : String) :
    ModelConfig where
  knownModel := knownModel
  series := series
  topology := .dense
  name := name
  hfRepo := hfRepo
  hfArchitecture := "Qwen3_5ForConditionalGeneration"
  hfModelType := "qwen3_5"
  hfTextModelType := "qwen3_5_text"
  vocabSize := 248320
  hiddenSize := 5120
  intermediateSize := 17408
  numHiddenLayers := 64
  maxPositionEmbeddings := 262144
  rmsNormEps := 1 / 1000000
  numAttentionHeads := 24
  numKeyValueHeads := 4
  headDim := 256
  fullAttentionInterval := 4
  partialRotaryNumerator := 1
  partialRotaryDenominator := 4
  ropeTheta := 10000000
  attentionOutputGate := true
  linearNumKeyHeads := 16
  linearKeyHeadDim := 128
  linearNumValueHeads := 48
  linearValueHeadDim := 128
  linearConvKernelDim := 4
  mtpNumHiddenLayers := 1
  mtpUsesDedicatedEmbeddings := false
  vision := makeVisionConfig 5120

def makeMoe35B (knownModel : KnownModel) (series : ModelSeries) (name hfRepo : String) :
    ModelConfig where
  knownModel := knownModel
  series := series
  topology := .mixtureOfExperts
  name := name
  hfRepo := hfRepo
  hfArchitecture := "Qwen3_5MoeForConditionalGeneration"
  hfModelType := "qwen3_5_moe"
  hfTextModelType := "qwen3_5_moe_text"
  vocabSize := 248320
  hiddenSize := 2048
  intermediateSize := 0
  numHiddenLayers := 40
  maxPositionEmbeddings := 262144
  rmsNormEps := 1 / 1000000
  numAttentionHeads := 16
  numKeyValueHeads := 2
  headDim := 256
  fullAttentionInterval := 4
  partialRotaryNumerator := 1
  partialRotaryDenominator := 4
  ropeTheta := 10000000
  attentionOutputGate := true
  linearNumKeyHeads := 16
  linearKeyHeadDim := 128
  linearNumValueHeads := 32
  linearValueHeadDim := 128
  linearConvKernelDim := 4
  numExperts := 256
  numExpertsPerToken := 8
  moeIntermediateSize := 512
  sharedExpertIntermediateSize := 512
  mtpNumHiddenLayers := 1
  mtpUsesDedicatedEmbeddings := false
  vision := makeVisionConfig 2048

def knownModelCatalog : List ModelConfig :=
  [makeDense27B .qwen35Dense27B .qwen35 "Qwen3.5-27B" "Qwen/Qwen3.5-27B",
    makeMoe35B .qwen35Moe35B .qwen35 "Qwen3.5-35B-A3B" "Qwen/Qwen3.5-35B-A3B",
    makeDense27B .qwen36Dense27B .qwen36 "Qwen3.6-27B" "Qwen/Qwen3.6-27B",
    makeMoe35B .qwen36Moe35B .qwen36 "Qwen3.6-35B-A3B" "Qwen/Qwen3.6-35B-A3B"]

def findKnownModel (knownModel : KnownModel) : Option ModelConfig :=
  knownModelCatalog.find? (·.knownModel = knownModel)

inductive ConfigValidationError
  | none
  | missingIdentity
  | knownModelIdentityMismatch
  | invalidCoreDimensions
  | invalidAttentionDimensions
  | invalidRotaryDimensions
  | invalidLayerSchedule
  | invalidLinearAttentionDimensions
  | derivedDimensionOverflow
  | invalidDenseMlpDimensions
  | invalidMoeDimensions
  | invalidMtpDimensions
  | invalidVisionDimensions
  deriving DecidableEq, Repr

def matchesKnownModelIdentity (config : ModelConfig) : Bool :=
  (findKnownModel config.knownModel).any fun expected =>
    config.series = expected.series ∧ config.topology = expected.topology ∧
      config.name = expected.name ∧ config.hfRepo = expected.hfRepo ∧
      config.hfArchitecture = expected.hfArchitecture ∧
      config.hfModelType = expected.hfModelType ∧
      config.hfTextModelType = expected.hfTextModelType

def validVision (config : ModelConfig) : Bool :=
  let vision := config.vision
  if vision.present then
    vision.depth ≠ 0 ∧ vision.hiddenSize ≠ 0 ∧ vision.intermediateSize ≠ 0 ∧
      vision.numHeads ≠ 0 ∧ vision.hiddenSize % vision.numHeads = 0 ∧
      vision.outHiddenSize = config.hiddenSize ∧ vision.numPositionEmbeddings ≠ 0 ∧
      vision.patchSize ≠ 0 ∧ vision.spatialMergeSize ≠ 0 ∧ vision.temporalPatchSize ≠ 0
  else vision = {}

def validate (config : ModelConfig) : ConfigValidationError :=
  if config.name = "" ∨ config.hfRepo = "" ∨ config.hfArchitecture = "" ∨
      config.hfModelType = "" ∨ config.hfTextModelType = "" then .missingIdentity
  else if ¬matchesKnownModelIdentity config then .knownModelIdentityMismatch
  else if config.vocabSize = 0 ∨ config.hiddenSize = 0 ∨ config.numHiddenLayers = 0 ∨
      config.maxPositionEmbeddings = 0 ∨ ¬0 < config.rmsNormEps then .invalidCoreDimensions
  else if config.numAttentionHeads = 0 ∨ config.numKeyValueHeads = 0 ∨ config.headDim = 0 ∨
      config.numAttentionHeads % config.numKeyValueHeads ≠ 0 then .invalidAttentionDimensions
  else if config.partialRotaryNumerator = 0 ∨ config.partialRotaryDenominator = 0 ∨
      config.partialRotaryDenominator < config.partialRotaryNumerator ∨
      config.headDim * config.partialRotaryNumerator % config.partialRotaryDenominator ≠ 0 ∨
      config.rotaryDim = 0 ∨ config.headDim < config.rotaryDim ∨ config.rotaryDim % 2 ≠ 0 ∨
      ¬0 < config.ropeTheta then .invalidRotaryDimensions
  else if config.fullAttentionInterval = 0 ∨
      config.numHiddenLayers < config.fullAttentionInterval ∨
      config.numFullAttentionLayers = 0 then .invalidLayerSchedule
  else if config.linearNumKeyHeads = 0 ∨ config.linearKeyHeadDim = 0 ∨
      config.linearNumValueHeads = 0 ∨ config.linearValueHeadDim = 0 ∨
      config.linearConvKernelDim = 0 ∨
      config.linearNumValueHeads % config.linearNumKeyHeads ≠ 0 then
    .invalidLinearAttentionDimensions
  else if config.derivedDimensionsOverflow then .derivedDimensionOverflow
  else if config.topology = .dense ∧ (config.intermediateSize = 0 ∨ config.numExperts ≠ 0 ∨
      config.numExpertsPerToken ≠ 0 ∨ config.moeIntermediateSize ≠ 0 ∨
      config.sharedExpertIntermediateSize ≠ 0) then .invalidDenseMlpDimensions
  else if config.topology ≠ .dense ∧ (config.intermediateSize ≠ 0 ∨ config.numExperts = 0 ∨
      config.numExpertsPerToken = 0 ∨ config.numExperts < config.numExpertsPerToken ∨
      config.moeIntermediateSize = 0 ∨ config.sharedExpertIntermediateSize = 0) then
    .invalidMoeDimensions
  else if config.mtpUsesDedicatedEmbeddings ∧ config.mtpNumHiddenLayers = 0 then
    .invalidMtpDimensions
  else if ¬validVision config then .invalidVisionDimensions
  else .none

lemma knownModelCatalog_valid : ∀ config ∈ knownModelCatalog, validate config = .none := by
  decide +kernel

def layerMajorModel : ModelConfig :=
  makeDense27B .qwen36Dense27B .qwen36 "Qwen3.6-27B" "Qwen/Qwen3.6-27B"

lemma findKnownModel_layerMajor : findKnownModel .qwen36Dense27B = some layerMajorModel := rfl

section Dimensions

@[simp] lemma layerMajorModel_hiddenSize : layerMajorModel.hiddenSize = 5120 := rfl

@[simp] lemma layerMajorModel_intermediateSize : layerMajorModel.intermediateSize = 17408 := rfl

@[simp] lemma layerMajorModel_numAttentionHeads : layerMajorModel.numAttentionHeads = 24 := rfl

@[simp] lemma layerMajorModel_linearNumValueHeads :
    layerMajorModel.linearNumValueHeads = 48 := rfl

@[simp] lemma layerMajorModel_linearConvKernelDim : layerMajorModel.linearConvKernelDim = 4 := rfl

@[simp] lemma layerMajorModel_linearLayers :
    layerMajorModel.numLinearAttentionLayers = 48 := by decide

@[simp] lemma layerMajorModel_fullLayers : layerMajorModel.numFullAttentionLayers = 16 := by decide

@[simp] lemma layerMajorModel_qDim : layerMajorModel.qDim = 6144 := by decide

@[simp] lemma layerMajorModel_qProjectionDim : layerMajorModel.qProjectionDim = 12288 := by decide

@[simp] lemma layerMajorModel_kvDim : layerMajorModel.kvDim = 1024 := by decide

@[simp] lemma layerMajorModel_rotaryDim : layerMajorModel.rotaryDim = 64 := by decide

@[simp] lemma layerMajorModel_linearValueDim : layerMajorModel.linearValueDim = 6144 := by decide

@[simp] lemma layerMajorModel_qkvWidth :
    layerMajorModel.linearQkvProjectionDim = 10240 := by decide

@[simp] lemma layerMajorModel_stateElements :
    layerMajorModel.linearStateElementsPerLayer = 786432 := by decide

end Dimensions

end Qwen3xOrin.Request
