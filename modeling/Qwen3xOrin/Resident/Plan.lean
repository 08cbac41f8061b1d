import Qwen3xOrin.Library.Guard
import Qwen3xOrin.Io.Tensor

/-! The resident load plan: shard identities and tensor locators are checked against each other,
then every text tensor gets an aligned place in the arena. -/

namespace Qwen3xOrin.Resident

open Library Io

def residentTensorAlignment : ℕ := 256

inductive TensorCategory
  | text
  | vision
  | mtp
  | unknown
  deriving DecidableEq, Repr

inductive ResidentLoadErrorCode
  | none
  | invalidOption
  | invalidManifest
  | unsafeShardPath
  | duplicateShard
  | missingShardIdentity
  | unexpectedShardIdentity
  | invalidShardIdentity
  | arithmeticOverflow
  | openDirectoryFailed
  | openShardFailed
  | shardNotRegular
  | shardSizeMismatch
  | ioFailure
  | sha256BackendUnavailable
  | sha256Failure
  | sha256Mismatch
  | cudaFailure
  | insufficientDeviceMemory
  | allocationFailure
  deriving DecidableEq, Repr

structure ResidentLoadDiagnostic where
  code : ResidentLoadErrorCode := .none
  message : String := ""
  context : String := ""
  shard : String := ""
  offset : ℕ := 0
  expected : String := ""
  actual : String := ""
  deriving DecidableEq, Repr

structure ShardIdentity where
  filename : String
  fileSize : UInt64 := 0
  sha256 : String
  deriving DecidableEq, Repr

structure TensorLocator where
  category : TensorCategory := .unknown
  shard : String
  fileBegin : UInt64 := 0
  fileEnd : UInt64 := 0
  byteSize : UInt64 := 0
  dtype : DType := .bool
  shape : List UInt64 := []
  deriving DecidableEq, Repr

structure WeightManifestSummary where
  shardCount : UInt64 := 0
  textTensorCount : UInt64 := 0
  rawTextBytes : UInt64 := 0
  arenaAlignment : UInt64 := 0
  estimatedTextArenaBytes : UInt64 := 0

-- The locators in the order of their names, as the ordered map holds them.
structure WeightManifest where
  summary : WeightManifestSummary := {}
  tensors : List (String × TensorLocator)
  sorted : tensors.Pairwise fun a b => a.1 < b.1

structure PlannedTensor where
  name : String
  shard : String
  sourceBegin : ℕ
  sourceEnd : ℕ
  arenaOffset : ℕ
  byteSize : ℕ
  dtype : DType
  shape : List UInt64
  deriving DecidableEq, Repr

structure PlannedShard where
  identity : ShardIdentity
  tensorIndices : List ℕ := []
  copiedBytes : ℕ := 0
  deriving DecidableEq, Repr

structure ResidentLoadPlan where
  arenaBytes : ℕ := 0
  copiedBytes : ℕ := 0
  sourceBytes : ℕ := 0
  tensors : List PlannedTensor := []
  shards : List PlannedShard := []
  deriving DecidableEq, Repr

def startsWith (name start : String) : Bool := start.toList.isPrefixOf name.toList

def classifyTensor (name : String) : TensorCategory :=
  if startsWith name "model.language_model." || startsWith name "lm_head." then .text
  else if startsWith name "model.visual." then .vision
  else if startsWith name "mtp." then .mtp
  else .unknown

def isLowerHexDigest (digest : String) : Bool :=
  decide (digest.toList.length = 64) &&
    digest.toList.all fun c => ('0' ≤ c && c ≤ '9') || ('a' ≤ c && c ≤ 'f')

-- Rounding up to a power of two, which the source writes with a mask.
def alignUp (value alignment : ℕ) : ℕ := (value + (alignment - 1)) / alignment * alignment

def checkedAlignUp (value alignment : ℕ) : Option ℕ :=
  if uint64Max - (alignment - 1) < value then none else some (alignUp value alignment)

def TensorLocator.bits (locator : TensorLocator) : Option ℕ := do
  let elements ← checkedProduct (locator.shape.map UInt64.toNat)
  checkedMultiply elements (bitWidth locator.dtype)

def tensorBytesMatch (locator : TensorLocator) : Bool :=
  match locator.bits with
  | none => false
  | some bits => decide (bits % 8 = 0 ∧ bits / 8 = locator.byteSize.toNat)

def checkIdentity (seen : List ShardIdentity) (identity : ShardIdentity) :
    Except ResidentLoadDiagnostic PUnit :=
  if isSafeRelativeShardPath identity.filename = false then
    .error
      { code := .unsafeShardPath
        message := "shard identity has an unsafe relative path"
        context := identity.filename
        shard := identity.filename }
  else if identity.fileSize.toNat = 0 ∨ isLowerHexDigest identity.sha256 = false then
    .error
      { code := .invalidShardIdentity
        message := "shard identity requires a non-zero size and lowercase SHA-256"
        context := identity.filename
        shard := identity.filename }
  else if ∃ other ∈ seen, other.filename = identity.filename then
    .error
      { code := .duplicateShard
        message := "duplicate shard identity"
        context := identity.filename
        shard := identity.filename }
  else .ok ⟨⟩

def checkIdentities : List ShardIdentity → List ShardIdentity → ℕ → Except ResidentLoadDiagnostic ℕ
  | [], _, sourceBytes => .ok sourceBytes
  | identity :: identities, seen, sourceBytes => do
    checkIdentity seen identity
    match checkedAdd sourceBytes identity.fileSize.toNat with
    | none =>
      .error
        { code := .arithmeticOverflow
          message := "aggregate shard size overflows uint64"
          context := identity.filename
          shard := identity.filename }
    | some sourceBytes => checkIdentities identities (identity :: seen) sourceBytes

def checkTensor (identities : List ShardIdentity) (item : String × TensorLocator) :
    Except ResidentLoadDiagnostic PUnit :=
  let (name, locator) := item
  if isSafeRelativeShardPath locator.shard = false then
    .error
      { code := .unsafeShardPath
        message := "manifest tensor has an unsafe shard path"
        context := name
        shard := locator.shard }
  else match identities.find? fun identity => identity.filename = locator.shard with
    | none =>
      .error
        { code := .missingShardIdentity
          message := "manifest tensor has no authenticated shard identity"
          context := name
          shard := locator.shard }
    | some identity =>
      if locator.fileEnd.toNat ≤ locator.fileBegin.toNat then
        .error
          { code := .arithmeticOverflow
            message :=
              "tensor source end does not follow source begin (possible offset overflow)"
            context := name
            shard := locator.shard
            offset := locator.fileBegin.toNat
            expected := "file_end > file_begin"
            actual := toString locator.fileEnd.toNat }
      else if classifyTensor name = .unknown ∨ locator.category ≠ classifyTensor name ∨
          locator.byteSize.toNat = 0 ∨
          locator.fileEnd.toNat - locator.fileBegin.toNat ≠ locator.byteSize.toNat ∨
          identity.fileSize.toNat < locator.fileEnd.toNat ∨ tensorBytesMatch locator = false then
        .error
          { code := .invalidManifest
            message := "tensor locator is inconsistent with its ABI or shard range"
            context := name
            shard := locator.shard
            offset := locator.fileBegin.toNat }
      else .ok ⟨⟩

def identityMap (identities : List ShardIdentity) : List ShardIdentity :=
  identities.mergeSort fun a b => decide (a.filename ≤ b.filename)

def checkUsed (tensors : List (String × TensorLocator)) (identity : ShardIdentity) :
    Except ResidentLoadDiagnostic PUnit :=
  if ∃ item ∈ tensors, item.2.shard = identity.filename then .ok ⟨⟩
  else
    .error
      { code := .unexpectedShardIdentity
        message := "authenticated shard has no tensor in the manifest"
        context := identity.filename
        shard := identity.filename }

def rangeLe (a b : String × TensorLocator) : Bool :=
  if a.2.fileBegin.toNat ≠ b.2.fileBegin.toNat then
    decide (a.2.fileBegin.toNat < b.2.fileBegin.toNat)
  else if a.2.fileEnd.toNat ≠ b.2.fileEnd.toNat then
    decide (a.2.fileEnd.toNat < b.2.fileEnd.toNat)
  else decide (a.1 ≤ b.1)

def checkNeighbours (shard : String) : List (String × TensorLocator) →
    Except ResidentLoadDiagnostic PUnit
  | a :: b :: ranges =>
    if b.2.fileBegin.toNat < a.2.fileEnd.toNat then
      .error
        { code := .invalidManifest
          message := "tensor source ranges overlap"
          context := b.1
          shard := shard
          offset := b.2.fileBegin.toNat
          expected := a.1 }
    else checkNeighbours shard (b :: ranges)
  | _ => .ok ⟨⟩

def shardRanges (tensors : List (String × TensorLocator)) (shard : String) :
    List (String × TensorLocator) :=
  (tensors.filter fun item => item.2.shard = shard).mergeSort rangeLe

def manifestShards (tensors : List (String × TensorLocator)) : List String :=
  (tensors.map fun item => item.2.shard).dedup.mergeSort

def candidateLe (a b : String × TensorLocator) : Bool :=
  if a.2.shard ≠ b.2.shard then decide (a.2.shard < b.2.shard)
  else if a.2.fileBegin.toNat ≠ b.2.fileBegin.toNat then
    decide (a.2.fileBegin.toNat < b.2.fileBegin.toNat)
  else decide (a.1 ≤ b.1)

def textTensors (tensors : List (String × TensorLocator)) : List (String × TensorLocator) :=
  (tensors.filter fun item => classifyTensor item.1 = .text).mergeSort candidateLe

def plannedTensor (candidate : String × TensorLocator) (arenaOffset : ℕ) : PlannedTensor where
  name := candidate.1
  shard := candidate.2.shard
  sourceBegin := candidate.2.fileBegin.toNat
  sourceEnd := candidate.2.fileEnd.toNat
  arenaOffset := arenaOffset
  byteSize := candidate.2.byteSize.toNat
  dtype := candidate.2.dtype
  shape := candidate.2.shape

def addToShard (candidate : String × TensorLocator) (index : ℕ) (shard : PlannedShard) :
    PlannedShard :=
  if shard.identity.filename = candidate.2.shard then
    { shard with
      tensorIndices := shard.tensorIndices ++ [index]
      copiedBytes := shard.copiedBytes + candidate.2.byteSize.toNat }
  else shard

def placeTensor (plan : ResidentLoadPlan) (candidate : String × TensorLocator) :
    Except ResidentLoadDiagnostic ResidentLoadPlan :=
  let size := candidate.2.byteSize.toNat
  let totals := do
    let allocation ← checkedAlignUp size residentTensorAlignment
    let arenaBytes ← checkedAdd plan.arenaBytes allocation
    let copiedBytes ← checkedAdd plan.copiedBytes size
    pure (allocation, arenaBytes, copiedBytes)
  match totals with
  | none =>
    .error
      { code := .arithmeticOverflow
        message := "text arena or copied-byte total overflows uint64"
        context := candidate.1
        shard := candidate.2.shard
        offset := candidate.2.fileBegin.toNat }
  | some (allocation, arenaBytes, copiedBytes) =>
    if ∃ shard ∈ plan.shards, shard.identity.filename = candidate.2.shard ∧
        checkedAdd shard.copiedBytes size = none then
      .error
        { code := .arithmeticOverflow
          message := "per-shard copied-byte total overflows uint64"
          context := candidate.1
          shard := candidate.2.shard }
    else
      .ok { plan with
        arenaBytes := arenaBytes
        copiedBytes := copiedBytes
        tensors := plan.tensors ++ [plannedTensor candidate (arenaBytes - allocation)]
        shards := plan.shards.map (addToShard candidate plan.tensors.length) }

def placeTensors (plan : ResidentLoadPlan) (candidates : List (String × TensorLocator)) :
    Except ResidentLoadDiagnostic ResidentLoadPlan :=
  candidates.foldlM placeTensor plan

def summaryDisagrees (summary : WeightManifestSummary) (plan : ResidentLoadPlan) : Prop :=
  plan.tensors = [] ∨
    (summary.textTensorCount.toNat ≠ 0 ∧
      summary.textTensorCount.toNat ≠ plan.tensors.length) ∨
    (summary.rawTextBytes.toNat ≠ 0 ∧ summary.rawTextBytes.toNat ≠ plan.copiedBytes) ∨
    (summary.arenaAlignment.toNat ≠ 0 ∧
      summary.arenaAlignment.toNat ≠ residentTensorAlignment) ∨
    (summary.estimatedTextArenaBytes.toNat ≠ 0 ∧
      summary.estimatedTextArenaBytes.toNat ≠ plan.arenaBytes)

instance (summary : WeightManifestSummary) (plan : ResidentLoadPlan) :
    Decidable (summaryDisagrees summary plan) :=
  inferInstanceAs (Decidable (_ ∨ _))

def buildResidentLoadPlan (manifest : WeightManifest) (identities : List ShardIdentity) :
    Except ResidentLoadDiagnostic ResidentLoadPlan :=
  if identities = [] then
    .error
      { code := .invalidShardIdentity
        message := "at least one shard identity is required"
        context := "identities" }
  else do
    let sourceBytes ← checkIdentities identities [] 0
    checkAll (checkTensor identities) manifest.tensors
    checkAll (checkUsed manifest.tensors) (identityMap identities)
    if manifest.summary.shardCount.toNat ≠ 0 ∧
        manifest.summary.shardCount.toNat ≠ (identityMap identities).length then
      .error
        { code := .invalidManifest
          message := "manifest shard count disagrees with authenticated identities"
          context := "summary.shard_count"
          expected := toString (identityMap identities).length
          actual := toString manifest.summary.shardCount.toNat }
    else
      checkAll (fun shard => checkNeighbours shard (shardRanges manifest.tensors shard))
        (manifestShards manifest.tensors)
      let plan ← placeTensors
        { sourceBytes := sourceBytes
          shards := (identityMap identities).map fun identity => { identity := identity } }
        (textTensors manifest.tensors)
      if summaryDisagrees manifest.summary plan then
        .error
          { code := .invalidManifest
            message := "manifest summary disagrees with the deterministic resident plan"
            context := "manifest.summary" }
      else .ok plan

end Qwen3xOrin.Resident
