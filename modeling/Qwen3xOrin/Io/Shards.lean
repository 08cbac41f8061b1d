import Qwen3xOrin.Io.Tensor
import Qwen3xOrin.Library.Guard
import Qwen3xOrin.Library.Ordered
import Mathlib.Data.String.Basic

/-! The check of a checkpoint index against the headers of its shards. -/

namespace Qwen3xOrin.Io.Safetensors

open Library

-- The codes this check returns itself; a header that is refused brings its own.
inductive ErrorCode
  | invalidOption
  | ioFailure
  | tooManyTensors
  | arithmeticOverflow
  | invalidWeightMap
  | tooManyShards
  | unsafeShardPath
  | shardMissing
  | shardNotRegular
  | shardSetMismatch
  | unexpectedTensor
  | tensorInWrongShard
  | missingIndexedTensor
  | missingTotalSize
  | payloadSizeMismatch
  | header (code : ℕ)
  deriving DecidableEq, Repr

structure Error where
  code : ErrorCode
  offset : ℕ := uint64Max
  context : String := ""
  expected : String := ""
  actual : String := ""
  deriving DecidableEq, Repr

def failure {α : Type} (code : ErrorCode) (context : String) : Except Error α :=
  .error { code := code, context := context }

def failureWith {α : Type} (code : ErrorCode) (context expected actual : String) :
    Except Error α :=
  .error { code := code, context := context, expected := expected, actual := actual }

-- The tensor names of a header, in the order of its map.
structure Header where
  dataSize : ℕ
  tensors : List String
  ordered : tensors.Pairwise (· < ·)

structure ReadOptions where
  maxFileBytes : ℕ := uint64Max
  maxHeaderBytes : ℕ := 100000000
  maxTensors : ℕ := 2000000
  maxRank : ℕ := 64
  deriving DecidableEq, Repr

structure Index where
  weightMap : List (String × String)
  ordered : (weightMap.map Prod.fst).Pairwise (· < ·)
  shards : List String
  totalSize : Option ℕ

structure ShardValidationOptions where
  maxShards : ℕ := 100000
  maxTensors : ℕ := 2000000
  headerOptions : ReadOptions := {}
  deriving DecidableEq, Repr

structure ShardValidationSummary where
  validatedShards : ℕ := 0
  validatedTensors : ℕ := 0
  payloadBytes : ℕ := 0
  deriving DecidableEq, Repr

section Files

inductive FileStatus
  | missing
  | failed (message : String)
  | symlink
  | directory
  | regular
  | other

-- The checkpoint directory: what stands at each path, and what a header there reads as.
structure Checkpoint where
  directory : String
  status : String → FileStatus
  header : ReadOptions → String → Except Error Header

def appendComponent (path component : String) : String :=
  if path.isEmpty || path.endsWith "/" then path ++ component else path ++ "/" ++ component

variable (checkpoint : Checkpoint) (shard : String)

def walkComponents : String → List String → Except Error String
  | path, [] => .ok path
  | path, component :: rest =>
    let path := appendComponent path component
    match checkpoint.status path with
    | .missing => failure .shardMissing shard
    | .failed message => failureWith .ioFailure shard "" message
    | .symlink =>
      failureWith .unsafeShardPath shard "path components contained within checkpoint root" path
    | .directory => if rest ≠ [] then walkComponents path rest else failure .shardNotRegular shard
    | .regular => if rest = [] then walkComponents path rest else failure .shardNotRegular shard
    | .other => failure .shardNotRegular shard

def shardComponents : List String := (shard.toList.splitOn '/').map String.ofList

def openShard (options : ReadOptions) : Except Error Header := do
  let path ← walkComponents checkpoint shard checkpoint.directory (shardComponents shard)
  match checkpoint.header options path with
  | .ok header => .ok header
  | .error error =>
    .error { error with
      actual := error.context
      context := shard
      expected := "valid safetensors shard header" }

end Files

section Validation

variable (options : ShardValidationOptions) (index : Index)

def referenceShard (referenced : List String) (mapping : String × String) :
    Except Error (List String) :=
  if mapping.1 = "" ∨ mapping.2 = "" then failure .invalidWeightMap mapping.1
  else if isSafeRelativeShardPath mapping.2 = false then failure .unsafeShardPath mapping.2
  else
    let referenced := OrderedSet.insert mapping.2 referenced
    if options.maxShards < referenced.length then failure .tooManyShards mapping.2
    else .ok referenced

def compareShards : List String → List String → Except Error Unit
  | [], _ => .ok ()
  | referenced :: _, [] => failureWith .shardSetMismatch "shards" referenced "<end>"
  | referenced :: rest, stored :: stores =>
    if stored ≠ referenced then failureWith .shardSetMismatch "shards" referenced stored
    else compareShards rest stores

structure ValidationState where
  summary : ShardValidationSummary := {}
  seenTensors : List String := []

def validateTensor (shard : String) (state : ValidationState) (tensor : String) :
    Except Error ValidationState :=
  match index.weightMap.lookup tensor with
  | none =>
    failureWith .unexpectedTensor tensor "tensor present in index weight_map" shard
  | some expected =>
    if expected ≠ shard then failureWith .tensorInWrongShard tensor expected shard
    else if tensor ∈ state.seenTensors then
      failureWith .unexpectedTensor tensor "tensor stored exactly once"
        "duplicate tensor across shards"
    else if options.maxTensors ≤ state.summary.validatedTensors then
      failure .tooManyTensors tensor
    else
      .ok
        { summary := { state.summary with validatedTensors := state.summary.validatedTensors + 1 }
          seenTensors := tensor :: state.seenTensors }

def validateShard (files : String → Except Error Header) (state : ValidationState)
    (shard : String) : Except Error ValidationState := do
  let header ← files shard
  if options.maxShards ≤ state.summary.validatedShards then failure .tooManyShards shard
  else
    match checkedAdd state.summary.payloadBytes header.dataSize with
    | none => failure .arithmeticOverflow shard
    | some payloadBytes =>
      header.tensors.foldlM (validateTensor options index shard)
        { state with
          summary := { state.summary with
            validatedShards := state.summary.validatedShards + 1
            payloadBytes := payloadBytes } }

def requireSeen (seenTensors : List String) (mapping : String × String) : Except Error Unit :=
  if mapping.1 ∈ seenTensors then .ok ()
  else
    failureWith .missingIndexedTensor mapping.1 mapping.2 "tensor absent from referenced shard"

def headerOptions : ReadOptions :=
  { options.headerOptions with
    maxTensors := min options.headerOptions.maxTensors options.maxTensors }

def validateIndexShards (checkpoint : Checkpoint) : Except Error ShardValidationSummary := do
  if options.maxShards = 0 ∨ options.maxTensors = 0 ∨ options.headerOptions.maxTensors = 0 then
    failure .invalidOption ""
  else if index.weightMap = [] then failure .invalidWeightMap "weight_map"
  else if options.maxTensors < index.weightMap.length then failure .tooManyTensors "weight_map"
  else
    let referenced ← index.weightMap.foldlM (referenceShard options) []
    if index.shards.length ≠ referenced.length then
      failureWith .shardSetMismatch "shards" (toString referenced.length ++ " referenced shards")
        (toString index.shards.length ++ " stored shards")
    else
      compareShards referenced index.shards
      match index.totalSize with
      | none => failure .missingTotalSize "metadata.total_size"
      | some totalSize =>
        let files := fun shard => openShard checkpoint shard (headerOptions options)
        let state ← referenced.foldlM (validateShard options index files) {}
        checkAll (requireSeen state.seenTensors) index.weightMap
        if state.summary.validatedTensors ≠ index.weightMap.length then
          failure .arithmeticOverflow "validated_tensors"
        else if state.summary.payloadBytes ≠ totalSize then
          failureWith .payloadSizeMismatch "metadata.total_size" (toString totalSize)
            (toString state.summary.payloadBytes)
        else .ok state.summary

end Validation

end Qwen3xOrin.Io.Safetensors
