import Qwen3xOrin.Resident.Plan

/-! Reading a shard in chunks and scattering the text tensors of each chunk into the arena, with
every read, hash and device copy taken to succeed. -/

namespace Qwen3xOrin.Resident

open Library Io

structure ResidentLoadOptions where
  chunkBytes : ℕ
  maxMemcpyOperations : ℕ

-- One asynchronous copy: `bytes` bytes of the shard from file offset `source` on.
structure ScatterCopy where
  shard : String
  source : ℕ
  destination : ℕ
  bytes : ℕ
  deriving DecidableEq, Repr

structure ShardLoadStats where
  bytesRead : ℕ := 0
  bytesCopied : ℕ := 0
  chunks : ℕ := 0
  memcpyOperations : ℕ := 0
  deriving DecidableEq, Repr

structure ShardProgress where
  stats : ShardLoadStats := {}
  copies : List ScatterCopy := []

def shardTensors (plan : ResidentLoadPlan) (shard : PlannedShard) : List PlannedTensor :=
  shard.tensorIndices.filterMap fun index => plan.tensors[index]?

def statisticsOverflow (message context : String) (shard : PlannedShard) (offset : ℕ) :
    ResidentLoadDiagnostic where
  code := .arithmeticOverflow
  message := message
  context := context
  shard := shard.identity.filename
  offset := offset

def copyExceeds (options : ResidentLoadOptions) (shard : PlannedShard) (tensor : PlannedTensor)
    (copyBegin operations : ℕ) : ResidentLoadDiagnostic where
  code := if options.maxMemcpyOperations ≤ operations then .invalidOption else .arithmeticOverflow
  message := "scatter copy exceeds arena or operation limit"
  context := tensor.name
  shard := shard.identity.filename
  offset := copyBegin

def scatter (plan : ResidentLoadPlan) (options : ResidentLoadOptions) (shard : PlannedShard)
    (tensor : PlannedTensor) (copyBegin copyEnd : ℕ) (progress : ShardProgress) :
    Except ResidentLoadDiagnostic ShardProgress :=
  let copyBytes := copyEnd - copyBegin
  match checkedAdd tensor.arenaOffset (copyBegin - tensor.sourceBegin) with
  | none => .error (copyExceeds options shard tensor copyBegin progress.stats.memcpyOperations)
  | some destination =>
    if plan.arenaBytes < destination ∨ plan.arenaBytes - destination < copyBytes ∨
        options.maxMemcpyOperations ≤ progress.stats.memcpyOperations then
      .error (copyExceeds options shard tensor copyBegin progress.stats.memcpyOperations)
    else
      let copies := progress.copies ++
        [{ shard := shard.identity.filename, source := copyBegin, destination := destination
           bytes := copyBytes }]
      match checkedAdd progress.stats.bytesCopied copyBytes,
          checkedAdd progress.stats.memcpyOperations 1 with
      | some bytesCopied, some memcpyOperations =>
        .ok
          { copies := copies
            stats := { progress.stats with
              bytesCopied := bytesCopied, memcpyOperations := memcpyOperations } }
      | _, _ =>
        .error (statisticsOverflow "scatter-copy statistics overflow uint64" tensor.name shard
          copyBegin)

-- The segments of one chunk, from the cursor on.
def copySegments (plan : ResidentLoadPlan) (options : ResidentLoadOptions) (shard : PlannedShard)
    (fileOffset chunkEnd : ℕ) : List PlannedTensor → ShardProgress →
    Except ResidentLoadDiagnostic ShardProgress
  | [], progress => .ok progress
  | tensor :: segments, progress =>
    if chunkEnd ≤ tensor.sourceBegin then .ok progress
    else
      let copyBegin := max tensor.sourceBegin fileOffset
      let copyEnd := min tensor.sourceEnd chunkEnd
      if copyEnd ≤ copyBegin then
        copySegments plan options shard fileOffset chunkEnd segments progress
      else do
        let progress ← scatter plan options shard tensor copyBegin copyEnd progress
        copySegments plan options shard fileOffset chunkEnd segments progress

def advanceCursor (fileOffset : ℕ) (segments : List PlannedTensor) : List PlannedTensor :=
  segments.dropWhile fun tensor => decide (tensor.sourceEnd ≤ fileOffset)

def countChunk (shard : PlannedShard) (fileOffset chunkSize : ℕ) (progress : ShardProgress) :
    Except ResidentLoadDiagnostic (ℕ × ShardProgress) :=
  match checkedAdd fileOffset chunkSize, checkedAdd progress.stats.bytesRead chunkSize,
      checkedAdd progress.stats.chunks 1 with
  | some chunkEnd, some bytesRead, some chunks =>
    .ok (chunkEnd, { progress with
      stats := { progress.stats with bytesRead := bytesRead, chunks := chunks } })
  | _, _, _ =>
    .error (statisticsOverflow "loader statistics overflow uint64" "statistics" shard fileOffset)

-- The chunk loop; every round reads at least one byte, so the file size bounds the rounds.
def loadChunks (plan : ResidentLoadPlan) (options : ResidentLoadOptions) (shard : PlannedShard) :
    ℕ → ℕ → List PlannedTensor → ShardProgress → Except ResidentLoadDiagnostic ShardProgress
  | 0, _, _, progress => .ok progress
  | fuel + 1, fileOffset, segments, progress =>
    if shard.identity.fileSize.toNat ≤ fileOffset then .ok progress
    else do
      let chunkSize := min (shard.identity.fileSize.toNat - fileOffset) options.chunkBytes
      let (chunkEnd, progress) ← countChunk shard fileOffset chunkSize progress
      let segments := advanceCursor fileOffset segments
      let progress ← copySegments plan options shard fileOffset chunkEnd segments progress
      loadChunks plan options shard fuel chunkEnd segments progress

def loadOneShard (plan : ResidentLoadPlan) (options : ResidentLoadOptions) (shard : PlannedShard) :
    Except ResidentLoadDiagnostic ShardProgress :=
  loadChunks plan options shard shard.identity.fileSize.toNat 0 (shardTensors plan shard) {}

def tensorOperations (options : ResidentLoadOptions) (tensor : PlannedTensor) : ℕ :=
  (tensor.sourceEnd - 1) / options.chunkBytes - tensor.sourceBegin / options.chunkBytes + 1

def planOperation (options : ResidentLoadOptions) (planned : ℕ) (tensor : PlannedTensor) :
    Except ResidentLoadDiagnostic ℕ :=
  match checkedAdd planned (tensorOperations options tensor) with
  | none =>
    .error
      { code := .arithmeticOverflow
        message := "planned scatter-copy count overflows uint64"
        context := tensor.name
        shard := tensor.shard
        offset := tensor.sourceBegin }
  | some planned =>
    if options.maxMemcpyOperations < planned then
      .error
        { code := .invalidOption
          message := "resident plan exceeds scatter-copy operation limit"
          context := tensor.name
          shard := tensor.shard
          offset := tensor.sourceBegin
          expected := toString options.maxMemcpyOperations
          actual := toString planned }
    else .ok planned

def plannedMemcpyOperations (plan : ResidentLoadPlan) (options : ResidentLoadOptions) :
    Except ResidentLoadDiagnostic ℕ :=
  plan.tensors.foldlM (planOperation options) 0

def addStatistics (total stats : ShardLoadStats) : Option ShardLoadStats := do
  let bytesRead ← checkedAdd total.bytesRead stats.bytesRead
  let bytesCopied ← checkedAdd total.bytesCopied stats.bytesCopied
  let chunks ← checkedAdd total.chunks stats.chunks
  let memcpyOperations ← checkedAdd total.memcpyOperations stats.memcpyOperations
  pure
    { bytesRead := bytesRead, bytesCopied := bytesCopied, chunks := chunks
      memcpyOperations := memcpyOperations }

-- The aggregate statistics of all shards and the final check against the plan.
def finishStatistics (plan : ResidentLoadPlan) (planned : ℕ) (shards : List ShardLoadStats) :
    Except ResidentLoadDiagnostic ShardLoadStats :=
  match shards.foldlM addStatistics {} with
  | none =>
    .error
      { code := .arithmeticOverflow
        message := "aggregate loader statistics overflow uint64"
        context := "statistics" }
  | some total =>
    if total.bytesRead ≠ plan.sourceBytes ∨ total.bytesCopied ≠ plan.copiedBytes ∨
        total.memcpyOperations ≠ planned ∨ total.bytesRead < total.bytesCopied then
      .error
        { code := .invalidManifest
          message := "completed loader statistics disagree with resident plan"
          context := "statistics"
          expected := s!"{plan.sourceBytes}/{plan.copiedBytes}"
          actual := s!"{total.bytesRead}/{total.bytesCopied}" }
    else .ok total

end Qwen3xOrin.Resident
