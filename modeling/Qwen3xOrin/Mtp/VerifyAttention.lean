import Qwen3xOrin.Decode.AttentionLaunch

/-! The attention of a speculative round: which of its paths the verifier takes, what each launcher
checks, and what the transaction's constructor has checked before any round. -/

namespace Qwen3xOrin.Mtp

open Io Request Decode

section Guards

-- Rounding up to whole groups of four columns.
def probabilityStride (last : ℕ) : ℕ := (last + 3) / 4 * 4

def rowSpans (query key value output rows last : ℕ) : List Span :=
  [⟨query, rows * 12288 * 2⟩, ⟨key, last * 1024 * 2⟩, ⟨value, last * 1024 * 2⟩,
    ⟨output, rows * 6144 * 2⟩]

def verifySpans (query key value output workspace rows last bytes : ℕ) : List Span :=
  [⟨query, rows * 12288 * 2⟩, ⟨key, last * 1024 * 2⟩, ⟨value, last * 1024 * 2⟩,
    ⟨workspace, bytes⟩, ⟨output, rows * 6144 * 2⟩]

def launchVerifyAttention (query key value firstSequence rows workspace workspaceBytes output : ℕ) :
    Bool :=
  let last := firstSequence + rows - 1
  let bytes := rows * 24 * probabilityStride last * 4
  2 ≤ rows ∧ rows ≤ 4 ∧ minimumSequence ≤ firstSequence ∧
    firstSequence ≤ maximumSequence - (rows - 1) ∧ bytes ≤ workspaceBytes ∧
    alignedSpans (verifySpans query key value output workspace rows last bytes) ∧
    validSpans (verifySpans query key value output workspace rows last bytes)

def launchShortAttention (query key value firstSequence rows output : ℕ) : Bool :=
  let last := firstSequence + rows - 1
  2 ≤ rows ∧ rows ≤ 4 ∧ 65 ≤ firstSequence ∧ firstSequence ≤ 512 - rows ∧
    alignedSpans (rowSpans query key value output rows last) ∧
    validSpans (rowSpans query key value output rows last)

def graphSpans (query key value output parameters workspace rows last bytes : ℕ)
    (shortPath : Bool) : List Span :=
  rowSpans query key value output rows last ++ [⟨parameters, 32⟩] ++
    if shortPath then [] else [⟨workspace, bytes⟩]

def launchGraphAttention (query key value parameters maximumFirstSequence rows workspace
    workspaceBytes output : ℕ) : Bool :=
  let shortPath := decide (maximumFirstSequence < 512)
  let last := maximumFirstSequence + rows - 1
  let bytes := rows * 24 * probabilityStride last * 4
  2 ≤ rows ∧ rows ≤ 4 ∧ 65 ≤ maximumFirstSequence ∧
    maximumFirstSequence ≤ maximumSequence - (rows - 1) ∧ parameters ≠ 0 ∧ parameters % 16 = 0 ∧
    (shortPath → maximumFirstSequence ≤ 512 - rows) ∧ (¬shortPath → bytes ≤ workspaceBytes) ∧
    alignedSpans (graphSpans query key value output parameters workspace rows last bytes
      shortPath) ∧
    validSpans (graphSpans query key value output parameters workspace rows last bytes shortPath)

end Guards

section Paths

variable (state : RequestArena) (slot : Fin requestFullLayerCount)

def availableBytes : ℕ := state.plan.prefillChunkSize * 17408 * 2

def rowQuery (row : ℕ) : ℕ := element (state.views.projection (3 : Fin (2 + 2))) (row * 12288)

def rowGate (row : ℕ) : ℕ := element (rowQuery state row) 6144

def rowOutput (row : ℕ) : ℕ := element (state.views.projection (1 : Fin (2 + 2))) (row * 6144)

def gateRow (row : ℕ) : Bool :=
  launchSigmoidGate (rowOutput state row) (rowGate state row) 6144 (rowOutput state row)

def batchAttention (entry rows : ℕ) : Bool :=
  1 < rows ∧ 512 ≤ entry + 1 ∧
    rows * 24 * probabilityStride (entry + rows) * 4 ≤ availableBytes state

def shortAttention (entry rows : ℕ) : Bool := 1 < rows ∧ 65 ≤ entry + 1 ∧ entry + rows ≤ 511

def scalarRow (position row : ℕ) : Bool :=
  let views := state.views
  let query := rowQuery state row
  let key := views.keyCache slot
  let value := views.valueCache slot
  let output := rowOutput state row
  if position < 64 then
    launchGqaSigmoidGate query key value (position + 1) attentionScale views.fp32Scratch
      views.fp32ScratchElements (rowGate state row) output
  else
    (if minimumSequence ≤ position + 1 then
      launchFusedDecode query key value (position + 1) views.fp32Scratch
        (wrap (views.fp32ScratchElements * 4)) output
    else
      launchGqaReference query key value 24 4 (position + 1) 256 attentionScale views.fp32Scratch
        views.fp32ScratchElements output) &&
      gateRow state row

def enqueueAttention (entry rows : ℕ) : Bool :=
  let views := state.views
  let batch := batchAttention state entry rows
  let short := shortAttention entry rows
  (!batch || launchVerifyAttention (views.projection (3 : Fin (2 + 2))) (views.keyCache slot)
    (views.valueCache slot) (entry + 1) rows (views.projection (2 : Fin (2 + 2)))
    (availableBytes state) (views.projection (1 : Fin (2 + 2)))) &&
  (!short || launchShortAttention (views.projection (3 : Fin (2 + 2))) (views.keyCache slot)
    (views.valueCache slot) (entry + 1) rows (views.projection (1 : Fin (2 + 2)))) &&
  (List.range rows).all fun row =>
    if short then true
    else if batch then gateRow state row
    else scalarRow state slot (entry + row) row

def graphMaximumFirst (short : Bool) (rows : ℕ) : ℕ :=
  if short then 512 - rows else state.plan.maxSequenceLength - rows + 1

-- The captured form: the launch is checked for the longest sequence it may be replayed at.
def captureAttention (parameters : ℕ) (short : Bool) (rows : ℕ) : Bool :=
  let views := state.views
  launchGraphAttention (views.projection (3 : Fin (2 + 2))) (views.keyCache slot)
      (views.valueCache slot) parameters (graphMaximumFirst state short rows) rows
      (views.projection (2 : Fin (2 + 2))) (availableBytes state)
      (views.projection (1 : Fin (2 + 2))) &&
    (short || (List.range rows).all (gateRow state))

end Paths

section Transaction

def recurrentBytes : ℕ := 78446592
def snapshotSlotBytes : ℕ := recurrentBytes + 2 * 5120 + 2 * 248320

-- What the constructor finds around the state: its owner, the device, and its own allocations.
structure TransactionOwner where
  ownsState : Bool
  weightOnlyBackend : Bool
  quantisedHead : Bool
  layerMajorViews : Bool
  projectionDevice : Bool
  snapshotsAllocated : Bool
  startupInputs : Bool
  gdnGraphs : Bool
  graphInputs : ℕ
  graphStorage : Bool
  otherLaunches : Bool

structure TargetTransaction where
  multirow : Bool
  fullGraphs : Bool

variable (owner : TransactionOwner) (state : RequestArena)

def wholeCore : Bool := state.plan.profile = .layerMajorP40WholeCore

def ownerSupported : Bool :=
  owner.ownsState ∧ owner.weightOnlyBackend ∧ owner.quantisedHead ∧
    (state.plan.profile = .legacyC512 ∨ wholeCore state ∧ owner.layerMajorViews)

def recurrentLayout : Bool :=
  state.plan.convState.byteSize + state.plan.gdnState.byteSize = recurrentBytes ∧
    state.plan.gdnState.arenaOffset =
      state.plan.convState.arenaOffset + state.plan.convState.byteSize

def borrowsWorkspace : Bool :=
  state.at state.promptWideWorkspace ≠ 0 ∧ state.at state.promptWideWorkspace % 256 = 0 ∧
    5 * snapshotSlotBytes % 256 = 0 ∧
    5 * snapshotSlotBytes + 2 * 5120 * state.plan.maxSequenceLength ≤
      state.promptWideWorkspace.byteSize

-- Small arenas keep the eager route.
def smallArena : Bool :=
  state.plan.maxSequenceLength < 512 ∨
    availableBytes state < 4 * 24 * probabilityStride state.plan.maxSequenceLength * 4 ∨
    availableBytes state < 4 * 248320 * 2

def captureAll : Bool :=
  [2, 3, 4].all fun rows => [true, false].all fun short =>
    (List.finRange requestFullLayerCount).all fun slot =>
      captureAttention state slot owner.graphInputs short rows

def prepareFullGraphs : Option Bool :=
  if smallArena state then some false
  else if owner.graphStorage ∧ owner.otherLaunches ∧ captureAll owner state then some true
  else none

def newTransaction (multirow : Bool) : Option TargetTransaction :=
  if ownerSupported owner state = false then none
  else if multirow ∧ ¬4 ≤ state.plan.prefillChunkSize then none
  else if multirow ∧ ¬owner.projectionDevice then none
  else if recurrentLayout state = false then none
  else if wholeCore state ∧ ¬borrowsWorkspace state then none
  else if ¬wholeCore state ∧ ¬owner.snapshotsAllocated then none
  else if multirow ∧ wholeCore state ∧ ¬owner.startupInputs then none
  else if multirow ∧ ¬owner.gdnGraphs then none
  else if multirow ∧ wholeCore state then
    (prepareFullGraphs owner state).map fun graphs => ⟨multirow, graphs⟩
  else some ⟨multirow, false⟩

-- A graph is replayed only at sequences it was checked for.
def verifyAttention (transaction : TargetTransaction) (slot : Fin requestFullLayerCount)
    (entry rows : ℕ) : Bool :=
  let short := decide (65 ≤ entry + 1 ∧ entry + rows ≤ 511)
  let useGraph := transaction.fullGraphs ∧ 2 ≤ rows ∧ (short ∨ 512 ≤ entry + 1)
  if useGraph then
    captureAttention state slot owner.graphInputs short rows ∧
      entry + 1 ≤ graphMaximumFirst state short rows
  else enqueueAttention state slot entry rows

end Transaction

end Qwen3xOrin.Mtp
