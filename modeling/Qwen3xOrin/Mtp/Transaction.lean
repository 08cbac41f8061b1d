import Qwen3xOrin.Mtp.Device

/-! The target transaction: snapshot slots, proposal, scalar or multirow verification, row by
row commitment, and the backend that a round drives. -/

namespace Qwen3xOrin.Mtp

open Generation Library

variable {S : Storage} {α : Type}

namespace Device

def saved (slot : ℕ) (s : Device S) : Device S :=
  if slot = 0 then
    { s with slots := Function.update s.slots 0 { s.slots 0 with hidden := s.target.hidden } }
  else
    let source := if s.gdnInputs then s.target.gdnOwner else .arena
    { s with
      target := if source = .slot slot then s.target else s.target.copyGdn source (.slot slot)
      slots := Function.update s.slots slot
        { conv := s.target.conv, hidden := s.target.hidden, logits := s.target.logits } }

def opened (rows : ℕ) (s : Device S) : Device S :=
  { s with
    active := true, seedCacheValid := false, verified := false, committed := 0
    preparedTailRows := 0, draft := s.draft.discardPrepared, entryPosition := s.target.position
    rows := rows }

def seeded (seed : ℕ) (s : Device S) : Device S :=
  { s with cachedSeed := seed, seedCacheValid := true }

def loaded (seed : ℕ) (draft : List ℕ) (count : ℕ) (s : Device S) : Device S :=
  { s with
    inputs := fun i => if i = 0 then seed
      else if i ≤ count then draft.getD (i - 1) 0 else s.inputs i }

-- Row `row` of a linear layer reads the slot before it and fills its own; the first row reads
-- the state the request owns.
def verifyLinearRow (k : Kernels S) (layer row : ℕ) (s : (ℕ → S.Activation) × Device S) :
    (ℕ → S.Activation) × Device S :=
  let (xs, s) := s
  let source := if row = 0 then
    (if s.gdnInputs then s.published layer else s.target.gdnView layer) else .slot row
  let (x, target) := s.target.linearRow k layer row source (.slot (row + 1)) (xs row)
  let slot := s.slots (row + 1)
  (Function.update xs row x,
    { s with
      target := target
      slots := Function.update s.slots (row + 1)
        { slot with conv := Function.update slot.conv layer (target.conv layer) } })

def verifyLinearRows (k : Kernels S) (layer : ℕ) (s : (ℕ → S.Activation) × Device S) :
    ℕ → (ℕ → S.Activation) × Device S
  | 0 => s
  | n + 1 => verifyLinearRow k layer n (verifyLinearRows k layer s n)

def writeVerifyRows (k : Kernels S) (layer : ℕ) (xs : ℕ → S.Activation) (s : Device S) :
    ℕ → Device S
  | 0 => s
  | n + 1 =>
    let s := writeVerifyRows k layer xs s n
    { s with
      target := s.target.writeRow layer (s.entryPosition + n)
        (k.keyValue layer (s.entryPosition + n) (xs n)) }

def verifyLayer (k : Kernels S) (layer : ℕ) (s : (ℕ → S.Activation) × Device S) :
    (ℕ → S.Activation) × Device S :=
  if isFullAttention layer then
    let (xs, s) := s
    let s := writeVerifyRows k layer xs s s.rows
    (fun row => k.attend layer (xs row)
      (s.target.cachedRows layer (s.entryPosition + row + 1)), s)
  else verifyLinearRows k layer s s.2.rows

def verifyLayers (k : Kernels S) (s : Device S) : ℕ → (ℕ → S.Activation) × Device S
  | 0 => (fun row => k.embed (s.inputs row), s)
  | n + 1 => verifyLayer k n (verifyLayers k s n)

def saveVerifyRows (k : Kernels S) (xs : ℕ → S.Activation) (slots : ℕ → Slot S) : ℕ → ℕ → Slot S
  | 0 => slots
  | n + 1 =>
    Function.update (saveVerifyRows k xs slots n) (n + 1)
      { saveVerifyRows k xs slots n (n + 1) with
        hidden := k.finalHidden (xs n), logits := k.head (k.finalHidden (xs n)) }

-- The runner's own hidden row and logits are scratch here: the first row's final hidden and
-- whatever the argmax leaves behind.
def multirowVerified (k : Kernels S) (s : Device S) : Device S :=
  let (xs, s) := s.verifyLayers k decoderLayerCount
  { s with
    target := { s.target with
      hidden := k.finalHidden (xs 0), logits := k.argmaxScratch s.target.logits }
    slots := saveVerifyRows k xs s.slots s.rows }

def restored (rows : ℕ) (s : Device S) : Device S :=
  let slot := s.slots rows
  let target := if s.gdnInputs then s.target else s.target.copyGdn (.slot rows) .arena
  { s with
    target := { target with conv := slot.conv, hidden := slot.hidden, logits := slot.logits } }

def owned (region : Region) (s : Device S) : Device S :=
  { s with
    target := { s.target.access (.select region) with
      gdnOwner := region
      gdnView := fun layer => if isFullAttention layer then s.target.gdnView layer else region } }

def validRows (s : Device S) : ℕ → ℕ → ℕ
  | 0, valid => valid
  | n + 1, valid =>
    if valid < s.rows ∧ s.inputs valid = s.predictions (valid - 1) then validRows s n (valid + 1)
    else valid

def closed (s : Device S) : Device S :=
  { s with
    draft := s.draft.discardPrepared
    preparedTailRows := 0, active := false, seedCacheValid := false, verified := false }

end Device

def launch (k : Kernels S) (site : Launch) : DeviceM S Unit :=
  refuseIf fun s => k.succeeds site s = false

def snapshot (k : Kernels S) (slot : ℕ) : DeviceM S Unit := do
  launch k .snapshot
  update (Device.saved slot)

def begin (k : Kernels S) (rows : ℕ) : DeviceM S Unit := do
  refuseIf fun s => s.active = true ∨ s.target.poisoned = true ∨
    s.target.wholeRequestPrefillActive = true ∨ rows < 1 ∨ 4 < rows ∨ s.target.position = 0 ∨
    s.draft.position + 1 ≠ s.target.position ∨
    s.target.maxSequenceLength - s.target.position < rows
  update (Device.opened rows)
  snapshot k 0

def proposalHidden (i : ℕ) (s : Device S) : S.Hidden :=
  if i = 0 then (s.slots 0).hidden else s.draft.finalHidden

def proposeToken (k : Kernels S) (seed : ℕ) (draft : List ℕ) (withConfidence : Bool) :
    DeviceM S (ℕ × ℚ) := do
  let hidden ← examine (proposalHidden draft.length)
  let step ← draftStep k (draft.getLastD seed) hidden withConfidence
  if draft.length = 0 then update (Device.seeded seed)
  return step

def proposeTokens (k : Kernels S) (seed : ℕ) : ℕ → List ℕ → DeviceM S (List ℕ)
  | 0, draft => pure draft
  | n + 1, draft => do
    let (token, _) ← proposeToken k seed draft false
    proposeTokens k seed n (draft ++ [token])

def propose (k : Kernels S) (seed count : ℕ) : DeviceM S (List ℕ) := do
  refuseIf fun s => s.active = false ∨ s.verified = true ∨ count + 1 ≠ s.rows ∨
    s.draft.position + 1 ≠ s.entryPosition
  proposeTokens k seed count []

-- 0.4F, the nearest single-precision number.
def confidenceFloor : ℚ := 13421773 / 33554432

def proposePrefixTokens (k : Kernels S) (seed : ℕ) (eosFrontier : Bool) (stop : ℕ) :
    ℕ → List ℕ → DeviceM S Proposal
  | 0, draft => pure { ok := true, draft := draft, count := draft.length }
  | n + 1, draft => do
    let (token, confidence) ← proposeToken k seed draft (decide (0 < n))
    let extended := draft ++ [token]
    if eosFrontier = true ∧ token = stop then
      pure { ok := true, draft := extended, count := draft.length, stopped := true }
    else if confidence < confidenceFloor then
      pure { ok := true, draft := extended, count := extended.length }
    else proposePrefixTokens k seed eosFrontier stop n extended

def proposePrefix (k : Kernels S) (seed maximum : ℕ) (eosFrontier : Bool) (stop : ℕ) :
    DeviceM S Proposal := do
  refuseIf fun s => s.active = false ∨ s.verified = true ∨ maximum = 0 ∨ maximum + 1 ≠ s.rows ∨
    s.draft.position + 1 ≠ s.entryPosition
  let proposal ← proposePrefixTokens k seed eosFrontier stop maximum []
  update fun s => { s with rows := proposal.count + 1 }
  return proposal

def publishGdnInputs (k : Kernels S) : DeviceM S Unit := do
  refuseIf fun s => s.gdnInputs = true ∧ ∃ layer < decoderLayerCount,
    ¬ isFullAttention layer ∧ s.target.gdnOwner ≠ s.target.gdnView layer
  refuseIf fun s => s.gdnInputs = true ∧ k.succeeds .publishInputs s = false
  update fun s => { s with
    published := if s.gdnInputs then fun _ => s.target.gdnOwner else s.published }

def verifyMultirow (k : Kernels S) : DeviceM S Unit := do
  refuseIf fun s => s.active = false ∨ s.verified = true ∨ s.rows < 1 ∨ 4 < s.rows ∨
    s.target.position ≠ s.entryPosition ∨
    s.target.maxSequenceLength < s.entryPosition + s.rows
  refuseIf fun s => ∃ row < s.rows, referenceVocabularySize ≤ s.inputs row
  publishGdnInputs k
  launch k .verifyRows
  update (Device.multirowVerified k)
  refuseIf fun s => ∃ row < s.rows, (k.argmax (s.slots (row + 1)).logits).unusable
  update fun s => { s with
    predictions := fun row =>
      if row < s.rows then (k.argmax (s.slots (row + 1)).logits).index else s.predictions row }

def verifyScalarRow (k : Kernels S) (row : ℕ) : DeviceM S Unit := do
  let token ← examine fun s => s.inputs row
  let prediction ← targetStep k row token
  snapshot k (row + 1)
  update fun s => { s with predictions := Function.update s.predictions row prediction }

def verifyScalarRows (k : Kernels S) : ℕ → DeviceM S Unit
  | 0 => pure ()
  | n + 1 => do
    verifyScalarRows k n
    verifyScalarRow k n

def verify (k : Kernels S) (seed : ℕ) (draft : List ℕ) (count : ℕ) : DeviceM S (List ℕ) := do
  refuseIf fun s => s.active = false ∨ s.verified = true ∨ count + 1 ≠ s.rows
  update (Device.loaded seed draft count)
  let batched ← examine fun s => decide (s.multirow = true ∧ 1 < s.rows)
  if batched = true then verifyMultirow k else verifyScalarRows k (count + 1)
  update fun s => { s with
    seedCacheValid := s.seedCacheValid && decide (s.cachedSeed = seed) }
  let position ← examine fun s => s.entryPosition - (if s.seedCacheValid then 0 else 1)
  rewind position
  update fun s => { s with verified := true }
  examine fun s => (List.range (count + 1)).map s.predictions

def prepareTail (k : Kernels S) : DeviceM S Unit := do
  let tail ← examine fun s => s.validRows s.rows 1 - 1
  if 2 ≤ tail then do
    let tokens ← examine fun s i => s.inputs (i + 1)
    let hidden ← examine fun s i => (s.slots (i + 1)).hidden
    prepareKvPrefix k tokens hidden tail
    update fun s => { s with preparedTailRows := tail }

def commitDraftRow (k : Kernels S) (rows : ℕ) : DeviceM S Unit := do
  let reused ← examine fun s => decide (rows = 1 ∧ s.seedCacheValid = true)
  let prepared ← examine fun s => s.preparedTailRows
  if reused = true then do
    refuseIf fun s => s.draft.position ≠ s.entryPosition
    update fun s => { s with seedCacheValid := false }
  else if prepared ≠ 0 then commitPreparedKv (rows - 1)
  else do
    let token ← examine fun s => s.inputs (rows - 1)
    let hidden ← examine fun s => (s.slots (rows - 1)).hidden
    appendKv k token hidden

def selectGdnOwner (region : Region) : DeviceM S Unit := do
  refuseIf fun s => s.gdnInputs = false ∨ region.ownable = false
  update (Device.owned region)

def setSequenceLength (length : ℕ) : DeviceM S Unit := do
  refuseIf fun s => s.target.maxSequenceLength < length
  updateTarget fun t => { t with position := length }

def commitPrefix (k : Kernels S) (rows pending : ℕ) : DeviceM S Unit := do
  refuseIf fun s => s.active = false ∨ s.verified = false ∨ rows ≠ s.committed + 1 ∨
    s.rows < rows ∨ s.predictions (rows - 1) ≠ pending ∨
    (1 < rows ∧ s.inputs (rows - 1) ≠ s.predictions (rows - 2))
  let batched ← examine fun s => s.multirow
  if batched = true ∧ rows = 2 then prepareTail k
  launch k .commitCopy
  update (Device.restored rows)
  commitDraftRow k rows
  let indirect ← examine fun s => s.gdnInputs
  if indirect = true then selectGdnOwner (.slot rows)
  let entry ← examine fun s => s.entryPosition
  setSequenceLength (entry + rows)
  update fun s => { s with committed := rows }

def finish : DeviceM S Unit := do
  refuseIf fun s => s.active = false ∨ s.verified = false ∨ s.committed = 0 ∨
    s.target.position ≠ s.entryPosition + s.committed ∨
    s.draft.position + 1 ≠ s.target.position
  update Device.closed

def abort (k : Kernels S) (s : Device S) : Bool × Device S :=
  (k.succeeds .targetSynchronize s && k.succeeds .draftSynchronize s,
    { s.closed with
      draft := s.draft.fail
      target := { s.target with poisoned := true } })

def answer (m : DeviceM S α) (s : Device S) : Option α × Device S :=
  match outcome m s with
  | (.ok a, s) => (some a, s)
  | (.error _, s) => (none, s)

def accepted (m : DeviceM S Unit) (s : Device S) : Bool × Device S :=
  let (a, s) := answer m s
  (a.isSome, s)

def offered (maximum : ℕ) (m : DeviceM S Proposal) (s : Device S) : Proposal × Device S :=
  let (a, s) := answer m s
  (a.getD { ok := false, draft := [], count := maximum }, s)

def listed (m : DeviceM S (List ℕ)) (s : Device S) : (Bool × List ℕ) × Device S :=
  let (a, s) := answer m s
  ((a.isSome, a.getD []), s)

def targetTransaction (k : Kernels S) : RoundBackend (Device S) where
  begin rows := accepted (begin k rows)
  propose seed count := listed (propose k seed count)
  proposeBounded seed maximum := offered maximum (proposePrefix k seed maximum false 0)
  proposeEosBounded seed maximum stop := offered maximum (proposePrefix k seed maximum true stop)
  verify seed draft count := listed (verify k seed draft count)
  commitPrefix rows pending := accepted (commitPrefix k rows pending)
  finish := accepted finish
  abort := abort k

end Qwen3xOrin.Mtp
