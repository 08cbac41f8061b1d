import Qwen3xOrin.Mtp.Round
import Qwen3xOrin.Generation.Types

/-! The memory a round works on: the target's recurrent state and cache, the snapshot slots and
the draft's own cache. Kernels are pure functions on the contents, so that only the order of
reads and writes and the choice of region are left to the code. -/

namespace Qwen3xOrin.Mtp

open Generation Library

structure Storage where
  Activation : Type
  Mixed : Type
  Conv : Type
  Gdn : Type
  Row : Type
  Hidden : Type
  Logits : Type
  DraftRow : Type

def decoderLayerCount : ℕ := 64

def isFullAttention (layer : ℕ) : Prop := layer % 4 = 3

instance (layer : ℕ) : Decidable (isFullAttention layer) := inferInstanceAs (Decidable (_ = _))

-- Where a whole set of recurrent GDN matrices lives: the request arena or a snapshot slot.
inductive Region
  | arena
  | slot (index : ℕ)
  deriving DecidableEq, Repr

def Region.ownable : Region → Bool
  | .arena => true
  | .slot index => decide (1 ≤ index ∧ index ≤ 4)

inductive GdnAccess
  | read (region : Region) (layer row : ℕ)
  | write (region : Region) (layer : ℕ)
  | overwrite (region : Region)
  | select (region : Region)
  deriving DecidableEq, Repr

structure Target (S : Storage) where
  position : ℕ
  maxSequenceLength : ℕ
  poisoned : Bool := false
  wholeRequestPrefillActive : Bool := false
  conv : ℕ → S.Conv
  gdn : Region → ℕ → S.Gdn
  gdnOwner : Region := .arena
  gdnView : ℕ → Region := fun _ => .arena
  cache : ℕ → ℕ → S.Row
  hidden : S.Hidden
  logits : S.Logits
  -- Ghost: the recurrent accesses so far, newest first, and whether a cache row ever fell
  -- outside the allocation.
  gdnLog : List GdnAccess := []
  overrun : Bool := false

structure Draft (S : Storage) where
  capacity : ℕ
  position : ℕ
  preparedBegin : ℕ := 0
  preparedRows : ℕ := 0
  preparedCommitted : ℕ := 0
  poisoned : Bool := false
  rows : ℕ → S.DraftRow
  finalHidden : S.Hidden
  overrun : Bool := false

structure Slot (S : Storage) where
  conv : ℕ → S.Conv
  hidden : S.Hidden
  logits : S.Logits

structure Device (S : Storage) where
  target : Target S
  draft : Draft S
  slots : ℕ → Slot S
  multirow : Bool
  gdnInputs : Bool
  published : ℕ → Region := fun _ => .arena
  active : Bool := false
  verified : Bool := false
  seedCacheValid : Bool := false
  cachedSeed : ℕ := 0
  entryPosition : ℕ := 0
  rows : ℕ := 0
  committed : ℕ := 0
  preparedTailRows : ℕ := 0
  inputs : ℕ → ℕ := fun _ => 0
  predictions : ℕ → ℕ := fun _ => 0

inductive Launch
  | snapshot
  | draftAppend
  | draftPrepare
  | draftStep
  | targetStep
  | publishInputs
  | verifyRows
  | commitCopy
  | targetSynchronize
  | draftSynchronize
  deriving DecidableEq, Repr

structure GreedyArgmax where
  hasNonfinite : Bool
  index : ℕ

-- A confidence is a finite single-precision number or `none`.
structure Kernels (S : Storage) where
  succeeds : Launch → Device S → Bool
  embed : ℕ → S.Activation
  convUpdate : ℕ → S.Activation → S.Conv → S.Conv × S.Mixed
  gdnUpdate : ℕ → S.Activation → S.Mixed → S.Gdn → S.Gdn × S.Activation
  keyValue : ℕ → ℕ → S.Activation → S.Row
  attend : ℕ → S.Activation → List S.Row → S.Activation
  finalHidden : S.Activation → S.Hidden
  head : S.Hidden → S.Logits
  argmax : S.Logits → GreedyArgmax
  argmaxScratch : S.Logits → S.Logits
  draftRow : ℕ → S.Hidden → ℕ → S.DraftRow
  draftForward : ℕ → S.Hidden → List S.DraftRow → S.Hidden
  draftArgmax : S.Hidden → GreedyArgmax
  draftConfidence : S.Hidden → Option ℚ

def GreedyArgmax.unusable (result : GreedyArgmax) : Prop :=
  result.hasNonfinite = true ∨ referenceVocabularySize ≤ result.index

instance (result : GreedyArgmax) : Decidable result.unusable :=
  inferInstanceAs (Decidable (_ ∨ _))

variable {S : Storage}

abbrev DeviceM (S : Storage) := ExceptT Unit (StateM (Device S))

def refuseIf (c : Device S → Prop) [DecidablePred c] : DeviceM S Unit := stopIf () c id

namespace Draft

def discardPrepared (d : Draft S) : Draft S :=
  { d with preparedBegin := 0, preparedRows := 0, preparedCommitted := 0 }

def fail (d : Draft S) : Draft S := { d.discardPrepared with poisoned := true }

def writeRow (d : Draft S) (index : ℕ) (row : S.DraftRow) : Draft S :=
  { d with
    rows := Function.update d.rows index row
    overrun := d.overrun || decide (d.capacity ≤ index) }

def cachedRows (d : Draft S) (count : ℕ) : List S.DraftRow := (List.range count).map d.rows

def appended (k : Kernels S) (token : ℕ) (hidden : S.Hidden) (d : Draft S) : Draft S :=
  { d.writeRow d.position (k.draftRow token hidden d.position) with position := d.position + 1 }

def stepped (k : Kernels S) (token : ℕ) (hidden : S.Hidden) (d : Draft S) : Draft S :=
  let d := d.writeRow d.position (k.draftRow token hidden d.position)
  { d with finalHidden := k.draftForward token hidden (d.cachedRows (d.position + 1)) }

def writePrepared (k : Kernels S) (tokens : ℕ → ℕ) (hidden : ℕ → S.Hidden) (first : ℕ) :
    ℕ → Draft S → Draft S
  | 0, d => d
  | n + 1, d =>
    (writePrepared k tokens hidden first n d).writeRow (first + n)
      (k.draftRow (tokens n) (hidden n) (first + n))

def prepared (k : Kernels S) (tokens : ℕ → ℕ) (hidden : ℕ → S.Hidden) (rows : ℕ) (d : Draft S) :
    Draft S :=
  { writePrepared k tokens hidden d.position rows d with
    preparedBegin := d.position, preparedRows := rows, preparedCommitted := 0 }

end Draft

def updateDraft (f : Draft S → Draft S) : DeviceM S Unit :=
  update fun s => { s with draft := f s.draft }

-- The draft's own `call`: a bad status poisons the draft and drops its prepared rows.
def failDraftIf (c : Device S → Prop) [DecidablePred c] : DeviceM S Unit :=
  stopIf () c fun s => { s with draft := s.draft.fail }

def rewind (position : ℕ) : DeviceM S Unit := do
  refuseIf fun s => s.draft.poisoned = true ∨ s.draft.position < position
  updateDraft fun d => { d.discardPrepared with position := position }

def appendKv (k : Kernels S) (token : ℕ) (hidden : S.Hidden) : DeviceM S Unit := do
  refuseIf fun s => s.draft.poisoned = true
  failDraftIf fun s =>
    referenceVocabularySize ≤ token ∨ s.draft.capacity ≤ s.draft.position
  updateDraft Draft.discardPrepared
  failDraftIf fun s => k.succeeds .draftAppend s = false
  updateDraft (Draft.appended k token hidden)

def prepareKvPrefix (k : Kernels S) (tokens : ℕ → ℕ) (hidden : ℕ → S.Hidden) (rows : ℕ) :
    DeviceM S Unit := do
  refuseIf fun s => s.draft.poisoned = true
  failDraftIf fun s => rows < 1 ∨ 4 < rows ∨ s.draft.preparedRows ≠ 0 ∨
    s.draft.capacity - s.draft.position < rows
  failDraftIf fun _ => ∃ row < rows, referenceVocabularySize ≤ tokens row
  failDraftIf fun s => k.succeeds .draftPrepare s = false
  updateDraft (Draft.prepared k tokens hidden rows)

def commitPreparedKv (rows : ℕ) : DeviceM S Unit := do
  refuseIf fun s => s.draft.poisoned = true ∨ s.draft.preparedRows = 0 ∨
    rows ≠ s.draft.preparedCommitted + 1 ∨ s.draft.preparedRows < rows ∨
    s.draft.position ≠ s.draft.preparedBegin + s.draft.preparedCommitted
  updateDraft fun d => { d with position := d.preparedBegin + rows, preparedCommitted := rows }

def badConfidence (confidence : Option ℚ) : Prop :=
  ∀ c, confidence = some c → c ≤ 0 ∨ 1 < c

instance (confidence : Option ℚ) : Decidable (badConfidence confidence) :=
  match confidence with
  | none => .isTrue (by simp [badConfidence])
  | some c => decidable_of_iff (c ≤ 0 ∨ 1 < c) (by simp [badConfidence])

-- The confidence is computed only when asked for; otherwise the caller's value 1 stays.
def draftStep (k : Kernels S) (token : ℕ) (hidden : S.Hidden) (withConfidence : Bool) :
    DeviceM S (ℕ × ℚ) := do
  refuseIf fun s => s.draft.poisoned = true
  failDraftIf fun s =>
    referenceVocabularySize ≤ token ∨ s.draft.capacity ≤ s.draft.position
  updateDraft Draft.discardPrepared
  failDraftIf fun s => k.succeeds .draftStep s = false
  updateDraft (Draft.stepped k token hidden)
  failDraftIf fun s => (k.draftArgmax s.draft.finalHidden).unusable ∨
    (withConfidence = true ∧ badConfidence (k.draftConfidence s.draft.finalHidden))
  let prediction ← examine fun s => (k.draftArgmax s.draft.finalHidden).index
  let confidence ← examine fun s =>
    if withConfidence then (k.draftConfidence s.draft.finalHidden).getD 1 else 1
  updateDraft fun d => { d with position := d.position + 1 }
  return (prediction, confidence)

namespace Target

def access (t : Target S) (a : GdnAccess) : Target S := { t with gdnLog := a :: t.gdnLog }

def writeGdn (t : Target S) (region : Region) (layer : ℕ) (matrix : S.Gdn) : Target S :=
  { t.access (.write region layer) with
    gdn := Function.update t.gdn region (Function.update (t.gdn region) layer matrix) }

def copyGdn (t : Target S) (source destination : Region) : Target S :=
  { t.access (.overwrite destination) with
    gdn := Function.update t.gdn destination (t.gdn source) }

def writeConv (t : Target S) (layer : ℕ) (state : S.Conv) : Target S :=
  { t with conv := Function.update t.conv layer state }

def writeRow (t : Target S) (layer index : ℕ) (row : S.Row) : Target S :=
  { t with
    cache := Function.update t.cache layer (Function.update (t.cache layer) index row)
    overrun := t.overrun || decide (t.maxSequenceLength ≤ index) }

def cachedRows (t : Target S) (layer count : ℕ) : List S.Row :=
  (List.range count).map (t.cache layer)

-- One linear-attention row: the convolution window moves in place, the recurrent matrix goes
-- from `source` to `destination`, which may be the same region.
def linearRow (k : Kernels S) (layer row : ℕ) (source destination : Region) (x : S.Activation)
    (t : Target S) : S.Activation × Target S :=
  let (state, mixed) := k.convUpdate layer x (t.conv layer)
  let t := (t.writeConv layer state).access (.read source layer row)
  let (matrix, x) := k.gdnUpdate layer x mixed (t.gdn source layer)
  (x, t.writeGdn destination layer matrix)

def stepLayer (k : Kernels S) (row layer : ℕ) (x : S.Activation) (t : Target S) :
    S.Activation × Target S :=
  if isFullAttention layer then
    let t := t.writeRow layer t.position (k.keyValue layer t.position x)
    (k.attend layer x (t.cachedRows layer (t.position + 1)), t)
  else t.linearRow k layer row (t.gdnView layer) (t.gdnView layer) x

def stepLayers (k : Kernels S) (row token : ℕ) (t : Target S) : ℕ → S.Activation × Target S
  | 0 => (k.embed token, t)
  | n + 1 =>
    let (x, t) := stepLayers k row token t n
    t.stepLayer k row n x

def stepped (k : Kernels S) (row token : ℕ) (t : Target S) : Target S :=
  let (x, t) := t.stepLayers k row token decoderLayerCount
  { t with hidden := k.finalHidden x, logits := k.head (k.finalHidden x) }

def committedStep (k : Kernels S) (row token : ℕ) (t : Target S) : Target S :=
  { t.stepped k row token with position := t.position + 1 }

end Target

def updateTarget (f : Target S → Target S) : DeviceM S Unit :=
  update fun s => { s with target := f s.target }

-- The runner's `fail_step`: every refused or failed step poisons the runner.
def failStepIf (c : Device S → Prop) [DecidablePred c] : DeviceM S Unit :=
  stopIf () c fun s => { s with target := { s.target with poisoned := true } }

def targetStep (k : Kernels S) (row token : ℕ) : DeviceM S ℕ := do
  failStepIf fun s => s.target.wholeRequestPrefillActive = true
  refuseIf fun s => s.target.poisoned = true
  failStepIf fun _ => referenceVocabularySize ≤ token
  failStepIf fun s => s.target.maxSequenceLength ≤ s.target.position
  failStepIf fun s => k.succeeds .targetStep s = false
  updateTarget (Target.stepped k row token)
  failStepIf fun s => (k.argmax s.target.logits).unusable
  updateTarget fun t => { t with position := t.position + 1 }
  examine fun s => (k.argmax s.target.logits).index

end Qwen3xOrin.Mtp
