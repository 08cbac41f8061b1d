import Qwen3xOrin.Generation.Types
import Qwen3xOrin.Prefill.PlanTypes
import Qwen3xOrin.Runner.RouteAccounting

/-! The route of a layer over the physical segments of a panel: its reduction to one fragment, and
the collapse of the fragments of all layers to the evidence of a pass. -/

namespace Qwen3xOrin.Runner

open Generation (ReferenceRunnerError ReferenceRunnerStatus)
open Io Library
open Prefill (LayerType)

section Fragments

inductive PrefillLayerRouteSlot
  | nvFp4GateUp
  | nvFp4Down
  | qOrLinearQkv
  | fullK
  | fullV
  | linearZ
  | o
  | attention
  | gdn
  deriving DecidableEq, Repr

def PrefillLayerRouteSlot.all : List PrefillLayerRouteSlot :=
  [nvFp4GateUp, nvFp4Down, qOrLinearQkv, fullK, fullV, linearZ, o, attention, gdn]

def PrefillLayerRouteSlot.index : PrefillLayerRouteSlot → UInt16
  | nvFp4GateUp => 0
  | nvFp4Down => 1
  | qOrLinearQkv => 2
  | fullK => 3
  | fullV => 4
  | linearZ => 5
  | o => 6
  | attention => 7
  | gdn => 8

def PrefillLayerRouteSlot.bit (slot : PrefillLayerRouteSlot) : UInt16 := (1 : UInt16) <<< slot.index

abbrev decoderLayerCount : ℕ := 64
abbrev panelCapacity : ℕ := 8192
abbrev maximumSegmentTokens : ℕ := 512
abbrev uint32Max : ℕ := 2 ^ 32 - 1

structure PrefillLayerSegmentRouteFragment where
  dispositions : PrefillLayerRouteSlot → PrefillRouteDisposition := fun _ => .production
  recordedSlots : UInt16 := 0
  forbiddenBoundaries : UInt8 := 0
  layer : ℕ := 2 ^ 64 - 1
  firstPosition : ℕ := 0
  tokenCount : ℕ := 0

structure PrefillLayerRouteReducer where
  routeFragment : PrefillLayerSegmentRouteFragment := {}
  initialized : Bool := false

def layerStatus (error : ReferenceRunnerError) (operation : String) (layer : ℕ) :
    ReferenceRunnerStatus :=
  { error := error, operation := some operation, layer := some layer }

def expectedReferenceLayerType (layer : ℕ) : LayerType :=
  if decoderLayerCount ≤ layer then .invalid
  else if (layer + 1) % 4 = 0 then .fullAttention
  else .linearAttention

def expectedPrefillLayerRouteSlots (layer : ℕ) : UInt16 :=
  let common := PrefillLayerRouteSlot.nvFp4GateUp.bit ||| PrefillLayerRouteSlot.nvFp4Down.bit |||
    PrefillLayerRouteSlot.qOrLinearQkv.bit ||| PrefillLayerRouteSlot.o.bit
  match expectedReferenceLayerType layer with
  | .linearAttention =>
    common ||| PrefillLayerRouteSlot.linearZ.bit ||| PrefillLayerRouteSlot.gdn.bit
  | .fullAttention => common ||| PrefillLayerRouteSlot.fullK.bit |||
    PrefillLayerRouteSlot.fullV.bit ||| PrefillLayerRouteSlot.attention.bit
  | .invalid => 0

def knownBoundaryMask : UInt8 := (1 : UInt8) <<< 5 - 1

def PrefillRouteDisposition.listed (disposition : PrefillRouteDisposition) : Bool :=
  disposition = .production ∨ disposition = .exactFallback ∨ disposition = .forbidden

def slotRecorded (slots : UInt16) (slot : PrefillLayerRouteSlot) : Bool := slots &&& slot.bit ≠ 0

def crossed (boundaries : UInt8) (boundary : BoundaryIndex) : Bool :=
  boundaries &&& (1 : UInt8) <<< UInt8.ofNat boundary ≠ 0

def validatePrefillLayerRouteFragment (fragment : PrefillLayerSegmentRouteFragment)
    (terminalPrefixElision : Bool := false) : ReferenceRunnerStatus :=
  let expected :=
    if terminalPrefixElision then PrefillLayerRouteSlot.qOrLinearQkv.bit |||
      PrefillLayerRouteSlot.fullK.bit ||| PrefillLayerRouteSlot.fullV.bit
    else expectedPrefillLayerRouteSlots fragment.layer
  if decoderLayerCount ≤ fragment.layer then
    layerStatus .invalidLayerSchedule "prefill_layer_route_layer" fragment.layer
  else if fragment.tokenCount = 0 ∨ panelCapacity < fragment.tokenCount ∨
      uint32Max - fragment.tokenCount < fragment.firstPosition then
    layerStatus .routeEvidenceFailure "prefill_layer_route_fragment_geometry" fragment.layer
  else if terminalPrefixElision ∧ (fragment.layer + 1 ≠ decoderLayerCount ∨
      fragment.tokenCount < 2 ∨ maximumSegmentTokens < fragment.tokenCount) then
    layerStatus .routeEvidenceFailure "prefill_terminal_prefix_route_geometry" fragment.layer
  else if expected = 0 ∨ fragment.recordedSlots ≠ expected then
    layerStatus .routeEvidenceFailure "prefill_layer_route_fragment_slots" fragment.layer
  else if fragment.forbiddenBoundaries &&& ~~~knownBoundaryMask ≠ 0 then
    layerStatus .routeEvidenceFailure "prefill_layer_route_fragment_boundaries" fragment.layer
  else if PrefillLayerRouteSlot.all.any fun slot =>
      slotRecorded expected slot && !(fragment.dispositions slot).listed then
    layerStatus .routeEvidenceFailure "prefill_layer_route_fragment_disposition" fragment.layer
  else {}

def weakestDisposition (left right : PrefillRouteDisposition) : PrefillRouteDisposition :=
  if left = .forbidden ∨ right = .forbidden then .forbidden
  else if left = .exactFallback ∨ right = .exactFallback then .exactFallback
  else .production

def mergeFragments (reduced segment : PrefillLayerSegmentRouteFragment) :
    PrefillLayerSegmentRouteFragment :=
  { reduced with
    dispositions := PrefillLayerRouteSlot.all.foldl (fun dispositions slot =>
      if slotRecorded reduced.recordedSlots slot then
        Function.update dispositions slot
          (weakestDisposition (dispositions slot) (segment.dispositions slot))
      else dispositions) reduced.dispositions
    forbiddenBoundaries := reduced.forbiddenBoundaries ||| segment.forbiddenBoundaries
    tokenCount := (reduced.tokenCount + segment.tokenCount) % 2 ^ 32 }

def reducePrefillLayerRouteFragment (segment : PrefillLayerSegmentRouteFragment)
    (reducer : PrefillLayerRouteReducer) : ReferenceRunnerStatus × PrefillLayerRouteReducer :=
  let segmentStatus := validatePrefillLayerRouteFragment segment
  let refused := fun operation =>
    (layerStatus .routeEvidenceFailure operation segment.layer, reducer)
  let reduced := reducer.routeFragment
  if ¬ segmentStatus.ok then (segmentStatus, reducer)
  else if maximumSegmentTokens < segment.tokenCount then
    refused "prefill_layer_route_physical_segment"
  else if ¬ reducer.initialized then ({}, ⟨segment, true⟩)
  else if ¬ (validatePrefillLayerRouteFragment reduced).ok then
    refused "prefill_layer_route_reducer_state"
  else if reduced.layer ≠ segment.layer then refused "prefill_layer_route_mixed_layer"
  else if segment.firstPosition ≠ (reduced.firstPosition + reduced.tokenCount) % 2 ^ 32 then
    refused "prefill_layer_route_segment_order"
  else if panelCapacity < reduced.tokenCount ∨
      panelCapacity - reduced.tokenCount < segment.tokenCount then
    refused "prefill_layer_route_segment_span"
  else ({}, ⟨mergeFragments reduced segment, true⟩)

end Fragments

section Collapse

-- An omitted slot counts for no role.
def recordSlot (fragment : PrefillLayerSegmentRouteFragment) (collapsed : PrefillRouteEvidence)
    (slot : PrefillLayerRouteSlot × PrefillOperatorRole) : Option PrefillRouteEvidence :=
  if slotRecorded fragment.recordedSlots slot.1 then
    match recordPrefillOperatorRoute collapsed slot.2 (fragment.dispositions slot.1) 1 with
    | (true, collapsed) => some collapsed
    | (false, _) => none
  else some collapsed

def recordSlots (fragment : PrefillLayerSegmentRouteFragment)
    (slots : List (PrefillLayerRouteSlot × PrefillOperatorRole))
    (collapsed : PrefillRouteEvidence) : Option PrefillRouteEvidence := slots.foldlM (recordSlot fragment) collapsed

def boundaryAt (index : BoundaryIndex) : PrefillForbiddenBoundary :=
  [.prefixCache, .mtp, .cublasLt, .externalReference, .approximateNumerics].getD index .count

def recordBoundary (fragment : PrefillLayerSegmentRouteFragment) (collapsed : PrefillRouteEvidence)
    (boundary : BoundaryIndex) : Option PrefillRouteEvidence :=
  if crossed fragment.forbiddenBoundaries boundary then
    match recordPrefillForbiddenBoundary collapsed (boundaryAt boundary) 1 with
    | (true, collapsed) => some collapsed
    | (false, _) => none
  else some collapsed

def recordBoundaries (fragment : PrefillLayerSegmentRouteFragment)
    (collapsed : PrefillRouteEvidence) : Option PrefillRouteEvidence :=
  (List.finRange prefillForbiddenBoundaryCount).foldlM (recordBoundary fragment) collapsed

def commonSlots : List (PrefillLayerRouteSlot × PrefillOperatorRole) :=
  [(.nvFp4GateUp, .nvFp4GateUp), (.nvFp4Down, .nvFp4Down), (.qOrLinearQkv, .fp8Qkv), (.o, .fp8O)]

def linearSlots : List (PrefillLayerRouteSlot × PrefillOperatorRole) :=
  [(.linearZ, .fp8Z), (.gdn, .gdn)]

def fullSlots : List (PrefillLayerRouteSlot × PrefillOperatorRole) :=
  [(.fullK, .fp8Qkv), (.fullV, .fp8Qkv), (.attention, .attention)]

def collapseValidatedPrefillLayerRouteFragment (fragment : PrefillLayerSegmentRouteFragment)
    (layerPass : PrefillRouteEvidence) : ReferenceRunnerStatus × PrefillRouteEvidence :=
  let failed := fun operation =>
    (layerStatus .routeEvidenceFailure operation fragment.layer, layerPass)
  match recordSlots fragment commonSlots layerPass with
  | none => failed "prefill_layer_route_collapse"
  | some collapsed =>
    let typed : Except (ReferenceRunnerStatus × PrefillRouteEvidence) PrefillRouteEvidence :=
      match expectedReferenceLayerType fragment.layer with
      | .linearAttention =>
        match recordSlots fragment linearSlots collapsed with
        | none => .error (failed "prefill_layer_route_collapse_linear")
        | some collapsed => .ok collapsed
      | .fullAttention =>
        match recordSlots fragment fullSlots collapsed with
        | none => .error (failed "prefill_layer_route_collapse_full")
        | some collapsed => .ok collapsed
      | .invalid => .error
        (layerStatus .invalidLayerSchedule "prefill_layer_route_schedule" fragment.layer, layerPass)
    match typed with
    | .error failure => failure
    | .ok collapsed =>
      match recordBoundaries fragment collapsed with
      | none => failed "prefill_layer_route_collapse_boundary"
      | some collapsed => ({}, collapsed)

def collapsePrefillLayerRouteFragment (fragment : PrefillLayerSegmentRouteFragment)
    (layerPass : PrefillRouteEvidence) : ReferenceRunnerStatus × PrefillRouteEvidence :=
  let status := validatePrefillLayerRouteFragment fragment
  if ¬ status.ok then (status, layerPass)
  else collapseValidatedPrefillLayerRouteFragment fragment layerPass

end Collapse

section Validity

variable {fragment segment : PrefillLayerSegmentRouteFragment}

-- What an accepted fragment is: `recordedSlots` are those of its layer, and all of them are listed.
structure PrefillLayerSegmentRouteFragment.Valid (fragment : PrefillLayerSegmentRouteFragment) :
    Prop where
  layer : fragment.layer < 64
  nonempty : 0 < fragment.tokenCount
  panel : fragment.tokenCount ≤ 8192
  positions : fragment.firstPosition + fragment.tokenCount ≤ uint32Max
  slots : fragment.recordedSlots = expectedPrefillLayerRouteSlots fragment.layer
  boundaries : fragment.forbiddenBoundaries &&& ~~~knownBoundaryMask = 0
  listed : ∀ slot, slotRecorded fragment.recordedSlots slot = true →
    (fragment.dispositions slot).listed = true

lemma mem_all (slot : PrefillLayerRouteSlot) : slot ∈ PrefillLayerRouteSlot.all := by
  cases slot <;> decide

lemma layerType_valid {layer : ℕ} (h : layer < 64) :
    expectedReferenceLayerType layer = .linearAttention ∨
      expectedReferenceLayerType layer = .fullAttention := by
  rw [expectedReferenceLayerType, if_neg (not_le.mpr h)]
  split_ifs
  · exact .inr rfl
  · exact .inl rfl

lemma expectedSlots_ne_zero {layer : ℕ} (h : layer < 64) :
    expectedPrefillLayerRouteSlots layer ≠ 0 := by
  unfold expectedPrefillLayerRouteSlots
  obtain h | h := layerType_valid h <;> rw [h] <;> decide

lemma layerStatus_ok (error : ReferenceRunnerError) (operation : String) (layer : ℕ) :
    (layerStatus error operation layer).ok = decide (error = .none) := by
  simp [layerStatus, ReferenceRunnerStatus.ok]

lemma valid_iff :
    (validatePrefillLayerRouteFragment fragment).ok = true ↔ fragment.Valid := by
  have hfailed {error : ReferenceRunnerError} {operation : String} (h : error ≠ .none) :
      (layerStatus error operation fragment.layer).ok ≠ true := by
    rw [layerStatus_ok]
    simpa using h
  unfold validatePrefillLayerRouteFragment
  dsimp only
  rw [if_neg Bool.false_ne_true]
  simp only [decoderLayerCount, panelCapacity, uint32Max]
  split_ifs with hlayer hgeometry hprefix hslots hboundaries hlisted
  · exact ⟨fun h => absurd h (hfailed (by decide)), fun h => absurd h.layer (not_lt.mpr hlayer)⟩
  · refine ⟨fun h => absurd h (hfailed (by decide)), fun h => ?_⟩
    have hnonempty := h.nonempty
    have hpanel := h.panel
    have hpositions := h.positions
    dsimp only [uint32Max] at hpositions
    omega
  · exact hprefix.1.elim
  · refine ⟨fun h => absurd h (hfailed (by decide)), fun h => ?_⟩
    obtain hzero | hne := hslots
    · exact absurd hzero (expectedSlots_ne_zero h.layer)
    · exact absurd h.slots hne
  · exact ⟨fun h => absurd h (hfailed (by decide)), fun h => absurd h.boundaries hboundaries⟩
  · refine ⟨fun h => absurd h (hfailed (by decide)), fun h => ?_⟩
    obtain ⟨slot, -, hslot⟩ := List.any_eq_true.mp hlisted
    rw [← h.slots, Bool.and_eq_true, Bool.not_eq_true'] at hslot
    exact absurd (h.listed slot hslot.1) (by rw [hslot.2]; exact Bool.false_ne_true)
  · refine ⟨fun _ => ?_, fun _ => rfl⟩
    obtain ⟨-, hslots⟩ := not_or.mp hslots
    have hslots := not_not.mp hslots
    refine ⟨by omega, by omega, by omega, by dsimp only [uint32Max]; omega, hslots,
      not_not.mp hboundaries, fun slot hslot => ?_⟩
    rw [hslots] at hslot
    by_contra hunlisted
    refine hlisted (List.any_eq_true.mpr ⟨slot, mem_all slot, ?_⟩)
    rw [hslot, Bool.not_eq_true _ |>.mp hunlisted]
    rfl

lemma and_or (x y m : UInt8) : (x ||| y) &&& m = x &&& m ||| y &&& m := by
  rw [← UInt8.toNat_inj]
  simp only [UInt8.toNat_and, UInt8.toNat_or, Nat.and_or_distrib_right]

lemma crossed_or (x y : UInt8) (boundary : BoundaryIndex) :
    crossed (x ||| y) boundary = (crossed x boundary || crossed y boundary) := by
  rw [Bool.eq_iff_iff]
  simp only [crossed, and_or, ne_eq, UInt8.or_eq_zero_iff, decide_eq_true_eq, Bool.or_eq_true]
  tauto

end Validity

section Weakest

-- The weakest of a list of dispositions.
def weakestOf (dispositions : List PrefillRouteDisposition) : PrefillRouteDisposition :=
  if .forbidden ∈ dispositions then .forbidden
  else if .exactFallback ∈ dispositions then .exactFallback
  else .production

lemma weakestOf_single {disposition : PrefillRouteDisposition} (h : disposition.listed = true) :
    weakestOf [disposition] = disposition := by
  cases disposition <;> first | rfl | exact absurd h (by decide)

lemma weakestOf_append (dispositions : List PrefillRouteDisposition)
    (disposition : PrefillRouteDisposition) :
    weakestOf (dispositions ++ [disposition]) =
      weakestDisposition (weakestOf dispositions) disposition := by
  have hmem (d : PrefillRouteDisposition) :
      d ∈ dispositions ++ [disposition] ↔ d ∈ dispositions ∨ disposition = d := by
    rw [List.mem_append, List.mem_singleton, eq_comm]
  rw [weakestOf, weakestDisposition, weakestOf]
  simp only [hmem]
  by_cases hforbidden : .forbidden ∈ dispositions
  · simp [hforbidden]
  · by_cases hfallback : .exactFallback ∈ dispositions
    · simp [hforbidden, hfallback]
    · simp [hforbidden, hfallback]

lemma weakestOf_listed (dispositions : List PrefillRouteDisposition) :
    (weakestOf dispositions).listed = true := by
  unfold weakestOf
  split_ifs <;> rfl

lemma foldl_update_at {ι β : Type} [DecidableEq ι] (keep : ι → Bool) (merge : ι → β → β)
    {l : List ι} (hl : l.Nodup) (table : ι → β) (i : ι) :
    l.foldl (fun table j => if keep j then Function.update table j (merge j (table j)) else table)
      table i = if i ∈ l ∧ keep i then merge i (table i) else table i := by
  induction l generalizing table with
  | nil => simp
  | cons j l ih =>
    obtain ⟨hfresh, hl⟩ := List.nodup_cons.mp hl
    rw [List.foldl_cons, ih hl]
    by_cases hij : i = j
    · subst hij
      by_cases hkeep : keep i = true
      · simp [hfresh, hkeep]
      · simp [hkeep]
    · have hsame : (if keep j then Function.update table j (merge j (table j)) else table) i =
          table i := by
        split_ifs
        · exact Function.update_of_ne hij _ _
        · rfl
      rw [hsame]
      simp [hij]

end Weakest

section Reduction

variable {fragment segment : PrefillLayerSegmentRouteFragment} {reducer : PrefillLayerRouteReducer}
  {layer first : ℕ} {segments done : List PrefillLayerSegmentRouteFragment}

def runAll {α σ : Type} (step : α → σ → ReferenceRunnerStatus × σ) :
    σ → List α → List ReferenceRunnerStatus × σ
  | s, [] => ([], s)
  | s, a :: l => ((step a s).1 :: (runAll step (step a s).2 l).1, (runAll step (step a s).2 l).2)

def Consecutive : ℕ → List PrefillLayerSegmentRouteFragment → Prop
  | _, [] => True
  | first, segment :: segments =>
    segment.firstPosition = first ∧ Consecutive (first + segment.tokenCount) segments

def spanTokens (segments : List PrefillLayerSegmentRouteFragment) : ℕ :=
  (segments.map (·.tokenCount)).sum

-- The segments of a panel of a layer.
structure Segments (layer first : ℕ) (segments : List PrefillLayerSegmentRouteFragment) : Prop where
  each : ∀ segment ∈ segments, (validatePrefillLayerRouteFragment segment).ok = true ∧
    segment.layer = layer ∧ segment.tokenCount ≤ maximumSegmentTokens
  consecutive : Consecutive first segments

structure Reduced (layer first : ℕ) (segments : List PrefillLayerSegmentRouteFragment)
    (fragment : PrefillLayerSegmentRouteFragment) : Prop where
  valid : (validatePrefillLayerRouteFragment fragment).ok = true
  sameLayer : fragment.layer = layer
  start : fragment.firstPosition = first
  tokens : fragment.tokenCount = spanTokens segments
  slots : fragment.recordedSlots = expectedPrefillLayerRouteSlots layer
  dispositions : ∀ slot, slotRecorded (expectedPrefillLayerRouteSlots layer) slot = true →
    fragment.dispositions slot = weakestOf (segments.map (·.dispositions slot))
  boundaries : ∀ boundary, crossed fragment.forbiddenBoundaries boundary =
    segments.any (crossed ·.forbiddenBoundaries boundary)

lemma reduced_single (h : segment.Valid) :
    Reduced segment.layer segment.firstPosition [segment] segment where
  valid := valid_iff.2 h
  sameLayer := rfl
  start := rfl
  tokens := (Nat.add_zero _).symm
  slots := h.slots
  dispositions slot hslot := (weakestOf_single (h.listed slot (by rwa [h.slots]))).symm
  boundaries _ := (Bool.or_false _).symm

lemma mergeFragments_dispositions (slot : PrefillLayerRouteSlot) :
    (mergeFragments fragment segment).dispositions slot =
      if slotRecorded fragment.recordedSlots slot then
        weakestDisposition (fragment.dispositions slot) (segment.dispositions slot)
      else fragment.dispositions slot := by
  refine (@foldl_update_at _ _ _ (slotRecorded fragment.recordedSlots)
    (fun slot d => weakestDisposition d (segment.dispositions slot)) PrefillLayerRouteSlot.all
    (by decide) fragment.dispositions slot).trans ?_
  simp only [mem_all, true_and]

lemma Reduced.append (h : Reduced layer first done fragment) (hvalid : segment.Valid)
    (hlayer : segment.layer = layer) (hfirst : segment.firstPosition = first + spanTokens done)
    (hpanel : spanTokens done + segment.tokenCount ≤ panelCapacity) :
    Reduced layer first (done ++ [segment]) (mergeFragments fragment segment) := by
  have hfragment := valid_iff.1 h.valid
  have hpositions := hvalid.positions
  have hnonempty := hvalid.nonempty
  dsimp only [uint32Max, panelCapacity] at hpositions hpanel
  have htokens : (mergeFragments fragment segment).tokenCount =
      spanTokens done + segment.tokenCount := by
    rw [mergeFragments]
    dsimp only
    rw [h.tokens, Nat.mod_eq_of_lt (by omega)]
  have hspan : spanTokens (done ++ [segment]) = spanTokens done + segment.tokenCount := by
    simp [spanTokens]
  have hslots : fragment.recordedSlots = segment.recordedSlots := by
    rw [h.slots, hvalid.slots, hlayer]
  have hdispositions (slot : PrefillLayerRouteSlot)
      (hslot : slotRecorded (expectedPrefillLayerRouteSlots layer) slot = true) :
      (mergeFragments fragment segment).dispositions slot =
        weakestOf ((done ++ [segment]).map (·.dispositions slot)) := by
    rw [mergeFragments_dispositions, h.slots, if_pos hslot, h.dispositions slot hslot,
      List.map_append, List.map_singleton, weakestOf_append]
  refine ⟨valid_iff.2 ⟨?_, ?_, ?_, ?_, ?_, ?_, fun slot hslot => ?_⟩, h.sameLayer, h.start, ?_,
    h.slots, hdispositions, fun boundary => ?_⟩
  · exact hfragment.layer
  · omega
  · omega
  · rw [htokens, show (mergeFragments fragment segment).firstPosition = first from h.start]
    dsimp only [uint32Max]
    omega
  · exact hfragment.slots
  · rw [show (mergeFragments fragment segment).forbiddenBoundaries =
      fragment.forbiddenBoundaries ||| segment.forbiddenBoundaries from rfl, and_or,
      hfragment.boundaries, hvalid.boundaries]
    rfl
  · rw [hdispositions slot (by rwa [← h.slots])]
    exact weakestOf_listed _
  · rw [htokens, hspan]
  · rw [show (mergeFragments fragment segment).forbiddenBoundaries =
      fragment.forbiddenBoundaries ||| segment.forbiddenBoundaries from rfl, crossed_or,
      h.boundaries, List.any_append, List.any_cons, List.any_nil, Bool.or_false]

lemma reduce_first (hinitialized : reducer.initialized = false) (hvalid : segment.Valid)
    (hsegment : segment.tokenCount ≤ maximumSegmentTokens) :
    reducePrefillLayerRouteFragment segment reducer = ({}, ⟨segment, true⟩) := by
  unfold reducePrefillLayerRouteFragment
  rw [if_neg (not_not.mpr (valid_iff.2 hvalid)), if_neg (not_lt.mpr hsegment), if_pos]
  simp [hinitialized]

lemma reduce_next (h : fragment.Valid) (hvalid : segment.Valid)
    (hsegment : segment.tokenCount ≤ maximumSegmentTokens) (hlayer : segment.layer = fragment.layer)
    (hfirst : segment.firstPosition = fragment.firstPosition + fragment.tokenCount)
    (hpanel : fragment.tokenCount + segment.tokenCount ≤ panelCapacity) :
    reducePrefillLayerRouteFragment segment ⟨fragment, true⟩ =
      ({}, ⟨mergeFragments fragment segment, true⟩) := by
  have hpositions := h.positions
  dsimp only [uint32Max, panelCapacity] at hpositions hpanel
  unfold reducePrefillLayerRouteFragment
  rw [if_neg (not_not.mpr (valid_iff.2 hvalid)), if_neg (not_lt.mpr hsegment),
    if_neg (not_not.mpr rfl), if_neg (not_not.mpr (valid_iff.2 h)),
    if_neg (not_not.mpr hlayer.symm), if_neg, if_neg]
  · dsimp only [panelCapacity]
    omega
  · dsimp only
    rw [not_not, hfirst, Nat.mod_eq_of_lt (by omega)]

lemma reduceAll_reduced (h : Reduced layer first done fragment)
    (hsegments : Segments layer (first + spanTokens done) segments)
    (hpanel : spanTokens (done ++ segments) ≤ panelCapacity) :
    ∃ fragment', (runAll reducePrefillLayerRouteFragment ⟨fragment, true⟩ segments).2 =
        ⟨fragment', true⟩ ∧ Reduced layer first (done ++ segments) fragment' ∧
      ∀ status ∈ (runAll reducePrefillLayerRouteFragment ⟨fragment, true⟩ segments).1,
        status.ok = true := by
  induction segments generalizing done fragment with
  | nil => exact ⟨fragment, rfl, by rwa [List.append_nil], fun _ h => absurd h List.not_mem_nil⟩
  | cons segment segments ih =>
    obtain ⟨⟨hvalid, hlayer, hsegment⟩, heach⟩ := List.forall_mem_cons.mp hsegments.each
    obtain ⟨hfirst, hconsecutive⟩ := hsegments.consecutive
    have hspan : spanTokens (done ++ segment :: segments) =
        spanTokens done + segment.tokenCount + spanTokens segments := by
      simp [spanTokens, Nat.add_assoc]
    have hdone : spanTokens (done ++ [segment]) = spanTokens done + segment.tokenCount := by
      simp [spanTokens]
    have hfits : spanTokens done + segment.tokenCount ≤ panelCapacity := by omega
    have hstep := reduce_next (valid_iff.1 h.valid) (valid_iff.1 hvalid) hsegment
      (hlayer.trans h.sameLayer.symm) (by rw [hfirst, h.start, h.tokens])
      (by rw [h.tokens]; exact hfits)
    rw [runAll, hstep]
    have hassoc : done ++ segment :: segments = (done ++ [segment]) ++ segments :=
      (List.append_cons done segment segments)
    obtain ⟨fragment', hrun, hreduced, hstatuses⟩ :=
      ih (h.append (valid_iff.1 hvalid) hlayer hfirst hfits)
        ⟨heach, by rwa [hdone, ← Nat.add_assoc]⟩ (hassoc ▸ hpanel)
    exact ⟨fragment', hrun, hassoc ▸ hreduced, List.forall_mem_cons.mpr ⟨rfl, hstatuses⟩⟩

-- A refused segment, whatever the reducer holds.
lemma reduce_refused (h : ¬ segment.Valid ∨ maximumSegmentTokens < segment.tokenCount ∨
      (reducer.initialized = true ∧ (segment.layer ≠ reducer.routeFragment.layer ∨
        segment.firstPosition ≠
          reducer.routeFragment.firstPosition + reducer.routeFragment.tokenCount ∨
        panelCapacity < reducer.routeFragment.tokenCount + segment.tokenCount))) :
    (reducePrefillLayerRouteFragment segment reducer).1.ok = false ∧
      (reducePrefillLayerRouteFragment segment reducer).2 = reducer := by
  have hrefused (operation : String) :
      (layerStatus .routeEvidenceFailure operation segment.layer).ok = false := by
    rw [layerStatus_ok]
    rfl
  unfold reducePrefillLayerRouteFragment
  dsimp only
  by_cases hvalid : segment.Valid
  · rw [if_neg (not_not.mpr (valid_iff.2 hvalid))]
    split_ifs with hsegment hinitialized hstate hlayer hfirst hpanel
    · exact ⟨hrefused _, rfl⟩
    · exact ⟨hrefused _, rfl⟩
    · exact ⟨hrefused _, rfl⟩
    · exact ⟨hrefused _, rfl⟩
    · rw [valid_iff] at hstate
      have hpositions := hstate.positions
      dsimp only [uint32Max, panelCapacity] at hpositions hpanel h
      rw [not_not, Nat.mod_eq_of_lt (by omega)] at hfirst
      obtain h | h | ⟨-, h | h | h⟩ := h
      · exact absurd hvalid h
      · exact absurd h hsegment
      · exact absurd (not_not.mp hlayer).symm h
      · exact absurd hfirst h
      · omega
    · exact ⟨hrefused _, rfl⟩
    · obtain h | h | h := h
      · exact absurd hvalid h
      · exact absurd h hsegment
      · exact absurd h.1 hinitialized
  · rw [if_pos (fun hok => hvalid (valid_iff.1 hok))]
    exact ⟨Bool.not_eq_true _ |>.mp (fun hok => hvalid (valid_iff.1 hok)), rfl⟩

end Reduction

section Accumulation

variable {fragment : PrefillLayerSegmentRouteFragment} {evidence : PrefillRouteEvidence}

-- `evidence'` has these hits more than `evidence`, and the same status.
structure Added (operators : RoleIndex → ℕ) (boundaries : BoundaryIndex → ℕ)
    (evidence evidence' : PrefillRouteEvidence) : Prop where
  hits : ∀ index, (evidence'.operators index).hits =
    (evidence.operators index).hits + operators index
  boundaryHits : ∀ boundary, evidence'.forbiddenBoundaryHits boundary =
    evidence.forbiddenBoundaryHits boundary + boundaries boundary
  status : evidence' = { evidence with
    operators := evidence'.operators
    forbiddenBoundaryHits := evidence'.forbiddenBoundaryHits }

lemma Added.refl (evidence : PrefillRouteEvidence) :
    Added (fun _ => 0) (fun _ => 0) evidence evidence :=
  ⟨fun _ => rfl, fun _ => rfl, rfl⟩

lemma Added.trans {operators₁ operators₂ : RoleIndex → ℕ}
    {boundaries₁ boundaries₂ : BoundaryIndex → ℕ} {evidence₁ evidence₂ : PrefillRouteEvidence}
    (h₁ : Added operators₁ boundaries₁ evidence evidence₁)
    (h₂ : Added operators₂ boundaries₂ evidence₁ evidence₂) :
    Added (fun index => operators₁ index + operators₂ index)
      (fun boundary => boundaries₁ boundary + boundaries₂ boundary) evidence evidence₂ where
  hits index := by rw [h₂.hits, h₁.hits, Nat.add_assoc]
  boundaryHits boundary := by rw [h₂.boundaryHits, h₁.boundaryHits, Nat.add_assoc]
  status := by
    rw [h₂.status, h₁.status]

lemma addHits_ok {counts : PrefillOperatorRouteCounts} {disposition : PrefillRouteDisposition}
    (hlisted : disposition.listed = true) (h : counts.hits + 1 ≤ uint64Max) :
    ∃ counts', addHits counts 1 disposition = .ok counts' ∧ counts'.hits = counts.hits + 1 := by
  have hadd {hits : ℕ} (hhits : hits ≤ counts.hits) : checkedAdd hits 1 = some (hits + 1) :=
    (checkedAdd_eq_some (by omega)).mpr ⟨rfl, by omega⟩
  unfold PrefillOperatorRouteCounts.hits at h hadd ⊢
  cases disposition with
  | production =>
    refine ⟨{ counts with productionHits := counts.productionHits + 1 }, ?_, by dsimp only; omega⟩
    rw [addHits, hadd (by omega)]
  | exactFallback =>
    refine ⟨{ counts with exactFallbackHits := counts.exactFallbackHits + 1 }, ?_,
      by dsimp only; omega⟩
    rw [addHits, hadd (by omega)]
  | forbidden =>
    refine ⟨{ counts with forbiddenHits := counts.forbiddenHits + 1 }, ?_, by dsimp only; omega⟩
    rw [addHits, hadd (by omega)]
  | unlisted => exact absurd hlisted (by decide)

lemma recordSlot_ok {slot : PrefillLayerRouteSlot × PrefillOperatorRole} {index : RoleIndex}
    (hrecorded : slotRecorded fragment.recordedSlots slot.1 = true)
    (hlisted : (fragment.dispositions slot.1).listed = true) (hrole : slot.2.index = some index)
    (h : (evidence.operators index).hits + 1 ≤ uint64Max) :
    ∃ evidence', recordSlot fragment evidence slot = some evidence' ∧
      Added (fun i => if slot.2.index = some i then 1 else 0) (fun _ => 0) evidence evidence' := by
  obtain ⟨counts, hcounts, hhits⟩ := addHits_ok hlisted h
  refine ⟨{ evidence with operators := Function.update evidence.operators index counts }, ?_,
    fun i => ?_, fun _ => rfl, rfl⟩
  · rw [recordSlot, if_pos hrecorded, recordPrefillOperatorRoute, hrole]
    dsimp only
    rw [hcounts]
  · dsimp only
    rw [hrole]
    by_cases hi : i = index
    · subst hi
      rw [Function.update_self, hhits, if_pos rfl]
    · rw [Function.update_of_ne hi, if_neg fun h => hi (Option.some.inj h).symm, Nat.add_zero]

def roleHits (slots : List (PrefillLayerRouteSlot × PrefillOperatorRole)) (index : RoleIndex) : ℕ :=
  slots.countP (·.2.index = some index)

lemma roleHits_cons (slot : PrefillLayerRouteSlot × PrefillOperatorRole)
    (slots : List (PrefillLayerRouteSlot × PrefillOperatorRole)) :
    roleHits (slot :: slots) =
      fun i => (if slot.2.index = some i then 1 else 0) + roleHits slots i := by
  funext i
  rw [roleHits, List.countP_cons, Nat.add_comm]
  simp [roleHits]

lemma recordSlots_ok {slots : List (PrefillLayerRouteSlot × PrefillOperatorRole)}
    (hslots : ∀ slot ∈ slots, slotRecorded fragment.recordedSlots slot.1 = true ∧
      (fragment.dispositions slot.1).listed = true ∧ ∃ index, slot.2.index = some index)
    (h : ∀ index, (evidence.operators index).hits + slots.length ≤ uint64Max) :
    ∃ evidence', recordSlots fragment slots evidence = some evidence' ∧
      Added (roleHits slots) (fun _ => 0) evidence evidence' := by
  induction slots generalizing evidence with
  | nil => exact ⟨evidence, rfl, Added.refl evidence⟩
  | cons slot slots ih =>
    obtain ⟨⟨hrecorded, hlisted, index, hindex⟩, hslots⟩ := List.forall_mem_cons.mp hslots
    rw [List.length_cons] at h
    have hindexed := h index
    obtain ⟨evidence₁, hrun₁, hadded₁⟩ :=
      @recordSlot_ok _ evidence _ _ hrecorded hlisted hindex (by omega)
    obtain ⟨evidence', hrun, hadded⟩ := @ih evidence₁ hslots fun i => by
      have hi := h i
      rw [hadded₁.hits]
      split_ifs <;> omega
    refine ⟨evidence', ?_, ?_⟩
    · rw [recordSlots, List.foldlM_cons, hrun₁]
      exact hrun
    · rw [roleHits_cons]
      exact hadded₁.trans hadded

lemma boundaryAt_index (boundary : BoundaryIndex) :
    (boundaryAt boundary).index = some boundary := by
  revert boundary
  decide

lemma recordBoundary_ok {boundary : BoundaryIndex}
    (h : evidence.forbiddenBoundaryHits boundary + 1 ≤ uint64Max) :
    ∃ evidence', recordBoundary fragment evidence boundary = some evidence' ∧
      Added (fun _ => 0)
        (fun b => if b = boundary ∧ crossed fragment.forbiddenBoundaries b then 1 else 0)
        evidence evidence' := by
  unfold recordBoundary
  by_cases hcrossed : crossed fragment.forbiddenBoundaries boundary = true
  · rw [if_pos hcrossed, recordPrefillForbiddenBoundary, boundaryAt_index]
    dsimp only
    rw [(checkedAdd_eq_some (by omega)).mpr ⟨rfl, h⟩]
    refine ⟨_, rfl, fun _ => rfl, fun b => ?_, rfl⟩
    dsimp only
    by_cases hb : b = boundary
    · subst hb
      rw [Function.update_self, if_pos ⟨rfl, hcrossed⟩]
    · rw [Function.update_of_ne hb, if_neg fun h => hb h.1, Nat.add_zero]
  · rw [if_neg hcrossed]
    refine ⟨evidence, rfl, fun _ => rfl, fun b => ?_, rfl⟩
    rw [if_neg, Nat.add_zero]
    rintro ⟨rfl, hb⟩
    exact hcrossed hb

lemma recordBoundaries_each {boundaries : List BoundaryIndex} (hnodup : boundaries.Nodup)
    (h : ∀ boundary ∈ boundaries, evidence.forbiddenBoundaryHits boundary + 1 ≤ uint64Max) :
    ∃ evidence', boundaries.foldlM (recordBoundary fragment) evidence = some evidence' ∧
      Added (fun _ => 0)
        (fun b => if b ∈ boundaries ∧ crossed fragment.forbiddenBoundaries b then 1 else 0)
        evidence evidence' := by
  induction boundaries generalizing evidence with
  | nil => exact ⟨evidence, rfl, by simpa using Added.refl evidence⟩
  | cons boundary boundaries ih =>
    obtain ⟨hfresh, hnodup⟩ := List.nodup_cons.mp hnodup
    obtain ⟨hfirst, h⟩ := List.forall_mem_cons.mp h
    obtain ⟨evidence₁, hrun₁, hadded₁⟩ := @recordBoundary_ok fragment _ _ hfirst
    obtain ⟨evidence', hrun, hadded⟩ := @ih evidence₁ hnodup fun b hb => by
      have hne : b ≠ boundary := fun heq => hfresh (heq ▸ hb)
      rw [hadded₁.boundaryHits, if_neg fun h => hne h.1]
      exact h b hb
    have hboth := hadded₁.trans hadded
    refine ⟨evidence', ?_, hboth.hits, fun b => ?_, hboth.status⟩
    · rw [List.foldlM_cons, hrun₁]
      exact hrun
    · rw [hboth.boundaryHits]
      by_cases hb : b = boundary
      · subst hb
        simp [hfresh]
      · simp [hb]

lemma recordBoundaries_ok
    (h : ∀ boundary, evidence.forbiddenBoundaryHits boundary + 1 ≤ uint64Max) :
    ∃ evidence', recordBoundaries fragment evidence = some evidence' ∧
      Added (fun _ => 0) (fun b => if crossed fragment.forbiddenBoundaries b then 1 else 0)
        evidence evidence' := by
  obtain ⟨evidence', hrun, hadded⟩ := @recordBoundaries_each fragment evidence
    (List.finRange prefillForbiddenBoundaryCount) (List.nodup_finRange _)
    fun boundary _ => h boundary
  simp only [List.mem_finRange, true_and] at hadded
  exact ⟨evidence', hrun, hadded⟩

end Accumulation

section LayerPass

variable {fragment : PrefillLayerSegmentRouteFragment} {evidence : PrefillRouteEvidence}
  {fragments : List PrefillLayerSegmentRouteFragment}

def layerSlots (layer : ℕ) : List (PrefillLayerRouteSlot × PrefillOperatorRole) :=
  commonSlots ++ if (layer + 1) % 4 = 0 then fullSlots else linearSlots

lemma expectedSlots_full {layer : ℕ} (hlayer : layer < 64) (hfull : (layer + 1) % 4 = 0) :
    expectedPrefillLayerRouteSlots layer = 0xdf := by
  rw [expectedPrefillLayerRouteSlots, expectedReferenceLayerType, if_neg (not_le.mpr hlayer),
    if_pos hfull]
  decide

lemma expectedSlots_linear {layer : ℕ} (hlayer : layer < 64) (hlinear : (layer + 1) % 4 ≠ 0) :
    expectedPrefillLayerRouteSlots layer = 0x167 := by
  rw [expectedPrefillLayerRouteSlots, expectedReferenceLayerType, if_neg (not_le.mpr hlayer),
    if_neg hlinear]
  decide

lemma layerSlots_recorded {layer : ℕ} (hlayer : layer < 64) :
    ∀ slot ∈ layerSlots layer, slotRecorded (expectedPrefillLayerRouteSlots layer) slot.1 = true ∧
      ∃ index, slot.2.index = some index := by
  unfold layerSlots
  split_ifs with hfull
  · rw [expectedSlots_full hlayer hfull]
    decide
  · rw [expectedSlots_linear hlayer hfull]
    decide

lemma layerSlots_length (layer : ℕ) : (layerSlots layer).length ≤ 7 := by
  unfold layerSlots
  split_ifs <;> decide

lemma collapse_eq (hvalid : fragment.Valid) {collapsed : PrefillRouteEvidence}
    (hslots : recordSlots fragment (layerSlots fragment.layer) evidence = some collapsed) :
    collapsePrefillLayerRouteFragment fragment evidence =
      match recordBoundaries fragment collapsed with
      | none => (layerStatus .routeEvidenceFailure "prefill_layer_route_collapse_boundary"
          fragment.layer, evidence)
      | some collapsed => ({}, collapsed) := by
  rw [layerSlots, recordSlots, List.foldlM_append] at hslots
  obtain ⟨common, hcommon, htyped⟩ := Option.bind_eq_some_iff.mp hslots
  rw [collapsePrefillLayerRouteFragment, if_neg (not_not.mpr (valid_iff.2 hvalid)),
    collapseValidatedPrefillLayerRouteFragment, recordSlots, hcommon, expectedReferenceLayerType,
    if_neg (not_le.mpr hvalid.layer)]
  dsimp only
  by_cases hfull : (fragment.layer + 1) % 4 = 0
  · rw [if_pos hfull] at htyped ⊢
    dsimp only
    rw [recordSlots, htyped]
  · rw [if_neg hfull] at htyped ⊢
    dsimp only
    rw [recordSlots, htyped]

lemma collapse_ok (hvalid : fragment.Valid)
    (hhits : ∀ index, (evidence.operators index).hits + 7 ≤ uint64Max)
    (hboundaries : ∀ boundary, evidence.forbiddenBoundaryHits boundary + 1 ≤ uint64Max) :
    ∃ evidence', collapsePrefillLayerRouteFragment fragment evidence = ({}, evidence') ∧
      Added (roleHits (layerSlots fragment.layer))
        (fun b => if crossed fragment.forbiddenBoundaries b then 1 else 0) evidence evidence' := by
  have hlength := layerSlots_length fragment.layer
  obtain ⟨collapsed, hslots, hadded⟩ := @recordSlots_ok fragment evidence
    (layerSlots fragment.layer) (fun slot hslot => by
      obtain ⟨hrecorded, hindex⟩ := layerSlots_recorded hvalid.layer slot hslot
      rw [← hvalid.slots] at hrecorded
      exact ⟨hrecorded, hvalid.listed _ hrecorded, hindex⟩)
    (fun index => by have := hhits index; omega)
  obtain ⟨evidence', hrun, hadded'⟩ := @recordBoundaries_ok fragment collapsed fun boundary => by
    rw [hadded.boundaryHits]
    exact hboundaries boundary
  refine ⟨evidence', ?_, ?_⟩
  · rw [collapse_eq hvalid hslots, hrun]
  · simpa using hadded.trans hadded'

lemma roleHits_le (layer : ℕ) (index : RoleIndex) : roleHits (layerSlots layer) index ≤ 7 :=
  List.countP_le_length.trans (layerSlots_length layer)

lemma collapseAll_ok (hvalid : ∀ fragment ∈ fragments, fragment.Valid)
    (hhits : ∀ index, (evidence.operators index).hits + 7 * fragments.length ≤ uint64Max)
    (hboundaries : ∀ boundary,
      evidence.forbiddenBoundaryHits boundary + fragments.length ≤ uint64Max) :
    (∀ status ∈ (runAll collapsePrefillLayerRouteFragment evidence fragments).1,
        status.ok = true) ∧
      Added (fun index => (fragments.map fun fragment =>
          roleHits (layerSlots fragment.layer) index).sum)
        (fun b => fragments.countP (crossed ·.forbiddenBoundaries b)) evidence
        (runAll collapsePrefillLayerRouteFragment evidence fragments).2 := by
  induction fragments generalizing evidence with
  | nil => exact ⟨fun _ h => absurd h List.not_mem_nil, Added.refl evidence⟩
  | cons fragment fragments ih =>
    obtain ⟨hfirst, hvalid⟩ := List.forall_mem_cons.mp hvalid
    rw [List.length_cons] at hhits hboundaries
    obtain ⟨evidence₁, hstep, hadded₁⟩ := @collapse_ok fragment evidence hfirst
      (fun index => by have := hhits index; omega)
      (fun boundary => by have := hboundaries boundary; omega)
    obtain ⟨hstatuses, hadded⟩ := @ih evidence₁ hvalid
      (fun index => by
        have := hhits index
        have := roleHits_le fragment.layer index
        rw [hadded₁.hits]
        omega)
      (fun boundary => by
        have := hboundaries boundary
        rw [hadded₁.boundaryHits]
        split_ifs <;> omega)
    have hboth := hadded₁.trans hadded
    rw [runAll, hstep]
    refine ⟨List.forall_mem_cons.mpr ⟨rfl, hstatuses⟩, fun index => ?_, fun boundary => ?_,
      hboth.status⟩
    · rw [hboth.hits, List.map_cons, List.sum_cons]
    · rw [hboth.boundaryHits, List.countP_cons, Nat.add_comm (List.countP _ _)]

lemma layerSum (index : RoleIndex) :
    ((List.range 64).map fun layer => roleHits (layerSlots layer) index).sum =
      expectedPrefillLogicalOperatorsPerTile index := by
  revert index
  decide

lemma collapse_layers (hvalid : ∀ fragment ∈ fragments, fragment.Valid)
    (hlayers : (fragments.map (·.layer)).Perm (List.range 64)) :
    (∀ status ∈ (runAll collapsePrefillLayerRouteFragment {} fragments).1, status.ok = true) ∧
      Added expectedPrefillLogicalOperatorsPerTile
        (fun b => fragments.countP (crossed ·.forbiddenBoundaries b)) {}
        (runAll collapsePrefillLayerRouteFragment {} fragments).2 := by
  have hlength : fragments.length = 64 := by
    rw [← List.length_map (·.layer), hlayers.length_eq, List.length_range]
  have hsum (index : RoleIndex) :
      (fragments.map fun fragment => roleHits (layerSlots fragment.layer) index).sum =
        expectedPrefillLogicalOperatorsPerTile index := by
    rw [← layerSum, ← (hlayers.map fun layer => roleHits (layerSlots layer) index).sum_eq,
      List.map_map]
    rfl
  obtain ⟨hstatuses, hadded⟩ := @collapseAll_ok {} fragments hvalid
    (fun index => by rw [hlength]; revert index; decide)
    (fun boundary => by rw [hlength]; revert boundary; decide)
  simp only [hsum] at hadded
  exact ⟨hstatuses, hadded⟩

lemma layerPass_complete {layerPass : PrefillRouteEvidence} {boundaries : BoundaryIndex → ℕ}
    (h : Added expectedPrefillLogicalOperatorsPerTile boundaries {} layerPass) :
    (∀ index, total (layerPass.operators index) =
        some (expectedPrefillLogicalOperatorsPerTile index)) ∧
      layerPassIsComplete layerPass false = true := by
  have htotal (index : RoleIndex) : total (layerPass.operators index) =
      some (expectedPrefillLogicalOperatorsPerTile index) := by
    have hhits : (layerPass.operators index).hits = expectedPrefillLogicalOperatorsPerTile index :=
      (h.hits index).trans (Nat.zero_add _)
    have hsmall := expectedPerTile_le index
    rw [← hhits, total_ok]
    rw [hhits]
    exact hsmall.trans (by decide)
  refine ⟨htotal, ?_⟩
  have hstatus : layerPass.error = .none ∧ layerPass.requestActive = false ∧
      layerPass.complete = false ∧ layerPass.valid = false ∧
      layerPass.completedLayerPasses = 0 ∧ layerPass.expectedLayerPasses = 0 := by
    rw [h.status]
    exact ⟨rfl, rfl, rfl, rfl, rfl, rfl⟩
  obtain ⟨herror, hactive, hcomplete, hvalid, hcompleted, hexpected⟩ := hstatus
  rw [layerPassIsComplete, if_neg (by simp [herror, hactive, hcomplete, hvalid, hcompleted,
    hexpected])]
  refine List.all_eq_true.mpr fun index _ => decide_eq_true ?_
  rw [htotal]
  rfl

end LayerPass

section Panels

theorem segment_routes_reduced (initial : PrefillLayerSegmentRouteFragment) (layer first : ℕ)
    (segments : List PrefillLayerSegmentRouteFragment) (hnonempty : segments ≠ [])
    (hsegments : Segments layer first segments) (hpanel : spanTokens segments ≤ panelCapacity) :
    (∃ fragment, (runAll reducePrefillLayerRouteFragment ⟨initial, false⟩ segments).2 =
        ⟨fragment, true⟩ ∧ Reduced layer first segments fragment ∧
      ∀ status ∈ (runAll reducePrefillLayerRouteFragment ⟨initial, false⟩ segments).1,
        status.ok = true) ∧
    (∀ (segment : PrefillLayerSegmentRouteFragment) (reducer : PrefillLayerRouteReducer),
      (¬ (validatePrefillLayerRouteFragment segment).ok = true ∨
        maximumSegmentTokens < segment.tokenCount ∨
        (reducer.initialized = true ∧ (segment.layer ≠ reducer.routeFragment.layer ∨
          segment.firstPosition ≠
            reducer.routeFragment.firstPosition + reducer.routeFragment.tokenCount ∨
          panelCapacity < reducer.routeFragment.tokenCount + segment.tokenCount))) →
      (reducePrefillLayerRouteFragment segment reducer).1.ok = false ∧
        (reducePrefillLayerRouteFragment segment reducer).2 = reducer) ∧
    ∀ fragments : List PrefillLayerSegmentRouteFragment,
      (∀ fragment ∈ fragments, (validatePrefillLayerRouteFragment fragment).ok = true) →
      (fragments.map (·.layer)).Perm (List.range decoderLayerCount) →
      let layerPass := (runAll collapsePrefillLayerRouteFragment {} fragments).2
      (∀ status ∈ (runAll collapsePrefillLayerRouteFragment {} fragments).1, status.ok = true) ∧
      (∀ index, total (layerPass.operators index) =
        some (expectedPrefillLogicalOperatorsPerTile index)) ∧
      layerPassIsComplete layerPass false = true ∧
      ∀ boundary, layerPass.forbiddenBoundaryHits boundary =
        fragments.countP (crossed ·.forbiddenBoundaries boundary) := by
  refine ⟨?_, fun segment reducer h => ?_, fun fragments hvalid hlayers => ?_⟩
  · cases segments with
    | nil => exact absurd rfl hnonempty
    | cons segment segments =>
      obtain ⟨⟨hvalid, hlayer, hsegment⟩, heach⟩ := List.forall_mem_cons.mp hsegments.each
      obtain ⟨hfirst, hconsecutive⟩ := hsegments.consecutive
      have hone : spanTokens [segment] = segment.tokenCount := Nat.add_zero _
      obtain ⟨fragment, hrun, hreduced, hstatuses⟩ := @reduceAll_reduced segment layer first
        segments [segment] (hfirst ▸ hlayer ▸ reduced_single (valid_iff.1 hvalid))
        ⟨heach, by rwa [hone]⟩ hpanel
      rw [runAll, @reduce_first segment ⟨initial, false⟩ rfl (valid_iff.1 hvalid)
        hsegment]
      exact ⟨fragment, hrun, hreduced, List.forall_mem_cons.mpr ⟨rfl, hstatuses⟩⟩
  · refine reduce_refused ?_
    rwa [valid_iff] at h
  · obtain ⟨hstatuses, hadded⟩ :=
      collapse_layers (fun fragment h => valid_iff.1 (hvalid fragment h)) hlayers
    obtain ⟨htotals, hcomplete⟩ := layerPass_complete hadded
    refine ⟨hstatuses, htotals, hcomplete, fun boundary => ?_⟩
    exact (hadded.boundaryHits boundary).trans (Nat.zero_add _)

def cutSegment (layer first tokens : ℕ) : PrefillLayerSegmentRouteFragment where
  dispositions slot :=
    if slot = .o ∧ first = 0 then .forbidden
    else if slot = .nvFp4Down then .exactFallback
    else .production
  recordedSlots := expectedPrefillLayerRouteSlots layer
  forbiddenBoundaries := if first = 0 then 0x11 else 0x03
  layer := layer
  firstPosition := first
  tokenCount := tokens

theorem two_segments_reduced :
    let segments := [cutSegment 3 0 512, cutSegment 3 512 88]
    let layerPass := (runAll collapsePrefillLayerRouteFragment {}
      ((List.range decoderLayerCount).map (cutSegment · 0 600))).2
    (∃ fragment, (runAll reducePrefillLayerRouteFragment ⟨{}, false⟩ segments).2 =
        ⟨fragment, true⟩ ∧ Reduced 3 0 segments fragment ∧
      ∀ status ∈ (runAll reducePrefillLayerRouteFragment ⟨{}, false⟩ segments).1,
        status.ok = true) ∧
    (∀ index, total (layerPass.operators index) =
      some (expectedPrefillLogicalOperatorsPerTile index)) ∧
    layerPass.forbiddenBoundaryHits 4 = 64 := by
  have hreduction := segment_routes_reduced {} 3 0 [cutSegment 3 0 512, cutSegment 3 512 88]
    (List.cons_ne_nil _ _) ⟨by decide, rfl, rfl, trivial⟩ (by decide)
  obtain ⟨hreduced, -, hcollapse⟩ := hreduction
  obtain ⟨-, htotals, -, hboundaries⟩ :=
    hcollapse ((List.range decoderLayerCount).map (cutSegment · 0 600)) (by decide) (by decide)
  exact ⟨hreduced, htotals, (hboundaries 4).trans (by decide)⟩

end Panels

end Qwen3xOrin.Runner
