import Qwen3xOrin.Io.Tensor
import Qwen3xOrin.Library.Guard
import Qwen3xOrin.Library.LastWrite

/-! The route evidence of a prefill request: what each layer pass recorded, merged pass by pass, and
the number of passes whose terminal suffix was left out, recovered from the totals. -/

namespace Qwen3xOrin.Runner

open Io Library

inductive PrefillOperatorRole
  | nvFp4GateUp
  | nvFp4Down
  | fp8Qkv
  | fp8Z
  | fp8O
  | attention
  | gdn
  | count
  deriving DecidableEq, Repr

-- `unlisted` stands for a value outside the enumeration.
inductive PrefillRouteDisposition
  | production
  | exactFallback
  | forbidden
  | unlisted
  deriving DecidableEq, Repr

inductive PrefillForbiddenBoundary
  | prefixCache
  | mtp
  | cublasLt
  | externalReference
  | approximateNumerics
  | count
  deriving DecidableEq, Repr

inductive PrefillRouteEvidenceError
  | none
  | inactiveRequest
  | invalidRole
  | invalidDisposition
  | invalidBoundary
  | counterOverflow
  | incompleteTile
  | unexpectedLayerPassCount
  | forbiddenRoute
  deriving DecidableEq, Repr

abbrev prefillOperatorRoleCount : ℕ := 7
abbrev prefillForbiddenBoundaryCount : ℕ := 5

abbrev RoleIndex := Fin prefillOperatorRoleCount
abbrev BoundaryIndex := Fin prefillForbiddenBoundaryCount

def PrefillOperatorRole.index : PrefillOperatorRole → Option RoleIndex
  | nvFp4GateUp => some 0
  | nvFp4Down => some 1
  | fp8Qkv => some 2
  | fp8Z => some 3
  | fp8O => some 4
  | attention => some 5
  | gdn => some 6
  | count => Option.none

def roleAt (index : RoleIndex) : PrefillOperatorRole :=
  [.nvFp4GateUp, .nvFp4Down, .fp8Qkv, .fp8Z, .fp8O, .attention, .gdn].getD index .count

def PrefillForbiddenBoundary.index : PrefillForbiddenBoundary → Option BoundaryIndex
  | prefixCache => some 0
  | mtp => some 1
  | cublasLt => some 2
  | externalReference => some 3
  | approximateNumerics => some 4
  | count => Option.none

def expectedPrefillLogicalOperatorsPerTile (index : RoleIndex) : ℕ :=
  [64, 64, 96, 48, 64, 16, 48].getD index 0

structure PrefillOperatorRouteCounts where
  productionHits : ℕ := 0
  exactFallbackHits : ℕ := 0
  forbiddenHits : ℕ := 0
  deriving DecidableEq, Repr

structure PrefillRouteEvidence where
  operators : RoleIndex → PrefillOperatorRouteCounts := fun _ => {}
  forbiddenBoundaryHits : BoundaryIndex → ℕ := fun _ => 0
  completedLayerPasses : ℕ := 0
  expectedLayerPasses : ℕ := 0
  requestActive : Bool := false
  complete : Bool := false
  valid : Bool := false
  error : PrefillRouteEvidenceError := .none

def fail (evidence : PrefillRouteEvidence) (error : PrefillRouteEvidenceError) :
    PrefillRouteEvidence :=
  { evidence with
    valid := false
    error := if evidence.error = .none then error else evidence.error }

def total (counts : PrefillOperatorRouteCounts) : Option ℕ := do
  let subtotal ← checkedAdd counts.productionHits counts.exactFallbackHits
  checkedAdd subtotal counts.forbiddenHits

def terminalPrefixElidesRole (role : PrefillOperatorRole) : Bool :=
  role = .nvFp4GateUp ∨ role = .nvFp4Down ∨ role = .fp8O ∨ role = .attention

def omittedPerPass (terminalPrefixElision : Bool) (index : RoleIndex) : ℕ :=
  if terminalPrefixElision && terminalPrefixElidesRole (roleAt index) then 1 else 0

def layerPassIsComplete (layerPass : PrefillRouteEvidence) (terminalPrefixElision : Bool) : Bool :=
  if layerPass.error ≠ .none ∨ layerPass.requestActive ∨ layerPass.complete ∨ layerPass.valid ∨
      layerPass.completedLayerPasses ≠ 0 ∨ layerPass.expectedLayerPasses ≠ 0 then false
  else
    (List.finRange prefillOperatorRoleCount).all fun index =>
      total (layerPass.operators index) = some (expectedPrefillLogicalOperatorsPerTile index -
        omittedPerPass terminalPrefixElision index)

def hasForbiddenHits (evidence : PrefillRouteEvidence) : Bool :=
  ((List.finRange prefillOperatorRoleCount).any fun index =>
    (evidence.operators index).forbiddenHits ≠ 0) ||
  (List.finRange prefillForbiddenBoundaryCount).any fun index =>
    evidence.forbiddenBoundaryHits index ≠ 0

def resetPrefillRouteRequest (_evidence : PrefillRouteEvidence) : PrefillRouteEvidence :=
  { requestActive := true }

def addHits (counts : PrefillOperatorRouteCounts) (count : ℕ) :
    PrefillRouteDisposition → Except PrefillRouteEvidenceError PrefillOperatorRouteCounts
  | .production =>
    match checkedAdd counts.productionHits count with
    | some updated => .ok { counts with productionHits := updated }
    | none => .error .counterOverflow
  | .exactFallback =>
    match checkedAdd counts.exactFallbackHits count with
    | some updated => .ok { counts with exactFallbackHits := updated }
    | none => .error .counterOverflow
  | .forbidden =>
    match checkedAdd counts.forbiddenHits count with
    | some updated => .ok { counts with forbiddenHits := updated }
    | none => .error .counterOverflow
  | .unlisted => .error .invalidDisposition

def recordPrefillOperatorRoute (evidence : PrefillRouteEvidence) (role : PrefillOperatorRole)
    (disposition : PrefillRouteDisposition) (count : ℕ) : Bool × PrefillRouteEvidence :=
  match role.index with
  | none => (false, fail evidence .invalidRole)
  | some index =>
    match addHits (evidence.operators index) count disposition with
    | .error error => (false, fail evidence error)
    | .ok counts =>
      (true, { evidence with operators := Function.update evidence.operators index counts })

def recordPrefillForbiddenBoundary (evidence : PrefillRouteEvidence)
    (boundary : PrefillForbiddenBoundary) (count : ℕ) : Bool × PrefillRouteEvidence :=
  match boundary.index with
  | none => (false, fail evidence .invalidBoundary)
  | some index =>
    match checkedAdd (evidence.forbiddenBoundaryHits index) count with
    | none => (false, fail evidence .counterOverflow)
    | some updated =>
      (true, { evidence with
        forbiddenBoundaryHits := Function.update evidence.forbiddenBoundaryHits index updated })

def addCounts (destination source : PrefillOperatorRouteCounts) :
    Option PrefillOperatorRouteCounts := do
  let productionHits ← checkedAdd destination.productionHits source.productionHits
  let exactFallbackHits ← checkedAdd destination.exactFallbackHits source.exactFallbackHits
  let forbiddenHits ← checkedAdd destination.forbiddenHits source.forbiddenHits
  pure ⟨productionHits, exactFallbackHits, forbiddenHits⟩

def mergeLayerPass (request layerPass : PrefillRouteEvidence) : Option PrefillRouteEvidence := do
  let operators ← (List.finRange prefillOperatorRoleCount).foldlM (fun merged index => do
    let counts ← addCounts (merged index) (layerPass.operators index)
    pure (Function.update merged index counts)) request.operators
  let boundaryHits ← (List.finRange prefillForbiddenBoundaryCount).foldlM (fun merged index => do
    let hits ← checkedAdd (merged index) (layerPass.forbiddenBoundaryHits index)
    pure (Function.update merged index hits)) request.forbiddenBoundaryHits
  let completedLayerPasses ← checkedAdd request.completedLayerPasses 1
  pure { request with
    operators := operators
    forbiddenBoundaryHits := boundaryHits
    completedLayerPasses := completedLayerPasses }

def commitLayerPass (request layerPass : PrefillRouteEvidence) (terminalPrefixElision : Bool) :
    Bool × PrefillRouteEvidence :=
  if request.requestActive = false ∨ request.complete then (false, fail request .inactiveRequest)
  else if layerPassIsComplete layerPass terminalPrefixElision = false then
    (false, fail request .incompleteTile)
  else
    match mergeLayerPass request layerPass with
    | none => (false, fail request .counterOverflow)
    | some merged => (true, if hasForbiddenHits merged then fail merged .forbiddenRoute else merged)

def commitPrefillRouteLayerPass (request layerPass : PrefillRouteEvidence) :
    Bool × PrefillRouteEvidence := commitLayerPass request layerPass false

def commitTerminalPrefixElidedLayerPass (request layerPass : PrefillRouteEvidence) :
    Bool × PrefillRouteEvidence := commitLayerPass request layerPass true

def recoverOmitted (evidence : PrefillRouteEvidence) (omitted : Option ℕ) (index : RoleIndex) :
    Option (Option ℕ) := do
  let perPass := expectedPrefillLogicalOperatorsPerTile index
  guard (evidence.completedLayerPasses ≤ uint64Max / perPass)
  let expected := evidence.completedLayerPasses * perPass
  let observed ← total (evidence.operators index)
  guard (observed ≤ expected)
  let deficit := expected - observed
  if terminalPrefixElidesRole (roleAt index) then do
    guard (deficit ≤ evidence.completedLayerPasses ∧ (omitted = none ∨ omitted = some deficit))
    pure (some deficit)
  else do
    guard (deficit = 0)
    pure omitted

def terminalPrefixElidedLayerPasses (evidence : PrefillRouteEvidence) : Option ℕ :=
  ((List.finRange prefillOperatorRoleCount).foldlM (recoverOmitted evidence) none).join

def finalizePrefillRouteRequest (request : PrefillRouteEvidence) (expectedLayerPasses : ℕ) :
    PrefillRouteEvidence :=
  let checked :=
    if request.requestActive = false ∨ request.complete then fail request .inactiveRequest
    else if request.completedLayerPasses ≠ expectedLayerPasses then
      fail request .unexpectedLayerPassCount
    else if hasForbiddenHits request then fail request .forbiddenRoute
    else request
  { checked with
    requestActive := false
    complete := true
    expectedLayerPasses := expectedLayerPasses
    valid := checked.error = .none }

end Qwen3xOrin.Runner
