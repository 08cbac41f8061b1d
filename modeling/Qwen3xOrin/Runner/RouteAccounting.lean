import Qwen3xOrin.Runner.RouteEvidence

/-! Runs of layer pass commits: the counters of a request are those of its accepted passes, whatever
the order of full and elided ones. -/

namespace Qwen3xOrin.Runner

open Io Library

section Commits

inductive PrefillRouteRecord
  | operator (role : PrefillOperatorRole) (disposition : PrefillRouteDisposition) (count : ℕ)
  | boundary (crossed : PrefillForbiddenBoundary) (count : ℕ)
  deriving DecidableEq, Repr

def PrefillRouteRecord.record (evidence : PrefillRouteEvidence) :
    PrefillRouteRecord → PrefillRouteEvidence
  | operator role disposition count =>
    (recordPrefillOperatorRoute evidence role disposition count).2
  | boundary crossed count => (recordPrefillForbiddenBoundary evidence crossed count).2

def PrefillRouteRecord.Forbidden : PrefillRouteRecord → Prop
  | operator _ disposition count => disposition = .forbidden ∧ count ≠ 0
  | boundary _ count => count ≠ 0

structure LayerPassCommit where
  elided : Bool
  records : List PrefillRouteRecord
  deriving DecidableEq, Repr

def LayerPassCommit.layerPass (commit : LayerPassCommit) : PrefillRouteEvidence :=
  commit.records.foldl PrefillRouteRecord.record {}

def LayerPassCommit.Forbidden (commit : LayerPassCommit) : Prop :=
  ∃ record ∈ commit.records, record.Forbidden

def commitPass (request : PrefillRouteEvidence) (commit : LayerPassCommit) :
    Bool × PrefillRouteEvidence :=
  if commit.elided then commitTerminalPrefixElidedLayerPass request commit.layerPass
  else commitPrefillRouteLayerPass request commit.layerPass

def commitAll : PrefillRouteEvidence → List LayerPassCommit →
    List (LayerPassCommit × Bool) × PrefillRouteEvidence
  | request, [] => ([], request)
  | request, commit :: commits =>
    let (accepted, request) := commitPass request commit
    let (verdicts, request) := commitAll request commits
    ((commit, accepted) :: verdicts, request)

def accepted (verdicts : List (LayerPassCommit × Bool)) : List LayerPassCommit :=
  (verdicts.filter (·.2)).map (·.1)

structure SameCounters (request request' : PrefillRouteEvidence) : Prop where
  operators : request'.operators = request.operators
  boundaries : request'.forbiddenBoundaryHits = request.forbiddenBoundaryHits
  passes : request'.completedLayerPasses = request.completedLayerPasses

end Commits

section Forbidden

lemma fail_error {evidence : PrefillRouteEvidence} {error : PrefillRouteEvidenceError}
    (h : error ≠ .none) : (fail evidence error).error ≠ .none := by
  unfold fail
  split_ifs with hnone
  · exact h
  · exact hnone

lemma hasForbiddenHits_iff {evidence : PrefillRouteEvidence} :
    hasForbiddenHits evidence = true ↔
      (∃ index, (evidence.operators index).forbiddenHits ≠ 0) ∨
        ∃ index, evidence.forbiddenBoundaryHits index ≠ 0 := by
  simp [hasForbiddenHits]

lemma checkedAdd_some {left right output : ℕ} (h : checkedAdd left right = some output) :
    output = left + right := by
  unfold checkedAdd at h
  split_ifs at h
  exact (Option.some.inj h).symm

lemma addHits_forbidden {counts counts' : PrefillOperatorRouteCounts} {count : ℕ}
    {disposition : PrefillRouteDisposition} (h : addHits counts count disposition = .ok counts') :
    counts'.forbiddenHits =
      counts.forbiddenHits + if disposition = .forbidden then count else 0 := by
  cases disposition with
  | production =>
    simp only [addHits] at h
    split at h <;> cases h
    rfl
  | exactFallback =>
    simp only [addHits] at h
    split at h <;> cases h
    rfl
  | forbidden =>
    simp only [addHits] at h
    split at h <;> cases h
    rename_i hadd
    exact checkedAdd_some hadd
  | unlisted => cases h

lemma addHits_error {counts : PrefillOperatorRouteCounts} {count : ℕ}
    {disposition : PrefillRouteDisposition} {error : PrefillRouteEvidenceError}
    (h : addHits counts count disposition = .error error) : error ≠ .none := by
  cases disposition with
  | unlisted =>
    cases h
    decide
  | _ =>
    simp only [addHits] at h
    split at h <;> cases h
    decide

-- An update by `extra` at one index leaves a nonzero entry somewhere exactly as expected.
lemma exists_update_ne_zero {ι : Type} [DecidableEq ι] {table : ι → ℕ} {index : ι} {extra : ℕ} :
    (∃ i, Function.update table index (table index + extra) i ≠ 0) ↔
      (∃ i, table i ≠ 0) ∨ extra ≠ 0 := by
  constructor
  · rintro ⟨i, hi⟩
    by_cases heq : i = index
    · subst heq
      rw [Function.update_self] at hi
      by_cases hzero : extra = 0
      · exact Or.inl ⟨i, by omega⟩
      · exact Or.inr hzero
    · rw [Function.update_of_ne heq] at hi
      exact Or.inl ⟨i, hi⟩
  · rintro (⟨i, hi⟩ | hextra)
    · by_cases heq : i = index
      · subst heq
        exact ⟨i, by rw [Function.update_self]; omega⟩
      · exact ⟨i, by rwa [Function.update_of_ne heq]⟩
    · exact ⟨index, by rw [Function.update_self]; omega⟩

-- What one record call can do: it fails, or it adds to one counter.
lemma record_cases (evidence : PrefillRouteEvidence) (record : PrefillRouteRecord) :
    (∃ error, error ≠ .none ∧ record.record evidence = fail evidence error) ∨
    (∃ index counts extra, (extra ≠ 0 ↔ record.Forbidden) ∧
      counts.forbiddenHits = (evidence.operators index).forbiddenHits + extra ∧
      record.record evidence =
        { evidence with operators := Function.update evidence.operators index counts }) ∨
    ∃ index extra, (extra ≠ 0 ↔ record.Forbidden) ∧
      record.record evidence = { evidence with
        forbiddenBoundaryHits := Function.update evidence.forbiddenBoundaryHits index
          (evidence.forbiddenBoundaryHits index + extra) } := by
  cases record with
  | operator role disposition count =>
    simp only [PrefillRouteRecord.record, recordPrefillOperatorRoute]
    cases role.index with
    | none => exact Or.inl ⟨_, by decide, rfl⟩
    | some index =>
      dsimp only
      cases hadd : addHits (evidence.operators index) count disposition with
      | error error => exact Or.inl ⟨error, addHits_error hadd, rfl⟩
      | ok counts =>
        refine Or.inr (Or.inl ⟨index, counts, _, ?_, addHits_forbidden hadd, rfl⟩)
        simp [PrefillRouteRecord.Forbidden]
  | boundary crossed count =>
    simp only [PrefillRouteRecord.record, recordPrefillForbiddenBoundary]
    cases crossed.index with
    | none => exact Or.inl ⟨_, by decide, rfl⟩
    | some index =>
      dsimp only
      cases hadd : checkedAdd (evidence.forbiddenBoundaryHits index) count with
      | none => exact Or.inl ⟨_, by decide, rfl⟩
      | some updated =>
        rw [checkedAdd_some hadd]
        exact Or.inr (Or.inr ⟨index, count, Iff.rfl, rfl⟩)

lemma record_error {evidence : PrefillRouteEvidence} {record : PrefillRouteRecord}
    (h : (record.record evidence).error = .none) : evidence.error = .none := by
  obtain ⟨error, herror, heq⟩ | ⟨index, counts, extra, -, -, heq⟩ | ⟨index, extra, -, heq⟩ :=
    record_cases evidence record
  · rw [heq] at h
    exact absurd h (fail_error herror)
  · rwa [heq] at h
  · rwa [heq] at h

lemma record_forbidden {evidence : PrefillRouteEvidence} {record : PrefillRouteRecord}
    (h : (record.record evidence).error = .none) :
    hasForbiddenHits (record.record evidence) = true ↔
      hasForbiddenHits evidence = true ∨ record.Forbidden := by
  obtain ⟨error, herror, heq⟩ | ⟨index, counts, extra, hextra, hcounts, heq⟩ |
    ⟨index, extra, hextra, heq⟩ := record_cases evidence record
  · rw [heq] at h
    exact absurd h (fail_error herror)
  · have htable := @exists_update_ne_zero _ _ (fun i => (evidence.operators i).forbiddenHits)
      index extra
    have hhits : ∀ i, (Function.update evidence.operators index counts i).forbiddenHits =
        Function.update (fun i => (evidence.operators i).forbiddenHits) index
          ((evidence.operators index).forbiddenHits + extra) i := by
      intro i
      by_cases hi : i = index
      · subst hi
        simp [hcounts]
      · simp [Function.update_of_ne hi]
    rw [heq, hasForbiddenHits_iff, hasForbiddenHits_iff, ← hextra]
    simp only [hhits, htable]
    tauto
  · have htable := @exists_update_ne_zero _ _ evidence.forbiddenBoundaryHits index extra
    rw [heq, hasForbiddenHits_iff, hasForbiddenHits_iff, ← hextra]
    simp only [htable]
    tauto

lemma records_forbidden {records : List PrefillRouteRecord} {evidence : PrefillRouteEvidence}
    (h : (records.foldl PrefillRouteRecord.record evidence).error = .none) :
    evidence.error = .none ∧
      (hasForbiddenHits (records.foldl PrefillRouteRecord.record evidence) = true ↔
        hasForbiddenHits evidence = true ∨ ∃ record ∈ records, record.Forbidden) := by
  induction records generalizing evidence with
  | nil => exact ⟨h, by simp⟩
  | cons record records ih =>
    obtain ⟨hfirst, hrest⟩ := ih h
    refine ⟨record_error hfirst, hrest.trans ?_⟩
    rw [record_forbidden hfirst]
    simp only [List.mem_cons, exists_eq_or_imp]
    tauto

lemma layerPass_forbidden {commit : LayerPassCommit} (h : commit.layerPass.error = .none) :
    hasForbiddenHits commit.layerPass = true ↔ commit.Forbidden := by
  refine (records_forbidden h).2.trans ?_
  simp [hasForbiddenHits_iff, LayerPassCommit.Forbidden]

end Forbidden

section Merge

variable {request layerPass merged : PrefillRouteEvidence}

def PrefillOperatorRouteCounts.hits (counts : PrefillOperatorRouteCounts) : ℕ :=
  counts.productionHits + counts.exactFallbackHits + counts.forbiddenHits

lemma total_some {counts : PrefillOperatorRouteCounts} {observed : ℕ}
    (h : total counts = some observed) : observed = counts.hits := by
  obtain ⟨subtotal, hsubtotal, hobserved⟩ := Option.bind_eq_some_iff.mp h
  rw [checkedAdd_some hobserved, checkedAdd_some hsubtotal, PrefillOperatorRouteCounts.hits]

lemma total_ok {counts : PrefillOperatorRouteCounts} (h : counts.hits ≤ uint64Max) :
    total counts = some counts.hits := by
  unfold PrefillOperatorRouteCounts.hits at h ⊢
  unfold total
  rw [(checkedAdd_eq_some (by omega)).mpr ⟨rfl, by omega⟩, some_bind,
    (checkedAdd_eq_some (by omega)).mpr ⟨rfl, h⟩]

lemma addCounts_some {destination source counts : PrefillOperatorRouteCounts}
    (h : addCounts destination source = some counts) :
    counts.hits = destination.hits + source.hits ∧
      counts.forbiddenHits = destination.forbiddenHits + source.forbiddenHits := by
  obtain ⟨production, hproduction, h⟩ := Option.bind_eq_some_iff.mp h
  obtain ⟨fallback, hfallback, h⟩ := Option.bind_eq_some_iff.mp h
  obtain ⟨forbidden, hforbidden, h⟩ := Option.bind_eq_some_iff.mp h
  cases h
  have hproduction' := checkedAdd_some hproduction
  have hfallback' := checkedAdd_some hfallback
  have hforbidden' := checkedAdd_some hforbidden
  simp only [PrefillOperatorRouteCounts.hits]
  omega

structure Merged (request layerPass merged : PrefillRouteEvidence) : Prop where
  hits : ∀ index, (merged.operators index).hits =
    (request.operators index).hits + (layerPass.operators index).hits
  forbidden : ∀ index, (merged.operators index).forbiddenHits =
    (request.operators index).forbiddenHits + (layerPass.operators index).forbiddenHits
  boundaries : ∀ index, merged.forbiddenBoundaryHits index =
    request.forbiddenBoundaryHits index + layerPass.forbiddenBoundaryHits index
  passes : merged.completedLayerPasses = request.completedLayerPasses + 1
  status : merged.requestActive = request.requestActive ∧ merged.complete = request.complete ∧
    merged.valid = request.valid ∧ merged.error = request.error

lemma mergeLayerPass_some (h : mergeLayerPass request layerPass = some merged) :
    Merged request layerPass merged := by
  obtain ⟨operators, hoperators, h⟩ := Option.bind_eq_some_iff.mp h
  obtain ⟨boundaries, hboundaries, h⟩ := Option.bind_eq_some_iff.mp h
  obtain ⟨passes, hpasses, h⟩ := Option.bind_eq_some_iff.mp h
  have hoperators' := ((@foldlM_update _ _ _
    (fun index counts => addCounts counts (layerPass.operators index)) _
    (List.nodup_finRange _) _ _).mp hoperators).1
  have hboundaries' := ((@foldlM_update _ _ _
    (fun index hits => checkedAdd hits (layerPass.forbiddenBoundaryHits index)) _
    (List.nodup_finRange _) _ _).mp hboundaries).1
  cases h
  exact
    { hits := fun index => (addCounts_some (hoperators' index (List.mem_finRange _))).1
      forbidden := fun index => (addCounts_some (hoperators' index (List.mem_finRange _))).2
      boundaries := fun index => checkedAdd_some (hboundaries' index (List.mem_finRange _))
      passes := checkedAdd_some hpasses
      status := ⟨rfl, rfl, rfl, rfl⟩ }

lemma Merged.forbidden_iff (h : Merged request layerPass merged) :
    hasForbiddenHits merged = true ↔
      hasForbiddenHits request = true ∨ hasForbiddenHits layerPass = true := by
  simp only [hasForbiddenHits_iff, h.forbidden, h.boundaries, ne_eq, Nat.add_eq_zero_iff,
    not_and_or, exists_or]
  tauto

lemma layerPassIsComplete_iff {elision : Bool} :
    layerPassIsComplete layerPass elision = true →
      layerPass.error = .none ∧ ∀ index, (layerPass.operators index).hits =
        expectedPrefillLogicalOperatorsPerTile index - omittedPerPass elision index := by
  unfold layerPassIsComplete
  split_ifs with hstatus
  · simp
  · intro h
    refine ⟨by tauto, fun index => ?_⟩
    have hindex := List.all_eq_true.mp h index (List.mem_finRange _)
    exact (total_some (of_decide_eq_true hindex)).symm

-- What one commit can do: it is rejected and only marks the request, or the pass is merged.
lemma commitPass_cases (request : PrefillRouteEvidence) (commit : LayerPassCommit) :
    (∃ error, error ≠ .none ∧ commitPass request commit = (false, fail request error)) ∨
    ∃ merged, (request.requestActive = true ∧ request.complete = false) ∧
      layerPassIsComplete commit.layerPass commit.elided = true ∧
      Merged request commit.layerPass merged ∧
      commitPass request commit =
        (true, if hasForbiddenHits merged then fail merged .forbiddenRoute else merged) := by
  have hcommit : commitPass request commit =
      commitLayerPass request commit.layerPass commit.elided := by
    unfold commitPass commitTerminalPrefixElidedLayerPass commitPrefillRouteLayerPass
    cases commit.elided <;> rfl
  rw [hcommit, commitLayerPass]
  split_ifs with hactive hcomplete
  · exact Or.inl ⟨_, by decide, rfl⟩
  · exact Or.inl ⟨_, by decide, rfl⟩
  · cases hmerge : mergeLayerPass request commit.layerPass with
    | none => exact Or.inl ⟨.counterOverflow, by decide, rfl⟩
    | some merged =>
      refine Or.inr ⟨merged, ?_, by simpa using hcomplete, mergeLayerPass_some hmerge, rfl⟩
      simpa [not_or] using hactive

end Merge

section Tally

-- The request after the commits in `taken` were accepted, and some commit was `rejected` or not.
structure Tally (request : PrefillRouteEvidence) (taken : List LayerPassCommit)
    (rejected : Bool) : Prop where
  active : request.requestActive = true ∧ request.complete = false ∧ request.valid = false
  passes : request.completedLayerPasses = taken.length
  roles : ∀ index, (request.operators index).hits +
    omittedPerPass true index * taken.countP (·.elided) =
      taken.length * expectedPrefillLogicalOperatorsPerTile index
  forbidden : hasForbiddenHits request = true ↔ ∃ commit ∈ taken, commit.Forbidden
  error : request.error = .none ↔ rejected = false ∧ hasForbiddenHits request = false

variable {request : PrefillRouteEvidence} {taken : List LayerPassCommit} {rejected : Bool}

lemma tally_reset (evidence : PrefillRouteEvidence) :
    Tally (resetPrefillRouteRequest evidence) [] false where
  active := ⟨rfl, rfl, rfl⟩
  passes := rfl
  roles index := by
    simp [resetPrefillRouteRequest, PrefillOperatorRouteCounts.hits]
  forbidden := by simp [hasForbiddenHits_iff, resetPrefillRouteRequest]
  error := by
    have hnone : hasForbiddenHits (resetPrefillRouteRequest evidence) = false := rfl
    rw [hnone]
    simp [resetPrefillRouteRequest]

lemma Tally.fail (h : Tally request taken rejected) {error : PrefillRouteEvidenceError}
    (herror : error ≠ .none) : Tally (fail request error) taken true where
  active := ⟨h.active.1, h.active.2.1, rfl⟩
  passes := h.passes
  roles := h.roles
  forbidden := h.forbidden
  error := by simp [fail_error herror]

lemma omittedPerPass_le (index : RoleIndex) (elision : Bool) :
    omittedPerPass elision index ≤ expectedPrefillLogicalOperatorsPerTile index := by
  revert index elision
  decide

lemma omittedPerPass_elided (index : RoleIndex) (elision : Bool) :
    omittedPerPass elision index = omittedPerPass true index * elision.toNat := by
  revert index elision
  decide

lemma Tally.merged (h : Tally request taken rejected) {commit : LayerPassCommit}
    {merged : PrefillRouteEvidence} (hmerged : Merged request commit.layerPass merged)
    (hcomplete : layerPassIsComplete commit.layerPass commit.elided = true) :
    Tally (if hasForbiddenHits merged then Runner.fail merged .forbiddenRoute else merged)
      (taken ++ [commit]) rejected := by
  obtain ⟨herror, hhits⟩ := layerPassIsComplete_iff hcomplete
  obtain ⟨hactive, hclosed, hvalid, hmark⟩ := hmerged.status
  have hpasses : merged.completedLayerPasses = (taken ++ [commit]).length := by
    rw [hmerged.passes, h.passes, List.length_append]
    rfl
  have hroles : ∀ index, (merged.operators index).hits +
      omittedPerPass true index * (taken ++ [commit]).countP (·.elided) =
        (taken ++ [commit]).length * expectedPrefillLogicalOperatorsPerTile index := by
    intro index
    have hcount : (taken ++ [commit]).countP (·.elided) =
        taken.countP (·.elided) + commit.elided.toNat := by
      cases helided : commit.elided <;> simp [helided]
    have hle := omittedPerPass_le index commit.elided
    rw [hmerged.hits, hhits, hcount, Nat.mul_add, ← omittedPerPass_elided, List.length_append,
      List.length_singleton, Nat.add_mul, Nat.one_mul, ← h.roles index]
    omega
  have hforbidden : hasForbiddenHits merged = true ↔ ∃ c ∈ taken ++ [commit], c.Forbidden := by
    rw [hmerged.forbidden_iff, h.forbidden, layerPass_forbidden herror]
    simp [or_and_right, exists_or]
  split_ifs with hhit
  · exact
      { active := ⟨hactive.trans h.active.1, hclosed.trans h.active.2.1, rfl⟩
        passes := hpasses
        roles := hroles
        forbidden := hforbidden
        error := by
          have hfail : hasForbiddenHits (Runner.fail merged .forbiddenRoute) = true := hhit
          rw [hfail]
          simp [@fail_error merged .forbiddenRoute (by decide)] }
  · have hnone : hasForbiddenHits request = false := by
      rw [← Bool.not_eq_true]
      exact fun hrequest => hhit (hmerged.forbidden_iff.mpr (Or.inl hrequest))
    exact
      { active := ⟨hactive.trans h.active.1, hclosed.trans h.active.2.1,
          hvalid.trans h.active.2.2⟩
        passes := hpasses
        roles := hroles
        forbidden := hforbidden
        error := by
          rw [hmark, h.error, hnone, Bool.eq_false_iff.mpr hhit] }

lemma commitPass_tally (h : Tally request taken rejected) (commit : LayerPassCommit) :
    Tally (commitPass request commit).2
      (if (commitPass request commit).1 then taken ++ [commit] else taken)
      (rejected || !(commitPass request commit).1) := by
  obtain ⟨error, herror, heq⟩ | ⟨merged, -, hcomplete, hmerged, heq⟩ :=
    commitPass_cases request commit
  · rw [heq]
    simpa using h.fail herror
  · rw [heq]
    simpa using h.merged hmerged hcomplete

lemma commitAll_tally (commits : List LayerPassCommit) (h : Tally request taken rejected) :
    Tally (commitAll request commits).2 (taken ++ accepted (commitAll request commits).1)
      (rejected || (commitAll request commits).1.any (!·.2)) := by
  induction commits generalizing request taken rejected with
  | nil => simpa [commitAll, accepted] using h
  | cons commit commits ih =>
    have hrest := ih (commitPass_tally h commit)
    simp only [commitAll]
    cases hverdict : (commitPass request commit).1 with
    | true => simpa [hverdict, accepted, Bool.or_assoc] using hrest
    | false => simpa [hverdict, accepted, Bool.or_assoc] using hrest

end Tally

section Recover

variable {request : PrefillRouteEvidence} {taken : List LayerPassCommit} {rejected : Bool}

lemma expectedPerTile_pos (index : RoleIndex) :
    0 < expectedPrefillLogicalOperatorsPerTile index := by
  revert index
  decide

lemma expectedPerTile_le (index : RoleIndex) :
    expectedPrefillLogicalOperatorsPerTile index ≤ 96 := by
  revert index
  decide

lemma recoverOmitted_ok (h : Tally request taken rejected)
    (hbound : taken.length ≤ uint64Max / 96) {omitted : Option ℕ}
    (homitted : omitted = none ∨ omitted = some (taken.countP (·.elided))) (index : RoleIndex) :
    recoverOmitted request omitted index =
      some (if terminalPrefixElidesRole (roleAt index) then some (taken.countP (·.elided))
        else omitted) := by
  have hroles := h.roles index
  have hcount : taken.countP (·.elided) ≤ taken.length := List.countP_le_length
  have hdivide : request.completedLayerPasses ≤
      uint64Max / expectedPrefillLogicalOperatorsPerTile index := by
    rw [h.passes]
    exact hbound.trans (Nat.div_le_div_left (expectedPerTile_le index) (expectedPerTile_pos index))
  have hfits : taken.length * expectedPrefillLogicalOperatorsPerTile index ≤ uint64Max := by
    rw [h.passes] at hdivide
    exact (Nat.le_div_iff_mul_le (expectedPerTile_pos index)).mp hdivide
  unfold recoverOmitted
  dsimp only
  rw [guard_bind hdivide, total_ok (by omega), some_bind, h.passes,
    guard_bind (by omega)]
  by_cases helides : terminalPrefixElidesRole (roleAt index) = true
  · have hone : omittedPerPass true index = 1 := by simp [omittedPerPass, helides]
    rw [hone, Nat.one_mul] at hroles
    have hdeficit : taken.length * expectedPrefillLogicalOperatorsPerTile index -
        (request.operators index).hits = taken.countP (·.elided) := by omega
    rw [if_pos helides, if_pos helides, hdeficit, guard_bind ⟨hcount, homitted⟩]
    rfl
  · have hzero : omittedPerPass true index = 0 := by simp [omittedPerPass, helides]
    rw [hzero, Nat.zero_mul, Nat.add_zero] at hroles
    rw [if_neg helides, if_neg helides, guard_bind (by omega)]
    rfl

lemma recoverOmitted_none (h : Tally request taken rejected)
    (hbound : ¬taken.length ≤ uint64Max / 96) (omitted : Option ℕ) :
    recoverOmitted request omitted 2 = none := by
  have hdivide : ¬request.completedLayerPasses ≤
      uint64Max / expectedPrefillLogicalOperatorsPerTile 2 := by
    rw [h.passes]
    exact hbound
  unfold recoverOmitted
  dsimp only
  rw [guard, if_neg hdivide]
  rfl

lemma terminalPrefixElided_eq (h : Tally request taken rejected) :
    terminalPrefixElidedLayerPasses request =
      if taken.length ≤ uint64Max / 96 then some (taken.countP (·.elided)) else none := by
  rw [terminalPrefixElidedLayerPasses]
  split_ifs with hbound
  · -- The first role is one of the elided ones, so the count is known from there on.
    have hstages := @foldlM_finRange _ prefillOperatorRoleCount (recoverOmitted request)
      (fun index => if index = 0 then none else some (taken.countP (·.elided))) (by
        intro index
        have homitted : (if (index : ℕ) = 0 then none else some (taken.countP (·.elided))) = none ∨
            (if (index : ℕ) = 0 then none else some (taken.countP (·.elided))) =
              some (taken.countP (·.elided)) := by
          split_ifs
          · exact Or.inl rfl
          · exact Or.inr rfl
        rw [recoverOmitted_ok h hbound homitted, if_neg (Nat.succ_ne_zero _)]
        by_cases hfirst : (index : ℕ) = 0
        · have hindex : index = 0 := Fin.ext hfirst
          subst hindex
          rfl
        · rw [if_neg hfirst]
          split_ifs <;> rfl)
    rw [if_pos rfl] at hstages
    rw [hstages]
    rfl
  · have hroles : List.finRange prefillOperatorRoleCount = [0, 1, 2, 3, 4, 5, 6] := by decide
    rw [hroles]
    simp only [List.foldlM_cons]
    cases recoverOmitted request none 0 with
    | none => rfl
    | some omitted =>
      rw [some_bind]
      cases recoverOmitted request omitted 1 with
      | none => rfl
      | some omitted =>
        rw [some_bind, recoverOmitted_none h hbound]
        rfl

end Recover

section Accounting

variable {request : PrefillRouteEvidence} {taken : List LayerPassCommit} {rejected : Bool}

lemma finalize_valid (h : Tally request taken rejected) (expected : ℕ) :
    (finalizePrefillRouteRequest request expected).valid = true ↔
      rejected = false ∧ taken.length = expected ∧ ∀ commit ∈ taken, ¬commit.Forbidden := by
  have hopen : ¬(request.requestActive = false ∨ request.complete = true) := by
    simp [h.active]
  have hforbidden : (∀ commit ∈ taken, ¬commit.Forbidden) ↔ hasForbiddenHits request = false := by
    rw [← Bool.not_eq_true, h.forbidden]
    simp only [not_exists, not_and]
  rw [hforbidden]
  unfold finalizePrefillRouteRequest
  rw [if_neg hopen, h.passes]
  dsimp only
  split_ifs with hpasses hhit
  · simp [@fail_error request .unexpectedLayerPassCount (by decide), hpasses]
  · simp [@fail_error request .forbiddenRoute (by decide), hhit]
  · simp only [decide_eq_true_eq, h.error]
    tauto

lemma commitPass_closed (hclosed : request.complete = true) (commit : LayerPassCommit) :
    (commitPass request commit).1 = false ∧ (commitPass request commit).2.complete = true := by
  obtain ⟨error, -, heq⟩ | ⟨merged, ⟨-, hopen⟩, -⟩ := commitPass_cases request commit
  · rw [heq]
    exact ⟨rfl, hclosed⟩
  · rw [hclosed] at hopen
    cases hopen

lemma commitAll_closed (hclosed : request.complete = true) (commits : List LayerPassCommit) :
    ∀ verdict ∈ (commitAll request commits).1, verdict.2 = false := by
  induction commits generalizing request with
  | nil => simp [commitAll]
  | cons commit commits ih =>
    obtain ⟨hverdict, hclosed'⟩ := commitPass_closed hclosed commit
    simp only [commitAll, List.forall_mem_cons]
    exact ⟨hverdict, ih hclosed'⟩

lemma commitPass_rejected {commit : LayerPassCommit} (h : (commitPass request commit).1 = false) :
    SameCounters request (commitPass request commit).2 := by
  obtain ⟨error, -, heq⟩ | ⟨merged, -, -, -, heq⟩ := commitPass_cases request commit
  · rw [heq]
    exact ⟨rfl, rfl, rfl⟩
  · rw [heq] at h
    cases h

theorem route_evidence_accounting (evidence : PrefillRouteEvidence)
    (commits : List LayerPassCommit) :
    let run := commitAll (resetPrefillRouteRequest evidence) commits
    (∀ request commit, (commitPass request commit).1 = false →
      SameCounters request (commitPass request commit).2) ∧
    ((∃ verdict ∈ run.1, verdict.2 = false) → run.2.error ≠ .none ∧ run.2.valid = false) ∧
    run.2.completedLayerPasses = (accepted run.1).length ∧
    terminalPrefixElidedLayerPasses run.2 =
      (if (accepted run.1).length ≤ uint64Max / 96 then some ((accepted run.1).countP (·.elided))
        else none) ∧
    ∀ expected,
      ((finalizePrefillRouteRequest run.2 expected).valid = true ↔
        (∀ verdict ∈ run.1, verdict.2 = true) ∧ (accepted run.1).length = expected ∧
          ∀ commit ∈ accepted run.1, ¬commit.Forbidden) ∧
      ∀ later, ∀ verdict ∈ (commitAll (finalizePrefillRouteRequest run.2 expected) later).1,
        verdict.2 = false := by
  intro run
  have htally : Tally run.2 (accepted run.1) (run.1.any (!·.2)) := by
    simpa using commitAll_tally commits (tally_reset evidence)
  have hrejected : run.1.any (!·.2) = false ↔ ∀ verdict ∈ run.1, verdict.2 = true := by
    simp [List.any_eq_false]
  refine ⟨fun _ _ => commitPass_rejected, ?_, htally.passes, terminalPrefixElided_eq htally, ?_⟩
  · rintro ⟨verdict, hmem, hverdict⟩
    refine ⟨fun hnone => ?_, htally.active.2.2⟩
    have hall := hrejected.mp (htally.error.mp hnone).1 verdict hmem
    rw [hverdict] at hall
    cases hall
  · intro expected
    refine ⟨?_, fun later => commitAll_closed rfl later⟩
    rw [finalize_valid htally, hrejected]

section Overflow

-- A full pass whose hits are half production and half exact fallback.
def halvedCommit : LayerPassCommit where
  elided := false
  records :=
    [.operator .nvFp4GateUp .production 32, .operator .nvFp4GateUp .exactFallback 32,
      .operator .nvFp4Down .production 32, .operator .nvFp4Down .exactFallback 32,
      .operator .fp8Qkv .production 48, .operator .fp8Qkv .exactFallback 48,
      .operator .fp8Z .production 24, .operator .fp8Z .exactFallback 24,
      .operator .fp8O .production 32, .operator .fp8O .exactFallback 32,
      .operator .attention .production 8, .operator .attention .exactFallback 8,
      .operator .gdn .production 24, .operator .gdn .exactFallback 24]

def halvedHits (index : RoleIndex) : ℕ := [32, 32, 48, 24, 32, 8, 24].getD index 0

def halvedRequest (count : ℕ) : PrefillRouteEvidence where
  operators index := ⟨count * halvedHits index, count * halvedHits index, 0⟩
  completedLayerPasses := count
  requestActive := true

lemma halvedCommit_operators (index : RoleIndex) :
    halvedCommit.layerPass.operators index = ⟨halvedHits index, halvedHits index, 0⟩ := by
  revert index
  decide

lemma halvedHits_le (index : RoleIndex) : halvedHits index ≤ 48 := by
  revert index
  decide

lemma mergeLayerPass_halved {count : ℕ} (h : (count + 1) * 48 ≤ uint64Max) :
    mergeLayerPass (halvedRequest count) halvedCommit.layerPass =
      some (halvedRequest (count + 1)) := by
  have hadd : ∀ index, checkedAdd (count * halvedHits index) (halvedHits index) =
      some ((count + 1) * halvedHits index) := by
    intro index
    have hle := Nat.mul_le_mul_left (count + 1) (halvedHits_le index)
    have hsum : (count + 1) * halvedHits index =
        count * halvedHits index + halvedHits index := Nat.succ_mul _ _
    rw [hsum]
    exact (checkedAdd_eq_some (by omega)).mpr ⟨rfl, by omega⟩
  have hoperators := (@foldlM_update _ _ _
    (fun index counts => addCounts counts (halvedCommit.layerPass.operators index)) _
    (List.nodup_finRange prefillOperatorRoleCount) (halvedRequest count).operators
    (halvedRequest (count + 1)).operators).mpr (by
      refine ⟨fun index _ => ?_, fun index h => absurd (List.mem_finRange _) h⟩
      rw [halvedCommit_operators]
      simp only [addCounts, halvedRequest]
      rw [hadd, some_bind, some_bind]
      rfl)
  have hboundaries := (@foldlM_update _ _ _
    (fun index hits => checkedAdd hits (halvedCommit.layerPass.forbiddenBoundaryHits index)) _
    (List.nodup_finRange prefillForbiddenBoundaryCount)
    (halvedRequest count).forbiddenBoundaryHits
    (halvedRequest (count + 1)).forbiddenBoundaryHits).mpr
      ⟨fun index _ => rfl, fun index h => absurd (List.mem_finRange _) h⟩
  have hpasses : checkedAdd (halvedRequest count).completedLayerPasses 1 = some (count + 1) :=
    (checkedAdd_eq_some (show count ≤ uint64Max by omega)).mpr ⟨rfl, by omega⟩
  unfold mergeLayerPass
  rw [hoperators, some_bind, hboundaries, some_bind, hpasses]
  rfl

lemma commitPass_halved {count : ℕ} (h : (count + 1) * 48 ≤ uint64Max) :
    commitPass (halvedRequest count) halvedCommit = (true, halvedRequest (count + 1)) := by
  have hcomplete : layerPassIsComplete halvedCommit.layerPass false = true := by decide
  have hclean : hasForbiddenHits (halvedRequest (count + 1)) = false := rfl
  have hopen : ¬((halvedRequest count).requestActive = false ∨
      (halvedRequest count).complete = true) := by simp [halvedRequest]
  have hcommit : commitPass (halvedRequest count) halvedCommit =
      commitLayerPass (halvedRequest count) halvedCommit.layerPass false := rfl
  rw [hcommit, commitLayerPass, if_neg hopen, if_neg (by simp [hcomplete]),
    mergeLayerPass_halved h]
  dsimp only
  rw [hclean]
  rfl

lemma commitAll_halved (repeats : ℕ) {count : ℕ} (h : (count + repeats) * 48 ≤ uint64Max) :
    commitAll (halvedRequest count) (List.replicate repeats halvedCommit) =
      (List.replicate repeats (halvedCommit, true), halvedRequest (count + repeats)) := by
  induction repeats generalizing count with
  | zero => rfl
  | succ repeats ih =>
    rw [List.replicate_succ, List.replicate_succ, commitAll,
      commitPass_halved (by omega)]
    dsimp only
    rw [ih (by omega), Nat.add_right_comm, Nat.add_assoc]

lemma elided_lost {repeats : ℕ} (hfits : repeats * 48 ≤ uint64Max)
    (hlong : uint64Max / 96 < repeats) :
    let run := commitAll (resetPrefillRouteRequest {}) (List.replicate repeats halvedCommit)
    terminalPrefixElidedLayerPasses run.2 ≠ some ((accepted run.1).countP (·.elided)) := by
  intro run
  have hstart : resetPrefillRouteRequest {} = halvedRequest 0 := by
    simp [resetPrefillRouteRequest, halvedRequest]
  have hrun : run = (List.replicate repeats (halvedCommit, true), halvedRequest repeats) := by
    simp only [run, hstart]
    rw [commitAll_halved repeats (by omega), Nat.zero_add]
  have htally : Tally run.2 (accepted run.1) (run.1.any (!·.2)) := by
    simpa using commitAll_tally (List.replicate repeats halvedCommit) (tally_reset {})
  have hlength : (accepted run.1).length = repeats := by
    rw [hrun]
    simp [accepted]
  rw [terminalPrefixElided_eq htally, hlength, if_neg (by omega)]
  simp

end Overflow

theorem route_evidence_elided_lost :
    let run := commitAll (resetPrefillRouteRequest {})
      (List.replicate 192153584101141163 halvedCommit)
    terminalPrefixElidedLayerPasses run.2 ≠ some ((accepted run.1).countP (·.elided)) :=
  elided_lost (by decide) (by decide)

end Accounting

end Qwen3xOrin.Runner
