import Qwen3xOrin.Resident.PlanConditions

/-! The plan that the builder returns: where every text tensor goes, and in which order a shard
lists its tensors. -/

namespace Qwen3xOrin.Resident

open Library Io Ranges

lemma rangeLe_trans (a b c : String × TensorLocator) (hab : rangeLe a b = true)
    (hbc : rangeLe b c = true) : rangeLe a c = true := by
  unfold rangeLe at *
  grind

lemma rangeLe_total (a b : String × TensorLocator) : (rangeLe a b || rangeLe b a) = true := by
  unfold rangeLe
  grind

lemma candidateLe_trans (a b c : String × TensorLocator) (hab : candidateLe a b = true)
    (hbc : candidateLe b c = true) : candidateLe a c = true := by
  unfold candidateLe at *
  grind

lemma candidateLe_total (a b : String × TensorLocator) :
    (candidateLe a b || candidateLe b a) = true := by
  unfold candidateLe
  grind

lemma checkNeighbours_ok {shard : String} {ranges : List (String × TensorLocator)} :
    checkNeighbours shard ranges = .ok ⟨⟩ ↔ ranges.IsChain (Before sourceLo sourceHi) := by
  induction ranges with
  | nil => simp [checkNeighbours]
  | cons a ranges ih =>
    cases ranges with
    | nil => simp [checkNeighbours]
    | cons b ranges =>
      rw [checkNeighbours, guard_ok, ih, List.isChain_cons_cons, not_lt]
      rfl

lemma shardRanges_apart {tensors : List (String × TensorLocator)} {shard : String}
    (hnonempty : ∀ item ∈ tensors, sourceLo item < sourceHi item) :
    checkNeighbours shard (shardRanges tensors shard) = .ok ⟨⟩ ↔
      tensors.Pairwise fun a b => a.2.shard = shard → b.2.shard = shard →
        Apart sourceLo sourceHi a b := by
  have hmem : ∀ item ∈ shardRanges tensors shard, sourceLo item < sourceHi item := by
    intro item hitem
    exact hnonempty item (List.mem_filter.mp (List.mem_mergeSort.mp hitem)).1
  have hsorted : (shardRanges tensors shard).Pairwise fun a b => sourceLo a ≤ sourceLo b := by
    refine (List.pairwise_mergeSort rangeLe_trans rangeLe_total _).imp fun {a b} h => ?_
    unfold sourceLo
    unfold rangeLe at h
    grind
  rw [checkNeighbours_ok, isChain_iff_pairwise fun a ha => (hmem a ha).le,
    pairwise_before_iff hsorted hmem, shardRanges, pairwise_apart_perm (List.mergeSort_perm _ _),
    List.pairwise_filter]
  simp

lemma neighbours_apart {tensors : List (String × TensorLocator)}
    (hnonempty : ∀ item ∈ tensors, sourceLo item < sourceHi item) :
    (∀ shard ∈ manifestShards tensors,
      checkNeighbours shard (shardRanges tensors shard) = .ok ⟨⟩) ↔
      tensors.Pairwise fun a b => a.2.shard = b.2.shard → Apart sourceLo sourceHi a b := by
  constructor
  · intro h
    rw [List.pairwise_iff_forall_sublist]
    intro a b hab hshard
    have hmem : a.2.shard ∈ manifestShards tensors := by
      rw [manifestShards, List.mem_mergeSort, List.mem_dedup]
      exact List.mem_map_of_mem (hab.subset (by simp))
    have hpair := (shardRanges_apart hnonempty).mp (h _ hmem)
    rw [List.pairwise_iff_forall_sublist] at hpair
    exact hpair hab rfl hshard.symm
  · intro h shard _
    rw [shardRanges_apart hnonempty]
    exact h.imp fun hab ha hb => hab (ha.trans hb.symm)

lemma textTensors_perm (tensors : List (String × TensorLocator)) :
    (textTensors tensors).Perm (tensors.filter isText) := List.mergeSort_perm _ _

-- Text tensors of one shard come in the order of their source ranges.
lemma textTensors_before {tensors : List (String × TensorLocator)}
    (hnonempty : ∀ item ∈ tensors, sourceLo item < sourceHi item)
    (hapart : tensors.Pairwise fun a b => a.2.shard = b.2.shard →
      Apart sourceLo sourceHi a b) :
    (textTensors tensors).Pairwise fun a b => a.2.shard = b.2.shard →
      Before sourceLo sourceHi a b := by
  have hperm := textTensors_perm tensors
  have hsymm : ∀ {a b : String × TensorLocator},
      (a.2.shard = b.2.shard → Apart sourceLo sourceHi a b) →
      (b.2.shard = a.2.shard → Apart sourceLo sourceHi b a) :=
    fun h hshard => (h hshard.symm).symm
  have hpairs := (hperm.pairwise_iff hsymm).mpr (hapart.filter _)
  refine ((List.pairwise_mergeSort candidateLe_trans candidateLe_total _).and
    hpairs).imp_of_mem ?_
  intro a b ha hb h hshard
  have hb' := hnonempty b (List.mem_filter.mp (List.mem_mergeSort.mp hb)).1
  have hle : sourceLo a ≤ sourceLo b := by
    have hc := h.1
    unfold sourceLo
    unfold candidateLe at hc
    grind
  obtain hab | hba := h.2 hshard
  · exact hab
  · unfold Before at hba
    omega

def placedTensors : ℕ → List (String × TensorLocator) → List PlannedTensor
  | _, [] => []
  | offset, candidate :: candidates =>
    plannedTensor candidate offset :: placedTensors (offset + allocationBytes candidate) candidates

lemma placedTensors_nil (offset : ℕ) : placedTensors offset [] = [] := rfl

lemma placedTensors_cons (offset : ℕ) (candidate : String × TensorLocator)
    (candidates : List (String × TensorLocator)) :
    placedTensors offset (candidate :: candidates) =
      plannedTensor candidate offset ::
        placedTensors (offset + allocationBytes candidate) candidates := rfl

def indicesOf (shard : String) : ℕ → List (String × TensorLocator) → List ℕ
  | _, [] => []
  | index, candidate :: candidates =>
    if shard = candidate.2.shard then index :: indicesOf shard (index + 1) candidates
    else indicesOf shard (index + 1) candidates

lemma indicesOf_nil (shard : String) (index : ℕ) : indicesOf shard index [] = [] := rfl

lemma indicesOf_cons (shard : String) (index : ℕ) (candidate : String × TensorLocator)
    (candidates : List (String × TensorLocator)) :
    indicesOf shard index (candidate :: candidates) =
      if shard = candidate.2.shard then index :: indicesOf shard (index + 1) candidates
      else indicesOf shard (index + 1) candidates := rfl

def shardBytes (shard : String) (candidates : List (String × TensorLocator)) : ℕ :=
  ((candidates.filter fun candidate => shard = candidate.2.shard).map
    fun candidate => candidate.2.byteSize.toNat).sum

def grownShard (index : ℕ) (candidates : List (String × TensorLocator)) (shard : PlannedShard) :
    PlannedShard :=
  { shard with
    tensorIndices := shard.tensorIndices ++ indicesOf shard.identity.filename index candidates
    copiedBytes := shard.copiedBytes + shardBytes shard.identity.filename candidates }

def grownPlan (plan : ResidentLoadPlan) (candidates : List (String × TensorLocator)) :
    ResidentLoadPlan :=
  { plan with
    arenaBytes := plan.arenaBytes + (candidates.map allocationBytes).sum
    copiedBytes := plan.copiedBytes +
      (candidates.map fun candidate => candidate.2.byteSize.toNat).sum
    tensors := plan.tensors ++ placedTensors plan.arenaBytes candidates
    shards := plan.shards.map (grownShard plan.tensors.length candidates) }

lemma grownShard_cons (index : ℕ) (candidate : String × TensorLocator)
    (candidates : List (String × TensorLocator)) (shard : PlannedShard) :
    grownShard (index + 1) candidates (addToShard candidate index shard) =
      grownShard index (candidate :: candidates) shard := by
  unfold addToShard grownShard
  by_cases h : shard.identity.filename = candidate.2.shard
  · simp [h, indicesOf_cons, shardBytes, Nat.add_assoc]
  · simp [h, indicesOf_cons, shardBytes]

lemma grownPlan_cons (plan : ResidentLoadPlan) (candidate : String × TensorLocator)
    (candidates : List (String × TensorLocator)) :
    grownPlan (grownPlan plan [candidate]) candidates =
      grownPlan plan (candidate :: candidates) := by
  have hshards : ∀ shard, grownShard (plan.tensors.length + 1) candidates
      (grownShard plan.tensors.length [candidate] shard) =
      grownShard plan.tensors.length (candidate :: candidates) shard := by
    intro shard
    rw [← grownShard_cons, ← grownShard_cons]
    simp [grownShard, indicesOf_nil, shardBytes]
  simp [grownPlan, placedTensors_nil, placedTensors_cons, Nat.add_assoc, hshards]

lemma grownPlan_nil (plan : ResidentLoadPlan) : grownPlan plan [] = plan := by
  have hshards : grownShard plan.tensors.length [] = id := by
    funext shard
    simp [grownShard, indicesOf_nil, shardBytes]
  simp [grownPlan, placedTensors_nil, hshards]

structure PlanBounds (plan : ResidentLoadPlan) : Prop where
  arenaBytes : plan.arenaBytes ≤ uint64Max
  copiedBytes : plan.copiedBytes ≤ uint64Max
  shards : ∀ shard ∈ plan.shards, shard.copiedBytes ≤ plan.copiedBytes

lemma placeTensor_ok {plan plan' : ResidentLoadPlan} (hplan : PlanBounds plan)
    {candidate : String × TensorLocator} :
    placeTensor plan candidate = .ok plan' ↔
      plan.arenaBytes + allocationBytes candidate ≤ uint64Max ∧
      plan.copiedBytes + candidate.2.byteSize.toNat ≤ uint64Max ∧
      plan' = grownPlan plan [candidate] := by
  have halign : ∀ output, checkedAlignUp candidate.2.byteSize.toNat residentTensorAlignment =
      some output ↔ output = allocationBytes candidate ∧
        candidate.2.byteSize.toNat ≤ uint64Max - 255 := by
    intro output
    unfold checkedAlignUp
    rw [show residentTensorAlignment - 1 = 255 from rfl]
    split_ifs with h
    · simp only [false_iff]
      omega
    · simp only [Option.some.injEq, allocationBytes]
      omega
  have hroom : plan.arenaBytes + allocationBytes candidate ≤ uint64Max →
      candidate.2.byteSize.toNat ≤ uint64Max - 255 := by
    simp only [allocationBytes, alignUp, residentTensorAlignment, uint64Max]
    omega
  have hnew : ∀ shard ∈ plan.shards,
      plan.copiedBytes + candidate.2.byteSize.toNat ≤ uint64Max →
      checkedAdd shard.copiedBytes candidate.2.byteSize.toNat ≠ none := by
    intro shard hshard hle
    have hcopied := hplan.shards shard hshard
    rw [(checkedAdd_eq_some (by omega)).mpr ⟨rfl, by omega⟩]
    simp
  have hgrown : grownPlan plan [candidate] = { plan with
      arenaBytes := plan.arenaBytes + allocationBytes candidate
      copiedBytes := plan.copiedBytes + candidate.2.byteSize.toNat
      tensors := plan.tensors ++ [plannedTensor candidate
        (plan.arenaBytes + allocationBytes candidate - allocationBytes candidate)]
      shards := plan.shards.map (addToShard candidate plan.tensors.length) } := by
    have hshards : grownShard plan.tensors.length [candidate] =
        addToShard candidate plan.tensors.length := by
      funext shard
      rw [← grownShard_cons]
      simp [grownShard, indicesOf_nil, shardBytes]
    simp [grownPlan, placedTensors_nil, placedTensors_cons, hshards]
  unfold placeTensor
  constructor
  · intro h
    dsimp only at h
    split at h
    · cases h
    · next allocation arenaBytes copiedBytes htotals =>
      simp only [Option.bind_eq_bind, Option.bind_eq_some_iff, Option.pure_def,
        Option.some.injEq, Prod.mk.injEq] at htotals
      obtain ⟨a, ha, b, hb, c, hc, rfl, rfl, rfl⟩ := htotals
      obtain ⟨rfl, -⟩ := (halign _).mp ha
      obtain ⟨rfl, harena⟩ := (checkedAdd_eq_some hplan.arenaBytes).mp hb
      obtain ⟨rfl, hcopied⟩ := (checkedAdd_eq_some hplan.copiedBytes).mp hc
      rw [guard_ok] at h
      refine ⟨harena, hcopied, ?_⟩
      rw [hgrown]
      exact (Except.ok.inj h.2).symm
  · rintro ⟨harena, hcopied, rfl⟩
    dsimp only
    rw [(halign _).mpr ⟨rfl, hroom harena⟩]
    simp only [Option.bind_eq_bind, Option.bind_some,
      (checkedAdd_eq_some hplan.arenaBytes).mpr ⟨rfl, harena⟩,
      (checkedAdd_eq_some hplan.copiedBytes).mpr ⟨rfl, hcopied⟩, Option.pure_def]
    rw [if_neg]
    · rw [hgrown]
    · rintro ⟨shard, hshard, -, hnone⟩
      exact hnew shard hshard hcopied hnone

lemma PlanBounds.grown {plan : ResidentLoadPlan} (h : PlanBounds plan)
    {candidate : String × TensorLocator}
    (harena : plan.arenaBytes + allocationBytes candidate ≤ uint64Max)
    (hcopied : plan.copiedBytes + candidate.2.byteSize.toNat ≤ uint64Max) :
    PlanBounds (grownPlan plan [candidate]) where
  arenaBytes := by simpa [grownPlan] using harena
  copiedBytes := by simpa [grownPlan] using hcopied
  shards := by
    intro shard hshard
    obtain ⟨old, hold, rfl⟩ := List.mem_map.mp hshard
    have hle := h.shards old hold
    by_cases hname : old.identity.filename = candidate.2.shard
    · simpa [grownPlan, grownShard, shardBytes, hname] using hle
    · simp [grownPlan, grownShard, shardBytes, hname]
      omega

lemma placeTensors_ok {candidates : List (String × TensorLocator)} {plan plan' : ResidentLoadPlan}
    (hplan : PlanBounds plan) :
    placeTensors plan candidates = .ok plan' ↔
      plan.arenaBytes + (candidates.map allocationBytes).sum ≤ uint64Max ∧
      plan.copiedBytes + (candidates.map fun candidate => candidate.2.byteSize.toNat).sum ≤
        uint64Max ∧ plan' = grownPlan plan candidates := by
  unfold placeTensors
  induction candidates generalizing plan with
  | nil =>
    rw [List.foldlM_nil, grownPlan_nil]
    constructor
    · intro h
      exact ⟨by simpa using hplan.arenaBytes, by simpa using hplan.copiedBytes,
        (Except.ok.inj h).symm⟩
    · rintro ⟨-, -, rfl⟩
      rfl
  | cons candidate candidates ih =>
    rw [List.foldlM_cons, bind_ok]
    simp only [List.map_cons, List.sum_cons, ← Nat.add_assoc]
    constructor
    · rintro ⟨next, hnext, hrest⟩
      obtain ⟨harena, hcopied, rfl⟩ := (placeTensor_ok hplan).mp hnext
      obtain ⟨h₁, h₂, rfl⟩ := (ih (hplan.grown harena hcopied)).mp hrest
      refine ⟨by simpa [grownPlan] using h₁, by simpa [grownPlan] using h₂, ?_⟩
      exact grownPlan_cons plan candidate candidates
    · rintro ⟨h₁, h₂, rfl⟩
      have harena : plan.arenaBytes + allocationBytes candidate ≤ uint64Max := by omega
      have hcopied : plan.copiedBytes + candidate.2.byteSize.toNat ≤ uint64Max := by omega
      refine ⟨_, (placeTensor_ok hplan).mpr ⟨harena, hcopied, rfl⟩,
        (ih (hplan.grown harena hcopied)).mpr ⟨?_, ?_, ?_⟩⟩
      · simpa [grownPlan] using h₁
      · simpa [grownPlan] using h₂
      · exact (grownPlan_cons plan candidate candidates).symm

end Qwen3xOrin.Resident
