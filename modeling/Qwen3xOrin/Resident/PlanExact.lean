import Qwen3xOrin.Resident.PlanLayout

/-! The builder succeeds exactly under its conditions, and then returns an aligned arena without
overlap in which every shard lists its text tensors in source order. -/

namespace Qwen3xOrin.Resident

open Library Io Ranges

def emptyPlan (identities : List ShardIdentity) : ResidentLoadPlan :=
  { sourceBytes := (identities.map fun identity => identity.fileSize.toNat).sum
    shards := (identityMap identities).map fun identity => { identity := identity } }

def residentPlan (manifest : WeightManifest) (identities : List ShardIdentity) :
    ResidentLoadPlan :=
  grownPlan (emptyPlan identities) (textTensors manifest.tensors)

lemma emptyPlan_bounds (identities : List ShardIdentity) : PlanBounds (emptyPlan identities) where
  arenaBytes := Nat.zero_le _
  copiedBytes := Nat.zero_le _
  shards := by
    intro shard hshard
    obtain ⟨identity, -, rfl⟩ := List.mem_map.mp hshard
    exact le_rfl

lemma length_placedTensors (offset : ℕ) (candidates : List (String × TensorLocator)) :
    (placedTensors offset candidates).length = candidates.length := by
  induction candidates generalizing offset with
  | nil => rfl
  | cons candidate candidates ih => simp [placedTensors_cons, ih]

section ResidentPlan

variable (manifest : WeightManifest) (identities : List ShardIdentity)

lemma residentPlan_tensors : (residentPlan manifest identities).tensors =
    placedTensors 0 (textTensors manifest.tensors) := by
  simp [residentPlan, grownPlan, emptyPlan]

lemma residentPlan_arenaBytes : (residentPlan manifest identities).arenaBytes =
    textArenaBytes manifest.tensors := by
  have hperm := (textTensors_perm manifest.tensors).map allocationBytes
  simp [residentPlan, grownPlan, emptyPlan, textArenaBytes, hperm.sum_eq]

lemma residentPlan_copiedBytes : (residentPlan manifest identities).copiedBytes =
    textBytes manifest.tensors := by
  have hperm := (textTensors_perm manifest.tensors).map fun item => item.2.byteSize.toNat
  simp [residentPlan, grownPlan, emptyPlan, textBytes, hperm.sum_eq]

lemma residentPlan_length : (residentPlan manifest identities).tensors.length =
    (manifest.tensors.filter isText).length := by
  rw [residentPlan_tensors, length_placedTensors, (textTensors_perm manifest.tensors).length_eq]

lemma residentPlan_empty : (residentPlan manifest identities).tensors = [] ↔
    ¬ ∃ item ∈ manifest.tensors, classifyTensor item.1 = .text := by
  rw [← List.length_eq_zero_iff, residentPlan_length, List.length_eq_zero_iff,
    List.filter_eq_nil_iff]
  simp [isText]

lemma identityMap_perm : (identityMap identities).Perm identities := List.mergeSort_perm _ _

variable {manifest identities}

lemma summaryDisagrees_iff :
    ¬ summaryDisagrees manifest.summary (residentPlan manifest identities) ∧
      (manifest.summary.shardCount.toNat = 0 ∨
        manifest.summary.shardCount.toNat = identities.length) ↔
      (∃ item ∈ manifest.tensors, classifyTensor item.1 = .text) ∧
        SummaryAgrees manifest identities := by
  unfold summaryDisagrees
  rw [residentPlan_empty, residentPlan_length, residentPlan_arenaBytes, residentPlan_copiedBytes]
  constructor
  · rintro ⟨h, hcount⟩
    push Not at h
    obtain ⟨htext, h₁, h₂, h₃, h₄⟩ := h
    exact ⟨htext, hcount, or_iff_not_imp_left.mpr h₁, or_iff_not_imp_left.mpr h₂,
      or_iff_not_imp_left.mpr h₃, or_iff_not_imp_left.mpr h₄⟩
  · rintro ⟨htext, h⟩
    refine ⟨?_, h.shardCount⟩
    push Not
    exact ⟨htext, or_iff_not_imp_left.mp h.textTensorCount, or_iff_not_imp_left.mp h.rawTextBytes,
      or_iff_not_imp_left.mp h.arenaAlignment, or_iff_not_imp_left.mp h.estimatedTextArenaBytes⟩

lemma buildResidentLoadPlan_ok {plan : ResidentLoadPlan} :
    buildResidentLoadPlan manifest identities = .ok plan ↔
      PlanConditions manifest identities ∧ plan = residentPlan manifest identities := by
  have hperm := identityMap_perm identities
  have hlength : (identityMap identities).length = identities.length := hperm.length_eq
  have hplaced : ∀ plan, placeTensors (emptyPlan identities) (textTensors manifest.tensors) =
      .ok plan ↔ textArenaBytes manifest.tensors ≤ uint64Max ∧
        textBytes manifest.tensors ≤ uint64Max ∧ plan = residentPlan manifest identities := by
    intro plan
    rw [placeTensors_ok (emptyPlan_bounds identities), ← residentPlan_arenaBytes _ identities,
      ← residentPlan_copiedBytes _ identities]
    rfl
  rw [buildResidentLoadPlan, guard_ok, bind_ok]
  constructor
  · rintro ⟨hnonempty, sourceBytes, hidentities, h⟩
    obtain ⟨hgood, -, hunique, rfl, hsource⟩ := (checkIdentities_ok (Nat.zero_le _)).mp hidentities
    rw [Nat.zero_add] at h hsource
    obtain ⟨⟨⟩, htensors, h⟩ := bind_ok.mp h
    obtain ⟨⟨⟩, hused, h⟩ := bind_ok.mp h
    rw [guard_ok] at h
    obtain ⟨hcount, h⟩ := h
    obtain ⟨⟨⟩, hneighbours, h⟩ := bind_ok.mp h
    obtain ⟨placed, hplace, h⟩ := bind_ok.mp h
    obtain ⟨harena, hcopied, rfl⟩ := (hplaced placed).mp hplace
    rw [guard_ok] at h
    obtain ⟨hsummary, h⟩ := h
    have hlocated : ∀ item ∈ manifest.tensors, Located identities item := fun item hitem =>
      (checkTensor_ok hunique).mp (checkAll_ok.mp htensors item hitem)
    have hcount' : manifest.summary.shardCount.toNat = 0 ∨
        manifest.summary.shardCount.toNat = identities.length := by
      rw [hlength] at hcount
      exact or_iff_not_imp_left.mpr fun h0 => by_contra fun hne => hcount ⟨h0, hne⟩
    obtain ⟨htext, hagrees⟩ := summaryDisagrees_iff.1 ⟨hsummary, hcount'⟩
    refine ⟨⟨hnonempty, fun i hi => (hgood i hi).1, fun i hi => (hgood i hi).2.1,
      fun i hi => (hgood i hi).2.2, hunique, hsource, hlocated, ?_, ?_, htext, harena, hcopied,
      hagrees⟩, (Except.ok.inj h).symm⟩
    · intro identity hidentity
      exact checkUsed_ok.mp (checkAll_ok.mp hused identity (hperm.mem_iff.mpr hidentity))
    · exact (neighbours_apart fun item hitem => (hlocated item hitem).nonempty).mp
        (checkAll_ok.mp hneighbours)
  · rintro ⟨h, rfl⟩
    obtain ⟨hsummary, hcount⟩ := summaryDisagrees_iff.2 ⟨h.text, h.summary⟩
    refine ⟨h.nonempty, _, (checkIdentities_ok (Nat.zero_le _)).mpr
      ⟨fun i hi => ⟨h.safe i hi, h.sized i hi, h.digest i hi⟩, by simp, h.unique, rfl, ?_⟩, ?_⟩
    · rw [Nat.zero_add]
      exact h.sourceBytes
    · rw [Nat.zero_add]
      refine bind_ok.mpr ⟨⟨⟩, checkAll_ok.mpr fun item hitem =>
        (checkTensor_ok h.unique).mpr (h.located item hitem), bind_ok.mpr ⟨⟨⟩,
        checkAll_ok.mpr fun identity hidentity => checkUsed_ok.mpr
          (h.used identity (hperm.mem_iff.mp hidentity)), ?_⟩⟩
      rw [guard_ok, hlength]
      refine ⟨fun hne => hcount.elim hne.1 hne.2, bind_ok.mpr ⟨⟨⟩, checkAll_ok.mpr
        ((neighbours_apart fun item hitem => (h.located item hitem).nonempty).mpr h.apart),
        bind_ok.mpr ⟨_, (hplaced _).mpr ⟨h.arenaBytes, h.copiedBytes, rfl⟩, ?_⟩⟩⟩
      rw [guard_ok]
      exact ⟨hsummary, rfl⟩

end ResidentPlan

section Placed

lemma allocationBytes_ge (candidate : String × TensorLocator) :
    candidate.2.byteSize.toNat ≤ allocationBytes candidate := by
  simp only [allocationBytes, alignUp, residentTensorAlignment]
  omega

lemma allocationBytes_aligned (candidate : String × TensorLocator) :
    residentTensorAlignment ∣ allocationBytes candidate := Dvd.intro_left _ rfl

lemma placedTensors_mem {offset : ℕ} {candidates : List (String × TensorLocator)}
    {tensor : PlannedTensor} (h : tensor ∈ placedTensors offset candidates) :
    ∃ candidate ∈ candidates, tensor = plannedTensor candidate tensor.arenaOffset ∧
      offset ≤ tensor.arenaOffset ∧ tensor.arenaOffset + allocationBytes candidate ≤
        offset + (candidates.map allocationBytes).sum := by
  induction candidates generalizing offset with
  | nil => cases h
  | cons candidate candidates ih =>
    rw [placedTensors_cons, List.mem_cons] at h
    rw [List.map_cons, List.sum_cons]
    obtain rfl | h := h
    · refine ⟨candidate, List.mem_cons_self, rfl, le_rfl, ?_⟩
      simp only [plannedTensor]
      omega
    · obtain ⟨c, hc, heq, hlo, hhi⟩ := ih h
      exact ⟨c, List.mem_cons_of_mem _ hc, heq, by omega, by omega⟩

lemma placedTensors_aligned {offset : ℕ} {candidates : List (String × TensorLocator)}
    (hoffset : residentTensorAlignment ∣ offset) {tensor : PlannedTensor}
    (h : tensor ∈ placedTensors offset candidates) :
    residentTensorAlignment ∣ tensor.arenaOffset := by
  induction candidates generalizing offset with
  | nil => cases h
  | cons candidate candidates ih =>
    rw [placedTensors_cons, List.mem_cons] at h
    obtain rfl | h := h
    · exact hoffset
    · exact ih (dvd_add hoffset (allocationBytes_aligned candidate)) h

lemma placedTensors_disjoint (offset : ℕ) (candidates : List (String × TensorLocator)) :
    (placedTensors offset candidates).Pairwise fun a b =>
      a.arenaOffset + a.byteSize ≤ b.arenaOffset := by
  induction candidates generalizing offset with
  | nil => exact List.Pairwise.nil
  | cons candidate candidates ih =>
    refine List.pairwise_cons.mpr ⟨?_, ih _⟩
    intro b hb
    obtain ⟨-, -, -, hlo, -⟩ := placedTensors_mem hb
    have hsize := allocationBytes_ge candidate
    simp only [plannedTensor]
    omega

lemma placedTensors_filter (shard : String) (offset : ℕ)
    (candidates : List (String × TensorLocator)) {R : PlannedTensor → PlannedTensor → Prop}
    (hR : ∀ a b i j, R (plannedTensor a i) (plannedTensor b j) ↔ Before sourceLo sourceHi a b)
    (h : candidates.Pairwise fun a b => a.2.shard = b.2.shard → Before sourceLo sourceHi a b) :
    ((placedTensors offset candidates).filter fun tensor => tensor.shard = shard).Pairwise R := by
  induction candidates generalizing offset with
  | nil => exact List.Pairwise.nil
  | cons candidate candidates ih =>
    obtain ⟨hfirst, hrest⟩ := List.pairwise_cons.mp h
    rw [placedTensors_cons, List.filter_cons]
    split_ifs with hshard
    · refine List.pairwise_cons.mpr ⟨?_, ih _ hrest⟩
      intro b hb
      obtain ⟨hb, hbshard⟩ := List.mem_filter.mp hb
      obtain ⟨c, hc, heq, -, -⟩ := placedTensors_mem hb
      rw [heq, hR]
      apply hfirst c hc
      have hc' : b.shard = c.2.shard := by rw [heq]; rfl
      have hs : candidate.2.shard = shard := of_decide_eq_true hshard
      have hb' : b.shard = shard := by simpa using hbshard
      rw [hs, ← hc', hb']
    · exact ih _ hrest

lemma indicesOf_ge {shard : String} {index i : ℕ} {candidates : List (String × TensorLocator)}
    (h : i ∈ indicesOf shard index candidates) : index ≤ i := by
  induction candidates generalizing index with
  | nil => cases h
  | cons candidate candidates ih =>
    rw [indicesOf_cons] at h
    split_ifs at h
    · obtain rfl | h := List.mem_cons.mp h
      · exact le_rfl
      · exact (Nat.le_succ index).trans (ih h)
    · exact (Nat.le_succ index).trans (ih h)

lemma indicesOf_increasing (shard : String) (index : ℕ)
    (candidates : List (String × TensorLocator)) :
    (indicesOf shard index candidates).Pairwise (· < ·) := by
  induction candidates generalizing index with
  | nil => exact List.Pairwise.nil
  | cons candidate candidates ih =>
    rw [indicesOf_cons]
    split_ifs
    · exact List.pairwise_cons.mpr ⟨fun i hi => indicesOf_ge hi, ih _⟩
    · exact ih _

-- The indices of a shard pick its tensors out of the whole list, behind any list of as many
-- tensors as the first index says.
lemma indicesOf_tensors (shard : String) (before : List PlannedTensor) (offset : ℕ)
    (candidates : List (String × TensorLocator)) :
    (indicesOf shard before.length candidates).map
        (fun i => (before ++ placedTensors offset candidates)[i]?) =
      ((placedTensors offset candidates).filter fun tensor => tensor.shard = shard).map some := by
  induction candidates generalizing before offset with
  | nil => rfl
  | cons candidate candidates ih =>
    have hrest := ih (before ++ [plannedTensor candidate offset])
      (offset + allocationBytes candidate)
    rw [List.length_append, List.length_singleton, List.append_assoc] at hrest
    rw [indicesOf_cons, placedTensors_cons, List.filter_cons]
    by_cases hshard : shard = candidate.2.shard
    · rw [if_pos hshard, if_pos (by simp [plannedTensor, hshard]), List.map_cons, List.map_cons]
      congr 1
      simp
    · rw [if_neg hshard, if_neg (by simpa [plannedTensor, eq_comm] using hshard)]
      exact hrest

end Placed

-- What the loader relies on.
structure PlanLayout (manifest : WeightManifest) (identities : List ShardIdentity)
    (plan : ResidentLoadPlan) : Prop where
  tensors : (plan.tensors.map fun tensor => (tensor.name, tensor.sourceBegin, tensor.sourceEnd,
    tensor.byteSize)).Perm ((manifest.tensors.filter isText).map fun item =>
      (item.1, item.2.fileBegin.toNat, item.2.fileEnd.toNat, item.2.byteSize.toNat))
  aligned : ∀ tensor ∈ plan.tensors, residentTensorAlignment ∣ tensor.arenaOffset
  disjoint : plan.tensors.Pairwise fun a b => a.arenaOffset + a.byteSize ≤ b.arenaOffset
  contained : ∀ tensor ∈ plan.tensors, tensor.arenaOffset + tensor.byteSize ≤ plan.arenaBytes
  arenaBytes : plan.arenaBytes =
    (plan.tensors.map fun tensor => alignUp tensor.byteSize residentTensorAlignment).sum
  shards : (plan.shards.map PlannedShard.identity).Perm identities
  indices : ∀ shard ∈ plan.shards, shard.tensorIndices.map (fun i => plan.tensors[i]?) =
    (plan.tensors.filter fun tensor => tensor.shard = shard.identity.filename).map some
  increasing : ∀ shard ∈ plan.shards, shard.tensorIndices.Pairwise (· < ·)
  ordered : ∀ shard ∈ plan.shards,
    (plan.tensors.filter fun tensor => tensor.shard = shard.identity.filename).Pairwise
      fun a b => a.sourceEnd ≤ b.sourceBegin

lemma residentPlan_layout {manifest : WeightManifest} {identities : List ShardIdentity}
    (h : PlanConditions manifest identities) :
    PlanLayout manifest identities (residentPlan manifest identities) := by
  have htensors := residentPlan_tensors manifest identities
  have hnonempty : ∀ item ∈ manifest.tensors, sourceLo item < sourceHi item :=
    fun item hitem => (h.located item hitem).nonempty
  have hmap : ∀ (offset : ℕ) (candidates : List (String × TensorLocator)) {β : Type}
      (f : PlannedTensor → β) (g : String × TensorLocator → β),
      (∀ c o, f (plannedTensor c o) = g c) →
      (placedTensors offset candidates).map f = candidates.map g := by
    intro offset candidates β f g hfg
    induction candidates generalizing offset with
    | nil => rfl
    | cons candidate candidates ih =>
      rw [placedTensors_cons, List.map_cons, List.map_cons, hfg, ih]
  have hshard : ∀ shard ∈ (residentPlan manifest identities).shards, ∃ identity,
      shard = grownShard 0 (textTensors manifest.tensors) { identity := identity } := by
    intro shard hmem
    obtain ⟨old, hold, rfl⟩ := List.mem_map.mp hmem
    obtain ⟨identity, -, rfl⟩ := List.mem_map.mp hold
    exact ⟨identity, rfl⟩
  constructor
  · rw [htensors, hmap 0 _ _ (fun item => (item.1, item.2.fileBegin.toNat, item.2.fileEnd.toNat,
      item.2.byteSize.toNat)) fun _ _ => rfl]
    exact (textTensors_perm manifest.tensors).map _
  · intro tensor ht
    rw [htensors] at ht
    exact placedTensors_aligned (dvd_zero _) ht
  · rw [htensors]
    exact placedTensors_disjoint 0 _
  · intro tensor ht
    rw [htensors] at ht
    obtain ⟨candidate, hmem, heq, -, hle⟩ := placedTensors_mem ht
    have hsize := allocationBytes_ge candidate
    have hbytes : tensor.byteSize = candidate.2.byteSize.toNat := by rw [heq]; rfl
    have harena : (residentPlan manifest identities).arenaBytes =
        0 + ((textTensors manifest.tensors).map allocationBytes).sum := rfl
    omega
  · rw [htensors, hmap 0 _ _ allocationBytes fun _ _ => rfl, residentPlan_arenaBytes]
    exact (((textTensors_perm manifest.tensors).map _).sum_eq).symm
  · have hids : (residentPlan manifest identities).shards.map PlannedShard.identity =
        identityMap identities := by
      simp [residentPlan, grownPlan, emptyPlan, grownShard, Function.comp_def]
    rw [hids]
    exact identityMap_perm identities
  · intro shard hmem
    obtain ⟨identity, rfl⟩ := hshard shard hmem
    rw [htensors]
    exact indicesOf_tensors identity.filename [] 0 _
  · intro shard hmem
    obtain ⟨identity, rfl⟩ := hshard shard hmem
    exact indicesOf_increasing identity.filename 0 _
  · intro shard hmem
    rw [htensors]
    exact placedTensors_filter _ 0 _ (fun a b i j => Iff.rfl)
      (textTensors_before hnonempty h.apart)

theorem resident_load_plan_exact (manifest : WeightManifest) (identities : List ShardIdentity) :
    ((∃ plan, buildResidentLoadPlan manifest identities = .ok plan) ↔
      PlanConditions manifest identities) ∧
    ∀ plan, buildResidentLoadPlan manifest identities = .ok plan →
      PlanLayout manifest identities plan := by
  refine ⟨⟨?_, ?_⟩, ?_⟩
  · rintro ⟨plan, h⟩
    exact (buildResidentLoadPlan_ok.1 h).1
  · intro h
    exact ⟨_, buildResidentLoadPlan_ok.2 ⟨h, rfl⟩⟩
  · intro plan h
    obtain ⟨hconditions, rfl⟩ := buildResidentLoadPlan_ok.1 h
    exact residentPlan_layout hconditions

def sampleIdentities : List ShardIdentity :=
  [{ filename := "a.safetensors", fileSize := 1000, sha256 := String.ofList (List.replicate 64 'b') }]

def sampleManifest : WeightManifest where
  tensors :=
    [("lm_head.weight",
      { category := .text, shard := "a.safetensors", fileBegin := 500, fileEnd := 1000
        byteSize := 500, dtype := .bf16, shape := [10, 25] }),
     ("model.visual.bias",
      { category := .vision, shard := "a.safetensors", fileBegin := 100, fileEnd := 500
        byteSize := 400, dtype := .u8, shape := [400] })]
  sorted := by decide +kernel

lemma sample_located {item : String × TensorLocator} (h : item ∈ sampleManifest.tensors) :
    Located sampleIdentities item := by
  obtain rfl | rfl := List.mem_pair.mp h
  · exact ⟨by decide +kernel, by decide, ⟨_, List.mem_cons_self, by decide +kernel, by decide⟩,
      by decide +kernel, by decide, by decide, by decide +kernel⟩
  · exact ⟨by decide +kernel, by decide, ⟨_, List.mem_cons_self, by decide +kernel, by decide⟩,
      by decide +kernel, by decide, by decide, by decide +kernel⟩

lemma sample_conditions : PlanConditions sampleManifest sampleIdentities where
  nonempty := by decide
  safe := by decide +kernel
  sized := by decide +kernel
  digest := by decide +kernel
  unique := by decide +kernel
  sourceBytes := by decide +kernel
  located := fun _ h => sample_located h
  used := by decide +kernel
  apart := List.pairwise_pair.mpr fun _ => Or.inr (show 500 ≤ 500 from le_rfl)
  text := by decide +kernel
  arenaBytes := by decide +kernel
  copiedBytes := by decide +kernel
  summary := ⟨Or.inl rfl, Or.inl rfl, Or.inl rfl, Or.inl rfl, Or.inl rfl⟩

theorem resident_load_plan_exact_sample :
    ∃ plan, buildResidentLoadPlan sampleManifest sampleIdentities = .ok plan ∧
      PlanLayout sampleManifest sampleIdentities plan := by
  have h := resident_load_plan_exact sampleManifest sampleIdentities
  obtain ⟨plan, hplan⟩ := h.1.mpr sample_conditions
  exact ⟨plan, hplan, h.2 plan hplan⟩

end Qwen3xOrin.Resident
