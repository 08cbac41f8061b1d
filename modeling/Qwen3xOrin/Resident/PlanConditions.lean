import Qwen3xOrin.Library.Arena
import Qwen3xOrin.Resident.Plan

/-! When the load plan is built: the conditions on the manifest and the shard identities, and
which check of the builder stands for which of them. -/

namespace Qwen3xOrin.Resident

open Library Io Ranges

def sourceLo (item : String × TensorLocator) : ℕ := item.2.fileBegin.toNat
def sourceHi (item : String × TensorLocator) : ℕ := item.2.fileEnd.toNat

structure Located (identities : List ShardIdentity) (item : String × TensorLocator) : Prop where
  safe : isSafeRelativeShardPath item.2.shard = true
  nonempty : sourceLo item < sourceHi item
  inside : ∃ identity ∈ identities, identity.filename = item.2.shard ∧
    sourceHi item ≤ identity.fileSize.toNat
  classified : classifyTensor item.1 ≠ .unknown ∧ item.2.category = classifyTensor item.1
  byteSize : sourceHi item - sourceLo item = item.2.byteSize.toNat
  elements : (item.2.shape.map UInt64.toNat).prod * bitWidth item.2.dtype =
    8 * item.2.byteSize.toNat
  bits : (item.2.shape.map UInt64.toNat).prod * bitWidth item.2.dtype ≤ uint64Max

def isText (item : String × TensorLocator) : Bool := decide (classifyTensor item.1 = .text)

def allocationBytes (item : String × TensorLocator) : ℕ :=
  alignUp item.2.byteSize.toNat residentTensorAlignment

def textBytes (tensors : List (String × TensorLocator)) : ℕ :=
  ((tensors.filter isText).map fun item => item.2.byteSize.toNat).sum

def textArenaBytes (tensors : List (String × TensorLocator)) : ℕ :=
  ((tensors.filter isText).map allocationBytes).sum

structure SummaryAgrees (manifest : WeightManifest) (identities : List ShardIdentity) : Prop where
  shardCount : manifest.summary.shardCount.toNat = 0 ∨
    manifest.summary.shardCount.toNat = identities.length
  textTensorCount : manifest.summary.textTensorCount.toNat = 0 ∨
    manifest.summary.textTensorCount.toNat = (manifest.tensors.filter isText).length
  rawTextBytes : manifest.summary.rawTextBytes.toNat = 0 ∨
    manifest.summary.rawTextBytes.toNat = textBytes manifest.tensors
  arenaAlignment : manifest.summary.arenaAlignment.toNat = 0 ∨
    manifest.summary.arenaAlignment.toNat = residentTensorAlignment
  estimatedTextArenaBytes : manifest.summary.estimatedTextArenaBytes.toNat = 0 ∨
    manifest.summary.estimatedTextArenaBytes.toNat = textArenaBytes manifest.tensors

structure PlanConditions (manifest : WeightManifest) (identities : List ShardIdentity) : Prop where
  nonempty : identities ≠ []
  safe : ∀ identity ∈ identities, isSafeRelativeShardPath identity.filename = true
  sized : ∀ identity ∈ identities, identity.fileSize.toNat ≠ 0
  digest : ∀ identity ∈ identities, isLowerHexDigest identity.sha256 = true
  unique : (identities.map ShardIdentity.filename).Nodup
  sourceBytes : (identities.map fun identity => identity.fileSize.toNat).sum ≤ uint64Max
  located : ∀ item ∈ manifest.tensors, Located identities item
  used : ∀ identity ∈ identities, ∃ item ∈ manifest.tensors, item.2.shard = identity.filename
  apart : manifest.tensors.Pairwise fun a b =>
    a.2.shard = b.2.shard → Apart sourceLo sourceHi a b
  text : ∃ item ∈ manifest.tensors, classifyTensor item.1 = .text
  arenaBytes : textArenaBytes manifest.tensors ≤ uint64Max
  copiedBytes : textBytes manifest.tensors ≤ uint64Max
  summary : SummaryAgrees manifest identities

lemma checkIdentity_ok {seen : List ShardIdentity} {identity : ShardIdentity} :
    checkIdentity seen identity = .ok ⟨⟩ ↔ isSafeRelativeShardPath identity.filename = true ∧
      (identity.fileSize.toNat ≠ 0 ∧ isLowerHexDigest identity.sha256 = true) ∧
      ∀ other ∈ seen, other.filename ≠ identity.filename := by
  unfold checkIdentity
  rw [guard_ok, guard_ok, guard_ok]
  simp

lemma checkIdentities_ok {identities seen : List ShardIdentity} {total output : ℕ}
    (htotal : total ≤ uint64Max) :
    checkIdentities identities seen total = .ok output ↔
      (∀ identity ∈ identities, isSafeRelativeShardPath identity.filename = true ∧
        identity.fileSize.toNat ≠ 0 ∧ isLowerHexDigest identity.sha256 = true) ∧
      (∀ identity ∈ identities, ∀ other ∈ seen, other.filename ≠ identity.filename) ∧
      (identities.map ShardIdentity.filename).Nodup ∧
      output = total + (identities.map fun identity => identity.fileSize.toNat).sum ∧
      total + (identities.map fun identity => identity.fileSize.toNat).sum ≤ uint64Max := by
  induction identities generalizing seen total with
  | nil =>
    simp only [checkIdentities, Except.ok.injEq, List.map_nil, List.sum_nil, Nat.add_zero]
    constructor
    · rintro rfl
      exact ⟨by simp, by simp, List.nodup_nil, rfl, htotal⟩
    · rintro ⟨-, -, -, rfl, -⟩
      rfl
  | cons identity identities ih =>
    have hstep : checkIdentities (identity :: identities) seen total = .ok output ↔
        checkIdentity seen identity = .ok ⟨⟩ ∧ total + identity.fileSize.toNat ≤ uint64Max ∧
        checkIdentities identities (identity :: seen) (total + identity.fileSize.toNat) =
          .ok output := by
      rw [checkIdentities, bind_ok]
      constructor
      · rintro ⟨⟨⟩, hcheck, hrest⟩
        cases hadd : checkedAdd total identity.fileSize.toNat with
        | none =>
          rw [hadd] at hrest
          cases hrest
        | some sum =>
          obtain ⟨rfl, hle⟩ := (checkedAdd_eq_some htotal).mp hadd
          rw [hadd] at hrest
          exact ⟨hcheck, hle, hrest⟩
      · rintro ⟨hcheck, hle, hrest⟩
        refine ⟨⟨⟩, hcheck, ?_⟩
        rw [(checkedAdd_eq_some htotal).mpr ⟨rfl, hle⟩]
        exact hrest
    rw [hstep, checkIdentity_ok]
    constructor
    · rintro ⟨⟨hsafe, hsized, hseen⟩, hle, hrest⟩
      obtain ⟨hall, hother, hnodup, hout, hsum⟩ := (ih hle).mp hrest
      refine ⟨List.forall_mem_cons.mpr ⟨⟨hsafe, hsized⟩, hall⟩, List.forall_mem_cons.mpr
        ⟨hseen, fun i hi other ho => hother i hi other (List.mem_cons_of_mem _ ho)⟩, ?_, ?_, ?_⟩
      · rw [List.map_cons, List.nodup_cons]
        refine ⟨fun hmem => ?_, hnodup⟩
        obtain ⟨i, hi, heq⟩ := List.mem_map.mp hmem
        exact hother i hi identity (List.mem_cons_self) heq.symm
      · rw [hout, List.map_cons, List.sum_cons, Nat.add_assoc]
      · rw [List.map_cons, List.sum_cons, ← Nat.add_assoc]
        exact hsum
    · rintro ⟨hall, hother, hnodup, rfl, hsum⟩
      rw [List.forall_mem_cons] at hall hother
      rw [List.map_cons, List.nodup_cons] at hnodup
      rw [List.map_cons, List.sum_cons, ← Nat.add_assoc] at hsum
      refine ⟨⟨hall.1.1, hall.1.2, hother.1⟩, by omega, (ih (by omega)).mpr
        ⟨hall.2, ?_, hnodup.2, ?_, hsum⟩⟩
      · intro i hi other ho
        obtain rfl | ho := List.mem_cons.mp ho
        · intro heq
          exact hnodup.1 (heq ▸ List.mem_map_of_mem hi)
        · exact hother.2 i hi other ho
      · rw [List.map_cons, List.sum_cons, Nat.add_assoc]

lemma tensorBytesMatch_iff {locator : TensorLocator} (hsize : locator.byteSize.toNat ≠ 0) :
    tensorBytesMatch locator = true ↔
      (locator.shape.map UInt64.toNat).prod * bitWidth locator.dtype =
        8 * locator.byteSize.toNat ∧
      (locator.shape.map UInt64.toNat).prod * bitWidth locator.dtype ≤ uint64Max := by
  have hbits : ∀ bits, locator.bits = some bits ↔ (∀ n, 1 ≤ n → n ≤ locator.shape.length →
      ((locator.shape.map UInt64.toNat).take n).prod ≤ uint64Max) ∧
      bits = (locator.shape.map UInt64.toNat).prod * bitWidth locator.dtype ∧
      (locator.shape.map UInt64.toNat).prod * bitWidth locator.dtype ≤ uint64Max := by
    intro bits
    rw [TensorLocator.bits, Option.bind_eq_bind, Option.bind_eq_some_iff]
    constructor
    · rintro ⟨elements, helements, hproduct⟩
      obtain ⟨rfl, hall⟩ := checkedProduct_eq_some.mp helements
      rw [List.length_map] at hall
      exact ⟨hall, checkedMultiply_eq_some.mp hproduct⟩
    · rintro ⟨hall, hproduct⟩
      refine ⟨_, checkedProduct_eq_some.mpr ⟨rfl, ?_⟩, checkedMultiply_eq_some.mpr hproduct⟩
      rwa [List.length_map]
  unfold tensorBytesMatch
  constructor
  · intro h
    cases hb : locator.bits with
    | none =>
      rw [hb] at h
      cases h
    | some bits =>
      obtain ⟨-, rfl, hle⟩ := (hbits _).mp hb
      rw [hb] at h
      have h := of_decide_eq_true h
      exact ⟨by omega, hle⟩
  · rintro ⟨hprod, hle⟩
    have hne : (locator.shape.map UInt64.toNat).prod ≠ 0 := by
      intro h0
      rw [h0, Nat.zero_mul] at hprod
      omega
    have hprefix : ∀ n, ((locator.shape.map UInt64.toNat).take n).prod ≤ uint64Max := by
      intro n
      have hdvd : ((locator.shape.map UInt64.toNat).take n).prod ∣
          (locator.shape.map UInt64.toNat).prod :=
        ⟨_, (List.prod_take_mul_prod_drop _ n).symm⟩
      calc ((locator.shape.map UInt64.toNat).take n).prod
          ≤ (locator.shape.map UInt64.toNat).prod := Nat.le_of_dvd (Nat.pos_of_ne_zero hne) hdvd
        _ ≤ (locator.shape.map UInt64.toNat).prod * bitWidth locator.dtype :=
          Nat.le_mul_of_pos_right _ (bitWidth_pos _)
        _ ≤ uint64Max := hle
    rw [(hbits _).mpr ⟨fun n _ _ => hprefix n, rfl, hle⟩]
    exact decide_eq_true (by omega)

lemma find_identity {identities : List ShardIdentity}
    (hunique : (identities.map ShardIdentity.filename).Nodup) {identity : ShardIdentity}
    (hmem : identity ∈ identities) :
    identities.find? (fun other => other.filename = identity.filename) = some identity := by
  induction identities with
  | nil => cases hmem
  | cons first identities ih =>
    rw [List.map_cons, List.nodup_cons] at hunique
    obtain rfl | hmem := List.mem_cons.mp hmem
    · simp
    · have hne : first.filename ≠ identity.filename := by
        intro heq
        exact hunique.1 (heq ▸ List.mem_map_of_mem hmem)
      rw [List.find?_cons_of_neg (by simpa using hne)]
      exact ih hunique.2 hmem

lemma checkTensor_ok {identities : List ShardIdentity}
    (hunique : (identities.map ShardIdentity.filename).Nodup) {item : String × TensorLocator} :
    checkTensor identities item = .ok ⟨⟩ ↔ Located identities item := by
  obtain ⟨name, locator⟩ := item
  rw [checkTensor, guard_ok]
  constructor
  · rintro ⟨hsafe, h⟩
    cases hfind : identities.find? fun identity => identity.filename = locator.shard with
    | none =>
      rw [hfind] at h
      cases h
    | some identity =>
      rw [hfind] at h
      dsimp only at h
      rw [guard_ok, guard_ok] at h
      obtain ⟨hrange, hgood, -⟩ := h
      push Not at hgood
      obtain ⟨hknown, hcategory, hsize, hbytes, hinside, hmatch⟩ := hgood
      have hmatch := (tensorBytesMatch_iff hsize).mp (Bool.eq_true_of_not_eq_false hmatch)
      exact ⟨Bool.eq_true_of_not_eq_false hsafe, not_le.mp hrange,
        ⟨identity, List.mem_of_find?_eq_some hfind, by simpa using List.find?_some hfind, hinside⟩,
        ⟨hknown, hcategory⟩, hbytes, hmatch.1, hmatch.2⟩
  · rintro ⟨hsafe, hrange, ⟨identity, hmem, hname, hinside⟩, ⟨hknown, hcategory⟩, hbytes, helements,
      hbits⟩
    refine ⟨by simpa using hsafe, ?_⟩
    unfold sourceLo sourceHi at *
    dsimp only at *
    have hfind := find_identity hunique hmem
    rw [hname] at hfind
    have hsize : locator.byteSize.toNat ≠ 0 := by omega
    have hmatch := (tensorBytesMatch_iff hsize).mpr ⟨helements, hbits⟩
    rw [hfind]
    dsimp only
    rw [guard_ok, guard_ok]
    refine ⟨not_le.mpr hrange, ?_, rfl⟩
    push Not
    exact ⟨hknown, hcategory, hsize, hbytes, hinside, by simp [hmatch]⟩

lemma checkUsed_ok {tensors : List (String × TensorLocator)} {identity : ShardIdentity} :
    checkUsed tensors identity = .ok ⟨⟩ ↔
      ∃ item ∈ tensors, item.2.shard = identity.filename := by
  unfold checkUsed
  by_cases h : ∃ item ∈ tensors, item.2.shard = identity.filename
  · rw [if_pos h]
    simp [h]
  · rw [if_neg h]
    simp [h]

end Qwen3xOrin.Resident
