import Qwen3xOrin.Packed.Lossless
import Qwen3xOrin.Packed.Manifest

/-! Building a packed asset into a caller's buffer and validating one against its sources. -/

namespace Qwen3xOrin.Packed

open Io Library

def compareBinding (observed expected : SourceInventory) (index : ℕ) : Except AssetError Unit :=
  let left := observed.sources index
  let right := expected.sources index
  if left.weightDigest ≠ right.weightDigest ∨ left.scaleDigest ≠ right.scaleDigest then
    .error .sourceDigestMismatch
  else if { left with
      weightDigest := right.weightDigest, scaleDigest := right.scaleDigest } ≠ right then
    .error .sourceMetadataMismatch
  else .ok ⟨⟩

def compareInventory (layout : PackedLayout) (observed expected : SourceInventory) :
    Except AssetError Unit :=
  if ¬ expected.valid layout ∨ expected.identity ≠ observed.identity ∨
      expected.role ≠ observed.role ∨ expected.sourceCount ≠ observed.sourceCount then
    .error .sourceMetadataMismatch
  else checkAll (compareBinding observed expected) (List.range projectionMaximumPartitions)

def payloadAliasesSources (sources : SourceSet) (payload : Bytes) : Prop :=
  ∃ index < sources.sourceCount, rangesOverlap payload (sources.sources index).packedWeight ∨
    rangesOverlap payload (sources.sources index).blockScale

instance (sources : SourceSet) (payload : Bytes) :
    Decidable (payloadAliasesSources sources payload) :=
  inferInstanceAs (Decidable (∃ _ < _, _))

structure AssetBuildResult where
  manifest : PackedManifest := {}
  transformReceipt : TransformReceipt := {}

section Asset

variable (sha256 : List UInt8 → Digest)

-- Everything that is checked before the first byte of the payload is written.
def admitBuild (artifactIdentity : UInt64) (sources : SourceSet)
    (expectedInventory : SourceInventory) (payload : Bytes) : Except AssetError Unit :=
  if artifactIdentity = 0 then .error .invalidArgument
  else do
    let inventory ← inspectSources sha256 sources
    let layout := packedLayout sources.role
    compareInventory layout inventory expectedInventory
    if ¬ mutableSpanWellFormed payload then
      if payload.data = 0 ∨ payload.bytes = 0 then .error .payloadSizeMismatch
      else .error .payloadRangeOverflow
    else if uint64Max < layout.payloadBytes then .error .sizeOverflow
    else if payload.bytes ≠ layout.payloadBytes then .error .payloadSizeMismatch
    else if payloadAliasesSources sources payload then .error .payloadAliasing
    else .ok ⟨⟩

def checkPayload (layout : PackedLayout) (sources : SourceSet) (payload : Bytes) :
    Except AssetError Unit := do
  scanPayloadScales layout payload.bytes payload.contents
  verifyPayloadBijection layout sources payload.bytes payload.contents

-- What follows the checks once the payload is written.
def finishBuild (artifactIdentity : UInt64) (sources : SourceSet)
    (expectedInventory : SourceInventory) (payload : Bytes) :
    Except AssetError AssetBuildResult := do
  let layout := packedLayout sources.role
  checkPayload layout sources payload
  match projectionSha256 sha256 payload with
  | none => .error .invalidArgument
  | some digest =>
    let manifest := makePackedManifest sources.role artifactIdentity expectedInventory digest
    if ¬ validatePackedManifest manifest expectedInventory then .error .manifestMismatch
    else
      let receipt := makeTransformReceipt layout manifest expectedInventory
      if ¬ validateTransformReceipt manifest expectedInventory receipt then
        .error .transformReceiptMismatch
      else .ok { manifest := manifest, transformReceipt := receipt }

def fillZero (bytes : ℕ) (contents : ℕ → UInt8) : ℕ → UInt8 :=
  fun offset => if offset < bytes then 0 else contents offset

-- The result together with what the payload buffer holds afterwards.
def buildAsset (artifactIdentity : UInt64) (sources : SourceSet)
    (expectedInventory : SourceInventory) (payload : Bytes) :
    Except AssetError AssetBuildResult × (ℕ → UInt8) :=
  match admitBuild sha256 artifactIdentity sources expectedInventory payload with
  | .error e => (.error e, payload.contents)
  | .ok _ =>
    match transformPayload (packedLayout sources.role) sources payload.bytes with
    | .error (e, written) => (.error e, fillZero payload.bytes written)
    | .ok written =>
      match finishBuild sha256 artifactIdentity sources expectedInventory
          { payload with contents := written } with
      | .error e => (.error e, fillZero payload.bytes written)
      | .ok result => (.ok result, written)

def validateAsset (manifest : PackedManifest) (receipt : TransformReceipt) (sources : SourceSet)
    (expectedInventory : SourceInventory) (payload : Bytes) : Except AssetError Unit := do
  let inventory ← inspectSources sha256 sources
  let layout := packedLayout sources.role
  compareInventory layout inventory expectedInventory
  if ¬ validatePackedManifest manifest expectedInventory then .error .manifestMismatch
  else if ¬ validateTransformReceipt manifest expectedInventory receipt then
    .error .transformReceiptMismatch
  else if ¬ constSpanWellFormed payload then
    if payload.data = 0 ∨ payload.bytes = 0 then .error .payloadSizeMismatch
    else .error .payloadRangeOverflow
  else if uint64Max < layout.payloadBytes then .error .sizeOverflow
  else if payload.bytes ≠ layout.payloadBytes then .error .payloadSizeMismatch
  else if payloadAliasesSources sources payload then .error .payloadAliasing
  else match projectionSha256 sha256 payload with
    | none => .error .invalidArgument
    | some digest =>
      if digest ≠ manifest.payloadDigest ∨ digest ≠ receipt.payload.observedPayloadDigest then
        .error .payloadDigestMismatch
      else checkPayload layout sources payload

end Asset

section Receipt

variable {sources : SourceInventory} {role : ProjectionRole} {artifactIdentity : UInt64}
  {payloadDigest : Digest}

lemma valid_role (hvalid : (packedLayout role).valid = true) : (packedLayout role).role = role := by
  cases role <;> first | rfl | cases hvalid

lemma valid_header (hvalid : (packedLayout role).valid = true) :
    packedAligned packedHeaderBytes (packedLayout role).payloadAlignment ∧
      packedAddFits packedHeaderBytes (packedLayout role).payloadBytes := by
  cases role with
  | invalid => cases hvalid
  | count => cases hvalid
  | _ => decide

def sealedManifest (role : ProjectionRole) (artifactIdentity : UInt64) (sources : SourceInventory)
    (payloadDigest : Digest) : PackedManifest :=
  { draftManifest role artifactIdentity sources payloadDigest with
    manifestSeal :=
      computeManifestSeal (draftManifest role artifactIdentity sources payloadDigest) }

-- The seal does not read itself.
lemma computeManifestSeal_seal (manifest : PackedManifest) (value : UInt64) :
    computeManifestSeal { manifest with manifestSeal := value } = computeManifestSeal manifest := by
  simp only [computeManifestSeal]

lemma sealedManifest_valid (hvalid : (packedLayout role).valid = true)
    (hsources : sources.valid (packedLayout role)) (hdigest : ¬ digestIsZero payloadDigest)
    (hidentity : artifactIdentity ≠ 0)
    (hseal : computeManifestSeal (draftManifest role artifactIdentity sources payloadDigest) ≠ 0) :
    packedManifestStructurallyValid
      (sealedManifest role artifactIdentity sources payloadDigest) := by
  obtain ⟨haligned, hfits⟩ := valid_header hvalid
  have hmatches : (sealedManifest role artifactIdentity sources payloadDigest).MatchesLayout
      (packedLayout role) :=
    { abiMajor := rfl
      abiMinor := rfl
      headerBytes := rfl
      artifactIdentity := hidentity
      planIdentity := rfl
      layoutIdentity := rfl
      encoding := rfl
      sourceInventoryIdentity := hsources.2.1
      sourceCount := hsources.2.2.2.1
      payloadOffset := rfl
      payloadBytes := rfl
      payloadAlignment := rfl
      aligned := haligned
      fits := hfits
      artifactBytes := rfl
      payloadDigest := hdigest
      tokenCountIndependent := rfl
      cudaImplementationPresent := rfl
      staticResourcesQualified := rfl
      numericalContractQualified := rfl
      productionDispatchEligible := rfl }
  exact ⟨rfl, hvalid, hmatches, hseal, (computeManifestSeal_seal _ _).symm, hvalid, hsources.2.1, (valid_role hvalid).symm,
    hsources.2.2.2⟩

lemma makePackedManifest_eq (hvalid : (packedLayout role).valid = true)
    (hsources : sources.valid (packedLayout role)) (hdigest : ¬ digestIsZero payloadDigest)
    (hidentity : artifactIdentity ≠ 0)
    (hseal : computeManifestSeal (draftManifest role artifactIdentity sources payloadDigest) ≠ 0) :
    makePackedManifest role artifactIdentity sources payloadDigest =
      sealedManifest role artifactIdentity sources payloadDigest := by
  have hsealed : sealPackedManifest (draftManifest role artifactIdentity sources payloadDigest) =
      some (sealedManifest role artifactIdentity sources payloadDigest) :=
    if_pos (sealedManifest_valid hvalid hsources hdigest hidentity hseal)
  unfold makePackedManifest
  dsimp only
  rw [if_neg, hsealed, Option.getD_some]
  simp [hvalid, hsources, hdigest, hidentity, (valid_header hvalid).2]

-- A vanishing seal is never accepted, so no manifest is made.
lemma makePackedManifest_zero
    (hseal : computeManifestSeal (draftManifest role artifactIdentity sources payloadDigest) = 0) :
    makePackedManifest role artifactIdentity sources payloadDigest = {} := by
  have hsealed :
      sealPackedManifest (draftManifest role artifactIdentity sources payloadDigest) = none :=
    if_neg fun h => h.2.2.2.1 hseal
  unfold makePackedManifest
  dsimp only
  rw [hsealed, Option.getD_none, ite_self]

lemma empty_manifest_invalid : ¬ validatePackedManifest {} sources := by
  rintro ⟨⟨hmagic, -⟩, -⟩
  revert hmagic
  decide

lemma validatePackedManifest_sealed (hvalid : (packedLayout role).valid = true)
    (hsources : sources.valid (packedLayout role)) (hdigest : ¬ digestIsZero payloadDigest)
    (hidentity : artifactIdentity ≠ 0)
    (hseal : computeManifestSeal (draftManifest role artifactIdentity sources payloadDigest) ≠ 0) :
    validatePackedManifest (sealedManifest role artifactIdentity sources payloadDigest) sources :=
  ⟨sealedManifest_valid hvalid hsources hdigest hidentity hseal, hsources, rfl,
    hsources.2.2.1.trans (valid_role hvalid), rfl, fun _ _ => rfl⟩

lemma makeTransformReceipt_partitions (layout : PackedLayout) (manifest : PackedManifest)
    (index : ℕ) :
    partitionReceiptValid layout sources (makeTransformReceipt layout manifest sources) index := by
  constructor
  · intro hindex
    have hnone : layout.partitions[index]? = none := List.getElem?_eq_none hindex
    unfold makeTransformReceipt
    dsimp only
    rw [hnone]
    exact (by decide : partitionTransformReceiptIsZero {})
  · intro hindex
    have hsome : layout.partitions[index]? = some layout.partitions[index] :=
      List.getElem?_eq_getElem hindex
    have hget : layout.partitions.getD index {} = layout.partitions[index] := by
      rw [List.getD_eq_getElem?_getD, hsome, Option.getD_some]
    rw [hget]
    unfold makeTransformReceipt
    dsimp only
    rw [hsome]
    exact ⟨rfl, rfl, rfl, rfl, rfl, rfl, rfl, rfl, rfl, rfl, rfl, rfl, rfl, rfl, rfl, rfl, rfl,
      rfl, rfl, rfl⟩

lemma validateTransformReceipt_made (hvalid : (packedLayout role).valid = true)
    (hsources : sources.valid (packedLayout role)) (hdigest : ¬ digestIsZero payloadDigest)
    (hidentity : artifactIdentity ≠ 0)
    (hseal : computeManifestSeal (draftManifest role artifactIdentity sources payloadDigest) ≠ 0) :
    validateTransformReceipt (sealedManifest role artifactIdentity sources payloadDigest) sources
      (makeTransformReceipt (packedLayout role)
        (sealedManifest role artifactIdentity sources payloadDigest) sources) := by
  have hmanifest := validatePackedManifest_sealed hvalid hsources hdigest hidentity hseal
  refine ⟨hmanifest, rfl, rfl, valid_role hvalid, rfl, rfl, rfl, rfl, hsources.2.2.2.1.symm, rfl,
    rfl, rfl, ⟨hmanifest.1, rfl, rfl, rfl, rfl, hdigest, rfl⟩, fun index _ => ?_⟩
  exact makeTransformReceipt_partitions (packedLayout role) _ index

end Receipt

section Build

variable {sha256 : List UInt8 → Digest} {artifactIdentity : UInt64} {sources : SourceSet}
  {inventory : SourceInventory} {payload : Bytes} {written : ℕ → UInt8}

lemma inspectSources_inventory (h : inspectSources sha256 sources = .ok inventory) :
    inventory.valid (packedLayout sources.role) := by
  unfold inspectSources at h
  dsimp only at h
  simp only [guard_ok, bind_ok] at h
  obtain ⟨-, -, -, inspection, -, h⟩ := h
  split_ifs at h with hvalid
  obtain rfl := Except.ok.inj h
  exact hvalid

lemma compareInventory_self (h : inventory.valid (packedLayout sources.role)) :
    compareInventory (packedLayout sources.role) inventory inventory = .ok ⟨⟩ := by
  unfold compareInventory
  rw [guard_ok, checkAll_ok]
  refine ⟨by simp [h], fun index _ => ?_⟩
  unfold compareBinding
  simp

lemma admitBuild_ok (hidentity : artifactIdentity ≠ 0)
    (h : inspectSources sha256 sources = .ok inventory) (hspan : mutableSpanWellFormed payload)
    (hsize : payload.bytes = (packedLayout sources.role).payloadBytes)
    (halias : ¬ payloadAliasesSources sources payload) :
    admitBuild sha256 artifactIdentity sources inventory payload = .ok ⟨⟩ := by
  have hcompare := compareInventory_self (inspectSources_inventory h)
  have hfits : (packedLayout sources.role).payloadBytes ≤ uint64Max :=
    (packedLayout_table sources.role).fits
  unfold admitBuild
  rw [guard_ok, bind_ok]
  refine ⟨hidentity, inventory, h, ?_⟩
  dsimp only
  rw [bind_ok]
  refine ⟨⟨⟩, hcompare, ?_⟩
  rw [if_neg (not_not.mpr hspan), guard_ok, guard_ok, guard_ok, not_not, not_lt]
  exact ⟨hfits, hsize, halias, rfl⟩

lemma transformPayload_stores (h : inspectSources sha256 sources = .ok inventory) :
    ∃ written, transformPayload (packedLayout sources.role) sources
        (packedLayout sources.role).payloadBytes = .ok written ∧
      Stores (packedLayout sources.role) sources written :=
  ⟨_, transformPayload_ok (inspectSources_ok h).1, transform_stores (inspectSources_ok h).1⟩

lemma checkPayload_ok (h : inspectSources sha256 sources = .ok inventory)
    (hsize : payload.bytes = (packedLayout sources.role).payloadBytes)
    (hstores : Stores (packedLayout sources.role) sources payload.contents) :
    checkPayload (packedLayout sources.role) sources payload = .ok ⟨⟩ := by
  obtain ⟨hvalid, -, haccepted⟩ := inspectSources_ok h
  unfold checkPayload
  rw [hsize, scanPayloadScales_ok hvalid haccepted hstores]
  exact (verifyPayloadBijection_ok hvalid).mpr hstores

lemma projectionSha256_ok (hspan : mutableSpanWellFormed payload) (contents : ℕ → UInt8) :
    projectionSha256 sha256 { payload with contents := contents } =
      some (sha256 { payload with contents := contents }.toList) :=
  if_pos (Or.inr ⟨hspan.1, hspan.2.2⟩)

lemma finishBuild_ok (hidentity : artifactIdentity ≠ 0)
    (h : inspectSources sha256 sources = .ok inventory)
    (hcheck : checkPayload (packedLayout sources.role) sources payload = .ok ⟨⟩)
    {digest : Digest} (hsha : projectionSha256 sha256 payload = some digest)
    (hdigest : ¬ digestIsZero digest)
    (hseal : computeManifestSeal (draftManifest sources.role artifactIdentity inventory digest) ≠
      0) :
    finishBuild sha256 artifactIdentity sources inventory payload = .ok
      { manifest := sealedManifest sources.role artifactIdentity inventory digest
        transformReceipt := makeTransformReceipt (packedLayout sources.role)
          (sealedManifest sources.role artifactIdentity inventory digest) inventory } := by
  have hvalid := (inspectSources_ok h).1
  have hinventory := inspectSources_inventory h
  have hmanifest := validatePackedManifest_sealed hvalid hinventory hdigest hidentity hseal
  have hreceipt := validateTransformReceipt_made hvalid hinventory hdigest hidentity hseal
  unfold finishBuild
  rw [bind_ok]
  refine ⟨⟨⟩, hcheck, ?_⟩
  rw [hsha]
  dsimp only
  rw [makePackedManifest_eq hvalid hinventory hdigest hidentity hseal,
    if_neg (not_not.mpr hmanifest), if_neg (not_not.mpr hreceipt)]

lemma finishBuild_zero
    (hcheck : checkPayload (packedLayout sources.role) sources payload = .ok ⟨⟩)
    {digest : Digest} (hsha : projectionSha256 sha256 payload = some digest)
    (hseal : computeManifestSeal (draftManifest sources.role artifactIdentity inventory digest) =
      0) :
    finishBuild sha256 artifactIdentity sources inventory payload = .error .manifestMismatch := by
  unfold finishBuild
  dsimp only
  rw [hcheck, hsha]
  dsimp only [bind, Except.bind]
  rw [makePackedManifest_zero hseal, if_pos empty_manifest_invalid]

lemma buildAsset_admitted
    (hadmitted : admitBuild sha256 artifactIdentity sources inventory payload = .ok ⟨⟩)
    (htransform : transformPayload (packedLayout sources.role) sources payload.bytes =
      .ok written) :
    buildAsset sha256 artifactIdentity sources inventory payload =
      match finishBuild sha256 artifactIdentity sources inventory
          { payload with contents := written } with
      | .error e => (.error e, fillZero payload.bytes written)
      | .ok result => (.ok result, written) := by
  unfold buildAsset
  rw [hadmitted]
  dsimp only
  rw [htransform]

lemma validateAsset_ok (h : inspectSources sha256 sources = .ok inventory)
    (hspan : mutableSpanWellFormed payload)
    (hsize : payload.bytes = (packedLayout sources.role).payloadBytes)
    (halias : ¬ payloadAliasesSources sources payload) {manifest : PackedManifest}
    {receipt : TransformReceipt} (hmanifest : validatePackedManifest manifest inventory)
    (hreceipt : validateTransformReceipt manifest inventory receipt)
    (hsha : projectionSha256 sha256 payload = some manifest.payloadDigest)
    (hcheck : checkPayload (packedLayout sources.role) sources payload = .ok ⟨⟩) :
    validateAsset sha256 manifest receipt sources inventory payload = .ok ⟨⟩ := by
  have hcompare := compareInventory_self (inspectSources_inventory h)
  have hfits : (packedLayout sources.role).payloadBytes ≤ uint64Max :=
    (packedLayout_table sources.role).fits
  have hconst : constSpanWellFormed payload := Or.inr ⟨hspan.1, hspan.2.2⟩
  have hobserved := hreceipt.2.2.2.2.2.2.2.2.2.2.2.2.1.2.2.2.2.2.2
  unfold validateAsset
  rw [bind_ok]
  refine ⟨inventory, h, ?_⟩
  rw [bind_ok]
  refine ⟨⟨⟩, hcompare, ?_⟩
  rw [guard_ok, guard_ok, if_neg (not_not.mpr hconst), guard_ok, guard_ok, guard_ok, hsha]
  refine ⟨not_not.mpr hmanifest, not_not.mpr hreceipt, not_lt.mpr hfits, not_not.mpr hsize, halias,
    ?_⟩
  dsimp only
  rw [guard_ok]
  exact ⟨by simp [hobserved], hcheck⟩

lemma admitBuild_inv
    (h : admitBuild sha256 artifactIdentity sources inventory payload = .ok ⟨⟩) :
    (∃ observed, inspectSources sha256 sources = .ok observed) ∧
      payload.bytes = (packedLayout sources.role).payloadBytes := by
  unfold admitBuild at h
  dsimp only at h
  rw [guard_ok, bind_ok] at h
  obtain ⟨-, observed, hinspect, h⟩ := h
  rw [bind_ok] at h
  obtain ⟨⟨⟩, -, h⟩ := h
  split_ifs at h with _ _ hsize _
  exact ⟨⟨observed, hinspect⟩, not_not.mp hsize⟩

lemma buildAsset_stores {result : AssetBuildResult}
    (h : buildAsset sha256 artifactIdentity sources inventory payload = (.ok result, written)) :
    Stores (packedLayout sources.role) sources written := by
  unfold buildAsset at h
  cases hadmitted : admitBuild sha256 artifactIdentity sources inventory payload with
  | error e =>
    rw [hadmitted] at h
    cases h
  | ok =>
    obtain ⟨⟨observed, hinspect⟩, hsize⟩ := admitBuild_inv hadmitted
    obtain ⟨stored, htransform, hstores⟩ := transformPayload_stores hinspect
    rw [hadmitted, hsize, htransform] at h
    dsimp only at h
    split at h
    · cases h
    · cases h
      exact hstores

lemma buildAsset_scrubs {e : AssetError}
    (hadmitted : admitBuild sha256 artifactIdentity sources inventory payload = .ok ⟨⟩)
    (h : (buildAsset sha256 artifactIdentity sources inventory payload).1 = .error e) {offset : ℕ}
    (hoffset : offset < payload.bytes) :
    (buildAsset sha256 artifactIdentity sources inventory payload).2 offset = 0 := by
  unfold buildAsset at h ⊢
  rw [hadmitted] at h ⊢
  dsimp only at h ⊢
  split at h
  · exact if_pos hoffset
  · split at h
    · exact if_pos hoffset
    · cases h

lemma validateAsset_stores {manifest : PackedManifest} {receipt : TransformReceipt}
    (h : validateAsset sha256 manifest receipt sources inventory payload = .ok ⟨⟩) :
    (∃ observed, inspectSources sha256 sources = .ok observed) ∧
      payload.bytes = (packedLayout sources.role).payloadBytes ∧
      Stores (packedLayout sources.role) sources payload.contents := by
  unfold validateAsset at h
  dsimp only at h
  rw [bind_ok] at h
  obtain ⟨observed, hinspect, h⟩ := h
  rw [bind_ok] at h
  obtain ⟨⟨⟩, -, h⟩ := h
  split_ifs at h with _ _ _ _ hsize _
  split at h
  · cases h
  · rw [guard_ok] at h
    unfold checkPayload at h
    rw [bind_ok, not_not.mp hsize, verifyPayloadBijection_ok (inspectSources_ok hinspect).1] at h
    exact ⟨⟨observed, hinspect⟩, not_not.mp hsize, h.2.choose_spec.2⟩

end Build

theorem asset_build_validate (sha256 : List UInt8 → Digest) :
    (∀ artifactIdentity sources inventory payload, artifactIdentity ≠ 0 →
      inspectSources sha256 sources = .ok inventory → mutableSpanWellFormed payload →
      payload.bytes = (packedLayout sources.role).payloadBytes →
      ¬ payloadAliasesSources sources payload →
      ∃ written, transformPayload (packedLayout sources.role) sources payload.bytes =
          .ok written ∧
        ∀ digest, digest = sha256 { payload with contents := written }.toList →
          ¬ digestIsZero digest →
          (computeManifestSeal
              (draftManifest sources.role artifactIdentity inventory digest) ≠ 0 →
            ∃ result, buildAsset sha256 artifactIdentity sources inventory payload =
                (.ok result, written) ∧
              validateAsset sha256 result.manifest result.transformReceipt sources inventory
                { payload with contents := written } = .ok ⟨⟩) ∧
          (computeManifestSeal
              (draftManifest sources.role artifactIdentity inventory digest) = 0 →
            (buildAsset sha256 artifactIdentity sources inventory payload).1 =
              .error .manifestMismatch)) ∧
    (∀ artifactIdentity sources expected payload e,
      (buildAsset sha256 artifactIdentity sources expected payload).1 = .error e →
      (admitBuild sha256 artifactIdentity sources expected payload = .ok ⟨⟩ →
        ∀ offset < payload.bytes,
          (buildAsset sha256 artifactIdentity sources expected payload).2 offset = 0) ∧
      (admitBuild sha256 artifactIdentity sources expected payload ≠ .ok ⟨⟩ →
        (buildAsset sha256 artifactIdentity sources expected payload).2 = payload.contents)) ∧
    ∀ manifest receipt sources expected payload,
      validateAsset sha256 manifest receipt sources expected payload = .ok ⟨⟩ →
      (∃ written, transformPayload (packedLayout sources.role) sources payload.bytes =
          .ok written ∧
        ∀ offset < payload.bytes, payload.contents offset = written offset) ∧
      ∀ artifactIdentity expected' buffer result written,
        buildAsset sha256 artifactIdentity sources expected' buffer = (.ok result, written) →
        ∀ offset < payload.bytes, payload.contents offset = written offset := by
  refine ⟨?_, ?_, ?_⟩
  · intro artifactIdentity sources inventory payload hidentity hinspect hspan hsize halias
    obtain ⟨written, htransform, hstores⟩ := transformPayload_stores hinspect
    rw [← hsize] at htransform
    refine ⟨written, htransform, fun digest hsha hdigest => ?_⟩
    have hadmitted := admitBuild_ok hidentity hinspect hspan hsize halias
    have hcheck := @checkPayload_ok sha256 sources inventory { payload with contents := written }
      hinspect hsize hstores
    have hsha' := @projectionSha256_ok sha256 _ hspan written
    rw [← hsha] at hsha'
    rw [buildAsset_admitted hadmitted htransform]
    constructor
    · intro hseal
      have hvalid := (inspectSources_ok hinspect).1
      have hinventory := inspectSources_inventory hinspect
      rw [finishBuild_ok hidentity hinspect hcheck hsha' hdigest hseal]
      refine ⟨_, rfl, @validateAsset_ok sha256 sources inventory { payload with contents := written }
        hinspect hspan hsize halias _ _ ?_ ?_ hsha' hcheck⟩
      · exact validatePackedManifest_sealed hvalid hinventory hdigest hidentity hseal
      · exact validateTransformReceipt_made hvalid hinventory hdigest hidentity hseal
    · intro hseal
      rw [finishBuild_zero hcheck hsha' hseal]
  · intro artifactIdentity sources expected payload e herror
    refine ⟨fun hadmitted offset hoffset => buildAsset_scrubs hadmitted herror hoffset, fun hadmitted => ?_⟩
    unfold buildAsset
    cases hresult : admitBuild sha256 artifactIdentity sources expected payload with
    | error e => rfl
    | ok => exact absurd hresult hadmitted
  · intro manifest receipt sources expected payload hvalidate
    obtain ⟨⟨observed, hinspect⟩, hsize, hstores⟩ := validateAsset_stores hvalidate
    have hvalid := (inspectSources_ok hinspect).1
    rw [hsize]
    constructor
    · obtain ⟨written, htransform, hwritten⟩ := transformPayload_stores hinspect
      exact ⟨written, htransform, fun offset hoffset => hstores.unique hvalid hwritten hoffset⟩
    · intro artifactIdentity expected' buffer result written hbuild offset hoffset
      exact hstores.unique hvalid (buildAsset_stores hbuild) hoffset

def samplePayload : Bytes where
  data := 17179869184
  bytes := 50135040

theorem asset_build_validate_sample :
    ∃ result written, buildAsset sampleSha256 9 sampleSources inspectedSample.inventory
        samplePayload = (.ok result, written) ∧
      validateAsset sampleSha256 result.manifest result.transformReceipt sampleSources
        inspectedSample.inventory { samplePayload with contents := written } = .ok ⟨⟩ := by
  obtain ⟨written, -, h⟩ := (asset_build_validate sampleSha256).1 9 sampleSources
    inspectedSample.inventory samplePayload (by decide) sampleSources_accepted (by decide)
    (by decide) (by decide)
  obtain ⟨result, hbuild, hvalidate⟩ := (h _ rfl (by decide : ¬ digestIsZero
    (Vector.replicate 32 1))).1 (by decide +kernel : computeManifestSeal
      (draftManifest .nvFp4Down 9 inspectedSample.inventory (Vector.replicate 32 1)) ≠ 0)
  exact ⟨result, written, hbuild, hvalidate⟩

end Qwen3xOrin.Packed
