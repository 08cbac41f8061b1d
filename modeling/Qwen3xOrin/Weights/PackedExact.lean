import Qwen3xOrin.Weights.InventoryExact

/-! What the calls leave that attach an artifact for every layer and role. -/

namespace Qwen3xOrin.Weights

open Library

variable {weights : ModelWeights}

section Tables

variable {α ν : Type} {key : α → ℕ × Option ℕ} {view : α → ν}

-- The tables of a loop that has taken the items, each under its layer and slot.
def seenOf (key : α → ℕ × Option ℕ) (items : List α) (layer slot : ℕ) : Bool :=
  items.any fun item => key item = (layer, some slot)

def viewsOf [Inhabited ν] (key : α → ℕ × Option ℕ) (view : α → ν) (items : List α)
    (layer slot : ℕ) : ν :=
  ((own key items (layer, some slot)).map view).getD default

lemma not_seen {items : List α} {layer slot : ℕ} (h : ¬seenOf key items layer slot = true) :
    ∀ item ∈ items, key item ≠ (layer, some slot) :=
  fun item hitem hkey => h (List.any_eq_true.mpr ⟨item, hitem, by simp [hkey]⟩)

lemma setAt_apply {ν : Type} (table : ℕ → ℕ → ν) (layer slot : ℕ) (value : ν) (i j : ℕ) :
    setAt table layer slot value i j =
      if (i, some j) = (layer, some slot) then value else table i j := by
  unfold setAt
  by_cases hi : i = layer
  · subst hi
    by_cases hj : j = slot <;> simp [hj]
  · simp [hi]

lemma seenOf_append {items : List α} {item : α} {layer slot : ℕ}
    (hkey : key item = (layer, some slot)) :
    setAt (seenOf key items) layer slot true = seenOf key (items ++ [item]) := by
  funext i j
  rw [setAt_apply]
  by_cases h : (i, some j) = (layer, some slot)
  · rw [if_pos h, seenOf, h]
    simp [hkey]
  · rw [if_neg h, seenOf, seenOf]
    simp [hkey, Ne.symm h]

lemma viewsOf_append [Inhabited ν] {items : List α} {item : α} {layer slot : ℕ}
    (hkey : key item = (layer, some slot)) (hfresh : ¬seenOf key items layer slot = true) :
    setAt (viewsOf key view items) layer slot (view item) = viewsOf key view (items ++ [item]) := by
  funext i j
  rw [setAt_apply, viewsOf, viewsOf, own, own, List.find?_append]
  by_cases h : (i, some j) = (layer, some slot)
  · have hnone : (items.find? fun other => decide (key other = (i, some j))) = none := by
      refine List.find?_eq_none.mpr fun other hother => ?_
      rw [h]
      simpa using not_seen hfresh other hother
    rw [if_pos h, hnone, h]
    simp [hkey]
  · rw [if_neg h]
    simp [hkey, Ne.symm h]

end Tables

section Packed

variable {roleSlot : P40PackedRole → Option ℕ} {items : List P40PackedDescriptor}

def packedKey (roleSlot : P40PackedRole → Option ℕ) (item : P40PackedDescriptor) : ℕ × Option ℕ :=
  (item.layerIndex, roleSlot item.view.role)

instance : Inhabited P40PackedView := ⟨{}⟩

def packedTable (roleSlot : P40PackedRole → Option ℕ) (items : List P40PackedDescriptor) :
    ViewTable P40PackedView where
  seen := seenOf (packedKey roleSlot) items
  views := viewsOf (packedKey roleSlot) P40PackedDescriptor.view items
  ranges := items.map fun item => (item.view.payload, item.view.payload + item.view.payloadBytes)
  identities := items.map fun item => item.view.artifactIdentity

structure PackedFits (roleSlot : P40PackedRole → Option ℕ) (item : P40PackedDescriptor) :
    Prop where
  index : item.layerIndex < denseLayerCount
  slot : (roleSlot item.view.role).isSome = true
  view : ∃ plan, p40PackedProjectionPlan item.view.role = some plan ∧
    packedViewFits item.view plan = true

def RangesApart (first second : ℕ × ℕ) : Prop := first.2 ≤ second.1 ∨ second.2 ≤ first.1

lemma RangesApart.of_not_overlaps {first second : ℕ × ℕ} (h : ¬overlaps first second = true) :
    RangesApart first second := by
  unfold overlaps at h
  unfold RangesApart
  simp only [decide_eq_true_eq] at h
  omega

def payloadRange (item : P40PackedDescriptor) : ℕ × ℕ :=
  (item.view.payload, item.view.payload + item.view.payloadBytes)

def PackedApart (roleSlot : P40PackedRole → Option ℕ) (first second : P40PackedDescriptor) :
    Prop :=
  packedKey roleSlot first ≠ packedKey roleSlot second ∧
    first.view.artifactIdentity ≠ second.view.artifactIdentity ∧
    RangesApart (payloadRange first) (payloadRange second)

lemma checkPacked_admits :
    Admits (checkPacked roleSlot) (packedTable roleSlot) (PackedFits roleSlot)
      (PackedApart roleSlot) where
  accepted := by
    intro taken item table h
    unfold checkPacked at h
    obtain ⟨slot, hslot, h⟩ := Option.bind_eq_some_iff.mp h
    obtain ⟨plan, hplan, h⟩ := Option.bind_eq_some_iff.mp h
    split_ifs at h with hfields
    dsimp only at h
    split_ifs at h with hclash
    simp only [not_or, not_le, Bool.not_eq_false] at hfields
    obtain ⟨hindex, hseen, -, hview⟩ := hfields
    rw [not_or] at hclash
    have hkey : packedKey roleSlot item = (item.layerIndex, some slot) :=
      congrArg (Prod.mk item.layerIndex) hslot
    refine ⟨?_, ⟨hindex, by rw [hslot]; rfl, plan, hplan, hview⟩, fun other hother => ⟨?_, ?_, ?_⟩⟩
    · rw [← Option.some.inj h]
      have hviews := @viewsOf_append _ _ _ P40PackedDescriptor.view _ _ _ _ _ hkey hseen
      simp only [packedTable, seenOf_append hkey, List.map_append, List.map_cons, List.map_nil]
      rw [hviews]
    · rw [hkey]
      exact not_seen hseen other hother
    · exact fun hsame => hclash.1 (List.mem_map.mpr ⟨other, hother, hsame⟩)
    · refine RangesApart.of_not_overlaps fun hoverlap => hclash.2 (List.any_eq_true.mpr ?_)
      exact ⟨_, List.mem_map_of_mem hother, hoverlap⟩

lemma checkPacked_taken {taken : List P40PackedDescriptor} {item : P40PackedDescriptor} {slot : ℕ}
    {plan : P40PackedPlan}
    (hslot : roleSlot item.view.role = some slot)
    (hplan : p40PackedProjectionPlan item.view.role = some plan)
    (hindex : item.layerIndex < denseLayerCount) (hinput : packedInputFits item slot = true)
    (hview : packedViewFits item.view plan = true)
    (hapart : ∀ other ∈ taken, PackedApart roleSlot other item) :
    checkPacked roleSlot (packedTable roleSlot taken) item =
      some (packedTable roleSlot (taken ++ [item])) := by
  have hkey : packedKey roleSlot item = (item.layerIndex, some slot) :=
    congrArg (Prod.mk item.layerIndex) hslot
  have hseen : ¬ seenOf (packedKey roleSlot) taken item.layerIndex slot = true := by
    intro hseen
    obtain ⟨other, hother, hsame⟩ := List.any_eq_true.mp hseen
    exact (hapart other hother).1 ((of_decide_eq_true hsame).trans hkey.symm)
  have hidentity : item.view.artifactIdentity ∉ taken.map fun item => item.view.artifactIdentity := by
    intro hmem
    obtain ⟨other, hother, hsame⟩ := List.mem_map.mp hmem
    exact (hapart other hother).2.1 hsame
  have hranges : ¬ (taken.map payloadRange).any (overlaps · (payloadRange item)) = true := by
    intro hany
    obtain ⟨range, hrange, hoverlaps⟩ := List.any_eq_true.mp hany
    obtain ⟨other, hother, rfl⟩ := List.mem_map.mp hrange
    have := (hapart other hother).2.2
    unfold RangesApart at this
    simp only [overlaps, decide_eq_true_eq] at hoverlaps
    omega
  have hviews := @viewsOf_append _ _ _ P40PackedDescriptor.view _ _ _ _ _ hkey hseen
  rw [checkPacked, hslot, hplan]
  simp only [Option.bind_eq_bind, Option.bind_some]
  have hclash : ¬ (item.view.artifactIdentity ∈ (packedTable roleSlot taken).identities ∨
      (packedTable roleSlot taken).ranges.any (overlaps · (payloadRange item)) = true) :=
    not_or.mpr ⟨hidentity, hranges⟩
  rw [if_neg (by simp [packedTable, hinput, hview, hindex, Bool.not_eq_true _ ▸ hseen])]
  refine (if_neg hclash).trans ?_
  simp only [packedTable, seenOf_append hkey, List.map_append, List.map_cons, List.map_nil]
  rw [← hviews]

-- A complete set of artifacts: one for each layer and role, each at a place of its own.
structure PackedInventory (roleSlot : P40PackedRole → Option ℕ) (slots : ℕ)
    (items : List P40PackedDescriptor) : Prop where
  keys : (items.map (packedKey roleSlot)).Nodup
  fits : ∀ item ∈ items, PackedFits roleSlot item
  complete : ∀ layer < denseLayerCount, ∀ slot < slots,
    ∃ item ∈ items, packedKey roleSlot item = (layer, some slot)
  identities : (items.map fun item => item.view.artifactIdentity).Nodup
  addressable : ∀ item ∈ items, item.view.payload ≠ 0 ∧ 0 < item.view.payloadBytes ∧
    item.view.payload + item.view.payloadBytes ≤ pointerMaximum
  disjoint : items.Pairwise fun first second =>
    RangesApart (payloadRange first) (payloadRange second)

def ownPacked (roleSlot : P40PackedRole → Option ℕ) (items : List P40PackedDescriptor) :
    ℕ → ℕ → P40PackedView :=
  viewsOf (packedKey roleSlot) P40PackedDescriptor.view items

lemma allSeen_iff {ν : Type} {table : ViewTable ν} {slots : ℕ} :
    allSeen table slots = true ↔
      ∀ layer < denseLayerCount, ∀ slot < slots, table.seen layer slot = true := by
  simp [allSeen]

lemma planBytes_pos {role : P40PackedRole} {plan : P40PackedPlan}
    (h : p40PackedProjectionPlan role = some plan) : 0 < plan.payloadBytes := by
  cases role <;> cases h <;> decide

lemma PackedFits.addressable {item : P40PackedDescriptor} (h : PackedFits roleSlot item) :
    item.view.payload ≠ 0 ∧ 0 < item.view.payloadBytes ∧
      item.view.payload + item.view.payloadBytes ≤ pointerMaximum := by
  obtain ⟨plan, hplan, hview⟩ := h.view
  have hpos := planBytes_pos hplan
  simp only [packedViewFits, decide_eq_true_eq] at hview
  obtain ⟨hpayload, hbytes, -, -, -, -, hmaximum, -⟩ := hview
  refine ⟨hpayload, ?_, ?_⟩ <;> omega

lemma packedInventory_of_check {slots : ℕ} {table : ViewTable P40PackedView}
    (h : items.foldlM (checkPacked roleSlot) { views := fun _ _ => {} } = some table)
    (hseen : allSeen table slots = true) :
    PackedInventory roleSlot slots items ∧ table.views = ownPacked roleSlot items := by
  have hrun := @Admits.run _ _ _ _ _ _ (@checkPacked_admits roleSlot) items table h
  obtain ⟨rfl, hfits, hapart⟩ := hrun
  refine ⟨⟨?_, hfits, ?_, ?_, fun item hitem => (hfits item hitem).addressable, ?_⟩, rfl⟩
  · exact List.pairwise_map.mpr (hapart.imp And.left)
  · intro layer hlayer slot hslot
    obtain ⟨item, hitem, hkey⟩ := List.any_eq_true.mp (allSeen_iff.1 hseen layer hlayer slot hslot)
    exact ⟨item, hitem, of_decide_eq_true hkey⟩
  · exact List.pairwise_map.mpr (hapart.imp fun h => h.2.1)
  · exact hapart.imp fun h => h.2.2

section Projection

variable {descriptors : Option (ℕ → P40PackedDescriptor)} {descriptorCount : ℕ}

structure PackedPublished (descriptors : Option (ℕ → P40PackedDescriptor)) (descriptorCount : ℕ)
    (weights after : ModelWeights) : Prop where
  detach : descriptors = none → descriptorCount = 0 ∧
    after = (weights.updateNvFp4 fun _ => setPackedNvFp4 {} {}).updateFp8 fun _ =>
      setPackedFp8 {} {}
  attach : ∀ read, descriptors = some read → ∃ items,
    items = (List.range descriptorCount).map read ∧ PackedInventory packedRoleSlot 4 items ∧
    (∀ layer, packedLayerFits (weights.layers layer) = true) ∧
    after = (weights.updateNvFp4 fun layer =>
        setPackedNvFp4 (ownPacked packedRoleSlot items layer 0)
          (ownPacked packedRoleSlot items layer 1)).updateFp8 fun layer =>
      setPackedFp8 (ownPacked packedRoleSlot items layer 2)
        (ownPacked packedRoleSlot items layer 3)

lemma attachPacked_settles : Settles weights (PackedPublished descriptors descriptorCount weights)
    (attachP40PackedProjectionSidecars descriptors descriptorCount weights) := by
  unfold attachP40PackedProjectionSidecars
  cases descriptors with
  | none =>
    dsimp only
    split_ifs with hcount
    · exact Settles.accept ⟨fun _ => ⟨hcount, rfl⟩, fun _ h => nomatch h⟩
    · exact Settles.refuse
  | some read =>
    dsimp only
    by_cases hcount : descriptorCount ≠ p40PackedArtifactCount
    · rw [if_pos hcount]
      exact Settles.refuse
    rw [if_neg hcount]
    split
    · exact Settles.refuse
    · rename_i table htable
      split_ifs with hlayers
      · exact Settles.refuse
      simp only [not_or, Bool.not_eq_false] at hlayers
      obtain ⟨hinventory, hviews⟩ := packedInventory_of_check htable hlayers.1
      refine Settles.accept ⟨fun h => (nomatch h), fun other hother => ?_⟩
      obtain rfl := Option.some.inj hother
      refine ⟨_, rfl, hinventory, everyLayer_iff.mp hlayers.2, ?_⟩
      unfold publishPacked publishPackedNvFp4 clearPacked clearPackedNvFp4
      rw [updateNvFp4_updateFp8, updateNvFp4_updateNvFp4, updateFp8_updateFp8, hviews]
      congr 1
      funext layer slot weight
      unfold setPackedFp8
      split_ifs <;> rfl

structure PackedNvFp4Published (descriptors : Option (ℕ → P40PackedDescriptor))
    (descriptorCount : ℕ) (weights after : ModelWeights) : Prop where
  detach : descriptors = none → descriptorCount = 0 ∧
    after = weights.updateNvFp4 fun _ => setPackedNvFp4 {} {}
  attach : ∀ read, descriptors = some read → ∃ items,
    items = (List.range descriptorCount).map read ∧ PackedInventory packedNvFp4RoleSlot 2 items ∧
    (∀ layer, packedNvFp4LayerFits (weights.layers layer) = true) ∧
    after = weights.updateNvFp4 fun layer =>
      setPackedNvFp4 (ownPacked packedNvFp4RoleSlot items layer 0)
        (ownPacked packedNvFp4RoleSlot items layer 1)

lemma attachPackedNvFp4_settles : Settles weights
    (PackedNvFp4Published descriptors descriptorCount weights)
    (attachP40PackedNvFp4Sidecars descriptors descriptorCount weights) := by
  unfold attachP40PackedNvFp4Sidecars
  cases descriptors with
  | none =>
    dsimp only
    split_ifs with hcount
    · exact Settles.accept ⟨fun _ => ⟨hcount, rfl⟩, fun _ h => nomatch h⟩
    · exact Settles.refuse
  | some read =>
    dsimp only
    by_cases hcount : descriptorCount ≠ p40PackedNvFp4ArtifactCount
    · rw [if_pos hcount]
      exact Settles.refuse
    rw [if_neg hcount]
    split
    · exact Settles.refuse
    · rename_i table htable
      split_ifs with hlayers
      · exact Settles.refuse
      simp only [not_or, Bool.not_eq_false] at hlayers
      obtain ⟨hinventory, hviews⟩ := packedInventory_of_check htable hlayers.1
      refine Settles.accept ⟨fun h => (nomatch h), fun other hother => ?_⟩
      obtain rfl := Option.some.inj hother
      refine ⟨_, rfl, hinventory, everyLayer_iff.mp hlayers.2, ?_⟩
      unfold publishPackedNvFp4 clearPackedNvFp4
      rw [updateNvFp4_updateNvFp4, hviews]
      congr 1
      funext layer slot weight
      cases slot <;> rfl

end Projection

end Packed

section Parity

variable {items : List ParityDescriptor} {sourceRanges ranges : List (ℕ × ℕ)}
  {identities : List ℕ}

lemma makeRange_ok {pointer bytes alignment : ℕ} {range : ℕ × ℕ}
    (h : makeRange pointer bytes alignment = some range) :
    range = (pointer, pointer + bytes) ∧ pointer ≠ 0 ∧ 0 < bytes ∧
      pointer + bytes ≤ pointerMaximum := by
  unfold makeRange at h
  split_ifs at h with hfields
  refine ⟨(Option.some.inj h).symm, ?_, ?_, ?_⟩ <;> omega

lemma appendRange_admits :
    Admits (appendRange sourceRanges) (fun taken => ranges ++ taken)
      (fun range => (∀ source ∈ sourceRanges, RangesApart range source) ∧
        ∀ other ∈ ranges, RangesApart range other)
      fun first second => RangesApart second first where
  accepted := by
    intro taken range appended h
    unfold appendRange at h
    split_ifs at h with hclash
    simp only [not_or, List.any_eq_true, not_exists, not_and] at hclash
    obtain ⟨hsources, hranges⟩ := hclash
    refine ⟨by rw [← Option.some.inj h, List.append_assoc], ⟨?_, ?_⟩, ?_⟩
    · exact fun source hsource => RangesApart.of_not_overlaps (hsources source hsource)
    · exact fun other hother =>
        RangesApart.of_not_overlaps (hranges other (List.mem_append_left _ hother))
    · exact fun other hother =>
        RangesApart.of_not_overlaps (hranges other (List.mem_append_right _ hother))

lemma checkParitySource_admits :
    Admits checkParitySource (fun taken => identities ++ taken.map fun entry => entry.1.tensorIdentity)
      (fun entry => entry.1.role = entry.2.1 ∧ ∃ expected, entry.2.2 = some expected ∧
        entry.1.globalScaleBits = expected.weightScale2)
      fun first second => first.1.tensorIdentity ≠ second.1.tensorIdentity where
  accepted := by
    rintro taken ⟨source, role, expected⟩ appended h
    unfold checkParitySource at h
    obtain ⟨weight, hweight, h⟩ := Option.bind_eq_some_iff.mp h
    split_ifs at h with hfields
    simp only [not_or, not_not] at hfields
    obtain ⟨hrole, -, -, -, hbits, hfresh⟩ := hfields
    refine ⟨by rw [← Option.some.inj h]; simp, ⟨hrole, weight, hweight, hbits⟩, ?_⟩
    intro other hother hsame
    exact hfresh (List.mem_append_right _ (List.mem_map.mpr ⟨other, hother, hsame⟩))

def parityKey (item : ParityDescriptor) : ℕ × Option ℕ :=
  (item.layerIndex, parityRoleSlot item.view.manifest.role)

def parityRanges (item : ParityDescriptor) : List (ℕ × ℕ) :=
  [(item.view.weight, item.view.weight + item.view.manifest.weightBytes),
    (item.view.scales, item.view.scales + item.view.manifest.scaleBytes),
    (item.view.globalScale, item.view.globalScale + 4)]

instance : Inhabited ParityView := ⟨{}⟩

def paritySourcesOf (weights : ModelWeights) (item : ParityDescriptor) :
    List (ParitySourceManifest × ParitySourceRole × Option NvFp4LinearWeight) :=
  if h : item.layerIndex < denseLayerCount then
    paritySources (weights.layers ⟨item.layerIndex, h⟩) item.view.manifest
  else []

def parityTable (weights : ModelWeights) (items : List ParityDescriptor) : ParityTable where
  seen := seenOf parityKey items
  views := viewsOf parityKey ParityDescriptor.view items
  ranges := items.flatMap parityRanges
  identities := items.map fun item => item.view.manifest.artifactIdentity
  tensorIdentities := (items.flatMap (paritySourcesOf weights)).map fun entry =>
    entry.1.tensorIdentity

structure ParityFits (weights : ModelWeights) (sourceRanges : List (ℕ × ℕ))
    (item : ParityDescriptor) : Prop where
  index : item.layerIndex < denseLayerCount
  manifest : item.view.manifest.layerIndex = item.layerIndex ∧
    parityManifestFits item.view.manifest = true
  ranges : ∀ range ∈ parityRanges item, range.1 ≠ 0 ∧ range.1 < range.2 ∧
    range.2 ≤ pointerMaximum ∧ ∀ source ∈ sourceRanges, RangesApart range source
  apart : (parityRanges item).Pairwise fun first second => RangesApart second first
  sources : ∀ entry ∈ paritySourcesOf weights item, entry.1.role = entry.2.1 ∧
    ∃ expected, entry.2.2 = some expected ∧ entry.1.globalScaleBits = expected.weightScale2

def ParityApart (first second : ParityDescriptor) : Prop :=
  parityKey first ≠ parityKey second ∧
    first.view.manifest.artifactIdentity ≠ second.view.manifest.artifactIdentity ∧
    ∀ range ∈ parityRanges first, ∀ other ∈ parityRanges second, RangesApart other range

lemma checkParity_admits :
    Admits (checkParity weights sourceRanges) (parityTable weights)
      (ParityFits weights sourceRanges) ParityApart where
  accepted := by
    intro taken item table h
    unfold checkParity at h
    obtain ⟨slot, hslot, h⟩ := Option.bind_eq_some_iff.mp h
    split_ifs at h with hindex hfields
    simp only [not_or, not_not, Bool.not_eq_false] at hfields
    obtain ⟨hlayer, hseen, hmanifest, hidentity⟩ := hfields
    obtain ⟨weightRange, hweight, h⟩ := Option.bind_eq_some_iff.mp h
    obtain ⟨scaleRange, hscale, h⟩ := Option.bind_eq_some_iff.mp h
    obtain ⟨globalRange, hglobal, h⟩ := Option.bind_eq_some_iff.mp h
    obtain ⟨ranges, hranges, h⟩ := Option.bind_eq_some_iff.mp h
    obtain ⟨tensors, htensors, h⟩ := Option.bind_eq_some_iff.mp h
    obtain ⟨rfl, hweight⟩ := makeRange_ok hweight
    obtain ⟨rfl, hscale⟩ := makeRange_ok hscale
    obtain ⟨rfl, hglobal⟩ := makeRange_ok hglobal
    have hkey : parityKey item = (item.layerIndex, some slot) :=
      congrArg (Prod.mk item.layerIndex) hslot
    have happended := @Admits.run _ _ _ _ _ _
      (@appendRange_admits sourceRanges (parityTable weights taken).ranges) (parityRanges item)
      ranges (by simpa [parityRanges] using hranges)
    obtain ⟨rfl, hclear, hpairs⟩ := happended
    have hsources := @Admits.run _ _ _ _ _ _
      (@checkParitySource_admits (parityTable weights taken).tensorIdentities)
      (paritySourcesOf weights item) tensors
      (by simpa [paritySourcesOf, hindex] using htensors)
    obtain ⟨rfl, hentries, -⟩ := hsources
    refine ⟨?_, ⟨hindex, ⟨hlayer, hmanifest⟩, fun range hrange => ?_, hpairs, hentries⟩,
      fun other hother => ⟨?_, ?_, ?_⟩⟩
    · rw [← Option.some.inj h]
      have hviews := @viewsOf_append _ _ _ ParityDescriptor.view _ _ _ _ _ hkey hseen
      have hseens := @seenOf_append _ _ taken _ _ _ hkey
      simp only [parityTable, hseens, hviews, List.map_append, List.map_cons, List.map_nil,
        List.flatMap_append, List.flatMap_cons, List.flatMap_nil, List.append_nil]
    · have hbounds : range.1 ≠ 0 ∧ range.1 < range.2 ∧ range.2 ≤ pointerMaximum := by
        simp only [parityRanges, List.mem_cons, List.not_mem_nil, or_false] at hrange
        obtain rfl | rfl | rfl := hrange <;> dsimp only <;> omega
      exact ⟨hbounds.1, hbounds.2.1, hbounds.2.2, (hclear range hrange).1⟩
    · rw [hkey]
      exact not_seen hseen other hother
    · exact fun hsame => hidentity (List.mem_map.mpr ⟨other, hother, hsame⟩)
    · intro range hrange later hlater
      exact (hclear later hlater).2 range (List.mem_flatMap.mpr ⟨other, hother, hrange⟩)

variable {descriptors : Option (ℕ → ParityDescriptor)} {descriptorCount : ℕ}

structure ParityInventory (weights : ModelWeights) (items : List ParityDescriptor) : Prop where
  keys : (items.map parityKey).Nodup
  fits : ∀ item ∈ items, ParityFits weights [] item
  complete : ∀ layer < denseLayerCount, ∀ slot < 2,
    ∃ item ∈ items, parityKey item = (layer, some slot)
  identities : (items.map fun item => item.view.manifest.artifactIdentity).Nodup
  disjoint : (items.flatMap parityRanges).Pairwise fun first second => RangesApart second first

def ownParity (items : List ParityDescriptor) : ℕ → ℕ → ParityView :=
  viewsOf parityKey ParityDescriptor.view items

-- The layers that the parity views may be attached to.
def parityLayerFits (layer : DecoderLayerWeights) : Bool := mlpWhere layer parityTargetFits

structure ParityPublished (descriptors : Option (ℕ → ParityDescriptor)) (descriptorCount : ℕ)
    (weights after : ModelWeights) : Prop where
  detach : descriptors = none → descriptorCount = 0 ∧
    after = weights.updateNvFp4 fun _ => setParity {} {}
  attach : ∀ read, descriptors = some read → ∃ items,
    items = (List.range descriptorCount).map read ∧ ParityInventory weights items ∧
    (∀ layer, parityLayerFits (weights.layers layer) = true) ∧
    after = weights.updateNvFp4 fun layer =>
      setParity (ownParity items layer 0) (ownParity items layer 1)

lemma parityInventory_of_check {table : ParityTable}
    (h : items.foldlM (checkParity weights sourceRanges) { views := fun _ _ => {} } = some table)
    (hseen : allSeen table.toViewTable 2 = true) :
    ParityInventory weights items ∧ table.views = ownParity items := by
  have hrun := @Admits.run _ _ _ _ _ _ (@checkParity_admits weights sourceRanges) items table h
  obtain ⟨rfl, hfits, hapart⟩ := hrun
  refine ⟨⟨?_, fun item hitem => ?_, ?_, ?_, ?_⟩, rfl⟩
  · exact List.pairwise_map.mpr (hapart.imp And.left)
  · have hitem := hfits item hitem
    refine ⟨hitem.index, hitem.manifest, fun range hrange => ?_, hitem.apart, hitem.sources⟩
    obtain ⟨hzero, horder, hmaximum, -⟩ := hitem.ranges range hrange
    exact ⟨hzero, horder, hmaximum, by simp⟩
  · intro layer hlayer slot hslot
    obtain ⟨item, hitem, hkey⟩ := List.any_eq_true.mp (allSeen_iff.1 hseen layer hlayer slot hslot)
    exact ⟨item, hitem, of_decide_eq_true hkey⟩
  · exact List.pairwise_map.mpr (hapart.imp fun h => h.2.1)
  · exact List.pairwise_flatMap.mpr ⟨fun item hitem => (hfits item hitem).apart,
      hapart.imp fun h => h.2.2⟩

lemma parityLayers_fit (h : (List.finRange denseLayerCount).foldlM (parityLayer weights) [] =
    some sourceRanges) (layer : Fin denseLayerCount) :
    parityLayerFits (weights.layers layer) = true := by
  have hstep : ∀ (layers : List (Fin denseLayerCount)) (ranges : List (ℕ × ℕ)),
      layers.foldlM (parityLayer weights) ranges = some sourceRanges →
      ∀ layer ∈ layers, parityLayerFits (weights.layers layer) = true := by
    intro layers
    induction layers with
    | nil => exact fun _ _ _ hlayer => (List.not_mem_nil hlayer).elim
    | cons first layers ih =>
      intro ranges hrun layer hlayer
      rw [List.foldlM_cons] at hrun
      obtain ⟨next, hfirst, hrest⟩ := Option.bind_eq_some_iff.mp hrun
      obtain rfl | hlayer := List.mem_cons.mp hlayer
      · unfold parityLayer at hfirst
        obtain ⟨gate, -, hfirst⟩ := Option.bind_eq_some_iff.mp hfirst
        obtain ⟨up, -, hfirst⟩ := Option.bind_eq_some_iff.mp hfirst
        obtain ⟨down, -, hfirst⟩ := Option.bind_eq_some_iff.mp hfirst
        split_ifs at hfirst with hfits
        rw [not_or, Bool.not_eq_false] at hfits
        exact hfits.1
      · exact ih next hrest layer hlayer
  exact hstep _ _ h layer (List.mem_finRange layer)

lemma attachParity_settles : Settles weights (ParityPublished descriptors descriptorCount weights)
    (attachNvFp4MarlinP40ParitySidecars descriptors descriptorCount weights) := by
  unfold attachNvFp4MarlinP40ParitySidecars
  cases descriptors with
  | none =>
    dsimp only
    split_ifs with hcount
    · exact Settles.accept ⟨fun _ => ⟨hcount, rfl⟩, fun _ h => nomatch h⟩
    · exact Settles.refuse
  | some read =>
    dsimp only
    by_cases hcount : descriptorCount ≠ parityArtifactCount
    · rw [if_pos hcount]
      exact Settles.refuse
    rw [if_neg hcount]
    split
    · exact Settles.refuse
    · rename_i sourceRanges hsources
      by_cases hlength : sourceRanges.length ≠ paritySourceCount * 3
      · rw [if_pos hlength]
        exact Settles.refuse
      rw [if_neg hlength]
      split
      · exact Settles.refuse
      · rename_i table htable
        split_ifs with hcomplete
        · exact Settles.refuse
        simp only [not_or, Bool.not_eq_false] at hcomplete
        obtain ⟨hinventory, hviews⟩ := parityInventory_of_check htable hcomplete.2.2.2
        refine Settles.accept ⟨fun h => (nomatch h), fun other hother => ?_⟩
        obtain rfl := Option.some.inj hother
        refine ⟨_, rfl, hinventory, parityLayers_fit hsources, ?_⟩
        unfold clearParity
        rw [updateNvFp4_updateNvFp4, hviews]
        congr 1
        funext layer slot weight
        cases slot <;> rfl

end Parity

end Qwen3xOrin.Weights
