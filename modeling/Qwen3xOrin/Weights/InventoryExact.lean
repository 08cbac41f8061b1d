import Qwen3xOrin.Weights.AttachExact

/-! What the calls with a complete inventory leave. -/

namespace Qwen3xOrin.Weights

open Library

variable {weights : ModelWeights}

section Projections

def ProjectionTarget.key (target : ProjectionTarget) : Fin denseLayerCount × AttentionSlot :=
  (target.layer, target.slot)

variable {targets : List ProjectionTarget} {σ : Type}

lemma modifyProjection_eq (target : ProjectionTarget) (f : Fp8LinearWeight → Fp8LinearWeight) :
    weights.modifyProjection target f = weights.updateFp8 fun layer slot weight =>
      if (layer, slot) = target.key then f weight else weight := by
  unfold ModelWeights.modifyProjection
  rw [modifyLayer_mapFp8]
  congr 1
  funext layer slot weight
  by_cases hlayer : layer = target.layer
  · by_cases hslot : slot = target.slot <;> simp [ProjectionTarget.key, hlayer, hslot]
  · have hval : layer.val ≠ target.layer.val := fun h => hlayer (Fin.ext h)
    simp [ProjectionTarget.key, hlayer, hval]

-- A loop that carries an offset along gives each projection the offset it is reached with.
lemma foldl_modifyProjection (advance : σ → ProjectionTarget → σ)
    (view : σ → Fp8LinearWeight → Fp8LinearWeight)
    (hkeys : (targets.map ProjectionTarget.key).Nodup) (s : σ) (weights : ModelWeights) :
    targets.foldl (fun state target =>
        (advance state.1 target, state.2.modifyProjection target (view state.1))) (s, weights) =
      (targets.foldl advance s, weights.updateFp8 fun layer slot weight =>
        (own ProjectionTarget.key targets (layer, slot)).elim weight fun _ =>
          view ((targets.takeWhile fun target => target.key ≠ (layer, slot)).foldl advance s)
            weight) := by
  induction targets generalizing s weights with
  | nil => exact congrArg (Prod.mk s) (ModelWeights.ext_layers rfl fun layer =>
      ((weights.layers layer).mapFp8_id).symm)
  | cons target targets ih =>
    rw [List.map_cons, List.nodup_cons] at hkeys
    rw [List.foldl_cons, ih hkeys.2, modifyProjection_eq, updateFp8_updateFp8, List.foldl_cons]
    congr 2
    funext layer slot weight
    by_cases hkey : target.key = (layer, slot)
    · have hlater : own ProjectionTarget.key targets (layer, slot) = none :=
        own_none (hkey ▸ hkeys.1)
      have hnow : own ProjectionTarget.key (target :: targets) (layer, slot) = some target :=
        List.find?_cons_of_pos (by simp [hkey])
      rw [hlater, hnow]
      simp [hkey]
    · have hskip : own ProjectionTarget.key (target :: targets) (layer, slot) =
          own ProjectionTarget.key targets (layer, slot) :=
        List.find?_cons_of_neg (by simpa using hkey)
      rw [hskip]
      simp [hkey, Ne.symm hkey]

lemma projectionSlots_nodup (weights : ModelWeights) : (projectionSlots weights).Nodup := by
  refine List.nodup_flatMap.mpr ⟨fun layer _ => ?_, ?_⟩
  · refine List.Nodup.map (fun _ _ h => (Prod.mk.inj h).2) ?_
    cases (weights.layers layer).attention <;> simp [AttentionWeights.slots]
  · refine (List.nodup_finRange _).imp fun {first second} hne => ?_
    intro target hfirst hsecond
    obtain ⟨_, -, rfl⟩ := List.mem_map.mp hfirst
    obtain ⟨_, -, h⟩ := List.mem_map.mp hsecond
    exact hne (Prod.mk.inj h).1.symm

lemma mem_projectionSlots {layer : Fin denseLayerCount} {slot : AttentionSlot} :
    (layer, slot) ∈ projectionSlots weights ↔ slot ∈ (weights.layers layer).attention.slots := by
  simp [projectionSlots]

lemma updateFp8_congr {u v : Fp8Update}
    (h : ∀ layer slot, (layer, slot) ∈ projectionSlots weights → u layer slot = v layer slot) :
    weights.updateFp8 u = weights.updateFp8 v := by
  refine ModelWeights.ext_layers rfl fun layer => ?_
  have hslots := fun slot hslot => h layer slot (mem_projectionSlots.2 hslot)
  clear h
  unfold ModelWeights.updateFp8 ModelWeights.mapLayers DecoderLayerWeights.mapFp8
  dsimp only
  cases hattention : (weights.layers layer).attention with
  | linear attention =>
    simp only [hattention, AttentionWeights.slots, List.forall_mem_cons] at hslots
    simp [AttentionWeights.mapSlots, hslots]
  | full attention =>
    simp only [hattention, AttentionWeights.slots, List.forall_mem_cons] at hslots
    simp [AttentionWeights.mapSlots, hslots]

def slotBytes (target : Fin denseLayerCount × AttentionSlot) : ℕ :=
  (slotShape target.2).1 * (slotShape target.2).2

def slotRows (target : Fin denseLayerCount × AttentionSlot) : ℕ := (slotShape target.2).1

-- The projections before one in the order of the inventory.
def before (weights : ModelWeights) (target : Fin denseLayerCount × AttentionSlot) :
    List (Fin denseLayerCount × AttentionSlot) :=
  (projectionSlots weights).takeWhile fun other => other ≠ target

def targetOf (weights : ModelWeights) (target : Fin denseLayerCount × AttentionSlot) :
    ProjectionTarget :=
  ⟨target.1, target.2, (weights.fp8 target.1 target.2).getD {}⟩

def inventoryOf (weights : ModelWeights) (targets : List (Fin denseLayerCount × AttentionSlot)) :
    Fp8Inventory :=
  ⟨targets.map (targetOf weights), (targets.map slotBytes).sum, (targets.map slotRows).sum⟩

def ShapeFits (weights : ModelWeights) (target : Fin denseLayerCount × AttentionSlot) : Prop :=
  ∃ weight, weights.fp8 target.1 target.2 = some weight ∧
    weight.outputSize = (slotShape target.2).1 ∧ weight.inputSize = (slotShape target.2).2

lemma appendProjection_admits {fits : Fp8Inventory → ℕ → ℕ → Bool} :
    Admits (appendProjection fits weights) (inventoryOf weights) (ShapeFits weights)
      fun _ _ => True where
  accepted := by
    intro taken target inventory h
    unfold appendProjection at h
    obtain ⟨binding, hbinding, h⟩ := Option.bind_eq_some_iff.mp h
    obtain ⟨weight, hweight, h⟩ := Option.bind_eq_some_iff.mp h
    dsimp only at h
    split_ifs at h with hfits
    simp only [not_or, Bool.not_eq_false] at hfits
    have hshape : weight.outputSize = (slotShape target.2).1 ∧
        weight.inputSize = (slotShape target.2).2 := of_decide_eq_true hfits.2.2.1
    have hfp8 : weights.fp8 target.1 target.2 = some weight := by
      rw [ModelWeights.fp8, hbinding]
      exact hweight
    refine ⟨?_, ⟨weight, hfp8, hshape⟩, fun _ _ => trivial⟩
    rw [← Option.some.inj h]
    simp [inventoryOf, targetOf, slotBytes, slotRows, hfp8]

lemma fp8Projections_ok {fits : Fp8Inventory → ℕ → ℕ → Bool} {inventory : Fp8Inventory}
    (h : fp8Projections fits weights = some inventory) :
    inventory = inventoryOf weights (projectionSlots weights) ∧
      ∀ target ∈ projectionSlots weights, ShapeFits weights target := by
  obtain ⟨hinventory, hfits, -⟩ := appendProjection_admits.run h
  exact ⟨hinventory, hfits⟩

lemma targetOf_size {target : Fin denseLayerCount × AttentionSlot} (h : ShapeFits weights target) :
    (targetOf weights target).weight.outputSize * (targetOf weights target).weight.inputSize =
        slotBytes target ∧
      (targetOf weights target).weight.outputSize = slotRows target := by
  obtain ⟨weight, hweight, hrows, hcolumns⟩ := h
  simp [targetOf, hweight, hrows, hcolumns, slotBytes, slotRows]

lemma targets_keys (slots : List (Fin denseLayerCount × AttentionSlot)) :
    (slots.map (targetOf weights)).map ProjectionTarget.key = slots := by
  rw [List.map_map]
  exact List.map_id _

lemma own_target {target : Fin denseLayerCount × AttentionSlot}
    (h : target ∈ projectionSlots weights) :
    own ProjectionTarget.key ((projectionSlots weights).map (targetOf weights)) target =
      some (targetOf weights target) := by
  have hkeys := projectionSlots_nodup weights
  rw [← @targets_keys weights (projectionSlots weights)] at hkeys
  exact own_eq hkeys (List.mem_map_of_mem h)

lemma takeWhile_targets (target : Fin denseLayerCount × AttentionSlot) :
    (((projectionSlots weights).map (targetOf weights)).takeWhile fun other =>
      other.key ≠ target) = (before weights target).map (targetOf weights) := by
  rw [List.takeWhile_map]
  rfl

-- What publishing the whole inventory with a running offset amounts to.
lemma publish_inventory (advance : σ → ProjectionTarget → σ)
    (view : σ → Fp8LinearWeight → Fp8LinearWeight) (s : σ) {start : ModelWeights}
    (hstart : projectionSlots start = projectionSlots weights) :
    ((projectionSlots weights).map (targetOf weights)).foldl (fun state target =>
        (advance state.1 target, state.2.modifyProjection target (view state.1))) (s, start) =
      (((projectionSlots weights).map (targetOf weights)).foldl advance s,
        start.updateFp8 fun layer slot =>
          view (((before weights (layer, slot)).map (targetOf weights)).foldl advance s)) := by
  have hkeys := projectionSlots_nodup weights
  rw [← @targets_keys weights (projectionSlots weights)] at hkeys
  rw [foldl_modifyProjection advance view hkeys]
  refine congrArg (Prod.mk _) (updateFp8_congr fun layer slot hmember => ?_)
  rw [hstart] at hmember
  funext weight
  rw [own_target hmember, takeWhile_targets]
  rfl

lemma foldl_add_sum {α : Type} (size : α → ℕ) (l : List α) (s : ℕ) :
    l.foldl (fun s a => s + size a) s = s + (l.map size).sum := by
  induction l generalizing s with
  | nil => rfl
  | cons a l ih =>
    rw [List.foldl_cons, ih, List.map_cons, List.sum_cons, Nat.add_assoc]

lemma before_subset {target other : Fin denseLayerCount × AttentionSlot}
    (h : other ∈ before weights target) : other ∈ projectionSlots weights :=
  List.takeWhile_subset _ h

lemma map_targets {slots : List (Fin denseLayerCount × AttentionSlot)}
    {size : ProjectionTarget → ℕ} {size' : Fin denseLayerCount × AttentionSlot → ℕ}
    (h : ∀ target ∈ slots, size (targetOf weights target) = size' target) :
    (slots.map (targetOf weights)).map size = slots.map size' := by
  rw [List.map_map]
  exact List.map_congr_left h

end Projections

section Supermatrix

variable {arena arenaBytes : ℕ}

structure SupermatrixPublished (arena arenaBytes : ℕ) (weights after : ModelWeights) : Prop where
  detach : arena = 0 → after = weights.updateFp8 fun _ _ => setSupermatrix 0
  targets : arena ≠ 0 → (projectionSlots weights).length = fp8PrefillSupermatrixProjectionCount ∧
    ∀ target ∈ projectionSlots weights, ShapeFits weights target
  bytes : arena ≠ 0 → ((projectionSlots weights).map slotBytes).sum = arenaBytes
  attach : arena ≠ 0 → after = weights.updateFp8 fun layer slot =>
    setSupermatrix (arena + ((before weights (layer, slot)).map slotBytes).sum)

lemma attachSupermatrix_settles : Settles weights (SupermatrixPublished arena arenaBytes weights)
    (attachFp8PrefillSupermatrixSidecars arena arenaBytes weights) := by
  unfold attachFp8PrefillSupermatrixSidecars
  split_ifs with hdetach harena
  · exact Settles.accept ⟨fun _ => rfl, fun h => absurd hdetach.1 h, fun h => absurd hdetach.1 h,
      fun h => absurd hdetach.1 h⟩
  · exact Settles.refuse
  · rw [not_or] at harena
    split
    · exact Settles.refuse
    · rename_i inventory hinventory
      obtain ⟨rfl, hfits⟩ := fp8Projections_ok hinventory
      split_ifs with hcomplete
      · exact Settles.refuse
      simp only [not_or, not_not, inventoryOf, List.length_map] at hcomplete
      obtain ⟨hcount, hbytes⟩ := hcomplete
      have hloop := @publish_inventory weights ℕ
        (fun address target => address + target.weight.outputSize * target.weight.inputSize)
        setSupermatrix arena weights rfl
      have hall : ∀ slots : List (Fin denseLayerCount × AttentionSlot),
          (∀ target ∈ slots, target ∈ projectionSlots weights) →
          (slots.map (targetOf weights)).foldl (fun address target =>
            address + target.weight.outputSize * target.weight.inputSize) arena =
          arena + (slots.map slotBytes).sum := by
        intro slots hslots
        rw [foldl_add_sum, map_targets fun target htarget =>
          (targetOf_size (hfits target (hslots target htarget))).1]
      rw [hall _ fun _ h => h, hbytes] at hloop
      have hpublished : (inventoryOf weights (projectionSlots weights)).projections.foldl
          publishSupermatrix (arena, weights) = _ := hloop
      simp only [hpublished, decide_true]
      refine Settles.accept ⟨fun h => absurd h harena.1, fun _ => ⟨hcount, hfits⟩, fun _ => hbytes,
        fun _ => ?_⟩
      congr 1
      funext layer slot
      rw [hall _ fun _ h => before_subset h]

end Supermatrix

section Fp8Marlin

variable {weightArena weightArenaBytes scaleArena scaleArenaElements : ℕ}

structure Fp8MarlinPublished (weightArena weightArenaBytes scaleArena scaleArenaElements : ℕ)
    (weights after : ModelWeights) : Prop where
  detach : weightArena = 0 → after = weights.updateFp8 fun _ _ => setFp8Marlin 0 0
  targets : weightArena ≠ 0 →
    (projectionSlots weights).length = fp8PrefillSupermatrixProjectionCount ∧
      ∀ target ∈ projectionSlots weights, ShapeFits weights target
  bytes : weightArena ≠ 0 → ((projectionSlots weights).map slotBytes).sum = weightArenaBytes ∧
    ((projectionSlots weights).map slotRows).sum = scaleArenaElements
  attach : weightArena ≠ 0 → after = weights.updateFp8 fun layer slot =>
    setFp8Marlin (weightArena + ((before weights (layer, slot)).map slotBytes).sum)
      (scaleArena + 2 * ((before weights (layer, slot)).map slotRows).sum)

lemma projectionSlots_updateFp8 (u : Fp8Update) :
    projectionSlots (weights.updateFp8 u) = projectionSlots weights := by
  unfold projectionSlots
  refine List.flatMap_congr fun layer _ => ?_
  unfold ModelWeights.updateFp8 ModelWeights.mapLayers DecoderLayerWeights.mapFp8
  dsimp only
  cases (weights.layers layer).attention <;> rfl

lemma foldl_offsets {slots : List (Fin denseLayerCount × AttentionSlot)}
    (hfits : ∀ target ∈ slots, ShapeFits weights target) (offsets : MarlinOffsets) :
    (slots.map (targetOf weights)).foldl (fun offsets target =>
      (⟨offsets.weight + target.weight.outputSize * target.weight.inputSize,
        offsets.scale + target.weight.outputSize⟩ : MarlinOffsets)) offsets =
      ⟨offsets.weight + (slots.map slotBytes).sum, offsets.scale + (slots.map slotRows).sum⟩ := by
  induction slots generalizing offsets with
  | nil => rfl
  | cons target slots ih =>
    obtain ⟨hbytes, hrows⟩ := targetOf_size (hfits target List.mem_cons_self)
    rw [List.map_cons, List.foldl_cons, ih fun other hother =>
      hfits other (List.mem_cons_of_mem target hother), hbytes, hrows]
    simp only [List.map_cons, List.sum_cons, Nat.add_assoc]

lemma attachFp8Marlin_settles : Settles weights
    (Fp8MarlinPublished weightArena weightArenaBytes scaleArena scaleArenaElements weights)
    (attachFp8MarlinPrefillSidecars weightArena weightArenaBytes scaleArena scaleArenaElements
      weights) := by
  unfold attachFp8MarlinPrefillSidecars
  split_ifs with hdetach harena
  · exact Settles.accept ⟨fun _ => rfl, fun h => absurd hdetach.1 h, fun h => absurd hdetach.1 h,
      fun h => absurd hdetach.1 h⟩
  · exact Settles.refuse
  · rw [not_or] at harena
    split
    · exact Settles.refuse
    · rename_i inventory hinventory
      obtain ⟨rfl, hfits⟩ := fp8Projections_ok hinventory
      split_ifs with hcomplete
      · exact Settles.refuse
      simp only [not_or, not_not, inventoryOf, List.length_map] at hcomplete
      obtain ⟨hcount, hbytes, hrows⟩ := hcomplete
      have hloop := @publish_inventory weights MarlinOffsets
        (fun offsets target =>
          ⟨offsets.weight + target.weight.outputSize * target.weight.inputSize,
            offsets.scale + target.weight.outputSize⟩)
        (fun offsets => setFp8Marlin (weightArena + offsets.weight) (scaleArena + 2 * offsets.scale))
        {} (clearFp8Marlin weights) (projectionSlots_updateFp8 _)
      rw [foldl_offsets hfits, hbytes, hrows] at hloop
      have hpublished : (inventoryOf weights (projectionSlots weights)).projections.foldl
          (publishFp8Marlin weightArena scaleArena) ({}, clearFp8Marlin weights) = _ := hloop
      simp only [hpublished, Nat.zero_add, and_self, decide_true]
      refine Settles.accept ⟨fun h => absurd h harena.1, fun _ => ⟨hcount, hfits⟩,
        fun _ => ⟨hbytes, hrows⟩, fun _ => ?_⟩
      unfold clearFp8Marlin
      rw [updateFp8_updateFp8]
      congr 1
      funext layer slot weight
      rw [foldl_offsets fun target htarget => hfits target (before_subset htarget)]
      simp [setFp8Marlin]

end Fp8Marlin

section CoupledFeed

variable {arena arenaBytes : ℕ}

structure CoupledFeedPublished (arena : ℕ) (weights after : ModelWeights) : Prop where
  detach : arena = 0 → after = weights.updateNvFp4 fun _ => setCoupledFeed 0 0
  targets : arena ≠ 0 → ∀ layer, (weights.nvfp4 layer .gate).isSome = true ∧
    (weights.nvfp4 layer .up).isSome = true
  attach : arena ≠ 0 → after = weights.updateNvFp4 fun layer =>
    setCoupledFeed (arena + layer * gateUpCoupledFeedBytesPerLayer)
      (arena + layer * gateUpCoupledFeedBytesPerLayer + gateUpCoupledFeedBytesPerProjection)

lemma attachCoupledFeed_settles : Settles weights (CoupledFeedPublished arena weights)
    (attachNvFp4GateUpCoupledFeedSidecars arena arenaBytes weights) := by
  unfold attachNvFp4GateUpCoupledFeedSidecars
  split_ifs with hempty hmixed harena htargets
  · exact Settles.refuse
  · simp only [not_or, not_not] at hmixed
    exact Settles.accept ⟨fun _ => rfl, fun h => absurd hmixed.1 h, fun h => absurd hmixed.1 h⟩
  · exact Settles.refuse
  · exact Settles.refuse
  · rw [not_or] at hempty
    rw [Bool.not_eq_false, everyLayer_iff] at htargets
    refine Settles.accept ⟨fun h => absurd h hempty.1, fun _ layer => ?_, fun _ => rfl⟩
    have hlayer := List.all_eq_true.mp (htargets layer)
    exact ⟨nvFp4Where_isSome (hlayer .gate (by decide)), nvFp4Where_isSome (hlayer .up (by decide))⟩

end CoupledFeed

section Marlin

variable {wholeCoreService : Bool} {descriptors : Option (ℕ → MarlinDescriptor)}
  {descriptorCount : ℕ}

def ownMarlin (items : List MarlinDescriptor) (layer : ℕ) : MarlinDescriptor :=
  (own MarlinDescriptor.layerIndex items layer).getD {}

structure MarlinFits (wholeCoreService : Bool) (weights : ModelWeights)
    (descriptor : MarlinDescriptor) : Prop where
  index : descriptor.layerIndex < denseLayerCount
  fields : marlinDescriptorFits wholeCoreService descriptor = true
  layer : weights.layerWhere descriptor.layerIndex (fun layer => mlpWhere layer fun slot weight =>
    mlpHasShape slot weight &&
      emptyNvFp4MarlinP40ParityView weight.prefillP40VllmMarlinParity) = true

def seenLayers (items : List MarlinDescriptor) (layer : ℕ) : Bool :=
  items.any fun item => item.layerIndex = layer

lemma checkMarlin_admits :
    Admits (checkMarlin wholeCoreService weights) seenLayers (MarlinFits wholeCoreService weights)
      fun first second => first.layerIndex ≠ second.layerIndex where
  accepted := by
    intro taken item seen h
    unfold checkMarlin at h
    split_ifs at h with hfields
    simp only [not_or, not_le, Bool.not_eq_false] at hfields
    obtain ⟨hindex, hseen, hfits, hlayer⟩ := hfields
    refine ⟨?_, ⟨hindex, hfits, hlayer⟩, ?_⟩
    · rw [← Option.some.inj h]
      funext layer
      by_cases hsame : layer = item.layerIndex
      · simp [seenLayers, hsame]
      · have hne : item.layerIndex ≠ layer := fun h => hsame h.symm
        simp [seenLayers, Function.update_of_ne hsame, hne]
    · exact fun other hother hsame => hseen (List.any_eq_true.mpr ⟨other, hother, by simp [hsame]⟩)

-- Every layer has the views of its one descriptor.
structure MarlinPublished (wholeCoreService : Bool) (descriptors : Option (ℕ → MarlinDescriptor))
    (descriptorCount : ℕ) (weights after : ModelWeights) : Prop where
  detach : descriptorCount = 0 →
    descriptors = none ∧ after = weights.updateNvFp4 fun _ _ => setMarlin .unbound 0 0 0
  attach : 0 < descriptorCount → ∃ read items, descriptors = some read ∧
    items = (List.range descriptorCount).map read ∧
    (items.map MarlinDescriptor.layerIndex).Nodup ∧
    (∀ item ∈ items, MarlinFits wholeCoreService weights item) ∧
    (∀ layer < denseLayerCount, ∃ item ∈ items, item.layerIndex = layer) ∧
    after = weights.updateNvFp4 fun layer slot weight =>
      marlinViews (ownMarlin items layer) slot (setMarlin .unbound 0 0 0 weight)

lemma attachMarlin_settles : Settles weights
    (MarlinPublished wholeCoreService descriptors descriptorCount weights)
    (attachNvFp4MarlinPrefillSidecars wholeCoreService descriptors descriptorCount weights) := by
  unfold attachNvFp4MarlinPrefillSidecars
  by_cases hcount : descriptorCount = 0
  · rw [if_pos hcount]
    split_ifs with hempty
    · exact Settles.refuse
    have hnone : descriptors = none := by simpa using hempty
    exact Settles.accept ⟨fun _ => ⟨hnone, rfl⟩, fun hpos => absurd hcount hpos.ne'⟩
  rw [if_neg hcount]
  cases descriptors with
  | none => exact Settles.refuse
  | some read =>
    dsimp only
    by_cases htotal : descriptorCount ≠ denseLayerCount
    · rw [if_pos htotal]
      exact Settles.refuse
    rw [if_neg htotal]
    split
    · exact Settles.refuse
    · rename_i seen hseen
      obtain ⟨rfl, hfits, hlayers⟩ := checkMarlin_admits.run hseen
      have hnodup : (((List.range descriptorCount).map read).map
          MarlinDescriptor.layerIndex).Nodup := List.pairwise_map.mpr hlayers
      split_ifs with hmissing
      · exact Settles.refuse
      have hall : ∀ layer < denseLayerCount, ∃ item ∈ (List.range descriptorCount).map read,
          item.layerIndex = layer := by
        intro layer hlayer
        by_contra hnone
        refine hmissing (List.any_eq_true.mpr ⟨layer, List.mem_range.mpr hlayer, ?_⟩)
        rw [Bool.not_eq_true', seenLayers, List.any_eq_false]
        exact fun item hitem hsame => hnone ⟨item, hitem, of_decide_eq_true hsame⟩
      refine Settles.accept ⟨fun h => absurd h hcount, fun _ => ⟨read, _, rfl, rfl, hnodup, hfits,
        hall, ?_⟩⟩
      unfold publishMarlin clearMarlin
      rw [foldl_updateNvFp4 hnodup, updateNvFp4_updateNvFp4]
      congr 1
      funext layer slot weight
      obtain ⟨item, hitem, hlayer⟩ := hall layer layer.isLt
      rw [ownMarlin, ← hlayer, own_eq hnodup hitem]
      rfl

end Marlin

end Qwen3xOrin.Weights
