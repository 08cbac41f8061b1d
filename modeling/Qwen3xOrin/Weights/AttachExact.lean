import Qwen3xOrin.Weights.Update

/-! What the calls with an arena leave: a refused one nothing, an accepted one its own views. -/

namespace Qwen3xOrin.Weights

open Library

def Settles (weights : ModelWeights) (published : ModelWeights → Prop) (result : Attached) : Prop :=
  result = (false, weights) ∨ ∃ after, result = (true, after) ∧ published after

variable {weights after : ModelWeights} {published published' : ModelWeights → Prop}
  {result : Attached}

lemma Settles.refuse : Settles weights published (false, weights) := Or.inl rfl

lemma Settles.accept (h : published after) : Settles weights published (true, after) :=
  Or.inr ⟨after, rfl, h⟩

lemma Settles.imp (h : Settles weights published result) (himp : ∀ after, published after → published' after) :
    Settles weights published' result := by
  obtain h | ⟨after, h, hpublished⟩ := h
  · exact Or.inl h
  · exact Or.inr ⟨after, h, himp after hpublished⟩

lemma Settles.refused (h : Settles weights published result) (hresult : result.1 = false) :
    result.2 = weights := by
  obtain rfl | ⟨after, rfl, -⟩ := h
  · rfl
  · cases hresult

lemma Settles.accepted (h : Settles weights published result) (hresult : result.1 = true) :
    published result.2 := by
  obtain rfl | ⟨after, rfl, hpublished⟩ := h
  · cases hresult
  · exact hpublished

lemma everyLayer_iff {test : DecoderLayerWeights → Bool} :
    weights.everyLayer test = true ↔ ∀ layer, test (weights.layers layer) = true := by
  simp [ModelWeights.everyLayer]

lemma layerWhere_some {index : ℕ} {test : DecoderLayerWeights → Bool}
    (h : weights.layerWhere index test = true) :
    ∃ hindex : index < denseLayerCount, test (weights.layers ⟨index, hindex⟩) = true := by
  unfold ModelWeights.layerWhere at h
  split_ifs at h with hindex
  exact ⟨hindex, h⟩

def ModelWeights.fp8 (weights : ModelWeights) (layer : Fin denseLayerCount)
    (slot : AttentionSlot) : Option Fp8LinearWeight :=
  ((weights.layers layer).attention.binding slot).bind LinearWeight.asFp8

def ModelWeights.nvfp4 (weights : ModelWeights) (layer : Fin denseLayerCount) (slot : MlpSlot) :
    Option NvFp4LinearWeight :=
  mlpWeight (weights.layers layer) slot

section OutputProjection

variable {arena bytes : ℕ}

structure M1Published (arena : ℕ) (before after : ModelWeights) : Prop where
  targets : ∀ layer, (before.layers layer).attention.output.asFp8.isSome = true
  views : after = before.updateFp8 fun layer =>
    setM1 (arena + layer * fp8M1OutputProjectionBytesPerLayer)

lemma fp8Where_isSome {test : Fp8LinearWeight → Bool} {weight : LinearWeight}
    (h : fp8Where test weight = true) : weight.asFp8.isSome = true := by
  cases weight with
  | fp8 weight => rfl
  | bf16 weight => cases h
  | nvfp4 weight => cases h

lemma nvFp4Where_isSome {test : NvFp4LinearWeight → Bool} {weight : LinearWeight}
    (h : nvFp4Where test weight = true) : weight.asNvFp4.isSome = true := by
  cases weight with
  | nvfp4 weight => rfl
  | bf16 weight => cases h
  | fp8 weight => cases h

lemma attachM1_settles : Settles weights (M1Published arena weights)
    (attachFp8M1OutputProjectionSidecars arena bytes weights) := by
  unfold attachFp8M1OutputProjectionSidecars
  split_ifs with harena htargets
  · exact Settles.refuse
  · exact Settles.refuse
  · rw [Bool.not_eq_false, everyLayer_iff] at htargets
    exact Settles.accept ⟨fun layer => fp8Where_isSome (htargets layer), rfl⟩

end OutputProjection

section Ranged

variable {δ : Type} {family : SidecarFamily} {accepts : δ → Bool} {base : δ → SidecarDescriptor}
  {arena arenaBytes arenaEnd : ℕ} {items : List δ}

def Holds (base : δ → SidecarDescriptor) (item : δ) (place : ℕ) : Prop :=
  (base item).sidecar ≤ place ∧ place < (base item).sidecar + (base item).bytes

-- Sidecars that share out an arena between the layers.
structure Sidecars (base : δ → SidecarDescriptor) (arena arenaBytes : ℕ) (items : List δ) :
    Prop where
  layers : (items.map fun item => (base item).layerIndex).Nodup
  indices : ∀ item ∈ items, (base item).layerIndex < denseLayerCount
  addressable : arena + arenaBytes ≤ pointerMaximum
  inside : ∀ item ∈ items, (base item).sidecar ≠ 0 ∧ arena ≤ (base item).sidecar ∧
    (base item).sidecar + (base item).bytes ≤ arena + arenaBytes
  disjoint : items.Pairwise fun first second => ∀ place,
    ¬(Holds base first place ∧ Holds base second place)
  covered : ∀ place, arena ≤ place → place < arena + arenaBytes →
    ∃ item ∈ items, Holds base item place ∧
      ∀ other ∈ items, Holds base other place → other = item

def tableOf (base : δ → SidecarDescriptor) (items : List δ) : RangeTable where
  seenLayers := fun layer => items.any fun item => (base item).layerIndex = layer
  ranges := items.map fun item =>
    ((base item).sidecar, (base item).sidecar + (base item).bytes)

structure SidecarFits (family : SidecarFamily) (accepts : δ → Bool) (base : δ → SidecarDescriptor)
    (arena arenaEnd : ℕ) (item : δ) : Prop where
  index : (base item).layerIndex < denseLayerCount
  sidecar : (base item).sidecar ≠ 0
  bytes : (base item).bytes = family.bytes
  accepted : accepts item = true
  start : arena ≤ (base item).sidecar
  stop : (base item).sidecar + (base item).bytes ≤ arenaEnd

def SidecarsApart (base : δ → SidecarDescriptor) (first second : δ) : Prop :=
  (base first).layerIndex ≠ (base second).layerIndex ∧
    ((base first).sidecar + (base first).bytes ≤ (base second).sidecar ∨
      (base second).sidecar + (base second).bytes ≤ (base first).sidecar)

instance : Std.Symm (SidecarsApart base) := ⟨fun _ _ h => ⟨h.1.symm, h.2.symm⟩⟩

lemma checkSidecar_admits :
    Admits (checkSidecar family accepts base arena arenaEnd) (tableOf base)
      (SidecarFits family accepts base arena arenaEnd) (SidecarsApart base) where
  accepted := by
    intro taken item table h
    unfold checkSidecar at h
    dsimp only at h
    split_ifs at h with hfields hplace hstop hranges
    simp only [not_or, not_le, Bool.not_eq_false, not_not] at hfields
    obtain ⟨hindex, hseen, hsidecar, hbytes, -, -, haccepts⟩ := hfields
    simp only [not_or, not_lt] at hplace
    refine ⟨?_, ⟨hindex, hsidecar, hbytes, haccepts, hplace.2.1, not_lt.mp hstop⟩, ?_⟩
    · rw [← Option.some.inj h, tableOf, tableOf]
      refine congrArg₂ RangeTable.mk (funext fun layer => ?_) (by simp)
      by_cases hlayer : layer = (base item).layerIndex
      · simp [hlayer]
      · have hne : (base item).layerIndex ≠ layer := fun h => hlayer h.symm
        simp [Function.update_of_ne hlayer, hne]
    · intro other hother
      refine ⟨fun hsame => hseen (List.any_eq_true.mpr ⟨other, hother, by simp [hsame]⟩), ?_⟩
      by_contra hoverlap
      refine hranges (List.any_eq_true.mpr ⟨_, List.mem_map_of_mem hother, ?_⟩)
      simp only [decide_eq_true_eq]
      omega

lemma sidecars_of_check {table : RangeTable}
    (harena : compactArena family arena arenaBytes items.length = true)
    (h : checkSidecars family accepts base arena arenaBytes items = some table) :
    Sidecars base arena arenaBytes items ∧ ∀ item ∈ items, accepts item = true := by
  obtain ⟨-, hfits, hapart⟩ := checkSidecar_admits.run h
  simp only [compactArena, arenaFits, decide_eq_true_eq] at harena
  obtain ⟨-, -, htotal, -, hmaximum, haddress⟩ := harena
  have hclear : items.Pairwise (Clear (fun item => (base item).sidecar) family.bytes) := by
    refine hapart.imp_of_mem fun {first second} hfirst hsecond h => ?_
    have h := h.2
    rw [(hfits first hfirst).bytes, (hfits second hsecond).bytes] at h
    exact h
  have hdisjoint : ∀ first second : δ, SidecarsApart base first second → ∀ place,
      ¬(Holds base first place ∧ Holds base second place) := by
    rintro first second ⟨-, h⟩ place ⟨hfirst, hsecond⟩
    unfold Holds at hfirst hsecond
    omega
  refine ⟨⟨?_, fun item hitem => (hfits item hitem).index, by omega, ?_, ?_, ?_⟩,
    fun item hitem => (hfits item hitem).accepted⟩
  · exact List.pairwise_map.mpr (hapart.imp And.left)
  · exact fun item hitem =>
      ⟨(hfits item hitem).sidecar, (hfits item hitem).start, (hfits item hitem).stop⟩
  · exact hapart.imp fun h => hdisjoint _ _ h
  · intro place hstart hstop
    have hinside : ∀ item ∈ items, arena ≤ (base item).sidecar ∧
        (base item).sidecar + family.bytes ≤ arena + items.length * family.bytes := by
      intro item hitem
      have hfit := hfits item hitem
      have hend := hfit.stop
      rw [hfit.bytes, htotal] at hend
      exact ⟨hfit.start, hend⟩
    obtain ⟨item, hitem, hle, hlt⟩ := filled hinside hclear hstart (by rw [← htotal]; exact hstop)
    have hholds : Holds base item place := ⟨hle, by rw [(hfits item hitem).bytes]; exact hlt⟩
    refine ⟨item, hitem, hholds, fun other hother hheld => ?_⟩
    by_contra hne
    exact hdisjoint other item (hapart.forall hother hitem hne) place ⟨hheld, hholds⟩

-- The outcome of an accepted call of a family.
structure RangedPublished (base : δ → SidecarDescriptor) (target : δ → Prop)
    (arena arenaBytes : ℕ) (descriptors : Option (ℕ → δ)) (descriptorCount : ℕ)
    (detached : ModelWeights) (attached : List δ → ModelWeights) (after : ModelWeights) :
    Prop where
  detach : descriptorCount = 0 → descriptors = none ∧ arena = 0 ∧ arenaBytes = 0 ∧
    after = detached
  attach : 0 < descriptorCount → ∃ read, descriptors = some read ∧
    Sidecars base arena arenaBytes ((List.range descriptorCount).map read) ∧
    (∀ item ∈ (List.range descriptorCount).map read, target item) ∧
    after = attached ((List.range descriptorCount).map read)

lemma attachRanged_settles {countFits : ℕ → Bool} {target : δ → Prop}
    {clear : ModelWeights → ModelWeights} {publish : ModelWeights → δ → ModelWeights}
    {attached : List δ → ModelWeights} {descriptors : Option (ℕ → δ)} {descriptorCount : ℕ}
    (hattached : ∀ items : List δ, (items.map fun item => (base item).layerIndex).Nodup →
      items.foldl publish (clear weights) = attached items)
    (htarget : countFits descriptorCount = true → ∀ item, accepts item = true → target item) :
    Settles weights
      (RangedPublished base target arena arenaBytes descriptors descriptorCount (clear weights)
        attached)
      (attachRanged family countFits accepts base clear publish arena arenaBytes descriptors
        descriptorCount weights) := by
  unfold attachRanged
  by_cases hcount : descriptorCount = 0
  · rw [if_pos hcount]
    split_ifs with hempty
    · exact Settles.refuse
    simp only [not_or, not_not] at hempty
    have hnone : descriptors = none := by simpa using hempty.2.2
    exact Settles.accept ⟨fun _ => ⟨hnone, hempty.1, hempty.2.1, rfl⟩,
      fun hpos => absurd hcount hpos.ne'⟩
  · rw [if_neg hcount]
    cases descriptors with
    | none => exact Settles.refuse
    | some read =>
      dsimp only
      by_cases harena : countFits descriptorCount = false ∨
          compactArena family arena arenaBytes descriptorCount = false
      · rw [if_pos harena]
        exact Settles.refuse
      · rw [if_neg harena]
        simp only [not_or, Bool.not_eq_false] at harena
        split
        · exact Settles.refuse
        · rename_i table htable
          have hlength : ((List.range descriptorCount).map read).length = descriptorCount := by
            simp
          obtain ⟨hsidecars, haccepts⟩ := sidecars_of_check
            (by rw [hlength]; exact harena.2) htable
          exact Settles.accept ⟨fun h => absurd h hcount,
            fun _ => ⟨read, rfl, hsidecars, fun item hitem => htarget harena.1 item
              (haccepts item hitem), hattached _ hsidecars.layers⟩⟩

section RegisterFeed

variable {descriptors : Option (ℕ → SidecarDescriptor)} {descriptorCount : ℕ}

def ownSidecar (items : List SidecarDescriptor) (layer : ℕ) : ℕ :=
  (own SidecarDescriptor.layerIndex items layer).elim 0 SidecarDescriptor.sidecar

lemma registerFeed_attached {items : List SidecarDescriptor}
    (hlayers : (items.map fun item => item.layerIndex).Nodup) :
    items.foldl publishRegisterFeed (clearRegisterFeed weights) =
      weights.updateFp8 fun layer => setRegisterFeed (ownSidecar items layer) := by
  unfold publishRegisterFeed clearRegisterFeed
  rw [foldl_updateFp8 hlayers, updateFp8_updateFp8]
  congr 1
  funext layer slot weight
  unfold ownSidecar
  by_cases hslot : slot = .qkv <;>
    cases own SidecarDescriptor.layerIndex items layer <;> simp [setRegisterFeed, hslot]

lemma linear_qkv {layer : Fin denseLayerCount} (hschedule : qkvSchedule weights = true)
    (hlinear : isLinear (weights.layers layer).attention = true) :
    (weights.fp8 layer .qkv).isSome = true := by
  simp only [qkvSchedule, decide_eq_true_eq, everyLayer_iff] at hschedule
  have hfits := hschedule.1 layer
  rw [hlinear, Bool.not_true, Bool.false_or, qkvFits] at hfits
  obtain ⟨binding, hbinding, hwhere⟩ := (Option.any_eq_true _ _).mp hfits
  rw [ModelWeights.fp8, hbinding]
  exact fp8Where_isSome hwhere

lemma attachRegisterFeed_settles : Settles weights
    (RangedPublished id
      (fun item : SidecarDescriptor => ∃ layer : Fin denseLayerCount,
        layer.val = item.layerIndex ∧ (weights.fp8 layer .qkv).isSome = true)
      arena arenaBytes descriptors descriptorCount (weights.updateFp8 fun _ => setRegisterFeed 0)
      fun items => weights.updateFp8 fun layer => setRegisterFeed (ownSidecar items layer))
    (attachFp8PrefillQkvRegisterFeedSidecars arena arenaBytes descriptors descriptorCount
      weights) := by
  refine attachRanged_settles (fun items hlayers => registerFeed_attached hlayers) ?_
  intro hcount item haccepts
  obtain ⟨hindex, hlinear⟩ := layerWhere_some haccepts
  exact ⟨_, rfl, linear_qkv (of_decide_eq_true hcount).2 hlinear⟩

end RegisterFeed

section Scale6

variable {descriptorCount : ℕ}

lemma downWhere_some {index : ℕ} {test : NvFp4LinearWeight → Bool}
    (h : downWhere weights index test = true) :
    ∃ (layer : Fin denseLayerCount) (down : NvFp4LinearWeight), layer.val = index ∧
      weights.nvfp4 layer .down = some down ∧ test down = true := by
  obtain ⟨hindex, hdown⟩ := layerWhere_some h
  obtain ⟨down, hbinding, htest⟩ := (Option.any_eq_true _ _).mp hdown
  simp only [Bool.and_eq_true] at htest
  exact ⟨_, down, rfl, hbinding, htest.2.2⟩

def ownScale6 (items : List Scale6Descriptor) (layer : ℕ) : Scale6Descriptor :=
  (own (fun item : Scale6Descriptor => item.layerIndex) items layer).getD {}

lemma scale6_attached {items : List Scale6Descriptor}
    (hlayers : (items.map fun item => item.toSidecarDescriptor.layerIndex).Nodup) :
    items.foldl publishScale6 (clearScale6 weights) =
      weights.updateNvFp4 fun layer slot weight => setConsumerOrder 0 slot
        (setScale6 (ownScale6 items layer).sidecar (ownScale6 items layer).scaleBase slot
          weight) := by
  unfold publishScale6 clearScale6
  rw [foldl_updateNvFp4 hlayers, updateNvFp4_updateNvFp4]
  congr 1
  funext layer slot weight
  unfold ownScale6
  by_cases hslot : slot = .down <;>
    cases own (fun item : Scale6Descriptor => item.layerIndex) items layer <;>
    simp [setScale6, setConsumerOrder, hslot]

lemma attachScale6_settles {descriptors : Option (ℕ → Scale6Descriptor)} : Settles weights
    (RangedPublished Scale6Descriptor.toSidecarDescriptor
      (fun item => ∃ layer : Fin denseLayerCount, layer.val = item.layerIndex ∧
        (weights.nvfp4 layer .down).isSome = true)
      arena arenaBytes descriptors descriptorCount
      (weights.updateNvFp4 fun _ slot weight => setConsumerOrder 0 slot (setScale6 0 0 slot weight))
      fun items => weights.updateNvFp4 fun layer slot weight => setConsumerOrder 0 slot
        (setScale6 (ownScale6 items layer).sidecar (ownScale6 items layer).scaleBase slot weight))
    (attachNvFp4DownScale6Sidecars arena arenaBytes descriptors descriptorCount weights) := by
  refine attachRanged_settles (fun items hlayers => scale6_attached hlayers) ?_
  intro hcount item haccepts
  obtain ⟨layer, down, hlayer, hdown, -⟩ := downWhere_some (of_decide_eq_true haccepts).2
  exact ⟨layer, hlayer, by rw [hdown]; rfl⟩

lemma consumerOrder_attached {items : List SidecarDescriptor}
    (hlayers : (items.map fun item => item.layerIndex).Nodup) :
    items.foldl publishConsumerOrder (clearConsumerOrder weights) =
      weights.updateNvFp4 fun layer => setConsumerOrder (ownSidecar items layer) := by
  unfold publishConsumerOrder clearConsumerOrder
  rw [foldl_updateNvFp4 hlayers, updateNvFp4_updateNvFp4]
  congr 1
  funext layer slot weight
  unfold ownSidecar
  by_cases hslot : slot = .down <;>
    cases own SidecarDescriptor.layerIndex items layer <;> simp [setConsumerOrder, hslot]

lemma attachConsumerOrder_settles {descriptors : Option (ℕ → SidecarDescriptor)} : Settles weights
    (RangedPublished id
      (fun item : SidecarDescriptor => ∃ (layer : Fin denseLayerCount) (down : NvFp4LinearWeight),
        layer.val = item.layerIndex ∧ weights.nvfp4 layer .down = some down ∧
          down.downScale6Sidecar ≠ 0)
      arena arenaBytes descriptors descriptorCount (weights.updateNvFp4 fun _ => setConsumerOrder 0)
      fun items => weights.updateNvFp4 fun layer => setConsumerOrder (ownSidecar items layer))
    (attachNvFp4DownConsumerOrderSidecars arena arenaBytes descriptors descriptorCount
      weights) := by
  refine attachRanged_settles (fun items hlayers => consumerOrder_attached hlayers) ?_
  intro hcount item haccepts
  obtain ⟨layer, down, hlayer, hdown, hscale⟩ := downWhere_some haccepts
  exact ⟨layer, down, hlayer, hdown, of_decide_eq_true hscale⟩

end Scale6

end Ranged

end Qwen3xOrin.Weights
