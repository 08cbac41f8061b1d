import Qwen3xOrin.Weights.Sidecars

/-! Which of the prefill representations of a projection can be bound together. -/

namespace Qwen3xOrin.Weights

open Library

section Exclusive

def marlinBound (weight : NvFp4LinearWeight) : Bool :=
  weight.prefillMarlinGateUpLayout ≠ .unbound ∨ weight.prefillMarlinWeight ≠ 0 ∨
    weight.prefillMarlinScales ≠ 0 ∨ weight.prefillMarlinGlobalScale ≠ 0

def packedBound (view : P40PackedView) : Bool := !emptyP40PackedArtifactView view

def parityBound (view : ParityView) : Bool := !emptyNvFp4MarlinP40ParityView view

def exclusive : LinearWeight → Bool
  | .bf16 _ => true
  | .fp8 weight =>
    packedBound weight.prefillP40PackedArtifact = false ∨
      weight.prefillSupermatrixSidecar = 0 ∧ weight.prefillMarlinWeight = 0 ∧
        weight.prefillMarlinScales = 0
  | .nvfp4 weight =>
    [marlinBound weight, packedBound weight.prefillP40PackedArtifact,
      parityBound weight.prefillP40VllmMarlinParity].count true ≤ 1

def Exclusive (weights : ModelWeights) : Prop :=
  ∀ binding ∈ weights.bindings, exclusive binding = true

end Exclusive

section Updates

variable {weights : ModelWeights}

lemma exclusive_updateNvFp4 {u : NvFp4Update} (h : Exclusive weights)
    (hu : ∀ layer slot weight, weights.nvfp4 layer slot = some weight →
      exclusive (.nvfp4 (u layer slot weight)) = true) : Exclusive (weights.updateNvFp4 u) := by
  intro binding hbinding
  obtain rfl | ⟨layer, hlayer⟩ := mem_bindings.mp hbinding
  · exact h _ (mem_bindings.mpr (Or.inl rfl))
  obtain hmlp | hattention := List.mem_append.mp hlayer
  · obtain ⟨slot, -, rfl⟩ := List.mem_map.mp hmlp
    have hmapped : ((weights.updateNvFp4 u).layers layer).mlp.binding slot =
        ((weights.layers layer).mlp.binding slot).mapNvFp4 (u layer slot) := by
      cases slot <;> rfl
    rw [hmapped]
    cases hold : (weights.layers layer).mlp.binding slot with
    | nvfp4 weight => exact hu layer slot weight (congrArg LinearWeight.asNvFp4 hold)
    | bf16 weight => rfl
    | fp8 weight =>
      have hmember := @mlp_mem_bindings weights layer slot
      rw [hold] at hmember
      exact h _ hmember
  · exact h _ (mem_bindings.mpr (Or.inr ⟨layer, List.mem_append_right _ hattention⟩))

-- A binding of the attention is one of the grouped ones or is left alone.
lemma attention_bindings {layer : DecoderLayerWeights}
    {v : AttentionSlot → Fp8LinearWeight → Fp8LinearWeight} {binding : LinearWeight}
    (h : binding ∈ (layer.mapFp8 v).bindings) :
    binding ∈ layer.bindings ∨ ∃ slot old, layer.attention.binding slot = some old ∧
      binding = old.mapFp8 (v slot) := by
  obtain hmlp | hattention := List.mem_append.mp h
  · exact Or.inl (List.mem_append_left _ hmlp)
  unfold DecoderLayerWeights.bindings
  unfold DecoderLayerWeights.mapFp8 at hattention
  cases hkind : layer.attention with
  | linear attention =>
    rw [hkind] at hattention
    simp only [AttentionWeights.mapSlots, List.mem_cons, List.not_mem_nil, or_false] at hattention
    obtain rfl | rfl | rfl | rfl | rfl := hattention
    · exact Or.inr ⟨.qkv, attention.inProjQkv, rfl, rfl⟩
    · exact Or.inr ⟨.z, attention.inProjZ, rfl, rfl⟩
    · exact Or.inl (by simp)
    · exact Or.inl (by simp)
    · exact Or.inr ⟨.out, attention.outProj, rfl, rfl⟩
  | full attention =>
    rw [hkind] at hattention
    simp only [AttentionWeights.mapSlots, List.mem_cons, List.not_mem_nil, or_false] at hattention
    obtain rfl | rfl | rfl | rfl := hattention
    · exact Or.inr ⟨.q, attention.qProj, rfl, rfl⟩
    · exact Or.inr ⟨.k, attention.kProj, rfl, rfl⟩
    · exact Or.inr ⟨.v, attention.vProj, rfl, rfl⟩
    · exact Or.inr ⟨.o, attention.oProj, rfl, rfl⟩

lemma exclusive_updateFp8 {v : Fp8Update} (h : Exclusive weights)
    (hv : ∀ layer slot weight, weights.fp8 layer slot = some weight →
      exclusive (.fp8 (v layer slot weight)) = true) : Exclusive (weights.updateFp8 v) := by
  intro binding hbinding
  obtain rfl | ⟨layer, hlayer⟩ := mem_bindings.mp hbinding
  · exact h _ (mem_bindings.mpr (Or.inl rfl))
  obtain hkept | ⟨slot, old, hold, rfl⟩ := attention_bindings hlayer
  · exact h _ (mem_bindings.mpr (Or.inr ⟨layer, hkept⟩))
  · cases old with
    | fp8 weight => exact hv layer slot weight (by rw [ModelWeights.fp8, hold]; rfl)
    | bf16 weight => rfl
    | nvfp4 weight => exact h _ (attention_mem_bindings hold)

end Updates

section Sound

variable {weights after : ModelWeights} {wholeCoreService : Bool}

-- A layer has its Down bound whenever it has Marlin views.
def MarlinUniform (weights : ModelWeights) (layer : Fin denseLayerCount) : Prop :=
  (∀ slot weight, weights.nvfp4 layer slot = some weight → marlinBound weight = false) ∨
    ∃ down, weights.nvfp4 layer .down = some down ∧ down.prefillMarlinWeight ≠ 0

structure Sound (weights : ModelWeights) : Prop where
  exclusive : Exclusive weights
  marlin : ∀ layer, MarlinUniform weights layer
  fp8Marlin : ∀ layer slot weight, weights.fp8 layer slot = some weight →
    weight.prefillMarlinScales ≠ 0 → weight.prefillMarlinWeight ≠ 0

lemma Sound.updateFp8 (h : Sound weights) {v : Fp8Update}
    (hv : ∀ layer slot weight, weights.fp8 layer slot = some weight →
      Weights.exclusive (.fp8 (v layer slot weight)) = true)
    (hmarlin : ∀ layer slot weight, weights.fp8 layer slot = some weight →
      (v layer slot weight).prefillMarlinScales ≠ 0 →
      (v layer slot weight).prefillMarlinWeight ≠ 0) : Sound (weights.updateFp8 v) where
  exclusive := exclusive_updateFp8 h.exclusive hv
  marlin := h.marlin
  fp8Marlin := by
    intro layer slot weight hweight
    rw [fp8_updateFp8] at hweight
    obtain ⟨old, hold, rfl⟩ := Option.map_eq_some_iff.mp hweight
    exact hmarlin layer slot old hold

lemma Sound.updateNvFp4 (h : Sound weights) {u : NvFp4Update}
    (hu : ∀ layer slot weight, weights.nvfp4 layer slot = some weight →
      Weights.exclusive (.nvfp4 (u layer slot weight)) = true)
    (hmarlin : ∀ layer, MarlinUniform (weights.updateNvFp4 u) layer) :
    Sound (weights.updateNvFp4 u) :=
  ⟨exclusive_updateNvFp4 h.exclusive hu, hmarlin, h.fp8Marlin⟩

lemma MarlinUniform.kept {u : NvFp4Update} {layer : Fin denseLayerCount}
    (h : MarlinUniform weights layer)
    (hbound : ∀ slot weight, marlinBound (u layer slot weight) = marlinBound weight)
    (hweight : ∀ weight, (u layer .down weight).prefillMarlinWeight = weight.prefillMarlinWeight) :
    MarlinUniform (weights.updateNvFp4 u) layer := by
  obtain hunbound | ⟨down, hdown, hne⟩ := h
  · refine Or.inl fun slot weight hslot => ?_
    rw [nvfp4_updateNvFp4] at hslot
    obtain ⟨old, hold, rfl⟩ := Option.map_eq_some_iff.mp hslot
    rw [hbound]
    exact hunbound slot old hold
  · refine Or.inr ⟨u layer .down down, ?_, by rw [hweight]; exact hne⟩
    rw [nvfp4_updateNvFp4, hdown]
    rfl

-- Calls that write none of the exclusive views.
lemma Sound.keepFp8 (h : Sound weights) {v : Fp8Update}
    (hv : ∀ layer slot weight, Weights.exclusive (.fp8 (v layer slot weight)) =
        Weights.exclusive (.fp8 weight) ∧
      (v layer slot weight).prefillMarlinScales = weight.prefillMarlinScales ∧
      (v layer slot weight).prefillMarlinWeight = weight.prefillMarlinWeight) :
    Sound (weights.updateFp8 v) := by
  refine h.updateFp8 (fun layer slot weight hweight => ?_) fun layer slot weight hweight => ?_
  · rw [(hv layer slot weight).1]
    exact h.exclusive _ (fp8_mem_bindings hweight)
  · rw [(hv layer slot weight).2.1, (hv layer slot weight).2.2]
    exact h.fp8Marlin layer slot weight hweight

lemma Sound.keepNvFp4 (h : Sound weights) {u : NvFp4Update}
    (hu : ∀ layer slot weight, Weights.exclusive (.nvfp4 (u layer slot weight)) =
        Weights.exclusive (.nvfp4 weight) ∧
      marlinBound (u layer slot weight) = marlinBound weight ∧
      (u layer slot weight).prefillMarlinWeight = weight.prefillMarlinWeight) :
    Sound (weights.updateNvFp4 u) := by
  refine h.updateNvFp4 (fun layer slot weight hweight => ?_) fun layer => ?_
  · rw [(hu layer slot weight).1]
    exact h.exclusive _ (nvfp4_mem_bindings hweight)
  · exact (h.marlin layer).kept (fun slot weight => (hu layer slot weight).2.1)
      fun weight => (hu layer .down weight).2.2

lemma mlpWhere_some {layer : DecoderLayerWeights} {test : MlpSlot → NvFp4LinearWeight → Bool}
    (h : mlpWhere layer test = true) {slot : MlpSlot} {weight : NvFp4LinearWeight}
    (hweight : mlpWeight layer slot = some weight) : test slot weight = true := by
  have hslot := List.all_eq_true.mp h slot (by cases slot <;> decide)
  obtain ⟨other, hother, htest⟩ := (Option.any_eq_true _ _).mp hslot
  obtain rfl := Option.some.inj (hother.symm.trans hweight)
  exact (Bool.and_eq_true_iff.mp htest).2

lemma mlpWhere_isSome {layer : DecoderLayerWeights} {test : MlpSlot → NvFp4LinearWeight → Bool}
    (h : mlpWhere layer test = true) (slot : MlpSlot) : ∃ weight, mlpWeight layer slot = some weight := by
  have hslot := List.all_eq_true.mp h slot (by cases slot <;> decide)
  exact Option.isSome_iff_exists.mp (nvFp4Where_isSome hslot)

lemma attentionWhere_some {layer : Fin denseLayerCount} {test : LinearWeight → Bool}
    (h : attentionWhere (weights.layers layer) test = true) {slot : AttentionSlot}
    {weight : Fp8LinearWeight} (hweight : weights.fp8 layer slot = some weight) :
    test (.fp8 weight) = true := by
  obtain ⟨binding, hbinding, hfp8⟩ := Option.bind_eq_some_iff.mp hweight
  obtain rfl := asFp8_some hfp8
  have hslot : slot ∈ (weights.layers layer).attention.slots := by
    revert hbinding
    cases (weights.layers layer).attention <;> cases slot <;>
      simp [AttentionWeights.binding, AttentionWeights.slots]
  have htest := List.all_eq_true.mp h slot hslot
  rw [hbinding] at htest
  exact htest

-- No view of the family is bound to any layer.
lemma MarlinUniform.unbound {layer : Fin denseLayerCount} (h : MarlinUniform weights layer)
    (hweight : ∀ weight, weights.nvfp4 layer .down = some weight → weight.prefillMarlinWeight = 0)
    {slot : MlpSlot} {weight : NvFp4LinearWeight} (hslot : weights.nvfp4 layer slot = some weight) :
    marlinBound weight = false := by
  obtain hunbound | ⟨down, hdown, hne⟩ := h
  · exact hunbound slot weight hslot
  · exact absurd (hweight down hdown) hne

lemma exclusive_packed {weight : NvFp4LinearWeight} (view : P40PackedView)
    (hmarlin : marlinBound weight = false)
    (hparity : emptyNvFp4MarlinP40ParityView weight.prefillP40VllmMarlinParity = true) :
    exclusive (.nvfp4 { weight with prefillP40PackedArtifact := view }) = true := by
  have hmarlin' : marlinBound { weight with prefillP40PackedArtifact := view } = false := hmarlin
  have hparity' : parityBound weight.prefillP40VllmMarlinParity = false := by
    rw [parityBound, hparity]
    rfl
  rw [exclusive, hmarlin', hparity']
  cases packedBound view <;> rfl

lemma exclusive_setPacked {weight : NvFp4LinearWeight} (gateUp down : P40PackedView)
    (slot : MlpSlot) (hmarlin : marlinBound weight = false)
    (hparity : emptyNvFp4MarlinP40ParityView weight.prefillP40VllmMarlinParity = true) :
    exclusive (.nvfp4 (setPackedNvFp4 gateUp down slot weight)) = true := by
  cases slot <;> exact exclusive_packed _ hmarlin hparity

lemma exclusive_unpacked {weight : NvFp4LinearWeight} (slot : MlpSlot)
    (h : exclusive (.nvfp4 weight) = true) :
    exclusive (.nvfp4 (setPackedNvFp4 {} {} slot weight)) = true := by
  have hcount : ∀ marlin packed parity : Bool, [marlin, packed, parity].count true ≤ 1 →
      [marlin, false, parity].count true ≤ 1 := by decide
  have h := hcount _ _ _ (of_decide_eq_true h)
  cases slot <;> exact decide_eq_true h

lemma exclusive_fp8_of_unpacked {weight : Fp8LinearWeight}
    (h : packedBound weight.prefillP40PackedArtifact = false) : exclusive (.fp8 weight) = true :=
  decide_eq_true (Or.inl h)

lemma packedBound_empty : packedBound {} = false := by decide

lemma Sound.packedNvFp4 (h : Sound weights) (views : Fin denseLayerCount → ℕ → P40PackedView)
    (hguard : ∀ layer slot weight, weights.nvfp4 layer slot = some weight →
      weight.prefillMarlinWeight = 0 ∧
        emptyNvFp4MarlinP40ParityView weight.prefillP40VllmMarlinParity = true) :
    Sound (weights.updateNvFp4 fun layer =>
      setPackedNvFp4 (views layer 0) (views layer 1)) := by
  refine h.updateNvFp4 (fun layer slot weight hweight => ?_) fun layer => ?_
  · have hmarlin := (h.marlin layer).unbound (fun down hdown => (hguard layer .down down hdown).1)
      hweight
    exact exclusive_setPacked _ _ slot hmarlin (hguard layer slot weight hweight).2
  · refine (h.marlin layer).kept (fun slot weight => ?_) fun weight => rfl
    cases slot <;> rfl

lemma Sound.unpackNvFp4 (h : Sound weights) :
    Sound (weights.updateNvFp4 fun _ => setPackedNvFp4 {} {}) := by
  refine h.updateNvFp4 (fun layer slot weight hweight => ?_) fun layer => ?_
  · exact exclusive_unpacked slot (h.exclusive _ (nvfp4_mem_bindings hweight))
  · refine (h.marlin layer).kept (fun slot weight => ?_) fun weight => rfl
    cases slot <;> rfl

def UnpackedNvFp4 (weights : ModelWeights) : Prop :=
  ∀ layer slot weight, weights.nvfp4 layer slot = some weight →
    packedBound weight.prefillP40PackedArtifact = false

def UnpackedFp8 (weights : ModelWeights) : Prop :=
  ∀ layer slot weight, weights.fp8 layer slot = some weight →
    packedBound weight.prefillP40PackedArtifact = false

-- The calls whose checks do not ask for packed artifacts are made when there are none.
def AttachCall.Orderly : AttachCall → ModelWeights → Prop
  | .nvfp4Marlin (some _) _, weights => UnpackedNvFp4 weights
  | .fp8Supermatrix arena _, weights => arena ≠ 0 → UnpackedFp8 weights
  | .fp8Marlin weightArena _ _ _, weights => weightArena ≠ 0 → UnpackedFp8 weights
  | _, _ => True

lemma exclusive_marlin {weight : NvFp4LinearWeight} (slot : MlpSlot) (item : MarlinDescriptor)
    (hpacked : packedBound weight.prefillP40PackedArtifact = false)
    (hparity : emptyNvFp4MarlinP40ParityView weight.prefillP40VllmMarlinParity = true) :
    exclusive (.nvfp4 (marlinViews item slot (setMarlin .unbound 0 0 0 weight))) = true := by
  have hparity' : parityBound weight.prefillP40VllmMarlinParity = false := by
    rw [parityBound, hparity]
    rfl
  have hcount : ∀ marlin : Bool, [marlin, packedBound weight.prefillP40PackedArtifact,
      parityBound weight.prefillP40VllmMarlinParity].count true ≤ 1 := by
    rw [hpacked, hparity']
    decide
  cases slot <;> exact decide_eq_true (hcount _)

lemma exclusive_unmarlin {weight : NvFp4LinearWeight} (h : exclusive (.nvfp4 weight) = true) :
    exclusive (.nvfp4 (setMarlin .unbound 0 0 0 weight)) = true := by
  have hcount : ∀ marlin packed parity : Bool, [marlin, packed, parity].count true ≤ 1 →
      [false, packed, parity].count true ≤ 1 := by decide
  exact decide_eq_true (hcount _ _ _ (of_decide_eq_true h))

lemma Sound.publishedMarlin (h : Sound weights) {descriptors : Option (ℕ → MarlinDescriptor)}
    {descriptorCount : ℕ}
    (hcall : MarlinPublished wholeCoreService descriptors descriptorCount weights after)
    (horderly : (AttachCall.nvfp4Marlin descriptors descriptorCount).Orderly weights) :
    Sound after := by
  obtain hcount | hcount := Nat.eq_zero_or_pos descriptorCount
  · obtain ⟨-, rfl⟩ := hcall.detach hcount
    refine h.updateNvFp4 (fun layer slot weight hweight => ?_) fun layer => Or.inl ?_
    · exact exclusive_unmarlin (h.exclusive _ (nvfp4_mem_bindings hweight))
    · intro slot weight hslot
      rw [nvfp4_updateNvFp4] at hslot
      obtain ⟨old, -, rfl⟩ := Option.map_eq_some_iff.mp hslot
      rfl
  · obtain ⟨read, items, rfl, -, hlayers, hfits, hall, rfl⟩ := hcall.attach hcount
    have hunpacked : UnpackedNvFp4 weights := horderly
    have hown : ∀ layer : Fin denseLayerCount, MarlinFits wholeCoreService weights
        (ownMarlin items layer) ∧ (ownMarlin items layer).layerIndex = layer := by
      intro layer
      obtain ⟨item, hitem, hindex⟩ := hall layer layer.isLt
      rw [ownMarlin, ← hindex, own_eq hlayers hitem]
      exact ⟨hfits item hitem, rfl⟩
    have hlayer : ∀ layer, mlpWhere (weights.layers layer) (fun slot weight =>
        mlpHasShape slot weight &&
          emptyNvFp4MarlinP40ParityView weight.prefillP40VllmMarlinParity) = true := by
      intro layer
      obtain ⟨hfit, hindex⟩ := hown layer
      obtain ⟨hbound, hwhere⟩ := layerWhere_some hfit.layer
      rwa [show (⟨(ownMarlin items layer).layerIndex, hbound⟩ : Fin denseLayerCount) = layer from
        Fin.ext hindex] at hwhere
    refine h.updateNvFp4 (fun layer slot weight hweight => ?_) fun layer => Or.inr ?_
    · have hparity := mlpWhere_some (hlayer layer) hweight
      exact exclusive_marlin slot _ (hunpacked layer slot weight hweight)
        (Bool.and_eq_true_iff.mp hparity).2
    · obtain ⟨down, hdown⟩ := mlpWhere_isSome (hlayer layer) .down
      refine ⟨_, by rw [nvfp4_updateNvFp4, ModelWeights.nvfp4, hdown]; rfl, ?_⟩
      have hfields := of_decide_eq_true (hown layer).1.fields
      exact hfields.2.2.1

lemma Sound.publishedParity (h : Sound weights) {descriptors : Option (ℕ → ParityDescriptor)}
    {descriptorCount : ℕ} (hcall : ParityPublished descriptors descriptorCount weights after) :
    Sound after := by
  have hkept : ∀ (views : Fin denseLayerCount → ℕ → ParityView) layer, MarlinUniform
      (weights.updateNvFp4 fun layer => setParity (views layer 0) (views layer 1)) layer := by
    intro views layer
    refine (h.marlin layer).kept (fun slot weight => ?_) fun weight => rfl
    cases slot <;> rfl
  cases descriptors with
  | none =>
    rw [(hcall.detach rfl).2]
    have hcount : ∀ marlin packed parity : Bool, [marlin, packed, parity].count true ≤ 1 →
        [marlin, packed, false].count true ≤ 1 := by decide
    refine h.updateNvFp4 (fun layer slot weight hweight => ?_) (hkept fun _ _ => {})
    have hold := of_decide_eq_true (h.exclusive _ (nvfp4_mem_bindings hweight))
    cases slot <;> exact decide_eq_true (hcount _ _ _ hold)
  | some read =>
    obtain ⟨items, -, -, hfits, rfl⟩ := hcall.attach read rfl
    refine h.updateNvFp4 (fun layer slot weight hweight => ?_)
      (hkept fun layer => ownParity items layer)
    have htarget := mlpWhere_some (hfits layer) hweight
    simp only [parityTargetFits, marlinUnbound, Bool.and_eq_true, decide_eq_true_eq] at htarget
    obtain ⟨⟨⟨-, hlayout⟩, -, hmarlin, hscales, hglobal⟩, hpacked⟩ := htarget
    have hunbound : marlinBound weight = false := by
      simp [marlinBound, hlayout, hmarlin, hscales, hglobal]
    have hempty : packedBound weight.prefillP40PackedArtifact = false := by
      rw [packedBound, hpacked]
      rfl
    have hcount : ∀ parity : Bool, [marlinBound weight,
        packedBound weight.prefillP40PackedArtifact, parity].count true ≤ 1 := by
      rw [hunbound, hempty]
      decide
    cases slot <;> exact decide_eq_true (hcount _)

lemma Sound.publishedPacked (h : Sound weights) {descriptors : Option (ℕ → P40PackedDescriptor)}
    {descriptorCount : ℕ} (hcall : PackedPublished descriptors descriptorCount weights after) :
    Sound after := by
  cases descriptors with
  | none =>
    rw [(hcall.detach rfl).2]
    refine h.unpackNvFp4.updateFp8 (fun layer slot weight hweight => ?_)
      fun layer slot weight hweight => ?_
    · unfold setPackedFp8
      split_ifs <;> exact exclusive_fp8_of_unpacked packedBound_empty
    · have hmarlin := h.fp8Marlin layer slot weight hweight
      unfold setPackedFp8
      split_ifs <;> exact hmarlin
  | some read =>
    obtain ⟨items, -, -, hfits, rfl⟩ := hcall.attach read rfl
    have hlayers := fun layer => of_decide_eq_true (hfits layer)
    have hmlp : ∀ layer slot weight, weights.nvfp4 layer slot = some weight →
        weight.prefillMarlinWeight = 0 ∧
          emptyNvFp4MarlinP40ParityView weight.prefillP40VllmMarlinParity = true :=
      fun layer slot weight hweight =>
        of_decide_eq_true (mlpWhere_some (hlayers layer).1 hweight)
    refine (h.packedNvFp4 (fun layer => ownPacked packedRoleSlot items layer) hmlp).updateFp8
      (fun layer slot weight hweight => ?_) fun layer slot weight hweight => ?_
    · have htest := attentionWhere_some (hlayers layer).2 hweight
      have hguard := of_decide_eq_true (Bool.and_eq_true_iff.mp htest).2
      have hscales : weight.prefillMarlinScales = 0 := by
        by_contra hne
        exact h.fp8Marlin layer slot weight hweight hne hguard.2
      unfold setPackedFp8
      split_ifs <;> exact decide_eq_true (Or.inr ⟨hguard.1, hguard.2, hscales⟩)
    · have hmarlin := h.fp8Marlin layer slot weight hweight
      unfold setPackedFp8
      split_ifs <;> exact hmarlin

lemma Sound.publishedPackedNvFp4 (h : Sound weights)
    {descriptors : Option (ℕ → P40PackedDescriptor)} {descriptorCount : ℕ}
    (hcall : PackedNvFp4Published descriptors descriptorCount weights after) : Sound after := by
  cases descriptors with
  | none =>
    rw [(hcall.detach rfl).2]
    exact h.unpackNvFp4
  | some read =>
    obtain ⟨items, -, -, hfits, rfl⟩ := hcall.attach read rfl
    refine h.packedNvFp4 (fun layer => ownPacked packedNvFp4RoleSlot items layer)
      fun layer slot weight hweight => ?_
    have htest := mlpWhere_some (of_decide_eq_true (hfits layer)).1 hweight
    simp only [marlinUnbound, Bool.and_eq_true, decide_eq_true_eq] at htest
    exact ⟨htest.1.2.2.1, htest.2⟩

lemma Sound.publishedSupermatrix (h : Sound weights) {arena arenaBytes : ℕ}
    (hcall : SupermatrixPublished arena arenaBytes weights after)
    (horderly : (AttachCall.fp8Supermatrix arena arenaBytes).Orderly weights) : Sound after := by
  by_cases harena : arena = 0
  · rw [hcall.detach harena]
    refine h.updateFp8 (fun layer slot weight hweight => ?_) h.fp8Marlin
    obtain hpacked | hguard := of_decide_eq_true (h.exclusive _ (fp8_mem_bindings hweight))
    · exact exclusive_fp8_of_unpacked hpacked
    · exact decide_eq_true (Or.inr ⟨rfl, hguard.2⟩)
  · rw [hcall.attach harena]
    refine h.updateFp8 (fun layer slot weight hweight => ?_) h.fp8Marlin
    exact exclusive_fp8_of_unpacked (horderly harena layer slot weight hweight)

lemma Sound.publishedFp8Marlin (h : Sound weights)
    {weightArena weightArenaBytes scaleArena scaleArenaElements : ℕ}
    (hcall : Fp8MarlinPublished weightArena weightArenaBytes scaleArena scaleArenaElements weights
      after)
    (horderly : (AttachCall.fp8Marlin weightArena weightArenaBytes scaleArena
      scaleArenaElements).Orderly weights) : Sound after := by
  by_cases harena : weightArena = 0
  · rw [hcall.detach harena]
    refine h.updateFp8 (fun layer slot weight hweight => ?_) fun _ _ _ _ hne => absurd rfl hne
    obtain hpacked | hguard := of_decide_eq_true (h.exclusive _ (fp8_mem_bindings hweight))
    · exact exclusive_fp8_of_unpacked hpacked
    · exact decide_eq_true (Or.inr ⟨hguard.1, rfl, rfl⟩)
  · rw [hcall.attach harena]
    refine h.updateFp8 (fun layer slot weight hweight => ?_) fun layer slot weight _ _ => ?_
    · exact exclusive_fp8_of_unpacked (horderly harena layer slot weight hweight)
    · have hpos : weightArena + ((before weights (layer, slot)).map slotBytes).sum ≠ 0 := by omega
      exact hpos

lemma Sound.published (h : Sound weights) {call : AttachCall}
    (hcall : call.Published wholeCoreService weights after) (horderly : call.Orderly weights) :
    Sound after := by
  cases call with
  | fp8M1Output =>
    have hkept : ∀ views : Fin denseLayerCount → ℕ,
        Sound (weights.updateFp8 fun layer => setM1 (views layer)) := by
      refine fun views => h.keepFp8 fun layer slot weight => ?_
      unfold setM1
      split_ifs <;> exact ⟨rfl, rfl, rfl⟩
    rw [hcall.views]
    exact hkept _
  | fp8QkvRegisterFeed arena arenaBytes descriptors descriptorCount =>
    have hkept : ∀ views : Fin denseLayerCount → ℕ,
        Sound (weights.updateFp8 fun layer => setRegisterFeed (views layer)) := by
      refine fun views => h.keepFp8 fun layer slot weight => ?_
      unfold setRegisterFeed
      split_ifs <;> exact ⟨rfl, rfl, rfl⟩
    obtain hcount | hcount := Nat.eq_zero_or_pos descriptorCount
    · obtain ⟨-, -, -, rfl⟩ := hcall.detach hcount
      exact hkept fun _ => 0
    · obtain ⟨read, -, -, -, rfl⟩ := hcall.attach hcount
      exact hkept _
  | fp8Supermatrix => exact h.publishedSupermatrix hcall horderly
  | fp8Marlin => exact h.publishedFp8Marlin hcall horderly
  | nvfp4DownScale6 arena arenaBytes descriptors descriptorCount =>
    have hkept : ∀ (views bases : Fin denseLayerCount → ℕ),
        Sound (weights.updateNvFp4 fun layer slot weight =>
          setConsumerOrder 0 slot (setScale6 (views layer) (bases layer) slot weight)) := by
      refine fun views bases => h.keepNvFp4 fun layer slot weight => ?_
      cases slot <;> exact ⟨rfl, rfl, rfl⟩
    obtain hcount | hcount := Nat.eq_zero_or_pos descriptorCount
    · obtain ⟨-, -, -, rfl⟩ := hcall.detach hcount
      exact hkept (fun _ => 0) fun _ => 0
    · obtain ⟨read, -, -, -, rfl⟩ := hcall.attach hcount
      exact hkept _ _
  | nvfp4DownConsumerOrder arena arenaBytes descriptors descriptorCount =>
    have hkept : ∀ views : Fin denseLayerCount → ℕ,
        Sound (weights.updateNvFp4 fun layer => setConsumerOrder (views layer)) := by
      refine fun views => h.keepNvFp4 fun layer slot weight => ?_
      cases slot <;> exact ⟨rfl, rfl, rfl⟩
    obtain hcount | hcount := Nat.eq_zero_or_pos descriptorCount
    · obtain ⟨-, -, -, rfl⟩ := hcall.detach hcount
      exact hkept fun _ => 0
    · obtain ⟨read, -, -, -, rfl⟩ := hcall.attach hcount
      exact hkept _
  | nvfp4GateUpCoupledFeed arena =>
    have hkept : ∀ gates ups : Fin denseLayerCount → ℕ,
        Sound (weights.updateNvFp4 fun layer => setCoupledFeed (gates layer) (ups layer)) := by
      refine fun gates ups => h.keepNvFp4 fun layer slot weight => ?_
      cases slot <;> exact ⟨rfl, rfl, rfl⟩
    by_cases harena : arena = 0
    · rw [hcall.detach harena]
      exact hkept (fun _ => 0) fun _ => 0
    · rw [hcall.attach harena]
      exact hkept _ _
  | nvfp4Marlin => exact h.publishedMarlin hcall horderly
  | p40Packed => exact h.publishedPacked hcall
  | p40PackedNvFp4 => exact h.publishedPackedNvFp4 hcall
  | p40Parity => exact h.publishedParity hcall

def OrderlyRun (wholeCoreService : Bool) : List AttachCall → ModelWeights → Prop
  | [], _ => True
  | call :: calls, weights =>
    call.Orderly weights ∧ OrderlyRun wholeCoreService calls (call.attach wholeCoreService weights).2

lemma Sound.run (h : Sound weights) {calls : List AttachCall}
    (horderly : OrderlyRun wholeCoreService calls weights) :
    Sound (runCalls wholeCoreService calls weights) := by
  induction calls generalizing weights with
  | nil => exact h
  | cons call calls ih =>
    exact ih (attach_inv h fun after hafter => h.published hafter horderly.1) horderly.2

lemma OrderlyRun.take {calls : List AttachCall}
    (h : OrderlyRun wholeCoreService calls weights) (n : ℕ) :
    OrderlyRun wholeCoreService (calls.take n) weights := by
  induction calls generalizing weights n with
  | nil => cases n <;> exact h
  | cons call calls ih =>
    cases n with
    | zero => trivial
    | succ n => exact ⟨h.1, ih h.2 n⟩

lemma ModelWeights.Fresh.sound (h : weights.Fresh) : Sound weights where
  exclusive := by
    intro binding hbinding
    have hfresh := h binding hbinding
    cases binding with
    | bf16 weight => rfl
    | fp8 weight =>
      have hbare : weight = weight.bare := hfresh
      rw [hbare]
      exact exclusive_fp8_of_unpacked packedBound_empty
    | nvfp4 weight =>
      have hbare : weight = weight.bare := hfresh
      rw [hbare]
      rfl
  marlin := by
    refine fun layer => Or.inl fun slot weight hweight => ?_
    have hbare : weight = weight.bare := h _ (nvfp4_mem_bindings hweight)
    rw [hbare]
    rfl
  fp8Marlin := by
    intro layer slot weight hweight hne
    have hbare : weight = weight.bare := h _ (fp8_mem_bindings hweight)
    rw [hbare] at hne
    exact absurd rfl hne

lemma ModelWeights.Fresh.unpackedNvFp4 (h : weights.Fresh) : UnpackedNvFp4 weights := by
  intro layer slot weight hweight
  have hbare : weight = weight.bare := h _ (nvfp4_mem_bindings hweight)
  rw [hbare]
  exact packedBound_empty

end Sound

section Order

def sampleMarlin (index : ℕ) : MarlinDescriptor where
  layerIndex := index
  gateUpLayout := .canonicalGateThenUp
  gateUpWeight := 16
  gateUpScales := 16
  gateUpGlobalScale := 16
  downWeight := 16
  downScales := 16
  downGlobalScale := 16

def attachSampleMarlin : AttachCall := .nvfp4Marlin (some sampleMarlin) 64

-- What the packed attachment leaves, without its descriptor table.
def packedSample : ModelWeights :=
  sampleWeights.updateNvFp4 fun layer =>
    setPackedNvFp4 (ownPacked packedNvFp4RoleSlot ((List.range 128).map samplePacked) layer 0)
      (ownPacked packedNvFp4RoleSlot ((List.range 128).map samplePacked) layer 1)

lemma runCalls_pair (wholeCoreService : Bool) (first second : AttachCall) (weights : ModelWeights) :
    runCalls wholeCoreService [first, second] weights =
      (second.attach wholeCoreService (first.attach wholeCoreService weights).2).2 := rfl

lemma attachSamplePacked_after :
    (attachSamplePacked.attach false sampleWeights).2 = packedSample := by
  have hpublished : PackedNvFp4Published (some samplePacked) 128 sampleWeights
      (attachSamplePacked.attach false sampleWeights).2 :=
    (attach_settles false attachSamplePacked sampleWeights).accepted attachSamplePacked_accepted
  obtain ⟨items, rfl, -, -, hafter⟩ := hpublished.attach samplePacked rfl
  exact hafter

lemma attachSampleMarlin_shares : (attachSampleMarlin.attach false packedSample).1 = true ∧
    exclusive (((attachSampleMarlin.attach false packedSample).2.layers
      ⟨0, by decide⟩).mlp.binding .gate) = false := by
  decide +kernel

lemma attachSamplePacked_refused : (attachSamplePacked.attach false
    (attachSampleMarlin.attach false sampleWeights).2).1 = false := by
  have hlayers : (attachSampleMarlin.attach false sampleWeights).2.everyLayer
      packedNvFp4LayerFits = false := by decide
  generalize (attachSampleMarlin.attach false sampleWeights).2 = weights at hlayers ⊢
  simp only [attachSamplePacked, AttachCall.attach, attachP40PackedNvFp4Sidecars]
  rw [if_neg (by decide), samplePacked_taken le_rfl]
  simp only [hlayers, or_true, if_true]

end Order

theorem representations_exclusive (wholeCoreService : Bool) (bound : ModelWeights)
    (hbound : bound.Fresh) (calls : List AttachCall)
    (horderly : OrderlyRun wholeCoreService calls bound) (n : ℕ) :
    Exclusive (runCalls wholeCoreService (calls.take n) bound) :=
  (hbound.sound.run (horderly.take n)).exclusive

theorem marlin_then_packed_exclusive :
    OrderlyRun false [attachSampleMarlin, attachSamplePacked] sampleWeights ∧
      Exclusive (runCalls false [attachSampleMarlin, attachSamplePacked] sampleWeights) := by
  have horderly : OrderlyRun false [attachSampleMarlin, attachSamplePacked] sampleWeights :=
    ⟨sampleWeights_fresh.unpackedNvFp4, trivial, trivial⟩
  exact ⟨horderly, representations_exclusive false sampleWeights sampleWeights_fresh _ horderly 2⟩

-- The Marlin setter asks for no parity view, and not for the packed artifacts that ask for it.
theorem packed_then_marlin_shared :
    sampleWeights.Fresh ∧
      (attachSamplePacked.attach false sampleWeights).1 = true ∧
      (attachSampleMarlin.attach false (attachSamplePacked.attach false sampleWeights).2).1 = true ∧
      ¬ Exclusive (runCalls false [attachSamplePacked, attachSampleMarlin] sampleWeights) ∧
      (attachSamplePacked.attach false (attachSampleMarlin.attach false sampleWeights).2).1 =
        false := by
  refine ⟨sampleWeights_fresh, attachSamplePacked_accepted, ?_, ?_, attachSamplePacked_refused⟩
  · rw [attachSamplePacked_after]
    exact attachSampleMarlin_shares.1
  · intro h
    have hrun : runCalls false [attachSamplePacked, attachSampleMarlin] sampleWeights =
        (attachSampleMarlin.attach false (attachSamplePacked.attach false sampleWeights).2).2 :=
      runCalls_pair ..
    rw [hrun, attachSamplePacked_after] at h
    have hgate := attachSampleMarlin_shares.2.symm.trans (h _ (mlp_mem_bindings .gate))
    cases hgate

end Qwen3xOrin.Weights
