import Qwen3xOrin.Weights.PackedExact

/-! Runs of attach calls on freshly bound weights. -/

namespace Qwen3xOrin.Weights

open Library

section Calls

inductive AttachCall
  | fp8M1Output (arena bytes : ℕ)
  | fp8QkvRegisterFeed (arena arenaBytes : ℕ) (descriptors : Option (ℕ → SidecarDescriptor))
      (descriptorCount : ℕ)
  | fp8Supermatrix (arena arenaBytes : ℕ)
  | fp8Marlin (weightArena weightArenaBytes scaleArena scaleArenaElements : ℕ)
  | nvfp4DownScale6 (arena arenaBytes : ℕ) (descriptors : Option (ℕ → Scale6Descriptor))
      (descriptorCount : ℕ)
  | nvfp4DownConsumerOrder (arena arenaBytes : ℕ) (descriptors : Option (ℕ → SidecarDescriptor))
      (descriptorCount : ℕ)
  | nvfp4GateUpCoupledFeed (arena arenaBytes : ℕ)
  | nvfp4Marlin (descriptors : Option (ℕ → MarlinDescriptor)) (descriptorCount : ℕ)
  | p40Packed (descriptors : Option (ℕ → P40PackedDescriptor)) (descriptorCount : ℕ)
  | p40PackedNvFp4 (descriptors : Option (ℕ → P40PackedDescriptor)) (descriptorCount : ℕ)
  | p40Parity (descriptors : Option (ℕ → ParityDescriptor)) (descriptorCount : ℕ)

variable (wholeCoreService : Bool)

def AttachCall.attach : AttachCall → ModelWeights → Attached
  | fp8M1Output arena bytes => attachFp8M1OutputProjectionSidecars arena bytes
  | fp8QkvRegisterFeed arena arenaBytes descriptors descriptorCount =>
    attachFp8PrefillQkvRegisterFeedSidecars arena arenaBytes descriptors descriptorCount
  | fp8Supermatrix arena arenaBytes => attachFp8PrefillSupermatrixSidecars arena arenaBytes
  | fp8Marlin weightArena weightArenaBytes scaleArena scaleArenaElements =>
    attachFp8MarlinPrefillSidecars weightArena weightArenaBytes scaleArena scaleArenaElements
  | nvfp4DownScale6 arena arenaBytes descriptors descriptorCount =>
    attachNvFp4DownScale6Sidecars arena arenaBytes descriptors descriptorCount
  | nvfp4DownConsumerOrder arena arenaBytes descriptors descriptorCount =>
    attachNvFp4DownConsumerOrderSidecars arena arenaBytes descriptors descriptorCount
  | nvfp4GateUpCoupledFeed arena arenaBytes =>
    attachNvFp4GateUpCoupledFeedSidecars arena arenaBytes
  | nvfp4Marlin descriptors descriptorCount =>
    attachNvFp4MarlinPrefillSidecars wholeCoreService descriptors descriptorCount
  | p40Packed descriptors descriptorCount =>
    attachP40PackedProjectionSidecars descriptors descriptorCount
  | p40PackedNvFp4 descriptors descriptorCount =>
    attachP40PackedNvFp4Sidecars descriptors descriptorCount
  | p40Parity descriptors descriptorCount =>
    attachNvFp4MarlinP40ParitySidecars descriptors descriptorCount

def runCalls (calls : List AttachCall) (weights : ModelWeights) : ModelWeights :=
  calls.foldl (fun weights call => (call.attach wholeCoreService weights).2) weights

-- What an accepted call makes of the weights before it.
def AttachCall.Published : AttachCall → ModelWeights → ModelWeights → Prop
  | fp8M1Output arena _, weights, after => M1Published arena weights after
  | fp8QkvRegisterFeed arena arenaBytes descriptors descriptorCount, weights, after =>
    RangedPublished id
      (fun item => ∃ layer : Fin denseLayerCount, layer.val = item.layerIndex ∧
        (weights.fp8 layer .qkv).isSome = true)
      arena arenaBytes descriptors descriptorCount (weights.updateFp8 fun _ => setRegisterFeed 0)
      (fun items => weights.updateFp8 fun layer => setRegisterFeed (ownSidecar items layer)) after
  | fp8Supermatrix arena arenaBytes, weights, after =>
    SupermatrixPublished arena arenaBytes weights after
  | fp8Marlin weightArena weightArenaBytes scaleArena scaleArenaElements, weights, after =>
    Fp8MarlinPublished weightArena weightArenaBytes scaleArena scaleArenaElements weights after
  | nvfp4DownScale6 arena arenaBytes descriptors descriptorCount, weights, after =>
    RangedPublished Scale6Descriptor.toSidecarDescriptor
      (fun item => ∃ layer : Fin denseLayerCount, layer.val = item.layerIndex ∧
        (weights.nvfp4 layer .down).isSome = true)
      arena arenaBytes descriptors descriptorCount
      (weights.updateNvFp4 fun _ slot weight => setConsumerOrder 0 slot (setScale6 0 0 slot weight))
      (fun items => weights.updateNvFp4 fun layer slot weight => setConsumerOrder 0 slot
        (setScale6 (ownScale6 items layer).sidecar (ownScale6 items layer).scaleBase slot weight))
      after
  | nvfp4DownConsumerOrder arena arenaBytes descriptors descriptorCount, weights, after =>
    RangedPublished id
      (fun item => ∃ (layer : Fin denseLayerCount) (down : NvFp4LinearWeight),
        layer.val = item.layerIndex ∧ weights.nvfp4 layer .down = some down ∧
          down.downScale6Sidecar ≠ 0)
      arena arenaBytes descriptors descriptorCount (weights.updateNvFp4 fun _ => setConsumerOrder 0)
      (fun items => weights.updateNvFp4 fun layer => setConsumerOrder (ownSidecar items layer))
      after
  | nvfp4GateUpCoupledFeed arena _, weights, after => CoupledFeedPublished arena weights after
  | nvfp4Marlin descriptors descriptorCount, weights, after =>
    MarlinPublished wholeCoreService descriptors descriptorCount weights after
  | p40Packed descriptors descriptorCount, weights, after =>
    PackedPublished descriptors descriptorCount weights after
  | p40PackedNvFp4 descriptors descriptorCount, weights, after =>
    PackedNvFp4Published descriptors descriptorCount weights after
  | p40Parity descriptors descriptorCount, weights, after =>
    ParityPublished descriptors descriptorCount weights after

lemma attach_settles (call : AttachCall) (weights : ModelWeights) :
    Settles weights (call.Published wholeCoreService weights)
      (call.attach wholeCoreService weights) := by
  cases call with
  | fp8M1Output => exact attachM1_settles
  | fp8QkvRegisterFeed => exact attachRegisterFeed_settles
  | fp8Supermatrix => exact attachSupermatrix_settles
  | fp8Marlin => exact attachFp8Marlin_settles
  | nvfp4DownScale6 => exact attachScale6_settles
  | nvfp4DownConsumerOrder => exact attachConsumerOrder_settles
  | nvfp4GateUpCoupledFeed => exact attachCoupledFeed_settles
  | nvfp4Marlin => exact attachMarlin_settles
  | p40Packed => exact attachPacked_settles
  | p40PackedNvFp4 => exact attachPackedNvFp4_settles
  | p40Parity => exact attachParity_settles

end Calls

section Access

variable {weights : ModelWeights} (u : NvFp4Update) (v : Fp8Update) (layer : Fin denseLayerCount)

lemma asNvFp4_mapNvFp4 (f : NvFp4LinearWeight → NvFp4LinearWeight) (weight : LinearWeight) :
    (weight.mapNvFp4 f).asNvFp4 = weight.asNvFp4.map f := by
  cases weight <;> rfl

lemma asFp8_mapFp8 (f : Fp8LinearWeight → Fp8LinearWeight) (weight : LinearWeight) :
    (weight.mapFp8 f).asFp8 = weight.asFp8.map f := by
  cases weight <;> rfl

lemma nvfp4_updateNvFp4 (slot : MlpSlot) :
    (weights.updateNvFp4 u).nvfp4 layer slot = (weights.nvfp4 layer slot).map (u layer slot) := by
  cases slot <;> exact asNvFp4_mapNvFp4 _ _

lemma nvfp4_updateFp8 (slot : MlpSlot) :
    (weights.updateFp8 v).nvfp4 layer slot = weights.nvfp4 layer slot := rfl

lemma fp8_updateNvFp4 (slot : AttentionSlot) :
    (weights.updateNvFp4 u).fp8 layer slot = weights.fp8 layer slot := rfl

lemma binding_mapSlots (attention : AttentionWeights)
    (f : AttentionSlot → LinearWeight → LinearWeight) (slot : AttentionSlot) :
    (attention.mapSlots f).binding slot = (attention.binding slot).map (f slot) := by
  cases attention <;> cases slot <;> rfl

lemma fp8_updateFp8 (slot : AttentionSlot) :
    (weights.updateFp8 v).fp8 layer slot = (weights.fp8 layer slot).map (v layer slot) := by
  have hbinding := binding_mapSlots (weights.layers layer).attention
    (fun slot => LinearWeight.mapFp8 (v layer slot)) slot
  unfold ModelWeights.fp8
  rw [Option.map_bind]
  refine (congrArg (Option.bind · LinearWeight.asFp8) hbinding).trans ?_
  rw [Option.bind_map]
  exact congrArg _ (funext fun weight => asFp8_mapFp8 _ _)

end Access

section ConsumerOrder

variable {weights after : ModelWeights} {wholeCoreService : Bool}

-- The consumer order of the weights goes with the packed scales of the same projection.
def ConsumerOrdered (weights : ModelWeights) : Prop :=
  ∀ layer down, weights.nvfp4 layer .down = some down →
    down.downConsumerOrderWeight ≠ 0 → down.downScale6Sidecar ≠ 0

lemma ConsumerOrdered.updateFp8 (h : ConsumerOrdered weights) (v : Fp8Update) :
    ConsumerOrdered (weights.updateFp8 v) := h

lemma ConsumerOrdered.updateNvFp4 {u : NvFp4Update}
    (h : ∀ layer down, weights.nvfp4 layer .down = some down →
      (u layer .down down).downConsumerOrderWeight ≠ 0 →
      (u layer .down down).downScale6Sidecar ≠ 0) : ConsumerOrdered (weights.updateNvFp4 u) := by
  intro layer down hdown
  rw [nvfp4_updateNvFp4] at hdown
  obtain ⟨old, hold, rfl⟩ := Option.map_eq_some_iff.mp hdown
  exact h layer old hold

lemma ConsumerOrdered.published (h : ConsumerOrdered weights) {call : AttachCall}
    (hcall : call.Published wholeCoreService weights after) : ConsumerOrdered after := by
  cases call with
  | fp8M1Output =>
    rw [hcall.views]
    exact h.updateFp8 _
  | fp8QkvRegisterFeed arena arenaBytes descriptors descriptorCount =>
    obtain hcount | hcount := Nat.eq_zero_or_pos descriptorCount
    · obtain ⟨-, -, -, rfl⟩ := hcall.detach hcount
      exact h.updateFp8 _
    · obtain ⟨read, -, -, -, rfl⟩ := hcall.attach hcount
      exact h.updateFp8 _
  | fp8Supermatrix arena =>
    by_cases harena : arena = 0
    · rw [hcall.detach harena]
      exact h.updateFp8 _
    · rw [hcall.attach harena]
      exact h.updateFp8 _
  | fp8Marlin arena =>
    by_cases harena : arena = 0
    · rw [hcall.detach harena]
      exact h.updateFp8 _
    · rw [hcall.attach harena]
      exact h.updateFp8 _
  | nvfp4DownScale6 arena arenaBytes descriptors descriptorCount =>
    obtain hcount | hcount := Nat.eq_zero_or_pos descriptorCount
    · obtain ⟨-, -, -, rfl⟩ := hcall.detach hcount
      exact ConsumerOrdered.updateNvFp4 fun layer down _ hconsumer => absurd rfl hconsumer
    · obtain ⟨read, -, -, -, rfl⟩ := hcall.attach hcount
      exact ConsumerOrdered.updateNvFp4 fun layer down _ hconsumer => absurd rfl hconsumer
  | nvfp4DownConsumerOrder arena arenaBytes descriptors descriptorCount =>
    obtain hcount | hcount := Nat.eq_zero_or_pos descriptorCount
    · obtain ⟨-, -, -, rfl⟩ := hcall.detach hcount
      exact ConsumerOrdered.updateNvFp4 fun layer down _ hconsumer => absurd rfl hconsumer
    · obtain ⟨read, -, -, htargets, rfl⟩ := hcall.attach hcount
      refine ConsumerOrdered.updateNvFp4 fun layer down hdown hconsumer => ?_
      have hown : ownSidecar ((List.range descriptorCount).map read) layer ≠ 0 := hconsumer
      unfold ownSidecar at hown
      cases hitem : own SidecarDescriptor.layerIndex ((List.range descriptorCount).map read)
          layer.val with
      | none =>
        rw [hitem] at hown
        exact absurd rfl hown
      | some item =>
        obtain ⟨hmember, hindex⟩ := own_some hitem
        obtain ⟨target, weight, htarget, hweight, hscale⟩ := htargets item hmember
        obtain rfl : target = layer := Fin.ext (htarget.trans hindex)
        rw [hweight] at hdown
        obtain rfl := Option.some.inj hdown
        exact hscale
  | nvfp4GateUpCoupledFeed arena =>
    by_cases harena : arena = 0
    · rw [hcall.detach harena]
      exact ConsumerOrdered.updateNvFp4 h
    · rw [hcall.attach harena]
      exact ConsumerOrdered.updateNvFp4 h
  | nvfp4Marlin descriptors descriptorCount =>
    obtain hcount | hcount := Nat.eq_zero_or_pos descriptorCount
    · obtain ⟨-, rfl⟩ := hcall.detach hcount
      exact ConsumerOrdered.updateNvFp4 h
    · obtain ⟨read, items, -, -, -, -, -, rfl⟩ := hcall.attach hcount
      exact ConsumerOrdered.updateNvFp4 h
  | p40Packed descriptors descriptorCount =>
    cases descriptors with
    | none =>
      rw [(hcall.detach rfl).2]
      refine ConsumerOrdered.updateFp8 ?_ _
      exact ConsumerOrdered.updateNvFp4 h
    | some read =>
      obtain ⟨items, -, -, -, rfl⟩ := hcall.attach read rfl
      refine ConsumerOrdered.updateFp8 ?_ _
      exact ConsumerOrdered.updateNvFp4 h
  | p40PackedNvFp4 descriptors descriptorCount =>
    cases descriptors with
    | none =>
      rw [(hcall.detach rfl).2]
      exact ConsumerOrdered.updateNvFp4 h
    | some read =>
      obtain ⟨items, -, -, -, rfl⟩ := hcall.attach read rfl
      exact ConsumerOrdered.updateNvFp4 h
  | p40Parity descriptors descriptorCount =>
    cases descriptors with
    | none =>
      rw [(hcall.detach rfl).2]
      exact ConsumerOrdered.updateNvFp4 h
    | some read =>
      obtain ⟨items, -, -, -, rfl⟩ := hcall.attach read rfl
      exact ConsumerOrdered.updateNvFp4 h

lemma attach_inv {inv : ModelWeights → Prop} {call : AttachCall} (h : inv weights)
    (hpublished : ∀ after, call.Published wholeCoreService weights after → inv after) :
    inv (call.attach wholeCoreService weights).2 := by
  obtain hrefused | ⟨after, haccepted, hafter⟩ := attach_settles wholeCoreService call weights
  · rw [hrefused]
    exact h
  · rw [haccepted]
    exact hpublished after hafter

lemma ConsumerOrdered.run (h : ConsumerOrdered weights) (calls : List AttachCall) :
    ConsumerOrdered (runCalls wholeCoreService calls weights) := by
  induction calls generalizing weights with
  | nil => exact h
  | cons call calls ih => exact ih (attach_inv h fun after hafter => h.published hafter)

end ConsumerOrder

section Fresh

def Fp8LinearWeight.bare (weight : Fp8LinearWeight) : Fp8LinearWeight where
  weight := weight.weight
  weightScaleDevice := weight.weightScaleDevice
  inputScaleDevice := weight.inputScaleDevice
  weightScale := weight.weightScale
  inputScale := weight.inputScale
  outputSize := weight.outputSize
  inputSize := weight.inputSize

def NvFp4LinearWeight.bare (weight : NvFp4LinearWeight) : NvFp4LinearWeight where
  packedWeight := weight.packedWeight
  blockScale := weight.blockScale
  weightScale2Device := weight.weightScale2Device
  inputScaleDevice := weight.inputScaleDevice
  weightScale2 := weight.weightScale2
  inputScale := weight.inputScale
  outputSize := weight.outputSize
  inputSize := weight.inputSize

-- Binding sets no view of a sidecar.
def LinearWeight.Fresh : LinearWeight → Prop
  | bf16 _ => True
  | fp8 weight => weight = weight.bare
  | nvfp4 weight => weight = weight.bare

def DecoderLayerWeights.bindings (layer : DecoderLayerWeights) : List LinearWeight :=
  mlpSlots.map layer.mlp.binding ++
    match layer.attention with
    | .linear attention =>
      [attention.inProjQkv, attention.inProjZ, attention.inProjA, attention.inProjB,
        attention.outProj]
    | .full attention => [attention.qProj, attention.kProj, attention.vProj, attention.oProj]

def ModelWeights.bindings (weights : ModelWeights) : List LinearWeight :=
  weights.lmHead :: (List.finRange denseLayerCount).flatMap fun layer =>
    (weights.layers layer).bindings

def ModelWeights.Fresh (weights : ModelWeights) : Prop :=
  ∀ binding ∈ weights.bindings, binding.Fresh

variable {weights : ModelWeights} {layer : Fin denseLayerCount}

lemma mem_bindings {binding : LinearWeight} :
    binding ∈ weights.bindings ↔
      binding = weights.lmHead ∨ ∃ layer, binding ∈ (weights.layers layer).bindings := by
  simp [ModelWeights.bindings]

lemma asNvFp4_some {binding : LinearWeight} {weight : NvFp4LinearWeight}
    (h : binding.asNvFp4 = some weight) : binding = .nvfp4 weight := by
  cases binding with
  | nvfp4 other => exact congrArg _ (Option.some.inj h)
  | bf16 other => cases h
  | fp8 other => cases h

lemma asFp8_some {binding : LinearWeight} {weight : Fp8LinearWeight}
    (h : binding.asFp8 = some weight) : binding = .fp8 weight := by
  cases binding with
  | fp8 other => exact congrArg _ (Option.some.inj h)
  | bf16 other => cases h
  | nvfp4 other => cases h

lemma mlp_mem_bindings (slot : MlpSlot) :
    (weights.layers layer).mlp.binding slot ∈ weights.bindings := by
  refine mem_bindings.2 (Or.inr ⟨layer, List.mem_append_left _ (List.mem_map_of_mem ?_)⟩)
  cases slot <;> decide

lemma attention_mem_bindings {slot : AttentionSlot} {binding : LinearWeight}
    (h : (weights.layers layer).attention.binding slot = some binding) :
    binding ∈ weights.bindings := by
  refine mem_bindings.2 (Or.inr ⟨layer, List.mem_append_right _ ?_⟩)
  revert h
  cases (weights.layers layer).attention <;> cases slot <;>
    simp +contextual [AttentionWeights.binding, eq_comm]

lemma nvfp4_mem_bindings {slot : MlpSlot} {weight : NvFp4LinearWeight}
    (h : weights.nvfp4 layer slot = some weight) : .nvfp4 weight ∈ weights.bindings := by
  rw [← asNvFp4_some h]
  exact mlp_mem_bindings slot

lemma fp8_mem_bindings {slot : AttentionSlot} {weight : Fp8LinearWeight}
    (h : weights.fp8 layer slot = some weight) : .fp8 weight ∈ weights.bindings := by
  obtain ⟨binding, hbinding, hweight⟩ := Option.bind_eq_some_iff.mp h
  rw [← asFp8_some hweight]
  exact attention_mem_bindings hbinding

lemma ModelWeights.Fresh.consumerOrdered (h : weights.Fresh) : ConsumerOrdered weights := by
  intro layer down hdown hconsumer
  have hbare : down = down.bare := h _ (nvfp4_mem_bindings hdown)
  rw [hbare] at hconsumer
  exact absurd rfl hconsumer

end Fresh

section Sample

def sampleFp8 (shape : ℕ × ℕ) : LinearWeight :=
  .fp8 { weight := 16, weightScaleDevice := 16, inputScaleDevice := 16, weightScale := 0x3f800000,
         inputScale := 0x3f800000, outputSize := shape.1, inputSize := shape.2 }

def sampleNvFp4 (slot : MlpSlot) : LinearWeight :=
  .nvfp4 { packedWeight := 16, blockScale := 16, weightScale2Device := 16, inputScaleDevice := 16,
           weightScale2 := 0x3f800000, inputScale := 0x3f800000, outputSize := (mlpShape slot).1,
           inputSize := (mlpShape slot).2 }

def sampleLayer (layer : ℕ) : DecoderLayerWeights where
  mlp := ⟨sampleNvFp4 .gate, sampleNvFp4 .up, sampleNvFp4 .down⟩
  attention :=
    if p40PackedIsFullLayer layer then
      .full ⟨sampleFp8 (slotShape .q), sampleFp8 (slotShape .k), sampleFp8 (slotShape .v),
        sampleFp8 (slotShape .o)⟩
    else
      .linear ⟨sampleFp8 (slotShape .qkv), sampleFp8 (slotShape .z), .bf16 {}, .bf16 {},
        sampleFp8 (slotShape .out)⟩

def sampleWeights : ModelWeights where
  lmHead := .bf16 {}
  layers := fun layer => sampleLayer layer

def samplePacked (index : ℕ) : P40PackedDescriptor where
  layerIndex := index / 2
  view :=
    if index % 2 = 0 then
      { payload := 2 ^ 40 + index * 2 ^ 27, payloadBytes := 100270080
        artifactIdentity := index + 1, role := .nvfp4GateUp, tactic := .nvfp4GateUpM64N256K64Gm4
        sourceCount := 2 }
    else
      { payload := 2 ^ 40 + index * 2 ^ 27, payloadBytes := 50135040
        artifactIdentity := index + 1, role := .nvfp4Down, tactic := .nvfp4DownM64N128K64AMajor
        sourceCount := 1 }

def attachSamplePacked : AttachCall := .p40PackedNvFp4 (some samplePacked) 128

lemma sampleWeights_fresh : sampleWeights.Fresh := by
  intro binding hbinding
  obtain rfl | ⟨layer, hlayer⟩ := mem_bindings.1 hbinding
  · trivial
  obtain hmlp | hattention := List.mem_append.mp hlayer
  · obtain ⟨slot, -, rfl⟩ := List.mem_map.mp hmlp
    cases slot <;> exact rfl
  · have hkind : (sampleWeights.layers layer).attention = (sampleLayer layer).attention := rfl
    rw [hkind] at hattention
    unfold sampleLayer at hattention
    split_ifs at hattention
    · simp only [List.mem_cons, List.not_mem_nil, or_false] at hattention
      obtain rfl | rfl | rfl | rfl := hattention <;> exact rfl
    · simp only [List.mem_cons, List.not_mem_nil, or_false] at hattention
      obtain rfl | rfl | rfl | rfl | rfl := hattention <;> first | exact rfl | trivial

lemma samplePacked_view {i : ℕ} (hi : i < 128) : ∃ plan,
    packedNvFp4RoleSlot (samplePacked i).view.role = some (i % 2) ∧
    p40PackedProjectionPlan (samplePacked i).view.role = some plan ∧
    packedViewFits (samplePacked i).view plan = true ∧
    packedInputFits (samplePacked i) (i % 2) = true ∧
    (samplePacked i).view.payload = 2 ^ 40 + i * 2 ^ 27 ∧
    (samplePacked i).view.payloadBytes ≤ 2 ^ 27 ∧
    (samplePacked i).view.artifactIdentity = i + 1 := by
  have hfits : ∀ (view : P40PackedView) (plan : P40PackedPlan) (bytes : ℕ),
      view.payload = 2 ^ 40 + i * 2 ^ 27 → view.payloadBytes = bytes → plan.payloadBytes = bytes →
      bytes ≤ 2 ^ 27 → view.artifactIdentity = i + 1 → view.tactic = plan.tactic →
      view.sourceCount = plan.sourceCount → scalarScalesFit view = true →
      packedViewFits view plan = true := by
    intro view plan bytes hpayload hbytes hplan hsmall hidentity htactic hcount hscales
    simp only [packedViewFits, decide_eq_true_eq, hpayload, hbytes, hplan, hidentity, htactic,
      hcount, hscales, p40PackedPayloadAlignment, pointerMaximum, true_and, and_true]
    omega
  unfold samplePacked
  rcases Nat.mod_two_eq_zero_or_one i with hslot | hslot
  · rw [if_pos hslot, hslot]
    exact ⟨_, rfl, rfl, hfits _ _ 100270080 rfl rfl (by decide) (by decide) rfl rfl rfl rfl, rfl,
      rfl, show 100270080 ≤ 2 ^ 27 by decide, rfl⟩
  · rw [if_neg (by omega), hslot]
    exact ⟨_, rfl, rfl, hfits _ _ 50135040 rfl rfl (by decide) (by decide) rfl rfl rfl rfl, rfl,
      rfl, show 50135040 ≤ 2 ^ 27 by decide, rfl⟩

lemma samplePacked_apart {i j : ℕ} (hij : i < j) (hj : j < 128) :
    PackedApart packedNvFp4RoleSlot (samplePacked i) (samplePacked j) := by
  obtain ⟨-, hslot, -, -, -, hpayload, hbytes, hidentity⟩ := samplePacked_view (hij.trans hj)
  obtain ⟨-, hslot', -, -, -, hpayload', -, hidentity'⟩ := samplePacked_view hj
  refine ⟨fun hkey => ?_, by omega, .inl ?_⟩
  · obtain ⟨hlayer, hsame⟩ := Prod.mk.inj hkey
    have hlayer : i / 2 = j / 2 := hlayer
    rw [hslot, hslot', Option.some.injEq] at hsame
    omega
  · simp only [payloadRange]
    omega

lemma samplePacked_taken {n : ℕ} (hn : n ≤ 128) :
    ((List.range n).map samplePacked).foldlM (checkPacked packedNvFp4RoleSlot)
        { views := fun _ _ => {} } =
      some (packedTable packedNvFp4RoleSlot ((List.range n).map samplePacked)) := by
  induction n with
  | zero => rfl
  | succ n ih =>
    obtain ⟨plan, hslot, hplan, hview, hinput, -⟩ := samplePacked_view hn
    have hindex : n / 2 < denseLayerCount := by
      unfold denseLayerCount
      omega
    rw [List.range_succ, List.map_append, List.foldlM_append, ih (by omega)]
    simp only [List.map_cons, List.map_nil, Option.bind_eq_bind, Option.bind_some, List.foldlM_cons]
    rw [checkPacked_taken hslot hplan hindex hinput hview ?_]
    · rfl
    intro other hother
    obtain ⟨i, hi, rfl⟩ := List.mem_map.mp hother
    exact samplePacked_apart (List.mem_range.mp hi) hn

lemma samplePacked_complete :
    allSeen (packedTable packedNvFp4RoleSlot ((List.range 128).map samplePacked)) 2 = true := by
  refine allSeen_iff.mpr fun layer hlayer slot hslot => ?_
  have hlayer : layer < 64 := hlayer
  obtain ⟨-, hrole, -⟩ := @samplePacked_view (2 * layer + slot) (by omega)
  refine List.any_eq_true.mpr ⟨samplePacked (2 * layer + slot),
    List.mem_map_of_mem (List.mem_range.mpr (by omega)), decide_eq_true ?_⟩
  have hindex : (samplePacked (2 * layer + slot)).layerIndex = layer := by
    simp only [samplePacked]
    omega
  rw [packedKey, hindex, hrole]
  congr 2
  omega

lemma attachSamplePacked_accepted : (attachSamplePacked.attach false sampleWeights).1 = true := by
  have hlayers : sampleWeights.everyLayer packedNvFp4LayerFits = true := by decide +kernel
  simp only [attachSamplePacked, AttachCall.attach, attachP40PackedNvFp4Sidecars]
  rw [if_neg (by decide), samplePacked_taken le_rfl]
  simp only [samplePacked_complete, hlayers, Bool.true_eq_false, or_self, if_false]

end Sample

theorem sidecar_attachment_exact (wholeCoreService : Bool) (bound : ModelWeights)
    (hbound : bound.Fresh) (calls : List AttachCall) (call : AttachCall) :
    let weights := runCalls wholeCoreService calls bound
    let result := call.attach wholeCoreService weights
    (result.1 = false → result.2 = weights) ∧
      (result.1 = true → call.Published wholeCoreService weights result.2) ∧
      ConsumerOrdered result.2 := by
  intro weights result
  have hsettles := attach_settles wholeCoreService call weights
  have hordered : ConsumerOrdered weights := hbound.consumerOrdered.run calls
  exact ⟨hsettles.refused, hsettles.accepted,
    attach_inv hordered fun after hafter => hordered.published hafter⟩

theorem sample_attachment_exact : sampleWeights.Fresh ∧
    (attachSamplePacked.attach false sampleWeights).1 = true ∧
    attachSamplePacked.Published false sampleWeights
      (attachSamplePacked.attach false sampleWeights).2 :=
  ⟨sampleWeights_fresh, attachSamplePacked_accepted,
    (sidecar_attachment_exact false sampleWeights sampleWeights_fresh []
      attachSamplePacked).2.1 attachSamplePacked_accepted⟩

end Qwen3xOrin.Weights
