import Qwen3xOrin.Library.Admission
import Qwen3xOrin.Weights.AttachInventory

/-! Updates of the bound weights, projection by projection. -/

namespace Qwen3xOrin.Weights

open Library

abbrev Fp8Update := Fin denseLayerCount → AttentionSlot → Fp8LinearWeight → Fp8LinearWeight

abbrev NvFp4Update := Fin denseLayerCount → MlpSlot → NvFp4LinearWeight → NvFp4LinearWeight

section Layers

variable (f g : AttentionSlot → Fp8LinearWeight → Fp8LinearWeight)
  (f' g' : MlpSlot → NvFp4LinearWeight → NvFp4LinearWeight) (layer : DecoderLayerWeights)

lemma LinearWeight.mapFp8_mapFp8 (f g : Fp8LinearWeight → Fp8LinearWeight) (weight : LinearWeight) :
    (weight.mapFp8 f).mapFp8 g = weight.mapFp8 fun weight => g (f weight) := by
  cases weight <;> rfl

lemma LinearWeight.mapNvFp4_mapNvFp4 (f g : NvFp4LinearWeight → NvFp4LinearWeight)
    (weight : LinearWeight) :
    (weight.mapNvFp4 f).mapNvFp4 g = weight.mapNvFp4 fun weight => g (f weight) := by
  cases weight <;> rfl

lemma LinearWeight.mapFp8_id (weight : LinearWeight) : (weight.mapFp8 fun weight => weight) = weight := by
  cases weight <;> rfl

lemma LinearWeight.mapNvFp4_id (weight : LinearWeight) :
    (weight.mapNvFp4 fun weight => weight) = weight := by
  cases weight <;> rfl

lemma DecoderLayerWeights.mapFp8_mapFp8 :
    (layer.mapFp8 f).mapFp8 g = layer.mapFp8 fun slot weight => g slot (f slot weight) := by
  obtain ⟨mlp, attention⟩ := layer
  cases attention <;>
    simp [DecoderLayerWeights.mapFp8, AttentionWeights.mapSlots, LinearWeight.mapFp8_mapFp8]

lemma DecoderLayerWeights.mapNvFp4_mapNvFp4 :
    (layer.mapNvFp4 f').mapNvFp4 g' = layer.mapNvFp4 fun slot weight => g' slot (f' slot weight) := by
  simp [DecoderLayerWeights.mapNvFp4, DenseMlpWeights.mapSlots, LinearWeight.mapNvFp4_mapNvFp4]

lemma DecoderLayerWeights.mapFp8_id : (layer.mapFp8 fun _ weight => weight) = layer := by
  obtain ⟨mlp, attention⟩ := layer
  cases attention <;>
    simp [DecoderLayerWeights.mapFp8, AttentionWeights.mapSlots, LinearWeight.mapFp8_id]

lemma DecoderLayerWeights.mapNvFp4_id : (layer.mapNvFp4 fun _ weight => weight) = layer := by
  simp [DecoderLayerWeights.mapNvFp4, DenseMlpWeights.mapSlots, LinearWeight.mapNvFp4_id]

end Layers

section Models

variable {weights : ModelWeights}

lemma ModelWeights.ext_layers {left right : ModelWeights} (hhead : left.lmHead = right.lmHead)
    (hlayers : ∀ layer, left.layers layer = right.layers layer) : left = right := by
  obtain ⟨head, layers⟩ := left
  obtain rfl : head = right.lmHead := hhead
  obtain rfl : layers = right.layers := funext hlayers
  rfl

lemma updateFp8_updateFp8 (u v : Fp8Update) :
    (weights.updateFp8 u).updateFp8 v =
      weights.updateFp8 fun layer slot weight => v layer slot (u layer slot weight) :=
  ModelWeights.ext_layers rfl fun layer => (weights.layers layer).mapFp8_mapFp8 _ _

lemma updateNvFp4_updateNvFp4 (u v : NvFp4Update) :
    (weights.updateNvFp4 u).updateNvFp4 v =
      weights.updateNvFp4 fun layer slot weight => v layer slot (u layer slot weight) :=
  ModelWeights.ext_layers rfl fun layer => (weights.layers layer).mapNvFp4_mapNvFp4 _ _

lemma updateNvFp4_updateFp8 (u : NvFp4Update) (v : Fp8Update) :
    (weights.updateFp8 v).updateNvFp4 u = (weights.updateNvFp4 u).updateFp8 v := rfl

lemma modifyLayer_mapFp8 (index : ℕ) (f : AttentionSlot → Fp8LinearWeight → Fp8LinearWeight) :
    weights.modifyLayer index (DecoderLayerWeights.mapFp8 f) =
      weights.updateFp8 fun layer slot weight =>
        if layer.val = index then f slot weight else weight := by
  refine ModelWeights.ext_layers rfl fun layer => ?_
  by_cases h : layer.val = index
  · simp [ModelWeights.modifyLayer, ModelWeights.updateFp8, ModelWeights.mapLayers, h]
  · simp [ModelWeights.modifyLayer, ModelWeights.updateFp8, ModelWeights.mapLayers, h,
      DecoderLayerWeights.mapFp8_id]

lemma modifyLayer_mapNvFp4 (index : ℕ) (f : MlpSlot → NvFp4LinearWeight → NvFp4LinearWeight) :
    weights.modifyLayer index (DecoderLayerWeights.mapNvFp4 f) =
      weights.updateNvFp4 fun layer slot weight =>
        if layer.val = index then f slot weight else weight := by
  refine ModelWeights.ext_layers rfl fun layer => ?_
  by_cases h : layer.val = index
  · simp [ModelWeights.modifyLayer, ModelWeights.updateNvFp4, ModelWeights.mapLayers, h]
  · simp [ModelWeights.modifyLayer, ModelWeights.updateNvFp4, ModelWeights.mapLayers, h,
      DecoderLayerWeights.mapNvFp4_id]

variable {δ : Type} {key : δ → ℕ} {items : List δ}

-- Publishing item by item gives every layer the views of its own item.
lemma foldl_updateFp8 (hkeys : (items.map key).Nodup)
    (f : δ → AttentionSlot → Fp8LinearWeight → Fp8LinearWeight) :
    items.foldl (fun weights item =>
        weights.modifyLayer (key item) (DecoderLayerWeights.mapFp8 (f item))) weights =
      weights.updateFp8 fun layer slot weight =>
        (own key items layer.val).elim weight fun item => f item slot weight := by
  have hloop (weights : ModelWeights) : items.foldl (fun weights item =>
        weights.modifyLayer (key item) (DecoderLayerWeights.mapFp8 (f item))) weights =
      weights.updateFp8 fun layer slot weight => items.foldl (fun weight item =>
        if layer.val = key item then f item slot weight else weight) weight := by
    clear hkeys
    induction items generalizing weights with
    | nil => exact ModelWeights.ext_layers rfl fun layer => ((weights.layers layer).mapFp8_id).symm
    | cons item items ih =>
      rw [List.foldl_cons, ih, modifyLayer_mapFp8, updateFp8_updateFp8]
      rfl
  rw [hloop]
  simp only [foldl_own hkeys]

lemma foldl_updateNvFp4 (hkeys : (items.map key).Nodup)
    (f : δ → MlpSlot → NvFp4LinearWeight → NvFp4LinearWeight) :
    items.foldl (fun weights item =>
        weights.modifyLayer (key item) (DecoderLayerWeights.mapNvFp4 (f item))) weights =
      weights.updateNvFp4 fun layer slot weight =>
        (own key items layer.val).elim weight fun item => f item slot weight := by
  have hloop (weights : ModelWeights) : items.foldl (fun weights item =>
        weights.modifyLayer (key item) (DecoderLayerWeights.mapNvFp4 (f item))) weights =
      weights.updateNvFp4 fun layer slot weight => items.foldl (fun weight item =>
        if layer.val = key item then f item slot weight else weight) weight := by
    clear hkeys
    induction items generalizing weights with
    | nil => exact ModelWeights.ext_layers rfl fun layer => ((weights.layers layer).mapNvFp4_id).symm
    | cons item items ih =>
      rw [List.foldl_cons, ih, modifyLayer_mapNvFp4, updateNvFp4_updateNvFp4]
      rfl
  rw [hloop]
  simp only [foldl_own hkeys]

end Models

end Qwen3xOrin.Weights
