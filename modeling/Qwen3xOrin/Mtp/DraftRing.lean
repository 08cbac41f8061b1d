import Qwen3xOrin.Library.Loops
import Qwen3xOrin.Mtp.DraftProjection

/-! What a slot of the ring of the draft projection holds once its copies have landed. -/

namespace Qwen3xOrin.Mtp

open Library SharedMemory
open Gdn (gridStride mem_gridStride gridStride_nodup)

section Swizzle

def rowOf (offset : ℕ) : ℕ := offset / 128

def colOf (offset : ℕ) : ℕ := offset % 128 ^^^ ((rowOf offset &&& 7) * 8)

lemma and_seven (row : ℕ) : row &&& 7 = row % 8 := Nat.and_two_pow_sub_one_eq_mod row 3

lemma swizzled_lt {row col : ℕ} (hcol : col < 128) : col ^^^ ((row &&& 7) * 8) < 128 := by
  rw [and_seven]
  exact Nat.xor_lt_two_pow (n := 7) hcol (by omega)

lemma rowOf_swizzled {row col : ℕ} (hcol : col < 128) : rowOf (swizzled row col) = row := by
  have hlt := @swizzled_lt row col hcol
  rw [rowOf, swizzled]
  omega

lemma colOf_swizzled {row col : ℕ} (hcol : col < 128) : colOf (swizzled row col) = col := by
  have hlt := @swizzled_lt row col hcol
  rw [colOf, rowOf_swizzled hcol, swizzled,
    show (row * 128 + (col ^^^ ((row &&& 7) * 8))) % 128 = col ^^^ ((row &&& 7) * 8) by omega,
    xor_twice]

lemma colOf_lt (offset : ℕ) : colOf offset < 128 := swizzled_lt (Nat.mod_lt _ (by decide))

lemma swizzled_of (offset : ℕ) : swizzled (rowOf offset) (colOf offset) = offset := by
  rw [swizzled, colOf, xor_twice, rowOf]
  omega

lemma swizzled_add {row col e : ℕ} (he : col % 8 + e < 8) :
    swizzled row (col + e) = swizzled row col + e := by
  rw [swizzled, swizzled, xor_add he, Nat.add_assoc]

lemma swizzled_bound {row col rows : ℕ} (hrow : row < rows) (hcol : col < 128) :
    swizzled row col < rows * 128 := by
  have hlt := @swizzled_lt row col hcol
  rw [swizzled]
  omega

end Swizzle

namespace DraftLaunch

variable {F : Type} {p : DraftLaunch F}

-- The token counts, the shapes and the orders of the launches.
structure Admitted (p : DraftLaunch F) : Prop where
  capacity : p.capacity = 8 ∨ p.capacity = 16 ∨ p.capacity = 32
  positive : 1 ≤ p.count
  count : p.count ≤ p.capacity
  rows : 64 ∣ p.n
  columns : 128 ∣ p.k
  tiles : 256 ≤ p.k
  weightsFit : p.n * p.k < 2 ^ 32
  inputFit : p.count * p.k < 2 ^ 32
  outputFit : p.count * p.n < 2 ^ 32
  threads : p.order.Perm (List.range p.blockDim)
  warps : p.warpOrder.Perm (List.range (p.blockDim / 32))
  blocks : p.blockOrder.Perm (List.range (p.n / 64))

section Slots

def InWeights (slot a : ℕ) : Prop := weightSlot slot ≤ a ∧ a < weightSlot slot + 64 * 128

def InInput (p : DraftLaunch F) (slot a : ℕ) : Prop :=
  p.inputSlot slot ≤ a ∧ a < p.inputSlot slot + p.capacity * 128

def InSlot (p : DraftLaunch F) (slot a : ℕ) : Prop := InWeights slot a ∨ p.InInput slot a

instance (slot a : ℕ) : Decidable (InWeights slot a) := inferInstanceAs (Decidable (_ ∧ _))

-- A row of a token, and zeros in place of a token past the count.
def tokenRow (p : DraftLaunch F) (token j : ℕ) : UInt16 :=
  if token < p.count then p.input (token * p.k + j) else 0

def weightOffset (slot a : ℕ) : ℕ := a - weightSlot slot

def inputOffset (p : DraftLaunch F) (slot a : ℕ) : ℕ := a - p.inputSlot slot

def slotData (p : DraftLaunch F) (block tile slot a : ℕ) : UInt16 :=
  if InWeights slot a then
    p.weights ((block * 64 + rowOf (weightOffset slot a)) * p.k +
      (tile * 128 + colOf (weightOffset slot a)))
  else p.tokenRow (rowOf (p.inputOffset slot a)) (tile * 128 + colOf (p.inputOffset slot a))

def slotOwner (p : DraftLaunch F) (slot a : ℕ) : ℕ :=
  if InWeights slot a then
    (rowOf (weightOffset slot a) * 16 + colOf (weightOffset slot a) / 8) % p.blockDim
  else rowOf (p.inputOffset slot a) * 16 + colOf (p.inputOffset slot a) / 8

lemma input_not_weights {slot slot' a : ℕ} (hslot : slot < 2) (h : p.InInput slot' a) :
    ¬ InWeights slot a := by
  unfold InInput inputSlot at h
  unfold InWeights weightSlot
  omega

lemma slots_apart {slot slot' a : ℕ} (hslot : slot < 2) (hslot' : slot' < 2) (hne : slot ≠ slot')
    (h : p.InSlot slot a) : ¬ p.InSlot slot' a := by
  rintro (h' | h')
  · obtain h | h := h
    · unfold InWeights weightSlot at h h'
      omega
    · exact input_not_weights hslot' h h'
  · obtain h | h := h
    · exact input_not_weights hslot h' h
    · unfold InInput inputSlot at h h'
      obtain rfl | rfl : slot = 0 ∨ slot = 1 := by omega
      · obtain rfl : slot' = 1 := by omega
        omega
      · obtain rfl : slot' = 0 := by omega
        omega

end Slots

section Copies

variable {block tile slot thread : ℕ}

def chunk (source : ℕ → UInt16) (destination offset validBytes : ℕ) : List (ℕ × UInt16) :=
  (List.range 8).map fun e =>
    (destination + e, if 2 * e < validBytes then source (offset + e) else 0)

def weightCopies (p : DraftLaunch F) (block tile slot thread : ℕ) : List (ℕ × UInt16) :=
  (gridStride thread p.blockDim (64 * 16)).flatMap fun i =>
    chunk p.weights (weightSlot slot + swizzled (i / 16) (i % 16 * 8))
      (u32 ((block * 64 + i / 16) * p.k) + u32 (tile * 128) + i % 16 * 8) 16

def inputCopies (p : DraftLaunch F) (tile slot thread : ℕ) : List (ℕ × UInt16) :=
  (gridStride thread p.blockDim (p.capacity * 16)).flatMap fun i =>
    chunk p.input (p.inputSlot slot + swizzled (i / 16) (i % 16 * 8))
      (if i / 16 < p.count then u32 (i / 16 * p.k) + u32 (tile * 128) + i % 16 * 8 else 0)
      (if i / 16 < p.count then 16 else 0)

def copies (p : DraftLaunch F) (block tile slot thread : ℕ) : List (ℕ × UInt16) :=
  p.weightCopies block tile slot thread ++ p.inputCopies tile slot thread

lemma copy16_issues (source : ℕ → UInt16) (destination offset validBytes : ℕ)
    (shared : SharedMemory UInt16) :
    copy16 source thread destination offset validBytes shared =
      shared.issueAll thread (chunk source destination offset validBytes) := by
  rw [copy16, issueAll, chunk, List.foldlM_map]

lemma stageWeights_issues (shared : SharedMemory UInt16) :
    p.stageWeights block tile slot thread shared =
      shared.issueAll thread (p.weightCopies block tile slot thread) := by
  rw [stageWeights, weightCopies, issueAll_flatMap]
  simp only [copy16_issues]

lemma stageInput_issues (shared : SharedMemory UInt16) :
    p.stageInput tile slot thread shared =
      shared.issueAll thread (p.inputCopies tile slot thread) := by
  rw [stageInput, inputCopies, issueAll_flatMap]
  simp only [copy16_issues]

lemma stageBlock_eq (shared : SharedMemory UInt16) :
    p.stageBlock block tile slot shared =
      shared.stageAll p.order (p.copies block tile slot) := by
  rw [stageBlock, stageAll]
  refine congrArg (fun f => p.order.foldlM f shared) (funext fun shared => funext fun thread => ?_)
  rw [stageDraft, stageWeights_issues, copies, issueAll_append]
  simp only [stageInput_issues]
  exact (Option.bind_assoc _ _ _).symm

end Copies

section Covered

variable {block tile slot thread : ℕ}

lemma mem_chunk {source : ℕ → UInt16} {destination offset validBytes : ℕ} {q : ℕ × UInt16} :
    q ∈ chunk source destination offset validBytes ↔ ∃ e < 8,
      q = (destination + e, if 2 * e < validBytes then source (offset + e) else 0) := by
  simp only [chunk, List.mem_map, List.mem_range, eq_comm]

lemma swizzled_chunk {row c e : ℕ} (he : e < 8) :
    swizzled row (c * 8) + e = swizzled row (c * 8 + e) :=
  (swizzled_add (by omega)).symm

lemma Admitted.blockDim_pos (h : p.Admitted) : 0 < p.blockDim := by
  obtain hc | hc | hc := h.capacity <;> rw [blockDim, hc] <;> decide

lemma tile_lt (htile : tile < p.k / 128) : tile * 128 + 128 ≤ p.k := by
  omega

lemma Admitted.columns_lt (h : p.Admitted) : p.k < 2 ^ 32 :=
  (Nat.le_mul_of_pos_left p.k h.positive).trans_lt h.inputFit

lemma Admitted.tile_u32 (h : p.Admitted) (htile : tile < p.k / 128) :
    u32 (tile * 128) = tile * 128 := by
  have htile' := tile_lt htile
  have hk := h.columns_lt
  exact Nat.mod_eq_of_lt (by omega)

lemma Admitted.row_u32 (h : p.Admitted) (hblock : block < p.n / 64) {row : ℕ} (hrow : row < 64) :
    u32 ((block * 64 + row) * p.k) = (block * 64 + row) * p.k := by
  refine Nat.mod_eq_of_lt (lt_of_le_of_lt (Nat.mul_le_mul_right _ ?_) h.weightsFit)
  omega

lemma Admitted.token_u32 (h : p.Admitted) {token : ℕ} (htoken : token < p.count) :
    u32 (token * p.k) = token * p.k :=
  Nat.mod_eq_of_lt (lt_of_le_of_lt (Nat.mul_le_mul_right _ htoken.le) h.inputFit)

lemma mem_weightCopies (h : p.Admitted) (hblock : block < p.n / 64) (htile : tile < p.k / 128)
    (hthread : thread < p.blockDim) {q : ℕ × UInt16} :
    q ∈ p.weightCopies block tile slot thread ↔ ∃ row < 64, ∃ col < 128,
      (row * 16 + col / 8) % p.blockDim = thread ∧
        q = (weightSlot slot + swizzled row col,
          p.weights ((block * 64 + row) * p.k + (tile * 128 + col))) := by
  simp only [weightCopies, List.mem_flatMap, mem_gridStride hthread, mem_chunk]
  constructor
  · rintro ⟨i, ⟨hi, howner⟩, e, he, rfl⟩
    refine ⟨i / 16, by omega, i % 16 * 8 + e, by omega, ?_, ?_⟩
    · rw [show i / 16 * 16 + (i % 16 * 8 + e) / 8 = i by omega, howner]
    · rw [if_pos (by omega), h.row_u32 hblock (by omega), h.tile_u32 htile,
        ← swizzled_chunk he, Nat.add_assoc, Nat.add_assoc, Nat.add_assoc]
  · rintro ⟨row, hrow, col, hcol, howner, rfl⟩
    refine ⟨row * 16 + col / 8, ⟨by omega, howner⟩, col % 8, Nat.mod_lt _ (by decide), ?_⟩
    rw [show (row * 16 + col / 8) / 16 = row by omega, show (row * 16 + col / 8) % 16 = col / 8 by omega,
      if_pos (by omega), h.row_u32 hblock hrow, h.tile_u32 htile, Nat.add_assoc (weightSlot slot),
      swizzled_chunk (Nat.mod_lt _ (by decide)), show col / 8 * 8 + col % 8 = col by omega,
      Nat.add_assoc, Nat.add_assoc, show col / 8 * 8 + col % 8 = col by omega]

lemma mem_inputCopies (h : p.Admitted) (htile : tile < p.k / 128) (hthread : thread < p.blockDim)
    {q : ℕ × UInt16} :
    q ∈ p.inputCopies tile slot thread ↔ ∃ row < p.capacity, ∃ col < 128,
      row * 16 + col / 8 = thread ∧
        q = (p.inputSlot slot + swizzled row col, p.tokenRow row (tile * 128 + col)) := by
  simp only [inputCopies, List.mem_flatMap, mem_gridStride hthread, mem_chunk, tokenRow]
  unfold blockDim at hthread ⊢
  constructor
  · rintro ⟨i, ⟨hi, howner⟩, e, he, rfl⟩
    rw [Nat.mod_eq_of_lt hi] at howner
    refine ⟨i / 16, by omega, i % 16 * 8 + e, by omega, by omega, ?_⟩
    by_cases hreal : i / 16 < p.count
    · simp only [if_pos hreal]
      rw [if_pos (by omega), h.token_u32 hreal, h.tile_u32 htile, ← swizzled_chunk he,
        Nat.add_assoc, Nat.add_assoc, Nat.add_assoc]
    · simp only [if_neg hreal]
      rw [if_neg (by omega), ← swizzled_chunk he, Nat.add_assoc]
  · rintro ⟨row, hrow, col, hcol, howner, rfl⟩
    refine ⟨row * 16 + col / 8, ⟨by omega, ?_⟩, col % 8, Nat.mod_lt _ (by decide), ?_⟩
    · rw [Nat.mod_eq_of_lt (by omega), howner]
    · rw [show (row * 16 + col / 8) / 16 = row by omega,
        show (row * 16 + col / 8) % 16 = col / 8 by omega, Nat.add_assoc (p.inputSlot slot),
        swizzled_chunk (Nat.mod_lt _ (by decide)), show col / 8 * 8 + col % 8 = col by omega]
      by_cases hreal : row < p.count
      · simp only [if_pos hreal]
        rw [if_pos (by omega), h.token_u32 hreal, h.tile_u32 htile, Nat.add_assoc, Nat.add_assoc,
          show col / 8 * 8 + col % 8 = col by omega]
      · simp only [if_neg hreal]
        rw [if_neg (by omega)]

lemma weightSlot_in {row col : ℕ} (hrow : row < 64) (hcol : col < 128) :
    InWeights slot (weightSlot slot + swizzled row col) := by
  have hbound := @swizzled_bound row col 64 hrow hcol
  unfold InWeights
  omega

lemma inputSlot_in {row col : ℕ} (hrow : row < p.capacity) (hcol : col < 128) :
    p.InInput slot (p.inputSlot slot + swizzled row col) := by
  have hbound := @swizzled_bound row col p.capacity hrow hcol
  unfold InInput
  omega

lemma slotData_weights {row col : ℕ} (hrow : row < 64) (hcol : col < 128) :
    p.slotData block tile slot (weightSlot slot + swizzled row col) =
      p.weights ((block * 64 + row) * p.k + (tile * 128 + col)) := by
  rw [slotData, if_pos (weightSlot_in hrow hcol), weightOffset, Nat.add_sub_cancel_left,
    rowOf_swizzled hcol, colOf_swizzled hcol]

lemma slotData_input (hslot : slot < 2) {row col : ℕ} (hrow : row < p.capacity)
    (hcol : col < 128) :
    p.slotData block tile slot (p.inputSlot slot + swizzled row col) =
      p.tokenRow row (tile * 128 + col) := by
  rw [slotData, if_neg (input_not_weights hslot (inputSlot_in hrow hcol)), inputOffset,
    Nat.add_sub_cancel_left, rowOf_swizzled hcol, colOf_swizzled hcol]

lemma slotOwner_weights {row col : ℕ} (hrow : row < 64) (hcol : col < 128) :
    p.slotOwner slot (weightSlot slot + swizzled row col) =
      (row * 16 + col / 8) % p.blockDim := by
  rw [slotOwner, if_pos (weightSlot_in hrow hcol), weightOffset, Nat.add_sub_cancel_left,
    rowOf_swizzled hcol, colOf_swizzled hcol]

lemma slotOwner_input (hslot : slot < 2) {row col : ℕ} (hrow : row < p.capacity)
    (hcol : col < 128) :
    p.slotOwner slot (p.inputSlot slot + swizzled row col) = row * 16 + col / 8 := by
  rw [slotOwner, if_neg (input_not_weights hslot (inputSlot_in hrow hcol)), inputOffset,
    Nat.add_sub_cancel_left, rowOf_swizzled hcol, colOf_swizzled hcol]

-- Every address of a slot is an element of one of its two tiles.
lemma inWeights_swizzled {a : ℕ} (ha : InWeights slot a) :
    ∃ row < 64, ∃ col < 128, a = weightSlot slot + swizzled row col := by
  obtain ⟨hle, hlt⟩ := ha
  refine ⟨rowOf (weightOffset slot a), ?_, colOf (weightOffset slot a), colOf_lt _, ?_⟩
  · unfold rowOf weightOffset
    omega
  · rw [swizzled_of, weightOffset]
    omega

lemma inInput_swizzled {a : ℕ} (ha : p.InInput slot a) :
    ∃ row < p.capacity, ∃ col < 128, a = p.inputSlot slot + swizzled row col := by
  obtain ⟨hle, hlt⟩ := ha
  refine ⟨rowOf (p.inputOffset slot a), ?_, colOf (p.inputOffset slot a), colOf_lt _, ?_⟩
  · unfold rowOf inputOffset
    omega
  · rw [swizzled_of, inputOffset]
    omega

lemma chunk_addresses (source : ℕ → UInt16) (destination offset validBytes : ℕ) :
    (chunk source destination offset validBytes).map Prod.fst =
      (List.range 8).map (destination + ·) := by
  rw [chunk, List.map_map]
  rfl

lemma chunk_nodup (destination : ℕ) : ((List.range 8).map (destination + ·)).Nodup :=
  List.nodup_range.map fun _ _ heq => Nat.add_left_cancel heq

lemma copies_nodup (h : p.Admitted) (hslot : slot < 2) (hblock : block < p.n / 64)
    (htile : tile < p.k / 128) (hthread : thread < p.blockDim) :
    ((p.copies block tile slot thread).map Prod.fst).Nodup := by
  rw [copies, List.map_append]
  refine List.nodup_append.mpr ⟨?_, ?_, fun a ha a' ha' heq => ?_⟩
  · simp only [weightCopies, List.map_flatMap, chunk_addresses]
    refine @nodup_flatMap_of_key _ _ _ _ (fun a => rowOf (weightOffset slot a) * 16 +
      colOf (weightOffset slot a) / 8) (gridStride_nodup h.blockDim_pos)
      (fun i _ => chunk_nodup _) fun i _ a ha => ?_
    obtain ⟨e, he, rfl⟩ := List.mem_map.mp ha
    rw [List.mem_range] at he
    rw [Nat.add_assoc, swizzled_chunk he, weightOffset, Nat.add_sub_cancel_left,
      rowOf_swizzled (by omega), colOf_swizzled (by omega)]
    omega
  · simp only [inputCopies, List.map_flatMap, chunk_addresses]
    refine @nodup_flatMap_of_key _ _ _ _ (fun a => rowOf (p.inputOffset slot a) * 16 +
      colOf (p.inputOffset slot a) / 8) (gridStride_nodup h.blockDim_pos)
      (fun i _ => chunk_nodup _) fun i _ a ha => ?_
    obtain ⟨e, he, rfl⟩ := List.mem_map.mp ha
    rw [List.mem_range] at he
    rw [Nat.add_assoc, swizzled_chunk he, inputOffset, Nat.add_sub_cancel_left,
      rowOf_swizzled (by omega), colOf_swizzled (by omega)]
    omega
  · obtain ⟨q, hq, rfl⟩ := List.mem_map.mp ha
    obtain ⟨q', hq', rfl⟩ := List.mem_map.mp ha'
    obtain ⟨row, hrow, col, hcol, -, rfl⟩ := (mem_weightCopies h hblock htile hthread).mp hq
    obtain ⟨row', hrow', col', hcol', -, rfl⟩ := (mem_inputCopies h htile hthread).mp hq'
    dsimp only at heq
    have hin := @inputSlot_in F p slot row' col' hrow' hcol'
    rw [← heq] at hin
    exact input_not_weights hslot hin (weightSlot_in hrow hcol)

lemma copies_cover (h : p.Admitted) (hslot : slot < 2) (hblock : block < p.n / 64)
    (htile : tile < p.k / 128) :
    Covers p.order (p.copies block tile slot) (p.InSlot slot) (p.slotOwner slot)
      (p.slotData block tile slot) := by
  have hmem (t : ℕ) : t ∈ p.order ↔ t < p.blockDim := by rw [h.threads.mem_iff, List.mem_range]
  refine ⟨fun t ht q hq => ?_, fun a ha => ?_, fun t ht =>
    copies_nodup h hslot hblock htile ((hmem t).mp ht)⟩
  · obtain hq | hq := List.mem_append.mp hq
    · obtain ⟨row, hrow, col, hcol, howner, rfl⟩ :=
        (mem_weightCopies h hblock htile ((hmem t).mp ht)).mp hq
      exact ⟨.inl (weightSlot_in hrow hcol), (slotOwner_weights hrow hcol).trans howner,
        slotData_weights hrow hcol⟩
    · obtain ⟨row, hrow, col, hcol, howner, rfl⟩ :=
        (mem_inputCopies h htile ((hmem t).mp ht)).mp hq
      exact ⟨.inr (inputSlot_in hrow hcol), (slotOwner_input hslot hrow hcol).trans howner,
        slotData_input hslot hrow hcol⟩
  · obtain ha | ha := ha
    · obtain ⟨row, hrow, col, hcol, rfl⟩ := inWeights_swizzled ha
      rw [slotOwner_weights hrow hcol, slotData_weights hrow hcol]
      have hthread := Nat.mod_lt (row * 16 + col / 8) h.blockDim_pos
      refine ⟨(hmem _).mpr hthread, List.mem_append_left _ ?_⟩
      exact (mem_weightCopies h hblock htile hthread).mpr ⟨row, hrow, col, hcol, rfl, rfl⟩
    · obtain ⟨row, hrow, col, hcol, rfl⟩ := inInput_swizzled ha
      rw [slotOwner_input hslot hrow hcol, slotData_input hslot hrow hcol]
      have hthread : row * 16 + col / 8 < p.blockDim := by
        unfold blockDim
        omega
      refine ⟨(hmem _).mpr hthread, List.mem_append_right _ ?_⟩
      exact (mem_inputCopies h htile hthread).mpr ⟨row, hrow, col, hcol, rfl, rfl⟩

end Covered

end DraftLaunch

end Qwen3xOrin.Mtp
