import Mathlib.Data.List.GetD
import Mathlib.Data.List.Range
import Mathlib.Tactic.Common

/-! A stream that is consumed in blocks of one width, and arrays of a fixed size that stage it. -/

namespace Qwen3xOrin.Library

section Store

variable {α : Type} {size position : ℕ} {values : List α}

-- The array with the values written from `position` on; what does not fit is not written.
def store (array : Vector α size) (position : ℕ) (values : List α) : Vector α size :=
  Vector.ofFn fun i : Fin size =>
    if position ≤ i ∧ i < position + values.length then values.getD (i - position) array[i]
    else array[i]

lemma store_getElem (array : Vector α size) {i : ℕ} (h : i < size) :
    (store array position values)[i] =
      if position ≤ i ∧ i < position + values.length then values.getD (i - position) array[i]
      else array[i] := by
  simp only [store, Vector.getElem_ofFn, Fin.getElem_fin]

lemma store_take (array : Vector α size) (h : position + values.length ≤ size) :
    (store array position values).toList.take (position + values.length) =
      array.toList.take position ++ values := by
  have hbefore : (array.toList.take position).length = position := by
    rw [List.length_take, Vector.length_toList]
    omega
  refine List.ext_getElem (by simp; omega) fun i hi hi' => ?_
  have hlt : i < position + values.length := by
    rw [List.length_take] at hi
    omega
  rw [List.getElem_take, Vector.getElem_toList, store_getElem]
  by_cases hold : i < position
  · rw [if_neg (by omega), List.getElem_append_left (by omega), List.getElem_take,
      Vector.getElem_toList]
  · rw [if_pos (by omega), List.getElem_append_right (by omega),
      List.getD_eq_getElem _ _ (by omega)]
    simp only [hbefore]

lemma store_drop (array : Vector α size) :
    (store array position values).toList.drop (position + values.length) =
      array.toList.drop (position + values.length) := by
  refine List.ext_getElem (by simp) fun i hi hi' => ?_
  rw [List.getElem_drop, List.getElem_drop, Vector.getElem_toList, Vector.getElem_toList,
    store_getElem, if_neg (by omega)]

lemma store_toList (array : Vector α size) (h : position + values.length ≤ size) :
    (store array position values).toList = array.toList.take position ++ values ++
      array.toList.drop (position + values.length) := by
  rw [← store_take array h, ← store_drop array, List.take_append_drop]

-- A loop that stores the values of one turn after those of the last.
lemma store_each (array : Vector α size) (own : ℕ → List α) (width count : ℕ)
    (hown : ∀ i < count, (own i).length = width) (h : count * width ≤ size) :
    ((List.range count).foldl (fun array i => store array (i * width) (own i)) array).toList.take
      (count * width) = (List.range count).flatMap own := by
  induction count with
  | zero => simp
  | succ count ih =>
    rw [Nat.succ_mul] at h
    have hbefore := ih (fun i hi => hown i (Nat.lt_succ_of_lt hi)) (by omega)
    have hlast := hown count (Nat.lt_succ_self count)
    rw [List.range_succ, List.foldl_append, List.foldl_cons, List.foldl_nil, List.flatMap_append,
      List.flatMap_singleton, ← hbefore, Nat.succ_mul]
    have htake := @store_take _ _ (count * width) (own count) ((List.range count).foldl
      (fun array i => store array (i * width) (own i)) array) (by rw [hlast]; exact h)
    rwa [hlast] at htake

end Store

section Blocks

variable {σ β : Type} (consume : σ → List β → σ) (width : ℕ) {s : σ} {block bytes rest : List β}

-- The state after the whole blocks of a stream.
def absorb (s : σ) (bytes : List β) : σ :=
  (List.range (bytes.length / width)).foldl
    (fun s i => consume s ((bytes.drop (i * width)).take width)) s

variable {consume width}

lemma absorb_short (h : bytes.length < width) : absorb consume width s bytes = s := by
  rw [absorb, Nat.div_eq_of_lt h]
  rfl

lemma absorb_cons (hwidth : 0 < width) (hblock : block.length = width) :
    absorb consume width s (block ++ bytes) = absorb consume width (consume s block) bytes := by
  have hlength : (block ++ bytes).length / width = bytes.length / width + 1 := by
    rw [List.length_append, hblock, Nat.add_div_left _ hwidth]
  rw [absorb, hlength, List.range_succ_eq_map, List.foldl_cons, List.foldl_map, Nat.zero_mul,
    List.drop_zero, ← hblock, List.take_left, hblock, absorb]
  refine List.foldl_ext _ _ _ fun s i _ => ?_
  rw [Nat.succ_mul, Nat.add_comm, ← List.drop_drop, ← hblock, List.drop_left, hblock]

lemma absorb_block (hwidth : 0 < width) (hblock : block.length = width) :
    absorb consume width s block = consume s block := by
  rw [← List.append_nil block, absorb_cons hwidth hblock, absorb_short (by simpa using hwidth),
    List.append_nil]

-- Whole blocks may be absorbed before the rest of the stream.
lemma absorb_append {count : ℕ} (hwidth : 0 < width) (hbytes : bytes.length = count * width) :
    absorb consume width s (bytes ++ rest) =
      absorb consume width (absorb consume width s bytes) rest := by
  induction count generalizing s bytes with
  | zero =>
    rw [Nat.zero_mul] at hbytes
    have hnone : absorb consume width s [] = s := absorb_short (by simpa using hwidth)
    rw [List.length_eq_zero_iff.mp hbytes, List.nil_append, hnone]
  | succ count ih =>
    rw [Nat.succ_mul] at hbytes
    have htake : (bytes.take width).length = width := by
      rw [List.length_take]
      omega
    rw [← List.take_append_drop width bytes, List.append_assoc, absorb_cons hwidth htake,
      absorb_cons hwidth htake]
    exact ih (by rw [List.length_drop]; omega)

-- What is left of the stream is shorter than a block.
structure Absorbed (consume : σ → List β → σ) (width : ℕ) (start : σ) (stream : List β) (s : σ)
    (rest : List β) : Prop where
  state : s = absorb consume width start stream
  split : ∃ blocks count, stream = blocks ++ rest ∧ blocks.length = count * width
  short : rest.length < width

lemma Absorbed.refl (hwidth : 0 < width) (start : σ) :
    Absorbed consume width start [] start [] where
  state := (absorb_short (by simpa using hwidth)).symm
  split := ⟨[], 0, rfl, (Nat.zero_mul _).symm⟩
  short := hwidth

lemma Absorbed.eq_blocks {start : σ} {stream : List β} (hwidth : 0 < width)
    (h : Absorbed consume width start stream s rest) :
    ∃ blocks count, stream = blocks ++ rest ∧ blocks.length = count * width ∧
      s = absorb consume width start blocks := by
  obtain ⟨blocks, count, hstream, hblocks⟩ := h.split
  refine ⟨blocks, count, hstream, hblocks, ?_⟩
  rw [h.state, hstream, absorb_append hwidth hblocks, absorb_short h.short]

lemma Absorbed.length_mod {start : σ} {stream : List β}
    (h : Absorbed consume width start stream s rest) : stream.length % width = rest.length := by
  obtain ⟨blocks, count, hstream, hblocks⟩ := h.split
  rw [hstream, List.length_append, hblocks, Nat.mul_add_mod_self_right, Nat.mod_eq_of_lt h.short]

-- More bytes that do not fill the block, and bytes that do.
lemma Absorbed.stage {start : σ} {stream bytes : List β}
    (h : Absorbed consume width start stream s rest) (hshort : rest.length + bytes.length < width)
    (hwidth : 0 < width) :
    Absorbed consume width start (stream ++ bytes) s (rest ++ bytes) := by
  obtain ⟨blocks, count, hstream, hblocks, hstate⟩ := h.eq_blocks hwidth
  have hrest : (rest ++ bytes).length < width := by
    rw [List.length_append]
    exact hshort
  refine ⟨?_, ⟨blocks, count, by rw [hstream, List.append_assoc], hblocks⟩, hrest⟩
  rw [hstream, List.append_assoc, absorb_append hwidth hblocks, absorb_short hrest, hstate]

lemma Absorbed.fill {start : σ} {stream bytes : List β}
    (h : Absorbed consume width start stream s rest) (hfull : rest.length + bytes.length = width)
    (hwidth : 0 < width) :
    Absorbed consume width start (stream ++ bytes) (consume s (rest ++ bytes)) [] := by
  obtain ⟨blocks, count, hstream, hblocks, hstate⟩ := h.eq_blocks hwidth
  have hlast : (rest ++ bytes).length = width := by
    rw [List.length_append]
    exact hfull
  refine ⟨?_, ⟨blocks ++ (rest ++ bytes), count + 1, ?_, ?_⟩, hwidth⟩
  · rw [hstream, List.append_assoc, absorb_append hwidth hblocks, absorb_block hwidth hlast, hstate]
  · rw [hstream, List.append_assoc, List.append_nil]
  · rw [List.length_append, hblocks, hlast, Nat.succ_mul]

end Blocks

end Qwen3xOrin.Library
