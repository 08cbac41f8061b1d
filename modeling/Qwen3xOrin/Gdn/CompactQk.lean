import Qwen3xOrin.Gdn.ConvAccesses
import Qwen3xOrin.Gdn.TokenTiles
import Qwen3xOrin.Library.LastWrite

/-! The kernel that also normalizes the query and key heads of its tile into the compact layout. -/

namespace Qwen3xOrin.Gdn

open Library

variable {𝔽 : Type} {ops : FloatOps 𝔽} {b : ConvBuffers} {m : ℕ → UInt16} {n : ℕ}

section Trees

-- Two strides in the registers of a lane, then five shuffles: the tree of the scalar kernel.
lemma warpSum_eq_scalar (values : ℕ → 𝔽) :
    warpSum ops (fun lane =>
      ops.add (ops.add (ops.mul (values (lane + 0 * 32)) (values (lane + 0 * 32)))
          (ops.mul (values (lane + 2 * 32)) (values (lane + 2 * 32))))
        (ops.add (ops.mul (values (lane + 1 * 32)) (values (lane + 1 * 32)))
          (ops.mul (values (lane + 3 * 32)) (values (lane + 3 * 32))))) 0 =
      scalarSquareSum ops values := by
  simp [warpSum, scalarSquareSum, shflDown]

-- Each stride halves the part of the array that still counts.
lemma strides_congr (e : ℕ) {f g : ℕ → 𝔽} (h : ∀ k < 2 ^ e, f k = g k) :
    ((List.range e).reverse.map (2 ^ ·)).foldl (fun (sums : ℕ → 𝔽) stride dimension =>
      if dimension < stride then ops.add (sums dimension) (sums (dimension + stride))
      else sums dimension) f 0 =
    ((List.range e).reverse.map (2 ^ ·)).foldl (fun (sums : ℕ → 𝔽) stride dimension =>
      if dimension < stride then ops.add (sums dimension) (sums (dimension + stride))
      else sums dimension) g 0 := by
  induction e generalizing f g with
  | zero => exact h 0 (by decide)
  | succ e ih =>
    rw [List.range_succ, List.reverse_append, List.reverse_singleton, List.singleton_append,
      List.map_cons, List.foldl_cons, List.foldl_cons]
    refine ih fun k hk => ?_
    rw [Nat.pow_succ] at h
    rw [if_pos hk, if_pos hk, h k (by omega), h (k + 2 ^ e) (by omega)]

lemma scalarSquareSum_congr {f g : ℕ → 𝔽} (h : ∀ k < 128, f k = g k) :
    scalarSquareSum ops f = scalarSquareSum ops g := by
  refine strides_congr 7 fun k hk => ?_
  rw [h k hk]

end Trees

section Stores

structure Stored where
  pointer : ℕ
  index : ℕ
  value : UInt16

def Device.apply (d : Device) (l : List Stored) : Device :=
  l.foldl (fun d s => (store s.pointer s.index s.value d).2) d

lemma apply_append (d : Device) (l l' : List Stored) :
    d.apply (l ++ l') = (d.apply l).apply l' := List.foldl_append

@[simp] lemma apply_shared (d : Device) (l : List Stored) : (d.apply l).shared = d.shared := by
  induction l generalizing d with
  | nil => rfl
  | cons s l ih => exact ih _

lemma apply_log (d : Device) (l : List Stored) :
    (d.apply l).log = d.log ++ l.map fun s => .write s.pointer s.index := by
  induction l generalizing d with
  | nil => exact (List.append_nil _).symm
  | cons s l ih => exact (ih _).trans (List.append_assoc _ _ _)

lemma apply_law : WriteLaw (fun d (s : Stored) => (store s.pointer s.index s.value d).2)
    Device.memory (fun s a => s.pointer + s.index = a) fun s _ => s.value where
  hit h := by rw [store_memory, h, Function.update_self]
  miss h := by rw [store_memory, Function.update_of_ne (Ne.symm h)]

lemma forM_stores {α : Type} {f : α → KernelM Unit} {g : α → List Stored} {l : List α}
    {shared : ℕ → UInt16}
    (h : ∀ a ∈ l, ∀ d : Device, d.shared = shared → (f a d).2 = d.apply (g a)) {d : Device}
    (hd : d.shared = shared) : (l.forM f d).2 = d.apply (l.flatMap g) := by
  induction l generalizing d with
  | nil => rfl
  | cons a l ih =>
    have hfirst := h a List.mem_cons_self d hd
    rw [List.flatMap_cons, apply_append, ← hfirst]
    refine ih (fun a' ha' => h a' (List.mem_cons_of_mem a ha')) ?_
    rw [hfirst, apply_shared, hd]

end Stores

section Warp

variable {eps : 𝔽} {block tile warp : ℕ}

def staged (ops : FloatOps 𝔽) (n : ℕ) (shared : ℕ → UInt16) (tile warp headInBlock dim : ℕ) : 𝔽 :=
  if tile * tokenTile + warp < n then
    ops.decodeBf16 (shared (warp * threads + headInBlock * qkHeadDimension + dim))
  else ops.zero

def normalized (ops : FloatOps 𝔽) (eps : 𝔽) (ownsQ : Prop) [Decidable ownsQ] (values : ℕ → 𝔽)
    (dim : ℕ) : UInt16 :=
  ops.encodeBf16
    (if ownsQ then normalizedQ ops eps values dim else normalizedK ops eps values dim)

def headStores (ops : FloatOps 𝔽) (b : ConvBuffers) (n : ℕ) (eps : 𝔽) (shared : ℕ → UInt16)
    (block tile warp headInBlock : ℕ) : List Stored :=
  (List.range 32).flatMap fun lane => (List.range 4).map fun item =>
    ⟨if block < 8 then b.compactQ else b.compactK,
      compactDestination (tile * tokenTile + warp) (block % 8 * 2 + headInBlock) +
        (lane + item * 32),
      normalized ops eps (block < 8) (staged ops n shared tile warp headInBlock)
        (lane + item * 32)⟩

def warpStores (ops : FloatOps 𝔽) (b : ConvBuffers) (n : ℕ) (eps : 𝔽) (shared : ℕ → UInt16)
    (block tile warp : ℕ) : List Stored :=
  (List.range 2).flatMap (headStores ops b n eps shared block tile warp)

lemma compactQkWarp_stores (d : Device) :
    (compactQkWarp ops b n eps block tile warp d).2 =
      d.apply (warpStores ops b n eps d.shared block tile warp) := by
  refine forM_stores (fun headInBlock _ d' hd' => ?_) rfl
  rw [headStores]
  simp only [bind_apply]
  refine forM_stores (fun lane _ d'' hd'' => ?_) hd'
  rw [← List.flatMap_singleton' ((List.range 4).map _), List.flatMap_map]
  refine forM_stores (fun item _ d''' hd''' => ?_) hd''
  have hshared : ((get : KernelM Device) d').1.shared = d.shared := hd'
  have hstaged (dim : ℕ) : (if tile * tokenTile + warp < n then
      ops.decodeBf16 (d.shared (warp * threads + headInBlock * qkHeadDimension + dim))
      else ops.zero) = staged ops n d.shared tile warp headInBlock dim := rfl
  simp only [hshared, hstaged, warpSum_eq_scalar]
  by_cases hq : block < 8
  · simp only [if_pos hq, normalized, normalizedQ]
    rfl
  · simp only [if_neg hq, normalized, normalizedK]
    rfl

end Warp

section Layout

variable {eps : 𝔽}

def compactToken (i : ℕ) : ℕ :=
  i / (qkHeadDimension * chunkSize * qkHeadCount) * chunkSize + i / qkHeadDimension % chunkSize

def compactHead (i : ℕ) : ℕ := i / (qkHeadDimension * chunkSize) % qkHeadCount

lemma compactDestination_lt {token head dim n : ℕ} (htoken : token < paddedTokenCount n)
    (hhead : head < qkHeadCount) (hdim : dim < qkHeadDimension) :
    compactDestination token head + dim <
      paddedTokenCount n * (qkHeadCount * qkHeadDimension) := by
  unfold compactDestination paddedTokenCount qkHeadCount qkHeadDimension chunkSize at *
  omega

lemma compactDestination_decodes {token head dim : ℕ} (hhead : head < qkHeadCount)
    (hdim : dim < qkHeadDimension) :
    compactToken (compactDestination token head + dim) = token ∧
      compactHead (compactDestination token head + dim) = head ∧
      (compactDestination token head + dim) % qkHeadDimension = dim := by
  unfold compactDestination compactToken compactHead qkHeadCount qkHeadDimension chunkSize at *
  omega

lemma compactDestination_encodes (i : ℕ) :
    compactDestination (compactToken i) (compactHead i) + i % qkHeadDimension = i := by
  unfold compactDestination compactToken compactHead qkHeadCount qkHeadDimension chunkSize at *
  omega

lemma compactToken_lt {i n : ℕ}
    (hi : i < paddedTokenCount n * (qkHeadCount * qkHeadDimension)) :
    compactToken i < paddedTokenCount n := by
  unfold compactToken paddedTokenCount qkHeadCount qkHeadDimension chunkSize at *
  omega

-- A row of the convolution as floating-point values, and zeros past the end of the request.
def convolvedRow (ops : FloatOps 𝔽) (b : ConvBuffers) (m : ℕ → UInt16)
    (n firstChannel token dim : ℕ) : 𝔽 :=
  if token < n then ops.decodeBf16 (convolved ops b m token (firstChannel + dim)) else ops.zero

def compactElement (ops : FloatOps 𝔽) (b : ConvBuffers) (m : ℕ → UInt16) (n : ℕ) (eps : 𝔽)
    (ownsQ : Prop) [Decidable ownsQ] (i : ℕ) : UInt16 :=
  normalized ops eps ownsQ (convolvedRow ops b m n
    ((if ownsQ then 0 else qkHeadCount * qkHeadDimension) + compactHead i * qkHeadDimension)
    (compactToken i)) (i % qkHeadDimension)

end Layout

section Block

variable {eps : 𝔽} {block tile : ℕ}

def compactPointer (b : ConvBuffers) (block : ℕ) : ℕ := if block < 8 then b.compactQ else b.compactK

def blockStores (ops : FloatOps 𝔽) (b : ConvBuffers) (n : ℕ) (eps : 𝔽) (shared : ℕ → UInt16)
    (block tile : ℕ) : List Stored :=
  if block < 16 then (List.range 8).flatMap (warpStores ops b n eps shared block tile) else []

lemma mem_blockStores {shared : ℕ → UInt16} {s : Stored} :
    s ∈ blockStores ops b n eps shared block tile ↔
      block < 16 ∧ ∃ warp < 8, ∃ headInBlock < 2, ∃ dim < 128, s =
        ⟨compactPointer b block,
          compactDestination (tile * tokenTile + warp) (block % 8 * 2 + headInBlock) + dim,
          normalized ops eps (block < 8) (staged ops n shared tile warp headInBlock) dim⟩ := by
  by_cases hblock : block < 16
  · rw [blockStores, if_pos hblock]
    simp only [warpStores, headStores, List.mem_flatMap, List.mem_map, List.mem_range, hblock,
      true_and]
    refine exists_congr fun warp => and_congr_right fun _ => exists_congr fun headInBlock =>
      and_congr_right fun _ => ⟨?_, ?_⟩
    · rintro ⟨lane, hlane, item, hitem, rfl⟩
      exact ⟨lane + item * 32, by omega, rfl⟩
    · rintro ⟨dim, hdim, rfl⟩
      refine ⟨dim % 32, by omega, dim / 32, by omega, ?_⟩
      rw [show dim % 32 + dim / 32 * 32 = dim by omega]
      rfl
  · simp [blockStores, hblock]

lemma compactHeads_apply {convolve : KernelM Unit} (d : Device) :
    ((do
      convolve
      if block < 16 then
        (List.range 8).forM (compactQkWarp ops b n eps block tile) : KernelM Unit) d).2 =
      (convolve d).2.apply (blockStores ops b n eps (convolve d).2.shared block tile) := by
  rw [bind_apply]
  by_cases hblock : block < 16
  · rw [if_pos hblock, blockStores, if_pos hblock]
    refine forM_stores (fun warp _ d' hd' => ?_) rfl
    rw [compactQkWarp_stores, hd']
  · rw [if_neg hblock, blockStores, if_neg hblock]
    rfl

-- The threads of a block up to its barrier.
def tileThreads (ops : FloatOps 𝔽) (b : ConvBuffers) (n block tile : ℕ) : KernelM Unit :=
  (List.range threads).forM (tokenTileThread ops b n (decide (block < 16)) block tile)

lemma compactKernel_apply (stale : ℕ → UInt16) (d : Device) :
    (causalConv1dSiluUpdateTokenParallelCompactQkKernel ops b n eps stale block tile d).2 =
      (tileThreads ops b n block tile { d with shared := stale }).2.apply
        (blockStores ops b n eps (tileThreads ops b n block tile { d with shared := stale }).2.shared
          block tile) := by
  rw [causalConv1dSiluUpdateTokenParallelCompactQkKernel, ← tileThreads, bind_apply]
  exact @compactHeads_apply 𝔽 ops b n eps block tile (tileThreads ops b n block tile)
    { d with shared := stale }

def CompactOwned (b : ConvBuffers) (block tile a : ℕ) : Prop :=
  block < 16 ∧ ∃ warp < 8, ∃ headInBlock < 2, ∃ dim < 128, a = compactPointer b block +
    (compactDestination (tile * tokenTile + warp) (block % 8 * 2 + headInBlock) + dim)

def compactLength (n : ℕ) : ℕ := paddedTokenCount n * (qkHeadCount * qkHeadDimension)

-- The compact heads of `n` tokens are apart from the tensors of a request of `total` tokens.
structure SeparateCompact (b : ConvBuffers) (n total : ℕ) : Prop where
  queryKey : Apart b.compactQ (compactLength n) b.compactK (compactLength n)
  queryRaw : Apart b.compactQ (compactLength n) b.raw (total * gdnQkvChannels)
  queryWeight : Apart b.compactQ (compactLength n) b.weight (gdnQkvChannels * gdnConvKernelWidth)
  queryHistory : Apart b.compactQ (compactLength n) b.history
    (gdnQkvChannels * gdnConvHistoryWidth)
  queryOutput : Apart b.compactQ (compactLength n) b.output (total * gdnQkvChannels)
  keyRaw : Apart b.compactK (compactLength n) b.raw (total * gdnQkvChannels)
  keyWeight : Apart b.compactK (compactLength n) b.weight (gdnQkvChannels * gdnConvKernelWidth)
  keyHistory : Apart b.compactK (compactLength n) b.history (gdnQkvChannels * gdnConvHistoryWidth)
  keyOutput : Apart b.compactK (compactLength n) b.output (total * gdnQkvChannels)

def InCompact (b : ConvBuffers) (n a : ℕ) : Prop :=
  (b.compactQ ≤ a ∧ a < b.compactQ + compactLength n) ∨
    (b.compactK ≤ a ∧ a < b.compactK + compactLength n)

-- Memory after the kernel that also fills the compact heads.
def afterCompact (ops : FloatOps 𝔽) (b : ConvBuffers) (m : ℕ → UInt16) (n : ℕ) (eps : 𝔽) (a : ℕ) :
    UInt16 :=
  if b.compactQ ≤ a ∧ a < b.compactQ + compactLength n then
    compactElement ops b m n eps True (a - b.compactQ)
  else if b.compactK ≤ a ∧ a < b.compactK + compactLength n then
    compactElement ops b m n eps False (a - b.compactK)
  else afterTokens ops b m n a

lemma afterCompact_query {i : ℕ} (hi : i < compactLength n) :
    afterCompact ops b m n eps (b.compactQ + i) = compactElement ops b m n eps True i := by
  rw [afterCompact, if_pos (by omega), Nat.add_sub_cancel_left]

lemma afterCompact_key (hs : SeparateCompact b n n) {i : ℕ} (hi : i < compactLength n) :
    afterCompact ops b m n eps (b.compactK + i) = compactElement ops b m n eps False i := by
  have hapart := hs.queryKey
  unfold Apart at hapart
  rw [afterCompact, if_neg (by omega), if_pos (by omega), Nat.add_sub_cancel_left]

lemma afterCompact_else {a : ℕ} (ha : ¬ InCompact b n a) :
    afterCompact ops b m n eps a = afterTokens ops b m n a := by
  obtain ⟨hq, hk⟩ := not_or.mp ha
  rw [afterCompact, if_neg hq, if_neg hk]

lemma afterCompact_pointer (hs : SeparateCompact b n n) {i : ℕ} (hi : i < compactLength n) :
    afterCompact ops b m n eps (compactPointer b block + i) =
      compactElement ops b m n eps (block < 8) i := by
  by_cases hq : block < 8
  · rw [compactPointer, if_pos hq, afterCompact_query hi]
    simp only [compactElement, hq]
  · rw [compactPointer, if_neg hq, afterCompact_key hs hi]
    simp only [compactElement, hq]

end Block

end Qwen3xOrin.Gdn
