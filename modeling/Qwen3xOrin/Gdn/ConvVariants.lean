import Qwen3xOrin.Gdn.ConvSpans

/-! Whole launches of the convolution kernels, with the blocks in any order. -/

namespace Qwen3xOrin.Gdn

open Library

variable {𝔽 : Type} {ops : FloatOps 𝔽} {b : ConvBuffers} {m : ℕ → UInt16} {n : ℕ}

section Channels

lemma owned_not_seen (hs : Separate b n) {v w a : ℕ} (hv : v < gdnQkvChannels)
    (hw : w < gdnQkvChannels) (hne : v ≠ w) (howned : Owned b n v a) : ¬ Seen b n w a := by
  unfold gdnQkvChannels at hv hw
  obtain ⟨t, ht, rfl⟩ | ⟨k, hk, rfl⟩ := howned
  · rintro (⟨t', ht', hseen⟩ | ⟨k', hk', hseen⟩ | ⟨k', hk', hseen⟩)
    · have hapart := hs.rawOutput
      simp only [Apart, gdnQkvChannels] at hapart hseen
      omega
    · have hapart := hs.outputWeight
      simp only [Apart, gdnQkvChannels, gdnConvKernelWidth] at hapart hseen
      omega
    · have hapart := hs.outputHistory
      simp only [Apart, gdnQkvChannels, gdnConvHistoryWidth] at hapart hseen
      omega
  · rintro (⟨t', ht', hseen⟩ | ⟨k', hk', hseen⟩ | ⟨k', hk', hseen⟩)
    · have hapart := hs.rawHistory
      simp only [Apart, gdnQkvChannels, gdnConvHistoryWidth] at hapart hseen hk
      omega
    · have hapart := hs.weightHistory
      simp only [Apart, gdnQkvChannels, gdnConvHistoryWidth, gdnConvKernelWidth] at hapart hseen hk
      omega
    · simp only [gdnConvHistoryWidth] at hseen hk hk'
      omega

def channelOrder (order : List (ℕ × ℕ)) : List ℕ :=
  order.flatMap fun block => (List.range threads).map (block.1 * threads + ·)

lemma mem_grid {width height : ℕ} {block : ℕ × ℕ} :
    block ∈ grid width height ↔ block.1 < width ∧ block.2 < height := by
  obtain ⟨x, y⟩ := block
  change (x, y) ∈ List.range width ×ˢ List.range height ↔ x < width ∧ y < height
  rw [List.mem_product, List.mem_range, List.mem_range]

lemma grid_nodup (width height : ℕ) : (grid width height).Nodup :=
  List.nodup_range.product List.nodup_range

lemma mem_channelOrder {order : List (ℕ × ℕ)} (h : order.Perm (grid blocks 1)) {c : ℕ} :
    c ∈ channelOrder order ↔ c < gdnQkvChannels := by
  simp only [channelOrder, List.mem_flatMap, List.mem_map, List.mem_range, h.mem_iff, mem_grid]
  constructor
  · rintro ⟨block, ⟨hblock, -⟩, thread, hthread, rfl⟩
    unfold blocks gdnQkvChannels threads at *
    omega
  · intro hc
    refine ⟨(c / threads, 0), ⟨?_, Nat.one_pos⟩, c % threads, Nat.mod_lt _ (by decide), ?_⟩
    all_goals
      unfold blocks gdnQkvChannels threads at *
      omega

lemma channelOrder_nodup {order : List (ℕ × ℕ)} (h : order.Perm (grid blocks 1)) :
    (channelOrder order).Nodup := by
  have hnodup : order.Nodup := h.nodup_iff.mpr (grid_nodup _ _)
  refine List.nodup_flatMap.mpr ⟨fun block _ => ?_, ?_⟩
  · exact List.nodup_range.map fun _ _ heq => Nat.add_left_cancel heq
  · refine hnodup.imp_of_mem fun {p q} hp hq hne => ?_
    have hp' := mem_grid.1 (h.mem_iff.mp hp)
    have hq' := mem_grid.1 (h.mem_iff.mp hq)
    intro c hpc hqc
    obtain ⟨t, ht, rfl⟩ := List.mem_map.mp hpc
    obtain ⟨t', ht', heq⟩ := List.mem_map.mp hqc
    rw [List.mem_range] at ht ht'
    refine hne (Prod.ext ?_ (by omega))
    unfold threads at *
    omega

lemma channels_after (hs : Separate b n) {body : ℕ → KernelM Unit} {d : Device}
    (hbody : ∀ c < gdnQkvChannels, ∀ d' : Device,
      (∀ a, Seen b n c a → d'.memory a = d.memory a) →
        Leaves ops b d.memory n (Owned b n c) d'.memory (body c d').2)
    {order : List (ℕ × ℕ)} (horder : order.Perm (grid blocks 1)) :
    ((channelOrder order).foldl (fun d c => (body c d).2) d).memory =
      afterTokens ops b d.memory n := by
  have hworks : Works Device.memory d (fun c d => (body c d).2) (Owned b n) (Seen b n)
      (afterTokens ops b d.memory n) (channelOrder order) :=
    { owned := fun c hc d' hd' a ha =>
        (hbody c ((mem_channelOrder horder).mp hc) d' hd' a).1 ha
      framed := fun c hc d' hd' a ha =>
        (hbody c ((mem_channelOrder horder).mp hc) d' hd' a).2 ha
      apart := fun v hv w hw hne a => owned_not_seen hs ((mem_channelOrder horder).mp hv)
        ((mem_channelOrder horder).mp hw) hne
      nodup := channelOrder_nodup horder }
  funext a
  by_cases howned : ∃ c ∈ channelOrder order, Owned b n c a
  · exact (hworks.read_foldl a).1 howned
  · refine ((hworks.read_foldl a).2 fun c hc hown => howned ⟨c, hc, hown⟩).trans ?_
    refine (afterTokens_else (fun t c ht hc heq => ?_) fun c k hc hk heq => ?_).symm
    · exact howned ⟨c, (mem_channelOrder horder).mpr hc, .inl ⟨t, ht, heq⟩⟩
    · exact howned ⟨c, (mem_channelOrder horder).mpr hc, .inr ⟨k, hk, heq⟩⟩

lemma runBlocks_channels {kernel body : ℕ → KernelM Unit}
    {order : List (ℕ × ℕ)} (hkernel : ∀ block ∈ order, ∀ d : Device,
      (kernel block.1 d).2 =
        ((List.range threads).map (block.1 * threads + ·)).foldl (fun d c => (body c d).2) d)
    (d : Device) :
    runBlocks order (fun block _ => kernel block) d =
      (channelOrder order).foldl (fun d c => (body c d).2) d := by
  rw [channelOrder, List.foldl_flatMap, runBlocks]
  induction order generalizing d with
  | nil => rfl
  | cons block order ih =>
    rw [List.foldl_cons, List.foldl_cons, hkernel block List.mem_cons_self]
    exact ih (fun other hother => hkernel other (List.mem_cons_of_mem block hother)) _

-- Blocks that leave what each of them writes, whatever the others do.
lemma runBlocks_works {kernel : ℕ → ℕ → KernelM Unit} {owns sees : ℕ × ℕ → ℕ → Prop}
    {result : ℕ → UInt16} {order : List (ℕ × ℕ)} {d : Device}
    (hleaves : ∀ p ∈ order, ∀ d' : Device, (∀ a, sees p a → d'.memory a = d.memory a) → ∀ a,
      (owns p a → (kernel p.1 p.2 d').2.memory a = result a) ∧
        (¬ owns p a → (kernel p.1 p.2 d').2.memory a = d'.memory a))
    (hapart : ∀ p ∈ order, ∀ q ∈ order, p ≠ q → ∀ a, owns p a → ¬ sees q a)
    (hnodup : order.Nodup) (a : ℕ) :
    ((∃ p ∈ order, owns p a) → (runBlocks order kernel d).memory a = result a) ∧
      ((∀ p ∈ order, ¬ owns p a) → (runBlocks order kernel d).memory a = d.memory a) := by
  have hworks : Works Device.memory d (fun p d => (kernel p.1 p.2 d).2) owns sees result order :=
    { owned := fun p hp d' hd' a ha => (hleaves p hp d' hd' a).1 ha
      framed := fun p hp d' hd' a ha => (hleaves p hp d' hd' a).2 ha
      apart := hapart
      nodup := hnodup }
  exact hworks.read_foldl a

lemma gridStride_single {start stride limit : ℕ} (hstart : start < limit) (hlimit : limit ≤ stride) :
    gridStride start stride limit = [start] := by
  obtain ⟨k, rfl⟩ : ∃ k, limit = k + 1 := ⟨limit - 1, by omega⟩
  rw [gridStride, List.range_succ_eq_map, List.map_cons, Nat.zero_mul,
    List.filter_cons_of_pos (by simpa using hstart), List.map_map, List.filter_eq_nil_iff.mpr ?_,
    Nat.add_zero]
  intro c hc
  obtain ⟨turn, -, rfl⟩ := List.mem_map.mp hc
  have hturn : stride ≤ (turn + 1) * stride := Nat.le_mul_of_pos_left _ (Nat.succ_pos turn)
  simp only [Function.comp_apply, decide_eq_true_eq, Nat.not_lt, Nat.succ_eq_add_one]
  omega

lemma stridedKernel_channels {body : ℕ → KernelM Unit} {block : ℕ} (hblock : block < blocks)
    (d : Device) :
    ((List.range threads).forM (stridedThread body block) d).2 =
      ((List.range threads).map (block * threads + ·)).foldl (fun d c => (body c d).2) d := by
  rw [forM_apply, List.foldl_map]
  refine List.foldl_ext _ _ _ fun d thread hthread => ?_
  rw [List.mem_range] at hthread
  have hc : block * threads + thread < gdnQkvChannels := by
    unfold blocks gdnQkvChannels threads at *
    omega
  rw [stridedThread, gridStride_single hc (by decide)]
  rfl

end Channels

section Spans

variable {order : List (ℕ × ℕ)}

lemma updateKernel_after (hs : Separate b 1) (horder : order.Perm (grid blocks 1)) (d : Device) :
    (runBlocks order (fun block _ => causalConv1dSiluUpdateKernel ops b block) d).memory =
      afterTokens ops b d.memory 1 := by
  have hkernel : ∀ block ∈ order, ∀ d : Device, (causalConv1dSiluUpdateKernel ops b block.1 d).2 =
      ((List.range threads).map (block.1 * threads + ·)).foldl
        (fun d c => (causalConv1dSiluUpdateChannel ops b c d).2) d := by
    intro block hblock d
    rw [causalConv1dSiluUpdateKernel,
      stridedKernel_channels (mem_grid.1 (horder.mem_iff.mp hblock)).1]
  rw [runBlocks_channels hkernel]
  exact channels_after hs (fun c hc d' hd' => updateChannel_leaves hs hc hd') horder

lemma tileKernel_after (hs : Separate b n) (horder : order.Perm (grid blocks 1)) (d : Device) :
    (runBlocks order (fun block _ => causalConv1dSiluUpdateTileKernel ops b n block) d).memory =
      afterTokens ops b d.memory n := by
  have hkernel : ∀ block ∈ order, ∀ d : Device,
      (causalConv1dSiluUpdateTileKernel ops b n block.1 d).2 =
        ((List.range threads).map (block.1 * threads + ·)).foldl
          (fun d c => (causalConv1dSiluUpdateTileChannel ops b n c d).2) d := by
    intro block hblock d
    rw [causalConv1dSiluUpdateTileKernel,
      stridedKernel_channels (mem_grid.1 (horder.mem_iff.mp hblock)).1]
  rw [runBlocks_channels hkernel]
  exact channels_after hs (fun c hc d' hd' => tileChannel_leaves hs hc hd') horder

lemma wholeSpanKernel_after (hs : Separate b n) (horder : order.Perm (grid blocks 1))
    (d : Device) :
    (runBlocks order (fun block _ => causalConv1dSiluUpdateWholeSpanKernel ops b n block)
      d).memory = afterTokens ops b d.memory n := by
  have hkernel : ∀ block ∈ order, ∀ d : Device,
      (causalConv1dSiluUpdateWholeSpanKernel ops b n block.1 d).2 =
        ((List.range threads).map (block.1 * threads + ·)).foldl
          (fun d c => (causalConv1dSiluUpdateWholeSpanChannel ops b n c d).2) d := by
    intro block _ d
    rw [causalConv1dSiluUpdateWholeSpanKernel, forM_apply, List.foldl_map]
  rw [runBlocks_channels hkernel]
  exact channels_after hs (fun c hc d' hd' => wholeSpanChannel_leaves hs hc hd') horder

end Spans

end Qwen3xOrin.Gdn
