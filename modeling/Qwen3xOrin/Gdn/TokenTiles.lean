import Qwen3xOrin.Gdn.ConvVariants

/-! The kernels that give each block a tile of eight tokens. Only the first tile reads the stored
history, which it overwrites; the others read the raw rows before them. -/

namespace Qwen3xOrin.Gdn

open Library

variable {𝔽 : Type} {ops : FloatOps 𝔽} {b : ConvBuffers} {m : ℕ → UInt16} {n : ℕ}

section Thread

variable {c base : ℕ}

def TileSeen (b : ConvBuffers) (n c base a : ℕ) : Prop :=
  (∃ t < n, a = b.raw + (t * gdnQkvChannels + c)) ∨
    (∃ k < 4, a = b.weight + (c * gdnConvKernelWidth + k)) ∨
    base = 0 ∧ ∃ k < 3, a = b.history + (c * gdnConvHistoryWidth + k)

def TileOwned (b : ConvBuffers) (n c base a : ℕ) : Prop :=
  (∃ t, base ≤ t ∧ t < base + tokenTile ∧ t < n ∧ a = b.output + (t * gdnQkvChannels + c)) ∨
    base = 0 ∧ ∃ k < 3, a = b.history + (c * gdnConvHistoryWidth + k)

lemma publishHistory_memory (hs : Separate b n) (hc : c < gdnQkvChannels) (hn : 1 ≤ n)
    {d : Device} (hraw : ∀ t < n, d.memory (b.raw + (t * gdnQkvChannels + c)) =
      m (b.raw + (t * gdnQkvChannels + c))) :
    (publishHistory b n c (samples b m c 0) d).2.memory =
      (storeHistory b c (samples b m c n) d).2.memory := by
  have hne (t k : ℕ) (ht : t < n) (hk : k < 3) :
      b.raw + (t * gdnQkvChannels + c) ≠ b.history + (c * gdnConvHistoryWidth + k) := by
    have hapart := hs.rawHistory
    unfold Apart gdnQkvChannels gdnConvHistoryWidth at *
    omega
  have hread (t : ℕ) (ht : t < n) : d.memory (b.raw + (t * gdnQkvChannels + c)) =
      sample b m c (t + 3) := by rw [hraw t ht, sample_raw]
  have hfirst (t : ℕ) (ht : t < n) :
      b.raw + (t * gdnQkvChannels + c) ≠ b.history + c * gdnConvHistoryWidth := hne t 0 ht (by decide)
  simp only [publishHistory, storeHistory, samples]
  by_cases hlong : gdnConvHistoryWidth ≤ n
  · have hlong' : 3 ≤ n := hlong
    simp only [if_pos hlong, bind_apply, load_value, load_memory, store_memory]
    rw [Function.update_of_ne (hne (n - 1) 1 (by omega) (by decide)),
      Function.update_of_ne (hfirst (n - 1) (by omega)),
      Function.update_of_ne (hfirst (n - 2) (by omega)), hread (n - 3) (by omega),
      hread (n - 2) (by omega), hread (n - 1) (by omega), show n - 3 + 3 = n by omega,
      show n - 2 + 3 = n + 1 by omega, show n - 1 + 3 = n + 2 by omega]
  · rw [if_neg hlong]
    have hshort : ¬ 3 ≤ n := hlong
    by_cases htwo : n = 2
    · subst htwo
      have h0 := hread 0 (by decide)
      have h1 := hread 1 (by decide)
      rw [Nat.zero_mul, Nat.zero_add] at h0
      rw [Nat.one_mul] at h1
      have hne0 := hfirst 0 (by decide)
      have hne1 := hfirst 1 (by decide)
      have hne1' := hne 1 1 (by decide) (by decide)
      rw [Nat.zero_mul, Nat.zero_add] at hne0
      rw [Nat.one_mul] at hne1 hne1'
      simp only [if_pos, bind_apply, load_value, load_memory, store_memory]
      rw [Function.update_of_ne hne1', Function.update_of_ne hne1, Function.update_of_ne hne0, h0,
        h1]
    · obtain rfl : n = 1 := by omega
      have h0 := hread 0 (by decide)
      rw [Nat.zero_mul, Nat.zero_add] at h0
      have hne0 := hfirst 0 (by decide)
      have hne0' := hne 0 1 (by decide) (by decide)
      rw [Nat.zero_mul, Nat.zero_add] at hne0 hne0'
      simp only [if_neg htwo, bind_apply, load_value, load_memory, store_memory]
      rw [Function.update_of_ne hne0', Function.update_of_ne hne0, h0]

lemma publishHistory_shared (history : History) (d : Device) :
    (publishHistory b n c history d).2.shared = d.shared := by
  unfold publishHistory
  split_ifs <;> rfl

def HistoryOwned (b : ConvBuffers) (c base a : ℕ) : Prop :=
  base = 0 ∧ ∃ k < 3, a = b.history + (c * gdnConvHistoryWidth + k)

structure TileStarts (ops : FloatOps 𝔽) (b : ConvBuffers) (m : ℕ → UInt16) (n c base : ℕ)
    (d : Device) (r : History × Device) : Prop where
  registers : base < n → r.1 = samples b m c base
  leaves : Leaves ops b m n (HistoryOwned b c base) d.memory r.2
  shared : r.2.shared = d.shared

lemma tileHistory_starts (hs : Separate b n) (hc : c < gdnQkvChannels) (hn : 1 ≤ n)
    (hbase : base = 0 ∨ 3 ≤ base) {d : Device}
    (hd : ∀ a, TileSeen b n c base a → d.memory a = m a) :
    TileStarts ops b m n c base d (tileHistory b n c base d) := by
  have hraw (t : ℕ) (ht : t < n) : d.memory (b.raw + (t * gdnQkvChannels + c)) =
      m (b.raw + (t * gdnQkvChannels + c)) := hd _ (.inl ⟨t, ht, rfl⟩)
  by_cases hzero : base = 0
  · subst hzero
    have hhistory := @loadHistory_value b m c d
      fun k hk => hd _ (.inr (.inr ⟨rfl, k, hk, rfl⟩))
    have hmemory := @publishHistory_memory b m n c hs hc hn (loadHistory b c d).2 hraw
    obtain ⟨hstored, hkept⟩ := @storeHistory_memory b c (samples b m c n) (loadHistory b c d).2
    simp only [tileHistory, if_true, bind_apply, pure_apply, hhistory]
    refine ⟨fun _ => rfl, fun a => ⟨?_, fun ha => ?_⟩, publishHistory_shared _ _⟩
    · rintro ⟨-, k, hk, rfl⟩
      rw [hmemory, hstored k hk, afterTokens_history hs hc hk]
      interval_cases k
      all_goals rfl
    · rw [hmemory, hkept a fun k hk heq => ha ⟨rfl, k, hk, heq⟩]
      rfl
  · have hkeeps (r : Device) (hr : r.memory = d.memory) :
        Leaves ops b m n (HistoryOwned b c base) d.memory r := by
      intro a
      exact ⟨fun ha => absurd ha.1 hzero, fun _ => congrFun hr a⟩
    rw [tileHistory, if_neg hzero]
    by_cases hreal : base < n
    · rw [if_pos hreal]
      refine ⟨fun _ => ?_, hkeeps _ rfl, rfl⟩
      have h0 := (hraw (base - 3) (by omega)).trans sample_raw.symm
      have h1 := (hraw (base - 2) (by omega)).trans sample_raw.symm
      have h2 := (hraw (base - 1) (by omega)).trans sample_raw.symm
      rw [show base - 3 + 3 = base by omega] at h0
      rw [show base - 2 + 3 = base + 1 by omega] at h1
      rw [show base - 1 + 3 = base + 2 by omega] at h2
      simp only [bind_apply, pure_apply, load_value, load_memory]
      rw [show (base - 3) * gdnQkvChannels + c + gdnQkvChannels =
          (base - 2) * gdnQkvChannels + c by unfold gdnQkvChannels; omega,
        show (base - 3) * gdnQkvChannels + c + 2 * gdnQkvChannels =
          (base - 1) * gdnQkvChannels + c by unfold gdnQkvChannels; omega, h0, h1, h2]
      rfl
    · rw [if_neg hreal]
      exact ⟨fun h => absurd h hreal, hkeeps _ rfl, rfl⟩

-- The loop over the tokens of a tile, after `k` of them.
structure TileRuns (ops : FloatOps 𝔽) (b : ConvBuffers) (m : ℕ → UInt16) (n c base thread : ℕ)
    (share : Bool) (k : ℕ) (d : Device) (r : History × Device) : Prop where
  registers : base + k < n → r.1 = samples b m c (base + k)
  memory : Convolves ops b m c d.memory base (min k (n - base)) r.2
  staged : share = true → ∀ i < k, base + i < n →
    r.2.shared (i * threads + thread) = convolved ops b m (base + i) c
  shared : ∀ j, (share = true → ∀ i < k, base + i < n → j ≠ i * threads + thread) →
    r.2.shared j = d.shared j

lemma TileRuns.step (hs : Separate b n) (hc : c < gdnQkvChannels) {share : Bool} {thread k : ℕ}
    {d : Device} (hweight : ∀ i < 4, d.memory (b.weight + (c * gdnConvKernelWidth + i)) =
      m (b.weight + (c * gdnConvKernelWidth + i)))
    (hraw : ∀ t < n, d.memory (b.raw + (t * gdnQkvChannels + c)) =
      m (b.raw + (t * gdnQkvChannels + c))) {history : History} {d' : Device}
    (h : TileRuns ops b m n c base thread share k d (history, d')) :
    TileRuns ops b m n c base thread share (k + 1) d
      (tokenTileStep ops b n share c thread base (weightsAt ops b m c) history k d') := by
  by_cases hreal : base + k < n
  · have hmemory := h.memory
    rw [show min k (n - base) = k by omega] at hmemory
    have hhistory : history = samples b m c (base + k) := h.registers hreal
    obtain ⟨hvalue, hwrite, hkept⟩ := @convToken_spec 𝔽 ops b m c _ readsWeights_pure (base + k) d'
      (hmemory.weight hs hc (by omega) hweight) (hmemory.raw hs hreal hraw)
    have hnext := hmemory.succ hwrite
    have hearlier (i : ℕ) (hi : i < k) : i * threads + thread ≠ k * threads + thread := by
      unfold threads
      omega
    rw [tokenTileStep, if_pos hreal, hhistory]
    cases share with
    | false =>
      simp only [bind_apply, pure_apply, hvalue, Bool.false_eq_true, if_false]
      refine ⟨fun _ => rfl, ?_, fun hshare => (nomatch hshare), fun j hj => ?_⟩
      · rwa [show min (k + 1) (n - base) = k + 1 by omega]
      · exact (congrFun hkept j).trans (h.shared j fun hshare => nomatch hshare)
    | true =>
      simp only [bind_apply, pure_apply, hvalue, if_true]
      refine ⟨fun _ => rfl, ?_, fun _ i hi hin => ?_, fun j hj => ?_⟩
      · rw [show min (k + 1) (n - base) = k + 1 by omega]
        exact ⟨hnext.written, hnext.kept⟩
      · rw [storeShared_shared, hkept]
        obtain hlt | rfl := Nat.lt_succ_iff_lt_or_eq.mp hi
        · rw [Function.update_of_ne (hearlier i hlt)]
          exact h.staged rfl i hlt hin
        · rw [Function.update_self]
      · rw [storeShared_shared, hkept, Function.update_of_ne (hj rfl k (by omega) hreal)]
        exact h.shared j fun hshare i hi => hj hshare i (by omega)
  · rw [tokenTileStep, if_neg hreal]
    refine ⟨fun hin => by omega, ?_, fun hshare i hi hin => ?_, fun j hj => ?_⟩
    · rw [show min (k + 1) (n - base) = min k (n - base) by omega]
      exact h.memory
    · exact h.staged hshare i (by omega) hin
    · exact h.shared j fun hshare i hi => hj hshare i (by omega)

lemma tokenTileLoop_runs (hs : Separate b n) (hc : c < gdnQkvChannels) (share : Bool)
    (thread : ℕ) {history : History} (hhistory : base < n → history = samples b m c base)
    {d : Device} (hweight : ∀ i < 4, d.memory (b.weight + (c * gdnConvKernelWidth + i)) =
      m (b.weight + (c * gdnConvKernelWidth + i)))
    (hraw : ∀ t < n, d.memory (b.raw + (t * gdnQkvChannels + c)) =
      m (b.raw + (t * gdnQkvChannels + c))) (k : ℕ) :
    TileRuns ops b m n c base thread share k d ((List.range k).foldlM
      (tokenTileStep ops b n share c thread base (weightsAt ops b m c)) history d) := by
  induction k with
  | zero =>
    refine ⟨hhistory, ?_, fun _ i hi => absurd hi (Nat.not_lt_zero i), fun j _ => rfl⟩
    rw [Nat.zero_min]
    exact convolves_zero d base
  | succ k ih =>
    rw [List.range_succ, List.foldlM_append]
    simp only [List.foldlM_cons, List.foldlM_nil, bind_apply, pure_apply]
    exact ih.step hs hc hweight hraw

-- What a thread of a tile leaves behind, in memory and in the memory of its block.
structure TileLeaves (ops : FloatOps 𝔽) (b : ConvBuffers) (m : ℕ → UInt16) (n c base thread : ℕ)
    (share : Bool) (d r : Device) : Prop where
  memory : Leaves ops b m n (TileOwned b n c base) d.memory r
  staged : share = true → ∀ i < tokenTile, base + i < n →
    r.shared (i * threads + thread) = convolved ops b m (base + i) c
  shared : ∀ j, (share = true → ∀ i < tokenTile, base + i < n → j ≠ i * threads + thread) →
    r.shared j = d.shared j

lemma tokenTileThread_leaves (hs : Separate b n) (hn : 1 ≤ n) {share : Bool} {block tile thread : ℕ} (hc : block * threads + thread < gdnQkvChannels)
    {d : Device}
    (hd : ∀ a, TileSeen b n (block * threads + thread) (tile * tokenTile) a → d.memory a = m a) :
    TileLeaves ops b m n (block * threads + thread) (tile * tokenTile) thread share d
      (tokenTileThread ops b n share block tile thread d).2 := by
  set c := block * threads + thread with hchannel
  set base := tile * tokenTile with hbase
  have hweights := @loadWeights_value 𝔽 ops b m c d fun k hk => hd _ (.inr (.inl ⟨k, hk, rfl⟩))
  have hstart : base = 0 ∨ 3 ≤ base := by
    rw [hbase]
    unfold tokenTile
    omega
  have hstarts := @tileHistory_starts 𝔽 ops b m n c base hs hc hn hstart
    (loadWeights ops b c d).2 hd
  have hnotHistory (a : ℕ) (ha : ∀ k < 3, a ≠ b.history + (c * gdnConvHistoryWidth + k)) :
      (tileHistory b n c base (loadWeights ops b c d).2).2.memory a = d.memory a :=
    (hstarts.leaves a).2 fun ⟨_, k, hk, heq⟩ => ha k hk heq
  have hweight (i : ℕ) (hi : i < 4) :
      (tileHistory b n c base (loadWeights ops b c d).2).2.memory
        (b.weight + (c * gdnConvKernelWidth + i)) = m (b.weight + (c * gdnConvKernelWidth + i)) := by
    rw [hnotHistory _ fun k hk => ?_, hd _ (.inr (.inl ⟨i, hi, rfl⟩))]
    have hapart := hs.weightHistory
    unfold Apart gdnQkvChannels gdnConvHistoryWidth gdnConvKernelWidth at *
    omega
  have hraw (t : ℕ) (ht : t < n) :
      (tileHistory b n c base (loadWeights ops b c d).2).2.memory
        (b.raw + (t * gdnQkvChannels + c)) = m (b.raw + (t * gdnQkvChannels + c)) := by
    rw [hnotHistory _ fun k hk => ?_, hd _ (.inl ⟨t, ht, rfl⟩)]
    have hapart := hs.rawHistory
    unfold Apart gdnQkvChannels gdnConvHistoryWidth at *
    omega
  have hruns := @tokenTileLoop_runs 𝔽 ops b m n c base hs hc share thread _ hstarts.registers _
    hweight hraw tokenTile
  simp only [tokenTileThread, bind_apply, pure_apply, ← hchannel, ← hbase, hweights]
  refine ⟨fun a => ⟨?_, fun ha => ?_⟩, hruns.staged, fun j hj => ?_⟩
  · rintro (⟨t, hle, hlt, htn, rfl⟩ | ⟨hzero, k, hk, rfl⟩)
    · rw [hruns.memory.written t hle (by omega), afterTokens_output htn hc]
    · rw [hruns.memory.kept _ fun t hle hlt =>
        (history_ne_output hs hc (by omega) hc hk).symm]
      exact (hstarts.leaves _).1 ⟨hzero, k, hk, rfl⟩
  · rw [hruns.memory.kept a fun t hle hlt heq =>
      ha (.inl ⟨t, hle, by omega, by omega, heq⟩)]
    exact (hstarts.leaves a).2 fun hown => ha (.inr hown)
  · exact (hruns.shared j hj).trans (congrFun hstarts.shared j)

end Thread

section Block

variable {block tile : ℕ}

def BlockSeen (b : ConvBuffers) (n block tile a : ℕ) : Prop :=
  ∃ thread < threads, TileSeen b n (block * threads + thread) (tile * tokenTile) a

def BlockOwned (b : ConvBuffers) (n block tile a : ℕ) : Prop :=
  ∃ thread < threads, TileOwned b n (block * threads + thread) (tile * tokenTile) a

lemma tileOwned_not_seen (hs : Separate b n)
    (hdisjoint : Apart b.raw (n * gdnQkvChannels) b.output (n * gdnQkvChannels))
    {c base c' base' a : ℕ} (hc : c < gdnQkvChannels) (hc' : c' < gdnQkvChannels)
    (hne : c = c' → base ≠ base') (howned : TileOwned b n c base a) :
    ¬ TileSeen b n c' base' a := by
  unfold gdnQkvChannels at hc hc'
  obtain ⟨t, hle, hlt, htn, rfl⟩ | ⟨hbase, k, hk, rfl⟩ := howned
  · rintro (⟨t', ht', hseen⟩ | ⟨k', hk', hseen⟩ | ⟨-, k', hk', hseen⟩)
    · simp only [Apart, gdnQkvChannels] at hdisjoint hseen
      omega
    · have hapart := hs.outputWeight
      simp only [Apart, gdnQkvChannels, gdnConvKernelWidth] at hapart hseen
      omega
    · have hapart := hs.outputHistory
      simp only [Apart, gdnQkvChannels, gdnConvHistoryWidth] at hapart hseen
      omega
  · rintro (⟨t', ht', hseen⟩ | ⟨k', hk', hseen⟩ | ⟨hbase', k', hk', hseen⟩)
    · have hapart := hs.rawHistory
      simp only [Apart, gdnQkvChannels, gdnConvHistoryWidth] at hapart hseen hk
      omega
    · have hapart := hs.weightHistory
      simp only [Apart, gdnQkvChannels, gdnConvHistoryWidth, gdnConvKernelWidth] at hapart hseen hk
      omega
    · simp only [gdnConvHistoryWidth] at hseen hk hk' hbase hbase'
      omega

lemma channel_lt {thread : ℕ} (hblock : block < blocks) (hthread : thread < threads) :
    block * threads + thread < gdnQkvChannels := by
  unfold blocks gdnQkvChannels threads at *
  omega

lemma blockOwned_not_seen (hs : Separate b n)
    (hdisjoint : Apart b.raw (n * gdnQkvChannels) b.output (n * gdnQkvChannels))
    {p q : ℕ × ℕ} (hp : p.1 < blocks) (hq : q.1 < blocks) (hne : p ≠ q) {a : ℕ}
    (howned : BlockOwned b n p.1 p.2 a) : ¬ BlockSeen b n q.1 q.2 a := by
  rintro ⟨thread', hthread', hseen⟩
  obtain ⟨thread, hthread, howned⟩ := howned
  refine tileOwned_not_seen hs hdisjoint (channel_lt hp hthread) (channel_lt hq hthread')
    (fun hchannel hbase => hne ?_) howned hseen
  unfold threads at hthread hthread' hchannel
  unfold tokenTile at hbase
  exact Prod.ext (by omega) (by omega)

-- Global memory on the left, the memory of the block on the right.
def Device.at (d : Device) : ℕ ⊕ ℕ → UInt16 := Sum.elim d.memory d.shared

structure BlockLeaves (ops : FloatOps 𝔽) (b : ConvBuffers) (m : ℕ → UInt16) (n block tile : ℕ)
    (share : Bool) (d r : Device) : Prop where
  memory : Leaves ops b m n (BlockOwned b n block tile) d.memory r
  staged : share = true → ∀ i < tokenTile, ∀ thread < threads, tile * tokenTile + i < n →
    r.shared (i * threads + thread) =
      convolved ops b m (tile * tokenTile + i) (block * threads + thread)

lemma tileThreads_leave (hs : Separate b n)
    (hdisjoint : Apart b.raw (n * gdnQkvChannels) b.output (n * gdnQkvChannels)) (hn : 1 ≤ n)
    (hblock : block < blocks) {share : Bool} {d : Device}
    (hd : ∀ a, BlockSeen b n block tile a → d.memory a = m a) :
    BlockLeaves ops b m n block tile share d
      ((List.range threads).forM (tokenTileThread ops b n share block tile) d).2 := by
  have hchannel (thread : ℕ) (hthread : thread ∈ List.range threads) :
      block * threads + thread < gdnQkvChannels := channel_lt hblock (List.mem_range.mp hthread)
  have hleaves (thread : ℕ) (hthread : thread ∈ List.range threads) (d' : Device)
      (hd' : ∀ l, Sum.elim (TileSeen b n (block * threads + thread) (tile * tokenTile))
        (fun _ => False) l → d'.at l = d.at l) :=
    @tokenTileThread_leaves 𝔽 ops b m n hs hn share block tile thread (hchannel thread hthread) d'
      fun a ha => (hd' (.inl a) ha).trans (hd a ⟨thread, List.mem_range.mp hthread, ha⟩)
  have hworks : Works Device.at d (fun thread d => (tokenTileThread ops b n share block tile
      thread d).2) (fun thread => Sum.elim (TileOwned b n (block * threads + thread)
        (tile * tokenTile)) fun j => share = true ∧ ∃ i < tokenTile, tile * tokenTile + i < n ∧
          j = i * threads + thread)
      (fun thread => Sum.elim (TileSeen b n (block * threads + thread) (tile * tokenTile))
        fun _ => False)
      (Sum.elim (afterTokens ops b m n) fun j => convolved ops b m (tile * tokenTile + j / threads)
        (block * threads + j % threads)) (List.range threads) := by
    refine ⟨fun thread hthread d' hd' l hl => ?_, fun thread hthread d' hd' l hl => ?_,
      fun v hv w hw hne l hl => ?_, List.nodup_range⟩
    · have hthread' := List.mem_range.mp hthread
      have h := hleaves thread hthread d' hd'
      cases l with
      | inl a => exact (h.memory a).1 hl
      | inr j =>
        obtain ⟨hshare, i, hi, hin, rfl⟩ := hl
        refine (h.staged hshare i hi hin).trans ?_
        simp only [Sum.elim_inr]
        rw [Nat.mul_comm i, Nat.mul_add_div (by decide), Nat.mul_add_mod,
          Nat.div_eq_of_lt hthread', Nat.mod_eq_of_lt hthread', Nat.add_zero]
    · have h := hleaves thread hthread d' hd'
      cases l with
      | inl a => exact (h.memory a).2 hl
      | inr j => exact h.shared j fun hshare i hi hin heq => hl ⟨hshare, i, hi, hin, heq⟩
    · cases l with
      | inl a =>
        refine tileOwned_not_seen hs hdisjoint (hchannel v hv) (hchannel w hw) (fun heq => ?_) hl
        exact absurd (Nat.add_left_cancel heq) hne
      | inr j => exact id
  rw [forM_apply]
  refine ⟨fun a => ⟨fun ⟨thread, hthread, ha⟩ => ?_, fun ha => ?_⟩,
    fun hshare i hi thread hthread hin => ?_⟩
  · exact (hworks.read_foldl (.inl a)).1 ⟨thread, List.mem_range.mpr hthread, ha⟩
  · refine (hworks.read_foldl (.inl a)).2 fun thread hthread hown => ?_
    exact ha ⟨thread, List.mem_range.mp hthread, hown⟩
  · refine ((hworks.read_foldl (.inr (i * threads + thread))).1
      ⟨thread, List.mem_range.mpr hthread, hshare, i, hi, hin, rfl⟩).trans ?_
    simp only [Sum.elim_inr]
    rw [Nat.mul_comm i, Nat.mul_add_div (by decide), Nat.mul_add_mod, Nat.div_eq_of_lt hthread,
      Nat.mod_eq_of_lt hthread, Nat.add_zero]

-- Every address a span writes belongs to a block of a grid that covers its tokens.
lemma not_blockOwned {height a : ℕ} (hn : 1 ≤ n) (hheight : n ≤ height * tokenTile)
    (ha : ∀ p ∈ grid blocks height, ¬ BlockOwned b n p.1 p.2 a) :
    afterTokens ops b m n a = m a := by
  refine afterTokens_else (fun t c ht hc heq => ?_) fun c k hc hk heq => ?_
  · refine ha (c / threads, t / tokenTile) (mem_grid.mpr ⟨?_, ?_⟩)
      ⟨c % threads, Nat.mod_lt _ (by decide), .inl ⟨t, ?_, ?_, ht, ?_⟩⟩
    · unfold blocks gdnQkvChannels threads at *
      omega
    · exact Nat.div_lt_of_lt_mul (by rw [Nat.mul_comm]; omega)
    · exact Nat.div_mul_le_self t tokenTile
    · unfold tokenTile
      omega
    · rw [heq]
      unfold threads gdnQkvChannels
      omega
  · refine ha (c / threads, 0) (mem_grid.mpr ⟨?_, ?_⟩)
      ⟨c % threads, Nat.mod_lt _ (by decide), .inr ⟨Nat.zero_mul _, k, hk, ?_⟩⟩
    · unfold blocks gdnQkvChannels threads at *
      omega
    · refine Nat.pos_of_ne_zero fun hzero => ?_
      rw [hzero] at hheight
      omega
    · rw [heq]
      unfold threads gdnConvHistoryWidth
      omega

lemma tokenParallelKernel_after (hs : Separate b n)
    (hdisjoint : Apart b.raw (n * gdnQkvChannels) b.output (n * gdnQkvChannels)) (hn : 1 ≤ n)
    {order : List (ℕ × ℕ)} (horder : order.Perm (grid blocks (tokenTiles n))) (d : Device) :
    (runBlocks order (causalConv1dSiluUpdateTokenParallelKernel ops b n) d).memory =
      afterTokens ops b d.memory n := by
  have hleaves (p : ℕ × ℕ) (hp : p ∈ order) (d' : Device)
      (hd' : ∀ a, BlockSeen b n p.1 p.2 a → d'.memory a = d.memory a) :
      Leaves ops b d.memory n (BlockOwned b n p.1 p.2) d'.memory
        (causalConv1dSiluUpdateTokenParallelKernel ops b n p.1 p.2 d').2 := by
    rw [causalConv1dSiluUpdateTokenParallelKernel]
    exact (tileThreads_leave hs hdisjoint hn (mem_grid.mp (horder.mem_iff.mp hp)).1 hd').memory
  have hblocks := @runBlocks_works (causalConv1dSiluUpdateTokenParallelKernel ops b n)
    (fun p => BlockOwned b n p.1 p.2) (fun p => BlockSeen b n p.1 p.2)
    (afterTokens ops b d.memory n) order d hleaves
    (fun p hp q hq hne a => blockOwned_not_seen hs hdisjoint
      (mem_grid.mp (horder.mem_iff.mp hp)).1 (mem_grid.mp (horder.mem_iff.mp hq)).1 hne)
    (horder.nodup_iff.mpr (grid_nodup _ _))
  funext a
  by_cases howned : ∃ p ∈ order, BlockOwned b n p.1 p.2 a
  · exact (hblocks a).1 howned
  · refine ((hblocks a).2 fun p hp hown => howned ⟨p, hp, hown⟩).trans ?_
    refine (@not_blockOwned 𝔽 ops b d.memory n (tokenTiles n) a hn ?_ fun p hp hown =>
      howned ⟨p, horder.mem_iff.mpr hp, hown⟩).symm
    unfold tokenTiles tokenTile
    omega

end Block

end Qwen3xOrin.Gdn
