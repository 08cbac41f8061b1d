import Qwen3xOrin.Gdn.CausalConv
import Qwen3xOrin.Library.Workers

/-! What the convolution kernels leave in memory. A channel is the sequence of its stored history
followed by its raw inputs; every output is the convolution of four samples in a row, and the
history that is left is the last three. -/

namespace Qwen3xOrin.Gdn

open Library

section Specification

variable {𝔽 : Type} (ops : FloatOps 𝔽) (b : ConvBuffers) (m : ℕ → UInt16)

def sample (channel k : ℕ) : UInt16 :=
  if k < 3 then m (b.history + (channel * gdnConvHistoryWidth + k))
  else m (b.raw + ((k - 3) * gdnQkvChannels + channel))

def samples (channel k : ℕ) : History :=
  ⟨sample b m channel k, sample b m channel (k + 1), sample b m channel (k + 2)⟩

def weightsAt (channel : ℕ) : Weights 𝔽 :=
  ⟨ops.decodeBf16 (m (b.weight + (channel * gdnConvKernelWidth))),
    ops.decodeBf16 (m (b.weight + (channel * gdnConvKernelWidth + 1))),
    ops.decodeBf16 (m (b.weight + (channel * gdnConvKernelWidth + 2))),
    ops.decodeBf16 (m (b.weight + (channel * gdnConvKernelWidth + 3)))⟩

def convolved (token channel : ℕ) : UInt16 :=
  ops.convolve (weightsAt ops b m channel) (samples b m channel token)
    (sample b m channel (token + 3))

-- Memory once `tokenCount` tokens are convolved.
def afterTokens (tokenCount address : ℕ) : UInt16 :=
  if b.output ≤ address ∧ address < b.output + tokenCount * gdnQkvChannels then
    convolved ops b m ((address - b.output) / gdnQkvChannels)
      ((address - b.output) % gdnQkvChannels)
  else if b.history ≤ address ∧ address < b.history + gdnQkvChannels * gdnConvHistoryWidth then
    sample b m ((address - b.history) / gdnConvHistoryWidth)
      (tokenCount + (address - b.history) % gdnConvHistoryWidth)
  else m address

def Apart (p length q length' : ℕ) : Prop := p + length ≤ q ∨ q + length' ≤ p

-- The tensors of a call are different allocations; the output may be the input itself.
structure Separate (tokenCount : ℕ) : Prop where
  rawWeight : Apart b.raw (tokenCount * gdnQkvChannels) b.weight
    (gdnQkvChannels * gdnConvKernelWidth)
  rawHistory : Apart b.raw (tokenCount * gdnQkvChannels) b.history
    (gdnQkvChannels * gdnConvHistoryWidth)
  weightHistory : Apart b.weight (gdnQkvChannels * gdnConvKernelWidth) b.history
    (gdnQkvChannels * gdnConvHistoryWidth)
  outputWeight : Apart b.output (tokenCount * gdnQkvChannels) b.weight
    (gdnQkvChannels * gdnConvKernelWidth)
  outputHistory : Apart b.output (tokenCount * gdnQkvChannels) b.history
    (gdnQkvChannels * gdnConvHistoryWidth)
  rawOutput : b.raw = b.output ∨ Apart b.raw (tokenCount * gdnQkvChannels) b.output
    (tokenCount * gdnQkvChannels)

end Specification

section Samples

variable {𝔽 : Type} {ops : FloatOps 𝔽} {b : ConvBuffers} {m : ℕ → UInt16} {n t c k : ℕ}

lemma samples_push : (samples b m c t).push (m (b.raw + (t * gdnQkvChannels + c))) =
    samples b m c (t + 1) := by
  have hlast : sample b m c (t + 1 + 2) = m (b.raw + (t * gdnQkvChannels + c)) := by
    rw [sample, if_neg (by omega), show t + 1 + 2 - 3 = t by omega]
  rw [History.push, samples, samples, hlast]

lemma sample_raw : sample b m c (t + 3) = m (b.raw + (t * gdnQkvChannels + c)) := by
  rw [sample, if_neg (by omega), Nat.add_sub_cancel]

lemma sample_history (hk : k < 3) :
    sample b m c k = m (b.history + (c * gdnConvHistoryWidth + k)) := by
  rw [sample, if_pos hk]

lemma afterTokens_output (ht : t < n) (hc : c < gdnQkvChannels) :
    afterTokens ops b m n (b.output + (t * gdnQkvChannels + c)) = convolved ops b m t c := by
  have hin : b.output ≤ b.output + (t * gdnQkvChannels + c) ∧
      b.output + (t * gdnQkvChannels + c) < b.output + n * gdnQkvChannels := by
    unfold gdnQkvChannels at hc ⊢
    omega
  rw [afterTokens, if_pos hin, Nat.add_sub_cancel_left, Nat.mul_comm t,
    Nat.mul_add_div (by decide), Nat.mul_add_mod, Nat.div_eq_of_lt hc, Nat.mod_eq_of_lt hc,
    Nat.add_zero]

lemma afterTokens_history (hs : Separate b n) (hc : c < gdnQkvChannels) (hk : k < 3) :
    afterTokens ops b m n (b.history + (c * gdnConvHistoryWidth + k)) =
      sample b m c (n + k) := by
  have hout := hs.outputHistory
  unfold Apart gdnQkvChannels gdnConvHistoryWidth at hout
  unfold gdnQkvChannels at hc
  have hk' : k < gdnConvHistoryWidth := hk
  rw [afterTokens, if_neg (by unfold gdnQkvChannels gdnConvHistoryWidth; omega),
    if_pos (by unfold gdnQkvChannels gdnConvHistoryWidth; omega), Nat.add_sub_cancel_left,
    Nat.mul_comm c, Nat.mul_add_div (by decide), Nat.mul_add_mod, Nat.div_eq_of_lt hk',
    Nat.mod_eq_of_lt hk', Nat.add_zero]

-- The addresses a call leaves alone.
lemma afterTokens_else {a : ℕ}
    (hout : ∀ t c, t < n → c < gdnQkvChannels → a ≠ b.output + (t * gdnQkvChannels + c))
    (hhistory : ∀ c k, c < gdnQkvChannels → k < 3 →
      a ≠ b.history + (c * gdnConvHistoryWidth + k)) : afterTokens ops b m n a = m a := by
  rw [afterTokens, if_neg, if_neg]
  · rintro ⟨hle, hlt⟩
    refine hhistory ((a - b.history) / 3) ((a - b.history) % 3) ?_ (Nat.mod_lt _ (by decide)) ?_
    all_goals
      unfold gdnQkvChannels gdnConvHistoryWidth at *
      omega
  · rintro ⟨hle, hlt⟩
    refine hout ((a - b.output) / gdnQkvChannels) ((a - b.output) % gdnQkvChannels) ?_
      (Nat.mod_lt _ (by decide)) ?_
    all_goals
      unfold gdnQkvChannels at *
      omega

end Samples

section Steps

variable {α β : Type}

lemma bind_apply (x : KernelM α) (f : α → KernelM β) (d : Device) :
    (x >>= f) d = f (x d).1 (x d).2 := rfl

lemma pure_apply (a : α) (d : Device) : (pure a : KernelM α) d = (a, d) := rfl

@[simp] lemma load_value (p i : ℕ) (d : Device) : (load p i d).1 = d.memory (p + i) := rfl

@[simp] lemma load_memory (p i : ℕ) (d : Device) : (load p i d).2.memory = d.memory := rfl

@[simp] lemma load_shared (p i : ℕ) (d : Device) : (load p i d).2.shared = d.shared := rfl

@[simp] lemma store_memory (p i : ℕ) (v : UInt16) (d : Device) :
    (store p i v d).2.memory = Function.update d.memory (p + i) v := rfl

@[simp] lemma store_shared (p i : ℕ) (v : UInt16) (d : Device) :
    (store p i v d).2.shared = d.shared := rfl

@[simp] lemma storeShared_memory (i : ℕ) (v : UInt16) (d : Device) :
    (storeShared i v d).2.memory = d.memory := rfl

@[simp] lemma storeShared_shared (i : ℕ) (v : UInt16) (d : Device) :
    (storeShared i v d).2.shared = Function.update d.shared i v := rfl

lemma forM_apply (l : List α) (f : α → KernelM Unit) (d : Device) :
    (l.forM f d).2 = l.foldl (fun d a => (f a d).2) d := by
  induction l generalizing d with
  | nil => rfl
  | cons a l ih => exact ih _

end Steps

section Channel

variable {𝔽 : Type} {ops : FloatOps 𝔽} {b : ConvBuffers} {m : ℕ → UInt16} {n c : ℕ}

-- What a thread of one channel reads.
def Seen (b : ConvBuffers) (n c a : ℕ) : Prop :=
  (∃ t < n, a = b.raw + (t * gdnQkvChannels + c)) ∨
    (∃ k < 4, a = b.weight + (c * gdnConvKernelWidth + k)) ∨
    ∃ k < 3, a = b.history + (c * gdnConvHistoryWidth + k)

-- What it writes.
def Owned (b : ConvBuffers) (n c a : ℕ) : Prop :=
  (∃ t < n, a = b.output + (t * gdnQkvChannels + c)) ∨
    ∃ k < 3, a = b.history + (c * gdnConvHistoryWidth + k)

lemma loadWeights_value {d : Device} (h : ∀ k < 4,
    d.memory (b.weight + (c * gdnConvKernelWidth + k)) =
      m (b.weight + (c * gdnConvKernelWidth + k))) :
    (loadWeights ops b c d).1 = weightsAt ops b m c := by
  have h0 := h 0 (by decide)
  rw [Nat.add_zero] at h0
  simp only [loadWeights, bind_apply, pure_apply, load_value, load_memory, weightsAt, h0,
    h 1 (by decide), h 2 (by decide), h 3 (by decide)]

@[simp] lemma loadWeights_memory (d : Device) : (loadWeights ops b c d).2.memory = d.memory := rfl

@[simp] lemma loadWeights_shared (d : Device) : (loadWeights ops b c d).2.shared = d.shared := rfl

lemma loadHistory_value {d : Device} (h : ∀ k < 3,
    d.memory (b.history + (c * gdnConvHistoryWidth + k)) =
      m (b.history + (c * gdnConvHistoryWidth + k))) :
    (loadHistory b c d).1 = samples b m c 0 := by
  have h0 := h 0 (by decide)
  rw [Nat.add_zero] at h0
  simp only [loadHistory, bind_apply, pure_apply, load_value, load_memory, samples,
    sample_history (show 0 < 3 by decide), sample_history (show 0 + 1 < 3 by decide),
    sample_history (show 0 + 2 < 3 by decide), Nat.add_zero, Nat.zero_add, h0, h 1 (by decide),
    h 2 (by decide)]

@[simp] lemma loadHistory_memory (d : Device) : (loadHistory b c d).2.memory = d.memory := rfl

@[simp] lemma loadHistory_shared (d : Device) : (loadHistory b c d).2.shared = d.shared := rfl

lemma storeHistory_memory (h : History) (d : Device) :
    (∀ k < 3, (storeHistory b c h d).2.memory (b.history + (c * gdnConvHistoryWidth + k)) =
        if k = 0 then h.history0 else if k = 1 then h.history1 else h.history2) ∧
      ∀ a, (∀ k < 3, a ≠ b.history + (c * gdnConvHistoryWidth + k)) →
        (storeHistory b c h d).2.memory a = d.memory a := by
  simp only [storeHistory, bind_apply, store_memory]
  refine ⟨fun k hk => ?_, fun a ha => ?_⟩
  · interval_cases k
    all_goals simp
  · have h0 := ha 0 (by decide)
    rw [Nat.add_zero] at h0
    rw [Function.update_of_ne (ha 2 (by decide)), Function.update_of_ne (ha 1 (by decide)),
      Function.update_of_ne h0]

-- The weights come from registers or, unchanged, from memory.
def ReadsWeights (ops : FloatOps 𝔽) (b : ConvBuffers) (m : ℕ → UInt16) (c : ℕ)
    (weights : KernelM (Weights 𝔽)) : Prop :=
  ∀ d : Device, (∀ k < 4, d.memory (b.weight + (c * gdnConvKernelWidth + k)) =
      m (b.weight + (c * gdnConvKernelWidth + k))) →
    (weights d).1 = weightsAt ops b m c ∧ (weights d).2.memory = d.memory ∧
      (weights d).2.shared = d.shared

lemma readsWeights_load : ReadsWeights ops b m c (loadWeights ops b c) :=
  fun _ h => ⟨loadWeights_value h, rfl, rfl⟩

lemma readsWeights_pure : ReadsWeights ops b m c (pure (weightsAt ops b m c)) :=
  fun _ _ => ⟨rfl, rfl, rfl⟩

lemma convToken_spec {weights : KernelM (Weights 𝔽)} (hw : ReadsWeights ops b m c weights) {t : ℕ}
    {d : Device} (hweight : ∀ k < 4, d.memory (b.weight + (c * gdnConvKernelWidth + k)) =
      m (b.weight + (c * gdnConvKernelWidth + k)))
    (hraw : d.memory (b.raw + (t * gdnQkvChannels + c)) =
      m (b.raw + (t * gdnQkvChannels + c))) :
    (convToken ops b c weights (samples b m c t) t d).1 =
        (convolved ops b m t c, samples b m c (t + 1)) ∧
      (convToken ops b c weights (samples b m c t) t d).2.memory =
        Function.update d.memory (b.output + (t * gdnQkvChannels + c)) (convolved ops b m t c) ∧
      (convToken ops b c weights (samples b m c t) t d).2.shared = d.shared := by
  obtain ⟨hvalue, hmemory, hshared⟩ := hw (load b.raw (t * gdnQkvChannels + c) d).2 hweight
  simp only [convToken, bind_apply, pure_apply, load_value, store_memory, store_shared, hvalue,
    hmemory, hshared, hraw, samples_push, load_memory, load_shared, convolved, sample_raw]
  trivial

-- The registers and the memory after `k` tokens of a loop over the tokens of a channel.
structure Convolves (ops : FloatOps 𝔽) (b : ConvBuffers) (m : ℕ → UInt16) (c : ℕ)
    (start : ℕ → UInt16) (first k : ℕ) (r : Device) : Prop where
  written : ∀ t, first ≤ t → t < first + k →
    r.memory (b.output + (t * gdnQkvChannels + c)) = convolved ops b m t c
  kept : ∀ a, (∀ t, first ≤ t → t < first + k → a ≠ b.output + (t * gdnQkvChannels + c)) →
    r.memory a = start a

lemma convolves_zero (d : Device) (first : ℕ) : Convolves ops b m c d.memory first 0 d where
  written t hle hlt := by omega
  kept a _ := rfl

lemma Convolves.succ {first k : ℕ} {start : ℕ → UInt16} {r r' : Device}
    (h : Convolves ops b m c start first k r)
    (hr : r'.memory = Function.update r.memory (b.output + ((first + k) * gdnQkvChannels + c))
      (convolved ops b m (first + k) c)) : Convolves ops b m c start first (k + 1) r' where
  written t hle hlt := by
    rw [hr]
    obtain hearlier | rfl := Nat.lt_succ_iff_lt_or_eq.mp (show t < (first + k) + 1 by omega)
    · rw [Function.update_of_ne (by unfold gdnQkvChannels; omega)]
      exact h.written t hle hearlier
    · rw [Function.update_self]
  kept a ha := by
    rw [hr, Function.update_of_ne (ha (first + k) (by omega) (by omega))]
    exact h.kept a fun t hle hlt => ha t hle (by omega)

lemma Convolves.weight {first k : ℕ} {start : ℕ → UInt16} {r : Device}
    (h : Convolves ops b m c start first k r)
    (hs : Separate b n) (hc : c < gdnQkvChannels) (hle : first + k ≤ n)
    (hd : ∀ i < 4, start (b.weight + (c * gdnConvKernelWidth + i)) =
      m (b.weight + (c * gdnConvKernelWidth + i))) : ∀ i < 4,
      r.memory (b.weight + (c * gdnConvKernelWidth + i)) =
        m (b.weight + (c * gdnConvKernelWidth + i)) := by
  intro i hi
  rw [h.kept _ fun t _ hlt => ?_, hd i hi]
  have hapart := hs.outputWeight
  unfold Apart gdnQkvChannels gdnConvKernelWidth at *
  omega

lemma Convolves.raw {first k : ℕ} {start : ℕ → UInt16} {r : Device}
    (h : Convolves ops b m c start first k r)
    (hs : Separate b n) (hlt : first + k < n)
    (hd : ∀ t < n, start (b.raw + (t * gdnQkvChannels + c)) =
      m (b.raw + (t * gdnQkvChannels + c))) :
    r.memory (b.raw + ((first + k) * gdnQkvChannels + c)) =
      m (b.raw + ((first + k) * gdnQkvChannels + c)) := by
  rw [h.kept _ fun t _ ht => ?_, hd (first + k) hlt]
  have hapart := hs.rawOutput
  unfold Apart gdnQkvChannels at *
  omega

lemma convLoop_spec (hs : Separate b n) (hc : c < gdnQkvChannels)
    {weights : KernelM (Weights 𝔽)} (hw : ReadsWeights ops b m c weights) {d : Device}
    (hd : ∀ a, Seen b n c a → d.memory a = m a) {k : ℕ} (hk : k ≤ n) :
    ((List.range k).foldlM (fun history token => do
        let result ← convToken ops b c weights history token
        pure result.2) (samples b m c 0) d).1 = samples b m c k ∧
      Convolves ops b m c d.memory 0 k ((List.range k).foldlM (fun history token => do
        let result ← convToken ops b c weights history token
        pure result.2) (samples b m c 0) d).2 := by
  induction k with
  | zero => exact ⟨rfl, convolves_zero d 0⟩
  | succ k ih =>
    obtain ⟨hregisters, hmemory⟩ := ih (by omega)
    have hweight := hmemory.weight hs hc (by omega)
      fun i hi => hd _ (.inr (.inl ⟨i, hi, rfl⟩))
    have hraw := hmemory.raw hs (by omega) fun t ht => hd _ (.inl ⟨t, ht, rfl⟩)
    rw [Nat.zero_add] at hraw
    obtain ⟨hvalue, hwrite, -⟩ := convToken_spec hw hweight hraw
    rw [List.range_succ, List.foldlM_append]
    simp only [List.foldlM_cons, List.foldlM_nil, bind_apply, pure_apply, hregisters, hvalue]
    refine ⟨trivial, hmemory.succ ?_⟩
    rw [Nat.zero_add]
    exact hwrite

-- A thread that leaves its channel convolved and nothing else changed.
def Leaves (ops : FloatOps 𝔽) (b : ConvBuffers) (m : ℕ → UInt16) (n : ℕ)
    (owned : ℕ → Prop) (start : ℕ → UInt16) (r : Device) : Prop :=
  ∀ a, (owned a → r.memory a = afterTokens ops b m n a) ∧ (¬ owned a → r.memory a = start a)

lemma history_ne_output (hs : Separate b n) (hc : c < gdnQkvChannels) {t k c' : ℕ} (ht : t < n)
    (hc' : c' < gdnQkvChannels) (hk : k < 3) :
    b.output + (t * gdnQkvChannels + c) ≠ b.history + (c' * gdnConvHistoryWidth + k) := by
  have hapart := hs.outputHistory
  unfold Apart gdnQkvChannels gdnConvHistoryWidth at *
  omega

lemma storeHistory_leaves (hs : Separate b n) (hc : c < gdnQkvChannels) {start : ℕ → UInt16}
    {r : Device} (hr : Convolves ops b m c start 0 n r) :
    Leaves ops b m n (Owned b n c) start (storeHistory b c (samples b m c n) r).2 := by
  obtain ⟨hstored, hkept⟩ := @storeHistory_memory b c (samples b m c n) r
  intro a
  refine ⟨?_, fun ha => ?_⟩
  · rintro (⟨t, ht, rfl⟩ | ⟨k, hk, rfl⟩)
    · rw [hkept _ fun k hk => history_ne_output hs hc ht hc hk, hr.written t (by omega) (by omega),
        afterTokens_output ht hc]
    · rw [hstored k hk, afterTokens_history hs hc hk]
      interval_cases k
      all_goals rfl
  · rw [hkept a fun k hk heq => ha (.inr ⟨k, hk, heq⟩)]
    exact hr.kept a fun t _ ht heq => ha (.inl ⟨t, by omega, heq⟩)

lemma wholeSpanChannel_leaves (hs : Separate b n) (hc : c < gdnQkvChannels) {d : Device}
    (hd : ∀ a, Seen b n c a → d.memory a = m a) :
    Leaves ops b m n (Owned b n c) d.memory (causalConv1dSiluUpdateWholeSpanChannel ops b n c d).2 := by
  have hweights := @loadWeights_value 𝔽 ops b m c d fun k hk => hd _ (.inr (.inl ⟨k, hk, rfl⟩))
  have hhistory := @loadHistory_value b m c (loadWeights ops b c d).2
    fun k hk => hd _ (.inr (.inr ⟨k, hk, rfl⟩))
  have hloop := @convLoop_spec 𝔽 ops b m n c hs hc _ readsWeights_pure
    (loadHistory b c (loadWeights ops b c d).2).2 hd n le_rfl
  simp only [causalConv1dSiluUpdateWholeSpanChannel, bind_apply, hweights, hhistory] at hloop ⊢
  rw [hloop.1]
  exact storeHistory_leaves hs hc hloop.2

lemma tileChannel_leaves (hs : Separate b n) (hc : c < gdnQkvChannels) {d : Device}
    (hd : ∀ a, Seen b n c a → d.memory a = m a) :
    Leaves ops b m n (Owned b n c) d.memory (causalConv1dSiluUpdateTileChannel ops b n c d).2 := by
  have hhistory := @loadHistory_value b m c d fun k hk => hd _ (.inr (.inr ⟨k, hk, rfl⟩))
  have hloop := @convLoop_spec 𝔽 ops b m n c hs hc _ readsWeights_load (loadHistory b c d).2 hd n
    le_rfl
  simp only [causalConv1dSiluUpdateTileChannel, bind_apply, hhistory] at hloop ⊢
  rw [hloop.1]
  exact storeHistory_leaves hs hc hloop.2

lemma updateChannel_leaves (hs : Separate b 1) (hc : c < gdnQkvChannels) {d : Device}
    (hd : ∀ a, Seen b 1 c a → d.memory a = m a) :
    Leaves ops b m 1 (Owned b 1 c) d.memory (causalConv1dSiluUpdateChannel ops b c d).2 := by
  have hraw := hd (b.raw + c) (.inl ⟨0, by decide, by rw [Nat.zero_mul, Nat.zero_add]⟩)
  have hhistory := @loadHistory_value b m c (load b.raw c d).2
    fun k hk => hd _ (.inr (.inr ⟨k, hk, rfl⟩))
  have hweights := @loadWeights_value 𝔽 ops b m c (loadHistory b c (load b.raw c d).2).2
    fun k hk => hd _ (.inr (.inl ⟨k, hk, rfl⟩))
  have hne (k : ℕ) (hk : k < 3) : b.history + (c * gdnConvHistoryWidth + k) ≠ b.output + c := by
    have hapart := history_ne_output hs hc (show 0 < 1 by decide) hc hk
    rw [Nat.zero_mul, Nat.zero_add] at hapart
    exact hapart.symm
  have hseen (k : ℕ) (hk : k < 3) : d.memory (b.history + (c * gdnConvHistoryWidth + k)) =
      sample b m c k := by
    rw [sample_history hk]
    exact hd _ (.inr (.inr ⟨k, hk, rfl⟩))
  have hsame : (causalConv1dSiluUpdateChannel ops b c d).2.memory =
      (storeHistory b c (samples b m c 1)
        (store b.output c (convolved ops b m 0 c) d).2).2.memory := by
    simp only [causalConv1dSiluUpdateChannel, storeHistory, bind_apply, hhistory, hweights,
      store_memory, load_value, load_memory, loadWeights_memory, loadHistory_memory, hraw]
    have hfirst : b.history + (c * gdnConvHistoryWidth + 2) ≠
        b.history + c * gdnConvHistoryWidth := by omega
    have hcurrent : m (b.raw + c) = sample b m c 3 := by
      rw [show 3 = 0 + 3 from rfl, sample_raw, Nat.zero_mul, Nat.zero_add]
    rw [Function.update_of_ne hfirst, Function.update_of_ne (hne 1 (by decide)),
      Function.update_of_ne (hne 2 (by decide)), hseen 1 (by decide), hseen 2 (by decide), hcurrent]
    rfl
  have hone : Convolves ops b m c d.memory 0 1 (store b.output c (convolved ops b m 0 c) d).2 := by
    refine (convolves_zero d 0).succ ?_
    rw [store_memory, Nat.add_zero, Nat.zero_mul, Nat.zero_add]
  have hleaves := storeHistory_leaves hs hc hone
  unfold Leaves at hleaves ⊢
  rwa [hsame]

end Channel

end Qwen3xOrin.Gdn
