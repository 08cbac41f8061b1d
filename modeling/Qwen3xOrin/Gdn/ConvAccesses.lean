import Qwen3xOrin.Gdn.ConvSpans

/-! The accesses of the kernels that give each block a tile of tokens stay inside the tensors of the
call. -/

namespace Qwen3xOrin.Gdn

section Emits

variable {α β : Type} {P : Access → Prop}

def Emits (P : Access → Prop) (x : KernelM α) : Prop :=
  ∀ d : Device, ∃ l, (x d).2.log = d.log ++ l ∧ ∀ e ∈ l, P e

lemma emits_pure (a : α) : Emits P (pure a : KernelM α) :=
  fun _ => ⟨[], (List.append_nil _).symm, fun _ h => absurd h List.not_mem_nil⟩

lemma emits_load {p i : ℕ} (h : P (.read p i)) : Emits P (load p i) :=
  fun d => ⟨[.read p i], rfl, by simpa using h⟩

lemma emits_store {p i : ℕ} {v : UInt16} (h : P (.write p i)) : Emits P (store p i v) :=
  fun d => ⟨[.write p i], rfl, by simpa using h⟩

lemma emits_storeShared {i : ℕ} {v : UInt16} : Emits P (storeShared i v) :=
  fun _ => ⟨[], (List.append_nil _).symm, fun _ h => absurd h List.not_mem_nil⟩

lemma Emits.bind {x : KernelM α} {f : α → KernelM β} (hx : Emits P x)
    (hf : ∀ a, Emits P (f a)) : Emits P (x >>= f) := by
  intro d
  obtain ⟨l, hl, hall⟩ := hx d
  obtain ⟨l', hl', hall'⟩ := hf (x d).1 (x d).2
  refine ⟨l ++ l', ?_, fun e he => ?_⟩
  · rw [bind_apply, hl', hl, List.append_assoc]
  · exact (List.mem_append.mp he).elim (hall e) (hall' e)

lemma emits_forM {f : α → KernelM Unit} {l : List α} (h : ∀ a ∈ l, Emits P (f a)) :
    Emits P (l.forM f) := by
  induction l with
  | nil => exact emits_pure ()
  | cons a l ih =>
    exact (h a List.mem_cons_self).bind fun _ => ih fun a' ha' => h a' (List.mem_cons_of_mem a ha')

lemma emits_foldlM {f : β → α → KernelM β} {l : List α} (h : ∀ a ∈ l, ∀ s, Emits P (f s a))
    (s : β) : Emits P (l.foldlM f s) := by
  induction l generalizing s with
  | nil => exact emits_pure s
  | cons a l ih =>
    rw [List.foldlM_cons]
    exact (h a List.mem_cons_self s).bind fun s' =>
      ih (fun a' ha' => h a' (List.mem_cons_of_mem a ha')) s'

end Emits

section Tensors

variable {𝔽 : Type} {ops : FloatOps 𝔽} {b : ConvBuffers} {n c : ℕ}

def InTensors (b : ConvBuffers) (n : ℕ) : Access → Prop
  | .read p i => (p = b.raw ∧ i < n * gdnQkvChannels) ∨
      (p = b.weight ∧ i < gdnQkvChannels * gdnConvKernelWidth) ∨
      (p = b.history ∧ i < gdnQkvChannels * gdnConvHistoryWidth)
  | .write p i => (p = b.output ∧ i < n * gdnQkvChannels) ∨
      (p = b.history ∧ i < gdnQkvChannels * gdnConvHistoryWidth)

lemma emits_loadRaw {t : ℕ} (ht : t < n) (hc : c < gdnQkvChannels) {i : ℕ}
    (hi : i = t * gdnQkvChannels + c) : Emits (InTensors b n) (load b.raw i) := by
  refine emits_load (.inl ⟨rfl, ?_⟩)
  unfold gdnQkvChannels at *
  omega

lemma emits_loadWeights (hc : c < gdnQkvChannels) :
    Emits (InTensors b n) (loadWeights ops b c) := by
  have hload (k : ℕ) (hk : k < 4) :
      Emits (InTensors b n) (load b.weight (c * gdnConvKernelWidth + k)) := by
    refine emits_load (.inr (.inl ⟨rfl, ?_⟩))
    unfold gdnQkvChannels gdnConvKernelWidth at *
    omega
  refine (hload 0 (by decide)).bind fun _ => (hload 1 (by decide)).bind fun _ =>
    (hload 2 (by decide)).bind fun _ => (hload 3 (by decide)).bind fun _ => emits_pure _

lemma history_inside (hc : c < gdnQkvChannels) {k : ℕ} (hk : k < 3) :
    c * gdnConvHistoryWidth + k < gdnQkvChannels * gdnConvHistoryWidth := by
  unfold gdnQkvChannels gdnConvHistoryWidth at *
  omega

lemma emits_loadHistory (hc : c < gdnQkvChannels) :
    Emits (InTensors b n) (loadHistory b c) := by
  have hload (k : ℕ) (hk : k < 3) :
      Emits (InTensors b n) (load b.history (c * gdnConvHistoryWidth + k)) :=
    emits_load (.inr (.inr ⟨rfl, history_inside hc hk⟩))
  exact (hload 0 (by decide)).bind fun _ => (hload 1 (by decide)).bind fun _ =>
    (hload 2 (by decide)).bind fun _ => emits_pure _

lemma emits_publishHistory (hn : 1 ≤ n) (hc : c < gdnQkvChannels) (history : History) :
    Emits (InTensors b n) (publishHistory b n c history) := by
  have hstore (k : ℕ) (hk : k < 3) (v : UInt16) :
      Emits (InTensors b n) (store b.history (c * gdnConvHistoryWidth + k) v) :=
    emits_store (.inr ⟨rfl, history_inside hc hk⟩)
  have hfirst : c = 0 * gdnQkvChannels + c := by rw [Nat.zero_mul, Nat.zero_add]
  rw [publishHistory]
  by_cases hlong : gdnConvHistoryWidth ≤ n
  · have hlong' : 3 ≤ n := hlong
    simp only [if_pos hlong]
    exact (emits_loadRaw (show n - 3 < n by omega) hc rfl).bind fun _ =>
      (hstore 0 (by decide) _).bind fun _ =>
        (emits_loadRaw (show n - 2 < n by omega) hc rfl).bind fun _ =>
          (hstore 1 (by decide) _).bind fun _ =>
            (emits_loadRaw (show n - 1 < n by omega) hc rfl).bind fun _ => hstore 2 (by decide) _
  · simp only [if_neg hlong]
    by_cases htwo : n = 2
    · simp only [if_pos htwo]
      exact (hstore 0 (by decide) _).bind fun _ =>
        (emits_loadRaw (show 0 < n by omega) hc hfirst).bind fun _ =>
          (hstore 1 (by decide) _).bind fun _ =>
            (emits_loadRaw (show 1 < n by omega) hc (by rw [Nat.one_mul])).bind fun _ =>
              hstore 2 (by decide) _
    · simp only [if_neg htwo]
      exact (hstore 0 (by decide) _).bind fun _ => (hstore 1 (by decide) _).bind fun _ =>
        (emits_loadRaw (show 0 < n by omega) hc hfirst).bind fun _ => hstore 2 (by decide) _

lemma emits_tileHistory (hn : 1 ≤ n) (hc : c < gdnQkvChannels) {base : ℕ}
    (hbase : base = 0 ∨ 3 ≤ base) : Emits (InTensors b n) (tileHistory b n c base) := by
  rw [tileHistory]
  by_cases hzero : base = 0
  · rw [if_pos hzero]
    exact (emits_loadHistory hc).bind fun history =>
      (emits_publishHistory hn hc history).bind fun _ => emits_pure _
  · rw [if_neg hzero]
    by_cases hreal : base < n
    · rw [if_pos hreal]
      refine (emits_loadRaw (show base - 3 < n by omega) hc rfl).bind fun _ =>
        (emits_loadRaw (show base - 2 < n by omega) hc ?_).bind fun _ =>
          (emits_loadRaw (show base - 1 < n by omega) hc ?_).bind fun _ => emits_pure _
      all_goals
        unfold gdnQkvChannels
        omega
    · rw [if_neg hreal]
      exact emits_pure _

lemma emits_tokenTileStep (hc : c < gdnQkvChannels) (share : Bool) (thread base : ℕ)
    (w : Weights 𝔽) (history : History) (k : ℕ) :
    Emits (InTensors b n) (tokenTileStep ops b n share c thread base w history k) := by
  rw [tokenTileStep]
  by_cases hreal : base + k < n
  · rw [if_pos hreal]
    have hstore (v : UInt16) :
        Emits (InTensors b n) (store b.output ((base + k) * gdnQkvChannels + c) v) := by
      refine emits_store (.inl ⟨rfl, ?_⟩)
      unfold gdnQkvChannels at *
      omega
    have htoken : Emits (InTensors b n) (convToken ops b c (pure w) history (base + k)) :=
      (emits_loadRaw hreal hc rfl).bind fun _ => (emits_pure w).bind fun _ =>
        (hstore _).bind fun _ => emits_pure _
    cases share with
    | false => exact htoken.bind fun _ => emits_pure _
    | true => exact htoken.bind fun _ => emits_storeShared.bind fun _ => emits_pure _
  · rw [if_neg hreal]
    exact emits_pure _

lemma emits_tokenTileThread (hn : 1 ≤ n) {share : Bool} {block tile thread : ℕ}
    (hc : block * threads + thread < gdnQkvChannels) :
    Emits (InTensors b n) (tokenTileThread ops b n share block tile thread) := by
  have hbase : tile * tokenTile = 0 ∨ 3 ≤ tile * tokenTile := by
    unfold tokenTile
    omega
  exact (emits_loadWeights hc).bind fun w => (emits_tileHistory hn hc hbase).bind fun history =>
    (emits_foldlM (fun k _ history =>
      emits_tokenTileStep hc share thread (tile * tokenTile) w history k) history).bind
        fun _ => emits_pure _

end Tensors

end Qwen3xOrin.Gdn
