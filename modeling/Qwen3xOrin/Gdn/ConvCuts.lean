import Qwen3xOrin.Gdn.CompactRun

/-! A prompt cut into consecutive spans, each convolved by one of the kernels on its rows, against
one token after another. -/

namespace Qwen3xOrin.Gdn

variable {𝔽 : Type} {ops : FloatOps 𝔽} {b : ConvBuffers} {m : ℕ → UInt16} {n k : ℕ} {eps : 𝔽}

section Rows

def ConvBuffers.rows (b : ConvBuffers) (n : ℕ) : ConvBuffers :=
  { b with
    raw := b.raw + n * gdnQkvChannels
    output := b.output + n * gdnQkvChannels }

lemma Apart.inside {p l q l' p' i q' i' : ℕ} (h : Apart p l q l') (hp : p ≤ p')
    (hpi : p' + i ≤ p + l) (hq : q ≤ q') (hqi : q' + i' ≤ q + l') : Apart p' i q' i' := by
  unfold Apart at *
  omega

lemma separate_front (hs : Separate b (n + k)) : Separate b n := by
  have hle (p : ℕ) : p + n * gdnQkvChannels ≤ p + (n + k) * gdnQkvChannels :=
    Nat.add_le_add_left (Nat.mul_le_mul_right _ (Nat.le_add_right n k)) p
  exact
    { rawWeight := hs.rawWeight.inside le_rfl (hle _) le_rfl le_rfl
      rawHistory := hs.rawHistory.inside le_rfl (hle _) le_rfl le_rfl
      weightHistory := hs.weightHistory
      outputWeight := hs.outputWeight.inside le_rfl (hle _) le_rfl le_rfl
      outputHistory := hs.outputHistory.inside le_rfl (hle _) le_rfl le_rfl
      rawOutput := hs.rawOutput.imp id fun h => h.inside le_rfl (hle _) le_rfl (hle _) }

lemma rows_inside (p : ℕ) :
    p + n * gdnQkvChannels + k * gdnQkvChannels ≤ p + (n + k) * gdnQkvChannels := by
  rw [Nat.add_mul, Nat.add_assoc]

lemma separate_rows (hs : Separate b (n + k)) : Separate (b.rows n) k where
  rawWeight := hs.rawWeight.inside (Nat.le_add_right _ _) (rows_inside _) le_rfl le_rfl
  rawHistory := hs.rawHistory.inside (Nat.le_add_right _ _) (rows_inside _) le_rfl le_rfl
  weightHistory := hs.weightHistory
  outputWeight := hs.outputWeight.inside (Nat.le_add_right _ _) (rows_inside _) le_rfl le_rfl
  outputHistory := hs.outputHistory.inside (Nat.le_add_right _ _) (rows_inside _) le_rfl le_rfl
  rawOutput := by
    refine hs.rawOutput.imp (fun h => ?_) fun h => ?_
    · rw [ConvBuffers.rows, h]
    · exact h.inside (Nat.le_add_right _ _) (rows_inside _) (Nat.le_add_right _ _) (rows_inside _)

lemma raw_untouched (hs : Separate b (n + k)) {t c : ℕ} (ht : t < k) (hc : c < gdnQkvChannels) :
    afterTokens ops b m n (b.raw + ((n + t) * gdnQkvChannels + c)) =
      m (b.raw + ((n + t) * gdnQkvChannels + c)) := by
  have hrawHistory := hs.rawHistory
  have hrawOutput := hs.rawOutput
  unfold Apart gdnQkvChannels gdnConvHistoryWidth at *
  refine afterTokens_else (fun t' c' ht' hc' heq => ?_) fun c' i hc' hi heq => ?_
  all_goals
    unfold gdnQkvChannels at *
    try unfold gdnConvHistoryWidth at *
    omega

lemma weight_untouched (hs : Separate b n) {c i : ℕ} (hc : c < gdnQkvChannels) (hi : i < 4) :
    afterTokens ops b m n (b.weight + (c * gdnConvKernelWidth + i)) =
      m (b.weight + (c * gdnConvKernelWidth + i)) := by
  have hweightHistory := hs.weightHistory
  have houtputWeight := hs.outputWeight
  unfold Apart gdnQkvChannels gdnConvHistoryWidth gdnConvKernelWidth at *
  refine afterTokens_else (fun t' c' ht' hc' heq => ?_) fun c' i hc' hi heq => ?_
  all_goals
    unfold gdnQkvChannels at *
    try unfold gdnConvHistoryWidth at *
    omega

lemma sample_rows (hs : Separate b (n + k)) {c i : ℕ} (hc : c < gdnQkvChannels) (hi : i < k + 3) :
    sample (b.rows n) (afterTokens ops b m n) c i = sample b m c (n + i) := by
  by_cases hfirst : i < 3
  · rw [sample_history hfirst]
    exact afterTokens_history (separate_front hs) hc hfirst
  · obtain ⟨t, rfl⟩ : ∃ t, i = t + 3 := ⟨i - 3, by omega⟩
    rw [← Nat.add_assoc n t 3, sample_raw, sample_raw]
    refine Eq.trans ?_ (@raw_untouched 𝔽 ops b m n k hs t c (by omega) hc)
    simp only [ConvBuffers.rows, Nat.add_mul, Nat.add_assoc]

lemma convolved_rows (hs : Separate b (n + k)) {c t : ℕ} (hc : c < gdnQkvChannels) (ht : t < k) :
    convolved ops (b.rows n) (afterTokens ops b m n) t c = convolved ops b m (n + t) c := by
  have hweight (i : ℕ) (hi : i < 4) := @weight_untouched 𝔽 ops b m n (separate_front hs) c i hc hi
  have hsample (i : ℕ) (hi : i < k + 3) := @sample_rows 𝔽 ops b m n k hs c i hc hi
  have hweights : weightsAt ops (b.rows n) (afterTokens ops b m n) c = weightsAt ops b m c := by
    have hzero := hweight 0 (by decide)
    rw [Nat.add_zero] at hzero
    simp only [weightsAt, ConvBuffers.rows, hzero, hweight 1 (by decide), hweight 2 (by decide),
      hweight 3 (by decide)]
  rw [convolved, convolved, hweights, samples, hsample t (by omega), hsample (t + 1) (by omega),
    hsample (t + 2) (by omega), hsample (t + 3) (by omega)]
  rfl

-- Two spans one after the other are one span.
lemma afterTokens_add (hs : Separate b (n + k)) :
    afterTokens ops (b.rows n) (afterTokens ops b m n) k = afterTokens ops b m (n + k) := by
  have hrows := separate_rows hs
  have hfront := separate_front hs
  funext a
  by_cases hout : ∃ t c, t < n + k ∧ c < gdnQkvChannels ∧ a = b.output + (t * gdnQkvChannels + c)
  · obtain ⟨t, c, ht, hc, rfl⟩ := hout
    rw [afterTokens_output ht hc]
    by_cases hfirst : t < n
    · rw [← afterTokens_output hfirst hc]
      refine afterTokens_else (fun t' c' ht' hc' heq => ?_) fun c' i hc' hi heq => ?_
      · unfold ConvBuffers.rows gdnQkvChannels at *
        dsimp only at heq
        omega
      · exact history_ne_output hs hc ht hc' hi heq
    · obtain ⟨t', rfl⟩ := Nat.exists_eq_add_of_le (Nat.le_of_not_lt hfirst)
      have hsame : b.output + ((n + t') * gdnQkvChannels + c) =
          (b.rows n).output + (t' * gdnQkvChannels + c) := by
        simp only [ConvBuffers.rows, Nat.add_mul, Nat.add_assoc]
      rw [hsame, afterTokens_output (by omega) hc, convolved_rows hs hc (by omega)]
  · have hnot (t c : ℕ) (ht : t < n + k) (hc : c < gdnQkvChannels) :
        a ≠ b.output + (t * gdnQkvChannels + c) := fun heq => hout ⟨t, c, ht, hc, heq⟩
    by_cases hhistory : ∃ c i, c < gdnQkvChannels ∧ i < 3 ∧
        a = b.history + (c * gdnConvHistoryWidth + i)
    · obtain ⟨c, i, hc, hi, rfl⟩ := hhistory
      rw [afterTokens_history hs hc hi]
      refine (@afterTokens_history 𝔽 ops (b.rows n) _ k c i hrows hc hi).trans ?_
      rw [sample_rows hs hc (by omega), Nat.add_assoc]
    · have hnot' (c i : ℕ) (hc : c < gdnQkvChannels) (hi : i < 3) :
          a ≠ b.history + (c * gdnConvHistoryWidth + i) := fun heq =>
        hhistory ⟨c, i, hc, hi, heq⟩
      have hrow (t c : ℕ) (ht : t < k) (hc : c < gdnQkvChannels) :
          a ≠ (b.rows n).output + (t * gdnQkvChannels + c) := by
        intro heq
        refine hnot (n + t) c (by omega) hc (heq.trans ?_)
        simp only [ConvBuffers.rows, Nat.add_mul, Nat.add_assoc]
      rw [afterTokens_else hnot hnot']
      refine (@afterTokens_else 𝔽 ops (b.rows n) _ k a hrow hnot').trans ?_
      exact afterTokens_else (fun t c ht hc => hnot t c (by omega) hc) hnot'

-- Memories that agree on what a span reads agree after it wherever they agreed before.
lemma afterTokens_congr {m' : ℕ → UInt16} {scratch : ℕ → Prop}
    (h : ∀ a, ¬ scratch a → m a = m' a)
    (hoff : ∀ c < gdnQkvChannels, ∀ a, Seen b n c a → ¬ scratch a) {a : ℕ} (ha : ¬ scratch a) :
    afterTokens ops b m n a = afterTokens ops b m' n a := by
  have hsample (c i : ℕ) (hc : c < gdnQkvChannels) (hi : i < n + 3) :
      sample b m c i = sample b m' c i := by
    by_cases hfirst : i < 3
    · rw [sample_history hfirst, sample_history hfirst]
      exact h _ (hoff c hc _ (.inr (.inr ⟨i, hfirst, rfl⟩)))
    · obtain ⟨t, rfl⟩ : ∃ t, i = t + 3 := ⟨i - 3, by omega⟩
      rw [sample_raw, sample_raw]
      exact h _ (hoff c hc _ (.inl ⟨t, by omega, rfl⟩))
  rw [afterTokens, afterTokens]
  split_ifs with hout hhistory
  · have hc : (a - b.output) % gdnQkvChannels < gdnQkvChannels := Nat.mod_lt _ (by decide)
    have ht : (a - b.output) / gdnQkvChannels < n := by
      unfold gdnQkvChannels at *
      omega
    have hweight (i : ℕ) (hi : i < 4) := h _ (hoff _ hc _ (.inr (.inl ⟨i, hi, rfl⟩)))
    have hzero := hweight 0 (by decide)
    rw [Nat.add_zero] at hzero
    simp only [convolved, samples, weightsAt, hzero, hweight 1 (by decide), hweight 2 (by decide),
      hweight 3 (by decide), hsample _ _ hc (show (a - b.output) / gdnQkvChannels < n + 3 by omega),
      hsample _ _ hc (show (a - b.output) / gdnQkvChannels + 1 < n + 3 by omega),
      hsample _ _ hc (show (a - b.output) / gdnQkvChannels + 2 < n + 3 by omega),
      hsample _ _ hc (show (a - b.output) / gdnQkvChannels + 3 < n + 3 by omega)]
  · have hi : (a - b.history) % gdnConvHistoryWidth < 3 := Nat.mod_lt _ (by decide)
    refine hsample _ _ ?_ (by omega)
    unfold gdnQkvChannels gdnConvHistoryWidth at *
    omega
  · exact h a ha

end Rows

end Qwen3xOrin.Gdn
