import Qwen3xOrin.Gdn.ConvCuts

/-! Launches of the convolution kernels over the spans of a prompt. -/

namespace Qwen3xOrin.Gdn

variable {𝔽 : Type} {ops : FloatOps 𝔽} {b : ConvBuffers} {m : ℕ → UInt16} {n k : ℕ}

-- A launch of one of the kernels, with the order of its blocks. The compact tensors are scratch of
-- the span, and `stale` is what the blocks find in their shared memory.
inductive ConvSpan (𝔽 : Type)
  | update (order : List (ℕ × ℕ))
  | tile (tokenCount : ℕ) (order : List (ℕ × ℕ))
  | wholeSpan (tokenCount : ℕ) (order : List (ℕ × ℕ))
  | tokenParallel (tokenCount : ℕ) (order : List (ℕ × ℕ))
  | compactQk (tokenCount maximum : ℕ) (l2Epsilon : 𝔽) (compactQ compactK : ℕ)
      (stale : ℕ × ℕ → ℕ → UInt16) (order : List (ℕ × ℕ))

namespace ConvSpan

def tokenCount : ConvSpan 𝔽 → ℕ
  | update _ => 1
  | tile n _ => n
  | wholeSpan n _ => n
  | tokenParallel n _ => n
  | compactQk n _ _ _ _ _ _ => n

def launch (ops : FloatOps 𝔽) (b : ConvBuffers) : ConvSpan 𝔽 → Device → Option Device
  | update order => launchCausalConv1dSiluUpdate ops b true order
  | tile n order => launchCausalConv1dSiluUpdateTile ops b n true order
  | wholeSpan n order => launchCausalConv1dSiluUpdateWholeSpan ops b n order
  | tokenParallel n order => launchCausalConv1dSiluUpdateTokenParallel ops b n order
  | compactQk n maximum l2Epsilon compactQ compactK stale order =>
    launchCompactQkImpl ops { b with compactQ := compactQ, compactK := compactK } n maximum
      l2Epsilon stale order

-- A count that the launch admits, and every block of the grid once.
def Admitted (ops : FloatOps 𝔽) : ConvSpan 𝔽 → Prop
  | update order => order.Perm (grid blocks 1)
  | tile n order => 1 ≤ n ∧ n ≤ gdnMaximumTileTokenCount ∧ order.Perm (grid blocks 1)
  | wholeSpan n order => 1 ≤ n ∧ n ≤ maximumTokenCount ∧ order.Perm (grid blocks 1)
  | tokenParallel n order =>
    1 ≤ n ∧ n ≤ maximumTokenCount ∧ order.Perm (grid blocks (tokenTiles n))
  | compactQk n maximum l2Epsilon _ _ _ order =>
    1 ≤ n ∧ n ≤ maximum ∧ ops.finitePositive l2Epsilon = true ∧
      order.Perm (grid blocks (compactTiles n))

def Fits (b : ConvBuffers) (total : ℕ) : ConvSpan 𝔽 → Prop
  | tokenParallel _ _ => Apart b.raw (total * gdnQkvChannels) b.output (total * gdnQkvChannels)
  | compactQk n _ _ compactQ compactK _ _ =>
    Apart b.raw (total * gdnQkvChannels) b.output (total * gdnQkvChannels) ∧ compactQ ≠ 0 ∧
      compactK ≠ 0 ∧
      SeparateCompact { b with compactQ := compactQ, compactK := compactK } n total
  | _ => True

def Scratch (a : ℕ) : ConvSpan 𝔽 → Prop
  | compactQk n _ _ compactQ compactK _ _ =>
    (compactQ ≤ a ∧ a < compactQ + compactLength n) ∨
      (compactK ≤ a ∧ a < compactK + compactLength n)
  | _ => False

end ConvSpan

section Launch

lemma separate_notAliased (hs : Separate b n) (hn : 1 ≤ n) : invalidAlias b = false := by
  have hrow := rows_pos hn
  have hrawWeight := hs.rawWeight.ne hrow (by decide)
  have hrawHistory := hs.rawHistory.ne hrow (by decide)
  have hweightHistory := hs.weightHistory.ne (by decide) (by decide)
  have houtputWeight := hs.outputWeight.ne hrow (by decide)
  have houtputHistory := hs.outputHistory.ne hrow (by decide)
  simp [invalidAlias, hrawWeight, hrawHistory, hweightHistory, houtputWeight.symm,
    houtputHistory.symm]

lemma compactArguments_valid {maximum : ℕ} {eps : 𝔽} (hnull : nullBuffer b = false)
    (hs : Separate b n) (hcompact : SeparateCompact b n n)
    (hdisjoint : Apart b.raw (n * gdnQkvChannels) b.output (n * gdnQkvChannels)) (hn : 1 ≤ n)
    (hmaximum : n ≤ maximum) (heps : ops.finitePositive eps = true) (hq : b.compactQ ≠ 0)
    (hk : b.compactK ≠ 0) : invalidCompactQkArguments ops b n maximum eps = false := by
  have hrow := rows_pos hn
  have hlength := compactLength_pos hn
  obtain ⟨hqk, hqr, hqw, hqh, hqo, hkr, hkw, hkh, hko⟩ := hcompact
  have hcount : ¬ (n = 0 ∨ maximum < n) := by omega
  simp [invalidCompactQkArguments, separate_notAliased hs hn, hnull, hq, hk, heps, hcount,
    hdisjoint.ne hrow hrow, hqk.ne hlength hlength, hqr.ne hlength hrow,
    hqw.ne hlength (by decide), hqh.ne hlength (by decide), hqo.ne hlength hrow,
    hkr.ne hlength hrow, hkw.ne hlength (by decide), hkh.ne hlength (by decide),
    hko.ne hlength hrow]

lemma span_launch {span : ConvSpan 𝔽} (hnull : nullBuffer b = false)
    (hs : Separate b span.tokenCount) (hadmitted : span.Admitted ops)
    (hfits : span.Fits b span.tokenCount) (d : Device) :
    ∃ d', span.launch ops b d = some d' ∧ ∀ a, ¬ span.Scratch a →
      d'.memory a = afterTokens ops b d.memory span.tokenCount a := by
  cases span with
  | update order =>
    have halias := separate_notAliased hs le_rfl
    refine ⟨_, ?_, fun a _ => congrFun (updateKernel_after hs hadmitted d) a⟩
    rw [ConvSpan.launch, launchCausalConv1dSiluUpdate, if_neg (by simp [hnull, halias])]
  | tile count order =>
    obtain ⟨hn, hmaximum, horder⟩ := hadmitted
    replace hs : Separate b count := hs
    have halias := separate_notAliased hs hn
    by_cases hone : count = 1
    · subst hone
      refine ⟨_, ?_, fun a _ => congrFun (updateKernel_after hs horder d) a⟩
      rw [ConvSpan.launch, launchCausalConv1dSiluUpdateTile, if_pos rfl,
        launchCausalConv1dSiluUpdate, if_neg (by simp [hnull, halias])]
    · have hcount : ¬ (count = 0 ∨ gdnMaximumTileTokenCount < count) := by omega
      refine ⟨_, ?_, fun a _ => congrFun (tileKernel_after hs horder d) a⟩
      rw [ConvSpan.launch, launchCausalConv1dSiluUpdateTile, if_neg hone,
        if_neg (by simp [hnull, halias, hcount])]
  | wholeSpan count order =>
    obtain ⟨hn, hmaximum, horder⟩ := hadmitted
    replace hs : Separate b count := hs
    have hcount : ¬ (count = 0 ∨ maximumTokenCount < count) := by omega
    refine ⟨_, ?_, fun a _ => congrFun (wholeSpanKernel_after hs horder d) a⟩
    rw [ConvSpan.launch, launchCausalConv1dSiluUpdateWholeSpan,
      if_neg (by simp [hnull, separate_notAliased hs hn, hcount])]
  | tokenParallel count order =>
    obtain ⟨hn, hmaximum, horder⟩ := hadmitted
    replace hs : Separate b count := hs
    have hcount : ¬ (count = 0 ∨ maximumTokenCount < count) := by omega
    have hne : b.raw ≠ b.output := Apart.ne hfits (rows_pos hn) (rows_pos hn)
    refine ⟨_, ?_, fun a _ => congrFun (tokenParallelKernel_after hs hfits hn horder d) a⟩
    rw [ConvSpan.launch, launchCausalConv1dSiluUpdateTokenParallel,
      if_neg (by simp [hnull, separate_notAliased hs hn, hcount, hne])]
  | compactQk count maximum eps q k stale order =>
    obtain ⟨hn, hmaximum, heps, horder⟩ := hadmitted
    obtain ⟨hdisjoint, hq, hk, hcompact⟩ := hfits
    have hs' : Separate { b with compactQ := q, compactK := k } count := ⟨hs.1, hs.2, hs.3, hs.4,
      hs.5, hs.6⟩
    have hvalid := @compactArguments_valid 𝔽 ops { b with compactQ := q, compactK := k } count maximum
      eps hnull hs' hcompact hdisjoint hn hmaximum heps hq hk
    have hmemory := @compactKernel_after 𝔽 ops { b with compactQ := q, compactK := k } count eps hs'
      hcompact hdisjoint hn order horder stale d
    refine ⟨runBlocks order (fun channelBlock tile =>
      causalConv1dSiluUpdateTokenParallelCompactQkKernel ops
        { b with compactQ := q, compactK := k } count eps (stale (channelBlock, tile)) channelBlock
          tile) d, ?_, fun a ha => ?_⟩
    · rw [ConvSpan.launch, launchCompactQkImpl, if_neg (by rw [hvalid]; decide)]
    · rw [hmemory]
      exact afterCompact_else ha

end Launch

section Spans

variable {spans : List (ConvSpan 𝔽)}

def totalCount (spans : List (ConvSpan 𝔽)) : ℕ := (spans.map ConvSpan.tokenCount).sum

-- Each span starts at the row where the one before it ends.
def runSpans (ops : FloatOps 𝔽) (b : ConvBuffers) : List (ConvSpan 𝔽) → Device → Option Device
  | [], device => some device
  | span :: spans, device =>
    (span.launch ops b device).bind (runSpans ops (b.rows span.tokenCount) spans)

lemma afterTokens_zero : afterTokens ops b m 0 = m := by
  funext a
  by_cases hhistory : ∃ c i, c < gdnQkvChannels ∧ i < 3 ∧
      a = b.history + (c * gdnConvHistoryWidth + i)
  · obtain ⟨c, i, hc, hi, rfl⟩ := hhistory
    have hlt := history_inside hc hi
    have hi' : i < gdnConvHistoryWidth := hi
    rw [afterTokens, if_neg (by omega), if_pos (by omega), Nat.add_sub_cancel_left, Nat.mul_comm c,
      Nat.mul_add_div (by decide), Nat.mul_add_mod, Nat.div_eq_of_lt hi', Nat.mod_eq_of_lt hi',
      Nat.add_zero, Nat.zero_add, sample_history hi, Nat.mul_comm]
  · exact afterTokens_else (fun t c ht => absurd ht (Nat.not_lt_zero t))
      fun c i hc hi heq => hhistory ⟨c, i, hc, hi, heq⟩

lemma fits_rows {span : ConvSpan 𝔽} (h : span.Fits b (n + k)) : span.Fits (b.rows n) k := by
  cases span with
  | tokenParallel count order =>
    exact Apart.inside h (Nat.le_add_right _ _) (rows_inside _) (Nat.le_add_right _ _)
      (rows_inside _)
  | compactQk count maximum eps q key stale order =>
    obtain ⟨hdisjoint, hq, hk, hcompact⟩ := h
    refine ⟨hdisjoint.inside (Nat.le_add_right _ _) (rows_inside _) (Nat.le_add_right _ _)
      (rows_inside _), hq, hk, ?_⟩
    exact
      { queryKey := hcompact.queryKey
        queryRaw := hcompact.queryRaw.inside le_rfl le_rfl (Nat.le_add_right _ _) (rows_inside _)
        queryWeight := hcompact.queryWeight
        queryHistory := hcompact.queryHistory
        queryOutput := hcompact.queryOutput.inside le_rfl le_rfl (Nat.le_add_right _ _)
          (rows_inside _)
        keyRaw := hcompact.keyRaw.inside le_rfl le_rfl (Nat.le_add_right _ _) (rows_inside _)
        keyWeight := hcompact.keyWeight
        keyHistory := hcompact.keyHistory
        keyOutput := hcompact.keyOutput.inside le_rfl le_rfl (Nat.le_add_right _ _)
          (rows_inside _) }
  | update | tile | wholeSpan => trivial

lemma fits_front {span : ConvSpan 𝔽} (h : span.Fits b (n + k)) : span.Fits b n := by
  have hle (p : ℕ) : p + n * gdnQkvChannels ≤ p + (n + k) * gdnQkvChannels :=
    Nat.add_le_add_left (Nat.mul_le_mul_right _ (Nat.le_add_right n k)) p
  cases span with
  | tokenParallel count order => exact Apart.inside h le_rfl (hle _) le_rfl (hle _)
  | compactQk count maximum eps q key stale order =>
    obtain ⟨hdisjoint, hq, hk, hcompact⟩ := h
    refine ⟨hdisjoint.inside le_rfl (hle _) le_rfl (hle _), hq, hk, ?_⟩
    exact
      { queryKey := hcompact.queryKey
        queryRaw := hcompact.queryRaw.inside le_rfl le_rfl le_rfl (hle _)
        queryWeight := hcompact.queryWeight
        queryHistory := hcompact.queryHistory
        queryOutput := hcompact.queryOutput.inside le_rfl le_rfl le_rfl (hle _)
        keyRaw := hcompact.keyRaw.inside le_rfl le_rfl le_rfl (hle _)
        keyWeight := hcompact.keyWeight
        keyHistory := hcompact.keyHistory
        keyOutput := hcompact.keyOutput.inside le_rfl le_rfl le_rfl (hle _) }
  | update | tile | wholeSpan => trivial

-- The tensors of the request are not scratch of a span.
lemma fits_seen {span : ConvSpan 𝔽} (h : span.Fits b n) {c a : ℕ} (hc : c < gdnQkvChannels)
    (ha : Seen b n c a ∨ Owned b n c a) : ¬ span.Scratch a := by
  cases span with
  | compactQk count maximum eps q key stale order =>
    obtain ⟨_, hqr, hqw, hqh, hqo, hkr, hkw, hkh, hko⟩ := h.2.2.2
    unfold Apart gdnQkvChannels gdnConvHistoryWidth gdnConvKernelWidth at *
    unfold ConvSpan.Scratch
    obtain (⟨t, ht, rfl⟩ | ⟨i, hi, rfl⟩ | ⟨i, hi, rfl⟩) | ⟨t, ht, rfl⟩ | ⟨i, hi, rfl⟩ := ha
    all_goals
      simp only [gdnQkvChannels, gdnConvHistoryWidth, gdnConvKernelWidth] at *
      omega
  | update | tile | wholeSpan | tokenParallel => exact id

lemma seen_rows {c a : ℕ} (h : Seen (b.rows n) k c a) : Seen b (n + k) c a := by
  obtain ⟨t, ht, rfl⟩ | hweight | hhistory := h
  · refine .inl ⟨n + t, by omega, ?_⟩
    simp only [ConvBuffers.rows, Nat.add_mul, Nat.add_assoc]
  · exact .inr (.inl hweight)
  · exact .inr (.inr hhistory)

lemma nullBuffer_rows (hnull : nullBuffer b = false) : nullBuffer (b.rows n) = false := by
  simp only [nullBuffer, decide_eq_false_iff_not, not_or] at hnull ⊢
  obtain ⟨hraw, hweight, hhistory, houtput⟩ := hnull
  exact ⟨Nat.ne_of_gt (Nat.add_pos_left (Nat.pos_of_ne_zero hraw) _), hweight, hhistory,
    Nat.ne_of_gt (Nat.add_pos_left (Nat.pos_of_ne_zero houtput) _)⟩

lemma runSpans_after (hnull : nullBuffer b = false) (hs : Separate b (totalCount spans))
    (hadmitted : ∀ span ∈ spans, span.Admitted ops)
    (hfits : ∀ span ∈ spans, span.Fits b (totalCount spans)) (d : Device) :
    ∃ d', runSpans ops b spans d = some d' ∧ ∀ a, (∀ span ∈ spans, ¬ span.Scratch a) →
      d'.memory a = afterTokens ops b d.memory (totalCount spans) a := by
  induction spans generalizing b d with
  | nil => exact ⟨d, rfl, fun a _ => (congrFun afterTokens_zero a).symm⟩
  | cons span spans ih =>
    have htotal : totalCount (span :: spans) = span.tokenCount + totalCount spans := by
      rw [totalCount, List.map_cons, List.sum_cons, totalCount]
    rw [htotal] at hs hfits ⊢
    obtain ⟨d₁, hfirst, hmemory₁⟩ := span_launch hnull (separate_front hs)
      (hadmitted span List.mem_cons_self) (fits_front (hfits span List.mem_cons_self)) d
    obtain ⟨d', hrest, hmemory⟩ := ih (nullBuffer_rows hnull) (separate_rows hs)
      (fun other hother => hadmitted other (List.mem_cons_of_mem span hother))
      (fun other hother => fits_rows (hfits other (List.mem_cons_of_mem span hother))) d₁
    refine ⟨d', by rw [runSpans, hfirst, Option.bind_some, hrest], fun a ha => ?_⟩
    rw [hmemory a fun other hother => ha other (List.mem_cons_of_mem span hother),
      ← afterTokens_add hs]
    refine @afterTokens_congr 𝔽 ops (b.rows span.tokenCount) _ (totalCount spans) _ span.Scratch
      hmemory₁ (fun c hc a hseen => ?_) a (ha span List.mem_cons_self)
    exact fits_seen (hfits span List.mem_cons_self) hc (.inl (seen_rows hseen))

-- The calls that take a token each.
def updates (orders : ℕ → List (ℕ × ℕ)) (n : ℕ) : List (ConvSpan 𝔽) :=
  (List.range n).map fun t => .update (orders t)

lemma totalCount_updates (orders : ℕ → List (ℕ × ℕ)) (n : ℕ) :
    totalCount (updates orders n : List (ConvSpan 𝔽)) = n := by
  simp [totalCount, updates, ConvSpan.tokenCount, Function.comp_def]

lemma updates_after {orders : ℕ → List (ℕ × ℕ)} (hnull : nullBuffer b = false) (hs : Separate b n)
    (horders : ∀ t < n, (orders t).Perm (grid blocks 1)) (d : Device) :
    ∃ d', runSpans ops b (updates orders n) d = some d' ∧
      d'.memory = afterTokens ops b d.memory n := by
  have hmem (span : ConvSpan 𝔽) (hspan : span ∈ updates orders n) :
      ∃ t < n, span = .update (orders t) := by
    obtain ⟨t, ht, rfl⟩ := List.mem_map.mp hspan
    exact ⟨t, List.mem_range.mp ht, rfl⟩
  have hcount := @totalCount_updates 𝔽 orders n
  obtain ⟨d', hrun, hmemory⟩ := @runSpans_after 𝔽 ops b (updates orders n) hnull (by rwa [hcount])
    (fun span hspan => by
      obtain ⟨t, ht, rfl⟩ := hmem span hspan
      exact horders t ht)
    (fun span hspan => by
      obtain ⟨t, ht, rfl⟩ := hmem span hspan
      trivial) d
  rw [hcount] at hmemory
  refine ⟨d', hrun, funext fun a => hmemory a fun span hspan => ?_⟩
  obtain ⟨t, ht, rfl⟩ := hmem span hspan
  exact id

end Spans

section Agreement

instance (p length q length' : ℕ) : Decidable (Apart p length q length') :=
  inferInstanceAs (Decidable (_ ∨ _))

-- What a span of the kernel that fills the compact heads leaves in one of them.
def CompactHolds (ops : FloatOps 𝔽) (b : ConvBuffers) (n : ℕ)
    (normalize : (ℕ → 𝔽) → ℕ → 𝔽) (compact firstChannel : ℕ) (memory : ℕ → UInt16) : Prop :=
  ∀ token head dim, token < paddedTokenCount n → head < qkHeadCount → dim < qkHeadDimension →
    memory (compact + (compactDestination token head + dim)) = ops.encodeBf16 (normalize
      (fun k => if token < n then ops.decodeBf16 (memory (b.output + (token * gdnQkvChannels +
        (firstChannel + head * qkHeadDimension + k)))) else ops.zero) dim)

lemma compactElement_holds {compact : ℕ} {eps : 𝔽} {ownsQ : Prop} [Decidable ownsQ]
    {memory : ℕ → UInt16}
    (hcompact : ∀ i < compactLength n, memory (compact + i) = compactElement ops b m n eps ownsQ i)
    (houtput : ∀ t < n, ∀ c < gdnQkvChannels,
      memory (b.output + (t * gdnQkvChannels + c)) = convolved ops b m t c) :
    CompactHolds ops b n (fun values dim =>
      if ownsQ then normalizedQ ops eps values dim else normalizedK ops eps values dim) compact
      (if ownsQ then 0 else qkHeadCount * qkHeadDimension) memory := by
  intro token head dim htoken hhead hdim
  obtain ⟨hsame, hsameHead, hsameDim⟩ := @compactDestination_decodes token head dim hhead hdim
  rw [hcompact _ (compactDestination_lt htoken hhead hdim), compactElement, hsame, hsameHead,
    hsameDim]
  refine normalized_congr (fun k hk => ?_) hdim
  rw [convolvedRow]
  by_cases hreal : token < n
  · have hc : (if ownsQ then 0 else qkHeadCount * qkHeadDimension) + head * qkHeadDimension + k <
        gdnQkvChannels := by
      unfold qkHeadCount qkHeadDimension gdnQkvChannels at *
      split_ifs <;> omega
    rw [if_pos hreal, if_pos hreal, houtput token hreal _ hc]
  · rw [if_neg hreal, if_neg hreal]

structure CompactFills (ops : FloatOps 𝔽) (b : ConvBuffers) (n : ℕ) (eps : 𝔽) (compactQ compactK : ℕ)
    (r : Device) (l : List Access) : Prop where
  queries : CompactHolds ops b n (normalizedQ ops eps) compactQ 0 r.memory
  keys : CompactHolds ops b n (normalizedK ops eps) compactK (qkHeadCount * qkHeadDimension)
    r.memory
  queriesOnce : (writesTo compactQ l).Perm (List.range (compactLength n))
  keysOnce : (writesTo compactK l).Perm (List.range (compactLength n))
  rawReads : ∀ i, .read b.raw i ∈ l → i < n * gdnQkvChannels

lemma compactSpan_fills {maximum : ℕ} {eps : 𝔽} {q key : ℕ} {stale : ℕ × ℕ → ℕ → UInt16}
    {order : List (ℕ × ℕ)} (hnull : nullBuffer b = false) (hs : Separate b n)
    (hadmitted : (ConvSpan.compactQk n maximum eps q key stale order).Admitted ops)
    (hfits : (ConvSpan.compactQk n maximum eps q key stale order).Fits b n) (d : Device) :
    ∃ r l, (ConvSpan.compactQk n maximum eps q key stale order).launch ops b d = some r ∧
      r.log = d.log ++ l ∧ CompactFills ops b n eps q key r l := by
  obtain ⟨hn, hmaximum, heps, horder⟩ := hadmitted
  obtain ⟨hdisjoint, hq, hk, hcompact⟩ := hfits
  have hs' : Separate { b with compactQ := q, compactK := key } n :=
    ⟨hs.1, hs.2, hs.3, hs.4, hs.5, hs.6⟩
  have hvalid := @compactArguments_valid 𝔽 ops { b with compactQ := q, compactK := key } n maximum
    eps hnull hs' hcompact hdisjoint hn hmaximum heps hq hk
  have hmemory := @compactKernel_after 𝔽 ops { b with compactQ := q, compactK := key } n eps hs'
    hcompact hdisjoint hn order horder stale d
  obtain ⟨l, hlog, hreads, hqueries, hkeys⟩ :=
    @compactKernel_log 𝔽 ops { b with compactQ := q, compactK := key } n eps hcompact hn order
      (fun p hp => (mem_grid.mp (horder.mem_iff.mp hp)).1) stale d
  have houtput (t : ℕ) (ht : t < n) (c : ℕ) (hc : c < gdnQkvChannels) :
      afterCompact ops { b with compactQ := q, compactK := key } d.memory n eps
        (b.output + (t * gdnQkvChannels + c)) =
          convolved ops { b with compactQ := q, compactK := key } d.memory t c := by
    rw [afterCompact_else ?_, ← @afterTokens_output 𝔽 ops
      { b with compactQ := q, compactK := key } d.memory n t c ht hc]
    obtain ⟨_, _, _, _, hqo, _, _, _, hko⟩ := hcompact
    unfold Apart gdnQkvChannels at *
    unfold InCompact
    dsimp only at *
    omega
  refine ⟨_, l, by rw [ConvSpan.launch, launchCompactQkImpl, if_neg (by rw [hvalid]; decide)],
    hlog, ?_, ?_, ?_, ?_, fun i hi => ?_⟩
  · rw [hmemory]
    exact @compactElement_holds 𝔽 ops { b with compactQ := q, compactK := key } d.memory n q eps
      True _ _ (fun i hi => afterCompact_query hi) houtput
  · rw [hmemory]
    exact @compactElement_holds 𝔽 ops { b with compactQ := q, compactK := key } d.memory n key eps
      False _ _ (fun i hi => afterCompact_key hcompact hi) houtput
  · rw [hqueries]
    exact launchIndices_perm horder (.inl rfl)
  · rw [hkeys]
    exact launchIndices_perm horder (.inr rfl)
  · obtain ⟨-, h⟩ | ⟨h, -⟩ | ⟨h, -⟩ := hreads _ i hi
    · exact h
    · exact absurd h (hs.rawWeight.ne (rows_pos hn) (by decide))
    · exact absurd h (hs.rawHistory.ne (rows_pos hn) (by decide))

-- The same output rows, the same history, and the same of everything but scratch.
structure SpansAgree (b : ConvBuffers) (spans : List (ConvSpan 𝔽)) (memory memory' : ℕ → UInt16) :
    Prop where
  output : ∀ t < totalCount spans, ∀ c < gdnQkvChannels,
    memory (b.output + (t * gdnQkvChannels + c)) = memory' (b.output + (t * gdnQkvChannels + c))
  history : ∀ c < gdnQkvChannels, ∀ k < gdnConvHistoryWidth,
    memory (b.history + (c * gdnConvHistoryWidth + k)) =
      memory' (b.history + (c * gdnConvHistoryWidth + k))
  elsewhere : ∀ a, (∀ span ∈ spans, ¬ span.Scratch a) → memory a = memory' a

lemma totalCount_split (before after : List (ConvSpan 𝔽)) (span : ConvSpan 𝔽) :
    totalCount (before ++ span :: after) =
      totalCount before + (span.tokenCount + totalCount after) := by
  simp only [totalCount, List.map_append, List.map_cons, List.sum_append, List.sum_cons]

-- Any cutting of a prompt into spans leaves what one token after another leaves, and each span that
-- fills the compact heads fills them once from its own rows.
theorem convolution_variants_agree {𝔽 : Type} (ops : FloatOps 𝔽) (b : ConvBuffers)
    (spans : List (ConvSpan 𝔽)) (orders : ℕ → List (ℕ × ℕ)) (d : Device)
    (hnull : nullBuffer b = false) (hs : Separate b (totalCount spans))
    (hadmitted : ∀ span ∈ spans, span.Admitted ops)
    (hfits : ∀ span ∈ spans, span.Fits b (totalCount spans))
    (horders : ∀ t < totalCount spans, (orders t).Perm (grid blocks 1)) :
    (∃ d' e, runSpans ops b spans d = some d' ∧
      runSpans ops b (updates orders (totalCount spans)) d = some e ∧
        SpansAgree b spans d'.memory e.memory) ∧
    ∀ before after n maximum eps compactQ compactK stale order,
      spans = before ++ .compactQk n maximum eps compactQ compactK stale order :: after →
      ∀ d₀ : Device, ∃ r l,
        (ConvSpan.compactQk n maximum eps compactQ compactK stale order).launch ops
          (b.rows (totalCount before)) d₀ = some r ∧ r.log = d₀.log ++ l ∧
        CompactFills ops (b.rows (totalCount before)) n eps compactQ compactK r l := by
  obtain ⟨d', hrun, hmemory⟩ := runSpans_after hnull hs hadmitted hfits d
  obtain ⟨e, hupdates, hmemory'⟩ := @updates_after 𝔽 ops b _ orders hnull hs horders d
  refine ⟨⟨d', e, hrun, hupdates, ?_⟩, ?_⟩
  · have hsame (a : ℕ) (ha : ∀ span ∈ spans, ¬ span.Scratch a) : d'.memory a = e.memory a := by
      rw [hmemory a ha, hmemory']
    refine ⟨fun t ht c hc => hsame _ fun span hspan => ?_, fun c hc k hk => hsame _
      fun span hspan => ?_, hsame⟩
    · exact fits_seen (hfits span hspan) hc (.inr (.inl ⟨t, ht, rfl⟩))
    · exact fits_seen (hfits span hspan) hc (.inr (.inr ⟨k, hk, rfl⟩))
  · rintro before after n maximum eps compactQ compactK stale order rfl d₀
    rw [totalCount_split] at hs hfits
    have hmem : ConvSpan.compactQk n maximum eps compactQ compactK stale order ∈
        before ++ .compactQk n maximum eps compactQ compactK stale order :: after := by simp
    refine compactSpan_fills ?_ (separate_front (separate_rows hs)) (hadmitted _ hmem)
      (fits_front (fits_rows (hfits _ hmem))) d₀
    exact nullBuffer_rows hnull

def integerOps : FloatOps ℤ where
  decodeBf16 bits := bits.toNat
  encodeBf16 value := UInt16.ofNat value.toNat
  zero := 0
  one := 1
  headDimension := 128
  fmaf x y z := x * y + z
  add x y := x + y
  mul x y := x * y
  div x y := x / y
  neg x := -x
  expf x := x
  rsqrtf x := x
  finitePositive x := decide (0 < x)

def convBuffers : ConvBuffers where
  raw := 1
  weight := 200000
  history := 300000
  output := 400000

def nineAndTwo : List (ConvSpan ℤ) :=
  [.compactQk 9 maximumTokenCount 1 600000 800000 (fun _ _ => 0) (grid blocks (compactTiles 9)),
    .tile 2 (grid blocks 1)]

def countedDevice : Device where
  memory := UInt16.ofNat

theorem nine_and_two_tokens_agree :
    (∃ d' e, runSpans integerOps convBuffers nineAndTwo countedDevice = some d' ∧
      runSpans integerOps convBuffers (updates (fun _ => grid blocks 1) 11) countedDevice =
          some e ∧
        SpansAgree convBuffers nineAndTwo d'.memory e.memory) := by
  have hseparate : Separate convBuffers 11 :=
    ⟨by decide, by decide, by decide, by decide, by decide, .inr (by decide)⟩
  have hdisjoint : Apart convBuffers.raw (11 * gdnQkvChannels) convBuffers.output
    (11 * gdnQkvChannels) := by decide
  have hcompact : SeparateCompact { convBuffers with compactQ := 600000, compactK := 800000 } 9 11 :=
    ⟨by decide, by decide, by decide, by decide, by decide, by decide, by decide, by decide,
      by decide⟩
  refine (convolution_variants_agree integerOps convBuffers nineAndTwo (fun _ => grid blocks 1)
    countedDevice (by decide) hseparate (List.forall_mem_cons.mpr ⟨?_, List.forall_mem_singleton.mpr ?_⟩)
    (List.forall_mem_cons.mpr ⟨?_, List.forall_mem_singleton.mpr ?_⟩) fun _ _ => .refl _).1
  · exact ⟨by decide, by decide, by decide, .refl _⟩
  · exact ⟨by decide, by decide, .refl _⟩
  · exact ⟨hdisjoint, by decide, by decide, hcompact⟩
  · trivial

end Agreement

end Qwen3xOrin.Gdn
